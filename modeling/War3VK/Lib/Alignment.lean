import Mathlib.Tactic

/-!
# Alignment by masks

The first multiple of a power of two from a place on, as C code computes it: add the power less one,
and clear the low bits.
-/

namespace War3VK.Lib

/-- `(x + a - 1) & ~(a - 1)`. -/
def alignUp (x a : UInt64) : UInt64 := (x + a - 1) &&& ~~~(a - 1)

/-- `a & (a - 1)` is zero for powers of two only. -/
theorem isPowerOfTwo_of_and_sub_one {a : ℕ} (ha : a ≠ 0) (h : a &&& (a - 1) = 0) :
    ∃ k, a = 2^k :=
  (Nat.and_sub_one_eq_zero_iff_isPowerOfTwo ha).mp h

/-- Clearing the low `k` bits of a number of 64 bits. -/
theorem and_not_low (x k : ℕ) (hx : x < 2^64) (hk : k ≤ 64) :
    x &&& (2^64 - 1 - (2^k - 1)) = 2^k * (x / 2^k) := by
  have hpow : 2^k ≤ 2^64 := Nat.pow_le_pow_right (by decide) hk
  have hpos : 0 < 2^k := Nat.two_pow_pos k
  apply Nat.eq_of_testBit_eq
  intro i
  have hmask : 2^64 - 1 - (2^k - 1) = 2^64 - ((2^k - 1) + 1) := by omega
  rw [Nat.testBit_and, hmask, Nat.testBit_two_pow_sub_succ (by omega), Nat.testBit_two_pow_sub_one,
    Nat.mul_comm, ← Nat.shiftLeft_eq, Nat.testBit_shiftLeft, Nat.testBit_div_two_pow]
  rcases Nat.lt_or_ge i k with hi | hi
  · simp [hi]
  · rw [Nat.sub_add_cancel hi]
    rcases Nat.lt_or_ge i 64 with h64 | h64
    · simp [hi, h64, Nat.not_lt.mpr hi]
    · have hbit : x.testBit i = false :=
        Nat.testBit_lt_two_pow (hx.trans_le (Nat.pow_le_pow_right (by decide) h64))
      simp [hbit]

/-- What `alignUp` computes is a multiple of a power of two, and the first one from its argument on. -/
theorem alignUp_spec {x a : UInt64} {k : ℕ} (ha : a.toNat = 2^k)
    (hsum : x.toNat + a.toNat ≤ 2^64) :
    2^k ∣ (alignUp x a).toNat ∧ x.toNat ≤ (alignUp x a).toNat ∧ (alignUp x a).toNat < x.toNat + 2^k := by
  have hpos : 0 < 2^k := Nat.two_pow_pos k
  have hk : k ≤ 64 := (Nat.pow_le_pow_iff_right (a := 2) (by decide)).mp (by omega)
  have hone : (1 : UInt64).toNat = 1 := rfl
  have hle : (1 : UInt64) ≤ a := by
    rw [UInt64.le_iff_toNat_le]
    omega
  have hsub : (a - 1).toNat = 2^k - 1 := by
    rw [UInt64.toNat_sub_of_le _ _ hle, ha, hone]
  have hadd : (x + a - 1).toNat = x.toNat + 2^k - 1 := by
    rw [UInt64.toNat_sub, UInt64.toNat_add, ha, hone]
    omega
  have hvalue : (alignUp x a).toNat = 2^k * ((x.toNat + 2^k - 1) / 2^k) := by
    rw [alignUp, UInt64.toNat_and, UInt64.toNat_not, hsub, hadd]
    exact and_not_low _ k (by omega) hk
  have hdiv := Nat.div_add_mod (x.toNat + 2^k - 1) (2^k)
  have hmod := Nat.mod_lt (x.toNat + 2^k - 1) hpos
  rw [hvalue]
  exact ⟨Nat.dvd_mul_right _ _, by omega, by omega⟩

end War3VK.Lib
