import Mathlib.Data.Nat.Bitwise

/-!
# Masks and sums of words

A mask of small numbers, with the test and the mark of one of them as sources write them, and their test
for the overflow of a sum.
-/

namespace War3VK.Lib

theorem and_bit_ne_zero (mask slot : ℕ) : mask &&& 1 <<< slot ≠ 0 ↔ mask.testBit slot = true := by
  rw [Nat.one_shiftLeft, Nat.and_two_pow]
  cases mask.testBit slot <;> simp

theorem testBit_or_bit (mask slot i : ℕ) :
    (mask ||| 1 <<< slot).testBit i = (mask.testBit i || decide (slot = i)) := by
  rw [Nat.testBit_or, Nat.one_shiftLeft, Nat.testBit_two_pow]

theorem max_sub_lt_iff (a b : UInt64) :
    0xffffffffffffffff - a < b ↔ 2 ^ 64 ≤ a.toNat + b.toNat := by
  have ha := a.toNat_lt
  have hroom : (0xffffffffffffffff - a : UInt64).toNat = 2 ^ 64 - 1 - a.toNat := by
    rw [UInt64.toNat_sub]
    simp only [UInt64.reduceToNat]
    omega
  rw [UInt64.lt_iff_toNat_lt, hroom]
  omega

end War3VK.Lib
