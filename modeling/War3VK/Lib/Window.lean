import Mathlib.Algebra.BigOperators.Group.Finset.Basic
import Mathlib.Data.Fintype.BigOperators
import Mathlib.Tactic

/-!
# Positions of a ring, and counts over processes

A ring of size `p` keeps position `m` in slot `m % p`. Any `p` consecutive positions take each slot
once: different ones have different slots (`mod_ne_of_lt`), and every slot has one (`exists_window`).
-/

namespace War3VK.Lib

variable {p : ℕ}

/-- Two numbers less than `p` apart have different remainders. -/
theorem mod_ne_of_lt {a b : ℕ} (hab : a < b) (hb : b < a + p) : a % p ≠ b % p := by
  intro h
  have hdvd : p ∣ b - a := (Nat.modEq_iff_dvd' hab.le).mp h
  have hle := Nat.le_of_dvd (by omega) hdvd
  omega

/-- Different positions of a window have different slots. -/
theorem window_ne {r a b : ℕ} (ha : r ≤ a) (ha' : a < r + p) (hb : r ≤ b) (hb' : b < r + p)
    (h : a ≠ b) : a % p ≠ b % p := by
  rcases Nat.lt_or_gt_of_ne h with hlt | hgt
  · exact mod_ne_of_lt hlt (by omega)
  · exact (mod_ne_of_lt hgt (by omega)).symm

theorem exists_window (hp : 0 < p) (r m : ℕ) : ∃ q, r ≤ q ∧ q < r + p ∧ q % p = m % p := by
  have hm := Nat.mod_lt m hp
  have hr := Nat.mod_lt r hp
  have hdiv := Nat.div_add_mod r p
  rcases Nat.lt_or_ge (m % p) (r % p) with hlt | hge
  · refine ⟨p * (r / p + 1) + m % p, ?_, ?_, ?_⟩
    · rw [Nat.mul_add]
      omega
    · rw [Nat.mul_add]
      omega
    · rw [Nat.mul_add_mod, Nat.mod_eq_of_lt hm]
  · refine ⟨p * (r / p) + m % p, by omega, by omega, ?_⟩
    rw [Nat.mul_add_mod, Nat.mod_eq_of_lt hm]

/-- When one process moves, a count over all of them changes by its contribution. -/
theorem sum_update {ι α : Type} [Fintype ι] [DecidableEq ι] (f : α → ℕ) (g : ι → α) (i : ι)
    (a : α) : (∑ j, f (Function.update g i a j)) + f (g i) = (∑ j, f (g j)) + f a := by
  have hrest : ∑ j ∈ Finset.univ.erase i, f (Function.update g i a j) =
      ∑ j ∈ Finset.univ.erase i, f (g j) :=
    Finset.sum_congr rfl fun j hj => by rw [Function.update_of_ne (Finset.ne_of_mem_erase hj)]
  rw [← Finset.add_sum_erase _ _ (Finset.mem_univ i), hrest, Function.update_self,
    ← Finset.add_sum_erase _ (fun j => f (g j)) (Finset.mem_univ i)]
  omega

end War3VK.Lib
