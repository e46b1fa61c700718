import Mathlib

/-!
# Amounts of a line

Points of a line are natural numbers: ticks of a clock, bytes of a page. `amount p a b` is how many of
those from `a` on and below `b` have a property. What is measured piece by piece adds up
(`amount_add`), and a piece on which the property does not change counts whole or not at all.
-/

namespace War3VK.Lib

variable {p q : ℕ → Prop} [DecidablePred p] [DecidablePred q] {a b c : ℕ}

/-- How many points from `a` on and below `b` have a property. -/
def amount (p : ℕ → Prop) [DecidablePred p] (a b : ℕ) : ℕ := ((Finset.Ico a b).filter p).card

@[simp]
theorem amount_self : amount p a a = 0 := by
  unfold amount
  rw [Finset.Ico_self, Finset.filter_empty, Finset.card_empty]

theorem amount_add (hab : a ≤ b) (hbc : b ≤ c) : amount p a b + amount p b c = amount p a c := by
  unfold amount
  rw [← Finset.Ico_union_Ico_eq_Ico hab hbc, Finset.filter_union, Finset.card_union_of_disjoint]
  exact Finset.disjoint_filter_filter (Finset.Ico_disjoint_Ico_consecutive a b c)

theorem amount_congr (h : ∀ n, a ≤ n → n < b → (p n ↔ q n)) : amount p a b = amount q a b := by
  unfold amount
  refine congrArg Finset.card (Finset.filter_congr fun n hn => ?_)
  rw [Finset.mem_Ico] at hn
  exact h n hn.1 hn.2

/-- If all points have the property, the whole piece counts. -/
theorem amount_of_forall (h : ∀ n, a ≤ n → n < b → p n) : amount p a b = b - a := by
  unfold amount
  rw [Finset.filter_true_of_mem fun n hn => ?_, Nat.card_Ico]
  rw [Finset.mem_Ico] at hn
  exact h n hn.1 hn.2

theorem amount_of_not (h : ∀ n, a ≤ n → n < b → ¬p n) : amount p a b = 0 := by
  unfold amount
  rw [Finset.filter_false_of_mem fun n hn => ?_, Finset.card_empty]
  rw [Finset.mem_Ico] at hn
  exact h n hn.1 hn.2

/-- A piece on which the property does not change. -/
theorem amount_of_iff {r : Prop} [Decidable r] (h : ∀ n, a ≤ n → n < b → (p n ↔ r)) :
    amount p a b = if r then b - a else 0 := by
  split
  · rename_i hr
    exact amount_of_forall fun n hn hn' => (h n hn hn').mpr hr
  · rename_i hr
    exact amount_of_not fun n hn hn' => mt (h n hn hn').mp hr

theorem amount_le : amount p a b ≤ b - a := by
  calc amount p a b ≤ (Finset.Ico a b).card := Finset.card_filter_le _ _
    _ = b - a := Nat.card_Ico a b

/-- One more piece on which the property does not change. -/
theorem amount_extend {r : Prop} [Decidable r] (hab : a ≤ b) (hbc : b ≤ c)
    (h : ∀ n, b ≤ n → n < c → (p n ↔ r)) :
    amount p a c = amount p a b + if r then c - b else 0 := by
  rw [← amount_add hab hbc, amount_of_iff h]

end War3VK.Lib
