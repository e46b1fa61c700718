import Mathlib

/-!
# Comparisons of binary32 words

The words of 32 bits as floating-point numbers, as far as comparisons read them. A word has a sign and a
magnitude, and where the magnitude is above that of an infinity it is not a number: it differs from
every word, itself included, and is neither less nor greater. The others are ordered by `key`, where
both zeros are one.
-/

namespace War3VK.Lib.Binary32

/-- All bits but the sign. -/
def magnitude (word : UInt32) : ℕ := word.toNat % 2 ^ 31

/-- The sign. -/
def negative (word : UInt32) : Bool := 2 ^ 31 ≤ word.toNat

/-- The word is not a number. -/
def isNaN (word : UInt32) : Bool := 0x7f800000 < magnitude word

/-- The place of a number among the numbers. -/
def key (word : UInt32) : ℤ := if negative word then -(magnitude word : ℤ) else magnitude word

/-- The comparison `<`. -/
def lt (a b : UInt32) : Bool := !isNaN a && !isNaN b && key a < key b

/-- The comparison `<=`. -/
def le (a b : UInt32) : Bool := !isNaN a && !isNaN b && key a ≤ key b

/-- The word is a number and not an infinity. -/
def isFinite (word : UInt32) : Bool := magnitude word < 0x7f800000

/-- The comparison `!=`. -/
def ne (a b : UInt32) : Bool := isNaN a || isNaN b || key a ≠ key b

/-- The comparison `==`. -/
def eq (a b : UInt32) : Bool := !ne a b

variable {a b c : UInt32}

/-- What is not a number differs from every word. -/
theorem ne_of_isNaN (h : isNaN a = true ∨ isNaN b = true) : ne a b = true := by
  unfold ne
  rcases h with h | h <;> simp [h]

theorem lt_of_isNaN (h : isNaN a = true ∨ isNaN b = true) : lt a b = false := by
  unfold lt
  rcases h with h | h <;> simp [h]

theorem ne_iff (ha : isNaN a = false) (hb : isNaN b = false) : ne a b = true ↔ key a ≠ key b := by
  simp [ne, ha, hb]

theorem lt_iff (ha : isNaN a = false) (hb : isNaN b = false) : lt a b = true ↔ key a < key b := by
  simp [lt, ha, hb]

theorem isNaN_of_isFinite (h : isFinite a = true) : isNaN a = false := by
  unfold isFinite at h
  unfold isNaN
  rw [decide_eq_true_eq] at h
  rw [decide_eq_false_iff_not]
  omega

/-- Of two numbers one is less or the other is less or equal. -/
theorem lt_eq_not_le (ha : isNaN a = false) (hb : isNaN b = false) : lt a b = !le b a := by
  cases hle : le b a with
  | true => simp_all [lt, le]
  | false => simp_all [lt, le]

/-- Words are equal when they are numbers of one place. -/
theorem eq_iff : eq a b = true ↔ isNaN a = false ∧ isNaN b = false ∧ key a = key b := by
  simp [eq, ne, and_assoc]

/-- Of two equal words the second is equal to the first. -/
theorem eq_symm (h : eq a b = true) : eq b a = true := by
  rw [eq_iff] at h ⊢
  exact ⟨h.2.1, h.1, h.2.2.symm⟩

theorem eq_trans (h : eq a b = true) (k : eq b c = true) : eq a c = true := by
  rw [eq_iff] at h k ⊢
  exact ⟨h.1, k.2.1, h.2.2.trans k.2.2⟩

/-- A word is equal to one that it does not differ from. -/
theorem eq_of_not_ne (h : ¬ne a b = true) : eq a b = true := by
  simpa [eq] using h

end War3VK.Lib.Binary32
