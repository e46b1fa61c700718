import Mathlib.Data.Nat.Digits.Lemmas

/-!
# Decimal texts

The bytes of a number in decimal, without leading zeros, and what a reader of digits makes of them. A
reader that gives up above a limit reads just the numbers up to the limit.
-/

namespace War3VK.Lib.Decimal

/-- The byte of a digit. -/
def digitByte (d : ℕ) : UInt8 := (48 + d).toUInt8

/-- The byte is a digit. -/
def isDigit (c : UInt8) : Bool := 48 ≤ c && c ≤ 57

/-- The decimal text of a number. -/
def text (n : ℕ) : List UInt8 :=
  if n = 0 then [48] else ((Nat.digits 10 n).map digitByte).reverse

/-- The number that digits continue. -/
def value (start : ℕ) (digits : List UInt8) : ℕ :=
  digits.foldl (fun v c => v * 10 + (c.toNat - 48)) start

/-- The byte of a digit is its number above that of zero. -/
theorem toNat_digitByte {d : ℕ} (h : d < 10) : (digitByte d).toNat = 48 + d := by
  rw [digitByte, Nat.toUInt8, UInt8.toNat_ofNat']
  omega

theorem isDigit_digitByte {d : ℕ} (h : d < 10) : isDigit (digitByte d) = true := by
  have hd := toNat_digitByte h
  simp only [isDigit, Bool.and_eq_true, decide_eq_true_eq, UInt8.le_iff_toNat_le, hd]
  exact ⟨by simp, by simp; omega⟩

theorem isDigit_of_mem_text {n : ℕ} {c : UInt8} (h : c ∈ text n) : isDigit c = true := by
  unfold text at h
  split at h
  · rw [List.mem_singleton.mp h]
    rfl
  · rw [List.mem_reverse, List.mem_map] at h
    obtain ⟨d, hd, rfl⟩ := h
    exact isDigit_digitByte (Nat.digits_lt_base (by omega) hd)

/-- The text of a positive number begins with a digit that is not zero. -/
theorem text_eq_cons {n : ℕ} (h : n ≠ 0) : ∃ c rest, text n = c :: rest ∧ c ≠ 48 := by
  have hne : Nat.digits 10 n ≠ [] := Nat.digits_ne_nil_iff_ne_zero.mpr h
  have hlast := Nat.getLast_digit_ne_zero 10 h
  refine ⟨digitByte ((Nat.digits 10 n).getLast hne), (((Nat.digits 10 n).dropLast).map digitByte).reverse,
    ?_, fun hzero => ?_⟩
  · conv_lhs => rw [text, if_neg h, ← List.dropLast_append_getLast hne]
    simp
  · have hnat := congrArg UInt8.toNat hzero
    rw [toNat_digitByte (Nat.digits_lt_base (by omega) (List.getLast_mem hne))] at hnat
    exact hlast (by simpa using hnat)

/-- A number below a power of ten has at most that many digits. -/
theorem length_text_le {n k : ℕ} (hk : 0 < k) (h : n < 10 ^ k) : (text n).length ≤ k := by
  unfold text
  split
  · exact hk
  · rw [List.length_reverse, List.length_map]
    exact (Nat.digits_length_le_iff (by omega) n).mpr h

theorem value_text (n : ℕ) : value 0 (text n) = n := by
  unfold text
  split
  · rename_i h
    rw [h]
    rfl
  · rw [value, List.foldl_reverse, List.foldr_map]
    -- Each digit is read as itself.
    have hread : ∀ l : List ℕ, (∀ d ∈ l, d < 10) →
        l.foldr (fun d v => v * 10 + ((digitByte d).toNat - 48)) 0 = Nat.ofDigits 10 l := by
      intro l hl
      induction l with
      | nil => rfl
      | cons d l ih =>
        rw [List.foldr_cons, ih fun d hd => hl d (List.mem_cons_of_mem _ hd), Nat.ofDigits_cons,
          toNat_digitByte (hl d List.mem_cons_self)]
        omega
    rw [hread _ fun d hd => Nat.digits_lt_base (by omega) hd, Nat.ofDigits_digits]

theorem le_value (start : ℕ) (digits : List UInt8) : start ≤ value start digits := by
  induction digits generalizing start with
  | nil => exact Nat.le_refl _
  | cons c digits ih =>
    refine Nat.le_trans ?_ (ih (start * 10 + (c.toNat - 48)))
    omega

end War3VK.Lib.Decimal
