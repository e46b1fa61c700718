import Mathlib.Algebra.Order.BigOperators.Group.List
import Mathlib.Data.List.Perm.Basic
import War3VK.Japi.RequestText
import War3VK.Japi.TypedTransport

/-!
# The two planes of the script interface

A command can be given as writes of the typed plane or as a text of the string plane. The text of a list
of values has them in the order of the slots.
-/

namespace War3VK.Japi

open Lib

def decimal (n : Int32) : List UInt8 :=
  if n < 0 then byte '-' :: Decimal.text n.toInt.natAbs else Decimal.text n.toInt.natAbs

/-- The tag of a value: that of its slot where an integer can have it. -/
def wireTag (declared : Option Char) : Written → Char
  | .integer _ => if declared = some 'b' then 'b' else if declared = some 'd' then 'd' else 'i'
  | .real _ => 'r'

def wireToken (toChars : UInt32 → List UInt8) (declared : Option Char) (value : Written) : List UInt8 :=
  byte (wireTag declared value) :: byte ':' ::
    match value with
    | .integer n => decimal n
    | .real x => toChars x

/-- The request text with these arguments, in the order of the slots. -/
def requestText (toChars : UInt32 → List UInt8) (spec : CommandSpec) (values : List Written) :
    List UInt8 :=
  kProtocolPrefix ++ [byte ';'].intercalate
    (kCanonicalVersion :: bytes spec.name ::
      values.mapIdx fun slot value => wireToken toChars spec.types[slot]? value)

/-- What `std::to_chars` and `std::from_chars` promise of a float: the text of a finite one is a short
strict real that is read back, that of another is none. -/
structure Converts (fromChars : List UInt8 → FromChars) (toChars : UInt32 → List UInt8) (x : UInt32) :
    Prop where
  finite : isfinite x = true → isStrictRealSyntax (toChars x) = true ∧
    fromChars (toChars x) = ⟨.ok x, (toChars x).length⟩
  other : isfinite x = false → isStrictRealSyntax (toChars x) = false
  short : (toChars x).length ≤ 24
  plain : ∀ c ∈ toChars x, 0x20 ≤ c ∧ c < 0x7f ∧ c ≠ byte ';'

/-! ## Integers -/

theorem parseDigits_eq (limit : ℕ) {digits : List UInt8} (hdigits : ∀ c ∈ digits, Decimal.isDigit c = true)
    {start : ℕ} (h : start ≤ limit) :
    parseDigits limit start digits =
      if Decimal.value start digits ≤ limit then .ok (Decimal.value start digits) else .outOfRange := by
  induction digits generalizing start with
  | nil => exact (if_pos h).symm
  | cons c digits ih =>
    have hc : isAsciiDigit c = true := hdigits c List.mem_cons_self
    have hzero : (byte '0').toNat = 48 := rfl
    have hvalue : Decimal.value start (c :: digits) =
        Decimal.value (start * 10 + (c.toNat - 48)) digits := rfl
    rw [parseDigits, hc, hvalue, hzero]
    simp only [Bool.not_true, Bool.false_eq_true, if_false]
    by_cases hlimit : limit < start * 10 + (c.toNat - 48)
    · have hle := Decimal.le_value (start * 10 + (c.toNat - 48)) digits
      rw [if_pos hlimit, if_neg (by omega)]
    · rw [if_neg hlimit, ih (fun c hc => hdigits c (List.mem_cons_of_mem _ hc)) (by omega)]

theorem parseUnsigned_text (negative : Bool) {n : ℕ} (hzero : negative = true → n ≠ 0)
    (hlimit : n ≤ if negative then 2147483648 else 2147483647) :
    parseUnsigned negative (Decimal.text n) = signed negative (.ok n) := by
  by_cases hn : n = 0
  · subst hn
    cases negative with
    | true => exact absurd rfl (hzero rfl)
    | false => rfl
  · obtain ⟨c, rest, htext, hc⟩ := Decimal.text_eq_cons hn
    have hdigit : Decimal.isDigit c = true := Decimal.isDigit_of_mem_text (htext ▸ List.mem_cons_self)
    have hread : parseDigits (if negative then 2147483648 else 2147483647) 0 (Decimal.text n) = .ok n := by
      rw [parseDigits_eq _ (fun c => Decimal.isDigit_of_mem_text) (Nat.zero_le _), Decimal.value_text,
        if_pos hlimit]
    have hrange : ¬ (c < byte '1' ∨ byte '9' < c) := by
      simp only [Decimal.isDigit, Bool.and_eq_true, decide_eq_true_eq, UInt8.le_iff_toNat_le] at hdigit
      have hne : c.toNat ≠ 48 := fun h => hc (UInt8.toNat_inj.mp h)
      have hone : (byte '1').toNat = 49 := rfl
      have hnine : (byte '9').toNat = 57 := rfl
      have h48 : (48 : UInt8).toNat = 48 := rfl
      have h57 : (57 : UInt8).toNat = 57 := rfl
      rw [UInt8.lt_iff_toNat_lt, UInt8.lt_iff_toNat_lt]
      omega
    rw [htext] at hread ⊢
    have hc' : ¬ c = byte '0' := hc
    rw [parseUnsigned, if_neg hc', if_neg (by simpa using hrange), hread]

theorem parseInt32_decimal (n : Int32) : parseInt32 (decimal n) = .ok n := by
  have hmin := n.le_toInt
  have hmax := n.toInt_lt
  unfold decimal
  by_cases hneg : n < 0
  · have hlt : n.toInt < 0 := Int32.lt_iff_toInt_lt.mp hneg
    have hle : n.toInt.natAbs ≤ 2147483648 := by omega
    rw [if_pos hneg, parseInt32, if_pos rfl, parseUnsigned_text true (fun _ => by omega) hle, signed,
      if_pos rfl]
    by_cases hbound : n.toInt.natAbs = 2147483648
    · rw [if_pos hbound, Number.ok.injEq]
      refine Int32.toInt_inj.mp ?_
      have : Int32.minValue.toInt = -2147483648 := rfl
      omega
    · rw [if_neg hbound, Number.ok.injEq]
      refine Int32.toInt_inj.mp ?_
      rw [Int32.toInt_neg, Int32.toInt_ofNat_of_lt (by omega), Int.bmod_eq_of_le] <;> omega
  · have hge : 0 ≤ n.toInt := by
      have := Int32.lt_iff_toInt_lt.not.mp hneg
      simpa using this
    obtain ⟨c, rest, htext, hdigit⟩ : ∃ c rest, Decimal.text n.toInt.natAbs = c :: rest ∧
        Decimal.isDigit c = true := by
      by_cases hzero : n.toInt.natAbs = 0
      · exact ⟨48, [], by rw [hzero]; rfl, rfl⟩
      · obtain ⟨c, rest, htext, -⟩ := Decimal.text_eq_cons hzero
        exact ⟨c, rest, htext, Decimal.isDigit_of_mem_text (htext ▸ List.mem_cons_self)⟩
    have hminus : ¬ c = byte '-' := by
      rintro rfl
      exact absurd hdigit (by decide)
    have hle : n.toInt.natAbs ≤ 2147483647 := by omega
    have hread := parseUnsigned_text false (n := n.toInt.natAbs) (by simp) hle
    rw [htext] at hread
    rw [if_neg hneg, htext, parseInt32, if_neg hminus, hread, signed, if_neg (by simp), Number.ok.injEq]
    refine Int32.toInt_inj.mp ?_
    rw [Int32.toInt_ofNat_of_lt (by omega)]
    omega

theorem decimal_injective {n m : Int32} (h : decimal n = decimal m) : n = m := by
  have hread := parseInt32_decimal n
  rw [h, parseInt32_decimal m, Number.ok.injEq] at hread
  exact hread.symm

/-! ## One argument -/

variable {value : Written} {types : List Char} {values : List Written}
  {binding : TypedCommandBinding} {spec : CommandSpec}

section Tokens

variable {fromChars : List UInt8 → FromChars} {toChars : UInt32 → List UInt8}

theorem parseArgument_boolean (n : Int32) :
    parseArgument fromChars (wireToken toChars (some 'b') (.integer n)) {} =
      if n = 0 then .ok { type := .bool, boolean := false }
      else if n = 1 then .ok { type := .bool, boolean := true } else .error .invalidBoolean := by
  have hzero : decimal n = bytes "0" ↔ n = 0 :=
    ⟨fun h => decimal_injective (h.trans (by decide : bytes "0" = decimal 0)), fun h => by rw [h]; decide⟩
  have hone : decimal n = bytes "1" ↔ n = 1 :=
    ⟨fun h => decimal_injective (h.trans (by decide : bytes "1" = decimal 1)), fun h => by rw [h]; decide⟩
  simp only [parseArgument, wireToken, wireTag, hzero, hone]
  rfl

theorem parseArgument_id (n : Int32) :
    parseArgument fromChars (wireToken toChars (some 'd') (.integer n)) {} =
      if 0 < n then .ok { type := .id, integer := n } else .error .invalidId := by
  have hb : ¬ byte 'd' = byte 'b' := by decide
  have hi : ¬ byte 'd' = byte 'i' := by decide
  have htag : wireTag (some 'd') (.integer n) = 'd' := rfl
  simp only [parseArgument, wireToken, htag, hb, hi, if_false, if_true, ne_eq, not_true, parseInt32_decimal]

variable {declared : Char}

theorem parseArgument_i32 (hb : declared ≠ 'b') (hd : declared ≠ 'd') (n : Int32) :
    parseArgument fromChars (wireToken toChars (some declared) (.integer n)) {} =
      .ok { type := .i32, integer := n } := by
  have hib : ¬ byte 'i' = byte 'b' := by decide
  have htag : wireTag (some declared) (.integer n) = 'i' := by simp [wireTag, hb, hd]
  simp only [parseArgument, wireToken, htag, hib, if_false, if_true, ne_eq, not_true, parseInt32_decimal]

theorem parseArgument_real {x : UInt32} (h : Converts fromChars toChars x) :
    parseArgument fromChars (wireToken toChars (some declared) (.real x)) {} =
      if isfinite x then .ok { type := .real, real := x } else .error .invalidReal := by
  have hb : ¬ byte 'r' = byte 'b' := by decide
  have hi : ¬ byte 'r' = byte 'i' := by decide
  have hd : ¬ byte 'r' = byte 'd' := by decide
  have htag : wireTag (some declared) (.real x) = 'r' := rfl
  simp only [parseArgument, wireToken, htag, hb, hi, hd, if_false, if_true, ne_eq, not_true]
  cases hfin : isfinite x with
  | true =>
    obtain ⟨hreal, hread⟩ := h.finite hfin
    simp [parseReal, hreal, hread, hfin]
  | false => simp [parseReal, h.other hfin]

theorem parseArgument_fits (hconv : ∀ x, value = .real x → Converts fromChars toChars x)
    (h : value.fits declared = true) :
    parseArgument fromChars (wireToken toChars (some declared) value) {} = .ok (value.argument declared) ∧
      wireTypeCode (value.argument declared).type = declared := by
  cases value with
  | integer n =>
    by_cases hb : declared = 'b'
    · subst hb
      rw [parseArgument_boolean]
      have hn : n = 0 ∨ n = 1 := by simpa [Written.fits] using h
      rcases hn with rfl | rfl <;> exact ⟨rfl, rfl⟩
    · by_cases hd : declared = 'd'
      · subst hd
        rw [parseArgument_id, if_pos (by simpa [Written.fits] using h)]
        exact ⟨rfl, rfl⟩
      · rw [parseArgument_i32 hb hd]
        have hi : declared = 'i' := by simpa [Written.fits, hb, hd] using h
        subst hi
        exact ⟨rfl, rfl⟩
  | real x =>
    simp only [Written.fits, Bool.and_eq_true, decide_eq_true_eq] at h
    rw [parseArgument_real (hconv x rfl), if_pos h.2, h.1]
    exact ⟨rfl, rfl⟩

theorem parseArgument_unfit (hconv : ∀ x, value = .real x → Converts fromChars toChars x)
    (h : value.fits declared = false) {argument : Argument}
    (hok : parseArgument fromChars (wireToken toChars (some declared) value) {} = .ok argument) :
    wireTypeCode argument.type ≠ declared := by
  cases value with
  | integer n =>
    by_cases hb : declared = 'b'
    · subst hb
      rw [parseArgument_boolean] at hok
      have hn : n ≠ 0 ∧ n ≠ 1 := by simpa [Written.fits] using h
      rw [if_neg hn.1, if_neg hn.2] at hok
      cases hok
    · by_cases hd : declared = 'd'
      · subst hd
        rw [parseArgument_id, if_neg (by simpa [Written.fits] using h)] at hok
        cases hok
      · rw [parseArgument_i32 hb hd, Except.ok.injEq] at hok
        have hi : declared ≠ 'i' := by
          rintro rfl
          simp [Written.fits] at h
        rw [← hok]
        exact hi.symm
  | real x =>
    rw [parseArgument_real (hconv x rfl)] at hok
    cases hfin : isfinite x with
    | true =>
      rw [hfin, if_pos rfl, Except.ok.injEq] at hok
      have hr : declared ≠ 'r' := by
        rintro rfl
        simp [Written.fits, hfin] at h
      rw [← hok]
      exact hr.symm
    | false =>
      rw [hfin] at hok
      cases hok

/-! ## All arguments -/

def placeArguments : ℕ → List Char → List Written → List Argument → List Argument
  | index, declared :: types, value :: values, arguments =>
    placeArguments (index + 1) types values (arguments.set index (value.argument declared))
  | _, _, _, arguments => arguments

theorem placeArguments_outside (index : ℕ) (types : List Char) (values : List Written)
    (arguments : List Argument) {slot : ℕ} (h : slot < index ∨ index + types.length ≤ slot) :
    (placeArguments index types values arguments)[slot]? = arguments[slot]? := by
  induction types generalizing index values arguments with
  | nil => rfl
  | cons declared types ih =>
    cases values with
    | nil => rfl
    | cons value values =>
      rw [List.length_cons] at h
      rw [placeArguments, ih _ _ _ (by omega), List.getElem?_set_ne (by omega)]

theorem placeArguments_inside (index : ℕ) (arguments : List Argument)
    (hlen : index + types.length ≤ arguments.length) {i : ℕ} (htype : types[i]? = some declared)
    (hvalue : values[i]? = some value) :
    (placeArguments index types values arguments)[index + i]? = some (value.argument declared) := by
  induction types generalizing index values arguments i with
  | nil => simp at htype
  | cons d types ih =>
    cases values with
    | nil => simp at hvalue
    | cons v values =>
      rw [List.length_cons] at hlen
      rw [placeArguments]
      cases i with
      | zero =>
        simp only [List.getElem?_cons_zero, Option.some.injEq] at htype hvalue
        have houtside := placeArguments_outside (index + 1) types values
          (arguments.set index (v.argument d)) (.inl (Nat.lt_succ_self index))
        refine Eq.trans houtside ?_
        rw [List.getElem?_set_self (by omega), htype, hvalue]
      | succ i =>
        rw [List.getElem?_cons_succ] at htype hvalue
        have hnext : index + (i + 1) = index + 1 + i := by omega
        rw [hnext]
        exact ih _ _ (by rw [List.length_set]; omega) htype hvalue

theorem parseArguments_iff (index : ℕ) (hlen : values.length = types.length)
    (hconv : ∀ value ∈ values, ∀ x, value = .real x → Converts fromChars toChars x)
    (arguments : List Argument)
    (hblank : ∀ slot, index ≤ slot → slot < index + types.length → arguments[slot]? = some {})
    (parsed : List Argument) :
    parseArguments fromChars index
        (List.zipWith (fun declared value => wireToken toChars (some declared) value) types values) types
        arguments = .ok parsed ↔
      List.Forall₂ (fun declared value => value.fits declared = true) types values ∧
        parsed = placeArguments index types values arguments := by
  induction types generalizing index values arguments with
  | nil =>
    rw [List.length_nil, List.length_eq_zero_iff] at hlen
    subst hlen
    rw [List.zipWith_nil_left, parseArguments, placeArguments, Except.ok.injEq]
    · simp only [List.Forall₂.nil, true_and]
      exact eq_comm
    · simp
    · simp
  | cons declared types ih =>
    cases values with
    | nil => simp at hlen
    | cons value values =>
      simp only [List.length_cons, Nat.add_right_cancel_iff] at hlen hblank
      rw [List.zipWith_cons_cons, parseArguments, hblank index (Nat.le_refl _) (by omega), Option.getD_some,
        List.forall₂_cons, placeArguments]
      have hvalue := hconv value List.mem_cons_self
      have hnext : ∀ slot, index + 1 ≤ slot → slot < index + 1 + types.length →
          (arguments.set index (value.argument declared))[slot]? = some {} := fun slot hle hlt => by
        rw [List.getElem?_set_ne (by omega)]
        exact hblank slot (by omega) (by omega)
      cases hfits : value.fits declared with
      | true =>
        obtain ⟨hread, hcode⟩ := parseArgument_fits hvalue hfits
        rw [hread]
        dsimp only
        rw [if_neg (not_not.mpr hcode)]
        simpa using ih (index + 1) hlen (fun v hv => hconv v (List.mem_cons_of_mem _ hv)) _ hnext
      | false =>
        cases hread : parseArgument fromChars (wireToken toChars (some declared) value) {} with
        | error error => simp
        | ok argument =>
          dsimp only
          rw [if_pos (parseArgument_unfit hvalue hfits hread)]
          simp

/-! ## The request -/

def requestOf (spec : CommandSpec) (values : List Written) : ParsedRequest :=
  { spec := some spec
    arguments := placeArguments 0 spec.types values (List.replicate kMaximumArgumentCount {})
    argumentCount := spec.types.length }

/-- A command has a short plain name by which it is found, and its arguments fit into the array. -/
structure Named (spec : CommandSpec) : Prop where
  name : isCommandName (bytes spec.name) = true
  found : findCommandNamed (bytes spec.name) = some spec
  short : (bytes spec.name).length ≤ 50
  plain : ∀ c ∈ bytes spec.name, 0x20 ≤ c ∧ c < 0x7f ∧ c ≠ byte ';'
  fits : spec.types.length ≤ kMaximumArgumentCount

theorem named_of_typed (hbinding : binding ∈ kTypedCommands)
    (hfound : findCommand binding.command = some spec) : Named spec := by
  have hall : ∀ binding ∈ kTypedCommands, (findCommand binding.command).all (fun spec =>
      isCommandName (bytes spec.name) && findCommandNamed (bytes spec.name) = some spec &&
        (bytes spec.name).length ≤ 50 &&
          (bytes spec.name).all (fun c => 0x20 ≤ c && c < 0x7f && c ≠ byte ';') &&
            spec.types.length ≤ kMaximumArgumentCount) = true := by
    decide +kernel
  have hspec := hall binding hbinding
  simp only [hfound, Option.all_some, Bool.and_eq_true, decide_eq_true_eq, List.all_eq_true, and_assoc]
    at hspec
  obtain ⟨hname, hnamed, hshort, hplain, hfits⟩ := hspec
  exact ⟨hname, hnamed, hshort, hplain, hfits⟩

theorem mem_intercalate {x c : UInt8} {parts : List (List UInt8)} (h : c ∈ [x].intercalate parts) :
    c = x ∨ ∃ part ∈ parts, c ∈ part := by
  induction parts with
  | nil => simp at h
  | cons part parts ih =>
    cases parts with
    | nil => exact .inr ⟨part, by simp, by simpa using h⟩
    | cons next parts =>
      rw [List.intercalate_cons_cons, List.append_assoc, List.mem_append, List.mem_append,
        List.mem_singleton] at h
      rcases h with hpart | hsep | hrest
      · exact .inr ⟨part, by simp, hpart⟩
      · exact .inl hsep
      · rcases ih hrest with hsep | ⟨part', hmem, hc⟩
        · exact .inl hsep
        · exact .inr ⟨part', List.mem_cons_of_mem _ hmem, hc⟩

theorem length_intercalate_le (x : UInt8) (parts : List (List UInt8)) :
    ([x].intercalate parts).length ≤ (parts.map fun part => part.length + 1).sum := by
  induction parts with
  | nil => simp
  | cons part parts ih =>
    cases parts with
    | nil => simp
    | cons next parts =>
      rw [List.intercalate_cons_cons, List.length_append, List.length_append, List.map_cons, List.sum_cons,
        List.length_singleton]
      omega

theorem decimal_plain (n : Int32) :
    (decimal n).length ≤ 11 ∧ ∀ c ∈ decimal n, 0x20 ≤ c ∧ c < 0x7f ∧ c ≠ byte ';' := by
  have hmin := n.le_toInt
  have hmax := n.toInt_lt
  have hlen : (Decimal.text n.toInt.natAbs).length ≤ 10 :=
    Decimal.length_text_le (by omega) (by omega)
  have hplain : ∀ c ∈ Decimal.text n.toInt.natAbs, 0x20 ≤ c ∧ c < 0x7f ∧ c ≠ byte ';' := by
    intro c hc
    have hdigit := Decimal.isDigit_of_mem_text hc
    simp only [Decimal.isDigit, Bool.and_eq_true, decide_eq_true_eq, UInt8.le_iff_toNat_le] at hdigit
    have h48 : (48 : UInt8).toNat = 48 := rfl
    have h57 : (57 : UInt8).toNat = 57 := rfl
    have h20 : (0x20 : UInt8).toNat = 32 := rfl
    have h7f : (0x7f : UInt8).toNat = 127 := rfl
    have hsemi : (byte ';').toNat = 59 := rfl
    refine ⟨UInt8.le_iff_toNat_le.mpr (by omega), UInt8.lt_iff_toNat_lt.mpr (by omega), fun h => ?_⟩
    rw [h, hsemi] at hdigit
    omega
  unfold decimal
  split
  · refine ⟨by rw [List.length_cons]; omega, fun c hc => ?_⟩
    rcases List.mem_cons.mp hc with rfl | hc
    · decide
    · exact hplain c hc
  · exact ⟨by omega, hplain⟩

theorem wireToken_plain {declared : Option Char}
    (hconv : ∀ x, value = .real x → Converts fromChars toChars x) :
    (wireToken toChars declared value).length ≤ 26 ∧ wireToken toChars declared value ≠ [] ∧
      ∀ c ∈ wireToken toChars declared value, 0x20 ≤ c ∧ c < 0x7f ∧ c ≠ byte ';' := by
  have htag : ∀ tag ∈ ['b', 'd', 'i', 'r'], 0x20 ≤ byte tag ∧ byte tag < 0x7f ∧ byte tag ≠ byte ';' := by
    intro tag hmem
    simp only [List.mem_cons, List.not_mem_nil, or_false] at hmem
    rcases hmem with rfl | rfl | rfl | rfl <;> decide +kernel
  have htags : wireTag declared value ∈ ['b', 'd', 'i', 'r'] := by
    cases value with
    | integer n =>
      unfold wireTag
      split_ifs <;> simp
    | real x => simp [wireTag]
  have hcolon : 0x20 ≤ byte ':' ∧ byte ':' < 0x7f ∧ byte ':' ≠ byte ';' := by decide
  unfold wireToken
  cases value with
  | integer n =>
    obtain ⟨hlen, hplain⟩ := decimal_plain n
    refine ⟨by simp only [List.length_cons]; omega, by simp, fun c hc => ?_⟩
    rcases List.mem_cons.mp hc with rfl | hc
    · exact htag _ htags
    · rcases List.mem_cons.mp hc with rfl | hc
      · exact hcolon
      · exact hplain c hc
  | real x =>
    have hx := hconv x rfl
    have hlen := hx.short
    refine ⟨by simp only [List.length_cons]; omega, by simp, fun c hc => ?_⟩
    rcases List.mem_cons.mp hc with rfl | hc
    · exact htag _ htags
    · rcases List.mem_cons.mp hc with rfl | hc
      · exact hcolon
      · exact hx.plain c hc

def requestTokens (toChars : UInt32 → List UInt8) (spec : CommandSpec) (values : List Written) :
    List (List UInt8) :=
  kCanonicalVersion :: bytes spec.name ::
    values.mapIdx fun slot value => wireToken toChars spec.types[slot]? value

theorem requestTokens_plain (hspec : Named spec) (hmany : values.length ≤ kMaximumArgumentCount)
    (hconv : ∀ value ∈ values, ∀ x, value = .real x → Converts fromChars toChars x) :
    (∀ token ∈ requestTokens toChars spec values, token ≠ [] ∧
      ∀ c ∈ token, 0x20 ≤ c ∧ c < 0x7f ∧ c ≠ byte ';') ∧
    (requestText toChars spec values).length ≤ kMaximumMessageBytes := by
  have hmax : kMaximumArgumentCount = 16 := rfl
  have hversion : kCanonicalVersion ≠ [] ∧ ∀ c ∈ kCanonicalVersion, 0x20 ≤ c ∧ c < 0x7f ∧ c ≠ byte ';' := by
    decide +kernel
  have hname : bytes spec.name ≠ [] := by
    intro hnil
    have := hspec.name
    rw [hnil] at this
    cases this
  -- Each argument is one of the tokens.
  have htoken : ∀ token ∈ values.mapIdx fun slot value => wireToken toChars spec.types[slot]? value,
      token.length ≤ 26 ∧ token ≠ [] ∧ ∀ c ∈ token, 0x20 ≤ c ∧ c < 0x7f ∧ c ≠ byte ';' := by
    intro token hmem
    obtain ⟨slot, hlt, rfl⟩ := List.mem_mapIdx.mp hmem
    exact wireToken_plain (hconv _ (List.getElem_mem hlt))
  refine ⟨fun token hmem => ?_, ?_⟩
  · rcases List.mem_cons.mp hmem with rfl | hmem
    · exact hversion
    · rcases List.mem_cons.mp hmem with rfl | hmem
      · exact ⟨hname, hspec.plain⟩
      · exact (htoken token hmem).2
  · have hbody := length_intercalate_le (byte ';') (requestTokens toChars spec values)
    have harguments : ((values.mapIdx fun slot value =>
        wireToken toChars spec.types[slot]? value).map fun part => part.length + 1).sum ≤
          values.length * 27 := by
      have hle := List.sum_le_card_nsmul
        ((values.mapIdx fun slot value => wireToken toChars spec.types[slot]? value).map
          fun part => part.length + 1) 27 (fun n hn => by
            obtain ⟨token, hmem, rfl⟩ := List.mem_map.mp hn
            have := (htoken token hmem).1
            omega)
      simpa using hle
    have hprefix : kProtocolPrefix.length = 6 := rfl
    have hv : kCanonicalVersion.length = 2 := rfl
    have hbytes : kMaximumMessageBytes = 512 := rfl
    have hshort := hspec.short
    simp only [requestTokens, List.map_cons, List.sum_cons] at hbody
    rw [requestText, List.length_append]
    omega

theorem parseRequest_requestText (hspec : Named spec)
    (hmany : values.length ≤ kMaximumArgumentCount)
    (hconv : ∀ value ∈ values, ∀ x, value = .real x → Converts fromChars toChars x)
    (carrier : Carrier) :
    parseRequest fromChars (requestText toChars spec values) carrier =
      parseCommand fromChars carrier (bytes spec.name ::
        values.mapIdx fun slot value => wireToken toChars spec.types[slot]? value) := by
  obtain ⟨hplain, hlength⟩ := requestTokens_plain hspec hmany hconv
  have htext : requestText toChars spec values =
      kProtocolPrefix ++ [byte ';'].intercalate (requestTokens toChars spec values) := rfl
  have hprefix : ∀ c ∈ kProtocolPrefix, 0x20 ≤ c ∧ c < 0x7f := by decide +kernel
  have hsemi : 0x20 ≤ byte ';' ∧ byte ';' < 0x7f := by decide
  have hbytes : ∀ c ∈ requestText toChars spec values, 0x20 ≤ c ∧ c < 0x7f := by
    intro c hc
    rw [htext] at hc
    rcases List.mem_append.mp hc with hc | hc
    · exact hprefix c hc
    · rcases mem_intercalate hc with rfl | ⟨token, hmem, hc⟩
      · exact hsemi
      · exact ⟨((hplain token hmem).2 c hc).1, ((hplain token hmem).2 c hc).2.1⟩
  -- No byte is a control character, and none is beyond ASCII.
  have hcontrol : ((requestText toChars spec values).any fun c => c < 0x20 || c = 0x7f) = false := by
    rw [List.any_eq_false]
    intro c hc
    obtain ⟨hlow, hhigh⟩ := hbytes c hc
    rw [UInt8.le_iff_toNat_le] at hlow
    rw [UInt8.lt_iff_toNat_lt] at hhigh
    simp only [Bool.or_eq_true, decide_eq_true_eq, not_or, UInt8.lt_iff_toNat_lt, ← UInt8.toNat_inj]
    omega
  have hascii : ((requestText toChars spec values).any fun c => 0x7f < c) = false := by
    rw [List.any_eq_false]
    intro c hc
    have hhigh := (hbytes c hc).2
    rw [UInt8.lt_iff_toNat_lt] at hhigh
    simp only [decide_eq_true_eq, UInt8.lt_iff_toNat_lt]
    omega
  have hbody : (requestText toChars spec values).drop kProtocolPrefix.length =
      [byte ';'].intercalate (requestTokens toChars spec values) := by
    rw [htext, List.drop_left]
  have hsplit : ([byte ';'].intercalate (requestTokens toChars spec values)).splitOn (byte ';') =
      requestTokens toChars spec values :=
    List.splitOn_intercalate (byte ';')
      (fun token hmem hc => ((hplain token hmem).2 _ hc).2.2 rfl) (by simp [requestTokens])
  have hnonempty : ([byte ';'].intercalate (requestTokens toChars spec values)).isEmpty = false := by
    rw [requestTokens, List.intercalate_cons_cons]
    rfl
  have hcount : ¬ kMaximumArgumentCount + 2 < (requestTokens toChars spec values).length := by
    simp only [requestTokens, List.length_cons, List.length_mapIdx]
    omega
  have hempty : (requestTokens toChars spec values).any List.isEmpty = false := by
    rw [List.any_eq_false]
    intro token hmem
    simpa using (hplain token hmem).1
  have hstarts : ¬ (!kProtocolPrefix.isPrefixOf (requestText toChars spec values)) = true := by
    rw [htext]
    simp
  rw [parseRequest, if_neg (by omega), hcontrol, if_neg (by simp), if_neg hstarts, hbody]
  dsimp only
  rw [hnonempty, if_neg (by simp), hsplit, if_neg hcount, hempty, if_neg (by simp), hascii,
    if_neg (by simp)]
  simp [requestTokens]

theorem parseRequest_iff (hspec : Named spec) (hmany : values.length ≤ kMaximumArgumentCount)
    (hconv : ∀ value ∈ values, ∀ x, value = .real x → Converts fromChars toChars x)
    (request : ParsedRequest) :
    parseRequest fromChars (requestText toChars spec values) spec.carrier = .ok request ↔
      List.Forall₂ (fun declared value => value.fits declared = true) spec.types values ∧
        request = requestOf spec values := by
  rw [parseRequest_requestText hspec hmany hconv, parseCommand, hspec.name, hspec.found, List.length_mapIdx]
  simp only [Bool.not_true, Bool.false_eq_true, if_false, ne_eq, not_true, ite_not]
  by_cases hlen : values.length = spec.types.length
  · have hzip : (values.mapIdx fun slot value => wireToken toChars spec.types[slot]? value) =
        List.zipWith (fun declared value => wireToken toChars (some declared) value) spec.types values := by
      refine List.ext_getElem (by simp [hlen]) fun slot h _ => ?_
      rw [List.length_mapIdx] at h
      simp [List.getElem?_eq_getElem (hlen ▸ h)]
    have hiff := parseArguments_iff 0 hlen hconv
      (List.replicate kMaximumArgumentCount {}) (fun slot _ hlt => by
        have := hspec.fits
        rw [List.getElem?_replicate, if_pos (by omega)])
    rw [if_pos hlen, hzip]
    cases hparsed : parseArguments fromChars 0 (List.zipWith
        (fun declared value => wireToken toChars (some declared) value) spec.types values) spec.types
        (List.replicate kMaximumArgumentCount {}) with
    | error error =>
      have hnone : ¬ List.Forall₂ (fun declared value => value.fits declared = true) spec.types values := by
        intro hall
        have := (hiff _).mpr ⟨hall, rfl⟩
        rw [hparsed] at this
        cases this
      simp [hnone]
    | ok parsed =>
      obtain ⟨hall, hplace⟩ := (hiff parsed).mp hparsed
      simp only [Except.ok.injEq, hall, true_and, requestOf, hplace, hlen]
      exact eq_comm
  · rw [if_neg hlen]
    have hnone : ¬ List.Forall₂ (fun declared value => value.fits declared = true) spec.types values :=
      fun hall => hlen hall.length_eq.symm
    simp [hnone]

end Tokens

/-! ## Writes in the order of the slots -/

def InSlotOrder (writes : List Write) (values : List Written) : Prop :=
  writes.Perm (values.mapIdx fun slot value => ⟨slot, value⟩)

theorem writesAt_mapIdx (values : List Written) (slot : ℕ) :
    writesAt slot (values.mapIdx fun slot value => ⟨slot, value⟩) =
      (values[slot]?.map fun value => (⟨slot, value⟩ : Write)).toList := by
  induction values using List.reverseRecOn with
  | nil => rfl
  | append_singleton values value ih =>
    rw [List.mapIdx_append, List.mapIdx_singleton, Nat.zero_add, writesAt, List.filter_append]
    rw [writesAt] at ih
    rw [ih]
    by_cases hsame : values.length = slot
    · subst hsame
      simp
    · rcases Nat.lt_or_gt_of_ne hsame with hlt | hgt
      · rw [List.getElem?_eq_none (by omega), List.getElem?_eq_none (by rw [List.length_append]; simp; omega)]
        simp [hsame]
      · rw [List.getElem?_append_left hgt]
        simp [hsame]

variable {writes : List Write}

theorem InSlotOrder.writesAt_eq (h : InSlotOrder writes values) (slot : ℕ) :
    writesAt slot writes = (values[slot]?.map fun value => (⟨slot, value⟩ : Write)).toList := by
  have hperm : (writesAt slot writes).Perm
      (values[slot]?.map fun value => (⟨slot, value⟩ : Write)).toList := by
    rw [← writesAt_mapIdx]
    exact h.filter _
  cases hvalue : values[slot]? with
  | none =>
    rw [hvalue] at hperm
    exact hperm.eq_nil
  | some value =>
    rw [hvalue] at hperm
    exact List.perm_singleton.mp hperm

theorem InSlotOrder.fillsOnce (h : InSlotOrder writes values)
    (hfits : List.Forall₂ (fun declared value => Written.fits declared value = true) types values) :
    FillsOnce types writes := by
  intro slot declared hdeclared
  obtain ⟨hlt, rfl⟩ := List.getElem?_eq_some_iff.mp hdeclared
  have hlt' : slot < values.length := hfits.length_eq ▸ hlt
  refine ⟨⟨slot, values[slot]⟩, ?_, hfits.get hlt hlt'⟩
  rw [h.writesAt_eq, List.getElem?_eq_getElem hlt']
  rfl

theorem InSlotOrder.slot_lt (h : InSlotOrder writes values) :
    ∀ w ∈ writes, w.slot < values.length := by
  intro w hw
  obtain ⟨slot, hlt, rfl⟩ := List.mem_mapIdx.mp (h.mem_iff.mp hw)
  exact hlt

theorem InSlotOrder.mem_of_getElem? (h : InSlotOrder writes values) {slot : ℕ}
    (hvalue : values[slot]? = some value) : ⟨slot, value⟩ ∈ writes := by
  have hat := h.writesAt_eq slot
  rw [hvalue] at hat
  have hmem : (⟨slot, value⟩ : Write) ∈ writesAt slot writes := by rw [hat]; simp
  exact (List.mem_filter.mp hmem).1

theorem exists_inSlotOrder (h : FillsOnce types writes)
    (hslots : ∀ w ∈ writes, w.slot < types.length) :
    ∃ values, InSlotOrder writes values ∧
      List.Forall₂ (fun declared value => Written.fits declared value = true) types values := by
  have hone : ∀ slot : Fin types.length, ∃ w, writesAt slot writes = [w] ∧
      w.value.fits types[slot] = true := fun slot =>
    h slot types[slot] (List.getElem?_eq_getElem slot.isLt)
  choose pick hpick hfits using hone
  have hslot : ∀ slot, (pick slot).slot = slot := fun slot => by
    have hmem : pick slot ∈ writesAt slot writes := by rw [hpick]; simp
    simpa using (List.mem_filter.mp hmem).2
  refine ⟨List.ofFn fun slot => (pick slot).value, ?_, ?_⟩
  · -- Both lists have no repetition, and the same writes.
    refine (List.perm_ext_iff_of_nodup ?_ ?_).mpr fun w => ⟨fun hw => ?_, fun hw => ?_⟩
    · refine List.nodup_iff_count_le_one.mpr fun w => ?_
      by_cases hw : w ∈ writes
      · have hcount : (writesAt w.slot writes).count w = writes.count w :=
          List.count_filter (by simp)
        rw [← hcount, hpick ⟨w.slot, hslots w hw⟩]
        exact List.count_le_length
      · rw [List.count_eq_zero_of_not_mem hw]
        exact Nat.zero_le _
    · refine List.nodup_iff_injective_getElem.mpr fun i j hij => ?_
      simp only [List.getElem_mapIdx, Write.mk.injEq] at hij
      exact Fin.ext hij.1
    · have hw' : w ∈ writesAt w.slot writes := List.mem_filter.mpr ⟨hw, by simp⟩
      rw [hpick ⟨w.slot, hslots w hw⟩, List.mem_singleton] at hw'
      refine List.mem_mapIdx.mpr ⟨w.slot, by simpa using hslots w hw, ?_⟩
      rw [List.getElem_ofFn, ← hw']
    · obtain ⟨slot, hlt, rfl⟩ := List.mem_mapIdx.mp hw
      rw [List.length_ofFn] at hlt
      have hmem : pick ⟨slot, hlt⟩ ∈ writesAt slot writes := by rw [hpick ⟨slot, hlt⟩]; simp
      have hself := (List.mem_filter.mp hmem).1
      have heq : (⟨slot, (pick ⟨slot, hlt⟩).value⟩ : Write) = pick ⟨slot, hlt⟩ := by
        have := hslot ⟨slot, hlt⟩
        cases hp : pick ⟨slot, hlt⟩
        simp_all
      rw [List.getElem_ofFn, heq]
      exact hself
  · refine List.forall₂_iff_get.mpr ⟨by simp, fun slot hlt hlt' => ?_⟩
    simpa using hfits ⟨slot, hlt⟩

/-! ## The typed plane -/

namespace TypedTransport

structure ArgumentWrite where
  slot : Fin kMaximumArgumentCount
  value : Written
  deriving DecidableEq

def ArgumentWrite.write (w : ArgumentWrite) : Write := ⟨w.slot, w.value⟩

def ArgumentWrite.call (table : UInt32) (parentKey : Int32) (w : ArgumentWrite) : Call :=
  match w.value with
  | .integer value => .saveInteger table parentKey (Int32.ofNat w.slot) value
  | .real value => .saveReal table parentKey (Int32.ofNat w.slot) value

def closingCall (table : UInt32) (parentKey : Int32) (binding : TypedCommandBinding) : Call :=
  match binding.result with
  | .void => .saveInteger table parentKey kTypedCommitChild binding.opcode
  | .integer => .loadInteger table parentKey kTypedQueryIntegerChild
  | _ => .loadReal table parentKey kTypedQueryRealChild

/-- A command on the typed plane: its begin, argument writes and the closing call. -/
def typedCalls (table : UInt32) (parentKey : Int32) (binding : TypedCommandBinding)
    (writes : List ArgumentWrite) : List Call :=
  .saveInteger table parentKey kTypedBeginChild binding.opcode ::
    (writes.map (ArgumentWrite.call table parentKey) ++ [closingCall table parentKey binding])

/-- The table is registered and there is room for a command under the key. -/
structure Ready (s : State) (table : UInt32) (parentKey : Int32) : Prop where
  active : s.activeTable = table
  nonzero : table ≠ 0
  room : parentKey ∈ s.transactions ∨ s.transactions.keys.length < kMaximumTypedTransactions

/-- The typed plane takes the command out as a request, to hand it to the backend. -/
def TypedDispatches (s : State) (table : UInt32) (parentKey : Int32) (binding : TypedCommandBinding)
    (writes : List ArgumentWrite) (request : ParsedRequest) : Prop :=
  (run State.step (typedCalls table parentKey binding writes) s).taken =
    s.taken ++ [{ serial := s.begun, kind := binding.result, request }]

theorem typed_bound (h : binding ∈ kTypedCommands) :
    findTypedCommand binding.opcode = some binding ∧ binding.result ≠ .text ∧
      ∀ spec, findCommand binding.command = some spec → 's' ∉ spec.types := by
  have hall : ∀ binding ∈ kTypedCommands, findTypedCommand binding.opcode = some binding ∧
      binding.result ≠ .text ∧ (findCommand binding.command).all (fun spec => 's' ∉ spec.types) = true := by
    decide +kernel
  obtain ⟨hfound, hresult, htypes⟩ := hall binding h
  refine ⟨hfound, hresult, fun spec hspec => ?_⟩
  simpa [hspec] using htypes

variable {s : State} {table : UInt32} {parentKey : Int32} {t : TypedTransaction}

theorem step_begin (hready : Ready s table parentKey) (hbinding : binding ∈ kTypedCommands)
    (hspec : findCommand binding.command = some spec) :
    (State.step (.saveInteger table parentKey kTypedBeginChild binding.opcode) s).2 = { s with
        transactions := s.transactions.insert parentKey (.opened s.begun binding.opcode spec)
        begun := s.begun + 1 } := by
  obtain ⟨hfound, -, htypes⟩ := typed_bound hbinding
  have hA : kTypedBeginChild ≠ kTypedRegisterChildA := by decide
  have hB : kTypedBeginChild ≠ kTypedRegisterChildB := by decide
  have hroom : ¬ ((s.transactions.lookup parentKey).isNone &&
      decide (kMaximumTypedTransactions ≤ s.transactions.keys.length)) = true := by
    intro hfull
    simp only [Bool.and_eq_true, Option.isNone_iff_eq_none, decide_eq_true_eq] at hfull
    rcases hready.room with hmem | hlt
    · exact AList.lookup_eq_none.mp hfull.1 hmem
    · omega
  rw [State.step, State.trySaveInteger, if_neg (by simp [hA]), if_neg (by simp [hB]),
    if_neg (by simp [hready.active, hready.nonzero]), if_pos rfl, State.beginCommand, hfound]
  dsimp only
  rw [hspec]
  dsimp only
  rw [if_neg (htypes spec hspec), if_neg hroom]

theorem slot_keys (slot : Fin kMaximumArgumentCount) :
    State.slot? (Int32.ofNat slot) = some slot.val ∧ Int32.ofNat slot ≠ kTypedRegisterChildA ∧
      Int32.ofNat slot ≠ kTypedRegisterChildB ∧ Int32.ofNat slot ≠ kTypedBeginChild ∧
        Int32.ofNat slot ≠ kTypedCommitChild := by
  have hall : ∀ slot : Fin kMaximumArgumentCount,
      State.slot? (Int32.ofNat slot) = some slot.val ∧ Int32.ofNat slot ≠ kTypedRegisterChildA ∧
        Int32.ofNat slot ≠ kTypedRegisterChildB ∧ Int32.ofNat slot ≠ kTypedBeginChild ∧
          Int32.ofNat slot ≠ kTypedCommitChild := by decide
  exact hall slot

theorem step_argument (hactive : s.activeTable = table) (hnonzero : table ≠ 0)
    (hopen : s.transactions.lookup parentKey = some t) (w : ArgumentWrite) :
    (State.step (w.call table parentKey) s).2 =
      { s with transactions := s.transactions.insert parentKey (t.put w.write) } := by
  obtain ⟨hslot, hA, hB, hbegin, hcommit⟩ := slot_keys w.slot
  obtain ⟨slot, value | value⟩ := w
  · rw [ArgumentWrite.call, State.step, State.trySaveInteger, if_neg (by simp [hA]),
      if_neg (by simp [hB]), if_neg (by simp [hactive, hnonzero]), if_neg hbegin, hopen]
    dsimp only
    rw [if_neg hcommit, hslot]
    rfl
  · rw [ArgumentWrite.call, State.step, State.trySaveReal, if_neg (by simp [hactive, hnonzero]), hopen]
    dsimp only
    rw [hslot]
    rfl

theorem run_arguments (hactive : s.activeTable = table) (hnonzero : table ≠ 0)
    (hopen : s.transactions.lookup parentKey = some t) (writes : List ArgumentWrite) :
    ∃ transactions, run State.step (writes.map (ArgumentWrite.call table parentKey)) s =
        { s with transactions } ∧
      transactions.lookup parentKey = some (t.fill (writes.map ArgumentWrite.write)) := by
  induction writes generalizing s t with
  | nil => exact ⟨s.transactions, rfl, hopen⟩
  | cons w writes ih =>
    rw [List.map_cons, run_cons, step_argument hactive hnonzero hopen w]
    exact ih (s := { s with transactions := s.transactions.insert parentKey (t.put w.write) }) hactive
      (AList.lookup_insert _)

theorem step_closing (hactive : s.activeTable = table) (hnonzero : table ≠ 0)
    (hopen : s.transactions.lookup parentKey = some t) (hbinding : binding ∈ kTypedCommands)
    (hopcode : t.opcode = binding.opcode) :
    (State.step (closingCall table parentKey binding) s).2.taken = if t.isComplete then
        s.taken ++ [{ serial := t.serial, kind := binding.result, request := t.request }]
      else s.taken := by
  obtain ⟨hfound, hresult, -⟩ := typed_bound hbinding
  have hanswers : answers t binding.result = t.isComplete := by
    rw [answers, hopcode, hfound]
    simp
  -- A closing call of a kind closes the transaction of the key.
  have hclose : (State.step (closingCall table parentKey binding) s).2 =
      (s.close parentKey t t.isComplete binding.result).2 := by
    unfold closingCall
    cases hkind : binding.result with
    | void =>
      have hA : kTypedCommitChild ≠ kTypedRegisterChildA := by decide
      have hB : kTypedCommitChild ≠ kTypedRegisterChildB := by decide
      rw [hkind] at hanswers
      dsimp only
      rw [State.step, State.trySaveInteger, if_neg (by simp [hA]), if_neg (by simp [hB]),
        if_neg (by simp [hactive, hnonzero]), if_neg (by decide), hopen]
      dsimp only
      rw [if_pos rfl, hanswers, hopcode, decide_eq_true rfl, Bool.true_and]
    | integer =>
      have hprobe : kTypedQueryIntegerChild ≠ kTypedProbeChild := by decide
      rw [hkind] at hanswers
      dsimp only
      rw [State.step, State.tryLoadInteger, if_neg (by simp [hactive, hnonzero]), if_neg (by simp [hprobe]),
        if_neg (by simp), hopen]
      dsimp only
      rw [hanswers]
    | real =>
      rw [hkind] at hanswers
      dsimp only
      rw [State.step, State.tryLoadReal, if_neg (by simp [hactive, hnonzero]), hopen]
      dsimp only
      rw [hanswers]
    | text => exact absurd hkind hresult
  rw [hclose, State.close]
  split <;> rfl

theorem typedDispatches_iff (hready : Ready s table parentKey)
    (hbinding : binding ∈ kTypedCommands) (hspec : findCommand binding.command = some spec)
    (writes : List ArgumentWrite) (request : ParsedRequest) :
    TypedDispatches s table parentKey binding writes request ↔
      FillsOnce spec.types (writes.map ArgumentWrite.write) ∧
        request = ((TypedTransaction.opened s.begun binding.opcode spec).fill
          (writes.map ArgumentWrite.write)).request := by
  have hfilled := filled_fill s.begun binding.opcode spec (named_of_typed hbinding hspec).fits
    (writes.map ArgumentWrite.write)
  obtain ⟨transactions, hrun, hopen⟩ := run_arguments
    (s := { s with
      transactions := s.transactions.insert parentKey (.opened s.begun binding.opcode spec)
      begun := s.begun + 1 }) hready.active hready.nonzero (AList.lookup_insert _) writes
  -- The writes keep the command and its serial.
  have hkept : ∀ (ws : List Write) (t : TypedTransaction),
      (t.fill ws).serial = t.serial ∧ (t.fill ws).opcode = t.opcode := by
    intro ws
    induction ws with
    | nil => exact fun t => ⟨rfl, rfl⟩
    | cons w ws ih =>
      intro t
      obtain ⟨hserial, hopcode⟩ := ih (t.put w)
      exact ⟨hserial.trans (t.put_serial w), hopcode.trans (t.put_opcode w)⟩
  obtain ⟨hserial, hopcode⟩ := hkept (writes.map ArgumentWrite.write)
    (.opened s.begun binding.opcode spec)
  have hend : (run State.step (typedCalls table parentKey binding writes) s).taken =
      if ((TypedTransaction.opened s.begun binding.opcode spec).fill
          (writes.map ArgumentWrite.write)).isComplete then
        s.taken ++ [{
          serial := s.begun
          kind := binding.result
          request := ((TypedTransaction.opened s.begun binding.opcode spec).fill
            (writes.map ArgumentWrite.write)).request }]
      else s.taken := by
    rw [typedCalls, run_cons, step_begin hready hbinding hspec, run_append, hrun, run_cons, run_nil]
    refine (step_closing (s := { s with transactions := transactions, begun := s.begun + 1 })
      hready.active hready.nonzero hopen hbinding hopcode).trans ?_
    rw [hserial]
    rfl
  rw [TypedDispatches, hend, ← hfilled.isComplete_iff]
  cases ((TypedTransaction.opened s.begun binding.opcode spec).fill
    (writes.map ArgumentWrite.write)).isComplete with
  | true =>
    simp only [if_true, List.append_cancel_left_eq, List.cons.injEq, and_true, Taken.mk.injEq, true_and]
    exact eq_comm
  | false => simp

theorem request_eq (serial : ℕ) (opcode : Int32)
    (hspec : spec.types.length ≤ kMaximumArgumentCount) (horder : InSlotOrder writes values)
    (hfits : List.Forall₂ (fun declared value => Written.fits declared value = true) spec.types values) :
    ((TypedTransaction.opened serial opcode spec).fill writes).request = requestOf spec values := by
  have hfilled := filled_fill serial opcode spec hspec writes
  have honce := horder.fillsOnce hfits
  have hsound : Sound spec.types writes := fun slot declared hd => .inr (honce slot declared hd)
  have hblank : (List.replicate kMaximumArgumentCount ({} : Argument)).length = kMaximumArgumentCount :=
    List.length_replicate
  have harguments : ((TypedTransaction.opened serial opcode spec).fill writes).request.arguments =
      placeArguments 0 spec.types values (List.replicate kMaximumArgumentCount {}) := by
    refine List.ext_getElem? fun slot => ?_
    rcases Nat.lt_or_ge slot spec.types.length with hlt | hge
    · -- A declared slot has the one value that was written.
      have hvalue : slot < values.length := hfits.length_eq ▸ hlt
      have hat := horder.writesAt_eq slot
      rw [List.getElem?_eq_getElem hvalue] at hat
      have hplace := placeArguments_inside 0 (List.replicate kMaximumArgumentCount {}) (by omega)
        (List.getElem?_eq_getElem hlt) (List.getElem?_eq_getElem hvalue)
      rw [Nat.zero_add] at hplace
      rw [hplace]
      exact hfilled.argument hsound slot _ _ (List.getElem?_eq_getElem hlt) hat
    · rw [hfilled.untouched slot (.inl hge), placeArguments_outside _ _ _ _ (by omega)]
  have hspecEq := hfilled.spec_eq
  have hcount := hfilled.count_eq
  cases hrequest : ((TypedTransaction.opened serial opcode spec).fill writes).request with
  | mk spec' arguments count =>
    rw [hrequest] at harguments hspecEq hcount
    dsimp only at harguments hspecEq hcount
    rw [requestOf, harguments, hspecEq, hcount]

variable {fromChars : List UInt8 → FromChars} {toChars : UInt32 → List UInt8}

theorem stringAccepts_iff (hbinding : binding ∈ kTypedCommands)
    (hspec : findCommand binding.command = some spec) (writes : List ArgumentWrite)
    (hconv : ∀ w ∈ writes, ∀ x, w.value = .real x → Converts fromChars toChars x) (serial : ℕ)
    (request : ParsedRequest) :
    (∃ values, InSlotOrder (writes.map ArgumentWrite.write) values ∧
        parseRequest fromChars (requestText toChars spec values) spec.carrier = .ok request) ↔
      (FillsOnce spec.types (writes.map ArgumentWrite.write) ∧
        ∀ w ∈ writes, w.slot.val < spec.types.length) ∧
          request = ((TypedTransaction.opened serial binding.opcode spec).fill
            (writes.map ArgumentWrite.write)).request := by
  have hnamed := named_of_typed hbinding hspec
  -- What the text of the writes needs of its floats and of its length.
  have hready : ∀ values, InSlotOrder (writes.map ArgumentWrite.write) values →
      values.length ≤ kMaximumArgumentCount ∧
        ∀ value ∈ values, ∀ x, value = .real x → Converts fromChars toChars x := by
    intro values horder
    constructor
    · by_contra hmany
      obtain ⟨w, -, hw⟩ := List.mem_map.mp
        (horder.mem_of_getElem? (List.getElem?_eq_getElem (Nat.lt_of_not_le hmany)))
      have hslot := congrArg Write.slot hw
      exact absurd w.slot.isLt (by rw [show w.slot.val = _ from hslot]; exact Nat.lt_irrefl _)
    · intro value hvalue x hx
      obtain ⟨slot, hslot⟩ := List.mem_iff_getElem?.mp hvalue
      obtain ⟨w, hw, heq⟩ := List.mem_map.mp (horder.mem_of_getElem? hslot)
      exact hconv w hw x ((congrArg Write.value heq).trans hx)
  constructor
  · rintro ⟨values, horder, hparse⟩
    obtain ⟨hmany, hreal⟩ := hready values horder
    obtain ⟨hfits, hrequest⟩ := (parseRequest_iff hnamed hmany hreal request).mp hparse
    refine ⟨⟨horder.fillsOnce hfits, fun w hw => ?_⟩, ?_⟩
    · rw [hfits.length_eq]
      exact horder.slot_lt w.write (List.mem_map_of_mem hw)
    · rw [hrequest, request_eq serial binding.opcode hnamed.fits horder hfits]
  · rintro ⟨⟨honce, hslots⟩, hrequest⟩
    obtain ⟨values, horder, hfits⟩ := exists_inSlotOrder honce (by simpa [ArgumentWrite.write] using hslots)
    obtain ⟨hmany, hreal⟩ := hready values horder
    refine ⟨values, horder, (parseRequest_iff hnamed hmany hreal request).mpr ⟨hfits, ?_⟩⟩
    rw [hrequest, request_eq serial binding.opcode hnamed.fits horder hfits]

/-- The planes accept the same: the typed plane dispatches a request just if the string plane accepts the
text with the arguments of the writes, in the order of the slots. -/
def PlanesAgree (fromChars : List UInt8 → FromChars) (toChars : UInt32 → List UInt8) (s : State)
    (table : UInt32) (parentKey : Int32) (binding : TypedCommandBinding) (spec : CommandSpec)
    (writes : List ArgumentWrite) : Prop :=
  ∀ request, TypedDispatches s table parentKey binding writes request ↔
    ∃ values, InSlotOrder (writes.map ArgumentWrite.write) values ∧
      parseRequest fromChars (requestText toChars spec values) spec.carrier = .ok request

/-- The planes agree just if all writes are to declared slots, or those to the declared slots do not fill
them once each with values of their types. -/
theorem planes_agree_iff {s : State} {table : UInt32} {parentKey : Int32}
    (hready : Ready s table parentKey) {binding : TypedCommandBinding} {spec : CommandSpec}
    (hbinding : binding ∈ kTypedCommands) (hspec : findCommand binding.command = some spec)
    (writes : List ArgumentWrite)
    (hconv : ∀ w ∈ writes, ∀ x, w.value = .real x → Converts fromChars toChars x) :
    PlanesAgree fromChars toChars s table parentKey binding spec writes ↔
      (∀ w ∈ writes, w.slot.val < spec.types.length) ∨
        ¬ FillsOnce spec.types (writes.map ArgumentWrite.write) := by
  have htyped := typedDispatches_iff hready hbinding hspec writes
  have hstring := stringAccepts_iff hbinding hspec writes hconv s.begun
  constructor
  · intro hagree
    by_cases honce : FillsOnce spec.types (writes.map ArgumentWrite.write)
    · have hdispatched := (htyped _).mpr ⟨honce, rfl⟩
      exact .inl ((hstring _).mp ((hagree _).mp hdispatched)).1.2
    · exact .inr honce
  · intro hcases request
    rw [htyped, hstring]
    rcases hcases with hslots | hnone
    · simp only [and_iff_left hslots]
    · simp only [hnone, false_and]

def registered : State := { activeTable := 5 }

def textOfTwo (_ : UInt32) : List UInt8 := bytes "2"

def readTwo (text : List UInt8) : FromChars := ⟨.ok 0x40000000, text.length⟩

def radiusWrites : List ArgumentWrite :=
  [⟨⟨1, by decide⟩, .real 0x40000000⟩, ⟨⟨0, by decide⟩, .integer 7⟩]

/-- A radius of 2 for the light 7 is accepted by both planes. -/
theorem planes_agree_setRadius :
    PlanesAgree readTwo textOfTwo registered 5 1 ⟨103, .pointLightSetRadius, .void⟩
      ⟨.pointLightSetRadius, "pointLight.setRadius", .preloader, "dr", kFeaturePointLight, true⟩
      radiusWrites := by
  refine (planes_agree_iff ⟨rfl, by decide, .inr (by decide)⟩ (by decide) (by decide) radiusWrites
    ?_).mpr (.inl (by decide))
  intro w hw x hx
  have hx2 : x = 0x40000000 := by
    simp only [radiusWrites, List.mem_cons, List.not_mem_nil, or_false] at hw
    rcases hw with rfl | rfl
    · exact (Written.real.inj hx).symm
    · cases hx
  subst hx2
  exact ⟨fun _ => ⟨by decide, rfl⟩, fun h => absurd h (by decide), by decide +kernel, by decide +kernel⟩

/-- `time.visualSeconds` as an opcode. -/
def visualSeconds : TypedCommandBinding := ⟨401, .timeVisualSeconds, .real⟩

/-- `time.visualSeconds`, which declares no argument. -/
def visualSecondsSpec : CommandSpec :=
  ⟨.timeVisualSeconds, "time.visualSeconds", .localizedString, "", kFeatureTime, true⟩

def extraWrite : ArgumentWrite := ⟨⟨0, by decide⟩, .integer 7⟩

/-- A query without arguments is dispatched although an argument was written to it, while its text with that
argument is refused. -/
theorem extra_argument_dispatches :
    ¬ PlanesAgree readTwo textOfTwo registered 5 1 visualSeconds visualSecondsSpec [extraWrite] := by
  intro hagree
  have hbinding : visualSeconds ∈ kTypedCommands := by decide
  have hspec : findCommand visualSeconds.command = some visualSecondsSpec := by decide
  have hready : Ready registered 5 1 := ⟨rfl, by decide, .inr (by decide)⟩
  have honce : FillsOnce visualSecondsSpec.types ([extraWrite].map ArgumentWrite.write) := by
    intro slot declared h
    rw [show visualSecondsSpec.types = [] from rfl] at h
    simp at h
  have hdispatched := (typedDispatches_iff hready hbinding hspec [extraWrite] _).mpr ⟨honce, rfl⟩
  have haccepted := (stringAccepts_iff hbinding hspec [extraWrite] (by simp [extraWrite])
    registered.begun _).mp ((hagree _).mp hdispatched)
  exact absurd (haccepted.1.2 extraWrite (by simp)) (by decide)

end TypedTransport

end War3VK.Japi
