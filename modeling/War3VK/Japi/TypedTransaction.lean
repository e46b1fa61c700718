import Mathlib.Data.List.Induction
import War3VK.Japi.Commands
import War3VK.Lib.Bits

/-!
# The writes of a typed command

A command on the typed plane collects its arguments slot by slot (`src/d3d9/war3/japi/war3_japi_v1.cpp`,
`AssignTypedInteger`, `AssignTypedReal`, `IsTypedTransactionComplete`). A transaction remembers which
slots were written and whether a write was wrong.
-/

namespace War3VK.Japi

open Lib

/-- `Argument`. -/
structure Argument where
  type : WireType := .i32
  boolean : Bool := false
  integer : Int32 := 0
  real : UInt32 := 0
  text : List UInt8 := []
  deriving DecidableEq, Repr

/-- `kMaximumArgumentCount`. -/
def kMaximumArgumentCount : ℕ := 16

/-- `ParsedRequest`. -/
structure ParsedRequest where
  spec : Option CommandSpec := none
  arguments : List Argument := List.replicate kMaximumArgumentCount {}
  argumentCount : ℕ := 0
  deriving DecidableEq, Repr

/-- `TypedTransaction`. -/
structure TypedTransaction where
  /-- Which of the commands begun this is. It is not in the source and names the command below. -/
  serial : ℕ := 0
  opcode : Int32 := 0
  request : ParsedRequest := {}
  writtenMask : ℕ := 0
  invalid : Bool := false
  deriving DecidableEq, Repr

/-- A value that a script writes: an integer, or the bits of a float. -/
inductive Written
  | integer (value : Int32)
  | real (value : UInt32)
  deriving DecidableEq, Repr

structure Write where
  slot : ℕ
  value : Written
  deriving DecidableEq, Repr

/-- `std::isfinite`: the exponent is not all ones. -/
def isfinite (x : UInt32) : Bool := x &&& 0x7f800000 ≠ 0x7f800000

/-- What `AssignTypedInteger` makes of an argument of a declared type, and whether the value is wrong. -/
def storeInteger (declared : Char) (value : Int32) (argument : Argument) : Argument × Bool :=
  match declared with
  | 'b' => ({ argument with type := .bool, boolean := value ≠ 0 }, value ≠ 0 && value ≠ 1)
  | 'i' => ({ argument with type := .i32, integer := value }, false)
  | 'd' => ({ argument with type := .id, integer := value }, value ≤ 0)
  | _ => (argument, true)

/-- What `AssignTypedReal` makes of an argument of a declared type, and whether the value is wrong. -/
def storeReal (declared : Char) (value : UInt32) (argument : Argument) : Argument × Bool :=
  if declared ≠ 'r' || !isfinite value then (argument, true)
  else ({ argument with type := .real, real := value }, false)

namespace TypedTransaction

/-- What `AssignTypedInteger` and `AssignTypedReal` share: a slot that is not declared is not assigned, a
slot that was written makes the transaction invalid. -/
def assign (t : TypedTransaction) (slot : ℕ) (store : Char → Argument → Argument × Bool) :
    Bool × TypedTransaction :=
  match t.request.spec with
  | none => (false, t)
  | some spec =>
    if t.request.argumentCount ≤ slot || 32 ≤ slot then (false, t)
    else
      let bit := 1 <<< slot
      if t.writtenMask &&& bit ≠ 0 then (true, { t with invalid := true })
      else
        let stored := store ((spec.types[slot]?).getD '\x00') ((t.request.arguments[slot]?).getD {})
        (true, { t with
          request := { t.request with arguments := t.request.arguments.set slot stored.1 }
          writtenMask := t.writtenMask ||| bit
          invalid := t.invalid || stored.2 })

/-- `AssignTypedInteger`. -/
def assignTypedInteger (t : TypedTransaction) (slot : ℕ) (value : Int32) : Bool × TypedTransaction :=
  t.assign slot fun declared argument => storeInteger declared value argument

/-- `AssignTypedReal`. -/
def assignTypedReal (t : TypedTransaction) (slot : ℕ) (value : UInt32) : Bool × TypedTransaction :=
  t.assign slot fun declared argument => storeReal declared value argument

/-- `RequiredArgumentMask`. -/
def requiredArgumentMask (request : ParsedRequest) : ℕ :=
  if request.spec.isNone || request.argumentCount = 0 then 0 else (1 <<< request.argumentCount) - 1

/-- `IsTypedTransactionComplete`. -/
def isComplete (t : TypedTransaction) : Bool :=
  !t.invalid && t.request.spec.isSome && t.writtenMask = requiredArgumentMask t.request

def opened (serial : ℕ) (opcode : Int32) (spec : CommandSpec) : TypedTransaction :=
  { serial, opcode, request := { spec := some spec, argumentCount := spec.types.length } }

def put (t : TypedTransaction) (w : Write) : TypedTransaction :=
  match w.value with
  | .integer value => (t.assignTypedInteger w.slot value).2
  | .real value => (t.assignTypedReal w.slot value).2

def fill (t : TypedTransaction) (writes : List Write) : TypedTransaction := writes.foldl put t

end TypedTransaction

/-! ## What a list of writes says -/

def Written.fits (declared : Char) : Written → Bool
  | .integer value =>
    declared = 'i' || (declared = 'b' && (value = 0 || value = 1)) || (declared = 'd' && 0 < value)
  | .real value => declared = 'r' && isfinite value

def Written.argument (declared : Char) : Written → Argument
  | .integer value =>
    if declared = 'b' then { type := .bool, boolean := value ≠ 0 }
    else if declared = 'd' then { type := .id, integer := value }
    else { type := .i32, integer := value }
  | .real value => { type := .real, real := value }

def writesAt (slot : ℕ) (writes : List Write) : List Write := writes.filter fun w => w.slot = slot

/-- No declared slot is written twice, or with a value of another type. -/
def Sound (types : List Char) (writes : List Write) : Prop :=
  ∀ slot declared, types[slot]? = some declared →
    writesAt slot writes = [] ∨ ∃ w, writesAt slot writes = [w] ∧ w.value.fits declared = true

/-- Every declared slot is written exactly once, with a value of its type. -/
def FillsOnce (types : List Char) (writes : List Write) : Prop :=
  ∀ slot declared, types[slot]? = some declared →
    ∃ w, writesAt slot writes = [w] ∧ w.value.fits declared = true

theorem writesAt_concat_same (writes : List Write) (w : Write) :
    writesAt w.slot (writes ++ [w]) = writesAt w.slot writes ++ [w] := by
  simp [writesAt, List.filter_append]

theorem writesAt_concat_other {slot : ℕ} {w : Write} (h : w.slot ≠ slot) (writes : List Write) :
    writesAt slot (writes ++ [w]) = writesAt slot writes := by
  simp [writesAt, List.filter_append, h]

theorem storeReal_spec (declared : Char) (value : UInt32) :
    (storeReal declared value {}).2 = !(Written.real value).fits declared ∧
      ((Written.real value).fits declared = true →
        (storeReal declared value {}).1 = (Written.real value).argument declared) := by
  unfold storeReal Written.fits Written.argument
  by_cases hd : declared = 'r' <;> cases hf : isfinite value <;> simp [hd, hf]

theorem storeInteger_spec (declared : Char) (value : Int32) :
    (storeInteger declared value {}).2 = !(Written.integer value).fits declared ∧
      ((Written.integer value).fits declared = true →
        (storeInteger declared value {}).1 = (Written.integer value).argument declared) := by
  unfold storeInteger Written.fits Written.argument
  split
  · simp
  · simp
  · simp [← Int32.not_lt, decide_not]
  · rename_i hb hi hd
    have hb' : declared ≠ 'b' := hb
    have hi' : declared ≠ 'i' := hi
    have hd' : declared ≠ 'd' := hd
    simp [hb', hi', hd']

structure Filled (spec : CommandSpec) (t : TypedTransaction) (writes : List Write) : Prop where
  spec_eq : t.request.spec = some spec
  count_eq : t.request.argumentCount = spec.types.length
  length_eq : t.request.arguments.length = kMaximumArgumentCount
  /-- The mask has the declared slots that were written. -/
  written : ∀ slot, t.writtenMask.testBit slot = true ↔
    slot < spec.types.length ∧ writesAt slot writes ≠ []
  valid : t.invalid = false ↔ Sound spec.types writes
  argument : Sound spec.types writes → ∀ slot declared w, spec.types[slot]? = some declared →
    writesAt slot writes = [w] → t.request.arguments[slot]? = some (w.value.argument declared)
  untouched : ∀ slot, spec.types.length ≤ slot ∨ writesAt slot writes = [] →
    t.request.arguments[slot]? = (List.replicate kMaximumArgumentCount {})[slot]?

theorem filled_opened (serial : ℕ) (opcode : Int32) (spec : CommandSpec) :
    Filled spec (TypedTransaction.opened serial opcode spec) [] where
  spec_eq := rfl
  count_eq := rfl
  length_eq := rfl
  written slot := by simp [TypedTransaction.opened, writesAt]
  valid := by simp [TypedTransaction.opened, Sound, writesAt]
  argument _ _ _ _ _ h := by simp [writesAt] at h
  untouched _ _ := rfl

theorem TypedTransaction.put_eq (t : TypedTransaction) (w : Write) :
    ∃ store, t.put w = (t.assign w.slot store).2 ∧ ∀ declared,
      (store declared {}).2 = !w.value.fits declared ∧
        (w.value.fits declared = true → (store declared {}).1 = w.value.argument declared) := by
  obtain ⟨slot, value | value⟩ := w
  · exact ⟨_, rfl, fun declared => storeInteger_spec declared value⟩
  · exact ⟨_, rfl, fun declared => storeReal_spec declared value⟩

theorem TypedTransaction.put_serial (t : TypedTransaction) (w : Write) :
    (t.put w).serial = t.serial := by
  obtain ⟨store, hput, -⟩ := t.put_eq w
  rw [hput, TypedTransaction.assign]
  cases t.request.spec with
  | none => rfl
  | some spec =>
    dsimp only
    split_ifs <;> rfl

theorem TypedTransaction.put_opcode (t : TypedTransaction) (w : Write) :
    (t.put w).opcode = t.opcode := by
  obtain ⟨store, hput, -⟩ := t.put_eq w
  rw [hput, TypedTransaction.assign]
  cases t.request.spec with
  | none => rfl
  | some spec =>
    dsimp only
    split_ifs <;> rfl

variable {spec : CommandSpec} {t : TypedTransaction} {writes : List Write}

section

variable (h : Filled spec t writes)
include h

theorem Filled.put_undeclared (w : Write) (hslot : spec.types.length ≤ w.slot) :
    t.put w = t ∧ Filled spec t (writes ++ [w]) := by
  obtain ⟨store, hput, -⟩ := t.put_eq w
  -- Nothing that is said of the declared slots sees the write.
  have hother : ∀ slot, slot < spec.types.length →
      writesAt slot (writes ++ [w]) = writesAt slot writes := fun slot hlt =>
    writesAt_concat_other (by omega) writes
  have hsound : Sound spec.types (writes ++ [w]) ↔ Sound spec.types writes := by
    refine forall_congr' fun slot => forall_congr' fun declared => imp_congr_right fun hd => ?_
    rw [hother slot (List.getElem?_eq_some_iff.mp hd).1]
  refine ⟨?_, h.spec_eq, h.count_eq, h.length_eq, fun slot => ?_, ?_, fun hs slot declared v hd hv => ?_,
    fun slot hs => ?_⟩
  · rw [hput, TypedTransaction.assign, h.spec_eq]
    dsimp only
    rw [if_pos (by simp [h.count_eq, hslot])]
  · rw [h.written slot]
    exact and_congr_right fun hlt => by rw [hother slot hlt]
  · rw [h.valid, hsound]
  · rw [hother slot (List.getElem?_eq_some_iff.mp hd).1] at hv
    exact h.argument (hsound.mp hs) slot declared v hd hv
  · rcases Nat.lt_or_ge slot spec.types.length with hlt | hge
    · rw [hother slot hlt] at hs
      exact h.untouched slot hs
    · exact h.untouched slot (.inl hge)

theorem Filled.put_again (w : Write) (hcount : spec.types.length ≤ 32)
    (hslot : w.slot < spec.types.length) (hwritten : writesAt w.slot writes ≠ []) :
    Filled spec (t.put w) (writes ++ [w]) := by
  obtain ⟨store, hput, -⟩ := t.put_eq w
  have hbit : t.writtenMask.testBit w.slot = true := (h.written w.slot).mpr ⟨hslot, hwritten⟩
  have hassign : t.put w = { t with invalid := true } := by
    rw [hput, TypedTransaction.assign, h.spec_eq]
    dsimp only
    rw [if_neg (by simp [h.count_eq]; omega), if_pos ((and_bit_ne_zero _ _).mpr hbit)]
  -- The slot now has two writes, so the writes are not sound any more.
  have hunsound : ¬ Sound spec.types (writes ++ [w]) := by
    intro hs
    rcases hs w.slot _ (List.getElem?_eq_getElem hslot) with hnil | ⟨v, hv, -⟩
    · simp [writesAt_concat_same] at hnil
    · rw [writesAt_concat_same] at hv
      have := congrArg List.length hv
      have := List.length_pos_iff.mpr hwritten
      simp only [List.length_append, List.length_cons, List.length_nil] at *
      omega
  rw [hassign]
  refine ⟨h.spec_eq, h.count_eq, h.length_eq, fun slot => ?_, ?_, fun hs => absurd hs hunsound,
    fun slot hs => ?_⟩
  · rw [h.written slot]
    refine and_congr_right fun _ => ?_
    by_cases hsame : w.slot = slot
    · subst hsame
      simp [writesAt_concat_same, hwritten]
    · rw [writesAt_concat_other hsame]
  · simp [hunsound]
  · refine h.untouched slot (hs.imp_right fun hnil => ?_)
    by_cases hsame : w.slot = slot
    · subst hsame
      simp [writesAt_concat_same] at hnil
    · rwa [writesAt_concat_other hsame] at hnil

theorem Filled.put_fresh (w : Write) (hcount : spec.types.length ≤ kMaximumArgumentCount)
    (hslot : w.slot < spec.types.length) (hwritten : writesAt w.slot writes = []) :
    Filled spec (t.put w) (writes ++ [w]) := by
  obtain ⟨store, hput, hstore⟩ := t.put_eq w
  have hbit : ¬ t.writtenMask.testBit w.slot = true := fun hbit =>
    ((h.written w.slot).mp hbit).2 hwritten
  have hmax : kMaximumArgumentCount = 16 := rfl
  have hlen : w.slot < t.request.arguments.length := by rw [h.length_eq]; omega
  obtain ⟨declared, hdeclared⟩ : ∃ declared, spec.types[w.slot]? = some declared :=
    ⟨_, List.getElem?_eq_getElem hslot⟩
  have hblank : t.request.arguments[w.slot]? = some {} := by
    rw [h.untouched w.slot (.inr hwritten), List.getElem?_replicate, if_pos (by omega)]
  have hassign : t.put w = { t with
      request := { t.request with arguments := t.request.arguments.set w.slot (store declared {}).1 }
      writtenMask := t.writtenMask ||| 1 <<< w.slot
      invalid := t.invalid || (store declared {}).2 } := by
    rw [hput, TypedTransaction.assign, h.spec_eq]
    dsimp only
    rw [if_neg (by simp [h.count_eq]; omega), if_neg (mt (and_bit_ne_zero _ _).mp hbit), hdeclared, hblank]
    rfl
  have hhere : writesAt w.slot (writes ++ [w]) = [w] := by rw [writesAt_concat_same, hwritten]; rfl
  -- The writes stay sound just if the new value is of the declared type.
  have hsound : Sound spec.types (writes ++ [w]) ↔
      Sound spec.types writes ∧ w.value.fits declared = true := by
    constructor
    · intro hs
      refine ⟨fun slot d hd => ?_, ?_⟩
      · by_cases hsame : w.slot = slot
        · exact .inl (hsame ▸ hwritten)
        · rw [← writesAt_concat_other hsame writes]
          exact hs slot d hd
      · rcases hs w.slot declared hdeclared with hnil | ⟨v, hv, hfits⟩
        · rw [hhere] at hnil
          simp at hnil
        · rw [hhere, List.cons.injEq] at hv
          rw [hv.1]
          exact hfits
    · rintro ⟨hs, hfits⟩ slot d hd
      by_cases hsame : w.slot = slot
      · subst hsame
        rw [hdeclared, Option.some.injEq] at hd
        exact .inr ⟨w, hhere, hd ▸ hfits⟩
      · rw [writesAt_concat_other hsame]
        exact hs slot d hd
  rw [hassign]
  refine ⟨h.spec_eq, h.count_eq, by simpa using h.length_eq, fun slot => ?_, ?_,
    fun hs slot d v hd hv => ?_, fun slot hs => ?_⟩
  · dsimp only
    rw [testBit_or_bit, Bool.or_eq_true, h.written slot, decide_eq_true_iff]
    by_cases hsame : w.slot = slot
    · subst hsame
      simp [hslot, hhere]
    · simp [hsame, writesAt_concat_other hsame]
  · dsimp only
    rw [hsound, ← h.valid, (hstore declared).1]
    simp
  · dsimp only
    by_cases hsame : w.slot = slot
    · subst hsame
      rw [hhere, List.cons.injEq] at hv
      rw [hdeclared, Option.some.injEq] at hd
      rw [List.getElem?_set_self hlen, ← hv.1, ← hd, (hstore declared).2 (hsound.mp hs).2]
    · rw [writesAt_concat_other hsame] at hv
      rw [List.getElem?_set_ne hsame]
      exact h.argument (hsound.mp hs).1 slot d v hd hv
  · dsimp only
    have hne : w.slot ≠ slot := by
      rintro rfl
      rcases hs with hge | hnil
      · omega
      · simp [hhere] at hnil
    rw [List.getElem?_set_ne hne]
    rw [writesAt_concat_other hne] at hs
    exact h.untouched slot hs

theorem Filled.put (w : Write) (hcount : spec.types.length ≤ kMaximumArgumentCount) :
    Filled spec (t.put w) (writes ++ [w]) := by
  have hmax : kMaximumArgumentCount = 16 := rfl
  rcases Nat.lt_or_ge w.slot spec.types.length with hlt | hge
  · by_cases hwritten : writesAt w.slot writes = []
    · exact h.put_fresh w hcount hlt hwritten
    · exact h.put_again w (by omega) hlt hwritten
  · obtain ⟨hsame, hfilled⟩ := h.put_undeclared w hge
    rw [hsame]
    exact hfilled

theorem Filled.requiredArgumentMask_eq :
    TypedTransaction.requiredArgumentMask t.request = 2 ^ spec.types.length - 1 := by
  unfold TypedTransaction.requiredArgumentMask
  rw [h.spec_eq, h.count_eq, Nat.one_shiftLeft]
  by_cases hzero : spec.types.length = 0 <;> simp [hzero]

theorem Filled.isComplete_iff : t.isComplete = true ↔ FillsOnce spec.types writes := by
  have hmask : t.writtenMask = 2 ^ spec.types.length - 1 ↔
      ∀ slot < spec.types.length, writesAt slot writes ≠ [] := by
    constructor
    · intro heq slot hlt
      have hbit : t.writtenMask.testBit slot = true := by
        rw [heq, Nat.testBit_two_pow_sub_one, decide_eq_true_iff]
        exact hlt
      exact ((h.written slot).mp hbit).2
    · intro hall
      refine Nat.eq_of_testBit_eq fun slot => ?_
      rw [Bool.eq_iff_iff, h.written slot, Nat.testBit_two_pow_sub_one, decide_eq_true_iff]
      exact ⟨And.left, fun hlt => ⟨hlt, hall slot hlt⟩⟩
  have hcomplete : t.isComplete = true ↔ Sound spec.types writes ∧
      ∀ slot < spec.types.length, writesAt slot writes ≠ [] := by
    rw [TypedTransaction.isComplete, h.requiredArgumentMask_eq, h.spec_eq, ← h.valid, ← hmask]
    simp
  rw [hcomplete]
  constructor
  · rintro ⟨hsound, hall⟩ slot declared hd
    exact (hsound slot declared hd).resolve_left (hall slot (List.getElem?_eq_some_iff.mp hd).1)
  · intro honce
    refine ⟨fun slot declared hd => .inr (honce slot declared hd), fun slot hlt hnil => ?_⟩
    obtain ⟨w, hw, -⟩ := honce slot _ (List.getElem?_eq_getElem hlt)
    simp [hnil] at hw

end

theorem filled_fill (serial : ℕ) (opcode : Int32) (spec : CommandSpec)
    (hcount : spec.types.length ≤ kMaximumArgumentCount) (writes : List Write) :
    Filled spec ((TypedTransaction.opened serial opcode spec).fill writes) writes := by
  induction writes using List.reverseRecOn with
  | nil => exact filled_opened serial opcode spec
  | append_singleton writes w ih =>
    rw [TypedTransaction.fill, List.foldl_append]
    exact ih.put w hcount

end War3VK.Japi
