import Mathlib

/-!
# Plans of native calls

A plan says how the arguments of a native are packed, and is built from the native's entry and its
signature (`src/d3d9/war3/hooks/war3_jass_native_plan_cache.cpp`). The process is one of 32 bits, so that
addresses are 32-bit words. A read asks first whether its range can be read
(`src/d3d9/war3/core/war3_memory.cpp`, `IsReadableRange`).
-/

namespace War3VK.Hooks

/-! ## Memory -/

structure Memory where
  /-- The page of an address is committed and can be read. -/
  accessible : UInt32 → Bool
  byte : UInt32 → UInt8

namespace Memory

variable (m : Memory)

/-- `IsReadableRange`. -/
def isReadableRange (p : UInt32) (size : ℕ) : Bool :=
  p != 0 && size != 0 && !(p + UInt32.ofNat size < p) &&
    (List.range size).all fun k => m.accessible (p + UInt32.ofNat k)

def word (p : UInt32) : UInt32 :=
  (m.byte p).toUInt32 ||| (m.byte (p + 1)).toUInt32 <<< 8 |||
    (m.byte (p + 2)).toUInt32 <<< 16 ||| (m.byte (p + 3)).toUInt32 <<< 24

/-- `SafeReadU32`, and `SafeReadPtr`, which reads the same. -/
def safeReadU32 (base offset : UInt32) : Option UInt32 :=
  if m.isReadableRange (base + offset) 4 then some (m.word (base + offset)) else none

/-- `ReadByte`. -/
def readByte (p : UInt32) : Option UInt8 :=
  if p == 0 || !m.isReadableRange p 1 then none else some (m.byte p)

def ofWords (words : List (UInt32 × UInt32)) : Memory where
  accessible a := words.any fun w => w.1 ≤ a && a < w.1 + 4
  byte a := match words.find? fun w => w.1 ≤ a && a < w.1 + 4 with
    | some w => (w.2 >>> ((a - w.1) * 8)).toUInt8
    | none => 0

end Memory

/-! ## Plans -/

/-- `NativeArgOp`. -/
inductive NativeArgOp where
  | directValue
  | zeroIfType3AndNotC
  | funcAddrToHandle
  | handleToMemoryAddr
  | realByRefTemp
  | handleSigSkipToSemicolon
  deriving DecidableEq, Repr

/-- `NativeArgPlan`. -/
structure NativeArgPlan where
  op : NativeArgOp := .directValue
  sigChar : UInt8 := 0
  sigAdvance : UInt8 := 1
  deriving DecidableEq, Repr

/-- `kNativeJassNativeCallMaxArgs`. -/
def maxArgs : ℕ := 64

/-- `NativeCallPlan`. -/
structure NativeCallPlan where
  nativeEntry : UInt32 := 0
  funcPtr : UInt32 := 0
  sigPtr : UInt32 := 0
  paramCount : UInt32 := 0
  retType : UInt32 := 0
  scratchCount : ℕ := 0
  /-- `argOps`, an array of `kNativeJassNativeCallMaxArgs`. -/
  argOps : List NativeArgPlan := List.replicate maxArgs {}
  deriving DecidableEq, Repr

/-! ## Entries -/

/-- `kNativeEntryFuncPtrOffset`. -/
def kNativeEntryFuncPtrOffset : UInt32 := 0x1c

/-- `kNativeEntryParamCountOffset`. -/
def kNativeEntryParamCountOffset : UInt32 := 0x20

/-- `kNativeEntrySigPtrOffset`. -/
def kNativeEntrySigPtrOffset : UInt32 := 0x24

/-- `kNativeEntryRetTypeOffset`. -/
def kNativeEntryRetTypeOffset : UInt32 := 0x38

/-- What `ReadNativeMeta` reads of an entry. -/
structure NativeMeta where
  funcPtr : UInt32
  sigPtr : UInt32
  paramCount : UInt32
  retType : UInt32
  deriving DecidableEq, Repr

/-- `ReadNativeMeta`. -/
def readNativeMeta (m : Memory) (nativeEntry : UInt32) : Option NativeMeta := do
  guard (nativeEntry ≠ 0)
  let funcPtr ← m.safeReadU32 nativeEntry kNativeEntryFuncPtrOffset
  let sigPtr ← m.safeReadU32 nativeEntry kNativeEntrySigPtrOffset
  let paramCount ← m.safeReadU32 nativeEntry kNativeEntryParamCountOffset
  let retType ← m.safeReadU32 nativeEntry kNativeEntryRetTypeOffset
  guard (funcPtr ≠ 0 ∧ sigPtr ≠ 0)
  guard (paramCount.toNat ≤ maxArgs)
  pure { funcPtr := funcPtr, sigPtr := sigPtr, paramCount := paramCount, retType := retType }

/-- `IsPlanStillValid`, which reads `retType` as well and does not compare it. -/
def isPlanStillValid (m : Memory) (plan : NativeCallPlan) : Bool :=
  match readNativeMeta m plan.nativeEntry with
  | none => false
  | some entry =>
    entry.funcPtr == plan.funcPtr && entry.sigPtr == plan.sigPtr &&
      entry.paramCount == plan.paramCount

/-! ## Building -/

/-- The loop over an `H` run: how far it goes, and where its semicolon is. The last address is followed
by the null pointer, which is not read, so that the loop ends there at the latest. -/
def findSemicolon (m : Memory) : ℕ → UInt32 → ℕ → Option (ℕ × UInt32)
  | 0, _, _ => none
  | rest + 1, scan, advance =>
    let scan := scan + 1
    let advance := advance + 1
    match m.readByte scan with
    | none => none
    | some c =>
      if c = ';'.toUInt8 then some (advance, scan)
      else if c = 0 then none
      else findSemicolon m rest scan advance

def buildArg (m : Memory) (cursor : UInt32) : Option (NativeArgPlan × UInt32) :=
  match m.readByte cursor with
  | none => none
  | some sigChar =>
    if sigChar = 0 ∨ sigChar = ')'.toUInt8 then none
    else if sigChar = 'C'.toUInt8 then some (⟨.funcAddrToHandle, sigChar, 1⟩, cursor + 1)
    else if sigChar = 'S'.toUInt8 then some (⟨.handleToMemoryAddr, sigChar, 1⟩, cursor + 1)
    else if sigChar = 'R'.toUInt8 then some (⟨.realByRefTemp, sigChar, 1⟩, cursor + 1)
    else if sigChar = 'H'.toUInt8 then
      match findSemicolon m (2 ^ 32 - cursor.toNat) cursor 1 with
      | none => none
      | some (advance, scan) =>
        if advance > 255 then none
        else some (⟨.handleSigSkipToSemicolon, sigChar, UInt8.ofNat advance⟩, scan + 1)
    else some (⟨.zeroIfType3AndNotC, sigChar, 1⟩, cursor + 1)

/-- The loop over the arguments, from one on: the plan, and where the signature goes on. -/
def buildArgs (m : Memory) : ℕ → ℕ → UInt32 → NativeCallPlan → Option (NativeCallPlan × UInt32)
  | 0, _, cursor, plan => some (plan, cursor)
  | rest + 1, i, cursor, plan =>
    match buildArg m cursor with
    | none => none
    | some (arg, next) =>
      buildArgs m rest (i + 1) next
        { plan with
          scratchCount := plan.scratchCount + if arg.op = .realByRefTemp then 1 else 0
          argOps := plan.argOps.set i arg }

/-- `BuildPlanFromNativeEntry`. -/
def buildPlanFromNativeEntry (m : Memory) (nativeEntry : UInt32) : Option NativeCallPlan :=
  match readNativeMeta m nativeEntry with
  | none => none
  | some entry =>
    if m.readByte entry.sigPtr = some '('.toUInt8 then
      match buildArgs m entry.paramCount.toNat 0 (entry.sigPtr + 1)
          { nativeEntry := nativeEntry, funcPtr := entry.funcPtr, sigPtr := entry.sigPtr,
            paramCount := entry.paramCount, retType := entry.retType } with
      | none => none
      | some (plan, cursor) => if m.readByte cursor = some ')'.toUInt8 then some plan else none
    else
      none

end War3VK.Hooks

/-!
## The signatures that have plans

A signature is an opening parenthesis, its arguments, and a closing one. An argument is an `H` run that a
semicolon closes, or one other character. A plan is built exactly when an entry that can be read has a
signature with as many arguments as it has parameters (`buildPlan_eq_some_iff`), and it is the plan of the
entry's fields and of the text of its signature.
-/

namespace War3VK.Hooks

variable {m : Memory}

/-! ### Texts in memory -/

def Memory.Holds (m : Memory) : UInt32 → List UInt8 → Prop
  | _, [] => True
  | p, c :: text => m.readByte p = some c ∧ m.Holds (p + 1) text

instance Memory.decidableHolds (m : Memory) : ∀ p text, Decidable (m.Holds p text)
  | _, [] => isTrue trivial
  | p, _ :: text => @instDecidableAnd _ _ inferInstance (m.decidableHolds (p + 1) text)

theorem holds_append {p : UInt32} {front back : List UInt8} :
    m.Holds p (front ++ back) ↔ m.Holds p front ∧ m.Holds (p + UInt32.ofNat front.length) back := by
  induction front generalizing p with
  | nil =>
    have hzero : p + UInt32.ofNat ([] : List UInt8).length = p := UInt32.add_zero p
    rw [List.nil_append, hzero]
    exact (and_iff_right trivial).symm
  | cons c front ih =>
    have hnext : p + UInt32.ofNat (c :: front).length = p + 1 + UInt32.ofNat front.length := by
      rw [List.length_cons, UInt32.ofNat_add, UInt32.add_comm (UInt32.ofNat _), ← UInt32.add_assoc]
      rfl
    rw [List.cons_append, Memory.Holds, Memory.Holds, ih, hnext, and_assoc]

theorem readByte_ne_zero {p : UInt32} {c : UInt8} (h : m.readByte p = some c) : p ≠ 0 := by
  rintro rfl
  cases h

/-! ### Arguments -/

/-- The text of an argument: an `H` run that a semicolon closes, of at most 255 bytes, or one other
character that neither is null nor closes the signature. -/
def IsArg (text : List UInt8) : Prop :=
  (∃ c, text = [c] ∧ c ≠ 0 ∧ c ≠ ')'.toUInt8 ∧ c ≠ 'H'.toUInt8) ∨
    ∃ body, text = 'H'.toUInt8 :: (body ++ [';'.toUInt8]) ∧
      (∀ c ∈ body, c ≠ ';'.toUInt8 ∧ c ≠ 0) ∧ text.length ≤ 255

def argPlanOf : List UInt8 → NativeArgPlan
  | [] => {}
  | c :: rest =>
    if c = 'C'.toUInt8 then ⟨.funcAddrToHandle, c, 1⟩
    else if c = 'S'.toUInt8 then ⟨.handleToMemoryAddr, c, 1⟩
    else if c = 'R'.toUInt8 then ⟨.realByRefTemp, c, 1⟩
    else if c = 'H'.toUInt8 then
      ⟨.handleSigSkipToSemicolon, c, UInt8.ofNat (rest.length + 1)⟩
    else ⟨.zeroIfType3AndNotC, c, 1⟩

theorem findSemicolon_eq_some_iff {rest advance a : ℕ} {scan s : UInt32}
    (hrest : scan.toNat + rest = 2 ^ 32) :
    findSemicolon m rest scan advance = some (a, s) ↔
      ∃ body : List UInt8, (∀ c ∈ body, c ≠ ';'.toUInt8 ∧ c ≠ 0) ∧
        m.Holds (scan + 1) (body ++ [';'.toUInt8]) ∧
        a = advance + body.length + 1 ∧ s = scan + UInt32.ofNat (body.length + 1) := by
  induction rest generalizing scan advance with
  | zero => exact absurd hrest scan.toNat_lt.ne
  | succ rest ih =>
    rw [findSemicolon]
    cases hread : m.readByte (scan + 1) with
    | none =>
      constructor
      · intro h
        cases h
      · rintro ⟨body, -, hholds, -⟩
        cases body with
        | nil => rw [List.nil_append, Memory.Holds, hread] at hholds; cases hholds.1
        | cons d body => rw [List.cons_append, Memory.Holds, hread] at hholds; cases hholds.1
    | some c =>
      dsimp only
      by_cases hclose : c = ';'.toUInt8
      · rw [if_pos hclose]
        constructor
        · intro h
          obtain ⟨rfl, rfl⟩ := Prod.mk.inj (Option.some.inj h)
          exact ⟨[], fun _ hnil => (by cases hnil), ⟨hclose ▸ hread, trivial⟩, rfl, rfl⟩
        · rintro ⟨body, hbody, hholds, rfl, rfl⟩
          cases body with
          | nil => rfl
          | cons d body =>
            have hd : c = d := Option.some.inj (hread.symm.trans hholds.1)
            exact absurd (hd.symm.trans hclose) (hbody d List.mem_cons_self).1
      · rw [if_neg hclose]
        have hnext : (scan + 1).toNat + rest = 2 ^ 32 := by
          have hone : (1 : UInt32).toNat = 1 := rfl
          have hne : (scan + 1).toNat ≠ 0 := fun hzero =>
            readByte_ne_zero hread (UInt32.toNat_inj.mp hzero)
          rw [UInt32.toNat_add, hone] at hne ⊢
          have hlt := scan.toNat_lt
          omega
        by_cases hnull : c = 0
        · rw [if_pos hnull]
          constructor
          · intro h
            cases h
          · rintro ⟨body, hbody, hholds, -⟩
            cases body with
            | nil => exact absurd (Option.some.inj (hread.symm.trans hholds.1)) hclose
            | cons d body =>
              have hd : c = d := Option.some.inj (hread.symm.trans hholds.1)
              exact absurd (hd.symm.trans hnull) (hbody d List.mem_cons_self).2
        · rw [if_neg hnull, ih hnext]
          constructor
          · rintro ⟨body, hbody, hholds, rfl, rfl⟩
            refine ⟨c :: body, ?_, ⟨hread, hholds⟩, ?_, ?_⟩
            · exact List.forall_mem_cons.mpr ⟨⟨hclose, hnull⟩, hbody⟩
            · rw [List.length_cons]
              omega
            · rw [List.length_cons, UInt32.ofNat_add (body.length + 1) 1, UInt32.add_assoc,
                UInt32.add_comm 1]
              rfl
          · rintro ⟨body, hbody, hholds, rfl, rfl⟩
            cases body with
            | nil => exact absurd (Option.some.inj (hread.symm.trans hholds.1)) hclose
            | cons d body =>
              refine ⟨body, (List.forall_mem_cons.mp hbody).2, hholds.2, ?_, ?_⟩
              · rw [List.length_cons]
                omega
              · rw [List.length_cons, UInt32.ofNat_add (body.length + 1) 1, UInt32.add_assoc,
                  UInt32.add_comm 1]
                rfl

theorem IsArg.exists_head {text : List UInt8} (h : IsArg text) :
    ∃ c rest, text = c :: rest ∧ c ≠ 0 ∧ c ≠ ')'.toUInt8 ∧ (c ≠ 'H'.toUInt8 → rest = []) := by
  obtain ⟨c, rfl, hnull, hclose, -⟩ | ⟨body, rfl, -, -⟩ := h
  · exact ⟨c, [], rfl, hnull, hclose, fun _ => rfl⟩
  · exact ⟨'H'.toUInt8, _, rfl, by decide, by decide, fun hne => absurd rfl hne⟩

theorem exists_arg_iff_of_ne {cursor next : UInt32} {arg : NativeArgPlan} {c : UInt8}
    (hread : m.readByte cursor = some c) (hnull : c ≠ 0) (hclose : c ≠ ')'.toUInt8)
    (hne : c ≠ 'H'.toUInt8) :
    (∃ text, IsArg text ∧ m.Holds cursor text ∧ arg = argPlanOf text ∧
        next = cursor + UInt32.ofNat text.length) ↔
      arg = argPlanOf [c] ∧ next = cursor + 1 := by
  constructor
  · rintro ⟨text, htext, hholds, rfl, rfl⟩
    obtain ⟨d, rest, rfl, -, -, hrest⟩ := htext.exists_head
    obtain rfl : c = d := Option.some.inj (hread.symm.trans hholds.1)
    rw [hrest hne]
    exact ⟨rfl, rfl⟩
  · rintro ⟨rfl, rfl⟩
    exact ⟨[c], .inl ⟨c, rfl, hnull, hclose, hne⟩, ⟨hread, trivial⟩, rfl, rfl⟩

theorem exists_arg_iff_of_eq {cursor next : UInt32} {arg : NativeArgPlan}
    (hread : m.readByte cursor = some 'H'.toUInt8) :
    (∃ text, IsArg text ∧ m.Holds cursor text ∧ arg = argPlanOf text ∧
        next = cursor + UInt32.ofNat text.length) ↔
      ∃ advance scan, findSemicolon m (2 ^ 32 - cursor.toNat) cursor 1 = some (advance, scan) ∧
        advance ≤ 255 ∧ arg = ⟨.handleSigSkipToSemicolon, 'H'.toUInt8, UInt8.ofNat advance⟩ ∧
        next = scan + 1 := by
  have hrest : cursor.toNat + (2 ^ 32 - cursor.toNat) = 2 ^ 32 := by
    have hlt := cursor.toNat_lt
    omega
  have hlength : ∀ body : List UInt8, ('H'.toUInt8 :: (body ++ [';'.toUInt8])).length =
      1 + body.length + 1 := fun body => by
    rw [List.length_cons, List.length_append, List.length_singleton]
    omega
  have hnext : ∀ n : ℕ, cursor + UInt32.ofNat (n + 1) + 1 = cursor + UInt32.ofNat (1 + n + 1) :=
    fun n => by
      rw [Nat.add_comm 1 n, UInt32.ofNat_add (n + 1) 1, UInt32.add_assoc]
      rfl
  constructor
  · rintro ⟨text, htext, hholds, rfl, rfl⟩
    obtain ⟨c, rfl, -, -, hne⟩ | ⟨body, rfl, hbody, hle⟩ := htext
    · exact absurd (Option.some.inj (hholds.1.symm.trans hread)) hne
    · refine ⟨_, _, (findSemicolon_eq_some_iff hrest).mpr ⟨body, hbody, hholds.2, rfl, rfl⟩, ?_, ?_, ?_⟩
      · rw [← hlength]
        exact hle
      · rw [← hlength]
        rfl
      · rw [hlength, hnext]
  · rintro ⟨advance, scan, hfind, hle, rfl, rfl⟩
    obtain ⟨body, hbody, hholds, rfl, rfl⟩ := (findSemicolon_eq_some_iff hrest).mp hfind
    rw [← hlength] at hle
    refine ⟨_, .inr ⟨body, rfl, hbody, hle⟩, ⟨hread, hholds⟩, ?_, ?_⟩
    · rw [← hlength]
      rfl
    · rw [hlength, hnext]

theorem buildArg_eq_some_iff {cursor next : UInt32} {arg : NativeArgPlan} :
    buildArg m cursor = some (arg, next) ↔ ∃ text, IsArg text ∧ m.Holds cursor text ∧ arg = argPlanOf text ∧
        next = cursor + UInt32.ofNat text.length := by
  unfold buildArg
  cases hread : m.readByte cursor with
  | none =>
    constructor
    · intro h
      cases h
    · rintro ⟨text, htext, hholds, -⟩
      obtain ⟨c, rest, rfl, -⟩ := htext.exists_head
      cases hread.symm.trans hholds.1
  | some c =>
    dsimp only
    by_cases hend : c = 0 ∨ c = ')'.toUInt8
    · rw [if_pos hend]
      constructor
      · intro h
        cases h
      · rintro ⟨text, htext, hholds, -⟩
        obtain ⟨d, rest, rfl, hnull, hclose, -⟩ := htext.exists_head
        obtain rfl : c = d := Option.some.inj (hread.symm.trans hholds.1)
        exact (hend.elim hnull hclose).elim
    · rw [if_neg hend]
      obtain ⟨hnull, hclose⟩ := not_or.mp hend
      by_cases hhandle : c = 'H'.toUInt8
      · subst hhandle
        rw [if_neg (by decide), if_neg (by decide), if_neg (by decide), if_pos rfl,
          exists_arg_iff_of_eq hread]
        cases hfind : findSemicolon m (2 ^ 32 - cursor.toNat) cursor 1 with
        | none => simp
        | some found =>
          obtain ⟨advance, scan⟩ := found
          by_cases hlong : advance > 255
          · simp [hlong]
          · simp [hlong, not_lt.mp hlong, eq_comm]
      · rw [exists_arg_iff_of_ne hread hnull hclose hhandle, if_neg hhandle, argPlanOf]
        -- Each of the other characters is followed by the next argument.
        split_ifs <;> simp [eq_comm]

/-! ### Signatures -/

def fillArgs : ℕ → NativeCallPlan → List (List UInt8) → NativeCallPlan
  | _, plan, [] => plan
  | i, plan, text :: texts =>
    fillArgs (i + 1)
      { plan with
        scratchCount := plan.scratchCount + if (argPlanOf text).op = .realByRefTemp then 1 else 0
        argOps := plan.argOps.set i (argPlanOf text) } texts

theorem buildArgs_eq_some_iff {count i : ℕ} {cursor next : UInt32} {plan after : NativeCallPlan} :
    buildArgs m count i cursor plan = some (after, next) ↔
      ∃ texts : List (List UInt8), texts.length = count ∧ (∀ text ∈ texts, IsArg text) ∧
        m.Holds cursor texts.flatten ∧ after = fillArgs i plan texts ∧
        next = cursor + UInt32.ofNat texts.flatten.length := by
  induction count generalizing i cursor plan with
  | zero =>
    rw [buildArgs]
    constructor
    · intro h
      obtain ⟨rfl, rfl⟩ := Prod.mk.inj (Option.some.inj h)
      exact ⟨[], rfl, fun _ hnil => (by cases hnil), trivial, rfl, (UInt32.add_zero _).symm⟩
    · rintro ⟨texts, hlength, -, -, rfl, rfl⟩
      obtain rfl := List.length_eq_zero_iff.mp hlength
      exact congrArg (fun p => some (plan, p)) (UInt32.add_zero cursor).symm
  | succ count ih =>
    have hstep : buildArgs m (count + 1) i cursor plan = some (after, next) ↔
        ∃ arg middle, buildArg m cursor = some (arg, middle) ∧ buildArgs m count (i + 1) middle
            { plan with
              scratchCount := plan.scratchCount + if arg.op = .realByRefTemp then 1 else 0
              argOps := plan.argOps.set i arg } = some (after, next) := by
      rw [buildArgs]
      cases buildArg m cursor with
      | none => simp
      | some built => simp [Prod.ext_iff]
    have hnext : ∀ (text : List UInt8) (texts : List (List UInt8)),
        cursor + UInt32.ofNat text.length + UInt32.ofNat texts.flatten.length =
          cursor + UInt32.ofNat (text :: texts).flatten.length := fun text texts => by
      rw [List.flatten_cons, List.length_append, UInt32.ofNat_add, UInt32.add_assoc]
    rw [hstep]
    constructor
    · rintro ⟨arg, middle, harg, hargs⟩
      obtain ⟨text, htext, hholds, rfl, rfl⟩ := buildArg_eq_some_iff.mp harg
      obtain ⟨texts, rfl, htexts, hrest, rfl, rfl⟩ := ih.mp hargs
      refine ⟨text :: texts, rfl, List.forall_mem_cons.mpr ⟨htext, htexts⟩, ?_, rfl, hnext text texts⟩
      exact holds_append.mpr ⟨hholds, hrest⟩
    · rintro ⟨texts, hlength, htexts, hholds, rfl, rfl⟩
      cases texts with
      | nil => cases hlength
      | cons text texts =>
        obtain ⟨htext, htexts⟩ := List.forall_mem_cons.mp htexts
        obtain ⟨hhead, hrest⟩ := holds_append.mp hholds
        refine ⟨_, _, buildArg_eq_some_iff.mpr ⟨text, htext, hhead, rfl, rfl⟩, ?_⟩
        exact ih.mpr ⟨texts, Nat.succ_inj.mp hlength, htexts, hrest, rfl, (hnext text texts).symm⟩

def signatureOf (texts : List (List UInt8)) : List UInt8 :=
  '('.toUInt8 :: (texts.flatten ++ [')'.toUInt8])

def planOf (nativeEntry : UInt32) (entry : NativeMeta) (texts : List (List UInt8)) : NativeCallPlan :=
  fillArgs 0
    { nativeEntry := nativeEntry, funcPtr := entry.funcPtr, sigPtr := entry.sigPtr,
      paramCount := entry.paramCount, retType := entry.retType } texts

structure Signed (m : Memory) (entry : NativeMeta) (texts : List (List UInt8)) : Prop where
  length : texts.length = entry.paramCount.toNat
  args : ∀ text ∈ texts, IsArg text
  holds : m.Holds entry.sigPtr (signatureOf texts)

theorem buildPlan_eq_some_iff {nativeEntry : UInt32} {plan : NativeCallPlan} :
    buildPlanFromNativeEntry m nativeEntry = some plan ↔
      ∃ entry texts, readNativeMeta m nativeEntry = some entry ∧ Signed m entry texts ∧
        plan = planOf nativeEntry entry texts := by
  unfold buildPlanFromNativeEntry
  cases hmeta : readNativeMeta m nativeEntry with
  | none => simp
  | some entry =>
    dsimp only
    constructor
    · intro h
      split at h
      · rename_i hopen
        cases hargs : buildArgs m entry.paramCount.toNat 0 (entry.sigPtr + 1)
            { nativeEntry := nativeEntry, funcPtr := entry.funcPtr, sigPtr := entry.sigPtr,
              paramCount := entry.paramCount, retType := entry.retType } with
        | none => rw [hargs] at h; cases h
        | some built =>
          rw [hargs] at h
          dsimp only at h
          split at h
          · rename_i hclose
            obtain rfl := Option.some.inj h
            obtain ⟨texts, hlength, htexts, hholds, hplan, hnext⟩ := buildArgs_eq_some_iff.mp hargs
            rw [hnext] at hclose
            refine ⟨entry, texts, rfl, ⟨hlength, htexts, hopen, ?_⟩, hplan⟩
            exact holds_append.mpr ⟨hholds, hclose, trivial⟩
          · cases h
      · cases h
    · rintro ⟨_, texts, heq, hsigned, rfl⟩
      obtain rfl := Option.some.inj heq
      obtain ⟨hopen, hrest⟩ := hsigned.holds
      obtain ⟨hholds, hclose, -⟩ := holds_append.mp hrest
      rw [if_pos hopen, buildArgs_eq_some_iff.mpr
        ⟨texts, hsigned.length, hsigned.args, hholds, rfl, rfl⟩]
      dsimp only
      rw [if_pos hclose]
      rfl

theorem readNativeMeta_eq_some_iff {nativeEntry : UInt32} {entry : NativeMeta} :
    readNativeMeta m nativeEntry = some entry ↔ nativeEntry ≠ 0 ∧
      m.safeReadU32 nativeEntry kNativeEntryFuncPtrOffset = some entry.funcPtr ∧
      m.safeReadU32 nativeEntry kNativeEntrySigPtrOffset = some entry.sigPtr ∧
      m.safeReadU32 nativeEntry kNativeEntryParamCountOffset = some entry.paramCount ∧
      m.safeReadU32 nativeEntry kNativeEntryRetTypeOffset = some entry.retType ∧
      entry.funcPtr ≠ 0 ∧ entry.sigPtr ≠ 0 ∧ entry.paramCount.toNat ≤ maxArgs := by
  unfold readNativeMeta
  simp only [Option.bind_eq_bind, Option.bind_eq_some_iff, Option.guard_eq_some', Option.pure_def,
    Option.some.injEq]
  constructor
  · rintro ⟨_, hentry, f, hf, s, hs, c, hc, r, hr, _, ⟨hf', hs'⟩, _, hle, rfl⟩
    exact ⟨hentry, hf, hs, hc, hr, hf', hs', hle⟩
  · rintro ⟨hentry, hf, hs, hc, hr, hf', hs', hle⟩
    exact ⟨(), hentry, _, hf, _, hs, _, hc, _, hr, (), ⟨hf', hs'⟩, (), hle, rfl⟩

end War3VK.Hooks
