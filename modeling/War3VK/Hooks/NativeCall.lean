import War3VK.Hooks.NativePlan

/-!
# The fast native call

`ExecuteNativeCallFast` reads the arguments of a native from the stack of the virtual machine, packs them
as the plan says, calls the native and lowers the top of the stack
(`src/d3d9/war3/hooks/war3_jass_native_plan_cache.cpp`). What the helpers and the native do to the memory is
not in the source, so that the memory is given anew for each argument, and once more for what is read
after the native was called. The calls that are made, and the one store, are listed in their order.
-/

namespace War3VK.Hooks

/-! ## The surroundings -/

inductive Helper where
  | regFuncAddr2Handle
  | computeHandleMemoryAddr
  deriving DecidableEq, Repr

/-- What leaves `ExecuteNativeCallFast`. -/
inductive Effect where
  | help (helper : Helper) (value : UInt32)
  /-- `InvokeCdeclPacked`, with the cells of `t_callScratch` as the native finds them. -/
  | invoke (funcPtr : UInt32) (args scratch : List UInt32)
  | store (address value : UInt32)
  deriving DecidableEq, Repr

structure Surroundings where
  vm : UInt32
  /-- `IsCdeclPackedInvokeSupported`. -/
  invokeSupported : Bool
  configured : Helper → Bool
  before : Memory
  /-- The memory that an argument finds, after what was done for those before it. -/
  memory : ℕ → Memory
  after : Memory
  /-- What a helper answers for an argument and a value. -/
  answer : Helper → ℕ → UInt32 → UInt32
  ret : UInt32
  /-- The address of `t_callScratch`. -/
  scratchBase : UInt32

/-- `kVmStackPtrOffset`. -/
def kVmStackPtrOffset : UInt32 := 0x2868

/-- `kStackTopOffset`. -/
def kStackTopOffset : UInt32 := 0x8c

/-- `kStackItemsBaseOffset`. -/
def kStackItemsBaseOffset : UInt32 := 0x08

/-- `kStackValueTypeOffset`. -/
def kStackValueTypeOffset : UInt32 := 0x18

/-- `kStackValueDataOffset`. -/
def kStackValueDataOffset : UInt32 := 0x20

/-- `kJassStackValueTypeCode`. -/
def kJassStackValueTypeCode : UInt32 := 3

/-! ## Arguments -/

structure StackValue where
  valueType : UInt32
  rawValue : UInt32
  deriving DecidableEq, Repr

def itemSlotAddr (stackPtr sourceIndex : UInt32) : UInt32 :=
  stackPtr + kStackItemsBaseOffset + sourceIndex * 4

def readStackValue (m : Memory) (stackPtr sourceIndex : UInt32) : Option StackValue := do
  let valueNode ← m.safeReadU32 (itemSlotAddr stackPtr sourceIndex) 0
  guard (valueNode ≠ 0)
  let valueType ← m.safeReadU32 valueNode kStackValueTypeOffset
  let rawValue ← m.safeReadU32 valueNode kStackValueDataOffset
  pure ⟨valueType, rawValue⟩

/-- Whether the value of an argument is left out for 0, before its operation is looked at. -/
def zeroed (plan : NativeArgPlan) (value : StackValue) : Bool :=
  value.valueType == kJassStackValueTypeCode && plan.sigChar != 'C'.toUInt8

def neededHelper (plan : NativeArgPlan) (value : StackValue) : Option Helper :=
  if zeroed plan value then none
  else match plan.op with
    | .funcAddrToHandle =>
      if value.valueType == kJassStackValueTypeCode then some .regFuncAddr2Handle else none
    | .handleToMemoryAddr => some .computeHandleMemoryAddr
    | .realByRefTemp | .handleSigSkipToSemicolon | .directValue | .zeroIfType3AndNotC => none

/-- Whether an argument takes a cell of `t_callScratch`. -/
def needsCell (plan : NativeArgPlan) (value : StackValue) : Bool :=
  !zeroed plan value && plan.op == .realByRefTemp

structure Packing where
  /-- The cells of `t_callArgs` so far. -/
  args : List UInt32 := []
  /-- The cells of `t_callScratch` so far. -/
  scratch : List UInt32 := []
  effects : List Effect := []

/-- The address of a cell of `t_callScratch`. -/
def Surroundings.cell (around : Surroundings) (k : ℕ) : UInt32 :=
  around.scratchBase + UInt32.ofNat (4 * k)

/-- One argument whose value was read, unless there is no cell left for it. -/
def Packing.pack (around : Surroundings) (arg : NativeArgPlan) (i : ℕ) (value : StackValue)
    (packing : Packing) : Option Packing :=
  if zeroed arg value then
    some { packing with args := packing.args ++ [0] }
  else
    match arg.op with
    | .funcAddrToHandle =>
      if value.valueType == kJassStackValueTypeCode then
        some { packing with
          args := packing.args ++ [around.answer .regFuncAddr2Handle i value.rawValue]
          effects := packing.effects ++ [.help .regFuncAddr2Handle value.rawValue] }
      else
        some { packing with args := packing.args ++ [0] }
    | .handleToMemoryAddr =>
      some { packing with
        args := packing.args ++ [around.answer .computeHandleMemoryAddr i value.rawValue]
        effects := packing.effects ++ [.help .computeHandleMemoryAddr value.rawValue] }
    | .realByRefTemp =>
      if packing.scratch.length ≥ maxArgs then none
      else some { packing with
        args := packing.args ++ [around.cell packing.scratch.length]
        scratch := packing.scratch ++ [value.rawValue] }
    | .handleSigSkipToSemicolon | .directValue | .zeroIfType3AndNotC =>
      some { packing with args := packing.args ++ [value.rawValue] }

/-- The slot of an argument is the top of the stack less the arguments behind it. -/
def sourceIndex (plan : NativeCallPlan) (stackTop : UInt32) (i : ℕ) : UInt32 :=
  stackTop - (plan.paramCount - 1 - UInt32.ofNat i)

def packArg (around : Surroundings) (plan : NativeCallPlan) (stackPtr stackTop : UInt32) (i : ℕ)
    (packing : Packing) : Option Packing :=
  if stackTop < plan.paramCount - 1 - UInt32.ofNat i then none
  else
    match readStackValue (around.memory i) stackPtr (sourceIndex plan stackTop i) with
    | none => none
    | some value => packing.pack around (plan.argOps.getD i {}) i value

/-- The loop over `count` arguments from one on: whether it went through, and how far it came. -/
def packArgs (around : Surroundings) (plan : NativeCallPlan) (stackPtr stackTop : UInt32) :
    ℕ → ℕ → Packing → Bool × Packing
  | 0, _, packing => (true, packing)
  | count + 1, i, packing =>
    match packArg around plan stackPtr stackTop i packing with
    | none => (false, packing)
    | some packing => packArgs around plan stackPtr stackTop count (i + 1) packing

/-! ## The call -/

/-- What `ExecuteNativeCallFast` returns and leaves. -/
structure CallOutcome where
  returned : Bool
  ret : Option UInt32 := none
  effects : List Effect := []
  deriving DecidableEq, Repr

/-- The checks before the first argument, and what they read: the stack and its top. -/
def enterStack (around : Surroundings) (plan : NativeCallPlan) : Option (UInt32 × UInt32) := do
  guard (around.vm ≠ 0 ∧ plan.funcPtr ≠ 0)
  guard (plan.paramCount.toNat ≤ maxArgs)
  guard (isPlanStillValid around.before plan = true)
  guard (around.invokeSupported = true)
  guard (around.configured .regFuncAddr2Handle = true ∧
    around.configured .computeHandleMemoryAddr = true)
  let stackPtr ← around.before.safeReadU32 around.vm kVmStackPtrOffset
  guard (stackPtr ≠ 0)
  let stackTop ← around.before.safeReadU32 stackPtr kStackTopOffset
  guard (¬stackTop + 1 < plan.paramCount)
  pure (stackPtr, stackTop)

/-- `ExecuteNativeCallFast`. -/
def executeNativeCallFast (around : Surroundings) (plan : NativeCallPlan) : CallOutcome :=
  match enterStack around plan with
  | none => { returned := false }
  | some (stackPtr, stackTop) =>
    match packArgs around plan stackPtr stackTop plan.paramCount.toNat 0 {} with
    | (false, packing) => { returned := false, effects := packing.effects }
    | (true, packing) =>
      let effects := packing.effects ++ [.invoke plan.funcPtr packing.args packing.scratch]
      if around.after.isReadableRange (stackPtr + kStackTopOffset) 4 then
        { returned := true
          ret := some around.ret
          effects := effects ++ [.store (stackPtr + kStackTopOffset) (stackTop - plan.paramCount)] }
      else
        { returned := false, ret := some around.ret, effects := effects }

end War3VK.Hooks

/-!
## When the fast native call is all or nothing

A call that returns true has called the native once, with the arguments that the plan asks for. One that
returns false should have done nothing, since the caller then takes the original path, which calls the
native.
-/

namespace War3VK.Hooks

/-! ### What is promised -/

def Effect.Harmless (lasting : Helper → Bool) : Effect → Prop
  | .help helper _ => lasting helper = false
  | .invoke _ _ _ => False
  | .store _ _ => False

def NativeCallPlan.arg (plan : NativeCallPlan) (i : ℕ) : NativeArgPlan := plan.argOps.getD i {}

def argument (around : Surroundings) (plan : NativeCallPlan) (stackPtr stackTop : UInt32) (i : ℕ) :
    Option StackValue :=
  readStackValue (around.memory i) stackPtr (sourceIndex plan stackTop i)

/-- An argument is packed as its plan asks for, with a cell for it where it needs one. -/
def Packed (around : Surroundings) (arg : NativeArgPlan) (i : ℕ) (value : StackValue)
    (scratch : List UInt32) (cell : ℕ) (packed : UInt32) : Prop :=
  if zeroed arg value then packed = 0
  else match arg.op with
    | .funcAddrToHandle =>
      packed = if value.valueType == kJassStackValueTypeCode then
        around.answer .regFuncAddr2Handle i value.rawValue else 0
    | .handleToMemoryAddr => packed = around.answer .computeHandleMemoryAddr i value.rawValue
    | .realByRefTemp => packed = around.cell cell ∧ scratch[cell]? = some value.rawValue
    | .handleSigSkipToSemicolon | .directValue | .zeroIfType3AndNotC => packed = value.rawValue

/-- The native was called once: what is read of the stack, how the arguments are packed, and that the top
of the stack is lowered by their number. -/
structure CalledOnce (around : Surroundings) (plan : NativeCallPlan) (effects : List Effect)
    (stackPtr stackTop : UInt32) (values : ℕ → StackValue) (cell : ℕ → ℕ) : Prop where
  stack : around.before.safeReadU32 around.vm kVmStackPtrOffset = some stackPtr
  top : around.before.safeReadU32 stackPtr kStackTopOffset = some stackTop
  read : ∀ i < plan.paramCount.toNat, argument around plan stackPtr stackTop i = some (values i)
  /-- After helpers the native is called once, and then the top of the stack is lowered. -/
  effects : ∃ helped args scratch,
    effects = helped ++ [.invoke plan.funcPtr args scratch,
      .store (stackPtr + kStackTopOffset) (stackTop - plan.paramCount)] ∧
    (∀ effect ∈ helped, ∃ helper value, effect = .help helper value) ∧
    args.length = plan.paramCount.toNat ∧
    ∀ i < plan.paramCount.toNat, ∃ packed, args[i]? = some packed ∧
      Packed around (plan.arg i) i (values i) scratch (cell i) packed
  own : ∀ i < plan.paramCount.toNat, ∀ j < plan.paramCount.toNat, i ≠ j →
    needsCell (plan.arg i) (values i) = true → needsCell (plan.arg j) (values j) = true →
      around.cell (cell i) ≠ around.cell (cell j)

def AllOrNothing (lasting : Helper → Bool) (around : Surroundings) (plan : NativeCallPlan)
    (outcome : CallOutcome) : Prop :=
  (outcome.returned = false → ∀ effect ∈ outcome.effects, effect.Harmless lasting) ∧
    (outcome.returned = true → ∃ stackPtr stackTop values cell,
      CalledOnce around plan outcome.effects stackPtr stackTop values cell)

/-- Of a stack: no argument fails behind one that needs a helper with a lasting effect, and where none fails,
the top of the stack can be read once the native was called. -/
def TimelyOn (lasting : Helper → Bool) (around : Surroundings) (plan : NativeCallPlan)
    (stackPtr stackTop : UInt32) : Prop :=
  (∀ j < plan.paramCount.toNat, (∀ i < j, (argument around plan stackPtr stackTop i).isSome) →
    argument around plan stackPtr stackTop j = none →
    ∀ i < j, ∀ value, argument around plan stackPtr stackTop i = some value →
      ∀ helper, neededHelper (plan.arg i) value = some helper → lasting helper = false) ∧
  ((∀ i < plan.paramCount.toNat, (argument around plan stackPtr stackTop i).isSome) →
    around.after.isReadableRange (stackPtr + kStackTopOffset) 4 = true)

/-- When the promise is kept: where the checks let the call come to its arguments, it is timely. -/
def Timely (lasting : Helper → Bool) (around : Surroundings) (plan : NativeCallPlan) : Prop :=
  ∀ stackPtr stackTop, enterStack around plan = some (stackPtr, stackTop) →
    TimelyOn lasting around plan stackPtr stackTop

/-! ### Packing one argument -/

variable {around : Surroundings} {plan : NativeCallPlan} {stackPtr stackTop : UInt32}

def effectOf (arg : NativeArgPlan) (value : StackValue) : Option Effect :=
  (neededHelper arg value).map fun helper => .help helper value.rawValue

variable {packing : Packing}

theorem Packing.pack_spec (around : Surroundings) (arg : NativeArgPlan) (i : ℕ)
    (value : StackValue) (hroom : packing.scratch.length < maxArgs) :
    ∃ next packed, packing.pack around arg i value = some next ∧ next.args = packing.args ++ [packed] ∧
      next.scratch = packing.scratch ++ (if needsCell arg value then [value.rawValue] else []) ∧
      next.effects = packing.effects ++ (effectOf arg value).toList ∧
      ∀ more, Packed around arg i value (next.scratch ++ more) packing.scratch.length packed := by
  unfold Packing.pack Packed effectOf neededHelper needsCell
  by_cases hzero : zeroed arg value = true
  · rw [if_pos hzero]
    exact ⟨_, 0, rfl, rfl, by simp [hzero], by simp [hzero], fun _ => by simp [hzero]⟩
  · rw [if_neg hzero]
    rw [Bool.not_eq_true] at hzero
    cases hop : arg.op with
    | funcAddrToHandle =>
      dsimp only
      by_cases hcode : (value.valueType == kJassStackValueTypeCode) = true
      · rw [if_pos hcode]
        exact ⟨_, _, rfl, rfl, by simp, by simp [hzero, hcode], fun _ => by simp [hzero, hcode]⟩
      · rw [if_neg hcode]
        exact ⟨_, _, rfl, rfl, by simp, by simp [hzero, hcode], fun _ => by simp [hzero, hcode]⟩
    | handleToMemoryAddr =>
      exact ⟨_, _, rfl, rfl, by simp, by simp [hzero], fun _ => by simp [hzero]⟩
    | realByRefTemp =>
      dsimp only
      rw [if_neg (not_le.mpr hroom)]
      exact ⟨_, _, rfl, rfl, by simp [hzero], by simp [hzero], fun _ => by simp [hzero]⟩
    | directValue => exact ⟨_, _, rfl, rfl, by simp, by simp [hzero], fun _ => by simp [hzero]⟩
    | zeroIfType3AndNotC => exact ⟨_, _, rfl, rfl, by simp, by simp [hzero], fun _ => by simp [hzero]⟩
    | handleSigSkipToSemicolon =>
      exact ⟨_, _, rfl, rfl, by simp, by simp [hzero], fun _ => by simp [hzero]⟩

/-! ### Packing all of them -/

def cellOf (around : Surroundings) (plan : NativeCallPlan) (stackPtr stackTop : UInt32) (i : ℕ) : ℕ :=
  (List.range i).countP fun j =>
    (argument around plan stackPtr stackTop j).any (needsCell (plan.arg j))

def effectsBefore (around : Surroundings) (plan : NativeCallPlan) (stackPtr stackTop : UInt32)
    (i : ℕ) : List Effect :=
  (List.range i).filterMap fun j =>
    (argument around plan stackPtr stackTop j).bind (effectOf (plan.arg j))

structure Packing.Sound (packing : Packing) (around : Surroundings) (plan : NativeCallPlan)
    (stackPtr stackTop : UInt32) (i : ℕ) : Prop where
  read : ∀ j < i, (argument around plan stackPtr stackTop j).isSome
  length : packing.args.length = i
  cells : packing.scratch.length = cellOf around plan stackPtr stackTop i
  effects : packing.effects = effectsBefore around plan stackPtr stackTop i
  packed : ∀ j < i, ∀ value, argument around plan stackPtr stackTop j = some value →
    ∃ packed, packing.args[j]? = some packed ∧ ∀ more,
      Packed around (plan.arg j) j value (packing.scratch ++ more)
        (cellOf around plan stackPtr stackTop j) packed

theorem Packing.sound_empty : Packing.Sound {} around plan stackPtr stackTop 0 where
  read j hj := absurd hj (Nat.not_lt_zero j)
  length := rfl
  cells := rfl
  effects := rfl
  packed j hj := absurd hj (Nat.not_lt_zero j)

theorem cellOf_le (i : ℕ) : cellOf around plan stackPtr stackTop i ≤ i := by
  calc cellOf around plan stackPtr stackTop i ≤ (List.range i).length := List.countP_le_length
    _ = i := List.length_range

variable {i : ℕ} {value : StackValue}

theorem cellOf_succ (h : argument around plan stackPtr stackTop i = some value) :
    cellOf around plan stackPtr stackTop (i + 1) =
      cellOf around plan stackPtr stackTop i + if needsCell (plan.arg i) value then 1 else 0 := by
  unfold cellOf
  rw [List.range_succ, List.countP_append, List.countP_singleton, h]
  rfl

theorem cellOf_mono {j : ℕ} (h : i ≤ j) :
    cellOf around plan stackPtr stackTop i ≤ cellOf around plan stackPtr stackTop j :=
  List.Sublist.countP_le (List.range_sublist.mpr h)

theorem enterStack_spec (h : enterStack around plan = some (stackPtr, stackTop)) :
    plan.paramCount.toNat ≤ maxArgs ∧
      around.before.safeReadU32 around.vm kVmStackPtrOffset = some stackPtr ∧
      around.before.safeReadU32 stackPtr kStackTopOffset = some stackTop ∧
      ¬stackTop + 1 < plan.paramCount := by
  unfold enterStack at h
  simp only [Option.bind_eq_bind, Option.bind_eq_some_iff, Option.guard_eq_some', Option.pure_def,
    Option.some.injEq, Prod.mk.injEq] at h
  obtain ⟨_, -, _, hmax, _, -, _, -, _, -, stack, hstack, _, -, top, htop, _, hdeep, rfl, rfl⟩ := h
  exact ⟨hmax, hstack, htop, hdeep⟩

theorem not_lt_reverse (h : ¬stackTop + 1 < plan.paramCount) (hi : i < plan.paramCount.toNat) :
    ¬stackTop < plan.paramCount - 1 - UInt32.ofNat i := by
  have hlt := plan.paramCount.toNat_lt
  have htop := stackTop.toNat_lt
  have hone : (1 : UInt32).toNat = 1 := rfl
  have hindex : (UInt32.ofNat i).toNat = i := by
    rw [UInt32.toNat_ofNat', Nat.mod_eq_of_lt (by omega)]
  have hminus : (plan.paramCount - 1).toNat = plan.paramCount.toNat - 1 := by
    rw [UInt32.toNat_sub_of_le _ _ (UInt32.le_iff_toNat_le.mpr (by omega)), hone]
  have hreverse : (plan.paramCount - 1 - UInt32.ofNat i).toNat = plan.paramCount.toNat - 1 - i := by
    rw [UInt32.toNat_sub_of_le _ _ (UInt32.le_iff_toNat_le.mpr (by omega)), hminus, hindex]
  rw [UInt32.lt_iff_toNat_lt, UInt32.toNat_add, hone] at h
  rw [UInt32.lt_iff_toNat_lt, hreverse]
  omega

theorem Packing.Sound.packArg (h : packing.Sound around plan stackPtr stackTop i)
    (htop : ¬stackTop + 1 < plan.paramCount) (hi : i < plan.paramCount.toNat)
    (hmax : plan.paramCount.toNat ≤ maxArgs)
    (hread : argument around plan stackPtr stackTop i = some value) :
    ∃ next, packArg around plan stackPtr stackTop i packing = some next ∧
      next.Sound around plan stackPtr stackTop (i + 1) := by
  have hcells : packing.scratch.length ≤ i := h.cells.trans_le (cellOf_le i)
  obtain ⟨next, packed, hpack, hargs, hscratch, heffects, hpacked⟩ :=
    Packing.pack_spec around (plan.arg i) i value (hcells.trans_lt (hi.trans_le hmax))
  refine ⟨next, ?_, ?_⟩
  · unfold Hooks.packArg
    rw [if_neg (not_lt_reverse htop hi)]
    unfold argument at hread
    rw [hread]
    exact hpack
  · refine ⟨fun j hj => ?_, ?_, ?_, ?_, fun j hj other hother => ?_⟩
    · rcases Nat.lt_succ_iff_lt_or_eq.mp hj with hj | rfl
      · exact h.read j hj
      · rw [hread]
        rfl
    · rw [hargs, List.length_append, h.length]
      rfl
    · rw [hscratch, List.length_append, h.cells, cellOf_succ hread]
      split <;> rfl
    · rw [heffects, h.effects, effectsBefore, effectsBefore, List.range_succ, List.filterMap_append,
        List.filterMap_cons, hread]
      cases heffect : effectOf (plan.arg i) value <;> simp [heffect]
    · rcases Nat.lt_succ_iff_lt_or_eq.mp hj with hj | rfl
      · obtain ⟨before, hbefore, hmore⟩ := h.packed j hj other hother
        refine ⟨before, ?_, fun more => ?_⟩
        · rw [hargs, List.getElem?_append_left (h.length ▸ hj)]
          exact hbefore
        · rw [hscratch, List.append_assoc]
          exact hmore _
      · obtain rfl : value = other := Option.some.inj (hread.symm.trans hother)
        refine ⟨packed, ?_, fun more => ?_⟩
        · rw [hargs, ← h.length, List.getElem?_append_right le_rfl, Nat.sub_self]
          rfl
        · rw [← h.cells]
          exact hpacked more

theorem packArgs_spec (htop : ¬stackTop + 1 < plan.paramCount)
    (hmax : plan.paramCount.toNat ≤ maxArgs) {count : ℕ}
    (hcount : i + count = plan.paramCount.toNat)
    (h : packing.Sound around plan stackPtr stackTop i) :
    (∃ after, packArgs around plan stackPtr stackTop count i packing = (true, after) ∧
        after.Sound around plan stackPtr stackTop plan.paramCount.toNat) ∨
      ∃ after j, packArgs around plan stackPtr stackTop count i packing = (false, after) ∧
        j < plan.paramCount.toNat ∧ argument around plan stackPtr stackTop j = none ∧
        after.Sound around plan stackPtr stackTop j := by
  induction count generalizing i packing with
  | zero =>
    obtain rfl : i = plan.paramCount.toNat := hcount
    exact .inl ⟨packing, rfl, h⟩
  | succ count ih =>
    have hi : i < plan.paramCount.toNat := by omega
    cases hread : argument around plan stackPtr stackTop i with
    | none =>
      refine .inr ⟨packing, i, ?_, hi, hread, h⟩
      have hnone : packArg around plan stackPtr stackTop i packing = none := by
        unfold packArg
        rw [if_neg (not_lt_reverse htop hi)]
        unfold argument at hread
        rw [hread]
      rw [packArgs, hnone]
    | some value =>
      obtain ⟨next, hnext, hsound⟩ := h.packArg htop hi hmax hread
      rw [packArgs, hnext]
      exact ih (by omega) hsound

/-! ### All or nothing -/

theorem mem_effectsBefore {effect : Effect} :
    effect ∈ effectsBefore around plan stackPtr stackTop i ↔
      ∃ j < i, ∃ value, argument around plan stackPtr stackTop j = some value ∧
        ∃ helper, neededHelper (plan.arg j) value = some helper ∧ effect = .help helper value.rawValue := by
  unfold effectsBefore effectOf
  simp only [List.mem_filterMap, List.mem_range, Option.bind_eq_some_iff, Option.map_eq_some_iff]
  constructor
  · rintro ⟨j, hj, value, hvalue, helper, hhelper, rfl⟩
    exact ⟨j, hj, value, hvalue, helper, hhelper, rfl⟩
  · rintro ⟨j, hj, value, hvalue, helper, hhelper, rfl⟩
    exact ⟨j, hj, value, hvalue, helper, hhelper, rfl⟩

theorem Surroundings.cell_ne {k l : ℕ} (hk : k < maxArgs) (hl : l < maxArgs) (h : k ≠ l) :
    around.cell k ≠ around.cell l := by
  intro heq
  unfold Surroundings.cell at heq
  have heq := congrArg UInt32.toNat ((UInt32.add_right_inj _).mp heq)
  unfold maxArgs at hk hl
  rw [UInt32.toNat_ofNat', UInt32.toNat_ofNat', Nat.mod_eq_of_lt (by omega),
    Nat.mod_eq_of_lt (by omega)] at heq
  omega

theorem cellOf_lt {j : ℕ} (hij : i < j)
    (hvalue : argument around plan stackPtr stackTop i = some value)
    (hneeds : needsCell (plan.arg i) value = true) :
    cellOf around plan stackPtr stackTop i < cellOf around plan stackPtr stackTop j := by
  have hsucc := cellOf_succ hvalue
  rw [if_pos hneeds] at hsucc
  have hmono : cellOf around plan stackPtr stackTop (i + 1) ≤ _ := cellOf_mono hij
  omega

theorem Packing.Sound.calledOnce (henter : enterStack around plan = some (stackPtr, stackTop))
    (h : packing.Sound around plan stackPtr stackTop plan.paramCount.toNat) :
    ∃ values, CalledOnce around plan
      (packing.effects ++ [.invoke plan.funcPtr packing.args packing.scratch] ++
        [.store (stackPtr + kStackTopOffset) (stackTop - plan.paramCount)])
      stackPtr stackTop values (cellOf around plan stackPtr stackTop) := by
  obtain ⟨hmax, hstack, htop, -⟩ := enterStack_spec henter
  set values : ℕ → StackValue := fun i =>
    (argument around plan stackPtr stackTop i).getD ⟨0, 0⟩ with hvalues
  have hread : ∀ i < plan.paramCount.toNat, argument around plan stackPtr stackTop i = some (values i) := by
    intro i hi
    obtain ⟨value, hvalue⟩ := Option.isSome_iff_exists.mp (h.read i hi)
    rw [hvalue, hvalues]
    dsimp only
    rw [hvalue]
    rfl
  refine ⟨values, hstack, htop, hread, ?_, ?_⟩
  · refine ⟨packing.effects, packing.args, packing.scratch, ?_, fun effect heffect => ?_, h.length,
      fun i hi => ?_⟩
    · rw [List.append_assoc]
      rfl
    · rw [h.effects] at heffect
      obtain ⟨j, -, value, -, helper, -, rfl⟩ := mem_effectsBefore.mp heffect
      exact ⟨helper, value.rawValue, rfl⟩
    · obtain ⟨packed, hpacked, hmore⟩ := h.packed i hi (values i) (hread i hi)
      refine ⟨packed, hpacked, ?_⟩
      have hnil := hmore []
      rwa [List.append_nil] at hnil
  · intro i hi j hj hij hneedsi hneedsj
    have hlt : ∀ k < plan.paramCount.toNat, cellOf around plan stackPtr stackTop k < maxArgs :=
      fun k hk => ((cellOf_le k).trans_lt hk).trans_le hmax
    refine Surroundings.cell_ne (hlt i hi) (hlt j hj) ?_
    rcases Nat.lt_or_gt_of_ne hij with hij | hij
    · exact (cellOf_lt hij (hread i hi) hneedsi).ne
    · exact (cellOf_lt hij (hread j hj) hneedsj).ne'

/-- The call is all or nothing exactly when it is timely. -/
theorem executeNativeCallFast_allOrNothing_iff (lasting : Helper → Bool) (around : Surroundings)
    (plan : NativeCallPlan) :
    AllOrNothing lasting around plan (executeNativeCallFast around plan) ↔
      Timely lasting around plan := by
  unfold executeNativeCallFast
  cases henter : enterStack around plan with
  | none =>
    -- The checks failed, and nothing was done.
    constructor
    · intro _ stackPtr stackTop hsome
      rw [henter] at hsome
      cases hsome
    · exact fun _ => ⟨fun _ effect heffect => (by cases heffect), fun htrue => (by cases htrue)⟩
  | some entered =>
    obtain ⟨stackPtr, stackTop⟩ := entered
    obtain ⟨hmax, -, -, hdeep⟩ := enterStack_spec henter
    have htimely : Timely lasting around plan ↔ TimelyOn lasting around plan stackPtr stackTop := by
      constructor
      · exact fun h => h stackPtr stackTop henter
      · intro h p top heq
        obtain ⟨rfl, rfl⟩ := Prod.mk.inj (Option.some.inj (henter.symm.trans heq))
        exact h
    rw [htimely]
    dsimp only
    obtain ⟨packing, hpack, hsound⟩ | ⟨packing, j, hpack, hj, hnone, hsound⟩ :=
      packArgs_spec hdeep hmax (Nat.zero_add _) (@Packing.sound_empty around plan stackPtr stackTop)
    · rw [hpack]
      dsimp only
      -- Every argument was read, so that the first part asks for nothing.
      have hfirst : ∀ j < plan.paramCount.toNat, argument around plan stackPtr stackTop j ≠ none :=
        fun j hj => Option.isSome_iff_ne_none.mp (hsound.read j hj)
      by_cases hafter : around.after.isReadableRange (stackPtr + kStackTopOffset) 4 = true
      · rw [if_pos hafter]
        constructor
        · exact fun _ => ⟨fun j hj _ hnone => absurd hnone (hfirst j hj), fun _ => hafter⟩
        · intro _
          obtain ⟨values, honce⟩ := hsound.calledOnce henter
          exact ⟨fun hfalse => (by cases hfalse), fun _ => ⟨stackPtr, stackTop, values, _, honce⟩⟩
      · rw [if_neg hafter]
        constructor
        · intro h
          exact (h.1 rfl (.invoke plan.funcPtr packing.args packing.scratch) (by simp)).elim
        · exact fun h => absurd (h.2 hsound.read) hafter
    · rw [hpack]
      dsimp only
      constructor
      · intro h
        refine ⟨fun k hk hread hnone' i hi value hvalue helper hhelper => ?_, fun hall => ?_⟩
        · -- The first argument that fails is the one at which the loop has ended.
          have hkj : k = j := by
            rcases Nat.lt_trichotomy k j with hlt | heq | hlt
            · exact absurd hnone' (Option.isSome_iff_ne_none.mp (hsound.read k hlt))
            · exact heq
            · exact absurd hnone (Option.isSome_iff_ne_none.mp (hread j hlt))
          have hmem : Effect.help helper value.rawValue ∈ packing.effects := by
            rw [hsound.effects]
            exact mem_effectsBefore.mpr ⟨i, hkj ▸ hi, value, hvalue, helper, hhelper, rfl⟩
          exact h.1 rfl _ hmem
        · exact absurd hnone (Option.isSome_iff_ne_none.mp (hall j hj))
      · refine fun h => ⟨fun _ effect heffect => ?_, fun htrue => by cases htrue⟩
        rw [hsound.effects] at heffect
        obtain ⟨i, hi, value, hvalue, helper, hhelper, rfl⟩ := mem_effectsBefore.mp heffect
        exact h.1 j hj hsound.read hnone i hi value hvalue helper hhelper

/-- The words of a native of two arguments, with a function on the stack below the node of the second. -/
def sampleWords (secondNode : UInt32) : List (UInt32 × UInt32) :=
  [(0x101c, 0x401000), (0x1020, 2), (0x1024, 0x2000), (0x1038, 0), (0x12868, 0x20000),
    (0x2008c, 1), (0x20008, 0x3000), (0x2000c, secondNode), (0x3018, 3), (0x3020, 7),
    (0x4018, 4), (0x4020, 9)]

/-- The plan of the native, whose signature begins with `(CI`. -/
def samplePlan : NativeCallPlan where
  nativeEntry := 0x1000
  funcPtr := 0x401000
  sigPtr := 0x2000
  paramCount := 2
  argOps := [⟨.funcAddrToHandle, 'C'.toUInt8, 1⟩, ⟨.zeroIfType3AndNotC, 'I'.toUInt8, 1⟩] ++
    List.replicate 62 {}

def sampleAround (secondNode : UInt32) (after : List (UInt32 × UInt32)) : Surroundings where
  vm := 0x10000
  invokeSupported := true
  configured _ := true
  before := Memory.ofWords (sampleWords secondNode)
  memory _ := Memory.ofWords (sampleWords secondNode)
  after := Memory.ofWords after
  answer _ _ value := value + 1
  ret := 0
  scratchBase := 0x50000

/-- A second argument without a node is found after the first one was made a handle; and where the stack
cannot be read any more after the native, it was called and the call returns false. -/
theorem executeNativeCallFast_late_argument :
    executeNativeCallFast (sampleAround 0 []) samplePlan =
        { returned := false, effects := [.help .regFuncAddr2Handle 7] } ∧
      ¬AllOrNothing (· == .regFuncAddr2Handle) (sampleAround 0 []) samplePlan
        (executeNativeCallFast (sampleAround 0 []) samplePlan) ∧
      executeNativeCallFast (sampleAround 0x4000 []) samplePlan =
        { returned := false, ret := some 0
          effects := [.help .regFuncAddr2Handle 7, .invoke 0x401000 [8, 9] []] } ∧
      ¬AllOrNothing (fun _ => false) (sampleAround 0x4000 []) samplePlan
        (executeNativeCallFast (sampleAround 0x4000 []) samplePlan) := by
  have hargument : executeNativeCallFast (sampleAround 0 []) samplePlan =
      { returned := false, effects := [.help .regFuncAddr2Handle 7] } := by decide +kernel
  have hnative : executeNativeCallFast (sampleAround 0x4000 []) samplePlan =
      { returned := false, ret := some 0
        effects := [.help .regFuncAddr2Handle 7, .invoke 0x401000 [8, 9] []] } := by decide +kernel
  refine ⟨hargument, fun h => ?_, hnative, fun h => ?_⟩
  · rw [hargument] at h
    exact Bool.noConfusion (h.1 rfl _ List.mem_cons_self)
  · rw [hnative] at h
    exact h.1 rfl (.invoke 0x401000 [8, 9] []) (by simp)

end War3VK.Hooks
