import War3VK.Lib.Machine
import War3VK.Hooks.NativePlan
import War3VK.Lib.Tally

/-!
# The cache of plans

`BuildOrGetNativeCallPlan` looks for a plan in eight slots of the thread, then in a map of all threads, and
builds one when both have none that it takes for valid
(`src/d3d9/war3/hooks/war3_jass_native_plan_cache.cpp`). A call goes in turns: the slots, the map under its
lock, the building, the map and the slots again. Between the turns other threads have theirs, and the memory
is what it is at each of them.
-/

namespace War3VK.Hooks

/-- `ThreadL1Entry`. -/
structure ThreadL1Entry where
  valid : Bool := false
  stamp : UInt32 := 0
  plan : NativeCallPlan := {}

/-- `kThreadL1Slots`. -/
def kThreadL1Slots : ℕ := 8

/-- `ThreadL1State`. -/
structure ThreadL1State where
  slots : List ThreadL1Entry := List.replicate kThreadL1Slots {}
  clock : UInt32 := 0

/-- `TouchThreadL1Slot`, for the slot with an index. -/
def touchThreadL1Slot (t : ThreadL1State) (i : ℕ) : ThreadL1State :=
  let t : ThreadL1State :=
    if t.clock + 1 = 0 then
      { clock := 1, slots := t.slots.map fun e => { e with stamp := e.stamp >>> 1 } }
    else
      { t with clock := t.clock + 1 }
  { t with slots := t.slots.modify i fun e => { e with stamp := t.clock } }

/-- `FindThreadL1Entry`: the plan of the slot, if it is still valid. -/
def findThreadL1Entry (m : Memory) (nativeEntry : UInt32) (t : ThreadL1State) :
    Option NativeCallPlan × ThreadL1State :=
  match t.slots.findIdx? fun slot => slot.valid && slot.plan.nativeEntry == nativeEntry with
  | none => (none, t)
  | some i =>
    let plan := (t.slots.getD i {}).plan
    if isPlanStillValid m plan then
      (some plan, touchThreadL1Slot t i)
    else
      (none, { t with slots := t.slots.modify i fun e => { e with valid := false } })

/-- The slot that is given up: the first that is not valid, or the first of those with the least stamp. -/
def victimSlot : List ThreadL1Entry → ℕ → ℕ → UInt32 → ℕ
  | [], _, victim, _ => victim
  | slot :: rest, i, victim, stamp =>
    if !slot.valid then i
    else if slot.stamp < stamp then victimSlot rest (i + 1) i slot.stamp
    else victimSlot rest (i + 1) victim stamp

/-- `InsertThreadL1Entry`. -/
def insertThreadL1Entry (plan : NativeCallPlan) (t : ThreadL1State) : ThreadL1State :=
  let victim := victimSlot t.slots 0 0 (t.slots.getD 0 {}).stamp
  touchThreadL1Slot
    { t with slots := t.slots.modify victim fun e => { e with valid := true, plan := plan } } victim

/-- `kNativeJassNativeCallCacheCapacity`. -/
def kCacheCapacity : ℕ := 4096

/-- `s_l2Plans`. -/
abbrev L2Plans := List (UInt32 × NativeCallPlan)

def L2Plans.erase (plans : L2Plans) (key : UInt32) : L2Plans := plans.filter (·.1 ≠ key)

/-- The map with a plan of a key, where a full one gives up the plan that `begin` finds. -/
def L2Plans.insert (begin : L2Plans → UInt32) (plans : L2Plans) (key : UInt32)
    (plan : NativeCallPlan) : L2Plans :=
  let plans := if plans.length ≥ kCacheCapacity then plans.erase (begin plans) else plans
  (key, plan) :: plans.erase key

/-- Where a call of `BuildOrGetNativeCallPlan` goes on. -/
inductive Stage where
  | level2 (nativeEntry : UInt32)
  | build (nativeEntry : UInt32)
  | keep (nativeEntry : UInt32) (built : NativeCallPlan)

structure PlanCaches where
  /-- `t_l1State` of each thread. -/
  l1 : ℕ → ThreadL1State := fun _ => {}
  /-- `s_l2Plans`. -/
  l2 : L2Plans := []
  pending : ℕ → Option Stage := fun _ => none

inductive Move where
  /-- It calls `BuildOrGetNativeCallPlan`. -/
  | call (nativeEntry : UInt32)
  | resume
  /-- It calls `ResetNativeCallPlanCaches`. -/
  | reset

structure Turn where
  thread : ℕ
  memory : Memory
  move : Move

structure Returned where
  nativeEntry : UInt32
  plan : Option NativeCallPlan
  cached : Bool
  deriving DecidableEq, Repr

def put {α : Type} (f : ℕ → α) (i : ℕ) (a : α) : ℕ → α := fun j => if j = i then a else f j

/-- A thread calls `BuildOrGetNativeCallPlan`, which returns at once where the caches are switched off. -/
def PlanCaches.call (cacheEnabled : Bool) (thread : ℕ) (m : Memory) (nativeEntry : UInt32)
    (s : PlanCaches) : Option Returned × PlanCaches :=
  if nativeEntry = 0 then (some ⟨nativeEntry, none, false⟩, s)
  else if !cacheEnabled then
    (some ⟨nativeEntry, buildPlanFromNativeEntry m nativeEntry, false⟩, s)
  else
    match findThreadL1Entry m nativeEntry (s.l1 thread) with
    | (some plan, l1) =>
      (some ⟨nativeEntry, some plan, true⟩, { s with l1 := put s.l1 thread l1 })
    | (none, l1) =>
      (none, { s with
        l1 := put s.l1 thread l1
        pending := put s.pending thread (some (.level2 nativeEntry)) })

def PlanCaches.resume (begin : L2Plans → UInt32) (thread : ℕ) (m : Memory) (s : PlanCaches) :
    Stage → Option Returned × PlanCaches
  | .level2 nativeEntry =>
    match s.l2.lookup nativeEntry with
    | some plan =>
      if isPlanStillValid m plan then
        (some ⟨nativeEntry, some plan, true⟩, { s with
          l1 := put s.l1 thread (insertThreadL1Entry plan (s.l1 thread))
          pending := put s.pending thread none })
      else
        (none, { s with
          l2 := s.l2.erase nativeEntry
          pending := put s.pending thread (some (.build nativeEntry)) })
    | none => (none, { s with pending := put s.pending thread (some (.build nativeEntry)) })
  | .build nativeEntry =>
    match buildPlanFromNativeEntry m nativeEntry with
    | none =>
      (some ⟨nativeEntry, none, false⟩, { s with pending := put s.pending thread none })
    | some built =>
      (none, { s with pending := put s.pending thread (some (.keep nativeEntry built)) })
  | .keep nativeEntry built =>
    (some ⟨nativeEntry, some built, false⟩, { s with
      l1 := put s.l1 thread (insertThreadL1Entry built (s.l1 thread))
      l2 := L2Plans.insert begin s.l2 nativeEntry built
      pending := put s.pending thread none })

/-- One turn. A thread that is in a call goes on with it, and one that is not begins one. -/
def PlanCaches.step (cacheEnabled : Bool) (begin : L2Plans → UInt32) (turn : Turn)
    (s : PlanCaches) : Option Returned × PlanCaches :=
  match turn.move, s.pending turn.thread with
  | .call nativeEntry, none => s.call cacheEnabled turn.thread turn.memory nativeEntry
  | .resume, some stage => s.resume begin turn.thread turn.memory stage
  | .reset, none => (none, { s with l1 := put s.l1 turn.thread {}, l2 := [] })
  | _, _ => (none, s)

end War3VK.Hooks

/-!
## When cached plans are fresh

Every plan in a cache was built at an earlier turn (`PlanCaches.Sound`). A cached plan that is returned
has the function, the signature's address and the number of parameters that the entry has at that
moment.
-/

namespace War3VK.Hooks

open Lib

/-! ### Slots -/

def ThreadL1State.Has (t : ThreadL1State) (plan : NativeCallPlan) : Prop :=
  ∃ slot ∈ t.slots, slot.valid = true ∧ slot.plan = plan

variable {t : ThreadL1State} {plan other : NativeCallPlan} {m : Memory} {nativeEntry : UInt32} {i : ℕ}

theorem has_of_touch (h : (touchThreadL1Slot t i).Has plan) : t.Has plan := by
  obtain ⟨slot, hslot, hvalid, hplan⟩ := h
  unfold touchThreadL1Slot at hslot
  obtain ⟨j, before, hbefore, rfl⟩ := mem_modify hslot
  -- The stamps alone change.
  have hsame : before.valid = true ∧ before.plan = plan := by
    by_cases hj : j = i
    · rw [if_pos hj] at hvalid hplan
      exact ⟨hvalid, hplan⟩
    · rw [if_neg hj] at hvalid hplan
      exact ⟨hvalid, hplan⟩
  have hmem := List.mem_of_getElem? hbefore
  split at hmem
  · obtain ⟨old, hold, rfl⟩ := List.mem_map.mp hmem
    exact ⟨old, hold, hsame⟩
  · exact ⟨before, hmem, hsame⟩

theorem findThreadL1Entry_spec (m : Memory) (nativeEntry : UInt32) (t : ThreadL1State) :
    (∀ plan, (findThreadL1Entry m nativeEntry t).1 = some plan →
      t.Has plan ∧ plan.nativeEntry = nativeEntry ∧ isPlanStillValid m plan = true) ∧
    ∀ plan, (findThreadL1Entry m nativeEntry t).2.Has plan → t.Has plan := by
  unfold findThreadL1Entry
  cases hfind : t.slots.findIdx? fun slot =>
      slot.valid && slot.plan.nativeEntry == nativeEntry with
  | none => exact ⟨fun _ hnone => (by cases hnone), fun _ => id⟩
  | some i =>
    obtain ⟨hlt, hfound, -⟩ := List.findIdx?_eq_some_iff_getElem.mp hfind
    have hget : t.slots.getD i {} = t.slots[i] := by
      rw [List.getD_eq_getElem?_getD, List.getElem?_eq_getElem hlt]
      rfl
    rw [Bool.and_eq_true, beq_iff_eq] at hfound
    dsimp only
    rw [hget]
    split
    · rename_i hvalid
      refine ⟨fun plan hplan => ?_, fun _ => has_of_touch⟩
      obtain rfl := Option.some.inj hplan
      exact ⟨⟨t.slots[i], List.getElem_mem hlt, hfound.1, rfl⟩, hfound.2, hvalid⟩
    · refine ⟨fun _ hnone => (by cases hnone), ?_⟩
      rintro plan ⟨slot, hslot, hvalid, hplan⟩
      obtain ⟨j, before, hbefore, rfl⟩ := mem_modify hslot
      by_cases hj : j = i
      · rw [if_pos hj] at hvalid
        cases hvalid
      · rw [if_neg hj] at hvalid hplan
        exact ⟨before, List.mem_of_getElem? hbefore, hvalid, hplan⟩

theorem has_of_insert (h : (insertThreadL1Entry other t).Has plan) : plan = other ∨ t.Has plan := by
  unfold insertThreadL1Entry at h
  obtain ⟨slot, hslot, hvalid, hplan⟩ := has_of_touch h
  obtain ⟨j, before, hbefore, rfl⟩ := mem_modify hslot
  by_cases hj : j = victimSlot t.slots 0 0 (t.slots.getD 0 {}).stamp
  · rw [if_pos hj] at hplan
    exact .inl hplan.symm
  · rw [if_neg hj] at hvalid hplan
    exact .inr ⟨before, List.mem_of_getElem? hbefore, hvalid, hplan⟩

theorem not_has_empty : ¬({} : ThreadL1State).Has plan := by
  rintro ⟨slot, hslot, hvalid, -⟩
  rw [List.eq_of_mem_replicate hslot] at hvalid
  cases hvalid

/-! ### The map -/

variable {plans : L2Plans} {begin : L2Plans → UInt32} {entry : UInt32 × NativeCallPlan}

theorem mem_of_erase {key : UInt32} (h : entry ∈ plans.erase key) : entry ∈ plans :=
  (List.mem_filter.mp h).1

theorem mem_of_insert {key : UInt32} (h : entry ∈ L2Plans.insert begin plans key plan) :
    entry = (key, plan) ∨ entry ∈ plans := by
  unfold L2Plans.insert at h
  rcases List.mem_cons.mp h with rfl | h
  · exact .inl rfl
  · have h := mem_of_erase h
    split at h
    · exact .inr (mem_of_erase h)
    · exact .inr h

theorem mem_of_lookup {key : UInt32} (h : List.lookup key plans = some plan) :
    (key, plan) ∈ plans := by
  obtain ⟨front, back, rfl, -⟩ := List.lookup_eq_some_iff.mp h
  exact List.mem_append_right front List.mem_cons_self

/-! ### Turns -/

def BuiltAt (turns : List Turn) (plan : NativeCallPlan) : Prop :=
  ∃ turn ∈ turns, buildPlanFromNativeEntry turn.memory plan.nativeEntry = some plan

/-- Every plan was built at an earlier turn, for the entry that it is kept for. -/
structure PlanCaches.Sound (s : PlanCaches) (turns : List Turn) : Prop where
  l1 : ∀ thread plan, (s.l1 thread).Has plan → BuiltAt turns plan
  l2 : ∀ entry ∈ s.l2, entry.2.nativeEntry = entry.1 ∧ BuiltAt turns entry.2
  keep : ∀ thread nativeEntry plan, s.pending thread = some (.keep nativeEntry plan) →
    plan.nativeEntry = nativeEntry ∧ BuiltAt turns plan

theorem BuiltAt.concat {turns : List Turn} {turn : Turn} (h : BuiltAt turns plan) :
    BuiltAt (turns ++ [turn]) plan := by
  obtain ⟨earlier, hearlier, hbuilt⟩ := h
  exact ⟨earlier, List.mem_append_left _ hearlier, hbuilt⟩

theorem fillArgs_fields {texts : List (List UInt8)} :
    (fillArgs i plan texts).nativeEntry = plan.nativeEntry ∧
      (fillArgs i plan texts).funcPtr = plan.funcPtr ∧
      (fillArgs i plan texts).sigPtr = plan.sigPtr ∧
      (fillArgs i plan texts).paramCount = plan.paramCount := by
  induction texts generalizing i plan with
  | nil => exact ⟨rfl, rfl, rfl, rfl⟩
  | cons text texts ih => exact ih

theorem nativeEntry_of_build (h : buildPlanFromNativeEntry m nativeEntry = some plan) :
    plan.nativeEntry = nativeEntry := by
  obtain ⟨entry, texts, -, -, rfl⟩ := buildPlan_eq_some_iff.mp h
  exact fillArgs_fields.1

theorem put_eq {α : Type} {f : ℕ → α} {j : ℕ} {a b : α} (h : put f i a j = b) :
    a = b ∧ j = i ∨ f j = b := by
  unfold put at h
  split at h
  · rename_i hj
    exact .inl ⟨h, hj⟩
  · exact .inr h

variable {s : PlanCaches} {turns : List Turn} {turn : Turn} {thread : ℕ}

theorem PlanCaches.Sound.concat (h : s.Sound turns) : s.Sound (turns ++ [turn]) where
  l1 thread plan hplan := (h.l1 thread plan hplan).concat
  l2 entry hentry := ⟨(h.l2 entry hentry).1, (h.l2 entry hentry).2.concat⟩
  keep thread nativeEntry plan hkeep :=
    ⟨(h.keep thread nativeEntry plan hkeep).1, (h.keep thread nativeEntry plan hkeep).2.concat⟩

theorem PlanCaches.Sound.putL1 (h : s.Sound turns) (ht : ∀ plan, t.Has plan → BuiltAt turns plan) :
    PlanCaches.Sound { s with l1 := put s.l1 thread t } turns where
  l1 other plan hplan := by
    rcases put_eq (rfl : put s.l1 thread t other = _) with ⟨heq, -⟩ | heq
    · exact ht plan (heq ▸ hplan)
    · exact h.l1 other plan (heq ▸ hplan)
  l2 := h.l2
  keep := h.keep

theorem PlanCaches.Sound.putL2 (h : s.Sound turns)
    (hplans : ∀ entry ∈ plans, entry.2.nativeEntry = entry.1 ∧ BuiltAt turns entry.2) :
    PlanCaches.Sound { s with l2 := plans } turns where
  l1 := h.l1
  l2 := hplans
  keep := h.keep

theorem PlanCaches.Sound.putPending (h : s.Sound turns) {stage : Option Stage}
    (hstage : ∀ nativeEntry plan, stage = some (.keep nativeEntry plan) →
      plan.nativeEntry = nativeEntry ∧ BuiltAt turns plan) :
    PlanCaches.Sound { s with pending := put s.pending thread stage } turns where
  l1 := h.l1
  l2 := h.l2
  keep other nativeEntry plan hkeep := by
    rcases put_eq hkeep with ⟨heq, -⟩ | hkeep
    · exact hstage nativeEntry plan heq
    · exact h.keep other nativeEntry plan hkeep

/-- What a return from the caches says: the plan was built earlier for the entry, and is taken for valid. -/
def Returned.Known (returned : Returned) (turns : List Turn) (m : Memory) : Prop :=
  ∃ plan, returned.plan = some plan ∧ plan.nativeEntry = returned.nativeEntry ∧
    BuiltAt turns plan ∧ isPlanStillValid m plan = true

theorem PlanCaches.Sound.call {cacheEnabled : Bool} (h : s.Sound turns) :
    (s.call cacheEnabled thread m nativeEntry).2.Sound turns ∧
      ∀ returned, (s.call cacheEnabled thread m nativeEntry).1 = some returned →
        returned.cached = true → returned.Known turns m := by
  unfold PlanCaches.call
  split
  · refine ⟨h, fun returned hreturned hcached => ?_⟩
    obtain rfl := Option.some.inj hreturned
    cases hcached
  · split
    · refine ⟨h, fun returned hreturned hcached => ?_⟩
      obtain rfl := Option.some.inj hreturned
      cases hcached
    · obtain ⟨hfound, hleft⟩ := findThreadL1Entry_spec m nativeEntry (s.l1 thread)
      have hl1 : ∀ plan, (findThreadL1Entry m nativeEntry (s.l1 thread)).2.Has plan →
          BuiltAt turns plan := fun plan hplan => h.l1 thread plan (hleft plan hplan)
      split
      · rename_i plan l1 heq
        rw [heq] at hfound hl1
        refine ⟨h.putL1 hl1, fun returned hreturned _ => ?_⟩
        obtain rfl := Option.some.inj hreturned
        obtain ⟨hhas, hentry, hvalid⟩ := hfound plan rfl
        exact ⟨plan, rfl, hentry, h.l1 thread plan hhas, hvalid⟩
      · rename_i l1 heq
        rw [heq] at hl1
        refine ⟨(h.putL1 hl1).putPending fun _ _ hkeep => ?_, fun _ hnone => (by cases hnone)⟩
        cases hkeep

theorem PlanCaches.Sound.resume {stage : Stage} (h : s.Sound turns)
    (hstage : s.pending turn.thread = some stage) :
    (s.resume begin turn.thread turn.memory stage).2.Sound (turns ++ [turn]) ∧
      ∀ returned, (s.resume begin turn.thread turn.memory stage).1 = some returned →
        returned.cached = true → returned.Known turns turn.memory := by
  have hconcat : s.Sound (turns ++ [turn]) := h.concat
  cases stage with
  | level2 nativeEntry =>
    rw [PlanCaches.resume]
    cases hlookup : List.lookup nativeEntry s.l2 with
    | none =>
      refine ⟨hconcat.putPending fun _ _ hkeep => ?_, fun _ hnone => (by cases hnone)⟩
      cases hkeep
    | some plan =>
      obtain ⟨hentry, hbuilt⟩ := h.l2 _ (mem_of_lookup hlookup)
      dsimp only
      split
      · rename_i hvalid
        refine ⟨(hconcat.putL1 fun other hother => ?_).putPending fun _ _ hkeep => ?_,
          fun returned hreturned _ => ?_⟩
        · rcases has_of_insert hother with rfl | hother
          · exact hbuilt.concat
          · exact hconcat.l1 turn.thread other hother
        · cases hkeep
        · obtain rfl := Option.some.inj hreturned
          exact ⟨plan, rfl, hentry, hbuilt, hvalid⟩
      · refine ⟨(hconcat.putL2 fun entry hentry => hconcat.l2 entry (mem_of_erase hentry)).putPending
          fun _ _ hkeep => ?_, fun _ hnone => (by cases hnone)⟩
        cases hkeep
  | build nativeEntry =>
    rw [PlanCaches.resume]
    cases hbuild : buildPlanFromNativeEntry turn.memory nativeEntry with
    | none =>
      refine ⟨hconcat.putPending fun _ _ hkeep => ?_, fun returned hreturned hcached => ?_⟩
      · cases hkeep
      · obtain rfl := Option.some.inj hreturned
        cases hcached
    | some built =>
      refine ⟨hconcat.putPending fun _ _ hkeep => ?_, fun _ hnone => (by cases hnone)⟩
      -- This is the turn at which the plan is built.
      obtain ⟨rfl, rfl⟩ := Stage.keep.inj (Option.some.inj hkeep)
      have hentry := nativeEntry_of_build hbuild
      exact ⟨hentry, turn, List.mem_append_right _ (List.mem_singleton_self _), hentry ▸ hbuild⟩
  | keep nativeEntry built =>
    obtain ⟨hentry, hbuilt⟩ := hconcat.keep turn.thread nativeEntry built hstage
    refine ⟨((hconcat.putL1 fun other hother => ?_).putL2 fun entry hmem => ?_).putPending
      fun _ _ hkeep => ?_, fun returned hreturned hcached => ?_⟩
    · rcases has_of_insert hother with rfl | hother
      · exact hbuilt
      · exact hconcat.l1 turn.thread other hother
    · rcases mem_of_insert hmem with rfl | hmem
      · exact ⟨hentry, hbuilt⟩
      · exact hconcat.l2 entry hmem
    · cases hkeep
    · obtain rfl := Option.some.inj hreturned
      cases hcached

theorem PlanCaches.Sound.step (cacheEnabled : Bool) (begin : L2Plans → UInt32) (h : s.Sound turns) :
    (s.step cacheEnabled begin turn).2.Sound (turns ++ [turn]) ∧
      ∀ returned, (s.step cacheEnabled begin turn).1 = some returned →
        returned.cached = true → returned.Known turns turn.memory := by
  unfold PlanCaches.step
  split
  · obtain ⟨hsound, hknown⟩ := h.call
    exact ⟨hsound.concat, hknown⟩
  · rename_i stage hmove hstage
    exact h.resume hstage
  · have hempty : ∀ entry ∈ ([] : L2Plans),
        entry.2.nativeEntry = entry.1 ∧ BuiltAt turns entry.2 := fun _ hnil => by cases hnil
    exact ⟨((h.putL1 fun _ hplan => (not_has_empty hplan).elim).putL2 hempty).concat,
      fun _ hnone => (by cases hnone)⟩
  · exact ⟨h.concat, fun _ hnone => (by cases hnone)⟩

theorem sound_run (cacheEnabled : Bool) (begin : L2Plans → UInt32) (turns : List Turn) :
    (run (PlanCaches.step cacheEnabled begin) turns {}).Sound turns := by
  induction turns using List.reverseRecOn with
  | nil =>
    exact ⟨fun _ _ hplan => (not_has_empty hplan).elim, fun _ hnil => (by cases hnil),
      fun _ _ _ hnone => (by cases hnone)⟩
  | append_singleton turns turn ih =>
    rw [run_append]
    exact (ih.step cacheEnabled begin).1

/-! ### Fresh plans -/

/-- From one moment to another an entry that keeps its function, the address of its signature and the number
of its parameters keeps its return type, and the signature its text. -/
def Kept (earlier later : Memory) : Prop :=
  ∀ nativeEntry before after, readNativeMeta earlier nativeEntry = some before →
    readNativeMeta later nativeEntry = some after →
    after.funcPtr = before.funcPtr → after.sigPtr = before.sigPtr →
    after.paramCount = before.paramCount →
    after.retType = before.retType ∧ ∀ texts, Signed earlier before texts → Signed later after texts

theorem build_of_valid {earlier later : Memory}
    (hbuilt : buildPlanFromNativeEntry earlier plan.nativeEntry = some plan)
    (hvalid : isPlanStillValid later plan = true) (hkept : Kept earlier later) :
    buildPlanFromNativeEntry later plan.nativeEntry = some plan := by
  obtain ⟨before, texts, hbefore, hsigned, hplan⟩ := buildPlan_eq_some_iff.mp hbuilt
  unfold isPlanStillValid at hvalid
  cases hafter : readNativeMeta later plan.nativeEntry with
  | none =>
    rw [hafter] at hvalid
    cases hvalid
  | some after =>
    rw [hafter] at hvalid
    simp only [Bool.and_eq_true, beq_iff_eq] at hvalid
    obtain ⟨⟨hfunc, hsig⟩, hcount⟩ := hvalid
    -- The plan has the fields that it was built from.
    have hfields : plan.funcPtr = before.funcPtr ∧ plan.sigPtr = before.sigPtr ∧
        plan.paramCount = before.paramCount := by
      rw [hplan]
      exact fillArgs_fields.2
    obtain ⟨hret, hsigned'⟩ := hkept _ before after hbefore hafter (hfunc.trans hfields.1)
      (hsig.trans hfields.2.1) (hcount.trans hfields.2.2)
    have hsame : after = before := by
      rw [NativeMeta.mk.injEq]
      exact ⟨hfunc.trans hfields.1, hsig.trans hfields.2.1, hcount.trans hfields.2.2, hret⟩
    exact buildPlan_eq_some_iff.mpr ⟨after, texts, hafter, hsigned' texts hsigned, hsame ▸ hplan⟩

/-! ### The caches switched off -/

theorem step_of_disabled (hpending : ∀ thread, s.pending thread = none) :
    (∀ thread, (s.step false begin turn).2.pending thread = none) ∧
      ∀ returned, (s.step false begin turn).1 = some returned → returned.cached = false ∧
        returned.plan = buildPlanFromNativeEntry turn.memory returned.nativeEntry := by
  unfold PlanCaches.step
  rw [hpending]
  cases turn.move with
  | call nativeEntry =>
    dsimp only
    unfold PlanCaches.call
    by_cases hnull : nativeEntry = 0
    · rw [if_pos hnull]
      refine ⟨hpending, fun returned hreturned => ?_⟩
      obtain rfl := Option.some.inj hreturned
      subst hnull
      exact ⟨rfl, rfl⟩
    · rw [if_neg hnull, Bool.not_false, if_pos rfl]
      refine ⟨hpending, fun returned hreturned => ?_⟩
      obtain rfl := Option.some.inj hreturned
      exact ⟨rfl, rfl⟩
  | resume => exact ⟨hpending, fun _ hnone => (by cases hnone)⟩
  | reset => exact ⟨hpending, fun _ hnone => (by cases hnone)⟩

theorem pending_of_disabled (begin : L2Plans → UInt32) (turns : List Turn) (thread : ℕ) :
    (run (PlanCaches.step false begin) turns {}).pending thread = none := by
  induction turns using List.reverseRecOn generalizing thread with
  | nil => rfl
  | append_singleton turns turn ih =>
    rw [run_append]
    exact (step_of_disabled ih).1 thread

/-! ### Transparency -/

/-- In a run in which entries are kept as long as the caches take their plans for valid, every cached plan
that is returned is the one that would be built at that moment; where the caches are switched off no cached
plan is returned, and every plan is; and a plan is built exactly for an entry whose four fields can be read,
with a function, a signature and at most 64 parameters, and as many arguments in its signature. -/
theorem buildOrGetNativeCallPlan_transparent (cacheEnabled : Bool) (begin : L2Plans → UInt32) :
    (∀ turns, turns.Pairwise (fun x y => Kept x.memory y.memory) →
      ∀ record ∈ history (PlanCaches.step cacheEnabled begin) turns {}, ∀ returned,
        record.output = some returned → returned.cached = true →
          returned.plan = buildPlanFromNativeEntry record.call.memory returned.nativeEntry) ∧
    (cacheEnabled = false → ∀ turns,
      ∀ record ∈ history (PlanCaches.step cacheEnabled begin) turns {}, ∀ returned,
        record.output = some returned → returned.cached = false ∧
          returned.plan = buildPlanFromNativeEntry record.call.memory returned.nativeEntry) ∧
    ∀ m nativeEntry, (buildPlanFromNativeEntry m nativeEntry).isSome = true ↔
      ∃ (entry : NativeMeta) (texts : List (List UInt8)), nativeEntry ≠ 0 ∧
        m.safeReadU32 nativeEntry kNativeEntryFuncPtrOffset = some entry.funcPtr ∧
        m.safeReadU32 nativeEntry kNativeEntrySigPtrOffset = some entry.sigPtr ∧
        m.safeReadU32 nativeEntry kNativeEntryParamCountOffset = some entry.paramCount ∧
        m.safeReadU32 nativeEntry kNativeEntryRetTypeOffset = some entry.retType ∧
        entry.funcPtr ≠ 0 ∧ entry.sigPtr ≠ 0 ∧ entry.paramCount.toNat ≤ maxArgs ∧
        texts.length = entry.paramCount.toNat ∧ (∀ text ∈ texts, IsArg text) ∧
        m.Holds entry.sigPtr (signatureOf texts) := by
  refine ⟨fun turns hkept record hrecord returned hreturned hcached => ?_, ?_, fun m nativeEntry => ?_⟩
  · obtain ⟨before, after, hsplit⟩ := List.append_of_mem hrecord
    obtain ⟨earlier, turn, later, rfl, -, rfl, -⟩ := history_split _ hsplit
    obtain ⟨plan, hplan, hentry, ⟨origin, horigin, hbuilt⟩, hvalid⟩ :=
      ((sound_run cacheEnabled begin earlier).step cacheEnabled begin).2 returned hreturned hcached
    -- The plan was built at an earlier turn, and entries were kept since.
    have hsince : Kept origin.memory turn.memory :=
      (List.pairwise_append.mp hkept).2.2 origin horigin turn List.mem_cons_self
    have hfresh := build_of_valid hbuilt hvalid hsince
    rw [hentry] at hfresh
    exact hplan.trans hfresh.symm
  · rintro rfl turns record hrecord returned hreturned
    obtain ⟨before, after, hsplit⟩ := List.append_of_mem hrecord
    obtain ⟨earlier, turn, later, rfl, -, rfl, -⟩ := history_split _ hsplit
    exact (step_of_disabled (pending_of_disabled begin earlier)).2 returned hreturned
  · rw [Option.isSome_iff_exists]
    constructor
    · rintro ⟨plan, hplan⟩
      obtain ⟨entry, texts, hmeta, hsigned, -⟩ := buildPlan_eq_some_iff.mp hplan
      obtain ⟨hne, hfunc, hsig, hcount, hret, hfunc', hsig', hmax⟩ :=
        readNativeMeta_eq_some_iff.mp hmeta
      exact ⟨entry, texts, hne, hfunc, hsig, hcount, hret, hfunc', hsig', hmax, hsigned.length,
        hsigned.args, hsigned.holds⟩
    · rintro ⟨entry, texts, hne, hfunc, hsig, hcount, hret, hfunc', hsig', hmax, hlength, hargs, hholds⟩
      exact ⟨_, buildPlan_eq_some_iff.mpr ⟨entry, texts, readNativeMeta_eq_some_iff.mpr
        ⟨hne, hfunc, hsig, hcount, hret, hfunc', hsig', hmax⟩, ⟨hlength, hargs, hholds⟩, rfl⟩⟩

def emptyEntry (retType : UInt32) : Memory :=
  Memory.ofWords [(0x101c, 0x401000), (0x1020, 0), (0x1024, 0x2000), (0x1038, retType), (0x2000, 0x2928)]

/-- A thread builds a plan, the return type changes, and the thread asks again. -/
def changedTurns : List Turn :=
  [⟨0, emptyEntry 4, .call 0x1000⟩, ⟨0, emptyEntry 4, .resume⟩, ⟨0, emptyEntry 4, .resume⟩,
    ⟨0, emptyEntry 4, .resume⟩, ⟨0, emptyEntry 5, .call 0x1000⟩]

def wideEntry : Memory :=
  Memory.ofWords ([(0x101c, 0x401000), (0x1020, 65), (0x1024, 0x2000), (0x1038, 0),
    (0x2000, 0x49494928), (0x2040, 0x294949)] ++
    (List.range 15).map fun k => (0x2004 + UInt32.ofNat (4 * k), 0x49494949))

/-- The caches return a plan with a return type that the entry does not have any more, and no plan is built
for 65 parameters. -/
theorem buildOrGetNativeCallPlan_stale :
    (∃ returned, ((history (PlanCaches.step true fun _ => 0) changedTurns {}).map
          fun record => record.output).getLast? = some (some returned) ∧
        returned.cached = true ∧ returned.nativeEntry = 0x1000 ∧
        returned.plan ≠ buildPlanFromNativeEntry (emptyEntry 5) 0x1000) ∧
    buildPlanFromNativeEntry wideEntry 0x1000 = none ∧
      wideEntry.safeReadU32 0x1000 kNativeEntryParamCountOffset = some 65 ∧
      wideEntry.safeReadU32 0x1000 kNativeEntrySigPtrOffset = some 0x2000 ∧
      (∀ text ∈ List.replicate 65 ['I'.toUInt8], IsArg text) ∧
      wideEntry.Holds 0x2000 (signatureOf (List.replicate 65 ['I'.toUInt8])) := by
  refine ⟨⟨⟨0x1000, buildPlanFromNativeEntry (emptyEntry 4) 0x1000, true⟩, ?_, rfl, rfl, ?_⟩, ?_, ?_, ?_,
    fun text htext => ?_, ?_⟩
  · decide +kernel
  · decide +kernel
  · decide +kernel
  · decide +kernel
  · decide +kernel
  · obtain rfl := List.eq_of_mem_replicate htext
    exact .inl ⟨_, rfl, by decide, by decide, by decide⟩
  · decide +kernel

end War3VK.Hooks
