import Mathlib.Data.List.AList
import War3VK.Japi.Commands
import War3VK.Lib.FreshIds
import War3VK.Lib.Machine

/-!
# The managed objects of the script interface

A map script knows lights, lightnings and fogs by public identifiers
(`src/d3d9/war3/japi/war3_japi_v1.cpp`, `ResolveObject`, `RegisterObject`, `RemoveRegistryEntry`,
`ManagedObjectAlive`, `ManagedObjectCount`, `ResetAuthorState` and the commands that create and destroy).
The objects themselves are in the renderer. The model has those that the commands made and that are alive;
one of them may also end by itself, as a lightning does.
-/

namespace War3VK.Japi.ObjectRegistry

open Lib

/-- `ManagedType`. -/
inductive ManagedType
  | pointLight
  | lightning
  | localFog
  deriving DecidableEq, Repr

/-- The value of a `ManagedType`. -/
def ManagedType.value : ManagedType → Int32
  | .pointLight => 1
  | .lightning => 2
  | .localFog => 3

/-- `ManagedObject`. -/
structure ManagedObject where
  type : ManagedType
  internalId : Int32
  deriving DecidableEq, Repr

/-- `std::numeric_limits<int32_t>::max() - 1`. -/
def kMaximumObjects : ℕ := 2147483646

structure State where
  objects : AList fun _ : Int32 => ManagedObject := ∅
  nextPublicId : Int32 := 1
  /-- The objects that the commands made and that are alive. -/
  alive : List ManagedObject := []
  /-- What the renderer made for the commands since the last reset. -/
  made : List ManagedObject := []
  deriving DecidableEq

/-- The commands. Where one creates, `internalId` is what the renderer returns (not positive if it or a check
refuses) and `configured` is whether a new lightning takes its color and width. `expire` is the end of an
object by itself. -/
inductive Call
  | create (type : ManagedType) (internalId : Int32) (configured : Bool)
  | destroy (type : ManagedType) (publicId : Int32)
  | resolve (type : ManagedType) (publicId : Int32)
  | isAlive (publicId : Int32)
  | count
  | resetAuthorState
  | expire (object : ManagedObject)
  deriving DecidableEq, Repr

inductive Output
  | failed (error : ErrorCode)
  | created (publicId : Int32)
  | destroyed
  | resolved (internalId : Int32)
  | type (value : Int32)
  | count (value : ℕ)
  | done
  deriving DecidableEq, Repr

/-- The public identifier after one, `g_nextPublicId++` and the test after it. -/
def nextId (publicId : Int32) : Int32 := if publicId + 1 ≤ 0 then 1 else publicId + 1

namespace State

/-- `IsBackendObjectAlive`. -/
def isBackendObjectAlive (object : ManagedObject) (s : State) : Bool := object ∈ s.alive

/-- `RemoveRegistryEntry`. -/
def removeRegistryEntry (publicId : Int32) (object : ManagedObject) (s : State) : State :=
  if s.objects.lookup publicId = some object then { s with objects := s.objects.erase publicId } else s

/-- `ResolveObject`. -/
def resolveObject (publicId : Int32) (expected : ManagedType) (s : State) : Option Int32 × State :=
  match s.objects.lookup publicId with
  | none => (none, s)
  | some object =>
    if object.type ≠ expected then (none, s)
    else if !s.isBackendObjectAlive object then (none, s.removeRegistryEntry publicId object)
    else (some object.internalId, s)

/-- `RegisterObject`. -/
def registerObject (object : ManagedObject) (s : State) : Int32 × State :=
  if object.internalId ≤ 0 || kMaximumObjects ≤ s.objects.keys.length then (0, s)
  else
    let tried := firstFree nextId (fun candidate => 0 < candidate && candidate ∉ s.objects)
      (s.objects.keys.length + 1) s.nextPublicId
    match tried.1 with
    | none => (0, { s with nextPublicId := tried.2 })
    | some candidate =>
      (candidate, { s with objects := s.objects.insert candidate object, nextPublicId := tried.2 })

def removeBackend (object : ManagedObject) (s : State) : State :=
  { s with alive := s.alive.erase object }

def create (type : ManagedType) (internalId : Int32) (configured : Bool) (s : State) : Output × State :=
  if internalId ≤ 0 then (.failed .backendRejected, s)
  else
    let object : ManagedObject := ⟨type, internalId⟩
    let s := { s with alive := s.alive ++ [object], made := s.made ++ [object] }
    if type = .lightning && !configured then (.failed .backendRejected, s.removeBackend object)
    else
      let registered := s.registerObject object
      if registered.1 ≤ 0 then (.failed .internalError, registered.2.removeBackend object)
      else (.created registered.1, registered.2)

def destroy (type : ManagedType) (publicId : Int32) (s : State) : Output × State :=
  match s.resolveObject publicId type with
  | (none, s) => (.failed .backendRejected, s)
  | (some internalId, s) =>
    let object : ManagedObject := ⟨type, internalId⟩
    if !s.isBackendObjectAlive object then (.failed .backendRejected, s)
    else (.destroyed, (s.removeBackend object).removeRegistryEntry publicId object)

def resolve (type : ManagedType) (publicId : Int32) (s : State) : Output × State :=
  match s.resolveObject publicId type with
  | (none, s) => (.failed .backendRejected, s)
  | (some internalId, s) => (.resolved internalId, s)

/-- `ManagedObjectAlive`, with the value of the type or 0. -/
def managedObjectAlive (publicId : Int32) (s : State) : Output × State :=
  match s.objects.lookup publicId with
  | none => (.type 0, s)
  | some object =>
    if !s.isBackendObjectAlive object then (.type 0, s.removeRegistryEntry publicId object)
    else (.type object.type.value, s)

/-- The loop of `ManagedObjectCount` over its snapshot. -/
def countAlive : List (Int32 × ManagedObject) → State → ℕ × State
  | [], s => (0, s)
  | (publicId, object) :: rest, s =>
    if s.isBackendObjectAlive object then
      let counted := countAlive rest s
      (counted.1 + 1, counted.2)
    else countAlive rest (s.removeRegistryEntry publicId object)

/-- `ManagedObjectCount`. -/
def managedObjectCount (s : State) : ℕ × State :=
  s.countAlive (s.objects.entries.map fun entry => (entry.1, entry.2))

/-- `ResetAuthorState`: the registered lights and fogs are removed one by one, and the lightnings all
together. -/
def resetAuthorState (s : State) : State :=
  let objects := s.objects.entries.map fun entry => entry.2
  { objects := ∅
    nextPublicId := 1
    alive := s.alive.filter fun object => object.type ≠ .lightning && object ∉ objects
    made := [] }

def step (call : Call) (s : State) : Output × State :=
  match call with
  | .create type internalId configured => s.create type internalId configured
  | .destroy type publicId => s.destroy type publicId
  | .resolve type publicId => s.resolve type publicId
  | .isAlive publicId => s.managedObjectAlive publicId
  | .count => (.count s.managedObjectCount.1, s.managedObjectCount.2)
  | .resetAuthorState => (.done, s.resetAuthorState)
  | .expire object => (.done, s.removeBackend object)

end State

end War3VK.Japi.ObjectRegistry

/-!
## What the registry promises over its runs

The renderer does not give out an identifier again while the author's state lives. Then over every order
of commands an object is alive just if a public identifier stands for it.
-/

namespace War3VK.Japi.ObjectRegistry

open Lib

abbrev Happened := Record State Call Output

/-! ### Public identifiers -/

def kPublicIds : ℕ := 2147483647

theorem nextId_pos (publicId : Int32) : 0 < nextId publicId := by
  unfold nextId
  split
  · decide
  · rename_i hpos
    exact Int32.not_le.mp hpos

variable {publicId : Int32} {s : State}

theorem toInt_nextId (h : 0 < publicId) :
    (nextId publicId).toInt - 1 = (publicId.toInt - 1 + 1) % kPublicIds := by
  have hpos : 0 < publicId.toInt := Int32.lt_iff_toInt_lt.mp h
  have hmax := publicId.toInt_lt
  have hids : (kPublicIds : ℤ) = 2147483647 := rfl
  have hone : (1 : Int32).toInt = 1 := rfl
  have hsum : (publicId + 1).toInt = (publicId.toInt + 1).bmod (2 ^ 32) := by
    rw [Int32.toInt_add, hone]
  have hzero : (0 : Int32).toInt = 0 := rfl
  unfold nextId
  by_cases hlast : publicId.toInt = 2147483647
  · -- After the last one the sum is negative.
    have hneg : (publicId + 1).toInt = -2147483648 := by
      rw [hsum, hlast]
      decide
    rw [if_pos (Int32.le_iff_toInt_le.mpr (by omega)), hone, hlast, hids]
    rfl
  · have hsmall : (publicId + 1).toInt = publicId.toInt + 1 := by
      rw [hsum, Int.bmod_eq_of_le (by omega) (by omega)]
    rw [if_neg (mt Int32.le_iff_toInt_le.mp (by omega)), hsmall, hids]
    omega

theorem iterate_nextId (h : 0 < publicId) (n : ℕ) :
    0 < nextId^[n] publicId ∧ (nextId^[n] publicId).toInt - 1 = (publicId.toInt - 1 + n) % kPublicIds := by
  have hids : (kPublicIds : ℤ) = 2147483647 := rfl
  induction n with
  | zero =>
    have hpos : 0 < publicId.toInt := Int32.lt_iff_toInt_lt.mp h
    have hmax := publicId.toInt_lt
    refine ⟨h, ?_⟩
    rw [Function.iterate_zero, id_eq, hids]
    omega
  | succ n ih =>
    rw [Function.iterate_succ_apply']
    refine ⟨nextId_pos _, ?_⟩
    rw [toInt_nextId ih.1, ih.2, hids]
    omega

theorem iterate_nextId_inj (h : 0 < publicId) {i j : ℕ} (hi : i < kPublicIds)
    (hj : j < kPublicIds) (heq : nextId^[i] publicId = nextId^[j] publicId) : i = j := by
  have hids : (kPublicIds : ℤ) = 2147483647 := rfl
  have hids' : kPublicIds = 2147483647 := rfl
  have hi' := (iterate_nextId h i).2
  have hj' := (iterate_nextId h j).2
  rw [heq, hj', hids] at hi'
  omega

theorem registerObject_succeeds (hnext : 0 < s.nextPublicId) (object : ManagedObject)
    (hobject : 0 < object.internalId) (hroom : s.objects.keys.length < kMaximumObjects) :
    ∃ publicId, 0 < publicId ∧ publicId ∉ s.objects ∧ s.registerObject object = (publicId, { s with
        objects := s.objects.insert publicId object
        nextPublicId := (s.registerObject object).2.nextPublicId }) := by
  have hmax : kMaximumObjects = 2147483646 := rfl
  have hids : kPublicIds = 2147483647 := rfl
  obtain ⟨publicId, hfound⟩ := @exists_firstFree _ nextId
    (fun candidate => 0 < candidate && candidate ∉ s.objects) (s.objects.keys.length + 1)
    s.nextPublicId s.objects.keys
    (fun i _ hfree => by
      have hpos := (iterate_nextId hnext i).1
      simp only [hpos, decide_true, Bool.true_and, decide_eq_false_iff_not, not_not] at hfree
      exact AList.mem_keys.mp hfree)
    (fun i hi j hj => iterate_nextId_inj hnext (by omega) (by omega)) (Nat.lt_succ_self _)
  have hfree := free_of_firstFree hfound
  simp only [Bool.and_eq_true, decide_eq_true_eq] at hfree
  refine ⟨publicId, hfree.1, hfree.2, ?_⟩
  have hnot : ¬ (decide (object.internalId ≤ 0) || decide (kMaximumObjects ≤ s.objects.keys.length)) = true := by
    simp only [Bool.or_eq_true, decide_eq_true_eq, not_or, Int32.not_le]
    exact ⟨hobject, by omega⟩
  unfold State.registerObject
  rw [if_neg hnot]
  dsimp only
  rw [hfound]

theorem registerObject_full (object : ManagedObject)
    (hroom : kMaximumObjects ≤ s.objects.keys.length) : s.registerObject object = (0, s) := by
  rw [State.registerObject, if_pos (by simp [hroom])]

/-! ### What a command does -/

structure Swept (s s' : State) : Prop where
  kept : ∀ publicId object, s'.objects.lookup publicId = some object →
    s.objects.lookup publicId = some object
  live : ∀ publicId object, s.objects.lookup publicId = some object → object ∈ s.alive →
    s'.objects.lookup publicId = some object
  fewer : s'.objects.keys.length ≤ s.objects.keys.length
  alive : s'.alive = s.alive
  made : ∀ object ∈ s.made, object ∈ s'.made
  next : s'.nextPublicId = s.nextPublicId

theorem Swept.refl (s : State) : Swept s s :=
  ⟨fun _ _ h => h, fun _ _ h _ => h, Nat.le_refl _, rfl, fun _ h => h, rfl⟩

theorem Swept.trans {s' s'' : State} (h : Swept s s') (h' : Swept s' s'') : Swept s s'' where
  kept publicId object hlookup := h.kept publicId object (h'.kept publicId object hlookup)
  live publicId object hlookup halive :=
    h'.live publicId object (h.live publicId object hlookup halive) (h.alive ▸ halive)
  fewer := Nat.le_trans h'.fewer h.fewer
  alive := h'.alive.trans h.alive
  made object hmade := h'.made object (h.made object hmade)
  next := h'.next.trans h.next

variable {m : AList fun _ : Int32 => ManagedObject} {object : ManagedObject}

theorem lookup_erase_some {k : Int32} (h : (m.erase publicId).lookup k = some object) :
    k ≠ publicId ∧ m.lookup k = some object := by
  by_cases hk : k = publicId
  · subst hk
    rw [AList.lookup_erase] at h
    cases h
  · rw [AList.lookup_erase_ne hk] at h
    exact ⟨hk, h⟩

theorem lookup_insert_cases {k : Int32} {object' : ManagedObject}
    (h : (m.insert publicId object).lookup k = some object') :
    (k = publicId ∧ object' = object) ∨ (k ≠ publicId ∧ m.lookup k = some object') := by
  by_cases hk : k = publicId
  · subst hk
    rw [AList.lookup_insert, Option.some.injEq] at h
    exact .inl ⟨rfl, h.symm⟩
  · rw [AList.lookup_insert_ne hk] at h
    exact .inr ⟨hk, h⟩

theorem swept_removeRegistryEntry (publicId : Int32) (hdead : object ∉ s.alive) :
    Swept s (s.removeRegistryEntry publicId object) := by
  unfold State.removeRegistryEntry
  split
  · rename_i hlookup
    refine ⟨fun k o h => (lookup_erase_some h).2, fun k o h halive => ?_, ?_, rfl, fun _ h => h, rfl⟩
    · have hk : k ≠ publicId := by
        rintro rfl
        rw [hlookup, Option.some.injEq] at h
        exact hdead (h ▸ halive)
      rw [AList.lookup_erase_ne hk]
      exact h
    · rw [AList.keys_erase]
      exact List.length_erase_le
  · exact Swept.refl s

theorem resolveObject_spec (publicId : Int32) (expected : ManagedType) (s : State) :
    Swept s (s.resolveObject publicId expected).2 ∧
      ∀ internalId, (s.resolveObject publicId expected).1 = some internalId →
        (s.resolveObject publicId expected).2 = s ∧
          s.objects.lookup publicId = some ⟨expected, internalId⟩ ∧ ⟨expected, internalId⟩ ∈ s.alive := by
  unfold State.resolveObject
  cases hlookup : s.objects.lookup publicId with
  | none => exact ⟨Swept.refl s, by simp⟩
  | some object =>
    dsimp only
    by_cases htype : object.type = expected
    · rw [if_neg (not_not.mpr htype)]
      by_cases halive : object ∈ s.alive
      · rw [if_neg (by simpa [State.isBackendObjectAlive] using halive)]
        refine ⟨Swept.refl s, fun internalId h => ?_⟩
        obtain rfl := Option.some.inj h
        subst htype
        exact ⟨rfl, rfl, halive⟩
      · rw [if_pos (by simpa [State.isBackendObjectAlive] using halive)]
        exact ⟨swept_removeRegistryEntry publicId halive, by simp⟩
    · rw [if_pos htype]
      exact ⟨Swept.refl s, by simp⟩

theorem countAlive_spec (entries : List (Int32 × ManagedObject)) (s : State) :
    Swept s (State.countAlive entries s).2 ∧
      (State.countAlive entries s).1 = (entries.filter fun entry => entry.2 ∈ s.alive).length := by
  induction entries generalizing s with
  | nil => exact ⟨Swept.refl s, rfl⟩
  | cons entry rest ih =>
    obtain ⟨publicId, object⟩ := entry
    rw [State.countAlive]
    by_cases halive : object ∈ s.alive
    · rw [if_pos (by simpa [State.isBackendObjectAlive] using halive), List.filter_cons_of_pos (by simpa using halive)]
      obtain ⟨hswept, hcount⟩ := ih s
      exact ⟨hswept, by rw [List.length_cons, ← hcount]⟩
    · rw [if_neg (by simpa [State.isBackendObjectAlive] using halive),
        List.filter_cons_of_neg (by simpa using halive)]
      have hentry := swept_removeRegistryEntry publicId halive
      obtain ⟨hswept, hcount⟩ := ih (s.removeRegistryEntry publicId object)
      exact ⟨hentry.trans hswept, by rw [hcount, hentry.alive]⟩

def Output.plain : Output → Bool
  | .created _ => false
  | .destroyed => false
  | _ => true

inductive Moves (s : State) (call : Call) : Output → State → Prop
  | swept (output : Output) (s' : State) (plain : output.plain = true)
      (quiet : call ≠ .resetAuthorState) (swept : Swept s s') : Moves s call output s'
  | created (publicId : Int32) (s' : State) (type : ManagedType) (internalId : Int32) (configured : Bool)
      (called : call = .create type internalId configured) (positive : 0 < publicId)
      (free : publicId ∉ s.objects) (room : s.objects.keys.length < kMaximumObjects)
      (objects : s'.objects = s.objects.insert publicId ⟨type, internalId⟩)
      (alive : s'.alive = s.alive ++ [⟨type, internalId⟩])
      (made : s'.made = s.made ++ [⟨type, internalId⟩]) (next : 0 < s'.nextPublicId) :
      Moves s call (.created publicId) s'
  | destroyed (type : ManagedType) (publicId internalId : Int32)
      (called : call = .destroy type publicId)
      (registered : s.objects.lookup publicId = some ⟨type, internalId⟩)
      (live : (⟨type, internalId⟩ : ManagedObject) ∈ s.alive) :
      Moves s call .destroyed { s with
        objects := s.objects.erase publicId
        alive := s.alive.erase ⟨type, internalId⟩ }
  | reset (called : call = .resetAuthorState) : Moves s call .done s.resetAuthorState
  | expired (object : ManagedObject) (called : call = .expire object) :
      Moves s call .done (s.removeBackend object)

theorem registerObject_next (hnext : 0 < s.nextPublicId) (object : ManagedObject) :
    0 < (s.registerObject object).2.nextPublicId := by
  have hcounter : 0 < (firstFree nextId (fun candidate => 0 < candidate && candidate ∉ s.objects)
      (s.objects.keys.length + 1) s.nextPublicId).2 :=
    firstFree_counter (fun publicId => 0 < publicId) (fun publicId _ => nextId_pos publicId) hnext
  unfold State.registerObject
  split
  · exact hnext
  · dsimp only
    split <;> exact hcounter

theorem moves_create (hnext : 0 < s.nextPublicId) (type : ManagedType) (internalId : Int32)
    (configured : Bool) (hfresh : 0 < internalId → (⟨type, internalId⟩ : ManagedObject) ∉ s.alive) :
    Moves s (.create type internalId configured) (s.create type internalId configured).1
      (s.create type internalId configured).2 := by
  unfold State.create
  by_cases hpos : internalId ≤ 0
  · rw [if_pos hpos]
    exact .swept _ s rfl (by simp) (Swept.refl s)
  rw [if_neg hpos]
  have hid : 0 < internalId := Int32.not_le.mp hpos
  -- The new object is the last one, and it is taken away again where the command fails.
  have hremoved : (s.alive ++ [(⟨type, internalId⟩ : ManagedObject)]).erase ⟨type, internalId⟩ = s.alive := by
    rw [List.erase_append_right _ (hfresh hid)]
    simp
  have hmade : ∀ object ∈ s.made, object ∈ s.made ++ [(⟨type, internalId⟩ : ManagedObject)] :=
    fun object h => List.mem_append_left _ h
  dsimp only
  split
  · exact .swept _ _ rfl (by simp)
      ⟨fun _ _ h => h, fun _ _ h _ => h, Nat.le_refl _, hremoved, hmade, rfl⟩
  · rcases Nat.lt_or_ge s.objects.keys.length kMaximumObjects with hroom | hfull
    · obtain ⟨publicId, hpublic, hfree, hregister⟩ := registerObject_succeeds
        (s := { s with alive := s.alive ++ [⟨type, internalId⟩], made := s.made ++ [⟨type, internalId⟩] })
        hnext ⟨type, internalId⟩ hid hroom
      have hpositive := registerObject_next
        (s := { s with alive := s.alive ++ [⟨type, internalId⟩], made := s.made ++ [⟨type, internalId⟩] })
        hnext ⟨type, internalId⟩
      rw [hregister] at hpositive ⊢
      rw [if_neg (Int32.not_le.mpr hpublic)]
      exact .created publicId _ type internalId configured rfl hpublic hfree hroom rfl rfl rfl hpositive
    · have hregister := registerObject_full
        (s := { s with alive := s.alive ++ [⟨type, internalId⟩], made := s.made ++ [⟨type, internalId⟩] })
        ⟨type, internalId⟩ hfull
      have hnone : (0 : Int32) ≤ 0 := by decide
      rw [hregister, if_pos hnone]
      exact .swept _ _ rfl (by simp)
        ⟨fun _ _ h => h, fun _ _ h _ => h, Nat.le_refl _, hremoved, hmade, rfl⟩

theorem moves_destroy (s : State) (type : ManagedType) (publicId : Int32) :
    Moves s (.destroy type publicId) (s.destroy type publicId).1 (s.destroy type publicId).2 := by
  obtain ⟨hswept, hfound⟩ := resolveObject_spec publicId type s
  unfold State.destroy
  cases hresolve : s.resolveObject publicId type with
  | mk found s' =>
    rw [hresolve] at hswept hfound
    cases found with
    | none => exact .swept _ s' rfl (by simp) hswept
    | some internalId =>
      obtain ⟨hs, hlookup, halive⟩ := hfound internalId rfl
      dsimp only at hs
      subst hs
      dsimp only
      rw [if_neg (by simpa [State.isBackendObjectAlive] using halive)]
      have hentry : (s'.removeBackend ⟨type, internalId⟩).removeRegistryEntry publicId ⟨type, internalId⟩ =
          { s' with
            objects := s'.objects.erase publicId
            alive := s'.alive.erase ⟨type, internalId⟩ } := by
        rw [State.removeRegistryEntry]
        exact if_pos hlookup
      rw [hentry]
      exact .destroyed type publicId internalId rfl hlookup halive

theorem moves_step (hnext : 0 < s.nextPublicId) (call : Call)
    (hfresh : ∀ type internalId configured, call = .create type internalId configured → 0 < internalId →
      (⟨type, internalId⟩ : ManagedObject) ∉ s.alive) :
    Moves s call (State.step call s).1 (State.step call s).2 := by
  cases call with
  | create type internalId configured =>
    exact moves_create hnext type internalId configured (hfresh type internalId configured rfl)
  | destroy type publicId => exact moves_destroy s type publicId
  | resolve type publicId =>
    have hswept := (resolveObject_spec publicId type s).1
    rw [State.step, State.resolve]
    cases hresolve : s.resolveObject publicId type with
    | mk found s' =>
      rw [hresolve] at hswept
      cases found <;> exact .swept _ s' rfl (by simp) hswept
  | isAlive publicId =>
    rw [State.step, State.managedObjectAlive]
    cases s.objects.lookup publicId with
    | none => exact .swept _ s rfl (by simp) (Swept.refl s)
    | some object =>
      dsimp only
      split
      · rename_i hdead
        exact .swept _ _ rfl (by simp)
          (swept_removeRegistryEntry publicId (by simpa [State.isBackendObjectAlive] using hdead))
      · exact .swept _ s rfl (by simp) (Swept.refl s)
  | count => exact .swept _ _ rfl (by simp) (countAlive_spec _ s).1
  | resetAuthorState => exact .reset rfl
  | expire object => exact .expired object rfl

/-! ### What is promised -/

def Kills (r : Happened) (object : ManagedObject) : Prop :=
  object ∈ r.before.alive ∧ object ∉ (State.step r.call r.before).2.alive

/-- A public identifier was created for an object, and since then it was neither created again nor destroyed,
the author's state was not reset, and the object lived all the time. -/
def Stands (past : List Happened) (publicId : Int32) (object : ManagedObject) : Prop :=
  ∃ first c rest, past = first ++ c :: rest ∧
    (∃ configured, c.call = .create object.type object.internalId configured) ∧
      c.output = .created publicId ∧
        ∀ x ∈ rest, x.output ≠ .created publicId ∧
          ¬ (x.output = .destroyed ∧ ∃ type, x.call = .destroy type publicId) ∧
            x.call ≠ .resetAuthorState ∧ ¬ Kills x object

/-- The renderer does not give out an identifier again before the author's state is reset. -/
def FreshBackend (r : Happened) : Prop :=
  ∀ type internalId configured, r.call = .create type internalId configured → 0 < internalId →
    (⟨type, internalId⟩ : ManagedObject) ∉ r.before.made

instance (r : Happened) : Decidable (FreshBackend r) :=
  match hcall : r.call with
  | .create type internalId configured =>
    decidable_of_iff (0 < internalId → (⟨type, internalId⟩ : ManagedObject) ∉ r.before.made)
      ⟨fun h type' internalId' configured' hcall' hid => by
        rw [hcall] at hcall'
        cases hcall'
        exact h hid, fun h hid => h type internalId configured hcall hid⟩
  | .destroy _ _ | .resolve _ _ | .isAlive _ | .count | .resetAuthorState | .expire _ =>
    isTrue fun _ _ _ hcall' => by rw [hcall] at hcall'; cases hcall'

structure Keeps (past : List Happened) : Prop where
  /-- An identifier resolves to the object it was created for. -/
  resolved : ∀ before r after, past = before ++ r :: after → ∀ type publicId internalId,
    r.call = .resolve type publicId → r.output = .resolved internalId →
      Stands before publicId ⟨type, internalId⟩
  /-- It is destroyed with its object, and not again before it is created again. -/
  destroyed : ∀ before r after, past = before ++ r :: after → ∀ type publicId,
    r.call = .destroy type publicId → r.output = .destroyed →
      ∃ internalId, Stands before publicId ⟨type, internalId⟩ ∧ Kills r ⟨type, internalId⟩
  /-- A command that fails to create leaves no object. -/
  failed : ∀ r ∈ past, ∀ type internalId configured error, r.call = .create type internalId configured →
    r.output = .failed error → (State.step r.call r.before).2.alive = r.before.alive
  /-- A command that creates succeeds while there is room, with a positive identifier that is free. -/
  created : ∀ r ∈ past, ∀ type internalId, r.call = .create type internalId true → 0 < internalId →
    r.before.objects.keys.length < kMaximumObjects →
      ∃ publicId, r.output = .created publicId ∧ 0 < publicId ∧ publicId ∉ r.before.objects
  /-- The count is that of the objects that are alive, each of which is registered. -/
  counted : ∀ r ∈ past, r.call = .count → r.output = .count r.before.alive.length

structure Consistent (s : State) : Prop where
  distinct : s.objects.keys.Nodup
  positive : ∀ publicId ∈ s.objects, 0 < publicId
  injective : ∀ publicId publicId' object, s.objects.lookup publicId = some object →
    s.objects.lookup publicId' = some object → publicId = publicId'
  registered : ∀ object ∈ s.alive, ∃ publicId, s.objects.lookup publicId = some object
  registers : s.objects.keys.length < kMaximumObjects → ∀ object : ManagedObject, 0 < object.internalId →
    ∃ publicId, 0 < publicId ∧ publicId ∉ s.objects ∧ (s.registerObject object).1 = publicId ∧
      (s.registerObject object).2.objects.lookup publicId = some object

/-! ### The invariant -/

structure Inv (s : State) (past : List Happened) : Prop where
  next : 0 < s.nextPublicId
  positive : ∀ publicId ∈ s.objects, 0 < publicId
  made : ∀ publicId object, s.objects.lookup publicId = some object → object ∈ s.made
  injective : ∀ publicId publicId' object, s.objects.lookup publicId = some object →
    s.objects.lookup publicId' = some object → publicId = publicId'
  registered : ∀ object ∈ s.alive, ∃ publicId, s.objects.lookup publicId = some object
  aliveOnce : s.alive.Nodup
  /-- The identifier of an object that is alive stands for it. -/
  stands : ∀ publicId object, s.objects.lookup publicId = some object → object ∈ s.alive →
    Stands past publicId object

variable {past : List Happened} {r : Happened} {internalId : Int32}

theorem Stands.concat (h : Stands past publicId object) {x : Happened}
    (hcreated : x.output ≠ .created publicId)
    (hdestroyed : ¬ (x.output = .destroyed ∧ ∃ type, x.call = .destroy type publicId))
    (hreset : x.call ≠ .resetAuthorState) (hkill : ¬ Kills x object) :
    Stands (past ++ [x]) publicId object := by
  obtain ⟨first, c, rest, rfl, hcall, hout, hrest⟩ := h
  refine ⟨first, c, rest ++ [x], by simp, hcall, hout, fun y hy => ?_⟩
  rcases List.mem_append.mp hy with hold | hnew
  · exact hrest y hold
  · rw [List.mem_singleton.mp hnew]
    exact ⟨hcreated, hdestroyed, hreset, hkill⟩

theorem mem_of_lookup (h : m.lookup publicId = some object) :
    publicId ∈ m := AList.lookup_isSome.mp (by simp [h])

theorem lookup_of_mem (h : publicId ∈ m) :
    ∃ object, m.lookup publicId = some object := Option.isSome_iff_exists.mp (AList.lookup_isSome.mpr h)

section

variable (h : Inv s past)
include h

theorem Inv.swept {s' : State} (hafter : (State.step r.call r.before).2 = s')
    (plain : r.output.plain = true) (quiet : r.call ≠ .resetAuthorState) (swept : Swept s s') :
    Inv s' (past ++ [r]) where
  next := swept.next ▸ h.next
  positive publicId hmem := by
    obtain ⟨object, hlookup⟩ := lookup_of_mem hmem
    exact h.positive publicId (mem_of_lookup (swept.kept publicId object hlookup))
  made publicId object hlookup :=
    swept.made object (h.made publicId object (swept.kept publicId object hlookup))
  injective publicId publicId' object hlookup hlookup' :=
    h.injective publicId publicId' object (swept.kept publicId object hlookup)
      (swept.kept publicId' object hlookup')
  registered object halive := by
    rw [swept.alive] at halive
    obtain ⟨publicId, hlookup⟩ := h.registered object halive
    exact ⟨publicId, swept.live publicId object hlookup halive⟩
  aliveOnce := swept.alive ▸ h.aliveOnce
  stands publicId object hlookup halive := by
    refine (h.stands publicId object (swept.kept publicId object hlookup) (swept.alive ▸ halive)).concat
      (fun hout => ?_) (fun hout => ?_) quiet fun hkill => hkill.2 (hafter ▸ halive)
    · rw [hout] at plain
      cases plain
    · rw [hout.1] at plain
      cases plain

theorem Inv.created {s' : State} (hafter : (State.step r.call r.before).2 = s')
    {type : ManagedType} {configured : Bool}
    (hfresh : (⟨type, internalId⟩ : ManagedObject) ∉ s.made)
    (called : r.call = .create type internalId configured) (hout : r.output = .created publicId)
    (positive : 0 < publicId) (free : publicId ∉ s.objects)
    (objects : s'.objects = s.objects.insert publicId ⟨type, internalId⟩)
    (alive : s'.alive = s.alive ++ [⟨type, internalId⟩])
    (made : s'.made = s.made ++ [⟨type, internalId⟩]) (next : 0 < s'.nextPublicId) :
    Inv s' (past ++ [r]) where
  next := next
  positive k hk := by
    rw [objects, AList.mem_insert] at hk
    rcases hk with rfl | hk
    · exact positive
    · exact h.positive k hk
  made k object hk := by
    rw [objects] at hk
    rw [made, List.mem_append, List.mem_singleton]
    rcases lookup_insert_cases hk with ⟨-, rfl⟩ | ⟨-, hk⟩
    · exact .inr rfl
    · exact .inl (h.made k object hk)
  injective k k' object hk hk' := by
    rw [objects] at hk hk'
    -- The new object was not made before, so it has no other identifier.
    rcases lookup_insert_cases hk with ⟨rfl, rfl⟩ | ⟨-, hold⟩ <;>
      rcases lookup_insert_cases hk' with ⟨rfl, hsame⟩ | ⟨-, hold'⟩
    · rfl
    · exact absurd (h.made k' _ hold') hfresh
    · exact absurd (h.made k _ hold) (hsame ▸ hfresh)
    · exact h.injective k k' object hold hold'
  registered object halive := by
    rw [alive, List.mem_append, List.mem_singleton] at halive
    rw [objects]
    rcases halive with hold | rfl
    · obtain ⟨k, hk⟩ := h.registered object hold
      have hne : k ≠ publicId := by
        rintro rfl
        exact free (mem_of_lookup hk)
      exact ⟨k, by rw [AList.lookup_insert_ne hne, hk]⟩
    · exact ⟨publicId, AList.lookup_insert _⟩
  aliveOnce := by
    rw [alive]
    refine List.Nodup.append h.aliveOnce (by simp) fun object hold hnew => ?_
    rw [List.mem_singleton] at hnew
    obtain ⟨k, hk⟩ := h.registered object hold
    exact hfresh (hnew ▸ h.made k object hk)
  stands k object hk halive := by
    rw [objects] at hk
    rcases lookup_insert_cases hk with ⟨rfl, rfl⟩ | ⟨hne, hk⟩
    · exact ⟨past, r, [], rfl, ⟨configured, called⟩, hout, by simp⟩
    · have hold : object ∈ s.alive := by
        rw [alive, List.mem_append, List.mem_singleton] at halive
        rcases halive with hold | rfl
        · exact hold
        · exact absurd (h.made k _ hk) hfresh
      refine (h.stands k object hk hold).concat (fun heq => ?_) (fun hdestroyed => ?_) (by simp [called])
        fun hkill => hkill.2 (by rw [hafter, alive]; exact List.mem_append_left _ hold)
      · rw [hout, Output.created.injEq] at heq
        exact hne heq.symm
      · rw [hout] at hdestroyed
        cases hdestroyed.1

theorem Inv.destroyed {type : ManagedType} (hafter : (State.step r.call r.before).2 = { s with
      objects := s.objects.erase publicId
      alive := s.alive.erase ⟨type, internalId⟩ }) (called : r.call = .destroy type publicId)
    (hout : r.output = .destroyed)
    (registered : s.objects.lookup publicId = some ⟨type, internalId⟩) :
    Inv { s with
      objects := s.objects.erase publicId
      alive := s.alive.erase ⟨type, internalId⟩ } (past ++ [r]) where
  next := h.next
  positive k hk := h.positive k (AList.mem_erase.mp hk).2
  made k object hk := h.made k object (lookup_erase_some hk).2
  injective k k' object hk hk' := h.injective k k' object (lookup_erase_some hk).2 (lookup_erase_some hk').2
  registered object halive := by
    obtain ⟨hne, hold⟩ := (List.Nodup.mem_erase_iff h.aliveOnce).mp halive
    obtain ⟨k, hk⟩ := h.registered object hold
    have hk' : k ≠ publicId := by
      rintro rfl
      rw [registered, Option.some.injEq] at hk
      exact hne hk.symm
    exact ⟨k, by rw [AList.lookup_erase_ne hk', hk]⟩
  aliveOnce := h.aliveOnce.erase _
  stands k object hk halive := by
    obtain ⟨hne, hk⟩ := lookup_erase_some hk
    refine (h.stands k object hk (List.mem_of_mem_erase halive)).concat (by simp [hout])
      (fun hdestroyed => ?_) (by simp [called]) fun hkill => hkill.2 (hafter ▸ halive)
    obtain ⟨-, type', hcall⟩ := hdestroyed
    rw [called, Call.destroy.injEq] at hcall
    exact hne hcall.2.symm

theorem Inv.alive_reset : s.resetAuthorState.alive = [] := by
  rw [State.resetAuthorState, List.filter_eq_nil_iff]
  intro object halive
  obtain ⟨publicId, hlookup⟩ := h.registered object halive
  have hentry : object ∈ s.objects.entries.map fun entry => entry.2 :=
    List.mem_map.mpr ⟨⟨publicId, object⟩, AList.mem_lookup_iff.mp hlookup, rfl⟩
  simp [hentry]

theorem Inv.reset (r : Happened) : Inv s.resetAuthorState (past ++ [r]) where
  next := show (0 : Int32) < 1 by decide
  positive k hk := absurd hk (AList.notMem_empty k)
  made k object hk := by simp [State.resetAuthorState] at hk
  injective k k' object hk := by simp [State.resetAuthorState] at hk
  registered object halive := by simp [h.alive_reset] at halive
  aliveOnce := by simp [h.alive_reset]
  stands k object hk := by simp [State.resetAuthorState] at hk

theorem Inv.expired {ended : ManagedObject}
    (hafter : (State.step r.call r.before).2 = s.removeBackend ended)
    (called : r.call = .expire ended) (hout : r.output = .done) :
    Inv (s.removeBackend ended) (past ++ [r]) where
  next := h.next
  positive := h.positive
  made := h.made
  injective := h.injective
  registered object halive := h.registered object (List.mem_of_mem_erase halive)
  aliveOnce := h.aliveOnce.erase _
  stands k object hk halive := by
    exact (h.stands k object hk (List.mem_of_mem_erase halive)).concat (by simp [hout]) (by simp [hout])
      (by simp [called]) fun hkill => hkill.2 (hafter ▸ halive)

theorem Inv.fresh {call : Call} (hfresh : FreshBackend (record State.step s call))
    (type : ManagedType) (internalId : Int32) (configured : Bool)
    (hcall : call = .create type internalId configured) (hid : 0 < internalId) :
    (⟨type, internalId⟩ : ManagedObject) ∉ s.alive := by
  intro halive
  obtain ⟨publicId, hlookup⟩ := h.registered _ halive
  exact hfresh type internalId configured hcall hid (h.made publicId _ hlookup)

theorem Inv.step (call : Call) (hfresh : FreshBackend (record State.step s call)) :
    Inv (State.step call s).2 (past ++ [record State.step s call]) := by
  have hmoves := moves_step h.next call (h.fresh hfresh)
  have hout : (record State.step s call).output = (State.step call s).1 := rfl
  have hafter : (State.step (record State.step s call).call (record State.step s call).before).2 =
      (State.step call s).2 := rfl
  have hbefore : (record State.step s call).before = s := rfl
  have hcall : (record State.step s call).call = call := rfl
  generalize record State.step s call = r at *
  generalize (State.step call s).1 = output at hmoves hout
  generalize (State.step call s).2 = s' at hmoves hafter ⊢
  subst hcall
  cases hmoves with
  | swept _ _ plain quiet swept => exact h.swept hafter (hout ▸ plain) quiet swept
  | created publicId _ type internalId configured called positive free room objects alive made next =>
    have hid : 0 < internalId := by
      by_contra hneg
      rw [called, hbefore, State.step, State.create, if_pos (Int32.not_lt.mp hneg)] at hafter
      have hlen := congrArg List.length alive
      rw [← hafter] at hlen
      simp at hlen
    exact h.created hafter (hbefore ▸ hfresh type internalId configured called hid) called hout positive
      free objects alive made next
  | destroyed type publicId internalId called registered live =>
    exact h.destroyed hafter called hout registered
  | reset called => exact h.reset r
  | expired object called => exact h.expired hafter called hout

end

theorem inv_run (calls : List Call) (hfresh : ∀ r ∈ history State.step calls {}, FreshBackend r) :
    Inv (run State.step calls {}) (history State.step calls {}) := by
  refine @history_induction_of _ _ _ State.step Inv FreshBackend {} ?_
    (fun t past call h hr => h.step call hr) calls hfresh
  constructor <;> simp

/-! ### The promises -/

theorem Inv.consistent (h : Inv s past) : Consistent s where
  distinct := s.objects.keys_nodup
  positive := h.positive
  injective := h.injective
  registered := h.registered
  registers hroom object hobject := by
    obtain ⟨publicId, hpos, hfree, hregister⟩ := registerObject_succeeds h.next _ hobject hroom
    refine ⟨publicId, hpos, hfree, by rw [hregister], ?_⟩
    rw [hregister]
    exact AList.lookup_insert _

theorem Inv.count_eq (h : Inv s past) : s.managedObjectCount.1 = s.alive.length := by
  rw [State.managedObjectCount, (countAlive_spec _ s).2]
  -- Both lists name the same objects, each once.
  have hentries : ((s.objects.entries.map fun entry => (entry.1, entry.2)).filter
      fun entry => entry.2 ∈ s.alive).map (fun entry => entry.2) |>.Nodup := by
    refine List.Nodup.map_on ?_ (List.Nodup.filter _ ?_)
    · rintro ⟨k, object⟩ hk ⟨k', object'⟩ hk' hsame
      obtain rfl : object = object' := hsame
      have hregistered : ∀ i, (i, object) ∈ (s.objects.entries.map fun entry => (entry.1, entry.2)).filter
          (fun entry => entry.2 ∈ s.alive) → s.objects.lookup i = some object := by
        intro i hi
        obtain ⟨⟨i', o⟩, hentry, heq⟩ := List.mem_map.mp (List.mem_filter.mp hi).1
        obtain ⟨rfl, rfl⟩ := Prod.mk.inj heq
        exact AList.mem_lookup_iff.mpr hentry
      rw [h.injective k k' object (hregistered k hk) (hregistered k' hk')]
    · refine List.Nodup.map_on ?_ (s.objects.nodupKeys.nodup)
      rintro ⟨k, object⟩ - ⟨k', object'⟩ - hsame
      cases hsame
      rfl
  have hsame : (((s.objects.entries.map fun entry => (entry.1, entry.2)).filter
      fun entry => entry.2 ∈ s.alive).map fun entry => entry.2).Perm s.alive := by
    refine (List.perm_ext_iff_of_nodup hentries h.aliveOnce).mpr fun object => ⟨fun hobject => ?_, fun halive => ?_⟩
    · obtain ⟨entry, hentry, rfl⟩ := List.mem_map.mp hobject
      simpa using (List.mem_filter.mp hentry).2
    · obtain ⟨k, hk⟩ := h.registered object halive
      refine List.mem_map.mpr ⟨(k, object), List.mem_filter.mpr ⟨List.mem_map.mpr ⟨⟨k, object⟩, ?_, rfl⟩, ?_⟩, rfl⟩
      · exact AList.mem_lookup_iff.mp hk
      · simpa using halive
  rw [← hsame.length_eq, List.length_map]

end War3VK.Japi.ObjectRegistry
