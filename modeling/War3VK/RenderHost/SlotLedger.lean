import Mathlib
import War3VK.Lib.Guards
import War3VK.Lib.Machine

/-!
# The slot ledger

The ownership of four shared slots (`src/tools/render_host/slot_ledger.cpp`). A writer reserves a
slot and gets a `Key`; the key is published, read under a `ReadPermit` and finished, or cancelled.
A cancelled slot is quarantined, since nobody knows whether its writer has stopped, until the
whole ledger retires. The ledger is called by one owner at a time; a permit is an object of its own,
which remembers the ledger that issued it.
-/

namespace War3VK.RenderHost

/-- `ipc::Nonce`. -/
structure Nonce where
  low : UInt64 := 0
  high : UInt64 := 0
deriving DecidableEq, Repr

/-- `empty`. -/
def Nonce.empty (n : Nonce) : Bool := n.low ||| n.high = 0

end War3VK.RenderHost

namespace War3VK.RenderHost.Slots

open Lib

def slotCount : ℕ := 4

instance : NeZero slotCount := ⟨by decide⟩

def slotBytes : UInt32 := 65536

/-- `enum class Error`. -/
inductive Error where
  | none | phase | epoch | slot | size | frame | frameExhausted | capacity | generationExhausted
  | lease | slotState | permit | outputBusy | outputUsed | nullBuffer | descriptorSize | magic
  | version
deriving DecidableEq, Repr

/-- `enum class Phase`. -/
inductive Phase where
  | dormant | active | ready | retired | invalid
deriving DecidableEq, Repr

/-- `enum class SlotState`. -/
inductive SlotState where
  | free | writing | published | reading | quarantined | retired
deriving DecidableEq, Repr

structure Key where
  connection : Nonce := {}
  map : UInt64 := 0
  device : UInt64 := 0
  frame : UInt64 := 0
  generation : UInt64 := 0
  slot : UInt32 := 0
  bytes : UInt32 := 0
deriving DecidableEq, Repr

/-- A permit to read; the ledger that issued it is named by its address, `none` for null. -/
structure ReadPermit where
  owner : Option ℕ := none
  key : Key := {}
  issued : Bool := false
deriving DecidableEq, Repr

/-- `active`. -/
def ReadPermit.active (p : ReadPermit) : Bool := p.owner.isSome

/-- The move constructor: the new permit, and what is left of the old one. -/
def ReadPermit.moved (other : ReadPermit) : ReadPermit × ReadPermit :=
  (⟨other.owner, other.key, other.issued⟩, { other with owner := none, key := {} })

/-- `struct Limits`. -/
structure Limits where
  generationMax : UInt64 := UInt64.ofNat (2^64 - 1)
  frameMax : UInt64 := UInt64.ofNat (2^64 - 1)
deriving DecidableEq, Repr

/-- `struct SlotLedger::Record`. -/
structure SlotRecord where
  key : Key := {}
  generation : UInt64 := 0
  state : SlotState := .free
deriving DecidableEq, Repr

/-- `class SlotLedger`. The cursor is always the remainder of a division by `slotCount`. -/
structure SlotLedger where
  self : ℕ
  connection : Nonce
  limits : Limits
  phase : Phase := .dormant
  map : UInt64 := 0
  device : UInt64 := 0
  frame : UInt64 := 0
  cursor : Fin slotCount := 0
  records : Fin slotCount → SlotRecord := fun _ => {}

def SlotLedger.new (self : ℕ) (connection : Nonce) (limits : Limits) : SlotLedger :=
  { self, connection, limits
    phase := if connection.empty ∨ limits.generationMax = 0 ∨ limits.frameMax = 0 then .invalid
      else .dormant }

/-- `allFree`. -/
def SlotLedger.allFree (l : SlotLedger) : Bool := ∀ slot, (l.records slot).state = .free

/-- `localReadersDone`. -/
def SlotLedger.localReadersDone (l : SlotLedger) : Bool := ∀ slot, (l.records slot).state ≠ .reading

def SlotLedger.setRecord (l : SlotLedger) (slot : Fin slotCount) (r : SlotRecord) : SlotLedger :=
  { l with records := Function.update l.records slot r }

@[simp]
theorem setRecord_self (l : SlotLedger) (slot : Fin slotCount) (r : SlotRecord) :
    (l.setRecord slot r).records slot = r := Function.update_self ..

theorem setRecord_of_ne (l : SlotLedger) {slot slot' : Fin slotCount} (r : SlotRecord)
    (h : slot' ≠ slot) : (l.setRecord slot r).records slot' = l.records slot' :=
  Function.update_of_ne h ..

def SlotLedger.setState (l : SlotLedger) (slot : Fin slotCount) (state : SlotState) : SlotLedger :=
  l.setRecord slot { l.records slot with state }

/-! ## Epochs -/

/-- `beginEpoch`. -/
def beginEpoch (map device : UInt64) (l : SlotLedger) : Error × SlotLedger :=
  if l.phase ≠ .dormant ∧ l.phase ≠ .ready then (.phase, l)
  else if !l.allFree then (.slotState, l)
  else if map = 0 ∨ device = 0 ∨ map < l.map ∨ device < l.device ∨
      map = l.map ∧ device = l.device then (.epoch, l)
  else (.none, { l with map, device, frame := 0, phase := .active })

/-- `endEpoch`. -/
def endEpoch (l : SlotLedger) : Error × SlotLedger :=
  if l.phase ≠ .active then (.phase, l)
  else if !l.allFree then (.slotState, l)
  else (.none, { l with phase := .ready })

/-! ## Leases -/

/-- The search of `reserve` through the slots, and whether it has passed a busy one. -/
def findSlot (l : SlotLedger) : List (Fin slotCount) → Bool → Error ⊕ Fin slotCount
  | [], busy => .inl (if busy then .capacity else .generationExhausted)
  | slot :: rest, busy =>
    if (l.records slot).state ≠ .free then findSlot l rest true
    else if (l.records slot).generation ≥ l.limits.generationMax then findSlot l rest busy
    else .inr slot

/-- The key that `reserve` makes for a slot. -/
def nextKey (l : SlotLedger) (frame : UInt64) (bytes : UInt32) (slot : Fin slotCount) : Key where
  connection := l.connection
  map := l.map
  device := l.device
  frame := frame
  generation := (l.records slot).generation + 1
  slot := UInt32.ofNat slot
  bytes := bytes

def searchOrder (l : SlotLedger) : List (Fin slotCount) :=
  (List.finRange slotCount).map fun step => l.cursor + step

/-- `reserve`: the error, the key at `output` if it was written, and the ledger. -/
def reserve (frame : UInt64) (bytes : UInt32) (l : SlotLedger) : Error × Option Key × SlotLedger :=
  if l.phase ≠ .active then (.phase, none, l)
  else if bytes = 0 ∨ bytes > slotBytes then (.size, none, l)
  else if l.frame ≥ l.limits.frameMax then (.frameExhausted, none, l)
  else if frame = 0 ∨ frame ≠ l.frame + 1 then (.frame, none, l)
  else match findSlot l (searchOrder l) false with
    | .inl e => (e, none, l)
    | .inr slot =>
      let key := nextKey l frame bytes slot
      let l' := l.setRecord slot ⟨key, key.generation, .writing⟩
      (.none, some key, { l' with frame, cursor := slot + 1 })

/-- `check`: the slot of a key that is the current lease of a slot in a state. -/
def check (key : Key) (state : SlotState) (l : SlotLedger) : Error ⊕ Fin slotCount :=
  if h : key.slot.toNat < slotCount then
    let record := l.records ⟨key.slot.toNat, h⟩
    if key ≠ record.key then .inl .lease
    else if record.state ≠ state then .inl .slotState
    else .inr ⟨key.slot.toNat, h⟩
  else .inl .slot

/-- `publish`. -/
def publish (key : Key) (l : SlotLedger) : Error × SlotLedger :=
  if l.phase ≠ .active then (.phase, l)
  else match check key .writing l with
    | .inl e => (e, l)
    | .inr slot => (.none, l.setState slot .published)

/-- `cancelWrite`. -/
def cancelWrite (key : Key) (l : SlotLedger) : Error × SlotLedger :=
  if l.phase ≠ .active then (.phase, l)
  else match check key .writing l with
    | .inl e => (e, l)
    | .inr slot => (.none, l.setState slot .quarantined)

/-- `beginRead`. -/
def beginRead (key : Key) (output : ReadPermit) (l : SlotLedger) :
    Error × ReadPermit × SlotLedger :=
  if l.phase ≠ .active then (.phase, output, l)
  else if output.active then (.outputBusy, output, l)
  else if output.issued then (.outputUsed, output, l)
  else match check key .published l with
    | .inl e => (e, output, l)
    | .inr slot => (.none, ⟨some l.self, key, true⟩, l.setState slot .reading)

/-- `finishRead`. -/
def finishRead (permit : ReadPermit) (l : SlotLedger) : Error × ReadPermit × SlotLedger :=
  if permit.owner ≠ some l.self then (.permit, permit, l)
  else match check permit.key .reading l with
    | .inl e => (e, permit, l)
    | .inr slot =>
      (.none, { permit with owner := none, key := {} },
        l.setState slot (if l.phase = .retired then .retired else .free))

/-- `retire`. -/
def retire (l : SlotLedger) : SlotLedger :=
  { l with
    phase := .retired
    records := fun slot =>
      if (l.records slot).state ≠ .reading then { l.records slot with state := .retired }
      else l.records slot }

end War3VK.RenderHost.Slots

/-!
## Calls of the slot ledger

A ledger is called in any order, with any keys and with permits that may be moved, dropped or belong to
another ledger. `step` is one such call, and `Outcome` is what it can do: the guards that have passed
and the slot and permit that have changed (`outcome_step`).
-/

namespace War3VK.RenderHost.Slots

open Lib

/-! ### Calls -/

structure World where
  ledger : SlotLedger
  permits : ℕ → ReadPermit

inductive Call where
  | beginEpoch (map device : UInt64)
  | endEpoch
  | reserve (frame : UInt64) (bytes : UInt32)
  | publish (key : Key)
  | cancelWrite (key : Key)
  | beginRead (key : Key) (permit : ℕ)
  | finishRead (permit : ℕ)
  | retire
  /-- A new permit, in the place of one that is dropped. -/
  | construct (permit : ℕ)
  /-- A permit that is constructed by moving another one into it. -/
  | move (target source : ℕ)
  /-- What other ledgers do: a permit that is not this ledger's is replaced by another such. -/
  | foreign (permit : ℕ) (value : ReadPermit)

def Call.isLease : Call → Bool
  | .reserve _ _ | .publish _ | .cancelWrite _ | .beginRead _ _ | .finishRead _ => true
  | _ => false

def World.setPermit (w : World) (i : ℕ) (p : ReadPermit) : World :=
  { w with permits := Function.update w.permits i p }

/-- One call: the error and the key that it returns, and the world after it. -/
def step (call : Call) (w : World) : (Error × Option Key) × World :=
  match call with
  | .beginEpoch map device =>
    let r := beginEpoch map device w.ledger
    ((r.1, none), { w with ledger := r.2 })
  | .endEpoch =>
    let r := endEpoch w.ledger
    ((r.1, none), { w with ledger := r.2 })
  | .reserve frame bytes =>
    let r := reserve frame bytes w.ledger
    ((r.1, r.2.1), { w with ledger := r.2.2 })
  | .publish key =>
    let r := publish key w.ledger
    ((r.1, none), { w with ledger := r.2 })
  | .cancelWrite key =>
    let r := cancelWrite key w.ledger
    ((r.1, none), { w with ledger := r.2 })
  | .beginRead key i =>
    let r := beginRead key (w.permits i) w.ledger
    ((r.1, none), { w with ledger := r.2.2 }.setPermit i r.2.1)
  | .finishRead i =>
    let r := finishRead (w.permits i) w.ledger
    ((r.1, none), { w with ledger := r.2.2 }.setPermit i r.2.1)
  | .retire => ((.none, none), { w with ledger := retire w.ledger })
  | .construct i => ((.none, none), w.setPermit i {})
  | .move target source =>
    if target = source then ((.none, none), w)
    else
      let moved := (w.permits source).moved
      ((.none, none), (w.setPermit source moved.2).setPermit target moved.1)
  | .foreign i value =>
    if (w.permits i).owner = some w.ledger.self ∨ value.owner = some w.ledger.self then
      ((.none, none), w)
    else ((.none, none), w.setPermit i value)

abbrev Event := Record World Call (Error × Option Key)

/-! ### What a call can do -/

structure Current (w : World) (key : Key) (slot : Fin slotCount) (state : SlotState) : Prop where
  names : key.slot.toNat = slot
  lease : (w.ledger.records slot).key = key
  stage : (w.ledger.records slot).state = state

/-- The permits of a ledger are some of those it had before, each moved to one place at most. -/
structure Shuffled (self : ℕ) (before after : ℕ → ReadPermit) : Prop where
  /-- Each was somewhere before, and different ones at different places. -/
  source : ∃ f : ℕ → ℕ,
    (∀ i, (after i).owner = some self →
      (before (f i)).owner = some self ∧ (after i).key = (before (f i)).key) ∧
    ∀ i j, (after i).owner = some self → (after j).owner = some self → f i = f j → i = j

inductive Outcome (w : World) : Call → (Error × Option Key) × World → Prop where
  | refused (call : Call) (e : Error) (he : e ≠ .none) : Outcome w call ((e, none), w)
  | permits (call : Call) (hcall : call.isLease = false) (after : ℕ → ReadPermit)
      (hafter : Shuffled w.ledger.self w.permits after) :
      Outcome w call ((.none, none), { w with permits := after })
  | epoch (call : Call) (hcall : call.isLease = false) (map device frame : UInt64) (phase : Phase)
      (hbefore : w.ledger.phase ≠ .retired) (hafter : phase ≠ .retired) :
      Outcome w call
        ((.none, none), { w with ledger := { w.ledger with map, device, frame, phase } })
  | reserved (frame : UInt64) (bytes : UInt32) (slot cursor : Fin slotCount) (key : Key)
      (hphase : w.ledger.phase = .active) (hfree : (w.ledger.records slot).state = .free)
      (hslot : key.slot.toNat = slot)
      (hgen : key.generation.toNat = (w.ledger.records slot).generation.toNat + 1) :
      Outcome w (.reserve frame bytes) ((.none, some key), { w with
        ledger := { w.ledger.setRecord slot ⟨key, key.generation, .writing⟩ with frame, cursor } })
  | published (key : Key) (slot : Fin slotCount) (hphase : w.ledger.phase = .active)
      (hkey : Current w key slot .writing) :
      Outcome w (.publish key)
        ((.none, none), { w with ledger := w.ledger.setState slot .published })
  | cancelled (key : Key) (slot : Fin slotCount) (hphase : w.ledger.phase = .active)
      (hkey : Current w key slot .writing) :
      Outcome w (.cancelWrite key)
        ((.none, none), { w with ledger := w.ledger.setState slot .quarantined })
  | began (key : Key) (i : ℕ) (slot : Fin slotCount) (hphase : w.ledger.phase = .active)
      (hkey : Current w key slot .published) (hpermit : (w.permits i).owner = none) :
      Outcome w (.beginRead key i) ((.none, none),
        { w with ledger := w.ledger.setState slot .reading }.setPermit i
          ⟨some w.ledger.self, key, true⟩)
  | finished (i : ℕ) (slot : Fin slotCount) (hpermit : (w.permits i).owner = some w.ledger.self)
      (hkey : Current w (w.permits i).key slot .reading) :
      Outcome w (.finishRead i) ((.none, none), World.setPermit
        ⟨w.ledger.setState slot (if w.ledger.phase = .retired then .retired else .free), w.permits⟩
        i { w.permits i with owner := none, key := {} })
  | retired : Outcome w .retire ((.none, none), { w with ledger := retire w.ledger })

theorem shuffled_of_subset {self : ℕ} {before after : ℕ → ReadPermit}
    (h : ∀ i, (after i).owner = some self → after i = before i) : Shuffled self before after := by
  refine ⟨id, fun i hi => ?_, fun i j _ _ hij => hij⟩
  rw [id, ← h i hi]
  exact ⟨hi, rfl⟩

theorem shuffled_update {self : ℕ} (before : ℕ → ReadPermit) (i : ℕ) {p : ReadPermit}
    (h : p.owner ≠ some self) : Shuffled self before (Function.update before i p) := by
  refine shuffled_of_subset fun j hj => ?_
  by_cases hji : j = i
  · rw [hji, Function.update_self] at hj
    contradiction
  · rw [Function.update_of_ne hji]

theorem shuffled_move {self : ℕ} (before : ℕ → ReadPermit) {target source : ℕ}
    (h : target ≠ source) :
    Shuffled self before (Function.update (Function.update before source (before source).moved.2)
      target (before source).moved.1) := by
  refine ⟨Function.update id target source, fun i hi => ?_, fun i j hi hj hij => ?_⟩
  · by_cases hit : i = target
    · subst hit
      simp only [Function.update_self] at hi ⊢
      exact ⟨hi, rfl⟩
    · simp only [Function.update_of_ne hit, id] at hi ⊢
      by_cases his : i = source
      · subst his
        rw [Function.update_self] at hi
        exact nomatch hi
      · rw [Function.update_of_ne his] at hi ⊢
        exact ⟨hi, rfl⟩
  · -- What is left of the moved permit belongs to no ledger.
    have hsource : ∀ k, k ≠ target →
        (Function.update (Function.update before source (before source).moved.2) target
          (before source).moved.1 k).owner = some self → k ≠ source := by
      rintro k hk hown rfl
      rw [Function.update_of_ne hk, Function.update_self] at hown
      exact nomatch hown
    by_cases hit : i = target <;> by_cases hjt : j = target
    · rw [hit, hjt]
    · rw [hit, Function.update_self, Function.update_of_ne hjt] at hij
      exact absurd hij.symm (hsource j hjt hj)
    · rw [hjt, Function.update_self, Function.update_of_ne hit] at hij
      exact absurd hij (hsource i hit hi)
    · rwa [Function.update_of_ne hit, Function.update_of_ne hjt] at hij

theorem current_of_check {w : World} {key : Key} {state : SlotState} {slot : Fin slotCount}
    (h : check key state w.ledger = .inr slot) : Current w key slot state := by
  unfold check at h
  dsimp only at h
  split_ifs at h with hslot hkey hstate
  cases h
  exact ⟨rfl, (not_not.mp hkey).symm, not_not.mp hstate⟩

theorem check_ne_none (key : Key) (state : SlotState) (l : SlotLedger) :
    check key state l ≠ .inl .none := by
  unfold check
  dsimp only
  split_ifs <;> simp

theorem findSlot_spec {l : SlotLedger} {order : List (Fin slotCount)} {busy : Bool} :
    findSlot l order busy ≠ .inl .none ∧ ∀ slot, findSlot l order busy = .inr slot →
      (l.records slot).state = .free ∧ (l.records slot).generation < l.limits.generationMax := by
  induction order generalizing busy with
  | nil => cases busy <;> simp [findSlot]
  | cons slot order ih =>
    rw [findSlot]
    split_ifs with hfree hgen
    · exact ih
    · exact ih
    · refine ⟨by simp, fun slot' h => ?_⟩
      cases h
      exact ⟨not_not.mp hfree, UInt64.not_le.mp hgen⟩

theorem outcome_step (call : Call) (w : World) : Outcome w call (step call w) := by
  cases call with
  | beginEpoch map device =>
    simp only [step, beginEpoch]
    split_ifs with h1 h2 h3
    · exact .refused _ .phase (by decide)
    · exact .refused _ .slotState (by decide)
    · exact .refused _ .epoch (by decide)
    · refine .epoch _ rfl map device 0 .active (fun h => h1 ?_) (by decide)
      simp [h]
  | endEpoch =>
    simp only [step, endEpoch]
    split_ifs with h1 h2
    · exact .refused _ .phase (by decide)
    · exact .refused _ .slotState (by decide)
    · refine .epoch _ rfl w.ledger.map w.ledger.device w.ledger.frame .ready (fun h => h1 ?_) (by decide)
      simp [h]
  | reserve frame bytes =>
    simp only [step, reserve]
    split_ifs with h1 h2 h3 h4
    · exact .refused _ .phase (by decide)
    · exact .refused _ .size (by decide)
    · exact .refused _ .frameExhausted (by decide)
    · exact .refused _ .frame (by decide)
    · obtain ⟨hne, hfound⟩ := @findSlot_spec w.ledger (searchOrder w.ledger) false
      cases hf : findSlot w.ledger (searchOrder w.ledger) false with
      | inl e => exact .refused _ e fun he => hne (by rw [hf, he])
      | inr slot =>
        obtain ⟨hfree, hgen⟩ := hfound slot hf
        refine .reserved frame bytes slot _ (nextKey w.ledger frame bytes slot) (not_not.mp h1) hfree
          ?_ ?_
        · have := slot.isLt
          unfold slotCount at this
          simp [nextKey]
          omega
        · -- The generation does not wrap, since it is below the limit.
          have := UInt64.lt_iff_toNat_lt.mp hgen
          have := w.ledger.limits.generationMax.toNat_lt
          simp only [nextKey, UInt64.toNat_add, UInt64.toNat_one]
          omega
  | publish key =>
    simp only [step, publish]
    split_ifs with h1
    · exact .refused _ .phase (by decide)
    · cases hc : check key .writing w.ledger with
      | inl e => exact .refused _ e fun he => check_ne_none key .writing w.ledger (by rw [hc, he])
      | inr slot => exact .published key slot (not_not.mp h1) (current_of_check hc)
  | cancelWrite key =>
    simp only [step, cancelWrite]
    split_ifs with h1
    · exact .refused _ .phase (by decide)
    · cases hc : check key .writing w.ledger with
      | inl e => exact .refused _ e fun he => check_ne_none key .writing w.ledger (by rw [hc, he])
      | inr slot => exact .cancelled key slot (not_not.mp h1) (current_of_check hc)
  | beginRead key i =>
    have hsame : ∀ e : Error, e ≠ .none →
        Outcome w (.beginRead key i) ((e, none), w.setPermit i (w.permits i)) := by
      intro e he
      rw [World.setPermit, Function.update_eq_self]
      exact .refused _ e he
    simp only [step, beginRead]
    split_ifs with h1 h2 h3
    · exact hsame .phase (by decide)
    · exact hsame .outputBusy (by decide)
    · exact hsame .outputUsed (by decide)
    · cases hc : check key .published w.ledger with
      | inl e => exact hsame e fun he => check_ne_none key .published w.ledger (by rw [hc, he])
      | inr slot =>
        refine .began key i slot (not_not.mp h1) (current_of_check hc) ?_
        simpa [ReadPermit.active] using h2
  | finishRead i =>
    have hsame : ∀ e : Error, e ≠ .none →
        Outcome w (.finishRead i) ((e, none), w.setPermit i (w.permits i)) := by
      intro e he
      rw [World.setPermit, Function.update_eq_self]
      exact .refused _ e he
    simp only [step, finishRead]
    by_cases h1 : (w.permits i).owner ≠ some w.ledger.self
    · rw [if_pos h1]
      exact hsame .permit (by decide)
    · rw [if_neg h1]
      cases hc : check (w.permits i).key .reading w.ledger with
      | inl e => exact hsame e fun he => check_ne_none _ .reading w.ledger (by rw [hc, he])
      | inr slot => exact .finished i slot (not_not.mp h1) (current_of_check hc)
  | retire => exact .retired
  | construct i => exact .permits _ rfl _ (shuffled_update w.permits i (by simp))
  | move target source =>
    simp only [step]
    split_ifs with h
    · exact .permits _ rfl _ (shuffled_of_subset fun _ _ => rfl)
    · exact .permits _ rfl _ (shuffled_move w.permits h)
  | foreign i value =>
    simp only [step]
    split_ifs with h
    · exact .permits _ rfl _ (shuffled_of_subset fun _ _ => rfl)
    · exact .permits _ rfl _ (shuffled_update w.permits i (not_or.mp h).2)

end War3VK.RenderHost.Slots
