import War3VK.RenderHost.EventWire
import War3VK.Lib.Machine

/-!
# The history store

The host's long-term event history (`src/tools/render_host/recorder_history_store.cpp`). `accept`
takes one WVE1 packet: a Begin arms the store, each Data adds its events and a Seal freezes it. The
first `pre` slots of the storage are written in rotation until the cut, the others once each behind
it. Any error is a permanent `Fault`. `visitFrozen` hands the events of a frozen store to a visitor
in the order of their sequences.

The counters are natural numbers: the guards on `nextOrdinal` and `lastSequence` keep them below
`2^64`.
-/

namespace War3VK.RenderHost.Recorder

open Lib

/-- `UINT64_MAX`. -/
def uint64Max : ℕ := 2^64 - 1

/-- `enum class StoreState`. -/
inductive StoreState where
  | empty | recording | frozen | fault
deriving DecidableEq, Repr

/-- `enum class StoreError`. -/
inductive StoreError where
  | none | wireDecode | badState | sessionMismatch | ordinalMismatch | badBeginFields
  | badDataFields | badSealFields | sequenceGap | triggerConflict | triggerRegressed
  | triggerNotCovered | postOverflow | totalsMismatch | allocationFailed | sequenceOverflow
  | ordinalOverflow
deriving DecidableEq, Repr

/-- `class HistoryStore`. -/
structure HistoryStore where
  state : StoreState := .empty
  session : UInt64 := 0
  nextOrdinal : ℕ := 1
  lastSequence : ℕ := 0
  /-- The sequence of the cut, or `noTrigger`. -/
  trigger : UInt64 := noTrigger
  capacity : ℕ := 0
  pre : ℕ := 0
  accepted : ℕ := 0
  evicted : ℕ := 0
  /-- The events that were attempted, from the Seal. -/
  attempted : ℕ := 0
  lost : ℕ := 0
  reason : ℕ := 0
  /-- The codec's error, after a packet that it refused. -/
  wireError : WireError := .none
  storeError : StoreError := .none
  storage : List Event := []
deriving DecidableEq, Repr

/-- `fail`. -/
def fail (e : StoreError) (s : HistoryStore) : StoreError × HistoryStore :=
  (e, { s with storeError := e, state := .fault })

/-- `failWire`. -/
def failWire (w : WireError) (s : HistoryStore) : StoreError × HistoryStore :=
  fail .wireDecode { s with wireError := w }

/-! ## Begin -/

/-- The tests of `acceptBegin`. -/
def beginError (h : Header) (s : HistoryStore) : StoreError :=
  firstError .none [
    (s.state ≠ .empty, .badState),
    (h.ordinal ≠ 1 ∨ h.count ≠ 0 ∨ h.trigger ≠ noTrigger ∨ h.attempted ≠ 0 ∨ h.lost ≠ 0 ∨
      h.accepted ≠ 0 ∨ h.reason ≠ 0, .badBeginFields),
    (h.capacity < 4 ∨ h.capacity > maxHistoryEvents, .badBeginFields)]

/-- The assignments of `acceptBegin`. -/
def HistoryStore.begun (s : HistoryStore) (h : Header) : HistoryStore :=
  { s with
    storage := List.replicate h.capacity.toNat {}
    capacity := h.capacity.toNat
    pre := h.capacity.toNat - h.capacity.toNat / 4
    session := h.session
    nextOrdinal := 2
    state := .recording }

/-- `acceptBegin`; `allocates` says whether the storage can be allocated. -/
def acceptBegin (h : Header) (allocates : Bool) (s : HistoryStore) : StoreError × HistoryStore :=
  match beginError h s with
  | .none => if allocates then (.none, s.begun h) else fail .allocationFailed s
  | e => fail e s

/-! ## Data -/

/-- The tests of `acceptData` on the header, in their order. -/
def dataError (h : Header) (s : HistoryStore) : StoreError :=
  firstError .none [
    (s.state ≠ .recording, .badState),
    (h.session ≠ s.session, .sessionMismatch),
    (h.capacity.toNat ≠ s.capacity, .badDataFields),
    (h.ordinal.toNat ≠ s.nextOrdinal, .ordinalMismatch),
    (h.count = 0 ∨ h.count > maxEvents, .badDataFields),
    (h.attempted ≠ 0 ∨ h.lost ≠ 0 ∨ h.accepted ≠ 0 ∨ h.reason ≠ 0, .badDataFields),
    (s.nextOrdinal = uint64Max, .ordinalOverflow),
    (h.count.toNat > uint64Max - 1 - s.lastSequence, .sequenceOverflow),
    (s.trigger ≠ noTrigger ∧ h.trigger ≠ s.trigger, .triggerConflict),
    (s.trigger = noTrigger ∧ h.trigger ≠ noTrigger ∧ h.trigger.toNat < s.lastSequence,
      .triggerRegressed)]

/-- The cut after a packet: the one that was fixed before, or the packet's. -/
def cutAfter (h : Header) (s : HistoryStore) : UInt64 :=
  if s.trigger ≠ noTrigger then s.trigger
  else if h.trigger ≠ noTrigger then h.trigger
  else s.trigger

inductive Refusal where
  | wire (w : WireError)
  | store (e : StoreError)
deriving DecidableEq, Repr

/-- The tests of the validation loop on record `i`, given the cut. -/
def recordRefusal (s : HistoryStore) (cut : UInt64) (i : ℕ) (r : Bytes) : Option Refusal :=
  let e := (decodeRecord r).2
  if (decodeRecord r).1 ≠ .none then some (.wire (decodeRecord r).1)
  else if e.session ≠ s.session then some (.store .sessionMismatch)
  else if e.sequence.toNat ≠ s.lastSequence + 1 + i then some (.store .sequenceGap)
  else if cut ≠ noTrigger ∧ e.sequence > cut ∧
      e.sequence.toNat - cut.toNat - 1 ≥ s.capacity - s.pre then some (.store .postOverflow)
  else none

/-- The validation loop from record `i` on. -/
def recordsRefusal (s : HistoryStore) (cut : UInt64) : ℕ → List Bytes → Option Refusal
  | _, [] => none
  | i, r :: rest =>
    match recordRefusal s cut i r with
    | some refusal => some refusal
    | none => recordsRefusal s cut (i + 1) rest

/-- One round of the commit loop: before the cut the event goes into the ring, and one that is
written over counts as evicted; behind the cut each event has its own slot. -/
def commitRecord (cut : UInt64) (s : HistoryStore) (e : Event) : HistoryStore :=
  if cut = noTrigger ∨ e.sequence ≤ cut then
    let index := (e.sequence.toNat - 1) % s.pre
    { s with
      evicted := if (s.storage.getD index {}).sequence ≠ 0 then s.evicted + 1 else s.evicted
      storage := s.storage.set index e }
  else
    let index := s.pre + (e.sequence.toNat - cut.toNat - 1)
    { s with storage := s.storage.set index e }

def commitRecords (cut : UInt64) (s : HistoryStore) (rs : List Bytes) : HistoryStore :=
  rs.foldl (fun s r => commitRecord cut s (decodeRecord r).2) s

/-- The commit loop of `acceptData` and the assignments after it. -/
def HistoryStore.extended (s : HistoryStore) (h : Header) (rs : List Bytes) : HistoryStore :=
  let cut := cutAfter h s
  let s' := commitRecords cut s rs
  { s' with
    trigger := if cut ≠ noTrigger ∧ s'.trigger = noTrigger then cut else s'.trigger
    lastSequence := s'.lastSequence + h.count.toNat
    accepted := s'.accepted + h.count.toNat
    nextOrdinal := s'.nextOrdinal + 1 }

/-- `acceptData`, on the packet's records. -/
def acceptData (h : Header) (rs : List Bytes) (s : HistoryStore) : StoreError × HistoryStore :=
  match dataError h s with
  | .none =>
    match recordsRefusal s (cutAfter h s) 0 rs with
    | some (.wire w) => failWire w s
    | some (.store e) => fail e s
    | none => (.none, s.extended h rs)
  | e => fail e s

/-! ## Seal -/

/-- The tests of `acceptSeal`, in their order. -/
def sealError (h : Header) (s : HistoryStore) : StoreError :=
  firstError .none [
    (s.state ≠ .recording, .badState),
    (h.session ≠ s.session, .sessionMismatch),
    (h.capacity.toNat ≠ s.capacity, .badSealFields),
    (h.ordinal.toNat ≠ s.nextOrdinal, .ordinalMismatch),
    (h.count ≠ 0, .badSealFields),
    (h.reason < 1 ∨ h.reason > 4, .badSealFields),
    (s.nextOrdinal = uint64Max, .ordinalOverflow),
    (s.trigger ≠ noTrigger ∧ h.trigger ≠ s.trigger, .triggerConflict),
    (s.trigger = noTrigger ∧ h.trigger ≠ noTrigger ∧ h.trigger.toNat < s.lastSequence,
      .triggerRegressed),
    (cutAfter h s ≠ noTrigger ∧ (cutAfter h s).toNat > s.lastSequence, .triggerNotCovered),
    (h.accepted.toNat ≠ s.accepted ∨ h.attempted < h.accepted ∨
      h.lost ≠ h.attempted - h.accepted, .totalsMismatch),
    (s.lastSequence ≠ s.accepted, .totalsMismatch)]

/-- The assignments of `acceptSeal`. -/
def HistoryStore.frozen (s : HistoryStore) (h : Header) : HistoryStore :=
  let cut := cutAfter h s
  { s with
    trigger := if cut ≠ noTrigger ∧ s.trigger = noTrigger then cut else s.trigger
    attempted := h.attempted.toNat
    lost := h.lost.toNat
    reason := h.reason.toNat
    state := .frozen
    nextOrdinal := s.nextOrdinal + 1 }

/-- `acceptSeal`. -/
def acceptSeal (h : Header) (s : HistoryStore) : StoreError × HistoryStore :=
  match sealError h s with
  | .none => (.none, s.frozen h)
  | e => fail e s

/-! ## The store -/

/-- A call of `accept`: the packet (`none` when the pointer is null), and whether an allocation
that the call makes succeeds. -/
structure Feed where
  packet : Option Bytes
  allocates : Bool := true
deriving DecidableEq, Repr

/-- `Decode` into a local view, which shares memory with no packet. -/
def decodeLocal (packet : Option Bytes) : WireError × View :=
  match packet with
  | none => (.null, {})
  | some src => decodePacket src

/-- The records of a decoded packet: as many as its header counts, from `events` on. -/
def View.records (v : View) : List Bytes :=
  Recorder.records v.header.count.toNat (v.events.getD [])

/-- `accept`. -/
def accept (call : Feed) (s : HistoryStore) : StoreError × HistoryStore :=
  if s.state = .fault then (s.storeError, s)
  else
    let wire := (decodeLocal call.packet).1
    let view := (decodeLocal call.packet).2
    if wire ≠ .none then failWire wire s
    else if view.header.op = .begin then acceptBegin view.header call.allocates s
    else if view.header.op = .data then acceptData view.header view.records s
    else if view.header.op = .seal then acceptSeal view.header s
    else fail .badState s

/-- `struct Summary`. -/
structure Summary where
  state : StoreState
  session : UInt64
  nextOrdinal : ℕ
  lastSequence : ℕ
  trigger : UInt64
  capacity : ℕ
  accepted : ℕ
  attempted : ℕ
  lost : ℕ
  evicted : ℕ
  retained : ℕ
  reason : ℕ
  storageBytes : ℕ
  wireError : WireError
  storeError : StoreError
deriving DecidableEq, Repr

/-- `summary`. -/
def summary (s : HistoryStore) : Summary where
  state := s.state
  session := s.session
  nextOrdinal := s.nextOrdinal
  lastSequence := s.lastSequence
  trigger := s.trigger
  capacity := s.capacity
  accepted := s.accepted
  attempted := s.attempted
  lost := s.lost
  evicted := s.evicted
  retained := s.accepted - s.evicted
  reason := s.reason
  storageBytes := s.capacity * sizeofEvent
  wireError := s.wireError
  storeError := s.storeError

/-- A visitor: called with an event it may change its own state and, by calling `accept`, the
store, and it returns whether to go on, or throws (`none`). -/
abbrev Visitor (σ : Type) := Event → σ → HistoryStore → Option Bool × σ × HistoryStore

/-- The loop of `visitFrozen` over the sorted slots; a slot is a pointer into the storage. -/
def visitLoop {σ : Type} (visitor : Visitor σ) :
    List ℕ → σ → HistoryStore → Bool × σ × HistoryStore
  | [], acc, s => (true, acc, s)
  | i :: rest, acc, s =>
    match visitor (s.storage.getD i {}) acc s with
    | (some true, acc', s') =>
      if s'.state ≠ .frozen then (false, acc', s') else visitLoop visitor rest acc' s'
    | (_, acc', s') => (false, acc', s')

def visitOrder (s : HistoryStore) : List ℕ :=
  ((List.range s.capacity).filter fun i => (s.storage.getD i {}).sequence ≠ 0).mergeSort
    fun i j => (s.storage.getD i {}).sequence ≤ (s.storage.getD j {}).sequence

/-- `visitFrozen`; the visitor may be empty, and `reserves` says whether the list of pointers can be
allocated. -/
def visitFrozen {σ : Type} (visitor : Option (Visitor σ)) (reserves : Bool) (acc : σ)
    (s : HistoryStore) : Bool × σ × HistoryStore :=
  match visitor with
  | none => (false, acc, s)
  | some visitor =>
    if s.state ≠ .frozen ∨ !reserves then (false, acc, s)
    else visitLoop visitor (visitOrder s) acc s

end War3VK.RenderHost.Recorder
