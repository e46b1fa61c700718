import War3VK.RenderHost.HistoryStore
import War3VK.RenderHost.EventWireSpec
import War3VK.Lib.Retention

/-!
# Failures of the history store

`accept_outcome` says once what a call of `accept` can do: nothing on a faulted store, a fault that
keeps what is stored, or one of the three transitions.
-/

namespace War3VK.RenderHost.Recorder

open Lib

def HistoryStore.faulted (s : HistoryStore) (e : StoreError) (w : WireError) : HistoryStore :=
  { s with storeError := e, wireError := w, state := .fault }

/-- What a call of `accept` can do. -/
inductive Outcome (call : Feed) (s : HistoryStore) : StoreError × HistoryStore → Prop where
  | faulted (hs : s.state = .fault) : Outcome call s (s.storeError, s)
  | refused (e : StoreError) (w : WireError) (hs : s.state ≠ .fault) (he : e ≠ .none) :
      Outcome call s (e, s.faulted e w)
  | begun (v : View) (hv : decodeLocal call.packet = (.none, v)) (hop : v.header.op = .begin)
      (h : beginError v.header s = .none) : Outcome call s (.none, s.begun v.header)
  | extended (v : View) (hv : decodeLocal call.packet = (.none, v)) (hop : v.header.op = .data)
      (h : dataError v.header s = .none)
      (hrs : recordsRefusal s (cutAfter v.header s) 0 v.records = none) :
      Outcome call s (.none, s.extended v.header v.records)
  | frozen (v : View) (hv : decodeLocal call.packet = (.none, v)) (hop : v.header.op = .seal)
      (h : sealError v.header s = .none) : Outcome call s (.none, s.frozen v.header)

theorem recordRefusal_ne_none (s : HistoryStore) (cut : UInt64) (i : ℕ) (r : Bytes) :
    recordRefusal s cut i r ≠ some (.store .none) := by
  unfold recordRefusal
  dsimp only
  split_ifs <;> simp

theorem recordsRefusal_ne_none (s : HistoryStore) (cut : UInt64) (i : ℕ) (rs : List Bytes) :
    recordsRefusal s cut i rs ≠ some (.store .none) := by
  induction rs generalizing i with
  | nil => simp [recordsRefusal]
  | cons r rs ih =>
    have hr := recordRefusal_ne_none s cut i r
    unfold recordsRefusal
    split
    · next h => rwa [h] at hr
    · exact ih (i + 1)

theorem accept_outcome (call : Feed) (s : HistoryStore) : Outcome call s (accept call s) := by
  unfold accept
  rcases hpacket : decodeLocal call.packet with ⟨wire, v⟩
  dsimp only
  split_ifs with hs hwire hbegin hdata hseal
  · exact .faulted hs
  · exact .refused .wireDecode wire hs (by decide)
  all_goals rw [not_not.mp hwire] at hpacket
  · unfold acceptBegin
    cases he : beginError v.header s
    case none =>
      cases ha : call.allocates with
      | true => exact .begun v hpacket hbegin he
      | false => exact .refused .allocationFailed s.wireError hs (by decide)
    all_goals exact .refused _ s.wireError hs (by decide)
  · unfold acceptData
    cases he : dataError v.header s
    case none =>
      have hne := recordsRefusal_ne_none s (cutAfter v.header s) 0 v.records
      rcases hrs : recordsRefusal s (cutAfter v.header s) 0 v.records with _ | w | e
      · exact .extended v hpacket hdata he hrs
      · exact .refused .wireDecode w hs (by decide)
      · exact .refused e s.wireError hs fun h0 => hne (by rw [hrs, h0])
    all_goals exact .refused _ s.wireError hs (by decide)
  · unfold acceptSeal
    cases he : sealError v.header s
    case none => exact .frozen v hpacket hseal he
    all_goals exact .refused _ s.wireError hs (by decide)
  · exact .refused .badState s.wireError hs (by decide)

/-! ## What the tests leave -/

/-- What the tests of `acceptData` leave. -/
structure DataFits (h : Header) (s : HistoryStore) : Prop where
  state : s.state = .recording
  /-- The sequence does not reach the value for no cut. -/
  room : s.lastSequence + h.count.toNat ≤ uint64Max - 1 ∨ uint64Max - 1 < s.lastSequence
  fixed : s.trigger ≠ noTrigger → h.trigger = s.trigger
  first : s.trigger = noTrigger → h.trigger ≠ noTrigger → s.lastSequence ≤ h.trigger.toNat

variable {s : HistoryStore}

theorem dataFits_of_dataError {h : Header} (he : dataError h s = .none) : DataFits h s := by
  rw [dataError, firstError_eq_ok_iff (by simp)] at he
  simp only [List.forall_mem_cons, decide_eq_false_iff_not] at he
  obtain ⟨hstate, -, -, -, hcount, -, -, hroom, hfixed, hfirst, -⟩ := he
  constructor
  · exact not_not.mp hstate
  · omega
  · exact fun ht => by_contra fun hne => hfixed ⟨ht, hne⟩
  · exact fun ht hne => not_lt.mp fun hlt => hfirst ⟨ht, hne, hlt⟩

/-- What the tests of `acceptSeal` leave. -/
structure SealFits (h : Header) (s : HistoryStore) : Prop where
  state : s.state = .recording
  first : s.trigger = noTrigger → h.trigger ≠ noTrigger → s.lastSequence ≤ h.trigger.toNat
  covered : cutAfter h s ≠ noTrigger → (cutAfter h s).toNat ≤ s.lastSequence

theorem sealFits_of_sealError {h : Header} (he : sealError h s = .none) : SealFits h s := by
  rw [sealError, firstError_eq_ok_iff (by simp)] at he
  simp only [List.forall_mem_cons, decide_eq_false_iff_not] at he
  obtain ⟨hstate, -, -, -, -, -, -, -, hfirst, hcovered, -⟩ := he
  constructor
  · exact not_not.mp hstate
  · exact fun ht hne => not_lt.mp fun hlt => hfirst ⟨ht, hne, hlt⟩
  · exact fun hne => not_lt.mp fun hlt => hcovered ⟨hne, hlt⟩

theorem beginError_eq_none {h : Header} (he : beginError h s = .none) :
    s.state = .empty ∧ 4 ≤ h.capacity.toNat := by
  rw [beginError, firstError_eq_ok_iff (by simp)] at he
  simp only [List.forall_mem_cons, decide_eq_false_iff_not] at he
  obtain ⟨hstate, -, hcap, -⟩ := he
  refine ⟨not_not.mp hstate, ?_⟩
  exact UInt32.le_iff_toNat_le.mp (UInt32.not_lt.mp (not_or.mp hcap).1)

theorem commitRecords_frame (cut : UInt64) (s : HistoryStore) (rs : List Bytes) :
    ∃ evicted storage, commitRecords cut s rs = { s with evicted := evicted, storage := storage } := by
  induction rs generalizing s with
  | nil => exact ⟨s.evicted, s.storage, rfl⟩
  | cons r rs ih =>
    obtain ⟨evicted, storage, hrest⟩ := ih (commitRecord cut s (decodeRecord r).2)
    refine ⟨evicted, storage, ?_⟩
    rw [commitRecords, List.foldl_cons, ← commitRecords, hrest]
    unfold commitRecord
    split_ifs <;> rfl

theorem extended_frame (h : Header) (rs : List Bytes) (s : HistoryStore) :
    (s.extended h rs).state = s.state ∧ (s.extended h rs).capacity = s.capacity ∧
      (s.extended h rs).pre = s.pre := by
  obtain ⟨evicted, storage, hframe⟩ := commitRecords_frame (cutAfter h s) s rs
  simp only [HistoryStore.extended, hframe, and_self]

/-! ## Faults -/

theorem accept_of_fault (hs : s.state = .fault) (call : Feed) :
    accept call s = (s.storeError, s) := by
  rw [accept, if_pos hs]

theorem run_of_fault (hs : s.state = .fault) (later : List Feed) :
    run accept later s = s ∧ ∀ r ∈ history accept later s, r.output = s.storeError := by
  induction later with
  | nil => exact ⟨rfl, by simp [history]⟩
  | cons call later ih =>
    rw [run_cons, history, accept_of_fault hs call, List.forall_mem_cons]
    refine ⟨ih.1, ?_, ih.2⟩
    simp [record, accept_of_fault hs call]

theorem accept_of_error {call : Feed} (hs : s.state ≠ .fault) (he : (accept call s).1 ≠ .none) :
    ∃ w, (accept call s).2 = s.faulted (accept call s).1 w := by
  have hout := accept_outcome call s
  generalize accept call s = r at hout he ⊢
  cases hout with
  | faulted hf => contradiction
  | refused e w hf he => exact ⟨w, rfl⟩
  | begun v hv hop hb => contradiction
  | extended v hv hop hd hrs => contradiction
  | frozen v hv hop hs => contradiction

theorem accept_of_frozen (hs : s.state = .frozen) (call : Feed) : (accept call s).1 ≠ .none := by
  have hout := accept_outcome call s
  generalize accept call s = r at hout ⊢
  cases hout with
  | faulted hf => exact nomatch hs.symm.trans hf
  | refused e w hf he => exact he
  | begun v hv hop hb => exact nomatch hs.symm.trans (beginError_eq_none hb).1
  | extended v hv hop hd hrs => exact nomatch hs.symm.trans (dataFits_of_dataError hd).state
  | frozen v hv hop hf => exact nomatch hs.symm.trans (sealFits_of_sealError hf).state

/-- Failures of `accept` are terminal and change nothing: after any calls of a fresh store,
- a call that returns an error faults the store and keeps its events, session, counters, cut,
  capacity and expected ordinal; every later call returns that error and changes nothing;
- a call of a frozen store returns an error, and the store stays faulted whatever is called later. -/
theorem accept_error_terminal (calls : List Feed) (call : Feed) :
    let s := run accept calls {}
    let s' := (accept call s).2
    ((accept call s).1 ≠ .none →
      s'.state = .fault ∧ s'.storage = s.storage ∧ s'.session = s.session ∧
        s'.lastSequence = s.lastSequence ∧ s'.trigger = s.trigger ∧ s'.capacity = s.capacity ∧
        s'.accepted = s.accepted ∧ s'.evicted = s.evicted ∧ s'.nextOrdinal = s.nextOrdinal ∧
        ∀ later, run accept later s' = s' ∧
          ∀ r ∈ history accept later s', r.output = (accept call s).1) ∧
    (s.state = .frozen → (accept call s).1 ≠ .none ∧
      ∀ later, (run accept (call :: later) s).state = .fault) := by
  intro s s'
  have herror : (accept call s).1 ≠ .none → s'.state = .fault ∧ s'.storage = s.storage ∧
      s'.session = s.session ∧ s'.lastSequence = s.lastSequence ∧ s'.trigger = s.trigger ∧
      s'.capacity = s.capacity ∧ s'.accepted = s.accepted ∧ s'.evicted = s.evicted ∧
      s'.nextOrdinal = s.nextOrdinal ∧ s'.storeError = (accept call s).1 := by
    intro he
    by_cases hs : s.state = .fault
    · have hs' : s' = s := congrArg Prod.snd (accept_of_fault hs call)
      rw [hs', accept_of_fault hs call]
      exact ⟨hs, rfl, rfl, rfl, rfl, rfl, rfl, rfl, rfl, rfl⟩
    · obtain ⟨w, hw⟩ := accept_of_error hs he
      have hs' : s' = s.faulted (accept call s).1 w := hw
      rw [hs']
      exact ⟨rfl, rfl, rfl, rfl, rfl, rfl, rfl, rfl, rfl, rfl⟩
  refine ⟨fun he => ?_, fun hs => ?_⟩
  · obtain ⟨hfault, hstorage, hsession, hlast, htrigger, hcapacity, haccepted, hevicted, hordinal,
      hstore⟩ := herror he
    refine ⟨hfault, hstorage, hsession, hlast, htrigger, hcapacity, haccepted, hevicted, hordinal,
      fun later => ?_⟩
    rw [← hstore]
    exact run_of_fault hfault later
  · have he := accept_of_frozen hs call
    refine ⟨he, fun later => ?_⟩
    rw [run_cons, (run_of_fault (herror he).1 later).1]
    exact (herror he).1

/-- The failures at a store that was armed and sealed without events: a packet of no bytes. -/
theorem accept_error_terminal_sealed :
    let calls : List Feed := [
      ⟨some (headerImage { op := .begin, session := 9, ordinal := 1, capacity := 4 }), true⟩,
      ⟨some (headerImage { op := .seal, session := 9, ordinal := 2, capacity := 4, reason := 1 }),
        true⟩]
    let s := run accept calls {}
    s.state = .frozen ∧ (accept ⟨some [], true⟩ s).1 = .wireDecode ∧
      (accept ⟨some [], true⟩ s).2.nextOrdinal = 3 ∧
      (run accept [⟨some [], true⟩, ⟨none, true⟩] s).state = .fault := by
  intro calls s
  have hs : s.state = .frozen := by decide +kernel
  have he : (accept ⟨some [], true⟩ s).1 = .wireDecode := by decide +kernel
  have hn : s.nextOrdinal = 3 := by decide +kernel
  obtain ⟨herror, hfrozen⟩ := accept_error_terminal calls ⟨some [], true⟩
  obtain ⟨-, -, -, -, -, -, -, -, hordinal, -⟩ := herror (by rw [he]; decide)
  exact ⟨hs, he, hordinal.trans hn, (hfrozen hs).2 [⟨none, true⟩]⟩

end War3VK.RenderHost.Recorder

/-!
## What a frozen history holds

The storage of a history is a ring with a tail (`Retains`): the events up to the cut are written in
rotation, the others behind them. `Holding` is that invariant in the store's terms, where the cut says
how many events the ring has taken (`ringCount`).
-/

namespace War3VK.RenderHost.Recorder

open Lib

/-! ### The events of a run -/

/-- The events of a Data packet, as `DecodeEvent` reads them. -/
def packetEvents (packet : Option Bytes) : List Event :=
  if (decodeLocal packet).2.header.op = .data then
    (decodeLocal packet).2.records.map fun r => (decodeRecord r).2
  else []

/-- The events of the Data packets that a call of `accept` took. -/
def acceptedEvents (r : Record HistoryStore Feed StoreError) : List Event :=
  if r.output = .none then packetEvents r.call.packet else []

def storedEvents (calls : List Feed) : List Event :=
  (history accept calls {}).flatMap acceptedEvents

/-! ### The invariant -/

/-- How many of `n` events the ring has taken: those up to the cut. -/
def ringCount (cut : UInt64) (n : ℕ) : ℕ := if cut = noTrigger then n else min n cut.toNat

def Numbered (events : List Event) : Prop :=
  ∀ i (h : i < events.length), events[i].sequence.toNat = i + 1

/-- The storage holds what a ring with a tail retains of some events. -/
structure Holding (cut : UInt64) (events : List Event) (s : HistoryStore) : Prop where
  pre : s.pre = s.capacity - s.capacity / 4
  capacity : 4 ≤ s.capacity
  size : s.storage.length = s.capacity
  numbered : Numbered events
  retains : Retains s.pre (ringCount cut events.length) {} events s.storage
  /-- The events that the ring no longer holds are counted. -/
  evicted : s.evicted = ringCount cut events.length - s.pre

/-- A store that is recording, or was until it was frozen, and the events it was given. -/
structure Recorded (events : List Event) (s : HistoryStore) : Prop
    extends Holding s.trigger events s where
  lastSequence : s.lastSequence = events.length
  accepted : s.accepted = events.length
  bound : events.length < uint64Max

/-- The store after some calls and the events of the Data packets it accepted. -/
def Follows (s : HistoryStore) (events : List Event) : Prop :=
  match s.state with
  | .empty => s = {} ∧ events = []
  | .recording => Recorded events s
  | .frozen => Recorded events s ∧ (s.trigger ≠ noTrigger → s.trigger.toNat ≤ s.lastSequence)
  | .fault => True

theorem ringCount_le (cut : UInt64) (n : ℕ) : ringCount cut n ≤ n := by
  unfold ringCount
  split_ifs <;> omega

theorem ringCount_of_le {cut : UInt64} {n : ℕ} (h : cut = noTrigger ∨ n ≤ cut.toNat) :
    ringCount cut n = n := by
  unfold ringCount
  split_ifs with hc
  · rfl
  · rcases h with h | h
    · contradiction
    · omega

theorem ringCount_of_ge {cut : UInt64} {n : ℕ} (hc : cut ≠ noTrigger) (h : cut.toNat ≤ n) :
    ringCount cut n = cut.toNat := by
  rw [ringCount, if_neg hc]
  omega

variable {events : List Event} {s : HistoryStore}

theorem Numbered.concat (h : Numbered events) {e : Event}
    (he : e.sequence.toNat = events.length + 1) : Numbered (events ++ [e]) := by
  intro i hi
  rw [List.length_append, List.length_singleton] at hi
  rcases Nat.lt_or_ge i events.length with hlt | hge
  · rw [List.getElem_append_left hlt]
    exact h i hlt
  · have hie : i = events.length := by omega
    subst hie
    rw [List.getElem_concat_length rfl]
    exact he

theorem Numbered.sequence_ne_zero (h : Numbered events) {e : Event} (he : e ∈ events) :
    e.sequence ≠ 0 := by
  obtain ⟨i, hi, rfl⟩ := List.getElem_of_mem he
  intro h0
  have hseq := h i hi
  rw [h0] at hseq
  exact absurd hseq (by simp)

theorem Numbered.pairwise (h : Numbered events) :
    events.Pairwise fun x y => x.sequence.toNat < y.sequence.toNat := by
  rw [List.pairwise_iff_getElem]
  intro i j hi hj hij
  rw [h i hi, h j hj]
  omega

/-! ### One round of the commit loop -/

theorem Holding.ring_slot_used {cut : UInt64} (h : Holding cut events s)
    (hring : ringCount cut events.length = events.length) :
    (s.storage.getD (events.length % s.pre) {}).sequence ≠ 0 ↔ s.pre ≤ events.length := by
  have hp : 0 < s.pre := by have := h.pre; have := h.capacity; omega
  have hslot := h.retains
  rw [hring] at hslot
  rcases Nat.lt_or_ge events.length s.pre with hlt | hge
  · rw [Nat.mod_eq_of_lt hlt, List.getD_eq_getElem?_getD, hslot.blank_ring _ hlt le_rfl]
    exact iff_of_false (by simp) (by omega)
  · -- The slot holds the event written `pre` rounds ago.
    have hheld := hslot.held (events.length - s.pre) (by omega) (by omega)
    rw [slotOf, if_pos (by omega), ← Nat.mod_eq_sub_mod hge,
      List.getElem?_eq_getElem (by omega : events.length - s.pre < events.length)] at hheld
    rw [List.getD_eq_getElem?_getD, hheld]
    exact iff_of_true (h.numbered.sequence_ne_zero (List.getElem_mem _)) hge

theorem holding_commitRecord {cut : UInt64} {e : Event} (h : Holding cut events s)
    (he : e.sequence.toNat = events.length + 1) (hpost : ¬ (cut ≠ noTrigger ∧ e.sequence > cut ∧
      e.sequence.toNat - cut.toNat - 1 ≥ s.capacity - s.pre)) :
    Holding cut (events ++ [e]) (commitRecord cut s e) := by
  have hpre := h.pre
  have hcap := h.capacity
  have hp : 0 < s.pre := by omega
  have hnumbered := h.numbered.concat he
  unfold commitRecord
  split_ifs with hcut
  · -- Before the cut: the next slot of the ring.
    have hle : cut = noTrigger ∨ events.length + 1 ≤ cut.toNat :=
      hcut.imp id fun hle => he ▸ UInt64.le_iff_toNat_le.mp hle
    have hring : ringCount cut events.length = events.length :=
      ringCount_of_le (hle.imp id fun hle => by omega)
    have hring' : ringCount cut (events ++ [e]).length = events.length + 1 := by
      rw [List.length_append, List.length_singleton]
      exact ringCount_of_le hle
    have hused := h.ring_slot_used hring
    have hevicted := h.evicted
    have hindex : e.sequence.toNat - 1 = events.length := by omega
    refine ⟨hpre, hcap, by rw [List.length_set, h.size], hnumbered, ?_, ?_⟩
    · have hpush := h.retains.push_ring hp hring e
      rw [hring] at hpush
      rw [hring', hindex]
      exact hpush
    · rw [hring']
      rw [hring] at hevicted
      dsimp only
      rw [hindex]
      by_cases hslot : s.pre ≤ events.length
      · rw [if_pos (hused.mpr hslot)]
        omega
      · rw [if_neg (mt hused.mp hslot)]
        omega
  · -- Behind the cut: a slot of its own.
    obtain ⟨hne, hgt⟩ := not_or.mp hcut
    have hgt' : cut < e.sequence := UInt64.not_le.mp hgt
    have hlt := UInt64.lt_iff_toNat_lt.mp hgt'
    have hring : ringCount cut events.length = cut.toNat := ringCount_of_ge hne (by omega)
    have hring' : ringCount cut (events ++ [e]).length = cut.toNat :=
      ringCount_of_ge hne (by rw [List.length_append]; omega)
    have hroom : e.sequence.toNat - cut.toNat - 1 < s.capacity - s.pre :=
      not_le.mp fun hge => hpost ⟨hne, hgt', hge⟩
    have hindex : s.pre + (e.sequence.toNat - cut.toNat - 1) =
        s.pre + (events.length - ringCount cut events.length) := by omega
    refine ⟨hpre, hcap, by rw [List.length_set, h.size], hnumbered, ?_, ?_⟩
    · have hpush := h.retains.push_tail (by rw [h.size]; omega) e
      rw [hring', hindex, ← hring]
      exact hpush
    · rw [hring']
      exact hring ▸ h.evicted

/-! ### One packet -/

theorem holding_commitRecords {cut : UInt64} {rs : List Bytes} {i : ℕ}
    (hrs : recordsRefusal s cut i rs = none) {t : HistoryStore}
    (hlast : s.lastSequence + i = events.length) (hcap : t.capacity = s.capacity)
    (hpre : t.pre = s.pre) (h : Holding cut events t) :
    Holding cut (events ++ rs.map fun r => (decodeRecord r).2) (commitRecords cut t rs) := by
  induction rs generalizing i events t with
  | nil => simpa [commitRecords] using h
  | cons r rs ih =>
    rw [recordsRefusal] at hrs
    cases hr : recordRefusal s cut i r with
    | some refusal => simp [hr] at hrs
    | none =>
      rw [hr] at hrs
      simp only [recordRefusal] at hr
      split_ifs at hr with _ _ hseq hpost
      have he : (decodeRecord r).2.sequence.toNat = events.length + 1 := by omega
      have hstep := holding_commitRecord h he (by rw [hcap, hpre]; exact hpost)
      -- A round of the loop changes neither the capacity nor the ring.
      obtain ⟨evicted, storage, hframe⟩ := commitRecords_frame cut t [r]
      have hround : commitRecord cut t (decodeRecord r).2 =
          { t with evicted := evicted, storage := storage } := hframe
      have hrest := ih hrs (by rw [List.length_append, List.length_singleton]; omega)
        (by rw [hround]; exact hcap) (by rw [hround]; exact hpre) hstep
      rwa [List.append_assoc, List.singleton_append] at hrest

theorem Holding.cut {cut : UInt64} (h : Holding noTrigger events s)
    (hcut : cut ≠ noTrigger → events.length ≤ cut.toNat) : Holding cut events s := by
  have hring : ringCount noTrigger events.length = ringCount cut events.length := by
    rw [ringCount_of_le (.inl rfl), ringCount_of_le]
    exact or_iff_not_imp_left.mpr hcut
  exact ⟨h.pre, h.capacity, h.size, h.numbered, hring ▸ h.retains, hring ▸ h.evicted⟩

theorem Recorded.cutAfter (h : Recorded events s) {hd : Header}
    (hfirst : s.trigger = noTrigger → hd.trigger ≠ noTrigger →
      s.lastSequence ≤ hd.trigger.toNat) : Holding (cutAfter hd s) events s := by
  have hlast := h.lastSequence
  unfold Recorder.cutAfter
  split_ifs with ht htn
  · exact h.toHolding
  · have ht' := not_not.mp ht
    exact (ht' ▸ h.toHolding : Holding noTrigger events s).cut fun _ => by
      have := hfirst ht' htn
      omega
  · exact h.toHolding

theorem trigger_after (h : Header) (s : HistoryStore) :
    (if cutAfter h s ≠ noTrigger ∧ s.trigger = noTrigger then cutAfter h s else s.trigger) =
      cutAfter h s := by
  unfold cutAfter
  split_ifs <;> grind

theorem Recorded.extended (h : Recorded events s) {v : View} (hd : dataError v.header s = .none)
    (hrs : recordsRefusal s (Recorder.cutAfter v.header s) 0 v.records = none) :
    Recorded (events ++ v.records.map fun r => (decodeRecord r).2)
      (s.extended v.header v.records) := by
  have hfits := dataFits_of_dataError hd
  have hhold := holding_commitRecords hrs h.lastSequence rfl rfl (h.cutAfter hfits.first)
  obtain ⟨evicted, storage, hframe⟩ := commitRecords_frame (Recorder.cutAfter v.header s) s
    v.records
  have hcount : v.records.length = v.header.count.toNat := by
    simp [View.records, Recorder.records]
  have hlen : (events ++ v.records.map fun r => (decodeRecord r).2).length =
      events.length + v.header.count.toNat := by
    rw [List.length_append, List.length_map, hcount]
  have hlast := h.lastSequence
  have hacc := h.accepted
  have hbound := h.bound
  have hroom := hfits.room
  rw [hframe] at hhold
  simp only [HistoryStore.extended, hframe, trigger_after]
  refine ⟨⟨hhold.pre, hhold.capacity, hhold.size, hhold.numbered, hhold.retains, hhold.evicted⟩, ?_, ?_, ?_⟩
  · rw [hlen, ← hlast]
  · rw [hlen, ← hacc]
  · rw [hlen]
    omega

/-! ### Runs -/

theorem follows_accept (h : Follows s events) (call : Feed) :
    Follows (accept call s).2 (events ++ acceptedEvents (record accept s call)) := by
  have hout := accept_outcome call s
  have hevents : acceptedEvents (record accept s call) =
      if (accept call s).1 = .none then packetEvents call.packet else [] := rfl
  rw [hevents]
  generalize accept call s = r at hout ⊢
  cases hout with
  | faulted hs =>
    unfold Follows
    rw [hs]
    trivial
  | refused e w hs he => trivial
  | begun v hv hop hb =>
    obtain ⟨hstate, hcap⟩ := beginError_eq_none hb
    rw [Follows, hstate] at h
    obtain ⟨rfl, rfl⟩ := h
    have hnone : packetEvents call.packet = [] := by simp [packetEvents, hv, hop, Op.begin, Op.data]
    rw [if_pos rfl, hnone]
    -- The storage is blank, and the ring has taken no event.
    exact
      { pre := rfl
        capacity := hcap
        size := List.length_replicate
        numbered := fun i hi => absurd hi (by simp)
        retains := retains_nil (Nat.sub_le _ _)
        evicted := (Nat.zero_sub _).symm
        lastSequence := rfl
        accepted := rfl
        bound := by decide }
  | extended v hv hop hd hrs =>
    have hdata : packetEvents call.packet = v.records.map fun r => (decodeRecord r).2 := by
      simp [packetEvents, hv, hop]
    have hstate := (dataFits_of_dataError hd).state
    rw [if_pos rfl, hdata]
    rw [Follows, hstate] at h
    rw [Follows, (extended_frame v.header v.records s).1, hstate]
    exact h.extended hd hrs
  | frozen v hv hop hs =>
    have hnone : packetEvents call.packet = [] := by simp [packetEvents, hv, hop, Op.seal, Op.data]
    have hfits := sealFits_of_sealError hs
    rw [Follows, hfits.state] at h
    rw [if_pos rfl, hnone, List.append_nil]
    have hhold := h.cutAfter hfits.first
    refine ⟨⟨?_, h.lastSequence, h.accepted, h.bound⟩, ?_⟩
    · simp only [HistoryStore.frozen, trigger_after]
      exact ⟨hhold.pre, hhold.capacity, hhold.size, hhold.numbered, hhold.retains, hhold.evicted⟩
    · simp only [HistoryStore.frozen, trigger_after]
      exact hfits.covered

theorem run_follows (calls : List Feed) : Follows (run accept calls {}) (storedEvents calls) := by
  refine @history_induction _ _ _ accept
    (fun s past => Follows s (past.flatMap acceptedEvents)) {} ⟨rfl, rfl⟩ (fun s past call h => ?_)
    calls
  rw [List.flatMap_append, List.flatMap_singleton]
  exact follows_accept h call

/-! ### What a frozen store shows -/

theorem Numbered.map_sequence (h : Numbered events) :
    (events.map fun e => e.sequence.toNat) = List.range' 1 events.length := by
  apply List.ext_getElem
  · rw [List.length_map, List.length_range']
  · intro i hi _
    rw [List.length_map] at hi
    rw [List.getElem_map, List.getElem_range', h i hi]
    omega

theorem Numbered.filter_eq_drop (h : Numbered events) (k : ℕ) :
    (events.filter fun e => k + 1 ≤ e.sequence.toNat) = events.drop k := by
  have htake : ((events.take k).filter fun e => k + 1 ≤ e.sequence.toNat) = [] := by
    rw [List.filter_eq_nil_iff]
    intro e he
    obtain ⟨i, hi, rfl⟩ := List.getElem_of_mem he
    rw [List.length_take] at hi
    rw [List.getElem_take, h i (by omega)]
    simp only [decide_eq_true_eq]
    omega
  have hdrop : ((events.drop k).filter fun e => k + 1 ≤ e.sequence.toNat) = events.drop k := by
    rw [List.filter_eq_self]
    intro e he
    obtain ⟨i, hi, rfl⟩ := List.getElem_of_mem he
    rw [List.length_drop] at hi
    rw [List.getElem_drop, h (k + i) (by omega)]
    simp only [decide_eq_true_eq]
    omega
  calc (events.filter fun e => k + 1 ≤ e.sequence.toNat)
    _ = (events.take k ++ events.drop k).filter fun e => k + 1 ≤ e.sequence.toNat := by
        rw [List.take_append_drop]
    _ = events.drop k := by rw [List.filter_append, htake, hdrop, List.nil_append]

theorem visitLoop_of_passive {σ : Type} {visitor : Visitor σ} {f : σ → Event → σ}
    (hv : ∀ e acc, visitor e acc s = (some true, f acc e, s)) (hs : s.state = .frozen)
    (order : List ℕ) (acc : σ) :
    visitLoop visitor order acc s = (true, (order.map fun i => s.storage.getD i {}).foldl f acc, s) := by
  induction order generalizing acc with
  | nil => rfl
  | cons i order ih =>
    rw [visitLoop, hv]
    dsimp only
    rw [if_neg (not_not.mpr hs), ih, List.map_cons, List.foldl_cons]

theorem Recorded.map_visitOrder (h : Recorded events s) :
    ((visitOrder s).map fun i => s.storage.getD i {}) = events.drop s.evicted := by
  have hp : 0 < s.pre := by have := h.pre; have := h.capacity; omega
  rw [h.evicted]
  refine h.retains.map_sorted hp (fun e => e.sequence ≠ 0) (by decide)
    (fun e he => decide_eq_true (h.numbered.sequence_ne_zero he)) (fun e => e.sequence.toNat)
    h.numbered.pairwise ?_ ?_
  · rw [h.size]
    exact List.mergeSort_perm _ _
  · refine (List.pairwise_mergeSort (fun i j k hij hjk => ?_) (fun i j => ?_) _).imp fun hij =>
      UInt64.le_iff_toNat_le.mp (of_decide_eq_true hij)
    · exact decide_eq_true (UInt64.le_trans (of_decide_eq_true hij) (of_decide_eq_true hjk))
    · rw [Bool.or_eq_true, decide_eq_true_eq, decide_eq_true_eq]
      exact UInt64.le_total _ _

/-- What the frozen store of any list of packets shows to a visitor that goes on and leaves the
store alone. The events of the accepted Data packets are numbered from 1 to `lastSequence`. The
visitor gets those from `first` on, each once, in ascending order without a gap: without a cut the
last `min pre accepted` of them, and with a cut `C` those from `max 1 (C - pre + 1)`, so every event
behind the cut. Their number is `retained`, which is `accepted - evicted`. -/
theorem visitFrozen_retention (calls : List Feed) (hfrozen : (run accept calls {}).state = .frozen) :
    let s := run accept calls {}
    let pre := s.capacity - s.capacity / 4
    let first := if s.trigger = noTrigger then s.lastSequence - min pre s.accepted + 1
      else max 1 (s.trigger.toNat + 1 - pre)
    let visited := (storedEvents calls).filter fun e => first ≤ e.sequence.toNat
    ((storedEvents calls).map fun e => e.sequence.toNat) = List.range' 1 s.lastSequence ∧
      (visited.map fun e => e.sequence.toNat) = List.range' first (s.lastSequence + 1 - first) ∧
      (s.trigger ≠ noTrigger → s.trigger.toNat ≤ s.lastSequence ∧
        ∀ e ∈ storedEvents calls, s.trigger < e.sequence → e ∈ visited) ∧
      visited.length = (summary s).retained ∧ (summary s).retained + s.evicted = s.accepted ∧
      ∀ {σ : Type} (visitor : Visitor σ) (f : σ → Event → σ),
        (∀ e acc, visitor e acc s = (some true, f acc e, s)) → ∀ reserves acc,
          visitFrozen (some visitor) reserves acc s =
            (reserves, if reserves then visited.foldl f acc else acc, s) := by
  intro s pre first visited
  have hfollows := run_follows calls
  rw [Follows, hfrozen] at hfollows
  obtain ⟨h, hcovered⟩ : Recorded (storedEvents calls) s ∧
    (s.trigger ≠ noTrigger → s.trigger.toNat ≤ s.lastSequence) := hfollows
  have hlast := h.lastSequence
  have hacc := h.accepted
  have hpre : s.pre = pre := h.pre
  -- The visited events are those that the ring has not lost.
  have hfirst : first = s.evicted + 1 := by
    rw [h.evicted, hpre]
    simp only [first]
    split_ifs with ht
    · rw [ringCount_of_le (.inl ht)]
      omega
    · have := hcovered ht
      rw [ringCount_of_ge ht (by omega)]
      omega
  have hring := ringCount_le s.trigger (storedEvents calls).length
  have hevicted := h.evicted
  have hvisited : visited = (storedEvents calls).drop s.evicted := by
    simp only [visited, hfirst]
    exact h.numbered.filter_eq_drop s.evicted
  have hlen : visited.length = s.accepted - s.evicted := by
    rw [hvisited, List.length_drop, hacc]
  refine ⟨?_, ?_, fun ht => ⟨hcovered ht, fun e he hcut => ?_⟩, hlen, ?_, ?_⟩
  · rw [h.numbered.map_sequence, hlast]
  · rw [hvisited, List.map_drop, h.numbered.map_sequence, List.drop_range', hfirst, hlast]
    congr 1 <;> omega
  · have := UInt64.lt_iff_toNat_lt.mp hcut
    simp only [visited, first, if_neg ht, List.mem_filter, decide_eq_true_eq]
    exact ⟨he, by omega⟩
  · simp only [summary]
    omega
  · intro σ visitor f hv reserves acc
    cases reserves with
    | false => simp [visitFrozen]
    | true =>
      rw [visitFrozen, if_neg (by simp [s, hfrozen]), visitLoop_of_passive hv hfrozen,
        h.map_visitOrder, hvisited]
      rfl

/-- A history of four slots: four events before the cut, of which the ring has lost the first, and
one behind it. -/
theorem visitFrozen_retention_five_events :
    let calls : List Feed := [
      ⟨some (headerImage { op := .begin, session := 9, ordinal := 1, capacity := 4 }), true⟩,
      ⟨some (packetImage { op := .data, count := 4, session := 9, ordinal := 2, capacity := 4 }
        fun i => { sequence := UInt64.ofNat (i + 1), session := 9 }), true⟩,
      ⟨some (packetImage
        { op := .data, count := 1, session := 9, ordinal := 3, trigger := 4, capacity := 4 }
        fun _ => { sequence := 5, session := 9 }), true⟩,
      ⟨some (headerImage
        { op := .seal, session := 9, ordinal := 4, trigger := 4, capacity := 4, reason := 1,
          attempted := 6, lost := 1, accepted := 5 }), true⟩]
    let s := run accept calls {}
    let collect : Visitor (List ℕ) := fun e acc s => (some true, acc ++ [e.sequence.toNat], s)
    visitFrozen (some collect) true [] s = (true, [2, 3, 4, 5], s) ∧ (summary s).retained = 4 := by
  intro calls s collect
  have hfrozen : s.state = .frozen := by decide +kernel
  have hretained : (summary s).retained = 4 := by decide +kernel
  obtain ⟨-, -, -, -, -, hvisit⟩ := visitFrozen_retention calls hfrozen
  refine ⟨?_, hretained⟩
  have hcollect : ∀ e acc, collect e acc s = (some true, acc ++ [e.sequence.toNat], s) :=
    fun _ _ => rfl
  rw [hvisit collect (fun acc e => acc ++ [e.sequence.toNat]) hcollect true [], if_pos rfl]
  refine congrArg (fun visited => (true, visited, s)) ?_
  decide +kernel

end War3VK.RenderHost.Recorder
