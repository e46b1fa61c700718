import War3VK.RenderHost.HistoryStoreSpec

/-!
# A session from the wire to the history

What the sender of a recording encodes (`Worker` in `src/AutoTest/test_recorder_offload_handoff.cpp`) is
accepted by the history store as a whole: a Begin, the Data packets sent before the cut is known and
those that carry it, and a Seal with the totals.
-/

namespace War3VK.RenderHost.Recorder

open Lib

/-- A recording as its sender has it. -/
structure Session where
  session : UInt64
  capacity : UInt32
  /-- The batches of events that are sent without a cut, and those that are sent with it. -/
  early : List (List Event)
  late : List (List Event) := []
  cut : UInt64 := noTrigger
  reason : UInt32
  lost : UInt64 := 0
deriving DecidableEq

namespace Session

variable (x : Session)

def events : List Event := (x.early ++ x.late).flatten

def beginHeader : Header where
  session := x.session
  ordinal := 1
  capacity := x.capacity

def dataHeader (trigger : UInt64) (ordinal : ℕ) (batch : List Event) : Header where
  op := .data
  count := UInt32.ofNat batch.length
  session := x.session
  ordinal := UInt64.ofNat ordinal
  trigger
  capacity := x.capacity

def sealHeader : Header where
  op := .seal
  session := x.session
  ordinal := UInt64.ofNat (2 + x.early.length + x.late.length)
  trigger := x.cut
  attempted := UInt64.ofNat x.events.length + x.lost
  lost := x.lost
  capacity := x.capacity
  reason := x.reason
  accepted := UInt64.ofNat x.events.length

/-- `Worker::send`: the store is given what `Encode` writes. -/
def send (h : Header) (batch : List Event) : Feed where
  packet := some (packetImage h fun i => batch.getD i {})

def sendData (trigger : UInt64) : ℕ → List (List Event) → List Feed
  | _, [] => []
  | ordinal, batch :: rest =>
    send (x.dataHeader trigger ordinal batch) batch :: sendData trigger (ordinal + 1) rest

/-- The packets of the recording. -/
def feeds : List Feed :=
  send x.beginHeader [] :: (x.sendData noTrigger 2 x.early ++
    (x.sendData x.cut (2 + x.early.length) x.late ++ [send x.sealHeader []]))

/-- Sequences that go on from one. -/
def Counts : ℕ → List Event → Prop
  | _, [] => True
  | n, e :: rest => e.sequence.toNat = n ∧ Counts (n + 1) rest

/-- What a sender has to see to: packets that can be encoded, sequences from 1 on, a cut among them that is
sent before an event behind it is, and room for the events behind it. -/
structure Sendable : Prop where
  session : x.session ≠ 0
  capacity : 4 ≤ x.capacity ∧ x.capacity ≤ maxHistoryEvents
  batches : ∀ batch ∈ x.early ++ x.late, batch ≠ [] ∧ batch.length ≤ 160 ∧ ∀ e ∈ batch, e.Valid x.session
  counts : Counts 1 x.events
  bound : x.events.length + x.lost.toNat + 2 < uint64Max
  cut : x.cut ≠ noTrigger → x.early.flatten.length ≤ x.cut.toNat ∧ x.cut.toNat ≤ x.events.length ∧
    x.events.length ≤ x.cut.toNat + x.capacity.toNat / 4
  reason : 1 ≤ x.reason ∧ x.reason ≤ 4

/-- The store before the next packet, with the trigger that the packet carries. -/
structure Awaits (trigger : UInt64) (ordinal sent : ℕ) (s : HistoryStore) : Prop where
  started : 2 ≤ ordinal ∧ ordinal ≤ sent + 2
  state : s.state = .recording
  session : s.session = x.session
  capacity : s.capacity = x.capacity.toNat
  pre : s.pre = x.capacity.toNat - x.capacity.toNat / 4
  nextOrdinal : s.nextOrdinal = ordinal
  lastSequence : s.lastSequence = sent
  accepted : s.accepted = sent
  trigger : s.trigger = trigger ∨ s.trigger = noTrigger ∧ sent ≤ trigger.toNat

variable {x} {s : HistoryStore} {trigger : UInt64} {ordinal sent : ℕ} {batch : List Event}

theorem counts_append {n : ℕ} {a b : List Event} :
    Counts n (a ++ b) ↔ Counts n a ∧ Counts (n + a.length) b := by
  induction a generalizing n with
  | nil => simp [Counts]
  | cons e a ih =>
    rw [List.cons_append, Counts, Counts, ih, and_assoc, List.length_cons, Nat.add_right_comm, ← Nat.add_assoc]

theorem Awaits.cutAfter_eq (h : x.Awaits trigger ordinal sent s) (hd : Header)
    (ht : hd.trigger = trigger) : Recorder.cutAfter hd s = trigger := by
  unfold Recorder.cutAfter
  rcases h.trigger with hs | ⟨hs, -⟩ <;> split_ifs <;> simp_all

/-! ## Packets -/

theorem decodeRecord_eventImage {e : Event} {session : UInt64} (hsession : session ≠ 0)
    (h : e.Valid session) : decodeRecord (eventImage e) = (.none, e) := by
  have hread : readEvent (eventImage e) = e := by simpa using readEvent_eventImage e []
  rw [decodeRecord_of_error, hread]
  rw [decodeRecordError_eq_none, hread, h.session]
  exact ⟨eventImage_length e, hsession, h⟩

theorem decodeLocal_some (src : Bytes) : decodeLocal (some src) = decodePacket src := rfl

theorem viewOf_header (src : Bytes) : (viewOf src).header = readHeader src := rfl

theorem accept_send {h : Header} (hvalid : h.Valid) (hcount : h.count.toNat = batch.length)
    (hbatch : ∀ e ∈ batch, e.Valid h.session) (hs : s.state ≠ .fault) :
    (accept (send h batch) s = if h.op = .begin then acceptBegin h true s
      else if h.op = .data then acceptData h (batch.map eventImage) s
      else if h.op = .seal then acceptSeal h s else fail .badState s) ∧
    packetEvents (send h batch).packet = if h.op = .data then batch else [] := by
  have hcounted : countedEvents h (fun i => batch.getD i {}) = batch := by
    rw [countedEvents, hcount]
    exact List.ext_getElem (by simp) fun i hi hi' => by simp [hi']
  have hread : readHeader (packetImage h fun i => batch.getD i {}) = h := readHeader_headerImage h _
  have haccepted : Accepted (packetImage h fun i => batch.getD i {}) := by
    rw [accepted_packetImage_iff, hcounted]
    exact ⟨hvalid, hbatch⟩
  have hdrop : (packetImage h fun i => batch.getD i {}).drop headerBytes = batch.flatMap eventImage := by
    rw [packetImage, hcounted, ← headerImage_length h, List.drop_left]
  have hdecode : decodeLocal (send h batch).packet = (.none, viewOf (packetImage h fun i => batch.getD i {})) := by
    rw [send, decodeLocal_some, decodePacket_of_accepted haccepted]
  have hrecords : (viewOf (packetImage h fun i => batch.getD i {})).records = batch.map eventImage := by
    rw [View.records, viewOf_header, hread, hcount, ← records_flatMap_eventImage, viewOf, hread, hdrop]
    split_ifs with hpos
    · rfl
    · have hzero : batch = [] := by
        rw [← List.length_eq_zero_iff, ← hcount]
        exact Nat.le_zero.mp (not_lt.mp fun h => hpos (UInt32.lt_iff_toNat_lt.mpr h))
      rw [hzero]
      rfl
  constructor
  · rw [accept, if_neg hs, hdecode]
    dsimp only
    rw [hrecords, viewOf_header, hread]
    rfl
  · rw [packetEvents, hdecode]
    dsimp only
    rw [hrecords, viewOf_header, hread, List.map_map]
    refine if_congr Iff.rfl ((List.map_congr_left fun e he => ?_).trans (List.map_id _)) rfl
    rw [Function.comp_apply, decodeRecord_eventImage hvalid.session (hbatch e he)]
    rfl

theorem recordsRefusal_images (h : x.Awaits trigger ordinal sent s) (hsession : x.session ≠ 0)
    {i : ℕ} (hbatch : ∀ e ∈ batch, e.Valid x.session) (hcounts : Counts (sent + 1 + i) batch)
    (hroom : trigger ≠ noTrigger → sent + i + batch.length ≤ trigger.toNat + x.capacity.toNat / 4) :
    recordsRefusal s trigger i (batch.map eventImage) = none := by
  induction batch generalizing i with
  | nil => rfl
  | cons e batch ih =>
    rw [List.forall_mem_cons] at hbatch
    rw [List.length_cons] at hroom
    obtain ⟨hfirst, hrest⟩ := hcounts
    have hrefusal : recordRefusal s trigger i (eventImage e) = none := by
      simp only [recordRefusal, decodeRecord_eventImage hsession hbatch.1, hbatch.1.session, h.session,
        h.lastSequence, hfirst, h.capacity, h.pre]
      rw [if_neg (by simp), if_neg (by simp), if_neg (by simp), if_neg]
      rintro ⟨hcut, hafter, hbehind⟩
      have := UInt64.lt_iff_toNat_lt.mp hafter
      have := hroom hcut
      omega
    rw [List.map_cons, recordsRefusal, hrefusal]
    exact ih hbatch.2 hrest fun hcut => by have := hroom hcut; omega

/-! ## The parts of a recording -/

theorem Sendable.awaits_begin (hx : x.Sendable) :
    acceptedEvents (record accept {} (send x.beginHeader [])) = [] ∧
      x.Awaits noTrigger 2 0 (accept (send x.beginHeader []) {}).2 := by
  have hvalid : x.beginHeader.Valid := ⟨.inl rfl, hx.capacity, hx.session, show (1 : UInt64) ≠ 0 by decide,
    show (0 : UInt32) ≤ maxEvents by decide, fun _ => ⟨rfl, rfl, rfl, rfl, rfl, rfl, rfl⟩, nofun, nofun⟩
  have hbegin : beginError x.beginHeader {} = .none := by
    rw [beginError, firstError_eq_ok_iff (by simp)]
    simp only [List.forall_mem_cons, decide_eq_false_iff_not, beginHeader]
    exact ⟨by simp, by simp, decide_eq_false
      (not_or.mpr ⟨UInt32.not_lt.mpr hx.capacity.1, UInt32.not_lt.mpr hx.capacity.2⟩), by simp⟩
  obtain ⟨haccept, hevents⟩ := @accept_send {} [] _ hvalid rfl (by simp) (by decide)
  rw [if_pos (by rfl), acceptBegin, hbegin] at haccept
  refine ⟨?_, ?_⟩
  · rw [acceptedEvents, record, hevents]
    exact ite_self _
  · rw [haccept]
    exact ⟨by decide, rfl, rfl, rfl, rfl, rfl, rfl, rfl, .inl rfl⟩

theorem Awaits.dataHeader_fits (h : x.Awaits trigger ordinal sent s) (hx : x.Sendable)
    (hmem : batch ∈ x.early ++ x.late) (hsent : sent + batch.length ≤ x.events.length) :
    (x.dataHeader trigger ordinal batch).Valid ∧
      (x.dataHeader trigger ordinal batch).count.toNat = batch.length ∧
      dataError (x.dataHeader trigger ordinal batch) s = .none := by
  obtain ⟨hne, hlength, -⟩ := hx.batches batch hmem
  obtain ⟨hstarted, hfew⟩ := h.started
  have hbound : x.events.length + x.lost.toNat + 2 < 2^64 - 1 := hx.bound
  have hpos := List.length_pos_iff.mpr hne
  have hcount : (UInt32.ofNat batch.length).toNat = batch.length :=
    UInt32.toNat_ofNat_of_lt' (show _ < 2^32 by omega)
  have hordinal : (UInt64.ofNat ordinal).toNat = ordinal :=
    UInt64.toNat_ofNat_of_lt' (show _ < 2^64 by omega)
  have hcountPos : UInt32.ofNat batch.length ≠ 0 := fun h => by
    rw [h, UInt32.toNat_zero] at hcount
    omega
  have hmax : UInt32.ofNat batch.length ≤ maxEvents := UInt32.le_iff_toNat_le.mpr (hcount.trans_le hlength)
  refine ⟨⟨.inr (.inl rfl), hx.capacity, hx.session, fun hzero => ?_, hmax, nofun,
    fun _ => ⟨hcountPos, rfl, rfl, rfl, rfl⟩, nofun⟩, hcount, ?_⟩
  · rw [show UInt64.ofNat ordinal = 0 from hzero, UInt64.toNat_zero] at hordinal
    omega
  · rw [dataError, firstError_eq_ok_iff (by simp)]
    simp only [List.forall_mem_cons, decide_eq_false_iff_not, dataHeader, h.state, h.session, h.capacity,
      h.nextOrdinal, h.lastSequence, hordinal, hcount, uint64Max]
    refine ⟨by simp, by simp, by simp, by simp, ?_, by simp, by omega, by omega, ?_, ?_, by simp⟩
    · exact decide_eq_false (not_or.mpr ⟨hcountPos, UInt32.not_lt.mpr hmax⟩)
    · rcases h.trigger with ht | ⟨ht, -⟩ <;> simp [ht]
    · rintro ⟨ht, hne, hlt⟩
      exact h.trigger.elim (fun hsame => hne (hsame.symm.trans ht)) fun hle => absurd hlt hle.2.not_gt

theorem Awaits.data (h : x.Awaits trigger ordinal sent s) (hx : x.Sendable)
    (hmem : batch ∈ x.early ++ x.late) (hcounts : Counts (sent + 1) batch)
    (hsent : sent + batch.length ≤ x.events.length)
    (hroom : trigger ≠ noTrigger → sent + batch.length ≤ trigger.toNat + x.capacity.toNat / 4) :
    acceptedEvents (record accept s (send (x.dataHeader trigger ordinal batch) batch)) = batch ∧
      x.Awaits trigger (ordinal + 1) (sent + batch.length)
        (accept (send (x.dataHeader trigger ordinal batch) batch) s).2 := by
  obtain ⟨hne, -, hbatch⟩ := hx.batches batch hmem
  have hpos := List.length_pos_iff.mpr hne
  obtain ⟨hvalid, hcount, hdata⟩ := h.dataHeader_fits hx hmem hsent
  have hcut : Recorder.cutAfter (x.dataHeader trigger ordinal batch) s = trigger := h.cutAfter_eq _ rfl
  obtain ⟨haccept, hevents⟩ := accept_send hvalid hcount hbatch (s := s) (by rw [h.state]; decide)
  rw [if_neg (show (x.dataHeader trigger ordinal batch).op ≠ .begin from show Op.data ≠ .begin by decide),
    if_pos (by rfl), acceptData, hdata, hcut, recordsRefusal_images h hx.session (i := 0) hbatch hcounts hroom] at haccept
  refine ⟨?_, ?_⟩
  · rw [acceptedEvents, record, haccept, if_pos rfl, hevents]
    exact if_pos rfl
  · obtain ⟨evicted, storage, hframe⟩ := commitRecords_frame trigger s (batch.map eventImage)
    rw [haccept]
    simp only [HistoryStore.extended, hcut, hframe]
    exact
      { started := by
          have := h.started
          omega
        state := h.state
        session := h.session
        capacity := h.capacity
        pre := h.pre
        nextOrdinal := congrArg (· + 1) h.nextOrdinal
        lastSequence := congrArg₂ (· + ·) h.lastSequence hcount
        accepted := congrArg₂ (· + ·) h.accepted hcount
        -- Once a packet has carried the cut, the store keeps it.
        trigger := .inl (by rcases h.trigger with ht | ⟨ht, -⟩ <;> split_ifs <;> simp_all) }

theorem Awaits.run_sendData (hx : x.Sendable) {batches : List (List Event)}
    (h : x.Awaits trigger ordinal sent s) (hmem : ∀ batch ∈ batches, batch ∈ x.early ++ x.late)
    (hcounts : Counts (sent + 1) batches.flatten)
    (hsent : sent + batches.flatten.length ≤ x.events.length)
    (hroom : trigger ≠ noTrigger → sent + batches.flatten.length ≤ trigger.toNat + x.capacity.toNat / 4) :
    (history accept (x.sendData trigger ordinal batches) s).flatMap acceptedEvents = batches.flatten ∧
      x.Awaits trigger (ordinal + batches.length) (sent + batches.flatten.length)
        (run accept (x.sendData trigger ordinal batches) s) := by
  -- Each packet leaves the store waiting for the next one.
  induction batches generalizing ordinal sent s with
  | nil => exact ⟨rfl, h⟩
  | cons batch rest ih =>
    rw [List.forall_mem_cons] at hmem
    rw [List.flatten_cons, List.length_append] at hsent hroom
    rw [List.flatten_cons, counts_append] at hcounts
    obtain ⟨hevents, hnext⟩ := h.data hx hmem.1 hcounts.1 (by omega) fun ht => by
      have := hroom ht
      omega
    obtain ⟨hrest, hlast⟩ := ih hnext hmem.2 (by rw [Nat.add_right_comm]; exact hcounts.2) (by omega)
      fun ht => by
        have := hroom ht
        omega
    rw [sendData, history, List.flatMap_cons, run_cons, List.flatten_cons, List.length_append,
      List.length_cons, hevents, hrest, ← Nat.add_assoc, ← Nat.add_assoc, Nat.add_right_comm ordinal]
    exact ⟨rfl, hlast⟩

theorem Awaits.sealHeader_fits (hx : x.Sendable)
    (h : x.Awaits x.cut (2 + x.early.length + x.late.length) x.events.length s) :
    x.sealHeader.Valid ∧ sealError x.sealHeader s = .none := by
  have hfew := h.started.2
  have hbound : x.events.length + x.lost.toNat + 2 < 2^64 - 1 := hx.bound
  have hordinal : x.sealHeader.ordinal.toNat = 2 + x.early.length + x.late.length :=
    UInt64.toNat_ofNat_of_lt' (show _ < 2^64 by omega)
  have haccepted : x.sealHeader.accepted.toNat = x.events.length :=
    UInt64.toNat_ofNat_of_lt' (show _ < 2^64 by omega)
  have hattempted : x.sealHeader.accepted ≤ x.sealHeader.attempted := by
    have hsum : x.sealHeader.attempted.toNat = (x.sealHeader.accepted.toNat + x.lost.toNat) % 2^64 :=
      UInt64.toNat_add ..
    rw [UInt64.le_iff_toNat_le, hsum, haccepted]
    omega
  have hlost : x.sealHeader.lost = x.sealHeader.attempted - x.sealHeader.accepted := by
    show x.lost = UInt64.ofNat x.events.length + x.lost - UInt64.ofNat x.events.length
    rw [UInt64.add_comm, UInt64.add_sub_cancel]
  refine ⟨⟨.inr (.inr rfl), hx.capacity, hx.session, fun hzero => ?_,
    show (0 : UInt32) ≤ maxEvents by decide, nofun, nofun,
    fun _ => ⟨rfl, hx.reason.1, hx.reason.2, hattempted, hlost, or_iff_not_imp_left.mpr fun hcut => ?_⟩⟩, ?_⟩
  · rw [hzero, UInt64.toNat_zero] at hordinal
    omega
  · exact UInt64.le_iff_toNat_le.mpr (haccepted ▸ (hx.cut hcut).2.1)
  · rw [sealError, firstError_eq_ok_iff (by simp)]
    simp only [List.forall_mem_cons, decide_eq_false_iff_not, h.cutAfter_eq x.sealHeader rfl,
      hordinal, haccepted, h.state, h.session, h.capacity, h.nextOrdinal, h.lastSequence, h.accepted,
      uint64Max]
    refine ⟨by simp, fun h => h rfl, fun h => h rfl, by simp, fun h => h rfl,
      not_or.mpr ⟨UInt32.not_lt.mpr hx.reason.1, UInt32.not_lt.mpr hx.reason.2⟩, by omega, ?_, ?_,
      fun hcut => hcut.2.not_ge (hx.cut hcut.1).2.1, ?_, by simp, by simp⟩
    · exact fun hne => h.trigger.elim (fun ht => hne.2 ht.symm) fun ht => hne.1 ht.1
    · rintro ⟨ht, hcut, hlt⟩
      exact h.trigger.elim (fun hsame => hcut (hsame.symm.trans ht)) fun hle => hle.2.not_gt hlt
    · rintro (hne | hlt | hne)
      · exact hne rfl
      · exact UInt64.not_lt.mpr hattempted hlt
      · exact hne hlost

theorem Awaits.seal (hx : x.Sendable)
    (h : x.Awaits x.cut (2 + x.early.length + x.late.length) x.events.length s) :
    acceptedEvents (record accept s (send x.sealHeader [])) = [] ∧
      accept (send x.sealHeader []) s = (.none, s.frozen x.sealHeader) := by
  obtain ⟨hvalid, hseal⟩ := h.sealHeader_fits hx
  obtain ⟨haccept, hevents⟩ := @accept_send s [] _ hvalid rfl (by simp) (by rw [h.state]; decide)
  refine ⟨?_, ?_⟩
  · rw [acceptedEvents, record, hevents]
    exact ite_self _
  · rw [haccept, if_neg (show x.sealHeader.op ≠ .begin from show Op.seal ≠ .begin by decide),
      if_neg (show x.sealHeader.op ≠ .data from show Op.seal ≠ .data by decide), if_pos (by rfl), acceptSeal,
      hseal]

theorem Sendable.run_feeds (hx : x.Sendable) : storedEvents x.feeds = x.events ∧
    ∃ s, x.Awaits x.cut (2 + x.early.length + x.late.length) x.events.length s ∧
      run accept x.feeds {} = s.frozen x.sealHeader := by
  have hevents : x.events = x.early.flatten ++ x.late.flatten := List.flatten_append
  have hlength : x.events.length = x.early.flatten.length + x.late.flatten.length := by
    rw [hevents, List.length_append]
  have hcounts := hx.counts
  rw [hevents, counts_append, Nat.add_comm 1] at hcounts
  obtain ⟨hbegin, hbegun⟩ := hx.awaits_begin
  obtain ⟨hearly, hfixed⟩ := hbegun.run_sendData hx (fun _ h => List.mem_append_left _ h) hcounts.1
    (by omega) fun h => absurd rfl h
  rw [Nat.zero_add] at hfixed
  -- The cut is fixed between two packets.
  have hcut : x.Awaits x.cut (2 + x.early.length) x.early.flatten.length
      (run accept (x.sendData noTrigger 2 x.early) (accept (send x.beginHeader []) {}).2) := by
    refine { hfixed with trigger := ?_ }
    have hnone := hfixed.trigger.elim id fun h => h.1
    by_cases hne : x.cut = noTrigger
    · exact .inl (hnone.trans hne.symm)
    · exact .inr ⟨hnone, (hx.cut hne).1⟩
  obtain ⟨hlate, hawaits⟩ := hcut.run_sendData hx (fun _ h => List.mem_append_right _ h) hcounts.2
    hlength.ge fun h => hlength ▸ (hx.cut h).2.2
  rw [← hlength] at hawaits
  obtain ⟨hseal, hfrozen⟩ := hawaits.seal hx
  constructor
  · simp only [storedEvents, feeds, history, history_append, List.flatMap_cons, List.flatMap_append,
      List.flatMap_nil, List.append_nil, hbegin, hearly, hlate, hseal, hevents, List.nil_append]
  · exact ⟨_, hawaits, by rw [feeds, run_cons, run_append, run_append, run_cons, run_nil, hfrozen]⟩

/-- A recording that can be sent is taken as a whole, however it is cut into packets: the store is frozen
with its totals, and shows a visitor that goes on and leaves the store alone the last events up to the cut
and every one behind it, each as it was sent. -/
theorem history_shows_session (x : Session) (hx : x.Sendable) :
    let s := run accept x.feeds {}
    let pre := x.capacity.toNat - x.capacity.toNat / 4
    s.state = .frozen ∧ (summary s).accepted = x.events.length ∧ (summary s).lost = x.lost.toNat ∧
      ∀ {σ : Type} (visitor : Visitor σ) (f : σ → Event → σ),
        (∀ e acc, visitor e acc s = (some true, f acc e, s)) → ∀ acc,
          visitFrozen (some visitor) true acc s =
            (true, (x.events.drop (ringCount x.cut x.events.length - pre)).foldl f acc, s) := by
  intro s pre
  obtain ⟨hevents, s', hawaits, hrun⟩ := hx.run_feeds
  have hs : s = s'.frozen x.sealHeader := hrun
  have hfrozen : s.state = .frozen := by rw [hs]; rfl
  have hfollows := run_follows x.feeds
  rw [Follows, hrun, hevents] at hfollows
  have hrecorded : Recorded x.events s := hs ▸ hfollows.1
  have htrigger : s.trigger = x.cut := by
    rw [hs]
    exact (trigger_after x.sealHeader s').trans (hawaits.cutAfter_eq _ rfl)
  have hpre : s.pre = pre := by rw [hs]; exact hawaits.pre
  refine ⟨hfrozen, hrecorded.accepted, by rw [hs]; rfl, fun visitor f hv acc => ?_⟩
  rw [visitFrozen, if_neg (by simp [hfrozen]), visitLoop_of_passive hv hfrozen, hrecorded.map_visitOrder,
    hrecorded.evicted, htrigger, hpre]

theorem history_shows_session_five_events :
    let event (n : UInt64) : Event := { sequence := n, session := 9 }
    let x : Session :=
      { session := 9, capacity := 4, early := [[event 1, event 2, event 3]], late := [[event 4, event 5]]
        cut := 4, reason := 1, lost := 1 }
    let collect : Visitor (List UInt64) := fun e acc s => (some true, acc ++ [e.sequence], s)
    (visitFrozen (some collect) true [] (run accept x.feeds {})).2.1 = [2, 3, 4, 5] := by
  intro event x collect
  have hevent (n : UInt64) (hn : n ≠ 0 ∧ n ≠ noTrigger) : (event n).Valid 9 :=
    ⟨rfl, hn, show 1 ≤ Kind.camera.raw ∧ Kind.camera.raw ≤ 18 by decide,
      show 0 ∈ (Vector.replicate 32 (0 : UInt8)).toList by decide⟩
  have hx : x.Sendable :=
    { session := by decide
      capacity := by decide
      batches := by
        simp only [x, List.cons_append, List.nil_append, List.forall_mem_cons]
        refine ⟨⟨by simp, by decide, hevent 1 (by decide), hevent 2 (by decide), hevent 3 (by decide), ?_⟩,
          ⟨by simp, by decide, hevent 4 (by decide), hevent 5 (by decide), ?_⟩, ?_⟩ <;> simp
      counts := ⟨rfl, rfl, rfl, rfl, rfl, trivial⟩
      bound := by decide
      cut := by decide
      reason := by decide }
  rw [(history_shows_session x hx).2.2.2 collect (fun acc e => acc ++ [e.sequence]) fun _ _ => rfl]
  decide

end Session

end War3VK.RenderHost.Recorder
