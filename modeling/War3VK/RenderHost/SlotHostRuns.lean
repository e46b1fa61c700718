import War3VK.RenderHost.SlotHostSpec

/-!
# Runs of the slot host

`Booked` ties the ledger of a serving host to the keys that it has handed out and those whose
publication it has acknowledged: a key that was handed out is either still with its slot, or was
published, once.
-/

namespace War3VK.RenderHost.SlotHost

open Lib Slots SlotWire

/-! ## The books -/

/-- The key that an acknowledged `Reserve` has handed out. -/
def Ack.handedOut (a : Ack) : Option Key :=
  if a.op = .reserve then some (decodeKey (some a.reply)).2 else none

/-- The key that an acknowledged `Publish` was about. -/
def Ack.published (a : Ack) : Option Key :=
  if a.op = .publish then some (decodeKey (some (slice 0 descriptorBytes a.request))).2 else none

/-- A key that is still with its slot, which is being written or quarantined. -/
def Holds (l : SlotLedger) (key : Key) : Prop :=
  ∃ slot : Fin slotCount, key.slot.toNat = slot ∧ (l.records slot).key = key ∧
    ((l.records slot).state = .writing ∨ (l.records slot).state = .quarantined)

/-- The slots of a serving host, and the keys that it has handed out. -/
structure Slotted (l : SlotLedger) (handed : List Key) : Prop where
  states : ∀ slot, (l.records slot).state = .free ∨ (l.records slot).state = .writing ∨
    (l.records slot).state = .quarantined
  consistent : ∀ slot, (l.records slot).key.generation = (l.records slot).generation
  writing : ∀ slot, (l.records slot).state = .writing → (l.records slot).key ∈ handed
  /-- What was handed out is no newer than its slot. -/
  known : ∀ key ∈ handed, ∃ slot : Fin slotCount, key.slot.toNat = slot ∧
    key.generation.toNat ≤ (l.records slot).generation.toNat

structure Booked (l : SlotLedger) (acks : List Ack) : Prop where
  slots : Slotted l (acks.filterMap Ack.handedOut)
  idle : l.phase ≠ .active → ∀ slot, (l.records slot).state = .free
  subset : ∀ key ∈ acks.filterMap Ack.published, key ∈ acks.filterMap Ack.handedOut
  /-- What was handed out is with its slot and unpublished, or published once. -/
  once : ∀ key ∈ acks.filterMap Ack.handedOut,
    Holds l key ∧ (acks.filterMap Ack.published).count key = 0 ∨
      ¬Holds l key ∧ (acks.filterMap Ack.published).count key = 1
  cancelled : ∀ a ∈ acks, a.op = .cancel → ∃ slot, (l.records slot).state = .quarantined

variable {l : SlotLedger} {acks : List Ack}

theorem Booked.quiet (h : Booked l acks) : Quiet l := by
  intro slot
  rcases h.slots.states slot with hs | hs | hs <;> rw [hs] <;> decide

theorem booked_new (nonce : Nonce) : Booked (.new 0 nonce {}) [] where
  slots := ⟨fun _ => .inl rfl, fun _ => rfl, fun _ h => (nomatch h), fun _ h => (nomatch h)⟩
  idle _ _ := rfl
  subset _ h := nomatch h
  once _ h := nomatch h
  cancelled _ h := nomatch h

/-! ## Leases -/

variable {a : Ack} {l' : SlotLedger} {slot : Fin slotCount} {key : Key}

theorem Booked.keep (h : Booked l acks) (hrecords : l'.records = l.records)
    (hidle : l'.phase ≠ .active → ∀ slot, (l.records slot).state = .free)
    (hop : a.op ≠ .reserve ∧ a.op ≠ .publish ∧ a.op ≠ .cancel) : Booked l' (acks ++ [a]) := by
  have hhanded : (acks ++ [a]).filterMap Ack.handedOut = acks.filterMap Ack.handedOut := by
    simp [Ack.handedOut, hop.1]
  have hpublished : (acks ++ [a]).filterMap Ack.published = acks.filterMap Ack.published := by
    simp [Ack.published, hop.2.1]
  have hholds : ∀ key, Holds l' key ↔ Holds l key := fun key => by simp only [Holds, hrecords]
  constructor
  · obtain ⟨hstates, hconsistent, hwriting, hknown⟩ := h.slots
    rw [hhanded]
    constructor <;> rw [hrecords] <;> assumption
  · rw [hrecords]
    exact hidle
  · rw [hhanded, hpublished]
    exact h.subset
  · simp only [hholds]
    rw [hhanded, hpublished]
    exact h.once
  · intro b hb hcancel
    rw [hrecords]
    rcases List.mem_append.mp hb with hb | hb
    · exact h.cancelled b hb hcancel
    · rw [List.mem_singleton.mp hb] at hcancel
      exact absurd hcancel hop.2.2

theorem holds_setRecord {r : SlotRecord} :
    Holds (l.setRecord slot r) key ↔
      if key.slot.toNat = slot then r.key = key ∧ (r.state = .writing ∨ r.state = .quarantined)
      else Holds l key := by
  split_ifs with hs
  · constructor
    · rintro ⟨slot', hslot, hkey⟩
      obtain rfl : slot' = slot := Fin.ext (hslot.symm.trans hs)
      rwa [setRecord_self] at hkey
    · intro hkey
      exact ⟨slot, hs, by rwa [setRecord_self]⟩
  · have hother : ∀ slot' : Fin slotCount, key.slot.toNat = slot' →
        (l.setRecord slot r).records slot' = l.records slot' := by
      intro slot' hslot
      refine setRecord_of_ne _ _ ?_
      rintro rfl
      exact hs hslot
    constructor
    · rintro ⟨slot', hslot, hkey⟩
      rw [hother slot' hslot] at hkey
      exact ⟨slot', hslot, hkey⟩
    · rintro ⟨slot', hslot, hkey⟩
      refine ⟨slot', hslot, ?_⟩
      rwa [hother slot' hslot]

theorem Holds.of_slot (h : Holds l key) (hslot : key.slot.toNat = slot) :
    (l.records slot).key = key ∧
      ((l.records slot).state = .writing ∨ (l.records slot).state = .quarantined) := by
  obtain ⟨slot', hs, hkey⟩ := h
  obtain rfl : slot' = slot := Fin.ext (hs.symm.trans hslot)
  exact hkey

theorem Slotted.setRecord {handed : List Key} (h : Slotted l handed)
    (hslot : key.slot.toNat = slot)
    (hgen : (l.records slot).generation.toNat ≤ key.generation.toNat) :
    Slotted (l.setRecord slot ⟨key, key.generation, .writing⟩) (handed ++ [key]) := by
  have hother : ∀ slot', slot' ≠ slot →
      (l.setRecord slot ⟨key, key.generation, .writing⟩).records slot' = l.records slot' :=
    fun slot' hs => setRecord_of_ne _ _ hs
  constructor
  · intro slot'
    by_cases hs : slot' = slot
    · simp [hs]
    · rw [hother slot' hs]
      exact h.states slot'
  · intro slot'
    by_cases hs : slot' = slot
    · simp [hs]
    · rw [hother slot' hs]
      exact h.consistent slot'
  · intro slot' hw
    by_cases hs : slot' = slot
    · simp [hs]
    · rw [hother slot' hs] at hw ⊢
      exact List.mem_append_left _ (h.writing slot' hw)
  · intro key' hmem
    rcases List.mem_append.mp hmem with hmem | hmem
    · obtain ⟨slot', hs', hle⟩ := h.known key' hmem
      refine ⟨slot', hs', ?_⟩
      by_cases hs : slot' = slot
      · subst hs
        rw [setRecord_self]
        exact hle.trans hgen
      · rwa [hother slot' hs]
    · rw [List.mem_singleton.mp hmem]
      exact ⟨slot, hslot, by rw [setRecord_self]⟩

theorem Slotted.setState {handed : List Key} (h : Slotted l handed) (slot : Fin slotCount)
    {state : SlotState} (hstate : state = .free ∨ state = .quarantined) :
    Slotted (l.setState slot state) handed := by
  have hother : ∀ slot', slot' ≠ slot → (l.setState slot state).records slot' = l.records slot' :=
    fun slot' hs => setRecord_of_ne _ _ hs
  have hself : (l.setState slot state).records slot = { l.records slot with state } :=
    setRecord_self _ _ _
  constructor
  · intro slot'
    by_cases hs : slot' = slot
    · rw [hs, hself]
      exact hstate.imp_right .inr
    · rw [hother slot' hs]
      exact h.states slot'
  · intro slot'
    by_cases hs : slot' = slot
    · rw [hs, hself]
      exact h.consistent slot
    · rw [hother slot' hs]
      exact h.consistent slot'
  · intro slot' hw
    by_cases hs : slot' = slot
    · rw [hs, hself] at hw
      rcases hstate with rfl | rfl <;> exact nomatch hw
    · rw [hother slot' hs] at hw ⊢
      exact h.writing slot' hw
  · intro key' hmem
    obtain ⟨slot', hs', hle⟩ := h.known key' hmem
    refine ⟨slot', hs', ?_⟩
    by_cases hs : slot' = slot
    · rw [hs, hself]
      exact hs ▸ hle
    · rwa [hother slot' hs]

theorem Booked.quarantined (h : Booked l acks) {r : SlotRecord}
    (hslot : (l.records slot).state ≠ .quarantined) {b : Ack} (hb : b ∈ acks)
    (hcancel : b.op = .cancel) :
    ∃ slot', ((l.setRecord slot r).records slot').state = .quarantined := by
  obtain ⟨slot', hq⟩ := h.cancelled b hb hcancel
  have hs : slot' ≠ slot := by
    rintro rfl
    exact hslot hq
  exact ⟨slot', by rwa [setRecord_of_ne _ _ hs]⟩

theorem Booked.reserve (h : Booked l acks) {frame : UInt64} {cursor : Fin slotCount}
    (hop : a.op = .reserve) (hreply : decodeKey (some a.reply) = (.none, key))
    (hphase : l.phase = .active) (hfree : (l.records slot).state = .free)
    (hslot : key.slot.toNat = slot)
    (hgen : key.generation.toNat = (l.records slot).generation.toNat + 1) :
    Booked { l.setRecord slot ⟨key, key.generation, .writing⟩ with frame, cursor } (acks ++ [a]) := by
  have hhanded : (acks ++ [a]).filterMap Ack.handedOut = acks.filterMap Ack.handedOut ++ [key] := by
    simp [Ack.handedOut, hop, hreply]
  have hpublished : (acks ++ [a]).filterMap Ack.published = acks.filterMap Ack.published := by
    simp [Ack.published, hop, Op.reserve, Op.publish]
  -- The key is newer than all that were handed out before.
  have hnew : key ∉ acks.filterMap Ack.handedOut := by
    intro hmem
    obtain ⟨slot', hs, hle⟩ := h.slots.known key hmem
    rw [Fin.ext (hs.symm.trans hslot)] at hle
    omega
  have hslots := h.slots.setRecord hslot (by omega)
  constructor
  · rw [hhanded]
    exact ⟨hslots.states, hslots.consistent, hslots.writing, hslots.known⟩
  · exact fun hne => absurd hphase hne
  · intro key' hmem
    rw [hpublished] at hmem
    rw [hhanded]
    exact List.mem_append_left _ (h.subset key' hmem)
  · intro key' hmem
    rw [hpublished]
    show Holds (l.setRecord slot _) key' ∧ _ ∨ ¬Holds (l.setRecord slot _) key' ∧ _
    rw [holds_setRecord]
    rw [hhanded] at hmem
    rcases List.mem_append.mp hmem with hmem | hmem
    · have hne : key ≠ key' := fun heq => hnew (heq ▸ hmem)
      have honce := h.once key' hmem
      split_ifs with hs
      · have hnot : ¬Holds l key' := fun hh => by simpa [hfree] using (hh.of_slot hs).2
        tauto
      · exact honce
    · rw [List.mem_singleton.mp hmem, if_pos hslot]
      exact .inl ⟨⟨rfl, .inl rfl⟩, List.count_eq_zero.mpr fun hp => hnew (h.subset key hp)⟩
  · intro b hb hcancel
    rcases List.mem_append.mp hb with hb | hb
    · exact h.quarantined (by rw [hfree]; decide) hb hcancel
    · rw [List.mem_singleton.mp hb, hop] at hcancel
      exact nomatch hcancel

theorem Booked.publish (h : Booked l acks) (hop : a.op = .publish)
    (hrequest : decodeKey (some (slice 0 descriptorBytes a.request)) = (.none, key))
    (hphase : l.phase = .active) (hkey : Current (alone l) key slot .writing) :
    Booked (l.setState slot .free) (acks ++ [a]) := by
  obtain ⟨hslot, hlease, hstate⟩ := hkey
  have hhanded : (acks ++ [a]).filterMap Ack.handedOut = acks.filterMap Ack.handedOut := by
    simp [Ack.handedOut, hop, Op.reserve, Op.publish]
  have hpublished : (acks ++ [a]).filterMap Ack.published = acks.filterMap Ack.published ++ [key] := by
    simp [Ack.published, hop, hrequest]
  constructor
  · rw [hhanded]
    exact h.slots.setState slot (.inl rfl)
  · exact fun hne => absurd hphase hne
  · intro key' hmem
    rw [hhanded]
    rw [hpublished] at hmem
    rcases List.mem_append.mp hmem with hmem | hmem
    · exact h.subset key' hmem
    · rw [List.mem_singleton.mp hmem]
      exact hlease ▸ h.slots.writing slot hstate
  · intro key' hmem
    rw [hhanded] at hmem
    rw [hpublished, List.count_append, SlotLedger.setState, holds_setRecord]
    have honce := h.once key' hmem
    by_cases hne : key = key'
    · -- The key was with its slot, and is published now.
      subst hne
      have hholds : Holds l key := ⟨slot, hslot, hlease, .inl hstate⟩
      have hzero : (acks.filterMap Ack.published).count key = 0 := by tauto
      exact .inr ⟨by simp [hslot], by simp [hzero]⟩
    · have hcount : [key].count key' = 0 := List.count_eq_zero.mpr (by simpa using Ne.symm hne)
      rw [hcount, Nat.add_zero]
      split_ifs with hs
      · have hnot : ¬Holds l key' := fun hh => hne (hlease.symm.trans (hh.of_slot hs).1)
        exact .inr ⟨by simp, by tauto⟩
      · exact honce
  · intro b hb hcancel
    rcases List.mem_append.mp hb with hb | hb
    · exact h.quarantined (by rw [show (l.records slot).state = _ from hstate]; decide) hb hcancel
    · rw [List.mem_singleton.mp hb, hop] at hcancel
      exact nomatch hcancel

theorem Booked.cancel (h : Booked l acks) (hop : a.op = .cancel) (hphase : l.phase = .active)
    (hkey : Current (alone l) key slot .writing) :
    Booked (l.setState slot .quarantined) (acks ++ [a]) := by
  obtain ⟨hslot, hlease, hstate⟩ := hkey
  have hhanded : (acks ++ [a]).filterMap Ack.handedOut = acks.filterMap Ack.handedOut := by
    simp [Ack.handedOut, hop, Op.reserve, Op.cancel]
  have hpublished : (acks ++ [a]).filterMap Ack.published = acks.filterMap Ack.published := by
    simp [Ack.published, hop, Op.publish, Op.cancel]
  have hholds : ∀ key', Holds (l.setState slot .quarantined) key' ↔ Holds l key' := by
    intro key'
    rw [SlotLedger.setState, holds_setRecord]
    split_ifs with hs
    · refine ⟨fun hh => ⟨slot, hs, hh.1, .inl hstate⟩, fun hh => ⟨(hh.of_slot hs).1, .inr rfl⟩⟩
    · exact Iff.rfl
  constructor
  · rw [hhanded]
    exact h.slots.setState slot (.inr rfl)
  · exact fun hne => absurd hphase hne
  · rw [hhanded, hpublished]
    exact h.subset
  · simp only [hholds]
    rw [hhanded, hpublished]
    exact h.once
  · exact fun _ _ _ => ⟨slot, congrArg SlotRecord.state (setRecord_self _ _ _)⟩

/-! ## Rounds -/

section Rounds

variable {κ ε : Type} {conn : Connection κ ε}

def Sound (h : Host κ) (acks : List Ack) : Prop :=
  match h.status with
  | .serving => Booked h.ledger acks
  | .closed => Booked h.ledger acks ∧ (h.ledger.phase = .dormant ∨ h.ledger.phase = .ready)
  | .retired | .failed _ =>
    (∀ slot, (h.ledger.records slot).state = .retired) ∧ h.ledger.localReadersDone ∧ h.readersDone

theorem retired_done (h : Unread l) : (∀ slot, ((retire l).records slot).state = .retired) ∧
    (retire l).localReadersDone := by
  have hretired : ∀ slot, ((retire l).records slot).state = .retired := h.retire
  have hunread : Unread (retire l) := fun slot => by rw [hretired slot]; decide
  exact ⟨hretired, hunread.done⟩

variable {h : Host κ}

theorem sound_fail (hunread : Unread h.ledger) (fault : Fault) : Sound (h.fail fault) acks := by
  obtain ⟨hretired, hdone⟩ := retired_done hunread
  exact ⟨hretired, hdone, hdone⟩

theorem Booked.served (h : Booked l acks) (hs : Served l a.op a.request a.reply l')
    (hop : a.op ≠ .retire) : Booked l' (acks ++ [a]) := by
  generalize ho : a.op = op at hs hop
  generalize hreq : a.request = request at hs
  generalize hrep : a.reply = reply at hs
  cases hs with
  | kept _ _ _ hne => exact h.keep rfl h.idle (by rw [ho]; exact ⟨hne.1, hne.2.1, hne.2.2.1⟩)
  | began _ _ map device hfree =>
    exact h.keep rfl (fun hne => absurd rfl hne) (by rw [ho]; decide)
  | reserved _ _ frame slot cursor key hreply hphase hfree hslot hgen =>
    exact h.reserve ho (by rw [hrep]; exact hreply) hphase hfree hslot hgen
  | published _ _ key slot hrequest hphase hkey =>
    exact h.publish ho (by rw [hreq]; exact hrequest) hphase hkey
  | cancelled _ _ key slot hphase hkey => exact h.cancel ho hphase hkey
  | ended _ _ hfree =>
    exact h.keep rfl (fun _ => by simpa [SlotLedger.allFree] using hfree) (by rw [ho]; decide)
  | closed _ _ hphase => exact h.keep rfl h.idle (by rw [ho]; decide)
  | retired => exact absurd rfl hop

theorem Served.unread (hquiet : Quiet l) {op : Op} {request reply : Bytes}
    (hs : Served l op request reply l') : Unread l' := by
  cases hs with
  | kept => exact hquiet.unread
  | began => exact hquiet.unread
  | reserved _ _ frame slot cursor key =>
    intro slot'
    show ((l.setRecord slot ⟨key, key.generation, .writing⟩).records slot').state ≠ .reading
    by_cases hs : slot' = slot
    · simp [hs]
    · rw [setRecord_of_ne _ _ hs]
      exact hquiet.unread slot'
  | published _ _ key slot => exact hquiet.unread.setState slot (by decide)
  | cancelled _ _ key slot => exact hquiet.unread.setState slot (by decide)
  | ended => exact hquiet.unread
  | closed => exact hquiet.unread
  | retired =>
    intro slot
    rw [hquiet.unread.retire slot]
    decide

theorem Served.terminal {op : Op} {request reply : Bytes} (hs : Served l op request reply l') :
    (op = .close → l'.phase = .dormant ∨ l'.phase = .ready) ∧ (op = .retire → l' = retire l) := by
  cases hs with
  | kept _ _ _ hop => exact ⟨fun h => absurd h hop.2.2.2.1, fun h => absurd h hop.2.2.2.2⟩
  | closed _ _ hphase => exact ⟨fun _ => hphase, fun h => absurd h (by decide)⟩
  | retired => exact ⟨fun h => absurd h (by decide), fun _ => rfl⟩
  | _ => exact ⟨fun h => absurd h (by decide), fun h => absurd h (by decide)⟩

theorem serve_cases (conn : Connection κ ε) (env : Surroundings ε)
    (hserving : h.status = .serving) (hquiet : Quiet h.ledger) :
    (∃ h₁ fault, serve conn env h = (none, Host.fail h₁ fault) ∧ Unread h₁.ledger) ∨
      ∃ (h₁ : Host κ) (a : Ack), serve conn env h = (some a, h₁.acknowledge a.op) ∧
        Served h.ledger a.op a.request a.reply h₁.ledger ∧ h₁.status = .serving ∧
          ((answer conn env a.request h.ledger h.consumer a.op h.greeted).reply = .ok a.reply) := by
  unfold serve
  rw [if_neg (not_not.mpr hserving)]
  cases readPacket env.arrived with
  | error fault => exact .inl ⟨h, fault, rfl, hquiet.unread⟩
  | ok view =>
    dsimp only
    cases admission conn.nonce view.header h.next h.greeted with
    | some reason => exact .inl ⟨h, .rejected reason, rfl, hquiet.unread⟩
    | none =>
      dsimp only
      have hspec := @answer_spec κ ε conn env (view.payload.getD []) h.ledger h.consumer hquiet
        view.header.op h.greeted
      generalize hans : answer conn env (view.payload.getD []) h.ledger h.consumer view.header.op
        h.greeted = ans at hspec
      rcases hspec with ⟨⟨fault, hf⟩, hunread⟩ | ⟨reply, hr, hserved⟩
      · rw [hf]
        exact .inl ⟨_, fault, rfl, hunread⟩
      · rw [hr]
        dsimp only
        unfold respond
        dsimp only
        split_ifs with hencode hwritten
        · exact .inl ⟨_, _, rfl, hserved.unread hquiet⟩
        · exact .inl ⟨_, _, rfl, hserved.unread hquiet⟩
        · refine .inr ⟨_, _, rfl, hserved, hserving, ?_⟩
          rw [hans, hr]

theorem sound_serve (conn : Connection κ ε) (env : Surroundings ε) (hsound : Sound h acks) :
    Sound (serve conn env h).2 (acks ++ (serve conn env h).1.toList) := by
  by_cases hserving : h.status = .serving
  · have hbooked : Booked h.ledger acks := by simpa only [Sound, hserving] using hsound
    rcases serve_cases conn env hserving hbooked.quiet with
      ⟨h₁, fault, hserve, hunread⟩ | ⟨h₁, a, hserve, hserved, hstatus, -⟩
    · rw [hserve]
      exact sound_fail hunread fault
    · rw [hserve]
      show Sound (h₁.acknowledge a.op) (acks ++ [a])
      unfold Host.acknowledge
      split_ifs with hclose hretire
      · exact ⟨hbooked.served hserved (by rw [hclose]; decide), hserved.terminal.1 hclose⟩
      · obtain ⟨hretired, hdone⟩ := retired_done hbooked.quiet.unread
        rw [← hserved.terminal.2 hretire] at hretired hdone
        exact ⟨hretired, hdone, hdone⟩
      · simp only [Sound, hstatus]
        exact hbooked.served hserved hretire
  · -- The loop has ended.
    have hidle : serve conn env h = (none, h) := by
      unfold serve
      rw [if_pos hserving]
    rw [hidle, Option.toList_none, List.append_nil]
    exact hsound

/-! ## Main result -/

def acknowledged (past : List (Record (Host κ) (Surroundings ε) (Option Ack))) : List Ack :=
  past.filterMap Record.output

theorem sound_run (conn : Connection κ ε) (consumer : κ) (requests : List (Surroundings ε)) :
    Sound (run (serve conn) requests (Host.new conn.nonce consumer))
      (acknowledged (history (serve conn) requests (Host.new conn.nonce consumer))) := by
  refine @history_induction _ _ _ (serve conn) (fun h past => Sound h (acknowledged past)) _
    (show Sound (Host.new conn.nonce consumer) [] from booked_new conn.nonce)
    (fun h past env hsound => ?_) requests
  rw [acknowledged, filterMap_concat]
  exact sound_serve conn env hsound

theorem Sound.quiet (hsound : Sound h acks) : Quiet h.ledger := by
  unfold Sound at hsound
  split at hsound
  · exact hsound.quiet
  · exact hsound.1.quiet
  · exact fun slot => by rw [hsound.1 slot]; decide
  · exact fun slot => by rw [hsound.1 slot]; decide

theorem grounds_of_ack (conn : Connection κ ε) (env : Surroundings ε) (hquiet : Quiet h.ledger)
    (hack : (serve conn env h).1 = some a) (hop : a.op = .publish) :
    Grounds conn env a.request h.ledger h.consumer := by
  have hserving : h.status = .serving := by
    by_contra hended
    unfold serve at hack
    rw [if_pos hended] at hack
    exact nomatch hack
  rcases serve_cases conn env hserving hquiet with ⟨h₁, fault, hs, -⟩ | ⟨h₁, a', hs, -, -, hanswer⟩
  · rw [hs] at hack
    exact nomatch hack
  · rw [hs, Option.some.injEq] at hack
    subst hack
    have honly : answer conn env a'.request h.ledger h.consumer a'.op h.greeted =
        onPublish conn env a'.request h.ledger h.consumer := by
      rw [hop]
      rfl
    rw [honly] at hanswer
    rcases @onPublish_spec κ ε conn env a'.request h.ledger h.consumer hquiet with
      ⟨⟨fault, hf⟩, -⟩ | ⟨-, hgrounds⟩
    · rw [hf] at hanswer
      exact nomatch hanswer
    · exact hgrounds

/-- Runs of the slot host, for every consumer, everything that arrives and whatever the world does
with mapping, hash provider and pipe:
- between requests no slot is published or being read;
- a publication is acknowledged only on its grounds: its key was being written, the digest of the
  private copy is the request's, and the consumer has accepted the copy;
- a connection that is closed has published every key that it has handed out exactly once, and
  cancelled none;
- a connection that fails or is retired has retired every slot, and no reader is left. -/
theorem host_runs (conn : Connection κ ε) (consumer : κ) (requests : List (Surroundings ε)) :
    let h₀ := Host.new conn.nonce consumer
    let h := run (serve conn) requests h₀
    let past := history (serve conn) requests h₀
    let acks := acknowledged past
    Quiet h.ledger ∧
    (∀ r ∈ past, ∀ a, r.output = some a → a.op = .publish →
      Grounds conn r.call a.request r.before.ledger r.before.consumer) ∧
    (h.status = .closed →
      (∀ key ∈ acks.filterMap Ack.handedOut, (acks.filterMap Ack.published).count key = 1) ∧
      ∀ a ∈ acks, a.op ≠ .cancel) ∧
    ((h.status = .retired ∨ ∃ fault, h.status = .failed fault) →
      (∀ slot, (h.ledger.records slot).state = .retired) ∧ h.ledger.localReadersDone ∧
        h.readersDone) := by
  intro h₀ h past acks
  have hsound : Sound h acks := sound_run conn consumer requests
  refine ⟨hsound.quiet, ?_, fun hclosed => ?_, fun hended => ?_⟩
  · exact @forall_mem_history _ _ _ (serve conn) (fun t => ∃ acks, Sound t acks)
      (fun r => ∀ a, r.output = some a → a.op = .publish →
        Grounds conn r.call a.request r.before.ledger r.before.consumer) h₀
      ⟨[], booked_new conn.nonce⟩ (fun t env ⟨acks, ht⟩ => ⟨_, sound_serve conn env ht⟩)
      (fun t env ⟨acks, ht⟩ a hack hop => grounds_of_ack conn env ht.quiet hack hop) requests
  · obtain ⟨hbooked, hphase⟩ : Booked h.ledger acks ∧ _ := by simpa only [Sound, hclosed] using hsound
    have hfree := hbooked.idle (by rcases hphase with hp | hp <;> rw [hp] <;> decide)
    constructor
    · intro key hkey
      rcases hbooked.once key hkey with ⟨⟨slot, -, -, hstate⟩, -⟩ | ⟨-, hcount⟩
      · rw [hfree slot] at hstate
        simp at hstate
      · exact hcount
    · intro a ha hcancel
      obtain ⟨slot, hq⟩ := hbooked.cancelled a ha hcancel
      exact nomatch (hfree slot).symm.trans hq
  · rcases hended with hs | ⟨fault, hs⟩ <;> simpa only [Sound, hs] using hsound

/-- A connection without a consumer that leases one slot, publishes it and is closed. -/
theorem host_runs_one_lease :
    let conn : Connection Unit Unit := ⟨⟨1, 2⟩, none⟩
    let key : Key := ⟨⟨1, 2⟩, 3, 4, 1, 1, 0, 16⟩
    let request : Op → UInt64 → Bytes → Surroundings Unit := fun op sequence payload =>
      ⟨headerImage ⟨op, 0, 0, ⟨1, 2⟩, sequence⟩ payload.length ++ payload, true, some fun _ => 5,
        fun _ => some (Vector.replicate 32 7), (), true⟩
    let requests := [request .hello 1 (hello 32 64 2), request .begin 2 (putLe (3 : UInt64) ++ putLe (4 : UInt64)),
      request .reserve 3 (putLe (1 : UInt64) ++ putLe (16 : UInt32) ++ putLe (0 : UInt32)),
      request .publish 4 (keyImage key ++ List.replicate 32 7), request .finish 5 [],
      request .close 6 []]
    let acks := acknowledged (history (serve conn) requests (Host.new conn.nonce ()))
    key ∈ acks.filterMap Ack.handedOut ∧ (acks.filterMap Ack.published).count key = 1 := by
  intro conn key request requests acks
  have hclosed : (run (serve conn) requests (Host.new conn.nonce ())).status = .closed := by
    decide +kernel
  have hkey : key ∈ acks.filterMap Ack.handedOut := by decide +kernel
  exact ⟨hkey, ((host_runs conn () requests).2.2.1 hclosed).1 key hkey⟩

end Rounds

end War3VK.RenderHost.SlotHost
