import War3VK.RenderHost.SlotHost

/-!
# What one request does

`answer_spec` says what the `switch` of the slot host can do to a ledger in which no slot is
published or being read: it throws and leaves no reader, or its reply and the new ledger are as
`Served` says. The `try` and `catch` blocks of a publication are taken apart once, in
`onPublish_spec`.
-/

namespace War3VK.RenderHost.Slots

open Lib

/-! ## Calls of a ledger without other permits -/

abbrev alone (l : SlotLedger) : World := ⟨l, fun _ => {}⟩

theorem check_of_current {w : World} {key : Key} {state : SlotState} {slot : Fin slotCount}
    (h : Current w key slot state) : check key state w.ledger = .inr slot := by
  obtain ⟨hnames, hlease, hstage⟩ := h
  have hlt : key.slot.toNat < slotCount := by rw [hnames]; exact slot.isLt
  have hslot : (⟨key.slot.toNat, hlt⟩ : Fin slotCount) = slot := Fin.ext hnames
  unfold check
  rw [dif_pos hlt, hslot]
  dsimp only
  rw [if_neg (not_not.mpr hlease.symm), if_neg (not_not.mpr hstage)]

theorem check_spec (key : Key) (state : SlotState) (l : SlotLedger) :
    (∃ e, e ≠ .none ∧ check key state l = .inl e) ∨
      ∃ slot, Current (alone l) key slot state ∧ check key state l = .inr slot := by
  cases hc : check key state l with
  | inl e => exact .inl ⟨e, fun he => check_ne_none key state l (by rw [hc, he]), rfl⟩
  | inr slot => exact .inr ⟨slot, @current_of_check (alone l) _ _ _ hc, rfl⟩

theorem publish_spec (key : Key) (l : SlotLedger) :
    (∃ e, e ≠ .none ∧ publish key l = (e, l)) ∨
      ∃ slot, l.phase = .active ∧ Current (alone l) key slot .writing ∧
        publish key l = (.none, l.setState slot .published) := by
  unfold publish
  split_ifs with hphase
  · exact .inl ⟨.phase, by decide, rfl⟩
  · rcases check_spec key .writing l with ⟨e, he, hc⟩ | ⟨slot, hcurrent, hc⟩
    · exact .inl ⟨e, he, by rw [hc]⟩
    · exact .inr ⟨slot, not_not.mp hphase, hcurrent, by rw [hc]⟩

theorem cancelWrite_spec (key : Key) (l : SlotLedger) :
    (∃ e, e ≠ .none ∧ cancelWrite key l = (e, l)) ∨
      ∃ slot, l.phase = .active ∧ Current (alone l) key slot .writing ∧
        cancelWrite key l = (.none, l.setState slot .quarantined) := by
  unfold cancelWrite
  split_ifs with hphase
  · exact .inl ⟨.phase, by decide, rfl⟩
  · rcases check_spec key .writing l with ⟨e, he, hc⟩ | ⟨slot, hcurrent, hc⟩
    · exact .inl ⟨e, he, by rw [hc]⟩
    · exact .inr ⟨slot, not_not.mp hphase, hcurrent, by rw [hc]⟩

theorem beginRead_spec (key : Key) (output : ReadPermit) (l : SlotLedger) :
    (∃ e, e ≠ .none ∧ beginRead key output l = (e, output, l)) ∨
      ∃ slot, Current (alone l) key slot .published ∧
        beginRead key output l = (.none, ⟨some l.self, key, true⟩, l.setState slot .reading) := by
  unfold beginRead
  split_ifs with hphase hactive hissued
  · exact .inl ⟨.phase, by decide, rfl⟩
  · exact .inl ⟨.outputBusy, by decide, rfl⟩
  · exact .inl ⟨.outputUsed, by decide, rfl⟩
  · rcases check_spec key .published l with ⟨e, he, hc⟩ | ⟨slot, hcurrent, hc⟩
    · exact .inl ⟨e, he, by rw [hc]⟩
    · exact .inr ⟨slot, hcurrent, by rw [hc]⟩

theorem finishRead_of_current {key : Key} {l : SlotLedger} {slot : Fin slotCount}
    (h : Current (alone l) key slot .reading) :
    finishRead ⟨some l.self, key, true⟩ l = (.none, ⟨none, {}, true⟩,
      l.setState slot (if l.phase = .retired then .retired else .free)) := by
  unfold finishRead
  rw [if_neg (by simp), show check key .reading l = .inr slot from check_of_current h]

theorem reserve_spec (frame : UInt64) (bytes : UInt32) (l : SlotLedger) :
    (∃ e key, e ≠ .none ∧ reserve frame bytes l = (e, key, l)) ∨
      ∃ (slot cursor : Fin slotCount) (key : Key), l.phase = .active ∧
        (l.records slot).state = .free ∧ key.slot.toNat = slot ∧
        key.generation.toNat = (l.records slot).generation.toNat + 1 ∧
        reserve frame bytes l = (.none, some key,
          { l.setRecord slot ⟨key, key.generation, .writing⟩ with frame, cursor }) := by
  have hout := outcome_step (.reserve frame bytes) (alone l)
  simp only [step] at hout
  generalize hr : reserve frame bytes l = r at hout ⊢
  obtain ⟨e, key, l'⟩ := r
  generalize hv : ((e, key), (⟨l', fun _ => {}⟩ : World)) = v at hout
  cases hout with
  | refused _ e' he =>
    cases hv
    exact .inl ⟨_, _, he, rfl⟩
  | reserved _ _ slot cursor key' hphase hfree hslot hgen =>
    cases hv
    exact .inr ⟨slot, cursor, key', hphase, hfree, hslot, hgen, rfl⟩
  | permits _ hcall => cases hcall
  | epoch _ hcall => cases hcall

theorem beginEpoch_spec (map device : UInt64) (l : SlotLedger) :
    (∃ e, e ≠ .none ∧ beginEpoch map device l = (e, l)) ∨ (l.allFree ∧ beginEpoch map device l =
        (.none, { l with map, device, frame := 0, phase := .active })) := by
  unfold beginEpoch
  split_ifs with hphase hfree hepoch
  · exact .inl ⟨.phase, by decide, rfl⟩
  · exact .inl ⟨.slotState, by decide, rfl⟩
  · exact .inl ⟨.epoch, by decide, rfl⟩
  · exact .inr ⟨by simpa using hfree, rfl⟩

theorem endEpoch_spec (l : SlotLedger) :
    (∃ e, e ≠ .none ∧ endEpoch l = (e, l)) ∨
      (l.allFree ∧ endEpoch l = (.none, { l with phase := .ready })) := by
  unfold endEpoch
  split_ifs with hphase hfree
  · exact .inl ⟨.phase, by decide, rfl⟩
  · exact .inl ⟨.slotState, by decide, rfl⟩
  · exact .inr ⟨by simpa using hfree, rfl⟩

/-! ## Keys on the wire -/

@[simp]
theorem keyMagic_length : keyMagic.length = 4 := by simp [keyMagic]

theorem keyImage_length (key : Key) : (keyImage key).length = descriptorBytes := by
  simp [keyImage, descriptorBytes]

theorem parseKey_keyImage (key : Key) (rest : Bytes) : parseKey (keyImage key ++ rest) = key := by
  obtain ⟨⟨low, high⟩, map, device, frame, generation, slot, bytes⟩ := key
  simp [parseKey, keyImage, getLe_append_left, getLe_append_right]

theorem decodeKey_keyImage {key : Key} (h : shape key = .none) :
    decodeKey (some (keyImage key)) = (.none, key) := by
  have hread : parseKey (keyImage key) = key := by simpa using parseKey_keyImage key []
  have hmagic : slice 0 4 (keyImage key) = keyMagic := by
    rw [keyImage]
    simp [slice_append_left]
  have hversion : getLe UInt16 4 (keyImage key) = 1 ∧
      (getLe UInt16 6 (keyImage key)).toNat = descriptorBytes := by
    simp [keyImage, descriptorBytes, getLe_append_left, getLe_append_right]
  have herror : decodeKeyError (keyImage key) = .none := by
    unfold decodeKeyError
    rw [if_neg (by simp [keyImage_length]), if_neg (by simp [hmagic]),
      if_neg (by simp [hversion.1, hversion.2]), hread, h]
  rw [decodeKey, if_pos herror, hread]

theorem encodeKey_spec (key : Key) {dst : Bytes} (h : descriptorBytes ≤ dst.length) :
    (∃ e, e ≠ .none ∧ encodeKey key (some dst) = (e, some dst)) ∨ shape key = .none ∧
      encodeKey key (some dst) = (.none, some (keyImage key ++ dst.drop descriptorBytes)) := by
  unfold encodeKey
  dsimp only
  rw [if_neg (by omega)]
  split_ifs with hshape
  · exact .inl ⟨_, hshape, rfl⟩
  · exact .inr ⟨not_not.mp hshape, rfl⟩

end War3VK.RenderHost.Slots

namespace War3VK.RenderHost.SlotHost

open Lib Slots SlotWire

/-! ## Ledgers -/

def Unread (l : SlotLedger) : Prop := ∀ slot, (l.records slot).state ≠ .reading

def Quiet (l : SlotLedger) : Prop :=
  ∀ slot, (l.records slot).state ≠ .published ∧ (l.records slot).state ≠ .reading

theorem Unread.done {l : SlotLedger} (h : Unread l) : l.localReadersDone = true := by
  simpa [SlotLedger.localReadersDone, Unread] using h

theorem Quiet.unread {l : SlotLedger} (h : Quiet l) : Unread l := fun slot => (h slot).2

@[simp]
theorem setState_self (l : SlotLedger) (slot : Fin slotCount) (state : SlotState) :
    (l.setState slot state).self = l.self := rfl

theorem Unread.setState {l : SlotLedger} (h : Unread l) (slot : Fin slotCount) {state : SlotState}
    (hstate : state ≠ .reading) : Unread (l.setState slot state) := by
  intro slot'
  unfold SlotLedger.setState
  by_cases hs : slot' = slot
  · rw [hs, setRecord_self]
    exact hstate
  · rw [setRecord_of_ne _ _ hs]
    exact h slot'

theorem setState_setState (l : SlotLedger) (slot : Fin slotCount) (state state' : SlotState) :
    (l.setState slot state).setState slot state' = l.setState slot state' := by
  unfold SlotLedger.setState
  rw [setRecord_self]
  unfold SlotLedger.setRecord
  rw [Function.update_idem]

theorem current_setState {l : SlotLedger} {key : Key} {slot : Fin slotCount} {state : SlotState}
    (h : Current (alone l) key slot state) (state' : SlotState) :
    Current (alone (l.setState slot state')) key slot state' := by
  unfold SlotLedger.setState
  constructor
  · exact h.names
  · rw [setRecord_self]
    exact h.lease
  · rw [setRecord_self]

/-! ## Requests -/

/-- What an accepted request has done to the ledger, by its opcode, its payload and the reply's. -/
inductive Served (l : SlotLedger) : Op → Bytes → Bytes → SlotLedger → Prop where
  | kept (op : Op) (request reply : Bytes)
      (hop : op ≠ .reserve ∧ op ≠ .publish ∧ op ≠ .cancel ∧ op ≠ .close ∧ op ≠ .retire) :
      Served l op request reply l
  | began (request reply : Bytes) (map device : UInt64) (hfree : l.allFree) :
      Served l .begin request reply { l with map, device, frame := 0, phase := .active }
  | reserved (request reply : Bytes) (frame : UInt64) (slot cursor : Fin slotCount) (key : Key)
      (hreply : decodeKey (some reply) = (.none, key)) (hphase : l.phase = .active)
      (hfree : (l.records slot).state = .free) (hslot : key.slot.toNat = slot)
      (hgen : key.generation.toNat = (l.records slot).generation.toNat + 1) :
      Served l .reserve request reply
        { l.setRecord slot ⟨key, key.generation, .writing⟩ with frame, cursor }
  | published (request reply : Bytes) (key : Key) (slot : Fin slotCount)
      (hrequest : decodeKey (some (slice 0 descriptorBytes request)) = (.none, key))
      (hphase : l.phase = .active) (hkey : Current (alone l) key slot .writing) :
      Served l .publish request reply (l.setState slot .free)
  | cancelled (request reply : Bytes) (key : Key) (slot : Fin slotCount) (hphase : l.phase = .active)
      (hkey : Current (alone l) key slot .writing) :
      Served l .cancel request reply (l.setState slot .quarantined)
  | ended (request reply : Bytes) (hfree : l.allFree) :
      Served l .finish request reply { l with phase := .ready }
  | closed (request reply : Bytes) (hphase : l.phase = .dormant ∨ l.phase = .ready) :
      Served l .close request reply l
  | retired (request reply : Bytes) : Served l .retire request reply (retire l)

def Answer.Thrown {κ : Type} (a : Answer κ) : Prop :=
  (∃ fault, a.reply = .error fault) ∧ Unread a.ledger

/-- An answer that throws and leaves no reader, or has served the request. -/
def Answer.Sound {κ : Type} (a : Answer κ) (l : SlotLedger) (op : Op) (request : Bytes) : Prop :=
  a.Thrown ∨ ∃ reply, a.reply = .ok reply ∧ Served l op request reply a.ledger

/-- Why a publication was accepted: its key was that of a slot that was being written, the digest
of the private copy of the slot is the request's, and the consumer has accepted the copy. -/
def Grounds {κ ε : Type} (conn : Connection κ ε) (env : Surroundings ε) (request : Bytes)
    (l : SlotLedger) (k : κ) : Prop :=
  ∃ (key : Key) (slot : Fin slotCount) (sample : Sample) (digest : Digest),
    decodeKey (some (slice 0 descriptorBytes request)) = (.none, key) ∧
    (key.slot.toNat = slot ∧ (l.records slot).key = key ∧ (l.records slot).state = .writing) ∧
    copyPrivate conn.nonce env.slotMemory ⟨some l.self, key, true⟩ = some sample ∧
    sha256 env.hash (sample.bytes key.bytes) = some digest ∧
    digest.toList = slice descriptorBytes 32 request ∧
    (consult conn.consumer (fun c =>
      c.consume env.around ⟨some l.self, key, true⟩ (sample.bytes key.bytes)) k).1 = none

section Requests

variable {κ ε : Type} {conn : Connection κ ε} {env : Surroundings ε} {payload : Bytes}
  {l : SlotLedger} {k : κ}

theorem thrown_reject {reason : String} (h : Unread l) : (reject l k reason).Thrown :=
  ⟨⟨_, rfl⟩, h⟩

/-- The `try` block either throws and leaves the permit and the ledger as they were, or finishes the
reading, on the grounds of digest and consumer. -/
theorem readSlot_spec {key : Key} {slot : Fin slotCount}
    (h : Current (alone l) key slot .reading) (hphase : l.phase = .active) :
    let permit : ReadPermit := ⟨some l.self, key, true⟩
    (∃ fault k', readSlot conn env payload l k key permit = ⟨.error fault, permit, l, k'⟩) ∨
      ∃ sample digest permit' k', readSlot conn env payload l k key permit =
          ⟨.ok digest, permit', l.setState slot .free, k'⟩ ∧
        copyPrivate conn.nonce env.slotMemory permit = some sample ∧
        sha256 env.hash (sample.bytes key.bytes) = some digest ∧
        digest.toList = slice descriptorBytes 32 payload ∧
        (consult conn.consumer
          (fun c => c.consume env.around permit (sample.bytes key.bytes)) k).1 = none := by
  intro permit
  unfold readSlot
  cases hcopy : copyPrivate conn.nonce env.slotMemory permit with
  | none => exact .inl ⟨_, _, rfl⟩
  | some sample =>
    dsimp only
    cases hhash : sha256 env.hash (sample.bytes key.bytes) with
    | none => exact .inl ⟨_, _, rfl⟩
    | some digest =>
      dsimp only
      split_ifs with hdigest
      · exact .inl ⟨_, _, rfl⟩
      · generalize hc : consult conn.consumer
          (fun c => c.consume env.around permit (sample.bytes key.bytes)) k = verdict
        obtain ⟨fault, k'⟩ := verdict
        cases fault with
        | some fault => exact .inl ⟨_, _, rfl⟩
        | none =>
          have hfinish := finishRead_of_current h
          rw [hphase, if_neg (by decide)] at hfinish
          refine .inr ⟨sample, digest, ⟨none, {}, true⟩, k', ?_, rfl, hhash, not_not.mp hdigest, ?_⟩
          · dsimp only
            rw [hfinish]
          · rw [hc]

theorem thrown_abandon {key : Key} {slot : Fin slotCount} {fault : Fault}
    (h : Current (alone l) key slot .reading)
    (hother : ∀ slot', slot' ≠ slot → (l.records slot').state ≠ .reading) :
    (abandon l k fault ⟨some l.self, key, true⟩).Thrown := by
  have hcurrent : Current (alone (retire l)) key slot .reading := by
    have hkeep : (retire l).records slot = l.records slot := by
      simp only [retire]
      rw [if_neg (not_not.mpr h.stage)]
    exact ⟨h.names, by rw [hkeep]; exact h.lease, by rw [hkeep]; exact h.stage⟩
  have hfinish := finishRead_of_current hcurrent
  unfold abandon
  dsimp only
  rw [if_pos (show (ReadPermit.mk (some l.self) key true).active = true from rfl),
    show (some l.self) = some (retire l).self from rfl, hfinish]
  refine ⟨⟨fault, rfl⟩, fun slot' => ?_⟩
  show ((SlotLedger.setState _ slot _).records slot').state ≠ .reading
  unfold SlotLedger.setState
  by_cases hs : slot' = slot
  · rw [hs, setRecord_self]
    show (if (retire l).phase = .retired then SlotState.retired else .free) ≠ .reading
    split_ifs <;> decide
  · rw [setRecord_of_ne _ _ hs]
    simp only [retire]
    rw [if_pos (hother slot' hs)]
    simp

theorem onPublish_spec (h : Quiet l) :
    (onPublish conn env payload l k).Thrown ∨ (∃ reply, (onPublish conn env payload l k).reply = .ok reply ∧
        Served l .publish payload reply (onPublish conn env payload l k).ledger) ∧
      Grounds conn env payload l k := by
  unfold onPublish
  split_ifs with hshape
  · exact .inl (thrown_reject h.unread)
  generalize hkey : decodeKey (some (slice 0 descriptorBytes payload)) = decoded
  obtain ⟨e, key⟩ := decoded
  by_cases he : e ≠ .none
  · exact .inl (by cases e <;> first | exact absurd rfl he | exact thrown_reject h.unread)
  obtain rfl : e = .none := not_not.mp he
  dsimp only
  rcases publish_spec key l with ⟨e, he, hp⟩ | ⟨slot, hphase, hcurrent, hp⟩
  · rw [hp]
    exact .inl (by cases e <;> first | exact absurd rfl he | exact thrown_reject h.unread)
  rw [hp]
  dsimp only
  rcases beginRead_spec key {} (l.setState slot .published) with ⟨e, he, hb⟩ | ⟨slot', hread, hb⟩
  · rw [hb]
    have hunread : Unread (l.setState slot .published) := h.unread.setState slot (by decide)
    exact .inl (by cases e <;> first | exact absurd rfl he | exact thrown_reject hunread)
  obtain rfl : slot' = slot := Fin.ext (hread.names.symm.trans hcurrent.names)
  rw [hb, setState_setState, setState_self]
  dsimp only
  have hreading := current_setState hcurrent .reading
  have hspec := @readSlot_spec κ ε conn env payload _ k key slot' hreading hphase
  simp only [setState_self, setState_setState] at hspec
  rcases hspec with ⟨fault, k', hr⟩ | ⟨sample, digest, permit, k', hr, hgrounds⟩
  · -- The `catch` block, which reads under the same permit.
    rw [hr]
    refine .inl (@thrown_abandon κ _ k' key slot' fault hreading fun slot hs => ?_)
    unfold SlotLedger.setState
    rw [setRecord_of_ne _ _ hs]
    exact (h slot).2
  · rw [hr]
    refine .inr ⟨⟨_, rfl, .published _ _ key slot' hkey hphase hcurrent⟩, ⟨key, slot', sample, digest,
      hkey, ⟨hcurrent.names, hcurrent.lease, hcurrent.stage⟩, hgrounds⟩⟩

theorem consult_cases (consumer : Option (Consumer κ ε)) (callback : Consumer κ ε → κ → Verdict × κ)
    (k : κ) : (∃ fault k', consult consumer callback k = (some fault, k')) ∨
      ∃ k', consult consumer callback k = (none, k') := by
  generalize consult consumer callback k = r
  obtain ⟨fault, k'⟩ := r
  cases fault with
  | none => exact .inr ⟨k', rfl⟩
  | some fault => exact .inl ⟨fault, k', rfl⟩

theorem onHello_spec (h : Quiet l) (greeted : Bool) :
    (onHello conn env payload l k greeted).Sound l .hello payload := by
  unfold onHello
  split_ifs with h1 h2 h3 h4
  · exact .inl (thrown_reject h.unread)
  · exact .inl (thrown_reject h.unread)
  · exact .inl (thrown_reject h.unread)
  · exact .inl ⟨⟨_, rfl⟩, h.unread⟩
  · exact .inr ⟨_, rfl, .kept _ _ _ (by decide)⟩

theorem onBegin_spec (h : Quiet l) : (onBegin conn env payload l k).Sound l .begin payload := by
  unfold onBegin
  split_ifs with hshape
  · exact .inl (thrown_reject h.unread)
  dsimp only
  rcases beginEpoch_spec (getLe UInt64 0 payload) (getLe UInt64 8 payload) l with
    ⟨e, he, hb⟩ | ⟨hfree, hb⟩
  · rw [hb]
    exact .inl (by cases e <;> first | exact absurd rfl he | exact thrown_reject h.unread)
  rw [hb]
  dsimp only
  rcases consult_cases conn.consumer (fun c => c.start env.around conn.nonce
      (getLe UInt64 0 payload) (getLe UInt64 8 payload)) k with ⟨fault, k', hc⟩ | ⟨k', hc⟩
  · rw [hc]
    exact .inl ⟨⟨_, rfl⟩, h.unread⟩
  · rw [hc]
    exact .inr ⟨_, rfl, .began _ _ _ _ hfree⟩

theorem onReserve_spec (h : Quiet l) : (onReserve payload l k).Sound l .reserve payload := by
  unfold onReserve
  split_ifs with hshape hreserved
  · exact .inl (thrown_reject h.unread)
  · exact .inl (thrown_reject h.unread)
  rcases reserve_spec (getLe UInt64 0 payload) (getLe UInt32 8 payload) l with
    ⟨e, key, he, hr⟩ | ⟨slot, cursor, key, hphase, hfree, hslot, hgen, hr⟩
  · rw [hr]
    exact .inl (by cases e <;> first | exact absurd rfl he | exact thrown_reject h.unread)
  rw [hr]
  dsimp only [Option.getD_some]
  have hlen : descriptorBytes ≤ (List.replicate maxPayloadBytes (0 : UInt8)).length := by
    rw [List.length_replicate]
    decide
  rcases encodeKey_spec key hlen with ⟨e, he, hk⟩ | ⟨hshape, hk⟩
  · rw [hk]
    refine .inl ?_
    have hunread : Unread (l.setRecord slot ⟨key, key.generation, .writing⟩) := by
      intro slot'
      by_cases hs : slot' = slot
      · rw [hs, setRecord_self]
        simp
      · rw [setRecord_of_ne _ _ hs]
        exact (h slot').2
    cases e <;> first | exact absurd rfl he | exact ⟨⟨_, rfl⟩, hunread⟩
  · rw [hk]
    refine .inr ⟨_, rfl, .reserved _ _ _ slot cursor key ?_ hphase hfree hslot hgen⟩
    rw [Option.getD_some, List.take_left' (keyImage_length key)]
    exact decodeKey_keyImage hshape

theorem onCancel_spec (h : Quiet l) : (onCancel payload l k).Sound l .cancel payload := by
  unfold onCancel
  split_ifs with hshape
  · exact .inl (thrown_reject h.unread)
  generalize decodeKey (some payload) = decoded
  obtain ⟨e, key⟩ := decoded
  by_cases he : e ≠ .none
  · exact .inl (by cases e <;> first | exact absurd rfl he | exact thrown_reject h.unread)
  obtain rfl : e = .none := not_not.mp he
  dsimp only
  rcases cancelWrite_spec key l with ⟨e, he, hc⟩ | ⟨slot, hphase, hcurrent, hc⟩
  · rw [hc]
    exact .inl (by cases e <;> first | exact absurd rfl he | exact thrown_reject h.unread)
  · rw [hc]
    exact .inr ⟨_, rfl, .cancelled _ _ key slot hphase hcurrent⟩

theorem onEnd_spec (h : Quiet l) : (onEnd conn env payload l k).Sound l .finish payload := by
  unfold onEnd
  split_ifs with hshape
  · exact .inl (thrown_reject h.unread)
  rcases endEpoch_spec l with ⟨e, he, hend⟩ | ⟨hfree, hend⟩
  · rw [hend]
    exact .inl (by cases e <;> first | exact absurd rfl he | exact thrown_reject h.unread)
  rw [hend]
  dsimp only
  rcases consult_cases conn.consumer (fun c => c.finish env.around) k with
    ⟨fault, k', hc⟩ | ⟨k', hc⟩
  · rw [hc]
    exact .inl ⟨⟨_, rfl⟩, h.unread⟩
  · rw [hc]
    exact .inr ⟨_, rfl, .ended _ _ hfree⟩

theorem onClose_spec (h : Quiet l) : (onClose conn env payload l k).Sound l .close payload := by
  unfold onClose
  split_ifs with hshape hphase hdone
  · exact .inl (thrown_reject h.unread)
  · exact .inl (thrown_reject h.unread)
  · exact .inl (thrown_reject h.unread)
  rcases consult_cases conn.consumer (fun c => c.close env.around) k with
    ⟨fault, k', hc⟩ | ⟨k', hc⟩
  · rw [hc]
    exact .inl ⟨⟨_, rfl⟩, h.unread⟩
  · rw [hc]
    exact .inr ⟨_, rfl, .closed _ _ (by tauto)⟩

theorem Unread.retire (h : Unread l) (slot : Fin slotCount) :
    ((Slots.retire l).records slot).state = .retired := by
  simp only [Slots.retire]
  rw [if_pos (h slot)]

theorem onRetire_spec (h : Quiet l) : (onRetire payload l k).Sound l .retire payload := by
  have hunread : Unread (retire l) := fun slot => by rw [h.unread.retire slot]; decide
  unfold onRetire
  dsimp only
  split_ifs with hshape hdone
  · exact .inl (thrown_reject h.unread)
  · exact .inl (thrown_reject hunread)
  · exact .inr ⟨_, rfl, .retired _ _⟩

theorem answer_spec (h : Quiet l) (op : Op) (greeted : Bool) :
    (answer conn env payload l k op greeted).Sound l op payload := by
  unfold answer
  split_ifs with h1 h2 h3 h4 h5 h6 h7 h8
  · exact h1 ▸ onHello_spec h greeted
  · exact h2 ▸ onBegin_spec h
  · exact h3 ▸ onReserve_spec h
  · rcases @onPublish_spec κ ε conn env payload l k h with ht | ⟨hs, -⟩
    · exact .inl ht
    · exact h4 ▸ .inr hs
  · exact h5 ▸ onCancel_spec h
  · exact h6 ▸ onEnd_spec h
  · exact h7 ▸ onClose_spec h
  · exact h8 ▸ onRetire_spec h
  · exact .inr ⟨_, rfl, .kept _ _ _ ⟨h3, h4, h5, h7, h8⟩⟩

end Requests

end War3VK.RenderHost.SlotHost
