import War3VK.Tools.AsyncScreenshot

/-!
# What a step does to the slots

For the slots it is enough to know which slot the presenting thread works on, which one the worker works on,
and for what. A step then does one of the few things that `Move` lists.
-/

namespace War3VK.Tools.AsyncScreenshot

open Lib

/-! ## The view of the slots -/

inductive OwnerRole
  | free
  | clearing (k : Fin slotCount)
  | cleared (k : Fin slotCount)
  | preparing (k : Fin slotCount)
  | submitting (k : Fin slotCount)
  | counted (k : Fin slotCount)
  | quarantining (k : Fin slotCount)
  deriving DecidableEq, Repr

/-- What the presenting thread does with a slot, from where it stands. -/
def OwnerAt.role : OwnerAt → OwnerRole
  | .clear k _ => .clearing k
  | .free k _ => .cleared k
  | .checkSlot k _ | .allocate k _ | .storeFault k _ | .storeUnavailable k _ | .refuse k _ =>
    .preparing k
  | .submit k | .countInFlight k => .submitting k
  | .storeSubmitted k => .counted k
  | .quarantine k | .quarantineFault k | .quarantineAvailable k | .storeQuarantined k =>
    .quarantining k
  | _ => .free

inductive WorkerRole
  | free
  | looking (k : Fin slotCount)
  | condemned (k : Fin slotCount)
  | reading (k : Fin slotCount) (completed : UInt64)
  | retiring (k : Fin slotCount)
  deriving DecidableEq, Repr

def WorkerAt.role : WorkerAt → WorkerRole
  | .query k | .failFault k | .failAvailable k | .failStore k => .looking k
  | .failCount k => .condemned k
  | .save k completed | .report k completed _ | .count k completed _ => .reading k completed
  | .retire k _ _ => .retiring k
  | _ => .free

structure View where
  slots : Fin slotCount → Slot
  copies : Fin slotCount → Option Copy
  inFlight : UInt32
  owner : OwnerRole
  worker : WorkerRole

def State.view (s : State) : View := ⟨s.slots, s.copies, s.inFlight, s.owner.role, s.worker.role⟩

def View.setSlot (k : Fin slotCount) (slot : Slot) (v : View) : View :=
  { v with slots := Function.update v.slots k slot }

def View.store (k : Fin slotCount) (new : SlotState) (v : View) : View :=
  v.setSlot k { v.slots k with state := new }

def View.setCopy (k : Fin slotCount) (copy : Option Copy) (v : View) : View :=
  { v with copies := Function.update v.copies k copy }

@[grind =]
theorem View.slots_setSlot (k k' : Fin slotCount) (slot : Slot) (v : View) :
    (v.setSlot k slot).slots k' = if k' = k then slot else v.slots k' := Function.update_apply ..

@[grind =]
theorem View.slots_store (k k' : Fin slotCount) (new : SlotState) (v : View) :
    (v.store k new).slots k' = if k' = k then { v.slots k with state := new } else v.slots k' :=
  Function.update_apply ..

@[grind =]
theorem View.copies_setCopy (k k' : Fin slotCount) (copy : Option Copy) (v : View) :
    (v.setCopy k copy).copies k' = if k' = k then copy else v.copies k' := Function.update_apply ..

@[grind =]
theorem View.slots_setCopy (k k' : Fin slotCount) (copy : Option Copy) (v : View) :
    (v.setCopy k copy).slots k' = v.slots k' := rfl

@[grind =]
theorem View.copies_setSlot (k k' : Fin slotCount) (slot : Slot) (v : View) :
    (v.setSlot k slot).copies k' = v.copies k' := rfl

@[grind =]
theorem View.copies_store (k k' : Fin slotCount) (new : SlotState) (v : View) :
    (v.store k new).copies k' = v.copies k' := rfl

@[grind =]
theorem View.owner_setSlot (k : Fin slotCount) (slot : Slot) (v : View) :
    (v.setSlot k slot).owner = v.owner := rfl

@[grind =]
theorem View.owner_store (k : Fin slotCount) (new : SlotState) (v : View) :
    (v.store k new).owner = v.owner := rfl

@[grind =]
theorem View.worker_setSlot (k : Fin slotCount) (slot : Slot) (v : View) :
    (v.setSlot k slot).worker = v.worker := rfl

@[grind =]
theorem View.worker_store (k : Fin slotCount) (new : SlotState) (v : View) :
    (v.store k new).worker = v.worker := rfl

@[grind =]
theorem View.worker_setCopy (k : Fin slotCount) (copy : Option Copy) (v : View) :
    (v.setCopy k copy).worker = v.worker := rfl

def Event.Plain : Event → Prop
  | .none | .answered _ => True
  | _ => False

inductive Move (v : View) : Event → View → Prop
  | quiet (e : Event) (plain : e.Plain) : Move v e v
  | request (k) (free : (v.slots k).state = .free) : Move v (.claimed k) (v.store k .requested)
  | cancel (k) (requested : (v.slots k).state = .requested) :
    Move v (.ended k .cancelled) (v.store k .retired)
  | empty (k) (free : (v.slots k).state = .free) : Move v .none (v.store k .retired)
  -- The presenting thread.
  | release (k) (idle : v.owner = .free) (retired : (v.slots k).state = .retired) :
    Move v .none { v.store k .preparing with owner := .clearing k }
  | clear (k) (slot : Slot) (works : v.owner = .clearing k) (state : slot.state = (v.slots k).state)
    (value : slot.value = 0) : Move v .none { v.setSlot k slot with owner := .cleared k }
  | free (k) (works : v.owner = .cleared k) : Move v .none { v.store k .free with owner := .free }
  | take (k) (idle : v.owner = .free) (requested : (v.slots k).state = .requested) :
    Move v .none { v.store k .preparing with owner := .preparing k }
  | takeHistory (k) (idle : v.owner = .free) (free : (v.slots k).state = .free) :
    Move v (.claimed k) { v.store k .preparing with owner := .preparing k }
  | allocate (k) (slot : Slot) (works : v.owner = .preparing k)
    (state : slot.state = (v.slots k).state) (value : slot.value = (v.slots k).value) :
    Move v .none (v.setSlot k slot)
  | refuse (k) (works : v.owner = .preparing k) :
    Move v (.ended k .quarantined) { v.store k .quarantined with owner := .free }
  | hand (k) (slot : Slot) (copy : Copy) (works : v.owner = .preparing k)
    (state : slot.state = (v.slots k).state) (value : slot.value = (v.slots k).value + 1)
    (buffer : slot.buffer = some copy.buffer) (fence : slot.fence = some copy.fence)
    (same : slot.value = copy.value) :
    Move v (.copied k copy) { (v.setSlot k slot).setCopy k (some copy) with owner := .free }
  | submit (k) (idle : v.owner = .free) (copy : (v.copies k).isSome) :
    Move v .none { v with owner := .submitting k }
  | stamp (k) (time : ℕ) (works : v.owner = .submitting k) :
    Move v .none (v.setSlot k { v.slots k with submittedAt := time })
  | count (k) (works : v.owner = .submitting k) :
    Move v .none { v with inFlight := v.inFlight + 1, owner := .counted k }
  | submitted (k) (copy : Copy) (works : v.owner = .counted k) (held : v.copies k = some copy) :
    Move v (.submitted k copy) { (v.store k .submitted).setCopy k none with owner := .free }
  | quarantine (k) (idle : v.owner = .free) (copy : (v.copies k).isSome) :
    Move v .none { v with owner := .quarantining k }
  | quarantined (k) (works : v.owner = .quarantining k) :
    Move v (.ended k .quarantined) { (v.store k .quarantined).setCopy k none with owner := .free }
  -- The worker.
  | look (k) (idle : v.worker = .free) (submitted : (v.slots k).state = .submitted) :
    Move v .none { v with worker := .looking k }
  | pass (k) (works : v.worker = .looking k) : Move v .none { v with worker := .free }
  | observe (k) (fence : ℕ) (completed : UInt64) (works : v.worker = .looking k)
    (same : (v.slots k).fence = some fence) (pos : (v.slots k).value ≠ 0)
    (ready : (v.slots k).value ≤ completed) :
    Move v (.observed k fence completed) { v with worker := .reading k completed }
  | read (k) (completed : UInt64) (buffer : Buffer) (works : v.worker = .reading k completed)
    (same : (v.slots k).buffer = some buffer) : Move v (.read k buffer) v
  | condemn (k) (works : v.worker = .looking k) :
    Move v (.ended k .quarantined) { v.store k .quarantined with worker := .condemned k }
  | countLost (k) (works : v.worker = .condemned k) :
    Move v .none { v with inFlight := v.inFlight - 1, worker := .free }
  | countRead (k) (completed : UInt64) (works : v.worker = .reading k completed) :
    Move v .none { v with inFlight := v.inFlight - 1, worker := .retiring k }
  | retire (k) (saved : Bool) (works : v.worker = .retiring k) :
    Move v (.ended k (if saved then .saved else .failed)) { v.store k .retired with worker := .free }

variable {v : View}

theorem Move.quiet_of_eq {v' : View} (h : v' = v) {e : Event} (plain : e.Plain) : Move v e v' := by
  rw [h]
  exact Move.quiet e plain

/-! ## Where the presenting thread may stand -/

/-- Where the presenting thread works on a job of the frame history, its size is that of the source. -/
def Fits (s : State) : Prop :=
  match s.owner with
  | .claimHistory _ job => job.width = s.width ∧ job.height = s.height
  | .checkSlot _ job | .allocate _ job => ∀ j, job = some j → j.width = s.width ∧ j.height = s.height
  | _ => True

structure OwnerInv (v : View) : Prop where
  /-- A slot that is worked on without a copy is `Preparing`. -/
  working : ∀ k, v.owner = .clearing k ∨ v.owner = .cleared k ∨ v.owner = .preparing k →
    (v.slots k).state = .preparing ∧ v.copies k = none
  prepared : ∀ k, v.owner = .cleared k ∨ v.owner = .preparing k → (v.slots k).value = 0
  copied : ∀ k, v.owner = .submitting k ∨ v.owner = .counted k ∨ v.owner = .quarantining k →
    (v.copies k).isSome
  copies : ∀ k copy, v.copies k = some copy → (v.slots k).state = .preparing ∧
    (v.slots k).buffer = some copy.buffer ∧ (v.slots k).fence = some copy.fence ∧
      (v.slots k).value = copy.value
  preparing : ∀ k, (v.slots k).state = .preparing →
    v.owner = .clearing k ∨ v.owner = .cleared k ∨ v.owner = .preparing k ∨ (v.copies k).isSome
  unused : ∀ k, (v.slots k).state = .free ∨ (v.slots k).state = .requested → (v.slots k).value = 0

structure WorkerInv (v : View) : Prop where
  working : ∀ k, v.worker = .looking k ∨ (∃ completed, v.worker = .reading k completed) ∨
    v.worker = .retiring k → (v.slots k).state = .submitted
  condemned : ∀ k, v.worker = .condemned k → (v.slots k).state = .quarantined

/-! ## The steps -/

variable {s : State}

@[simp]
theorem view_resume (s : State) : s.resume.view = s.view := by
  unfold State.resume
  split <;> rename_i h <;> simp [State.view, OwnerAt.role, h]

variable {t : State} {k : Fin slotCount} {job : Option HistoryReadback}

theorem Move.resumed (h : t.view = v) : Move v .none t.resume.view := by
  rw [view_resume, h]
  exact Move.quiet .none trivial

@[simp]
theorem view_setHistory (k : Fin slotCount) (f : Readback → Readback) (s : State) :
    (s.setHistory k f).view = s.view := by
  unfold State.setHistory
  split <;> rfl

theorem move_registryStep (s : State) (at_ : RegistryAt) :
    Move s.view (s.registryStep at_).1 (s.registryStep at_).2.view := by
  cases at_ with
  | claim k =>
    unfold State.registryStep
    dsimp only
    split
    · rename_i hfree
      exact Move.request k hfree
    · exact Move.quiet _ trivial
  | cancel k =>
    unfold State.registryStep
    dsimp only
    split
    · rename_i hrequested
      exact Move.cancel k hrequested
    · exact Move.quiet _ trivial
  | countCancelled k =>
    unfold State.registryStep
    dsimp only
    split
    · exact Move.quiet _ trivial
    · exact Move.resumed rfl
  | retire k =>
    unfold State.registryStep
    dsimp only
    by_cases hfree : (s.slots k).state = .free
    · rw [if_pos hfree]
      split
      · exact Move.empty k hfree
      · rw [view_resume]
        exact Move.empty k hfree
    · rw [if_neg hfree]
      split
      · exact Move.quiet _ trivial
      · exact Move.resumed rfl
  | loadAvailable | loadFault =>
    unfold State.registryStep
    dsimp only
    split <;> exact Move.quiet _ trivial
  | countRejected | armAvailable | armFault | armSlot k | armBurst | resetAvailable | resetBurst =>
    exact Move.quiet _ trivial

theorem move_handOut (slot : Slot) {buffer : Buffer} {fence : ℕ}
    (ht : t.slots = Function.update v.slots k slot) (hcopies : t.copies = v.copies)
    (hflight : t.inFlight = v.inFlight) (hworker : t.worker.role = v.worker)
    (hworks : v.owner = .preparing k) (hstate : slot.state = (v.slots k).state)
    (hvalue : slot.value = (v.slots k).value) (hzero : slot.value = 0)
    (hbuffer : slot.buffer = some buffer) (hfence : slot.fence = some fence)
    (hwidth : slot.width = t.width) (hheight : slot.height = t.height)
    (hfit : ∀ j, job = some j → j.width = t.width ∧ j.height = t.height) :
    Move v (t.handOut k job).1 (t.handOut k job).2.view := by
  have hslot : t.slots k = slot := by rw [ht, Function.update_self]
  have hmax : slot.value ≠ uint64Max := by rw [hzero]; decide
  have hupdate : ∀ slot', Function.update t.slots k slot' = Function.update v.slots k slot' := by
    intro slot'
    rw [ht, Function.update_idem]
  cases job with
  | none =>
    have hno : ¬ (decide (slot.width ≠ t.width) || decide (slot.height ≠ t.height) ||
        decide (slot.value = uint64Max)) = true := by
      simp [hwidth, hheight, hmax]
    unfold State.handOut
    rw [hslot]
    dsimp only
    rw [hbuffer, hfence]
    dsimp only
    rw [if_neg hno]
    simp only [State.view, State.setSlot, hupdate, hcopies, hflight, hworker, OwnerAt.role]
    exact Move.hand k { slot with
      buffer := some buffer, fence := some fence
      serial := t.fileSerial + 1, presentOrdinal := t.presentOrdinal, value := slot.value + 1 }
      ⟨buffer, fence, slot.value + 1, k, t.fileSerial + 1, t.presentOrdinal⟩ hworks hstate
      (congrArg (· + 1) hvalue) rfl rfl rfl
  | some job =>
    obtain ⟨hjw, hjh⟩ := hfit job rfl
    have hno : ¬ (decide (slot.width ≠ job.width) || decide (slot.height ≠ job.height) ||
        decide (slot.value = uint64Max)) = true := by
      simp [hwidth, hheight, hmax, hjw, hjh]
    unfold State.handOut
    rw [hslot]
    dsimp only
    rw [hbuffer, hfence]
    dsimp only
    rw [if_neg hno]
    simp only [State.view, State.setSlot, State.setReadback, hupdate, hcopies, hflight, hworker, OwnerAt.role]
    exact Move.hand k { slot with
      buffer := some buffer, fence := some fence
      history := some job, serial := t.fileSerial + 1, presentOrdinal := job.present
      value := slot.value + 1 }
      ⟨buffer, fence, slot.value + 1, k, t.fileSerial + 1, job.present⟩ hworks hstate
      (congrArg (· + 1) hvalue) rfl rfl rfl

theorem move_allocateFence {slot : Slot} {buffer : Buffer} (answers : Answers)
    (ht : t.slots = Function.update v.slots k slot) (hcopies : t.copies = v.copies)
    (hflight : t.inFlight = v.inFlight) (hworker : t.worker.role = v.worker)
    (hworks : v.owner = .preparing k) (hstate : slot.state = (v.slots k).state)
    (hvalue : slot.value = (v.slots k).value) (hzero : slot.value = 0)
    (hbuffer : slot.buffer = some buffer)
    (hfit : ∀ j, job = some j → j.width = t.width ∧ j.height = t.height) :
    Move v (t.allocateFence k job answers).1 (t.allocateFence k job answers).2.view := by
  have hslot : t.slots k = slot := by rw [ht, Function.update_self]
  unfold State.allocateFence
  rw [hslot]
  dsimp only
  split
  · rename_i fence _ hfence
    exact move_handOut { slot with width := t.width, height := t.height, history := none }
      (by rw [State.setSlot, ht, Function.update_idem]) hcopies hflight hworker hworks hstate hvalue hzero
      hbuffer hfence rfl rfl hfit
  · exact move_handOut
      { slot with fence := some t.fences, width := t.width, height := t.height, history := none }
      (by rw [State.setSlot, ht, Function.update_idem]) hcopies hflight hworker hworks hstate hvalue hzero
      hbuffer rfl rfl rfl hfit
  · have hview : (t.allocationThrows k job).2.view = v.setSlot k slot := by
      simp only [State.allocationThrows, State.view, View.setSlot, OwnerAt.role, ht, hcopies, hflight, hworker,
        hworks]
    rw [hview]
    exact Move.allocate k slot hworks hstate hvalue

theorem move_allocate (bytes : UInt64) (answers : Answers) (h : OwnerInv s.view)
    (hworks : s.view.owner = .preparing k)
    (hfit : ∀ j, job = some j → j.width = s.width ∧ j.height = s.height) :
    Move s.view (s.allocate k job bytes answers).1 (s.allocate k job bytes answers).2.view := by
  have hzero : (s.slots k).value = 0 := h.prepared k (.inr hworks)
  unfold State.allocate
  dsimp only
  split
  · rename_i hsize
    obtain ⟨buffer, hbuffer, -⟩ := Option.map_eq_some_iff.mp hsize
    exact move_allocateFence answers (Function.update_eq_self k s.slots).symm rfl rfl rfl hworks rfl rfl hzero
      hbuffer hfit
  · cases answers.buffer with
    | throws =>
      refine Move.quiet_of_eq ?_ trivial
      simp only [State.allocationThrows, State.view, OwnerAt.role, ← hworks]
    | unmapped =>
      have hview : (State.allocationThrows k job { s.setSlot k { s.slots k with
          buffer := some ⟨s.buffers, bytes⟩ } with buffers := s.buffers + 1 }).2.view =
            s.view.setSlot k { s.slots k with buffer := some ⟨s.buffers, bytes⟩ } := by
        simp only [State.allocationThrows, State.view, View.setSlot, State.setSlot, OwnerAt.role]
        exact congrArg (View.mk _ _ _ · _) hworks.symm
      rw [hview]
      exact Move.allocate k _ hworks rfl rfl
    | mapped => exact move_allocateFence answers rfl rfl rfl rfl hworks rfl rfl hzero rfl hfit

@[simp]
theorem role_afterSlot (k : Fin slotCount) (after : AfterRelease) :
    (State.afterSlot k after).role = .free := by
  unfold State.afterSlot
  split <;> rfl

@[simp]
theorem role_afterScan (k : Fin slotCount) : (State.afterScan k).role = .free := by
  unfold State.afterScan
  cases State.next k <;> rfl

@[simp]
theorem role_claimNext (k : Fin slotCount) (job : HistoryReadback) :
    (Option.elim (State.next k) OwnerAt.idle fun k => .claimHistory k job).role = .free := by
  cases State.next k <;> rfl

@[simp]
theorem role_claimBurst (k : Fin slotCount) :
    (Option.elim (State.next k) OwnerAt.storeBurst OwnerAt.claimBurst).role = .free := by
  cases State.next k <;> rfl

theorem Move.owner (hslots : t.slots = s.slots) (hcopies : t.copies = s.copies)
    (hflight : t.inFlight = s.inFlight) (howner : t.owner.role = s.owner.role)
    (hworker : t.worker.role = s.worker.role) : Move s.view .none t.view := by
  refine Move.quiet_of_eq ?_ trivial
  rw [State.view, State.view, hslots, hcopies, hflight, howner, hworker]

theorem move_ownerStep (answers : Answers) (h : OwnerInv s.view) (hfits : Fits s) :
    Move s.view (s.ownerStep answers).1 (s.ownerStep answers).2.view := by
  have hrole : s.view.owner = s.owner.role := rfl
  unfold State.ownerStep
  unfold Fits at hfits
  cases howner : s.owner with
  | idle => exact Move.quiet _ trivial
  | inReset after => exact Move.quiet _ trivial
  | lockReset after =>
    dsimp only
    split
    · exact Move.owner rfl rfl rfl (by rw [howner]; rfl) rfl
    · exact Move.quiet _ trivial
  | release k after =>
    rw [howner] at hrole
    dsimp only
    split
    · rename_i hretired
      exact Move.release k hrole hretired
    · exact Move.owner rfl rfl rfl (by rw [howner]; exact role_afterSlot k after) rfl
  | clear k after =>
    rw [howner] at hrole
    exact Move.clear k { s.slots k with
      buffer := none, fence := none, value := 0, width := 0, height := 0, history := none } hrole rfl rfl
  | free k after =>
    rw [howner] at hrole
    have hmove := Move.free k hrole
    rw [← role_afterSlot k after] at hmove
    exact hmove
  | loadFault info advanceBurst =>
    dsimp only
    split
    · exact Move.owner rfl rfl rfl (by rw [howner]; rfl) rfl
    · split <;> exact Move.owner rfl rfl rfl (by rw [howner]; rfl) rfl
  | storeAvailable advanceBurst =>
    refine Move.owner rfl rfl rfl ?_ rfl
    rw [howner]
    dsimp only
    split <;> rfl
  | loadBurst =>
    refine Move.owner rfl rfl rfl ?_ rfl
    rw [howner]
    dsimp only
    split <;> rfl
  | claimBurst k =>
    dsimp only
    split
    · rename_i hfree
      have hmove := Move.request (v := s.view) k hfree
      rw [View.store, View.setSlot, show s.view.owner = OwnerAt.role .decrementBurst by rw [hrole, howner]; rfl]
        at hmove
      exact hmove
    · exact Move.owner rfl rfl rfl (by rw [howner]; exact role_claimBurst k) rfl
  | decrementBurst | storeBurst | countCancelled => exact Move.owner rfl rfl rfl (by rw [howner]; rfl) rfl
  | take k =>
    rw [howner] at hrole
    dsimp only
    split
    · rename_i hrequested
      exact Move.take k hrole hrequested
    · exact Move.owner rfl rfl rfl (by rw [howner]; rfl) rfl
  | loadHistory job =>
    refine Move.owner rfl rfl rfl ?_ rfl
    rw [howner]
    dsimp only
    split <;> rfl
  | claimHistory k job =>
    rw [howner] at hrole
    dsimp only
    split
    · rename_i hfree
      exact Move.takeHistory k hrole hfree
    · exact Move.owner rfl rfl rfl (by rw [howner]; exact role_claimNext k job) rfl
  | checkSlot k job =>
    refine Move.owner rfl rfl rfl ?_ rfl
    rw [howner]
    dsimp only
    split <;> rfl
  | allocate k job =>
    rw [howner] at hrole hfits
    dsimp only
    split
    · exact move_allocate _ answers h hrole hfits
    · exact Move.owner rfl rfl rfl (by rw [howner]; rfl) rfl
  | storeFault k job | storeUnavailable k job => exact Move.owner rfl rfl rfl (by rw [howner]; rfl) rfl
  | refuse k job =>
    rw [howner] at hrole
    have hmove := Move.refuse k hrole
    rw [show OwnerRole.free = (job.elim OwnerAt.countCancelled OwnerAt.storeDone).role by cases job <;> rfl]
      at hmove
    exact hmove
  | storeDone job => exact Move.owner rfl rfl rfl (by rw [howner]; rfl) rfl
  | submit k =>
    rw [howner] at hrole
    have hmove := Move.stamp k answers.now hrole
    rw [View.setSlot, hrole] at hmove
    exact hmove
  | countInFlight k =>
    rw [howner] at hrole
    exact Move.count k hrole
  | storeSubmitted k =>
    rw [howner] at hrole
    obtain ⟨copy, hcopy⟩ := Option.isSome_iff_exists.mp (h.copied k (.inr (.inl hrole)))
    have hcopy' : s.copies k = some copy := hcopy
    dsimp only
    rw [hcopy']
    exact Move.submitted k copy hrole hcopy
  | quarantine k =>
    refine Move.quiet_of_eq ?_ trivial
    rw [howner] at hrole
    have hsame := view_setHistory k (fun r => { r with done := true }) s
    calc _ = { (s.setHistory k fun r => { r with done := true }).view with owner := .quarantining k } := rfl
      _ = s.view := by rw [hsame, ← show s.view.owner = .quarantining k from hrole]
  | quarantineFault k | quarantineAvailable k => exact Move.owner rfl rfl rfl (by rw [howner]; rfl) rfl
  | storeQuarantined k =>
    rw [howner] at hrole
    exact Move.quarantined k hrole

theorem Move.worker (hview : t.view = s.view) {at_ : WorkerAt}
    (hworker : at_.role = s.worker.role) : Move s.view .none { t with worker := at_ }.view := by
  refine Move.quiet_of_eq ?_ trivial
  calc _ = { t.view with worker := at_.role } := rfl
    _ = s.view := by rw [hview, hworker]; rfl

theorem move_workerStep (answers : Answers) (s : State) :
    Move s.view (s.workerStep answers).1 (s.workerStep answers).2.view := by
  have hrole : s.view.worker = s.worker.role := rfl
  unfold State.workerStep
  cases hworker : s.worker with
  | top | woken =>
    refine Move.worker rfl ?_
    rw [hworker]
    split <;> rfl
  | wait => exact Move.worker rfl (by rw [hworker]; rfl)
  | exchangeRejected => exact Move.worker (t := { s with rejected := 0 }) rfl (by rw [hworker]; rfl)
  | exchangeCancelled => exact Move.worker (t := { s with cancelled := 0 }) rfl (by rw [hworker]; rfl)
  | load k =>
    rw [hworker] at hrole
    dsimp only
    by_cases hsubmitted : (s.slots k).state = .submitted
    · rw [if_pos hsubmitted]
      exact Move.look k hrole hsubmitted
    · rw [if_neg hsubmitted]
      exact Move.worker rfl (by rw [hworker]; exact role_afterScan k)
  | query k =>
    rw [hworker] at hrole
    dsimp only
    split
    · exact Move.worker rfl (by rw [hworker]; rfl)
    · rename_i fence hfence
      split_ifs with hfailed hready hlate
      · exact Move.worker rfl (by rw [hworker]; rfl)
      · simp only [readable, Bool.and_eq_true, decide_eq_true_eq] at hready
        have hmove := Move.observe k fence answers.completed hrole hfence hready.1.2 hready.2
        rw [← view_setHistory k (fun r => { r with observedValue := answers.completed }) s] at hmove
        rw [← view_setHistory k (fun r => { r with observedValue := answers.completed }) s]
        exact hmove
      · exact Move.worker rfl (by rw [hworker]; rfl)
      · have hmove := Move.pass k hrole
        rw [← role_afterScan k] at hmove
        exact hmove
  | failFault k => exact Move.worker (t := { s with fault := true }) rfl (by rw [hworker]; rfl)
  | failAvailable k => exact Move.worker (t := { s with available := false }) rfl (by rw [hworker]; rfl)
  | failStore k =>
    rw [hworker] at hrole
    exact Move.condemn k hrole
  | failCount k =>
    rw [hworker] at hrole
    exact Move.countLost k hrole
  | failHistory k =>
    exact Move.worker (view_setHistory k _ s) (by rw [hworker]; exact role_afterScan k)
  | save k completed =>
    rw [hworker] at hrole
    dsimp only
    split
    · exact Move.worker rfl (by rw [hworker]; rfl)
    · rename_i buffer _ hbuffer
      exact Move.read k completed buffer hrole hbuffer
    · exact Move.worker rfl (by rw [hworker]; rfl)
  | report k completed saved => exact Move.worker (view_setHistory k _ s) (by rw [hworker]; rfl)
  | count k completed saved =>
    rw [hworker] at hrole
    exact Move.countRead k completed hrole
  | retire k completed saved =>
    rw [hworker] at hrole
    have hmove := Move.retire k saved hrole
    rw [← role_afterScan k] at hmove
    exact hmove
  | stopped => exact Move.quiet _ trivial

theorem move_enter (at_ : OwnerAt) (h : at_.role = .free) :
    Move s.view (s.enter at_).1 (s.enter at_).2.view := by
  unfold State.enter
  dsimp only
  split
  · rename_i hidle
    exact Move.owner rfl rfl rfl (by rw [h, hidle]; rfl) rfl
  · exact Move.quiet _ trivial

theorem move_lock (at_ : RegistryAt) : Move s.view (s.lock at_).1 (s.lock at_).2.view := by
  unfold State.lock
  dsimp only
  split <;> exact Move.quiet _ trivial

theorem move_step (call : Call) (h : OwnerInv s.view) (hfits : Fits s) :
    Move s.view (State.step call s).1 (State.step call s).2.view := by
  unfold State.step
  cases call with
  | request | armBurst | reset => exact move_lock _
  | registry =>
    dsimp only
    cases s.registry with
    | none => exact Move.quiet _ trivial
    | some at_ => exact move_registryStep s at_
  | ownerReset | prepare info advanceBurst | take k | takeHistory job => exact move_enter _ rfl
  | beginPresent =>
    dsimp only
    split
    · rename_i hidle
      exact Move.owner rfl rfl rfl (by rw [hidle]; rfl) rfl
    · exact Move.quiet _ trivial
  | submitted k =>
    dsimp only
    split
    · rename_i hcopy
      unfold State.enter
      dsimp only
      split
      · rename_i hidle
        exact Move.submit k (congrArg OwnerAt.role hidle) hcopy
      · exact Move.quiet _ trivial
    · exact Move.quiet _ trivial
  | quarantine k =>
    dsimp only
    split
    · rename_i hcopy
      unfold State.enter
      dsimp only
      split
      · rename_i hidle
        exact Move.quarantine k (congrArg OwnerAt.role hidle) hcopy
      · exact Move.quiet _ trivial
    · exact Move.quiet _ trivial
  | owner answers => exact move_ownerStep answers h hfits
  | worker answers => exact move_workerStep answers s
  | stop => exact Move.quiet _ trivial

end War3VK.Tools.AsyncScreenshot
