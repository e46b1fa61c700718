import Mathlib.Algebra.BigOperators.Fin
import Mathlib.Algebra.Order.BigOperators.Group.Finset
import War3VK.Tools.AsyncScreenshotMoves

/-!
# What the screenshot slots promise

Over every order of the steps of all threads the buffer of a slot is read only while it is submitted and
after its fence reached the value of that submission. A submitted slot is left alone until the worker
retires or quarantines it, and a quarantined one for good.
-/

namespace War3VK.Tools.AsyncScreenshot

open Lib

variable {v v' : View} {e : Event}

/-! ## The invariants -/

variable {k : Fin slotCount}

theorem OwnerInv.copies_eq_none (h : OwnerInv v) (hk : (v.slots k).state ≠ .preparing) :
    v.copies k = none := by
  cases hc : v.copies k with
  | none => rfl
  | some copy => exact absurd (h.copies k copy hc).1 hk

theorem OwnerInv.store (h : OwnerInv v) (k : Fin slotCount) (new : SlotState)
    (hold : (v.slots k).state ≠ .preparing) (hnew : new ≠ .preparing)
    (hvalue : new = .free ∨ new = .requested → (v.slots k).value = 0) : OwnerInv (v.store k new) := by
  obtain ⟨working, prepared, copied, copies, preparing, unused⟩ := h
  constructor <;> intro k' <;> rcases eq_or_ne k' k with rfl | hk <;> grind

theorem OwnerInv.move (h : OwnerInv v) (hw : WorkerInv v) (m : Move v e v') : OwnerInv v' := by
  have hnone := fun k => h.copies_eq_none (k := k)
  cases m with
  | quiet => exact h
  | request k free => exact h.store k _ (by simp [free]) (by simp) fun _ => h.unused k (.inl free)
  | cancel k requested => exact h.store k _ (by simp [requested]) (by simp) (by simp)
  | empty k free => exact h.store k _ (by simp [free]) (by simp) (by simp)
  | condemn k works =>
    have hstore := h.store k .quarantined (by simp [hw.working k (.inl works)]) (by simp) (by simp)
    exact ⟨hstore.working, hstore.prepared, hstore.copied, hstore.copies, hstore.preparing, hstore.unused⟩
  | retire k saved works =>
    have hstore := h.store k .retired (by simp [hw.working k (.inr (.inr works))]) (by simp)
      (by simp)
    exact ⟨hstore.working, hstore.prepared, hstore.copied, hstore.copies, hstore.preparing, hstore.unused⟩
  | look | pass | observe | read | countLost | countRead =>
    exact ⟨h.working, h.prepared, h.copied, h.copies, h.preparing, h.unused⟩
  | release | clear | free | take | takeHistory | allocate | refuse | hand | submit | stamp | count
  | submitted | quarantine | quarantined =>
    -- The slot that is worked on and the others.
    obtain ⟨working, prepared, copied, copies, preparing, unused⟩ := h
    constructor <;> grind

theorem WorkerInv.setSlot (h : WorkerInv v) {slot : Slot}
    (hsubmitted : (v.slots k).state ≠ .submitted)
    (hquarantined : (v.slots k).state ≠ .quarantined)
    (hslots : v'.slots = (v.setSlot k slot).slots) (hworker : v'.worker = v.worker) :
    WorkerInv v' := by
  have hother : ∀ k' : Fin slotCount, (v.slots k').state = .submitted ∨ (v.slots k').state = .quarantined →
      v'.slots k' = v.slots k' := by
    intro k' hk'
    have hne : k' ≠ k := by
      rintro rfl
      exact hk'.elim hsubmitted hquarantined
    rw [hslots, View.slots_setSlot, if_neg hne]
  constructor
  · intro k' hk'
    rw [hworker] at hk'
    rw [hother k' (.inl (h.working k' hk')), h.working k' hk']
  · intro k' hk'
    rw [hworker] at hk'
    rw [hother k' (.inr (h.condemned k' hk')), h.condemned k' hk']

theorem WorkerInv.move (h : OwnerInv v) (hw : WorkerInv v) (m : Move v e v') : WorkerInv v' := by
  cases m with
  | quiet | submit | count | quarantine => exact ⟨hw.working, hw.condemned⟩
  | request k free | empty k free | takeHistory k idle free =>
    exact hw.setSlot (k := k) (by simp [free]) (by simp [free]) rfl rfl
  | cancel k requested | take k idle requested =>
    exact hw.setSlot (k := k) (by simp [requested]) (by simp [requested]) rfl rfl
  | release k idle retired => exact hw.setSlot (k := k) (by simp [retired]) (by simp [retired]) rfl rfl
  | clear k slot works =>
    have hstate := (h.working k (.inl works)).1
    exact hw.setSlot (k := k) (by simp [hstate]) (by simp [hstate]) rfl rfl
  | free k works =>
    have hstate := (h.working k (.inr (.inl works))).1
    exact hw.setSlot (k := k) (by simp [hstate]) (by simp [hstate]) rfl rfl
  | allocate k slot works | refuse k works | hand k slot copy works =>
    have hstate := (h.working k (.inr (.inr works))).1
    exact hw.setSlot (k := k) (by simp [hstate]) (by simp [hstate]) rfl rfl
  | stamp k time works =>
    obtain ⟨copy, hcopy⟩ := Option.isSome_iff_exists.mp (h.copied k (.inl works))
    have hstate := (h.copies k copy hcopy).1
    exact hw.setSlot (k := k) (by simp [hstate]) (by simp [hstate]) rfl rfl
  | submitted k copy works held =>
    have hstate := (h.copies k copy held).1
    exact hw.setSlot (k := k) (by simp [hstate]) (by simp [hstate]) rfl rfl
  | quarantined k works =>
    obtain ⟨copy, hcopy⟩ := Option.isSome_iff_exists.mp (h.copied k (.inr (.inr works)))
    have hstate := (h.copies k copy hcopy).1
    exact hw.setSlot (k := k) (by simp [hstate]) (by simp [hstate]) rfl rfl
  | look | pass | observe | read | condemn | countLost | countRead | retire =>
    obtain ⟨working, condemned⟩ := hw
    constructor <;> grind

/-! ## What happens to one slot -/

def Event.Touches (k : Fin slotCount) : Event → Prop
  | .copied k' _ | .submitted k' _ | .ended k' _ => k' = k
  | _ => False

theorem OwnerInv.state_of_works (h : OwnerInv v)
    (hk : v.owner = .clearing k ∨ v.owner = .cleared k ∨ v.owner = .preparing k ∨ v.owner = .submitting k ∨
      v.owner = .counted k ∨ v.owner = .quarantining k) : (v.slots k).state = .preparing := by
  have hcopied : ∀ {k}, (v.copies k).isSome → (v.slots k).state = .preparing := by
    intro k hk
    obtain ⟨copy, hcopy⟩ := Option.isSome_iff_exists.mp hk
    exact (h.copies k copy hcopy).1
  rcases hk with hk | hk | hk | hk | hk | hk
  · exact (h.working k (.inl hk)).1
  · exact (h.working k (.inr (.inl hk))).1
  · exact (h.working k (.inr (.inr hk))).1
  · exact hcopied (h.copied k (.inl hk))
  · exact hcopied (h.copied k (.inr (.inl hk)))
  · exact hcopied (h.copied k (.inr (.inr hk)))

theorem Event.Plain.not_touches (h : e.Plain) (k : Fin slotCount) : ¬ e.Touches k := by
  cases e <;> simp_all [Event.Plain, Event.Touches]

theorem Move.of_submitted (h : OwnerInv v) (m : Move v e v') (hk : (v.slots k).state = .submitted) :
    (v'.slots k = v.slots k ∧ ¬ e.Touches k) ∨
      v'.worker ≠ v.worker ∧ ∃ new, (new = .retired ∨ new = .quarantined) ∧
        v'.slots k = { v.slots k with state := new } := by
  have hworks := fun k => h.state_of_works (k := k)
  clear h
  cases m with
  | quiet e plain => exact .inl ⟨rfl, plain.not_touches k⟩
  | _ => grind [Event.Touches]

theorem Move.of_quarantined (h : OwnerInv v) (hw : WorkerInv v) (m : Move v e v')
    (hk : (v.slots k).state = .quarantined) : v'.slots k = v.slots k ∧ ¬ e.Touches k := by
  have hworks := fun k => h.state_of_works (k := k)
  have hlooks := hw.working
  clear h hw
  cases m with
  | quiet e plain => exact ⟨rfl, plain.not_touches k⟩
  | _ => grind [Event.Touches]

theorem Move.to_submitted (h : OwnerInv v) (m : Move v e v')
    (hk : (v'.slots k).state = .submitted) :
    (v.slots k).state = .submitted ∨ ∃ copy, e = .submitted k copy ∧ v.copies k = some copy ∧
      (v'.slots k).buffer = some copy.buffer ∧ (v'.slots k).fence = some copy.fence ∧
        (v'.slots k).value = copy.value := by
  have hworks := fun k => h.state_of_works (k := k)
  have hcopies := h.copies
  clear h
  cases m <;> grind

variable {copy : Copy}

theorem Move.to_copy (h : OwnerInv v) (hw : WorkerInv v) (m : Move v e v')
    (hk : v'.copies k = some copy) :
    e = .copied k copy ∨ v.copies k = some copy ∧ ¬ e.Touches k := by
  have hstate := fun k copy hc => (h.copies k copy hc).1
  have hlooks := hw.working
  have hnone := h.working
  clear h hw
  cases m with
  | quiet e plain => exact .inr ⟨hk, plain.not_touches k⟩
  | _ => grind [Event.Touches]

theorem Move.to_reading (m : Move v e v') {completed : UInt64}
    (hk : v'.worker = .reading k completed) :
    v.worker = .reading k completed ∨ v.worker = .looking k ∧ ∃ fence, e = .observed k fence completed ∧
      (v.slots k).fence = some fence ∧ (v.slots k).value ≠ 0 ∧ (v.slots k).value ≤ completed := by
  cases m <;> grind

def View.Pending (v : View) (k : Fin slotCount) : Prop :=
  (v.slots k).state = .requested ∨ (v.slots k).state = .submitted ∨
    (v.slots k).state = .preparing ∧ v.owner ≠ .clearing k ∧ v.owner ≠ .cleared k

theorem Move.of_claimed (m : Move v e v') (he : e = .claimed k) : ¬ v.Pending k ∧ v'.Pending k := by
  cases m <;> grind [View.Pending, Event.Plain]

theorem Move.of_ended (h : OwnerInv v) (hw : WorkerInv v) (m : Move v e v') {how : End}
    (he : e = .ended k how) : v.Pending k ∧ ¬ v'.Pending k := by
  have hworks := fun k => h.state_of_works (k := k)
  have hlooks := hw.working
  clear h hw
  cases m <;> grind [View.Pending, Event.Plain]

theorem Move.pending_iff (h : OwnerInv v) (hw : WorkerInv v) (m : Move v e v')
    (hclaimed : e ≠ .claimed k) (hended : ∀ how, e ≠ .ended k how) :
    v'.Pending k ↔ v.Pending k := by
  have hworks := fun k => h.state_of_works (k := k)
  have hlooks := hw.working
  clear h hw
  cases m <;> grind [View.Pending, Event.Plain]

/-! ## The count -/

def View.submittedCount (v : View) : ℕ := ∑ k, if (v.slots k).state = .submitted then 1 else 0

theorem submittedCount_setSlot (k : Fin slotCount) (slot : Slot) (v : View) :
    (v.setSlot k slot).submittedCount + (if (v.slots k).state = .submitted then 1 else 0) =
      v.submittedCount + if slot.state = .submitted then 1 else 0 := by
  have hsplit : ∀ slots : Fin slotCount → Slot, ∑ i, (if (slots i).state = .submitted then 1 else 0) =
      (if (slots k).state = .submitted then 1 else 0) +
        ∑ i ∈ Finset.univ.erase k, if (slots i).state = .submitted then 1 else 0 :=
    fun slots => (Finset.add_sum_erase _ _ (Finset.mem_univ k)).symm
  have hrest : (∑ i ∈ Finset.univ.erase k, if ((v.setSlot k slot).slots i).state = .submitted then 1 else 0) =
      ∑ i ∈ Finset.univ.erase k, if (v.slots i).state = .submitted then 1 else 0 := by
    refine Finset.sum_congr rfl fun i hi => ?_
    rw [View.slots_setSlot, if_neg (Finset.ne_of_mem_erase hi)]
  rw [View.submittedCount, View.submittedCount, hsplit, hsplit v.slots, hrest, View.slots_setSlot, if_pos rfl]
  omega

theorem submittedCount_le (v : View) : v.submittedCount ≤ slotCount := by
  calc v.submittedCount ≤ ∑ _k : Fin slotCount, 1 := Finset.sum_le_sum fun k _ => by split <;> omega
    _ = slotCount := by simp

theorem submittedCount_setSlot_of_ne {slot : Slot} (hold : (v.slots k).state ≠ .submitted)
    (hnew : slot.state ≠ .submitted) : (v.setSlot k slot).submittedCount = v.submittedCount := by
  have hcount := submittedCount_setSlot k slot v
  rwa [if_neg hold, if_neg hnew] at hcount

theorem submittedCount_submit (hold : (v.slots k).state ≠ .submitted) :
    (v.store k .submitted).submittedCount = v.submittedCount + 1 := by
  have hcount := submittedCount_setSlot k { v.slots k with state := .submitted } v
  rwa [if_neg hold, if_pos rfl] at hcount

theorem submittedCount_end (new : SlotState) (hold : (v.slots k).state = .submitted)
    (hnew : new ≠ .submitted) : (v.store k new).submittedCount + 1 = v.submittedCount := by
  have hcount := submittedCount_setSlot k { v.slots k with state := new } v
  rwa [if_pos hold, if_neg hnew] at hcount

def OwnerRole.ahead : OwnerRole → ℕ
  | .counted _ => 1
  | _ => 0

def WorkerRole.ahead : WorkerRole → ℕ
  | .condemned _ => 1
  | _ => 0

def WorkerRole.behind : WorkerRole → ℕ
  | .retiring _ => 1
  | _ => 0

/-- The count agrees with the slots, up to what the threads are about to do. -/
def CountInv (v : View) : Prop :=
  ∃ n : ℕ, v.inFlight = UInt32.ofNat n ∧
    n + v.worker.behind = v.submittedCount + v.owner.ahead + v.worker.ahead

theorem CountInv.move (h : OwnerInv v) (hw : WorkerInv v) (hc : CountInv v) (m : Move v e v') : CountInv v' := by
  obtain ⟨n, hn, hcount⟩ := hc
  have hworks := fun k => h.state_of_works (k := k)
  -- A step that neither counts nor submits nor takes a submission back.
  have hframe : ∀ {k slot}, (v.slots k).state ≠ .submitted → slot.state ≠ .submitted →
      v'.slots = (v.setSlot k slot).slots → v'.inFlight = v.inFlight → v'.owner.ahead = v.owner.ahead →
        v'.worker = v.worker → CountInv v' := by
    intro k slot hold hnew hslots hflight howner hworker
    refine ⟨n, by rw [hflight, hn], ?_⟩
    have hsame : v'.submittedCount = (v.setSlot k slot).submittedCount := by
      rw [View.submittedCount, View.submittedCount, hslots]
    rw [hsame, submittedCount_setSlot_of_ne hold hnew, hworker, howner, hcount]
  cases m with
  | quiet => exact ⟨n, hn, hcount⟩
  | request k free | empty k free => exact hframe (k := k) (by simp [free]) (by simp) rfl rfl rfl rfl
  | cancel k requested => exact hframe (k := k) (by simp [requested]) (by simp) rfl rfl rfl rfl
  | release k idle retired => exact hframe (k := k) (by simp [retired]) (by simp) rfl rfl (by rw [idle]; rfl) rfl
  | clear k slot works state =>
    have hold : (v.slots k).state ≠ .submitted := by simp [hworks k (.inl works)]
    exact hframe hold (by rwa [state]) rfl rfl (by rw [works]; rfl) rfl
  | free k works =>
    exact hframe (k := k) (by simp [hworks k (.inr (.inl works))]) (by simp) rfl rfl (by rw [works]; rfl) rfl
  | take k idle requested =>
    exact hframe (k := k) (by simp [requested]) (by simp) rfl rfl (by rw [idle]; rfl) rfl
  | takeHistory k idle free =>
    exact hframe (k := k) (by simp [free]) (by simp) rfl rfl (by rw [idle]; rfl) rfl
  | allocate k slot works state =>
    have hold : (v.slots k).state ≠ .submitted := by simp [hworks k (.inr (.inr (.inl works)))]
    exact hframe hold (by rwa [state]) rfl rfl rfl rfl
  | refuse k works =>
    exact hframe (k := k) (by simp [hworks k (.inr (.inr (.inl works)))]) (by simp) rfl rfl (by rw [works]; rfl)
      rfl
  | hand k slot copy works state =>
    have hold : (v.slots k).state ≠ .submitted := by simp [hworks k (.inr (.inr (.inl works)))]
    exact hframe hold (by rwa [state]) rfl rfl (by rw [works]; rfl) rfl
  | submit k idle | quarantine k idle =>
    refine ⟨n, hn, ?_⟩
    rw [idle] at hcount
    exact hcount
  | stamp k time works =>
    have hold : (v.slots k).state ≠ .submitted := by simp [hworks k (.inr (.inr (.inr (.inl works))))]
    exact hframe hold (by exact hold) rfl rfl rfl rfl
  | count k works =>
    -- The submission is counted before it is published.
    refine ⟨n + 1, by simp [hn], ?_⟩
    rw [works] at hcount
    simp only [OwnerRole.ahead] at hcount
    show n + 1 + v.worker.behind = v.submittedCount + 1 + v.worker.ahead
    omega
  | submitted k copy works held =>
    refine ⟨n, hn, ?_⟩
    have hsubmit := submittedCount_submit (v := v) (k := k)
      (by simp [hworks k (.inr (.inr (.inr (.inr (.inl works)))))])
    rw [works] at hcount
    simp only [OwnerRole.ahead] at hcount
    show n + v.worker.behind = (v.store k .submitted).submittedCount + 0 + v.worker.ahead
    omega
  | quarantined k works =>
    exact hframe (k := k) (by simp [hworks k (.inr (.inr (.inr (.inr (.inr works)))))]) (by simp) rfl rfl
      (by rw [works]; rfl) rfl
  | look k idle | pass k idle | observe k fence completed idle =>
    refine ⟨n, hn, ?_⟩
    rw [idle] at hcount
    exact hcount
  | read => exact ⟨n, hn, hcount⟩
  | condemn k works =>
    -- The slot is quarantined before the count follows.
    refine ⟨n, hn, ?_⟩
    have hend := submittedCount_end .quarantined (hw.working k (.inl works)) (by simp)
    rw [works] at hcount
    simp only [WorkerRole.ahead, WorkerRole.behind] at hcount
    show n + 0 = (v.store k .quarantined).submittedCount + v.owner.ahead + 1
    omega
  | countLost k works =>
    rw [works] at hcount
    simp only [WorkerRole.ahead, WorkerRole.behind] at hcount
    refine ⟨n - 1, ?_, ?_⟩
    · have hpred : n = n - 1 + 1 := by omega
      rw [hn, hpred]
      simp
    · show n - 1 + 0 = v.submittedCount + v.owner.ahead + 0
      omega
  | countRead k completed works =>
    -- The slot is still submitted, so that there is one to take off.
    have hpos : 0 < v.submittedCount := by
      have hend := submittedCount_end .retired (hw.working k (.inr (.inl ⟨_, works⟩))) (by simp)
      omega
    rw [works] at hcount
    simp only [WorkerRole.ahead, WorkerRole.behind] at hcount
    refine ⟨n - 1, ?_, ?_⟩
    · have hpred : n = n - 1 + 1 := by omega
      rw [hn, hpred]
      simp
    · show n - 1 + 1 = v.submittedCount + v.owner.ahead + 0
      omega
  | retire k saved works =>
    refine ⟨n, hn, ?_⟩
    have hend := submittedCount_end .retired (hw.working k (.inr (.inr works))) (by simp)
    rw [works] at hcount
    simp only [WorkerRole.ahead, WorkerRole.behind] at hcount
    show n + 0 = (v.store k .retired).submittedCount + v.owner.ahead + 0
    omega

/-! ## What happened to a slot -/

abbrev Happened := Record State Call Event

/-- A copy was taken of the slot, and nothing touched the slot since. -/
def Taken (past : List Happened) (k : Fin slotCount) (copy : Copy) : Prop :=
  ∃ first r rest, past = first ++ r :: rest ∧ r.output = .copied k copy ∧
    ∀ x ∈ rest, ¬ x.output.Touches k

/-- The copy that was taken last was submitted in the slot, and nothing touched the slot since. -/
def InFlight (past : List Happened) (k : Fin slotCount) (copy : Copy) : Prop :=
  ∃ first r rest, past = first ++ r :: rest ∧ Taken first k copy ∧ r.output = .submitted k copy ∧
    ∀ x ∈ rest, ¬ x.output.Touches k

/-- The copy that was taken last was submitted in the slot, its fence was observed at its value or above, and
nothing touched the slot since it was submitted. -/
def Complete (past : List Happened) (k : Fin slotCount) (copy : Copy) : Prop :=
  ∃ first r middle o rest completed, past = first ++ r :: (middle ++ o :: rest) ∧ Taken first k copy ∧
    r.output = .submitted k copy ∧ o.output = .observed k copy.fence completed ∧ copy.value ≤ completed ∧
      (∀ x ∈ middle, ¬ x.output.Touches k) ∧ ∀ x ∈ rest, ¬ x.output.Touches k

variable {past : List Happened} {r : Happened}

theorem Taken.concat (h : Taken past k copy) (hr : ¬ r.output.Touches k) :
    Taken (past ++ [r]) k copy := by
  obtain ⟨first, s, rest, rfl, hs, hrest⟩ := h
  refine ⟨first, s, rest ++ [r], by simp, hs, ?_⟩
  rw [List.forall_mem_append]
  exact ⟨hrest, by simpa using hr⟩

theorem InFlight.concat (h : InFlight past k copy) (hr : ¬ r.output.Touches k) :
    InFlight (past ++ [r]) k copy := by
  obtain ⟨first, s, rest, rfl, htaken, hs, hrest⟩ := h
  refine ⟨first, s, rest ++ [r], by simp, htaken, hs, ?_⟩
  rw [List.forall_mem_append]
  exact ⟨hrest, by simpa using hr⟩

theorem Complete.concat (h : Complete past k copy) (hr : ¬ r.output.Touches k) :
    Complete (past ++ [r]) k copy := by
  obtain ⟨first, s, middle, o, rest, completed, rfl, htaken, hs, ho, hle, hmiddle, hrest⟩ := h
  refine ⟨first, s, middle, o, rest ++ [r], completed, by simp, htaken, hs, ho, hle, hmiddle, ?_⟩
  rw [List.forall_mem_append]
  exact ⟨hrest, by simpa using hr⟩

theorem InFlight.observed (h : InFlight past k copy) {completed : UInt64}
    (hr : r.output = .observed k copy.fence completed) (hle : copy.value ≤ completed) :
    Complete (past ++ [r]) k copy := by
  obtain ⟨first, s, rest, rfl, htaken, hs, hrest⟩ := h
  exact ⟨first, s, rest, r, [], completed, by simp, htaken, hs, hr, hle, hrest, by simp⟩

def Slot.Holds (slot : Slot) (copy : Copy) : Prop :=
  slot.buffer = some copy.buffer ∧ slot.fence = some copy.fence ∧ slot.value = copy.value

structure Inv (s : State) (past : List Happened) : Prop where
  owner : OwnerInv s.view
  worker : WorkerInv s.view
  count : CountInv s.view
  fits : Fits s
  taken : ∀ k copy, s.copies k = some copy → Taken past k copy
  inFlight : ∀ k, (s.slots k).state = .submitted → ∃ copy, InFlight past k copy ∧ (s.slots k).Holds copy
  complete : ∀ k completed, s.view.worker = .reading k completed →
    ∃ copy, Complete past k copy ∧ (s.slots k).Holds copy

/-! ### The job of the presenting thread -/

variable {s t : State}

theorem Fits.congr (h : Fits s) (howner : t.owner = s.owner) (hwidth : t.width = s.width)
    (hheight : t.height = s.height) : Fits t := by
  unfold Fits at h ⊢
  rwa [howner, hwidth, hheight]

theorem fits_resume (h : Fits s) : Fits s.resume := by
  unfold State.resume
  split
  · trivial
  · trivial
  · exact h

theorem fits_setHistory (k : Fin slotCount) (f : Readback → Readback) (h : Fits s) :
    Fits (s.setHistory k f) := by
  unfold State.setHistory
  split <;> exact h.congr rfl rfl rfl

theorem fits_registryStep (h : Fits s) (at_ : RegistryAt) : Fits (s.registryStep at_).2 := by
  unfold State.registryStep
  cases at_ with
  | loadAvailable | loadFault | claim k | cancel k =>
    dsimp only
    split <;> exact h.congr rfl rfl rfl
  | countCancelled k =>
    dsimp only
    split
    · exact h.congr rfl rfl rfl
    · exact fits_resume (h.congr rfl rfl rfl)
  | retire k =>
    dsimp only
    by_cases hfree : (s.slots k).state = .free
    · rw [if_pos hfree]
      split
      · exact h.congr rfl rfl rfl
      · exact fits_resume (h.congr rfl rfl rfl)
    · rw [if_neg hfree]
      split
      · exact h.congr rfl rfl rfl
      · exact fits_resume (h.congr rfl rfl rfl)
  | countRejected | armAvailable | armFault | armSlot k | armBurst | resetAvailable | resetBurst =>
    exact h.congr rfl rfl rfl

theorem fits_workerStep (h : Fits s) (answers : Answers) : Fits (s.workerStep answers).2 := by
  unfold State.workerStep
  cases s.worker with
  | query k =>
    dsimp only
    split
    · exact h.congr rfl rfl rfl
    · split_ifs
      · exact h.congr rfl rfl rfl
      · exact (fits_setHistory k _ h).congr rfl rfl rfl
      · exact h.congr rfl rfl rfl
      · exact h.congr rfl rfl rfl
  | failHistory k | report k completed saved => exact (fits_setHistory k _ h).congr rfl rfl rfl
  | save k completed =>
    dsimp only
    split <;> exact h.congr rfl rfl rfl
  | top | wait | woken | exchangeRejected | exchangeCancelled | load k | failFault k | failAvailable k
  | failStore k | failCount k | count k completed saved | retire k completed saved | stopped =>
    exact h.congr rfl rfl rfl

theorem fits_claimNext (k : Fin slotCount) (job : HistoryReadback)
    (hfit : job.width = t.width ∧ job.height = t.height) :
    Fits { t with owner := (State.next k).elim .idle fun k => .claimHistory k job } := by
  cases State.next k with
  | none => exact trivial
  | some k' => exact hfit

theorem fits_afterSlot (k : Fin slotCount) (after : AfterRelease) :
    Fits { t with owner := State.afterSlot k after } := by
  unfold State.afterSlot
  cases State.next k with
  | none => cases after <;> exact trivial
  | some k' => exact trivial

theorem fits_handOut (k : Fin slotCount) {job : Option HistoryReadback}
    (hfit : ∀ j, job = some j → j.width = t.width ∧ j.height = t.height) :
    Fits (t.handOut k job).2 := by
  unfold State.handOut
  dsimp only
  split
  · split <;> exact trivial
  · split
    · exact fits_claimNext (t := t.store k .retired) k _ (hfit _ rfl)
    · exact trivial
  · exact trivial
  · exact fits_claimNext (t := t.store k .retired) k _ (hfit _ rfl)

theorem fits_allocateFence (k : Fin slotCount) {job : Option HistoryReadback} (answers : Answers)
    (hfit : ∀ j, job = some j → j.width = t.width ∧ j.height = t.height) :
    Fits (t.allocateFence k job answers).2 := by
  unfold State.allocateFence
  dsimp only
  split
  · exact fits_handOut k hfit
  · exact fits_handOut k hfit
  · exact trivial

theorem fits_ownerStep (h : Fits s) (answers : Answers) : Fits (s.ownerStep answers).2 := by
  have hsame := h
  unfold Fits at hsame
  unfold State.ownerStep
  cases howner : s.owner with
  | idle | inReset after => exact h
  | lockReset after =>
    dsimp only
    split
    · exact trivial
    · exact h
  | release k after =>
    dsimp only
    split
    · exact trivial
    · exact fits_afterSlot k after
  | free k after => exact fits_afterSlot (t := s.store k .free) k after
  | loadFault info advanceBurst =>
    dsimp only
    split
    · exact trivial
    · split <;> exact trivial
  | storeAvailable advanceBurst => cases advanceBurst <;> exact trivial
  | loadBurst =>
    dsimp only
    split <;> exact trivial
  | claimBurst k =>
    dsimp only
    split
    · exact trivial
    · cases State.next k <;> exact trivial
  | take k =>
    dsimp only
    split
    · exact fun j hj => (nomatch hj)
    · exact trivial
  | loadHistory job =>
    -- The job is taken up if its size is that of the source.
    dsimp only
    split
    · exact trivial
    · rename_i hcheck
      simp only [Bool.or_eq_true, decide_eq_true_eq, not_or, not_not] at hcheck
      exact ⟨hcheck.1.1.2, hcheck.1.2⟩
  | claimHistory k job =>
    rw [howner] at hsame
    dsimp only
    split
    · intro j hj
      cases hj
      exact hsame
    · exact fits_claimNext k job hsame
  | checkSlot k job =>
    rw [howner] at hsame
    dsimp only
    split
    · exact trivial
    · exact hsame
  | allocate k job =>
    rw [howner] at hsame
    dsimp only
    split
    · unfold State.allocate
      dsimp only
      split
      · exact fits_allocateFence k answers hsame
      · cases answers.buffer with
        | throws | unmapped => exact trivial
        | mapped => exact fits_allocateFence k answers hsame
    · exact trivial
  | refuse k job => cases job <;> exact trivial
  | clear | decrementBurst | storeBurst | countCancelled | storeFault | storeUnavailable | storeDone | submit
  | countInFlight | storeSubmitted | quarantine | quarantineFault | quarantineAvailable | storeQuarantined =>
    exact trivial

theorem fits_enter (h : Fits s) (at_ : OwnerAt) (hat : ∀ t : State, Fits { t with owner := at_ }) :
    Fits (s.enter at_).2 := by
  unfold State.enter
  dsimp only
  split
  · exact hat s
  · exact h

theorem fits_step (h : Fits s) (call : Call) : Fits (State.step call s).2 := by
  unfold State.step
  cases call with
  | request | armBurst | reset =>
    unfold State.lock
    dsimp only
    split
    · exact h.congr rfl rfl rfl
    · exact h
  | registry =>
    dsimp only
    cases s.registry with
    | none => exact h
    | some at_ => exact fits_registryStep h at_
  | ownerReset | prepare info advanceBurst | take k | takeHistory job =>
    exact fits_enter h _ fun t => trivial
  | beginPresent =>
    dsimp only
    split
    · exact trivial
    · exact h
  | submitted k | quarantine k =>
    dsimp only
    split
    · exact fits_enter h _ fun t => trivial
    · exact h
  | owner answers => exact fits_ownerStep h answers
  | worker answers => exact fits_workerStep h answers
  | stop => exact h.congr rfl rfl rfl

/-! ### The step -/

theorem Inv.step (h : Inv s past) (call : Call) :
    Inv (State.step call s).2 (past ++ [record State.step s call]) := by
  have m : Move s.view (record State.step s call).output (State.step call s).2.view :=
    move_step call h.owner h.fits
  have hfits := fits_step h.fits call
  generalize record State.step s call = r at m ⊢
  generalize (State.step call s).2 = s' at m hfits ⊢
  have howner := h.owner.move h.worker m
  have hworker := h.worker.move h.owner m
  -- A slot that is submitted before and after is left alone.
  have hstays : ∀ k, (s.slots k).state = .submitted → (s'.slots k).state = .submitted →
      s'.slots k = s.slots k ∧ ¬ r.output.Touches k := by
    intro k hk hk'
    obtain hsame | ⟨-, new, hnew, hslot⟩ := m.of_submitted h.owner (k := k) hk
    · exact hsame
    · have hstate : (s'.slots k).state = new := congrArg Slot.state hslot
      rw [hstate] at hk'
      rcases hnew with rfl | rfl <;> cases hk'
  refine ⟨howner, hworker, h.count.move h.owner h.worker m, hfits, ?_, ?_, ?_⟩
  · intro k copy hcopy
    obtain hevent | ⟨hbefore, hquiet⟩ := m.to_copy h.owner h.worker (k := k) hcopy
    · exact ⟨past, r, [], rfl, hevent, by simp⟩
    · exact (h.taken k copy hbefore).concat hquiet
  · intro k hk
    obtain hbefore | ⟨copy, hevent, hbefore, hholds⟩ := m.to_submitted h.owner (k := k) hk
    · obtain ⟨copy, hflight, hholds⟩ := h.inFlight k hbefore
      obtain ⟨hslot, hquiet⟩ := hstays k hbefore hk
      exact ⟨copy, hflight.concat hquiet, hslot ▸ hholds⟩
    · exact ⟨copy, ⟨past, r, [], rfl, h.taken k copy hbefore, hevent, by simp⟩, hholds⟩
  · intro k completed hreading
    have hk' : (s'.slots k).state = .submitted := hworker.working k (.inr (.inl ⟨_, hreading⟩))
    obtain hbefore | ⟨hlooking, fence, hevent, hfence, -, hready⟩ := m.to_reading (k := k) hreading
    · have hk := h.worker.working k (.inr (.inl ⟨_, hbefore⟩))
      obtain ⟨copy, hcomplete, hholds⟩ := h.complete k completed hbefore
      obtain ⟨hslot, hquiet⟩ := hstays k hk hk'
      exact ⟨copy, hcomplete.concat hquiet, hslot ▸ hholds⟩
    · -- The observation is that of the fence of the copy in flight.
      have hk := h.worker.working k (.inl hlooking)
      obtain ⟨copy, hflight, hbuffer, hcopyFence, hvalue⟩ := h.inFlight k hk
      obtain rfl : copy.fence = fence := Option.some.inj (hcopyFence.symm.trans hfence)
      have hle : copy.value ≤ completed := hvalue ▸ hready
      obtain ⟨hslot, -⟩ := hstays k hk hk'
      exact ⟨copy, hflight.observed hevent hle, hslot ▸ ⟨hbuffer, hcopyFence, hvalue⟩⟩

theorem inv_run (calls : List Call) : Inv (run State.step calls {}) (history State.step calls {}) := by
  refine @history_induction _ _ _ State.step Inv {} ?_ (fun t past call h => h.step call) calls
  refine ⟨⟨?_, ?_, ?_, ?_, ?_, ?_⟩, ⟨?_, ?_⟩, ⟨0, rfl, by decide⟩, trivial, ?_, ?_, ?_⟩ <;>
    intro k <;> simp [State.view, OwnerAt.role, WorkerAt.role]

/-! ## The promises -/

/-- How the request ends that holds a slot, or that claims it next: the ends of the slot before it is claimed
again. -/
def ends (k : Fin slotCount) : List Happened → List End
  | [] => []
  | r :: rest =>
    match r.output with
    | .claimed k' => if k' = k then [] else ends k rest
    | .ended k' how => if k' = k then how :: ends k rest else ends k rest
    | _ => ends k rest

/-- No thread is between the two halves of a submission or of its end. -/
def Settled (s : State) : Prop :=
  (∀ k, s.owner ≠ .storeSubmitted k) ∧ (∀ k, s.worker ≠ .failCount k) ∧
    ∀ k completed saved, s.worker ≠ .retire k completed saved

structure Keeps (past : List Happened) (s : State) : Prop where
  /-- A buffer is read while its slot is submitted, and after its fence reached the value of that
  submission. -/
  read : ∀ before r after, past = before ++ r :: after → ∀ k buffer, r.output = .read k buffer →
    (r.before.slots k).state = .submitted ∧ ∃ copy, copy.buffer = buffer ∧ Complete before k copy
  /-- A submitted slot stays as it is, until the worker retires or quarantines it. -/
  submitted : ∀ r ∈ past, ∀ k, (r.before.slots k).state = .submitted →
    (State.step r.call r.before).2.slots k = r.before.slots k ∨
      (∃ answers, r.call = .worker answers) ∧ ∃ new, (new = .retired ∨ new = .quarantined) ∧
        (State.step r.call r.before).2.slots k = { r.before.slots k with state := new }
  quarantined : ∀ r ∈ past, ∀ k, (r.before.slots k).state = .quarantined →
    (State.step r.call r.before).2.slots k = r.before.slots k
  /-- A request that claimed a slot ends at most once, and as long as it did not, it holds the slot. -/
  ends : ∀ before r after, past = before ++ r :: after → ∀ k, r.output = .claimed k →
    (∃ how, ends k after = [how]) ∨
      ends k after = [] ∧ (∀ x ∈ after, x.output ≠ .claimed k) ∧ s.view.Pending k
  /-- The count is that of the slots that are submitted. -/
  counted : Settled s → s.inFlight.toNat = s.view.submittedCount

/-! ### The ends -/

variable {rest : List Happened}

theorem ends_claimed (hr : r.output = .claimed k) : ends k (r :: rest) = [] := by
  simp [ends, hr]

theorem ends_ended {how : End} (hr : r.output = .ended k how) :
    ends k (r :: rest) = how :: ends k rest := by
  simp [ends, hr]

theorem ends_other (hclaimed : r.output ≠ .claimed k) (hended : ∀ how, r.output ≠ .ended k how) :
    ends k (r :: rest) = ends k rest := by
  cases hr : r.output with
  | claimed k' =>
    have hk : k' ≠ k := fun hk => hclaimed (hk ▸ hr)
    simp [ends, hr, hk]
  | ended k' how =>
    have hk : k' ≠ k := fun hk => hended how (hk ▸ hr)
    simp [ends, hr, hk]
  | none | answered | copied | submitted | observed | read => simp [ends, hr]

theorem ends_history (k : Fin slotCount) (calls : List Call) :
    ∀ {s : State}, OwnerInv s.view → WorkerInv s.view → Fits s →
      (s.view.Pending k → (∃ how, ends k (history State.step calls s) = [how]) ∨
        ends k (history State.step calls s) = [] ∧
          (∀ x ∈ history State.step calls s, x.output ≠ .claimed k) ∧
            (run State.step calls s).view.Pending k) ∧
        (¬ s.view.Pending k → ends k (history State.step calls s) = []) := by
  induction calls with
  | nil => exact fun _ _ _ => ⟨fun hp => .inr ⟨rfl, by simp [history], hp⟩, fun _ => rfl⟩
  | cons call calls ih =>
    intro s howner hworker hfits
    have m : Move s.view (record State.step s call).output (State.step call s).2.view :=
      move_step call howner hfits
    obtain ⟨ihpending, ihnot⟩ := ih (howner.move hworker m) (hworker.move howner m) (fits_step hfits call)
    rw [history, run_cons]
    generalize record State.step s call = r at m ⊢
    by_cases hclaimed : r.output = .claimed k
    · exact ⟨fun hp => absurd hp (m.of_claimed hclaimed).1, fun _ => ends_claimed hclaimed⟩
    · by_cases hended : ∃ how, r.output = .ended k how
      · obtain ⟨how, hhow⟩ := hended
        obtain ⟨hbefore, hafter⟩ := m.of_ended howner hworker hhow
        refine ⟨fun _ => .inl ⟨how, ?_⟩, fun hp => absurd hbefore hp⟩
        rw [ends_ended hhow, ihnot hafter]
      · have hsame := m.pending_iff howner hworker hclaimed fun how hhow => hended ⟨how, hhow⟩
        rw [ends_other hclaimed fun how hhow => hended ⟨how, hhow⟩, ← hsame]
        refine ⟨fun hp => ?_, ihnot⟩
        obtain hone | ⟨hnone, hclaims, hholds⟩ := ihpending hp
        · exact .inl hone
        · exact .inr ⟨hnone, List.forall_mem_cons.mpr ⟨hclaimed, hclaims⟩, hholds⟩

/-! ### Who steps -/

theorem worker_resume (s : State) : s.resume.worker = s.worker := by
  unfold State.resume
  split <;> rfl

theorem worker_registryStep (s : State) (at_ : RegistryAt) : (s.registryStep at_).2.worker = s.worker := by
  unfold State.registryStep
  cases at_ with
  | countCancelled k =>
    dsimp only
    split
    · rfl
    · exact worker_resume _
  | retire k =>
    dsimp only
    by_cases hfree : (s.slots k).state = .free
    · rw [if_pos hfree]
      split
      · rfl
      · exact worker_resume _
    · rw [if_neg hfree]
      split
      · rfl
      · exact worker_resume _
  | _ =>
    dsimp only
    try split <;> rfl

theorem worker_handOut (k : Fin slotCount) (job : Option HistoryReadback) (s : State) :
    (s.handOut k job).2.worker = s.worker := by
  unfold State.handOut
  dsimp only
  split
  · split <;> rfl
  · split <;> rfl
  · rfl
  · rfl

theorem worker_allocateFence (k : Fin slotCount) (job : Option HistoryReadback) (answers : Answers) (s : State) :
    (s.allocateFence k job answers).2.worker = s.worker := by
  unfold State.allocateFence
  dsimp only
  split
  · exact worker_handOut k job _
  · exact worker_handOut k job _
  · rfl

theorem worker_ownerStep (answers : Answers) (s : State) : (s.ownerStep answers).2.worker = s.worker := by
  unfold State.ownerStep
  cases s.owner with
  | allocate k job =>
    dsimp only
    split
    · unfold State.allocate
      dsimp only
      split
      · exact worker_allocateFence k job answers s
      · cases answers.buffer with
        | throws | unmapped => rfl
        | mapped => exact worker_allocateFence k job answers _
    · rfl
  | loadFault info advanceBurst =>
    dsimp only
    split
    · rfl
    · split <;> rfl
  | quarantine k =>
    show (s.setHistory k _).worker = s.worker
    unfold State.setHistory
    split <;> rfl
  | lockReset | release | claimBurst | take | claimHistory =>
    dsimp only
    split <;> rfl
  | _ => rfl

theorem worker_step {call : Call} (h : (State.step call s).2.worker ≠ s.worker) :
    ∃ answers, call = .worker answers := by
  unfold State.step State.lock State.enter at h
  cases call with
  | worker answers => exact ⟨answers, rfl⟩
  | owner answers => exact absurd (worker_ownerStep answers s) h
  | registry =>
    dsimp only at h
    cases hregistry : s.registry with
    | none =>
      rw [hregistry] at h
      exact absurd rfl h
    | some at_ =>
      rw [hregistry] at h
      exact absurd (worker_registryStep s at_) h
  | submitted | quarantine =>
    refine absurd ?_ h
    dsimp only
    split
    · dsimp only
      split <;> rfl
    · rfl
  | _ =>
    refine absurd ?_ h
    dsimp only
    try split <;> rfl

/-- Over every order of the steps of all threads the slots keep their promises. -/
theorem slots_run (calls : List Call) :
    Keeps (history State.step calls {}) (run State.step calls {}) := by
  -- A step meets a state with the invariant.
  have hmeets : ∀ before r after, history State.step calls {} = before ++ r :: after →
      ∃ s call later, Inv s before ∧ r = record State.step s call ∧
        after = history State.step later (State.step call s).2 ∧
          run State.step calls {} = run State.step later (State.step call s).2 := by
    intro before r after hsplit
    obtain ⟨earlier, call, later, rfl, rfl, rfl, hafter⟩ := history_split State.step hsplit
    exact ⟨_, call, later, inv_run earlier, rfl, hafter, by rw [run_append, run_cons]⟩
  have hmember : ∀ r ∈ history State.step calls {},
      ∃ s past call, Inv s past ∧ r = record State.step s call := by
    intro r hr
    obtain ⟨before, after, hsplit⟩ := List.append_of_mem hr
    obtain ⟨s, call, -, hinv, hrec, -, -⟩ := hmeets before r after hsplit
    exact ⟨s, before, call, hinv, hrec⟩
  refine ⟨?_, ?_, ?_, ?_, ?_⟩
  · intro before r after hsplit k buffer hread
    obtain ⟨s, call, later, hinv, rfl, -, -⟩ := hmeets before r after hsplit
    have m : Move s.view (record State.step s call).output (State.step call s).2.view :=
      move_step call hinv.owner hinv.fits
    rw [hread] at m
    generalize (State.step call s).2.view = v' at m
    cases m with
    | quiet e plain => exact plain.elim
    | read k completed buffer works same =>
      obtain ⟨copy, hcomplete, hbuffer, -, -⟩ := hinv.complete k completed works
      refine ⟨hinv.worker.working k (.inr (.inl ⟨_, works⟩)), copy, ?_, hcomplete⟩
      exact Option.some.inj (hbuffer.symm.trans same)
  · intro r hr k hk
    obtain ⟨s, past, call, hinv, rfl⟩ := hmember r hr
    obtain hsame | ⟨hmoved, hslot⟩ := (move_step call hinv.owner hinv.fits).of_submitted hinv.owner (k := k) hk
    · exact .inl hsame.1
    · exact .inr ⟨worker_step (s := s) fun hsame => hmoved (congrArg WorkerAt.role hsame), hslot⟩
  · intro r hr k hk
    obtain ⟨s, past, call, hinv, rfl⟩ := hmember r hr
    exact ((move_step call hinv.owner hinv.fits).of_quarantined hinv.owner hinv.worker (k := k) hk).1
  · intro before r after hsplit k hclaimed
    obtain ⟨s, call, later, hinv, rfl, rfl, hrun⟩ := hmeets before r after hsplit
    have m : Move s.view (record State.step s call).output (State.step call s).2.view :=
      move_step call hinv.owner hinv.fits
    rw [hrun]
    exact (ends_history k later (hinv.owner.move hinv.worker m) (hinv.worker.move hinv.owner m)
      (fits_step hinv.fits call)).1 (m.of_claimed hclaimed).2
  · rintro ⟨howner, hlost, hread⟩
    obtain ⟨n, hn, hcount⟩ := (inv_run calls).count
    have hle := submittedCount_le (run State.step calls {}).view
    have hahead : (run State.step calls {}).view.owner.ahead = 0 := by
      simp only [State.view, OwnerAt.role]
      split <;> first | rfl | exact absurd ‹_› (howner _)
    have hworker : (run State.step calls {}).view.worker.ahead = 0 ∧
        (run State.step calls {}).view.worker.behind = 0 := by
      simp only [State.view, WorkerAt.role]
      split <;> first | exact ⟨rfl, rfl⟩ | exact absurd ‹_› (hlost _) | exact absurd ‹_› (hread _ _ _)
    have hsame : n = (run State.step calls {}).view.submittedCount := by omega
    have hflight : (run State.step calls {}).inFlight = UInt32.ofNat n := hn
    have hsmall : n < UInt32.size := by
      have hslots : slotCount = 3 := rfl
      have hsize : UInt32.size = 4294967296 := rfl
      omega
    rw [hflight, UInt32.toNat_ofNat_of_lt' hsmall, hsame]

end War3VK.Tools.AsyncScreenshot
