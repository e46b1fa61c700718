import War3VK.Lib.Bits
import War3VK.Render.WorkloadGovernor
import Mathlib

/-!
# The books of the governor

What is used is what was accepted and not taken back, and a rejected call leaves it. A request that
cannot be added to what its consumer has requested leaves a mark there that rejects every later one
of that consumer, so a rejected reservation is without effect as long as this has not happened.
-/

namespace War3VK.Render.WorkloadGovernor

open Lib (Record record run history)

/-! ## Amounts -/

def Cost.amounts (cost : Cost) : ℕ × ℕ × ℕ :=
  (cost.draws.toNat, cost.vertices.toNat, cost.indices.toNat)

theorem checkedAdd_eq_some {a b c : UInt64} :
    checkedAdd a b = some c ↔ c.toNat = a.toNat + b.toNat := by
  have hc := c.toNat_lt
  have hover := Lib.max_sub_lt_iff a b
  unfold checkedAdd
  by_cases h : b > 0xffffffffffffffff - a
  · rw [if_pos h]
    have hlarge := hover.mp h
    simp only [reduceCtorEq, false_iff]
    omega
  · have hsmall := mt hover.mpr h
    rw [if_neg h, Option.some.injEq, ← UInt64.toNat_inj, UInt64.toNat_add, Nat.mod_eq_of_lt (by omega)]
    exact eq_comm

theorem addCost_eq_some {a b c : Cost} :
    addCost a b = some c ↔ a.valid ∧ b.valid ∧ c.valid ∧ c.amounts = a.amounts + b.amounts := by
  have hsum : c.amounts = a.amounts + b.amounts ↔ checkedAdd a.draws b.draws = some c.draws ∧
        checkedAdd a.vertices b.vertices = some c.vertices ∧
          checkedAdd a.indices b.indices = some c.indices := by
    simp only [checkedAdd_eq_some, Cost.amounts, Prod.mk_add_mk, Prod.mk.injEq]
  rw [hsum]
  obtain ⟨draws, vertices, indices, valid⟩ := c
  unfold addCost
  by_cases hvalid : a.valid ∧ b.valid
  · rw [if_neg (not_not_intro hvalid)]
    cases checkedAdd a.draws b.draws <;> cases checkedAdd a.vertices b.vertices <;>
      cases checkedAdd a.indices b.indices <;> simp [hvalid]
    tauto
  · rw [if_pos hvalid]
    simp only [reduceCtorEq, false_iff]
    tauto

theorem subtractCost_some {a b c : Cost} (h : subtractCost a b = some c) :
    c.amounts + b.amounts = a.amounts := by
  unfold subtractCost at h
  split at h
  · cases h
  next hle =>
    simp only [not_or, gt_iff_lt, UInt64.lt_iff_toNat_lt, not_lt] at hle
    obtain ⟨-, hd, hv, hi⟩ := hle
    cases h
    simp only [Cost.amounts, Prod.mk_add_mk, Prod.mk.injEq]
    rw [UInt64.toNat_sub_of_le _ _ (UInt64.le_iff_toNat_le.mpr hd),
      UInt64.toNat_sub_of_le _ _ (UInt64.le_iff_toNat_le.mpr hv),
      UInt64.toNat_sub_of_le _ _ (UInt64.le_iff_toNat_le.mpr hi)]
    omega

theorem subtractCost_le {a b c : Cost} (h : subtractCost a b = some c) :
    c.draws ≤ a.draws ∧ c.vertices ≤ a.vertices ∧ c.indices ≤ a.indices := by
  have hsum := subtractCost_some h
  simp only [Cost.amounts, Prod.mk_add_mk, Prod.mk.injEq] at hsum
  refine ⟨UInt64.le_iff_toNat_le.mpr ?_, UInt64.le_iff_toNat_le.mpr ?_,
    UInt64.le_iff_toNat_le.mpr ?_⟩ <;> omega

/-! ## What a call does -/

/-- What judging reads and acceptance writes is the same: all but the requests and the counters of
rejections. -/
structure SameView (s t : Diagnostics) : Prop where
  frameSerial : s.frameSerial = t.frameSerial
  limits : s.limits = t.limits
  used : s.used = t.used
  accepted : ∀ index, (s.consumers index).accepted = (t.consumers index).accepted
  acceptedItems : ∀ index, (s.consumers index).acceptedItems = (t.consumers index).acceptedItems
  acceptedReservations : ∀ index,
    (s.consumers index).acceptedReservations = (t.consumers index).acceptedReservations

theorem SameView.refl (s : Diagnostics) : SameView s s :=
  ⟨rfl, rfl, rfl, fun _ => rfl, fun _ => rfl, fun _ => rfl⟩

variable {t : Diagnostics} {index : Fin 3} {d : ConsumerDiagnostics} {itemCount : UInt64}
  {cost : Cost} {consumer : Consumer}

theorem SameView.comp {s u : Diagnostics} (h : SameView s t) (h' : SameView t u) : SameView s u :=
  ⟨h.frameSerial.trans h'.frameSerial, h.limits.trans h'.limits, h.used.trans h'.used,
    fun index => (h.accepted index).trans (h'.accepted index),
    fun index => (h.acceptedItems index).trans (h'.acceptedItems index),
    fun index => (h.acceptedReservations index).trans (h'.acceptedReservations index)⟩

theorem SameView.flip {s : Diagnostics} (h : SameView s t) : SameView t s :=
  ⟨h.frameSerial.symm, h.limits.symm, h.used.symm, fun index => (h.accepted index).symm,
    fun index => (h.acceptedItems index).symm, fun index => (h.acceptedReservations index).symm⟩

theorem sameView_setConsumer {s : Diagnostics}
    (haccepted : d.accepted = (s.consumers index).accepted)
    (hitems : d.acceptedItems = (s.consumers index).acceptedItems)
    (hreservations : d.acceptedReservations = (s.consumers index).acceptedReservations) :
    SameView (s.setConsumer index d) s := by
  have hread : ∀ {α : Type} (f : ConsumerDiagnostics → α), f d = f (s.consumers index) →
      ∀ i, f ((s.setConsumer index d).consumers i) = f (s.consumers i) := by
    intro α f hf i
    unfold Diagnostics.setConsumer
    by_cases hi : i = index
    · rw [hi]
      dsimp only
      rw [Function.update_self, hf]
    · dsimp only
      rw [Function.update_of_ne hi]
  exact ⟨rfl, rfl, rfl, hread _ haccepted, hread _ hitems, hread _ hreservations⟩

theorem sameView_reject (consumer : Consumer) (reason : RejectReason) (s : Diagnostics) :
    SameView (reject consumer reason s) s := by
  unfold reject
  cases consumerIndex consumer with
  | none => exact ⟨rfl, rfl, rfl, fun _ => rfl, fun _ => rfl, fun _ => rfl⟩
  | some index =>
    obtain ⟨hframe, hlimits, hused, haccepted, hitems, hreservations⟩ :=
      @sameView_setConsumer index { s.consumers index with
        rejectedReservations := (s.consumers index).rejectedReservations + 1 } s rfl rfl rfl
    exact ⟨hframe, hlimits, hused, haccepted, hitems, hreservations⟩

theorem reject_requested (consumer : Consumer) (reason : RejectReason) (s : Diagnostics)
    (i : Fin 3) :
    ((reject consumer reason s).consumers i).requested = (s.consumers i).requested ∧
      ((reject consumer reason s).consumers i).requestedItems = (s.consumers i).requestedItems := by
  unfold reject Diagnostics.setConsumer
  cases consumerIndex consumer with
  | none => exact ⟨rfl, rfl⟩
  | some index =>
    dsimp only
    by_cases hi : i = index
    · rw [hi, Function.update_self]
      exact ⟨rfl, rfl⟩
    · rw [Function.update_of_ne hi]
      exact ⟨rfl, rfl⟩

theorem noteRequest_grants (itemCount : UInt64) (cost : Cost) (d : ConsumerDiagnostics) :
    (noteRequest itemCount cost d).2.accepted = d.accepted ∧
      (noteRequest itemCount cost d).2.acceptedItems = d.acceptedItems ∧
        (noteRequest itemCount cost d).2.acceptedReservations = d.acceptedReservations := by
  unfold noteRequest
  cases addCost d.requested cost with
  | none => exact ⟨rfl, rfl, rfl⟩
  | some requested =>
    cases checkedAdd d.requestedItems itemCount with
    | none => exact ⟨rfl, rfl, rfl⟩
    | some requestedItems => exact ⟨rfl, rfl, rfl⟩

theorem sameView_note (index : Fin 3) (itemCount : UInt64) (cost : Cost) (s : Diagnostics) :
    SameView (s.setConsumer index (noteRequest itemCount cost (s.consumers index)).2) s := by
  obtain ⟨haccepted, hitems, hreservations⟩ :=
    noteRequest_grants itemCount cost (s.consumers index)
  exact sameView_setConsumer haccepted hitems hreservations

theorem judge_congr {s : Diagnostics} (h : SameView s t) (index : Fin 3) (itemCount : UInt64)
    (cost : Cost) : judge index itemCount cost s = judge index itemCount cost t := by
  unfold judge
  rw [h.frameSerial, h.limits, h.used, h.accepted, h.acceptedItems]

theorem judge_ok {s : Diagnostics} {grant : Grant} (h : judge index itemCount cost s = .ok grant) :
    addCost s.used cost = some grant.used ∧
      addCost (s.consumers index).accepted cost = some grant.accepted ∧
        grant.used.draws ≤ s.limits.maxDraws ∧ grant.used.vertices ≤ s.limits.maxVertices ∧
          grant.used.indices ≤ s.limits.maxIndices := by
  unfold judge at h
  generalize checkedAdd (s.consumers index).acceptedItems itemCount = items at h
  generalize haccepted : addCost (s.consumers index).accepted cost = accepted at h
  generalize hused : addCost s.used cost = used at h
  by_cases hframe : s.frameSerial = 0 ∨ ¬s.limits.valid = true
  · rw [if_pos hframe] at h
    cases h
  by_cases hrequest : ¬cost.valid = true ∨ itemCount = 0
  · rw [if_neg hframe, if_pos hrequest] at h
    cases h
  rw [if_neg hframe, if_neg hrequest] at h
  cases used with
  | none => cases h
  | some candidate =>
    dsimp only at h
    by_cases hdraws : candidate.draws > s.limits.maxDraws
    · rw [if_pos hdraws] at h
      cases h
    by_cases hvertices : candidate.vertices > s.limits.maxVertices
    · rw [if_neg hdraws, if_pos hvertices] at h
      cases h
    by_cases hindices : candidate.indices > s.limits.maxIndices
    · rw [if_neg hdraws, if_neg hvertices, if_pos hindices] at h
      cases h
    rw [if_neg hdraws, if_neg hvertices, if_neg hindices] at h
    cases accepted with
    | none => cases h
    | some accepted =>
      cases items with
      | none => cases h
      | some acceptedItems =>
        obtain rfl := Except.ok.inj h
        exact ⟨rfl, rfl, UInt64.not_lt.mp hdraws, UInt64.not_lt.mp hvertices, UInt64.not_lt.mp hindices⟩

theorem SameView.set {s : Diagnostics} (h : SameView s t) (index : Fin 3)
    {d' : ConsumerDiagnostics} (haccepted : d.accepted = d'.accepted)
    (hitems : d.acceptedItems = d'.acceptedItems)
    (hreservations : d.acceptedReservations = d'.acceptedReservations) (used : Cost) :
    SameView { s.setConsumer index d with used := used }
      { t.setConsumer index d' with used := used } := by
  have hread : ∀ {α : Type} (f : ConsumerDiagnostics → α), f d = f d' →
      (∀ i, f (s.consumers i) = f (t.consumers i)) → ∀ i,
        f ((s.setConsumer index d).consumers i) = f ((t.setConsumer index d').consumers i) := by
    intro α f hf hall i
    unfold Diagnostics.setConsumer
    dsimp only
    by_cases hi : i = index
    · rw [hi, Function.update_self, Function.update_self, hf]
    · rw [Function.update_of_ne hi, Function.update_of_ne hi, hall]
  exact ⟨h.frameSerial, h.limits, rfl, hread _ haccepted h.accepted, hread _ hitems h.acceptedItems,
    hread _ hreservations h.acceptedReservations⟩

theorem SameView.commit {s : Diagnostics} (h : SameView s t) (index : Fin 3) (grant : Grant) :
    SameView (WorkloadGovernor.commit index grant s) (WorkloadGovernor.commit index grant t) := by
  refine h.set index ?_ ?_ ?_ grant.used
  · rfl
  · rfl
  · exact congrArg (· + 1) (h.acceptedReservations index)

theorem tryReserve_of_none (hindex : consumerIndex consumer = none) (itemCount : UInt64)
    (cost : Cost) (s : Diagnostics) :
    tryReserve consumer itemCount cost s = (false, reject consumer .invalidRequest s) := by
  unfold tryReserve
  simp only [hindex]

theorem tryReserve_of_not_noted (hindex : consumerIndex consumer = some index) {s : Diagnostics}
    (hnoted : (noteRequest itemCount cost (s.consumers index)).1 = false) :
    tryReserve consumer itemCount cost s = (false, reject consumer .arithmeticOverflow
      (s.setConsumer index (noteRequest itemCount cost (s.consumers index)).2)) := by
  unfold tryReserve
  simp only [hindex]
  rw [if_pos (by rw [hnoted]; exact Bool.false_ne_true)]

theorem tryReserve_of_noted (hindex : consumerIndex consumer = some index) {s : Diagnostics}
    (hnoted : (noteRequest itemCount cost (s.consumers index)).1 = true) :
    let s' := s.setConsumer index (noteRequest itemCount cost (s.consumers index)).2
    (∃ reason, judge index itemCount cost s = .error reason ∧
      tryReserve consumer itemCount cost s = (false, reject consumer reason s')) ∨
    (∃ grant, judge index itemCount cost s = .ok grant ∧
      tryReserve consumer itemCount cost s = (true, commit index grant s')) := by
  intro s'
  have hjudge : judge index itemCount cost s' = judge index itemCount cost s :=
    judge_congr (sameView_note index itemCount cost s) index itemCount cost
  unfold tryReserve
  simp only [hindex]
  rw [if_neg (not_not_intro hnoted), hjudge]
  cases judge index itemCount cost s with
  | error reason => exact .inl ⟨reason, rfl, rfl⟩
  | ok grant => exact .inr ⟨grant, rfl, rfl⟩

theorem tryReserve_cases (consumer : Consumer) (itemCount : UInt64) (cost : Cost)
    (s : Diagnostics) :
    ((tryReserve consumer itemCount cost s).1 = false ∧
      SameView (tryReserve consumer itemCount cost s).2 s) ∨
    ∃ index grant s', consumerIndex consumer = some index ∧ SameView s' s ∧
      judge index itemCount cost s = .ok grant ∧
        tryReserve consumer itemCount cost s = (true, commit index grant s') := by
  cases hindex : consumerIndex consumer with
  | none =>
    rw [tryReserve_of_none hindex]
    exact .inl ⟨rfl, sameView_reject _ _ _⟩
  | some index =>
    have hview := sameView_note index itemCount cost s
    cases hnoted : (noteRequest itemCount cost (s.consumers index)).1 with
    | false =>
      rw [tryReserve_of_not_noted hindex hnoted]
      exact .inl ⟨rfl, (sameView_reject _ _ _).comp hview⟩
    | true =>
      obtain ⟨reason, -, heq⟩ | ⟨grant, hjudge, heq⟩ := tryReserve_of_noted hindex hnoted
      · rw [heq]
        exact .inl ⟨rfl, (sameView_reject _ _ _).comp hview⟩
      · exact .inr ⟨index, grant, _, rfl, hview, hjudge, heq⟩

theorem cancelReservation_cases (consumer : Consumer) (itemCount : UInt64) (cost : Cost)
    (s : Diagnostics) :
    cancelReservation consumer itemCount cost s = (false, s) ∨
    ∃ index used accepted d, consumerIndex consumer = some index ∧ subtractCost s.used cost = some used ∧
        subtractCost (s.consumers index).accepted cost = some accepted ∧ d.accepted = accepted ∧
          (d.requested = (s.consumers index).requested ∧
            d.requestedItems = (s.consumers index).requestedItems) ∧
          cancelReservation consumer itemCount cost s =
            (true, { s.setConsumer index d with used := used }) := by
  unfold cancelReservation
  cases consumerIndex consumer with
  | none => exact .inl rfl
  | some index =>
    dsimp only
    by_cases hcall : itemCount = 0 ∨ ¬cost.valid = true
    · exact .inl (if_pos hcall)
    by_cases hopen : (s.consumers index).acceptedItems < itemCount ∨
        (s.consumers index).acceptedReservations = 0
    · exact .inl ((if_neg hcall).trans (if_pos hopen))
    rw [if_neg hcall, if_neg hopen]
    cases subtractCost s.used cost with
    | none => exact .inl rfl
    | some used =>
      cases haccepted : subtractCost (s.consumers index).accepted cost with
      | none => exact .inl rfl
      | some accepted =>
        refine .inr ⟨index, used, accepted, _, rfl, rfl, haccepted, ?_, ⟨?_, ?_⟩, rfl⟩
        · rfl
        · rfl
        · rfl

theorem cancelReservation_congr {s : Diagnostics} (h : SameView s t) (consumer : Consumer)
    (itemCount : UInt64) (cost : Cost) :
    (cancelReservation consumer itemCount cost s).1 = (cancelReservation consumer itemCount cost t).1 ∧
      SameView (cancelReservation consumer itemCount cost s).2
        (cancelReservation consumer itemCount cost t).2 := by
  unfold cancelReservation
  cases consumerIndex consumer with
  | none => exact ⟨rfl, h⟩
  | some index =>
    dsimp only
    rw [h.acceptedItems index, h.acceptedReservations index, h.used, h.accepted index]
    by_cases hcall : itemCount = 0 ∨ ¬cost.valid = true
    · rw [if_pos hcall, if_pos hcall]
      exact ⟨rfl, h⟩
    by_cases hopen : (t.consumers index).acceptedItems < itemCount ∨
        (t.consumers index).acceptedReservations = 0
    · rw [if_neg hcall, if_neg hcall, if_pos hopen, if_pos hopen]
      exact ⟨rfl, h⟩
    rw [if_neg hcall, if_neg hcall, if_neg hopen, if_neg hopen]
    cases subtractCost t.used cost with
    | none => exact ⟨rfl, h⟩
    | some used =>
      cases subtractCost (t.consumers index).accepted cost with
      | none => exact ⟨rfl, h⟩
      | some accepted =>
        refine ⟨rfl, ?_⟩
        refine h.set index ?_ ?_ ?_ used
        · rfl
        · rfl
        · rfl

/-! ## The books -/

abbrev Happened : Type := Record Diagnostics Call Bool

structure Reservation where
  consumer : Consumer
  itemCount : UInt64
  cost : Cost
deriving DecidableEq

def granted (r : Happened) : Option Reservation :=
  match r.call, r.output with
  | .reserve consumer itemCount cost, true => some ⟨consumer, itemCount, cost⟩
  | _, _ => none

def takenBack (r : Happened) : Option Reservation :=
  match r.call, r.output with
  | .cancel consumer itemCount cost, true => some ⟨consumer, itemCount, cost⟩
  | _, _ => none

def total (reservations : List Reservation) : ℕ × ℕ × ℕ :=
  (reservations.map fun r => r.cost.amounts).sum

def ofConsumer (index : Fin 3) (reservations : List Reservation) : List Reservation :=
  reservations.filter fun r => consumerIndex r.consumer = some index

theorem total_append (reservations more : List Reservation) :
    total (reservations ++ more) = total reservations + total more := by
  unfold total
  rw [List.map_append, List.sum_append]

theorem total_singleton (r : Reservation) : total [r] = r.cost.amounts := List.sum_singleton

theorem total_perm {reservations more : List Reservation} (h : reservations.Perm more) :
    total reservations = total more := (h.map _).sum_eq

theorem ofConsumer_append (index : Fin 3) (reservations more : List Reservation) :
    ofConsumer index (reservations ++ more) =
      ofConsumer index reservations ++ ofConsumer index more := List.filter_append ..

theorem total_ofConsumer_singleton {r : Reservation}
    (hindex : consumerIndex r.consumer = some index) (i : Fin 3) :
    total (ofConsumer i [r]) = if i = index then r.cost.amounts else 0 := by
  unfold ofConsumer
  by_cases hi : i = index
  · rw [if_pos hi, List.filter_cons_of_pos (by simp [hindex, hi]), List.filter_nil, total_singleton]
  · have hother : ¬index = i := fun heq => hi heq.symm
    rw [if_neg hi, List.filter_cons_of_neg (by simp [hindex, hother])]
    rfl

structure Within (used : Cost) (limits : Limits) : Prop where
  draws : used.draws ≤ limits.maxDraws
  vertices : used.vertices ≤ limits.maxVertices
  indices : used.indices ≤ limits.maxIndices

/-- The books of a frame: all that was granted is used or was taken back, for every consumer and
together, and what is used is within the limits. -/
structure Books (limits : Limits) (past : List Happened) (s : Diagnostics) : Prop where
  same : s.limits = limits
  /-- All that was granted is used or was taken back. -/
  used : s.used.amounts + total (past.filterMap takenBack) = total (past.filterMap granted)
  accepted : ∀ i, (s.consumers i).accepted.amounts +
    total (ofConsumer i (past.filterMap takenBack)) = total (ofConsumer i (past.filterMap granted))
  within : Within s.used limits

variable {limits : Limits} {past : List Happened} {s : Diagnostics}

theorem books_beginFrame (frameSerial : UInt64) (limits : Limits) :
    Books limits [] (beginFrame frameSerial limits) :=
  ⟨rfl, rfl, fun _ => rfl, ⟨UInt64.zero_le, UInt64.zero_le, UInt64.zero_le⟩⟩

theorem Books.quiet (h : Books limits past s) {r : Happened} (hview : SameView t s)
    (hgranted : granted r = none) (htaken : takenBack r = none) : Books limits (past ++ [r]) t := by
  have hmore : ∀ f : Happened → Option Reservation, f r = none →
      (past ++ [r]).filterMap f = past.filterMap f := by
    intro f hf
    rw [Lib.filterMap_concat, hf]
    exact List.append_nil _
  refine ⟨hview.limits.trans h.same, ?_, fun i => ?_, ?_⟩
  · rw [hmore _ hgranted, hmore _ htaken, hview.used]
    exact h.used
  · rw [hmore _ hgranted, hmore _ htaken, hview.accepted]
    exact h.accepted i
  · rw [hview.used]
    exact h.within

theorem setConsumer_accepted (s : Diagnostics) (index : Fin 3) (d : ConsumerDiagnostics) (used : Cost)
    (i : Fin 3) :
    (({ s.setConsumer index d with used := used } : Diagnostics).consumers i).accepted =
      if i = index then d.accepted else (s.consumers i).accepted := by
  unfold Diagnostics.setConsumer
  dsimp only
  by_cases hi : i = index
  · rw [if_pos hi, hi, Function.update_self]
  · rw [if_neg hi, Function.update_of_ne hi]

theorem Books.step (h : Books limits past s) (call : Call) :
    Books limits (past ++ [record WorkloadGovernor.step s call]) (WorkloadGovernor.step call s).2 := by
  cases call with
  | reserve consumer itemCount cost =>
    obtain ⟨hfalse, hview⟩ | ⟨index, grant, s', hindex, hview, hjudge, heq⟩ :=
      tryReserve_cases consumer itemCount cost s
    · refine h.quiet hview ?_ ?_
      · simp only [granted, record, WorkloadGovernor.step, hfalse]
      · simp only [takenBack, record, WorkloadGovernor.step]
    · obtain ⟨hused, haccepted, hdraws, hvertices, hindices⟩ := judge_ok hjudge
      have hstep : WorkloadGovernor.step (.reserve consumer itemCount cost) s =
        (true, WorkloadGovernor.commit index grant s') := heq
      have hnone : takenBack ⟨s, .reserve consumer itemCount cost, true⟩ = none := rfl
      have hsome : granted ⟨s, .reserve consumer itemCount cost, true⟩ =
        some ⟨consumer, itemCount, cost⟩ := rfl
      rw [record, hstep]
      obtain ⟨-, -, -, hused⟩ := addCost_eq_some.mp hused
      obtain ⟨-, -, -, haccepted⟩ := addCost_eq_some.mp haccepted
      rw [h.same] at hdraws hvertices hindices
      refine ⟨hview.limits.trans h.same, ?_, fun i => ?_, ⟨hdraws, hvertices, hindices⟩⟩
      · rw [Lib.filterMap_concat, Lib.filterMap_concat, hnone, hsome, Option.toList_none,
          List.append_nil, Option.toList_some, total_append, total_singleton, ← h.used]
        show grant.used.amounts + _ = _
        rw [hused, add_right_comm]
      · rw [Lib.filterMap_concat, Lib.filterMap_concat, hnone, hsome, Option.toList_none,
          List.append_nil, Option.toList_some, ofConsumer_append, total_append,
          @total_ofConsumer_singleton index _ hindex, ← h.accepted i]
        unfold WorkloadGovernor.commit
        rw [setConsumer_accepted]
        by_cases hi : i = index
        · rw [if_pos hi, if_pos hi, haccepted, hi, add_right_comm]
        · rw [if_neg hi, if_neg hi, hview.accepted, add_zero]
  | cancel consumer itemCount cost =>
    obtain heq | ⟨index, used, accepted, d, hindex, hused, haccepted, rfl, -, heq⟩ :=
      cancelReservation_cases consumer itemCount cost s
    · have hstep : WorkloadGovernor.step (.cancel consumer itemCount cost) s = (false, s) := heq
      rw [record, hstep]
      exact h.quiet (SameView.refl s) rfl rfl
    · have hstep : WorkloadGovernor.step (.cancel consumer itemCount cost) s =
        (true, { s.setConsumer index d with used := used }) := heq
      have hnone : granted ⟨s, .cancel consumer itemCount cost, true⟩ = none := rfl
      have hsome : takenBack ⟨s, .cancel consumer itemCount cost, true⟩ =
        some ⟨consumer, itemCount, cost⟩ := rfl
      rw [record, hstep]
      obtain ⟨hdraws, hvertices, hindices⟩ := subtractCost_le hused
      have hused := subtractCost_some hused
      have haccepted := subtractCost_some haccepted
      refine ⟨h.same, ?_, fun i => ?_, ?_⟩
      · rw [Lib.filterMap_concat, Lib.filterMap_concat, hnone, hsome, Option.toList_none,
          List.append_nil, Option.toList_some, total_append, total_singleton, ← h.used, ← hused]
        show used.amounts + _ = _
        rw [add_right_comm, add_assoc]
      · rw [Lib.filterMap_concat, Lib.filterMap_concat, hnone, hsome, Option.toList_none,
          List.append_nil, Option.toList_some, ofConsumer_append, total_append,
          @total_ofConsumer_singleton index _ hindex, ← h.accepted i, setConsumer_accepted]
        by_cases hi : i = index
        · rw [if_pos hi, if_pos hi, hi, ← haccepted, add_right_comm, add_assoc]
        · rw [if_neg hi, if_neg hi, add_zero]
      · exact ⟨UInt64.le_trans hdraws h.within.draws, UInt64.le_trans hvertices h.within.vertices,
          UInt64.le_trans hindices h.within.indices⟩

/-! ## What was requested -/

def requestOf : Call → Option Reservation
  | .reserve consumer itemCount cost => some ⟨consumer, itemCount, cost⟩
  | .cancel _ _ _ => none

def requestsOf (index : Fin 3) (calls : List Call) : List Reservation :=
  ofConsumer index (calls.filterMap requestOf)

/-- What a consumer asks for, granted or not: every cost is valid, and the sums have 64 bits. -/
structure Fits (requests : List Reservation) : Prop where
  valid : ∀ r ∈ requests, r.cost.valid = true
  draws : (total requests).1 < 2 ^ 64
  vertices : (total requests).2.1 < 2 ^ 64
  indices : (total requests).2.2 < 2 ^ 64
  items : (requests.map fun r => r.itemCount.toNat).sum < 2 ^ 64

theorem Fits.first {requests more : List Reservation} (h : Fits (requests ++ more)) :
    Fits requests := by
  obtain ⟨hvalid, hdraws, hvertices, hindices, hitems⟩ := h
  rw [total_append] at hdraws hvertices hindices
  rw [List.map_append, List.sum_append] at hitems
  simp only [Prod.fst_add, Prod.snd_add] at hdraws hvertices hindices
  exact ⟨fun r hr => hvalid r (List.mem_append_left _ hr), by omega, by omega, by omega, by omega⟩

structure Noted (requests : List Reservation) (d : ConsumerDiagnostics) : Prop where
  valid : d.requested.valid = true
  requested : d.requested.amounts = total requests
  items : d.requestedItems.toNat = (requests.map fun r => r.itemCount.toNat).sum

theorem noteRequest_of_some {requested : Cost} {requestedItems : UInt64}
    (hsum : addCost d.requested cost = some requested)
    (hitems : checkedAdd d.requestedItems itemCount = some requestedItems) :
    noteRequest itemCount cost d =
      (true, { d with requested := requested, requestedItems := requestedItems }) := by
  unfold noteRequest
  generalize checkedAdd d.requestedItems itemCount = items at hitems ⊢
  rw [hsum, hitems]

theorem Noted.next {requests : List Reservation} (h : Noted requests d) {r : Reservation}
    (hfits : Fits (requests ++ [r])) :
    (noteRequest r.itemCount r.cost d).1 = true ∧
      Noted (requests ++ [r]) (noteRequest r.itemCount r.cost d).2 := by
  have htotal : d.requested.amounts + r.cost.amounts = total (requests ++ [r]) := by
    rw [total_append, total_singleton, h.requested]
  have hcount : d.requestedItems.toNat + r.itemCount.toNat =
      ((requests ++ [r]).map fun r => r.itemCount.toNat).sum := by
    rw [List.map_append, List.sum_append, List.map_singleton, List.sum_singleton, h.items]
  let sum : Cost := ⟨UInt64.ofNat (total (requests ++ [r])).1,
    UInt64.ofNat (total (requests ++ [r])).2.1, UInt64.ofNat (total (requests ++ [r])).2.2, true⟩
  have hsum : sum.amounts = total (requests ++ [r]) := by
    simp only [sum, Cost.amounts, UInt64.toNat_ofNat']
    rw [Nat.mod_eq_of_lt hfits.draws, Nat.mod_eq_of_lt hfits.vertices, Nat.mod_eq_of_lt hfits.indices]
  have hrequested : addCost d.requested r.cost = some sum :=
    addCost_eq_some.mpr ⟨h.valid, hfits.valid r (by simp), rfl, by rw [hsum, htotal]⟩
  have hitems : checkedAdd d.requestedItems r.itemCount =
      some (UInt64.ofNat ((requests ++ [r]).map fun r => r.itemCount.toNat).sum) := by
    rw [checkedAdd_eq_some, UInt64.toNat_ofNat', Nat.mod_eq_of_lt hfits.items, hcount]
  rw [noteRequest_of_some hrequested hitems]
  exact ⟨rfl, rfl, hsum, by rw [UInt64.toNat_ofNat', Nat.mod_eq_of_lt hfits.items]⟩

def noteCall (call : Call) (i : Fin 3) (d : ConsumerDiagnostics) : ConsumerDiagnostics :=
  match requestOf call with
  | some r =>
    if consumerIndex r.consumer = some i then (noteRequest r.itemCount r.cost d).2 else d
  | none => d

theorem setConsumer_requested (s : Diagnostics) (index : Fin 3) (d : ConsumerDiagnostics)
    (i : Fin 3) :
    ((s.setConsumer index d).consumers i).requested = (if i = index then d else s.consumers i).requested ∧
      ((s.setConsumer index d).consumers i).requestedItems =
        (if i = index then d else s.consumers i).requestedItems := by
  unfold Diagnostics.setConsumer
  dsimp only
  by_cases hi : i = index
  · rw [if_pos hi, hi, Function.update_self]
    exact ⟨rfl, rfl⟩
  · rw [if_neg hi, Function.update_of_ne hi]
    exact ⟨rfl, rfl⟩

theorem setConsumer_keeps_requested (hrequested : d.requested = (s.consumers index).requested)
    (hitems : d.requestedItems = (s.consumers index).requestedItems) (i : Fin 3) :
    ((s.setConsumer index d).consumers i).requested = (s.consumers i).requested ∧
      ((s.setConsumer index d).consumers i).requestedItems = (s.consumers i).requestedItems := by
  obtain ⟨hread, hread'⟩ := setConsumer_requested s index d i
  rw [hread, hread']
  by_cases hi : i = index
  · rw [if_pos hi, hi]
    exact ⟨hrequested, hitems⟩
  · rw [if_neg hi]
    exact ⟨rfl, rfl⟩

theorem step_requests (call : Call) (s : Diagnostics) (i : Fin 3) :
    ((WorkloadGovernor.step call s).2.consumers i).requested = (noteCall call i (s.consumers i)).requested ∧
      ((WorkloadGovernor.step call s).2.consumers i).requestedItems =
        (noteCall call i (s.consumers i)).requestedItems := by
  cases call with
  | reserve consumer itemCount cost =>
    simp only [WorkloadGovernor.step, noteCall, requestOf]
    cases hindex : consumerIndex consumer with
    | none =>
      rw [tryReserve_of_none hindex, if_neg (by simp)]
      exact reject_requested consumer .invalidRequest s i
    | some index =>
      have hread := setConsumer_requested s index
        (noteRequest itemCount cost (s.consumers index)).2 i
      have hcall : (if some index = some i then (noteRequest itemCount cost (s.consumers i)).2
          else s.consumers i) =
          if i = index then (noteRequest itemCount cost (s.consumers index)).2
          else s.consumers i := by
        by_cases hi : i = index
        · rw [hi, if_pos rfl, if_pos rfl]
        · rw [if_neg hi, if_neg fun heq => hi (Option.some.inj heq).symm]
      rw [hcall, ← hread.1, ← hread.2]
      cases hnoted : (noteRequest itemCount cost (s.consumers index)).1 with
      | false =>
        rw [tryReserve_of_not_noted hindex hnoted]
        exact reject_requested consumer .arithmeticOverflow _ i
      | true =>
        obtain ⟨reason, -, heq⟩ | ⟨grant, -, heq⟩ := tryReserve_of_noted hindex hnoted
        · rw [heq]
          exact reject_requested consumer reason _ i
        · rw [heq]
          refine setConsumer_keeps_requested ?_ ?_ i
          · rfl
          · rfl
  | cancel consumer itemCount cost =>
    obtain heq | ⟨index, used, accepted, d, -, -, -, -, ⟨hrequested, hitems⟩, heq⟩ :=
      cancelReservation_cases consumer itemCount cost s
    · simp only [WorkloadGovernor.step, heq, noteCall, requestOf, and_self]
    · simp only [WorkloadGovernor.step, heq, noteCall, requestOf]
      exact setConsumer_keeps_requested hrequested hitems i

theorem requestsOf_append (i : Fin 3) (calls more : List Call) :
    requestsOf i (calls ++ more) = requestsOf i calls ++ requestsOf i more := by
  unfold requestsOf
  rw [List.filterMap_append, ofConsumer_append]

variable {calls : List Call} {call : Call}

theorem Noted.step {i : Fin 3} (h : Noted (requestsOf i calls) (s.consumers i))
    (hfits : Fits (requestsOf i (calls ++ [call]))) :
    Noted (requestsOf i (calls ++ [call])) ((WorkloadGovernor.step call s).2.consumers i) := by
  obtain ⟨hrequested, hitems⟩ := step_requests call s i
  suffices hnoted : Noted (requestsOf i (calls ++ [call])) (noteCall call i (s.consumers i)) from
    ⟨by rw [hrequested]; exact hnoted.valid, by rw [hrequested]; exact hnoted.requested,
      by rw [hitems]; exact hnoted.items⟩
  rw [requestsOf_append] at hfits ⊢
  unfold noteCall
  cases hcall : requestOf call with
  | none =>
    have hempty : requestsOf i [call] = [] := by simp [requestsOf, hcall, ofConsumer]
    rw [hempty, List.append_nil]
    exact h
  | some r =>
    by_cases hi : consumerIndex r.consumer = some i
    · have hone : requestsOf i [call] = [r] := by simp [requestsOf, hcall, ofConsumer, hi]
      rw [hone] at hfits ⊢
      dsimp only
      rw [if_pos hi]
      exact (h.next hfits).2
    · have hempty : requestsOf i [call] = [] := by simp [requestsOf, hcall, ofConsumer, hi]
      rw [hempty, List.append_nil]
      dsimp only
      rw [if_neg hi]
      exact h

theorem noted_run (frameSerial : UInt64) (limits : Limits) (i : Fin 3) (calls : List Call)
    (hfits : Fits (requestsOf i calls)) :
    Noted (requestsOf i calls)
      ((run WorkloadGovernor.step calls (beginFrame frameSerial limits)).consumers i) := by
  induction calls using List.reverseRecOn with
  | nil => exact ⟨rfl, rfl, rfl⟩
  | append_singleton calls call ih =>
    rw [Lib.run_append]
    have hfirst := hfits
    rw [requestsOf_append] at hfirst
    exact (ih hfirst.first).step hfits

def Notes (r : Happened) : Prop :=
  ∀ request index, requestOf r.call = some request → consumerIndex request.consumer = some index →
    (noteRequest request.itemCount request.cost (r.before.consumers index)).1 = true

theorem notes_history (frameSerial : UInt64) (limits : Limits)
    (hfits : ∀ i, Fits (requestsOf i calls)) :
    ∀ r ∈ history WorkloadGovernor.step calls (beginFrame frameSerial limits), Notes r := by
  intro r hr request index hrequest hindex
  obtain ⟨past, later, hsplit⟩ := List.mem_iff_append.mp hr
  obtain ⟨earlier, call, rest, rfl, -, rfl, -⟩ := Lib.history_split _ hsplit
  have hall := hfits index
  rw [← List.singleton_append, ← List.append_assoc, requestsOf_append] at hall
  have hnow := hall.first
  rw [requestsOf_append] at hnow
  have hone : requestsOf index [call] = [request] := by
    have hcall : requestOf call = some request := hrequest
    simp [requestsOf, hcall, ofConsumer, hindex]
  rw [hone] at hnow
  exact ((noted_run frameSerial limits index earlier hnow.first).next hnow).1

/-! ## Rejected calls -/

theorem sameView_of_rejected (h : (WorkloadGovernor.step call s).1 = false) :
    SameView (WorkloadGovernor.step call s).2 s := by
  cases call with
  | reserve consumer itemCount cost =>
    obtain ⟨-, hview⟩ | ⟨index, grant, s', -, -, -, heq⟩ :=
      tryReserve_cases consumer itemCount cost s
    · exact hview
    · rw [WorkloadGovernor.step, heq] at h
      cases h
  | cancel consumer itemCount cost =>
    obtain heq | ⟨index, used, accepted, d, -, -, -, -, -, heq⟩ :=
      cancelReservation_cases consumer itemCount cost s
    · rw [WorkloadGovernor.step, heq]
      exact SameView.refl s
    · rw [WorkloadGovernor.step, heq] at h
      cases h

theorem SameView.step (h : SameView s t) (hs : Notes (record WorkloadGovernor.step s call))
    (ht : Notes (record WorkloadGovernor.step t call)) :
    (WorkloadGovernor.step call s).1 = (WorkloadGovernor.step call t).1 ∧
      SameView (WorkloadGovernor.step call s).2 (WorkloadGovernor.step call t).2 := by
  cases call with
  | cancel consumer itemCount cost => exact cancelReservation_congr h consumer itemCount cost
  | reserve consumer itemCount cost =>
    have hreject : ∀ {u v : Diagnostics}, SameView u s → SameView v t → ∀ reason,
        SameView (reject consumer reason u) (reject consumer reason v) := fun hu hv reason =>
      ((sameView_reject _ _ _).comp hu).comp (h.comp ((sameView_reject _ _ _).comp hv).flip)
    simp only [WorkloadGovernor.step]
    cases hindex : consumerIndex consumer with
    | none =>
      rw [tryReserve_of_none hindex, tryReserve_of_none hindex]
      exact ⟨rfl, hreject (SameView.refl s) (SameView.refl t) _⟩
    | some index =>
      have hviews := sameView_note index itemCount cost s
      have hviewt := sameView_note index itemCount cost t
      -- Both requests are noted, so both are judged by the same view.
      have hjudge := judge_congr h index itemCount cost
      have hnoteds : (noteRequest itemCount cost (s.consumers index)).1 = true :=
        hs ⟨consumer, itemCount, cost⟩ index rfl hindex
      have hnotedt : (noteRequest itemCount cost (t.consumers index)).1 = true :=
        ht ⟨consumer, itemCount, cost⟩ index rfl hindex
      obtain ⟨reason, herror, heq⟩ | ⟨grant, hok, heq⟩ :=
        tryReserve_of_noted hindex hnoteds
      · obtain ⟨reason', herror', heq'⟩ | ⟨grant, hok', -⟩ :=
          tryReserve_of_noted hindex hnotedt
        · obtain rfl : reason = reason' := Except.error.inj (herror.symm.trans (hjudge.trans herror'))
          rw [heq, heq']
          exact ⟨rfl, hreject hviews hviewt reason⟩
        · rw [hjudge, hok'] at herror
          cases herror
      · obtain ⟨reason', herror', -⟩ | ⟨grant', hok', heq'⟩ :=
          tryReserve_of_noted hindex hnotedt
        · rw [hjudge, herror'] at hok
          cases hok
        · obtain rfl : grant = grant' := Except.ok.inj (hok.symm.trans (hjudge.trans hok'))
          rw [heq, heq']
          exact ⟨rfl, (hviews.comp (h.comp hviewt.flip)).commit index grant⟩

theorem Fits.without {i : Fin 3} {more : List Call}
    (h : Fits (requestsOf i (calls ++ call :: more))) : Fits (requestsOf i (calls ++ more)) := by
  have hperm : (requestsOf i (calls ++ call :: more)).Perm
      (requestsOf i (calls ++ more) ++ requestsOf i [call]) := by
    rw [← List.singleton_append, requestsOf_append, requestsOf_append, requestsOf_append, List.append_assoc]
    exact List.perm_append_comm.append_left _
  have hmoved : Fits (requestsOf i (calls ++ more) ++ requestsOf i [call]) :=
    ⟨fun r hr => h.valid r (hperm.mem_iff.mpr hr), by rw [← total_perm hperm]; exact h.draws,
      by rw [← total_perm hperm]; exact h.vertices, by rw [← total_perm hperm]; exact h.indices,
      by rw [← (hperm.map _).sum_eq]; exact h.items⟩
  exact hmoved.first

/-- In every frame, what is used is what was granted and not taken back, of every consumer and
together, and is within the limits; a rejected call leaves it; and where what every consumer asks
for is valid and fits 64 bits, the calls after a rejected one return what they return without it. -/
theorem governor_law (frameSerial : UInt64) (limits : Limits) (calls : List Call) :
    let start := beginFrame frameSerial limits
    let past := history step calls start
    let s := run step calls start
    (s.used.amounts + total (past.filterMap takenBack) = total (past.filterMap granted) ∧
      ∀ kept, (kept ++ past.filterMap takenBack).Perm (past.filterMap granted) →
        s.used.amounts = total kept) ∧
    (∀ i, (s.consumers i).accepted.amounts + total (ofConsumer i (past.filterMap takenBack)) =
      total (ofConsumer i (past.filterMap granted))) ∧
    Within s.used limits ∧
    (∀ r ∈ past, r.output = false → (step r.call r.before).2.used = r.before.used) ∧
    ((∀ i, Fits (requestsOf i calls)) → ∀ before call after, calls = before ++ call :: after →
      (step call (run step before start)).1 = false →
        (history step after (run step (before ++ [call]) start)).map Record.output =
          (history step after (run step before start)).map Record.output) := by
  intro start past s
  have hbooks : Books limits past s :=
    @Lib.history_induction _ _ _ step (fun t past => Books limits past t) start
      (books_beginFrame frameSerial limits) (fun _ _ call h => h.step call) calls
  refine ⟨⟨hbooks.used, fun kept hkept => ?_⟩, hbooks.accepted, hbooks.within, ?_, ?_⟩
  · have hused := hbooks.used
    rw [← total_perm hkept, total_append] at hused
    exact add_right_cancel hused
  · intro r hr hfalse
    obtain ⟨before, after, hsplit⟩ := List.mem_iff_append.mp hr
    obtain ⟨earlier, call, later, -, -, rfl, -⟩ := Lib.history_split step hsplit
    exact (sameView_of_rejected hfalse).used
  · rintro hfits before call after rfl hfalse
    have hwith := notes_history frameSerial limits hfits
    have hwithout := notes_history frameSerial limits fun i => (hfits i).without
    rw [← List.singleton_append, ← List.append_assoc, Lib.history_append,
      List.forall_mem_append] at hwith
    rw [Lib.history_append, List.forall_mem_append] at hwithout
    refine @Lib.outputs_eq_of_related _ _ _ step SameView Notes
      (fun _ _ _ h hs ht => h.step hs ht) after _ _ ?_ hwith.2 hwithout.2
    rw [Lib.run_append]
    exact sameView_of_rejected hfalse

/-- A reservation with an invalid cost is rejected, and for that alone a later one of the same
consumer is rejected that is accepted without it. -/
theorem rejected_spoils_later :
    let start := beginFrame 1 {}
    let spoiled : Call := .reserve 2 1 ⟨1, 1, 1, false⟩
    let later : Call := .reserve 2 1 ⟨1, 1, 1, true⟩
    (step spoiled start).1 = false ∧
      (history step [later] (run step [spoiled] start)).map Record.output = [false] ∧
        (history step [later] start).map Record.output = [true] := by
  decide +kernel

end War3VK.Render.WorkloadGovernor
