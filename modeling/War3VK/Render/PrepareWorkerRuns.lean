import Mathlib
import War3VK.Render.PrepareWorker

/-!
# What the prepare worker promises

In every order of the sections at most one job is in the mailbox; the jobs that were accepted are those
whose result was collected and then the one that is still there; their epochs and numbers increase; a
payload is given out only for the job that was asked for, and before stopping began. The last needs a
condition: that nothing is thrown in the loop of the thread, outside the processor, while a payload is
in the slot.
-/

namespace War3VK.Render.PrepareWorker

open Lib

variable {α β ε : Type}

def Before (g g' : Generation) : Prop :=
  g.rendererEpoch < g'.rendererEpoch ∨
    g.rendererEpoch = g'.rendererEpoch ∧ g.jobSerial < g'.jobSerial

theorem Before.trans {a b c : Generation} (hab : Before a b) (hbc : Before b c) : Before a c := by
  rcases hab with hab | ⟨hab, hab'⟩ <;> rcases hbc with hbc | ⟨hbc, hbc'⟩
  · exact Or.inl (UInt64.lt_trans hab hbc)
  · exact Or.inl (hbc ▸ hab)
  · exact Or.inl (hab ▸ hbc)
  · exact Or.inr ⟨hab.trans hbc, UInt64.lt_trans hab' hbc'⟩

theorem before_of_not_stale {previous candidate : Generation} (hvalid : previous.valid = true)
    (h : isStaleSubmission previous candidate = false) : Before previous candidate := by
  unfold isStaleSubmission at h
  rw [hvalid] at h
  by_cases hepoch : candidate.rendererEpoch = previous.rendererEpoch
  · rw [if_neg (by simp), if_neg (by simp [hepoch])] at h
    exact Or.inr ⟨hepoch.symm, UInt64.not_le.mp (of_decide_eq_false h)⟩
  · rw [if_neg (by simp), if_pos (by simpa using hepoch)] at h
    have hle := UInt64.not_lt.mp (of_decide_eq_false h)
    exact Or.inl (UInt64.lt_of_le_of_ne hle fun heq => hepoch heq.symm)

/-! ## What happened -/

namespace Mailbox

abbrev Happened (α β ε : Type) := Record (Mailbox α β ε) (Event α ε) (Output α β ε)

def acceptedRequest (r : Happened α β ε) : Option (Request α) :=
  match r.call, r.output with
  | .submit request, .submitted .accepted _ => some request
  | _, _ => none

def ofJob (state : ResultState) : Bool :=
  state = .ready || state = .failed || state = .cancelled || state = .stale

def collectedJob (r : Happened α β ε) : Option Generation :=
  match r.output with
  | .collected result => if ofJob result.state then some result.generation else none
  | _ => none

def acceptedRequests (past : List (Happened α β ε)) : List (Request α) := past.filterMap acceptedRequest

def collectedJobs (past : List (Happened α β ε)) : List Generation := past.filterMap collectedJob

def runningRequest (m : Mailbox α β ε) : Option (Request α) :=
  match m.thread with
  | .running request => some request
  | _ => none

def heldJobs (m : Mailbox α β ε) : List Generation :=
  m.shared.resultSlot.toList.map Result.generation ++
    m.runningRequest.toList.map Request.generation ++ m.shared.requestSlot.toList.map Request.generation

def Asks (event : Event α ε) (expected : Generation) : Prop :=
  event = .tryCollectExact expected ∨ event = .waitAndCollectExact expected

/-- Nothing is thrown in the loop of the thread while a payload is in the slot. -/
def Meets (event : Event α ε) (m : Mailbox α β ε) : Prop :=
  match event, m.thread with
  | .fault _, .waiting => ∀ result, m.shared.resultSlot = some result → result.payload = none
  | _, _ => True

/-! ## The sections -/

/-- What holds between two sections, by the requests that were accepted and the jobs that were
collected. -/
structure Sound (processor : Request α → Except ε β) (accepted : List (Request α))
    (collected : List Generation) (m : Mailbox α β ε) : Prop where
  flag : m.shared.workerRunning = m.runningRequest.isSome
  single : m.heldJobs.length ≤ 1
  accounted : accepted.map Request.generation = collected ++ m.heldJobs
  increasing : (accepted.map Request.generation).Pairwise Before
  last : ∀ g ∈ accepted.map Request.generation, m.shared.lastSubmitted.valid = true ∧
    (g = m.shared.lastSubmitted ∨ Before g m.shared.lastSubmitted)
  result : ∀ result, m.shared.resultSlot = some result → ofJob result.state = true
  /-- Its payload was made for the job, and stopping did not begin. -/
  payload : ∀ result payload, m.shared.resultSlot = some result → result.payload = some payload →
    result.state = .ready ∧ m.shared.stopping = false ∧
      ∃ request ∈ accepted, request.generation = result.generation ∧ processor request = .ok payload
  running : ∀ request, m.runningRequest = some request → request ∈ accepted
  pending : ∀ request, m.shared.requestSlot = some request → request ∈ accepted
  stopped : m.shared.stopping = true → m.shared.requestSlot = none
  ended : m.thread = .ended → m.shared.stopping = true

variable {processor : Request α → Except ε β} {accepted : List (Request α)}
  {collected : List Generation} {m : Mailbox α β ε}

theorem heldJobs_of {held : List Generation} {result : Option (Result β ε)}
    {running request : Option (Request α)}
    (hresult : m.shared.resultSlot = result) (hrunning : m.runningRequest = running)
    (hrequest : m.shared.requestSlot = request)
    (hheld : result.toList.map Result.generation ++ running.toList.map Request.generation ++
      request.toList.map Request.generation = held) : m.heldJobs = held := by
  rw [heldJobs, hresult, hrunning, hrequest, hheld]

variable {request : Request α} {result : Result β ε}

section

variable (h : Sound processor accepted collected m)
include h

theorem Sound.of_request (hrequest : m.shared.requestSlot = some request) :
    m.shared.resultSlot = none ∧ m.runningRequest = none ∧ m.heldJobs = [request.generation] := by
  have hsingle := h.single
  unfold heldJobs at hsingle ⊢
  rw [hrequest] at hsingle ⊢
  cases hresult : m.shared.resultSlot <;> cases hrunning : m.runningRequest <;>
    simp [hresult, hrunning] at hsingle ⊢

theorem Sound.of_running (hthread : m.thread = .running request) :
    m.shared.resultSlot = none ∧ m.shared.requestSlot = none ∧ m.heldJobs = [request.generation] := by
  have hrunning : m.runningRequest = some request := by
    unfold runningRequest
    rw [hthread]
  have hsingle := h.single
  unfold heldJobs at hsingle ⊢
  rw [hrunning] at hsingle ⊢
  cases hresult : m.shared.resultSlot <;> cases hrequest : m.shared.requestSlot <;>
    simp [hresult, hrequest] at hsingle ⊢

theorem Sound.of_result (hresult : m.shared.resultSlot = some result) :
    m.shared.requestSlot = none ∧ m.runningRequest = none ∧ m.heldJobs = [result.generation] := by
  have hsingle := h.single
  unfold heldJobs at hsingle ⊢
  rw [hresult] at hsingle ⊢
  cases hrequest : m.shared.requestSlot <;> cases hrunning : m.runningRequest <;>
    simp [hrequest, hrunning] at hsingle ⊢

theorem Sound.submit (request : Request α) :
    let r := m.shared.submit request
    (r.1 = .accepted ∧ Sound processor (accepted ++ [request]) collected { m with shared := r.2.2 }) ∨
    (r.1 ≠ .accepted ∧ r.2.1 = some request ∧ r.2.2 = m.shared) := by
  unfold SharedState.submit
  dsimp only
  split_ifs with hvalid hfailed hstopping havailable hstale hbusy
  · exact Or.inr ⟨nofun, rfl, rfl⟩
  · exact Or.inr ⟨nofun, rfl, rfl⟩
  · exact Or.inr ⟨nofun, rfl, rfl⟩
  · exact Or.inr ⟨nofun, rfl, rfl⟩
  · exact Or.inr ⟨nofun, rfl, rfl⟩
  · exact Or.inr ⟨nofun, rfl, rfl⟩
  · refine Or.inl ⟨rfl, ?_⟩
    simp only [Bool.or_eq_true, not_or, Bool.not_eq_true, Option.isSome_eq_false_iff,
      Option.isNone_iff_eq_none] at hbusy
    obtain ⟨⟨hrequest, hflag⟩, hresult⟩ := hbusy
    have hvalid' : request.generation.valid = true := by simpa using hvalid
    have hrunning : m.runningRequest = none := by
      have hnot := h.flag
      rw [hflag] at hnot
      exact Option.isNone_iff_eq_none.mp (Option.isSome_eq_false_iff.mp hnot.symm)
    have hheld : m.heldJobs = [] := heldJobs_of hresult hrunning hrequest rfl
    have hheld' : @heldJobs α β ε { m with
        shared := { m.shared with
          lastSubmitted := request.generation, requestSlot := some request } } =
        [request.generation] := heldJobs_of hresult hrunning rfl rfl
    have hbefore : ∀ g ∈ accepted.map Request.generation, Before g request.generation := by
      intro g hg
      obtain ⟨hlast, hle⟩ := h.last g hg
      have hnew := before_of_not_stale hlast (eq_false_of_ne_true hstale)
      rcases hle with rfl | hlt
      · exact hnew
      · exact hlt.trans hnew
    exact {
      flag := h.flag
      single := Nat.le_of_eq (congrArg List.length hheld')
      accounted := by
        rw [List.map_append, h.accounted, hheld, List.append_nil]
        exact congrArg (collected ++ ·) hheld'.symm
      increasing := by
        rw [List.map_append, List.pairwise_append]
        refine ⟨h.increasing, List.pairwise_singleton _ _, fun g hg g' hg' => ?_⟩
        rw [List.mem_singleton.mp hg']
        exact hbefore g hg
      last := by
        intro g hg
        rw [List.map_append, List.mem_append] at hg
        refine ⟨hvalid', hg.symm.imp (fun hg => List.mem_singleton.mp hg) (hbefore g)⟩
      result := h.result
      payload := fun result payload hslot => by
        rw [show _ = none from hresult] at hslot
        exact (nomatch hslot)
      running := fun r hr => List.mem_append_left _ (h.running r hr)
      pending := fun r hr => by
        rw [← Option.some.inj hr]
        exact List.mem_append_right _ (List.mem_singleton_self request)
      stopped := fun hnow => absurd hnow hstopping
      ended := h.ended }

theorem Sound.consume (expected : Generation) (hresult : m.shared.resultSlot = some result) :
    let r := m.shared.consumeResultLocked expected result
    ofJob r.1.state = true ∧
      Sound processor accepted (collected ++ [r.1.generation]) { m with shared := r.2 } ∧
      ∀ payload, r.1.payload = some payload → r.1.state = .ready ∧ r.1.generation = expected ∧
        m.shared.stopping = false ∧
        ∃ request ∈ accepted, request.generation = expected ∧ processor request = .ok payload := by
  obtain ⟨hrequest, hrunning, hheld⟩ := h.of_result hresult
  have hheld' : @heldJobs α β ε { m with shared := { m.shared with resultSlot := none } } = [] :=
    heldJobs_of rfl hrunning hrequest rfl
  have hsound : Sound processor accepted (collected ++ [result.generation])
      { m with shared := { m.shared with resultSlot := none } } := {
    flag := h.flag
    single := Nat.le_of_lt (Nat.lt_succ_of_le (Nat.le_of_eq (congrArg List.length hheld')))
    accounted := by
      rw [h.accounted, hheld, hheld', List.append_nil]
    increasing := h.increasing
    last := h.last
    result := fun _ hslot => (nomatch hslot)
    payload := fun _ _ hslot => (nomatch hslot)
    running := h.running
    pending := h.pending
    stopped := h.stopped
    ended := h.ended }
  unfold SharedState.consumeResultLocked
  dsimp only
  split_ifs with hother
  · -- The result is of another job, and is dropped.
    exact ⟨rfl, hsound, nofun⟩
  · refine ⟨h.result result hresult, hsound, fun payload hpayload => ?_⟩
    obtain ⟨hstate, hstopping, hmade⟩ := h.payload result payload hresult hpayload
    rw [not_not.mp hother] at hmade
    exact ⟨hstate, not_not.mp hother, hstopping, hmade⟩

end

def Collects (processor : Request α → Except ε β) (accepted : List (Request α))
    (collected : List Generation) (m : Mailbox α β ε) (expected : Generation) (result : Result β ε)
    (s : SharedState α β ε) : Prop :=
  (ofJob result.state = true ∧
    Sound processor accepted (collected ++ [result.generation]) { m with shared := s } ∧
    ∀ payload, result.payload = some payload → result.state = .ready ∧ result.generation = expected ∧
      m.shared.stopping = false ∧
      ∃ request ∈ accepted, request.generation = expected ∧ processor request = .ok payload) ∨
  (ofJob result.state = false ∧ result.payload = none ∧ s = m.shared)

theorem Sound.tryCollectExact (h : Sound processor accepted collected m) (expected : Generation) :
    Collects processor accepted collected m expected (m.shared.tryCollectExact expected).1
      (m.shared.tryCollectExact expected).2 := by
  unfold SharedState.tryCollectExact
  split_ifs with hvalid
  · exact Or.inr ⟨rfl, rfl, rfl⟩
  · cases hresult : m.shared.resultSlot with
    | none => exact Or.inr ⟨rfl, rfl, rfl⟩
    | some result => exact Or.inl (h.consume expected hresult)

theorem Sound.waitAndCollectExact (h : Sound processor accepted collected m) (expected : Generation) :
    let r := m.shared.waitAndCollectExact expected
    (r.1 = none ∧ r.2 = m.shared) ∨
      ∃ result, r.1 = some result ∧ Collects processor accepted collected m expected result r.2 := by
  unfold SharedState.waitAndCollectExact
  by_cases hvalid : (!expected.valid) = true
  · rw [if_pos hvalid]
    exact Or.inr ⟨_, rfl, Or.inr ⟨rfl, rfl, rfl⟩⟩
  rw [if_neg hvalid]
  cases hresult : m.shared.resultSlot with
  | some result => exact Or.inr ⟨_, rfl, Or.inl (h.consume expected hresult)⟩
  | none =>
    dsimp only
    by_cases hnone : (!m.shared.available && !m.shared.workerRunning &&
        m.shared.requestSlot.isNone) = true
    · rw [if_pos hnone]
      refine Or.inr ⟨_, rfl, Or.inr ⟨?_, rfl, rfl⟩⟩
      split_ifs <;> rfl
    · rw [if_neg hnone]
      exact Or.inl ⟨rfl, rfl⟩

variable {m' : Mailbox α β ε}

section

variable (h : Sound processor accepted collected m)
include h

theorem Sound.replaced (hheld : m'.heldJobs = m.heldJobs)
    (hflag : m'.shared.workerRunning = m'.runningRequest.isSome)
    (hlast : m'.shared.lastSubmitted = m.shared.lastSubmitted)
    (hresult : ∀ result, m'.shared.resultSlot = some result →
      ofJob result.state = true ∧ ∀ payload, result.payload = some payload →
        result.state = .ready ∧ m'.shared.stopping = false ∧
          ∃ request ∈ accepted, request.generation = result.generation ∧ processor request = .ok payload)
    (hrunning : ∀ request, m'.runningRequest = some request → request ∈ accepted)
    (hpending : ∀ request, m'.shared.requestSlot = some request → request ∈ accepted)
    (hstopped : m'.shared.stopping = true → m'.shared.requestSlot = none)
    (hended : m'.thread = .ended → m'.shared.stopping = true) :
    Sound processor accepted collected m' := {
  flag := hflag
  single := hheld ▸ h.single
  accounted := hheld ▸ h.accounted
  increasing := h.increasing
  last := hlast ▸ h.last
  result := fun result hslot => (hresult result hslot).1
  payload := fun result payload hslot => (hresult result hslot).2 payload
  running := hrunning
  pending := hpending
  stopped := hstopped
  ended := hended }

theorem Sound.emptied (hresult : m'.shared.resultSlot = some result)
    (hheld : m.heldJobs = [result.generation]) (hjob : ofJob result.state = true)
    (hpayload : result.payload = none) (hrequest : m'.shared.requestSlot = none)
    (hrunning : m'.runningRequest = none) (hflag : m'.shared.workerRunning = false)
    (hlast : m'.shared.lastSubmitted = m.shared.lastSubmitted)
    (hended : m'.thread = .ended → m'.shared.stopping = true) :
    Sound processor accepted collected m' := by
  have hheld' : m'.heldJobs = [result.generation] := heldJobs_of hresult hrunning hrequest rfl
  refine h.replaced (hheld'.trans hheld.symm) ?_ hlast (fun result' hslot => ?_) (fun r hr => ?_)
    (fun r hr => ?_) (fun _ => hrequest) hended
  · rw [hflag, hrunning]
    rfl
  · obtain rfl := Option.some.inj (hresult.symm.trans hslot)
    refine ⟨hjob, fun payload hsome => ?_⟩
    rw [hpayload] at hsome
    exact (nomatch hsome)
  · rw [hrunning] at hr
    exact (nomatch hr)
  · rw [hrequest] at hr
    exact (nomatch hr)

theorem Sound.cancelled (hresult : m.shared.resultSlot = some result)
    (hstate : result.state = .cancelled) : result.payload = none := by
  cases hpayload : result.payload with
  | none => rfl
  | some payload =>
    have hready := (h.payload result payload hresult hpayload).1
    rw [hstate] at hready
    exact (nomatch hready)

theorem Sound.stop :
    Sound processor accepted collected { m with shared := m.shared.stop, joining := true } := by
  unfold SharedState.stop
  split_ifs with hstopping
  · exact h.replaced rfl h.flag rfl (fun result hslot => ⟨h.result result hslot, fun payload =>
      h.payload result payload hslot⟩) h.running h.pending h.stopped h.ended
  unfold SharedState.cancelPendingRequestLocked
  cases hrequest : m.shared.requestSlot with
  | some request =>
    -- The request that waits becomes a cancelled result, which stays as it is.
    obtain ⟨hresult, hrunning, hheld⟩ := h.of_request hrequest
    have hflag : m.shared.workerRunning = false := by rw [h.flag, hrunning]; rfl
    unfold SharedState.cancelCompletedResultLocked
    dsimp only
    rw [hflag, if_neg Bool.false_ne_true]
    split_ifs with hstate
    · exact h.emptied rfl hheld rfl rfl rfl hrunning rfl rfl fun _ => rfl
    · exact absurd rfl hstate
  | none =>
    unfold SharedState.cancelCompletedResultLocked
    dsimp only
    cases hresult : m.shared.resultSlot with
    | none =>
      dsimp only
      refine h.replaced ?_ h.flag rfl (fun _ hslot => (nomatch hslot)) h.running
        (fun _ hr => (nomatch hr)) (fun _ => rfl) (fun _ => rfl)
      exact (heldJobs_of rfl rfl rfl rfl).trans (heldJobs_of hresult rfl hrequest rfl).symm
    | some result =>
      obtain ⟨-, hrunning, hheld⟩ := h.of_result hresult
      have hflag : m.shared.workerRunning = false := by rw [h.flag, hrunning]; rfl
      dsimp only
      rw [hflag, if_neg Bool.false_ne_true]
      split_ifs with hcancelled
      · exact h.emptied rfl hheld (h.result result hresult) (h.cancelled hresult hcancelled) rfl
          hrunning rfl rfl fun _ => rfl
      · exact h.emptied rfl hheld rfl rfl rfl hrunning rfl rfl fun _ => rfl

theorem Sound.join : Sound processor accepted collected m.join := by
  unfold Mailbox.join
  split
  · split_ifs
    · exact ⟨h.flag, h.single, h.accounted, h.increasing, h.last, h.result, h.payload, h.running,
        h.pending, h.stopped, h.ended⟩
    · exact h
  · exact h

theorem Sound.takeRequest : Sound processor accepted collected m.takeRequest := by
  unfold Mailbox.takeRequest
  cases hthread : m.thread with
  | waiting =>
    have hrunning : m.runningRequest = none := by rw [runningRequest, hthread]
    cases hrequest : m.shared.requestSlot with
    | none =>
      dsimp only
      split_ifs with hstopping
      · have hflag : m.shared.workerRunning = false := by rw [h.flag, hrunning]; rfl
        refine h.replaced ((heldJobs_of rfl rfl rfl rfl).trans (heldJobs_of rfl hrunning rfl rfl).symm)
          hflag rfl (fun result hslot => ⟨h.result result hslot, fun payload =>
            h.payload result payload hslot⟩) (fun _ hr => (nomatch hr)) h.pending h.stopped
          (fun _ => hstopping)
      · exact h
    | some request =>
      obtain ⟨hresult, -, hheld⟩ := h.of_request hrequest
      refine h.replaced ?_ rfl rfl (fun result hslot => ?_) (fun r hr => ?_)
        (fun _ hr => (nomatch hr)) (fun _ => rfl) (fun hended => (nomatch hended))
      · rw [hheld]
        exact heldJobs_of hresult rfl rfl rfl
      · exact (nomatch hresult.symm.trans hslot)
      · obtain rfl := Option.some.inj hr
        exact h.pending _ hrequest
  | running request => exact h
  | ended => exact h

theorem Sound.finish : Sound processor accepted collected (m.finish processor) := by
  unfold Mailbox.finish
  cases hthread : m.thread with
  | waiting => exact h
  | ended => exact h
  | running request =>
    have hrunning : m.runningRequest = some request := by rw [runningRequest, hthread]
    obtain ⟨-, hrequest, hheld⟩ := h.of_running hthread
    have hgeneration : (SharedState.processed processor request).generation = request.generation := by
      unfold SharedState.processed
      cases processor request <;> rfl
    have hheld' : m.heldJobs = [(SharedState.processed processor request).generation] := by
      rw [hheld, hgeneration]
    unfold SharedState.putResult
    dsimp only
    split_ifs with hstopping
    · -- The result is cancelled, for stopping began.
      exact h.emptied rfl hheld' rfl rfl hrequest rfl rfl rfl fun hended => (nomatch hended)
    · refine h.replaced ?_ rfl rfl (fun result hslot => ?_) (fun _ hr => (nomatch hr)) h.pending
        h.stopped (fun hended => (nomatch hended))
      · rw [hheld']
        exact heldJobs_of rfl rfl hrequest rfl
      · obtain rfl := Option.some.inj hslot
        unfold SharedState.processed
        cases hmade : processor request with
        | error failure => exact ⟨rfl, nofun⟩
        | ok payload =>
          refine ⟨rfl, fun p hp => ?_⟩
          obtain rfl := Option.some.inj hp
          exact ⟨rfl, eq_false_of_ne_true hstopping, request, h.running request hrunning, rfl, hmade⟩

theorem Sound.fault {failure : ε} (hmeets : Meets (.fault failure) m) :
    Sound processor accepted collected (m.fault failure) := by
  unfold Mailbox.fault SharedState.workerFailed
  cases hthread : m.thread with
  | ended => exact h
  | running request =>
    obtain ⟨hresult, hrequest, hheld⟩ := h.of_running hthread
    dsimp only
    rw [hresult]
    exact h.emptied rfl hheld rfl rfl hrequest rfl rfl rfl fun _ => rfl
  | waiting =>
    have hrunning : m.runningRequest = none := by rw [runningRequest, hthread]
    dsimp only
    cases hresult : m.shared.resultSlot with
    | some result =>
      -- The condition: what is in the slot has no payload.
      obtain ⟨hrequest, -, hheld⟩ := h.of_result hresult
      unfold Meets at hmeets
      rw [hthread] at hmeets
      exact h.emptied rfl hheld (h.result result hresult) (hmeets result hresult) hrequest rfl rfl rfl
        fun _ => rfl
    | none =>
      cases hrequest : m.shared.requestSlot with
      | some request =>
        obtain ⟨-, -, hheld⟩ := h.of_request hrequest
        exact h.emptied rfl hheld rfl rfl rfl rfl rfl rfl fun _ => rfl
      | none =>
        dsimp only
        refine h.replaced ?_ rfl rfl (fun _ hslot => (nomatch hslot)) (fun _ hr => (nomatch hr))
          (fun _ hr => (nomatch hr)) (fun _ => rfl) (fun _ => rfl)
        exact (heldJobs_of rfl rfl rfl rfl).trans (heldJobs_of hresult hrunning hrequest rfl).symm

end

/-! ## Every run -/

variable {past : List (Happened α β ε)}

theorem acceptedRequests_concat (past : List (Happened α β ε)) (r : Happened α β ε) :
    acceptedRequests (past ++ [r]) = acceptedRequests past ++ (acceptedRequest r).toList :=
  filterMap_concat acceptedRequest past r

theorem collectedJobs_concat (past : List (Happened α β ε)) (r : Happened α β ε) :
    collectedJobs (past ++ [r]) = collectedJobs past ++ (collectedJob r).toList :=
  filterMap_concat collectedJob past r

/-- What holds of an event as it happened: a payload that it gives out, and a request that it leaves. -/
def Kept (processor : Request α → Except ε β) (accepted : List (Request α)) (r : Happened α β ε) :
    Prop :=
  (∀ expected result payload, Asks r.call expected → r.output = .collected result →
    result.payload = some payload →
      result.state = .ready ∧ result.generation = expected ∧ r.before.shared.stopping = false ∧
        ∃ request ∈ accepted, request.generation = expected ∧ processor request = .ok payload) ∧
  ∀ request status left, r.call = .submit request → r.output = .submitted status left →
    status ≠ .accepted → left = some request

structure Runs (processor : Request α → Except ε β) (past : List (Happened α β ε))
    (m : Mailbox α β ε) : Prop where
  sound : Sound processor (acceptedRequests past) (collectedJobs past) m
  kept : ∀ r ∈ past, Kept processor (acceptedRequests past) r

variable {r : Happened α β ε}

section

variable (h : Runs processor past m)
include h

theorem Runs.quiet (hsound : Sound processor (acceptedRequests past) (collectedJobs past) m')
    (hdone : r.output = .done) : Runs processor (past ++ [r]) m' := by
  have haccepted : acceptedRequest r = none := by
    unfold acceptedRequest
    rw [hdone]
    cases r.call <;> rfl
  have hcollected : collectedJob r = none := by
    unfold collectedJob
    rw [hdone]
  have hrequests : acceptedRequests (past ++ [r]) = acceptedRequests past := by
    rw [acceptedRequests_concat, haccepted]
    exact List.append_nil _
  have hjobs : collectedJobs (past ++ [r]) = collectedJobs past := by
    rw [collectedJobs_concat, hcollected]
    exact List.append_nil _
  refine ⟨by rw [hrequests, hjobs]; exact hsound, ?_⟩
  rw [hrequests, List.forall_mem_append, List.forall_mem_singleton]
  refine ⟨h.kept, fun _ _ _ _ houtput => ?_, fun _ _ _ _ houtput => ?_⟩
  · rw [hdone] at houtput
    exact (nomatch houtput)
  · rw [hdone] at houtput
    exact (nomatch houtput)

theorem Runs.collect {expected : Generation} {s : SharedState α β ε} (hbefore : r.before = m)
    (hcall : ∀ expected', Asks r.call expected' → expected' = expected)
    (hsubmit : ∀ request, r.call ≠ .submit request) (houtput : r.output = .collected result)
    (hcollects : Collects processor (acceptedRequests past) (collectedJobs past) m expected result s) :
    Runs processor (past ++ [r]) { m with shared := s } := by
  have haccepted : acceptedRequest r = none := by
    unfold acceptedRequest
    rw [houtput]
    cases r.call <;> rfl
  have hrequests : acceptedRequests (past ++ [r]) = acceptedRequests past := by
    rw [acceptedRequests_concat, haccepted]
    exact List.append_nil _
  have hkept : ∀ payload, result.payload = some payload → result.state = .ready ∧
      result.generation = expected ∧ m.shared.stopping = false ∧
      ∃ request ∈ acceptedRequests past, request.generation = expected ∧
        processor request = .ok payload := by
    intro payload hpayload
    rcases hcollects with ⟨-, -, hall⟩ | ⟨-, hnone, -⟩
    · exact hall payload hpayload
    · rw [hnone] at hpayload
      exact (nomatch hpayload)
  refine ⟨?_, ?_⟩
  · rw [hrequests, collectedJobs_concat, collectedJob, houtput]
    rcases hcollects with ⟨hjob, hsound, -⟩ | ⟨hjob, -, hsame⟩
    · dsimp only
      rw [if_pos hjob]
      exact hsound
    · dsimp only
      rw [hjob, if_neg Bool.false_ne_true, hsame]
      simpa using h.sound
  · rw [hrequests, List.forall_mem_append, List.forall_mem_singleton]
    refine ⟨h.kept, fun expected' result' payload hasks houtput' hpayload => ?_,
      fun request _ _ hsubmitted => absurd hsubmitted (hsubmit request)⟩
    obtain rfl := Output.collected.inj (houtput.symm.trans houtput')
    obtain rfl := hcall expected' hasks
    rw [hbefore]
    exact hkept payload hpayload

theorem Runs.submit (hcall : r.call = .submit request)
    (houtput : r.output = .submitted (m.shared.submit request).1 (m.shared.submit request).2.1) :
    Runs processor (past ++ [r]) { m with shared := (m.shared.submit request).2.2 } := by
  have hcollected : collectedJob r = none := by
    unfold collectedJob
    rw [houtput]
  have hjobs : collectedJobs (past ++ [r]) = collectedJobs past := by
    rw [collectedJobs_concat, hcollected]
    exact List.append_nil _
  have hasks : ∀ expected, ¬Asks r.call expected := by
    intro expected hasks
    rw [hcall] at hasks
    exact hasks.elim nofun nofun
  -- What was given out stays what an accepted request asked for.
  have hgrows : ∀ r' ∈ past, ∀ more, Kept processor (acceptedRequests past ++ more) r' := by
    intro r' hr' more
    refine ⟨fun expected result payload hcall hout hpayload => ?_, (h.kept r' hr').2⟩
    obtain ⟨hready, hgen, hstop, asked, hmem, hmade⟩ :=
      (h.kept r' hr').1 expected result payload hcall hout hpayload
    exact ⟨hready, hgen, hstop, asked, List.mem_append_left _ hmem, hmade⟩
  have hrefused : ∀ request' status left, r.call = .submit request' →
      r.output = .submitted status left → status ≠ .accepted →
      (m.shared.submit request).1 ≠ .accepted ∧ left = (m.shared.submit request).2.1 ∧
        request' = request := by
    intro request' status left hcall' houtput' hstatus
    obtain ⟨rfl, rfl⟩ := Output.submitted.inj (houtput.symm.trans houtput')
    exact ⟨hstatus, rfl, Event.submit.inj (hcall'.symm.trans hcall)⟩
  rcases h.sound.submit request with ⟨haccepted, hsound⟩ | ⟨hstatus, hleft, hsame⟩
  · have hnew : acceptedRequest r = some request := by
      unfold acceptedRequest
      rw [hcall, houtput, haccepted]
    have hrequests : acceptedRequests (past ++ [r]) = acceptedRequests past ++ [request] := by
      rw [acceptedRequests_concat, hnew]
      rfl
    refine ⟨by rw [hrequests, hjobs]; exact hsound, ?_⟩
    rw [hrequests, List.forall_mem_append, List.forall_mem_singleton]
    refine ⟨fun r' hr' => hgrows r' hr' [request], fun expected _ _ hcall' => absurd hcall' (hasks _),
      fun request' status left hcall' houtput' hstatus => ?_⟩
    exact absurd haccepted (hrefused request' status left hcall' houtput' hstatus).1
  · have hnone : acceptedRequest r = none := by
      unfold acceptedRequest
      rw [hcall, houtput]
      cases hcase : (m.shared.submit request).1 <;> first | rfl | exact absurd hcase hstatus
    have hrequests : acceptedRequests (past ++ [r]) = acceptedRequests past := by
      rw [acceptedRequests_concat, hnone]
      exact List.append_nil _
    refine ⟨by rw [hrequests, hjobs, hsame]; exact h.sound, ?_⟩
    rw [hrequests, List.forall_mem_append, List.forall_mem_singleton]
    refine ⟨h.kept, fun expected _ _ hcall' => absurd hcall' (hasks _),
      fun request' status left hcall' houtput' hstatus' => ?_⟩
    obtain ⟨-, hleft', rfl⟩ := hrefused request' status left hcall' houtput' hstatus'
    rw [hleft', hleft]

theorem Runs.step {event : Event α ε} (hmeets : Meets event m) :
    Runs processor (past ++ [record (Mailbox.step processor) m event])
      (Mailbox.step processor event m).2 := by
  cases event with
  | submit request => exact h.submit rfl rfl
  | tryCollectExact expected =>
    refine h.collect rfl (fun expected' hasks => ?_) (fun _ hcall => by cases hcall) rfl
      (h.sound.tryCollectExact expected)
    rcases hasks with hasks | hasks
    · exact (Event.tryCollectExact.inj hasks).symm
    · cases hasks
  | waitAndCollectExact expected =>
    rcases h.sound.waitAndCollectExact expected with ⟨hnone, hsame⟩ | ⟨result, hsome, hcollects⟩
    · have hquiet : (Mailbox.step processor (.waitAndCollectExact expected) m).2 = m := by
        show ({ m with shared := (m.shared.waitAndCollectExact expected).2 } : Mailbox α β ε) = m
        rw [hsame]
      rw [hquiet]
      refine h.quiet h.sound ?_
      simp only [record, Mailbox.step, hnone]
    · refine h.collect rfl (fun expected' hasks => ?_) (fun _ hcall => by cases hcall) ?_ hcollects
      · rcases hasks with hasks | hasks
        · cases hasks
        · exact (Event.waitAndCollectExact.inj hasks).symm
      · simp only [record, Mailbox.step, hsome]
  | stop =>
    refine h.quiet ?_ rfl
    show Sound processor _ _ (if m.joining then m else _)
    split_ifs
    · exact h.sound
    · exact h.sound.stop
  | join => exact h.quiet h.sound.join rfl
  | takeRequest => exact h.quiet h.sound.takeRequest rfl
  | finish => exact h.quiet h.sound.finish rfl
  | fault failure => exact h.quiet (h.sound.fault hmeets) rfl

end

theorem Sound.finished (h : Sound processor accepted collected m)
    (hrequest : m.shared.requestSlot = none ∨ ∃ request, m.thread = .running request) :
    (m.finish processor).shared.requestSlot = none ∧ (m.finish processor).shared.workerRunning = false := by
  unfold Mailbox.finish
  cases hthread : m.thread with
  | running request => exact ⟨(h.of_running hthread).2.1, rfl⟩
  | waiting =>
    have hrunning : m.runningRequest = none := by rw [runningRequest, hthread]
    refine ⟨hrequest.resolve_right fun ⟨_, hother⟩ => (nomatch hthread.symm.trans hother), ?_⟩
    rw [h.flag, hrunning]
    rfl
  | ended =>
    have hrunning : m.runningRequest = none := by rw [runningRequest, hthread]
    refine ⟨hrequest.resolve_right fun ⟨_, hother⟩ => (nomatch hthread.symm.trans hother), ?_⟩
    rw [h.flag, hrunning]
    rfl

theorem Sound.answered (h : Sound processor accepted collected m) :
    (m.takeRequest.finish processor).shared.requestSlot = none ∧
      (m.takeRequest.finish processor).shared.workerRunning = false := by
  refine h.takeRequest.finished ?_
  unfold Mailbox.takeRequest
  cases hthread : m.thread with
  | running request => exact Or.inr ⟨request, hthread⟩
  | ended => exact Or.inl (h.stopped (h.ended hthread))
  | waiting =>
    cases hrequest : m.shared.requestSlot with
    | some request => exact Or.inr ⟨request, rfl⟩
    | none =>
      dsimp only
      split_ifs
      · exact Or.inl hrequest
      · exact Or.inl hrequest

def echo (request : Request ℕ) : Except Unit ℕ := .ok request.payload

end Mailbox

end War3VK.Render.PrepareWorker
