import Mathlib
import War3VK.Lib.Machine

/-!
# The trigger mailbox of the recorder

A hotkey asks for a recording without a lock, and the session's thread arms the mailbox and consumes
what was asked for (`src/d3d9/war3/tools/war3_frame_recorder_session.h`, `TriggerMailbox`). The model
has an event for each atomic step. Any number of requests are under way, each at a step of its own, and
the session's thread may be between the two stores of `arm`.
-/

namespace War3VK.Tools.TriggerMailbox

open Lib

/-- Where a request is: before it reads `pending`, before it writes it, before it reads `active` again,
or at its end. -/
inductive RequestStep
  | loading (session : UInt64)
  | publishing (session previous : UInt64)
  | confirming (session : UInt64)
  | finished
  deriving DecidableEq, Repr

def RequestStep.session : RequestStep → Option UInt64
  | .loading session => some session
  | .publishing session _ => some session
  | .confirming session => some session
  | .finished => none

/-- `TriggerMailbox`, the requests that are under way and the session's thread. -/
structure State where
  active : UInt64 := 0
  pending : UInt64 := 0
  /-- The requests, in the order in which they began. -/
  requests : List RequestStep := []
  lastArmed : UInt64 := 0
  /-- The session's thread is between the stores of `arm`. -/
  arming : Bool := false
  deriving DecidableEq, Repr

inductive Event
  | request
  | advance (n : ℕ) (spurious : Bool)
  | arm (session : UInt64)
  | armed
  | disarm
  | consume (session : UInt64)
  deriving DecidableEq, Repr

inductive Output
  | began (n : ℕ) (session : UInt64)
  | refused
  | published (session : UInt64)
  | returned (n : ℕ) (session : UInt64) (ok : Bool)
  | consumed (session : UInt64) (ok : Bool)
  | done
  deriving DecidableEq, Repr

namespace State

/-- The loop of `request` goes on while what is pending is older. -/
def observe (session previous : UInt64) : RequestStep :=
  if previous < session then .publishing session previous else .confirming session

/-- The first step of `request`. -/
def request (s : State) : Output × State :=
  if s.active = 0 then (.refused, s)
  else (.began s.requests.length s.active, { s with requests := s.requests ++ [.loading s.active] })

def advance (n : ℕ) (spurious : Bool) (s : State) : Output × State :=
  match s.requests[n]? with
  | some (.loading session) =>
    (.done, { s with requests := s.requests.set n (observe session s.pending) })
  | some (.publishing session previous) =>
    if s.pending = previous && !spurious then
      (.published session,
        { s with pending := session, requests := s.requests.set n (.confirming session) })
    else (.done, { s with requests := s.requests.set n (observe session s.pending) })
  | some (.confirming session) =>
    (.returned n session (s.active = session), { s with requests := s.requests.set n .finished })
  | _ => (.done, s)

/-- The first store of `arm`, for a generation that is greater than those before. -/
def arm (session : UInt64) (s : State) : State :=
  if s.arming || session ≤ s.lastArmed then s
  else { s with pending := 0, lastArmed := session, arming := true }

/-- The second store of `arm`. -/
def armed (s : State) : State :=
  if s.arming then { s with active := s.lastArmed, arming := false } else s

/-- `disarm`. -/
def disarm (s : State) : State := if s.arming then s else { s with active := 0 }

/-- `consume`. -/
def consume (session : UInt64) (s : State) : Output × State :=
  if s.arming then (.done, s)
  else if session = 0 then (.consumed session false, s)
  else if s.pending = session then (.consumed session true, { s with pending := 0 })
  else (.consumed session false, s)

def step (event : Event) (s : State) : Output × State :=
  match event with
  | .request => s.request
  | .advance n spurious => s.advance n spurious
  | .arm session => (.done, s.arm session)
  | .armed => (.done, s.armed)
  | .disarm => (.done, s.disarm)
  | .consume session => s.consume session

/-! ## What is promised -/

abbrev Happened := Record State Event Output

def count (output : Output) (past : List Happened) : ℕ := past.countP fun r => r.output = output

/-- A step of `arm`. -/
def IsArm (event : Event) : Prop := event = .armed ∨ ∃ session, event = .arm session

/-- A consumption follows a request under its generation, and there are no more of them than requests
that published it. -/
def Consumes (past : List Happened) : Prop :=
  (∀ before r after session, past = before ++ r :: after → r.output = .consumed session true →
    ∃ r' ∈ before, ∃ n, r'.output = .began n session) ∧
  ∀ session, count (.consumed session true) past ≤ count (.published session) past

/-- A request leaves what is pending, or replaces it where it is older than the generation it read. -/
def NeverReplacesNewer (past : List Happened) : Prop :=
  ∀ r ∈ past, ∀ n spurious, r.call = .advance n spurious →
    (step r.call r.before).2.pending = r.before.pending ∨
      ∃ at_ session, r.before.requests[n]? = some at_ ∧ at_.session = some session ∧
        r.before.pending < session ∧ (step r.call r.before).2.pending = session

/-- What a request that returned `true` asked for is not lost: the next `consume` of its generation
before the next `arm` succeeds, unless one did since the request read the generation. -/
def NoLoss (past : List Happened) : Prop :=
  ∀ a b c t d k e n session, past = a ++ b :: (c ++ t :: (d ++ k :: e)) →
    b.output = .began n session → t.output = .returned n session true → (∀ r ∈ d, ¬IsArm r.call) →
      k.output = .consumed session false → ∃ r ∈ c ++ t :: d, r.output = .consumed session true

/-- The first `consume` after a request returned `true`, and before the next `arm`, succeeds. -/
def FirstConsumeSucceeds (past : List Happened) : Prop :=
  ∀ a t d k e n session ok, past = a ++ t :: (d ++ k :: e) → t.output = .returned n session true →
    (∀ r ∈ d, ¬IsArm r.call ∧ ∀ session', r.call ≠ .consume session') →
      k.output = .consumed session ok → ok = true

/-! ## The bounds -/

@[simp] theorem observe_session (session previous : UInt64) :
    (observe session previous).session = some session := by
  unfold observe
  split_ifs <;> rfl

theorem observed {session previous session' : UInt64}
    (h : (observe session previous).session = some session') : some session = some session' := by
  rwa [observe_session] at h

theorem observe_publishing {session found session' previous : UInt64}
    (h : observe session found = .publishing session' previous) : previous < session' := by
  unfold observe at h
  split_ifs at h with hlt
  obtain ⟨rfl, rfl⟩ := RequestStep.publishing.inj h
  exact hlt

structure Bounds (s : State) : Prop where
  /-- Between two calls of the session's thread the last generation is active, or none. -/
  idle : s.arming = false → s.active = 0 ∨ s.active = s.lastArmed
  /-- Within `arm` an older one is. -/
  arming : s.arming = true → s.active < s.lastArmed
  pending : s.pending ≤ s.lastArmed
  requests : ∀ at_ ∈ s.requests, ∀ session, at_.session = some session →
    session ≠ 0 ∧ session ≤ s.lastArmed
  /-- A request that is about to publish found something older. -/
  older : ∀ session previous, .publishing session previous ∈ s.requests → previous < session

variable {s : State} {past : List Happened} {n : ℕ} {session : UInt64}

theorem Bounds.active_le (h : Bounds s) : s.active ≤ s.lastArmed := by
  cases harming : s.arming with
  | true => exact UInt64.le_of_lt (h.arming harming)
  | false =>
    rcases h.idle harming with hzero | hlast
    · rw [hzero]
      exact UInt64.zero_le
    · exact UInt64.le_of_eq hlast

variable {at_ : RequestStep}

theorem Bounds.moved (h : Bounds s) {to_ : RequestStep} {pending : UInt64}
    (hat : s.requests[n]? = some at_)
    (hsession : ∀ session, to_.session = some session → at_.session = some session)
    (holder : ∀ session previous, to_ = .publishing session previous → previous < session)
    (hpending : pending ≤ s.lastArmed) :
    Bounds { s with pending, requests := s.requests.set n to_ } := by
  refine ⟨h.idle, h.arming, hpending, fun other hother session hread => ?_,
    fun session previous hother => ?_⟩
  · rcases List.mem_or_eq_of_mem_set hother with hold | rfl
    · exact h.requests other hold session hread
    · exact h.requests at_ (List.mem_of_getElem? hat) session (hsession session hread)
  · rcases List.mem_or_eq_of_mem_set hother with hold | hnew
    · exact h.older session previous hold
    · exact holder session previous hnew.symm

theorem Bounds.step (h : Bounds s) (event : Event) : Bounds (State.step event s).2 := by
  cases event with
  | request =>
    show Bounds s.request.2
    unfold State.request
    split_ifs with hzero
    · exact h
    · refine ⟨h.idle, h.arming, h.pending, fun at_ hat session hread => ?_, fun session previous hat => ?_⟩
      · rcases List.mem_append.mp hat with hold | hnew
        · exact h.requests at_ hold session hread
        · rw [List.mem_singleton.mp hnew] at hread
          obtain rfl := Option.some.inj hread
          exact ⟨hzero, h.active_le⟩
      · rcases List.mem_append.mp hat with hold | hnew
        · exact h.older session previous hold
        · exact (nomatch List.mem_singleton.mp hnew)
  | advance n spurious =>
    show Bounds (s.advance n spurious).2
    unfold State.advance
    cases hat : s.requests[n]? with
    | none => exact h
    | some at_ =>
      cases at_ with
      | loading session => exact h.moved hat (fun _ hread => observed hread) (fun _ _ => observe_publishing) h.pending
      | publishing session previous =>
        dsimp only
        have hread := h.requests _ (List.mem_of_getElem? hat) session rfl
        split_ifs
        · exact h.moved hat (fun _ => id) nofun hread.2
        · exact h.moved hat (fun _ hread => observed hread) (fun _ _ => observe_publishing) h.pending
      | confirming session => exact h.moved hat nofun nofun h.pending
      | finished => exact h
  | arm session =>
    show Bounds (s.arm session)
    unfold State.arm
    split_ifs with hno
    · exact h
    · simp only [Bool.or_eq_true, decide_eq_true_eq, not_or, UInt64.not_le] at hno
      refine ⟨nofun, fun _ => UInt64.lt_of_le_of_lt h.active_le hno.2, UInt64.zero_le,
        fun at_ hat session' hread => ?_, h.older⟩
      obtain ⟨hne, hle⟩ := h.requests at_ hat session' hread
      exact ⟨hne, UInt64.le_trans hle (UInt64.le_of_lt hno.2)⟩
  | armed =>
    show Bounds s.armed
    unfold State.armed
    split_ifs
    · exact ⟨fun _ => Or.inr rfl, nofun, h.pending, h.requests, h.older⟩
    · exact h
  | disarm =>
    show Bounds s.disarm
    unfold State.disarm
    split_ifs with harming
    · exact h
    · exact ⟨fun _ => Or.inl rfl, fun hnow => absurd hnow harming, h.pending, h.requests, h.older⟩
  | consume session =>
    show Bounds (s.consume session).2
    unfold State.consume
    split_ifs
    · exact h
    · exact h
    · exact ⟨h.idle, h.arming, UInt64.zero_le, h.requests, h.older⟩
    · exact h

theorem bounds_init : Bounds {} :=
  ⟨fun _ => Or.inl rfl, nofun, UInt64.zero_le, fun _ hat => (nomatch hat), fun _ _ hat => (nomatch hat)⟩

/-! ## What was asked for and consumed -/

/-- What is pending or read was read by a request, and what was consumed was published. -/
structure Told (past : List Happened) (s : State) : Prop where
  began : ∀ n at_ session, s.requests[n]? = some at_ → at_.session = some session →
    ∃ r ∈ past, r.output = .began n session
  pending : s.pending ≠ 0 → ∃ r ∈ past, ∃ n, r.output = .began n s.pending
  /-- No more was consumed than published, and what is pending is still to be. -/
  counted : ∀ session, count (.consumed session true) past +
    (if session ≠ 0 ∧ s.pending = session then 1 else 0) ≤ count (.published session) past

theorem seen_append {output : Output} (r : Happened) (h : ∃ r ∈ past, r.output = output) :
    ∃ r' ∈ past ++ [r], r'.output = output := by
  obtain ⟨r', hr', houtput⟩ := h
  exact ⟨r', List.mem_append_left _ hr', houtput⟩

theorem count_concat (output : Output) (past : List Happened) (r : Happened) :
    count output (past ++ [r]) = count output past + if r.output = output then 1 else 0 := by
  unfold count
  rw [List.countP_append, List.countP_singleton]
  simp

/-- Nothing is published or consumed. -/
def silent : Output → Bool
  | .published _ => false
  | .consumed _ ok => !ok
  | _ => true

theorem Told.quiet (h : Told past s) {r : Happened} {s' : State}
    (hbegan : ∀ n at_ session, s'.requests[n]? = some at_ → at_.session = some session →
      ∃ r' ∈ past ++ [r], r'.output = .began n session)
    (hpending : s'.pending = s.pending ∨ s'.pending = 0)
    (hsilent : silent r.output = true) : Told (past ++ [r]) s' := by
  refine ⟨hbegan, fun hsome => ?_, fun session => ?_⟩
  · rcases hpending with hsame | hzero
    · rw [hsame] at hsome ⊢
      obtain ⟨r', hr', hread⟩ := h.pending hsome
      exact ⟨r', List.mem_append_left _ hr', hread⟩
    · exact absurd hzero hsome
  · have hcount := h.counted session
    have hnot : ∀ output, silent output = false → r.output ≠ output := by
      rintro _ houtput rfl
      exact absurd (hsilent.symm.trans houtput) (by decide)
    rw [count_concat, count_concat, if_neg (hnot (.published session) rfl),
      if_neg (hnot (.consumed session true) rfl)]
    rcases hpending with hsame | hzero
    · rw [hsame]
      exact hcount
    · rw [hzero, if_neg fun hboth => hboth.1 hboth.2.symm]
      omega

theorem Told.moved (h : Told past s) {to_ : RequestStep} (r : Happened)
    (hat : s.requests[n]? = some at_)
    (hsession : ∀ session, to_.session = some session → at_.session = some session) :
    ∀ m other session, (s.requests.set n to_)[m]? = some other → other.session = some session →
      ∃ r' ∈ past ++ [r], r'.output = .began m session := by
  intro m other session hother hread
  rw [List.getElem?_set] at hother
  split_ifs at hother with hm hlt
  · obtain rfl := Option.some.inj hother
    exact seen_append r (h.began m at_ session (hm ▸ hat) (hsession session hread))
  · exact seen_append r (h.began m other session hother hread)

theorem Told.step (h : Told past s) (event : Event) :
    Told (past ++ [record State.step s event]) (State.step event s).2 := by
  have hstill : ∀ r : Happened, ∀ n at_ session, s.requests[n]? = some at_ →
      at_.session = some session → ∃ r' ∈ past ++ [r], r'.output = .began n session :=
    fun r n at_ session hat hread => seen_append r (h.began n at_ session hat hread)
  cases event with
  | request =>
    by_cases hzero : s.active = 0
    · have hstep : State.step .request s = (.refused, s) := if_pos hzero
      rw [record, hstep]
      exact h.quiet (hstill _) (Or.inl rfl) rfl
    · have hstep : State.step .request s = (.began s.requests.length s.active,
          { s with requests := s.requests ++ [.loading s.active] }) := if_neg hzero
      rw [record, hstep]
      refine h.quiet (fun n at_ session hat hread => ?_) (Or.inl rfl) rfl
      dsimp only at hat
      rw [List.getElem?_append] at hat
      split_ifs at hat with hn
      · exact hstill _ n at_ session hat hread
      · -- The request that began now.
        obtain ⟨hindex, hnew⟩ := List.getElem?_eq_some_iff.mp hat
        have hn' : n = s.requests.length := by
          rw [List.length_singleton] at hindex
          omega
        refine ⟨_, List.mem_append_right _ (List.mem_singleton_self _), ?_⟩
        rw [List.getElem_singleton] at hnew
        rw [← hnew] at hread
        rw [hn', ← Option.some.inj hread]
  | advance n spurious =>
    cases hat : s.requests[n]? with
    | none =>
      have hstep : State.step (.advance n spurious) s = (.done, s) := by
        show s.advance n spurious = _
        rw [State.advance, hat]
      rw [record, hstep]
      exact h.quiet (hstill _) (Or.inl rfl) rfl
    | some at_ =>
      cases at_ with
      | loading session =>
        have hstep : State.step (.advance n spurious) s =
            (.done, { s with requests := s.requests.set n (observe session s.pending) }) := by
          show s.advance n spurious = _
          rw [State.advance, hat]
        rw [record, hstep]
        exact h.quiet (h.moved _ hat fun _ hread => observed hread) (Or.inl rfl) rfl
      | publishing session previous =>
        by_cases hwon : (s.pending = previous && !spurious) = true
        · -- The exchange: what is pending now is the request's generation.
          have hstep : State.step (.advance n spurious) s = (.published session,
              { s with pending := session, requests := s.requests.set n (.confirming session) }) := by
            show s.advance n spurious = _
            rw [State.advance, hat]
            exact if_pos hwon
          rw [record, hstep]
          refine ⟨h.moved _ hat fun _ => id, fun _ => ?_, fun session' => ?_⟩
          · obtain ⟨r', hr', hread⟩ := h.began n _ session hat rfl
            exact ⟨r', List.mem_append_left _ hr', n, hread⟩
          · have hcount := h.counted session'
            rw [count_concat, count_concat]
            dsimp only
            rw [if_neg (show Output.published session ≠ .consumed session' true by simp)]
            by_cases hsame : session = session'
            · -- One more is published, and is to be consumed.
              rw [hsame, if_pos (show Output.published session' = .published session' from rfl)]
              split_ifs at hcount ⊢ <;> omega
            · rw [if_neg fun hboth : session' ≠ 0 ∧ session = session' => hsame hboth.2,
                if_neg fun heq => hsame (Output.published.inj heq)]
              omega
        · have hstep : State.step (.advance n spurious) s =
              (.done, { s with requests := s.requests.set n (observe session s.pending) }) := by
            show s.advance n spurious = _
            rw [State.advance, hat]
            exact if_neg hwon
          rw [record, hstep]
          exact h.quiet (h.moved _ hat fun _ hread => observed hread) (Or.inl rfl) rfl
      | confirming session =>
        have hstep : State.step (.advance n spurious) s = (.returned n session (s.active = session),
            { s with requests := s.requests.set n .finished }) := by
          show s.advance n spurious = _
          rw [State.advance, hat]
        rw [record, hstep]
        exact h.quiet (h.moved _ hat fun _ hread => by cases hread) (Or.inl rfl) rfl
      | finished =>
        have hstep : State.step (.advance n spurious) s = (.done, s) := by
          show s.advance n spurious = _
          rw [State.advance, hat]
        rw [record, hstep]
        exact h.quiet (hstill _) (Or.inl rfl) rfl
  | arm session =>
    refine h.quiet ?_ ?_ rfl
    · show ∀ n at_ session', (s.arm session).requests[n]? = some at_ → _
      unfold State.arm
      split_ifs <;> exact hstill _
    · show (s.arm session).pending = _ ∨ (s.arm session).pending = _
      unfold State.arm
      split_ifs
      · exact Or.inl rfl
      · exact Or.inr rfl
  | armed =>
    refine h.quiet ?_ ?_ rfl
    · show ∀ n at_ session', s.armed.requests[n]? = some at_ → _
      unfold State.armed
      split_ifs <;> exact hstill _
    · show s.armed.pending = _ ∨ s.armed.pending = _
      unfold State.armed
      split_ifs <;> exact Or.inl rfl
  | disarm =>
    refine h.quiet ?_ ?_ rfl
    · show ∀ n at_ session', s.disarm.requests[n]? = some at_ → _
      unfold State.disarm
      split_ifs <;> exact hstill _
    · show s.disarm.pending = _ ∨ s.disarm.pending = _
      unfold State.disarm
      split_ifs <;> exact Or.inl rfl
  | consume session =>
    by_cases harming : s.arming = true
    · have hstep : State.step (.consume session) s = (.done, s) := if_pos harming
      rw [record, hstep]
      exact h.quiet (hstill _) (Or.inl rfl) rfl
    by_cases hzero : session = 0
    · have hstep : State.step (.consume session) s = (.consumed session false, s) :=
        (if_neg harming).trans (if_pos hzero)
      rw [record, hstep]
      exact h.quiet (hstill _) (Or.inl rfl) rfl
    by_cases hpending : s.pending = session
    · -- One more is consumed, and no more is to be.
      have hstep : State.step (.consume session) s = (.consumed session true, { s with pending := 0 }) :=
        (if_neg harming).trans ((if_neg hzero).trans (if_pos hpending))
      rw [record, hstep]
      refine ⟨hstill _, fun hsome => absurd rfl hsome, fun session' => ?_⟩
      have hcount := h.counted session'
      rw [count_concat, count_concat]
      dsimp only
      rw [if_neg (show Output.consumed session true ≠ .published session' by simp),
        if_neg fun hboth : session' ≠ 0 ∧ 0 = session' => hboth.1 hboth.2.symm]
      by_cases hsame : session = session'
      · rw [if_pos ⟨hsame ▸ hzero, hpending.trans hsame⟩] at hcount
        split_ifs <;> omega
      · rw [if_neg fun heq => hsame (Output.consumed.inj heq).1]
        omega
    · have hstep : State.step (.consume session) s = (.consumed session false, s) :=
        (if_neg harming).trans ((if_neg hzero).trans (if_neg hpending))
      rw [record, hstep]
      exact h.quiet (hstill _) (Or.inl rfl) rfl

theorem told_init : Told [] {} := by
  refine ⟨fun _ _ _ hat => (nomatch hat), fun hsome => absurd rfl hsome, fun session => ?_⟩
  rw [if_neg fun hboth : session ≠ 0 ∧ (0 : UInt64) = session => hboth.1 hboth.2.symm]
  exact Nat.le_refl _

theorem told_run (events : List Event) : Bounds (run State.step events {}) ∧
    Told (history State.step events {}) (run State.step events {}) :=
  @history_induction _ _ _ State.step (fun s past => Bounds s ∧ Told past s) _
    ⟨bounds_init, told_init⟩ (fun _ _ event h => ⟨h.1.step event, h.2.step event⟩) events

/-! ## What is not lost -/

/-- A request that is past its look at `pending`: its generation is pending, or was consumed, or a later
one was armed. -/
def Secured (session : UInt64) (since : List Happened) (s : State) : Prop :=
  s.pending = session ∨ session < s.lastArmed ∨ ∃ r ∈ since, r.output = .consumed session true

def Tracked (n : ℕ) (session : UInt64) (since : List Happened) (s : State) : Prop :=
  (∃ at_, s.requests[n]? = some at_ ∧ (at_ = .loading session ∨
    ∃ previous, at_ = .publishing session previous)) ∨
  ((s.requests[n]? = some (.confirming session) ∨ s.requests[n]? = some .finished) ∧
    Secured session since s)

theorem Bounds.pending_step (h : Bounds s) (event : Event) :
    s.lastArmed ≤ (State.step event s).2.lastArmed ∧ ((State.step event s).2.pending = s.pending ∨
        s.pending < (State.step event s).2.lastArmed ∨
          (State.step event s).1 = .consumed s.pending true) := by
  have hle := UInt64.le_refl s.lastArmed
  cases event with
  | request =>
    show s.lastArmed ≤ s.request.2.lastArmed ∧ (s.request.2.pending = _ ∨ _)
    unfold State.request
    split_ifs <;> exact ⟨hle, Or.inl rfl⟩
  | advance n spurious =>
    show s.lastArmed ≤ (s.advance n spurious).2.lastArmed ∧
      ((s.advance n spurious).2.pending = _ ∨ _ < (s.advance n spurious).2.lastArmed ∨ _)
    unfold State.advance
    cases hat : s.requests[n]? with
    | none => exact ⟨hle, Or.inl rfl⟩
    | some at_ =>
      cases at_ with
      | loading session => exact ⟨hle, Or.inl rfl⟩
      | confirming session => exact ⟨hle, Or.inl rfl⟩
      | finished => exact ⟨hle, Or.inl rfl⟩
      | publishing session previous =>
        dsimp only
        split_ifs with hwon
        · -- The generation that replaces it is later, and was armed.
          rw [Bool.and_eq_true, decide_eq_true_eq] at hwon
          have hmem := List.mem_of_getElem? hat
          have hlater := h.older session previous hmem
          rw [← hwon.1] at hlater
          exact ⟨hle, Or.inr (Or.inl (UInt64.lt_of_lt_of_le hlater (h.requests _ hmem session rfl).2))⟩
        · exact ⟨hle, Or.inl rfl⟩
  | arm session =>
    show s.lastArmed ≤ (s.arm session).lastArmed ∧
      ((s.arm session).pending = _ ∨ _ < (s.arm session).lastArmed ∨ _)
    unfold State.arm
    split_ifs with hno
    · exact ⟨hle, Or.inl rfl⟩
    · simp only [Bool.or_eq_true, decide_eq_true_eq, not_or, UInt64.not_le] at hno
      exact ⟨UInt64.le_of_lt hno.2, Or.inr (Or.inl (UInt64.lt_of_le_of_lt h.pending hno.2))⟩
  | armed =>
    show s.lastArmed ≤ s.armed.lastArmed ∧ (s.armed.pending = _ ∨ _)
    unfold State.armed
    split_ifs <;> exact ⟨hle, Or.inl rfl⟩
  | disarm =>
    show s.lastArmed ≤ s.disarm.lastArmed ∧ (s.disarm.pending = _ ∨ _)
    unfold State.disarm
    split_ifs <;> exact ⟨hle, Or.inl rfl⟩
  | consume session =>
    show s.lastArmed ≤ (s.consume session).2.lastArmed ∧
      ((s.consume session).2.pending = _ ∨ _ ∨ (s.consume session).1 = _)
    unfold State.consume
    split_ifs with _ _ hpending
    · exact ⟨hle, Or.inl rfl⟩
    · exact ⟨hle, Or.inl rfl⟩
    · exact ⟨hle, Or.inr (Or.inr (by rw [hpending]))⟩
    · exact ⟨hle, Or.inl rfl⟩

variable {since : List Happened} {event : Event}

theorem Secured.step (h : Secured session since s) (hbounds : Bounds s) (event : Event) :
    Secured session (since ++ [record State.step s event]) (State.step event s).2 := by
  obtain ⟨hle, hpending⟩ := hbounds.pending_step event
  rcases h with hsame | hlater | hseen
  · rcases hpending with hstays | hreplaced | hconsumed
    · exact Or.inl (hstays.trans hsame)
    · exact Or.inr (Or.inl (hsame ▸ hreplaced))
    · refine Or.inr (Or.inr ⟨_, List.mem_append_right _ (List.mem_singleton_self _), ?_⟩)
      rw [← hsame]
      exact hconsumed
  · exact Or.inr (Or.inl (UInt64.lt_of_lt_of_le hlater hle))
  · exact Or.inr (Or.inr (seen_append _ hseen))

theorem Bounds.secured (h : Bounds s) (hfound : ¬s.pending < session) (since : List Happened) :
    Secured session since s := by
  rcases UInt64.lt_or_eq_of_le (UInt64.not_lt.mp hfound) with hlt | heq
  · exact Or.inr (Or.inl (UInt64.lt_of_lt_of_le hlt h.pending))
  · exact Or.inl heq.symm

theorem requests_step (hat : s.requests[n]? = some at_)
    (hother : ∀ spurious, event ≠ .advance n spurious) :
    (State.step event s).2.requests[n]? = some at_ := by
  cases event with
  | request =>
    show s.request.2.requests[n]? = _
    unfold State.request
    split_ifs
    · exact hat
    · exact (List.getElem?_append_left (List.getElem?_eq_some_iff.mp hat).1).trans hat
  | advance m spurious =>
    have hm : m ≠ n := fun hm => hother spurious (hm ▸ rfl)
    show (s.advance m spurious).2.requests[n]? = _
    unfold State.advance
    cases hmoves : s.requests[m]? with
    | none => exact hat
    | some moves =>
      cases moves with
      | loading session => exact (List.getElem?_set_ne hm).trans hat
      | confirming session => exact (List.getElem?_set_ne hm).trans hat
      | finished => exact hat
      | publishing session previous =>
        dsimp only
        split_ifs <;> exact (List.getElem?_set_ne hm).trans hat
  | arm session =>
    show (s.arm session).requests[n]? = _
    unfold State.arm
    split_ifs <;> exact hat
  | armed =>
    show s.armed.requests[n]? = _
    unfold State.armed
    split_ifs <;> exact hat
  | disarm =>
    show s.disarm.requests[n]? = _
    unfold State.disarm
    split_ifs <;> exact hat
  | consume session =>
    show (s.consume session).2.requests[n]? = _
    unfold State.consume
    split_ifs <;> exact hat

theorem Bounds.tracked_observe (h : Bounds s) (hn : n < s.requests.length) (session : UInt64)
    (since : List Happened) : Tracked n session since
      { s with requests := s.requests.set n (observe session s.pending) } := by
  have hat : (s.requests.set n (observe session s.pending))[n]? = some (observe session s.pending) :=
    List.getElem?_set_self hn
  by_cases holder : s.pending < session
  · refine Or.inl ⟨_, hat, Or.inr ⟨s.pending, ?_⟩⟩
    rw [observe, if_pos holder]
  · rw [observe, if_neg holder] at hat
    refine Or.inr ⟨Or.inl ?_, h.secured holder since⟩
    rw [observe, if_neg holder]
    exact hat

theorem Tracked.step (h : Tracked n session since s) (hbounds : Bounds s) (event : Event) :
    Tracked n session (since ++ [record State.step s event]) (State.step event s).2 := by
  by_cases hown : ∃ spurious, event = .advance n spurious
  · obtain ⟨spurious, rfl⟩ := hown
    show Tracked n session _ (s.advance n spurious).2
    rcases h with ⟨at_, hat, rfl | ⟨previous, rfl⟩⟩ | ⟨hat | hat, hsecured⟩
    · unfold State.advance
      rw [hat]
      exact hbounds.tracked_observe (List.getElem?_eq_some_iff.mp hat).1 session _
    · have hn := (List.getElem?_eq_some_iff.mp hat).1
      unfold State.advance
      rw [hat]
      dsimp only
      split_ifs
      · exact Or.inr ⟨Or.inl (List.getElem?_set_self hn), Or.inl rfl⟩
      · exact hbounds.tracked_observe hn session _
    · have hnext := hsecured.step hbounds (.advance n spurious)
      have hstep : s.advance n spurious = (.returned n session (s.active = session),
          { s with requests := s.requests.set n .finished }) := by
        rw [State.advance, hat]
      rw [hstep]
      refine Or.inr ⟨Or.inr (List.getElem?_set_self (List.getElem?_eq_some_iff.mp hat).1), ?_⟩
      change Secured session _ (s.advance n spurious).2 at hnext
      rw [hstep] at hnext
      exact hnext
    · have hnext := hsecured.step hbounds (.advance n spurious)
      have hstep : s.advance n spurious = (.done, s) := by rw [State.advance, hat]
      rw [hstep]
      change Secured session _ (s.advance n spurious).2 at hnext
      rw [hstep] at hnext
      exact Or.inr ⟨Or.inr hat, hnext⟩
  · have hother : ∀ spurious, event ≠ .advance n spurious := fun spurious heq => hown ⟨spurious, heq⟩
    rcases h with ⟨at_, hat, hwhere⟩ | ⟨hat | hat, hsecured⟩
    · exact Or.inl ⟨at_, requests_step hat hother, hwhere⟩
    · exact Or.inr ⟨Or.inl (requests_step hat hother), hsecured.step hbounds event⟩
    · exact Or.inr ⟨Or.inr (requests_step hat hother), hsecured.step hbounds event⟩

theorem Tracked.run (h : Tracked n session since s) (hbounds : Bounds s) (events : List Event) :
    Bounds (run State.step events s) ∧
      Tracked n session (since ++ history State.step events s) (run State.step events s) := by
  induction events generalizing s since with
  | nil => exact ⟨hbounds, by rw [history, List.append_nil]; exact h⟩
  | cons event events ih =>
    have hnext := ih (h.step hbounds event) (hbounds.step event)
    rw [List.append_assoc] at hnext
    exact hnext

theorem Secured.run (h : Secured session since s) (hbounds : Bounds s) (events : List Event) :
    Secured session (since ++ history State.step events s) (run State.step events s) := by
  induction events generalizing s since with
  | nil => rw [history, List.append_nil]; exact h
  | cons event events ih =>
    have hnext := ih (h.step hbounds event) (hbounds.step event)
    rw [List.append_assoc] at hnext
    exact hnext

theorem lastArmed_run {events : List Event} (h : ∀ event ∈ events, ¬IsArm event) (s : State) :
    (run State.step events s).lastArmed = s.lastArmed ∧ (run State.step events s).arming = s.arming := by
  have hstep : ∀ event, ¬IsArm event → ∀ s, (State.step event s).2.lastArmed = s.lastArmed ∧
      (State.step event s).2.arming = s.arming := by
    intro event hevent s
    cases event with
    | arm session => exact absurd (Or.inr ⟨session, rfl⟩) hevent
    | armed => exact absurd (Or.inl rfl) hevent
    | request =>
      show s.request.2.lastArmed = _ ∧ s.request.2.arming = _
      unfold State.request
      split_ifs <;> exact ⟨rfl, rfl⟩
    | advance n spurious =>
      show (s.advance n spurious).2.lastArmed = _ ∧ (s.advance n spurious).2.arming = _
      unfold State.advance
      split
      · exact ⟨rfl, rfl⟩
      · split_ifs <;> exact ⟨rfl, rfl⟩
      · exact ⟨rfl, rfl⟩
      · exact ⟨rfl, rfl⟩
    | disarm =>
      show s.disarm.lastArmed = _ ∧ s.disarm.arming = _
      unfold State.disarm
      split_ifs <;> exact ⟨rfl, rfl⟩
    | consume session =>
      show (s.consume session).2.lastArmed = _ ∧ (s.consume session).2.arming = _
      unfold State.consume
      split_ifs <;> exact ⟨rfl, rfl⟩
  induction events generalizing s with
  | nil => exact ⟨rfl, rfl⟩
  | cons event events ih =>
    rw [List.forall_mem_cons] at h
    obtain ⟨hlast, harming⟩ := hstep event h.1 s
    obtain ⟨hlast', harming'⟩ := ih h.2 (State.step event s).2
    exact ⟨hlast'.trans hlast, harming'.trans harming⟩

/-! ## Which step is seen -/

theorem advance_output (n : ℕ) (spurious : Bool) (s : State) :
    (s.advance n spurious).1 = .done ∨ (∃ session, (s.advance n spurious).1 = .published session) ∨
      ∃ session, s.requests[n]? = some (.confirming session) ∧
        (s.advance n spurious).1 = .returned n session (s.active = session) := by
  unfold State.advance
  split
  · exact Or.inl rfl
  · split_ifs
    · exact Or.inr (Or.inl ⟨_, rfl⟩)
    · exact Or.inl rfl
  · rename_i session hat
    exact Or.inr (Or.inr ⟨session, hat, rfl⟩)
  · exact Or.inl rfl

theorem consume_output (session : UInt64) (s : State) :
    (s.consume session).1 = .done ∨ s.arming = false ∧
      (s.consume session).1 = .consumed session (session ≠ 0 && s.pending = session) := by
  unfold State.consume
  split_ifs with harming hzero hpending
  · exact Or.inl rfl
  · exact Or.inr ⟨eq_false_of_ne_true harming, by simp [hzero]⟩
  · exact Or.inr ⟨eq_false_of_ne_true harming, by simp [hzero, hpending]⟩
  · exact Or.inr ⟨eq_false_of_ne_true harming, by simp [hpending]⟩

/-- What an output says of the step that it comes from. -/
def Says (event : Event) (s : State) : Output → Prop
  | .began n session => Tracked n session [] (State.step event s).2
  | .returned n session ok => (∃ spurious, event = .advance n spurious) ∧
      s.requests[n]? = some (.confirming session) ∧ ok = decide (s.active = session)
  | .consumed session ok => s.arming = false ∧ ok = (session ≠ 0 && s.pending = session : Bool)
  | _ => True

theorem step_says (event : Event) (s : State) : Says event s (State.step event s).1 := by
  cases event with
  | request =>
    unfold State.step State.request
    dsimp only
    split_ifs with hzero
    · trivial
    · show Tracked _ _ [] s.request.2
      rw [State.request, if_neg hzero]
      exact Or.inl ⟨_, List.getElem?_concat_length, Or.inl rfl⟩
  | advance n spurious =>
    show Says _ s (s.advance n spurious).1
    rcases advance_output n spurious s with hdone | ⟨_, hpublished⟩ | ⟨session, hat, hreturned⟩
    · rw [hdone]
      trivial
    · rw [hpublished]
      trivial
    · rw [hreturned]
      exact ⟨⟨spurious, rfl⟩, hat, rfl⟩
  | consume session =>
    show Says _ s (s.consume session).1
    rcases consume_output session s with hdone | ⟨harming, hconsumed⟩
    · rw [hdone]
      trivial
    · rw [hconsumed]
      exact ⟨harming, rfl⟩
  | _ => trivial

theorem began_step {event : Event} (h : (State.step event s).1 = .began n session) :
    Tracked n session [] (State.step event s).2 := by
  have hsays := step_says event s
  rwa [h] at hsays

theorem returned_step {event : Event} {ok : Bool}
    (h : (State.step event s).1 = .returned n session ok) : (∃ spurious, event = .advance n spurious) ∧
      s.requests[n]? = some (.confirming session) ∧ ok = decide (s.active = session) := by
  have hsays := step_says event s
  rwa [h] at hsays

theorem consumed_step {event : Event} {ok : Bool}
    (h : (State.step event s).1 = .consumed session ok) : s.arming = false ∧
      ok = (session ≠ 0 && s.pending = session : Bool) := by
  have hsays := step_says event s
  rwa [h] at hsays

/-! ## Every run -/

theorem consumes_run (events : List Event) : Consumes (history State.step events {}) := by
  refine ⟨fun before r after session hpast hconsumed => ?_, fun session => ?_⟩
  · obtain ⟨earlier, event, later, rfl, rfl, rfl, -⟩ := history_split State.step hpast
    obtain ⟨-, hok⟩ := consumed_step hconsumed
    rw [eq_comm, Bool.and_eq_true, decide_eq_true_eq, decide_eq_true_eq] at hok
    obtain ⟨r', hr', n, hbegan⟩ := (told_run earlier).2.pending (by rw [hok.2]; exact hok.1)
    rw [hok.2] at hbegan
    exact ⟨r', hr', n, hbegan⟩
  · exact Nat.le_trans (Nat.le_add_right _ _) ((told_run events).2.counted session)

theorem neverReplacesNewer_run (events : List Event) :
    NeverReplacesNewer (history State.step events {}) := by
  refine forall_mem_history State.step bounds_init (fun _ event h => h.step event)
    (fun s event h n spurious hcall => ?_) events
  obtain rfl : event = .advance n spurious := hcall
  show (s.advance n spurious).2.pending = _ ∨ _
  unfold State.advance
  split
  · exact Or.inl rfl
  · rename_i session previous hat
    split_ifs with hwon
    · rw [Bool.and_eq_true, decide_eq_true_eq] at hwon
      have hlater := h.older session previous (List.mem_of_getElem? hat)
      rw [← hwon.1] at hlater
      refine Or.inr ⟨_, session, hat, rfl, hlater, ?_⟩
      show (s.advance n spurious).2.pending = session
      rw [State.advance, hat]
      dsimp only
      rw [if_pos (by rw [Bool.and_eq_true, decide_eq_true_eq]; exact hwon)]
    · exact Or.inl rfl
  · exact Or.inl rfl
  · exact Or.inl rfl

theorem noLoss_run (events : List Event) : NoLoss (history State.step events {}) := by
  intro a b c t d k e n session hpast hbegan hreturned hnoarm hfailed
  -- The request begins, returns and is looked for, each in the state that the steps before it left.
  obtain ⟨before, event, rest, -, rfl, rfl, hrest⟩ := history_split State.step hpast
  obtain ⟨during, last, rest', rfl, rfl, rfl, hrest'⟩ := history_split State.step hrest.symm
  obtain ⟨between, final, after, rfl, rfl, rfl, -⟩ := history_split State.step hrest'.symm
  obtain ⟨hbounds, htracked⟩ :=
    (began_step hbegan).run ((told_run before).1.step event) during
  obtain ⟨⟨spurious, rfl⟩, hat, hactive⟩ := returned_step hreturned
  have hactive := of_decide_eq_true hactive.symm
  generalize run State.step during (State.step event (run State.step before {})).2 = s at *
  have hsecured : Secured session (history State.step during
      (State.step event (run State.step before {})).2) s := by
    rcases htracked with ⟨at_, hat', rfl | ⟨previous, rfl⟩⟩ | ⟨-, hsecured⟩
    · exact (nomatch hat.symm.trans hat')
    · exact (nomatch hat.symm.trans hat')
    · exact hsecured
  -- No `arm` step comes between, so the generation is still the last one.
  have hcalls : ∀ event' ∈ Event.advance n spurious :: between, ¬IsArm event' := by
    rw [List.forall_mem_cons]
    refine ⟨fun harm => harm.elim nofun nofun, fun event' hevent' => ?_⟩
    rw [← history_map_call State.step between (State.step (.advance n spurious) s).2] at hevent'
    obtain ⟨r, hr, rfl⟩ := List.mem_map.mp hevent'
    exact hnoarm r hr
  obtain ⟨hlast, harming⟩ := lastArmed_run hcalls s
  obtain ⟨hidle, hok⟩ := consumed_step hfailed
  have hnonzero := (hbounds.requests _ (List.mem_of_getElem? hat) session rfl).1
  have hnow : s.lastArmed = session := by
    rcases hbounds.idle (harming.symm.trans hidle) with hzero | hsame
    · exact absurd (hactive.symm.trans hzero) hnonzero
    · exact hsame.symm.trans hactive
  rcases hsecured.run hbounds (.advance n spurious :: between) with hpending | hlater | hseen
  · change (run State.step between (State.step (.advance n spurious) s).2).pending = session at hpending
    rw [hpending, decide_eq_true hnonzero, decide_eq_true rfl] at hok
    exact (nomatch hok)
  · rw [hlast, hnow] at hlater
    exact absurd hlater (UInt64.lt_irrefl _)
  · exact hseen

/-- Consumptions follow requests and are no more than what was published, no request replaces a newer
one, and what a request that returned `true` asked for is not lost. -/
theorem mailbox_runs (events : List Event) :
    Consumes (history State.step events {}) ∧ NeverReplacesNewer (history State.step events {}) ∧
      NoLoss (history State.step events {}) :=
  ⟨consumes_run events, neverReplacesNewer_run events, noLoss_run events⟩

def consumedBetween : List Event :=
  [.arm 1, .armed, .request, .advance 0 false, .advance 0 false, .consume 1, .advance 0 false]

/-- It returned `true`, and the first `consume` after that fails. -/
theorem first_consume_fails :
    ¬∀ events, FirstConsumeSucceeds (history State.step events {}) := by
  intro h
  have hlast := h (consumedBetween ++ [.consume 1])
    (history State.step (consumedBetween.take 6) {})
    (record State.step (run State.step (consumedBetween.take 6) {}) (.advance 0 false)) []
    (record State.step (run State.step consumedBetween {}) (.consume 1)) [] 0 1 false rfl rfl
    (fun _ hr => (nomatch hr)) rfl
  exact (nomatch hlast)

end State

end War3VK.Tools.TriggerMailbox
