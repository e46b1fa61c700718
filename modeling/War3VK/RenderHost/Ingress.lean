import Mathlib
import War3VK.Lib.Machine

/-!
# The event ingress

The bounded queue between many producers and one consumer
(`src/tools/render_host/recorder_ingress.h`). Each cell of the ring carries a stamp: the position
that may be claimed in it, or one more once that position's event is there. The model interleaves
single atomic operations: every `Action` is the next load, store or read-modify-write of one
caller, and an event is copied into a cell and out of it word by word, in any order.

The counters are natural numbers; the limit of attempts keeps the source's 64-bit counters far
from their end.
-/

namespace War3VK.RenderHost.Recorder.Ingress

open Lib

def eventWords : ℕ := 49

instance : NeZero eventWords := ⟨by decide⟩

/-- An event as it is copied: word `0` is its sequence, word `1` its session. -/
abbrev Words := Fin eventWords → UInt64

/-- The event that a producer writes: the caller's, with its sequence and session set. -/
def stampEvent (session : UInt64) (position : ℕ) (event : Words) : Words :=
  Function.update (Function.update event 0 (UInt64.ofNat (position + 1))) 1 session

/-- `enum class Push`. -/
inductive Push where
  | published | full | contended | closed | stale | exhausted
deriving DecidableEq, Repr

/-- `struct PushResult`. -/
structure PushResult where
  outcome : Push
  sequence : ℕ := 0
deriving DecidableEq, Repr

/-- The result of `tryPop`, with the event that it wrote to its output. -/
inductive Pop where
  | item (event : Words)
  | empty
  | finished
deriving DecidableEq

structure Config where
  capacity : ℕ
  session : UInt64
  attempts : ℕ
  /-- The static assertion on `Capacity`. -/
  two_le : 2 ≤ capacity

/-- The arguments of `tryPush`. -/
structure PushCall where
  session : UInt64 := 0
  event : Words := fun _ => 0
deriving DecidableEq

/-- What a call of `tryPush` does next. -/
inductive PushPoint where
  | idle
  /-- `m_closed.load()`. -/
  | loadClosed
  /-- `m_attempted.fetch_add(1)`. -/
  | addAttempt
  /-- `m_closed.store(true)`, after the last attempt. -/
  | storeClosed
  /-- `m_lost.fetch_add(1)`. -/
  | addLost (reason : Push)
  /-- The first `m_claimed.load()`. -/
  | loadClaimed
  /-- `slot.stamp.load()`. -/
  | loadStamp (position retry : ℕ)
  /-- `m_claimed.load()`, after a stamp that was ahead. -/
  | reload (retry : ℕ)
  /-- `m_claimed.compare_exchange_weak(position, position + 1)`. -/
  | exchange (position retry : ℕ)
  /-- `slot.event = event`, of which some words are done, and then `slot.stamp.store()`. -/
  | write (position : ℕ) (done : Finset (Fin eventWords))
  /-- The destructor of `Exit`, before `Published` is returned. -/
  | published (position : ℕ)
  /-- The destructor of `Exit`, before another result is returned. -/
  | exit (reason : Push)
deriving DecidableEq

/-- What a call of `tryPop` does next. -/
inductive PopPoint where
  /-- `slot.stamp.load()`, the start of a call. -/
  | idle
  /-- `m_closed.load()`. -/
  | loadClosed
  /-- `m_writers.load()`. -/
  | loadWriters
  /-- `m_claimed.load()`. -/
  | loadClaimed
  /-- `output = slot.event`, of which some words are done, and then `slot.stamp.store()`. -/
  | copy (done : Finset (Fin eventWords)) (output : Words)
deriving DecidableEq

structure State (ι : Type) where
  stamp : ℕ → ℕ
  cell : ℕ → Words
  claimed : ℕ := 0
  read : ℕ := 0
  writers : ℕ := 0
  attempted : ℕ := 0
  lost : ℕ := 0
  closed : Bool
  point : ι → PushPoint
  call : ι → PushCall
  consumer : PopPoint := .idle

variable {ι : Type} [DecidableEq ι]

def State.new (ι : Type) (cfg : Config) : State ι where
  stamp := fun i => i
  cell := fun _ _ => 0
  closed := cfg.session = 0 ∨ cfg.attempts = 0
  point := fun _ => .idle
  call := fun _ => {}

def State.goto (s : State ι) (i : ι) (p : PushPoint) : State ι :=
  { s with point := Function.update s.point i p }

def State.setStamp (s : State ι) (slot value : ℕ) : State ι :=
  { s with stamp := Function.update s.stamp slot value }

def State.setWord (s : State ι) (slot : ℕ) (word : Fin eventWords) (value : UInt64) : State ι :=
  { s with cell := Function.update s.cell slot (Function.update (s.cell slot) word value) }

inductive Action (ι : Type) where
  /-- A producer that is in no call calls `tryPush`, and does `m_writers.fetch_add(1)`. -/
  | enter (i : ι) (call : PushCall)
  /-- The next step of a producer; `spurious` is whether a weak exchange fails for no reason, and
  `word` is the word that is copied. -/
  | push (i : ι) (spurious : Bool) (word : Fin eventWords)
  | pop (word : Fin eventWords)
  | close

inductive Output where
  | running
  /-- A call of `tryPush` returns. -/
  | pushed (call : PushCall) (result : PushResult)
  /-- A call of `tryPop` returns. -/
  | popped (result : Pop)
deriving DecidableEq

/-- The next round of the loop in `tryPush`, if there is one. -/
def again (position retry : ℕ) : PushPoint :=
  if retry + 1 < 8 then .loadStamp position (retry + 1) else .addLost .contended

/-- The next step of `tryPush`. -/
def pushStep (cfg : Config) (i : ι) (spurious : Bool) (word : Fin eventWords) (s : State ι) :
    Output × State ι :=
  match s.point i with
  | .idle => (.running, s)
  | .loadClosed => (.running, s.goto i (if s.closed then .exit .closed else .addAttempt))
  | .addAttempt =>
    (.running, { s with attempted := s.attempted + 1 }.goto i
      (if s.attempted ≥ cfg.attempts then .storeClosed else .loadClaimed))
  | .storeClosed => (.running, { s with closed := true }.goto i (.addLost .exhausted))
  | .addLost reason => (.running, { s with lost := s.lost + 1 }.goto i (.exit reason))
  | .loadClaimed => (.running, s.goto i (.loadStamp s.claimed 0))
  | .loadStamp position retry =>
    let stamp := s.stamp (position % cfg.capacity)
    (.running, s.goto i
      (if stamp = position then .exchange position retry
      else if stamp < position then .addLost .full
      else .reload retry))
  | .reload retry => (.running, s.goto i (again s.claimed retry))
  | .exchange position retry =>
    if s.claimed = position ∧ !spurious then
      (.running, { s with claimed := position + 1 }.goto i (.write position ∅))
    else (.running, s.goto i (again s.claimed retry))
  | .write position done =>
    let slot := position % cfg.capacity
    if done = Finset.univ then
      (.running, (s.setStamp slot (position + 1)).goto i (.published position))
    else
      let event := stampEvent (s.call i).session position (s.call i).event
      (.running, (s.setWord slot word (event word)).goto i (.write position (insert word done)))
  | .published position =>
    (.pushed (s.call i) ⟨.published, position + 1⟩,
      { s with writers := s.writers - 1 }.goto i .idle)
  | .exit reason =>
    (.pushed (s.call i) ⟨reason, 0⟩, { s with writers := s.writers - 1 }.goto i .idle)

/-- The next step of `tryPop`. -/
def popStep (cfg : Config) (word : Fin eventWords) (s : State ι) : Output × State ι :=
  let slot := s.read % cfg.capacity
  match s.consumer with
  | .idle =>
    (.running, { s with
      consumer := if s.stamp slot ≠ s.read + 1 then .loadClosed else .copy ∅ fun _ => 0 })
  | .loadClosed =>
    if s.closed then (.running, { s with consumer := .loadWriters })
    else (.popped .empty, { s with consumer := .idle })
  | .loadWriters =>
    if s.writers = 0 then (.running, { s with consumer := .loadClaimed })
    else (.popped .empty, { s with consumer := .idle })
  | .loadClaimed =>
    (.popped (if s.claimed = s.read then .finished else .empty), { s with consumer := .idle })
  | .copy done output =>
    if done = Finset.univ then
      (.popped (.item output),
        { s.setStamp slot (s.read + cfg.capacity) with read := s.read + 1, consumer := .idle })
    else
      let output := Function.update output word (s.cell slot word)
      (.running, { s with consumer := .copy (insert word done) output })

def step (cfg : Config) (action : Action ι) (s : State ι) : Output × State ι :=
  match action with
  | .enter i call =>
    if s.point i ≠ .idle then (.running, s)
    else
      (.running, { s with writers := s.writers + 1, call := Function.update s.call i call }.goto i
        (if call.session = 0 ∨ call.session ≠ cfg.session then .exit .stale else .loadClosed))
  | .push i spurious word => pushStep cfg i spurious word s
  | .pop word => popStep cfg word s
  | .close => (.running, { s with closed := true })

/-- `struct IngressCounters`. -/
structure Counters where
  attempted : ℕ
  accepted : ℕ
  lost : ℕ
  popped : ℕ
  queued : ℕ
  closed : Bool

/-- `countersAfterJoin`. -/
def countersAfterJoin (s : State ι) : Counters :=
  ⟨s.attempted, s.claimed, s.lost, s.read, s.claimed - s.read, s.closed⟩

end War3VK.RenderHost.Recorder.Ingress

/-!
## Steps of the event ingress

`Move` sorts the steps by what they do to the cells and counters: most steps of a producer only
carry it on (`Carried`), and the few that touch a cell or the claimed position stand alone. Every
step is a move (`move_step`); the invariants are proved for moves.
-/

namespace War3VK.RenderHost.Recorder.Ingress

open Lib

variable {ι : Type} [DecidableEq ι]

/-! ### Kinds of points -/

@[simp]
def PushPoint.holds : PushPoint → Option ℕ
  | .write position _ | .published position => some position
  | _ => none

@[simp]
def PushPoint.busy : PushPoint → ℕ
  | .idle => 0
  | _ => 1

/-- Whether a producer has counted an attempt that is neither accepted nor lost. -/
@[simp]
def PushPoint.pending : PushPoint → ℕ
  | .storeClosed | .addLost _ | .loadClaimed | .loadStamp _ _ | .reload _ | .exchange _ _ => 1
  | _ => 0

@[simp]
def PushPoint.inside : PushPoint → Bool
  | .idle | .exit _ => false
  | _ => true

/-- Whether a producer is in no call, has yet to see that the ingress is closed, or is about to say
so. -/
@[simp]
def PushPoint.late : PushPoint → Bool
  | .idle | .loadClosed | .exit .closed | .exit .stale => true
  | _ => false

/-- Whether a producer is about to return a loss, or say why it was refused. -/
@[simp]
def PushPoint.honest : PushPoint → Bool
  | .addLost .published | .exit .published => false
  | _ => true

@[simp]
def PushPoint.claims : PushPoint → Bool
  | .exchange _ _ => true
  | _ => false

/-- A step that carries a producer on without touching a cell or a claim. -/
structure Carried (cfg : Config) (s s' : State ι) (i : ι) (p : PushPoint) : Prop where
  point : s'.point = Function.update s.point i p
  from_holds : (s.point i).holds = none
  to_holds : p.holds = none
  to_claims : p.claims = false
  stamp : s'.stamp = s.stamp
  cell : s'.cell = s.cell
  claimed : s'.claimed = s.claimed
  read : s'.read = s.read
  consumer : s'.consumer = s.consumer
  call : ∀ j, j ≠ i → s'.call j = s.call j
  /-- A producer that has passed the test of its session has that session. -/
  session : p.inside → (s.point i).inside ∧ s'.call i = s.call i ∨
    (s'.call i).session = cfg.session
  writers : s'.writers + (s.point i).busy = s.writers + p.busy
  attempted : s'.attempted + s.lost + (s.point i).pending = s.attempted + s'.lost + p.pending
  closed : s.closed → s'.closed
  late : s.closed → (s.point i).late → p.late
  honest : (s.point i).honest → p.honest

inductive Move (cfg : Config) (s : State ι) : Output × State ι → Prop where
  | rest : Move cfg s (.running, s)
  | carry (i : ι) (p : PushPoint) (s' : State ι) (h : Carried cfg s s' i p) : Move cfg s (.running, s')
  /-- A producer sees a cell whose stamp is the position it wants. -/
  | observe (i : ι) (position retry : ℕ) (hpoint : s.point i = .loadStamp position retry)
      (hstamp : s.stamp (position % cfg.capacity) = position) :
      Move cfg s (.running, s.goto i (.exchange position retry))
  | claim (i : ι) (retry : ℕ) (hpoint : s.point i = .exchange s.claimed retry) :
      Move cfg s (.running, { s with claimed := s.claimed + 1 }.goto i (.write s.claimed ∅))
  | write (i : ι) (position : ℕ) (done : Finset (Fin eventWords)) (word : Fin eventWords)
      (hpoint : s.point i = .write position done) :
      Move cfg s (.running, (s.setWord (position % cfg.capacity) word
        (stampEvent (s.call i).session position (s.call i).event word)).goto i
          (.write position (insert word done)))
  | store (i : ι) (position : ℕ) (hpoint : s.point i = .write position Finset.univ) :
      Move cfg s (.running, (s.setStamp (position % cfg.capacity) (position + 1)).goto i
        (.published position))
  | publish (i : ι) (position : ℕ) (hpoint : s.point i = .published position) :
      Move cfg s (.pushed (s.call i) ⟨.published, position + 1⟩,
        { s with writers := s.writers - 1 }.goto i .idle)
  | refuse (i : ι) (reason : Push) (hpoint : s.point i = .exit reason) :
      Move cfg s (.pushed (s.call i) ⟨reason, 0⟩,
        { s with writers := s.writers - 1 }.goto i .idle)
  | look (hpoint : s.consumer = .idle) : Move cfg s (.running, { s with consumer := .loadClosed })
  | seeClosed (hpoint : s.consumer = .loadClosed) (hclosed : s.closed) :
      Move cfg s (.running, { s with consumer := .loadWriters })
  | seeWriters (hpoint : s.consumer = .loadWriters) (hwriters : s.writers = 0) :
      Move cfg s (.running, { s with consumer := .loadClaimed })
  | empty : Move cfg s (.popped .empty, { s with consumer := .idle })
  /-- It returns `Finished`. -/
  | finish (hpoint : s.consumer = .loadClaimed) (hclaimed : s.claimed = s.read) :
      Move cfg s (.popped .finished, { s with consumer := .idle })
  | find (hpoint : s.consumer = .idle)
      (hstamp : s.stamp (s.read % cfg.capacity) = s.read + 1) :
      Move cfg s (.running, { s with consumer := .copy ∅ fun _ => 0 })
  | copy (done : Finset (Fin eventWords)) (output : Words) (word : Fin eventWords)
      (hpoint : s.consumer = .copy done output) :
      Move cfg s (.running,
        let output := Function.update output word (s.cell (s.read % cfg.capacity) word)
        { s with consumer := .copy (insert word done) output })
  | take (output : Words) (hpoint : s.consumer = .copy Finset.univ output) :
      Move cfg s (.popped (.item output),
        { s.setStamp (s.read % cfg.capacity) (s.read + cfg.capacity) with
          read := s.read + 1, consumer := .idle })
  | close : Move cfg s (.running, { s with closed := true })

variable {cfg : Config}

structure Follows (closed : Bool) (p q : PushPoint) : Prop where
  from_holds : p.holds = none
  to_holds : q.holds = none
  to_claims : q.claims = false
  inside : q.inside → p.inside
  busy : p.busy = q.busy
  late : closed → p.late → q.late
  honest : p.honest → q.honest

theorem carried_goto {s s' : State ι} {i : ι} {q : PushPoint} (h : Follows s.closed (s.point i) q)
    (hs : s' = { s with attempted := s'.attempted, lost := s'.lost, closed := s'.closed })
    (hclosed : s.closed → s'.closed)
    (hcount : s'.attempted + s.lost + (s.point i).pending = s.attempted + s'.lost + q.pending) :
    Carried cfg s (s'.goto i q) i q where
  point := by rw [hs]; rfl
  from_holds := h.from_holds
  to_holds := h.to_holds
  to_claims := h.to_claims
  stamp := by rw [hs]; rfl
  cell := by rw [hs]; rfl
  claimed := by rw [hs]; rfl
  read := by rw [hs]; rfl
  consumer := by rw [hs]; rfl
  call _ _ := by rw [hs]; rfl
  session hq := .inl ⟨h.inside hq, by rw [hs]; rfl⟩
  writers := by rw [h.busy, hs]; rfl
  attempted := hcount
  closed := hclosed
  late := h.late
  honest := h.honest

theorem again_cases (position retry : ℕ) :
    again position retry = .loadStamp position (retry + 1) ∨
      again position retry = .addLost .contended := by
  unfold again
  split_ifs
  · exact .inl rfl
  · exact .inr rfl

theorem move_pushStep (cfg : Config) (i : ι) (spurious : Bool) (word : Fin eventWords)
    (s : State ι) : Move cfg s (pushStep cfg i spurious word s) := by
  unfold pushStep
  cases hp : s.point i with
  | idle => exact .rest
  | loadClosed =>
    refine .carry i _ _ (carried_goto ?_ rfl id ?_)
    · rw [hp]
      cases s.closed <;> constructor <;> decide
    · rw [hp]
      cases s.closed <;> rfl
  | addAttempt =>
    refine .carry i _ _ (carried_goto ?_ rfl id ?_)
    · rw [hp]
      split_ifs <;> constructor <;> simp
    · rw [hp]
      split_ifs <;> simp <;> omega
  | storeClosed =>
    refine .carry i _ _ (carried_goto ?_ rfl (fun _ => rfl) ?_)
    · rw [hp]
      constructor <;> simp
    · rw [hp]
      rfl
  | addLost reason =>
    refine .carry i _ _ (carried_goto ?_ rfl id ?_)
    · rw [hp]
      constructor <;> cases reason <;> simp
    · rw [hp]
      simp
      omega
  | loadClaimed =>
    refine .carry i _ _ (carried_goto ?_ rfl id ?_)
    · rw [hp]
      constructor <;> simp
    · rw [hp]
      rfl
  | loadStamp position retry =>
    dsimp only
    split_ifs with heq hlt
    · exact .observe i position retry hp heq
    all_goals
      refine .carry i _ _ (carried_goto ?_ rfl id ?_)
      · rw [hp]
        constructor <;> simp
      · rw [hp]
        rfl
  | reload retry =>
    refine .carry i _ _ (carried_goto ?_ rfl id ?_)
    · rw [hp]
      rcases again_cases s.claimed retry with h | h <;> rw [h] <;> constructor <;> simp
    · rw [hp]
      rcases again_cases s.claimed retry with h | h <;> rw [h] <;> rfl
  | exchange position retry =>
    dsimp only
    split_ifs with hc
    · obtain ⟨rfl, -⟩ := hc
      exact .claim i retry hp
    · refine .carry i _ _ (carried_goto ?_ rfl id ?_)
      · rw [hp]
        rcases again_cases s.claimed retry with h | h <;> rw [h] <;> constructor <;> simp
      · rw [hp]
        rcases again_cases s.claimed retry with h | h <;> rw [h] <;> rfl
  | write position done =>
    dsimp only
    split_ifs with hdone
    · exact .store i position (by rw [hp, hdone])
    · exact .write i position done word hp
  | published position => exact .publish i position hp
  | exit reason => exact .refuse i reason hp

theorem move_popStep (cfg : Config) (word : Fin eventWords) (s : State ι) :
    Move cfg s (popStep cfg word s) := by
  unfold popStep
  dsimp only
  cases hp : s.consumer with
  | idle =>
    by_cases hs : s.stamp (s.read % cfg.capacity) = s.read + 1
    · simpa [hs] using Move.find hp hs
    · simpa [hs] using Move.look hp
  | loadClosed =>
    dsimp only
    split_ifs with hc
    · exact .seeClosed hp hc
    · exact .empty
  | loadWriters =>
    dsimp only
    split_ifs with hw
    · exact .seeWriters hp hw
    · exact .empty
  | loadClaimed =>
    dsimp only
    split_ifs with hc
    · exact .finish hp hc
    · exact .empty
  | copy done output =>
    dsimp only
    split_ifs with hdone
    · exact .take output (by rw [hp, hdone])
    · exact .copy done output word hp

theorem move_step (cfg : Config) (action : Action ι) (s : State ι) :
    Move cfg s (step cfg action s) := by
  cases action with
  | enter i call =>
    unfold step
    dsimp only
    by_cases hidle : s.point i ≠ .idle
    · rw [if_pos hidle]
      exact .rest
    rw [if_neg hidle]
    split_ifs with hsession
    all_goals
      have hp : s.point i = .idle := not_not.mp hidle
      refine .carry i _ _ ⟨rfl, by rw [hp]; rfl, rfl, rfl, rfl, rfl, rfl, rfl, rfl,
        fun j hj => Function.update_of_ne hj _ _, fun hin => .inr ?_, by rw [hp]; rfl,
        by rw [hp]; rfl, id, fun _ _ => rfl, fun _ => rfl⟩
    · exact nomatch hin
    · exact (congrArg PushCall.session (Function.update_self ..)).trans
        (not_not.mp (not_or.mp hsession).2)
  | push i spurious word => exact move_pushStep cfg i spurious word s
  | pop word => exact move_popStep cfg word s
  | close => exact .close

end War3VK.RenderHost.Recorder.Ingress
