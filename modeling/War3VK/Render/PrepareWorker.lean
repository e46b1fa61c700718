import War3VK.Lib.Machine

/-!
# The worker that prepares point shadows

A mailbox with one slot for a request and one for a result
(`src/d3d9/war3/render/war3_point_shadow_prepare_worker.h`). The renderer submits and collects without
waiting, and one thread takes the request, lets a processor make the payload and puts the result. The
model has an event for each section under the mutex. What the processor does is between two of them, and
it may throw. The thread has a last section for what is thrown elsewhere in its loop, by the mutex. The
numbers for diagnostics are left out, except the one that `submit` reads.
-/

namespace War3VK.Render.PrepareWorker

open Lib

/-- `War3PointShadowPrepareGenerationTuple`. -/
structure Generation where
  jobSerial : UInt64 := 0
  rendererEpoch : UInt64 := 0
  frameSerial : UInt64 := 0
  lightGeneration : UInt64 := 0
  deriving DecidableEq, Repr

/-- `valid`. -/
def Generation.valid (g : Generation) : Bool :=
  g.jobSerial ≠ 0 && g.rendererEpoch ≠ 0 && g.frameSerial ≠ 0 && g.lightGeneration ≠ 0

/-- `War3PointShadowPrepareSubmitStatus`. -/
inductive SubmitStatus
  | accepted
  | invalidGeneration
  | staleGeneration
  | busy
  | stopping
  | unavailable
  deriving DecidableEq, Repr

/-- `War3PointShadowPrepareResultState`. -/
inductive ResultState
  | empty
  | notReady
  | ready
  | failed
  | cancelled
  | stale
  | invalidGeneration
  | stopping
  | unavailable
  deriving DecidableEq, Repr

variable {α β ε : Type}

/-- `War3PointShadowPrepareRequest`. -/
structure Request (α : Type) where
  generation : Generation := {}
  payload : α
  deriving DecidableEq, Repr

/-- `War3PointShadowPrepareResult`. -/
structure Result (β ε : Type) where
  generation : Generation := {}
  state : ResultState := .empty
  payload : Option β := none
  failure : Option ε := none
  deriving DecidableEq, Repr

/-- `makeStateResult`. -/
def makeStateResult (generation : Generation) (resultState : ResultState) : Result β ε :=
  { generation, state := resultState }

/-- `isStaleSubmission`. -/
def isStaleSubmission (previous candidate : Generation) : Bool :=
  if !previous.valid then false
  else if candidate.rendererEpoch ≠ previous.rendererEpoch then
    candidate.rendererEpoch < previous.rendererEpoch
  else candidate.jobSerial ≤ previous.jobSerial

/-- `SharedState`. -/
structure SharedState (α β ε : Type) where
  available : Bool := false
  stopping : Bool := false
  workerRunning : Bool := false
  requestSlot : Option (Request α) := none
  resultSlot : Option (Result β ε) := none
  lastSubmitted : Generation := {}
  startupFailure : Option ε := none
  threadStarts : ℕ := 0

namespace SharedState

/-- `submit`: its status, what the caller is left with, and the state. -/
def submit (request : Request α) (s : SharedState α β ε) :
    SubmitStatus × Option (Request α) × SharedState α β ε :=
  if !request.generation.valid then (.invalidGeneration, some request, s)
  else if !s.available && s.startupFailure.isSome && s.threadStarts = 0 then
    (.unavailable, some request, s)
  else if s.stopping then (.stopping, some request, s)
  else if !s.available then (.unavailable, some request, s)
  else if isStaleSubmission s.lastSubmitted request.generation then
    (.staleGeneration, some request, s)
  else if s.requestSlot.isSome || s.workerRunning || s.resultSlot.isSome then
    (.busy, some request, s)
  else
    (.accepted, none, { s with lastSubmitted := request.generation, requestSlot := some request })

/-- `consumeResultLocked`, for the result in the slot. -/
def consumeResultLocked (expected : Generation) (result : Result β ε) (s : SharedState α β ε) :
    Result β ε × SharedState α β ε :=
  let s := { s with resultSlot := none }
  if result.generation ≠ expected then
    ({ result with state := .stale, payload := none, failure := none }, s)
  else (result, s)

/-- `tryCollectExact`. -/
def tryCollectExact (expected : Generation) (s : SharedState α β ε) :
    Result β ε × SharedState α β ε :=
  if !expected.valid then (makeStateResult expected .invalidGeneration, s)
  else
    match s.resultSlot with
    | none => (makeStateResult expected .notReady, s)
    | some result => s.consumeResultLocked expected result

/-- `waitAndCollectExact`; it has no result while it waits. -/
def waitAndCollectExact (expected : Generation) (s : SharedState α β ε) :
    Option (Result β ε) × SharedState α β ε :=
  if !expected.valid then (some (makeStateResult expected .invalidGeneration), s)
  else
    match s.resultSlot with
    | some result =>
      let r := s.consumeResultLocked expected result
      (some r.1, r.2)
    | none =>
      if !s.available && !s.workerRunning && s.requestSlot.isNone then
        (some (makeStateResult expected
          (if s.startupFailure.isSome then .unavailable else .stopping)), s)
      else (none, s)

/-- `cancelPendingRequestLocked`. -/
def cancelPendingRequestLocked (s : SharedState α β ε) : SharedState α β ε :=
  match s.requestSlot with
  | none => s
  | some request =>
    { s with
      requestSlot := none
      resultSlot := some (makeStateResult request.generation .cancelled) }

/-- `cancelCompletedResultLocked`. -/
def cancelCompletedResultLocked (s : SharedState α β ε) : SharedState α β ε :=
  match s.resultSlot with
  | none => s
  | some result =>
    if s.workerRunning then s
    else if result.state = .cancelled then s
    else
      { s with
        resultSlot := some { result with payload := none, failure := none, state := .cancelled } }

/-- The first section of `shutdown`. -/
def stop (s : SharedState α β ε) : SharedState α β ε :=
  if s.stopping then s
  else ({ s with stopping := true }.cancelPendingRequestLocked).cancelCompletedResultLocked

/-- The result of a request: what the processor makes of it, or what it throws. -/
def processed (processor : Request α → Except ε β) (request : Request α) : Result β ε :=
  match processor request with
  | .ok payload => { generation := request.generation, state := .ready, payload := some payload }
  | .error failure =>
    { generation := request.generation, state := .failed, failure := some failure }

/-- The section of `workerLoop` that puts a result. -/
def putResult (result : Result β ε) (s : SharedState α β ε) : SharedState α β ε :=
  { s with
    workerRunning := false
    resultSlot := some
      (if s.stopping then { result with payload := none, failure := none, state := .cancelled }
      else result) }

/-- The section of `workerLoop` for what is thrown outside the processor. -/
def workerFailed (failure : ε) (activeGeneration : Option Generation) (s : SharedState α β ε) :
    SharedState α β ε :=
  let s := { s with
    available := false, stopping := true, workerRunning := false, startupFailure := some failure }
  match activeGeneration, s.resultSlot, s.requestSlot with
  | some generation, none, _ =>
    { s with
      resultSlot := some { generation, state := .failed, failure := some failure } }
  | none, none, some request =>
    { s with
      requestSlot := none
      resultSlot := some
        { generation := request.generation, state := .failed, failure := some failure } }
  | _, _, _ => s

end SharedState

/-! ## The mailbox and its thread -/

/-- Where the thread is: at the section that takes a request, between the sections with one, or at its
end. -/
inductive Thread (α : Type)
  | waiting
  | running (request : Request α)
  | ended

/-- `War3PointShadowPersistentPrepareWorker`. -/
structure Mailbox (α β ε : Type) where
  /-- `m_state`. -/
  shared : SharedState α β ε
  thread : Thread α
  /-- A `shutdown` has passed its first section and waits for the thread. -/
  joining : Bool := false

def construct (failure : Option ε) : Mailbox α β ε :=
  match failure with
  | none => { shared := { available := true, threadStarts := 1 }, thread := .waiting }
  | some failure =>
    { shared := { stopping := true, startupFailure := some failure }, thread := .ended }

namespace Mailbox

/-- The section of `workerLoop` that takes a request. -/
def takeRequest (m : Mailbox α β ε) : Mailbox α β ε :=
  match m.thread with
  | .waiting =>
    match m.shared.requestSlot with
    | none => if m.shared.stopping then { m with thread := .ended } else m
    | some request =>
      { m with
        shared := { m.shared with requestSlot := none, workerRunning := true }
        thread := .running request }
  | _ => m

def finish (processor : Request α → Except ε β) (m : Mailbox α β ε) : Mailbox α β ε :=
  match m.thread with
  | .running request =>
    { m with
      shared := m.shared.putResult (SharedState.processed processor request)
      thread := .waiting }
  | _ => m

/-- Something is thrown in the loop of the thread, outside the processor. -/
def fault (failure : ε) (m : Mailbox α β ε) : Mailbox α β ε :=
  match m.thread with
  | .waiting => { m with shared := m.shared.workerFailed failure none, thread := .ended }
  | .running request =>
    { m with shared := m.shared.workerFailed failure (some request.generation), thread := .ended }
  | .ended => m

/-- The end of `shutdown`, once the thread has ended. -/
def join (m : Mailbox α β ε) : Mailbox α β ε :=
  match m.thread with
  | .ended =>
    if m.joining then { m with shared := { m.shared with available := false }, joining := false }
    else m
  | _ => m

inductive Event (α ε : Type)
  | submit (request : Request α)
  | tryCollectExact (expected : Generation)
  | waitAndCollectExact (expected : Generation)
  | stop
  | join
  | takeRequest
  | finish
  | fault (failure : ε)

inductive Output (α β ε : Type)
  | submitted (status : SubmitStatus) (left : Option (Request α))
  | collected (result : Result β ε)
  | done

/-- One section; another `shutdown` waits at its own mutex while one is joining. -/
def step (processor : Request α → Except ε β) (event : Event α ε) (m : Mailbox α β ε) :
    Output α β ε × Mailbox α β ε :=
  match event with
  | .submit request =>
    let r := m.shared.submit request
    (.submitted r.1 r.2.1, { m with shared := r.2.2 })
  | .tryCollectExact expected =>
    let r := m.shared.tryCollectExact expected
    (.collected r.1, { m with shared := r.2 })
  | .waitAndCollectExact expected =>
    let r := m.shared.waitAndCollectExact expected
    (match r.1 with
      | some result => .collected result
      | none => .done, { m with shared := r.2 })
  | .stop =>
    (.done, if m.joining then m else { m with shared := m.shared.stop, joining := true })
  | .join => (.done, m.join)
  | .takeRequest => (.done, m.takeRequest)
  | .finish => (.done, m.finish processor)
  | .fault failure => (.done, m.fault failure)

end Mailbox

end War3VK.Render.PrepareWorker
