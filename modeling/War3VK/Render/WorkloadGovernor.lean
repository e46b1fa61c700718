import War3VK.Lib.Machine
import Mathlib.Data.Fin.Basic
import Mathlib.Logic.Function.Basic

/-!
# The GPU workload governor

`War3GpuWorkloadGovernor` (`src/src/d3d9/war3/render/war3_gpu_workload_governor.cpp`): three consumers
reserve draws, vertices and indices of one frame. What a consumer requests is added up before the
request is judged, and what was accepted only after it was.
-/

namespace War3VK.Render.WorkloadGovernor

/-- `War3GpuWorkloadConsumer`: the values below `Count` name a consumer. -/
abbrev Consumer : Type := UInt32

/-- `War3GpuWorkloadRejectReason`. -/
inductive RejectReason
  | none
  | invalidFrame
  | invalidRequest
  | arithmeticOverflow
  | drawBudget
  | vertexBudget
  | indexBudget
deriving DecidableEq, Repr

/-- `War3GpuWorkloadCost`. -/
structure Cost where
  draws : UInt64 := 0
  vertices : UInt64 := 0
  indices : UInt64 := 0
  valid : Bool := true
deriving DecidableEq, Repr

/-- `War3GpuWorkloadLimits`. -/
structure Limits where
  maxDraws : UInt64 := 32768
  maxVertices : UInt64 := 64 * 1024 * 1024
  maxIndices : UInt64 := 192 * 1024 * 1024
deriving DecidableEq, Repr

/-- `valid`. -/
def Limits.valid (limits : Limits) : Bool :=
  limits.maxDraws ≠ 0 ∧ limits.maxVertices ≠ 0 ∧ limits.maxIndices ≠ 0

/-- `War3GpuWorkloadConsumerDiagnostics`. -/
structure ConsumerDiagnostics where
  requested : Cost := {}
  accepted : Cost := {}
  requestedItems : UInt64 := 0
  acceptedItems : UInt64 := 0
  acceptedReservations : UInt64 := 0
  rolledBackReservations : UInt64 := 0
  rejectedReservations : UInt64 := 0
deriving DecidableEq, Repr

/-- `War3GpuWorkloadGovernorDiagnostics`, without the two counters of the point shadow fallback. -/
structure Diagnostics where
  frameSerial : UInt64 := 0
  limits : Limits := {}
  used : Cost := {}
  consumers : Fin 3 → ConsumerDiagnostics := fun _ => {}
  lastRejectedConsumer : Consumer := 3
  lastRejectReason : RejectReason := .none
  arithmeticOverflowRejectCount : UInt64 := 0

/-- `checkedAdd`. -/
def checkedAdd (lhs rhs : UInt64) : Option UInt64 :=
  if rhs > 0xffffffffffffffff - lhs then none else some (lhs + rhs)

/-- `AddCost`; without a result, the source leaves an invalid one that no caller reads. -/
def addCost (lhs rhs : Cost) : Option Cost :=
  if ¬(lhs.valid ∧ rhs.valid) then none
  else
    match checkedAdd lhs.draws rhs.draws, checkedAdd lhs.vertices rhs.vertices,
      checkedAdd lhs.indices rhs.indices with
    | some draws, some vertices, some indices => some { draws, vertices, indices }
    | _, _, _ => none

/-- `SubtractCost`. -/
def subtractCost (lhs rhs : Cost) : Option Cost :=
  if ¬(lhs.valid ∧ rhs.valid) ∨ rhs.draws > lhs.draws ∨ rhs.vertices > lhs.vertices ∨
      rhs.indices > lhs.indices then none
  else some ⟨lhs.draws - rhs.draws, lhs.vertices - rhs.vertices, lhs.indices - rhs.indices, true⟩

/-- `beginFrame`. -/
def beginFrame (frameSerial : UInt64) (limits : Limits) : Diagnostics := { frameSerial, limits }

/-- `consumerIndex`, where the consumer has diagnostics. -/
def consumerIndex (consumer : Consumer) : Option (Fin 3) :=
  if h : consumer.toNat < 3 then some ⟨consumer.toNat, h⟩ else none

def Diagnostics.setConsumer (s : Diagnostics) (index : Fin 3) (d : ConsumerDiagnostics) :
    Diagnostics :=
  { s with consumers := Function.update s.consumers index d }

/-- `reject`. -/
def reject (consumer : Consumer) (reason : RejectReason) (s : Diagnostics) : Diagnostics :=
  let s := match consumerIndex consumer with
    | some index =>
      s.setConsumer index { s.consumers index with
        rejectedReservations := (s.consumers index).rejectedReservations + 1 }
    | none => s
  { s with
    lastRejectedConsumer := consumer
    lastRejectReason := reason
    arithmeticOverflowRejectCount :=
      if reason = .arithmeticOverflow then s.arithmeticOverflowRejectCount + 1
      else s.arithmeticOverflowRejectCount }

/-- The first part of `tryReserve`: the request is added to what the consumer has requested. -/
def noteRequest (itemCount : UInt64) (cost : Cost) (d : ConsumerDiagnostics) :
    Bool × ConsumerDiagnostics :=
  match addCost d.requested cost with
  | none => (false, { d with requested := { d.requested with valid := false } })
  | some requested =>
    match checkedAdd d.requestedItems itemCount with
    | none => (false, { d with requested })
    | some requestedItems => (true, { d with requested, requestedItems })

structure Grant where
  used : Cost
  accepted : Cost
  acceptedItems : UInt64

/-- The second part of `tryReserve`: the request is judged, and nothing is written. -/
def judge (index : Fin 3) (itemCount : UInt64) (cost : Cost) (s : Diagnostics) :
    Except RejectReason Grant :=
  if s.frameSerial = 0 ∨ ¬s.limits.valid then .error .invalidFrame
  else if ¬cost.valid ∨ itemCount = 0 then .error .invalidRequest
  else
    match addCost s.used cost with
    | none => .error .arithmeticOverflow
    | some candidate =>
      if candidate.draws > s.limits.maxDraws then .error .drawBudget
      else if candidate.vertices > s.limits.maxVertices then .error .vertexBudget
      else if candidate.indices > s.limits.maxIndices then .error .indexBudget
      else
        match addCost (s.consumers index).accepted cost with
        | none => .error .arithmeticOverflow
        | some accepted =>
          match checkedAdd (s.consumers index).acceptedItems itemCount with
          | none => .error .arithmeticOverflow
          | some acceptedItems => .ok ⟨candidate, accepted, acceptedItems⟩

/-- The last part of `tryReserve`: what was granted is written. -/
def commit (index : Fin 3) (grant : Grant) (s : Diagnostics) : Diagnostics :=
  { s.setConsumer index { s.consumers index with
      accepted := grant.accepted
      acceptedItems := grant.acceptedItems
      acceptedReservations := (s.consumers index).acceptedReservations + 1 } with
    used := grant.used }

/-- `tryReserve`. -/
def tryReserve (consumer : Consumer) (itemCount : UInt64) (cost : Cost) (s : Diagnostics) :
    Bool × Diagnostics :=
  match consumerIndex consumer with
  | none => (false, reject consumer .invalidRequest s)
  | some index =>
    let noted := noteRequest itemCount cost (s.consumers index)
    let s := s.setConsumer index noted.2
    if ¬noted.1 then (false, reject consumer .arithmeticOverflow s)
    else
      match judge index itemCount cost s with
      | .error reason => (false, reject consumer reason s)
      | .ok grant => (true, commit index grant s)

/-- `cancelReservation`. -/
def cancelReservation (consumer : Consumer) (itemCount : UInt64) (cost : Cost) (s : Diagnostics) :
    Bool × Diagnostics :=
  match consumerIndex consumer with
  | none => (false, s)
  | some index =>
    let d := s.consumers index
    if itemCount = 0 ∨ ¬cost.valid then (false, s)
    else if d.acceptedItems < itemCount ∨ d.acceptedReservations = 0 then (false, s)
    else
      match subtractCost s.used cost, subtractCost d.accepted cost with
      | some used, some accepted =>
        (true, { s.setConsumer index { d with
            accepted
            acceptedItems := d.acceptedItems - itemCount
            acceptedReservations := d.acceptedReservations - 1
            rolledBackReservations := d.rolledBackReservations + 1 } with
          used })
      | _, _ => (false, s)

inductive Call
  | reserve (consumer : Consumer) (itemCount : UInt64) (cost : Cost)
  | cancel (consumer : Consumer) (itemCount : UInt64) (cost : Cost)
deriving DecidableEq, Repr

def step : Call → Diagnostics → Bool × Diagnostics
  | .reserve consumer itemCount cost => tryReserve consumer itemCount cost
  | .cancel consumer itemCount cost => cancelReservation consumer itemCount cost

end War3VK.Render.WorkloadGovernor
