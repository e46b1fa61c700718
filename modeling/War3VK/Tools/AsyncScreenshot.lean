import Mathlib.Logic.Function.Basic
import War3VK.Lib.Machine

/-!
# The slots of asynchronous screenshots

Three slots are shared between the threads that request a screenshot, the thread that presents and a worker
that encodes (`src/d3d9/war3/tools/war3_async_screenshot.cpp`, `war3_async_screenshot_core.h`). The model
has a step for each access to an atomic, and for what lies between two of them. Where a thread stands is
part of the state. The threads that request hold the mutex of the registry for the whole call, and so does
`reset`; the calls of the presenting thread are made one after the other, under the lock of the device.
-/

namespace War3VK.Tools.AsyncScreenshot

open Lib

/-! ## `war3_async_screenshot_core.h` -/

/-- `SlotCount`. -/
abbrev slotCount : ℕ := 3

/-- `MaxBytesPerSlot`. -/
def maxBytesPerSlot : UInt64 := 32 * 1024 * 1024

/-- `UINT64_MAX`. -/
def uint64Max : UInt64 := 18446744073709551615

/-- `State`. -/
inductive SlotState
  | retired
  | free
  | requested
  | preparing
  | submitted
  | quarantined
  deriving DecidableEq, Repr

/-- `Layout`: the bytes of an image, if a slot has room for it. -/
def layout (width height : UInt32) : Option UInt64 :=
  if width = 0 || height = 0 || 8192 < width || 8192 < height then none
  else
    let bytes := width.toUInt64 * height.toUInt64 * 4
    if bytes ≤ maxBytesPerSlot then some bytes else none

/-- `Readable`. -/
def readable (queryOk deviceOk : Bool) (completed target : UInt64) : Bool :=
  queryOk && deviceOk && target ≠ 0 && target ≤ completed

/-! ## The data -/

structure Buffer where
  id : ℕ
  size : UInt64
  deriving DecidableEq, Repr

/-- `HistoryReadback`, what does not change of it. -/
structure HistoryReadback where
  id : ℕ
  present : UInt64
  width : UInt32
  height : UInt32
  deriving DecidableEq, Repr

/-- What is written into a `HistoryReadback`. -/
structure Readback where
  targetValue : UInt64 := 0
  observedValue : UInt64 := 0
  queued : Bool := false
  done : Bool := false
  success : Bool := false
  deriving DecidableEq, Repr

/-- `Slot`. -/
structure Slot where
  state : SlotState := .retired
  buffer : Option Buffer := none
  fence : Option ℕ := none
  value : UInt64 := 0
  serial : UInt64 := 0
  presentOrdinal : UInt64 := 0
  history : Option HistoryReadback := none
  width : UInt32 := 0
  height : UInt32 := 0
  submittedAt : ℕ := 0
  deriving DecidableEq, Repr

/-- `AsyncScreenshot::Copy`. -/
structure Copy where
  buffer : Buffer
  fence : ℕ
  value : UInt64
  slot : Fin slotCount
  serial : UInt64
  presentOrdinal : UInt64
  deriving DecidableEq, Repr

inductive Format
  | b8g8r8a8Unorm
  | b8g8r8a8Srgb
  | other
  deriving DecidableEq, Repr

/-- `DxvkImageCreateInfo`, what `prepare` reads of it. -/
structure ImageInfo where
  /-- `type == VK_IMAGE_TYPE_2D`. -/
  twoDimensional : Bool
  sampleCount : ℕ
  numLayers : UInt32
  mipLevels : UInt32
  format : Format
  width : UInt32
  height : UInt32
  deriving DecidableEq, Repr

/-- What `prepare` asks of the image. -/
def ImageInfo.supported (info : ImageInfo) : Bool :=
  info.twoDimensional && info.sampleCount = 1 && info.numLayers = 1 && info.mipLevels = 1 &&
    (info.format = .b8g8r8a8Unorm || info.format = .b8g8r8a8Srgb) &&
      (layout info.width info.height).isSome

/-! ## Where the threads stand -/

/-- What `prepare` does after it called `reset`. -/
inductive AfterReset
  | done
  | prepare (width height : UInt32) (advanceBurst : Bool)
  deriving DecidableEq, Repr

/-- What is done after `releaseRetiredSlots`. -/
inductive AfterRelease
  | done
  | prepare (advanceBurst : Bool)
  deriving DecidableEq, Repr

/-- Where the presenting thread stands. `job` is that of `takeHistory`, and none in `take`. -/
inductive OwnerAt
  | idle
  | lockReset (after : AfterReset)
  | inReset (after : AfterReset)
  | release (k : Fin slotCount) (after : AfterRelease)
  | clear (k : Fin slotCount) (after : AfterRelease)
  | free (k : Fin slotCount) (after : AfterRelease)
  | loadFault (info : ImageInfo) (advanceBurst : Bool)
  | storeAvailable (advanceBurst : Bool)
  | loadBurst
  | claimBurst (k : Fin slotCount)
  | decrementBurst
  | storeBurst
  | countCancelled
  | take (k : Fin slotCount)
  | loadHistory (job : HistoryReadback)
  | claimHistory (k : Fin slotCount) (job : HistoryReadback)
  | checkSlot (k : Fin slotCount) (job : Option HistoryReadback)
  | allocate (k : Fin slotCount) (job : Option HistoryReadback)
  | storeFault (k : Fin slotCount) (job : Option HistoryReadback)
  | storeUnavailable (k : Fin slotCount) (job : Option HistoryReadback)
  | refuse (k : Fin slotCount) (job : Option HistoryReadback)
  | storeDone (job : HistoryReadback)
  | submit (k : Fin slotCount)
  | countInFlight (k : Fin slotCount)
  | storeSubmitted (k : Fin slotCount)
  | quarantine (k : Fin slotCount)
  | quarantineFault (k : Fin slotCount)
  | quarantineAvailable (k : Fin slotCount)
  | storeQuarantined (k : Fin slotCount)
  deriving DecidableEq, Repr

inductive RegistryAt
  | loadAvailable
  | loadFault
  | claim (k : Fin slotCount)
  | countRejected
  | armAvailable
  | armFault
  | armSlot (k : Fin slotCount)
  | armBurst
  | resetAvailable
  | resetBurst
  | cancel (k : Fin slotCount)
  | countCancelled (k : Fin slotCount)
  | retire (k : Fin slotCount)
  deriving DecidableEq, Repr

inductive WorkerAt
  | top
  | wait
  | woken
  | exchangeRejected
  | exchangeCancelled
  | load (k : Fin slotCount)
  | query (k : Fin slotCount)
  | failFault (k : Fin slotCount)
  | failAvailable (k : Fin slotCount)
  | failStore (k : Fin slotCount)
  | failCount (k : Fin slotCount)
  | failHistory (k : Fin slotCount)
  | save (k : Fin slotCount) (completed : UInt64)
  | report (k : Fin slotCount) (completed : UInt64) (saved : Bool)
  | count (k : Fin slotCount) (completed : UInt64) (saved : Bool)
  | retire (k : Fin slotCount) (completed : UInt64) (saved : Bool)
  | stopped
  deriving DecidableEq, Repr

structure State where
  slots : Fin slotCount → Slot := fun _ => {}
  /-- The copies that were taken, and neither submitted nor quarantined. -/
  copies : Fin slotCount → Option Copy := fun _ => none
  available : Bool := false
  stop : Bool := false
  fault : Bool := false
  inFlight : UInt32 := 0
  rejected : UInt32 := 0
  cancelled : UInt32 := 0
  burstRemaining : UInt32 := 0
  width : UInt32 := 0
  height : UInt32 := 0
  sourceReady : Bool := false
  presentOrdinal : UInt64 := 0
  fileSerial : UInt64 := 0
  readbacks : ℕ → Readback := fun _ => {}
  buffers : ℕ := 0
  fences : ℕ := 0
  /-- The mutex of the registry: where the thread stands that holds it. -/
  registry : Option RegistryAt := none
  owner : OwnerAt := .idle
  worker : WorkerAt := .top

inductive End
  | saved
  | failed
  | cancelled
  | quarantined
  deriving DecidableEq, Repr

/-- What a step shows. `answered` is what `request` returns where it claims no slot. -/
inductive Event
  | none
  | answered (handled : Bool)
  | claimed (k : Fin slotCount)
  | copied (k : Fin slotCount) (copy : Copy)
  | submitted (k : Fin slotCount) (copy : Copy)
  | observed (k : Fin slotCount) (fence : ℕ) (completed : UInt64)
  | read (k : Fin slotCount) (buffer : Buffer)
  | ended (k : Fin slotCount) (how : End)
  deriving DecidableEq, Repr

/-- What `createBuffer` and the test of the memory come to. -/
inductive Allocation
  | throws
  | unmapped
  | mapped
  deriving DecidableEq, Repr

structure Answers where
  /-- `device->getDeviceStatus() == VK_SUCCESS`. -/
  deviceOk : Bool := true
  buffer : Allocation := .mapped
  /-- Whether `createFence` returns. -/
  fence : Bool := true
  /-- `query == VK_SUCCESS`. -/
  queryOk : Bool := true
  completed : UInt64 := 0
  now : ℕ := 0
  /-- What `save` returns, if it does not go on reading. -/
  saved : Option Bool := none
  deriving DecidableEq, Repr

/-- The steps: a thread enters a call, or takes its next step in one. -/
inductive Call
  | request
  | armBurst
  | reset
  | registry
  | ownerReset
  | beginPresent
  | prepare (info : ImageInfo) (advanceBurst : Bool)
  | take (k : Fin slotCount)
  | takeHistory (job : HistoryReadback)
  | submitted (k : Fin slotCount)
  | quarantine (k : Fin slotCount)
  | owner (answers : Answers)
  | worker (answers : Answers)
  | stop
  deriving DecidableEq, Repr

namespace State

def next (k : Fin slotCount) : Option (Fin slotCount) :=
  if h : k.val + 1 < slotCount then some ⟨k.val + 1, h⟩ else none

def setSlot (k : Fin slotCount) (slot : Slot) (s : State) : State :=
  { s with slots := Function.update s.slots k slot }

/-- `slot.state.store`. -/
def store (k : Fin slotCount) (new : SlotState) (s : State) : State :=
  s.setSlot k { s.slots k with state := new }

def setReadback (job : HistoryReadback) (f : Readback → Readback) (s : State) : State :=
  { s with readbacks := Function.update s.readbacks job.id (f (s.readbacks job.id)) }

def setHistory (k : Fin slotCount) (f : Readback → Readback) (s : State) : State :=
  match (s.slots k).history with
  | some job => s.setReadback job f
  | none => s

/-! ## The calls that hold the mutex -/

/-- The presenting thread goes on after a `reset` that it called. -/
def resume (s : State) : State :=
  match s.owner with
  | .inReset .done => { s with owner := .idle }
  | .inReset (.prepare width height advanceBurst) =>
    { s with width, height, owner := .release 0 (.prepare advanceBurst) }
  | _ => s

/-- The next step of the thread that holds the mutex: `request`, `ArmAsyncScreenshotBurstForTest` or
`reset`. -/
def registryStep (s : State) : RegistryAt → Event × State
  | .loadAvailable =>
    if s.available then (.none, { s with registry := some .loadFault })
    else (.answered false, { s with registry := none })
  | .loadFault =>
    if s.fault then (.answered false, { s with registry := none })
    else (.none, { s with registry := some (.claim 0) })
  | .claim k =>
    if (s.slots k).state = .free then (.claimed k, { s.store k .requested with registry := none })
    else (.none, { s with registry := some ((next k).elim .countRejected .claim) })
  | .countRejected => (.answered true, { s with rejected := s.rejected + 1, registry := none })
  | .armAvailable => (.none, { s with registry := if s.available then some .armFault else none })
  | .armFault => (.none, { s with registry := if s.fault then none else some (.armSlot 0) })
  | .armSlot k =>
    (.none, { s with
      registry := if (s.slots k).state = .free then some ((next k).elim .armBurst .armSlot) else none })
  | .armBurst =>
    (.none, { s with
      burstRemaining := if s.burstRemaining = 0 then 3 else s.burstRemaining
      registry := none })
  | .resetAvailable =>
    (.none, { s with available := false, sourceReady := false, registry := some .resetBurst })
  | .resetBurst => (.none, { s with burstRemaining := 0, registry := some (.cancel 0) })
  | .cancel k =>
    if (s.slots k).state = .requested then
      (.ended k .cancelled, { s.store k .retired with registry := some (.countCancelled k) })
    else (.none, { s with registry := some (.retire k) })
  | .countCancelled k =>
    let s := { s with cancelled := s.cancelled + 1 }
    match next k with
    | some k => (.none, { s with registry := some (.cancel k) })
    | none => (.none, { s with registry := none }.resume)
  | .retire k =>
    let s := if (s.slots k).state = .free then s.store k .retired else s
    match next k with
    | some k => (.none, { s with registry := some (.cancel k) })
    | none => (.none, { s with registry := none }.resume)

/-! ## The calls of the presenting thread -/

/-- The loop of `releaseRetiredSlots` goes on. -/
def afterSlot (k : Fin slotCount) (after : AfterRelease) : OwnerAt :=
  match next k, after with
  | some k, after => .release k after
  | none, .done => .idle
  | none, .prepare advanceBurst => .storeAvailable advanceBurst

/-- `prepareRequestedSlot` returns false. -/
def allocationThrows (k : Fin slotCount) (job : Option HistoryReadback) (s : State) : Event × State :=
  (.none, { s with owner := .storeFault k job })

/-- What `take` and `takeHistory` do with a slot that is prepared. -/
def handOut (k : Fin slotCount) (job : Option HistoryReadback) (s : State) : Event × State :=
  let slot := s.slots k
  match job, slot.buffer, slot.fence with
  | none, some buffer, some fence =>
    if slot.width ≠ s.width || slot.height ≠ s.height || slot.value = uint64Max then
      (.none, { s with owner := .refuse k none })
    else
      let slot := { slot with
        serial := s.fileSerial + 1, presentOrdinal := s.presentOrdinal, value := slot.value + 1 }
      let copy : Copy := ⟨buffer, fence, slot.value, k, slot.serial, slot.presentOrdinal⟩
      (.copied k copy, { s.setSlot k slot with
        fileSerial := s.fileSerial + 1
        copies := Function.update s.copies k (some copy)
        owner := .idle })
  | some job, some buffer, some fence =>
    if slot.width ≠ job.width || slot.height ≠ job.height || slot.value = uint64Max then
      (.none, { s.store k .retired with
        owner := (next k).elim .idle fun k => .claimHistory k job })
    else
      let slot := { slot with
        history := some job, serial := s.fileSerial + 1, presentOrdinal := job.present
        value := slot.value + 1 }
      let copy : Copy := ⟨buffer, fence, slot.value, k, slot.serial, slot.presentOrdinal⟩
      (.copied k copy, { (s.setSlot k slot).setReadback job (fun r =>
          { r with targetValue := slot.value, queued := true }) with
        fileSerial := s.fileSerial + 1
        copies := Function.update s.copies k (some copy)
        owner := .idle })
  | none, _, _ => (.none, { s with owner := .refuse k none })
  | some job, _, _ =>
    (.none, { s.store k .retired with owner := (next k).elim .idle fun k => .claimHistory k job })

/-- The fence of a slot and the rest of `prepareRequestedSlot`. -/
def allocateFence (k : Fin slotCount) (job : Option HistoryReadback) (answers : Answers) (s : State) :
    Event × State :=
  let slot := s.slots k
  match slot.fence, answers.fence with
  | some _, _ =>
    (s.setSlot k { slot with width := s.width, height := s.height, history := none }).handOut k job
  | none, true =>
    ({ s.setSlot k { slot with
        fence := some s.fences, width := s.width, height := s.height, history := none } with
      fences := s.fences + 1 }).handOut k job
  | none, false => s.allocationThrows k job

/-- `prepareRequestedSlot` after its test, and what its caller does with the slot. -/
def allocate (k : Fin slotCount) (job : Option HistoryReadback) (bytes : UInt64) (answers : Answers)
    (s : State) : Event × State :=
  let slot := s.slots k
  if slot.buffer.map Buffer.size = some bytes then s.allocateFence k job answers
  else
    let made := { s.setSlot k { slot with buffer := some ⟨s.buffers, bytes⟩ } with
      buffers := s.buffers + 1 }
    match answers.buffer with
    | .throws => s.allocationThrows k job
    | .unmapped => made.allocationThrows k job
    | .mapped => made.allocateFence k job answers

def ownerStep (answers : Answers) (s : State) : Event × State :=
  match s.owner with
  | .idle => (.none, s)
  -- `reset` waits for the mutex, and the presenting thread for `reset`.
  | .lockReset after =>
    match s.registry with
    | none => (.none, { s with registry := some .resetAvailable, owner := .inReset after })
    | some _ => (.none, s)
  | .inReset _ => (.none, s)
  -- `releaseRetiredSlots`.
  | .release k after =>
    if (s.slots k).state = .retired then
      (.none, { s.store k .preparing with owner := .clear k after })
    else (.none, { s with owner := afterSlot k after })
  | .clear k after =>
    (.none, { s.setSlot k { s.slots k with
        buffer := none, fence := none, value := 0, width := 0, height := 0, history := none } with
      owner := .free k after })
  | .free k after => (.none, { s.store k .free with owner := afterSlot k after })
  -- `prepare`.
  | .loadFault info advanceBurst =>
    if !(!s.fault && answers.deviceOk && info.supported) then
      (.none, { s with owner := .lockReset .done })
    else if !s.sourceReady || s.width ≠ info.width || s.height ≠ info.height then
      (.none, { s with owner := .lockReset (.prepare info.width info.height advanceBurst) })
    else (.none, { s with owner := .release 0 (.prepare advanceBurst) })
  | .storeAvailable advanceBurst =>
    (.none, { s with
      sourceReady := true, available := true, owner := if advanceBurst then .loadBurst else .idle })
  | .loadBurst =>
    (.none, { s with owner := if s.burstRemaining = 0 then .idle else .claimBurst 0 })
  | .claimBurst k =>
    if (s.slots k).state = .free then
      (.claimed k, { s.store k .requested with owner := .decrementBurst })
    else (.none, { s with owner := (next k).elim .storeBurst .claimBurst })
  | .decrementBurst => (.none, { s with burstRemaining := s.burstRemaining - 1, owner := .idle })
  | .storeBurst => (.none, { s with burstRemaining := 0, owner := .countCancelled })
  | .countCancelled => (.none, { s with cancelled := s.cancelled + 1, owner := .idle })
  -- `take` and `takeHistory`.
  | .take k =>
    if (s.slots k).state = .requested then
      (.none, { s.store k .preparing with owner := .checkSlot k none })
    else (.none, { s with owner := .idle })
  | .loadHistory job =>
    (.none, { s with
      owner := if (s.readbacks job.id).queued || job.width ≠ s.width || job.height ≠ s.height ||
        !s.available then .idle else .claimHistory 0 job })
  | .claimHistory k job =>
    if (s.slots k).state = .free then
      (.claimed k, { s.store k .preparing with owner := .checkSlot k (some job) })
    else (.none, { s with owner := (next k).elim .idle fun k => .claimHistory k job })
  | .checkSlot k job =>
    (.none, { s with
      owner := if (layout s.width s.height).isNone || s.fault then .refuse k job else .allocate k job })
  | .allocate k job =>
    match layout s.width s.height with
    | some bytes => s.allocate k job bytes answers
    | none => (.none, { s with owner := .refuse k job })
  | .storeFault k job => (.none, { s with fault := true, owner := .storeUnavailable k job })
  | .storeUnavailable k job => (.none, { s with available := false, owner := .refuse k job })
  | .refuse k job =>
    (.ended k .quarantined, { s.store k .quarantined with
      owner := job.elim .countCancelled .storeDone })
  | .storeDone job =>
    (.none, { s.setReadback job (fun r => { r with done := true }) with owner := .idle })
  -- `submitted`.
  | .submit k =>
    (.none, { s.setSlot k { s.slots k with submittedAt := answers.now } with owner := .countInFlight k })
  | .countInFlight k => (.none, { s with inFlight := s.inFlight + 1, owner := .storeSubmitted k })
  | .storeSubmitted k =>
    (match s.copies k with | some copy => .submitted k copy | none => .none,
      { s.store k .submitted with copies := Function.update s.copies k none, owner := .idle })
  -- `quarantine`.
  | .quarantine k =>
    (.none, { s.setHistory k (fun r => { r with done := true }) with owner := .quarantineFault k })
  | .quarantineFault k => (.none, { s with fault := true, owner := .quarantineAvailable k })
  | .quarantineAvailable k => (.none, { s with available := false, owner := .storeQuarantined k })
  | .storeQuarantined k =>
    (.ended k .quarantined, { s.store k .quarantined with
      copies := Function.update s.copies k none, owner := .idle })

def enter (at_ : OwnerAt) (s : State) : Event × State :=
  (.none, if s.owner = .idle then { s with owner := at_ } else s)

/-! ## The worker -/

def afterScan (k : Fin slotCount) : WorkerAt := (next k).elim .top .load

def workerStep (answers : Answers) (s : State) : Event × State :=
  match s.worker with
  | .top => (.none, { s with worker := if s.stop then .stopped else .wait })
  | .wait => (.none, { s with worker := .woken })
  | .woken => (.none, { s with worker := if s.stop then .stopped else .exchangeRejected })
  | .exchangeRejected => (.none, { s with rejected := 0, worker := .exchangeCancelled })
  | .exchangeCancelled => (.none, { s with cancelled := 0, worker := .load 0 })
  | .load k =>
    (.none, { s with
      worker := if (s.slots k).state = .submitted then .query k else afterScan k })
  | .query k =>
    match (s.slots k).fence with
    -- A slot that is submitted has a fence.
    | none => (.none, { s with worker := .failFault k })
    | some fence =>
      if !answers.queryOk || !answers.deviceOk then (.none, { s with worker := .failFault k })
      else if readable answers.queryOk answers.deviceOk answers.completed (s.slots k).value then
        (.observed k fence answers.completed,
          { s.setHistory k (fun r => { r with observedValue := answers.completed }) with
            worker := .save k answers.completed })
      else if 10000 < answers.now - (s.slots k).submittedAt then
        (.none, { s with worker := .failFault k })
      else (.none, { s with worker := afterScan k })
  | .failFault k => (.none, { s with fault := true, worker := .failAvailable k })
  | .failAvailable k => (.none, { s with available := false, worker := .failStore k })
  | .failStore k => (.ended k .quarantined, { s.store k .quarantined with worker := .failCount k })
  | .failCount k => (.none, { s with inFlight := s.inFlight - 1, worker := .failHistory k })
  | .failHistory k =>
    (.none, { s.setHistory k (fun r => { r with done := true }) with worker := afterScan k })
  -- `save` reads rows of the buffer until it returns.
  | .save k completed =>
    match answers.saved, (s.slots k).buffer with
    | some saved, _ => (.none, { s with worker := .report k completed saved })
    | none, some buffer => (.read k buffer, s)
    | none, none => (.none, { s with worker := .report k completed false })
  | .report k completed saved =>
    (.none, { s.setHistory k (fun r => { r with success := saved, done := true }) with
      worker := .count k completed saved })
  | .count k completed saved =>
    (.none, { s with inFlight := s.inFlight - 1, worker := .retire k completed saved })
  | .retire k _ saved =>
    (.ended k (if saved then .saved else .failed), { s.store k .retired with worker := afterScan k })
  | .stopped => (.none, s)

def lock (at_ : RegistryAt) (s : State) : Event × State :=
  (.none, if s.registry = none then { s with registry := some at_ } else s)

def step (call : Call) (s : State) : Event × State :=
  match call with
  | .request => s.lock .loadAvailable
  | .armBurst => s.lock .armAvailable
  | .reset => s.lock .resetAvailable
  | .registry => s.registry.elim (.none, s) s.registryStep
  | .ownerReset => s.enter (.lockReset .done)
  | .beginPresent =>
    if s.owner = .idle then
      (.none, { s with presentOrdinal := s.presentOrdinal + 1, owner := .release 0 .done })
    else (.none, s)
  | .prepare info advanceBurst => s.enter (.loadFault info advanceBurst)
  | .take k => s.enter (.take k)
  | .takeHistory job => s.enter (.loadHistory job)
  -- A copy is submitted or quarantined once.
  | .submitted k => if (s.copies k).isSome then s.enter (.submit k) else (.none, s)
  | .quarantine k => if (s.copies k).isSome then s.enter (.quarantine k) else (.none, s)
  | .owner answers => s.ownerStep answers
  | .worker answers => s.workerStep answers
  | .stop => (.none, { s with stop := true })

end State

end War3VK.Tools.AsyncScreenshot
