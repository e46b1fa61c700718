import Mathlib

/-!
# The recorder of palette evidence

`PaletteObjectEvidence` (`src/src/d3d9/war3/tools/war3_palette_object_evidence.h`): a table of chains
of events, one for each object and type, and budgets for the events that are emitted. This module has
its records, its table and its budgets. Counters are natural numbers, the filter in front of the table
is the set of its bits, and `log` and `refusals` remember what was emitted and what was refused, the
last first.
-/

namespace War3VK.Tools.PaletteEvidence

/-! ## Records -/

/-- `PaletteObjectKey`. -/
structure ObjectKey where
  renderablePart : UInt64 := 0
  runtimeModelPtr : UInt64 := 0
  jHandle : UInt64 := 0
  rawcode : UInt64 := 0
  sessionGeneration : UInt64 := 0
  mapEpoch : UInt64 := 0
  deviceEpoch : UInt64 := 0
  lifecycleIdentity : UInt64 := 0
  identityWeak : Bool := true
  epochUnknown : Bool := true
deriving DecidableEq

/-- The sentinel of an unknown attempt and of a frame that was not seen. -/
def unknownSerial : UInt64 := 0xffffffffffffffff

/-- `PaletteObjectFrames`. -/
structure ObjectFrames where
  renderFrame : UInt64 := 0
  manifestFrameSerial : UInt64 := 0
  manifestPublishRevision : UInt64 := 0
  recordFrameSerial : UInt64 := 0
  nativeFrameTag : UInt64 := 0
  manifestUnknown : Bool := true
  nativeUnknown : Bool := true
  attemptSerial : UInt64 := unknownSerial
deriving DecidableEq

/-- `PaletteObjectStage`. -/
inductive Stage
  | rejected
  | servedCandidate
  | enqueued
  | drawn
  | firstSight
deriving DecidableEq, Repr

/-- `PaletteObjectSource`. -/
inductive Source
  | none
  | arenaSlot
  | producerSnapshot
  | poseKernel
  | drawTimeCaptured
  | publishedRegistry
  | ownedPartSnapshot
  | unknown
deriving DecidableEq, Repr

/-- `PaletteObjectTerminal`. -/
inductive Terminal
  | none
  | recovered
  | windowExpired
  | objectGone
  | tableFull
  | eventLost
  | unclosed
  | observationClosed
deriving DecidableEq, Repr

/-- `PaletteObjectRejectReason`. -/
inductive RejectReason
  | r0
  | r1
  | r2
  | r3
  | notChecked
  | unknown
deriving DecidableEq, Repr

/-- `PaletteObjectChainType`. -/
inductive ChainType
  | rejectionRecovery
  | observation
deriving DecidableEq, Repr

/-- `PaletteObjectEventRecord`. -/
structure EventRecord where
  stage : Stage := .rejected
  terminal : Terminal := .none
  rejectReason : RejectReason := .notChecked
  source : Source := .none
  key : ObjectKey := {}
  frames : ObjectFrames := {}
  hitKey : UInt64 := 0
  firstRejectFrame : UInt64 := 0
  deltaFrames : UInt64 := 0
  hitCount : UInt32 := 0
  chainSequence : UInt32 := 0
  chainType : ChainType := .rejectionRecovery
  sawSubmit : Bool := false
  sawDraw : Bool := false
  selectionClearedByNativeOverride : Bool := false
  windowSegment : UInt64 := 1
  identityProofKind : UInt32 := 0
deriving DecidableEq

/-- `Entry`. -/
structure Entry where
  windowSegment : UInt64 := 0
  instanceId : UInt64 := 0
  key : ObjectKey := {}
  firstFrames : ObjectFrames := {}
  chainType : ChainType := .rejectionRecovery
  firstRejectFrame : UInt64 := 0
  lastRejectFrame : UInt64 := unknownSerial
  lastRejectReason : RejectReason := .unknown
  lastServedFrame : UInt64 := unknownSerial
  lastSubmitFrame : UInt64 := unknownSerial
  lastDrawFrame : UInt64 := unknownSerial
  lastHitKey : UInt64 := 0
  submitHitKey : UInt64 := 0
  drawHitKey : UInt64 := 0
  firstReason : RejectReason := .notChecked
  lastSource : Source := .none
  submitSource : Source := .none
  drawSource : Source := .none
  hitCount : UInt32 := 0
  chainSequence : UInt32 := 0
  maxStage : ℕ := 0
  attemptSerial : UInt64 := unknownSerial
  attemptStage : ℕ := 0
  sawFirstSight : Bool := false
  sawServed : Bool := false
  sawSubmit : Bool := false
  sawDraw : Bool := false
  orderViolation : Bool := false
  submitSelectionCleared : Bool := false
  drawSelectionCleared : Bool := false
  used : Bool := false
  tombstone : Bool := false

/-- `Counters`, without the ring losses that the sink adds. -/
structure Counters where
  emitted : ℕ := 0
  terminalEmitted : ℕ := 0
  droppedPerFrame : ℕ := 0
  droppedPerSession : ℕ := 0
  droppedTableFull : ℕ := 0
  droppedProbeLimit : ℕ := 0
  droppedDuplicatePerFrame : ℕ := 0
  droppedPayloadConflict : ℕ := 0
  droppedTerminalReserve : ℕ := 0
  closedRecovered : ℕ := 0
  closedWindowExpired : ℕ := 0
  closedObjectGone : ℕ := 0
  closedTableFull : ℕ := 0
  closedUnclosed : ℕ := 0
  windowMismatchLookups : ℕ := 0
  droppedStaleSession : ℕ := 0
  objectGoneLostToReentrancy : ℕ := 0
  pathObservationSkippedAfterReentrantClose : ℕ := 0
  droppedWindowClosedEntry : ℕ := 0
  droppedNoChainForPathFact : ℕ := 0
  closedObservationClosed : ℕ := 0
  weakIdentityRecords : ℕ := 0
  epochUnknownRecords : ℕ := 0
  firstSightInserted : ℕ := 0
  firstSightEmitted : ℕ := 0

/-- `kWatchCapacity`. -/
def kWatchCapacity : ℕ := 1024

/-- `kTotalBudget`. -/
def kTotalBudget : ℕ := 4096

/-- `kTerminalReserve`. -/
def kTerminalReserve : ℕ := 512

/-- `kPerFrameBudget`. -/
def kPerFrameBudget : ℕ := 64

/-- `kNormalBudget`. -/
def kNormalBudget : ℕ := kTotalBudget - kTerminalReserve

structure Emission where
  record : EventRecord
  terminal : Bool

structure Refusal where
  terminal : Bool
  terminalEmitted : ℕ
deriving DecidableEq

/-- `PaletteObjectEvidence`. -/
structure Recorder where
  entries : Fin kWatchCapacity → Entry := fun _ => {}
  counters : Counters := {}
  watchCount : ℕ := 0
  frameBudgetUsed : ℕ := 0
  currentFrame : UInt64 := 0
  sessionGeneration : UInt64 := 0
  mapEpoch : UInt64 := 0
  windowSegment : UInt64 := 0
  nextInstanceId : UInt64 := 1
  windowClosed : Bool := false
  bloom : UInt64 → Bool := fun _ => false
  tableFullAnnounced : Bool := false
  /-- What was emitted in this session, the last first. -/
  log : List Emission := []
  /-- What was refused in this session, the last first. -/
  refusals : List Refusal := []

/-- `Reset`. -/
def Recorder.reset (recorder : Recorder) (sessionGeneration mapEpoch : UInt64) : Recorder where
  sessionGeneration := sessionGeneration
  mapEpoch := mapEpoch
  windowSegment := 1
  nextInstanceId := recorder.nextInstanceId

/-- `ResetForSessionTransition`. -/
def Recorder.resetForSessionTransition (recorder : Recorder) (sessionGeneration mapEpoch : UInt64) :
    Recorder :=
  { recorder with
    entries := fun _ => {}
    watchCount := 0
    frameBudgetUsed := 0
    currentFrame := 0
    sessionGeneration
    mapEpoch
    windowSegment := recorder.windowSegment + 1
    windowClosed := false
    bloom := fun _ => false
    tableFullAnnounced := false }

/-! ## The table -/

/-- `SameKey`. -/
def sameKey (a b : ObjectKey) : Bool :=
  a.renderablePart = b.renderablePart ∧ a.runtimeModelPtr = b.runtimeModelPtr ∧
    a.jHandle = b.jHandle ∧ a.rawcode = b.rawcode ∧ a.sessionGeneration = b.sessionGeneration ∧
    a.mapEpoch = b.mapEpoch ∧ a.deviceEpoch = b.deviceEpoch ∧
    a.lifecycleIdentity = b.lifecycleIdentity

/-- `HashKey`. -/
def hashKey (k : ObjectKey) : UInt64 :=
  let h := [k.renderablePart, k.runtimeModelPtr, k.jHandle, k.rawcode, k.sessionGeneration, k.mapEpoch,
    k.deviceEpoch, k.lifecycleIdentity].foldl (fun h part => (h ^^^ part) * 1099511628211)
      (1469598103934665603 : UInt64)
  let h := h ^^^ (h >>> (33 : UInt64))
  let h := h * 0xff51afd7ed558ccd
  let h := h ^^^ (h >>> (33 : UInt64))
  let h := h * 0xc4ceb9fe1a85ec53
  h ^^^ (h >>> (33 : UInt64))

/-- `BloomBitA`. -/
def bloomBitA (h : UInt64) : UInt64 := h &&& 16383

/-- `BloomBitB`. -/
def bloomBitB (h : UInt64) : UInt64 := (h >>> (32 : UInt64)) &&& 16383

/-- `BloomSet`. -/
def bloomSet (bloom : UInt64 → Bool) (h : UInt64) : UInt64 → Bool := fun bit =>
  bit = bloomBitA h || bit = bloomBitB h || bloom bit

/-- `BloomMight`. -/
def bloomMight (bloom : UInt64 → Bool) (h : UInt64) : Bool := bloom (bloomBitA h) && bloom (bloomBitB h)

def probePlace (h : UInt64) (probe : ℕ) : Fin kWatchCapacity :=
  ⟨(h.toNat % kWatchCapacity + probe) % kWatchCapacity, Nat.mod_lt _ (by decide)⟩

/-- The probes of `FindChain`, with `n` of them left: the place that is found, the entries of another
window that are passed over, and whether the probes were used up. -/
def probeChain (recorder : Recorder) (key : ObjectKey) (type : ChainType) :
    ℕ → ℕ → Option (Fin kWatchCapacity) × ℕ × Bool
  | 0, _ => (none, 0, true)
  | n + 1, probe =>
    let place := probePlace (hashKey key) probe
    let e := recorder.entries place
    if e.used then
      if sameKey e.key key ∧ e.chainType = type then
        if e.windowSegment = recorder.windowSegment then (some place, 0, false)
        else
          let rest := probeChain recorder key type n (probe + 1)
          (rest.1, rest.2.1 + 1, rest.2.2)
      else probeChain recorder key type n (probe + 1)
    else if e.tombstone then probeChain recorder key type n (probe + 1)
    else (none, 0, false)

/-- The place of `FindChain`. -/
def chainPlace (recorder : Recorder) (key : ObjectKey) (type : ChainType) :
    Option (Fin kWatchCapacity) :=
  if bloomMight recorder.bloom (hashKey key) then (probeChain recorder key type kWatchCapacity 0).1
  else none

/-- What `FindChain` counts. -/
def countFind (recorder : Recorder) (key : ObjectKey) (type : ChainType) : Recorder :=
  if bloomMight recorder.bloom (hashKey key) then
    let probed := probeChain recorder key type kWatchCapacity 0
    { recorder with counters := { recorder.counters with
        windowMismatchLookups := recorder.counters.windowMismatchLookups + probed.2.1
        droppedProbeLimit := recorder.counters.droppedProbeLimit + if probed.2.2 then 1 else 0 } }
  else recorder

def Recorder.setEntry (recorder : Recorder) (place : Fin kWatchCapacity) (e : Entry) : Recorder :=
  { recorder with entries := Function.update recorder.entries place e }

/-- The first probe of `Insert` that is free, among `n` of them. -/
def freePlace (recorder : Recorder) (key : ObjectKey) : ℕ → ℕ → Option (Fin kWatchCapacity)
  | 0, _ => none
  | n + 1, probe =>
    let place := probePlace (hashKey key) probe
    if (recorder.entries place).used then freePlace recorder key n (probe + 1) else some place

/-- `Insert`: the place, with the recorder behind it. -/
def insert (recorder : Recorder) (key : ObjectKey) (frame : UInt64) (reason : RejectReason)
    (frames : ObjectFrames) (chainType : ChainType) : Option (Fin kWatchCapacity × Recorder) :=
  if recorder.watchCount ≥ kWatchCapacity then none
  else
    (freePlace recorder key kWatchCapacity 0).map fun place => (place,
      { recorder.setEntry place
          { used := true, instanceId := recorder.nextInstanceId, key, firstRejectFrame := frame,
            chainType, windowSegment := recorder.windowSegment, firstFrames := frames,
            firstReason := reason } with
        bloom := bloomSet recorder.bloom (hashKey key)
        nextInstanceId := recorder.nextInstanceId + 1
        watchCount := recorder.watchCount + 1
        counters := { recorder.counters with
          weakIdentityRecords :=
            recorder.counters.weakIdentityRecords + if key.identityWeak then 1 else 0
          epochUnknownRecords :=
            recorder.counters.epochUnknownRecords + if key.epochUnknown then 1 else 0 } })

/-! ## Budgets -/

/-- `CanEmit`. -/
def canEmit (recorder : Recorder) (terminal : Bool) : Bool :=
  recorder.counters.emitted < kTotalBudget ∧
    (!terminal → recorder.counters.emitted < kNormalBudget) ∧
    (terminal → recorder.counters.terminalEmitted < kTerminalReserve) ∧
    (!terminal → recorder.frameBudgetUsed < kPerFrameBudget)

/-- The counters of `AccountDrop`. -/
def dropCounters (recorder : Recorder) (terminal : Bool) : Counters :=
  let c := recorder.counters
  if terminal ∧ c.terminalEmitted ≥ kTerminalReserve then
    { c with droppedTerminalReserve := c.droppedTerminalReserve + 1 }
  else if !terminal ∧ recorder.frameBudgetUsed ≥ kPerFrameBudget then
    { c with droppedPerFrame := c.droppedPerFrame + 1 }
  else { c with droppedPerSession := c.droppedPerSession + 1 }

/-- `AccountDrop`. -/
def accountDrop (recorder : Recorder) (terminal : Bool) : Recorder :=
  { recorder with
    counters := dropCounters recorder terminal
    refusals := ⟨terminal, recorder.counters.terminalEmitted⟩ :: recorder.refusals }

/-- `EmitUnchecked`, up to the callback. -/
def emitRecord (recorder : Recorder) (record : EventRecord) (terminal : Bool) : Recorder :=
  { recorder with
    frameBudgetUsed := recorder.frameBudgetUsed + 1
    counters := { recorder.counters with
      emitted := recorder.counters.emitted + 1
      terminalEmitted := recorder.counters.terminalEmitted + if terminal then 1 else 0 }
    log := ⟨record, terminal⟩ :: recorder.log }

/-- `BeginFrame`. -/
def beginFrame (recorder : Recorder) (frame : UInt64) : Recorder :=
  if frame ≠ recorder.currentFrame then { recorder with currentFrame := frame, frameBudgetUsed := 0 }
  else recorder

/-- `AdmitsSession`. -/
def admitsSession (recorder : Recorder) (key : ObjectKey) : Bool :=
  if key.sessionGeneration = 0 then recorder.sessionGeneration = 0
  else key.sessionGeneration = recorder.sessionGeneration

end War3VK.Tools.PaletteEvidence
