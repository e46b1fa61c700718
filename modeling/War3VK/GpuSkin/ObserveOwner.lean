import War3VK.GpuSkin.CurrentDraw
import War3VK.GpuSkin.PackageMoves

/-!
# The observing owner of the package store

`War3PersistentGpuPackageD3D9ObserveOwner`. A draw that is observed begins a frame in its epochs, is
looked up in the store and may prepare packages. The uploads that are ready are taken as one
submission, which stays open until the caller commits it against the producer fence or rejects it.
The constructor makes the store and the fence together or not at all, `alive` says which.
-/

namespace War3VK.GpuSkin

open War3VK.Lib

/-- `War3PersistentGpuPackageStage11ObserveAdapter::Mode`. -/
inductive AdapterMode
  | off
  | observe
  | consume
  deriving DecidableEq, Repr

/-- `War3PersistentGpuPackageStage11ObserveAdapter::Disposition`. -/
inductive AdapterDisposition
  | modeOff
  | consumeNotAdmitted
  | invalidExactSubmittedWitness
  | sourceGenerationExhausted
  | explicitGeosetDataSidecarLookupFailed
  | missingExplicitGeosetDataSidecar
  | staleMapEpochExplicitGeosetDataSidecar
  | invalidExplicitGeosetDataSidecar
  | recordedCurrentMapSource
  deriving DecidableEq, Repr

/-- `Stage11Evidence`, the fields that the owner reads. -/
structure Stage11Evidence where
  requestedMode : AdapterMode
  effectiveMode : AdapterMode
  disposition : AdapterDisposition
  frameSerial : UInt64
  policyRevision : UInt64
  mapEpoch : UInt64
  deviceEpoch : UInt64
  sourceGeneration : UInt64
  immutableModelGeneration : UInt64
  immutableContentHash : UInt64
  meshPayloadIdentity : UInt64
  eligibleConsumerMask : ℕ
  wouldUseConsumerMask : ℕ
  actualConsumerMask : ℕ
  geosetVertexCount : ℕ
  packageReady : Bool
  fullyEquivalent : Bool
  drawMutationAllowed : Bool
  gpuBindingAllowed : Bool
  commandRecordingAllowed : Bool
  packagePublicationAllowed : Bool
  /-- Whether it is about the game's memory as it is now. -/
  provesCurrentGameMemory : Bool
  deriving DecidableEq, Repr

def kRequestedConsumerMask : ℕ := 0b11110

/-- `kMaxPreparesPerFrame`. -/
def kMaxPreparesPerFrame : ℕ := 2

/-- `Disposition`. -/
inductive ObserveDisposition
  | invalidEvidence
  | invalidSnapshot
  | epochRejected
  | readyObserved
  | missQueued
  | pending
  | storeRejected
  | currentDrawRejected
  deriving DecidableEq, Repr

/-- `ObserveResult`, without the permissions that are always false. -/
structure ObserveResult where
  disposition : ObserveDisposition
  fallback : GpuSkinFallbackReason
  packageGeneration : ℕ
  primitiveCount : ℕ
  currentDrawDisposition : CurrentDrawMatchDisposition
  eligibleConsumerMask : ℕ
  wouldUseConsumerMask : ℕ
  ready : Bool
  fullyEquivalent : Bool
  deriving DecidableEq, Repr

def ObserveResult.empty : ObserveResult :=
  ⟨.invalidEvidence, .none, 0, 0, .notRequested, 0, 0, false, false⟩

/-- The shared uploads of a submission, and the address of the vector. -/
structure UploadBatch where
  identity : ℕ
  uploads : List GpuSkinStaticUpload
  deriving DecidableEq, Repr

/-- `Submission`. -/
structure Submission where
  ownerAuthority : UInt64
  serial : UInt64
  mapEpoch : UInt64
  deviceEpoch : UInt64
  frameSerial : UInt64
  /-- The value of the fence when its copies are made. -/
  fenceValue : UInt64
  byteCount : ℕ
  fence : Option ℕ
  uploads : Option UploadBatch
  deriving DecidableEq, Repr

def Submission.none : Submission := ⟨0, 0, 0, 0, 0, 0, 0, Option.none, Option.none⟩

def Submission.list (submission : Submission) : List GpuSkinStaticUpload :=
  match submission.uploads with
  | some batch => batch.uploads
  | Option.none => []

/-- `operator bool`. -/
def Submission.isOpen (submission : Submission) : Bool :=
  submission.ownerAuthority ≠ 0 && submission.serial ≠ 0 && submission.mapEpoch ≠ 0 &&
    submission.deviceEpoch ≠ 0 && submission.frameSerial ≠ 0 && submission.fenceValue ≠ 0 &&
    submission.byteCount ≠ 0 && submission.fence.isSome && submission.uploads.isSome &&
    !submission.list.isEmpty

structure OwnerSetup where
  store : StoreSetup
  ownerAuthority : UInt64
  producerFence : ℕ
  /-- `minStorageBufferOffsetAlignment` of the device. -/
  minStorageBufferOffsetAlignment : ℕ

structure ObserveOwner where
  /-- `m_store != nullptr && m_producerFence != nullptr`. -/
  alive : Bool
  /-- `*m_store`. -/
  store : PackageStore
  mapEpoch : UInt64
  deviceEpoch : UInt64
  frameSerial : UInt64
  nextSubmissionSerial : UInt64
  nextFenceValue : UInt64
  openSubmission : Submission
  preparedThisFrame : ℕ
  batches : ℕ

/-- `validEvidence`. -/
def validEvidence (evidence : Stage11Evidence) : Bool :=
  evidence.requestedMode = .observe && evidence.effectiveMode = .observe &&
    evidence.disposition = .recordedCurrentMapSource && evidence.frameSerial ≠ 0 &&
    evidence.policyRevision ≠ 0 && evidence.mapEpoch ≠ 0 && evidence.deviceEpoch ≠ 0 &&
    evidence.sourceGeneration ≠ 0 && evidence.immutableModelGeneration ≠ 0 &&
    evidence.immutableContentHash ≠ 0 && evidence.meshPayloadIdentity ≠ 0 &&
    evidence.geosetVertexCount ≠ 0 && evidence.provesCurrentGameMemory &&
    !evidence.packageReady && !evidence.fullyEquivalent && !evidence.drawMutationAllowed &&
    !evidence.gpuBindingAllowed && !evidence.commandRecordingAllowed &&
    !evidence.packagePublicationAllowed && evidence.eligibleConsumerMask = 0 &&
    evidence.wouldUseConsumerMask = 0 && evidence.actualConsumerMask = 0

/-- `validEvidenceAndSnapshot`. -/
def validEvidenceAndSnapshot (evidence : Stage11Evidence) (snapshot : Snapshot) : Bool :=
  validEvidence evidence && snapshot.record.geosetDataPtr = evidence.meshPayloadIdentity &&
    snapshot.record.mapEpoch = evidence.mapEpoch &&
    snapshot.record.contentHash = evidence.immutableContentHash &&
    snapshot.record.immutableModelGeneration = evidence.immutableModelGeneration &&
    snapshot.record.vertexCount = evidence.geosetVertexCount &&
    snapshot.record.immutableCaptureStatus = .complete && snapshot.record.readyForShadowConsumer

/-- The cache still holds the observed snapshot, with the content of the evidence. -/
def sameCurrentSnapshot (evidence : Stage11Evidence) (snapshot current : Snapshot) : Bool :=
  current.identity = snapshot.identity && current.record.mapEpoch = evidence.mapEpoch &&
    current.record.contentHash = evidence.immutableContentHash &&
    current.record.immutableModelGeneration = evidence.immutableModelGeneration

/-- `HasSliceContract`. -/
def hasSliceContract (slice : BufferSlice) (usage : List BufferUsage) (stages : List PipelineStage)
    (access : List AccessFlag) : Bool :=
  match slice.buffer with
  | none => false
  | some buffer =>
    slice.length ≠ 0 && buffer.info.allows usage stages access &&
      slice.offset ≤ buffer.info.size && slice.length ≤ buffer.info.size - slice.offset

/-- `ValidObserveUpload`. -/
def validObserveUpload (upload : GpuSkinStaticUpload) (mapEpoch deviceEpoch : UInt64) : Bool :=
  upload.key.mapEpoch = mapEpoch && upload.key.deviceEpoch = deviceEpoch &&
    upload.key.geosetData ≠ 0 && upload.key.contentHash ≠ 0 &&
    upload.key.immutableModelGeneration ≠ 0 &&
    upload.key.layoutGeneration = kStaticPackingLayoutGeneration &&
    upload.key.reserved = 0 && upload.byteCount ≠ 0 && upload.source.length = upload.byteCount &&
    upload.destination.length = upload.byteCount &&
    hasSliceContract upload.source [.transferSrc] [.transfer] [.transferRead] &&
    hasSliceContract upload.destination [.transferDst] [.transfer] [.transferWrite] &&
    (upload.source.buffer ≠ upload.destination.buffer ||
      upload.source.offset + upload.byteCount ≤ upload.destination.offset ||
      upload.destination.offset + upload.byteCount ≤ upload.source.offset)

/-- The loop of `takeSubmission` over the uploads: their bytes, unless an upload is not valid, has a
key of an earlier one or makes the count overflow. -/
def submissionBytes (mapEpoch deviceEpoch : UInt64) :
    List GpuSkinStaticUpload → List GpuSkinStaticUpload → ℕ → Option ℕ
  | _, [], byteCount => some byteCount
  | earlier, upload :: rest, byteCount =>
    if !validObserveUpload upload mapEpoch deviceEpoch ||
        upload.byteCount > 2^64 - 1 - byteCount then
      none
    else if earlier.any (·.key = upload.key) then
      none
    else
      submissionBytes mapEpoch deviceEpoch (earlier ++ [upload]) rest (byteCount + upload.byteCount)

namespace ObserveOwner

variable (cfg : OwnerSetup)

def alignment : ℕ := max 16 cfg.minStorageBufferOffsetAlignment

/-- An owner as its constructor leaves it; without an authority it has no store. -/
def init (constructed : Bool) : ObserveOwner where
  alive := constructed && cfg.ownerAuthority ≠ 0
  store := .init true (alignment cfg)
  mapEpoch := 0
  deviceEpoch := 0
  frameSerial := 0
  nextSubmissionSerial := 1
  nextFenceValue := 1
  openSubmission := .none
  preparedThisFrame := 0
  batches := 0

/-- `pollProducerCompletions`. -/
def pollProducerCompletions (getFenceValue : ℕ → ℕ → UInt64) (s : ObserveOwner) : ObserveOwner :=
  if s.alive then { s with store := s.store.pollRetired cfg.store getFenceValue } else s

def enterDevice (deviceEpoch : UInt64) (s : ObserveOwner) : ObserveOwner :=
  if s.deviceEpoch ≠ deviceEpoch then
    { s with
      store := s.store.invalidateDevice true deviceEpoch (alignment cfg)
      deviceEpoch := deviceEpoch
      mapEpoch := 0 }
  else s

def enterMap (mapEpoch : UInt64) (s : ObserveOwner) : ObserveOwner :=
  if s.mapEpoch ≠ mapEpoch then
    { s with store := s.store.invalidateMapEpoch mapEpoch, mapEpoch := mapEpoch }
  else s

def enterFrame (frameSerial : UInt64) (getFenceValue : ℕ → ℕ → UInt64) (s : ObserveOwner) :
    ObserveOwner :=
  if s.frameSerial ≠ frameSerial then
    { s.pollProducerCompletions cfg getFenceValue with
      frameSerial := frameSerial
      preparedThisFrame := 0 }
  else s

/-- `beginFrame`. -/
def beginFrame (mapEpoch deviceEpoch frameSerial : UInt64) (getFenceValue : ℕ → ℕ → UInt64)
    (s : ObserveOwner) : Bool × ObserveOwner :=
  if !s.alive || cfg.ownerAuthority = 0 || mapEpoch = 0 || deviceEpoch = 0 || frameSerial = 0 then
    (false, s)
  else
    let s := ((s.enterDevice cfg deviceEpoch).enterMap mapEpoch).enterFrame cfg frameSerial
      getFenceValue
    let (begun, store) := s.store.beginFrame mapEpoch deviceEpoch frameSerial
    (begun, { s with store := store })

def selectPrimitive (draw : CurrentDrawProof) (proofs : List PrimitiveProof) :
    Option PrimitiveProof :=
  match proofs.filter fun p => p.indexCount = draw.indexCount &&
      p.minVertex = draw.actualIndexMin && p.maxVertex = draw.actualIndexMax &&
      p.indexContentHash = draw.indexContentHash with
  | [primitive] => some primitive
  | _ => none

/-- The digest of the positions of a primitive, where the record has them. -/
def primitivePositions (record : ShadowGeosetResourceRecord) (p : PrimitiveProof) : Option UInt64 :=
  let vertexCount := p.maxVertex - p.minVertex + 1
  if vertexCount ≤ 0xffffffff ∧ p.minVertex * 3 ≤ record.positions.length ∧
      vertexCount * 3 ≤ record.positions.length - p.minVertex * 3 then
    some (hashBytes cfg.store.digest
      (floatBytes ((record.positions.drop (p.minVertex * 3)).take (vertexCount * 3))))
  else none

def withPrimitive (draw : CurrentDrawProof) (frozen : GpuSkinStaticFrozenPackage)
    (package : CurrentDrawPackageProof) : CurrentDrawPackageProof :=
  match selectPrimitive draw frozen.primitiveProofs with
  | none => package
  | some p =>
    if draw.actualIndexMin ≤ draw.actualIndexMax then
      let package := match primitivePositions cfg frozen.record.record p with
        | none => package
        | some hash => { package with
            positionContentHash := hash
            indexContentHash := p.indexContentHash
            vertexCount := p.maxVertex - p.minVertex + 1
            indexCount := p.indexCount
            primitiveSelected := hash ≠ 0 }
      { package with
        primitiveIndexCount := p.indexCount
        primitiveMinVertex := p.minVertex
        primitiveMaxVertex := p.maxVertex }
    else package

/-- What a ready resource says about itself to be compared with a draw. -/
def packageProofOf (draw : CurrentDrawProof) (current : Snapshot) (resource : GpuSkinStaticResource) :
    CurrentDrawPackageProof :=
  match resource.frozenPayload with
  | none => { CurrentDrawPackageProof.none with ready := true }
  | some frozen =>
    if resource.state = .ready ∧ resource.readyValidationAuthority ≠ 0 ∧
        resource.readyValidationAuthority = frozen.storeInstanceAuthority then
      withPrimitive cfg draw frozen { CurrentDrawPackageProof.none with
        ready := true
        frozenPayloadValid := true
        mapEpoch := frozen.packageProof.mapEpoch
        deviceEpoch := frozen.packageProof.deviceEpoch
        packageGeneration := frozen.packageProof.packageGeneration
        geosetDataIdentity := frozen.packageProof.geosetData
        primitiveCount := frozen.primitiveProofs.length
        snapshotIdentityExact := frozen.snapshotIdentity = current.identity &&
          frozen.record.identity = current.identity }
    else { CurrentDrawPackageProof.none with ready := true }

def lookupResult (draw : CurrentDrawProof) (current : Snapshot) (lookup : GpuSkinStaticLookup)
    (s : PackageStore) : ObserveResult × CurrentDrawPackageProof :=
  let result := { ObserveResult.empty with
    fallback := lookup.fallback
    primitiveCount := current.record.primitiveCount }
  match lookup.resource.bind (s.heap[·]?), lookup.fallback with
  | some resource, .none =>
    ({ result with
        disposition := .readyObserved
        ready := true
        packageGeneration := resource.packageProof.packageGeneration },
      packageProofOf cfg draw current resource)
  | _, .staticResourceMiss => ({ result with disposition := .missQueued }, .none)
  | _, .staticResourcePending => ({ result with disposition := .pending }, .none)
  | _, _ => ({ result with disposition := .storeRejected }, .none)

def compareDraw (draw : CurrentDrawProof) (package : CurrentDrawPackageProof)
    (result : ObserveResult) : ObserveResult :=
  match evaluateCurrentDrawEquivalence draw package with
  | .exactMatch =>
    if !result.ready || !package.frozenPayloadValid then
      { result with currentDrawDisposition := .packageInvalid }
    else
      { result with
        currentDrawDisposition := .exactMatch
        fullyEquivalent := true
        eligibleConsumerMask := kRequestedConsumerMask
        wouldUseConsumerMask := kRequestedConsumerMask }
  | other => { result with currentDrawDisposition := other }

/-- The packages that may still be prepared in this frame; the device may throw. -/
def prepare (answers : ℕ → DeviceAnswers) (result : ObserveResult) (s : ObserveOwner) :
    ObserveResult × ObserveOwner :=
  if s.preparedThisFrame < kMaxPreparesPerFrame then
    match s.store.prepareQueuedStaticResources cfg.store answers
        (kMaxPreparesPerFrame - s.preparedThisFrame) with
    | (some count, store) =>
      (result, { s with store := store, preparedThisFrame := s.preparedThisFrame + count })
    | (none, store) =>
      ({ ObserveResult.empty with
          disposition := .storeRejected, fallback := .staticResourceInvalid },
        { s with store := store })
  else (result, s)

/-- The end of an observation, with the snapshot that the cache holds. -/
def observeSource (current : Snapshot) (draw : CurrentDrawProof) (cache : ModelCache)
    (answers : ℕ → DeviceAnswers) (s : ObserveOwner) : ObserveResult × ObserveOwner :=
  let (lookup, store) := s.store.findOrQueueStatic cfg.store cache (some current)
    kStaticPackingLayoutGeneration
  let (result, package) := lookupResult cfg draw current lookup store
  prepare cfg answers (compareDraw draw package result) { s with store := store }

/-- `observe`. -/
def observe (evidence : Stage11Evidence) (snapshot : Option Snapshot) (draw : CurrentDrawProof)
    (cache : ModelCache) (answers : ℕ → DeviceAnswers) (getFenceValue : ℕ → ℕ → UInt64)
    (s : ObserveOwner) : ObserveResult × ObserveOwner :=
  if !validEvidence evidence then
    (.empty, s)
  else
    match s.beginFrame cfg evidence.mapEpoch evidence.deviceEpoch evidence.frameSerial
        getFenceValue with
    | (false, s) =>
      ({ ObserveResult.empty with disposition := .epochRejected, fallback := .invalidEpoch }, s)
    | (true, s) =>
      let preflight := evaluateCurrentDrawEquivalence draw .none
      let invalid := { ObserveResult.empty with
        disposition := .invalidSnapshot, fallback := .staticResourceInvalid }
      if draw.requested && preflight ≠ .packageNotReady then
        ({ ObserveResult.empty with
          disposition := .currentDrawRejected, currentDrawDisposition := preflight }, s)
      else
        match snapshot with
        | none => (invalid, s)
        | some snapshot =>
          if !validEvidenceAndSnapshot evidence snapshot then (invalid, s)
          else
            match cache snapshot.record.geosetDataPtr with
            | none => (invalid, s)
            | some current =>
              if !sameCurrentSnapshot evidence snapshot current then (invalid, s)
              else s.observeSource cfg current draw cache answers

def canTake (s : ObserveOwner) : Bool :=
  s.alive && !s.openSubmission.isOpen && s.mapEpoch ≠ 0 && s.deviceEpoch ≠ 0 && s.frameSerial ≠ 0

def exhausted (s : ObserveOwner) : Bool :=
  s.nextSubmissionSerial = 0 || s.nextSubmissionSerial = 0xffffffffffffffff ||
    s.nextFenceValue = 0 || s.nextFenceValue = 0xffffffffffffffff

def submissionOf (uploads : List GpuSkinStaticUpload) (byteCount : ℕ) (s : ObserveOwner) :
    Submission where
  ownerAuthority := cfg.ownerAuthority
  serial := s.nextSubmissionSerial
  mapEpoch := s.mapEpoch
  deviceEpoch := s.deviceEpoch
  frameSerial := s.frameSerial
  fenceValue := s.nextFenceValue
  byteCount := byteCount
  fence := some cfg.producerFence
  uploads := some ⟨s.batches, uploads⟩

/-- `takeSubmission`; `allocates` says whether the shared vector can be allocated. -/
def takeSubmission (allocates : Bool) (s : ObserveOwner) : Submission × ObserveOwner :=
  if !s.canTake || !allocates then
    (.none, s)
  else
    let (owned, store) := s.store.takeStaticUploads
    let s := { s with store := store }
    if owned.isEmpty then
      (.none, s)
    else
      match submissionBytes s.mapEpoch s.deviceEpoch [] owned 0 with
      | none => (.none, s)
      | some byteCount =>
        if s.exhausted then
          (.none, s)
        else
          let submission := s.submissionOf cfg owned byteCount
          (submission, { s with
            nextSubmissionSerial := s.nextSubmissionSerial + 1
            nextFenceValue := s.nextFenceValue + 1
            openSubmission := submission
            batches := s.batches + 1 })

/-- `validSubmission`. -/
def validSubmission (submission : Submission) (s : ObserveOwner) : Bool :=
  submission.isOpen && s.openSubmission.isOpen &&
    submission.ownerAuthority = cfg.ownerAuthority &&
    submission.ownerAuthority = s.openSubmission.ownerAuthority &&
    submission.serial = s.openSubmission.serial &&
    submission.mapEpoch = s.openSubmission.mapEpoch &&
    submission.deviceEpoch = s.openSubmission.deviceEpoch &&
    submission.frameSerial = s.openSubmission.frameSerial &&
    submission.fenceValue = s.openSubmission.fenceValue &&
    submission.byteCount = s.openSubmission.byteCount &&
    submission.fence = some cfg.producerFence && submission.fence = s.openSubmission.fence &&
    submission.uploads = s.openSubmission.uploads && submission.mapEpoch = s.mapEpoch &&
    submission.deviceEpoch = s.deviceEpoch

/-- `commitSubmission`; `allocates` says whether the store's allocations succeed. -/
def commitSubmission (allocates : Bool) (submission : Submission) (s : ObserveOwner) :
    Bool × ObserveOwner :=
  if !s.validSubmission cfg submission then
    (false, s)
  else
    let (committed, store) := s.store.retireStaticUploads cfg.store allocates submission.list
      submission.fence submission.fenceValue
    (committed, { s with store := store, openSubmission := .none })

/-- `rejectSubmission`. -/
def rejectSubmission (submission : Submission) (s : ObserveOwner) : ObserveOwner :=
  if !s.validSubmission cfg submission then s else { s with openSubmission := .none }

/-- `invalidateMapEpoch`. -/
def invalidateMapEpoch (nextMapEpoch : UInt64) (s : ObserveOwner) : ObserveOwner :=
  if !s.alive || nextMapEpoch = 0 then s
  else { s with
    store := s.store.invalidateMapEpoch nextMapEpoch
    mapEpoch := nextMapEpoch
    frameSerial := 0
    preparedThisFrame := 0
    openSubmission := .none }

/-- `invalidateDeviceEpoch`. -/
def invalidateDeviceEpoch (nextDeviceEpoch : UInt64) (s : ObserveOwner) : ObserveOwner :=
  if !s.alive || nextDeviceEpoch = 0 then s
  else { s with
    store := s.store.invalidateDevice true nextDeviceEpoch (alignment cfg)
    deviceEpoch := nextDeviceEpoch
    mapEpoch := 0
    frameSerial := 0
    preparedThisFrame := 0
    openSubmission := .none }

end ObserveOwner

/-- The calls of an owner; a frame begins inside of `observe`, and on its own here as well. -/
inductive OwnerCall
  | beginFrame (mapEpoch deviceEpoch frameSerial : UInt64) (getFenceValue : ℕ → ℕ → UInt64)
  | observe (evidence : Stage11Evidence) (snapshot : Option Snapshot) (draw : CurrentDrawProof)
      (cache : ModelCache) (answers : ℕ → DeviceAnswers) (getFenceValue : ℕ → ℕ → UInt64)
  | takeSubmission (allocates : Bool)
  | commitSubmission (allocates : Bool) (submission : Submission)
  | rejectSubmission (submission : Submission)
  | invalidateMapEpoch (nextMapEpoch : UInt64)
  | invalidateDeviceEpoch (nextDeviceEpoch : UInt64)
  | pollProducerCompletions (getFenceValue : ℕ → ℕ → UInt64)

inductive OwnerOutput
  | done
  | flag (result : Bool)
  | observed (result : ObserveResult)
  | submission (taken : Submission)
  deriving DecidableEq, Repr

def ownerStep (cfg : OwnerSetup) (call : OwnerCall) (s : ObserveOwner) :
    OwnerOutput × ObserveOwner :=
  match call with
  | .beginFrame mapEpoch deviceEpoch frameSerial getFenceValue =>
    let (begun, s) := s.beginFrame cfg mapEpoch deviceEpoch frameSerial getFenceValue
    (.flag begun, s)
  | .observe evidence snapshot draw cache answers getFenceValue =>
    let (result, s) := s.observe cfg evidence snapshot draw cache answers getFenceValue
    (.observed result, s)
  | .takeSubmission allocates =>
    let (taken, s) := s.takeSubmission cfg allocates
    (.submission taken, s)
  | .commitSubmission allocates submission =>
    let (committed, s) := s.commitSubmission cfg allocates submission
    (.flag committed, s)
  | .rejectSubmission submission => (.done, s.rejectSubmission cfg submission)
  | .invalidateMapEpoch nextMapEpoch => (.done, s.invalidateMapEpoch nextMapEpoch)
  | .invalidateDeviceEpoch nextDeviceEpoch => (.done, s.invalidateDeviceEpoch cfg nextDeviceEpoch)
  | .pollProducerCompletions getFenceValue => (.done, s.pollProducerCompletions cfg getFenceValue)

end War3VK.GpuSkin
