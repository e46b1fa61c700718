import War3VK.GpuSkin.PackageResource
import War3VK.Lib.Machine

/-!
# The store of persistent packages

`War3PersistentGpuPackageStore`. A geoset record becomes a queued miss, the miss becomes a package
with a slice of the atlas and a pending upload, the upload is taken by whoever records the copy and
retired against a fence, and a poll that sees the fence's value makes the package ready. What the
device, the model cache and the fences answer is an argument of the call that asks them. The shared
resources live in a heap that only grows, so that a retirement can name a resource that no key names
any more.
-/

namespace War3VK.GpuSkin

open War3VK.Lib

/-- `GpuSkinFallbackReason`. -/
inductive GpuSkinFallbackReason
  | none
  | disabled
  | invalidEpoch
  | unsupportedLayout
  | staticResourceMiss
  | staticResourcePending
  | staticResourceInvalid
  | staticBudgetExhausted
  | uploadBudgetExhausted
  | outputBudgetExhausted
  | outputLeaseUnretired
  | missQueueFull
  | invalidPalette
  | invalidJob
  | deviceLost
  deriving DecidableEq, Repr

/-- The counters of `GpuSkinDiagnostics` that the store moves. -/
structure StoreDiagnostics where
  staticCacheHits : ℕ
  staticCacheMisses : ℕ
  staticUploadsPrepared : ℕ
  staticUploadBytes : ℕ
  staticUploadRetirementsQueued : ℕ
  staticUploadRetirementsReclaimed : ℕ
  staticUploadsCompleted : ℕ
  staticUploadCompletionsRejected : ℕ
  fallbackCount : ℕ
  fallbackByReason : GpuSkinFallbackReason → ℕ

structure StoreSetup where
  /-- `m_budgets.staticBytes`. -/
  budgetBytes : ℕ
  missQueueCapacity : ℕ
  /-- `m_instanceAuthority`, zero when there are no authorities left. -/
  instanceAuthority : UInt64
  digest : Digest

/-- `QueuedStaticMiss`. -/
structure QueuedStaticMiss where
  key : GpuSkinStaticResourceKey
  record : Snapshot
  immutableProof : ImmutableProof
  primitiveProofs : List PrimitiveProof
  deriving DecidableEq, Repr

/-- `RetiredStaticUpload`. -/
structure RetiredStaticUpload where
  key : GpuSkinStaticResourceKey
  /-- The staging bytes, owned until the copy is complete. -/
  source : BufferSlice
  destination : BufferSlice
  fence : ℕ
  retireValue : UInt64
  /-- The resource that becomes ready, by its place in the heap. -/
  publicationResource : Option ℕ
  publishesReady : Bool
  deriving DecidableEq, Repr

structure PackageStore where
  /-- `m_device != nullptr`. -/
  device : Bool
  storageBufferOffsetAlignment : ℕ
  mapEpoch : UInt64
  deviceEpoch : UInt64
  nextStaticPackageGeneration : ℕ
  staticBytes : ℕ
  staticCursor : ℕ
  /-- Every resource that was ever shared, in the order of creation. -/
  heap : List GpuSkinStaticResource
  /-- `m_staticResources`, each key with the place of its resource in the heap. -/
  staticResources : List (GpuSkinStaticResourceKey × ℕ)
  staticMisses : List QueuedStaticMiss
  readyStaticUploads : List GpuSkinStaticUpload
  staticAtlas : Option Buffer
  retiredStaticUploads : List RetiredStaticUpload
  buffers : ℕ
  diagnostics : StoreDiagnostics

/-- `kMinimumStorageBufferOffsetAlignment`. -/
def kMinimumStorageBufferOffsetAlignment : ℕ := 16

/-- `kStaticPackingLayoutGeneration`. -/
def kStaticPackingLayoutGeneration : ℕ := kPersistentGpuPackageStaticLayoutGeneration

def PackageStore.init (device : Bool) (alignment : ℕ) : PackageStore where
  device := device
  storageBufferOffsetAlignment := max alignment kMinimumStorageBufferOffsetAlignment
  mapEpoch := 0
  deviceEpoch := 0
  nextStaticPackageGeneration := 1
  staticBytes := 0
  staticCursor := 0
  heap := []
  staticResources := []
  staticMisses := []
  readyStaticUploads := []
  staticAtlas := none
  retiredStaticUploads := []
  buffers := 0
  diagnostics := ⟨0, 0, 0, 0, 0, 0, 0, 0, 0, fun _ => 0⟩

/-- `GpuSkinStaticLookup`, the resource by its place in the heap. -/
structure GpuSkinStaticLookup where
  resource : Option ℕ
  fallback : GpuSkinFallbackReason
  deriving DecidableEq, Repr

namespace PackageStore

variable (cfg : StoreSetup)

/-- `recordFallback`. -/
def recordFallback (reason : GpuSkinFallbackReason) (s : PackageStore) : PackageStore :=
  { s with diagnostics := { s.diagnostics with
      fallbackCount := s.diagnostics.fallbackCount + 1
      fallbackByReason := Function.update s.diagnostics.fallbackByReason reason
        (s.diagnostics.fallbackByReason reason + 1) } }

def refuse (reason : GpuSkinFallbackReason) (s : PackageStore) :
    GpuSkinStaticLookup × PackageStore := (⟨none, reason⟩, s.recordFallback reason)

/-- `m_staticResources.find`. -/
def find (key : GpuSkinStaticResourceKey) (s : PackageStore) : Option ℕ :=
  (s.staticResources.find? (·.1 = key)).map Prod.snd

def write (object : ℕ) (f : GpuSkinStaticResource → GpuSkinStaticResource) (s : PackageStore) :
    PackageStore := { s with heap := s.heap.modify object f }

/-- `clearEpochResources`. -/
def clearEpochResources (s : PackageStore) : PackageStore :=
  { s with
    staticResources := []
    staticMisses := []
    readyStaticUploads := []
    staticAtlas := none
    staticBytes := 0
    staticCursor := 0 }

/-- `beginFrame`. -/
def beginFrame (mapEpoch deviceEpoch frameTag : UInt64) (s : PackageStore) : Bool × PackageStore :=
  if !s.device || mapEpoch = 0 || deviceEpoch = 0 || frameTag = 0 then
    (false, s)
  else if (s.mapEpoch ≠ 0 && s.mapEpoch ≠ mapEpoch) ||
      (s.deviceEpoch ≠ 0 && s.deviceEpoch ≠ deviceEpoch) then
    (false, s)
  else
    (true, { s with mapEpoch := mapEpoch, deviceEpoch := deviceEpoch })

/-- `invalidateMapEpoch`. -/
def invalidateMapEpoch (nextMapEpoch : UInt64) (s : PackageStore) : PackageStore :=
  { s.clearEpochResources with mapEpoch := nextMapEpoch }

/-- `invalidateDevice`. -/
def invalidateDevice (device : Bool) (nextDeviceEpoch : UInt64) (alignment : ℕ) (s : PackageStore) :
    PackageStore :=
  { s.clearEpochResources with
    device := device
    storageBufferOffsetAlignment := max alignment kMinimumStorageBufferOffsetAlignment
    deviceEpoch := nextDeviceEpoch }

/-- `reset`. -/
def reset (s : PackageStore) : PackageStore :=
  { s.clearEpochResources with mapEpoch := 0, deviceEpoch := 0 }

/-! ## Lookups -/

def keyOf (geosetData contentHash immutableModelGeneration : UInt64) (s : PackageStore) :
    GpuSkinStaticResourceKey where
  mapEpoch := s.mapEpoch
  deviceEpoch := s.deviceEpoch
  geosetData := geosetData
  contentHash := contentHash
  immutableModelGeneration := immutableModelGeneration
  layoutGeneration := kStaticPackingLayoutGeneration
  reserved := 0

/-- `makeKey`. -/
def makeKey (record : ShadowGeosetResourceRecord) (layoutGeneration : ℕ) (s : PackageStore) :
    GpuSkinStaticResourceKey :=
  if layoutGeneration ≠ kStaticPackingLayoutGeneration then .none
  else s.keyOf record.geosetDataPtr record.contentHash record.immutableModelGeneration

/-- `ownsFrozenPayload`. -/
def ownsFrozenPayload (resource : GpuSkinStaticResource) : Bool :=
  cfg.instanceAuthority ≠ 0 &&
    (match resource.frozenPayload with
    | none => false
    | some frozen => frozen.storeInstanceAuthority = cfg.instanceAuthority)

/-- The cache still holds this very record, and the record can become a package. -/
def currentRecord (cache : ModelCache) (snapshot : Snapshot) : Bool :=
  (match cache snapshot.record.geosetDataPtr with
    | none => false
    | some current => current.identity = snapshot.identity) &&
    snapshot.record.geosetDataPtr ≠ 0 && snapshot.record.contentHash ≠ 0 &&
    snapshot.record.immutableModelGeneration ≠ 0 &&
    snapshot.record.immutableCaptureStatus = .complete && snapshot.record.vertexCount ≠ 0

/-- A ready resource still is the record that is asked for, and this store made it ready. -/
def exactLayout (record : ShadowGeosetResourceRecord) (resource : GpuSkinStaticResource) : Bool :=
  ownsFrozenPayload cfg resource && resource.readyValidationAuthority = cfg.instanceAuthority &&
    resource.record.record.contentHash = record.contentHash &&
    resource.record.record.immutableModelGeneration = record.immutableModelGeneration &&
    resource.record.record.vertexCount = record.vertexCount

def findExisting (record : ShadowGeosetResourceRecord) (object : ℕ) (s : PackageStore) :
    GpuSkinStaticLookup × PackageStore :=
  match s.heap[object]? with
  | none => s.refuse .staticResourcePending
  | some resource =>
    match resource.state with
    | .ready =>
      if exactLayout cfg record resource then
        (⟨some object, .none⟩, { s with diagnostics := { s.diagnostics with
          staticCacheHits := s.diagnostics.staticCacheHits + 1 } })
      else
        s.refuse .staticResourceInvalid
    | .invalid => s.refuse .staticBudgetExhausted
    | _ => s.refuse .staticResourcePending

/-- The lookup of a key that has no resource, which queues the record. -/
def queueMiss (key : GpuSkinStaticResourceKey) (snapshot : Snapshot) (s : PackageStore) :
    GpuSkinStaticLookup × PackageStore :=
  if s.staticMisses.any (·.key = key) then
    s.refuse .staticResourcePending
  else if s.staticMisses.length ≥ cfg.missQueueCapacity then
    s.refuse .missQueueFull
  else
    match buildPersistentGpuPackageImmutableProof cfg.digest snapshot.record with
    | none => s.refuse .staticResourceInvalid
    | some (immutableProof, primitiveProofs) =>
      refuse .staticResourceMiss { s with
        staticMisses := s.staticMisses ++ [⟨key, snapshot, immutableProof, primitiveProofs⟩]
        diagnostics := { s.diagnostics with
          staticCacheMisses := s.diagnostics.staticCacheMisses + 1 } }

/-- `findOrQueueStatic`. -/
def findOrQueueStatic (cache : ModelCache) (record : Option Snapshot) (layoutGeneration : ℕ)
    (s : PackageStore) : GpuSkinStaticLookup × PackageStore :=
  match record with
  | none => s.refuse .staticResourceInvalid
  | some snapshot =>
    if cfg.instanceAuthority = 0 ∨ layoutGeneration ≠ kStaticPackingLayoutGeneration then
      s.refuse .staticResourceInvalid
    else if !currentRecord cache snapshot then
      s.refuse .staticResourceInvalid
    else if !s.device then
      s.refuse .deviceLost
    else if s.mapEpoch = 0 ∨ s.deviceEpoch = 0 then
      s.refuse .invalidEpoch
    else
      let key := s.makeKey snapshot.record layoutGeneration
      match s.find key with
      | some object => s.findExisting cfg snapshot.record object
      | none => s.queueMiss cfg key snapshot

def currentStamp (cache : ModelCache) (stamp : ResourceStamp) : Bool :=
  match cache stamp.geosetDataPtr with
  | none => false
  | some current =>
    current.record.geosetDataPtr = stamp.geosetDataPtr &&
      current.record.contentHash = stamp.contentHash &&
      current.record.immutableModelGeneration = stamp.immutableModelGeneration &&
      current.record.immutableCaptureStatus = .complete &&
      current.record.vertexCount = stamp.vertexCount

/-- A ready resource is the content of the stamp, and this store made it ready. -/
def exactStamp (key : GpuSkinStaticResourceKey) (stamp : ResourceStamp)
    (resource : GpuSkinStaticResource) : Bool :=
  resource.key = key && resource.record.record.geosetDataPtr = stamp.geosetDataPtr &&
    resource.record.record.contentHash = stamp.contentHash &&
    resource.record.record.immutableModelGeneration = stamp.immutableModelGeneration &&
    resource.record.record.vertexCount = stamp.vertexCount &&
    ownsFrozenPayload cfg resource && resource.readyValidationAuthority = cfg.instanceAuthority

def probeExisting (key : GpuSkinStaticResourceKey) (stamp : ResourceStamp) (object : ℕ)
    (s : PackageStore) : GpuSkinStaticLookup × PackageStore :=
  match s.heap[object]? with
  | none => s.refuse .staticResourceInvalid
  | some resource =>
    match resource.state with
    | .ready =>
      if exactStamp cfg key stamp resource then
        (⟨some object, .none⟩, { s with diagnostics := { s.diagnostics with
          staticCacheHits := s.diagnostics.staticCacheHits + 1 } })
      else
        s.refuse .staticResourceInvalid
    | .invalid => s.refuse .staticBudgetExhausted
    | _ => s.refuse .staticResourcePending

def probeMiss (key : GpuSkinStaticResourceKey) (s : PackageStore) :
    GpuSkinStaticLookup × PackageStore :=
  if s.staticMisses.any (·.key = key) then
    s.refuse .staticResourcePending
  else if s.staticMisses.length ≥ cfg.missQueueCapacity then
    s.refuse .missQueueFull
  else
    (⟨none, .staticResourceMiss⟩, s)

/-- `probeStatic`. -/
def probeStatic (cache : ModelCache) (stamp : ResourceStamp) (layoutGeneration : ℕ)
    (s : PackageStore) : GpuSkinStaticLookup × PackageStore :=
  if !s.device then
    s.refuse .deviceLost
  else if s.mapEpoch = 0 ∨ s.deviceEpoch = 0 then
    s.refuse .invalidEpoch
  else if layoutGeneration ≠ kStaticPackingLayoutGeneration ∨ cfg.instanceAuthority = 0 ∨
      stamp.geosetDataPtr = 0 ∨ stamp.contentHash = 0 ∨ stamp.immutableModelGeneration = 0 ∨
      stamp.immutableCaptureStatus ≠ .complete ∨ stamp.vertexCount = 0 then
    s.refuse .staticResourceInvalid
  else if !currentStamp cache stamp then
    s.refuse .staticResourceInvalid
  else
    let key := s.keyOf stamp.geosetDataPtr stamp.contentHash stamp.immutableModelGeneration
    match s.find key with
    | some object => s.probeExisting cfg key stamp object
    | none => s.probeMiss cfg key

/-! ## Creation -/

/-- `TryAlignUp`. -/
def tryAlignUp (value alignment : ℕ) : Option ℕ :=
  if alignment = 0 then none
  else if value % alignment = 0 then some value
  else if value > 2^64 - 1 - (alignment - value % alignment) then none
  else some (value + (alignment - value % alignment))

/-- What is known of a package before the device is asked for buffers. -/
structure PackagePlan where
  proof : ImmutableProof
  primitiveProofs : List PrimitiveProof
  indexRelativeOffset : ℕ
  packageBytes : ℕ
  atlasOffset : ℕ
  deriving DecidableEq, Repr

def indexBytesOf (record : ShadowGeosetResourceRecord) : ℕ := record.indices.length * 2

/-- The checks of `createStaticResource` before the atlas: the record proves what it proved when it
was queued, the key is of the current epochs, and the package fits the budget behind the cursor. -/
def planPackage (miss : QueuedStaticMiss) (s : PackageStore) : Option PackagePlan := do
  let record := miss.record.record
  let (proof, primitiveProofs) ← buildPersistentGpuPackageImmutableProof cfg.digest record
  guard (samePersistentGpuPackageImmutableProof proof miss.immutableProof ∧
    primitiveProofs = miss.primitiveProofs)
  guard (s.device ∧ s.mapEpoch ≠ 0 ∧ s.deviceEpoch ≠ 0 ∧ cfg.instanceAuthority ≠ 0 ∧
    miss.key.mapEpoch = s.mapEpoch ∧ miss.key.deviceEpoch = s.deviceEpoch ∧
    miss.key.geosetData = record.geosetDataPtr ∧ miss.key.contentHash ≠ 0 ∧
    miss.key.contentHash = record.contentHash ∧ miss.key.immutableModelGeneration ≠ 0 ∧
    miss.key.immutableModelGeneration = record.immutableModelGeneration ∧
    miss.key.layoutGeneration = kStaticPackingLayoutGeneration ∧
    proof.layoutGeneration = kStaticPackingLayoutGeneration)
  guard (record.indexCount ≠ 0 ∧ record.indices.length = record.indexCount)
  let indexRelativeOffset ← tryAlignUp proof.staticByteSize 2
  guard (indexBytesOf record ≠ 0 ∧ indexRelativeOffset ≤ 2^64 - 1 - indexBytesOf record)
  let packageBytes := indexRelativeOffset + indexBytesOf record
  let atlasOffset ← tryAlignUp s.staticCursor s.storageBufferOffsetAlignment
  guard (proof.staticByteSize ≠ 0 ∧ packageBytes ≠ 0 ∧ atlasOffset ≤ cfg.budgetBytes ∧
    packageBytes ≤ cfg.budgetBytes - atlasOffset ∧ atlasOffset ≤ 0xffffffff ∧
    packageBytes ≤ 0xffffffff ∧ atlasOffset + indexRelativeOffset ≤ 0xffffffff)
  return ⟨proof, primitiveProofs, indexRelativeOffset, packageBytes, atlasOffset⟩

def newBuffer (info : BufferInfo) (s : PackageStore) : Buffer × PackageStore :=
  (⟨s.buffers, info⟩, { s with buffers := s.buffers + 1 })

inductive AtlasOutcome
  | present (atlas : Buffer)
  | refused
  | threw
  deriving DecidableEq, Repr

def ensureAtlas (answer : BufferAnswer) (s : PackageStore) : AtlasOutcome × PackageStore :=
  match s.staticAtlas with
  | some atlas => (.present atlas, s)
  | none =>
    if cfg.budgetBytes = 0 ∨ cfg.budgetBytes > 0xffffffff then
      (.refused, s)
    else
      match answer with
      | .threw => (.threw, s)
      | .null => (.refused, s)
      | .created =>
        let (atlas, s) := s.newBuffer (staticBufferInfo cfg.budgetBytes)
        (.present atlas, { s with staticAtlas := some atlas })

def packageProofOf (miss : QueuedStaticMiss) (plan : PackagePlan) (generation : ℕ)
    (s : PackageStore) : GpuSkinStaticPackageProof where
  mapEpoch := s.mapEpoch
  deviceEpoch := s.deviceEpoch
  packageGeneration := generation
  geosetData := miss.record.record.geosetDataPtr
  contentHash := miss.record.record.contentHash
  immutableModelGeneration := miss.record.record.immutableModelGeneration
  positionContentHash := plan.proof.positionContentHash
  normalContentHash := plan.proof.normalContentHash
  vertexGroupContentHash := plan.proof.vertexGroupContentHash
  uv0ContentHash := plan.proof.uv0ContentHash
  uv1ContentHash := plan.proof.uv1ContentHash
  indexContentHash := plan.proof.indexContentHash
  primitiveProofHash := plan.proof.primitiveProofHash
  localBoundsHash := plan.proof.localBoundsHash
  layoutGeneration := kStaticPackingLayoutGeneration
  vertexCount := plan.proof.vertexCount
  indexCount := plan.proof.indexCount
  uvLayerCount := plan.proof.uvLayerCount
  primitiveProofCount := plan.proof.primitiveProofCount
  indexType := .uint16
  bounds := plan.proof.bounds
  staticByteOffset := plan.atlasOffset
  staticByteLength := plan.proof.staticByteSize
  indexByteOffset := plan.atlasOffset + plan.indexRelativeOffset
  indexByteLength := indexBytesOf miss.record.record

def frozenOf (miss : QueuedStaticMiss) (plan : PackagePlan) (atlas : Buffer) (generation : ℕ)
    (s : PackageStore) : GpuSkinStaticFrozenPackage where
  storeInstanceAuthority := cfg.instanceAuthority
  snapshotIdentity := miss.record.identity
  key := miss.key
  record := miss.record
  packageProof := s.packageProofOf miss plan generation
  primitiveProofs := plan.primitiveProofs
  immutableProof := plan.proof
  sourceLayout := plan.proof.layout
  packageSlice := ⟨some atlas, plan.atlasOffset, plan.packageBytes⟩
  staticSource := ⟨some atlas, plan.atlasOffset, plan.proof.staticByteSize⟩
  indexSource := ⟨some atlas, plan.atlasOffset + plan.indexRelativeOffset,
    indexBytesOf miss.record.record⟩
  indexContentHash := plan.proof.indexContentHash
  maxVertexGroupSlot := plan.proof.maxVertexGroupSlot
  indexType := .uint16
  indexCount := miss.record.record.indexCount
  allocatedBytes := plan.packageBytes

def resourceOf (frozen : GpuSkinStaticFrozenPackage) : GpuSkinStaticResource where
  key := frozen.key
  record := frozen.record
  packageProof := frozen.packageProof
  primitiveProofs := frozen.primitiveProofs
  indexContentHash := frozen.indexContentHash
  maxVertexGroupSlot := frozen.maxVertexGroupSlot
  sourceLayout := frozen.sourceLayout
  packageSlice := frozen.packageSlice
  staticSource := frozen.staticSource
  indexSource := frozen.indexSource
  indexType := frozen.indexType
  indexCount := frozen.indexCount
  pendingUpload := .none
  state := .pendingUpload
  readyValidationAuthority := 0
  allocatedBytes := frozen.allocatedBytes
  frozenPayload := some frozen

/-- How `createStaticResource` ends. -/
inductive CreateOutcome
  | created (resource : GpuSkinStaticResource)
  | refused
  | threw
  deriving DecidableEq, Repr

/-- The end of `createStaticResource`, from the packed bytes on: a generation is minted, the package
is frozen and checked, and only then the cursor moves. -/
def finishPackage (miss : QueuedStaticMiss) (plan : PackagePlan) (atlas staging : Buffer)
    (census : ℕ) (s : PackageStore) : CreateOutcome × PackageStore :=
  if !validatePersistentGpuPackagePackedBytes cfg.digest
      (packBytes miss.record.record plan.proof plan.indexRelativeOffset plan.packageBytes)
      plan.indexRelativeOffset plan.proof plan.primitiveProofs then
    (.refused, s)
  else if s.nextStaticPackageGeneration = 0 ∨ s.nextStaticPackageGeneration = 2^64 - 1 then
    (.refused, s)
  else
    let resource := resourceOf (s.frozenOf cfg miss plan atlas s.nextStaticPackageGeneration)
    let s := { s with nextStaticPackageGeneration := s.nextStaticPackageGeneration + 1 }
    if !ownsFrozenPayload cfg resource || !validateGpuSkinStaticFrozenPayload cfg.digest resource then
      (.refused, s)
    else
      (.created { resource with
          pendingUpload := ⟨resource.key, ⟨some staging, 0, plan.packageBytes⟩,
            resource.packageSlice, plan.packageBytes, census⟩ },
        { s with
          staticCursor := plan.atlasOffset + plan.packageBytes
          staticBytes := plan.atlasOffset + plan.packageBytes
          diagnostics := { s.diagnostics with
            staticUploadsPrepared := s.diagnostics.staticUploadsPrepared + 1
            staticUploadBytes := s.diagnostics.staticUploadBytes + plan.packageBytes } })

/-- `createStaticResource`. -/
def createStaticResource (answers : DeviceAnswers) (miss : QueuedStaticMiss) (s : PackageStore) :
    CreateOutcome × PackageStore :=
  match s.planPackage cfg miss with
  | none => (.refused, s)
  | some plan =>
    match s.ensureAtlas cfg answers.atlas with
    | (.threw, s) => (.threw, s)
    | (.refused, s) => (.refused, s)
    | (.present atlas, s) =>
      match answers.staging with
      | .threw => (.threw, s)
      | .null => (.refused, s)
      | .created =>
        let (staging, s) := s.newBuffer (staticUploadBufferInfo plan.packageBytes)
        if !answers.mapped then (.refused, s)
        else s.finishPackage cfg miss plan atlas staging answers.census

/-- `m_staticResources.emplace` of a new shared resource. -/
def emplace (resource : GpuSkinStaticResource) (s : PackageStore) : PackageStore :=
  { s with
    heap := s.heap ++ [resource]
    staticResources := s.staticResources ++ [(resource.key, s.heap.length)] }

/-- A package that could not be created leaves an invalid resource under its key. -/
def emplaceRejected (miss : QueuedStaticMiss) (s : PackageStore) : PackageStore :=
  recordFallback .staticBudgetExhausted (s.emplace (.rejected miss.key miss.record))

/-- A package that was created is found under its key, and its upload is ready to be taken. -/
def emplaceCreated (resource : GpuSkinStaticResource) (s : PackageStore) : PackageStore :=
  { s.emplace resource with
    readyStaticUploads := s.readyStaticUploads ++ [resource.pendingUpload] }

/-- One turn of the loop of `prepareQueuedStaticResources`: how many packages it prepared, none or
one, or nothing when the device threw. -/
def prepareTurn (answers : DeviceAnswers) (miss : QueuedStaticMiss) (s : PackageStore) :
    Option ℕ × PackageStore :=
  if (s.find miss.key).isSome then
    (some 0, s)
  else
    match s.createStaticResource cfg answers miss with
    | (.threw, s) => (none, s)
    | (.refused, s) => (some 0, s.emplaceRejected miss)
    | (.created resource, s) => (some 1, s.emplaceCreated resource)

/-- The loop over the queued misses: how many packages were prepared, or nothing when the device
threw. -/
def prepareLoop (answers : ℕ → DeviceAnswers) (maxRecords : ℕ) :
    List QueuedStaticMiss → ℕ → ℕ → PackageStore → Option ℕ × PackageStore
  | [], _, prepared, s => (some prepared, s)
  | miss :: rest, turn, prepared, s =>
    if prepared < maxRecords then
      match prepareTurn cfg (answers turn) miss { s with staticMisses := rest } with
      | (none, s) => (none, s)
      | (some count, s) => prepareLoop answers maxRecords rest (turn + 1) (prepared + count) s
    else
      (some prepared, s)

/-- `prepareQueuedStaticResources`. -/
def prepareQueuedStaticResources (answers : ℕ → DeviceAnswers) (maxRecords : ℕ) (s : PackageStore) :
    Option ℕ × PackageStore :=
  prepareLoop cfg answers maxRecords s.staticMisses 0 0 s

/-! ## Uploads and their retirement -/

/-- `takeStaticUploads`. -/
def takeStaticUploads (s : PackageStore) : List GpuSkinStaticUpload × PackageStore :=
  (s.readyStaticUploads, { s with readyStaticUploads := [] })

def wellFormedUpload (upload : GpuSkinStaticUpload) : Bool :=
  upload.source.defined && upload.destination.defined && upload.key.reserved = 0 &&
    upload.byteCount ≠ 0 && upload.source.length = upload.byteCount &&
    upload.destination.length = upload.byteCount

def exactPendingUpload (upload : GpuSkinStaticUpload) (resource : GpuSkinStaticResource) : Bool :=
  let pending := resource.pendingUpload
  resource.state = .pendingUpload && resource.key = upload.key && pending.key = upload.key &&
    pending.source.defined && pending.destination.defined &&
    pending.byteCount = upload.byteCount && pending.byteCount = resource.allocatedBytes &&
    pending.residencyCensus = upload.residencyCensus && pending.source = upload.source &&
    pending.destination = upload.destination && pending.destination = resource.packageSlice &&
    ownsFrozenPayload cfg resource && validateGpuSkinStaticFrozenPayload cfg.digest resource

def uploadTarget (upload : GpuSkinStaticUpload) (s : PackageStore) : Option ℕ :=
  (s.find upload.key).filter fun object =>
    match s.heap[object]? with
    | none => false
    | some resource => exactPendingUpload cfg upload resource

/-- The checks of a batch, upload by upload: the resources, or why the batch is refused. -/
def prepareRetirements (s : PackageStore) :
    List GpuSkinStaticUpload → List GpuSkinStaticUpload →
      Except GpuSkinFallbackReason (List (GpuSkinStaticUpload × ℕ))
  | _, [] => .ok []
  | earlier, upload :: rest =>
    if !wellFormedUpload upload then
      .error .outputLeaseUnretired
    else if earlier.any (·.key = upload.key) then
      .error .staticResourceInvalid
    else
      match s.uploadTarget cfg upload with
      | none => .error .staticResourceInvalid
      | some object =>
        match prepareRetirements s (earlier ++ [upload]) rest with
        | .error reason => .error reason
        | .ok prepared => .ok ((upload, object) :: prepared)

def retirementOf (fence : ℕ) (value : UInt64) (upload : GpuSkinStaticUpload) (object : ℕ) :
    RetiredStaticUpload where
  key := upload.key
  source := upload.source
  destination := upload.destination
  fence := fence
  retireValue := value
  publicationResource := some object
  publishesReady := true

def submitted (resource : GpuSkinStaticResource) : GpuSkinStaticResource :=
  { resource with
    readyValidationAuthority := 0
    state := .uploadSubmitted
    pendingUpload := .none }

def commitRetirements (fence : ℕ) (value : UInt64) (prepared : List (GpuSkinStaticUpload × ℕ))
    (s : PackageStore) : PackageStore :=
  let s := { s with
    retiredStaticUploads := s.retiredStaticUploads ++
      prepared.map fun item => retirementOf fence value item.1 item.2
    diagnostics := { s.diagnostics with
      staticUploadRetirementsQueued :=
        s.diagnostics.staticUploadRetirementsQueued + prepared.length } }
  prepared.foldl (fun s item => s.write item.2 submitted) s

/-- `retireStaticUploads`; `allocates` says whether the allocations succeed. -/
def retireStaticUploads (allocates : Bool) (uploads : List GpuSkinStaticUpload) (fence : Option ℕ)
    (value : UInt64) (s : PackageStore) : Bool × PackageStore :=
  match fence with
  | none => (false, s.recordFallback .outputLeaseUnretired)
  | some fence =>
    if uploads = [] ∨ value = 0 ∨ uploads.length > cfg.missQueueCapacity ∨ !allocates then
      (false, s.recordFallback .outputLeaseUnretired)
    else
      match s.prepareRetirements cfg [] uploads with
      | .error reason => (false, s.recordFallback reason)
      | .ok prepared => (true, s.commitRetirements fence value prepared)

/-- The resource of a retirement is the one that its key names, in the epochs of the key, and it is
the package that was submitted. -/
def exactSubmittedPayload (retirement : RetiredStaticUpload) (object : ℕ)
    (resource : GpuSkinStaticResource) (s : PackageStore) : Bool :=
  s.mapEpoch = retirement.key.mapEpoch && s.deviceEpoch = retirement.key.deviceEpoch &&
    s.find retirement.key = some object && resource.state = .uploadSubmitted &&
    resource.key = retirement.key && retirement.source.defined && retirement.destination.defined &&
    retirement.source.length = resource.allocatedBytes &&
    retirement.destination = resource.packageSlice &&
    !resource.pendingUpload.source.defined && !resource.pendingUpload.destination.defined &&
    ownsFrozenPayload cfg resource && validateGpuSkinStaticFrozenPayload cfg.digest resource

def rejectCompletion (s : PackageStore) : PackageStore :=
  recordFallback .staticResourceInvalid { s with diagnostics := { s.diagnostics with
    staticUploadCompletionsRejected := s.diagnostics.staticUploadCompletionsRejected + 1 } }

/-- `completeRetiredStaticUpload`, of a retirement that is dropped afterwards. -/
def completeRetiredStaticUpload (retirement : RetiredStaticUpload) (s : PackageStore) :
    PackageStore :=
  if !retirement.publishesReady then s
  else
    match retirement.publicationResource with
    | none => s.rejectCompletion
    | some object =>
      match s.heap[object]? with
      | none => s.rejectCompletion
      | some resource =>
        if s.exactSubmittedPayload cfg retirement object resource &&
            validateGpuSkinStaticPackage { resource with state := .ready } then
          { s.write object fun r => { r with
              state := .ready, readyValidationAuthority := cfg.instanceAuthority } with
            diagnostics := { s.diagnostics with
              staticUploadsCompleted := s.diagnostics.staticUploadsCompleted + 1 } }
        else
          rejectCompletion (s.write object fun r => { r with
            readyValidationAuthority := 0, state := .invalid })

/-- The loop of `pollRetired`: `getFenceValue n` answers the `n`th question of this poll. -/
def pollLoop (getFenceValue : ℕ → ℕ → UInt64) :
    List RetiredStaticUpload → ℕ → PackageStore → List RetiredStaticUpload × PackageStore
  | [], _, s => ([], s)
  | retirement :: rest, turn, s =>
    if retirement.retireValue ≤ getFenceValue turn retirement.fence then
      let s := s.completeRetiredStaticUpload cfg retirement
      pollLoop getFenceValue rest (turn + 1) { s with diagnostics := { s.diagnostics with
        staticUploadRetirementsReclaimed := s.diagnostics.staticUploadRetirementsReclaimed + 1 } }
    else
      let (kept, s) := pollLoop getFenceValue rest (turn + 1) s
      (retirement :: kept, s)

/-- `pollRetired`. -/
def pollRetired (getFenceValue : ℕ → ℕ → UInt64) (s : PackageStore) : PackageStore :=
  let (kept, s) := pollLoop cfg getFenceValue s.retiredStaticUploads 0 s
  { s with retiredStaticUploads := kept }

end PackageStore

/-! ## Calls -/

inductive StoreCall
  | beginFrame (mapEpoch deviceEpoch frameTag : UInt64)
  | invalidateMapEpoch (nextMapEpoch : UInt64)
  | invalidateDevice (device : Bool) (nextDeviceEpoch : UInt64) (alignment : ℕ)
  | reset
  | findOrQueueStatic (cache : ModelCache) (record : Option Snapshot) (layoutGeneration : ℕ)
  | probeStatic (cache : ModelCache) (stamp : ResourceStamp) (layoutGeneration : ℕ)
  | prepareQueuedStaticResources (answers : ℕ → DeviceAnswers) (maxRecords : ℕ)
  | takeStaticUploads
  | retireStaticUploads (allocates : Bool) (uploads : List GpuSkinStaticUpload) (fence : Option ℕ)
      (value : UInt64)
  | pollRetired (getFenceValue : ℕ → ℕ → UInt64)

inductive StoreOutput
  | done
  | flag (result : Bool)
  | lookup (result : GpuSkinStaticLookup)
  | prepared (count : Option ℕ)
  | uploads (taken : List GpuSkinStaticUpload)
  deriving DecidableEq, Repr

def storeStep (cfg : StoreSetup) (call : StoreCall) (s : PackageStore) :
    StoreOutput × PackageStore :=
  match call with
  | .beginFrame mapEpoch deviceEpoch frameTag =>
    let (result, s) := s.beginFrame mapEpoch deviceEpoch frameTag
    (.flag result, s)
  | .invalidateMapEpoch nextMapEpoch => (.done, s.invalidateMapEpoch nextMapEpoch)
  | .invalidateDevice device nextDeviceEpoch alignment =>
    (.done, s.invalidateDevice device nextDeviceEpoch alignment)
  | .reset => (.done, s.reset)
  | .findOrQueueStatic cache record layoutGeneration =>
    let (result, s) := s.findOrQueueStatic cfg cache record layoutGeneration
    (.lookup result, s)
  | .probeStatic cache stamp layoutGeneration =>
    let (result, s) := s.probeStatic cfg cache stamp layoutGeneration
    (.lookup result, s)
  | .prepareQueuedStaticResources answers maxRecords =>
    let (count, s) := s.prepareQueuedStaticResources cfg answers maxRecords
    (.prepared count, s)
  | .takeStaticUploads =>
    let (taken, s) := s.takeStaticUploads
    (.uploads taken, s)
  | .retireStaticUploads allocates uploads fence value =>
    let (result, s) := s.retireStaticUploads cfg allocates uploads fence value
    (.flag result, s)
  | .pollRetired getFenceValue => (.done, s.pollRetired cfg getFenceValue)

end War3VK.GpuSkin
