import War3VK.GpuSkin.ImmutableProof

/-!
# The resources of the package store

Buffers and slices, keys, uploads, the package that the store freezes when it creates a resource, and
the checks that a resource still is what was frozen (`ValidateGpuSkinStaticPackage` and
`ValidateGpuSkinStaticFrozenPayload`).
-/

namespace War3VK.GpuSkin

open War3VK.Lib

/-! ## Buffers -/

/-- `VkBufferUsageFlagBits`, those in use. -/
inductive BufferUsage
  | storageBuffer
  | vertexBuffer
  | indexBuffer
  | transferSrc
  | transferDst
  deriving DecidableEq, Repr

/-- `VkPipelineStageFlagBits`, those in use. -/
inductive PipelineStage
  | host
  | transfer
  | computeShader
  | vertexShader
  | vertexInput
  deriving DecidableEq, Repr

/-- `VkAccessFlagBits`, those in use. -/
inductive AccessFlag
  | hostWrite
  | transferRead
  | transferWrite
  | shaderRead
  | shaderWrite
  | vertexAttributeRead
  | indexRead
  deriving DecidableEq, Repr

/-- `DxvkBufferCreateInfo`, each word of flags as the list of its bits. -/
structure BufferInfo where
  size : ℕ
  usage : List BufferUsage
  stages : List PipelineStage
  access : List AccessFlag
  deriving DecidableEq, Repr

def BufferInfo.allows (info : BufferInfo) (usage : List BufferUsage) (stages : List PipelineStage)
    (access : List AccessFlag) : Bool :=
  usage.all info.usage.contains && stages.all info.stages.contains &&
    access.all info.access.contains

structure Buffer where
  identity : ℕ
  info : BufferInfo
  deriving DecidableEq, Repr

/-- `DxvkBufferSlice`. -/
structure BufferSlice where
  /-- The buffer, none in a slice that is not defined. -/
  buffer : Option Buffer
  offset : ℕ
  length : ℕ
  deriving DecidableEq, Repr

/-- `DxvkBufferSlice::defined`. -/
def BufferSlice.defined (slice : BufferSlice) : Bool := slice.buffer.isSome

def BufferSlice.none : BufferSlice := ⟨Option.none, 0, 0⟩

/-- `SameBufferSlice`. -/
def sameBufferSlice (lhs rhs : BufferSlice) : Bool :=
  lhs.defined = rhs.defined && (!lhs.defined || lhs = rhs)

/-- `StaticBufferInfo`. -/
def staticBufferInfo (size : ℕ) : BufferInfo where
  size := size
  usage := [.storageBuffer, .vertexBuffer, .indexBuffer, .transferDst]
  stages := [.computeShader, .vertexShader, .vertexInput, .transfer]
  access := [.shaderRead, .vertexAttributeRead, .indexRead, .transferWrite]

/-- `StaticUploadBufferInfo`. -/
def staticUploadBufferInfo (size : ℕ) : BufferInfo where
  size := size
  usage := [.storageBuffer, .transferSrc]
  stages := [.host, .transfer, .computeShader]
  access := [.hostWrite, .transferRead, .shaderRead]

/-- `createBuffer` as its caller sees it. -/
inductive BufferAnswer
  | created
  | null
  | threw
  deriving DecidableEq, Repr

structure DeviceAnswers where
  atlas : BufferAnswer
  staging : BufferAnswer
  mapped : Bool
  census : ℕ
  deriving DecidableEq, Repr

/-! ## Resources -/

/-- `ShadowGeosetResourceSnapshot`: a shared record and its address. -/
structure Snapshot where
  identity : ℕ
  record : ShadowGeosetResourceRecord
  deriving DecidableEq, Repr

/-- `ShadowModelResourceCache::findGeosetSnapshotByData`, as it answers during one call. -/
abbrev ModelCache := UInt64 → Option Snapshot

/-- `ShadowGeosetResourceStamp`. -/
structure ResourceStamp where
  geosetDataPtr : UInt64
  contentHash : UInt64
  immutableModelGeneration : UInt64
  vertexCount : ℕ
  immutableCaptureStatus : ImmutableCaptureStatus
  deriving DecidableEq, Repr

/-- `GpuSkinStaticResourceKey`. -/
structure GpuSkinStaticResourceKey where
  mapEpoch : UInt64
  deviceEpoch : UInt64
  geosetData : UInt64
  contentHash : UInt64
  immutableModelGeneration : UInt64
  layoutGeneration : ℕ
  reserved : ℕ
  deriving DecidableEq, Repr

def GpuSkinStaticResourceKey.none : GpuSkinStaticResourceKey := ⟨0, 0, 0, 0, 0, 0, 0⟩

/-- `GpuSkinStaticUpload`. -/
structure GpuSkinStaticUpload where
  key : GpuSkinStaticResourceKey
  source : BufferSlice
  destination : BufferSlice
  byteCount : ℕ
  residencyCensus : ℕ
  deriving DecidableEq, Repr

def GpuSkinStaticUpload.none : GpuSkinStaticUpload := ⟨.none, .none, .none, 0, 0⟩

/-- `VkIndexType`. -/
inductive IndexType
  | uint16
  | uint32
  deriving DecidableEq, Repr

/-- `GpuSkinStaticSourceLayout`. -/
structure GpuSkinStaticSourceLayout where
  positionOffset : ℕ
  normalOffset : ℕ
  groupSlotOffset : ℕ
  texcoord0Offset : ℕ
  texcoord1Offset : ℕ
  byteSize : ℕ
  deriving DecidableEq, Repr

def ImmutableProof.layout (proof : ImmutableProof) : GpuSkinStaticSourceLayout where
  positionOffset := proof.positionOffset
  normalOffset := proof.normalOffset
  groupSlotOffset := proof.groupSlotOffset
  texcoord0Offset := proof.texcoord0Offset
  texcoord1Offset := proof.texcoord1Offset
  byteSize := proof.staticByteSize

/-- `GpuSkinStaticPackageProof`. -/
structure GpuSkinStaticPackageProof where
  mapEpoch : UInt64
  deviceEpoch : UInt64
  /-- The generation that the store minted for it, zero for no package. -/
  packageGeneration : ℕ
  geosetData : UInt64
  contentHash : UInt64
  immutableModelGeneration : UInt64
  positionContentHash : UInt64
  normalContentHash : UInt64
  vertexGroupContentHash : UInt64
  uv0ContentHash : UInt64
  uv1ContentHash : UInt64
  indexContentHash : UInt64
  primitiveProofHash : UInt64
  localBoundsHash : UInt64
  layoutGeneration : ℕ
  vertexCount : ℕ
  indexCount : ℕ
  uvLayerCount : ℕ
  primitiveProofCount : ℕ
  indexType : IndexType
  bounds : LocalBounds
  staticByteOffset : ℕ
  staticByteLength : ℕ
  indexByteOffset : ℕ
  indexByteLength : ℕ
  deriving DecidableEq, Repr

def GpuSkinStaticPackageProof.none : GpuSkinStaticPackageProof :=
  ⟨0, 0, 0, 0, 0, 0, 0, 0, 0, 0, 0, 0, 0, 0, 0, 0, 0, 0, 0, .uint16, ⟨0, 0, 0, 0, 0, 0⟩, 0, 0, 0, 0⟩

/-- `SameGpuSkinStaticPackageProof`. -/
def sameGpuSkinStaticPackageProof (lhs rhs : GpuSkinStaticPackageProof) : Bool :=
  { lhs with bounds := rhs.bounds } = rhs && sameLocalBounds lhs.bounds rhs.bounds

/-- `GpuSkinStaticFrozenPackage`: what the store pins when it creates a package. -/
structure GpuSkinStaticFrozenPackage where
  storeInstanceAuthority : UInt64
  snapshotIdentity : ℕ
  key : GpuSkinStaticResourceKey
  record : Snapshot
  packageProof : GpuSkinStaticPackageProof
  primitiveProofs : List PrimitiveProof
  immutableProof : ImmutableProof
  sourceLayout : GpuSkinStaticSourceLayout
  packageSlice : BufferSlice
  staticSource : BufferSlice
  indexSource : BufferSlice
  indexContentHash : UInt64
  maxVertexGroupSlot : ℕ
  indexType : IndexType
  indexCount : ℕ
  allocatedBytes : ℕ
  deriving DecidableEq, Repr

/-- `GpuSkinStaticResourceState`. -/
inductive GpuSkinStaticResourceState
  | pendingUpload
  | uploadSubmitted
  | ready
  | invalid
  deriving DecidableEq, Repr

/-- `GpuSkinStaticResource`. -/
structure GpuSkinStaticResource where
  key : GpuSkinStaticResourceKey
  record : Snapshot
  packageProof : GpuSkinStaticPackageProof
  primitiveProofs : List PrimitiveProof
  indexContentHash : UInt64
  maxVertexGroupSlot : ℕ
  sourceLayout : GpuSkinStaticSourceLayout
  packageSlice : BufferSlice
  staticSource : BufferSlice
  indexSource : BufferSlice
  indexType : IndexType
  indexCount : ℕ
  pendingUpload : GpuSkinStaticUpload
  state : GpuSkinStaticResourceState
  /-- The store that found the upload complete, zero before. -/
  readyValidationAuthority : UInt64
  allocatedBytes : ℕ
  frozenPayload : Option GpuSkinStaticFrozenPackage
  deriving DecidableEq, Repr

/-- The resource that takes the place of a package that could not be created. -/
def GpuSkinStaticResource.rejected (key : GpuSkinStaticResourceKey) (record : Snapshot) :
    GpuSkinStaticResource where
  key := key
  record := record
  packageProof := .none
  primitiveProofs := []
  indexContentHash := 0
  maxVertexGroupSlot := 0
  sourceLayout := ⟨0, 0, 0, 0, 0, 0⟩
  packageSlice := .none
  staticSource := .none
  indexSource := .none
  indexType := .uint16
  indexCount := 0
  pendingUpload := .none
  state := .invalid
  readyValidationAuthority := 0
  allocatedBytes := 0
  frozenPayload := none

/-! ## The checks of a frozen package -/

def frozenMirrorsAgree (resource : GpuSkinStaticResource) (frozen : GpuSkinStaticFrozenPackage) :
    Bool :=
  frozen.storeInstanceAuthority ≠ 0 && frozen.snapshotIdentity = frozen.record.identity &&
    resource.record.identity = frozen.snapshotIdentity && resource.key = frozen.key &&
    sameGpuSkinStaticPackageProof resource.packageProof frozen.packageProof &&
    resource.primitiveProofs = frozen.primitiveProofs &&
    resource.indexContentHash = frozen.indexContentHash &&
    resource.maxVertexGroupSlot = frozen.maxVertexGroupSlot &&
    resource.sourceLayout = frozen.sourceLayout &&
    sameBufferSlice resource.packageSlice frozen.packageSlice &&
    sameBufferSlice resource.staticSource frozen.staticSource &&
    sameBufferSlice resource.indexSource frozen.indexSource &&
    resource.indexType = frozen.indexType && resource.indexCount = frozen.indexCount &&
    resource.allocatedBytes = frozen.allocatedBytes

def frozenProofsAgree (resource : GpuSkinStaticResource) (frozen : GpuSkinStaticFrozenPackage) :
    Bool :=
  let expected := frozen.packageProof
  let immutableProof := frozen.immutableProof
  let record := frozen.record.record
  resource.key.reserved = 0 && expected.mapEpoch ≠ 0 && expected.deviceEpoch ≠ 0 &&
    expected.packageGeneration ≠ 0 && expected.geosetData ≠ 0 && expected.contentHash ≠ 0 &&
    expected.immutableModelGeneration ≠ 0 &&
    expected.layoutGeneration = kPersistentGpuPackageStaticLayoutGeneration &&
    resource.key.mapEpoch = expected.mapEpoch && resource.key.deviceEpoch = expected.deviceEpoch &&
    resource.key.geosetData = expected.geosetData &&
    resource.key.contentHash = expected.contentHash &&
    resource.key.immutableModelGeneration = expected.immutableModelGeneration &&
    resource.key.layoutGeneration = expected.layoutGeneration &&
    record.geosetDataPtr = expected.geosetData && record.contentHash = expected.contentHash &&
    record.immutableModelGeneration = expected.immutableModelGeneration &&
    immutableProof.immutableModelGeneration = expected.immutableModelGeneration &&
    immutableProof.contentHash = expected.contentHash &&
    immutableProof.positionContentHash = expected.positionContentHash &&
    immutableProof.normalContentHash = expected.normalContentHash &&
    immutableProof.vertexGroupContentHash = expected.vertexGroupContentHash &&
    immutableProof.uv0ContentHash = expected.uv0ContentHash &&
    immutableProof.uv1ContentHash = expected.uv1ContentHash &&
    immutableProof.indexContentHash = expected.indexContentHash &&
    immutableProof.primitiveProofHash = expected.primitiveProofHash &&
    immutableProof.localBoundsHash = expected.localBoundsHash &&
    immutableProof.layoutGeneration = expected.layoutGeneration &&
    immutableProof.vertexCount = expected.vertexCount &&
    immutableProof.indexCount = expected.indexCount &&
    immutableProof.uvLayerCount = expected.uvLayerCount &&
    immutableProof.primitiveProofCount = expected.primitiveProofCount &&
    sameLocalBounds immutableProof.bounds expected.bounds &&
    expected.indexType = .uint16 && expected.staticByteLength = immutableProof.staticByteSize &&
    expected.indexByteLength = expected.indexCount * 2

/-- The slices are those of the proof, lie in each other as they should and in the buffer. -/
def frozenRangesAgree (resource : GpuSkinStaticResource) (frozen : GpuSkinStaticFrozenPackage) :
    Bool :=
  let expected := frozen.packageProof
  let package := resource.packageSlice
  let vertices := resource.staticSource
  let indices := resource.indexSource
  resource.sourceLayout = frozen.immutableProof.layout &&
    resource.maxVertexGroupSlot = frozen.immutableProof.maxVertexGroupSlot &&
    package.defined && vertices.defined && indices.defined &&
    vertices.buffer = package.buffer && indices.buffer = package.buffer &&
    package.length = resource.allocatedBytes &&
    vertices.offset = expected.staticByteOffset && vertices.length = expected.staticByteLength &&
    indices.offset = expected.indexByteOffset && indices.length = expected.indexByteLength &&
    package.offset = vertices.offset &&
    vertices.length ≤ package.length && indices.length ≤ package.length &&
    package.offset ≤ indices.offset &&
    vertices.offset - package.offset ≤ package.length - vertices.length &&
    indices.offset - package.offset ≤ package.length - indices.length &&
    vertices.offset + vertices.length < 2^64 && vertices.offset + vertices.length ≤ indices.offset &&
    indices.offset - package.offset + indices.length = package.length && indices.offset % 2 = 0 &&
    (match package.buffer with
    | none => false
    | some buffer =>
      package.offset ≤ buffer.info.size && package.length ≤ buffer.info.size - package.offset &&
        buffer.info.allows [.storageBuffer, .vertexBuffer, .indexBuffer, .transferDst]
          [.computeShader, .vertexShader, .vertexInput, .transfer]
          [.shaderRead, .vertexAttributeRead, .indexRead, .transferWrite])

/-- `ValidateFrozenMirrorsAndGpuRanges`. -/
def validateFrozenMirrorsAndGpuRanges (resource : GpuSkinStaticResource) : Bool :=
  match resource.frozenPayload with
  | none => false
  | some frozen =>
    frozenMirrorsAgree resource frozen && frozenProofsAgree resource frozen &&
      frozenRangesAgree resource frozen

/-- `ValidateGpuSkinStaticPackage`. -/
def validateGpuSkinStaticPackage (resource : GpuSkinStaticResource) : Bool :=
  resource.state = .ready && validateFrozenMirrorsAndGpuRanges resource

/-- `ValidateGpuSkinStaticFrozenPayload`. -/
def validateGpuSkinStaticFrozenPayload (digest : Digest) (resource : GpuSkinStaticResource) : Bool :=
  resource.state ≠ .invalid && validateFrozenMirrorsAndGpuRanges resource &&
    (match resource.frozenPayload with
    | none => false
    | some frozen =>
      match buildPersistentGpuPackageImmutableProof digest frozen.record.record with
      | none => false
      | some (recomputed, primitives) =>
        samePersistentGpuPackageImmutableProof recomputed frozen.immutableProof &&
          primitives = frozen.primitiveProofs)

end War3VK.GpuSkin
