import War3VK.Lib.Bytes

/-!
# Geoset records

What the cache of model resources keeps of a geoset, and how it is read from the memory of the game
(`src/d3d9/war3/model/war3_model_resource_cache.h` and `.cpp`, `ShadowGeosetResourceRecord`,
`MergeGeosetMetadata`, `ReplaceGeosetImmutablePayload`, `ComputeGeosetContentHash`, the functions that
capture). Floats are their bit patterns, as they are compared by `memcmp`. A memory says what the reads
through a pointer return; the values that are derived from the payload for the consumers are left out.
-/

namespace War3VK.Model

open Lib

abbrev Ptr := UInt32

/-! ## The payload -/

/-- `ShadowGeosetPrimitiveRecord`. -/
structure Primitive where
  primitiveTypeOrMaterialSlot : UInt32
  indexCount : UInt32
  deriving DecidableEq, Repr

/-- `ShadowGeosetUvLayerRecord`. -/
structure UvLayer where
  uvCount : UInt32
  uvPairs : List UInt32
  deriving DecidableEq, Repr

/-- What `SameShadowGeosetImmutableConsumerPayload` compares of a record. -/
structure Payload where
  vertexCount : UInt32 := 0
  positions : List UInt32 := []
  normalCount : UInt32 := 0
  normals : List UInt32 := []
  vertexGroupCount : UInt32 := 0
  vertexGroupIndices : List UInt8 := []
  uvLayerCount : UInt32 := 0
  uvLayers : List UvLayer := []
  primitiveCount : UInt32 := 0
  primitiveRecords : List Primitive := []
  indexCount : UInt32 := 0
  indices : List UInt16 := []
  matrixGroupCount : UInt32 := 0
  matrixGroupSizes : List UInt32 := []
  matrixIndexCount : UInt32 := 0
  matrixIndices : List UInt32 := []
  deriving DecidableEq, Repr

/-- `Fnv1a64`. -/
def fnv1a64 (bytes : Bytes) : UInt64 :=
  bytes.foldl (fun hash byte => (hash ^^^ byte.toUInt64) * 1099511628211) 1469598103934665603

/-- `CombineHash`. -/
def combineHash (a b : UInt64) : UInt64 :=
  let x := a ^^^ (b + (0x9E3779B97F4A7C15 : UInt64) + (a <<< (6 : UInt64)) + (a >>> (2 : UInt64)))
  if x ≠ 0 then x else 0x9E3779B97F4A7C15

def hashStream (bytes : Bytes) (hash : UInt64) : UInt64 :=
  if bytes = [] then hash else combineHash hash (fnv1a64 bytes)

/-- `ComputeGeosetContentHash`. -/
def computeGeosetContentHash (p : Payload) : UInt64 :=
  let hash := [p.normalCount, p.vertexGroupCount, p.uvLayerCount, p.primitiveCount, p.indexCount,
    p.matrixGroupCount, p.matrixIndexCount].foldl
      (fun hash count => combineHash hash (fnv1a64 (putLe count))) (fnv1a64 (putLe p.vertexCount))
  let hash := hashStream (p.positions.flatMap putLe) hash
  let hash := hashStream (p.normals.flatMap putLe) hash
  let hash := p.uvLayers.foldl (fun hash uv =>
    hashStream (uv.uvPairs.flatMap putLe) (combineHash hash (fnv1a64 (putLe uv.uvCount)))) hash
  let hash := hashStream (p.primitiveRecords.flatMap fun primitive =>
    putLe primitive.primitiveTypeOrMaterialSlot ++ putLe primitive.indexCount) hash
  let hash := hashStream (p.indices.flatMap putLe) hash
  let hash := hashStream p.vertexGroupIndices hash
  let hash := hashStream (p.matrixGroupSizes.flatMap putLe) hash
  hashStream (p.matrixIndices.flatMap putLe) hash

/-! ## The record -/

/-- `ShadowGeosetImmutableCaptureStatus`. -/
inductive CaptureStatus
  | notAttempted
  | complete
  | attemptedFailed
  deriving DecidableEq, Repr

/-- `kInvalidShadowGeosetIndex`. -/
def kInvalidShadowGeosetIndex : UInt32 := 0xFFFFFFFF

/-- `ShadowGeosetResourceRecord`. -/
structure GeosetRecord where
  geosetPtr : Ptr := 0
  geosetDataPtr : Ptr := 0
  modelResourcePtr : Ptr := 0
  modelKey : UInt64 := 0
  prefersRuntimeContract : Bool := false
  geosetIndex : UInt32 := kInvalidShadowGeosetIndex
  materialOrLayoutSlot : UInt32 := 0
  layoutOrMaterialSlot : UInt32 := 0
  mergedGeosetSlotOrBindingIndex : UInt32 := 0
  payload : Payload := {}
  contentHash : UInt64 := 0
  mapEpoch : UInt64 := 0
  immutableModelGeneration : UInt64 := 0
  immutableCaptureStatus : CaptureStatus := .notAttempted
  firstSeenFrame : UInt64 := 0
  lastSeenFrame : UInt64 := 0
  lastRuntimeRefreshFrame : UInt64 := 0
  deriving DecidableEq, Repr

namespace GeosetRecord

/-- `hasCompleteImmutableConsumerPayload`. -/
def hasCompleteImmutableConsumerPayload (r : GeosetRecord) : Bool :=
  r.immutableCaptureStatus = .complete && !r.payload.positions.isEmpty &&
    (!r.payload.indices.isEmpty || !r.payload.primitiveRecords.isEmpty)

/-- `readyForShadowConsumer`. -/
def readyForShadowConsumer (r : GeosetRecord) : Bool :=
  r.immutableModelGeneration ≠ 0 && r.hasCompleteImmutableConsumerPayload

end GeosetRecord

def mergeFirstSeen (dst src : UInt64) : UInt64 :=
  if dst = 0 || (src ≠ 0 && src < dst) then src else dst

/-- `MergeGeosetMetadata`. -/
def mergeGeosetMetadata (dst src : GeosetRecord) : GeosetRecord :=
  { dst with
    geosetPtr := if src.geosetPtr ≠ 0 then src.geosetPtr else dst.geosetPtr
    geosetDataPtr := if src.geosetDataPtr ≠ 0 then src.geosetDataPtr else dst.geosetDataPtr
    modelResourcePtr :=
      if src.modelResourcePtr ≠ 0 then src.modelResourcePtr else dst.modelResourcePtr
    modelKey := if src.modelKey ≠ 0 then src.modelKey else dst.modelKey
    prefersRuntimeContract := src.prefersRuntimeContract || dst.prefersRuntimeContract
    geosetIndex :=
      if src.geosetIndex ≠ kInvalidShadowGeosetIndex then src.geosetIndex else dst.geosetIndex
    materialOrLayoutSlot :=
      if src.materialOrLayoutSlot ≠ 0 then src.materialOrLayoutSlot else dst.materialOrLayoutSlot
    layoutOrMaterialSlot :=
      if src.layoutOrMaterialSlot ≠ 0 then src.layoutOrMaterialSlot else dst.layoutOrMaterialSlot
    mergedGeosetSlotOrBindingIndex :=
      if src.mergedGeosetSlotOrBindingIndex ≠ 0 then src.mergedGeosetSlotOrBindingIndex
      else dst.mergedGeosetSlotOrBindingIndex
    mapEpoch := if src.mapEpoch ≠ 0 then src.mapEpoch else dst.mapEpoch
    firstSeenFrame := mergeFirstSeen dst.firstSeenFrame src.firstSeenFrame
    lastSeenFrame := max dst.lastSeenFrame src.lastSeenFrame
    lastRuntimeRefreshFrame := max dst.lastRuntimeRefreshFrame src.lastRuntimeRefreshFrame }

/-- `ReplaceGeosetImmutablePayload`. -/
def replaceGeosetImmutablePayload (dst src : GeosetRecord) : GeosetRecord :=
  { dst with
    payload := src.payload
    contentHash := src.contentHash
    immutableModelGeneration := 0
    immutableCaptureStatus := src.immutableCaptureStatus }

/-- `HasSameGeosetConsumerContent`. -/
def hasSameGeosetConsumerContent (a b : GeosetRecord) : Bool :=
  a.geosetPtr = b.geosetPtr && a.geosetDataPtr = b.geosetDataPtr &&
    a.modelResourcePtr = b.modelResourcePtr && a.modelKey = b.modelKey &&
      a.prefersRuntimeContract = b.prefersRuntimeContract && a.geosetIndex = b.geosetIndex &&
        a.materialOrLayoutSlot = b.materialOrLayoutSlot &&
          a.layoutOrMaterialSlot = b.layoutOrMaterialSlot &&
            a.mergedGeosetSlotOrBindingIndex = b.mergedGeosetSlotOrBindingIndex &&
              a.payload = b.payload && a.contentHash = b.contentHash

/-! ### What the merges leave -/

theorem geosetPtr_mergeGeosetMetadata (dst src : GeosetRecord) :
    (mergeGeosetMetadata dst src).geosetPtr =
      if src.geosetPtr ≠ 0 then src.geosetPtr else dst.geosetPtr := rfl

theorem hasComplete_congr {a b : GeosetRecord} (hpayload : a.payload = b.payload)
    (hstatus : a.immutableCaptureStatus = b.immutableCaptureStatus) :
    a.hasCompleteImmutableConsumerPayload = b.hasCompleteImmutableConsumerPayload := by
  rw [GeosetRecord.hasCompleteImmutableConsumerPayload,
    GeosetRecord.hasCompleteImmutableConsumerPayload, hpayload, hstatus]

theorem GeosetRecord.complete_of_hasComplete {r : GeosetRecord}
    (h : r.hasCompleteImmutableConsumerPayload) : r.immutableCaptureStatus = .complete := by
  simp only [GeosetRecord.hasCompleteImmutableConsumerPayload, Bool.and_eq_true, decide_eq_true_eq] at h
  exact h.1.1

theorem GeosetRecord.ready_iff {r : GeosetRecord} : r.readyForShadowConsumer ↔
    r.immutableModelGeneration ≠ 0 ∧ r.hasCompleteImmutableConsumerPayload := by
  simp [GeosetRecord.readyForShadowConsumer]

/-! ## Model records -/

/-- `ShadowModelResourceRecord`. -/
structure ModelRecord where
  runtimeModelPtr : Ptr := 0
  modelResourcePtr : Ptr := 0
  modelKey : UInt64 := 0
  geosetCount : UInt32 := 0
  geosetPtrs : List Ptr := []
  geosetDataPtrs : List Ptr := []
  readyGeosetCount : UInt32 := 0
  firstSeenFrame : UInt64 := 0
  lastSeenFrame : UInt64 := 0
  deriving DecidableEq, Repr

/-- `readyForShadowConsumer` of a model. -/
def ModelRecord.readyForShadowConsumer (m : ModelRecord) : Bool := m.readyGeosetCount ≠ 0

/-- `MergeModelRecord`. -/
def mergeModelRecord (dst src : ModelRecord) : ModelRecord where
  runtimeModelPtr := if src.runtimeModelPtr ≠ 0 then src.runtimeModelPtr else dst.runtimeModelPtr
  modelResourcePtr :=
    if src.modelResourcePtr ≠ 0 then src.modelResourcePtr else dst.modelResourcePtr
  modelKey := if src.modelKey ≠ 0 then src.modelKey else dst.modelKey
  geosetCount := if src.geosetCount ≠ 0 then src.geosetCount else dst.geosetCount
  geosetPtrs := if src.geosetPtrs.isEmpty then dst.geosetPtrs else src.geosetPtrs
  geosetDataPtrs := if src.geosetDataPtrs.isEmpty then dst.geosetDataPtrs else src.geosetDataPtrs
  readyGeosetCount :=
    if src.geosetCount ≠ 0 || !src.geosetPtrs.isEmpty || !src.geosetDataPtrs.isEmpty ||
      src.readyGeosetCount ≠ 0 then src.readyGeosetCount else dst.readyGeosetCount
  firstSeenFrame := mergeFirstSeen dst.firstSeenFrame src.firstSeenFrame
  lastSeenFrame := max dst.lastSeenFrame src.lastSeenFrame

/-- `EnsureModelRecordCapacity`. -/
def ensureModelRecordCapacity (m : ModelRecord) (geosetIndex : UInt32) : ModelRecord :=
  let requiredSize := geosetIndex.toNat + 1
  { m with
    geosetPtrs := m.geosetPtrs ++ List.replicate (requiredSize - m.geosetPtrs.length) 0
    geosetDataPtrs := m.geosetDataPtrs ++ List.replicate (requiredSize - m.geosetDataPtrs.length) 0
    geosetCount :=
      if m.geosetCount.toNat < requiredSize then UInt32.ofNat requiredSize else m.geosetCount }

/-! ## The memory of the game -/

structure Memory where
  /-- The data pointer of a geoset, 0 if it cannot be read. -/
  geosetData : Ptr → Ptr := fun _ => 0
  materialOrLayoutSlot : Ptr → UInt32 := fun _ => 0
  layoutOrMaterialSlot : Ptr → UInt32 := fun _ => 0
  mergedGeosetBindingIndex : Ptr → UInt32 := fun _ => 0
  /-- What is copied of the streams of geoset data, and whether all of it could be. -/
  streams : Ptr → Payload × Bool := fun _ => ({}, false)
  /-- `TryResolveDirectModelResourcePtr`. -/
  directModelResource : Ptr → Ptr := fun _ => 0
  /-- `LooksLikeRuntimeModelPtr`. -/
  looksLikeRuntimeModel : Ptr → Bool := fun _ => false
  /-- `OwnedModelDataHandle` of a runtime model, 0 if it cannot be read. -/
  ownedModelDataHandle : Ptr → Ptr := fun _ => 0
  /-- `TryReadGeosetHandleArray` of a model. -/
  modelGeosets : Ptr → Option (List Ptr) := fun _ => none
  /-- `TryReadGeosetHandleArray` of a runtime model. -/
  runtimeGeosets : Ptr → Option (List Ptr) := fun _ => none

namespace Memory

def captureStreams (geosetDataPtr : Ptr) (record : GeosetRecord) (m : Memory) : GeosetRecord :=
  let streams := m.streams geosetDataPtr
  { record with
    geosetDataPtr
    layoutOrMaterialSlot := m.layoutOrMaterialSlot geosetDataPtr
    mergedGeosetSlotOrBindingIndex := m.mergedGeosetBindingIndex geosetDataPtr
    payload := streams.1
    immutableCaptureStatus := if streams.2 then .complete else .attemptedFailed
    contentHash := computeGeosetContentHash streams.1 }

/-- `CaptureGeosetRecord`. -/
def captureGeosetRecord (geosetPtr : Ptr) (m : Memory) : Option GeosetRecord :=
  if geosetPtr = 0 || m.geosetData geosetPtr = 0 then none
  else
    some (m.captureStreams (m.geosetData geosetPtr)
      { geosetPtr, materialOrLayoutSlot := m.materialOrLayoutSlot geosetPtr })

/-- `CaptureGeosetHeaderRecord`. -/
def captureGeosetHeaderRecord (geosetPtr : Ptr) (m : Memory) : Option GeosetRecord :=
  let geosetDataPtr := m.geosetData geosetPtr
  if geosetPtr = 0 || geosetDataPtr = 0 then none
  else
    some {
      geosetPtr
      geosetDataPtr
      materialOrLayoutSlot := m.materialOrLayoutSlot geosetPtr
      layoutOrMaterialSlot := m.layoutOrMaterialSlot geosetDataPtr
      mergedGeosetSlotOrBindingIndex := m.mergedGeosetBindingIndex geosetDataPtr }

/-- `CaptureGeosetRecordFromKnownPtrs`. -/
def captureGeosetRecordFromKnownPtrs (geosetPtr geosetDataPtr : Ptr) (m : Memory) :
    Option GeosetRecord :=
  match m.captureGeosetRecord geosetPtr with
  | some record =>
    -- A hint that disagrees with what was read is stale.
    if geosetDataPtr ≠ 0 && record.geosetDataPtr ≠ geosetDataPtr then none else some record
  | none =>
    if geosetDataPtr = 0 then none else some (m.captureStreams geosetDataPtr { geosetPtr })

/-! ### What is captured -/

variable {m : Memory} {geosetPtr geosetDataPtr : Ptr} {record : GeosetRecord}

theorem captureStreams_attempted :
    (m.captureStreams geosetDataPtr record).immutableCaptureStatus ≠ .notAttempted := by
  show (if (m.streams geosetDataPtr).2 = true then CaptureStatus.complete else .attemptedFailed) ≠ _
  split <;> simp

theorem captureGeosetRecord_spec (h : m.captureGeosetRecord geosetPtr = some record) :
    geosetPtr ≠ 0 ∧ record.geosetPtr = geosetPtr ∧ record.geosetDataPtr ≠ 0 ∧
      record.immutableCaptureStatus ≠ .notAttempted := by
  unfold captureGeosetRecord at h
  split_ifs at h with hnull
  obtain rfl := Option.some.inj h
  simp only [Bool.or_eq_true, decide_eq_true_eq, not_or] at hnull
  exact ⟨hnull.1, rfl, hnull.2, captureStreams_attempted⟩

theorem captureGeosetHeaderRecord_spec (h : m.captureGeosetHeaderRecord geosetPtr = some record) :
    geosetPtr ≠ 0 ∧ record.geosetPtr = geosetPtr ∧ record.geosetDataPtr ≠ 0 ∧
      record.immutableCaptureStatus = .notAttempted := by
  unfold captureGeosetHeaderRecord at h
  dsimp only at h
  split_ifs at h with hnull
  obtain rfl := Option.some.inj h
  simp only [Bool.or_eq_true, decide_eq_true_eq, not_or] at hnull
  exact ⟨hnull.1, rfl, hnull.2, rfl⟩

theorem captureGeosetRecordFromKnownPtrs_spec
    (h : m.captureGeosetRecordFromKnownPtrs geosetPtr geosetDataPtr = some record) :
    record.geosetPtr = geosetPtr ∧ record.geosetDataPtr ≠ 0 ∧
      (geosetDataPtr ≠ 0 → record.geosetDataPtr = geosetDataPtr) ∧
        record.immutableCaptureStatus ≠ .notAttempted := by
  unfold captureGeosetRecordFromKnownPtrs at h
  cases hread : m.captureGeosetRecord geosetPtr with
  | some live =>
    obtain ⟨-, hptr, hdata, hattempted⟩ := captureGeosetRecord_spec hread
    rw [hread] at h
    dsimp only at h
    split_ifs at h with hstale
    obtain rfl := Option.some.inj h
    refine ⟨hptr, hdata, fun hknown => ?_, hattempted⟩
    by_contra hne
    exact hstale (by simp [hknown, hne])
  | none =>
    rw [hread] at h
    dsimp only at h
    split_ifs at h with hnull
    obtain rfl := Option.some.inj h
    exact ⟨rfl, hnull, fun _ => rfl, captureStreams_attempted⟩

end Memory

end War3VK.Model
