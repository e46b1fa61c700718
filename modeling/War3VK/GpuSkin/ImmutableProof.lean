import War3VK.Lib.Bytes

/-!
# The immutable proof of a geoset record

`war3_persistent_gpu_package_immutable.cpp`: what the cache's record must satisfy to become a
package, the digests of its streams and of its primitives, the bytes that are packed from it and the
check of packed bytes against the proof. The digest is a parameter, the code's own is
`continuePersistentGpuPackageContentHash`. A `float` is its bits.
-/

namespace War3VK.GpuSkin

open War3VK.Lib

/-- `kPersistentGpuPackageStaticLayoutGeneration`. -/
def kPersistentGpuPackageStaticLayoutGeneration : ℕ := 1

/-- `kPersistentGpuPackageContentHashSeed`. -/
def kPersistentGpuPackageContentHashSeed : UInt64 := 0xcbf29ce484222325

abbrev Digest := UInt64 → Bytes → UInt64

/-- `ContinuePersistentGpuPackageContentHash`. -/
def continuePersistentGpuPackageContentHash : Digest := fun seed data =>
  data.foldl (fun seed byte => (seed ^^^ byte.toUInt64) * 0x100000001b3) seed

/-- `ShadowGeosetImmutableCaptureStatus`. -/
inductive ImmutableCaptureStatus
  | notAttempted
  | complete
  | attemptedFailed
  deriving DecidableEq, Repr

/-- `ShadowGeosetPrimitiveRecord`. -/
structure PrimitiveRecord where
  /-- The word of the source that looks like a material. -/
  primitiveTypeOrMaterialSlot : ℕ
  indexCount : ℕ
  deriving DecidableEq, Repr

/-- `ShadowGeosetUvLayerRecord`. -/
structure UvLayerRecord where
  uvCount : ℕ
  uvPairs : List UInt32
  deriving DecidableEq, Repr

/-- `ShadowGeosetResourceRecord`, the fields that packages read. -/
structure ShadowGeosetResourceRecord where
  geosetDataPtr : UInt64
  vertexCount : ℕ
  positions : List UInt32
  normalCount : ℕ
  normals : List UInt32
  /-- How many vertex groups the record says it has. -/
  vertexGroupCount : ℕ
  vertexGroupIndices : List UInt8
  uvLayerCount : ℕ
  uvLayers : List UvLayerRecord
  primitiveCount : ℕ
  primitiveRecords : List PrimitiveRecord
  indexCount : ℕ
  indices : List UInt16
  /-- How many matrix groups the record says it has. -/
  matrixGroupCount : ℕ
  matrixGroupSizes : List UInt32
  /-- How many matrix indices the record says it has. -/
  matrixIndexCount : ℕ
  matrixIndices : List UInt32
  contentHash : UInt64
  mapEpoch : UInt64
  /-- The generation that the cache minted for these bytes. -/
  immutableModelGeneration : UInt64
  immutableCaptureStatus : ImmutableCaptureStatus
  deriving DecidableEq, Repr

/-- `hasCompleteImmutableConsumerPayload`. -/
def ShadowGeosetResourceRecord.hasCompleteImmutableConsumerPayload
    (record : ShadowGeosetResourceRecord) : Bool :=
  record.immutableCaptureStatus = .complete && !record.positions.isEmpty &&
    (!record.indices.isEmpty || !record.primitiveRecords.isEmpty)

/-- `readyForShadowConsumer`. -/
def ShadowGeosetResourceRecord.readyForShadowConsumer (record : ShadowGeosetResourceRecord) : Bool :=
  record.immutableModelGeneration ≠ 0 && record.hasCompleteImmutableConsumerPayload

/-- `PersistentGpuPackagePrimitiveProof`. -/
structure PrimitiveProof where
  indexContentHash : UInt64
  ordinal : ℕ
  /-- The word of the source that looks like a material. -/
  primitiveTypeOrMaterialSlot : ℕ
  firstIndex : ℕ
  indexCount : ℕ
  minVertex : ℕ
  maxVertex : ℕ
  deriving DecidableEq, Repr

/-- The least and the greatest corner of the vertices, as six floats. -/
structure LocalBounds where
  /-- `localMinX`. -/
  minX : UInt32
  /-- `localMinY`. -/
  minY : UInt32
  /-- `localMinZ`. -/
  minZ : UInt32
  /-- `localMaxX`. -/
  maxX : UInt32
  /-- `localMaxY`. -/
  maxY : UInt32
  /-- `localMaxZ`. -/
  maxZ : UInt32
  deriving DecidableEq, Repr

/-- `PersistentGpuPackageImmutableProof`. -/
structure ImmutableProof where
  immutableModelGeneration : UInt64
  contentHash : UInt64
  positionContentHash : UInt64
  normalContentHash : UInt64
  vertexGroupContentHash : UInt64
  uv0ContentHash : UInt64
  uv1ContentHash : UInt64
  indexContentHash : UInt64
  matrixGroupContentHash : UInt64
  matrixIndexContentHash : UInt64
  primitiveProofHash : UInt64
  localBoundsHash : UInt64
  layoutGeneration : ℕ
  vertexCount : ℕ
  indexCount : ℕ
  uvLayerCount : ℕ
  primitiveProofCount : ℕ
  matrixGroupCount : ℕ
  matrixIndexCount : ℕ
  maxVertexGroupSlot : ℕ
  positionOffset : ℕ
  normalOffset : ℕ
  groupSlotOffset : ℕ
  texcoord0Offset : ℕ
  texcoord1Offset : ℕ
  staticByteSize : ℕ
  bounds : LocalBounds
  deriving DecidableEq, Repr

/-- `std::isfinite`. -/
def isFinite (bits : UInt32) : Bool := (bits >>> 23) &&& 0xff ≠ 0xff

def isNan (bits : UInt32) : Bool := (bits >>> 23) &&& 0xff = 0xff && bits &&& 0x7fffff ≠ 0

def floatRank (bits : UInt32) : ℤ :=
  if bits &&& 0x80000000 = 0 then bits.toNat else -((bits &&& 0x7fffffff).toNat : ℤ)

/-- `<` of floats. -/
def floatLt (a b : UInt32) : Bool := !isNan a && !isNan b && floatRank a < floatRank b

/-- `==` of floats. -/
def floatEq (a b : UInt32) : Bool := !isNan a && !isNan b && floatRank a = floatRank b

/-- `std::min` of floats. -/
def floatMin (a b : UInt32) : UInt32 := if floatLt b a then b else a

/-- `std::max` of floats. -/
def floatMax (a b : UInt32) : UInt32 := if floatLt a b then b else a

def sameLocalBounds (lhs rhs : LocalBounds) : Bool :=
  floatEq lhs.minX rhs.minX && floatEq lhs.minY rhs.minY && floatEq lhs.minZ rhs.minZ &&
    floatEq lhs.maxX rhs.maxX && floatEq lhs.maxY rhs.maxY && floatEq lhs.maxZ rhs.maxZ

def LocalBounds.bytes (b : LocalBounds) : Bytes :=
  [b.minX, b.minY, b.minZ, b.maxX, b.maxY, b.maxZ].flatMap putLe

def LocalBounds.extend (b : LocalBounds) (x y z : UInt32) : LocalBounds where
  minX := floatMin b.minX x
  minY := floatMin b.minY y
  minZ := floatMin b.minZ z
  maxX := floatMax b.maxX x
  maxY := floatMax b.maxY y
  maxZ := floatMax b.maxZ z

/-- The loop over the vertices, which stops at a float that is not finite. -/
def extendBounds (positions : List UInt32) : ℕ → LocalBounds → Option LocalBounds
  | 0, b => some b
  | n + 1, b => do
    let b ← extendBounds positions n b
    let x := positions.getD (n * 3) 0
    let y := positions.getD (n * 3 + 1) 0
    let z := positions.getD (n * 3 + 2) 0
    if !isFinite x || !isFinite y || !isFinite z then none else some (b.extend x y z)

def boundsOf (positions : List UInt32) (vertexCount : ℕ) : Option LocalBounds :=
  let x := positions.getD 0 0
  let y := positions.getD 1 0
  let z := positions.getD 2 0
  extendBounds positions vertexCount ⟨x, y, z, x, y, z⟩

/-- `SamePersistentGpuPackageImmutableProof`. -/
def samePersistentGpuPackageImmutableProof (lhs rhs : ImmutableProof) : Bool :=
  { lhs with bounds := rhs.bounds } = rhs && sameLocalBounds lhs.bounds rhs.bounds

/-- `CheckedBytes`. -/
def checkedBytes (count stride : ℕ) : Option ℕ :=
  if stride ≠ 0 ∧ count > 0xffffffff / stride then none else some (count * stride)

variable (digest : Digest)

/-- `HashBytes`. -/
def hashBytes (data : Bytes) : UInt64 := digest kPersistentGpuPackageContentHashSeed data

def hashPrimitiveInto (aggregate : UInt64) (p : PrimitiveProof) : UInt64 :=
  [putLe p.indexContentHash, leBytes 4 p.ordinal, leBytes 4 p.primitiveTypeOrMaterialSlot,
    leBytes 4 p.firstIndex, leBytes 4 p.indexCount, leBytes 4 p.minVertex,
    leBytes 4 p.maxVertex].foldl digest aggregate

def minIndex (first : UInt16) (rest : List UInt16) : ℕ :=
  rest.foldl (fun least i => min least i.toNat) first.toNat

def maxIndex (first : UInt16) (rest : List UInt16) : ℕ :=
  rest.foldl (fun greatest i => max greatest i.toNat) first.toNat

def indexBytes (indices : List UInt16) : Bytes := indices.flatMap putLe

/-- The proof of the primitive with these indices, which exist and are all below the number of
vertices. -/
def buildPrimitiveProof (record : ShadowGeosetResourceRecord) (ordinal firstIndex : ℕ)
    (primitive : PrimitiveRecord) : Option PrimitiveProof :=
  if primitive.indexCount = 0 ∨ record.indexCount < firstIndex ∨
      record.indexCount - firstIndex < primitive.indexCount then
    none
  else
    match slice firstIndex primitive.indexCount record.indices with
    | [] => none
    | first :: rest =>
      let contentHash := hashBytes digest (indexBytes (first :: rest))
      if maxIndex first rest ≥ record.vertexCount ∨ contentHash = 0 then
        none
      else
        some {
          indexContentHash := contentHash
          ordinal := ordinal
          primitiveTypeOrMaterialSlot := primitive.primitiveTypeOrMaterialSlot
          firstIndex := firstIndex
          indexCount := primitive.indexCount
          minVertex := minIndex first rest
          maxVertex := maxIndex first rest }
where
  /-- `n` elements from a place on. -/
  slice (offset n : ℕ) (indices : List UInt16) : List UInt16 := (indices.drop offset).take n

/-- The loop over the primitives: their proofs, the index after the last one and the aggregate. -/
def buildPrimitiveProofs (record : ShadowGeosetResourceRecord) :
    List PrimitiveRecord → ℕ → ℕ → UInt64 → Option (List PrimitiveProof × ℕ × UInt64)
  | [], _, firstIndex, aggregate => some ([], firstIndex, aggregate)
  | primitive :: rest, ordinal, firstIndex, aggregate => do
    let proof ← buildPrimitiveProof digest record ordinal firstIndex primitive
    let (proofs, last, total) ← buildPrimitiveProofs record rest (ordinal + 1)
      (firstIndex + primitive.indexCount) (hashPrimitiveInto digest aggregate proof)
    return (proof :: proofs, last, total)

def countsAgree (record : ShadowGeosetResourceRecord) : Bool :=
  record.geosetDataPtr ≠ 0 && record.vertexCount ≠ 0 && record.immutableModelGeneration ≠ 0 &&
    record.immutableCaptureStatus = .complete && record.contentHash ≠ 0 &&
    record.normalCount = record.vertexCount && record.vertexGroupCount = record.vertexCount &&
    record.uvLayerCount ≤ 2 && record.uvLayers.length = record.uvLayerCount &&
    record.positions.length = record.vertexCount * 3 &&
    record.normals.length = record.vertexCount * 3 &&
    record.vertexGroupIndices.length = record.vertexCount &&
    record.primitiveCount ≠ 0 && record.primitiveRecords.length = record.primitiveCount &&
    record.indexCount ≠ 0 && record.indices.length = record.indexCount &&
    record.matrixGroupCount ≠ 0 && record.matrixGroupSizes.length = record.matrixGroupCount &&
    record.matrixIndices.length = record.matrixIndexCount &&
    record.uvLayers.all (fun uv =>
      uv.uvCount = record.vertexCount && uv.uvPairs.length = record.vertexCount * 2) &&
    record.matrixGroupSizes.all (· ≠ 0) &&
    (record.matrixGroupSizes.map UInt32.toNat).sum = record.matrixIndexCount

/-- The floats other than the positions are finite, and the groups of the vertices exist. -/
def streamsAgree (record : ShadowGeosetResourceRecord) : Bool :=
  record.normals.all isFinite && record.uvLayers.all (fun uv => uv.uvPairs.all isFinite) &&
    record.vertexGroupIndices.all (fun group => group.toNat < record.matrixGroupCount)

def floatBytes (floats : List UInt32) : Bytes := floats.flatMap putLe

def uvContentHash (record : ShadowGeosetResourceRecord) (layer : ℕ) : UInt64 :=
  match record.uvLayers[layer]? with
  | some uv => hashBytes digest (floatBytes uv.uvPairs)
  | none => 0

/-- `BuildPersistentGpuPackageImmutableProof`. -/
def buildPersistentGpuPackageImmutableProof (record : ShadowGeosetResourceRecord) :
    Option (ImmutableProof × List PrimitiveProof) := do
  guard (countsAgree record)
  let positionBytes ← checkedBytes record.vertexCount 12
  let normalBytes ← checkedBytes record.vertexCount 12
  let groupBytes ← checkedBytes record.vertexCount 1
  let uvBytes ← checkedBytes record.vertexCount 8
  let groupEnd := positionBytes + normalBytes + groupBytes
  let texcoord0Offset := (groupEnd + 3) / 4 * 4
  let staticByteSize := texcoord0Offset + uvBytes * record.uvLayerCount
  guard (texcoord0Offset ≤ 0xffffffff ∧ texcoord0Offset + uvBytes ≤ 0xffffffff ∧
    staticByteSize ≤ 0xffffffff)
  guard (streamsAgree record)
  let positionContentHash := hashBytes digest (floatBytes record.positions)
  let normalContentHash := hashBytes digest (floatBytes record.normals)
  let vertexGroupContentHash := hashBytes digest record.vertexGroupIndices
  let indexContentHash := hashBytes digest (indexBytes record.indices)
  guard (positionContentHash ≠ 0 ∧ normalContentHash ≠ 0 ∧ vertexGroupContentHash ≠ 0 ∧
    indexContentHash ≠ 0)
  let (primitiveProofs, last, aggregate) ← buildPrimitiveProofs digest record
    record.primitiveRecords 0 0 kPersistentGpuPackageContentHashSeed
  guard (last = record.indexCount ∧ aggregate ≠ 0)
  let bounds ← boundsOf record.positions record.vertexCount
  let localBoundsHash := hashBytes digest bounds.bytes
  guard (localBoundsHash ≠ 0 ∧ primitiveProofs.length ≠ 0)
  return ({
    immutableModelGeneration := record.immutableModelGeneration
    contentHash := record.contentHash
    positionContentHash := positionContentHash
    normalContentHash := normalContentHash
    vertexGroupContentHash := vertexGroupContentHash
    uv0ContentHash := uvContentHash digest record 0
    uv1ContentHash := uvContentHash digest record 1
    indexContentHash := indexContentHash
    matrixGroupContentHash := hashBytes digest (floatBytes record.matrixGroupSizes)
    matrixIndexContentHash :=
      if record.matrixIndices.isEmpty then 0 else hashBytes digest (floatBytes record.matrixIndices)
    primitiveProofHash := aggregate
    localBoundsHash := localBoundsHash
    layoutGeneration := kPersistentGpuPackageStaticLayoutGeneration
    vertexCount := record.vertexCount
    indexCount := record.indexCount
    uvLayerCount := record.uvLayerCount
    primitiveProofCount := primitiveProofs.length
    matrixGroupCount := record.matrixGroupCount
    matrixIndexCount := record.matrixIndexCount
    maxVertexGroupSlot := record.vertexGroupIndices.foldl (fun slot g => max slot g.toNat) 0
    positionOffset := 0
    normalOffset := positionBytes
    groupSlotOffset := positionBytes + normalBytes
    texcoord0Offset := texcoord0Offset
    texcoord1Offset := texcoord0Offset + uvBytes
    staticByteSize := staticByteSize
    bounds := bounds }, primitiveProofs)

/-- `std::memcpy` into a blob. -/
def copyInto (offset : ℕ) (data blob : Bytes) : Bytes :=
  blob.take offset ++ data ++ blob.drop (offset + data.length)

/-- The bytes that `createStaticResource` packs for a record and its proof. -/
def packBytes (record : ShadowGeosetResourceRecord) (proof : ImmutableProof)
    (indexRelativeOffset packageBytes : ℕ) : Bytes :=
  let blob := List.replicate packageBytes (0 : UInt8)
  let blob := copyInto proof.positionOffset (floatBytes record.positions) blob
  let blob := copyInto proof.normalOffset (floatBytes record.normals) blob
  let blob := copyInto proof.groupSlotOffset record.vertexGroupIndices blob
  let blob := match record.uvLayers[0]? with
    | some uv => copyInto proof.texcoord0Offset (floatBytes uv.uvPairs) blob
    | none => blob
  let blob := match record.uvLayers[1]? with
    | some uv => copyInto proof.texcoord1Offset (floatBytes uv.uvPairs) blob
    | none => blob
  copyInto indexRelativeOffset (indexBytes record.indices) blob

/-- The loop of the check over the primitives' proofs: the index after the last one and the
aggregate. -/
def validatePrimitiveProofs (proof : ImmutableProof) (indices : List UInt16) :
    List PrimitiveProof → ℕ → UInt64 → Option (ℕ × UInt64)
  | [], expected, aggregate => some (expected, aggregate)
  | p :: rest, expected, aggregate =>
    if p.firstIndex ≠ expected ∨ p.indexCount = 0 ∨ p.indexCount > proof.indexCount - expected then
      none
    else
      match (indices.drop p.firstIndex).take p.indexCount with
      | [] => none
      | first :: others =>
        if minIndex first others ≠ p.minVertex ∨ maxIndex first others ≠ p.maxVertex ∨
            maxIndex first others ≥ proof.vertexCount ∨
            hashBytes digest (indexBytes (first :: others)) ≠ p.indexContentHash then
          none
        else
          validatePrimitiveProofs proof indices rest (expected + p.indexCount)
            (hashPrimitiveInto digest aggregate p)

def packedRangesAgree (packageByteCount indexRelativeOffset : ℕ) (proof : ImmutableProof)
    (primitiveProofs : List PrimitiveProof) : Bool :=
  let positionBytes := proof.vertexCount * 12
  let uvBytes := proof.vertexCount * 8
  let indexByteCount := proof.indexCount * 2
  packageByteCount ≠ 0 &&
    proof.layoutGeneration = kPersistentGpuPackageStaticLayoutGeneration &&
    proof.vertexCount ≠ 0 && proof.indexCount ≠ 0 &&
    primitiveProofs.length = proof.primitiveProofCount &&
    proof.staticByteSize ≤ indexRelativeOffset && indexRelativeOffset % 2 = 0 &&
    proof.positionOffset = 0 && proof.normalOffset = positionBytes &&
    proof.groupSlotOffset = positionBytes + positionBytes &&
    proof.groupSlotOffset + proof.vertexCount ≤ proof.texcoord0Offset &&
    proof.texcoord1Offset = proof.texcoord0Offset + uvBytes &&
    proof.staticByteSize = proof.texcoord0Offset + uvBytes * proof.uvLayerCount &&
    indexRelativeOffset ≤ packageByteCount &&
    indexByteCount ≤ packageByteCount - indexRelativeOffset &&
    indexRelativeOffset + indexByteCount = packageByteCount

/-- The digests of the streams in the package, and the zeros between them. -/
def packedStreamsAgree (bytes : Bytes) (indexRelativeOffset : ℕ) (proof : ImmutableProof) : Bool :=
  let positionBytes := proof.vertexCount * 12
  let uvBytes := proof.vertexCount * 8
  let groupEnd := proof.groupSlotOffset + proof.vertexCount
  hashBytes digest (slice proof.positionOffset positionBytes bytes) = proof.positionContentHash &&
    hashBytes digest (slice proof.normalOffset positionBytes bytes) = proof.normalContentHash &&
    hashBytes digest (slice proof.groupSlotOffset proof.vertexCount bytes) =
      proof.vertexGroupContentHash &&
    hashBytes digest (slice indexRelativeOffset (proof.indexCount * 2) bytes) =
      proof.indexContentHash &&
    (proof.uvLayerCount < 1 ||
      hashBytes digest (slice proof.texcoord0Offset uvBytes bytes) = proof.uv0ContentHash) &&
    (proof.uvLayerCount < 2 ||
      hashBytes digest (slice proof.texcoord1Offset uvBytes bytes) = proof.uv1ContentHash) &&
    (slice groupEnd (proof.texcoord0Offset - groupEnd) bytes).all (· = 0) &&
    (slice proof.staticByteSize (indexRelativeOffset - proof.staticByteSize) bytes).all (· = 0)

def readWords (W : Type) [LeWord W] (offset count : ℕ) (bytes : Bytes) : List W :=
  (List.range count).map fun i => getLe W (offset + LeWord.width W * i) bytes

/-- `ValidatePersistentGpuPackagePackedBytes`. -/
def validatePersistentGpuPackagePackedBytes (bytes : Bytes) (indexRelativeOffset : ℕ)
    (proof : ImmutableProof) (primitiveProofs : List PrimitiveProof) : Bool :=
  packedRangesAgree bytes.length indexRelativeOffset proof primitiveProofs &&
    packedStreamsAgree digest bytes indexRelativeOffset proof &&
    (match boundsOf (readWords UInt32 proof.positionOffset (proof.vertexCount * 3) bytes)
        proof.vertexCount with
    | none => false
    | some bounds =>
      hashBytes digest bounds.bytes = proof.localBoundsHash &&
        sameLocalBounds bounds proof.bounds) &&
    (match validatePrimitiveProofs digest proof
        (readWords UInt16 indexRelativeOffset proof.indexCount bytes) primitiveProofs 0
        kPersistentGpuPackageContentHashSeed with
    | none => false
    | some (expected, aggregate) =>
      expected = proof.indexCount && aggregate = proof.primitiveProofHash)

end War3VK.GpuSkin
