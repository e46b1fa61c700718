import War3VK.GpuSkin.PackageValidation
import War3VK.Lib.Reads

/-!
# The check of packed bytes reads in bounds

`ValidatePersistentGpuPackagePackedBytes` again, in the order of the source and with reads that can
leave the package (`validateReads`). Whatever the bytes, the header and the primitives are, it ends
as the check does (`validateReads_eq`): no read leaves the package.
-/

namespace War3VK.GpuSkin

open War3VK.Lib

def readWordsIn (W : Type) [LeWord W] (offset count : ℕ) (bytes : Bytes) :
    Except Stop (List W) :=
  if offset + LeWord.width W * count ≤ bytes.length then .ok (readWords W offset count bytes)
  else .error .outOfBounds

variable (digest : Digest) (bytes : Bytes)

def expectDigest (stream : PackedStream) : Except Stop Unit := do
  let data ← readRange stream.offset stream.size bytes
  expect (hashBytes digest data = stream.contentHash)

/-- The digest of a layer, which is not read when the header does not count it. -/
def expectLayer (uvLayerCount layer : ℕ) (stream : PackedStream) : Except Stop Unit :=
  if uvLayerCount < layer then .ok () else expectDigest digest bytes stream

def expectZeros (first last : ℕ) : Except Stop Unit := do
  let padding ← readRange first (last - first) bytes
  expect (padding.all (· = 0))

def streamsReads (indexRelativeOffset : ℕ) (proof : ImmutableProof) : Except Stop Unit := do
  let positionBytes := proof.vertexCount * 12
  let uvBytes := proof.vertexCount * 8
  expectDigest digest bytes ⟨proof.positionOffset, positionBytes, proof.positionContentHash⟩
  expectDigest digest bytes ⟨proof.normalOffset, positionBytes, proof.normalContentHash⟩
  expectDigest digest bytes
    ⟨proof.groupSlotOffset, proof.vertexCount, proof.vertexGroupContentHash⟩
  expectDigest digest bytes ⟨indexRelativeOffset, proof.indexCount * 2, proof.indexContentHash⟩
  expectLayer digest bytes proof.uvLayerCount 1
    ⟨proof.texcoord0Offset, uvBytes, proof.uv0ContentHash⟩
  expectLayer digest bytes proof.uvLayerCount 2
    ⟨proof.texcoord1Offset, uvBytes, proof.uv1ContentHash⟩
  expectZeros bytes (proof.groupSlotOffset + proof.vertexCount) proof.texcoord0Offset
  expectZeros bytes proof.staticByteSize indexRelativeOffset

/-- The loop over the vertices, which reads three floats in each turn. -/
def extendBoundsReads (offset : ℕ) : ℕ → LocalBounds → Except Stop LocalBounds
  | 0, b => .ok b
  | n + 1, b => do
    let b ← extendBoundsReads offset n b
    let x ← readWord UInt32 (offset + 4 * (n * 3)) bytes
    let y ← readWord UInt32 (offset + 4 * (n * 3 + 1)) bytes
    let z ← readWord UInt32 (offset + 4 * (n * 3 + 2)) bytes
    expect (isFinite x && isFinite y && isFinite z)
    return b.extend x y z

/-- The bounds of the positions in the package, against those of the header. -/
def boundsReads (proof : ImmutableProof) : Except Stop Unit := do
  let x ← readWord UInt32 proof.positionOffset bytes
  let y ← readWord UInt32 (proof.positionOffset + 4) bytes
  let z ← readWord UInt32 (proof.positionOffset + 8) bytes
  let bounds ← extendBoundsReads bytes proof.positionOffset proof.vertexCount ⟨x, y, z, x, y, z⟩
  expect (hashBytes digest bounds.bytes = proof.localBoundsHash &&
    sameLocalBounds bounds proof.bounds)

def primitivesReads (indexRelativeOffset : ℕ) (proof : ImmutableProof) :
    List PrimitiveProof → ℕ → UInt64 → Except Stop (ℕ × UInt64)
  | [], expected, aggregate => .ok (expected, aggregate)
  | p :: rest, expected, aggregate =>
    if p.firstIndex ≠ expected ∨ p.indexCount = 0 ∨ p.indexCount > proof.indexCount - expected then
      .error .rejected
    else do
      let indices ← readWordsIn UInt16 (indexRelativeOffset + 2 * p.firstIndex) p.indexCount bytes
      match indices with
      | [] => .error .rejected
      | first :: others =>
        if minIndex first others ≠ p.minVertex ∨ maxIndex first others ≠ p.maxVertex ∨
            maxIndex first others ≥ proof.vertexCount ∨
            hashBytes digest (indexBytes (first :: others)) ≠ p.indexContentHash then
          .error .rejected
        else
          primitivesReads indexRelativeOffset proof rest (expected + p.indexCount)
            (hashPrimitiveInto digest aggregate p)

/-- `ValidatePersistentGpuPackagePackedBytes` with reads that can leave the package. -/
def validateReads (indexRelativeOffset : ℕ) (proof : ImmutableProof)
    (primitiveProofs : List PrimitiveProof) : Except Stop Unit := do
  expect (packedRangesAgree bytes.length indexRelativeOffset proof primitiveProofs)
  streamsReads digest bytes indexRelativeOffset proof
  boundsReads digest bytes proof
  let (expected, aggregate) ← primitivesReads digest bytes indexRelativeOffset proof primitiveProofs
    0 kPersistentGpuPackageContentHashSeed
  expect (expected = proof.indexCount && aggregate = proof.primitiveProofHash)

variable {digest : Digest} {bytes : Bytes} {proof : ImmutableProof}
  {primitiveProofs : List PrimitiveProof} {indexRelativeOffset : ℕ}

theorem expectDigest_of_le {stream : PackedStream}
    (h : stream.offset + stream.size ≤ bytes.length) :
    expectDigest digest bytes stream =
      expect (hashBytes digest (slice stream.offset stream.size bytes) = stream.contentHash) := by
  rw [expectDigest, readRange_of_le h]
  rfl

theorem expectZeros_of_le {first last : ℕ} (hfirst : first ≤ last) (h : last ≤ bytes.length) :
    expectZeros bytes first last = expect ((slice first (last - first) bytes).all (· = 0)) := by
  rw [expectZeros, readRange_of_le (by omega)]
  rfl

theorem expectLayer_of_le {uvLayerCount layer : ℕ} {stream : PackedStream}
    (h : ¬uvLayerCount < layer → stream.offset + stream.size ≤ bytes.length) :
    expectLayer digest bytes uvLayerCount layer stream = expect (decide (uvLayerCount < layer) ||
        hashBytes digest (slice stream.offset stream.size bytes) = stream.contentHash) := by
  unfold expectLayer
  by_cases hlayer : uvLayerCount < layer
  · rw [if_pos hlayer, decide_eq_true hlayer]
    rfl
  · rw [if_neg hlayer, decide_eq_false hlayer, Bool.false_or, expectDigest_of_le (h hlayer)]

section

variable (h : RangesAgree bytes.length indexRelativeOffset proof primitiveProofs)
include h

theorem RangesAgree.static_le : proof.staticByteSize ≤ bytes.length := by
  have hbehind := h.behind
  have hend := h.packageEnd
  omega

theorem RangesAgree.texcoord_le : proof.texcoord0Offset ≤ proof.staticByteSize := by
  rw [h.staticByteSize]
  exact Nat.le_add_right _ _

theorem streamsReads_eq : streamsReads digest bytes indexRelativeOffset proof =
    expect (packedStreamsAgree digest bytes indexRelativeOffset proof) := by
  have hstatic := h.static_le
  have htexcoord := h.texcoord_le
  have hend := h.packageEnd
  -- Each stream of the header is inside the package.
  have hposition := @RangesAgree.inside _ _ _ _ h ⟨proof.positionOffset, proof.vertexCount * 12,
    proof.positionContentHash⟩ (by simp [packedStreams, vertexStreams])
  have hnormal := @RangesAgree.inside _ _ _ _ h ⟨proof.normalOffset, proof.vertexCount * 12,
    proof.normalContentHash⟩ (by simp [packedStreams, vertexStreams])
  have hgroup := @RangesAgree.inside _ _ _ _ h ⟨proof.groupSlotOffset, proof.vertexCount,
    proof.vertexGroupContentHash⟩ (by simp [packedStreams, vertexStreams])
  have hindex := @RangesAgree.inside _ _ _ _ h ⟨indexRelativeOffset, proof.indexCount * 2,
    proof.indexContentHash⟩ (by simp [packedStreams])
  have huv0 := fun hlayer : ¬proof.uvLayerCount < 1 => @RangesAgree.inside _ _ _ _ h
    ⟨proof.texcoord0Offset, proof.vertexCount * 8, proof.uv0ContentHash⟩
    (by simp [packedStreams, vertexStreams, hlayer])
  have huv1 := fun hlayer : ¬proof.uvLayerCount < 2 => @RangesAgree.inside _ _ _ _ h
    ⟨proof.texcoord1Offset, proof.vertexCount * 8, proof.uv1ContentHash⟩
    (by simp [packedStreams, vertexStreams, hlayer])
  unfold streamsReads
  dsimp only
  rw [expectDigest_of_le hposition, expectDigest_of_le hnormal, expectDigest_of_le hgroup,
    expectDigest_of_le hindex, expectLayer_of_le huv0, expectLayer_of_le huv1,
    expectZeros_of_le h.texcoord0Offset (htexcoord.trans hstatic),
    expectZeros_of_le h.behind (by omega)]
  simp only [expect_bind_expect]
  unfold packedStreamsAgree
  simp only [Bool.and_assoc]

end

theorem getD_readWords {W : Type} [LeWord W] [Inhabited W] {offset count i : ℕ} (hi : i < count)
    (w : W) :
    (readWords W offset count bytes).getD i w = getLe W (offset + LeWord.width W * i) bytes := by
  simp [readWords, List.getD_eq_getElem?_getD, hi]

theorem extendBoundsReads_eq {offset count n : ℕ} {b : LocalBounds}
    (hinside : offset + count * 12 ≤ bytes.length) (hn : n ≤ count) :
    extendBoundsReads bytes offset n b =
      require (extendBounds (readWords UInt32 offset (count * 3) bytes) n b) := by
  induction n with
  | zero => rfl
  | succ n ih =>
    rw [extendBoundsReads, ih (by omega), extendBounds]
    cases extendBounds (readWords UInt32 offset (count * 3) bytes) n b with
    | none => rfl
    | some before =>
      simp only [require, ok_bind, Option.bind_eq_bind, Option.bind_some]
      rw [readWord_of_le (by rw [width_uint32]; omega), readWord_of_le (by rw [width_uint32]; omega),
        readWord_of_le (by rw [width_uint32]; omega), getD_readWords (by omega),
        getD_readWords (by omega), getD_readWords (by omega), width_uint32]
      simp only [ok_bind]
      generalize getLe UInt32 (offset + 4 * (n * 3)) bytes = x
      generalize getLe UInt32 (offset + 4 * (n * 3 + 1)) bytes = y
      generalize getLe UInt32 (offset + 4 * (n * 3 + 2)) bytes = z
      cases isFinite x <;> cases isFinite y <;> cases isFinite z <;> rfl

theorem boundsReads_eq (h : RangesAgree bytes.length indexRelativeOffset proof primitiveProofs) :
    boundsReads digest bytes proof = expect
      ((boundsOf (readWords UInt32 proof.positionOffset (proof.vertexCount * 3) bytes)
        proof.vertexCount).elim false fun bounds =>
          decide (hashBytes digest bounds.bytes = proof.localBoundsHash) &&
            sameLocalBounds bounds proof.bounds) := by
  have hvertices := h.vertices
  have hinside := @RangesAgree.inside _ _ _ _ h ⟨proof.positionOffset, proof.vertexCount * 12,
    proof.positionContentHash⟩ (by simp [packedStreams, vertexStreams])
  dsimp only at hinside
  unfold boundsReads boundsOf
  rw [readWord_of_le (by rw [width_uint32]; omega), readWord_of_le (by rw [width_uint32]; omega),
    readWord_of_le (by rw [width_uint32]; omega)]
  simp only [ok_bind]
  rw [extendBoundsReads_eq hinside le_rfl, getD_readWords (by omega), getD_readWords (by omega),
    getD_readWords (by omega)]
  exact require_bind_expect _ _

theorem take_drop_readWords {W : Type} [LeWord W] {offset first count n : ℕ}
    (h : first + count ≤ n) :
    ((readWords W offset n bytes).drop first).take count =
      readWords W (offset + LeWord.width W * first) count bytes := by
  apply List.ext_getElem
  · simp only [readWords, List.length_take, List.length_drop, List.length_map, List.length_range]
    omega
  · intro i hi hi'
    simp only [readWords, List.getElem_take, List.getElem_drop, List.getElem_map, List.getElem_range]
    rw [Nat.mul_add, Nat.add_assoc]

theorem primitivesReads_eq {ps : List PrimitiveProof} {expected : ℕ} {aggregate : UInt64}
    (hinside : indexRelativeOffset + proof.indexCount * 2 ≤ bytes.length)
    (hexpected : expected ≤ proof.indexCount) :
    primitivesReads digest bytes indexRelativeOffset proof ps expected aggregate =
      require (validatePrimitiveProofs digest proof
        (readWords UInt16 indexRelativeOffset proof.indexCount bytes) ps expected aggregate) := by
  induction ps generalizing expected aggregate with
  | nil => rfl
  | cons p rest ih =>
    unfold primitivesReads validatePrimitiveProofs
    by_cases hplace : p.firstIndex ≠ expected ∨ p.indexCount = 0 ∨
        p.indexCount > proof.indexCount - expected
    · rw [if_pos hplace, if_pos hplace]
      rfl
    · rw [if_neg hplace, if_neg hplace]
      rw [not_or, not_or, not_not] at hplace
      obtain ⟨hfirst, -, hfits⟩ := hplace
      rw [readWordsIn, if_pos (by rw [width_uint16]; omega), take_drop_readWords (by omega),
        width_uint16, ok_bind]
      cases readWords UInt16 (indexRelativeOffset + 2 * p.firstIndex) p.indexCount bytes with
      | nil => rfl
      | cons first others =>
        dsimp only
        rw [require_ite_none, ih (by omega)]

theorem validateReads_eq : validateReads digest bytes indexRelativeOffset proof primitiveProofs =
    expect (validatePersistentGpuPackagePackedBytes digest bytes indexRelativeOffset proof
      primitiveProofs) := by
  unfold validateReads validatePersistentGpuPackagePackedBytes
  cases hranges : packedRangesAgree bytes.length indexRelativeOffset proof primitiveProofs with
  | false => rfl
  | true =>
    -- From here on every range is inside the package.
    have h := packedRangesAgree_iff.mp hranges
    rw [expect_true_bind, streamsReads_eq h, boundsReads_eq h,
      primitivesReads_eq (le_of_eq h.packageEnd) (Nat.zero_le _)]
    generalize packedStreamsAgree digest bytes indexRelativeOffset proof = streams
    cases boundsOf (readWords UInt32 proof.positionOffset (proof.vertexCount * 3) bytes)
        proof.vertexCount with
    | none => cases streams <;> rfl
    | some bounds =>
      simp only [Option.elim, Bool.true_and]
      generalize (decide (hashBytes digest bounds.bytes = proof.localBoundsHash) &&
        sameLocalBounds bounds proof.bounds) = same
      cases validatePrimitiveProofs digest proof
          (readWords UInt16 indexRelativeOffset proof.indexCount bytes) primitiveProofs 0
          kPersistentGpuPackageContentHashSeed with
      | none => cases streams <;> cases same <;> rfl
      | some result =>
        rw [require, ok_bind]
        simp only [expect_bind_expect, Bool.and_assoc]

/-! ## The builder, the packer and the check agree -/

structure BuiltLaw (digest : Digest) (record : ShadowGeosetResourceRecord) (proof : ImmutableProof)
    (primitiveProofs : List PrimitiveProof) : Prop where
  /-- The ranges of the header are those of the record's streams. -/
  ranges : (vertexPieces record proof).map (fun piece => (piece.1, piece.2.length)) =
    (vertexStreams proof).map fun stream => (stream.offset, stream.size)
  ordered : Ordered (vertexPieces record proof)
  inside : Inside proof.staticByteSize (vertexPieces record proof)
  staticFits : proof.staticByteSize ≤ 0xffffffff
  /-- So is the place of the second layer, whether the record has it or not. -/
  texcoordFits : proof.texcoord1Offset ≤ 0xffffffff
  indices : record.indices.length = record.indexCount
  tiles : Tiles primitiveProofs 0 record.indexCount
  partitioned : ∀ i < record.indexCount, ∃! p, p ∈ primitiveProofs ∧ p.Holds i
  /-- What is packed from the record is accepted, wherever the indices are put. -/
  accepted : ∀ indexRelativeOffset, proof.staticByteSize ≤ indexRelativeOffset →
    indexRelativeOffset % 2 = 0 →
    validatePersistentGpuPackagePackedBytes digest (packBytes record proof indexRelativeOffset
      (indexRelativeOffset + proof.indexCount * 2)) indexRelativeOffset proof primitiveProofs = true

structure CheckLaw (digest : Digest) (bytes : Bytes) (indexRelativeOffset : ℕ)
    (proof : ImmutableProof) (primitiveProofs : List PrimitiveProof) : Prop where
  exact : validatePersistentGpuPackagePackedBytes digest bytes indexRelativeOffset proof
    primitiveProofs = true ↔ Consistent digest bytes indexRelativeOffset proof primitiveProofs
  /-- The streams of what it accepts are inside the package. -/
  inside : Consistent digest bytes indexRelativeOffset proof primitiveProofs →
    ∀ stream ∈ packedStreams indexRelativeOffset proof, stream.offset + stream.size ≤ bytes.length
  ordered : Consistent digest bytes indexRelativeOffset proof primitiveProofs →
    (packedStreams indexRelativeOffset proof).Pairwise fun a b => a.offset + a.size ≤ b.offset
  /-- However it ends, it has not read outside of the package. -/
  reads : validateReads digest bytes indexRelativeOffset proof primitiveProofs =
    expect (validatePersistentGpuPackagePackedBytes digest bytes indexRelativeOffset proof
      primitiveProofs)

variable {record : ShadowGeosetResourceRecord}

theorem Built.ranges (h : Built digest record proof primitiveProofs) :
    (vertexPieces record proof).map (fun piece => (piece.1, piece.2.length)) =
      (vertexStreams proof).map fun stream => (stream.offset, stream.size) := by
  have hpositions := h.positions
  have hnormals := h.normals
  have hgroups := h.groups
  unfold vertexPieces vertexStreams layerPiece
  obtain ⟨h0, hcount0⟩ | ⟨uv0, h0, hcount0, hlen0⟩ := h.layer 0 <;>
    obtain ⟨h1, hcount1⟩ | ⟨uv1, h1, hcount1, hlen1⟩ := h.layer 1 <;>
    simp only [h0, h1, List.map_append, List.map_cons, List.map_nil, floatBytes_length]
  · rw [if_pos (by omega), if_pos (by omega), hpositions, hnormals, hgroups]
    simp [Nat.mul_assoc]
  · omega
  · rw [if_neg (by omega), if_pos (by omega), hpositions, hnormals, hgroups]
    simp only [floatBytes_length] at hlen0
    simp [Nat.mul_assoc, hlen0]
  · rw [if_neg (by omega), if_neg (by omega), hpositions, hnormals, hgroups]
    simp only [floatBytes_length] at hlen0 hlen1
    simp [Nat.mul_assoc, hlen0, hlen1]

theorem planPackage_built {cfg : StoreSetup} {s : PackageStore} {miss : QueuedStaticMiss}
    {plan : PackageStore.PackagePlan} (h : s.planPackage cfg miss = some plan) :
    buildPersistentGpuPackageImmutableProof cfg.digest miss.record.record =
      some (plan.proof, plan.primitiveProofs) := by
  simp only [PackageStore.planPackage, Option.bind_eq_bind, Option.bind_eq_some_iff,
    Option.pure_def, Option.some.injEq, Prod.exists] at h
  obtain ⟨proof, primitiveProofs, hbuild, -, -, -, -, -, -, -, -, -, -, -, -, -, -, rfl⟩ := h
  exact hbuild

theorem Built.validate (h : Built digest record proof primitiveProofs)
    (hstatic : proof.staticByteSize ≤ indexRelativeOffset)
    (haligned : indexRelativeOffset % 2 = 0) :
    validatePersistentGpuPackagePackedBytes digest (packBytes record proof indexRelativeOffset
      (indexRelativeOffset + proof.indexCount * 2)) indexRelativeOffset proof
      primitiveProofs = true :=
  validate_iff.mpr (h.consistent hstatic haligned (h.packed hstatic))

/-- The builder, the packer and the check agree: an accepted record has its streams in order and in
32 bits and its primitives tile its indices; what a plan of the store packs is accepted with the
proofs that were built; and the check, on any bytes, header and primitives, accepts exactly what is
consistent and reads nothing outside of the package. -/
theorem immutableLaw :
    (∀ digest record proof primitiveProofs, buildPersistentGpuPackageImmutableProof digest record =
      some (proof, primitiveProofs) → BuiltLaw digest record proof primitiveProofs) ∧
    (∀ (cfg : StoreSetup) (s : PackageStore) miss plan, s.planPackage cfg miss = some plan →
      buildPersistentGpuPackageImmutableProof cfg.digest miss.record.record =
        some (plan.proof, plan.primitiveProofs) ∧
      validatePersistentGpuPackagePackedBytes cfg.digest
        (packBytes miss.record.record plan.proof plan.indexRelativeOffset plan.packageBytes)
        plan.indexRelativeOffset plan.proof plan.primitiveProofs = true) ∧
    (∀ digest bytes indexRelativeOffset proof primitiveProofs,
      CheckLaw digest bytes indexRelativeOffset proof primitiveProofs) := by
  refine ⟨fun digest record proof primitiveProofs hbuild => ?_, fun cfg s miss plan hplan => ?_,
    fun digest bytes indexRelativeOffset proof primitiveProofs => ?_⟩
  · have h := build_spec hbuild
    obtain ⟨htiles, -, -, -⟩ := buildPrimitiveProofs_spec (Nat.zero_le _) h.primitives
    rw [← h.indexCount] at htiles
    exact {
      ranges := h.ranges
      ordered := h.vertexPieces_ordered
      inside := h.vertexPieces_inside
      staticFits := h.staticFits
      texcoordFits := h.texcoordFits
      indices := h.indexLength.trans h.indexCount.symm
      tiles := htiles
      partitioned := fun i hi => htiles.existsUnique (Nat.zero_le i) hi
      accepted := fun _ hstatic haligned => h.validate hstatic haligned }
  · have hbuild := planPackage_built hplan
    have hspec := PackageStore.planPackage_spec hplan
    have h := build_spec hbuild
    refine ⟨hbuild, ?_⟩
    rw [hspec.packageEnd, PackageStore.indexBytesOf, h.indexLength]
    exact h.validate hspec.indexBehind (Nat.mod_eq_zero_of_dvd hspec.indexAligned)
  · exact {
      exact := validate_iff
      inside := fun h _ hstream => h.ranges.inside hstream
      ordered := fun h => h.ranges.ordered
      reads := validateReads_eq }

/-! ## What the check does not look at -/

def pointRecord : ShadowGeosetResourceRecord where
  geosetDataPtr := 0x1000
  vertexCount := 1
  positions := [0, 0, 0]
  normalCount := 1
  normals := [0, 0, 0]
  vertexGroupCount := 1
  vertexGroupIndices := [0]
  uvLayerCount := 0
  uvLayers := []
  primitiveCount := 1
  primitiveRecords := [⟨0, 3⟩]
  indexCount := 3
  indices := [0, 0, 0]
  matrixGroupCount := 1
  matrixGroupSizes := [1]
  matrixIndexCount := 1
  matrixIndices := [0]
  contentHash := 7
  mapEpoch := 1
  immutableModelGeneration := 1
  immutableCaptureStatus := .complete

theorem Consistent.alter_matrix
    (h : Consistent digest bytes indexRelativeOffset proof primitiveProofs) (x : UInt64) :
    Consistent digest bytes indexRelativeOffset { proof with matrixGroupContentHash := x }
      primitiveProofs where
  ranges := by
    rw [← packedRangesAgree_iff]
    exact (packedRangesAgree_iff.mpr h.ranges :)
  digests := h.digests
  groupPadding := h.groupPadding
  indexPadding := h.indexPadding
  bounds := h.bounds
  tiles := h.tiles
  primitives := h.primitives
  aggregate := h.aggregate

/-- A digest of the header may disagree with the record and still be accepted: the matrix groups are
not packed, and the check looks at what is packed. -/
theorem altered_matrix_digest : ¬∀ digest record proof altered primitiveProofs,
    buildPersistentGpuPackageImmutableProof digest record = some (proof, primitiveProofs) →
    altered.matrixGroupContentHash ≠ hashBytes digest (floatBytes record.matrixGroupSizes) →
    validatePersistentGpuPackagePackedBytes digest
      (packBytes record proof proof.staticByteSize (proof.staticByteSize + proof.indexCount * 2))
      proof.staticByteSize altered primitiveProofs = false := by
  intro h
  have hbuilt : (buildPersistentGpuPackageImmutableProof continuePersistentGpuPackageContentHash
      pointRecord).isSome = true := by decide +kernel
  obtain ⟨⟨proof, primitiveProofs⟩, hbuild⟩ := Option.isSome_iff_exists.mp hbuilt
  have hstatic : proof.staticByteSize % 2 = 0 := by
    have heven : ((buildPersistentGpuPackageImmutableProof continuePersistentGpuPackageContentHash
      pointRecord).elim 0 fun built => built.1.staticByteSize) % 2 = 0 := by decide +kernel
    rwa [hbuild] at heven
  have haccepted := validate_iff.mp ((build_spec hbuild).validate le_rfl hstatic)
  have hzero : (0 : UInt64) ≠ hashBytes continuePersistentGpuPackageContentHash
      (floatBytes pointRecord.matrixGroupSizes) := by decide +kernel
  -- The altered digest is not looked at.
  have hrejected := h _ _ proof { proof with matrixGroupContentHash := 0 } primitiveProofs hbuild
    hzero
  rw [validate_iff.mpr (haccepted.alter_matrix 0)] at hrejected
  cases hrejected

end War3VK.GpuSkin
