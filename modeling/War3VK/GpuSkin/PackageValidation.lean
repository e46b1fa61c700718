import War3VK.GpuSkin.PackageStoreSpec

/-!
# Packing a geoset record

What an accepted record is worth: its streams have their places in the package one after the other
(`Built.layout`), its primitives tile the indices (`Tiles`), and the bytes that are packed from it
carry each stream at its place with zeros between them (`Packed`), so that the check of packed bytes
accepts them (`Built.validate`).
-/

namespace War3VK.GpuSkin

open War3VK.Lib

variable {digest : Digest} {record : ShadowGeosetResourceRecord} {proof : ImmutableProof}
  {primitiveProofs : List PrimitiveProof}

/-! ## Tiles -/

/-- The primitives take the indices from `first` to `last` one after the other, none empty. -/
def Tiles : List PrimitiveProof → ℕ → ℕ → Prop
  | [], first, last => first = last
  | p :: rest, first, last =>
    p.firstIndex = first ∧ 0 < p.indexCount ∧ Tiles rest (first + p.indexCount) last

def PrimitiveProof.Holds (p : PrimitiveProof) (i : ℕ) : Prop :=
  p.firstIndex ≤ i ∧ i < p.firstIndex + p.indexCount

variable {ps : List PrimitiveProof} {first : ℕ}

theorem Tiles.le {last : ℕ} (h : Tiles ps first last) : first ≤ last := by
  induction ps generalizing first with
  | nil => exact le_of_eq h
  | cons p rest ih =>
    obtain ⟨-, -, hrest⟩ := h
    have := ih hrest
    omega

theorem Tiles.bounded {last : ℕ} (h : Tiles ps first last) {p : PrimitiveProof} (hp : p ∈ ps) :
    first ≤ p.firstIndex ∧ 0 < p.indexCount ∧ p.firstIndex + p.indexCount ≤ last := by
  induction ps generalizing first with
  | nil => simp at hp
  | cons head rest ih =>
    obtain ⟨hfirst, hpos, hrest⟩ := h
    obtain rfl | hp := List.mem_cons.mp hp
    · have := hrest.le
      omega
    · have := ih hrest hp
      omega

theorem Tiles.existsUnique {last : ℕ} (h : Tiles ps first last) {i : ℕ} (hfirst : first ≤ i)
    (hlast : i < last) : ∃! p, p ∈ ps ∧ p.Holds i := by
  induction ps generalizing first with
  | nil =>
    have : first = last := h
    omega
  | cons p rest ih =>
    obtain ⟨hp, hpos, hrest⟩ := h
    by_cases hi : i < first + p.indexCount
    · -- The index belongs to the first tile, and the others begin behind it.
      refine ⟨p, ⟨by simp, by unfold PrimitiveProof.Holds; omega⟩, ?_⟩
      rintro other ⟨hother, hholds⟩
      obtain rfl | hother := List.mem_cons.mp hother
      · rfl
      · have hbehind := hrest.bounded hother
        unfold PrimitiveProof.Holds at hholds
        omega
    · obtain ⟨other, ⟨hother, hholds⟩, hunique⟩ := ih hrest (by omega)
      refine ⟨other, ⟨by simp [hother], hholds⟩, ?_⟩
      rintro third ⟨hthird, hthirdHolds⟩
      obtain rfl | hthird := List.mem_cons.mp hthird
      · unfold PrimitiveProof.Holds at hthirdHolds
        omega
      · exact hunique third ⟨hthird, hthirdHolds⟩

/-! ## What an accepted record has been checked for -/

/-- A record that was accepted, with its proof and the proofs of its primitives. -/
structure Built (digest : Digest) (record : ShadowGeosetResourceRecord) (proof : ImmutableProof)
    (primitiveProofs : List PrimitiveProof) : Prop where
  vertices : 0 < proof.vertexCount
  indices : 0 < proof.indexCount
  positions : record.positions.length = proof.vertexCount * 3
  normals : record.normals.length = proof.vertexCount * 3
  groups : record.vertexGroupIndices.length = proof.vertexCount
  layers : record.uvLayers.length = proof.uvLayerCount
  twoLayers : proof.uvLayerCount ≤ 2
  uvPairs : ∀ uv ∈ record.uvLayers, uv.uvPairs.length = proof.vertexCount * 2
  indexLength : record.indices.length = proof.indexCount
  indexCount : record.indexCount = proof.indexCount
  vertexCount : record.vertexCount = proof.vertexCount
  positionOffset : proof.positionOffset = 0
  normalOffset : proof.normalOffset = proof.vertexCount * 12
  groupSlotOffset : proof.groupSlotOffset = proof.vertexCount * 24
  /-- The first layer follows on the next multiple of four. -/
  texcoord0Offset : proof.texcoord0Offset = (proof.vertexCount * 25 + 3) / 4 * 4
  texcoord1Offset : proof.texcoord1Offset = proof.texcoord0Offset + proof.vertexCount * 8
  staticByteSize : proof.staticByteSize =
    proof.texcoord0Offset + proof.vertexCount * 8 * proof.uvLayerCount
  texcoordFits : proof.texcoord1Offset ≤ 0xffffffff
  staticFits : proof.staticByteSize ≤ 0xffffffff
  layoutGeneration : proof.layoutGeneration = kPersistentGpuPackageStaticLayoutGeneration
  positionContentHash : proof.positionContentHash = hashBytes digest (floatBytes record.positions)
  normalContentHash : proof.normalContentHash = hashBytes digest (floatBytes record.normals)
  vertexGroupContentHash :
    proof.vertexGroupContentHash = hashBytes digest record.vertexGroupIndices
  uv0ContentHash : proof.uv0ContentHash = uvContentHash digest record 0
  uv1ContentHash : proof.uv1ContentHash = uvContentHash digest record 1
  indexContentHash : proof.indexContentHash = hashBytes digest (indexBytes record.indices)
  primitives : buildPrimitiveProofs digest record record.primitiveRecords 0 0
    kPersistentGpuPackageContentHashSeed =
      some (primitiveProofs, proof.indexCount, proof.primitiveProofHash)
  primitiveProofCount : primitiveProofs.length = proof.primitiveProofCount
  bounds : boundsOf record.positions proof.vertexCount = some proof.bounds
  localBoundsHash : proof.localBoundsHash = hashBytes digest proof.bounds.bytes

theorem checkedBytes_eq_some {count stride total : ℕ} (h : checkedBytes count stride = some total) :
    total = count * stride := by
  unfold checkedBytes at h
  split at h
  · cases h
  · exact (Option.some.inj h).symm

theorem build_spec (h : buildPersistentGpuPackageImmutableProof digest record =
    some (proof, primitiveProofs)) : Built digest record proof primitiveProofs := by
  simp only [buildPersistentGpuPackageImmutableProof, Option.bind_eq_bind,
    Option.bind_eq_some_iff, Option.guard_eq_some', Option.pure_def, Option.some.injEq,
    Prod.exists] at h
  obtain ⟨-, hcounts, positionBytes, hposition, normalBytes, hnormal, groupBytes, hgroup, uvBytes,
    huv, -, hfits, -, -, -, -, proofs, last, aggregate, hprimitives, -, ⟨rfl, -⟩, bounds, hbounds,
    -, -, hproof⟩ := h
  obtain ⟨rfl, rfl⟩ := Prod.mk.inj hproof
  obtain rfl := checkedBytes_eq_some hposition
  obtain rfl := checkedBytes_eq_some hnormal
  obtain rfl := checkedBytes_eq_some hgroup
  obtain rfl := checkedBytes_eq_some huv
  simp only [countsAgree, Bool.and_eq_true, decide_eq_true_eq, List.all_eq_true, ne_eq,
    and_assoc] at hcounts
  obtain ⟨-, hvertices, -, -, -, -, -, htwo, hlayers, hpositions, hnormals, hgroups, -, -, hindices,
    hindexLength, -, -, -, huvPairs, -⟩ := hcounts
  obtain ⟨-, htexcoord, hstatic⟩ := hfits
  exact {
    vertices := Nat.pos_of_ne_zero hvertices
    indices := Nat.pos_of_ne_zero hindices
    positions := hpositions
    normals := hnormals
    groups := hgroups
    layers := hlayers
    twoLayers := htwo
    uvPairs := fun uv huv => (huvPairs uv huv).2
    indexLength := hindexLength
    indexCount := rfl
    vertexCount := rfl
    positionOffset := rfl
    normalOffset := rfl
    groupSlotOffset := by dsimp only; omega
    texcoord0Offset := by dsimp only; omega
    texcoord1Offset := rfl
    staticByteSize := rfl
    texcoordFits := htexcoord
    staticFits := hstatic
    layoutGeneration := rfl
    positionContentHash := rfl
    normalContentHash := rfl
    vertexGroupContentHash := rfl
    uv0ContentHash := rfl
    uv1ContentHash := rfl
    indexContentHash := rfl
    primitives := hprimitives
    primitiveProofCount := rfl
    bounds := hbounds
    localBoundsHash := rfl }

/-! ## The layout -/

@[simp]
theorem floatBytes_length (floats : List UInt32) :
    (floatBytes floats).length = floats.length * 4 := by
  simp [floatBytes]

@[simp]
theorem indexBytes_length (indices : List UInt16) :
    (indexBytes indices).length = indices.length * 2 := by
  simp [indexBytes]

theorem Built.layer (h : Built digest record proof primitiveProofs) (layer : ℕ) :
    (record.uvLayers[layer]? = none ∧ proof.uvLayerCount ≤ layer) ∨
    ∃ uv, record.uvLayers[layer]? = some uv ∧ layer < proof.uvLayerCount ∧
      (floatBytes uv.uvPairs).length = proof.vertexCount * 8 := by
  rw [← h.layers]
  cases hlayer : record.uvLayers[layer]? with
  | none => exact .inl ⟨rfl, List.getElem?_eq_none_iff.mp hlayer⟩
  | some uv =>
    obtain ⟨hlt, hget⟩ := List.getElem?_eq_some_iff.mp hlayer
    refine .inr ⟨uv, rfl, hlt, ?_⟩
    have hpairs := h.uvPairs uv (hget ▸ List.getElem_mem hlt)
    rw [floatBytes_length, hpairs]
    omega
theorem Built.layer_end (h : Built digest record proof primitiveProofs) {layer : ℕ}
    (hlayer : layer < proof.uvLayerCount) :
    proof.texcoord0Offset + proof.vertexCount * 8 * layer + proof.vertexCount * 8 ≤
      proof.staticByteSize := by
  have hle : proof.vertexCount * 8 * (layer + 1) ≤ proof.vertexCount * 8 * proof.uvLayerCount :=
    Nat.mul_le_mul_left _ hlayer
  rw [h.staticByteSize, Nat.add_assoc, ← Nat.mul_succ]
  exact Nat.add_le_add_left hle _

def layerPiece (record : ShadowGeosetResourceRecord) (layer offset : ℕ) : List Piece :=
  match record.uvLayers[layer]? with
  | some uv => [(offset, floatBytes uv.uvPairs)]
  | none => []

def vertexPieces (record : ShadowGeosetResourceRecord) (proof : ImmutableProof) : List Piece :=
  [(proof.positionOffset, floatBytes record.positions),
    (proof.normalOffset, floatBytes record.normals),
    (proof.groupSlotOffset, record.vertexGroupIndices)] ++
  layerPiece record 0 proof.texcoord0Offset ++ layerPiece record 1 proof.texcoord1Offset

def packedPieces (record : ShadowGeosetResourceRecord) (proof : ImmutableProof)
    (indexRelativeOffset : ℕ) : List Piece :=
  vertexPieces record proof ++ [(indexRelativeOffset, indexBytes record.indices)]

theorem packBytes_eq (indexRelativeOffset packageBytes : ℕ) :
    packBytes record proof indexRelativeOffset packageBytes =
      overwriteAll (packedPieces record proof indexRelativeOffset)
        (List.replicate packageBytes 0) := by
  unfold packBytes packedPieces vertexPieces layerPiece
  cases record.uvLayers[0]? <;> cases record.uvLayers[1]? <;> rfl

theorem Built.vertexPieces_ordered (h : Built digest record proof primitiveProofs) :
    Ordered (vertexPieces record proof) := by
  have hpos := h.positions
  have hnor := h.normals
  have hgro := h.groups
  have hoff := h.positionOffset
  have hoffN := h.normalOffset
  have hoffG := h.groupSlotOffset
  have hoff0 := h.texcoord0Offset
  have hoff1 := h.texcoord1Offset
  unfold Ordered vertexPieces layerPiece
  obtain ⟨h0, -⟩ | ⟨uv0, h0, -, hlen0⟩ := h.layer 0 <;>
    obtain ⟨h1, -⟩ | ⟨uv1, h1, -, hlen1⟩ := h.layer 1 <;>
    simp only [h0, h1, List.cons_append, List.nil_append, List.append_nil, List.pairwise_cons,
      List.mem_cons, List.not_mem_nil, forall_eq_or_imp, or_false, forall_eq, floatBytes_length,
      IsEmpty.forall_iff, implies_true, List.Pairwise.nil, and_true] at * <;>
    omega

theorem Built.vertexPieces_inside (h : Built digest record proof primitiveProofs) :
    Inside proof.staticByteSize (vertexPieces record proof) := by
  have hpos := h.positions
  have hnor := h.normals
  have hgro := h.groups
  have hoff := h.positionOffset
  have hoffN := h.normalOffset
  have hoffG := h.groupSlotOffset
  have hoff0 := h.texcoord0Offset
  have hoff1 := h.texcoord1Offset
  have hstatic : proof.texcoord0Offset ≤ proof.staticByteSize := by
    rw [h.staticByteSize]
    exact Nat.le_add_right _ _
  intro piece hpiece
  simp only [vertexPieces, layerPiece, List.cons_append, List.nil_append, List.mem_cons,
    List.mem_append] at hpiece
  obtain rfl | rfl | rfl | hpiece | hpiece := hpiece
  · simp only [floatBytes_length]
    omega
  · simp only [floatBytes_length]
    omega
  · dsimp only
    omega
  · obtain ⟨h0, -⟩ | ⟨uv, h0, hlt, hlen⟩ := h.layer 0
    · simp [h0] at hpiece
    · have := h.layer_end hlt
      rw [h0, List.mem_singleton] at hpiece
      subst hpiece
      dsimp only
      omega
  · obtain ⟨h1, -⟩ | ⟨uv, h1, hlt, hlen⟩ := h.layer 1
    · simp [h1] at hpiece
    · have := h.layer_end hlt
      rw [h1, List.mem_singleton] at hpiece
      subst hpiece
      dsimp only
      omega

/-! ## The packed bytes -/

/-- Bytes that carry the streams of a record, the indices at an offset, and zeros between. -/
structure Packed (record : ShadowGeosetResourceRecord) (proof : ImmutableProof)
    (indexRelativeOffset : ℕ) (bytes : Bytes) : Prop where
  length : bytes.length = indexRelativeOffset + proof.indexCount * 2
  positions :
    slice proof.positionOffset (proof.vertexCount * 12) bytes = floatBytes record.positions
  normals : slice proof.normalOffset (proof.vertexCount * 12) bytes = floatBytes record.normals
  groups : slice proof.groupSlotOffset proof.vertexCount bytes = record.vertexGroupIndices
  uv0 : ∀ uv, record.uvLayers[0]? = some uv →
    slice proof.texcoord0Offset (proof.vertexCount * 8) bytes = floatBytes uv.uvPairs
  uv1 : ∀ uv, record.uvLayers[1]? = some uv →
    slice proof.texcoord1Offset (proof.vertexCount * 8) bytes = floatBytes uv.uvPairs
  indices : slice indexRelativeOffset (proof.indexCount * 2) bytes = indexBytes record.indices
  groupPadding : ∀ b ∈ slice (proof.groupSlotOffset + proof.vertexCount)
    (proof.texcoord0Offset - (proof.groupSlotOffset + proof.vertexCount)) bytes, b = 0
  indexPadding : ∀ b ∈ slice proof.staticByteSize (indexRelativeOffset - proof.staticByteSize)
    bytes, b = 0

section

variable {indexRelativeOffset : ℕ}

theorem Built.packedPieces_ordered (h : Built digest record proof primitiveProofs)
    (hstatic : proof.staticByteSize ≤ indexRelativeOffset) :
    Ordered (packedPieces record proof indexRelativeOffset) := by
  refine List.pairwise_append.mpr ⟨h.vertexPieces_ordered, List.pairwise_singleton _ _, ?_⟩
  intro piece hpiece last hlast
  rw [List.mem_singleton] at hlast
  subst hlast
  exact (h.vertexPieces_inside piece hpiece).trans hstatic

theorem Built.packedPieces_inside (h : Built digest record proof primitiveProofs)
    (hstatic : proof.staticByteSize ≤ indexRelativeOffset) :
    Inside (indexRelativeOffset + proof.indexCount * 2)
      (packedPieces record proof indexRelativeOffset) := by
  intro piece hpiece
  obtain hpiece | hpiece := List.mem_append.mp hpiece
  · exact ((h.vertexPieces_inside piece hpiece).trans hstatic).trans (Nat.le_add_right _ _)
  · rw [List.mem_singleton] at hpiece
    subst hpiece
    rw [indexBytes_length, h.indexLength]

theorem layerPiece_offset {layer offset : ℕ} {piece : Piece}
    (h : piece ∈ layerPiece record layer offset) : piece.1 = offset := by
  unfold layerPiece at h
  split at h
  · rw [List.mem_singleton] at h
    rw [h]
  · simp at h

theorem mem_layerPiece {layer offset : ℕ} {uv : UvLayerRecord}
    (h : record.uvLayers[layer]? = some uv) :
    (offset, floatBytes uv.uvPairs) ∈ layerPiece record layer offset := by
  simp [layerPiece, h]

theorem Built.groupPadding_disjoint (h : Built digest record proof primitiveProofs)
    (hstatic : proof.staticByteSize ≤ indexRelativeOffset) :
    ∀ piece ∈ packedPieces record proof indexRelativeOffset, proof.groupSlotOffset + proof.vertexCount +
        (proof.texcoord0Offset - (proof.groupSlotOffset + proof.vertexCount)) ≤ piece.1 ∨
      piece.1 + piece.2.length ≤ proof.groupSlotOffset + proof.vertexCount := by
  have hpos := h.positions
  have hnor := h.normals
  have hgro := h.groups
  have hoff := h.positionOffset
  have hoffN := h.normalOffset
  have hoffG := h.groupSlotOffset
  have hoff0 := h.texcoord0Offset
  have hoff1 := h.texcoord1Offset
  have hlayers : proof.texcoord0Offset ≤ proof.staticByteSize := by
    rw [h.staticByteSize]
    exact Nat.le_add_right _ _
  intro piece hpiece
  simp only [packedPieces, vertexPieces, List.cons_append, List.nil_append, List.mem_cons,
    List.mem_append, List.not_mem_nil, or_false] at hpiece
  obtain rfl | rfl | rfl | (hpiece | hpiece) | rfl := hpiece
  · exact .inr (by simp only [floatBytes_length]; omega)
  · exact .inr (by simp only [floatBytes_length]; omega)
  · exact .inr (by dsimp only; omega)
  · have hoffset := layerPiece_offset hpiece
    exact .inl (by omega)
  · have hoffset := layerPiece_offset hpiece
    exact .inl (by omega)
  · exact .inl (by dsimp only; omega)

theorem eq_zero_of_mem_slice_replicate {o n k : ℕ} {b : UInt8}
    (h : b ∈ slice o n (List.replicate k 0)) : b = 0 :=
  List.eq_of_mem_replicate (List.mem_of_mem_drop (List.mem_of_mem_take h))

theorem Built.packed (h : Built digest record proof primitiveProofs)
    (hstatic : proof.staticByteSize ≤ indexRelativeOffset) :
    Packed record proof indexRelativeOffset
      (packBytes record proof indexRelativeOffset
        (indexRelativeOffset + proof.indexCount * 2)) := by
  have hordered := h.packedPieces_ordered hstatic
  have hinside : Inside
      (List.replicate (indexRelativeOffset + proof.indexCount * 2) (0 : UInt8)).length
      (packedPieces record proof indexRelativeOffset) := by
    rw [List.length_replicate]
    exact h.packedPieces_inside hstatic
  -- Each piece is found at its place, with its own length.
  have hpiece : ∀ {offset n : ℕ} {data : Bytes}, data.length = n →
      (offset, data) ∈ packedPieces record proof indexRelativeOffset →
      slice offset n (packBytes record proof indexRelativeOffset
        (indexRelativeOffset + proof.indexCount * 2)) = data := by
    intro offset n data hlen hmem
    rw [packBytes_eq, ← hlen]
    exact slice_overwriteAll_of_mem hinside hordered hmem
  -- Between the pieces the zeros stay.
  have hzero : ∀ {o n : ℕ}, (∀ piece ∈ packedPieces record proof indexRelativeOffset,
      o + n ≤ piece.1 ∨ piece.1 + piece.2.length ≤ o) →
      ∀ b ∈ slice o n (packBytes record proof indexRelativeOffset
        (indexRelativeOffset + proof.indexCount * 2)), b = 0 := by
    intro o n hdisjoint b hb
    rw [packBytes_eq, slice_overwriteAll_of_disjoint hinside hdisjoint] at hb
    exact eq_zero_of_mem_slice_replicate hb
  exact {
    length := by rw [packBytes_eq, overwriteAll_length hinside, List.length_replicate]
    positions := hpiece (by rw [floatBytes_length, h.positions]; omega)
      (by simp [packedPieces, vertexPieces])
    normals := hpiece (by rw [floatBytes_length, h.normals]; omega)
      (by simp [packedPieces, vertexPieces])
    groups := hpiece h.groups (by simp [packedPieces, vertexPieces])
    uv0 := by
      intro uv huv
      have hlen := h.uvPairs uv (List.mem_of_getElem? huv)
      refine hpiece (by rw [floatBytes_length, hlen]; omega) ?_
      simp [packedPieces, vertexPieces, mem_layerPiece huv]
    uv1 := by
      intro uv huv
      have hlen := h.uvPairs uv (List.mem_of_getElem? huv)
      refine hpiece (by rw [floatBytes_length, hlen]; omega) ?_
      simp [packedPieces, vertexPieces, mem_layerPiece huv]
    indices := hpiece (by rw [indexBytes_length, h.indexLength])
      (by simp [packedPieces])
    groupPadding := by
      apply hzero
      exact h.groupPadding_disjoint hstatic
    indexPadding := by
      apply hzero
      intro piece hpiece
      obtain hpiece | hpiece := List.mem_append.mp hpiece
      · exact .inr (h.vertexPieces_inside piece hpiece)
      · rw [List.mem_singleton] at hpiece
        subst hpiece
        exact .inl (by dsimp only; omega) }

end

end War3VK.GpuSkin

/-!
## Checking packed bytes

What the check of packed bytes accepts is exactly what is consistent with the bytes (`Consistent`,
`validate_iff`): ranges that fit together and into the package, digests that are those of the bytes in
the ranges, zeros between, bounds of the positions, and primitives that tile the indices.
-/

namespace War3VK.GpuSkin

open War3VK.Lib

variable {digest : Digest} {record : ShadowGeosetResourceRecord} {proof : ImmutableProof}
  {primitiveProofs : List PrimitiveProof} {bytes : Bytes} {indexRelativeOffset : ℕ}

/-! ### Ranges -/

structure PackedStream where
  offset : ℕ
  size : ℕ
  contentHash : UInt64
  deriving DecidableEq, Repr

def vertexStreams (proof : ImmutableProof) : List PackedStream :=
  [⟨proof.positionOffset, proof.vertexCount * 12, proof.positionContentHash⟩,
    ⟨proof.normalOffset, proof.vertexCount * 12, proof.normalContentHash⟩,
    ⟨proof.groupSlotOffset, proof.vertexCount, proof.vertexGroupContentHash⟩] ++
  (if proof.uvLayerCount < 1 then [] else
    [⟨proof.texcoord0Offset, proof.vertexCount * 8, proof.uv0ContentHash⟩]) ++
  (if proof.uvLayerCount < 2 then [] else
    [⟨proof.texcoord1Offset, proof.vertexCount * 8, proof.uv1ContentHash⟩])

def packedStreams (indexRelativeOffset : ℕ) (proof : ImmutableProof) : List PackedStream :=
  vertexStreams proof ++ [⟨indexRelativeOffset, proof.indexCount * 2, proof.indexContentHash⟩]

/-- A header whose ranges fit together and into a package of `n` bytes. -/
structure RangesAgree (n indexRelativeOffset : ℕ) (proof : ImmutableProof)
    (primitiveProofs : List PrimitiveProof) : Prop where
  layoutGeneration : proof.layoutGeneration = kPersistentGpuPackageStaticLayoutGeneration
  vertices : proof.vertexCount ≠ 0
  indices : proof.indexCount ≠ 0
  primitiveProofCount : primitiveProofs.length = proof.primitiveProofCount
  behind : proof.staticByteSize ≤ indexRelativeOffset
  aligned : indexRelativeOffset % 2 = 0
  positionOffset : proof.positionOffset = 0
  normalOffset : proof.normalOffset = proof.vertexCount * 12
  groupSlotOffset : proof.groupSlotOffset = proof.vertexCount * 12 + proof.vertexCount * 12
  texcoord0Offset : proof.groupSlotOffset + proof.vertexCount ≤ proof.texcoord0Offset
  texcoord1Offset : proof.texcoord1Offset = proof.texcoord0Offset + proof.vertexCount * 8
  staticByteSize : proof.staticByteSize =
    proof.texcoord0Offset + proof.vertexCount * 8 * proof.uvLayerCount
  packageEnd : indexRelativeOffset + proof.indexCount * 2 = n

theorem packedRangesAgree_iff {n : ℕ} :
    packedRangesAgree n indexRelativeOffset proof primitiveProofs = true ↔
      RangesAgree n indexRelativeOffset proof primitiveProofs := by
  simp only [packedRangesAgree, Bool.and_eq_true, decide_eq_true_eq, ne_eq, and_assoc]
  constructor
  · rintro ⟨-, hlayout, hvertices, hindices, hcount, hbehind, haligned, hposition, hnormal, hgroup,
      hlayer, hsecond, hstatic, -, -, hend⟩
    exact ⟨hlayout, hvertices, hindices, hcount, hbehind, haligned, hposition, hnormal, hgroup,
      hlayer, hsecond, hstatic, hend⟩
  · intro h
    have hend := h.packageEnd
    have hindices := h.indices
    exact ⟨by omega, h.layoutGeneration, h.vertices, h.indices, h.primitiveProofCount, h.behind,
      h.aligned, h.positionOffset, h.normalOffset, h.groupSlotOffset, h.texcoord0Offset,
      h.texcoord1Offset, h.staticByteSize, by omega, by omega, hend⟩

section

variable {n : ℕ} (h : RangesAgree n indexRelativeOffset proof primitiveProofs)
include h

theorem RangesAgree.layer_end {layer : ℕ} (hlayer : ¬proof.uvLayerCount < layer + 1) :
    proof.texcoord0Offset + proof.vertexCount * 8 * layer + proof.vertexCount * 8 ≤
      proof.staticByteSize := by
  have hle : proof.vertexCount * 8 * (layer + 1) ≤ proof.vertexCount * 8 * proof.uvLayerCount :=
    Nat.mul_le_mul_left _ (by omega)
  rw [h.staticByteSize, Nat.add_assoc, ← Nat.mul_succ]
  exact Nat.add_le_add_left hle _

theorem RangesAgree.vertices_inside {stream : PackedStream} (hstream : stream ∈ vertexStreams proof) :
    stream.offset + stream.size ≤ proof.staticByteSize := by
  have hposition := h.positionOffset
  have hnormal := h.normalOffset
  have hgroup := h.groupSlotOffset
  have hfirst := h.texcoord0Offset
  have hsecond := h.texcoord1Offset
  have hlayers : proof.texcoord0Offset ≤ proof.staticByteSize := by
    rw [h.staticByteSize]
    exact Nat.le_add_right _ _
  simp only [vertexStreams, List.cons_append, List.nil_append, List.mem_cons, List.mem_append] at hstream
  obtain rfl | rfl | rfl | hstream | hstream := hstream
  · dsimp only
    omega
  · dsimp only
    omega
  · dsimp only
    omega
  · split at hstream
    · simp at hstream
    · have := @RangesAgree.layer_end _ _ _ _ h 0 (by assumption)
      rw [List.mem_singleton] at hstream
      subst hstream
      dsimp only
      omega
  · split at hstream
    · simp at hstream
    · have := @RangesAgree.layer_end _ _ _ _ h 1 (by assumption)
      rw [List.mem_singleton] at hstream
      subst hstream
      dsimp only
      omega

theorem RangesAgree.inside {stream : PackedStream}
    (hstream : stream ∈ packedStreams indexRelativeOffset proof) :
    stream.offset + stream.size ≤ n := by
  have hend := h.packageEnd
  obtain hstream | hstream := List.mem_append.mp hstream
  · have := h.vertices_inside hstream
    have := h.behind
    omega
  · rw [List.mem_singleton] at hstream
    subst hstream
    exact le_of_eq hend

theorem RangesAgree.vertices_ordered :
    (vertexStreams proof).Pairwise fun a b => a.offset + a.size ≤ b.offset := by
  have hposition := h.positionOffset
  have hnormal := h.normalOffset
  have hgroup := h.groupSlotOffset
  have hfirst := h.texcoord0Offset
  have hsecond := h.texcoord1Offset
  unfold vertexStreams
  split <;> split <;>
    simp only [List.cons_append, List.nil_append, List.append_nil, List.pairwise_cons,
      List.mem_cons, List.not_mem_nil, forall_eq_or_imp, or_false, forall_eq,
      IsEmpty.forall_iff, implies_true, List.Pairwise.nil, and_true] <;>
    omega

theorem RangesAgree.ordered : (packedStreams indexRelativeOffset proof).Pairwise
    fun a b => a.offset + a.size ≤ b.offset := by
  refine List.pairwise_append.mpr ⟨h.vertices_ordered, List.pairwise_singleton _ _, ?_⟩
  intro stream hstream last hlast
  rw [List.mem_singleton] at hlast
  subst hlast
  exact (h.vertices_inside hstream).trans h.behind

end

/-! ### Primitives -/

def PrimitiveAgrees (digest : Digest) (vertexCount : ℕ) (indices : List UInt16)
    (p : PrimitiveProof) : Prop :=
  ∃ first others, (indices.drop p.firstIndex).take p.indexCount = first :: others ∧
    minIndex first others = p.minVertex ∧ maxIndex first others = p.maxVertex ∧
    maxIndex first others < vertexCount ∧
    hashBytes digest (indexBytes (first :: others)) = p.indexContentHash

theorem validatePrimitiveProofs_iff {indices : List UInt16} {ps : List PrimitiveProof}
    {expected last : ℕ} {aggregate total : UInt64} (hexpected : expected ≤ proof.indexCount) :
    validatePrimitiveProofs digest proof indices ps expected aggregate = some (last, total) ↔
      Tiles ps expected last ∧ last ≤ proof.indexCount ∧
      (∀ p ∈ ps, PrimitiveAgrees digest proof.vertexCount indices p) ∧
      ps.foldl (hashPrimitiveInto digest) aggregate = total := by
  induction ps generalizing expected aggregate with
  | nil =>
    simp only [validatePrimitiveProofs, Option.some.injEq, Prod.mk.injEq, Tiles, List.not_mem_nil,
      IsEmpty.forall_iff, implies_true, List.foldl_nil, true_and]
    constructor
    · rintro ⟨rfl, rfl⟩
      exact ⟨rfl, hexpected, rfl⟩
    · rintro ⟨rfl, -, rfl⟩
      exact ⟨rfl, rfl⟩
  | cons p rest ih =>
    unfold validatePrimitiveProofs
    constructor
    · intro h
      split at h
      · cases h
      · rename_i hplace
        rw [not_or, not_or, not_not] at hplace
        obtain ⟨hfirst, hpos, hfits⟩ := hplace
        split at h
        · cases h
        · rename_i first others hindices
          split at h
          · cases h
          · rename_i htrue
            rw [not_or, not_or, not_or, not_not, not_not, not_not] at htrue
            obtain ⟨hmin, hmax, hbelow, hhash⟩ := htrue
            obtain ⟨htiles, hlast, hall, htotal⟩ := (ih (by omega)).mp h
            refine ⟨⟨hfirst, Nat.pos_of_ne_zero hpos, htiles⟩, hlast, ?_, htotal⟩
            intro q hq
            obtain rfl | hq := List.mem_cons.mp hq
            · exact ⟨first, others, hindices, hmin, hmax, Nat.lt_of_not_ge hbelow, hhash⟩
            · exact hall q hq
    · rintro ⟨⟨hfirst, hpos, htiles⟩, hlast, hall, htotal⟩
      have hle := htiles.le
      obtain ⟨first, others, hindices, hmin, hmax, hbelow, hhash⟩ := hall p (by simp)
      rw [if_neg (by omega), hindices]
      dsimp only
      rw [if_neg (by simp only [hmin, hmax, hhash, ne_eq, not_true_eq_false, false_or, or_false,
        not_le] at hbelow ⊢; omega)]
      exact (ih (by omega)).mpr
        ⟨htiles, hlast, fun q hq => hall q (by simp [hq]), htotal⟩

theorem buildPrimitiveProofs_spec {records : List PrimitiveRecord} {ordinal first last : ℕ}
    {aggregate total : UInt64} {ps : List PrimitiveProof} (hfirst : first ≤ record.indexCount)
    (h : buildPrimitiveProofs digest record records ordinal first aggregate = some (ps, last, total)) :
    Tiles ps first last ∧ last ≤ record.indexCount ∧
      (∀ p ∈ ps, PrimitiveAgrees digest record.vertexCount record.indices p) ∧
      ps.foldl (hashPrimitiveInto digest) aggregate = total := by
  induction records generalizing ordinal first aggregate ps last total with
  | nil =>
    simp only [buildPrimitiveProofs, Option.some.injEq, Prod.mk.injEq] at h
    obtain ⟨rfl, rfl, rfl⟩ := h
    exact ⟨rfl, hfirst, by simp, rfl⟩
  | cons primitive rest ih =>
    simp only [buildPrimitiveProofs, Option.bind_eq_bind, Option.bind_eq_some_iff,
      Option.pure_def, Option.some.injEq, Prod.exists] at h
    obtain ⟨p, hp, proofs, last', total', hrest, heq⟩ := h
    obtain ⟨rfl, rfl, rfl⟩ : p :: proofs = ps ∧ last' = last ∧ total' = total := by simpa using heq
    unfold buildPrimitiveProof at hp
    split at hp
    · cases hp
    · rename_i hplace
      rw [not_or, not_or] at hplace
      obtain ⟨hpos, hinside, hfits⟩ := hplace
      split at hp
      · cases hp
      · rename_i head others hindices
        dsimp only at hp
        split at hp
        · cases hp
        · rename_i htrue
          rw [not_or] at htrue
          obtain rfl := Option.some.inj hp
          obtain ⟨htiles, hlast, hall, htotal⟩ := ih (by omega) hrest
          refine ⟨⟨rfl, Nat.pos_of_ne_zero hpos, htiles⟩, hlast, ?_, htotal⟩
          intro q hq
          obtain rfl | hq := List.mem_cons.mp hq
          · exact ⟨head, others, hindices, rfl, rfl, Nat.lt_of_not_ge htrue.1, rfl⟩
          · exact hall q hq

/-! ### What the check accepts -/

/-- A header, the proofs of primitives and bytes that agree with each other. -/
structure Consistent (digest : Digest) (bytes : Bytes) (indexRelativeOffset : ℕ)
    (proof : ImmutableProof) (primitiveProofs : List PrimitiveProof) : Prop where
  ranges : RangesAgree bytes.length indexRelativeOffset proof primitiveProofs
  /-- Each digest is the one of the bytes in its range. -/
  digests : ∀ stream ∈ packedStreams indexRelativeOffset proof,
    hashBytes digest (slice stream.offset stream.size bytes) = stream.contentHash
  groupPadding : ∀ b ∈ slice (proof.groupSlotOffset + proof.vertexCount)
    (proof.texcoord0Offset - (proof.groupSlotOffset + proof.vertexCount)) bytes, b = 0
  indexPadding : ∀ b ∈ slice proof.staticByteSize (indexRelativeOffset - proof.staticByteSize)
    bytes, b = 0
  /-- The bounds are those of the positions in the package. -/
  bounds : ∃ bounds, boundsOf (readWords UInt32 proof.positionOffset (proof.vertexCount * 3) bytes)
    proof.vertexCount = some bounds ∧ hashBytes digest bounds.bytes = proof.localBoundsHash ∧
    sameLocalBounds bounds proof.bounds = true
  tiles : Tiles primitiveProofs 0 proof.indexCount
  /-- Each of them tells the truth about the indices in the package. -/
  primitives : ∀ p ∈ primitiveProofs, PrimitiveAgrees digest proof.vertexCount
    (readWords UInt16 indexRelativeOffset proof.indexCount bytes) p
  aggregate : primitiveProofs.foldl (hashPrimitiveInto digest)
    kPersistentGpuPackageContentHashSeed = proof.primitiveProofHash

theorem packedStreamsAgree_iff :
    packedStreamsAgree digest bytes indexRelativeOffset proof = true ↔
      (∀ stream ∈ packedStreams indexRelativeOffset proof,
        hashBytes digest (slice stream.offset stream.size bytes) = stream.contentHash) ∧
      (∀ b ∈ slice (proof.groupSlotOffset + proof.vertexCount)
        (proof.texcoord0Offset - (proof.groupSlotOffset + proof.vertexCount)) bytes, b = 0) ∧
      (∀ b ∈ slice proof.staticByteSize (indexRelativeOffset - proof.staticByteSize) bytes, b = 0) := by
  simp only [packedStreamsAgree, Bool.and_eq_true, Bool.or_eq_true, decide_eq_true_eq,
    List.all_eq_true, and_assoc, packedStreams, vertexStreams, List.mem_append, List.mem_cons,
    List.not_mem_nil, or_false]
  constructor
  · rintro ⟨hposition, hnormal, hgroup, hindex, h0, h1, hgroupPadding, hindexPadding⟩
    refine ⟨?_, hgroupPadding, hindexPadding⟩
    rintro stream ((((rfl | rfl | rfl) | hstream) | hstream) | rfl)
    · exact hposition
    · exact hnormal
    · exact hgroup
    · split at hstream
      · simp at hstream
      · rw [List.mem_singleton] at hstream
        rw [hstream]
        exact h0.resolve_left (by assumption)
    · split at hstream
      · simp at hstream
      · rw [List.mem_singleton] at hstream
        rw [hstream]
        exact h1.resolve_left (by assumption)
    · exact hindex
  · rintro ⟨hstreams, hgroupPadding, hindexPadding⟩
    refine ⟨hstreams ⟨_, _, _⟩ (by simp), hstreams ⟨_, _, _⟩ (by simp), hstreams ⟨_, _, _⟩ (by simp),
      hstreams ⟨_, _, _⟩ (by simp), ?_, ?_, hgroupPadding, hindexPadding⟩
    · by_cases hlayer : proof.uvLayerCount < 1
      · exact .inl hlayer
      · exact .inr (hstreams ⟨_, _, _⟩ (.inl (.inl (.inr (by rw [if_neg hlayer]; simp)))))
    · by_cases hlayer : proof.uvLayerCount < 2
      · exact .inl hlayer
      · exact .inr (hstreams ⟨_, _, _⟩ (.inl (.inr (by rw [if_neg hlayer]; simp))))

theorem validate_iff :
    validatePersistentGpuPackagePackedBytes digest bytes indexRelativeOffset proof
      primitiveProofs = true ↔
      Consistent digest bytes indexRelativeOffset proof primitiveProofs := by
  unfold validatePersistentGpuPackagePackedBytes
  rw [Bool.and_eq_true, Bool.and_eq_true, Bool.and_eq_true, packedRangesAgree_iff,
    packedStreamsAgree_iff, and_assoc, and_assoc]
  constructor
  · rintro ⟨hranges, ⟨hdigests, hgroupPadding, hindexPadding⟩, hbounds, hprimitives⟩
    split at hbounds
    · cases hbounds
    · rename_i bounds hboundsOf
      split at hprimitives
      · cases hprimitives
      · rename_i expected aggregate hvalidate
        rw [Bool.and_eq_true, decide_eq_true_eq] at hbounds
        rw [Bool.and_eq_true, decide_eq_true_eq, decide_eq_true_eq] at hprimitives
        obtain ⟨rfl, rfl⟩ := hprimitives
        obtain ⟨htiles, -, hall, htotal⟩ :=
          (validatePrimitiveProofs_iff (Nat.zero_le _)).mp hvalidate
        exact ⟨hranges, hdigests, hgroupPadding, hindexPadding, ⟨bounds, hboundsOf, hbounds⟩, htiles,
          hall, htotal⟩
  · intro h
    obtain ⟨bounds, hboundsOf, hhash, hsame⟩ := h.bounds
    have hvalidate := (validatePrimitiveProofs_iff (Nat.zero_le _)).mpr
      ⟨h.tiles, le_refl _, h.primitives, h.aggregate⟩
    refine ⟨h.ranges, ⟨h.digests, h.groupPadding, h.indexPadding⟩, ?_, ?_⟩
    · rw [hboundsOf]
      simp [hhash, hsame]
    · rw [hvalidate]
      simp

/-! ### Finite bounds -/

theorem isNan_of_isFinite {bits : UInt32} (h : isFinite bits = true) : isNan bits = false := by
  have hexponent : ¬((bits >>> 23) &&& 0xff = 0xff) := by simpa [isFinite] using h
  unfold isNan
  simp [hexponent]

theorem floatEq_self {bits : UInt32} (h : isFinite bits = true) : floatEq bits bits = true := by
  simp [floatEq, isNan_of_isFinite h]

structure LocalBounds.AllFinite (b : LocalBounds) : Prop where
  /-- The least `x`. -/
  minX : isFinite b.minX = true
  /-- The least `y`. -/
  minY : isFinite b.minY = true
  /-- The least `z`. -/
  minZ : isFinite b.minZ = true
  /-- The greatest `x`. -/
  maxX : isFinite b.maxX = true
  /-- The greatest `y`. -/
  maxY : isFinite b.maxY = true
  /-- The greatest `z`. -/
  maxZ : isFinite b.maxZ = true

theorem isFinite_floatMin {a b : UInt32} (ha : isFinite a = true) (hb : isFinite b = true) :
    isFinite (floatMin a b) = true := by
  unfold floatMin
  split
  · exact hb
  · exact ha

theorem isFinite_floatMax {a b : UInt32} (ha : isFinite a = true) (hb : isFinite b = true) :
    isFinite (floatMax a b) = true := by
  unfold floatMax
  split
  · exact hb
  · exact ha

variable {positions : List UInt32} {b b' : LocalBounds}

theorem extendBounds_succ {n : ℕ} (h : extendBounds positions (n + 1) b = some b') :
    ∃ before, extendBounds positions n b = some before ∧
      isFinite (positions.getD (n * 3) 0) = true ∧ isFinite (positions.getD (n * 3 + 1) 0) = true ∧
      isFinite (positions.getD (n * 3 + 2) 0) = true ∧
      b' = before.extend (positions.getD (n * 3) 0) (positions.getD (n * 3 + 1) 0)
        (positions.getD (n * 3 + 2) 0) := by
  simp only [extendBounds, Option.bind_eq_bind, Option.bind_eq_some_iff] at h
  obtain ⟨before, hbefore, h⟩ := h
  split at h
  · cases h
  · rename_i hfinite
    simp only [Bool.or_eq_true, Bool.not_eq_eq_eq_not, Bool.not_true, not_or, Bool.not_eq_false] at hfinite
    exact ⟨before, hbefore, hfinite.1.1, hfinite.1.2, hfinite.2, (Option.some.inj h).symm⟩

theorem extendBounds_allFinite {n : ℕ} (hb : b.AllFinite)
    (h : extendBounds positions n b = some b') : b'.AllFinite := by
  induction n generalizing b' with
  | zero => exact Option.some.inj h ▸ hb
  | succ n ih =>
    obtain ⟨before, hbefore, hx, hy, hz, rfl⟩ := extendBounds_succ h
    have hfinite := ih hbefore
    exact ⟨isFinite_floatMin hfinite.minX hx, isFinite_floatMin hfinite.minY hy,
      isFinite_floatMin hfinite.minZ hz, isFinite_floatMax hfinite.maxX hx,
      isFinite_floatMax hfinite.maxY hy, isFinite_floatMax hfinite.maxZ hz⟩

theorem extendBounds_first {n : ℕ} (hn : 0 < n) (h : extendBounds positions n b = some b') :
    isFinite (positions.getD 0 0) = true ∧ isFinite (positions.getD 1 0) = true ∧
      isFinite (positions.getD 2 0) = true := by
  induction n generalizing b' with
  | zero => exact absurd hn (lt_irrefl 0)
  | succ n ih =>
    obtain ⟨before, hbefore, hx, hy, hz, -⟩ := extendBounds_succ h
    obtain rfl | hpos := n.eq_zero_or_pos
    · exact ⟨by simpa using hx, by simpa using hy, by simpa using hz⟩
    · exact ih hpos hbefore

theorem boundsOf_allFinite {n : ℕ} (hn : 0 < n) (h : boundsOf positions n = some b) :
    b.AllFinite := by
  unfold boundsOf at h
  obtain ⟨hx, hy, hz⟩ := extendBounds_first hn h
  refine extendBounds_allFinite ?_ h
  constructor <;> assumption

theorem LocalBounds.AllFinite.same (h : b.AllFinite) : sameLocalBounds b b = true := by
  simp [sameLocalBounds, floatEq_self h.minX, floatEq_self h.minY, floatEq_self h.minZ,
    floatEq_self h.maxX, floatEq_self h.maxY, floatEq_self h.maxZ]

/-! ### What is packed is consistent -/

theorem Built.rangesAgree (h : Built digest record proof primitiveProofs)
    (hstatic : proof.staticByteSize ≤ indexRelativeOffset) (haligned : indexRelativeOffset % 2 = 0) :
    RangesAgree (indexRelativeOffset + proof.indexCount * 2) indexRelativeOffset proof
      primitiveProofs where
  layoutGeneration := h.layoutGeneration
  vertices := h.vertices.ne'
  indices := h.indices.ne'
  primitiveProofCount := h.primitiveProofCount
  behind := hstatic
  aligned := haligned
  positionOffset := h.positionOffset
  normalOffset := h.normalOffset
  groupSlotOffset := by rw [h.groupSlotOffset]; omega
  texcoord0Offset := by rw [h.groupSlotOffset, h.texcoord0Offset]; omega
  texcoord1Offset := h.texcoord1Offset
  staticByteSize := h.staticByteSize
  packageEnd := rfl

theorem Built.digests (h : Built digest record proof primitiveProofs)
    (hpacked : Packed record proof indexRelativeOffset bytes) :
    ∀ stream ∈ packedStreams indexRelativeOffset proof,
      hashBytes digest (slice stream.offset stream.size bytes) = stream.contentHash := by
  simp only [packedStreams, vertexStreams, List.mem_append, List.mem_cons, List.not_mem_nil, or_false]
  rintro stream ((((rfl | rfl | rfl) | hstream) | hstream) | rfl)
  · exact (congrArg _ hpacked.positions).trans h.positionContentHash.symm
  · exact (congrArg _ hpacked.normals).trans h.normalContentHash.symm
  · exact (congrArg _ hpacked.groups).trans h.vertexGroupContentHash.symm
  · split at hstream
    · simp at hstream
    · obtain ⟨-, hnone⟩ | ⟨uv, huv, -, -⟩ := h.layer 0
      · omega
      · rw [List.mem_singleton] at hstream
        rw [hstream, h.uv0ContentHash, uvContentHash, huv]
        exact congrArg _ (hpacked.uv0 uv huv)
  · split at hstream
    · simp at hstream
    · obtain ⟨-, hnone⟩ | ⟨uv, huv, -, -⟩ := h.layer 1
      · omega
      · rw [List.mem_singleton] at hstream
        rw [hstream, h.uv1ContentHash, uvContentHash, huv]
        exact congrArg _ (hpacked.uv1 uv huv)
  · exact (congrArg _ hpacked.indices).trans h.indexContentHash.symm

theorem Built.consistent (h : Built digest record proof primitiveProofs)
    (hstatic : proof.staticByteSize ≤ indexRelativeOffset) (haligned : indexRelativeOffset % 2 = 0)
    (hpacked : Packed record proof indexRelativeOffset bytes) :
    Consistent digest bytes indexRelativeOffset proof primitiveProofs := by
  -- The floats and the indices are read back as they were written.
  have hpositions : readWords UInt32 proof.positionOffset (proof.vertexCount * 3) bytes =
      record.positions := by
    rw [readWords, ← h.positions]
    refine map_range_getLe ?_
    rw [h.positions, width_uint32, show 4 * (proof.vertexCount * 3) = proof.vertexCount * 12 by ring]
    exact hpacked.positions
  have hindices : readWords UInt16 indexRelativeOffset proof.indexCount bytes = record.indices := by
    rw [readWords, ← h.indexLength]
    refine map_range_getLe ?_
    rw [h.indexLength, width_uint16, Nat.mul_comm]
    exact hpacked.indices
  obtain ⟨htiles, -, hall, htotal⟩ := buildPrimitiveProofs_spec (Nat.zero_le _) h.primitives
  exact {
    ranges := hpacked.length ▸ h.rangesAgree hstatic haligned
    digests := h.digests hpacked
    groupPadding := hpacked.groupPadding
    indexPadding := hpacked.indexPadding
    bounds := by
      rw [hpositions]
      exact ⟨proof.bounds, h.bounds, h.localBoundsHash.symm, (boundsOf_allFinite h.vertices h.bounds).same⟩
    tiles := htiles
    primitives := by
      rw [hindices, ← h.vertexCount]
      exact hall
    aggregate := htotal }

end War3VK.GpuSkin
