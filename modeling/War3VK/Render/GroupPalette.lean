import Mathlib

/-!
# The kernel of group palettes

`TryBuildRuntimeGroupPaletteKernel` (`src/src/d3d9/war3/render/war3_runtime_group_palette_kernel.h`):
one matrix for each group of bones, the mean of the pose matrices that the group lists, or else one of
five fallbacks. All tables are views that the caller lends. A read that is not inside its view is an
outcome of its own: `none` instead of a result. The matrices and their arithmetic are parameters, and
`maxAddress` is the greatest address and size.
-/

namespace War3VK.Render.GroupPalette

structure View (α : Type) where
  data : Option (ℕ → α)
  count : ℕ

def View.read {α : Type} (view : View α) (i : ℕ) : Option α :=
  if i < view.count then view.data.map fun table => table i else none

/-- The arithmetic of `Matrix4`. -/
structure Arithmetic (M : Type) where
  /-- `Matrix4()`. -/
  identity : M
  /-- `Matrix4(0.0f)`. -/
  zero : M
  /-- `operator+=`. -/
  add : M → M → M
  /-- The division by the `float` of a count. -/
  divide : M → UInt32 → M

/-- `RuntimeGroupPaletteInput`. -/
structure Input (M : Type) where
  vertexGroupIndices : Option (ℕ → UInt8)
  vertexGroupSlotCount : ℕ
  matrixGroupSizes : Option (ℕ → UInt32)
  groupCount : UInt32
  matrixIndices : Option (ℕ → UInt32)
  matrixIndexCount : ℕ
  posePalette : Option (ℕ → M)
  /-- The address of `posePalette`. -/
  poseAddress : ℕ
  posePaletteSize : ℕ
  poseMatrixCount : UInt32

/-- `RuntimeGroupPaletteKernelMiss`, as far as the kernel gives it. -/
inductive Miss
  | none
  | noPosePalette
  | noVertexGroups
  | invalidGroupTable
  | matrixIndexOutOfRange
  | vertexGroupOutOfRange
  | fallbacksFailed
deriving DecidableEq, Repr

/-- `RuntimeGroupPaletteAliasRelation`. -/
inductive AliasRelation
  | nonOverlapping
  | overlapping
  | invalid
deriving DecidableEq, Repr

/-- `RuntimeGroupPaletteFallbackSet`. -/
inductive FallbackSet
  | matrixAndPoseRemap
  | matrixPoseAndUniformRoot
deriving DecidableEq, Repr

/-- `RuntimeGroupPaletteKernelDetail`. -/
structure Detail where
  reason : Miss := .none
  group : UInt32 := 0xffffffff
  matrixIndex : UInt32 := 0xffffffff
  poseCount : UInt32 := 0
  groupCount : UInt32 := 0
  maxVertexGroupSlot : UInt32 := 0
  matrixIndexCount : UInt32 := 0
  aliasedInputOutput : Bool := false
  aliasRelation : AliasRelation := .nonOverlapping
deriving DecidableEq, Repr

structure Storage where
  /-- `data()`. -/
  address : ℕ
  capacity : ℕ

structure Result (M : Type) where
  ok : Bool
  /-- `outPalette`. -/
  palette : List M
  /-- `outMaxVertexGroupSlot`. -/
  maxVertexGroupSlot : ℕ
  /-- `outUsesAveraging`. -/
  usesAveraging : Bool
  /-- `*outDetail`, where the caller wants it. -/
  detail : Detail

/-! ## Aliasing -/

/-- `RuntimeGroupPaletteTryByteLength`. -/
def tryByteLength (maxAddress elementCount elementSize : ℕ) : Option ℕ :=
  if elementSize = 0 then some 0
  else if elementCount > maxAddress / elementSize then none
  else some (elementCount * elementSize)

/-- `ClassifyRuntimeGroupPaletteByteRangeOverlap`. -/
def classifyByteRangeOverlap (maxAddress lhsBegin lhsByteLength rhsBegin rhsByteLength : ℕ) :
    AliasRelation :=
  if lhsByteLength = 0 ∨ rhsByteLength = 0 then .nonOverlapping
  else if lhsByteLength > maxAddress - lhsBegin ∨ rhsByteLength > maxAddress - rhsBegin then .invalid
  else if lhsBegin + lhsByteLength ≤ rhsBegin ∨ rhsBegin + rhsByteLength ≤ lhsBegin then
    .nonOverlapping
  else .overlapping

/-- `sizeof(Matrix4)`. -/
def matrixBytes : ℕ := 64

section

variable {M : Type} (arith : Arithmetic M) (input : Input M)

/-- `ClassifyRuntimeGroupPaletteOutputPoseAlias`. -/
def classifyOutputPoseAlias (maxAddress : ℕ) (storage : Storage) : AliasRelation :=
  if input.posePalette.isNone ∨ input.posePaletteSize = 0 ∨ storage.capacity = 0 then .nonOverlapping
  else
    match tryByteLength maxAddress storage.capacity matrixBytes,
      tryByteLength maxAddress input.posePaletteSize matrixBytes with
    | some outByteLength, some poseByteLength =>
      classifyByteRangeOverlap maxAddress storage.address outByteLength input.poseAddress
        poseByteLength
    | _, _ => .invalid

/-! ## Views -/

/-- The view of `vertexGroupIndices`. -/
def Input.slots : View UInt8 := ⟨input.vertexGroupIndices, input.vertexGroupSlotCount⟩

/-- The view of `matrixGroupSizes`. -/
def Input.sizes : View UInt32 := ⟨input.matrixGroupSizes, input.groupCount.toNat⟩

/-- The view of `matrixIndices`. -/
def Input.indices : View UInt32 := ⟨input.matrixIndices, input.matrixIndexCount⟩

/-- The view of `posePalette`. -/
def Input.poses : View M := ⟨input.posePalette, input.posePaletteSize⟩

def Input.badIndex (matrixIndex : UInt32) : Bool :=
  matrixIndex ≥ input.poseMatrixCount ∨ matrixIndex.toNat ≥ input.posePaletteSize

/-! ## Slots -/

/-- `RuntimeGroupPaletteSlotScanFixed`; the flags of the slots that were seen are the list itself. -/
structure SlotScan where
  maxVertexGroupSlot : ℕ := 0
  /-- `uniqueGroupSlots`, in the order of their first occurrence. -/
  uniqueGroupSlots : List ℕ := []
deriving DecidableEq, Repr

def SlotScan.slot (scan : SlotScan) (groupSlot : ℕ) : SlotScan :=
  ⟨max scan.maxVertexGroupSlot groupSlot,
    if groupSlot ∈ scan.uniqueGroupSlots then scan.uniqueGroupSlots
    else scan.uniqueGroupSlots ++ [groupSlot]⟩

/-- `ScanRuntimeGroupPaletteSlotsFixed`, from the slot `i` on. -/
def scanSlots : ℕ → ℕ → SlotScan → Option SlotScan
  | 0, _, scan => some scan
  | n + 1, i, scan => do
    let groupSlot ← input.slots.read i
    scanSlots n (i + 1) (scan.slot groupSlot.toNat)

/-! ## Fallbacks -/

/-- `resize` of a vector. -/
def resize (n : ℕ) (fill : M) (palette : List M) : List M :=
  palette.take n ++ List.replicate (n - palette.length) fill

/-- The loop of a fallback from `i` on: a matrix for the slot of every `i`, until one is out of the
pose. -/
def fillSlots (source : ℕ → Option (Option M)) (target : ℕ → ℕ) :
    ℕ → ℕ → List M → Option (Bool × List M)
  | 0, _, palette => some (true, palette)
  | n + 1, i, palette => do
    match ← source i with
    | none => some (false, palette)
    | some matrix => fillSlots source target n (i + 1) (palette.set (target i) matrix)

/-- The matrix that `matrixIndices[i]` names. -/
def Input.namedMatrix (i : ℕ) : Option (Option M) := do
  let matrixIndex ← input.indices.read i
  if input.badIndex matrixIndex then some none
  else (input.poses.read matrixIndex.toNat).map some

/-- The matrix `posePalette[i]`. -/
def Input.poseMatrix (i : ℕ) : Option (Option M) := (input.poses.read i).map some

/-- `buildDirectMatrixRemap`. -/
def buildDirectMatrixRemap (scan : SlotScan) (palette : List M) : Option (Bool × List M) :=
  if input.matrixIndexCount = 0 ∨ scan.maxVertexGroupSlot ≥ input.matrixIndexCount then
    some (false, palette)
  else
    fillSlots input.namedMatrix id (scan.maxVertexGroupSlot + 1) 0
      (resize (scan.maxVertexGroupSlot + 1) arith.identity palette)

/-- `buildSparseMatrixRemap`. -/
def buildSparseMatrixRemap (scan : SlotScan) (palette : List M) : Option (Bool × List M) :=
  if input.matrixIndexCount = 0 ∨ scan.uniqueGroupSlots.length = 0 ∨
      scan.uniqueGroupSlots.length > input.matrixIndexCount then
    some (false, palette)
  else
    fillSlots input.namedMatrix (fun i => scan.uniqueGroupSlots.getD i 0)
      scan.uniqueGroupSlots.length 0 (List.replicate (scan.maxVertexGroupSlot + 1) arith.zero)

/-- `buildDirectPosePalette`. -/
def buildDirectPosePalette (scan : SlotScan) (palette : List M) : Option (Bool × List M) :=
  if scan.maxVertexGroupSlot ≥ input.poseMatrixCount.toNat ∨
      scan.maxVertexGroupSlot ≥ input.posePaletteSize then
    some (false, palette)
  else
    fillSlots input.poseMatrix id (scan.maxVertexGroupSlot + 1) 0
      (resize (scan.maxVertexGroupSlot + 1) arith.identity palette)

/-- `buildSparsePosePalette`. -/
def buildSparsePosePalette (scan : SlotScan) (palette : List M) : Option (Bool × List M) :=
  if scan.uniqueGroupSlots.length = 0 ∨
      scan.uniqueGroupSlots.length > input.poseMatrixCount.toNat ∨
      scan.uniqueGroupSlots.length > input.posePaletteSize then
    some (false, palette)
  else
    fillSlots input.poseMatrix (fun i => scan.uniqueGroupSlots.getD i 0)
      scan.uniqueGroupSlots.length 0 (List.replicate (scan.maxVertexGroupSlot + 1) arith.zero)

/-- `buildUniformPosePalette`; the palette has always at least one matrix. -/
def buildUniformPosePalette (scan : SlotScan) (palette : List M) : Option (Bool × List M) :=
  if input.poseMatrixCount = 0 ∨ input.posePaletteSize = 0 then some (false, palette)
  else do
    let root ← input.poses.read 0
    some (true, List.replicate (max (scan.maxVertexGroupSlot + 1) input.groupCount.toNat) root)

def orElse (attempt : Option (Bool × List M)) (next : List M → Option (Bool × List M)) :
    Option (Bool × List M) := do
  let result ← attempt
  if result.1 then some result else next result.2

/-- `tryFallbacks`, without its note. -/
def tryFallbacks (fallbackSet : FallbackSet) (scan : SlotScan) (palette : List M) :
    Option (Bool × List M) :=
  orElse (orElse (orElse (orElse (buildDirectMatrixRemap arith input scan palette)
    (buildSparseMatrixRemap arith input scan)) (buildDirectPosePalette arith input scan))
    (buildSparsePosePalette arith input scan)) fun palette =>
      if fallbackSet = .matrixPoseAndUniformRoot then buildUniformPosePalette input scan palette
      else some (false, palette)

/-! ## Groups -/

/-- The loop that fills `prefix`, from the group `i` on, and the sum in the end. -/
def prefixSums : ℕ → ℕ → UInt32 → Option (List UInt32 × UInt32)
  | 0, _, running => some ([], running)
  | n + 1, i, running => do
    let groupSize ← input.sizes.read i
    let rest ← prefixSums n (i + 1) (running + groupSize)
    some (running :: rest.1, rest.2)

/-- The inner loop: the sum of the matrices of a group, from its `i`-th on, or the matrix index that
is out of the pose. -/
def sumGroup (groupBase : UInt32) : ℕ → UInt32 → M → Option (Except UInt32 M)
  | 0, _, accum => some (.ok accum)
  | n + 1, i, accum => do
    let matrixIndex ← input.indices.read (groupBase + i).toNat
    if input.badIndex matrixIndex then some (.error matrixIndex)
    else
      let matrix ← input.poses.read matrixIndex.toNat
      sumGroup groupBase n (i + 1) (arith.add accum matrix)

/-- What the loop over the groups has come to: the miss that ended it, if any, and the outputs. -/
structure Averages (M : Type) where
  /-- The miss, with its group and its matrix index. -/
  miss : Option (Miss × UInt32 × UInt32)
  /-- `outPalette`. -/
  palette : List M
  /-- `outUsesAveraging`. -/
  usesAveraging : Bool

/-- The loop over the groups, from `group` on; the list has their prefixes. -/
def averageGroups : List UInt32 → ℕ → List M → Bool → Option (Averages M)
  | [], _, palette, usesAveraging => some ⟨none, palette, usesAveraging⟩
  | groupBase :: rest, group, palette, usesAveraging => do
    let groupSize ← input.sizes.read group
    if groupSize = 0 ∨ (groupBase + groupSize).toNat > input.matrixIndexCount then
      some ⟨some (.invalidGroupTable, UInt32.ofNat group, 0xffffffff), palette, usesAveraging⟩
    else
      match ← sumGroup arith input groupBase groupSize.toNat 0 arith.zero with
      | .error matrixIndex =>
        some ⟨some (.matrixIndexOutOfRange, UInt32.ofNat group, matrixIndex), palette, usesAveraging⟩
      | .ok accum =>
        averageGroups rest (group + 1)
          (palette.set group (if groupSize = 1 then accum else arith.divide accum groupSize))
          (usesAveraging || groupSize > 1)

/-- The last loop, from the slot `i` on: the first slot that is no group. -/
def findBadSlot : ℕ → ℕ → Option (Option UInt8)
  | 0, _ => some none
  | n + 1, i => do
    let groupSlot ← input.slots.read i
    if groupSlot.toNat ≥ input.groupCount.toNat then some (some groupSlot) else findBadSlot n (i + 1)

/-- The grouped build: the miss that ended it, if any, and the outputs. -/
def buildGroups : Option (Averages M) := do
  let sums ← prefixSums input input.groupCount.toNat 0 0
  if sums.2.toNat > input.matrixIndexCount then
    some ⟨some (.invalidGroupTable, 0xffffffff, 0xffffffff), [], false⟩
  else
    let averages ← averageGroups arith input sums.1 0
      (resize input.groupCount.toNat arith.identity []) false
    if averages.miss.isSome then some averages
    else
      match ← findBadSlot input input.vertexGroupSlotCount 0 with
      | none => some averages
      | some groupSlot =>
        some { averages with miss := some (.vertexGroupOutOfRange, groupSlot.toUInt32, 0xffffffff) }

/-- `noteMiss`. -/
def noteMiss (maxVertexGroupSlot : ℕ) (miss : Miss × UInt32 × UInt32) : Detail :=
  { reason := miss.1, group := miss.2.1, matrixIndex := miss.2.2
    poseCount := input.poseMatrixCount, groupCount := input.groupCount
    maxVertexGroupSlot := UInt32.ofNat maxVertexGroupSlot
    matrixIndexCount := UInt32.ofNat input.matrixIndexCount }

def rejected (miss : Miss) : Result M :=
  ⟨false, [], 0, false, noteMiss input 0 (miss, 0xffffffff, 0xffffffff)⟩

/-- `tryFallbacks`, with its note and what the grouped build has left. -/
def fallBack (fallbackSet : FallbackSet) (scan : SlotScan) (averages : Averages M) (detail : Detail) :
    Option (Result M) := do
  let result ← tryFallbacks arith input fallbackSet scan averages.palette
  some ⟨result.1, result.2, scan.maxVertexGroupSlot, averages.usesAveraging,
    if result.1 then detail
    else noteMiss input scan.maxVertexGroupSlot (.fallbacksFailed, 0xffffffff, 0xffffffff)⟩

def build (fallbackSet : FallbackSet) : Option (Result M) := do
  let scan ← scanSlots input input.vertexGroupSlotCount 0 {}
  let noted := noteMiss input scan.maxVertexGroupSlot (.none, 0xffffffff, 0xffffffff)
  if input.groupCount = 0 then fallBack arith input fallbackSet scan ⟨none, [], false⟩ noted
  else
    let averages ← buildGroups arith input
    match averages.miss with
    | none => some ⟨true, averages.palette, scan.maxVertexGroupSlot, averages.usesAveraging, noted⟩
    | some miss =>
      fallBack arith input fallbackSet scan averages (noteMiss input scan.maxVertexGroupSlot miss)

/-- `TryBuildRuntimeGroupPaletteKernel`. -/
def tryBuildRuntimeGroupPaletteKernel (maxAddress : ℕ) (storage : Storage) (fallbackSet : FallbackSet) :
    Option (Result M) :=
  let aliasRelation := classifyOutputPoseAlias input maxAddress storage
  if aliasRelation ≠ .nonOverlapping then
    some { rejected input .fallbacksFailed with
      detail := { noteMiss input 0 (.fallbacksFailed, 0xffffffff, 0xffffffff) with
        aliasedInputOutput := aliasRelation = .overlapping
        aliasRelation } }
  else if input.posePalette.isNone ∨ input.posePaletteSize = 0 ∨ input.poseMatrixCount = 0 then
    some (rejected input .noPosePalette)
  else if input.vertexGroupIndices.isNone ∨ input.vertexGroupSlotCount = 0 then
    some (rejected input .noVertexGroups)
  else if input.groupCount ≠ 0 ∧ input.matrixGroupSizes.isNone then
    some (rejected input .invalidGroupTable)
  else if input.matrixIndexCount ≠ 0 ∧ input.matrixIndices.isNone then
    some (rejected input .invalidGroupTable)
  else build arith input fallbackSet

end

end War3VK.Render.GroupPalette

/-!
## What the loops of the kernel do

Behind the guards every table is there. The fallbacks then read inside their views, and each of them
yields a palette that depends on the input alone, whatever an abandoned attempt has left.
-/

namespace War3VK.Render.GroupPalette

variable {M : Type} {arith : Arithmetic M} {input : Input M}

/-! ### Tables -/

def Input.slot (input : Input M) (i : ℕ) : ℕ := ((input.vertexGroupIndices.getD fun _ => 0) i).toNat

def Input.size (input : Input M) (group : ℕ) : UInt32 :=
  (input.matrixGroupSizes.getD fun _ => 0) group

def Input.index (input : Input M) (i : ℕ) : UInt32 := (input.matrixIndices.getD fun _ => 0) i

def Input.pose (arith : Arithmetic M) (input : Input M) (i : ℕ) : M :=
  (input.posePalette.getD fun _ => arith.identity) i

/-- The guards of the kernel, but for the aliasing: what has a count is there. -/
structure Admitted (input : Input M) : Prop where
  posePalette : input.posePalette.isSome
  posePaletteSize : input.posePaletteSize ≠ 0
  poseMatrixCount : input.poseMatrixCount ≠ 0
  vertexGroupIndices : input.vertexGroupIndices.isSome
  vertexGroupSlotCount : input.vertexGroupSlotCount ≠ 0
  /-- There is a group table where there are groups. -/
  matrixGroupSizes : input.groupCount ≠ 0 → input.matrixGroupSizes.isSome
  /-- There are matrix indices where they have a count. -/
  matrixIndices : input.matrixIndexCount ≠ 0 → input.matrixIndices.isSome

theorem View.read_of_lt {α : Type} {view : View α} {i : ℕ} (hi : i < view.count)
    (hdata : view.data.isSome) (default : ℕ → α) : view.read i = some (view.data.getD default i) := by
  obtain ⟨table, htable⟩ := Option.isSome_iff_exists.mp hdata
  rw [View.read, if_pos hi, htable]
  rfl

theorem View.read_of_le {α : Type} {view : View α} {i : ℕ} (hi : view.count ≤ i) :
    view.read i = none := if_neg (Nat.not_lt.mpr hi)

theorem Admitted.slots_read (h : Admitted input) {i : ℕ} (hi : i < input.vertexGroupSlotCount) :
    ∃ groupSlot, input.slots.read i = some groupSlot ∧ groupSlot.toNat = input.slot i :=
  ⟨_, View.read_of_lt hi h.vertexGroupIndices fun _ => 0, rfl⟩

theorem Admitted.sizes_read (h : Admitted input) {i : ℕ} (hi : i < input.groupCount.toNat) :
    input.sizes.read i = some (input.size i) := by
  refine View.read_of_lt hi (h.matrixGroupSizes fun hzero => ?_) fun _ => 0
  rw [hzero] at hi
  exact absurd hi (Nat.not_lt_zero i)

theorem Admitted.indices_read (h : Admitted input) {i : ℕ} (hi : i < input.matrixIndexCount) :
    input.indices.read i = some (input.index i) :=
  View.read_of_lt hi (h.matrixIndices (by omega)) fun _ => 0

theorem Admitted.poses_read (h : Admitted input) {i : ℕ} (hi : i < input.posePaletteSize) :
    input.poses.read i = some (input.pose arith i) :=
  View.read_of_lt hi h.posePalette fun _ => arith.identity

def Input.Names (input : Input M) (i : ℕ) : Prop := input.badIndex (input.index i) = false

def Input.named (arith : Arithmetic M) (input : Input M) (i : ℕ) : M :=
  input.pose arith (input.index i).toNat

instance (i : ℕ) : Decidable (input.Names i) := inferInstanceAs (Decidable (_ = false))

theorem Input.Names.lt {i : ℕ} (h : input.Names i) : (input.index i).toNat < input.posePaletteSize := by
  unfold Input.Names Input.badIndex at h
  simp only [ge_iff_le, decide_eq_false_iff_not, not_or, not_le] at h
  exact h.2

theorem Admitted.namedMatrix_of_names (h : Admitted input) {i : ℕ} (hi : i < input.matrixIndexCount)
    (hnames : input.Names i) : input.namedMatrix i = some (some (input.named arith i)) := by
  have hpose : input.poses.read (input.index i).toNat = some (input.pose arith _) :=
    h.poses_read hnames.lt
  unfold Input.namedMatrix
  rw [h.indices_read hi, Option.bind_eq_bind, Option.bind_some, if_neg (by rw [hnames]; simp), hpose]
  rfl

theorem Admitted.namedMatrix_of_not_names (h : Admitted input) {i : ℕ}
    (hi : i < input.matrixIndexCount) (hnames : ¬input.Names i) : input.namedMatrix i = some none := by
  unfold Input.namedMatrix
  rw [h.indices_read hi, Option.bind_eq_bind, Option.bind_some, if_pos (by simpa [Input.Names] using hnames)]

/-! ### The scan of the slots -/

def Input.slotList (input : Input M) : List ℕ :=
  (List.range input.vertexGroupSlotCount).map input.slot

def Input.scan (input : Input M) : SlotScan := input.slotList.foldl SlotScan.slot {}

structure Scanned (slots : List ℕ) (scan : SlotScan) : Prop where
  le_max : ∀ slot ∈ slots, slot ≤ scan.maxVertexGroupSlot
  mem_iff : ∀ slot, slot ∈ scan.uniqueGroupSlots ↔ slot ∈ slots
  nodup : scan.uniqueGroupSlots.Nodup

theorem Scanned.slot {slots : List ℕ} {scan : SlotScan} (h : Scanned slots scan) (slot : ℕ) :
    Scanned (slots ++ [slot]) (scan.slot slot) where
  le_max := by
    rw [List.forall_mem_append, List.forall_mem_singleton]
    exact ⟨fun s hs => (h.le_max s hs).trans (Nat.le_max_left _ _), Nat.le_max_right _ _⟩
  mem_iff s := by
    unfold SlotScan.slot
    dsimp only
    rw [List.mem_append, List.mem_singleton]
    by_cases hseen : slot ∈ scan.uniqueGroupSlots
    · rw [if_pos hseen, h.mem_iff]
      exact ⟨.inl, fun hor => hor.elim id fun heq => heq ▸ (h.mem_iff slot).mp hseen⟩
    · rw [if_neg hseen, List.mem_append, List.mem_singleton, h.mem_iff]
  nodup := by
    unfold SlotScan.slot
    dsimp only
    by_cases hseen : slot ∈ scan.uniqueGroupSlots
    · rw [if_pos hseen]
      exact h.nodup
    · rw [if_neg hseen]
      exact List.nodup_append'.mpr ⟨h.nodup, List.nodup_singleton _, List.disjoint_singleton.mpr hseen⟩

theorem scanned_foldl (slots : List ℕ) : Scanned slots (slots.foldl SlotScan.slot {}) := by
  induction slots using List.reverseRecOn with
  | nil => exact ⟨by simp, by simp, List.nodup_nil⟩
  | append_singleton slots slot ih =>
    rw [List.foldl_append]
    exact ih.slot slot

theorem scanned_scan (input : Input M) : Scanned input.slotList input.scan :=
  scanned_foldl input.slotList

theorem Admitted.scanSlots_eq (h : Admitted input) {n i : ℕ}
    (hi : i + n ≤ input.vertexGroupSlotCount) (scan : SlotScan) :
    scanSlots input n i scan = some (((List.range' i n).map input.slot).foldl SlotScan.slot scan) := by
  induction n generalizing i scan with
  | zero => rfl
  | succ n ih =>
    obtain ⟨groupSlot, hread, hslot⟩ := h.slots_read (show i < input.vertexGroupSlotCount by omega)
    rw [scanSlots, hread, Option.bind_eq_bind, Option.bind_some, ih (by omega), hslot]
    rfl

theorem Admitted.scanSlots_all (h : Admitted input) :
    scanSlots input input.vertexGroupSlotCount 0 {} = some input.scan := by
  rw [h.scanSlots_eq (by omega), ← List.range_eq_range']
  rfl

/-! ### Filling slots -/

def writeAll (target : ℕ → ℕ) (value : ℕ → M) : ℕ → ℕ → List M → List M
  | 0, _, palette => palette
  | n + 1, i, palette => writeAll target value n (i + 1) (palette.set (target i) (value i))

variable {source : ℕ → Option (Option M)} {target : ℕ → ℕ} {value : ℕ → M} {n i : ℕ}
  {palette : List M}

theorem fillSlots_of_forall (h : ∀ k, i ≤ k → k < i + n → source k = some (some (value k))) :
    fillSlots source target n i palette = some (true, writeAll target value n i palette) := by
  induction n generalizing i palette with
  | zero => rfl
  | succ n ih =>
    rw [fillSlots, h i (Nat.le_refl i) (by omega), Option.bind_eq_bind, Option.bind_some]
    exact ih fun k hk hk' => h k (by omega) (by omega)

theorem fillSlots_of_exists (h : ∀ k, i ≤ k → k < i + n → ∃ matrix, source k = some matrix)
    (hbad : ∃ k, i ≤ k ∧ k < i + n ∧ source k = some none) :
    ∃ left, fillSlots source target n i palette = some (false, left) := by
  induction n generalizing i palette with
  | zero =>
    obtain ⟨k, hk, hk', -⟩ := hbad
    omega
  | succ n ih =>
    obtain ⟨matrix, hmatrix⟩ := h i (Nat.le_refl i) (by omega)
    rw [fillSlots, hmatrix, Option.bind_eq_bind, Option.bind_some]
    cases matrix with
    | none => exact ⟨palette, rfl⟩
    | some matrix =>
      refine ih (fun k hk hk' => h k (by omega) (by omega)) ?_
      obtain ⟨k, hk, hk', hnone⟩ := hbad
      have hne : k ≠ i := by
        rintro rfl
        rw [hmatrix] at hnone
        cases hnone
      exact ⟨k, by omega, by omega, hnone⟩

@[simp]
theorem length_writeAll : (writeAll target value n i palette).length = palette.length := by
  induction n generalizing i palette with
  | zero => rfl
  | succ n ih => rw [writeAll, ih, List.length_set]

theorem getElem?_writeAll_of_ne {slot : ℕ} (h : ∀ k, i ≤ k → k < i + n → target k ≠ slot) :
    (writeAll target value n i palette)[slot]? = palette[slot]? := by
  induction n generalizing i palette with
  | zero => rfl
  | succ n ih =>
    rw [writeAll, ih fun k hk hk' => h k (by omega) (by omega),
      List.getElem?_set_ne (h i (Nat.le_refl i) (by omega))]

theorem getElem?_writeAll_of_eq {k : ℕ} (hk : i ≤ k) (hk' : k < i + n)
    (hlength : target k < palette.length)
    (honce : ∀ k', i ≤ k' → k' < i + n → target k' = target k → k' = k) :
    (writeAll target value n i palette)[target k]? = some (value k) := by
  induction n generalizing i palette with
  | zero => omega
  | succ n ih =>
    rw [writeAll]
    by_cases heq : i = k
    · subst heq
      rw [getElem?_writeAll_of_ne, List.getElem?_set_self hlength]
      intro k' hk hk' hsame
      have := honce k' (by omega) (by omega) hsame
      omega
    · exact ih (by omega) (by omega) (by rwa [List.length_set])
        fun k' hk hk' => honce k' (by omega) (by omega)

theorem writeAll_id (h : palette.length = n) :
    writeAll id value n 0 palette = (List.range n).map value := by
  refine List.ext_getElem? fun slot => ?_
  by_cases hslot : slot < n
  · have hwritten := @getElem?_writeAll_of_eq M id value n 0 palette slot (Nat.zero_le _) (by omega)
      (by rw [h]; exact hslot) (fun k' _ _ hsame => hsame)
    rw [id_eq] at hwritten
    rw [hwritten, List.getElem?_map, List.getElem?_range hslot]
    rfl
  · rw [List.getElem?_eq_none (by rw [length_writeAll]; omega), List.getElem?_eq_none (by simp; omega)]

def placed (zero : M) (unique : List ℕ) (value : ℕ → M) (length : ℕ) : List M :=
  (List.range length).map fun slot => if slot ∈ unique then value (unique.idxOf slot) else zero

theorem writeAll_unique {zero : M} {unique : List ℕ} {length : ℕ} (hnodup : unique.Nodup)
    (hlt : ∀ slot ∈ unique, slot < length) :
    writeAll (fun k => unique.getD k 0) value unique.length 0 (List.replicate length zero) =
      placed zero unique value length := by
  refine List.ext_getElem? fun slot => ?_
  unfold placed
  by_cases hslot : slot < length
  · rw [List.getElem?_map, List.getElem?_range hslot, Option.map_some]
    have hget : ∀ k, k < unique.length → unique.getD k 0 ∈ unique := by
      intro k hk
      rw [List.getD_eq_getElem _ _ hk]
      exact List.getElem_mem hk
    by_cases hmem : slot ∈ unique
    · have hidx : unique.idxOf slot < unique.length := List.idxOf_lt_length_iff.mpr hmem
      have htarget : unique.getD (unique.idxOf slot) 0 = slot := by
        rw [List.getD_eq_getElem _ _ hidx, List.getElem_idxOf]
      have hwritten := @getElem?_writeAll_of_eq M (fun k => unique.getD k 0) value unique.length 0
        (List.replicate length zero) (unique.idxOf slot) (Nat.zero_le _) (by omega)
        (by rw [htarget, List.length_replicate]; exact hslot) (fun k' _ hk' hsame => by
          rw [htarget, List.getD_eq_getElem _ _ (by omega)] at hsame
          rw [← hsame, hnodup.idxOf_getElem])
      rw [htarget] at hwritten
      rw [hwritten, if_pos hmem]
    · rw [getElem?_writeAll_of_ne, List.getElem?_replicate_of_lt hslot, if_neg hmem]
      intro k _ hk hsame
      rw [Nat.zero_add] at hk
      exact hmem (hsame ▸ hget k hk)
  · rw [List.getElem?_eq_none (by rw [length_writeAll, List.length_replicate]; omega),
      List.getElem?_eq_none (by simp; omega)]

/-! ### Fallbacks -/

def Yields (attempt : Option (Bool × List M)) : Option (List M) → Prop
  | some palette => attempt = some (true, palette)
  | none => ∃ left, attempt = some (false, left)

/-- The palette of `buildDirectMatrixRemap`. -/
def Input.directMatrixRemap (arith : Arithmetic M) (input : Input M) : Option (List M) :=
  if input.scan.maxVertexGroupSlot < input.matrixIndexCount ∧
      ∀ i < input.scan.maxVertexGroupSlot + 1, input.Names i then
    some ((List.range (input.scan.maxVertexGroupSlot + 1)).map (input.named arith))
  else none

/-- The palette of `buildSparseMatrixRemap`. -/
def Input.sparseMatrixRemap (arith : Arithmetic M) (input : Input M) : Option (List M) :=
  if input.scan.uniqueGroupSlots.length ≤ input.matrixIndexCount ∧
      ∀ i < input.scan.uniqueGroupSlots.length, input.Names i then
    some (placed arith.zero input.scan.uniqueGroupSlots (input.named arith)
      (input.scan.maxVertexGroupSlot + 1))
  else none

/-- The palette of `buildDirectPosePalette`. -/
def Input.directPosePalette (arith : Arithmetic M) (input : Input M) : Option (List M) :=
  if input.scan.maxVertexGroupSlot < input.poseMatrixCount.toNat ∧
      input.scan.maxVertexGroupSlot < input.posePaletteSize then
    some ((List.range (input.scan.maxVertexGroupSlot + 1)).map (input.pose arith))
  else none

/-- The palette of `buildSparsePosePalette`. -/
def Input.sparsePosePalette (arith : Arithmetic M) (input : Input M) : Option (List M) :=
  if input.scan.uniqueGroupSlots.length ≤ input.poseMatrixCount.toNat ∧
      input.scan.uniqueGroupSlots.length ≤ input.posePaletteSize then
    some (placed arith.zero input.scan.uniqueGroupSlots (input.pose arith)
      (input.scan.maxVertexGroupSlot + 1))
  else none

/-- The palette of `buildUniformPosePalette`, in the set that has it. -/
def Input.uniformPosePalette (arith : Arithmetic M) (input : Input M) (fallbackSet : FallbackSet) :
    Option (List M) :=
  if fallbackSet = .matrixPoseAndUniformRoot then
    some (List.replicate (max (input.scan.maxVertexGroupSlot + 1) input.groupCount.toNat)
      (input.pose arith 0))
  else none

/-- The palette of the first fallback that succeeds, in the fixed order. -/
def Input.firstFallback (arith : Arithmetic M) (input : Input M) (fallbackSet : FallbackSet) :
    Option (List M) :=
  [input.directMatrixRemap arith, input.sparseMatrixRemap arith, input.directPosePalette arith,
    input.sparsePosePalette arith, input.uniformPosePalette arith fallbackSet].findSome? id

theorem Admitted.slotList_ne_nil (h : Admitted input) : input.slotList ≠ [] := by
  unfold Input.slotList
  simpa using h.vertexGroupSlotCount

theorem Admitted.unique_ne_zero (h : Admitted input) : input.scan.uniqueGroupSlots.length ≠ 0 := by
  obtain ⟨slot, hslot⟩ := List.exists_mem_of_ne_nil _ h.slotList_ne_nil
  have hmem := ((scanned_scan input).mem_iff slot).mpr hslot
  exact (List.length_pos_of_mem hmem).ne'

theorem unique_lt (input : Input M) {slot : ℕ} (h : slot ∈ input.scan.uniqueGroupSlots) :
    slot < input.scan.maxVertexGroupSlot + 1 := by
  have hscanned := scanned_scan input
  exact Nat.lt_succ_of_le (hscanned.le_max slot ((hscanned.mem_iff slot).mp h))

@[simp]
theorem length_resize (n : ℕ) (fill : M) (palette : List M) : (resize n fill palette).length = n := by
  unfold resize
  rw [List.length_append, List.length_take, List.length_replicate]
  omega

section

variable (h : Admitted input)
include h

theorem Admitted.fillSlots_named (arith : Arithmetic M) {n : ℕ} (hn : n ≤ input.matrixIndexCount)
    (target : ℕ → ℕ) (palette : List M) :
    Yields (fillSlots input.namedMatrix target n 0 palette)
      (if ∀ i < n, input.Names i then some (writeAll target (input.named arith) n 0 palette)
        else none) := by
  by_cases hall : ∀ i < n, input.Names i
  · rw [if_pos hall]
    exact fillSlots_of_forall fun k _ hk => h.namedMatrix_of_names (by omega) (hall k (by omega))
  · rw [if_neg hall]
    push Not at hall
    obtain ⟨bad, hbad, hnames⟩ := hall
    refine fillSlots_of_exists (fun k _ hk => ?_)
      ⟨bad, Nat.zero_le _, by omega, h.namedMatrix_of_not_names (by omega) hnames⟩
    by_cases hk' : input.Names k
    · exact ⟨_, @Admitted.namedMatrix_of_names M arith input h k (by omega) hk'⟩
    · exact ⟨_, h.namedMatrix_of_not_names (by omega) hk'⟩

theorem Admitted.fillSlots_pose (arith : Arithmetic M) {n : ℕ} (hn : n ≤ input.posePaletteSize)
    (target : ℕ → ℕ) (palette : List M) :
    fillSlots input.poseMatrix target n 0 palette =
      some (true, writeAll target (input.pose arith) n 0 palette) := by
  refine fillSlots_of_forall fun k _ hk => ?_
  have hread : input.poses.read k = some (input.pose arith k) := h.poses_read (by omega)
  rw [Input.poseMatrix, hread]
  rfl

theorem Admitted.buildDirectMatrixRemap_yields (palette : List M) :
    Yields (buildDirectMatrixRemap arith input input.scan palette) (input.directMatrixRemap arith) := by
  unfold buildDirectMatrixRemap Input.directMatrixRemap
  by_cases hmax : input.scan.maxVertexGroupSlot < input.matrixIndexCount
  · rw [if_neg (by omega)]
    have hfill := h.fillSlots_named arith (Nat.succ_le_of_lt hmax) id
      (resize (input.scan.maxVertexGroupSlot + 1) arith.identity palette)
    rw [writeAll_id (length_resize _ _ _)] at hfill
    simpa only [hmax, true_and] using hfill
  · rw [if_pos (by omega), if_neg fun hand => hmax hand.1]
    exact ⟨palette, rfl⟩

theorem Admitted.buildSparseMatrixRemap_yields (palette : List M) :
    Yields (buildSparseMatrixRemap arith input input.scan palette) (input.sparseMatrixRemap arith) := by
  have hunique := h.unique_ne_zero
  unfold buildSparseMatrixRemap Input.sparseMatrixRemap
  by_cases hcount : input.scan.uniqueGroupSlots.length ≤ input.matrixIndexCount
  · rw [if_neg (by omega)]
    have hfill := h.fillSlots_named arith hcount
      (fun i => input.scan.uniqueGroupSlots.getD i 0)
      (List.replicate (input.scan.maxVertexGroupSlot + 1) arith.zero)
    rw [writeAll_unique (scanned_scan input).nodup fun slot => unique_lt input] at hfill
    simpa only [hcount, true_and] using hfill
  · rw [if_pos (by omega), if_neg fun hand => hcount hand.1]
    exact ⟨palette, rfl⟩

theorem Admitted.buildDirectPosePalette_yields (palette : List M) :
    Yields (buildDirectPosePalette arith input input.scan palette) (input.directPosePalette arith) := by
  unfold buildDirectPosePalette Input.directPosePalette
  by_cases hmax : input.scan.maxVertexGroupSlot < input.poseMatrixCount.toNat ∧
      input.scan.maxVertexGroupSlot < input.posePaletteSize
  · rw [if_neg (by omega), if_pos hmax, h.fillSlots_pose arith hmax.2, writeAll_id (length_resize _ _ _)]
    rfl
  · rw [if_pos (by omega), if_neg hmax]
    exact ⟨palette, rfl⟩

theorem Admitted.buildSparsePosePalette_yields (palette : List M) :
    Yields (buildSparsePosePalette arith input input.scan palette) (input.sparsePosePalette arith) := by
  have hunique := h.unique_ne_zero
  unfold buildSparsePosePalette Input.sparsePosePalette
  by_cases hcount : input.scan.uniqueGroupSlots.length ≤ input.poseMatrixCount.toNat ∧
      input.scan.uniqueGroupSlots.length ≤ input.posePaletteSize
  · rw [if_neg (by omega), if_pos hcount, h.fillSlots_pose arith hcount.2,
      writeAll_unique (scanned_scan input).nodup fun slot => unique_lt input]
    rfl
  · rw [if_pos (by omega), if_neg hcount]
    exact ⟨palette, rfl⟩

theorem Admitted.buildUniformPosePalette_yields (fallbackSet : FallbackSet) (palette : List M) :
    Yields (if fallbackSet = .matrixPoseAndUniformRoot then
        buildUniformPosePalette input input.scan palette else some (false, palette))
      (input.uniformPosePalette arith fallbackSet) := by
  unfold Input.uniformPosePalette
  by_cases hset : fallbackSet = .matrixPoseAndUniformRoot
  · have hread : input.poses.read 0 = some (input.pose arith 0) :=
      h.poses_read (Nat.pos_of_ne_zero h.posePaletteSize)
    rw [if_pos hset, if_pos hset, buildUniformPosePalette,
      if_neg (not_or.mpr ⟨h.poseMatrixCount, h.posePaletteSize⟩), hread]
    rfl
  · rw [if_neg hset, if_neg hset]
    exact ⟨palette, rfl⟩

end

theorem Yields.orElse {attempt : Option (Bool × List M)} {next : List M → Option (Bool × List M)}
    {first second : Option (List M)} (h : Yields attempt first)
    (hnext : ∀ palette, Yields (next palette) second) :
    Yields (GroupPalette.orElse attempt next) (first.or second) := by
  cases first with
  | some palette =>
    have hattempt : attempt = some (true, palette) := h
    rw [hattempt]
    rfl
  | none =>
    obtain ⟨left, rfl⟩ := h
    exact hnext left

theorem Admitted.tryFallbacks_yields (h : Admitted input) (fallbackSet : FallbackSet)
    (palette : List M) :
    Yields (tryFallbacks arith input fallbackSet input.scan palette)
      (input.firstFallback arith fallbackSet) := by
  have hfirst : input.firstFallback arith fallbackSet =
      ((((input.directMatrixRemap arith).or (input.sparseMatrixRemap arith)).or
        (input.directPosePalette arith)).or (input.sparsePosePalette arith)).or
          (input.uniformPosePalette arith fallbackSet) := by
    unfold Input.firstFallback
    cases input.directMatrixRemap arith <;> cases input.sparseMatrixRemap arith <;>
      cases input.directPosePalette arith <;> cases input.sparsePosePalette arith <;>
        cases input.uniformPosePalette arith fallbackSet <;> rfl
  rw [hfirst]
  exact ((((h.buildDirectMatrixRemap_yields palette).orElse h.buildSparseMatrixRemap_yields).orElse
    h.buildDirectPosePalette_yields).orElse h.buildSparsePosePalette_yields).orElse
      (h.buildUniformPosePalette_yields fallbackSet)

end War3VK.Render.GroupPalette
