import Mathlib.Data.List.Range
import Mathlib.Order.Lattice
import War3VK.Lib.Bytes

/-!
# Index domains

What the shadow freeze reads off an index buffer before it compacts the vertices of a draw
(`src/d3d9/war3/memory/war3_cpu_readable_buffer_span.cpp`). One scan finds the vertices that the indices
name (`ComputeWar3ExactIndexVertexDomain`), with or without a copy of the buffer, and a second one
rewrites the indices for the compacted vertices (`RebaseWar3ExactIndexDomain`).
-/

namespace War3VK.Memory.IndexDomain

open Lib

/-! ## Spans -/

/-- `War3CpuReadableSpanRejectReason`. -/
inductive SpanRejectReason
  | none
  | nullBase
  | notCpuReadable
  | missingOwner
  | missingGeneration
  | offsetOutsideAllocation
  | lengthOutsideAllocation
  | addressOverflow
  deriving DecidableEq, Repr

/-- `War3CpuReadableBufferSpan`. -/
structure BufferSpan where
  /-- `data`: the bytes from the pointer on, if it is not null. -/
  data : Option Bytes := Option.none
  length : UInt64 := 0
  ownerIdentity : UInt64 := 0
  identityGeneration : UInt64 := 0
  allocationGeneration : UInt64 := 0
  contentGeneration : UInt64 := 0
  rejectReason : SpanRejectReason := .nullBase
  readable : ∀ bytes ∈ data, length.toNat ≤ bytes.length := by simp

/-- `operator bool`. -/
def BufferSpan.usable (span : BufferSpan) : Bool :=
  span.data.isSome && span.length ≠ 0 && span.ownerIdentity ≠ 0 && span.identityGeneration ≠ 0 &&
    span.allocationGeneration ≠ 0 && span.contentGeneration ≠ 0 && span.rejectReason = .none

def BufferSpan.bytes (span : BufferSpan) : Bytes := span.data.getD []

def indexWidth (indexElementBytes : UInt32) : Bool := indexElementBytes = 2 || indexElementBytes = 4

/-- `requiredBytes`. -/
def requiredBytes (indexElementBytes indexCount : UInt32) : UInt64 :=
  indexElementBytes.toUInt64 * indexCount.toUInt64

def readIndex (indexElementBytes : UInt32) (bytes : Bytes) (i : ℕ) : UInt32 :=
  if indexElementBytes = 2 then (getLe UInt16 (i * 2) bytes).toUInt32 else getLe UInt32 (i * 4) bytes

/-! ## The domain -/

/-- `War3ExactIndexVertexDomain`. -/
structure ExactIndexVertexDomain where
  firstVertex : UInt32 := 0
  vertexCount : UInt32 := 0
  minIndex : UInt32 := 0
  maxIndex : UInt32 := 0
  valid : Bool := false
  deriving DecidableEq, Repr

/-- The variables of the scan. The vertices are signed 64-bit numbers there, which none outgrows. -/
structure Scan where
  minIndex : UInt32 := 0xFFFFFFFF
  maxIndex : UInt32 := 0
  firstVertex : ℤ := 2 ^ 63 - 1
  lastVertex : ℤ := -1

def vertexOf (baseVertex : Int32) (index : UInt32) : ℤ := index.toNat + baseVertex.toInt

/-- One round of the scan, which stops at a vertex that is out of range. -/
def Scan.visit (baseVertex : Int32) (vertexCapacity : UInt32) (scan : Scan) (index : UInt32) :
    Option Scan :=
  let vertex := vertexOf baseVertex index
  if vertex < 0 || vertex ≥ vertexCapacity.toNat then none
  else some
    { minIndex := min scan.minIndex index
      maxIndex := max scan.maxIndex index
      firstVertex := min scan.firstVertex vertex
      lastVertex := max scan.lastVertex vertex }

def Scan.domain (scan : Scan) : ExactIndexVertexDomain :=
  if scan.firstVertex < 0 || scan.lastVertex < scan.firstVertex ||
      scan.lastVertex - scan.firstVertex + 1 > 0xFFFFFFFF then {}
  else
    let vertexCount := UInt32.ofNat (scan.lastVertex - scan.firstVertex + 1).toNat
    { firstVertex := UInt32.ofNat scan.firstVertex.toNat
      vertexCount
      minIndex := scan.minIndex
      maxIndex := scan.maxIndex
      valid := vertexCount ≠ 0 }

def fetched (indexElementBytes indexCount : UInt32) (bytes : Bytes) : List UInt32 :=
  (List.range indexCount.toNat).map (readIndex indexElementBytes bytes)

/-- `ComputeWar3ExactIndexVertexDomain`. -/
def computeExactIndexVertexDomain (indices : BufferSpan) (indexElementBytes indexCount : UInt32)
    (baseVertex : Int32) (vertexCapacity : UInt32) : ExactIndexVertexDomain :=
  if !indices.usable || !indexWidth indexElementBytes || indexCount = 0 || vertexCapacity = 0 then {}
  else if requiredBytes indexElementBytes indexCount > indices.length then {}
  else
    ((fetched indexElementBytes indexCount indices.bytes).foldlM
      (Scan.visit baseVertex vertexCapacity) {}).elim {} Scan.domain

/-! ## The prepared scan -/

/-- `kExactIndexDomainBulkReadCapacity`. -/
def bulkReadCapacity : ℕ := 64 * 1024

/-- `t_exactIndexDomainBulkRead`. -/
structure BulkRead where
  bytes : Bytes
  size : bytes.length = bulkReadCapacity

/-- `War3ExactIndexDomainScanInput`. -/
structure ScanInput where
  indices : BufferSpan
  indexElementBytes : UInt32
  indexCount : UInt32
  baseVertex : Int32
  vertexCapacity : UInt32
  sourceHostCached : Bool := false
  bulkReadEnabled : Bool := true

/-- The bytes of the copy: the source's first bytes, then what an earlier copy left. -/
def staged (bulkRead : BulkRead) (source : Bytes) (n : ℕ) : Bytes :=
  overwrite 0 (source.take n) bulkRead.bytes

theorem staged_length {bulkRead : BulkRead} {source : Bytes} {n : ℕ} (hn : n ≤ bulkReadCapacity) :
    (staged bulkRead source n).length = bulkReadCapacity := by
  rw [staged, overwrite_length, bulkRead.size]
  rw [bulkRead.size, List.length_take]
  omega

/-- `ComputeWar3ExactIndexVertexDomainPrepared`. -/
def computeExactIndexVertexDomainPrepared (bulkRead : BulkRead) (input : ScanInput) :
    ExactIndexVertexDomain :=
  let required := requiredBytes input.indexElementBytes input.indexCount
  if !input.indices.usable || !indexWidth input.indexElementBytes || input.indexCount = 0 ||
      input.vertexCapacity = 0 then {}
  else if required > input.indices.length then {}
  else if h : (input.bulkReadEnabled && !input.sourceHostCached &&
      decide (required.toNat ≤ bulkReadCapacity)) = true then
    let copy : BufferSpan :=
      { input.indices with
        data := some (staged bulkRead input.indices.bytes required.toNat)
        length := required
        readable := by
          intro bytes hbytes
          simp only [Bool.and_eq_true, decide_eq_true_eq] at h
          rw [Option.mem_some_iff] at hbytes
          rw [← hbytes, staged_length h.2]
          exact h.2 }
    computeExactIndexVertexDomain copy input.indexElementBytes input.indexCount input.baseVertex
      input.vertexCapacity
  else
    computeExactIndexVertexDomain input.indices input.indexElementBytes input.indexCount
      input.baseVertex input.vertexCapacity

/-! ## The rewritten indices -/

def rebaseIndex (indexElementBytes minIndex maxIndex : UInt32) (bytes : Bytes) (i : ℕ)
    (destination : Bytes) : Option Bytes :=
  let rawIndex := readIndex indexElementBytes bytes i
  if rawIndex < minIndex || rawIndex > maxIndex then none
  else
    let rebased := rawIndex - minIndex
    if indexElementBytes = 2 then
      if rebased > 0xFFFF then none
      else some (overwrite (i * 2) (putLe rebased.toUInt16) destination)
    else some (overwrite (i * 4) (putLe rebased) destination)

/-- The rounds of the rewriting, with what the output holds when one fails. -/
def rebaseIndices (indexElementBytes minIndex maxIndex : UInt32) (bytes : Bytes) :
    List ℕ → Bytes → Bool × Bytes
  | [], destination => (true, destination)
  | i :: rest, destination =>
    match rebaseIndex indexElementBytes minIndex maxIndex bytes i destination with
    | none => (false, destination)
    | some destination =>
      rebaseIndices indexElementBytes minIndex maxIndex bytes rest destination

/-- `RebaseWar3ExactIndexDomain`, with the bytes at `output` if it is not null. -/
def rebaseExactIndexDomain (indices : BufferSpan)
    (indexElementBytes indexCount minIndex maxIndex : UInt32) (output : Option Bytes)
    (outputBytes : UInt64) : Bool × Option Bytes :=
  match output with
  | none => (false, none)
  | some destination =>
    let required := requiredBytes indexElementBytes indexCount
    if !indices.usable || indexCount = 0 || minIndex > maxIndex || !indexWidth indexElementBytes then
      (false, output)
    else if required > indices.length || required > outputBytes then (false, output)
    else
      let (succeeded, destination) := rebaseIndices indexElementBytes minIndex maxIndex indices.bytes
        (List.range indexCount.toNat) destination
      (succeeded, some destination)

end War3VK.Memory.IndexDomain

/-!
## The domain, the copy and the rewritten indices agree

The scan is an induction on the indices: after each of them its variables bound what was read and
are attained (`Bounds`). The rewriting is an induction on the places that were written. Both read an
index at the same bytes, and so does a scan of the copy (`fetched_staged`).
-/

namespace War3VK.Memory.IndexDomain

open Lib

variable {baseVertex : Int32} {vertexCapacity indexElementBytes indexCount : UInt32}

/-! ### The scan -/

def InCapacity (baseVertex : Int32) (vertexCapacity index : UInt32) : Prop :=
  0 ≤ vertexOf baseVertex index ∧ vertexOf baseVertex index < vertexCapacity.toNat

/-- The variables of a scan bound the indices and are attained by them. -/
structure Bounds (baseVertex : Int32) (scan : Scan) (indices : List UInt32) : Prop where
  bounds : ∀ index ∈ indices, scan.minIndex ≤ index ∧ index ≤ scan.maxIndex
  minIndex : scan.minIndex ∈ indices
  maxIndex : scan.maxIndex ∈ indices
  firstVertex : scan.firstVertex = vertexOf baseVertex scan.minIndex
  /-- The last vertex is that of the greatest index. -/
  lastVertex : scan.lastVertex = vertexOf baseVertex scan.maxIndex

theorem min_cases (a b : UInt32) : a ≤ b ∧ min a b = a ∨ b ≤ a ∧ min a b = b := by
  by_cases h : a ≤ b
  · exact .inl ⟨h, if_pos h⟩
  · exact .inr ⟨UInt32.le_of_lt (UInt32.not_le.mp h), if_neg h⟩

theorem max_cases (a b : UInt32) : a ≤ b ∧ max a b = b ∨ b ≤ a ∧ max a b = a := by
  by_cases h : a ≤ b
  · exact .inl ⟨h, if_pos h⟩
  · exact .inr ⟨UInt32.le_of_lt (UInt32.not_le.mp h), if_neg h⟩

theorem vertexOf_le {a b : UInt32} : vertexOf baseVertex a ≤ vertexOf baseVertex b ↔ a ≤ b := by
  rw [UInt32.le_iff_toNat_le, vertexOf, vertexOf]
  omega

theorem vertexOf_min (a b : UInt32) :
    vertexOf baseVertex (min a b) = min (vertexOf baseVertex a) (vertexOf baseVertex b) := by
  obtain ⟨hle, hmin⟩ | ⟨hle, hmin⟩ := min_cases a b
  · rw [hmin, Int.min_eq_left (vertexOf_le.mpr hle)]
  · rw [hmin, Int.min_eq_right (vertexOf_le.mpr hle)]

theorem vertexOf_max (a b : UInt32) :
    vertexOf baseVertex (max a b) = max (vertexOf baseVertex a) (vertexOf baseVertex b) := by
  obtain ⟨hle, hmax⟩ | ⟨hle, hmax⟩ := max_cases a b
  · rw [hmax, Int.max_eq_right (vertexOf_le.mpr hle)]
  · rw [hmax, Int.max_eq_left (vertexOf_le.mpr hle)]

variable {index minIndex maxIndex : UInt32} {indices : List UInt32} {destination : Bytes}

theorem visit_eq_some {scan scan' : Scan}
    (h : scan.visit baseVertex vertexCapacity index = some scan') :
    InCapacity baseVertex vertexCapacity index ∧ scan' =
      { minIndex := min scan.minIndex index
        maxIndex := max scan.maxIndex index
        firstVertex := min scan.firstVertex (vertexOf baseVertex index)
        lastVertex := max scan.lastVertex (vertexOf baseVertex index) } := by
  unfold Scan.visit at h
  dsimp only at h
  split_ifs at h with hrange
  simp only [ge_iff_le, Bool.or_eq_true, decide_eq_true_eq, not_or, not_lt, not_le] at hrange
  exact ⟨hrange, (Option.some.inj h).symm⟩

theorem visit_isSome (scan : Scan) (h : InCapacity baseVertex vertexCapacity index) :
    ∃ scan', scan.visit baseVertex vertexCapacity index = some scan' := by
  unfold Scan.visit
  dsimp only
  rw [if_neg]
  · exact ⟨_, rfl⟩
  · simp only [ge_iff_le, Bool.or_eq_true, decide_eq_true_eq, not_or, not_lt, not_le]
    exact h

theorem bounds_first {scan : Scan} (h : Scan.visit baseVertex vertexCapacity {} index = some scan) :
    Bounds baseVertex scan [index] := by
  obtain ⟨⟨hzero, hlt⟩, rfl⟩ := visit_eq_some h
  have hcapacity := vertexCapacity.toNat_lt
  have hindex := index.toNat_lt
  have hmin : min (0xFFFFFFFF : UInt32) index = index := by
    obtain ⟨hle, hmin⟩ | ⟨-, hmin⟩ := min_cases 0xFFFFFFFF index
    · rw [hmin, ← UInt32.toNat_inj]
      rw [UInt32.le_iff_toNat_le] at hle
      simp only [UInt32.reduceToNat] at hle ⊢
      omega
    · exact hmin
  have hmax : max (0 : UInt32) index = index := by
    obtain ⟨-, hmax⟩ | ⟨hle, hmax⟩ := max_cases 0 index
    · exact hmax
    · rw [hmax, ← UInt32.toNat_inj]
      rw [UInt32.le_iff_toNat_le] at hle
      simp only [UInt32.reduceToNat] at hle ⊢
      omega
  constructor
  · intro other hother
    rw [List.mem_singleton.mp hother]
    exact ⟨hmin.symm ▸ UInt32.le_refl _, hmax.symm ▸ UInt32.le_refl _⟩
  · exact List.mem_singleton.mpr hmin
  · exact List.mem_singleton.mpr hmax
  · dsimp only
    rw [hmin]
    omega
  · dsimp only
    rw [hmax]
    omega

theorem Bounds.visit {scan scan' : Scan} (h : Bounds baseVertex scan indices)
    (hvisit : scan.visit baseVertex vertexCapacity index = some scan') :
    Bounds baseVertex scan' (indices ++ [index]) := by
  obtain ⟨-, rfl⟩ := visit_eq_some hvisit
  have hmin := min_cases scan.minIndex index
  have hmax := max_cases scan.maxIndex index
  constructor
  · intro other hother
    obtain hother | hother := List.mem_append.mp hother
    · obtain ⟨hlow, hhigh⟩ := h.bounds other hother
      constructor
      · obtain ⟨-, hmin⟩ | ⟨hle, hmin⟩ := hmin
        · exact hmin.symm ▸ hlow
        · exact hmin.symm ▸ UInt32.le_trans hle hlow
      · obtain ⟨hle, hmax⟩ | ⟨-, hmax⟩ := hmax
        · exact hmax.symm ▸ UInt32.le_trans hhigh hle
        · exact hmax.symm ▸ hhigh
    · rw [List.mem_singleton.mp hother]
      constructor
      · obtain ⟨hle, hmin⟩ | ⟨-, hmin⟩ := hmin
        · exact hmin.symm ▸ hle
        · exact hmin.symm ▸ UInt32.le_refl _
      · obtain ⟨-, hmax⟩ | ⟨hle, hmax⟩ := hmax
        · exact hmax.symm ▸ UInt32.le_refl _
        · exact hmax.symm ▸ hle
  · rw [List.mem_append, List.mem_singleton]
    obtain ⟨-, hmin⟩ | ⟨-, hmin⟩ := hmin
    · exact .inl (hmin.symm ▸ h.minIndex)
    · exact .inr hmin
  · rw [List.mem_append, List.mem_singleton]
    obtain ⟨-, hmax⟩ | ⟨-, hmax⟩ := hmax
    · exact .inr hmax
    · exact .inl (hmax.symm ▸ h.maxIndex)
  · dsimp only
    rw [h.firstVertex, vertexOf_min]
  · dsimp only
    rw [h.lastVertex, vertexOf_max]

theorem bounds_of_scan (hne : indices ≠ []) {scan : Scan}
    (h : indices.foldlM (Scan.visit baseVertex vertexCapacity) {} = some scan) :
    Bounds baseVertex scan indices ∧ ∀ index ∈ indices, InCapacity baseVertex vertexCapacity index := by
  induction indices using List.reverseRecOn generalizing scan with
  | nil => exact absurd rfl hne
  | append_singleton indices index ih =>
    rw [List.foldlM_append] at h
    obtain ⟨before, hbefore, hlast⟩ := Option.bind_eq_some_iff.mp h
    rw [List.foldlM_cons] at hlast
    obtain ⟨after, hvisit, hafter⟩ := Option.bind_eq_some_iff.mp hlast
    obtain rfl : after = scan := by simpa using hafter
    have hindex := (visit_eq_some hvisit).1
    rw [List.forall_mem_append]
    cases hindices : indices with
    | nil =>
      subst hindices
      obtain rfl : ({} : Scan) = before := by simpa using hbefore
      exact ⟨bounds_first hvisit, by simp, by simpa using hindex⟩
    | cons first rest =>
      rw [← hindices]
      obtain ⟨hbounds, hall⟩ := ih (by simp [hindices]) hbefore
      exact ⟨hbounds.visit hvisit, hall, by simpa using hindex⟩

theorem scan_isSome (scan : Scan)
    (h : ∀ index ∈ indices, InCapacity baseVertex vertexCapacity index) :
    ∃ scan', indices.foldlM (Scan.visit baseVertex vertexCapacity) scan = some scan' := by
  induction indices generalizing scan with
  | nil => exact ⟨scan, rfl⟩
  | cons index indices ih =>
    rw [List.forall_mem_cons] at h
    obtain ⟨next, hnext⟩ := visit_isSome scan h.1
    obtain ⟨scan', hscan'⟩ := ih next h.2
    exact ⟨scan', by rw [List.foldlM_cons, hnext]; exact hscan'⟩

theorem domain_of_bounds {scan : Scan} (h : Bounds baseVertex scan indices)
    (hall : ∀ index ∈ indices, InCapacity baseVertex vertexCapacity index) :
    scan.domain.valid = true ∧ scan.domain.minIndex = scan.minIndex ∧ scan.domain.maxIndex = scan.maxIndex ∧
        (scan.domain.firstVertex.toNat : ℤ) = vertexOf baseVertex scan.minIndex ∧
          (scan.domain.firstVertex.toNat : ℤ) + scan.domain.vertexCount.toNat - 1 =
            vertexOf baseVertex scan.maxIndex := by
  obtain ⟨hzero, hlt⟩ := hall _ h.minIndex
  obtain ⟨hzero', hlt'⟩ := hall _ h.maxIndex
  have hcapacity := vertexCapacity.toNat_lt
  have hle : vertexOf baseVertex scan.minIndex ≤ vertexOf baseVertex scan.maxIndex := by
    have hminmax := (h.bounds _ h.maxIndex).1
    rw [UInt32.le_iff_toNat_le] at hminmax
    rw [vertexOf, vertexOf]
    omega
  unfold Scan.domain
  rw [h.firstVertex, h.lastVertex] at *
  -- No test of the end of the scan fails.
  rw [if_neg (by simp only [Bool.or_eq_true, decide_eq_true_eq]; omega)]
  dsimp only
  refine ⟨?_, rfl, rfl, ?_, ?_⟩
  · rw [decide_eq_true_eq, Ne, ← UInt32.toNat_inj, UInt32.toNat_ofNat_of_lt']
    · simp only [UInt32.toNat_zero]
      omega
    · rw [UInt32.size]
      omega
  · rw [UInt32.toNat_ofNat_of_lt']
    · omega
    · rw [UInt32.size]
      omega
  · rw [UInt32.toNat_ofNat_of_lt', UInt32.toNat_ofNat_of_lt']
    · omega
    · rw [UInt32.size]
      omega
    · rw [UInt32.size]
      omega

/-! ### The rewriting -/

theorem readIndex_congr {bytes bytes' : Bytes} {i : ℕ} (hwidth : indexWidth indexElementBytes = true)
    (h : slice (i * indexElementBytes.toNat) indexElementBytes.toNat bytes =
      slice (i * indexElementBytes.toNat) indexElementBytes.toNat bytes') :
    readIndex indexElementBytes bytes i = readIndex indexElementBytes bytes' i := by
  unfold readIndex
  simp only [indexWidth, Bool.or_eq_true, decide_eq_true_eq] at hwidth
  obtain rfl | rfl := hwidth
  · simp only [if_true, getLe, width_uint16]
    exact congrArg (fun bytes => (LeWord.ofNat (leValue bytes) : UInt16).toUInt32) h
  · rw [if_neg (by decide), if_neg (by decide)]
    exact congrArg (fun bytes => (LeWord.ofNat (leValue bytes) : UInt32)) h

theorem indexWidth_toNat (h : indexWidth indexElementBytes = true) :
    indexElementBytes.toNat = 2 ∨ indexElementBytes.toNat = 4 := by
  simp only [indexWidth, Bool.or_eq_true, decide_eq_true_eq] at h
  obtain rfl | rfl := h
  · exact .inl rfl
  · exact .inr rfl

theorem requiredBytes_toNat (h : indexWidth indexElementBytes = true) :
    (requiredBytes indexElementBytes indexCount).toNat = indexElementBytes.toNat * indexCount.toNat := by
  have hcount := indexCount.toNat_lt
  rw [requiredBytes, UInt64.toNat_mul, UInt32.toNat_toUInt64, UInt32.toNat_toUInt64]
  obtain hwidth | hwidth := indexWidth_toNat h
  · rw [hwidth]
    omega
  · rw [hwidth]
    omega

theorem readIndex_two_lt (bytes : Bytes) (i : ℕ) : (readIndex 2 bytes i).toNat < 2 ^ 16 := by
  rw [readIndex, if_pos rfl, UInt16.toNat_toUInt32]
  exact UInt16.toNat_lt _

theorem rebaseIndex_spec {bytes : Bytes} {i : ℕ} (hwidth : indexWidth indexElementBytes = true)
    (hmin : minIndex ≤ readIndex indexElementBytes bytes i)
    (hmax : readIndex indexElementBytes bytes i ≤ maxIndex)
    (hfits : (i + 1) * indexElementBytes.toNat ≤ destination.length) :
    ∃ destination',
      rebaseIndex indexElementBytes minIndex maxIndex bytes i destination = some destination' ∧
        destination'.length = destination.length ∧ readIndex indexElementBytes destination' i =
              readIndex indexElementBytes bytes i - minIndex ∧
            ∀ j < i, readIndex indexElementBytes destination' j =
              readIndex indexElementBytes destination j := by
  have hin : ¬ (decide (readIndex indexElementBytes bytes i < minIndex) ||
      decide (readIndex indexElementBytes bytes i > maxIndex)) = true := by
    simp only [gt_iff_lt, Bool.or_eq_true, decide_eq_true_eq, not_or, UInt32.not_lt]
    exact ⟨hmin, hmax⟩
  unfold rebaseIndex
  dsimp only
  rw [if_neg hin]
  have hwidth' := hwidth
  simp only [indexWidth, Bool.or_eq_true, decide_eq_true_eq] at hwidth'
  obtain rfl | rfl := hwidth'
  · -- Two bytes: what is counted from the least index fits, as the index did.
    have hsub : (readIndex 2 bytes i - minIndex).toNat < 2 ^ 16 := by
      have hlt := readIndex_two_lt bytes i
      rw [UInt32.toNat_sub_of_le _ _ hmin]
      omega
    have hsmall : ¬ readIndex 2 bytes i - minIndex > 0xFFFF := by
      rw [gt_iff_lt, UInt32.not_lt, UInt32.le_iff_toNat_le]
      simp only [UInt32.reduceToNat]
      omega
    rw [if_pos rfl, if_neg hsmall]
    simp only [UInt32.reduceToNat] at hfits
    refine ⟨_, rfl, overwrite_length (by simp; omega), ?_, fun j hj => ?_⟩
    · rw [readIndex, if_pos rfl, getLe_overwrite_self (by simp; omega), ← UInt32.toNat_inj,
        UInt16.toNat_toUInt32, UInt32.toNat_toUInt16, Nat.mod_eq_of_lt hsub]
    · rw [readIndex, if_pos rfl,
        getLe_overwrite_of_disjoint (by simp; omega) (.inl (by simp; omega)), readIndex, if_pos rfl]
  · -- Four bytes.
    rw [if_neg (by decide)]
    simp only [UInt32.reduceToNat] at hfits
    refine ⟨_, rfl, overwrite_length (by simp; omega), ?_, fun j hj => ?_⟩
    · rw [readIndex, if_neg (by decide), getLe_overwrite_self (by simp; omega)]
    · rw [readIndex, if_neg (by decide),
        getLe_overwrite_of_disjoint (by simp; omega) (.inl (by simp; omega)), readIndex,
        if_neg (by decide)]

theorem rebaseIndices_append {bytes : Bytes} (first rest : List ℕ) {destination' : Bytes}
    (h : rebaseIndices indexElementBytes minIndex maxIndex bytes first destination = (true, destination')) :
    rebaseIndices indexElementBytes minIndex maxIndex bytes (first ++ rest) destination =
      rebaseIndices indexElementBytes minIndex maxIndex bytes rest destination' := by
  induction first generalizing destination with
  | nil =>
    rw [rebaseIndices, Prod.mk.injEq] at h
    rw [List.nil_append, h.2]
  | cons i first ih =>
    rw [List.cons_append, rebaseIndices]
    rw [rebaseIndices] at h
    split at h
    · simp at h
    · exact ih h

theorem rebaseIndices_spec {bytes : Bytes} (n : ℕ) (hwidth : indexWidth indexElementBytes = true)
    (hin : ∀ i < n, minIndex ≤ readIndex indexElementBytes bytes i ∧
      readIndex indexElementBytes bytes i ≤ maxIndex)
    (hfits : n * indexElementBytes.toNat ≤ destination.length) :
    ∃ destination', rebaseIndices indexElementBytes minIndex maxIndex bytes (List.range n) destination =
          (true, destination') ∧
        destination'.length = destination.length ∧ ∀ i < n, readIndex indexElementBytes destination' i =
            readIndex indexElementBytes bytes i - minIndex := by
  induction n with
  | zero => exact ⟨destination, rfl, rfl, by simp⟩
  | succ n ih =>
    have hless : n * indexElementBytes.toNat ≤ (n + 1) * indexElementBytes.toNat :=
      Nat.mul_le_mul_right _ (Nat.le_succ n)
    obtain ⟨before, hbefore, hlength, hread⟩ :=
      ih (fun i hi => hin i (Nat.lt_succ_of_lt hi)) (hless.trans hfits)
    obtain ⟨hmin, hmax⟩ := hin n (Nat.lt_succ_self n)
    obtain ⟨after, hafter, hlength', hlast, hframe⟩ :=
      rebaseIndex_spec hwidth hmin hmax (hlength.symm ▸ hfits)
    refine ⟨after, ?_, hlength'.trans hlength, fun i hi => ?_⟩
    · rw [List.range_succ, rebaseIndices_append _ _ hbefore]
      simp only [rebaseIndices, hafter]
    · obtain hi | rfl := Nat.lt_succ_iff_lt_or_eq.mp hi
      · rw [hframe i hi, hread i hi]
      · exact hlast

/-! ### The copy -/

theorem slice_staged {bulkRead : BulkRead} {source : Bytes} {n o m : ℕ} (hn : n ≤ source.length)
    (h : o + m ≤ n) : slice o m (staged bulkRead source n) = slice o m source := by
  have htake : slice 0 n source = source.take n := by rw [slice, List.drop_zero]
  have hlength : (source.take n).length = n := by
    rw [List.length_take]
    omega
  rw [staged, overwrite, List.take_zero, List.nil_append, slice_append_of_le (by omega), ← htake,
    slice_slice h, Nat.zero_add]

theorem fetched_staged {bulkRead : BulkRead} {source : Bytes}
    (hwidth : indexWidth indexElementBytes = true)
    (hn : (requiredBytes indexElementBytes indexCount).toNat ≤ source.length) :
    fetched indexElementBytes indexCount
        (staged bulkRead source (requiredBytes indexElementBytes indexCount).toNat) =
      fetched indexElementBytes indexCount source := by
  unfold fetched
  apply List.map_congr_left
  intro i hi
  rw [List.mem_range] at hi
  refine readIndex_congr hwidth (slice_staged hn ?_)
  rw [requiredBytes_toNat hwidth]
  calc i * indexElementBytes.toNat + indexElementBytes.toNat
      = indexElementBytes.toNat * (i + 1) := by ring
    _ ≤ indexElementBytes.toNat * indexCount.toNat := Nat.mul_le_mul_left _ hi

/-! ### The agreement -/

structure Drawable (indices : BufferSpan) (indexElementBytes indexCount : UInt32)
    (baseVertex : Int32) (vertexCapacity : UInt32) : Prop where
  usable : indices.usable = true
  width : indexWidth indexElementBytes = true
  nonempty : indexCount ≠ 0
  length : indexElementBytes.toNat * indexCount.toNat ≤ indices.length.toNat
  vertices : ∀ i < indexCount.toNat, InCapacity baseVertex vertexCapacity
    (readIndex indexElementBytes indices.bytes i)

structure Exact (indices : BufferSpan) (indexElementBytes indexCount : UInt32)
    (baseVertex : Int32) (domain : ExactIndexVertexDomain) : Prop where
  contained : ∀ i < indexCount.toNat,
    (domain.firstVertex.toNat : ℤ) ≤
        vertexOf baseVertex (readIndex indexElementBytes indices.bytes i) ∧
      vertexOf baseVertex (readIndex indexElementBytes indices.bytes i) <
        domain.firstVertex.toNat + domain.vertexCount.toNat
  first : ∃ i < indexCount.toNat,
    vertexOf baseVertex (readIndex indexElementBytes indices.bytes i) = domain.firstVertex.toNat
  last : ∃ i < indexCount.toNat,
    vertexOf baseVertex (readIndex indexElementBytes indices.bytes i) =
      domain.firstVertex.toNat + domain.vertexCount.toNat - 1
  /-- The indices are rewritten into an output of the same size, and name the same vertices there. -/
  rebased : ∀ output : Bytes,
    output.length = (requiredBytes indexElementBytes indexCount).toNat →
      ∃ output', rebaseExactIndexDomain indices indexElementBytes indexCount domain.minIndex
          domain.maxIndex (some output) (requiredBytes indexElementBytes indexCount) =
            (true, some output') ∧
        output'.length = output.length ∧ ∀ i < indexCount.toNat,
          ((readIndex indexElementBytes output' i).toNat : ℤ) + domain.firstVertex.toNat =
            vertexOf baseVertex (readIndex indexElementBytes indices.bytes i)

theorem compute_eq {indices : BufferSpan} (husable : indices.usable = true)
    (hwidth : indexWidth indexElementBytes = true) (hcount : indexCount ≠ 0)
    (hcapacity : vertexCapacity ≠ 0)
    (hlength : indexElementBytes.toNat * indexCount.toNat ≤ indices.length.toNat) :
    computeExactIndexVertexDomain indices indexElementBytes indexCount baseVertex vertexCapacity =
      ((fetched indexElementBytes indexCount indices.bytes).foldlM
        (Scan.visit baseVertex vertexCapacity) {}).elim {} Scan.domain := by
  have hrequired : ¬ requiredBytes indexElementBytes indexCount > indices.length := by
    rw [gt_iff_lt, UInt64.not_lt, UInt64.le_iff_toNat_le, requiredBytes_toNat hwidth]
    exact hlength
  rw [computeExactIndexVertexDomain, if_neg (by simp [husable, hwidth, hcount, hcapacity]),
    if_neg hrequired]

theorem drawable_of_valid {indices : BufferSpan}
    (h : (computeExactIndexVertexDomain indices indexElementBytes indexCount baseVertex
      vertexCapacity).valid = true) :
    Drawable indices indexElementBytes indexCount baseVertex vertexCapacity := by
  unfold computeExactIndexVertexDomain at h
  split at h
  · simp at h
  · rename_i htests
    simp only [Bool.or_eq_true, Bool.not_eq_true', decide_eq_true_eq, not_or, Bool.not_eq_false] at htests
    obtain ⟨⟨⟨husable, hwidth⟩, hcount⟩, -⟩ := htests
    split at h
    · simp at h
    · rename_i hlength
      rw [gt_iff_lt, UInt64.not_lt, UInt64.le_iff_toNat_le, requiredBytes_toNat hwidth] at hlength
      refine ⟨husable, hwidth, hcount, hlength, fun i hi => ?_⟩
      cases hscan : (fetched indexElementBytes indexCount indices.bytes).foldlM
          (Scan.visit baseVertex vertexCapacity) {} with
      | none =>
        rw [hscan] at h
        cases h
      | some scan =>
        have hmem : readIndex indexElementBytes indices.bytes i ∈
            fetched indexElementBytes indexCount indices.bytes :=
          List.mem_map.mpr ⟨i, List.mem_range.mpr hi, rfl⟩
        exact (bounds_of_scan (List.ne_nil_of_mem hmem) hscan).2 _ hmem

theorem Drawable.scan {indices : BufferSpan}
    (h : Drawable indices indexElementBytes indexCount baseVertex vertexCapacity) :
    ∃ scan, Bounds baseVertex scan (fetched indexElementBytes indexCount indices.bytes) ∧
      (∀ index ∈ fetched indexElementBytes indexCount indices.bytes,
        InCapacity baseVertex vertexCapacity index) ∧
        computeExactIndexVertexDomain indices indexElementBytes indexCount baseVertex vertexCapacity =
          scan.domain := by
  have hcount : 0 < indexCount.toNat := by
    have hne := h.nonempty
    rw [Ne, ← UInt32.toNat_inj, UInt32.toNat_zero] at hne
    omega
  have hall : ∀ index ∈ fetched indexElementBytes indexCount indices.bytes,
      InCapacity baseVertex vertexCapacity index := by
    intro index hindex
    obtain ⟨i, hi, rfl⟩ := List.mem_map.mp hindex
    exact h.vertices i (List.mem_range.mp hi)
  -- There is a vertex, so the capacity is not zero.
  have hcapacity : vertexCapacity ≠ 0 := by
    rintro rfl
    obtain ⟨hlow, hhigh⟩ := h.vertices 0 hcount
    simp only [UInt32.toNat_zero] at hhigh
    omega
  obtain ⟨scan, hscan⟩ := scan_isSome {} hall
  have hne : fetched indexElementBytes indexCount indices.bytes ≠ [] := by
    rw [fetched, Ne, List.map_eq_nil_iff, List.range_eq_nil]
    omega
  refine ⟨scan, (bounds_of_scan hne hscan).1, hall, ?_⟩
  rw [compute_eq h.usable h.width h.nonempty hcapacity h.length, hscan, Option.elim_some]

theorem Drawable.exact {indices : BufferSpan}
    (h : Drawable indices indexElementBytes indexCount baseVertex vertexCapacity) :
    (computeExactIndexVertexDomain indices indexElementBytes indexCount baseVertex
        vertexCapacity).valid = true ∧
      Exact indices indexElementBytes indexCount baseVertex
        (computeExactIndexVertexDomain indices indexElementBytes indexCount baseVertex
          vertexCapacity) := by
  obtain ⟨scan, hbounds, hall, heq⟩ := h.scan
  rw [heq]
  obtain ⟨hvalid, hmin, hmax, hfirst, hlast⟩ := domain_of_bounds hbounds hall
  have hbetween : ∀ i < indexCount.toNat, scan.minIndex ≤ readIndex indexElementBytes indices.bytes i ∧
        readIndex indexElementBytes indices.bytes i ≤ scan.maxIndex :=
    fun i hi => hbounds.bounds _ (List.mem_map.mpr ⟨i, List.mem_range.mpr hi, rfl⟩)
  refine ⟨hvalid, ?_, ?_, ?_, ?_⟩
  · intro i hi
    obtain ⟨hlow, hhigh⟩ := hbetween i hi
    have hlow' := (@vertexOf_le baseVertex _ _).mpr hlow
    have hhigh' := (@vertexOf_le baseVertex _ _).mpr hhigh
    rw [hfirst]
    exact ⟨hlow', by omega⟩
  · obtain ⟨i, hi, hread⟩ := List.mem_map.mp hbounds.minIndex
    exact ⟨i, List.mem_range.mp hi, by rw [hread, hfirst]⟩
  · obtain ⟨i, hi, hread⟩ := List.mem_map.mp hbounds.maxIndex
    exact ⟨i, List.mem_range.mp hi, by rw [hread, hlast]⟩
  · intro output houtput
    rw [requiredBytes_toNat h.width] at houtput
    obtain ⟨output', hrebase, hlength, hread⟩ := @rebaseIndices_spec indexElementBytes
      scan.minIndex scan.maxIndex output indices.bytes indexCount.toNat h.width hbetween
      (by rw [houtput, Nat.mul_comm])
    have hminmax : scan.minIndex ≤ scan.maxIndex := (hbounds.bounds _ hbounds.maxIndex).1
    have hrequired : ¬ requiredBytes indexElementBytes indexCount > indices.length := by
      rw [gt_iff_lt, UInt64.not_lt, UInt64.le_iff_toNat_le, requiredBytes_toNat h.width]
      exact h.length
    refine ⟨output', ?_, hlength, fun i hi => ?_⟩
    · rw [hmin, hmax, rebaseExactIndexDomain]
      dsimp only
      rw [if_neg (by simp [h.usable, h.width, h.nonempty, UInt32.not_lt.mpr hminmax]),
        if_neg (by simpa using hrequired), hrebase]
    · -- Both are the index, counted from the least one, and then from the vertex of that.
      obtain ⟨hlow, -⟩ := hbetween i hi
      have hsub := UInt32.toNat_sub_of_le _ _ hlow
      rw [UInt32.le_iff_toNat_le] at hlow
      rw [hread i hi, hfirst, hsub, vertexOf, vertexOf]
      omega

theorem prepared_eq (bulkRead : BulkRead) (input : ScanInput) :
    computeExactIndexVertexDomainPrepared bulkRead input =
      computeExactIndexVertexDomain input.indices input.indexElementBytes input.indexCount
        input.baseVertex input.vertexCapacity := by
  unfold computeExactIndexVertexDomainPrepared
  dsimp only
  split
  · rename_i htests
    rw [computeExactIndexVertexDomain, if_pos htests]
  · rename_i htests
    split
    · rename_i hlength
      rw [computeExactIndexVertexDomain, if_neg htests, if_pos hlength]
    · rename_i hlength
      split
      · -- The copy has the indices of the source.
        simp only [Bool.or_eq_true, Bool.not_eq_true', decide_eq_true_eq, not_or,
          Bool.not_eq_false] at htests
        obtain ⟨⟨⟨husable, hwidth⟩, hcount⟩, hcapacity⟩ := htests
        rw [gt_iff_lt, UInt64.not_lt, UInt64.le_iff_toNat_le] at hlength
        have hrequired := @requiredBytes_toNat _ input.indexCount hwidth
        have hsource : (requiredBytes input.indexElementBytes input.indexCount).toNat ≤
            input.indices.bytes.length := by
          obtain ⟨bytes, hbytes⟩ : ∃ bytes, input.indices.data = some bytes := by
            simp only [BufferSpan.usable, Bool.and_eq_true] at husable
            exact Option.isSome_iff_exists.mp husable.1.1.1.1.1.1
          rw [BufferSpan.bytes, hbytes, Option.getD_some]
          exact hlength.trans (input.indices.readable bytes hbytes)
        have hnonzero : requiredBytes input.indexElementBytes input.indexCount ≠ 0 := by
          rw [Ne, ← UInt64.toNat_inj, hrequired, UInt64.toNat_zero, Nat.mul_eq_zero, not_or]
          rw [← UInt32.toNat_inj, UInt32.toNat_zero] at hcount
          have hwidth' := indexWidth_toNat hwidth
          exact ⟨by omega, hcount⟩
        rw [compute_eq husable hwidth hcount hcapacity (hrequired ▸ hlength), compute_eq]
        · rw [← fetched_staged hwidth hsource]
          rfl
        · simp only [BufferSpan.usable, Bool.and_eq_true, decide_eq_true_eq] at husable ⊢
          obtain ⟨⟨⟨⟨⟨⟨-, -⟩, howner⟩, hidentity⟩, hallocation⟩, hcontent⟩, hreason⟩ := husable
          exact ⟨⟨⟨⟨⟨⟨rfl, hnonzero⟩, howner⟩, hidentity⟩, hallocation⟩, hcontent⟩, hreason⟩
        · exact hwidth
        · exact hcount
        · exact hcapacity
        · exact hrequired.ge
      · rfl

/-- The domain of a draw: it is valid exactly when the indices can be scanned, it is exact then, and a
prepared scan returns it too. -/
theorem exactIndexDomain (bulkRead : BulkRead) (input : ScanInput) :
    ((computeExactIndexVertexDomain input.indices input.indexElementBytes input.indexCount
          input.baseVertex input.vertexCapacity).valid = true ↔
        Drawable input.indices input.indexElementBytes input.indexCount input.baseVertex
          input.vertexCapacity) ∧
      ((computeExactIndexVertexDomain input.indices input.indexElementBytes input.indexCount
          input.baseVertex input.vertexCapacity).valid = true →
        Exact input.indices input.indexElementBytes input.indexCount input.baseVertex
          (computeExactIndexVertexDomain input.indices input.indexElementBytes input.indexCount
            input.baseVertex input.vertexCapacity)) ∧
        computeExactIndexVertexDomainPrepared bulkRead input =
          computeExactIndexVertexDomain input.indices input.indexElementBytes input.indexCount
            input.baseVertex input.vertexCapacity :=
  ⟨⟨drawable_of_valid, fun h => h.exact.1⟩, fun h => (drawable_of_valid h).exact.2,
    prepared_eq bulkRead input⟩

def oneIndex : BufferSpan where
  data := some [0, 0]
  length := 2
  ownerIdentity := 1
  identityGeneration := 1
  allocationGeneration := 1
  contentGeneration := 1
  rejectReason := .none
  readable := by simp

/-- A draw without indices has no domain, though the span is long enough and no vertex is out of the
capacity. -/
theorem empty_draw : ¬ ((computeExactIndexVertexDomain oneIndex 2 0 0 1).valid = true ↔
    oneIndex.usable = true ∧ 2 * 0 ≤ oneIndex.length.toNat ∧
      ∀ i < (0 : UInt32).toNat, InCapacity 0 1 (readIndex 2 oneIndex.bytes i)) := by
  intro h
  have hvalid := h.mpr ⟨by decide, Nat.zero_le _, fun i hi => by simp at hi⟩
  simp [computeExactIndexVertexDomain] at hvalid

/-- A draw of one index has the domain of its vertex. -/
example : computeExactIndexVertexDomain oneIndex 2 1 5 8 =
    { firstVertex := 5, vertexCount := 1, valid := true } := by decide +kernel

end War3VK.Memory.IndexDomain
