import War3VK.Render.ReplayValidation

/-!
# The validation is exact

The checked sums and products are those of the integers, so each part of the validation passes exactly
when what it tests holds of the integers, and a draw is accepted exactly when it is `Valid`. A batch is
valid when all its draws are (`validate_exact`).
-/

namespace War3VK.Render.ReplayValidation

open Lib

/-! ## Checked numbers -/

theorem toNat_max : (UInt64.ofNat (2 ^ 64 - 1)).toNat = 2 ^ 64 - 1 := by
  rw [UInt64.toNat_ofNat', Nat.mod_eq_of_lt (by decide)]

theorem checkedAdd_eq_some {a b c : UInt64} :
    checkedAdd a b = some c ↔ a.toNat + b.toNat = c.toNat := by
  have ha := a.toNat_lt
  have hc := c.toNat_lt
  have hroom : (UInt64.ofNat (2 ^ 64 - 1) - a).toNat = 2 ^ 64 - 1 - a.toNat := by
    rw [UInt64.toNat_sub_of_le, toNat_max]
    rw [UInt64.le_iff_toNat_le, toNat_max]
    omega
  have hover : b > UInt64.ofNat (2 ^ 64 - 1) - a ↔ 2 ^ 64 - 1 < a.toNat + b.toNat := by
    rw [gt_iff_lt, UInt64.lt_iff_toNat_lt, hroom]
    omega
  unfold checkedAdd
  split
  · have hlt := hover.mp ‹_›
    constructor
    · intro h
      cases h
    · intro h
      omega
  · have hle := mt hover.mpr ‹_›
    rw [Option.some_inj, ← UInt64.toNat_inj, UInt64.toNat_add, Nat.mod_eq_of_lt (by omega)]

theorem checkedMul_eq_some {a b c : UInt64} :
    checkedMul a b = some c ↔ a.toNat * b.toNat = c.toNat := by
  have hc := c.toNat_lt
  have hover : (a ≠ 0 ∧ b > UInt64.ofNat (2 ^ 64 - 1) / a) ↔ 2 ^ 64 - 1 < a.toNat * b.toNat := by
    rw [gt_iff_lt, UInt64.lt_iff_toNat_lt, UInt64.toNat_div, toNat_max, ne_eq, ← UInt64.toNat_inj,
      UInt64.toNat_zero]
    obtain hzero | hpos := Nat.eq_zero_or_pos a.toNat
    · rw [hzero, Nat.zero_mul]
      omega
    · rw [Nat.div_lt_iff_lt_mul hpos, Nat.mul_comm]
      omega
  unfold checkedMul
  split
  · have hlt := hover.mp ‹_›
    constructor
    · intro h
      cases h
    · intro h
      omega
  · have hle := mt hover.mpr ‹_›
    rw [Option.some_inj, ← UInt64.toNat_inj, UInt64.toNat_mul, Nat.mod_eq_of_lt (by omega)]

theorem orReject_eq_ok {x : Option UInt64} {failure : Result} {n : UInt64} :
    orReject x failure = .ok n ↔ x = some n := by
  cases x with
  | none => simp [orReject]
  | some m => simp [orReject]

theorem toNat_toUInt64 {x : Int64} (hx : 0 ≤ x.toInt) : (x.toUInt64.toNat : ℤ) = x.toInt := by
  rw [Int64.toNat_toUInt64_of_le (Int64.le_iff_toInt_le.mpr hx)]
  exact Int64.cast_toNatClampNeg x (Int64.le_iff_toInt_le.mpr hx)

theorem toInt_toInt64 {n : UInt64} (hn : n.toNat < 2 ^ 63) : n.toInt64.toInt = n.toNat := by
  rw [← Int64.toInt_toBitVec, UInt64.toBitVec_toInt64]
  exact BitVec.toInt_eq_toNat_of_lt (by rw [UInt64.toNat_toBitVec]; omega)

theorem toInt_add {x y : Int64} (hlo : -2 ^ 63 ≤ x.toInt + y.toInt)
    (hhi : x.toInt + y.toInt < 2 ^ 63) : (x + y).toInt = x.toInt + y.toInt := by
  rw [Int64.toInt_add]
  exact Int.bmod_eq_of_le (by omega) (by omega)

theorem exists_toNat {n : ℕ} (hn : n < 2 ^ 64) : ∃ x : UInt64, n = x.toNat :=
  ⟨UInt64.ofNat n, by rw [UInt64.toNat_ofNat', Nat.mod_eq_of_lt hn]⟩

/-! ## What is tested -/

namespace BufferAccess

structure WellFormed (access : BufferAccess) : Prop where
  bytes : access.attributeBytes ≠ 0
  inside : access.attributeOffset.toNat + access.attributeBytes.toNat ≤ access.stride.toNat

structure Holds (access : BufferAccess) (n : ℤ) : Prop where
  present : access.present = true
  fits : n * access.stride.toNat + access.attributeOffset.toNat + access.attributeBytes.toNat ≤
    access.size.toNat

end BufferAccess

namespace Input

/-- The offset that is applied to the indices. A draw whose whole buffer was kept because its indices are
not known has the vertices of the buffer. -/
def shift (input : Input) : ℤ :=
  if input.fullVertexDomainFallback ∧ input.actualIndexDomainKnown = false then 0
  else input.vertexOffset.toInt

def base (input : Input) : ℕ :=
  if input.actualIndexDomainKnown then input.actualIndexMin.toNat
  else if input.fullVertexDomainFallback then 0
  else input.minVertexIndex.toNat

/-- How many indices an indexed draw may have, none if the greatest is smaller than the least. -/
def indexTotal (input : Input) : ℕ :=
  if input.actualIndexDomainKnown then input.actualIndexMax.toNat + 1 - input.actualIndexMin.toNat
  else if input.numVertices ≠ 0 then input.numVertices.toNat
  else input.vertexCount.toNat

def first (input : Input) : ℤ :=
  if input.indexed then input.base + input.shift else input.firstVertex.toNat

def total (input : Input) : ℕ := if input.indexed then input.indexTotal else input.vertexCount.toNat

def Draws (input : Input) (n : ℤ) : Prop := input.first ≤ n ∧ n < input.first + input.total

end Input

structure Sound (input : Input) : Prop where
  bindings : input.bufferBindingsResolved = true
  mapEpoch : input.drawMapEpoch ≠ 0 ∧ input.drawMapEpoch = input.expectedMapEpoch
  deviceEpoch : input.drawDeviceEpoch ≠ 0 ∧ input.drawDeviceEpoch = input.expectedDeviceEpoch
  worldMatrix : input.worldMatrixFinite = true
  nonEmpty : (input.indexed = true → input.indexCount ≠ 0) ∧ ∃ n, input.Draws n
  indexRange : input.indexed = true → input.indexBufferPresent = true ∧
    (input.firstIndex.toNat + input.indexCount.toNat) * input.indexTypeBytes.toNat ≤
      input.indexBufferSize.toNat
  nonneg : ∀ n, input.Draws n → 0 ≤ n
  position : ∀ n, input.Draws n → input.position.Holds n
  blend : input.blendRequired = true → ∀ n, input.Draws n → input.blend.Holds n
  uv : input.uvRequired = true → ∀ n, input.Draws n → input.uv.Holds n
  palette : input.paletteRequired = true → input.paletteIndex < input.paletteCount
  /-- The epochs of the GPU skin are the expected ones. -/
  gpuSkinEpochs : input.gpuSkinRequired = true →
    input.gpuSkinMapEpoch = input.expectedMapEpoch ∧
      input.gpuSkinDeviceEpoch = input.expectedDeviceEpoch
  gpuSkinSource : input.gpuSkinRequired = true →
    input.gpuSkinSourceOffset.toNat + input.gpuSkinSourceLength.toNat ≤
      input.gpuSkinSourceSize.toNat
  gpuSkinPalette : input.gpuSkinRequired = true →
    input.gpuSkinPaletteOffset.toNat + input.gpuSkinPaletteLength.toNat ≤
      input.gpuSkinPaletteSize.toNat

structure Valid (input : Input) : Prop extends Sound input where
  indexType : input.indexed = true → input.indexTypeBytes = 2 ∨ input.indexTypeBytes = 4
  positionLayout : input.position.WellFormed
  blendLayout : input.blendRequired = true → input.blend.WellFormed
  uvLayout : input.uvRequired = true → input.uv.WellFormed
  paletteEntry : input.paletteRequired = true → input.paletteMatricesPerEntry ≠ 0
  gpuSkinLease : input.gpuSkinRequired = true → input.gpuSkinLeaseValid = true

variable {input : Input}

/-! ## The parts -/

variable {access : BufferAccess} {lo hi : Int64} {u : Unit}

theorem forall_draws_iff (htotal : 0 < input.total) :
    (∀ n, input.Draws n → access.Holds n) ↔ access.Holds (input.first + input.total - 1) := by
  constructor
  · intro h
    exact h _ ⟨by omega, by omega⟩
  · intro h n hn
    refine ⟨h.present, ?_⟩
    have hle : n ≤ input.first + input.total - 1 := by
      have hlt := hn.2
      omega
    have hmul : n * access.stride.toNat ≤ (input.first + input.total - 1) * access.stride.toNat :=
      Int.mul_le_mul_of_nonneg_right hle (Int.natCast_nonneg _)
    have hfits := h.fits
    omega

theorem not_layout_iff :
    ¬(access.stride = 0 ∨ access.attributeBytes = 0 ∨ access.attributeOffset ≥ access.stride ∨
      access.attributeBytes > access.stride - access.attributeOffset) ↔ access.WellFormed := by
  have hzero (n : UInt32) : n = 0 ↔ n.toNat = 0 := by
    rw [← UInt32.toNat_inj, UInt32.toNat_zero]
  rw [hzero, hzero, ge_iff_le, gt_iff_lt, UInt32.le_iff_toNat_le, UInt32.lt_iff_toNat_lt]
  constructor
  · intro h
    have hoffset : access.attributeOffset.toNat < access.stride.toNat := by
      omega
    rw [UInt32.toNat_sub_of_le _ _ (UInt32.le_iff_toNat_le.mpr hoffset.le)] at h
    exact ⟨fun hbytes => h (.inr (.inl ((hzero _).mp hbytes))), by omega⟩
  · intro h hnot
    have hbytes : access.attributeBytes.toNat ≠ 0 := fun hbytes => h.bytes ((hzero _).mpr hbytes)
    have hinside := h.inside
    rw [UInt32.toNat_sub_of_le _ _ (UInt32.le_iff_toNat_le.mpr (by omega))] at hnot
    omega

theorem not_lt_iff : ¬(lo < 0 ∨ hi < lo) ↔ 0 ≤ lo.toInt ∧ lo.toInt ≤ hi.toInt := by
  rw [not_or, Int64.not_lt, Int64.not_lt, Int64.le_iff_toInt_le, Int64.le_iff_toInt_le, Int64.toInt_zero]

theorem validateVertexAccess_eq_ok {missing invalidLayout outOfBounds : RejectReason} :
    validateVertexAccess access lo hi missing invalidLayout outOfBounds = .ok u ↔
      access.WellFormed ∧ 0 ≤ lo.toInt ∧ lo.toInt ≤ hi.toInt ∧ access.Holds hi.toInt := by
  have hsize := access.size.toNat_lt
  unfold validateVertexAccess
  dsimp only
  simp only [bind_eq_ok, rejectIf_eq_ok, orReject_eq_ok, checkedMul_eq_some, checkedAdd_eq_some,
    UInt32.toNat_toUInt64, exists_const, gt_iff_lt, UInt64.lt_iff_toNat_lt, Nat.not_lt,
    not_layout_iff, not_lt_iff]
  constructor
  · rintro ⟨hthere, hlayout, ⟨hlo, hle⟩, vertexByte, hvertex, start, hstart, stop, hstop, hfits⟩
    have hhi := toNat_toUInt64 (Int.le_trans hlo hle)
    refine ⟨hlayout, hlo, hle, Bool.not_eq_false _ ▸ fun h => hthere (.inl h), ?_⟩
    rw [← hhi]
    norm_cast
    omega
  · rintro ⟨hlayout, hlo, hle, hthere, hfits⟩
    have hhi := toNat_toUInt64 (Int.le_trans hlo hle)
    rw [← hhi] at hfits
    norm_cast at hfits
    obtain ⟨vertexByte, hvertex⟩ :=
      exists_toNat (n := hi.toUInt64.toNat * access.stride.toNat) (by omega)
    obtain ⟨start, hstart⟩ :=
      exists_toNat (n := vertexByte.toNat + access.attributeOffset.toNat) (by omega)
    obtain ⟨stop, hstop⟩ :=
      exists_toNat (n := start.toNat + access.attributeBytes.toNat) (by omega)
    refine ⟨?_, hlayout, ⟨hlo, hle⟩, vertexByte, hvertex, start, hstart, stop, hstop, by omega⟩
    rintro (habsent | hempty)
    · rw [hthere] at habsent
      cases habsent
    · have hbytes : access.attributeBytes.toNat ≠ 0 := fun hzero =>
        hlayout.bytes (UInt32.toNat_inj.mp hzero)
      rw [hempty] at hfits
      exact hbytes (by rw [UInt64.toNat_zero] at hfits; omega)

namespace Input

theorem validateEpochs_eq_ok : input.validateEpochs = .ok u ↔ input.bufferBindingsResolved = true ∧
      (input.drawMapEpoch ≠ 0 ∧ input.drawMapEpoch = input.expectedMapEpoch) ∧
      (input.drawDeviceEpoch ≠ 0 ∧ input.drawDeviceEpoch = input.expectedDeviceEpoch) ∧
      input.worldMatrixFinite = true := by
  unfold validateEpochs
  simp only [bind_eq_ok, rejectIf_eq_ok, exists_const, Bool.not_eq_false, not_or, not_not]
  constructor
  · rintro ⟨hbindings, ⟨hmap, -⟩, hmapEq, ⟨hdevice, -⟩, hdeviceEq, hfinite⟩
    exact ⟨hbindings, ⟨hmap, hmapEq⟩, ⟨hdevice, hdeviceEq⟩, hfinite⟩
  · rintro ⟨hbindings, ⟨hmap, hmapEq⟩, ⟨hdevice, hdeviceEq⟩, hfinite⟩
    exact ⟨hbindings, ⟨hmap, hmapEq ▸ hmap⟩, hmapEq, ⟨hdevice, hdeviceEq ▸ hdevice⟩, hdeviceEq, hfinite⟩

theorem validateIndices_eq_ok : input.validateIndices = .ok u ↔
    (input.indexTypeBytes = 2 ∨ input.indexTypeBytes = 4) ∧ input.indexCount ≠ 0 ∧
      input.indexBufferPresent = true ∧
      (input.firstIndex.toNat + input.indexCount.toNat) * input.indexTypeBytes.toNat ≤
        input.indexBufferSize.toNat := by
  have htype : ¬(input.indexTypeBytes ≠ 2 ∧ input.indexTypeBytes ≠ 4) ↔
      input.indexTypeBytes = 2 ∨ input.indexTypeBytes = 4 := by
    rw [not_and_or, not_not, not_not]
  have hsize := input.indexBufferSize.toNat_lt
  unfold validateIndices
  simp only [bind_eq_ok, rejectIf_eq_ok, orReject_eq_ok, checkedMul_eq_some, checkedAdd_eq_some,
    UInt32.toNat_toUInt64, exists_const, gt_iff_lt, UInt64.lt_iff_toNat_lt, Nat.not_lt, htype,
    Nat.add_mul]
  constructor
  · rintro ⟨hthere, htype, hcount, firstByte, hfirst, countBytes, hbytes, stop, hstop, hfits⟩
    refine ⟨htype, hcount, Bool.not_eq_false _ ▸ fun h => hthere (.inl h), ?_⟩
    omega
  · rintro ⟨htype, hcount, hthere, hfits⟩
    obtain ⟨firstByte, hfirst⟩ :=
      exists_toNat (n := input.firstIndex.toNat * input.indexTypeBytes.toNat) (by omega)
    obtain ⟨countBytes, hbytes⟩ :=
      exists_toNat (n := input.indexCount.toNat * input.indexTypeBytes.toNat) (by omega)
    obtain ⟨stop, hstop⟩ := exists_toNat (n := firstByte.toNat + countBytes.toNat) (by omega)
    refine ⟨?_, htype, hcount, firstByte, hfirst, countBytes, hbytes, stop, hstop, by omega⟩
    rintro (habsent | hempty)
    · rw [hthere] at habsent
      cases habsent
    · have hpos : 0 < input.indexCount.toNat * input.indexTypeBytes.toNat := by
        refine Nat.mul_pos (Nat.pos_of_ne_zero fun hzero => hcount (UInt32.toNat_inj.mp hzero)) ?_
        obtain htwo | hfour := htype
        · rw [htwo]
          decide
        · rw [hfour]
          decide
      rw [hempty, UInt64.toNat_zero] at hfits
      omega

theorem toNat_vertexTotal : input.vertexTotal.toNat =
    if input.numVertices ≠ 0 then input.numVertices.toNat else input.vertexCount.toNat := by
  unfold vertexTotal
  split <;> exact UInt32.toNat_toUInt64 _

theorem sourceDomain_eq_ok {lo hi : UInt64} : input.sourceDomain = .ok (lo, hi) ↔
    0 < input.indexTotal ∧ lo.toNat = input.base ∧ hi.toNat = input.base + input.indexTotal - 1 := by
  have htotal := input.toNat_vertexTotal
  have hlt := input.vertexTotal.toNat_lt
  have hone (hpos : 0 < input.vertexTotal.toNat) :
      (input.vertexTotal - 1).toNat = input.vertexTotal.toNat - 1 :=
    UInt64.toNat_sub_of_le _ _ (UInt64.le_iff_toNat_le.mpr hpos)
  have hempty : ¬input.vertexTotal = 0 ↔ 0 < input.vertexTotal.toNat := by
    rw [← UInt64.toNat_inj, UInt64.toNat_zero]
    exact Nat.pos_iff_ne_zero.symm
  unfold sourceDomain base indexTotal
  by_cases hknown : input.actualIndexDomainKnown = true
  · simp only [if_pos hknown, bind_eq_ok, rejectIf_eq_ok, pure_eq_ok, exists_const, Prod.mk.injEq,
      ← UInt64.toNat_inj, UInt32.toNat_toUInt64, UInt32.lt_iff_toNat_lt]
    omega
  simp only [if_neg hknown, ← htotal]
  by_cases hfallback : input.fullVertexDomainFallback = true
  · simp only [if_pos hfallback, bind_eq_ok, rejectIf_eq_ok, pure_eq_ok, exists_const,
      Prod.mk.injEq, hempty]
    refine and_congr_right fun hpos => ?_
    rw [← UInt64.toNat_inj, ← UInt64.toNat_inj, hone hpos, UInt64.toNat_zero]
    omega
  · simp only [if_neg hfallback, bind_eq_ok, rejectIf_eq_ok, orReject_eq_ok, checkedAdd_eq_some,
      pure_eq_ok, exists_const, Prod.mk.injEq, hempty, UInt32.toNat_toUInt64]
    refine and_congr_right fun hpos => ?_
    rw [hone hpos]
    constructor
    · rintro ⟨sourceMaximum, hsum, rfl, rfl⟩
      exact ⟨UInt32.toNat_toUInt64 _, by omega⟩
    · rintro ⟨hlo, hhi⟩
      refine ⟨hi, by omega, UInt64.toNat_inj.mp ?_, rfl⟩
      rw [hlo, UInt32.toNat_toUInt64]

theorem shift_bounds : -2 ^ 31 ≤ input.shift ∧ input.shift < 2 ^ 31 := by
  have hlo := input.vertexOffset.le_toInt
  have hhi := input.vertexOffset.toInt_lt
  unfold shift
  split
  · decide
  · exact ⟨hlo, hhi⟩

theorem base_bounds : input.base < 2 ^ 32 ∧ input.indexTotal ≤ 2 ^ 32 := by
  have hmin := input.actualIndexMin.toNat_lt
  have hmax := input.actualIndexMax.toNat_lt
  have hfirst := input.minVertexIndex.toNat_lt
  have hnum := input.numVertices.toNat_lt
  have hcount := input.vertexCount.toNat_lt
  unfold base indexTotal
  constructor
  · split
    · exact hmin
    · split <;> omega
  · split
    · omega
    · split <;> omega

theorem toInt_shifted {n : UInt64} (hn : n.toNat < 2 ^ 34) :
    (n.toInt64 + input.appliedVertexOffset).toInt = n.toNat + input.shift := by
  have happlied : input.appliedVertexOffset.toInt = input.shift := by
    unfold appliedVertexOffset shift
    split
    · exact Int64.toInt_zero
    · exact Int32.toInt_toInt64 _
  have hn' := toInt_toInt64 (n := n) (by omega)
  obtain ⟨hlo, hhi⟩ := input.shift_bounds
  rw [toInt_add (by omega) (by omega), happlied, hn']

theorem exists_extent (input : Input) : ∃ lo hi : Int64, lo.toInt = input.first ∧
    hi.toInt = input.first + input.total - 1 := by
  have hbase := input.base_bounds
  have hshift := input.shift_bounds
  have hfirst := input.firstVertex.toNat_lt
  have hcount := input.vertexCount.toNat_lt
  have hlo : -2 ^ 62 ≤ input.first ∧ input.first < 2 ^ 62 := by
    unfold first
    split
    · omega
    · omega
  have htotal : input.total ≤ 2 ^ 32 := by
    unfold total
    split
    · exact hbase.2
    · exact hcount.le
  exact ⟨.ofInt input.first, .ofInt (input.first + input.total - 1),
    Int64.toInt_ofInt_of_le (by omega) (by omega), Int64.toInt_ofInt_of_le (by omega) (by omega)⟩

theorem vertexDomain_eq_ok : input.vertexDomain = .ok (lo, hi) ↔
    (input.indexed = true → (input.indexTypeBytes = 2 ∨ input.indexTypeBytes = 4) ∧
      input.indexCount ≠ 0 ∧ input.indexBufferPresent = true ∧
      (input.firstIndex.toNat + input.indexCount.toNat) * input.indexTypeBytes.toNat ≤
        input.indexBufferSize.toNat) ∧
      0 < input.total ∧ 0 ≤ input.first ∧ lo.toInt = input.first ∧
      hi.toInt = input.first + input.total - 1 := by
  obtain ⟨hbase, htotal⟩ := input.base_bounds
  unfold vertexDomain first total
  by_cases hindexed : input.indexed = true
  · simp only [hindexed, if_true, bind_eq_ok, rejectIf_eq_ok, pure_eq_ok, exists_const,
      validateIndices_eq_ok, Prod.exists, sourceDomain_eq_ok, Prod.mk.injEq, not_lt_iff,
      true_imp_iff]
    refine and_congr_right fun _ => ?_
    constructor
    · rintro ⟨a, b, ⟨hpos, ha, hb⟩, ⟨hlo, hle⟩, rfl, rfl⟩
      rw [toInt_shifted (by omega), toInt_shifted (by omega)] at *
      omega
    · rintro ⟨hpos, hfirst, hlo, hhi⟩
      obtain ⟨a, ha⟩ := exists_toNat (n := input.base) (by omega)
      obtain ⟨b, hb⟩ := exists_toNat (n := input.base + input.indexTotal - 1) (by omega)
      have hlo' : (a.toInt64 + input.appliedVertexOffset).toInt = lo.toInt := by
        rw [toInt_shifted (by omega), hlo, ha]
      have hhi' : (b.toInt64 + input.appliedVertexOffset).toInt = hi.toInt := by
        rw [toInt_shifted (by omega), hhi]
        omega
      refine ⟨a, b, ⟨hpos, ha.symm, hb.symm⟩, ?_, Int64.toInt_inj.mp hlo', Int64.toInt_inj.mp hhi'⟩
      rw [hlo', hhi']
      omega
  · have hfirst := input.firstVertex.toNat_lt
    have hcount := input.vertexCount.toNat_lt
    have hempty : ¬input.vertexCount = 0 ↔ 0 < input.vertexCount.toNat := by
      rw [← UInt32.toNat_inj, UInt32.toNat_zero]
      exact Nat.pos_iff_ne_zero.symm
    rw [if_neg hindexed, if_neg hindexed, if_neg hindexed]
    simp only [bind_eq_ok, rejectIf_eq_ok, pure_eq_ok, exists_const, Prod.mk.injEq, hempty]
    have hlast (hpos : 0 < input.vertexCount.toNat) :
        (input.firstVertex.toUInt64 + input.vertexCount.toUInt64 - 1).toNat =
          input.firstVertex.toNat + input.vertexCount.toNat - 1 := by
      have hsum : (input.firstVertex.toUInt64 + input.vertexCount.toUInt64).toNat =
          input.firstVertex.toNat + input.vertexCount.toNat := by
        rw [UInt64.toNat_add, UInt32.toNat_toUInt64, UInt32.toNat_toUInt64, Nat.mod_eq_of_lt (by omega)]
      rw [UInt64.toNat_sub_of_le, hsum, UInt64.toNat_one]
      rw [UInt64.le_iff_toNat_le, hsum, UInt64.toNat_one]
      omega
    have hfirstInt := toInt_toInt64 (n := input.firstVertex.toUInt64)
      (by rw [UInt32.toNat_toUInt64]; omega)
    rw [UInt32.toNat_toUInt64] at hfirstInt
    constructor
    · rintro ⟨hpos, -, rfl, rfl⟩
      have hlastInt := toInt_toInt64 (n := input.firstVertex.toUInt64 + input.vertexCount.toUInt64 - 1)
        (by have hlast := hlast hpos; omega)
      rw [hlast hpos] at hlastInt
      exact ⟨fun h => absurd h hindexed, hpos, by omega⟩
    · rintro ⟨-, hpos, -, hlo, hhi⟩
      have hlast := hlast hpos
      have hlastInt := toInt_toInt64 (n := input.firstVertex.toUInt64 + input.vertexCount.toUInt64 - 1)
        (by omega)
      refine ⟨hpos, ?_, Int64.toInt_inj.mp (hfirstInt.trans hlo.symm), Int64.toInt_inj.mp ?_⟩
      · rw [gt_iff_lt, UInt64.lt_iff_toNat_lt, UInt64.toNat_ofNat', hlast]
        omega
      · rw [hlastInt, hlast, hhi]
        omega

theorem validatePalette_eq_ok : input.validatePalette = .ok u ↔
    input.paletteIndex < input.paletteCount ∧ input.paletteMatricesPerEntry ≠ 0 := by
  have hindexLt := input.paletteIndex.toNat_lt
  have hcountLt := input.paletteCount.toNat_lt
  have hentryLt := input.paletteMatricesPerEntry.toNat_lt
  unfold validatePalette
  simp only [bind_eq_ok, rejectIf_eq_ok, orReject_eq_ok, checkedMul_eq_some, checkedAdd_eq_some,
    UInt32.toNat_toUInt64, exists_const, gt_iff_lt, ge_iff_le, UInt64.lt_iff_toNat_lt, Nat.not_lt,
    not_or, UInt32.not_le]
  constructor
  · rintro ⟨⟨_, hindex, hentry⟩, -⟩
    exact ⟨hindex, hentry⟩
  · rintro ⟨hindex, hentry⟩
    rw [UInt32.lt_iff_toNat_lt] at hindex
    -- No product or sum of two words of 32 bits overflows.
    have hle : (input.paletteIndex.toNat + 1) * input.paletteMatricesPerEntry.toNat ≤
        input.paletteCount.toNat * input.paletteMatricesPerEntry.toNat :=
      Nat.mul_le_mul_right _ hindex
    have hlt : input.paletteCount.toNat * input.paletteMatricesPerEntry.toNat < 2 ^ 64 :=
      calc input.paletteCount.toNat * input.paletteMatricesPerEntry.toNat
        _ ≤ 2 ^ 32 * input.paletteMatricesPerEntry.toNat := Nat.mul_le_mul_right _ hcountLt.le
        _ < 2 ^ 64 := by omega
    rw [Nat.add_mul, Nat.one_mul] at hle
    obtain ⟨offset, hoffset⟩ := exists_toNat
      (n := input.paletteIndex.toNat * input.paletteMatricesPerEntry.toNat) (by omega)
    obtain ⟨stop, hstop⟩ := exists_toNat
      (n := offset.toNat + input.paletteMatricesPerEntry.toNat) (by omega)
    obtain ⟨matrices, hmatrices⟩ := exists_toNat hlt
    have hend : stop.toNat ≤ matrices.toNat := by
      rw [← hstop, ← hoffset, ← hmatrices]
      exact hle
    have hcount : ¬input.paletteCount = 0 := by
      rw [← UInt32.toNat_inj, UInt32.toNat_zero]
      exact Nat.ne_of_gt (Nat.zero_lt_of_lt hindex)
    exact ⟨⟨hcount, UInt32.lt_iff_toNat_lt.mpr hindex, hentry⟩, offset, hoffset, stop, hstop,
      matrices, hmatrices, hend⟩

theorem rangeFits_iff {total stop : UInt64} {offset length : UInt32} :
    (rangeFits total offset.toUInt64 length.toUInt64 stop).1 = true ↔
      offset.toNat + length.toNat ≤ total.toNat := by
  have hoffset := offset.toNat_lt
  have hlength := length.toNat_lt
  obtain ⟨sum, hsum⟩ := exists_toNat (n := offset.toNat + length.toNat) (by omega)
  have hchecked : checkedAdd offset.toUInt64 length.toUInt64 = some sum := by
    rw [checkedAdd_eq_some, UInt32.toNat_toUInt64, UInt32.toNat_toUInt64, hsum]
  unfold rangeFits
  rw [hchecked, Option.any_some, decide_eq_true_eq, UInt64.le_iff_toNat_le, hsum]

theorem validateGpuSkin_eq_ok : input.validateGpuSkin = .ok u ↔ input.gpuSkinLeaseValid = true ∧
      (input.gpuSkinMapEpoch = input.expectedMapEpoch ∧
        input.gpuSkinDeviceEpoch = input.expectedDeviceEpoch) ∧
      input.gpuSkinSourceOffset.toNat + input.gpuSkinSourceLength.toNat ≤ input.gpuSkinSourceSize.toNat ∧
      input.gpuSkinPaletteOffset.toNat + input.gpuSkinPaletteLength.toNat ≤
        input.gpuSkinPaletteSize.toNat := by
  unfold validateGpuSkin
  dsimp only
  simp only [bind_eq_ok, rejectIf_eq_ok, exists_const, rangeFits_iff, not_not, and_assoc, Bool.not_eq_false]

theorem validate_eq_ok : input.validate = .ok () ↔ Valid input := by
  unfold validate
  simp only [bind_eq_ok, exists_const, Prod.exists, validateEpochs_eq_ok, vertexDomain_eq_ok,
    validateVertexAccess_eq_ok, onlyIf_eq_ok, validatePalette_eq_ok, validateGpuSkin_eq_ok]
  constructor
  · rintro ⟨⟨hbindings, hmap, hdevice, hworld⟩, lo, hi, ⟨hindices, htotal, hfirst, hlo, hhi⟩,
      ⟨hlayout, -, -, hposition⟩, hblend, huv, hpalette, hskin⟩
    rw [hhi] at hposition hblend huv
    exact
      { bindings := hbindings
        mapEpoch := hmap
        deviceEpoch := hdevice
        worldMatrix := hworld
        nonEmpty := ⟨fun h => (hindices h).2.1, input.first, Int.le_refl _, by omega⟩
        indexRange := fun h => (hindices h).2.2
        nonneg := fun n hn => Int.le_trans hfirst hn.1
        position := (forall_draws_iff htotal).mpr hposition
        blend := fun h => (forall_draws_iff htotal).mpr (hblend h).2.2.2
        uv := fun h => (forall_draws_iff htotal).mpr (huv h).2.2.2
        palette := fun h => (hpalette h).1
        gpuSkinEpochs := fun h => (hskin h).2.1
        gpuSkinSource := fun h => (hskin h).2.2.1
        gpuSkinPalette := fun h => (hskin h).2.2.2
        indexType := fun h => (hindices h).1
        positionLayout := hlayout
        blendLayout := fun h => (hblend h).1
        uvLayout := fun h => (huv h).1
        paletteEntry := fun h => (hpalette h).2
        gpuSkinLease := fun h => (hskin h).1 }
  · intro h
    obtain ⟨n, hn⟩ := h.nonEmpty.2
    have htotal : 0 < input.total := by
      obtain ⟨hle, hlt⟩ := hn
      omega
    have hfirst := h.nonneg input.first ⟨Int.le_refl _, by omega⟩
    obtain ⟨lo, hi, hlo, hhi⟩ := input.exists_extent
    have hextent : 0 ≤ lo.toInt ∧ lo.toInt ≤ hi.toInt := ⟨by omega, by omega⟩
    have hlast {access : BufferAccess} (hholds : ∀ n, input.Draws n → access.Holds n) :
        access.Holds hi.toInt := hhi ▸ (forall_draws_iff htotal).mp hholds
    refine ⟨⟨h.bindings, h.mapEpoch, h.deviceEpoch, h.worldMatrix⟩, lo, hi,
      ⟨fun hindexed => ⟨h.indexType hindexed, h.nonEmpty.1 hindexed, h.indexRange hindexed⟩, htotal,
        hfirst, hlo, hhi⟩,
      ⟨h.positionLayout, hextent.1, hextent.2, hlast h.position⟩,
      fun hblend => ⟨h.blendLayout hblend, hextent.1, hextent.2, hlast (h.blend hblend)⟩,
      fun huv => ⟨h.uvLayout huv, hextent.1, hextent.2, hlast (h.uv huv)⟩,
      fun hpalette => ⟨h.palette hpalette, h.paletteEntry hpalette⟩,
      fun hskin => ⟨h.gpuSkinLease hskin, h.gpuSkinEpochs hskin, h.gpuSkinSource hskin,
        h.gpuSkinPalette hskin⟩⟩

end Input

/-! ## Rejections -/

theorem fails_orReject {x : Option UInt64} {failure : Result} (h : failure.reason ≠ .none) :
    Fails (·.reason ≠ .none) (orReject x failure) := by
  cases x with
  | none => exact .error h
  | some n => exact .ok n

theorem fails_validateVertexAccess {missing invalidLayout outOfBounds : RejectReason}
    (hmissing : missing ≠ .none) (hlayout : invalidLayout ≠ .none) (hbounds : outOfBounds ≠ .none) :
    Fails (·.reason ≠ .none)
      (validateVertexAccess access lo hi missing invalidLayout outOfBounds) := by
  unfold validateVertexAccess
  refine .bind (.rejectIf hmissing) fun _ => .bind (.rejectIf hlayout) fun _ =>
    .bind (.rejectIf (by simp)) fun _ => ?_
  refine .bind (fails_orReject (by simp)) fun _ => .bind (fails_orReject (by simp)) fun _ =>
    .bind (fails_orReject (by simp)) fun _ => ?_
  exact .rejectIf hbounds

theorem fails_validate : Fails (·.reason ≠ .none) input.validate := by
  have hepochs : Fails (·.reason ≠ .none) input.validateEpochs := by
    unfold Input.validateEpochs
    iterate 5 refine .bind (.rejectIf (by simp)) fun _ => ?_
    exact .rejectIf (by simp)
  have hindices : Fails (·.reason ≠ .none) input.validateIndices := by
    unfold Input.validateIndices
    iterate 3 refine .bind (.rejectIf (by simp)) fun _ => ?_
    iterate 3 refine .bind (fails_orReject (by simp)) fun _ => ?_
    exact .rejectIf (by simp)
  have hsource : Fails (·.reason ≠ .none) input.sourceDomain := by
    unfold Input.sourceDomain
    split
    · exact .bind (.rejectIf (by simp)) fun _ => .ok _
    · split
      · exact .bind (.rejectIf (by simp)) fun _ => .ok _
      · exact .bind (.rejectIf (by simp)) fun _ =>
          .bind (fails_orReject (by simp)) fun _ => .ok _
  have hdomain : Fails (·.reason ≠ .none) input.vertexDomain := by
    unfold Input.vertexDomain
    split
    · exact .bind hindices fun _ => .bind hsource fun _ => .bind (.rejectIf (by simp)) fun _ => .ok _
    · exact .bind (.rejectIf (by simp)) fun _ => .bind (.rejectIf (by simp)) fun _ => .ok _
  have hpalette : Fails (·.reason ≠ .none) input.validatePalette := by
    unfold Input.validatePalette
    refine .bind (.rejectIf (by simp)) fun _ => ?_
    iterate 3 refine .bind (fails_orReject (by simp)) fun _ => ?_
    exact .rejectIf (by simp)
  have hskin : Fails (·.reason ≠ .none) input.validateGpuSkin := by
    unfold Input.validateGpuSkin
    iterate 4 refine .bind (.rejectIf (by simp)) fun _ => ?_
    exact .rejectIf (by simp)
  unfold Input.validate
  exact .bind hepochs fun _ => .bind hdomain fun _ =>
    .bind (fails_validateVertexAccess (by decide) (by decide) (by decide)) fun _ =>
    .bind (.onlyIf (fails_validateVertexAccess (by decide) (by decide) (by decide))) fun _ =>
    .bind (.onlyIf (fails_validateVertexAccess (by decide) (by decide) (by decide))) fun _ =>
    .bind (.onlyIf hpalette) fun _ => .onlyIf hskin

theorem reason_eq_none_iff :
    (validateWar3ShadowReplayDraw input).reason = .none ↔ Valid input := by
  rw [← Input.validate_eq_ok]
  unfold validateWar3ShadowReplayDraw
  cases h : input.validate with
  | ok => exact ⟨fun _ => rfl, fun _ => rfl⟩
  | error failure => exact ⟨fun hnone => absurd hnone (fails_validate failure h), fun h => by cases h⟩

/-! ## Batches -/

structure Judged (inputs : ℕ → Input) (count : ℕ) (batch : BatchResult) : Prop where
  valid_iff : batch.valid = true ↔ ∀ i < count, Valid (inputs i)
  validated : batch.valid = true → batch.validatedCount = count
  failed : batch.valid = false →
    batch.failureIndex < count ∧ ¬Valid (inputs batch.failureIndex)
  failure : batch.valid = false →
    batch.failure = validateWar3ShadowReplayDraw (inputs batch.failureIndex)
  /-- and the draws before it, which were valid, are validated. -/
  before : batch.valid = false → batch.validatedCount = batch.failureIndex ∧
    ∀ i < batch.failureIndex, Valid (inputs i)

theorem judged_validateFrom {inputs : ℕ → Input} {left i : ℕ} {batch : BatchResult}
    (hvalid : batch.valid = true) (hcount : batch.validatedCount = i)
    (hbefore : ∀ j < i, Valid (inputs j)) :
    Judged inputs (i + left) (validateFrom inputs left i batch) := by
  induction left generalizing i batch with
  | zero =>
    rw [validateFrom]
    exact
      { valid_iff := ⟨fun _ => hbefore, fun _ => hvalid⟩
        validated := fun _ => hcount
        failed := fun h => by rw [hvalid] at h; cases h
        failure := fun h => by rw [hvalid] at h; cases h
        before := fun h => by rw [hvalid] at h; cases h }
  | succ left ih =>
    rw [validateFrom]
    split
    · rename_i hnone
      have hnext := @ih (i + 1) { batch with validatedCount := batch.validatedCount + 1 } hvalid
        (congrArg (· + 1) hcount) fun j hj => by
          obtain hj | rfl := Nat.lt_succ_iff_lt_or_eq.mp hj
          · exact hbefore j hj
          · exact reason_eq_none_iff.mp hnone
      rwa [Nat.add_assoc, Nat.add_comm 1] at hnext
    · rename_i hsome
      have hnot : ¬Valid (inputs i) := fun h => hsome (reason_eq_none_iff.mpr h)
      exact
        { valid_iff := ⟨fun h => (by cases h), fun h => absurd (h i (by omega)) hnot⟩
          validated := fun h => by cases h
          failed := fun _ => ⟨by dsimp only; omega, hnot⟩
          failure := fun _ => rfl
          before := fun _ => ⟨hcount, hbefore⟩ }

/-- A draw is accepted exactly when it is valid. A batch of draws is judged by them, and one that is missing
is not valid. -/
theorem validate_exact :
    (∀ input, (validateWar3ShadowReplayDraw input).reason = .none ↔ Valid input) ∧
      (∀ inputs count, Judged inputs count (validateWar3ShadowReplayBatch (some inputs) count)) ∧
      ∀ count, ((validateWar3ShadowReplayBatch none count).valid = true ↔ count = 0) ∧
        (validateWar3ShadowReplayBatch none count).failureIndex = 0 ∧
        (validateWar3ShadowReplayBatch none count).validatedCount = 0 := by
  refine ⟨fun _ => reason_eq_none_iff, fun inputs count => ?_, fun count => ?_⟩
  · have hjudged := @judged_validateFrom inputs count 0 {} rfl rfl fun j hj => absurd hj (Nat.not_lt_zero j)
    rwa [Nat.zero_add] at hjudged
  · unfold validateWar3ShadowReplayBatch
    dsimp only
    split
    · rename_i hcount
      exact ⟨⟨fun h => (by cases h), fun h => absurd h hcount⟩, rfl, rfl⟩
    · rename_i hcount
      exact ⟨⟨fun _ => not_not.mp hcount, fun _ => rfl⟩, rfl, rfl⟩

/-- A draw of one vertex whose positions overlap, since their stride is smaller than they are. -/
def overlapping : Input where
  expectedMapEpoch := 1
  expectedDeviceEpoch := 1
  drawMapEpoch := 1
  drawDeviceEpoch := 1
  worldMatrixFinite := true
  position := ⟨true, 12, 4, 0, 12⟩
  vertexCount := 1

theorem sound_overlapping : Sound overlapping := by
  have hdraws (n : ℤ) (hn : overlapping.Draws n) : n = 0 := by
    obtain ⟨hle, hlt⟩ := hn
    change (0 : ℤ) ≤ n at hle
    change n < 0 + 1 at hlt
    omega
  exact
    { bindings := rfl
      mapEpoch := by decide
      deviceEpoch := by decide
      worldMatrix := rfl
      nonEmpty := ⟨fun h => (by cases h), 0, by decide, by decide⟩
      indexRange := fun h => by cases h
      nonneg := fun n hn => (hdraws n hn).ge
      position := fun n hn => hdraws n hn ▸ ⟨rfl, by decide⟩
      blend := fun h => by cases h
      uv := fun h => by cases h
      palette := fun h => by cases h
      gpuSkinEpochs := fun h => by cases h
      gpuSkinSource := fun h => by cases h
      gpuSkinPalette := fun h => by cases h }

/-- So without the layouts a draw may be right and be rejected. -/
theorem validate_exact_not_without_layout :
    ¬∀ input, (validateWar3ShadowReplayDraw input).reason = .none ↔ Sound input := by
  intro h
  have hrejected : (validateWar3ShadowReplayDraw overlapping).reason = .invalidPositionLayout := by
    decide +kernel
  rw [(h overlapping).mpr sound_overlapping] at hrejected
  cases hrejected

end War3VK.Render.ReplayValidation
