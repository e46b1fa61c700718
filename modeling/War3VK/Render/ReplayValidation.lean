import Mathlib
import War3VK.Lib.Guards

/-!
# The validation of replayed draws

A draw of the shadow pass is replayed without checks of its own, so its buffers, epochs and ranges are
validated before (`src/d3d9/war3/render/war3_shadow_replay_validation.cpp`). The words are those of the
source: sums and products are of 64 bits and wrap where they are not checked.
-/

namespace War3VK.Render.ReplayValidation

open Lib

/-- `War3ShadowReplayRejectReason`, without the reasons that the validation does not give. -/
inductive RejectReason where
  | none
  | missingMapEpoch
  | staleMapEpoch
  | missingDeviceEpoch
  | staleDeviceEpoch
  | nonFiniteWorldMatrix
  | missingPositionBuffer
  | invalidPositionLayout
  | positionRangeOutOfBounds
  | invalidIndexType
  | indexRangeOverflow
  | indexRangeOutOfBounds
  | emptyDraw
  | negativeVertexDomain
  | vertexDomainOverflow
  | invalidActualIndexDomain
  | missingBlendBuffer
  | invalidBlendLayout
  | blendRangeOutOfBounds
  | missingUvBuffer
  | invalidUvLayout
  | uvRangeOutOfBounds
  | invalidPaletteIndex
  | paletteRangeOverflow
  | invalidGpuSkinLease
  | staleGpuSkinMapEpoch
  | staleGpuSkinDeviceEpoch
  | gpuSkinSourceRangeOutOfBounds
  | gpuSkinPaletteRangeOutOfBounds
  | unresolvedBufferBinding
  deriving DecidableEq, Repr

/-- `War3ShadowReplayBufferAccess`. -/
structure BufferAccess where
  present : Bool := false
  size : UInt64 := 0
  stride : UInt32 := 0
  attributeOffset : UInt32 := 0
  attributeBytes : UInt32 := 0
  deriving DecidableEq, Repr

/-- `War3ShadowReplayValidationInput`. -/
structure Input where
  expectedMapEpoch : UInt64 := 0
  expectedDeviceEpoch : UInt64 := 0
  drawMapEpoch : UInt64 := 0
  drawDeviceEpoch : UInt64 := 0
  worldMatrixFinite : Bool := false
  bufferBindingsResolved : Bool := true
  bufferBindingRejectReason : UInt32 := 0
  position : BufferAccess := {}
  indexed : Bool := false
  indexBufferPresent : Bool := false
  indexBufferSize : UInt64 := 0
  indexTypeBytes : UInt32 := 0
  firstIndex : UInt32 := 0
  indexCount : UInt32 := 0
  vertexOffset : Int32 := 0
  minVertexIndex : UInt32 := 0
  numVertices : UInt32 := 0
  firstVertex : UInt32 := 0
  vertexCount : UInt32 := 0
  actualIndexDomainKnown : Bool := false
  fullVertexDomainFallback : Bool := false
  actualIndexMin : UInt32 := 0
  actualIndexMax : UInt32 := 0
  blendRequired : Bool := false
  blend : BufferAccess := {}
  uvRequired : Bool := false
  uv : BufferAccess := {}
  paletteRequired : Bool := false
  paletteIndex : UInt32 := 0
  paletteCount : UInt32 := 0
  paletteMatricesPerEntry : UInt32 := 256
  gpuSkinRequired : Bool := false
  gpuSkinLeaseValid : Bool := false
  gpuSkinMapEpoch : UInt64 := 0
  gpuSkinDeviceEpoch : UInt64 := 0
  gpuSkinSourceSize : UInt64 := 0
  gpuSkinSourceOffset : UInt32 := 0
  gpuSkinSourceLength : UInt32 := 0
  gpuSkinPaletteSize : UInt64 := 0
  gpuSkinPaletteOffset : UInt32 := 0
  gpuSkinPaletteLength : UInt32 := 0

/-- `War3ShadowReplayValidationResult`. -/
structure Result where
  reason : RejectReason := .none
  requiredEnd : UInt64 := 0
  availableSize : UInt64 := 0
  minimumVertex : Int64 := 0
  maximumVertex : Int64 := 0
  deriving DecidableEq, Repr

/-- `CheckedAdd`. -/
def checkedAdd (a b : UInt64) : Option UInt64 :=
  if b > UInt64.ofNat (2 ^ 64 - 1) - a then none else some (a + b)

/-- `CheckedMul`. -/
def checkedMul (a b : UInt64) : Option UInt64 :=
  if a ≠ 0 ∧ b > UInt64.ofNat (2 ^ 64 - 1) / a then none else some (a * b)

def orReject (x : Option UInt64) (failure : Result) : Except Result UInt64 :=
  match x with
  | some n => .ok n
  | none => .error failure

/-- `ValidateVertexAccess`. -/
def validateVertexAccess (access : BufferAccess) (minimumVertex maximumVertex : Int64)
    (missing invalidLayout outOfBounds : RejectReason) : Except Result Unit := do
  let reject (reason : RejectReason) (required : UInt64) : Result :=
    ⟨reason, required, access.size, minimumVertex, maximumVertex⟩
  rejectIf (access.present = false ∨ access.size = 0) (reject missing 0)
  rejectIf (access.stride = 0 ∨ access.attributeBytes = 0 ∨
    access.attributeOffset ≥ access.stride ∨
    access.attributeBytes > access.stride - access.attributeOffset) (reject invalidLayout 0)
  rejectIf (minimumVertex < 0 ∨ maximumVertex < minimumVertex) (reject .negativeVertexDomain 0)
  let vertexByte ← orReject (checkedMul maximumVertex.toUInt64 access.stride.toUInt64)
    (reject .vertexDomainOverflow 0)
  let attributeStart ← orReject (checkedAdd vertexByte access.attributeOffset.toUInt64)
    (reject .vertexDomainOverflow 0)
  let attributeEnd ← orReject (checkedAdd attributeStart access.attributeBytes.toUInt64)
    (reject .vertexDomainOverflow 0)
  rejectIf (attributeEnd > access.size) (reject outOfBounds attributeEnd)

/-- `RangeFits`, with what it leaves in `end`. -/
def rangeFits (total offset length stop : UInt64) : Bool × UInt64 :=
  ((checkedAdd offset length).any (· ≤ total), (checkedAdd offset length).getD stop)

namespace Input

def validateEpochs (input : Input) : Except Result Unit := do
  rejectIf (input.bufferBindingsResolved = false)
    { reason := .unresolvedBufferBinding
      requiredEnd := input.bufferBindingRejectReason.toUInt64 }
  rejectIf (input.drawMapEpoch = 0 ∨ input.expectedMapEpoch = 0) { reason := .missingMapEpoch }
  rejectIf (input.drawMapEpoch ≠ input.expectedMapEpoch) { reason := .staleMapEpoch }
  rejectIf (input.drawDeviceEpoch = 0 ∨ input.expectedDeviceEpoch = 0)
    { reason := .missingDeviceEpoch }
  rejectIf (input.drawDeviceEpoch ≠ input.expectedDeviceEpoch) { reason := .staleDeviceEpoch }
  rejectIf (input.worldMatrixFinite = false) { reason := .nonFiniteWorldMatrix }

def validateIndices (input : Input) : Except Result Unit := do
  rejectIf (input.indexBufferPresent = false ∨ input.indexBufferSize = 0)
    { reason := .indexRangeOutOfBounds }
  rejectIf (input.indexTypeBytes ≠ 2 ∧ input.indexTypeBytes ≠ 4) { reason := .invalidIndexType }
  rejectIf (input.indexCount = 0) { reason := .emptyDraw }
  let firstByte ← orReject (checkedMul input.firstIndex.toUInt64 input.indexTypeBytes.toUInt64)
    { reason := .indexRangeOverflow }
  let countBytes ← orReject (checkedMul input.indexCount.toUInt64 input.indexTypeBytes.toUInt64)
    { reason := .indexRangeOverflow }
  let indexEnd ← orReject (checkedAdd firstByte countBytes) { reason := .indexRangeOverflow }
  rejectIf (indexEnd > input.indexBufferSize)
    { reason := .indexRangeOutOfBounds
      requiredEnd := indexEnd
      availableSize := input.indexBufferSize }

def vertexTotal (input : Input) : UInt64 :=
  if input.numVertices ≠ 0 then input.numVertices.toUInt64 else input.vertexCount.toUInt64

/-- `sourceMinimum` and `sourceMaximum`. -/
def sourceDomain (input : Input) : Except Result (UInt64 × UInt64) :=
  if input.actualIndexDomainKnown then do
    rejectIf (input.actualIndexMax < input.actualIndexMin) { reason := .invalidActualIndexDomain }
    pure (input.actualIndexMin.toUInt64, input.actualIndexMax.toUInt64)
  else if input.fullVertexDomainFallback then do
    rejectIf (input.vertexTotal = 0) { reason := .emptyDraw }
    pure (0, input.vertexTotal - 1)
  else do
    rejectIf (input.vertexTotal = 0) { reason := .emptyDraw }
    let sourceMaximum ← orReject (checkedAdd input.minVertexIndex.toUInt64 (input.vertexTotal - 1))
      { reason := .vertexDomainOverflow }
    pure (input.minVertexIndex.toUInt64, sourceMaximum)

/-- `appliedVertexOffset`. -/
def appliedVertexOffset (input : Input) : Int64 :=
  if input.fullVertexDomainFallback ∧ input.actualIndexDomainKnown = false then 0
  else input.vertexOffset.toInt64

/-- `minimumVertex` and `maximumVertex`, when the indices or the vertex range are valid. -/
def vertexDomain (input : Input) : Except Result (Int64 × Int64) :=
  if input.indexed then do
    input.validateIndices
    let (sourceMinimum, sourceMaximum) ← input.sourceDomain
    let minimumVertex := sourceMinimum.toInt64 + input.appliedVertexOffset
    let maximumVertex := sourceMaximum.toInt64 + input.appliedVertexOffset
    rejectIf (minimumVertex < 0 ∨ maximumVertex < minimumVertex)
      ⟨.negativeVertexDomain, 0, input.position.size, minimumVertex, maximumVertex⟩
    pure (minimumVertex, maximumVertex)
  else do
    rejectIf (input.vertexCount = 0) { reason := .emptyDraw }
    let maximum := input.firstVertex.toUInt64 + input.vertexCount.toUInt64 - 1
    rejectIf (maximum > UInt64.ofNat (2 ^ 63 - 1)) { reason := .vertexDomainOverflow }
    pure (input.firstVertex.toUInt64.toInt64, maximum.toInt64)

def validatePalette (input : Input) : Except Result Unit := do
  rejectIf (input.paletteCount = 0 ∨ input.paletteIndex ≥ input.paletteCount ∨
      input.paletteMatricesPerEntry = 0)
    { reason := .invalidPaletteIndex
      requiredEnd := input.paletteIndex.toUInt64
      availableSize := input.paletteCount.toUInt64 }
  let paletteOffset ← orReject
    (checkedMul input.paletteIndex.toUInt64 input.paletteMatricesPerEntry.toUInt64)
    { reason := .paletteRangeOverflow }
  let paletteEnd ← orReject (checkedAdd paletteOffset input.paletteMatricesPerEntry.toUInt64)
    { reason := .paletteRangeOverflow }
  let totalMatrices ← orReject
    (checkedMul input.paletteCount.toUInt64 input.paletteMatricesPerEntry.toUInt64)
    { reason := .paletteRangeOverflow }
  rejectIf (paletteEnd > totalMatrices)
    { reason := .invalidPaletteIndex
      requiredEnd := paletteEnd
      availableSize := totalMatrices }

def validateGpuSkin (input : Input) : Except Result Unit := do
  rejectIf (input.gpuSkinLeaseValid = false) { reason := .invalidGpuSkinLease }
  rejectIf (input.gpuSkinMapEpoch ≠ input.expectedMapEpoch) { reason := .staleGpuSkinMapEpoch }
  rejectIf (input.gpuSkinDeviceEpoch ≠ input.expectedDeviceEpoch)
    { reason := .staleGpuSkinDeviceEpoch }
  let source := rangeFits input.gpuSkinSourceSize input.gpuSkinSourceOffset.toUInt64
    input.gpuSkinSourceLength.toUInt64 0
  rejectIf (source.1 = false)
    { reason := .gpuSkinSourceRangeOutOfBounds
      requiredEnd := source.2
      availableSize := input.gpuSkinSourceSize }
  let palette := rangeFits input.gpuSkinPaletteSize input.gpuSkinPaletteOffset.toUInt64
    input.gpuSkinPaletteLength.toUInt64 source.2
  rejectIf (palette.1 = false)
    { reason := .gpuSkinPaletteRangeOutOfBounds
      requiredEnd := palette.2
      availableSize := input.gpuSkinPaletteSize }

def validate (input : Input) : Except Result Unit := do
  input.validateEpochs
  let (minimumVertex, maximumVertex) ← input.vertexDomain
  validateVertexAccess input.position minimumVertex maximumVertex .missingPositionBuffer
    .invalidPositionLayout .positionRangeOutOfBounds
  onlyIf input.blendRequired <|
    validateVertexAccess input.blend minimumVertex maximumVertex .missingBlendBuffer
      .invalidBlendLayout .blendRangeOutOfBounds
  onlyIf input.uvRequired <|
    validateVertexAccess input.uv minimumVertex maximumVertex .missingUvBuffer .invalidUvLayout
      .uvRangeOutOfBounds
  onlyIf input.paletteRequired input.validatePalette
  onlyIf input.gpuSkinRequired input.validateGpuSkin

end Input

/-- `ValidateWar3ShadowReplayDraw`. -/
def validateWar3ShadowReplayDraw (input : Input) : Result :=
  match input.validate with
  | .ok () => {}
  | .error failure => failure

/-- `War3ShadowReplayBatchValidationResult`. -/
structure BatchResult where
  valid : Bool := true
  failureIndex : ℕ := 0
  validatedCount : ℕ := 0
  failure : Result := {}
  deriving DecidableEq, Repr

def validateFrom (inputs : ℕ → Input) : ℕ → ℕ → BatchResult → BatchResult
  | 0, _, batch => batch
  | left + 1, i, batch =>
    let result := validateWar3ShadowReplayDraw (inputs i)
    if result.reason = .none then
      validateFrom inputs left (i + 1) { batch with validatedCount := batch.validatedCount + 1 }
    else { batch with valid := false, failureIndex := i, failure := result }

/-- `ValidateWar3ShadowReplayBatch`. The draws may be missing. -/
def validateWar3ShadowReplayBatch (inputs : Option (ℕ → Input)) (count : ℕ) : BatchResult :=
  match inputs with
  | some inputs => validateFrom inputs count 0 {}
  | none =>
    if count ≠ 0 then { valid := false, failure := { reason := .missingPositionBuffer } } else {}

end War3VK.Render.ReplayValidation
