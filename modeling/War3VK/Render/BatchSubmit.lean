import Mathlib

/-!
# The submission of render batches

`RenderBatch_Submit_Reimpl` (`src/src/d3d9/war3/reimpl/war3_render_queue.cpp`): the renderables of a
scene node are skipped, sent to the transparent queue or appended to the batch array, one element for
each visible layer. The scene is memory of the game, which the call only reads; the batch array grows
through a callback of the game. A write that is not inside the reserved slots is an outcome of its
own: `none` instead of a result. The constants are those of the build: the cull table and the
visibility of layers are not bypassed and the mesh flag is not ignored.
-/

namespace War3VK.Render.BatchSubmit

/-! ## Memory -/

structure Memory where
  /-- `SafeReadU32Fast` or else `SafeReadU32`; pointers are read the same way. -/
  safeU32 : UInt32 → Option UInt32
  /-- `readU32Raw` and `readPtrRaw`. -/
  u32 : UInt32 → UInt32
  /-- `readU8Raw`. -/
  u8 : UInt32 → UInt8
  /-- `IsReadableRangeFast` of one byte. -/
  readable : UInt32 → Bool

/-- `readLayerVisible`, which never fails. -/
def readLayerVisible (mem : Memory) (visibilityOffset layerVisRef : UInt32) : UInt8 :=
  if layerVisRef = 0 then 1
  else if layerVisRef + visibilityOffset < 0x1000 then 1
  else if !mem.readable (layerVisRef + visibilityOffset) then 1
  else mem.u8 (layerVisRef + visibilityOffset)

/-! ## The batch array -/

/-- `RenderBatchElement`. -/
structure RenderBatchElement where
  renderablePart : UInt32
  flags : UInt32
  layerIndex : UInt32
  subIndex : UInt32
  layerStatePtr : UInt32
deriving DecidableEq, Repr

/-- `kBatchElementStride`. -/
def kBatchElementStride : ℕ := 20

structure BatchArray where
  slots : List RenderBatchElement
  addressable : slots.length * kBatchElementStride ≤ 2 ^ 32

def BatchArray.write (array : BatchArray) (i : ℕ) (batch : RenderBatchElement) : BatchArray :=
  ⟨array.slots.set i batch, by rw [List.length_set]; exact array.addressable⟩

structure Queue where
  /-- `*batchCapacityPtr`. -/
  batchCapacity : UInt32
  /-- `*numOfElementsPtr`. -/
  numOfElements : UInt32
  /-- `*batchGrowStepPtr`. -/
  batchGrowStep : UInt32
  /-- `*batchArrayPtr`. -/
  batchArray : Option BatchArray
  reserved : ∀ array ∈ batchArray, batchCapacity.toNat ≤ array.slots.length
  filled : ∀ array ∈ batchArray, numOfElements.toNat ≤ array.slots.length
  counted : numOfElements.toNat * kBatchElementStride ≤ 2 ^ 32

theorem count_next {num : UInt32} {array : BatchArray} (h : num.toNat < array.slots.length) :
    (num + 1).toNat = num.toNat + 1 := by
  have haddressable := array.addressable
  unfold kBatchElementStride at haddressable
  rw [UInt32.toNat_add, UInt32.toNat_one]
  omega

def Queue.append (queue : Queue) (array : BatchArray) (harray : array ∈ queue.batchArray)
    (h : queue.numOfElements.toNat < array.slots.length) (batch : RenderBatchElement) : Queue where
  batchCapacity := queue.batchCapacity
  numOfElements := queue.numOfElements + 1
  batchGrowStep := queue.batchGrowStep
  batchArray := some (array.write queue.numOfElements.toNat batch)
  reserved := fun written hwritten => by
    obtain rfl := Option.mem_some.mp hwritten
    exact (queue.reserved array harray).trans_eq List.length_set.symm
  filled := fun written hwritten => by
    obtain rfl := Option.mem_some.mp hwritten
    rw [count_next h]
    exact h.trans_eq List.length_set.symm
  counted := by
    rw [count_next h]
    exact (Nat.mul_le_mul_right _ h).trans array.addressable

/-- `RenderBatchFns`. -/
structure RenderBatchFns (P : Type) where
  reserveBatchArray : Option (Queue → UInt32 → Queue)
  computeBatchGrowStep : Option (Queue → UInt32 → UInt32)
  /-- `canEnqueueToMainQueue`, unless it is null: its answer for a place in the list. -/
  canEnqueueToMainQueue : Option (ℕ → UInt32 → Bool)
  /-- `transformPoint`, unless it is null: a point from the addresses of a point and a matrix. -/
  transformPoint : Option (UInt32 → UInt32 → P)
  addTransparent : Bool

section

variable {P : Type} (fns : RenderBatchFns P)

/-- `next`, rounded up to a multiple of the growth step. -/
def roundUp (growStep next : UInt32) : UInt32 :=
  if growStep ≠ 0 ∧ next % growStep ≠ 0 then next + (growStep - next % growStep) else next

/-- The capacity for one more element; `none` where it cannot grow. -/
def ensureCapacity (queue : Queue) : Option Queue :=
  let next := queue.numOfElements + 1
  if next > queue.batchCapacity then
    let growStep :=
      if queue.batchGrowStep = 0 then
        (fns.computeBatchGrowStep.map fun compute => compute queue next).getD 0
      else queue.batchGrowStep
    fns.reserveBatchArray.map fun reserve => reserve queue (roundUp growStep next)
  else some queue

/-! ## Layers -/

structure Mesh where
  renderablePart : UInt32
  meshData : UInt32
  layerCount : UInt32
  stateBlockBase : UInt32
  layerDataBase : UInt32
deriving DecidableEq, Repr

/-- `kLayerDataStride`. -/
def kLayerDataStride : UInt32 := 44

/-- `kLayerStateStride`. -/
def kLayerStateStride : UInt32 := 36

/-- `kNativeRenderBatchPrecomputeMaxLayers`. -/
def kMaxPrecomputeLayers : UInt32 := 128

variable (mem : Memory) (visibilityOffset : UInt32)

def layerVisible (layerData : UInt32) : Bool :=
  readLayerVisible mem visibilityOffset (mem.u32 layerData) ≠ 0

/-- The scan of `n` layers that fills `precomputeVisible`. -/
def scanVisible : ℕ → UInt32 → List UInt8
  | 0, _ => []
  | n + 1, scanData =>
    (if layerVisible mem visibilityOffset scanData then 1 else 0) ::
      scanVisible n (scanData + kLayerDataStride)

/-- The scan backwards that fills `precomputeHasVisibleAfter`, and `seenVisible` in the end. -/
def scanAfter : List UInt8 → List UInt8 × Bool
  | [] => ([], false)
  | visible :: rest =>
    let scanned := scanAfter rest
    ((if scanned.2 then 1 else 0) :: scanned.1, visible ≠ 0 || scanned.2)

/-- The probe for a visible layer among `n` layers. -/
def probe : ℕ → UInt32 → Bool
  | 0, _ => false
  | n + 1, probeData =>
    if layerVisible mem visibilityOffset probeData then true
    else probe n (probeData + kLayerDataStride)

/-- `usePrecompute`, from `kNativeRenderBatchPrecomputeVisibilityEnabled`. -/
def usePrecompute (precomputeEnabled : Bool) (layerCount : UInt32) : Bool :=
  precomputeEnabled && layerCount > 1 && layerCount ≤ kMaxPrecomputeLayers

/-- `precomputeVisible`. -/
def precomputeVisible (mesh : Mesh) : List UInt8 :=
  scanVisible mem visibilityOffset mesh.layerCount.toNat (mesh.layerDataBase + 0x1C)

/-- `precomputeHasVisibleAfter`. -/
def precomputeHasVisibleAfter (mesh : Mesh) : List UInt8 :=
  (scanAfter (precomputeVisible mem visibilityOffset mesh)).1

def layerShown (precomputeEnabled : Bool) (mesh : Mesh) (layerIndex : ℕ) (layerData : UInt32) :
    Bool :=
  if usePrecompute precomputeEnabled mesh.layerCount then
    (precomputeVisible mem visibilityOffset mesh).getD layerIndex 0 ≠ 0
  else layerVisible mem visibilityOffset layerData

def visibleAfter (precomputeEnabled : Bool) (mesh : Mesh) (layerIndex : ℕ) (layerData : UInt32) :
    Bool :=
  if usePrecompute precomputeEnabled mesh.layerCount then
    (precomputeHasVisibleAfter mem visibilityOffset mesh).getD layerIndex 0 ≠ 0
  else
    probe mem visibilityOffset (mesh.layerCount.toNat - (layerIndex + 1))
      (layerData + kLayerDataStride)

def Mesh.meshFlag (mesh : Mesh) : Bool := mem.u32 (mesh.meshData + 0x104) ≠ 0

def batchElement (precomputeEnabled : Bool) (mesh : Mesh) (layerIndex : ℕ)
    (layerData statePtr visibleLayerCounter : UInt32) : RenderBatchElement where
  renderablePart := mesh.renderablePart
  flags :=
    (if mesh.meshFlag mem then 1 else 0) |||
      (if visibleLayerCounter > 0 then 2
      else if visibleAfter mem visibilityOffset precomputeEnabled mesh layerIndex layerData then 2
      else 0)
  layerIndex := UInt32.ofNat layerIndex
  subIndex := visibleLayerCounter
  layerStatePtr := statePtr

structure Appended where
  queue : Queue
  batches : List RenderBatchElement
  /-- It was left because the array could not grow or is not there. -/
  refused : Bool

/-- The loop over the layers, with `n` of them left. -/
def layerLoop (precomputeEnabled : Bool) (mesh : Mesh) :
    ℕ → ℕ → UInt32 → UInt32 → UInt32 → Queue → Option Appended
  | 0, _, _, _, _, queue => some ⟨queue, [], false⟩
  | n + 1, layerIndex, layerData, statePtr, visibleLayerCounter, queue =>
    if layerShown mem visibilityOffset precomputeEnabled mesh layerIndex layerData then
      match ensureCapacity fns queue with
      | none => some ⟨queue, [], true⟩
      | some grown =>
        match harray : grown.batchArray with
        | none => some ⟨grown, [], true⟩
        | some array =>
          if h : grown.numOfElements.toNat < array.slots.length then
            let batch := batchElement mem visibilityOffset precomputeEnabled mesh layerIndex layerData
              statePtr visibleLayerCounter
            let next := grown.append array harray h batch
            if batch.flags &&& 1 ≠ 0 then some ⟨next, [batch], false⟩
            else
              (layerLoop precomputeEnabled mesh n (layerIndex + 1) (layerData + kLayerDataStride)
                (statePtr + kLayerStateStride) (visibleLayerCounter + 1) next).map fun rest =>
                  { rest with batches := batch :: rest.batches }
          else none
    else
      layerLoop precomputeEnabled mesh n (layerIndex + 1) (layerData + kLayerDataStride)
        (statePtr + kLayerStateStride) visibleLayerCounter queue

/-! ## Renderables -/

inductive Kind (P : Type)
  /-- It is passed over, and its scene node may have been set. -/
  | skipped (linked : Bool)
  /-- It goes to the transparent queue, with its place and its key. -/
  | transparent (worldPos : P) (transparentKey : UInt32)
  | enqueued (mesh : Mesh)

def classify (sceneNode cullTable meshInfoTable : UInt32) (i : ℕ) (renderablePart : UInt32) :
    Kind P :=
  if renderablePart = 0 then .skipped false
  else if mem.u32 (renderablePart + 0x10) ≠ 0 then .skipped false
  else
    let meshData := mem.u32 (renderablePart + 0x0C)
    if meshData = 0 then .skipped false
    else if mem.u8 (cullTable + (16 * mem.u32 (meshData + 0x11C) + 3)) = 0 then .skipped false
    else
      match fns.canEnqueueToMainQueue, fns.transformPoint, fns.addTransparent with
      | some canEnqueue, some transformPoint, true =>
        if !canEnqueue i renderablePart then
          .transparent (transformPoint (meshData + 0x10C) (sceneNode + 0x64))
            (mem.u32 (meshData + 0x120))
        else
          let meshInfo := mem.u32 (meshInfoTable + mem.u32 (meshData + 0x108) * 4)
          if meshInfo = 0 then .skipped true
          else
            let layerCount := mem.u32 (meshInfo + 0x0C)
            let stateBlockBase := mem.u32 (meshInfo + 0x10)
            let layerInfo := mem.u32 (meshInfo + 0x38)
            if layerCount = 0 ∨ layerInfo = 0 then .skipped true
            else
              let layerDataBase := mem.u32 (layerInfo + 0x10)
              if stateBlockBase = 0 ∨ layerDataBase = 0 then .skipped true
              else .enqueued ⟨renderablePart, meshData, layerCount, stateBlockBase, layerDataBase⟩
      | _, _, _ => .skipped true

structure Submitted (P : Type) extends Appended where
  kind : Kind P

def submitRenderable (precomputeEnabled : Bool) (kind : Kind P) (queue : Queue) :
    Option (Submitted P) :=
  match kind with
  | .enqueued mesh =>
    (layerLoop fns mem visibilityOffset precomputeEnabled mesh mesh.layerCount.toNat 0
      (mesh.layerDataBase + 0x1C) (mesh.stateBlockBase + 4) 0 queue).map fun appended =>
        ⟨appended, kind⟩
  | _ => some ⟨⟨queue, [], false⟩, kind⟩

/-- The loop over the renderables, with `n` of them left: what has been done with each. -/
def renderableLoop (precomputeEnabled : Bool) (sceneNode cullTable meshInfoTable : UInt32) :
    ℕ → ℕ → UInt32 → Queue → Option (List (Submitted P))
  | 0, _, _, _ => some []
  | n + 1, i, list, queue => do
    let submitted ← submitRenderable fns mem visibilityOffset precomputeEnabled
      (classify fns mem sceneNode cullTable meshInfoTable i (mem.u32 list)) queue
    let rest ← renderableLoop precomputeEnabled sceneNode cullTable meshInfoTable n (i + 1)
      (list + 4) submitted.queue
    some (submitted :: rest)

end

/-- `RenderBatch_Submit_Reimpl`: what has been done with each renderable, or `none` inside for the
value `false`. The queue is there unless a pointer to its globals is null. -/
def renderBatchSubmit {P : Type} (fns : RenderBatchFns P) (mem : Memory) (precomputeEnabled : Bool)
    (sceneNode : UInt32) (globals : Option Queue) : Option (Option (List (Submitted P))) :=
  match globals with
  | none => some none
  | some queue =>
    if sceneNode = 0 then some none
    else
      match mem.safeU32 (sceneNode + 0x0C), mem.safeU32 (sceneNode + 0x10) with
      | some renderableCount, some renderableList =>
        if renderableCount = 0 ∨ renderableList = 0 then some (some [])
        else
          match mem.safeU32 (sceneNode + 0x20), mem.safeU32 (sceneNode + 0x30),
            mem.safeU32 (sceneNode + 0x50) with
          | some cullTable, some meshInfoTable, some visibilityOffset =>
            if cullTable = 0 ∨ meshInfoTable = 0 then some none
            else
              (renderableLoop fns mem visibilityOffset precomputeEnabled sceneNode cullTable
                meshInfoTable renderableCount.toNat 0 renderableList queue).map some
          | _, _, _ => some none
      | _, _ => some none

end War3VK.Render.BatchSubmit
