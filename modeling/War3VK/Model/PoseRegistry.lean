import War3VK.Lib.Seqlock
import War3VK.Model.RegistryRecords

/-!
# The registry of poses

`PoseRegistry` (`src/d3d9/war3/model/war3_model_registry.cpp` and `.h`) keeps the last pose of each
model: its root, the frame of its sprite, its palette of matrices. The calls that write open their guard
as soon as they hold the lock; a frame begins without one, since no lookup returns its number.
-/

namespace War3VK.Model

open Lib

/-- `PoseRecord`. -/
structure PoseRecord where
  runtimeModelPtr : Ptr := 0
  sceneNode : Ptr := 0
  unitPtr : Ptr := 0
  spritePtr : Ptr := 0
  sequenceId : UInt32 := 0
  sequenceTime : UInt32 := 0
  scale : UInt32 := one32
  yaw : UInt32 := 0
  pitch : UInt32 := 0
  roll : UInt32 := 0
  height : UInt32 := 0
  hasWorldTransform : Bool := false
  worldTransform : Matrix4 := .identity
  hasSpriteFrameTransform : Bool := false
  spriteFrameTransform : Matrix4 := .identity
  spriteFrameDt : UInt32 := 0
  matrixCount : UInt32 := 0
  matrixHash : UInt64 := 0
  matrixPalette : List Matrix4 := []
  lastRootPoseFrame : UInt64 := 0
  lastSpriteFramePoseFrame : UInt64 := 0
  lastMatrixPaletteFrame : UInt64 := 0
  spriteFrameSampleCount : UInt32 := 0
  firstSeenFrame : UInt64 := 0
  lastSeenFrame : UInt64 := 0

namespace PoseRecord

/-- `replacedMatrixPalette`. -/
def replacesPalette (dst src : PoseRecord) : Bool :=
  src.matrixCount ≠ 0 &&
    (dst.matrixCount = 0 || src.lastMatrixPaletteFrame > dst.lastMatrixPaletteFrame ||
      (src.lastMatrixPaletteFrame = dst.lastMatrixPaletteFrame &&
        src.matrixCount ≥ dst.matrixCount))

/-- `MergePoseRecord`. -/
def merge (dst src : PoseRecord) : PoseRecord where
  runtimeModelPtr := carry 0 dst.runtimeModelPtr src.runtimeModelPtr
  sceneNode := carry 0 dst.sceneNode src.sceneNode
  unitPtr := carry 0 dst.unitPtr src.unitPtr
  spritePtr := carry 0 dst.spritePtr src.spritePtr
  sequenceId := carry 0 dst.sequenceId src.sequenceId
  sequenceTime := carryFloat dst.sequenceTime src.sequenceTime
  scale := carryScale dst.scale src.scale
  yaw := carryFloat dst.yaw src.yaw
  pitch := carryFloat dst.pitch src.pitch
  roll := carryFloat dst.roll src.roll
  height := carryFloat dst.height src.height
  hasWorldTransform := dst.hasWorldTransform || src.hasWorldTransform
  worldTransform := if src.hasWorldTransform then src.worldTransform else dst.worldTransform
  hasSpriteFrameTransform := dst.hasSpriteFrameTransform || src.hasSpriteFrameTransform
  spriteFrameTransform :=
    if src.hasSpriteFrameTransform then src.spriteFrameTransform else dst.spriteFrameTransform
  spriteFrameDt := carryFloat dst.spriteFrameDt src.spriteFrameDt
  matrixCount := if replacesPalette dst src then src.matrixCount else dst.matrixCount
  matrixHash := if replacesPalette dst src then src.matrixHash else dst.matrixHash
  matrixPalette := if replacesPalette dst src then src.matrixPalette else dst.matrixPalette
  lastRootPoseFrame := carry 0 dst.lastRootPoseFrame src.lastRootPoseFrame
  lastSpriteFramePoseFrame := carry 0 dst.lastSpriteFramePoseFrame src.lastSpriteFramePoseFrame
  lastMatrixPaletteFrame :=
    if src.lastMatrixPaletteFrame ≠ 0 ∧ (src.matrixCount = 0 ∨ replacesPalette dst src = true) then
      src.lastMatrixPaletteFrame
    else dst.lastMatrixPaletteFrame
  spriteFrameSampleCount := carry 0 dst.spriteFrameSampleCount src.spriteFrameSampleCount
  firstSeenFrame := earliest dst.firstSeenFrame src.firstSeenFrame
  lastSeenFrame := latest dst.lastSeenFrame src.lastSeenFrame

/-- `ClassifyPoseTracking(record).spriteFramePose`. -/
def spriteFramePose (record : PoseRecord) : Bool := record.lastSpriteFramePoseFrame ≠ 0

/-- `ClassifyPoseTracking(record).matrixPalette`. -/
def hasMatrixPalette (record : PoseRecord) : Bool :=
  record.lastMatrixPaletteFrame ≠ 0 && record.matrixCount ≠ 0 && !record.matrixPalette.isEmpty

/-- `ClassifyPoseTracking(record).readyPose`. -/
def readyPose (record : PoseRecord) : Bool :=
  record.spriteFramePose || record.lastRootPoseFrame ≠ 0 || record.hasMatrixPalette

/-- `if (it != map.end()) MergePoseRecord(dst, it->second)`, with a key that may be null. -/
def absorb (table : Table Ptr PoseRecord) (key : Ptr) (dst : PoseRecord) : PoseRecord :=
  match table.find key with
  | some src => dst.merge src
  | none => dst

end PoseRecord

structure PoseMaps where
  byRuntimeModel : Table Ptr PoseRecord := fun _ => none
  bySceneNode : Table Ptr PoseRecord := fun _ => none
  byUnitPtr : Table Ptr PoseRecord := fun _ => none

/-- `PoseRegistry`. -/
structure PoseRegistry where
  maps : PoseMaps := {}
  trackingReadyPoseCount : UInt64 := 0
  trackingSpriteFramePoseCount : UInt64 := 0
  trackingMatrixPaletteCount : UInt64 := 0
  frameNumber : UInt64 := 0
  /-- `m_mutationGeneration`, as long as it has not wrapped. -/
  mutationGeneration : ℕ := 0
  /-- Every `assert` of the registry has held. -/
  assertsHold : Bool := true

namespace PoseRegistry

def editMaps (change : PoseMaps → PoseMaps) (s : PoseRegistry) : PoseRegistry :=
  { s with maps := change s.maps }

/-- One count of `RegistryMutationGenerationGuard`. -/
def bump (s : PoseRegistry) : PoseRegistry :=
  { s with mutationGeneration := s.mutationGeneration + 1 }

def nextFrame (s : PoseRegistry) : PoseRegistry := { s with frameNumber := s.frameNumber + 1 }

/-- `RegistryMutationGenerationGuard` around a body. -/
def guarded (body : Writing PoseRegistry → Writing PoseRegistry) :
    Writing PoseRegistry → Writing PoseRegistry := Writing.guarded bump body

/-! ## Stores -/

/-- An `assert`. -/
def assertThat (condition : Bool) (s : PoseRegistry) : PoseRegistry :=
  { s with assertsHold := s.assertsHold && condition }

def recountReady (previous : Option PoseRecord) (current : PoseRecord) (s : PoseRegistry) :
    PoseRegistry :=
  let oldValue := previous.any PoseRecord.readyPose
  let count :=
    replaceTrackingClassificationCount s.trackingReadyPoseCount oldValue current.readyPose
  assertThat (trackingAssert s.trackingReadyPoseCount oldValue current.readyPose)
    { s with trackingReadyPoseCount := count }

/-- The count of poses with the frame of a sprite, after a record was replaced. -/
def recountSpriteFrame (previous : Option PoseRecord) (current : PoseRecord) (s : PoseRegistry) :
    PoseRegistry :=
  let oldValue := previous.any PoseRecord.spriteFramePose
  let count := replaceTrackingClassificationCount s.trackingSpriteFramePoseCount oldValue
    current.spriteFramePose
  assertThat (trackingAssert s.trackingSpriteFramePoseCount oldValue current.spriteFramePose)
    { s with trackingSpriteFramePoseCount := count }

def recountMatrixPalette (previous : Option PoseRecord) (current : PoseRecord) (s : PoseRegistry) :
    PoseRegistry :=
  let oldValue := previous.any PoseRecord.hasMatrixPalette
  let count := replaceTrackingClassificationCount s.trackingMatrixPaletteCount oldValue
    current.hasMatrixPalette
  assertThat (trackingAssert s.trackingMatrixPaletteCount oldValue current.hasMatrixPalette)
    { s with trackingMatrixPaletteCount := count }

/-- `storeRuntimeModelRecordLocked`. -/
def storeRuntimeModelRecordLocked (record : PoseRecord) (w : Writing PoseRegistry) :
    Writing PoseRegistry :=
  if record.runtimeModelPtr = 0 then w.edit (assertThat false)
  else
    let previous := w.now.maps.byRuntimeModel record.runtimeModelPtr
    w.edit (editMaps fun m =>
        { m with byRuntimeModel := m.byRuntimeModel.put record.runtimeModelPtr record })
      |>.edit (recountReady previous record)
      |>.edit (recountSpriteFrame previous record)
      |>.edit (recountMatrixPalette previous record)

/-- What `storeRecord` stores. -/
def merged (maps : PoseMaps) (record : PoseRecord) : PoseRecord :=
  let acc : PoseRecord := {}
  let acc := acc.absorb maps.byRuntimeModel record.runtimeModelPtr
  let acc := acc.absorb maps.bySceneNode record.sceneNode
  let acc := acc.absorb maps.byUnitPtr record.unitPtr
  acc.merge record

/-- `storeRecord`, which its callers guard. -/
def storeRecord (record : PoseRecord) (w : Writing PoseRegistry) : Writing PoseRegistry :=
  let merged := merged w.now.maps record
  let w := if merged.runtimeModelPtr ≠ 0 then storeRuntimeModelRecordLocked merged w else w
  let w := w.editIf (merged.sceneNode ≠ 0) <| editMaps fun m =>
    { m with bySceneNode := m.bySceneNode.put merged.sceneNode merged }
  w.editIf (merged.unitPtr ≠ 0) <| editMaps fun m =>
    { m with byUnitPtr := m.byUnitPtr.put merged.unitPtr merged }

/-! ## Calls that write -/

/-- `beginFrame`. -/
def beginFrame (w : Writing PoseRegistry) : Writing PoseRegistry := w.edit nextFrame

/-- `resetMapSession`. -/
def resetMapSession (w : Writing PoseRegistry) : Writing PoseRegistry :=
  guarded (fun w => w
    |>.edit (editMaps fun m => { m with byRuntimeModel := fun _ => none })
    |>.edit (editMaps fun m => { m with bySceneNode := fun _ => none })
    |>.edit (editMaps fun m => { m with byUnitPtr := fun _ => none })
    |>.edit (fun s => { s with
        trackingReadyPoseCount := 0
        trackingSpriteFramePoseCount := 0
        trackingMatrixPaletteCount := 0 })
    |>.edit nextFrame) w

structure Posture where
  sequenceId : UInt32
  sequenceTime : UInt32
  scale : UInt32
  yaw : UInt32
  pitch : UInt32
  roll : UInt32
  height : UInt32
  /-- `*worldTransform`, if `hasWorldTransform` is set and the pointer is not null. -/
  worldTransform : Option Matrix4

def posed (runtimeModelPtr sceneNode unitPtr : Ptr) (posture : Posture) (frame : UInt64) :
    PoseRecord where
  runtimeModelPtr := runtimeModelPtr
  sceneNode := sceneNode
  unitPtr := unitPtr
  sequenceId := posture.sequenceId
  sequenceTime := posture.sequenceTime
  scale := posture.scale
  yaw := posture.yaw
  pitch := posture.pitch
  roll := posture.roll
  height := posture.height
  firstSeenFrame := frame
  lastSeenFrame := frame

/-- `recordPose`. -/
def recordPose (runtimeModelPtr sceneNode unitPtr : Ptr) (posture : Posture)
    (w : Writing PoseRegistry) : Writing PoseRegistry :=
  if runtimeModelPtr = 0 ∧ sceneNode = 0 ∧ unitPtr = 0 then w
  else
    guarded (fun w =>
      let frame := w.now.frameNumber
      storeRecord { posed runtimeModelPtr sceneNode unitPtr posture frame with
        hasWorldTransform := posture.worldTransform.isSome
        worldTransform := posture.worldTransform.getD .identity
        lastRootPoseFrame := frame } w) w

/-- `recordSpriteFramePose`. -/
def recordSpriteFramePose (runtimeModelPtr spritePtr sceneNode unitPtr : Ptr) (dt : UInt32)
    (posture : Posture) (w : Writing PoseRegistry) : Writing PoseRegistry :=
  if runtimeModelPtr = 0 ∧ spritePtr = 0 ∧ sceneNode = 0 ∧ unitPtr = 0 then w
  else
    guarded (fun w =>
      let frame := w.now.frameNumber
      storeRecord { posed runtimeModelPtr sceneNode unitPtr posture frame with
        spritePtr := spritePtr
        spriteFrameDt := dt
        hasSpriteFrameTransform := posture.worldTransform.isSome
        spriteFrameTransform := posture.worldTransform.getD .identity
        lastSpriteFramePoseFrame := frame
        spriteFrameSampleCount := 1 } w) w

def matrixBytes (matrix : Matrix4) : Bytes :=
  (List.finRange 4).flatMap fun row => (List.finRange 4).flatMap fun column =>
    putLe (matrix row column)

/-- `recordMatrixPalette`, with what is read through `matrices` unless it is null. -/
def recordMatrixPalette (runtimeModelPtr sceneNode unitPtr : Ptr) (matrices : Option (ℕ → Matrix4))
    (matrixCount : UInt32) (w : Writing PoseRegistry) : Writing PoseRegistry :=
  match matrices with
  | none => w
  | some matrices =>
    if (runtimeModelPtr = 0 ∧ sceneNode = 0 ∧ unitPtr = 0) ∨ matrixCount = 0 then w
    else
      guarded (fun w =>
        let frame := w.now.frameNumber
        let palette := (List.range matrixCount.toNat).map matrices
        storeRecord
          { runtimeModelPtr := runtimeModelPtr
            sceneNode := sceneNode
            unitPtr := unitPtr
            matrixCount := matrixCount
            matrixPalette := palette
            matrixHash := fnv1a64 (palette.flatMap matrixBytes)
            lastMatrixPaletteFrame := frame
            firstSeenFrame := frame
            lastSeenFrame := frame } w) w

inductive Writer where
  | beginFrame
  | endFrame
  | resetMapSession
  | recordPose (runtimeModelPtr sceneNode unitPtr : Ptr) (posture : Posture)
  | recordSpriteFramePose (runtimeModelPtr spritePtr sceneNode unitPtr : Ptr) (dt : UInt32)
      (posture : Posture)
  | recordMatrixPalette (runtimeModelPtr sceneNode unitPtr : Ptr)
      (matrices : Option (ℕ → Matrix4)) (matrixCount : UInt32)

def write : Writer → Writing PoseRegistry → Writing PoseRegistry
  | .beginFrame => beginFrame
  | .endFrame => id
  | .resetMapSession => resetMapSession
  | .recordPose runtimeModelPtr sceneNode unitPtr posture =>
    recordPose runtimeModelPtr sceneNode unitPtr posture
  | .recordSpriteFramePose runtimeModelPtr spritePtr sceneNode unitPtr dt posture =>
    recordSpriteFramePose runtimeModelPtr spritePtr sceneNode unitPtr dt posture
  | .recordMatrixPalette runtimeModelPtr sceneNode unitPtr matrices matrixCount =>
    recordMatrixPalette runtimeModelPtr sceneNode unitPtr matrices matrixCount

def run (calls : List Writer) : PoseRegistry :=
  calls.foldl (fun s call => (write call (.start s)).now) {}

/-! ## Lookups -/

/-- `PoseAugmentView`. -/
structure AugmentView where
  runtimeModelPtr : Ptr
  sceneNode : Ptr
  unitPtr : Ptr
  hasWorldTransform : Bool
  worldTransform : Matrix4
  hasSpriteFrameTransform : Bool
  spriteFrameTransform : Matrix4
  scale : UInt32
  height : UInt32
  matrixCount : UInt32
  matrixHash : UInt64
  lastRootPoseFrame : UInt64
  lastSpriteFramePoseFrame : UInt64
  lastMatrixPaletteFrame : UInt64

/-- `ProjectPoseAugment`. -/
def projectPoseAugment (record : PoseRecord) : AugmentView where
  runtimeModelPtr := record.runtimeModelPtr
  sceneNode := record.sceneNode
  unitPtr := record.unitPtr
  hasWorldTransform := record.hasWorldTransform
  worldTransform := record.worldTransform
  hasSpriteFrameTransform := record.hasSpriteFrameTransform
  spriteFrameTransform := record.spriteFrameTransform
  scale := record.scale
  height := record.height
  matrixCount := record.matrixCount
  matrixHash := record.matrixHash
  lastRootPoseFrame := record.lastRootPoseFrame
  lastSpriteFramePoseFrame := record.lastSpriteFramePoseFrame
  lastMatrixPaletteFrame := record.lastMatrixPaletteFrame

structure Query where
  runtimeModelPtr : Ptr
  sceneNode : Ptr
  unitPtr : Ptr

/-- `findFirstForDirectPacketAugment`. -/
def look (s : PoseRegistry) (query : Query) : Option AugmentView :=
  let found := (s.maps.byRuntimeModel.find query.runtimeModelPtr).or <|
    (s.maps.bySceneNode.find query.sceneNode).or (s.maps.byUnitPtr.find query.unitPtr)
  found.map projectPoseAugment

end PoseRegistry

end War3VK.Model

/-!
## What the calls of the registry of poses keep

A call stores a record under its guard, begins a frame or ends a session. What these moves keep every call
keeps (`Moves.write`), and so the generation is kept to (`kept_write`).
-/

namespace War3VK.Model.PoseRegistry

open Lib

/-! ### Moves -/

structure Moves (Q : Writing PoseRegistry → Prop) : Prop where
  store : ∀ w (record : UInt64 → PoseRecord), Q w →
    Q (guarded (fun w => storeRecord (record w.now.frameNumber) w) w)
  begin : ∀ w, Q w → Q (beginFrame w)
  reset : ∀ w, Q w → Q (resetMapSession w)

variable {Q : Writing PoseRegistry → Prop} {w : Writing PoseRegistry}

theorem Moves.write (hQ : Moves Q) (h : Q w) (call : Writer) : Q (write call w) := by
  cases call with
  | beginFrame => exact hQ.begin w h
  | endFrame => exact h
  | resetMapSession => exact hQ.reset w h
  | recordPose runtimeModelPtr sceneNode unitPtr posture =>
    unfold PoseRegistry.write recordPose
    dsimp only
    split
    · exact h
    · exact hQ.store w (fun frame => { posed runtimeModelPtr sceneNode unitPtr posture frame with
        hasWorldTransform := posture.worldTransform.isSome
        worldTransform := posture.worldTransform.getD .identity
        lastRootPoseFrame := frame }) h
  | recordSpriteFramePose runtimeModelPtr spritePtr sceneNode unitPtr dt posture =>
    unfold PoseRegistry.write recordSpriteFramePose
    dsimp only
    split
    · exact h
    · exact hQ.store w (fun frame => { posed runtimeModelPtr sceneNode unitPtr posture frame with
        spritePtr := spritePtr
        spriteFrameDt := dt
        hasSpriteFrameTransform := posture.worldTransform.isSome
        spriteFrameTransform := posture.worldTransform.getD .identity
        lastSpriteFramePoseFrame := frame
        spriteFrameSampleCount := 1 }) h
  | recordMatrixPalette runtimeModelPtr sceneNode unitPtr matrices matrixCount =>
    unfold PoseRegistry.write recordMatrixPalette
    cases matrices with
    | none => exact h
    | some matrices =>
      dsimp only
      split
      · exact h
      · exact hQ.store w (fun frame =>
          let palette := (List.range matrixCount.toNat).map matrices
          { runtimeModelPtr := runtimeModelPtr
            sceneNode := sceneNode
            unitPtr := unitPtr
            matrixCount := matrixCount
            matrixPalette := palette
            matrixHash := fnv1a64 (palette.flatMap matrixBytes)
            lastMatrixPaletteFrame := frame
            firstSeenFrame := frame
            lastSeenFrame := frame }) h

theorem Moves.run {P : PoseRegistry → Prop} (hP : Moves fun w => P w.now) (h : P {})
    (calls : List Writer) : P (run calls) := by
  have hrun : ∀ s : PoseRegistry, P s →
      P (calls.foldl (fun s call => (PoseRegistry.write call (.start s)).now) s) := by
    induction calls with
    | nil => exact fun s h => h
    | cons call calls ih => exact fun s h => ih _ (hP.write (w := .start s) h call)
  exact hrun _ h

/-! ### Generations -/

abbrev Kept (parity : ℕ → Prop) (s : PoseRegistry) (w : Writing PoseRegistry) : Prop :=
  Tracked mutationGeneration look parity s w

variable {s : PoseRegistry}

theorem Kept.guarded (h : Kept Even s w) {body : Writing PoseRegistry → Writing PoseRegistry}
    (hbody : ∀ w', Kept Odd s w' → Kept Odd s (body w')) : Kept Even s (guarded body w) :=
  Tracked.guarded h (fun _ => rfl) hbody

theorem Kept.editMaps (h : Kept Odd s w) (change : PoseMaps → PoseMaps) :
    Kept Odd s (w.edit (editMaps change)) := h.inside rfl

theorem Kept.storeRecord (h : Kept Odd s w) (record : PoseRecord) :
    Kept Odd s (storeRecord record w) := by
  unfold PoseRegistry.storeRecord
  dsimp only
  refine Tracked.insideIf (Tracked.insideIf ?_ rfl) rfl
  split
  · unfold storeRuntimeModelRecordLocked
    split
    · exact Tracked.inside h rfl
    · exact Tracked.inside (Tracked.inside (Tracked.inside (h.editMaps _) rfl) rfl) rfl
  · exact h

theorem kept_write (h : Kept Even s w) (call : Writer) : Kept Even s (write call w) := by
  have hmoves : Moves (Kept Even s) :=
    { store := fun _ _ h' => Kept.guarded h' fun _ h'' => Kept.storeRecord h'' _
      -- No lookup returns the number of the frame.
      begin := fun _ h' => h'.quiet rfl rfl
      reset := fun _ h' => Kept.guarded h' fun _ h'' =>
        Tracked.inside (Tracked.inside (((h''.editMaps _).editMaps _).editMaps _) rfl) rfl }
  exact hmoves.write h call

end War3VK.Model.PoseRegistry
