import War3VK.Model.InstanceRegistry

/-!
# The registry of shadow objects

`ShadowObjectRegistry` (`src/d3d9/war3/render/war3_shadow_object_registry.cpp` and `.h`) keeps a record of
each object that may cast a shadow under every pointer and handle it is known by. Floats are their bit
patterns, compared as the processor compares them. A call that writes is a function of a `Writing`, and
what the registries of models and instances answer it is `ShadowOutside`.
-/

namespace War3VK.Render

open Lib Model

structure ShadowOutside where
  memory : GameMemory
  findBySprite : Ptr → Option ModelResourceRecord
  findByRuntimeModel : Ptr → Option ModelResourceRecord
  /-- `ModelInstanceRegistry::findBySpritePtr`. -/
  findInstanceBySpritePtr : Ptr → Option ModelInstanceRecord

/-! ## Records -/

/-- `ShadowObjectRecord`. -/
structure ShadowObjectRecord where
  worldObjectEntry : Ptr := 0
  sceneNode : Ptr := 0
  unitPtr : Ptr := 0
  spritePtr : Ptr := 0
  runtimeModelPtr : Ptr := 0
  modelResourcePtr : Ptr := 0
  modelPath : List UInt8 := []
  jHandle : UInt32 := 0
  rawcode : UInt32 := 0
  kind : ObjectKind := .unknown
  modelKey : UInt64 := 0
  modelType : UInt32 := 0
  modelFlags : UInt32 := 0
  sequenceId : UInt32 := 0
  sequenceTime : UInt32 := 0
  scale : UInt32 := one32
  yaw : UInt32 := 0
  pitch : UInt32 := 0
  roll : UInt32 := 0
  height : UInt32 := 0
  hasWorldTransform : Bool := false
  worldTransform : Matrix4 := .identity
  hasSpriteFrameTransform : Bool := false
  spriteFrameTransform : Matrix4 := .identity
  spriteFrameDt : UInt32 := 0
  matrixCount : UInt32 := 0
  matrixHash : UInt64 := 0
  lastRootPoseFrame : UInt64 := 0
  lastSpriteFramePoseFrame : UInt64 := 0
  lastMatrixPaletteFrame : UInt64 := 0
  spriteFrameSampleCount : UInt32 := 0
  firstSeenFrame : UInt64 := 0
  lastSeenFrame : UInt64 := 0
  lastSceneCollectorBatchFrame : UInt64 := 0

namespace ShadowObjectRecord

/-- `MergeShadowRecord`. -/
def merge (dst src : ShadowObjectRecord) : ShadowObjectRecord where
  worldObjectEntry := carry 0 dst.worldObjectEntry src.worldObjectEntry
  sceneNode := carry 0 dst.sceneNode src.sceneNode
  unitPtr := carry 0 dst.unitPtr src.unitPtr
  spritePtr := carry 0 dst.spritePtr src.spritePtr
  runtimeModelPtr := carry 0 dst.runtimeModelPtr src.runtimeModelPtr
  modelResourcePtr := carry 0 dst.modelResourcePtr src.modelResourcePtr
  modelPath := carry [] dst.modelPath src.modelPath
  jHandle := carry 0 dst.jHandle src.jHandle
  rawcode := carry 0 dst.rawcode src.rawcode
  kind := carry .unknown dst.kind src.kind
  modelKey := carry 0 dst.modelKey src.modelKey
  modelType := carry 0 dst.modelType src.modelType
  modelFlags := carry 0 dst.modelFlags src.modelFlags
  sequenceId := carry 0 dst.sequenceId src.sequenceId
  sequenceTime := carryFloat dst.sequenceTime src.sequenceTime
  scale := carryScale dst.scale src.scale
  yaw := carryFloat dst.yaw src.yaw
  pitch := carryFloat dst.pitch src.pitch
  roll := carryFloat dst.roll src.roll
  height := carryFloat dst.height src.height
  hasWorldTransform := src.hasWorldTransform || dst.hasWorldTransform
  worldTransform := if src.hasWorldTransform then src.worldTransform else dst.worldTransform
  hasSpriteFrameTransform := src.hasSpriteFrameTransform || dst.hasSpriteFrameTransform
  spriteFrameTransform :=
    if src.hasSpriteFrameTransform then src.spriteFrameTransform else dst.spriteFrameTransform
  spriteFrameDt := carryFloat dst.spriteFrameDt src.spriteFrameDt
  matrixCount := carry 0 dst.matrixCount src.matrixCount
  matrixHash := if src.matrixCount ≠ 0 then src.matrixHash else dst.matrixHash
  lastRootPoseFrame := carry 0 dst.lastRootPoseFrame src.lastRootPoseFrame
  lastSpriteFramePoseFrame := carry 0 dst.lastSpriteFramePoseFrame src.lastSpriteFramePoseFrame
  lastMatrixPaletteFrame := carry 0 dst.lastMatrixPaletteFrame src.lastMatrixPaletteFrame
  spriteFrameSampleCount := carry 0 dst.spriteFrameSampleCount src.spriteFrameSampleCount
  firstSeenFrame := earliest dst.firstSeenFrame src.firstSeenFrame
  lastSeenFrame := latest dst.lastSeenFrame src.lastSeenFrame
  lastSceneCollectorBatchFrame :=
    latest dst.lastSceneCollectorBatchFrame src.lastSceneCollectorBatchFrame

/-- `HasSameShadowObjectPayloadExact`. -/
def hasSamePayloadExact (a b : ShadowObjectRecord) : Bool :=
  a.worldObjectEntry == b.worldObjectEntry && a.sceneNode == b.sceneNode &&
    a.unitPtr == b.unitPtr && a.spritePtr == b.spritePtr &&
    a.runtimeModelPtr == b.runtimeModelPtr && a.modelResourcePtr == b.modelResourcePtr &&
    a.modelPath == b.modelPath && a.jHandle == b.jHandle && a.rawcode == b.rawcode &&
    a.kind == b.kind && a.modelKey == b.modelKey && a.modelType == b.modelType &&
    a.modelFlags == b.modelFlags && a.sequenceId == b.sequenceId &&
    Binary32.eq a.sequenceTime b.sequenceTime && Binary32.eq a.scale b.scale &&
    Binary32.eq a.yaw b.yaw && Binary32.eq a.pitch b.pitch && Binary32.eq a.roll b.roll &&
    Binary32.eq a.height b.height && a.hasWorldTransform == b.hasWorldTransform &&
    Matrix4.eq a.worldTransform b.worldTransform &&
    a.hasSpriteFrameTransform == b.hasSpriteFrameTransform &&
    Matrix4.eq a.spriteFrameTransform b.spriteFrameTransform &&
    Binary32.eq a.spriteFrameDt b.spriteFrameDt && a.matrixCount == b.matrixCount &&
    a.matrixHash == b.matrixHash && a.lastRootPoseFrame == b.lastRootPoseFrame &&
    a.lastSpriteFramePoseFrame == b.lastSpriteFramePoseFrame &&
    a.lastMatrixPaletteFrame == b.lastMatrixPaletteFrame &&
    a.spriteFrameSampleCount == b.spriteFrameSampleCount && a.firstSeenFrame == b.firstSeenFrame

/-- `if (it != map.end()) Merge(dst, it->second)`, with a key that may be null. -/
def absorb {κ : Type} [DecidableEq κ] [OfNat κ 0] (table : Table κ ShadowObjectRecord) (key : κ)
    (dst : ShadowObjectRecord) : ShadowObjectRecord :=
  match table.find key with
  | some src => dst.merge src
  | none => dst

end ShadowObjectRecord

structure ShadowMaps where
  byWorldObjectEntry : Table Ptr ShadowObjectRecord := fun _ => none
  bySceneNode : Table Ptr ShadowObjectRecord := fun _ => none
  byUnitPtr : Table Ptr ShadowObjectRecord := fun _ => none
  bySpritePtr : Table Ptr ShadowObjectRecord := fun _ => none
  byRuntimeModel : Table Ptr ShadowObjectRecord := fun _ => none
  byHandle : Table UInt32 ShadowObjectRecord := fun _ => none

/-- `ShadowIdentitySameFrameDedupStats`. -/
structure ShadowDedupStats where
  attempts : UInt64 := 0
  hits : UInt64 := 0
  missMissingAlias : UInt64 := 0
  missCrossFrame : UInt64 := 0
  missNoBatchProof : UInt64 := 0
  missIncomplete : UInt64 := 0
  missInputMismatch : UInt64 := 0
  missAliasConflict : UInt64 := 0
  batchMarked : UInt64 := 0

/-- `ShadowObjectRegistry`. -/
structure ShadowRegistry where
  maps : ShadowMaps := {}
  sameFrameIdentityDedupStats : ShadowDedupStats := {}
  lastSceneCollectorBatchFrame : UInt64 := 0
  frameNumber : UInt64 := 0
  /-- `m_mutationGeneration`, as long as it has not wrapped. -/
  mutationGeneration : ℕ := 0

namespace ShadowRegistry

def editMaps (change : ShadowMaps → ShadowMaps) (s : ShadowRegistry) : ShadowRegistry :=
  { s with maps := change s.maps }

/-- One count of `RegistryMutationGenerationGuard`. -/
def bump (s : ShadowRegistry) : ShadowRegistry :=
  { s with mutationGeneration := s.mutationGeneration + 1 }

def nextFrame (s : ShadowRegistry) : ShadowRegistry := { s with frameNumber := s.frameNumber + 1 }

/-- `RegistryMutationGenerationGuard` around a body. -/
def guarded (body : Writing ShadowRegistry → Writing ShadowRegistry) :
    Writing ShadowRegistry → Writing ShadowRegistry := Writing.guarded bump body

/-! ## Stores -/

/-- What `storeRecord` stores. -/
def merged (maps : ShadowMaps) (record : ShadowObjectRecord) : ShadowObjectRecord :=
  let acc : ShadowObjectRecord := {}
  let acc := acc.absorb maps.byWorldObjectEntry record.worldObjectEntry
  let acc := acc.absorb maps.bySceneNode record.sceneNode
  let acc := acc.absorb maps.byUnitPtr record.unitPtr
  let acc := acc.absorb maps.bySpritePtr record.spritePtr
  let acc := acc.absorb maps.byRuntimeModel record.runtimeModelPtr
  let acc := acc.absorb maps.byHandle record.jHandle
  acc.merge record

/-- A record that `storeRecord` cannot file. -/
def keyless (record : ShadowObjectRecord) : Bool :=
  record.worldObjectEntry = 0 && record.sceneNode = 0 && record.unitPtr = 0 &&
    record.spritePtr = 0 && record.runtimeModelPtr = 0 && record.jHandle = 0

/-- The tables that `storeRecord` writes under the guard. -/
def file (merged : ShadowObjectRecord) (w : Writing ShadowRegistry) : Writing ShadowRegistry :=
  let w := w.editIf (merged.worldObjectEntry ≠ 0) <| editMaps fun m =>
    { m with byWorldObjectEntry := m.byWorldObjectEntry.put merged.worldObjectEntry merged }
  let w := w.editIf (merged.sceneNode ≠ 0) <| editMaps fun m =>
    { m with bySceneNode := m.bySceneNode.put merged.sceneNode merged }
  let w := w.editIf (merged.unitPtr ≠ 0) <| editMaps fun m =>
    { m with byUnitPtr := m.byUnitPtr.put merged.unitPtr merged }
  let w := w.editIf (merged.spritePtr ≠ 0) <| editMaps fun m =>
    { m with bySpritePtr := m.bySpritePtr.put merged.spritePtr merged }
  let w := w.editIf (merged.runtimeModelPtr ≠ 0) <| editMaps fun m =>
    { m with byRuntimeModel := m.byRuntimeModel.put merged.runtimeModelPtr merged }
  w.editIf (merged.jHandle ≠ 0) <| editMaps fun m =>
    { m with byHandle := m.byHandle.put merged.jHandle merged }

/-- `storeRecord`. -/
def storeRecord (record : ShadowObjectRecord) (w : Writing ShadowRegistry) :
    Writing ShadowRegistry :=
  let merged := merged w.now.maps record
  if keyless merged then w else guarded (file merged) w

/-! ## Frames -/

/-- `beginFrame`. -/
def beginFrame (w : Writing ShadowRegistry) : Writing ShadowRegistry :=
  guarded (fun w => w.edit nextFrame) w

/-- `endFrame`. -/
def endFrame (w : Writing ShadowRegistry) : Writing ShadowRegistry := w

/-- `resetMapSession`. -/
def resetMapSession (w : Writing ShadowRegistry) : Writing ShadowRegistry :=
  guarded (fun w => w
    |>.edit (editMaps fun m => { m with byWorldObjectEntry := fun _ => none })
    |>.edit (editMaps fun m => { m with bySceneNode := fun _ => none })
    |>.edit (editMaps fun m => { m with byUnitPtr := fun _ => none })
    |>.edit (editMaps fun m => { m with bySpritePtr := fun _ => none })
    |>.edit (editMaps fun m => { m with byRuntimeModel := fun _ => none })
    |>.edit (editMaps fun m => { m with byHandle := fun _ => none })
    |>.edit (fun s => { s with
        sameFrameIdentityDedupStats := {}
        lastSceneCollectorBatchFrame := 0 })
    |>.edit nextFrame) w

/-! ## The identity of an object -/

def knownIdentity (maps : ShadowMaps) (sceneNode unitPtr spritePtr : Ptr) (jHandle : UInt32) :
    ShadowObjectRecord :=
  let record : ShadowObjectRecord := {}
  let record := record.absorb maps.bySceneNode sceneNode
  let record := record.absorb maps.byUnitPtr unitPtr
  let record := record.absorb maps.bySpritePtr spritePtr
  record.absorb maps.byHandle jHandle

def named (worldObjectEntry sceneNode unitPtr spritePtr : Ptr) (record : ShadowObjectRecord) :
    ShadowObjectRecord :=
  { record with
    worldObjectEntry := worldObjectEntry
    sceneNode := sceneNode
    unitPtr := unitPtr
    spritePtr := carry 0 record.spritePtr spritePtr }

def withUnitSprite (o : ShadowOutside) (record : ShadowObjectRecord) : ShadowObjectRecord :=
  if record.unitPtr ≠ 0 ∧ record.spritePtr = 0 ∧ o.memory.unitIsValid record.unitPtr then
    { record with spritePtr := o.memory.unitGetSprite record.unitPtr }
  else record

def coded (jHandle rawcode : UInt32) (kind : ObjectKind) (record : ShadowObjectRecord) :
    ShadowObjectRecord :=
  { record with
    jHandle := carry 0 record.jHandle jHandle
    rawcode := carry 0 record.rawcode rawcode
    kind := carry .unknown record.kind kind }

def withRuntimeModel (o : ShadowOutside) (record : ShadowObjectRecord) : ShadowObjectRecord :=
  if record.spritePtr ≠ 0 ∧ record.runtimeModelPtr = 0 then
    { record with runtimeModelPtr := o.memory.tryReadRuntimeModelFromSprite record.spritePtr }
  else record

/-- `findBySprite(...) || findByRuntimeModel(...)`. -/
def findModel (o : ShadowOutside) (record : ShadowObjectRecord) : Option ModelResourceRecord :=
  (o.findBySprite record.spritePtr).or (o.findByRuntimeModel record.runtimeModelPtr)

def withMissingModel (o : ShadowOutside) (record : ShadowObjectRecord) : ShadowObjectRecord :=
  if record.spritePtr ≠ 0 ∧ (record.runtimeModelPtr = 0 ∨ record.modelKey = 0 ∨
      record.modelResourcePtr = 0 ∨ record.modelPath = []) then
    match findModel o record with
    | none => record
    | some model =>
      { record with
        runtimeModelPtr := carry 0 record.runtimeModelPtr model.runtimeModelPtr
        modelResourcePtr := model.modelResourcePtr
        modelPath := model.modelPath
        modelKey := model.modelKey
        modelType := model.modelType
        modelFlags := model.flags }
  else record

/-- `lastSeenFrame` of now, and `firstSeenFrame` if there is none. -/
def seen (frame : UInt64) (record : ShadowObjectRecord) : ShadowObjectRecord :=
  { record with
    firstSeenFrame := if record.firstSeenFrame = 0 then frame else record.firstSeenFrame
    lastSeenFrame := frame }

/-- The record of `noteInstanceIdentityLocked` before the collector marks it. -/
def identityRecord (o : ShadowOutside) (maps : ShadowMaps) (currentFrame : UInt64)
    (worldObjectEntry sceneNode unitPtr spritePtr : Ptr) (jHandle rawcode : UInt32)
    (kind : ObjectKind) : ShadowObjectRecord :=
  let record := knownIdentity maps sceneNode unitPtr spritePtr jHandle
  let record := named worldObjectEntry sceneNode unitPtr spritePtr record
  let record := coded jHandle rawcode kind (withUnitSprite o record)
  let record := withMissingModel o (withRuntimeModel o record)
  seen currentFrame record

def markBatch (currentFrame : UInt64) (s : ShadowRegistry) : ShadowRegistry :=
  { s with
    lastSceneCollectorBatchFrame := currentFrame
    sameFrameIdentityDedupStats :=
      { s.sameFrameIdentityDedupStats with
        batchMarked := s.sameFrameIdentityDedupStats.batchMarked + 1 } }

def marked (sceneCollectorBatch : Bool) (currentFrame : UInt64) (record : ShadowObjectRecord) :
    ShadowObjectRecord :=
  if sceneCollectorBatch then { record with lastSceneCollectorBatchFrame := currentFrame } else record

/-- `noteInstanceIdentityLocked`. -/
def noteInstanceIdentityLocked (o : ShadowOutside)
    (worldObjectEntry sceneNode unitPtr spritePtr : Ptr) (jHandle rawcode : UInt32)
    (kind : ObjectKind) (sceneCollectorBatch : Bool) (w : Writing ShadowRegistry) :
    Writing ShadowRegistry :=
  if worldObjectEntry = 0 ∧ sceneNode = 0 ∧ unitPtr = 0 ∧ spritePtr = 0 ∧ jHandle = 0 ∧
      rawcode = 0 then w
  else
    let currentFrame := w.now.frameNumber
    let record := marked sceneCollectorBatch currentFrame <|
      identityRecord o w.now.maps currentFrame worldObjectEntry sceneNode unitPtr spritePtr jHandle
        rawcode kind
    storeRecord record (w.editIf (sceneCollectorBatch = true) (markBatch currentFrame))

end ShadowRegistry

end War3VK.Render
