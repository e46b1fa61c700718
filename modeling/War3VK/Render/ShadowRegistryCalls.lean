import War3VK.Render.ShadowRegistry

/-!
# The calls of the registry of shadow objects

The calls of `ShadowObjectRegistry` that write, the skip of an object that the collector of the scene has
already noted in the frame, and the lookups whose answers callers keep with a generation
(`src/d3d9/war3/render/war3_shadow_object_registry.cpp`). `Writer` is any of the calls that write.
-/

namespace War3VK.Render.ShadowRegistry

open Lib Model

/-! ## The skip -/

/-- The outcomes of `trySkipExactSameFrameRenderObjectLocked`, one for each of its counters. -/
inductive SkipOutcome where
  /-- `hits`. -/
  | hit
  /-- `missMissingAlias`. -/
  | missingAlias
  /-- `missCrossFrame`. -/
  | crossFrame
  /-- `missNoBatchProof`. -/
  | noBatchProof
  /-- `missIncomplete`. -/
  | incomplete
  /-- `missInputMismatch`. -/
  | inputMismatch
  /-- `missAliasConflict`. -/
  | aliasConflict
  deriving DecidableEq, Repr

/-- `validateAlias`, with `failAlias`. -/
def validateAlias {κ : Type} (canonical : ShadowObjectRecord) (currentFrame : UInt64)
    (table : Table κ ShadowObjectRecord) (key : κ) : SkipOutcome :=
  match table key with
  | none => .missingAlias
  | some aliasRecord =>
    if aliasRecord.lastSeenFrame ≠ currentFrame then .crossFrame
    else if aliasRecord.lastSceneCollectorBatchFrame ≠ currentFrame then .noBatchProof
    else if !canonical.hasSamePayloadExact aliasRecord then .aliasConflict
    else .hit

/-- The record that a skip would leave as it is, or why there is none. -/
def skipCanonical (maps : ShadowMaps) (info : RenderObjectInfo) (currentFrame : UInt64) :
    Except SkipOutcome ShadowObjectRecord :=
  if info.worldObjectEntry = 0 ∨ info.sceneNode = 0 then .error .incomplete
  else
    match maps.bySceneNode info.sceneNode with
    | none => .error .missingAlias
    | some canonical =>
      if canonical.lastSeenFrame ≠ currentFrame then .error .crossFrame
      else if canonical.lastSceneCollectorBatchFrame ≠ currentFrame then .error .noBatchProof
      else if canonical.worldObjectEntry ≠ info.worldObjectEntry ∨
          canonical.sceneNode ≠ info.sceneNode ∨
          (info.unitPtr ≠ 0 ∧ canonical.unitPtr ≠ info.unitPtr) ∨
          (info.jHandle ≠ 0 ∧ canonical.jHandle ≠ info.jHandle) ∨
          (info.rawcode ≠ 0 ∧ canonical.rawcode ≠ info.rawcode) ∨
          (info.kind ≠ .unknown ∧ canonical.kind ≠ info.kind) then .error .inputMismatch
      else if canonical.firstSeenFrame = 0 ∨ canonical.worldObjectEntry = 0 ∨
          canonical.sceneNode = 0 ∨ canonical.unitPtr = 0 ∨ canonical.spritePtr = 0 ∨
          canonical.runtimeModelPtr = 0 ∨ canonical.modelKey = 0 ∨
          canonical.modelResourcePtr = 0 ∨ canonical.modelPath = [] then .error .incomplete
      else .ok canonical

def skipOutcome (maps : ShadowMaps) (info : RenderObjectInfo) (currentFrame : UInt64) :
    SkipOutcome :=
  match skipCanonical maps info currentFrame with
  | .error outcome => outcome
  | .ok c =>
    firstMiss .hit [
      validateAlias c currentFrame maps.byWorldObjectEntry c.worldObjectEntry,
      validateAlias c currentFrame maps.byUnitPtr c.unitPtr,
      validateAlias c currentFrame maps.bySpritePtr c.spritePtr,
      validateAlias c currentFrame maps.byRuntimeModel c.runtimeModelPtr,
      if c.jHandle ≠ 0 then validateAlias c currentFrame maps.byHandle c.jHandle else .hit]

def noteOutcome (stats : ShadowDedupStats) : SkipOutcome → ShadowDedupStats
  | .hit => { stats with hits := stats.hits + 1 }
  | .missingAlias => { stats with missMissingAlias := stats.missMissingAlias + 1 }
  | .crossFrame => { stats with missCrossFrame := stats.missCrossFrame + 1 }
  | .noBatchProof => { stats with missNoBatchProof := stats.missNoBatchProof + 1 }
  | .incomplete => { stats with missIncomplete := stats.missIncomplete + 1 }
  | .inputMismatch => { stats with missInputMismatch := stats.missInputMismatch + 1 }
  | .aliasConflict => { stats with missAliasConflict := stats.missAliasConflict + 1 }

def countAttempt (outcome : SkipOutcome) (s : ShadowRegistry) : ShadowRegistry :=
  { s with
    sameFrameIdentityDedupStats := noteOutcome
      { s.sameFrameIdentityDedupStats with attempts := s.sameFrameIdentityDedupStats.attempts + 1 }
      outcome }

/-- `trySkipExactSameFrameRenderObjectLocked`. -/
def trySkipExactSameFrameRenderObjectLocked (info : RenderObjectInfo) (currentFrame : UInt64)
    (w : Writing ShadowRegistry) : Bool × Writing ShadowRegistry :=
  let outcome := skipOutcome w.now.maps info currentFrame
  (outcome = .hit, w.edit (countAttempt outcome))

/-! ## Notes -/

/-- `noteRenderObject`. -/
def noteRenderObject (o : ShadowOutside) (info : RenderObjectInfo) (w : Writing ShadowRegistry) :
    Writing ShadowRegistry :=
  let note := noteInstanceIdentityLocked o info.worldObjectEntry info.sceneNode info.unitPtr 0
    info.jHandle info.rawcode info.kind false
  if info.anonymous then w
  else
    let currentFrame := w.now.frameNumber
    if currentFrame ≠ 0 ∧ w.now.lastSceneCollectorBatchFrame = currentFrame then
      let (skip, w) := trySkipExactSameFrameRenderObjectLocked info currentFrame w
      if skip then w else note w
    else note w

/-- One object of `noteRenderObjectsBatch`. -/
def noteBatched (o : ShadowOutside) (w : Writing ShadowRegistry) (info : Option RenderObjectInfo) :
    Writing ShadowRegistry :=
  match info with
  | none => w
  | some info =>
    if info.anonymous then w
    else
      noteInstanceIdentityLocked o info.worldObjectEntry info.sceneNode info.unitPtr 0 info.jHandle
        info.rawcode info.kind true w

def withInstance (o : ShadowOutside) (spritePtr : Ptr) (record : ShadowObjectRecord) :
    ShadowObjectRecord :=
  match o.findInstanceBySpritePtr spritePtr with
  | none => record
  | some inst =>
    { record with
      worldObjectEntry := inst.worldObjectEntry
      sceneNode := inst.sceneNode
      unitPtr := inst.unitPtr
      jHandle := inst.jHandle
      rawcode := inst.rawcode }

/-- `noteModelBinding`. -/
def noteModelBinding (o : ShadowOutside) (spritePtr runtimeModelPtr modelResourcePtr : Ptr)
    (modelPath : List UInt8) (modelType modelFlags : UInt32) (modelKey : UInt64)
    (w : Writing ShadowRegistry) : Writing ShadowRegistry :=
  if spritePtr = 0 ∨ (runtimeModelPtr = 0 ∧ modelKey = 0 ∧ modelPath = []) then w
  else
    let record : ShadowObjectRecord := {}
    let record := record.absorb w.now.maps.bySpritePtr spritePtr
    let record := record.absorb w.now.maps.byRuntimeModel runtimeModelPtr
    let record := withInstance o spritePtr record
    storeRecord (seen w.now.frameNumber { record with
      spritePtr := spritePtr
      runtimeModelPtr := carry 0 record.runtimeModelPtr runtimeModelPtr
      modelResourcePtr := carry 0 record.modelResourcePtr modelResourcePtr
      modelPath := carry [] record.modelPath modelPath
      modelKey := carry 0 record.modelKey modelKey
      modelType := carry 0 record.modelType modelType
      modelFlags := carry 0 record.modelFlags modelFlags }) w

structure PoseArgs where
  sequenceId : UInt32
  sequenceTime : UInt32
  scale : UInt32
  yaw : UInt32
  pitch : UInt32
  roll : UInt32
  height : UInt32
  hasWorldTransform : Bool
  worldTransform : Option Matrix4
  matrixCount : UInt32
  matrixHash : UInt64

/-- `hasWorldTransform && worldTransform != nullptr`. -/
def PoseArgs.transform (args : PoseArgs) : Option Matrix4 :=
  if args.hasWorldTransform then args.worldTransform else none

def posed (args : PoseArgs) (runtimeModelPtr sceneNode unitPtr : Ptr) (record : ShadowObjectRecord) :
    ShadowObjectRecord :=
  { record with
    runtimeModelPtr := runtimeModelPtr
    sceneNode := carry 0 record.sceneNode sceneNode
    unitPtr := carry 0 record.unitPtr unitPtr
    sequenceId := args.sequenceId
    sequenceTime := args.sequenceTime
    scale := args.scale
    yaw := args.yaw
    pitch := args.pitch
    roll := args.roll
    height := args.height }

def modelOfRuntime (o : ShadowOutside) (runtimeModelPtr : Ptr) : ShadowObjectRecord :=
  match o.findByRuntimeModel runtimeModelPtr with
  | none => {}
  | some model =>
    { runtimeModelPtr := runtimeModelPtr
      spritePtr := model.spritePtr
      modelResourcePtr := model.modelResourcePtr
      modelPath := model.modelPath
      modelKey := model.modelKey
      modelType := model.modelType
      modelFlags := model.flags }

def knownForPose (o : ShadowOutside) (maps : ShadowMaps) (runtimeModelPtr : Ptr) :
    ShadowObjectRecord :=
  if runtimeModelPtr = 0 then {}
  else
    match maps.byRuntimeModel runtimeModelPtr with
    | some src => ShadowObjectRecord.merge {} src
    | none => modelOfRuntime o runtimeModelPtr

def withWorldTransform (transform : Option Matrix4) (record : ShadowObjectRecord) :
    ShadowObjectRecord :=
  match transform with
  | none => record
  | some matrix => { record with hasWorldTransform := true, worldTransform := matrix }

def withSpriteFrameTransform (transform : Option Matrix4) (record : ShadowObjectRecord) :
    ShadowObjectRecord :=
  match transform with
  | none => record
  | some matrix => { record with hasSpriteFrameTransform := true, spriteFrameTransform := matrix }

/-- `notePose`. -/
def notePose (o : ShadowOutside) (runtimeModelPtr sceneNode unitPtr : Ptr) (args : PoseArgs)
    (w : Writing ShadowRegistry) : Writing ShadowRegistry :=
  if runtimeModelPtr = 0 ∧ sceneNode = 0 ∧ unitPtr = 0 then w
  else
    let frame := w.now.frameNumber
    let record := posed args runtimeModelPtr sceneNode unitPtr
      (knownForPose o w.now.maps runtimeModelPtr)
    let record := withWorldTransform args.transform record
    storeRecord (seen frame { record with
      matrixCount := args.matrixCount
      matrixHash := args.matrixHash
      lastRootPoseFrame := frame }) w

/-- `noteSpriteFramePose`. -/
def noteSpriteFramePose (runtimeModelPtr spritePtr sceneNode unitPtr : Ptr) (dt : UInt32)
    (args : PoseArgs) (w : Writing ShadowRegistry) : Writing ShadowRegistry :=
  if runtimeModelPtr = 0 ∧ spritePtr = 0 ∧ sceneNode = 0 ∧ unitPtr = 0 then w
  else
    let frame := w.now.frameNumber
    let record : ShadowObjectRecord := {}
    let record := record.absorb w.now.maps.byRuntimeModel runtimeModelPtr
    let record := record.absorb w.now.maps.bySpritePtr spritePtr
    let record := posed args runtimeModelPtr sceneNode unitPtr record
    let record := withSpriteFrameTransform args.transform record
    storeRecord (seen frame { record with
      spritePtr := carry 0 record.spritePtr spritePtr
      spriteFrameDt := dt
      matrixCount := carry 0 record.matrixCount args.matrixCount
      matrixHash := if args.matrixCount ≠ 0 then args.matrixHash else record.matrixHash
      lastSpriteFramePoseFrame := frame
      spriteFrameSampleCount := 1 }) w

/-! ## Writers -/

inductive Writer where
  | beginFrame
  | endFrame
  | resetMapSession
  | noteRenderObject (info : RenderObjectInfo)
  | noteRenderObjectsBatch (infos : List (Option RenderObjectInfo))
  | noteInstanceIdentity (worldObjectEntry sceneNode unitPtr spritePtr : Ptr)
      (jHandle rawcode : UInt32) (kind : ObjectKind)
  | noteModelBinding (spritePtr runtimeModelPtr modelResourcePtr : Ptr) (modelPath : List UInt8)
      (modelType modelFlags : UInt32) (modelKey : UInt64)
  | notePose (runtimeModelPtr sceneNode unitPtr : Ptr) (args : PoseArgs)
  | noteSpriteFramePose (runtimeModelPtr spritePtr sceneNode unitPtr : Ptr) (dt : UInt32)
      (args : PoseArgs)

def write (o : ShadowOutside) : Writer → Writing ShadowRegistry → Writing ShadowRegistry
  | .beginFrame => beginFrame
  | .endFrame => endFrame
  | .resetMapSession => resetMapSession
  | .noteRenderObject info => noteRenderObject o info
  | .noteRenderObjectsBatch infos => fun w => infos.foldl (noteBatched o) w
  | .noteInstanceIdentity worldObjectEntry sceneNode unitPtr spritePtr jHandle rawcode kind =>
    noteInstanceIdentityLocked o worldObjectEntry sceneNode unitPtr spritePtr jHandle rawcode kind
      false
  | .noteModelBinding spritePtr runtimeModelPtr modelResourcePtr modelPath modelType modelFlags
      modelKey =>
    noteModelBinding o spritePtr runtimeModelPtr modelResourcePtr modelPath modelType modelFlags
      modelKey
  | .notePose runtimeModelPtr sceneNode unitPtr args =>
    notePose o runtimeModelPtr sceneNode unitPtr args
  | .noteSpriteFramePose runtimeModelPtr spritePtr sceneNode unitPtr dt args =>
    noteSpriteFramePose runtimeModelPtr spritePtr sceneNode unitPtr dt args

/-- The registry after a list of calls, each with what it reads outside. -/
def run (calls : List (ShadowOutside × Writer)) : ShadowRegistry :=
  calls.foldl (fun s call => (write call.1 call.2 (.start s)).now) {}

/-! ## Lookups -/

/-- `ShadowObjectAugmentView`. -/
structure AugmentView where
  worldObjectEntry : Ptr
  sceneNode : Ptr
  unitPtr : Ptr
  runtimeModelPtr : Ptr
  modelResourcePtr : Ptr
  jHandle : UInt32
  rawcode : UInt32
  kind : ObjectKind
  modelKey : UInt64
  scale : UInt32
  height : UInt32
  hasWorldTransform : Bool
  worldTransform : Matrix4
  hasSpriteFrameTransform : Bool
  spriteFrameTransform : Matrix4
  matrixCount : UInt32
  matrixHash : UInt64
  lastRootPoseFrame : UInt64
  lastSpriteFramePoseFrame : UInt64
  lastMatrixPaletteFrame : UInt64

/-- `ProjectShadowObjectAugmentView`. -/
def projectAugmentView (src : ShadowObjectRecord) : AugmentView where
  worldObjectEntry := src.worldObjectEntry
  sceneNode := src.sceneNode
  unitPtr := src.unitPtr
  runtimeModelPtr := src.runtimeModelPtr
  modelResourcePtr := src.modelResourcePtr
  jHandle := src.jHandle
  rawcode := src.rawcode
  kind := src.kind
  modelKey := src.modelKey
  scale := src.scale
  height := src.height
  hasWorldTransform := src.hasWorldTransform
  worldTransform := src.worldTransform
  hasSpriteFrameTransform := src.hasSpriteFrameTransform
  spriteFrameTransform := src.spriteFrameTransform
  matrixCount := src.matrixCount
  matrixHash := src.matrixHash
  lastRootPoseFrame := src.lastRootPoseFrame
  lastSpriteFramePoseFrame := src.lastSpriteFramePoseFrame
  lastMatrixPaletteFrame := src.lastMatrixPaletteFrame

/-- `findFirstForDirectPacketView`. -/
def findFirstForDirectPacketView (maps : ShadowMaps) (worldObjectEntry sceneNode : Ptr)
    (jHandle : UInt32) (primaryRuntimeModelPtr secondaryRuntimeModelPtr : Ptr) :
    Option AugmentView :=
  let secondary := if secondaryRuntimeModelPtr ≠ primaryRuntimeModelPtr then
    maps.byRuntimeModel.find secondaryRuntimeModelPtr else none
  let found := (maps.byWorldObjectEntry.find worldObjectEntry).or <|
    (maps.bySceneNode.find sceneNode).or <| (maps.byHandle.find jHandle).or <|
      (maps.byRuntimeModel.find primaryRuntimeModelPtr).or secondary
  found.map projectAugmentView

/-- `findFirstForAugmentView`. -/
def findFirstForAugmentView (maps : ShadowMaps)
    (worldObjectEntry sceneNode primaryUnitPtr secondaryUnitPtr : Ptr) (jHandle : UInt32)
    (runtimeModelPtr : Ptr) : Option AugmentView :=
  let secondary := if secondaryUnitPtr ≠ primaryUnitPtr then maps.byUnitPtr.find secondaryUnitPtr
    else none
  let found := (maps.byWorldObjectEntry.find worldObjectEntry).or <|
    (maps.bySceneNode.find sceneNode).or <| (maps.byUnitPtr.find primaryUnitPtr).or <|
      secondary.or <| (maps.byHandle.find jHandle).or (maps.byRuntimeModel.find runtimeModelPtr)
  found.map projectAugmentView

inductive Query where
  /-- `findFirstForDirectPacketView`. -/
  | directPacket (worldObjectEntry sceneNode : Ptr) (jHandle : UInt32)
      (primaryRuntimeModelPtr secondaryRuntimeModelPtr : Ptr)
  /-- `findFirstForAugmentView`. -/
  | augment (worldObjectEntry sceneNode primaryUnitPtr secondaryUnitPtr : Ptr) (jHandle : UInt32)
      (runtimeModelPtr : Ptr)

/-- Their answers, that of `findFirstForAugmentView` with the number of the frame. -/
structure Answer where
  view : Option AugmentView
  /-- `frameNumberOut`. -/
  frameNumber : Option UInt64

def look (s : ShadowRegistry) : Query → Answer
  | .directPacket worldObjectEntry sceneNode jHandle primaryRuntimeModelPtr
      secondaryRuntimeModelPtr =>
    ⟨findFirstForDirectPacketView s.maps worldObjectEntry sceneNode jHandle primaryRuntimeModelPtr
      secondaryRuntimeModelPtr, none⟩
  | .augment worldObjectEntry sceneNode primaryUnitPtr secondaryUnitPtr jHandle runtimeModelPtr =>
    ⟨findFirstForAugmentView s.maps worldObjectEntry sceneNode primaryUnitPtr secondaryUnitPtr
      jHandle runtimeModelPtr, some s.frameNumber⟩

end War3VK.Render.ShadowRegistry
