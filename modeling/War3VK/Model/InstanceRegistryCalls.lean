import War3VK.Model.InstanceRegistry

/-!
# The calls of the registry of model instances

The calls of `ModelInstanceRegistry` that write, the skip of an object that the collector of the scene
has already noted in the frame, and the lookups whose answers callers keep with a generation
(`src/d3d9/war3/model/war3_model_registry.cpp`). `Writer` is any of the calls that write.
-/

namespace War3VK.Model

open Lib

namespace InstanceRegistry

/-! ## Frames -/

/-- `beginFrame`. -/
def beginFrame (w : Writing InstanceRegistry) : Writing InstanceRegistry :=
  guarded (fun w => w.edit nextFrame) w

/-- `kWar3RuntimeConfigDisableSemanticRegistryEndFrameSweeps`. -/
def disableEndFrameSweeps : Bool := true

/-- The sweep of `endFrame` over one table. -/
def sweep {κ : Type} (frame : UInt64) (table : Table κ ModelInstanceRecord) :
    Table κ ModelInstanceRecord :=
  fun key => (table key).map fun record => { record with lastSeenFrame := frame }

/-- `endFrame`. -/
def endFrame (w : Writing InstanceRegistry) : Writing InstanceRegistry :=
  if disableEndFrameSweeps then w
  else
    let frame := w.now.frameNumber
    guarded (fun w => w
      |>.edit (editMaps fun m => { m with byWorldObjectEntry := sweep frame m.byWorldObjectEntry })
      |>.edit (editMaps fun m => { m with bySceneNode := sweep frame m.bySceneNode })
      |>.edit (editMaps fun m => { m with byUnitPtr := sweep frame m.byUnitPtr })
      |>.edit (editMaps fun m => { m with bySpritePtr := sweep frame m.bySpritePtr })
      |>.edit (editMaps fun m => { m with byRuntimeModel := sweep frame m.byRuntimeModel })
      |>.edit (editMaps fun m =>
        { m with runtimeOwnerByRuntimeModel := sweep frame m.runtimeOwnerByRuntimeModel })
      |>.edit (editMaps fun m => { m with bySourceObject := sweep frame m.bySourceObject })
      |>.edit (editMaps fun m =>
        { m with bySourceSpriteObject := sweep frame m.bySourceSpriteObject })
      |>.edit (editMaps fun m => { m with byHandle := sweep frame m.byHandle })) w

/-- `resetMapSession`. -/
def resetMapSession (w : Writing InstanceRegistry) : Writing InstanceRegistry :=
  guarded (fun w => w
    |>.edit (editMaps fun m => { m with byWorldObjectEntry := fun _ => none })
    |>.edit (editMaps fun m => { m with bySceneNode := fun _ => none })
    |>.edit (editMaps fun m => { m with byUnitPtr := fun _ => none })
    |>.edit (editMaps fun m => { m with bySpritePtr := fun _ => none })
    |>.edit (editMaps fun m => { m with byRuntimeModel := fun _ => none })
    |>.edit (editMaps fun m => { m with runtimeOwnerByRuntimeModel := fun _ => none })
    |>.edit (editMaps fun m => { m with bySourceObject := fun _ => none })
    |>.edit (editMaps fun m => { m with bySourceSpriteObject := fun _ => none })
    |>.edit (editMaps fun m => { m with byHandle := fun _ => none })
    |>.edit (fun s => { s with
        trackingRuntimeBoundCount := 0
        trackingCompleteIdentityCount := 0
        sameFrameIdentityDedupStats := {}
        lastSceneCollectorBatchFrame := 0 })
    |>.edit nextFrame) w

/-! ## The identity of an instance -/

def knownIdentity (maps : InstanceMaps) (sceneNode unitPtr spritePtr : Ptr) (jHandle : UInt32) :
    ModelInstanceRecord :=
  let record : ModelInstanceRecord := {}
  let record := record.absorb maps.bySceneNode sceneNode
  let record := record.absorb maps.byUnitPtr unitPtr
  let record := record.absorb maps.bySpritePtr spritePtr
  record.absorb maps.byHandle jHandle

/-- `IsObviouslyInvalidRuntimeModelForInstance`. -/
def isObviouslyInvalidRuntimeModelForInstance
    (runtimeModelPtr worldObjectEntry sceneNode spritePtr : Ptr) : Bool :=
  runtimeModelPtr = 0 || runtimeModelPtr = worldObjectEntry || runtimeModelPtr = sceneNode ||
    runtimeModelPtr = spritePtr

def readRuntimeModel (o : InstanceOutside) (record : ModelInstanceRecord) : Ptr :=
  let runtimeModelPtr := o.memory.tryReadRuntimeModelFromSprite record.spritePtr
  if isObviouslyInvalidRuntimeModelForInstance runtimeModelPtr record.worldObjectEntry
      record.sceneNode record.spritePtr then 0
  else runtimeModelPtr

/-- `findBySprite(...) || findByRuntimeModel(...)`. -/
def findModel (o : InstanceOutside) (record : ModelInstanceRecord) : Option ModelResourceRecord :=
  (o.findBySprite record.spritePtr).or (o.findByRuntimeModel record.runtimeModelPtr)

def withModel (o : InstanceOutside) (record : ModelInstanceRecord) : ModelInstanceRecord :=
  match findModel o record with
  | none => record
  | some model =>
    { record with
      modelKey := model.modelKey
      runtimeModelPtr := carry 0 record.runtimeModelPtr model.runtimeModelPtr
      modelResourcePtr := model.modelResourcePtr }

/-- `lastSeenFrame` of now, and `firstSeenFrame` if there is none. -/
def seen (frame : UInt64) (record : ModelInstanceRecord) : ModelInstanceRecord :=
  { record with
    firstSeenFrame := if record.firstSeenFrame = 0 then frame else record.firstSeenFrame
    lastSeenFrame := frame }

def named (worldObjectEntry sceneNode unitPtr spritePtr : Ptr) (record : ModelInstanceRecord) :
    ModelInstanceRecord :=
  { record with
    worldObjectEntry := worldObjectEntry
    sceneNode := sceneNode
    unitPtr := unitPtr
    spritePtr := carry 0 record.spritePtr spritePtr }

def withUnitSprite (o : InstanceOutside) (record : ModelInstanceRecord) : ModelInstanceRecord :=
  if record.unitPtr ≠ 0 ∧ record.spritePtr = 0 ∧ o.memory.unitIsValid record.unitPtr then
    { record with spritePtr := o.memory.unitGetSprite record.unitPtr }
  else record

def coded (jHandle rawcode : UInt32) (record : ModelInstanceRecord) : ModelInstanceRecord :=
  { record with
    jHandle := carry 0 record.jHandle jHandle
    rawcode := carry 0 record.rawcode rawcode }

def withRuntimeModel (o : InstanceOutside) (record : ModelInstanceRecord) : ModelInstanceRecord :=
  if record.spritePtr ≠ 0 ∧ record.runtimeModelPtr = 0 then
    { record with runtimeModelPtr := readRuntimeModel o record }
  else record

def withMissingModel (o : InstanceOutside) (record : ModelInstanceRecord) : ModelInstanceRecord :=
  if record.spritePtr ≠ 0 ∧
      (record.modelKey = 0 ∨ record.modelResourcePtr = 0 ∨ record.runtimeModelPtr = 0) then
    withModel o record
  else record

/-- The record of `noteInstanceIdentityLocked` before the collector marks it. -/
def identityRecord (o : InstanceOutside) (maps : InstanceMaps) (currentFrame : UInt64)
    (worldObjectEntry sceneNode unitPtr spritePtr : Ptr) (jHandle rawcode : UInt32) :
    ModelInstanceRecord :=
  let record := knownIdentity maps sceneNode unitPtr spritePtr jHandle
  let record := named worldObjectEntry sceneNode unitPtr spritePtr record
  let record := coded jHandle rawcode (withUnitSprite o record)
  let record := withMissingModel o (withRuntimeModel o record)
  seen currentFrame record

def markBatch (currentFrame : UInt64) (s : InstanceRegistry) : InstanceRegistry :=
  { s with
    lastSceneCollectorBatchFrame := currentFrame
    sameFrameIdentityDedupStats :=
      { s.sameFrameIdentityDedupStats with
        batchMarked := s.sameFrameIdentityDedupStats.batchMarked + 1 } }

def marked (sceneCollectorBatch : Bool) (currentFrame : UInt64) (record : ModelInstanceRecord) :
    ModelInstanceRecord :=
  if sceneCollectorBatch then { record with lastSceneCollectorBatchFrame := currentFrame } else record

/-- A record is stored, and the owner noted for the tree of its runtime model. -/
def storeWithOwner (o : InstanceOutside) (record : ModelInstanceRecord)
    (w : Writing InstanceRegistry) : Writing InstanceRegistry :=
  if record.runtimeModelPtr ≠ 0 ∧ record.hasRuntimeOwnerIdentity then
    propagateRuntimeOwnerIdentityLocked o record.runtimeModelPtr record (storeRecord record w)
  else storeRecord record w

/-- `noteInstanceIdentityLocked`. -/
def noteInstanceIdentityLocked (o : InstanceOutside)
    (worldObjectEntry sceneNode unitPtr spritePtr : Ptr) (jHandle rawcode : UInt32)
    (sceneCollectorBatch : Bool) (w : Writing InstanceRegistry) : Writing InstanceRegistry :=
  if worldObjectEntry = 0 ∧ sceneNode = 0 ∧ unitPtr = 0 ∧ spritePtr = 0 ∧ jHandle = 0 ∧
      rawcode = 0 then w
  else
    let currentFrame := w.now.frameNumber
    let record := marked sceneCollectorBatch currentFrame <|
      identityRecord o w.now.maps currentFrame worldObjectEntry sceneNode unitPtr spritePtr jHandle
        rawcode
    storeWithOwner o record (w.editIf (sceneCollectorBatch = true) (markBatch currentFrame))

/-! ## The skip -/

/-- The outcomes of `trySkipExactSameFrameRenderObjectLocked`, one for each of its counters. -/
inductive SkipOutcome where
  /-- `hits`. -/
  | hit
  /-- `missMissingAlias`. -/
  | missingAlias
  /-- `missCrossFrame`. -/
  | crossFrame
  /-- `missNoBatchProof`. -/
  | noBatchProof
  /-- `missIncomplete`. -/
  | incomplete
  /-- `missInputMismatch`. -/
  | inputMismatch
  /-- `missAliasConflict`. -/
  | aliasConflict
  /-- `missRuntimeOwner`. -/
  | runtimeOwner
  deriving DecidableEq, Repr

/-- `validateAlias`, with `failAlias`. -/
def validateAlias {κ : Type} (canonical : ModelInstanceRecord) (currentFrame : UInt64)
    (table : Table κ ModelInstanceRecord) (key : κ) : SkipOutcome :=
  match table key with
  | none => .missingAlias
  | some aliasRecord =>
    if aliasRecord.lastSeenFrame ≠ currentFrame then .crossFrame
    else if aliasRecord.lastSceneCollectorBatchFrame ≠ currentFrame then .noBatchProof
    else if !canonical.hasSamePayloadExact aliasRecord then .aliasConflict
    else .hit

/-- The record that a skip would leave as it is, or why there is none. -/
def skipCanonical (maps : InstanceMaps) (info : RenderObjectInfo) (currentFrame : UInt64) :
    Except SkipOutcome ModelInstanceRecord :=
  if info.worldObjectEntry = 0 ∨ info.sceneNode = 0 then .error .incomplete
  else
    match maps.bySceneNode info.sceneNode with
    | none => .error .missingAlias
    | some canonical =>
      if canonical.lastSeenFrame ≠ currentFrame then .error .crossFrame
      else if canonical.lastSceneCollectorBatchFrame ≠ currentFrame then .error .noBatchProof
      else if canonical.worldObjectEntry ≠ info.worldObjectEntry ∨
          canonical.sceneNode ≠ info.sceneNode ∨ canonical.unitPtr ≠ info.unitPtr ∨
          (info.jHandle ≠ 0 ∧ canonical.jHandle ≠ info.jHandle) ∨
          (info.rawcode ≠ 0 ∧ canonical.rawcode ≠ info.rawcode) then .error .inputMismatch
      else if canonical.firstSeenFrame = 0 ∨ canonical.worldObjectEntry = 0 ∨
          canonical.sceneNode = 0 ∨ canonical.unitPtr = 0 ∨ canonical.spritePtr = 0 ∨
          canonical.runtimeModelPtr = 0 ∨ canonical.modelKey = 0 ∨
          canonical.modelResourcePtr = 0 then .error .incomplete
      else .ok canonical

def skipOutcome (maps : InstanceMaps) (info : RenderObjectInfo) (currentFrame : UInt64) :
    SkipOutcome :=
  match skipCanonical maps info currentFrame with
  | .error outcome => outcome
  | .ok c =>
    firstMiss .hit [
      validateAlias c currentFrame maps.byWorldObjectEntry c.worldObjectEntry,
      validateAlias c currentFrame maps.byUnitPtr c.unitPtr,
      validateAlias c currentFrame maps.bySpritePtr c.spritePtr,
      validateAlias c currentFrame maps.byRuntimeModel c.runtimeModelPtr,
      if c.sourceObjectPtr ≠ 0 then
        validateAlias c currentFrame maps.bySourceObject c.sourceObjectPtr else .hit,
      if c.sourceSpriteObjectPtr ≠ 0 then
        validateAlias c currentFrame maps.bySourceSpriteObject c.sourceSpriteObjectPtr else .hit,
      if c.jHandle ≠ 0 then validateAlias c currentFrame maps.byHandle c.jHandle else .hit,
      match maps.runtimeOwnerByRuntimeModel c.runtimeModelPtr with
      | none => .runtimeOwner
      | some owner =>
        if owner.lastSeenFrame ≠ currentFrame ∨ owner.lastSceneCollectorBatchFrame ≠ currentFrame ∨
            !owner.hasExactRuntimeOwnerProof c then .runtimeOwner
        else .hit]

def InstanceDedupStats.note (stats : InstanceDedupStats) : SkipOutcome → InstanceDedupStats
  | .hit => { stats with hits := stats.hits + 1 }
  | .missingAlias => { stats with missMissingAlias := stats.missMissingAlias + 1 }
  | .crossFrame => { stats with missCrossFrame := stats.missCrossFrame + 1 }
  | .noBatchProof => { stats with missNoBatchProof := stats.missNoBatchProof + 1 }
  | .incomplete => { stats with missIncomplete := stats.missIncomplete + 1 }
  | .inputMismatch => { stats with missInputMismatch := stats.missInputMismatch + 1 }
  | .aliasConflict => { stats with missAliasConflict := stats.missAliasConflict + 1 }
  | .runtimeOwner => { stats with missRuntimeOwner := stats.missRuntimeOwner + 1 }

def countAttempt (outcome : SkipOutcome) (s : InstanceRegistry) : InstanceRegistry :=
  { s with
    sameFrameIdentityDedupStats := InstanceDedupStats.note
      { s.sameFrameIdentityDedupStats with attempts := s.sameFrameIdentityDedupStats.attempts + 1 }
      outcome }

/-- `trySkipExactSameFrameRenderObjectLocked`. -/
def trySkipExactSameFrameRenderObjectLocked (info : RenderObjectInfo) (currentFrame : UInt64)
    (w : Writing InstanceRegistry) : Bool × Writing InstanceRegistry :=
  let outcome := skipOutcome w.now.maps info currentFrame
  (outcome = .hit, w.edit (countAttempt outcome))

/-- `noteRenderObject`. -/
def noteRenderObject (o : InstanceOutside) (info : RenderObjectInfo)
    (w : Writing InstanceRegistry) : Writing InstanceRegistry :=
  let note := noteInstanceIdentityLocked o info.worldObjectEntry info.sceneNode info.unitPtr 0
    info.jHandle info.rawcode false
  if info.anonymous then w
  else
    let currentFrame := w.now.frameNumber
    if currentFrame ≠ 0 ∧ w.now.lastSceneCollectorBatchFrame = currentFrame then
      let (skip, w) := trySkipExactSameFrameRenderObjectLocked info currentFrame w
      if skip then w else note w
    else note w

/-- One object of `noteRenderObjectsBatch`. -/
def noteBatched (o : InstanceOutside) (w : Writing InstanceRegistry)
    (info : Option RenderObjectInfo) : Writing InstanceRegistry :=
  match info with
  | none => w
  | some info =>
    if info.anonymous then w
    else
      noteInstanceIdentityLocked o info.worldObjectEntry info.sceneNode info.unitPtr 0 info.jHandle
        info.rawcode true w

/-! ## Bindings and provenance -/

/-- `bindSpriteToInstance`. -/
def bindSpriteToInstance (o : InstanceOutside) (unitPtr spritePtr : Ptr)
    (w : Writing InstanceRegistry) : Writing InstanceRegistry :=
  if unitPtr = 0 ∨ spritePtr = 0 then w
  else
    let record := (w.now.maps.byUnitPtr unitPtr).getD {}
    let record := { record with unitPtr := unitPtr, spritePtr := spritePtr }
    let record := { record with runtimeModelPtr := readRuntimeModel o record }
    let record := seen w.now.frameNumber (withModel o record)
    let w := storeRecord record w
    if record.runtimeModelPtr ≠ 0 then
      propagateRuntimeOwnerIdentityLocked o record.runtimeModelPtr record w
    else w

/-- `bindRuntimeModelToSprite`. -/
def bindRuntimeModelToSprite (o : InstanceOutside) (spritePtr runtimeModelPtr : Ptr)
    (modelKey : UInt64) (modelResourcePtr : Ptr) (propagateOwnerIdentity : Bool)
    (w : Writing InstanceRegistry) : Writing InstanceRegistry :=
  if spritePtr = 0 ∨ runtimeModelPtr = 0 then w
  else
    let record := (w.now.maps.bySpritePtr spritePtr).getD {}
    let record := record.absorb w.now.maps.byRuntimeModel runtimeModelPtr
    let record := seen w.now.frameNumber { record with
      spritePtr := spritePtr
      runtimeModelPtr := runtimeModelPtr
      modelKey := carry 0 record.modelKey modelKey
      modelResourcePtr := carry 0 record.modelResourcePtr modelResourcePtr }
    let w := storeRecord record w
    if propagateOwnerIdentity then
      propagateRuntimeOwnerIdentityLocked o runtimeModelPtr record w
    else w

def knownRuntime (maps : InstanceMaps) (runtimeModelPtr : Ptr) : ModelInstanceRecord :=
  ModelInstanceRecord.absorb maps.byRuntimeModel runtimeModelPtr {}

/-- `noteRuntimeCreationProvenance`. -/
def noteRuntimeCreationProvenance (runtimeModelPtr modelDataPtr : Ptr) (callerRva : UInt32)
    (w : Writing InstanceRegistry) : Writing InstanceRegistry :=
  if runtimeModelPtr = 0 ∨ (modelDataPtr = 0 ∧ callerRva = 0) then w
  else
    let record := knownRuntime w.now.maps runtimeModelPtr
    storeRecord (seen w.now.frameNumber { record with
      runtimeModelPtr := runtimeModelPtr
      runtimeCreatorModelDataPtr := carry 0 record.runtimeCreatorModelDataPtr modelDataPtr
      runtimeCreatorCallerRva := carry 0 record.runtimeCreatorCallerRva callerRva }) w

/-- `noteRuntimeResolveProvenance`. -/
def noteRuntimeResolveProvenance (runtimeModelPtr creatorHandlePtr : Ptr) (callerRva : UInt32)
    (w : Writing InstanceRegistry) : Writing InstanceRegistry :=
  if runtimeModelPtr = 0 ∨ (creatorHandlePtr = 0 ∧ callerRva = 0) then w
  else
    let record := knownRuntime w.now.maps runtimeModelPtr
    storeRecord (seen w.now.frameNumber { record with
      runtimeModelPtr := runtimeModelPtr
      runtimeCreatorHandlePtr := carry 0 record.runtimeCreatorHandlePtr creatorHandlePtr
      runtimeResolveCallerRva := carry 0 record.runtimeResolveCallerRva callerRva }) w

/-- `noteRuntimeSourceObject`. -/
def noteRuntimeSourceObject (o : InstanceOutside)
    (runtimeModelPtr sourceObjectPtr sourceSpriteObjectPtr spritePtr : Ptr)
    (w : Writing InstanceRegistry) : Writing InstanceRegistry :=
  if runtimeModelPtr = 0 ∨ (sourceObjectPtr = 0 ∧ sourceSpriteObjectPtr = 0) then w
  else
    let record := knownRuntime w.now.maps runtimeModelPtr
    let record := record.absorb w.now.maps.bySpritePtr spritePtr
    let record := seen w.now.frameNumber { record with
      runtimeModelPtr := runtimeModelPtr
      spritePtr := carry 0 record.spritePtr spritePtr
      sourceObjectPtr := carry 0 record.sourceObjectPtr sourceObjectPtr
      sourceSpriteObjectPtr := carry 0 record.sourceSpriteObjectPtr sourceSpriteObjectPtr }
    let w := storeRecord record w
    let w := propagateRuntimeSourceObjectLocked o runtimeModelPtr record w
    if record.hasRuntimeOwnerIdentity then
      propagateRuntimeOwnerIdentityLocked o runtimeModelPtr record w
    else w

/-- `noteRuntimeOwnerIdentity`. -/
def noteRuntimeOwnerIdentity (o : InstanceOutside)
    (runtimeModelPtr worldObjectEntry sceneNode unitPtr spritePtr : Ptr) (jHandle rawcode : UInt32)
    (w : Writing InstanceRegistry) : Writing InstanceRegistry :=
  if runtimeModelPtr = 0 ∨ (worldObjectEntry = 0 ∧ sceneNode = 0 ∧ unitPtr = 0 ∧ spritePtr = 0 ∧
      jHandle = 0 ∧ rawcode = 0) then w
  else
    let maps := w.now.maps
    let record : ModelInstanceRecord := {}
    let record := record.absorb maps.runtimeOwnerByRuntimeModel runtimeModelPtr
    let record := record.absorb maps.byRuntimeModel runtimeModelPtr
    let record := record.absorb maps.byWorldObjectEntry worldObjectEntry
    let record := record.absorb maps.bySceneNode sceneNode
    let record := record.absorb maps.byUnitPtr unitPtr
    let record := record.absorb maps.bySpritePtr spritePtr
    let record := record.absorb maps.byHandle jHandle
    let record := seen w.now.frameNumber { record with
      runtimeModelPtr := runtimeModelPtr
      worldObjectEntry := carry 0 record.worldObjectEntry worldObjectEntry
      sceneNode := carry 0 record.sceneNode sceneNode
      unitPtr := carry 0 record.unitPtr unitPtr
      spritePtr := carry 0 record.spritePtr spritePtr
      jHandle := carry 0 record.jHandle jHandle
      rawcode := carry 0 record.rawcode rawcode }
    propagateRuntimeOwnerIdentityLocked o runtimeModelPtr record (storeRecord record w)

def editSceneNode (sceneNode : Ptr) (change : ModelInstanceRecord → ModelInstanceRecord) :
    InstanceRegistry → InstanceRegistry :=
  editMaps fun m =>
    let record := (m.bySceneNode sceneNode).getD {}
    { m with bySceneNode := m.bySceneNode.put sceneNode (change record) }

/-- `bindModelToInstance`, which changes the record in its table and then copies it. -/
def bindModelToInstance (sceneNode : Ptr) (modelKey : UInt64) (w : Writing InstanceRegistry) :
    Writing InstanceRegistry :=
  if sceneNode = 0 ∨ modelKey = 0 then w
  else
    let frame := w.now.frameNumber
    guarded (fun w =>
      let w := w.edit (editSceneNode sceneNode id)
      let w := w.edit (editSceneNode sceneNode fun r => { r with sceneNode := sceneNode })
      let w := w.edit (editSceneNode sceneNode fun r => { r with modelKey := modelKey })
      let w := w.edit (editSceneNode sceneNode (seen frame))
      let record := (w.now.maps.bySceneNode sceneNode).getD {}
      let w := w.editIf (record.spritePtr ≠ 0) <| editMaps fun m =>
        { m with bySpritePtr := m.bySpritePtr.put record.spritePtr record }
      if record.runtimeModelPtr ≠ 0 then storeRuntimeModelRecordLocked record w else w) w

/-! ## Writers -/

inductive Writer where
  | beginFrame
  | endFrame
  | resetMapSession
  | noteRenderObject (info : RenderObjectInfo)
  | noteRenderObjectsBatch (infos : List (Option RenderObjectInfo))
  | noteInstanceIdentity (worldObjectEntry sceneNode unitPtr spritePtr : Ptr)
      (jHandle rawcode : UInt32)
  | bindSpriteToInstance (unitPtr spritePtr : Ptr)
  | bindRuntimeModelToSprite (spritePtr runtimeModelPtr : Ptr) (modelKey : UInt64)
      (modelResourcePtr : Ptr) (propagateOwnerIdentity : Bool)
  | noteRuntimeCreationProvenance (runtimeModelPtr modelDataPtr : Ptr) (callerRva : UInt32)
  | noteRuntimeResolveProvenance (runtimeModelPtr creatorHandlePtr : Ptr) (callerRva : UInt32)
  | noteRuntimeSourceObject (runtimeModelPtr sourceObjectPtr sourceSpriteObjectPtr spritePtr : Ptr)
  | noteRuntimeOwnerIdentity (runtimeModelPtr worldObjectEntry sceneNode unitPtr spritePtr : Ptr)
      (jHandle rawcode : UInt32)
  | bindModelToInstance (sceneNode : Ptr) (modelKey : UInt64)

def write (o : InstanceOutside) : Writer → Writing InstanceRegistry → Writing InstanceRegistry
  | .beginFrame => beginFrame
  | .endFrame => endFrame
  | .resetMapSession => resetMapSession
  | .noteRenderObject info => noteRenderObject o info
  | .noteRenderObjectsBatch infos => fun w => infos.foldl (noteBatched o) w
  | .noteInstanceIdentity worldObjectEntry sceneNode unitPtr spritePtr jHandle rawcode =>
    noteInstanceIdentityLocked o worldObjectEntry sceneNode unitPtr spritePtr jHandle rawcode false
  | .bindSpriteToInstance unitPtr spritePtr => bindSpriteToInstance o unitPtr spritePtr
  | .bindRuntimeModelToSprite spritePtr runtimeModelPtr modelKey modelResourcePtr propagate =>
    bindRuntimeModelToSprite o spritePtr runtimeModelPtr modelKey modelResourcePtr propagate
  | .noteRuntimeCreationProvenance runtimeModelPtr modelDataPtr callerRva =>
    noteRuntimeCreationProvenance runtimeModelPtr modelDataPtr callerRva
  | .noteRuntimeResolveProvenance runtimeModelPtr creatorHandlePtr callerRva =>
    noteRuntimeResolveProvenance runtimeModelPtr creatorHandlePtr callerRva
  | .noteRuntimeSourceObject runtimeModelPtr sourceObjectPtr sourceSpriteObjectPtr spritePtr =>
    noteRuntimeSourceObject o runtimeModelPtr sourceObjectPtr sourceSpriteObjectPtr spritePtr
  | .noteRuntimeOwnerIdentity runtimeModelPtr worldObjectEntry sceneNode unitPtr spritePtr jHandle
      rawcode =>
    noteRuntimeOwnerIdentity o runtimeModelPtr worldObjectEntry sceneNode unitPtr spritePtr jHandle
      rawcode
  | .bindModelToInstance sceneNode modelKey => bindModelToInstance sceneNode modelKey

/-- The registry after a list of calls, each with what it reads outside. -/
def run (calls : List (InstanceOutside × Writer)) : InstanceRegistry :=
  calls.foldl (fun s call => (write call.1 call.2 (.start s)).now) {}

/-! ## Lookups -/

/-- `ModelInstanceDirectPacketView`. -/
structure DirectPacketView where
  worldObjectEntry : Ptr
  sceneNode : Ptr
  unitPtr : Ptr
  runtimeModelPtr : Ptr
  modelResourcePtr : Ptr
  jHandle : UInt32
  rawcode : UInt32
  modelKey : UInt64
  deriving DecidableEq, Repr

/-- `ModelInstanceAugmentView`. -/
structure AugmentView where
  worldObjectEntry : Ptr
  sceneNode : Ptr
  runtimeModelPtr : Ptr
  modelResourcePtr : Ptr
  jHandle : UInt32
  rawcode : UInt32
  modelKey : UInt64
  deriving DecidableEq, Repr

/-- `ProjectModelInstanceDirectPacketView`. -/
def projectDirectPacketView (src : ModelInstanceRecord) : DirectPacketView where
  worldObjectEntry := src.worldObjectEntry
  sceneNode := src.sceneNode
  unitPtr := src.unitPtr
  runtimeModelPtr := src.runtimeModelPtr
  modelResourcePtr := src.modelResourcePtr
  jHandle := src.jHandle
  rawcode := src.rawcode
  modelKey := src.modelKey

/-- `findFirstForDirectPacketView`. -/
def findFirstForDirectPacketView (maps : InstanceMaps)
    (sceneNode unitPtr worldObjectEntry runtimeModelPtr : Ptr) : Option DirectPacketView :=
  let found := (maps.bySceneNode.find sceneNode).or <| (maps.byUnitPtr.find unitPtr).or <|
    (maps.byWorldObjectEntry.find worldObjectEntry).or (maps.byRuntimeModel.find runtimeModelPtr)
  found.map projectDirectPacketView

/-- `findFirstForAugmentView`. -/
def findFirstForAugmentView (maps : InstanceMaps)
    (worldObjectEntry sceneNode primaryUnitPtr secondaryUnitPtr : Ptr) (jHandle : UInt32) :
    Option AugmentView :=
  let secondary := if secondaryUnitPtr ≠ primaryUnitPtr then maps.byUnitPtr.find secondaryUnitPtr
    else none
  let found := (maps.byWorldObjectEntry.find worldObjectEntry).or <|
    (maps.bySceneNode.find sceneNode).or <| (maps.byUnitPtr.find primaryUnitPtr).or <|
      secondary.or (maps.byHandle.find jHandle)
  found.map fun record =>
    { worldObjectEntry := record.worldObjectEntry
      sceneNode := record.sceneNode
      runtimeModelPtr := record.runtimeModelPtr
      modelResourcePtr := record.modelResourcePtr
      jHandle := record.jHandle
      rawcode := record.rawcode
      modelKey := record.modelKey }

inductive Query where
  /-- `findFirstForDirectPacketView`. -/
  | directPacket (sceneNode unitPtr worldObjectEntry runtimeModelPtr : Ptr)
  /-- `findFirstForAugmentView`. -/
  | augment (worldObjectEntry sceneNode primaryUnitPtr secondaryUnitPtr : Ptr) (jHandle : UInt32)

inductive Answer where
  /-- Of `findFirstForDirectPacketView`. -/
  | directPacket (view : Option DirectPacketView)
  /-- Of `findFirstForAugmentView`. -/
  | augment (view : Option AugmentView)
  deriving DecidableEq, Repr

def look (s : InstanceRegistry) : Query → Answer
  | .directPacket sceneNode unitPtr worldObjectEntry runtimeModelPtr => .directPacket
    (findFirstForDirectPacketView s.maps sceneNode unitPtr worldObjectEntry runtimeModelPtr)
  | .augment worldObjectEntry sceneNode primaryUnitPtr secondaryUnitPtr jHandle => .augment
    (findFirstForAugmentView s.maps worldObjectEntry sceneNode primaryUnitPtr secondaryUnitPtr
      jHandle)

end InstanceRegistry

end War3VK.Model
