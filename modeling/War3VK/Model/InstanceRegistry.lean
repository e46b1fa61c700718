import War3VK.Lib.Seqlock
import War3VK.Model.RegistryRecords

/-!
# The registry of model instances

`ModelInstanceRegistry` (`src/d3d9/war3/model/war3_model_registry.cpp` and `.h`) keeps a record of each
model instance under every pointer and handle it is known by. A call that writes is a function of a
`Writing`, so that each memory that others could meet while it holds the lock is one of its memories.
What it binds in the registry of models is left out, and what that registry answers is `Outside`.
-/

namespace War3VK.Model

open Lib

structure InstanceOutside where
  memory : GameMemory
  findBySprite : Ptr → Option ModelResourceRecord
  findByRuntimeModel : Ptr → Option ModelResourceRecord

/-- `ModelInstanceRecord`. -/
structure ModelInstanceRecord where
  worldObjectEntry : Ptr := 0
  sceneNode : Ptr := 0
  unitPtr : Ptr := 0
  spritePtr : Ptr := 0
  runtimeModelPtr : Ptr := 0
  sourceObjectPtr : Ptr := 0
  sourceSpriteObjectPtr : Ptr := 0
  runtimeCreatorModelDataPtr : Ptr := 0
  runtimeCreatorHandlePtr : Ptr := 0
  modelResourcePtr : Ptr := 0
  jHandle : UInt32 := 0
  rawcode : UInt32 := 0
  runtimeCreatorCallerRva : UInt32 := 0
  runtimeResolveCallerRva : UInt32 := 0
  modelKey : UInt64 := 0
  firstSeenFrame : UInt64 := 0
  lastSeenFrame : UInt64 := 0
  lastSceneCollectorBatchFrame : UInt64 := 0
  deriving DecidableEq

namespace ModelInstanceRecord

/-- `MergeModelInstanceRecord`. -/
def merge (dst src : ModelInstanceRecord) : ModelInstanceRecord where
  worldObjectEntry := carry 0 dst.worldObjectEntry src.worldObjectEntry
  sceneNode := carry 0 dst.sceneNode src.sceneNode
  unitPtr := carry 0 dst.unitPtr src.unitPtr
  spritePtr := carry 0 dst.spritePtr src.spritePtr
  runtimeModelPtr := carry 0 dst.runtimeModelPtr src.runtimeModelPtr
  sourceObjectPtr := carry 0 dst.sourceObjectPtr src.sourceObjectPtr
  sourceSpriteObjectPtr := carry 0 dst.sourceSpriteObjectPtr src.sourceSpriteObjectPtr
  runtimeCreatorModelDataPtr :=
    carry 0 dst.runtimeCreatorModelDataPtr src.runtimeCreatorModelDataPtr
  runtimeCreatorHandlePtr := carry 0 dst.runtimeCreatorHandlePtr src.runtimeCreatorHandlePtr
  modelResourcePtr := carry 0 dst.modelResourcePtr src.modelResourcePtr
  jHandle := carry 0 dst.jHandle src.jHandle
  rawcode := carry 0 dst.rawcode src.rawcode
  runtimeCreatorCallerRva := carry 0 dst.runtimeCreatorCallerRva src.runtimeCreatorCallerRva
  runtimeResolveCallerRva := carry 0 dst.runtimeResolveCallerRva src.runtimeResolveCallerRva
  modelKey := carry 0 dst.modelKey src.modelKey
  firstSeenFrame := earliest dst.firstSeenFrame src.firstSeenFrame
  lastSeenFrame := latest dst.lastSeenFrame src.lastSeenFrame
  lastSceneCollectorBatchFrame :=
    latest dst.lastSceneCollectorBatchFrame src.lastSceneCollectorBatchFrame

/-- `HasRuntimeOwnerIdentity`. -/
def hasRuntimeOwnerIdentity (record : ModelInstanceRecord) : Bool :=
  record.worldObjectEntry ≠ 0 || record.sceneNode ≠ 0 || record.unitPtr ≠ 0 ||
    record.jHandle ≠ 0 || record.rawcode ≠ 0

/-- `HasRuntimeSourceObject`. -/
def hasRuntimeSourceObject (record : ModelInstanceRecord) : Bool :=
  record.sourceObjectPtr ≠ 0 || record.sourceSpriteObjectPtr ≠ 0

/-- `HasSameRuntimeOwnerIdentity`. -/
def hasSameRuntimeOwnerIdentity (a b : ModelInstanceRecord) : Bool :=
  a.worldObjectEntry == b.worldObjectEntry && a.sceneNode == b.sceneNode &&
    a.unitPtr == b.unitPtr && a.spritePtr == b.spritePtr && a.jHandle == b.jHandle &&
    a.rawcode == b.rawcode

/-- `HasSameModelInstancePayloadExact`. -/
def hasSamePayloadExact (a b : ModelInstanceRecord) : Bool :=
  a.worldObjectEntry == b.worldObjectEntry && a.sceneNode == b.sceneNode &&
    a.unitPtr == b.unitPtr && a.spritePtr == b.spritePtr &&
    a.runtimeModelPtr == b.runtimeModelPtr && a.sourceObjectPtr == b.sourceObjectPtr &&
    a.sourceSpriteObjectPtr == b.sourceSpriteObjectPtr &&
    a.runtimeCreatorModelDataPtr == b.runtimeCreatorModelDataPtr &&
    a.runtimeCreatorHandlePtr == b.runtimeCreatorHandlePtr &&
    a.modelResourcePtr == b.modelResourcePtr && a.jHandle == b.jHandle &&
    a.rawcode == b.rawcode && a.runtimeCreatorCallerRva == b.runtimeCreatorCallerRva &&
    a.runtimeResolveCallerRva == b.runtimeResolveCallerRva && a.modelKey == b.modelKey &&
    a.firstSeenFrame == b.firstSeenFrame

/-- `HasExactRuntimeOwnerProof`. -/
def hasExactRuntimeOwnerProof (owner source : ModelInstanceRecord) : Bool :=
  owner.runtimeModelPtr == source.runtimeModelPtr && hasSameRuntimeOwnerIdentity owner source &&
    owner.modelKey == source.modelKey && owner.modelResourcePtr == source.modelResourcePtr &&
    owner.lastSceneCollectorBatchFrame == source.lastSceneCollectorBatchFrame

/-- `ClassifyModelInstanceTracking(record).runtimeBound`. -/
def runtimeBound (record : ModelInstanceRecord) : Bool :=
  record.runtimeModelPtr ≠ 0 && record.spritePtr ≠ 0

/-- `ClassifyModelInstanceTracking(record).completeIdentity`. -/
def completeIdentity (record : ModelInstanceRecord) : Bool :=
  record.runtimeBound &&
    (record.sceneNode ≠ 0 || record.unitPtr ≠ 0 || record.jHandle ≠ 0 || record.rawcode ≠ 0)

/-- `if (it != map.end()) Merge(dst, it->second)`, with a key that may be null. -/
def absorb {κ : Type} [DecidableEq κ] [OfNat κ 0] (table : Table κ ModelInstanceRecord) (key : κ)
    (dst : ModelInstanceRecord) : ModelInstanceRecord :=
  match table.find key with
  | some src => dst.merge src
  | none => dst

end ModelInstanceRecord

structure InstanceMaps where
  byWorldObjectEntry : Table Ptr ModelInstanceRecord := fun _ => none
  bySceneNode : Table Ptr ModelInstanceRecord := fun _ => none
  byUnitPtr : Table Ptr ModelInstanceRecord := fun _ => none
  bySpritePtr : Table Ptr ModelInstanceRecord := fun _ => none
  byRuntimeModel : Table Ptr ModelInstanceRecord := fun _ => none
  runtimeOwnerByRuntimeModel : Table Ptr ModelInstanceRecord := fun _ => none
  bySourceObject : Table Ptr ModelInstanceRecord := fun _ => none
  bySourceSpriteObject : Table Ptr ModelInstanceRecord := fun _ => none
  byHandle : Table UInt32 ModelInstanceRecord := fun _ => none

/-- `ModelIdentitySameFrameDedupStats`. -/
structure InstanceDedupStats where
  attempts : UInt64 := 0
  hits : UInt64 := 0
  missMissingAlias : UInt64 := 0
  missCrossFrame : UInt64 := 0
  missNoBatchProof : UInt64 := 0
  missIncomplete : UInt64 := 0
  missInputMismatch : UInt64 := 0
  missAliasConflict : UInt64 := 0
  missRuntimeOwner : UInt64 := 0
  batchMarked : UInt64 := 0

/-- `ModelInstanceRegistry`. -/
structure InstanceRegistry where
  maps : InstanceMaps := {}
  trackingRuntimeBoundCount : UInt64 := 0
  trackingCompleteIdentityCount : UInt64 := 0
  sameFrameIdentityDedupStats : InstanceDedupStats := {}
  lastSceneCollectorBatchFrame : UInt64 := 0
  frameNumber : UInt64 := 0
  /-- `m_mutationGeneration`, as long as it has not wrapped. -/
  mutationGeneration : ℕ := 0
  /-- Every `assert` of the registry has held. -/
  assertsHold : Bool := true

namespace InstanceRegistry

def editMaps (change : InstanceMaps → InstanceMaps) (s : InstanceRegistry) : InstanceRegistry :=
  { s with maps := change s.maps }

/-- One count of `RegistryMutationGenerationGuard`. -/
def bump (s : InstanceRegistry) : InstanceRegistry :=
  { s with mutationGeneration := s.mutationGeneration + 1 }

def nextFrame (s : InstanceRegistry) : InstanceRegistry :=
  { s with frameNumber := s.frameNumber + 1 }

/-- `RegistryMutationGenerationGuard` around a body. -/
def guarded (body : Writing InstanceRegistry → Writing InstanceRegistry) :
    Writing InstanceRegistry → Writing InstanceRegistry := Writing.guarded bump body

/-! ## Stores -/

/-- An `assert`. -/
def assertThat (condition : Bool) (s : InstanceRegistry) : InstanceRegistry :=
  { s with assertsHold := s.assertsHold && condition }

/-- The count of records that are bound to a runtime model, after one was replaced. -/
def recountBound (previous : Option ModelInstanceRecord) (current : ModelInstanceRecord)
    (s : InstanceRegistry) : InstanceRegistry :=
  let oldValue := previous.any ModelInstanceRecord.runtimeBound
  let count := replaceTrackingClassificationCount s.trackingRuntimeBoundCount oldValue
    current.runtimeBound
  assertThat (trackingAssert s.trackingRuntimeBoundCount oldValue current.runtimeBound)
    { s with trackingRuntimeBoundCount := count }

/-- The count of records with a complete identity, after one was replaced. -/
def recountComplete (previous : Option ModelInstanceRecord) (current : ModelInstanceRecord)
    (s : InstanceRegistry) : InstanceRegistry :=
  let oldValue := previous.any ModelInstanceRecord.completeIdentity
  let count := replaceTrackingClassificationCount s.trackingCompleteIdentityCount oldValue
    current.completeIdentity
  assertThat (trackingAssert s.trackingCompleteIdentityCount oldValue current.completeIdentity)
    { s with trackingCompleteIdentityCount := count }

/-- `storeRuntimeModelRecordLocked`. -/
def storeRuntimeModelRecordLocked (record : ModelInstanceRecord) (w : Writing InstanceRegistry) :
    Writing InstanceRegistry :=
  if record.runtimeModelPtr = 0 then w.edit (assertThat false)
  else
    let previous := w.now.maps.byRuntimeModel record.runtimeModelPtr
    w.edit (editMaps fun m =>
        { m with byRuntimeModel := m.byRuntimeModel.put record.runtimeModelPtr record })
      |>.edit (recountBound previous record)
      |>.edit (recountComplete previous record)

/-- What `storeRecord` stores. -/
def merged (maps : InstanceMaps) (record : ModelInstanceRecord) : ModelInstanceRecord :=
  let acc : ModelInstanceRecord := {}
  let acc := acc.absorb maps.byWorldObjectEntry record.worldObjectEntry
  let acc := acc.absorb maps.bySceneNode record.sceneNode
  let acc := acc.absorb maps.byUnitPtr record.unitPtr
  let acc := acc.absorb maps.bySpritePtr record.spritePtr
  let acc := acc.absorb maps.byRuntimeModel record.runtimeModelPtr
  let acc := acc.absorb maps.bySourceObject record.sourceObjectPtr
  let acc := acc.absorb maps.bySourceSpriteObject record.sourceSpriteObjectPtr
  let acc := acc.absorb maps.byHandle record.jHandle
  acc.merge record

/-- A record that `storeRecord` cannot file. -/
def keyless (record : ModelInstanceRecord) : Bool :=
  record.worldObjectEntry = 0 && record.sceneNode = 0 && record.unitPtr = 0 &&
    record.spritePtr = 0 && record.runtimeModelPtr = 0 && record.sourceObjectPtr = 0 &&
    record.sourceSpriteObjectPtr = 0 && record.jHandle = 0

/-- The tables that `storeRecord` writes under the guard. -/
def file (merged : ModelInstanceRecord) (w : Writing InstanceRegistry) : Writing InstanceRegistry :=
  let w := w.editIf (merged.worldObjectEntry ≠ 0) <| editMaps fun m =>
    { m with byWorldObjectEntry := m.byWorldObjectEntry.put merged.worldObjectEntry merged }
  let w := w.editIf (merged.sceneNode ≠ 0) <| editMaps fun m =>
    { m with bySceneNode := m.bySceneNode.put merged.sceneNode merged }
  let w := w.editIf (merged.unitPtr ≠ 0) <| editMaps fun m =>
    { m with byUnitPtr := m.byUnitPtr.put merged.unitPtr merged }
  let w := w.editIf (merged.spritePtr ≠ 0) <| editMaps fun m =>
    { m with bySpritePtr := m.bySpritePtr.put merged.spritePtr merged }
  let w := if merged.runtimeModelPtr ≠ 0 then storeRuntimeModelRecordLocked merged w else w
  let w := w.editIf (merged.sourceObjectPtr ≠ 0) <| editMaps fun m =>
    { m with bySourceObject := m.bySourceObject.put merged.sourceObjectPtr merged }
  let w := w.editIf (merged.sourceSpriteObjectPtr ≠ 0) <| editMaps fun m =>
    { m with bySourceSpriteObject := m.bySourceSpriteObject.put merged.sourceSpriteObjectPtr merged }
  w.editIf (merged.jHandle ≠ 0) <| editMaps fun m =>
    { m with byHandle := m.byHandle.put merged.jHandle merged }

/-- `storeRecord`. -/
def storeRecord (record : ModelInstanceRecord) (w : Writing InstanceRegistry) :
    Writing InstanceRegistry :=
  let merged := merged w.now.maps record
  if keyless merged then w else guarded (file merged) w

def ownerRecord (maps : InstanceMaps) (frame : UInt64) (owner : ModelInstanceRecord)
    (runtimeModelPtr : Ptr) : ModelInstanceRecord :=
  let acc : ModelInstanceRecord := {}
  let acc := acc.absorb maps.runtimeOwnerByRuntimeModel runtimeModelPtr
  let acc := acc.absorb maps.byRuntimeModel runtimeModelPtr
  let acc := { acc.merge owner with runtimeModelPtr := runtimeModelPtr }
  { acc with
    firstSeenFrame := if acc.firstSeenFrame = 0 then frame else acc.firstSeenFrame
    lastSeenFrame := frame }

def runtimeModels (o : InstanceOutside) (rootRuntimeModelPtr : Ptr) : List Ptr :=
  match o.memory.collectRuntimeModelTreeForOwner rootRuntimeModelPtr with
  | [] => [rootRuntimeModelPtr]
  | models => models

/-- `propagateRuntimeOwnerIdentityLocked`. -/
def propagateRuntimeOwnerIdentityLocked (o : InstanceOutside) (rootRuntimeModelPtr : Ptr)
    (owner : ModelInstanceRecord) (w : Writing InstanceRegistry) : Writing InstanceRegistry :=
  if !o.memory.looksLikeRuntimeModelPtr rootRuntimeModelPtr || !owner.hasRuntimeOwnerIdentity then w
  else
    let currentFrame := w.now.frameNumber
    if (w.now.maps.runtimeOwnerByRuntimeModel rootRuntimeModelPtr).any fun existing =>
        existing.lastSeenFrame = currentFrame && existing.hasExactRuntimeOwnerProof owner then w
    else
      guarded (fun w => (runtimeModels o rootRuntimeModelPtr).foldl (fun w runtimeModelPtr =>
        w.editIf (o.memory.looksLikeRuntimeModelPtr runtimeModelPtr = true) <| editMaps fun m =>
          { m with
            runtimeOwnerByRuntimeModel := m.runtimeOwnerByRuntimeModel.put runtimeModelPtr
              (ownerRecord m currentFrame owner runtimeModelPtr) }) w) w

def sourceRecord (maps : InstanceMaps) (frame : UInt64) (source : ModelInstanceRecord)
    (runtimeModelPtr : Ptr) : ModelInstanceRecord :=
  let acc := (maps.byRuntimeModel runtimeModelPtr).getD {}
  { acc with
    runtimeModelPtr := runtimeModelPtr
    sourceObjectPtr := carry 0 acc.sourceObjectPtr source.sourceObjectPtr
    sourceSpriteObjectPtr := carry 0 acc.sourceSpriteObjectPtr source.sourceSpriteObjectPtr
    firstSeenFrame := if acc.firstSeenFrame = 0 then frame else acc.firstSeenFrame
    lastSeenFrame := frame }

/-- `propagateRuntimeSourceObjectLocked`. -/
def propagateRuntimeSourceObjectLocked (o : InstanceOutside) (rootRuntimeModelPtr : Ptr)
    (source : ModelInstanceRecord) (w : Writing InstanceRegistry) : Writing InstanceRegistry :=
  if !o.memory.looksLikeRuntimeModelPtr rootRuntimeModelPtr || !source.hasRuntimeSourceObject then w
  else
    guarded (fun w => (runtimeModels o rootRuntimeModelPtr).foldl (fun w runtimeModelPtr =>
      if o.memory.looksLikeRuntimeModelPtr runtimeModelPtr then
        storeRuntimeModelRecordLocked
          (sourceRecord w.now.maps w.now.frameNumber source runtimeModelPtr) w
      else w) w) w

end InstanceRegistry

end War3VK.Model
