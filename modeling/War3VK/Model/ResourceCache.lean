import Mathlib.Logic.Function.Basic
import War3VK.Model.GeosetRecord
import War3VK.Lib.Machine

/-!
# The cache of model resources

`ShadowModelResourceCache` (`src/d3d9/war3/model/war3_model_resource_cache.cpp`): what is known of a geoset
by its pointer, an alias, and by its data pointer, the canonical snapshot. Each function of the cache is cut
into the regions that it runs under the mutex and the reads of the game's memory between them. The cache
keeps a trace of what was captured, stored and reset, which no function reads. The revision counter and the
index of owners are left out.
-/

namespace War3VK.Model

/-- `ImmutableModelGenerationIssuer`. -/
structure GenerationIssuer where
  next : UInt64 := 1
  exhausted : Bool := false
  deriving DecidableEq, Repr

/-- `std::numeric_limits<uint64_t>::max()`. -/
def kTerminalGeneration : UInt64 := 18446744073709551615

/-- `issue`. -/
def GenerationIssuer.issue (g : GenerationIssuer) : UInt64 × GenerationIssuer :=
  if g.next = 0 || g.next = kTerminalGeneration then (0, { g with exhausted := true })
  else (g.next, { g with next := g.next + 1 })

/-- `GeosetObservationMetadata`. -/
structure Observation where
  firstSeenFrame : UInt64 := 0
  lastSeenFrame : UInt64 := 0
  lastRuntimeRefreshFrame : UInt64 := 0
  deriving DecidableEq, Repr

/-- Where a record comes from that is stored: its streams were captured in this call, or they were not. -/
inductive Source
  | captured
  | cached
  deriving DecidableEq, Repr

inductive Event
  /-- The streams were read through a data pointer, all of them if `complete`. -/
  | captured (geosetDataPtr : Ptr) (payload : Payload) (complete : Bool)
  /-- A record was stored. Its geoset had another data pointer before if `moved`. -/
  | stored (source : Source) (moved : Bool) (record published : GeosetRecord)
  | reset (mapEpoch : UInt64)
  deriving DecidableEq, Repr

/-- `ShadowModelResourceCache`. -/
structure Cache where
  byGeoset : Ptr → Option GeosetRecord := fun _ => none
  byGeosetData : Ptr → Option GeosetRecord := fun _ => none
  /-- `m_geosetDataObservation`. -/
  observation : Ptr → Option Observation := fun _ => none
  byModelResource : Ptr → Option ModelRecord := fun _ => none
  byRuntimeModel : Ptr → Option ModelRecord := fun _ => none
  frameNumber : UInt64 := 0
  mapEpoch : UInt64 := 1
  /-- `m_immutableModelGenerations`. -/
  issuer : GenerationIssuer := {}
  trace : List Event := []

namespace Cache

def note (event : Event) (s : Cache) : Cache := { s with trace := s.trace ++ [event] }

/-- `resetMapEpoch`. -/
def resetMapEpoch (nextMapEpoch : UInt64) (s : Cache) : Bool × Cache :=
  if nextMapEpoch = 0 then (false, s)
  else
    (true, { s with
      byGeoset := fun _ => none
      byGeosetData := fun _ => none
      observation := fun _ => none
      byModelResource := fun _ => none
      byRuntimeModel := fun _ => none
      mapEpoch := nextMapEpoch
      trace := s.trace ++ [.reset nextMapEpoch] })

/-- `beginFrame`. -/
def beginFrame (s : Cache) : Cache := { s with frameNumber := s.frameNumber + 1 }

/-! ## Reading -/

/-- `noteGeosetDataMetadataLocked`. -/
def noteGeosetDataMetadata (geosetDataPtr : Ptr) (record : GeosetRecord) (s : Cache) : Cache :=
  if geosetDataPtr = 0 then s
  else
    let metadata := (s.observation geosetDataPtr).getD {}
    { s with
      observation := Function.update s.observation geosetDataPtr (some {
        firstSeenFrame := mergeFirstSeen metadata.firstSeenFrame record.firstSeenFrame
        lastSeenFrame := max metadata.lastSeenFrame record.lastSeenFrame
        lastRuntimeRefreshFrame :=
          max metadata.lastRuntimeRefreshFrame record.lastRuntimeRefreshFrame }) }

/-- `materializeGeosetDataRecordLocked`. -/
def materializeGeosetDataRecord (geosetDataPtr : Ptr) (snapshot : GeosetRecord) (s : Cache) :
    GeosetRecord :=
  match s.observation geosetDataPtr with
  | none => snapshot
  | some observed =>
    { snapshot with
      firstSeenFrame := mergeFirstSeen snapshot.firstSeenFrame observed.firstSeenFrame
      lastSeenFrame := max snapshot.lastSeenFrame observed.lastSeenFrame
      lastRuntimeRefreshFrame :=
        max snapshot.lastRuntimeRefreshFrame observed.lastRuntimeRefreshFrame }

/-- `materializeGeosetAliasRecordLocked`. -/
def materializeGeosetAliasRecord (alias_ : GeosetRecord) (s : Cache) : GeosetRecord :=
  if !alias_.readyForShadowConsumer || alias_.geosetDataPtr = 0 then alias_
  else
    match s.byGeosetData alias_.geosetDataPtr with
    | some canonical =>
      mergeGeosetMetadata (s.materializeGeosetDataRecord alias_.geosetDataPtr canonical) alias_
    | none =>
      let unresolved := mergeGeosetMetadata {} alias_
      { unresolved with
        immutableCaptureStatus := .notAttempted
        immutableModelGeneration := 0
        contentHash := computeGeosetContentHash unresolved.payload }

/-- `findGeosetByPtr`. -/
def findGeosetByPtr (geosetPtr : Ptr) (s : Cache) : Option GeosetRecord :=
  if geosetPtr = 0 then none
  else (s.byGeoset geosetPtr).map fun alias_ => s.materializeGeosetAliasRecord alias_

/-- `findGeosetSnapshotByData`. -/
def findGeosetSnapshotByData (geosetDataPtr : Ptr) (s : Cache) : Option GeosetRecord :=
  if geosetDataPtr = 0 then none
  else (s.byGeosetData geosetDataPtr).filter fun record => record.mapEpoch = s.mapEpoch

/-- `findGeosetStampByDataForEpoch`: the record of which the stamp is taken. -/
def findGeosetStampByDataForEpoch (geosetDataPtr : Ptr) (expectedMapEpoch : UInt64) (s : Cache) :
    Option GeosetRecord :=
  if geosetDataPtr = 0 || expectedMapEpoch = 0 then none
  else if s.mapEpoch ≠ expectedMapEpoch then none
  else
    (s.byGeosetData geosetDataPtr).filter fun record =>
      record.mapEpoch = expectedMapEpoch && record.contentHash ≠ 0 &&
        record.immutableModelGeneration ≠ 0 && record.payload.vertexCount ≠ 0 &&
          record.immutableCaptureStatus = .complete

/-- `CountReadyGeosets`, for one geoset. -/
def geosetReady (geosetPtr geosetDataPtr : Ptr) (s : Cache) : Bool :=
  let byData := geosetDataPtr ≠ 0 &&
    (s.byGeosetData geosetDataPtr).any GeosetRecord.readyForShadowConsumer
  match (if geosetPtr = 0 then none else s.byGeoset geosetPtr) with
  | none => byData
  | some alias_ =>
    if !alias_.readyForShadowConsumer then false
    else if alias_.geosetDataPtr = 0 then true
    else
      match s.byGeosetData alias_.geosetDataPtr with
      | some canonical => canonical.readyForShadowConsumer
      | none => byData

/-- `CountReadyGeosets`. -/
def countReadyGeosets (record : ModelRecord) (s : Cache) : UInt32 :=
  UInt32.ofNat ((record.geosetPtrs.zipIdx.filter fun entry =>
    s.geosetReady entry.1 (record.geosetDataPtrs.getD entry.2 0)).length)

/-! ## `storeGeosetRecord` -/

/-- `sourceIdentityTransition`. -/
def sourceIdentityTransition (existing : Option GeosetRecord) (record : GeosetRecord) : Bool :=
  existing.any fun e => e.geosetDataPtr ≠ 0 && record.geosetDataPtr ≠ 0 &&
    e.geosetDataPtr ≠ record.geosetDataPtr

def unresolvedAt (geosetDataPtr : Ptr) (e : GeosetRecord) : Bool :=
  e.geosetDataPtr = geosetDataPtr && e.immutableModelGeneration = 0 &&
    e.immutableCaptureStatus ≠ .complete

/-- `pendingAliasResolution`. -/
def pendingAliasResolution (byGeoset byData : Option GeosetRecord) (record : GeosetRecord) : Bool :=
  !sourceIdentityTransition byGeoset record &&
    byGeoset.any (unresolvedAt record.geosetDataPtr) &&
      byData.any fun d => d.immutableModelGeneration ≠ 0 && d.readyForShadowConsumer

/-- `forceFreshGeneration`. -/
def forceFreshGeneration (byGeoset byData : Option GeosetRecord) (record : GeosetRecord) : Bool :=
  sourceIdentityTransition byGeoset record || pendingAliasResolution byGeoset byData record ||
    byGeoset.any (unresolvedAt record.geosetDataPtr)

/-- The record of an alias that moved and was not captured completely. -/
def unresolvedRecord (existing record : GeosetRecord) : GeosetRecord :=
  let unresolved := mergeGeosetMetadata (mergeGeosetMetadata {} existing) record
  { unresolved with
    immutableCaptureStatus := record.immutableCaptureStatus
    immutableModelGeneration := 0
    contentHash := computeGeosetContentHash unresolved.payload }

def mergedMetadata (byGeoset byData : Option GeosetRecord) (record : GeosetRecord) : GeosetRecord :=
  let merged : GeosetRecord := {}
  let merged := byGeoset.elim merged (mergeGeosetMetadata merged)
  let merged := byData.elim merged (mergeGeosetMetadata merged)
  mergeGeosetMetadata merged record

def mergedContent (byGeoset byData : Option GeosetRecord) (record merged : GeosetRecord) :
    GeosetRecord :=
  match record.immutableCaptureStatus with
  | .complete => replaceGeosetImmutablePayload merged record
  | .attemptedFailed =>
    -- The failure is a tombstone, no older payload fills it in.
    { merged with
      immutableCaptureStatus := .attemptedFailed
      immutableModelGeneration := 0
      contentHash := computeGeosetContentHash merged.payload }
  | .notAttempted =>
    match byData, byGeoset with
    | some d, _ => replaceGeosetImmutablePayload merged d
    | none, some g =>
      if sourceIdentityTransition byGeoset record then merged
      else replaceGeosetImmutablePayload merged g
    | none, none => merged

def mergedRecord (byGeoset byData : Option GeosetRecord) (record : GeosetRecord) : GeosetRecord :=
  let merged := mergedContent byGeoset byData record (mergedMetadata byGeoset byData record)
  if merged.contentHash = 0 then
    { merged with contentHash := computeGeosetContentHash merged.payload }
  else merged

/-- The generation of an existing record, if its payload is that of the merged one. -/
def reusableGeneration (e merged : GeosetRecord) : Option UInt64 :=
  if e.immutableModelGeneration ≠ 0 && e.immutableCaptureStatus = .complete &&
    e.payload = merged.payload then some e.immutableModelGeneration else none

def reusedGeneration (byGeoset byData : Option GeosetRecord) (record merged : GeosetRecord) :
    Option UInt64 :=
  if forceFreshGeneration byGeoset byData record then none
  else
    match byData, byGeoset with
    | some d, _ => reusableGeneration d merged
    | none, some g =>
      if g.geosetDataPtr = merged.geosetDataPtr then reusableGeneration g merged else none
    | none, none => none

def generationOf (byGeoset byData : Option GeosetRecord) (record merged : GeosetRecord)
    (issuer : GenerationIssuer) : UInt64 × GenerationIssuer :=
  if !merged.hasCompleteImmutableConsumerPayload then (0, issuer)
  else
    match reusedGeneration byGeoset byData record merged with
    | some generation => (generation, issuer)
    | none => issuer.issue

def setAlias (record : GeosetRecord) (s : Cache) : Cache :=
  if record.geosetPtr = 0 then s
  else { s with byGeoset := Function.update s.byGeoset record.geosetPtr (some record) }

def sameSnapshot (current merged : GeosetRecord) : Bool :=
  current.immutableModelGeneration = merged.immutableModelGeneration &&
    current.immutableCaptureStatus = merged.immutableCaptureStatus &&
      hasSameGeosetConsumerContent current merged

/-- A record becomes the canonical snapshot of its data, unless that one is current. -/
def setCanonical (record : GeosetRecord) (s : Cache) : Cache :=
  if record.geosetDataPtr = 0 then s
  else if (s.byGeosetData record.geosetDataPtr).any (sameSnapshot · record) then
    s.noteGeosetDataMetadata record.geosetDataPtr record
  else
    { s with
      byGeosetData := Function.update s.byGeosetData record.geosetDataPtr (some record)
      }.noteGeosetDataMetadata record.geosetDataPtr record

def aliasOf (record : GeosetRecord) (s : Cache) : Option GeosetRecord :=
  if record.geosetPtr = 0 then none else s.byGeoset record.geosetPtr

def canonicalOf (record : GeosetRecord) (s : Cache) : Option GeosetRecord :=
  if record.geosetDataPtr = 0 then none else s.byGeosetData record.geosetDataPtr

/-- The record that `storeGeosetRecord` publishes with its generation, and the issuer. -/
def publishedRecord (record : GeosetRecord) (s : Cache) : GeosetRecord × GenerationIssuer :=
  let merged := mergedRecord (s.aliasOf record) (s.canonicalOf record) record
  let generation :=
    generationOf (s.aliasOf record) (s.canonicalOf record) record merged s.issuer
  ({ merged with immutableModelGeneration := generation.1 }, generation.2)

/-- `storeGeosetRecord`, with what it returns. -/
def storeGeosetRecord (source : Source) (incoming : GeosetRecord) (s : Cache) :
    GeosetRecord × Cache :=
  let record := { incoming with mapEpoch := s.mapEpoch }
  let byGeoset := s.aliasOf record
  let moved := sourceIdentityTransition byGeoset record
  if (moved || pendingAliasResolution byGeoset (s.canonicalOf record) record) &&
      record.immutableCaptureStatus ≠ .complete then
    let unresolved := unresolvedRecord (byGeoset.getD {}) record
    (unresolved, (s.setAlias unresolved).note (.stored source moved incoming unresolved))
  else
    let merged := s.publishedRecord record
    let s := ({ s with issuer := merged.2 }.setAlias merged.1).setCanonical merged.1
    let published := (s.canonicalOf merged.1).getD merged.1
    (published, s.note (.stored source moved incoming published))

/-! ## Model records -/

/-- `storeModelRecord`. -/
def storeModelRecord (record : ModelRecord) (s : Cache) : Cache :=
  if record.modelResourcePtr = 0 then s
  else
    let existing := s.byModelResource record.modelResourcePtr
    let merged := mergeModelRecord (existing.elim {} (mergeModelRecord {})) record
    { s with byModelResource := Function.update s.byModelResource record.modelResourcePtr (some merged) }

/-- `storeRuntimeModelRecord`. -/
def storeRuntimeModelRecord (record : ModelRecord) (s : Cache) : Cache :=
  if record.runtimeModelPtr = 0 then s
  else
    let existing := s.byRuntimeModel record.runtimeModelPtr
    let merged := mergeModelRecord (existing.elim {} (mergeModelRecord {})) record
    { s with byRuntimeModel := Function.update s.byRuntimeModel record.runtimeModelPtr (some merged) }

end Cache

end War3VK.Model

/-!
## The calls of the cache of model resources

The functions that put geosets into the cache. What is done under the mutex is one definition, and so is
what is read of the game's memory without it. `perform` makes a call as a whole, with one memory.
-/

namespace War3VK.Model

open Lib

namespace Cache

def noteCapture (record : GeosetRecord) (s : Cache) : Cache :=
  s.note (.captured record.geosetDataPtr record.payload (record.immutableCaptureStatus = .complete))

/-! ### `recordGeosetCreate` -/

/-- The header that `recordGeosetCreate` stores. -/
def headerRecord (record : GeosetRecord) (s : Cache) : GeosetRecord :=
  { record with
    firstSeenFrame := if record.firstSeenFrame = 0 then s.frameNumber else record.firstSeenFrame
    lastSeenFrame := s.frameNumber }

/-- `recordGeosetCreate`, where neither the alias nor the snapshot is ready, or the alias moved. -/
def storeHeader (record : GeosetRecord) (s : Cache) : Cache :=
  (s.storeGeosetRecord .cached (s.headerRecord record)).2

/-- `recordGeosetCreate`, after the alias. -/
def createSnapshot (aliasIdentityTransition : Bool) (record : GeosetRecord) (s : Cache) : Cache :=
  if !aliasIdentityTransition && record.geosetDataPtr ≠ 0 &&
      (s.byGeosetData record.geosetDataPtr).any GeosetRecord.readyForShadowConsumer then
    s.noteGeosetDataMetadata record.geosetDataPtr { record with lastSeenFrame := s.frameNumber }
  else s.storeHeader record

/-- `recordGeosetCreate` under the mutex, with the header that was read. -/
def recordGeosetCreate (record : GeosetRecord) (s : Cache) : Cache :=
  match s.byGeoset record.geosetPtr with
  | none => s.createSnapshot false record
  | some alias_ =>
    let current := s.materializeGeosetAliasRecord alias_
    let aliasIdentityTransition := current.geosetDataPtr ≠ 0 && record.geosetDataPtr ≠ 0 &&
      current.geosetDataPtr ≠ record.geosetDataPtr
    if !aliasIdentityTransition && current.readyForShadowConsumer then
      { s with
        byGeoset := Function.update s.byGeoset record.geosetPtr
          (some { alias_ with lastSeenFrame := s.frameNumber })
        }.noteGeosetDataMetadata current.geosetDataPtr current
    else s.createSnapshot aliasIdentityTransition record

/-! ### `noteModelResourceBinding` -/

def keysAgree (a b : UInt64) : Bool := a = 0 || b = 0 || b = a

/-- The first region of `noteModelResourceBinding`, and whether it is all. -/
def modelResourceReady (modelResourcePtr : Ptr) (modelKey : UInt64) (s : Cache) : Bool × Cache :=
  match s.byModelResource modelResourcePtr with
  | none => (false, s)
  | some known =>
    let model := { known with readyGeosetCount := s.countReadyGeosets known }
    if model.readyForShadowConsumer && keysAgree modelKey model.modelKey then
      (true, { s with
        byModelResource := Function.update s.byModelResource modelResourcePtr (some { model with
          lastSeenFrame := s.frameNumber
          modelKey := if model.modelKey = 0 then modelKey else model.modelKey }) })
    else
      (false, { s with byModelResource := Function.update s.byModelResource modelResourcePtr (some model) })

/-- The alias of a geoset as `findGeosetByPtr` returns it, and an empty record if there is none. -/
def cachedGeoset (geosetPtr : Ptr) (s : Cache) : GeosetRecord :=
  (s.byGeoset geosetPtr).elim {} fun alias_ => s.materializeGeosetAliasRecord alias_

def addGeoset (published : GeosetRecord) (model : ModelRecord) : ModelRecord :=
  { model with
    geosetDataPtrs := model.geosetDataPtrs ++ [published.geosetDataPtr]
    readyGeosetCount :=
      if published.readyForShadowConsumer then model.readyGeosetCount + 1 else model.readyGeosetCount }

def storeModelGeoset (source : Source) (record : GeosetRecord) (model : ModelRecord) (s : Cache) :
    ModelRecord × Cache :=
  let stored := s.storeGeosetRecord source record
  (addGeoset stored.1 model, stored.2)

/-- The record that `noteModelResourceBinding` stores. -/
def modelGeoset (index : ℕ) (model : ModelRecord) (frameNumber : UInt64) (record : GeosetRecord) :
    GeosetRecord :=
  { record with
    modelResourcePtr := model.modelResourcePtr
    modelKey := if model.modelKey ≠ 0 then model.modelKey else record.modelKey
    geosetIndex := UInt32.ofNat index
    lastSeenFrame := frameNumber }

/-- The record of a geoset that was captured although something is cached of its alias. The cached
metadata overrides what was captured, the data pointer too. -/
def mergeCaptured (captured cached : GeosetRecord) : GeosetRecord := mergeGeosetMetadata captured cached

/-- One geoset in the loop of `noteModelResourceBinding`. -/
def bindModelGeoset (memory : Memory) (geosetPtr : Ptr) (index : ℕ) (model : ModelRecord) (s : Cache) :
    ModelRecord × Cache :=
  let cached := s.cachedGeoset geosetPtr
  if cached.readyForShadowConsumer then
    s.storeModelGeoset .cached (modelGeoset index model s.frameNumber cached) model
  else
    match memory.captureGeosetRecord geosetPtr with
    | some captured =>
      let record := mergeCaptured captured cached
      (s.noteCapture captured).storeModelGeoset .captured
        (modelGeoset index model s.frameNumber { record with
          firstSeenFrame := if record.firstSeenFrame = 0 then s.frameNumber else record.firstSeenFrame })
        model
    | none =>
      if (s.byGeoset geosetPtr).isNone then
        ({ model with geosetDataPtrs := model.geosetDataPtrs ++ [0] }, s)
      else s.storeModelGeoset .cached (modelGeoset index model s.frameNumber cached) model

/-- The loop of a binding over the geosets of a model, with what is done to bind one. -/
def bindGeosets (bind : Ptr → ℕ → ModelRecord → Cache → ModelRecord × Cache) :
    List (Ptr × ℕ) → ModelRecord → Cache → ModelRecord × Cache
  | [], model, s => (model, s)
  | (geosetPtr, index) :: rest, model, s =>
    let bound := bind geosetPtr index model s
    bindGeosets bind rest bound.1 bound.2

/-- The loop of `noteModelResourceBinding`. -/
def bindModelGeosets (memory : Memory) : List (Ptr × ℕ) → ModelRecord → Cache → ModelRecord × Cache :=
  bindGeosets fun geosetPtr index model s => s.bindModelGeoset memory geosetPtr index model

/-- The model that `noteModelResourceBinding` starts with. -/
def newModel (modelResourcePtr : Ptr) (modelKey : UInt64) (geosetPtrs : List Ptr) (s : Cache) :
    ModelRecord where
  modelResourcePtr
  modelKey
  geosetCount := UInt32.ofNat geosetPtrs.length
  geosetPtrs
  firstSeenFrame := s.frameNumber
  lastSeenFrame := s.frameNumber

/-- The second region of `noteModelResourceBinding`, with the handles that were read. -/
def bindModelResource (memory : Memory) (modelResourcePtr : Ptr) (modelKey : UInt64)
    (geosetPtrs : List Ptr) (s : Cache) : Cache :=
  let bound := bindModelGeosets memory geosetPtrs.zipIdx
    (s.newModel modelResourcePtr modelKey geosetPtrs) s
  bound.2.storeModelRecord bound.1

/-! ### `noteRuntimeModelBinding` -/

def refreshRuntimeModel (runtimeModelPtr : Ptr) (s : Cache) : Cache :=
  match s.byRuntimeModel runtimeModelPtr with
  | none => s
  | some known =>
    { s with
      byRuntimeModel := Function.update s.byRuntimeModel runtimeModelPtr
        (some { known with readyGeosetCount := s.countReadyGeosets known }) }

/-- A runtime model takes the geosets of its resource, if they are ready. -/
def runtimeFromResource (runtimeModelPtr modelResourcePtr : Ptr) (modelKey : UInt64) (s : Cache) :
    Bool × Cache :=
  match (if modelResourcePtr = 0 then none else s.byModelResource modelResourcePtr) with
  | none => (false, s)
  | some known =>
    let model := { known with readyGeosetCount := s.countReadyGeosets known }
    let s := { s with
      byModelResource := Function.update s.byModelResource modelResourcePtr (some model) }
    if !model.readyForShadowConsumer then (false, s)
    else
      (true, s.storeRuntimeModelRecord { model with
        runtimeModelPtr
        modelResourcePtr
        modelKey := if modelKey ≠ 0 then modelKey else model.modelKey
        firstSeenFrame := if model.firstSeenFrame = 0 then s.frameNumber else model.firstSeenFrame
        lastSeenFrame := s.frameNumber })

/-- The first region of `noteRuntimeModelBinding`, and whether it is all. -/
def runtimeModelReady (runtimeModelPtr modelResourcePtr : Ptr) (modelKey : UInt64) (s : Cache) :
    Bool × Cache :=
  let s := s.refreshRuntimeModel runtimeModelPtr
  match (s.byRuntimeModel runtimeModelPtr).filter fun runtime =>
      runtime.readyForShadowConsumer &&
        (modelResourcePtr = 0 || runtime.modelResourcePtr = 0 ||
          runtime.modelResourcePtr = modelResourcePtr) && keysAgree modelKey runtime.modelKey with
  | some runtime =>
    (true, { s with
      byRuntimeModel := Function.update s.byRuntimeModel runtimeModelPtr (some { runtime with
        lastSeenFrame := s.frameNumber
        modelResourcePtr :=
          if runtime.modelResourcePtr = 0 then modelResourcePtr else runtime.modelResourcePtr
        modelKey := if runtime.modelKey = 0 then modelKey else runtime.modelKey }) })
  | none => s.runtimeFromResource runtimeModelPtr modelResourcePtr modelKey

/-- The record that `noteRuntimeModelBinding` stores. -/
def runtimeGeoset (geosetPtr : Ptr) (index : ℕ) (model : ModelRecord) (frameNumber : UInt64)
    (record : GeosetRecord) : GeosetRecord :=
  { record with
    geosetPtr
    geosetIndex := UInt32.ofNat index
    firstSeenFrame := if record.firstSeenFrame = 0 then frameNumber else record.firstSeenFrame
    modelResourcePtr :=
      if model.modelResourcePtr ≠ 0 then model.modelResourcePtr else record.modelResourcePtr
    modelKey := if model.modelKey ≠ 0 then model.modelKey else record.modelKey
    lastSeenFrame := frameNumber }

/-- One geoset in the loop of `noteRuntimeModelBinding`. -/
def bindRuntimeGeoset (memory : Memory) (geosetPtr : Ptr) (index : ℕ) (model : ModelRecord)
    (s : Cache) : ModelRecord × Cache :=
  let cached := s.cachedGeoset geosetPtr
  if cached.readyForShadowConsumer then
    s.storeModelGeoset .cached (runtimeGeoset geosetPtr index model s.frameNumber cached) model
  else
    match memory.captureGeosetRecord geosetPtr with
    | some captured =>
      (s.noteCapture captured).storeModelGeoset .captured
        (runtimeGeoset geosetPtr index model s.frameNumber (mergeCaptured captured cached)) model
    | none =>
      let record := if (s.byGeoset geosetPtr).isNone then
        { cached with
          geosetPtr
          geosetDataPtr := if geosetPtr = 0 then 0 else memory.geosetData geosetPtr
          firstSeenFrame := s.frameNumber }
        else cached
      s.storeModelGeoset .cached (runtimeGeoset geosetPtr index model s.frameNumber record) model

/-- The loop of `noteRuntimeModelBinding`. -/
def bindRuntimeGeosets (memory : Memory) : List (Ptr × ℕ) → ModelRecord → Cache → ModelRecord × Cache :=
  bindGeosets fun geosetPtr index model s => s.bindRuntimeGeoset memory geosetPtr index model

/-- The model that `noteRuntimeModelBinding` starts with. -/
def newRuntimeModel (runtimeModelPtr modelResourcePtr : Ptr) (modelKey : UInt64)
    (geosetPtrs : List Ptr) (s : Cache) : ModelRecord where
  runtimeModelPtr
  modelResourcePtr
  modelKey
  geosetCount := UInt32.ofNat geosetPtrs.length
  geosetPtrs
  firstSeenFrame := s.frameNumber
  lastSeenFrame := s.frameNumber

def storeRuntimeAndModel (model : ModelRecord) (s : Cache) : Cache :=
  let s := s.storeRuntimeModelRecord model
  if model.modelResourcePtr = 0 then s else s.storeModelRecord model

/-- The second region of `noteRuntimeModelBinding`, with the handles if they could be read. -/
def bindRuntimeModel (memory : Memory) (runtimeModelPtr modelResourcePtr : Ptr) (modelKey : UInt64)
    (geosetPtrs : Option (List Ptr)) (s : Cache) : Cache :=
  match geosetPtrs with
  | none => s.storeRuntimeAndModel (s.newRuntimeModel runtimeModelPtr modelResourcePtr modelKey [])
  | some geosetPtrs =>
    let bound := bindRuntimeGeosets memory geosetPtrs.zipIdx
      (s.newRuntimeModel runtimeModelPtr modelResourcePtr modelKey geosetPtrs) s
    bound.2.storeRuntimeAndModel bound.1

end Cache

/-! ### `noteRuntimeGeosetBinding` -/

/-- What `noteRuntimeGeosetBinding` is called with, as it is after the pointers are resolved. -/
structure GeosetBinding where
  runtimeModelPtr : Ptr := 0
  geosetIndex : UInt32 := kInvalidShadowGeosetIndex
  runtimeGeosetPtr : Ptr := 0
  runtimeGeosetDataPtr : Ptr := 0
  modelResourcePtr : Ptr := 0
  modelKey : UInt64 := 0
  deriving DecidableEq, Repr

/-- What `noteRuntimeGeosetBinding` reads first. -/
def GeosetBinding.resolve (b : GeosetBinding) (memory : Memory) : GeosetBinding :=
  let runtimeModelPtr := if memory.looksLikeRuntimeModel b.runtimeModelPtr then b.runtimeModelPtr else 0
  let modelResourcePtr := memory.directModelResource b.modelResourcePtr
  let owned := memory.ownedModelDataHandle runtimeModelPtr
  { b with
    runtimeModelPtr
    modelResourcePtr :=
      if modelResourcePtr = 0 && runtimeModelPtr ≠ 0 && owned ≠ 0 then
        memory.directModelResource owned
      else modelResourcePtr }

namespace Cache

/-- The first region of `noteRuntimeGeosetBinding`: the cached record, and
`alreadyRefreshedThisFrame`. -/
def lookRuntimeGeoset (b : GeosetBinding) (s : Cache) : GeosetRecord × Bool :=
  let byPtr := if b.runtimeGeosetPtr = 0 then none else s.byGeoset b.runtimeGeosetPtr
  let record := byPtr.elim {} fun alias_ => s.materializeGeosetAliasRecord alias_
  let refreshed (r : GeosetRecord) : Bool :=
    r.prefersRuntimeContract && r.lastRuntimeRefreshFrame = s.frameNumber
  let byData := if record.geosetPtr = 0 && b.runtimeGeosetDataPtr ≠ 0 then
    s.byGeosetData b.runtimeGeosetDataPtr else none
  match byData with
  | some snapshot =>
    let record := s.materializeGeosetDataRecord b.runtimeGeosetDataPtr snapshot
    (record, refreshed record)
  | none =>
    (record, byPtr.isSome && refreshed record &&
      (b.runtimeGeosetDataPtr = 0 || record.geosetDataPtr = b.runtimeGeosetDataPtr))

end Cache

/-- The record of `noteRuntimeGeosetBinding` after its capture. -/
def mergeLiveRecord (record live : GeosetRecord) : GeosetRecord :=
  if record.geosetPtr ≠ 0 || record.geosetDataPtr ≠ 0 then
    replaceGeosetImmutablePayload (mergeGeosetMetadata (mergeGeosetMetadata {} record) live) live
  else live

/-- The record that `noteRuntimeGeosetBinding` stores. -/
def boundRecord (b : GeosetBinding) (frameNumber : UInt64) (record : GeosetRecord) : GeosetRecord :=
  { record with
    firstSeenFrame := if record.firstSeenFrame = 0 then frameNumber else record.firstSeenFrame
    lastSeenFrame := frameNumber
    prefersRuntimeContract := true
    lastRuntimeRefreshFrame := frameNumber
    geosetPtr := if b.runtimeGeosetPtr ≠ 0 then b.runtimeGeosetPtr else record.geosetPtr
    geosetDataPtr :=
      if b.runtimeGeosetDataPtr ≠ 0 then b.runtimeGeosetDataPtr else record.geosetDataPtr
    geosetIndex := if b.geosetIndex ≠ kInvalidShadowGeosetIndex then b.geosetIndex else record.geosetIndex
    modelResourcePtr := if b.modelResourcePtr ≠ 0 then b.modelResourcePtr else record.modelResourcePtr
    modelKey := if b.modelKey ≠ 0 then b.modelKey else record.modelKey }

namespace Cache

/-- The pointers that `noteRuntimeGeosetBinding` takes from the runtime model that is known. -/
def completeBinding (b : GeosetBinding) (s : Cache) : GeosetBinding :=
  match (if b.runtimeModelPtr = 0 then none else s.byRuntimeModel b.runtimeModelPtr) with
  | none => b
  | some known =>
    { b with
      modelResourcePtr := if b.modelResourcePtr = 0 then known.modelResourcePtr else b.modelResourcePtr
      modelKey := if b.modelKey = 0 then known.modelKey else b.modelKey }

def placeGeoset (b : GeosetBinding) (geoset : GeosetRecord) (model : ModelRecord) (s : Cache) :
    ModelRecord :=
  let model := ensureModelRecordCapacity
    { model with
      firstSeenFrame := if model.firstSeenFrame = 0 then s.frameNumber else model.firstSeenFrame
      lastSeenFrame := s.frameNumber }
    b.geosetIndex
  let model := { model with
    geosetPtrs := model.geosetPtrs.set b.geosetIndex.toNat geoset.geosetPtr
    geosetDataPtrs := model.geosetDataPtrs.set b.geosetIndex.toNat geoset.geosetDataPtr }
  { model with readyGeosetCount := s.countReadyGeosets model }

/-- The end of `noteRuntimeGeosetBinding`: the geoset is put into the records of its models. -/
def placeInModels (b : GeosetBinding) (geoset : GeosetRecord) (s : Cache) : Cache :=
  if b.geosetIndex = kInvalidShadowGeosetIndex then s
  else if b.runtimeModelPtr ≠ 0 then
    let known := (s.byRuntimeModel b.runtimeModelPtr).getD {}
    let model := s.placeGeoset b geoset { known with
      runtimeModelPtr := b.runtimeModelPtr
      modelResourcePtr := if b.modelResourcePtr ≠ 0 then b.modelResourcePtr else known.modelResourcePtr
      modelKey := if b.modelKey ≠ 0 then b.modelKey else known.modelKey }
    s.storeRuntimeAndModel model
  else if b.modelResourcePtr ≠ 0 then
    let known := (s.byModelResource b.modelResourcePtr).getD {}
    s.storeModelRecord (s.placeGeoset b geoset { known with
      modelResourcePtr := b.modelResourcePtr
      modelKey := if b.modelKey ≠ 0 then b.modelKey else known.modelKey })
  else s

/-- The second region of `noteRuntimeGeosetBinding`. -/
def publishRuntimeGeoset (b : GeosetBinding) (source : Source) (record : GeosetRecord) (s : Cache) :
    Cache :=
  if record.geosetPtr = 0 && record.geosetDataPtr = 0 then s
  else
    let b := s.completeBinding b
    let stored := s.storeGeosetRecord source (boundRecord b s.frameNumber record)
    stored.2.placeInModels b stored.1

/-! ### `hydrateGeosetByKnownPtrs` -/

/-- The first region of `hydrateGeosetByKnownPtrs`: what it returns without a capture. -/
def lookHydrated (geosetPtr geosetDataPtr : Ptr) (s : Cache) : Option GeosetRecord :=
  let current := (if geosetPtr = 0 then none else s.byGeoset geosetPtr).map fun alias_ =>
    s.materializeGeosetAliasRecord alias_
  let aliasIdentityTransition := current.any fun c =>
    c.geosetDataPtr ≠ 0 && geosetDataPtr ≠ 0 && c.geosetDataPtr ≠ geosetDataPtr
  let aliasRequiresCapture := current.any fun c => !c.readyForShadowConsumer
  match current.filter fun c => !aliasIdentityTransition && c.readyForShadowConsumer with
  | some c => some c
  | none =>
    if !aliasIdentityTransition && !aliasRequiresCapture && geosetDataPtr ≠ 0 then
      ((s.byGeosetData geosetDataPtr).filter GeosetRecord.readyForShadowConsumer).map fun snapshot =>
        s.materializeGeosetDataRecord geosetDataPtr snapshot
    else none

/-- The second region of `hydrateGeosetByKnownPtrs`, and what it returns. -/
def publishHydrated (hydrated : GeosetRecord) (s : Cache) : Option GeosetRecord × Cache :=
  let stored := s.storeGeosetRecord .captured { hydrated with
    firstSeenFrame := if hydrated.firstSeenFrame = 0 then s.frameNumber else hydrated.firstSeenFrame
    lastSeenFrame := s.frameNumber }
  let out := if stored.1.geosetDataPtr ≠ 0 then
    stored.2.materializeGeosetDataRecord stored.1.geosetDataPtr stored.1 else stored.1
  (if out.immutableModelGeneration ≠ 0 && out.readyForShadowConsumer then some out else none, stored.2)

end Cache

/-! ### Whole calls -/

inductive Op
  | beginFrame
  | resetMapEpoch (nextMapEpoch : UInt64)
  | recordGeosetCreate (geosetPtr : Ptr)
  | noteModelResourceBinding (modelResourcePtr : Ptr) (modelKey : UInt64)
  | noteRuntimeModelBinding (runtimeModelPtr modelResourcePtr : Ptr) (modelKey : UInt64)
  | noteRuntimeGeosetBinding (binding : GeosetBinding)
  | hydrateGeosetByKnownPtrs (geosetPtr geosetDataPtr : Ptr)
  deriving DecidableEq, Repr

namespace Cache

/-- `noteModelResourceBinding`. -/
def noteModelResourceBinding (memory : Memory) (modelResourcePtr : Ptr) (modelKey : UInt64)
    (s : Cache) : Cache :=
  let modelResourcePtr := memory.directModelResource modelResourcePtr
  if modelResourcePtr = 0 then s
  else
    let ready := s.modelResourceReady modelResourcePtr modelKey
    if ready.1 then ready.2
    else
      match memory.modelGeosets modelResourcePtr with
      | none => ready.2
      | some geosetPtrs => ready.2.bindModelResource memory modelResourcePtr modelKey geosetPtrs

/-- `noteRuntimeModelBinding`. -/
def noteRuntimeModelBinding (memory : Memory) (runtimeModelPtr modelResourcePtr : Ptr)
    (modelKey : UInt64) (s : Cache) : Cache :=
  if runtimeModelPtr = 0 then s
  else
    let modelResourcePtr := memory.directModelResource modelResourcePtr
    let ready := s.runtimeModelReady runtimeModelPtr modelResourcePtr modelKey
    if ready.1 || !memory.looksLikeRuntimeModel runtimeModelPtr then ready.2
    else
      ready.2.bindRuntimeModel memory runtimeModelPtr modelResourcePtr modelKey
        (memory.runtimeGeosets runtimeModelPtr)

/-- `noteRuntimeGeosetBinding`. -/
def noteRuntimeGeosetBinding (memory : Memory) (binding : GeosetBinding) (s : Cache) : Cache :=
  if binding.runtimeGeosetPtr = 0 && binding.runtimeGeosetDataPtr = 0 then s
  else
    let b := binding.resolve memory
    let looked := s.lookRuntimeGeoset b
    if looked.2 then s.publishRuntimeGeoset b .cached looked.1
    else
      match memory.captureGeosetRecordFromKnownPtrs b.runtimeGeosetPtr b.runtimeGeosetDataPtr with
      | none => s
      | some live =>
        (s.noteCapture live).publishRuntimeGeoset b .captured (mergeLiveRecord looked.1 live)

/-- `hydrateGeosetByKnownPtrs`. -/
def hydrateGeosetByKnownPtrs (memory : Memory) (geosetPtr geosetDataPtr : Ptr) (s : Cache) :
    Option GeosetRecord × Cache :=
  if geosetPtr = 0 && geosetDataPtr = 0 then (none, s)
  else
    match s.lookHydrated geosetPtr geosetDataPtr with
    | some out => (some out, s)
    | none =>
      match memory.captureGeosetRecordFromKnownPtrs geosetPtr geosetDataPtr with
      | none => (none, s)
      | some hydrated =>
        let s := s.noteCapture hydrated
        if !hydrated.hasCompleteImmutableConsumerPayload then (none, s) else s.publishHydrated hydrated

def perform (call : Op × Memory) (s : Cache) : Option GeosetRecord × Cache :=
  match call.1 with
  | .beginFrame => (none, s.beginFrame)
  | .resetMapEpoch nextMapEpoch => (none, (s.resetMapEpoch nextMapEpoch).2)
  | .recordGeosetCreate geosetPtr =>
    match call.2.captureGeosetHeaderRecord geosetPtr with
    | none => (none, s)
    | some record => (none, s.recordGeosetCreate record)
  | .noteModelResourceBinding modelResourcePtr modelKey =>
    (none, s.noteModelResourceBinding call.2 modelResourcePtr modelKey)
  | .noteRuntimeModelBinding runtimeModelPtr modelResourcePtr modelKey =>
    (none, s.noteRuntimeModelBinding call.2 runtimeModelPtr modelResourcePtr modelKey)
  | .noteRuntimeGeosetBinding binding => (none, s.noteRuntimeGeosetBinding call.2 binding)
  | .hydrateGeosetByKnownPtrs geosetPtr geosetDataPtr =>
    s.hydrateGeosetByKnownPtrs call.2 geosetPtr geosetDataPtr

end Cache

end War3VK.Model
