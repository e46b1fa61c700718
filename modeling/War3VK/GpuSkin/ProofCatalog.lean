import War3VK.GpuSkin.PackageResource
import War3VK.Lib.LowerBound

/-!
# The catalog of package proofs

`War3PersistentGpuPackageProofCatalog`: immutable snapshots of the proofs of packages, replaced as a
whole by the one writer, and the check of a draw's evidence against a snapshot. A snapshot that was
handed out lives on behind the current one. A copy that is out of memory ends a call; where the code
stores a snapshot it does not return then.
-/

namespace War3VK.GpuSkin

open War3VK.Lib

namespace ProofCatalog

/-- `kSchemaVersion`. -/
def kSchemaVersion : UInt32 := 1

/-- `kRequiredStage`. -/
def kRequiredStage : UInt32 := 11

/-- `PublicationState`. -/
inductive PublicationState
  | prepared
  | uploadSubmitted
  | uploadCompleted
  | invalidated
  deriving DecidableEq, Repr

/-- `Key`. -/
structure Key where
  schema : UInt32
  mapEpoch : UInt64
  deviceEpoch : UInt64
  packageGeneration : UInt64
  immutableModelGeneration : UInt64
  geosetData : UInt64
  contentHash : UInt64
  layoutGeneration : UInt32
  primitiveOrdinal : UInt32
  deriving DecidableEq, Repr

/-- `Key{}`. -/
def Key.none : Key := ⟨0, 0, 0, 0, 0, 0, 0, 0, 0⟩

/-- `ProducerFencePoint`. -/
structure ProducerFencePoint where
  identity : UInt64
  value : UInt64
  deriving DecidableEq, Repr

/-- `ProducerFenceObservation`. -/
structure ProducerFenceObservation where
  identity : UInt64
  completedValue : UInt64
  querySucceeded : Bool
  deriving DecidableEq, Repr

/-- `Value`. -/
structure Value where
  packageProof : GpuSkinStaticPackageProof
  primitiveProof : PrimitiveProof
  canonicalDigest : UInt64
  publicationRevision : UInt64
  producerFence : ProducerFencePoint
  state : PublicationState
  deriving DecidableEq, Repr

/-- `Entry`. -/
structure Entry where
  key : Key
  value : Value
  deriving DecidableEq, Repr

/-- `Snapshot`. -/
structure Snapshot where
  instanceGeneration : UInt64
  revision : UInt64
  entries : List Entry
  deriving DecidableEq, Repr

/-- `PreparedPackage`. -/
structure PreparedPackage where
  key : Key
  packageProof : GpuSkinStaticPackageProof
  primitiveProof : PrimitiveProof
  deriving DecidableEq, Repr

/-- `MutationResult`. -/
inductive MutationResult
  | accepted
  | duplicate
  | invalid
  | wrongWriter
  | notFound
  | immutableConflict
  | stateConflict
  | fenceMismatch
  | completionNotObserved
  deriving DecidableEq, Repr

/-! ## Keys -/

/-- `sameKey`. -/
def sameKey (lhs rhs : Key) : Bool := lhs = rhs

/-- `keyLess`. -/
def keyLess (lhs rhs : Key) : Bool :=
  if lhs.schema ≠ rhs.schema then lhs.schema < rhs.schema
  else if lhs.mapEpoch ≠ rhs.mapEpoch then lhs.mapEpoch < rhs.mapEpoch
  else if lhs.deviceEpoch ≠ rhs.deviceEpoch then lhs.deviceEpoch < rhs.deviceEpoch
  else if lhs.packageGeneration ≠ rhs.packageGeneration then
    lhs.packageGeneration < rhs.packageGeneration
  else if lhs.immutableModelGeneration ≠ rhs.immutableModelGeneration then
    lhs.immutableModelGeneration < rhs.immutableModelGeneration
  else if lhs.geosetData ≠ rhs.geosetData then lhs.geosetData < rhs.geosetData
  else if lhs.contentHash ≠ rhs.contentHash then lhs.contentHash < rhs.contentHash
  else if lhs.layoutGeneration ≠ rhs.layoutGeneration then
    lhs.layoutGeneration < rhs.layoutGeneration
  else lhs.primitiveOrdinal < rhs.primitiveOrdinal

/-- `lower_bound` of a key. -/
def boundOf (entries : List Entry) (key : Key) : ℕ := tableBound keyLess Entry.key entries key

/-- `Snapshot::find`. -/
def Snapshot.find (key : Key) (snapshot : Snapshot) : Option Entry :=
  match snapshot.entries[boundOf snapshot.entries key]? with
  | none => none
  | some entry => if sameKey entry.key key then some entry else none

/-- `validKey`. -/
def validKey (key : Key) : Bool :=
  key.schema = kSchemaVersion && key.mapEpoch ≠ 0 && key.deviceEpoch ≠ 0 &&
    key.packageGeneration ≠ 0 && key.immutableModelGeneration ≠ 0 && key.geosetData ≠ 0 &&
    key.contentHash ≠ 0 && key.layoutGeneration ≠ 0

/-- `validFence`. -/
def validFence (fence : ProducerFencePoint) : Bool := fence.identity ≠ 0 && fence.value ≠ 0

/-- `validFenceObservation`. -/
def validFenceObservation (observation : ProducerFenceObservation) : Bool :=
  observation.identity ≠ 0

/-- `SameFence`. -/
def sameFence (lhs rhs : ProducerFencePoint) : Bool :=
  lhs.identity = rhs.identity && lhs.value = rhs.value

/-! ## Proofs -/

/-- `kFnvOffset`. -/
def kFnvOffset : UInt64 := 0xcbf29ce484222325

/-- `SameGpuSkinStaticPrimitiveProof`. -/
def sameGpuSkinStaticPrimitiveProof (lhs rhs : PrimitiveProof) : Bool := lhs = rhs

def Key.bytes (key : Key) : Bytes :=
  putLe key.schema ++ putLe key.mapEpoch ++ putLe key.deviceEpoch ++ putLe key.packageGeneration ++
    putLe key.immutableModelGeneration ++ putLe key.geosetData ++ putLe key.contentHash ++
    putLe key.layoutGeneration ++ putLe key.primitiveOrdinal

def packageProofBytes (proof : GpuSkinStaticPackageProof) : Bytes :=
  putLe proof.mapEpoch ++ putLe proof.deviceEpoch ++ leBytes 8 proof.packageGeneration ++
    putLe proof.geosetData ++ putLe proof.contentHash ++ putLe proof.immutableModelGeneration ++
    putLe proof.positionContentHash ++ putLe proof.normalContentHash ++
    putLe proof.vertexGroupContentHash ++ putLe proof.uv0ContentHash ++
    putLe proof.uv1ContentHash ++ putLe proof.indexContentHash ++ putLe proof.primitiveProofHash ++
    putLe proof.localBoundsHash ++ leBytes 4 proof.layoutGeneration ++
    leBytes 4 proof.vertexCount ++ leBytes 4 proof.indexCount ++ leBytes 4 proof.uvLayerCount ++
    leBytes 4 proof.primitiveProofCount ++
    leBytes 4 (match proof.indexType with | .uint16 => 0 | .uint32 => 1) ++ proof.bounds.bytes ++
    leBytes 4 proof.staticByteOffset ++ leBytes 4 proof.staticByteLength ++
    leBytes 4 proof.indexByteOffset ++ leBytes 4 proof.indexByteLength

/-- `PrimitiveProofAggregate`. -/
def primitiveProofAggregate (primitive : PrimitiveProof) : UInt64 :=
  hashPrimitiveInto continuePersistentGpuPackageContentHash kFnvOffset primitive

/-- `canonicalDigest`. -/
def canonicalDigest (key : Key) (proof : GpuSkinStaticPackageProof) (primitive : PrimitiveProof) :
    UInt64 :=
  let hash := hashPrimitiveInto continuePersistentGpuPackageContentHash
    (continuePersistentGpuPackageContentHash kFnvOffset (key.bytes ++ packageProofBytes proof))
    primitive
  if hash ≠ 0 then hash else kFnvOffset

def proofsOfKey (prepared : PreparedPackage) : Bool :=
  let key := prepared.key
  let proof := prepared.packageProof
  proof.mapEpoch = key.mapEpoch && proof.deviceEpoch = key.deviceEpoch &&
    proof.packageGeneration = key.packageGeneration.toNat && proof.geosetData = key.geosetData &&
    proof.contentHash = key.contentHash &&
    proof.immutableModelGeneration = key.immutableModelGeneration &&
    proof.layoutGeneration = key.layoutGeneration.toNat &&
    prepared.primitiveProof.ordinal = key.primitiveOrdinal.toNat

def digestsPresent (proof : GpuSkinStaticPackageProof) : Bool :=
  proof.positionContentHash ≠ 0 && proof.normalContentHash ≠ 0 &&
    proof.vertexGroupContentHash ≠ 0 && proof.indexContentHash ≠ 0 &&
    proof.primitiveProofHash ≠ 0 && proof.localBoundsHash ≠ 0 && proof.uvLayerCount ≤ 2 &&
    !(proof.uvLayerCount = 0 && (proof.uv0ContentHash ≠ 0 || proof.uv1ContentHash ≠ 0)) &&
    !(proof.uvLayerCount = 1 && (proof.uv0ContentHash = 0 || proof.uv1ContentHash ≠ 0)) &&
    !(proof.uvLayerCount = 2 && (proof.uv0ContentHash = 0 || proof.uv1ContentHash = 0))

def onePrimitive (prepared : PreparedPackage) : Bool :=
  let proof := prepared.packageProof
  let primitive := prepared.primitiveProof
  proof.vertexCount ≠ 0 && proof.indexCount ≠ 0 && proof.primitiveProofCount = 1 &&
    prepared.key.primitiveOrdinal = 0 && primitive.ordinal < proof.primitiveProofCount &&
    primitive.ordinal = 0 && primitive.firstIndex = 0 && primitive.indexCount = proof.indexCount &&
    primitive.indexContentHash = proof.indexContentHash &&
    primitiveProofAggregate primitive = proof.primitiveProofHash &&
    primitive.indexContentHash ≠ 0 && primitive.indexCount ≠ 0 &&
    primitive.minVertex ≤ primitive.maxVertex && primitive.maxVertex < proof.vertexCount &&
    primitive.firstIndex ≤ proof.indexCount &&
    primitive.indexCount ≤ proof.indexCount - primitive.firstIndex

/-- The ranges have the bytes that the counts ask for, one behind the other. -/
def rangesExact (proof : GpuSkinStaticPackageProof) : Bool :=
  let texcoordOffset := (proof.vertexCount * 25 + 3) / 4 * 4
  let expectedStaticBytes := texcoordOffset + proof.vertexCount * 8 * proof.uvLayerCount
  proof.indexType = .uint16 && expectedStaticBytes ≠ 0 && expectedStaticBytes ≤ 0xffffffff &&
    proof.staticByteLength = expectedStaticBytes && proof.indexByteLength ≠ 0 &&
    proof.staticByteOffset + proof.staticByteLength ≤ proof.indexByteOffset &&
    proof.indexByteLength = proof.indexCount * 2

def boundsOrdered (b : LocalBounds) : Bool :=
  isFinite b.minX && isFinite b.minY && isFinite b.minZ && isFinite b.maxX && isFinite b.maxY &&
    isFinite b.maxZ && !floatLt b.maxX b.minX && !floatLt b.maxY b.minY && !floatLt b.maxZ b.minZ

/-- `validPreparedPackage`. -/
def validPreparedPackage (prepared : PreparedPackage) : Bool :=
  validKey prepared.key && proofsOfKey prepared && digestsPresent prepared.packageProof &&
    onePrimitive prepared && rangesExact prepared.packageProof &&
    boundsOrdered prepared.packageProof.bounds

end ProofCatalog

structure ProofCatalog where
  writerThread : Option ℕ
  instanceGeneration : UInt64
  earlier : List ProofCatalog.Snapshot
  /-- `*m_snapshot`. -/
  snapshot : ProofCatalog.Snapshot

structure CatalogAnswers where
  copies : Bool
  inserts : Bool
  deriving DecidableEq, Repr

namespace ProofCatalog

def init (instanceGeneration : UInt64) : ProofCatalog where
  writerThread := none
  instanceGeneration := instanceGeneration
  earlier := []
  snapshot := ⟨instanceGeneration, 1, []⟩

def published (s : ProofCatalog) : List Snapshot := s.earlier ++ [s.snapshot]

/-- `bindOrCheckWriter`. -/
def bindOrCheckWriter (thread : ℕ) (s : ProofCatalog) : Bool × ProofCatalog :=
  match s.writerThread with
  | none => (true, { s with writerThread := some thread })
  | some writer => (writer = thread, s)

/-- `storeSnapshot`. -/
def storeSnapshot (entries : List Entry) (revision : UInt64) (s : ProofCatalog) : ProofCatalog :=
  { s with earlier := s.earlier ++ [s.snapshot], snapshot := ⟨s.instanceGeneration, revision, entries⟩ }

/-- `publishPrepared` under the lock; nothing when it threw. -/
def insertPrepared (answers : CatalogAnswers) (package : PreparedPackage) (s : ProofCatalog) :
    Option MutationResult × ProofCatalog :=
  if s.snapshot.revision = 0xffffffffffffffff then (some .invalid, s)
  else if !answers.copies then (none, s)
  else
    let entries := s.snapshot.entries
    let found := boundOf entries package.key
    let digest := canonicalDigest package.key package.packageProof package.primitiveProof
    let revision := s.snapshot.revision + 1
    let inserted : Entry := ⟨package.key, package.packageProof, package.primitiveProof, digest,
      revision, ⟨0, 0⟩, .prepared⟩
    let insert : Option MutationResult × ProofCatalog :=
      if answers.inserts then
        (some .accepted, s.storeSnapshot (entries.insertIdx found inserted) revision)
      else (none, s)
    match entries[found]? with
    | none => insert
    | some entry =>
      if sameKey entry.key package.key then
        if !sameGpuSkinStaticPackageProof entry.value.packageProof package.packageProof ||
            !sameGpuSkinStaticPrimitiveProof entry.value.primitiveProof package.primitiveProof ||
            entry.value.canonicalDigest ≠ digest then
          (some .immutableConflict, s)
        else if entry.value.state = .invalidated then (some .stateConflict, s)
        else (some .duplicate, s)
      else insert

def transitionOf (target : PublicationState) (fence : Option ProducerFencePoint)
    (observation : Option ProducerFenceObservation) (value : Value) : Except MutationResult Value :=
  match target, fence, observation with
  | .invalidated, _, _ =>
    if value.state = .invalidated then .error .duplicate else .ok { value with state := .invalidated }
  | .uploadSubmitted, some fence, _ =>
    if value.state = .invalidated then .error .stateConflict
    else if value.state = .uploadSubmitted || value.state = .uploadCompleted then
      .error (if sameFence value.producerFence fence then .duplicate else .fenceMismatch)
    else if value.state ≠ .prepared then .error .stateConflict
    else .ok { value with producerFence := fence, state := .uploadSubmitted }
  | .uploadCompleted, _, some observation =>
    if value.state ≠ .uploadSubmitted && value.state ≠ .uploadCompleted then .error .stateConflict
    else if value.producerFence.identity ≠ observation.identity then .error .fenceMismatch
    else if !observation.querySucceeded || observation.completedValue < value.producerFence.value then
      .error .completionNotObserved
    else if value.state = .uploadCompleted then .error .duplicate
    else .ok { value with state := .uploadCompleted }
  | _, _, _ => .error .invalid

def validTransition (key : Key) (target : PublicationState) (fence : Option ProducerFencePoint)
    (observation : Option ProducerFenceObservation) : Bool :=
  validKey key && !(target = .uploadSubmitted && !fence.any validFence) &&
    !(target = .uploadCompleted && !observation.any validFenceObservation)

/-- `publishTransition`; nothing when it threw. -/
def publishTransition (answers : CatalogAnswers) (key : Key) (target : PublicationState)
    (fence : Option ProducerFencePoint) (observation : Option ProducerFenceObservation)
    (s : ProofCatalog) : Option MutationResult × ProofCatalog :=
  if !validTransition key target fence observation then (some .invalid, s)
  else if s.snapshot.revision = 0xffffffffffffffff then (some .invalid, s)
  else if !answers.copies then (none, s)
  else
    let entries := s.snapshot.entries
    match entries[boundOf entries key]? with
    | none => (some .notFound, s)
    | some entry =>
      if !sameKey entry.key key then (some .notFound, s)
      else
        match transitionOf target fence observation entry.value with
        | .error reason => (some reason, s)
        | .ok value =>
          let revision := s.snapshot.revision + 1
          (some .accepted, s.storeSnapshot
            (entries.set (boundOf entries key) ⟨entry.key, { value with publicationRevision := revision }⟩)
            revision)

/-- A publication with valid arguments, by the one writer; nothing when it threw. -/
def publishAs (thread : ℕ) (valid : Bool)
    (publish : ProofCatalog → Option MutationResult × ProofCatalog) (s : ProofCatalog) :
    Option MutationResult × ProofCatalog :=
  if !valid then (some .invalid, s)
  else
    match s.bindOrCheckWriter thread with
    | (false, s) => (some .wrongWriter, s)
    | (true, s) => publish s

/-- `publishPrepared`. -/
def publishPrepared (thread : ℕ) (answers : CatalogAnswers) (package : PreparedPackage) :
    ProofCatalog → Option MutationResult × ProofCatalog :=
  publishAs thread (validPreparedPackage package) (insertPrepared answers package)

/-- `publishUploadSubmitted`. -/
def publishUploadSubmitted (thread : ℕ) (answers : CatalogAnswers) (key : Key)
    (fence : ProducerFencePoint) : ProofCatalog → Option MutationResult × ProofCatalog :=
  publishAs thread (validKey key && validFence fence)
    (publishTransition answers key .uploadSubmitted (some fence) none)

/-- `publishUploadCompleted`. -/
def publishUploadCompleted (thread : ℕ) (answers : CatalogAnswers) (key : Key)
    (observation : ProducerFenceObservation) : ProofCatalog → Option MutationResult × ProofCatalog :=
  publishAs thread (validKey key && validFenceObservation observation)
    (publishTransition answers key .uploadCompleted none (some observation))

/-- `publishInvalidated`. -/
def publishInvalidated (thread : ℕ) (answers : CatalogAnswers) (key : Key) :
    ProofCatalog → Option MutationResult × ProofCatalog :=
  publishAs thread (validKey key) (publishTransition answers key .invalidated none none)

end ProofCatalog

end War3VK.GpuSkin
