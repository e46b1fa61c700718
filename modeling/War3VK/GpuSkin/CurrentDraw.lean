import Mathlib.Data.Int.Notation
import Mathlib.Data.Nat.Notation
import War3VK.GpuSkin.ProofCatalog
import War3VK.Lib.Guards

/-!
# The current draw and a package

`EvaluatePersistentGpuPackageCurrentDrawEquivalence`: whether the draw that is about to be made is
exactly the primitive of a package, or the first reason why not.
-/

namespace War3VK.GpuSkin

/-- `PersistentGpuPackageCurrentDrawMatchDisposition`. -/
inductive CurrentDrawMatchDisposition
  | notRequested
  | invalidCurrentDraw
  | notRigidStatic
  | materialRejected
  | skinningRouteRejected
  | geometryContractRejected
  | cpuSourceUnavailable
  | sourceGenerationMissing
  | packageNotReady
  | packageInvalid
  | snapshotMismatch
  | primitiveSelectionRejected
  | packageLayoutMismatch
  | positionContentMismatch
  | indexContentMismatch
  | primitiveMismatch
  | exactMatch
  deriving DecidableEq, Repr

/-- `PersistentGpuPackageCurrentDrawProof`, without the fields that only the counters read. -/
structure CurrentDrawProof where
  frameSerial : UInt64
  mapEpoch : UInt64
  deviceEpoch : UInt64
  exactGeometryKeyHash : UInt64
  instanceIdentity : UInt64
  meshPayloadIdentity : UInt64
  renderablePartIdentity : UInt64
  positionOwnerIdentity : UInt64
  positionIdentityGeneration : UInt64
  positionAllocationGeneration : UInt64
  positionContentGeneration : UInt64
  indexOwnerIdentity : UInt64
  indexIdentityGeneration : UInt64
  indexAllocationGeneration : UInt64
  indexContentGeneration : UInt64
  positionContentHash : UInt64
  indexContentHash : UInt64
  vertexCount : ℕ
  indexCount : ℕ
  sourceVertexFirst : ℕ
  actualIndexMin : ℕ
  actualIndexMax : ℕ
  baseVertexIndex : ℤ
  requested : Bool
  isSealed : Bool
  rigidStatic : Bool
  opaqueMaterial : Bool
  gpuSkinBacked : Bool
  vertexBlendEnabled : Bool
  indexed : Bool
  triangleList : Bool
  uint16Indices : Bool
  exactIndexDomainKnown : Bool
  fullVertexDomainFallback : Bool
  exactContiguousVertexRange : Bool
  positionFloat3 : Bool
  positionHostCached : Bool
  positionBoundedObserveReadable : Bool
  indexHostCached : Bool
  indexBoundedObserveReadable : Bool
  deriving DecidableEq, Repr

/-- `PersistentGpuPackageCurrentDrawPackageProof`. -/
structure CurrentDrawPackageProof where
  mapEpoch : UInt64
  deviceEpoch : UInt64
  packageGeneration : ℕ
  geosetDataIdentity : UInt64
  positionContentHash : UInt64
  indexContentHash : UInt64
  vertexCount : ℕ
  indexCount : ℕ
  primitiveCount : ℕ
  /-- How many indices the primitive has in the package. -/
  primitiveIndexCount : ℕ
  primitiveMinVertex : ℕ
  primitiveMaxVertex : ℕ
  ready : Bool
  frozenPayloadValid : Bool
  snapshotIdentityExact : Bool
  primitiveSelected : Bool
  deriving DecidableEq, Repr

def CurrentDrawPackageProof.none : CurrentDrawPackageProof :=
  ⟨0, 0, 0, 0, 0, 0, 0, 0, 0, 0, 0, 0, false, false, false, false⟩

def CurrentDrawProof.named (draw : CurrentDrawProof) : Bool :=
  draw.isSealed && draw.frameSerial ≠ 0 && draw.mapEpoch ≠ 0 && draw.deviceEpoch ≠ 0 &&
    draw.exactGeometryKeyHash ≠ 0 && draw.instanceIdentity ≠ 0 && draw.meshPayloadIdentity ≠ 0 &&
    draw.renderablePartIdentity ≠ 0 && draw.vertexCount ≠ 0 && draw.indexCount ≠ 0

def CurrentDrawProof.geometryContract (draw : CurrentDrawProof) : Bool :=
  let exactVertexCount := if draw.actualIndexMin ≤ draw.actualIndexMax then
    draw.actualIndexMax - draw.actualIndexMin + 1 else 0
  let expectedPhysicalVertexFirst := draw.baseVertexIndex + draw.actualIndexMin
  draw.indexed && draw.triangleList && draw.uint16Indices && draw.exactIndexDomainKnown &&
    !draw.fullVertexDomainFallback && draw.exactContiguousVertexRange && draw.positionFloat3 &&
    exactVertexCount ≠ 0 && exactVertexCount = draw.vertexCount &&
    0 ≤ expectedPhysicalVertexFirst && expectedPhysicalVertexFirst ≤ 0xffffffff &&
    (draw.sourceVertexFirst : ℤ) = expectedPhysicalVertexFirst

def CurrentDrawProof.generations (draw : CurrentDrawProof) : Bool :=
  draw.positionOwnerIdentity ≠ 0 && draw.positionIdentityGeneration ≠ 0 &&
    draw.positionAllocationGeneration ≠ 0 && draw.positionContentGeneration ≠ 0 &&
    draw.indexOwnerIdentity ≠ 0 && draw.indexIdentityGeneration ≠ 0 &&
    draw.indexAllocationGeneration ≠ 0 && draw.indexContentGeneration ≠ 0 &&
    draw.positionContentHash ≠ 0 && draw.indexContentHash ≠ 0

/-- `EvaluatePersistentGpuPackageCurrentDrawEquivalence`. -/
def evaluateCurrentDrawEquivalence (draw : CurrentDrawProof) (package : CurrentDrawPackageProof) :
    CurrentDrawMatchDisposition :=
  if !draw.requested then .notRequested
  else if !draw.named then .invalidCurrentDraw
  else if !draw.rigidStatic then .notRigidStatic
  else if !draw.opaqueMaterial then .materialRejected
  else if draw.gpuSkinBacked || draw.vertexBlendEnabled then .skinningRouteRejected
  else if !draw.geometryContract then .geometryContractRejected
  else if (!draw.positionHostCached && !draw.positionBoundedObserveReadable) ||
      (!draw.indexHostCached && !draw.indexBoundedObserveReadable) then .cpuSourceUnavailable
  else if !draw.generations then .sourceGenerationMissing
  else if !package.ready then .packageNotReady
  else if !package.frozenPayloadValid || package.packageGeneration = 0 then .packageInvalid
  else if !package.snapshotIdentityExact || package.mapEpoch ≠ draw.mapEpoch ||
      package.deviceEpoch ≠ draw.deviceEpoch ||
      package.geosetDataIdentity ≠ draw.meshPayloadIdentity then .snapshotMismatch
  else if !package.primitiveSelected || package.primitiveCount = 0 then .primitiveSelectionRejected
  else if package.vertexCount ≠ draw.vertexCount || package.indexCount ≠ draw.indexCount then
    .packageLayoutMismatch
  else if package.positionContentHash ≠ draw.positionContentHash then .positionContentMismatch
  else if package.indexContentHash ≠ draw.indexContentHash then .indexContentMismatch
  else if package.primitiveIndexCount ≠ draw.indexCount ||
      package.primitiveMinVertex ≠ draw.actualIndexMin ||
      package.primitiveMaxVertex ≠ draw.actualIndexMax then .primitiveMismatch
  else .exactMatch

end War3VK.GpuSkin

/-!
## The evidence of a draw

What a draw shows for its package, and the decision of `validateDrawEvidence` about it against one
snapshot of the catalog. Only this check makes a decision that is ready.
-/

namespace War3VK.GpuSkin.ProofCatalog

open War3VK.Lib

/-- `StreamHashEvidence`. -/
structure StreamHashEvidence where
  position : UInt64
  normal : UInt64
  vertexGroup : UInt64
  uv0 : UInt64
  uv1 : UInt64
  index : UInt64
  primitiveAggregate : UInt64
  localBounds : UInt64
  deriving DecidableEq, Repr

/-- `PrimitiveDomainEvidence`. -/
structure PrimitiveDomainEvidence where
  firstIndex : ℕ
  indexCount : ℕ
  minVertex : ℕ
  maxVertex : ℕ
  wholeIndexCount : ℕ
  vertexCount : ℕ
  indexType : IndexType
  deriving DecidableEq, Repr

/-- `ExactTokenEvidence`. -/
structure ExactTokenEvidence where
  sealedToken : UInt64
  drawToken : UInt64
  deriving DecidableEq, Repr

/-- `ValidationContext`. -/
structure ValidationContext where
  frameSerial : UInt64
  policyRevision : UInt64
  stage : UInt32
  deriving DecidableEq, Repr

/-- `DrawEvidence`. -/
structure DrawEvidence where
  frameSerial : UInt64
  policyRevision : UInt64
  stage : UInt32
  catalogInstanceGeneration : UInt64
  /-- The revision of the snapshot that it was built from. -/
  catalogSnapshotRevision : UInt64
  canonicalDigest : UInt64
  currentDrawSourceGeneration : UInt64
  key : Key
  packageProof : GpuSkinStaticPackageProof
  primitiveProof : PrimitiveProof
  streamHashes : StreamHashEvidence
  primitiveDomain : PrimitiveDomainEvidence
  identity : ExactTokenEvidence
  source : ExactTokenEvidence
  material : ExactTokenEvidence
  alpha : ExactTokenEvidence
  world : ExactTokenEvidence
  bounds : ExactTokenEvidence
  identityExact : Bool
  sourceExact : Bool
  staticRigid : Bool
  dynamic : Bool
  skinned : Bool
  fresh : Bool
  grace : Bool
  blocker : Bool
  rejected : Bool
  deriving DecidableEq, Repr

/-- `PackageContentDecision::Reason`. -/
inductive Reason
  | missingSnapshot
  | invalidDrawContext
  | invalidKey
  | entryNotFound
  | catalogInstanceGenerationMismatch
  | catalogSnapshotRevisionMismatch
  | digestMismatch
  | uploadNotCompleted
  | producerFenceMissing
  | packageProofMismatch
  | primitiveProofMismatch
  | streamHashMismatch
  | primitiveDomainMismatch
  | routeRejected
  | exactTokenMismatch
  | ready
  deriving DecidableEq, Repr

/-- `PackageContentDecision`. -/
structure PackageContentDecision where
  ready : Bool
  reason : Reason
  catalogInstanceGeneration : UInt64
  catalogSnapshotRevision : UInt64
  publicationRevision : UInt64
  canonicalDigest : UInt64
  key : Key
  frameSerial : UInt64
  policyRevision : UInt64
  stage : UInt32
  identityToken : UInt64
  sourceToken : UInt64
  currentDrawSourceGeneration : UInt64
  materialToken : UInt64
  alphaToken : UInt64
  worldToken : UInt64
  boundsToken : UInt64
  deriving DecidableEq, Repr

structure DecisionTuple where
  key : Key
  catalogInstanceGeneration : UInt64
  catalogSnapshotRevision : UInt64
  frameSerial : UInt64
  policyRevision : UInt64
  stage : UInt32
  identityToken : UInt64
  sourceToken : UInt64
  currentDrawSourceGeneration : UInt64
  materialToken : UInt64
  alphaToken : UInt64
  worldToken : UInt64
  boundsToken : UInt64
  deriving DecidableEq, Repr

/-- `matches`. -/
def PackageContentDecision.agrees (decision : PackageContentDecision) (tuple : DecisionTuple) :
    Bool :=
  decision.ready && tuple.catalogInstanceGeneration ≠ 0 &&
    tuple.catalogInstanceGeneration = decision.catalogInstanceGeneration &&
    tuple.catalogSnapshotRevision ≠ 0 &&
    tuple.catalogSnapshotRevision = decision.catalogSnapshotRevision &&
    sameKey decision.key tuple.key &&
    tuple.frameSerial ≠ 0 && tuple.frameSerial = decision.frameSerial &&
    tuple.policyRevision ≠ 0 && tuple.policyRevision = decision.policyRevision &&
    tuple.stage = kRequiredStage && tuple.stage = decision.stage &&
    tuple.identityToken ≠ 0 && tuple.identityToken = decision.identityToken &&
    tuple.sourceToken ≠ 0 && tuple.sourceToken = decision.sourceToken &&
    tuple.currentDrawSourceGeneration ≠ 0 &&
    tuple.currentDrawSourceGeneration = decision.currentDrawSourceGeneration &&
    tuple.materialToken ≠ 0 && tuple.materialToken = decision.materialToken &&
    tuple.alphaToken ≠ 0 && tuple.alphaToken = decision.alphaToken &&
    tuple.worldToken ≠ 0 && tuple.worldToken = decision.worldToken &&
    tuple.boundsToken ≠ 0 && tuple.boundsToken = decision.boundsToken

/-- `reject`. -/
def reject (reason : Reason) (catalogSnapshotRevision : UInt64) (entry : Option Entry) :
    PackageContentDecision :=
  ⟨false, reason, 0, catalogSnapshotRevision, (entry.map (·.value.publicationRevision)).getD 0,
    (entry.map (·.value.canonicalDigest)).getD 0, (entry.map Entry.key).getD .none,
    0, 0, 0, 0, 0, 0, 0, 0, 0, 0⟩

/-- `validExactToken`. -/
def validExactToken (token : ExactTokenEvidence) : Bool :=
  token.sealedToken ≠ 0 && token.drawToken ≠ 0 && token.sealedToken = token.drawToken

/-- `validRoute`. -/
def validRoute (evidence : DrawEvidence) : Bool :=
  validExactToken evidence.identity && validExactToken evidence.source &&
    evidence.currentDrawSourceGeneration ≠ 0 && evidence.identityExact && evidence.sourceExact &&
    evidence.staticRigid && !evidence.dynamic && !evidence.skinned && evidence.fresh &&
    !evidence.grace && !evidence.blocker && !evidence.rejected

/-- `sameStreamHashes`. -/
def sameStreamHashes (evidence : StreamHashEvidence) (proof : GpuSkinStaticPackageProof) : Bool :=
  evidence = ⟨proof.positionContentHash, proof.normalContentHash, proof.vertexGroupContentHash,
    proof.uv0ContentHash, proof.uv1ContentHash, proof.indexContentHash, proof.primitiveProofHash,
    proof.localBoundsHash⟩

/-- `samePrimitiveDomain`. -/
def samePrimitiveDomain (evidence : PrimitiveDomainEvidence)
    (packageProof : GpuSkinStaticPackageProof) (primitiveProof : PrimitiveProof) : Bool :=
  evidence = ⟨primitiveProof.firstIndex, primitiveProof.indexCount, primitiveProof.minVertex,
      primitiveProof.maxVertex, packageProof.indexCount, packageProof.vertexCount,
      packageProof.indexType⟩ &&
    evidence.indexCount ≠ 0 && evidence.minVertex ≤ evidence.maxVertex &&
    evidence.maxVertex < evidence.vertexCount && evidence.firstIndex ≤ evidence.wholeIndexCount &&
    evidence.indexCount ≤ evidence.wholeIndexCount - evidence.firstIndex

def validDrawContext (context : ValidationContext) (evidence : DrawEvidence) : Bool :=
  context.frameSerial ≠ 0 && context.policyRevision ≠ 0 && context.stage = kRequiredStage &&
    evidence.frameSerial = context.frameSerial &&
    evidence.policyRevision = context.policyRevision && evidence.stage = context.stage

/-- Why an entry of the snapshot does not answer the evidence, or that it does. -/
def judgeEntry (evidence : DrawEvidence) (value : Value) : Reason :=
  firstError .ready
    [(evidence.canonicalDigest = 0 || evidence.canonicalDigest ≠ value.canonicalDigest,
        .digestMismatch),
      (value.state ≠ .uploadCompleted, .uploadNotCompleted),
      (!validFence value.producerFence, .producerFenceMissing),
      (!sameGpuSkinStaticPackageProof evidence.packageProof value.packageProof,
        .packageProofMismatch),
      (!sameGpuSkinStaticPrimitiveProof evidence.primitiveProof value.primitiveProof,
        .primitiveProofMismatch),
      (!sameStreamHashes evidence.streamHashes value.packageProof, .streamHashMismatch),
      (!samePrimitiveDomain evidence.primitiveDomain value.packageProof value.primitiveProof,
        .primitiveDomainMismatch),
      (!validRoute evidence, .routeRejected),
      (!validExactToken evidence.material || !validExactToken evidence.alpha ||
        !validExactToken evidence.world || !validExactToken evidence.bounds, .exactTokenMismatch)]

def accept (snapshot : Snapshot) (evidence : DrawEvidence) (entry : Entry) :
    PackageContentDecision :=
  ⟨true, .ready, snapshot.instanceGeneration, snapshot.revision, entry.value.publicationRevision,
    entry.value.canonicalDigest, entry.key, evidence.frameSerial, evidence.policyRevision,
    evidence.stage, evidence.identity.drawToken, evidence.source.drawToken,
    evidence.currentDrawSourceGeneration, evidence.material.drawToken, evidence.alpha.drawToken,
    evidence.world.drawToken, evidence.bounds.drawToken⟩

/-- `validateDrawEvidence`. -/
def validateDrawEvidence (catalog : Option Snapshot) (context : ValidationContext)
    (evidence : DrawEvidence) : PackageContentDecision :=
  match catalog with
  | none => reject .missingSnapshot 0 none
  | some snapshot =>
    if snapshot.instanceGeneration = 0 ||
        evidence.catalogInstanceGeneration ≠ snapshot.instanceGeneration then
      reject .catalogInstanceGenerationMismatch 0 none
    else if !validDrawContext context evidence then
      reject .invalidDrawContext snapshot.revision none
    else if !validKey evidence.key then reject .invalidKey snapshot.revision none
    else if evidence.catalogSnapshotRevision = 0 ||
        evidence.catalogSnapshotRevision ≠ snapshot.revision then
      reject .catalogSnapshotRevisionMismatch snapshot.revision none
    else
      match snapshot.find evidence.key with
      | none => reject .entryNotFound snapshot.revision none
      | some entry =>
        match judgeEntry evidence entry.value with
        | .ready => accept snapshot evidence entry
        | reason => reject reason snapshot.revision (some entry)

end War3VK.GpuSkin.ProofCatalog
