import War3VK.GpuSkin.CurrentDraw

/-!
# The authority over package recording

`War3PersistentGpuPackageRecordingAuthority`: a plan is given to `create`, recorded element by element,
sealed and emitted through one callback. Every method body runs under the mutex, but the callback of
`emitSealed` does not: that method is the step that starts the callback and the step after it. A
snapshot of the catalog is the number of an object, and `deref` is what the object holds. Counters are
left out.
-/

namespace War3VK.GpuSkin

open War3VK.Lib

namespace RecordingAuthority

/-- `kMaxRecords`. -/
def kMaxRecords : UInt32 := 4096

/-- `kKnownConsumerMask`. -/
def kKnownConsumerMask : UInt32 := 0x7f

/-- `kGrantedPrimitiveOrdinal`. -/
def kGrantedPrimitiveOrdinal : UInt32 := 0

/-- `RecordingContext`. -/
structure RecordingContext where
  mapEpoch : UInt64
  deviceEpoch : UInt64
  frameSerial : UInt64
  policyRevision : UInt64
  stageGeneration : UInt64
  recordingOwnerToken : UInt64
  recordingSessionGeneration : UInt64
  commandListGeneration : UInt64
  emitCsSerial : UInt64
  canonicalBatchToken : UInt64
  ownerSubmissionSerial : UInt64
  stage : UInt32
  deriving DecidableEq, Repr

/-- `CurrentStageSource`. -/
structure CurrentStageSource where
  mapEpoch : UInt64
  deviceEpoch : UInt64
  frameSerial : UInt64
  sourceFrameSerial : UInt64
  evidenceFrameSerial : UInt64
  policyRevision : UInt64
  stageGeneration : UInt64
  currentDrawSourceGeneration : UInt64
  immutableModelGeneration : UInt64
  packageGeneration : UInt64
  packageContentHash : UInt64
  geosetDataIdentity : UInt64
  storeInstanceAuthority : UInt64
  frozenDescriptorIdentity : UInt64
  cacheSnapshotIdentity : UInt64
  catalogSnapshot : Option ℕ
  packageContentDecision : ProofCatalog.PackageContentDecision
  catalogInstanceGeneration : UInt64
  catalogSnapshotRevision : UInt64
  packagePublicationRevision : UInt64
  packageCanonicalDigest : UInt64
  identityToken : UInt64
  sourceToken : UInt64
  materialToken : UInt64
  alphaToken : UInt64
  worldToken : UInt64
  boundsToken : UInt64
  packageSchema : UInt32
  packageLayoutGeneration : UInt32
  packagePrimitiveOrdinal : UInt32
  stage : UInt32
  captureComplete : Bool
  exactCurrentAllocation : Bool
  fresh : Bool
  grace : Bool
  rejected : Bool
  deriving DecidableEq, Repr

/-- `RecordInput`. -/
structure RecordInput where
  context : RecordingContext
  source : CurrentStageSource
  recordIdentityToken : UInt64
  commandIdentityToken : UInt64
  commandPayloadDigest : UInt64
  ordinal : UInt32
  primitiveOrdinal : UInt32
  consumerMask : UInt32
  deriving DecidableEq, Repr

/-- `TransactionTicket`. -/
structure TransactionTicket where
  instanceGeneration : UInt64
  transactionGeneration : UInt64
  deriving DecidableEq, Repr

/-- `SealedTicket`. -/
structure SealedTicket where
  transaction : TransactionTicket
  sealGeneration : UInt64
  recordCount : UInt32
  recordDigest : UInt64
  deriving DecidableEq, Repr

/-- `TransactionTicket::valid`. -/
def TransactionTicket.valid (ticket : TransactionTicket) : Bool :=
  ticket.instanceGeneration ≠ 0 && ticket.transactionGeneration ≠ 0

/-- `SealedTicket::valid`. -/
def SealedTicket.valid (ticket : SealedTicket) : Bool :=
  ticket.transaction.valid && ticket.sealGeneration ≠ 0 && ticket.recordCount ≠ 0 &&
    ticket.recordDigest ≠ 0

/-- `State`. -/
inductive Phase
  | idle
  | recording
  | sealed
  | emitting
  | emitted
  | aborted
  | exhausted
  deriving DecidableEq, Repr

/-- `CreateResult`. -/
inductive CreateResult
  | created
  | invalidContext
  | invalidExpectedBatch
  | busy
  | wrongRecordingOwner
  | staleOwnerSubmission
  | allocationFailed
  | generationExhausted
  deriving DecidableEq, Repr

/-- `CreateInput`. -/
structure CreateInput where
  context : RecordingContext
  expectedRecords : List RecordInput
  expectedRecordCount : UInt32
  expectedRecordDigest : UInt64
  deriving DecidableEq, Repr

/-- `RecordResult`. -/
inductive RecordResult
  | recorded
  | invalidTicket
  | staleTicket
  | notRecording
  | wrongOwnerThread
  | contextMismatch
  | invalidCurrentStageSource
  | expectedRecordMismatch
  | ordinalMismatch
  | recordCapacityExceeded
  deriving DecidableEq, Repr

/-- `SealResult`. -/
inductive SealResult
  | sealed
  | invalidTicket
  | staleTicket
  | notRecording
  | wrongOwnerThread
  | contextMismatch
  | incompleteBatch
  | digestMismatch
  | retainedPlanMismatch
  | generationExhausted
  deriving DecidableEq, Repr

/-- `EmitResult`. -/
inductive EmitResult
  | emitted
  | callbackFailed
  | invalidTicket
  | staleTicket
  | notSealed
  | alreadyTerminal
  | emitInProgress
  | wrongOwnerThread
  | contextMismatch
  | sealedProofMismatch
  | immutablePlanMismatch
  | missingCallback
  deriving DecidableEq, Repr

/-- `AbortResult`. -/
inductive AbortResult
  | aborted
  | invalidTicket
  | staleTicket
  | alreadyTerminal
  | emitInProgress
  deriving DecidableEq, Repr

/-- `SealedBatchView`, with the records that it shows. -/
structure SealedBatchView where
  context : RecordingContext
  authorityInstanceGeneration : UInt64
  transactionGeneration : UInt64
  sealGeneration : UInt64
  recordDigest : UInt64
  recordCount : UInt32
  commandPlan : List RecordInput
  deriving DecidableEq, Repr

/-! ## Digests -/

/-- `mixDigest`. -/
def mixDigest (digest value : UInt64) : UInt64 :=
  let value := (value ^^^ (value >>> 30)) * 0xbf58476d1ce4e5b9
  let value := (value ^^^ (value >>> 27)) * 0x94d049bb133111eb
  let value := value ^^^ (value >>> 31)
  let digest := digest ^^^ (value + 0x9e3779b97f4a7c15 + digest <<< (6 : UInt64) +
    digest >>> (2 : UInt64))
  if digest ≠ 0 then digest else 0xa5a5a5a5a5a5a5a5

/-- `mixContext`. -/
def mixContext (digest : UInt64) (context : RecordingContext) : UInt64 :=
  [context.mapEpoch, context.deviceEpoch, context.frameSerial, context.policyRevision,
    context.stageGeneration, context.recordingOwnerToken, context.recordingSessionGeneration,
    context.commandListGeneration, context.emitCsSerial, context.canonicalBatchToken,
    context.ownerSubmissionSerial, context.stage.toUInt64].foldl mixDigest digest

/-- `beginRecordDigest`. -/
def beginRecordDigest (context : RecordingContext) (expectedRecordCount : UInt32) : UInt64 :=
  mixDigest (mixDigest (mixContext 0x6a09e667f3bcc909 context) expectedRecordCount.toUInt64)
    0xbb67ae8584caa73b

/-- `appendRecordDigest`. -/
def appendRecordDigest (digest : UInt64) (input : RecordInput) : UInt64 :=
  let source := input.source
  [source.mapEpoch, source.deviceEpoch, source.frameSerial, source.sourceFrameSerial,
    source.evidenceFrameSerial, source.policyRevision, source.stageGeneration,
    source.currentDrawSourceGeneration, source.immutableModelGeneration, source.packageGeneration,
    source.packageContentHash, source.geosetDataIdentity, source.storeInstanceAuthority,
    source.frozenDescriptorIdentity, source.cacheSnapshotIdentity,
    source.catalogInstanceGeneration, source.catalogSnapshotRevision,
    source.packagePublicationRevision, source.packageCanonicalDigest, source.identityToken,
    source.sourceToken, source.materialToken, source.alphaToken, source.worldToken,
    source.boundsToken, source.packageSchema.toUInt64, source.packageLayoutGeneration.toUInt64,
    source.packagePrimitiveOrdinal.toUInt64, source.stage.toUInt64,
    source.captureComplete.toUInt64, source.exactCurrentAllocation.toUInt64,
    source.fresh.toUInt64, source.grace.toUInt64, source.rejected.toUInt64,
    input.recordIdentityToken, input.commandIdentityToken, input.commandPayloadDigest,
    input.ordinal.toUInt64, input.primitiveOrdinal.toUInt64,
    input.consumerMask.toUInt64].foldl mixDigest (mixContext digest input.context)

/-! ## Validity -/

/-- `validContext`. -/
def validContext (context : RecordingContext) : Bool :=
  context.mapEpoch ≠ 0 && context.deviceEpoch ≠ 0 && context.frameSerial ≠ 0 &&
    context.policyRevision ≠ 0 && context.stageGeneration ≠ 0 &&
    context.recordingOwnerToken ≠ 0 && context.recordingSessionGeneration ≠ 0 &&
    context.commandListGeneration ≠ 0 && context.emitCsSerial ≠ 0 &&
    context.canonicalBatchToken ≠ 0 && context.ownerSubmissionSerial ≠ 0 &&
    context.stage = ProofCatalog.kRequiredStage

/-- `sameContext`. -/
def sameContext (lhs rhs : RecordingContext) : Bool := lhs = rhs

/-- `packageKey`. -/
def packageKey (source : CurrentStageSource) : ProofCatalog.Key :=
  ⟨source.packageSchema, source.mapEpoch, source.deviceEpoch, source.packageGeneration,
    source.immutableModelGeneration, source.geosetDataIdentity, source.packageContentHash,
    source.packageLayoutGeneration, source.packagePrimitiveOrdinal⟩

def decisionTuple (source : CurrentStageSource) (snapshot : ProofCatalog.Snapshot) :
    ProofCatalog.DecisionTuple :=
  ⟨packageKey source, snapshot.instanceGeneration, snapshot.revision, source.frameSerial,
    source.policyRevision, source.stage, source.identityToken, source.sourceToken,
    source.currentDrawSourceGeneration, source.materialToken, source.alphaToken,
    source.worldToken, source.boundsToken⟩

def sourceInContext (source : CurrentStageSource) (context : RecordingContext) : Bool :=
  source.mapEpoch = context.mapEpoch && source.deviceEpoch = context.deviceEpoch &&
    source.frameSerial = context.frameSerial && source.sourceFrameSerial = context.frameSerial &&
    source.evidenceFrameSerial = context.frameSerial &&
    source.policyRevision = context.policyRevision &&
    source.stageGeneration = context.stageGeneration && source.stage = context.stage &&
    source.stage = ProofCatalog.kRequiredStage && source.currentDrawSourceGeneration ≠ 0 &&
    source.immutableModelGeneration ≠ 0 && source.packageGeneration ≠ 0 &&
    source.packageContentHash ≠ 0 && source.geosetDataIdentity ≠ 0 &&
    source.storeInstanceAuthority ≠ 0 && source.frozenDescriptorIdentity ≠ 0 &&
    source.cacheSnapshotIdentity ≠ 0 && source.catalogSnapshot.isSome &&
    source.catalogInstanceGeneration ≠ 0 && source.catalogSnapshotRevision ≠ 0 &&
    source.packagePublicationRevision ≠ 0 && source.packageCanonicalDigest ≠ 0 &&
    source.identityToken ≠ 0 && source.sourceToken ≠ 0 && source.materialToken ≠ 0 &&
    source.alphaToken ≠ 0 && source.worldToken ≠ 0 && source.boundsToken ≠ 0 &&
    source.packageSchema ≠ 0 && source.packageLayoutGeneration ≠ 0 &&
    source.packagePrimitiveOrdinal = kGrantedPrimitiveOrdinal && source.captureComplete &&
    source.exactCurrentAllocation && source.fresh && !source.grace && !source.rejected

/-- The decision of a source is ready, and about the source and its snapshot. -/
def decisionOfSource (source : CurrentStageSource) (snapshot : ProofCatalog.Snapshot) : Bool :=
  let decision := source.packageContentDecision
  snapshot.instanceGeneration = source.catalogInstanceGeneration &&
    snapshot.revision = source.catalogSnapshotRevision && decision.ready &&
    decision.reason = .ready &&
    decision.catalogInstanceGeneration = source.catalogInstanceGeneration &&
    decision.catalogSnapshotRevision = source.catalogSnapshotRevision &&
    decision.publicationRevision = source.packagePublicationRevision &&
    decision.canonicalDigest = source.packageCanonicalDigest &&
    decision.agrees (decisionTuple source snapshot)

def entryOfSource (source : CurrentStageSource) (snapshot : ProofCatalog.Snapshot) : Bool :=
  (snapshot.find (packageKey source)).any fun entry =>
    entry.value.state = .uploadCompleted &&
      entry.value.publicationRevision = source.packagePublicationRevision &&
      entry.value.canonicalDigest = source.packageCanonicalDigest

variable (deref : ℕ → ProofCatalog.Snapshot)

/-- `validCurrentStageSource`. -/
def validCurrentStageSource (source : CurrentStageSource) (context : RecordingContext) : Bool :=
  match source.catalogSnapshot with
  | none => false
  | some snapshot =>
    sourceInContext source context && decisionOfSource source (deref snapshot) &&
      entryOfSource source (deref snapshot)

def sameDecision (lhs rhs : ProofCatalog.PackageContentDecision) : Bool :=
  lhs.ready = rhs.ready && lhs.reason = rhs.reason &&
    lhs.catalogInstanceGeneration = rhs.catalogInstanceGeneration &&
    lhs.catalogSnapshotRevision = rhs.catalogSnapshotRevision &&
    lhs.publicationRevision = rhs.publicationRevision && lhs.canonicalDigest = rhs.canonicalDigest

/-- `sameCurrentStageSource`. -/
def sameCurrentStageSource (lhs rhs : CurrentStageSource) : Bool :=
  { lhs with packageContentDecision := rhs.packageContentDecision } = rhs &&
    sameDecision lhs.packageContentDecision rhs.packageContentDecision

/-- `sameRecordInput`. -/
def sameRecordInput (lhs rhs : RecordInput) : Bool :=
  sameContext lhs.context rhs.context && sameCurrentStageSource lhs.source rhs.source &&
    lhs.recordIdentityToken = rhs.recordIdentityToken &&
    lhs.commandIdentityToken = rhs.commandIdentityToken &&
    lhs.commandPayloadDigest = rhs.commandPayloadDigest && lhs.ordinal = rhs.ordinal &&
    lhs.primitiveOrdinal = rhs.primitiveOrdinal && lhs.consumerMask = rhs.consumerMask

/-- The source of a record is valid in a context, and its tokens are there. -/
def validRecord (context : RecordingContext) (record : RecordInput) : Bool :=
  validCurrentStageSource deref record.source context && record.recordIdentityToken ≠ 0 &&
    record.commandIdentityToken ≠ 0 && record.commandPayloadDigest ≠ 0 &&
    record.primitiveOrdinal = kGrantedPrimitiveOrdinal &&
    record.primitiveOrdinal = record.source.packagePrimitiveOrdinal && record.consumerMask ≠ 0 &&
    record.consumerMask &&& ~~~kKnownConsumerMask = 0

/-- The digest of records from an ordinal on, if all of them are valid and in their places. -/
def planDigest (context : RecordingContext) : ℕ → UInt64 → List RecordInput → Option UInt64
  | _, digest, [] => some digest
  | ordinal, digest, record :: rest =>
    if sameContext record.context context && validRecord deref context record &&
        record.ordinal.toNat = ordinal then
      planDigest context (ordinal + 1) (appendRecordDigest digest record) rest
    else none

/-- `validExpectedPlan`, and the same of the plan that was retained. -/
def validPlan (plan : CreateInput) : Bool :=
  plan.expectedRecordCount ≠ 0 && plan.expectedRecordCount ≤ kMaxRecords &&
    plan.expectedRecordDigest ≠ 0 &&
    plan.expectedRecords.length = plan.expectedRecordCount.toNat &&
    planDigest deref plan.context 0 (beginRecordDigest plan.context plan.expectedRecordCount)
      plan.expectedRecords = some plan.expectedRecordDigest

end RecordingAuthority

structure RecordingAuthority where
  /-- `m_state`. -/
  phase : RecordingAuthority.Phase
  instanceGeneration : UInt64
  nextTransactionGeneration : UInt64
  transactionGeneration : UInt64
  nextSealGeneration : UInt64
  sealGeneration : UInt64
  boundRecordingOwnerToken : UInt64
  lastOwnerSubmissionSerial : UInt64
  recordDigest : UInt64
  recordCount : UInt32
  plan : RecordingAuthority.CreateInput
  ownerThread : Option ℕ

namespace RecordingAuthority

variable (deref : ℕ → ProofCatalog.Snapshot)

def init (instanceGeneration : UInt64) : RecordingAuthority where
  phase := if instanceGeneration = 0 then .exhausted else .idle
  instanceGeneration := instanceGeneration
  nextTransactionGeneration := 1
  transactionGeneration := 0
  nextSealGeneration := 1
  sealGeneration := 0
  boundRecordingOwnerToken := 0
  lastOwnerSubmissionSerial := 0
  recordDigest := 0
  recordCount := 0
  plan := ⟨⟨0, 0, 0, 0, 0, 0, 0, 0, 0, 0, 0, 0⟩, [], 0, 0⟩
  ownerThread := none

/-- `m_expectedRecords.clear`. -/
def clearPlan (s : RecordingAuthority) : RecordingAuthority :=
  { s with plan := { s.plan with expectedRecords := [] } }

/-- `failCurrentLocked`. -/
def failCurrent (s : RecordingAuthority) : RecordingAuthority :=
  if s.phase = .recording || s.phase = .sealed then { s.clearPlan with phase := .aborted } else s

/-- `exactTicketLocked`. -/
def exactTicket (ticket : TransactionTicket) (s : RecordingAuthority) : Bool :=
  ticket.instanceGeneration = s.instanceGeneration &&
    ticket.transactionGeneration = s.transactionGeneration

/-- `validRetainedPlanLocked`. -/
def validRetainedPlan (context : RecordingContext) (s : RecordingAuthority) : Bool :=
  sameContext context s.plan.context && validPlan deref { s.plan with context := context }

def generationsUsed (s : RecordingAuthority) : Bool :=
  s.phase = .exhausted || s.instanceGeneration = 0 || s.nextTransactionGeneration = 0 ||
    s.nextTransactionGeneration = 0xffffffffffffffff

def currentTicket (s : RecordingAuthority) : TransactionTicket :=
  ⟨s.instanceGeneration, s.transactionGeneration⟩

def wrongOwner (thread : ℕ) (token : UInt64) (s : RecordingAuthority) : Bool :=
  s.ownerThread.isSome && (s.ownerThread ≠ some thread || token ≠ s.boundRecordingOwnerToken)

def openTransaction (thread : ℕ) (input : CreateInput) (s : RecordingAuthority) :
    RecordingAuthority :=
  { s with
    phase := .recording
    transactionGeneration := s.nextTransactionGeneration
    nextTransactionGeneration := s.nextTransactionGeneration + 1
    sealGeneration := 0
    lastOwnerSubmissionSerial := input.context.ownerSubmissionSerial
    plan := input
    boundRecordingOwnerToken := if s.ownerThread.isSome then s.boundRecordingOwnerToken
      else input.context.recordingOwnerToken
    ownerThread := if s.ownerThread.isSome then s.ownerThread else some thread
    recordCount := 0
    recordDigest := beginRecordDigest input.context input.expectedRecordCount }

/-- `create`. -/
def create (thread : ℕ) (allocates : Bool) (input : CreateInput) (s : RecordingAuthority) :
    CreateResult × TransactionTicket × RecordingAuthority :=
  if s.generationsUsed then (.generationExhausted, ⟨0, 0⟩, { s with phase := .exhausted })
  else if s.phase = .recording || s.phase = .sealed || s.phase = .emitting then (.busy, ⟨0, 0⟩, s)
  else if !validContext input.context then (.invalidContext, ⟨0, 0⟩, s)
  else if !validPlan deref input then (.invalidExpectedBatch, ⟨0, 0⟩, s)
  else if s.wrongOwner thread input.context.recordingOwnerToken then
    (.wrongRecordingOwner, ⟨0, 0⟩, s)
  else if input.context.ownerSubmissionSerial ≤ s.lastOwnerSubmissionSerial then
    (.staleOwnerSubmission, ⟨0, 0⟩, s)
  else if !allocates then (.allocationFailed, ⟨0, 0⟩, s)
  else
    let s := s.openTransaction thread input
    (.created, s.currentTicket, s)

/-- `record`. -/
def record (thread : ℕ) (ticket : TransactionTicket) (input : RecordInput) (s : RecordingAuthority) :
    RecordResult × RecordingAuthority :=
  if !ticket.valid then (.invalidTicket, s)
  else if !s.exactTicket ticket then (.staleTicket, s)
  else if s.phase ≠ .recording then (.notRecording, s.failCurrent)
  else if s.ownerThread ≠ some thread then (.wrongOwnerThread, s.failCurrent)
  else if !sameContext input.context s.plan.context then (.contextMismatch, s.failCurrent)
  else if !validRecord deref s.plan.context input then (.invalidCurrentStageSource, s.failCurrent)
  else if s.recordCount ≥ kMaxRecords || s.recordCount ≥ s.plan.expectedRecordCount then
    (.recordCapacityExceeded, s.failCurrent)
  else if input.ordinal ≠ s.recordCount then (.ordinalMismatch, s.failCurrent)
  else if !(s.plan.expectedRecords[s.recordCount.toNat]?).any (sameRecordInput input) then
    (.expectedRecordMismatch, s.failCurrent)
  else
    (.recorded, { s with
      recordDigest := appendRecordDigest s.recordDigest input, recordCount := s.recordCount + 1 })

def sealedTicket (s : RecordingAuthority) : SealedTicket :=
  ⟨s.currentTicket, s.sealGeneration, s.recordCount, s.recordDigest⟩

def SealedTicket.none : SealedTicket := ⟨⟨0, 0⟩, 0, 0, 0⟩

/-- `seal`. -/
def sealTransaction (thread : ℕ) (ticket : TransactionTicket) (context : RecordingContext)
    (s : RecordingAuthority) : SealResult × SealedTicket × RecordingAuthority :=
  if !ticket.valid then (.invalidTicket, .none, s)
  else if !s.exactTicket ticket then (.staleTicket, .none, s)
  else if s.phase ≠ .recording then (.notRecording, .none, s.failCurrent)
  else if s.ownerThread ≠ some thread then (.wrongOwnerThread, .none, s.failCurrent)
  else if !sameContext context s.plan.context then (.contextMismatch, .none, s.failCurrent)
  else if s.recordCount ≠ s.plan.expectedRecordCount then (.incompleteBatch, .none, s.failCurrent)
  else if s.recordDigest ≠ s.plan.expectedRecordDigest then (.digestMismatch, .none, s.failCurrent)
  else if !s.validRetainedPlan deref context then (.retainedPlanMismatch, .none, s.failCurrent)
  else if s.nextSealGeneration = 0 || s.nextSealGeneration = 0xffffffffffffffff then
    (.generationExhausted, .none, { s.clearPlan with phase := .exhausted })
  else
    let s := { s with
      phase := .sealed
      sealGeneration := s.nextSealGeneration
      nextSealGeneration := s.nextSealGeneration + 1 }
    (.sealed, s.sealedTicket, s)

def viewOf (s : RecordingAuthority) : SealedBatchView :=
  ⟨s.plan.context, s.instanceGeneration, s.transactionGeneration, s.sealGeneration, s.recordDigest,
    s.recordCount, s.plan.expectedRecords.take s.recordCount.toNat⟩

/-- `emitSealed` up to the callback: why there is none, or what it is shown. -/
def emitSealed (thread : ℕ) (ticket : SealedTicket) (context : RecordingContext) (callback : Bool)
    (s : RecordingAuthority) : Except EmitResult SealedBatchView × RecordingAuthority :=
  if !ticket.valid then (.error .invalidTicket, s)
  else if !s.exactTicket ticket.transaction then (.error .staleTicket, s)
  else if s.phase = .emitting then (.error .emitInProgress, s)
  else if s.phase = .emitted || s.phase = .aborted || s.phase = .exhausted then
    (.error .alreadyTerminal, s)
  else if s.phase ≠ .sealed then (.error .notSealed, s)
  else if ticket.sealGeneration ≠ s.sealGeneration || ticket.recordCount ≠ s.recordCount ||
      ticket.recordDigest ≠ s.recordDigest then
    (.error .sealedProofMismatch, s.failCurrent)
  else if s.ownerThread ≠ some thread then (.error .wrongOwnerThread, s.failCurrent)
  else if !sameContext context s.plan.context then (.error .contextMismatch, s.failCurrent)
  else if !s.validRetainedPlan deref context || s.recordCount ≠ s.plan.expectedRecordCount ||
      s.plan.expectedRecords.isEmpty then
    (.error .immutablePlanMismatch, s.failCurrent)
  else if !callback then (.error .missingCallback, s.failCurrent)
  else (.ok s.viewOf, { s with phase := .emitting })

/-- `emitSealed` after the callback. -/
def callbackReturns (succeeded : Bool) (s : RecordingAuthority) : EmitResult × RecordingAuthority :=
  if s.phase ≠ .emitting then (.callbackFailed, { s.clearPlan with phase := .aborted })
  else if !succeeded then (.callbackFailed, { s.clearPlan with phase := .aborted })
  else (.emitted, { s.clearPlan with phase := .emitted })

/-- `abortLocked`. -/
def abort (ticket : TransactionTicket) (s : RecordingAuthority) : AbortResult × RecordingAuthority :=
  if ticket.instanceGeneration = 0 || ticket.transactionGeneration = 0 then (.invalidTicket, s)
  else if !s.exactTicket ticket then (.staleTicket, s)
  else if s.phase = .emitting then (.emitInProgress, s)
  else if s.phase = .emitted || s.phase = .aborted || s.phase = .exhausted || s.phase = .idle then
    (.alreadyTerminal, s)
  else (.aborted, { s.clearPlan with phase := .aborted })

end RecordingAuthority

/-! ## Calls -/

namespace RecordingAuthority

/-- The calls of an authority, from any thread, also from inside a callback. -/
inductive AuthorityCall
  | create (thread : ℕ) (allocates : Bool) (input : CreateInput)
  | record (thread : ℕ) (ticket : TransactionTicket) (input : RecordInput)
  | sealTransaction (thread : ℕ) (ticket : TransactionTicket) (context : RecordingContext)
  | emitSealed (thread : ℕ) (ticket : SealedTicket) (context : RecordingContext) (callback : Bool)
  | callbackReturns (succeeded : Bool)
  | abort (ticket : TransactionTicket)
  | abortSealed (ticket : SealedTicket)
  deriving DecidableEq

inductive AuthorityOutput
  | create (result : CreateResult) (ticket : TransactionTicket)
  | record (result : RecordResult)
  | sealTransaction (result : SealResult) (ticket : SealedTicket)
  | emit (result : EmitResult)
  | calls (view : SealedBatchView)
  | abort (result : AbortResult)
  | idle
  deriving DecidableEq

abbrev Emitting := RecordingAuthority × ℕ

variable (deref : ℕ → ProofCatalog.Snapshot)

def authorityStep (call : AuthorityCall) (t : Emitting) : AuthorityOutput × Emitting :=
  let (s, running) := t
  match call with
  | .create thread allocates input =>
    let (result, ticket, s) := create deref thread allocates input s
    (.create result ticket, s, running)
  | .record thread ticket input =>
    let (result, s) := record deref thread ticket input s
    (.record result, s, running)
  | .sealTransaction thread ticket context =>
    let (result, ticket, s) := sealTransaction deref thread ticket context s
    (.sealTransaction result ticket, s, running)
  | .emitSealed thread ticket context callback =>
    match emitSealed deref thread ticket context callback s with
    | (.error result, s) => (.emit result, s, running)
    | (.ok view, s) => (.calls view, s, running + 1)
  | .callbackReturns succeeded =>
    if running = 0 then (.idle, s, 0)
    else
      let (result, s) := callbackReturns succeeded s
      (.emit result, s, running - 1)
  | .abort ticket =>
    let (result, s) := abort ticket s
    (.abort result, s, running)
  | .abortSealed ticket =>
    let (result, s) := abort ticket.transaction s
    (.abort result, s, running)

end RecordingAuthority

end War3VK.GpuSkin
