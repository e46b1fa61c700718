import War3VK.GpuSkin.ProofCatalogRuns

/-!
# The observer of package candidates

`War3PersistentGpuPackageObserver`: a table of one frame with the candidates that were sealed, how
far each is proven, which consumers it was requested for and which of them really drew it. The
observer gives the requested consumers back as they are and keeps counters as it goes. The key of a
frame, the generations and the tokens of a draw, which several records of the source repeat, are
structures of their own; a `float` is its bits.
-/

namespace War3VK.GpuSkin

open ProofCatalog

namespace PackageObserver

/-- `kRequiredStage`. -/
def kRequiredStage : UInt32 := 11

/-- `kCapacity`. -/
def kCapacity : ℕ := 4096

/-- `kKnownConsumerMask`: the main pass, four cascades, the point shadow and the outline. -/
def kKnownConsumerMask : UInt32 := 0x7f

/-- `Mode`, which may be a byte that means nothing. -/
inductive Mode
  | off
  | observe
  | consume
  | unsupported (byte : UInt8)
  deriving DecidableEq, Repr

/-- `ProofState`. -/
inductive ProofState
  | identityOnly
  | contentPending
  | packageInputReady
  | fullyEquivalent
  | rejected
  deriving DecidableEq, Repr

/-- `Disposition`. -/
inductive Disposition
  | recorded
  | modeOff
  | unsupportedMode
  | consumeNotAdmitted
  | invalidFrameContext
  | invalidConsumerMask
  | frameMismatch
  | policyMismatch
  | stageMismatch
  | generationMismatch
  | nonFiniteBounds
  | deferredBudget
  | deferredCapacity
  deriving DecidableEq, Repr

structure FrameKey where
  frameSerial : UInt64
  policyRevision : UInt64
  stage : UInt32
  mapEpoch : UInt64
  deviceEpoch : UInt64
  catalogInstanceGeneration : UInt64
  catalogSnapshotRevision : UInt64
  deriving DecidableEq, Repr

structure Generations where
  packageGeneration : UInt64
  immutableModelGeneration : UInt64
  currentDrawSourceGeneration : UInt64
  deriving DecidableEq, Repr

structure DrawTokens where
  identityToken : UInt64
  sourceToken : UInt64
  materialToken : UInt64
  alphaToken : UInt64
  worldToken : UInt64
  boundsToken : UInt64
  deriving DecidableEq, Repr

/-- `FrameContext`. -/
structure FrameContext where
  requestedMode : Mode
  frame : FrameKey
  /-- The work of the frame, which the observer must not change. -/
  canonicalWorkload : UInt64
  observationBudget : ℕ
  deriving DecidableEq, Repr

abbrev CatalogDecision := { decision : PackageContentDecision //
  ∃ catalog context evidence, decision = validateDrawEvidence catalog context evidence }

/-- `SealInput`. -/
structure SealInput where
  frame : FrameKey
  generations : Generations
  packageKey : Key
  packageContentDecision : CatalogDecision
  tokens : DrawTokens
  requestedConsumerMask : UInt32
  bounds : LocalBounds
  identityKnown : Bool
  identityExact : Bool
  sourceKnown : Bool
  sourceExact : Bool
  materialKnown : Bool
  materialExact : Bool
  alphaKnown : Bool
  alphaExact : Bool
  worldKnown : Bool
  worldExact : Bool
  boundsKnown : Bool
  boundsExact : Bool
  staticRigidProven : Bool
  isDynamic : Bool
  skinned : Bool

/-- `Entry`. -/
structure Entry where
  frame : FrameKey
  /-- The revision of the catalog's entry, when the decision is bound. -/
  packagePublicationRevision : UInt64
  packageCanonicalDigest : UInt64
  packageDecisionReason : Reason
  generations : Generations
  packageKey : Key
  tokens : DrawTokens
  requestedConsumerMask : UInt32
  eligibleConsumerMask : UInt32
  wouldUseConsumerMask : UInt32
  actualConsumerMask : UInt32
  proofState : ProofState
  disposition : Disposition
  packageDecisionBound : Bool
  deriving DecidableEq, Repr

/-- `ActualConsumerNote`. -/
structure ActualConsumerNote where
  tableIndex : ℕ
  frame : FrameKey
  generations : Generations
  packageKey : Key
  tokens : DrawTokens
  consumerBit : UInt32
  deriving DecidableEq, Repr

/-- `ActualNoteResult`. -/
inductive ActualNoteResult
  | recorded
  | duplicate
  | modeOff
  | consumeNotAdmitted
  | invalidEntry
  | contextMismatch
  | generationMismatch
  | entryMismatch
  | unknownConsumerBit
  | consumerNotRequested
  deriving DecidableEq, Repr

/-- `BeginDecision`. -/
structure BeginDecision where
  requestedMode : Mode
  effectiveMode : Mode
  disposition : Disposition
  canonicalWorkload : UInt64
  deriving DecidableEq, Repr

/-- `SealDecision`. The source also has three permissions, which it never grants. -/
structure SealDecision where
  proofState : ProofState
  disposition : Disposition
  requestedConsumerMask : UInt32
  effectiveConsumerMask : UInt32
  eligibleConsumerMask : UInt32
  wouldUseConsumerMask : UInt32
  actualConsumerMask : UInt32
  tableIndex : ℕ
  recorded : Bool
  deriving DecidableEq, Repr

/-- `Diagnostics`. -/
structure Diagnostics where
  requestedMode : Mode
  effectiveMode : Mode
  beginDisposition : Disposition
  canonicalWorkload : UInt64
  /-- Calls of `seal`. -/
  sealCalls : UInt64
  recorded : UInt64
  identityOnly : UInt64
  contentPending : UInt64
  packageInputReady : UInt64
  fullyEquivalent : UInt64
  /-- Entries whose ready decision is about another candidate. -/
  packageDecisionBindingMismatch : UInt64
  rejected : UInt64
  /-- Candidates that were one too many for the budget. -/
  deferredBudget : UInt64
  /-- Candidates that were one too many for the table. -/
  deferredCapacity : UInt64
  eligibleEntries : UInt64
  eligibleConsumerMaskOr : UInt32
  /-- Entries that some consumer could use and drew. -/
  wouldUseEntries : UInt64
  wouldUseConsumerMaskOr : UInt32
  actualConsumerEntries : UInt64
  actualConsumerBits : UInt64
  actualConsumerMaskOr : UInt32
  /-- Calls of `noteActualConsumer`. -/
  actualNoteCalls : UInt64
  actualNotesRecorded : UInt64
  actualNotesDuplicate : UInt64
  actualNotesRejected : UInt64
  deriving DecidableEq, Repr

/-- `Diagnostics{}` in a frame. -/
def Diagnostics.ofBegin (decision : BeginDecision) : Diagnostics where
  requestedMode := decision.requestedMode
  effectiveMode := decision.effectiveMode
  beginDisposition := decision.disposition
  canonicalWorkload := decision.canonicalWorkload
  sealCalls := 0
  recorded := 0
  identityOnly := 0
  contentPending := 0
  packageInputReady := 0
  fullyEquivalent := 0
  packageDecisionBindingMismatch := 0
  rejected := 0
  deferredBudget := 0
  deferredCapacity := 0
  eligibleEntries := 0
  eligibleConsumerMaskOr := 0
  wouldUseEntries := 0
  wouldUseConsumerMaskOr := 0
  actualConsumerEntries := 0
  actualConsumerBits := 0
  actualConsumerMaskOr := 0
  actualNoteCalls := 0
  actualNotesRecorded := 0
  actualNotesDuplicate := 0
  actualNotesRejected := 0

end PackageObserver

/-- An observer: the first `m_size` entries of its table are the list. -/
structure PackageObserver where
  /-- `m_entries`, as far as they are of this frame. -/
  entries : List PackageObserver.Entry
  context : PackageObserver.FrameContext
  diagnostics : PackageObserver.Diagnostics
  budget : ℕ

namespace PackageObserver

/-! ## Checks -/

/-- `isValidFrameContext`. -/
def isValidFrameContext (context : FrameContext) : Bool :=
  context.frame.frameSerial ≠ 0 && context.frame.policyRevision ≠ 0 &&
    context.frame.stage = kRequiredStage && context.frame.mapEpoch ≠ 0 &&
    context.frame.deviceEpoch ≠ 0 && context.frame.catalogInstanceGeneration ≠ 0 &&
    context.frame.catalogSnapshotRevision ≠ 0

/-- `<=` of floats. -/
def floatLe (a b : UInt32) : Bool := !isNan a && !isNan b && floatRank a ≤ floatRank b

/-- `isFiniteBounds`. -/
def isFiniteBounds (bounds : LocalBounds) : Bool :=
  isFinite bounds.minX && isFinite bounds.minY && isFinite bounds.minZ && isFinite bounds.maxX &&
    isFinite bounds.maxY && isFinite bounds.maxZ && floatLe bounds.minX bounds.maxX &&
    floatLe bounds.minY bounds.maxY && floatLe bounds.minZ bounds.maxZ

/-- `exactFrameKey`. -/
def exactFrameKey (context : FrameContext) (input : SealInput) : Bool :=
  input.frame = context.frame

def tupleOf (frame : FrameKey) (generations : Generations) (packageKey : Key) (tokens : DrawTokens) :
    DecisionTuple where
  key := packageKey
  catalogInstanceGeneration := frame.catalogInstanceGeneration
  catalogSnapshotRevision := frame.catalogSnapshotRevision
  frameSerial := frame.frameSerial
  policyRevision := frame.policyRevision
  stage := frame.stage
  identityToken := tokens.identityToken
  sourceToken := tokens.sourceToken
  currentDrawSourceGeneration := generations.currentDrawSourceGeneration
  materialToken := tokens.materialToken
  alphaToken := tokens.alphaToken
  worldToken := tokens.worldToken
  boundsToken := tokens.boundsToken

/-- `exactPackageDecision`. -/
def exactPackageDecision (input : SealInput) : Bool :=
  input.generations.packageGeneration ≠ 0 && input.generations.immutableModelGeneration ≠ 0 &&
    input.generations.currentDrawSourceGeneration ≠ 0 &&
    input.packageKey.mapEpoch = input.frame.mapEpoch &&
    input.packageKey.deviceEpoch = input.frame.deviceEpoch &&
    input.packageKey.packageGeneration = input.generations.packageGeneration &&
    input.packageKey.immutableModelGeneration = input.generations.immutableModelGeneration &&
    input.packageContentDecision.val.agrees
      (tupleOf input.frame input.generations input.packageKey input.tokens)

/-- `isKnownSingleConsumerBit`. -/
def isKnownSingleConsumerBit (consumerBit : UInt32) : Bool :=
  consumerBit ≠ 0 && consumerBit &&& (consumerBit - 1) = 0 &&
    consumerBit &&& ~~~kKnownConsumerMask = 0

/-- `classify`. -/
def classify (input : SealInput) : ProofState :=
  if !input.identityKnown || !input.identityExact || input.tokens.identityToken = 0 then
    .identityOnly
  else if !input.sourceKnown || !input.sourceExact || input.tokens.sourceToken = 0 ||
      !exactPackageDecision input then
    .contentPending
  else
    let exactMaterial :=
      input.materialKnown && input.materialExact && input.tokens.materialToken ≠ 0
    let exactAlpha := input.alphaKnown && input.alphaExact && input.tokens.alphaToken ≠ 0
    let exactWorld := input.worldKnown && input.worldExact && input.tokens.worldToken ≠ 0
    let exactBounds := input.boundsKnown && input.boundsExact && input.tokens.boundsToken ≠ 0
    if input.isDynamic || input.skinned || !input.staticRigidProven || !exactMaterial ||
        !exactAlpha || !exactWorld || !exactBounds then
      .packageInputReady
    else .fullyEquivalent

/-! ## Counters -/

theorem and_sub_one_lt {bits : UInt32} (h : bits ≠ 0) : (bits &&& (bits - 1)).toNat < bits.toNat := by
  have hpos : bits.toNat ≠ 0 := fun hzero => h (UInt32.toNat_inj.mp hzero)
  have hle : (bits &&& (bits - 1)).toNat ≤ (bits - 1).toNat := by
    rw [UInt32.toNat_and]
    exact Nat.and_le_right
  have hone : (1 : UInt32) ≤ bits := UInt32.le_iff_toNat_le.mpr (Nat.one_le_iff_ne_zero.mpr hpos)
  rw [UInt32.toNat_sub_of_le _ _ hone] at hle
  simp only [UInt32.toNat_one] at hle
  omega

/-- The loop over the bits of a mask, which takes the lowest one away in each turn. -/
def countBits (bits : UInt32) (count : UInt64) : UInt64 :=
  if h : bits = 0 then count else countBits (bits &&& (bits - 1)) (count + 1)
termination_by bits.toNat
decreasing_by exact and_sub_one_lt h

namespace Diagnostics

/-- `countState`. -/
def countState (state : ProofState) (d : Diagnostics) : Diagnostics :=
  match state with
  | .identityOnly => { d with identityOnly := d.identityOnly + 1 }
  | .contentPending => { d with contentPending := d.contentPending + 1 }
  | .packageInputReady => { d with packageInputReady := d.packageInputReady + 1 }
  | .fullyEquivalent => { d with fullyEquivalent := d.fullyEquivalent + 1 }
  | .rejected => { d with rejected := d.rejected + 1 }

/-- `countActualTransition`. -/
def countActualTransition (previousMask nextMask : UInt32) (d : Diagnostics) : Diagnostics :=
  let added := nextMask &&& ~~~previousMask
  if added = 0 then d
  else
    { d with
      actualConsumerEntries :=
        if previousMask = 0 then d.actualConsumerEntries + 1 else d.actualConsumerEntries
      actualConsumerMaskOr := d.actualConsumerMaskOr ||| added
      actualConsumerBits := countBits added d.actualConsumerBits }

/-- `countWouldUseTransition`. -/
def countWouldUseTransition (previousMask nextMask : UInt32) (d : Diagnostics) : Diagnostics :=
  let added := nextMask &&& ~~~previousMask
  if added = 0 then d
  else
    { d with
      wouldUseEntries := if previousMask = 0 then d.wouldUseEntries + 1 else d.wouldUseEntries
      wouldUseConsumerMaskOr := d.wouldUseConsumerMaskOr ||| added }

end Diagnostics

/-! ## The calls -/

def modeOf (context : FrameContext) : Mode × Disposition :=
  match context.requestedMode with
  | .unsupported _ => (.off, .unsupportedMode)
  | .consume => (.off, .consumeNotAdmitted)
  | .off => (.off, .modeOff)
  | .observe =>
    if !isValidFrameContext context then (.off, .invalidFrameContext) else (.observe, .recorded)

/-- `beginFrame`. -/
def beginFrame (context : FrameContext) (_ : PackageObserver) : BeginDecision × PackageObserver :=
  let decision : BeginDecision :=
    ⟨context.requestedMode, (modeOf context).1, (modeOf context).2, context.canonicalWorkload⟩
  (decision,
    { entries := []
      context := context
      diagnostics := .ofBegin decision
      budget := min context.observationBudget kCapacity })

/-- `makePassthroughDecision`. -/
def makePassthroughDecision (input : SealInput) (state : ProofState) (disposition : Disposition) :
    SealDecision where
  proofState := state
  disposition := disposition
  requestedConsumerMask := input.requestedConsumerMask
  effectiveConsumerMask := input.requestedConsumerMask
  eligibleConsumerMask := 0
  wouldUseConsumerMask := 0
  actualConsumerMask := 0
  tableIndex := kCapacity
  recorded := false

def entryOf (input : SealInput) (state : ProofState) (disposition : Disposition) : Entry :=
  let packageDecisionBound := exactPackageDecision input
  let decision := input.packageContentDecision.val
  let eligible := if state = .fullyEquivalent then input.requestedConsumerMask else 0
  { frame := input.frame
    packagePublicationRevision := if packageDecisionBound then decision.publicationRevision else 0
    packageCanonicalDigest := if packageDecisionBound then decision.canonicalDigest else 0
    packageDecisionReason := decision.reason
    generations := input.generations
    packageKey := input.packageKey
    tokens := input.tokens
    requestedConsumerMask := input.requestedConsumerMask
    eligibleConsumerMask := eligible
    wouldUseConsumerMask := eligible &&& 0
    actualConsumerMask := 0
    proofState := state
    disposition := disposition
    packageDecisionBound := packageDecisionBound }

/-- `append`. -/
def append (input : SealInput) (state : ProofState) (disposition : Disposition)
    (s : PackageObserver) : SealDecision × PackageObserver :=
  let target := entryOf input state disposition
  let decision : SealDecision :=
    { makePassthroughDecision input state disposition with
      tableIndex := s.entries.length
      recorded := true
      eligibleConsumerMask := target.eligibleConsumerMask
      wouldUseConsumerMask := target.wouldUseConsumerMask
      actualConsumerMask := target.actualConsumerMask }
  let d := s.diagnostics
  let d := if input.packageContentDecision.val.ready && !target.packageDecisionBound then
    { d with packageDecisionBindingMismatch := d.packageDecisionBindingMismatch + 1 } else d
  let d := Diagnostics.countState state { d with recorded := d.recorded + 1 }
  let d := if target.eligibleConsumerMask ≠ 0 then
    { d with
      eligibleEntries := d.eligibleEntries + 1
      eligibleConsumerMaskOr := d.eligibleConsumerMaskOr ||| target.eligibleConsumerMask } else d
  let d := d.countWouldUseTransition 0 target.wouldUseConsumerMask
  let d := d.countActualTransition 0 target.actualConsumerMask
  (decision, { s with entries := s.entries ++ [target], diagnostics := d })

def judge (context : FrameContext) (input : SealInput) : ProofState × Disposition :=
  if input.requestedConsumerMask = 0 || input.requestedConsumerMask &&& ~~~kKnownConsumerMask ≠ 0 then
    (.rejected, .invalidConsumerMask)
  else if input.frame.frameSerial ≠ context.frame.frameSerial then (.rejected, .frameMismatch)
  else if input.frame.policyRevision ≠ context.frame.policyRevision then
    (.rejected, .policyMismatch)
  else if input.frame.stage ≠ context.frame.stage || input.frame.stage ≠ kRequiredStage then
    (.rejected, .stageMismatch)
  else if !exactFrameKey context input then (.rejected, .generationMismatch)
  else if input.boundsKnown && !isFiniteBounds input.bounds then (.rejected, .nonFiniteBounds)
  else (classify input, .recorded)

/-- `seal`. -/
def sealCandidate (input : SealInput) (s : PackageObserver) : SealDecision × PackageObserver :=
  let d := { s.diagnostics with sealCalls := s.diagnostics.sealCalls + 1 }
  let s := { s with diagnostics := d }
  if d.requestedMode = .consume then
    (makePassthroughDecision input .rejected .consumeNotAdmitted, s)
  else if d.beginDisposition = .unsupportedMode then
    (makePassthroughDecision input .rejected .unsupportedMode, s)
  else if d.beginDisposition = .invalidFrameContext then
    (makePassthroughDecision input .rejected .invalidFrameContext, s)
  else if d.effectiveMode ≠ .observe then
    (makePassthroughDecision input .rejected .modeOff, s)
  else if s.entries.length ≥ kCapacity then
    (makePassthroughDecision input .rejected .deferredCapacity,
      { s with diagnostics := { d with deferredCapacity := d.deferredCapacity + 1 } })
  else if s.entries.length ≥ s.budget then
    (makePassthroughDecision input .rejected .deferredBudget,
      { s with diagnostics := { d with deferredBudget := d.deferredBudget + 1 } })
  else
    let (state, disposition) := judge s.context input
    s.append input state disposition

def noteContext (context : FrameContext) (note : ActualConsumerNote) : Option ActualNoteResult :=
  if note.frame.frameSerial ≠ context.frame.frameSerial ||
      note.frame.policyRevision ≠ context.frame.policyRevision ||
      note.frame.stage ≠ context.frame.stage || note.frame.stage ≠ kRequiredStage ||
      note.frame.catalogInstanceGeneration ≠ context.frame.catalogInstanceGeneration ||
      note.frame.catalogSnapshotRevision ≠ context.frame.catalogSnapshotRevision then
    some .contextMismatch
  else if note.frame.mapEpoch ≠ context.frame.mapEpoch ||
      note.frame.deviceEpoch ≠ context.frame.deviceEpoch then
    some .generationMismatch
  else none

def noteEntry (target : Entry) (note : ActualConsumerNote) : Option ActualNoteResult :=
  if note.generations ≠ target.generations then some .generationMismatch
  else if note.frame ≠ target.frame || !sameKey note.packageKey target.packageKey ||
      note.tokens.identityToken = 0 || note.tokens ≠ target.tokens then
    some .entryMismatch
  else if target.requestedConsumerMask &&& note.consumerBit = 0 then some .consumerNotRequested
  else none

def Entry.note (consumerBit : UInt32) (target : Entry) : Entry :=
  { target with
    actualConsumerMask := target.actualConsumerMask ||| consumerBit
    wouldUseConsumerMask :=
      target.eligibleConsumerMask &&& (target.actualConsumerMask ||| consumerBit) }

def rejectNote (result : ActualNoteResult) (s : PackageObserver) :
    ActualNoteResult × PackageObserver :=
  (result, { s with diagnostics := { s.diagnostics with
    actualNotesRejected := s.diagnostics.actualNotesRejected + 1 } })

def noteTarget (tableIndex : ℕ) (consumerBit : UInt32) (target : Entry) (s : PackageObserver) :
    ActualNoteResult × PackageObserver :=
  let d := s.diagnostics
  if target.actualConsumerMask &&& consumerBit ≠ 0 then
    (.duplicate, { s with diagnostics :=
      { d with actualNotesDuplicate := d.actualNotesDuplicate + 1 } })
  else
    let noted := target.note consumerBit
    let d := d.countActualTransition target.actualConsumerMask noted.actualConsumerMask
    let d := d.countWouldUseTransition target.wouldUseConsumerMask noted.wouldUseConsumerMask
    (.recorded,
      { s with
        entries := s.entries.set tableIndex noted
        diagnostics := { d with actualNotesRecorded := d.actualNotesRecorded + 1 } })

/-- `noteActualConsumer`. -/
def noteActualConsumer (note : ActualConsumerNote) (s : PackageObserver) :
    ActualNoteResult × PackageObserver :=
  let d := { s.diagnostics with actualNoteCalls := s.diagnostics.actualNoteCalls + 1 }
  let s := { s with diagnostics := d }
  if d.requestedMode = .consume then s.rejectNote .consumeNotAdmitted
  else if d.effectiveMode ≠ .observe then s.rejectNote .modeOff
  else if !isKnownSingleConsumerBit note.consumerBit then s.rejectNote .unknownConsumerBit
  else
    match s.entries[note.tableIndex]? with
    | none => s.rejectNote .invalidEntry
    | some target =>
      match noteContext s.context note with
      | some result => s.rejectNote result
      | none =>
        match noteEntry target note with
        | some result => s.rejectNote result
        | none => s.noteTarget note.tableIndex note.consumerBit target

end PackageObserver

end War3VK.GpuSkin
