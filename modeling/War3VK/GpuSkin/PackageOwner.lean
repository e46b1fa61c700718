import Mathlib.Logic.Function.Basic
import Mathlib.Data.List.Pairwise
import War3VK.Lib.Machine

/-!
# The owner of package generations

`War3PersistentGpuPackageOwner` (`src/d3d9/war3/gpu_skin/war3_persistent_gpu_package_owner.cpp`): a
ledger of package generations, of the fence that their upload waits for and of the last use of their
consumers. A generation is reclaimed when its retirement was requested and both fences were observed to
have passed.
-/

namespace War3VK.GpuSkin.PackageOwner

open Lib

/-! ## The ledger -/

/-- `kKnownConsumerMask`: main, four cascades, point shadow and outline. -/
def kKnownConsumerMask : UInt32 := 127

/-- `GenerationKey`. -/
structure GenerationKey where
  mapEpoch : UInt64 := 0
  deviceEpoch : UInt64 := 0
  packageGeneration : UInt64 := 0
  deriving DecidableEq, Repr

/-- `FencePoint`. -/
structure FencePoint where
  fenceIdentity : UInt64 := 0
  value : UInt64 := 0
  deriving DecidableEq, Repr

/-- `FenceObservation`. -/
structure FenceObservation where
  fenceIdentity : UInt64 := 0
  completedValue : UInt64 := 0
  querySucceeded : Bool := false
  deriving DecidableEq, Repr

/-- `ConsumerLastUse`. -/
structure ConsumerLastUse where
  fence : FencePoint := {}
  consumerMask : UInt32 := 0
  submitSerial : UInt64 := 0
  deriving DecidableEq, Repr

/-- `GenerationRetirement`. -/
structure GenerationRetirement where
  key : GenerationKey := {}
  uploadFence : FencePoint := {}
  consumerLastUse : ConsumerLastUse := {}
  retirementSerial : UInt64 := 0
  retirementRequested : Bool := false
  deriving DecidableEq, Repr

/-- `MutationResult`. -/
inductive MutationResult
  | accepted
  | duplicate
  | invalid
  | notFound
  | generationMismatch
  | conflict
  | nonMonotonic
  | uploadProofMissing
  | consumerProofMissing
  | alreadyRetired
  deriving DecidableEq, Repr

/-- `ReclaimResult`. -/
inductive ReclaimResult
  | reclaimed
  | retainedNotFound
  | retainedGenerationMismatch
  | retainedEpochActive
  | retainedUploadProofMissing
  | retainedConsumerProofMissing
  | retainedObservationFailed
  | retainedObservationInvalid
  | retainedFenceMismatch
  | retainedUploadPending
  | retainedConsumerPending
  deriving DecidableEq, Repr

/-- `m_generations`. -/
abbrev Owner := UInt64 → Option GenerationRetirement

/-- `validateGenerationKey`. -/
def validateGenerationKey (key : GenerationKey) : Bool :=
  key.mapEpoch ≠ 0 && key.deviceEpoch ≠ 0 && key.packageGeneration ≠ 0

/-- `validateFencePoint`. -/
def validateFencePoint (point : FencePoint) : Bool := point.fenceIdentity ≠ 0 && point.value ≠ 0

/-- `validateConsumerLastUse`. -/
def validateConsumerLastUse (lastUse : ConsumerLastUse) : Bool :=
  validateFencePoint lastUse.fence && lastUse.consumerMask ≠ 0 &&
    lastUse.consumerMask &&& ~~~kKnownConsumerMask = 0 && lastUse.submitSerial ≠ 0

/-- `validateFenceObservation`. -/
def validateFenceObservation (observation : FenceObservation) : Bool :=
  observation.querySucceeded && observation.fenceIdentity ≠ 0 && observation.completedValue ≠ 0

/-! ## Its calls -/

namespace Owner

def find (key : GenerationKey) (owner : Owner) : Except MutationResult GenerationRetirement :=
  match owner key.packageGeneration with
  | none => .error .notFound
  | some found => if found.key = key then .ok found else .error .generationMismatch

def put (key : GenerationKey) (retirement : GenerationRetirement) (owner : Owner) : Owner :=
  Function.update owner key.packageGeneration (some retirement)

/-- `registerGeneration`. -/
def registerGeneration (key : GenerationKey) (owner : Owner) : MutationResult × Owner :=
  if !validateGenerationKey key then (.invalid, owner)
  else
    match owner key.packageGeneration with
    | some found => (if found.key = key then .duplicate else .generationMismatch, owner)
    | none => (.accepted, owner.put key { key })

/-- `publishUploadFence`. -/
def publishUploadFence (key : GenerationKey) (uploadFence : FencePoint) (owner : Owner) :
    MutationResult × Owner :=
  if !validateGenerationKey key || !validateFencePoint uploadFence then (.invalid, owner)
  else
    match owner.find key with
    | .error reason => (reason, owner)
    | .ok found =>
      if found.retirementRequested then (.alreadyRetired, owner)
      else if !validateFencePoint found.uploadFence then
        (.accepted, owner.put key { found with uploadFence })
      else if found.uploadFence = uploadFence then (.duplicate, owner)
      else (.conflict, owner)

/-- The end of `observeConsumerLastUseCandidate`, with the last use that is stored. -/
def admitLastUse (stored lastUse : ConsumerLastUse) : MutationResult :=
  if !validateConsumerLastUse stored then .accepted
  else if stored.fence.fenceIdentity ≠ lastUse.fence.fenceIdentity then .conflict
  else if stored.submitSerial = lastUse.submitSerial && stored.fence.value = lastUse.fence.value then
    if stored.consumerMask ||| lastUse.consumerMask = stored.consumerMask then .duplicate
    else .accepted
  else if lastUse.submitSerial ≤ stored.submitSerial || lastUse.fence.value ≤ stored.fence.value then
    .nonMonotonic
  else .accepted

/-- `observeConsumerLastUseCandidate`, with the generation if there is one. -/
def observeConsumerLastUseCandidate (key : GenerationKey) (lastUse : ConsumerLastUse)
    (owner : Owner) : MutationResult :=
  if !validateGenerationKey key || !validateConsumerLastUse lastUse then .invalid
  else
    match owner.find key with
    | .error reason => reason
    | .ok found =>
      if found.retirementRequested then .alreadyRetired
      else admitLastUse found.consumerLastUse lastUse

/-- The last use that `publishConsumerLastUse` stores, from the one that is stored. -/
def mergeLastUse (stored lastUse : ConsumerLastUse) : ConsumerLastUse :=
  if !validateConsumerLastUse stored then lastUse
  else if stored.submitSerial = lastUse.submitSerial && stored.fence.value = lastUse.fence.value then
    { stored with consumerMask := stored.consumerMask ||| lastUse.consumerMask }
  else
    { fence := lastUse.fence
      consumerMask := stored.consumerMask ||| lastUse.consumerMask
      submitSerial := lastUse.submitSerial }

/-- `publishConsumerLastUse`. -/
def publishConsumerLastUse (key : GenerationKey) (lastUse : ConsumerLastUse) (owner : Owner) :
    MutationResult × Owner :=
  let admission := owner.observeConsumerLastUseCandidate key lastUse
  if admission ≠ .accepted then (admission, owner)
  else
    match owner key.packageGeneration with
    | none => (.accepted, owner)
    | some found =>
      (.accepted, owner.put key { found with
        consumerLastUse := mergeLastUse found.consumerLastUse lastUse })

/-- `requestEpochRetirement`. -/
def requestEpochRetirement (key : GenerationKey) (retirementSerial : UInt64) (owner : Owner) :
    MutationResult × Owner :=
  if !validateGenerationKey key || retirementSerial = 0 then (.invalid, owner)
  else
    match owner.find key with
    | .error reason => (reason, owner)
    | .ok found =>
      if found.retirementRequested then
        (if found.retirementSerial = retirementSerial then .duplicate else .alreadyRetired, owner)
      else if !validateFencePoint found.uploadFence then (.uploadProofMissing, owner)
      else if !validateConsumerLastUse found.consumerLastUse then (.consumerProofMissing, owner)
      else if retirementSerial < found.consumerLastUse.submitSerial then (.nonMonotonic, owner)
      else (.accepted, owner.put key { found with retirementSerial, retirementRequested := true })

/-- What `tryReclaim` makes of a generation and two observations. -/
def reclaimable (retirement : GenerationRetirement)
    (uploadObservation consumerObservation : FenceObservation) : ReclaimResult :=
  if !retirement.retirementRequested then .retainedEpochActive
  else if !validateFencePoint retirement.uploadFence then .retainedUploadProofMissing
  else if !validateConsumerLastUse retirement.consumerLastUse then .retainedConsumerProofMissing
  else if !uploadObservation.querySucceeded || !consumerObservation.querySucceeded then
    .retainedObservationFailed
  else if !validateFenceObservation uploadObservation ||
      !validateFenceObservation consumerObservation then .retainedObservationInvalid
  else if uploadObservation.fenceIdentity ≠ retirement.uploadFence.fenceIdentity ||
      consumerObservation.fenceIdentity ≠ retirement.consumerLastUse.fence.fenceIdentity then
    .retainedFenceMismatch
  else if uploadObservation.completedValue < retirement.uploadFence.value then
    .retainedUploadPending
  else if consumerObservation.completedValue < retirement.consumerLastUse.fence.value then
    .retainedConsumerPending
  else .reclaimed

/-- `tryReclaim`. -/
def tryReclaim (key : GenerationKey) (uploadObservation consumerObservation : FenceObservation)
    (owner : Owner) : ReclaimResult × Owner :=
  if !validateGenerationKey key then (.retainedGenerationMismatch, owner)
  else
    match owner key.packageGeneration with
    | none => (.retainedNotFound, owner)
    | some found =>
      if found.key ≠ key then (.retainedGenerationMismatch, owner)
      else
        let result := reclaimable found uploadObservation consumerObservation
        (result, if result = .reclaimed then
          Function.update owner key.packageGeneration none else owner)

end Owner

/-! ## Runs -/

inductive Call
  | registerGeneration (key : GenerationKey)
  | publishUploadFence (key : GenerationKey) (uploadFence : FencePoint)
  | publishConsumerLastUse (key : GenerationKey) (lastUse : ConsumerLastUse)
  | requestEpochRetirement (key : GenerationKey) (retirementSerial : UInt64)
  | tryReclaim (key : GenerationKey) (uploadObservation consumerObservation : FenceObservation)
  deriving DecidableEq, Repr

inductive Outcome
  | mutation (result : MutationResult)
  | reclaim (result : ReclaimResult)
  deriving DecidableEq, Repr

def step (call : Call) (owner : Owner) : Outcome × Owner :=
  match call with
  | .registerGeneration key => (owner.registerGeneration key).map .mutation id
  | .publishUploadFence key uploadFence =>
    (owner.publishUploadFence key uploadFence).map .mutation id
  | .publishConsumerLastUse key lastUse => (owner.publishConsumerLastUse key lastUse).map .mutation id
  | .requestEpochRetirement key retirementSerial =>
    (owner.requestEpochRetirement key retirementSerial).map .mutation id
  | .tryReclaim key uploadObservation consumerObservation =>
    (owner.tryReclaim key uploadObservation consumerObservation).map .reclaim id

abbrev Happened := Record Owner Call Outcome

def Outcome.acts (outcome : Outcome) : Bool :=
  outcome = .mutation .accepted || outcome = .reclaim .reclaimed

/-- What a call does: it takes effect on the generation of its key, or nothing changes. -/
inductive Effect (owner : Owner) : Call → Outcome → Owner → Prop
  | refused (call : Call) (outcome : Outcome) (refused : outcome.acts = false) :
    Effect owner call outcome owner
  | registered (key : GenerationKey) (fresh : owner key.packageGeneration = none) :
    Effect owner (.registerGeneration key) (.mutation .accepted) (owner.put key { key })
  /-- The fence of an upload is published, the first of the generation. -/
  | uploaded (key : GenerationKey) (uploadFence : FencePoint) (found : GenerationRetirement)
    (valid : validateFencePoint uploadFence) (known : owner key.packageGeneration = some found)
    (active : found.retirementRequested = false)
    (first : validateFencePoint found.uploadFence = false) :
    Effect owner (.publishUploadFence key uploadFence) (.mutation .accepted)
      (owner.put key { found with uploadFence })
  | used (key : GenerationKey) (lastUse : ConsumerLastUse) (found : GenerationRetirement)
    (valid : validateConsumerLastUse lastUse) (known : owner key.packageGeneration = some found)
    (active : found.retirementRequested = false)
    (admitted : Owner.admitLastUse found.consumerLastUse lastUse = .accepted) :
    Effect owner (.publishConsumerLastUse key lastUse) (.mutation .accepted)
      (owner.put key { found with
        consumerLastUse := Owner.mergeLastUse found.consumerLastUse lastUse })
  | retired (key : GenerationKey) (retirementSerial : UInt64) (found : GenerationRetirement)
    (known : owner key.packageGeneration = some found)
    (active : found.retirementRequested = false) :
    Effect owner (.requestEpochRetirement key retirementSerial) (.mutation .accepted)
      (owner.put key { found with retirementSerial, retirementRequested := true })
  | reclaimed (key : GenerationKey) (uploadObservation consumerObservation : FenceObservation)
    (found : GenerationRetirement) (known : owner key.packageGeneration = some found)
    (reclaimable : Owner.reclaimable found uploadObservation consumerObservation = .reclaimed) :
    Effect owner (.tryReclaim key uploadObservation consumerObservation) (.reclaim .reclaimed)
      (Function.update owner key.packageGeneration none)

variable {owner : Owner} {key : GenerationKey}

theorem find_eq_ok {found : GenerationRetirement} (h : owner.find key = .ok found) :
    owner key.packageGeneration = some found := by
  unfold Owner.find at h
  split at h
  · cases h
  · rename_i entry hentry
    split_ifs at h
    cases h
    exact hentry

theorem find_eq_error {reason : MutationResult} (h : owner.find key = .error reason) :
    reason ≠ .accepted := by
  unfold Owner.find at h
  split at h
  · cases h
    simp
  · split_ifs at h
    cases h
    simp

theorem acts_mutation {result : MutationResult} (h : result ≠ .accepted) :
    (Outcome.mutation result).acts = false := by
  simp [Outcome.acts, h]

theorem acts_reclaim {result : ReclaimResult} (h : result ≠ .reclaimed) :
    (Outcome.reclaim result).acts = false := by
  simp [Outcome.acts, h]

theorem effect_registerGeneration (key : GenerationKey) (owner : Owner) :
    Effect owner (.registerGeneration key) (.mutation (owner.registerGeneration key).1)
      (owner.registerGeneration key).2 := by
  unfold Owner.registerGeneration
  split
  · exact .refused _ _ rfl
  · split
    · refine .refused _ _ ?_
      dsimp only
      split <;> rfl
    · rename_i hfresh
      exact .registered key hfresh

theorem effect_publishUploadFence (key : GenerationKey) (uploadFence : FencePoint) (owner : Owner) :
    Effect owner (.publishUploadFence key uploadFence)
      (.mutation (owner.publishUploadFence key uploadFence).1)
        (owner.publishUploadFence key uploadFence).2 := by
  unfold Owner.publishUploadFence
  split
  · exact .refused _ _ rfl
  · rename_i hvalid
    simp only [Bool.or_eq_true, Bool.not_eq_true', not_or, Bool.not_eq_false] at hvalid
    split
    · rename_i reason hfind
      exact .refused _ _ (acts_mutation (find_eq_error hfind))
    · rename_i found hfind
      split_ifs with hretired hunset hsame
      · exact .refused _ _ rfl
      · rw [Bool.not_eq_true'] at hunset
        exact .uploaded key uploadFence found hvalid.2 (find_eq_ok hfind)
          (Bool.not_eq_true _ ▸ hretired) hunset
      · exact .refused _ _ rfl
      · exact .refused _ _ rfl

theorem observe_eq_accepted {lastUse : ConsumerLastUse}
    (h : owner.observeConsumerLastUseCandidate key lastUse = .accepted) :
    validateConsumerLastUse lastUse = true ∧ ∃ found, owner key.packageGeneration = some found ∧
      found.retirementRequested = false ∧ Owner.admitLastUse found.consumerLastUse lastUse = .accepted := by
  unfold Owner.observeConsumerLastUseCandidate at h
  split_ifs at h with hvalid
  simp only [Bool.or_eq_true, Bool.not_eq_true', not_or, Bool.not_eq_false] at hvalid
  refine ⟨hvalid.2, ?_⟩
  split at h
  · rename_i reason hfind
    exact absurd h (find_eq_error hfind)
  · rename_i found hfind
    split_ifs at h with hretired
    exact ⟨found, find_eq_ok hfind, Bool.not_eq_true _ ▸ hretired, h⟩

theorem effect_publishConsumerLastUse (key : GenerationKey) (lastUse : ConsumerLastUse)
    (owner : Owner) : Effect owner (.publishConsumerLastUse key lastUse)
      (.mutation (owner.publishConsumerLastUse key lastUse).1)
        (owner.publishConsumerLastUse key lastUse).2 := by
  unfold Owner.publishConsumerLastUse
  dsimp only
  by_cases hadmission : owner.observeConsumerLastUseCandidate key lastUse = .accepted
  · obtain ⟨hvalid, found, hknown, hactive, hadmitted⟩ := observe_eq_accepted hadmission
    rw [if_neg (not_not.mpr hadmission), hknown]
    exact .used key lastUse found hvalid hknown hactive hadmitted
  · rw [if_pos hadmission]
    exact .refused _ _ (acts_mutation hadmission)

theorem effect_requestEpochRetirement (key : GenerationKey) (retirementSerial : UInt64)
    (owner : Owner) : Effect owner (.requestEpochRetirement key retirementSerial)
      (.mutation (owner.requestEpochRetirement key retirementSerial).1)
        (owner.requestEpochRetirement key retirementSerial).2 := by
  unfold Owner.requestEpochRetirement
  split
  · exact .refused _ _ rfl
  · split
    · rename_i reason hfind
      exact .refused _ _ (acts_mutation (find_eq_error hfind))
    · rename_i found hfind
      by_cases hretired : found.retirementRequested = true
      · rw [if_pos hretired]
        refine .refused _ _ ?_
        dsimp only
        split <;> rfl
      · rw [if_neg hretired]
        split_ifs
        · exact .refused _ _ rfl
        · exact .refused _ _ rfl
        · exact .refused _ _ rfl
        · exact .retired key retirementSerial found (find_eq_ok hfind) (Bool.not_eq_true _ ▸ hretired)

theorem effect_tryReclaim (key : GenerationKey)
    (uploadObservation consumerObservation : FenceObservation) (owner : Owner) :
    Effect owner (.tryReclaim key uploadObservation consumerObservation)
      (.reclaim (owner.tryReclaim key uploadObservation consumerObservation).1)
        (owner.tryReclaim key uploadObservation consumerObservation).2 := by
  unfold Owner.tryReclaim
  split
  · exact .refused _ _ rfl
  · split
    · exact .refused _ _ rfl
    · rename_i found hknown
      split
      · exact .refused _ _ rfl
      · dsimp only
        by_cases hresult :
            Owner.reclaimable found uploadObservation consumerObservation = .reclaimed
        · rw [if_pos hresult, hresult]
          exact .reclaimed key uploadObservation consumerObservation found hknown hresult
        · rw [if_neg hresult]
          exact .refused _ _ (acts_reclaim hresult)

theorem effect_step (call : Call) (owner : Owner) :
    Effect owner call (step call owner).1 (step call owner).2 := by
  cases call with
  | registerGeneration key => exact effect_registerGeneration key owner
  | publishUploadFence key uploadFence => exact effect_publishUploadFence key uploadFence owner
  | publishConsumerLastUse key lastUse => exact effect_publishConsumerLastUse key lastUse owner
  | requestEpochRetirement key retirementSerial =>
    exact effect_requestEpochRetirement key retirementSerial owner
  | tryReclaim key uploadObservation consumerObservation =>
    exact effect_tryReclaim key uploadObservation consumerObservation owner

end War3VK.GpuSkin.PackageOwner

/-!
## Runs of the owner of package generations

The life of a generation is what happened since it was registered. The entry that the ledger keeps of it is
told by that life: its fence is the one that was published, and its last use bounds every use that was
accepted. So a reclaim, which checks the entry, checks every accepted use.
-/

namespace War3VK.GpuSkin.PackageOwner

open Lib

/-! ### The order of last uses -/

def Covers (mask other : UInt32) : Prop := other ||| mask = mask

/-- A last use is past another one, or it is the same with more consumers. -/
structure Before (a b : ConsumerLastUse) : Prop where
  fence : a.fence.fenceIdentity = b.fence.fenceIdentity
  covers : Covers b.consumerMask a.consumerMask
  /-- Serial and value are past, or there are more consumers. -/
  advances : a.submitSerial < b.submitSerial ∧ a.fence.value < b.fence.value ∨
    a.submitSerial = b.submitSerial ∧ a.fence.value = b.fence.value ∧
      a.consumerMask ≠ b.consumerMask

structure AtMost (a b : ConsumerLastUse) : Prop where
  fence : a.fence.fenceIdentity = b.fence.fenceIdentity
  value : a.fence.value ≤ b.fence.value

theorem Covers.trans {a b c : UInt32} (h : Covers b a) (h' : Covers c b) : Covers c a := by
  unfold Covers at *
  rw [← h', ← UInt32.or_assoc, h]

theorem Covers.antisymm {a b : UInt32} (h : Covers b a) (h' : Covers a b) : a = b := by
  unfold Covers at *
  rw [← h', UInt32.or_comm, h]

theorem covers_or (a b : UInt32) : Covers (a ||| b) a := by
  unfold Covers
  rw [← UInt32.or_assoc, UInt32.or_self]

theorem Before.trans {a b c : ConsumerLastUse} (h : Before a b) (h' : Before b c) : Before a c := by
  refine ⟨h.fence.trans h'.fence, h.covers.trans h'.covers, ?_⟩
  obtain ⟨hserial, hvalue⟩ | ⟨hserial, hvalue, hmask⟩ := h.advances
  · obtain ⟨hserial', hvalue'⟩ | ⟨hserial', hvalue', -⟩ := h'.advances
    · exact .inl ⟨UInt64.lt_trans hserial hserial', UInt64.lt_trans hvalue hvalue'⟩
    · exact .inl ⟨hserial' ▸ hserial, hvalue' ▸ hvalue⟩
  · obtain ⟨hserial', hvalue'⟩ | ⟨hserial', hvalue', -⟩ := h'.advances
    · exact .inl ⟨hserial ▸ hserial', hvalue ▸ hvalue'⟩
    · refine .inr ⟨hserial.trans hserial', hvalue.trans hvalue', fun hsame => hmask ?_⟩
      exact h.covers.antisymm (hsame ▸ h'.covers)

theorem Before.atMost {a b : ConsumerLastUse} (h : Before a b) : AtMost a b := by
  refine ⟨h.fence, ?_⟩
  obtain ⟨-, hvalue⟩ | ⟨-, hvalue, -⟩ := h.advances
  · exact UInt64.le_of_lt hvalue
  · exact hvalue ▸ UInt64.le_refl _

theorem AtMost.trans {a b c : ConsumerLastUse} (h : AtMost a b) (h' : AtMost b c) : AtMost a c :=
  ⟨h.fence.trans h'.fence, UInt64.le_trans h.value h'.value⟩

theorem valid_or {a b : UInt32} (ha : a ≠ 0) (hknown : a &&& ~~~kKnownConsumerMask = 0)
    (hknown' : b &&& ~~~kKnownConsumerMask = 0) :
    a ||| b ≠ 0 ∧ (a ||| b) &&& ~~~kKnownConsumerMask = 0 := by
  refine ⟨fun hzero => ha (UInt32.or_eq_zero_iff.mp hzero).1, ?_⟩
  rw [← UInt32.toBitVec_inj] at *
  simp only [UInt32.toBitVec_and, UInt32.toBitVec_or] at *
  rw [BitVec.and_or_distrib_right, hknown, hknown']
  rfl

theorem valid_iff {lastUse : ConsumerLastUse} : validateConsumerLastUse lastUse = true ↔
    (((lastUse.fence.fenceIdentity ≠ 0 ∧ lastUse.fence.value ≠ 0) ∧ lastUse.consumerMask ≠ 0) ∧
      lastUse.consumerMask &&& ~~~kKnownConsumerMask = 0) ∧ lastUse.submitSerial ≠ 0 := by
  simp only [validateConsumerLastUse, validateFencePoint, Bool.and_eq_true, decide_eq_true_eq]

theorem mergeLastUse_spec {stored lastUse : ConsumerLastUse}
    (hvalid : validateConsumerLastUse lastUse = true)
    (hadmitted : Owner.admitLastUse stored lastUse = .accepted) :
    validateConsumerLastUse (Owner.mergeLastUse stored lastUse) = true ∧
      AtMost lastUse (Owner.mergeLastUse stored lastUse) ∧ (validateConsumerLastUse stored = true →
          Before stored (Owner.mergeLastUse stored lastUse)) := by
  unfold Owner.admitLastUse at hadmitted
  unfold Owner.mergeLastUse
  by_cases hstored : validateConsumerLastUse stored = true
  · have hnot : ¬ (!validateConsumerLastUse stored) = true := by simp [hstored]
    rw [if_neg hnot] at hadmitted ⊢
    obtain ⟨⟨⟨⟨hidentity, hvalue⟩, hmask⟩, hknown⟩, hserial⟩ := valid_iff.mp hvalid
    obtain ⟨⟨⟨⟨hidentity', hvalue'⟩, hmask'⟩, hknown'⟩, hserial'⟩ := valid_iff.mp hstored
    obtain ⟨hor, hknownor⟩ := valid_or hmask' hknown' hknown
    by_cases hfence : stored.fence.fenceIdentity ≠ lastUse.fence.fenceIdentity
    · rw [if_pos hfence] at hadmitted
      cases hadmitted
    rw [if_neg hfence] at hadmitted
    rw [not_not] at hfence
    by_cases hsame : (stored.submitSerial = lastUse.submitSerial &&
        stored.fence.value = lastUse.fence.value) = true
    · -- The same submission has more consumers now.
      rw [if_pos hsame] at hadmitted ⊢
      simp only [Bool.and_eq_true, decide_eq_true_eq] at hsame
      by_cases hmore : stored.consumerMask ||| lastUse.consumerMask = stored.consumerMask
      · rw [if_pos hmore] at hadmitted
        cases hadmitted
      · exact ⟨valid_iff.mpr ⟨⟨⟨⟨hidentity', hvalue'⟩, hor⟩, hknownor⟩, hserial'⟩,
          ⟨hfence.symm, hsame.2 ▸ UInt64.le_refl _⟩, fun _ =>
            ⟨rfl, covers_or _ _, .inr ⟨rfl, rfl, fun h => hmore h.symm⟩⟩⟩
    · -- A later submission.
      rw [if_neg hsame] at hadmitted ⊢
      by_cases hback : (lastUse.submitSerial ≤ stored.submitSerial ||
          lastUse.fence.value ≤ stored.fence.value) = true
      · rw [if_pos hback] at hadmitted
        cases hadmitted
      · simp only [Bool.or_eq_true, decide_eq_true_eq, not_or, UInt64.not_le] at hback
        exact ⟨valid_iff.mpr ⟨⟨⟨⟨hidentity, hvalue⟩, hor⟩, hknownor⟩, hserial⟩,
          ⟨rfl, UInt64.le_refl _⟩, fun _ => ⟨hfence, covers_or _ _, .inl hback⟩⟩
  · -- Nothing was stored.
    have hnot : (!validateConsumerLastUse stored) = true := by simp [hstored]
    rw [if_pos hnot]
    exact ⟨hvalid, ⟨rfl, UInt64.le_refl _⟩, fun h => absurd h hstored⟩

/-! ### The life of a generation -/

def Call.generation : Call → UInt64
  | .registerGeneration key => key.packageGeneration
  | .publishUploadFence key _ => key.packageGeneration
  | .publishConsumerLastUse key _ => key.packageGeneration
  | .requestEpochRetirement key _ => key.packageGeneration
  | .tryReclaim key _ _ => key.packageGeneration

def actsOn (generation : UInt64) (r : Happened) : Bool :=
  r.call.generation = generation && r.output.acts

def acceptedUpload (generation : UInt64) (r : Happened) : Option FencePoint :=
  if actsOn generation r then
    match r.call with
    | .publishUploadFence _ uploadFence => some uploadFence
    | _ => none
  else none

/-- The last use that a publication for a generation was accepted with. -/
def acceptedUse (generation : UInt64) (r : Happened) : Option ConsumerLastUse :=
  if actsOn generation r then
    match r.call with
    | .publishConsumerLastUse _ lastUse => some lastUse
    | _ => none
  else none

/-- The last use that is stored after an accepted publication for a generation. -/
def storedUse (generation : UInt64) (r : Happened) : Option ConsumerLastUse :=
  (acceptedUse generation r).bind fun _ =>
    ((step r.call r.before).2 generation).map GenerationRetirement.consumerLastUse

def acceptsRetirement (generation : UInt64) (r : Happened) : Bool :=
  match r.call with
  | .requestEpochRetirement _ _ => actsOn generation r
  | _ => false

def reclaims (generation : UInt64) (r : Happened) : Bool :=
  match r.call with
  | .tryReclaim _ _ _ => actsOn generation r
  | _ => false

def life (generation : UInt64) (past : List Happened) : List Happened :=
  past.foldl (fun life r => if reclaims generation r then [] else life ++ [r]) []

theorem life_concat (generation : UInt64) (past : List Happened) (r : Happened) :
    life generation (past ++ [r]) = if reclaims generation r then [] else life generation past ++ [r] := by
  simp [life]

/-! ### What the ledger knows of a life -/

/-- The entry of a generation, with nothing published when there is none. -/
def entry (owner : Owner) (generation : UInt64) : GenerationRetirement :=
  (owner generation).getD {}

structure Known (found : GenerationRetirement) (generation : UInt64) (life : List Happened) :
    Prop where
  upload : life.filterMap (acceptedUpload generation) =
    if validateFencePoint found.uploadFence then [found.uploadFence] else []
  /-- The last use is valid and no accepted use is past it. -/
  uses : ∀ use ∈ life.filterMap (acceptedUse generation),
    validateConsumerLastUse found.consumerLastUse = true ∧ AtMost use found.consumerLastUse
  increasing : (life.filterMap (storedUse generation)).Pairwise Before
  stored : ∀ use ∈ life.filterMap (storedUse generation),
    validateConsumerLastUse found.consumerLastUse = true ∧
      (use = found.consumerLastUse ∨ Before use found.consumerLastUse)
  /-- The retirement is requested when it was accepted. -/
  retirement : life.any (acceptsRetirement generation) = found.retirementRequested

variable {generation : UInt64} {found : GenerationRetirement} {past : List Happened} {r : Happened}

theorem Known.nil : Known {} generation [] where
  upload := rfl
  uses := by simp
  increasing := by simp
  stored := by simp
  retirement := rfl

theorem quiet (h : actsOn generation r = false) : acceptedUpload generation r = none ∧
    acceptedUse generation r = none ∧ storedUse generation r = none ∧
      acceptsRetirement generation r = false ∧ reclaims generation r = false := by
  refine ⟨by simp [acceptedUpload, h], by simp [acceptedUse, h],
    by simp [storedUse, acceptedUse, h], ?_, ?_⟩
  · unfold acceptsRetirement
    split <;> first | exact h | rfl
  · unfold reclaims
    split <;> first | exact h | rfl

theorem Known.quiet (h : Known found generation past) (hupload : acceptedUpload generation r = none)
    (huse : acceptedUse generation r = none) (hretirement : acceptsRetirement generation r = false)
    {found' : GenerationRetirement} (hsame : found'.uploadFence = found.uploadFence)
    (hsame' : found'.consumerLastUse = found.consumerLastUse)
    (hsame'' : found'.retirementRequested = found.retirementRequested) :
    Known found' generation (past ++ [r]) := by
  have hstored : storedUse generation r = none := by simp [storedUse, huse]
  constructor
  · rw [filterMap_concat, hupload, hsame, h.upload]
    simp
  · rw [filterMap_concat, huse, hsame', Option.toList_none, List.append_nil]
    exact h.uses
  · rw [filterMap_concat, hstored, Option.toList_none, List.append_nil]
    exact h.increasing
  · rw [filterMap_concat, hstored, hsame', Option.toList_none, List.append_nil]
    exact h.stored
  · rw [List.any_append, h.retirement, hsame'']
    simp [hretirement]

theorem Known.uploaded (h : Known found generation past) {uploadFence : FencePoint}
    (hfirst : validateFencePoint found.uploadFence = false)
    (hvalid : validateFencePoint uploadFence = true)
    (hupload : acceptedUpload generation r = some uploadFence)
    (huse : acceptedUse generation r = none) (hretirement : acceptsRetirement generation r = false) :
    Known { found with uploadFence } generation (past ++ [r]) := by
  have hstored : storedUse generation r = none := by simp [storedUse, huse]
  constructor
  · rw [filterMap_concat, hupload, h.upload, hfirst, hvalid]
    simp
  · rw [filterMap_concat, huse, Option.toList_none, List.append_nil]
    exact h.uses
  · rw [filterMap_concat, hstored, Option.toList_none, List.append_nil]
    exact h.increasing
  · rw [filterMap_concat, hstored, Option.toList_none, List.append_nil]
    exact h.stored
  · rw [List.any_append, h.retirement]
    simp [hretirement]

theorem Known.used (h : Known found generation past) {lastUse : ConsumerLastUse}
    (hvalid : validateConsumerLastUse lastUse = true)
    (hadmitted : Owner.admitLastUse found.consumerLastUse lastUse = .accepted)
    (hupload : acceptedUpload generation r = none) (huse : acceptedUse generation r = some lastUse)
    (hstored : storedUse generation r = some (Owner.mergeLastUse found.consumerLastUse lastUse))
    (hretirement : acceptsRetirement generation r = false) :
    Known { found with consumerLastUse := Owner.mergeLastUse found.consumerLastUse lastUse }
      generation (past ++ [r]) := by
  obtain ⟨hmerged, hatMost, hbefore⟩ := mergeLastUse_spec hvalid hadmitted
  -- Whatever was stored is before what is stored now.
  have hpast : ∀ use ∈ past.filterMap (storedUse generation),
      Before use (Owner.mergeLastUse found.consumerLastUse lastUse) := by
    intro use huse
    obtain ⟨hfound, rfl | hless⟩ := h.stored use huse
    · exact hbefore hfound
    · exact hless.trans (hbefore hfound)
  constructor
  · rw [filterMap_concat, hupload, h.upload]
    simp
  · intro use hmem
    rw [filterMap_concat, huse, List.mem_append] at hmem
    refine ⟨hmerged, ?_⟩
    obtain hmem | hmem := hmem
    · obtain ⟨hfound, hless⟩ := h.uses use hmem
      exact hless.trans (hbefore hfound).atMost
    · rw [Option.toList_some, List.mem_singleton] at hmem
      exact hmem ▸ hatMost
  · rw [filterMap_concat, hstored, Option.toList_some, List.pairwise_append]
    refine ⟨h.increasing, List.pairwise_singleton _ _, fun use huse use' huse' => ?_⟩
    exact List.mem_singleton.mp huse' ▸ hpast use huse
  · intro use hmem
    rw [filterMap_concat, hstored, List.mem_append] at hmem
    refine ⟨hmerged, ?_⟩
    obtain hmem | hmem := hmem
    · exact .inr (hpast use hmem)
    · exact .inl (by simpa using hmem)
  · rw [List.any_append, h.retirement]
    simp [hretirement]

theorem Known.retired (h : Known found generation past) (retirementSerial : UInt64)
    (hupload : acceptedUpload generation r = none) (huse : acceptedUse generation r = none)
    (hretirement : acceptsRetirement generation r = true) :
    Known { found with retirementSerial, retirementRequested := true } generation
      (past ++ [r]) := by
  have hstored : storedUse generation r = none := by simp [storedUse, huse]
  constructor
  · rw [filterMap_concat, hupload, h.upload]
    simp
  · rw [filterMap_concat, huse, Option.toList_none, List.append_nil]
    exact h.uses
  · rw [filterMap_concat, hstored, Option.toList_none, List.append_nil]
    exact h.increasing
  · rw [filterMap_concat, hstored, Option.toList_none, List.append_nil]
    exact h.stored
  · rw [List.any_append]
    simp [hretirement]

variable {owner owner' : Owner} {call : Call} {outcome : Outcome}

@[simp]
theorem entry_put (key : GenerationKey) (found : GenerationRetirement) (owner : Owner) :
    entry (owner.put key found) key.packageGeneration = found := by
  simp [entry, Owner.put]

theorem entry_eq (h : owner generation = some found) : entry owner generation = found := by
  simp [entry, h]

theorem effect_frame (heffect : Effect owner call outcome owner')
    (hquiet : ¬ (call.generation = generation ∧ outcome.acts = true)) :
    owner' generation = owner generation := by
  cases heffect with
  | refused => rfl
  | registered key =>
    exact Function.update_of_ne (fun hsame => hquiet ⟨hsame.symm, rfl⟩) _ _
  | uploaded key =>
    exact Function.update_of_ne (fun hsame => hquiet ⟨hsame.symm, rfl⟩) _ _
  | used key =>
    exact Function.update_of_ne (fun hsame => hquiet ⟨hsame.symm, rfl⟩) _ _
  | retired key =>
    exact Function.update_of_ne (fun hsame => hquiet ⟨hsame.symm, rfl⟩) _ _
  | reclaimed key =>
    exact Function.update_of_ne (fun hsame => hquiet ⟨hsame.symm, rfl⟩) _ _

theorem Known.effect (heffect : Effect owner call outcome owner')
    (hafter : (step call owner).2 = owner')
    (h : Known (entry owner generation) generation (life generation past)) :
    Known (entry owner' generation) generation
      (life generation (past ++ [⟨owner, call, outcome⟩])) := by
  rw [life_concat]
  by_cases hacts : actsOn generation ⟨owner, call, outcome⟩ = true
  · have hacts' := hacts
    simp only [actsOn, Bool.and_eq_true, decide_eq_true_eq] at hacts'
    obtain ⟨hgeneration, hact⟩ := hacts'
    cases heffect with
    | refused _ _ hrefused => simp [hrefused] at hact
    | registered key fresh =>
      subst hgeneration
      have hentry : entry owner (Call.registerGeneration key).generation = {} := by
        simp [entry, Call.generation, fresh]
      rw [hentry] at h
      rw [if_neg (by simp [reclaims]), Call.generation, entry_put]
      exact h.quiet (by simp [acceptedUpload]) (by simp [acceptedUse]) rfl rfl rfl rfl
    | uploaded key uploadFence found valid known active first =>
      subst hgeneration
      rw [Call.generation] at *
      rw [entry_eq known] at h
      rw [if_neg (by simp [reclaims]), entry_put]
      exact h.uploaded first valid (by simp [acceptedUpload, hacts]) (by simp [acceptedUse]) rfl
    | used key lastUse found valid known active admitted =>
      subst hgeneration
      rw [Call.generation] at *
      rw [entry_eq known] at h
      rw [if_neg (by simp [reclaims]), entry_put]
      have huse : acceptedUse key.packageGeneration ⟨owner, .publishConsumerLastUse key lastUse,
          .mutation .accepted⟩ = some lastUse := by
        simp [acceptedUse, hacts]
      refine h.used valid admitted (by simp [acceptedUpload]) huse ?_ rfl
      simp [storedUse, huse, hafter, Owner.put]
    | retired key retirementSerial found known active =>
      subst hgeneration
      rw [Call.generation] at *
      rw [entry_eq known] at h
      rw [if_neg (by simp [reclaims]), entry_put]
      exact h.retired retirementSerial (by simp [acceptedUpload]) (by simp [acceptedUse]) hacts
    | reclaimed key uploadObservation consumerObservation found known reclaimable =>
      subst hgeneration
      have hnone : entry (Function.update owner key.packageGeneration none)
          (Call.tryReclaim key uploadObservation consumerObservation).generation = {} := by
        simp [entry, Call.generation]
      rw [if_pos (by exact hacts), hnone]
      exact .nil
  · rw [Bool.not_eq_true] at hacts
    obtain ⟨hupload, huse, -, hretirement, hreclaims⟩ := PackageOwner.quiet hacts
    have hsame : entry owner' generation = entry owner generation := by
      unfold entry
      rw [effect_frame heffect fun hact => ?_]
      simp [actsOn, hact] at hacts
    rw [hreclaims, if_neg Bool.false_ne_true, hsame]
    exact h.quiet hupload huse hretirement rfl rfl rfl

theorem known_run (calls : List Call) (generation : UInt64) :
    Known (entry (run step calls fun _ => none) generation) generation
      (life generation (history step calls fun _ => none)) := by
  refine @history_induction _ _ _ step
    (fun owner past => Known (entry owner generation) generation (life generation past))
    (fun _ => none) .nil ?_ calls
  intro owner past call h
  exact h.effect (effect_step call owner) rfl

/-! ### What a reclaim proves -/

theorem reclaimable_eq_reclaimed {uploadObservation consumerObservation : FenceObservation}
    (h : Owner.reclaimable found uploadObservation consumerObservation = .reclaimed) :
    found.retirementRequested = true ∧ validateFencePoint found.uploadFence = true ∧
      uploadObservation.fenceIdentity = found.uploadFence.fenceIdentity ∧
        found.uploadFence.value ≤ uploadObservation.completedValue ∧
          consumerObservation.fenceIdentity = found.consumerLastUse.fence.fenceIdentity ∧
            found.consumerLastUse.fence.value ≤ consumerObservation.completedValue := by
  unfold Owner.reclaimable at h
  split_ifs at h with hrequested hupload _ _ _ hidentity hvalue hvalue'
  simp only [Bool.or_eq_true, decide_eq_true_eq, not_or, not_not] at hidentity
  rw [UInt64.not_lt] at hvalue hvalue'
  exact ⟨by simpa using hrequested, by simpa using hupload, hidentity.1, hvalue, hidentity.2, hvalue'⟩

structure ReclaimLaw (past : List Happened) : Prop where
  /-- A generation is reclaimed when its retirement was accepted, its one upload is observed to be
  complete, and so is every use that was accepted since it was last reclaimed. -/
  reclaimed : ∀ before r after, past = before ++ r :: after →
    ∀ key uploadObservation consumerObservation,
      r.call = .tryReclaim key uploadObservation consumerObservation →
      r.output = .reclaim .reclaimed →
      (life key.packageGeneration before).any (acceptsRetirement key.packageGeneration) = true ∧
        (∃ uploadFence,
          (life key.packageGeneration before).filterMap (acceptedUpload key.packageGeneration) =
              [uploadFence] ∧
            uploadObservation.fenceIdentity = uploadFence.fenceIdentity ∧
              uploadFence.value ≤ uploadObservation.completedValue) ∧
          ∀ use ∈ (life key.packageGeneration before).filterMap
              (acceptedUse key.packageGeneration),
            consumerObservation.fenceIdentity = use.fence.fenceIdentity ∧
              use.fence.value ≤ consumerObservation.completedValue
  /-- The last uses that are stored of a generation increase. -/
  increasing : ∀ generation before after, past = before ++ after →
    ((life generation before).filterMap (storedUse generation)).Pairwise Before
  /-- Once its retirement was accepted, no call but its reclaim is accepted for a generation, and
  none changes anything. -/
  closed : ∀ before r after, past = before ++ r :: after →
    (life r.call.generation before).any (acceptsRetirement r.call.generation) = true →
      reclaims r.call.generation r = false →
        r.output.acts = false ∧ (step r.call r.before).2 = r.before

/-- Every reclaim is past every use that was accepted for its generation. -/
theorem reclaimLaw_run (calls : List Call) :
    ReclaimLaw (history step calls fun _ => none) where
  reclaimed := by
    intro before r after hsplit key uploadObservation consumerObservation hcall houtput
    obtain ⟨earlier, call, later, rfl, rfl, rfl, -⟩ := history_split step hsplit
    rw [record] at hcall houtput
    dsimp only at hcall houtput
    subst hcall
    have hknown := known_run earlier key.packageGeneration
    generalize run step earlier (fun _ => none) = owner at *
    have heffect := effect_step (.tryReclaim key uploadObservation consumerObservation) owner
    rw [houtput] at heffect
    obtain ⟨found, hfound, hreclaimable⟩ : ∃ found, owner key.packageGeneration = some found ∧
        Owner.reclaimable found uploadObservation consumerObservation = .reclaimed := by
      generalize (step (.tryReclaim key uploadObservation consumerObservation) owner).2 = owner' at *
      cases heffect with
      | refused _ _ hrefused => simp [Outcome.acts] at hrefused
      | reclaimed _ _ _ found known reclaimable => exact ⟨found, known, reclaimable⟩
    rw [entry_eq hfound] at hknown
    obtain ⟨hrequested, hvalid, hidentity, hvalue, hidentity', hvalue'⟩ :=
      reclaimable_eq_reclaimed hreclaimable
    refine ⟨hknown.retirement.trans hrequested,
      ⟨found.uploadFence, by rw [hknown.upload, if_pos hvalid], hidentity, hvalue⟩, ?_⟩
    -- The use that is checked is the last one, and it bounds the others.
    intro use huse
    have hless := (hknown.uses use huse).2
    exact ⟨hidentity'.trans hless.fence.symm, UInt64.le_trans hless.value hvalue'⟩
  increasing := by
    intro generation before after hsplit
    obtain ⟨earlier, later, rfl, rfl, -⟩ := history_prefix step hsplit
    exact (known_run earlier generation).increasing
  closed := by
    intro before r after hsplit hretired hreclaims
    obtain ⟨earlier, call, later, rfl, rfl, rfl, -⟩ := history_split step hsplit
    rw [record] at *
    dsimp only at hretired ⊢
    have hrequested := (known_run earlier call.generation).retirement
    rw [hretired] at hrequested
    generalize run step earlier (fun _ => none) = owner at *
    have heffect := effect_step call owner
    generalize (step call owner).1 = outcome at *
    generalize (step call owner).2 = owner' at *
    cases heffect with
    | refused _ _ hrefused => exact ⟨hrefused, rfl⟩
    | registered key fresh => simp [entry, Call.generation, fresh] at hrequested
    | uploaded key uploadFence found valid known active first =>
      simp [entry, Call.generation, known, active] at hrequested
    | used key lastUse found valid known active admitted =>
      simp [entry, Call.generation, known, active] at hrequested
    | retired key retirementSerial found known active =>
      simp [entry, Call.generation, known, active] at hrequested
    | reclaimed => simp [reclaims, actsOn, Outcome.acts] at hreclaims

end War3VK.GpuSkin.PackageOwner
