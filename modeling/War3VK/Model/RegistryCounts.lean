import War3VK.Model.InstanceRegistrySkip
import War3VK.Model.PoseRegistry

/-!
# The counts of the registries

The registries of model instances and of poses keep counts of the records of their tables by runtime model
(`ReplaceTrackingClassificationCount`, `src/d3d9/war3/model/war3_model_registry.cpp`). All writes to that
table go through one function, which keeps a count right when it was (`Table.toNat_recount`), so after any
calls the counts are what a scan of the table would find and no `assert` has failed
(`trackingCounts_scanned`).
-/

namespace War3VK.Model

open Lib

/-! ## Health -/

def mismatch (bit : UInt32) (a b : UInt64) : UInt32 := if a ≠ b then bit else 0

theorem mismatch_self (bit : UInt32) (a : UInt64) : mismatch bit a a = 0 := if_neg fun h => h rfl

def Table.met {ρ : Type} (table : Table UInt32 ρ) : UInt64 := table.scanned fun _ => true

def Table.size {ρ : Type} (table : Table UInt32 ρ) : UInt64 := .ofNat table.records.length

theorem Table.met_eq_size {ρ : Type} (table : Table UInt32 ρ) : table.met = table.size := by
  have hcount : table.records.countP (fun _ => true) = table.records.length := by simp
  have hle := table.countP_records_le fun _ => true
  rw [← UInt64.toNat_inj, Table.met, Table.toNat_scanned, Table.size, hcount, UInt64.toNat_ofNat',
    Nat.mod_eq_of_lt (by omega)]

/-- `ModelInstanceTrackingHealthSnapshot`. -/
structure InstanceHealth where
  frameNumber : UInt64
  recordCount : UInt64
  runtimeBoundCount : UInt64
  completeIdentityCount : UInt64
  aggregateReadPasses : UInt64 := 1
  verifierScanPasses : UInt64 := 0
  verifierRecordsScanned : UInt64 := 0
  verifierMismatchCount : UInt64 := 0
  verifierMismatchMask : UInt32 := 0

/-- `PoseTrackingHealthSnapshot`. -/
structure PoseHealth where
  frameNumber : UInt64
  recordCount : UInt64
  readyPoseCount : UInt64
  spriteFramePoseCount : UInt64
  matrixPaletteCount : UInt64
  aggregateReadPasses : UInt64 := 1
  verifierScanPasses : UInt64 := 0
  verifierRecordsScanned : UInt64 := 0
  verifierMismatchCount : UInt64 := 0
  verifierMismatchMask : UInt32 := 0

namespace InstanceRegistry

/-- `trackingHealthSnapshotLocked`. -/
def trackingHealthSnapshotLocked (s : InstanceRegistry) (runVerifier : Bool) : InstanceHealth :=
  let table := s.maps.byRuntimeModel
  let snapshot : InstanceHealth :=
    { frameNumber := s.frameNumber
      recordCount := table.size
      runtimeBoundCount := s.trackingRuntimeBoundCount
      completeIdentityCount := s.trackingCompleteIdentityCount }
  if runVerifier then
    let mask := mismatch 1 snapshot.recordCount table.met |||
      mismatch 2 snapshot.runtimeBoundCount (table.scanned ModelInstanceRecord.runtimeBound) |||
      mismatch 4 snapshot.completeIdentityCount
        (table.scanned ModelInstanceRecord.completeIdentity)
    { snapshot with
      verifierScanPasses := 1
      verifierRecordsScanned := table.met
      verifierMismatchMask := mask
      verifierMismatchCount := if mask ≠ 0 then 1 else 0 }
  else snapshot

/-- The counts of a registry are right, and no `assert` has failed. -/
structure Counted (s : InstanceRegistry) : Prop where
  runtimeBound : s.trackingRuntimeBoundCount.toNat =
    s.maps.byRuntimeModel.records.countP ModelInstanceRecord.runtimeBound
  /-- The count of records with a complete identity. -/
  completeIdentity : s.trackingCompleteIdentityCount.toNat =
    s.maps.byRuntimeModel.records.countP ModelInstanceRecord.completeIdentity
  asserts : s.assertsHold = true

variable {s s' : InstanceRegistry} {w : Writing InstanceRegistry}

theorem Counted.of_eq (h : Counted s) (htable : s'.maps.byRuntimeModel = s.maps.byRuntimeModel)
    (hbound : s'.trackingRuntimeBoundCount = s.trackingRuntimeBoundCount)
    (hcomplete : s'.trackingCompleteIdentityCount = s.trackingCompleteIdentityCount)
    (hasserts : s'.assertsHold = s.assertsHold) : Counted s' where
  runtimeBound := by rw [hbound, htable, h.runtimeBound]
  completeIdentity := by rw [hcomplete, htable, h.completeIdentity]
  asserts := by rw [hasserts, h.asserts]

section

variable (h : Counted w.now)
include h

theorem Counted.editMaps {change : InstanceMaps → InstanceMaps}
    (hchange : ∀ m, (change m).byRuntimeModel = m.byRuntimeModel) :
    Counted (w.edit (editMaps change)).now := h.of_eq (hchange _) rfl rfl rfl

theorem Counted.editMapsIf (p : Prop) [Decidable p] (change : InstanceMaps → InstanceMaps)
    (hchange : ∀ m, (change m).byRuntimeModel = m.byRuntimeModel) :
    Counted (w.editIf p (InstanceRegistry.editMaps change)).now := by
  unfold Writing.editIf
  split
  · exact h.editMaps hchange
  · exact h

theorem Counted.guarded {body : Writing InstanceRegistry → Writing InstanceRegistry}
    (hbody : ∀ w', Counted w'.now → Counted (body w').now) : Counted (guarded body w).now := by
  have hopen : Counted (w.edit bump).now := h.of_eq rfl rfl rfl rfl
  exact (hbody _ hopen).of_eq rfl rfl rfl rfl

theorem Counted.storeRuntimeModelRecordLocked {record : ModelInstanceRecord}
    (hkey : record.runtimeModelPtr ≠ 0) : Counted (storeRuntimeModelRecordLocked record w).now := by
  have hbound := Table.toNat_recount w.now.maps.byRuntimeModel record.runtimeModelPtr record
    ModelInstanceRecord.runtimeBound h.runtimeBound
  have hcomplete := Table.toNat_recount w.now.maps.byRuntimeModel record.runtimeModelPtr record
    ModelInstanceRecord.completeIdentity h.completeIdentity
  unfold InstanceRegistry.storeRuntimeModelRecordLocked
  rw [if_neg hkey]
  refine ⟨hbound.1, hcomplete.1, ?_⟩
  have hone := Bool.and_eq_true_iff.mpr ⟨h.asserts, hbound.2⟩
  exact Bool.and_eq_true_iff.mpr ⟨hone, hcomplete.2⟩

theorem Counted.storeIf (record : ModelInstanceRecord) :
    Counted (if record.runtimeModelPtr ≠ 0 then
      InstanceRegistry.storeRuntimeModelRecordLocked record w else w).now := by
  split
  · exact h.storeRuntimeModelRecordLocked ‹_›
  · exact h

theorem Counted.file (record : ModelInstanceRecord) : Counted (file record w).now := by
  unfold InstanceRegistry.file
  dsimp only
  iterate 3 refine editMapsIf ?_ _ _ fun _ => rfl
  refine storeIf ?_ _
  iterate 4 refine editMapsIf ?_ _ _ fun _ => rfl
  exact h

theorem Counted.storeRecord (record : ModelInstanceRecord) :
    Counted (storeRecord record w).now := by
  unfold InstanceRegistry.storeRecord
  dsimp only
  split
  · exact h
  · exact guarded h fun _ h' => file h' _

theorem Counted.propagateRuntimeOwnerIdentityLocked (o : InstanceOutside) (root : Ptr)
    (owner : ModelInstanceRecord) :
    Counted (propagateRuntimeOwnerIdentityLocked o root owner w).now := by
  unfold InstanceRegistry.propagateRuntimeOwnerIdentityLocked
  split
  · exact h
  · dsimp only
    split
    · exact h
    · refine guarded h fun w' h' => ?_
      induction runtimeModels o root generalizing w' with
      | nil => exact h'
      | cons runtimeModelPtr models ih => exact ih _ (editMapsIf h' _ _ fun _ => rfl)

theorem Counted.propagateRuntimeSourceObjectLocked (o : InstanceOutside) (root : Ptr)
    (source : ModelInstanceRecord) :
    Counted (propagateRuntimeSourceObjectLocked o root source w).now := by
  unfold InstanceRegistry.propagateRuntimeSourceObjectLocked
  split
  · exact h
  · refine guarded h fun w' h' => ?_
    induction runtimeModels o root generalizing w' with
    | nil => exact h'
    | cons runtimeModelPtr models ih =>
      refine ih _ ?_
      dsimp only
      split
      · rename_i hlooks
        exact storeRuntimeModelRecordLocked h' (o.memory.ne_zero_of_looksLike hlooks)
      · exact h'

theorem Counted.editSceneNode (sceneNode : Ptr)
    (change : ModelInstanceRecord → ModelInstanceRecord) :
    Counted (w.edit (editSceneNode sceneNode change)).now := h.editMaps fun _ => rfl

theorem Counted.bindModelToInstance (sceneNode : Ptr) (modelKey : UInt64) :
    Counted (bindModelToInstance sceneNode modelKey w).now := by
  unfold InstanceRegistry.bindModelToInstance
  split
  · exact h
  · refine guarded h fun w' h' => storeIf ?_ _
    refine editMapsIf ?_ _ _ fun _ => rfl
    iterate 4 refine editSceneNode ?_ _ _
    exact h'

end

theorem Counted.of_empty (htable : s.maps.byRuntimeModel = fun _ => none)
    (hbound : s.trackingRuntimeBoundCount = 0) (hcomplete : s.trackingCompleteIdentityCount = 0)
    (hasserts : s.assertsHold = true) : Counted s where
  runtimeBound := by rw [hbound, htable, Table.records_empty]; rfl
  completeIdentity := by rw [hcomplete, htable, Table.records_empty]; rfl
  asserts := hasserts

theorem counted_moves : Moves fun w => Counted w.now where
  store _ record h := h.storeRecord record
  owner _ o root record h := h.propagateRuntimeOwnerIdentityLocked o root record
  source _ o root record h := h.propagateRuntimeSourceObjectLocked o root record
  bind _ sceneNode modelKey h := h.bindModelToInstance sceneNode modelKey
  mark _ _ h := h.of_eq rfl rfl rfl rfl
  count _ _ h := h.of_eq rfl rfl rfl rfl
  begin _ h := Counted.guarded h fun _ h' => h'.of_eq rfl rfl rfl rfl
  -- The sweeps of `endFrame` are disabled.
  finish _ h := h
  reset _ h := Counted.guarded h fun _ h' => .of_empty rfl rfl rfl h'.asserts

theorem Counted.health (h : Counted s) (runVerifier : Bool) :
    (s.trackingHealthSnapshotLocked runVerifier).verifierMismatchMask = 0 ∧
      (s.trackingHealthSnapshotLocked runVerifier).verifierMismatchCount = 0 := by
  have hbound : s.maps.byRuntimeModel.scanned ModelInstanceRecord.runtimeBound =
      s.trackingRuntimeBoundCount := by
    rw [← UInt64.toNat_inj, Table.toNat_scanned, h.runtimeBound]
  have hcomplete : s.maps.byRuntimeModel.scanned ModelInstanceRecord.completeIdentity =
      s.trackingCompleteIdentityCount := by
    rw [← UInt64.toNat_inj, Table.toNat_scanned, h.completeIdentity]
  unfold trackingHealthSnapshotLocked
  dsimp only
  rw [hbound, hcomplete, Table.met_eq_size, mismatch_self, mismatch_self, mismatch_self]
  cases runVerifier <;> exact ⟨rfl, rfl⟩

end InstanceRegistry

namespace PoseRegistry

/-- `trackingHealthSnapshotLocked`. -/
def trackingHealthSnapshotLocked (s : PoseRegistry) (runVerifier : Bool) : PoseHealth :=
  let table := s.maps.byRuntimeModel
  let snapshot : PoseHealth :=
    { frameNumber := s.frameNumber
      recordCount := table.size
      readyPoseCount := s.trackingReadyPoseCount
      spriteFramePoseCount := s.trackingSpriteFramePoseCount
      matrixPaletteCount := s.trackingMatrixPaletteCount }
  if runVerifier then
    let mask := mismatch 1 snapshot.recordCount table.met |||
      mismatch 2 snapshot.readyPoseCount (table.scanned PoseRecord.readyPose) |||
      mismatch 4 snapshot.spriteFramePoseCount (table.scanned PoseRecord.spriteFramePose) |||
      mismatch 8 snapshot.matrixPaletteCount (table.scanned PoseRecord.hasMatrixPalette)
    { snapshot with
      verifierScanPasses := 1
      verifierRecordsScanned := table.met
      verifierMismatchMask := mask
      verifierMismatchCount := if mask ≠ 0 then 1 else 0 }
  else snapshot

/-- The counts of a registry are right, and no `assert` has failed. -/
structure Counted (s : PoseRegistry) : Prop where
  readyPose : s.trackingReadyPoseCount.toNat =
    s.maps.byRuntimeModel.records.countP PoseRecord.readyPose
  /-- The count of poses with the frame of a sprite. -/
  spriteFramePose : s.trackingSpriteFramePoseCount.toNat =
    s.maps.byRuntimeModel.records.countP PoseRecord.spriteFramePose
  matrixPalette : s.trackingMatrixPaletteCount.toNat =
    s.maps.byRuntimeModel.records.countP PoseRecord.hasMatrixPalette
  asserts : s.assertsHold = true

variable {s s' : PoseRegistry} {w : Writing PoseRegistry}

theorem Counted.of_eq (h : Counted s) (htable : s'.maps.byRuntimeModel = s.maps.byRuntimeModel)
    (hready : s'.trackingReadyPoseCount = s.trackingReadyPoseCount)
    (hsprite : s'.trackingSpriteFramePoseCount = s.trackingSpriteFramePoseCount)
    (hpalette : s'.trackingMatrixPaletteCount = s.trackingMatrixPaletteCount)
    (hasserts : s'.assertsHold = s.assertsHold) : Counted s' where
  readyPose := by rw [hready, htable, h.readyPose]
  spriteFramePose := by rw [hsprite, htable, h.spriteFramePose]
  matrixPalette := by rw [hpalette, htable, h.matrixPalette]
  asserts := by rw [hasserts, h.asserts]

theorem Counted.editMapsIf (h : Counted w.now) (p : Prop) [Decidable p]
    (change : PoseMaps → PoseMaps) (hchange : ∀ m, (change m).byRuntimeModel = m.byRuntimeModel) :
    Counted (w.editIf p (editMaps change)).now := by
  unfold Writing.editIf
  split
  · exact h.of_eq (hchange _) rfl rfl rfl rfl
  · exact h

theorem Counted.guarded (h : Counted w.now) {body : Writing PoseRegistry → Writing PoseRegistry}
    (hbody : ∀ w', Counted w'.now → Counted (body w').now) : Counted (guarded body w).now := by
  have hopen : Counted (w.edit bump).now := h.of_eq rfl rfl rfl rfl rfl
  exact (hbody _ hopen).of_eq rfl rfl rfl rfl rfl

theorem Counted.storeRuntimeModelRecordLocked (h : Counted w.now) {record : PoseRecord}
    (hkey : record.runtimeModelPtr ≠ 0) : Counted (storeRuntimeModelRecordLocked record w).now := by
  have hready := Table.toNat_recount w.now.maps.byRuntimeModel record.runtimeModelPtr record
    PoseRecord.readyPose h.readyPose
  have hsprite := Table.toNat_recount w.now.maps.byRuntimeModel record.runtimeModelPtr record
    PoseRecord.spriteFramePose h.spriteFramePose
  have hpalette := Table.toNat_recount w.now.maps.byRuntimeModel record.runtimeModelPtr record
    PoseRecord.hasMatrixPalette h.matrixPalette
  unfold PoseRegistry.storeRuntimeModelRecordLocked
  rw [if_neg hkey]
  refine ⟨hready.1, hsprite.1, hpalette.1, ?_⟩
  have htwo := Bool.and_eq_true_iff.mpr ⟨Bool.and_eq_true_iff.mpr ⟨h.asserts, hready.2⟩, hsprite.2⟩
  exact Bool.and_eq_true_iff.mpr ⟨htwo, hpalette.2⟩

theorem Counted.storeRecord (h : Counted w.now) (record : PoseRecord) :
    Counted (storeRecord record w).now := by
  unfold PoseRegistry.storeRecord
  dsimp only
  iterate 2 refine editMapsIf ?_ _ _ fun _ => rfl
  split
  · exact h.storeRuntimeModelRecordLocked ‹_›
  · exact h

theorem Counted.of_empty (htable : s.maps.byRuntimeModel = fun _ => none)
    (hready : s.trackingReadyPoseCount = 0) (hsprite : s.trackingSpriteFramePoseCount = 0)
    (hpalette : s.trackingMatrixPaletteCount = 0) (hasserts : s.assertsHold = true) :
    Counted s where
  readyPose := by rw [hready, htable, Table.records_empty]; rfl
  spriteFramePose := by rw [hsprite, htable, Table.records_empty]; rfl
  matrixPalette := by rw [hpalette, htable, Table.records_empty]; rfl
  asserts := hasserts

theorem counted_moves : Moves fun w => Counted w.now where
  store _ _ h := Counted.guarded h fun _ h' => h'.storeRecord _
  begin _ h := h.of_eq rfl rfl rfl rfl rfl
  reset _ h := Counted.guarded h fun _ h' => .of_empty rfl rfl rfl rfl h'.asserts

theorem Counted.health (h : Counted s) (runVerifier : Bool) :
    (s.trackingHealthSnapshotLocked runVerifier).verifierMismatchMask = 0 ∧
      (s.trackingHealthSnapshotLocked runVerifier).verifierMismatchCount = 0 := by
  have hready : s.maps.byRuntimeModel.scanned PoseRecord.readyPose = s.trackingReadyPoseCount := by
    rw [← UInt64.toNat_inj, Table.toNat_scanned, h.readyPose]
  have hsprite : s.maps.byRuntimeModel.scanned PoseRecord.spriteFramePose =
      s.trackingSpriteFramePoseCount := by
    rw [← UInt64.toNat_inj, Table.toNat_scanned, h.spriteFramePose]
  have hpalette : s.maps.byRuntimeModel.scanned PoseRecord.hasMatrixPalette =
      s.trackingMatrixPaletteCount := by
    rw [← UInt64.toNat_inj, Table.toNat_scanned, h.matrixPalette]
  unfold trackingHealthSnapshotLocked
  dsimp only
  rw [hready, hsprite, hpalette, Table.met_eq_size, mismatch_self, mismatch_self, mismatch_self,
    mismatch_self]
  cases runVerifier <;> exact ⟨rfl, rfl⟩

end PoseRegistry

/-! ## After any calls -/

/-- After any calls the counts are those of a scan, the verifiers report nothing and no count was taken
below zero. -/
theorem trackingCounts_scanned :
    (∀ calls : List (InstanceOutside × InstanceRegistry.Writer),
      let s := InstanceRegistry.run calls
      let records := s.maps.byRuntimeModel.records
      s.trackingRuntimeBoundCount.toNat = records.countP ModelInstanceRecord.runtimeBound ∧
      s.trackingCompleteIdentityCount.toNat =
        records.countP ModelInstanceRecord.completeIdentity ∧
      (∀ runVerifier, (s.trackingHealthSnapshotLocked runVerifier).verifierMismatchMask = 0 ∧
        (s.trackingHealthSnapshotLocked runVerifier).verifierMismatchCount = 0) ∧
      s.assertsHold = true) ∧
    (∀ calls : List PoseRegistry.Writer,
      let s := PoseRegistry.run calls
      let records := s.maps.byRuntimeModel.records
      s.trackingReadyPoseCount.toNat = records.countP PoseRecord.readyPose ∧
      s.trackingSpriteFramePoseCount.toNat = records.countP PoseRecord.spriteFramePose ∧
      s.trackingMatrixPaletteCount.toNat = records.countP PoseRecord.hasMatrixPalette ∧
      (∀ runVerifier, (s.trackingHealthSnapshotLocked runVerifier).verifierMismatchMask = 0 ∧
        (s.trackingHealthSnapshotLocked runVerifier).verifierMismatchCount = 0) ∧
      s.assertsHold = true) := by
  constructor
  · intro calls
    have h := InstanceRegistry.counted_moves.run (.of_empty rfl rfl rfl rfl) calls
    exact ⟨h.runtimeBound, h.completeIdentity, h.health, h.asserts⟩
  · intro calls
    have h := PoseRegistry.counted_moves.run (.of_empty rfl rfl rfl rfl rfl) calls
    exact ⟨h.readyPose, h.spriteFramePose, h.matrixPalette, h.health, h.asserts⟩

end War3VK.Model
