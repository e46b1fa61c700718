import War3VK.Model.InstanceRegistryCalls

/-!
# The skip of the registry of model instances

An object that `trySkipExactSameFrameRenderObjectLocked` accepts has one record under all its keys
(`Settled`). Nothing of this depends on how the registry came to its tables.
-/

namespace War3VK.Model

open Lib

namespace ModelInstanceRecord

@[simp]
theorem merge_self (c : ModelInstanceRecord) : c.merge c = c := by simp [merge]

@[simp]
theorem empty_merge (c : ModelInstanceRecord) : ({} : ModelInstanceRecord).merge c = c := by
  simp [merge]

theorem eq_of_hasSamePayloadExact {a b : ModelInstanceRecord} (h : a.hasSamePayloadExact b = true)
    (hseen : b.lastSeenFrame = a.lastSeenFrame)
    (hbatch : b.lastSceneCollectorBatchFrame = a.lastSceneCollectorBatchFrame) : b = a := by
  cases a
  cases b
  simp only [hasSamePayloadExact, Bool.and_eq_true, beq_iff_eq] at h
  simp_all

section

variable {κ : Type} [DecidableEq κ] [OfNat κ 0] {table : Table κ ModelInstanceRecord} {key : κ}
  {c : ModelInstanceRecord}

theorem absorb_self (h : ∀ r, table.find key = some r → r = c) : absorb table key c = c := by
  unfold absorb
  cases hfind : table.find key with
  | none => rfl
  | some r =>
    obtain rfl := h r hfind
    exact merge_self r

theorem absorb_first (h : table.find key = some c) : absorb table key {} = c := by
  unfold absorb
  rw [h]
  exact empty_merge c

end

end ModelInstanceRecord

namespace InstanceRegistry

/-- All keys of a record lead to it, and the owner of its runtime model is noted. -/
structure Settled (maps : InstanceMaps) (frame : UInt64) (c : ModelInstanceRecord) : Prop where
  sceneNode : maps.bySceneNode c.sceneNode = some c
  worldObjectEntry : maps.byWorldObjectEntry c.worldObjectEntry = some c
  unitPtr : maps.byUnitPtr c.unitPtr = some c
  spritePtr : maps.bySpritePtr c.spritePtr = some c
  runtimeModelPtr : maps.byRuntimeModel c.runtimeModelPtr = some c
  sourceObjectPtr : c.sourceObjectPtr ≠ 0 → maps.bySourceObject c.sourceObjectPtr = some c
  sourceSpriteObjectPtr :
    c.sourceSpriteObjectPtr ≠ 0 → maps.bySourceSpriteObject c.sourceSpriteObjectPtr = some c
  jHandle : c.jHandle ≠ 0 → maps.byHandle c.jHandle = some c
  owner : (maps.runtimeOwnerByRuntimeModel c.runtimeModelPtr).any (fun existing =>
    existing.lastSeenFrame = frame && existing.hasExactRuntimeOwnerProof c) = true
  lastSeenFrame : c.lastSeenFrame = frame
  /-- It has all pointers and frames that a record needs. -/
  complete : c.firstSeenFrame ≠ 0 ∧ c.worldObjectEntry ≠ 0 ∧ c.sceneNode ≠ 0 ∧ c.unitPtr ≠ 0 ∧
    c.spritePtr ≠ 0 ∧ c.runtimeModelPtr ≠ 0 ∧ c.modelKey ≠ 0 ∧ c.modelResourcePtr ≠ 0

structure Agrees (info : RenderObjectInfo) (c : ModelInstanceRecord) : Prop where
  worldObjectEntry : c.worldObjectEntry = info.worldObjectEntry
  sceneNode : c.sceneNode = info.sceneNode
  unitPtr : c.unitPtr = info.unitPtr
  jHandle : info.jHandle ≠ 0 → c.jHandle = info.jHandle
  rawcode : info.rawcode ≠ 0 → c.rawcode = info.rawcode

variable {maps : InstanceMaps} {info : RenderObjectInfo} {frame : UInt64} {c : ModelInstanceRecord}

/-! ## What is accepted -/

theorem eq_of_validateAlias {κ : Type} {table : Table κ ModelInstanceRecord} {key : κ}
    (hseen : c.lastSeenFrame = frame) (hbatch : c.lastSceneCollectorBatchFrame = frame)
    (h : validateAlias c frame table key = .hit) : table key = some c := by
  unfold validateAlias at h
  split at h
  · cases h
  · rename_i r hr
    split_ifs at h with hr1 hr2 hr3
    rw [not_not] at hr1 hr2
    rw [hr, ModelInstanceRecord.eq_of_hasSamePayloadExact (by simpa using hr3) (hr1.trans hseen.symm)
      (hr2.trans hbatch.symm)]

theorem of_skipCanonical (h : skipCanonical maps info frame = .ok c) :
    maps.bySceneNode info.sceneNode = some c ∧ Agrees info c ∧ c.lastSeenFrame = frame ∧
      c.lastSceneCollectorBatchFrame = frame ∧ (c.firstSeenFrame ≠ 0 ∧ c.worldObjectEntry ≠ 0 ∧
        c.sceneNode ≠ 0 ∧ c.unitPtr ≠ 0 ∧ c.spritePtr ≠ 0 ∧ c.runtimeModelPtr ≠ 0 ∧
        c.modelKey ≠ 0 ∧ c.modelResourcePtr ≠ 0) := by
  unfold skipCanonical at h
  split at h
  · cases h
  · split at h
    · cases h
    · rename_i hkeys r hr
      split_ifs at h with h1 h2 h3 h4
      obtain rfl : r = c := Except.ok.inj h
      rw [not_not] at h1 h2
      simp only [not_or, not_and, not_not] at h3 h4
      obtain ⟨hworld, hscene, hunit, hhandle, hcode⟩ := h3
      exact ⟨hr, ⟨hworld, hscene, hunit, hhandle, hcode⟩, h1, h2, h4⟩

theorem skipCanonical_ne_hit : skipCanonical maps info frame ≠ .error .hit := by
  unfold skipCanonical
  split
  · simp
  · split
    · simp
    · split_ifs <;> simp

theorem settled_of_hit (h : skipOutcome maps info frame = .hit) :
    ∃ c, Settled maps frame c ∧ Agrees info c := by
  unfold skipOutcome at h
  split at h
  · rename_i outcome herror
    subst h
    exact absurd herror skipCanonical_ne_hit
  · rename_i c hc
    obtain ⟨hscene, hagrees, hseen, hbatch, hcomplete⟩ := of_skipCanonical hc
    rw [firstMiss_eq_hit] at h
    simp only [List.mem_cons, List.not_mem_nil, or_false, forall_eq_or_imp, forall_eq] at h
    obtain ⟨hworld, hunit, hsprite, hmodel, hsource, hsourceSprite, hhandle, howner⟩ := h
    have hclean {κ : Type} {table : Table κ ModelInstanceRecord} {key : κ}
        (h : validateAlias c frame table key = .hit) : table key = some c :=
      eq_of_validateAlias hseen hbatch h
    refine ⟨c, ⟨hagrees.sceneNode ▸ hscene, hclean hworld, hclean hunit, hclean hsprite,
      hclean hmodel, fun hne => ?_, fun hne => ?_, fun hne => ?_, ?_, hseen, hcomplete⟩, hagrees⟩
    · exact hclean (by simpa [hne] using hsource)
    · exact hclean (by simpa [hne] using hsourceSprite)
    · exact hclean (by simpa [hne] using hhandle)
    · split at howner
      · cases howner
      · rename_i owner hsome
        split_ifs at howner with hmiss
        simp only [not_or, not_not, Bool.not_eq_true', Bool.not_eq_false] at hmiss
        rw [hsome]
        simp [hmiss.1, hmiss.2.2]

/-! ## What is noted again -/

variable {s : InstanceRegistry} {w : Writing InstanceRegistry}

theorem Settled.merged (h : Settled maps frame c) : merged maps c = c := by
  obtain ⟨-, hworld, hscene, hunit, hsprite, hmodel, -, -⟩ := h.complete
  have hfind {κ : Type} [DecidableEq κ] [OfNat κ 0] {table : Table κ ModelInstanceRecord} {key : κ}
      (hkey : key ≠ 0 → table key = some c) : ModelInstanceRecord.absorb table key c = c :=
    ModelInstanceRecord.absorb_self fun _ => Table.eq_of_find hkey
  unfold InstanceRegistry.merged
  dsimp only
  rw [ModelInstanceRecord.absorb_first ((Table.find_of_ne hworld).trans h.worldObjectEntry),
    hfind fun _ => h.sceneNode, hfind fun _ => h.unitPtr, hfind fun _ => h.spritePtr,
    hfind fun _ => h.runtimeModelPtr, hfind h.sourceObjectPtr, hfind h.sourceSpriteObjectPtr,
    hfind h.jHandle, ModelInstanceRecord.merge_self]

def Reaches (maps : InstanceMaps) (frame : UInt64) (w : Writing InstanceRegistry) : Prop :=
  w.now.maps = maps ∧ w.now.frameNumber = frame

theorem Reaches.editIf (hw : Reaches maps frame w) {p : Prop} [Decidable p]
    {change : InstanceMaps → InstanceMaps} (hchange : p → change maps = maps) :
    Reaches maps frame (w.editIf p (editMaps change)) := by
  unfold Writing.editIf
  split
  · refine ⟨?_, hw.2⟩
    calc (w.edit (editMaps change)).now.maps = change w.now.maps := rfl
      _ = maps := by rw [hw.1, hchange ‹_›]
  · exact hw

theorem Reaches.storeRuntimeModelRecordLocked (hw : Reaches maps frame w)
    (hmodel : maps.byRuntimeModel c.runtimeModelPtr = some c) :
    Reaches maps frame (storeRuntimeModelRecordLocked c w) := by
  unfold InstanceRegistry.storeRuntimeModelRecordLocked
  split
  · exact hw
  · refine ⟨?_, hw.2⟩
    calc ({ w.now.maps with
          byRuntimeModel := w.now.maps.byRuntimeModel.put c.runtimeModelPtr c } : InstanceMaps)
        = { maps with byRuntimeModel := maps.byRuntimeModel.put c.runtimeModelPtr c } := by
          rw [hw.1]
      _ = maps := by rw [Table.put_eq_self hmodel]

theorem Reaches.storeRuntimeModelRecordIf (hw : Reaches maps frame w) {p : Prop} [Decidable p]
    (hmodel : maps.byRuntimeModel c.runtimeModelPtr = some c) :
    Reaches maps frame
      (if p then InstanceRegistry.storeRuntimeModelRecordLocked c w else w) := by
  split
  · exact storeRuntimeModelRecordLocked hw hmodel
  · exact hw

theorem Reaches.file (hw : Reaches maps frame w) (h : Settled maps frame c) :
    Reaches maps frame (file c w) := by
  unfold InstanceRegistry.file
  dsimp only
  refine editIf ?_ fun hne => by rw [Table.put_eq_self (h.jHandle hne)]
  refine editIf ?_ fun hne => by rw [Table.put_eq_self (h.sourceSpriteObjectPtr hne)]
  refine editIf ?_ fun hne => by rw [Table.put_eq_self (h.sourceObjectPtr hne)]
  refine storeRuntimeModelRecordIf ?_ h.runtimeModelPtr
  refine editIf ?_ fun _ => by rw [Table.put_eq_self h.spritePtr]
  refine editIf ?_ fun _ => by rw [Table.put_eq_self h.unitPtr]
  refine editIf ?_ fun _ => by rw [Table.put_eq_self h.sceneNode]
  exact editIf hw fun _ => by rw [Table.put_eq_self h.worldObjectEntry]

theorem Reaches.storeRecord (hw : Reaches maps frame w) (h : Settled maps frame c) :
    Reaches maps frame (storeRecord c w) := by
  unfold InstanceRegistry.storeRecord
  rw [hw.1, h.merged]
  dsimp only
  split
  · exact hw
  · exact file (w := w.edit bump) hw h

theorem Reaches.propagate (o : InstanceOutside) (hw : Reaches maps frame w)
    (h : Settled maps frame c) :
    propagateRuntimeOwnerIdentityLocked o c.runtimeModelPtr c w = w := by
  unfold propagateRuntimeOwnerIdentityLocked
  rw [hw.1, hw.2]
  dsimp only
  rw [if_pos h.owner, ite_self]

theorem Settled.knownIdentity (h : Settled maps frame c) (hagrees : Agrees info c) :
    knownIdentity maps info.sceneNode info.unitPtr 0 info.jHandle = c := by
  obtain ⟨-, -, hscene, -, -, -, -, -⟩ := h.complete
  have hhandle : info.jHandle ≠ 0 → maps.byHandle info.jHandle = some c := fun hne => by
    have heq := hagrees.jHandle hne
    rw [← heq] at hne ⊢
    exact h.jHandle hne
  unfold InstanceRegistry.knownIdentity
  dsimp only
  rw [← hagrees.sceneNode, ← hagrees.unitPtr,
    ModelInstanceRecord.absorb_first ((Table.find_of_ne hscene).trans h.sceneNode),
    ModelInstanceRecord.absorb_self fun _ => Table.eq_of_find fun _ => h.unitPtr,
    ModelInstanceRecord.absorb_self fun _ => Table.eq_of_find fun hne => absurd rfl hne,
    ModelInstanceRecord.absorb_self fun _ => Table.eq_of_find hhandle]

theorem Settled.identityRecord (o : InstanceOutside) (h : Settled maps frame c)
    (hagrees : Agrees info c) :
    identityRecord o maps frame info.worldObjectEntry info.sceneNode info.unitPtr 0 info.jHandle
      info.rawcode = c := by
  obtain ⟨hfirst, -, -, -, hsprite, hmodel, hkey, hresource⟩ := h.complete
  have hnamed : named info.worldObjectEntry info.sceneNode info.unitPtr 0 c = c := by
    rw [← hagrees.worldObjectEntry, ← hagrees.sceneNode, ← hagrees.unitPtr]
    unfold named
    rw [carry_unset]
  have hcoded : coded info.jHandle info.rawcode c = c := by
    unfold coded
    rw [carry_of_agrees hagrees.jHandle, carry_of_agrees hagrees.rawcode]
  -- The sprite, the runtime model and its resource are known, so nothing is read outside.
  have hunit : withUnitSprite o c = c := if_neg fun hne => hsprite hne.2.1
  have hruntime : withRuntimeModel o c = c := if_neg fun hne => hmodel hne.2
  have hmissing : withMissingModel o c = c := if_neg fun hne => by
    obtain hne | hne | hne := hne.2
    · exact hkey hne
    · exact hresource hne
    · exact hmodel hne
  have hseen : seen frame c = c := by
    unfold seen
    rw [if_neg hfirst, ← h.lastSeenFrame]
  unfold InstanceRegistry.identityRecord
  rw [h.knownIdentity hagrees]
  dsimp only
  rw [hnamed, hunit, hcoded, hruntime, hmissing, hseen]

theorem maps_noteInstanceIdentityLocked (o : InstanceOutside)
    (h : skipOutcome w.now.maps info w.now.frameNumber = .hit) :
    (noteInstanceIdentityLocked o info.worldObjectEntry info.sceneNode info.unitPtr 0 info.jHandle
      info.rawcode false w).now.maps = w.now.maps := by
  obtain ⟨c, hc, hagrees⟩ := settled_of_hit h
  have hstored : Reaches w.now.maps w.now.frameNumber (storeRecord c w) :=
    Reaches.storeRecord ⟨rfl, rfl⟩ hc
  have hnoted : storeWithOwner o c w = storeRecord c w := by
    unfold storeWithOwner
    split
    · exact hstored.propagate o hc
    · rfl
  unfold noteInstanceIdentityLocked
  split
  · rfl
  · dsimp only
    rw [hc.identityRecord o hagrees]
    calc (storeWithOwner o c w).now.maps = (storeRecord c w).now.maps := by rw [hnoted]
      _ = w.now.maps := hstored.1

end InstanceRegistry

end War3VK.Model

/-!
## What the calls of the registry of model instances keep

All calls that write are made of a few moves: a record is stored, an owner or a source object is noted
for a tree of runtime models, a record is changed where it is, a batch or an attempt to skip is counted,
and frames begin and sessions end. What the moves keep every call keeps (`Moves.write`).
-/

namespace War3VK.Model.InstanceRegistry

open Lib

/-! ### Moves -/

structure Moves (Q : Writing InstanceRegistry → Prop) : Prop where
  store : ∀ w record, Q w → Q (storeRecord record w)
  owner : ∀ w o root record, Q w → Q (propagateRuntimeOwnerIdentityLocked o root record w)
  source : ∀ w o root record, Q w → Q (propagateRuntimeSourceObjectLocked o root record w)
  bind : ∀ w sceneNode modelKey, Q w → Q (bindModelToInstance sceneNode modelKey w)
  mark : ∀ w frame, Q w → Q (w.edit (markBatch frame))
  count : ∀ w outcome, Q w → Q (w.edit (countAttempt outcome))
  begin : ∀ w, Q w → Q (beginFrame w)
  finish : ∀ w, Q w → Q (endFrame w)
  reset : ∀ w, Q w → Q (resetMapSession w)

namespace Moves

variable {Q : Writing InstanceRegistry → Prop} {w : Writing InstanceRegistry}

theorem noteInstanceIdentityLocked (hQ : Moves Q) (h : Q w) (o : InstanceOutside)
    (worldObjectEntry sceneNode unitPtr spritePtr : Ptr) (jHandle rawcode : UInt32) (batch : Bool) :
    Q (noteInstanceIdentityLocked o worldObjectEntry sceneNode unitPtr spritePtr jHandle rawcode
      batch w) := by
  unfold InstanceRegistry.noteInstanceIdentityLocked
  split
  · exact h
  · have hmark : Q (w.editIf (batch = true) (markBatch w.now.frameNumber)) := by
      unfold Writing.editIf
      split
      · exact hQ.mark _ _ h
      · exact h
    unfold storeWithOwner
    dsimp only
    split
    · exact hQ.owner _ _ _ _ (hQ.store _ _ hmark)
    · exact hQ.store _ _ hmark

theorem noteRenderObject (hQ : Moves Q) (h : Q w) (o : InstanceOutside) (info : RenderObjectInfo) :
    Q (noteRenderObject o info w) := by
  have htry := hQ.count w (skipOutcome w.now.maps info w.now.frameNumber) h
  unfold InstanceRegistry.noteRenderObject trySkipExactSameFrameRenderObjectLocked
  dsimp only
  split_ifs
  · exact h
  · exact htry
  · exact hQ.noteInstanceIdentityLocked htry o _ _ _ _ _ _ _
  · exact hQ.noteInstanceIdentityLocked h o _ _ _ _ _ _ _

theorem noteBatch (hQ : Moves Q) (o : InstanceOutside) (infos : List (Option RenderObjectInfo))
    (h : Q w) : Q (infos.foldl (noteBatched o) w) := by
  induction infos generalizing w with
  | nil => exact h
  | cons info infos ih =>
    refine ih ?_
    unfold noteBatched
    split
    · exact h
    · split
      · exact h
      · exact hQ.noteInstanceIdentityLocked h o _ _ _ _ _ _ _

theorem write (hQ : Moves Q) (h : Q w) (o : InstanceOutside) (call : Writer) :
    Q (write o call w) := by
  cases call with
  | beginFrame => exact hQ.begin _ h
  | endFrame => exact hQ.finish _ h
  | resetMapSession => exact hQ.reset _ h
  | noteRenderObject info => exact hQ.noteRenderObject h o info
  | noteRenderObjectsBatch infos => exact hQ.noteBatch o infos h
  | noteInstanceIdentity => exact hQ.noteInstanceIdentityLocked h o _ _ _ _ _ _ _
  | bindSpriteToInstance unitPtr spritePtr =>
    unfold InstanceRegistry.write InstanceRegistry.bindSpriteToInstance
    dsimp only
    split_ifs
    · exact h
    · exact hQ.owner _ _ _ _ (hQ.store _ _ h)
    · exact hQ.store _ _ h
  | bindRuntimeModelToSprite =>
    unfold InstanceRegistry.write InstanceRegistry.bindRuntimeModelToSprite
    dsimp only
    split_ifs
    · exact h
    · exact hQ.owner _ _ _ _ (hQ.store _ _ h)
    · exact hQ.store _ _ h
  | noteRuntimeCreationProvenance =>
    unfold InstanceRegistry.write InstanceRegistry.noteRuntimeCreationProvenance
    dsimp only
    split_ifs
    · exact h
    · exact hQ.store _ _ h
  | noteRuntimeResolveProvenance =>
    unfold InstanceRegistry.write InstanceRegistry.noteRuntimeResolveProvenance
    dsimp only
    split_ifs
    · exact h
    · exact hQ.store _ _ h
  | noteRuntimeSourceObject =>
    unfold InstanceRegistry.write InstanceRegistry.noteRuntimeSourceObject
    dsimp only
    split_ifs
    · exact h
    · exact hQ.owner _ _ _ _ (hQ.source _ _ _ _ (hQ.store _ _ h))
    · exact hQ.source _ _ _ _ (hQ.store _ _ h)
  | noteRuntimeOwnerIdentity =>
    unfold InstanceRegistry.write InstanceRegistry.noteRuntimeOwnerIdentity
    dsimp only
    split_ifs
    · exact h
    · exact hQ.owner _ _ _ _ (hQ.store _ _ h)
  | bindModelToInstance => exact hQ.bind _ _ _ h

theorem run {P : InstanceRegistry → Prop} (hP : Moves fun w => P w.now) (h : P {})
    (calls : List (InstanceOutside × Writer)) : P (run calls) := by
  have hrun : ∀ s : InstanceRegistry, P s →
      P (calls.foldl (fun s call => (InstanceRegistry.write call.1 call.2 (.start s)).now) s) := by
    induction calls with
    | nil => exact fun s h => h
    | cons call calls ih => exact fun s h => ih _ (hP.write (w := .start s) h call.1 call.2)
  exact hrun _ h

end Moves

/-! ### Generations -/

abbrev Kept (parity : ℕ → Prop) (s : InstanceRegistry) (w : Writing InstanceRegistry) : Prop :=
  Tracked mutationGeneration look parity s w

variable {s : InstanceRegistry} {w : Writing InstanceRegistry}

theorem Kept.guarded (h : Kept Even s w) {body : Writing InstanceRegistry → Writing InstanceRegistry}
    (hbody : ∀ w', Kept Odd s w' → Kept Odd s (body w')) : Kept Even s (guarded body w) :=
  Tracked.guarded h (fun _ => rfl) hbody

theorem Kept.editMaps (h : Kept Odd s w) (change : InstanceMaps → InstanceMaps) :
    Kept Odd s (w.edit (editMaps change)) := h.inside rfl

theorem Kept.editMapsIf (h : Kept Odd s w) (p : Prop) [Decidable p]
    (change : InstanceMaps → InstanceMaps) : Kept Odd s (w.editIf p (InstanceRegistry.editMaps change)) :=
  h.insideIf rfl

theorem Kept.storeRuntimeModelRecordLocked (h : Kept Odd s w) (record : ModelInstanceRecord) :
    Kept Odd s (storeRuntimeModelRecordLocked record w) := by
  unfold InstanceRegistry.storeRuntimeModelRecordLocked
  split
  · exact Tracked.inside h rfl
  · refine Tracked.inside (Tracked.inside ?_ rfl) rfl
    exact h.editMaps _

theorem Kept.storeRuntimeModelRecordIf (h : Kept Odd s w) (p : Prop) [Decidable p]
    (record : ModelInstanceRecord) :
    Kept Odd s (if p then InstanceRegistry.storeRuntimeModelRecordLocked record w else w) := by
  split
  · exact storeRuntimeModelRecordLocked h record
  · exact h

theorem Kept.file (h : Kept Odd s w) (merged : ModelInstanceRecord) :
    Kept Odd s (file merged w) := by
  unfold InstanceRegistry.file
  dsimp only
  refine editMapsIf (editMapsIf (editMapsIf ?_ _ _) _ _) _ _
  refine storeRuntimeModelRecordIf ?_ _ _
  exact editMapsIf (editMapsIf (editMapsIf (editMapsIf h _ _) _ _) _ _) _ _

theorem Kept.storeRecord (h : Kept Even s w) (record : ModelInstanceRecord) :
    Kept Even s (storeRecord record w) := by
  unfold InstanceRegistry.storeRecord
  dsimp only
  split
  · exact h
  · exact guarded h fun _ h' => file h' _

theorem Kept.propagateRuntimeOwnerIdentityLocked (h : Kept Even s w) (o : InstanceOutside)
    (root : Ptr) (owner : ModelInstanceRecord) :
    Kept Even s (propagateRuntimeOwnerIdentityLocked o root owner w) := by
  unfold InstanceRegistry.propagateRuntimeOwnerIdentityLocked
  split
  · exact h
  · dsimp only
    split
    · exact h
    · exact guarded h fun _ h' => h'.foldl (fun _ _ h'' => h''.insideIf rfl) _

theorem Kept.propagateRuntimeSourceObjectLocked (h : Kept Even s w) (o : InstanceOutside)
    (root : Ptr) (source : ModelInstanceRecord) :
    Kept Even s (propagateRuntimeSourceObjectLocked o root source w) := by
  unfold InstanceRegistry.propagateRuntimeSourceObjectLocked
  split
  · exact h
  · refine guarded h fun _ h' => h'.foldl (fun w' _ h'' => ?_) _
    split
    · exact storeRuntimeModelRecordLocked h'' _
    · exact h''

theorem Kept.bindModelToInstance (h : Kept Even s w) (sceneNode : Ptr) (modelKey : UInt64) :
    Kept Even s (bindModelToInstance sceneNode modelKey w) := by
  unfold InstanceRegistry.bindModelToInstance
  split
  · exact h
  · refine guarded h fun w' h' => storeRuntimeModelRecordIf ?_ _ _
    exact editMapsIf (editMaps (editMaps (editMaps (editMaps h' _) _) _) _) _ _

theorem Kept.frames (h : Kept Even s w) :
    Kept Even s (beginFrame w) ∧ Kept Even s (endFrame w) ∧ Kept Even s (resetMapSession w) := by
  refine ⟨guarded h fun _ h' => h'.inside rfl, ?_, guarded h fun _ h' => ?_⟩
  · unfold endFrame
    split
    · exact h
    · refine guarded h fun _ h' => ?_
      iterate 9 refine editMaps ?_ _
      exact h'
  · refine Tracked.inside (Tracked.inside ?_ rfl) rfl
    iterate 9 refine editMaps ?_ _
    exact h'

theorem kept_write (h : Kept Even s w) (o : InstanceOutside) (call : Writer) :
    Kept Even s (write o call w) := by
  have hmoves : Moves (Kept Even s) :=
    { store := fun _ record h' => Kept.storeRecord h' record
      owner := fun _ o root record h' => Kept.propagateRuntimeOwnerIdentityLocked h' o root record
      source := fun _ o root record h' => Kept.propagateRuntimeSourceObjectLocked h' o root record
      bind := fun _ sceneNode modelKey h' => Kept.bindModelToInstance h' sceneNode modelKey
      mark := fun _ _ h' => h'.quiet rfl rfl
      count := fun _ _ h' => h'.quiet rfl rfl
      begin := fun _ h' => (Kept.frames h').1
      finish := fun _ h' => (Kept.frames h').2.1
      reset := fun _ h' => (Kept.frames h').2.2 }
  exact hmoves.write h o call

end War3VK.Model.InstanceRegistry
