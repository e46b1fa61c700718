import War3VK.Render.ShadowRegistryCalls
import War3VK.Model.InstanceRegistrySkip

/-!
# What the calls of the registry of shadow objects keep

All calls that write are made of a few moves: a record is stored, a batch or an attempt to skip is
counted, and frames begin and sessions end. What the moves keep every call keeps (`Moves.write`).
-/

namespace War3VK.Render.ShadowRegistry

open Lib Model

/-! ## Moves -/

structure Moves (Q : Writing ShadowRegistry → Prop) : Prop where
  store : ∀ w record, Q w → Q (storeRecord record w)
  mark : ∀ w frame, Q w → Q (w.edit (markBatch frame))
  count : ∀ w outcome, Q w → Q (w.edit (countAttempt outcome))
  begin : ∀ w, Q w → Q (beginFrame w)
  reset : ∀ w, Q w → Q (resetMapSession w)

namespace Moves

variable {Q : Writing ShadowRegistry → Prop} {w : Writing ShadowRegistry}

theorem noteInstanceIdentityLocked (hQ : Moves Q) (h : Q w) (o : ShadowOutside)
    (worldObjectEntry sceneNode unitPtr spritePtr : Ptr) (jHandle rawcode : UInt32)
    (kind : ObjectKind) (batch : Bool) :
    Q (noteInstanceIdentityLocked o worldObjectEntry sceneNode unitPtr spritePtr jHandle rawcode kind
      batch w) := by
  unfold ShadowRegistry.noteInstanceIdentityLocked
  split
  · exact h
  · refine hQ.store _ _ ?_
    unfold Writing.editIf
    split
    · exact hQ.mark _ _ h
    · exact h

theorem noteRenderObject (hQ : Moves Q) (h : Q w) (o : ShadowOutside) (info : RenderObjectInfo) :
    Q (noteRenderObject o info w) := by
  have htry := hQ.count w (skipOutcome w.now.maps info w.now.frameNumber) h
  unfold ShadowRegistry.noteRenderObject trySkipExactSameFrameRenderObjectLocked
  dsimp only
  split_ifs
  · exact h
  · exact htry
  · exact hQ.noteInstanceIdentityLocked htry o _ _ _ _ _ _ _ _
  · exact hQ.noteInstanceIdentityLocked h o _ _ _ _ _ _ _ _

theorem noteBatch (hQ : Moves Q) (o : ShadowOutside) (infos : List (Option RenderObjectInfo))
    (h : Q w) : Q (infos.foldl (noteBatched o) w) := by
  induction infos generalizing w with
  | nil => exact h
  | cons info infos ih =>
    refine ih ?_
    unfold noteBatched
    split
    · exact h
    · split
      · exact h
      · exact hQ.noteInstanceIdentityLocked h o _ _ _ _ _ _ _ _

theorem write (hQ : Moves Q) (h : Q w) (o : ShadowOutside) (call : Writer) : Q (write o call w) := by
  cases call with
  | beginFrame => exact hQ.begin _ h
  | endFrame => exact h
  | resetMapSession => exact hQ.reset _ h
  | noteRenderObject info => exact hQ.noteRenderObject h o info
  | noteRenderObjectsBatch infos => exact hQ.noteBatch o infos h
  | noteInstanceIdentity => exact hQ.noteInstanceIdentityLocked h o _ _ _ _ _ _ _ _
  | noteModelBinding =>
    unfold ShadowRegistry.write ShadowRegistry.noteModelBinding
    dsimp only
    split
    · exact h
    · exact hQ.store _ _ h
  | notePose =>
    unfold ShadowRegistry.write ShadowRegistry.notePose
    dsimp only
    split
    · exact h
    · exact hQ.store _ _ h
  | noteSpriteFramePose =>
    unfold ShadowRegistry.write ShadowRegistry.noteSpriteFramePose
    dsimp only
    split
    · exact h
    · exact hQ.store _ _ h

end Moves

/-! ## Generations -/

abbrev Kept (parity : ℕ → Prop) (s : ShadowRegistry) (w : Writing ShadowRegistry) : Prop :=
  Tracked mutationGeneration look parity s w

variable {s : ShadowRegistry} {w : Writing ShadowRegistry}

theorem Kept.guarded (h : Kept Even s w) {body : Writing ShadowRegistry → Writing ShadowRegistry}
    (hbody : ∀ w', Kept Odd s w' → Kept Odd s (body w')) : Kept Even s (guarded body w) :=
  Tracked.guarded h (fun _ => rfl) hbody

theorem Kept.editMaps (h : Kept Odd s w) (change : ShadowMaps → ShadowMaps) :
    Kept Odd s (w.edit (editMaps change)) := h.inside rfl

theorem Kept.editMapsIf (h : Kept Odd s w) (p : Prop) [Decidable p]
    (change : ShadowMaps → ShadowMaps) : Kept Odd s (w.editIf p (ShadowRegistry.editMaps change)) :=
  h.insideIf rfl

theorem Kept.storeRecord (h : Kept Even s w) (record : ShadowObjectRecord) :
    Kept Even s (storeRecord record w) := by
  unfold ShadowRegistry.storeRecord
  dsimp only
  split
  · exact h
  · refine guarded h fun _ h' => ?_
    unfold file
    dsimp only
    iterate 6 refine editMapsIf ?_ _ _
    exact h'

theorem Kept.frames (h : Kept Even s w) :
    Kept Even s (beginFrame w) ∧ Kept Even s (resetMapSession w) := by
  refine ⟨guarded h fun _ h' => h'.inside rfl, guarded h fun _ h' => ?_⟩
  refine Tracked.inside (Tracked.inside ?_ rfl) rfl
  iterate 6 refine editMaps ?_ _
  exact h'

theorem kept_write (h : Kept Even s w) (o : ShadowOutside) (call : Writer) :
    Kept Even s (write o call w) := by
  have hmoves : Moves (Kept Even s) :=
    { store := fun _ record h' => Kept.storeRecord h' record
      mark := fun _ _ h' => h'.quiet rfl rfl
      count := fun _ _ h' => h'.quiet rfl rfl
      begin := fun _ h' => (Kept.frames h').1
      reset := fun _ h' => (Kept.frames h').2 }
  exact hmoves.write h o call

/-! ## Plain records -/

structure Plain (r : ShadowObjectRecord) : Prop where
  worldTransform : r.hasWorldTransform = false → r.worldTransform = .identity
  spriteFrameTransform : r.hasSpriteFrameTransform = false → r.spriteFrameTransform = .identity
  matrixHash : r.matrixCount = 0 → r.matrixHash = 0

theorem Plain.empty : Plain {} := ⟨fun _ => rfl, fun _ => rfl, fun _ => rfl⟩

theorem Plain.merge {dst : ShadowObjectRecord} (h : Plain dst) (src : ShadowObjectRecord) :
    Plain (dst.merge src) where
  worldTransform hnone := by
    simp only [ShadowObjectRecord.merge, Bool.or_eq_false_iff] at hnone ⊢
    rw [hnone.1, h.worldTransform hnone.2]
    rfl
  spriteFrameTransform hnone := by
    simp only [ShadowObjectRecord.merge, Bool.or_eq_false_iff] at hnone ⊢
    rw [hnone.1, h.spriteFrameTransform hnone.2]
    rfl
  matrixHash hzero := by
    simp only [ShadowObjectRecord.merge, carry] at hzero ⊢
    split at hzero
    · exact absurd hzero ‹_›
    · rw [if_neg ‹_›, h.matrixHash hzero]

theorem Plain.absorb {κ : Type} [DecidableEq κ] [OfNat κ 0] {dst : ShadowObjectRecord}
    (h : Plain dst) (table : Table κ ShadowObjectRecord) (key : κ) :
    Plain (dst.absorb table key) := by
  unfold ShadowObjectRecord.absorb
  split
  · exact h.merge _
  · exact h

theorem plain_merged (maps : ShadowMaps) (record : ShadowObjectRecord) :
    Plain (merged maps record) :=
  ((((((Plain.empty.absorb _ _).absorb _ _).absorb _ _).absorb _ _).absorb _ _).absorb _ _).merge _

def PlainTable {κ : Type} (table : Table κ ShadowObjectRecord) : Prop :=
  ∀ key r, table key = some r → Plain r

structure PlainMaps (m : ShadowMaps) : Prop where
  byWorldObjectEntry : PlainTable m.byWorldObjectEntry
  bySceneNode : PlainTable m.bySceneNode
  byUnitPtr : PlainTable m.byUnitPtr
  bySpritePtr : PlainTable m.bySpritePtr
  byRuntimeModel : PlainTable m.byRuntimeModel
  byHandle : PlainTable m.byHandle

theorem PlainTable.put {κ : Type} [DecidableEq κ] {table : Table κ ShadowObjectRecord}
    (h : PlainTable table) {c : ShadowObjectRecord} (hc : Plain c) (key : κ) :
    PlainTable (table.put key c) := by
  intro key' r hr
  by_cases heq : key' = key
  · subst heq
    rw [Table.put_self] at hr
    exact Option.some.inj hr ▸ hc
  · rw [Table.put_of_ne _ _ heq] at hr
    exact h key' r hr

theorem PlainTable.empty {κ : Type} : PlainTable (fun _ : κ => none) := fun _ _ hr => by cases hr

theorem PlainMaps.empty : PlainMaps {} := ⟨.empty, .empty, .empty, .empty, .empty, .empty⟩

theorem PlainMaps.editIf (h : PlainMaps w.now.maps) {p : Prop} [Decidable p]
    {change : ShadowMaps → ShadowMaps} (hchange : ∀ m, PlainMaps m → PlainMaps (change m)) :
    PlainMaps (w.editIf p (editMaps change)).now.maps := by
  unfold Writing.editIf
  split
  · exact hchange _ h
  · exact h

theorem PlainMaps.file (h : PlainMaps w.now.maps) {c : ShadowObjectRecord} (hc : Plain c) :
    PlainMaps (file c w).now.maps := by
  unfold ShadowRegistry.file
  dsimp only
  refine editIf ?_ fun m hm => { hm with byHandle := hm.byHandle.put hc _ }
  refine editIf ?_ fun m hm => { hm with byRuntimeModel := hm.byRuntimeModel.put hc _ }
  refine editIf ?_ fun m hm => { hm with bySpritePtr := hm.bySpritePtr.put hc _ }
  refine editIf ?_ fun m hm => { hm with byUnitPtr := hm.byUnitPtr.put hc _ }
  refine editIf ?_ fun m hm => { hm with bySceneNode := hm.bySceneNode.put hc _ }
  exact editIf h fun m hm => { hm with byWorldObjectEntry := hm.byWorldObjectEntry.put hc _ }

theorem PlainMaps.storeRecord (h : PlainMaps w.now.maps) (record : ShadowObjectRecord) :
    PlainMaps (storeRecord record w).now.maps := by
  unfold ShadowRegistry.storeRecord
  dsimp only
  split
  · exact h
  · exact file (w := w.edit bump) h (plain_merged _ _)

theorem plain_run (calls : List (ShadowOutside × Writer)) : PlainMaps (run calls).maps := by
  have hmoves : Moves fun w => PlainMaps w.now.maps :=
    { store := fun _ record h => h.storeRecord record
      mark := fun _ _ h => h
      count := fun _ _ h => h
      begin := fun _ h => h
      reset := fun _ _ => PlainMaps.empty }
  have hrun : ∀ s : ShadowRegistry, PlainMaps s.maps →
      PlainMaps (calls.foldl (fun s call => (write call.1 call.2 (.start s)).now) s).maps := by
    induction calls with
    | nil => exact fun s h => h
    | cons call calls ih => exact fun s h => ih _ (hmoves.write (w := .start s) h call.1 call.2)
  exact hrun _ PlainMaps.empty

end War3VK.Render.ShadowRegistry

/-!
## The skip of the registry of shadow objects

An object that `trySkipExactSameFrameRenderObjectLocked` accepts has records under all its keys that are
the `Same` as its record by scene node, where floats are compared by `==`. Merging what is the same
gives the same, though not the same bits: a negative zero is merged away. So noting the identity again
leaves every table the same (`sameMaps_noteInstanceIdentityLocked`).
-/

namespace War3VK.Render

open Lib Model

/-! ### Records that are the same -/

namespace ShadowObjectRecord

def exact (r : ShadowObjectRecord) : ShadowObjectRecord :=
  { r with
    sequenceTime := 0
    scale := 0
    yaw := 0
    pitch := 0
    roll := 0
    height := 0
    worldTransform := .identity
    spriteFrameTransform := .identity
    spriteFrameDt := 0 }

/-- All fields are the same, where floats are compared by `==`. -/
structure Same (a b : ShadowObjectRecord) : Prop where
  exact : a.exact = b.exact
  sequenceTime : Binary32.eq a.sequenceTime b.sequenceTime = true
  scale : Binary32.eq a.scale b.scale = true
  yaw : Binary32.eq a.yaw b.yaw = true
  pitch : Binary32.eq a.pitch b.pitch = true
  roll : Binary32.eq a.roll b.roll = true
  height : Binary32.eq a.height b.height = true
  worldTransform : Matrix4.eq a.worldTransform b.worldTransform = true
  spriteFrameTransform : Matrix4.eq a.spriteFrameTransform b.spriteFrameTransform = true
  spriteFrameDt : Binary32.eq a.spriteFrameDt b.spriteFrameDt = true

end ShadowObjectRecord

namespace ShadowObjectRecord

variable {a b c dst src : ShadowObjectRecord}

theorem Same.symm (h : Same a b) : Same b a where
  exact := h.exact.symm
  sequenceTime := Binary32.eq_symm h.sequenceTime
  scale := Binary32.eq_symm h.scale
  yaw := Binary32.eq_symm h.yaw
  pitch := Binary32.eq_symm h.pitch
  roll := Binary32.eq_symm h.roll
  height := Binary32.eq_symm h.height
  worldTransform := Matrix4.eq_symm h.worldTransform
  spriteFrameTransform := Matrix4.eq_symm h.spriteFrameTransform
  spriteFrameDt := Binary32.eq_symm h.spriteFrameDt

theorem Same.trans (h : Same a b) (k : Same b c) : Same a c where
  exact := h.exact.trans k.exact
  sequenceTime := Binary32.eq_trans h.sequenceTime k.sequenceTime
  scale := Binary32.eq_trans h.scale k.scale
  yaw := Binary32.eq_trans h.yaw k.yaw
  pitch := Binary32.eq_trans h.pitch k.pitch
  roll := Binary32.eq_trans h.roll k.roll
  height := Binary32.eq_trans h.height k.height
  worldTransform := Matrix4.eq_trans h.worldTransform k.worldTransform
  spriteFrameTransform := Matrix4.eq_trans h.spriteFrameTransform k.spriteFrameTransform
  spriteFrameDt := Binary32.eq_trans h.spriteFrameDt k.spriteFrameDt

theorem Same.of_payload (h : a.hasSamePayloadExact b = true)
    (hseen : a.lastSeenFrame = b.lastSeenFrame)
    (hbatch : a.lastSceneCollectorBatchFrame = b.lastSceneCollectorBatchFrame) : Same a b := by
  simp only [hasSamePayloadExact, Bool.and_eq_true, beq_iff_eq, and_assoc] at h
  obtain ⟨h1, h2, h3, h4, h5, h6, h7, h8, h9, h10, h11, h12, h13, h14, htime, hscale, hyaw, hpitch,
    hroll, hheight, h15, hworld, h16, hsprite, hdt, h17, h18, h19, h20, h21, h22, h23⟩ := h
  refine ⟨?_, htime, hscale, hyaw, hpitch, hroll, hheight, hworld, hsprite, hdt⟩
  cases a
  cases b
  simp only [ShadowObjectRecord.exact, ShadowObjectRecord.mk.injEq]
  simp_all

theorem Same.field {α : Type} (h : Same a b) (f : ShadowObjectRecord → α)
    (hf : ∀ r, f r.exact = f r) : f a = f b := by rw [← hf a, h.exact, hf b]

theorem Same.keys (h : Same a b) :
    a.worldObjectEntry = b.worldObjectEntry ∧ a.sceneNode = b.sceneNode ∧ a.unitPtr = b.unitPtr ∧
      a.spritePtr = b.spritePtr ∧ a.runtimeModelPtr = b.runtimeModelPtr ∧ a.jHandle = b.jHandle :=
  ⟨h.field (fun r => r.worldObjectEntry) fun _ => rfl, h.field (fun r => r.sceneNode) fun _ => rfl,
    h.field (fun r => r.unitPtr) fun _ => rfl, h.field (fun r => r.spritePtr) fun _ => rfl,
    h.field (fun r => r.runtimeModelPtr) fun _ => rfl, h.field (fun r => r.jHandle) fun _ => rfl⟩

/-! ### Merging what is the same -/

theorem exact_merge (dst src : ShadowObjectRecord) :
    (dst.merge src).exact = (dst.exact.merge src.exact).exact := rfl

theorem exact_merge_self (c : ShadowObjectRecord) {unit : Ptr} (h : unit = 0 ∨ unit = c.unitPtr) :
    (c.exact.merge { c.exact with unitPtr := unit }).exact = c.exact := by
  have hunit : carry 0 c.unitPtr unit = c.unitPtr := by
    obtain rfl | rfl := h
    · exact carry_unset _ _
    · exact carry_self _ _
  have hhash : (if ¬c.matrixCount = 0 then c.matrixHash else c.matrixHash) = c.matrixHash :=
    ite_self _
  simp [merge, exact, hunit]
  exact hhash

theorem Same.merge (hd : Same dst c) {unit : Ptr} (hunit : unit = 0 ∨ unit = c.unitPtr)
    (hs : Same src { c with unitPtr := unit }) : Same (dst.merge src) c where
  exact := by
    have hsrc : src.exact = { c.exact with unitPtr := unit } := hs.exact
    calc (dst.merge src).exact = (dst.exact.merge src.exact).exact := exact_merge _ _
      _ = (c.exact.merge { c.exact with unitPtr := unit }).exact := by rw [hd.exact, hsrc]
      _ = c.exact := exact_merge_self c hunit
  sequenceTime := eq_carryFloat hd.sequenceTime hs.sequenceTime
  scale := eq_carryScale hd.scale hs.scale
  yaw := eq_carryFloat hd.yaw hs.yaw
  pitch := eq_carryFloat hd.pitch hs.pitch
  roll := eq_carryFloat hd.roll hs.roll
  height := eq_carryFloat hd.height hs.height
  worldTransform := by
    dsimp only [ShadowObjectRecord.merge]
    split
    · exact hs.worldTransform
    · exact hd.worldTransform
  spriteFrameTransform := by
    dsimp only [ShadowObjectRecord.merge]
    split
    · exact hs.spriteFrameTransform
    · exact hd.spriteFrameTransform
  spriteFrameDt := eq_carryFloat hd.spriteFrameDt hs.spriteFrameDt

theorem Same.first (hs : Same src c) (hplain : ShadowRegistry.Plain src) :
    Same (ShadowObjectRecord.merge {} src) c where
  exact := by
    have hhash : (if src.matrixCount ≠ 0 then src.matrixHash else 0) = src.matrixHash := by
      split
      · rfl
      · rename_i h
        exact (hplain.matrixHash (not_not.mp h)).symm
    rw [← hs.exact]
    simp only [ShadowObjectRecord.merge, ShadowObjectRecord.exact, carry_from_unset,
      earliest_from_zero, latest_from_zero, Bool.or_false, hhash]
  sequenceTime := eq_carryFloat_zero hs.sequenceTime
  scale := eq_carryScale_one hs.scale
  yaw := eq_carryFloat_zero hs.yaw
  pitch := eq_carryFloat_zero hs.pitch
  roll := eq_carryFloat_zero hs.roll
  height := eq_carryFloat_zero hs.height
  worldTransform := by
    dsimp only [ShadowObjectRecord.merge]
    split
    · exact hs.worldTransform
    · rename_i h
      rw [← hplain.worldTransform (by simpa using h)]
      exact hs.worldTransform
  spriteFrameTransform := by
    dsimp only [ShadowObjectRecord.merge]
    split
    · exact hs.spriteFrameTransform
    · rename_i h
      rw [← hplain.spriteFrameTransform (by simpa using h)]
      exact hs.spriteFrameTransform
  spriteFrameDt := eq_carryFloat_zero hs.spriteFrameDt

section

variable {κ : Type} [DecidableEq κ] [OfNat κ 0] {table : Table κ ShadowObjectRecord} {key : κ}

theorem Same.absorb (hd : Same dst c) (h : ∀ r, table.find key = some r → Same r c) :
    Same (dst.absorb table key) c := by
  unfold ShadowObjectRecord.absorb
  split
  · rename_i r hr
    exact hd.merge (.inr rfl) (h r hr)
  · exact hd

theorem Same.absorb_first {r : ShadowObjectRecord} (hr : table.find key = some r) (hs : Same r c)
    (hplain : ShadowRegistry.Plain r) : Same (ShadowObjectRecord.absorb table key {}) c := by
  unfold ShadowObjectRecord.absorb
  rw [hr]
  exact hs.first hplain

end

end ShadowObjectRecord

/-! ### Tables that are the same -/

def SameTable {κ : Type} (before after : Table κ ShadowObjectRecord) : Prop :=
  ∀ key, after key = before key ∨
    ∃ r r', before key = some r ∧ after key = some r' ∧ r.Same r'

structure SameMaps (before after : ShadowMaps) : Prop where
  byWorldObjectEntry : SameTable before.byWorldObjectEntry after.byWorldObjectEntry
  bySceneNode : SameTable before.bySceneNode after.bySceneNode
  byUnitPtr : SameTable before.byUnitPtr after.byUnitPtr
  bySpritePtr : SameTable before.bySpritePtr after.bySpritePtr
  byRuntimeModel : SameTable before.byRuntimeModel after.byRuntimeModel
  byHandle : SameTable before.byHandle after.byHandle

theorem SameTable.refl {κ : Type} (table : Table κ ShadowObjectRecord) : SameTable table table :=
  fun _ => .inl rfl

theorem SameMaps.refl (m : ShadowMaps) : SameMaps m m :=
  ⟨.refl _, .refl _, .refl _, .refl _, .refl _, .refl _⟩

theorem SameTable.put {κ : Type} [DecidableEq κ] {before after : Table κ ShadowObjectRecord}
    (h : SameTable before after) {key : κ} {r c : ShadowObjectRecord} (hr : before key = some r)
    (hsame : r.Same c) : SameTable before (after.put key c) := by
  intro key'
  by_cases heq : key' = key
  · subst heq
    exact .inr ⟨r, c, hr, Table.put_self _ _ _, hsame⟩
  · rw [Table.put_of_ne _ _ heq]
    exact h key'

namespace ShadowRegistry

structure Settled (maps : ShadowMaps) (frame : UInt64) (c : ShadowObjectRecord) : Prop where
  sceneNode : maps.bySceneNode c.sceneNode = some c
  worldObjectEntry : ∃ r, maps.byWorldObjectEntry c.worldObjectEntry = some r ∧ r.Same c
  unitPtr : ∃ r, maps.byUnitPtr c.unitPtr = some r ∧ r.Same c
  spritePtr : ∃ r, maps.bySpritePtr c.spritePtr = some r ∧ r.Same c
  runtimeModelPtr : ∃ r, maps.byRuntimeModel c.runtimeModelPtr = some r ∧ r.Same c
  jHandle : c.jHandle ≠ 0 → ∃ r, maps.byHandle c.jHandle = some r ∧ r.Same c
  lastSeenFrame : c.lastSeenFrame = frame
  complete : c.firstSeenFrame ≠ 0 ∧ c.worldObjectEntry ≠ 0 ∧ c.sceneNode ≠ 0 ∧ c.unitPtr ≠ 0 ∧
    c.spritePtr ≠ 0 ∧ c.runtimeModelPtr ≠ 0 ∧ c.modelKey ≠ 0 ∧ c.modelResourcePtr ≠ 0 ∧
    c.modelPath ≠ []

structure Agrees (info : RenderObjectInfo) (c : ShadowObjectRecord) : Prop where
  worldObjectEntry : c.worldObjectEntry = info.worldObjectEntry
  sceneNode : c.sceneNode = info.sceneNode
  unitPtr : info.unitPtr ≠ 0 → c.unitPtr = info.unitPtr
  jHandle : info.jHandle ≠ 0 → c.jHandle = info.jHandle
  rawcode : info.rawcode ≠ 0 → c.rawcode = info.rawcode
  kind : info.kind ≠ .unknown → c.kind = info.kind

variable {maps : ShadowMaps} {info : RenderObjectInfo} {frame : UInt64} {c r : ShadowObjectRecord}

/-! ### What is accepted -/

theorem same_of_validateAlias {κ : Type} {table : Table κ ShadowObjectRecord} {key : κ}
    (hseen : c.lastSeenFrame = frame) (hbatch : c.lastSceneCollectorBatchFrame = frame)
    (h : validateAlias c frame table key = .hit) : ∃ r, table key = some r ∧ r.Same c := by
  unfold validateAlias at h
  split at h
  · cases h
  · rename_i r hr
    split_ifs at h with hr1 hr2 hr3
    rw [not_not] at hr1 hr2
    have hsame : c.Same r := .of_payload (by simpa using hr3) (hseen.trans hr1.symm)
      (hbatch.trans hr2.symm)
    exact ⟨r, hr, hsame.symm⟩

theorem of_skipCanonical (h : skipCanonical maps info frame = .ok c) :
    maps.bySceneNode info.sceneNode = some c ∧ Agrees info c ∧ c.lastSeenFrame = frame ∧
      c.lastSceneCollectorBatchFrame = frame ∧ (c.firstSeenFrame ≠ 0 ∧ c.worldObjectEntry ≠ 0 ∧
        c.sceneNode ≠ 0 ∧ c.unitPtr ≠ 0 ∧ c.spritePtr ≠ 0 ∧ c.runtimeModelPtr ≠ 0 ∧
        c.modelKey ≠ 0 ∧ c.modelResourcePtr ≠ 0 ∧ c.modelPath ≠ []) := by
  unfold skipCanonical at h
  split at h
  · cases h
  · split at h
    · cases h
    · rename_i hkeys r hr
      split_ifs at h with h1 h2 h3 h4
      obtain rfl : r = c := Except.ok.inj h
      rw [not_not] at h1 h2
      simp only [not_or, not_and, not_not] at h3 h4
      obtain ⟨hworld, hscene, hunit, hhandle, hcode, hkind⟩ := h3
      exact ⟨hr, ⟨hworld, hscene, hunit, hhandle, hcode, hkind⟩, h1, h2, h4⟩

theorem skipCanonical_ne_hit : skipCanonical maps info frame ≠ .error .hit := by
  unfold skipCanonical
  split
  · simp
  · split
    · simp
    · split_ifs <;> simp

theorem settled_of_hit (h : skipOutcome maps info frame = .hit) :
    ∃ c, Settled maps frame c ∧ Agrees info c := by
  unfold skipOutcome at h
  split at h
  · rename_i outcome herror
    subst h
    exact absurd herror skipCanonical_ne_hit
  · rename_i c hc
    obtain ⟨hscene, hagrees, hseen, hbatch, hcomplete⟩ := of_skipCanonical hc
    rw [firstMiss_eq_hit] at h
    simp only [List.mem_cons, List.not_mem_nil, or_false, forall_eq_or_imp, forall_eq] at h
    obtain ⟨hworld, hunit, hsprite, hmodel, hhandle⟩ := h
    have hclean {κ : Type} {table : Table κ ShadowObjectRecord} {key : κ}
        (h : validateAlias c frame table key = .hit) : ∃ r, table key = some r ∧ r.Same c :=
      same_of_validateAlias hseen hbatch h
    refine ⟨c, ⟨hagrees.sceneNode ▸ hscene, hclean hworld, hclean hunit, hclean hsprite,
      hclean hmodel, fun hne => ?_, hseen, hcomplete⟩, hagrees⟩
    exact hclean (by simpa [hne] using hhandle)

/-! ### What is noted again -/

theorem Settled.same (h : Settled maps frame c) : c.Same c := by
  obtain ⟨r, -, hr⟩ := h.worldObjectEntry
  exact hr.symm.trans hr

theorem same_of_find {κ : Type} [DecidableEq κ] [OfNat κ 0] {table : Table κ ShadowObjectRecord}
    {key : κ} (h : key ≠ 0 → ∃ r, table key = some r ∧ r.Same c) :
    ∀ r, table.find key = some r → r.Same c := by
  intro r hfind
  by_cases hkey : key = 0
  · rw [hkey, Table.find_zero] at hfind
    cases hfind
  · obtain ⟨r', hr', hsame⟩ := h hkey
    rw [Table.find_of_ne hkey, hr'] at hfind
    exact Option.some.inj hfind ▸ hsame

theorem Settled.knownIdentity (h : Settled maps frame c) (hplain : PlainMaps maps)
    (hagrees : Agrees info c) :
    (knownIdentity maps info.sceneNode info.unitPtr 0 info.jHandle).Same c := by
  obtain ⟨-, -, hscene, -, -, -, -, -, -⟩ := h.complete
  unfold ShadowRegistry.knownIdentity
  dsimp only
  have hunit : info.unitPtr ≠ 0 → ∃ r, maps.byUnitPtr info.unitPtr = some r ∧ r.Same c :=
    fun hne => hagrees.unitPtr hne ▸ h.unitPtr
  have hhandle : info.jHandle ≠ 0 → ∃ r, maps.byHandle info.jHandle = some r ∧ r.Same c :=
    fun hne => by
      have heq := hagrees.jHandle hne
      rw [← heq] at hne ⊢
      exact h.jHandle hne
  rw [← hagrees.sceneNode]
  have hfirst := ShadowObjectRecord.Same.absorb_first ((Table.find_of_ne hscene).trans h.sceneNode)
    h.same (hplain.bySceneNode _ _ h.sceneNode)
  refine ((hfirst.absorb (same_of_find hunit)).absorb ?_).absorb (same_of_find hhandle)
  exact same_of_find fun hne => absurd rfl hne

theorem identityRecord_of_same (o : ShadowOutside) (h : Settled maps frame c)
    (hagrees : Agrees info c) {unit : Ptr} (hr : r.Same { c with unitPtr := unit }) :
    seen frame (withMissingModel o (withRuntimeModel o (coded info.jHandle info.rawcode info.kind
      (withUnitSprite o r)))) = r := by
  obtain ⟨hfirst, -, -, -, hsprite, hmodel, hkey, hresource, hpath⟩ := h.complete
  obtain ⟨-, -, -, hspriteR, hmodelR, hhandleR⟩ := hr.keys
  have hkeyR : r.modelKey = c.modelKey := hr.field (fun r => r.modelKey) fun _ => rfl
  have hresourceR : r.modelResourcePtr = c.modelResourcePtr :=
    hr.field (fun r => r.modelResourcePtr) fun _ => rfl
  have hpathR : r.modelPath = c.modelPath := hr.field (fun r => r.modelPath) fun _ => rfl
  have hcodeR : r.rawcode = c.rawcode := hr.field (fun r => r.rawcode) fun _ => rfl
  have hkindR : r.kind = c.kind := hr.field (fun r => r.kind) fun _ => rfl
  have hfirstR : r.firstSeenFrame = c.firstSeenFrame := hr.field (fun r => r.firstSeenFrame) fun _ => rfl
  have hlastR : r.lastSeenFrame = c.lastSeenFrame := hr.field (fun r => r.lastSeenFrame) fun _ => rfl
  have hunit : withUnitSprite o r = r := if_neg fun hne => hsprite (hspriteR ▸ hne.2.1)
  have hcoded : coded info.jHandle info.rawcode info.kind r = r := by
    unfold coded
    rw [carry_of_agrees (hhandleR ▸ hagrees.jHandle), carry_of_agrees (hcodeR ▸ hagrees.rawcode),
      carry_of_agrees (hkindR ▸ hagrees.kind)]
  have hruntime : withRuntimeModel o r = r := if_neg fun hne => hmodel (hmodelR ▸ hne.2)
  have hmissing : withMissingModel o r = r := if_neg fun hne => by
    obtain hne | hne | hne | hne := hne.2
    · exact hmodel (hmodelR ▸ hne)
    · exact hkey (hkeyR ▸ hne)
    · exact hresource (hresourceR ▸ hne)
    · exact hpath (hpathR ▸ hne)
  have hseen : seen frame r = r := by
    unfold seen
    rw [if_neg (hfirstR ▸ hfirst), ← h.lastSeenFrame, ← hlastR]
  rw [hunit, hcoded, hruntime, hmissing, hseen]

theorem Settled.identityRecord (o : ShadowOutside) (h : Settled maps frame c)
    (hplain : PlainMaps maps) (hagrees : Agrees info c) :
    (identityRecord o maps frame info.worldObjectEntry info.sceneNode info.unitPtr 0 info.jHandle
      info.rawcode info.kind).Same { c with unitPtr := info.unitPtr } := by
  have hknown := h.knownIdentity hplain hagrees
  unfold ShadowRegistry.identityRecord
  dsimp only
  generalize ShadowRegistry.knownIdentity maps info.sceneNode info.unitPtr 0 info.jHandle = k
    at hknown
  obtain ⟨hworld, hscene, -, -, -, -⟩ := hknown.keys
  have hnamed : named info.worldObjectEntry info.sceneNode info.unitPtr 0 k =
      { k with unitPtr := info.unitPtr } := by
    unfold named
    rw [carry_unset, ← hagrees.worldObjectEntry, ← hagrees.sceneNode, ← hworld, ← hscene]
  have hrest : ({ k with unitPtr := info.unitPtr } : ShadowObjectRecord).Same
      { c with unitPtr := info.unitPtr } :=
    { hknown with
      exact := congrArg (fun r : ShadowObjectRecord => { r with unitPtr := info.unitPtr })
        hknown.exact }
  rw [hnamed, identityRecord_of_same o h hagrees hrest]
  exact hrest

theorem Settled.merged (h : Settled maps frame c) (hplain : PlainMaps maps) {unit : Ptr}
    (hunit : unit = 0 ∨ unit = c.unitPtr) (hr : r.Same { c with unitPtr := unit }) :
    (merged maps r).Same c := by
  obtain ⟨-, hworld, -, -, -, -, -, -, -⟩ := h.complete
  obtain ⟨hworldR, hsceneR, hunitR, hspriteR, hmodelR, hhandleR⟩ := hr.keys
  unfold ShadowRegistry.merged
  dsimp only
  rw [hworldR, hsceneR, hunitR, hspriteR, hmodelR, hhandleR]
  obtain ⟨first, hfirst, hsame⟩ := h.worldObjectEntry
  refine ShadowObjectRecord.Same.merge ?_ hunit hr
  have hstart := ShadowObjectRecord.Same.absorb_first ((Table.find_of_ne hworld).trans hfirst) hsame
    (hplain.byWorldObjectEntry _ _ hfirst)
  have hscene := hstart.absorb (same_of_find fun _ => ⟨c, h.sceneNode, h.same⟩)
  have hfindUnit : ∀ src, maps.byUnitPtr.find unit = some src → src.Same c := by
    refine same_of_find fun hne => ?_
    obtain rfl | rfl := hunit
    · exact absurd rfl hne
    · exact h.unitPtr
  have hunits := hscene.absorb hfindUnit
  exact ((hunits.absorb (same_of_find fun _ => h.spritePtr)).absorb
    (same_of_find fun _ => h.runtimeModelPtr)).absorb (same_of_find h.jHandle)

variable {w : Writing ShadowRegistry}

theorem sameMaps_editIf (h : SameMaps maps w.now.maps) {p : Prop} [Decidable p]
    {change : ShadowMaps → ShadowMaps}
    (hchange : p → ∀ m, SameMaps maps m → SameMaps maps (change m)) :
    SameMaps maps (w.editIf p (editMaps change)).now.maps := by
  unfold Writing.editIf
  split
  · exact hchange ‹_› _ h
  · exact h

theorem Settled.sameMaps_file (h : Settled maps frame c) (hr : r.Same c)
    (hw : SameMaps maps w.now.maps) : SameMaps maps (file r w).now.maps := by
  obtain ⟨hworldR, hsceneR, hunitR, hspriteR, hmodelR, hhandleR⟩ := hr.keys
  obtain ⟨world, hworld, hworldSame⟩ := h.worldObjectEntry
  obtain ⟨unit, hunit, hunitSame⟩ := h.unitPtr
  obtain ⟨sprite, hsprite, hspriteSame⟩ := h.spritePtr
  obtain ⟨model, hmodel, hmodelSame⟩ := h.runtimeModelPtr
  have hback {a : ShadowObjectRecord} (ha : a.Same c) : a.Same r := ha.trans hr.symm
  unfold file
  rw [hworldR, hsceneR, hunitR, hspriteR, hmodelR, hhandleR]
  dsimp only
  refine sameMaps_editIf ?_ fun hne m hm => ?_
  · refine sameMaps_editIf ?_ fun _ m hm =>
      { hm with byRuntimeModel := hm.byRuntimeModel.put hmodel (hback hmodelSame) }
    refine sameMaps_editIf ?_ fun _ m hm =>
      { hm with bySpritePtr := hm.bySpritePtr.put hsprite (hback hspriteSame) }
    refine sameMaps_editIf ?_ fun _ m hm =>
      { hm with byUnitPtr := hm.byUnitPtr.put hunit (hback hunitSame) }
    refine sameMaps_editIf ?_ fun _ m hm =>
      { hm with bySceneNode := hm.bySceneNode.put h.sceneNode (hback h.same) }
    exact sameMaps_editIf hw fun _ m hm =>
      { hm with byWorldObjectEntry := hm.byWorldObjectEntry.put hworld (hback hworldSame) }
  · obtain ⟨handle, hhandle, hhandleSame⟩ := h.jHandle hne
    exact { hm with byHandle := hm.byHandle.put hhandle (hback hhandleSame) }

theorem Settled.sameMaps_storeRecord (h : Settled w.now.maps frame c)
    (hr : (ShadowRegistry.merged w.now.maps r).Same c) :
    SameMaps w.now.maps (storeRecord r w).now.maps := by
  unfold storeRecord
  dsimp only
  split
  · exact .refl _
  · exact h.sameMaps_file (w := w.edit bump) hr (.refl _)

theorem sameMaps_noteInstanceIdentityLocked (o : ShadowOutside) (hplain : PlainMaps w.now.maps)
    (h : skipOutcome w.now.maps info w.now.frameNumber = .hit) :
    SameMaps w.now.maps (noteInstanceIdentityLocked o info.worldObjectEntry info.sceneNode
      info.unitPtr 0 info.jHandle info.rawcode info.kind false w).now.maps := by
  obtain ⟨c, hc, hagrees⟩ := settled_of_hit h
  have hunit : info.unitPtr = 0 ∨ info.unitPtr = c.unitPtr := by
    by_cases hzero : info.unitPtr = 0
    · exact .inl hzero
    · exact .inr (hagrees.unitPtr hzero).symm
  have hmerged := hc.merged hplain hunit (hc.identityRecord o hplain hagrees)
  unfold noteInstanceIdentityLocked
  split
  · exact .refl _
  · change SameMaps w.now.maps (storeRecord (ShadowRegistry.identityRecord o w.now.maps
      w.now.frameNumber info.worldObjectEntry info.sceneNode info.unitPtr 0 info.jHandle
      info.rawcode info.kind) w).now.maps
    exact hc.sameMaps_storeRecord hmerged

end ShadowRegistry

end War3VK.Render
