import Mathlib.Logic.Relation
import War3VK.Model.ResourceCacheStore

/-!
# What a call does to the cache

Whatever is called, the cache changes by a few moves: a geoset is seen again, a capture is noted, a
record is stored, the map is reset. A record is stored for a reason: it is a header, it is of the cache
itself, or it was captured.
-/

namespace War3VK.Model

namespace Cache

/-! ## Since the last reset -/

def recent (trace : List Event) : List Event :=
  trace.foldl (fun recent event =>
    match event with
    | .reset _ => []
    | _ => recent ++ [event]) []

theorem recent_reset (trace : List Event) (mapEpoch : UInt64) :
    recent (trace ++ [.reset mapEpoch]) = [] := by
  unfold recent
  rw [List.foldl_append]
  rfl

theorem recent_captured (trace : List Event) (geosetDataPtr : Ptr) (payload : Payload)
    (complete : Bool) : recent (trace ++ [.captured geosetDataPtr payload complete]) =
      recent trace ++ [.captured geosetDataPtr payload complete] := by
  unfold recent
  rw [List.foldl_append]
  rfl

theorem recent_stored (trace : List Event) (source : Source) (moved : Bool)
    (record published : GeosetRecord) : recent (trace ++ [.stored source moved record published]) =
      recent trace ++ [.stored source moved record published] := by
  unfold recent
  rw [List.foldl_append]
  rfl

theorem mem_of_mem_recent {trace : List Event} {event : Event} (h : event ∈ recent trace) :
    event ∈ trace := by
  induction trace using List.reverseRecOn with
  | nil => exact h
  | append_singleton trace last ih =>
    rw [List.mem_append, List.mem_singleton]
    cases last with
    | captured geosetDataPtr payload complete =>
      rw [recent_captured, List.mem_append, List.mem_singleton] at h
      exact h.imp ih id
    | stored source moved record published =>
      rw [recent_stored, List.mem_append, List.mem_singleton] at h
      exact h.imp ih id
    | reset mapEpoch =>
      rw [recent_reset] at h
      cases h

/-! ## Conditions -/

structure Heed where
  /-- On a record that is stored without a capture, in the cache that stores it. -/
  again : GeosetRecord → Cache → Prop
  /-- On a capture of a geoset of a model, with the record that is cached of the geoset. -/
  captured : GeosetRecord → GeosetRecord → Prop
  reset : UInt64 → Prop := fun _ => True

def Turns (bind : Ptr → ℕ → ModelRecord → Cache → ModelRecord × Cache)
    (turn : Ptr → ℕ → ModelRecord → Cache → Prop) :
    List (Ptr × ℕ) → ModelRecord → Cache → Prop
  | [], _, _ => True
  | (geosetPtr, index) :: rest, model, s =>
    let bound := bind geosetPtr index model s
    turn geosetPtr index model s ∧ Turns bind turn rest bound.1 bound.2

namespace Heed

/-- The conditions on one geoset of a model. What is cached of it is stored again as `again` has it. -/
def turn (p : Heed) (memory : Memory) (geosetPtr : Ptr) (again : GeosetRecord → GeosetRecord)
    (s : Cache) : Prop :=
  (s.cachedGeoset geosetPtr).readyForShadowConsumer = false →
    match memory.captureGeosetRecord geosetPtr with
    | some live => p.captured live (s.cachedGeoset geosetPtr)
    | none => (s.byGeoset geosetPtr).isSome → p.again (again (s.cachedGeoset geosetPtr)) s

/-- The conditions on a geoset of `noteModelResourceBinding`. -/
def modelTurn (p : Heed) (memory : Memory) (geosetPtr : Ptr) (index : ℕ) (model : ModelRecord)
    (s : Cache) : Prop :=
  p.turn memory geosetPtr (modelGeoset index model s.frameNumber) s

/-- The conditions on a geoset of `noteRuntimeModelBinding`. -/
def runtimeTurn (p : Heed) (memory : Memory) (geosetPtr : Ptr) (index : ℕ) (model : ModelRecord)
    (s : Cache) : Prop :=
  p.turn memory geosetPtr (runtimeGeoset geosetPtr index model s.frameNumber) s

/-- The conditions on the loop of `noteModelResourceBinding`. -/
def modelTurns (p : Heed) (memory : Memory) : List (Ptr × ℕ) → ModelRecord → Cache → Prop :=
  Turns (fun geosetPtr index model s => s.bindModelGeoset memory geosetPtr index model)
    (p.modelTurn memory)

/-- The conditions on the loop of `noteRuntimeModelBinding`. -/
def runtimeTurns (p : Heed) (memory : Memory) : List (Ptr × ℕ) → ModelRecord → Cache → Prop :=
  Turns (fun geosetPtr index model s => s.bindRuntimeGeoset memory geosetPtr index model)
    (p.runtimeTurn memory)

def heeds (p : Heed) (call : Op × Memory) (s : Cache) : Prop :=
  match call.1 with
  | .beginFrame => True
  | .resetMapEpoch nextMapEpoch => p.reset nextMapEpoch
  | .recordGeosetCreate geosetPtr =>
    ∀ record, call.2.captureGeosetHeaderRecord geosetPtr = some record →
      p.again (s.headerRecord record) s
  | .noteModelResourceBinding modelResourcePtr modelKey =>
    let resource := call.2.directModelResource modelResourcePtr
    let ready := (s.modelResourceReady resource modelKey).2
    ∀ geosetPtrs, call.2.modelGeosets resource = some geosetPtrs →
      (s.modelResourceReady resource modelKey).1 = false →
        p.modelTurns call.2 geosetPtrs.zipIdx (ready.newModel resource modelKey geosetPtrs) ready
  | .noteRuntimeModelBinding runtimeModelPtr modelResourcePtr modelKey =>
    let resource := call.2.directModelResource modelResourcePtr
    let ready := (s.runtimeModelReady runtimeModelPtr resource modelKey).2
    ∀ geosetPtrs, call.2.runtimeGeosets runtimeModelPtr = some geosetPtrs →
      (s.runtimeModelReady runtimeModelPtr resource modelKey).1 = false →
        p.runtimeTurns call.2 geosetPtrs.zipIdx
          (ready.newRuntimeModel runtimeModelPtr resource modelKey geosetPtrs) ready
  | .noteRuntimeGeosetBinding binding =>
    let b := binding.resolve call.2
    (s.lookRuntimeGeoset b).2 = true →
      p.again (boundRecord (s.completeBinding b) s.frameNumber (s.lookRuntimeGeoset b).1) s
  | .hydrateGeosetByKnownPtrs _ _ => True

end Heed

/-! ## Moves -/

inductive Reason (p : Heed) (s : Cache) : Source → GeosetRecord → Prop
  | header (record : GeosetRecord) (status : record.immutableCaptureStatus = .notAttempted)
    (geosetPtr : record.geosetPtr ≠ 0) (data : record.geosetDataPtr ≠ 0)
    (heeded : p.again record s) : Reason p s .cached record
  | unknown (record : GeosetRecord) (status : record.immutableCaptureStatus = .notAttempted)
    (fresh : s.byGeoset record.geosetPtr = none)
    (nowhere : record.geosetPtr = 0 → record.geosetDataPtr = 0) : Reason p s .cached record
  | cached (geosetPtr : Ptr) (alias_ record : GeosetRecord)
    (known : s.byGeoset geosetPtr = some alias_)
    (heeded : (s.materializeGeosetAliasRecord alias_).readyForShadowConsumer ∨ p.again record s)
    (target : record.geosetPtr = geosetPtr ∨
      record.geosetPtr = (s.materializeGeosetAliasRecord alias_).geosetPtr)
    (data : record.geosetDataPtr = (s.materializeGeosetAliasRecord alias_).geosetDataPtr)
    (payload : record.payload = (s.materializeGeosetAliasRecord alias_).payload)
    (status : record.immutableCaptureStatus =
      (s.materializeGeosetAliasRecord alias_).immutableCaptureStatus) : Reason p s .cached record
  | snapshot (snapshot record : GeosetRecord) (nonzero : record.geosetDataPtr ≠ 0)
    (known : s.byGeosetData record.geosetDataPtr = some snapshot) (heeded : p.again record s)
    (target : record.geosetPtr = snapshot.geosetPtr ∨
      record.geosetPtr ≠ 0 ∧ ∀ g, s.byGeoset record.geosetPtr = some g → g.geosetPtr = 0)
    (payload : record.payload = snapshot.payload)
    (status : record.immutableCaptureStatus = snapshot.immutableCaptureStatus) :
    Reason p s .cached record
  /-- It was captured, through its data pointer unless another one is cached. -/
  | captured (live record : GeosetRecord)
    (noted : .captured live.geosetDataPtr live.payload
      (live.immutableCaptureStatus = .complete) ∈ recent s.trace)
    (attempted : record.immutableCaptureStatus ≠ .notAttempted)
    (payload : record.payload = live.payload)
    (status : record.immutableCaptureStatus = live.immutableCaptureStatus)
    (nonzero : record.geosetDataPtr ≠ 0)
    (data : record.geosetDataPtr = live.geosetDataPtr ∨
      ∃ cached, p.captured live cached ∧ cached.geosetDataPtr = record.geosetDataPtr)
    (target : record.geosetPtr = 0 → ∀ d, s.byGeosetData record.geosetDataPtr = some d →
      d.geosetPtr = 0 ∨
        record.immutableCaptureStatus = .complete ∧ d.readyForShadowConsumer = false) :
    Reason p s .captured record

structure Quiet (s s' : Cache) : Prop where
  byGeoset : s'.byGeoset = s.byGeoset
  byGeosetData : s'.byGeosetData = s.byGeosetData
  issuer : s'.issuer = s.issuer
  mapEpoch : s'.mapEpoch = s.mapEpoch
  trace : s'.trace = s.trace

inductive Move (p : Heed) (s : Cache) : Cache → Prop
  | quiet (s' : Cache) (same : Quiet s s') : Move p s s'
  | seen (geosetPtr : Ptr) (alias_ : GeosetRecord) (frameNumber : UInt64)
    (known : s.byGeoset geosetPtr = some alias_) :
    Move p s { s with
      byGeoset := Function.update s.byGeoset geosetPtr
        (some { alias_ with lastSeenFrame := frameNumber }) }
  | noted (record : GeosetRecord) : Move p s (s.noteCapture record)
  | stored (source : Source) (record : GeosetRecord) (reason : Reason p s source record) :
    Move p s (s.storeGeosetRecord source record).2
  | reset (mapEpoch : UInt64) (heeded : p.reset mapEpoch) :
    Move p s (s.resetMapEpoch mapEpoch).2

def Path (p : Heed) : Cache → Cache → Prop := Relation.ReflTransGen (Move p)

theorem Path.keeps {p : Heed} {Inv : Cache → Prop} {s s' : Cache} (path : Path p s s')
    (move : ∀ s s', Inv s → Move p s s' → Inv s') (h : Inv s) : Inv s' := by
  induction path with
  | refl => exact h
  | tail _ last ih => exact move _ _ ih last

/-! ## What leaves the geosets -/

variable {p : Heed} {s s' : Cache}

theorem Move.path (h : Move p s s') : Path p s s' := Relation.ReflTransGen.single h

theorem Quiet.path (h : Quiet s s') : Path p s s' := (Move.quiet s' h).path

theorem Quiet.refl (s : Cache) : Quiet s s := ⟨rfl, rfl, rfl, rfl, rfl⟩

theorem Quiet.trans {s'' : Cache} (h : Quiet s s') (h' : Quiet s' s'') : Quiet s s'' :=
  ⟨h'.byGeoset.trans h.byGeoset, h'.byGeosetData.trans h.byGeosetData, h'.issuer.trans h.issuer,
    h'.mapEpoch.trans h.mapEpoch, h'.trace.trans h.trace⟩

theorem quiet_noteGeosetDataMetadata (geosetDataPtr : Ptr) (record : GeosetRecord) (s : Cache) :
    Quiet s (s.noteGeosetDataMetadata geosetDataPtr record) := by
  unfold noteGeosetDataMetadata
  split <;> exact ⟨rfl, rfl, rfl, rfl, rfl⟩

theorem quiet_storeModelRecord (record : ModelRecord) (s : Cache) :
    Quiet s (s.storeModelRecord record) := by
  unfold storeModelRecord
  split <;> exact ⟨rfl, rfl, rfl, rfl, rfl⟩

theorem quiet_storeRuntimeModelRecord (record : ModelRecord) (s : Cache) :
    Quiet s (s.storeRuntimeModelRecord record) := by
  unfold storeRuntimeModelRecord
  split <;> exact ⟨rfl, rfl, rfl, rfl, rfl⟩

theorem quiet_storeRuntimeAndModel (record : ModelRecord) (s : Cache) :
    Quiet s (s.storeRuntimeAndModel record) := by
  unfold storeRuntimeAndModel
  dsimp only
  split
  · exact quiet_storeRuntimeModelRecord record s
  · exact (quiet_storeRuntimeModelRecord record s).trans (quiet_storeModelRecord record _)

theorem quiet_placeInModels (b : GeosetBinding) (geoset : GeosetRecord) (s : Cache) :
    Quiet s (s.placeInModels b geoset) := by
  unfold placeInModels
  by_cases hindex : b.geosetIndex = kInvalidShadowGeosetIndex
  · rw [if_pos hindex]
    exact Quiet.refl s
  · rw [if_neg hindex]
    by_cases hruntime : b.runtimeModelPtr ≠ 0
    · rw [if_pos hruntime]
      exact quiet_storeRuntimeAndModel _ s
    · rw [if_neg hruntime]
      by_cases hmodel : b.modelResourcePtr ≠ 0
      · rw [if_pos hmodel]
        exact quiet_storeModelRecord _ s
      · rw [if_neg hmodel]
        exact Quiet.refl s

theorem quiet_modelResourceReady (modelResourcePtr : Ptr) (modelKey : UInt64) (s : Cache) :
    Quiet s (s.modelResourceReady modelResourcePtr modelKey).2 := by
  unfold modelResourceReady
  split
  · exact Quiet.refl s
  · dsimp only
    split <;> exact ⟨rfl, rfl, rfl, rfl, rfl⟩

theorem quiet_refreshRuntimeModel (runtimeModelPtr : Ptr) (s : Cache) :
    Quiet s (s.refreshRuntimeModel runtimeModelPtr) := by
  unfold refreshRuntimeModel
  split <;> exact ⟨rfl, rfl, rfl, rfl, rfl⟩

theorem quiet_runtimeFromResource (runtimeModelPtr modelResourcePtr : Ptr) (modelKey : UInt64)
    (s : Cache) : Quiet s (s.runtimeFromResource runtimeModelPtr modelResourcePtr modelKey).2 := by
  unfold runtimeFromResource
  split
  · exact Quiet.refl s
  · dsimp only
    split
    · exact ⟨rfl, rfl, rfl, rfl, rfl⟩
    · refine Quiet.trans ?_ (quiet_storeRuntimeModelRecord _ _)
      exact ⟨rfl, rfl, rfl, rfl, rfl⟩

theorem quiet_runtimeModelReady (runtimeModelPtr modelResourcePtr : Ptr) (modelKey : UInt64)
    (s : Cache) : Quiet s (s.runtimeModelReady runtimeModelPtr modelResourcePtr modelKey).2 := by
  have hrefreshed := quiet_refreshRuntimeModel runtimeModelPtr s
  unfold runtimeModelReady
  dsimp only
  split
  · exact hrefreshed.trans ⟨rfl, rfl, rfl, rfl, rfl⟩
  · exact hrefreshed.trans (quiet_runtimeFromResource _ _ _ _)

/-! ## The moves of a call -/

variable {record live : GeosetRecord} {geosetPtr : Ptr} {memory : Memory}

theorem path_storeHeader (hptr : record.geosetPtr ≠ 0) (hdata : record.geosetDataPtr ≠ 0)
    (hstatus : record.immutableCaptureStatus = .notAttempted)
    (heeded : p.again (s.headerRecord record) s) : Path p s (s.storeHeader record) :=
  (Move.stored .cached _ (.header (s.headerRecord record) hstatus hptr hdata heeded)).path

theorem path_createSnapshot (hptr : record.geosetPtr ≠ 0) (hdata : record.geosetDataPtr ≠ 0)
    (hstatus : record.immutableCaptureStatus = .notAttempted)
    (heeded : p.again (s.headerRecord record) s) (aliasIdentityTransition : Bool) :
    Path p s (s.createSnapshot aliasIdentityTransition record) := by
  unfold createSnapshot
  split
  · exact (quiet_noteGeosetDataMetadata _ _ s).path
  · exact path_storeHeader hptr hdata hstatus heeded

theorem path_recordGeosetCreate (hptr : record.geosetPtr ≠ 0) (hdata : record.geosetDataPtr ≠ 0)
    (hstatus : record.immutableCaptureStatus = .notAttempted)
    (heeded : p.again (s.headerRecord record) s) : Path p s (s.recordGeosetCreate record) := by
  unfold recordGeosetCreate
  cases hknown : s.byGeoset record.geosetPtr with
  | none => exact path_createSnapshot hptr hdata hstatus heeded false
  | some alias_ =>
    dsimp only
    split_ifs
    · exact (Move.seen record.geosetPtr alias_ s.frameNumber hknown).path.trans
        (quiet_noteGeosetDataMetadata _ _ _).path
    · exact path_createSnapshot hptr hdata hstatus heeded _

theorem cachedGeoset_eq {alias_ : GeosetRecord} (h : s.byGeoset geosetPtr = some alias_) :
    s.cachedGeoset geosetPtr = s.materializeGeosetAliasRecord alias_ := by
  unfold cachedGeoset
  rw [h]
  rfl

theorem exists_alias_of_ready (h : (s.cachedGeoset geosetPtr).readyForShadowConsumer = true) :
    ∃ alias_, s.byGeoset geosetPtr = some alias_ := by
  cases hknown : s.byGeoset geosetPtr with
  | none =>
    unfold cachedGeoset at h
    rw [hknown] at h
    cases h
  | some alias_ => exact ⟨alias_, rfl⟩

theorem reason_cachedGeoset (hknown : (s.byGeoset geosetPtr).isSome)
    (heeded : (s.cachedGeoset geosetPtr).readyForShadowConsumer = true ∨ p.again record s)
    (htarget : record.geosetPtr = geosetPtr ∨ record.geosetPtr = (s.cachedGeoset geosetPtr).geosetPtr)
    (hdata : record.geosetDataPtr = (s.cachedGeoset geosetPtr).geosetDataPtr)
    (hpayload : record.payload = (s.cachedGeoset geosetPtr).payload)
    (hstatus : record.immutableCaptureStatus =
      (s.cachedGeoset geosetPtr).immutableCaptureStatus) : Reason p s .cached record := by
  obtain ⟨alias_, hknown⟩ := Option.isSome_iff_exists.mp hknown
  rw [cachedGeoset_eq hknown] at heeded htarget hdata hpayload hstatus
  exact .cached geosetPtr alias_ record hknown heeded htarget hdata hpayload hstatus

theorem reason_mergeCaptured {cached : GeosetRecord}
    (hread : memory.captureGeosetRecord geosetPtr = some live) (heeded : p.captured live cached)
    (htarget : record.geosetPtr ≠ 0)
    (hdata : record.geosetDataPtr = (mergeCaptured live cached).geosetDataPtr)
    (hpayload : record.payload = live.payload)
    (hstatus : record.immutableCaptureStatus = live.immutableCaptureStatus) :
    Reason p (s.noteCapture live) .captured record := by
  obtain ⟨-, -, hlive, hattempted⟩ := Memory.captureGeosetRecord_spec hread
  have hmerged : (mergeCaptured live cached).geosetDataPtr =
      if cached.geosetDataPtr ≠ 0 then cached.geosetDataPtr else live.geosetDataPtr := rfl
  have hnoted : Event.captured live.geosetDataPtr live.payload
      (live.immutableCaptureStatus = .complete) ∈ recent (s.noteCapture live).trace := by
    show _ ∈ recent (s.trace ++ [_])
    rw [recent_captured]
    exact List.mem_append_right _ (List.mem_singleton_self _)
  refine .captured live record hnoted (hstatus ▸ hattempted) hpayload hstatus ?_ ?_
    fun hnull => absurd hnull htarget
  · rw [hdata, hmerged]
    split_ifs with h
    · exact h
    · exact hlive
  · by_cases h : cached.geosetDataPtr ≠ 0
    · exact .inr ⟨cached, heeded, (hdata.trans (hmerged.trans (if_pos h))).symm⟩
    · exact .inl (hdata.trans (hmerged.trans (if_neg h)))

theorem geosetPtr_mergeCaptured (hread : memory.captureGeosetRecord geosetPtr = some live)
    (cached : GeosetRecord) : (mergeCaptured live cached).geosetPtr ≠ 0 := by
  obtain ⟨hptr, hlive, -⟩ := Memory.captureGeosetRecord_spec hread
  show (if cached.geosetPtr ≠ 0 then cached.geosetPtr else live.geosetPtr) ≠ 0
  split_ifs with h
  · exact h
  · exact hlive ▸ hptr

theorem path_bindModelGeoset (memory : Memory) (geosetPtr : Ptr) (index : ℕ) (model : ModelRecord)
    (turn : p.modelTurn memory geosetPtr index model s) :
    Path p s (s.bindModelGeoset memory geosetPtr index model).2 := by
  unfold bindModelGeoset
  dsimp only
  cases hready : (s.cachedGeoset geosetPtr).readyForShadowConsumer with
  | true =>
    obtain ⟨alias_, hknown⟩ := exists_alias_of_ready hready
    have hreason : Reason p s .cached
        (modelGeoset index model s.frameNumber (s.cachedGeoset geosetPtr)) :=
      reason_cachedGeoset (Option.isSome_of_mem hknown) (.inl hready) (.inr rfl) rfl rfl rfl
    rw [if_pos rfl]
    exact (Move.stored .cached _ hreason).path
  | false =>
    rw [if_neg Bool.false_ne_true]
    have hturn := turn hready
    cases hread : memory.captureGeosetRecord geosetPtr with
    | some live =>
      rw [hread] at hturn
      have hreason := @reason_mergeCaptured p s
        (modelGeoset index model s.frameNumber { mergeCaptured live (s.cachedGeoset geosetPtr) with
          firstSeenFrame := if (mergeCaptured live (s.cachedGeoset geosetPtr)).firstSeenFrame = 0
            then s.frameNumber else (mergeCaptured live (s.cachedGeoset geosetPtr)).firstSeenFrame })
        live geosetPtr memory (s.cachedGeoset geosetPtr) hread hturn
        (geosetPtr_mergeCaptured hread _) rfl rfl rfl
      exact (Move.noted live).path.trans (Move.stored .captured _ hreason).path
    | none =>
      rw [hread] at hturn
      dsimp only
      split
      · exact Relation.ReflTransGen.refl
      · rename_i hknown
        rw [Option.isNone_iff_eq_none, ← ne_eq, Option.ne_none_iff_isSome] at hknown
        have hreason : Reason p s .cached
            (modelGeoset index model s.frameNumber (s.cachedGeoset geosetPtr)) :=
          reason_cachedGeoset hknown (.inr (hturn hknown)) (.inr rfl) rfl rfl rfl
        exact (Move.stored .cached _ hreason).path

theorem path_bindRuntimeGeoset (memory : Memory) (geosetPtr : Ptr) (index : ℕ) (model : ModelRecord)
    (turn : p.runtimeTurn memory geosetPtr index model s) :
    Path p s (s.bindRuntimeGeoset memory geosetPtr index model).2 := by
  unfold bindRuntimeGeoset
  dsimp only
  cases hready : (s.cachedGeoset geosetPtr).readyForShadowConsumer with
  | true =>
    obtain ⟨alias_, hknown⟩ := exists_alias_of_ready hready
    have hreason : Reason p s .cached
        (runtimeGeoset geosetPtr index model s.frameNumber (s.cachedGeoset geosetPtr)) :=
      reason_cachedGeoset (Option.isSome_of_mem hknown) (.inl hready) (.inl rfl) rfl rfl rfl
    rw [if_pos rfl]
    exact (Move.stored .cached _ hreason).path
  | false =>
    rw [if_neg Bool.false_ne_true]
    have hturn := turn hready
    cases hread : memory.captureGeosetRecord geosetPtr with
    | some live =>
      rw [hread] at hturn
      have hreason := @reason_mergeCaptured p s
        (runtimeGeoset geosetPtr index model s.frameNumber
          (mergeCaptured live (s.cachedGeoset geosetPtr)))
        live geosetPtr memory (s.cachedGeoset geosetPtr) hread hturn
        (Memory.captureGeosetRecord_spec hread).1 rfl rfl rfl
      exact (Move.noted live).path.trans (Move.stored .captured _ hreason).path
    | none =>
      rw [hread] at hturn
      dsimp only
      cases hknown : s.byGeoset geosetPtr with
      | none =>
        -- Nothing is cached, so only the data pointer that is read is stored.
        have hcached : s.cachedGeoset geosetPtr = {} := by
          unfold cachedGeoset
          rw [hknown]
          rfl
        rw [Option.isNone_none, if_pos rfl, hcached]
        refine (Move.stored .cached _ (.unknown _ rfl hknown fun hnull => ?_)).path
        exact if_pos hnull
      | some alias_ =>
        rw [hknown] at hturn
        have hreason : Reason p s .cached
            (runtimeGeoset geosetPtr index model s.frameNumber (s.cachedGeoset geosetPtr)) :=
          reason_cachedGeoset (Option.isSome_of_mem hknown) (.inr (hturn rfl)) (.inl rfl) rfl rfl rfl
        rw [Option.isNone_some, if_neg Bool.false_ne_true]
        exact (Move.stored .cached _ hreason).path

theorem path_bindGeosets {bind : Ptr → ℕ → ModelRecord → Cache → ModelRecord × Cache}
    {turn : Ptr → ℕ → ModelRecord → Cache → Prop}
    (step : ∀ geosetPtr index model s, turn geosetPtr index model s →
      Path p s (bind geosetPtr index model s).2) (geosets : List (Ptr × ℕ)) (model : ModelRecord)
    (s : Cache) (turns : Turns bind turn geosets model s) :
    Path p s (bindGeosets bind geosets model s).2 := by
  induction geosets generalizing model s with
  | nil => exact Relation.ReflTransGen.refl
  | cons geoset rest ih =>
    obtain ⟨hturn, hrest⟩ := turns
    exact (step geoset.1 geoset.2 model s hturn).trans (ih _ _ hrest)

theorem path_bindModelResource (memory : Memory) (modelResourcePtr : Ptr) (modelKey : UInt64)
    (geosetPtrs : List Ptr) (turns : p.modelTurns memory geosetPtrs.zipIdx
      (s.newModel modelResourcePtr modelKey geosetPtrs) s) :
    Path p s (s.bindModelResource memory modelResourcePtr modelKey geosetPtrs) := by
  unfold bindModelResource
  exact (path_bindGeosets (fun _ _ _ _ turn => path_bindModelGeoset memory _ _ _ turn) _ _ s
    turns).trans (quiet_storeModelRecord _ _).path

theorem path_bindRuntimeModel (memory : Memory) (runtimeModelPtr modelResourcePtr : Ptr)
    (modelKey : UInt64) (geosetPtrs : Option (List Ptr))
    (turns : ∀ ptrs, geosetPtrs = some ptrs → p.runtimeTurns memory ptrs.zipIdx
      (s.newRuntimeModel runtimeModelPtr modelResourcePtr modelKey ptrs) s) :
    Path p s (s.bindRuntimeModel memory runtimeModelPtr modelResourcePtr modelKey geosetPtrs) := by
  unfold bindRuntimeModel
  cases geosetPtrs with
  | none => exact (quiet_storeRuntimeAndModel _ s).path
  | some ptrs =>
    exact (path_bindGeosets (fun _ _ _ _ turn => path_bindRuntimeGeoset memory _ _ _ turn) _ _ s
      (turns ptrs rfl)).trans (quiet_storeRuntimeAndModel _ _).path

/-! ### `noteRuntimeGeosetBinding` -/

theorem geosetPtr_materialize {alias_ : GeosetRecord} (h : alias_.geosetPtr ≠ 0) :
    (s.materializeGeosetAliasRecord alias_).geosetPtr = alias_.geosetPtr := by
  unfold materializeGeosetAliasRecord
  split
  · rfl
  · split
    · exact if_pos h
    · exact if_pos h

theorem materializeGeosetDataRecord_spec (geosetDataPtr : Ptr) (snapshot : GeosetRecord)
    (s : Cache) : Alike (s.materializeGeosetDataRecord geosetDataPtr snapshot) snapshot ∧
      (s.materializeGeosetDataRecord geosetDataPtr snapshot).immutableModelGeneration =
        snapshot.immutableModelGeneration := by
  unfold materializeGeosetDataRecord
  split <;> exact ⟨⟨rfl, rfl, rfl, rfl⟩, rfl⟩

/-- What `noteRuntimeGeosetBinding` finds. -/
inductive Looked (b : GeosetBinding) (s : Cache) : GeosetRecord → Bool → Prop
  | alias_ (alias_ : GeosetRecord) (refreshed : Bool) (nonzero : b.runtimeGeosetPtr ≠ 0)
    (known : s.byGeoset b.runtimeGeosetPtr = some alias_)
    (data : refreshed = true → b.runtimeGeosetDataPtr = 0 ∨
      (s.materializeGeosetAliasRecord alias_).geosetDataPtr = b.runtimeGeosetDataPtr) :
    Looked b s (s.materializeGeosetAliasRecord alias_) refreshed
  | snapshot (snapshot : GeosetRecord) (refreshed : Bool) (nonzero : b.runtimeGeosetDataPtr ≠ 0)
    (known : s.byGeosetData b.runtimeGeosetDataPtr = some snapshot)
    (unknown : b.runtimeGeosetPtr ≠ 0 →
      ∀ g, s.byGeoset b.runtimeGeosetPtr = some g → g.geosetPtr = 0) :
    Looked b s (s.materializeGeosetDataRecord b.runtimeGeosetDataPtr snapshot) refreshed
  | nothing (unknown : b.runtimeGeosetDataPtr ≠ 0 → s.byGeosetData b.runtimeGeosetDataPtr = none) :
    Looked b s {} false

theorem looked_lookRuntimeGeoset (b : GeosetBinding) (s : Cache) :
    Looked b s (s.lookRuntimeGeoset b).1 (s.lookRuntimeGeoset b).2 := by
  unfold lookRuntimeGeoset
  dsimp only
  cases hptr : (if b.runtimeGeosetPtr = 0 then none else s.byGeoset b.runtimeGeosetPtr) with
  | none =>
    have hnone : b.runtimeGeosetPtr ≠ 0 → s.byGeoset b.runtimeGeosetPtr = none := fun hnull => by
      rw [if_neg hnull] at hptr
      exact hptr
    by_cases hdata : b.runtimeGeosetDataPtr ≠ 0
    · have hcond : (((none : Option GeosetRecord).elim {} fun alias_ =>
          s.materializeGeosetAliasRecord alias_).geosetPtr = 0 && b.runtimeGeosetDataPtr ≠ 0) =
          true := by simp [hdata]
      rw [if_pos hcond]
      cases hknown : s.byGeosetData b.runtimeGeosetDataPtr with
      | none => exact .nothing fun _ => hknown
      | some snapshot =>
        exact .snapshot snapshot _ hdata hknown fun hnull g hg => by
          rw [hnone hnull] at hg
          cases hg
    · have hcond : ¬ (((none : Option GeosetRecord).elim {} fun alias_ =>
          s.materializeGeosetAliasRecord alias_).geosetPtr = 0 && b.runtimeGeosetDataPtr ≠ 0) =
          true := by simp [hdata]
      rw [if_neg hcond]
      exact .nothing fun h => absurd h hdata
  | some alias_ =>
    have hnull : b.runtimeGeosetPtr ≠ 0 := fun hnull => by
      rw [if_pos hnull] at hptr
      cases hptr
    rw [if_neg hnull] at hptr
    have hfound (refreshed : Bool) : Looked b s (s.materializeGeosetAliasRecord alias_)
        (refreshed && (b.runtimeGeosetDataPtr = 0 ||
          (s.materializeGeosetAliasRecord alias_).geosetDataPtr = b.runtimeGeosetDataPtr)) := by
      refine .alias_ alias_ _ hnull hptr fun h => ?_
      simp only [Bool.and_eq_true, Bool.or_eq_true, decide_eq_true_eq] at h
      exact h.2
    by_cases hcond : ((s.materializeGeosetAliasRecord alias_).geosetPtr = 0 &&
        b.runtimeGeosetDataPtr ≠ 0) = true
    · rw [Option.elim_some, if_pos hcond]
      simp only [Bool.and_eq_true, decide_eq_true_eq] at hcond
      cases hknown : s.byGeosetData b.runtimeGeosetDataPtr with
      | none => exact hfound _
      | some snapshot =>
        refine .snapshot snapshot _ hcond.2 hknown fun _ g hg => ?_
        obtain rfl := Option.some.inj (hptr.symm.trans hg)
        by_contra hne
        exact hne (geosetPtr_materialize hne ▸ hcond.1)
    · rw [Option.elim_some, if_neg hcond]
      exact hfound _

theorem completeBinding_spec (b : GeosetBinding) (s : Cache) :
    (s.completeBinding b).runtimeGeosetPtr = b.runtimeGeosetPtr ∧
      (s.completeBinding b).runtimeGeosetDataPtr = b.runtimeGeosetDataPtr := by
  unfold completeBinding
  split <;> exact ⟨rfl, rfl⟩

theorem geosetPtr_boundRecord (b : GeosetBinding) (frameNumber : UInt64) (record : GeosetRecord) :
    (boundRecord (s.completeBinding b) frameNumber record).geosetPtr =
      if b.runtimeGeosetPtr ≠ 0 then b.runtimeGeosetPtr else record.geosetPtr := by
  rw [← (completeBinding_spec b s).1]
  rfl

theorem geosetDataPtr_boundRecord (b : GeosetBinding) (frameNumber : UInt64)
    (record : GeosetRecord) : (boundRecord (s.completeBinding b) frameNumber record).geosetDataPtr =
      if b.runtimeGeosetDataPtr ≠ 0 then b.runtimeGeosetDataPtr else record.geosetDataPtr := by
  rw [← (completeBinding_spec b s).2]
  rfl

theorem path_publishRuntimeGeoset (b : GeosetBinding) {source : Source}
    (reason : record.geosetPtr ≠ 0 ∨ record.geosetDataPtr ≠ 0 →
      Reason p s source (boundRecord (s.completeBinding b) s.frameNumber record)) :
    Path p s (s.publishRuntimeGeoset b source record) := by
  unfold publishRuntimeGeoset
  dsimp only
  split
  · exact Relation.ReflTransGen.refl
  · rename_i h
    simp only [Bool.and_eq_true, decide_eq_true_eq, not_and_or] at h
    exact (Move.stored source _ (reason h)).path.trans (quiet_placeInModels _ _ _).path

theorem reason_refreshed {b : GeosetBinding} (hlooked : Looked b s record true)
    (heeded : p.again (boundRecord (s.completeBinding b) s.frameNumber record) s) :
    Reason p s .cached (boundRecord (s.completeBinding b) s.frameNumber record) := by
  have hptr := geosetPtr_boundRecord (s := s) b s.frameNumber record
  have hdata := geosetDataPtr_boundRecord (s := s) b s.frameNumber record
  cases hlooked with
  | alias_ alias_ _ nonzero known data =>
    rw [if_pos nonzero] at hptr
    refine .cached b.runtimeGeosetPtr alias_ _ known (.inr heeded) (.inl hptr) ?_ rfl rfl
    by_cases hnull : b.runtimeGeosetDataPtr ≠ 0
    · rw [if_pos hnull] at hdata
      exact hdata.trans ((data rfl).resolve_left hnull).symm
    · rw [if_neg hnull] at hdata
      exact hdata
  | snapshot snapshot _ nonzero known unknown =>
    obtain ⟨halike, -⟩ := materializeGeosetDataRecord_spec b.runtimeGeosetDataPtr snapshot s
    rw [if_pos nonzero] at hdata
    refine .snapshot snapshot _ (fun hnull => nonzero (hdata.symm.trans hnull))
      ((congrArg s.byGeosetData hdata).trans known) heeded ?_ halike.payload halike.status
    by_cases hnull : b.runtimeGeosetPtr ≠ 0
    · rw [if_pos hnull] at hptr
      exact .inr (hptr ▸ ⟨hnull, unknown hnull⟩)
    · rw [if_neg hnull] at hptr
      exact .inl (hptr.trans halike.geosetPtr)

theorem mergeLiveRecord_spec (record : GeosetRecord) (hlive : live.geosetDataPtr ≠ 0) :
    (mergeLiveRecord record live).geosetDataPtr = live.geosetDataPtr ∧
      (mergeLiveRecord record live).payload = live.payload ∧
        (mergeLiveRecord record live).immutableCaptureStatus = live.immutableCaptureStatus ∧
          ((mergeLiveRecord record live).geosetPtr = 0 → record.geosetPtr = 0) := by
  unfold mergeLiveRecord
  by_cases hknown : (record.geosetPtr ≠ 0 || record.geosetDataPtr ≠ 0) = true
  · rw [if_pos hknown]
    refine ⟨if_pos hlive, rfl, rfl, fun hnull => ?_⟩
    by_contra hptr
    have hmerged : (mergeGeosetMetadata (mergeGeosetMetadata {} record) live).geosetPtr ≠ 0 := by
      rw [geosetPtr_mergeGeosetMetadata]
      split_ifs with h
      · exact h
      · rw [geosetPtr_mergeGeosetMetadata, if_pos hptr]
        exact hptr
    exact hmerged hnull
  · rw [if_neg hknown]
    simp only [Bool.or_eq_true, decide_eq_true_eq, not_or, not_not] at hknown
    exact ⟨rfl, rfl, rfl, fun _ => hknown.1⟩

theorem reason_live {b : GeosetBinding} {refreshed : Bool} (hlooked : Looked b s record refreshed)
    (hread : memory.captureGeosetRecordFromKnownPtrs b.runtimeGeosetPtr b.runtimeGeosetDataPtr =
      some live) :
    Reason p (s.noteCapture live) .captured (boundRecord ((s.noteCapture live).completeBinding b)
      s.frameNumber (mergeLiveRecord record live)) := by
  obtain ⟨hlive, hnonzero, hhint, hattempted⟩ := Memory.captureGeosetRecordFromKnownPtrs_spec hread
  obtain ⟨hmerged, hpayload, hstatus, hkept⟩ := mergeLiveRecord_spec record hnonzero
  have hptr := geosetPtr_boundRecord (s := s.noteCapture live) b s.frameNumber
    (mergeLiveRecord record live)
  have hdata : (boundRecord ((s.noteCapture live).completeBinding b) s.frameNumber
      (mergeLiveRecord record live)).geosetDataPtr = live.geosetDataPtr := by
    rw [geosetDataPtr_boundRecord, hmerged]
    split_ifs with h
    · exact (hhint h).symm
    · rfl
  have hnoted : Event.captured live.geosetDataPtr live.payload
      (live.immutableCaptureStatus = .complete) ∈ recent (s.noteCapture live).trace := by
    show _ ∈ recent (s.trace ++ [_])
    rw [recent_captured]
    exact List.mem_append_right _ (List.mem_singleton_self _)
  refine .captured live _ hnoted (fun h => hattempted (hstatus.symm.trans h)) hpayload hstatus
    (hdata ▸ hnonzero) (.inl hdata) fun hnull d hd => .inl ?_
  -- Without a geoset, the data is that of the hint, and its snapshot was found.
  rw [hdata] at hd
  rw [hnull] at hptr
  by_cases hgeoset : b.runtimeGeosetPtr ≠ 0
  · rw [if_pos hgeoset] at hptr
    exact absurd hptr.symm hgeoset
  · rw [if_neg hgeoset] at hptr
    have hhinted : b.runtimeGeosetDataPtr ≠ 0 := fun hnone => by
      rw [not_not.mp hgeoset, hnone] at hread
      cases hread
    rw [hhint hhinted] at hd
    change s.byGeosetData b.runtimeGeosetDataPtr = some d at hd
    cases hlooked with
    | alias_ alias_ _ nonzero known data => exact absurd nonzero hgeoset
    | snapshot snapshot _ nonzero known unknown =>
      obtain ⟨halike, -⟩ := materializeGeosetDataRecord_spec b.runtimeGeosetDataPtr snapshot s
      obtain rfl := Option.some.inj (known.symm.trans hd)
      exact halike.geosetPtr.symm.trans (hkept hptr.symm)
    | nothing unknown =>
      rw [unknown hhinted] at hd
      cases hd

/-! ### `hydrateGeosetByKnownPtrs` -/

theorem lookHydrated_eq_none {geosetDataPtr : Ptr} {d : GeosetRecord} (hdata : geosetDataPtr ≠ 0)
    (h : s.lookHydrated 0 geosetDataPtr = none) (hd : s.byGeosetData geosetDataPtr = some d) :
    d.readyForShadowConsumer = false := by
  by_contra hready
  rw [Bool.not_eq_false] at hready
  unfold lookHydrated at h
  simp [hdata, hd, hready] at h

theorem reason_hydrated {geosetDataPtr : Ptr}
    (hlooked : s.lookHydrated geosetPtr geosetDataPtr = none)
    (hread : memory.captureGeosetRecordFromKnownPtrs geosetPtr geosetDataPtr = some live)
    (hcomplete : live.hasCompleteImmutableConsumerPayload) (halike : Alike record live) :
    Reason p (s.noteCapture live) .captured record := by
  obtain ⟨hlive, hnonzero, hhint, hattempted⟩ := Memory.captureGeosetRecordFromKnownPtrs_spec hread
  have hnoted : Event.captured live.geosetDataPtr live.payload
      (live.immutableCaptureStatus = .complete) ∈ recent (s.noteCapture live).trace := by
    show _ ∈ recent (s.trace ++ [_])
    rw [recent_captured]
    exact List.mem_append_right _ (List.mem_singleton_self _)
  refine .captured live record hnoted (fun h => hattempted (halike.status.symm.trans h))
    halike.payload halike.status (halike.geosetDataPtr ▸ hnonzero) (.inl halike.geosetDataPtr)
    fun hnull d hd => .inr ⟨halike.status.trans (GeosetRecord.complete_of_hasComplete hcomplete), ?_⟩
  obtain rfl : geosetPtr = 0 := hlive.symm.trans (halike.geosetPtr.symm.trans hnull)
  have hhinted : geosetDataPtr ≠ 0 := fun hnone => by
    rw [hnone] at hread
    cases hread
  rw [halike.geosetDataPtr, hhint hhinted] at hd
  exact lookHydrated_eq_none hhinted hlooked hd

/-! ### Whole calls -/

theorem path_perform (call : Op × Memory) (heeds : p.heeds call s) :
    Path p s (s.perform call).2 := by
  obtain ⟨op, memory⟩ := call
  cases op with
  | beginFrame => exact Quiet.path ⟨rfl, rfl, rfl, rfl, rfl⟩
  | resetMapEpoch nextMapEpoch => exact (Move.reset nextMapEpoch heeds).path
  | recordGeosetCreate geosetPtr =>
    unfold perform
    dsimp only
    split
    · exact Relation.ReflTransGen.refl
    · rename_i record hread
      obtain ⟨hptr, hsame, hdata, hstatus⟩ := Memory.captureGeosetHeaderRecord_spec hread
      exact path_recordGeosetCreate (hsame ▸ hptr) hdata hstatus (heeds record hread)
  | noteModelResourceBinding modelResourcePtr modelKey =>
    show Path p s (s.noteModelResourceBinding memory modelResourcePtr modelKey)
    unfold noteModelResourceBinding
    dsimp only
    have hready := quiet_modelResourceReady (memory.directModelResource modelResourcePtr) modelKey s
    split
    · exact Relation.ReflTransGen.refl
    · split
      · exact hready.path
      · rename_i hgoes
        split
        · exact hready.path
        · rename_i geosetPtrs hread
          exact hready.path.trans (path_bindModelResource memory _ _ _
            (heeds geosetPtrs hread (Bool.not_eq_true _ ▸ hgoes)))
  | noteRuntimeModelBinding runtimeModelPtr modelResourcePtr modelKey =>
    show Path p s (s.noteRuntimeModelBinding memory runtimeModelPtr modelResourcePtr modelKey)
    unfold noteRuntimeModelBinding
    dsimp only
    have hready := quiet_runtimeModelReady runtimeModelPtr
      (memory.directModelResource modelResourcePtr) modelKey s
    split
    · exact Relation.ReflTransGen.refl
    · split
      · exact hready.path
      · rename_i hgoes
        simp only [Bool.or_eq_true, not_or, Bool.not_eq_true] at hgoes
        exact hready.path.trans (path_bindRuntimeModel memory _ _ _ _ fun ptrs hread =>
          heeds ptrs hread hgoes.1)
  | noteRuntimeGeosetBinding binding =>
    show Path p s (s.noteRuntimeGeosetBinding memory binding)
    unfold noteRuntimeGeosetBinding
    dsimp only
    have hlooked := looked_lookRuntimeGeoset (binding.resolve memory) s
    split
    · exact Relation.ReflTransGen.refl
    · split
      · rename_i hrefreshed
        rw [hrefreshed] at hlooked
        exact path_publishRuntimeGeoset _ fun _ => reason_refreshed hlooked (heeds hrefreshed)
      · split
        · exact Relation.ReflTransGen.refl
        · rename_i live hread
          exact (Move.noted live).path.trans (path_publishRuntimeGeoset _ fun _ =>
            reason_live hlooked hread)
  | hydrateGeosetByKnownPtrs geosetPtr geosetDataPtr =>
    show Path p s (s.hydrateGeosetByKnownPtrs memory geosetPtr geosetDataPtr).2
    unfold hydrateGeosetByKnownPtrs
    split
    · exact Relation.ReflTransGen.refl
    · split
      · exact Relation.ReflTransGen.refl
      · rename_i hlooked
        split
        · exact Relation.ReflTransGen.refl
        · rename_i live hread
          dsimp only
          split
          · exact (Move.noted live).path
          · rename_i hcomplete
            rw [Bool.not_eq_true', Bool.not_eq_false] at hcomplete
            have hreason : Reason p (s.noteCapture live) .captured { live with
                firstSeenFrame :=
                  if live.firstSeenFrame = 0 then s.frameNumber else live.firstSeenFrame
                lastSeenFrame := s.frameNumber } :=
              reason_hydrated hlooked hread hcomplete ⟨rfl, rfl, rfl, rfl⟩
            exact (Move.noted live).path.trans (Move.stored .captured _ hreason).path

end Cache

end War3VK.Model
