import War3VK.Model.ResourceCacheKnown

/-!
# Threads and map epochs

The calls of the cache as threads interleave them: a step of a thread is a region under the mutex, or a
capture of the game's memory without it. A snapshot is stamped with the epoch in which it is published. Its
bytes were read in that epoch too, unless a thread publishes what it captured, or found, before a reset.
-/

namespace War3VK.Model

open Lib

/-- Where a thread is. What it captured or found is kept with the epoch it was in, which no function
reads. -/
inductive Phase
  | idle
  /-- In `noteModelResourceBinding`, before its second region. -/
  | modelBind (modelResourcePtr : Ptr) (modelKey : UInt64)
  /-- In `noteRuntimeModelBinding`, before its second region. -/
  | runtimeBind (runtimeModelPtr modelResourcePtr : Ptr) (modelKey : UInt64)
  /-- In `noteRuntimeGeosetBinding`, before its capture. -/
  | geosetCapture (b : GeosetBinding) (found : GeosetRecord)
  /-- In `noteRuntimeGeosetBinding`, before its second region. -/
  | geosetPublish (b : GeosetBinding) (source : Source) (record : GeosetRecord) (readIn : UInt64)
  /-- In `hydrateGeosetByKnownPtrs`, before its capture. -/
  | hydrateCapture (geosetPtr geosetDataPtr : Ptr)
  /-- In `hydrateGeosetByKnownPtrs`, before its second region. -/
  | hydratePublish (hydrated : GeosetRecord) (readIn : UInt64)
  deriving DecidableEq, Repr

structure World where
  cache : Cache := {}
  threads : ℕ → Phase := fun _ => .idle

/-- A step. The memory is what the reads of the step return. Reads of pointers are made in the step of the
region that follows them, as memory may be any in each step. -/
inductive Action
  | beginFrame
  | resetMapEpoch (nextMapEpoch : UInt64)
  | recordGeosetCreate (geosetPtr : Ptr) (memory : Memory)
  | noteModelResourceBinding (thread : ℕ) (modelResourcePtr : Ptr) (modelKey : UInt64)
    (memory : Memory)
  | noteRuntimeModelBinding (thread : ℕ) (runtimeModelPtr modelResourcePtr : Ptr) (modelKey : UInt64)
    (memory : Memory)
  | noteRuntimeGeosetBinding (thread : ℕ) (binding : GeosetBinding) (memory : Memory)
  | hydrateGeosetByKnownPtrs (thread : ℕ) (geosetPtr geosetDataPtr : Ptr)
  | go (thread : ℕ) (memory : Memory)

namespace World

def put (thread : ℕ) (phase : Phase) (cache : Cache) (w : World) : World where
  cache
  threads := Function.update w.threads thread phase

/-- A thread enters `noteModelResourceBinding`, and leaves its first region. -/
def enterModel (thread : ℕ) (modelResourcePtr : Ptr) (modelKey : UInt64) (memory : Memory)
    (w : World) : World :=
  let modelResourcePtr := memory.directModelResource modelResourcePtr
  if modelResourcePtr = 0 then w
  else
    let ready := w.cache.modelResourceReady modelResourcePtr modelKey
    w.put thread (if ready.1 then .idle else .modelBind modelResourcePtr modelKey) ready.2

/-- A thread enters `noteRuntimeModelBinding`, and leaves its first region. -/
def enterRuntimeModel (thread : ℕ) (runtimeModelPtr modelResourcePtr : Ptr) (modelKey : UInt64)
    (memory : Memory) (w : World) : World :=
  if runtimeModelPtr = 0 then w
  else
    let modelResourcePtr := memory.directModelResource modelResourcePtr
    let ready := w.cache.runtimeModelReady runtimeModelPtr modelResourcePtr modelKey
    w.put thread
      (if ready.1 then .idle else .runtimeBind runtimeModelPtr modelResourcePtr modelKey) ready.2

/-- A thread enters `noteRuntimeGeosetBinding`, and leaves its first region. -/
def enterRuntimeGeoset (thread : ℕ) (binding : GeosetBinding) (memory : Memory) (w : World) : World :=
  if binding.runtimeGeosetPtr = 0 && binding.runtimeGeosetDataPtr = 0 then w
  else
    let b := binding.resolve memory
    let looked := w.cache.lookRuntimeGeoset b
    w.put thread
      (if looked.2 then .geosetPublish b .cached looked.1 w.cache.mapEpoch
      else .geosetCapture b looked.1) w.cache

/-- A thread enters `hydrateGeosetByKnownPtrs`, and leaves its first region. -/
def enterHydrate (thread : ℕ) (geosetPtr geosetDataPtr : Ptr) (w : World) : World :=
  if geosetPtr = 0 && geosetDataPtr = 0 then w
  else
    match w.cache.lookHydrated geosetPtr geosetDataPtr with
    | some _ => w
    | none => w.put thread (.hydrateCapture geosetPtr geosetDataPtr) w.cache

def go (thread : ℕ) (memory : Memory) (w : World) : World :=
  match w.threads thread with
  | .idle => w
  | .modelBind modelResourcePtr modelKey =>
    w.put thread .idle
      (match memory.modelGeosets modelResourcePtr with
      | none => w.cache
      | some geosetPtrs => w.cache.bindModelResource memory modelResourcePtr modelKey geosetPtrs)
  | .runtimeBind runtimeModelPtr modelResourcePtr modelKey =>
    w.put thread .idle
      (if !memory.looksLikeRuntimeModel runtimeModelPtr then w.cache
      else
        w.cache.bindRuntimeModel memory runtimeModelPtr modelResourcePtr modelKey
          (memory.runtimeGeosets runtimeModelPtr))
  | .geosetCapture b found =>
    match memory.captureGeosetRecordFromKnownPtrs b.runtimeGeosetPtr b.runtimeGeosetDataPtr with
    | none => w.put thread .idle w.cache
    | some live =>
      w.put thread (.geosetPublish b .captured (mergeLiveRecord found live) w.cache.mapEpoch)
        (w.cache.noteCapture live)
  | .geosetPublish b source record _ =>
    w.put thread .idle (w.cache.publishRuntimeGeoset b source record)
  | .hydrateCapture geosetPtr geosetDataPtr =>
    match memory.captureGeosetRecordFromKnownPtrs geosetPtr geosetDataPtr with
    | none => w.put thread .idle w.cache
    | some hydrated =>
      w.put thread
        (if hydrated.hasCompleteImmutableConsumerPayload
          then .hydratePublish hydrated w.cache.mapEpoch else .idle)
        (w.cache.noteCapture hydrated)
  | .hydratePublish hydrated _ => w.put thread .idle (w.cache.publishHydrated hydrated).2

def act (action : Action) (w : World) : World :=
  match action with
  | .beginFrame => { w with cache := w.cache.beginFrame }
  | .resetMapEpoch nextMapEpoch => { w with cache := (w.cache.resetMapEpoch nextMapEpoch).2 }
  | .recordGeosetCreate geosetPtr memory =>
    match memory.captureGeosetHeaderRecord geosetPtr with
    | none => w
    | some record => { w with cache := w.cache.recordGeosetCreate record }
  | .noteModelResourceBinding thread modelResourcePtr modelKey memory =>
    if w.threads thread = .idle then w.enterModel thread modelResourcePtr modelKey memory else w
  | .noteRuntimeModelBinding thread runtimeModelPtr modelResourcePtr modelKey memory =>
    if w.threads thread = .idle then
      w.enterRuntimeModel thread runtimeModelPtr modelResourcePtr modelKey memory
    else w
  | .noteRuntimeGeosetBinding thread binding memory =>
    if w.threads thread = .idle then w.enterRuntimeGeoset thread binding memory else w
  | .hydrateGeosetByKnownPtrs thread geosetPtr geosetDataPtr =>
    if w.threads thread = .idle then w.enterHydrate thread geosetPtr geosetDataPtr else w
  | .go thread memory => w.go thread memory

def step (action : Action) (w : World) : Unit × World := ((), w.act action)

end World

/-! ## What was read since the reset -/

variable {record : GeosetRecord}

namespace Cache

def ReadSince (payload : Payload) (s : Cache) : Prop :=
  ∃ geosetDataPtr, .captured geosetDataPtr payload true ∈ recent s.trace

/-- A record that is complete was read since the last reset, and another one has no payload. -/
structure Current (s : Cache) (r : GeosetRecord) : Prop where
  complete : r.immutableCaptureStatus = .complete → s.ReadSince r.payload
  incomplete : r.immutableCaptureStatus ≠ .complete → r.payload = {}

structure AllCurrent (s : Cache) : Prop where
  alias_ : ∀ P g, s.byGeoset P = some g → s.Current g
  snapshot : ∀ D d, s.byGeosetData D = some d → s.Current d

structure Later (s s' : Cache) : Prop where
  mapEpoch : s'.mapEpoch = s.mapEpoch
  recent : ∀ event ∈ recent s.trace, event ∈ recent s'.trace

def noReset : Heed where
  again _ _ := True
  captured _ _ := True
  reset _ := False

variable {p : Heed} {s s' : Cache} {source : Source} {incoming merged published : GeosetRecord}

theorem Later.refl (s : Cache) : Later s s := ⟨rfl, fun _ hevent => hevent⟩

theorem Later.trans {s'' : Cache} (h : Later s s') (h' : Later s' s'') : Later s s'' :=
  ⟨h'.mapEpoch.trans h.mapEpoch, fun event hevent => h'.recent event (h.recent event hevent)⟩

theorem ReadSince.later {payload : Payload} (h : s.ReadSince payload) (later : Later s s') :
    s'.ReadSince payload := by
  obtain ⟨D, hread⟩ := h
  exact ⟨D, later.recent _ hread⟩

variable {r : GeosetRecord}

theorem Current.later (h : s.Current r) (later : Later s s') : s'.Current r :=
  ⟨fun hcomplete => (h.complete hcomplete).later later, h.incomplete⟩

theorem Current.congr {r' : GeosetRecord} (h : s.Current r) (hpayload : r'.payload = r.payload)
    (hstatus : r'.immutableCaptureStatus = r.immutableCaptureStatus) : s.Current r' :=
  ⟨fun hcomplete => hpayload ▸ h.complete (hstatus.symm.trans hcomplete),
    fun hincomplete => hpayload.trans (h.incomplete fun hcomplete =>
      hincomplete (hstatus.trans hcomplete))⟩

theorem current_empty (hpayload : r.payload = {}) (hstatus : r.immutableCaptureStatus ≠ .complete) :
    s.Current r :=
  ⟨fun hcomplete => absurd hcomplete hstatus, fun _ => hpayload⟩

theorem Quiet.later (h : Quiet s s') : Later s s' :=
  ⟨h.mapEpoch, fun _ hevent => h.trace ▸ hevent⟩

theorem later_stored (hepoch : s'.mapEpoch = s.mapEpoch) {moved : Bool}
    (htrace : s'.trace = s.trace ++ [.stored source moved record published]) : Later s s' :=
  ⟨hepoch, fun _ hevent => by
    rw [htrace, recent_stored]
    exact List.mem_append_left _ hevent⟩

theorem later_noteCapture (record : GeosetRecord) (s : Cache) : Later s (s.noteCapture record) :=
  ⟨rfl, fun event hevent => by
    show event ∈ Cache.recent (s.trace ++ [_])
    rw [recent_captured]
    exact List.mem_append_left _ hevent⟩

theorem readSince_noteCapture (h : record.immutableCaptureStatus = .complete) :
    (s.noteCapture record).ReadSince record.payload := by
  refine ⟨record.geosetDataPtr, ?_⟩
  show _ ∈ recent (s.trace ++ [_])
  rw [recent_captured, decide_eq_true h]
  exact List.mem_append_right _ (List.mem_singleton_self _)

/-! ## What is stored is current -/

section

variable (hs : AllCurrent s)
include hs

theorem current_materialize {g : GeosetRecord} (hg : s.Current g) :
    s.Current (s.materializeGeosetAliasRecord g) := by
  unfold materializeGeosetAliasRecord
  split
  · exact hg
  · split
    · rename_i d hd
      obtain ⟨halike, -⟩ := materializeGeosetDataRecord_spec g.geosetDataPtr d s
      exact (hs.snapshot _ d hd).congr halike.payload halike.status
    · exact current_empty rfl (by simp)

theorem read_of_reason (reason : Reason p s source incoming)
    (hcomplete : incoming.immutableCaptureStatus = .complete) : s.ReadSince incoming.payload := by
  cases reason with
  | header _ status geosetPtr data heeded => rw [status] at hcomplete; cases hcomplete
  | unknown _ status fresh nowhere => rw [status] at hcomplete; cases hcomplete
  | cached P g _ known heeded target data payload status =>
    exact payload ▸ (current_materialize hs (hs.alias_ P g known)).complete
      (status.symm.trans hcomplete)
  | snapshot d _ nonzero known heeded target payload status =>
    exact payload ▸ (hs.snapshot _ d known).complete (status.symm.trans hcomplete)
  | captured live _ noted attempted payload status nonzero data target =>
    rw [decide_eq_true (status.symm.trans hcomplete)] at noted
    exact ⟨live.geosetDataPtr, payload ▸ noted⟩

theorem current_published
    (hread : incoming.immutableCaptureStatus = .complete → s.ReadSince incoming.payload)
    (h : Published source incoming s merged published s') : s.Current merged := by
  cases h.content with
  | complete status same =>
    exact ⟨fun _ => same.1 ▸ hread status, fun hincomplete => absurd same.2 hincomplete⟩
  | failed status same => exact current_empty same.1 (by rw [same.2]; simp)
  | snapshot d status known same =>
    exact (hs.snapshot _ d (canonicalOf_eq_some known).2).congr same.1 same.2
  | alias_ g status unknown known unmoved same =>
    exact (hs.alias_ _ g (aliasOf_eq_some known).2).congr same.1 same.2
  | header status unknown same => exact current_empty same.1 (by rw [same.2]; simp)

theorem allCurrent_stored (source : Source)
    (hread : incoming.immutableCaptureStatus = .complete → s.ReadSince incoming.payload) :
    AllCurrent (s.storeGeosetRecord source incoming).2 ∧
      Later s (s.storeGeosetRecord source incoming).2 := by
  obtain h | ⟨merged, h⟩ := storeGeosetRecord_cases source incoming s
  · have hlater := later_stored h.mapEpoch h.trace
    refine ⟨⟨fun P g hg => ?_, fun D d hd => ?_⟩, hlater⟩
    · obtain ⟨-, rfl⟩ | ⟨-, hg⟩ := h.byGeoset_cases hg
      · exact current_empty h.empty.1 fun hcomplete =>
          h.incomplete (h.same.2.2.symm.trans hcomplete)
      · exact (hs.alias_ P g hg).later hlater
    · rw [h.byGeosetData] at hd
      exact (hs.snapshot D d hd).later hlater
  · have hlater := later_stored h.mapEpoch h.trace
    have hmerged := (current_published hs hread h).later hlater
    refine ⟨⟨fun P g hg => ?_, fun D d hd => ?_⟩, hlater⟩
    · obtain ⟨-, -, rfl⟩ | ⟨-, hg⟩ := h.byGeoset_cases hg
      · exact hmerged
      · exact (hs.alias_ P g hg).later hlater
    · obtain ⟨-, -, rfl⟩ | ⟨-, hd⟩ := h.byGeosetData_cases hd
      · exact hmerged.congr h.alike.payload h.alike.status
      · exact (hs.snapshot D d hd).later hlater

theorem AllCurrent.later (later : Later s s') (hbyGeoset : s'.byGeoset = s.byGeoset)
    (hbyGeosetData : s'.byGeosetData = s.byGeosetData) : AllCurrent s' :=
  ⟨fun P g hg => (hs.alias_ P g (hbyGeoset ▸ hg)).later later,
    fun D d hd => (hs.snapshot D d (hbyGeosetData ▸ hd)).later later⟩

theorem allCurrent_move (move : Move noReset s s') : AllCurrent s' ∧ Later s s' := by
  cases move with
  | quiet _ same => exact ⟨hs.later same.later same.byGeoset same.byGeosetData, same.later⟩
  | seen Q alias_ frameNumber known =>
    have hlater : Later s { s with
        byGeoset := Function.update s.byGeoset Q
          (some { alias_ with lastSeenFrame := frameNumber }) } := ⟨rfl, fun _ h => h⟩
    refine ⟨⟨fun P g hg => ?_, fun D d hd => (hs.snapshot D d hd).later hlater⟩, hlater⟩
    obtain ⟨g₀, hg₀, halike, -⟩ := seen_cases known hg
    exact ((hs.alias_ P g₀ hg₀).congr halike.payload halike.status).later hlater
  | noted record =>
    exact ⟨hs.later (later_noteCapture record s) rfl rfl, later_noteCapture record s⟩
  | stored source record reason => exact allCurrent_stored hs source (read_of_reason hs reason)
  | reset mapEpoch heeded => exact heeded.elim

theorem allCurrent_path (path : Path noReset s s') : AllCurrent s' ∧ Later s s' :=
  @Path.keeps noReset (fun t => AllCurrent t ∧ Later s t) s s' path
    (fun _ _ h move =>
      have hmoved := allCurrent_move h.1 move
      ⟨hmoved.1, h.2.trans hmoved.2⟩) ⟨hs, Later.refl s⟩

end

theorem turns_of_forall {bind : Ptr → ℕ → ModelRecord → Cache → ModelRecord × Cache}
    {turn : Ptr → ℕ → ModelRecord → Cache → Prop} (h : ∀ P index model s, turn P index model s)
    (geosets : List (Ptr × ℕ)) (model : ModelRecord) (s : Cache) :
    Turns bind turn geosets model s := by
  induction geosets generalizing model s with
  | nil => trivial
  | cons geoset rest ih => exact ⟨h _ _ _ _, ih _ _⟩

theorem turn_noReset (memory : Memory) (P : Ptr) (again : GeosetRecord → GeosetRecord) (s : Cache) :
    noReset.turn memory P again s := by
  intro _
  split
  · trivial
  · exact fun _ => trivial

theorem current_looked (hs : AllCurrent s) {b : GeosetBinding} {refreshed : Bool}
    (h : Looked b s record refreshed) : s.Current record := by
  cases h with
  | alias_ g _ nonzero known data => exact current_materialize hs (hs.alias_ _ g known)
  | snapshot d _ nonzero known unknown =>
    obtain ⟨halike, -⟩ := materializeGeosetDataRecord_spec b.runtimeGeosetDataPtr d s
    exact (hs.snapshot _ d known).congr halike.payload halike.status
  | nothing unknown => exact current_empty rfl (by simp)

theorem allCurrent_publishRuntimeGeoset (hs : AllCurrent s) (b : GeosetBinding) (source : Source)
    (hread : record.immutableCaptureStatus = .complete → s.ReadSince record.payload) :
    AllCurrent (s.publishRuntimeGeoset b source record) ∧
      Later s (s.publishRuntimeGeoset b source record) := by
  unfold publishRuntimeGeoset
  dsimp only
  split
  · exact ⟨hs, Later.refl s⟩
  · have hstored := @allCurrent_stored s (boundRecord (s.completeBinding b) s.frameNumber record) hs
      source hread
    have hplaced := quiet_placeInModels (s.completeBinding b) (s.storeGeosetRecord source
      (boundRecord (s.completeBinding b) s.frameNumber record)).1 (s.storeGeosetRecord source
        (boundRecord (s.completeBinding b) s.frameNumber record)).2
    exact ⟨hstored.1.later hplaced.later hplaced.byGeoset hplaced.byGeosetData,
      hstored.2.trans hplaced.later⟩

end Cache

/-! ## The threads -/

/-- What a thread is about to publish was read in the epoch that it notes. -/
structure Pending (s : Cache) (record : GeosetRecord) (readIn : UInt64) : Prop where
  past : readIn ≤ s.mapEpoch
  /-- In that epoch, a complete record was read since the last reset. -/
  read : readIn = s.mapEpoch → record.immutableCaptureStatus = .complete →
    s.ReadSince record.payload

def Phase.Fits (s : Cache) : Phase → Prop
  | .geosetPublish _ _ record readIn => Pending s record readIn
  | .hydratePublish hydrated readIn => Pending s hydrated readIn
  | _ => True

variable {phase : Phase}

theorem Phase.Fits.later {s s' : Cache} (h : phase.Fits s) (later : Cache.Later s s') :
    phase.Fits s' := by
  have hpending {record : GeosetRecord} {readIn : UInt64} (h : Pending s record readIn) :
      Pending s' record readIn := by
    refine ⟨later.mapEpoch ▸ h.past, fun hsame hcomplete => ?_⟩
    exact (h.read (hsame.trans later.mapEpoch) hcomplete).later later
  cases phase with
  | geosetPublish b source record readIn => exact hpending h
  | hydratePublish hydrated readIn => exact hpending h
  | _ => trivial

theorem Phase.Fits.reset {s s' : Cache} (h : phase.Fits s) (hless : s.mapEpoch < s'.mapEpoch) :
    phase.Fits s' := by
  have hpending {record : GeosetRecord} {readIn : UInt64} (h : Pending s record readIn) :
      Pending s' record readIn := by
    have hpast := UInt64.lt_of_le_of_lt h.past hless
    exact ⟨UInt64.le_of_lt hpast, fun hsame => absurd hsame (UInt64.ne_of_lt hpast)⟩
  cases phase with
  | geosetPublish b source record readIn => exact hpending h
  | hydratePublish hydrated readIn => exact hpending h
  | _ => trivial

namespace World

structure Fits (w : World) : Prop where
  current : w.cache.AllCurrent
  threads : ∀ thread, (w.threads thread).Fits w.cache

variable {w : World}

theorem fits_put (hw : w.Fits) {thread : ℕ} {cache : Cache}
    (hcache : cache.AllCurrent ∧ Cache.Later w.cache cache) (hphase : phase.Fits cache) :
    (w.put thread phase cache).Fits where
  current := hcache.1
  threads other := by
    show (Function.update w.threads thread phase other).Fits cache
    by_cases hsame : other = thread
    · rw [hsame, Function.update_self]
      exact hphase
    · rw [Function.update_of_ne hsame]
      exact (hw.threads other).later hcache.2

theorem quiet_fits (hw : w.Fits) {cache : Cache} (same : Cache.Quiet w.cache cache) :
    cache.AllCurrent ∧ Cache.Later w.cache cache :=
  ⟨hw.current.later same.later same.byGeoset same.byGeosetData, same.later⟩

theorem fits_enterModel (hw : w.Fits) (thread : ℕ) (modelResourcePtr : Ptr) (modelKey : UInt64)
    (memory : Memory) : (w.enterModel thread modelResourcePtr modelKey memory).Fits := by
  unfold enterModel
  dsimp only
  split
  · exact hw
  · refine fits_put hw (quiet_fits hw (Cache.quiet_modelResourceReady _ _ _)) ?_
    split <;> trivial

theorem fits_enterRuntimeModel (hw : w.Fits) (thread : ℕ) (runtimeModelPtr modelResourcePtr : Ptr)
    (modelKey : UInt64) (memory : Memory) :
    (w.enterRuntimeModel thread runtimeModelPtr modelResourcePtr modelKey memory).Fits := by
  unfold enterRuntimeModel
  dsimp only
  split
  · exact hw
  · refine fits_put hw (quiet_fits hw (Cache.quiet_runtimeModelReady _ _ _ _)) ?_
    split <;> trivial

theorem fits_enterRuntimeGeoset (hw : w.Fits) (thread : ℕ) (binding : GeosetBinding)
    (memory : Memory) : (w.enterRuntimeGeoset thread binding memory).Fits := by
  unfold enterRuntimeGeoset
  dsimp only
  split
  · exact hw
  · refine fits_put hw ⟨hw.current, Cache.Later.refl _⟩ ?_
    have hlooked := Cache.looked_lookRuntimeGeoset (binding.resolve memory) w.cache
    split
    · exact ⟨UInt64.le_refl _, fun _ => (Cache.current_looked hw.current hlooked).complete⟩
    · trivial

theorem fits_enterHydrate (hw : w.Fits) (thread : ℕ) (geosetPtr geosetDataPtr : Ptr) :
    (w.enterHydrate thread geosetPtr geosetDataPtr).Fits := by
  unfold enterHydrate
  split
  · exact hw
  · split
    · exact hw
    · exact fits_put hw ⟨hw.current, Cache.Later.refl _⟩ trivial

/-! ## The law -/

def advances (action : Action) (w : World) : Bool :=
  match action with
  | .resetMapEpoch nextMapEpoch => w.cache.mapEpoch < nextMapEpoch
  | _ => true

/-- A thread publishes a complete record in the epoch in which it captured or found it. -/
def prompt (action : Action) (w : World) : Bool :=
  match action with
  | .go thread _ =>
    match w.threads thread with
    | .geosetPublish _ _ record readIn =>
      record.immutableCaptureStatus ≠ .complete || readIn = w.cache.mapEpoch
    | .hydratePublish hydrated readIn =>
      hydrated.immutableCaptureStatus ≠ .complete || readIn = w.cache.mapEpoch
    | _ => true
  | _ => true

theorem pending_noteCapture {s : Cache} {live : GeosetRecord}
    (hpayload : record.payload = live.payload)
    (hstatus : record.immutableCaptureStatus = live.immutableCaptureStatus) :
    Pending (s.noteCapture live) record s.mapEpoch :=
  ⟨UInt64.le_refl _, fun _ hcomplete => hpayload ▸ Cache.readSince_noteCapture
    (hstatus.symm.trans hcomplete)⟩

theorem capture_fits (hw : w.Fits) (live : GeosetRecord) :
    (w.cache.noteCapture live).AllCurrent ∧ Cache.Later w.cache (w.cache.noteCapture live) :=
  Cache.allCurrent_move hw.current (.noted live)

theorem fits_go (hw : w.Fits) (thread : ℕ) (memory : Memory)
    (hprompt : prompt (.go thread memory) w = true) : (w.go thread memory).Fits := by
  have hthread := hw.threads thread
  unfold prompt at hprompt
  dsimp only at hprompt
  unfold go
  cases hphase : w.threads thread with
  | idle => exact hw
  | modelBind modelResourcePtr modelKey =>
    refine fits_put hw ?_ trivial
    split
    · exact ⟨hw.current, Cache.Later.refl _⟩
    · exact Cache.allCurrent_path hw.current (Cache.path_bindModelResource memory _ _ _
        (Cache.turns_of_forall (fun _ _ _ _ => Cache.turn_noReset _ _ _ _) _ _ _))
  | runtimeBind runtimeModelPtr modelResourcePtr modelKey =>
    refine fits_put hw ?_ trivial
    split
    · exact ⟨hw.current, Cache.Later.refl _⟩
    · exact Cache.allCurrent_path hw.current (Cache.path_bindRuntimeModel memory _ _ _ _
        fun _ _ => Cache.turns_of_forall (fun _ _ _ _ => Cache.turn_noReset _ _ _ _) _ _ _)
  | geosetCapture b found =>
    dsimp only
    split
    · exact fits_put hw ⟨hw.current, Cache.Later.refl _⟩ trivial
    · rename_i live hread
      obtain ⟨-, hnonzero, -⟩ := Memory.captureGeosetRecordFromKnownPtrs_spec hread
      obtain ⟨-, hpayload, hstatus, -⟩ := Cache.mergeLiveRecord_spec found hnonzero
      exact fits_put hw (capture_fits hw live) (pending_noteCapture hpayload hstatus)
  | geosetPublish b source record readIn =>
    rw [hphase] at hthread hprompt
    simp only [Bool.or_eq_true, decide_eq_true_eq] at hprompt
    exact fits_put hw (Cache.allCurrent_publishRuntimeGeoset hw.current b source fun hcomplete =>
      hthread.read (hprompt.resolve_left (not_not.mpr hcomplete)) hcomplete) trivial
  | hydrateCapture geosetPtr geosetDataPtr =>
    dsimp only
    split
    · exact fits_put hw ⟨hw.current, Cache.Later.refl _⟩ trivial
    · rename_i hydrated hread
      refine fits_put hw (capture_fits hw hydrated) ?_
      split
      · exact pending_noteCapture rfl rfl
      · trivial
  | hydratePublish hydrated readIn =>
    rw [hphase] at hthread hprompt
    simp only [Bool.or_eq_true, decide_eq_true_eq] at hprompt
    exact fits_put hw (Cache.allCurrent_stored hw.current .captured fun hcomplete =>
      hthread.read (hprompt.resolve_left (not_not.mpr hcomplete)) hcomplete) trivial

theorem fits_reset (hw : w.Fits) {nextMapEpoch : UInt64} (hless : w.cache.mapEpoch < nextMapEpoch) :
    Fits { w with cache := (w.cache.resetMapEpoch nextMapEpoch).2 } := by
  have hnonzero : nextMapEpoch ≠ 0 := by
    rintro rfl
    exact absurd (UInt64.lt_iff_toNat_lt.mp hless) (Nat.not_lt_zero _)
  unfold Cache.resetMapEpoch
  rw [if_neg hnonzero]
  exact {
    current := ⟨fun _ _ hg => (nomatch hg), fun _ _ hd => (nomatch hd)⟩
    threads := fun thread => (hw.threads thread).reset hless }

theorem fits_act (hw : w.Fits) (action : Action) (hadvances : advances action w = true)
    (hprompt : prompt action w = true) : (w.act action).Fits := by
  cases action with
  | beginFrame =>
    have hlater : Cache.Later w.cache w.cache.beginFrame := ⟨rfl, fun _ h => h⟩
    exact ⟨hw.current.later hlater rfl rfl, fun thread => (hw.threads thread).later hlater⟩
  | resetMapEpoch nextMapEpoch => exact fits_reset hw (of_decide_eq_true hadvances)
  | recordGeosetCreate geosetPtr memory =>
    unfold act
    dsimp only
    split
    · exact hw
    · rename_i record hread
      obtain ⟨hptr, hsame, hdata, hstatus⟩ := Memory.captureGeosetHeaderRecord_spec hread
      have hmoved := Cache.allCurrent_path hw.current
        (Cache.path_recordGeosetCreate (hsame ▸ hptr) hdata hstatus trivial)
      exact ⟨hmoved.1, fun thread => (hw.threads thread).later hmoved.2⟩
  | noteModelResourceBinding thread modelResourcePtr modelKey memory =>
    unfold act
    dsimp only
    split
    · exact fits_enterModel hw _ _ _ _
    · exact hw
  | noteRuntimeModelBinding thread runtimeModelPtr modelResourcePtr modelKey memory =>
    unfold act
    dsimp only
    split
    · exact fits_enterRuntimeModel hw _ _ _ _ _
    · exact hw
  | noteRuntimeGeosetBinding thread binding memory =>
    unfold act
    dsimp only
    split
    · exact fits_enterRuntimeGeoset hw _ _ _
    · exact hw
  | hydrateGeosetByKnownPtrs thread geosetPtr geosetDataPtr =>
    unfold act
    dsimp only
    split
    · exact fits_enterHydrate hw _ _ _
    · exact hw
  | go thread memory => exact fits_go hw thread memory hprompt

theorem fits_empty : Fits {} where
  current := ⟨fun _ _ hg => (nomatch hg), fun _ _ hd => (nomatch hd)⟩
  threads _ := trivial

/-- The law of epochs, in the state after a run: what is found in an epoch was read in it. -/
structure EpochLaw (s : Cache) : Prop where
  /-- A stamp is of the current epoch, and its payload was read since the last reset. -/
  stamp : ∀ D e r, s.findGeosetStampByDataForEpoch D e = some r →
    e = s.mapEpoch ∧ s.ReadSince r.payload
  /-- A snapshot that is found was read since the last reset, or it has no payload. -/
  snapshot : ∀ D r, s.findGeosetSnapshotByData D = some r → s.Current r

theorem epochLaw_of_current {s : Cache} (hs : s.AllCurrent) : EpochLaw s where
  stamp D e r h := by
    unfold Cache.findGeosetStampByDataForEpoch at h
    split_ifs at h with hnull hepoch
    obtain ⟨hd, hstamp⟩ := Option.filter_eq_some_iff.mp h
    simp only [Bool.and_eq_true, decide_eq_true_eq] at hstamp
    exact ⟨(not_not.mp hepoch).symm, (hs.snapshot D r hd).complete hstamp.2⟩
  snapshot D r h := by
    unfold Cache.findGeosetSnapshotByData at h
    split_ifs at h with hnull
    exact hs.snapshot D r (Option.filter_eq_some_iff.mp h).1

/-- In every run with strictly increasing epochs in which each thread publishes a complete record in the
epoch in which it captured or found it, what is found in an epoch was read in it. -/
theorem epochs_run (actions : List Action)
    (increasing : ∀ r ∈ history step actions {}, advances r.call r.before = true)
    (prompted : ∀ r ∈ history step actions {}, prompt r.call r.before = true) :
    EpochLaw (run step actions {}).cache :=
  epochLaw_of_current (@history_induction_of _ _ _ step (fun w _ => w.Fits)
    (fun r => advances r.call r.before = true ∧ prompt r.call r.before = true) {} fits_empty
    (fun _ _ action hw h => fits_act hw action h.1 h.2) actions
    fun r hr => ⟨increasing r hr, prompted r hr⟩).current

/-! ### Runs on fixed inputs -/

def triangles : Memory where
  streams _ := ({ vertexCount := 1, positions := [1], indices := [0] }, true)

/-- A thread hydrates the data 16, and the map is reset before or after it publishes. -/
def hydrations (before after : List Action) : List Action :=
  [.hydrateGeosetByKnownPtrs 0 0 16, .go 0 triangles] ++ before ++ [.go 0 triangles] ++ after

/-- The map is reset after the publication, and then the data is hydrated again. -/
def promptHydrations : List Action :=
  hydrations [] ([.resetMapEpoch 2] ++ hydrations [] [])

/-- A thread that publishes before the reset, and again after it, is found in the second epoch. -/
theorem epochs_run_prompt :
    ((run step promptHydrations {}).cache.findGeosetStampByDataForEpoch 16 2).isSome = true ∧
      EpochLaw (run step promptHydrations {}).cache := by
  refine ⟨by decide +kernel, epochs_run promptHydrations ?_ ?_⟩
  · decide +kernel
  · decide +kernel

/-- A thread that captured before the reset publishes after it: the bytes of the first map are stamped
with the second epoch. -/
theorem stale_publication : ¬∀ actions,
    (∀ r ∈ history step actions {}, advances r.call r.before = true) →
      EpochLaw (run step actions {}).cache := by
  intro h
  have hlaw := h (hydrations [.resetMapEpoch 2] []) (by decide +kernel)
  have hfound : ((run step (hydrations [.resetMapEpoch 2] []) {}).cache.findGeosetStampByDataForEpoch
      16 2).isSome = true := by decide +kernel
  obtain ⟨r, hr⟩ := Option.isSome_iff_exists.mp hfound
  obtain ⟨-, D, hread⟩ := hlaw.stamp 16 2 r hr
  have hstored : ∀ event ∈ Cache.recent (run step (hydrations [.resetMapEpoch 2] []) {}).cache.trace,
      (match event with
        | .captured _ _ _ => false
        | _ => true) = true := by
    decide +kernel
  exact absurd (hstored _ hread) Bool.false_ne_true

end World

end War3VK.Model
