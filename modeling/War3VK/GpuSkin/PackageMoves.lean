import Mathlib.Logic.Relation
import War3VK.GpuSkin.PackageStoreSpec
import War3VK.Lib.Reservations

/-!
# The moves of the store

Every call of the store is a sequence of moves (`storeStep_moves`), each of which says what it needs and
all that it touches. An invariant of the store is proved move by move.
-/

namespace War3VK.GpuSkin

open War3VK.Lib Relation

def GpuSkinStaticResource.content (resource : GpuSkinStaticResource) : GpuSkinStaticResource :=
  { resource with
    pendingUpload := .none
    state := .invalid
    readyValidationAuthority := 0 }

theorem GpuSkinStaticResource.eq_of_content {a b : GpuSkinStaticResource}
    (h : a.content = b.content) : a.key = b.key ∧ a.packageProof = b.packageProof ∧
      a.packageSlice = b.packageSlice ∧ a.indexSource = b.indexSource ∧
      a.frozenPayload = b.frozenPayload := by
  simp only [content, mk.injEq] at h
  tauto

def StoreCall.clears : StoreCall → Bool
  | .invalidateMapEpoch _ => true
  | .invalidateDevice _ _ _ => true
  | .reset => true
  | _ => false

namespace PackageStore

variable {cfg : StoreSetup} {s s' : PackageStore} {call : StoreCall}

inductive Move (cfg : StoreSetup) : StoreCall → PackageStore → PackageStore → Prop
  /-- A frame begins in the current epochs, or in the first ones. -/
  | epochs {s : PackageStore} {mapEpoch deviceEpoch frameTag : UInt64} :
      (s.mapEpoch = 0 ∨ s.mapEpoch = mapEpoch) → (s.deviceEpoch = 0 ∨ s.deviceEpoch = deviceEpoch) →
      Move cfg (.beginFrame mapEpoch deviceEpoch frameTag) s
        { s with mapEpoch := mapEpoch, deviceEpoch := deviceEpoch }
  | cleared {s : PackageStore} {call : StoreCall} (device : Bool) (alignment : ℕ)
      (mapEpoch deviceEpoch : UInt64) : call.clears = true →
      Move cfg call s { s.clearEpochResources with
        device := device
        storageBufferOffsetAlignment := alignment
        mapEpoch := mapEpoch
        deviceEpoch := deviceEpoch }
  | looked {s : PackageStore} {call : StoreCall} (counters : StoreDiagnostics)
      {misses : List QueuedStaticMiss} : call.clears = false →
      (∀ miss ∈ misses, CurrentKey s miss.key) →
      Move cfg call s
        { s with diagnostics := counters, staticMisses := s.staticMisses ++ misses }
  | turned {s s' : PackageStore} {answers : ℕ → DeviceAnswers} {maxRecords : ℕ}
      {miss : QueuedStaticMiss} {rest : List QueuedStaticMiss} :
      s.staticMisses = miss :: rest → TurnSpec cfg { s with staticMisses := rest } miss s' →
      Move cfg (.prepareQueuedStaticResources answers maxRecords) s s'
  | taken {s : PackageStore} : Move cfg .takeStaticUploads s { s with readyStaticUploads := [] }
  | retired {s : PackageStore} {allocates : Bool} {uploads : List GpuSkinStaticUpload}
      {signal : ℕ} {value : UInt64} {prepared : List (GpuSkinStaticUpload × ℕ)} :
      (storeStep cfg (.retireStaticUploads allocates uploads (some signal) value) s).1 =
        .flag true →
      BatchSpec cfg s uploads prepared →
      Move cfg (.retireStaticUploads allocates uploads (some signal) value) s
        (s.commitRetirements signal value prepared)
  /-- A retirement whose fence has come far enough is completed. -/
  | completed {s s' : PackageStore} {getFenceValue : ℕ → ℕ → UInt64} {turn : ℕ}
      {retirement : RetiredStaticUpload} : retirement ∈ s.retiredStaticUploads →
      retirement.retireValue ≤ getFenceValue turn retirement.fence →
      CompleteSpec cfg s retirement s' → Move cfg (.pollRetired getFenceValue) s s'
  | forgotten {s : PackageStore} {getFenceValue : ℕ → ℕ → UInt64}
      {kept : List RetiredStaticUpload} : kept.Sublist s.retiredStaticUploads →
      Move cfg (.pollRetired getFenceValue) s { s with retiredStaticUploads := kept }

theorem LookupSpec.move {result : GpuSkinStaticLookup × PackageStore} (h : LookupSpec s result)
    (hcall : call.clears = false) : Move cfg call s result.2 := by
  obtain ⟨counters, misses, hmisses, hstate⟩ := h.state
  rw [hstate]
  exact .looked counters hcall hmisses

theorem beginFrame_moves (mapEpoch deviceEpoch frameTag : UInt64) :
    ReflTransGen (Move cfg (.beginFrame mapEpoch deviceEpoch frameTag)) s
      (s.beginFrame mapEpoch deviceEpoch frameTag).2 := by
  unfold beginFrame
  split_ifs with _ hepochs
  · exact .refl
  · exact .refl
  · simp only [Bool.or_eq_true, Bool.and_eq_true, decide_eq_true_eq, not_or, not_and_or, not_not] at hepochs
    exact .single (.epochs hepochs.1 hepochs.2)

theorem prepareQueuedStaticResources_moves (answers : ℕ → DeviceAnswers) (maxRecords : ℕ) :
    ReflTransGen (Move cfg (.prepareQueuedStaticResources answers maxRecords)) s
      (s.prepareQueuedStaticResources cfg answers maxRecords).2 :=
  prepareQueuedStaticResources_induction
    (fun _ _ _ _ h hmisses hturn => h.tail (.turned hmisses hturn)) answers maxRecords .refl

theorem retireStaticUploads_move (allocates : Bool) (uploads : List GpuSkinStaticUpload)
    (fence : Option ℕ) (value : UInt64) :
    Move cfg (.retireStaticUploads allocates uploads fence value) s
      (s.retireStaticUploads cfg allocates uploads fence value).2 := by
  have hspec := @retireStaticUploads_spec cfg s allocates uploads fence value
  have houtput : (storeStep cfg (.retireStaticUploads allocates uploads fence value) s).1 =
      .flag (s.retireStaticUploads cfg allocates uploads fence value).1 := rfl
  generalize s.retireStaticUploads cfg allocates uploads fence value = result at hspec houtput ⊢
  cases hspec with
  | refused reason =>
    have hstate : s.recordFallback reason = { s with
        diagnostics := (s.recordFallback reason).diagnostics
        staticMisses := s.staticMisses ++ [] } := by
      rw [List.append_nil]
      rfl
    show Move cfg _ s (s.recordFallback reason)
    rw [hstate]
    exact .looked _ rfl (by simp)
  | retired hfence hbatch =>
    subst hfence
    exact .retired houtput hbatch

theorem CompleteSpec.retiredStaticUploads {retirement : RetiredStaticUpload}
    (h : CompleteSpec cfg s retirement s') : s'.retiredStaticUploads = s.retiredStaticUploads := by
  cases h <;> rfl

theorem pollRetired_moves (getFenceValue : ℕ → ℕ → UInt64) :
    ReflTransGen (Move cfg (.pollRetired getFenceValue)) s (s.pollRetired cfg getFenceValue) := by
  have hloop := @pollLoop_induction cfg
    (fun t => ReflTransGen (Move cfg (.pollRetired getFenceValue)) s t ∧
      t.retiredStaticUploads = s.retiredStaticUploads)
    getFenceValue s.retiredStaticUploads
    (fun t t' turn retirement hmem h hreached hspec =>
      ⟨h.1.tail (.completed (h.2 ▸ hmem) hreached hspec), hspec.retiredStaticUploads.trans h.2⟩)
    s.retiredStaticUploads 0 s (fun _ h => h) ⟨.refl, rfl⟩
  have hkept := @pollLoop_sublist cfg getFenceValue s.retiredStaticUploads 0 s
  rw [pollRetired]
  refine hloop.1.tail (.forgotten ?_)
  rw [hloop.2]
  exact hkept

theorem storeStep_moves (call : StoreCall) (s : PackageStore) :
    ReflTransGen (Move cfg call) s (storeStep cfg call s).2 := by
  cases call with
  | beginFrame mapEpoch deviceEpoch frameTag => exact beginFrame_moves _ _ _
  | invalidateMapEpoch nextMapEpoch => exact .single (.cleared _ _ _ _ rfl)
  | invalidateDevice device nextDeviceEpoch alignment => exact .single (.cleared _ _ _ _ rfl)
  | reset => exact .single (.cleared _ _ _ _ rfl)
  | findOrQueueStatic cache record layoutGeneration =>
    exact .single ((findOrQueueStatic_spec cache record layoutGeneration).move rfl)
  | probeStatic cache stamp layoutGeneration =>
    exact .single ((probeStatic_spec cache stamp layoutGeneration).move rfl)
  | prepareQueuedStaticResources answers maxRecords =>
    exact prepareQueuedStaticResources_moves answers maxRecords
  | takeStaticUploads => exact .single .taken
  | retireStaticUploads allocates uploads fence value =>
    exact .single (retireStaticUploads_move allocates uploads fence value)
  | pollRetired getFenceValue => exact pollRetired_moves getFenceValue

theorem storeStep_induction {P : PackageStore → Prop} (call : StoreCall) (s : PackageStore)
    (moves : ∀ t t', Move cfg call t t' → P t → P t') (h : P s) : P (storeStep cfg call s).2 := by
  have hmoves := @storeStep_moves cfg call s
  generalize (storeStep cfg call s).2 = s' at hmoves ⊢
  induction hmoves with
  | refl => exact h
  | tail _ hmove ih => exact moves _ _ hmove ih

/-! ## The directory -/

/-- Keys name resources of the current epochs, and retirements name resources that do not wait for
their upload any more. -/
structure Directory (s : PackageStore) : Prop where
  refs : ∀ entry ∈ s.staticResources, ∃ resource, s.heap[entry.2]? = some resource ∧
    resource.key = entry.1
  keys : (s.staticResources.map Prod.fst).Nodup
  objects : (s.staticResources.map Prod.snd).Nodup
  current : ∀ entry ∈ s.staticResources, CurrentKey s entry.1
  queued : ∀ miss ∈ s.staticMisses, CurrentKey s miss.key
  retired : ∀ retirement ∈ s.retiredStaticUploads, ∀ object,
    retirement.publicationResource = some object →
      ∃ resource, s.heap[object]? = some resource ∧ resource.state ≠ .pendingUpload

theorem Directory.lt (h : Directory s) {entry : GpuSkinStaticResourceKey × ℕ}
    (hentry : entry ∈ s.staticResources) : entry.2 < s.heap.length := by
  obtain ⟨resource, hresource, -⟩ := h.refs entry hentry
  exact (List.getElem?_eq_some_iff.mp hresource).choose

theorem Directory.cleared (h : Directory s) (device : Bool) (alignment : ℕ)
    (mapEpoch deviceEpoch : UInt64) : Directory { s.clearEpochResources with
      device := device
      storageBufferOffsetAlignment := alignment
      mapEpoch := mapEpoch
      deviceEpoch := deviceEpoch } where
  refs _ hentry := (nomatch hentry)
  keys := List.nodup_nil
  objects := List.nodup_nil
  current _ hentry := (nomatch hentry)
  queued _ hmiss := (nomatch hmiss)
  retired := h.retired

theorem CurrentKey.epochs {key : GpuSkinStaticResourceKey} (h : CurrentKey s key)
    {mapEpoch deviceEpoch : UInt64} (hmap : s.mapEpoch = 0 ∨ s.mapEpoch = mapEpoch)
    (hdevice : s.deviceEpoch = 0 ∨ s.deviceEpoch = deviceEpoch) :
    CurrentKey { s with mapEpoch := mapEpoch, deviceEpoch := deviceEpoch } key := by
  obtain ⟨hkeyMap, hkeyDevice, hmapNe, hdeviceNe⟩ := h
  have hmap := hmap.resolve_left hmapNe
  have hdevice := hdevice.resolve_left hdeviceNe
  exact ⟨hkeyMap.trans hmap, hkeyDevice.trans hdevice, hmap ▸ hmapNe, hdevice ▸ hdeviceNe⟩

variable {resource : GpuSkinStaticResource}

theorem emplace_heap_of_lt {object : ℕ} (h : object < s.heap.length) :
    (s.emplace resource).heap[object]? = s.heap[object]? :=
  List.getElem?_append_left h

theorem emplace_heap_length : (s.emplace resource).heap[s.heap.length]? = some resource := by
  simp [emplace]

theorem mem_emplace {entry : GpuSkinStaticResourceKey × ℕ} :
    entry ∈ (s.emplace resource).staticResources ↔
      entry ∈ s.staticResources ∨ entry = (resource.key, s.heap.length) := by
  simp [emplace]

theorem Directory.emplace (h : Directory s) (hfind : s.find resource.key = none)
    (hkey : CurrentKey s resource.key) : Directory (s.emplace resource) where
  refs entry hentry := by
    rcases mem_emplace.mp hentry with hentry | rfl
    · obtain ⟨old, hold, holdKey⟩ := h.refs entry hentry
      exact ⟨old, (emplace_heap_of_lt (h.lt hentry)).trans hold, holdKey⟩
    · exact ⟨resource, emplace_heap_length, rfl⟩
  keys := by
    have hnew : resource.key ∉ s.staticResources.map Prod.fst := not_mem_of_find hfind
    show ((s.staticResources ++ [(resource.key, s.heap.length)]).map Prod.fst).Nodup
    rw [List.map_append]
    exact h.keys.append (List.nodup_singleton _) (by simpa using hnew)
  objects := by
    have hnew : s.heap.length ∉ s.staticResources.map Prod.snd := by
      intro hmem
      obtain ⟨entry, hentry, heq⟩ := List.mem_map.mp hmem
      exact (h.lt hentry).ne heq
    show ((s.staticResources ++ [(resource.key, s.heap.length)]).map Prod.snd).Nodup
    rw [List.map_append]
    exact h.objects.append (List.nodup_singleton _) (by simpa using hnew)
  current entry hentry := by
    rcases mem_emplace.mp hentry with hentry | rfl
    · exact h.current entry hentry
    · exact hkey
  queued := h.queued
  retired retirement hmem object hobject := by
    obtain ⟨old, hold, hstate⟩ := h.retired retirement hmem object hobject
    have hlt : object < s.heap.length := (List.getElem?_eq_some_iff.mp hold).choose
    exact ⟨old, (emplace_heap_of_lt hlt).trans hold, hstate⟩

theorem Directory.write (h : Directory s) (object : ℕ)
    {f : GpuSkinStaticResource → GpuSkinStaticResource} (hkey : ∀ r, (f r).key = r.key)
    (hstate : ∀ r, (f r).state ≠ .pendingUpload) (counters : StoreDiagnostics) :
    Directory { s.write object f with diagnostics := counters } where
  refs entry hentry := by
    obtain ⟨resource, hresource, hresourceKey⟩ := h.refs entry hentry
    by_cases hobject : object = entry.2
    · exact ⟨f resource, by simp [PackageStore.write, hobject, hresource], (hkey _).trans hresourceKey⟩
    · exact ⟨resource, by simp [PackageStore.write, hobject, hresource], hresourceKey⟩
  keys := h.keys
  objects := h.objects
  current := h.current
  queued := h.queued
  retired retirement hmem other hother := by
    obtain ⟨resource, hresource, hold⟩ := h.retired retirement hmem other hother
    by_cases hobject : object = other
    · exact ⟨f resource, by simp [PackageStore.write, hobject, hresource], hstate _⟩
    · exact ⟨resource, by simp [PackageStore.write, hobject, hresource], hold⟩

theorem Directory.retire (h : Directory s) {uploads : List GpuSkinStaticUpload}
    {prepared : List (GpuSkinStaticUpload × ℕ)} (hbatch : BatchSpec cfg s uploads prepared)
    (signal : ℕ) (value : UInt64) : Directory (s.commitRetirements signal value prepared) := by
  have hheap := @commitRetirements_heap s signal value prepared
  rw [commitRetirements_state]
  refine ⟨fun entry hentry => ?_, h.keys, h.objects, h.current, h.queued, fun t ht object hobject => ?_⟩
  · obtain ⟨resource, hresource, hkey⟩ := h.refs entry hentry
    show ∃ resource, (s.commitRetirements signal value prepared).heap[entry.2]? = some resource ∧ _
    rw [hheap, hresource]
    split
    · exact ⟨submitted resource, rfl, hkey⟩
    · exact ⟨resource, rfl, hkey⟩
  · show ∃ resource, (s.commitRetirements signal value prepared).heap[object]? = some resource ∧ _
    rw [hheap]
    rcases List.mem_append.mp ht with ht | ht
    · obtain ⟨resource, hresource, hstate⟩ := h.retired t ht object hobject
      rw [hresource]
      split
      · exact ⟨submitted resource, rfl, nofun⟩
      · exact ⟨resource, rfl, hstate⟩
    · obtain ⟨item, hitem, rfl⟩ := List.mem_map.mp ht
      cases hobject
      obtain ⟨-, resource, hresource, -⟩ := hbatch.awaited item hitem
      rw [if_pos (List.mem_map_of_mem hitem), hresource]
      exact ⟨submitted resource, rfl, nofun⟩

structure SameDirectory (s s' : PackageStore) : Prop where
  staticResources : s'.staticResources = s.staticResources
  heap : s'.heap = s.heap
  staticMisses : s'.staticMisses = s.staticMisses
  retiredStaticUploads : s'.retiredStaticUploads = s.retiredStaticUploads
  mapEpoch : s'.mapEpoch = s.mapEpoch
  deviceEpoch : s'.deviceEpoch = s.deviceEpoch

theorem Directory.congr (hdirectory : Directory s) (h : SameDirectory s s') : Directory s' := by
  obtain ⟨hrefs, hkeys, hobjects, hcurrent, hqueued, hretired⟩ := hdirectory
  refine ⟨?_, ?_, ?_, ?_, ?_, ?_⟩
  · rw [h.staticResources, h.heap]
    exact hrefs
  · rw [h.staticResources]
    exact hkeys
  · rw [h.staticResources]
    exact hobjects
  · rw [h.staticResources]
    unfold CurrentKey
    rw [h.mapEpoch, h.deviceEpoch]
    exact hcurrent
  · rw [h.staticMisses]
    unfold CurrentKey
    rw [h.mapEpoch, h.deviceEpoch]
    exact hqueued
  · rw [h.retiredStaticUploads, h.heap]
    exact hretired

theorem Groundwork.sameDirectory (h : Groundwork cfg s s') : SameDirectory s s' := by
  rw [h.state]
  exact ⟨rfl, rfl, rfl, rfl, rfl, rfl⟩

variable {miss : QueuedStaticMiss}

theorem Created.sameDirectory (h : Created cfg s miss resource s') : SameDirectory s s' := by
  obtain ⟨ground, counters, hground, -, -, rfl⟩ := h.groundwork
  obtain ⟨h1, h2, h3, h4, h5, h6⟩ := hground.sameDirectory
  exact ⟨h1, h2, h3, h4, h5, h6⟩

theorem SameDirectory.find (h : SameDirectory s s') (key : GpuSkinStaticResourceKey) :
    s'.find key = s.find key := by
  rw [PackageStore.find, h.staticResources, PackageStore.find]

theorem SameDirectory.currentKey (h : SameDirectory s s') (key : GpuSkinStaticResourceKey) :
    CurrentKey s' key ↔ CurrentKey s key := by
  rw [CurrentKey, h.mapEpoch, h.deviceEpoch, CurrentKey]

theorem Directory.turn (h : Directory s) (hmiss : CurrentKey s miss.key)
    (hturn : TurnSpec cfg s miss s') : Directory s' := by
  cases hturn with
  | skipped => exact h
  | threw _ hground => exact h.congr hground.sameDirectory
  | @refused ground hfind hground =>
    have hsame := hground.sameDirectory
    have hnext : Directory (ground.emplace (.rejected miss.key miss.record)) :=
      (h.congr hsame).emplace ((hsame.find _).trans hfind) ((hsame.currentKey _).mpr hmiss)
    exact hnext.congr ⟨rfl, rfl, rfl, rfl, rfl, rfl⟩
  | @created ground resource hfind hcreated =>
    have hsame := hcreated.sameDirectory
    have hnext : Directory (ground.emplace resource) := by
      apply (h.congr hsame).emplace
      · rw [hsame.find, hcreated.key, hfind]
      · rw [hsame.currentKey, hcreated.key]
        exact hmiss
    exact hnext.congr ⟨rfl, rfl, rfl, rfl, rfl, rfl⟩

theorem Directory.skip (h : Directory s) {rest : List QueuedStaticMiss}
    (hmisses : s.staticMisses = miss :: rest) : Directory { s with staticMisses := rest } :=
  ⟨h.refs, h.keys, h.objects, h.current,
    fun other hother => h.queued other (by simp [hmisses, hother]), h.retired⟩

theorem Directory.move (h : Directory s) (hmove : Move cfg call s s') : Directory s' := by
  cases hmove with
  | epochs hmap hdevice =>
    exact ⟨h.refs, h.keys, h.objects, fun entry hentry => (h.current entry hentry).epochs hmap hdevice,
      fun miss hmiss => (h.queued miss hmiss).epochs hmap hdevice, h.retired⟩
  | cleared device alignment mapEpoch deviceEpoch _ => exact h.cleared _ _ _ _
  | looked counters _ hmisses =>
    refine ⟨h.refs, h.keys, h.objects, h.current, fun miss hmiss => ?_, h.retired⟩
    rcases List.mem_append.mp hmiss with hmiss | hmiss
    · exact h.queued miss hmiss
    · exact hmisses miss hmiss
  | turned hmisses hturn =>
    exact (h.skip hmisses).turn (h.queued _ (by simp [hmisses])) hturn
  | taken => exact h.congr ⟨rfl, rfl, rfl, rfl, rfl, rfl⟩
  | retired _ hbatch => exact h.retire hbatch _ _
  | completed _ _ hspec =>
    cases hspec with
    | quiet counters => exact h.congr ⟨rfl, rfl, rfl, rfl, rfl, rfl⟩
    | published counters _ _ _ =>
      exact h.write (f := published cfg) _ (fun _ => rfl) (fun _ => nofun) counters
    | invalidated counters _ =>
      exact h.write (f := invalidated) _ (fun _ => rfl) (fun _ => nofun) counters
  | forgotten hkept =>
    exact ⟨h.refs, h.keys, h.objects, h.current, h.queued,
      fun retirement hmem => h.retired retirement (hkept.subset hmem)⟩

theorem Directory.init (device : Bool) (alignment : ℕ) : Directory (init device alignment) where
  refs _ hentry := (nomatch hentry)
  keys := List.nodup_nil
  objects := List.nodup_nil
  current _ hentry := (nomatch hentry)
  queued _ hmiss := (nomatch hmiss)
  retired _ hmem := (nomatch hmem)

theorem Directory.step (h : Directory s) (call : StoreCall) : Directory (storeStep cfg call s).2 :=
  storeStep_induction call s (fun _ _ hmove h => h.move hmove) h

/-- Every resource after a change is one from before it, with the same content. -/
def Rewrites (s s' : PackageStore) : Prop :=
  ∀ (object : ℕ) (resource' : GpuSkinStaticResource), s'.heap[object]? = some resource' →
    ∃ resource, s.heap[object]? = some resource ∧ resource'.content = resource.content

theorem write_rewrites (object : ℕ) {f : GpuSkinStaticResource → GpuSkinStaticResource}
    (hcontent : ∀ r, (f r).content = r.content) (counters : StoreDiagnostics) :
    Rewrites s { s.write object f with diagnostics := counters } := by
  intro other resource' hresource
  rw [PackageStore.write, List.getElem?_modify, Option.map_eq_map, Option.map_eq_some_iff] at hresource
  obtain ⟨resource, hold, rfl⟩ := hresource
  refine ⟨resource, hold, ?_⟩
  split
  · exact hcontent resource
  · rfl

theorem commitRetirements_rewrites (signal : ℕ) (value : UInt64)
    (prepared : List (GpuSkinStaticUpload × ℕ)) :
    Rewrites s (s.commitRetirements signal value prepared) := by
  intro object resource' hresource
  rw [commitRetirements_heap] at hresource
  split at hresource
  · obtain ⟨resource, hold, rfl⟩ := Option.map_eq_some_iff.mp hresource
    exact ⟨resource, hold, rfl⟩
  · exact ⟨resource', hresource, rfl⟩

end PackageStore

end War3VK.GpuSkin

/-!
## The atlas of the store

The packages that are created in one epoch have slices of the atlas one after another, on the alignment
and inside the budget, whatever creations fail in between, and the generations of all packages that are
ever created go up (`packages_placed`).
-/

namespace War3VK.GpuSkin

open War3VK.Lib

def BufferSlice.span (slice : BufferSlice) : Span ℕ := ⟨slice.offset, slice.offset + slice.length⟩

namespace PackageStore

variable {cfg : StoreSetup} {s s' : PackageStore} {call : StoreCall}

def PackageAt (s : PackageStore) (object : ℕ) (resource : GpuSkinStaticResource) : Prop :=
  s.heap[object]? = some resource ∧ resource.frozenPayload.isSome

def Held (s : PackageStore) (object : ℕ) : Prop := ∃ entry ∈ s.staticResources, entry.2 = object

def Live (s : PackageStore) (object : ℕ) : Prop :=
  s.Held object ∧ ∃ resource, s.PackageAt object resource

def spanAt (s : PackageStore) (object : ℕ) : Span ℕ :=
  match s.heap[object]? with
  | some resource => resource.packageSlice.span
  | none => ⟨0, 0⟩

/-- A package begins on the alignment of the epoch, in the atlas, and its indices on their own. -/
structure Placed (s : PackageStore) (resource : GpuSkinStaticResource) : Prop where
  buffer : s.staticAtlas.isSome ∧ resource.packageSlice.buffer = s.staticAtlas
  aligned : s.storageBufferOffsetAlignment ∣ resource.packageSlice.offset
  indexAligned : 2 ∣ resource.indexSource.offset

/-- The packages with a key are stacked below the cursor, which is inside the budget, and later
packages have later generations. -/
structure Atlas (cfg : StoreSetup) (s : PackageStore) : Prop where
  /-- The slices are one after another below the cursor. -/
  stacked : Stacked (Live s) (spanAt s) s.staticCursor
  inside : s.staticCursor ≤ cfg.budgetBytes
  placed : ∀ object resource, s.Held object → s.PackageAt object resource → Placed s resource
  generations : ∀ object object' resource resource', object < object' →
    s.PackageAt object resource → s.PackageAt object' resource' →
      resource.packageProof.packageGeneration < resource'.packageProof.packageGeneration
  minted : ∀ object resource, s.PackageAt object resource →
    resource.packageProof.packageGeneration < s.nextStaticPackageGeneration

variable {resource : GpuSkinStaticResource} {object : ℕ}

theorem spanAt_eq (h : s.heap[object]? = some resource) :
    s.spanAt object = resource.packageSlice.span := by
  rw [spanAt, h]

theorem Rewrites.packageAt (h : Rewrites s s') {resource' : GpuSkinStaticResource}
    (hat : s'.PackageAt object resource') : ∃ resource, s.PackageAt object resource ∧
      resource'.content = resource.content := by
  obtain ⟨resource, hresource, hcontent⟩ := h object resource' hat.1
  obtain ⟨-, -, -, -, hfrozen⟩ := GpuSkinStaticResource.eq_of_content hcontent
  exact ⟨resource, ⟨hresource, hfrozen ▸ hat.2⟩, hcontent⟩

theorem Placed.of_content {resource' : GpuSkinStaticResource} (h : Placed s resource)
    (hcontent : resource'.content = resource.content) : Placed s resource' := by
  obtain ⟨-, -, hslice, hindex, -⟩ := GpuSkinStaticResource.eq_of_content hcontent
  exact ⟨hslice ▸ h.buffer, hslice ▸ h.aligned, hindex ▸ h.indexAligned⟩

structure SameAtlas (s s' : PackageStore) : Prop where
  staticResources : s'.staticResources = s.staticResources
  staticCursor : s'.staticCursor = s.staticCursor
  staticAtlas : ∀ atlas, s.staticAtlas = some atlas → s'.staticAtlas = some atlas
  alignment : s'.storageBufferOffsetAlignment = s.storageBufferOffsetAlignment
  generation : s.nextStaticPackageGeneration ≤ s'.nextStaticPackageGeneration

theorem Atlas.rewrite (h : Atlas cfg s) (hsame : SameAtlas s s') (hheap : Rewrites s s') :
    Atlas cfg s' where
  stacked := by
    apply h.stacked.mono
    · rintro object ⟨hheld, resource', hat'⟩
      obtain ⟨resource, hat, hcontent⟩ := hheap.packageAt hat'
      refine ⟨⟨by rwa [Held, hsame.staticResources] at hheld, resource, hat⟩, ?_⟩
      obtain ⟨-, -, hslice, -, -⟩ := GpuSkinStaticResource.eq_of_content hcontent
      rw [spanAt_eq hat'.1, spanAt_eq hat.1, hslice]
    · exact hsame.staticCursor.ge
  inside := hsame.staticCursor ▸ h.inside
  placed object resource' hheld hat' := by
    obtain ⟨resource, hat, hcontent⟩ := hheap.packageAt hat'
    rw [Held, hsame.staticResources] at hheld
    obtain ⟨⟨hsome, hbuffer⟩, haligned, hindex⟩ :=
      (h.placed object resource hheld hat).of_content hcontent
    obtain ⟨atlas, hatlas⟩ := Option.isSome_iff_exists.mp hsome
    have hatlas' := hsame.staticAtlas atlas hatlas
    exact ⟨⟨by rw [hatlas']; rfl, by rw [hbuffer, hatlas, hatlas']⟩, hsame.alignment ▸ haligned, hindex⟩
  generations object object' resource resource' hlt hat hat' := by
    obtain ⟨old, hold, hcontent⟩ := hheap.packageAt hat
    obtain ⟨old', hold', hcontent'⟩ := hheap.packageAt hat'
    obtain ⟨-, hproof, -, -, -⟩ := GpuSkinStaticResource.eq_of_content hcontent
    obtain ⟨-, hproof', -, -, -⟩ := GpuSkinStaticResource.eq_of_content hcontent'
    rw [hproof, hproof']
    exact h.generations _ _ _ _ hlt hold hold'
  minted object resource hat := by
    obtain ⟨old, hold, hcontent⟩ := hheap.packageAt hat
    obtain ⟨-, hproof, -, -, -⟩ := GpuSkinStaticResource.eq_of_content hcontent
    rw [hproof]
    exact (h.minted _ _ hold).trans_le hsame.generation

theorem Rewrites.of_eq (h : s'.heap = s.heap) : Rewrites s s' :=
  fun _ resource hresource => ⟨resource, h ▸ hresource, rfl⟩

theorem Atlas.cleared (h : Atlas cfg s) (device : Bool) (alignment : ℕ)
    (mapEpoch deviceEpoch : UInt64) : Atlas cfg { s.clearEpochResources with
      device := device
      storageBufferOffsetAlignment := alignment
      mapEpoch := mapEpoch
      deviceEpoch := deviceEpoch } where
  stacked := Stacked.of_none fun _ hlive => (nomatch hlive.1)
  inside := Nat.zero_le _
  placed _ _ hheld := (nomatch hheld)
  generations := h.generations
  minted := h.minted

variable {other : GpuSkinStaticResource}

theorem packageAt_emplace (h : (s.emplace resource).PackageAt object other) :
    s.PackageAt object other ∨
      object = s.heap.length ∧ other = resource ∧ resource.frozenPayload.isSome := by
  obtain ⟨hother, hfrozen⟩ := h
  rw [emplace, List.getElem?_append] at hother
  split at hother
  · exact Or.inl ⟨hother, hfrozen⟩
  · rw [List.getElem?_singleton] at hother
    split at hother
    · cases hother
      exact Or.inr ⟨by omega, rfl, hfrozen⟩
    · cases hother

theorem held_of_emplace (h : (s.emplace resource).Held object) (hat : s.PackageAt object other) :
    s.Held object := by
  obtain ⟨entry, hentry, rfl⟩ := h
  rcases mem_emplace.mp hentry with hentry | rfl
  · exact ⟨entry, hentry, rfl⟩
  · exact absurd (List.getElem?_eq_some_iff.mp hat.1).choose (Nat.lt_irrefl _)

theorem spanAt_emplace (hat : s.PackageAt object other) :
    (s.emplace resource).spanAt object = s.spanAt object := by
  have hlt : object < s.heap.length := (List.getElem?_eq_some_iff.mp hat.1).choose
  rw [spanAt, emplace_heap_of_lt hlt, spanAt]

theorem Atlas.emplace (h : Atlas cfg s) (hresource : resource.frozenPayload = none) :
    Atlas cfg (s.emplace resource) := by
  have hold : ∀ object other, (s.emplace resource).PackageAt object other → s.PackageAt object other := by
    intro object other hat
    rcases packageAt_emplace hat with hat | ⟨-, -, hfrozen⟩
    · exact hat
    · rw [hresource] at hfrozen
      cases hfrozen
  exact {
    stacked := by
      apply h.stacked.mono
      · rintro object ⟨hheld, other, hat⟩
        have hat := hold object other hat
        exact ⟨⟨held_of_emplace hheld hat, other, hat⟩, spanAt_emplace hat⟩
      · exact Nat.le_refl _
    inside := h.inside
    placed := fun object other hheld hat =>
      have hat := hold object other hat
      let ⟨hbuffer, haligned, hindex⟩ := h.placed object other (held_of_emplace hheld hat) hat
      ⟨hbuffer, haligned, hindex⟩
    generations := fun _ _ _ _ hlt hat hat' =>
      h.generations _ _ _ _ hlt (hold _ _ hat) (hold _ _ hat')
    minted := fun _ _ hat => h.minted _ _ (hold _ _ hat) }

theorem Atlas.emplacePackage (h : Atlas cfg s) {cursor : ℕ}
    (hspan : resource.packageSlice.span = ⟨cursor, s'.staticCursor⟩)
    (hbehind : s.staticCursor ≤ cursor) (hproper : cursor < s'.staticCursor)
    (hinside : s'.staticCursor ≤ cfg.budgetBytes) (hplaced : Placed s' resource)
    (hgeneration : resource.packageProof.packageGeneration = s.nextStaticPackageGeneration)
    (hnext : s.nextStaticPackageGeneration < s'.nextStaticPackageGeneration)
    (hresources : s'.staticResources = s.staticResources) (hheap : s'.heap = s.heap)
    (hatlas : ∀ atlas, s.staticAtlas = some atlas → s'.staticAtlas = some atlas)
    (halignment : s'.storageBufferOffsetAlignment = s.storageBufferOffsetAlignment) :
    Atlas cfg (s'.emplace resource) := by
  have hold : ∀ object other, s'.PackageAt object other → s.PackageAt object other := by
    intro object other hat
    rwa [PackageAt, hheap] at hat
  have hlt : ∀ object other, s.PackageAt object other → object < s'.heap.length := by
    intro object other hat
    rw [hheap]
    exact (List.getElem?_eq_some_iff.mp hat.1).choose
  have hspanOld : ∀ object, Live s object → (s'.emplace resource).spanAt object = s.spanAt object := by
    rintro object ⟨-, other, hat⟩
    rw [spanAt, emplace_heap_of_lt (hlt object other hat), hheap, spanAt]
  have hcases : ∀ object other, (s'.emplace resource).Held object →
      (s'.emplace resource).PackageAt object other →
        (s.Held object ∧ s.PackageAt object other) ∨ object = s'.heap.length ∧ other = resource := by
    intro object other hheld hat
    rcases packageAt_emplace hat with hat | ⟨hobject, hother, -⟩
    · have hheld := held_of_emplace hheld hat
      rw [Held, hresources] at hheld
      exact Or.inl ⟨hheld, hold object other hat⟩
    · exact Or.inr ⟨hobject, hother⟩
  exact {
    stacked := by
      have hbelow : Stacked (Live s) (s'.emplace resource).spanAt cursor :=
        h.stacked.mono (fun object hlive => ⟨hlive, hspanOld object hlive⟩) hbehind
      refine hbelow.push (n := s'.heap.length) ?_ ?_ hproper ?_
      · rintro object ⟨-, other, hat⟩
        exact hlt object other hat
      · rw [spanAt_eq emplace_heap_length, hspan]
        rfl
      · rintro object ⟨hheld, other, hat⟩
        rcases hcases object other hheld hat with ⟨hheld, hat⟩ | ⟨hobject, -⟩
        · exact Or.inl ⟨hheld, other, hat⟩
        · exact Or.inr hobject
    inside := hinside
    placed := fun object other hheld hat => by
      rcases hcases object other hheld hat with ⟨hheld, hat⟩ | ⟨-, rfl⟩
      · obtain ⟨⟨hsome, hbuffer⟩, haligned, hindex⟩ := h.placed object other hheld hat
        obtain ⟨atlas, hatlasOld⟩ := Option.isSome_iff_exists.mp hsome
        have hatlasNew : (s'.emplace resource).staticAtlas = some atlas := hatlas atlas hatlasOld
        exact ⟨⟨by rw [hatlasNew]; rfl, by rw [hbuffer, hatlasOld, hatlasNew]⟩,
          halignment ▸ haligned, hindex⟩
      · obtain ⟨hbuffer, haligned, hindex⟩ := hplaced
        exact ⟨hbuffer, haligned, hindex⟩
    generations := fun object object' other other' hlt' hat hat' => by
      rcases packageAt_emplace hat with hat | ⟨rfl, rfl, -⟩ <;>
        rcases packageAt_emplace hat' with hat' | ⟨hobject', hother', -⟩
      · exact h.generations _ _ _ _ hlt' (hold _ _ hat) (hold _ _ hat')
      · -- The new package comes after an old one.
        rw [hother', hgeneration]
        exact h.minted _ _ (hold _ _ hat)
      · exact absurd (hlt _ _ (hold _ _ hat')) (by omega)
      · exact absurd hlt' (by omega)
    minted := fun object other hat => by
      rcases packageAt_emplace hat with hat | ⟨-, rfl, -⟩
      · exact (h.minted _ _ (hold _ _ hat)).trans hnext
      · rw [hgeneration]
        exact hnext }

theorem Groundwork.sameAtlas (h : Groundwork cfg s s') : SameAtlas s s' where
  staticResources := h.sameDirectory.staticResources
  staticCursor := by rw [h.state]
  staticAtlas := h.kept
  alignment := by rw [h.state]
  generation := h.generation

theorem indexAligned_of_valid (h : validateGpuSkinStaticFrozenPayload cfg.digest resource = true) :
    2 ∣ resource.indexSource.offset := by
  simp only [validateGpuSkinStaticFrozenPayload, validateFrozenMirrorsAndGpuRanges, Bool.and_eq_true] at h
  obtain ⟨⟨-, hranges⟩, -⟩ := h
  split at hranges
  · cases hranges
  · simp only [frozenRangesAgree, Bool.and_eq_true, decide_eq_true_eq] at hranges
    exact Nat.dvd_of_mod_eq_zero hranges.2.1.2

variable {miss : QueuedStaticMiss}

theorem Atlas.created (h : Atlas cfg s) (hcreated : Created cfg s miss resource s') :
    Atlas cfg (s'.emplace resource) := by
  obtain ⟨plan, atlas, hplan, hatlas, hslice, -, -⟩ := hcreated.slice
  have hspec := planPackage_spec hplan
  obtain ⟨ground, counters, hground, hnext, hgeneration, hstate⟩ := hcreated.groundwork
  have hcursor : s'.staticCursor = plan.atlasOffset + plan.packageBytes := by rw [hstate, hslice]
  have halignment : s'.storageBufferOffsetAlignment = s.storageBufferOffsetAlignment := by
    rw [hstate]
    exact hground.sameAtlas.alignment
  have hspan : resource.packageSlice.span = ⟨plan.atlasOffset, s'.staticCursor⟩ := by
    rw [hslice, hcursor]
    rfl
  apply h.emplacePackage hspan
  · exact hspec.behind
  · have hproper := hspec.proper
    omega
  · rw [hcursor]
    exact hspec.inside
  · refine ⟨⟨by rw [hatlas]; rfl, by rw [hslice, hatlas]⟩, ?_, indexAligned_of_valid hcreated.valid⟩
    rw [halignment, hslice]
    exact hspec.aligned
  · exact hgeneration
  · rw [hstate]
    exact Nat.lt_succ_self _
  · exact hcreated.sameDirectory.staticResources
  · exact hcreated.sameDirectory.heap
  · intro other hother
    rw [hstate]
    exact hground.kept other hother
  · exact halignment

theorem Atlas.turn (h : Atlas cfg s) (hturn : TurnSpec cfg s miss s') : Atlas cfg s' := by
  cases hturn with
  | skipped => exact h
  | threw _ hground =>
    exact h.rewrite hground.sameAtlas (.of_eq hground.sameDirectory.heap)
  | refused _ hground =>
    have hnext := h.rewrite hground.sameAtlas (.of_eq hground.sameDirectory.heap)
    exact (hnext.emplace rfl).rewrite ⟨rfl, rfl, fun _ h => h, rfl, Nat.le_refl _⟩ (.of_eq rfl)
  | created _ hcreated =>
    exact (h.created hcreated).rewrite ⟨rfl, rfl, fun _ h => h, rfl, Nat.le_refl _⟩ (.of_eq rfl)

theorem Atlas.move (h : Atlas cfg s) (hmove : Move cfg call s s') : Atlas cfg s' := by
  cases hmove with
  | epochs _ _ => exact h.rewrite ⟨rfl, rfl, fun _ h => h, rfl, Nat.le_refl _⟩ (.of_eq rfl)
  | cleared device alignment mapEpoch deviceEpoch _ => exact h.cleared _ _ _ _
  | looked _ _ _ => exact h.rewrite ⟨rfl, rfl, fun _ h => h, rfl, Nat.le_refl _⟩ (.of_eq rfl)
  | @turned _ _ _ _ miss rest _ hturn =>
    have hskip : Atlas cfg { s with staticMisses := rest } :=
      h.rewrite ⟨rfl, rfl, fun _ h => h, rfl, Nat.le_refl _⟩ (.of_eq rfl)
    exact hskip.turn hturn
  | taken => exact h.rewrite ⟨rfl, rfl, fun _ h => h, rfl, Nat.le_refl _⟩ (.of_eq rfl)
  | retired _ _ =>
    apply h.rewrite _ (commitRetirements_rewrites _ _ _)
    rw [commitRetirements_state]
    exact ⟨rfl, rfl, fun _ h => h, rfl, Nat.le_refl _⟩
  | completed _ _ hspec =>
    cases hspec with
    | quiet _ => exact h.rewrite ⟨rfl, rfl, fun _ h => h, rfl, Nat.le_refl _⟩ (.of_eq rfl)
    | published counters _ _ _ =>
      exact h.rewrite ⟨rfl, rfl, fun _ h => h, rfl, Nat.le_refl _⟩
        (write_rewrites (f := published cfg) _ (fun _ => rfl) counters)
    | invalidated counters _ =>
      exact h.rewrite ⟨rfl, rfl, fun _ h => h, rfl, Nat.le_refl _⟩
        (write_rewrites (f := invalidated) _ (fun _ => rfl) counters)
  | forgotten _ => exact h.rewrite ⟨rfl, rfl, fun _ h => h, rfl, Nat.le_refl _⟩ (.of_eq rfl)

theorem Atlas.init (device : Bool) (alignment : ℕ) : Atlas cfg (init device alignment) where
  stacked := Stacked.of_none fun _ hlive => (nomatch hlive.1)
  inside := Nat.zero_le _
  placed _ _ hheld := (nomatch hheld)
  generations _ _ _ _ _ hat := (nomatch hat.1)
  minted _ _ hat := (nomatch hat.1)

/-! ### What an epoch creates -/

def HeldFrom (first : ℕ) (s : PackageStore) : Prop :=
  ∀ object, first ≤ object → object < s.heap.length → s.Held object

variable {first : ℕ}

theorem HeldFrom.rewrite (h : HeldFrom first s)
    (hresources : s'.staticResources = s.staticResources) (hheap : Rewrites s s') :
    HeldFrom first s' := by
  intro object hfirst hlt
  obtain ⟨resource, hresource, -⟩ := hheap object _ (List.getElem?_eq_getElem hlt)
  rw [Held, hresources]
  exact h object hfirst (List.getElem?_eq_some_iff.mp hresource).choose

theorem HeldFrom.emplace (h : HeldFrom first s) (resource : GpuSkinStaticResource) :
    HeldFrom first (s.emplace resource) := by
  intro object hfirst hlt
  rcases Nat.lt_or_ge object s.heap.length with hold | hnew
  · obtain ⟨entry, hentry, hobject⟩ := h object hfirst hold
    exact ⟨entry, mem_emplace.mpr (Or.inl hentry), hobject⟩
  · have hlength : (s.emplace resource).heap.length = s.heap.length + 1 := List.length_append
    exact ⟨_, mem_emplace.mpr (Or.inr rfl), by dsimp only; omega⟩

theorem HeldFrom.turn (h : HeldFrom first s) (hturn : TurnSpec cfg s miss s') :
    HeldFrom first s' := by
  cases hturn with
  | skipped => exact h
  | threw _ hground =>
    exact h.rewrite hground.sameDirectory.staticResources (.of_eq hground.sameDirectory.heap)
  | refused _ hground =>
    have hnext := h.rewrite hground.sameDirectory.staticResources
      (.of_eq hground.sameDirectory.heap)
    exact (hnext.emplace _).rewrite rfl (.of_eq rfl)
  | created _ hcreated =>
    have hnext := h.rewrite hcreated.sameDirectory.staticResources
      (.of_eq hcreated.sameDirectory.heap)
    exact (hnext.emplace _).rewrite rfl (.of_eq rfl)

theorem HeldFrom.move (h : HeldFrom first s) (hcall : call.clears = false)
    (hmove : Move cfg call s s') : HeldFrom first s' := by
  cases hmove with
  | epochs _ _ => exact h.rewrite rfl (.of_eq rfl)
  | cleared _ _ _ _ hclears => rw [hclears] at hcall; cases hcall
  | looked _ _ _ => exact h.rewrite rfl (.of_eq rfl)
  | @turned _ _ _ _ miss rest _ hturn =>
    have hskip : HeldFrom first { s with staticMisses := rest } := h.rewrite rfl (.of_eq rfl)
    exact hskip.turn hturn
  | taken => exact h.rewrite rfl (.of_eq rfl)
  | retired _ _ =>
    apply h.rewrite _ (commitRetirements_rewrites _ _ _)
    rw [commitRetirements_state]
  | completed _ _ hspec =>
    cases hspec with
    | quiet _ => exact h.rewrite rfl (.of_eq rfl)
    | published counters _ _ _ =>
      exact h.rewrite rfl (write_rewrites (f := published cfg) _ (fun _ => rfl) counters)
    | invalidated counters _ =>
      exact h.rewrite rfl (write_rewrites (f := invalidated) _ (fun _ => rfl) counters)
  | forgotten _ => exact h.rewrite rfl (.of_eq rfl)

theorem HeldFrom.run {calls : List StoreCall} (h : HeldFrom first s)
    (hcalls : ∀ call ∈ calls, call.clears = false) :
    HeldFrom first (run (storeStep cfg) calls s) := by
  induction calls generalizing s with
  | nil => exact h
  | cons call calls ih =>
    rw [List.forall_mem_cons] at hcalls
    rw [run_cons]
    exact ih (storeStep_induction call s (fun _ _ hmove h => h.move hcalls.1 hmove) h) hcalls.2

def Apart (resource other : GpuSkinStaticResource) : Prop :=
  resource.packageSlice.offset + resource.packageSlice.length ≤ other.packageSlice.offset ∨
    other.packageSlice.offset + other.packageSlice.length ≤ resource.packageSlice.offset

/-- A package that was created by the last calls of a run, none of which dropped anything. -/
def CreatedInEpoch (cfg : StoreSetup) (calls : List StoreCall) (s : PackageStore) (object : ℕ)
    (resource : GpuSkinStaticResource) : Prop :=
  (run (storeStep cfg) calls s).PackageAt object resource ∧
    ∃ earlier later, calls = earlier ++ later ∧ (∀ call ∈ later, call.clears = false) ∧
      (run (storeStep cfg) earlier s).heap.length ≤ object

theorem CreatedInEpoch.live {calls : List StoreCall}
    (h : CreatedInEpoch cfg calls s object resource) :
    Live (run (storeStep cfg) calls s) object := by
  obtain ⟨hat, earlier, later, rfl, hlater, hobject⟩ := h
  refine ⟨?_, resource, hat⟩
  rw [run_append] at hat ⊢
  have hstart : HeldFrom (run (storeStep cfg) earlier s).heap.length
      (run (storeStep cfg) earlier s) := fun _ hge hlt => absurd hlt (by omega)
  exact hstart.run hlater object hobject (List.getElem?_eq_some_iff.mp hat.1).choose

end PackageStore

open PackageStore in
/-- After any calls of a new store, every package that was created since the resources were last
dropped is in the atlas, on the alignment of the epoch and with its indices on theirs, not empty and
inside the budget; the slices of any two of them have no byte in common; and the generations of all
packages that were ever created go up with the order of creation. -/
theorem packages_placed (cfg : StoreSetup) (device : Bool) (alignment : ℕ) (calls : List StoreCall) :
    (∀ object resource, CreatedInEpoch cfg calls (init device alignment) object resource →
      Placed (run (storeStep cfg) calls (init device alignment)) resource ∧
        0 < resource.packageSlice.length ∧
        resource.packageSlice.offset + resource.packageSlice.length ≤ cfg.budgetBytes) ∧
    (∀ object object' resource resource', object ≠ object' →
      CreatedInEpoch cfg calls (init device alignment) object resource →
      CreatedInEpoch cfg calls (init device alignment) object' resource' →
        Apart resource resource') ∧
    (∀ object object' resource resource', object < object' →
      (run (storeStep cfg) calls (init device alignment)).PackageAt object resource →
      (run (storeStep cfg) calls (init device alignment)).PackageAt object' resource' →
        resource.packageProof.packageGeneration < resource'.packageProof.packageGeneration) := by
  have hatlas : Atlas cfg (run (storeStep cfg) calls (init device alignment)) :=
    run_induction (storeStep cfg) (Atlas.init device alignment) (fun t call ht =>
      storeStep_induction call t (fun _ _ hmove h => h.move hmove) ht) calls
  refine ⟨fun object resource h => ?_, fun object object' resource resource' hne h h' => ?_,
    hatlas.generations⟩
  · have hspan := spanAt_eq h.1.1
    have hproper := hatlas.stacked.proper object h.live
    have hbelow := hatlas.stacked.below object h.live
    have hinside := hatlas.inside
    rw [hspan] at hproper hbelow
    dsimp only [BufferSlice.span] at hproper hbelow
    exact ⟨hatlas.placed object resource h.live.1 h.1, by omega, by omega⟩
  · have hspan := spanAt_eq h.1.1
    have hspan' := spanAt_eq h'.1.1
    rcases Nat.lt_or_gt_of_ne hne with hlt | hgt
    · have hsorted := hatlas.stacked.sorted object object' h.live h'.live hlt
      rw [hspan, hspan'] at hsorted
      exact Or.inl hsorted
    · have hsorted := hatlas.stacked.sorted object' object h'.live h.live hgt
      rw [hspan, hspan'] at hsorted
      exact Or.inr hsorted

end War3VK.GpuSkin
