import Mathlib.Data.List.Nodup
import War3VK.GpuSkin.PackageStore

/-!
# What one call of the store does

Each operation has a lemma that says how its state differs from the one it met: lookups touch the misses
and the counters (`findOrQueueStatic_spec`, `probeStatic_spec`), a creation touches the atlas, the
buffers and the generation, and moves the cursor only when it succeeds (`createStaticResource_spec`), a
retirement is refused with nothing but a counter moved or takes the whole batch
(`retireStaticUploads_spec`), and a completion writes the state of one resource
(`completeRetiredStaticUpload_spec`).
-/

namespace War3VK.GpuSkin

open War3VK.Lib

namespace PackageStore

variable {cfg : StoreSetup} {s s' : PackageStore}

variable {key : GpuSkinStaticResourceKey} {object : ℕ}

theorem mem_of_find (h : s.find key = some object) : (key, object) ∈ s.staticResources := by
  obtain ⟨entry, hentry, rfl⟩ := Option.map_eq_some_iff.mp h
  have hkey : entry.1 = key := by simpa using List.find?_some hentry
  rw [← hkey]
  exact List.mem_of_find?_eq_some hentry

theorem not_mem_of_find (h : s.find key = none) : key ∉ s.staticResources.map Prod.fst := by
  rw [find, Option.map_eq_none_iff, List.find?_eq_none] at h
  rintro hmem
  obtain ⟨entry, hentry, rfl⟩ := List.mem_map.mp hmem
  exact h entry hentry (by simp)

theorem find_of_mem (hkeys : (s.staticResources.map Prod.fst).Nodup)
    (h : (key, object) ∈ s.staticResources) : s.find key = some object := by
  cases hfind : s.find key with
  | none => exact absurd (List.mem_map_of_mem h) (not_mem_of_find hfind)
  | some other =>
    have hentry := List.inj_on_of_nodup_map hkeys h (mem_of_find hfind) rfl
    have hobject : object = other := congrArg Prod.snd hentry
    rw [hobject]

def CurrentKey (s : PackageStore) (key : GpuSkinStaticResourceKey) : Prop :=
  key.mapEpoch = s.mapEpoch ∧ key.deviceEpoch = s.deviceEpoch ∧ s.mapEpoch ≠ 0 ∧ s.deviceEpoch ≠ 0

/-- A lookup that reports a resource has found a ready one under some key. -/
def FoundReady (s : PackageStore) (object : ℕ) : Prop :=
  ∃ key resource, s.find key = some object ∧ s.heap[object]? = some resource ∧
    resource.state = .ready

/-- What a lookup does: the counters move, misses of the current epochs may join the queue, and what
is reported is ready. -/
structure LookupSpec (s : PackageStore) (result : GpuSkinStaticLookup × PackageStore) : Prop where
  state : ∃ counters misses, (∀ miss ∈ misses, CurrentKey s miss.key) ∧ result.2 =
    { s with diagnostics := counters, staticMisses := s.staticMisses ++ misses }
  found : ∀ object, result.1.resource = some object → FoundReady s object

theorem refuse_spec (reason : GpuSkinFallbackReason) : LookupSpec s (s.refuse reason) where
  state := ⟨(s.refuse reason).2.diagnostics, [], by simp, by simp [refuse, recordFallback]⟩
  found object h := by simp [refuse] at h

theorem findExisting_spec {record : ShadowGeosetResourceRecord} (hfind : s.find key = some object) :
    LookupSpec s (s.findExisting cfg record object) := by
  unfold findExisting
  split
  · exact refuse_spec _
  · rename_i resource hresource
    split
    · rename_i hready
      split
      · refine ⟨⟨_, [], by simp, by simp; rfl⟩, fun found hfound => ?_⟩
        rw [Option.some.injEq] at hfound
        exact hfound ▸ ⟨key, resource, hfind, hresource, hready⟩
      · exact refuse_spec _
    · exact refuse_spec _
    · exact refuse_spec _

theorem queueMiss_spec {snapshot : Snapshot} (hkey : CurrentKey s key) :
    LookupSpec s (s.queueMiss cfg key snapshot) := by
  unfold queueMiss
  split
  · exact refuse_spec _
  · split
    · exact refuse_spec _
    · split
      · exact refuse_spec _
      · refine ⟨⟨_, [_], ?_, rfl⟩, fun object h => by simp [refuse] at h⟩
        simpa using hkey

theorem findOrQueueStatic_spec (cache : ModelCache) (record : Option Snapshot)
    (layoutGeneration : ℕ) :
    LookupSpec s (s.findOrQueueStatic cfg cache record layoutGeneration) := by
  cases record with
  | none => exact refuse_spec _
  | some snapshot =>
    simp only [findOrQueueStatic]
    split_ifs with hlayout _ _ hepoch
    · exact refuse_spec _
    · exact refuse_spec _
    · exact refuse_spec _
    · exact refuse_spec _
    · rw [not_or] at hlayout hepoch
      have hkey : CurrentKey s (s.makeKey snapshot.record layoutGeneration) := by
        rw [makeKey, if_neg hlayout.2]
        exact ⟨rfl, rfl, hepoch.1, hepoch.2⟩
      split
      · exact findExisting_spec (by assumption)
      · exact queueMiss_spec hkey

theorem probeExisting_spec {stamp : ResourceStamp} (hfind : s.find key = some object) :
    LookupSpec s (s.probeExisting cfg key stamp object) := by
  unfold probeExisting
  split
  · exact refuse_spec _
  · rename_i resource hresource
    split
    · rename_i hready
      split
      · refine ⟨⟨_, [], by simp, by simp; rfl⟩, fun found hfound => ?_⟩
        rw [Option.some.injEq] at hfound
        exact hfound ▸ ⟨key, resource, hfind, hresource, hready⟩
      · exact refuse_spec _
    · exact refuse_spec _
    · exact refuse_spec _

theorem probeMiss_spec : LookupSpec s (s.probeMiss cfg key) := by
  unfold probeMiss
  split
  · exact refuse_spec _
  · split
    · exact refuse_spec _
    · exact ⟨⟨s.diagnostics, [], by simp, by simp⟩, fun object h => (nomatch h)⟩

theorem probeStatic_spec (cache : ModelCache) (stamp : ResourceStamp) (layoutGeneration : ℕ) :
    LookupSpec s (s.probeStatic cfg cache stamp layoutGeneration) := by
  unfold probeStatic
  split_ifs
  · exact refuse_spec _
  · exact refuse_spec _
  · exact refuse_spec _
  · exact refuse_spec _
  · dsimp only
    split
    · exact probeExisting_spec (by assumption)
    · exact probeMiss_spec

/-! ## Creation -/

theorem tryAlignUp_spec {value alignment result : ℕ} (h : tryAlignUp value alignment = some result) :
    alignment ∣ result ∧ value ≤ result := by
  unfold tryAlignUp at h
  split_ifs at h with _ hmultiple
  · cases h
    exact ⟨Nat.dvd_of_mod_eq_zero hmultiple, Nat.le_refl _⟩
  · cases h
    have hlt := Nat.mod_lt value (Nat.pos_of_ne_zero (by assumption : alignment ≠ 0))
    have hdiv := Nat.div_add_mod value alignment
    refine ⟨⟨value / alignment + 1, ?_⟩, by omega⟩
    rw [Nat.mul_add, Nat.mul_one]
    omega

structure PlanSpec (cfg : StoreSetup) (s : PackageStore) (miss : QueuedStaticMiss)
    (plan : PackagePlan) : Prop where
  aligned : s.storageBufferOffsetAlignment ∣ plan.atlasOffset
  behind : s.staticCursor ≤ plan.atlasOffset
  proper : 0 < plan.packageBytes
  inside : plan.atlasOffset + plan.packageBytes ≤ cfg.budgetBytes
  small : plan.packageBytes ≤ 0xffffffff
  low : plan.atlasOffset ≤ 0xffffffff
  indexAligned : 2 ∣ plan.indexRelativeOffset
  indexBehind : plan.proof.staticByteSize ≤ plan.indexRelativeOffset
  packageEnd : plan.packageBytes = plan.indexRelativeOffset + indexBytesOf miss.record.record
  current : CurrentKey s miss.key

variable {miss : QueuedStaticMiss}

theorem planPackage_spec {plan : PackagePlan} (h : s.planPackage cfg miss = some plan) :
    PlanSpec cfg s miss plan := by
  simp only [planPackage, Option.bind_eq_bind, Option.bind_eq_some_iff, Option.guard_eq_some',
    Option.pure_def, Option.some.injEq, Prod.exists] at h
  obtain ⟨proof, primitiveProofs, -, -, -, -, ⟨-, hmap, hdevice, -, hkeyMap, hkeyDevice, -⟩, -, -,
    indexRelativeOffset, hindex, -, -, atlasOffset, hatlas, -, ⟨-, hproper, hbudget, hinside, hlow,
    hsmall, -⟩, rfl⟩ := h
  obtain ⟨hindexAligned, hindexBehind⟩ := tryAlignUp_spec hindex
  obtain ⟨haligned, hbehind⟩ := tryAlignUp_spec hatlas
  exact {
    aligned := haligned
    behind := hbehind
    proper := Nat.pos_of_ne_zero hproper
    inside := by dsimp only at *; omega
    small := hsmall
    low := hlow
    indexAligned := hindexAligned
    indexBehind := hindexBehind
    packageEnd := rfl
    current := ⟨hkeyMap, hkeyDevice, hmap, hdevice⟩ }

/-- What a creation may leave behind however it ends: more buffers, the atlas, a later generation. -/
structure Groundwork (cfg : StoreSetup) (s s' : PackageStore) : Prop where
  state : s' = { s with
    buffers := s'.buffers
    staticAtlas := s'.staticAtlas
    nextStaticPackageGeneration := s'.nextStaticPackageGeneration }
  buffers : s.buffers ≤ s'.buffers
  generation : s.nextStaticPackageGeneration ≤ s'.nextStaticPackageGeneration
  kept : ∀ atlas, s.staticAtlas = some atlas → s'.staticAtlas = some atlas
  /-- A new atlas is a new buffer of the budget's size. -/
  fresh : s.staticAtlas = none → ∀ atlas, s'.staticAtlas = some atlas →
    atlas.info = staticBufferInfo cfg.budgetBytes ∧ s.buffers ≤ atlas.identity ∧
      atlas.identity < s'.buffers

theorem Groundwork.refl : Groundwork cfg s s where
  state := rfl
  buffers := Nat.le_refl _
  generation := Nat.le_refl _
  kept _ h := h
  fresh hnone atlas h := by rw [hnone] at h; cases h

theorem Groundwork.newBuffer (h : Groundwork cfg s s') (info : BufferInfo) :
    Groundwork cfg s (s'.newBuffer info).2 where
  state := by
    rw [h.state]
    rfl
  buffers := Nat.le_succ_of_le h.buffers
  generation := h.generation
  kept := h.kept
  fresh hnone atlas hatlas :=
    let ⟨hinfo, hlower, hupper⟩ := h.fresh hnone atlas hatlas
    ⟨hinfo, hlower, Nat.lt_succ_of_lt hupper⟩

theorem Groundwork.mint (h : Groundwork cfg s s') : Groundwork cfg s { s' with
    nextStaticPackageGeneration := s'.nextStaticPackageGeneration + 1 } where
  state := by
    rw [h.state]
  buffers := h.buffers
  generation := Nat.le_succ_of_le h.generation
  kept := h.kept
  fresh := h.fresh

theorem ensureAtlas_spec (answer : BufferAnswer) :
    Groundwork cfg s (s.ensureAtlas cfg answer).2 ∧ ∀ atlas, (s.ensureAtlas cfg answer).1 = .present atlas →
        (s.ensureAtlas cfg answer).2.staticAtlas = some atlas := by
  unfold ensureAtlas
  split
  · rename_i atlas hatlas
    refine ⟨.refl, fun other h => ?_⟩
    cases h
    exact hatlas
  · rename_i hnone
    split
    · exact ⟨.refl, fun _ h => (nomatch h)⟩
    · split
      · exact ⟨.refl, fun _ h => (nomatch h)⟩
      · exact ⟨.refl, fun _ h => (nomatch h)⟩
      · refine ⟨{
          state := rfl
          buffers := Nat.le_succ _
          generation := Nat.le_refl _
          kept := fun atlas h => by rw [hnone] at h; cases h
          fresh := fun _ atlas h => ?_ }, fun atlas h => ?_⟩
        · cases h
          exact ⟨rfl, Nat.le_refl _, Nat.lt_succ_self _⟩
        · cases h
          rfl

/-- What a successful creation leaves: the resource of a plan, with its slice of the atlas, a new
generation and an upload from a new staging buffer, and the cursor behind the slice. -/
structure Created (cfg : StoreSetup) (s : PackageStore) (miss : QueuedStaticMiss)
    (resource : GpuSkinStaticResource) (s' : PackageStore) : Prop where
  /-- The state but for the cursor and the counters. -/
  groundwork : ∃ ground counters, Groundwork cfg s ground ∧
    ground.nextStaticPackageGeneration = s.nextStaticPackageGeneration ∧
    resource.packageProof.packageGeneration = s.nextStaticPackageGeneration ∧
    s' = { ground with
      nextStaticPackageGeneration := s.nextStaticPackageGeneration + 1
      staticCursor := resource.packageSlice.offset + resource.packageSlice.length
      staticBytes := resource.packageSlice.offset + resource.packageSlice.length
      diagnostics := counters }
  key : resource.key = miss.key
  slice : ∃ plan atlas, s.planPackage cfg miss = some plan ∧ s'.staticAtlas = some atlas ∧
    resource.packageSlice = ⟨some atlas, plan.atlasOffset, plan.packageBytes⟩ ∧
    resource.indexSource = ⟨some atlas, plan.atlasOffset + plan.indexRelativeOffset,
      indexBytesOf miss.record.record⟩ ∧
    resource.allocatedBytes = plan.packageBytes
  upload : ∃ staging census, s.buffers ≤ staging.identity ∧ staging.identity < s'.buffers ∧
    staging.info = staticUploadBufferInfo resource.allocatedBytes ∧
    resource.pendingUpload = ⟨resource.key, ⟨some staging, 0, resource.allocatedBytes⟩,
      resource.packageSlice, resource.allocatedBytes, census⟩
  state : resource.state = .pendingUpload
  owned : ownsFrozenPayload cfg resource = true
  valid : validateGpuSkinStaticFrozenPayload cfg.digest resource = true

def CreateSpec (cfg : StoreSetup) (s : PackageStore) (miss : QueuedStaticMiss)
    (result : CreateOutcome × PackageStore) : Prop :=
  match result.1 with
  | .created resource => Created cfg s miss resource result.2
  | _ => Groundwork cfg s result.2

theorem finishPackage_spec {ground : PackageStore} (h : Groundwork cfg s ground)
    (hgeneration : ground.nextStaticPackageGeneration = s.nextStaticPackageGeneration)
    {plan : PackagePlan} (hplan : s.planPackage cfg miss = some plan) {atlas staging : Buffer}
    (hatlas : ground.staticAtlas = some atlas)
    (hstaging : s.buffers ≤ staging.identity ∧ staging.identity < ground.buffers)
    (hinfo : staging.info = staticUploadBufferInfo plan.packageBytes) (census : ℕ) :
    CreateSpec cfg s miss (ground.finishPackage cfg miss plan atlas staging census) := by
  unfold finishPackage
  split
  · exact h
  · split
    · exact h
    · dsimp only
      split
      · -- The generation is spent, and the package was not what it should be.
        exact h.mint
      · rename_i hcheck
        simp only [Bool.or_eq_true, Bool.not_eq_true', not_or, Bool.not_eq_false] at hcheck
        show Created cfg s miss _ _
        exact {
          groundwork := ⟨ground, _, h, hgeneration, hgeneration, by rw [← hgeneration]; rfl⟩
          key := rfl
          slice := ⟨plan, atlas, hplan, hatlas, rfl, rfl, rfl⟩
          upload := ⟨staging, census, hstaging.1, hstaging.2, hinfo, rfl⟩
          state := rfl
          owned := hcheck.1
          valid := hcheck.2 }

theorem ensureAtlas_generation (answer : BufferAnswer) :
    (s.ensureAtlas cfg answer).2.nextStaticPackageGeneration = s.nextStaticPackageGeneration := by
  unfold ensureAtlas
  split
  · rfl
  · split
    · rfl
    · split <;> rfl

theorem createStaticResource_spec (answers : DeviceAnswers) (miss : QueuedStaticMiss) :
    CreateSpec cfg s miss (s.createStaticResource cfg answers miss) := by
  unfold createStaticResource
  split
  · exact Groundwork.refl
  · rename_i plan hplan
    obtain ⟨hground, hpresent⟩ := @ensureAtlas_spec cfg s answers.atlas
    have hgeneration := @ensureAtlas_generation cfg s answers.atlas
    generalize s.ensureAtlas cfg answers.atlas = result at hground hpresent hgeneration ⊢
    obtain ⟨outcome, ground⟩ := result
    cases outcome with
    | threw => exact hground
    | refused => exact hground
    | present atlas =>
      dsimp only at *
      have hatlas := hpresent atlas rfl
      cases answers.staging with
      | threw => exact hground
      | null => exact hground
      | created =>
        have hstaged := hground.newBuffer (staticUploadBufferInfo plan.packageBytes)
        dsimp only
        split
        · exact hstaged
        · exact finishPackage_spec hstaged hgeneration hplan hatlas
            ⟨hground.buffers, Nat.lt_succ_self _⟩ rfl answers.census

theorem Groundwork.staticMisses (h : Groundwork cfg s s') : s'.staticMisses = s.staticMisses := by
  rw [h.state]

theorem Created.staticMisses {resource : GpuSkinStaticResource}
    (h : Created cfg s miss resource s') : s'.staticMisses = s.staticMisses := by
  obtain ⟨ground, counters, hground, -, -, rfl⟩ := h.groundwork
  exact hground.staticMisses

inductive TurnSpec (cfg : StoreSetup) (s : PackageStore) (miss : QueuedStaticMiss) :
    PackageStore → Prop
  | skipped : TurnSpec cfg s miss s
  | threw {s' : PackageStore} : s.find miss.key = none → Groundwork cfg s s' →
      TurnSpec cfg s miss s'
  | refused {s' : PackageStore} : s.find miss.key = none → Groundwork cfg s s' →
      TurnSpec cfg s miss (s'.emplaceRejected miss)
  | created {s' : PackageStore} {resource : GpuSkinStaticResource} : s.find miss.key = none →
      Created cfg s miss resource s' → TurnSpec cfg s miss (s'.emplaceCreated resource)

theorem prepareTurn_spec (answers : DeviceAnswers) (miss : QueuedStaticMiss) :
    TurnSpec cfg s miss (s.prepareTurn cfg answers miss).2 := by
  unfold prepareTurn
  split
  · exact .skipped
  · rename_i hfind
    rw [Option.isSome_iff_ne_none, not_not] at hfind
    have hspec := @createStaticResource_spec cfg s answers miss
    generalize s.createStaticResource cfg answers miss = result at hspec ⊢
    obtain ⟨outcome, s'⟩ := result
    cases outcome with
    | threw => exact .threw hfind hspec
    | refused => exact .refused hfind hspec
    | created resource => exact .created hfind hspec

theorem TurnSpec.staticMisses (h : TurnSpec cfg s miss s') : s'.staticMisses = s.staticMisses := by
  cases h with
  | skipped => rfl
  | threw _ hground => exact hground.staticMisses
  | refused _ hground => exact hground.staticMisses
  | created _ hcreated => exact hcreated.staticMisses

variable {P : PackageStore → Prop}

theorem prepareLoop_induction {answers : ℕ → DeviceAnswers} {maxRecords : ℕ}
    (turns : ∀ s s' miss rest, P s → s.staticMisses = miss :: rest →
      TurnSpec cfg { s with staticMisses := rest } miss s' → P s') :
    ∀ misses turn prepared s, P s → s.staticMisses = misses →
      P (prepareLoop cfg answers maxRecords misses turn prepared s).2 := by
  intro misses
  induction misses with
  | nil =>
    intro turn prepared s h _
    rw [prepareLoop]
    exact h
  | cons miss rest ih =>
    intro turn prepared s h hmisses
    rw [prepareLoop]
    split
    · have hspec := @prepareTurn_spec cfg { s with staticMisses := rest } (answers turn) miss
      generalize prepareTurn cfg (answers turn) miss _ = result at hspec ⊢
      have hnext := turns s result.2 miss rest h hmisses hspec
      obtain ⟨count, s'⟩ := result
      cases count with
      | none => exact hnext
      | some count => exact ih _ _ _ hnext hspec.staticMisses
    · exact h

theorem prepareQueuedStaticResources_induction
    (turns : ∀ s s' miss rest, P s → s.staticMisses = miss :: rest →
      TurnSpec cfg { s with staticMisses := rest } miss s' → P s') (answers : ℕ → DeviceAnswers)
    (maxRecords : ℕ) (h : P s) : P (s.prepareQueuedStaticResources cfg answers maxRecords).2 :=
  prepareLoop_induction turns _ _ _ _ h rfl

/-! ## Retirement -/

theorem getElem?_foldl_modify {α β : Type} {f : β → β} (hf : ∀ b, f (f b) = f b) (place : α → ℕ)
    (items : List α) (heap : List β) (object : ℕ) :
    (items.foldl (fun heap item => heap.modify (place item) f) heap)[object]? =
      if object ∈ items.map place then heap[object]?.map f else heap[object]? := by
  induction items generalizing heap with
  | nil => simp
  | cons item items ih =>
    rw [List.foldl_cons, ih, List.getElem?_modify]
    simp only [List.map_cons, List.mem_cons]
    by_cases hplace : place item = object
    · simp only [hplace, if_true, true_or]
      split
      · cases heap[object]? <;> simp [hf]
      · simp
    · simp only [hplace, if_false, Ne.symm hplace, false_or, id_map']

theorem foldl_write {α : Type} (f : GpuSkinStaticResource → GpuSkinStaticResource) (place : α → ℕ)
    (items : List α) (s : PackageStore) :
    items.foldl (fun s item => s.write (place item) f) s =
      { s with heap := items.foldl (fun heap item => heap.modify (place item) f) s.heap } := by
  induction items generalizing s with
  | nil => rfl
  | cons item items ih =>
    rw [List.foldl_cons, ih]
    rfl

/-- The resource of an upload, found under its key and waiting for this very upload. -/
def Awaits (cfg : StoreSetup) (s : PackageStore) (upload : GpuSkinStaticUpload) (object : ℕ) :
    Prop :=
  s.find upload.key = some object ∧
    ∃ resource, s.heap[object]? = some resource ∧ exactPendingUpload cfg upload resource = true

theorem uploadTarget_eq_some_iff {upload : GpuSkinStaticUpload} :
    s.uploadTarget cfg upload = some object ↔ Awaits cfg s upload object := by
  rw [uploadTarget, Option.filter_eq_some_iff, Awaits]
  apply and_congr_right
  intro _
  cases s.heap[object]? <;> simp

structure BatchSpec (cfg : StoreSetup) (s : PackageStore) (uploads : List GpuSkinStaticUpload)
    (prepared : List (GpuSkinStaticUpload × ℕ)) : Prop where
  uploads : prepared.map Prod.fst = uploads
  awaited : ∀ item ∈ prepared, Awaits cfg s item.1 item.2

theorem prepareRetirements_spec {uploads earlier : List GpuSkinStaticUpload}
    {prepared : List (GpuSkinStaticUpload × ℕ)}
    (h : s.prepareRetirements cfg earlier uploads = .ok prepared) :
    BatchSpec cfg s uploads prepared := by
  induction uploads generalizing earlier prepared with
  | nil =>
    rw [prepareRetirements, Except.ok.injEq] at h
    subst h
    exact ⟨rfl, by simp⟩
  | cons upload uploads ih =>
    rw [prepareRetirements] at h
    split_ifs at h
    split at h
    · cases h
    · rename_i object htarget
      split at h
      · cases h
      · rename_i rest hrest
        cases h
        have hspec := ih hrest
        refine ⟨by rw [List.map_cons, hspec.uploads], fun item hitem => ?_⟩
        rcases List.mem_cons.mp hitem with rfl | hitem
        · exact uploadTarget_eq_some_iff.mp htarget
        · exact hspec.awaited item hitem

theorem prepareRetirements_complete {uploads earlier : List GpuSkinStaticUpload}
    (hformed : ∀ upload ∈ uploads, wellFormedUpload upload = true)
    (hkeys : ((earlier ++ uploads).map GpuSkinStaticUpload.key).Nodup)
    (hawaited : ∀ upload ∈ uploads, ∃ object, Awaits cfg s upload object) :
    ∃ prepared, s.prepareRetirements cfg earlier uploads = .ok prepared := by
  induction uploads generalizing earlier with
  | nil => exact ⟨[], rfl⟩
  | cons upload uploads ih =>
    obtain ⟨object, hobject⟩ := hawaited upload (by simp)
    obtain ⟨prepared, hprepared⟩ := @ih (earlier ++ [upload]) (fun u hu => hformed u (by simp [hu]))
      (by simpa using hkeys) (fun u hu => hawaited u (by simp [hu]))
    have hdistinct : earlier.any (·.key = upload.key) = false := by
      rw [List.any_eq_false]
      intro other hother hkey
      rw [List.map_append, List.nodup_append] at hkeys
      exact hkeys.2.2 _ (List.mem_map_of_mem hother) upload.key (by simp) (by simpa using hkey)
    refine ⟨(upload, object) :: prepared, ?_⟩
    rw [prepareRetirements, uploadTarget_eq_some_iff.mpr hobject, hprepared, hdistinct]
    simp [hformed upload (by simp)]

/-- What `retireStaticUploads` can do. -/
inductive RetireSpec (cfg : StoreSetup) (s : PackageStore) (uploads : List GpuSkinStaticUpload)
    (fence : Option ℕ) (value : UInt64) : Bool × PackageStore → Prop
  | refused (reason : GpuSkinFallbackReason) :
      RetireSpec cfg s uploads fence value (false, s.recordFallback reason)
  | retired {signal : ℕ} {prepared : List (GpuSkinStaticUpload × ℕ)} : fence = some signal →
      BatchSpec cfg s uploads prepared →
      RetireSpec cfg s uploads fence value (true, s.commitRetirements signal value prepared)

theorem retireStaticUploads_spec (allocates : Bool) (uploads : List GpuSkinStaticUpload)
    (fence : Option ℕ) (value : UInt64) :
    RetireSpec cfg s uploads fence value (s.retireStaticUploads cfg allocates uploads fence value) := by
  unfold retireStaticUploads
  split
  · exact .refused _
  · split
    · exact .refused _
    · split
      · exact .refused _
      · rename_i hprepared
        exact .retired rfl (prepareRetirements_spec hprepared)

theorem commitRetirements_heap (fence : ℕ) (value : UInt64)
    (prepared : List (GpuSkinStaticUpload × ℕ)) (object : ℕ) :
    (s.commitRetirements fence value prepared).heap[object]? =
      if object ∈ prepared.map Prod.snd then s.heap[object]?.map submitted
      else s.heap[object]? := by
  rw [commitRetirements, foldl_write submitted Prod.snd]
  exact @getElem?_foldl_modify _ _ submitted (fun _ => rfl) Prod.snd prepared s.heap object

theorem commitRetirements_state (fence : ℕ) (value : UInt64)
    (prepared : List (GpuSkinStaticUpload × ℕ)) :
    s.commitRetirements fence value prepared = { s with
      heap := (s.commitRetirements fence value prepared).heap
      diagnostics := (s.commitRetirements fence value prepared).diagnostics
      retiredStaticUploads := s.retiredStaticUploads ++
        prepared.map fun item => retirementOf fence value item.1 item.2 } := by
  rw [commitRetirements, foldl_write submitted Prod.snd]

/-! ## Completion -/

def published (cfg : StoreSetup) (resource : GpuSkinStaticResource) : GpuSkinStaticResource :=
  { resource with state := .ready, readyValidationAuthority := cfg.instanceAuthority }

def invalidated (resource : GpuSkinStaticResource) : GpuSkinStaticResource :=
  { resource with readyValidationAuthority := 0, state := .invalid }

inductive CompleteSpec (cfg : StoreSetup) (s : PackageStore) (retirement : RetiredStaticUpload) :
    PackageStore → Prop
  | quiet (counters : StoreDiagnostics) :
      CompleteSpec cfg s retirement { s with diagnostics := counters }
  | published {object : ℕ} {resource : GpuSkinStaticResource} (counters : StoreDiagnostics) :
      retirement.publicationResource = some object → s.heap[object]? = some resource →
      s.exactSubmittedPayload cfg retirement object resource = true →
      CompleteSpec cfg s retirement
        { s.write object (published cfg) with diagnostics := counters }
  | invalidated {object : ℕ} (counters : StoreDiagnostics) :
      retirement.publicationResource = some object →
      CompleteSpec cfg s retirement { s.write object invalidated with diagnostics := counters }

theorem completeRetiredStaticUpload_spec (retirement : RetiredStaticUpload) :
    CompleteSpec cfg s retirement (s.completeRetiredStaticUpload cfg retirement) := by
  unfold completeRetiredStaticUpload
  split
  · exact .quiet s.diagnostics
  · split
    · exact .quiet _
    · rename_i object hobject
      split
      · exact .quiet _
      · rename_i resource hresource
        split
        · rename_i hexact
          rw [Bool.and_eq_true] at hexact
          exact .published _ hobject hresource hexact.1
        · exact .invalidated _ hobject

theorem CompleteSpec.counters {retirement : RetiredStaticUpload}
    (h : CompleteSpec cfg s retirement s') (counters : StoreDiagnostics) :
    CompleteSpec cfg s retirement { s' with diagnostics := counters } := by
  cases h with
  | quiet _ => exact .quiet _
  | published _ hobject hresource hexact => exact .published _ hobject hresource hexact
  | invalidated _ hobject => exact .invalidated _ hobject

theorem pollLoop_induction {getFenceValue : ℕ → ℕ → UInt64} {retired : List RetiredStaticUpload}
    (completes : ∀ s s' turn, ∀ retirement ∈ retired, P s →
      retirement.retireValue ≤ getFenceValue turn retirement.fence →
      CompleteSpec cfg s retirement s' → P s') :
    ∀ rest turn s, (∀ retirement ∈ rest, retirement ∈ retired) → P s →
      P (pollLoop cfg getFenceValue rest turn s).2 := by
  intro rest
  induction rest with
  | nil =>
    intro turn s _ h
    exact h
  | cons retirement rest ih =>
    intro turn s hrest h
    rw [List.forall_mem_cons] at hrest
    rw [pollLoop]
    split
    · rename_i hreached
      exact ih _ _ hrest.2 (completes s _ turn retirement hrest.1 h hreached
        ((completeRetiredStaticUpload_spec retirement).counters _))
    · exact ih _ _ hrest.2 h

theorem pollLoop_sublist (getFenceValue : ℕ → ℕ → UInt64) (rest : List RetiredStaticUpload)
    (turn : ℕ) (s : PackageStore) : (pollLoop cfg getFenceValue rest turn s).1.Sublist rest := by
  induction rest generalizing turn s with
  | nil => exact List.Sublist.refl _
  | cons retirement rest ih =>
    rw [pollLoop]
    split
    · exact (ih _ _).cons _
    · exact (ih _ _).cons_cons _

end PackageStore

end War3VK.GpuSkin
