import War3VK.GpuSkin.PackageMoves

/-!
# Uploads that wait

A resource that waits for its upload has it either among the ready uploads of the store or in the hands
of whoever took them last.
-/

namespace War3VK.GpuSkin

open War3VK.Lib

theorem exists_partner {α β : Type} {R : α → β → Prop} {l : List α} {l' : List β}
    (h : List.Forall₂ R l l') {a : α} (ha : a ∈ l) : ∃ b ∈ l', R a b := by
  induction h with
  | nil => exact (nomatch ha)
  | cons hab _ ih =>
    rcases List.mem_cons.mp ha with rfl | ha
    · exact ⟨_, List.mem_cons_self, hab⟩
    · obtain ⟨b, hb, hab⟩ := ih ha
      exact ⟨b, List.mem_cons_of_mem _ hb, hab⟩

theorem forall₂_imp_of_mem {α β : Type} {R S : α → β → Prop} {l : List α} {l' : List β}
    (h : List.Forall₂ R l l') (himp : ∀ a b, a ∈ l → R a b → S a b) : List.Forall₂ S l l' := by
  induction h with
  | nil => exact .nil
  | cons hab _ ih =>
    exact .cons (himp _ _ List.mem_cons_self hab)
      (ih fun a b ha hab => himp a b (List.mem_cons_of_mem _ ha) hab)

def StoreCall.handlesUploads : StoreCall → Bool
  | .takeStaticUploads => true
  | .retireStaticUploads _ _ _ _ => true
  | _ => false

namespace PackageStore

variable {cfg : StoreSetup} {s s' : PackageStore} {call : StoreCall}
  {opened : List GpuSkinStaticUpload}

def AwaitedAt (s : PackageStore) (upload : GpuSkinStaticUpload) (object : ℕ) : Prop :=
  s.Held object ∧ ∃ resource, s.heap[object]? = some resource ∧ resource.state = .pendingUpload ∧
    resource.pendingUpload = upload

def Awaited (s : PackageStore) (upload : GpuSkinStaticUpload) : Prop :=
  ∃ object, s.AwaitedAt upload object

structure PendingShape (cfg : StoreSetup) (s : PackageStore) (resource : GpuSkinStaticResource) :
    Prop where
  /-- The upload comes from a staging buffer of the store. -/
  upload : ∃ staging census, staging.identity < s.buffers ∧
    staging.info = staticUploadBufferInfo resource.allocatedBytes ∧
    resource.pendingUpload = ⟨resource.key, ⟨some staging, 0, resource.allocatedBytes⟩,
      resource.packageSlice, resource.allocatedBytes, census⟩
  length : resource.packageSlice.length = resource.allocatedBytes
  proper : 0 < resource.allocatedBytes
  owned : ownsFrozenPayload cfg resource = true
  valid : validateGpuSkinStaticFrozenPayload cfg.digest resource = true

structure Waiting (cfg : StoreSetup) (s : PackageStore) (opened : List GpuSkinStaticUpload) :
    Prop where
  directory : Directory s
  atlas : Atlas cfg s
  shapes : ∀ (object : ℕ) (resource : GpuSkinStaticResource), s.heap[object]? = some resource →
    resource.state = .pendingUpload → PendingShape cfg s resource
  /-- The ready uploads are awaited, each by a later object. -/
  ready : ∃ objects : List ℕ, objects.Pairwise (· < ·) ∧
    List.Forall₂ (AwaitedAt s) s.readyStaticUploads objects
  low : s.staticCursor ≤ 2 * 0xffffffff
  keys : (opened.map GpuSkinStaticUpload.key).Nodup
  fresh : ∀ upload ∈ opened, ∀ buffer, upload.source.buffer = some buffer →
    buffer.identity < s.buffers
  whole : (∀ upload ∈ opened, ¬Awaited s upload) ∨ ∀ upload ∈ opened, Awaited s upload
  taken : ∀ upload ∈ opened, upload ∉ s.readyStaticUploads
  kept : ∀ upload, Awaited s upload → upload ∈ s.readyStaticUploads ∨ upload ∈ opened

variable {resource : GpuSkinStaticResource}

theorem PendingShape.mono (h : PendingShape cfg s resource) (hbuffers : s.buffers ≤ s'.buffers) :
    PendingShape cfg s' resource :=
  let ⟨staging, census, hstaging, hinfo, hupload⟩ := h.upload
  ⟨⟨staging, census, hstaging.trans_le hbuffers, hinfo, hupload⟩, h.length, h.proper, h.owned, h.valid⟩

structure SamePending (s s' : PackageStore) : Prop where
  heap : ∀ (object : ℕ) (resource : GpuSkinStaticResource), resource.state = .pendingUpload →
    (s'.heap[object]? = some resource ↔ s.heap[object]? = some resource)
  held : ∀ (object : ℕ) (resource : GpuSkinStaticResource), s.heap[object]? = some resource →
    resource.state = .pendingUpload → (s'.Held object ↔ s.Held object)
  ready : s'.readyStaticUploads = s.readyStaticUploads
  buffers : s.buffers ≤ s'.buffers
  cursor : s'.staticCursor = s.staticCursor

theorem SamePending.of_eq (hheap : s'.heap = s.heap)
    (hresources : s'.staticResources = s.staticResources)
    (hready : s'.readyStaticUploads = s.readyStaticUploads) (hbuffers : s.buffers ≤ s'.buffers)
    (hcursor : s'.staticCursor = s.staticCursor) : SamePending s s' where
  heap _ _ _ := by rw [hheap]
  held _ _ _ _ := by rw [Held, hresources, Held]
  ready := hready
  buffers := hbuffers
  cursor := hcursor

theorem SamePending.awaitedAt (h : SamePending s s') (upload : GpuSkinStaticUpload) (object : ℕ) :
    AwaitedAt s' upload object ↔ AwaitedAt s upload object := by
  constructor
  · rintro ⟨hheld, resource, hresource, hstate, hupload⟩
    have hresource := (h.heap object resource hstate).mp hresource
    exact ⟨(h.held object resource hresource hstate).mp hheld, resource, hresource, hstate, hupload⟩
  · rintro ⟨hheld, resource, hresource, hstate, hupload⟩
    exact ⟨(h.held object resource hresource hstate).mpr hheld, resource,
      (h.heap object resource hstate).mpr hresource, hstate, hupload⟩

theorem SamePending.awaited (h : SamePending s s') (upload : GpuSkinStaticUpload) :
    Awaited s' upload ↔ Awaited s upload := by
  simp only [Awaited, h.awaitedAt]

theorem Waiting.same (h : Waiting cfg s opened) (hdirectory : Directory s') (hatlas : Atlas cfg s')
    (hsame : SamePending s s') : Waiting cfg s' opened where
  directory := hdirectory
  atlas := hatlas
  shapes object resource hresource hstate :=
    (h.shapes object resource ((hsame.heap object resource hstate).mp hresource) hstate).mono
      hsame.buffers
  ready := by
    obtain ⟨objects, hsorted, hforall⟩ := h.ready
    rw [hsame.ready]
    exact ⟨objects, hsorted, hforall.imp fun upload object => (hsame.awaitedAt upload object).mpr⟩
  low := hsame.cursor ▸ h.low
  keys := h.keys
  fresh upload hupload buffer hbuffer :=
    (h.fresh upload hupload buffer hbuffer).trans_le hsame.buffers
  whole := by
    simp only [hsame.awaited]
    exact h.whole
  taken := hsame.ready ▸ h.taken
  kept upload hupload := hsame.ready ▸ h.kept upload ((hsame.awaited upload).mp hupload)

variable {object : ℕ} {upload : GpuSkinStaticUpload} {miss : QueuedStaticMiss} {value : UInt64}

theorem SamePending.write {f : GpuSkinStaticResource → GpuSkinStaticResource}
    (hold : ∀ resource, s.heap[object]? = some resource → resource.state ≠ .pendingUpload)
    (hnew : ∀ r, (f r).state ≠ .pendingUpload) (counters : StoreDiagnostics) :
    SamePending s { s.write object f with diagnostics := counters } where
  heap other resource hstate := by
    rw [PackageStore.write, List.getElem?_modify, Option.map_eq_map, Option.map_eq_some_iff]
    constructor
    · rintro ⟨old, hother, hresource⟩
      split at hresource
      · exact absurd (hresource ▸ hstate) (hnew old)
      · rwa [← hresource]
    · intro hother
      refine ⟨resource, hother, ?_⟩
      split
      · rename_i heq
        exact absurd hstate (hold resource (heq ▸ hother))
      · rfl
  held _ _ _ _ := Iff.rfl
  ready := rfl
  buffers := Nat.le_refl _
  cursor := rfl

theorem CompleteSpec.samePending (hdirectory : Directory s) {retirement : RetiredStaticUpload}
    (hmem : retirement ∈ s.retiredStaticUploads) (h : CompleteSpec cfg s retirement s') :
    SamePending s s' := by
  have hold : ∀ object, retirement.publicationResource = some object →
      ∀ resource, s.heap[object]? = some resource → resource.state ≠ .pendingUpload := by
    intro object hobject resource hresource
    obtain ⟨other, hother, hstate⟩ := hdirectory.retired retirement hmem object hobject
    rw [hresource, Option.some.injEq] at hother
    exact hother ▸ hstate
  cases h with
  | quiet counters => exact .of_eq rfl rfl rfl (Nat.le_refl _) rfl
  | published counters hobject _ _ =>
    exact .write (f := PackageStore.published cfg) (hold _ hobject) (fun _ => nofun) counters
  | invalidated counters hobject =>
    exact .write (f := PackageStore.invalidated) (hold _ hobject) (fun _ => nofun) counters

theorem Groundwork.samePending (h : Groundwork cfg s s') : SamePending s s' :=
  .of_eq h.sameDirectory.heap h.sameDirectory.staticResources (by rw [h.state]) h.buffers
    (by rw [h.state])

theorem SamePending.emplace (hstate : resource.state ≠ .pendingUpload) :
    SamePending s (s.emplace resource) where
  heap object other hother := by
    rw [PackageStore.emplace, List.getElem?_append]
    split
    · exact Iff.rfl
    · rename_i hge
      rw [List.getElem?_eq_none (by omega : s.heap.length ≤ object), List.getElem?_singleton]
      constructor
      · intro h
        split at h
        · cases h
          exact absurd hother hstate
        · exact h
      · exact fun h => (by cases h)
  held object other hother _ := by
    have hlt : object < s.heap.length := (List.getElem?_eq_some_iff.mp hother).choose
    constructor
    · rintro ⟨entry, hentry, rfl⟩
      rcases mem_emplace.mp hentry with hentry | rfl
      · exact ⟨entry, hentry, rfl⟩
      · exact absurd hlt (Nat.lt_irrefl _)
    · rintro ⟨entry, hentry, hobject⟩
      exact ⟨entry, mem_emplace.mpr (Or.inl hentry), hobject⟩
  ready := rfl
  buffers := Nat.le_refl _
  cursor := rfl

theorem not_awaited_of_empty (h : s.staticResources = []) (upload : GpuSkinStaticUpload) :
    ¬Awaited s upload := by
  rintro ⟨object, ⟨entry, hentry, -⟩, -⟩
  rw [h] at hentry
  exact (nomatch hentry)

theorem Waiting.cleared (h : Waiting cfg s opened) (device : Bool) (alignment : ℕ)
    (mapEpoch deviceEpoch : UInt64) : Waiting cfg { s.clearEpochResources with
      device := device
      storageBufferOffsetAlignment := alignment
      mapEpoch := mapEpoch
      deviceEpoch := deviceEpoch } opened where
  directory := h.directory.cleared _ _ _ _
  atlas := h.atlas.cleared _ _ _ _
  shapes object resource hresource hstate :=
    (h.shapes object resource hresource hstate).mono (Nat.le_refl _)
  ready := ⟨[], .nil, .nil⟩
  low := Nat.zero_le _
  keys := h.keys
  fresh := h.fresh
  whole := Or.inl fun upload _ => not_awaited_of_empty rfl upload
  taken _ _ := List.not_mem_nil
  kept upload hupload := absurd hupload (not_awaited_of_empty rfl upload)

theorem Waiting.find (h : Waiting cfg s opened) (hawaited : AwaitedAt s upload object) :
    s.find upload.key = some object := by
  obtain ⟨⟨entry, hentry, rfl⟩, resource, hresource, hstate, rfl⟩ := hawaited
  obtain ⟨other, hother, hkey⟩ := h.directory.refs entry hentry
  obtain ⟨staging, census, -, -, hupload⟩ := (h.shapes _ _ hresource hstate).upload
  rw [hresource, Option.some.injEq] at hother
  rw [hupload, hother, hkey]
  exact find_of_mem h.directory.keys hentry

theorem Waiting.awaitedAt_unique (h : Waiting cfg s opened) {object' : ℕ}
    (hobject : AwaitedAt s upload object) (hobject' : AwaitedAt s upload object') :
    object = object' := by
  have hfind := h.find hobject
  rw [h.find hobject', Option.some.injEq] at hfind
  exact hfind.symm

theorem AwaitedAt.unique {upload' : GpuSkinStaticUpload} (h : AwaitedAt s upload object)
    (h' : AwaitedAt s upload' object) : upload = upload' := by
  obtain ⟨-, resource, hresource, -, rfl⟩ := h
  obtain ⟨-, resource', hresource', -, rfl⟩ := h'
  rw [hresource, Option.some.injEq] at hresource'
  rw [hresource']

theorem AwaitedAt.lt (h : AwaitedAt s upload object) : object < s.heap.length := by
  obtain ⟨-, resource, hresource, -⟩ := h
  exact (List.getElem?_eq_some_iff.mp hresource).choose

/-! ## Creation -/

theorem Created.awaitedAt (h : Created cfg s miss resource s') (upload : GpuSkinStaticUpload)
    (object : ℕ) :
    AwaitedAt (s'.emplaceCreated resource) upload object ↔
      AwaitedAt s upload object ∨ object = s.heap.length ∧ upload = resource.pendingUpload := by
  have hheap : s'.heap = s.heap := h.sameDirectory.heap
  have hresources : s'.staticResources = s.staticResources := h.sameDirectory.staticResources
  have hold : ∀ object, object < s.heap.length →
      (s'.emplaceCreated resource).heap[object]? = s.heap[object]? := by
    intro object hlt
    show (s'.heap ++ [resource])[object]? = _
    rw [hheap, List.getElem?_append_left hlt]
  have hnew : (s'.emplaceCreated resource).heap[s.heap.length]? = some resource := by
    show (s'.heap ++ [resource])[s.heap.length]? = _
    rw [hheap]
    simp
  have hentries : ∀ entry, entry ∈ (s'.emplaceCreated resource).staticResources ↔
      entry ∈ s.staticResources ∨ entry = (resource.key, s.heap.length) := by
    intro entry
    show entry ∈ s'.staticResources ++ [(resource.key, s'.heap.length)] ↔ _
    rw [hheap, hresources]
    simp
  constructor
  · rintro ⟨⟨entry, hentry, rfl⟩, other, hother, hstate, hupload⟩
    rcases Nat.lt_trichotomy entry.2 s.heap.length with hlt | heq | hgt
    · rw [hold _ hlt] at hother
      rcases (hentries entry).mp hentry with hentry | rfl
      · exact Or.inl ⟨⟨entry, hentry, rfl⟩, other, hother, hstate, hupload⟩
      · exact absurd hlt (Nat.lt_irrefl _)
    · rw [heq, hnew, Option.some.injEq] at hother
      exact Or.inr ⟨heq, hother ▸ hupload.symm⟩
    · have hlt : entry.2 < (s'.heap ++ [resource]).length :=
        (List.getElem?_eq_some_iff.mp hother).choose
      rw [hheap, List.length_append, List.length_singleton] at hlt
      omega
  · rintro (hawaited | ⟨rfl, rfl⟩)
    · have hlt := hawaited.lt
      obtain ⟨⟨entry, hentry, hobject⟩, other, hother, hstate, hupload⟩ := hawaited
      exact ⟨⟨entry, (hentries entry).mpr (Or.inl hentry), hobject⟩, other,
        (hold _ hlt).trans hother, hstate, hupload⟩
    · exact ⟨⟨_, (hentries _).mpr (Or.inr rfl), rfl⟩, resource, hnew, h.state, rfl⟩

theorem Created.pendingShape (h : Created cfg s miss resource s') :
    PendingShape cfg s' resource where
  upload := by
    obtain ⟨staging, census, -, hlt, hinfo, hupload⟩ := h.upload
    exact ⟨staging, census, hlt, hinfo, hupload⟩
  length := by
    obtain ⟨plan, atlas, -, -, hslice, -, hbytes⟩ := h.slice
    rw [hslice, hbytes]
  proper := by
    obtain ⟨plan, atlas, hplan, -, -, -, hbytes⟩ := h.slice
    rw [hbytes]
    exact (planPackage_spec hplan).proper
  owned := h.owned
  valid := h.valid

theorem Created.buffers (h : Created cfg s miss resource s') : s.buffers ≤ s'.buffers := by
  obtain ⟨staging, census, hge, hlt, -⟩ := h.upload
  omega

theorem Waiting.created (h : Waiting cfg s opened) (hmiss : CurrentKey s miss.key)
    (hfind : s.find miss.key = none) (hcreated : Created cfg s miss resource s') :
    Waiting cfg (s'.emplaceCreated resource) opened := by
  have hawaited := hcreated.awaitedAt
  have hready : (s'.emplaceCreated resource).readyStaticUploads =
      s.readyStaticUploads ++ [resource.pendingUpload] := by
    obtain ⟨ground, counters, hground, -, -, rfl⟩ := hcreated.groundwork
    show ground.readyStaticUploads ++ _ = _
    rw [hground.samePending.ready]
  have hfresh : resource.pendingUpload ∉ opened := by
    obtain ⟨staging, census, hge, -, -, hupload⟩ := hcreated.upload
    intro hmem
    have hlt := h.fresh _ hmem staging (by rw [hupload])
    omega
  exact {
    directory := h.directory.turn hmiss (.created hfind hcreated)
    atlas := h.atlas.turn (.created hfind hcreated)
    shapes := fun object other hother hstate => by
      have hheap : (s'.emplaceCreated resource).heap = s.heap ++ [resource] := by
        show s'.heap ++ _ = _
        rw [hcreated.sameDirectory.heap]
      rw [hheap, List.getElem?_append] at hother
      split at hother
      · exact (h.shapes object other hother hstate).mono hcreated.buffers
      · rw [List.getElem?_singleton] at hother
        split at hother
        · cases hother
          exact hcreated.pendingShape.mono (Nat.le_refl _)
        · cases hother
    ready := by
      obtain ⟨objects, hsorted, hforall⟩ := h.ready
      rw [hready]
      refine ⟨objects ++ [s.heap.length], ?_, ?_⟩
      · rw [List.pairwise_append]
        refine ⟨hsorted, List.pairwise_singleton _ _, fun object hobject other hother => ?_⟩
        obtain ⟨upload, -, hupload⟩ := exists_partner hforall.flip hobject
        rw [List.mem_singleton.mp hother]
        exact AwaitedAt.lt hupload
      · exact List.rel_append (hforall.imp fun _ _ => (hawaited _ _).mpr ∘ Or.inl)
          (.cons ((hawaited _ _).mpr (Or.inr ⟨rfl, rfl⟩)) .nil)
    low := by
      obtain ⟨plan, atlas, hplan, -, hslice, -, -⟩ := hcreated.slice
      obtain ⟨ground, counters, -, -, -, hstate⟩ := hcreated.groundwork
      have hspec := planPackage_spec hplan
      have hlow := hspec.low
      have hsmall := hspec.small
      have hcursor : (s'.emplaceCreated resource).staticCursor = plan.atlasOffset + plan.packageBytes := by
        show s'.staticCursor = _
        rw [hstate, hslice]
      omega
    keys := h.keys
    fresh := fun upload hupload buffer hbuffer =>
      (h.fresh upload hupload buffer hbuffer).trans_le hcreated.buffers
    whole := by
      rcases h.whole with hnone | hall
      · refine Or.inl fun upload hupload => ?_
        rintro ⟨object, hobject⟩
        rcases (hawaited _ _).mp hobject with hobject | ⟨-, rfl⟩
        · exact hnone upload hupload ⟨object, hobject⟩
        · exact hfresh hupload
      · refine Or.inr fun upload hupload => ?_
        obtain ⟨object, hobject⟩ := hall upload hupload
        exact ⟨object, (hawaited _ _).mpr (Or.inl hobject)⟩
    taken := fun upload hupload hmem => by
      rw [hready, List.mem_append, List.mem_singleton] at hmem
      rcases hmem with hmem | rfl
      · exact h.taken upload hupload hmem
      · exact hfresh hupload
    kept := fun upload hupload => by
      obtain ⟨object, hobject⟩ := hupload
      rw [hready, List.mem_append, List.mem_singleton]
      rcases (hawaited _ _).mp hobject with hobject | ⟨-, rfl⟩
      · rcases h.kept upload ⟨object, hobject⟩ with hmem | hmem
        · exact Or.inl (Or.inl hmem)
        · exact Or.inr hmem
      · exact Or.inl (Or.inr rfl) }

theorem Waiting.turn (h : Waiting cfg s opened) (hmiss : CurrentKey s miss.key)
    (hturn : TurnSpec cfg s miss s') : Waiting cfg s' opened := by
  have hdirectory := h.directory.turn hmiss hturn
  have hatlas := h.atlas.turn hturn
  cases hturn with
  | skipped => exact h
  | threw _ hground => exact h.same hdirectory hatlas hground.samePending
  | @refused ground hfind hground =>
    have hsame := hground.sameDirectory
    have hdirectory' : Directory (ground.emplace (.rejected miss.key miss.record)) :=
      (h.directory.congr hsame).emplace ((hsame.find _).trans hfind) ((hsame.currentKey _).mpr hmiss)
    have hatlas' := h.atlas.rewrite hground.sameAtlas (.of_eq hsame.heap)
    have hwaiting := h.same (h.directory.congr hsame) hatlas' hground.samePending
    have hemplaced := hwaiting.same hdirectory' (hatlas'.emplace rfl) (.emplace nofun)
    exact hemplaced.same hdirectory hatlas (.of_eq rfl rfl rfl (Nat.le_refl _) rfl)
  | created hfind hcreated => exact h.created hmiss hfind hcreated

theorem Waiting.move (h : Waiting cfg s opened) (hcall : call.handlesUploads = false)
    (hmove : Move cfg call s s') : Waiting cfg s' opened := by
  have hdirectory := h.directory.move hmove
  have hatlas := h.atlas.move hmove
  cases hmove with
  | epochs _ _ => exact h.same hdirectory hatlas (.of_eq rfl rfl rfl (Nat.le_refl _) rfl)
  | cleared _ _ _ _ _ => exact h.cleared _ _ _ _
  | looked _ _ _ => exact h.same hdirectory hatlas (.of_eq rfl rfl rfl (Nat.le_refl _) rfl)
  | @turned _ _ _ _ miss rest hmisses hturn =>
    have hskip : Waiting cfg { s with staticMisses := rest } opened :=
      h.same (h.directory.skip hmisses)
        (h.atlas.rewrite ⟨rfl, rfl, fun _ h => h, rfl, Nat.le_refl _⟩ (.of_eq rfl))
        (.of_eq rfl rfl rfl (Nat.le_refl _) rfl)
    exact hskip.turn (h.directory.queued miss (by simp [hmisses])) hturn
  | taken => cases hcall
  | retired _ _ => cases hcall
  | completed hmem _ hspec => exact h.same hdirectory hatlas (hspec.samePending h.directory hmem)
  | forgotten _ => exact h.same hdirectory hatlas (.of_eq rfl rfl rfl (Nat.le_refl _) rfl)

theorem Waiting.step (h : Waiting cfg s opened) (call : StoreCall)
    (hcall : call.handlesUploads = false) : Waiting cfg (storeStep cfg call s).2 opened :=
  storeStep_induction (P := (Waiting cfg · opened)) call s
    (fun _ _ hmove h => Waiting.move h hcall hmove) h

theorem Waiting.init (device : Bool) (alignment : ℕ) : Waiting cfg (init device alignment) [] where
  directory := .init device alignment
  atlas := .init device alignment
  shapes _ _ hresource := (nomatch hresource)
  ready := ⟨[], .nil, .nil⟩
  low := Nat.zero_le _
  keys := List.nodup_nil
  fresh _ hupload := (nomatch hupload)
  whole := Or.inl fun _ hupload => (nomatch hupload)
  taken _ hupload := (nomatch hupload)
  kept upload hupload := absurd hupload (not_awaited_of_empty rfl upload)

theorem Waiting.forget (h : Waiting cfg s opened) (hnone : ∀ upload ∈ opened, ¬Awaited s upload) :
    Waiting cfg s [] :=
  { h with
    keys := List.nodup_nil
    fresh := fun _ hupload => (nomatch hupload)
    whole := Or.inl fun _ hupload => (nomatch hupload)
    taken := fun _ hupload => (nomatch hupload)
    kept := fun upload hupload =>
      Or.inl ((h.kept upload hupload).resolve_right fun hmem => hnone upload hmem hupload) }

/-! ## Taking -/

theorem Waiting.ready_awaited (h : Waiting cfg s opened) (hupload : upload ∈ s.readyStaticUploads) :
    Awaited s upload := by
  obtain ⟨objects, -, hforall⟩ := h.ready
  obtain ⟨object, -, hobject⟩ := exists_partner hforall hupload
  exact ⟨object, hobject⟩

theorem Waiting.ready_keys (h : Waiting cfg s opened) :
    (s.readyStaticUploads.map GpuSkinStaticUpload.key).Nodup := by
  obtain ⟨objects, hsorted, hforall⟩ := h.ready
  generalize s.readyStaticUploads = ready at hforall
  induction hforall with
  | nil => exact List.nodup_nil
  | cons hupload hrest ih =>
    rw [List.pairwise_cons] at hsorted
    rw [List.map_cons, List.nodup_cons]
    refine ⟨fun hmem => ?_, ih hsorted.2⟩
    obtain ⟨other, hother, hkey⟩ := List.mem_map.mp hmem
    obtain ⟨object, hobject, hawaited⟩ := exists_partner hrest hother
    -- A later object would have the key of this one.
    have hfind := h.find hawaited
    rw [hkey, h.find hupload, Option.some.injEq] at hfind
    exact (hsorted.1 object hobject).ne hfind

theorem Waiting.take (h : Waiting cfg s []) :
    Waiting cfg s.takeStaticUploads.2 s.readyStaticUploads := by
  have hmove : Move cfg .takeStaticUploads s s.takeStaticUploads.2 := .taken
  exact {
    directory := h.directory.move hmove
    atlas := h.atlas.move hmove
    shapes := fun object resource hresource hstate =>
      (h.shapes object resource hresource hstate).mono (Nat.le_refl _)
    ready := ⟨[], .nil, .nil⟩
    low := h.low
    keys := h.ready_keys
    fresh := fun upload hupload buffer hbuffer => by
      obtain ⟨object, -, resource, hresource, hstate, rfl⟩ := h.ready_awaited hupload
      obtain ⟨staging, census, hstaging, -, heq⟩ := (h.shapes _ _ hresource hstate).upload
      rw [heq] at hbuffer
      cases hbuffer
      exact hstaging
    whole := Or.inr fun upload hupload => h.ready_awaited hupload
    taken := fun _ _ => List.not_mem_nil
    kept := fun upload hupload => Or.inr
      ((h.kept upload hupload).resolve_right List.not_mem_nil) }

/-! ## Retiring -/

theorem Awaits.awaitedAt (h : Awaits cfg s upload object) : AwaitedAt s upload object := by
  obtain ⟨hfind, resource, hresource, hexact⟩ := h
  simp only [exactPendingUpload, Bool.and_eq_true, decide_eq_true_eq] at hexact
  obtain ⟨⟨⟨⟨⟨⟨⟨⟨⟨⟨⟨⟨hstate, -⟩, hkey⟩, -⟩, -⟩, hbytes⟩, -⟩, hcensus⟩, hsource⟩, hdestination⟩, -⟩, -⟩,
    -⟩ := hexact
  refine ⟨⟨_, mem_of_find hfind, rfl⟩, resource, hresource, hstate, ?_⟩
  calc resource.pendingUpload
      = ⟨resource.pendingUpload.key, resource.pendingUpload.source,
          resource.pendingUpload.destination, resource.pendingUpload.byteCount,
          resource.pendingUpload.residencyCensus⟩ := rfl
    _ = ⟨upload.key, upload.source, upload.destination, upload.byteCount,
          upload.residencyCensus⟩ := by rw [hkey, hsource, hdestination, hbytes, hcensus]
    _ = upload := rfl

theorem PendingShape.checks (h : PendingShape cfg s resource) :
    ∃ frozen, resource.frozenPayload = some frozen ∧ frozenProofsAgree resource frozen = true ∧
      frozenRangesAgree resource frozen = true := by
  have hvalid := h.valid
  simp only [validateGpuSkinStaticFrozenPayload, validateFrozenMirrorsAndGpuRanges,
    Bool.and_eq_true] at hvalid
  obtain ⟨⟨-, hchecks⟩, -⟩ := hvalid
  split at hchecks
  · cases hchecks
  · rename_i frozen hfrozen
    simp only [Bool.and_eq_true] at hchecks
    exact ⟨frozen, hfrozen, hchecks.1.2, hchecks.2⟩

theorem PendingShape.place (h : PendingShape cfg s resource) :
    ∃ buffer, resource.packageSlice.buffer = some buffer ∧ resource.packageSlice.offset ≤ buffer.info.size ∧
      resource.packageSlice.length ≤ buffer.info.size - resource.packageSlice.offset ∧
      buffer.info.allows [.storageBuffer, .vertexBuffer, .indexBuffer, .transferDst]
        [.computeShader, .vertexShader, .vertexInput, .transfer]
        [.shaderRead, .vertexAttributeRead, .indexRead, .transferWrite] = true := by
  obtain ⟨frozen, -, -, hranges⟩ := h.checks
  simp only [frozenRangesAgree, Bool.and_eq_true] at hranges
  have hbuffer := hranges.2
  split at hbuffer
  · cases hbuffer
  · rename_i buffer hsome
    simp only [Bool.and_eq_true, decide_eq_true_eq] at hbuffer
    exact ⟨buffer, hsome, hbuffer.1.1, hbuffer.1.2, hbuffer.2⟩

theorem PendingShape.keyed (h : PendingShape cfg s resource) :
    resource.key.reserved = 0 ∧ resource.key.geosetData ≠ 0 ∧ resource.key.contentHash ≠ 0 ∧
      resource.key.immutableModelGeneration ≠ 0 ∧
      resource.key.layoutGeneration = kStaticPackingLayoutGeneration := by
  obtain ⟨frozen, -, hproofs, -⟩ := h.checks
  simp only [frozenProofsAgree, Bool.and_eq_true, decide_eq_true_eq] at hproofs
  rw [kStaticPackingLayoutGeneration]
  grind

theorem Waiting.awaits (h : Waiting cfg s opened) (hawaited : AwaitedAt s upload object) :
    wellFormedUpload upload = true ∧ Awaits cfg s upload object := by
  have hfind := h.find hawaited
  obtain ⟨-, resource, hresource, hstate, rfl⟩ := hawaited
  have hshape := h.shapes _ _ hresource hstate
  have hreserved := hshape.keyed.1
  obtain ⟨buffer, hbuffer, -⟩ := hshape.place
  obtain ⟨staging, census, -, -, hupload⟩ := hshape.upload
  have hdefined : resource.packageSlice.buffer.isSome = true := by
    rw [hbuffer]
    rfl
  have hproper := hshape.proper
  constructor
  · rw [hupload]
    simp only [wellFormedUpload, hdefined, hreserved, hshape.length, BufferSlice.defined,
      Option.isSome_some, decide_true, Bool.and_true, Bool.true_and, decide_eq_true_eq]
    exact hproper.ne'
  · refine ⟨hfind, resource, hresource, ?_⟩
    simp only [exactPendingUpload, hupload, hstate, hdefined, hshape.owned, hshape.valid,
      BufferSlice.defined, Option.isSome_some, decide_true, Bool.and_true]

theorem commitRetirements_awaitedAt {signal : ℕ} {prepared : List (GpuSkinStaticUpload × ℕ)}
    (upload : GpuSkinStaticUpload) (object : ℕ) :
    AwaitedAt (s.commitRetirements signal value prepared) upload object ↔
      AwaitedAt s upload object ∧ object ∉ prepared.map Prod.snd := by
  have hheap := @commitRetirements_heap s signal value prepared object
  have hheld : (s.commitRetirements signal value prepared).Held object ↔ s.Held object := by
    rw [commitRetirements_state]
    exact Iff.rfl
  rw [AwaitedAt, hheld, hheap]
  constructor
  · rintro ⟨hheld, resource, hresource, hstate, hupload⟩
    split at hresource
    · obtain ⟨old, -, rfl⟩ := Option.map_eq_some_iff.mp hresource
      cases hstate
    · exact ⟨⟨hheld, resource, hresource, hstate, hupload⟩, by assumption⟩
  · rintro ⟨⟨hheld, resource, hresource, hstate, hupload⟩, hobject⟩
    rw [if_neg hobject]
    exact ⟨hheld, resource, hresource, hstate, hupload⟩

theorem Waiting.retired (h : Waiting cfg s opened) {prepared : List (GpuSkinStaticUpload × ℕ)}
    (hbatch : BatchSpec cfg s opened prepared) (signal : ℕ) (value : UInt64) :
    Waiting cfg (s.commitRetirements signal value prepared) [] := by
  have hawaited := @commitRetirements_awaitedAt s value signal prepared
  have hready : (s.commitRetirements signal value prepared).readyStaticUploads =
      s.readyStaticUploads := by rw [commitRetirements_state]
  have hbuffers : (s.commitRetirements signal value prepared).buffers = s.buffers := by
    rw [commitRetirements_state]
  have hitem : ∀ upload object, AwaitedAt s upload object → upload ∈ opened →
      object ∈ prepared.map Prod.snd := by
    intro upload object hobject hmem
    rw [← hbatch.uploads] at hmem
    obtain ⟨item, hitem, rfl⟩ := List.mem_map.mp hmem
    rw [h.awaitedAt_unique hobject (hbatch.awaited item hitem).awaitedAt]
    exact List.mem_map_of_mem hitem
  exact {
    directory := h.directory.retire hbatch _ _
    atlas := by
      apply h.atlas.rewrite _ (commitRetirements_rewrites _ _ _)
      rw [commitRetirements_state]
      exact ⟨rfl, rfl, fun _ h => h, rfl, Nat.le_refl _⟩
    shapes := fun object resource hresource hstate => by
      rw [commitRetirements_heap] at hresource
      split at hresource
      · obtain ⟨old, -, rfl⟩ := Option.map_eq_some_iff.mp hresource
        cases hstate
      · exact (h.shapes object resource hresource hstate).mono hbuffers.ge
    ready := by
      obtain ⟨objects, hsorted, hforall⟩ := h.ready
      rw [hready]
      refine ⟨objects, hsorted, ?_⟩
      have hsub : ∀ upload ∈ s.readyStaticUploads, upload ∉ opened :=
        fun upload hupload hmem => h.taken upload hmem hupload
      refine forall₂_imp_of_mem hforall fun upload object hmem hobject => ?_
      refine (hawaited upload object).mpr ⟨hobject, fun hprepared => hsub upload hmem ?_⟩
      -- A retired object awaits the upload it was retired with.
      obtain ⟨item, hitem, rfl⟩ := List.mem_map.mp hprepared
      rw [hobject.unique (hbatch.awaited item hitem).awaitedAt, ← hbatch.uploads]
      exact List.mem_map_of_mem hitem
    low := by
      rw [commitRetirements_state]
      exact h.low
    keys := List.nodup_nil
    fresh := fun _ hupload => (nomatch hupload)
    whole := Or.inl fun _ hupload => (nomatch hupload)
    taken := fun _ hupload => (nomatch hupload)
    kept := fun upload hupload => by
      obtain ⟨object, hobject⟩ := hupload
      obtain ⟨hobject, hprepared⟩ := (hawaited upload object).mp hobject
      rw [hready]
      refine Or.inl ((h.kept upload ⟨object, hobject⟩).resolve_right fun hmem => ?_)
      exact hprepared (hitem upload object hobject hmem) }

theorem Waiting.retireStaticUploads_eq (h : Waiting cfg s opened)
    (hawaited : ∃ upload ∈ opened, Awaited s upload)
    (hroom : opened.length ≤ cfg.missQueueCapacity) (hvalue : value ≠ 0) (signal : ℕ) :
    ∃ prepared, BatchSpec cfg s opened prepared ∧
      s.retireStaticUploads cfg true opened (some signal) value =
        (true, s.commitRetirements signal value prepared) := by
  obtain ⟨upload, hmem, hupload⟩ := hawaited
  have hall := h.whole.resolve_left fun hnone => hnone upload hmem hupload
  obtain ⟨prepared, hprepared⟩ := @prepareRetirements_complete cfg s opened []
    (fun upload hupload =>
      let ⟨_, hobject⟩ := hall upload hupload
      (h.awaits hobject).1)
    h.keys
    (fun upload hupload =>
      let ⟨object, hobject⟩ := hall upload hupload
      ⟨object, (h.awaits hobject).2⟩)
  refine ⟨prepared, prepareRetirements_spec hprepared, ?_⟩
  have hnonempty : opened ≠ [] := List.ne_nil_of_mem hmem
  simp [retireStaticUploads, hnonempty, hvalue, hprepared, Nat.not_lt.mpr hroom]

theorem Waiting.retire (h : Waiting cfg s opened) {allocates : Bool} (hvalue : value ≠ 0)
    (signal : ℕ) (hroom : (∃ upload ∈ opened, Awaited s upload) →
      allocates = true ∧ opened.length ≤ cfg.missQueueCapacity) :
    Waiting cfg (s.retireStaticUploads cfg allocates opened (some signal) value).2 [] := by
  by_cases hawaited : ∃ upload ∈ opened, Awaited s upload
  · obtain ⟨rfl, hcapacity⟩ := hroom hawaited
    obtain ⟨prepared, hbatch, heq⟩ := h.retireStaticUploads_eq hawaited hcapacity hvalue signal
    rw [heq]
    exact h.retired hbatch signal value
  · have hnone : ∀ upload ∈ opened, ¬Awaited s upload :=
      fun upload hmem hupload => hawaited ⟨upload, hmem, hupload⟩
    have hspec := @retireStaticUploads_spec cfg s allocates opened (some signal) value
    generalize s.retireStaticUploads cfg allocates opened (some signal) value = result at hspec ⊢
    cases hspec with
    | refused reason =>
      have hforgotten := h.forget hnone
      exact hforgotten.same (hforgotten.directory.congr ⟨rfl, rfl, rfl, rfl, rfl, rfl⟩)
        (hforgotten.atlas.rewrite ⟨rfl, rfl, fun _ h => h, rfl, Nat.le_refl _⟩ (.of_eq rfl))
        (.of_eq rfl rfl rfl (Nat.le_refl _) rfl)
    | retired _ hbatch => exact h.retired hbatch _ _

end PackageStore

end War3VK.GpuSkin
