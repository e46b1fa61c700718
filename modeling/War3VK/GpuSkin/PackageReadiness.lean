import Mathlib.Data.List.DropRight
import War3VK.GpuSkin.PackageMoves

/-!
# A batch of uploads is retired as a whole

`retireStaticUploads` with each of its allocations on its own: any of them may fail, also after some
uploads were checked. It is the call of `PackageStore` when none fails
(`retireStaticUploadsAllocating_true`).
-/

namespace War3VK.GpuSkin

open PackageStore

namespace PackageStore

variable (cfg : StoreSetup) (allocates : ℕ → Bool)

/-- The checks of a batch, with the allocation of a record after those of its upload; `turn` counts
the uploads. -/
def prepareRetirementsAllocating (s : PackageStore) :
    ℕ → List GpuSkinStaticUpload → List GpuSkinStaticUpload →
      Except GpuSkinFallbackReason (List (GpuSkinStaticUpload × ℕ))
  | _, _, [] => .ok []
  | turn, earlier, upload :: rest =>
    if !wellFormedUpload upload then .error .outputLeaseUnretired
    else if earlier.any (·.key = upload.key) then .error .staticResourceInvalid
    else
      match s.uploadTarget cfg upload with
      | none => .error .staticResourceInvalid
      | some object =>
        if !allocates turn then .error .outputLeaseUnretired
        else
          match prepareRetirementsAllocating s (turn + 1) (earlier ++ [upload]) rest with
          | .error reason => .error reason
          | .ok prepared => .ok ((upload, object) :: prepared)

/-- `retireStaticUploads`: `reserves` tells of the list of the records, `allocates` of each record,
and `grows` of the room among the retired uploads. -/
def retireStaticUploadsAllocating (reserves grows : Bool) (uploads : List GpuSkinStaticUpload)
    (fence : Option ℕ) (value : UInt64) (s : PackageStore) : Bool × PackageStore :=
  match fence with
  | none => (false, s.recordFallback .outputLeaseUnretired)
  | some fence =>
    if uploads = [] ∨ value = 0 ∨ uploads.length > cfg.missQueueCapacity then
      (false, s.recordFallback .outputLeaseUnretired)
    else if !reserves then (false, s.recordFallback .outputLeaseUnretired)
    else
      match s.prepareRetirementsAllocating cfg allocates 0 [] uploads with
      | .error reason => (false, s.recordFallback reason)
      | .ok prepared =>
        if !grows then (false, s.recordFallback .outputLeaseUnretired)
        else (true, s.commitRetirements fence value prepared)

end PackageStore

variable {cfg : StoreSetup} {allocates : ℕ → Bool} {s : PackageStore}

theorem prepareRetirementsAllocating_ok {uploads earlier : List GpuSkinStaticUpload} {turn : ℕ}
    {prepared : List (GpuSkinStaticUpload × ℕ)}
    (h : s.prepareRetirementsAllocating cfg allocates turn earlier uploads = .ok prepared) :
    s.prepareRetirements cfg earlier uploads = .ok prepared := by
  induction uploads generalizing turn earlier prepared with
  | nil => exact h
  | cons upload uploads ih =>
    rw [prepareRetirementsAllocating] at h
    rw [prepareRetirements]
    by_cases hformed : (!wellFormedUpload upload) = true
    · rw [if_pos hformed] at h
      cases h
    by_cases htwice : earlier.any (·.key = upload.key) = true
    · rw [if_neg hformed, if_pos htwice] at h
      cases h
    rw [if_neg hformed, if_neg htwice] at h ⊢
    cases htarget : s.uploadTarget cfg upload with
    | none => simp [htarget] at h
    | some object =>
      simp only [htarget] at h
      by_cases hallocated : (!allocates turn) = true
      · rw [if_pos hallocated] at h
        cases h
      rw [if_neg hallocated] at h
      cases hrest : s.prepareRetirementsAllocating cfg allocates (turn + 1) (earlier ++ [upload])
          uploads with
      | error reason => simp [hrest] at h
      | ok rest =>
        simp only [hrest, Except.ok.injEq] at h
        simp only [ih hrest, h]

theorem prepareRetirementsAllocating_recordFallback (reason : GpuSkinFallbackReason)
    (uploads : List GpuSkinStaticUpload) (turn : ℕ) (earlier : List GpuSkinStaticUpload) :
    (s.recordFallback reason).prepareRetirementsAllocating cfg allocates turn earlier uploads =
      s.prepareRetirementsAllocating cfg allocates turn earlier uploads := by
  induction uploads generalizing turn earlier with
  | nil => rfl
  | cons upload uploads ih =>
    rw [prepareRetirementsAllocating, prepareRetirementsAllocating, ih]
    rfl

theorem retireStaticUploadsAllocating_recordFallback (reason : GpuSkinFallbackReason)
    (reserves grows : Bool) (uploads : List GpuSkinStaticUpload) (fence : Option ℕ)
    (value : UInt64) :
    ((s.recordFallback reason).retireStaticUploadsAllocating cfg allocates reserves grows uploads
        fence value).1 =
      (s.retireStaticUploadsAllocating cfg allocates reserves grows uploads fence value).1 := by
  unfold retireStaticUploadsAllocating
  cases fence with
  | none => rfl
  | some fence =>
    dsimp only
    rw [prepareRetirementsAllocating_recordFallback]
    split
    · rfl
    · split
      · rfl
      · cases s.prepareRetirementsAllocating cfg allocates 0 [] uploads with
        | error reason => rfl
        | ok prepared =>
          dsimp only
          split <;> rfl

theorem retireStaticUploadsAllocating_spec (reserves grows : Bool)
    (uploads : List GpuSkinStaticUpload) (fence : Option ℕ) (value : UInt64) :
    RetireSpec cfg s uploads fence value
      (s.retireStaticUploadsAllocating cfg allocates reserves grows uploads fence value) := by
  unfold retireStaticUploadsAllocating
  split
  · exact .refused _
  · split
    · exact .refused _
    · split
      · exact .refused _
      · split
        · exact .refused _
        · rename_i hprepared
          split
          · exact .refused _
          · exact .retired rfl (prepareRetirements_spec (prepareRetirementsAllocating_ok hprepared))

structure Retired (cfg : StoreSetup) (s s' : PackageStore) (uploads : List GpuSkinStaticUpload)
    (signal : ℕ) (value : UInt64) (prepared : List (GpuSkinStaticUpload × ℕ)) : Prop where
  /-- Every upload had the resource that awaited it. -/
  batch : BatchSpec cfg s uploads prepared
  /-- Every upload is retired, in the order of the batch. -/
  queue : s'.retiredStaticUploads = s.retiredStaticUploads ++
    prepared.map fun item => retirementOf signal value item.1 item.2
  /-- Their resources are submitted, and no other one changes. -/
  resources : ∀ object, s'.heap[object]? =
    if object ∈ prepared.map Prod.snd then s.heap[object]?.map submitted else s.heap[object]?
  rest : s' = { s with
    heap := s'.heap
    retiredStaticUploads := s'.retiredStaticUploads
    diagnostics := s'.diagnostics }

/-- A batch is retired as a whole, or nothing but the counters changes, and the call can be made
again. -/
theorem retirementAtomic (cfg : StoreSetup) (s : PackageStore) (allocates : ℕ → Bool)
    (reserves grows : Bool) (uploads : List GpuSkinStaticUpload) (fence : Option ℕ)
    (value : UInt64) :
    ((s.retireStaticUploadsAllocating cfg allocates reserves grows uploads fence value).1 = true →
        ∃ signal prepared, fence = some signal ∧ Retired cfg s
          (s.retireStaticUploadsAllocating cfg allocates reserves grows uploads fence value).2
            uploads signal value prepared) ∧
      ((s.retireStaticUploadsAllocating cfg allocates reserves grows uploads fence value).1 = false →
        { (s.retireStaticUploadsAllocating cfg allocates reserves grows uploads fence value).2 with
            diagnostics := s.diagnostics } = s ∧
          ∀ allocates' reserves' grows',
            ((s.retireStaticUploadsAllocating cfg allocates reserves grows uploads fence
              value).2.retireStaticUploadsAllocating cfg allocates' reserves' grows' uploads fence
                value).1 =
              (s.retireStaticUploadsAllocating cfg allocates' reserves' grows' uploads fence
                value).1) := by
  have hspec := @retireStaticUploadsAllocating_spec cfg allocates s reserves grows uploads fence value
  generalize s.retireStaticUploadsAllocating cfg allocates reserves grows uploads fence value =
    result at hspec ⊢
  cases hspec with
  | refused reason =>
    refine ⟨nofun, fun _ => ⟨rfl, fun allocates' reserves' grows' => ?_⟩⟩
    exact retireStaticUploadsAllocating_recordFallback reason reserves' grows' uploads fence value
  | @retired signal prepared hfence hbatch =>
    have hstate := @commitRetirements_state s signal value prepared
    refine ⟨fun _ => ⟨signal, prepared, hfence, hbatch, ?_, ?_, ?_⟩, nofun⟩
    · exact congrArg PackageStore.retiredStaticUploads hstate
    · exact commitRetirements_heap signal value prepared
    · rw [hstate]

end War3VK.GpuSkin

/-!
## Readiness is proved by the resource's own upload

A lookup or a probe reports a resource only when that very resource's pending upload was retired against
a fence, after that a poll saw the fence at the value of the retirement or beyond, and no epoch changed
from the retirement on (`ready_of_retired_and_polled`).
-/

namespace War3VK.GpuSkin

open War3VK.Lib

abbrev StoreRecord := Record PackageStore StoreCall StoreOutput

/-- The call retires the pending upload of a resource against a value of a fence. -/
def Retires (cfg : StoreSetup) (r : StoreRecord) (object : ℕ) (content : GpuSkinStaticResource)
    (fence : ℕ) (value : UInt64) : Prop :=
  ∃ allocates uploads, r.call = .retireStaticUploads allocates uploads (some fence) value ∧
    r.output = .flag true ∧ ∃ upload ∈ uploads, r.before.find upload.key = some object ∧
      ∃ resource, r.before.heap[object]? = some resource ∧
        PackageStore.exactPendingUpload cfg upload resource = true ∧ resource.content = content

def Polls (r : StoreRecord) (fence : ℕ) (value : UInt64) : Prop :=
  ∃ getFenceValue, r.call = .pollRetired getFenceValue ∧ ∃ turn, value ≤ getFenceValue turn fence

def InEpoch (content : GpuSkinStaticResource) (r : StoreRecord) : Prop :=
  r.call.clears = false ∧ r.before.mapEpoch = content.key.mapEpoch ∧
    r.before.deviceEpoch = content.key.deviceEpoch

/-- The upload of a resource was retired, and everything since was in the resource's epochs. -/
def Submitted (cfg : StoreSetup) (past : List StoreRecord) (object : ℕ)
    (content : GpuSkinStaticResource) (fence : ℕ) (value : UInt64) : Prop :=
  ∃ before r after, past = before ++ r :: after ∧ Retires cfg r object content fence value ∧
    ∀ x ∈ r :: after, InEpoch content x

/-- The upload of a resource was retired and later seen complete, and everything since the retirement
was in the resource's epochs. -/
def Completed (cfg : StoreSetup) (past : List StoreRecord) (object : ℕ)
    (content : GpuSkinStaticResource) : Prop :=
  ∃ fence value before r between p after, past = before ++ r :: between ++ p :: after ∧
    Retires cfg r object content fence value ∧ Polls p fence value ∧
      ∀ x ∈ r :: between ++ p :: after, InEpoch content x

variable {cfg : StoreSetup} {past : List StoreRecord} {object fence : ℕ} {value : UInt64}
  {content : GpuSkinStaticResource} {r : StoreRecord}

theorem Submitted.concat (h : Submitted cfg past object content fence value)
    (hr : InEpoch content r) : Submitted cfg (past ++ [r]) object content fence value := by
  obtain ⟨before, x, after, rfl, hx, hepoch⟩ := h
  refine ⟨before, x, after ++ [r], by simp, hx, fun y hy => ?_⟩
  rw [← List.cons_append, List.mem_append, List.mem_singleton] at hy
  rcases hy with hy | rfl
  · exact hepoch y hy
  · exact hr

theorem Completed.concat (h : Completed cfg past object content) (hr : InEpoch content r) :
    Completed cfg (past ++ [r]) object content := by
  obtain ⟨fence, value, before, x, between, p, after, rfl, hx, hp, hepoch⟩ := h
  refine ⟨fence, value, before, x, between, p, after ++ [r], by simp, hx, hp, fun y hy => ?_⟩
  rw [← List.cons_append, ← List.append_assoc, List.mem_append, List.mem_singleton] at hy
  rcases hy with hy | rfl
  · exact hepoch y hy
  · exact hr

theorem Submitted.complete (h : Submitted cfg (past ++ [r]) object content fence value)
    (hp : Polls r fence value) : Completed cfg (past ++ [r]) object content := by
  obtain ⟨before, x, after, hpast, hx, hepoch⟩ := h
  rcases List.eq_nil_or_concat after with rfl | ⟨between, p, rfl⟩
  · -- The poll is no retirement.
    obtain ⟨-, hr⟩ := List.append_inj' hpast rfl
    cases hr
    obtain ⟨allocates, uploads, hcall, -⟩ := hx
    obtain ⟨getFenceValue, hpoll, -⟩ := hp
    rw [hcall] at hpoll
    cases hpoll
  · have hlast : past ++ [r] = (before ++ x :: between) ++ [p] := by simpa using hpast
    obtain ⟨-, hr⟩ := List.append_inj' hlast rfl
    cases hr
    refine ⟨fence, value, before, x, between, r, [], by simpa using hpast, hx, hp, fun y hy => ?_⟩
    exact hepoch y (by simpa using hy)

namespace PackageStore

variable {s s' : PackageStore} {call : StoreCall}

structure Readiness (cfg : StoreSetup) (s : PackageStore) (past : List StoreRecord) : Prop where
  /-- The retirements of the resources that have a key. -/
  submitted : ∀ entry ∈ s.staticResources, ∀ resource, s.heap[entry.2]? = some resource →
    ∀ retirement ∈ s.retiredStaticUploads, retirement.publicationResource = some entry.2 →
      Submitted cfg past entry.2 resource.content retirement.fence retirement.retireValue
  ready : ∀ entry ∈ s.staticResources, ∀ resource, s.heap[entry.2]? = some resource →
    resource.state = .ready → Completed cfg past entry.2 resource.content

theorem Directory.inEpoch (h : Directory s) {entry : GpuSkinStaticResourceKey × ℕ}
    (hentry : entry ∈ s.staticResources) {resource : GpuSkinStaticResource}
    (hresource : s.heap[entry.2]? = some resource) (hcall : call.clears = false) :
    InEpoch resource.content (record (storeStep cfg) s call) := by
  obtain ⟨other, hother, hkey⟩ := h.refs entry hentry
  rw [hresource, Option.some.injEq] at hother
  obtain ⟨hmap, hdevice, -⟩ := h.current entry hentry
  subst hother
  exact ⟨hcall, by rw [← hkey] at hmap; exact hmap.symm, by rw [← hkey] at hdevice; exact hdevice.symm⟩

section

variable (h : Readiness cfg s past)
include h

theorem Readiness.concat (hdirectory : Directory s) (hcall : call.clears = false) :
    Readiness cfg s (past ++ [record (storeStep cfg) s call]) where
  submitted entry hentry resource hresource retirement hmem hobject :=
    (h.submitted entry hentry resource hresource retirement hmem hobject).concat
      (hdirectory.inEpoch hentry hresource hcall)
  ready entry hentry resource hresource hready :=
    (h.ready entry hentry resource hresource hready).concat
      (hdirectory.inEpoch hentry hresource hcall)

theorem Readiness.congr (hsame : SameDirectory s s') : Readiness cfg s' past := by
  obtain ⟨hsubmitted, hready⟩ := h
  constructor
  · rw [hsame.staticResources, hsame.heap, hsame.retiredStaticUploads]
    exact hsubmitted
  · rw [hsame.staticResources, hsame.heap]
    exact hready

theorem Readiness.emplace (hdirectory : Directory s) {resource : GpuSkinStaticResource}
    (hstate : resource.state ≠ .ready) : Readiness cfg (s.emplace resource) past where
  submitted entry hentry other hother retirement hmem hobject := by
    rcases mem_emplace.mp hentry with hentry | rfl
    · rw [emplace_heap_of_lt (hdirectory.lt hentry)] at hother
      exact h.submitted entry hentry other hother retirement hmem hobject
    · obtain ⟨old, hold, -⟩ := hdirectory.retired retirement hmem _ hobject
      exact absurd (List.getElem?_eq_some_iff.mp hold).choose (Nat.lt_irrefl _)
  ready entry hentry other hother hready := by
    rcases mem_emplace.mp hentry with hentry | rfl
    · rw [emplace_heap_of_lt (hdirectory.lt hentry)] at hother
      exact h.ready entry hentry other hother hready
    · rw [emplace_heap_length, Option.some.injEq] at hother
      exact absurd (hother ▸ hready) hstate

theorem Readiness.turn (hdirectory : Directory s) {miss : QueuedStaticMiss}
    (hturn : TurnSpec cfg s miss s') : Readiness cfg s' past := by
  cases hturn with
  | skipped => exact h
  | threw _ hground => exact h.congr hground.sameDirectory
  | @refused ground _ hground =>
    have hnext : Readiness cfg (ground.emplace (.rejected miss.key miss.record)) past :=
      (h.congr hground.sameDirectory).emplace (hdirectory.congr hground.sameDirectory) nofun
    exact hnext.congr ⟨rfl, rfl, rfl, rfl, rfl, rfl⟩
  | @created ground resource _ hcreated =>
    have hnext : Readiness cfg (ground.emplace resource) past :=
      (h.congr hcreated.sameDirectory).emplace (hdirectory.congr hcreated.sameDirectory)
        (by rw [hcreated.state]; nofun)
    exact hnext.congr ⟨rfl, rfl, rfl, rfl, rfl, rfl⟩

theorem Readiness.write {object : ℕ} {f : GpuSkinStaticResource → GpuSkinStaticResource}
    (hcontent : ∀ r, (f r).content = r.content)
    (hready : ∀ entry ∈ s.staticResources, entry.2 = object → ∀ resource,
      s.heap[object]? = some resource → (f resource).state = .ready →
        Completed cfg past object resource.content) (counters : StoreDiagnostics) :
    Readiness cfg { s.write object f with diagnostics := counters } past where
  submitted entry hentry resource hresource retirement hmem hobject := by
    rw [PackageStore.write, List.getElem?_modify, Option.map_eq_map, Option.map_eq_some_iff] at hresource
    obtain ⟨old, hold, rfl⟩ := hresource
    have hsubmitted := h.submitted entry hentry old hold retirement hmem hobject
    split
    · rwa [hcontent]
    · exact hsubmitted
  ready entry hentry resource hresource hstate := by
    rw [PackageStore.write, List.getElem?_modify, Option.map_eq_map, Option.map_eq_some_iff] at hresource
    obtain ⟨old, hold, rfl⟩ := hresource
    split at hstate
    · rename_i hobject
      rw [if_pos hobject, hcontent, ← hobject]
      exact hready entry hentry hobject.symm old (hobject ▸ hold) hstate
    · rename_i hobject
      rw [if_neg hobject]
      exact h.ready entry hentry old hold hstate

theorem Readiness.retire (hdirectory : Directory s) {uploads : List GpuSkinStaticUpload}
    {prepared : List (GpuSkinStaticUpload × ℕ)} (hbatch : BatchSpec cfg s uploads prepared)
    {signal : ℕ} {value : UInt64} {allocates : Bool}
    (houtput : (storeStep cfg (.retireStaticUploads allocates uploads (some signal) value) s).1 =
      .flag true) :
    Readiness cfg (s.commitRetirements signal value prepared) (past ++
      [record (storeStep cfg) s (.retireStaticUploads allocates uploads (some signal) value)]) := by
  set r := record (storeStep cfg) s (.retireStaticUploads allocates uploads (some signal) value)
    with hr
  have hpast : Readiness cfg s (past ++ [r]) := h.concat hdirectory rfl
  have hheap := @commitRetirements_heap s signal value prepared
  -- What the heap has after the batch, it had before with the same content, and nothing got ready.
  have hold : ∀ (object : ℕ) (resource : GpuSkinStaticResource),
      (s.commitRetirements signal value prepared).heap[object]? = some resource →
        ∃ old, s.heap[object]? = some old ∧ resource.content = old.content ∧
          (resource.state = .ready → old.state = .ready) := by
    intro object resource hresource
    rw [hheap] at hresource
    split at hresource
    · obtain ⟨old, hold, rfl⟩ := Option.map_eq_some_iff.mp hresource
      exact ⟨old, hold, rfl, nofun⟩
    · exact ⟨resource, hresource, rfl, id⟩
  constructor
  · intro entry hentry resource hresource retirement hmem hobject
    rw [commitRetirements_state] at hentry hmem
    obtain ⟨old, hold, hcontent, -⟩ := hold _ _ hresource
    rw [hcontent]
    rcases List.mem_append.mp hmem with hmem | hmem
    · exact hpast.submitted entry hentry old hold retirement hmem hobject
    · obtain ⟨item, hitem, rfl⟩ := List.mem_map.mp hmem
      obtain ⟨hfind, found, hfound, hexact⟩ := hbatch.awaited item hitem
      have hitemObject : item.2 = entry.2 := Option.some.inj hobject
      rw [hitemObject] at hfind hfound
      have hupload : item.1 ∈ uploads := by
        rw [← hbatch.uploads]
        exact List.mem_map_of_mem hitem
      refine ⟨past, r, [], rfl, ⟨allocates, uploads, rfl, houtput, item.1, hupload, hfind, found,
        hfound, hexact, ?_⟩, ?_⟩
      · rw [hold, Option.some.injEq] at hfound
        rw [hfound]
      · simp only [List.mem_singleton, forall_eq]
        exact hdirectory.inEpoch hentry hold rfl
  · intro entry hentry resource hresource hready
    rw [commitRetirements_state] at hentry
    obtain ⟨old, hold, hcontent, hstate⟩ := hold _ _ hresource
    rw [hcontent]
    exact hpast.ready entry hentry old hold (hstate hready)

end

theorem Readiness.complete (h : Readiness cfg s (past ++ [r])) {retirement : RetiredStaticUpload}
    (hmem : retirement ∈ s.retiredStaticUploads)
    (hpoll : Polls r retirement.fence retirement.retireValue)
    (hspec : CompleteSpec cfg s retirement s') : Readiness cfg s' (past ++ [r]) := by
  cases hspec with
  | quiet counters => exact h.congr ⟨rfl, rfl, rfl, rfl, rfl, rfl⟩
  | @published object found counters hobject hfound hexact =>
    refine h.write (f := published cfg) (fun _ => rfl) ?_ counters
    intro entry hentry hentryObject resource hresource _
    subst hentryObject
    exact (h.submitted entry hentry resource hresource retirement hmem hobject).complete hpoll
  | invalidated counters _ =>
    exact h.write (f := invalidated) (fun _ => rfl) (fun _ _ _ _ _ => nofun) counters

theorem Readiness.move (h : Readiness cfg s (past ++ [r])) (hdirectory : Directory s)
    (hcall : r.call.clears = false)
    (hretire : ∀ allocates uploads fence value, r.call ≠ .retireStaticUploads allocates uploads fence value)
    (hmove : Move cfg r.call s s') : Readiness cfg s' (past ++ [r]) := by
  generalize hkind : r.call = call at hmove hcall
  cases hmove with
  | epochs _ _ => exact ⟨h.submitted, h.ready⟩
  | cleared _ _ _ _ hclears => rw [hclears] at hcall; cases hcall
  | looked counters _ _ => exact ⟨h.submitted, h.ready⟩
  | @turned _ _ _ _ miss rest hmisses hturn =>
    have hskip : Readiness cfg { s with staticMisses := rest } (past ++ [r]) :=
      ⟨h.submitted, h.ready⟩
    exact hskip.turn (hdirectory.skip hmisses) hturn
  | taken => exact ⟨h.submitted, h.ready⟩
  | retired _ _ => exact absurd hkind (hretire _ _ _ _)
  | completed hmem hreached hspec => exact h.complete hmem ⟨_, hkind, _, hreached⟩ hspec
  | forgotten hkept =>
    exact ⟨fun entry hentry resource hresource retirement hmem =>
      h.submitted entry hentry resource hresource retirement (hkept.subset hmem), h.ready⟩

theorem Readiness.step (h : Readiness cfg s past) (hdirectory : Directory s) (call : StoreCall) :
    Readiness cfg (storeStep cfg call s).2 (past ++ [record (storeStep cfg) s call]) := by
  by_cases hclears : call.clears = true
  · -- Nothing has a key afterwards.
    have hnone : (storeStep cfg call s).2.staticResources = [] := by
      cases call <;> first | rfl | cases hclears
    constructor <;> intro entry hentry <;> rw [hnone] at hentry <;> cases hentry
  · rw [Bool.not_eq_true] at hclears
    by_cases hretire : ∃ allocates uploads fence value,
        call = .retireStaticUploads allocates uploads fence value
    · obtain ⟨allocates, uploads, fence, value, rfl⟩ := hretire
      have hmove := @retireStaticUploads_move cfg s allocates uploads fence value
      show Readiness cfg (s.retireStaticUploads cfg allocates uploads fence value).2 _
      generalize hkind : StoreCall.retireStaticUploads allocates uploads fence value = call at *
      generalize (s.retireStaticUploads cfg allocates uploads fence value).2 = s' at *
      cases hmove with
      | retired houtput hbatch => exact h.retire hdirectory hbatch houtput
      | looked counters _ _ =>
        obtain ⟨hsubmitted, hready⟩ := h.concat hdirectory hclears
        exact ⟨hsubmitted, hready⟩
      | cleared _ _ _ _ hother => rw [hother] at hclears; cases hclears
      | epochs _ _ => cases hkind
      | turned _ _ => cases hkind
      | taken => cases hkind
      | completed _ _ _ => cases hkind
      | forgotten _ => cases hkind
    · have hstart : Directory s ∧ Readiness cfg s (past ++ [record (storeStep cfg) s call]) :=
        ⟨hdirectory, h.concat hdirectory hclears⟩
      refine (storeStep_induction (P := fun t => Directory t ∧
        Readiness cfg t (past ++ [record (storeStep cfg) s call])) call s ?_ hstart).2
      intro t t' hmove ht
      exact ⟨ht.1.move hmove, ht.2.move ht.1 hclears
        (fun allocates uploads fence value hcall => hretire ⟨_, _, _, _, hcall⟩) hmove⟩

theorem FoundReady.entry (h : FoundReady s object) : ∃ entry ∈ s.staticResources,
    entry.2 = object ∧ ∃ resource, s.heap[object]? = some resource ∧ resource.state = .ready := by
  obtain ⟨key, resource, hfind, hresource, hready⟩ := h
  exact ⟨(key, object), mem_of_find hfind, rfl, resource, hresource, hready⟩

theorem storeStep_lookup {result : GpuSkinStaticLookup}
    (h : (storeStep cfg call s).1 = .lookup result) (hobject : result.resource = some object) :
    FoundReady s object := by
  cases call with
  | findOrQueueStatic cache record layoutGeneration =>
    cases h
    exact (findOrQueueStatic_spec cache record layoutGeneration).found object hobject
  | probeStatic cache stamp layoutGeneration =>
    cases h
    exact (probeStatic_spec cache stamp layoutGeneration).found object hobject
  | _ => cases h

end PackageStore

open PackageStore in
/-- In any run of a new store, a resource that a lookup or a probe reports is ready and of the current
epochs, its own pending upload was retired against a value of a fence, a later poll saw that value or
a later one, and from the retirement on every call was made in these epochs and dropped nothing. -/
theorem ready_of_retired_and_polled (cfg : StoreSetup) (device : Bool) (alignment : ℕ)
    (calls : List StoreCall) {before after : List StoreRecord} {r : StoreRecord}
    (h : history (storeStep cfg) calls (init device alignment) = before ++ r :: after)
    {result : GpuSkinStaticLookup} (hlookup : r.output = .lookup result) {object : ℕ}
    (hobject : result.resource = some object) :
    ∃ resource, r.before.heap[object]? = some resource ∧ resource.state = .ready ∧
      resource.key.mapEpoch = r.before.mapEpoch ∧ resource.key.deviceEpoch = r.before.deviceEpoch ∧
      Completed cfg before object resource.content := by
  obtain ⟨earlier, call, later, -, hbefore, hr, -⟩ := history_split (storeStep cfg) h
  obtain ⟨hdirectory, hreadiness⟩ := @history_induction _ _ _ (storeStep cfg)
    (fun t past => Directory t ∧ Readiness cfg t past) (init device alignment)
    ⟨Directory.init device alignment, fun _ h => (nomatch h), fun _ h => (nomatch h)⟩
    (fun t past call ht => ⟨ht.1.step call, ht.2.step ht.1 call⟩) earlier
  subst hr hbefore
  obtain ⟨entry, hentry, rfl, resource, hresource, hready⟩ := (storeStep_lookup hlookup hobject).entry
  obtain ⟨other, hother, hkey⟩ := hdirectory.refs entry hentry
  rw [hresource, Option.some.injEq] at hother
  subst hother
  obtain ⟨hmap, hdevice, -⟩ := hdirectory.current entry hentry
  rw [← hkey] at hmap hdevice
  exact ⟨resource, hresource, hready, hmap, hdevice, hreadiness.ready entry hentry _ hresource hready⟩

def triangle : ShadowGeosetResourceRecord where
  geosetDataPtr := 0x1000
  vertexCount := 3
  positions := [0, 0, 0, 0x3f800000, 0, 0, 0, 0x3f800000, 0]
  normalCount := 3
  normals := [0, 0, 0x3f800000, 0, 0, 0x3f800000, 0, 0, 0x3f800000]
  vertexGroupCount := 3
  vertexGroupIndices := [0, 0, 0]
  uvLayerCount := 0
  uvLayers := []
  primitiveCount := 1
  primitiveRecords := [⟨4, 3⟩]
  indexCount := 3
  indices := [0, 1, 2]
  matrixGroupCount := 1
  matrixGroupSizes := [1]
  matrixIndexCount := 1
  matrixIndices := [0]
  contentHash := 7
  mapEpoch := 1
  immutableModelGeneration := 1
  immutableCaptureStatus := .complete

def smallSetup : StoreSetup := ⟨4096, 8, 1, continuePersistentGpuPackageContentHash⟩

def triangleCache : ModelCache := fun _ => some ⟨1, triangle⟩

def willingDevice : ℕ → DeviceAnswers := fun _ => ⟨.created, .created, true, 9⟩

def findTriangle : StoreCall := .findOrQueueStatic triangleCache (some ⟨1, triangle⟩) 1

def prepareTriangle : List StoreCall :=
  [.beginFrame 1 1 1, findTriangle, .prepareQueuedStaticResources willingDevice 1]

def uploadTriangle : List StoreCall :=
  prepareTriangle ++ [.takeStaticUploads, .retireStaticUploads true
    (run (storeStep smallSetup) prepareTriangle (.init true 16)).readyStaticUploads (some 0) 5,
    .pollRetired fun _ _ => 5]

/-- The triangle is found ready after its upload. -/
theorem triangle_of_retired_and_polled :
    ∃ resource, (run (storeStep smallSetup) uploadTriangle (.init true 16)).heap[0]? =
        some resource ∧ resource.state = .ready ∧
      resource.key.mapEpoch =
        (run (storeStep smallSetup) uploadTriangle (.init true 16)).mapEpoch ∧
      resource.key.deviceEpoch =
        (run (storeStep smallSetup) uploadTriangle (.init true 16)).deviceEpoch ∧
      Completed smallSetup (history (storeStep smallSetup) uploadTriangle (.init true 16)) 0
        resource.content :=
  ready_of_retired_and_polled smallSetup true 16 (uploadTriangle ++ [findTriangle])
    (history_append (storeStep smallSetup) uploadTriangle [findTriangle] _)
    (show _ = StoreOutput.lookup ⟨some 0, .none⟩ by decide +kernel) rfl

end War3VK.GpuSkin
