import Mathlib.Algebra.BigOperators.Group.List.Basic
import War3VK.GpuSkin.PackageStoreSpec
import War3VK.GpuSkin.SkinResources

/-!
# The books of the upload pages

An upload page is active, pending, retired or idle. The books (`UploadBooks`) say that the accounted
bytes are the capacities of all pages and inside the budget, that no page is in two places, and that the
slices that were handed out and whose page was not rewound since are apart from each other, on the
alignment and before their page's cursor.
-/

namespace War3VK.GpuSkin

variable {page : UploadPage}

namespace SkinResources

def writtenPages (s : SkinResources) : List UploadPage :=
  s.activeUpload.toList ++ s.pendingUploads ++ s.retiredUploads

def uploadPages (s : SkinResources) : List UploadPage := s.writtenPages ++ s.idleUploads

variable {s : SkinResources}

theorem mem_writtenPages : page ∈ s.writtenPages ↔
    s.activeUpload = some page ∨ page ∈ s.pendingUploads ∨ page ∈ s.retiredUploads := by
  rw [writtenPages, List.mem_append, List.mem_append, Option.mem_toList, or_assoc]

theorem mem_uploadPages : page ∈ s.uploadPages ↔
    s.activeUpload = some page ∨ page ∈ s.pendingUploads ∨ page ∈ s.retiredUploads ∨
      page ∈ s.idleUploads := by
  rw [uploadPages, List.mem_append, mem_writtenPages, or_assoc, or_assoc]

theorem mem_uploadPages_of_written (h : page ∈ s.writtenPages) :
    page ∈ s.uploadPages := List.mem_append_left _ h

theorem mem_uploadPages_of_idle (h : page ∈ s.idleUploads) :
    page ∈ s.uploadPages := List.mem_append_right _ h

theorem mem_written_of_retired (h : page ∈ s.retiredUploads) :
    page ∈ s.writtenPages := List.mem_append_right _ h

end SkinResources

namespace UploadLedger

open SkinResources PackageStore

def stamp (page : UploadPage) : Buffer × ℕ := (page.buffer, page.capacity)

/-- The page of a slice did not leave the retired ones, which is when it is rewound. -/
def stays (before after : List UploadPage) (slice : BufferSlice) : Bool :=
  before.all fun page => slice.buffer ≠ some page.buffer || after.any (·.buffer = page.buffer)

structure SliceBooks (s : SkinResources) (slice : BufferSlice) (buffer : Buffer) : Prop where
  isOn : slice.buffer = some buffer
  aligned : s.storageBufferOffsetAlignment ∣ slice.offset
  created : buffer.identity < s.buffers
  before : ∀ page ∈ s.writtenPages, page.buffer = buffer → slice.offset + slice.length ≤ page.cursor
  notIdle : ∀ page ∈ s.idleUploads, page.buffer ≠ buffer

def Apart (a b : BufferSlice) : Prop := a.buffer = b.buffer → a.offset + a.length ≤ b.offset

/-- The books of the upload pages, with the slices whose page was not rewound. -/
structure UploadBooks (cfg : ResourceSetup) (s : SkinResources) (slices : List BufferSlice) :
    Prop where
  accounted : s.uploadBytes = (s.uploadPages.map UploadPage.capacity).sum
  budget : s.uploadBytes ≤ cfg.uploadBytes
  unique : (s.uploadPages.map UploadPage.buffer).Nodup
  created : ∀ page ∈ s.uploadPages, page.buffer.identity < s.buffers
  fits : ∀ page ∈ s.uploadPages, page.cursor ≤ page.capacity
  alignment : 0 < s.storageBufferOffsetAlignment
  handed : ∀ slice ∈ slices, ∃ buffer, SliceBooks s slice buffer
  apart : slices.Pairwise Apart

structure Moved (s s' : SkinResources) (gone : List (Buffer × ℕ)) : Prop where
  /-- All pages are there, but for those that ended. -/
  stamps : (s.uploadPages.map stamp).Perm (s'.uploadPages.map stamp ++ gone)
  bytes : s'.uploadBytes = s.uploadBytes - (gone.map Prod.snd).sum
  alignment : s'.storageBufferOffsetAlignment = s.storageBufferOffsetAlignment
  buffers : s.buffers ≤ s'.buffers
  fits : (∀ page ∈ s.uploadPages, page.cursor ≤ page.capacity) →
    ∀ page ∈ s'.uploadPages, page.cursor ≤ page.capacity
  /-- A page is written as it was or further, or was idle. -/
  written : ∀ page ∈ s'.writtenPages,
    (∃ old ∈ s.writtenPages, old.buffer = page.buffer ∧ old.cursor ≤ page.cursor) ∨
    ∃ old ∈ s.idleUploads, old.buffer = page.buffer
  /-- A page that is idle was so, or was retired and is no more. -/
  idle : ∀ page ∈ s'.idleUploads, (∃ old ∈ s.idleUploads, old.buffer = page.buffer) ∨
    (∃ old ∈ s.retiredUploads, old.buffer = page.buffer) ∧
      ∀ other ∈ s'.retiredUploads, other.buffer ≠ page.buffer

variable {cfg : ResourceSetup} {s s' s'' : SkinResources} {slices : List BufferSlice}
  {gone : List (Buffer × ℕ)}

theorem UploadBooks.moved (h : UploadBooks cfg s slices) (hmoved : Moved s s' gone) :
    UploadBooks cfg s' (slices.filter (stays s.retiredUploads s'.retiredUploads)) := by
  have hcapacities : (s.uploadPages.map UploadPage.capacity).sum =
      (s'.uploadPages.map UploadPage.capacity).sum + (gone.map Prod.snd).sum := by
    have hsum := (hmoved.stamps.map Prod.snd).sum_eq
    rw [List.map_append, List.sum_append, List.map_map, List.map_map] at hsum
    exact hsum
  have hbuffers : (s'.uploadPages.map UploadPage.buffer).Sublist
      ((s'.uploadPages.map stamp ++ gone).map Prod.fst) := by
    rw [List.map_append, List.map_map]
    exact List.sublist_append_left _ _
  have hnodup : ((s'.uploadPages.map stamp ++ gone).map Prod.fst).Nodup := by
    refine ((hmoved.stamps.map Prod.fst).nodup_iff).mp ?_
    rw [List.map_map]
    exact h.unique
  exact {
    accounted := by
      rw [hmoved.bytes, h.accounted, hcapacities]
      omega
    budget := by
      rw [hmoved.bytes]
      exact (Nat.sub_le _ _).trans h.budget
    unique := hnodup.sublist hbuffers
    created := by
      intro page hpage
      have hstamp : stamp page ∈ s.uploadPages.map stamp :=
        hmoved.stamps.mem_iff.mpr (List.mem_append_left _ (List.mem_map_of_mem hpage))
      obtain ⟨old, hold, heq⟩ := List.mem_map.mp hstamp
      have hbuffer : old.buffer = page.buffer := congrArg Prod.fst heq
      exact hbuffer ▸ (h.created old hold).trans_le hmoved.buffers
    fits := hmoved.fits h.fits
    alignment := hmoved.alignment ▸ h.alignment
    handed := by
      intro slice hslice
      obtain ⟨hslice, hstays⟩ := List.mem_filter.mp hslice
      obtain ⟨buffer, hbooks⟩ := h.handed slice hslice
      refine ⟨buffer, hbooks.isOn, hmoved.alignment ▸ hbooks.aligned,
        hbooks.created.trans_le hmoved.buffers, ?_, ?_⟩
      · intro page hpage hbuffer
        obtain ⟨old, hold, heq, hle⟩ | ⟨old, hold, heq⟩ := hmoved.written page hpage
        · exact (hbooks.before old hold (heq.trans hbuffer)).trans hle
        · exact absurd (heq.trans hbuffer) (hbooks.notIdle old hold)
      · intro page hpage hbuffer
        obtain ⟨old, hold, heq⟩ | ⟨⟨old, hold, heq⟩, hnone⟩ := hmoved.idle page hpage
        · exact hbooks.notIdle old hold (heq.trans hbuffer)
        · -- The page was rewound, and its slices are not in the books any more.
          have hkept := List.all_eq_true.mp hstays old hold
          rw [hbooks.isOn, heq, hbuffer] at hkept
          simp only [ne_eq, not_true_eq_false, decide_false, Bool.false_or, List.any_eq_true,
            decide_eq_true_eq] at hkept
          obtain ⟨other, hother, hsame⟩ := hkept
          exact hnone other hother (hsame.trans hbuffer.symm)
    apart := h.apart.sublist List.filter_sublist }

theorem filter_stays {before after : List UploadPage}
    (h : ∀ page ∈ before, ∃ other ∈ after, other.buffer = page.buffer) :
    slices.filter (stays before after) = slices := by
  refine List.filter_eq_self.mpr fun slice _ => List.all_eq_true.mpr fun page hpage => ?_
  obtain ⟨other, hother, heq⟩ := h page hpage
  rw [Bool.or_eq_true, List.any_eq_true]
  exact .inr ⟨other, hother, by simpa using heq⟩

theorem UploadBooks.moved_keeping (h : UploadBooks cfg s slices) (hmoved : Moved s s' gone)
    (hretired : ∀ page ∈ s.retiredUploads, ∃ other ∈ s'.retiredUploads,
      other.buffer = page.buffer) : UploadBooks cfg s' slices := by
  have hbooks := h.moved hmoved
  rwa [filter_stays hretired] at hbooks

structure SameUploads (s s' : SkinResources) : Prop where
  uploadBytes : s'.uploadBytes = s.uploadBytes
  activeUpload : s'.activeUpload = s.activeUpload
  pendingUploads : s'.pendingUploads = s.pendingUploads
  retiredUploads : s'.retiredUploads = s.retiredUploads
  idleUploads : s'.idleUploads = s.idleUploads
  alignment : s'.storageBufferOffsetAlignment = s.storageBufferOffsetAlignment
  buffers : s.buffers ≤ s'.buffers

theorem SameUploads.refl (s : SkinResources) : SameUploads s s :=
  ⟨rfl, rfl, rfl, rfl, rfl, rfl, le_refl _⟩

theorem SameUploads.trans (h : SameUploads s s') (h' : SameUploads s' s'') : SameUploads s s'' :=
  ⟨h'.1.trans h.1, h'.2.trans h.2, h'.3.trans h.3, h'.4.trans h.4, h'.5.trans h.5, h'.6.trans h.6,
    h.7.trans h'.7⟩

theorem UploadBooks.same (h : UploadBooks cfg s slices) (hsame : SameUploads s s') :
    UploadBooks cfg s' slices := by
  have hwritten : s'.writtenPages = s.writtenPages := by
    rw [writtenPages, writtenPages, hsame.activeUpload, hsame.pendingUploads, hsame.retiredUploads]
  have hpages : s'.uploadPages = s.uploadPages := by
    rw [uploadPages, uploadPages, hwritten, hsame.idleUploads]
  refine @UploadBooks.moved_keeping _ _ _ _ [] h ?_ ?_
  · exact {
      stamps := by rw [hpages, List.append_nil]
      bytes := by simpa using hsame.uploadBytes
      alignment := hsame.alignment
      buffers := hsame.buffers
      fits := by rw [hpages]; exact id
      written := by
        rw [hwritten]
        exact fun page hpage => .inl ⟨page, hpage, rfl, le_refl _⟩
      idle := by
        rw [hsame.idleUploads]
        exact fun page hpage => .inl ⟨page, hpage, rfl⟩ }
  · rw [hsame.retiredUploads]
    exact fun page hpage => ⟨page, hpage, rfl⟩

/-! ## Polling -/

def Seen (answers : PollAnswers) (page : UploadPage) : Prop :=
  ∃ turn fence, page.fence = some fence ∧ page.retireValue ≤ answers.getFenceValue turn fence

variable {answers : PollAnswers}

theorem seen_of_reached {turn : ℕ}
    (h : reached answers.getFenceValue turn page.fence page.retireValue = true) :
    Seen answers page := by
  unfold reached at h
  split at h
  · cases h
  · rename_i fence hfence
    exact ⟨turn, fence, hfence, by simpa using h⟩

/-- What the loop over the retired pages does: some are rewound and become idle, and one may end
when the idle pages cannot grow; the fence of each of them was seen. -/
structure PollSpec (answers : PollAnswers) (s s' : SkinResources)
    (rewound ended : List UploadPage) : Prop where
  retired : s.retiredUploads.Perm (s'.retiredUploads ++ rewound ++ ended)
  idle : s'.idleUploads = s.idleUploads ++ rewound.map recycle
  /-- The bytes of the one that ends are given back. -/
  bytes : s'.uploadBytes = s.uploadBytes - (ended.map UploadPage.capacity).sum
  seen : ∀ page ∈ rewound ++ ended, Seen answers page
  activeUpload : s'.activeUpload = s.activeUpload
  pendingUploads : s'.pendingUploads = s.pendingUploads
  alignment : s'.storageBufferOffsetAlignment = s.storageBufferOffsetAlignment
  buffers : s'.buffers = s.buffers

theorem pollUploads_spec (answers : PollAnswers) (kept rest : List UploadPage) (turn : ℕ)
    (hretired : s.retiredUploads = kept ++ rest) : ∃ rewound ended,
      PollSpec answers s (s.pollUploads answers kept rest turn).2.2 rewound ended := by
  induction rest generalizing kept turn s with
  | nil =>
    exact ⟨[], [], by simp [pollUploads], by simp [pollUploads], by simp [pollUploads], by simp,
      rfl, rfl, rfl, rfl⟩
  | cons page rest ih =>
    unfold pollUploads
    by_cases hreached : reached answers.getFenceValue turn page.fence page.retireValue = true
    · rw [if_pos hreached]
      dsimp only
      have hseen := seen_of_reached hreached
      by_cases hgrows : answers.idleGrows turn = true
      · rw [if_pos hgrows]
        -- The page is rewound, and the loop goes on with the rest.
        obtain ⟨rewound, ended, hspec⟩ := @ih { s with
          retiredUploads := kept ++ rest
          idleUploads := s.idleUploads ++ [recycle page] } kept (turn + 1) rfl
        refine ⟨page :: rewound, ended, ?_, ?_, hspec.bytes, ?_, hspec.activeUpload,
          hspec.pendingUploads, hspec.alignment, hspec.buffers⟩
        · rw [hretired]
          refine List.perm_middle.trans ((hspec.retired.cons page).trans ?_)
          rw [List.append_assoc, List.append_assoc, List.cons_append]
          exact List.perm_middle.symm
        · rw [hspec.idle, List.map_cons, List.append_assoc]
          rfl
        · intro other hother
          obtain rfl | hother := List.mem_cons.mp hother
          · exact hseen
          · exact hspec.seen other hother
      · rw [if_neg hgrows]
        refine ⟨[], [page], ?_, by simp, by simp, by simpa using hseen, rfl, rfl, rfl, rfl⟩
        rw [hretired, List.append_nil]
        exact List.perm_middle.trans (List.perm_append_singleton _ _).symm
    · rw [if_neg hreached]
      exact ih (kept ++ [page]) (turn + 1) (by rw [hretired, List.append_assoc]; rfl)

/-- What polling leaves: the books of the pages that were not rewound, and each retired page is still
so or was seen. -/
structure Polled (cfg : ResourceSetup) (answers : PollAnswers) (s : SkinResources)
    (slices : List BufferSlice) (s' : SkinResources) : Prop where
  books : UploadBooks cfg s' (slices.filter (stays s.retiredUploads s'.retiredUploads))
  /-- The pages that are not retired any more were seen. -/
  seen : ∀ page ∈ s.retiredUploads, page ∈ s'.retiredUploads ∨ Seen answers page

theorem Polled.of_books (h : UploadBooks cfg s' slices)
    (hretired : s'.retiredUploads = s.retiredUploads) : Polled cfg answers s slices s' where
  books := by
    rw [hretired, filter_stays fun page hpage => ⟨page, hpage, rfl⟩]
    exact h
  seen page hpage := .inl (hretired ▸ hpage)

theorem Polled.then_books (h : Polled cfg answers s slices s')
    (hbooks : ∀ kept, UploadBooks cfg s' kept → UploadBooks cfg s'' kept)
    (hretired : s''.retiredUploads = s'.retiredUploads) : Polled cfg answers s slices s'' where
  books := by
    rw [hretired]
    exact hbooks _ h.books
  seen := by
    rw [hretired]
    exact h.seen

theorem Polled.after (hretired : s'.retiredUploads = s.retiredUploads)
    (h : Polled cfg answers s' slices s'') : Polled cfg answers s slices s'' where
  books := hretired ▸ h.books
  seen := hretired ▸ h.seen

theorem PollSpec.moved {rewound ended : List UploadPage} (h : PollSpec answers s s' rewound ended)
    (hunique : (s.uploadPages.map UploadPage.buffer).Nodup) : Moved s s' (ended.map stamp) where
  stamps := by
    have hcount := fun x => (h.retired.map stamp).count_eq x
    rw [List.perm_iff_count]
    intro x
    specialize hcount x
    have hrecycle : (rewound.map recycle).map stamp = rewound.map stamp := by
      rw [List.map_map]
      rfl
    simp only [uploadPages, writtenPages, h.idle, h.activeUpload, h.pendingUploads,
      List.map_append, List.count_append, hrecycle] at hcount ⊢
    omega
  bytes := by
    rw [h.bytes, List.map_map]
    rfl
  alignment := h.alignment
  buffers := le_of_eq h.buffers.symm
  fits hfits page hpage := by
    obtain hpage | hpage := List.mem_append.mp hpage
    · refine hfits page (mem_uploadPages_of_written ?_)
      simp only [writtenPages, h.activeUpload, h.pendingUploads, List.mem_append] at hpage ⊢
      refine hpage.imp_right fun hretired => h.retired.mem_iff.mpr ?_
      exact List.mem_append_left _ (List.mem_append_left _ hretired)
    · rw [h.idle] at hpage
      obtain hpage | hpage := List.mem_append.mp hpage
      · exact hfits page (mem_uploadPages_of_idle hpage)
      · obtain ⟨old, -, rfl⟩ := List.mem_map.mp hpage
        exact Nat.zero_le _
  written page hpage := by
    refine .inl ⟨page, ?_, rfl, le_refl _⟩
    simp only [writtenPages, h.activeUpload, h.pendingUploads, List.mem_append] at hpage ⊢
    refine hpage.imp_right fun hretired => h.retired.mem_iff.mpr ?_
    exact List.mem_append_left _ (List.mem_append_left _ hretired)
  idle page hpage := by
    rw [h.idle] at hpage
    obtain hpage | hpage := List.mem_append.mp hpage
    · exact .inl ⟨page, hpage, rfl⟩
    · obtain ⟨old, hold, rfl⟩ := List.mem_map.mp hpage
      refine .inr ⟨⟨old, ?_, rfl⟩, fun other hother heq => ?_⟩
      · exact h.retired.mem_iff.mpr (List.mem_append_left _ (List.mem_append_right _ hold))
      · -- Two retired pages do not have one buffer.
        have hnodup : (s.retiredUploads.map UploadPage.buffer).Nodup := by
          refine hunique.sublist (List.Sublist.map _ ?_)
          exact (List.sublist_append_right _ _).trans (List.sublist_append_left _ _)
        rw [(h.retired.map UploadPage.buffer).nodup_iff, List.map_append, List.map_append] at hnodup
        have hdisjoint := List.nodup_append.mp (List.nodup_append.mp hnodup).1
        exact hdisjoint.2.2 _ (List.mem_map_of_mem hother) _ (List.mem_map_of_mem hold) heq

end UploadLedger

end War3VK.GpuSkin

/-!
## What the upload calls do to the books

The active page leaves its place, an idle one is reused or evicted, a new one is created, and slices are
handed out behind the cursor of the active page.
-/

namespace War3VK.GpuSkin.UploadLedger

open SkinResources PackageStore

variable {cfg : ResourceSetup} {s s' s'' : SkinResources} {slices : List BufferSlice}

/-! ### Polling -/

theorem completeOutput_same (lease : OutputLease) (s : SkinResources) :
    SameUploads s (s.completeOutput lease) := by
  unfold completeOutput
  split
  · split
    · exact ⟨rfl, rfl, rfl, rfl, rfl, rfl, le_refl _⟩
    · exact .refl s
  · exact .refl s

theorem pollOutputs_same (answers : PollAnswers) (kept rest : List OutputLease) (turn : ℕ)
    (s : SkinResources) : SameUploads s (s.pollOutputs answers kept rest turn) := by
  induction rest generalizing kept turn s with
  | nil => exact .refl s
  | cons lease rest ih =>
    unfold pollOutputs
    split
    · have hcomplete := completeOutput_same lease s
      have hmid : SameUploads s { s.completeOutput lease with retiredOutputs := kept ++ rest } :=
        ⟨hcomplete.1, hcomplete.2, hcomplete.3, hcomplete.4, hcomplete.5, hcomplete.6, hcomplete.7⟩
      exact hmid.trans (ih _ _ _)
    · exact ih _ _ _

theorem UploadBooks.pollRetired (h : UploadBooks cfg s slices) (answers : PollAnswers) :
    Polled cfg answers s slices (s.pollRetired cfg answers).2 := by
  unfold SkinResources.pollRetired
  split
  · exact .of_books h rfl
  · dsimp only
    generalize hpackages : s.persistentPackages.pollRetired cfg.store answers.getFenceValue = packages
    have hsame : SameUploads s { s with persistentPackages := packages } :=
      ⟨rfl, rfl, rfl, rfl, rfl, rfl, le_refl _⟩
    have hbooks := h.same hsame
    obtain ⟨rewound, ended, hspec⟩ := @pollUploads_spec { s with persistentPackages := packages }
      answers [] s.retiredUploads s.persistentPackages.retiredStaticUploads.length rfl
    have hpolled : Polled cfg answers s slices
        (({ s with persistentPackages := packages } : SkinResources).pollUploads answers []
          s.retiredUploads s.persistentPackages.retiredStaticUploads.length).2.2 := {
      books := hbooks.moved (hspec.moved hbooks.unique)
      seen := by
        intro page hpage
        obtain hpage | hpage := List.mem_append.mp (hspec.retired.mem_iff.mp hpage)
        · obtain hpage | hpage := List.mem_append.mp hpage
          · exact .inl hpage
          · exact .inr (hspec.seen page (List.mem_append_left _ hpage))
        · exact .inr (hspec.seen page (List.mem_append_right _ hpage)) }
    split
    · rename_i heq
      rw [heq] at hpolled
      exact hpolled
    · rename_i turn t heq
      rw [heq] at hpolled
      have hrest : SameUploads t (t.pollOutputs answers [] t.retiredOutputs turn).settlePages := by
        have houtputs := pollOutputs_same answers [] t.retiredOutputs turn t
        exact ⟨houtputs.1, houtputs.2, houtputs.3, houtputs.4, houtputs.5, houtputs.6, houtputs.7⟩
      exact hpolled.then_books (fun _ hkept => hkept.same hrest) hrest.retiredUploads

/-! ### Places -/

theorem UploadBooks.leaveActive (h : UploadBooks cfg s slices) :
    UploadBooks cfg s.leaveActive slices := by
  unfold SkinResources.leaveActive
  split
  · exact h
  · rename_i page hactive
    split
    · -- A page with slices waits for the batch.
      refine @UploadBooks.moved_keeping _ _ _ _ [] h ?_ fun page hpage => ⟨page, hpage, rfl⟩
      have hwritten : ∀ other, other ∈ ({ s with
          pendingUploads := s.pendingUploads ++ [page], activeUpload := none } :
            SkinResources).writtenPages ↔ other ∈ s.writtenPages := by
        intro other
        simp only [writtenPages, hactive, Option.toList, List.mem_append, List.mem_singleton,
          List.not_mem_nil, false_or]
        tauto
      exact {
        stamps := by
          rw [List.perm_iff_count]
          intro x
          simp only [uploadPages, writtenPages, hactive, Option.toList, List.map_append,
            List.count_append, List.map_nil, List.count_nil]
          omega
        bytes := by simp
        alignment := rfl
        buffers := le_refl _
        fits := by
          intro hfits other hother
          refine hfits other ?_
          obtain hother | hother := List.mem_append.mp hother
          · exact mem_uploadPages_of_written ((hwritten other).mp hother)
          · exact mem_uploadPages_of_idle hother
        written := fun other hother => .inl ⟨other, (hwritten other).mp hother, rfl, le_refl _⟩
        idle := fun other hother => .inl ⟨other, hother, rfl⟩ }
    · -- A page without slices ends.
      refine @UploadBooks.moved_keeping _ _ _ _ [stamp page] h ?_ fun page hpage => ⟨page, hpage, rfl⟩
      have hsublist : ∀ other, other ∈ ({ s with
          uploadBytes := s.uploadBytes - page.capacity, activeUpload := none } :
            SkinResources).writtenPages → other ∈ s.writtenPages := by
        intro other
        simp only [writtenPages, Option.toList, List.nil_append, List.append_assoc]
        exact List.mem_append_right _
      exact {
        stamps := by
          rw [List.perm_iff_count]
          intro x
          simp only [uploadPages, writtenPages, hactive, Option.toList, List.map_append,
            List.count_append, List.map_nil, List.count_nil, List.map_cons]
          omega
        bytes := by simp [stamp]
        alignment := rfl
        buffers := le_refl _
        fits := by
          intro hfits other hother
          refine hfits other ?_
          obtain hother | hother := List.mem_append.mp hother
          · exact mem_uploadPages_of_written (hsublist other hother)
          · exact mem_uploadPages_of_idle hother
        written := fun other hother => .inl ⟨other, hsublist other hother, rfl, le_refl _⟩
        idle := fun other hother => .inl ⟨other, hother, rfl⟩ }

variable {page : UploadPage}

theorem mem_of_bestPage {better : UploadPage → UploadPage → Bool} {pages : List UploadPage}
    (h : bestPage better pages = some page) : page ∈ pages := by
  cases pages with
  | nil => cases h
  | cons first rest =>
    rw [bestPage, Option.some.injEq] at h
    subst h
    induction rest generalizing first with
    | nil => exact List.mem_singleton.mpr rfl
    | cons next rest ih =>
      rw [List.foldl_cons]
      by_cases hbetter : better next first = true
      · rw [if_pos hbetter]
        exact List.mem_cons_of_mem _ (ih next)
      · rw [if_neg hbetter]
        obtain heq | hmem := List.mem_cons.mp (ih first)
        · exact List.mem_cons.mpr (.inl heq)
        · exact List.mem_cons_of_mem _ (List.mem_cons_of_mem _ hmem)

section

variable (h : UploadBooks cfg s slices)
include h

theorem UploadBooks.evict (hpage : page ∈ s.idleUploads) :
    UploadBooks cfg { s with
      uploadBytes := s.uploadBytes - page.capacity
      idleUploads := s.idleUploads.erase page } slices := by
  refine @UploadBooks.moved_keeping _ _ _ _ [stamp page] h ?_ fun page hpage => ⟨page, hpage, rfl⟩
  have herase := List.perm_cons_erase hpage
  exact {
    stamps := by
      have hcount := fun x => (herase.map stamp).count_eq x
      rw [List.perm_iff_count]
      intro x
      specialize hcount x
      simp only [uploadPages, writtenPages, List.map_append, List.count_append, List.map_cons,
        List.count_cons, List.count_nil] at hcount ⊢
      omega
    bytes := by simp [stamp]
    alignment := rfl
    buffers := le_refl _
    fits := by
      intro hfits other hother
      refine hfits other ?_
      obtain hother | hother := List.mem_append.mp hother
      · exact mem_uploadPages_of_written hother
      · exact mem_uploadPages_of_idle (List.mem_of_mem_erase hother)
    written := fun other hother => .inl ⟨other, hother, rfl, le_refl _⟩
    idle := fun other hother => .inl ⟨other, List.mem_of_mem_erase hother, rfl⟩ }

theorem UploadBooks.evictIdle (capacity count : ℕ) :
    UploadBooks cfg (s.evictIdle cfg capacity count) slices ∧
      (s.evictIdle cfg capacity count).retiredUploads = s.retiredUploads ∧
      (s.evictIdle cfg capacity count).activeUpload = s.activeUpload ∧
      (s.evictIdle cfg capacity count).storageBufferOffsetAlignment = s.storageBufferOffsetAlignment ∧
      (s.evictIdle cfg capacity count).device = s.device := by
  induction count generalizing s with
  | zero => exact ⟨h, rfl, rfl, rfl, rfl⟩
  | succ count ih =>
    unfold SkinResources.evictIdle
    split
    · exact ⟨h, rfl, rfl, rfl, rfl⟩
    · split
      · exact ⟨h, rfl, rfl, rfl, rfl⟩
      · rename_i victim hvictim
        exact ih (h.evict (mem_of_bestPage hvictim))

theorem UploadBooks.create (hactive : s.activeUpload = none) {capacity : ℕ}
    (hfits : s.fitsUploadBudget cfg capacity = true) :
    UploadBooks cfg { s with
      buffers := s.buffers + 1
      uploadBytes := s.uploadBytes + capacity
      activeUpload :=
        some ⟨⟨s.buffers, uploadBufferInfo capacity⟩, capacity, 0, none, 0⟩ } slices := by
  simp only [fitsUploadBudget, Bool.and_eq_true, decide_eq_true_eq] at hfits
  have hold : s.uploadPages = s.pendingUploads ++ s.retiredUploads ++ s.idleUploads := by
    simp [uploadPages, writtenPages, hactive]
  have hnew : ({ s with
      buffers := s.buffers + 1
      uploadBytes := s.uploadBytes + capacity
      activeUpload :=
        some ⟨⟨s.buffers, uploadBufferInfo capacity⟩, capacity, 0, none, 0⟩ } :
          SkinResources).uploadPages =
      ⟨⟨s.buffers, uploadBufferInfo capacity⟩, capacity, 0, none, 0⟩ :: s.uploadPages := by
    rw [hold]
    simp [uploadPages, writtenPages]
  exact {
    accounted := by
      rw [hnew, List.map_cons, List.sum_cons, ← h.accounted]
      exact Nat.add_comm _ _
    budget := by dsimp only; omega
    unique := by
      rw [hnew, List.map_cons, List.nodup_cons]
      refine ⟨fun hmem => ?_, h.unique⟩
      obtain ⟨page, hpage, heq⟩ := List.mem_map.mp hmem
      have hlt := h.created page hpage
      rw [heq] at hlt
      exact lt_irrefl _ hlt
    created := by
      rw [hnew]
      intro page hpage
      obtain rfl | hpage := List.mem_cons.mp hpage
      · exact Nat.lt_succ_self _
      · exact (h.created page hpage).trans (Nat.lt_succ_self _)
    fits := by
      rw [hnew]
      intro page hpage
      obtain rfl | hpage := List.mem_cons.mp hpage
      · exact Nat.zero_le _
      · exact h.fits page hpage
    alignment := h.alignment
    handed := by
      intro slice hslice
      obtain ⟨buffer, hbooks⟩ := h.handed slice hslice
      refine ⟨buffer, hbooks.isOn, hbooks.aligned, hbooks.created.trans (Nat.lt_succ_self _), ?_,
        hbooks.notIdle⟩
      intro page hpage hbuffer
      simp only [writtenPages, Option.toList, List.mem_append, List.mem_singleton] at hpage
      obtain (rfl | hpage) | hpage := hpage
      · -- No slice is on a buffer that was not created before.
        rw [← hbuffer] at hbooks
        exact absurd hbooks.created (lt_irrefl _)
      · exact hbooks.before page (by simp [writtenPages, hpage]) hbuffer
      · exact hbooks.before page (mem_written_of_retired hpage) hbuffer
    apart := h.apart }

/-! ### Slices -/

theorem UploadBooks.hand (hactive : s.activeUpload = some page) {slice : BufferSlice}
    (hbuffer : slice.buffer = some page.buffer)
    (haligned : s.storageBufferOffsetAlignment ∣ slice.offset)
    (hbehind : page.cursor ≤ slice.offset) (hend : slice.offset + slice.length ≤ page.capacity) :
    UploadBooks cfg { s with
      activeUpload := some { page with cursor := slice.offset + slice.length } }
      (slices ++ [slice]) := by
  have hwritten : page ∈ s.writtenPages := mem_writtenPages.mpr (.inl hactive)
  have hmoved : Moved s { s with
      activeUpload := some { page with cursor := slice.offset + slice.length } } [] := {
    stamps := by
      simp only [uploadPages, writtenPages, hactive, Option.toList_some, List.append_nil,
        List.map_append, List.map_cons]
      exact .refl _
    bytes := by simp
    alignment := rfl
    buffers := le_refl _
    fits := by
      intro hfits other hmem
      obtain hmem | hmem := mem_uploadPages.mp hmem
      · obtain rfl := Option.some.inj hmem
        exact hend
      · exact hfits other (mem_uploadPages.mpr (.inr hmem))
    written := by
      intro other hmem
      obtain hmem | hmem := mem_writtenPages.mp hmem
      · obtain rfl := Option.some.inj hmem
        exact .inl ⟨page, hwritten, rfl, by dsimp only; omega⟩
      · exact .inl ⟨other, mem_writtenPages.mpr (.inr hmem), rfl, le_refl _⟩
    idle := fun other hmem => .inl ⟨other, hmem, rfl⟩ }
  have hbooks := h.moved_keeping hmoved fun page hpage => ⟨page, hpage, rfl⟩
  -- Buffers of pages are unique, so the only page of the slice is the active one.
  have hnodup : (page.buffer :: (s.pendingUploads ++ (s.retiredUploads ++ s.idleUploads)).map
      UploadPage.buffer).Nodup := by
    have hunique := h.unique
    rwa [uploadPages, writtenPages, hactive, Option.toList_some, List.append_assoc,
      List.append_assoc, List.map_append] at hunique
  have hother : ∀ other ∈ s.pendingUploads ++ (s.retiredUploads ++ s.idleUploads),
      other.buffer ≠ page.buffer := by
    intro other hmem heq
    exact (List.nodup_cons.mp hnodup).1 (heq ▸ List.mem_map_of_mem hmem)
  refine { hbooks with handed := ?_, apart := ?_ }
  · intro other hmem
    obtain hmem | hmem := List.mem_append.mp hmem
    · exact hbooks.handed other hmem
    · obtain rfl := List.mem_singleton.mp hmem
      refine ⟨page.buffer, hbuffer, haligned, h.created page (mem_uploadPages_of_written hwritten), ?_, ?_⟩
      · intro candidate hcandidate heq
        obtain hcandidate | hcandidate | hcandidate := mem_writtenPages.mp hcandidate
        · obtain rfl := Option.some.inj hcandidate
          exact le_refl _
        · exact absurd heq (hother candidate (by simp [show candidate ∈ s.pendingUploads from hcandidate]))
        · exact absurd heq (hother candidate (by simp [show candidate ∈ s.retiredUploads from hcandidate]))
      · intro candidate hcandidate
        exact hother candidate (by simp [show candidate ∈ s.idleUploads from hcandidate])
  · refine List.pairwise_append.mpr ⟨h.apart, List.pairwise_singleton _ _, ?_⟩
    intro earlier hearlier later hlater heq
    obtain rfl := List.mem_singleton.mp hlater
    obtain ⟨buffer, hslice⟩ := h.handed earlier hearlier
    have hsame : page.buffer = buffer := by
      rw [hslice.isOn, hbuffer] at heq
      exact (Option.some.inj heq).symm
    exact (hslice.before page hwritten hsame).trans hbehind

/-! ### The end of a batch -/

theorem UploadBooks.retire (mark : UploadPage → UploadPage)
    (hstamp : ∀ page, stamp (mark page) = stamp page)
    (hcursor : ∀ page, (mark page).cursor = page.cursor) {moved kept pending : List UploadPage}
    {active : Option UploadPage}
    (hperm : (s.pendingUploads ++ s.activeUpload.toList).Perm (moved ++ kept))
    (hkept : (pending ++ active.toList).map stamp = kept.map stamp)
    (hcursors : ∀ page ∈ pending ++ active.toList,
      ∃ old ∈ kept, stamp old = stamp page ∧ old.cursor = page.cursor) :
    UploadBooks cfg { s with
      retiredUploads := s.retiredUploads ++ moved.map mark
      pendingUploads := pending
      activeUpload := active } slices := by
  refine @UploadBooks.moved_keeping _ _ _ _ [] h ?_ fun page hpage =>
    ⟨page, List.mem_append_left _ hpage, rfl⟩
  have hold : ∀ page ∈ moved ++ kept, page ∈ s.writtenPages := by
    intro page hpage
    obtain hpage | hpage := List.mem_append.mp (hperm.mem_iff.mpr hpage)
    · exact mem_writtenPages.mpr (.inr (.inl hpage))
    · exact mem_writtenPages.mpr (.inl (Option.mem_toList.mp hpage))
  have hstays : ∀ page ∈ pending ++ active.toList,
      ∃ old ∈ s.writtenPages, stamp old = stamp page ∧ old.cursor = page.cursor := by
    intro page hpage
    obtain ⟨old, hmem, heq⟩ := hcursors page hpage
    exact ⟨old, hold old (List.mem_append_right _ hmem), heq⟩
  have hwritten : ∀ page ∈ ({ s with
      retiredUploads := s.retiredUploads ++ moved.map mark
      pendingUploads := pending
      activeUpload := active } : SkinResources).writtenPages,
      ∃ old ∈ s.writtenPages, stamp old = stamp page ∧ old.cursor = page.cursor := by
    intro page hpage
    obtain hpage | hpage | hpage := mem_writtenPages.mp hpage
    · exact hstays page (List.mem_append_right _ (Option.mem_toList.mpr hpage))
    · exact hstays page (List.mem_append_left _ hpage)
    · obtain hpage | hpage := List.mem_append.mp hpage
      · exact ⟨page, mem_writtenPages.mpr (.inr (.inr hpage)), rfl, rfl⟩
      · obtain ⟨old, hmem, rfl⟩ := List.mem_map.mp hpage
        exact ⟨old, hold old (List.mem_append_left _ hmem), (hstamp old).symm, (hcursor old).symm⟩
  exact {
    stamps := by
      have hcount := fun x => (hperm.map stamp).count_eq x
      have hcounts := fun x => congrArg (List.count x) hkept
      have hmarks : (moved.map mark).map stamp = moved.map stamp := by
        rw [List.map_map]
        exact List.map_congr_left fun page _ => hstamp page
      rw [List.perm_iff_count]
      intro x
      specialize hcount x
      specialize hcounts x
      simp only [uploadPages, writtenPages, List.map_append, List.count_append, hmarks,
        List.count_nil] at hcount hcounts ⊢
      omega
    bytes := by simp
    alignment := rfl
    buffers := le_refl _
    fits := by
      intro hfits page hpage
      obtain hpage | hpage := List.mem_append.mp hpage
      · obtain ⟨old, hmem, heq, hsame⟩ := hwritten page hpage
        have hcapacity : old.capacity = page.capacity := congrArg Prod.snd heq
        rw [← hsame, ← hcapacity]
        exact hfits old (mem_uploadPages_of_written hmem)
      · exact hfits page (mem_uploadPages_of_idle hpage)
    written := by
      intro page hpage
      obtain ⟨old, hmem, heq, hsame⟩ := hwritten page hpage
      exact .inl ⟨old, hmem, congrArg Prod.fst heq, le_of_eq hsame⟩
    idle := fun page hpage => .inl ⟨page, hpage, rfl⟩ }

theorem UploadBooks.retireUploads (fence : Option ℕ) (value : UInt64) :
    UploadBooks cfg (s.retireUploads fence value).2 slices := by
  unfold SkinResources.retireUploads
  split_ifs
  · exact h
  · exact h
  · refine @UploadBooks.retire _ _ _ h (fun page => { page with fence := fence, retireValue := value })
      (fun _ => rfl) (fun _ => rfl) _ [] [] none ?_ rfl (by simp)
    rw [List.append_nil]

theorem UploadBooks.discardUploads : UploadBooks cfg s.discardUploads slices := by
  refine @UploadBooks.moved_keeping _ _ _ _
    ((s.pendingUploads ++ s.activeUpload.toList).map stamp) h ?_ fun page hpage => ⟨page, hpage, rfl⟩
  have hwritten : ∀ page, page ∈ s.discardUploads.writtenPages → page ∈ s.retiredUploads := by
    intro page hpage
    obtain hpage | hpage | hpage := mem_writtenPages.mp hpage
    · cases hpage
    · cases hpage
    · exact hpage
  exact {
    stamps := by
      rw [List.perm_iff_count]
      intro x
      simp only [uploadPages, writtenPages, SkinResources.discardUploads, Option.toList_none,
        List.nil_append, List.map_append, List.count_append]
      omega
    bytes := by
      rw [List.map_map]
      rfl
    alignment := rfl
    buffers := le_refl _
    fits := by
      intro hfits page hpage
      obtain hpage | hpage := List.mem_append.mp hpage
      · exact hfits page (mem_uploadPages_of_written (mem_written_of_retired (hwritten page hpage)))
      · exact hfits page (mem_uploadPages_of_idle hpage)
    written := fun page hpage =>
      .inl ⟨page, mem_written_of_retired (hwritten page hpage), rfl, le_refl _⟩
    idle := fun page hpage => .inl ⟨page, hpage, rfl⟩ }

end

theorem UploadBooks.empty (hactive : s.activeUpload = none) (hpending : s.pendingUploads = [])
    (hretired : s.retiredUploads = []) (hidle : s.idleUploads = []) (hbytes : s.uploadBytes = 0)
    (halignment : 0 < s.storageBufferOffsetAlignment) : UploadBooks cfg s [] := by
  have hpages : s.uploadPages = [] := by
    simp [uploadPages, writtenPages, hactive, hpending, hretired, hidle]
  exact {
    accounted := by rw [hpages, hbytes]; rfl
    budget := by rw [hbytes]; exact Nat.zero_le _
    unique := by rw [hpages]; exact List.nodup_nil
    created := by rw [hpages]; simp
    fits := by rw [hpages]; simp
    alignment := halignment
    handed := by simp
    apart := List.Pairwise.nil }

end War3VK.GpuSkin.UploadLedger
