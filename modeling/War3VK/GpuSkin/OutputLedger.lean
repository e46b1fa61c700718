import Mathlib.Data.List.Nodup
import War3VK.GpuSkin.SkinResources
import War3VK.Lib.Tally

/-!
# The ledger of output leases

What the callers of `War3GpuSkinResources` hold is kept in a ledger beside the owner: every lease that
was granted since the resources were last dropped, until it is discarded or its retirement leaves the
queue. `Books` says that the owner's books agree with the ledger, and each operation on outputs keeps
the agreement.
-/

namespace War3VK.GpuSkin

open War3VK.Lib

/-- A lease in the hands of a caller, and what it was retired against. -/
structure Loan where
  lease : OutputLease
  queued : Bool
  retirement : Option (ℕ × UInt64)
  deriving DecidableEq

variable {loan : Loan}

namespace Loan

def record (loan : Loan) : Option OutputLease :=
  loan.retirement.map fun retirement =>
    SkinResources.retiredOf loan.lease retirement.1 retirement.2

def held (s : SkinResources) (loan : Loan) : Bool :=
  match loan.record with
  | none => true
  | some retired => retired ∈ s.retiredOutputs

def passed (answers : PollAnswers) (loan : Loan) : Prop :=
  ∃ fence value turn, loan.retirement = some (fence, value) ∧
    value ≤ answers.getFenceValue turn fence

def entry (loan : Loan) : UInt64 × ActiveOutput :=
  (loan.lease.leaseId, SkinResources.activeOf loan.lease loan.queued)

theorem leaseId_of_record {retired : OutputLease} (h : loan.record = some retired) :
    retired.leaseId = loan.lease.leaseId := by
  obtain ⟨retirement, -, rfl⟩ := Option.map_eq_some_iff.mp h
  rfl

def lower (loan : Loan) : ℕ := loan.lease.desc.byteOffset.toNat

def upper (loan : Loan) : ℕ := loan.lower + loan.lease.desc.byteLength.toNat

end Loan

def lent (lease : OutputLease) : Loan := ⟨lease, false, none⟩

def markRetired (lease : OutputLease) (retirement : Option (ℕ × UInt64)) (loan : Loan) : Loan :=
  if loan = lent lease then ⟨lease, true, retirement⟩ else loan

def bookCall : ResourceCall → ResourceOutput → List Loan → List Loan
  | .invalidateMapEpoch _, _, _ => []
  | .invalidateDevice _ _ _, _, _ => []
  | .reset, _, _ => []
  | .allocateOutput _ _, .lease lease, loans =>
    if lease.valid then loans ++ [lent lease] else loans
  | .retireOutput _ lease (some fence) value, .flag true, loans =>
    loans.map (markRetired lease (some (fence, value)))
  | .retireOutput _ lease _ _, .threw, loans => loans.map (markRetired lease none)
  | .discardOutput lease, _, loans => loans.filter (· ≠ lent lease)
  | _, _, loans => loans

abbrev Ledgered := SkinResources × List Loan

def ledgerStep (cfg : ResourceSetup) (call : ResourceCall) (t : Ledgered) :
    ResourceOutput × Ledgered :=
  let (output, s) := resourceStep cfg call t.1
  (output, s, (bookCall call output t.2).filter (Loan.held s))

/-! ## Lists -/

theorem countP_filter_key {α κ : Type} [DecidableEq κ] {l : List α} {key : α → κ} (p : α → Bool)
    (hkeys : (l.map key).Nodup) {a : α} (ha : a ∈ l) :
    (l.filter (key · ≠ key a)).countP p + (if p a then 1 else 0) = l.countP p := by
  induction l with
  | nil => exact (nomatch ha)
  | cons b l ih =>
    rw [List.map_cons, List.nodup_cons] at hkeys
    rcases List.mem_cons.mp ha with rfl | ha
    · have hrest : l.filter (key · ≠ key a) = l := by
        rw [List.filter_eq_self]
        intro c hc
        have hne : key c ≠ key a := fun heq => hkeys.1 (heq ▸ List.mem_map_of_mem hc)
        simpa using hne
      rw [List.filter_cons_of_neg (by simp), hrest, List.countP_cons]
    · have hne : key b ≠ key a := fun heq => hkeys.1 (heq ▸ List.mem_map_of_mem ha)
      have hrest := ih hkeys.2 ha
      rw [List.filter_cons_of_pos (by simpa using hne), List.countP_cons, List.countP_cons]
      omega

namespace SkinResources

variable {cfg : ResourceSetup} {s s' s'' : SkinResources} {loans : List Loan}

def PlacedOn (loan : Loan) (page : OutputPage) : Prop :=
  page.id = loan.lease.pageId ∧ page.generation = loan.lease.pageGeneration ∧
    loan.lease.slice = ⟨some page.buffer, loan.lower, loan.lease.desc.byteLength.toNat⟩ ∧
    loan.upper ≤ page.cursor

structure PageBooks (loans : List Loan) (page : OutputPage) : Prop where
  outstanding : page.outstanding = loans.countP (·.lease.pageId = page.id)
  counted : page.outstanding ≤ page.cursor
  inside : page.cursor ≤ page.capacity
  small : page.capacity < 2^32
  idle : page.outstanding = 0 → page.cursor = 0

structure Books (cfg : ResourceSetup) (s : SkinResources) (loans : List Loan) : Prop where
  active : s.activeOutputs = loans.map Loan.entry
  ids : (loans.map (·.lease.leaseId)).Nodup
  valid : ∀ loan ∈ loans, loan.lease.valid = true
  queued : ∀ loan ∈ loans, loan.retirement.isSome = true → loan.queued = true
  held : ∀ loan ∈ loans, loan.held s = true
  records : ∀ retired ∈ s.retiredOutputs, ∃ loan ∈ loans, loan.record = some retired
  once : (s.retiredOutputs.map OutputLease.leaseId).Nodup
  pages : (s.outputPages.map OutputPage.id).Nodup
  buffers : (s.outputPages.map OutputPage.buffer).Nodup
  old : ∀ page ∈ s.outputPages, page.buffer.identity < s.buffers
  placed : ∀ loan ∈ loans, ∃ page ∈ s.outputPages, PlacedOn loan page
  apart : loans.Pairwise fun a b => a.lease.pageId = b.lease.pageId → a.upper ≤ b.lower
  page : ∀ page ∈ s.outputPages, PageBooks loans page
  bytes : s.outputBytes = (s.outputPages.map OutputPage.capacity).sum
  budget : s.outputBytes ≤ cfg.outputBytes

theorem Books.loan_ext (h : Books cfg s loans) {a b : Loan} (ha : a ∈ loans) (hb : b ∈ loans)
    (hid : a.lease.leaseId = b.lease.leaseId) : a = b :=
  List.inj_on_of_nodup_map h.ids ha hb hid

theorem Books.page_ext (h : Books cfg s loans) {a b : OutputPage} (ha : a ∈ s.outputPages)
    (hb : b ∈ s.outputPages) (hid : a.id = b.id) : a = b :=
  List.inj_on_of_nodup_map h.pages ha hb hid

theorem Books.findActive (h : Books cfg s loans) (hloan : loan ∈ loans) :
    s.findActive loan.lease.leaseId = some (activeOf loan.lease loan.queued) := by
  rw [SkinResources.findActive, h.active]
  cases hfind : (loans.map Loan.entry).find? (·.1 = loan.lease.leaseId) with
  | none =>
    rw [List.find?_eq_none] at hfind
    have hnot : ¬loan.entry.1 = loan.lease.leaseId := by
      simpa using hfind _ (List.mem_map_of_mem hloan)
    exact absurd rfl hnot
  | some entry =>
    have hkey : entry.1 = loan.lease.leaseId := by simpa using List.find?_some hfind
    obtain ⟨other, hother, rfl⟩ := List.mem_map.mp (List.mem_of_find?_eq_some hfind)
    rw [h.loan_ext hother hloan hkey]
    rfl

theorem Books.of_findActive (h : Books cfg s loans) {leaseId : UInt64} {active : ActiveOutput}
    (hfind : s.findActive leaseId = some active) : ∃ loan ∈ loans,
      loan.lease.leaseId = leaseId ∧ active = activeOf loan.lease loan.queued := by
  obtain ⟨entry, hentry, rfl⟩ := Option.map_eq_some_iff.mp hfind
  have hkey : entry.1 = leaseId := by simpa using List.find?_some hentry
  have hmem := List.mem_of_find?_eq_some hentry
  rw [h.active] at hmem
  obtain ⟨loan, hloan, rfl⟩ := List.mem_map.mp hmem
  exact ⟨loan, hloan, hkey, rfl⟩

theorem Books.findPage (h : Books cfg s loans) (hloan : loan ∈ loans) :
    ∃ place page, s.findPage loan.lease.pageId loan.lease.pageGeneration = some place ∧
      s.outputPages[place]? = some page ∧ PlacedOn loan page := by
  obtain ⟨page, hpage, hplaced⟩ := h.placed loan hloan
  cases hfind : s.findPage loan.lease.pageId loan.lease.pageGeneration with
  | none =>
    rw [SkinResources.findPage, List.findIdx?_eq_none_iff] at hfind
    have hnot := hfind page hpage
    simp [hplaced.1, hplaced.2.1] at hnot
  | some place =>
    rw [SkinResources.findPage, List.findIdx?_eq_some_iff_getElem] at hfind
    obtain ⟨hlt, hfound, -⟩ := hfind
    simp only [Bool.and_eq_true, decide_eq_true_eq] at hfound
    have hsame : s.outputPages[place] = page :=
      h.page_ext (List.getElem_mem hlt) hpage (hfound.1.trans hplaced.1.symm)
    exact ⟨place, page, rfl, by rw [List.getElem?_eq_getElem hlt, hsame], hplaced⟩

variable {place : ℕ} {page : OutputPage}

theorem Books.hasOutstanding (h : Books cfg s loans) (hloan : loan ∈ loans)
    (hpage : s.outputPages[place]? = some page) (hplaced : PlacedOn loan page) :
    s.hasOutstanding place = true := by
  have hcount := (h.page page (List.mem_of_getElem? hpage)).outstanding
  have hpos : 0 < loans.countP (·.lease.pageId = page.id) :=
    List.countP_pos_iff.mpr ⟨loan, hloan, by simp [hplaced.1]⟩
  simp only [SkinResources.hasOutstanding, hpage, decide_eq_true_eq]
  omega

/-! ## Ending a loan -/

/-- Without one loan: its lease is released and erased, and its retirement is gone. -/
structure Ended (s : SkinResources) (loan : Loan) (place : ℕ) (s' : SkinResources) : Prop where
  outputPages : s'.outputPages = s.outputPages.modify place releaseOne
  activeOutputs : s'.activeOutputs = s.activeOutputs.filter (·.1 ≠ loan.lease.leaseId)
  kept : ∀ retired ∈ s.retiredOutputs, retired.leaseId ≠ loan.lease.leaseId →
    retired ∈ s'.retiredOutputs
  sublist : s'.retiredOutputs.Sublist s.retiredOutputs
  gone : ∀ retired ∈ s'.retiredOutputs, retired.leaseId ≠ loan.lease.leaseId
  outputBytes : s'.outputBytes = s.outputBytes
  buffers : s'.buffers = s.buffers

theorem Books.mem_modify_place (h : Books cfg s loans) {page' : OutputPage}
    {f : OutputPage → OutputPage} (hpage : s.outputPages[place]? = some page)
    (hpage' : page' ∈ s.outputPages.modify place f) :
    (page' ∈ s.outputPages ∧ page'.id ≠ page.id) ∨ page' = f page := by
  obtain ⟨j, old, hold, rfl⟩ := mem_modify hpage'
  by_cases hj : j = place
  · subst hj
    rw [hpage, Option.some.injEq] at hold
    subst hold
    exact Or.inr (if_pos rfl)
  · rw [if_neg hj]
    refine Or.inl ⟨List.mem_of_getElem? hold, fun hid => hj ?_⟩
    have hlt := (List.getElem?_eq_some_iff.mp hold).choose
    apply (List.getElem?_inj (by rwa [List.length_map]) h.pages).mp
    rw [List.getElem?_map, List.getElem?_map, hold, hpage, Option.map_some, Option.map_some, hid]

theorem Books.ended (h : Books cfg s loans) (hloan : loan ∈ loans)
    (hpage : s.outputPages[place]? = some page) (hplaced : PlacedOn loan page)
    (hended : Ended s loan place s') :
    Books cfg s' (loans.filter (·.lease.leaseId ≠ loan.lease.leaseId)) := by
  obtain ⟨houtputs, hactive, hkept, hsublist, hgone, hbytes, hbuffers⟩ := hended
  have hmem : ∀ other ∈ loans.filter (·.lease.leaseId ≠ loan.lease.leaseId),
      other ∈ loans ∧ other.lease.leaseId ≠ loan.lease.leaseId := by
    intro other hother
    simpa using hother
  have hids : s'.outputPages.map OutputPage.id = s.outputPages.map OutputPage.id := by
    rw [houtputs]
    exact map_modify fun p => by unfold releaseOne; split <;> rfl
  have hbufs : s'.outputPages.map OutputPage.buffer = s.outputPages.map OutputPage.buffer := by
    rw [houtputs]
    exact map_modify fun p => by unfold releaseOne; split <;> rfl
  have hcaps : s'.outputPages.map OutputPage.capacity = s.outputPages.map OutputPage.capacity := by
    rw [houtputs]
    exact map_modify fun p => by unfold releaseOne; split <;> rfl
  -- Loans that are left are counted page by page.
  have hcount : ∀ id : UInt32,
      (loans.filter (·.lease.leaseId ≠ loan.lease.leaseId)).countP (·.lease.pageId = id) +
        (if loan.lease.pageId = id then 1 else 0) = loans.countP (·.lease.pageId = id) := by
    intro id
    have := countP_filter_key (fun other : Loan => decide (other.lease.pageId = id)) h.ids hloan
    simpa using this
  have hpageMem := List.mem_of_getElem? hpage
  have hbooks := h.page page hpageMem
  -- A page after the release is another page as it was, or the page of the loan with one less.
  have hpages : ∀ page' ∈ s'.outputPages, (page' ∈ s.outputPages ∧ page'.id ≠ page.id) ∨
      page' = releaseOne page := by
    intro page' hpage'
    rw [houtputs] at hpage'
    exact h.mem_modify_place hpage hpage'
  have hown := hcount page.id
  rw [if_pos hplaced.1.symm] at hown
  have hold := hbooks.outstanding
  exact {
    active := by
      rw [hactive, h.active, List.filter_map]
      rfl
    ids := (List.filter_sublist.map _).nodup h.ids
    valid := fun other hother => h.valid other (hmem other hother).1
    queued := fun other hother => h.queued other (hmem other hother).1
    held := fun other hother => by
      obtain ⟨hother, hne⟩ := hmem other hother
      have hheld := h.held other hother
      unfold Loan.held at hheld ⊢
      split
      · rfl
      · rename_i retired hrecord
        rw [hrecord] at hheld
        rw [decide_eq_true_eq] at hheld ⊢
        exact hkept retired hheld (by rwa [Loan.leaseId_of_record hrecord])
    records := fun retired hretired => by
      obtain ⟨other, hother, hrecord⟩ := h.records retired (hsublist.subset hretired)
      refine ⟨other, List.mem_filter.mpr ⟨hother, ?_⟩, hrecord⟩
      have hne := hgone retired hretired
      rw [Loan.leaseId_of_record hrecord] at hne
      simpa using hne
    once := (hsublist.map _).nodup h.once
    pages := hids ▸ h.pages
    buffers := hbufs ▸ h.buffers
    old := fun page' hpage' => by
      have hmem : page'.buffer ∈ s.outputPages.map OutputPage.buffer :=
        hbufs ▸ List.mem_map_of_mem hpage'
      obtain ⟨old, hold, heq⟩ := List.mem_map.mp hmem
      rw [← heq, hbuffers]
      exact h.old old hold
    placed := fun other hother => by
      obtain ⟨hother, hne⟩ := hmem other hother
      obtain ⟨oldPage, holdPage, hid, hgeneration, hslice, hupper⟩ := h.placed other hother
      by_cases hsame : oldPage = page
      · subst hsame
        -- The page has another loan, so it is not rewound.
        have hother' : other ∈ loans.filter (·.lease.leaseId ≠ loan.lease.leaseId) :=
          List.mem_filter.mpr ⟨hother, by simpa using hne⟩
        have hpos : 0 < (loans.filter (·.lease.leaseId ≠ loan.lease.leaseId)).countP
            (·.lease.pageId = oldPage.id) :=
          List.countP_pos_iff.mpr ⟨other, hother', by simp [hid]⟩
        have hrest : ¬oldPage.outstanding - 1 = 0 := by omega
        refine ⟨releaseOne oldPage, ?_, ?_⟩
        · rw [houtputs]
          exact List.mem_of_getElem? (i := place) (by simp [hpage])
        · rw [releaseOne, if_neg hrest]
          exact ⟨hid, hgeneration, hslice, hupper⟩
      · refine ⟨oldPage, ?_, hid, hgeneration, hslice, hupper⟩
        obtain ⟨j, hj⟩ := List.mem_iff_getElem?.mp holdPage
        rw [houtputs]
        refine List.mem_of_getElem? (i := j) ?_
        have hne : place ≠ j := by
          rintro rfl
          rw [hpage, Option.some.injEq] at hj
          exact hsame hj.symm
        simp [hj, hne]
    apart := h.apart.filter _
    page := fun page' hpage' => by
      rcases hpages page' hpage' with ⟨hother, hne⟩ | rfl
      · have hbooks' := h.page page' hother
        refine { hbooks' with outstanding := ?_ }
        have hrest := hcount page'.id
        rw [if_neg (fun heq => hne (heq.symm.trans hplaced.1.symm))] at hrest
        rw [hbooks'.outstanding]
        exact hrest.symm
      · unfold releaseOne
        split
        · rename_i hlast
          exact {
            outstanding := by dsimp only; omega
            counted := Nat.le_refl _
            inside := Nat.zero_le _
            small := hbooks.small
            idle := fun _ => rfl }
        · rename_i hlast
          have hcounted := hbooks.counted
          exact {
            outstanding := by dsimp only; omega
            counted := by dsimp only; omega
            inside := hbooks.inside
            small := hbooks.small
            idle := fun hzero => absurd hzero hlast }
    bytes := by rw [hbytes, hcaps, h.bytes]
    budget := hbytes ▸ h.budget }

theorem Books.filter_held (h : Books cfg s loans) (hloan : loan ∈ loans)
    (hended : Ended s loan place s') (hrecord : loan.record.isSome) :
    loans.filter (Loan.held s') = loans.filter (·.lease.leaseId ≠ loan.lease.leaseId) := by
  apply List.filter_congr
  intro other hother
  by_cases hid : other.lease.leaseId = loan.lease.leaseId
  · -- Its own retirement is gone.
    have hsame := h.loan_ext hother hloan hid
    subst hsame
    obtain ⟨retired, hretired⟩ := Option.isSome_iff_exists.mp hrecord
    have hgone : retired ∉ s'.retiredOutputs := fun hmem =>
      hended.gone retired hmem (Loan.leaseId_of_record hretired)
    simp [Loan.held, hretired, hgone]
  · have hheld := h.held other hother
    simp only [ne_eq, hid, not_false_eq_true, decide_true]
    unfold Loan.held at hheld ⊢
    split
    · rfl
    · rename_i retired hretired
      rw [hretired] at hheld
      rw [decide_eq_true_eq] at hheld ⊢
      exact hended.kept retired hheld (by rwa [Loan.leaseId_of_record hretired])

theorem Books.release_page (h : Books cfg s loans) (hloan : loan ∈ loans)
    (hpage : s.outputPages[place]? = some page) (hplaced : PlacedOn loan page)
    {old page' : OutputPage} (hold : old ∈ s.outputPages)
    (hpage' : page' ∈ s.outputPages.modify place releaseOne) (hid : page'.id = old.id) :
    (page'.generation = old.generation ∧ old.cursor ≤ page'.cursor) ∨
      ∀ other ∈ loans, other.lease.pageId = old.id → other.lease.leaseId = loan.lease.leaseId := by
  obtain ⟨j, before, hbefore, rfl⟩ := mem_modify hpage'
  have hbeforeMem := List.mem_of_getElem? hbefore
  by_cases hj : j = place
  · subst hj
    rw [hpage, Option.some.injEq] at hbefore
    subst hbefore
    rw [if_pos rfl] at hid ⊢
    have hsame : page = old := by
      refine h.page_ext hbeforeMem hold ?_
      rw [← hid]
      unfold releaseOne
      split <;> rfl
    subst hsame
    unfold releaseOne
    split
    · -- The count leaves no other loan on the page.
      rename_i hlast
      refine Or.inr fun other hother hon => by_contra fun hne => ?_
      have hcount := (h.page page hold).outstanding
      have hone := countP_filter_key (fun l : Loan => decide (l.lease.pageId = page.id)) h.ids hloan
      simp only [hplaced.1, decide_true, if_true] at hone hcount hlast
      have hin : other ∈ loans.filter (·.lease.leaseId ≠ loan.lease.leaseId) :=
        List.mem_filter.mpr ⟨hother, by simpa using hne⟩
      have hpos : 0 < (loans.filter (·.lease.leaseId ≠ loan.lease.leaseId)).countP
          (·.lease.pageId = loan.lease.pageId) :=
        List.countP_pos_iff.mpr ⟨other, hin, by simp [hon, hplaced.1]⟩
      omega
    · exact Or.inl ⟨rfl, Nat.le_refl _⟩
  · rw [if_neg hj] at hid ⊢
    rw [h.page_ext hbeforeMem hold hid]
    exact Or.inl ⟨rfl, Nat.le_refl _⟩

/-! ## What leaves outputs alone -/

structure SameOutputs (s s' : SkinResources) : Prop where
  outputPages : s'.outputPages = s.outputPages
  activeOutputs : s'.activeOutputs = s.activeOutputs
  retiredOutputs : s'.retiredOutputs = s.retiredOutputs
  outputBytes : s'.outputBytes = s.outputBytes
  nextOutputLeaseId : s'.nextOutputLeaseId = s.nextOutputLeaseId
  nextOutputPageId : s'.nextOutputPageId = s.nextOutputPageId
  buffers : s.buffers ≤ s'.buffers

theorem SameOutputs.refl : SameOutputs s s := ⟨rfl, rfl, rfl, rfl, rfl, rfl, Nat.le_refl _⟩

theorem SameOutputs.trans (h : SameOutputs s s') (h' : SameOutputs s' s'') : SameOutputs s s'' :=
  ⟨h'.1.trans h.1, h'.2.trans h.2, h'.3.trans h.3, h'.4.trans h.4, h'.5.trans h.5, h'.6.trans h.6,
    h.7.trans h'.7⟩

theorem held_congr (h : s'.retiredOutputs = s.retiredOutputs) (loan : Loan) :
    loan.held s' = loan.held s := by
  rw [Loan.held, h, Loan.held]

theorem Books.filter_self (h : Books cfg s loans) : loans.filter (Loan.held s) = loans :=
  List.filter_eq_self.mpr h.held

theorem Books.of_outputs (h : Books cfg s loans) (houtputs : s'.outputPages = s.outputPages)
    (hactive : s'.activeOutputs = s.activeOutputs) (hretired : s'.retiredOutputs = s.retiredOutputs)
    (hbytes : s'.outputBytes = s.outputBytes) (hbuffers : s.buffers ≤ s'.buffers) :
    Books cfg s' loans where
  active := hactive.trans h.active
  ids := h.ids
  valid := h.valid
  queued := h.queued
  held loan hloan := (held_congr hretired loan).trans (h.held loan hloan)
  records := hretired ▸ h.records
  once := hretired ▸ h.once
  pages := houtputs ▸ h.pages
  buffers := houtputs ▸ h.buffers
  old page hpage := (h.old page (houtputs ▸ hpage)).trans_le hbuffers
  placed := houtputs ▸ h.placed
  apart := h.apart
  page := houtputs ▸ h.page
  bytes := by rw [hbytes, houtputs, h.bytes]
  budget := hbytes ▸ h.budget

theorem Books.same (h : Books cfg s loans) (hsame : SameOutputs s s') : Books cfg s' loans :=
  h.of_outputs hsame.outputPages hsame.activeOutputs hsame.retiredOutputs hsame.outputBytes
    hsame.buffers

/-! ## Polling -/

def GoesOn (loans : List Loan) (page : OutputPage) (s' : SkinResources) (page' : OutputPage) :
    Prop :=
  (page'.generation = page.generation ∧ page.cursor ≤ page'.cursor) ∨
    ∀ loan ∈ loans, loan.lease.pageId = page.id → loan.held s' = false

/-- What a poll does, and other things that grant and retire nothing. -/
structure Polled (cfg : ResourceSetup) (answers : PollAnswers) (s : SkinResources)
    (loans : List Loan) (s' : SkinResources) : Prop where
  books : Books cfg s' (loans.filter (Loan.held s'))
  /-- What is not held any more was retired against a value that was seen. -/
  passed : ∀ loan ∈ loans, loan.held s' = false → loan.passed answers
  pages : s'.outputPages.map OutputPage.id = s.outputPages.map OutputPage.id
  rewound : ∀ page ∈ s.outputPages, ∀ page' ∈ s'.outputPages, page'.id = page.id →
    GoesOn loans page s' page'
  sublist : s'.retiredOutputs.Sublist s.retiredOutputs
  nextOutputLeaseId : s'.nextOutputLeaseId = s.nextOutputLeaseId
  nextOutputPageId : s'.nextOutputPageId = s.nextOutputPageId

variable {answers : PollAnswers}

theorem Polled.of_same (h : Books cfg s loans) (hsame : SameOutputs s s') :
    Polled cfg answers s loans s' where
  books := by
    have hbooks := h.same hsame
    rw [hbooks.filter_self]
    exact hbooks
  passed loan hloan hnot := by
    rw [(h.same hsame).held loan hloan] at hnot
    cases hnot
  pages := by rw [hsame.outputPages]
  rewound page hpage page' hpage' hid := by
    rw [hsame.outputPages] at hpage'
    rw [h.page_ext hpage' hpage hid]
    exact Or.inl ⟨rfl, Nat.le_refl _⟩
  sublist := hsame.retiredOutputs ▸ List.Sublist.refl _
  nextOutputLeaseId := hsame.nextOutputLeaseId
  nextOutputPageId := hsame.nextOutputPageId

theorem held_mono (h : s'.retiredOutputs.Sublist s.retiredOutputs) (hheld : loan.held s' = true) :
    loan.held s = true := by
  unfold Loan.held at hheld ⊢
  split
  · rfl
  · rename_i retired hrecord
    rw [hrecord, decide_eq_true_eq] at hheld
    exact decide_eq_true (h.subset hheld)

theorem filter_held_filter_held (h : s''.retiredOutputs.Sublist s'.retiredOutputs) :
    (loans.filter (Loan.held s')).filter (Loan.held s'') = loans.filter (Loan.held s'') := by
  rw [List.filter_filter]
  apply List.filter_congr
  intro loan _
  cases hheld : loan.held s'' with
  | false => rfl
  | true => rw [held_mono h hheld]; rfl

theorem Polled.trans (h : Polled cfg answers s loans s')
    (h' : Polled cfg answers s' (loans.filter (Loan.held s')) s'') :
    Polled cfg answers s loans s'' where
  books := by
    rw [← filter_held_filter_held h'.sublist]
    exact h'.books
  passed loan hloan hnot := by
    cases hheld : loan.held s' with
    | false => exact h.passed loan hloan hheld
    | true => exact h'.passed loan (List.mem_filter.mpr ⟨hloan, hheld⟩) hnot
  pages := h'.pages.trans h.pages
  rewound page hpage page'' hpage'' hid := by
    have hmem : page.id ∈ s'.outputPages.map OutputPage.id := h.pages ▸ List.mem_map_of_mem hpage
    obtain ⟨page', hpage', hid'⟩ := List.mem_map.mp hmem
    have hlater : ∀ loan ∈ loans, loan.held s' = false → loan.held s'' = false := by
      intro loan _ hnot
      refine eq_false_of_ne_true fun hheld => ?_
      rw [held_mono h'.sublist hheld] at hnot
      cases hnot
    rcases h.rewound page hpage page' hpage' hid' with ⟨hgeneration, hcursor⟩ | hnone
    · rcases h'.rewound page' hpage' page'' hpage'' (hid.trans hid'.symm) with
        ⟨hgeneration', hcursor'⟩ | hnone
      · exact Or.inl ⟨hgeneration'.trans hgeneration, hcursor.trans hcursor'⟩
      · refine Or.inr fun loan hloan hon => ?_
        cases hheld : loan.held s' with
        | false => exact hlater loan hloan hheld
        | true => exact hnone loan (List.mem_filter.mpr ⟨hloan, hheld⟩) (hon.trans hid'.symm)
    · exact Or.inr fun loan hloan hon => hlater loan hloan (hnone loan hloan hon)
  sublist := h'.sublist.trans h.sublist
  nextOutputLeaseId := h'.nextOutputLeaseId.trans h.nextOutputLeaseId
  nextOutputPageId := h'.nextOutputPageId.trans h.nextOutputPageId

theorem Books.complete (h : Books cfg s loans) {kept rest : List OutputLease} {retired : OutputLease}
    (hretired : s.retiredOutputs = kept ++ retired :: rest) {turn : ℕ}
    (hreached : reached answers.getFenceValue turn retired.retireFence retired.retireValue = true) :
    Polled cfg answers s loans { s.completeOutput retired with retiredOutputs := kept ++ rest } := by
  have hmem : retired ∈ s.retiredOutputs := by
    rw [hretired]
    exact List.mem_append_right _ List.mem_cons_self
  obtain ⟨loan, hloan, hrecord⟩ := h.records retired hmem
  obtain ⟨⟨fence, value⟩, hretirement, hretiredOf⟩ := Option.map_eq_some_iff.mp hrecord
  obtain ⟨place, page, hplace, hpage, hplaced⟩ := h.findPage hloan
  have hleaseId := Loan.leaseId_of_record hrecord
  have hpageId : retired.pageId = loan.lease.pageId := by rw [← hretiredOf]; rfl
  have hgeneration : retired.pageGeneration = loan.lease.pageGeneration := by rw [← hretiredOf]; rfl
  have hstate : s.completeOutput retired = (s.releasePage place).eraseActive loan.lease.leaseId := by
    rw [completeOutput, hleaseId, hpageId, hgeneration, h.findActive hloan, hplace]
    simp [activeOf, h.queued loan hloan (hretirement ▸ rfl), h.hasOutstanding hloan hpage hplaced]
  rw [hstate]
  have honce := h.once
  rw [hretired, List.map_append, List.map_cons, List.nodup_middle, List.nodup_cons,
    ← List.map_append] at honce
  have hended : Ended s loan place { (s.releasePage place).eraseActive loan.lease.leaseId with
      retiredOutputs := kept ++ rest } := {
    outputPages := rfl
    activeOutputs := rfl
    kept := fun other hother hne => by
      rw [hretired] at hother
      rcases List.mem_append.mp hother with hother | hother
      · exact List.mem_append_left _ hother
      · rcases List.mem_cons.mp hother with rfl | hother
        · exact absurd hleaseId hne
        · exact List.mem_append_right _ hother
    sublist := by
      rw [hretired]
      exact List.Sublist.append (List.Sublist.refl _) (List.sublist_cons_self _ _)
    gone := fun other hother heq => honce.1 (List.mem_map.mpr ⟨other, hother, by rw [heq, hleaseId]⟩)
    outputBytes := rfl
    buffers := rfl }
  have hfilter := h.filter_held hloan hended (hrecord ▸ rfl)
  have hheld : ∀ other ∈ loans, other.lease.leaseId ≠ loan.lease.leaseId →
      other.held { (s.releasePage place).eraseActive loan.lease.leaseId with
        retiredOutputs := kept ++ rest } = true := by
    intro other hother hne
    have hin : other ∈ loans.filter (·.lease.leaseId ≠ loan.lease.leaseId) :=
      List.mem_filter.mpr ⟨hother, by simpa using hne⟩
    rw [← hfilter] at hin
    exact (List.mem_filter.mp hin).2
  exact {
    books := by
      rw [hfilter]
      exact h.ended hloan hpage hplaced hended
    passed := fun other hother hnot => by
      by_cases hid : other.lease.leaseId = loan.lease.leaseId
      · have hsame := h.loan_ext hother hloan hid
        subst hsame
        refine ⟨fence, value, turn, hretirement, ?_⟩
        rw [← hretiredOf] at hreached
        exact of_decide_eq_true hreached
      · rw [hheld other hother hid] at hnot
        cases hnot
    pages := map_modify fun p => by unfold releaseOne; split <;> rfl
    rewound := fun old hold page' hpage' hid => by
      refine (h.release_page hloan hpage hplaced hold hpage' hid).imp_right fun hnone other hother hon => ?_
      refine eq_false_of_ne_true fun hheldOther => ?_
      have hin : other ∈ loans.filter (·.lease.leaseId ≠ loan.lease.leaseId) := by
        rw [← hfilter]
        exact List.mem_filter.mpr ⟨hother, hheldOther⟩
      exact of_decide_eq_true (List.mem_filter.mp hin).2 (hnone other hother hon)
    sublist := hended.sublist
    nextOutputLeaseId := rfl
    nextOutputPageId := rfl }

theorem Books.pollOutputs (answers : PollAnswers) (h : Books cfg s loans)
    {kept rest : List OutputLease} (turn : ℕ)
    (hretired : s.retiredOutputs = kept ++ rest) :
    Polled cfg answers s loans (s.pollOutputs answers kept rest turn) := by
  induction rest generalizing s loans kept turn with
  | nil => exact .of_same h .refl
  | cons retired rest ih =>
    rw [SkinResources.pollOutputs]
    split
    · rename_i hreached
      have hpolled := h.complete hretired hreached
      exact hpolled.trans (ih hpolled.books (turn + 1) rfl)
    · exact ih h (turn + 1) (by rw [hretired, List.append_assoc, List.singleton_append])

theorem pollUploads_same (answers : PollAnswers) (kept rest : List UploadPage) (turn : ℕ)
    (s : SkinResources) : SameOutputs s (s.pollUploads answers kept rest turn).2.2 := by
  induction rest generalizing kept turn s with
  | nil => exact .refl
  | cons page rest ih =>
    rw [pollUploads]
    split
    · dsimp only
      split
      · refine SameOutputs.trans ?_ (ih _ _ _)
        exact ⟨rfl, rfl, rfl, rfl, rfl, rfl, Nat.le_refl _⟩
      · exact ⟨rfl, rfl, rfl, rfl, rfl, rfl, Nat.le_refl _⟩
    · exact ih _ _ _

theorem Books.settlePages (h : Books cfg s loans) : SameOutputs s s.settlePages := by
  refine ⟨?_, rfl, rfl, rfl, rfl, rfl, Nat.le_refl _⟩
  have hself : ∀ page ∈ s.outputPages,
      (if page.outstanding = 0 then { page with cursor := 0 } else page) = page := by
    intro page hpage
    split
    · rename_i hzero
      rw [← (h.page page hpage).idle hzero]
    · rfl
  exact (List.map_congr_left hself).trans (List.map_id _)

theorem Books.pollRetired (h : Books cfg s loans) (answers : PollAnswers) :
    Polled cfg answers s loans (s.pollRetired cfg answers).2 := by
  unfold SkinResources.pollRetired
  split
  · exact .of_same h .refl
  · dsimp only
    have hpackages : SameOutputs s { s with
        persistentPackages := s.persistentPackages.pollRetired cfg.store answers.getFenceValue } :=
      ⟨rfl, rfl, rfl, rfl, rfl, rfl, Nat.le_refl _⟩
    have huploads := hpackages.trans (pollUploads_same answers [] s.retiredUploads
      s.persistentPackages.retiredStaticUploads.length _)
    generalize pollUploads answers [] s.retiredUploads
      s.persistentPackages.retiredStaticUploads.length _ = result at huploads ⊢
    obtain ⟨finished, turn, t⟩ := result
    cases finished with
    | false => exact .of_same h huploads
    | true =>
      have hstart : Polled cfg answers s loans t := .of_same h huploads
      have hloop := hstart.trans (hstart.books.pollOutputs answers turn (List.nil_append _).symm)
      exact hloop.trans (.of_same hloop.books hloop.books.settlePages)

/-! ## Frames and uploads -/

theorem Books.beginFrame (h : Books cfg s loans) (mapEpoch deviceEpoch frameTag : UInt64)
    (answers : PollAnswers) :
    Polled cfg answers s loans (s.beginFrame cfg mapEpoch deviceEpoch frameTag answers).2 := by
  have hsame : ∀ t : SkinResources, t.outputPages = s.outputPages →
      t.activeOutputs = s.activeOutputs → t.retiredOutputs = s.retiredOutputs →
      t.outputBytes = s.outputBytes → t.nextOutputLeaseId = s.nextOutputLeaseId →
      t.nextOutputPageId = s.nextOutputPageId → t.buffers = s.buffers →
      Polled cfg answers s loans t := fun t h1 h2 h3 h4 h5 h6 h7 =>
    .of_same h ⟨h1, h2, h3, h4, h5, h6, h7.ge⟩
  unfold SkinResources.beginFrame
  split
  · exact .of_same h .refl
  · split
    · exact .of_same h .refl
    · dsimp only
      split
      · exact hsame _ rfl rfl rfl rfl rfl rfl rfl
      · split
        · have hframe := hsame { s with
            persistentPackages := (s.persistentPackages.beginFrame mapEpoch deviceEpoch frameTag).2
            mapEpoch := mapEpoch
            deviceEpoch := deviceEpoch } rfl rfl rfl rfl rfl rfl rfl
          have hpoll := hframe.trans (hframe.books.pollRetired answers)
          generalize SkinResources.pollRetired cfg answers _ = result at hpoll ⊢
          obtain ⟨finished, t⟩ := result
          cases finished with
          | false => exact hpoll
          | true =>
            exact hpoll.trans (.of_same hpoll.books ⟨rfl, rfl, rfl, rfl, rfl, rfl, Nat.le_refl _⟩)
        · exact hsame _ rfl rfl rfl rfl rfl rfl rfl

theorem leaveActive_same (s : SkinResources) : SameOutputs s s.leaveActive := by
  unfold leaveActive
  split
  · exact .refl
  · split <;> exact ⟨rfl, rfl, rfl, rfl, rfl, rfl, Nat.le_refl _⟩

theorem evictIdle_same (capacity count : ℕ) (s : SkinResources) :
    SameOutputs s (s.evictIdle cfg capacity count) := by
  induction count generalizing s with
  | zero => exact .refl
  | succ count ih =>
    rw [evictIdle]
    split
    · exact .refl
    · split
      · exact .refl
      · refine SameOutputs.trans ?_ (ih _)
        exact ⟨rfl, rfl, rfl, rfl, rfl, rfl, Nat.le_refl _⟩

theorem createUploadPage_same (answers : UploadAnswers) (capacity : ℕ) (s : SkinResources) :
    SameOutputs s (s.createUploadPage answers capacity).2 := by
  unfold createUploadPage
  split
  · exact .refl
  · exact .refl
  · dsimp only
    split <;> exact ⟨rfl, rfl, rfl, rfl, rfl, rfl, Nat.le_succ _⟩

theorem Books.replaceUploadPage (h : Books cfg s loans) (answers : UploadAnswers)
    (requiredBytes : ℕ) :
    Polled cfg answers.poll s loans (s.replaceUploadPage cfg answers requiredBytes).2 := by
  have hleave : Polled cfg answers.poll s loans s.leaveActive := .of_same h (leaveActive_same s)
  have hpoll := hleave.trans (hleave.books.pollRetired answers.poll)
  unfold SkinResources.replaceUploadPage
  generalize SkinResources.pollRetired cfg answers.poll _ = result at hpoll ⊢
  obtain ⟨finished, t⟩ := result
  have hsame : ∀ t', SameOutputs t t' → Polled cfg answers.poll s loans t' :=
    fun t' hsame => hpoll.trans (.of_same hpoll.books hsame)
  cases finished with
  | false => exact hpoll
  | true =>
    dsimp only
    split
    · exact hpoll
    · split
      · exact hpoll
      · split
        · exact hsame _ ⟨rfl, rfl, rfl, rfl, rfl, rfl, Nat.le_refl _⟩
        · split
          · exact hpoll
          · split
            · exact hsame _ (evictIdle_same _ _ _)
            · exact hsame _ ((evictIdle_same _ _ _).trans (createUploadPage_same _ _ _))

theorem Books.ensureUploadPage (h : Books cfg s loans) (answers : UploadAnswers)
    (requiredBytes : ℕ) :
    Polled cfg answers.poll s loans (s.ensureUploadPage cfg answers requiredBytes).2 := by
  unfold SkinResources.ensureUploadPage
  split
  · exact .of_same h .refl
  · split
    · exact h.replaceUploadPage answers requiredBytes
    · split
      · exact .of_same h .refl
      · split
        · exact .of_same h .refl
        · exact h.replaceUploadPage answers requiredBytes

theorem Books.allocateBatchUpload (h : Books cfg s loans) (answers : UploadAnswers)
    (paletteByteCount jobByteCount : ℕ) : Polled cfg answers.poll s loans
      (s.allocateBatchUpload cfg answers paletteByteCount jobByteCount).2 := by
  unfold SkinResources.allocateBatchUpload
  split
  · exact .of_same h .refl
  · split
    · exact .of_same h .refl
    · rename_i jobOffset _
      split
      · exact .of_same h .refl
      · have hensure := h.ensureUploadPage answers (jobOffset + jobByteCount)
        generalize SkinResources.ensureUploadPage cfg answers _ s = result at hensure ⊢
        obtain ⟨ensured, t⟩ := result
        rcases ensured with _ | _ | _
        · exact hensure
        · exact hensure
        · dsimp only
          split
          · exact hensure
          · split
            · exact hensure
            · split
              · exact hensure
              · exact hensure.trans
                  (.of_same hensure.books ⟨rfl, rfl, rfl, rfl, rfl, rfl, Nat.le_refl _⟩)

theorem Books.allocatePaletteUpload (h : Books cfg s loans) (answers : UploadAnswers)
    (paletteByteCount : ℕ) : Polled cfg answers.poll s loans
      (s.allocatePaletteUpload cfg answers paletteByteCount).2 := by
  unfold SkinResources.allocatePaletteUpload
  split
  · exact .of_same h .refl
  · split
    · exact .of_same h .refl
    · have hensure := h.ensureUploadPage answers paletteByteCount
      generalize SkinResources.ensureUploadPage cfg answers _ s = result at hensure ⊢
      obtain ⟨ensured, t⟩ := result
      rcases ensured with _ | _ | _
      · exact hensure
      · exact hensure
      · dsimp only
        split
        · exact hensure
        · split
          · exact hensure
          · split
            · exact hensure
            · exact hensure.trans
                (.of_same hensure.books ⟨rfl, rfl, rfl, rfl, rfl, rfl, Nat.le_refl _⟩)

theorem retireUploads_same (fence : Option ℕ) (value : UInt64) (s : SkinResources) :
    SameOutputs s (s.retireUploads fence value).2 := by
  unfold retireUploads
  split
  · exact .refl
  · split
    · exact .refl
    · exact ⟨rfl, rfl, rfl, rfl, rfl, rfl, Nat.le_refl _⟩

/-! ## Granting -/

def granted (loans : List Loan) : Option OutputLease → List Loan
  | some lease => if lease.valid then loans ++ [lent lease] else loans
  | none => loans

structure Granted (cfg : ResourceSetup) (s : SkinResources) (loans : List Loan)
    (result : Option OutputLease × SkinResources) : Prop where
  books : Books cfg result.2 (granted loans result.1)
  leaseId : ∀ lease, result.1 = some lease → lease.valid = true →
    lease.leaseId = s.nextOutputLeaseId
  retiredOutputs : result.2.retiredOutputs = s.retiredOutputs
  goesOn : ∀ page ∈ s.outputPages, ∀ page' ∈ result.2.outputPages, page'.id = page.id →
    page'.generation = page.generation ∧ page.cursor ≤ page'.cursor

theorem Granted.of_none (h : Books cfg s loans) {result : Option OutputLease × SkinResources}
    (hnone : granted loans result.1 = loans)
    (hvalid : ∀ lease, result.1 = some lease → lease.valid = false)
    (houtputs : result.2.outputPages = s.outputPages)
    (hactive : result.2.activeOutputs = s.activeOutputs)
    (hretired : result.2.retiredOutputs = s.retiredOutputs)
    (hbytes : result.2.outputBytes = s.outputBytes) (hbuffers : s.buffers ≤ result.2.buffers) :
    Granted cfg s loans result where
  books := by
    rw [hnone]
    exact h.of_outputs houtputs hactive hretired hbytes hbuffers
  leaseId lease hlease hlive := by
    rw [hvalid lease hlease] at hlive
    cases hlive
  retiredOutputs := hretired
  goesOn page hpage page' hpage' hid := by
    rw [houtputs] at hpage'
    rw [h.page_ext hpage' hpage hid]
    exact ⟨rfl, Nat.le_refl _⟩

theorem Granted.refused (h : Books cfg s loans) (desc : OutputLeaseDesc)
    (reason : GpuSkinFallbackReason) : Granted cfg s loans (some (.refused desc reason), s) :=
  .of_none h rfl (fun lease hlease => by cases hlease; rfl) rfl rfl rfl rfl (Nat.le_refl _)

theorem Books.fresh (h : Books cfg s loans) {leaseId : UInt64} (hnone : s.findActive leaseId = none) :
    ∀ loan ∈ loans, loan.lease.leaseId ≠ leaseId := by
  rintro loan hloan rfl
  rw [h.findActive hloan] at hnone
  cases hnone

def extend (offset bytes : ℕ) (page : OutputPage) : OutputPage :=
  { page with cursor := offset + bytes, outstanding := page.outstanding + 1 }

theorem Books.lease (h : Books cfg s loans) (hpage : s.outputPages[place]? = some page)
    {offset : ℕ} {desc : OutputLeaseDesc} (hbytes : desc.byteLength ≠ 0)
    (hcursor : page.cursor ≤ offset) (hsmall : offset ≤ 0xffffffff)
    (hfits : offset + desc.byteLength.toNat ≤ page.capacity)
    (hfresh : s.findActive s.nextOutputLeaseId = none) :
    Granted cfg s loans (some (s.leaseOf desc page offset), emplaceActive (s.leaseOf desc page offset)
      { s with
        outputPages := s.outputPages.modify place (extend offset desc.byteLength.toNat)
        nextOutputLeaseId := s.nextOutputLeaseId + 1 }) := by
  have hpageMem := List.mem_of_getElem? hpage
  have hbooks := h.page page hpageMem
  have hpositive : 0 < desc.byteLength.toNat :=
    Nat.pos_of_ne_zero fun hzero => hbytes (UInt32.toNat_inj.mp hzero)
  have hlower : (lent (s.leaseOf desc page offset)).lower = offset := by
    show (UInt32.ofNat offset).toNat = offset
    rw [UInt32.toNat_ofNat']
    omega
  have hstate : emplaceActive (s.leaseOf desc page offset) { s with
      outputPages := s.outputPages.modify place (extend offset desc.byteLength.toNat)
      nextOutputLeaseId := s.nextOutputLeaseId + 1 } = { s with
        outputPages := s.outputPages.modify place (extend offset desc.byteLength.toNat)
        nextOutputLeaseId := s.nextOutputLeaseId + 1
        activeOutputs := s.activeOutputs ++
          [((s.leaseOf desc page offset).leaseId, activeOf (s.leaseOf desc page offset) false)] } := by
    rw [emplaceActive, if_neg]
    show ¬(s.findActive s.nextOutputLeaseId).isSome = true
    rw [hfresh]
    exact Bool.false_ne_true
  rw [hstate]
  generalize hlease : s.leaseOf desc page offset = lease at hlower ⊢
  have hpageId : lease.pageId = page.id := by rw [← hlease]; rfl
  have hgeneration : lease.pageGeneration = page.generation := by rw [← hlease]; rfl
  have hleaseId : lease.leaseId = s.nextOutputLeaseId := by rw [← hlease]; rfl
  have hlength : lease.desc.byteLength = desc.byteLength := by rw [← hlease]; rfl
  have hslice : lease.slice = ⟨some page.buffer, offset, desc.byteLength.toNat⟩ := by
    rw [← hlease]; rfl
  have hvalid : lease.valid = true := by rw [← hlease]; rfl
  -- Each page is as it was, or the page that was extended.
  have hpages : ∀ page' ∈ s.outputPages.modify place (extend offset desc.byteLength.toNat),
      (page' ∈ s.outputPages ∧ page'.id ≠ page.id) ∨
        page' = extend offset desc.byteLength.toNat page := fun page' hpage' =>
    h.mem_modify_place hpage hpage'
  have hextended : extend offset desc.byteLength.toNat page ∈
      s.outputPages.modify place (extend offset desc.byteLength.toNat) :=
    List.mem_of_getElem? (i := place) (by simp [hpage])
  have hcount : ∀ id : UInt32, (loans ++ [lent lease]).countP (·.lease.pageId = id) =
      loans.countP (·.lease.pageId = id) + if page.id = id then 1 else 0 := by
    intro id
    rw [List.countP_append, List.countP_singleton]
    simp [lent, hpageId]
  have hids : (s.outputPages.modify place (extend offset desc.byteLength.toNat)).map
      OutputPage.id = s.outputPages.map OutputPage.id := map_modify fun _ => rfl
  have hbufs : (s.outputPages.modify place (extend offset desc.byteLength.toNat)).map
      OutputPage.buffer = s.outputPages.map OutputPage.buffer := map_modify fun _ => rfl
  have hcaps : (s.outputPages.modify place (extend offset desc.byteLength.toNat)).map
      OutputPage.capacity = s.outputPages.map OutputPage.capacity := map_modify fun _ => rfl
  refine { books := ?_, leaseId := ?_, retiredOutputs := rfl, goesOn := ?_ }
  · rw [granted, if_pos hvalid]
    exact {
      active := by
        rw [List.map_append, ← h.active]
        rfl
      ids := by
        rw [List.map_append]
        refine h.ids.append (List.nodup_singleton _) ?_
        rw [List.map_singleton, List.disjoint_singleton]
        intro hmem
        obtain ⟨loan, hloan, heq⟩ := List.mem_map.mp hmem
        exact h.fresh hfresh loan hloan (heq.trans hleaseId)
      valid := fun loan hloan => by
        rcases List.mem_append.mp hloan with hloan | hloan
        · exact h.valid loan hloan
        · rw [List.mem_singleton.mp hloan]
          exact hvalid
      queued := fun loan hloan hsome => by
        rcases List.mem_append.mp hloan with hloan | hloan
        · exact h.queued loan hloan hsome
        · rw [List.mem_singleton.mp hloan] at hsome
          cases hsome
      held := fun loan hloan => by
        rcases List.mem_append.mp hloan with hloan | hloan
        · exact h.held loan hloan
        · rw [List.mem_singleton.mp hloan]
          rfl
      records := fun retired hretired =>
        let ⟨loan, hloan, hrecord⟩ := h.records retired hretired
        ⟨loan, List.mem_append_left _ hloan, hrecord⟩
      once := h.once
      pages := hids ▸ h.pages
      buffers := hbufs ▸ h.buffers
      old := fun page' hpage' => by
        rcases hpages page' hpage' with ⟨hother, -⟩ | rfl
        · exact h.old page' hother
        · exact h.old page hpageMem
      placed := fun loan hloan => by
        rcases List.mem_append.mp hloan with hloan | hloan
        · obtain ⟨oldPage, hold, hid, hgen, hsl, hupper⟩ := h.placed loan hloan
          by_cases hsame : oldPage = page
          · subst hsame
            exact ⟨_, hextended, hid, hgen, hsl, by
              show loan.upper ≤ offset + desc.byteLength.toNat
              omega⟩
          · obtain ⟨j, hj⟩ := List.mem_iff_getElem?.mp hold
            have hne : place ≠ j := by
              rintro rfl
              rw [hpage, Option.some.injEq] at hj
              exact hsame hj.symm
            exact ⟨oldPage, List.mem_of_getElem? (i := j) (by simp [hj, hne]), hid, hgen, hsl, hupper⟩
        · rw [List.mem_singleton.mp hloan]
          refine ⟨_, hextended, hpageId.symm, hgeneration.symm, ?_, ?_⟩
          · show lease.slice = ⟨some page.buffer, _, lease.desc.byteLength.toNat⟩
            rw [hlower, hslice, hlength]
          · show _ + lease.desc.byteLength.toNat ≤ offset + desc.byteLength.toNat
            rw [hlower, hlength]
      apart := by
        rw [List.pairwise_append]
        refine ⟨h.apart, List.pairwise_singleton _ _, fun loan hloan new hnew hsame => ?_⟩
        rw [List.mem_singleton.mp hnew] at hsame ⊢
        obtain ⟨oldPage, hold, hid, -, -, hupper⟩ := h.placed loan hloan
        have hpageEq : oldPage = page :=
          h.page_ext hold hpageMem (hid.trans (hsame.trans hpageId))
        rw [hlower]
        rw [hpageEq] at hupper
        omega
      page := fun page' hpage' => by
        rcases hpages page' hpage' with ⟨hother, hne⟩ | rfl
        · have hbooks' := h.page page' hother
          refine { hbooks' with outstanding := ?_ }
          rw [hcount, if_neg (Ne.symm hne), hbooks'.outstanding]
          rfl
        · have hcounted := hbooks.counted
          exact {
            outstanding := by
              rw [hcount]
              show page.outstanding + 1 = loans.countP (·.lease.pageId = page.id) +
                if page.id = page.id then 1 else 0
              rw [if_pos rfl, hbooks.outstanding]
            counted := by
              show page.outstanding + 1 ≤ offset + desc.byteLength.toNat
              omega
            inside := hfits
            small := hbooks.small
            idle := fun hzero => absurd hzero (Nat.succ_ne_zero _) }
      bytes := by
        show s.outputBytes = _
        rw [h.bytes, ← hcaps]
      budget := h.budget }
  · rintro other hother -
    cases hother
    exact hleaseId
  · intro old hold page' hpage' hid
    rcases hpages page' hpage' with ⟨hother, -⟩ | rfl
    · rw [h.page_ext hother hold hid]
      exact ⟨rfl, Nat.le_refl _⟩
    · rw [← h.page_ext hpageMem hold hid]
      refine ⟨rfl, ?_⟩
      show page.cursor ≤ offset + desc.byteLength.toNat
      omega

end SkinResources

end War3VK.GpuSkin
