import War3VK.GpuSkin.OutputLedger
import War3VK.GpuSkin.PackageReadiness

/-!
# Output leases

Leases of one page do not overlap, and a page is rewound when its leases have ended, in every run in
which no call takes a lease of an earlier epoch for a live one and no container fails to grow.
-/

namespace War3VK.GpuSkin

open War3VK.Lib

variable {lease : OutputLease}

namespace SkinResources

variable {cfg : ResourceSetup} {s s' : SkinResources} {loans : List Loan}

/-! ## Granting -/

theorem Books.findActive_none (h : Books cfg s loans) {leaseId : UInt64}
    (hfresh : ∀ loan ∈ loans, loan.lease.leaseId ≠ leaseId) : s.findActive leaseId = none := by
  cases hfind : s.findActive leaseId with
  | none => rfl
  | some active =>
    obtain ⟨loan, hloan, hid, -⟩ := h.of_findActive hfind
    exact absurd hid (hfresh loan hloan)

variable {desc : OutputLeaseDesc}

theorem Books.leaseFrom (h : Books cfg s loans) (hbytes : desc.byteLength ≠ 0)
    (hfresh : s.findActive s.nextOutputLeaseId = none) (place : ℕ) :
    Granted cfg s loans (s.leaseFrom true desc place) := by
  unfold SkinResources.leaseFrom
  split
  · exact .refused h _ _
  · rename_i page hpage
    split
    · exact .refused h _ _
    · rename_i offset hoffset
      split
      · exact .refused h _ _
      · rename_i hfits
        push Not at hfits
        obtain ⟨hsmall, hinside, hroom⟩ := hfits
        rw [if_pos rfl]
        exact h.lease hpage hbytes (PackageStore.tryAlignUp_spec hoffset).2 hsmall (by omega) hfresh

def newPage (bytes : ℕ) (s : SkinResources) : OutputPage :=
  let capacity := max kOutputPageBytes bytes
  ⟨s.nextOutputPageId, 1, ⟨s.buffers, outputBufferInfo capacity⟩, capacity, 0, 0⟩

def withPage (bytes : ℕ) (s : SkinResources) : SkinResources :=
  { s with
    nextOutputPageId := s.nextOutputPageId + 1
    buffers := s.buffers + 1
    outputBytes := s.outputBytes + max kOutputPageBytes bytes
    outputPages := s.outputPages ++ [s.newPage bytes] }

theorem Books.withPage (h : Books cfg s loans) {bytes : ℕ} (hbytes : bytes < 2^32)
    (hroom : s.outputBytes + max kOutputPageBytes bytes ≤ cfg.outputBytes)
    (hid : s.nextOutputPageId ∉ s.outputPages.map OutputPage.id) :
    Books cfg (s.withPage bytes) loans := by
  have hnone : loans.countP (·.lease.pageId = s.nextOutputPageId) = 0 := by
    rw [List.countP_eq_zero]
    intro loan hloan heq
    obtain ⟨page, hpage, hplaced⟩ := h.placed loan hloan
    refine hid (List.mem_map.mpr ⟨page, hpage, ?_⟩)
    rw [hplaced.1, of_decide_eq_true heq]
  exact {
    active := h.active
    ids := h.ids
    valid := h.valid
    queued := h.queued
    held := h.held
    records := h.records
    once := h.once
    pages := by
      show ((s.outputPages ++ [s.newPage bytes]).map OutputPage.id).Nodup
      rw [List.map_append]
      refine h.pages.append (List.nodup_singleton _) ?_
      rw [List.map_singleton, List.disjoint_singleton]
      exact hid
    buffers := by
      show ((s.outputPages ++ [s.newPage bytes]).map OutputPage.buffer).Nodup
      rw [List.map_append]
      refine h.buffers.append (List.nodup_singleton _) ?_
      rw [List.map_singleton, List.disjoint_singleton]
      intro hmem
      -- The buffer of the new page is newer than the others.
      obtain ⟨page, hpage, heq⟩ := List.mem_map.mp hmem
      have hold := h.old page hpage
      rw [heq] at hold
      exact absurd hold (Nat.lt_irrefl _)
    old := fun page hpage => by
      rcases List.mem_append.mp hpage with hpage | hpage
      · exact (h.old page hpage).trans (Nat.lt_succ_self _)
      · rw [List.mem_singleton.mp hpage]
        exact Nat.lt_succ_self _
    placed := fun loan hloan =>
      let ⟨page, hpage, hplaced⟩ := h.placed loan hloan
      ⟨page, List.mem_append_left _ hpage, hplaced⟩
    apart := h.apart
    page := fun page hpage => by
      rcases List.mem_append.mp hpage with hpage | hpage
      · exact h.page page hpage
      · rw [List.mem_singleton.mp hpage]
        exact {
          outstanding := hnone.symm
          counted := Nat.le_refl _
          inside := Nat.zero_le _
          small := by
            show max kOutputPageBytes bytes < 2^32
            rw [kOutputPageBytes]
            omega
          idle := fun _ => rfl }
    bytes := by
      show s.outputBytes + _ = ((s.outputPages ++ [s.newPage bytes]).map OutputPage.capacity).sum
      rw [List.map_append, List.sum_append, h.bytes]
      rfl
    budget := hroom }

theorem Books.openPage (h : Books cfg s loans) {answers : OutputAnswers}
    (hbytes : desc.byteLength ≠ 0) (hfresh : s.findActive s.nextOutputLeaseId = none)
    (hactive : answers.activeGrow = true) (hpages : answers.pagesGrow = true)
    (hid : s.nextOutputPageId ∉ s.outputPages.map OutputPage.id) :
    Granted cfg s loans (s.openPage cfg answers desc) := by
  unfold SkinResources.openPage
  dsimp only
  split
  · exact .refused h _ _
  · rename_i hroom
    push Not at hroom
    split
    · exact .of_none h rfl (fun _ hlease => (nomatch hlease)) rfl rfl rfl rfl (Nat.le_refl _)
    · exact .of_none h rfl (fun _ hlease => by cases hlease; rfl) rfl rfl rfl rfl (Nat.le_refl _)
    · rw [hactive]
      have hpage := h.withPage (UInt32.toNat_lt desc.byteLength) (by omega) hid
      obtain ⟨hbooks, hleaseId, hretired, hgoesOn⟩ :=
        hpage.leaseFrom hbytes hfresh s.outputPages.length
      exact ⟨hbooks, hleaseId, hretired, fun page hpage' =>
        hgoesOn page (List.mem_append_left _ hpage')⟩

/-- What `allocateOutput` is promised: numbers that are free, and containers that grow. -/
def GrowsFor (answers : OutputAnswers) (desc : OutputLeaseDesc) (s : SkinResources) : Prop :=
  s.findActive s.nextOutputLeaseId = none ∧ answers.activeGrow = true ∧
    (s.findAvailablePage desc.byteLength.toNat = none →
      answers.pagesGrow = true ∧ s.nextOutputPageId ∉ s.outputPages.map OutputPage.id)

theorem Books.allocateOutput (h : Books cfg s loans) {answers : OutputAnswers}
    (hgrows : s.device = true → desc.byteLength ≠ 0 →
      desc.mapEpoch = s.mapEpoch → desc.deviceEpoch = s.deviceEpoch → GrowsFor answers desc s) :
    ∃ t, Polled cfg answers.poll s loans t ∧
      Granted cfg t (loans.filter (Loan.held t)) (s.allocateOutput cfg answers desc) := by
  have hself : Polled cfg answers.poll s loans s := .of_same h .refl
  unfold SkinResources.allocateOutput
  split
  · exact ⟨s, hself, .refused hself.books _ _⟩
  · rename_i hadmitted
    simp only [Bool.or_eq_true, Bool.not_eq_true', decide_eq_true_eq, not_or, Bool.not_eq_false,
      not_not] at hadmitted
    obtain ⟨⟨⟨hdevice, hbytes⟩, hmap⟩, hdev⟩ := hadmitted
    obtain ⟨hfresh, hactive, hpages⟩ := hgrows hdevice hbytes hmap hdev
    split
    · rw [hactive]
      exact ⟨s, hself, hself.books.leaseFrom hbytes hfresh _⟩
    · rename_i hfull
      obtain ⟨hpagesGrow, hid⟩ := hpages hfull
      have hpoll := h.pollRetired answers.poll
      generalize SkinResources.pollRetired cfg answers.poll s = result at hpoll ⊢
      obtain ⟨finished, t⟩ := result
      have hfresh' : t.findActive t.nextOutputLeaseId = none := by
        rw [hpoll.nextOutputLeaseId]
        exact hpoll.books.findActive_none fun loan hloan =>
          h.fresh hfresh loan (List.mem_of_mem_filter hloan)
      cases finished with
      | false =>
        exact ⟨t, hpoll, .of_none hpoll.books rfl (fun _ hlease => (nomatch hlease)) rfl rfl rfl rfl
          (Nat.le_refl _)⟩
      | true =>
        dsimp only
        split
        · rw [hactive]
          exact ⟨t, hpoll, hpoll.books.leaseFrom hbytes hfresh' _⟩
        · refine ⟨t, hpoll, hpoll.books.openPage hbytes hfresh' hactive hpagesGrow ?_⟩
          rw [hpoll.nextOutputPageId, hpoll.pages]
          exact hid

/-! ## Retiring and discarding -/

def Genuine (lease : OutputLease) (t : Ledgered) : Prop :=
  match t.1.findActive lease.leaseId with
  | none => True
  | some active =>
    matchesLease lease active = true → active.retirementQueued = false → lent lease ∈ t.2

theorem Genuine.loan (hgenuine : Genuine lease (s, loans)) {active : ActiveOutput}
    (hactive : s.findActive lease.leaseId = some active)
    (hmatches : matchesLease lease active = true) (hqueued : active.retirementQueued = false) :
    lent lease ∈ loans := by
  rw [Genuine, hactive] at hgenuine
  exact hgenuine hmatches hqueued

theorem Books.lent_iff (h : Books cfg s loans) {active : ActiveOutput}
    (hactive : s.findActive lease.leaseId = some active) (hlent : lent lease ∈ loans) :
    active.retirementQueued = false := by
  have hfind := h.findActive hlent
  rw [show (lent lease).lease.leaseId = lease.leaseId from rfl, hactive, Option.some.injEq] at hfind
  rw [hfind]
  rfl

theorem markRetired_of_ne {retirement : Option (ℕ × UInt64)} {loan : Loan} (h : loan ≠ lent lease) :
    markRetired lease retirement loan = loan := if_neg h

theorem lease_markRetired (lease : OutputLease) (retirement : Option (ℕ × UInt64)) (loan : Loan) :
    (markRetired lease retirement loan).lease = loan.lease := by
  unfold markRetired
  split
  · rename_i heq
    rw [heq]
    rfl
  · rfl

theorem map_markRetired_of_not_mem (retirement : Option (ℕ × UInt64)) (h : lent lease ∉ loans) :
    loans.map (markRetired lease retirement) = loans := by
  conv_rhs => rw [← List.map_id loans]
  exact List.map_congr_left fun loan hloan => markRetired_of_ne fun heq => h (heq ▸ hloan)

theorem map_lease_markRetired (lease : OutputLease) (retirement : Option (ℕ × UInt64))
    {α : Type} (f : OutputLease → α) :
    (loans.map (markRetired lease retirement)).map (fun loan => f loan.lease) =
      loans.map fun loan => f loan.lease := by
  rw [List.map_map]
  exact List.map_congr_left fun loan _ => congrArg f (lease_markRetired lease retirement loan)

theorem Books.not_retired (h : Books cfg s loans) (hlent : lent lease ∈ loans) :
    ∀ retired ∈ s.retiredOutputs, retired.leaseId ≠ lease.leaseId := by
  intro retired hretired hid
  obtain ⟨loan, hloan, hrecord⟩ := h.records retired hretired
  rw [Loan.leaseId_of_record hrecord] at hid
  rw [h.loan_ext hloan hlent hid] at hrecord
  cases hrecord

theorem Books.retire (h : Books cfg s loans) (hlent : lent lease ∈ loans)
    (retirement : Option (ℕ × UInt64)) :
    Books cfg { s.queueActive lease.leaseId with
        retiredOutputs := s.retiredOutputs ++
          (retirement.map fun r => retiredOf lease r.1 r.2).toList }
      (loans.map (markRetired lease retirement)) := by
  have hmark : markRetired lease retirement (lent lease) = ⟨lease, true, retirement⟩ := if_pos rfl
  have hrecord : (⟨lease, true, retirement⟩ : Loan).record =
      retirement.map fun r => retiredOf lease r.1 r.2 := rfl
  -- Only the one loan has its number.
  have hother : ∀ loan ∈ loans, loan.lease.leaseId ≠ lease.leaseId →
      markRetired lease retirement loan = loan := fun loan _ hne =>
    markRetired_of_ne fun heq => hne (by rw [heq]; rfl)
  have hone : ∀ loan ∈ loans, loan.lease.leaseId = lease.leaseId → loan = lent lease :=
    fun loan hloan hid => h.loan_ext hloan hlent hid
  have hcount : ∀ id : UInt32, (loans.map (markRetired lease retirement)).countP
      (·.lease.pageId = id) = loans.countP (·.lease.pageId = id) := by
    intro id
    rw [List.countP_map]
    refine List.countP_congr fun loan _ => ?_
    simp [lease_markRetired]
  have hfirst := h.not_retired hlent
  have hmem : ∀ loan ∈ loans.map (markRetired lease retirement),
      loan ∈ loans ∧ loan.lease.leaseId ≠ lease.leaseId ∨ loan = ⟨lease, true, retirement⟩ := by
    intro loan hloan
    obtain ⟨old, hold, rfl⟩ := List.mem_map.mp hloan
    by_cases hid : old.lease.leaseId = lease.leaseId
    · rw [hone old hold hid, hmark]
      exact Or.inr rfl
    · rw [hother old hold hid]
      exact Or.inl ⟨hold, hid⟩
  have hlease : ∀ loan ∈ loans.map (markRetired lease retirement),
      ∃ old ∈ loans, old.lease = loan.lease := by
    intro loan hloan
    obtain ⟨old, hold, rfl⟩ := List.mem_map.mp hloan
    exact ⟨old, hold, (lease_markRetired lease retirement old).symm⟩
  exact {
    active := by
      show (s.activeOutputs.map fun entry => if entry.1 = lease.leaseId then
        (entry.1, { entry.2 with retirementQueued := true }) else entry) = _
      rw [h.active, List.map_map, List.map_map]
      refine List.map_congr_left fun loan hloan => ?_
      show (if loan.lease.leaseId = lease.leaseId then _ else loan.entry) = _
      split
      · rename_i hid
        rw [hone loan hloan hid, Function.comp_apply, hmark]
        rfl
      · rename_i hid
        rw [Function.comp_apply, hother loan hloan hid]
    ids := by
      rw [map_lease_markRetired lease retirement OutputLease.leaseId]
      exact h.ids
    valid := fun loan hloan => by
      obtain ⟨old, hold, heq⟩ := hlease loan hloan
      rw [← heq]
      exact h.valid old hold
    queued := fun loan hloan hsome => by
      rcases hmem loan hloan with ⟨hold, -⟩ | rfl
      · exact h.queued loan hold hsome
      · rfl
    held := fun loan hloan => by
      rcases hmem loan hloan with ⟨hold, -⟩ | rfl
      · have hheld := h.held loan hold
        unfold Loan.held at hheld ⊢
        split
        · rfl
        · rename_i retired hloanRecord
          rw [hloanRecord, decide_eq_true_eq] at hheld
          exact decide_eq_true (List.mem_append_left _ hheld)
      · rw [Loan.held, hrecord]
        cases retirement with
        | none => rfl
        | some r => exact decide_eq_true (List.mem_append_right _ List.mem_cons_self)
    records := fun retired hretired => by
      rcases List.mem_append.mp hretired with hretired | hretired
      · obtain ⟨loan, hloan, hloanRecord⟩ := h.records retired hretired
        refine ⟨loan, List.mem_map.mpr ⟨loan, hloan, hother loan hloan ?_⟩, hloanRecord⟩
        rw [← Loan.leaseId_of_record hloanRecord]
        exact hfirst retired hretired
      · refine ⟨⟨lease, true, retirement⟩, List.mem_map.mpr ⟨lent lease, hlent, hmark⟩, ?_⟩
        rw [hrecord]
        exact Option.mem_toList.mp hretired
    once := by
      show ((s.retiredOutputs ++ _).map OutputLease.leaseId).Nodup
      rw [List.map_append]
      refine h.once.append ?_ ?_
      · cases retirement with
        | none => exact List.nodup_nil
        | some r => exact List.nodup_singleton _
      · intro id hid hid'
        obtain ⟨retired, hretired, rfl⟩ := List.mem_map.mp hid
        obtain ⟨new, hnew, hsame⟩ := List.mem_map.mp hid'
        obtain ⟨r, -, rfl⟩ := Option.map_eq_some_iff.mp (Option.mem_toList.mp hnew)
        exact hfirst retired hretired hsame.symm
    pages := h.pages
    buffers := h.buffers
    old := h.old
    placed := fun loan hloan => by
      rcases hmem loan hloan with ⟨hold, -⟩ | rfl
      · exact h.placed loan hold
      · exact h.placed (lent lease) hlent
    apart := by
      rw [List.pairwise_map]
      refine h.apart.imp fun {a b} hapart hsame => ?_
      simp only [Loan.upper, Loan.lower, lease_markRetired] at hapart hsame ⊢
      exact hapart hsame
    page := fun page hpage => by
      have hbooks := h.page page hpage
      exact { hbooks with outstanding := by rw [hcount, hbooks.outstanding] }
    bytes := h.bytes
    budget := h.budget }

/-- What `retireOutput` is promised. -/
def RetiresGenuine (lease : OutputLease) (fence : Option ℕ) (value : UInt64) (t : Ledgered) : Prop :=
  fence.isSome = true → value ≠ 0 → lease.valid = true → lease.desc.mapEpoch = t.1.mapEpoch →
    lease.desc.deviceEpoch = t.1.deviceEpoch → Genuine lease t

theorem Books.retireOutput (h : Books cfg s loans) (grows : Bool) {fence : Option ℕ}
    {value : UInt64} (hgenuine : RetiresGenuine lease fence value (s, loans)) :
    (s.retireOutput grows lease fence value).2.outputPages = s.outputPages ∧
      Books cfg (s.retireOutput grows lease fence value).2
        (bookCall (.retireOutput grows lease fence value)
          (orThrew .flag (s.retireOutput grows lease fence value).1) loans) := by
  unfold SkinResources.retireOutput
  cases fence with
  | none => exact ⟨rfl, h⟩
  | some fence =>
    dsimp only
    split
    · exact ⟨rfl, h⟩
    · rename_i hadmitted
      simp only [Bool.or_eq_true, Bool.not_eq_true', decide_eq_true_eq, not_or, Bool.not_eq_false,
        not_not] at hadmitted
      obtain ⟨⟨⟨hvalid, hvalue⟩, hmap⟩, hdevice⟩ := hadmitted
      have hgenuine := hgenuine rfl hvalue hvalid hmap hdevice
      split
      · exact ⟨rfl, h⟩
      · rename_i active hactive
        split
        · exact ⟨rfl, h⟩
        · rename_i hmatches
          split
          · -- Who was told so already is not marked again.
            rename_i hqueued
            refine ⟨rfl, ?_⟩
            have hnot : lent lease ∉ loans := fun hlent => by
              rw [h.lent_iff hactive hlent] at hqueued
              cases hqueued
            show Books cfg s (loans.map (markRetired lease (some (fence, value))))
            rw [map_markRetired_of_not_mem _ hnot]
            exact h
          · rename_i hqueued
            split
            · exact ⟨rfl, h⟩
            · split
              · exact ⟨rfl, h⟩
              · have hlent := hgenuine.loan hactive (by simpa using hmatches)
                  (eq_false_of_ne_true hqueued)
                cases grows with
                | true => exact ⟨rfl, h.retire hlent (some (fence, value))⟩
                | false =>
                  have hretire := h.retire hlent none
                  rw [Option.map_none, Option.toList_none, List.append_nil] at hretire
                  exact ⟨rfl, hretire⟩

theorem discardOutput_of_not_mem (hgenuine : lease.valid = true → Genuine lease (s, loans))
    (hlent : lent lease ∉ loans) : s.discardOutput lease = s := by
  unfold SkinResources.discardOutput
  split
  · rfl
  · rename_i hvalid
    split
    · rfl
    · rename_i active hactive
      split
      · rfl
      · rename_i hlive
        simp only [Bool.or_eq_true, Bool.not_eq_true', not_or, Bool.not_eq_false] at hlive
        have hvalid : lease.valid = true := by simpa using hvalid
        exact absurd ((hgenuine hvalid).loan hactive hlive.1 (eq_false_of_ne_true hlive.2)) hlent

theorem Books.discardOutput_eq (h : Books cfg s loans) (hlent : lent lease ∈ loans) :
    ∃ place page, s.outputPages[place]? = some page ∧ PlacedOn (lent lease) page ∧
      s.discardOutput lease = (s.releasePage place).eraseActive lease.leaseId := by
  obtain ⟨place, page, hplace, hpage, hplaced⟩ := h.findPage hlent
  refine ⟨place, page, hpage, hplaced, ?_⟩
  have hactive : s.findActive lease.leaseId = some (activeOf lease false) := h.findActive hlent
  have hplace : s.findPage lease.pageId lease.pageGeneration = some place := hplace
  have hvalid : lease.valid = true := h.valid _ hlent
  rw [SkinResources.discardOutput, hactive, hplace, hvalid]
  simp [matchesLease, activeOf, h.hasOutstanding hlent hpage hplaced]

end SkinResources

/-! ## Runs -/

def pollAnswers : ResourceCall → Option PollAnswers
  | .beginFrame _ _ _ answers => some answers
  | .allocateBatchUpload answers _ _ => some answers.poll
  | .allocatePaletteUpload answers _ => some answers.poll
  | .allocateOutput answers _ => some answers.poll
  | .pollRetired answers => some answers
  | _ => none

def dropsEpoch : ResourceCall → Bool
  | .invalidateMapEpoch _ => true
  | .invalidateDevice _ _ _ => true
  | .reset => true
  | _ => false

/-- A call ends a loan: it discards the lease, or saw the value that the loan was retired against. -/
def Ends (call : ResourceCall) (loan : Loan) : Prop :=
  (call = .discardOutput loan.lease ∧ loan = lent loan.lease) ∨
    ∃ answers, pollAnswers call = some answers ∧ loan.passed answers

/-- What the callers and the containers owe: leases that are taken for live ones are live, containers
grow, and the next numbers are free. -/
def Tidy (r : Record Ledgered ResourceCall ResourceOutput) : Prop :=
  match r.call with
  | .allocateOutput answers desc =>
    r.before.1.device = true → desc.byteLength ≠ 0 → desc.mapEpoch = r.before.1.mapEpoch →
      desc.deviceEpoch = r.before.1.deviceEpoch → SkinResources.GrowsFor answers desc r.before.1
  | .retireOutput _ lease fence value => SkinResources.RetiresGenuine lease fence value r.before
  | .discardOutput lease => lease.valid = true → SkinResources.Genuine lease r.before
  | _ => True

instance SkinResources.decidableGenuine (lease : OutputLease) (t : Ledgered) :
    Decidable (SkinResources.Genuine lease t) :=
  match h : t.1.findActive lease.leaseId with
  | none => isTrue (by rw [SkinResources.Genuine, h]; trivial)
  | some active => decidable_of_iff
      (SkinResources.matchesLease lease active = true → active.retirementQueued = false →
        lent lease ∈ t.2) (by rw [SkinResources.Genuine, h])

instance : DecidablePred Tidy := fun r =>
  match r with
  | ⟨t, .allocateOutput answers desc, _⟩ =>
    inferInstanceAs (Decidable (t.1.device = true → desc.byteLength ≠ 0 →
      desc.mapEpoch = t.1.mapEpoch → desc.deviceEpoch = t.1.deviceEpoch →
      t.1.findActive t.1.nextOutputLeaseId = none ∧ answers.activeGrow = true ∧
        (t.1.findAvailablePage desc.byteLength.toNat = none → answers.pagesGrow = true ∧
          t.1.nextOutputPageId ∉ t.1.outputPages.map OutputPage.id)))
  | ⟨t, .retireOutput _ lease fence value, _⟩ =>
    inferInstanceAs (Decidable (fence.isSome = true → value ≠ 0 → lease.valid = true →
      lease.desc.mapEpoch = t.1.mapEpoch → lease.desc.deviceEpoch = t.1.deviceEpoch →
      SkinResources.Genuine lease t))
  | ⟨t, .discardOutput lease, _⟩ =>
    inferInstanceAs (Decidable (lease.valid = true → SkinResources.Genuine lease t))
  | ⟨_, .beginFrame _ _ _ _, _⟩ => isTrue trivial
  | ⟨_, .invalidateMapEpoch _, _⟩ => isTrue trivial
  | ⟨_, .invalidateDevice _ _ _, _⟩ => isTrue trivial
  | ⟨_, .reset, _⟩ => isTrue trivial
  | ⟨_, .package _, _⟩ => isTrue trivial
  | ⟨_, .allocateBatchUpload _ _ _, _⟩ => isTrue trivial
  | ⟨_, .allocatePaletteUpload _ _, _⟩ => isTrue trivial
  | ⟨_, .retireUploads _ _, _⟩ => isTrue trivial
  | ⟨_, .discardUploads, _⟩ => isTrue trivial
  | ⟨_, .pollRetired _, _⟩ => isTrue trivial

/-- What a call leaves: loans that did not end, and pages that go on unless their loans ended. -/
structure Accounted (call : ResourceCall) (t t' : Ledgered) : Prop where
  kept : dropsEpoch call = false →
    ∀ loan ∈ t.2, (∃ loan' ∈ t'.2, loan'.lease = loan.lease) ∨ Ends call loan
  rewound : ∀ page ∈ t.1.outputPages, ∀ page' ∈ t'.1.outputPages, page'.id = page.id →
    (page'.generation = page.generation ∧ page.cursor ≤ page'.cursor) ∨
      ∀ loan ∈ t.2, loan.lease.pageId = page.id → Ends call loan

namespace SkinResources

variable {cfg : ResourceSetup} {s s' : SkinResources} {loans : List Loan} {call : ResourceCall}

variable {answers : PollAnswers}

theorem Polled.accounted (h : Polled cfg answers s loans s')
    (hcall : pollAnswers call = some answers) :
    Accounted call (s, loans) (s', loans.filter (Loan.held s')) where
  kept _ loan hloan := by
    cases hheld : loan.held s' with
    | true => exact Or.inl ⟨loan, List.mem_filter.mpr ⟨hloan, hheld⟩, rfl⟩
    | false => exact Or.inr (Or.inr ⟨answers, hcall, h.passed loan hloan hheld⟩)
  rewound page hpage page' hpage' hid :=
    (h.rewound page hpage page' hpage' hid).imp_right fun hnone loan hloan hon =>
      Or.inr ⟨answers, hcall, h.passed loan hloan (hnone loan hloan hon)⟩

theorem Books.accounted_of_pages (h : Books cfg s loans) {loans' : List Loan}
    (hpages : s'.outputPages = s.outputPages)
    (hkept : ∀ loan ∈ loans, ∃ loan' ∈ loans', loan'.lease = loan.lease) :
    Accounted call (s, loans) (s', loans') where
  kept _ loan hloan := Or.inl (hkept loan hloan)
  rewound page hpage page' hpage' hid := by
    rw [h.page_ext (hpages ▸ hpage' : page' ∈ s.outputPages) hpage hid]
    exact Or.inl ⟨rfl, Nat.le_refl _⟩

theorem Books.empty (hpages : s.outputPages = []) (hactive : s.activeOutputs = [])
    (hretired : s.retiredOutputs = []) (hbytes : s.outputBytes = 0) : Books cfg s [] where
  active := hactive
  ids := List.nodup_nil
  valid := fun _ h => (nomatch h)
  queued := fun _ h => (nomatch h)
  held := fun _ h => (nomatch h)
  records := by
    rw [hretired]
    exact fun _ h => (nomatch h)
  once := by
    rw [hretired]
    exact List.nodup_nil
  pages := by
    rw [hpages]
    exact List.nodup_nil
  buffers := by
    rw [hpages]
    exact List.nodup_nil
  old := by
    rw [hpages]
    exact fun _ h => (nomatch h)
  placed := fun _ h => (nomatch h)
  apart := List.Pairwise.nil
  page := by
    rw [hpages]
    exact fun _ h => (nomatch h)
  bytes := by
    rw [hpages, hbytes]
    rfl
  budget := by
    rw [hbytes]
    exact Nat.zero_le _

theorem drop_step (hdrops : dropsEpoch call = true) (hpages : s'.outputPages = [])
    (hactive : s'.activeOutputs = []) (hretired : s'.retiredOutputs = [])
    (hbytes : s'.outputBytes = 0) :
    Books cfg s' [] ∧ Accounted call (s, loans) (s', []) := by
  refine ⟨.empty hpages hactive hretired hbytes, fun hkeeps => ?_, fun _ _ page' hpage' => ?_⟩
  · rw [hdrops] at hkeeps
    cases hkeeps
  · rw [hpages] at hpage'
    exact (nomatch hpage')

theorem filter_granted (h : s'.retiredOutputs = s.retiredOutputs) (result : Option OutputLease) :
    (granted loans result).filter (Loan.held s') = granted (loans.filter (Loan.held s)) result := by
  have hheld : Loan.held s' = Loan.held s := funext fun loan => held_congr h loan
  rw [hheld]
  cases result with
  | none => rfl
  | some lease =>
    show List.filter _ (if lease.valid then loans ++ [lent lease] else loans) = ite _ _ _
    split
    · rw [List.filter_append]
      rfl
    · rfl

theorem mem_granted {loan : Loan} (h : loan ∈ loans) (result : Option OutputLease) :
    loan ∈ granted loans result := by
  unfold granted
  split
  · split
    · exact List.mem_append_left _ h
    · exact h
  · exact h

theorem Granted.accounted {t : SkinResources} {result : Option OutputLease × SkinResources}
    (hpolled : Polled cfg answers s loans t)
    (h : Granted cfg t (loans.filter (Loan.held t)) result)
    (hcall : pollAnswers call = some answers) :
    Accounted call (s, loans) (result.2, granted (loans.filter (Loan.held t)) result.1) where
  kept hkeeps loan hloan := by
    rcases (hpolled.accounted hcall).kept hkeeps loan hloan with ⟨loan', hloan', heq⟩ | hends
    · exact Or.inl ⟨loan', mem_granted hloan' _, heq⟩
    · exact Or.inr hends
  rewound page hpage page' hpage' hid := by
    have hmem : page.id ∈ t.outputPages.map OutputPage.id :=
      hpolled.pages ▸ List.mem_map_of_mem hpage
    obtain ⟨between, hbetween, hid'⟩ := List.mem_map.mp hmem
    rcases (hpolled.accounted hcall).rewound page hpage between hbetween hid' with
      ⟨hgeneration, hcursor⟩ | hends
    · have hgoes := h.goesOn between hbetween page' hpage' (hid.trans hid'.symm)
      exact Or.inl ⟨hgoes.1.trans hgeneration, hcursor.trans hgoes.2⟩
    · exact Or.inr hends

theorem bookCall_retireOutput (grows : Bool) (lease : OutputLease) (fence : Option ℕ)
    (value : UInt64) (output : ResourceOutput) :
    bookCall (.retireOutput grows lease fence value) output loans = loans ∨ ∃ retirement,
      bookCall (.retireOutput grows lease fence value) output loans =
        loans.map (markRetired lease retirement) := by
  unfold bookCall
  split
  case h_5 =>
    cases ‹ResourceCall.retireOutput _ _ _ _ = _›
    exact Or.inr ⟨_, rfl⟩
  case h_6 =>
    cases ‹ResourceCall.retireOutput _ _ _ _ = _›
    exact Or.inr ⟨_, rfl⟩
  case h_8 => exact Or.inl rfl
  all_goals contradiction

theorem retired_kept {grows : Bool} {fence : Option ℕ} {value : UInt64} {output : ResourceOutput}
    {loan : Loan} (h : loan ∈ loans) :
    ∃ loan' ∈ bookCall (.retireOutput grows lease fence value) output loans, loan'.lease = loan.lease := by
  rcases bookCall_retireOutput grows lease fence value output with heq | ⟨retirement, heq⟩
  · rw [heq]
    exact ⟨loan, h, rfl⟩
  · rw [heq]
    exact ⟨_, List.mem_map_of_mem h, lease_markRetired _ _ _⟩

theorem Books.discard (h : Books cfg s loans) (hlent : lent lease ∈ loans) :
    Books cfg (s.discardOutput lease) (loans.filter (· ≠ lent lease)) ∧
      Accounted (.discardOutput lease) (s, loans)
        (s.discardOutput lease, loans.filter (· ≠ lent lease)) := by
  obtain ⟨place, page, hpage, hplaced, hstate⟩ := h.discardOutput_eq hlent
  have hended : Ended s (lent lease) place (s.discardOutput lease) := by
    rw [hstate]
    exact ⟨rfl, rfl, fun _ hretired _ => hretired, List.Sublist.refl _, h.not_retired hlent, rfl, rfl⟩
  have hfilter : loans.filter (· ≠ lent lease) =
      loans.filter (·.lease.leaseId ≠ (lent lease).lease.leaseId) := by
    refine List.filter_congr fun loan hloan => ?_
    have hiff : loan = lent lease ↔ loan.lease.leaseId = (lent lease).lease.leaseId :=
      ⟨fun heq => by rw [heq], h.loan_ext hloan hlent⟩
    simp [hiff]
  refine ⟨?_, fun _ loan hloan => ?_, fun old hold page' hpage' hid => ?_⟩
  · rw [hfilter]
    exact h.ended hlent hpage hplaced hended
  · by_cases heq : loan = lent lease
    · subst heq
      exact Or.inr (Or.inl ⟨rfl, rfl⟩)
    · exact Or.inl ⟨loan, List.mem_filter.mpr ⟨hloan, by simpa using heq⟩, rfl⟩
  · rw [hended.outputPages] at hpage'
    refine (h.release_page hlent hpage hplaced hold hpage' hid).imp_right fun hlast loan hloan hon =>
      Or.inl ?_
    have heq := h.loan_ext hloan hlent (hlast loan hloan hon)
    subst heq
    exact ⟨rfl, rfl⟩

theorem Books.step_of_same (h : Books cfg s loans) (hsame : SameOutputs s s') :
    Books cfg s' (loans.filter (Loan.held s')) ∧
      Accounted call (s, loans) (s', loans.filter (Loan.held s')) := by
  have hbooks := h.same hsame
  rw [hbooks.filter_self]
  exact ⟨hbooks, h.accounted_of_pages hsame.outputPages fun loan hloan => ⟨loan, hloan, rfl⟩⟩

theorem Polled.step (h : Polled cfg answers s loans s') (hcall : pollAnswers call = some answers) :
    Books cfg s' (loans.filter (Loan.held s')) ∧
      Accounted call (s, loans) (s', loans.filter (Loan.held s')) :=
  ⟨h.books, h.accounted hcall⟩

theorem Books.step (h : Books cfg s loans)
    (htidy : Tidy (record (ledgerStep cfg) (s, loans) call)) :
    Books cfg (ledgerStep cfg call (s, loans)).2.1 (ledgerStep cfg call (s, loans)).2.2 ∧
      Accounted call (s, loans) (ledgerStep cfg call (s, loans)).2 := by
  cases call with
  | beginFrame mapEpoch deviceEpoch frameTag answers =>
    exact (h.beginFrame mapEpoch deviceEpoch frameTag answers).step rfl
  | invalidateMapEpoch nextMapEpoch => exact drop_step rfl rfl rfl rfl rfl
  | invalidateDevice device nextDeviceEpoch deviceAlignment => exact drop_step rfl rfl rfl rfl rfl
  | reset => exact drop_step rfl rfl rfl rfl rfl
  | package call => exact h.step_of_same ⟨rfl, rfl, rfl, rfl, rfl, rfl, Nat.le_refl _⟩
  | allocateBatchUpload answers paletteByteCount jobByteCount =>
    exact (h.allocateBatchUpload answers paletteByteCount jobByteCount).step rfl
  | allocatePaletteUpload answers paletteByteCount =>
    exact (h.allocatePaletteUpload answers paletteByteCount).step rfl
  | retireUploads fence value => exact h.step_of_same (retireUploads_same fence value s)
  | discardUploads => exact h.step_of_same ⟨rfl, rfl, rfl, rfl, rfl, rfl, Nat.le_refl _⟩
  | allocateOutput answers desc =>
    obtain ⟨t, hpolled, hgranted⟩ := h.allocateOutput htidy
    have hbook : (ledgerStep cfg (.allocateOutput answers desc) (s, loans)).2 =
        ((s.allocateOutput cfg answers desc).2,
          granted (loans.filter (Loan.held t)) (s.allocateOutput cfg answers desc).1) := by
      rw [← filter_granted hgranted.retiredOutputs]
      show (_, (bookCall _ (orThrew .lease (s.allocateOutput cfg answers desc).1) loans).filter _) = _
      cases (s.allocateOutput cfg answers desc).1 <;> rfl
    rw [hbook]
    exact ⟨hgranted.books, hgranted.accounted hpolled rfl⟩
  | retireOutput grows lease fence value =>
    obtain ⟨hpages, hbooks⟩ := h.retireOutput grows htidy
    have hbook : (ledgerStep cfg (.retireOutput grows lease fence value) (s, loans)).2 =
        ((s.retireOutput grows lease fence value).2, bookCall (.retireOutput grows lease fence value)
            (orThrew .flag (s.retireOutput grows lease fence value).1) loans) :=
      congrArg (Prod.mk _) hbooks.filter_self
    rw [hbook]
    exact ⟨hbooks, h.accounted_of_pages hpages fun loan hloan => retired_kept hloan⟩
  | discardOutput lease =>
    by_cases hlent : lent lease ∈ loans
    · obtain ⟨hbooks, haccounted⟩ := h.discard hlent
      have hbook : (ledgerStep cfg (.discardOutput lease) (s, loans)).2 =
          (s.discardOutput lease, loans.filter (· ≠ lent lease)) :=
        congrArg (Prod.mk _) hbooks.filter_self
      rw [hbook]
      exact ⟨hbooks, haccounted⟩
    · have hself : loans.filter (· ≠ lent lease) = loans := by
        rw [List.filter_eq_self]
        intro loan hloan
        have hne : loan ≠ lent lease := fun heq => hlent (heq ▸ hloan)
        simpa using hne
      have hstep : (ledgerStep cfg (.discardOutput lease) (s, loans)).2 =
          (s, loans.filter (Loan.held s)) := by
        show (s.discardOutput lease, (loans.filter (· ≠ lent lease)).filter
          (Loan.held (s.discardOutput lease))) = _
        rw [discardOutput_of_not_mem htidy hlent, hself]
      rw [hstep]
      exact h.step_of_same .refl
  | pollRetired answers => exact (h.pollRetired answers).step rfl

end SkinResources

def disjointSlices (a b : BufferSlice) : Bool :=
  a.buffer ≠ b.buffer || a.offset + a.length ≤ b.offset || b.offset + b.length ≤ a.offset

namespace SkinResources

variable {cfg : ResourceSetup} {s : SkinResources} {loans : List Loan}

theorem PlacedOn.slice {loan : Loan} {page : OutputPage} (h : PlacedOn loan page) :
    loan.lease.slice.buffer = some page.buffer ∧ loan.lease.slice.offset = loan.lower ∧
      loan.lease.slice.offset + loan.lease.slice.length = loan.upper := by
  rw [h.2.2.1]
  exact ⟨rfl, rfl, rfl⟩

theorem Books.slices_apart (h : Books cfg s loans) :
    loans.Pairwise fun a b => disjointSlices a.lease.slice b.lease.slice := by
  refine h.apart.imp_of_mem fun {a b} ha hb hapart => ?_
  obtain ⟨pageA, hpageA, hplacedA⟩ := h.placed a ha
  obtain ⟨pageB, hpageB, hplacedB⟩ := h.placed b hb
  obtain ⟨hbufferA, -, hupperA⟩ := hplacedA.slice
  obtain ⟨hbufferB, hlowerB, -⟩ := hplacedB.slice
  simp only [disjointSlices, Bool.or_eq_true, decide_eq_true_eq, hbufferA, hbufferB, hupperA, hlowerB]
  by_cases hbuffer : pageA.buffer = pageB.buffer
  · -- Slices of one buffer are of one page.
    have hpage := List.inj_on_of_nodup_map h.buffers hpageA hpageB hbuffer
    exact Or.inl (Or.inr (hapart (by rw [← hplacedA.1, ← hplacedB.1, hpage])))
  · exact Or.inl (Or.inl (by simpa using hbuffer))

theorem Books.outstanding (h : Books cfg s loans) {page : OutputPage} (hpage : page ∈ s.outputPages) :
    page.outstanding = loans.countP fun loan =>
      loan.lease.pageId = page.id ∧ loan.lease.pageGeneration = page.generation := by
  rw [(h.page page hpage).outstanding]
  refine List.countP_congr fun loan hloan => ?_
  simp only [decide_eq_true_eq, iff_self_and]
  intro hid
  obtain ⟨other, hother, hplaced⟩ := h.placed loan hloan
  rw [← hplaced.2.1, h.page_ext hother hpage (hplaced.1.trans hid)]

theorem Books.inside (h : Books cfg s loans) {loan : Loan} (hloan : loan ∈ loans) :
    ∃ page ∈ s.outputPages, page.id = loan.lease.pageId ∧
      page.generation = loan.lease.pageGeneration ∧ loan.lease.slice.buffer = some page.buffer ∧
      loan.lease.slice.offset + loan.lease.slice.length ≤ page.capacity := by
  obtain ⟨page, hpage, hplaced⟩ := h.placed loan hloan
  obtain ⟨hbuffer, -, hupper⟩ := hplaced.slice
  refine ⟨page, hpage, hplaced.1, hplaced.2.1, hbuffer, ?_⟩
  rw [hupper]
  exact hplaced.2.2.2.trans (h.page page hpage).inside

end SkinResources

open SkinResources in
/-- As long as every call is tidy, leases that are lent have no byte in common, every page counts those
of its generation, a page is rewound when they have ended, and the bytes are those of the pages. -/
theorem leases_apart (cfg : ResourceSetup) (device : Bool) (deviceAlignment : ℕ)
    (calls : List ResourceCall)
    (hcalls : ∀ r ∈ history (ledgerStep cfg) calls (init device deviceAlignment, []), Tidy r) :
    let t := run (ledgerStep cfg) calls (init device deviceAlignment, [])
    t.2.Pairwise (fun a b => disjointSlices a.lease.slice b.lease.slice) ∧
      (∀ loan ∈ t.2, ∃ page ∈ t.1.outputPages, page.id = loan.lease.pageId ∧
        page.generation = loan.lease.pageGeneration ∧ loan.lease.slice.buffer = some page.buffer ∧
        loan.lease.slice.offset + loan.lease.slice.length ≤ page.capacity) ∧
      (∀ page ∈ t.1.outputPages, page.outstanding = t.2.countP fun loan =>
        loan.lease.pageId = page.id ∧ loan.lease.pageGeneration = page.generation) ∧
      (∀ r ∈ history (ledgerStep cfg) calls (init device deviceAlignment, []),
        Accounted r.call r.before (ledgerStep cfg r.call r.before).2) ∧
      t.1.outputBytes = (t.1.outputPages.map OutputPage.capacity).sum ∧
      t.1.outputBytes ≤ cfg.outputBytes := by
  have hbooks := @history_induction _ _ _ (ledgerStep cfg)
    (fun t past => (∀ r ∈ past, Tidy r) → Books cfg t.1 t.2 ∧
      ∀ r ∈ past, Accounted r.call r.before (ledgerStep cfg r.call r.before).2)
    (init device deviceAlignment, [])
    (fun _ => ⟨.empty rfl rfl rfl rfl, fun _ h => (nomatch h)⟩)
    (fun t past call ih hpast => by
      rw [List.forall_mem_append] at hpast
      obtain ⟨hbooks, haccounted⟩ := ih hpast.1
      obtain ⟨hstep, hcall⟩ := hbooks.step (hpast.2 _ List.mem_cons_self)
      refine ⟨hstep, List.forall_mem_append.mpr ⟨haccounted, fun r hr => ?_⟩⟩
      rw [List.mem_singleton.mp hr]
      exact hcall)
    calls
  obtain ⟨h, haccounted⟩ := hbooks hcalls
  exact ⟨h.slices_apart, fun loan hloan => h.inside hloan, fun page hpage => h.outstanding hpage,
    haccounted, h.bytes, h.budget⟩

def smallResources : ResourceSetup := ⟨smallSetup, 2 * kOutputPageBytes, kMaxUploadPageBytes⟩

def quiet : PollAnswers := ⟨fun _ _ => 0, fun _ => true⟩

def frameOf (mapEpoch : UInt64) : ResourceCall := .beginFrame mapEpoch 1 1 quiet

def wanted (mapEpoch : UInt64) : OutputLeaseDesc := ⟨mapEpoch, 1, 1, 1, 1, 1, 0, 64, 16, 4, 0, 0⟩

def askFor (mapEpoch : UInt64) : ResourceCall :=
  .allocateOutput ⟨quiet, .created, true, true⟩ (wanted mapEpoch)

def firstLease (mapEpoch : UInt64) (buffer : ℕ) : OutputLease :=
  ⟨wanted mapEpoch, ⟨some ⟨buffer, outputBufferInfo kOutputPageBytes⟩, 0, 64⟩, none, 0, 1, 1, 1,
    .none⟩

def twoLeases : List ResourceCall :=
  [frameOf 1, askFor 1, .invalidateMapEpoch 2, frameOf 2, askFor 2, askFor 2]

/-- The same, but the lease of the first map is discarded in between. -/
def staleDiscard : List ResourceCall :=
  [frameOf 1, askFor 1, .invalidateMapEpoch 2, frameOf 2, askFor 2,
    .discardOutput (firstLease 1 0), askFor 2]

open SkinResources in
/-- Discarding the lease of the first map lends the bytes of the second map's lease again, although
nobody has given that one back. -/
theorem stale_discard_overlaps :
    let t := run (ledgerStep smallResources) staleDiscard (init true 16, [])
    (run (ledgerStep smallResources) (staleDiscard.take 2) (init true 16, [])).2 =
        [lent (firstLease 1 0)] ∧
      (run (ledgerStep smallResources) (staleDiscard.take 5) (init true 16, [])).2 =
        [lent (firstLease 2 1)] ∧
      lent (firstLease 2 1) ∈ t.2 ∧
      ¬t.2.Pairwise (fun a b => disjointSlices a.lease.slice b.lease.slice) := by
  decide +kernel

/-- Without it the two leases of the second map have no byte in common. -/
theorem leases_apart_two :
    (run (ledgerStep smallResources) twoLeases (SkinResources.init true 16, [])).2.Pairwise
      fun a b => disjointSlices a.lease.slice b.lease.slice :=
  (leases_apart smallResources true 16 twoLeases (by decide +kernel)).1

end War3VK.GpuSkin
