import Mathlib
import War3VK.GpuSkin.RecordingAuthorityRuns

/-!
# A plan that is recorded to its end

Calls with another ticket do not touch the transaction that is under way, and no call does while its
callback runs. So recording the plan in its order, sealing it and emitting it by its owner succeeds,
whatever other calls come between.
-/

namespace War3VK.GpuSkin.RecordingAuthority

open War3VK.Lib

variable {deref : ℕ → ProofCatalog.Snapshot} {t t' : Emitting}

/-! ## Calls that have no effect -/

structure SealsLeft (s : RecordingAuthority) : Prop where
  next : s.transactionGeneration.toNat + 1 = s.nextTransactionGeneration.toNat
  positive : 1 ≤ s.nextSealGeneration.toNat
  left : s.nextSealGeneration.toNat ≤
    s.transactionGeneration.toNat + if s.phase = .recording then 0 else 1

variable {call : AuthorityCall}

theorem SealsLeft.step (h : SealsLeft t.1) : SealsLeft (authorityStep deref call t).2.1 := by
  have hchange := authorityStep_change deref call t.1 t.2
  rw [show (t.1, t.2) = t from rfl] at hchange
  generalize authorityStep deref call t = result at hchange ⊢
  obtain ⟨hnext, hpositive, hleft⟩ := h
  have hmore : t.1.nextSealGeneration.toNat ≤ t.1.transactionGeneration.toNat + 1 :=
    hleft.trans (by split <;> omega)
  cases hchange with
  | kept output hplain => exact ⟨hnext, hpositive, hleft⟩
  | failed output hplain phase hphase hopen =>
    refine ⟨hnext, hpositive, ?_⟩
    rcases hphase with rfl | rfl <;> exact hmore
  | exhausted thread allocates input hused => exact ⟨hnext, hpositive, hmore⟩
  | created thread input hused hphase hemitting hcontext hvalid howner =>
    obtain ⟨-, -, -, hlast⟩ := generationsUsed_eq_false hused
    refine ⟨(toNat_succ hlast).symm, hpositive, ?_⟩
    show t.1.nextSealGeneration.toNat ≤ t.1.nextTransactionGeneration.toNat + 0
    omega
  | recorded thread input hphase howner hcontext hvalid hcount hsame =>
    exact ⟨hnext, hpositive, hleft⟩
  | sealed thread hphase howner hcount hplan =>
    rw [if_pos hphase] at hleft
    have hlt := UInt64.toNat_lt t.1.nextTransactionGeneration
    have hsucc : t.1.withSeal.nextSealGeneration.toNat = t.1.nextSealGeneration.toNat + 1 := by
      refine toNat_succ fun heq => ?_
      rw [heq] at hleft
      have hmax : (0xffffffffffffffff : UInt64).toNat = 2^64 - 1 := rfl
      omega
    refine ⟨hnext, ?_, ?_⟩
    · show 1 ≤ t.1.withSeal.nextSealGeneration.toNat
      omega
    rw [hsucc, if_neg (show ¬t.1.withSeal.phase = .recording from nofun)]
    exact Nat.succ_le_succ hleft
  | called thread hphase howner hcount hplan => exact ⟨hnext, hpositive, hmore⟩
  | returned succeeded result phase hrunning hphase =>
    refine ⟨hnext, hpositive, ?_⟩
    rcases hphase with hphase | ⟨-, -, hphase⟩ <;> rw [(Prod.mk.inj hphase).2] <;> exact hmore

def presents (ticket : TransactionTicket) : AuthorityCall → Bool
  | .record _ other _ => other = ticket
  | .sealTransaction _ other _ => other = ticket
  | .emitSealed _ other _ _ => other.transaction = ticket
  | .abort other => other = ticket
  | .abortSealed other => other.transaction = ticket
  | _ => false

/-- The call does not create where no number is left for another transaction. -/
def Spares (s : RecordingAuthority) : AuthorityCall → Prop
  | .create _ _ _ => s.nextTransactionGeneration ≠ 0xffffffffffffffff
  | _ => True

theorem Spares.congr {s t : RecordingAuthority}
    (hnext : t.nextTransactionGeneration = s.nextTransactionGeneration) (h : Spares s call) :
    Spares t call := by
  cases call with
  | create thread allocates input =>
    show t.nextTransactionGeneration ≠ _
    rw [hnext]
    exact h
  | _ => trivial

def Phase.busy (phase : Phase) : Bool := phase = .recording || phase = .sealed || phase = .emitting

structure UnderWay (s : RecordingAuthority) : Prop where
  busy : s.phase.busy = true
  instanceGeneration : s.instanceGeneration ≠ 0
  transactionGeneration : s.transactionGeneration ≠ 0
  next : s.nextTransactionGeneration ≠ 0

variable {input : CreateInput}

theorem UnderWay.create {s : RecordingAuthority} (h : UnderWay s) {running thread : ℕ}
    {allocates : Bool} (hspares : Spares s (.create thread allocates input)) :
    (authorityStep deref (.create thread allocates input) (s, running)).2 = (s, running) := by
  have hexhausted : s.phase ≠ .exhausted := fun heq => by
    have hbusy := h.busy
    rw [heq] at hbusy
    cases hbusy
  have hused : s.generationsUsed = false := by
    simp only [generationsUsed, Bool.or_eq_false_iff, decide_eq_false_iff_not]
    exact ⟨⟨⟨hexhausted, h.instanceGeneration⟩, h.next⟩, hspares⟩
  have hbusy : (s.phase = .recording || s.phase = .sealed || s.phase = .emitting) = true := h.busy
  show ((RecordingAuthority.create deref thread allocates input s).2.2, running) = _
  rw [RecordingAuthority.create, hused, hbusy]
  rfl

/-- What keeps a call from having an effect: its ticket, or that the callback runs. -/
def Barred (s : RecordingAuthority) (ticket : TransactionTicket) : Prop :=
  s.exactTicket ticket = false ∨ s.phase = .emitting

variable {ticket : TransactionTicket}

theorem Barred.emitting {s : RecordingAuthority} (h : Barred s ticket)
    (hexact : ¬(!s.exactTicket ticket) = true) : s.phase = .emitting :=
  h.resolve_left (by simpa using hexact)

theorem failCurrent_emitting {s : RecordingAuthority} (h : s.phase = .emitting) :
    s.failCurrent = s := by simp [failCurrent, h]

theorem Barred.record {s : RecordingAuthority} (h : Barred s ticket) (thread : ℕ)
    (input : RecordInput) : (RecordingAuthority.record deref thread ticket input s).2 = s := by
  unfold RecordingAuthority.record
  by_cases hexact : (!s.exactTicket ticket) = true
  · rw [if_pos hexact]
    split <;> rfl
  · have hemitting := h.emitting hexact
    rw [if_neg hexact, if_pos (show s.phase ≠ .recording by rw [hemitting]; exact nofun),
      failCurrent_emitting hemitting]
    split <;> rfl

theorem Barred.sealTransaction {s : RecordingAuthority} (h : Barred s ticket) (thread : ℕ)
    (context : RecordingContext) :
    (RecordingAuthority.sealTransaction deref thread ticket context s).2.2 = s := by
  unfold RecordingAuthority.sealTransaction
  by_cases hexact : (!s.exactTicket ticket) = true
  · rw [if_pos hexact]
    split <;> rfl
  · have hemitting := h.emitting hexact
    rw [if_neg hexact, if_pos (show s.phase ≠ .recording by rw [hemitting]; exact nofun),
      failCurrent_emitting hemitting]
    split <;> rfl

theorem Barred.emitSealed {s : RecordingAuthority} {ticket : SealedTicket}
    (deref : ℕ → ProofCatalog.Snapshot) (h : Barred s ticket.transaction) (thread : ℕ) (context : RecordingContext) (callback : Bool) :
    ∃ result,
      RecordingAuthority.emitSealed deref thread ticket context callback s = (.error result, s) := by
  unfold RecordingAuthority.emitSealed
  by_cases hexact : (!s.exactTicket ticket.transaction) = true
  · rw [if_pos hexact]
    split <;> exact ⟨_, rfl⟩
  · rw [if_neg hexact, if_pos (h.emitting hexact)]
    split <;> exact ⟨_, rfl⟩

theorem Barred.abort {s : RecordingAuthority} (h : Barred s ticket) :
    (RecordingAuthority.abort ticket s).2 = s := by
  unfold RecordingAuthority.abort
  by_cases hexact : (!s.exactTicket ticket) = true
  · rw [if_pos hexact]
    split <;> rfl
  · rw [if_neg hexact, if_pos (h.emitting hexact)]
    split <;> rfl

theorem Barred.of_ne {s : RecordingAuthority} (h : decide (ticket = s.currentTicket) = false) :
    Barred s ticket := by
  refine Or.inl (eq_false_of_ne_true fun hexact => ?_)
  rw [exactTicket_iff.mp hexact] at h
  simp at h

theorem UnderWay.foreign {s : RecordingAuthority} (h : UnderWay s) {running : ℕ}
    (hforeign : presents s.currentTicket call = false ∨ s.phase = .emitting)
    (hspares : Spares s call)
    (hreturns : running = 0 ∨ ∀ succeeded, call ≠ .callbackReturns succeeded) :
    (authorityStep deref call (s, running)).2 = (s, running) := by
  cases call with
  | create thread allocates input => exact h.create hspares
  | record thread ticket input =>
    have hbarred : Barred s ticket := hforeign.elim .of_ne Or.inr
    exact congrArg (·, running) (hbarred.record thread input)
  | sealTransaction thread ticket context =>
    have hbarred : Barred s ticket := hforeign.elim .of_ne Or.inr
    exact congrArg (·, running) (hbarred.sealTransaction thread context)
  | emitSealed thread ticket context callback =>
    have hbarred : Barred s ticket.transaction := hforeign.elim .of_ne Or.inr
    obtain ⟨result, hresult⟩ := hbarred.emitSealed deref thread context callback
    simp only [authorityStep, hresult]
  | callbackReturns succeeded =>
    rcases hreturns with rfl | hreturns
    · rfl
    · exact absurd rfl (hreturns succeeded)
  | abort ticket =>
    have hbarred : Barred s ticket := hforeign.elim .of_ne Or.inr
    exact congrArg (·, running) hbarred.abort
  | abortSealed ticket =>
    have hbarred : Barred s ticket.transaction := hforeign.elim .of_ne Or.inr
    exact congrArg (·, running) hbarred.abort

/-! ## Recording a plan to its end -/

def atRecord (plan : CreateInput) (n : ℕ) (s : RecordingAuthority) : RecordingAuthority :=
  { s with
    recordCount := UInt32.ofNat n
    recordDigest := (plan.expectedRecords.take n).foldl appendRecordDigest
      (beginRecordDigest plan.context plan.expectedRecordCount) }

structure Created (deref : ℕ → ProofCatalog.Snapshot) (owner : ℕ) (plan : CreateInput)
    (s : RecordingAuthority) : Prop where
  underWay : UnderWay s
  phase : s.phase = .recording
  valid : ValidPlan deref plan
  retained : s.plan = plan
  owner : s.ownerThread = some owner
  sealGeneration : s.nextSealGeneration ≠ 0 ∧ s.nextSealGeneration ≠ 0xffffffffffffffff

variable {owner : ℕ} {plan : CreateInput} {s : RecordingAuthority}

theorem exactTicket_currentTicket : s.exactTicket s.currentTicket = true := exactTicket_iff.mpr rfl

theorem UnderWay.valid (h : UnderWay s) : s.currentTicket.valid = true := by
  simp [currentTicket, TransactionTicket.valid, h.instanceGeneration, h.transactionGeneration]

theorem atRecord_next (n : ℕ) :
    (s.atRecord plan n).nextTransactionGeneration = s.nextTransactionGeneration := rfl

theorem UnderWay.atRecord (h : UnderWay s) (n : ℕ) : UnderWay (s.atRecord plan n) :=
  ⟨h.busy, h.instanceGeneration, h.transactionGeneration, h.next⟩

theorem Created.record (h : Created deref owner plan s) {n : ℕ} {input : RecordInput}
    (hinput : plan.expectedRecords[n]? = some input) :
    RecordingAuthority.record deref owner s.currentTicket input (s.atRecord plan n) =
      (.recorded, s.atRecord plan (n + 1)) := by
  have hlt : n < plan.expectedRecordCount.toNat := by
    rw [← h.valid.counted]
    exact (List.getElem?_eq_some_iff.mp hinput).choose
  have hsmall := UInt32.toNat_lt plan.expectedRecordCount
  have hbounded := UInt32.le_iff_toNat_le.mp h.valid.bounded
  obtain ⟨hcontext, hvalid, hordinal⟩ := h.valid.record n input hinput
  have hn : (UInt32.ofNat n).toNat = n := by
    rw [UInt32.toNat_ofNat']
    omega
  have hcapacity : (decide (UInt32.ofNat n ≥ kMaxRecords) ||
      decide (UInt32.ofNat n ≥ plan.expectedRecordCount)) = false := by
    simp only [Bool.or_eq_false_iff, decide_eq_false_iff_not, ge_iff_le, UInt32.le_iff_toNat_le, hn]
    omega
  have hplace : input.ordinal = UInt32.ofNat n := UInt32.toNat_inj.mp (by rw [hordinal, hn])
  have hsame : (plan.expectedRecords[(UInt32.ofNat n).toNat]?).any (sameRecordInput input) = true := by
    rw [hn, hinput]
    exact sameRecordInput_self input
  have hnext : UInt32.ofNat n + 1 = UInt32.ofNat (n + 1) := by
    apply UInt32.toNat_inj.mp
    rw [UInt32.toNat_add, hn, UInt32.toNat_ofNat']
    rfl
  have hdigest : appendRecordDigest ((plan.expectedRecords.take n).foldl appendRecordDigest
      (beginRecordDigest plan.context plan.expectedRecordCount)) input =
        (plan.expectedRecords.take (n + 1)).foldl appendRecordDigest
          (beginRecordDigest plan.context plan.expectedRecordCount) := by
    rw [List.take_add_one, hinput, List.foldl_append]
    rfl
  have hticket : (s.atRecord plan n).exactTicket s.currentTicket = true := exactTicket_currentTicket
  have hphase : (s.atRecord plan n).phase = .recording := h.phase
  have howner : (s.atRecord plan n).ownerThread = some owner := h.owner
  have hplan : (s.atRecord plan n).plan = plan := h.retained
  have hcount : (s.atRecord plan n).recordCount = UInt32.ofNat n := rfl
  -- Every test of the source is decided by what the plan says of this element.
  rw [RecordingAuthority.record, h.underWay.valid, hticket, hphase, howner, hplan, hvalid, hcount,
    hcapacity, hplace, hsame]
  simp only [sameContext, hcontext, Bool.not_true, Bool.false_eq_true, ne_eq, not_true_eq_false,
    decide_true, if_false]
  simp only [RecordingAuthority.atRecord, hnext, hdigest, h.phase, h.owner, h.retained]

variable {calls : List AuthorityCall}

theorem Created.records (h : Created deref owner plan s) {n : ℕ}
    (hcalls : calls.filter (presents s.currentTicket) =
      (plan.expectedRecords.drop n).map (.record owner s.currentTicket))
    (hspares : ∀ call ∈ calls, Spares s call) (hn : n ≤ plan.expectedRecords.length) :
    run (authorityStep deref) calls (s.atRecord plan n, 0) =
      (s.atRecord plan plan.expectedRecords.length, 0) := by
  induction calls generalizing n with
  | nil =>
    rw [List.filter_nil, eq_comm, List.map_eq_nil_iff, List.drop_eq_nil_iff] at hcalls
    rw [show n = plan.expectedRecords.length by omega]
    rfl
  | cons call calls ih =>
    obtain ⟨hspare, hrestSpares⟩ := List.forall_mem_cons.mp hspares
    rw [run_cons]
    cases hpresents : presents s.currentTicket call with
    | false =>
      -- Another call leaves the transaction.
      rw [List.filter_cons_of_neg (by rw [hpresents]; exact Bool.false_ne_true)] at hcalls
      rw [(h.underWay.atRecord n).foreign (Or.inl hpresents) (hspare.congr rfl) (Or.inl rfl)]
      exact ih hcalls hrestSpares hn
    | true =>
      -- A call with its ticket is the next element of the plan.
      rw [List.filter_cons_of_pos hpresents] at hcalls
      cases hrest : plan.expectedRecords.drop n with
      | nil =>
        rw [hrest] at hcalls
        cases hcalls
      | cons input rest =>
        rw [hrest, List.map_cons, List.cons.injEq] at hcalls
        obtain ⟨rfl, hcalls⟩ := hcalls
        have hinput : plan.expectedRecords[n]? = some input := by
          have hhead := congrArg List.head? hrest
          rwa [List.head?_drop] at hhead
        have htail : plan.expectedRecords.drop (n + 1) = rest := by
          rw [← List.tail_drop, hrest, List.tail_cons]
        have hlt := (List.getElem?_eq_some_iff.mp hinput).choose
        have hstep : (authorityStep deref (.record owner s.currentTicket input)
            (s.atRecord plan n, 0)).2 = (s.atRecord plan (n + 1), 0) := by
          show ((RecordingAuthority.record deref owner s.currentTicket input
            (s.atRecord plan n)).2, 0) = _
          rw [h.record hinput]
        rw [hstep]
        exact ih (by rw [hcalls, htail]) hrestSpares hlt

def sealedOf (plan : CreateInput) (s : RecordingAuthority) : RecordingAuthority :=
  (s.atRecord plan plan.expectedRecords.length).withSeal

theorem ValidPlan.count (h : ValidPlan deref plan) :
    UInt32.ofNat plan.expectedRecords.length = plan.expectedRecordCount := by
  rw [h.counted, UInt32.ofNat_toNat]

theorem ValidPlan.recordDigest (h : ValidPlan deref plan) (s : RecordingAuthority) :
    (s.atRecord plan plan.expectedRecords.length).recordDigest = plan.expectedRecordDigest := by
  rw [atRecord, List.take_length]
  exact h.exact

section

variable (h : Created deref owner plan s)
include h

theorem Created.retainedPlan {t : RecordingAuthority} (hplan : t.plan = plan) :
    t.validRetainedPlan deref plan.context = true := by
  rw [validRetainedPlan, hplan, sameContext, decide_eq_true rfl]
  exact validPlan_iff.mpr h.valid

theorem Created.sealTransaction :
    RecordingAuthority.sealTransaction deref owner s.currentTicket plan.context
      (s.atRecord plan plan.expectedRecords.length) =
        (.sealed, (s.sealedOf plan).sealedTicket, s.sealedOf plan) := by
  have hticket : (s.atRecord plan plan.expectedRecords.length).exactTicket s.currentTicket = true :=
    exactTicket_currentTicket
  have hretained := h.retainedPlan (t := s.atRecord plan plan.expectedRecords.length) h.retained
  have hphase : (s.atRecord plan plan.expectedRecords.length).phase = .recording := h.phase
  have howner : (s.atRecord plan plan.expectedRecords.length).ownerThread = some owner := h.owner
  have hplan : (s.atRecord plan plan.expectedRecords.length).plan = plan := h.retained
  have hcount : (s.atRecord plan plan.expectedRecords.length).recordCount =
      plan.expectedRecordCount := h.valid.count
  have hleft : ((s.atRecord plan plan.expectedRecords.length).nextSealGeneration = 0 ||
      (s.atRecord plan plan.expectedRecords.length).nextSealGeneration = 0xffffffffffffffff) = false := by
    simp only [Bool.or_eq_false_iff, decide_eq_false_iff_not]
    exact h.sealGeneration
  -- No test of the source fails.
  rw [RecordingAuthority.sealTransaction, if_neg (by rw [h.underWay.valid]; simp),
    if_neg (by rw [hticket]; simp), if_neg (not_not.mpr hphase), if_neg (not_not.mpr howner),
    if_neg (by simp [sameContext, hplan]), if_neg (by rw [hplan]; exact not_not.mpr hcount),
    if_neg (by rw [hplan]; exact not_not.mpr (h.valid.recordDigest s)),
    if_neg (by rw [hretained]; simp), if_neg (by rw [hleft]; simp)]
  rfl

theorem Created.sealedOf_underWay : UnderWay (s.sealedOf plan) :=
  ⟨rfl, h.underWay.instanceGeneration, h.underWay.transactionGeneration, h.underWay.next⟩

theorem Created.viewOf :
    (s.sealedOf plan).viewOf = viewOfPlan plan (s.sealedOf plan).sealedTicket := by
  have hplan : (s.sealedOf plan).plan = plan := h.retained
  have hcount : (s.sealedOf plan).recordCount = plan.expectedRecordCount := h.valid.count
  rw [RecordingAuthority.viewOf, viewOfPlan, hplan, hcount, ← h.valid.counted, List.take_length]
  rfl

theorem Created.emitSealed :
    RecordingAuthority.emitSealed deref owner (s.sealedOf plan).sealedTicket plan.context true
      (s.sealedOf plan) = (.ok (viewOfPlan plan (s.sealedOf plan).sealedTicket),
          { s.sealedOf plan with phase := .emitting }) := by
  have hplan : (s.sealedOf plan).plan = plan := h.retained
  have howner : (s.sealedOf plan).ownerThread = some owner := h.owner
  have hcount : (s.sealedOf plan).recordCount = plan.expectedRecordCount := h.valid.count
  have hdigest : (s.sealedOf plan).recordDigest = plan.expectedRecordDigest :=
    h.valid.recordDigest s
  have hvalid : (s.sealedOf plan).sealedTicket.valid = true := by
    have htransaction : (s.sealedOf plan).sealedTicket.transaction.valid = true := h.underWay.valid
    have hseal : (s.sealedOf plan).sealedTicket.sealGeneration ≠ 0 := h.sealGeneration.1
    rw [SealedTicket.valid, htransaction, decide_eq_true hseal, sealedTicket]
    simp [hcount, hdigest, h.valid.nonempty, h.valid.digest]
  have hticket : (s.sealedOf plan).exactTicket (s.sealedOf plan).sealedTicket.transaction = true :=
    exactTicket_currentTicket
  have hphase : (s.sealedOf plan).phase = .sealed := rfl
  have hrecords : plan.expectedRecords.isEmpty = false := by
    rw [List.isEmpty_eq_false_iff, ne_eq, ← List.length_eq_zero_iff, h.valid.counted]
    exact fun heq => h.valid.nonempty (UInt32.toNat_inj.mp heq)
  have hproof : (decide ((s.sealedOf plan).sealedTicket.sealGeneration ≠
        (s.sealedOf plan).sealGeneration) ||
      decide ((s.sealedOf plan).sealedTicket.recordCount ≠ (s.sealedOf plan).recordCount) ||
      decide ((s.sealedOf plan).sealedTicket.recordDigest ≠ (s.sealedOf plan).recordDigest)) = false := by
    simp [sealedTicket]
  have hretained := h.retainedPlan (t := s.sealedOf plan) h.retained
  unfold RecordingAuthority.emitSealed
  rw [hvalid, hticket, hphase, hproof, howner, hretained, h.viewOf]
  simp [sameContext, hplan, hcount, hrecords, ← howner]

theorem Created.between (hcalls : calls.filter (presents s.currentTicket) = [])
    (hspares : ∀ call ∈ calls, Spares s call) :
    run (authorityStep deref) calls (s.sealedOf plan, 0) = (s.sealedOf plan, 0) := by
  induction calls with
  | nil => rfl
  | cons call calls ih =>
    obtain ⟨hspare, hrestSpares⟩ := List.forall_mem_cons.mp hspares
    rw [List.filter_eq_nil_iff, List.forall_mem_cons] at hcalls
    rw [run_cons, h.sealedOf_underWay.foreign (Or.inl (eq_false_of_ne_true hcalls.1))
      (hspare.congr rfl) (Or.inl rfl)]
    exact ih (List.filter_eq_nil_iff.mpr hcalls.2) hrestSpares

theorem Created.inner (hreturns : ∀ succeeded, .callbackReturns succeeded ∉ calls)
    (hspares : ∀ call ∈ calls, Spares s call) :
    run (authorityStep deref) calls ({ s.sealedOf plan with phase := .emitting }, 1) =
      ({ s.sealedOf plan with phase := .emitting }, 1) := by
  induction calls with
  | nil => rfl
  | cons call calls ih =>
    obtain ⟨hspare, hrestSpares⟩ := List.forall_mem_cons.mp hspares
    have hway : UnderWay { s.sealedOf plan with phase := .emitting } :=
      ⟨rfl, h.underWay.instanceGeneration, h.underWay.transactionGeneration, h.underWay.next⟩
    rw [run_cons, hway.foreign (Or.inr rfl) (hspare.congr rfl) (Or.inr fun succeeded heq =>
      hreturns succeeded (heq ▸ List.mem_cons_self))]
    exact ih (fun succeeded hmem => hreturns succeeded (List.mem_cons_of_mem _ hmem)) hrestSpares

theorem Created.sealStep :
    authorityStep deref (.sealTransaction owner s.currentTicket plan.context)
      (s.atRecord plan plan.expectedRecords.length, 0) =
        (.sealTransaction .sealed (s.sealedOf plan).sealedTicket, s.sealedOf plan, 0) := by
  rw [authorityStep, h.sealTransaction]

theorem Created.emitStep :
    authorityStep deref (.emitSealed owner (s.sealedOf plan).sealedTicket plan.context true)
      (s.sealedOf plan, 0) = (.calls (viewOfPlan plan (s.sealedOf plan).sealedTicket),
        { s.sealedOf plan with phase := .emitting }, 1) := by
  simp only [authorityStep, h.emitSealed]

end

theorem callbackReturns_emitting (h : s.phase = .emitting) :
    (authorityStep deref (.callbackReturns true) (s, 1)).1 = .emit .emitted := by
  simp [authorityStep, callbackReturns, h]

theorem Created.emitted (h : Created deref owner plan s) {upto : List AuthorityCall}
    (hupto : upto.filter (presents s.currentTicket) =
      plan.expectedRecords.map (.record owner s.currentTicket))
    (hspares : ∀ call ∈ upto, Spares (s.atRecord plan 0) call) :
    let step := authorityStep deref
    let recorded := run step upto (s.atRecord plan 0, 0)
    let sealing := step (.sealTransaction owner s.currentTicket plan.context) recorded
    ∃ sealedTicket, sealing.1 = .sealTransaction .sealed sealedTicket ∧
      ∀ between, between.filter (presents s.currentTicket) = [] →
        (∀ call ∈ between, Spares (s.atRecord plan 0) call) →
        let waiting := run step between sealing.2
        let emits := step (.emitSealed owner sealedTicket plan.context true) waiting
        emits.1 = .calls (viewOfPlan plan sealedTicket) ∧
        ∀ inner, (∀ succeeded, .callbackReturns succeeded ∉ inner) →
          (∀ call ∈ inner, Spares (s.atRecord plan 0) call) →
          (step (.callbackReturns true) (run step inner emits.2)).1 = .emit .emitted := by
  have hspare : ∀ {call}, Spares (s.atRecord plan 0) call → Spares s call :=
    Spares.congr (atRecord_next 0).symm
  have hrecorded := h.records hupto (fun call hmem => hspare (hspares call hmem)) (Nat.zero_le _)
  have hsealStep := h.sealStep
  intro step recorded sealing
  have hsealing : sealing = (.sealTransaction .sealed (s.sealedOf plan).sealedTicket,
      s.sealedOf plan, 0) := by
    rw [← hsealStep, ← hrecorded]
  clear_value sealing
  subst hsealing
  refine ⟨(s.sealedOf plan).sealedTicket, rfl, ?_⟩
  intro between hbetween hbetweenSpares
  have hwaiting := h.between hbetween fun call hmem => hspare (hbetweenSpares call hmem)
  have hemitStep := h.emitStep
  intro waiting emits
  have hemits : emits = (.calls (viewOfPlan plan (s.sealedOf plan).sealedTicket),
      { s.sealedOf plan with phase := .emitting }, 1) := by
    rw [← hemitStep, ← hwaiting]
  clear_value emits
  subst hemits
  refine ⟨rfl, fun inner hreturns hinnerSpares => ?_⟩
  have hinner := h.inner hreturns fun call hmem => hspare (hinnerSpares call hmem)
  rw [show run step inner _ = _ from hinner]
  exact callbackReturns_emitting rfl

/-! ## Every run -/

theorem sealsLeft_run (deref : ℕ → ProofCatalog.Snapshot) (instanceGeneration : UInt64)
    (calls : List AuthorityCall) :
    SealsLeft (run (authorityStep deref) calls (init instanceGeneration, 0)).1 := by
  have hinit : SealsLeft (init instanceGeneration) := by
    refine ⟨rfl, Nat.le_refl 1, ?_⟩
    rw [if_neg (by unfold init; dsimp only; split_ifs <;> exact nofun)]
    exact Nat.le_refl 1
  exact @run_induction _ _ _ (authorityStep deref) (fun t => SealsLeft t.1)
    (init instanceGeneration, 0) hinit (fun t call h => h.step) calls

theorem openTransaction_created (hseals : SealsLeft s) (hused : s.generationsUsed = false)
    (hvalid : ValidPlan deref input)
    (howner : s.wrongOwner owner input.context.recordingOwnerToken = false) :
    Created deref owner input (s.openTransaction owner input) := by
  obtain ⟨-, hinstance, hnext, hlast⟩ := generationsUsed_eq_false hused
  have hsucc := toNat_succ hlast
  have hother : s.nextTransactionGeneration + 1 ≠ 0 := fun heq => by
    rw [heq, UInt64.toNat_zero] at hsucc
    exact Nat.succ_ne_zero _ hsucc.symm
  -- There were not more seals than transactions.
  have hbound : s.nextSealGeneration.toNat ≤ s.nextTransactionGeneration.toNat := by
    rw [← hseals.next]
    exact hseals.left.trans (by split <;> omega)
  have hsealLast : s.nextSealGeneration ≠ 0xffffffffffffffff := fun heq => by
    have hlt := UInt64.toNat_lt s.nextTransactionGeneration
    rw [heq] at hbound
    have hmax : (0xffffffffffffffff : UInt64).toNat = 2^64 - 1 := rfl
    exact hlast (UInt64.toNat_inj.mp (by omega))
  have hsealZero : s.nextSealGeneration ≠ 0 := fun heq => by
    have hpositive := hseals.positive
    rw [heq, UInt64.toNat_zero] at hpositive
    exact Nat.not_succ_le_zero 0 hpositive
  exact ⟨⟨rfl, hinstance, hnext, hother⟩, rfl, hvalid, rfl, openTransaction_owner howner,
    hsealZero, hsealLast⟩

theorem openTransaction_atRecord (input : CreateInput) :
    (s.openTransaction owner input).atRecord input 0 = s.openTransaction owner input := by
  rw [atRecord, List.take_zero, List.foldl_nil, openTransaction]
  rfl

theorem created_after {past : List Happened} (hsound : Sound deref t past)
    (hseals : SealsLeft t.1)
    (hcreated : (authorityStep deref (.create owner true input) t).1 = .create .created ticket) :
    ∃ s, (authorityStep deref (.create owner true input) t).2 = (s.atRecord input 0, 0) ∧
      Created deref owner input s ∧ s.currentTicket = ticket := by
  have hchange := authorityStep_change deref (.create owner true input) t.1 t.2
  rw [show (t.1, t.2) = t from rfl] at hchange
  generalize authorityStep deref (.create owner true input) t = result at hchange hcreated ⊢
  cases hchange with
  | kept output hplain =>
    rw [show output = _ from hcreated] at hplain
    cases hplain
  | failed output hplain phase hphase hopen =>
    rw [show output = _ from hcreated] at hplain
    cases hplain
  | exhausted thread allocates input hused => cases hcreated
  | created thread input hused hphase hemitting hcontext hvalid howner =>
    have hidle : t.2 = 0 := by
      rcases hsound.running with hnone | ⟨-, hphase | hphase, -⟩
      · exact hnone
      · exact absurd hphase hemitting
      · exact absurd hphase (generationsUsed_eq_false hused).1
    refine ⟨t.1.openTransaction owner input, ?_, openTransaction_created hseals hused hvalid howner,
      (AuthorityOutput.create.inj hcreated).2⟩
    rw [hidle, openTransaction_atRecord]

/-- A callback is started once in its transaction, for a plan that its owner recorded and sealed; and
recording the plan, sealing and emitting it starts the callback and emits the plan. -/
theorem plan_emitted_once (deref : ℕ → ProofCatalog.Snapshot) (instanceGeneration : UInt64)
    (calls : List AuthorityCall) :
    let step := authorityStep deref
    let past := history step calls (init instanceGeneration, 0)
    let t := run step calls (init instanceGeneration, 0)
    (past.filterMap createdTransaction).Pairwise (· < ·) ∧
    (past.filterMap calledView).Pairwise
      (fun a b => a.transactionGeneration < b.transactionGeneration) ∧
    (∀ before e after view, past = before ++ e :: after → e.output = .calls view →
      Emits deref before e view) ∧
    (t.2 = 0 ∨ t.2 = 1 ∧ ∃ view, (past.filterMap calledView).getLast? = some view ∧
      t.1.plan.expectedRecords = view.commandPlan) ∧
    ∀ owner input ticket, (step (.create owner true input) t).1 = .create .created ticket →
      ∀ upto, upto.filter (presents ticket) = input.expectedRecords.map (.record owner ticket) →
        let begun := (step (.create owner true input) t).2
        let recorded := run step upto begun
        let isSealed := (step (.sealTransaction owner ticket input.context) recorded).2
        (∀ call ∈ upto, Spares begun.1 call) →
        ∃ sealedTicket, (step (.sealTransaction owner ticket input.context) recorded).1 =
            .sealTransaction .sealed sealedTicket ∧
          ∀ between, between.filter (presents ticket) = [] →
            (∀ call ∈ between, Spares begun.1 call) →
            let waiting := run step between isSealed
            let emits := step (.emitSealed owner sealedTicket input.context true) waiting
            emits.1 = .calls (viewOfPlan input sealedTicket) ∧
            ∀ inner, (∀ succeeded, .callbackReturns succeeded ∉ inner) →
              (∀ call ∈ inner, Spares begun.1 call) →
              (step (.callbackReturns true) (run step inner emits.2)).1 = .emit .emitted := by
  intro step past t
  have hsound : Sound deref t past := sound_run instanceGeneration calls
  have hseals : SealsLeft t.1 := sealsLeft_run deref instanceGeneration calls
  refine ⟨hsound.created, hsound.called, hsound.emits,
    hsound.running.imp_right fun ⟨hone, _, hview⟩ => ⟨hone, hview⟩, ?_⟩
  clear_value t past
  intro owner input ticket hcreated upto hupto begun recorded isSealed hspares
  obtain ⟨s, hbegun, hs, rfl⟩ := created_after hsound hseals hcreated
  have hbegunEq : begun = (s.atRecord input 0, 0) := hbegun
  clear_value begun
  subst hbegunEq
  exact hs.emitted hupto hspares

end War3VK.GpuSkin.RecordingAuthority
