import War3VK.GpuSkin.RecordingAuthority
import War3VK.Lib.Machine

/-!
# What one call does to a recording authority

`Change` lists all that a call can do. A transaction is opened by a plan that is valid, a record is
accepted when it is the next one of the plan, a seal when the plan is complete, and the callback starts
from a sealed plan; whatever else a call does, it leaves the authority or ends the transaction.
-/

namespace War3VK.GpuSkin.RecordingAuthority

open War3VK.Lib

variable {deref : ℕ → ProofCatalog.Snapshot} {s : RecordingAuthority}

/-! ## Records that are the same -/

theorem decision_eq {lhs rhs : ProofCatalog.PackageContentDecision}
    {tuple : ProofCatalog.DecisionTuple} (hlhs : lhs.agrees tuple = true)
    (hrhs : rhs.agrees tuple = true) (hsame : sameDecision lhs rhs = true) : lhs = rhs := by
  simp only [ProofCatalog.PackageContentDecision.agrees, ProofCatalog.sameKey, Bool.and_eq_true,
    decide_eq_true_eq] at hlhs hrhs
  simp only [sameDecision, Bool.and_eq_true, decide_eq_true_eq] at hsame
  rw [ProofCatalog.PackageContentDecision.mk.injEq]
  grind

variable {context : RecordingContext}

theorem source_eq {lhs rhs : CurrentStageSource}
    (hlhs : validCurrentStageSource deref lhs context = true)
    (hrhs : validCurrentStageSource deref rhs context = true)
    (hsame : sameCurrentStageSource lhs rhs = true) : lhs = rhs := by
  simp only [sameCurrentStageSource, Bool.and_eq_true, decide_eq_true_eq] at hsame
  obtain ⟨hfields, hdecision⟩ := hsame
  -- All other fields are equal, so both decisions agree with one tuple.
  have htuple : ∀ snapshot, decisionTuple lhs snapshot = decisionTuple rhs snapshot := by
    intro snapshot
    rw [← hfields]
    rfl
  have hpointer : lhs.catalogSnapshot = rhs.catalogSnapshot := by rw [← hfields]
  unfold validCurrentStageSource at hlhs hrhs
  rw [hpointer] at hlhs
  cases hsnapshot : rhs.catalogSnapshot with
  | none =>
    rw [hsnapshot] at hrhs
    cases hrhs
  | some snapshot =>
    rw [hsnapshot] at hlhs hrhs
    simp only [Bool.and_eq_true, decisionOfSource] at hlhs hrhs
    have hagrees := hlhs.1.2.2
    rw [htuple] at hagrees
    rw [← hfields, ← decision_eq hagrees hrhs.1.2.2 hdecision]

theorem record_eq {lhs rhs : RecordInput} (hlhs : validRecord deref context lhs = true)
    (hrhs : validRecord deref context rhs = true) (hsame : sameRecordInput lhs rhs = true) :
    lhs = rhs := by
  simp only [validRecord, Bool.and_eq_true] at hlhs hrhs
  simp only [sameRecordInput, sameContext, Bool.and_eq_true, decide_eq_true_eq] at hsame
  obtain ⟨⟨⟨⟨⟨⟨⟨hcontext, hsource⟩, h1⟩, h2⟩, h3⟩, h4⟩, h5⟩, h6⟩ := hsame
  have hsource := source_eq hlhs.1.1.1.1.1.1.1 hrhs.1.1.1.1.1.1.1 hsource
  cases lhs
  cases rhs
  simp_all

theorem sameRecordInput_self (input : RecordInput) : sameRecordInput input input = true := by
  simp [sameRecordInput, sameContext, sameCurrentStageSource, sameDecision]

/-! ## Valid plans -/

structure ValidPlan (deref : ℕ → ProofCatalog.Snapshot) (plan : CreateInput) : Prop where
  nonempty : plan.expectedRecordCount ≠ 0
  bounded : plan.expectedRecordCount ≤ kMaxRecords
  digest : plan.expectedRecordDigest ≠ 0
  counted : plan.expectedRecords.length = plan.expectedRecordCount.toNat
  /-- Each is of the context, valid and in its place. -/
  record : ∀ i record, plan.expectedRecords[i]? = some record →
    record.context = plan.context ∧ validRecord deref plan.context record = true ∧
      record.ordinal.toNat = i
  exact : plan.expectedRecords.foldl appendRecordDigest
    (beginRecordDigest plan.context plan.expectedRecordCount) = plan.expectedRecordDigest

theorem planDigest_iff {records : List RecordInput} {ordinal : ℕ} {digest result : UInt64} :
    planDigest deref context ordinal digest records = some result ↔
      (∀ i record, records[i]? = some record → record.context = context ∧
        validRecord deref context record = true ∧ record.ordinal.toNat = ordinal + i) ∧
      records.foldl appendRecordDigest digest = result := by
  induction records generalizing ordinal digest with
  | nil => simp [planDigest]
  | cons record rest ih =>
    rw [planDigest]
    split
    · rename_i hrecord
      simp only [sameContext, Bool.and_eq_true, decide_eq_true_eq] at hrecord
      obtain ⟨⟨hcontext, hvalid⟩, hordinal⟩ := hrecord
      rw [ih, List.foldl_cons]
      refine and_congr_left fun _ => ⟨fun h i other hi => ?_, fun h i other hi => ?_⟩
      · cases i with
        | zero =>
          cases hi
          exact ⟨hcontext, hvalid, hordinal⟩
        | succ i =>
          obtain ⟨h1, h2, h3⟩ := h i other hi
          exact ⟨h1, h2, by omega⟩
      · obtain ⟨h1, h2, h3⟩ := h (i + 1) other hi
        exact ⟨h1, h2, by omega⟩
    · rename_i hrecord
      refine iff_of_false nofun fun h => hrecord ?_
      obtain ⟨h1, h2, h3⟩ := h.1 0 record rfl
      simp [sameContext, h1, h2, h3]

theorem validPlan_iff {plan : CreateInput} : validPlan deref plan = true ↔ ValidPlan deref plan := by
  simp only [validPlan, Bool.and_eq_true, decide_eq_true_eq, planDigest_iff, Nat.zero_add]
  constructor
  · rintro ⟨⟨⟨⟨h1, h2⟩, h3⟩, h4⟩, h5, h6⟩
    exact ⟨h1, h2, h3, h4, h5, h6⟩
  · rintro ⟨h1, h2, h3, h4, h5, h6⟩
    exact ⟨⟨⟨⟨h1, h2⟩, h3⟩, h4⟩, h5, h6⟩

/-! ## Changes -/

def plain : AuthorityOutput → Bool
  | .create result _ => result ≠ .created
  | .record result => result ≠ .recorded
  | .sealTransaction result _ => result ≠ .sealed
  | .calls _ => false
  | _ => true

def Phase.open (phase : Phase) : Bool := phase = .recording || phase = .sealed

def ended (phase : Phase) (s : RecordingAuthority) : RecordingAuthority :=
  { s.clearPlan with phase := phase }

def withRecord (input : RecordInput) (s : RecordingAuthority) : RecordingAuthority :=
  { s with
    recordDigest := appendRecordDigest s.recordDigest input, recordCount := s.recordCount + 1 }

def withSeal (s : RecordingAuthority) : RecordingAuthority :=
  { s with
    phase := .sealed
    sealGeneration := s.nextSealGeneration
    nextSealGeneration := s.nextSealGeneration + 1 }

inductive Change (deref : ℕ → ProofCatalog.Snapshot) (s : RecordingAuthority) (running : ℕ) :
    AuthorityCall → AuthorityOutput × Emitting → Prop
  | kept {call : AuthorityCall} (output : AuthorityOutput) (hplain : plain output = true) :
      Change deref s running call (output, s, running)
  | failed {call : AuthorityCall} (output : AuthorityOutput) (hplain : plain output = true)
      (phase : Phase) (hphase : phase = .aborted ∨ phase = .exhausted)
      (hopen : s.phase.open = true) :
      Change deref s running call (output, s.ended phase, running)
  | exhausted (thread : ℕ) (allocates : Bool) (input : CreateInput)
      (hused : s.generationsUsed = true) :
      Change deref s running (.create thread allocates input)
        (.create .generationExhausted ⟨0, 0⟩, { s with phase := .exhausted }, running)
  | created (thread : ℕ) (input : CreateInput) (hused : s.generationsUsed = false)
      (hphase : s.phase.open = false) (hemitting : s.phase ≠ .emitting)
      (hcontext : validContext input.context = true) (hvalid : ValidPlan deref input)
      (howner : s.wrongOwner thread input.context.recordingOwnerToken = false) :
      Change deref s running (.create thread true input)
        (.create .created (s.openTransaction thread input).currentTicket,
          s.openTransaction thread input, running)
  | recorded (thread : ℕ) (input : RecordInput) (hphase : s.phase = .recording)
      (howner : s.ownerThread = some thread) (hcontext : input.context = s.plan.context)
      (hvalid : validRecord deref s.plan.context input = true)
      (hcount : s.recordCount < s.plan.expectedRecordCount)
      (hsame : ∃ expected, s.plan.expectedRecords[s.recordCount.toNat]? = some expected ∧
        sameRecordInput input expected = true) :
      Change deref s running (.record thread s.currentTicket input)
        (.record .recorded, s.withRecord input, running)
  | sealed (thread : ℕ) (hphase : s.phase = .recording) (howner : s.ownerThread = some thread)
      (hcount : s.recordCount = s.plan.expectedRecordCount)
      (hplan : ValidPlan deref s.plan) :
      Change deref s running (.sealTransaction thread s.currentTicket s.plan.context)
        (.sealTransaction .sealed s.withSeal.sealedTicket, s.withSeal, running)
  | called (thread : ℕ) (hphase : s.phase = .sealed) (howner : s.ownerThread = some thread)
      (hcount : s.recordCount = s.plan.expectedRecordCount) (hplan : ValidPlan deref s.plan) :
      Change deref s running (.emitSealed thread s.sealedTicket s.plan.context true)
        (.calls s.viewOf, { s with phase := .emitting }, running + 1)
  | returned (succeeded : Bool) (result : EmitResult) (phase : Phase) (hrunning : running ≠ 0)
      (hphase : (result, phase) = (.callbackFailed, .aborted) ∨
        s.phase = .emitting ∧ succeeded = true ∧ (result, phase) = (.emitted, .emitted)) :
      Change deref s running (.callbackReturns succeeded)
        (.emit result, s.ended phase, running - 1)

theorem Change.fail {running : ℕ} {call : AuthorityCall} {output : AuthorityOutput}
    (hplain : plain output = true) : Change deref s running call (output, s.failCurrent, running) := by
  unfold failCurrent
  split
  · exact .failed output hplain .aborted (Or.inl rfl) (by assumption)
  · exact .kept output hplain

theorem exactTicket_iff {ticket : TransactionTicket} :
    s.exactTicket ticket = true ↔ ticket = s.currentTicket := by
  cases ticket
  simp [exactTicket, currentTicket]

theorem create_change (thread : ℕ) (allocates : Bool) (input : CreateInput) (running : ℕ) :
    Change deref s running (.create thread allocates input)
      (authorityStep deref (.create thread allocates input) (s, running)) := by
  unfold authorityStep create
  dsimp only
  split_ifs with hused hbusy hcontext hvalid howner hstale hallocates
  · exact .exhausted thread allocates input hused
  · exact .kept _ rfl
  · exact .kept _ rfl
  · exact .kept _ rfl
  · exact .kept _ rfl
  · exact .kept _ rfl
  · exact .kept _ rfl
  · obtain rfl : allocates = true := by simpa using hallocates
    simp only [Bool.or_eq_true, decide_eq_true_eq, not_or] at hbusy
    exact .created thread input (eq_false_of_ne_true hused)
      (by simp [Phase.open, hbusy.1.1, hbusy.1.2]) hbusy.2 (by simpa using hcontext)
      (validPlan_iff.mp (by simpa using hvalid)) (eq_false_of_ne_true howner)

theorem record_change (thread : ℕ) (ticket : TransactionTicket) (input : RecordInput)
    (running : ℕ) : Change deref s running (.record thread ticket input)
      (authorityStep deref (.record thread ticket input) (s, running)) := by
  unfold authorityStep record
  dsimp only
  split_ifs with hvalid hexact hphase howner hcontext hrecord hcount hordinal hsame
  · exact .kept _ rfl
  · exact .kept _ rfl
  · exact .fail rfl
  · exact .fail rfl
  · exact .fail rfl
  · exact .fail rfl
  · exact .fail rfl
  · exact .fail rfl
  · exact .fail rfl
  · obtain rfl := exactTicket_iff.mp (by simpa using hexact)
    simp only [Bool.or_eq_true, decide_eq_true_eq, not_or, ge_iff_le, UInt32.not_le] at hcount
    exact .recorded thread input (not_not.mp hphase) (not_not.mp howner)
      (by simpa [sameContext] using hcontext) (by simpa using hrecord) hcount.2
      (by simpa [Option.any_eq_true] using hsame)

theorem sealTransaction_change (thread : ℕ) (ticket : TransactionTicket)
    (context : RecordingContext) (running : ℕ) :
    Change deref s running (.sealTransaction thread ticket context)
      (authorityStep deref (.sealTransaction thread ticket context) (s, running)) := by
  unfold authorityStep sealTransaction
  dsimp only
  split_ifs with hvalid hexact hphase howner hcontext hcount hdigest hretained hused
  · exact .kept _ rfl
  · exact .kept _ rfl
  · exact .fail rfl
  · exact .fail rfl
  · exact .fail rfl
  · exact .fail rfl
  · exact .fail rfl
  · exact .fail rfl
  · exact .failed _ rfl .exhausted (Or.inr rfl) (by simp [Phase.open, not_not.mp hphase])
  · obtain rfl := exactTicket_iff.mp (by simpa using hexact)
    obtain rfl : context = s.plan.context := by simpa [sameContext] using hcontext
    simp only [Bool.not_eq_true', Bool.not_eq_false, validRetainedPlan, Bool.and_eq_true] at hretained
    exact .sealed thread (not_not.mp hphase) (not_not.mp howner) (not_not.mp hcount)
      (validPlan_iff.mp hretained.2)

theorem emitSealed_change (thread : ℕ) (ticket : SealedTicket) (context : RecordingContext)
    (callback : Bool) (running : ℕ) :
    Change deref s running (.emitSealed thread ticket context callback)
      (authorityStep deref (.emitSealed thread ticket context callback) (s, running)) := by
  unfold authorityStep emitSealed
  dsimp only
  split_ifs with hvalid hexact hemitting hterminal hphase hproof howner hcontext hplan hcallback
  · exact .kept _ rfl
  · exact .kept _ rfl
  · exact .kept _ rfl
  · exact .kept _ rfl
  · exact .kept _ rfl
  · exact .fail rfl
  · exact .fail rfl
  · exact .fail rfl
  · exact .fail rfl
  · exact .fail rfl
  · simp only [Bool.or_eq_true, decide_eq_true_eq, not_or, not_not] at hproof
    have hticket : ticket = s.sealedTicket := by
      have htransaction := exactTicket_iff.mp (by simpa using hexact)
      cases ticket
      simp_all [sealedTicket]
    obtain rfl := hticket
    obtain rfl : context = s.plan.context := by simpa [sameContext] using hcontext
    obtain rfl : callback = true := by simpa using hcallback
    simp only [Bool.or_eq_true, Bool.not_eq_true', decide_eq_true_eq, not_or, not_not,
      Bool.not_eq_false, validRetainedPlan, Bool.and_eq_true] at hplan
    exact .called thread (not_not.mp hphase) (not_not.mp howner) hplan.1.2
      (validPlan_iff.mp hplan.1.1.2)

theorem abort_change {call : AuthorityCall} (ticket : TransactionTicket) (running : ℕ) :
    Change deref s running call (.abort (abort ticket s).1, (abort ticket s).2, running) := by
  unfold abort
  split
  · exact .kept _ rfl
  · split
    · exact .kept _ rfl
    · split
      · exact .kept _ rfl
      · rename_i hemitting
        split
        · exact .kept _ rfl
        · rename_i hterminal
          refine .failed _ rfl .aborted (Or.inl rfl) ?_
          revert hemitting hterminal
          cases s.phase <;> simp [Phase.open]

theorem authorityStep_change (deref : ℕ → ProofCatalog.Snapshot) (call : AuthorityCall) (s : RecordingAuthority) (running : ℕ) :
    Change deref s running call (authorityStep deref call (s, running)) := by
  cases call with
  | create thread allocates input => exact create_change thread allocates input running
  | record thread ticket input => exact record_change thread ticket input running
  | sealTransaction thread ticket context => exact sealTransaction_change thread ticket context running
  | emitSealed thread ticket context callback =>
    exact emitSealed_change thread ticket context callback running
  | callbackReturns succeeded =>
    unfold authorityStep callbackReturns
    dsimp only
    split_ifs with hnone hphase hfailed
    · subst hnone
      exact .kept _ rfl
    · exact .returned succeeded _ _ hnone (Or.inl rfl)
    · exact .returned succeeded _ _ hnone (Or.inl rfl)
    · exact .returned succeeded _ _ hnone (Or.inr ⟨not_not.mp hphase, by simpa using hfailed, rfl⟩)
  | abort ticket => exact abort_change ticket running
  | abortSealed ticket => exact abort_change ticket.transaction running

end War3VK.GpuSkin.RecordingAuthority

/-!
## Runs of a recording authority

What the history of an authority says about its current transaction: while it records, the accepted
records since `create` are the beginning of the plan, and when it is sealed they are all of it. So a
callback that starts is the only one of its transaction and is shown the plan that was recorded.
-/

namespace War3VK.GpuSkin.RecordingAuthority

open War3VK.Lib

abbrev Happened := Record Emitting AuthorityCall AuthorityOutput

def acceptedRecord (r : Happened) : Option (ℕ × TransactionTicket × RecordInput) :=
  match r.call, r.output with
  | .record thread ticket input, .record .recorded => some (thread, ticket, input)
  | _, _ => none

def createdTransaction (r : Happened) : Option UInt64 :=
  match r.output with
  | .create .created ticket => some ticket.transactionGeneration
  | _ => none

def calledView (r : Happened) : Option SealedBatchView :=
  match r.output with
  | .calls view => some view
  | _ => none

structure Creates (r : Happened) (thread : ℕ) (input : CreateInput) (ticket : TransactionTicket) :
    Prop where
  call : r.call = .create thread true input
  output : r.output = .create .created ticket

/-- The records that were accepted are those of a plan, one after another, by its owner. -/
def Accepts (since : List Happened) (thread : ℕ) (ticket : TransactionTicket)
    (records : List RecordInput) : Prop :=
  since.filterMap acceptedRecord = records.map fun input => (thread, ticket, input)

def Stays (phase : Phase) (since : List Happened) : Prop := ∀ r ∈ since, r.before.1.phase = phase

/-- A transaction that records: created, and since then this much of its plan was recorded. -/
def Records (past : List Happened) (thread : ℕ) (plan : CreateInput) (ticket : TransactionTicket)
    (records : List RecordInput) : Prop :=
  ∃ before c since, past = before ++ c :: since ∧ Creates c thread plan ticket ∧
    Accepts since thread ticket records ∧ Stays .recording since

/-- A transaction that was sealed: created, then its whole plan was recorded, then it was sealed. -/
def Seals (past : List Happened) (thread : ℕ) (plan : CreateInput) (ticket : SealedTicket) : Prop :=
  ∃ begun z after, past = begun ++ z :: after ∧
    Records begun thread plan ticket.transaction plan.expectedRecords ∧
    z.call = .sealTransaction thread ticket.transaction plan.context ∧
    z.output = .sealTransaction .sealed ticket ∧ z.before.1.phase = .recording ∧ Stays .sealed after

def viewOfPlan (plan : CreateInput) (ticket : SealedTicket) : SealedBatchView :=
  ⟨plan.context, ticket.transaction.instanceGeneration, ticket.transaction.transactionGeneration,
    ticket.sealGeneration, ticket.recordDigest, plan.expectedRecordCount, plan.expectedRecords⟩

variable (deref : ℕ → ProofCatalog.Snapshot)

/-- The call started the callback for a plan that was sealed in the calls before it. -/
def Emits (past : List Happened) (e : Happened) (view : SealedBatchView) : Prop :=
  ∃ thread plan ticket, ValidPlan deref plan ∧ Seals past thread plan ticket ∧
    e.call = .emitSealed thread ticket plan.context true ∧ view = viewOfPlan plan ticket ∧
    e.before.1.phase = .sealed

structure Sound (t : Emitting) (past : List Happened) : Prop where
  recording : t.1.phase = .recording → ∃ thread, t.1.ownerThread = some thread ∧
    ValidPlan deref t.1.plan ∧ Records past thread t.1.plan t.1.currentTicket
      (t.1.plan.expectedRecords.take t.1.recordCount.toNat)
  isSealed : t.1.phase = .sealed → ∃ thread, t.1.ownerThread = some thread ∧
    Seals past thread t.1.plan t.1.sealedTicket
  created : (past.filterMap createdTransaction).Pairwise (· < ·)
  createdLast : ∀ n ∈ past.filterMap createdTransaction, n ≤ t.1.transactionGeneration
  next : t.1.transactionGeneration.toNat + 1 = t.1.nextTransactionGeneration.toNat
  called : (past.filterMap calledView).Pairwise
    fun a b => a.transactionGeneration < b.transactionGeneration
  calledLast : ∀ view ∈ past.filterMap calledView,
    view.transactionGeneration ≤ t.1.transactionGeneration ∧
      (t.1.phase.open = true → view.transactionGeneration < t.1.transactionGeneration)
  /-- Every callback that started was shown a plan that was sealed. -/
  emits : ∀ before e after view, past = before ++ e :: after → e.output = .calls view →
    Emits deref before e view
  /-- A callback that runs is alone, and its plan stays. -/
  running : t.2 = 0 ∨ t.2 = 1 ∧ (t.1.phase = .emitting ∨ t.1.phase = .exhausted) ∧
    ∃ view, (past.filterMap calledView).getLast? = some view ∧
      t.1.plan.expectedRecords = view.commandPlan

variable {deref} {t t' : Emitting} {past : List Happened} {r : Happened}

theorem acceptedRecord_of_plain (h : plain r.output = true) : acceptedRecord r = none := by
  unfold acceptedRecord
  split
  · rename_i houtput
    rw [houtput] at h
    cases h
  · rfl

theorem createdTransaction_of_plain (h : plain r.output = true) : createdTransaction r = none := by
  unfold createdTransaction
  split
  · rename_i houtput
    rw [houtput] at h
    cases h
  · rfl

theorem calledView_of_plain (h : plain r.output = true) : calledView r = none := by
  unfold calledView
  split
  · rename_i houtput
    rw [houtput] at h
    cases h
  · rfl

theorem emits_append (h : ∀ before e after view, past = before ++ e :: after →
      e.output = .calls view → Emits deref before e view)
    (hr : ∀ view, r.output = .calls view → Emits deref past r view) :
    ∀ before e after view, past ++ [r] = before ++ e :: after → e.output = .calls view →
      Emits deref before e view := by
  intro before e after view heq houtput
  rcases List.append_eq_append_iff.mp heq with ⟨rest, hbefore, hrest⟩ | ⟨rest, hpast, hrest⟩
  · -- The call is the last one.
    cases rest with
    | nil =>
      rw [List.nil_append] at hrest
      cases hrest
      rw [List.append_nil] at hbefore
      subst hbefore
      exact hr view houtput
    | cons x rest =>
      have hlength := congrArg List.length hrest
      simp at hlength
  · cases rest with
    | nil =>
      rw [List.append_nil] at hpast
      subst hpast
      cases hrest
      exact hr view houtput
    | cons x rest =>
      cases hrest
      exact h before e rest view hpast houtput

variable {plan : CreateInput} {thread : ℕ}

theorem Records.append {ticket : TransactionTicket} {records : List RecordInput}
    (h : Records past thread plan ticket records) (haccepted : acceptedRecord r = none)
    (hphase : r.before.1.phase = .recording) :
    Records (past ++ [r]) thread plan ticket records := by
  obtain ⟨before, c, since, rfl, hcreates, haccepts, hstays⟩ := h
  refine ⟨before, c, since ++ [r], by simp, hcreates, ?_, ?_⟩
  · rw [Accepts, List.filterMap_append, haccepts]
    simp [haccepted]
  · exact List.forall_mem_append.mpr ⟨hstays, fun r' hr' => by rw [List.mem_singleton.mp hr', hphase]⟩

theorem Records.record {ticket : TransactionTicket} {records : List RecordInput}
    {input : RecordInput} (h : Records past thread plan ticket records)
    (hcall : r.call = .record thread ticket input) (houtput : r.output = .record .recorded)
    (hphase : r.before.1.phase = .recording) :
    Records (past ++ [r]) thread plan ticket (records ++ [input]) := by
  obtain ⟨before, c, since, rfl, hcreates, haccepts, hstays⟩ := h
  have haccepted : acceptedRecord r = some (thread, ticket, input) := by
    simp [acceptedRecord, hcall, houtput]
  refine ⟨before, c, since ++ [r], by simp, hcreates, ?_, ?_⟩
  · rw [Accepts, List.filterMap_append, haccepts, List.map_append]
    simp [haccepted]
  · exact List.forall_mem_append.mpr ⟨hstays, fun r' hr' => by rw [List.mem_singleton.mp hr', hphase]⟩

theorem Seals.append {ticket : SealedTicket} (h : Seals past thread plan ticket)
    (hphase : r.before.1.phase = .sealed) : Seals (past ++ [r]) thread plan ticket := by
  obtain ⟨begun, z, after, rfl, hrecords, hcall, houtput, hrecording, hstays⟩ := h
  refine ⟨begun, z, after ++ [r], by simp, hrecords, hcall, houtput, hrecording, ?_⟩
  exact List.forall_mem_append.mpr ⟨hstays, fun r' hr' => by rw [List.mem_singleton.mp hr', hphase]⟩

theorem Sound.leave (h : Sound deref t past) (hplain : plain r.output = true) (hbefore : r.before = t)
    (hgeneration : t'.1.transactionGeneration = t.1.transactionGeneration)
    (hnext : t'.1.nextTransactionGeneration = t.1.nextTransactionGeneration)
    (hphase : t'.1 = t.1 ∨ t'.1.phase.open = false)
    (hrunning : t'.2 = 0 ∨ t'.2 = t.2 ∧ t'.1.plan = t.1.plan ∧
      (t.1.phase = .emitting ∨ t.1.phase = .exhausted → t'.1.phase = .emitting ∨ t'.1.phase = .exhausted)) :
    Sound deref t' (past ++ [r]) := by
  have haccepted := acceptedRecord_of_plain hplain
  have hcreated : (past ++ [r]).filterMap createdTransaction = past.filterMap createdTransaction := by
    simp [createdTransaction_of_plain hplain]
  have hcalled : (past ++ [r]).filterMap calledView = past.filterMap calledView := by
    simp [calledView_of_plain hplain]
  have hsame : t'.1.phase.open = true → t'.1 = t.1 := fun hopen =>
    hphase.resolve_right (by rw [hopen]; exact Bool.noConfusion)
  exact {
    recording := fun hrecording => by
      have heq := hsame (by rw [hrecording]; rfl)
      rw [heq] at hrecording ⊢
      obtain ⟨thread, howner, hvalid, hrecords⟩ := h.recording hrecording
      exact ⟨thread, howner, hvalid, hrecords.append haccepted (by rw [hbefore, hrecording])⟩
    isSealed := fun hsealed => by
      have heq := hsame (by rw [hsealed]; rfl)
      rw [heq] at hsealed ⊢
      obtain ⟨thread, howner, hseals⟩ := h.isSealed hsealed
      exact ⟨thread, howner, hseals.append (by rw [hbefore, hsealed])⟩
    created := hcreated ▸ h.created
    createdLast := by
      rw [hcreated, hgeneration]
      exact h.createdLast
    next := by rw [hgeneration, hnext, h.next]
    called := hcalled ▸ h.called
    calledLast := by
      rw [hcalled, hgeneration]
      refine fun view hview => ⟨(h.calledLast view hview).1, fun hopen => ?_⟩
      rw [hsame hopen] at hopen
      exact (h.calledLast view hview).2 hopen
    emits := emits_append h.emits fun view houtput => by
      rw [houtput] at hplain
      cases hplain
    running := by
      rw [hcalled]
      rcases hrunning with hnone | ⟨hcount, hplan, hphase⟩
      · exact Or.inl hnone
      · rw [hcount, hplan]
        exact h.running.imp_right fun ⟨hone, hemitting, hview⟩ => ⟨hone, hphase hemitting, hview⟩ }

theorem toNat_succ {n : UInt64} (h : n ≠ 0xffffffffffffffff) : (n + 1).toNat = n.toNat + 1 := by
  have hlt := UInt64.toNat_lt n
  have hne : n.toNat ≠ 0xffffffffffffffff := fun heq => h (UInt64.toNat_inj.mp heq)
  rw [UInt64.toNat_add]
  show (n.toNat + 1) % 2^64 = _
  omega

theorem generationsUsed_eq_false {s : RecordingAuthority} (h : s.generationsUsed = false) :
    s.phase ≠ .exhausted ∧ s.instanceGeneration ≠ 0 ∧ s.nextTransactionGeneration ≠ 0 ∧
      s.nextTransactionGeneration ≠ 0xffffffffffffffff := by
  simp only [generationsUsed, Bool.or_eq_false_iff, decide_eq_false_iff_not] at h
  exact ⟨h.1.1.1, h.1.1.2, h.1.2, h.2⟩

theorem Sound.not_running (h : Sound deref t past) (hopen : t.1.phase.open = true) : t.2 = 0 := by
  rcases h.running with hnone | ⟨-, hphase | hphase, -⟩
  · exact hnone
  · rw [hphase] at hopen
    cases hopen
  · rw [hphase] at hopen
    cases hopen

theorem openTransaction_owner {s : RecordingAuthority} {input : CreateInput}
    (h : s.wrongOwner thread input.context.recordingOwnerToken = false) :
    (s.openTransaction thread input).ownerThread = some thread := by
  simp only [openTransaction]
  split
  · rename_i hbound
    simp only [wrongOwner, hbound, Bool.true_and, Bool.or_eq_false_iff, decide_eq_false_iff_not,
      not_not] at h
    exact h.1
  · rfl

theorem Sound.create (h : Sound deref t past) {input : CreateInput}
    (hused : t.1.generationsUsed = false) (hemitting : t.1.phase ≠ .emitting)
    (hvalid : ValidPlan deref input)
    (howner : t.1.wrongOwner thread input.context.recordingOwnerToken = false)
    (hcall : r.call = .create thread true input)
    (houtput : r.output = .create .created (t.1.openTransaction thread input).currentTicket) :
    Sound deref (t.1.openTransaction thread input, t.2) (past ++ [r]) := by
  obtain ⟨hexhausted, -, -, hleft⟩ := generationsUsed_eq_false hused
  -- The new transaction has a greater number than those before it.
  have hgreater : t.1.transactionGeneration < t.1.nextTransactionGeneration := by
    rw [UInt64.lt_iff_toNat_lt, ← h.next]
    exact Nat.lt_succ_self _
  have hcreated : createdTransaction r = some t.1.nextTransactionGeneration := by
    simp only [createdTransaction, houtput]
    rfl
  have hcalled : (past ++ [r]).filterMap calledView = past.filterMap calledView := by
    simp [calledView, houtput]
  exact {
    recording := fun _ => ⟨thread, openTransaction_owner howner, hvalid, past, r, [], rfl,
      ⟨hcall, houtput⟩, rfl, List.forall_mem_nil _⟩
    isSealed := fun hsealed => (nomatch (hsealed : Phase.recording = .sealed))
    created := by
      rw [List.filterMap_append, List.pairwise_append]
      refine ⟨h.created, by simp [hcreated], fun n hn m hm => ?_⟩
      simp only [List.filterMap_cons, hcreated, List.filterMap_nil, List.mem_singleton] at hm
      rw [hm]
      exact UInt64.lt_of_le_of_lt (h.createdLast n hn) hgreater
    createdLast := by
      intro n hn
      rw [List.filterMap_append, List.mem_append] at hn
      rcases hn with hn | hn
      · exact UInt64.le_of_lt (UInt64.lt_of_le_of_lt (h.createdLast n hn) hgreater)
      · simp only [List.filterMap_cons, hcreated, List.filterMap_nil, List.mem_singleton] at hn
        rw [hn]
        exact UInt64.le_refl _
    next := (toNat_succ hleft).symm
    called := hcalled ▸ h.called
    calledLast := by
      rw [hcalled]
      intro view hview
      have hlt := UInt64.lt_of_le_of_lt (h.calledLast view hview).1 hgreater
      exact ⟨UInt64.le_of_lt hlt, fun _ => hlt⟩
    emits := emits_append h.emits fun view hview => by
      rw [houtput] at hview
      cases hview
    running := by
      rcases h.running with hnone | ⟨-, hphase, -⟩
      · exact Or.inl hnone
      · rcases hphase with hphase | hphase
        · exact absurd hphase hemitting
        · exact absurd hphase hexhausted }

theorem Sound.record (h : Sound deref t past) {input : RecordInput}
    (hphase : t.1.phase = .recording) (howner : t.1.ownerThread = some thread)
    (hvalid : validRecord deref t.1.plan.context input = true)
    (hcount : t.1.recordCount < t.1.plan.expectedRecordCount)
    (hsame : ∃ expected, t.1.plan.expectedRecords[t.1.recordCount.toNat]? = some expected ∧
      sameRecordInput input expected = true) (hbefore : r.before = t)
    (hcall : r.call = .record thread t.1.currentTicket input)
    (houtput : r.output = .record .recorded) :
    Sound deref (t.1.withRecord input, t.2) (past ++ [r]) := by
  have hcreated : (past ++ [r]).filterMap createdTransaction = past.filterMap createdTransaction := by
    simp [createdTransaction, houtput]
  have hcalled : (past ++ [r]).filterMap calledView = past.filterMap calledView := by
    simp [calledView, houtput]
  exact {
    recording := fun _ => by
      obtain ⟨owner, howner', hplan, hrecords⟩ := h.recording hphase
      obtain rfl : owner = thread := by
        rw [howner'] at howner
        exact Option.some.inj howner
      obtain ⟨expected, hexpected, hsame⟩ := hsame
      -- What was recorded is the element of the plan itself.
      obtain rfl := record_eq hvalid (hplan.record _ _ hexpected).2.1 hsame
      refine ⟨owner, howner, hplan, ?_⟩
      have hnext : (t.1.withRecord input).recordCount.toNat = t.1.recordCount.toNat + 1 := by
        show (t.1.recordCount + 1).toNat = _
        have hlt := UInt32.lt_iff_toNat_lt.mp hcount
        have hsmall := UInt32.toNat_lt t.1.plan.expectedRecordCount
        rw [UInt32.toNat_add]
        show (t.1.recordCount.toNat + 1) % 2^32 = _
        omega
      rw [hnext, List.take_add_one, show (t.1.withRecord input).plan = t.1.plan from rfl, hexpected]
      exact hrecords.record hcall houtput (by rw [hbefore, hphase])
    isSealed := fun hsealed => by
      rw [show (t.1.withRecord input, t.2).1.phase = t.1.phase from rfl, hphase] at hsealed
      cases hsealed
    created := hcreated ▸ h.created
    createdLast := hcreated ▸ h.createdLast
    next := h.next
    called := hcalled ▸ h.called
    calledLast := hcalled ▸ h.calledLast
    emits := emits_append h.emits fun view hview => by
      rw [houtput] at hview
      cases hview
    running := Or.inl (h.not_running (by rw [hphase]; rfl)) }

theorem Sound.sealPlan (h : Sound deref t past) (hphase : t.1.phase = .recording)
    (howner : t.1.ownerThread = some thread)
    (hcount : t.1.recordCount = t.1.plan.expectedRecordCount) (hbefore : r.before = t)
    (hcall : r.call = .sealTransaction thread t.1.currentTicket t.1.plan.context)
    (houtput : r.output = .sealTransaction .sealed t.1.withSeal.sealedTicket) :
    Sound deref (t.1.withSeal, t.2) (past ++ [r]) := by
  have hcreated : (past ++ [r]).filterMap createdTransaction = past.filterMap createdTransaction := by
    simp [createdTransaction, houtput]
  have hcalled : (past ++ [r]).filterMap calledView = past.filterMap calledView := by
    simp [calledView, houtput]
  have hopen : t.1.phase.open = true := by rw [hphase]; rfl
  exact {
    recording := fun hrecording => (nomatch (hrecording : Phase.sealed = .recording))
    isSealed := fun _ => by
      obtain ⟨owner, howner', hplan, hrecords⟩ := h.recording hphase
      obtain rfl : owner = thread := by
        rw [howner'] at howner
        exact Option.some.inj howner
      -- As many records as the plan has are the whole plan.
      rw [hcount, ← hplan.counted, List.take_length] at hrecords
      exact ⟨owner, howner, past, r, [], rfl, hrecords, hcall, houtput, by rw [hbefore, hphase],
        List.forall_mem_nil _⟩
    created := hcreated ▸ h.created
    createdLast := hcreated ▸ h.createdLast
    next := h.next
    called := hcalled ▸ h.called
    calledLast := by
      rw [hcalled]
      exact fun view hview => ⟨(h.calledLast view hview).1, fun _ =>
        (h.calledLast view hview).2 hopen⟩
    emits := emits_append h.emits fun view hview => by
      rw [houtput] at hview
      cases hview
    running := Or.inl (h.not_running hopen) }

theorem Sound.call (h : Sound deref t past) (hphase : t.1.phase = .sealed)
    (howner : t.1.ownerThread = some thread)
    (hcount : t.1.recordCount = t.1.plan.expectedRecordCount) (hplan : ValidPlan deref t.1.plan)
    (hbefore : r.before = t)
    (hcall : r.call = .emitSealed thread t.1.sealedTicket t.1.plan.context true)
    (houtput : r.output = .calls t.1.viewOf) :
    Sound deref ({ t.1 with phase := .emitting }, t.2 + 1) (past ++ [r]) := by
  have hcreated : (past ++ [r]).filterMap createdTransaction = past.filterMap createdTransaction := by
    simp [createdTransaction, houtput]
  have hcalled : (past ++ [r]).filterMap calledView = past.filterMap calledView ++ [t.1.viewOf] := by
    simp [calledView, houtput]
  have hopen : t.1.phase.open = true := by rw [hphase]; rfl
  have hwhole : t.1.plan.expectedRecords.take t.1.recordCount.toNat = t.1.plan.expectedRecords := by
    rw [hcount, ← hplan.counted, List.take_length]
  exact {
    recording := fun hrecording => (nomatch (hrecording : Phase.emitting = .recording))
    isSealed := fun hsealed => (nomatch (hsealed : Phase.emitting = .sealed))
    created := hcreated ▸ h.created
    createdLast := hcreated ▸ h.createdLast
    next := h.next
    called := by
      rw [hcalled, List.pairwise_append]
      refine ⟨h.called, List.pairwise_singleton _ _, fun a ha b hb => ?_⟩
      rw [List.mem_singleton.mp hb]
      exact (h.calledLast a ha).2 hopen
    calledLast := by
      rw [hcalled]
      intro view hview
      rcases List.mem_append.mp hview with hview | hview
      · exact ⟨(h.calledLast view hview).1, fun hstill => (nomatch hstill)⟩
      · rw [List.mem_singleton.mp hview]
        exact ⟨UInt64.le_refl _, fun hstill => (nomatch hstill)⟩
    emits := emits_append h.emits fun view hview => by
      rw [houtput] at hview
      cases hview
      obtain ⟨owner, howner', hseals⟩ := h.isSealed hphase
      obtain rfl : owner = thread := by
        rw [howner'] at howner
        exact Option.some.inj howner
      refine ⟨owner, t.1.plan, t.1.sealedTicket, hplan, hseals, hcall, ?_, by rw [hbefore, hphase]⟩
      rw [viewOf, viewOfPlan, hwhole, hcount]
      rfl
    running := by
      rw [h.not_running hopen, hcalled]
      refine Or.inr ⟨rfl, Or.inl rfl, t.1.viewOf, by simp, ?_⟩
      rw [viewOf, hwhole] }

theorem Sound.step (h : Sound deref t past) (call : AuthorityCall) :
    Sound deref (authorityStep deref call t).2
      (past ++ [Lib.record (authorityStep deref) t call]) := by
  have hchange := authorityStep_change deref call t.1 t.2
  have hbefore : (Lib.record (authorityStep deref) t call).before = t := rfl
  have hcall : (Lib.record (authorityStep deref) t call).call = call := rfl
  have houtput : (Lib.record (authorityStep deref) t call).output = (authorityStep deref call t).1 := rfl
  generalize Lib.record (authorityStep deref) t call = r at hbefore hcall houtput ⊢
  rw [show (t.1, t.2) = t from rfl] at hchange
  generalize authorityStep deref call t = result at hchange houtput ⊢
  cases hchange with
  | kept output hplain =>
    exact h.leave (houtput ▸ hplain) hbefore rfl rfl (Or.inl rfl) (Or.inr ⟨rfl, rfl, id⟩)
  | failed output hplain phase hphase hopen =>
    refine h.leave (houtput ▸ hplain) hbefore rfl rfl (Or.inr ?_) (Or.inl (h.not_running hopen))
    rcases hphase with rfl | rfl <;> rfl
  | exhausted thread allocates input hused =>
    exact h.leave (houtput ▸ rfl) hbefore rfl rfl (Or.inr rfl)
      (Or.inr ⟨rfl, rfl, fun _ => Or.inr rfl⟩)
  | created thread input hused hphase hemitting hcontext hvalid howner =>
    exact h.create hused hemitting hvalid howner hcall houtput
  | recorded thread input hphase howner hcontext hvalid hcount hsame =>
    exact h.record hphase howner hvalid hcount hsame hbefore hcall houtput
  | sealed thread hphase howner hcount hplan =>
    exact h.sealPlan hphase howner hcount hbefore hcall houtput
  | called thread hphase howner hcount hplan =>
    exact h.call hphase howner hcount hplan hbefore hcall houtput
  | returned succeeded result phase hrunning hphase =>
    refine h.leave (houtput ▸ rfl) hbefore rfl rfl (Or.inr ?_) (Or.inl ?_)
    · rcases hphase with hphase | ⟨-, -, hphase⟩
      · rw [(Prod.mk.inj hphase).2]
        rfl
      · rw [(Prod.mk.inj hphase).2]
        rfl
    · rcases h.running with hnone | ⟨hone, -⟩
      · exact absurd hnone hrunning
      · show t.2 - 1 = 0
        omega

theorem sound_init (instanceGeneration : UInt64) : Sound deref (init instanceGeneration, 0) [] where
  recording hphase := by
    unfold init at hphase
    split at hphase <;> cases hphase
  isSealed hphase := by
    unfold init at hphase
    split at hphase <;> cases hphase
  created := List.Pairwise.nil
  createdLast _ h := (nomatch h)
  next := rfl
  called := List.Pairwise.nil
  calledLast _ h := (nomatch h)
  emits before e after view h := by
    have hlength := congrArg List.length h
    simp at hlength
  running := Or.inl rfl

theorem sound_run (instanceGeneration : UInt64) (calls : List AuthorityCall) :
    Sound deref (run (authorityStep deref) calls (init instanceGeneration, 0))
      (history (authorityStep deref) calls (init instanceGeneration, 0)) :=
  @history_induction _ _ _ (authorityStep deref) (Sound deref) (init instanceGeneration, 0)
    (sound_init instanceGeneration) (fun _ _ call h => h.step call) calls

end War3VK.GpuSkin.RecordingAuthority
