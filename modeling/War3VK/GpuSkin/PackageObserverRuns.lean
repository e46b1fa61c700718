import War3VK.GpuSkin.PackageObserver
import War3VK.Lib.Alignment
import War3VK.Lib.Tally

/-!
# The counters of the observer are sums over its entries

Every counter of a frame is a tally of a measure of the entries (`Books`): a seal adds the measures of
the new entry (`Books.withEntry`), a note the difference that one more bit makes (`Books.withNote`).
-/

namespace War3VK.GpuSkin.PackageObserver

open War3VK.Lib ProofCatalog

variable {s : PackageObserver}

/-! ## Masks -/

def bitCount (mask : UInt32) : ℕ := ((Finset.range 32).filter fun i => mask.toNat.testBit i).card

variable {b : UInt32}

theorem or_and_not {a : UInt32} (h : a &&& b = 0) : (a ||| b) &&& ~~~a = b := by
  apply UInt32.toBitVec_inj.mp
  ext i hi
  have hbit : (a.toBitVec &&& b.toBitVec)[i] = false := by simp [← UInt32.toBitVec_and, h]
  simp only [BitVec.getElem_and] at hbit
  simp only [UInt32.toBitVec_and, UInt32.toBitVec_or, UInt32.toBitVec_not, BitVec.getElem_and,
    BitVec.getElem_or, BitVec.getElem_not]
  cases ha : a.toBitVec[i]
  · simp
  · rw [ha, Bool.true_and] at hbit
    simp [hbit]

theorem and_or (a b c : UInt32) : a &&& (b ||| c) = (a &&& b) ||| (a &&& c) := by
  apply UInt32.toBitVec_inj.mp
  ext i hi
  simp only [UInt32.toBitVec_and, UInt32.toBitVec_or, BitVec.getElem_and, BitVec.getElem_or,
    Bool.and_or_distrib_left]

theorem single_bit (hb : b ≠ 0) (hone : b &&& (b - 1) = 0) : ∃ k < 32, b.toNat = 2^k := by
  have hpos : b.toNat ≠ 0 := fun hzero => hb (UInt32.toNat_inj.mp hzero)
  have hle : (1 : UInt32) ≤ b := UInt32.le_iff_toNat_le.mpr (Nat.one_le_iff_ne_zero.mpr hpos)
  have hnat : b.toNat &&& (b.toNat - 1) = 0 := by
    have hand := congrArg UInt32.toNat hone
    rwa [UInt32.toNat_and, UInt32.toNat_sub_of_le _ _ hle] at hand
  obtain ⟨k, hk⟩ := isPowerOfTwo_of_and_sub_one hpos hnat
  refine ⟨k, ?_, hk⟩
  have hlt := b.toNat_lt
  rw [hk] at hlt
  exact (Nat.pow_lt_pow_iff_right (by norm_num)).mp hlt

theorem bit_and_not {mask : UInt32} (hone : b &&& (b - 1) = 0) (h : mask &&& b ≠ 0) :
    b &&& ~~~mask = 0 := by
  have hb : b ≠ 0 := by
    rintro rfl
    exact h UInt32.and_zero
  obtain ⟨k, hk, hpow⟩ := single_bit hb hone
  have hbits : ∀ i (hi : i < 32), b.toBitVec[i] = decide (k = i) := by
    intro i hi
    rw [BitVec.getElem_eq_testBit_toNat, UInt32.toNat_toBitVec, hpow, Nat.testBit_two_pow]
  -- The one bit is in the mask, or nothing of it were.
  have hmask : mask.toBitVec[k] = true := by
    by_contra hmissing
    apply h
    apply UInt32.toBitVec_inj.mp
    ext i hi
    simp only [UInt32.toBitVec_and, BitVec.getElem_and, hbits i hi]
    by_cases hki : k = i
    · subst hki
      rw [Bool.not_eq_true] at hmissing
      simp [hmissing]
    · simp [hki]
  apply UInt32.toBitVec_inj.mp
  ext i hi
  simp only [UInt32.toBitVec_and, UInt32.toBitVec_not, BitVec.getElem_and, BitVec.getElem_not, hbits i hi]
  by_cases hki : k = i
  · subst hki
    simp [hmask]
  · simp [hki]

theorem bitCount_or {a : UInt32} (hb : b ≠ 0) (hone : b &&& (b - 1) = 0) (h : a &&& b = 0) :
    bitCount (a ||| b) = bitCount a + 1 := by
  obtain ⟨k, hk, hpow⟩ := single_bit hb hone
  have hmissing : a.toNat.testBit k = false := by
    have hand := congrArg (fun m : UInt32 => m.toNat.testBit k) h
    simpa [UInt32.toNat_and, hpow] using hand
  have hinsert : ((Finset.range 32).filter fun i => (a ||| b).toNat.testBit i) =
      insert k ((Finset.range 32).filter fun i => a.toNat.testBit i) := by
    ext i
    simp only [Finset.mem_filter, Finset.mem_range, Finset.mem_insert, UInt32.toNat_or, hpow,
      Nat.testBit_or, Nat.testBit_two_pow, Bool.or_eq_true, decide_eq_true_eq]
    constructor
    · rintro ⟨hi, hbit | rfl⟩
      · exact .inr ⟨hi, hbit⟩
      · exact .inl rfl
    · rintro (rfl | ⟨hi, hbit⟩)
      · exact ⟨hk, .inr rfl⟩
      · exact ⟨hi, .inl hbit⟩
  rw [bitCount, hinsert, Finset.card_insert_of_notMem (by simp [hmissing])]
  rfl

theorem countBits_single (hb : b ≠ 0) (hone : b &&& (b - 1) = 0) (count : UInt64) :
    countBits b count = count + 1 := by
  rw [countBits, dif_neg hb, hone, countBits, dif_pos rfl]

/-! ## Entries -/

def BoundTo (e : Entry) (decision : CatalogDecision) : Prop :=
  decision.val.ready = true ∧
  decision.val.agrees (tupleOf e.frame e.generations e.packageKey e.tokens) = true ∧
  e.packageKey.mapEpoch = e.frame.mapEpoch ∧ e.packageKey.deviceEpoch = e.frame.deviceEpoch ∧
  e.packageKey.packageGeneration = e.generations.packageGeneration ∧
  e.packageKey.immutableModelGeneration = e.generations.immutableModelGeneration ∧
  e.packagePublicationRevision = decision.val.publicationRevision ∧
  e.packageCanonicalDigest = decision.val.canonicalDigest ∧
  e.packageDecisionReason = decision.val.reason

structure EntryLaw (context : FrameContext) (e : Entry) : Prop where
  /-- A fully equivalent entry is of the frame, and bound to a decision. -/
  equivalent : e.proofState = .fullyEquivalent →
    e.frame = context.frame ∧ e.disposition = .recorded ∧ e.packageDecisionBound = true
  /-- A bound entry has a decision of the catalog that is ready and about it. -/
  bound : e.packageDecisionBound = true → ∃ decision, BoundTo e decision
  /-- Its requested consumers could use the package if it is fully equivalent, else none could. -/
  eligible : e.eligibleConsumerMask =
    if e.proofState = .fullyEquivalent then e.requestedConsumerMask else 0
  wouldUse : e.wouldUseConsumerMask = e.eligibleConsumerMask &&& e.actualConsumerMask
  actual : e.actualConsumerMask &&& ~~~e.requestedConsumerMask = 0

theorem ready_of_agrees {decision : PackageContentDecision} {tuple : DecisionTuple}
    (h : decision.agrees tuple = true) : decision.ready = true := by
  simp only [PackageContentDecision.agrees, Bool.and_eq_true, and_assoc] at h
  exact h.1

theorem ready_iff_reason (decision : CatalogDecision) :
    decision.val.ready = true ↔ decision.val.reason = .ready := by
  obtain ⟨-, catalog, context, evidence, rfl⟩ := decision
  dsimp only
  constructor
  · intro h
    cases catalog with
    | none => cases h
    | some snapshot =>
      obtain ⟨entry, -, -, -, heq⟩ := validateDrawEvidence_ready h
      rw [heq]
      rfl
  · intro h
    unfold validateDrawEvidence at h ⊢
    split at h
    · cases h
    · split_ifs at h ⊢ with hinstance hcontext hkey hrevision
      · cases h
      · cases h
      · cases h
      · cases h
      · split at h
        · cases h
        · split at h
          · rfl
          · rename_i hreason
            exact absurd h hreason

/-! ## Books -/

def indicator (p : Entry → Bool) (e : Entry) : UInt64 := if p e then 1 else 0

def total (measure : Entry → UInt64) (entries : List Entry) : UInt64 :=
  tally (· + ·) 0 measure entries

def union (mask : Entry → UInt32) (entries : List Entry) : UInt32 :=
  tally (· ||| ·) 0 mask entries

section

variable {measure : Entry → UInt64} {mask : Entry → UInt32} {entries : List Entry} {i : ℕ}
  {e e' : Entry}

theorem total_concat : total measure (entries ++ [e]) = total measure entries + measure e :=
  tally_concat entries e

theorem union_concat : union mask (entries ++ [e]) = union mask entries ||| mask e :=
  tally_concat entries e

section

variable (he : entries[i]? = some e)
include he

theorem total_set {d : UInt64} (hd : measure e' = measure e + d) :
    total measure (entries.set i e') = total measure entries + d :=
  tally_set he hd

theorem union_set {d : UInt32} (hd : mask e' = mask e ||| d) :
    union mask (entries.set i e') = union mask entries ||| d :=
  tally_set he hd

theorem total_set_of_eq (h : measure e' = measure e) :
    total measure (entries.set i e') = total measure entries :=
  tally_set_of_eq he h

theorem union_set_of_eq (h : mask e' = mask e) :
    union mask (entries.set i e') = union mask entries :=
  tally_set_of_eq he h

end

end

def Diagnostics.stateCount (d : Diagnostics) : ProofState → UInt64
  | .identityOnly => d.identityOnly
  | .contentPending => d.contentPending
  | .packageInputReady => d.packageInputReady
  | .fullyEquivalent => d.fullyEquivalent
  | .rejected => d.rejected

def Entry.mismatched (e : Entry) : Bool :=
  e.packageDecisionReason = .ready && !e.packageDecisionBound

structure Books (entries : List Entry) (d : Diagnostics) : Prop where
  recorded : d.recorded = total (fun _ => 1) entries
  states : ∀ state, d.stateCount state = total (indicator (·.proofState = state)) entries
  /-- The entries whose ready decision is about another candidate. -/
  mismatch : d.packageDecisionBindingMismatch = total (indicator Entry.mismatched) entries
  eligibleEntries : d.eligibleEntries = total (indicator (·.eligibleConsumerMask ≠ 0)) entries
  eligibleMask : d.eligibleConsumerMaskOr = union Entry.eligibleConsumerMask entries
  /-- The entries that some consumer could use and drew. -/
  wouldUseEntries : d.wouldUseEntries = total (indicator (·.wouldUseConsumerMask ≠ 0)) entries
  wouldUseMask : d.wouldUseConsumerMaskOr = union Entry.wouldUseConsumerMask entries
  actualEntries : d.actualConsumerEntries = total (indicator (·.actualConsumerMask ≠ 0)) entries
  actualBits :
    d.actualConsumerBits = total (fun e => UInt64.ofNat (bitCount e.actualConsumerMask)) entries
  actualMask : d.actualConsumerMaskOr = union Entry.actualConsumerMask entries
  notes : d.actualNotesRecorded = d.actualConsumerBits

def Diagnostics.withEntry (e : Entry) (d : Diagnostics) : Diagnostics :=
  { d with
    recorded := d.recorded + 1
    identityOnly := d.identityOnly + indicator (·.proofState = .identityOnly) e
    contentPending := d.contentPending + indicator (·.proofState = .contentPending) e
    packageInputReady := d.packageInputReady + indicator (·.proofState = .packageInputReady) e
    fullyEquivalent := d.fullyEquivalent + indicator (·.proofState = .fullyEquivalent) e
    rejected := d.rejected + indicator (·.proofState = .rejected) e
    packageDecisionBindingMismatch :=
      d.packageDecisionBindingMismatch + indicator Entry.mismatched e
    eligibleEntries := d.eligibleEntries + indicator (·.eligibleConsumerMask ≠ 0) e
    eligibleConsumerMaskOr := d.eligibleConsumerMaskOr ||| e.eligibleConsumerMask }

theorem countWouldUseTransition_self (d : Diagnostics) (mask : UInt32) :
    d.countWouldUseTransition mask mask = d := by
  simp [Diagnostics.countWouldUseTransition]

theorem countActualTransition_self (d : Diagnostics) (mask : UInt32) :
    d.countActualTransition mask mask = d := by
  simp [Diagnostics.countActualTransition]

theorem append_eq (input : SealInput) (state : ProofState) (disposition : Disposition) :
    (s.append input state disposition).2 = { s with
        entries := s.entries ++ [entryOf input state disposition]
        diagnostics := s.diagnostics.withEntry (entryOf input state disposition) } := by
  have hmismatch : (input.packageContentDecision.val.ready &&
      !(entryOf input state disposition).packageDecisionBound) =
        (entryOf input state disposition).mismatched := by
    have hready := ready_iff_reason input.packageContentDecision
    unfold Entry.mismatched entryOf
    dsimp only
    cases hdecision : input.packageContentDecision.val.ready with
    | true => rw [decide_eq_true (hready.mp hdecision)]
    | false =>
      have hreason : ¬input.packageContentDecision.val.reason = .ready := by
        rw [← hready, hdecision]
        simp
      rw [decide_eq_false hreason]
  have hwouldUse : (entryOf input state disposition).wouldUseConsumerMask = 0 := by
    simp [entryOf]
  have hactual : (entryOf input state disposition).actualConsumerMask = 0 := rfl
  have hstate : (entryOf input state disposition).proofState = state := rfl
  unfold append
  dsimp only
  rw [hmismatch, hwouldUse, hactual, countWouldUseTransition_self, countActualTransition_self]
  simp only [Diagnostics.withEntry, indicator, hstate]
  cases hm : (entryOf input state disposition).mismatched <;>
    by_cases he : (entryOf input state disposition).eligibleConsumerMask = 0 <;>
    cases state <;> simp [Diagnostics.countState, he]

theorem Books.withEntry {entries : List Entry} {d : Diagnostics} (h : Books entries d) {e : Entry}
    (hwouldUse : e.wouldUseConsumerMask = 0) (hactual : e.actualConsumerMask = 0) :
    Books (entries ++ [e]) (d.withEntry e) where
  recorded := by rw [total_concat, ← h.recorded]; rfl
  states state := by
    rw [total_concat, ← h.states state]
    cases state <;> rfl
  mismatch := by rw [total_concat, ← h.mismatch]; rfl
  eligibleEntries := by rw [total_concat, ← h.eligibleEntries]; rfl
  eligibleMask := by rw [union_concat, ← h.eligibleMask]; rfl
  wouldUseEntries := by
    rw [total_concat, ← h.wouldUseEntries]
    simp [indicator, hwouldUse, Diagnostics.withEntry]
  wouldUseMask := by
    rw [union_concat, ← h.wouldUseMask, hwouldUse, UInt32.or_zero]
    rfl
  actualEntries := by
    rw [total_concat, ← h.actualEntries]
    simp [indicator, hactual, Diagnostics.withEntry]
  actualBits := by
    rw [total_concat, ← h.actualBits, hactual]
    simp [bitCount, Diagnostics.withEntry]
  actualMask := by
    rw [union_concat, ← h.actualMask, hactual, UInt32.or_zero]
    rfl
  notes := h.notes

def Diagnostics.withNote (e : Entry) (consumerBit : UInt32) (d : Diagnostics) : Diagnostics :=
  { d with
    actualConsumerEntries :=
      d.actualConsumerEntries + if e.actualConsumerMask = 0 then 1 else 0
    actualConsumerMaskOr := d.actualConsumerMaskOr ||| consumerBit
    actualConsumerBits := d.actualConsumerBits + 1
    wouldUseEntries := d.wouldUseEntries +
      if e.wouldUseConsumerMask = 0 ∧ e.eligibleConsumerMask &&& consumerBit ≠ 0 then 1 else 0
    wouldUseConsumerMaskOr :=
      d.wouldUseConsumerMaskOr ||| (e.eligibleConsumerMask &&& consumerBit)
    actualNotesRecorded := d.actualNotesRecorded + 1 }

variable {bit : UInt32}

theorem countActualTransition_or {mask : UInt32} (hbit : bit ≠ 0) (hone : bit &&& (bit - 1) = 0)
    (h : mask &&& bit = 0) (d : Diagnostics) :
    d.countActualTransition mask (mask ||| bit) = { d with
        actualConsumerEntries := d.actualConsumerEntries + if mask = 0 then 1 else 0
        actualConsumerMaskOr := d.actualConsumerMaskOr ||| bit
        actualConsumerBits := d.actualConsumerBits + 1 } := by
  unfold Diagnostics.countActualTransition
  rw [or_and_not h, if_neg hbit, countBits_single hbit hone]
  by_cases hmask : mask = 0
  · simp [hmask]
  · simp [hmask]

theorem countWouldUseTransition_or {mask added : UInt32} (h : mask &&& added = 0)
    (d : Diagnostics) :
    d.countWouldUseTransition mask (mask ||| added) = { d with
        wouldUseEntries := d.wouldUseEntries + if mask = 0 ∧ added ≠ 0 then 1 else 0
        wouldUseConsumerMaskOr := d.wouldUseConsumerMaskOr ||| added } := by
  unfold Diagnostics.countWouldUseTransition
  rw [or_and_not h]
  by_cases hadded : added = 0
  · simp [hadded]
  · by_cases hmask : mask = 0
    · simp [hmask, hadded]
    · simp [hmask, hadded]

theorem indicator_or (mask added : UInt32) : (if mask ||| added ≠ 0 then (1 : UInt64) else 0) =
    (if mask ≠ 0 then 1 else 0) + if mask = 0 ∧ added ≠ 0 then 1 else 0 := by
  have hor : mask ||| added = 0 ↔ mask = 0 ∧ added = 0 := UInt32.or_eq_zero_iff
  by_cases hmask : mask = 0
  · simp [hmask]
  · simp [hmask, hor]

theorem noteTarget_eq {tableIndex : ℕ} {e : Entry} (hbit : bit ≠ 0) (hone : bit &&& (bit - 1) = 0)
    (hnew : e.actualConsumerMask &&& bit = 0)
    (hwouldUse : e.wouldUseConsumerMask = e.eligibleConsumerMask &&& e.actualConsumerMask) :
    s.noteTarget tableIndex bit e = (.recorded, { s with
        entries := s.entries.set tableIndex (e.note bit)
        diagnostics := s.diagnostics.withNote e bit }) := by
  have hsplit : (e.note bit).wouldUseConsumerMask =
      e.wouldUseConsumerMask ||| (e.eligibleConsumerMask &&& bit) := by
    rw [hwouldUse]
    exact and_or _ _ _
  have hdisjoint : e.wouldUseConsumerMask &&& (e.eligibleConsumerMask &&& bit) = 0 := by
    calc e.wouldUseConsumerMask &&& (e.eligibleConsumerMask &&& bit)
        = e.eligibleConsumerMask &&& e.eligibleConsumerMask &&& (e.actualConsumerMask &&& bit) := by
          rw [hwouldUse]
          ac_rfl
      _ = 0 := by rw [hnew, UInt32.and_zero]
  unfold noteTarget
  rw [if_neg (not_not.mpr hnew)]
  dsimp only
  rw [show (e.note bit).actualConsumerMask = e.actualConsumerMask ||| bit from rfl, hsplit,
    countActualTransition_or hbit hone hnew, countWouldUseTransition_or hdisjoint]
  rfl

theorem Books.withNote {entries : List Entry} {d : Diagnostics} (h : Books entries d) {i : ℕ}
    {e : Entry} (he : entries[i]? = some e) (hbit : bit ≠ 0) (hone : bit &&& (bit - 1) = 0)
    (hnew : e.actualConsumerMask &&& bit = 0)
    (hwouldUse : e.wouldUseConsumerMask = e.eligibleConsumerMask &&& e.actualConsumerMask) :
    Books (entries.set i (e.note bit)) (d.withNote e bit) := by
  have hsplit : (e.note bit).wouldUseConsumerMask =
      e.wouldUseConsumerMask ||| (e.eligibleConsumerMask &&& bit) := by
    rw [hwouldUse]
    exact and_or _ _ _
  have hactual : (e.note bit).actualConsumerMask = e.actualConsumerMask ||| bit := rfl
  exact {
    recorded := h.recorded.trans (total_set_of_eq he (by rfl)).symm
    states := fun state => by
      refine Eq.trans ?_ ((h.states state).trans (total_set_of_eq he (by rfl)).symm)
      cases state <;> rfl
    mismatch := h.mismatch.trans (total_set_of_eq he (by rfl)).symm
    eligibleEntries := h.eligibleEntries.trans (total_set_of_eq he (by rfl)).symm
    eligibleMask := h.eligibleMask.trans (union_set_of_eq he (by rfl)).symm
    wouldUseEntries := by
      have hmeasure : indicator (·.wouldUseConsumerMask ≠ 0) (e.note bit) =
          indicator (·.wouldUseConsumerMask ≠ 0) e +
            if e.wouldUseConsumerMask = 0 ∧ e.eligibleConsumerMask &&& bit ≠ 0 then 1 else 0 := by
        simp only [indicator, hsplit, decide_eq_true_eq]
        exact indicator_or _ _
      rw [total_set he hmeasure, ← h.wouldUseEntries]
      rfl
    wouldUseMask := by
      rw [union_set he hsplit, ← h.wouldUseMask]
      rfl
    actualEntries := by
      have hmeasure : indicator (·.actualConsumerMask ≠ 0) (e.note bit) =
          indicator (·.actualConsumerMask ≠ 0) e +
            if e.actualConsumerMask = 0 then 1 else 0 := by
        simp only [indicator, hactual, decide_eq_true_eq]
        rw [indicator_or]
        simp only [hbit, ne_eq, not_false_eq_true, and_true]
      rw [total_set he hmeasure, ← h.actualEntries]
      rfl
    actualBits := by
      have hmeasure : UInt64.ofNat (bitCount (e.note bit).actualConsumerMask) =
          UInt64.ofNat (bitCount e.actualConsumerMask) + 1 := by
        rw [hactual, bitCount_or hbit hone hnew, UInt64.ofNat_add]
        rfl
      rw [total_set he hmeasure, ← h.actualBits]
      rfl
    actualMask := by
      rw [union_set he hactual, ← h.actualMask]
      rfl
    notes := congrArg (· + 1) h.notes }

end War3VK.GpuSkin.PackageObserver

/-!
## A frame of the observer

Over all calls of a frame: each seal gives back the consumers it was asked for, each entry obeys
`EntryLaw`, the counters of the entries are sums over them and the counters of the calls are counts
of what the calls returned (`observer_frame`).
-/

namespace War3VK.GpuSkin.PackageObserver

open War3VK.Lib ProofCatalog

variable {s : PackageObserver}

inductive Call
  | candidate (input : SealInput)
  | actual (note : ActualConsumerNote)

inductive Answer
  | candidate (decision : SealDecision)
  | actual (result : ActualNoteResult)
  deriving DecidableEq, Repr

def step (call : Call) (s : PackageObserver) : Answer × PackageObserver :=
  match call with
  | .candidate input => ((.candidate (s.sealCandidate input).1), (s.sealCandidate input).2)
  | .actual note => ((.actual (s.noteActualConsumer note).1), (s.noteActualConsumer note).2)

/-! ### What one call does -/

/-- The counters that count calls, as a function of those that were there. -/
structure CallCounters where
  /-- Calls of `seal`. -/
  sealCalls : UInt64
  /-- Candidates that were one too many for the budget. -/
  deferredBudget : UInt64
  /-- Candidates that were one too many for the table. -/
  deferredCapacity : UInt64
  /-- Calls of `noteActualConsumer`. -/
  actualNoteCalls : UInt64
  actualNotesDuplicate : UInt64
  actualNotesRejected : UInt64
  deriving DecidableEq, Repr

def Diagnostics.calls (d : Diagnostics) : CallCounters :=
  ⟨d.sealCalls, d.deferredBudget, d.deferredCapacity, d.actualNoteCalls, d.actualNotesDuplicate,
    d.actualNotesRejected⟩

def Diagnostics.withCalls (c : CallCounters) (d : Diagnostics) : Diagnostics :=
  { d with
    sealCalls := c.sealCalls
    deferredBudget := c.deferredBudget
    deferredCapacity := c.deferredCapacity
    actualNoteCalls := c.actualNoteCalls
    actualNotesDuplicate := c.actualNotesDuplicate
    actualNotesRejected := c.actualNotesRejected }

variable {entries : List Entry}

theorem Books.withCalls {d : Diagnostics} (h : Books entries d) (c : CallCounters) :
    Books entries (d.withCalls c) where
  recorded := h.recorded
  states state := by
    refine Eq.trans ?_ (h.states state)
    cases state <;> rfl
  mismatch := h.mismatch
  eligibleEntries := h.eligibleEntries
  eligibleMask := h.eligibleMask
  wouldUseEntries := h.wouldUseEntries
  wouldUseMask := h.wouldUseMask
  actualEntries := h.actualEntries
  actualBits := h.actualBits
  actualMask := h.actualMask
  notes := h.notes

def countCalls (c : CallCounters) (s : PackageObserver) : PackageObserver :=
  { s with diagnostics := s.diagnostics.withCalls c }

/-- What a seal does: it is refused for the mode, deferred, or makes an entry. -/
inductive SealCase (input : SealInput) (s : PackageObserver) : SealDecision × PackageObserver → Prop
  | refused (disposition : Disposition) (hcapacity : disposition ≠ .deferredCapacity)
      (hbudget : disposition ≠ .deferredBudget) :
      SealCase input s (makePassthroughDecision input .rejected disposition,
        s.countCalls { s.diagnostics.calls with sealCalls := s.diagnostics.sealCalls + 1 })
  | capacity :
      SealCase input s (makePassthroughDecision input .rejected .deferredCapacity,
        s.countCalls { s.diagnostics.calls with
          sealCalls := s.diagnostics.sealCalls + 1
          deferredCapacity := s.diagnostics.deferredCapacity + 1 })
  | budget :
      SealCase input s (makePassthroughDecision input .rejected .deferredBudget,
        s.countCalls { s.diagnostics.calls with
          sealCalls := s.diagnostics.sealCalls + 1
          deferredBudget := s.diagnostics.deferredBudget + 1 })
  | appended (hcapacity : s.entries.length < kCapacity) (hbudget : s.entries.length < s.budget) :
      SealCase input s ((s.countCalls
        { s.diagnostics.calls with sealCalls := s.diagnostics.sealCalls + 1 }).append input
          (judge s.context input).1 (judge s.context input).2)

theorem sealCandidate_case (input : SealInput) (s : PackageObserver) :
    SealCase input s (s.sealCandidate input) := by
  unfold sealCandidate
  dsimp only
  split
  · exact .refused _ (by decide) (by decide)
  · split
    · exact .refused _ (by decide) (by decide)
    · split
      · exact .refused _ (by decide) (by decide)
      · split
        · exact .refused _ (by decide) (by decide)
        · split
          · exact .capacity
          · rename_i hcapacity
            split
            · exact .budget
            · rename_i hbudget
              exact .appended (Nat.lt_of_not_ge hcapacity) (Nat.lt_of_not_ge hbudget)

/-- What a note does: it is refused, was there before, or sets a bit that was requested. -/
inductive NoteCase (s : PackageObserver) : ActualNoteResult × PackageObserver → Prop
  | refused (result : ActualNoteResult) (hrecorded : result ≠ .recorded)
      (hduplicate : result ≠ .duplicate) :
      NoteCase s (result, s.countCalls { s.diagnostics.calls with
        actualNoteCalls := s.diagnostics.actualNoteCalls + 1
        actualNotesRejected := s.diagnostics.actualNotesRejected + 1 })
  | duplicate :
      NoteCase s (.duplicate, s.countCalls { s.diagnostics.calls with
        actualNoteCalls := s.diagnostics.actualNoteCalls + 1
        actualNotesDuplicate := s.diagnostics.actualNotesDuplicate + 1 })
  | recorded (i : ℕ) (e : Entry) (bit : UInt32) (he : s.entries[i]? = some e)
      (hbit : isKnownSingleConsumerBit bit = true)
      (hrequested : e.requestedConsumerMask &&& bit ≠ 0) (hnew : e.actualConsumerMask &&& bit = 0) :
      NoteCase s ((s.countCalls { s.diagnostics.calls with
        actualNoteCalls := s.diagnostics.actualNoteCalls + 1 }).noteTarget i bit e)

theorem noteContext_ne {context : FrameContext} {note : ActualConsumerNote}
    {result : ActualNoteResult} (h : noteContext context note = some result) :
    result ≠ .recorded ∧ result ≠ .duplicate := by
  unfold noteContext at h
  split_ifs at h
  all_goals
    cases h
    decide

theorem noteEntry_ne {e : Entry} {note : ActualConsumerNote} {result : ActualNoteResult}
    (h : noteEntry e note = some result) : result ≠ .recorded ∧ result ≠ .duplicate := by
  unfold noteEntry at h
  split_ifs at h
  all_goals
    cases h
    decide

theorem noteEntry_requested {e : Entry} {note : ActualConsumerNote}
    (h : noteEntry e note = none) : e.requestedConsumerMask &&& note.consumerBit ≠ 0 := by
  unfold noteEntry at h
  split_ifs at h
  assumption

theorem noteActualConsumer_case (note : ActualConsumerNote) (s : PackageObserver) :
    NoteCase s (s.noteActualConsumer note) := by
  unfold noteActualConsumer
  dsimp only
  split
  · exact .refused _ (by decide) (by decide)
  · split
    · exact .refused _ (by decide) (by decide)
    · split
      · exact .refused _ (by decide) (by decide)
      · rename_i hbit
        split
        · exact .refused _ (by decide) (by decide)
        · rename_i e he
          split
          · rename_i result hresult
            exact .refused _ (noteContext_ne hresult).1 (noteContext_ne hresult).2
          · split
            · rename_i result hresult
              exact .refused _ (noteEntry_ne hresult).1 (noteEntry_ne hresult).2
            · rename_i hentry
              by_cases hnew : e.actualConsumerMask &&& note.consumerBit = 0
              · exact .recorded note.tableIndex e note.consumerBit he (by simpa using hbit)
                  (noteEntry_requested hentry) hnew
              · unfold noteTarget
                rw [if_pos hnew]
                exact .duplicate

/-! ### Entries -/

theorem judge_equivalent {context : FrameContext} {input : SealInput}
    (h : (judge context input).1 = .fullyEquivalent) :
    input.frame = context.frame ∧ (judge context input).2 = .recorded ∧
      exactPackageDecision input = true := by
  unfold judge at h ⊢
  split_ifs at h ⊢ with hmask hframe hpolicy hstage hkey hbounds
  refine ⟨by simpa [exactFrameKey] using hkey, rfl, ?_⟩
  unfold classify at h
  dsimp only at h
  split_ifs at h with hidentity hsource
  simp only [Bool.or_eq_true, not_or] at hsource
  simpa using hsource.2

theorem entryLaw_entryOf (context : FrameContext) (input : SealInput) :
    EntryLaw context (entryOf input (judge context input).1 (judge context input).2) where
  equivalent h := judge_equivalent h
  bound h := by
    have hexact : exactPackageDecision input = true := h
    refine ⟨input.packageContentDecision, ?_⟩
    simp only [exactPackageDecision, Bool.and_eq_true, decide_eq_true_eq, and_assoc] at hexact
    obtain ⟨-, -, -, hmap, hdevice, hpackage, hmodel, hagrees⟩ := hexact
    exact ⟨ready_of_agrees hagrees, hagrees, hmap, hdevice, hpackage, hmodel, if_pos h, if_pos h, rfl⟩
  eligible := rfl
  wouldUse := rfl
  actual := UInt32.zero_and

theorem EntryLaw.note {context : FrameContext} {e : Entry} (h : EntryLaw context e) {bit : UInt32}
    (hone : bit &&& (bit - 1) = 0) (hrequested : e.requestedConsumerMask &&& bit ≠ 0) :
    EntryLaw context (e.note bit) where
  equivalent := h.equivalent
  bound := h.bound
  eligible := h.eligible
  wouldUse := rfl
  actual := by
    calc (e.actualConsumerMask ||| bit) &&& ~~~e.requestedConsumerMask
        = (e.actualConsumerMask &&& ~~~e.requestedConsumerMask) |||
            (bit &&& ~~~e.requestedConsumerMask) := by
          rw [UInt32.and_comm, and_or, UInt32.and_comm, UInt32.and_comm _ bit]
      _ = 0 := by rw [h.actual, bit_and_not hone hrequested, UInt32.or_zero]

/-! ### Calls -/

abbrev Past := Record PackageObserver Call Answer

def countOf (p : Answer → Bool) (past : List Past) : UInt64 :=
  UInt64.ofNat (past.countP fun r => p r.output)

theorem countOf_concat (p : Answer → Bool) (past : List Past) (r : Past) :
    countOf p (past ++ [r]) = countOf p past + if p r.output then 1 else 0 := by
  unfold countOf
  rw [List.countP_append, UInt64.ofNat_add, List.countP_singleton]
  cases p r.output <;> rfl

def Answer.isCandidate : Answer → Bool
  | .candidate _ => true
  | .actual _ => false

def Answer.disposed (disposition : Disposition) : Answer → Bool
  | .candidate decision => decision.disposition = disposition
  | .actual _ => false

def Answer.noted (result : ActualNoteResult) : Answer → Bool
  | .candidate _ => false
  | .actual answer => answer = result

def Answer.refused : Answer → Bool
  | .candidate _ => false
  | .actual answer => answer ≠ .recorded && answer ≠ .duplicate

def callsOf (past : List Past) : CallCounters where
  sealCalls := countOf Answer.isCandidate past
  deferredBudget := countOf (Answer.disposed .deferredBudget) past
  deferredCapacity := countOf (Answer.disposed .deferredCapacity) past
  actualNoteCalls := countOf (!·.isCandidate) past
  actualNotesDuplicate := countOf (Answer.noted .duplicate) past
  actualNotesRejected := countOf Answer.refused past

theorem judge_disposition (context : FrameContext) (input : SealInput) :
    (judge context input).2 ≠ .deferredBudget ∧ (judge context input).2 ≠ .deferredCapacity := by
  unfold judge
  split_ifs <;> simp

structure FrameBooks (context : FrameContext) (past : List Past) (s : PackageObserver) : Prop where
  sameContext : s.context = context
  budget : s.budget = min context.observationBudget kCapacity
  capacity : s.entries.length ≤ s.budget
  entries : ∀ e ∈ s.entries, EntryLaw context e
  /-- The counters of the entries are sums over them. -/
  books : Books s.entries s.diagnostics
  calls : s.diagnostics.calls = callsOf past
  workload : s.diagnostics.canonicalWorkload = context.canonicalWorkload
  passes : ∀ r ∈ past, ∀ input decision, r.call = .candidate input →
    r.output = .candidate decision →
      decision.requestedConsumerMask = input.requestedConsumerMask ∧
      decision.effectiveConsumerMask = input.requestedConsumerMask

section

variable {context : FrameContext} {past : List Past}

section

variable (h : FrameBooks context past s)
include h

theorem FrameBooks.countCalls {c : CallCounters} {r : Past} (hc : c = callsOf (past ++ [r]))
    (hpass : ∀ input decision, r.call = .candidate input → r.output = .candidate decision →
      decision.requestedConsumerMask = input.requestedConsumerMask ∧
      decision.effectiveConsumerMask = input.requestedConsumerMask) :
    FrameBooks context (past ++ [r]) (s.countCalls c) where
  sameContext := h.sameContext
  budget := h.budget
  capacity := h.capacity
  entries := h.entries
  books := h.books.withCalls c
  calls := hc
  workload := h.workload
  passes := by
    intro other hother
    obtain hother | hother := List.mem_append.mp hother
    · exact h.passes other hother
    · rw [List.mem_singleton] at hother
      rw [hother]
      exact hpass

theorem FrameBooks.withEntries {d : Diagnostics} (hcapacity : entries.length ≤ s.budget)
    (hentries : ∀ e ∈ entries, EntryLaw context e) (hbooks : Books entries d)
    (hcalls : d.calls = s.diagnostics.calls)
    (hworkload : d.canonicalWorkload = s.diagnostics.canonicalWorkload) :
    FrameBooks context past { s with entries := entries, diagnostics := d } where
  sameContext := h.sameContext
  budget := h.budget
  capacity := hcapacity
  entries := hentries
  books := hbooks
  calls := hcalls.trans h.calls
  workload := hworkload.trans h.workload
  passes := h.passes

theorem FrameBooks.counts :
    s.diagnostics.sealCalls = countOf Answer.isCandidate past ∧
    s.diagnostics.deferredBudget = countOf (Answer.disposed .deferredBudget) past ∧
    s.diagnostics.deferredCapacity = countOf (Answer.disposed .deferredCapacity) past ∧
    s.diagnostics.actualNoteCalls = countOf (!·.isCandidate) past ∧
    s.diagnostics.actualNotesDuplicate = countOf (Answer.noted .duplicate) past ∧
    s.diagnostics.actualNotesRejected = countOf Answer.refused past := by
  have hcalls := h.calls
  simp only [Diagnostics.calls, callsOf, CallCounters.mk.injEq] at hcalls
  exact hcalls

theorem FrameBooks.seal_step (input : SealInput) {result : SealDecision × PackageObserver}
    (hcase : SealCase input s result) :
    FrameBooks context (past ++ [⟨s, .candidate input, .candidate result.1⟩]) result.2 := by
  obtain ⟨hseal, hbudget, hcapacity, hnote, hduplicate, hrejected⟩ := h.counts
  cases hcase with
  | refused disposition hnotCapacity hnotBudget =>
    refine h.countCalls ?_ (by rintro _ _ ⟨⟩ ⟨⟩; exact ⟨rfl, rfl⟩)
    simp [Diagnostics.calls, callsOf, countOf_concat, Answer.isCandidate, Answer.disposed,
      Answer.noted, Answer.refused, makePassthroughDecision, *]
  | capacity =>
    refine h.countCalls ?_ (by rintro _ _ ⟨⟩ ⟨⟩; exact ⟨rfl, rfl⟩)
    simp [Diagnostics.calls, callsOf, countOf_concat, Answer.isCandidate, Answer.disposed,
      Answer.noted, Answer.refused, makePassthroughDecision, *]
  | budget =>
    refine h.countCalls ?_ (by rintro _ _ ⟨⟩ ⟨⟩; exact ⟨rfl, rfl⟩)
    simp [Diagnostics.calls, callsOf, countOf_concat, Answer.isCandidate, Answer.disposed,
      Answer.noted, Answer.refused, makePassthroughDecision, *]
  | appended hroom hallowed =>
    obtain ⟨hnotBudget, hnotCapacity⟩ := judge_disposition s.context input
    -- The call is counted, and then the entry is appended.
    have hcounted : FrameBooks context (past ++ [⟨s, .candidate input, .candidate
        ((s.countCalls { s.diagnostics.calls with
          sealCalls := s.diagnostics.sealCalls + 1 }).append input (judge s.context input).1
            (judge s.context input).2).1⟩])
        (s.countCalls { s.diagnostics.calls with
          sealCalls := s.diagnostics.sealCalls + 1 }) := by
      refine h.countCalls ?_ (by rintro _ _ ⟨⟩ ⟨⟩; exact ⟨rfl, rfl⟩)
      simp [Diagnostics.calls, callsOf, countOf_concat, Answer.isCandidate, Answer.disposed,
        Answer.noted, Answer.refused, append, makePassthroughDecision, *]
    rw [append_eq]
    refine hcounted.withEntries ?_ ?_ (hcounted.books.withEntry UInt32.and_zero rfl) rfl rfl
    · rw [List.length_append, List.length_singleton]
      exact hallowed
    · intro e he
      obtain he | he := List.mem_append.mp he
      · exact hcounted.entries e he
      · rw [List.mem_singleton] at he
        rw [he, h.sameContext]
        exact entryLaw_entryOf context input

theorem FrameBooks.note_step (note : ActualConsumerNote)
    {result : ActualNoteResult × PackageObserver} (hcase : NoteCase s result) :
    FrameBooks context (past ++ [⟨s, .actual note, .actual result.1⟩]) result.2 := by
  obtain ⟨hseal, hbudget, hcapacity, hnote, hduplicate, hrejected⟩ := h.counts
  cases hcase with
  | refused result hnotRecorded hnotDuplicate =>
    refine h.countCalls ?_ (by rintro _ _ ⟨⟩)
    simp [Diagnostics.calls, callsOf, countOf_concat, Answer.isCandidate, Answer.disposed,
      Answer.noted, Answer.refused, *]
  | duplicate =>
    refine h.countCalls ?_ (by rintro _ _ ⟨⟩)
    simp [Diagnostics.calls, callsOf, countOf_concat, Answer.isCandidate, Answer.disposed,
      Answer.noted, Answer.refused, *]
  | recorded i e bit he hbit hrequested hnew =>
    simp only [isKnownSingleConsumerBit, Bool.and_eq_true, decide_eq_true_eq, ne_eq] at hbit
    obtain ⟨⟨hzero, hone⟩, -⟩ := hbit
    have hlaw := h.entries e (List.mem_of_getElem? he)
    rw [noteTarget_eq hzero hone hnew hlaw.wouldUse]
    -- The call is counted, and then the entry is amended.
    have hcounted : FrameBooks context (past ++ [⟨s, .actual note, .actual .recorded⟩])
        (s.countCalls { s.diagnostics.calls with
          actualNoteCalls := s.diagnostics.actualNoteCalls + 1 }) := by
      refine h.countCalls ?_ (by rintro _ _ ⟨⟩)
      simp [Diagnostics.calls, callsOf, countOf_concat, Answer.isCandidate, Answer.disposed,
        Answer.noted, Answer.refused, *]
    refine hcounted.withEntries ?_ ?_ (hcounted.books.withNote he hzero hone hnew hlaw.wouldUse)
      rfl rfl
    · rw [List.length_set]
      exact h.capacity
    · intro e' he'
      obtain he' | rfl := List.mem_or_eq_of_mem_set he'
      · exact h.entries e' he'
      · exact hlaw.note hone hrequested

theorem FrameBooks.step (call : Call) :
    FrameBooks context (past ++ [record step s call]) (PackageObserver.step call s).2 := by
  cases call with
  | candidate input => exact h.seal_step input (sealCandidate_case input s)
  | actual note => exact h.note_step note (noteActualConsumer_case note s)

end

end

/-! ### A frame -/

structure CounterLaw (past : List Past) (entries : List Entry) (d : Diagnostics) : Prop where
  recorded : d.recorded.toNat = entries.length
  states : ∀ state, (d.stateCount state).toNat = entries.countP (·.proofState = state)
  /-- The entries whose ready decision is about another candidate. -/
  mismatch : d.packageDecisionBindingMismatch.toNat = entries.countP Entry.mismatched
  eligibleEntries : d.eligibleEntries.toNat = entries.countP (·.eligibleConsumerMask ≠ 0)
  eligibleMask : d.eligibleConsumerMaskOr = union Entry.eligibleConsumerMask entries
  /-- The entries that some consumer could use and drew. -/
  wouldUseEntries : d.wouldUseEntries.toNat = entries.countP (·.wouldUseConsumerMask ≠ 0)
  wouldUseMask : d.wouldUseConsumerMaskOr = union Entry.wouldUseConsumerMask entries
  actualEntries : d.actualConsumerEntries.toNat = entries.countP (·.actualConsumerMask ≠ 0)
  actualBits :
    d.actualConsumerBits.toNat = (entries.map fun e => bitCount e.actualConsumerMask).sum
  actualMask : d.actualConsumerMaskOr = union Entry.actualConsumerMask entries
  /-- Each recorded note is one of the consumers that drew. -/
  notes : d.actualNotesRecorded = d.actualConsumerBits
  /-- The counters of the calls are counts of the calls and their answers. -/
  calls : d.calls = callsOf past

theorem toNat_total_indicator {p : Entry → Bool} (h : entries.length ≤ kCapacity) :
    (total (indicator p) entries).toNat = entries.countP p := by
  have hcount : total (indicator p) entries = UInt64.ofNat (entries.countP p) :=
    tally_indicator p entries
  have hle : entries.countP p ≤ entries.length := List.countP_le_length
  rw [hcount, UInt64.toNat_ofNat_of_lt']
  unfold kCapacity at h
  simp only [UInt64.size]
  omega

theorem bitCount_le (mask : UInt32) : bitCount mask ≤ 32 := by
  have hle := Finset.card_filter_le (Finset.range 32) fun i => mask.toNat.testBit i = true
  rwa [Finset.card_range] at hle

theorem toNat_total_bits (h : entries.length ≤ kCapacity) :
    (total (fun e => UInt64.ofNat (bitCount e.actualConsumerMask)) entries).toNat =
      (entries.map fun e => bitCount e.actualConsumerMask).sum := by
  have hsum : total (fun e => UInt64.ofNat (bitCount e.actualConsumerMask)) entries =
      UInt64.ofNat (entries.map fun e => bitCount e.actualConsumerMask).sum :=
    tally_ofNat _ entries
  have hle : (entries.map fun e => bitCount e.actualConsumerMask).sum ≤ entries.length * 32 := by
    have hbound := List.sum_le_card_nsmul (entries.map fun e => bitCount e.actualConsumerMask) 32
      (by simp [bitCount_le])
    simpa using hbound
  rw [hsum, UInt64.toNat_ofNat_of_lt']
  unfold kCapacity at h
  simp only [UInt64.size]
  omega

theorem FrameBooks.counters {context : FrameContext} {past : List Past}
    (h : FrameBooks context past s) : CounterLaw past s.entries s.diagnostics := by
  have hcapacity : s.entries.length ≤ kCapacity := by
    have hle := h.capacity
    rw [h.budget] at hle
    exact hle.trans (min_le_right _ _)
  exact {
    recorded := by
      have hall := @toNat_total_indicator s.entries (fun _ => true) hcapacity
      rw [List.countP_true] at hall
      rw [h.books.recorded]
      exact hall
    states := fun state => by rw [h.books.states state, toNat_total_indicator hcapacity]
    mismatch := by rw [h.books.mismatch, toNat_total_indicator hcapacity]
    eligibleEntries := by rw [h.books.eligibleEntries, toNat_total_indicator hcapacity]
    eligibleMask := h.books.eligibleMask
    wouldUseEntries := by rw [h.books.wouldUseEntries, toNat_total_indicator hcapacity]
    wouldUseMask := h.books.wouldUseMask
    actualEntries := by rw [h.books.actualEntries, toNat_total_indicator hcapacity]
    actualBits := by rw [h.books.actualBits, toNat_total_bits hcapacity]
    actualMask := h.books.actualMask
    notes := h.books.notes
    calls := h.calls }

end War3VK.GpuSkin.PackageObserver
