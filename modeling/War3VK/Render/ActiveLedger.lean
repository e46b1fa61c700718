import Mathlib

/-!
# The active ledger of the draw-time cache

A frame's ledger of the entries of a cache that were drawn in it (`War3DrawTimeActiveLedger`,
`src/d3d9/war3/render/war3_drawtime_active_ledger.h`). Records hold keys, and an entry holds a stamp with
the ordinal of its record, so that an entry that is erased and made again under its key does not take the
record of the one before. An entry that is made again is here another entry with the same key.
-/

namespace War3VK.Render

/-- `EntryStamp`. -/
structure EntryStamp where
  frameSerial : UInt64 := 0
  activationOrdinal : UInt64 := 0
  deriving DecidableEq, Repr

/-- `Record`. -/
structure ActiveRecord (κ : Type) where
  key : κ
  frameSerial : UInt64
  activationOrdinal : UInt64
  deriving DecidableEq, Repr

/-- `matches`. -/
def ActiveRecord.matches {κ : Type} (record : ActiveRecord κ) (stamp : EntryStamp) : Bool :=
  record.frameSerial = stamp.frameSerial && record.activationOrdinal = stamp.activationOrdinal &&
    record.activationOrdinal ≠ 0

/-- `War3DrawTimeActiveLedger`. -/
structure ActiveLedger (κ : Type) where
  records : List (ActiveRecord κ) := []
  frameSerial : UInt64 := 0
  nextActivationOrdinal : UInt64
  usable : Bool := true

/-- `std::numeric_limits<uint64_t>::max()`. -/
def maxOrdinal : UInt64 := 0xFFFFFFFFFFFFFFFF

namespace ActiveLedger

variable {κ : Type}

def new (nextActivationOrdinal : UInt64) : ActiveLedger κ where
  nextActivationOrdinal := if nextActivationOrdinal ≠ 0 then nextActivationOrdinal else maxOrdinal

/-- `beginFrame`. -/
def beginFrame (frameSerial : UInt64) (l : ActiveLedger κ) : ActiveLedger κ :=
  if !l.usable || frameSerial = 0 || l.frameSerial = frameSerial then l
  else { l with records := [], frameSerial := frameSerial }

/-- `usableForFrame`. -/
def usableForFrame (frameSerial : UInt64) (l : ActiveLedger κ) : Bool :=
  l.usable && frameSerial ≠ 0 && l.frameSerial = frameSerial

/-- `activate`, with what it returns, the ledger and the stamp. -/
def activate (frameSerial : UInt64) (key : κ) (stamp : EntryStamp) (l : ActiveLedger κ) :
    Bool × ActiveLedger κ × EntryStamp :=
  let l := l.beginFrame frameSerial
  if !l.usableForFrame frameSerial then (false, l, stamp)
  else if stamp.frameSerial = frameSerial ∧ stamp.activationOrdinal ≠ 0 then (true, l, stamp)
  else if l.nextActivationOrdinal = maxOrdinal then
    (false, { l with records := [], usable := false }, stamp)
  else
    let ordinal := l.nextActivationOrdinal
    let record : ActiveRecord κ := ⟨key, frameSerial, ordinal⟩
    (true,
      { l with records := l.records ++ [record], nextActivationOrdinal := ordinal + 1 },
      ⟨frameSerial, ordinal⟩)

/-- `resetSession`. -/
def resetSession (l : ActiveLedger κ) : ActiveLedger κ := { l with records := [], frameSerial := 0 }

end ActiveLedger

/-! ## A ledger and its entries -/

inductive LedgerCall (ι : Type) where
  | beginFrame (frameSerial : UInt64)
  | activate (frameSerial : UInt64) (entry : ι)
  | resetSession
  deriving DecidableEq, Repr

def LedgerCall.serial {ι : Type} : LedgerCall ι → Option UInt64
  | .beginFrame frameSerial => some frameSerial
  | .activate frameSerial _ => some frameSerial
  | .resetSession => none

structure ActiveCache (ι κ : Type) where
  ledger : ActiveLedger κ
  stamps : ι → EntryStamp

namespace ActiveCache

variable {ι κ : Type} [DecidableEq ι]

def step (key : ι → κ) (c : ActiveCache ι κ) : LedgerCall ι → ActiveCache ι κ
  | .beginFrame frameSerial => { c with ledger := c.ledger.beginFrame frameSerial }
  | .activate frameSerial entry =>
    let result := c.ledger.activate frameSerial (key entry) (c.stamps entry)
    ⟨result.2.1, Function.update c.stamps entry result.2.2⟩
  | .resetSession => { c with ledger := c.ledger.resetSession }

def init (first : UInt64) : ActiveCache ι κ := ⟨.new first, fun _ => {}⟩

def run (first : UInt64) (key : ι → κ) (calls : List (LedgerCall ι)) : ActiveCache ι κ :=
  calls.foldl (step key) (init first)

/-- What `activate` returns after a list of calls. -/
def activates (first : UInt64) (key : ι → κ) (calls : List (LedgerCall ι)) (frameSerial : UInt64)
    (entry : ι) : Bool :=
  let c := run first key calls
  (c.ledger.activate frameSerial (key entry) (c.stamps entry)).1

def Ordered (calls : List (LedgerCall ι)) : Prop :=
  (calls.filterMap LedgerCall.serial).Pairwise (· ≤ ·)

end ActiveCache

end War3VK.Render

/-!
## The records of active entries

An ordinal is given out once, so a record and a stamp that match are of one entry, whatever is called
(`Sound`). When the serials do not decrease, a stamp of a frame has its record as long as the frame is
the last one and the session was not reset after the stamp was made (`Held`).
-/

namespace War3VK.Render

namespace ActiveLedger

variable {κ : Type} {l : ActiveLedger κ} {f : UInt64}

theorem beginFrame_cases :
    l.beginFrame f = l ∨ (l.usable = true ∧ f ≠ 0 ∧ l.frameSerial ≠ f ∧
      l.beginFrame f = { l with records := [], frameSerial := f }) := by
  unfold beginFrame
  split
  · exact .inl rfl
  · rename_i h
    simp only [Bool.or_eq_true, Bool.not_eq_true', decide_eq_true_eq, not_or, Bool.not_eq_false] at h
    exact .inr ⟨h.1.1, h.1.2, h.2, rfl⟩

@[simp]
theorem next_beginFrame : (l.beginFrame f).nextActivationOrdinal = l.nextActivationOrdinal := by
  unfold beginFrame
  split <;> rfl

@[simp]
theorem usable_beginFrame : (l.beginFrame f).usable = l.usable := by
  unfold beginFrame
  split <;> rfl

theorem usableForFrame_beginFrame :
    (l.beginFrame f).usableForFrame f = (l.usable && decide (f ≠ 0)) := by
  unfold usableForFrame beginFrame
  cases husable : l.usable <;> by_cases hf : f = 0 <;> by_cases hframe : l.frameSerial = f <;>
    simp [husable, hf, hframe]

theorem activate_cases (l : ActiveLedger κ) (f : UInt64) (key : κ) (stamp : EntryStamp) :
    (¬(l.usable = true ∧ f ≠ 0) ∧ l.activate f key stamp = (false, l.beginFrame f, stamp)) ∨
    (l.usable = true ∧ f ≠ 0 ∧ stamp.frameSerial = f ∧ stamp.activationOrdinal ≠ 0 ∧
      l.activate f key stamp = (true, l.beginFrame f, stamp)) ∨
    (l.usable = true ∧ f ≠ 0 ∧ ¬(stamp.frameSerial = f ∧ stamp.activationOrdinal ≠ 0) ∧
      l.nextActivationOrdinal = maxOrdinal ∧
      l.activate f key stamp = (false, { l.beginFrame f with records := [], usable := false }, stamp)) ∨
    (l.usable = true ∧ f ≠ 0 ∧ ¬(stamp.frameSerial = f ∧ stamp.activationOrdinal ≠ 0) ∧
      l.nextActivationOrdinal ≠ maxOrdinal ∧ (l.beginFrame f).frameSerial = f ∧
      l.activate f key stamp = (true, { l.beginFrame f with
            records := (l.beginFrame f).records ++ [⟨key, f, l.nextActivationOrdinal⟩]
            nextActivationOrdinal := l.nextActivationOrdinal + 1 },
          ⟨f, l.nextActivationOrdinal⟩)) := by
  have husable := usableForFrame_beginFrame (l := l) (f := f)
  by_cases hready : l.usable = true ∧ f ≠ 0
  · have hfor : (l.beginFrame f).usableForFrame f = true := by
      rw [husable, hready.1, decide_eq_true hready.2]
      rfl
    have hframe : (l.beginFrame f).frameSerial = f := by
      unfold usableForFrame at hfor
      exact of_decide_eq_true (Bool.and_eq_true_iff.mp hfor).2
    refine .inr ?_
    unfold activate
    simp only [hfor, next_beginFrame]
    rw [if_neg (by decide)]
    split
    · rename_i hstamp
      exact .inl ⟨hready.1, hready.2, hstamp.1, hstamp.2, rfl⟩
    · rename_i hstamp
      split
      · rename_i hlast
        exact .inr (.inl ⟨hready.1, hready.2, hstamp, hlast, rfl⟩)
      · rename_i hlast
        exact .inr (.inr ⟨hready.1, hready.2, hstamp, hlast, hframe, rfl⟩)
  · have hfor : (l.beginFrame f).usableForFrame f = false := by
      rw [husable, Bool.and_eq_false_iff, decide_eq_false_iff_not, not_not]
      by_cases husable' : l.usable = true
      · exact .inr (not_not.mp fun hf => hready ⟨husable', hf⟩)
      · exact .inl (Bool.not_eq_true _ ▸ husable')
    refine .inl ⟨hready, ?_⟩
    unfold activate
    simp [hfor]

end ActiveLedger

namespace ActiveCache

open ActiveLedger

variable {ι κ : Type} [DecidableEq ι] {key : ι → κ} {c : ActiveCache ι κ} {calls : List (LedgerCall ι)}

/-! ### Ordinals -/

structure Sound (key : ι → κ) (c : ActiveCache ι κ) : Prop where
  next : c.ledger.nextActivationOrdinal ≠ 0
  issued : ∀ e, (c.stamps e).activationOrdinal < c.ledger.nextActivationOrdinal
  stamped : ∀ e, (c.stamps e).frameSerial ≠ 0 → (c.stamps e).activationOrdinal ≠ 0
  distinct : ∀ e e', (c.stamps e).activationOrdinal ≠ 0 →
    (c.stamps e).activationOrdinal = (c.stamps e').activationOrdinal → e = e'
  recorded : ∀ r ∈ c.ledger.records, r.activationOrdinal < c.ledger.nextActivationOrdinal
  sorted : c.ledger.records.Pairwise fun r r' => r.activationOrdinal < r'.activationOrdinal
  keyed : ∀ r ∈ c.ledger.records, ∀ e, (c.stamps e).activationOrdinal = r.activationOrdinal →
    r.activationOrdinal ≠ 0 → r.key = key e

omit [DecidableEq ι] in
theorem Sound.init (first : UInt64) : Sound key (init first) where
  next := by
    unfold ActiveCache.init ActiveLedger.new
    dsimp only
    split
    · assumption
    · decide
  issued e := by
    unfold ActiveCache.init ActiveLedger.new
    dsimp only
    split
    · exact UInt64.pos_iff_ne_zero.mpr ‹_›
    · decide
  stamped e h := absurd rfl h
  distinct e e' h := absurd rfl h
  recorded r hr := by cases hr
  sorted := .nil
  keyed r hr := by cases hr

omit [DecidableEq ι] in
theorem Sound.forget (h : Sound key c) {l : ActiveLedger κ} (hrecords : l.records = [])
    (hnext : l.nextActivationOrdinal = c.ledger.nextActivationOrdinal) :
    Sound key { c with ledger := l } where
  next := hnext ▸ h.next
  issued e := hnext ▸ h.issued e
  stamped := h.stamped
  distinct := h.distinct
  recorded r hr := by
    rw [show (ActiveCache.mk l c.stamps).ledger.records = [] from hrecords] at hr
    cases hr
  sorted := by
    rw [show (ActiveCache.mk l c.stamps).ledger.records = [] from hrecords]
    exact .nil
  keyed r hr := by
    rw [show (ActiveCache.mk l c.stamps).ledger.records = [] from hrecords] at hr
    cases hr

omit [DecidableEq ι] in
theorem Sound.beginFrame (h : Sound key c) (f : UInt64) :
    Sound key { c with ledger := c.ledger.beginFrame f } := by
  obtain hsame | ⟨-, -, -, hopen⟩ := ActiveLedger.beginFrame_cases (l := c.ledger) (f := f)
  · rw [hsame]
    exact h
  · rw [hopen]
    exact h.forget rfl rfl

omit [DecidableEq ι] in
theorem Sound.lt_next (h : c.ledger.nextActivationOrdinal ≠ maxOrdinal) :
    c.ledger.nextActivationOrdinal < c.ledger.nextActivationOrdinal + 1 := by
  have hlt := c.ledger.nextActivationOrdinal.toNat_lt
  have hne : c.ledger.nextActivationOrdinal.toNat ≠ 2 ^ 64 - 1 := fun heq =>
    h (UInt64.toNat_inj.mp heq)
  rw [UInt64.lt_iff_toNat_lt, UInt64.toNat_add, UInt64.toNat_one, Nat.mod_eq_of_lt (by omega)]
  exact Nat.lt_succ_self _

def pushed (key : ι → κ) (c : ActiveCache ι κ) (e : ι) (f : UInt64) : ActiveCache ι κ :=
  ⟨{ c.ledger with
      records := c.ledger.records ++ [⟨key e, f, c.ledger.nextActivationOrdinal⟩]
      nextActivationOrdinal := c.ledger.nextActivationOrdinal + 1 },
    Function.update c.stamps e ⟨f, c.ledger.nextActivationOrdinal⟩⟩

@[simp]
theorem stamps_pushed_self (e : ι) (f : UInt64) :
    (pushed key c e f).stamps e = ⟨f, c.ledger.nextActivationOrdinal⟩ := Function.update_self ..

variable {e : ι} {call : LedgerCall ι} {f : UInt64}

@[simp]
theorem stamps_pushed_of_ne {e' : ι} (he : e' ≠ e) (f : UInt64) :
    (pushed key c e f).stamps e' = c.stamps e' := Function.update_of_ne he _ _

theorem Sound.push (h : Sound key c) (e : ι) (f : UInt64)
    (hnext : c.ledger.nextActivationOrdinal ≠ maxOrdinal) : Sound key (pushed key c e f) := by
  have hlt := Sound.lt_next hnext
  refine
    { next := UInt64.pos_iff_ne_zero.mp (UInt64.lt_of_le_of_lt UInt64.zero_le hlt)
      issued := fun e' => ?_
      stamped := fun e' hframe => ?_
      distinct := fun e' e'' hne heq => ?_
      recorded := fun r hr => ?_
      sorted := ?_
      keyed := fun r hr e' heq hne => ?_ }
  · by_cases he : e' = e
    · rw [he, stamps_pushed_self]
      exact hlt
    · rw [stamps_pushed_of_ne he]
      exact UInt64.lt_trans (h.issued e') hlt
  · by_cases he : e' = e
    · rw [he, stamps_pushed_self]
      exact h.next
    · rw [stamps_pushed_of_ne he] at hframe ⊢
      exact h.stamped e' hframe
  · by_cases he : e' = e
    · by_cases he' : e'' = e
      · rw [he, he']
      · rw [he, stamps_pushed_self, stamps_pushed_of_ne he'] at heq
        exact absurd heq.symm (UInt64.ne_of_lt (h.issued e''))
    · by_cases he' : e'' = e
      · rw [he', stamps_pushed_self, stamps_pushed_of_ne he] at heq
        exact absurd heq (UInt64.ne_of_lt (h.issued e'))
      · rw [stamps_pushed_of_ne he] at hne heq
        rw [stamps_pushed_of_ne he'] at heq
        exact h.distinct e' e'' hne heq
  · obtain hr | hr := List.mem_append.mp hr
    · exact UInt64.lt_trans (h.recorded r hr) hlt
    · rw [List.mem_singleton.mp hr]
      exact hlt
  · refine List.pairwise_append.mpr ⟨h.sorted, List.pairwise_singleton _ _, fun r hr r' hr' => ?_⟩
    rw [List.mem_singleton.mp hr']
    exact h.recorded r hr
  · obtain hr | hr := List.mem_append.mp hr
    · by_cases he : e' = e
      · rw [he, stamps_pushed_self] at heq
        exact absurd heq.symm (UInt64.ne_of_lt (h.recorded r hr))
      · rw [stamps_pushed_of_ne he] at heq
        exact h.keyed r hr e' heq hne
    · rw [List.mem_singleton.mp hr] at heq ⊢
      by_cases he : e' = e
      · rw [he]
      · rw [stamps_pushed_of_ne he] at heq
        exact absurd heq (UInt64.ne_of_lt (h.issued e'))

theorem Sound.step (h : Sound key c) (call : LedgerCall ι) : Sound key (step key c call) := by
  cases call with
  | beginFrame f => exact h.beginFrame f
  | resetSession => exact h.forget rfl rfl
  | activate f e =>
    have hopen := h.beginFrame f
    have hupdate : Function.update c.stamps e (c.stamps e) = c.stamps := Function.update_eq_self ..
    unfold ActiveCache.step
    dsimp only
    obtain ⟨-, hresult⟩ | ⟨-, -, -, -, hresult⟩ | ⟨-, -, -, -, hresult⟩ | ⟨-, -, -, hnext, -, hresult⟩ :=
      activate_cases c.ledger f (key e) (c.stamps e)
    · rw [hresult, hupdate]
      exact hopen
    · rw [hresult, hupdate]
      exact hopen
    · rw [hresult, hupdate]
      exact hopen.forget rfl rfl
    · rw [hresult]
      rw [← next_beginFrame (l := c.ledger) (f := f)] at hnext ⊢
      exact hopen.push e f hnext

theorem Sound.run (first : UInt64) (key : ι → κ) (calls : List (LedgerCall ι)) :
    Sound key (run first key calls) := by
  unfold ActiveCache.run
  generalize hc : (ActiveCache.init first : ActiveCache ι κ) = c
  have h : Sound key c := hc ▸ .init first
  clear hc
  induction calls generalizing c with
  | nil => exact h
  | cons call calls ih => exact ih _ (h.step call)

theorem run_append_singleton (first : UInt64) (key : ι → κ) (calls : List (LedgerCall ι))
    (call : LedgerCall ι) :
    ActiveCache.run first key (calls ++ [call]) =
      ActiveCache.step key (ActiveCache.run first key calls) call := by
  unfold ActiveCache.run
  rw [List.foldl_append]
  rfl

/-! ### Records of the frame -/

omit [DecidableEq ι] in
theorem Ordered.le (h : Ordered (calls ++ [call])) (hf : call.serial = some f) :
    ∀ call' ∈ calls ++ [call], ∀ g, call'.serial = some g → g ≤ f := by
  intro call' hmem g hg
  unfold Ordered at h
  rw [List.filterMap_append, List.pairwise_append] at h
  have hlast : f ∈ [call].filterMap LedgerCall.serial := List.mem_filterMap.mpr ⟨call, by simp, hf⟩
  obtain hmem | hmem := List.mem_append.mp hmem
  · exact h.2.2 g (List.mem_filterMap.mpr ⟨call', hmem, hg⟩) f hlast
  · rw [List.mem_singleton.mp hmem, hf] at hg
    exact UInt64.le_of_eq (Option.some.inj hg).symm

def Stale (calls : List (LedgerCall ι)) (f : UInt64) (e : ι) : Prop :=
  List.Sublist [.activate f e, .resetSession] calls

def Past (calls : List (LedgerCall ι)) (f : UInt64) : Prop :=
  ∃ call ∈ calls, ∃ g, call.serial = some g ∧ f < g

structure Held (key : ι → κ) (calls : List (LedgerCall ι)) (c : ActiveCache ι κ) : Prop where
  /-- An entry has the stamp of a frame in which it was active. -/
  active : ∀ e, (c.stamps e).frameSerial ≠ 0 → .activate (c.stamps e).frameSerial e ∈ calls
  /-- It has a record, unless the frame is over or the session was reset. -/
  held : c.ledger.usable = true → ∀ e, (c.stamps e).frameSerial ≠ 0 →
    Stale calls (c.stamps e).frameSerial e ∨ Past calls (c.stamps e).frameSerial ∨
      ((c.stamps e).frameSerial = c.ledger.frameSerial ∧
        ⟨key e, (c.stamps e).frameSerial, (c.stamps e).activationOrdinal⟩ ∈ c.ledger.records)

omit [DecidableEq ι] in
theorem Held.append (h : Held key calls c) (call : LedgerCall ι) : Held key (calls ++ [call]) c where
  active e hframe := List.mem_append_left _ (h.active e hframe)
  held husable e hframe := by
    obtain hstale | ⟨call', hmem, hpast⟩ | hheld := h.held husable e hframe
    · exact .inl (hstale.trans (List.sublist_append_left ..))
    · exact .inr (.inl ⟨call', List.mem_append_left _ hmem, hpast⟩)
    · exact .inr (.inr hheld)

omit [DecidableEq ι] in
theorem Held.beginFrame (h : Held key calls c) (hlast : ∃ call ∈ calls, call.serial = some f)
    (hle : ∀ call ∈ calls, ∀ g, call.serial = some g → g ≤ f) :
    Held key calls { c with ledger := c.ledger.beginFrame f } := by
  obtain hsame | ⟨husable, -, hne, hopen⟩ := beginFrame_cases (l := c.ledger) (f := f)
  · rw [hsame]
    exact h
  rw [hopen]
  refine ⟨h.active, fun _ e hframe => ?_⟩
  obtain hstale | hpast | ⟨heq, -⟩ := h.held husable e hframe
  · exact .inl hstale
  · exact .inr (.inl hpast)
  · -- The frame of the stamp was the last one, and now it is over.
    obtain ⟨call, hmem, hserial⟩ := hlast
    have hnot : (c.stamps e).frameSerial ≠ f := heq ▸ hne
    have hactive := hle _ (h.active e hframe) _ rfl
    exact .inr (.inl ⟨call, hmem, f, hserial, UInt64.lt_of_le_of_ne hactive hnot⟩)

omit [DecidableEq ι] in
theorem Held.resetSession (h : Held key calls c) :
    Held key (calls ++ [.resetSession]) { c with ledger := c.ledger.resetSession } := by
  refine ⟨(h.append _).active, fun husable e hframe => ?_⟩
  obtain hstale | hpast | - := (h.append .resetSession).held husable e hframe
  · exact .inl hstale
  · exact .inr (.inl hpast)
  · have hactive := List.singleton_sublist.mpr (h.active e hframe)
    exact .inl (hactive.append (List.Sublist.refl [LedgerCall.resetSession]))

omit [DecidableEq ι] in
theorem Held.giveUp (h : Held key calls c) {l : ActiveLedger κ} (husable : l.usable = false) :
    Held key calls { c with ledger := l } :=
  ⟨h.active, fun hnot => absurd (husable.symm.trans hnot) Bool.false_ne_true⟩

theorem Held.push (h : Held key calls c) (hcall : .activate f e ∈ calls)
    (hframe : c.ledger.frameSerial = f) : Held key calls (pushed key c e f) where
  active e' hne := by
    by_cases he : e' = e
    · rw [he, stamps_pushed_self]
      exact hcall
    · rw [stamps_pushed_of_ne he] at hne ⊢
      exact h.active e' hne
  held husable e' hne := by
    by_cases he : e' = e
    · rw [he, stamps_pushed_self]
      exact .inr (.inr ⟨hframe.symm, List.mem_append_right _ (List.mem_singleton.mpr rfl)⟩)
    · rw [stamps_pushed_of_ne he] at hne ⊢
      obtain hstale | hpast | ⟨heq, hmem⟩ := h.held husable e' hne
      · exact .inl hstale
      · exact .inr (.inl hpast)
      · exact .inr (.inr ⟨heq, List.mem_append_left _ hmem⟩)

theorem Held.run (first : UInt64) (key : ι → κ) (calls : List (LedgerCall ι))
    (hordered : Ordered calls) : Held key calls (ActiveCache.run first key calls) := by
  induction calls using List.reverseRecOn with
  | nil => exact ⟨fun e hframe => absurd rfl hframe, fun _ e hframe => absurd rfl hframe⟩
  | append_singleton calls call ih =>
    have hbefore : Ordered calls := by
      unfold Ordered at hordered
      rw [List.filterMap_append, List.pairwise_append] at hordered
      exact hordered.1
    have h := (ih hbefore).append call
    have hlast : call ∈ calls ++ [call] := List.mem_append_right _ (List.mem_singleton.mpr rfl)
    rw [run_append_singleton]
    cases call with
    | beginFrame f => exact h.beginFrame ⟨_, hlast, rfl⟩ (hordered.le rfl)
    | resetSession => exact (ih hbefore).resetSession
    | activate f e =>
      have hopen := h.beginFrame ⟨_, hlast, rfl⟩ (hordered.le rfl)
      generalize ActiveCache.run first key calls = c at hopen
      have hupdate : Function.update c.stamps e (c.stamps e) = c.stamps := Function.update_eq_self ..
      unfold ActiveCache.step
      dsimp only
      obtain ⟨-, hresult⟩ | ⟨-, -, -, -, hresult⟩ | ⟨-, -, -, -, hresult⟩ | ⟨-, -, -, -, hframe, hresult⟩ :=
        activate_cases c.ledger f (key e) (c.stamps e)
      · rw [hresult, hupdate]
        exact hopen
      · rw [hresult, hupdate]
        exact hopen
      · rw [hresult, hupdate]
        exact hopen.giveUp rfl
      · rw [hresult, ← next_beginFrame (l := c.ledger) (f := f)]
        exact hopen.push hlast hframe

/-! ### Exhaustion -/

theorem usable_step (husable : c.ledger.usable = false) (call : LedgerCall ι) :
    (step key c call).ledger.usable = false := by
  cases call with
  | beginFrame f => exact usable_beginFrame.trans husable
  | resetSession => exact husable
  | activate f e =>
    obtain ⟨-, hresult⟩ | ⟨h, -⟩ | ⟨h, -⟩ | ⟨h, -⟩ :=
      activate_cases c.ledger f (key e) (c.stamps e)
    · unfold ActiveCache.step
      dsimp only
      rw [hresult]
      exact usable_beginFrame.trans husable
    all_goals exact absurd (husable.symm.trans h) Bool.false_ne_true

theorem usable_foldl (husable : c.ledger.usable = false) (calls : List (LedgerCall ι)) :
    (calls.foldl (step key) c).ledger.usable = false := by
  induction calls generalizing c with
  | nil => exact husable
  | cons call calls ih => exact ih (usable_step husable call)

theorem usable_activate (hf : f ≠ 0) (e : ι) :
    (step key c (.activate f e)).ledger.usable = (c.ledger.activate f (key e) (c.stamps e)).1 := by
  unfold ActiveCache.step
  dsimp only
  obtain ⟨hnot, hresult⟩ | ⟨husable, -, -, -, hresult⟩ | ⟨-, -, -, -, hresult⟩ |
      ⟨husable, -, -, -, -, hresult⟩ :=
    activate_cases c.ledger f (key e) (c.stamps e)
  · rw [hresult, usable_beginFrame]
    exact Bool.not_eq_true _ ▸ fun husable => hnot ⟨husable, hf⟩
  · rw [hresult, usable_beginFrame, husable]
  · rw [hresult]
  · rw [hresult, usable_beginFrame, husable]

/-! ### The stay of a record -/

theorem stamps_step (hframe : (c.stamps e).frameSerial = f)
    (hne : (c.stamps e).activationOrdinal ≠ 0) (hserial : ∀ g, call.serial = some g → g = f) :
    (step key c call).stamps e = c.stamps e := by
  cases call with
  | beginFrame g => rfl
  | resetSession => rfl
  | activate g e' =>
    obtain rfl : g = f := hserial g rfl
    unfold ActiveCache.step
    dsimp only
    by_cases he : e = e'
    · rw [← he, Function.update_self]
      obtain ⟨-, hresult⟩ | ⟨-, -, -, -, hresult⟩ | ⟨-, -, -, -, hresult⟩ | ⟨-, -, hnot, -⟩ :=
        activate_cases c.ledger g (key e) (c.stamps e)
      · rw [hresult]
      · rw [hresult]
      · rw [hresult]
      · exact absurd ⟨hframe, hne⟩ hnot
    · exact Function.update_of_ne he _ _

theorem stamps_activate (h : (c.ledger.activate f (key e) (c.stamps e)).1 = true) :
    f ≠ 0 ∧ ((step key c (.activate f e)).stamps e).frameSerial = f := by
  unfold ActiveCache.step
  dsimp only
  rw [Function.update_self]
  obtain ⟨-, hresult⟩ | ⟨-, hf, hframe, -, hresult⟩ | ⟨-, -, -, -, hresult⟩ | ⟨-, hf, -, -, -, hresult⟩ :=
    activate_cases c.ledger f (key e) (c.stamps e)
  · rw [hresult] at h
    exact absurd h Bool.false_ne_true
  · rw [hresult]
    exact ⟨hf, hframe⟩
  · rw [hresult] at h
    exact absurd h Bool.false_ne_true
  · rw [hresult]
    exact ⟨hf, rfl⟩

variable {rest : List (LedgerCall ι)}

theorem run_activate {first : UInt64} (h : activates first key calls f e = true)
    (hserial : ∀ call ∈ rest, ∀ g, call.serial = some g → g = f)
    (hrest : ∀ a g e' b, rest = a ++ .activate g e' :: b →
      activates first key (calls ++ .activate f e :: a) g e' = true) :
    (run first key (calls ++ .activate f e :: rest)).stamps e =
        (run first key (calls ++ [.activate f e])).stamps e ∧
      (run first key (calls ++ .activate f e :: rest)).ledger.usable = true := by
  obtain ⟨hf, hframe⟩ := stamps_activate h
  rw [← run_append_singleton] at hframe
  induction rest using List.reverseRecOn with
  | nil =>
    refine ⟨rfl, ?_⟩
    rw [run_append_singleton, usable_activate hf]
    exact h
  | append_singleton rest call ih =>
    obtain ⟨hstamp, husable⟩ := ih (fun call' hmem => hserial call' (List.mem_append_left _ hmem))
      fun a g e' b hsplit => hrest a g e' (b ++ [call]) (by rw [hsplit]; simp)
    have hcall := hserial call (List.mem_append_right _ (List.mem_singleton.mpr rfl))
    have hsplit : calls ++ .activate f e :: (rest ++ [call]) =
        (calls ++ .activate f e :: rest) ++ [call] := by simp
    have hsound := Sound.run first key (calls ++ .activate f e :: rest)
    rw [hsplit, run_append_singleton]
    rw [← hstamp] at hframe ⊢
    have hne := hsound.stamped e (by rw [hframe]; exact hf)
    refine ⟨stamps_step hframe hne hcall, ?_⟩
    cases call with
    | beginFrame g => exact usable_beginFrame.trans husable
    | resetSession => exact husable
    | activate g e' =>
      obtain rfl : g = f := hcall g rfl
      rw [usable_activate hf]
      exact hrest rest g e' [] rfl

omit [DecidableEq ι] in
theorem Sound.filter_matches (h : Sound key c) {r : ActiveRecord κ} (hr : r ∈ c.ledger.records)
    {stamp : EntryStamp} (hmatch : r.matches stamp = true) :
    c.ledger.records.filter (·.matches stamp) = [r] := by
  have hordinal {r' : ActiveRecord κ} (hr' : r'.matches stamp = true) :
      r'.activationOrdinal = stamp.activationOrdinal := by
    unfold ActiveRecord.matches at hr'
    simp only [Bool.and_eq_true, decide_eq_true_eq] at hr'
    exact hr'.1.2
  have hsorted := h.sorted.filter (·.matches stamp)
  have hmem : r ∈ c.ledger.records.filter (·.matches stamp) := List.mem_filter.mpr ⟨hr, hmatch⟩
  have hall : ∀ r' ∈ c.ledger.records.filter (·.matches stamp),
      r'.activationOrdinal = stamp.activationOrdinal := fun r' hr' =>
    hordinal (List.mem_filter.mp hr').2
  generalize c.ledger.records.filter (·.matches stamp) = found at hsorted hmem hall
  obtain _ | ⟨r₁, _ | ⟨r₂, rest⟩⟩ := found
  · cases hmem
  · rw [List.mem_singleton.mp hmem]
  · -- Two of them would have the same ordinal.
    have hlt := List.rel_of_pairwise_cons hsorted (List.mem_cons_self ..)
    rw [hall r₁ (List.mem_cons_self ..), hall r₂ (by simp)] at hlt
    exact absurd hlt (UInt64.lt_irrefl _)

omit [DecidableEq ι] in
theorem Ordered.extend (h : Ordered (calls ++ [call])) (hf : call.serial = some f)
    (hserial : ∀ call' ∈ rest, ∀ g, call'.serial = some g → g = f) :
    Ordered (calls ++ call :: rest) := by
  have hrest : ∀ g ∈ rest.filterMap LedgerCall.serial, g = f := fun g hg => by
    obtain ⟨call', hmem, hg⟩ := List.mem_filterMap.mp hg
    exact hserial call' hmem g hg
  have hle := h.le hf
  unfold Ordered at h ⊢
  rw [List.append_cons, List.filterMap_append]
  refine List.pairwise_append.mpr ⟨h, ?_, fun g hg g' hg' => ?_⟩
  · refine List.pairwise_of_forall_mem_list fun g hg g' hg' => ?_
    rw [hrest g hg, hrest g' hg']
    exact UInt64.le_refl _
  · obtain ⟨call', hmem, hg⟩ := List.mem_filterMap.mp hg
    rw [hrest g' hg']
    exact hle call' hmem g hg

omit [DecidableEq ι] in
theorem Stale.of_append (h : Stale (calls ++ rest) f e) (hrest : .resetSession ∉ rest) :
    Stale calls f e := by
  obtain ⟨l₁, l₂, heq, hcalls, hlast⟩ := List.sublist_append_iff.mp h
  obtain rfl | hne := eq_or_ne l₂ []
  · rw [List.append_nil] at heq
    unfold Stale
    rw [heq]
    exact hcalls
  · have hmem : LedgerCall.resetSession ∈ l₂ := by
      have hget := congrArg List.getLast? heq
      rw [List.getLast?_append_of_ne_nil _ hne] at hget
      exact List.mem_of_getLast? hget.symm
    exact absurd (hlast.subset hmem) hrest

/-- An activation that succeeds has one record that matches, as long as its frame lasts, unless the
entry was active in the frame before a reset. No record matches the stamps of two entries. Once an
activation in a frame has failed, none succeeds. -/
theorem activate_recorded (first : UInt64) (key : ι → κ) :
    (∀ (calls : List (LedgerCall ι)) (f : UInt64) (e : ι),
      Ordered (calls ++ [.activate f e]) → ¬Stale calls f e → activates first key calls f e = true →
      ∃ r : ActiveRecord κ, r.key = key e ∧
        ∀ rest, (∀ call ∈ rest, call ≠ .resetSession ∧ ∀ g, call.serial = some g → g = f) →
          (∀ a g e' b, rest = a ++ .activate g e' :: b →
            activates first key (calls ++ .activate f e :: a) g e' = true) →
          let c := run first key (calls ++ .activate f e :: rest)
          c.ledger.records.filter (·.matches (c.stamps e)) = [r]) ∧
    (∀ calls : List (LedgerCall ι), let c := run first key calls
      ∀ r ∈ c.ledger.records, ∀ e, r.matches (c.stamps e) = true →
        r.key = key e ∧ ∀ e', r.matches (c.stamps e') = true → e' = e) ∧
    (∀ (calls rest : List (LedgerCall ι)) (f f' : UInt64) (e e' : ι), f ≠ 0 →
      activates first key calls f e = false →
      activates first key (calls ++ .activate f e :: rest) f' e' = false) := by
  refine ⟨?_, ?_, ?_⟩
  · intro calls f e hordered hfresh h
    obtain ⟨hf, hframe⟩ := stamps_activate h
    rw [← run_append_singleton] at hframe
    let stamp := (run first key (calls ++ [.activate f e])).stamps e
    refine ⟨⟨key e, f, stamp.activationOrdinal⟩, rfl, fun rest hrest hgoes => ?_⟩
    have hserial : ∀ call ∈ rest, ∀ g, call.serial = some g → g = f := fun call hmem =>
      (hrest call hmem).2
    obtain ⟨hstamp, husable⟩ := run_activate h hserial hgoes
    have hsound := Sound.run first key (calls ++ .activate f e :: rest)
    have hall := hordered.extend rfl hserial
    have hheld := (Held.run first key _ hall).held husable e
    rw [hstamp, hframe] at hheld
    dsimp only
    rw [hstamp]
    have hne : stamp.activationOrdinal ≠ 0 := by
      have hstamped := hsound.stamped e
      rw [hstamp, hframe] at hstamped
      exact hstamped hf
    obtain hstale | ⟨call, hmem, g, hg, hlt⟩ | ⟨-, hmem⟩ := hheld hf
    · -- There is no reset from the activation on.
      refine absurd (hstale.of_append fun hmem => ?_) hfresh
      obtain hreset | hmem := List.mem_cons.mp hmem
      · cases hreset
      · exact (hrest _ hmem).1 rfl
    · -- There is no later serial.
      have hle : g ≤ f := by
        obtain hmem | hmem := List.mem_append.mp hmem
        · exact hordered.le rfl call (List.mem_append_left _ hmem) g hg
        · obtain rfl | hmem := List.mem_cons.mp hmem
          · exact UInt64.le_of_eq (Option.some.inj hg).symm
          · exact UInt64.le_of_eq (hserial call hmem g hg)
      exact absurd (UInt64.lt_of_lt_of_le hlt hle) (UInt64.lt_irrefl _)
    · refine hsound.filter_matches hmem ?_
      unfold ActiveRecord.matches
      simp only [Bool.and_eq_true, decide_eq_true_eq]
      exact ⟨⟨hframe.symm, trivial⟩, hne⟩
  · intro calls c r hr e hmatch
    have hsound := Sound.run first key calls
    have hordinal {e' : ι} (h' : r.matches (c.stamps e') = true) :
        r.activationOrdinal = (c.stamps e').activationOrdinal ∧ r.activationOrdinal ≠ 0 := by
      unfold ActiveRecord.matches at h'
      simp only [Bool.and_eq_true, decide_eq_true_eq] at h'
      exact ⟨h'.1.2, h'.2⟩
    obtain ⟨heq, hne⟩ := hordinal hmatch
    refine ⟨hsound.keyed r hr e heq.symm hne, fun e' hmatch' => ?_⟩
    have heq' := (hordinal hmatch').1
    exact hsound.distinct e' e (heq' ▸ hne) (heq'.symm.trans heq)
  · intro calls rest f f' e e' hf h
    have husable : (run first key (calls ++ .activate f e :: rest)).ledger.usable = false := by
      rw [List.append_cons]
      unfold ActiveCache.run
      rw [List.foldl_append]
      refine usable_foldl ?_ rest
      have hstep : (step key (run first key calls) (.activate f e)).ledger.usable = _ :=
        usable_activate hf e
      rw [← run_append_singleton] at hstep
      exact hstep.trans h
    unfold activates
    dsimp only
    obtain ⟨-, hresult⟩ | ⟨hnot, -⟩ | ⟨hnot, -⟩ | ⟨hnot, -⟩ :=
      activate_cases (run first key (calls ++ .activate f e :: rest)).ledger f' (key e')
        ((run first key (calls ++ .activate f e :: rest)).stamps e')
    · rw [hresult]
    all_goals exact absurd (husable.symm.trans hnot) Bool.false_ne_true

/-- Two entries are active in one frame, and each has its record. With the last ordinal given out, no
entry is active any more. -/
theorem activate_recorded_sample :
    (∃ r : ActiveRecord ℕ, r.key = 7 ∧
      let c := run 1 (fun _ : Fin 2 => 7) [.activate 5 0, .activate 5 1]
      c.ledger.records.filter (·.matches (c.stamps 0)) = [r]) ∧
    (∀ e' : Fin 2, ActiveRecord.matches ⟨7, 5, 1⟩
      ((run 1 (fun _ : Fin 2 => 7) [.activate 5 0, .activate 5 1]).stamps e') = true → e' = 0) ∧
    activates maxOrdinal (fun _ : Fin 2 => 7) [.activate 5 0, .beginFrame 6] 6 1 = false := by
  have hall := activate_recorded 1 fun _ : Fin 2 => 7
  have hfresh : ¬Stale [] 5 (0 : Fin 2) := fun hstale => by cases hstale
  obtain ⟨r, hkey, hstays⟩ := hall.1 [] 5 0 (List.pairwise_singleton _ _) hfresh (by decide)
  refine ⟨⟨r, hkey, hstays [.activate 5 1] (by simp [LedgerCall.serial]) fun a g e' b hsplit => ?_⟩,
    (hall.2.1 [.activate 5 0, .activate 5 1] ⟨7, 5, 1⟩ (by decide) 0 (by decide)).2,
    (activate_recorded maxOrdinal fun _ : Fin 2 => 7).2.2 [] [.beginFrame 6] 5 6 0 1 (by decide)
      (by decide)⟩
  obtain ⟨rfl, hcall, -⟩ : a = [] ∧ LedgerCall.activate 5 1 = .activate g e' ∧ b = [] := by
    cases a <;> simp_all
  cases hcall
  decide

/-- An entry that was active in the frame before a reset is active after it without a record, and when
the ordinals are exhausted, the records of the frame are lost. -/
theorem activate_recorded_not_after_reset :
    (activates 1 id [.activate 5 (), .resetSession] 5 () = true ∧
      (run 1 id [.activate 5 (), .resetSession, .activate 5 ()]).ledger.records = []) ∧
    activates (maxOrdinal - 1) id [] 5 (0 : Fin 2) = true ∧
      (run (maxOrdinal - 1) id [.activate 5 (0 : Fin 2), .activate 5 1]).ledger.records = [] := by
  decide

end ActiveCache

end War3VK.Render
