import War3VK.RenderHost.SlotLedger

/-!
# The life of a lease

Each slot has an `age`, four times its generation plus the stage of its lease, which no call decreases
(`age_step`). Every accepted call about a key happens at one age of its slot and moves it on (`Ticks`),
so no two accepted calls of a kind are about one key (`nodup_of_ticks`), and what ends a lease ends it
for good (`not_accepts_of_ends`).
-/

namespace War3VK.RenderHost.Slots

open Lib

/-! ## The age of a slot -/

def SlotState.stage : SlotState → ℕ
  | .writing => 1
  | .published => 2
  | .reading => 3
  | .free | .quarantined | .retired => 4

/-- The age of a slot: it grows with the generation, and within one with the stage of the lease. -/
def age (slot : Fin slotCount) (w : World) : ℕ :=
  4 * (w.ledger.records slot).generation.toNat + (w.ledger.records slot).state.stage

variable {slot : Fin slotCount} {state : SlotState}

theorem age_setState {w : World} (h : (w.ledger.records slot).state.stage ≤ state.stage)
    (slot' : Fin slotCount) (permits : ℕ → ReadPermit) :
    age slot' w ≤ age slot' ⟨w.ledger.setState slot state, permits⟩ := by
  unfold age SlotLedger.setState
  by_cases hs : slot' = slot
  · subst hs
    rw [setRecord_self]
    exact Nat.add_le_add_left h _
  · rw [setRecord_of_ne _ _ hs]

theorem age_step (slot : Fin slotCount) (w : World) (call : Call) :
    age slot w ≤ age slot (step call w).2 := by
  have hout := outcome_step call w
  generalize step call w = r at hout ⊢
  cases hout with
  | refused _ e he => exact le_refl _
  | permits _ hcall after hafter => exact le_refl _
  | epoch _ hcall map device frame phase hb ha => exact le_refl _
  | reserved frame bytes slot' cursor key hphase hfree hslot hgen =>
    unfold age
    by_cases hs : slot = slot'
    · subst hs
      simp only [setRecord_self, hgen, hfree, SlotState.stage]
      omega
    · simp only [setRecord_of_ne _ _ hs, le_refl]
  | published key slot' hphase hkey => exact age_setState (by rw [hkey.stage]; decide) slot _
  | cancelled key slot' hphase hkey => exact age_setState (by rw [hkey.stage]; decide) slot _
  | began key i slot' hphase hkey hpermit => exact age_setState (by rw [hkey.stage]; decide) slot _
  | finished i slot' hpermit hkey =>
    exact age_setState (by rw [hkey.stage]; split_ifs <;> decide) slot _
  | retired =>
    unfold age
    simp only [retire]
    split_ifs with hr
    · cases hst : (w.ledger.records slot).state <;> simp [SlotState.stage]
    · exact le_refl _

def Consistent (w : World) : Prop :=
  ∀ slot, (w.ledger.records slot).key.generation = (w.ledger.records slot).generation

theorem consistent_step {w : World} (h : Consistent w) (call : Call) :
    Consistent (step call w).2 := by
  have hset : ∀ slot state slot', ((w.ledger.setState slot state).records slot').key.generation =
        ((w.ledger.setState slot state).records slot').generation := by
    intro slot state slot'
    rw [SlotLedger.setState]
    by_cases hs : slot' = slot
    · subst hs
      rw [setRecord_self]
      exact h slot'
    · rw [setRecord_of_ne _ _ hs]
      exact h slot'
  intro slot
  have hout := outcome_step call w
  generalize step call w = r at hout ⊢
  cases hout with
  | refused _ e he => exact h slot
  | permits _ hcall after hafter => exact h slot
  | epoch _ hcall map device frame phase hb ha => exact h slot
  | reserved frame bytes slot' cursor key hphase hfree hslot hgen =>
    by_cases hs : slot = slot'
    · subst hs
      simp only [setRecord_self]
    · simp only [setRecord_of_ne _ _ hs]
      exact h slot
  | published key slot' hphase hkey => exact hset slot' _ slot
  | cancelled key slot' hphase hkey => exact hset slot' _ slot
  | began key i slot' hphase hkey hpermit => exact hset slot' _ slot
  | finished i slot' hpermit hkey => exact hset slot' _ slot
  | retired =>
    simp only [retire]
    split_ifs
    · exact h slot
    · exact h slot

/-! ## Accepted calls -/

def reservedKey (r : Event) : Option Key :=
  match r.call, r.output with
  | .reserve _ _, (.none, key) => key
  | _, _ => none

def publishedKey (r : Event) : Option Key :=
  match r.call, r.output with
  | .publish key, (.none, _) => some key
  | _, _ => none

def cancelledKey (r : Event) : Option Key :=
  match r.call, r.output with
  | .cancelWrite key, (.none, _) => some key
  | _, _ => none

def readKey (r : Event) : Option Key :=
  match r.call, r.output with
  | .beginRead key _, (.none, _) => some key
  | _, _ => none

def finishedKey (r : Event) : Option Key :=
  match r.call, r.output with
  | .finishRead i, (.none, _) => some (r.before.permits i).key
  | _, _ => none

/-- Whether a call ends the lease of a key: it leases the slot again, cancels the key, has read it
to completion or retires the ledger. -/
def Ends (key : Key) (r : Event) : Prop :=
  (∃ key', reservedKey r = some key' ∧ key'.slot = key.slot) ∨ cancelledKey r = some key ∨
    finishedKey r = some key ∨ r.call = .retire

/-- Whether a call is an accepted `publish`, `cancelWrite` or `beginRead` of a key. -/
def Accepts (key : Key) (r : Event) : Prop :=
  publishedKey r = some key ∨ cancelledKey r = some key ∨ readKey r = some key

/-- A call moves a key's slot from one stage of its generation to another. -/
structure Ticks (r : Event) (key : Key) (a b : ℕ) : Prop where
  slot : key.slot.toNat < slotCount
  before : age ⟨key.slot.toNat, slot⟩ r.before = 4 * key.generation.toNat + a
  after : age ⟨key.slot.toNat, slot⟩ (step r.call r.before).2 = 4 * key.generation.toNat + b

variable {key : Key}

theorem ticks_setState {w : World} {state' : SlotState} {call : Call} {o : Error × Option Key}
    (h : Consistent w) (hkey : Current w key slot state)
    (hstep : (step call w).2.ledger = w.ledger.setState slot state') :
    Ticks ⟨w, call, o⟩ key state.stage state'.stage := by
  have hslot : slot = ⟨key.slot.toNat, hkey.names ▸ slot.isLt⟩ := Fin.ext hkey.names.symm
  have hgen : (w.ledger.records slot).generation = key.generation := by
    rw [← h slot, hkey.lease]
  refine ⟨hkey.names ▸ slot.isLt, ?_, ?_⟩
  · rw [← hslot, age, hgen, hkey.stage]
  · rw [← hslot, age, hstep, SlotLedger.setState, setRecord_self, hgen]

/-- What an accepted call does to the slot of its key, and the phase in which it can happen. -/
structure Accounts (r : Event) : Prop where
  reserved : ∀ key, reservedKey r = some key → Ticks r key 0 1 ∧ r.before.ledger.phase = .active
  published : ∀ key, publishedKey r = some key → Ticks r key 1 2 ∧ r.before.ledger.phase = .active
  cancelled : ∀ key, cancelledKey r = some key → Ticks r key 1 4 ∧ r.before.ledger.phase = .active
  read : ∀ key, readKey r = some key → Ticks r key 2 3 ∧ r.before.ledger.phase = .active
  finished : ∀ key, finishedKey r = some key → Ticks r key 3 4

variable {r : Event}

theorem accounts_of_not_lease (h : r.output.1 ≠ .none ∨ r.call.isLease = false) : Accounts r := by
  obtain ⟨w, call, e, o⟩ := r
  constructor <;> intro key hk <;> cases call <;>
    simp [reservedKey, publishedKey, cancelledKey, readKey, finishedKey] at hk <;>
    simp [Call.isLease] at h <;> grind

theorem accounts_record {w : World} (h : Consistent w) (call : Call) :
    Accounts (record step w call) := by
  have hout := outcome_step call w
  rw [record]
  generalize hr : step call w = r at hout ⊢
  have hw : (step call w).2.ledger = r.2.ledger := by rw [hr]
  cases hout with
  | refused _ e he => exact accounts_of_not_lease (.inl he)
  | permits _ hcall after hafter => exact accounts_of_not_lease (.inr hcall)
  | epoch _ hcall map device frame phase hb ha => exact accounts_of_not_lease (.inr hcall)
  | reserved frame bytes slot cursor key hphase hfree hslot hgen =>
    have hs : slot = ⟨key.slot.toNat, hslot ▸ slot.isLt⟩ := Fin.ext hslot.symm
    have hticks : Ticks ⟨w, .reserve frame bytes, (.none, some key)⟩ key 0 1 := by
      refine ⟨hslot ▸ slot.isLt, ?_, ?_⟩
      · -- The free slot is at the end of the generation before.
        rw [← hs]
        change age slot w = _
        rw [age, hfree, hgen, SlotState.stage]
        omega
      · rw [← hs, age, hw]
        simp only [setRecord_self, SlotState.stage]
    constructor <;> intro key' hk <;>
      simp only [reservedKey, publishedKey, cancelledKey, readKey, finishedKey, reduceCtorEq,
        Option.some.injEq] at hk
    subst hk
    exact ⟨hticks, hphase⟩
  | published key slot hphase hkey =>
    constructor <;> intro key' hk <;>
      simp only [reservedKey, publishedKey, cancelledKey, readKey, finishedKey, reduceCtorEq,
        Option.some.injEq] at hk
    subst hk
    exact ⟨ticks_setState h hkey hw, hphase⟩
  | cancelled key slot hphase hkey =>
    constructor <;> intro key' hk <;>
      simp only [reservedKey, publishedKey, cancelledKey, readKey, finishedKey, reduceCtorEq,
        Option.some.injEq] at hk
    subst hk
    exact ⟨ticks_setState h hkey hw, hphase⟩
  | began key i slot hphase hkey hpermit =>
    constructor <;> intro key' hk <;>
      simp only [reservedKey, publishedKey, cancelledKey, readKey, finishedKey, reduceCtorEq,
        Option.some.injEq] at hk
    subst hk
    exact ⟨ticks_setState h hkey hw, hphase⟩
  | finished i slot hpermit hkey =>
    have hticks : Ticks ⟨w, .finishRead i, (.none, none)⟩ (w.permits i).key 3 _ :=
      ticks_setState h hkey hw
    constructor <;> intro key' hk <;>
      simp only [reservedKey, publishedKey, cancelledKey, readKey, finishedKey, reduceCtorEq,
        Option.some.injEq] at hk
    subst hk
    have hstage : (if w.ledger.phase = .retired then SlotState.retired else .free).stage = 4 := by
      split_ifs <;> rfl
    rw [hstage] at hticks
    exact hticks
  | retired => exact accounts_of_not_lease (.inr rfl)

/-! ## Runs -/

variable {w : World}

theorem accounts_history (h : Consistent w) (calls : List Call) :
    ∀ r ∈ history step calls w, Accounts r :=
  forall_mem_history step h (fun _ call ht => consistent_step ht call)
    (fun _ call ht => accounts_record ht call) calls

theorem ticks_le {r' : Event} {a b a' b' : ℕ} (hr : Ticks r key a b) (hr' : Ticks r' key a' b')
    (hage : ∀ slot, age slot (step r.call r.before).2 ≤ age slot r'.before) : b ≤ a' := by
  have := hage ⟨key.slot.toNat, hr.slot⟩
  rw [hr.after, hr'.before] at this
  omega

theorem age_history (calls : List Call) (w : World) :
    (history step calls w).Pairwise fun r r' =>
      ∀ slot, age slot (step r.call r.before).2 ≤ age slot r'.before := by
  rw [List.pairwise_iff_getElem]
  intro i j hi hj hij slot
  exact List.pairwise_iff_getElem.mp
    (history_pairwise step (fun t call => age_step slot t call) calls w) i j hi hj hij

variable {past : List Event}

theorem nodup_of_ticks {f : Event → Option Key} {a b : ℕ} (hab : a < b)
    (hage : past.Pairwise fun r r' =>
      ∀ slot, age slot (step r.call r.before).2 ≤ age slot r'.before)
    (hf : ∀ r ∈ past, ∀ key, f r = some key → Ticks r key a b) : (past.filterMap f).Nodup := by
  rw [List.Nodup, List.pairwise_filterMap]
  refine hage.imp_of_mem fun {r r'} hr hr' hle key hk key' hk' heq => ?_
  have := ticks_le (hf r hr key hk) (heq ▸ hf r' hr' key' hk') hle
  omega

/-! ## What lies behind a lease -/

def reservedKeys (past : List Event) : List Key := past.filterMap reservedKey

def publishedKeys (past : List Event) : List Key := past.filterMap publishedKey

def readKeys (past : List Event) : List Key := past.filterMap readKey

/-- A lease that is written was reserved, and one that is published was published. -/
structure Traced (w : World) (past : List Event) : Prop where
  writing : ∀ slot, (w.ledger.records slot).state = .writing →
    (w.ledger.records slot).key ∈ reservedKeys past
  published : ∀ slot, (w.ledger.records slot).state = .published →
    (w.ledger.records slot).key ∈ publishedKeys past

theorem Traced.mono {w' : World} {more : List Event} (h : Traced w past)
    (hslot : ∀ slot, w'.ledger.records slot = w.ledger.records slot ∨
      (w'.ledger.records slot).state ≠ .writing ∧ (w'.ledger.records slot).state ≠ .published) :
    Traced w' (past ++ more) := by
  constructor
  · intro slot hs
    rcases hslot slot with heq | ⟨hw, -⟩
    · rw [heq] at hs ⊢
      rw [reservedKeys, List.filterMap_append]
      exact List.mem_append_left _ (h.writing slot hs)
    · contradiction
  · intro slot hs
    rcases hslot slot with heq | ⟨-, hp⟩
    · rw [heq] at hs ⊢
      rw [publishedKeys, List.filterMap_append]
      exact List.mem_append_left _ (h.published slot hs)
    · contradiction

theorem Traced.setState {more : List Event} (h : Traced w past) (slot : Fin slotCount)
    (hw : state ≠ .writing) (hp : state ≠ .published) (permits : ℕ → ReadPermit) :
    Traced ⟨w.ledger.setState slot state, permits⟩ (past ++ more) := by
  refine h.mono fun slot' => ?_
  rw [SlotLedger.setState]
  by_cases hs : slot' = slot
  · subst hs
    rw [setRecord_self]
    exact .inr ⟨hw, hp⟩
  · exact .inl (setRecord_of_ne _ _ hs)

theorem traced_step (h : Traced w past) (call : Call) :
    Traced (step call w).2 (past ++ [record step w call]) := by
  have hout := outcome_step call w
  rw [record]
  generalize step call w = r at hout ⊢
  cases hout with
  | refused _ e he => exact h.mono fun _ => .inl rfl
  | permits _ hcall after hafter => exact h.mono fun _ => .inl rfl
  | epoch _ hcall map device frame phase hb ha => exact h.mono fun _ => .inl rfl
  | reserved frame bytes slot cursor key hphase hfree hslot hgen =>
    constructor
    · intro slot' hs
      rw [reservedKeys, List.filterMap_append]
      by_cases hne : slot' = slot
      · subst hne
        simp only [setRecord_self]
        exact List.mem_append_right _ (by simp [reservedKey])
      · simp only [setRecord_of_ne _ _ hne] at hs ⊢
        exact List.mem_append_left _ (h.writing slot' hs)
    · intro slot' hs
      rw [publishedKeys, List.filterMap_append]
      by_cases hne : slot' = slot
      · subst hne
        simp only [setRecord_self, reduceCtorEq] at hs
      · simp only [setRecord_of_ne _ _ hne] at hs ⊢
        exact List.mem_append_left _ (h.published slot' hs)
  | published key slot hphase hkey =>
    constructor
    · intro slot' hs
      rw [reservedKeys, List.filterMap_append]
      by_cases hne : slot' = slot
      · subst hne
        simp only [SlotLedger.setState, setRecord_self, reduceCtorEq] at hs
      · simp only [SlotLedger.setState, setRecord_of_ne _ _ hne] at hs ⊢
        exact List.mem_append_left _ (h.writing slot' hs)
    · intro slot' hs
      rw [publishedKeys, List.filterMap_append]
      by_cases hne : slot' = slot
      · subst hne
        simp only [SlotLedger.setState, setRecord_self, hkey.lease]
        exact List.mem_append_right _ (by simp [publishedKey])
      · simp only [SlotLedger.setState, setRecord_of_ne _ _ hne] at hs ⊢
        exact List.mem_append_left _ (h.published slot' hs)
  | cancelled key slot hphase hkey => exact h.setState slot (by decide) (by decide) _
  | began key i slot hphase hkey hpermit => exact h.setState slot (by decide) (by decide) _
  | finished i slot hpermit hkey =>
    exact h.setState slot (by split_ifs <;> decide) (by split_ifs <;> decide) _
  | retired =>
    refine h.mono fun slot => ?_
    simp only [retire]
    split_ifs
    · exact .inr ⟨by simp, by simp⟩
    · exact .inl rfl

theorem Traced.record (h : Traced w past) (call : Call) :
    (∀ key, publishedKey (record step w call) = some key → key ∈ reservedKeys past) ∧
      ∀ key, readKey (record step w call) = some key → key ∈ publishedKeys past := by
  have hout := outcome_step call w
  rw [Lib.record]
  generalize step call w = r at hout ⊢
  cases hout with
  | refused _ e he => constructor <;> intro key hk <;> cases call <;> simp_all [publishedKey, readKey]
  | permits _ hcall after hafter =>
    constructor <;> intro key hk <;> cases call <;> simp_all [publishedKey, readKey, Call.isLease]
  | epoch _ hcall map device frame phase hb ha =>
    constructor <;> intro key hk <;> cases call <;> simp_all [publishedKey, readKey, Call.isLease]
  | published key slot hphase hkey =>
    refine ⟨fun key' hk => ?_, fun key' hk => (by cases hk)⟩
    simp only [publishedKey, Option.some.injEq] at hk
    subst hk
    exact hkey.lease ▸ h.writing slot hkey.stage
  | began key i slot hphase hkey hpermit =>
    refine ⟨fun key' hk => (by cases hk), fun key' hk => ?_⟩
    simp only [readKey, Option.some.injEq] at hk
    subst hk
    exact hkey.lease ▸ h.published slot hkey.stage
  | _ => exact ⟨fun key hk => (by cases hk), fun key hk => (by cases hk)⟩

theorem traced_run (h : Traced w []) (calls : List Call) :
    Traced (run step calls w) (history step calls w) :=
  history_induction step h (fun _ _ call ht => traced_step ht call) calls

theorem traced_history (h : Traced w []) (calls : List Call) {before after : List Event}
    (hsplit : history step calls w = before ++ r :: after) :
    (∀ key, publishedKey r = some key → key ∈ reservedKeys before) ∧
      ∀ key, readKey r = some key → key ∈ publishedKeys before := by
  obtain ⟨earlier, call, later, -, hbefore, hr, -⟩ := history_split step hsplit
  rw [hbefore, hr]
  exact (traced_run h earlier).record call

/-! ## Permits -/

/-- The active permits of a ledger are leases of slots that are read, one for each slot at most. -/
structure Held (w : World) : Prop where
  /-- A permit is the current lease of a slot that is read. -/
  current : ∀ i, (w.permits i).owner = some w.ledger.self →
    ∃ slot, Current w (w.permits i).key slot .reading
  unique : ∀ i j, (w.permits i).owner = some w.ledger.self →
    (w.permits j).owner = some w.ledger.self →
    (w.permits i).key.slot = (w.permits j).key.slot → i = j

theorem Held.mono {w' : World} (h : Held w) (hself : w'.ledger.self = w.ledger.self)
    (hslot : ∀ slot, (w.ledger.records slot).state = .reading →
      w'.ledger.records slot = w.ledger.records slot)
    (hpermits : Shuffled w.ledger.self w.permits w'.permits) : Held w' := by
  obtain ⟨f, hf, hinj⟩ := hpermits
  constructor
  · intro i hi
    rw [hself] at hi
    obtain ⟨hown, hkey⟩ := hf i hi
    obtain ⟨slot, hnames, hlease, hstage⟩ := h.current (f i) hown
    rw [hkey]
    exact ⟨slot, hnames, by rw [hslot slot hstage, hlease], by rw [hslot slot hstage, hstage]⟩
  · intro i j hi hj hij
    rw [hself] at hi hj
    obtain ⟨howni, hkeyi⟩ := hf i hi
    obtain ⟨hownj, hkeyj⟩ := hf j hj
    exact hinj i j hi hj (h.unique _ _ howni hownj (by rw [← hkeyi, ← hkeyj, hij]))

theorem self_step (w : World) (call : Call) : (step call w).2.ledger.self = w.ledger.self := by
  have hout := outcome_step call w
  generalize step call w = r at hout ⊢
  cases hout <;> rfl

theorem held_step (h : Held w) (call : Call) : Held (step call w).2 := by
  have hsame : ∀ permits : ℕ → ReadPermit, Shuffled w.ledger.self permits permits :=
    fun _ => shuffled_of_subset fun _ _ => rfl
  -- A slot whose state changes was not read before.
  have hset : ∀ {slot : Fin slotCount} {state : SlotState} (r : SlotRecord),
      (w.ledger.records slot).state = state → state ≠ .reading → ∀ slot',
      (w.ledger.records slot').state = .reading →
        (w.ledger.setRecord slot r).records slot' = w.ledger.records slot' := by
    intro slot state r hstate hne slot' hread
    refine setRecord_of_ne _ _ fun heq => hne ?_
    rw [← hstate, ← heq, hread]
  have hout := outcome_step call w
  generalize step call w = r at hout ⊢
  cases hout with
  | refused _ e he => exact h
  | permits _ hcall after hafter => exact h.mono rfl (fun _ _ => rfl) hafter
  | epoch _ hcall map device frame phase hb ha => exact h.mono rfl (fun _ _ => rfl) (hsame _)
  | reserved frame bytes slot cursor key hphase hfree hslot hgen =>
    exact h.mono rfl (hset _ hfree (by decide)) (hsame _)
  | published key slot hphase hkey => exact h.mono rfl (hset _ hkey.stage (by decide)) (hsame _)
  | cancelled key slot hphase hkey => exact h.mono rfl (hset _ hkey.stage (by decide)) (hsame _)
  | began key i slot hphase hkey hpermit =>
    -- The slots of the other permits are read already, so they are not this one.
    have hother : ∀ j, (w.permits j).owner = some w.ledger.self → (w.permits j).key.slot ≠ key.slot := by
      intro j hj heq
      obtain ⟨slot', hnames, hlease, hstage⟩ := h.current j hj
      have hs : slot' = slot := Fin.ext (by rw [← hnames, heq, hkey.names])
      rw [hs, hkey.stage] at hstage
      contradiction
    constructor
    · intro j hj
      by_cases hji : j = i
      · subst hji
        simp only [World.setPermit, Function.update_self]
        refine ⟨slot, hkey.names, ?_, ?_⟩ <;>
          simp [SlotLedger.setState, hkey.lease]
      · simp only [World.setPermit, Function.update_of_ne hji] at hj ⊢
        obtain ⟨slot', hnames, hlease, hstage⟩ := h.current j hj
        have hframe := hset { w.ledger.records slot with state := .reading } hkey.stage (by decide)
          slot' hstage
        exact ⟨slot', hnames, (congrArg SlotRecord.key hframe).trans hlease,
          (congrArg SlotRecord.state hframe).trans hstage⟩
    · intro j k hj hk hjk
      by_cases hji : j = i <;> by_cases hki : k = i
      · rw [hji, hki]
      · subst hji
        simp only [World.setPermit, Function.update_self, Function.update_of_ne hki] at hk hjk
        exact absurd hjk.symm (hother k hk)
      · subst hki
        simp only [World.setPermit, Function.update_self, Function.update_of_ne hji] at hj hjk
        exact absurd hjk (hother j hj)
      · simp only [World.setPermit, Function.update_of_ne hji, Function.update_of_ne hki]
          at hj hk hjk
        exact h.unique j k hj hk hjk
  | finished i slot hpermit hkey =>
    have hgone : ∀ j, ((w.setPermit i { w.permits i with owner := none, key := {} }).permits
        j).owner = some w.ledger.self → j ≠ i := by
      rintro j hj rfl
      simp only [World.setPermit, Function.update_self, reduceCtorEq] at hj
    constructor
    · intro j hj
      have hji := hgone j hj
      simp only [World.setPermit, Function.update_of_ne hji] at hj ⊢
      obtain ⟨slot', hnames, hlease, hstage⟩ := h.current j hj
      -- Another permit is about another slot.
      have hne : slot' ≠ slot := by
        rintro rfl
        refine hji (h.unique j i hj hpermit ?_)
        exact UInt32.toNat_inj.mp (hnames.trans hkey.names.symm)
      refine ⟨slot', hnames, ?_, ?_⟩
      · exact (congrArg SlotRecord.key (setRecord_of_ne _ _ hne)).trans hlease
      · exact (congrArg SlotRecord.state (setRecord_of_ne _ _ hne)).trans hstage
    · intro j k hj hk hjk
      have hji := hgone j hj
      have hki := hgone k hk
      simp only [World.setPermit, Function.update_of_ne hji, Function.update_of_ne hki]
        at hj hk hjk
      exact h.unique j k hj hk hjk
  | retired =>
    refine h.mono rfl (fun slot hread => ?_) (hsame _)
    simp only [retire, hread, ne_eq, not_true_eq_false, if_false]

/-! ## What does not come back -/

def Closed (w : World) (slot : Fin slotCount) : Prop :=
  (w.ledger.records slot).state = .quarantined ∨ (w.ledger.records slot).state = .retired

theorem closed_step (h : Closed w slot) (call : Call) : Closed (step call w).2 slot := by
  have hset : ∀ {slot' : Fin slotCount} {state : SlotState} (r : SlotRecord),
      (w.ledger.records slot').state = state → state ≠ .quarantined → state ≠ .retired →
        ∀ permits, Closed ⟨w.ledger.setRecord slot' r, permits⟩ slot := by
    intro slot' state r hstate hq hr permits
    have hne : slot ≠ slot' := by
      rintro rfl
      exact h.elim (fun hs => hq (hstate.symm.trans hs)) fun hs => hr (hstate.symm.trans hs)
    rw [Closed, setRecord_of_ne _ _ hne]
    exact h
  have hout := outcome_step call w
  generalize step call w = r at hout ⊢
  cases hout with
  | refused _ e he => exact h
  | permits _ hcall after hafter => exact h
  | epoch _ hcall map device frame phase hb ha => exact h
  | reserved frame bytes slot' cursor key hphase hfree hslot hgen =>
    exact hset _ hfree (by decide) (by decide) w.permits
  | published key slot' hphase hkey => exact hset _ hkey.stage (by decide) (by decide) _
  | cancelled key slot' hphase hkey => exact hset _ hkey.stage (by decide) (by decide) _
  | began key i slot' hphase hkey hpermit => exact hset _ hkey.stage (by decide) (by decide) _
  | finished i slot' hpermit hkey => exact hset _ hkey.stage (by decide) (by decide) _
  | retired =>
    unfold Closed at h ⊢
    simp only [retire]
    split_ifs with hr
    · exact .inr rfl
    · exact h

theorem retired_step (w : World) (call : Call) :
    (if w.ledger.phase = .retired then 1 else 0) ≤
      if (step call w).2.ledger.phase = .retired then 1 else 0 := by
  have hout := outcome_step call w
  generalize step call w = r at hout ⊢
  cases hout with
  | epoch _ hcall map device frame phase hb ha => rw [if_neg hb]; exact Nat.zero_le _
  | retired => split_ifs <;> simp_all [retire]
  | _ => exact le_refl _

theorem Accounts.accepts (h : Accounts r) (hr : Accepts key r) :
    r.before.ledger.phase = .active ∧ ∃ a b, a ≤ 2 ∧ Ticks r key a b := by
  rcases hr with hr | hr | hr
  · exact ⟨(h.published key hr).2, 1, 2, by decide, (h.published key hr).1⟩
  · exact ⟨(h.cancelled key hr).2, 1, 4, by decide, (h.cancelled key hr).1⟩
  · exact ⟨(h.read key hr).2, 2, 3, by decide, (h.read key hr).1⟩

theorem not_accepts_of_ends (h : Consistent w) {calls : List Call} {before after : List Event}
    (hsplit : history step calls w = before ++ r :: after) (hkey : key ∈ reservedKeys before)
    (hends : Ends key r) : ∀ r' ∈ after, ¬ Accepts key r' := by
  intro r' hr' hacc
  have hall := accounts_history h calls
  have hage := age_history calls w
  have hphase := history_pairwise step (fun t call => retired_step t call) calls w
  rw [hsplit] at hall hage hphase
  have hr := hall r (by simp)
  obtain ⟨hactive, a, b, ha, hticks⟩ := (hall r' (by simp [hr'])).accepts hacc
  rw [List.pairwise_append, List.pairwise_cons] at hage hphase
  have hle := hage.2.1.1 r' hr'
  rcases hends with ⟨key', hres, hslot⟩ | hcan | hfin | hret
  · -- The slot has a later generation: the key's lease was made before this one.
    obtain ⟨r₀, hr₀, hres₀⟩ := List.mem_filterMap.mp hkey
    have hold := ((hall r₀ (by simp [hr₀])).reserved key hres₀).1
    have hnew := (hr.reserved key' hres).1
    have hslot' : (⟨key'.slot.toNat, hnew.slot⟩ : Fin slotCount) = ⟨key.slot.toNat, hold.slot⟩ :=
      Fin.ext (congrArg UInt32.toNat hslot)
    have h₀ := hage.2.2 r₀ hr₀ r List.mem_cons_self ⟨key.slot.toNat, hold.slot⟩
    have h₁ := hle ⟨key.slot.toNat, hold.slot⟩
    have hb := hnew.before
    have hf := hnew.after
    rw [hslot'] at hb hf
    rw [hold.after, hb] at h₀
    rw [hf, hticks.before] at h₁
    omega
  · have := ticks_le (hr.cancelled key hcan).1 hticks hle
    omega
  · have := ticks_le (hr.finished key hfin) hticks hle
    omega
  · -- A retired ledger is never active again.
    have hp := hphase.2.1.1 r' hr'
    have hretired : (step r.call r.before).2.ledger.phase = .retired := by rw [hret]; rfl
    rw [if_pos hretired, if_neg (by rw [hactive]; decide)] at hp
    omega

theorem new_sound {self : ℕ} {connection : Nonce} {limits : Limits} {permits : ℕ → ReadPermit}
    (hpermits : ∀ i, (permits i).owner ≠ some self) :
    Consistent ⟨.new self connection limits, permits⟩ ∧ Traced ⟨.new self connection limits, permits⟩ [] ∧
      Held ⟨.new self connection limits, permits⟩ :=
  ⟨fun _ => rfl, ⟨fun _ hs => (nomatch hs), fun _ hs => (nomatch hs)⟩,
    ⟨fun i hi => absurd hi (hpermits i), fun i _ hi => absurd hi (hpermits i)⟩⟩

/-- The life of a lease, for every list of calls of a new ledger, whatever its connection and limits
and whatever permits of other ledgers are about:
- no key is leased twice, published twice or begun to be read twice; what is published was leased
  before, and what is read was published before;
- an active permit of the ledger for a slot carries the slot's current lease, the slot is being
  read, and no other permit of the ledger is for that slot;
- a slot that is quarantined stays so or retires, and never leaves these two states;
- once the slot of a leased key is leased again, cancelled, read to completion or retired, no
  `publish`, `cancelWrite` or `beginRead` of the key is accepted. -/
theorem lease_lifecycle (self : ℕ) (connection : Nonce) (limits : Limits)
    (permits : ℕ → ReadPermit) (hpermits : ∀ i, (permits i).owner ≠ some self)
    (calls : List Call) :
    let w₀ : World := ⟨.new self connection limits, permits⟩
    let w := run step calls w₀
    let past := history step calls w₀
    ((reservedKeys past).Nodup ∧ (publishedKeys past).Nodup ∧ (readKeys past).Nodup ∧
      ∀ before r after, past = before ++ r :: after →
        (∀ key, publishedKey r = some key → key ∈ reservedKeys before) ∧
          ∀ key, readKey r = some key → key ∈ publishedKeys before) ∧
    (∀ (slot : Fin slotCount) (i j : ℕ),
      (w.permits i).owner = some self → (w.permits i).key.slot.toNat = slot →
        (w.ledger.records slot).state = .reading ∧
          (w.permits i).key = (w.ledger.records slot).key ∧
          ((w.permits j).owner = some self → (w.permits j).key.slot.toNat = slot → i = j)) ∧
    (∀ slot, (w.ledger.records slot).state = .quarantined → ∀ later,
      ((run step later w).ledger.records slot).state = .quarantined ∨
        ((run step later w).ledger.records slot).state = .retired) ∧
    ∀ before r after, past = before ++ r :: after → ∀ key ∈ reservedKeys before, Ends key r →
      ∀ r' ∈ after, ¬ Accepts key r' := by
  intro w₀ w past
  obtain ⟨hcons, htraced, hheld₀⟩ : Consistent w₀ ∧ Traced w₀ [] ∧ Held w₀ := new_sound hpermits
  have hall := accounts_history hcons calls
  have hage := age_history calls w₀
  have hheld : Held w := run_induction step hheld₀ (fun _ call ht => held_step ht call) calls
  have hself : w.ledger.self = self := @run_induction _ _ _ step (fun t => t.ledger.self = self) w₀
    rfl (fun t call ht => (self_step t call).trans ht) calls
  refine ⟨⟨?_, ?_, ?_, ?_⟩, ?_, ?_, ?_⟩
  · exact nodup_of_ticks (by decide : 0 < 1) hage fun r hr key hk => ((hall r hr).reserved key hk).1
  · exact nodup_of_ticks (by decide : 1 < 2) hage fun r hr key hk => ((hall r hr).published key hk).1
  · exact nodup_of_ticks (by decide : 2 < 3) hage fun r hr key hk => ((hall r hr).read key hk).1
  · exact fun before r after hsplit => traced_history htraced calls hsplit
  · intro slot i j hi hslot
    rw [← hself] at hi ⊢
    obtain ⟨slot', hnames, hlease, hstage⟩ := hheld.current i hi
    have hs : slot' = slot := Fin.ext (hnames.symm.trans hslot)
    rw [← hs]
    refine ⟨hstage, hlease.symm, fun hj hjslot => hheld.unique i j hi hj ?_⟩
    exact UInt32.toNat_inj.mp (by rw [hnames, hjslot])
  · intro slot hq later
    exact @run_induction _ _ _ step (fun t => Closed t slot) w (.inl hq)
      (fun _ call ht => closed_step ht call) later
  · exact fun before r after hsplit key hkey hends =>
      not_accepts_of_ends hcons hsplit hkey hends

/-- The life of a lease at a run that leases slot 0 twice: the first key is read to completion under
a permit that is moved, then published again in vain, and the second is cancelled. -/
theorem lease_lifecycle_two_leases :
    let first : Key := ⟨⟨1, 2⟩, 3, 4, 1, 1, 0, 16⟩
    let second : Key := ⟨⟨1, 2⟩, 3, 4, 5, 2, 0, 16⟩
    let calls : List Call := [.beginEpoch 3 4, .reserve 1 16, .publish first, .beginRead first 0,
      .move 1 0, .finishRead 1, .reserve 2 16, .reserve 3 16, .reserve 4 16, .reserve 5 16,
      .publish first, .cancelWrite second]
    let past := history step calls ⟨.new 7 ⟨1, 2⟩ {}, fun _ => {}⟩
    (first ∈ reservedKeys past ∧ second ∈ reservedKeys past ∧ first ∈ readKeys past) ∧
      (reservedKeys past).Nodup ∧
      (((run step [.retire, .finishRead 1]
          (run step calls ⟨.new 7 ⟨1, 2⟩ {}, fun _ => {}⟩)).ledger.records 0).state = .quarantined ∨
        ((run step [.retire, .finishRead 1]
          (run step calls ⟨.new 7 ⟨1, 2⟩ {}, fun _ => {}⟩)).ledger.records 0).state = .retired) := by
  intro first second calls past
  have hkeys : first ∈ reservedKeys past ∧ second ∈ reservedKeys past ∧ first ∈ readKeys past := by
    decide +kernel
  have hlife := lease_lifecycle 7 ⟨1, 2⟩ {} (fun _ => {}) (fun _ => by decide) calls
  exact ⟨hkeys, hlife.1.1, hlife.2.2.1 0 (by decide +kernel) [.retire, .finishRead 1]⟩

end War3VK.RenderHost.Slots
