import War3VK.Tools.FrameTimeline

/-!
# The timeline is exact

As long as there was no fault, the stack of a ledger lists the scopes that are open, so each of its
additions is the amount of the ticks since the last one in which a scope was the innermost, was open, or
was so in a legacy section. A slice has the amounts of all its ticks (`slices_exact`).
-/

namespace War3VK.Tools.FrameTimeline

open Lib

variable {calls : List Call} {l : Ledger} {now : UInt64}

/-! ## Counts -/

/-- The counts of a row are the amounts of the ticks from its start on and below a time. -/
structure Counts (calls : List Call) (row : Slice) (stop : ℕ) : Prop where
  /-- The ticks in which a bucket had the innermost scope. -/
  self : ∀ bucket : Bucket, (row.self bucket).toNat =
    amount (fun time => innermostAt calls time = bucket.val) row.start.toNat stop
  inclusive : ∀ bucket : Bucket, (row.inclusive bucket).toNat =
    amount (fun time => insideAt calls time bucket.val) row.start.toNat stop
  /-- The ticks in which it had the innermost scope, in a legacy section. -/
  legacySelf : ∀ bucket : Bucket, (row.legacySelf bucket).toNat =
    amount (fun time => innermostAt calls time = bucket.val ∧ legacyAt calls time = true)
      row.start.toNat stop
  legacyTicks : row.legacyTicks.toNat =
    amount (fun time => legacyAt calls time = true) row.start.toNat stop

theorem Counts.append {row : Slice} {stop : ℕ} (h : Counts calls row stop) {call : Call}
    (hstop : stop ≤ call.now.toNat) : Counts (calls ++ [call]) row stop := by
  have hopen {time : ℕ} (htime : time < stop) :
      openAt (calls ++ [call]) time = openAt calls time :=
    openAt_append_of_lt (Nat.lt_of_lt_of_le htime hstop)
  have hlegacy {time : ℕ} (htime : time < stop) :
      legacyAt (calls ++ [call]) time = legacyAt calls time :=
    legacyAt_append_of_lt (Nat.lt_of_lt_of_le htime hstop)
  have hinner {time : ℕ} (htime : time < stop) :
      innermostAt (calls ++ [call]) time = innermostAt calls time := by
    unfold innermostAt
    rw [hopen htime]
  have hinside {time : ℕ} (htime : time < stop) (bucket : ℕ) :
      insideAt (calls ++ [call]) time bucket ↔ insideAt calls time bucket := by
    unfold insideAt
    rw [hopen htime]
  refine ⟨fun bucket => (h.self bucket).trans ?_, fun bucket => (h.inclusive bucket).trans ?_,
    fun bucket => (h.legacySelf bucket).trans ?_, h.legacyTicks.trans ?_⟩
  · exact amount_congr fun time _ htime => by rw [hinner htime]
  · exact amount_congr fun time _ htime => (hinside htime _).symm
  · exact amount_congr fun time _ htime => by rw [hinner htime, hlegacy htime]
  · exact amount_congr fun time _ htime => by rw [hlegacy htime]

theorem Counts.of_zero {row : Slice} {stop : ℕ} (hstart : row.start.toNat = stop)
    (hself : ∀ bucket, row.self bucket = 0) (hinclusive : ∀ bucket, row.inclusive bucket = 0)
    (hlegacySelf : ∀ bucket, row.legacySelf bucket = 0) (hlegacyTicks : row.legacyTicks = 0) :
    Counts calls row stop := by
  refine ⟨fun bucket => ?_, fun bucket => ?_, fun bucket => ?_, ?_⟩
  · rw [hself, hstart, amount_self, UInt64.toNat_zero]
  · rw [hinclusive, hstart, amount_self, UInt64.toNat_zero]
  · rw [hlegacySelf, hstart, amount_self, UInt64.toNat_zero]
  · rw [hlegacyTicks, hstart, amount_self, UInt64.toNat_zero]

/-! ## The stack -/

def Entry.label (entry : Entry) : ℕ × ℕ := (entry.id.val, entry.token.toNat)

def Scope.label (scope : Scope) : ℕ × ℕ := (scope.id.toNat, scope.token)

structure Exact (calls : List Call) (l : Ledger) : Prop where
  serial : l.serial.toNat = (calls.filterMap Call.entered).length
  /-- Only tokens that were given out have been left. -/
  left : ∀ token now, .leave token now ∈ calls → token.toNat ≤ l.serial.toNat
  /-- The stack lists the scopes that are open from the last time on. -/
  stack : ∀ time, l.last.toNat ≤ time →
    l.stack.map Entry.label = (openAt calls time).map Scope.label
  legacy : ∀ time, l.last.toNat ≤ time → legacyAt calls time = l.insideLegacy
  start_le : l.row.start.toNat ≤ l.last.toNat
  counts : Counts calls l.row l.last.toNat

theorem Exact.innermostAt (h : Exact calls l) (hfault : l.faulted = false) {time : ℕ}
    (htime : l.last.toNat ≤ time) : innermostAt calls time = l.leaf.val := by
  have hlast := congrArg (fun labels => (labels.getLast?.map Prod.fst).getD 0) (h.stack time htime)
  rw [List.getLast?_map, List.getLast?_map, Option.map_map, Option.map_map] at hlast
  unfold FrameTimeline.innermostAt Ledger.leaf
  rw [if_neg (by rw [hfault]; exact Bool.false_ne_true)]
  refine hlast.symm.trans ?_
  cases l.stack.getLast? <;> rfl

theorem Exact.insideAt (h : Exact calls l) {time : ℕ} (htime : l.last.toNat ≤ time)
    (bucket : Bucket) :
    insideAt calls time bucket.val ↔ ∃ entry ∈ l.stack, entry.id = bucket := by
  have hmem (n : ℕ) : n ∈ (l.stack.map Entry.label).map Prod.fst ↔
      n ∈ ((openAt calls time).map Scope.label).map Prod.fst := by
    rw [h.stack time htime]
  unfold FrameTimeline.insideAt
  have hbucket := hmem bucket.val
  rw [List.map_map, List.map_map, List.mem_map, List.mem_map] at hbucket
  refine hbucket.symm.trans (exists_congr fun entry => and_congr_right fun _ => ?_)
  exact Fin.val_inj

theorem Exact.advance (h : Exact calls l) (hfault : l.faulted = false) (hle : l.last ≤ now) :
    Exact calls (l.advance now) := by
  have hnow := UInt64.le_iff_toNat_le.mp hle
  obtain ⟨hstack, hserial, hlegacy, -⟩ := Ledger.advance_frame hle
  have hlast := Ledger.last_advance hle
  refine
    { serial := hserial ▸ h.serial
      left := hserial ▸ h.left
      stack := fun time htime => ?_
      legacy := fun time htime => ?_
      start_le := ?_
      counts := ?_ }
  · rw [hlast] at htime
    rw [hstack]
    exact h.stack time (Nat.le_trans hnow htime)
  · rw [hlast] at htime
    rw [hlegacy]
    exact h.legacy time (Nat.le_trans hnow htime)
  · by_cases hzero : l.last = 0
    · unfold Ledger.advance
      rw [if_pos hzero]
    · rw [hlast, Ledger.start_advance hle hzero]
      exact Nat.le_trans h.start_le hnow
  rw [hlast]
  have hcounts := h.counts
  have hstart := h.start_le
  by_cases hzero : l.last = 0
  · -- Nothing was counted before the first time.
    rw [hzero, UInt64.toNat_zero] at hcounts hstart
    have hnone : l.row.start.toNat = 0 := Nat.le_zero.mp hstart
    have hself := hcounts.self
    have hinclusive := hcounts.inclusive
    have hlegacySelf := hcounts.legacySelf
    have hlegacyTicks := hcounts.legacyTicks
    simp only [hnone, amount_self] at hself hinclusive hlegacySelf hlegacyTicks
    unfold Ledger.advance
    rw [if_pos hzero]
    exact .of_zero rfl (fun bucket => UInt64.toNat_inj.mp (hself bucket))
      (fun bucket => UInt64.toNat_inj.mp (hinclusive bucket))
      (fun bucket => UInt64.toNat_inj.mp (hlegacySelf bucket)) (UInt64.toNat_inj.mp hlegacyTicks)
  have hdt : (now - l.last).toNat = now.toNat - l.last.toNat := UInt64.toNat_sub_of_le _ _ hle
  have hlt := now.toNat_lt
  have hroom {n : ℕ} (hn : n ≤ l.last.toNat - l.row.start.toNat) :
      n + (now - l.last).toNat < 2 ^ 64 := by omega
  have hinner (bucket : Bucket) (time : ℕ) (htime : l.last.toNat ≤ time) :
      FrameTimeline.innermostAt calls time = bucket.val ↔ l.leaf = bucket := by
    rw [h.innermostAt hfault htime, Fin.val_inj]
  unfold Ledger.advance
  rw [if_neg hzero, if_neg (UInt64.not_lt.mpr hle)]
  refine ⟨fun bucket => ?_, fun bucket => ?_, fun bucket => ?_, ?_⟩
  · dsimp only
    rw [toNat_addAt (hroom (by rw [hcounts.self]; exact amount_le)), hdt, hcounts.self]
    exact (amount_extend hstart hnow fun time htime _ => hinner bucket time htime).symm
  · dsimp only
    rw [if_neg (by rw [hfault]; exact Bool.false_ne_true), foldl_includeEntry]
    simp only [Nat.zero_testBit, and_true]
    rw [amount_extend hstart hnow fun time htime _ => h.insideAt htime bucket, ← hcounts.inclusive]
    split
    · rw [toNat_add_of_lt (hroom (by rw [hcounts.inclusive]; exact amount_le)), hdt]
    · rw [Nat.add_zero]
  · dsimp only
    have hlegacySelf := amount_extend (p := fun time => FrameTimeline.innermostAt calls time =
        bucket.val ∧ legacyAt calls time = true) hstart hnow fun time htime _ =>
      and_congr (hinner bucket time htime) (Bool.eq_iff_iff.mp (h.legacy time htime))
    rw [hlegacySelf, ← hcounts.legacySelf]
    by_cases hinside : l.insideLegacy = true
    · rw [if_pos hinside, toNat_addAt (hroom (by rw [hcounts.legacySelf]; exact amount_le)), hdt]
      simp only [hinside, and_true]
    · rw [if_neg hinside, if_neg fun hand => hinside hand.2, Nat.add_zero]
  · dsimp only
    have hlegacyTicks := amount_extend (p := fun time => legacyAt calls time = true) hstart hnow
      fun time htime _ => Bool.eq_iff_iff.mp (h.legacy time htime)
    rw [hlegacyTicks, ← hcounts.legacyTicks]
    split
    · rw [toNat_add_of_lt (hroom (by rw [hcounts.legacyTicks]; exact amount_le)), hdt]
    · rw [Nat.add_zero]

theorem Exact.plain (h : Exact calls l) {call : Call} (hlast : l.last = call.now)
    (hentered : call.entered = none)
    (hleaves : ∀ time, ∀ scope ∈ entered calls, call.leaves scope time = false)
    (hlegacy : ∀ time, call.setsLegacy time = none)
    (hleft : ∀ token now, call = .leave token now → token.toNat ≤ l.serial.toNat) :
    Exact (calls ++ [call]) l where
  serial := by
    rw [List.filterMap_append, List.filterMap_cons_none hentered, List.filterMap_nil,
      List.append_nil, h.serial]
  left token now hmem := by
    obtain hmem | hmem := List.mem_append.mp hmem
    · exact h.left token now hmem
    · exact hleft token now (List.mem_singleton.mp hmem).symm
  stack time htime := by
    rw [openAt_append_of_plain hentered (hleaves time)]
    exact h.stack time htime
  legacy time htime := by
    unfold legacyAt
    rw [List.filterMap_append, List.filterMap_cons_none (hlegacy time), List.filterMap_nil, List.append_nil]
    exact h.legacy time htime
  start_le := h.start_le
  counts := h.counts.append (by rw [hlast])

theorem Exact.ignored (h : Exact calls l) (hle : l.last ≤ now) :
    Exact (calls ++ [.leave 0 now]) l := by
  have hleaves (time : ℕ) : ∀ scope ∈ entered calls, (Call.leave 0 now).leaves scope time = false := by
    intro scope hmem
    have hpos := (token_of_mem_entered hmem).1
    unfold Call.leaves
    dsimp only
    rw [decide_eq_false (by rw [UInt64.toNat_zero]; exact hpos.ne), Bool.false_and]
  refine
    { serial := ?_
      left := fun token now' hmem => ?_
      stack := fun time htime => ?_
      legacy := fun time htime => ?_
      start_le := h.start_le
      counts := h.counts.append (UInt64.le_iff_toNat_le.mp hle) }
  · rw [List.filterMap_append, h.serial]
    exact (congrArg List.length (List.append_nil _)).symm
  · obtain hmem | hmem := List.mem_append.mp hmem
    · exact h.left token now' hmem
    · cases List.mem_singleton.mp hmem
      exact Nat.zero_le _
  · rw [openAt_append_of_plain rfl (hleaves time)]
    exact h.stack time htime
  · rw [← h.legacy time htime]
    unfold legacyAt
    rw [List.filterMap_append]
    exact congrArg (fun values => values.getLast?.getD false) (List.append_nil _)

theorem Exact.enter (h : Exact calls l) (hlast : l.last = now) {id : UInt32}
    (hid : id.toNat < bucketCount) (hserial : l.serial ≠ 0xFFFFFFFFFFFFFFFF)
    {rowCalls : Bucket → UInt32} {events : UInt64} :
    Exact (calls ++ [.enter id now])
      { l with
        serial := l.serial + 1
        stack := l.stack ++ [⟨⟨id.toNat, hid⟩, l.serial + 1⟩]
        row := { l.row with calls := rowCalls, events := events } } := by
  have hnext : (l.serial + 1).toNat = l.serial.toNat + 1 := by
    have hlt := l.serial.toNat_lt
    have hne : l.serial.toNat ≠ 2 ^ 64 - 1 := fun heq => hserial (UInt64.toNat_inj.mp heq)
    exact toNat_add_of_lt (by rw [UInt64.toNat_one]; omega)
  have hcounts : Counts (calls ++ [.enter id now]) l.row l.last.toNat :=
    h.counts.append (by rw [hlast]; rfl)
  refine
    { serial := ?_
      left := fun token now' hmem => ?_
      stack := fun time htime => ?_
      legacy := fun time htime => ?_
      start_le := h.start_le
      counts := ⟨hcounts.self, hcounts.inclusive, hcounts.legacySelf, hcounts.legacyTicks⟩ }
  · rw [List.filterMap_append, List.length_append, ← h.serial]
    exact hnext
  · obtain hmem | hmem := List.mem_append.mp hmem
    · exact Nat.le_trans (h.left token now' hmem) (hnext ▸ Nat.le_succ _)
    · cases List.mem_singleton.mp hmem
  · dsimp only at htime ⊢
    rw [openAt_append_enter (hlast ▸ htime) (h.serial ▸ h.left), List.map_append, List.map_append,
      h.stack time htime]
    refine congrArg _ (congrArg (fun label => [label]) (Prod.ext rfl ?_))
    exact hnext.trans (congrArg (· + 1) h.serial)
  · rw [← h.legacy time htime]
    unfold legacyAt
    rw [List.filterMap_append]
    exact congrArg (fun values => values.getLast?.getD false) (List.append_nil _)

theorem openAt_sorted (calls : List Call) (time : ℕ) :
    ((openAt calls time).map Scope.label).Pairwise fun a b => a.2 < b.2 :=
  List.pairwise_map.mpr ((entered_sorted calls).filter _)

theorem filter_of_last {front : List (ℕ × ℕ)} {last : ℕ × ℕ}
    (h : (front ++ [last]).Pairwise fun a b => a.2 < b.2) :
    (front ++ [last]).filter (fun label => last.2 ≠ label.2) = front := by
  obtain ⟨-, -, hlt⟩ := List.pairwise_append.mp h
  rw [List.filter_append, List.filter_eq_self.mpr fun label hmem => ?_]
  · simp
  · exact decide_eq_true (hlt label hmem last (List.mem_singleton.mpr rfl)).ne'

theorem Exact.leave (h : Exact calls l) (hlast : l.last = now) {entry : Entry}
    (htop : l.stack.getLast? = some entry) {events : UInt64} :
    Exact (calls ++ [.leave entry.token now])
      { l with stack := l.stack.dropLast, row := { l.row with events := events } } := by
  have hcounts : Counts (calls ++ [.leave entry.token now]) l.row l.last.toNat :=
    h.counts.append (by rw [hlast]; rfl)
  have hsplit : l.stack = l.stack.dropLast ++ [entry] :=
    (List.dropLast_append_getLast? entry htop).symm
  have hlabels := congrArg (List.map Entry.label) hsplit
  rw [List.map_append, List.map_singleton] at hlabels
  refine
    { serial := ?_
      left := fun token now' hmem => ?_
      stack := fun time htime => ?_
      legacy := fun time htime => ?_
      start_le := h.start_le
      counts := ⟨hcounts.self, hcounts.inclusive, hcounts.legacySelf, hcounts.legacyTicks⟩ }
  · rw [List.filterMap_append]
    exact h.serial.trans (congrArg List.length (List.append_nil _)).symm
  · obtain hmem | hmem := List.mem_append.mp hmem
    · exact h.left token now' hmem
    · cases List.mem_singleton.mp hmem
      -- The entry is of a scope that was entered.
      have hopen := h.stack l.last.toNat (Nat.le_refl _)
      have hlabel : entry.label ∈ (openAt calls l.last.toNat).map Scope.label := by
        rw [← hopen, hlabels]
        exact List.mem_append_right _ (List.mem_singleton.mpr rfl)
      obtain ⟨scope, hscope, heq⟩ := List.mem_map.mp hlabel
      have hle := (token_of_mem_entered (List.mem_filter.mp hscope).1).2
      have htoken : scope.token = entry.token.toNat := congrArg Prod.snd heq
      exact htoken ▸ h.serial ▸ hle
  · dsimp only at htime ⊢
    have hopen := h.stack time htime
    have hsorted := openAt_sorted calls time
    rw [← hopen, hlabels] at hsorted
    have hfilter : ((openAt calls time).filter fun scope =>
        entry.token.toNat ≠ scope.token).map Scope.label =
          ((openAt calls time).map Scope.label).filter fun label => entry.label.2 ≠ label.2 := by
      rw [List.filter_map]
      rfl
    rw [openAt_append_leave (hlast ▸ htime), hfilter, ← hopen, hlabels]
    exact (filter_of_last hsorted).symm
  · rw [← h.legacy time htime]
    unfold legacyAt
    rw [List.filterMap_append]
    exact congrArg (fun values => values.getLast?.getD false) (List.append_nil _)

theorem Exact.setLegacy (h : Exact calls l) (hlast : l.last = now) (value : Bool) :
    Exact (calls ++ [.legacy value now]) { l with insideLegacy := value } := by
  refine
    { serial := ?_
      left := fun token now' hmem => ?_
      stack := fun time htime => ?_
      legacy := fun time htime => ?_
      start_le := h.start_le
      counts := h.counts.append (by rw [hlast]; rfl) }
  · rw [List.filterMap_append]
    exact h.serial.trans (congrArg List.length (List.append_nil _)).symm
  · obtain hmem | hmem := List.mem_append.mp hmem
    · exact h.left token now' hmem
    · cases List.mem_singleton.mp hmem
  · rw [openAt_append_of_plain rfl fun _ _ => rfl]
    exact h.stack time htime
  · have hset : (Call.legacy value now).setsLegacy time = some value := if_pos (hlast ▸ htime)
    unfold legacyAt
    rw [List.filterMap_append, List.filterMap_cons_some hset, List.filterMap_nil, List.getLast?_concat]
    rfl

theorem Exact.cut (h : Exact calls l) (hlast : l.last = now) {faults : UInt32} :
    Exact (calls ++ [.cut now]) { l with row := { start := now, faults := faults } } := by
  have hplain : Exact (calls ++ [.cut now]) l :=
    h.plain hlast rfl (fun _ _ _ => rfl) (fun _ => rfl) fun _ _ hcall => by cases hcall
  exact
    { hplain with
      start_le := by rw [hlast]
      counts := .of_zero (by rw [hlast]) (fun _ => rfl) (fun _ => rfl) (fun _ => rfl) rfl }

/-! ## Runs -/

theorem faulted_step {t : Timeline} {call : Call} (hle : t.ledger.last ≤ call.now)
    (h : (step t call).ledger.faulted = false) : t.ledger.faulted = false := by
  have hadvance : (t.ledger.advance call.now).faulted = t.ledger.faulted :=
    (Ledger.advance_frame hle).2.2.2
  cases call with
  | enter id now =>
    unfold step Ledger.enter at h
    dsimp only at h
    split at h
    · cases h
    · exact hadvance.symm.trans h
  | leave token now =>
    unfold step Ledger.leave at h
    dsimp only at h
    split at h
    · exact h
    · split at h
      · cases h
      · exact hadvance.symm.trans h
  | legacy value now => exact hadvance.symm.trans h
  | advance now => exact hadvance.symm.trans h
  | cut now => exact hadvance.symm.trans h

theorem last_le {call : Call} (htimed : Timed (calls ++ [call])) :
    (run calls).ledger.last ≤ call.now := by
  obtain ⟨hbefore, -, hle⟩ := htimed.append
  obtain hzero | ⟨before, hmem, hnow⟩ := (whole_run hbefore).last
  · exact hzero ▸ UInt64.zero_le
  · exact hnow ▸ hle before hmem

theorem Exact.step {t : Timeline} {call : Call} (h : Exact calls t.ledger)
    (hle : t.ledger.last ≤ call.now) (hfault : (step t call).ledger.faulted = false) :
    Exact (calls ++ [call]) (step t call).ledger := by
  have hlast := Ledger.last_advance hle
  have hadvance := h.advance (faulted_step hle hfault) hle
  cases call with
  | enter id now =>
    unfold FrameTimeline.step Ledger.enter at hfault ⊢
    dsimp only at hfault ⊢
    split at hfault
    · cases hfault
    · rename_i hguard
      rw [dif_neg hguard]
      exact hadvance.enter hlast _ fun hserial => hguard (.inr (.inr (.inr hserial)))
  | leave token now =>
    unfold FrameTimeline.step Ledger.leave at hfault ⊢
    dsimp only at hfault ⊢
    split at hfault
    · rename_i hzero
      rw [if_pos hzero, hzero]
      exact h.ignored hle
    · rename_i hzero
      rw [if_neg hzero]
      split at hfault
      · cases hfault
      · rename_i htop
        rw [if_neg htop]
        cases hget : (t.ledger.advance now).stack.getLast? with
        | none =>
          rw [hget] at htop
          exact absurd rfl htop
        | some entry =>
          rw [hget, Option.all_some, decide_eq_true_eq, not_not] at htop
          rw [← htop]
          exact hadvance.leave hlast hget
  | legacy value now => exact hadvance.setLegacy hlast value
  | advance now =>
    exact hadvance.plain hlast rfl (fun _ _ _ => rfl) (fun _ => rfl) fun _ _ hcall => by cases hcall
  | cut now => exact hadvance.cut hlast

theorem exact_run (htimed : Timed calls) (hfault : (run calls).ledger.faulted = false) :
    Exact calls (run calls).ledger := by
  induction calls using List.reverseRecOn with
  | nil =>
    exact
      { serial := rfl
        left := fun _ _ hmem => by cases hmem
        stack := fun _ _ => rfl
        legacy := fun _ _ => rfl
        start_le := Nat.le_refl _
        counts := .of_zero rfl (fun _ => rfl) (fun _ => rfl) (fun _ => rfl) rfl }
  | append_singleton calls call ih =>
    have hle := last_le htimed
    rw [run_append] at hfault ⊢
    exact (ih htimed.append.1 (faulted_step hle hfault)).step hle hfault

def sliceAt (calls : List Call) (now : UInt64) : Slice := ((run calls).ledger.cut now).1

/-- Slices follow one another without a gap and give each of their ticks to one bucket. As long as there
was no fault, a slice has the ticks in which each bucket had the innermost scope, those in which it had an
open scope, and those of legacy sections. -/
theorem slices_exact :
    (∀ calls : List Call, Timed calls →
      (run calls).slices.IsChain (fun a b => a.stop = b.start) ∧
        ∀ s ∈ (run calls).slices, s.start ≤ s.stop ∧
          ∑ bucket, (s.self bucket).toNat = s.stop.toNat - s.start.toNat) ∧
    (∀ (calls : List Call) (now : UInt64), Timed (calls ++ [.cut now]) →
      (run calls).ledger.faulted = false →
      let s := sliceAt calls now
      let stop := s.stop.toNat
      let start := s.start.toNat
      (run (calls ++ [.cut now])).slices = (run calls).slices ++ [s] ∧ s.stop = now ∧
      (∀ bucket : Bucket,
        (s.self bucket).toNat =
          amount (fun time => innermostAt calls time = bucket.val) start stop ∧
        (s.inclusive bucket).toNat =
          amount (fun time => insideAt calls time bucket.val) start stop ∧
        (s.legacySelf bucket).toNat =
          amount (fun time => innermostAt calls time = bucket.val ∧ legacyAt calls time = true)
            start stop) ∧
      s.legacyTicks.toNat = amount (fun time => legacyAt calls time = true) start stop) := by
  constructor
  · intro calls htimed
    have h := whole_run htimed
    exact ⟨h.chain, fun s hs => ⟨(h.slices s hs).start_le, (h.slices s hs).sum⟩⟩
  · intro calls now htimed hfault
    have hle := last_le htimed
    have hadvance := (exact_run htimed.append.1 hfault).advance hfault hle
    have hlast := Ledger.last_advance hle
    have hcounts := hadvance.counts
    rw [hlast] at hcounts
    refine ⟨by rw [run_append]; rfl, rfl, fun bucket => ?_, hcounts.legacyTicks⟩
    exact ⟨hcounts.self bucket, hcounts.inclusive bucket, hcounts.legacySelf bucket⟩

/-- Two buckets, the first of them entered again in a legacy section. -/
def sampleCalls : List Call :=
  [.enter 3 10, .enter 5 20, .leave 2 35, .legacy true 40, .enter 3 45, .leave 3 50, .leave 1 60]

/-- The slice of these calls has the amounts of its ticks, and it is full. -/
theorem slices_exact_sample :
    (amount (fun time => innermostAt sampleCalls time = 3) 10 70 = 35 ∧
      amount (fun time => insideAt sampleCalls time 3) 10 70 = 50 ∧
      amount (fun time => innermostAt sampleCalls time = 3 ∧ legacyAt sampleCalls time = true)
        10 70 = 20) ∧
    ∀ s ∈ (run (sampleCalls ++ [.cut 70])).slices,
      ∑ bucket, (s.self bucket).toNat = s.stop.toNat - s.start.toNat := by
  have htimed : Timed (sampleCalls ++ [.cut 70]) := ⟨by decide, by decide⟩
  have hcut := (slices_exact.2 sampleCalls 70 htimed (by decide +kernel)).2.2.1 3
  have hself : ((sliceAt sampleCalls 70).self 3).toNat = 35 := by decide +kernel
  have hinclusive : ((sliceAt sampleCalls 70).inclusive 3).toNat = 50 := by decide +kernel
  have hlegacySelf : ((sliceAt sampleCalls 70).legacySelf 3).toNat = 20 := by decide +kernel
  refine ⟨⟨?_, ?_, ?_⟩, fun s hs => ((slices_exact.1 _ htimed).2 s hs).2⟩
  · exact hcut.1.symm.trans hself
  · exact hcut.2.1.symm.trans hinclusive
  · exact hcut.2.2.symm.trans hlegacySelf

end War3VK.Tools.FrameTimeline
