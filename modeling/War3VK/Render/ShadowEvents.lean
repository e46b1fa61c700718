import Mathlib.Data.List.Nodup
import War3VK.Render.ShadowLifecycle

/-!
# Reading the history of tombstones

Threads publish tombstones, and one reader asks again and again for those after the last that it has
seen. A publisher takes its serial before the lock, so it can put its tombstone behind one with a
greater serial, where the reader no longer looks.
-/

namespace War3VK.Render.ShadowLifecycle

open Lib Registry

/-- The registry, the tombstones between their serial and the lock, and the reader. -/
structure Delivery where
  registry : Registry := {}
  /-- What is being published, in the order of the serials. -/
  inFlight : List Tombstone := []
  cursor : UInt64 := 0

namespace Delivery

inductive Event
  | prepare (t : Tombstone)
  | prepareStage (producerStage : Int16) (visibleFrameSerial : UInt64)
  | insert (n : ℕ)
  | poll
  | acknowledge (i : Identity) (visibleFrameSerial stagePolicyRevision : UInt64)
  | isTombstoned (i : Identity)
  | reset (mapEpoch : UInt64)
  | enableStage (producerStage : Int16)
  deriving DecidableEq

/-- What is seen of it: the tombstone that was put into the history, or what the reader was given. -/
inductive Output
  | inserted (t : Tombstone)
  | polled (historyOverflowed : Bool) (snapshot : List Tombstone)
  | done
  deriving DecidableEq

def begun (t : Tombstone) (d : Delivery) : Delivery :=
  match d.registry.prepare t with
  | (none, registry) => { d with registry }
  | (some t, registry) => { d with registry, inFlight := d.inFlight ++ [t] }

def advance (cursor : UInt64) (snapshot : List Tombstone) : UInt64 :=
  snapshot.foldl (fun c t => if c < t.eventSerial then t.eventSerial else c) cursor

/-- One event; a publisher that takes the lock is named by its place among those in flight. -/
def step (event : Event) (d : Delivery) : Output × Delivery :=
  match event with
  | .prepare t => (.done, d.begun t)
  | .prepareStage producerStage frame =>
    if producerStage < 0 then (.done, d)
    else
      let registry := d.registry.advanceRevision
      (.done, begun (stageTombstone producerStage frame registry.stagePolicyRevision)
        { d with registry })
  | .insert n =>
    match d.inFlight[n]? with
    | none => (.done, d)
    | some t =>
      (.inserted t, { d with registry := d.registry.insert t, inFlight := d.inFlight.eraseIdx n })
  | .poll =>
    let r := d.registry.snapshotAfter d.cursor
    (.polled r.1 r.2, { d with cursor := advance d.cursor r.2 })
  | .acknowledge i frame revision =>
    (.done, { d with registry := (d.registry.acknowledge i frame revision).2 })
  | .isTombstoned _ => (.done, d)
  | .reset mapEpoch => (.done, { d with registry := d.registry.reset mapEpoch })
  | .enableStage producerStage =>
    (.done, if producerStage < 0 then d
      else { d with registry := d.registry.enableStage producerStage })

/-! ## What was published and what was read -/

abbrev Happened := Record Delivery Event Output

def insertedTombstone (r : Happened) : Option Tombstone :=
  match r.output with
  | .inserted t => some t
  | _ => none

def snapshotOf (r : Happened) : List Tombstone :=
  match r.output with
  | .polled _ snapshot => snapshot
  | _ => []

def published (past : List Happened) : List Tombstone := past.filterMap insertedTombstone

def returned (past : List Happened) : List Tombstone := past.flatMap snapshotOf

/-- The reader was told that tombstones were forgotten, and this is one of them. -/
def Covers (r : Happened) (t : Tombstone) : Prop :=
  (∃ snapshot, r.output = .polled true snapshot) ∧ r.before.cursor < t.eventSerial ∧
    t.eventSerial < r.before.registry.firstRetainedSerial

/-- What a reader is promised: every tombstone that was published before it asks is given to it once,
or it is told that it was forgotten. -/
def Delivers (past : List Happened) : Prop :=
  (returned past).Pairwise (fun t u => t.eventSerial < u.eventSerial) ∧
    (∀ t ∈ returned past, t ∈ published past) ∧
    ∀ before p after, past = before ++ p :: after → p.call = .poll → ∀ t ∈ published before,
      (returned (before ++ [p])).count t = 1 ∨ ∃ r ∈ before ++ [p], Covers r t

/-- The publishers take the lock in the order of their serials, and serials are left. -/
def Ordered (event : Event) (d : Delivery) : Prop :=
  match event with
  | .prepare t => publishes t = true → d.registry.eventSerial ≠ 0xffffffffffffffff
  | .prepareStage producerStage _ =>
    0 ≤ producerStage → d.registry.eventSerial ≠ 0xffffffffffffffff
  | .insert n => ∀ t u, d.inFlight[n]? = some t → u ∈ d.inFlight → t.eventSerial ≤ u.eventSerial
  | _ => True

def AllOrdered (events : List Event) (d : Delivery) : Prop :=
  ∀ r ∈ history step events d, Ordered r.call r.before

/-! ## The history -/

variable {d : Delivery} {past : List Happened} {r : Happened}

theorem evict_eq (history : List Tombstone) (first : UInt64) : evict history first =
    (history.drop (history.length - kMaxTombstoneHistory),
      first + UInt64.ofNat (history.length - kMaxTombstoneHistory)) := by
  induction history generalizing first with
  | nil => simp [evict]
  | cons t rest ih =>
    rw [evict]
    split_ifs with hfull
    · have hcount : (t :: rest).length - kMaxTombstoneHistory =
          (rest.length - kMaxTombstoneHistory) + 1 := by
        rw [List.length_cons] at hfull ⊢
        omega
      rw [ih, hcount, List.drop_succ_cons, UInt64.ofNat_add, UInt64.add_comm (UInt64.ofNat _),
        ← UInt64.add_assoc]
      rfl
    · rw [Nat.sub_eq_zero_of_le (Nat.not_lt.mp hfull)]
      simp

@[simp] theorem insert_eventSerial (t : Tombstone) (s : Registry) :
    (s.insert t).eventSerial = s.eventSerial := rfl

theorem insert_history (t : Tombstone) (s : Registry) : (s.insert t).history =
    (s.history ++ [t]).drop ((s.history ++ [t]).length - kMaxTombstoneHistory) := by
  unfold Registry.insert
  rw [evict_eq]

theorem insert_firstRetainedSerial (t : Tombstone) (s : Registry) :
    (s.insert t).firstRetainedSerial = s.firstRetainedSerial +
      UInt64.ofNat ((s.history ++ [t]).length - kMaxTombstoneHistory) := by
  unfold Registry.insert
  rw [evict_eq]

structure Sound (d : Delivery) (past : List Happened) : Prop where
  serials : (published past).map (fun t => t.eventSerial.toNat) =
    List.range' 1 (published past).length
  inFlight : d.inFlight.map (fun t => t.eventSerial.toNat) =
    List.range' ((published past).length + 1) d.inFlight.length
  eventSerial : d.registry.eventSerial.toNat = (published past).length + d.inFlight.length
  history : d.registry.history =
    (published past).drop ((published past).length - kMaxTombstoneHistory)
  first : d.registry.firstRetainedSerial.toNat =
    (published past).length - kMaxTombstoneHistory + 1
  cursor : d.cursor.toNat ≤ (published past).length
  /-- It was given tombstones in the order of their serials. -/
  increasing : (returned past).Pairwise (fun t u => t.eventSerial < u.eventSerial)
  seen : ∀ t ∈ returned past, t ∈ published past ∧ t.eventSerial ≤ d.cursor
  /-- Those that it has seen were given to it, or it was told. -/
  complete : ∀ t ∈ published past, t.eventSerial ≤ d.cursor →
    t ∈ returned past ∨ ∃ r ∈ past, Covers r t

theorem published_concat (past : List Happened) (r : Happened) :
    published (past ++ [r]) = published past ++ (insertedTombstone r).toList :=
  filterMap_concat insertedTombstone past r

theorem returned_concat (past : List Happened) (r : Happened) :
    returned (past ++ [r]) = returned past ++ snapshotOf r := by
  simp [returned]

variable {t : Tombstone}

theorem covers_append (r : Happened) (h : ∃ r ∈ past, Covers r t) :
    ∃ r' ∈ past ++ [r], Covers r' t := by
  obtain ⟨r', hr', hcovers⟩ := h
  exact ⟨r', List.mem_append_left _ hr', hcovers⟩

theorem Sound.quiet (h : Sound d past) {d' : Delivery} (houtput : r.output = .done)
    (hhistory : d'.registry.history = d.registry.history)
    (hfirst : d'.registry.firstRetainedSerial = d.registry.firstRetainedSerial)
    (hcursor : d'.cursor = d.cursor)
    (hflight : d'.inFlight.map (fun t => t.eventSerial.toNat) =
      List.range' ((published past).length + 1) d'.inFlight.length)
    (hserial : d'.registry.eventSerial.toNat = (published past).length + d'.inFlight.length) :
    Sound d' (past ++ [r]) := by
  have hpublished : published (past ++ [r]) = published past := by
    rw [published_concat, insertedTombstone, houtput]
    exact List.append_nil _
  have hreturned : returned (past ++ [r]) = returned past := by
    rw [returned_concat, snapshotOf, houtput, List.append_nil]
  exact {
    serials := by rw [hpublished]; exact h.serials
    inFlight := by rw [hpublished]; exact hflight
    eventSerial := by rw [hpublished]; exact hserial
    history := by rw [hpublished, hhistory]; exact h.history
    first := by rw [hpublished, hfirst]; exact h.first
    cursor := by rw [hpublished, hcursor]; exact h.cursor
    increasing := by rw [hreturned]; exact h.increasing
    seen := by rw [hreturned, hpublished, hcursor]; exact h.seen
    complete := by
      rw [hreturned, hpublished, hcursor]
      exact fun t ht hseen => (h.complete t ht hseen).imp_right (covers_append r) }

theorem toNat_succ {n : UInt64} (h : n ≠ 0xffffffffffffffff) : (n + 1).toNat = n.toNat + 1 := by
  have hlt := UInt64.toNat_lt n
  have hne : n.toNat ≠ 0xffffffffffffffff := fun heq => h (UInt64.toNat_inj.mp heq)
  rw [UInt64.toNat_add]
  show (n.toNat + 1) % 2^64 = _
  omega

theorem Sound.begun (h : Sound d past) (t : Tombstone) (houtput : r.output = .done)
    (hleft : publishes t = true → d.registry.eventSerial ≠ 0xffffffffffffffff) :
    Sound (d.begun t) (past ++ [r]) := by
  unfold Delivery.begun prepare
  by_cases hpublishes : publishes t = true
  · rw [if_pos hpublishes]
    have hsucc := toNat_succ (hleft hpublishes)
    have hserial := h.eventSerial
    refine h.quiet houtput rfl rfl rfl ?_ ?_
    · -- It stands behind those that took theirs before it.
      show (d.inFlight ++ [d.registry.stamp t]).map _ = List.range' _ (d.inFlight ++ [_]).length
      rw [List.map_append, h.inFlight, List.length_append, List.length_singleton,
        List.range'_concat, List.map_singleton]
      congr 2
      show (d.registry.eventSerial + 1).toNat = _
      omega
    · show (d.registry.eventSerial + 1).toNat = _ + (d.inFlight ++ [_]).length
      rw [List.length_append, List.length_singleton]
      omega
  · rw [if_neg hpublishes]
    exact h.quiet houtput rfl rfl rfl h.inFlight h.eventSerial

theorem Sound.insert (h : Sound d past) {rest : List Tombstone} (hflight : d.inFlight = t :: rest)
    (houtput : r.output = .inserted t) :
    Sound { d with registry := d.registry.insert t, inFlight := rest } (past ++ [r]) := by
  have hpublished : published (past ++ [r]) = published past ++ [t] := by
    rw [published_concat, insertedTombstone, houtput]
    rfl
  have hreturned : returned (past ++ [r]) = returned past := by
    rw [returned_concat, snapshotOf, houtput, List.append_nil]
  have hserials := h.inFlight
  rw [hflight, List.map_cons, List.length_cons, List.range'_succ, List.cons.injEq] at hserials
  obtain ⟨hserial, hrest⟩ := hserials
  have hlength : (published past ++ [t]).length = (published past).length + 1 := by simp
  have hevent := h.eventSerial
  rw [hflight, List.length_cons] at hevent
  have hhistory : d.registry.history.length =
      (published past).length - ((published past).length - kMaxTombstoneHistory) := by
    rw [h.history, List.length_drop]
  have hexcess : (d.registry.history ++ [t]).length - kMaxTombstoneHistory =
      (published past).length + 1 - kMaxTombstoneHistory -
        ((published past).length - kMaxTombstoneHistory) := by
    rw [List.length_append, List.length_singleton, hhistory]
    omega
  exact {
    serials := by
      rw [hpublished, List.map_append, h.serials, hlength, List.range'_1_concat, List.map_singleton,
        hserial, Nat.add_comm 1]
    inFlight := by
      rw [hpublished, hlength]
      exact hrest
    eventSerial := by
      rw [hpublished, hlength]
      dsimp only [insert_eventSerial]
      omega
    history := by
      have hdrop : (published past).length - kMaxTombstoneHistory ≤ (published past).length :=
        Nat.sub_le _ _
      have hsum : (published past).length - kMaxTombstoneHistory +
          ((published past).length + 1 - kMaxTombstoneHistory -
            ((published past).length - kMaxTombstoneHistory)) =
          (published past).length + 1 - kMaxTombstoneHistory := by omega
      rw [hpublished, hlength]
      dsimp only
      rw [insert_history, hexcess, h.history, ← List.drop_append_of_le_length hdrop, List.drop_drop, hsum]
    first := by
      have hlt := UInt64.toNat_lt d.registry.eventSerial
      rw [hpublished, hlength]
      dsimp only
      rw [insert_firstRetainedSerial, hexcess, UInt64.toNat_add, h.first, UInt64.toNat_ofNat']
      unfold kMaxTombstoneHistory at *
      omega
    cursor := by
      rw [hpublished, hlength]
      exact Nat.le_succ_of_le h.cursor
    increasing := by rw [hreturned]; exact h.increasing
    seen := by
      rw [hreturned, hpublished]
      exact fun u hu => ⟨List.mem_append_left _ (h.seen u hu).1, (h.seen u hu).2⟩
    complete := by
      rw [hreturned, hpublished]
      intro u hu hseen
      rcases List.mem_append.mp hu with hu | hu
      · exact (h.complete u hu hseen).imp_right (covers_append r)
      · -- The reader has not seen so great a serial.
        rw [List.mem_singleton.mp hu, UInt64.le_iff_toNat_le, hserial] at hseen
        have hcursor := h.cursor
        dsimp only at hseen
        omega }

/-! ## Reading -/

theorem advance_mem (cursor : UInt64) (snapshot : List Tombstone) : cursor ≤ advance cursor snapshot ∧
    (∀ t ∈ snapshot, t.eventSerial ≤ advance cursor snapshot) ∧
    (advance cursor snapshot = cursor ∨ ∃ t ∈ snapshot, advance cursor snapshot = t.eventSerial) := by
  unfold advance
  induction snapshot generalizing cursor with
  | nil => exact ⟨UInt64.le_refl _, by simp, Or.inl rfl⟩
  | cons t rest ih =>
    rw [List.foldl_cons]
    obtain ⟨hge, hall, hone⟩ := ih (if cursor < t.eventSerial then t.eventSerial else cursor)
    split_ifs at hge hall hone ⊢ with hlt
    · refine ⟨UInt64.le_trans (UInt64.le_of_lt hlt) hge, List.forall_mem_cons.mpr ⟨hge, hall⟩, Or.inr ?_⟩
      rcases hone with hone | ⟨u, hu, hone⟩
      · exact ⟨t, List.mem_cons_self, hone⟩
      · exact ⟨u, List.mem_cons_of_mem _ hu, hone⟩
    · refine ⟨hge, List.forall_mem_cons.mpr ⟨UInt64.le_trans (UInt64.not_lt.mp hlt) hge, hall⟩, ?_⟩
      exact hone.imp_right fun ⟨u, hu, hone⟩ => ⟨u, List.mem_cons_of_mem _ hu, hone⟩

section

variable (h : Sound d past)
include h

theorem Sound.serial {n : ℕ} (ht : (published past)[n]? = some t) :
    t.eventSerial.toNat = n + 1 := by
  have hserials := congrArg (·[n]?) h.serials
  have hn := (List.getElem?_eq_some_iff.mp ht).1
  simp only [List.getElem?_map, ht, Option.map_some, List.getElem?_range' hn, Option.some.injEq] at hserials
  omega

theorem Sound.published_pairwise :
    (published past).Pairwise fun t u => t.eventSerial < u.eventSerial := by
  rw [List.pairwise_iff_getElem]
  intro i j hi hj hij
  rw [UInt64.lt_iff_toNat_lt, h.serial (List.getElem?_eq_getElem hi),
    h.serial (List.getElem?_eq_getElem hj)]
  omega

theorem Sound.forgotten (ht : t ∈ published past) :
    t ∈ d.registry.history ∨ t.eventSerial < d.registry.firstRetainedSerial ∧ d.registry.history ≠ [] := by
  obtain ⟨n, hn⟩ := List.mem_iff_getElem?.mp ht
  have hserial := h.serial hn
  have hlt := (List.getElem?_eq_some_iff.mp hn).1
  rw [h.history]
  rcases Nat.lt_or_ge n ((published past).length - kMaxTombstoneHistory) with hforgot | hkept
  · refine Or.inr ⟨?_, ?_⟩
    · rw [UInt64.lt_iff_toNat_lt, hserial, h.first]
      omega
    · unfold kMaxTombstoneHistory at *
      rw [Ne, List.drop_eq_nil_iff]
      omega
  · refine Or.inl (List.mem_iff_getElem?.mpr
      ⟨n - ((published past).length - kMaxTombstoneHistory), ?_⟩)
    rw [List.getElem?_drop, Nat.add_sub_cancel' hkept, hn]

theorem Sound.polled (ht : t ∈ published past) (hbefore : r.before = d) (houtput : r.output =
      .polled (d.registry.snapshotAfter d.cursor).1 (d.registry.snapshotAfter d.cursor).2) :
    t ∈ returned (past ++ [r]) ∨ ∃ r' ∈ past ++ [r], Covers r' t := by
  have hsnapshot : snapshotOf r = (d.registry.snapshotAfter d.cursor).2 := by
    unfold snapshotOf
    rw [houtput]
  rw [returned_concat, List.mem_append, hsnapshot]
  by_cases hseen : t.eventSerial ≤ d.cursor
  · exact (h.complete t ht hseen).imp Or.inl (covers_append r)
  · have hnew := UInt64.not_le.mp hseen
    rcases h.forgotten ht with hkept | ⟨hforgot, hsome⟩
    · exact Or.inl (Or.inr (List.mem_filter.mpr ⟨hkept, decide_eq_true hnew⟩))
    · -- The reader is told: its cursor stands before a number that is less than the first.
      have hnext : d.cursor + 1 < d.registry.firstRetainedSerial := by
        have hmost : d.cursor ≠ 0xffffffffffffffff := by
          intro hmost
          rw [hmost, UInt64.lt_iff_toNat_lt] at hnew
          have := UInt64.toNat_lt t.eventSerial
          change 2^64 - 1 < _ at hnew
          omega
        rw [UInt64.lt_iff_toNat_lt] at hnew hforgot ⊢
        rw [toNat_succ hmost]
        omega
      have hflag : (d.registry.snapshotAfter d.cursor).1 = true := by
        unfold snapshotAfter
        rw [decide_eq_true hnext, Bool.and_true, Bool.not_eq_true', List.isEmpty_eq_false_iff]
        exact hsome
      refine Or.inr ⟨r, List.mem_append_right _ (List.mem_singleton_self r),
        ⟨(d.registry.snapshotAfter d.cursor).2, ?_⟩, ?_, ?_⟩
      · rw [houtput, hflag]
      · rw [hbefore]
        exact hnew
      · rw [hbefore]
        exact hforgot

theorem Sound.poll (hbefore : r.before = d) (houtput : r.output =
      .polled (d.registry.snapshotAfter d.cursor).1 (d.registry.snapshotAfter d.cursor).2) :
    Sound { d with cursor := advance d.cursor (d.registry.snapshotAfter d.cursor).2 }
      (past ++ [r]) := by
  have hpublished : published (past ++ [r]) = published past := by
    rw [published_concat, insertedTombstone, houtput]
    exact List.append_nil _
  have hsnapshot : snapshotOf r = (d.registry.snapshotAfter d.cursor).2 := by
    unfold snapshotOf
    rw [houtput]
  obtain ⟨hge, hall, hone⟩ := advance_mem d.cursor (d.registry.snapshotAfter d.cursor).2
  have hkept : d.registry.history.Sublist (published past) := by
    rw [h.history]
    exact List.drop_sublist _ _
  have hgiven : (d.registry.snapshotAfter d.cursor).2.Sublist (published past) :=
    List.filter_sublist.trans hkept
  exact {
    serials := by rw [hpublished]; exact h.serials
    inFlight := by rw [hpublished]; exact h.inFlight
    eventSerial := by rw [hpublished]; exact h.eventSerial
    history := by rw [hpublished]; exact h.history
    first := by rw [hpublished]; exact h.first
    cursor := by
      rw [hpublished]
      dsimp only
      rcases hone with hone | ⟨t, ht, hone⟩
      · rw [hone]
        exact h.cursor
      · obtain ⟨n, hn⟩ := List.mem_iff_getElem?.mp (hgiven.subset ht)
        rw [hone, h.serial hn]
        exact (List.getElem?_eq_some_iff.mp hn).1
    increasing := by
      rw [returned_concat, hsnapshot, List.pairwise_append]
      refine ⟨h.increasing, h.published_pairwise.sublist hgiven, fun t ht u hu => ?_⟩
      -- What the reader had before is not after its cursor, and what it gets now is.
      exact UInt64.lt_of_le_of_lt (h.seen t ht).2 (of_decide_eq_true (List.mem_filter.mp hu).2)
    seen := by
      rw [returned_concat, hsnapshot, hpublished]
      intro t ht
      rcases List.mem_append.mp ht with ht | ht
      · exact ⟨(h.seen t ht).1, UInt64.le_trans (h.seen t ht).2 hge⟩
      · exact ⟨hgiven.subset ht, hall t ht⟩
    complete := by
      rw [hpublished]
      exact fun t ht _ => h.polled ht hbefore houtput }

/-! ## Every run -/

theorem Sound.first_of_least {n : ℕ} (ht : d.inFlight[n]? = some t)
    (hleast : ∀ u ∈ d.inFlight, t.eventSerial ≤ u.eventSerial) : n = 0 := by
  have hn := (List.getElem?_eq_some_iff.mp ht).1
  have hat : ∀ m (hm : m < d.inFlight.length),
      d.inFlight[m].eventSerial.toNat = (published past).length + 1 + m := by
    intro m hm
    have hserials := congrArg (·[m]?) h.inFlight
    simpa [List.getElem?_range', hm] using hserials
  have hpos : 0 < d.inFlight.length := by omega
  have hle := UInt64.le_iff_toNat_le.mp (hleast _ (List.getElem_mem hpos))
  rw [← (List.getElem?_eq_some_iff.mp ht).2, hat n hn, hat 0 hpos] at hle
  omega

theorem Sound.step {event : Event} (hordered : Ordered event d) (hbefore : r.before = d)
    (houtput : r.output = (step event d).1) : Sound (step event d).2 (past ++ [r]) := by
  unfold Delivery.step at houtput ⊢
  cases event with
  | prepare t => exact h.begun t houtput hordered
  | prepareStage stage frame =>
    dsimp only at houtput ⊢
    split_ifs at houtput ⊢ with hunknown
    · exact h.quiet houtput rfl rfl rfl h.inFlight h.eventSerial
    · -- A new policy leaves what the invariant speaks of.
      have hadvanced : Sound { d with registry := d.registry.advanceRevision } past :=
        ⟨h.serials, h.inFlight, h.eventSerial, h.history, h.first, h.cursor, h.increasing, h.seen,
          h.complete⟩
      dsimp only
      exact hadvanced.begun _ houtput fun _ => hordered (Int16.not_lt.mp hunknown)
  | insert n =>
    cases hflight : d.inFlight[n]? with
    | none =>
      simp only [hflight] at houtput ⊢
      exact h.quiet houtput rfl rfl rfl h.inFlight h.eventSerial
    | some t =>
      simp only [hflight] at houtput ⊢
      obtain rfl := h.first_of_least hflight fun u hu => hordered t u hflight hu
      obtain ⟨rest, hrest⟩ : ∃ rest, d.inFlight = t :: rest := by
        cases hlist : d.inFlight with
        | nil => simp [hlist] at hflight
        | cons u rest => exact ⟨rest, by simpa [hlist] using hflight⟩
      rw [hrest]
      exact h.insert hrest houtput
  | poll => exact h.poll hbefore houtput
  | acknowledge i frame revision =>
    have hleaves : ∀ s : Registry, (s.acknowledge i frame revision).2.history = s.history ∧
        (s.acknowledge i frame revision).2.firstRetainedSerial = s.firstRetainedSerial ∧
        (s.acknowledge i frame revision).2.eventSerial = s.eventSerial := by
      intro s
      unfold acknowledge
      split_ifs <;> exact ⟨rfl, rfl, rfl⟩
    obtain ⟨hhistory, hfirst, hserial⟩ := hleaves d.registry
    exact h.quiet houtput hhistory hfirst rfl h.inFlight (by rw [hserial]; exact h.eventSerial)
  | isTombstoned i => exact h.quiet houtput rfl rfl rfl h.inFlight h.eventSerial
  | reset mapEpoch =>
    dsimp only at houtput ⊢
    unfold reset
    split_ifs
    · exact h.quiet houtput rfl rfl rfl h.inFlight h.eventSerial
    · exact h.quiet houtput rfl rfl rfl h.inFlight h.eventSerial
  | enableStage stage =>
    dsimp only at houtput ⊢
    split_ifs
    · exact h.quiet houtput rfl rfl rfl h.inFlight h.eventSerial
    · exact h.quiet houtput rfl rfl rfl h.inFlight h.eventSerial

end

theorem sound_init : Sound {} [] where
  serials := rfl
  inFlight := rfl
  eventSerial := rfl
  history := rfl
  first := rfl
  cursor := Nat.le_refl _
  increasing := List.Pairwise.nil
  seen := by simp [returned]
  complete := by simp [published]

theorem sound_run {events : List Event} (h : AllOrdered events {}) :
    Sound (run Delivery.step events {}) (history Delivery.step events {}) :=
  history_induction_of Delivery.step sound_init
    (fun _ _ _ hsound hordered => hsound.step hordered rfl rfl) events h

/-- A reader is given every tombstone that was published, once and in the order of the serials, or is
told that it was forgotten, in every run in which the publishers take the lock in that order. -/
theorem delivered_once (events : List Event) (h : AllOrdered events {}) :
    Delivers (history Delivery.step events {}) := by
  have hsound := sound_run h
  refine ⟨hsound.increasing, fun t ht => (hsound.seen t ht).1, fun before p after hpast hpoll t ht => ?_⟩
  obtain ⟨earlier, event, later, rfl, rfl, rfl, -⟩ := history_split Delivery.step hpast
  obtain rfl : event = .poll := hpoll
  -- The runs to the question and past it are ordered too.
  have hordered := h
  unfold AllOrdered at hordered
  rw [hpast, List.forall_mem_append, List.forall_mem_cons] at hordered
  have hearlier := sound_run hordered.1
  have hlater := @Sound.step _ _ (record Delivery.step (run Delivery.step earlier {}) .poll) hearlier
    .poll hordered.2.1 rfl rfl
  refine (hearlier.polled ht rfl rfl).imp_left fun hreturned => ?_
  have hnodup : (returned (Lib.history Delivery.step earlier {} ++
      [record Delivery.step (run Delivery.step earlier {}) .poll])).Nodup := by
    refine hlater.increasing.imp fun {t u} hlt heq => ?_
    rw [heq] at hlt
    exact UInt64.lt_irrefl _ hlt
  exact List.count_eq_one_of_mem hnodup hreturned

/-- A publisher that takes the lock right after its serial. -/
theorem delivered_once_alone : Delivers (history Delivery.step
    [.prepare { identity := { unitPtr := 1 } }, .insert 0, .poll] {}) := by
  refine delivered_once _ fun r hr => ?_
  simp only [Lib.history, List.mem_cons, List.not_mem_nil, or_false] at hr
  rcases hr with rfl | rfl | rfl
  · intro _
    decide
  · intro t u ht hu
    obtain rfl := Option.some.inj ht
    rw [List.mem_singleton.mp hu]
    exact UInt64.le_refl _
  · trivial

def overtaken : List Event :=
  [.prepare { identity := { unitPtr := 1 } }, .prepare { identity := { unitPtr := 2 } }, .insert 1,
    .poll, .insert 0, .poll]

def tellsOverflow (r : Happened) : Bool :=
  match r.output with
  | .polled historyOverflowed _ => historyOverflowed
  | _ => false

/-- Its tombstone is never read, and the reader is never told. -/
theorem overtaken_lost : ¬∀ events, Delivers (history Delivery.step events {}) := by
  intro h
  have hlast := (h overtaken).2.2 (history Delivery.step (overtaken.take 5) {})
    (record Delivery.step (run Delivery.step (overtaken.take 5) {}) .poll) [] rfl rfl
    (Registry.stamp { identity := { unitPtr := 1 } } {}) (by decide +kernel)
  rcases hlast with hcount | ⟨r, hr, ⟨snapshot, houtput⟩, -⟩
  · revert hcount
    decide +kernel
  · have hquiet : (history Delivery.step overtaken {}).all (fun r => !tellsOverflow r) = true := by
      decide +kernel
    have hr' := List.all_eq_true.mp hquiet r hr
    simp [tellsOverflow, houtput] at hr'

end Delivery

end War3VK.Render.ShadowLifecycle
