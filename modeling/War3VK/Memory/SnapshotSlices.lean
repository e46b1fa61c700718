import Mathlib
import War3VK.Lib.Machine

/-!
# Snapshot slices

The bounded table of the slices of a page (`src/d3d9/war3/memory/war3_snapshot_slice.h`). A slice is
claimed with one reference and is free again when the last one is dropped. `findHole` sweeps over the
live slices in the order of their offsets, and remembers a request that failed until the table
changes. Offsets and sizes are numbers here: `claim` and `findHole` refuse what would outgrow their
64 bits. The revision is a number too, since no page lives to see 2^64 claims.
-/

namespace War3VK.Memory.SnapshotSlices

open Lib

/-! ## The table -/

/-- `SnapshotSlice`. -/
structure SnapshotSlice where
  refs : UInt32 := 0
  available : Bool := true
  offset : ℕ := 0
  size : ℕ := 0
  deriving DecidableEq, Repr

/-- `SnapshotSliceTable`. -/
structure SnapshotSliceTable (Slots : ℕ) where
  slots : Fin Slots → SnapshotSlice := fun _ => {}
  hint : ℕ := 0
  revision : ℕ := 0
  failedRevision : ℕ := 0
  failedCapacity : ℕ := 0
  failedBytes : ℕ := 0

variable {Slots : ℕ}

namespace SnapshotSliceTable

/-- The slots in the order in which `claim` looks at them. -/
def order (table : SnapshotSliceTable Slots) : List (Fin Slots) :=
  (List.finRange Slots).map fun (n : Fin Slots) => ⟨(table.hint + n) % Slots, Nat.mod_lt _ n.pos⟩

/-- `claim`, with whether the owner is not null. -/
def claim (owner : Bool) (offset size : ℕ) (table : SnapshotSliceTable Slots) :
    Option (Fin Slots) × SnapshotSliceTable Slots :=
  if !owner || size = 0 || offset > 2 ^ 64 - 1 - size then (none, table)
  else
    match table.order.find? fun i => (table.slots i).available with
    | none => (none, table)
    | some i =>
      (some i, { table with
        slots := Function.update table.slots i { refs := 1, available := false, offset, size }
        revision := table.revision + 1
        hint := (i + 1) % Slots })

/-- `incRef`. -/
def incRef (i : Fin Slots) (table : SnapshotSliceTable Slots) : SnapshotSliceTable Slots :=
  let slice := table.slots i
  { table with slots := Function.update table.slots i { slice with refs := slice.refs + 1 } }

/-- `decRef`. -/
def decRef (i : Fin Slots) (table : SnapshotSliceTable Slots) : SnapshotSliceTable Slots :=
  let slice := { table.slots i with refs := (table.slots i).refs - 1 }
  if (table.slots i).refs ≠ 1 then { table with slots := Function.update table.slots i slice }
  else
    { table with
      slots := Function.update table.slots i { slice with available := true }
      revision := table.revision + 1 }

/-- `Span`. -/
structure Span where
  /-- `begin`. -/
  first : ℕ
  /-- `end`. -/
  last : ℕ
  deriving DecidableEq, Repr

def live (table : SnapshotSliceTable Slots) : List (Fin Slots) :=
  (List.finRange Slots).filter fun i => !(table.slots i).available

def span (table : SnapshotSliceTable Slots) (i : Fin Slots) : Span :=
  ⟨(table.slots i).offset, (table.slots i).offset + (table.slots i).size⟩

def spans (table : SnapshotSliceTable Slots) : List Span :=
  (table.live.map table.span).insertionSort fun a b => a.first ≤ b.first

def within (capacity : ℕ) (table : SnapshotSliceTable Slots) (i : Fin Slots) : Bool :=
  (table.slots i).offset ≤ capacity && (table.slots i).size ≤ capacity - (table.slots i).offset

/-- The sweep of `findHole`. -/
def sweep (capacity bytes : ℕ) : ℕ → List Span → Option ℕ
  | cursor, [] => if cursor ≤ capacity && bytes ≤ capacity - cursor then some cursor else none
  | cursor, span :: rest =>
    if span.first ≥ cursor && bytes ≤ span.first - cursor then some cursor
    else sweep capacity bytes (max cursor span.last) rest

def knownToFail (capacity bytes : ℕ) (table : SnapshotSliceTable Slots) : Bool :=
  table.failedBytes ≠ 0 && table.failedRevision = table.revision &&
    table.failedCapacity = capacity && bytes ≥ table.failedBytes

/-- `findHole`, with the offset that it found. -/
def findHole (capacity bytes : ℕ) (table : SnapshotSliceTable Slots) :
    Option ℕ × SnapshotSliceTable Slots :=
  if bytes = 0 || bytes > capacity then (none, table)
  else if table.knownToFail capacity bytes then (none, table)
  else if !table.live.all (table.within capacity) then (none, table)
  else
    match sweep capacity bytes 0 table.spans with
    | some offset => (some offset, table)
    | none =>
      (none, { table with
        failedRevision := table.revision
        failedCapacity := capacity
        failedBytes := bytes })

end SnapshotSliceTable

/-! ## Runs -/

inductive Call (Slots : ℕ)
  | claim (owner : Bool) (offset size : ℕ)
  | incRef (i : Fin Slots)
  | decRef (i : Fin Slots)
  | findHole (capacity bytes : ℕ)
  deriving DecidableEq, Repr

inductive Outcome (Slots : ℕ)
  | slot (claimed : Option (Fin Slots))
  | done
  | hole (offset : Option ℕ)
  deriving DecidableEq, Repr

def step (call : Call Slots) (table : SnapshotSliceTable Slots) :
    Outcome Slots × SnapshotSliceTable Slots :=
  match call with
  | .claim owner offset size => (table.claim owner offset size).map .slot id
  | .incRef i => (.done, table.incRef i)
  | .decRef i => (.done, table.decRef i)
  | .findHole capacity bytes => (table.findHole capacity bytes).map .hole id

abbrev Happened (Slots : ℕ) := Record (SnapshotSliceTable Slots) (Call Slots) (Outcome Slots)

/-! ## What a search is for -/

def Live (table : SnapshotSliceTable Slots) (i : Fin Slots) : Prop :=
  (table.slots i).available = false

def slice (table : SnapshotSliceTable Slots) (i : Fin Slots) : Set ℕ :=
  Set.Ico (table.slots i).offset ((table.slots i).offset + (table.slots i).size)

/-- The bytes from an offset on are inside the capacity and in no live slice. -/
def IsHole (capacity bytes : ℕ) (table : SnapshotSliceTable Slots) (offset : ℕ) : Prop :=
  offset + bytes ≤ capacity ∧
    ∀ i, Live table i → Disjoint (Set.Ico offset (offset + bytes)) (slice table i)

end War3VK.Memory.SnapshotSlices

/-!
## What a search of the slice table finds

The sweep keeps one thing true of its cursor: no hole starts before it (`sweep_spec`). What is
remembered of a search that failed stays true until the table changes, since the revision counts the
changes (`Sound`).
-/

namespace War3VK.Memory.SnapshotSlices

open Lib SnapshotSliceTable

variable {Slots : ℕ}

/-! ### The sweep -/

theorem disjoint_Ico {a b c d : ℕ} (hab : a < b) (hcd : c < d) :
    Disjoint (Set.Ico a b) (Set.Ico c d) ↔ b ≤ c ∨ d ≤ a := by
  rw [Set.Ico_disjoint_Ico]
  omega

def Fits (capacity bytes : ℕ) (spans : List Span) (offset : ℕ) : Prop :=
  offset + bytes ≤ capacity ∧ ∀ span ∈ spans, offset + bytes ≤ span.first ∨ span.last ≤ offset

variable {capacity bytes : ℕ}

theorem fits_cons {offset : ℕ} {span : Span} {spans : List Span} :
    Fits capacity bytes (span :: spans) offset ↔
      (offset + bytes ≤ span.first ∨ span.last ≤ offset) ∧ Fits capacity bytes spans offset := by
  rw [Fits, Fits, List.forall_mem_cons]
  exact and_left_comm

theorem sweep_spec {spans : List Span} (cursor : ℕ) (hbytes : 0 < bytes)
    (hsorted : spans.Pairwise fun a b => a.first ≤ b.first)
    (hspans : ∀ span ∈ spans, span.first < span.last ∧ span.last ≤ capacity) :
    (∀ offset, sweep capacity bytes cursor spans = some offset →
        IsLeast { o | cursor ≤ o ∧ Fits capacity bytes spans o } offset) ∧
      (sweep capacity bytes cursor spans = none → ∀ o, cursor ≤ o → ¬ Fits capacity bytes spans o) := by
  induction spans generalizing cursor with
  | nil =>
    by_cases hroom : (cursor ≤ capacity && bytes ≤ capacity - cursor) = true
    · rw [sweep, if_pos hroom]
      simp only [Bool.and_eq_true, decide_eq_true_eq] at hroom
      refine ⟨fun offset hoffset => ?_, nofun⟩
      obtain rfl := Option.some.inj hoffset
      exact ⟨⟨le_refl _, by omega, by simp⟩, fun o ho => ho.1⟩
    · rw [sweep, if_neg hroom]
      simp only [Bool.and_eq_true, decide_eq_true_eq] at hroom
      refine ⟨nofun, fun _ o ho hfits => ?_⟩
      have hend := hfits.1
      omega
  | cons span rest ih =>
    obtain ⟨hfirst, hsorted⟩ := List.pairwise_cons.mp hsorted
    obtain ⟨⟨hspan, hcapacity⟩, hrest⟩ := List.forall_mem_cons.mp hspans
    by_cases hgap : (span.first ≥ cursor && bytes ≤ span.first - cursor) = true
    · -- The gap before the span is wide enough, and every later span starts behind it.
      rw [sweep, if_pos hgap]
      simp only [ge_iff_le, Bool.and_eq_true, decide_eq_true_eq] at hgap
      refine ⟨fun offset hoffset => ?_, nofun⟩
      obtain rfl := Option.some.inj hoffset
      refine ⟨⟨le_refl _, by omega, fun later hlater => .inl ?_⟩, fun o ho => ho.1⟩
      obtain rfl | hlater := List.mem_cons.mp hlater
      · omega
      · have hle := hfirst later hlater
        omega
    · -- No request fits before the span, so nothing is missed behind it.
      rw [sweep, if_neg hgap]
      simp only [ge_iff_le, Bool.and_eq_true, decide_eq_true_eq] at hgap
      have hskip : ∀ o, cursor ≤ o ∧ Fits capacity bytes (span :: rest) o ↔
          max cursor span.last ≤ o ∧ Fits capacity bytes rest o := by
        intro o
        rw [fits_cons]
        constructor
        · rintro ⟨hcursor, hbeside, hfits⟩
          exact ⟨by omega, hfits⟩
        · rintro ⟨hcursor, hfits⟩
          exact ⟨by omega, by omega, hfits⟩
      obtain ⟨hsome, hnone⟩ := ih (max cursor span.last) hsorted hrest
      refine ⟨fun offset hoffset => ?_, fun hstop o hcursor hfits => ?_⟩
      · simp only [hskip]
        exact hsome offset hoffset
      · obtain ⟨hcursor', hfits'⟩ := (hskip o).mp ⟨hcursor, hfits⟩
        exact hnone hstop o hcursor' hfits'

/-! ### The table -/

variable {table table' : SnapshotSliceTable Slots}

structure Sound (table : SnapshotSliceTable Slots) : Prop where
  size : ∀ i, Live table i → 0 < (table.slots i).size
  past : table.failedRevision ≤ table.revision
  /-- A request that is remembered to fail still fails while nothing has changed. -/
  failed : table.failedBytes ≠ 0 → table.failedRevision = table.revision →
    ∀ o, ¬ IsHole table.failedCapacity table.failedBytes table o

def Shrinks (table table' : SnapshotSliceTable Slots) : Prop :=
  ∀ i, Live table' i → Live table i ∧ (table'.slots i).offset = (table.slots i).offset ∧
    (table'.slots i).size = (table.slots i).size

theorem IsHole.shrink {o : ℕ} (h : IsHole capacity bytes table o)
    (hshrinks : Shrinks table table') : IsHole capacity bytes table' o := by
  refine ⟨h.1, fun i hi => ?_⟩
  obtain ⟨hlive, hoffset, hsize⟩ := hshrinks i hi
  have hdisjoint := h.2 i hlive
  rwa [slice, ← hoffset, ← hsize] at hdisjoint

theorem IsHole.mono {bytes' o : ℕ} (h : IsHole capacity bytes table o) (hle : bytes' ≤ bytes) :
    IsHole capacity bytes' table o :=
  ⟨by have := h.1; omega, fun i hi =>
    (h.2 i hi).mono_left (Set.Ico_subset_Ico_right (Nat.add_le_add_left hle o))⟩

theorem update_slots (i j : Fin Slots) (new : SnapshotSlice) :
    Function.update table.slots i new j = if j = i then new else table.slots j :=
  Function.update_apply _ _ _ _

theorem shrinks_of_refs {i : Fin Slots} {refs : UInt32}
    (h : table'.slots = Function.update table.slots i { table.slots i with refs := refs }) :
    Shrinks table table' ∧ Shrinks table' table := by
  have hsame : ∀ j, (table'.slots j).available = (table.slots j).available ∧
      (table'.slots j).offset = (table.slots j).offset ∧ (table'.slots j).size = (table.slots j).size := by
    intro j
    rw [h, update_slots]
    split
    · rename_i hj
      exact hj ▸ ⟨rfl, rfl, rfl⟩
    · exact ⟨rfl, rfl, rfl⟩
  refine ⟨fun j hj => ?_, fun j hj => ?_⟩
  · obtain ⟨havailable, hoffset, hsize⟩ := hsame j
    exact ⟨havailable.symm.trans hj, hoffset, hsize⟩
  · obtain ⟨havailable, hoffset, hsize⟩ := hsame j
    exact ⟨havailable.trans hj, hoffset.symm, hsize.symm⟩

theorem claim_spec (owner : Bool) (offset size : ℕ) (table : SnapshotSliceTable Slots) :
    table.claim owner offset size = (none, table) ∨ ∃ i, (table.slots i).available = true ∧ 0 < size ∧
        (table.claim owner offset size).1 = some i ∧
        (table.claim owner offset size).2.revision = table.revision + 1 ∧
        (table.claim owner offset size).2.failedRevision = table.failedRevision ∧
        (table.claim owner offset size).2.slots =
          Function.update table.slots i { refs := 1, available := false, offset, size } := by
  unfold SnapshotSliceTable.claim
  split
  · exact .inl rfl
  · rename_i htests
    simp only [Bool.or_eq_true, Bool.not_eq_true', decide_eq_true_eq, not_or] at htests
    split
    · exact .inl rfl
    · rename_i i hi
      have havailable := List.find?_some hi
      exact .inr ⟨i, havailable, Nat.pos_of_ne_zero htests.1.2, rfl, rfl, rfl, rfl⟩

theorem decRef_spec (i : Fin Slots) (table : SnapshotSliceTable Slots) :
    Shrinks table (table.decRef i) ∧ (table.decRef i).failedRevision = table.failedRevision ∧
      (table.decRef i).failedCapacity = table.failedCapacity ∧
      (table.decRef i).failedBytes = table.failedBytes ∧
        ((table.decRef i).revision = table.revision ∧ Shrinks (table.decRef i) table ∨
          (table.decRef i).revision = table.revision + 1) := by
  unfold SnapshotSliceTable.decRef
  dsimp only
  split
  · have hrefs := @shrinks_of_refs _ table
    obtain ⟨hshrinks, hback⟩ :=
      @hrefs { table with slots := _ } i ((table.slots i).refs - 1) rfl
    exact ⟨hshrinks, rfl, rfl, rfl, .inl ⟨rfl, hback⟩⟩
  · refine ⟨fun j hj => ?_, rfl, rfl, rfl, .inr rfl⟩
    unfold Live at hj
    dsimp only at hj
    rw [update_slots] at hj
    split at hj
    · cases hj
    · rename_i hne
      dsimp only
      rw [update_slots, if_neg hne]
      exact ⟨hj, rfl, rfl⟩

/-! ### A search -/

theorem mem_live {i : Fin Slots} : i ∈ table.live ↔ Live table i := by
  simp [SnapshotSliceTable.live, Live]

theorem isHole_iff_fits (hsize : ∀ i, Live table i → 0 < (table.slots i).size)
    (hbytes : 0 < bytes) (o : ℕ) :
    IsHole capacity bytes table o ↔ Fits capacity bytes table.spans o := by
  unfold IsHole Fits
  apply and_congr_right
  intro _
  constructor
  · intro h span hspan
    obtain ⟨i, hi, rfl⟩ := List.mem_map.mp ((List.mem_insertionSort _).mp hspan)
    rw [mem_live] at hi
    have hpos := hsize i hi
    exact (disjoint_Ico (Nat.lt_add_of_pos_right hbytes) (Nat.lt_add_of_pos_right hpos)).mp (h i hi)
  · intro h i hi
    have hpos := hsize i hi
    refine (disjoint_Ico (Nat.lt_add_of_pos_right hbytes) (Nat.lt_add_of_pos_right hpos)).mpr ?_
    exact h (table.span i)
      ((List.mem_insertionSort _).mpr (List.mem_map.mpr ⟨i, mem_live.mpr hi, rfl⟩))

theorem spans_sorted (table : SnapshotSliceTable Slots) :
    table.spans.Pairwise fun a b => a.first ≤ b.first := by
  have : IsTrans Span fun a b => a.first ≤ b.first := ⟨fun _ _ _ => Nat.le_trans⟩
  have : Std.Total fun a b : Span => a.first ≤ b.first := ⟨fun a b => Nat.le_total _ _⟩
  exact List.pairwise_insertionSort _ _

def Inside (capacity : ℕ) (table : SnapshotSliceTable Slots) : Prop :=
  ∀ i, Live table i → (table.slots i).offset + (table.slots i).size ≤ capacity

theorem all_within (hsize : ∀ i, Live table i → 0 < (table.slots i).size) (capacity : ℕ) :
    table.live.all (table.within capacity) = true ↔ Inside capacity table := by
  rw [List.all_eq_true]
  refine forall_congr' fun i => ?_
  rw [mem_live]
  refine forall_congr' fun hi => ?_
  have hpos := hsize i hi
  simp only [SnapshotSliceTable.within, Bool.and_eq_true, decide_eq_true_eq]
  omega

theorem sweep_live (h : Sound table) (hbytes : 0 < bytes) (hinside : Inside capacity table) :
    (∀ offset, sweep capacity bytes 0 table.spans = some offset →
        IsLeast { o | IsHole capacity bytes table o } offset) ∧
      (sweep capacity bytes 0 table.spans = none → ∀ o, ¬ IsHole capacity bytes table o) := by
  have hspans : ∀ span ∈ table.spans, span.first < span.last ∧ span.last ≤ capacity := by
    intro span hspan
    obtain ⟨i, hi, rfl⟩ := List.mem_map.mp ((List.mem_insertionSort _).mp hspan)
    have hpos := h.size i (mem_live.mp hi)
    exact ⟨Nat.lt_add_of_pos_right hpos, hinside i (mem_live.mp hi)⟩
  obtain ⟨hsome, hnone⟩ := sweep_spec 0 hbytes (spans_sorted table) hspans
  refine ⟨fun offset hoffset => ?_, fun hstop o => ?_⟩
  · have hleast := hsome offset hoffset
    simpa only [isHole_iff_fits h.size hbytes, Nat.zero_le, true_and] using hleast
  · rw [isHole_iff_fits h.size hbytes]
    exact hnone hstop o (Nat.zero_le o)

theorem findHole_spec (h : Sound table) (capacity bytes : ℕ) :
    (table.findHole capacity bytes).2.slots = table.slots ∧ Sound (table.findHole capacity bytes).2 ∧
      (∀ offset, (table.findHole capacity bytes).1 = some offset →
        IsLeast { o | IsHole capacity bytes table o } offset) ∧
        (0 < bytes → Inside capacity table → (table.findHole capacity bytes).1 = none →
          ∀ o, ¬ IsHole capacity bytes table o) := by
  unfold SnapshotSliceTable.findHole
  by_cases hrequest : (bytes = 0 || bytes > capacity) = true
  · rw [if_pos hrequest]
    refine ⟨rfl, h, nofun, fun hbytes _ _ o hhole => ?_⟩
    simp only [gt_iff_lt, Bool.or_eq_true, decide_eq_true_eq] at hrequest
    have hend := hhole.1
    omega
  rw [if_neg hrequest]
  simp only [gt_iff_lt, Bool.or_eq_true, decide_eq_true_eq, not_or, not_lt] at hrequest
  by_cases hknown : table.knownToFail capacity bytes = true
  · rw [if_pos hknown]
    refine ⟨rfl, h, nofun, fun _ _ _ o hhole => ?_⟩
    -- A hole for this request would be one for the smaller request that failed.
    simp only [SnapshotSliceTable.knownToFail, Bool.and_eq_true, decide_eq_true_eq] at hknown
    obtain ⟨⟨⟨hfailed, hrevision⟩, rfl⟩, hle⟩ := hknown
    exact h.failed hfailed hrevision o (hhole.mono hle)
  rw [if_neg hknown]
  by_cases hwithin : (!table.live.all (table.within capacity)) = true
  · rw [if_pos hwithin]
    refine ⟨rfl, h, nofun, fun _ hinside => ?_⟩
    rw [(all_within h.size capacity).mpr hinside] at hwithin
    cases hwithin
  rw [if_neg hwithin]
  rw [Bool.not_eq_true', Bool.not_eq_false] at hwithin
  have hinside := (all_within h.size capacity).mp hwithin
  obtain ⟨hsome, hnone⟩ := sweep_live h (Nat.pos_of_ne_zero hrequest.1) hinside
  cases hsweep : sweep capacity bytes 0 table.spans with
  | some offset =>
    refine ⟨rfl, h, fun offset' hoffset => ?_, nofun⟩
    exact hsome offset' (hsweep.trans hoffset)
  | none =>
    have hfails := hnone hsweep
    refine ⟨rfl, ⟨h.size, Nat.le_refl _, fun _ _ => hfails⟩, nofun, fun _ _ _ => hfails⟩

/-! ### Runs -/

def claims (r : Happened Slots) : Bool :=
  match r.output with
  | .slot (some _) => true
  | _ => false

/-- A search found an offset for so many bytes, and nothing was claimed since. -/
def Found (bytes offset : ℕ) (past : List (Happened Slots)) : Prop :=
  ∃ earlier r later capacity searched, past = earlier ++ r :: later ∧
    r.call = .findHole capacity searched ∧ r.output = .hole (some offset) ∧ bytes ≤ searched ∧
      ∀ r' ∈ later, claims r' = false

def Searched (past : List (Happened Slots)) : Prop :=
  ∀ before r after, past = before ++ r :: after → ∀ owner offset size i,
    r.call = .claim owner offset size → r.output = .slot (some i) → Found size offset before

def Apart (table : SnapshotSliceTable Slots) : Prop :=
  ∀ i j, i ≠ j → Live table i → Live table j → Disjoint (slice table i) (slice table j)

structure Kept (table : SnapshotSliceTable Slots) (past : List (Happened Slots)) : Prop where
  sound : Sound table
  found : ∀ bytes offset, Found bytes offset past → 0 < bytes →
    ∃ capacity, IsHole capacity bytes table offset
  apart : Searched past → Apart table

theorem Sound.shrink (h : Sound table) (hshrinks : Shrinks table table')
    (hfailed : table'.failedRevision = table.failedRevision ∧
      table'.failedCapacity = table.failedCapacity ∧ table'.failedBytes = table.failedBytes)
    (hrevision : table'.revision = table.revision ∧ Shrinks table' table ∨
      table'.revision = table.revision + 1) : Sound table' := by
  obtain ⟨hfailed, hcapacity, hbytes⟩ := hfailed
  have hpast := h.past
  refine ⟨fun i hi => ?_, ?_, fun hne hsame o hhole => ?_⟩
  · obtain ⟨hlive, -, hsize⟩ := hshrinks i hi
    exact hsize ▸ h.size i hlive
  · obtain ⟨hrevision, -⟩ | hrevision := hrevision
    · omega
    · omega
  · obtain ⟨hrevision, hback⟩ | hrevision := hrevision
    · rw [hcapacity, hbytes] at hhole
      exact h.failed (hbytes ▸ hne) (by omega) o (hhole.shrink hback)
    · omega

theorem Apart.shrink (h : Apart table) (hshrinks : Shrinks table table') : Apart table' := by
  intro i j hij hi hj
  obtain ⟨hi, hoffset, hsize⟩ := hshrinks i hi
  obtain ⟨hj, hoffset', hsize'⟩ := hshrinks j hj
  have hdisjoint := h i j hij hi hj
  rwa [slice, slice, ← hoffset, ← hsize, ← hoffset', ← hsize'] at hdisjoint

variable {past : List (Happened Slots)} {r : Happened Slots}

theorem Searched.before (h : Searched (past ++ [r])) : Searched past := by
  intro before r' after hsplit
  exact h before r' (after ++ [r]) (by rw [hsplit, List.append_assoc, List.cons_append])

theorem found_concat {offset : ℕ} (h : Found bytes offset (past ++ [r])) :
    claims r = false ∧ Found bytes offset past ∨
      ∃ capacity searched, r.call = .findHole capacity searched ∧ r.output = .hole (some offset) ∧
        bytes ≤ searched := by
  obtain ⟨earlier, r', later, capacity, searched, hsplit, hcall, houtput, hle, hlater⟩ := h
  cases later using List.reverseRecOn with
  | nil =>
    obtain ⟨rfl, rfl⟩ := (List.append_inj' hsplit rfl).imp_right List.singleton_inj.mp
    exact .inr ⟨capacity, searched, hcall, houtput, hle⟩
  | append_singleton later last =>
    rw [← List.cons_append, ← List.append_assoc] at hsplit
    obtain ⟨rfl, hlast⟩ := List.append_inj' hsplit rfl
    obtain rfl := List.singleton_inj.mp hlast
    rw [List.forall_mem_append] at hlater
    exact .inl ⟨hlater.2 _ (List.mem_singleton_self _),
      earlier, r', later, capacity, searched, rfl, hcall, houtput, hle, hlater.1⟩

theorem Kept.shrink (h : Kept table past) (hsound : Sound table')
    (hshrinks : Shrinks table table')
    (hfound : ∀ bytes offset capacity searched, r.call = .findHole capacity searched →
      r.output = .hole (some offset) → bytes ≤ searched → 0 < bytes →
        ∃ capacity, IsHole capacity bytes table' offset) : Kept table' (past ++ [r]) := by
  refine ⟨hsound, fun bytes offset hfinds hbytes => ?_,
    fun hsearched => (h.apart hsearched.before).shrink hshrinks⟩
  obtain ⟨-, hfinds⟩ | ⟨capacity, searched, hcall, houtput, hle⟩ := found_concat hfinds
  · obtain ⟨capacity, hhole⟩ := h.found bytes offset hfinds hbytes
    exact ⟨capacity, hhole.shrink hshrinks⟩
  · exact hfound bytes offset capacity searched hcall houtput hle hbytes

theorem Shrinks.refl (table : SnapshotSliceTable Slots) : Shrinks table table :=
  fun _ hi => ⟨hi, rfl, rfl⟩

theorem kept_claim (h : Kept table past) (owner : Bool) (offset size : ℕ) :
    Kept (step (.claim owner offset size) table).2
      (past ++ [record step table (.claim owner offset size)]) := by
  obtain hrefused | ⟨i, havailable, hpos, hslot, hrevision, hfailed, hslots⟩ :=
    claim_spec owner offset size table
  · simp only [step, record, hrefused]
    exact h.shrink h.sound (Shrinks.refl table) (by intros; contradiction)
  · simp only [step, record, Prod.map_fst, Prod.map_snd, hslot, id_eq]
    generalize (table.claim owner offset size).2 = table' at *
    have hother : ∀ j, j ≠ i → table'.slots j = table.slots j := by
      intro j hj
      rw [hslots, update_slots, if_neg hj]
    have hnew : table'.slots i = { refs := 1, available := false, offset, size } := by
      rw [hslots, update_slots, if_pos rfl]
    refine ⟨⟨fun j hj => ?_, ?_, fun _ hsame => ?_⟩, fun bytes offset' hfinds => ?_, fun hsearched => ?_⟩
    · by_cases hji : j = i
      · rw [hji, hnew]
        exact hpos
      · rw [Live, hother j hji] at hj
        rw [hother j hji]
        exact h.sound.size j hj
    · have hpast := h.sound.past
      omega
    · have hpast := h.sound.past
      omega
    · obtain ⟨hclaims, -⟩ | ⟨_, _, hcall, -⟩ := found_concat hfinds
      · cases hclaims
      · cases hcall
    · -- The new slice is in a hole, so it is apart from every other live slice.
      have hfinds := hsearched past _ [] rfl owner offset size i rfl rfl
      obtain ⟨capacity, hhole⟩ := h.found size offset hfinds hpos
      have hapart := h.apart hsearched.before
      have hbeside : ∀ j, j ≠ i → Live table' j → Disjoint (slice table' i) (slice table' j) := by
        intro j hj hlive
        rw [slice, slice, hnew, hother j hj]
        rw [Live, hother j hj] at hlive
        exact hhole.2 j hlive
      intro j k hjk hj hk
      by_cases hji : j = i
      · rw [hji]
        exact hbeside k (hji ▸ hjk.symm) hk
      · by_cases hki : k = i
        · rw [hki]
          exact (hbeside j hji hj).symm
        · rw [Live, hother j hji] at hj
          rw [Live, hother k hki] at hk
          rw [slice, slice, hother j hji, hother k hki]
          exact hapart j k hjk hj hk

theorem kept_step (h : Kept table past) (call : Call Slots) :
    Kept (step call table).2 (past ++ [record step table call]) := by
  cases call with
  | claim owner offset size => exact kept_claim h owner offset size
  | incRef i =>
    obtain ⟨hshrinks, hback⟩ := @shrinks_of_refs _ table (table.incRef i) i _ rfl
    exact h.shrink (h.sound.shrink hshrinks ⟨rfl, rfl, rfl⟩ (.inl ⟨rfl, hback⟩)) hshrinks nofun
  | decRef i =>
    obtain ⟨hshrinks, hfailed, hcapacity, hbytes, hrevision⟩ := decRef_spec i table
    exact h.shrink (h.sound.shrink hshrinks ⟨hfailed, hcapacity, hbytes⟩ hrevision) hshrinks nofun
  | findHole capacity bytes =>
    obtain ⟨hslots, hsound, hleast, -⟩ := findHole_spec h.sound capacity bytes
    have hshrinks : Shrinks table (table.findHole capacity bytes).2 :=
      fun i hi => ⟨by rwa [Live, hslots] at hi, by rw [hslots], by rw [hslots]⟩
    refine h.shrink hsound hshrinks fun bytes' offset capacity' searched hcall houtput hle _ => ?_
    simp only [record, step, Call.findHole.injEq] at hcall
    obtain ⟨-, rfl⟩ := hcall
    have houtput' : (table.findHole capacity bytes).1 = some offset := by
      simpa [record, step] using houtput
    exact ⟨capacity, ((hleast offset houtput').1.mono hle).shrink hshrinks⟩

theorem kept_run (calls : List (Call Slots)) :
    Kept (run step calls ({} : SnapshotSliceTable Slots)) (history step calls {}) := by
  refine @history_induction _ _ _ step Kept {} ⟨⟨nofun, Nat.le_refl _, fun h => absurd rfl h⟩, ?_,
    fun _ _ _ _ => nofun⟩ (fun _ _ call h => kept_step h call) calls
  rintro bytes offset ⟨earlier, r, later, _, _, hsplit, -⟩
  simp at hsplit

/-- What holds of everything that happened to a table, and of the table at the end. -/
structure HoleLaw (past : List (Happened Slots)) (last : SnapshotSliceTable Slots) : Prop where
  /-- A search for some bytes finds the lowest hole, and finds none only when there is none. -/
  exact : ∀ before r after, past = before ++ r :: after → ∀ capacity bytes,
    r.call = .findHole capacity bytes → 0 < bytes → Inside capacity r.before →
      ∃ found, r.output = .hole found ∧
        (found.isSome = true ↔ ∃ o, IsHole capacity bytes r.before o) ∧
          ∀ offset, found = some offset → IsLeast { o | IsHole capacity bytes r.before o } offset
  /-- Slices that were claimed where a search found a hole are disjoint. -/
  apart : Searched past → Apart last

/-- Searches are exact in every run, and slices that are claimed in what they found are disjoint. -/
theorem holeLaw_run (calls : List (Call Slots)) :
    HoleLaw (history step calls ({} : SnapshotSliceTable Slots)) (run step calls {}) where
  exact := by
    intro before r after hsplit capacity bytes hcall hbytes hinside
    obtain ⟨earlier, call, later, rfl, rfl, rfl, -⟩ := history_split step hsplit
    have hsound := (kept_run earlier).sound
    generalize run step earlier ({} : SnapshotSliceTable Slots) = table at *
    rw [record] at *
    dsimp only at hcall hinside ⊢
    subst hcall
    obtain ⟨-, -, hleast, hnone⟩ := findHole_spec hsound capacity bytes
    refine ⟨(table.findHole capacity bytes).1, rfl, ?_, hleast⟩
    cases hfound : (table.findHole capacity bytes).1 with
    | some offset => exact ⟨fun _ => ⟨offset, (hleast offset hfound).1⟩, fun _ => rfl⟩
    | none => exact ⟨(by intros; contradiction), fun hhole => absurd hhole.choose_spec (hnone hbytes hinside hfound _)⟩
  apart := (kept_run calls).apart

/-- A search for no bytes finds nothing, though the empty interval is inside the capacity and in no
live slice. -/
theorem empty_search : (({} : SnapshotSliceTable 1).findHole 4 0).1 = none ∧
    IsHole 4 0 ({} : SnapshotSliceTable 1) 0 :=
  ⟨rfl, by decide, nofun⟩

/-- A hole between two slices. -/
example : (history step [.claim true 0 4, .claim true 8 4, .findHole 16 4, .findHole 16 5]
    ({} : SnapshotSliceTable 2)).map Record.output =
      [.slot (some 0), .slot (some 1), .hole (some 4), .hole none] := by decide +kernel

end War3VK.Memory.SnapshotSlices
