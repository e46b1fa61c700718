import War3VK.Lib.Binary32
import War3VK.Lib.KeyOrder

/-!
# The queue of transparent entries

`FlushTransparent_StdSort` (`src/src/d3d9/war3/reimpl/war3_render_queue.cpp`): pointers to the entries
of an array are sorted by a comparison of seven keys and dispatched in that order. An entry is named by
its place in the array, which is also the order of the addresses. What `std::sort` does is a parameter
with its documented contract. Entries come from the memory of the game, with any contents.
-/

namespace War3VK.Render.TransparentQueue

open Lib (byKey inverted SortContract StrictTotalOn StrictWeakOn)
open Lib.Binary32 (isNaN)

/-- `AUCTransparentEntry`. -/
structure Entry where
  type : Int32
  sortKey : UInt32
  arg0 : UInt32
  payload : UInt32
  arg1 : Int32
  arg2 : Int32
deriving DecidableEq, Repr

/-- `RenderQueueFns`, as far as entries call it: which functions there are. -/
structure Fns where
  sub_13A0E0 : Bool
  sub_198C00 : Bool
  sub_19DFF0 : Bool
  sub_19BC20 : Bool
  sub_13A0B0 : Bool
  stageUpdate : Bool

inductive Call
  | sub_13A0E0 (ctx payload : UInt32)
  | sub_198C00 (payload : UInt32)
  | sub_19DFF0 (payload : UInt32)
  | sub_19BC20 (payload : UInt32)
  | sub_13A0B0 (payload : UInt32)
  | action (payload : UInt32) (arg1 arg2 : Int32)
  | stageUpdate (stage : UInt32)
deriving DecidableEq, Repr

/-- The `switch` on the type of an entry, and what follows it. `readWord` reads the game's memory. -/
def dispatchEntry (fns : Fns) (readWord : UInt32 → UInt32) (entry : Entry) : List Call :=
  (match entry.type.toInt with
    | 0 =>
      if entry.payload ≠ 0 ∧ fns.sub_13A0E0 then
        [.sub_13A0E0 (readWord (entry.payload + 20)) entry.payload]
      else []
    | 1 => if fns.sub_198C00 then [.sub_198C00 entry.payload] else []
    | 2 => if fns.sub_19DFF0 then [.sub_19DFF0 entry.payload] else []
    | 3 => if fns.sub_19BC20 then [.sub_19BC20 entry.payload] else []
    | 4 => if fns.sub_13A0B0 then [.sub_13A0B0 entry.payload] else []
    | 5 => if entry.payload ≠ 0 then [.action entry.payload entry.arg1 entry.arg2] else []
    | _ => []) ++ if fns.stageUpdate then [.stageUpdate 0] else []

/-- `transparentLess`, of two places in the array; their addresses are never null. -/
def transparentLess (entries : ℕ → Entry) (a b : ℕ) : Bool :=
  if a = b then false
  else if (entries a).sortKey ≠ (entries b).sortKey then (entries a).sortKey < (entries b).sortKey
  else if Lib.Binary32.ne (entries a).arg0 (entries b).arg0 then
    -- The greater depth comes first.
    Lib.Binary32.lt (entries b).arg0 (entries a).arg0
  else if (entries a).type ≠ (entries b).type then (entries a).type < (entries b).type
  else if (entries a).payload ≠ (entries b).payload then (entries a).payload < (entries b).payload
  else if (entries a).arg1 ≠ (entries b).arg1 then (entries a).arg1 < (entries b).arg1
  else if (entries a).arg2 ≠ (entries b).arg2 then (entries a).arg2 < (entries b).arg2
  else a < b

/-- `processCount`. -/
def processCount (count : ℕ) : ℕ := min count 10000

/-- `sortedPtrs` before the sort. -/
def sortedPtrs (count : ℕ) : List ℕ := List.range (processCount count)

/-- `needSort`. -/
def needSort (entries : ℕ → Entry) (count : ℕ) : Bool :=
  inverted (transparentLess entries) (sortedPtrs count)

/-- The order in which the entries are dispatched. `sort` is `std::sort`. -/
def dispatchOrder (sort : (ℕ → ℕ → Bool) → List ℕ → List ℕ) (entries : ℕ → Entry) (count : ℕ) :
    List ℕ :=
  if needSort entries count then sort (transparentLess entries) (sortedPtrs count)
  else sortedPtrs count

/-- `FlushTransparent_StdSort`: the calls that are made. -/
def flushTransparent (sort : (ℕ → ℕ → Bool) → List ℕ → List ℕ) (fns : Fns)
    (readWord : UInt32 → UInt32) (entries : ℕ → Entry) (count : ℕ) : List Call :=
  (dispatchOrder sort entries count).flatMap fun place => dispatchEntry fns readWord (entries place)

/-! ## The order -/

def byAllKeys (entries : ℕ → Entry) : ℕ → ℕ → Bool :=
  byKey (fun a => (entries a).sortKey.toNat) <|
    byKey (fun a => OrderDual.toDual (Lib.Binary32.key (entries a).arg0)) <|
      byKey (fun a => (entries a).type.toInt) <| byKey (fun a => (entries a).payload.toNat) <|
        byKey (fun a => (entries a).arg1.toInt) <| byKey (fun a => (entries a).arg2.toInt)
          fun a b => a < b

theorem strictTotalOn_byAllKeys (entries : ℕ → Entry) (l : List ℕ) :
    StrictTotalOn (byAllKeys entries) l := by
  have haddress : StrictTotalOn (fun a b : ℕ => decide (a < b)) l :=
    ⟨fun a _ => by simp, fun a _ b _ c _ hab hbc => by simp at *; omega, fun a _ b _ hne => by simp; omega⟩
  exact (((((haddress.byKey _).byKey _).byKey _).byKey _).byKey _).byKey _

def Comparable (entries : ℕ → Entry) (a b : ℕ) : Prop :=
  (entries a).sortKey = (entries b).sortKey →
    isNaN (entries a).arg0 = false ∧ isNaN (entries b).arg0 = false

theorem transparentLess_eq {entries : ℕ → Entry} {a b : ℕ} (h : a ≠ b → Comparable entries a b) :
    transparentLess entries a b = byAllKeys entries a b := by
  by_cases hab : a = b
  · rw [hab, (strictTotalOn_byAllKeys entries [b]).irrefl b (List.mem_singleton_self b)]
    exact if_pos rfl
  unfold transparentLess byAllKeys byKey
  rw [if_neg hab]
  simp only [ne_eq, UInt32.toNat_inj, Int32.toInt_inj, UInt32.lt_iff_toNat_lt,
    Int32.lt_iff_toInt_lt, OrderDual.toDual_inj, OrderDual.toDual_lt_toDual]
  by_cases hkey : (entries a).sortKey = (entries b).sortKey
  · obtain ⟨ha, hb⟩ := h hab hkey
    rw [if_neg (not_not_intro hkey), if_neg (not_not_intro hkey)]
    simp only [Lib.Binary32.ne_iff ha hb, ne_eq]
    by_cases hdepth : Lib.Binary32.key (entries a).arg0 = Lib.Binary32.key (entries b).arg0
    · rw [if_neg (not_not_intro hdepth), if_neg (not_not_intro hdepth)]
    · rw [if_pos hdepth, if_pos hdepth, Bool.eq_iff_iff, Lib.Binary32.lt_iff hb ha, decide_eq_true_eq]
  · rw [if_pos hkey, if_pos hkey]

theorem transparentLess_of_isNaN {entries : ℕ → Entry} {a b : ℕ} (hab : a ≠ b)
    (hkey : (entries a).sortKey = (entries b).sortKey)
    (hnan : isNaN (entries a).arg0 = true ∨ isNaN (entries b).arg0 = true) :
    transparentLess entries a b = false := by
  unfold transparentLess
  rw [if_neg hab, if_neg (not_not_intro hkey), if_pos (Lib.Binary32.ne_of_isNaN hnan)]
  exact Lib.Binary32.lt_of_isNaN hnan.symm

theorem strictTotalOn_iff (entries : ℕ → Entry) (l : List ℕ) :
    StrictTotalOn (transparentLess entries) l ↔ ∀ a ∈ l, ∀ b ∈ l, a ≠ b → Comparable entries a b := by
  constructor
  · intro h a ha b hb hab hkey
    by_contra hnumbers
    have hnan : isNaN (entries a).arg0 = true ∨ isNaN (entries b).arg0 = true := by
      simp only [not_and_or, Bool.not_eq_false] at hnumbers
      exact hnumbers
    rcases h.total a ha b hb hab with hless | hless
    · rw [transparentLess_of_isNaN hab hkey hnan] at hless
      cases hless
    · rw [transparentLess_of_isNaN hab.symm hkey.symm hnan.symm] at hless
      cases hless
  · intro h
    exact (strictTotalOn_byAllKeys entries l).congr fun a ha b hb => transparentLess_eq (h a ha b hb)

/-! ## The dispatch -/

/-- What the flush of an array is to be: the comparison is a strict total order on the entries, so
that the sort has what it asks for; it is left out only where they are in order; and every entry is
dispatched exactly once, in the one order that the comparison allows. -/
structure Lawful (sort : (ℕ → ℕ → Bool) → List ℕ → List ℕ) (entries : ℕ → Entry) (count : ℕ) :
    Prop where
  total : StrictTotalOn (transparentLess entries) (List.range count)
  weak : StrictWeakOn (transparentLess entries) (sortedPtrs count)
  /-- It is left out only where the entries are in order. -/
  skipped : needSort entries count = false →
    (sortedPtrs count).Pairwise fun a b => transparentLess entries a b = true
  once : (dispatchOrder sort entries count).Perm (List.range count)
  ordered : (dispatchOrder sort entries count).Pairwise fun a b => transparentLess entries a b = true
  only : ∀ order : List ℕ, order.Perm (List.range count) →
    order.Pairwise (fun a b => transparentLess entries a b = true) →
      order = dispatchOrder sort entries count

/-- Whatever sort keeps its promise, the flush is lawful exactly for arrays of at most 10000 entries
of which any two of one sort key have depths that are numbers. -/
theorem flush_lawful_iff (sort : (ℕ → ℕ → Bool) → List ℕ → List ℕ) (hsort : SortContract sort)
    (entries : ℕ → Entry) (count : ℕ) :
    Lawful sort entries count ↔ count ≤ 10000 ∧
      ∀ a < count, ∀ b < count, a ≠ b → (entries a).sortKey = (entries b).sortKey →
        isNaN (entries a).arg0 = false ∧ isNaN (entries b).arg0 = false := by
  have htotal := strictTotalOn_iff entries (List.range count)
  simp only [List.mem_range] at htotal
  constructor
  · intro h
    refine ⟨?_, htotal.mp h.total⟩
    -- No more than 10000 places are sorted, and a rearrangement has as many.
    have hlength := h.once.length_eq
    have hdispatched : (dispatchOrder sort entries count).length = processCount count := by
      unfold dispatchOrder
      split_ifs
      · rw [(hsort _ _ h.weak).1.length_eq, sortedPtrs, List.length_range]
      · rw [sortedPtrs, List.length_range]
    rw [hdispatched, List.length_range] at hlength
    unfold processCount at hlength
    omega
  · rintro ⟨hcount, hnumbers⟩
    have horder := htotal.mpr hnumbers
    have hptrs : sortedPtrs count = List.range count := by
      rw [sortedPtrs, processCount, Nat.min_eq_left hcount]
    have hweak : StrictWeakOn (transparentLess entries) (sortedPtrs count) := by
      rw [hptrs]
      exact horder.strictWeakOn
    have hskipped : needSort entries count = false →
        (sortedPtrs count).Pairwise fun a b => transparentLess entries a b = true := by
      unfold needSort
      rw [hptrs]
      exact horder.pairwise_of_not_inverted List.nodup_range
    have hdispatch : (dispatchOrder sort entries count).Perm (List.range count) ∧
        (dispatchOrder sort entries count).Pairwise
          fun a b => transparentLess entries a b = true := by
      unfold dispatchOrder
      by_cases hneed : needSort entries count = true
      · rw [if_pos hneed]
        obtain ⟨hperm, hsorted⟩ := hsort _ _ hweak
        rw [hptrs] at hperm
        refine ⟨hptrs ▸ hperm, ?_⟩
        exact (horder.perm (hptrs ▸ hperm)).pairwise_of_not
          ((hptrs ▸ hperm).nodup_iff.mpr List.nodup_range) hsorted
      · rw [if_neg hneed]
        exact ⟨List.Perm.of_eq hptrs, hskipped (by simpa using hneed)⟩
    exact ⟨horder, hweak, hskipped, hdispatch.1, hdispatch.2, fun order hperm hsorted =>
      (horder.perm hdispatch.1).eq_of_perm (hperm.trans hdispatch.1.symm) hdispatch.2 hsorted⟩

def entryOfDepth (depth : UInt32) : Entry := ⟨1, 0, depth, 0, 0, 0⟩

/-- Two entries with depths 1 and 2. -/
theorem flush_lawful_two :
    SortContract (α := ℕ) Lib.sortOn ∧
      Lawful Lib.sortOn (fun a => entryOfDepth (if a = 0 then 0x3f800000 else 0x40000000)) 2 := by
  refine ⟨Lib.sortContract_sortOn,
    (flush_lawful_iff Lib.sortOn Lib.sortContract_sortOn _ 2).mpr ⟨by decide, ?_⟩⟩
  intro a ha b hb hab _
  interval_cases a <;> interval_cases b <;> first | exact absurd rfl hab | decide

/-- Three entries with depths 2, not a number, and 3: the pre-check finds them in order, the sort is
left out, and the comparison puts the third before the first. -/
theorem flush_skips_unsorted :
    let entries : ℕ → Entry := fun a =>
      entryOfDepth (if a = 0 then 0x40000000 else if a = 1 then 0x7fc00000 else 0x40400000)
    needSort entries 3 = false ∧ transparentLess entries 2 0 = true ∧
      ¬StrictWeakOn (transparentLess entries) (sortedPtrs 3) := by
  intro entries
  refine ⟨by decide, by decide, fun h => ?_⟩
  have hincomparable := h.incomparable 2 (by decide) 1 (by decide) 0 (by decide) (by decide)
    (by decide) (by decide) (by decide)
  exact absurd hincomparable.1 (by decide)

end War3VK.Render.TransparentQueue
