import Mathlib.Data.List.Pairwise
import Mathlib.Order.Defs.Unbundled
import Mathlib.Tactic.Common

/-!
# Binary search and sorted tables

`lowerBound` is the halving search of the C++ library. On a list whose elements below the key come first
it finds where they end (`lowerBound_spec`).
-/

namespace War3VK.Lib

variable {α κ : Type}

/-- The loop of the search: `count` elements are left from `first` on. -/
def lowerBoundLoop (below : α → Bool) (l : List α) : ℕ → ℕ → ℕ → ℕ
  | 0, first, _ => first
  | fuel + 1, first, count =>
    if count = 0 then first
    else
      match l[first + count / 2]? with
      | none => first
      | some middle =>
        if below middle then
          lowerBoundLoop below l fuel (first + count / 2 + 1) (count - (count / 2 + 1))
        else lowerBoundLoop below l fuel first (count / 2)

/-- `std::lower_bound`: the place of the first element that is not below the key. -/
def lowerBound (below : α → Bool) (l : List α) : ℕ := lowerBoundLoop below l l.length 0 l.length

variable {below : α → Bool} {l : List α}

/-- The loop ends where the elements below the key end, if that is inside its range. -/
theorem lowerBoundLoop_spec {n : ℕ} (hn : ∀ i a, l[i]? = some a → (below a = true ↔ i < n))
    {fuel first count : ℕ} (hfuel : count ≤ fuel) (hfirst : first ≤ n) (hcount : n ≤ first + count)
    (hlength : first + count ≤ l.length) : lowerBoundLoop below l fuel first count = n := by
  induction fuel generalizing first count with
  | zero =>
    rw [lowerBoundLoop]
    omega
  | succ fuel ih =>
    rw [lowerBoundLoop]
    split
    · omega
    · rename_i hne
      have hlt : first + count / 2 < l.length := by omega
      rw [List.getElem?_eq_getElem hlt]
      have hmiddle := hn _ _ (List.getElem?_eq_getElem hlt)
      dsimp only
      split
      · -- The middle is below the key, so the end lies behind it.
        rename_i hbelow
        have hlt' := hmiddle.mp hbelow
        exact ih (by omega) (by omega) (by omega) (by omega)
      · rename_i hbelow
        have hge : ¬first + count / 2 < n := fun h => hbelow (hmiddle.mpr h)
        exact ih (by omega) hfirst (by omega) (by omega)

/-- Where elements below the key come first, the search splits the list there. -/
theorem lowerBound_spec (h : l.Pairwise fun a b => below b = true → below a = true) :
    (∀ i a, l[i]? = some a → (below a = true ↔ i < lowerBound below l)) ∧
      lowerBound below l ≤ l.length := by
  -- The end of the elements below is the number of them that come first.
  obtain ⟨n, hle, hn⟩ : ∃ n ≤ l.length, ∀ i a, l[i]? = some a → (below a = true ↔ i < n) := by
    refine ⟨(l.takeWhile below).length, (List.takeWhile_sublist below).length_le, ?_⟩
    induction l with
    | nil => exact fun _ _ hi => (nomatch hi)
    | cons a l ih =>
      obtain ⟨hhead, htail⟩ := List.pairwise_cons.mp h
      intro i b hi
      by_cases ha : below a = true
      · rw [List.takeWhile_cons_of_pos ha, List.length_cons]
        cases i with
        | zero =>
          cases hi
          simpa using ha
        | succ i =>
          rw [ih htail i b hi]
          omega
      · rw [List.takeWhile_cons_of_neg ha]
        refine iff_of_false (fun hb => ha ?_) (Nat.not_lt_zero i)
        cases i with
        | zero =>
          cases hi
          exact hb
        | succ i => exact hhead b (List.mem_of_getElem? hi) hb
  have hlower : lowerBound below l = n :=
    lowerBoundLoop_spec hn (Nat.le_refl _) (Nat.zero_le _) (by omega) (by omega)
  rw [hlower]
  exact ⟨hn, hle⟩

/-! ## Sorted tables -/

variable {less : κ → κ → Bool} {key : α → κ}

/-- A table that is sorted by its keys, none of them twice. -/
def SortedTable (less : κ → κ → Bool) (key : α → κ) (l : List α) : Prop :=
  l.Pairwise fun a b => less (key a) (key b) = true

/-- The search for a key in a table. -/
def tableBound (less : κ → κ → Bool) (key : α → κ) (l : List α) (k : κ) : ℕ :=
  lowerBound (fun a => less (key a) k) l

/-- What stands behind an entry has a greater key. -/
theorem SortedTable.less_of_lt (h : SortedTable less key l) {i j : ℕ} {a b : α}
    (hi : l[i]? = some a) (hj : l[j]? = some b) (hij : i < j) : less (key a) (key b) = true := by
  obtain ⟨hi', rfl⟩ := List.getElem?_eq_some_iff.mp hi
  obtain ⟨hj', rfl⟩ := List.getElem?_eq_some_iff.mp hj
  exact List.pairwise_iff_getElem.mp h i j hi' hj' hij

theorem SortedTable.set (h : SortedTable less key l) {i : ℕ} {a b : α} (hi : l[i]? = some a)
    (hkey : key b = key a) : SortedTable less key (l.set i b) := by
  have hmap : (l.set i b).map key = l.map key := by
    rw [List.map_set, hkey]
    obtain ⟨hlt, rfl⟩ := List.getElem?_eq_some_iff.mp hi
    rw [← List.getElem_map key (h := by simpa using hlt)]
    exact List.set_getElem_self _
  have hkeys : (l.map key).Pairwise (less · · = true) := List.pairwise_map.mpr h
  rw [← hmap] at hkeys
  exact List.pairwise_map.mp hkeys

theorem insertIdx_eq_take_append {n : ℕ} (h : n ≤ l.length) (a : α) :
    l.insertIdx n a = l.take n ++ a :: l.drop n := by
  induction n generalizing l with
  | zero => rfl
  | succ n ih =>
    cases l with
    | nil => exact absurd h (Nat.not_succ_le_zero n)
    | cons b l =>
      rw [List.insertIdx_succ_cons, ih (Nat.le_of_succ_le_succ h)]
      rfl

variable [IsStrictTotalOrder κ (less · · = true)]

theorem tableBound_spec (h : SortedTable less key l) (k : κ) :
    (∀ i a, l[i]? = some a → (less (key a) k = true ↔ i < tableBound less key l k)) ∧
      tableBound less key l k ≤ l.length :=
  lowerBound_spec (h.imp fun {_ _} hab hb => IsTrans.trans (r := (less · · = true)) _ _ _ hab hb)

/-- The entry of a key stands where the search ends. -/
theorem SortedTable.getElem?_tableBound (h : SortedTable less key l) {a : α} (ha : a ∈ l) :
    l[tableBound less key l (key a)]? = some a := by
  obtain ⟨hsplit, -⟩ := tableBound_spec h (key a)
  obtain ⟨i, hi⟩ := List.mem_iff_getElem?.mp ha
  have hge : ¬i < tableBound less key l (key a) := fun hlt =>
    irrefl_of (less · · = true) _ ((hsplit i a hi).mpr hlt)
  -- An entry before it would be below the key and behind the end.
  have hle : ¬tableBound less key l (key a) < i := fun hlt => by
    have hlength := (List.getElem?_eq_some_iff.mp hi).choose
    have hless := h.less_of_lt (List.getElem?_eq_getElem (Nat.lt_trans hlt hlength)) hi hlt
    exact Nat.lt_irrefl _ ((hsplit _ _ (List.getElem?_eq_getElem (Nat.lt_trans hlt hlength))).mp hless)
  rwa [show tableBound less key l (key a) = i by omega]

/-- Finding the entry of a key: where the search ends stands an entry with that key, or there is
none. -/
theorem SortedTable.find_iff (h : SortedTable less key l) {k : κ} {a : α} :
    l[tableBound less key l k]? = some a ∧ key a = k ↔ a ∈ l ∧ key a = k := by
  constructor
  · exact fun hfound => ⟨List.mem_of_getElem? hfound.1, hfound.2⟩
  · rintro ⟨ha, rfl⟩
    exact ⟨h.getElem?_tableBound ha, rfl⟩

/-- An entry with a new key, put where the search for the key ends. -/
theorem SortedTable.insertIdx (h : SortedTable less key l) {a : α}
    (hnew : ∀ b ∈ l, key b ≠ key a) :
    SortedTable less key (l.insertIdx (tableBound less key l (key a)) a) := by
  obtain ⟨hsplit, hle⟩ := tableBound_spec h (key a)
  generalize tableBound less key l (key a) = n at hsplit hle ⊢
  rw [insertIdx_eq_take_append hle, SortedTable, List.pairwise_append, List.pairwise_cons]
  refine ⟨h.sublist (List.take_sublist _ _), ⟨fun b hb => ?_, h.sublist (List.drop_sublist _ _)⟩,
    fun b hb c hc => ?_⟩
  · -- Behind the end nothing is below the key, and nothing has it.
    obtain ⟨i, hi⟩ := List.mem_iff_getElem?.mp hb
    rw [List.getElem?_drop] at hi
    have hnot : ¬less (key b) (key a) = true := fun hless =>
      absurd ((hsplit _ _ hi).mp hless) (by omega)
    rcases trichotomous_of (less · · = true) (key b) (key a) with hless | heq | hless
    · exact absurd hless hnot
    · exact absurd heq (hnew b (List.mem_of_mem_drop hb))
    · exact hless
  · obtain ⟨i, hi⟩ := List.mem_iff_getElem?.mp hb
    have hin : i < n := by
      by_contra hge
      rw [List.getElem?_take, if_neg hge] at hi
      cases hi
    rw [List.getElem?_take, if_pos hin] at hi
    have hbelow := (hsplit i b hi).mpr hin
    rcases List.mem_cons.mp hc with rfl | hc
    · exact hbelow
    · obtain ⟨j, hj⟩ := List.mem_iff_getElem?.mp hc
      rw [List.getElem?_drop] at hj
      exact h.less_of_lt hi hj (by omega)

end War3VK.Lib
