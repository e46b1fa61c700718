import Mathlib

/-!
# Comparison by one key after another

A comparison that reads a key, and where the keys are equal leaves the answer to the next comparison, is
a strict total order when the last one is.
-/

namespace War3VK.Lib

variable {α κ : Type} [LinearOrder κ]

/-- Compares by a key, and where it is equal by another comparison. -/
def byKey (key : α → κ) (rest : α → α → Bool) (a b : α) : Bool :=
  if key a ≠ key b then key a < key b else rest a b

/-- By a key, and where it is equal by another comparison. -/
theorem byKey_iff (key : α → κ) (rest : α → α → Bool) (a b : α) :
    byKey key rest a b = true ↔ key a < key b ∨ key a = key b ∧ rest a b = true := by
  unfold byKey
  by_cases h : key a = key b
  · rw [if_neg (not_not_intro h)]
    exact ⟨fun hrest => .inr ⟨h, hrest⟩, fun hor => hor.elim (fun hlt => absurd h hlt.ne) And.right⟩
  · rw [if_pos h, decide_eq_true_eq]
    exact ⟨.inl, fun hor => hor.elim id fun hand => absurd hand.1 h⟩

/-- A strict total order on the elements of a list. -/
structure StrictTotalOn (less : α → α → Bool) (l : List α) : Prop where
  irrefl : ∀ a ∈ l, less a a = false
  trans : ∀ a ∈ l, ∀ b ∈ l, ∀ c ∈ l, less a b = true → less b c = true → less a c = true
  total : ∀ a ∈ l, ∀ b ∈ l, a ≠ b → less a b = true ∨ less b a = true

/-- A strict weak order on the elements of a list: not being before in either direction is
transitive. -/
structure StrictWeakOn (less : α → α → Bool) (l : List α) : Prop where
  irrefl : ∀ a ∈ l, less a a = false
  trans : ∀ a ∈ l, ∀ b ∈ l, ∀ c ∈ l, less a b = true → less b c = true → less a c = true
  /-- What is not comparable to the same element is not comparable. -/
  incomparable : ∀ a ∈ l, ∀ b ∈ l, ∀ c ∈ l, less a b = false → less b a = false →
    less b c = false → less c b = false → less a c = false ∧ less c a = false

variable {less rest : α → α → Bool} {l l' : List α}

/-- Nothing is before itself by a key when it is not by the rest. -/
theorem byKey_irrefl {key : α → κ} {a : α} (h : rest a a = false) : byKey key rest a a = false := by
  rw [Bool.eq_false_iff, ne_eq, byKey_iff, h]
  simp

/-- Comparing by a key first is transitive where the rest is. -/
theorem byKey_trans {key : α → κ} {a b c : α}
    (h : rest a b = true → rest b c = true → rest a c = true) (hab : byKey key rest a b = true)
    (hbc : byKey key rest b c = true) : byKey key rest a c = true := by
  rw [byKey_iff] at hab hbc ⊢
  rcases hab with hab | ⟨hab, hrest⟩
  · rcases hbc with hbc | ⟨hbc, -⟩
    · exact .inl (hab.trans hbc)
    · exact .inl (hbc ▸ hab)
  · rcases hbc with hbc | ⟨hbc, hrest'⟩
    · exact .inl (hab ▸ hbc)
    · exact .inr ⟨hab.trans hbc, h hrest hrest'⟩

/-- Comparing by a key first keeps a strict total order. -/
theorem StrictTotalOn.byKey (h : StrictTotalOn rest l) (key : α → κ) :
    StrictTotalOn (byKey key rest) l where
  irrefl a ha := byKey_irrefl (h.irrefl a ha)
  trans a ha b hb c hc := byKey_trans (h.trans a ha b hb c hc)
  total a ha b hb hne := by
    simp only [byKey_iff]
    rcases lt_trichotomy (key a) (key b) with hlt | heq | hlt
    · exact .inl (.inl hlt)
    · exact (h.total a ha b hb hne).imp (fun hrest => .inr ⟨heq, hrest⟩)
        (fun hrest => .inr ⟨heq.symm, hrest⟩)
    · exact .inr (.inl hlt)

/-- Two comparisons that agree on different elements are both strict total orders. -/
theorem StrictTotalOn.congr (h : StrictTotalOn rest l)
    (heq : ∀ a ∈ l, ∀ b ∈ l, less a b = rest a b) : StrictTotalOn less l where
  irrefl a ha := (heq a ha a ha).trans (h.irrefl a ha)
  trans a ha b hb c hc hab hbc := by
    rw [heq a ha b hb] at hab
    rw [heq b hb c hc] at hbc
    rw [heq a ha c hc]
    exact h.trans a ha b hb c hc hab hbc
  total a ha b hb hne := by
    rw [heq a ha b hb, heq b hb a ha]
    exact h.total a ha b hb hne

theorem StrictTotalOn.asymm (h : StrictTotalOn less l) {a b : α} (ha : a ∈ l) (hb : b ∈ l)
    (hab : less a b = true) : less b a = false := by
  by_contra hba
  have hself := h.trans a ha b hb a ha hab (by simpa using hba)
  rw [h.irrefl a ha] at hself
  cases hself

theorem StrictTotalOn.strictWeakOn (h : StrictTotalOn less l) : StrictWeakOn less l where
  irrefl := h.irrefl
  trans := h.trans
  incomparable a ha b hb c hc hab hba hbc hcb := by
    have heq : ∀ x ∈ l, ∀ y ∈ l, less x y = false → less y x = false → x = y := by
      intro x hx y hy hxy hyx
      by_contra hne
      rcases h.total x hx y hy hne with hless | hless
      · rw [hless] at hxy
        cases hxy
      · rw [hless] at hyx
        cases hyx
    obtain rfl := heq a ha b hb hab hba
    obtain rfl := heq a ha c hc hbc hcb
    exact ⟨h.irrefl a ha, h.irrefl a ha⟩

/-- A strict total order on the elements is one on those of a rearrangement. -/
theorem StrictTotalOn.perm (h : StrictTotalOn less l) (hperm : l'.Perm l) : StrictTotalOn less l' where
  irrefl a ha := h.irrefl a (hperm.mem_iff.mp ha)
  trans a ha b hb c hc := h.trans a (hperm.mem_iff.mp ha) b (hperm.mem_iff.mp hb) c
    (hperm.mem_iff.mp hc)
  total a ha b hb := h.total a (hperm.mem_iff.mp ha) b (hperm.mem_iff.mp hb)

/-- Two rearrangements with nothing behind what it is before are the same. -/
theorem StrictTotalOn.eq_of_perm (h : StrictTotalOn less l) (hperm : l'.Perm l)
    (hl : l.Pairwise fun a b => less a b = true) (hl' : l'.Pairwise fun a b => less a b = true) :
    l' = l := by
  refine List.Perm.eq_of_pairwise (fun a b ha hb hab hba => ?_) hl' hl hperm
  have hno := h.asymm (hperm.mem_iff.mp ha) hb hab
  rw [hba] at hno
  cases hno

/-- What a sort promises: where the comparison is a strict weak order on the elements, it rearranges
them so that none is before an earlier one. -/
def SortContract (sort : (α → α → Bool) → List α → List α) : Prop :=
  ∀ less l, StrictWeakOn less l →
    (sort less l).Perm l ∧ (sort less l).Pairwise fun a b => less b a = false

/-- Different elements of which none is before an earlier one are in order. -/
theorem StrictTotalOn.pairwise_of_not (h : StrictTotalOn less l) (hnodup : l.Nodup)
    (hl : l.Pairwise fun a b => less b a = false) : l.Pairwise fun a b => less a b = true := by
  refine (hnodup.and hl).imp_of_mem fun {a b} ha hb hboth => ?_
  rcases h.total a ha b hb hboth.1 with hless | hless
  · exact hless
  · rw [hboth.2] at hless
    cases hless

/-- Some neighbours are the wrong way around. -/
def inverted (less : α → α → Bool) : List α → Bool
  | a :: b :: l => less b a || inverted less (b :: l)
  | _ => false

/-- A list of different elements without such neighbours is in order. -/
theorem StrictTotalOn.pairwise_of_not_inverted (h : StrictTotalOn less l) (hnodup : l.Nodup)
    (hinverted : inverted less l = false) : l.Pairwise fun a b => less a b = true := by
  induction l with
  | nil => exact List.Pairwise.nil
  | cons a l ih =>
    cases l with
    | nil => exact List.pairwise_singleton _ _
    | cons b l =>
      rw [inverted, Bool.or_eq_false_iff] at hinverted
      have htail : StrictTotalOn less (b :: l) :=
        ⟨fun x hx => h.irrefl x (List.mem_cons_of_mem _ hx),
          fun x hx y hy z hz => h.trans x (List.mem_cons_of_mem _ hx) y (List.mem_cons_of_mem _ hy) z
            (List.mem_cons_of_mem _ hz),
          fun x hx y hy => h.total x (List.mem_cons_of_mem _ hx) y (List.mem_cons_of_mem _ hy)⟩
      have hsorted := ih htail hnodup.of_cons hinverted.2
      have hne : a ≠ b := fun heq => (List.nodup_cons.mp hnodup).1 (heq ▸ List.mem_cons_self)
      have hab : less a b = true := by
        rcases h.total a List.mem_cons_self b (by simp) hne with hless | hless
        · exact hless
        · rw [hinverted.1] at hless
          cases hless
      refine List.pairwise_cons.mpr ⟨fun c hc => ?_, hsorted⟩
      rcases List.mem_cons.mp hc with rfl | hc'
      · exact hab
      · exact h.trans a List.mem_cons_self b (by simp) c (List.mem_cons_of_mem _ hc) hab
          (List.rel_of_pairwise_cons hsorted hc')

/-- A sort that keeps its promise: the merge sort, on the elements of the list alone. -/
def sortOn (less : α → α → Bool) (l : List α) : List α :=
  (l.attach.mergeSort fun a b => !less b.1 a.1).map Subtype.val

theorem sortContract_sortOn : SortContract (α := α) sortOn := by
  intro less l h
  have hsorted : (l.attach.mergeSort fun a b => !less b.1 a.1).Pairwise
      fun a b => (!less b.1 a.1) = true := by
    refine List.pairwise_mergeSort (fun a b c hab hbc => ?_) (fun a b => ?_) _
    · simp only [Bool.not_eq_true'] at hab hbc ⊢
      by_contra hca
      have hca : less c.1 a.1 = true := by simpa using hca
      -- If `c` were before `a`, then `b` would be comparable to neither of them.
      have hbnota : less a.1 b.1 = false := by
        by_contra hlt
        have hlt := h.trans c.1 c.2 a.1 a.2 b.1 b.2 hca (by simpa using hlt)
        rw [hbc] at hlt
        cases hlt
      have hcnotb : less b.1 c.1 = false := by
        by_contra hlt
        have hlt := h.trans b.1 b.2 c.1 c.2 a.1 a.2 (by simpa using hlt) hca
        rw [hab] at hlt
        cases hlt
      have hnot := (h.incomparable c.1 c.2 b.1 b.2 a.1 a.2 hbc hcnotb hab hbnota).1
      rw [hca] at hnot
      cases hnot
    · by_contra hboth
      simp only [Bool.or_eq_true, Bool.not_eq_true', not_or, Bool.not_eq_false] at hboth
      have hself := h.trans a.1 a.2 b.1 b.2 a.1 a.2 hboth.2 hboth.1
      rw [h.irrefl a.1 a.2] at hself
      cases hself
  refine ⟨?_, List.pairwise_map.mpr (hsorted.imp fun hab => by simpa using hab)⟩
  have hperm := (List.mergeSort_perm l.attach fun a b => !less b.1 a.1).map Subtype.val
  rwa [List.attach_map_subtype_val] at hperm

end War3VK.Lib
