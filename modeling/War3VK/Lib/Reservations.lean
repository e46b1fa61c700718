import Mathlib

/-!
# Reservations below a cursor

An allocator that only moves a cursor reserves spans of positions in a linear order. Its live spans are
`Stacked`: each ends before the next one starts, and all end before the cursor. A reservation pushes the
span from the cursor to its new place.
-/

namespace War3VK.Lib

variable {P : Type} [LinearOrder P]

/-- A span of positions. -/
structure Span (P : Type) where
  lower : P
  upper : P

/-- The live spans, numbered in the order in which they were reserved, are one after another below the
cursor. -/
structure Stacked (live : ℕ → Prop) (span : ℕ → Span P) (cursor : P) : Prop where
  proper : ∀ i, live i → (span i).lower < (span i).upper
  sorted : ∀ i j, live i → live j → i < j → (span i).upper ≤ (span j).lower
  below : ∀ i, live i → (span i).upper ≤ cursor

variable {live live' : ℕ → Prop} {span span' : ℕ → Span P} {cursor cursor' : P}

/-- Without live spans the cursor may be anywhere. -/
theorem Stacked.of_none (h : ∀ i, ¬live i) : Stacked live span cursor where
  proper i hi := absurd hi (h i)
  sorted i _ hi := absurd hi (h i)
  below i hi := absurd hi (h i)

/-- Fewer spans are stacked, wherever they are, below any later cursor. -/
theorem Stacked.mono (h : Stacked live span cursor)
    (hlive : ∀ i, live' i → live i ∧ span' i = span i) (hcursor : cursor ≤ cursor') :
    Stacked live' span' cursor' where
  proper i hi := by
    rw [(hlive i hi).2]
    exact h.proper i (hlive i hi).1
  sorted i j hi hj hij := by
    rw [(hlive i hi).2, (hlive j hj).2]
    exact h.sorted i j (hlive i hi).1 (hlive j hj).1 hij
  below i hi := by
    rw [(hlive i hi).2]
    exact (h.below i (hlive i hi).1).trans hcursor

/-- A reservation: the span from the cursor to its new place. -/
theorem Stacked.push (h : Stacked live span cursor) {n : ℕ} (hn : ∀ i, live i → i < n)
    (hspan : span n = ⟨cursor, cursor'⟩) (hlt : cursor < cursor')
    (hlive : ∀ i, live' i → live i ∨ i = n) : Stacked live' span cursor' where
  proper i hi := by
    rcases hlive i hi with hi | rfl
    · exact h.proper i hi
    · rw [hspan]
      exact hlt
  sorted i j hi hj hij := by
    rcases hlive i hi with hi | rfl <;> rcases hlive j hj with hj | rfl
    · exact h.sorted i j hi hj hij
    · rw [hspan]
      exact h.below i hi
    · exact absurd hij (hn j hj).not_gt
    · exact absurd hij (lt_irrefl _)
  below i hi := by
    rcases hlive i hi with hi | rfl
    · exact (h.below i hi).trans hlt.le
    · rw [hspan]

/-- The cursor goes back over a span that it stands at the end of. -/
theorem Stacked.pop (h : Stacked live span cursor) {n : ℕ} (hn : live n)
    (hcursor : (span n).upper = cursor) (hlive : ∀ i, live' i → live i ∧ i ≠ n) :
    Stacked live' span (span n).lower where
  proper i hi := h.proper i (hlive i hi).1
  sorted i j hi hj hij := h.sorted i j (hlive i hi).1 (hlive j hj).1 hij
  below i hi := by
    obtain ⟨hi, hne⟩ := hlive i hi
    rcases lt_or_gt_of_ne hne with hlt | hgt
    · exact h.sorted i n hi hn hlt
    · -- A later span would be above the cursor.
      have hlower := h.sorted n i hn hi hgt
      have hupper := h.below i hi
      rw [hcursor] at hlower
      exact absurd (h.proper i hi) (hupper.trans hlower).not_gt

/-- The spans from a place on are no longer than what is between it and the cursor. -/
theorem Stacked.sum_le {span : ℕ → Span ℕ} {cursor : ℕ} (h : Stacked live span cursor)
    {numbers : List ℕ} (hsorted : numbers.Pairwise (· < ·)) (hlive : ∀ i ∈ numbers, live i) :
    ∀ lower ≤ cursor, (∀ i ∈ numbers, lower ≤ (span i).lower) →
      lower + (numbers.map fun i => (span i).upper - (span i).lower).sum ≤ cursor := by
  induction numbers with
  | nil =>
    intro lower hlower _
    simpa using hlower
  | cons i numbers ih =>
    intro lower _ hfrom
    rw [List.pairwise_cons] at hsorted
    rw [List.forall_mem_cons] at hlive hfrom
    have hrest := ih hsorted.2 hlive.2 (span i).upper (h.below i hlive.1)
      fun j hj => h.sorted i j hlive.1 (hlive.2 j hj) (hsorted.1 j hj)
    have hproper := h.proper i hlive.1
    have hlower := hfrom.1
    rw [List.map_cons, List.sum_cons]
    omega

end War3VK.Lib
