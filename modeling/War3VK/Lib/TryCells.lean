import Mathlib.Logic.Function.Basic

/-!
# Cells that threads try to take

Threads take cells with a flag that is tested and set, write them and give them back. A cell knows who
has taken it, and a phase which cell its thread holds. A move of a thread has a next phase, and may
change one cell, which was free or its own (`Legal`).
-/

namespace War3VK.Lib

variable {τ κ σ φ : Type} [DecidableEq κ]

/-- A cell is changed, or none. -/
def putCell (change : Option (κ × σ)) (cells : κ → σ) : κ → σ :=
  match change with
  | none => cells
  | some (c, cell) => Function.update cells c cell

variable (taker : σ → Option τ) (holds : φ → Option κ)

/-- Who holds a cell has taken it. -/
def Exclusive (cells : κ → σ) (phases : τ → φ) : Prop :=
  ∀ t c, holds (phases t) = some c → taker (cells c) = some t

/-- A move that changes no cell of another and holds no cell that is not taken. -/
structure Legal (cells : κ → σ) (t : τ) (phase : φ) (change : Option (κ × σ)) : Prop where
  own : ∀ c cell, change = some (c, cell) → taker (cells c) = none ∨ taker (cells c) = some t
  taken : ∀ c, holds phase = some c → taker (putCell change cells c) = some t

variable {taker holds} {cells : κ → σ} {phases : τ → φ} {t : τ} {phase : φ} {change : Option (κ × σ)}

theorem Exclusive.untouched (h : Exclusive taker holds cells phases)
    (hlegal : Legal taker holds cells t phase change) {other : τ} (hne : other ≠ t) {c : κ}
    (hholds : holds (phases other) = some c) : putCell change cells c = cells c := by
  have htaken := h other c hholds
  unfold putCell
  split
  · rfl
  · rename_i d cell
    by_cases heq : c = d
    · subst heq
      -- The cell is neither free nor the mover's.
      obtain hfree | hown := hlegal.own c cell rfl
      · rw [htaken] at hfree
        cases hfree
      · rw [htaken] at hown
        exact absurd (Option.some.inj hown) hne
    · exact Function.update_of_ne heq _ _

/-- A legal move leaves every cell with who holds it. -/
theorem Exclusive.move [DecidableEq τ] (h : Exclusive taker holds cells phases)
    (hlegal : Legal taker holds cells t phase change) :
    Exclusive taker holds (putCell change cells) (Function.update phases t phase) := by
  intro other c hholds
  by_cases heq : other = t
  · subst heq
    rw [Function.update_self] at hholds
    exact hlegal.taken c hholds
  · rw [Function.update_of_ne heq] at hholds
    rw [h.untouched hlegal heq hholds]
    exact h other c hholds

end War3VK.Lib
