import War3VK.Lib.Guards
import War3VK.Lib.Reads

/-!
# Walks over data

A parser walks over its data: while it has not reached the end of a block, it reads what stands at its
position and moves behind it. `scan` is such a loop. Its rounds are the bytes to the end, and a loop
that would take more counts as a read outside, so that a loop that never has one terminates too.
-/

namespace War3VK.Lib

variable {α β σ τ : Type}

/-! ## Checks that read inside -/

/-- A check that does not read outside of the data. -/
def Safe (x : Except Stop α) : Prop := x ≠ .error .outOfBounds

theorem safe_ok (a : α) : Safe (.ok a) := fun h => by cases h

theorem safe_expect (b : Bool) : Safe (expect b) := by
  cases b
  · exact fun h => by cases h
  · exact safe_ok ()

variable {offset : ℕ} {data : Bytes}

theorem safe_readRange {n : ℕ} (h : offset + n ≤ data.length) : Safe (readRange offset n data) := by
  rw [readRange_of_le h]
  exact safe_ok _

theorem safe_readWord {W : Type} [LeWord W] (h : offset + LeWord.width W ≤ data.length) :
    Safe (readWord W offset data) := by
  rw [readWord_of_le h]
  exact safe_ok _

theorem safe_read32 (h : offset + 4 ≤ data.length) : Safe (readWord UInt32 offset data) :=
  safe_readWord h

/-- A check is safe when its first part is and, if that passes, the rest. -/
theorem Safe.bind {x : Except Stop α} {f : α → Except Stop β} (hx : Safe x)
    (hf : ∀ a, x = .ok a → Safe (f a)) : Safe (x >>= f) := by
  cases x with
  | ok a => exact hf a rfl
  | error e => exact fun h => hx (by cases h; rfl)

/-- A part of a check that is only run under a condition and else changes nothing. -/
def whenever (c : Prop) [Decidable c] (x : Except Stop σ) (s : σ) : Except Stop σ :=
  if c then x else .ok s

theorem Safe.whenever {c : Prop} [Decidable c] {x : Except Stop σ} {s : σ} (h : c → Safe x) :
    Safe (whenever c x s) := by
  unfold Lib.whenever
  split
  · exact h ‹c›
  · exact safe_ok s

theorem whenever_eq_ok {c : Prop} [Decidable c] {x : Except Stop σ} {s s' : σ} :
    Lib.whenever c x s = .ok s' ↔ (c ∧ x = .ok s') ∨ (¬c ∧ s = s') := by
  unfold Lib.whenever
  split <;> simp [*]

theorem expect_eq_ok {b : Bool} {u : Unit} : expect b = .ok u ↔ b = true := by
  cases b <;> simp [expect]

theorem readWord_eq_ok {W : Type} [LeWord W] {w : W} :
    readWord W offset data = .ok w ↔ offset + LeWord.width W ≤ data.length ∧ getLe W offset data = w := by
  unfold readWord
  split <;> simp [*]

theorem readRange_eq_ok {n : ℕ} {bytes : Bytes} :
    readRange offset n data = .ok bytes ↔ offset + n ≤ data.length ∧ slice offset n data = bytes := by
  unfold readRange
  split <;> simp [*]

/-! ## Loops -/

/-- Steps from a position on, as long as it is before the end. -/
def walk (stop : ℕ) (step : ℕ → σ → Except Stop (ℕ × σ)) : ℕ → ℕ → σ → Except Stop σ
  | 0, p, s => if p < stop then .error .outOfBounds else .ok s
  | rounds + 1, p, s =>
    if p < stop then step p s >>= fun next => walk stop step rounds next.1 next.2 else .ok s

/-- The loop, which takes at most as many rounds as there are bytes to the end. -/
def scan (stop : ℕ) (step : ℕ → σ → Except Stop (ℕ × σ)) (p : ℕ) (s : σ) : Except Stop σ :=
  walk stop step (stop - p) p s

variable {stop p : ℕ} {s : σ} {step : ℕ → σ → Except Stop (ℕ × σ)}

/-- A loop is safe when its steps are and move on. -/
theorem safe_scan {I : ℕ → σ → Prop} (hsafe : ∀ p s, p < stop → I p s → Safe (step p s))
    (hnext : ∀ p s p' s', p < stop → I p s → step p s = .ok (p', s') → p < p' ∧ I p' s')
    (h : I p s) : Safe (scan stop step p s) := by
  have hwalk (rounds : ℕ) (p : ℕ) (s : σ) (hrounds : stop - p ≤ rounds) (h : I p s) :
      Safe (walk stop step rounds p s) := by
    induction rounds generalizing p s with
    | zero =>
      rw [walk, if_neg (by omega)]
      exact safe_ok s
    | succ rounds ih =>
      rw [walk]
      split
      · rename_i hp
        refine (hsafe p s hp h).bind fun next heq => ?_
        obtain ⟨hlt, hI⟩ := hnext p s next.1 next.2 hp h heq
        exact ih next.1 next.2 (by omega) hI
      · exact safe_ok s
  exact hwalk (stop - p) p s (Nat.le_refl _) h

/-- What the steps of a loop keep holds at its end. -/
theorem scan_invariant {I : ℕ → σ → Prop}
    (hnext : ∀ p s p' s', p < stop → I p s → step p s = .ok (p', s') → I p' s') (h : I p s)
    {s' : σ} (hscan : scan stop step p s = .ok s') : ∃ p', stop ≤ p' ∧ I p' s' := by
  have hwalk (rounds : ℕ) (p : ℕ) (s : σ) (h : I p s)
      (heq : walk stop step rounds p s = .ok s') : ∃ p', stop ≤ p' ∧ I p' s' := by
    induction rounds generalizing p s with
    | zero =>
      rw [walk] at heq
      split at heq
      · cases heq
      · cases heq
        exact ⟨p, by omega, h⟩
    | succ rounds ih =>
      rw [walk] at heq
      split at heq
      · rename_i hp
        obtain ⟨next, hstep, heq⟩ := bind_eq_ok.mp heq
        exact ih next.1 next.2 (hnext p s next.1 next.2 hp h hstep) heq
      · cases heq
        exact ⟨p, by omega, h⟩
  exact hwalk (stop - p) p s h hscan

/-- What the steps of two loops keep that move alike holds at their ends. -/
theorem scan_related {step' : ℕ → τ → Except Stop (ℕ × τ)} {R : ℕ → σ → τ → Prop}
    (hnext : ∀ p s t p' s' q' t', p < stop → R p s t → step p s = .ok (p', s') →
      step' p t = .ok (q', t') → p' = q' ∧ R p' s' t')
    {t : τ} (h : R p s t) {s' : σ} {t' : τ} (hscan : scan stop step p s = .ok s')
    (hscan' : scan stop step' p t = .ok t') : ∃ p', stop ≤ p' ∧ R p' s' t' := by
  have hwalk (rounds : ℕ) (p : ℕ) (s : σ) (t : τ) (h : R p s t)
      (heq : walk stop step rounds p s = .ok s') (heq' : walk stop step' rounds p t = .ok t') :
      ∃ p', stop ≤ p' ∧ R p' s' t' := by
    induction rounds generalizing p s t with
    | zero =>
      rw [walk] at heq heq'
      split at heq
      · cases heq
      · rename_i hp
        rw [if_neg hp] at heq'
        cases heq
        cases heq'
        exact ⟨p, by omega, h⟩
    | succ rounds ih =>
      rw [walk] at heq heq'
      split at heq
      · rename_i hp
        rw [if_pos hp] at heq'
        obtain ⟨next, hstep, heq⟩ := bind_eq_ok.mp heq
        obtain ⟨next', hstep', heq'⟩ := bind_eq_ok.mp heq'
        obtain ⟨hsame, hR⟩ := hnext p s t next.1 next.2 next'.1 next'.2 hp h hstep hstep'
        rw [← hsame] at heq'
        exact ih next.1 next.2 next'.2 hR heq heq'
      · rename_i hp
        rw [if_neg hp] at heq'
        cases heq
        cases heq'
        exact ⟨p, by omega, h⟩
  exact hwalk (stop - p) p s t h hscan hscan'

end War3VK.Lib
