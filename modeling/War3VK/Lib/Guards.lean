import Mathlib.Data.List.Basic

/-!
# Chains of guards

Validators are written as a chain of guards, each of which returns its own error when its condition
holds. `firstError` is such a chain as a list, in the order of the tests. A chain passes exactly
when no condition holds (`firstError_eq_ok_iff`), whatever the order, which is how two validators
with their tests in different orders are compared.
-/

namespace War3VK.Lib

variable {ε : Type}

/-- The error of the first guard whose condition holds, or `ok`. -/
def firstError (ok : ε) : List (Bool × ε) → ε
  | [] => ok
  | (c, e) :: rest => if c then e else firstError ok rest

variable {guards : List (Bool × ε)}

theorem firstError_of_forall {ok : ε} (h : ∀ g ∈ guards, g.1 = false) :
    firstError ok guards = ok := by
  induction guards with
  | nil => rfl
  | cons g rest ih =>
    obtain ⟨c, e⟩ := g
    obtain rfl : c = false := h (c, e) (by simp)
    exact ih fun g hg => h g (by simp [hg])

/-- A chain whose guards, when they hold, carry real errors passes exactly when no condition holds. -/
theorem firstError_eq_ok_iff_of_imp {ok : ε} (h : ∀ g ∈ guards, g.1 = true → g.2 ≠ ok) :
    firstError ok guards = ok ↔ ∀ g ∈ guards, g.1 = false := by
  induction guards with
  | nil => simp [firstError]
  | cons g rest ih =>
    obtain ⟨c, e⟩ := g
    have he : c = true → e ≠ ok := h (c, e) (by simp)
    have ih := ih fun g hg => h g (by simp [hg])
    cases c with
    | true => simp [firstError, he]
    | false => simp [firstError, ih]

/-- A chain whose guards all carry real errors passes exactly when no condition holds. -/
theorem firstError_eq_ok_iff {ok : ε} (h : ∀ g ∈ guards, g.2 ≠ ok) :
    firstError ok guards = ok ↔ ∀ g ∈ guards, g.1 = false :=
  firstError_eq_ok_iff_of_imp fun g hg _ => h g hg

/-! ## Guards in a program -/

section Except

variable {α β : Type} {P : ε → Prop}

/-- A guard of a program, which fails when its condition holds. -/
def rejectIf (c : Prop) [Decidable c] (e : ε) : Except ε Unit := if c then .error e else .ok ()

variable {c : Prop}

/-- A guard passes when its condition does not hold. -/
theorem rejectIf_eq_ok [Decidable c] {e : ε} {u : Unit} : rejectIf c e = .ok u ↔ ¬c := by
  unfold rejectIf
  split <;> simp [*]

/-- A part of a program that is only run under a condition. -/
def onlyIf (c : Prop) [Decidable c] (x : Except ε Unit) : Except ε Unit := if c then x else .ok ()

theorem onlyIf_eq_ok [Decidable c] {x : Except ε Unit} {u : Unit} :
    onlyIf c x = .ok u ↔ (c → x = .ok u) := by
  unfold onlyIf
  split <;> simp [*]

theorem pure_eq_ok {a b : α} : (pure a : Except ε α) = .ok b ↔ a = b := by
  simp [pure, Except.pure]

/-- A program passes when its first part does and the rest does with what it returned. -/
theorem bind_eq_ok {x : Except ε α} {f : α → Except ε β} {b : β} :
    x >>= f = .ok b ↔ ∃ a, x = .ok a ∧ f a = .ok b := by
  cases x with
  | error e => simp [bind, Except.bind]
  | ok a => simp [bind, Except.bind]

/-- All errors of a program have a property. -/
def Fails (P : ε → Prop) (x : Except ε α) : Prop := ∀ e, x = .error e → P e

theorem Fails.ok (a : α) : Fails P (.ok a : Except ε α) := fun _ h => by cases h

theorem Fails.error {e : ε} (he : P e) : Fails P (.error e : Except ε α) := fun _ h => by
  cases h
  exact he

theorem Fails.rejectIf [Decidable c] {e : ε} (he : P e) : Fails P (rejectIf c e) := by
  unfold Lib.rejectIf
  split
  · exact .error he
  · exact .ok ()

theorem Fails.onlyIf [Decidable c] {x : Except ε Unit} (hx : Fails P x) : Fails P (onlyIf c x) := by
  unfold Lib.onlyIf
  split
  · exact hx
  · exact .ok ()

/-- The errors of a program are those of its parts. -/
theorem Fails.bind {x : Except ε α} {f : α → Except ε β} (hx : Fails P x)
    (hf : ∀ a, Fails P (f a)) : Fails P (x >>= f) := by
  cases x with
  | error e => exact .error (hx e rfl)
  | ok a => exact hf a

end Except

end War3VK.Lib
