import Mathlib.Data.Nat.Notation

/-!
# The last place that passes

A chain through the places of a sequence: each place is linked to the last one before it that passes
the same test. `lastBefore` is where such a chain goes on, and it stops only when no earlier place
passes.
-/

namespace War3VK.Lib

/-- The last place before `n` that passes. -/
def lastBefore (p : ℕ → Bool) : ℕ → Option ℕ
  | 0 => none
  | n + 1 => if p n then some n else lastBefore p n

variable {p q : ℕ → Bool} {n j : ℕ}

theorem lastBefore_succ_of_pos (h : p n = true) : lastBefore p (n + 1) = some n := if_pos h

theorem lastBefore_succ_of_neg (h : p n = false) : lastBefore p (n + 1) = lastBefore p n :=
  if_neg (by simp [h])

theorem lastBefore_congr (h : ∀ i < n, p i = q i) : lastBefore p n = lastBefore q n := by
  induction n with
  | zero => rfl
  | succ n ih =>
    unfold lastBefore
    rw [h n (Nat.lt_succ_self n), ih fun i hi => h i (Nat.lt_succ_of_lt hi)]

/-- The last place that passes is one of those before. -/
theorem lt_of_lastBefore (h : lastBefore p n = some j) : j < n := by
  induction n with
  | zero => cases h
  | succ n ih =>
    unfold lastBefore at h
    split at h
    · cases h
      exact Nat.lt_succ_self _
    · exact Nat.lt_succ_of_lt (ih h)

theorem of_lastBefore (h : lastBefore p n = some j) : p j = true := by
  induction n with
  | zero => cases h
  | succ n ih =>
    unfold lastBefore at h
    split at h
    · rename_i hn
      cases h
      exact hn
    · exact ih h

end War3VK.Lib
