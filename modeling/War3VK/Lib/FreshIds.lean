import Mathlib.Data.List.Nodup
import Mathlib.Data.List.Perm.Subperm
import Mathlib.Logic.Function.Iterate

/-!
# Identifiers from a counter

A counter that may come round again gives out the first value that is free. It tries one more value than
there are taken ones. If its values do not repeat within that many steps, one of them is free.
-/

namespace War3VK.Lib

variable {α : Type}

/-- The first value that is free, within some attempts, and the counter after them. -/
def firstFree (next : α → α) (free : α → Bool) : ℕ → α → Option α × α
  | 0, a => (none, a)
  | n + 1, a => if free a then (some a, next a) else firstFree next free n (next a)

variable {next : α → α} {free : α → Bool} {n : ℕ} {a b : α}

theorem free_of_firstFree (h : (firstFree next free n a).1 = some b) : free b = true := by
  induction n generalizing a with
  | zero => cases h
  | succ n ih =>
    rw [firstFree] at h
    split at h
    · rename_i hfree
      rwa [← Option.some.inj h]
    · exact ih h

theorem firstFree_counter (P : α → Prop) (hnext : ∀ a, P a → P (next a)) (h : P a) :
    P (firstFree next free n a).2 := by
  induction n generalizing a with
  | zero => exact h
  | succ n ih =>
    rw [firstFree]
    split
    · exact hnext a h
    · exact ih (hnext a h)

/-- If nothing is given out, no value that was tried is free. -/
theorem not_free_of_firstFree_eq_none (h : (firstFree next free n a).1 = none) :
    ∀ i < n, free (next^[i] a) = false := by
  induction n generalizing a with
  | zero => exact fun i hi => absurd hi (Nat.not_lt_zero i)
  | succ n ih =>
    rw [firstFree] at h
    split at h
    · cases h
    · rename_i hfree
      intro i hi
      cases i with
      | zero => simpa using hfree
      | succ i =>
        rw [Function.iterate_succ_apply]
        exact ih h i (by omega)

/-- With more attempts than taken values, and no value tried twice, one is free. -/
theorem exists_firstFree {taken : List α} (htaken : ∀ i < n, free (next^[i] a) = false → next^[i] a ∈ taken)
    (hdistinct : ∀ i < n, ∀ j < n, next^[i] a = next^[j] a → i = j) (hlength : taken.length < n) :
    ∃ b, (firstFree next free n a).1 = some b := by
  cases h : (firstFree next free n a).1 with
  | some b => exact ⟨b, rfl⟩
  | none =>
    -- Otherwise all values that were tried are taken, and there are too many of them.
    have hnone := not_free_of_firstFree_eq_none h
    have hnodup : ((List.range n).map fun i => next^[i] a).Nodup := by
      refine List.Nodup.map_on (fun i hi j hj hij => ?_) List.nodup_range
      exact hdistinct i (List.mem_range.mp hi) j (List.mem_range.mp hj) hij
    have hsub : ((List.range n).map fun i => next^[i] a) ⊆ taken := by
      intro b hb
      obtain ⟨i, hi, rfl⟩ := List.mem_map.mp hb
      rw [List.mem_range] at hi
      exact htaken i hi (hnone i hi)
    have hle := (hnodup.subperm hsub).length_le
    rw [List.length_map, List.length_range] at hle
    omega

end War3VK.Lib
