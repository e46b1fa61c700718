import Mathlib.Data.List.Basic
import Mathlib.Data.List.Induction

/-!
# When a key was used last

The keys of a list in the order in which they were used. `lastUse` counts the uses up to the last one of
a key, so of two keys the one with the smaller number has not been used for longer.
-/

namespace War3VK.Lib

variable {κ : Type} [DecidableEq κ] {key other : κ} {used : List κ}

/-- The number of the last use of a key, or zero if there is none. -/
def lastUse (key : κ) (used : List κ) : ℕ := used.length - used.reverse.idxOf key

theorem lastUse_concat_self : lastUse key (used ++ [key]) = used.length + 1 := by
  unfold lastUse
  rw [List.reverse_append, List.reverse_singleton, List.singleton_append, List.idxOf_cons_self,
    List.length_append, List.length_singleton, Nat.sub_zero]

theorem lastUse_concat_ne (h : key ≠ other) : lastUse key (used ++ [other]) = lastUse key used := by
  unfold lastUse
  rw [List.reverse_append, List.reverse_singleton, List.singleton_append, List.idxOf_cons_ne _ h.symm,
    List.length_append, List.length_singleton, Nat.add_sub_add_right]

theorem lastUse_le (key : κ) (used : List κ) : lastUse key used ≤ used.length := Nat.sub_le _ _

theorem lastUse_inj (hkey : key ∈ used) (h : lastUse key used = lastUse other used) : key = other := by
  induction used using List.reverseRecOn with
  | nil => cases hkey
  | append_singleton used last ih =>
    by_cases hlast : key = last
    · subst hlast
      rw [lastUse_concat_self] at h
      by_contra hne
      rw [lastUse_concat_ne (Ne.symm hne)] at h
      have := lastUse_le other used
      omega
    · rw [lastUse_concat_ne hlast] at h
      have hmem : key ∈ used := (List.mem_append.mp hkey).resolve_right fun hsingle =>
        hlast (List.mem_singleton.mp hsingle)
      by_cases hother : other = last
      · subst hother
        rw [lastUse_concat_self] at h
        have := lastUse_le key used
        omega
      · rw [lastUse_concat_ne hother] at h
        exact ih hmem h

end War3VK.Lib
