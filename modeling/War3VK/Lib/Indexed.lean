import Mathlib.Logic.Function.Basic
import Mathlib.Data.Nat.Notation

/-!
# Tables with an index

A table of records, and an index that names the record of some value of a field. The index is faithful
when every record that it names has the value it is named by. Writing a record over another keeps that
only when the index does not name the record by a value that it loses.
-/

namespace War3VK.Lib

/-- A table of records by key, and an index of keys by the value of a field. -/
structure Indexed (κ ν ρ : Type) where
  primary : κ → Option ρ := fun _ => none
  index : ν → Option κ := fun _ => none

namespace Indexed

variable {κ ν ρ : Type} [DecidableEq κ] [DecidableEq ν] {field : ρ → ν} {t : Indexed κ ν ρ}

/-- A record for a key, to which the index is pointed under some values. -/
def write (t : Indexed κ ν ρ) (k : κ) (r : ρ) (points : List ν) : Indexed κ ν ρ where
  primary := Function.update t.primary k (some r)
  index v := if v ∈ points then some k else t.index v

/-- A write that is not always made. -/
def writeSome (t : Indexed κ ν ρ) (w : Option (κ × ρ × List ν)) : Indexed κ ν ρ :=
  w.elim t fun w => t.write w.1 w.2.1 w.2.2

/-- The record that a lookup by the index finds. -/
def find (t : Indexed κ ν ρ) (v : ν) : Option ρ := (t.index v).bind t.primary

/-- The index names records by their own values. -/
def Faithful (field : ρ → ν) (t : Indexed κ ν ρ) : Prop :=
  ∀ v k, t.index v = some k → ∃ r, t.primary k = some r ∧ field r = v

/-- A write is clean when the record has every value that it is pointed to by, and keeps the value by
which the index names it. -/
def Clean (field : ρ → ν) (t : Indexed κ ν ρ) (k : κ) (r : ρ) (points : List ν) : Prop :=
  (∀ v ∈ points, field r = v) ∧
    ∀ old ∈ t.primary k, t.index (field old) = some k → field r = field old

instance (k : κ) (r : ρ) (points : List ν) : Decidable (Clean field t k r points) :=
  inferInstanceAs (Decidable (_ ∧ _))

/-- Clean writes, and no others, keep the index faithful. -/
theorem Faithful.write_iff (h : t.Faithful field) {k : κ} {r : ρ} {points : List ν} :
    (t.write k r points).Faithful field ↔ Clean field t k r points := by
  constructor
  · intro hwrite
    have hat {v : ν} (hv : (t.write k r points).index v = some k) : field r = v := by
      obtain ⟨r', hr', hfield⟩ := hwrite v k hv
      have hself : (t.write k r points).primary k = some r := Function.update_self ..
      rw [hself, Option.some.injEq] at hr'
      exact hr' ▸ hfield
    refine ⟨fun v hv => hat (if_pos hv), fun old _ hindex => hat ?_⟩
    unfold write
    dsimp only
    split
    · rfl
    · exact hindex
  · rintro ⟨hpoints, hkept⟩ v j hj
    unfold write at hj ⊢
    dsimp only at hj ⊢
    by_cases hjk : j = k
    · subst hjk
      refine ⟨r, Function.update_self .., ?_⟩
      split at hj
      · rename_i hv
        exact hpoints v hv
      · obtain ⟨old, hold, rfl⟩ := h v j hj
        exact hkept old hold hj
    · rw [Function.update_of_ne hjk]
      split at hj
      · exact absurd (Option.some.inj hj).symm hjk
      · exact h v j hj

theorem Faithful.writeSome (h : t.Faithful field) {w : Option (κ × ρ × List ν)}
    (hclean : ∀ w' ∈ w, Clean field t w'.1 w'.2.1 w'.2.2) : (t.writeSome w).Faithful field := by
  cases w with
  | none => exact h
  | some w => exact h.write_iff.mpr (hclean w rfl)

/-- What a faithful index finds has the value it was asked for. -/
theorem Faithful.field_find (h : t.Faithful field) {v : ν} {r : ρ} (hfind : t.find v = some r) :
    field r = v := by
  obtain ⟨k, hk, hr⟩ := Option.bind_eq_some_iff.mp hfind
  obtain ⟨r', hr', hfield⟩ := h v k hk
  rw [hr', Option.some.injEq] at hr
  exact hr ▸ hfield

end Indexed

end War3VK.Lib
