import Mathlib

/-!
# What calls leave behind

Some calls add an entry, and every call removes some of those that are there. What survives a list of
calls is what one of them has added and none behind it has removed. A store whose steps add and remove
in this way holds exactly the survivors (`holds_foldl_iff`).
-/

namespace War3VK.Lib

variable {σ ι α : Type} (adds : ι → Option α) (removes : ι → α → Prop)

/-- An entry is added by a call, and none behind it removes it. -/
def Survives (calls : List ι) (a : α) : Prop :=
  ∃ before call after, calls = before ++ call :: after ∧ adds call = some a ∧
    ∀ later ∈ after, ¬removes later a

variable {adds removes}

theorem not_survives_nil (a : α) : ¬Survives adds removes [] a := by
  rintro ⟨before, call, after, heq, -⟩
  exact absurd heq (by simp)

/-- What survives one more call is what it adds, and what it does not remove. -/
theorem survives_concat (calls : List ι) (call : ι) (a : α) :
    Survives adds removes (calls ++ [call]) a ↔
      adds call = some a ∨ Survives adds removes calls a ∧ ¬removes call a := by
  constructor
  · rintro ⟨before, first, after, heq, hadds, hlater⟩
    rcases List.eq_nil_or_concat' after with rfl | ⟨init, last, rfl⟩
    · obtain ⟨-, hlast⟩ := List.append_inj' heq rfl
      obtain rfl := List.singleton_injective hlast
      exact .inl hadds
    · have heq : calls ++ [call] = (before ++ first :: init) ++ [last] := by
        rw [heq, List.append_assoc, List.cons_append]
      obtain ⟨hcalls, hlast⟩ := List.append_inj' heq rfl
      obtain rfl := List.singleton_injective hlast
      refine .inr ⟨⟨before, first, init, hcalls, hadds, fun later hmem => ?_⟩, ?_⟩
      · exact hlater later (List.mem_append_left _ hmem)
      · exact hlater call (List.mem_append_right _ (List.mem_singleton_self call))
  · rintro (hadds | ⟨⟨before, first, after, heq, hadds, hlater⟩, hkept⟩)
    · exact ⟨calls, call, [], rfl, hadds, fun later hmem => absurd hmem List.not_mem_nil⟩
    · refine ⟨before, first, after ++ [call], ?_, hadds, fun later hmem => ?_⟩
      · rw [heq, List.append_assoc, List.cons_append]
      · rcases List.mem_append.mp hmem with hmem | hmem
        · exact hlater later hmem
        · rw [List.mem_singleton.mp hmem]
          exact hkept

/-- A store whose steps add and remove holds exactly the survivors. -/
theorem holds_foldl_iff {step : σ → ι → σ} {inv : σ → Prop} {holds : σ → α → Prop} {s₀ : σ}
    (hinit : inv s₀) (hempty : ∀ a, ¬holds s₀ a) (hinv : ∀ s call, inv s → inv (step s call))
    (hstep : ∀ s call a, inv s → (holds (step s call) a ↔ adds call = some a ∨ holds s a ∧ ¬removes call a))
    (calls : List ι) :
    inv (calls.foldl step s₀) ∧ ∀ a, holds (calls.foldl step s₀) a ↔ Survives adds removes calls a := by
  induction calls using List.reverseRecOn with
  | nil => exact ⟨hinit, fun a => iff_of_false (hempty a) (not_survives_nil a)⟩
  | append_singleton calls call ih =>
    rw [List.foldl_append, List.foldl_cons, List.foldl_nil]
    refine ⟨hinv _ call ih.1, fun a => ?_⟩
    rw [hstep _ call a ih.1, ih.2 a, survives_concat]

end War3VK.Lib
