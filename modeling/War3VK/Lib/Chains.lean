import Mathlib.Data.List.Nodup
import Mathlib.Logic.Function.Basic

/-!
# Linked lists in a memory

A memory of nodes gives each node the next one. `Leads` walks along it, and `Ends` says that the walk is
a list that ends at the null node.
-/

namespace War3VK.Lib

variable {α : Type} {next next' : α → α} {null : α}

/-- The nodes that are walked over from a node to another one. -/
def Leads (next : α → α) : α → List α → α → Prop
  | p, [], q => p = q
  | p, a :: l, q => p = a ∧ Leads next (next a) l q

/-- A walk can be checked. -/
instance Leads.decidable [DecidableEq α] (next : α → α) :
    (p : α) → (l : List α) → (q : α) → Decidable (Leads next p l q)
  | p, [], q => inferInstanceAs (Decidable (p = q))
  | p, a :: l, q =>
    have : Decidable (Leads next (next a) l q) := Leads.decidable next (next a) l q
    inferInstanceAs (Decidable (p = a ∧ Leads next (next a) l q))

/-- The nodes of a list that ends. -/
structure Ends (next : α → α) (null : α) (p : α) (l : List α) : Prop where
  leads : Leads next p l null
  nonnull : null ∉ l

variable {p : α} {l l' : List α}

theorem leads_append {q : α} :
    Leads next p (l ++ l') q ↔ ∃ m, Leads next p l m ∧ Leads next m l' q := by
  induction l generalizing p with
  | nil => simp [Leads]
  | cons a l ih =>
    rw [List.cons_append, Leads, ih]
    simp only [Leads, exists_and_left, and_assoc]

theorem leads_concat {q a : α} : Leads next p (l ++ [a]) q ↔ Leads next p l a ∧ next a = q := by
  rw [leads_append]
  constructor
  · rintro ⟨m, hl, rfl, hq⟩
    exact ⟨hl, hq⟩
  · rintro ⟨hl, hq⟩
    exact ⟨a, hl, rfl, hq⟩

theorem Leads.frame {q : α} (h : Leads next p l q) (hsame : ∀ a ∈ l, next' a = next a) :
    Leads next' p l q := by
  induction l generalizing p with
  | nil => exact h
  | cons a l ih =>
    rw [List.forall_mem_cons] at hsame
    exact ⟨h.1, hsame.1 ▸ ih h.2 hsame.2⟩

theorem Ends.frame (h : Ends next null p l) (hsame : ∀ a ∈ l, next' a = next a) :
    Ends next' null p l :=
  ⟨h.leads.frame hsame, h.nonnull⟩

theorem ends_cons {a : α} :
    Ends next null p (a :: l) ↔ p = a ∧ a ≠ null ∧ Ends next null (next a) l := by
  constructor
  · rintro ⟨⟨rfl, hleads⟩, hnull⟩
    rw [List.mem_cons, not_or] at hnull
    exact ⟨rfl, Ne.symm hnull.1, hleads, hnull.2⟩
  · rintro ⟨rfl, hne, hleads, hnull⟩
    exact ⟨⟨rfl, hleads⟩, List.not_mem_cons_of_ne_of_not_mem hne.symm hnull⟩

theorem Ends.of_append (h : Ends next null p (l ++ l')) :
    ∃ m, Leads next p l m ∧ Ends next null m l' := by
  obtain ⟨m, hl, hl'⟩ := leads_append.mp h.leads
  exact ⟨m, hl, hl', fun hmem => h.nonnull (List.mem_append_right l hmem)⟩

theorem Ends.unique (h : Ends next null p l) (h' : Ends next null p l') : l = l' := by
  induction l generalizing p l' with
  | nil =>
    cases l' with
    | nil => rfl
    | cons a l' =>
      obtain ⟨rfl, hne, -⟩ := ends_cons.mp h'
      exact absurd h.leads hne
  | cons a l ih =>
    obtain ⟨rfl, hne, hrest⟩ := ends_cons.mp h
    cases l' with
    | nil => exact absurd h'.leads hne
    | cons c l' =>
      obtain ⟨rfl, -, hrest'⟩ := ends_cons.mp h'
      rw [ih hrest hrest']

/-- A list has no node twice: behind both would be the same list. -/
theorem Ends.nodup (h : Ends next null p l) : l.Nodup := by
  induction l generalizing p with
  | nil => exact List.nodup_nil
  | cons a l ih =>
    obtain ⟨-, -, hrest⟩ := ends_cons.mp h
    rw [List.nodup_cons]
    refine ⟨fun hmem => ?_, ih hrest⟩
    obtain ⟨l₁, l₂, rfl⟩ := List.append_of_mem hmem
    obtain ⟨m, -, hm⟩ := hrest.of_append
    obtain ⟨-, -, hl₂⟩ := ends_cons.mp hm
    have hlength := congrArg List.length (hl₂.unique hrest)
    simp at hlength
    omega

variable [DecidableEq α]

end War3VK.Lib
