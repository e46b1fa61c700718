import Mathlib.Data.List.Induction

/-!
# Machines and their logs

A component whose calls change its state and return an output is a `step`. `run` is its state after a
list of calls, and `history` records each call with the state it met and the output it returned.
-/

namespace War3VK.Lib

variable {σ ι ο : Type}

/-- One call as it happened: the state before it, the call and its output. -/
structure Record (σ ι ο : Type) where
  before : σ
  call : ι
  output : ο

/-- A call as it happens in a state. -/
def record (step : ι → σ → ο × σ) (s : σ) (i : ι) : Record σ ι ο := ⟨s, i, (step i s).1⟩

/-- The state after a list of calls. -/
def run (step : ι → σ → ο × σ) (calls : List ι) (s : σ) : σ :=
  calls.foldl (fun s i => (step i s).2) s

/-- The records of a list of calls. -/
def history (step : ι → σ → ο × σ) : List ι → σ → List (Record σ ι ο)
  | [], _ => []
  | i :: rest, s => record step s i :: history step rest (step i s).2

variable (step : ι → σ → ο × σ)

@[simp]
theorem run_nil (s : σ) : run step [] s = s := rfl

@[simp]
theorem run_cons (i : ι) (calls : List ι) (s : σ) :
    run step (i :: calls) s = run step calls (step i s).2 := rfl

theorem run_append (calls more : List ι) (s : σ) :
    run step (calls ++ more) s = run step more (run step calls s) := by
  rw [run, List.foldl_append]
  rfl

theorem history_append (calls more : List ι) (s : σ) :
    history step (calls ++ more) s = history step calls s ++ history step more (run step calls s) := by
  induction calls generalizing s with
  | nil => rfl
  | cons i calls ih => rw [List.cons_append, history, history, ih, run_cons, List.cons_append]

theorem history_map_call (calls : List ι) (s : σ) :
    (history step calls s).map Record.call = calls := by
  induction calls generalizing s with
  | nil => rfl
  | cons i calls ih => rw [history, List.map_cons, ih, record]

theorem history_getElem? {calls : List ι} {s : σ} {n : ℕ} {i : ι} {o : ο} (hi : calls[n]? = some i)
    (ho : ((history step calls s).map Record.output)[n]? = some o) :
    ∃ t, (history step calls s)[n]? = some ⟨t, i, o⟩ := by
  rw [List.getElem?_map] at ho
  obtain ⟨r, hr, rfl⟩ := Option.map_eq_some_iff.mp ho
  have hcall := congrArg (·[n]?) (history_map_call step calls s)
  simp only [List.getElem?_map, hr, hi, Option.map_some, Option.some.injEq] at hcall
  exact ⟨r.before, by rw [hr, ← hcall]⟩

/-- A record in the middle of a history is that of a call after the calls before it. -/
theorem history_split {calls : List ι} {s : σ} {before after : List (Record σ ι ο)}
    {r : Record σ ι ο} (h : history step calls s = before ++ r :: after) :
    ∃ earlier i later, calls = earlier ++ i :: later ∧ before = history step earlier s ∧
      r = record step (run step earlier s) i ∧
        after = history step later (step i (run step earlier s)).2 := by
  induction before generalizing calls s with
  | nil =>
    cases calls with
    | nil => simp [history] at h
    | cons i calls =>
      rw [history, List.nil_append, List.cons.injEq] at h
      exact ⟨[], i, calls, rfl, rfl, h.1.symm, h.2.symm⟩
  | cons b before ih =>
    cases calls with
    | nil => simp [history] at h
    | cons i calls =>
      rw [history, List.cons_append, List.cons.injEq] at h
      obtain ⟨earlier, j, later, rfl, hbefore, hr, hafter⟩ := ih h.2
      exact ⟨i :: earlier, j, later, rfl, by rw [history, ← hbefore, h.1], hr, hafter⟩

/-- The beginning of a history is the history of the first calls. -/
theorem history_prefix {calls : List ι} {s : σ} {before after : List (Record σ ι ο)}
    (h : history step calls s = before ++ after) :
    ∃ earlier later, calls = earlier ++ later ∧ before = history step earlier s ∧
      after = history step later (run step earlier s) := by
  cases after with
  | nil =>
    rw [List.append_nil] at h
    exact ⟨calls, [], by simp, h.symm, rfl⟩
  | cons r after =>
    obtain ⟨earlier, i, later, rfl, hbefore, hr, hafter⟩ := history_split step h
    exact ⟨earlier, i :: later, rfl, hbefore, by rw [history, hr, hafter]⟩

/-- What holds before any call and is preserved by one call holds after every list of calls. -/
theorem history_induction {Inv : σ → List (Record σ ι ο) → Prop} {s : σ} (init : Inv s [])
    (preserve : ∀ t past i, Inv t past → Inv (step i t).2 (past ++ [record step t i]))
    (calls : List ι) : Inv (run step calls s) (history step calls s) := by
  induction calls using List.reverseRecOn with
  | nil => exact init
  | append_singleton calls i ih =>
    rw [run_append, history_append]
    exact preserve _ _ i ih

/-- What holds before any call and is preserved by a call that meets a condition holds after every
list of calls that all meet it. -/
theorem history_induction_of {Inv : σ → List (Record σ ι ο) → Prop} {P : Record σ ι ο → Prop} {s : σ}
    (init : Inv s [])
    (preserve : ∀ t past i, Inv t past → P (record step t i) → Inv (step i t).2 (past ++ [record step t i]))
    (calls : List ι) (h : ∀ r ∈ history step calls s, P r) :
    Inv (run step calls s) (history step calls s) := by
  induction calls using List.reverseRecOn with
  | nil => exact init
  | append_singleton calls i ih =>
    rw [history_append, List.forall_mem_append] at h
    rw [run_append, history_append]
    exact preserve _ _ i (ih h.1) (h.2 _ (List.mem_singleton_self _))

/-- What holds of every record that is made in a state with an invariant holds of all records. -/
theorem forall_mem_history {Inv : σ → Prop} {P : Record σ ι ο → Prop} {s : σ} (init : Inv s)
    (preserve : ∀ t i, Inv t → Inv (step i t).2) (hP : ∀ t i, Inv t → P (record step t i))
    (calls : List ι) : ∀ r ∈ history step calls s, P r := by
  induction calls generalizing s with
  | nil => simp [history]
  | cons i calls ih =>
    rw [history, List.forall_mem_cons]
    exact ⟨hP s i init, ih (preserve s i init)⟩

/-- A measure that no call decreases has, before each call, at least the value that any earlier call
left. -/
theorem history_pairwise {μ : σ → ℕ} (mono : ∀ t i, μ t ≤ μ (step i t).2) (calls : List ι) (s : σ) :
    (history step calls s).Pairwise fun r r' => μ (step r.call r.before).2 ≤ μ r'.before := by
  have hbelow : ∀ (calls : List ι) (s : σ), ∀ r ∈ history step calls s, μ s ≤ μ r.before := by
    intro calls
    induction calls with
    | nil => simp [history]
    | cons i calls ih =>
      intro s
      rw [history, List.forall_mem_cons]
      exact ⟨Nat.le_refl _, fun r hr => Nat.le_trans (mono s i) (ih _ r hr)⟩
  induction calls generalizing s with
  | nil => exact List.Pairwise.nil
  | cons i calls ih =>
    rw [history, List.pairwise_cons]
    exact ⟨hbelow calls (step i s).2, ih _⟩

theorem run_induction {Inv : σ → Prop} {s : σ} (init : Inv s)
    (preserve : ∀ t i, Inv t → Inv (step i t).2) (calls : List ι) : Inv (run step calls s) :=
  @history_induction _ _ _ step (fun t _ => Inv t) s init (fun t _ i => preserve t i) calls

/-- Two runs of the same calls return the same, when a relation of their states makes every call
that meets a condition in both return the same and is preserved by it. -/
theorem outputs_eq_of_related {R : σ → σ → Prop} {P : Record σ ι ο → Prop}
    (preserve : ∀ s t i, R s t → P (record step s i) → P (record step t i) →
      (step i s).1 = (step i t).1 ∧ R (step i s).2 (step i t).2)
    (calls : List ι) {s t : σ} (hst : R s t) (hs : ∀ r ∈ history step calls s, P r)
    (ht : ∀ r ∈ history step calls t, P r) :
    (history step calls s).map Record.output = (history step calls t).map Record.output := by
  induction calls generalizing s t with
  | nil => rfl
  | cons i calls ih =>
    rw [history, List.forall_mem_cons] at hs ht
    obtain ⟨hout, hnext⟩ := preserve s t i hst hs.1 ht.1
    rw [history, history, List.map_cons, List.map_cons, ih hnext hs.2 ht.2, record, record, hout]

/-- Two machines return the same over the same calls, when a relation of their states makes every call
return the same and is preserved by it. -/
theorem run_related {τ : Type} {step' : ι → τ → ο × τ} {R : σ → τ → Prop}
    (preserve : ∀ s t i, R s t → (step i s).1 = (step' i t).1 ∧ R (step i s).2 (step' i t).2)
    (calls : List ι) {s : σ} {t : τ} (hst : R s t) :
    (history step calls s).map Record.output = (history step' calls t).map Record.output ∧
      R (run step calls s) (run step' calls t) := by
  induction calls generalizing s t with
  | nil => exact ⟨rfl, hst⟩
  | cons i calls ih =>
    obtain ⟨hout, hnext⟩ := preserve s t i hst
    obtain ⟨houtputs, hrun⟩ := ih hnext
    rw [history, history, List.map_cons, List.map_cons, houtputs, record, record, hout]
    exact ⟨rfl, hrun⟩

/-- An element of a list with one more is the last one or was there. -/
theorem split_concat {α : Type} {l before after : List α} {last a : α}
    (h : l ++ [last] = before ++ a :: after) :
    (∃ after', l = before ++ a :: after') ∨ before = l ∧ a = last := by
  induction after using List.reverseRecOn with
  | nil =>
    obtain ⟨hl, hlast⟩ := List.append_inj' h rfl
    exact .inr ⟨hl.symm, (List.singleton_inj.mp hlast).symm⟩
  | append_singleton after x ih =>
    rw [← List.cons_append, ← List.append_assoc] at h
    exact .inl ⟨after, (List.append_inj' h rfl).1⟩

theorem filterMap_concat {α β : Type} (f : α → Option β) (l : List α) (a : α) :
    (l ++ [a]).filterMap f = l.filterMap f ++ (f a).toList := by
  rw [List.filterMap_append]
  cases h : f a <;> simp [h]

end War3VK.Lib
