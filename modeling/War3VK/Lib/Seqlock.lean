import Mathlib

/-!
# Memories with a generation

Writers change a memory under a lock and count a generation up before their first change and after
their last, so that it is odd while a change is on its way. Readers look things up under a shared lock
and keep what they found with the generation they met. Later they read the generation without a lock.

A `Writing` is what a writer has done under the lock, with every memory that others could meet on the
way. A `Scene` is the memory among any number of writers and readers, and in every scene that can be
reached what a reader was given is what it would be given again, as long as the generation is the one it
came with (`Scene.Coherent.current`).
-/

namespace War3VK.Lib

variable {σ κ α τ ι : Type}

/-- What a writer has done: the memory now, and all memories before it with the last one first. -/
structure Writing (σ : Type) where
  now : σ
  past : List σ

namespace Writing

/-- Nothing is done. -/
def start (s : σ) : Writing σ := ⟨s, []⟩

/-- One more change. -/
def edit (change : σ → σ) (w : Writing σ) : Writing σ := ⟨change w.now, w.now :: w.past⟩

/-- One more change, if a condition holds. -/
def editIf (c : Prop) [Decidable c] (change : σ → σ) (w : Writing σ) : Writing σ :=
  if c then w.edit change else w

/-- All memories, the last one first. -/
def all (w : Writing σ) : List σ := w.now :: w.past

/-- The memories that were made, in their order. -/
def made (w : Writing σ) : List σ := w.all.reverse.tail

/-- A body between two counts of the generation. -/
def guarded (bump : σ → σ) (body : Writing σ → Writing σ) (w : Writing σ) : Writing σ :=
  (body (w.edit bump)).edit bump

@[simp]
theorem now_edit (change : σ → σ) (w : Writing σ) : (w.edit change).now = change w.now := rfl

@[simp]
theorem now_start (s : σ) : (start s).now = s := rfl

end Writing

variable (gen : σ → ℕ) (look : σ → κ → α)

/-- A memory and a later one: the generation is not taken back, and while it is the same even one all
lookups are answered alike. -/
structure Change (before after : σ) : Prop where
  grows : gen before ≤ gen after
  stays : gen after = gen before → Even (gen before) → look after = look before

/-- What a writer does from a memory on, with the parity of the generation it has come to. -/
structure Tracked (parity : ℕ → Prop) (s : σ) (w : Writing σ) : Prop where
  chain : w.all.IsChain fun after before => Change gen look before after
  first : w.all.getLast? = some s
  parity : parity (gen w.now)

variable {gen look} {parity : ℕ → Prop} {s : σ} {w : Writing σ}

theorem Change.refl (s : σ) : Change gen look s s := ⟨Nat.le_refl _, fun _ _ => rfl⟩

theorem Change.trans {a b c : σ} (h : Change gen look a b) (k : Change gen look b c) :
    Change gen look a c where
  grows := Nat.le_trans h.grows k.grows
  stays heq heven := by
    have hb : gen b = gen a := Nat.le_antisymm (heq ▸ k.grows) h.grows
    rw [k.stays (by rw [heq, hb]) (hb ▸ heven), h.stays hb heven]

theorem Change.of_lt {a b : σ} (h : gen a < gen b) : Change gen look a b :=
  ⟨h.le, fun heq _ => absurd heq.symm h.ne⟩

theorem Change.of_eq {a b : σ} (hgen : gen b = gen a) (hlook : look b = look a) :
    Change gen look a b := ⟨hgen.ge, fun _ _ => hlook⟩

theorem Change.of_odd {a b : σ} (hgen : gen b = gen a) (hodd : Odd (gen a)) : Change gen look a b :=
  ⟨hgen.ge, fun _ heven => absurd hodd (Nat.not_odd_iff_even.mpr heven)⟩

namespace Tracked

theorem start (h : parity (gen s)) : Tracked gen look parity s (Writing.start s) :=
  ⟨List.isChain_singleton _, rfl, h⟩

theorem edit {next : ℕ → Prop} (h : Tracked gen look parity s w) {change : σ → σ}
    (hchange : Change gen look w.now (change w.now)) (hnext : next (gen (change w.now))) :
    Tracked gen look next s (w.edit change) where
  chain := List.isChain_cons_cons.mpr ⟨hchange, h.chain⟩
  first := by
    rw [← h.first]
    exact List.getLast?_cons_cons
  parity := hnext

theorem quiet (h : Tracked gen look parity s w) {change : σ → σ}
    (hgen : gen (change w.now) = gen w.now) (hlook : look (change w.now) = look w.now) :
    Tracked gen look parity s (w.edit change) :=
  h.edit (.of_eq hgen hlook) (hgen ▸ h.parity)

theorem inside (h : Tracked gen look Odd s w) {change : σ → σ}
    (hgen : gen (change w.now) = gen w.now) : Tracked gen look Odd s (w.edit change) :=
  h.edit (.of_odd hgen h.parity) (hgen ▸ h.parity)

theorem insideIf (h : Tracked gen look Odd s w) {c : Prop} [Decidable c] {change : σ → σ}
    (hgen : gen (change w.now) = gen w.now) : Tracked gen look Odd s (w.editIf c change) := by
  unfold Writing.editIf
  split
  · exact h.inside hgen
  · exact h

/-- A guarded body makes its changes between two counts. -/
theorem guarded (h : Tracked gen look Even s w) {bump : σ → σ}
    (hbump : ∀ t, gen (bump t) = gen t + 1) {body : Writing σ → Writing σ}
    (hbody : ∀ w', Tracked gen look Odd s w' → Tracked gen look Odd s (body w')) :
    Tracked gen look Even s (w.guarded bump body) := by
  have hlt (t : σ) : gen t < gen (bump t) := by
    rw [hbump]
    exact Nat.lt_succ_self _
  have hopen : Tracked gen look Odd s (w.edit bump) :=
    h.edit (.of_lt (hlt _)) (by rw [hbump]; exact h.parity.add_one)
  have hdone := hbody _ hopen
  exact hdone.edit (.of_lt (hlt _)) (by rw [hbump]; exact hdone.parity.add_one)

theorem foldl {ε : Type} {step : Writing σ → ε → Writing σ} (h : Tracked gen look parity s w)
    (hstep : ∀ w e, Tracked gen look parity s w → Tracked gen look parity s (step w e))
    (list : List ε) : Tracked gen look parity s (list.foldl step w) := by
  induction list generalizing w with
  | nil => exact h
  | cons e list ih => exact ih (hstep w e h)

/-- The memories a writer makes follow from the one it started with. -/
theorem made_chain (h : Tracked gen look parity s w) :
    (s :: w.made).IsChain (Change gen look) ∧
      ∀ last, (s :: w.made).getLast? = some last → parity (gen last) := by
  have hsplit : w.all.reverse = s :: w.made := by
    have hhead : w.all.reverse.head? = some s := by
      rw [List.head?_reverse]
      exact h.first
    exact (List.cons_head?_tail hhead).symm
  refine ⟨hsplit ▸ List.isChain_reverse.mpr h.chain, fun last hlast => ?_⟩
  rw [← hsplit, List.getLast?_reverse] at hlast
  obtain rfl : w.now = last := Option.some.inj hlast
  exact h.parity

end Tracked

/-- Where a reader is in a lookup. -/
inductive Reading (κ α : Type) where
  | idle
  | locked (key : κ)
  | loaded (key : κ) (generation : ℕ)
  | found (key : κ) (generation : ℕ) (answer : α)

/-- What a lookup returned. -/
structure Returned (κ α : Type) where
  key : κ
  generation : ℕ
  answer : α

/-- A memory among writers and readers. -/
structure Scene (σ τ κ α : Type) where
  memory : σ
  /-- What the writer with the lock has still to make, if there is one. -/
  writer : Option (List σ)
  readers : τ → Reading κ α
  returned : List (Returned κ α)

namespace Scene

/-- Before anything happens. -/
def init (s : σ) : Scene σ τ κ α := ⟨s, none, fun _ => .idle, []⟩

/-- A reader comes to its next place. -/
def put [DecidableEq τ] (c : Scene σ τ κ α) (t : τ) (reading : Reading κ α) : Scene σ τ κ α :=
  { c with readers := Function.update c.readers t reading }

variable [DecidableEq τ] (gen look) (op : ι → σ → List σ)

/-- What can happen next, where a writer's call makes the memories that `op` lists. -/
inductive Step : Scene σ τ κ α → Scene σ τ κ α → Prop
  | lockShared {c} (t : τ) (key : κ) (hfree : c.writer = none) (ht : c.readers t = .idle) :
      Step c (c.put t (.locked key))
  | load {c} (t : τ) (key : κ) (ht : c.readers t = .locked key) :
      Step c (c.put t (.loaded key (gen c.memory)))
  | find {c} (t : τ) (key : κ) (g : ℕ) (ht : c.readers t = .loaded key g) :
      Step c (c.put t (.found key g (look c.memory key)))
  | unlockShared {c} (t : τ) (key : κ) (g : ℕ) (a : α) (ht : c.readers t = .found key g a) :
      Step c { c.put t .idle with returned := ⟨key, g, a⟩ :: c.returned }
  | lock {c} (call : ι) (hfree : c.writer = none) (hidle : ∀ t, c.readers t = .idle) :
      Step c { c with writer := some (op call c.memory) }
  | write {c} (s : σ) (rest : List σ) (hw : c.writer = some (s :: rest)) :
      Step c { c with memory := s, writer := some rest }
  | unlock {c} (hw : c.writer = some []) : Step c { c with writer := none }

/-- What can be reached. -/
def Reaches : Scene σ τ κ α → Scene σ τ κ α → Prop := Relation.ReflTransGen (Step gen look op)

variable {gen look op} in
/-- A writer with the lock makes all that it has still to make, and gives the lock back. -/
theorem Reaches.finish {c : Scene σ τ κ α} {rest : List σ} (hw : c.writer = some rest) :
    Reaches gen look op c
      { c with memory := (c.memory :: rest).getLast (List.cons_ne_nil _ _), writer := none } := by
  induction rest generalizing c with
  | nil => exact .single (.unlock hw)
  | cons s rest ih =>
    refine .head (.write s rest hw) ?_
    rw [List.getLast_cons (List.cons_ne_nil s rest)]
    exact ih (c := { c with memory := s, writer := some rest }) rfl

variable {gen look op} in
theorem Reaches.lookup {c : Scene σ τ κ α} (t : τ) (key : κ) (hfree : c.writer = none)
    (hidle : c.readers = fun _ => .idle) :
    Reaches gen look op c
      { c with returned := ⟨key, gen c.memory, look c.memory key⟩ :: c.returned } := by
  let found := ((c.put t (.locked key)).put t (.loaded key (gen c.memory))).put t
    (.found key (gen c.memory) (look c.memory key))
  have hend : { c with returned := ⟨key, gen c.memory, look c.memory key⟩ :: c.returned } =
      { found.put t .idle with
        returned := ⟨key, gen c.memory, look c.memory key⟩ :: found.returned } := by
    simp [found, put, hidle]
  rw [hend]
  refine .head (.lockShared t key hfree (by rw [hidle])) ?_
  refine .head (.load t key (Function.update_self ..)) ?_
  refine .head (.find t key (gen c.memory) (Function.update_self ..)) ?_
  exact .single (.unlockShared t key _ _ (Function.update_self ..))

/-- What holds in every scene. -/
structure Coherent (c : Scene σ τ κ α) : Prop where
  /-- What the writer has still to make follows from the memory. -/
  ahead : (c.memory :: c.writer.getD []).IsChain (Change gen look)
  settles : ∀ last, (c.memory :: c.writer.getD []).getLast? = some last → Even (gen last)
  shared : ∀ t, c.readers t ≠ .idle → c.writer = none
  /-- The generation a reader has read is that of the memory. -/
  loaded : ∀ t key g, c.readers t = .loaded key g → g = gen c.memory
  found : ∀ t key g a, c.readers t = .found key g a → g = gen c.memory ∧ a = look c.memory key
  /-- What was returned is of a memory before this one with an even generation. -/
  kept : ∀ r ∈ c.returned, ∃ s, Change gen look s c.memory ∧ Even (gen s) ∧
    gen s = r.generation ∧ look s r.key = r.answer

variable {gen look op} {c d : Scene σ τ κ α}

omit [DecidableEq τ] in
theorem Coherent.even (h : Coherent gen look c) (hfree : c.writer = none) : Even (gen c.memory) := by
  refine h.settles _ ?_
  rw [hfree]
  rfl

omit [DecidableEq τ] in
theorem Coherent.init {s : σ} (h : Even (gen s)) :
    Coherent gen look (Scene.init s : Scene σ τ κ α) where
  ahead := List.isChain_singleton _
  settles last hlast := by
    obtain rfl : s = last := Option.some.inj hlast
    exact h
  shared t ht := rfl
  loaded t key g ht := by cases ht
  found t key g a ht := by cases ht
  kept r hr := by cases hr

/-- A reader comes to a place that agrees with the memory, while there is no writer. -/
theorem Coherent.put (h : Coherent gen look c) (hfree : c.writer = none) {t : τ} {reading : Reading κ α}
    (hloaded : ∀ key g, reading = .loaded key g → g = gen c.memory)
    (hfound : ∀ key g a, reading = .found key g a → g = gen c.memory ∧ a = look c.memory key) :
    Coherent gen look (c.put t reading) where
  ahead := h.ahead
  settles := h.settles
  shared _ _ := hfree
  loaded t' key g ht' := by
    by_cases heq : t' = t
    · subst heq
      exact hloaded key g (by simpa [Scene.put] using ht')
    · exact h.loaded t' key g (by simpa [Scene.put, heq] using ht')
  found t' key g a ht' := by
    by_cases heq : t' = t
    · subst heq
      exact hfound key g a (by simpa [Scene.put] using ht')
    · exact h.found t' key g a (by simpa [Scene.put, heq] using ht')
  kept := h.kept

/-- What happens next keeps what holds, when every call is tracked. -/
theorem Coherent.step (hop : ∀ call s, Even (gen s) → (s :: op call s).IsChain (Change gen look) ∧
        ∀ last, (s :: op call s).getLast? = some last → Even (gen last))
    (h : Coherent gen look c) (hstep : Step gen look op c d) : Coherent gen look d := by
  cases hstep with
  | lockShared t key hfree ht =>
    exact h.put hfree (fun _ _ hr => by cases hr) (fun _ _ _ hr => by cases hr)
  | load t key ht =>
    have hfree := h.shared t (by rw [ht]; exact fun hr => by cases hr)
    exact h.put hfree (fun _ _ hr => by cases hr; rfl) (fun _ _ _ hr => by cases hr)
  | find t key g ht =>
    have hfree := h.shared t (by rw [ht]; exact fun hr => by cases hr)
    have hg := h.loaded t key g ht
    exact h.put hfree (fun _ _ hr => by cases hr) (fun _ _ _ hr => by cases hr; exact ⟨hg, rfl⟩)
  | unlockShared t key g a ht =>
    have hfree := h.shared t (by rw [ht]; exact fun hr => by cases hr)
    obtain ⟨hg, ha⟩ := h.found t key g a ht
    have hput : Coherent gen look (c.put t .idle) :=
      h.put hfree (fun _ _ hr => by cases hr) (fun _ _ _ hr => by cases hr)
    refine ⟨hput.ahead, hput.settles, hput.shared, hput.loaded, hput.found, fun r hr => ?_⟩
    obtain rfl | hr := List.mem_cons.mp hr
    · -- The memory it was read from is the memory now.
      exact ⟨c.memory, .refl _, h.even hfree, hg.symm, ha.symm⟩
    · exact h.kept r hr
  | lock call hfree hidle =>
    obtain ⟨hahead, hsettles⟩ := hop call c.memory (h.even hfree)
    exact ⟨hahead, hsettles, fun t ht => absurd (hidle t) ht, h.loaded, h.found, h.kept⟩
  | write s rest hw =>
    have hahead := h.ahead
    have hsettles := h.settles
    rw [hw, Option.getD_some] at hahead hsettles
    have hchange := (List.isChain_cons_cons.mp hahead).1
    -- There is no reader to notice.
    have hidle : ∀ t, c.readers t = .idle := fun t => by
      by_contra ht
      have hfree := h.shared t ht
      rw [hw] at hfree
      cases hfree
    exact {
      ahead := (List.isChain_cons_cons.mp hahead).2
      settles := fun last hlast => hsettles last (by rwa [List.getLast?_cons_cons])
      shared := fun t ht => absurd (hidle t) ht
      loaded := fun t key g ht => by rw [hidle t] at ht; cases ht
      found := fun t key g a ht => by rw [hidle t] at ht; cases ht
      kept := fun r hr => by
        obtain ⟨s', hs', rest'⟩ := h.kept r hr
        exact ⟨s', hs'.trans hchange, rest'⟩ }
  | unlock hw =>
    have hahead := h.ahead
    have hsettles := h.settles
    rw [hw] at hahead hsettles
    exact ⟨hahead, hsettles, fun _ _ => rfl, h.loaded, h.found, h.kept⟩

/-- So it holds in every scene that can be reached. -/
theorem Coherent.of_reaches {s : σ} (hs : Even (gen s))
    (hop : ∀ call s, Even (gen s) → (s :: op call s).IsChain (Change gen look) ∧
        ∀ last, (s :: op call s).getLast? = some last → Even (gen last))
    (h : Reaches gen look op (Scene.init s) c) : Coherent gen look c := by
  induction h with
  | refl => exact .init hs
  | tail _ hstep ih => exact ih.step hop hstep

omit [DecidableEq τ] in
/-- What was returned with the generation of now is what would be returned now. -/
theorem Coherent.current (h : Coherent gen look c) {r : Returned κ α} (hr : r ∈ c.returned)
    (hgen : gen c.memory = r.generation) : look c.memory r.key = r.answer := by
  obtain ⟨s, hchange, heven, hg, hlook⟩ := h.kept r hr
  calc look c.memory r.key = look s r.key := by rw [hchange.stays (by rw [hgen, hg]) heven]
    _ = r.answer := hlook

end Scene

end War3VK.Lib
