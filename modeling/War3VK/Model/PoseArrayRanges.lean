import War3VK.Lib.Machine
import Mathlib

/-!
# The ranges of pose arrays

Which runtime model a matrix of a pose array belongs to (`RememberRuntimePoseArrayRange` and
`TryFindRuntimePoseArrayRangeForMatrix`, `src/src/d3d9/war3/model/war3_model_hook.cpp`). One map has the
range of each model, another the range for the address of each matrix, and each thread keeps the range
that it found last. A range that is dropped from the maps is not dropped from the threads, and takes
addresses with it that are another model's by now.
-/

namespace War3VK.Model.PoseArrayRanges

open Lib

/-- `RuntimePoseArrayRange`, as `TryReadRuntimePoseArrayRange` returns it: the memory is readable, so
that no address is past its end. -/
structure Range where
  runtimeModel : ℕ
  matrixArray : ℕ
  matrixCount : ℕ
  checked : 0 < runtimeModel ∧ 0 < matrixArray ∧ 0 < matrixCount ∧ matrixCount ≤ 256
deriving DecidableEq

/-- The address is that of a matrix of the range. -/
def Range.Has (r : Range) (dest : ℕ) : Prop :=
  r.matrixArray ≤ dest ∧ dest < r.matrixArray + r.matrixCount * 48 ∧ (dest - r.matrixArray) % 48 = 0

instance (r : Range) (dest : ℕ) : Decidable (r.Has dest) := by
  unfold Range.Has
  infer_instance

def Range.index (r : Range) (dest : ℕ) : ℕ := (dest - r.matrixArray) / 48

structure State where
  /-- `g_runtimePoseArrayByModel`. -/
  byModel : ℕ → Option Range := fun _ => none
  /-- `g_runtimePoseArrayByMatrixPtr`. -/
  byMatrixPtr : ℕ → Option Range := fun _ => none
  /-- Whether `g_runtimePoseArrayRegistrySize` is not `0`. -/
  registered : Bool := false
  /-- `s_lastRange` of each thread. -/
  lastRange : ℕ → Option Range := fun _ => none

inductive Call where
  /-- `RememberRuntimePoseArrayRange`, with the range that was read. -/
  | remember (range : Option Range)
  /-- `TryFindRuntimePoseArrayRangeForMatrix`. -/
  | find (thread destMatrixPtr : ℕ)
  /-- `ResetMapSession`. -/
  | resetMapSession

/-- A range in the place of the one that its model had. -/
def State.record (s : State) (r : Range) : State where
  byModel := Function.update s.byModel r.runtimeModel (some r)
  byMatrixPtr dest :=
    if r.Has dest then some r
    else if (s.byModel r.runtimeModel).any fun old => old.Has dest then none
    else s.byMatrixPtr dest
  registered := true
  lastRange := s.lastRange

/-- The search: the range with the index of the matrix in it. -/
def State.find (s : State) (thread dest : ℕ) : Option (Range × ℕ) × State :=
  if dest = 0 ∨ s.registered = false then (none, s)
  else
    match (s.lastRange thread).filter fun r => r.Has dest with
    | some r => (some (r, r.index dest), s)
    | none =>
      match s.byMatrixPtr dest with
      | none => (none, s)
      | some r => (some (r, r.index dest),
          { s with lastRange := Function.update s.lastRange thread (some r) })

def step (call : Call) (s : State) : Option (Range × ℕ) × State :=
  match call with
  | .remember none => (none, s)
  | .remember (some r) => (none, if s.byModel r.runtimeModel = some r then s else s.record r)
  | .find thread dest => s.find thread dest
  | .resetMapSession =>
    (none, { s with byModel := fun _ => none, byMatrixPtr := fun _ => none, registered := false })

/-! ## What is dropped -/

/-- The ranges that a call drops. -/
def Call.Drops (s : State) (call : Call) (old : Range) : Prop :=
  s.byModel old.runtimeModel = some old ∧
    match call with
    | .remember (some r) => r.runtimeModel = old.runtimeModel ∧ r ≠ old
    | .resetMapSession => True
    | _ => False

/-- A call drops no range that a thread keeps, and no address that another model's range has, unless
it is recorded anew. -/
structure Call.Clean (s : State) (call : Call) : Prop where
  kept : ∀ thread old, call.Drops s old → s.lastRange thread ≠ some old
  shared : ∀ r old other dest, call = .remember (some r) → call.Drops s old → old.Has dest →
    s.byModel other.runtimeModel = some other → other.runtimeModel ≠ r.runtimeModel →
      other.Has dest → r.Has dest

theorem Call.Clean.of_not_drops {s : State} {call : Call} (h : ∀ old, ¬call.Drops s old) :
    call.Clean s where
  kept _ old hdrops := absurd hdrops (h old)
  shared _ old _ _ _ hdrops := absurd hdrops (h old)

/-- The map of addresses has only ranges that are recorded; so have the threads, and every address of
a recorded range is found. -/
structure Current (s : State) : Prop where
  keyed : ∀ model r, s.byModel model = some r → r.runtimeModel = model
  address : ∀ dest r, s.byMatrixPtr dest = some r → s.byModel r.runtimeModel = some r ∧ r.Has dest
  thread : ∀ thread r, s.lastRange thread = some r → s.byModel r.runtimeModel = some r
  found : ∀ r dest, s.byModel r.runtimeModel = some r → r.Has dest → s.byMatrixPtr dest ≠ none
  registered : ∀ model r, s.byModel model = some r → s.registered = true

variable {s : State}

theorem Current.of_none (hmodel : ∀ model, s.byModel model = none)
    (haddress : ∀ dest, s.byMatrixPtr dest = none) (hthread : ∀ thread, s.lastRange thread = none) :
    Current s where
  keyed model r h := absurd h (by simp [hmodel])
  address dest r h := absurd h (by simp [haddress])
  thread thread r h := absurd h (by simp [hthread])
  found r _ h := absurd h (by simp [hmodel])
  registered model r h := absurd h (by simp [hmodel])

theorem Current.record (h : Current s) {r : Range} (hnew : s.byModel r.runtimeModel ≠ some r)
    (hclean : Call.Clean s (.remember (some r))) : Current (s.record r) := by
  have hat : (s.record r).byModel r.runtimeModel = some r := Function.update_self ..
  have hother {model : ℕ} (hne : model ≠ r.runtimeModel) :
      (s.record r).byModel model = s.byModel model := Function.update_of_ne hne ..
  have hdrops {old : Range} (hold : s.byModel r.runtimeModel = some old) :
      Call.Drops s (.remember (some r)) old := by
    have hkey := h.keyed _ _ hold
    exact ⟨hkey ▸ hold, hkey.symm, fun heq => hnew (heq ▸ hold)⟩
  refine
    { keyed := fun model x hx => ?_
      address := fun dest x hx => ?_
      thread := fun thread x hx => ?_
      found := fun x dest hx hhas => ?_
      registered := fun _ _ _ => rfl }
  · by_cases hne : model = r.runtimeModel
    · rw [hne, hat, Option.some.injEq] at hx
      rw [← hx, hne]
    · rw [hother hne] at hx
      exact h.keyed model x hx
  · unfold State.record at hx
    dsimp only at hx
    split_ifs at hx with hhas hold
    · obtain rfl := Option.some.inj hx
      exact ⟨hat, hhas⟩
    · obtain ⟨hx, hhas'⟩ := h.address dest x hx
      refine ⟨?_, hhas'⟩
      rw [hother]
      · exact hx
      · -- An address that the model's old range had is gone from the map.
        intro heq
        rw [heq] at hx
        rw [hx, Option.any_some] at hold
        exact hold (decide_eq_true hhas')
  · have hold := h.thread thread x hx
    by_cases hne : x.runtimeModel = r.runtimeModel
    · exact absurd hx (hclean.kept thread x (hdrops (hne ▸ hold)))
    · rw [hother hne]
      exact hold
  · unfold State.record
    dsimp only
    split_ifs with hhas' hold
    · simp
    · rcases holds : s.byModel r.runtimeModel with _ | old
      · rw [holds] at hold
        cases hold
      rw [holds, Option.any_some] at hold
      by_cases hne : x.runtimeModel = r.runtimeModel
      · rw [hne, hat, Option.some.injEq] at hx
        exact absurd (hx ▸ hhas) hhas'
      · rw [hother hne] at hx
        exact absurd (hclean.shared r old x dest rfl (hdrops holds) (of_decide_eq_true hold) hx hne
          hhas) hhas'
    · by_cases hne : x.runtimeModel = r.runtimeModel
      · rw [hne, hat, Option.some.injEq] at hx
        exact absurd (hx ▸ hhas) hhas'
      · rw [hother hne] at hx
        exact h.found x dest hx hhas

theorem Current.step (h : Current s) {call : Call} (hclean : call.Clean s) :
    Current (step call s).2 := by
  cases call with
  | remember range =>
    cases range with
    | none => exact h
    | some r =>
      unfold PoseArrayRanges.step
      dsimp only
      split_ifs with hsame
      · exact h
      · exact h.record hsame hclean
  | find thread dest =>
    unfold PoseArrayRanges.step State.find
    dsimp only
    split_ifs
    · exact h
    split
    · exact h
    split
    · exact h
    · rename_i r hr
      refine ⟨h.keyed, h.address, fun other x hx => ?_, h.found, h.registered⟩
      dsimp only at hx
      by_cases hne : other = thread
      · rw [hne, Function.update_self, Option.some.injEq] at hx
        exact hx ▸ (h.address dest r hr).1
      · rw [Function.update_of_ne hne] at hx
        exact h.thread other x hx
  | resetMapSession =>
    refine .of_none (fun _ => rfl) (fun _ => rfl) fun thread => ?_
    exact Option.eq_none_iff_forall_ne_some.mpr fun r hr =>
      hclean.kept thread r ⟨h.thread thread r hr, trivial⟩ hr

/-- A search answers with the range that is recorded now and the place of the address in it, and finds
every address that some recorded range has. -/
theorem Current.find_spec (h : Current s) (thread dest : ℕ) :
    (∀ r i, (s.find thread dest).1 = some (r, i) →
      s.byModel r.runtimeModel = some r ∧ i < r.matrixCount ∧ r.matrixArray + i * 48 = dest) ∧
    ∀ r, s.byModel r.runtimeModel = some r → r.Has dest → (s.find thread dest).1 ≠ none := by
  have hplace {r : Range} (hhas : r.Has dest) :
      r.index dest < r.matrixCount ∧ r.matrixArray + r.index dest * 48 = dest := by
    obtain ⟨hle, hlt, hmod⟩ := hhas
    unfold Range.index
    omega
  unfold State.find
  constructor
  · intro r i hfind
    split_ifs at hfind
    split at hfind
    · rename_i last hlast
      obtain ⟨hlast, hhas⟩ := Option.filter_eq_some_iff.mp hlast
      obtain ⟨rfl, rfl⟩ := Prod.mk.inj (Option.some.inj hfind)
      exact ⟨h.thread thread last hlast, hplace (of_decide_eq_true hhas)⟩
    · split at hfind
      · cases hfind
      · rename_i x hx
        obtain ⟨rfl, rfl⟩ := Prod.mk.inj (Option.some.inj hfind)
        obtain ⟨hmodel, hhas⟩ := h.address dest x hx
        exact ⟨hmodel, hplace hhas⟩
  · intro r hr hhas
    have hdest : ¬(dest = 0 ∨ s.registered = false) := by
      rw [h.registered _ r hr]
      have hpos := r.checked.2.1
      have hle := hhas.1
      rintro (hzero | hnot)
      · omega
      · cases hnot
    rw [if_neg hdest]
    split
    · simp
    · split
      · rename_i hnone
        exact absurd hnone (h.found r dest hr hhas)
      · simp

/-- In every run that drops no range while a thread keeps it, and no address of another model's range,
a search that succeeds returns the range that is recorded for its model now, with the index of the
address in it; and the address of a matrix of exactly one recorded range is found. -/
theorem find_current (calls : List Call)
    (hclean : ∀ r ∈ history step calls {}, Call.Clean r.before r.call) (thread dest : ℕ) :
    let s := run step calls {}
    (∀ r i, (step (.find thread dest) s).1 = some (r, i) →
      s.byModel r.runtimeModel = some r ∧ i < r.matrixCount ∧ r.matrixArray + i * 48 = dest) ∧
    ((∃! r, s.byModel r.runtimeModel = some r ∧ r.Has dest) →
      (step (.find thread dest) s).1 ≠ none) := by
  intro s
  have hcurrent : Current s := @history_induction_of _ _ _ step (fun t _ => Current t)
    (fun r => Call.Clean r.before r.call) {} (.of_none (fun _ => rfl) (fun _ => rfl) fun _ => rfl)
    (fun _ _ _ h hc => h.step hc) calls hclean
  obtain ⟨hsound, hfound⟩ := hcurrent.find_spec thread dest
  exact ⟨hsound, fun ⟨r, ⟨hr, hhas⟩, _⟩ => hfound r hr hhas⟩

/-- One model is recorded and searched, then another one. -/
theorem find_current_two_models :
    let first : Range := ⟨1, 0x1000, 2, by decide⟩
    let second : Range := ⟨2, 0x2000, 2, by decide⟩
    let s := run step [.remember (some first), .find 0 0x1030, .remember (some second)] {}
    (step (.find 0 0x2030) s).1 = some (second, 1) ∧ s.byModel 2 = some second := by
  intro first second s
  have hclean : ∀ r ∈ history step [.remember (some first), .find 0 0x1030, .remember (some second)] {},
      Call.Clean r.before r.call := by
    refine List.forall_mem_cons.mpr ⟨.of_not_drops fun old h => ?_,
      List.forall_mem_cons.mpr ⟨.of_not_drops fun old h => h.2,
        List.forall_mem_cons.mpr ⟨.of_not_drops fun old h => ?_, fun r hr => ?_⟩⟩⟩
    · cases h.1
    · have hmodel : second.runtimeModel = old.runtimeModel := h.2.1
      have hold := h.1
      rw [← hmodel] at hold
      have hnone : (run step [.remember (some first), .find 0 0x1030] {}).byModel 2 = none := by
        decide +kernel
      exact Option.some_ne_none old (hold.symm.trans hnone)
    · cases hr
  have hfind : (step (.find 0 0x2030) s).1 = some (second, 1) := by decide +kernel
  exact ⟨hfind, ((find_current _ hclean 0 0x2030).1 _ _ hfind).1⟩

/-- A range outlives the session in the thread that found it, and an array that moved away takes an
address of another one with it. -/
theorem find_dropped :
    let first : Range := ⟨1, 0x1000, 2, by decide⟩
    let moved : Range := ⟨1, 0x2000, 2, by decide⟩
    let second : Range := ⟨2, 0x1030, 2, by decide⟩
    let outlived := run step [.remember (some first), .find 0 0x1000, .resetMapSession,
      .remember (some second)] {}
    let taken := run step [.remember (some first), .remember (some second), .remember (some moved)] {}
    outlived.byModel 1 = none ∧ (step (.find 0 0x1000) outlived).1 = some (first, 0) ∧
      taken.byModel 1 = some moved ∧ taken.byModel 2 = some second ∧ second.Has 0x1030 ∧
        ¬moved.Has 0x1030 ∧ (step (.find 0 0x1030) taken).1 = none := by
  decide +kernel

end War3VK.Model.PoseArrayRanges
