import War3VK.Lib.Machine

/-!
# The lifecycle of a shadow build

`ShadowBuildProgressState` (`src/d3d9/war3/shadow/war3_shadow_build_progress.h`) and
`ShadowBuildLifecycle` (`src/d3d9/war3/shadow/war3_shadow_build_lifecycle.h`). A build is named by the
address of its work and by its generation. Addresses are reused, and a generation that is left never
comes back before the counter wraps, so work that was replaced, ended or reset is refused.
-/

namespace War3VK.Shadow.BuildLifecycle

open Lib

/-- `ShadowBuildProgressValues`. -/
structure ShadowBuildProgressValues where
  workGeneration : UInt64 := 0
  frameSerial : UInt64 := 0
  publishRevision : UInt64 := 0
  nextRecordIndex : UInt64 := 0
  recordCount : UInt64 := 0
  chunkCount : UInt64 := 0
  totalBuildDurationUs : UInt64 := 0
  drawCount : UInt64 := 0
  deriving DecidableEq

/-- `ShadowBuildProgressState`, of which `hasPublished` is `m_hasValues`. -/
structure ShadowBuildProgressState where
  generation : UInt64 := 0
  building : Bool := false
  hasPublished : Bool := false
  values : ShadowBuildProgressValues := {}

namespace ShadowBuildProgressState

variable (s : ShadowBuildProgressState)

/-- `BumpGeneration`: zero stands for no generation. -/
def bumpGeneration : UInt64 :=
  if s.generation + 1 = 0 then s.generation + 1 + 1 else s.generation + 1

/-- `BeginBuild`, which returns the new generation. -/
def beginBuild (frameSerial publishRevision : UInt64) : ShadowBuildProgressState where
  generation := s.bumpGeneration
  building := true
  hasPublished := false
  values := { workGeneration := s.bumpGeneration, frameSerial, publishRevision }

/-- `Publish`. -/
def publish (generation : UInt64) (values : ShadowBuildProgressValues) :
    Bool × ShadowBuildProgressState :=
  if !s.building ∨ generation = 0 ∨ generation ≠ s.generation then (false, s)
  else (true, { s with values := { values with workGeneration := generation }, hasPublished := true })

/-- `Complete`, and `Cancel` which calls it. -/
def complete (generation : UInt64) : Bool × ShadowBuildProgressState :=
  if !s.building ∨ generation = 0 ∨ generation ≠ s.generation then (false, s)
  else (true, { s with building := false })

/-- `Reset`. -/
def reset : ShadowBuildProgressState := { generation := s.bumpGeneration }

/-- `hasValues`. -/
def hasValues : Bool := s.building && s.hasPublished

end ShadowBuildProgressState

/-- `ShadowBuildLifecycle`: the address of the current work, and the progress. -/
structure ShadowBuildLifecycle where
  currentWork : UInt64 := 0
  progress : ShadowBuildProgressState := {}

/-- A call of `beginBuild`, `publishIfCurrent`, `completeIfCurrent`, `cancelIfCurrent` or `reset`. -/
inductive Call where
  | beginBuild (work frameSerial publishRevision : UInt64)
  | publishIfCurrent (work generation : UInt64) (values : ShadowBuildProgressValues)
  | completeIfCurrent (work generation : UInt64)
  | cancelIfCurrent (work generation : UInt64)
  | reset

inductive Answer where
  | generation (generation : UInt64)
  | success (success : Bool)
  | nothing
  deriving DecidableEq

namespace ShadowBuildLifecycle

variable (s : ShadowBuildLifecycle)

def isCurrent (work generation : UInt64) : Bool :=
  work ≠ 0 && work = s.currentWork && generation ≠ 0 && generation = s.progress.generation &&
    s.progress.building

/-- What the three calls `…IfCurrent` have in common. -/
def ifCurrent (work generation : UInt64)
    (body : ShadowBuildProgressState → Bool × ShadowBuildProgressState) :
    Answer × ShadowBuildLifecycle :=
  if !s.isCurrent work generation then (.success false, s)
  else (.success (body s.progress).1, { s with progress := (body s.progress).2 })

def step : Call → ShadowBuildLifecycle → Answer × ShadowBuildLifecycle
  | .beginBuild work frameSerial publishRevision, s =>
    let progress := s.progress.beginBuild frameSerial publishRevision
    (.generation progress.generation, ⟨work, progress⟩)
  | .publishIfCurrent work generation values, s =>
    s.ifCurrent work generation (·.publish generation values)
  | .completeIfCurrent work generation, s => s.ifCurrent work generation (·.complete generation)
  | .cancelIfCurrent work generation, s => s.ifCurrent work generation (·.complete generation)
  | .reset, s => (.nothing, ⟨0, s.progress.reset⟩)

def hasValues : Bool := s.progress.hasValues

def values : ShadowBuildProgressValues := s.progress.values

end ShadowBuildLifecycle

open ShadowBuildLifecycle

/-! ## What the calls say about the current build -/

abbrev Happened := Record ShadowBuildLifecycle Call Answer

def Call.pair : Call → Option (UInt64 × UInt64)
  | .publishIfCurrent work generation _ => some (work, generation)
  | .completeIfCurrent work generation => some (work, generation)
  | .cancelIfCurrent work generation => some (work, generation)
  | _ => none

/-- The build after a call: a `beginBuild` begins one, a reset ends it, and so does a complete or cancel
that succeeds. -/
def buildAfter (build : Option (UInt64 × UInt64)) (r : Happened) : Option (UInt64 × UInt64) :=
  match r.call, r.output with
  | .beginBuild work _ _, .generation generation => some (work, generation)
  | .completeIfCurrent _ _, .success true => none
  | .cancelIfCurrent _ _, .success true => none
  | .reset, _ => none
  | _, _ => build

/-- The pair of the most recent `beginBuild` with no successful complete or cancel and no reset since. -/
def currentBuild (past : List Happened) : Option (UInt64 × UInt64) := past.foldl buildAfter none

/-- The values after a call: a `beginBuild` and a reset have none, a publish that succeeds has its own. -/
def publishedAfter (published : Option ShadowBuildProgressValues) (r : Happened) :
    Option ShadowBuildProgressValues :=
  match r.call, r.output with
  | .publishIfCurrent _ _ values, .success true => some values
  | .beginBuild _ _ _, _ => none
  | .reset, _ => none
  | _, _ => published

/-- The values of the last successful publish since the most recent `beginBuild` or reset. -/
def lastPublished (past : List Happened) : Option ShadowBuildProgressValues :=
  past.foldl publishedAfter none

/-! ## The invariant -/

/-- The state knows the build that goes on, and what was published of it. -/
structure Follows (past : List Happened) (s : ShadowBuildLifecycle) : Prop where
  ended : s.progress.building = false → currentBuild past = none
  current : s.progress.building = true →
    currentBuild past = some (s.currentWork, s.progress.generation)
  nonzero : s.progress.building = true → s.progress.generation ≠ 0
  published : s.progress.hasPublished = true → ∃ values, lastPublished past = some values ∧
    s.values = { values with workGeneration := s.progress.generation }

variable {past : List Happened} {s : ShadowBuildLifecycle}

theorem bumpGeneration_ne_zero (p : ShadowBuildProgressState) : p.bumpGeneration ≠ 0 := by
  unfold ShadowBuildProgressState.bumpGeneration
  split_ifs with h
  · rw [h]
    decide
  · exact h

theorem Follows.isCurrent_iff (h : Follows past s) (work generation : UInt64) :
    s.isCurrent work generation = true ↔ work ≠ 0 ∧ currentBuild past = some (work, generation) := by
  unfold ShadowBuildLifecycle.isCurrent
  cases hbuilding : s.progress.building with
  | false => simp [h.ended hbuilding]
  | true =>
    have hnonzero := h.nonzero hbuilding
    rw [h.current hbuilding]
    simp only [Bool.and_true, Bool.and_eq_true, decide_eq_true_eq, Option.some.injEq, Prod.mk.injEq]
    constructor
    · rintro ⟨⟨⟨hwork, rfl⟩, -⟩, rfl⟩
      exact ⟨hwork, rfl, rfl⟩
    · rintro ⟨hwork, rfl, rfl⟩
      exact ⟨⟨⟨hwork, rfl⟩, hnonzero⟩, rfl⟩

theorem isCurrent_guard {work generation : UInt64} (h : s.isCurrent work generation = true) :
    ¬((!s.progress.building) = true ∨ generation = 0 ∨ generation ≠ s.progress.generation) := by
  unfold ShadowBuildLifecycle.isCurrent at h
  simp only [Bool.and_eq_true, decide_eq_true_eq] at h
  obtain ⟨⟨⟨-, hzero⟩, hgeneration⟩, hbuilding⟩ := h
  rintro (hended | hnone | hother)
  · rw [hbuilding] at hended
    cases hended
  · exact hzero hnone
  · exact hother hgeneration

theorem step_cases (call : Call) {work generation : UInt64} (hpair : call.pair = some (work, generation)) :
    (s.isCurrent work generation = false ∧ step call s = (.success false, s)) ∨
      s.isCurrent work generation = true ∧ ((∃ values, call = .publishIfCurrent work generation values ∧
          step call s = (.success true, { s with progress := { s.progress with
            values := { values with workGeneration := generation }, hasPublished := true } })) ∨
          (call = .completeIfCurrent work generation ∨ call = .cancelIfCurrent work generation) ∧
            step call s = (.success true,
              { s with progress := { s.progress with building := false } })) := by
  cases hcurrent : s.isCurrent work generation with
  | false =>
    refine .inl ⟨rfl, ?_⟩
    cases call <;> simp_all [Call.pair, step, ifCurrent]
  | true =>
    have hguard := isCurrent_guard hcurrent
    refine .inr ⟨rfl, ?_⟩
    cases call with
    | publishIfCurrent w g values =>
      obtain ⟨rfl, rfl⟩ := Prod.mk.inj (Option.some.inj hpair)
      refine .inl ⟨values, rfl, ?_⟩
      unfold ShadowBuildLifecycle.step ifCurrent ShadowBuildProgressState.publish
      dsimp only
      rw [hcurrent, if_neg (by decide), if_neg hguard]
    | completeIfCurrent w g | cancelIfCurrent w g =>
      obtain ⟨rfl, rfl⟩ := Prod.mk.inj (Option.some.inj hpair)
      refine .inr ⟨by simp, ?_⟩
      unfold ShadowBuildLifecycle.step ifCurrent ShadowBuildProgressState.complete
      dsimp only
      rw [hcurrent, if_neg (by decide), if_neg hguard]
    | beginBuild | reset => cases hpair

theorem currentBuild_concat (r : Happened) :
    currentBuild (past ++ [r]) = buildAfter (currentBuild past) r := List.foldl_append

theorem lastPublished_concat (r : Happened) :
    lastPublished (past ++ [r]) = publishedAfter (lastPublished past) r := List.foldl_append

theorem Follows.step (h : Follows past s) (call : Call) :
    Follows (past ++ [record step s call]) (ShadowBuildLifecycle.step call s).2 := by
  cases hpair : call.pair with
  | none =>
    cases call with
    | beginBuild work frameSerial publishRevision =>
      refine ⟨fun hended => (by cases hended), fun _ => ?_, fun _ => bumpGeneration_ne_zero _,
        fun hnone => (by cases hnone)⟩
      rw [currentBuild_concat]
      rfl
    | reset =>
      refine ⟨fun _ => ?_, fun hbuilding => (by cases hbuilding),
        fun hbuilding => (by cases hbuilding), fun hnone => (by cases hnone)⟩
      rw [currentBuild_concat]
      rfl
    | publishIfCurrent | completeIfCurrent | cancelIfCurrent => cases hpair
  | some pair =>
    obtain ⟨work, generation⟩ := pair
    rcases step_cases (s := s) call hpair with ⟨-, hstep⟩ | ⟨hcurrent, ⟨values, rfl, hstep⟩ | ⟨hcall, hstep⟩⟩
    · -- A call that is refused leaves both.
      have hbuild : buildAfter (currentBuild past) (record ShadowBuildLifecycle.step s call) =
          currentBuild past := by
        cases call <;> simp_all [Call.pair, buildAfter, record]
      have hpublished : publishedAfter (lastPublished past)
          (record ShadowBuildLifecycle.step s call) = lastPublished past := by
        cases call <;> simp_all [Call.pair, publishedAfter, record]
      rw [hstep]
      exact ⟨by rw [currentBuild_concat, hbuild]; exact h.ended,
        by rw [currentBuild_concat, hbuild]; exact h.current, h.nonzero,
        by rw [lastPublished_concat, hpublished]; exact h.published⟩
    · have hgeneration : generation = s.progress.generation := by
        have hguard := isCurrent_guard hcurrent
        simp only [not_or, not_not] at hguard
        exact hguard.2.2
      rw [hstep]
      refine ⟨?_, ?_, h.nonzero, fun _ => ⟨values, ?_, ?_⟩⟩
      · rw [currentBuild_concat, record, hstep]
        exact h.ended
      · rw [currentBuild_concat, record, hstep]
        exact h.current
      · rw [lastPublished_concat, record, hstep]
        rfl
      · rw [← hgeneration]
        rfl
    · have hbuild : currentBuild (past ++ [record ShadowBuildLifecycle.step s call]) = none := by
        rw [currentBuild_concat, record, hstep]
        rcases hcall with rfl | rfl <;> rfl
      have hpublished : lastPublished (past ++ [record ShadowBuildLifecycle.step s call]) =
          lastPublished past := by
        rw [lastPublished_concat, record, hstep]
        rcases hcall with rfl | rfl <;> rfl
      rw [hstep]
      exact ⟨fun _ => hbuild, fun hbuilding => (by cases hbuilding),
        fun hbuilding => (by cases hbuilding), by rw [hpublished]; exact h.published⟩

theorem follows_run (calls : List Call) :
    Follows (history step calls {}) (run step calls {}) := by
  refine @history_induction _ _ _ step (fun s past => Follows past s) {} ?_
    (fun s past call h => h.step call) calls
  exact ⟨fun _ => rfl, fun hbuilding => (by cases hbuilding), fun hbuilding => (by cases hbuilding),
    fun hnone => (by cases hnone)⟩

/-- After any calls, a publish, complete or cancel succeeds if and only if its work is not null and its
pair is that of the build that goes on, a call that fails changes nothing, and the values that are
visible are those of the last successful publish of this build, with its generation. -/
theorem lifecycle_current (calls : List Call) :
    (∀ call work generation, call.pair = some (work, generation) →
      (step call (run step calls {})).1 =
        .success (decide (work ≠ 0 ∧ currentBuild (history step calls {}) = some (work, generation)))) ∧
    (∀ call, (step call (run step calls {})).1 = .success false →
      (step call (run step calls {})).2 = run step calls {}) ∧
    ((run step calls {}).hasValues = true → ∃ work generation values,
      currentBuild (history step calls {}) = some (work, generation) ∧
        lastPublished (history step calls {}) = some values ∧
          (run step calls {}).values = { values with workGeneration := generation }) := by
  have h := follows_run calls
  refine ⟨fun call work generation hpair => ?_, fun call hfail => ?_, fun hvalues => ?_⟩
  · have hiff := h.isCurrent_iff work generation
    rcases step_cases (s := run step calls {}) call hpair with
      ⟨hcurrent, hstep⟩ | ⟨hcurrent, ⟨values, -, hstep⟩ | ⟨-, hstep⟩⟩
    · rw [hcurrent] at hiff
      rw [hstep, decide_eq_false (fun hc => (by cases hiff.mpr hc))]
    · rw [hstep, decide_eq_true (hiff.mp hcurrent)]
    · rw [hstep, decide_eq_true (hiff.mp hcurrent)]
  · cases hpair : call.pair with
    | none =>
      cases call with
      | beginBuild | reset => exact absurd hfail (by simp [step])
      | publishIfCurrent | completeIfCurrent | cancelIfCurrent => cases hpair
    | some pair =>
      rcases step_cases (s := run step calls {}) call hpair with
        ⟨-, hstep⟩ | ⟨-, ⟨values, -, hstep⟩ | ⟨-, hstep⟩⟩
      · rw [hstep]
      · rw [hstep] at hfail
        cases hfail
      · rw [hstep] at hfail
        cases hfail
  · obtain ⟨hbuilding, hpublished⟩ := Bool.and_eq_true_iff.mp hvalues
    obtain ⟨values, hlast, heq⟩ := h.published hpublished
    exact ⟨_, _, values, h.current hbuilding, hlast, heq⟩

/-- What is visible are not exactly the values that were published: the generation is written into
them. -/
theorem lifecycle_values_rewritten :
    let calls := [.beginBuild 16 0 0, .publishIfCurrent 16 1 { workGeneration := 7 }]
    (run step calls {}).hasValues = true ∧
      lastPublished (history step calls {}) = some { workGeneration := 7 } ∧
        (run step calls {}).values ≠ { workGeneration := 7 } := by
  decide

end War3VK.Shadow.BuildLifecycle
