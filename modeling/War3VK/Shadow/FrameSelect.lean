import Mathlib.Data.Prod.Lex
import Mathlib.Order.WithBot
import War3VK.Shadow.SubmitGate

/-!
# The choice of a frame

Which frame of packets is submitted: the preference between two frames
(`src/src/d3d9/war3/semantic/war3_device_semantic_predicates.cpp`), and the selection among those at hand
(`War3TryPopulateSemanticShadowScene` in `src/src/d3d9/d3d9_device.cpp`). A shared pointer is an address,
or `none`, and the game does not change during a selection.
-/

namespace War3VK.Shadow.FrameSelect

open SubmitGate

/-- `ShadowSubmissionFrame`, without its resources. -/
structure Frame where
  frameSerial : UInt64 := 0
  sourcePublishRevision : UInt64 := 0
  draws : List Packet := []

/-- The frame has a serial and draws. -/
def Frame.usable (f : Frame) : Bool := f.frameSerial ≠ 0 && !f.draws.isEmpty

/-- `War3SemanticSceneFrameScore`. Its counters have room for every draw that fits the memory. -/
structure Score where
  inputDrawCount : ℕ := 0
  eligibleDrawCount : ℕ := 0
  skinnedDrawCount : ℕ := 0

/-- What the selection reads. -/
structure Scene where
  world : World
  unitsOnly : Bool := false
  frames : ℕ → Frame := fun _ => {}
  /-- `stats`. -/
  frameSerial : UInt64 := 0
  sourcePublishRevision : UInt64 := 0
  drawPacketCount : UInt64 := 0
  resolveConsidered : UInt64 := 0
  /-- `buildState`. -/
  buildInProgress : Bool := false
  buildRequestPending : Bool := false
  buildFrameSerial : UInt64 := 0
  buildPublishRevision : UInt64 := 0
  pendingFrameSerial : UInt64 := 0
  pendingPublishRevision : UInt64 := 0
  preferredSupplementedRevision : UInt64 := 0
  /-- The serial of the manifest of `supplementedBundle`, when that is valid. -/
  manifestFrameSerial : Option UInt64 := none
  hasSubmittedOnce : Bool := false
  canReuseSteadyStateFrame : Bool := false
  executeNativeBackendValidation : Bool := false
  /-- `m_war3SemanticSceneLastReusableFrame`, and what is kept beside it. -/
  lastReusableFrame : Option ℕ := none
  lastReusableUnitsOnly : Bool := false
  lastReusableNativeValidation : Bool := false

namespace Scene

variable (s : Scene)

/-- `War3ScoreSemanticSceneFrame`. -/
def score : Option Frame → Score
  | none => {}
  | some f =>
    if f.frameSerial = 0 then {}
    else
      { inputDrawCount := min f.draws.length 0xFFFFFFFF
        eligibleDrawCount := eligibleDrawCount s.world f.draws s.unitsOnly
        skinnedDrawCount := f.draws.countP fun p =>
          looksSubmitEligibleForScoringFast s.world p s.unitsOnly && p.path = .skinned }

/-- `War3ShouldPreferSemanticSceneFrame`. -/
def shouldPrefer : Option ℕ → Option ℕ → Bool
  | none, _ => false
  | some c, none => (s.frames c).usable
  | some c, some d =>
    if !(s.frames c).usable then false
    else if !(s.frames d).usable then true
    else if c = d then false
    else
      let candidate := s.score (s.frames c)
      let current := s.score (s.frames d)
      if candidate.eligibleDrawCount = 0 ∧ current.eligibleDrawCount ≠ 0 then false
      else if candidate.skinnedDrawCount ≠ current.skinnedDrawCount then
        candidate.skinnedDrawCount > current.skinnedDrawCount
      else if candidate.eligibleDrawCount ≠ current.eligibleDrawCount then
        candidate.eligibleDrawCount > current.eligibleDrawCount
      else if candidate.inputDrawCount ≠ current.inputDrawCount then
        candidate.inputDrawCount > current.inputDrawCount
      else if (s.frames c).sourcePublishRevision ≠ (s.frames d).sourcePublishRevision then
        (s.frames c).sourcePublishRevision > (s.frames d).sourcePublishRevision
      else (s.frames c).frameSerial > (s.frames d).frameSerial

/-! ## The selection -/

/-- `semanticCatchupTargetRevision`. -/
def catchupTargetRevision : UInt64 :=
  let target := s.sourcePublishRevision
  let target := if s.buildInProgress then max target s.buildPublishRevision else target
  let target := if s.buildRequestPending then max target s.pendingPublishRevision else target
  if s.preferredSupplementedRevision ≠ 0 then max target s.preferredSupplementedRevision else target

/-- `semanticCatchupTargetFrameSerial`. -/
def catchupTargetFrameSerial : UInt64 :=
  let target := s.frameSerial
  let target := if s.buildInProgress then max target s.buildFrameSerial else target
  let target := if s.buildRequestPending then max target s.pendingFrameSerial else target
  (s.manifestFrameSerial.map (max target)).getD target

/-- `semanticFrameSafeForCurrentTarget`. -/
def safe (candidate : Option ℕ) : Bool :=
  (candidate.map s.frames).any fun f =>
    if !f.usable then false
    else if s.sourcePublishRevision ≠ 0 ∧ s.drawPacketCount = 0 ∧ s.resolveConsidered = 0 then
      s.canReuseSteadyStateFrame && s.hasSubmittedOnce
    else if s.drawPacketCount ≠ 0 ∧ f.draws.length > s.drawPacketCount.toNat then false
    else if s.catchupTargetRevision ≠ 0 ∧ f.sourcePublishRevision < s.catchupTargetRevision ∧
        (!s.canReuseSteadyStateFrame ∨ s.catchupTargetRevision - f.sourcePublishRevision > 2) then
      false
    else if s.catchupTargetFrameSerial ≠ 0 ∧ f.frameSerial < s.catchupTargetFrameSerial ∧
        (!s.canReuseSteadyStateFrame ∨ s.catchupTargetFrameSerial - f.frameSerial > 8) then
      false
    else true

/-- `preferredSupplementedFrame` at the selection: the latest frame stands in for one that was not
built. -/
def supplementedFrame (preferred latest : Option ℕ) : Option ℕ :=
  let standsIn := (latest.map s.frames).any fun f => f.usable &&
    f.sourcePublishRevision = s.preferredSupplementedRevision &&
      f.frameSerial ≥ s.catchupTargetFrameSerial
  if preferred.isNone ∧ s.preferredSupplementedRevision ≠ 0 ∧ standsIn then latest else preferred

/-- `frame.reset()` unless the frame is safe. -/
def keepSafe (frame : Option ℕ) : Option ℕ := if s.safe frame then frame else none

/-- The block `FrameSelect`. -/
def selectFrame (preferred latest renderable : Option ℕ) : Option ℕ :=
  let frame := s.keepSafe ((s.supplementedFrame preferred latest).or latest)
  let frame := s.keepSafe (if s.shouldPrefer latest frame then latest else frame)
  if s.safe renderable ∧ s.shouldPrefer renderable frame then renderable else frame

/-- `tryReuseLastNonZeroSemanticFrame`. -/
def tryReuse : Option ℕ :=
  s.lastReusableFrame.filter fun a => (s.frames a).usable &&
    s.lastReusableUnitsOnly = s.unitsOnly &&
      (!s.executeNativeBackendValidation || s.lastReusableNativeValidation)

/-- `tryReuseLastNonZeroIfSelectedFrameCannotSubmit`. -/
def reuseUnlessEligible (frame : Option ℕ) : Option ℕ :=
  if (s.score (frame.map s.frames)).eligibleDrawCount ≠ 0 then frame else s.tryReuse.or frame

/-! ## The preference is an order -/

/-- What the preference compares, the first field first. -/
def key (f : Frame) : ℕ ×ₗ ℕ ×ₗ ℕ ×ₗ ℕ ×ₗ ℕ :=
  toLex ((s.score f).skinnedDrawCount, toLex ((s.score f).eligibleDrawCount,
    toLex ((s.score f).inputDrawCount,
      toLex (f.sourcePublishRevision.toNat, f.frameSerial.toNat))))

/-- The rank of a frame: below every other one for a frame that cannot be submitted. -/
def rank : Option ℕ → WithBot (ℕ ×ₗ ℕ ×ₗ ℕ ×ₗ ℕ ×ₗ ℕ)
  | none => ⊥
  | some a => if (s.frames a).usable then s.key (s.frames a) else ⊥

theorem skinned_le_eligible (f : Option Frame) :
    (s.score f).skinnedDrawCount ≤ (s.score f).eligibleDrawCount := by
  cases f with
  | none => exact le_rfl
  | some f =>
    simp only [score]
    split_ifs
    · exact le_rfl
    · exact List.countP_mono_left fun p _ h => (Bool.and_eq_true_iff.mp h).1

variable {s} {latest frame : Option ℕ}

/-- The guard for a candidate without an eligible draw changes nothing: it has no skinned draw either. -/
theorem shouldPrefer_iff (c d : Option ℕ) : s.shouldPrefer c d = true ↔ s.rank d < s.rank c := by
  cases c with
  | none => simp [shouldPrefer, rank]
  | some c =>
    cases d with
    | none => cases h : (s.frames c).usable <;> simp [shouldPrefer, rank, h]
    | some d =>
      cases hc : (s.frames c).usable with
      | false => simp [shouldPrefer, rank, hc]
      | true =>
        cases hd : (s.frames d).usable with
        | false => simp [shouldPrefer, rank, hc, hd]
        | true =>
          have hskinnedC := s.skinned_le_eligible (some (s.frames c))
          have hskinnedD := s.skinned_le_eligible (some (s.frames d))
          simp only [shouldPrefer, rank, hc, hd, key, WithBot.coe_lt_coe, Prod.Lex.toLex_lt_toLex,
            if_true, Bool.not_true, Bool.false_eq_true, if_false]
          rcases eq_or_ne c d with rfl | hne
          · simp
          · simp only [hne, if_false, ← UInt64.toNat_inj, UInt64.lt_iff_toNat_lt, gt_iff_lt, ne_eq]
            split_ifs <;> simp only [decide_eq_true_eq, false_iff] <;> omega

/-- The preference is a strict weak order: frames never displace each other in a circle, and of a frame and
one that it displaces, every third frame is displaced by the one or displaces the other. -/
theorem shouldPrefer_strictWeak (s : Scene) :
    (∀ a, s.shouldPrefer a a = false) ∧ (∀ a b c, s.shouldPrefer a b = true → s.shouldPrefer b c = true →
        s.shouldPrefer a c = true) ∧
      ∀ a b c, s.shouldPrefer a c = true → s.shouldPrefer a b = true ∨ s.shouldPrefer b c = true := by
  simp only [← Bool.not_eq_true, shouldPrefer_iff]
  exact ⟨fun a => lt_irrefl _, fun a b c hab hbc => hbc.trans hab, fun a b c hac =>
    (lt_or_ge _ _).imp_right hac.trans_le⟩

/-! ## The frame that is selected -/

theorem rank_choice (c d : Option ℕ) :
    s.rank (if s.shouldPrefer c d then c else d) = max (s.rank c) (s.rank d) := by
  split_ifs with h
  · exact (max_eq_left (shouldPrefer_iff c d |>.mp h).le).symm
  · exact (max_eq_right (not_lt.mp (mt (shouldPrefer_iff c d).mpr h))).symm

theorem keepSafe_of_safe (h : s.safe frame = true) : s.keepSafe frame = frame := if_pos h

theorem safe_keepSafe (frame : Option ℕ) :
    s.keepSafe frame = none ∨ s.safe (s.keepSafe frame) = true := by
  unfold keepSafe
  split_ifs with h
  · exact .inr h
  · exact .inl rfl

theorem usable_of_safe (h : s.safe frame = true) :
    ∃ a, frame = some a ∧ (s.frames a).usable = true := by
  cases frame with
  | none => exact absurd h Bool.false_ne_true
  | some a =>
    refine ⟨a, rfl, ?_⟩
    by_contra hnot
    simp [safe, hnot] at h

/-- A frame of at least the rank of one with an eligible draw has an eligible draw. -/
theorem eligible_of_rank {c : ℕ} {d : Option ℕ} (husable : (s.frames c).usable = true)
    (hle : s.rank (some c) ≤ s.rank d) (h : (s.score (s.frames c)).eligibleDrawCount ≠ 0) :
    (s.score (d.map s.frames)).eligibleDrawCount ≠ 0 := by
  contrapose! hle
  have hskinned := s.skinned_le_eligible (d.map s.frames)
  simp only [rank, husable, if_true]
  cases d with
  | none => exact WithBot.bot_lt_coe _
  | some d =>
    simp only [Option.map_some] at hle hskinned
    cases hd : (s.frames d).usable with
    | false => simp [hd]
    | true =>
      simp only [hd, if_true, key, WithBot.coe_lt_coe, Prod.Lex.toLex_lt_toLex]
      omega

theorem latest_le_kept (hlatest : s.safe latest = true) (hframe : frame = none ∨ s.safe frame = true) :
    s.rank latest ≤ s.rank (s.keepSafe (if s.shouldPrefer latest frame then latest else frame)) := by
  refine (le_max_left _ _).trans ((rank_choice latest frame).ge.trans ?_)
  split_ifs with hprefer
  · rw [keepSafe_of_safe hlatest]
  · rcases hframe with rfl | hsafe
    · exact bot_le
    · rw [keepSafe_of_safe hsafe]

/-- The frame that is selected is safe, and no safe one of the latest and the renderable frame is preferred
to it; when one of the two has an eligible draw, so has the selected one, and the reusable frame does not
replace it. A safe frame that was supplemented is passed over for a worse one only through the latest
frame: that is preferred to it, and dropped in its place as unsafe. -/
theorem selectFrame_best (s : Scene) (preferred latest renderable : Option ℕ) :
    let selected := s.selectFrame preferred latest renderable
    (selected = none ∨ s.safe selected = true) ∧ (∀ offered ∈ [latest, renderable], s.safe offered = true →
        s.shouldPrefer offered selected = false ∧ ((s.score (offered.map s.frames)).eligibleDrawCount ≠ 0 →
            (s.score (selected.map s.frames)).eligibleDrawCount ≠ 0 ∧
              s.reuseUnlessEligible selected = selected)) ∧
      (s.safe preferred = true → s.shouldPrefer preferred selected = true →
        s.shouldPrefer latest preferred = true ∧ s.safe latest = false) := by
  intro selected
  -- `first` stands before the latest frame is offered, `kept` before the renderable one is.
  obtain ⟨first, hfirst⟩ : ∃ first, first =
    s.keepSafe ((s.supplementedFrame preferred latest).or latest) := ⟨_, rfl⟩
  obtain ⟨kept, hkept⟩ : ∃ kept, kept =
    s.keepSafe (if s.shouldPrefer latest first then latest else first) := ⟨_, rfl⟩
  have hselected : selected =
      if s.safe renderable ∧ s.shouldPrefer renderable kept then renderable else kept := by
    rw [hkept, hfirst]
    rfl
  have hfirstSafe : first = none ∨ s.safe first = true := hfirst ▸ safe_keepSafe _
  have hkeptSafe : kept = none ∨ s.safe kept = true := hkept ▸ safe_keepSafe _
  have hkeptLe : s.rank kept ≤ s.rank selected := by
    rw [hselected]
    split_ifs with h
    · exact ((shouldPrefer_iff _ _).mp h.2).le
    · exact le_rfl
  have hoffered : ∀ offered ∈ [latest, renderable], s.safe offered = true →
      s.rank offered ≤ s.rank selected := by
    intro offered hmem hsafe
    rcases List.mem_pair.mp hmem with rfl | rfl
    · have hle : _ ≤ s.rank kept := hkept ▸ latest_le_kept hsafe hfirstSafe
      exact hle.trans hkeptLe
    · rw [hselected]
      split_ifs with h
      · exact le_rfl
      · exact not_lt.mp fun hlt => h ⟨hsafe, (shouldPrefer_iff _ _).mpr hlt⟩
  refine ⟨?_, fun offered hmem hsafe => ⟨?_, fun heligible => ?_⟩, fun hsafe hpassed => ?_⟩
  · rw [hselected]
    split_ifs with h
    · exact .inr h.1
    · exact hkeptSafe
  · exact Bool.eq_false_iff.mpr fun h =>
      absurd ((shouldPrefer_iff _ _).mp h) (hoffered offered hmem hsafe).not_gt
  · obtain ⟨a, rfl, husable⟩ := usable_of_safe hsafe
    have hhas := eligible_of_rank husable (hoffered _ hmem hsafe) heligible
    exact ⟨hhas, if_pos hhas⟩
  · have hpassed := (shouldPrefer_iff _ _).mp hpassed
    have hbelow := hkeptLe.trans_lt hpassed
    obtain ⟨a, rfl, -⟩ := usable_of_safe hsafe
    have hpreferred : first = some a := hfirst.trans (keepSafe_of_safe hsafe)
    subst hpreferred
    have hprefer : s.shouldPrefer latest (some a) = true := by
      by_contra hnot
      rw [hkept, if_neg hnot, keepSafe_of_safe hsafe] at hbelow
      exact lt_irrefl _ hbelow
    refine ⟨hprefer, Bool.eq_false_iff.mpr fun hlatest => ?_⟩
    have hle := hoffered latest (.head _) hlatest
    exact lt_asymm (hle.trans_lt hpassed) ((shouldPrefer_iff _ _).mp hprefer)

end Scene

end War3VK.Shadow.FrameSelect
