import War3VK.Lib.Machine

/-!
# When a source of shadow geometry is stable

`src/d3d9/war3/render/war3_shadow_generation_backed_stream.h`. The geometry of a draw comes with a proof
of the generations of its buffers. A source may be promoted to a persistent copy once the same proof was
observed in enough adjacent frames of the observation clock. The clock is shared by all sources.
-/

namespace War3VK.Render.GenerationStability

open Lib

/-- `War3ShadowStreamKind`. -/
inductive War3ShadowStreamKind where
  | position
  | uv
  | index
  deriving DecidableEq

/-- `War3ShadowGenerationBackedStreamProof`. -/
structure War3ShadowGenerationBackedStreamProof where
  ownerIdentity : UInt64 := 0
  identityGeneration : UInt64 := 0
  allocationGeneration : UInt64 := 0
  contentGeneration : UInt64 := 0
  sourceOffset : UInt64 := 0
  sourceLength : UInt64 := 0
  elementStride : UInt32 := 0
  elementSize : UInt32 := 0
  mapEpoch : UInt64 := 0
  deviceEpoch : UInt64 := 0
  streamKind : War3ShadowStreamKind := .position
  deriving DecidableEq

namespace War3ShadowGenerationBackedStreamProof

variable (proof other : War3ShadowGenerationBackedStreamProof)

def valid : Bool :=
  proof.ownerIdentity ≠ 0 && proof.identityGeneration ≠ 0 && proof.allocationGeneration ≠ 0 &&
    proof.contentGeneration ≠ 0 && proof.sourceLength ≠ 0 && proof.elementStride ≠ 0 &&
    proof.elementSize ≠ 0 && proof.elementSize ≤ proof.elementStride && proof.mapEpoch ≠ 0 &&
    proof.deviceEpoch ≠ 0

/-- `matches`. -/
def matchesProof : Bool :=
  proof.valid && other.valid && proof.ownerIdentity = other.ownerIdentity &&
    proof.identityGeneration = other.identityGeneration &&
    proof.allocationGeneration = other.allocationGeneration &&
    proof.contentGeneration = other.contentGeneration && proof.sourceOffset = other.sourceOffset &&
    proof.sourceLength = other.sourceLength && proof.elementStride = other.elementStride &&
    proof.elementSize = other.elementSize && proof.mapEpoch = other.mapEpoch &&
    proof.deviceEpoch = other.deviceEpoch && proof.streamKind = other.streamKind

theorem matchesProof_iff : proof.matchesProof other = true ↔ proof.valid = true ∧ proof = other := by
  unfold matchesProof
  constructor
  · intro h
    simp only [Bool.and_eq_true, decide_eq_true_eq] at h
    obtain ⟨⟨⟨⟨⟨⟨⟨⟨⟨⟨⟨⟨hvalid, -⟩, h1⟩, h2⟩, h3⟩, h4⟩, h5⟩, h6⟩, h7⟩, h8⟩, h9⟩, h10⟩, h11⟩ := h
    refine ⟨hvalid, ?_⟩
    cases proof
    cases other
    simp_all
  · rintro ⟨hvalid, rfl⟩
    simp [hvalid]

end War3ShadowGenerationBackedStreamProof

/-- `War3ShadowGenerationBackedGeometryProof`. -/
structure War3ShadowGenerationBackedGeometryProof where
  position : War3ShadowGenerationBackedStreamProof := {}
  index : War3ShadowGenerationBackedStreamProof := {}
  indexed : Bool := false
  deriving DecidableEq

namespace War3ShadowGenerationBackedGeometryProof

variable (proof other : War3ShadowGenerationBackedGeometryProof)

def valid : Bool :=
  proof.position.valid && proof.position.streamKind = .position &&
    (!proof.indexed || (proof.index.valid && proof.index.streamKind = .index))

/-- `matches`. -/
def matchesProof : Bool :=
  proof.valid && other.valid && proof.indexed = other.indexed &&
    proof.position.matchesProof other.position &&
    (!proof.indexed || proof.index.matchesProof other.index)

def subject : War3ShadowGenerationBackedStreamProof × Option War3ShadowGenerationBackedStreamProof :=
  (proof.position, if proof.indexed then some proof.index else none)

variable {proof other}

theorem matchesProof_iff :
    proof.matchesProof other = true ↔
      proof.valid = true ∧ other.valid = true ∧ proof.subject = other.subject := by
  unfold matchesProof subject
  simp only [Bool.and_eq_true, decide_eq_true_eq, Bool.or_eq_true, Bool.not_eq_true',
    War3ShadowGenerationBackedStreamProof.matchesProof_iff, Prod.mk.injEq]
  constructor
  · rintro ⟨⟨⟨⟨hvalid, hother⟩, hindexed⟩, -, hposition⟩, hindex⟩
    refine ⟨hvalid, hother, hposition, ?_⟩
    rw [← hindexed]
    rcases hindex with hnone | ⟨-, hindex⟩
    · rw [hnone]
      rfl
    · rw [hindex]
  · rintro ⟨hvalid, hother, hposition, hindex⟩
    have hparts := hvalid
    unfold valid at hparts
    simp only [Bool.and_eq_true, Bool.or_eq_true, Bool.not_eq_true'] at hparts
    have hindexed : proof.indexed = other.indexed := by
      cases h : proof.indexed <;> cases h' : other.indexed <;> simp_all
    refine ⟨⟨⟨⟨hvalid, hother⟩, hindexed⟩, hparts.1.1, hposition⟩, ?_⟩
    cases h : proof.indexed with
    | false => exact .inl rfl
    | true =>
      rw [← hindexed, h, if_pos rfl, if_pos rfl, Option.some.injEq] at hindex
      rw [h] at hparts
      exact .inr ⟨(hparts.2.resolve_left (by decide)).1, hindex⟩

theorem matchesProof_congr (h : proof.matchesProof other = true)
    (o : War3ShadowGenerationBackedGeometryProof) :
    o.matchesProof proof = o.matchesProof other := by
  obtain ⟨hvalid, hother, hsubject⟩ := matchesProof_iff.mp h
  rw [Bool.eq_iff_iff, matchesProof_iff, matchesProof_iff, hvalid, hother, hsubject]

end War3ShadowGenerationBackedGeometryProof

/-- `War3ShadowGenerationStabilityState`. -/
structure War3ShadowGenerationStabilityState where
  proof : War3ShadowGenerationBackedGeometryProof := {}
  lastObservedFrame : UInt64 := 0
  distinctStableFrames : UInt32 := 0
  deriving DecidableEq

/-- `War3ShadowGenerationObservationClock`. -/
structure War3ShadowGenerationObservationClock where
  sourceFrameSerial : UInt64 := 0
  observationFrameSerial : UInt64 := 0

/-- `AdvanceWar3ShadowGenerationObservationClock`. -/
def advance (clock : War3ShadowGenerationObservationClock) (sourceFrameSerial : UInt64) :
    UInt64 × War3ShadowGenerationObservationClock :=
  if sourceFrameSerial = 0 then (0, clock)
  else if clock.sourceFrameSerial = sourceFrameSerial then (clock.observationFrameSerial, clock)
  else
    let observationFrameSerial :=
      if clock.observationFrameSerial ≠ 0xffffffffffffffff then clock.observationFrameSerial + 1
      else clock.observationFrameSerial
    (observationFrameSerial, ⟨sourceFrameSerial, observationFrameSerial⟩)

/-- `War3ShadowGenerationObservation`. -/
inductive War3ShadowGenerationObservation where
  | invalid
  | first
  | sameFrame
  | advanced
  | changed
  | staleRestart
  deriving DecidableEq

/-- `War3ShadowGenerationObservationResult`. -/
structure War3ShadowGenerationObservationResult where
  observation : War3ShadowGenerationObservation := .invalid
  promotionReady : Bool := false
  deriving DecidableEq

/-- `restart`. -/
def restart (proof : War3ShadowGenerationBackedGeometryProof) (frameSerial : UInt64)
    (requiredDistinctFrames : UInt32) (observation : War3ShadowGenerationObservation) :
    War3ShadowGenerationObservationResult × War3ShadowGenerationStabilityState :=
  (⟨observation, requiredDistinctFrames ≤ 1⟩, ⟨proof, frameSerial, 1⟩)

/-- `ObserveWar3ShadowGenerationStability`. -/
def observe (state : War3ShadowGenerationStabilityState)
    (proof : War3ShadowGenerationBackedGeometryProof) (frameSerial : UInt64)
    (requiredDistinctFrames : UInt32) :
    War3ShadowGenerationObservationResult × War3ShadowGenerationStabilityState :=
  if !proof.valid ∨ frameSerial = 0 ∨ requiredDistinctFrames = 0 then ({}, state)
  else if !state.proof.valid ∨ state.lastObservedFrame = 0 then
    restart proof frameSerial requiredDistinctFrames .first
  else if !state.proof.matchesProof proof then
    restart proof frameSerial requiredDistinctFrames .changed
  else if frameSerial = state.lastObservedFrame then
    (⟨.sameFrame, requiredDistinctFrames ≤ state.distinctStableFrames⟩, state)
  else if frameSerial ≠ state.lastObservedFrame + 1 then
    restart proof frameSerial requiredDistinctFrames .staleRestart
  else
    let distinctStableFrames :=
      if state.distinctStableFrames ≠ 0xffffffff then state.distinctStableFrames + 1
      else state.distinctStableFrames
    (⟨.advanced, requiredDistinctFrames ≤ distinctStableFrames⟩,
      { state with lastObservedFrame := frameSerial, distinctStableFrames })

/-- A draw: the serial of its source frame, and its proof if it is a draw of the source. -/
structure Draw where
  sourceFrameSerial : UInt64
  proof : Option War3ShadowGenerationBackedGeometryProof

structure Source where
  clock : War3ShadowGenerationObservationClock := {}
  state : War3ShadowGenerationStabilityState := {}

/-- A draw advances the clock, and if it is one of the source, it is observed. It returns the
observation serial and what the observation found. -/
def step (requiredDistinctFrames : UInt32) (draw : Draw) (s : Source) :
    (UInt64 × War3ShadowGenerationObservationResult) × Source :=
  let (frameSerial, clock) := advance s.clock draw.sourceFrameSerial
  match draw.proof with
  | none => ((frameSerial, {}), { s with clock })
  | some proof =>
    let (result, state) := observe s.state proof frameSerial requiredDistinctFrames
    ((frameSerial, result), ⟨clock, state⟩)

/-! ## What was observed -/

open War3ShadowGenerationBackedGeometryProof (matchesProof_iff matchesProof_congr)

abbrev Happened := Record Source Draw (UInt64 × War3ShadowGenerationObservationResult)

abbrev Observation := UInt64 × War3ShadowGenerationBackedGeometryProof

/-- What a draw observes of the source: a valid proof, at a serial of the clock. A source frame without
a serial gives none. -/
def observed (r : Happened) : Option Observation :=
  r.call.proof.bind fun proof =>
    if proof.valid && r.output.1 ≠ 0 then some (r.output.1, proof) else none

def observations (past : List Happened) : List Observation :=
  past.filterMap observed

/-- The last observations are of one proof, with none of another proof in between, and they are in each
of the last `k` serials up to `serial`. -/
def Stable (k : ℕ) (seen : List Observation)
    (proof : War3ShadowGenerationBackedGeometryProof) (serial : UInt64) : Prop :=
  ∃ before after, seen = before ++ after ∧ (∀ o ∈ after, o.2.matchesProof proof = true) ∧
    ∀ j < k, ∃ o ∈ after, o.1.toNat + j = serial.toNat

/-- The state counts the serials of the last observations, `after`, of its proof. Before them another
proof was observed, or at least one serial is missing. -/
structure Counted (seen before after : List Observation)
    (count : ℕ) (state : War3ShadowGenerationStabilityState) : Prop where
  split : seen = before ++ after
  valid : state.proof.valid = true
  nonzero : state.lastObservedFrame ≠ 0
  same : ∀ o ∈ after, o.2.matchesProof state.proof = true
  upper : ∀ o ∈ seen, o.1.toNat ≤ state.lastObservedFrame.toNat
  lower : ∀ o ∈ after, state.lastObservedFrame.toNat < o.1.toNat + count
  each : ∀ j < count, ∃ o ∈ after, o.1.toNat + j = state.lastObservedFrame.toNat
  counted : state.distinctStableFrames.toNat = min count 0xffffffff
  pos : 0 < count
  maximal : (∀ o ∈ before.getLast?, o.2.matchesProof state.proof = false) ∨
    ∀ o ∈ before, o.1.toNat + count < state.lastObservedFrame.toNat

inductive Knows (seen : List Observation)
    (state : War3ShadowGenerationStabilityState) : Prop where
  | nothing (hseen : seen = []) (hstate : state = {})
  | counted (before after : List Observation) (count : ℕ)
      (h : Counted seen before after count state)

variable {seen before after : List Observation} {count : ℕ}
  {state : War3ShadowGenerationStabilityState} {proof : War3ShadowGenerationBackedGeometryProof}
  {serial : UInt64}

theorem Counted.stable_iff (h : Counted seen before after count state)
    (hproof : state.proof.matchesProof proof = true) (hserial : serial = state.lastObservedFrame)
    (k : ℕ) : Stable k seen proof serial ↔ k ≤ count := by
  have hsame := matchesProof_congr hproof
  subst hserial
  constructor
  · rintro ⟨before', after', hsplit, hsame', heach⟩
    by_contra hlt
    -- The serial before those that are counted would have been observed.
    obtain ⟨o, ho, hat⟩ := heach count (by omega)
    have hafter : o ∉ after := fun hmem => by
      have := h.lower o hmem
      omega
    rw [h.split] at hsplit
    rcases List.append_eq_append_iff.mp hsplit with ⟨middle, -, hafter'⟩ | ⟨middle, hbefore, hafter'⟩
    · exact hafter (hafter' ▸ List.mem_append_right _ ho)
    · rw [hafter', List.mem_append] at ho
      have hmiddle := ho.resolve_right hafter
      rcases h.maximal with hother | hgap
      · have hne : middle ≠ [] := List.ne_nil_of_mem hmiddle
        have hlast : before.getLast? = some (middle.getLast hne) := by
          rw [hbefore, List.getLast?_append, List.getLast?_eq_some_getLast hne, Option.some_or]
        have hmatch := hsame' _ (hafter' ▸ List.mem_append_left _ (List.getLast_mem hne))
        rw [← hsame, hother _ hlast] at hmatch
        cases hmatch
      · have := hgap o (hbefore ▸ List.mem_append_right _ hmiddle)
        omega
  · intro hle
    exact ⟨before, after, h.split, fun o ho => hsame _ ▸ h.same o ho, fun j hj => h.each j (by omega)⟩

theorem Counted.restart (hvalid : proof.valid = true) (hserial : serial ≠ 0)
    (hupper : ∀ o ∈ seen, o.1.toNat ≤ serial.toNat)
    (hmaximal : (∀ o ∈ seen.getLast?, o.2.matchesProof proof = false) ∨
      ∀ o ∈ seen, o.1.toNat + 1 < serial.toNat) :
    Counted (seen ++ [(serial, proof)]) seen [(serial, proof)] 1 ⟨proof, serial, 1⟩ where
  split := rfl
  valid := hvalid
  nonzero := hserial
  same o ho := by
    rw [List.mem_singleton.mp ho]
    exact matchesProof_iff.mpr ⟨hvalid, hvalid, rfl⟩
  upper o ho := by
    rcases List.mem_append.mp ho with ho | ho
    · exact hupper o ho
    · exact Nat.le_of_eq (by rw [List.mem_singleton.mp ho])
  lower o ho := by
    rw [List.mem_singleton.mp ho]
    exact Nat.lt_succ_self _
  each j hj := ⟨_, List.mem_singleton_self _, by dsimp only; omega⟩
  counted := rfl
  pos := Nat.one_pos
  maximal := hmaximal

structure Observes (seen : List Observation)
    (proof : War3ShadowGenerationBackedGeometryProof) (serial : UInt64) (k : UInt32)
    (result : War3ShadowGenerationObservationResult × War3ShadowGenerationStabilityState) : Prop where
  knows : Knows (seen ++ [(serial, proof)]) result.2
  ready : result.1.promotionReady = true ↔ Stable k.toNat (seen ++ [(serial, proof)]) proof serial

variable {k : UInt32}

theorem Counted.observes {observation : War3ShadowGenerationObservation} {ready : Bool}
    (h : Counted (seen ++ [(serial, proof)]) before after count state)
    (hproof : state.proof.matchesProof proof = true) (hserial : serial = state.lastObservedFrame)
    (hready : ready = decide (k ≤ state.distinctStableFrames)) :
    Observes seen proof serial k (⟨observation, ready⟩, state) where
  knows := .counted before after count h
  ready := by
    have hk := k.toNat_lt
    rw [h.stable_iff hproof hserial, hready, decide_eq_true_eq, UInt32.le_iff_toNat_le, h.counted]
    omega

theorem observes_restart (observation : War3ShadowGenerationObservation)
    (hvalid : proof.valid = true) (hserial : serial ≠ 0)
    (hupper : ∀ o ∈ seen, o.1.toNat ≤ serial.toNat)
    (hmaximal : (∀ o ∈ seen.getLast?, o.2.matchesProof proof = false) ∨
      ∀ o ∈ seen, o.1.toNat + 1 < serial.toNat) :
    Observes seen proof serial k (restart proof serial k observation) :=
  (Counted.restart hvalid hserial hupper hmaximal).observes
    (matchesProof_iff.mpr ⟨hvalid, hvalid, rfl⟩) rfl rfl

theorem Counted.sameFrame (h : Counted seen before after count state)
    (hproof : state.proof.matchesProof proof = true) (hserial : serial = state.lastObservedFrame) :
    Counted (seen ++ [(serial, proof)]) before (after ++ [(serial, proof)]) count state := by
  have hsame := matchesProof_congr hproof proof
  obtain ⟨hvalid, hvalid', -⟩ := matchesProof_iff.mp hproof
  refine { h with split := ?_, same := ?_, upper := ?_, lower := ?_, each := ?_ }
  · rw [h.split, List.append_assoc]
  · intro o ho
    rcases List.mem_append.mp ho with ho | ho
    · exact h.same o ho
    · rw [List.mem_singleton.mp ho, hsame]
      exact matchesProof_iff.mpr ⟨hvalid', hvalid', rfl⟩
  · intro o ho
    rcases List.mem_append.mp ho with ho | ho
    · exact h.upper o ho
    · exact Nat.le_of_eq (by rw [List.mem_singleton.mp ho, hserial])
  · intro o ho
    rcases List.mem_append.mp ho with ho | ho
    · exact h.lower o ho
    · rw [List.mem_singleton.mp ho, hserial]
      exact Nat.lt_add_of_pos_right h.pos
  · intro j hj
    obtain ⟨o, ho, hat⟩ := h.each j hj
    exact ⟨o, List.mem_append_left _ ho, hat⟩

theorem Counted.next (h : Counted seen before after count state)
    (hproof : state.proof.matchesProof proof = true)
    (hserial : serial.toNat = state.lastObservedFrame.toNat + 1) {stable : UInt32}
    (hstable : stable.toNat = min (count + 1) 0xffffffff) :
    Counted (seen ++ [(serial, proof)]) before (after ++ [(serial, proof)]) (count + 1)
      { state with lastObservedFrame := serial, distinctStableFrames := stable } := by
  have hsame := matchesProof_congr hproof proof
  obtain ⟨hvalid, hvalid', -⟩ := matchesProof_iff.mp hproof
  refine ⟨by rw [h.split, List.append_assoc], hvalid, ?_, ?_, ?_, ?_, ?_, hstable, Nat.succ_pos _,
    h.maximal.imp_right fun hgap o ho => ?_⟩
  · rintro (rfl : serial = 0)
    cases hserial
  · intro o ho
    rcases List.mem_append.mp ho with ho | ho
    · exact h.same o ho
    · rw [List.mem_singleton.mp ho, hsame]
      exact matchesProof_iff.mpr ⟨hvalid', hvalid', rfl⟩
  · intro o ho
    rcases List.mem_append.mp ho with ho | ho
    · have := h.upper o ho
      dsimp only
      omega
    · exact Nat.le_of_eq (by rw [List.mem_singleton.mp ho])
  · intro o ho
    dsimp only
    rcases List.mem_append.mp ho with ho | ho
    · have := h.lower o ho
      omega
    · rw [List.mem_singleton.mp ho]
      exact Nat.lt_add_of_pos_right (Nat.succ_pos _)
  · intro j hj
    dsimp only
    cases j with
    | zero => exact ⟨_, List.mem_append_right _ (List.mem_singleton_self _), rfl⟩
    | succ j =>
      obtain ⟨o, ho, hat⟩ := h.each j (by omega)
      exact ⟨o, List.mem_append_left _ ho, by omega⟩
  · have := hgap o ho
    dsimp only
    omega

theorem Knows.observe (h : Knows seen state) (hvalid : proof.valid = true) (hserial : serial ≠ 0)
    (hupper : ∀ o ∈ seen, o.1.toNat ≤ serial.toNat) (hk : k ≠ 0) :
    Observes seen proof serial k (observe state proof serial k) := by
  unfold GenerationStability.observe
  rw [if_neg (by simp [hvalid, hserial, hk])]
  cases h with
  | nothing hseen hstate =>
    rw [if_pos (by rw [hstate]; exact .inr rfl)]
    exact observes_restart _ hvalid hserial hupper (.inl (by simp [hseen]))
  | counted before after count h =>
    rw [if_neg (by simp [h.valid, h.nonzero])]
    obtain ⟨last, hlast, hat⟩ := h.each 0 h.pos
    have hle := hupper last (h.split ▸ List.mem_append_right _ hlast)
    cases hmatches : state.proof.matchesProof proof with
    | false =>
      rw [if_pos (by decide)]
      refine observes_restart _ hvalid hserial hupper (.inl fun o ho => ?_)
      rw [h.split, List.getLast?_append,
        List.getLast?_eq_some_getLast (List.ne_nil_of_mem hlast), Option.some_or] at ho
      have hmem : o ∈ after := by
        rw [← Option.some.inj ho]
        exact List.getLast_mem _
      -- An observation that matches both would make them match.
      rw [Bool.eq_false_iff]
      intro hboth
      have hold := matchesProof_iff.mp (h.same o hmem)
      have hnew := matchesProof_iff.mp hboth
      have : state.proof.matchesProof proof = true :=
        matchesProof_iff.mpr
          ⟨hold.2.1, hvalid, hold.2.2.symm.trans hnew.2.2⟩
      rw [hmatches] at this
      cases this
    | true =>
      rw [if_neg (by decide)]
      by_cases hsame : serial = state.lastObservedFrame
      · rw [if_pos hsame]
        exact (h.sameFrame hmatches hsame).observes hmatches hsame rfl
      · rw [if_neg hsame]
        have hne : serial.toNat ≠ state.lastObservedFrame.toNat := fun heq =>
          hsame (UInt64.toNat_inj.mp heq)
        have hsucc : (state.lastObservedFrame + 1).toNat = state.lastObservedFrame.toNat + 1 := by
          have := serial.toNat_lt
          rw [UInt64.toNat_add]
          exact Nat.mod_eq_of_lt (by simp only [UInt64.toNat_one]; omega)
        by_cases hnext : serial = state.lastObservedFrame + 1
        · rw [if_neg (not_not.mpr hnext)]
          refine (h.next hmatches (by rw [hnext, hsucc]) ?_).observes hmatches rfl rfl
          have hcounted := h.counted
          split_ifs with hfull
          · have hfull' : state.distinctStableFrames.toNat ≠ 0xffffffff := fun heq =>
              hfull (UInt32.toNat_inj.mp heq)
            have := state.distinctStableFrames.toNat_lt
            rw [UInt32.toNat_add, Nat.mod_eq_of_lt (by simp only [UInt32.toNat_one]; omega),
              UInt32.toNat_one]
            omega
          · rw [not_not.mp hfull] at hcounted ⊢
            have : (0xffffffff : UInt32).toNat = 0xffffffff := rfl
            omega
        · rw [if_pos hnext]
          refine observes_restart _ hvalid hserial hupper (.inr fun o ho => ?_)
          have hupper' := h.upper o ho
          have : serial.toNat ≠ state.lastObservedFrame.toNat + 1 := fun heq =>
            hnext (UInt64.toNat_inj.mp (by rw [heq, hsucc]))
          omega

/-! ## Runs -/

structure Follows (past : List Happened) (s : Source) : Prop where
  knows : Knows (observations past) s.state
  upper : ∀ o ∈ observations past, o.1.toNat ≤ s.clock.observationFrameSerial.toNat

theorem advance_spec (clock : War3ShadowGenerationObservationClock) (sourceFrameSerial : UInt64) :
    clock.observationFrameSerial.toNat ≤ (advance clock sourceFrameSerial).2.observationFrameSerial.toNat ∧
      ((advance clock sourceFrameSerial).1 = 0 ∨ (advance clock sourceFrameSerial).1 =
        (advance clock sourceFrameSerial).2.observationFrameSerial) := by
  unfold advance
  split_ifs with h0 hsame hfull
  · exact ⟨Nat.le_refl _, .inl rfl⟩
  · exact ⟨Nat.le_refl _, .inr rfl⟩
  · refine ⟨?_, .inr rfl⟩
    have hfull' : clock.observationFrameSerial.toNat ≠ 0xffffffffffffffff := fun heq =>
      hfull (UInt64.toNat_inj.mp heq)
    have := clock.observationFrameSerial.toNat_lt
    dsimp only
    rw [UInt64.toNat_add, Nat.mod_eq_of_lt (by simp only [UInt64.toNat_one]; omega)]
    exact Nat.le_add_right _ _
  · exact ⟨Nat.le_refl _, .inr rfl⟩

variable {past : List Happened} {s : Source}

theorem observations_concat (k : UInt32) (draw : Draw) :
    observations (past ++ [record (step k) s draw]) =
      observations past ++ (observed (record (step k) s draw)).toList := by
  unfold observations
  rw [List.filterMap_append]
  cases h : observed (record (step k) s draw) <;> simp [h]

theorem step_quiet {draw : Draw} (hquiet : observed (record (step k) s draw) = none) :
    (step k draw s).2.state = s.state ∧ (step k draw s).1.2.promotionReady = false := by
  obtain ⟨source, proof⟩ := draw
  cases proof with
  | none => exact ⟨rfl, rfl⟩
  | some proof =>
    have hinvalid : (!proof.valid) = true ∨ (advance s.clock source).1 = 0 ∨ k = 0 := by
      cases hvalid : proof.valid with
      | false => exact .inl rfl
      | true =>
        refine .inr (.inl ?_)
        by_contra hserial
        simp [observed, record, step, hvalid, hserial] at hquiet
    constructor <;> simp only [step, observe, if_pos hinvalid]

theorem Follows.observes (h : Follows past s) (hk : k ≠ 0) {draw : Draw}
    (hseen : observed (record (step k) s draw) = some (serial, proof)) :
    draw.proof = some proof ∧ proof.valid = true ∧ serial = (step k draw s).1.1 ∧
      serial = (step k draw s).2.clock.observationFrameSerial ∧
      Observes (observations past) proof serial k ((step k draw s).1.2, (step k draw s).2.state) := by
  obtain ⟨source, proof'⟩ := draw
  cases proof' with
  | none => cases hseen
  | some proof' =>
    obtain ⟨hle, hserial⟩ := advance_spec s.clock source
    simp only [observed, record, step, Option.bind_some, Option.ite_none_right_eq_some,
      Bool.and_eq_true, Option.some.injEq, Prod.mk.injEq] at hseen
    obtain ⟨⟨hvalid, hne⟩, rfl, rfl⟩ := hseen
    have hclock := hserial.resolve_left (of_decide_eq_true hne)
    refine ⟨rfl, hvalid, rfl, hclock, ?_⟩
    exact h.knows.observe hvalid (of_decide_eq_true hne)
      (fun o ho => Nat.le_trans (h.upper o ho) (hclock ▸ hle)) hk

theorem step_clock (k : UInt32) (draw : Draw) (s : Source) :
    (step k draw s).2.clock = (advance s.clock draw.sourceFrameSerial).2 := by
  obtain ⟨source, proof⟩ := draw
  cases proof <;> rfl

theorem Follows.step (h : Follows past s) (hk : k ≠ 0) (draw : Draw) :
    Follows (past ++ [record (GenerationStability.step k) s draw])
      (GenerationStability.step k draw s).2 := by
  have hclock : ∀ o ∈ observations past, o.1.toNat ≤
      (GenerationStability.step k draw s).2.clock.observationFrameSerial.toNat := by
    intro o ho
    rw [step_clock]
    exact Nat.le_trans (h.upper o ho) (advance_spec s.clock draw.sourceFrameSerial).1
  cases hseen : observed (record (GenerationStability.step k) s draw) with
  | none =>
    have hsame : observations (past ++ [record (GenerationStability.step k) s draw]) =
        observations past := by
      rw [observations_concat, hseen, Option.toList_none, List.append_nil]
    exact ⟨by rw [hsame, (step_quiet hseen).1]; exact h.knows, by rw [hsame]; exact hclock⟩
  | some o =>
    obtain ⟨-, -, -, hserial, hobserves⟩ := h.observes hk hseen
    rw [← Option.some.injEq] at hserial
    refine ⟨?_, fun other hother => ?_⟩
    · rw [observations_concat, hseen]
      exact hobserves.knows
    · rw [observations_concat, hseen] at hother
      rcases List.mem_append.mp hother with hother | hother
      · exact hclock other hother
      · exact Nat.le_of_eq (by rw [List.mem_singleton.mp hother, Option.some.inj hserial])

theorem follows_run (hk : k ≠ 0) (draws : List Draw) :
    Follows (history (step k) draws {}) (run (step k) draws {}) :=
  @history_induction _ _ _ (step k) (fun s past => Follows past s) {}
    ⟨.nothing rfl rfl, fun _ ho => absurd ho List.not_mem_nil⟩ (fun _ _ draw h => h.step hk draw) draws

theorem ne_zero_of_mem_observations {o : Observation}
    (ho : o ∈ observations past) : o.1 ≠ 0 := by
  obtain ⟨r, -, hr⟩ := List.mem_filterMap.mp ho
  obtain ⟨proof, -, hsome⟩ := Option.bind_eq_some_iff.mp hr
  rw [Option.ite_none_right_eq_some, Bool.and_eq_true, decide_eq_true_eq] at hsome
  obtain ⟨⟨-, hne⟩, hsome⟩ := hsome
  cases hsome
  exact hne

/-- After any draws, a draw is ready for promotion if and only if its proof is valid and was observed in
each of the last `requiredDistinctFrames` serials, with no other valid proof in between. A draw that
observes nothing leaves the state. -/
theorem promotionReady_iff (requiredDistinctFrames : UInt32) (draws : List Draw) (draw : Draw) :
    let step := step requiredDistinctFrames
    let s := run step draws {}
    let past := history step (draws ++ [draw]) {}
    ((step draw s).1.2.promotionReady = true ↔
      requiredDistinctFrames ≠ 0 ∧ ∃ proof, draw.proof = some proof ∧ proof.valid = true ∧
        Stable requiredDistinctFrames.toNat (observations past) proof (step draw s).1.1) ∧
      (observed (record step s draw) = none → (step draw s).2.state = s.state) := by
  intro step' s past
  refine ⟨?_, fun hquiet => (step_quiet hquiet).1⟩
  have hpast : observations past = observations (history step' draws {}) ++
      (observed (record step' s draw)).toList := by
    rw [← observations_concat]
    exact congrArg observations (history_append step' draws [draw] {})
  by_cases hk : requiredDistinctFrames = 0
  · refine ⟨fun hready => ?_, fun hready => absurd hk hready.1⟩
    obtain ⟨source, proof⟩ := draw
    cases proof with
    | none => cases hready
    | some proof =>
      simp only [step', step, observe, if_pos (Or.inr (Or.inr hk))] at hready
      cases hready
  have h := follows_run hk draws
  cases hseen : observed (record step' s draw) with
  | none =>
    refine ⟨fun hready => ?_, ?_⟩
    · rw [(step_quiet hseen).2] at hready
      cases hready
    · rintro ⟨-, proof, hproof, hvalid, before, after, hsplit, -, heach⟩
      -- The draw has no serial, so nothing was observed at it.
      have hserial : (step' draw s).1.1 = 0 := by
        by_contra hne
        rw [observed, record, hproof, Option.bind_some, hvalid, decide_eq_true hne] at hseen
        cases hseen
      obtain ⟨o, ho, hat⟩ := heach 0 (Nat.pos_of_ne_zero fun hzero => hk (UInt32.toNat_inj.mp hzero))
      rw [hserial] at hat
      exact absurd (UInt64.toNat_inj.mp hat)
        (ne_zero_of_mem_observations (hsplit ▸ List.mem_append_right _ ho))
  | some o =>
    obtain ⟨hproof, hvalid, hserial, -, hobserves⟩ := h.observes hk hseen
    rw [hpast, hseen, ← hserial]
    rw [hobserves.ready]
    refine ⟨fun hstable => ⟨hk, o.2, hproof, hvalid, hstable⟩, ?_⟩
    rintro ⟨-, proof, hproof', -, hstable⟩
    rw [hproof, Option.some.injEq] at hproof'
    subst hproof'
    exact hstable

end War3VK.Render.GenerationStability
