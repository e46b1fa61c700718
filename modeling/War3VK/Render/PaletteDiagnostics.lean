import War3VK.Lib.Machine

/-!
# The diagnostics of a palette selection

`src/src/d3d9/war3/render/war3_palette_object_diagnostics.h`: what was done (the action), what a check
has found and about which selection (the evidence), and which selection is described (the identity)
are three fields that the notes update separately. The verdict reads all three.
-/

namespace War3VK.Render.PaletteDiagnostics

open Lib (run history)

/-- `DrawAction`. -/
inductive DrawAction
  | unknown
  | liveNativeSelected
  | packetFallbackSelected
  | staleRefreshObserved
  | nativeOverrideCleared
deriving DecidableEq, Repr

/-- `FrameEvidenceSource`. -/
inductive FrameEvidenceSource
  | none
  | capturedPaletteCurrentFrame
  | producerPaletteCurrentFrame
  | skinPaletteSelectionCurrent
deriving DecidableEq, Repr

/-- `SelectionIdentity`. -/
structure SelectionIdentity where
  source : UInt32 := 0
  slot : UInt32 := 0xffffffff
  minFrameTag : UInt32 := 0
  maxFrameTag : UInt32 := 0
deriving DecidableEq, Repr

/-- `FrameEvidence`. -/
structure FrameEvidence where
  source : FrameEvidenceSource := .none
  checkExecuted : Bool := false
  checkPassed : Bool := false
  observedFrameTag : UInt32 := 0
  covered : SelectionIdentity := {}
deriving DecidableEq, Repr

/-- `NativeFrameVerdict`. -/
inductive NativeFrameVerdict
  | unknown
  | knownCurrent
  | knownStale
deriving DecidableEq, Repr

/-- `Diagnostics`. -/
structure Diagnostics where
  action : DrawAction := .unknown
  overrideCleared : Bool := false
  evidence : FrameEvidence := {}
  identity : SelectionIdentity := {}
deriving DecidableEq, Repr

/-- `NoteLiveNativeSelected`. -/
def noteLiveNativeSelected (selection : SelectionIdentity) (d : Diagnostics) : Diagnostics :=
  { d with action := .liveNativeSelected, identity := selection }

/-- `NotePacketFallbackSelected`. -/
def notePacketFallbackSelected (selection : SelectionIdentity) (d : Diagnostics) : Diagnostics :=
  { d with action := .packetFallbackSelected, identity := selection, evidence := {} }

/-- `NoteStaleObserved`. -/
def noteStaleObserved (d : Diagnostics) : Diagnostics := { d with action := .staleRefreshObserved }

/-- `NoteFrameEvidence`. -/
def noteFrameEvidence (source : FrameEvidenceSource) (passed : Bool) (observedFrameTag : UInt32)
    (covered : SelectionIdentity) (d : Diagnostics) : Diagnostics :=
  { d with evidence := ⟨source, true, passed, observedFrameTag, covered⟩ }

/-- `NoteSelectionReplaced`. -/
def noteSelectionReplaced (newSelection : SelectionIdentity) (d : Diagnostics) : Diagnostics :=
  { d with
    evidence := if d.evidence.covered ≠ newSelection then {} else d.evidence
    identity := newSelection }

/-- `NoteOverrideCleared`. -/
def noteOverrideCleared (d : Diagnostics) : Diagnostics :=
  { d with action := .nativeOverrideCleared, overrideCleared := true, evidence := {}, identity := {} }

/-- The check that `NoteCapturedPaletteCurrentFrameEvidence` puts together. -/
def capturedPalettePassed (provenanceTrusted currentTagReadable : Bool)
    (observedFrameTag minFrameTag maxFrameTag : UInt32) : Bool :=
  provenanceTrusted ∧ minFrameTag ≠ 0 ∧ minFrameTag = maxFrameTag ∧ currentTagReadable ∧
    observedFrameTag = minFrameTag

/-- `NoteCapturedPaletteCurrentFrameEvidence`. -/
def noteCapturedPaletteCurrentFrameEvidence (provenanceTrusted currentTagReadable : Bool)
    (observedFrameTag minFrameTag maxFrameTag slot : UInt32) (d : Diagnostics) : Diagnostics :=
  noteFrameEvidence .capturedPaletteCurrentFrame
    (capturedPalettePassed provenanceTrusted currentTagReadable observedFrameTag minFrameTag
      maxFrameTag)
    observedFrameTag ⟨0, slot, minFrameTag, maxFrameTag⟩ d

/-- `Verdict` of the four fields. -/
def verdictOf (action : DrawAction) (overrideCleared : Bool) (evidence : FrameEvidence)
    (described : SelectionIdentity) : NativeFrameVerdict :=
  if overrideCleared then .unknown
  else if evidence.checkExecuted ∧ ¬evidence.checkPassed ∧
      evidence.source = .skinPaletteSelectionCurrent then .knownStale
  else if described.minFrameTag ≠ described.maxFrameTag then .unknown
  else if action = .liveNativeSelected ∧
      (evidence.source = .capturedPaletteCurrentFrame ∨
        evidence.source = .producerPaletteCurrentFrame) ∧
      (evidence.checkExecuted ∧ evidence.checkPassed ∧ evidence.covered = described) ∧
      evidence.observedFrameTag ≠ 0 ∧ described.minFrameTag = evidence.observedFrameTag then
    .knownCurrent
  else .unknown

/-- `Verdict`. -/
def verdict (d : Diagnostics) : NativeFrameVerdict :=
  verdictOf d.action d.overrideCleared d.evidence d.identity

/-- `ExportedNativeFrame`. -/
structure ExportedNativeFrame where
  known : Bool := false
  frameTag : UInt32 := 0
deriving DecidableEq, Repr

/-- `ExportedNativeFrameFor`. -/
def exportedNativeFrameFor (d : Diagnostics) : ExportedNativeFrame :=
  if verdict d = .knownCurrent then ⟨true, d.identity.minFrameTag⟩ else {}

inductive Note
  | liveNativeSelected (selection : SelectionIdentity)
  | packetFallbackSelected (selection : SelectionIdentity)
  | staleObserved
  | frameEvidence (source : FrameEvidenceSource) (passed : Bool) (observedFrameTag : UInt32)
      (covered : SelectionIdentity)
  | selectionReplaced (newSelection : SelectionIdentity)
  | overrideCleared
  | capturedPalette (provenanceTrusted currentTagReadable : Bool)
      (observedFrameTag minFrameTag maxFrameTag slot : UInt32)
deriving DecidableEq, Repr

def note : Note → Diagnostics → Diagnostics
  | .liveNativeSelected selection => noteLiveNativeSelected selection
  | .packetFallbackSelected selection => notePacketFallbackSelected selection
  | .staleObserved => noteStaleObserved
  | .frameEvidence source passed tag covered => noteFrameEvidence source passed tag covered
  | .selectionReplaced newSelection => noteSelectionReplaced newSelection
  | .overrideCleared => noteOverrideCleared
  | .capturedPalette trusted readable tag minTag maxTag slot =>
    noteCapturedPaletteCurrentFrameEvidence trusted readable tag minTag maxTag slot

def step (n : Note) (d : Diagnostics) : Unit × Diagnostics := ((), note n d)

/-! ## What the notes were -/

def Note.check : Note → Option FrameEvidence
  | .frameEvidence source passed tag covered => some ⟨source, true, passed, tag, covered⟩
  | .capturedPalette trusted readable tag minTag maxTag slot =>
    some ⟨.capturedPaletteCurrentFrame, true,
      capturedPalettePassed trusted readable tag minTag maxTag, tag, ⟨0, slot, minTag, maxTag⟩⟩
  | _ => none

def Note.act : Note → Option DrawAction
  | .liveNativeSelected _ => some .liveNativeSelected
  | .packetFallbackSelected _ => some .packetFallbackSelected
  | .staleObserved => some .staleRefreshObserved
  | .overrideCleared => some .nativeOverrideCleared
  | _ => none

def Note.voids : Note → Bool
  | .overrideCleared | .packetFallbackSelected _ => true
  | _ => false

def lastCheck (notes : List Note) : Option FrameEvidence := (notes.filterMap Note.check).getLast?

def lastAct (notes : List Note) : DrawAction := (notes.filterMap Note.act).getLast?.getD .unknown

def sinceCheck (notes : List Note) : List Note :=
  notes.reverse.takeWhile fun n => n.check.isNone

/-- The most recent check is of a selection, and there was no clearing and no packet fallback
since. -/
def Attributed (notes : List Note) (selection : SelectionIdentity) : Prop :=
  (∃ evidence ∈ lastCheck notes, evidence.covered = selection) ∧
    ∀ n ∈ sinceCheck notes, n.voids = false

variable {notes : List Note} {n : Note} {d : Diagnostics}

theorem lastCheck_of_none (h : n.check = none) : lastCheck (notes ++ [n]) = lastCheck notes := by
  unfold lastCheck
  rw [Lib.filterMap_concat, h, Option.toList_none, List.append_nil]

theorem lastCheck_of_some {evidence : FrameEvidence} (h : n.check = some evidence) :
    lastCheck (notes ++ [n]) = some evidence := by
  unfold lastCheck
  rw [Lib.filterMap_concat, h, Option.toList_some, List.getLast?_concat]

theorem lastAct_of_none (h : n.act = none) : lastAct (notes ++ [n]) = lastAct notes := by
  unfold lastAct
  rw [Lib.filterMap_concat, h, Option.toList_none, List.append_nil]

theorem lastAct_of_some {action : DrawAction} (h : n.act = some action) :
    lastAct (notes ++ [n]) = action := by
  unfold lastAct
  rw [Lib.filterMap_concat, h, Option.toList_some, List.getLast?_concat, Option.getD_some]

theorem sinceCheck_of_none (h : n.check = none) :
    sinceCheck (notes ++ [n]) = n :: sinceCheck notes := by
  unfold sinceCheck
  rw [List.reverse_append, List.reverse_singleton, List.singleton_append,
    List.takeWhile_cons_of_pos (by simp [h])]

theorem sinceCheck_of_some {evidence : FrameEvidence} (h : n.check = some evidence) :
    sinceCheck (notes ++ [n]) = [] := by
  unfold sinceCheck
  rw [List.reverse_append, List.reverse_singleton, List.singleton_append,
    List.takeWhile_cons_of_neg (by simp [h])]

/-! ## What the fields tell of the notes -/

/-- The action is the last one, and the evidence that of the last check, with no clearing and no
packet fallback since. -/
structure Traced (notes : List Note) (d : Diagnostics) : Prop where
  action : d.action = lastAct notes
  evidence : d.evidence.checkExecuted = true →
    lastCheck notes = some d.evidence ∧ ∀ n ∈ sinceCheck notes, n.voids = false

theorem Traced.kept (h : Traced notes d) (hcheck : n.check = none) (hvoids : n.voids = false)
    (hexecuted : d.evidence.checkExecuted = true) :
    lastCheck (notes ++ [n]) = some d.evidence ∧ ∀ n' ∈ sinceCheck (notes ++ [n]), n'.voids = false := by
  obtain ⟨hlast, hsince⟩ := h.evidence hexecuted
  rw [lastCheck_of_none hcheck, sinceCheck_of_none hcheck]
  exact ⟨hlast, List.forall_mem_cons.mpr ⟨hvoids, hsince⟩⟩

theorem checked (notes : List Note) {evidence : FrameEvidence} (h : n.check = some evidence) :
    lastCheck (notes ++ [n]) = some evidence ∧ ∀ n' ∈ sinceCheck (notes ++ [n]), n'.voids = false := by
  rw [lastCheck_of_some h, sinceCheck_of_some h]
  exact ⟨rfl, by simp⟩

theorem Traced.note (h : Traced notes d) (n : Note) :
    Traced (notes ++ [n]) (PaletteDiagnostics.note n d) := by
  cases n with
  | liveNativeSelected selection => exact ⟨(lastAct_of_some rfl).symm, h.kept rfl rfl⟩
  | packetFallbackSelected selection =>
    exact ⟨(lastAct_of_some rfl).symm, fun hexecuted => by cases hexecuted⟩
  | staleObserved => exact ⟨(lastAct_of_some rfl).symm, h.kept rfl rfl⟩
  | frameEvidence source passed tag covered =>
    exact ⟨h.action.trans (lastAct_of_none rfl).symm, fun _ => checked notes rfl⟩
  | selectionReplaced newSelection =>
    refine ⟨h.action.trans (lastAct_of_none rfl).symm, ?_⟩
    show (if d.evidence.covered ≠ newSelection then {} else d.evidence : FrameEvidence).checkExecuted
      = true → lastCheck _ = some (if d.evidence.covered ≠ newSelection then {} else d.evidence) ∧ _
    by_cases hsame : d.evidence.covered ≠ newSelection
    · rw [if_pos hsame]
      intro hexecuted
      cases hexecuted
    · rw [if_neg hsame]
      exact h.kept rfl rfl
  | overrideCleared => exact ⟨(lastAct_of_some rfl).symm, fun hexecuted => by cases hexecuted⟩
  | capturedPalette trusted readable tag minTag maxTag slot =>
    exact ⟨h.action.trans (lastAct_of_none rfl).symm, fun _ => checked notes rfl⟩

theorem traced_run (notes : List Note) : Traced notes (run step notes {}) := by
  induction notes using List.reverseRecOn with
  | nil => exact ⟨rfl, fun hexecuted => by cases hexecuted⟩
  | append_singleton notes n ih =>
    rw [Lib.run_append]
    exact ih.note n

/-! ## Verdicts -/

def FoundStale (evidence : FrameEvidence) : Prop :=
  evidence.checkExecuted = true ∧ evidence.checkPassed = false ∧
    evidence.source = .skinPaletteSelectionCurrent

theorem verdict_eq_knownStale_iff :
    verdict d = .knownStale ↔ d.overrideCleared = false ∧ FoundStale d.evidence := by
  unfold verdict verdictOf FoundStale
  cases d.overrideCleared with
  | true => simp
  | false =>
    by_cases hstale : d.evidence.checkExecuted = true ∧ ¬d.evidence.checkPassed = true ∧
        d.evidence.source = .skinPaletteSelectionCurrent
    · rw [if_neg Bool.false_ne_true, if_pos hstale]
      simpa using hstale
    · rw [if_neg Bool.false_ne_true, if_neg hstale]
      simp only [Bool.not_eq_true] at hstale
      simp only [hstale, and_false, iff_false]
      split_ifs <;> simp

theorem of_verdict_eq_knownCurrent (h : verdict d = .knownCurrent) :
    d.action = .liveNativeSelected ∧ d.evidence.checkExecuted = true ∧
      d.evidence.checkPassed = true ∧ d.evidence.covered = d.identity ∧
        d.evidence.observedFrameTag ≠ 0 ∧ d.identity.minFrameTag = d.evidence.observedFrameTag ∧
          d.identity.maxFrameTag = d.evidence.observedFrameTag := by
  unfold verdict verdictOf at h
  split_ifs at h with hcleared hstale hsingle hcurrent
  obtain ⟨haction, -, ⟨hexecuted, hpassed, hcovered⟩, hnonzero, htag⟩ := hcurrent
  exact ⟨haction, hexecuted, hpassed, hcovered, hnonzero, htag, (not_not.mp hsingle).symm.trans htag⟩

/-- What the verdict after notes is to say: it speaks of the most recent check, which is of the
described selection, and of no earlier one. -/
structure Lawful (notes : List Note) (d : Diagnostics) : Prop where
  /-- It is of a check of the described selection, not voided since. -/
  attributed : verdict d ≠ .unknown → Attributed notes d.identity
  /-- When it is current, the check has passed and observed the selection's only frame, and the last
  action was a live selection. -/
  current : verdict d = .knownCurrent → lastAct notes = .liveNativeSelected ∧
    ∃ evidence ∈ lastCheck notes, evidence.checkPassed = true ∧ evidence.observedFrameTag ≠ 0 ∧
      d.identity.minFrameTag = evidence.observedFrameTag ∧
        d.identity.maxFrameTag = evidence.observedFrameTag
  /-- The exported frame is that of a current verdict. -/
  exported : (exportedNativeFrameFor d).frameTag ≠ 0 ↔ verdict d = .knownCurrent

/-- Evidence that the described selection is stale is about this selection. -/
def Own (d : Diagnostics) : Prop :=
  d.overrideCleared = false → FoundStale d.evidence → d.evidence.covered = d.identity

/-- Before a note: what it selects live is the selection of the stale evidence, and a failed check of
a skin selection is of the selection that is described. -/
def Meets (d : Diagnostics) : Note → Prop
  | .liveNativeSelected selection =>
    d.overrideCleared = false → FoundStale d.evidence → d.evidence.covered = selection
  | .frameEvidence source passed _ covered =>
    d.overrideCleared = false → source = .skinPaletteSelectionCurrent → passed = false →
      covered = d.identity
  | _ => True

theorem own_note_iff (h : Own d) (n : Note) : Own (note n d) ↔ Meets d n := by
  cases n with
  | liveNativeSelected selection => exact Iff.rfl
  | packetFallbackSelected selection => exact iff_of_true (fun _ hstale => by cases hstale.1) trivial
  | staleObserved => exact iff_of_true h trivial
  | frameEvidence source passed tag covered =>
    exact ⟨fun hown hcleared hsource hpassed => hown hcleared ⟨rfl, hpassed, hsource⟩,
      fun hmeets hcleared hstale => hmeets hcleared hstale.2.2 hstale.2.1⟩
  | selectionReplaced newSelection =>
    refine iff_of_true (fun _ hstale => ?_) trivial
    show (if d.evidence.covered ≠ newSelection then {} else d.evidence : FrameEvidence).covered
      = newSelection
    by_cases hsame : d.evidence.covered ≠ newSelection
    · -- The evidence is void, and shows nothing.
      have hvoid : (note (.selectionReplaced newSelection) d).evidence = {} := if_pos hsame
      rw [hvoid] at hstale
      cases hstale.1
    · rw [if_neg hsame]
      exact not_not.mp hsame
  | overrideCleared => exact iff_of_true (fun hcleared => by cases hcleared) trivial
  | capturedPalette trusted readable tag minTag maxTag slot =>
    exact iff_of_true (fun _ hstale => by cases hstale.2.2) trivial

theorem Traced.lawful_iff (h : Traced notes d) : Lawful notes d ↔ Own d := by
  constructor
  · intro hlawful hcleared hstale
    have hverdict := verdict_eq_knownStale_iff.mpr ⟨hcleared, hstale⟩
    obtain ⟨⟨evidence, hlast, hcovered⟩, -⟩ := hlawful.attributed (by rw [hverdict]; simp)
    rw [(h.evidence hstale.1).1] at hlast
    rw [Option.some.inj hlast]
    exact hcovered
  · intro hown
    refine ⟨fun hknown => ?_, fun hcurrent => ?_, ?_⟩
    · cases hverdict : verdict d with
      | unknown => exact absurd hverdict hknown
      | knownCurrent =>
        obtain ⟨-, hexecuted, -, hcovered, -⟩ := of_verdict_eq_knownCurrent hverdict
        obtain ⟨hlast, hsince⟩ := h.evidence hexecuted
        exact ⟨⟨d.evidence, hlast, hcovered⟩, hsince⟩
      | knownStale =>
        obtain ⟨hcleared, hstale⟩ := verdict_eq_knownStale_iff.mp hverdict
        obtain ⟨hlast, hsince⟩ := h.evidence hstale.1
        exact ⟨⟨d.evidence, hlast, hown hcleared hstale⟩, hsince⟩
    · obtain ⟨haction, hexecuted, hpassed, -, hrest⟩ := of_verdict_eq_knownCurrent hcurrent
      exact ⟨h.action.symm.trans haction, d.evidence, (h.evidence hexecuted).1, hpassed, hrest⟩
    · unfold exportedNativeFrameFor
      by_cases hcurrent : verdict d = .knownCurrent
      · obtain ⟨-, -, -, -, hnonzero, htag, -⟩ := of_verdict_eq_knownCurrent hcurrent
        rw [if_pos hcurrent]
        exact iff_of_true (by rw [htag]; exact hnonzero) hcurrent
      · rw [if_neg hcurrent]
        exact iff_of_false (fun hne => hne rfl) hcurrent

/-- The verdict is lawful after every one of a list of notes exactly when every note meets the
condition. -/
theorem verdict_law (notes : List Note) :
    (∀ before after, notes = before ++ after → Lawful before (run step before {})) ↔
      ∀ r ∈ history step notes {}, Meets r.before r.call := by
  constructor
  · intro hlawful r hr
    obtain ⟨past, later, hsplit⟩ := List.mem_iff_append.mp hr
    obtain ⟨earlier, n, rest, rfl, -, rfl, -⟩ := Lib.history_split _ hsplit
    have hbefore := (traced_run earlier).lawful_iff.mp (hlawful earlier (n :: rest) rfl)
    have hafter := (traced_run (earlier ++ [n])).lawful_iff.mp
      (hlawful (earlier ++ [n]) rest (by simp))
    rw [Lib.run_append] at hafter
    exact (own_note_iff hbefore n).mp hafter
  · rintro hmeets before after rfl
    rw [Lib.history_append, List.forall_mem_append] at hmeets
    refine (traced_run before).lawful_iff.mpr ?_
    refine @Lib.history_induction_of _ _ _ step (fun d _ => Own d) (fun r => Meets r.before r.call) {}
      (fun hcleared hstale => by cases hstale.1) (fun d _ n hown hn => ?_) before hmeets.1
    exact (own_note_iff hown n).mpr hn

/-- A failed check of one selection makes another one, which is selected after it, known as stale. -/
theorem stale_inherited :
    let checkedSelection : SelectionIdentity := ⟨0, 7, 5, 5⟩
    let described : SelectionIdentity := ⟨0, 9, 6, 6⟩
    let notes : List Note := [.liveNativeSelected checkedSelection,
      .frameEvidence .skinPaletteSelectionCurrent false 0 checkedSelection,
      .liveNativeSelected described]
    (run step notes {}).identity = described ∧ verdict (run step notes {}) = .knownStale ∧
      ¬Attributed notes (run step notes {}).identity := by
  intro checkedSelection described notes
  refine ⟨rfl, by decide, ?_⟩
  rintro ⟨⟨evidence, hlast, hcovered⟩, -⟩
  obtain rfl : (⟨.skinPaletteSelectionCurrent, true, false, 0, checkedSelection⟩ : FrameEvidence) =
    evidence := Option.some.inj hlast
  exact absurd hcovered (by decide)

end War3VK.Render.PaletteDiagnostics
