import War3VK.Lib.Machine
import War3VK.Lib.Mailbox
import War3VK.Render.RenderSettings

/-!
# One pipeline and its settings mailbox

The calls that touch a pipeline's mailbox, as they come one after another under its mutex: an author's
commit, the two regions of `OnFrameStart` with what is derived between them, the capture of a snapshot
for a queued command, and what the shadow pass of such a command feeds back. Revisions count commits and
are natural numbers.
-/

namespace War3VK.Render

open War3VK.Lib

variable {Others : Type}

/-- `War3RenderSettingsMailbox`. -/
structure War3RenderSettingsMailbox (Others : Type) where
  /-- `pending`, `pendingRevision` and `appliedRevision`. -/
  settings : Mailbox (War3RenderSettings Others)
  pendingExposureRevision : ℕ
  appliedExposureRevision : ℕ

structure CapturedInput (Others : Type) where
  settings : War3RenderSettings Others
  settingsRevision : ℕ

/-- Where `OnFrameStart` is. -/
inductive FramePhase
  | outside
  /-- Behind its first region, with `authoredExposureChanged`. -/
  | taken (authoredExposureChanged : Bool)
  | resolved

structure War3RenderPipeline (Others : Type) where
  /-- `*m_settingsMailbox`. -/
  mailbox : War3RenderSettingsMailbox Others
  /-- `m_settings` and the lighting clock. -/
  frame : FrameState Others
  /-- Where `OnFrameStart` is. -/
  phase : FramePhase
  commands : List (CapturedInput Others)

structure ResolvedLight where
  renderTimeHours : Float32
  finalLightDir : Vector4
  finalLightColor : Vector4

inductive OwnerCall
  /-- `OnFrameStart`, its first region. -/
  | frameStart
  /-- `OnFrameStart` between its regions. -/
  | resolve (answers : FrameAnswers)
  /-- `OnFrameStart`, its second region. -/
  | writeBack
  | captureSettingsSnapshot
  /-- The feedback of the shadow pass of a captured command. -/
  | feedBack (command : ℕ) (light : ResolvedLight)

inductive MailboxCall (Others : Type)
  | write (edit : War3RenderSettings Others → War3RenderSettings Others)
  | owner (call : OwnerCall)

inductive MailboxOutput (Others : Type)
  | nothing
  | committed (pending : War3RenderSettings Others)
  | frameStarted (settings : War3RenderSettings Others)
  | resolved (settings : War3RenderSettings Others)
  /-- The frame has given them back, if nothing was committed. -/
  | wroteBack
  | captured (input : CapturedInput Others)
  /-- A shadow pass has fed back, and this is pending. -/
  | fedBack (pending : War3RenderSettings Others)

namespace War3RenderPipeline

def init (settings : War3RenderSettings Others) : War3RenderPipeline Others where
  mailbox := ⟨⟨settings, 1, 1⟩, 0, 0⟩
  frame := ⟨settings, 0, 0.5, false, 0⟩
  phase := .outside
  commands := []

/-- `War3SettingsWrite`, from the lock to the commit. -/
def write (edit : War3RenderSettings Others → War3RenderSettings Others)
    (p : War3RenderPipeline Others) : War3RenderPipeline Others :=
  let beforeExposure := p.mailbox.settings.pending.exposure
  let settings := p.mailbox.settings.commit edit
  { p with mailbox := { p.mailbox with
      settings := settings
      pendingExposureRevision :=
        if beforeExposure != settings.pending.exposure then p.mailbox.pendingExposureRevision + 1
        else p.mailbox.pendingExposureRevision } }

/-- The first region of `OnFrameStart`. -/
def frameStart (p : War3RenderPipeline Others) : War3RenderPipeline Others :=
  { p with
    frame := { p.frame with settings := p.mailbox.settings.taken p.frame.settings }
    phase := .taken (p.mailbox.pendingExposureRevision ≠ p.mailbox.appliedExposureRevision)
    mailbox := { p.mailbox with
      settings := p.mailbox.settings.take
      appliedExposureRevision := p.mailbox.pendingExposureRevision } }

/-- What `OnFrameStart` derives. -/
def resolve (authoredExposureChanged : Bool) (answers : FrameAnswers)
    (p : War3RenderPipeline Others) : War3RenderPipeline Others :=
  { p with
    frame := p.frame.onFrameStart authoredExposureChanged answers
    phase := .resolved }

/-- The second region of `OnFrameStart`. -/
def writeBack (p : War3RenderPipeline Others) : War3RenderPipeline Others :=
  { p with
    mailbox := { p.mailbox with settings := p.mailbox.settings.giveBack p.frame.settings }
    phase := .outside }

/-- What `CaptureSettingsSnapshot` captures. -/
def captureSettingsSnapshot (p : War3RenderPipeline Others) : CapturedInput Others :=
  ⟨p.frame.settings, p.mailbox.settings.appliedRevision⟩

def feedBackEdit (dayNight : War3DayNightSettings) (light : ResolvedLight)
    (s : War3RenderSettings Others) : War3RenderSettings Others :=
  { s with
    dayNight := { s.dayNight with renderTimeHours := light.renderTimeHours }
    sunDirection := if dayNight.celestialMotionEnabled then light.finalLightDir else s.sunDirection
    sunColor := if dayNight.timeColorGradingEnabled then light.finalLightColor else s.sunColor }

/-- The feedback of a command, unless there was a commit after it was captured. -/
def feedBack (input : CapturedInput Others) (light : ResolvedLight)
    (p : War3RenderPipeline Others) : MailboxOutput Others × War3RenderPipeline Others :=
  if p.mailbox.settings.pendingRevision = input.settingsRevision then
    let settings := p.mailbox.settings.commit (feedBackEdit input.settings.dayNight light)
    (.fedBack settings.pending, { p with mailbox := { p.mailbox with settings := settings } })
  else (.nothing, p)

def ownerStep (call : OwnerCall) (p : War3RenderPipeline Others) :
    MailboxOutput Others × War3RenderPipeline Others :=
  match call, p.phase with
  | .frameStart, .outside => (.frameStarted p.frameStart.frame.settings, p.frameStart)
  | .resolve answers, .taken changed =>
    (.resolved (p.resolve changed answers).frame.settings, p.resolve changed answers)
  | .writeBack, .resolved => (.wroteBack, p.writeBack)
  | .captureSettingsSnapshot, _ =>
    (.captured p.captureSettingsSnapshot,
      { p with commands := p.commands ++ [p.captureSettingsSnapshot] })
  | .feedBack command light, _ =>
    match p.commands[command]? with
    | some input => p.feedBack input light
    | none => (.nothing, p)
  -- Calls come in the order of `OnFrameStart`.
  | _, _ => (.nothing, p)

def step (call : MailboxCall Others) (p : War3RenderPipeline Others) :
    MailboxOutput Others × War3RenderPipeline Others :=
  match call with
  | .write edit => (.committed (p.write edit).mailbox.settings.pending, p.write edit)
  | .owner call => p.ownerStep call

/-- A pipeline's settings are what is pending while the revisions agree, but for what is derived. -/
def Settled (p : War3RenderPipeline Others) : Prop :=
  p.mailbox.settings.Settled War3RenderSettings.authored p.frame.settings

def pending (p : War3RenderPipeline Others) : War3RenderSettings Others :=
  p.mailbox.settings.pending

/-! ## One call -/

variable {p : War3RenderPipeline Others}

theorem init_settled (settings : War3RenderSettings Others) : (init settings).Settled where
  ordered := Nat.le_refl _
  same _ := rfl

inductive OwnerSpec (p : War3RenderPipeline Others) :
    MailboxOutput Others × War3RenderPipeline Others → Prop
  | nothing : OwnerSpec p (.nothing, p)
  | frameStart : OwnerSpec p (.frameStarted p.frameStart.frame.settings, p.frameStart)
  | resolve (changed : Bool) (answers : FrameAnswers) :
    OwnerSpec p (.resolved (p.resolve changed answers).frame.settings, p.resolve changed answers)
  | writeBack : OwnerSpec p (.wroteBack, p.writeBack)
  | captured : OwnerSpec p (.captured p.captureSettingsSnapshot,
      { p with commands := p.commands ++ [p.captureSettingsSnapshot] })
  | fedBack (dayNight : War3DayNightSettings) (light : ResolvedLight) :
    OwnerSpec p (.fedBack (p.mailbox.settings.commit (feedBackEdit dayNight light)).pending,
      { p with mailbox := { p.mailbox with
          settings := p.mailbox.settings.commit (feedBackEdit dayNight light) } })

theorem ownerStep_spec (call : OwnerCall) (p : War3RenderPipeline Others) :
    OwnerSpec p (p.ownerStep call) := by
  unfold ownerStep
  split
  · exact .frameStart
  · exact .resolve _ _
  · exact .writeBack
  · exact .captured
  · split
    · unfold feedBack
      split
      · exact .fedBack _ _
      · exact .nothing
    · exact .nothing
  · exact .nothing

theorem Settled.after (h : p.Settled) (call : MailboxCall Others) : (p.step call).2.Settled := by
  cases call with
  | write edit => exact Mailbox.Settled.commit h edit
  | owner call =>
    have hspec := ownerStep_spec call p
    change (p.ownerStep call).2.Settled
    generalize p.ownerStep call = result at hspec
    cases hspec with
    | nothing => exact h
    | frameStart => exact Mailbox.Settled.take h
    | resolve changed answers => exact Mailbox.Settled.derive h (FrameState.onFrameStart_authored _ _ _)
    | writeBack => exact Mailbox.Settled.giveBack h
    | captured => exact h
    | fedBack dayNight light => exact Mailbox.Settled.commit h _

inductive PendingSpec (p p' : War3RenderPipeline Others) : MailboxOutput Others → Prop
  | committed : PendingSpec p p' (.committed p'.pending)
  | fedBack (dayNight : War3DayNightSettings) (light : ResolvedLight)
    (h : p'.pending = feedBackEdit dayNight light p.pending) : PendingSpec p p' (.fedBack p'.pending)
  | same (output : MailboxOutput Others) (h : p'.pending.authored = p.pending.authored) :
    PendingSpec p p' output

theorem Settled.step_pending (h : p.Settled) (call : MailboxCall Others) :
    PendingSpec p (p.step call).2 (p.step call).1 := by
  cases call with
  | write edit => exact .committed
  | owner call =>
    have hspec := ownerStep_spec call p
    change PendingSpec p (p.ownerStep call).2 (p.ownerStep call).1
    generalize p.ownerStep call = result at hspec
    cases hspec with
    | nothing => exact .same _ rfl
    | frameStart => exact .same _ (congrArg _ (Mailbox.take_pending _))
    | resolve changed answers => exact .same _ rfl
    | writeBack => exact .same _ (Mailbox.Settled.view_giveBack h)
    | captured => exact .same _ rfl
    | fedBack dayNight light => exact .fedBack dayNight light rfl

variable {call : MailboxCall Others} {s : War3RenderSettings Others}

theorem Settled.frameStarted (h : p.Settled) (houtput : (p.step call).1 = .frameStarted s) :
    s.authored = p.pending.authored ∧ (p.step call).2.frame.settings = s := by
  cases call with
  | write edit => cases houtput
  | owner call =>
    have hspec := ownerStep_spec call p
    change (p.ownerStep call).1 = .frameStarted s at houtput
    change s.authored = p.pending.authored ∧ (p.ownerStep call).2.frame.settings = s
    generalize p.ownerStep call = result at hspec houtput
    cases hspec with
    | frameStart =>
      cases houtput
      exact ⟨Mailbox.Settled.view_take h, rfl⟩
    | _ => cases houtput

theorem step_frame (call : MailboxCall Others) (p : War3RenderPipeline Others)
    (houtput : ∀ s, (p.step call).1 ≠ .frameStarted s) :
    (p.step call).2.frame.settings.authored = p.frame.settings.authored := by
  cases call with
  | write edit => rfl
  | owner call =>
    have hspec := ownerStep_spec call p
    change ∀ s, (p.ownerStep call).1 ≠ .frameStarted s at houtput
    change (p.ownerStep call).2.frame.settings.authored = p.frame.settings.authored
    generalize p.ownerStep call = result at hspec houtput
    cases hspec with
    | frameStart => exact absurd rfl (houtput _)
    | resolve changed answers => exact FrameState.onFrameStart_authored _ _ _
    | _ => rfl

theorem step_seen (houtput : (p.step call).1 = .resolved s ∨
      ∃ revision, (p.step call).1 = .captured ⟨s, revision⟩) :
    s.authored = p.frame.settings.authored := by
  cases call with
  | write edit => rcases houtput with houtput | ⟨_, houtput⟩ <;> cases houtput
  | owner call =>
    have hspec := ownerStep_spec call p
    change (p.ownerStep call).1 = .resolved s ∨
      ∃ revision, (p.ownerStep call).1 = .captured ⟨s, revision⟩ at houtput
    generalize p.ownerStep call = result at hspec houtput
    cases hspec with
    | resolve changed answers =>
      obtain houtput | ⟨_, houtput⟩ := houtput
      · cases houtput
        exact FrameState.onFrameStart_authored _ _ _
      · cases houtput
    | captured =>
      obtain houtput | ⟨_, houtput⟩ := houtput
      · cases houtput
      · cases houtput
        rfl
    | _ => rcases houtput with houtput | ⟨_, houtput⟩ <;> cases houtput

def Untaken (p : War3RenderPipeline Others) : Prop :=
  p.mailbox.settings.appliedRevision < p.mailbox.settings.pendingRevision

theorem Settled.untaken (h : p.Settled) (houtput : (p.step call).1 = .committed s) :
    (p.step call).2.Untaken := by
  cases call with
  | write edit => exact Nat.lt_succ_of_le h.ordered
  | owner call =>
    have hspec := ownerStep_spec call p
    change (p.ownerStep call).1 = .committed s at houtput
    generalize p.ownerStep call = result at hspec houtput
    cases hspec <;> cases houtput

theorem Untaken.after (h : p.Untaken) (houtput : ∀ s, (p.step call).1 ≠ .frameStarted s) :
    (p.step call).2.Untaken := by
  cases call with
  | write edit => exact Nat.lt_succ_of_lt h
  | owner call =>
    have hspec := ownerStep_spec call p
    change ∀ s, (p.ownerStep call).1 ≠ .frameStarted s at houtput
    change (p.ownerStep call).2.Untaken
    generalize p.ownerStep call = result at hspec houtput
    cases hspec with
    | frameStart => exact absurd rfl (houtput _)
    | writeBack =>
      unfold Untaken War3RenderPipeline.writeBack
      rw [Mailbox.giveBack_pendingRevision, Mailbox.giveBack_appliedRevision]
      exact h
    | fedBack dayNight light => exact Nat.lt_succ_of_lt h
    | _ => exact h

theorem Untaken.wroteBack (h : p.Untaken) (houtput : (p.step call).1 = .wroteBack) :
    (p.step call).2.mailbox = p.mailbox := by
  cases call with
  | write edit => cases houtput
  | owner call =>
    have hspec := ownerStep_spec call p
    change (p.ownerStep call).1 = .wroteBack at houtput
    change (p.ownerStep call).2.mailbox = p.mailbox
    generalize p.ownerStep call = result at hspec houtput
    cases hspec with
    | writeBack =>
      unfold War3RenderPipeline.writeBack
      rw [Mailbox.giveBack_of_lt h]
    | _ => cases houtput

/-! ## Runs -/

theorem Settled.run (h : p.Settled) (calls : List (MailboxCall Others)) :
    (Lib.run step calls p).Settled :=
  run_induction step h (fun _ call hsettled => hsettled.after call) calls

def Unresolved {α : Type} (field : War3RenderSettings Others → α) : Prop :=
  ∀ s, field s.authored = field s

theorem Unresolved.eq {α : Type} {field : War3RenderSettings Others → α}
    (hfield : Unresolved field) {t : War3RenderSettings Others} (h : s.authored = t.authored) :
    field s = field t := by
  rw [← hfield s, ← hfield t, h]

def Unlit {α : Type} (field : War3RenderSettings Others → α) : Prop :=
  ∀ dayNight light s, field (feedBackEdit dayNight light s) = field s

/-- What is pending of a field stays while no author commits another value for it, and no shadow pass
feeds back if the field is one that it resolves. -/
theorem Settled.pending_kept (h : p.Settled) {α : Type} {field : War3RenderSettings Others → α}
    (hfield : Unresolved field) {value : α} (hvalue : field p.pending = value)
    (calls : List (MailboxCall Others))
    (hkept : ∀ r ∈ history step calls p, ∀ s, r.output = .committed s → field s = value)
    (hlit : Unlit field ∨ ∀ r ∈ history step calls p, ∀ s, r.output ≠ .fedBack s) :
    field (Lib.run step calls p).pending = value := by
  induction calls generalizing p with
  | nil => exact hvalue
  | cons call calls ih =>
    rw [history, List.forall_mem_cons] at hkept
    rw [history, List.forall_mem_cons] at hlit
    refine ih (h.after call) ?_ hkept.2 (hlit.imp_right And.right)
    have hcommitted := hkept.1
    have hfed := hlit.imp_right And.left
    have hspec := h.step_pending call
    change ∀ s, (p.step call).1 = .committed s → field s = value at hcommitted
    change Unlit field ∨ ∀ s, (p.step call).1 ≠ .fedBack s at hfed
    generalize (p.step call).1 = output at hspec hcommitted hfed
    cases hspec with
    | committed => exact hcommitted _ rfl
    | fedBack dayNight light heq =>
      obtain hunlit | hnone := hfed
      · calc field (p.step call).2.pending = field (feedBackEdit dayNight light p.pending) := by rw [heq]
          _ = field p.pending := hunlit _ _ _
          _ = value := hvalue
      · exact absurd rfl (hnone _)
    | same _ hsame => exact (hfield.eq hsame).trans hvalue

theorem frame_kept (calls : List (MailboxCall Others)) (p : War3RenderPipeline Others)
    (hnone : ∀ r ∈ history step calls p, ∀ s, r.output ≠ .frameStarted s) :
    (Lib.run step calls p).frame.settings.authored = p.frame.settings.authored := by
  induction calls generalizing p with
  | nil => rfl
  | cons call calls ih =>
    rw [history, List.forall_mem_cons] at hnone
    exact (ih _ hnone.2).trans (step_frame call p hnone.1)

theorem Untaken.run (h : p.Untaken) (calls : List (MailboxCall Others))
    (hnone : ∀ r ∈ history step calls p, ∀ s, r.output ≠ .frameStarted s) :
    (Lib.run step calls p).Untaken := by
  induction calls generalizing p with
  | nil => exact h
  | cons call calls ih =>
    rw [history, List.forall_mem_cons] at hnone
    exact ih (h.after hnone.1) hnone.2

structure MailboxLaw
    (past : List (Record (War3RenderPipeline Others) (MailboxCall Others) (MailboxOutput Others))) :
    Prop where
  /-- A frame starts with what was committed, field by field, until an author commits another value for
  the field, or a shadow pass feeds it back. -/
  shown : ∀ {α : Type} (field : War3RenderSettings Others → α), Unresolved field →
    ∀ earlier r between r' later s t, past = earlier ++ r :: (between ++ r' :: later) →
      r.output = .committed s → r'.output = .frameStarted t →
      (∀ m ∈ between, ∀ u, m.output = .committed u → field u = field s) →
      (Unlit field ∨ ∀ m ∈ between, ∀ u, m.output ≠ .fedBack u) → field t = field s
  /-- The settings that a frame resolves and captures are those it has started with, but for what is
  derived. -/
  kept : ∀ earlier r between r' later s t, past = earlier ++ r :: (between ++ r' :: later) →
    r.output = .frameStarted s → (∀ m ∈ between, ∀ u, m.output ≠ .frameStarted u) →
    (r'.output = .resolved t ∨ ∃ revision, r'.output = .captured ⟨t, revision⟩) →
    t.authored = s.authored
  /-- What was committed during a frame is not overwritten when the frame gives back. -/
  spared : ∀ earlier r between r' later s, past = earlier ++ r :: (between ++ r' :: later) →
    r.output = .committed s → (∀ m ∈ between, ∀ u, m.output ≠ .frameStarted u) →
    r'.output = .wroteBack → (r'.before.step r'.call).2.mailbox = r'.before.mailbox

theorem split_twice {calls : List (MailboxCall Others)} {earlier between later :
      List (Record (War3RenderPipeline Others) (MailboxCall Others) (MailboxOutput Others))}
    {r r' : Record (War3RenderPipeline Others) (MailboxCall Others) (MailboxOutput Others)}
    (h : history step calls p = earlier ++ r :: (between ++ r' :: later)) :
    ∃ first call middle call', r = record step (Lib.run step first p) call ∧
      between = history step middle (step call (Lib.run step first p)).2 ∧
      r' = record step (Lib.run step middle (step call (Lib.run step first p)).2) call' := by
  obtain ⟨first, call, rest, -, -, hr, hrest⟩ := history_split step h
  obtain ⟨middle, call', last, -, hbetween, hr', -⟩ := history_split step hrest.symm
  exact ⟨first, call, middle, call', hr, hbetween, hr'⟩

theorem Settled.law (h : p.Settled) (calls : List (MailboxCall Others)) :
    MailboxLaw (history step calls p) where
  shown field hfield earlier r between r' later s t hpast hs ht hbetween hlit := by
    obtain ⟨first, call, middle, call', rfl, rfl, rfl⟩ := split_twice hpast
    have hfirst := h.run first
    have hsecond := hfirst.after call
    have hpending : (step call (Lib.run step first p)).2.pending = s := by
      cases call with
      | write edit => exact MailboxOutput.committed.inj hs
      | owner call =>
        have hspec := ownerStep_spec call (Lib.run step first p)
        change ((Lib.run step first p).ownerStep call).1 = .committed s at hs
        generalize (Lib.run step first p).ownerStep call = result at hspec hs
        cases hspec <;> cases hs
    have hkept := hsecond.pending_kept hfield (congrArg field hpending) middle hbetween hlit
    exact (hfield.eq ((hsecond.run middle).frameStarted ht).1).trans hkept
  kept earlier r between r' later s t hpast hs hbetween ht := by
    obtain ⟨first, call, middle, call', rfl, rfl, rfl⟩ := split_twice hpast
    have hfirst := (h.run first).frameStarted hs
    calc t.authored = (Lib.run step middle (step call (Lib.run step first p)).2).frame.settings.authored :=
          step_seen ht
      _ = (step call (Lib.run step first p)).2.frame.settings.authored := frame_kept middle _ hbetween
      _ = s.authored := congrArg _ hfirst.2
  spared earlier r between r' later s hpast hs hbetween hwrote := by
    obtain ⟨first, call, middle, call', rfl, rfl, rfl⟩ := split_twice hpast
    have huntaken := ((h.run first).untaken hs).run middle hbetween
    exact huntaken.wroteBack hwrote

end War3RenderPipeline

end War3VK.Render

/-!
## Writers, publications and their mailboxes

A scoped writer loads the mailbox that is published and writes into it later, whatever is published
then. Pipelines are numbered, and each has its own mailbox.
-/

namespace War3VK.Render

open War3VK.Lib

variable {Others : Type}

structure SettingsWorld (Others : Type) where
  pipelines : ℕ → War3RenderPipeline Others
  activeSettingsMailbox : Option ℕ
  /-- The mailbox of a scoped writer, by its pipeline. -/
  writers : ℕ → Option ℕ

inductive SettingsCall (Others : Type)
  | publish (mailbox : Option ℕ)
  /-- `GetMutableSettings`, until the mailbox is loaded. -/
  | getMutableSettings (writer : ℕ)
  /-- A writer locks its mailbox, edits what is pending and commits. -/
  | write (writer : ℕ) (edit : War3RenderSettings Others → War3RenderSettings Others)
  | owner (pipeline : ℕ) (call : OwnerCall)

namespace SettingsWorld

def start (settings : ℕ → War3RenderSettings Others) : SettingsWorld Others where
  pipelines n := .init (settings n)
  activeSettingsMailbox := none
  writers _ := none

def onPipeline (pipeline : ℕ) (call : MailboxCall Others) (w : SettingsWorld Others) :
    SettingsWorld Others :=
  { w with
    pipelines := Function.update w.pipelines pipeline ((w.pipelines pipeline).step call).2 }

def step (call : SettingsCall Others) (w : SettingsWorld Others) : Unit × SettingsWorld Others :=
  ((), match call with
    | .publish mailbox => { w with activeSettingsMailbox := mailbox }
    | .getMutableSettings writer =>
      { w with writers := Function.update w.writers writer w.activeSettingsMailbox }
    | .write writer edit =>
      match w.writers writer with
      | none => w
      | some pipeline =>
        { w.onPipeline pipeline (.write edit) with
          writers := Function.update w.writers writer none }
    | .owner pipeline call => w.onPipeline pipeline (.owner call))

abbrev Happened (Others : Type) := Record (SettingsWorld Others) (SettingsCall Others) Unit

def callOn (pipeline : ℕ) (r : Happened Others) : Option (MailboxCall Others) :=
  match r.call with
  | .write writer edit =>
    if r.before.writers writer = some pipeline then some (.write edit) else none
  | .owner other call => if other = pipeline then some (.owner call) else none
  | _ => none

def onMailbox (pipeline : ℕ) (r : Happened Others) :
    Option (Record (War3RenderPipeline Others) (MailboxCall Others) (MailboxOutput Others)) :=
  (callOn pipeline r).map (record War3RenderPipeline.step (r.before.pipelines pipeline))

/-! ### One mailbox -/

variable {w : SettingsWorld Others}

theorem step_pipeline (pipeline : ℕ) (call : SettingsCall Others) (w : SettingsWorld Others) :
    (step call w).2.pipelines pipeline = match callOn pipeline (record step w call) with
      | some call => ((w.pipelines pipeline).step call).2
      | none => w.pipelines pipeline := by
  cases call with
  | publish mailbox => rfl
  | getMutableSettings writer => rfl
  | write writer edit =>
    unfold step callOn record
    dsimp only
    cases hwriter : w.writers writer with
    | none => rfl
    | some other =>
      by_cases heq : other = pipeline
      · subst heq
        simp [onPipeline]
      · simp [onPipeline, heq, Function.update_of_ne (Ne.symm heq)]
  | owner other call =>
    unfold step callOn record
    dsimp only
    by_cases heq : other = pipeline
    · subst heq
      simp [onPipeline]
    · simp [onPipeline, heq, Function.update_of_ne (Ne.symm heq)]

theorem onMailbox_history (pipeline : ℕ) (calls : List (SettingsCall Others))
    (w : SettingsWorld Others) :
    (history step calls w).filterMap (onMailbox pipeline) =
      history War3RenderPipeline.step ((history step calls w).filterMap (callOn pipeline))
        (w.pipelines pipeline) := by
  induction calls generalizing w with
  | nil => rfl
  | cons call calls ih =>
    have hstep := step_pipeline pipeline call w
    have hrest := ih (step call w).2
    rw [hstep] at hrest
    rw [history, List.filterMap_cons, List.filterMap_cons, onMailbox]
    cases hcall : callOn pipeline (record step w call) with
    | none =>
      rw [hcall] at hrest
      exact hrest
    | some onPipeline =>
      rw [hcall] at hrest
      exact congrArg (List.cons _) hrest

/-! ### Writers -/

def NotOf (writer : ℕ) (call : SettingsCall Others) : Prop :=
  call ≠ .getMutableSettings writer ∧ ∀ edit, call ≠ .write writer edit

variable {writer : ℕ}

theorem step_writers {call : SettingsCall Others} (h : NotOf writer call)
    (w : SettingsWorld Others) : (step call w).2.writers writer = w.writers writer := by
  cases call with
  | publish mailbox => rfl
  | getMutableSettings other =>
    have hne : writer ≠ other := fun heq => h.1 (by rw [heq])
    exact Function.update_of_ne hne _ _
  | write other edit =>
    have hne : writer ≠ other := fun heq => h.2 edit (by rw [heq])
    unfold step
    dsimp only
    split
    · rfl
    · exact Function.update_of_ne hne _ _
  | owner pipeline call => rfl

theorem run_writers (calls : List (SettingsCall Others)) (w : SettingsWorld Others)
    (h : ∀ r ∈ history step calls w, NotOf writer r.call) :
    (run step calls w).writers writer = w.writers writer := by
  induction calls generalizing w with
  | nil => rfl
  | cons call calls ih =>
    rw [history, List.forall_mem_cons] at h
    exact (ih _ h.2).trans (step_writers h.1 w)

theorem write_other {other pipeline : ℕ} {edit} (hwriter : w.writers writer = some other)
    (hne : pipeline ≠ other) :
    (step (.write writer edit) w).2.pipelines pipeline = w.pipelines pipeline := by
  rw [step_pipeline]
  unfold callOn record
  dsimp only
  rw [hwriter, if_neg (by simpa using Ne.symm hne)]

structure SettingsLaw (past : List (Happened Others)) : Prop where
  mailboxes : ∀ pipeline,
    War3RenderPipeline.MailboxLaw (past.filterMap (onMailbox pipeline))
  /-- A step that is no call on the mailbox of a pipeline changes neither of them. -/
  alone : ∀ r ∈ past, ∀ pipeline, callOn pipeline r = none →
    (step r.call r.before).2.pipelines pipeline = r.before.pipelines pipeline
  /-- A writer writes into the mailbox that was published when it was made, and changes no other
  pipeline and no other mailbox, whatever was published since. -/
  retired : ∀ earlier r between r' later writer mailbox edit,
    past = earlier ++ r :: (between ++ r' :: later) → r.call = .getMutableSettings writer →
    r.before.activeSettingsMailbox = some mailbox → (∀ m ∈ between, NotOf writer m.call) →
    r'.call = .write writer edit →
    callOn mailbox r' = some (.write edit) ∧
      ∀ pipeline ≠ mailbox,
        (step r'.call r'.before).2.pipelines pipeline = r'.before.pipelines pipeline

/-- The law holds of every run. -/
theorem settings_law (settings : ℕ → War3RenderSettings Others)
    (calls : List (SettingsCall Others)) : SettingsLaw (history step calls (start settings)) where
  mailboxes pipeline := by
    rw [onMailbox_history]
    exact (War3RenderPipeline.init_settled (settings pipeline)).law _
  alone r hr pipeline hnone := by
    obtain ⟨before, after, hpast⟩ := List.append_of_mem hr
    obtain ⟨first, call, rest, -, -, rfl, -⟩ := history_split step hpast
    have hstep := step_pipeline pipeline call (run step first (start settings))
    rwa [hnone] at hstep
  retired earlier r between r' later writer mailbox edit hpast hr hactive hbetween hr' := by
    obtain ⟨first, call, rest, -, -, rfl, hrest⟩ := history_split step hpast
    obtain ⟨middle, call', last, -, rfl, rfl, -⟩ := history_split step hrest.symm
    obtain rfl : call = .getMutableSettings writer := hr
    obtain rfl : call' = .write writer edit := hr'
    -- The writer has what it has loaded, whatever came between.
    have hloaded : (step (.getMutableSettings writer) (run step first (start settings))).2.writers
        writer = some mailbox := (Function.update_self _ _ _).trans hactive
    have hholds := (run_writers middle _ hbetween).trans hloaded
    exact ⟨if_pos hholds, fun pipeline hne => write_other hholds hne⟩

end SettingsWorld

end War3VK.Render
