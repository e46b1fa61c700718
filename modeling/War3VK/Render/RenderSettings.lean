import Mathlib.Data.Nat.Notation
import Mathlib.Tactic.SplitIfs

/-!
# The render settings and what a frame derives of them

`War3RenderSettings`, with the fields that the start of a frame reads or writes; all other fields are
one, of any type. At the start of a frame the pipeline derives the time of day, the automatic ambient
and the automatic exposure. It writes these fields and no other (`onFrameStart_authored`).
-/

namespace War3VK.Render

/-- `Vector4`. -/
structure Vector4 where
  x : Float32
  y : Float32
  z : Float32
  w : Float32

/-- `War3LightingClockMode`. -/
inductive War3LightingClockMode
  | gameTime
  | held
  | independent
  deriving DecidableEq

/-- `War3DayNightSettings`. -/
structure War3DayNightSettings where
  enabled : Bool
  celestialMotionEnabled : Bool
  timeColorGradingEnabled : Bool
  clockMode : War3LightingClockMode
  renderTimeHours : Float32
  independentDayLengthSeconds : Float32
  clockRevision : UInt64
  affectAmbient : Bool
  affectExposure : Bool
  dayAmbient : Vector4
  nightAmbient : Vector4
  dayExposure : Float32
  nightExposure : Float32
  dayTransitionStartDeg : Float32
  dayTransitionEndDeg : Float32

structure Ambient where
  overrideEnabled : Bool
  autoOverride : Bool
  color : Vector4

/-- `War3RenderSettings`. -/
structure War3RenderSettings (Others : Type) where
  /-- `sun.direction`. -/
  sunDirection : Vector4
  /-- `sun.color`. -/
  sunColor : Vector4
  exposure : Float32
  dayNight : War3DayNightSettings
  ambient : Ambient
  others : Others

variable {Others : Type}

/-- The settings without what the pipeline resolves: the time of day, the automatic ambient and the
exposure. -/
def War3RenderSettings.authored (s : War3RenderSettings Others) : War3RenderSettings Others :=
  { s with
    exposure := 0
    dayNight := { s.dayNight with renderTimeHours := 0, affectExposure := false }
    ambient := ⟨false, false, ⟨0, 0, 0, 0⟩⟩ }

/-! ## Arithmetic -/

/-- `std::min`. -/
def stdMin (a b : Float32) : Float32 := if b < a then b else a

/-- `std::max`. -/
def stdMax (a b : Float32) : Float32 := if a < b then b else a

/-- `std::clamp`. -/
def clamp (value low high : Float32) : Float32 :=
  if value < low then low else if high < value then high else value

/-- `Wrap01`. -/
def wrap01 (value : Float32) : Float32 :=
  let value := value - value.floor
  if value < 0 then value + 1 else value

/-- `Luminance`. -/
def luminance (color : Vector4) : Float32 :=
  color.x * 0.2126 + color.y * 0.7152 + color.z * 0.0722

structure ClockAnswers where
  /-- `War3RenderState::GetGameTime`. -/
  gameTime : Float32
  /-- The seconds since the process has first asked for a time without the game's. -/
  fallbackSeconds : Float32

/-- `ResolvePipelineDayNightTime01`. -/
def resolvePipelineDayNightTime01 (answers : ClockAnswers) (dayNight : War3DayNightSettings) :
    Float32 :=
  if dayNight.clockMode ≠ .gameTime then wrap01 (dayNight.renderTimeHours / 24)
  else if 0 ≤ answers.gameTime && answers.gameTime ≤ 24 then wrap01 (answers.gameTime / 24)
  else wrap01 (answers.fallbackSeconds / 480 + 0.22)

/-- `ComputeDayNightFactor`. -/
def computeDayNightFactor (time01 : Float32) (dayNight : War3DayNightSettings) : Option Float32 :=
  if time01 < 0 || 1 < time01 then none
  else
    let pi : Float32 := 3.14159265
    let sunAnglePhase := (time01 - 0.25) * 2 * pi
    let realAltitudeRad := sunAnglePhase.sin * (pi / 2)
    let altDeg := realAltitudeRad * (180 / pi)
    let startDeg := dayNight.dayTransitionStartDeg
    let endDeg :=
      if dayNight.dayTransitionEndDeg ≤ startDeg then startDeg + 0.01
      else dayNight.dayTransitionEndDeg
    let t := (altDeg - startDeg) / (endDeg - startDeg)
    let t := stdMax 0 (stdMin 1 t)
    some (t * t * (3 - 2 * t))

def Vector4.mix (a b : Vector4) (t : Float32) : Vector4 where
  x := a.x * (1 - t) + b.x * t
  y := a.y * (1 - t) + b.y * t
  z := a.z * (1 - t) + b.z * t
  w := a.w * (1 - t) + b.w * t

def automaticAmbient (dayNight : War3DayNightSettings) (t : Float32) : Vector4 :=
  let ambient := dayNight.nightAmbient.mix dayNight.dayAmbient t
  let minLum := luminance dayNight.dayAmbient * 0.85
  let curLum := luminance ambient
  let scale := minLum / curLum
  if 1e-4 < curLum && curLum < minLum then
    ⟨ambient.x * scale, ambient.y * scale, ambient.z * scale, 1⟩
  else { ambient with w := 1 }

def automaticExposure (dayNight : War3DayNightSettings) (t : Float32) : Float32 :=
  let autoExposure :=
    dayNight.nightExposure + (dayNight.dayExposure - dayNight.nightExposure) * t
  let minExposure := dayNight.dayExposure * 0.85
  if autoExposure < minExposure then minExposure else autoExposure

/-! ## The start of a frame -/

/-- What the pipeline has of its own to derive with: its settings and its clock. -/
structure FrameState (Others : Type) where
  settings : War3RenderSettings Others
  lightingClockRevision : UInt64
  lightingClockTime01 : Float32
  hasAutoExposure : Bool
  lastAutoExposure : Float32

structure FrameAnswers where
  elapsed : Float32
  clock : ClockAnswers
  colors : ClockAnswers

namespace FrameState

def adoptClock (f : FrameState Others) : FrameState Others :=
  if f.lightingClockRevision ≠ f.settings.dayNight.clockRevision then
    { f with
      lightingClockRevision := f.settings.dayNight.clockRevision
      lightingClockTime01 := wrap01 (f.settings.dayNight.renderTimeHours / 24) }
  else f

/-- An update of the clock was made this long ago, as an independent clock counts it. -/
def clockStep (elapsed : Float32) : Float32 :=
  stdMin (if !elapsed.isFinite || elapsed < 0 then 0 else elapsed) 0.25

def advancedTime01 (answers : FrameAnswers) (adopted : Bool) (f : FrameState Others) : Float32 :=
  match f.settings.dayNight.clockMode with
  | .gameTime => resolvePipelineDayNightTime01 answers.clock f.settings.dayNight
  | .independent =>
    -- A clock that was just set was updated now.
    let dt := clockStep (if adopted then 0 else answers.elapsed)
    let dayLength := clamp f.settings.dayNight.independentDayLengthSeconds 1 86400
    wrap01 (f.lightingClockTime01 + dt / dayLength)
  | .held => f.lightingClockTime01

def advanceClock (answers : FrameAnswers) (f : FrameState Others) : FrameState Others :=
  let adopted : Bool := f.lightingClockRevision ≠ f.settings.dayNight.clockRevision
  let f := f.adoptClock
  let time := f.advancedTime01 answers adopted
  { f with
    lightingClockTime01 := time
    settings := { f.settings with
      dayNight := { f.settings.dayNight with renderTimeHours := time * 24 } } }

def resolveAmbient (t : Float32) (f : FrameState Others) : FrameState Others :=
  let s := f.settings
  if s.dayNight.affectAmbient then
    if !s.ambient.overrideEnabled || s.ambient.autoOverride then
      { f with settings := { s with ambient := ⟨true, true, automaticAmbient s.dayNight t⟩ } }
    else f
  else if s.ambient.autoOverride then
    { f with settings := { s with
        ambient := { s.ambient with overrideEnabled := false, autoOverride := false } } }
  else f

def resolveExposure (authoredExposureChanged : Bool) (t : Float32) (f : FrameState Others) :
    FrameState Others :=
  let s := f.settings
  if s.dayNight.affectExposure then
    if f.hasAutoExposure && authoredExposureChanged then
      { f with
        settings := { s with dayNight := { s.dayNight with affectExposure := false } }
        hasAutoExposure := false }
    else
      { f with
        settings := { s with exposure := automaticExposure s.dayNight t }
        lastAutoExposure := automaticExposure s.dayNight t
        hasAutoExposure := true }
  else { f with hasAutoExposure := false }

def resolveColors (authoredExposureChanged : Bool) (answers : ClockAnswers) (f : FrameState Others) :
    FrameState Others :=
  let s := f.settings
  if s.dayNight.enabled && s.dayNight.timeColorGradingEnabled then
    match computeDayNightFactor (resolvePipelineDayNightTime01 answers s.dayNight) s.dayNight with
    | none => f
    | some t => (f.resolveAmbient t).resolveExposure authoredExposureChanged t
  else if s.ambient.autoOverride then
    { f with
      settings := { s with
        ambient := { s.ambient with overrideEnabled := false, autoOverride := false } }
      hasAutoExposure := false }
  else f

/-- What `OnFrameStart` derives between its two regions under the mutex. -/
def onFrameStart (authoredExposureChanged : Bool) (answers : FrameAnswers) (f : FrameState Others) :
    FrameState Others :=
  (f.advanceClock answers).resolveColors authoredExposureChanged answers.colors

/-! ## What is derived -/

theorem adoptClock_settings (f : FrameState Others) : f.adoptClock.settings = f.settings := by
  unfold adoptClock
  split <;> rfl

theorem advanceClock_authored (answers : FrameAnswers) (f : FrameState Others) :
    (f.advanceClock answers).settings.authored = f.settings.authored := by
  unfold advanceClock
  dsimp only
  rw [adoptClock_settings]
  rfl

theorem resolveAmbient_authored (t : Float32) (f : FrameState Others) :
    (f.resolveAmbient t).settings.authored = f.settings.authored := by
  unfold resolveAmbient
  dsimp only
  split_ifs <;> rfl

theorem resolveExposure_authored (authoredExposureChanged : Bool) (t : Float32)
    (f : FrameState Others) :
    (f.resolveExposure authoredExposureChanged t).settings.authored = f.settings.authored := by
  unfold resolveExposure
  dsimp only
  split_ifs <;> rfl

theorem resolveColors_authored (authoredExposureChanged : Bool) (answers : ClockAnswers)
    (f : FrameState Others) :
    (f.resolveColors authoredExposureChanged answers).settings.authored = f.settings.authored := by
  unfold resolveColors
  dsimp only
  split
  · split
    · rfl
    · rename_i t _
      rw [resolveExposure_authored, resolveAmbient_authored]
  · split <;> rfl

theorem onFrameStart_authored (authoredExposureChanged : Bool) (answers : FrameAnswers)
    (f : FrameState Others) :
    (f.onFrameStart authoredExposureChanged answers).settings.authored = f.settings.authored := by
  rw [onFrameStart, resolveColors_authored, advanceClock_authored]

end FrameState

end War3VK.Render
