import Mathlib.Data.List.Basic

/-!
# The commands of the script interface

The table of commands that a map script can give, with the carrier, the types of the arguments and
the features of each (`src/d3d9/war3/japi/war3_japi_v1.cpp`, `kCommands`), and the commands that also
have an opcode on the typed plane (`kTypedCommands`). A float is its bit pattern and a text is its
bytes.
-/

namespace War3VK.Japi

inductive Carrier
  | preloader
  | hotkey
  | localizedString
  deriving DecidableEq, Repr

/-- `ErrorCode`. -/
inductive ErrorCode
  | none
  | payloadTooLong
  | nonAscii
  | controlCharacter
  | emptyToken
  | tooManyArguments
  | unsupportedVersion
  | missingCommand
  | unknownCommand
  | carrierMismatch
  | argumentCountMismatch
  | invalidInteger
  | integerOverflow
  | invalidBoolean
  | invalidId
  | invalidReal
  | realOutOfRange
  | backendUnavailable
  | unsupportedFeature
  | backendRejected
  | internalError
  | backendContractViolation
  | invalidArgumentType
  deriving DecidableEq, Repr

/-- `ResultKind`. -/
inductive ResultKind
  | void
  | integer
  | real
  | text
  deriving DecidableEq, Repr

/-- `WireType`. -/
inductive WireType
  | bool
  | i32
  | id
  | real
  | string
  deriving DecidableEq, Repr

/-- `CommandId`. -/
inductive CommandId
  | systemVersion
  | systemProtocolVersion
  | systemLastErrorCode
  | systemLastError
  | systemClearError
  | systemFeatureFlags
  | systemRuntimeReady
  | sunSetEnabled
  | sunSetDirection
  | sunSetColorIntensity
  | csmSetEnabled
  | csmSetLayout
  | csmSetTuning
  | pointLightCreate
  | pointLightDestroy
  | pointLightSetEnabled
  | pointLightSetPosition
  | pointLightSetColorIntensity
  | pointLightSetRadius
  | pointLightSetShadowEnabled
  | pointLightSetShadowConfig
  | pointLightIsAlive
  | modelPointLightsSetEnabled
  | modelPointLightsCount
  | modelPointLightsRegistered
  | volumetricSetEnabled
  | volumetricSetGlobalMediumEnabled
  | volumetricSetDensity
  | volumetricSetScattering
  | volumetricSetQuality
  | volumetricSetBackend
  | volumetricFogSetEnabled
  | volumetricFogSetSettings
  | localFogCreateSphere
  | localFogCreateBox
  | localFogCreateCylinder
  | localFogDestroy
  | localFogSetEnabled
  | localFogSetPosition
  | localFogSetRotation
  | localFogSetDensity
  | localFogSetEdgeFeather
  | localFogSetSphereRadius
  | localFogSetBoxSize
  | localFogSetCylinderSize
  | localFogIsAlive
  | outlineSetEnabled
  | outlineSetColor
  | outlineSetParameters
  | bloomSetEnabled
  | bloomSetParameters
  | bloomSetRadius
  | postfxSetEnabled
  | postfxSetExposureGamma
  | postfxSetColorGrade
  | aaSetMode
  | aaSetSharpness
  | dayNightSetEnabled
  | dayNightSetTime
  | dayNightSetSpeed
  | lightingClockSetMode
  | lightingClockHoldTime
  | lightingClockSetDayDuration
  | lightingCycleSetCelestialMotionEnabled
  | lightingCycleSetTimeColorGradingEnabled
  | lightingCycleSetColorTemperatureProfile
  | lightingCycleResetColorTemperatureProfile
  | mathProgramCompile
  | mathProgramDestroy
  | mathProgramIsAlive
  | mathProgramLastError
  | mathEvaluateReal
  | mathEvaluateInteger
  | curveCreate
  | curveDestroy
  | curveSetReal
  | curveSetCoordinateMode
  | curveSetEndpointLocks
  | curveEvaluateComponent
  | curveDerivativeComponent
  | curveArcLength
  | curvePointCreate
  | curvePointAppend4
  | curvePointFinalize
  | lightningCreate
  | lightningDestroy
  | lightningSetEnabled
  | lightningSetEndpoints
  | lightningSetColor
  | lightningSetWidth
  | lightningIsAlive
  | lightningTemplateCreate
  | lightningTemplateSetBasic
  | lightningTemplateSetAdvanced
  | lightningTemplateSetOptional
  | lightningTemplateFinalize
  | lightningCreateFromTemplate
  | lightningCreatePolylineFromTemplate
  | lightningTemplateSetFormulaCurve
  | lightningSetFormulaCurve
  | lightningSetPolylineCurve
  | managedObjectCount
  | managedObjectIsAlive
  | managedObjectType
  | timeVisualSeconds
  | timeFrameIndex
  | statsFramesPerSecond
  | statsFrameTimeMilliseconds
  | statsDrawCallCount
  deriving DecidableEq, Repr

/-- `kFeatureSun`. -/
def kFeatureSun : UInt32 := 0x00000001

/-- `kFeatureCsm`. -/
def kFeatureCsm : UInt32 := 0x00000002

/-- `kFeaturePointLight`. -/
def kFeaturePointLight : UInt32 := 0x00000004

/-- `kFeatureVolumetric`. -/
def kFeatureVolumetric : UInt32 := 0x00000008

/-- `kFeatureDayNight`. -/
def kFeatureDayNight : UInt32 := 0x00000100

/-- `kFeatureLightning`. -/
def kFeatureLightning : UInt32 := 0x00000200

/-- `kFeatureManagedObject`. -/
def kFeatureManagedObject : UInt32 := 0x00000400

/-- `kFeatureTime`. -/
def kFeatureTime : UInt32 := 0x00000800

/-- `kFeatureStats`. -/
def kFeatureStats : UInt32 := 0x00001000

/-- `kFeatureMathCurve`. -/
def kFeatureMathCurve : UInt32 := 0x00002000

/-- `kFeaturePolylineCurve`. -/
def kFeaturePolylineCurve : UInt32 := 0x00004000

/-- `kFeatureLocalFog`. -/
def kFeatureLocalFog : UInt32 := 0x00008000

/-- `kImplementedFeatureMask`. -/
def kImplementedFeatureMask : UInt32 :=
  kFeatureSun ||| kFeatureCsm ||| kFeaturePointLight ||| kFeatureVolumetric |||
    kFeatureDayNight ||| kFeatureLightning ||| kFeatureManagedObject ||| kFeatureTime |||
    kFeatureStats ||| kFeatureMathCurve ||| kFeaturePolylineCurve ||| kFeatureLocalFog

/-- `CommandSpec`. -/
structure CommandSpec where
  id : CommandId
  name : String
  carrier : Carrier
  argumentTypes : String
  featureMask : UInt32
  backendRequired : Bool
  deriving DecidableEq, Repr

/-- The letters of the declared types, in the order of the arguments. -/
def CommandSpec.types (spec : CommandSpec) : List Char := spec.argumentTypes.toList

/-- `kCommands`. -/
def kCommands : List CommandSpec :=
  [⟨.systemVersion, "system.version", .localizedString, "", 0, false⟩,
   ⟨.systemProtocolVersion, "system.protocolVersion", .hotkey, "", 0, false⟩,
   ⟨.systemLastErrorCode, "system.lastErrorCode", .hotkey, "", 0, false⟩,
   ⟨.systemLastError, "system.lastError", .localizedString, "", 0, false⟩,
   ⟨.systemClearError, "system.clearError", .preloader, "", 0, false⟩,
   ⟨.systemFeatureFlags, "system.featureFlags", .hotkey, "", 0, false⟩,
   ⟨.systemRuntimeReady, "system.runtimeReady", .hotkey, "", 0, false⟩,
   ⟨.sunSetEnabled, "sun.setEnabled", .preloader, "b", kFeatureSun, true⟩,
   ⟨.sunSetDirection, "sun.setDirection", .preloader, "rrr", kFeatureSun, true⟩,
   ⟨.sunSetColorIntensity, "sun.setColorIntensity", .preloader, "rrrr", kFeatureSun, true⟩,
   ⟨.csmSetEnabled, "csm.setEnabled", .preloader, "b", kFeatureCsm, true⟩,
   ⟨.csmSetLayout, "csm.setLayout", .preloader, "ir", kFeatureCsm, true⟩,
   ⟨.csmSetTuning, "csm.setTuning", .preloader, "rr", kFeatureCsm, true⟩,
   ⟨.pointLightCreate, "pointLight.create", .hotkey, "rrrrrrrr", kFeaturePointLight, true⟩,
   ⟨.pointLightDestroy, "pointLight.destroy", .preloader, "d", kFeaturePointLight, true⟩,
   ⟨.pointLightSetEnabled, "pointLight.setEnabled", .preloader, "db", kFeaturePointLight, true⟩,
   ⟨.pointLightSetPosition, "pointLight.setPosition", .preloader, "drrr", kFeaturePointLight, true⟩,
   ⟨.pointLightSetColorIntensity, "pointLight.setColorIntensity", .preloader, "drrrr",
      kFeaturePointLight, true⟩,
   ⟨.pointLightSetRadius, "pointLight.setRadius", .preloader, "dr", kFeaturePointLight, true⟩,
   ⟨.pointLightSetShadowEnabled, "pointLight.setShadowEnabled", .preloader, "db",
      kFeaturePointLight, true⟩,
   ⟨.pointLightSetShadowConfig, "pointLight.setShadowConfig", .preloader, "dir",
      kFeaturePointLight, true⟩,
   ⟨.pointLightIsAlive, "pointLight.isAlive", .hotkey, "d", kFeaturePointLight, true⟩,
   ⟨.modelPointLightsSetEnabled, "modelPointLights.setEnabled", .preloader, "sbb",
      kFeaturePointLight, false⟩,
   ⟨.modelPointLightsCount, "modelPointLights.count", .hotkey, "s", kFeaturePointLight, false⟩,
   ⟨.modelPointLightsRegistered, "modelPointLights.registered", .hotkey, "s",
      kFeaturePointLight, false⟩,
   ⟨.volumetricSetEnabled, "volumetric.setEnabled", .preloader, "b", kFeatureVolumetric, true⟩,
   ⟨.volumetricSetGlobalMediumEnabled, "volumetric.setGlobalMediumEnabled", .preloader, "b",
      kFeatureVolumetric, true⟩,
   ⟨.volumetricSetDensity, "volumetric.setDensity", .preloader, "r", kFeatureVolumetric, true⟩,
   ⟨.volumetricSetScattering, "volumetric.setScattering", .preloader, "rr",
      kFeatureVolumetric, true⟩,
   ⟨.volumetricSetQuality, "volumetric.setQuality", .preloader, "ir", kFeatureVolumetric, true⟩,
   ⟨.volumetricSetBackend, "volumetric.setBackend", .preloader, "i", kFeatureVolumetric, true⟩,
   ⟨.volumetricFogSetEnabled, "volumetricFog.setEnabled", .preloader, "b",
      kFeatureVolumetric, true⟩,
   ⟨.volumetricFogSetSettings, "volumetricFog.setSettings", .preloader, "rrr",
      kFeatureVolumetric, true⟩,
   ⟨.localFogCreateSphere, "localFog.createSphere", .hotkey, "rrrrrr", kFeatureLocalFog, true⟩,
   ⟨.localFogCreateBox, "localFog.createBox", .hotkey, "rrrrrrrr", kFeatureLocalFog, true⟩,
   ⟨.localFogCreateCylinder, "localFog.createCylinder", .hotkey, "rrrrrrr", kFeatureLocalFog, true⟩,
   ⟨.localFogDestroy, "localFog.destroy", .preloader, "d", kFeatureLocalFog, true⟩,
   ⟨.localFogSetEnabled, "localFog.setEnabled", .preloader, "db", kFeatureLocalFog, true⟩,
   ⟨.localFogSetPosition, "localFog.setPosition", .preloader, "drrr", kFeatureLocalFog, true⟩,
   ⟨.localFogSetRotation, "localFog.setRotation", .preloader, "drrr", kFeatureLocalFog, true⟩,
   ⟨.localFogSetDensity, "localFog.setDensity", .preloader, "dr", kFeatureLocalFog, true⟩,
   ⟨.localFogSetEdgeFeather, "localFog.setEdgeFeather", .preloader, "dr", kFeatureLocalFog, true⟩,
   ⟨.localFogSetSphereRadius, "localFog.setSphereRadius", .preloader, "dr", kFeatureLocalFog, true⟩,
   ⟨.localFogSetBoxSize, "localFog.setBoxSize", .preloader, "drrr", kFeatureLocalFog, true⟩,
   ⟨.localFogSetCylinderSize, "localFog.setCylinderSize", .preloader, "drr",
      kFeatureLocalFog, true⟩,
   ⟨.localFogIsAlive, "localFog.isAlive", .hotkey, "d", kFeatureLocalFog, true⟩,
   ⟨.outlineSetEnabled, "outline.setEnabled", .preloader, "b", 0x00000010, true⟩,
   ⟨.outlineSetColor, "outline.setColor", .preloader, "rrrr", 0x00000010, true⟩,
   ⟨.outlineSetParameters, "outline.setParameters", .preloader, "rr", 0x00000010, true⟩,
   ⟨.bloomSetEnabled, "bloom.setEnabled", .preloader, "b", 0x00000020, true⟩,
   ⟨.bloomSetParameters, "bloom.setParameters", .preloader, "rrr", 0x00000020, true⟩,
   ⟨.bloomSetRadius, "bloom.setRadius", .preloader, "r", 0x00000020, true⟩,
   ⟨.postfxSetEnabled, "postfx.setEnabled", .preloader, "b", 0x00000040, true⟩,
   ⟨.postfxSetExposureGamma, "postfx.setExposureGamma", .preloader, "rr", 0x00000040, true⟩,
   ⟨.postfxSetColorGrade, "postfx.setColorGrade", .preloader, "rr", 0x00000040, true⟩,
   ⟨.aaSetMode, "aa.setMode", .preloader, "ii", 0x00000080, true⟩,
   ⟨.aaSetSharpness, "aa.setSharpness", .preloader, "r", 0x00000080, true⟩,
   ⟨.dayNightSetEnabled, "dayNight.setEnabled", .preloader, "b", kFeatureDayNight, true⟩,
   ⟨.dayNightSetTime, "dayNight.setTime", .preloader, "r", kFeatureDayNight, true⟩,
   ⟨.dayNightSetSpeed, "dayNight.setSpeed", .preloader, "r", kFeatureDayNight, true⟩,
   ⟨.lightingClockSetMode, "lightingClock.setMode", .preloader, "i", kFeatureDayNight, true⟩,
   ⟨.lightingClockHoldTime, "lightingClock.holdTime", .preloader, "r", kFeatureDayNight, true⟩,
   ⟨.lightingClockSetDayDuration, "lightingClock.setDayDuration", .preloader, "r",
      kFeatureDayNight, true⟩,
   ⟨.lightingCycleSetCelestialMotionEnabled, "lightingCycle.setCelestialMotionEnabled",
      .preloader, "b", kFeatureDayNight, true⟩,
   ⟨.lightingCycleSetTimeColorGradingEnabled, "lightingCycle.setTimeColorGradingEnabled",
      .preloader, "b", kFeatureDayNight, true⟩,
   ⟨.lightingCycleSetColorTemperatureProfile, "lightingCycle.setColorTemperatureProfile",
      .preloader, "rrrr", kFeatureDayNight, true⟩,
   ⟨.lightingCycleResetColorTemperatureProfile, "lightingCycle.resetColorTemperatureProfile",
      .preloader, "", kFeatureDayNight, true⟩,
   ⟨.mathProgramCompile, "math.program.compile", .hotkey, "s", kFeatureMathCurve, false⟩,
   ⟨.mathProgramDestroy, "math.program.destroy", .preloader, "d", kFeatureMathCurve, false⟩,
   ⟨.mathProgramIsAlive, "math.program.isAlive", .hotkey, "d", kFeatureMathCurve, false⟩,
   ⟨.mathProgramLastError, "math.program.lastError", .localizedString, "",
      kFeatureMathCurve, false⟩,
   ⟨.mathEvaluateReal, "math.evaluateReal", .localizedString, "drri", kFeatureMathCurve, false⟩,
   ⟨.mathEvaluateInteger, "math.evaluateInteger", .hotkey, "drrii", kFeatureMathCurve, false⟩,
   ⟨.curveCreate, "curve.create", .hotkey, "d", kFeatureMathCurve, false⟩,
   ⟨.curveDestroy, "curve.destroy", .preloader, "d", kFeatureMathCurve, false⟩,
   ⟨.curveSetReal, "curve.setReal", .preloader, "dsr", kFeatureMathCurve, false⟩,
   ⟨.curveSetCoordinateMode, "curve.setCoordinateMode", .preloader, "di", kFeatureMathCurve, false⟩,
   ⟨.curveSetEndpointLocks, "curve.setEndpointLocks", .preloader, "dbb", kFeatureMathCurve, false⟩,
   ⟨.curveEvaluateComponent, "curve.evaluateComponent", .localizedString, "dirrrrrrrri",
      kFeatureMathCurve, false⟩,
   ⟨.curveDerivativeComponent, "curve.derivativeComponent", .localizedString, "dirrrrrrrri",
      kFeatureMathCurve, false⟩,
   ⟨.curveArcLength, "curve.arcLength", .localizedString, "drrrrrrrii", kFeatureMathCurve, false⟩,
   ⟨.curvePointCreate, "curve.points.create", .hotkey, "i",
      kFeatureMathCurve ||| kFeaturePolylineCurve, false⟩,
   ⟨.curvePointAppend4, "curve.points.append4", .preloader, "dirrrrrrrrrrrr",
      kFeatureMathCurve ||| kFeaturePolylineCurve, false⟩,
   ⟨.curvePointFinalize, "curve.points.finalize", .preloader, "d",
      kFeatureMathCurve ||| kFeaturePolylineCurve, false⟩,
   ⟨.lightningCreate, "lightning.create", .hotkey, "rrrrrrrrrrr", kFeatureLightning, false⟩,
   ⟨.lightningDestroy, "lightning.destroy", .preloader, "d", kFeatureLightning, false⟩,
   ⟨.lightningSetEnabled, "lightning.setEnabled", .preloader, "db", kFeatureLightning, false⟩,
   ⟨.lightningSetEndpoints, "lightning.setEndpoints", .preloader, "drrrrrr",
      kFeatureLightning, false⟩,
   ⟨.lightningSetColor, "lightning.setColor", .preloader, "drrrr", kFeatureLightning, false⟩,
   ⟨.lightningSetWidth, "lightning.setWidth", .preloader, "dr", kFeatureLightning, false⟩,
   ⟨.lightningIsAlive, "lightning.isAlive", .hotkey, "d", kFeatureLightning, false⟩,
   ⟨.lightningTemplateCreate, "lightning.template.create", .hotkey, "s", kFeatureLightning, false⟩,
   ⟨.lightningTemplateSetBasic, "lightning.template.setBasic", .preloader, "dsrrrrrrrrrrrri",
      kFeatureLightning, false⟩,
   ⟨.lightningTemplateSetAdvanced, "lightning.template.setAdvanced", .preloader, "driirrrriirr",
      kFeatureLightning, false⟩,
   ⟨.lightningTemplateSetOptional, "lightning.template.setOptional", .preloader, "drrrrrrrrrr",
      kFeatureLightning, false⟩,
   ⟨.lightningTemplateFinalize, "lightning.template.finalize", .preloader, "d",
      kFeatureLightning, false⟩,
   ⟨.lightningCreateFromTemplate, "lightning.createFromTemplate", .hotkey, "drrrrrri",
      kFeatureLightning, false⟩,
   ⟨.lightningCreatePolylineFromTemplate, "lightning.createPolylineFromTemplate", .hotkey, "ddi",
      kFeatureLightning ||| kFeaturePolylineCurve, false⟩,
   ⟨.lightningTemplateSetFormulaCurve, "lightning.template.setFormulaCurve", .preloader, "dd",
      kFeatureLightning ||| kFeatureMathCurve, false⟩,
   ⟨.lightningSetFormulaCurve, "lightning.setFormulaCurve", .preloader, "dd",
      kFeatureLightning ||| kFeatureMathCurve, false⟩,
   ⟨.lightningSetPolylineCurve, "lightning.setPolylineCurve", .preloader, "dd",
      kFeatureLightning ||| kFeaturePolylineCurve, false⟩,
   ⟨.managedObjectCount, "managedObject.count", .hotkey, "", kFeatureManagedObject, true⟩,
   ⟨.managedObjectIsAlive, "managedObject.isAlive", .hotkey, "d", kFeatureManagedObject, true⟩,
   ⟨.managedObjectType, "managedObject.type", .hotkey, "d", kFeatureManagedObject, true⟩,
   ⟨.timeVisualSeconds, "time.visualSeconds", .localizedString, "", kFeatureTime, true⟩,
   ⟨.timeFrameIndex, "time.frameIndex", .hotkey, "", kFeatureTime, true⟩,
   ⟨.statsFramesPerSecond, "stats.framesPerSecond", .localizedString, "", kFeatureStats, true⟩,
   ⟨.statsFrameTimeMilliseconds, "stats.frameTimeMilliseconds", .localizedString, "",
      kFeatureStats, true⟩,
   ⟨.statsDrawCallCount, "stats.drawCallCount", .hotkey, "", kFeatureStats, true⟩]

/-- `TypedCommandBinding`. -/
structure TypedCommandBinding where
  opcode : Int32
  command : CommandId
  result : ResultKind
  deriving DecidableEq, Repr

/-- `kTypedCommands`, with the values of `TypedOpcode`. -/
def kTypedCommands : List TypedCommandBinding :=
  [⟨101, .pointLightSetPosition, .void⟩,
   ⟨102, .pointLightSetColorIntensity, .void⟩,
   ⟨103, .pointLightSetRadius, .void⟩,
   ⟨201, .mathEvaluateReal, .real⟩,
   ⟨202, .mathEvaluateInteger, .integer⟩,
   ⟨203, .curveEvaluateComponent, .real⟩,
   ⟨204, .curveDerivativeComponent, .real⟩,
   ⟨205, .curveArcLength, .real⟩,
   ⟨206, .curvePointAppend4, .void⟩,
   ⟨301, .lightningSetEndpoints, .void⟩,
   ⟨302, .lightningSetColor, .void⟩,
   ⟨303, .lightningSetWidth, .void⟩,
   ⟨401, .timeVisualSeconds, .real⟩,
   ⟨402, .statsFramesPerSecond, .real⟩,
   ⟨403, .statsFrameTimeMilliseconds, .real⟩]

/-- `FindCommand` for an identifier. -/
def findCommand (id : CommandId) : Option CommandSpec := kCommands.find? fun spec => spec.id = id

def bytes (text : String) : List UInt8 := text.toUTF8.data.toList

/-- `FindCommand` for a name. -/
def findCommandNamed (name : List UInt8) : Option CommandSpec :=
  kCommands.find? fun spec => name = bytes spec.name

/-- `FindTypedCommand`. -/
def findTypedCommand (opcode : Int32) : Option TypedCommandBinding :=
  kTypedCommands.find? fun binding => binding.opcode = opcode

end War3VK.Japi
