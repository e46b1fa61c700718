import War3VK.Model.RegistryRecords

/-!
# The gate before semantic packets

Which packets the semantic shadow path submits
(`src/src/d3d9/war3/semantic/war3_device_semantic_predicates.cpp`). The gate itself asks whether a packet
is a path blocker and then for evidence of a unit, a static caster or a rigid one with a visible record;
a fast form of it leaves checks out when only units are wanted, and a third form scores a frame before
it is chosen. What the registries, the caches and the memory of the game answer is a `World`.
-/

namespace War3VK.Shadow.SubmitGate

open Model

/-! ## Packets -/

/-- `ShadowDrawPath`. -/
inductive DrawPath
  | rigid
  | skinned
deriving DecidableEq, Repr

/-- `VisibleRenderableQueueKind`. -/
inductive QueueKind
  | mainQueue
  | transparent
deriving DecidableEq, Repr

/-- `ShadowAlphaMode`. -/
inductive AlphaMode
  | opaqueMode
  | cutout
  | alphaBlend
deriving DecidableEq, Repr

/-- `kInvalidShadowContractGeosetIndex`. -/
def invalidGeosetIndex : UInt32 := 0xFFFFFFFF

/-- `ShadowRenderableRecord`, what the predicates read of it. -/
structure Renderable where
  worldObjectEntry : Ptr := 0
  sceneNode : Ptr := 0
  unitPtr : Ptr := 0
  renderablePart : Ptr := 0
  meshData : Ptr := 0
  runtimeModelPtr : Ptr := 0
  modelResourcePtr : Ptr := 0
  runtimeGeosetPtr : Ptr := 0
  runtimeGeosetDataPtr : Ptr := 0
  modelKey : UInt64 := 0
  jHandle : UInt32 := 0
  rawcode : UInt32 := 0
  unitFlags5C : UInt32 := 0
  layerIndex : UInt32 := 0
  geosetIndex : UInt32 := invalidGeosetIndex
  objectKind : ObjectKind := .unknown
  queueKind : QueueKind := .mainQueue
  pathBlocker : Bool := false
  groupIdx : ℤ := -1
  frameSerial : UInt64 := 0

/-- `ShadowPacketResource`, what the predicates read of it. -/
structure Resource where
  modelResourcePtr : Ptr := 0
  modelKey : UInt64 := 0
  geosetIndex : UInt32 := invalidGeosetIndex
  vertexCount : UInt32 := 0
  dynamicPositionStream : Ptr := 0
  dynamicPositionStride : UInt32 := 0

/-- `ShadowMaterialSignature`, what the predicates read of it. -/
structure Material where
  signatureHash : UInt64 := 0
  alphaMode : AlphaMode := .opaqueMode
  blendOrDrawMode : UInt32 := 0
  /-- A number of the material's own, equal to `0` for the main queue. -/
  queueKind : UInt32 := 0
  layerContractResolved : Bool := false

/-- `ShadowDrawPacket`, what the predicates read of it. -/
structure Packet where
  renderable : Renderable := {}
  resource : Resource := {}
  material : Material := {}
  hasWorldTransform : Bool := false
  path : DrawPath := .rigid
  usesDynamicMeshPositions : Bool := false

/-- `VisibleRenderableRecord`, what the predicates read of it. -/
structure VisibleRecord where
  queueKind : QueueKind
  groupIdx : ℤ
  unitPtr : Ptr
  worldObjectEntry : Ptr
  jHandle : UInt32
  handleId : UInt32
  sceneNode : Ptr
  meshData : Ptr

/-- The settings, the registries, the caches and the memory during a call. -/
structure World where
  /-- `kPathBlockerHideEnabled`. -/
  pathBlockerHideEnabled : Bool := true
  /-- `War3SemanticValidateUnitCoreRuntime`. -/
  validateUnitCore : Bool := true
  /-- `War3SemanticRejectAlphaBlendCasterRuntime`. -/
  rejectAlphaBlendCaster : Bool := true
  /-- `War3SemanticRejectUnsafeAlphaCasterRuntime`. -/
  rejectUnsafeAlphaCaster : Bool := false
  /-- `IsSemanticSceneSubmissionRuntimeEnabled`. -/
  sceneSubmission : Bool := true
  /-- The word of a widget that the probe reads, at an address: `SafeCopy` or `SafeReadU32Fast`. -/
  probeWord : Ptr → Option UInt32 := fun _ => none
  memory : GameMemory
  /-- The entry of `War3SemanticUnitValidationCacheSlot`, when it is for this record. -/
  validatedUnit : Renderable → Option Bool := fun _ => none
  renderBySceneNode : Ptr → Option RenderObjectInfo := fun _ => none
  renderByEntry : Ptr → Option RenderObjectInfo := fun _ => none
  renderByHandle : UInt32 → Option RenderObjectInfo := fun _ => none
  shadowBySceneNode : Ptr → Option ObjectKind := fun _ => none
  shadowByWorldObjectEntry : Ptr → Option ObjectKind := fun _ => none
  shadowByHandle : UInt32 → Option ObjectKind := fun _ => none
  shadowByRuntimeModel : Ptr → Option ObjectKind := fun _ => none
  /-- `queryByRenderablePartAndLayer`. -/
  visible : Ptr → UInt32 → Option VisibleRecord := fun _ _ => none
  /-- `QueryWidgetRawcodeByHandle`. -/
  widgetRawcodeByHandle : UInt32 → UInt32 := fun _ => 0
  /-- `QueryWidgetRawcodeByPtr`. -/
  widgetRawcodeByPtr : Ptr → UInt32 := fun _ => 0

/-! ## Rawcodes -/

/-- `War3SemanticByteSwapU32`. -/
def byteSwap (v : UInt32) : UInt32 :=
  ((v &&& 0x000000FF) <<< 24) ||| ((v &&& 0x0000FF00) <<< 8) ||| ((v &&& 0x00FF0000) >>> 8) |||
    ((v &&& 0xFF000000) >>> 24)

/-- The first two characters of a rawcode, from its high byte on. -/
def c0 (rawcode : UInt32) : UInt32 := (rawcode >>> 24) &&& 0xFF

def c1 (rawcode : UInt32) : UInt32 := (rawcode >>> 16) &&& 0xFF

/-- `War3SemanticFourCcHasPrefix`. -/
def fourCcHasPrefix (rawcode a b : UInt32) : Bool :=
  (c0 rawcode = a && c1 rawcode = b) || (c0 (byteSwap rawcode) = a && c1 (byteSwap rawcode) = b)

/-- `War3SemanticFourCcEqualEitherOrder`. -/
def fourCcEqualEitherOrder (a b : UInt32) : Bool :=
  a = b || (a ≠ 0 && b ≠ 0 && byteSwap a = b)

/-- `War3SemanticRawcodeLooksStaticWorldCaster`: a rawcode of `LT` or of `YT`. -/
def rawcodeLooksStaticWorldCaster (rawcode : UInt32) : Bool :=
  rawcode ≠ 0 && (fourCcHasPrefix rawcode 0x4C 0x54 || fourCcHasPrefix rawcode 0x59 0x54)

/-- `kPathBlockerFourCCs`. -/
def pathBlockerFourCCs : List UInt32 :=
  [0x59546162, 0x59546163, 0x59547062, 0x59547063, 0x59546662, 0x59546663, 0x59546C62, 0x59546C63]

/-- `NormalizePathBlockerFourCc`: the order of the editor, with a capital second letter. -/
def normalizePathBlockerFourCc (rawcode : UInt32) : UInt32 :=
  if rawcode = 0 then 0
  else
    let normalized :=
      if c0 rawcode = 0x59 ∧ (c1 rawcode = 0x54 ∨ c1 rawcode = 0x74) then rawcode else byteSwap rawcode
    if 0x61 ≤ c1 normalized ∧ c1 normalized ≤ 0x7A then
      (normalized &&& 0xFF00FFFF) ||| ((c1 normalized - 0x20) <<< (16 : UInt32))
    else normalized

/-- `IsPathBlockerFourCc`, by the name `IsLosBlockerFourCc`. -/
def isLosBlockerFourCc (rawcode : UInt32) : Bool :=
  rawcode ≠ 0 && pathBlockerFourCCs.contains (normalizePathBlockerFourCc rawcode)

/-! ## Evidence -/

/-- `UnitFlags5C::Building`. -/
def isBuilding (flags5C : UInt32) : Bool := flags5C &&& 0x10000 ≠ 0

/-- `War3IsSemanticUnitObject`. -/
def isSemanticUnitObject (kind : ObjectKind) : Bool := kind = .unit

/-- `War3SemanticPacketHasStableUnitResource`. -/
def packetHasStableUnitResource (p : Packet) : Bool :=
  p.renderable.runtimeModelPtr ≠ 0 &&
    (p.renderable.modelResourcePtr ≠ 0 || p.renderable.modelKey ≠ 0 ||
      p.resource.modelResourcePtr ≠ 0 || p.resource.modelKey ≠ 0)

/-- `War3SemanticReadUnitCore`: the rawcode, the flags and the sprite. -/
def readUnitCore (w : World) (r : Renderable) : Option (UInt32 × UInt32 × Ptr) :=
  if r.unitPtr = 0 ∨ !w.memory.isReadableRangeFast r.unitPtr 0x64 then none
  else
    (w.memory.safeReadFast r.unitPtr 0x30).map fun rawcode =>
      (rawcode, (w.memory.safeReadFast r.unitPtr 0x5C).getD 0,
        (w.memory.safeReadFast r.unitPtr 0x28).getD 0)

/-- `War3SemanticPacketHasConsistentUnitCore`. -/
def packetHasConsistentUnitCore (w : World) (p : Packet) : Bool :=
  match w.validatedUnit p.renderable with
  | some valid => valid
  | none =>
    match readUnitCore w p.renderable with
    | none => false
    | some (unitRawcode, unitFlags5C, unitSpritePtr) =>
      let rawcode := p.renderable.rawcode
      let semanticRawcode := if rawcode ≠ 0 then rawcode else unitRawcode
      unitSpritePtr ≠ 0 && !isBuilding unitFlags5C &&
        !rawcodeLooksStaticWorldCaster semanticRawcode &&
        !rawcodeLooksStaticWorldCaster unitRawcode &&
        (rawcode = 0 || unitRawcode = 0 || fourCcEqualEitherOrder rawcode unitRawcode)

/-- `War3HasSemanticDynamicUnitEvidence`. -/
def hasSemanticDynamicUnitEvidence (w : World) (p : Packet) : Bool :=
  let r := p.renderable
  if r.queueKind = .transparent then false
  else if r.groupIdx > 0 then false
  else if isBuilding r.unitFlags5C then false
  else if !packetHasStableUnitResource p then false
  else if r.rawcode = 0 ∧ r.jHandle = 0 then false
  else if r.unitPtr = 0 then false
  else if p.path ≠ .skinned then false
  else if rawcodeLooksStaticWorldCaster r.rawcode then false
  else if w.validateUnitCore then packetHasConsistentUnitCore w p
  else true

/-- `War3IsEligibleSemanticDynamicUnit`. -/
def isEligibleSemanticDynamicUnit (w : World) (p : Packet) (kind : ObjectKind) : Bool :=
  if !isSemanticUnitObject kind then false else hasSemanticDynamicUnitEvidence w p

/-! ## Static and rigid casters -/

/-- `War3SemanticMaterialIsSafeOpaqueWorldCaster`. -/
def materialIsSafeOpaqueWorldCaster (w : World) (p : Packet) : Bool :=
  let m := p.material
  if w.rejectAlphaBlendCaster ∧ m.alphaMode = .alphaBlend then false
  else if !w.rejectUnsafeAlphaCaster then true
  else if m.signatureHash = 0 ∨ !m.layerContractResolved then false
  else if m.queueKind ≠ 0 then false
  else m.alphaMode = .opaqueMode && m.blendOrDrawMode = 0

/-- `hasRenderableGeoset` of `War3ShouldSubmitSemanticPacket`. -/
def hasRenderableGeoset (p : Packet) : Bool :=
  p.renderable.runtimeGeosetPtr ≠ 0 || p.renderable.runtimeGeosetDataPtr ≠ 0 ||
    p.renderable.geosetIndex ≠ invalidGeosetIndex || p.resource.geosetIndex ≠ invalidGeosetIndex

/-- `hasPacketGeometry` of `War3ShouldSubmitSemanticPacket`. -/
def hasPacketGeometry (p : Packet) : Bool :=
  p.resource.vertexCount ≠ 0 ||
    (p.usesDynamicMeshPositions && p.resource.dynamicPositionStream ≠ 0 &&
      p.resource.dynamicPositionStride ≥ 12)

/-- `War3IsEligibleSemanticStaticWorldCaster`; `kShadowSemanticCoreSceneUnitsOnly` is off. -/
def isEligibleSemanticStaticWorldCaster (w : World) (p : Packet) (kind : ObjectKind) : Bool :=
  let r := p.renderable
  if !w.sceneSubmission then false
  else if kind ≠ .building ∧ kind ≠ .destructible then false
  else if r.queueKind = .transparent then false
  else if !materialIsSafeOpaqueWorldCaster w p then false
  else if p.path ≠ .rigid then false
  else if r.worldObjectEntry = 0 ∨ r.sceneNode = 0 then false
  else if !p.hasWorldTransform ∨ !hasRenderableGeoset p ∨ !hasPacketGeometry p then false
  else if r.groupIdx > 0 then false
  else true

/-- `War3SemanticDirectPacketMatchesMainWorldVisibleRecord`. -/
def packetMatchesMainWorldVisibleRecord (p : Packet) (v : VisibleRecord) : Bool :=
  let r := p.renderable
  if r.renderablePart = 0 then false
  else if v.queueKind ≠ .mainQueue then false
  else if v.groupIdx > 0 then false
  else
    let byUnit := r.unitPtr ≠ 0 && v.unitPtr ≠ 0 && r.unitPtr = v.unitPtr
    let byEntry := r.worldObjectEntry ≠ 0 && v.worldObjectEntry ≠ 0 &&
      r.worldObjectEntry = v.worldObjectEntry
    let byHandle := r.jHandle ≠ 0 && (v.jHandle = r.jHandle || v.handleId = r.jHandle)
    if !(byUnit || byEntry || byHandle) then false
    else if v.sceneNode ≠ 0 ∧ r.sceneNode ≠ 0 ∧ v.sceneNode ≠ r.sceneNode then false
    else if v.meshData ≠ 0 ∧ r.meshData ≠ 0 ∧ v.meshData ≠ r.meshData then false
    else true

/-- `War3SemanticDirectPacketHasMainWorldVisibleBacking`. -/
def packetHasMainWorldVisibleBacking (w : World) (p : Packet) : Bool :=
  if p.renderable.renderablePart = 0 then false
  else (w.visible p.renderable.renderablePart p.renderable.layerIndex).any
    (packetMatchesMainWorldVisibleRecord p)

/-! ## Kinds -/

/-- `War3ResolveSemanticPacketObjectKind`: the first registry that knows the object. -/
def resolveSemanticPacketObjectKind (w : World) (r : Renderable) : ObjectKind :=
  let whenSome {α β : Type} [DecidableEq α] (unset key : α) (find : α → Option β) : Option β :=
    if key ≠ unset then find key else none
  if r.objectKind ≠ .unknown then r.objectKind
  else
    ((whenSome 0 r.sceneNode w.renderBySceneNode).map RenderObjectInfo.kind <|>
      (whenSome 0 r.worldObjectEntry w.renderByEntry).map RenderObjectInfo.kind <|>
      (whenSome 0 r.jHandle w.renderByHandle).map RenderObjectInfo.kind <|>
      whenSome 0 r.sceneNode w.shadowBySceneNode <|>
      whenSome 0 r.worldObjectEntry w.shadowByWorldObjectEntry <|>
      whenSome 0 r.jHandle w.shadowByHandle <|>
      whenSome 0 r.runtimeModelPtr w.shadowByRuntimeModel).getD .unknown

/-- `War3ResolveSemanticPacketObjectKindFast`. -/
def resolveSemanticPacketObjectKindFast (w : World) (p : Packet) : ObjectKind :=
  if p.renderable.objectKind ≠ .unknown then p.renderable.objectKind
  else if hasSemanticDynamicUnitEvidence w p then .unit
  else resolveSemanticPacketObjectKind w p.renderable

/-! ## Path blockers -/

/-- `War3ShadowIsLosBlockerByJHandleFallback`. -/
def isLosBlockerByJHandleFallback (w : World) (jHandle : UInt32) : Bool :=
  if jHandle = 0 then false
  else
    match (w.renderByHandle jHandle).filter fun info => info.rawcode ≠ 0 with
    | some info => isLosBlockerFourCc info.rawcode
    | none => isLosBlockerFourCc (w.widgetRawcodeByHandle jHandle)

/-- `War3ShadowIsLosBlockerByWidgetPtr` with the arguments of the gate, which leave the negative cache
out. The identity that it notes is for this widget only. -/
def isLosBlockerByWidgetPtr (w : World) (widgetPtr : Ptr) : Bool :=
  if widgetPtr = 0 then false
  else if w.widgetRawcodeByPtr widgetPtr ≠ 0 then isLosBlockerFourCc (w.widgetRawcodeByPtr widgetPtr)
  else if widgetPtr > 0xFFFFFFFF - 0x30 then false
  else if w.probeWord (widgetPtr + 0x0C) ≠ some 0x2B5DB42C then false
  else (w.probeWord (widgetPtr + 0x30)).any isLosBlockerFourCc

/-- `War3PacketIsPathBlocker`. -/
def packetIsPathBlocker (w : World) (p : Packet) : Bool :=
  let r := p.renderable
  if r.pathBlocker then true
  else if r.rawcode ≠ 0 then isLosBlockerFourCc r.rawcode
  else
    (r.jHandle ≠ 0 && isLosBlockerByJHandleFallback w r.jHandle) ||
      isLosBlockerByWidgetPtr w r.worldObjectEntry ||
      (r.unitPtr ≠ r.worldObjectEntry && isLosBlockerByWidgetPtr w r.unitPtr)

/-! ## The gate -/

/-- `War3ShouldSubmitSemanticPacket`. -/
def shouldSubmitSemanticPacket (w : World) (p : Packet) (kind : ObjectKind) (unitsOnly : Bool) :
    Bool :=
  if w.pathBlockerHideEnabled ∧ packetIsPathBlocker w p then false
  else
    let explicitUnknownRigid := kind = .unknown && p.path = .rigid &&
      p.renderable.worldObjectEntry ≠ 0 && p.renderable.sceneNode ≠ 0 && p.hasWorldTransform &&
      hasRenderableGeoset p && hasPacketGeometry p && materialIsSafeOpaqueWorldCaster w p &&
      packetHasMainWorldVisibleBacking w p
    if !unitsOnly then
      if isEligibleSemanticDynamicUnit w p kind ∨ isEligibleSemanticStaticWorldCaster w p kind then
        true
      else explicitUnknownRigid
    else isEligibleSemanticDynamicUnit w p kind

/-- `War3ShouldSubmitSemanticPacketFast`. -/
def shouldSubmitSemanticPacketFast (w : World) (p : Packet) (unitsOnly : Bool) : Bool :=
  if unitsOnly then
    if p.renderable.objectKind ≠ .unknown then
      isEligibleSemanticDynamicUnit w p p.renderable.objectKind
    else hasSemanticDynamicUnitEvidence w p
  else shouldSubmitSemanticPacket w p (resolveSemanticPacketObjectKindFast w p) false

/-- `War3LooksSubmitEligibleForScoringFast`. -/
def looksSubmitEligibleForScoringFast (w : World) (p : Packet) (unitsOnly : Bool) : Bool :=
  let r := p.renderable
  if !unitsOnly then shouldSubmitSemanticPacketFast w p false
  else if p.path ≠ .skinned then false
  else if r.queueKind = .transparent then false
  else if r.groupIdx > 0 then false
  else if r.unitPtr = 0 then false
  else if isBuilding r.unitFlags5C then false
  else if r.rawcode = 0 ∧ r.jHandle = 0 then false
  else if r.objectKind ≠ .unknown ∧ !isSemanticUnitObject r.objectKind then false
  else if rawcodeLooksStaticWorldCaster r.rawcode then false
  else packetHasStableUnitResource p

/-- The field `eligibleDrawCount` of `War3ScoreSemanticSceneFrame`, for the draws of a frame. -/
def eligibleDrawCount (w : World) (draws : List Packet) (unitsOnly : Bool) : ℕ :=
  draws.countP fun p => looksSubmitEligibleForScoringFast w p unitsOnly

/-! ## What the fast form leaves out -/

variable {w : World} {p : Packet}

/-- A unit as far as the packet itself says: the kind, where it has one, and the evidence. -/
def evidentUnit (w : World) (p : Packet) : Bool :=
  (p.renderable.objectKind = .unknown || isSemanticUnitObject p.renderable.objectKind) &&
    hasSemanticDynamicUnitEvidence w p

theorem evidentUnit_iff (w : World) (p : Packet) : evidentUnit w p = true ↔
    (p.renderable.objectKind = .unknown ∨ p.renderable.objectKind = .unit) ∧
      hasSemanticDynamicUnitEvidence w p = true := by
  simp [evidentUnit, isSemanticUnitObject]

theorem fast_unitsOnly (w : World) (p : Packet) :
    shouldSubmitSemanticPacketFast w p true = evidentUnit w p := by
  unfold shouldSubmitSemanticPacketFast evidentUnit isEligibleSemanticDynamicUnit
  rw [if_pos rfl]
  by_cases hknown : p.renderable.objectKind = .unknown
  · simp [hknown]
  · cases isSemanticUnitObject p.renderable.objectKind <;> simp [hknown]

theorem eligible_resolved (w : World) (p : Packet) :
    isEligibleSemanticDynamicUnit w p (resolveSemanticPacketObjectKindFast w p) = evidentUnit w p := by
  unfold isEligibleSemanticDynamicUnit evidentUnit resolveSemanticPacketObjectKindFast
  by_cases hknown : p.renderable.objectKind = .unknown
  · cases hevidence : hasSemanticDynamicUnitEvidence w p
    · simp [hknown]
    · simp [hknown, isSemanticUnitObject]
  · cases hkind : isSemanticUnitObject p.renderable.objectKind <;> simp [hknown, hkind]

theorem gate_unitsOnly (w : World) (p : Packet) (kind : ObjectKind) :
    shouldSubmitSemanticPacket w p kind true = (!(w.pathBlockerHideEnabled && packetIsPathBlocker w p) &&
        isEligibleSemanticDynamicUnit w p kind) := by
  unfold shouldSubmitSemanticPacket
  cases w.pathBlockerHideEnabled <;> cases packetIsPathBlocker w p <;> simp

theorem looks_of_evidence
    (hkind : p.renderable.objectKind = .unknown ∨ p.renderable.objectKind = .unit) (h : hasSemanticDynamicUnitEvidence w p = true) :
    looksSubmitEligibleForScoringFast w p true = true := by
  unfold hasSemanticDynamicUnitEvidence at h
  dsimp only at h
  split_ifs at h with hqueue hgroup hbuilding hresource hidentity hunit hpath hstatic hvalidate
  all_goals
    unfold looksSubmitEligibleForScoringFast
    dsimp only
    have hresource : packetHasStableUnitResource p = true := by simpa using hresource
    have hpath : ¬p.path ≠ .skinned := hpath
    have hkind : ¬(p.renderable.objectKind ≠ .unknown ∧
        (!isSemanticUnitObject p.renderable.objectKind) = true) := by
      rintro ⟨hknown, hnot⟩
      rw [hkind.resolve_left hknown] at hnot
      exact absurd hnot (by decide)
    rw [if_neg (by simp), if_neg hpath, if_neg hqueue, if_neg hgroup, if_neg hunit, if_neg hbuilding,
      if_neg hidentity, if_neg hkind, if_neg hstatic, hresource]

theorem looks_of_fast {unitsOnly : Bool} (h : shouldSubmitSemanticPacketFast w p unitsOnly = true) :
    looksSubmitEligibleForScoringFast w p unitsOnly = true := by
  cases unitsOnly with
  | false => exact h
  | true =>
    rw [fast_unitsOnly, evidentUnit_iff] at h
    exact looks_of_evidence h.1 h.2

/-- With path blockers hidden, the fast form agrees with the gate on the kind that is resolved, and what
it accepts is scored, exactly unless only units are wanted and a path blocker, of the kind of a unit or
of none, has the evidence of a unit. A frame is never scored below the draws that are submitted. -/
theorem fast_agrees_iff (w : World) (hhide : w.pathBlockerHideEnabled = true) (p : Packet)
    (unitsOnly : Bool) :
    ((shouldSubmitSemanticPacketFast w p unitsOnly =
        shouldSubmitSemanticPacket w p (resolveSemanticPacketObjectKindFast w p) unitsOnly ∧
      (shouldSubmitSemanticPacketFast w p unitsOnly = true →
        looksSubmitEligibleForScoringFast w p unitsOnly = true)) ↔
      ¬(unitsOnly = true ∧ packetIsPathBlocker w p = true ∧
        (p.renderable.objectKind = .unknown ∨ p.renderable.objectKind = .unit) ∧
          hasSemanticDynamicUnitEvidence w p = true)) ∧
    ∀ draws : List Packet, draws.countP (fun p => shouldSubmitSemanticPacketFast w p unitsOnly) ≤
      eligibleDrawCount w draws unitsOnly := by
  refine ⟨?_, fun draws => List.countP_mono_left fun p _ h => looks_of_fast h⟩
  rw [and_iff_left looks_of_fast, ← evidentUnit_iff]
  cases unitsOnly with
  | false => exact ⟨fun _ h => absurd h.1 Bool.false_ne_true, fun _ => rfl⟩
  | true =>
    rw [fast_unitsOnly, gate_unitsOnly, eligible_resolved, hhide]
    cases evidentUnit w p <;> cases packetIsPathBlocker w p <;> simp

/-- A game whose memory shows a footman. -/
def footmanWorld : World where
  memory :=
    { isReadableRange := fun _ _ => true
      isReadableRangeFast := fun _ _ => true
      word := fun a => if a = 0x1030 then 0x68666F6F else if a = 0x1028 then 0x2000 else 0 }

/-- A unit's packet, that a record before it marked as a path blocker or not. -/
def unitPacket (pathBlocker : Bool) : Packet where
  renderable :=
    { unitPtr := 0x1000, runtimeModelPtr := 0x3000, modelKey := 1, jHandle := 0x100001
      rawcode := 0x68666F6F, objectKind := .unit, groupIdx := 0, pathBlocker }
  path := .skinned

theorem fast_agrees_iff_footman :
    shouldSubmitSemanticPacketFast footmanWorld (unitPacket false) true = true ∧
      shouldSubmitSemanticPacket footmanWorld (unitPacket false)
        (resolveSemanticPacketObjectKindFast footmanWorld (unitPacket false)) true = true := by
  have hfast : shouldSubmitSemanticPacketFast footmanWorld (unitPacket false) true = true := by
    decide +kernel
  have hagrees := ((fast_agrees_iff footmanWorld rfl (unitPacket false) true).1.mpr fun h =>
    absurd h.2.1 (by decide +kernel)).1
  exact ⟨hfast, hagrees.symm.trans hfast⟩

/-- A unit that is marked as a path blocker is accepted by the fast form alone. -/
theorem fast_accepts_blocker :
    footmanWorld.pathBlockerHideEnabled = true ∧
      packetIsPathBlocker footmanWorld (unitPacket true) = true ∧
      shouldSubmitSemanticPacketFast footmanWorld (unitPacket true) true = true ∧
      shouldSubmitSemanticPacket footmanWorld (unitPacket true)
        (resolveSemanticPacketObjectKindFast footmanWorld (unitPacket true)) true = false := by
  decide +kernel

end War3VK.Shadow.SubmitGate
