import War3VK.Lib.Indexed
import War3VK.Lib.Machine
import War3VK.Model.RegistryRecords

/-!
# The indexes of identities

Two tables name their records by handle: the cache of widget identities
(`src/src/d3d9/war3/hooks/war3_hook_widget_identity.cpp`) and the registry of render objects
(`src/src/d3d9/war3/render/war3_render_objects.cpp`), which names them by scene node as well. Their
writers overwrite records in place and never take a name away. What the game's memory and its handle
table answer comes with each call.
-/

namespace War3VK.Render.IdentityIndexes

open Lib Model

/-- `MakeJHandle`. -/
def makeJHandle (handleId : UInt32) : UInt32 := handleId ||| 0x100000

/-- `GetHandleId`. -/
def getHandleId (jHandle : UInt32) : UInt32 := jHandle &&& 0x0FFFFF

/-- A name that is given unless it is unset. -/
def given (name : UInt32) : List UInt32 := if name = 0 then [] else [name]

/-! ## Widgets -/

/-- `WidgetIdentityRecord`, without its hits. -/
structure WidgetRecord where
  widgetPtr : Ptr := 0
  rawcode : UInt32 := 0
  jHandle : UInt32 := 0
  handleId : UInt32 := 0
  agentPtr : Ptr := 0
  agentType : UInt32 := 0
  kind : ObjectKind := .unknown
deriving DecidableEq

/-- The cache: `byPtr` and `byHandle`. -/
abbrev WidgetCache := Indexed Ptr UInt32 WidgetRecord

/-- What a widget's memory and the handle table answer. -/
structure WidgetSeen where
  /-- The rawcode, when the memory is that of a widget. -/
  rawcode : Option UInt32
  flags5C : UInt32 := 0
  /-- `findHandleByUnitPtr`, `0` for none. -/
  handleId : UInt32 := 0
  agentPtr : Ptr := 0
  /-- `GetTypeFourCC` of the agent. -/
  agentType : UInt32 := 0

/-- `GuessKindFromAgent`. -/
def guessKindFromAgent (agentType flags5C : UInt32) : ObjectKind :=
  let exponent := (flags5C >>> 23) &&& 0xFF
  if agentType = 0x2B773364 ∨ agentType = 0x0000029B then .destructible
  else if agentType = 0x2B773369 ∨ agentType = 0x69337727 then .item
  else if exponent ≥ 0x3E ∧ exponent ≤ 0x43 ∧ flags5C &&& 0x007FFFFF ≠ 0 then .destructible
  else if flags5C &&& 0x80000000 ≠ 0 ∨ flags5C > 0x7FFFFFFF then .destructible
  else if flags5C &&& 0x10000 ≠ 0 then .building
  else .unit

/-- The record that `ProcessWidgetRegister` makes of what it sees. -/
def seenRecord (widgetPtr : Ptr) (seen : WidgetSeen) (rawcode : UInt32) : WidgetRecord :=
  -- A handle table that names the widget itself has no agent.
  let hasAgent := seen.agentPtr ≠ 0 ∧ seen.agentPtr ≠ widgetPtr
  let agentType := if hasAgent then seen.agentType else 0
  { widgetPtr, rawcode, agentType
    jHandle := if seen.handleId ≠ 0 then makeJHandle seen.handleId else 0
    handleId := seen.handleId
    agentPtr := if hasAgent then seen.agentPtr else 0
    kind := guessKindFromAgent agentType seen.flags5C }

inductive WidgetCall where
  /-- `ProcessWidgetRegister`. -/
  | register (widgetPtr : Ptr) (seen : WidgetSeen)
  /-- `NoteWidgetIdentityFromDrawcall`, with the hook enabled. -/
  | note (widgetPtr : Ptr) (rawcode jHandle : UInt32)
  /-- `ResetWidgetIdentityMapSession`. -/
  | reset

/-- The record that a call writes for a widget, and the handle to which it points the index. -/
def WidgetCall.write (cache : WidgetCache) : WidgetCall → Option (Ptr × WidgetRecord × List UInt32)
  | .register widgetPtr seen =>
    if widgetPtr = 0 then none
    else
      seen.rawcode.bind fun rawcode =>
        let made := seenRecord widgetPtr seen rawcode
        match cache.primary widgetPtr with
        | none => some (widgetPtr, made, given made.jHandle)
        | some existing =>
          if existing.rawcode = rawcode ∧ existing.jHandle ≠ 0 then none
          else
            let handled := if made.jHandle ≠ 0 then
                { existing with jHandle := made.jHandle, handleId := made.handleId }
              else existing
            let manned := if made.agentPtr ≠ 0 then
                { handled with agentPtr := made.agentPtr, agentType := made.agentType }
              else handled
            some (widgetPtr, { manned with rawcode, kind := made.kind },
              if existing.jHandle ≠ made.jHandle then given made.jHandle else [])
  | .note widgetPtr rawcode jHandle =>
    if widgetPtr = 0 ∨ rawcode = 0 then none
    else
      match cache.primary widgetPtr with
      | none => some (widgetPtr, { widgetPtr, rawcode, jHandle
                                   handleId := if jHandle ≠ 0 then jHandle &&& 0xFFEFFFFF else 0 },
          given jHandle)
      | some existing =>
        if jHandle ≠ 0 ∧ existing.jHandle ≠ jHandle then
          some (widgetPtr, { existing with rawcode, jHandle, handleId := jHandle &&& 0xFFEFFFFF },
            [jHandle])
        else some (widgetPtr, { existing with rawcode }, [])
  | .reset => none

def WidgetCall.run (call : WidgetCall) (cache : WidgetCache) : WidgetCache :=
  match call with
  | .reset => {}
  | call => Indexed.writeSome cache (call.write cache)

/-- `QueryWidgetIdentityByHandle`. -/
def queryWidgetIdentityByHandle (cache : WidgetCache) (jHandle : UInt32) : Option WidgetRecord :=
  if jHandle = 0 then none else Indexed.find cache jHandle

/-- The call leaves the handle by which the index names a record. -/
def WidgetCall.Clean (cache : WidgetCache) (call : WidgetCall) : Prop :=
  ∀ w ∈ call.write cache, Indexed.Clean WidgetRecord.jHandle cache w.1 w.2.1 w.2.2

instance (cache : WidgetCache) (call : WidgetCall) : Decidable (call.Clean cache) :=
  inferInstanceAs (Decidable (∀ w ∈ _, _))

theorem faithful_widget {cache : WidgetCache} {call : WidgetCall}
    (h : Indexed.Faithful WidgetRecord.jHandle cache) (hclean : call.Clean cache) :
    Indexed.Faithful WidgetRecord.jHandle (call.run cache) := by
  cases call with
  | reset => exact fun v k hk => absurd hk (by simp [WidgetCall.run])
  | register => exact h.writeSome hclean
  | note => exact h.writeSome hclean

/-! ## Render objects -/

/-- What is read of an object besides its identity. -/
structure Attributes where
  agentPtr : Ptr := 0
  agentType : UInt32 := 0
  rawcode : UInt32 := 0
  flags5C : UInt32 := 0
  kind : ObjectKind := .unknown
deriving DecidableEq

/-- `RenderObjectInfo`. -/
structure Info where
  worldObjectEntry : Ptr := 0
  sceneNode : Ptr := 0
  unitPtr : Ptr := 0
  handleId : UInt32 := 0
  jHandle : UInt32 := 0
  groupIdx : ℤ := -1
  attributes : Attributes := {}
deriving DecidableEq

/-- The `Snapshot` that is written in a frame. The pointers of its indexes name entries. -/
structure Snapshot where
  byEntry : Ptr → Option Info := fun _ => none
  sceneToInfo : Ptr → Option Ptr := fun _ => none
  handleToInfo : UInt32 → Option Ptr := fun _ => none

def Snapshot.byHandle (snap : Snapshot) : Indexed Ptr UInt32 Info := ⟨snap.byEntry, snap.handleToInfo⟩

def Snapshot.byScene (snap : Snapshot) : Indexed Ptr Ptr Info := ⟨snap.byEntry, snap.sceneToInfo⟩

/-- An entry with the handles and the scene nodes to which the indexes are pointed. -/
structure Entry where
  info : Info
  handles : List UInt32
  scenes : List Ptr

def Snapshot.write (snap : Snapshot) (entry : Ptr) (e : Entry) : Snapshot where
  byEntry := (snap.byHandle.write entry e.info e.handles).primary
  handleToInfo := (snap.byHandle.write entry e.info e.handles).index
  sceneToInfo := (snap.byScene.write entry e.info e.scenes).index

/-- What `resolveObjectInfo` finds in the game. -/
structure Seen where
  unitValid : Bool
  /-- `findHandleByUnitPtr`. -/
  handleId : Option UInt32
  attributes : Attributes

/-- `resolveObjectInfo`: a handle that is known is kept. -/
def resolveObjectInfo (seen : Seen) (info : Info) : Info :=
  if !seen.unitValid then info
  else
    let info := { info with attributes := seen.attributes }
    match if info.handleId ≠ 0 then some info.handleId else seen.handleId with
    | some handleId => { info with handleId, jHandle := makeJHandle handleId }
    | none => info

/-- `RenderObjectBatchResolveMode`. -/
inductive ResolveMode
  | fullResolve
  | metadata
  | identityOnly
deriving DecidableEq

/-- `RenderObjectBatchItem`, with what is found of it in the game. -/
structure BatchItem where
  worldObjectEntry : Ptr
  unitPtr : Ptr
  sceneNode : Ptr
  jHandle : UInt32
  groupIdx : ℤ
  seen : Seen
  /-- The unit that the handle cache knows, `0` for none. -/
  handleUnit : Ptr := 0

/-- The entry that an item of a batch makes of a record. -/
def BatchItem.entry (mode : ResolveMode) (item : BatchItem) (prev : Info) : Entry :=
  let info : Info :=
    { worldObjectEntry := item.worldObjectEntry
      unitPtr := item.unitPtr
      sceneNode := item.sceneNode
      groupIdx := item.groupIdx
      jHandle := item.jHandle
      handleId := if item.jHandle ≠ 0 then getHandleId item.jHandle else 0
      attributes := { prev.attributes with agentPtr := 0, agentType := 0 } }
  let info := match mode with
    | .fullResolve =>
      if prev.unitPtr ≠ item.unitPtr ∨ prev.jHandle ≠ info.jHandle ∨
          info.attributes.kind = .unknown then
        resolveObjectInfo item.seen info
      else info
    | .metadata =>
      { info with
        unitPtr := if info.unitPtr = 0 ∧ info.jHandle ≠ 0 then item.handleUnit else info.unitPtr
        attributes := { item.seen.attributes with agentPtr := 0, agentType := 0 } }
    | .identityOnly => { info with attributes := {} }
  { info
    handles := given item.jHandle ++ if mode = .fullResolve then given info.jHandle else []
    scenes := given item.sceneNode }

inductive RenderCall where
  | registerWorldObject (worldObjectEntry unitPtr : Ptr) (groupIdx : ℤ) (seen : Seen)
  | registerWorldObjectsBatch (items : List BatchItem) (mode : ResolveMode)
  | mapSceneNode (worldObjectEntry sceneNode : Ptr)

/-- The writes of a call, each from the record that it finds. -/
def RenderCall.writes : RenderCall → List (Ptr × (Info → Entry))
  | .registerWorldObject worldObjectEntry unitPtr groupIdx seen =>
    if worldObjectEntry = 0 then []
    else [(worldObjectEntry, fun prev =>
      let info := resolveObjectInfo seen { prev with worldObjectEntry, unitPtr, groupIdx }
      ⟨info, given info.jHandle, []⟩)]
  | .registerWorldObjectsBatch items mode =>
    (items.filter fun item => item.worldObjectEntry ≠ 0).map fun item =>
      (item.worldObjectEntry, item.entry mode)
  | .mapSceneNode worldObjectEntry sceneNode =>
    if worldObjectEntry = 0 ∨ sceneNode = 0 then []
    else [(worldObjectEntry, fun prev => ⟨{ prev with worldObjectEntry, sceneNode }, [], [sceneNode]⟩)]

/-- One write. -/
def Snapshot.apply (snap : Snapshot) (w : Ptr × (Info → Entry)) : Snapshot :=
  snap.write w.1 (w.2 ((snap.byEntry w.1).getD {}))

def RenderCall.run (call : RenderCall) (snap : Snapshot) : Snapshot :=
  call.writes.foldl Snapshot.apply snap

/-- `findByHandle`. -/
def Snapshot.findByHandle (snap : Snapshot) (jHandle : UInt32) : Option Info :=
  if jHandle = 0 then none else snap.byHandle.find jHandle

/-- `findBySceneNode`. -/
def Snapshot.findBySceneNode (snap : Snapshot) (sceneNode : Ptr) : Option Info :=
  if sceneNode = 0 then none else snap.byScene.find sceneNode

/-- Both indexes name records by their own values. -/
def Snapshot.Faithful (snap : Snapshot) : Prop :=
  snap.byHandle.Faithful Info.jHandle ∧ snap.byScene.Faithful Info.sceneNode

/-- One write leaves the handle and the scene node by which the indexes name the record, and points
them to it by those it has. -/
def Snapshot.Clean (snap : Snapshot) (w : Ptr × (Info → Entry)) : Prop :=
  let e := w.2 ((snap.byEntry w.1).getD {})
  snap.byHandle.Clean Info.jHandle w.1 e.info e.handles ∧
    snap.byScene.Clean Info.sceneNode w.1 e.info e.scenes

instance (snap : Snapshot) (w : Ptr × (Info → Entry)) : Decidable (snap.Clean w) :=
  inferInstanceAs (Decidable (_ ∧ _))

/-- All writes of a call are clean, one after another. -/
def AllClean : List (Ptr × (Info → Entry)) → Snapshot → Prop
  | [], _ => True
  | w :: rest, snap => snap.Clean w ∧ AllClean rest (snap.apply w)

instance decidableAllClean :
    (writes : List (Ptr × (Info → Entry))) → (snap : Snapshot) → Decidable (AllClean writes snap)
  | [], _ => isTrue trivial
  | w :: rest, snap =>
    have := decidableAllClean rest (snap.apply w)
    inferInstanceAs (Decidable (snap.Clean w ∧ AllClean rest (snap.apply w)))

theorem Snapshot.Faithful.apply_iff {snap : Snapshot} (h : snap.Faithful) (w : Ptr × (Info → Entry)) :
    (snap.apply w).Faithful ↔ snap.Clean w := by
  unfold Snapshot.Faithful Snapshot.Clean
  exact and_congr h.1.write_iff h.2.write_iff

theorem faithful_render {snap : Snapshot} {call : RenderCall} (h : snap.Faithful)
    (hclean : AllClean call.writes snap) : (call.run snap).Faithful := by
  unfold RenderCall.run
  generalize call.writes = writes at hclean ⊢
  induction writes generalizing snap with
  | nil => exact h
  | cons w rest ih => exact ih ((h.apply_iff w).mpr hclean.1) hclean.2

/-! ## Runs -/

def widgetStep (call : WidgetCall) (cache : WidgetCache) : Unit × WidgetCache := ((), call.run cache)

def renderStep (call : RenderCall) (snap : Snapshot) : Unit × Snapshot := ((), call.run snap)

/-- In every run whose writes leave the names by which an index names their records, a lookup by handle
finds a record of that handle, and one by scene node a record of that node. -/
theorem lookups_keyed (widgetCalls : List WidgetCall) (renderCalls : List RenderCall) :
    ((∀ r ∈ history widgetStep widgetCalls {}, WidgetCall.Clean r.before r.call) →
      ∀ h found, queryWidgetIdentityByHandle (run widgetStep widgetCalls {}) h = some found →
        found.jHandle = h) ∧
    ((∀ r ∈ history renderStep renderCalls {}, AllClean r.call.writes r.before) →
      (∀ h info, (run renderStep renderCalls {}).findByHandle h = some info → info.jHandle = h) ∧
        ∀ node info, (run renderStep renderCalls {}).findBySceneNode node = some info →
          info.sceneNode = node) := by
  constructor
  · intro hclean h found hfind
    have hfaithful := @history_induction_of _ _ _ widgetStep
      (fun cache _ => Indexed.Faithful WidgetRecord.jHandle cache)
      (fun r => WidgetCall.Clean r.before r.call) {} (fun v k hk => absurd hk (by simp))
      (fun _ _ _ h hclean => faithful_widget h hclean) widgetCalls hclean
    unfold queryWidgetIdentityByHandle at hfind
    split at hfind
    · cases hfind
    · exact hfaithful.field_find hfind
  · intro hclean
    have hfaithful := @history_induction_of _ _ _ renderStep (fun snap _ => snap.Faithful)
      (fun r => AllClean r.call.writes r.before) {}
      ⟨fun v k hk => absurd hk (by simp [Snapshot.byHandle]),
        fun v k hk => absurd hk (by simp [Snapshot.byScene])⟩
      (fun _ _ _ h hclean => faithful_render h hclean) renderCalls hclean
    refine ⟨fun h info hfind => ?_, fun node info hfind => ?_⟩
    · unfold Snapshot.findByHandle at hfind
      split at hfind
      · cases hfind
      · exact hfaithful.1.field_find hfind
    · unfold Snapshot.findBySceneNode at hfind
      split at hfind
      · cases hfind
      · exact hfaithful.2.field_find hfind

/-- A widget is noted twice under its handle; an entry gets its scene node and its handle once. -/
theorem lookups_keyed_notes :
    let item : BatchItem := ⟨0x20, 0x30, 0x40, 0x100007, 1, ⟨false, none, {}⟩, 0⟩
    (∀ h found, queryWidgetIdentityByHandle (run widgetStep
        [.note 0x10 0x68666F6F 0x100005, .note 0x10 0x68666F6F 0x100005] {}) h = some found →
          found.jHandle = h) ∧
      ∀ node info, (run renderStep [.mapSceneNode 0x20 0x40,
        .registerWorldObjectsBatch [item] .identityOnly] {}).findBySceneNode node = some info →
          info.sceneNode = node :=
  ⟨(lookups_keyed _ []).1 (by decide), ((lookups_keyed [] _).2 (by decide)).2⟩

/-- A widget, an entry and a scene node that are named anew are still found by their old names. -/
theorem lookups_stale :
    let item (jHandle : UInt32) : BatchItem := ⟨0x20, 0x30, 0x40, jHandle, 1, ⟨false, none, {}⟩, 0⟩
    (queryWidgetIdentityByHandle (run widgetStep [.note 0x10 0x68666F6F 0x100005,
        .note 0x10 0x68666F6F 0x100006] {}) 0x100005).map WidgetRecord.jHandle = some 0x100006 ∧
      ((run renderStep [.registerWorldObjectsBatch [item 0x100007, item 0x100008] .identityOnly]
        {}).findByHandle 0x100007).map Info.jHandle = some 0x100008 ∧
      ((run renderStep [.mapSceneNode 0x20 0x40, .mapSceneNode 0x20 0x50] {}).findBySceneNode
        0x40).map Info.sceneNode = some 0x50 := by
  decide

end War3VK.Render.IdentityIndexes
