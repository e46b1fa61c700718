import War3VK.Model.GeosetRecord
import War3VK.Lib.Machine
import War3VK.Lib.TryCells

/-!
# Owned skin palettes

What a recording call publishes of a part's palette and what a query accepts
(`src/d3d9/war3/render/war3_skin_palette_selection.h`, and the cells of
`src/d3d9/war3/model/war3_model_hook.cpp`), with the contract enabled. A matrix is its sixteen words.
The fields of a cell that only the functions without the contract read are left out.
-/

namespace War3VK.Model.SkinPalette

/-! ## Selections -/

/-- `Source`. -/
inductive Source
  | unknown
  | capturedWriter
  | capturedRawArena
  | ownedPartSnapshot
  | legacyGlobalSlot
  | legacySlotCache
  | poseGroups
  | cModelGroups
  deriving DecidableEq, Repr

/-- `Space`. -/
inductive Space
  | unknown
  | world
  | modelLocal
  deriving DecidableEq, Repr

/-- `Domain`. -/
inductive Domain
  | unknown
  | vertexGroups
  | bones
  deriving DecidableEq, Repr

/-- `Selection`. -/
structure Selection where
  source : Source := .unknown
  space : Space := .unknown
  domain : Domain := .unknown
  runtimeModel : Ptr := 0
  part : Ptr := 0
  meshPayload : Ptr := 0
  ownerEpoch : UInt64 := 0
  publicationTicket : UInt64 := 0
  captureSerial : UInt64 := 0
  hash : UInt64 := 0
  slotAllocationGeneration : UInt64 := 0
  slot : UInt32 := 0xffffffff
  actualGroupCount : UInt32 := 0
  frameTag : UInt32 := 0
  deriving DecidableEq, Repr

/-- `GroupRange`. -/
def groupRange (required actual : UInt32) : Bool :=
  required ≠ 0 && actual ≠ 0 && actual ≤ 256 && required ≤ actual

/-- `OwnedSnapshotMatches`. -/
def ownedSnapshotMatches (s : Selection) (model part : Ptr) (epoch : UInt64)
    (currentSlot currentFrame required : UInt32) : Bool :=
  s.source = .ownedPartSnapshot && s.space = .world && s.domain = .vertexGroups && model ≠ 0 &&
    part ≠ 0 && epoch ≠ 0 && currentFrame ≠ 0 && s.runtimeModel = model && s.part = part &&
    s.ownerEpoch = epoch && s.publicationTicket ≠ 0 && s.hash ≠ 0 && s.slot = currentSlot &&
    currentSlot < 0x3a98 && s.frameTag = currentFrame && groupRange required s.actualGroupCount

/-- `NextTicket`, with what it leaves of the counter. -/
def nextTicket (value : UInt64) : UInt64 × UInt64 :=
  if value = 0xffffffffffffffff then (0, value) else (value + 1, value + 1)

/-! ## Matrices -/

/-- `Matrix4`, its words in the order of the memory. -/
abbrev Matrix4 := List UInt32

/-- `DecodeRuntimePoseMatrix48`: four columns of three words, with zeros and a one below. -/
def decodeRuntimePoseMatrix48 (pose : Fin 12 → UInt32) : Matrix4 :=
  [pose 0, pose 1, pose 2, 0, pose 3, pose 4, pose 5, 0, pose 6, pose 7, pose 8, 0,
    pose 9, pose 10, pose 11, 0x3f800000]

def wordBytes (word : UInt32) : List UInt64 :=
  [word &&& 0xff, (word >>> 8) &&& 0xff, (word >>> 16) &&& 0xff, word >>> 24].map UInt32.toUInt64

/-- `HashBytes` and `HashMatrixPalette` of matrices. -/
def hashMatrixPalette (matrices : List Matrix4) : UInt64 :=
  (matrices.flatten.flatMap wordBytes).foldl (fun hash byte => (hash ^^^ byte) * 1099511628211)
    1469598103934665603

/-! ## Cells -/

/-- `RenderablePartPaletteBindingEntry`. -/
structure Cell where
  cellBusy : Option ℕ := none
  sealedSelection : Selection := {}
  renderablePart : Ptr := 0
  paletteCount : UInt32 := 0
  palette : List Matrix4 := List.replicate 64 (List.replicate 16 0)
  deriving DecidableEq, Repr

/-- `kRenderablePartPaletteBindingCacheSize`. -/
def kRenderablePartPaletteBindingCacheSize : ℕ := 8192

/-- `kRenderablePartPaletteSnapshotMaxCount`. -/
def kRenderablePartPaletteSnapshotMaxCount : UInt32 := 64

/-- `kMaxRuntimeRenderablePartsForPaletteScan`. -/
def kMaxRuntimeRenderablePartsForPaletteScan : UInt32 := 4096

def cellOf (part : Ptr) : ℕ := (part >>> 4).toNat % kRenderablePartPaletteBindingCacheSize

namespace Cell

/-- `TryCell`. -/
def tryCell (thread : ℕ) (cell : Cell) : Option Cell :=
  if cell.cellBusy.isNone then some { cell with cellBusy := some thread } else none

/-- `~TryCell`. -/
def release (cell : Cell) : Cell := { cell with cellBusy := none }

def clearSelection (cell : Cell) : Cell := { cell with sealedSelection := {} }

def write (count : UInt32) (matrices : List Matrix4) (cell : Cell) : Cell :=
  { cell with
    palette := matrices ++ cell.palette.drop matrices.length
    paletteCount := count }

def forgetPalette (cell : Cell) : Cell := { cell with paletteCount := 0 }

end Cell

/-! ## Recording calls -/

/-- What `RecordRenderablePartPaletteBinding` is called with. -/
structure Binding where
  renderablePart : Ptr
  paletteSlotIndex : UInt32
  groupCount : UInt32
  frameTag : UInt32
  /-- `paletteBytes != nullptr`. -/
  paletteBytes : Bool
  paletteCount : UInt32
  runtimeModel : Ptr
  ownerEpochWitness : UInt64
  deriving DecidableEq, Repr

def sealedOf (b : Binding) (hash ticket : UInt64) : Selection where
  source := .ownedPartSnapshot
  space := .world
  domain := .vertexGroups
  runtimeModel := b.runtimeModel
  part := b.renderablePart
  ownerEpoch := b.ownerEpochWitness
  publicationTicket := ticket
  hash := hash
  slot := b.paletteSlotIndex
  actualGroupCount := b.paletteCount
  frameTag := b.frameTag

structure Publication where
  binding : Binding
  matrices : List Matrix4
  ticket : UInt64
  deriving DecidableEq, Repr

end War3VK.Model.SkinPalette

/-!
## Threads that publish and query skin palettes

The calls on the palette cells as threads interleave them: a step of a thread is one access of a cell's
flag, of the owner epoch, of the ticket counter or of `renderablePart`, with the reads of the game's
memory before it and, in a cell that it has taken, what it reads and writes there. `ResetMapSession`
runs in steps too, and takes no cell. The slot cache that `CaptureBlendedPaletteSlotRange` writes is
left out.
-/

namespace War3VK.Model.SkinPalette

open Lib

structure Memory where
  partCount : Option UInt32 := none
  partArray : Option Ptr := none
  /-- `TryReadCurrentPaletteFrameTag`. -/
  frameTag : Option UInt32 := none
  /-- `ResolveGlobalBlendedPaletteBufferBase`. -/
  globalPaletteBuf : Ptr := 0
  part : Option Ptr := none
  skipFlag : UInt32 := 0
  slot : Option UInt32 := none
  geosetData : Ptr := 0
  rawGroupCount : UInt32 := 0
  readable : Bool := false
  pose : ℕ → Fin 12 → UInt32 := fun _ _ => 0

structure PaletteSetup where
  enabled : Bool
  /-- `RenderablePartPaletteSnapshotEnabled`. -/
  snapshotEnabled : Bool

/-! ### Phases -/

/-- A `CaptureRuntimeGroupPaletteBindings`, before a part. -/
structure Capture where
  runtimeModel : Ptr
  captureSimpleFallbackSlots : Bool
  ownerEpochWitness : UInt64
  frameTag : UInt32
  partCount : UInt32
  globalPaletteBuf : Ptr
  /-- `i`. -/
  next : ℕ
  deriving DecidableEq, Repr

/-- Where a thread is that takes back the selection of a part without a slot. -/
inductive ForgetPhase
  | trying
  | entered
  | releasing
  deriving DecidableEq, Repr

/-- Where `RecordRenderablePartPaletteBinding` is. -/
inductive RecordPhase
  | trying
  | entered
  | admitted
  | copied (matrices : List Matrix4) (hash : UInt64)
  | stable (matrices : List Matrix4) (hash : UInt64)
  | proven (matrices : List Matrix4) (hash : UInt64)
  /-- Before `renderablePart` is stored. -/
  | finishing
  | releasing
  deriving DecidableEq, Repr

/-- What `QueryOwnedRenderablePartPaletteSnapshot` is called with. -/
structure Query where
  runtimeModel : Ptr
  part : Ptr
  required : UInt32
  /-- `outPaletteVec != nullptr`. -/
  outPaletteVec : Bool
  deriving DecidableEq, Repr

abbrev Answer := Selection × List Matrix4

inductive QueryPhase
  | begun
  | read (currentSlot currentFrame : UInt32)
  | asked (currentSlot currentFrame : UInt32) (epoch : UInt64)
  | entered (currentSlot currentFrame : UInt32) (epoch : UInt64)
  | copied (currentSlot currentFrame : UInt32) (epoch : UInt64) (answer : Answer)
  | stable (epoch : UInt64) (answer : Answer)
  | releasing (result : Option Answer)
  | returning (result : Option Answer)
  deriving DecidableEq, Repr

/-- Where `IsSkinPaletteSelectionCurrent` is. -/
inductive JudgePhase
  | begun
  | read (slot frame : UInt32)
  | asked
  | entered
  | compared
  | releasing (result : Bool)
  | returning (result : Bool)
  deriving DecidableEq, Repr

inductive Phase
  | idle
  /-- In `CaptureRuntimeGroupPaletteBindings`, before the epoch is loaded. -/
  | begun (runtimeModel : Ptr) (captureSimpleFallbackSlots : Bool)
  | capture (c : Capture)
  | forget (c : Capture) (part : Ptr) (p : ForgetPhase)
  /-- In `RecordRenderablePartPaletteBinding`, called from there or not. -/
  | record (c : Option Capture) (b : Binding) (p : RecordPhase)
  /-- In `QueryOwnedRenderablePartPaletteSnapshot`. -/
  | query (q : Query) (p : QueryPhase)
  /-- In `IsSkinPaletteSelectionCurrent`. -/
  | judge (selected : Selection) (p : JudgePhase)
  deriving DecidableEq, Repr

/-- Where `ResetMapSession` is. -/
inductive ResetPhase
  | idle
  | begun
  | advancing
  | exhausted
  /-- Before a cell's `renderablePart` is cleared. -/
  | clearing (cell : ℕ)
  deriving DecidableEq, Repr

inductive PaletteCall
  /-- `CaptureRuntimeGroupPaletteBindings`. -/
  | capture (runtimeModel : Ptr) (captureSimpleFallbackSlots : Bool)
  /-- `RecordRenderablePartPaletteBinding`. -/
  | record (b : Binding)
  /-- `QueryOwnedRenderablePartPaletteSnapshot`. -/
  | query (q : Query)
  /-- `IsSkinPaletteSelectionCurrent`. -/
  | judge (selected : Selection)

inductive Output
  | nothing
  /-- A recording call has drawn a ticket and sealed. -/
  | published (p : Publication)
  /-- A call has found its epoch to be the owner epoch, in its last load. -/
  | confirmed (ownerEpoch : UInt64)
  | queried (q : Query) (result : Option Answer)
  | judged (selected : Selection) (result : Bool)
  | epochChanged (ownerEpoch : UInt64)
  | resetDone (ownerEpoch : UInt64)
  deriving DecidableEq, Repr

inductive Event
  | call (thread : ℕ) (call : PaletteCall)
  | go (thread : ℕ) (memory : Memory)
  | resetMapSession
  | goReset

structure World where
  /-- `s_skinPaletteOwnerEpoch`. -/
  ownerEpoch : UInt64 := 1
  /-- `s_skinPalettePublicationTicket`. -/
  publicationTicket : UInt64 := 0
  /-- `s_renderablePartPaletteBindings`. -/
  cells : ℕ → Cell := fun _ => {}
  threads : ℕ → Phase := fun _ => .idle
  reset : ResetPhase := .idle

/-- What a thread does in a step: its next phase, a cell that it changes, the tickets that it leaves. -/
structure Move where
  phase : Phase
  change : Option (ℕ × Cell) := none
  publicationTicket : Option UInt64 := none
  output : Output := .nothing

def resume : Option Capture → Phase
  | none => .idle
  | some c => .capture c

def badSlot (slot : UInt32) : Bool := slot = 0xffffffff || slot ≥ 0x3a98

namespace World

variable (setup : PaletteSetup) (thread : ℕ) (memory : Memory) (w : World)

/-! ### Recording -/

/-- `CaptureRuntimeGroupPaletteBindings`, before its loop. -/
def goBegun (runtimeModel : Ptr) (captureSimpleFallbackSlots : Bool) : Move :=
  match memory.partCount, memory.partArray with
  | some partCount, some partArray =>
    if partCount = 0 || partArray = 0 then { phase := .idle }
    else { phase := .capture {
      runtimeModel, captureSimpleFallbackSlots
      ownerEpochWitness := w.ownerEpoch
      frameTag := memory.frameTag.getD 0
      partCount := min partCount kMaxRuntimeRenderablePartsForPaletteScan
      globalPaletteBuf := memory.globalPaletteBuf
      next := 0 } }
  | _, _ => { phase := .idle }

def bindingOf (c : Capture) (part : Ptr) (slotIndex : UInt32) : Binding :=
  let groupCount :=
    if c.captureSimpleFallbackSlots then 1
    else if memory.geosetData ≠ 0 then memory.rawGroupCount
    else 0
  { renderablePart := part
    paletteSlotIndex := slotIndex
    groupCount := groupCount
    frameTag := c.frameTag
    paletteBytes := c.globalPaletteBuf ≠ 0 && groupCount ≠ 0 && groupCount ≤ 0x3a98 - slotIndex
    paletteCount := groupCount
    runtimeModel := c.runtimeModel
    ownerEpochWitness := c.ownerEpochWitness }

/-- The loop of `CaptureRuntimeGroupPaletteBindings`. -/
def goCapture (c : Capture) : Move :=
  if c.partCount.toNat ≤ c.next then { phase := .idle }
  else
    let rest := { c with next := c.next + 1 }
    match memory.part with
    | none => { phase := .capture rest }
    | some part =>
      if part = 0 || memory.skipFlag ≠ 0 then { phase := .capture rest }
      else
        let slotIndex := memory.slot.getD 0xffffffff
        -- A part without a slot has no owner: what was published for it is taken back.
        if badSlot slotIndex then { phase := .forget rest part .trying }
        else { phase := .record (some rest) (bindingOf memory c part slotIndex) .trying }

def goForget (c : Capture) (part : Ptr) (p : ForgetPhase) : Move :=
  let n := cellOf part
  let cell := w.cells n
  match p with
  | .trying =>
    match cell.tryCell thread with
    | none => { phase := .capture c }
    | some taken => { phase := .forget c part .entered, change := some (n, taken) }
  | .entered =>
    { phase := .forget c part .releasing
      change := some (n, if cell.renderablePart = part then cell.clearSelection else cell) }
  | .releasing => { phase := .capture c, change := some (n, cell.release) }

/-- `RecordRenderablePartPaletteBinding`. -/
def goRecord (c : Option Capture) (b : Binding) (p : RecordPhase) : Move :=
  let n := cellOf b.renderablePart
  let cell := w.cells n
  match p with
  | .trying =>
    if b.renderablePart = 0 || badSlot b.paletteSlotIndex then { phase := resume c }
    else
      match cell.tryCell thread with
      | none => { phase := resume c }
      | some taken => { phase := .record c b .entered, change := some (n, taken.clearSelection) }
  | .entered =>
    if b.ownerEpochWitness = 0 || b.ownerEpochWitness ≠ w.ownerEpoch then
      { phase := .record c b .releasing }
    else { phase := .record c b .admitted }
  | .admitted =>
    if setup.snapshotEnabled && b.paletteBytes && b.paletteCount ≠ 0 &&
        b.paletteCount ≤ kRenderablePartPaletteSnapshotMaxCount && memory.readable then
      let matrices := (List.range b.paletteCount.toNat).map fun i =>
        decodeRuntimePoseMatrix48 (memory.pose i)
      { phase := .record c b (.copied matrices (hashMatrixPalette matrices))
        change := some (n, cell.write b.paletteCount matrices) }
    else { phase := .record c b .finishing, change := some (n, cell.forgetPalette) }
  | .copied matrices hash =>
    if memory.slot = some b.paletteSlotIndex && memory.frameTag = some b.frameTag &&
        b.runtimeModel ≠ 0 && b.frameTag ≠ 0 then
      { phase := .record c b (.stable matrices hash) }
    else { phase := .record c b .finishing }
  | .stable matrices hash =>
    if b.ownerEpochWitness = w.ownerEpoch && groupRange b.paletteCount b.groupCount then
      { phase := .record c b (.proven matrices hash) }
    else { phase := .record c b .finishing }
  | .proven matrices hash =>
    let (ticket, counter) := nextTicket w.publicationTicket
    { phase := .record c b .finishing
      change := some (n, { cell with sealedSelection := sealedOf b hash ticket })
      publicationTicket := some counter
      -- The ticket 0 is none.
      output := if ticket = 0 then .nothing else .published ⟨b, matrices, ticket⟩ }
  | .finishing =>
    { phase := .record c b .releasing
      change := some (n, { cell with renderablePart := b.renderablePart }) }
  | .releasing => { phase := resume c, change := some (n, cell.release) }

/-! ### Asking -/

/-- `QueryOwnedRenderablePartPaletteSnapshot`. -/
def goQuery (q : Query) (p : QueryPhase) : Move :=
  let n := cellOf q.part
  let cell := w.cells n
  match p with
  | .begun =>
    if !q.outPaletteVec || !setup.snapshotEnabled || q.runtimeModel = 0 || q.part = 0 ||
        q.required = 0 || q.required > 64 then
      { phase := .query q (.returning none) }
    else
      match memory.slot, memory.frameTag with
      | some currentSlot, some currentFrame =>
        { phase := .query q (.read currentSlot currentFrame) }
      | _, _ => { phase := .query q (.returning none) }
  | .read currentSlot currentFrame =>
    { phase := .query q (.asked currentSlot currentFrame w.ownerEpoch) }
  | .asked currentSlot currentFrame epoch =>
    match cell.tryCell thread with
    | none => { phase := .query q (.returning none) }
    | some taken =>
      { phase := .query q (.entered currentSlot currentFrame epoch), change := some (n, taken) }
  | .entered currentSlot currentFrame epoch =>
    let selection := cell.sealedSelection
    if ownedSnapshotMatches selection q.runtimeModel q.part epoch currentSlot currentFrame q.required &&
        cell.paletteCount = selection.actualGroupCount && cell.paletteCount ≤ 64 then
      { phase := .query q
          (.copied currentSlot currentFrame epoch (selection, cell.palette.take q.required.toNat)) }
    else { phase := .query q (.releasing none) }
  | .copied currentSlot currentFrame epoch answer =>
    if memory.slot = some currentSlot && memory.frameTag = some currentFrame then
      { phase := .query q (.stable epoch answer) }
    else { phase := .query q (.releasing none) }
  | .stable epoch (selection, out) =>
    if epoch = w.ownerEpoch then
      let hash :=
        if q.required = selection.actualGroupCount then selection.hash else hashMatrixPalette out
      { phase := .query q (.releasing (some ({ selection with hash := hash }, out)))
        output := .confirmed epoch }
    else { phase := .query q (.releasing none) }
  | .releasing result =>
    { phase := .query q (.returning result), change := some (n, cell.release) }
  | .returning result => { phase := .idle, output := .queried q result }

/-- `IsSkinPaletteSelectionCurrent`. -/
def goJudge (selected : Selection) (p : JudgePhase) : Move :=
  let n := cellOf selected.part
  let cell := w.cells n
  match p with
  | .begun =>
    match memory.frameTag with
    | none => { phase := .judge selected (.returning false) }
    | some frame =>
      if frame = 0 || selected.frameTag ≠ frame then { phase := .judge selected (.returning false) }
      else if selected.source = .capturedWriter then { phase := .judge selected (.returning true) }
      else
        match memory.slot with
        | none => { phase := .judge selected (.returning false) }
        | some slot =>
          if selected.part = 0 then { phase := .judge selected (.returning false) }
          else { phase := .judge selected (.read slot frame) }
  | .read slot frame =>
    if ownedSnapshotMatches selected selected.runtimeModel selected.part w.ownerEpoch slot frame 1 then
      { phase := .judge selected .asked }
    else { phase := .judge selected (.returning false) }
  | .asked =>
    match cell.tryCell thread with
    | none => { phase := .judge selected (.returning false) }
    | some taken => { phase := .judge selected .entered, change := some (n, taken) }
  | .entered =>
    if cell.sealedSelection.publicationTicket = selected.publicationTicket &&
        cell.sealedSelection.part = selected.part &&
        cell.sealedSelection.runtimeModel = selected.runtimeModel then
      { phase := .judge selected .compared }
    else { phase := .judge selected (.releasing false) }
  | .compared =>
    if selected.ownerEpoch = w.ownerEpoch then
      { phase := .judge selected (.releasing true), output := .confirmed selected.ownerEpoch }
    else { phase := .judge selected (.releasing false) }
  | .releasing result =>
    { phase := .judge selected (.returning result), change := some (n, cell.release) }
  | .returning result => { phase := .idle, output := .judged selected result }

/-! ### Steps -/

def move : Move :=
  match w.threads thread with
  | .idle => { phase := .idle }
  | .begun runtimeModel captureSimpleFallbackSlots =>
    w.goBegun memory runtimeModel captureSimpleFallbackSlots
  | .capture c => goCapture memory c
  | .forget c part p => w.goForget thread c part p
  | .record c b p => w.goRecord setup thread memory c b p
  | .query q p => w.goQuery setup thread memory q p
  | .judge selected p => w.goJudge thread memory selected p

def moved (m : Move) : World :=
  { w with
    publicationTicket := m.publicationTicket.getD w.publicationTicket
    cells := putCell m.change w.cells
    threads := Function.update w.threads thread m.phase }

def enter : PaletteCall → Phase
  | .capture runtimeModel captureSimpleFallbackSlots =>
    if runtimeModel = 0 || !setup.enabled then .idle
    else .begun runtimeModel captureSimpleFallbackSlots
  | .record b => .record none b .trying
  | .query q => .query q .begun
  | .judge selected => .judge selected .begun

/-- `ResetMapSession`. -/
def goReset : Output × World :=
  match w.reset with
  | .idle => (.nothing, w)
  | .begun => (.nothing, { w with reset := if w.ownerEpoch = 0 then .exhausted else .advancing })
  | .advancing =>
    let (ticket, counter) := nextTicket w.ownerEpoch
    if ticket = 0 then (.nothing, { w with reset := .exhausted })
    else (.epochChanged counter, { w with ownerEpoch := counter, reset := .clearing 0 })
  | .exhausted => (.epochChanged 0, { w with ownerEpoch := 0, reset := .clearing 0 })
  | .clearing n =>
    if n < kRenderablePartPaletteBindingCacheSize then
      (.nothing, { w with
        cells := Function.update w.cells n { w.cells n with renderablePart := 0 }
        reset := .clearing (n + 1) })
    else (.resetDone w.ownerEpoch, { w with reset := .idle })

def step (setup : PaletteSetup) (event : Event) (w : World) : Output × World :=
  match event with
  | .call thread call =>
    (.nothing,
      if w.threads thread = .idle then
        { w with threads := Function.update w.threads thread (enter setup call) }
      else w)
  | .go thread memory =>
    ((w.move setup thread memory).output, w.moved thread (w.move setup thread memory))
  | .resetMapSession => (.nothing, if w.reset = .idle then { w with reset := .begun } else w)
  | .goReset => w.goReset

end World

end War3VK.Model.SkinPalette
