import War3VK.Lib.Alignment
import War3VK.Lib.Machine
import War3VK.Memory.AdaptiveBudget

/-!
# The shadow arena

The generations of pages from which the shadow renderer takes its memory
(`src/src/d3d9/war3/memory/war3_shadow_arena.cpp`). A frame begins a generation, rewinding one whose
memory the device has finished with, and reserves bundles of ranges in it by moving its cursor. What
the device and the system answer when a page is created comes with the call (`PageAnswer`); a
transaction object of the callers has a number. Serials and generations are natural numbers, since
no run comes near the end of their 64 bits.
-/

namespace War3VK.Memory.ShadowArena

open Lib

/-- `kCaptureArenaPageSize`, the value of `g_arenaPageSize`. -/
def arenaPageSize : ℕ := 64 * 1024 * 1024

/-- `kCaptureArenaMaxFrameSize`. -/
def captureArenaMaxFrameSize : ℕ := 384 * 1024 * 1024

/-- `kArenaBudgetRefreshIntervalFrames`. -/
def arenaBudgetRefreshIntervalFrames : ℕ := 30

/-- `kShadowArenaFixedResidentLimitBytes`. -/
def fixedResidentLimitBytes : ℕ := 1152 * 1024 * 1024

/-- `kShadowArenaBundleMaxParts`. -/
def bundleMaxParts : ℕ := 4

/-- `ResolveArenaMaxFrameSize`, with the size that the environment asks for. -/
def resolveArenaMaxFrameSize (override : Option ℕ) : ℕ :=
  match override with
  | some bytes => min (max bytes arenaPageSize) captureArenaMaxFrameSize
  | none => max captureArenaMaxFrameSize arenaPageSize

/-- The settings that `ShadowArena_Init` resolves. -/
structure Config where
  sizeOverride : Option ℕ
  /-- `g_arenaFrameCount`. -/
  frameCount : ℕ
  frameCount_pos : 0 < frameCount

/-- `g_arenaMaxFrameSize`. -/
def Config.maxFrameSize (cfg : Config) : ℕ := resolveArenaMaxFrameSize cfg.sizeOverride

/-- A `DxvkBuffer`. -/
structure Buffer where
  /-- Which one it is: no two buffers have the same number. -/
  id : ℕ
  size : ℕ
deriving DecidableEq, Repr

/-- `struct ShadowArenaPage`. -/
structure Page where
  storage : Buffer
  capacity : ℕ
  size_eq : storage.size = capacity
  capacity_le : capacity ≤ arenaPageSize
deriving DecidableEq, Repr

structure Cursor where
  /-- `currentPage`. -/
  page : ℕ := 0
  /-- `currentOffset`. -/
  offset : ℕ := 0
  committedBytes : ℕ := 0
  pageTailWasteBytes : ℕ := 0
deriving DecidableEq, Repr

/-- `struct ShadowArenaFrameState`, a generation. -/
structure FrameState where
  pages : List Page := []
  cursor : Cursor := {}
  totalCapacity : ℕ := 0
  /-- The serial after which it may be used again, `0` while it is open. -/
  retireSerial : ℕ := 0
  generation : ℕ := 0
  frameSerial : ℕ := 0
  trimHistory : ArenaTrimHistory := {}
deriving DecidableEq, Repr

/-- `struct ShadowArenaAllocation`. -/
structure Range where
  offset : ℕ
  size : ℕ
  storage : Buffer
deriving DecidableEq, Repr

/-- `struct ShadowArenaBundleRequest`. -/
structure Request where
  size : UInt32
  /-- The alignment, `0` for the default. -/
  alignment : UInt32 := 16
deriving DecidableEq, Repr

/-- `struct ShadowArenaBundleTransaction`. -/
structure Transaction where
  allocations : List Range := []
  generationIndex : ℕ := 0
  generation : ℕ := 0
  start : Cursor := {}
  finish : Cursor := {}
  active : Bool := false
deriving DecidableEq, Repr

structure Pool where
  allocationFrameSerial : ℕ := 0
  budgetRetry : BudgetGrowthRetryGate := {}
  allocationHeapIndex : Option ℕ := none
  residentBytes : ℕ := 0
  residentLimitBytes : ℕ := fixedResidentLimitBytes
  budgetSnapshotFrameSerial : ℕ := 0
  buffers : ℕ := 0
deriving DecidableEq, Repr

/-- What `createBuffer` does. -/
inductive BufferAnswer where
  | lost
  | failed
  /-- It returns no memory, or memory without a heap. -/
  | empty
  | heap (index : ℕ)
deriving DecidableEq, Repr

structure PageAnswer where
  before : MemoryStatus
  buffer : BufferAnswer
  /-- The report when its heap was not known before. -/
  discovered : MemoryStatus
  after : MemoryStatus

/-! ## Pages -/

/-- `RefreshArenaMemoryBudget`. -/
def Pool.refresh (p : Pool) (status : MemoryStatus) (frameSerial : ℕ) : Pool :=
  { p with
    residentLimitBytes := resolveShadowArenaMemoryBudget (sampleShadowMemoryBudget status
      p.allocationHeapIndex p.residentBytes fixedResidentLimitBytes fixedResidentLimitBytes
      arenaPageSize 3)
    budgetSnapshotFrameSerial := frameSerial }

/-- `g_budgetRetry.refuse`, for this frame. -/
def Pool.refuse (p : Pool) (bytes : ℕ) : Pool :=
  { p with budgetRetry := p.budgetRetry.refuse p.allocationFrameSerial bytes }

def Pool.discover (p : Pool) (index : ℕ) (status : MemoryStatus) : Pool :=
  if p.allocationHeapIndex = none then
    { p with allocationHeapIndex := some index }.refresh status 0
  else p

inductive Failure where
  | refused
  | threw
deriving DecidableEq, Repr

/-- `AllocateArenaPage`: the failure, `none` when the page is there. -/
def allocateArenaPage (cfg : Config) (minCapacityBytes : ℕ) (answer : PageAnswer) (p : Pool)
    (f : FrameState) : Option Failure × Pool × FrameState :=
  let remainingCapacity := cfg.maxFrameSize - f.totalCapacity
  let pageCapacity := min arenaPageSize remainingCapacity
  if f.totalCapacity ≥ cfg.maxFrameSize ∨ minCapacityBytes > arenaPageSize ∨
      minCapacityBytes > remainingCapacity ∨
      p.budgetRetry.refused p.allocationFrameSerial pageCapacity then
    (some .refused, p, f)
  else
    let p := p.refresh answer.before p.budgetSnapshotFrameSerial
    if !shadowArenaCanGrowResident p.residentBytes pageCapacity p.residentLimitBytes then
      (some .refused, p.refuse pageCapacity, f)
    else
      match answer.buffer with
      | .lost => (some .threw, p, f)
      | .failed => (some .refused, p.refuse pageCapacity, f)
      | .empty => (some .refused, p, f)
      | .heap index =>
        if p.allocationHeapIndex ≠ none ∧ p.allocationHeapIndex ≠ some index then (some .refused, p, f)
        else
          let p := p.discover index answer.discovered
          let after := decideAdaptiveMemoryBudget (sampleShadowMemoryBudget answer.after (some index)
            (p.residentBytes + pageCapacity) fixedResidentLimitBytes fixedResidentLimitBytes
            arenaPageSize 3)
          if after.vaPressure ∨ p.residentBytes + pageCapacity > after.target then
            (some .refused, p.refuse pageCapacity, f)
          else
            (none,
              { p with
                residentBytes := p.residentBytes + pageCapacity
                buffers := p.buffers + 1 },
              { f with
                pages := f.pages ++
                  [⟨⟨p.buffers, pageCapacity⟩, pageCapacity, rfl, Nat.min_le_left _ _⟩]
                totalCapacity := f.totalCapacity + pageCapacity })

/-! ## Ranges -/

/-- `IsValidAlignment`. -/
def isValidAlignment (alignment : UInt32) : Bool := alignment ≠ 0 ∧ alignment &&& (alignment - 1) = 0

/-- The first aligned place from an offset on, as the source computes it. -/
def alignedStart (offset : ℕ) (alignment : UInt32) : ℕ :=
  (alignUp (UInt64.ofNat offset) alignment.toUInt64).toNat

def Cursor.behind (c : Cursor) (offset : ℕ) : Cursor := { c with offset }

def Cursor.nextPage (c : Cursor) (page : Page) : Cursor where
  page := c.page + 1
  offset := 0
  committedBytes := c.committedBytes + page.capacity
  pageTailWasteBytes := c.pageTailWasteBytes + (page.capacity - c.offset)

def growWhen (needed : FrameState → Bool) (cfg : Config) (size : ℕ) (answers : ℕ → PageAnswer)
    (p : Pool) (f : FrameState) : Option Failure × Pool × FrameState :=
  if needed f then allocateArenaPage cfg size (answers p.buffers) p f else (none, p, f)

/-- The loop of `TryAllocateFromCurrentGeneration`. -/
def allocateLoop (cfg : Config) (answers : ℕ → PageAnswer) (size alignment : UInt32) :
    ℕ → Pool → FrameState → Except Failure Range × Pool × FrameState
  | 0, p, f => (.error .refused, p, f)
  | fuel + 1, p, f =>
    match growWhen (fun f => f.pages.isEmpty) cfg size.toNat answers p f with
    | (some failure, p, f) => (.error failure, p, f)
    | (none, p, f) =>
      match growWhen (fun f => f.cursor.page ≥ f.pages.length) cfg size.toNat answers p f with
      | (some failure, p, f) => (.error failure, p, f)
      | (none, p, f) =>
        match f.pages[f.cursor.page]? with
        | none => (.error .refused, p, f)
        | some page =>
          let start := alignedStart f.cursor.offset alignment
          if start ≤ 2^32 - 1 ∧ start + size.toNat ≤ page.capacity then
            (.ok ⟨start, size.toNat, page.storage⟩, p,
              { f with cursor := f.cursor.behind (start + size.toNat) })
          else allocateLoop cfg answers size alignment fuel p
            { f with cursor := f.cursor.nextPage page }

/-- `TryAllocateFromCurrentGeneration`. The loop goes once to each page that is left, and to a page
that it creates. -/
def tryAllocateFromCurrentGeneration (cfg : Config) (answers : ℕ → PageAnswer)
    (size alignment : UInt32) (p : Pool) (f : FrameState) :
    Except Failure Range × Pool × FrameState :=
  if size = 0 ∨ !isValidAlignment alignment ∨ size.toNat > arenaPageSize ∨
      size.toNat > cfg.maxFrameSize then
    (.error .refused, p, f)
  else allocateLoop cfg answers size alignment (f.pages.length + 2) p f

def Request.usedAlignment (r : Request) : UInt32 := if r.alignment = 0 then 16 else r.alignment

/-- The loop of `ShadowArena_BeginBundle` over its requests. -/
def allocateBundle (cfg : Config) (answers : ℕ → PageAnswer) :
    List Request → Pool → FrameState → Option Failure × List Range × Pool × FrameState
  | [], p, f => (none, [], p, f)
  | r :: rest, p, f =>
    match tryAllocateFromCurrentGeneration cfg answers r.size r.usedAlignment p f with
    | (.error failure, p, f) => (some failure, [], p, f)
    | (.ok range, p, f) =>
      let (failure, ranges, p, f) := allocateBundle cfg answers rest p f
      (failure, range :: ranges, p, f)

/-! ## The arena -/

/-- The arena, once it is initialised, and the transaction objects of its callers. -/
structure State where
  /-- `g_frameStates`. -/
  frames : List FrameState := []
  /-- `g_currentFrameIndex`, with `none` for `kInvalidGenerationIndex`. -/
  current : Option ℕ := none
  generationCounter : ℕ := 0
  pool : Pool := {}
  transactions : ℕ → Transaction := fun _ => {}

inductive Call where
  /-- `ShadowArena_BeginFrame`. -/
  | beginFrame (frameSerial completedSerial : ℕ) (status : MemoryStatus) (answer : PageAnswer)
  /-- `ShadowArena_EndFrame`. -/
  | endFrame (frameSerial : ℕ)
  /-- `ShadowArena_QuarantineCurrentGeneration`. -/
  | quarantineCurrentGeneration (retireSerial : ℕ)
  /-- `ShadowArena_BeginBundle`; a null pointer to the requests is refused like no requests. -/
  | beginBundle (name : ℕ) (requests : List Request) (answers : ℕ → PageAnswer)
  /-- `ShadowArena_CommitBundle`. -/
  | commitBundle (name : ℕ)
  /-- `ShadowArena_RollbackBundle`. -/
  | rollbackBundle (name : ℕ)

inductive Output where
  /-- Nothing, or whether it did what it was called for. -/
  | returned (ok : Bool)
  | threw
  /-- A frame has begun, with the generation at an index. -/
  | began (index : ℕ)
  | reserved (transaction : Transaction)
deriving DecidableEq, Repr

/-- `ShadowArenaGenerationCanBeReused`. -/
def generationCanBeReused (retireSerial completedSerial : ℕ) : Bool := retireSerial ≤ completedSerial

/-- The choice of a generation in `ShadowArena_BeginFrame`. -/
def chooseGeneration (cfg : Config) (frameSerial completedSerial : ℕ) (frames : List FrameState) :
    Option ℕ :=
  let reusable := fun f : FrameState => generationCanBeReused f.retireSerial completedSerial
  let preferred := frameSerial % cfg.frameCount
  if frames[preferred]?.any reusable then some preferred else frames.findIdx? reusable

def dropPages (keep : ℕ) : List Page → ℕ → List Page × ℕ
  | [], total => ([], total)
  | page :: rest, total =>
    if total - page.capacity ≥ keep then dropPages keep rest (total - page.capacity)
    else (page :: rest, total)

/-- A generation that is rewound for a frame: its pages beyond the demand are dropped. -/
def rewind (frameSerial completedSerial generation : ℕ) (p : Pool) (f : FrameState) :
    Pool × FrameState :=
  let previousUsed := f.cursor.committedBytes + f.cursor.offset
  let pressure : Bool := p.residentBytes > p.residentLimitBytes
  let (keep, trimHistory) :=
    if f.retireSerial ≠ 0 ∧ generationCanBeReused f.retireSerial completedSerial then
      f.trimHistory.target frameSerial previousUsed f.totalCapacity arenaPageSize pressure
    else (f.totalCapacity, f.trimHistory)
  let (pages, totalCapacity) := dropPages keep f.pages.reverse f.totalCapacity
  ({ p with residentBytes := p.residentBytes - (f.totalCapacity - totalCapacity) },
    { pages := pages.reverse, cursor := {}, totalCapacity, retireSerial := 0, generation, frameSerial
      trimHistory })

/-- The end of `ShadowArena_BeginFrame`, with the generation that was chosen. -/
def State.beginAt (frameSerial completedSerial : ℕ) (s : State) (index : ℕ) : Output × State :=
  let (pool, f) := rewind frameSerial completedSerial (s.generationCounter + 1) s.pool
    (s.frames.getD index {})
  (.began index, { s with
    current := some index
    frames := s.frames.set index f
    generationCounter := s.generationCounter + 1
    pool })

/-- `ShadowArena_BeginFrame`. -/
def beginFrame (cfg : Config) (frameSerial completedSerial : ℕ) (status : MemoryStatus)
    (answer : PageAnswer) (s : State) : Output × State :=
  let pool := { s.pool with allocationFrameSerial := frameSerial }
  let last := pool.budgetSnapshotFrameSerial
  let pool :=
    if last = 0 ∨ frameSerial < last ∨ frameSerial - last ≥ arenaBudgetRefreshIntervalFrames then
      pool.refresh status frameSerial
    else pool
  match chooseGeneration cfg frameSerial completedSerial s.frames with
  | some index => { s with pool }.beginAt frameSerial completedSerial index
  | none =>
    match allocateArenaPage cfg arenaPageSize answer pool {} with
    | (none, pool, spill) =>
      { s with pool, frames := s.frames ++ [spill] }.beginAt frameSerial completedSerial
        s.frames.length
    | (some .refused, pool, _) => (.returned false, { s with pool, current := none })
    | (some .threw, pool, _) => (.threw, { s with pool })

/-- `ShadowArena_EndFrame`. -/
def endFrame (frameSerial : ℕ) (s : State) : Output × State :=
  match s.current.bind fun index => s.frames[index]?.map (index, ·) with
  | none => (.returned false, s)
  | some (index, f) =>
    if f.frameSerial ≠ frameSerial then (.returned false, s)
    else (.returned true,
      { s with frames := s.frames.set index { f with retireSerial := frameSerial } })

/-- `ShadowArena_QuarantineCurrentGeneration`. -/
def quarantineCurrentGeneration (retireSerial : ℕ) (s : State) : Output × State :=
  if retireSerial = 0 then (.returned false, s)
  else match s.current.bind fun index => s.frames[index]?.map (index, ·) with
    | none => (.returned false, { s with current := none })
    | some (index, f) => (.returned true,
        { s with current := none, frames := s.frames.set index { f with retireSerial } })

def State.setTransaction (s : State) (name : ℕ) (t : Transaction) : State :=
  { s with transactions := fun n => if n = name then t else s.transactions n }

/-- `ShadowArena_BeginBundle`. -/
def beginBundle (cfg : Config) (name : ℕ) (requests : List Request) (answers : ℕ → PageAnswer)
    (s : State) : Output × State :=
  if requests.length = 0 ∨ requests.length > bundleMaxParts then
    (.returned false, s.setTransaction name {})
  else match s.current.bind fun index => s.frames[index]?.map (index, ·) with
    | none => (.returned false, s.setTransaction name {})
    | some (index, f) =>
      let (failure, allocations, pool, f') := allocateBundle cfg answers requests s.pool f
      let t : Transaction :=
        { allocations, generationIndex := index, generation := f.generation, start := f.cursor
          active := true }
      match failure with
      | none =>
        let t := { t with finish := f'.cursor }
        (.reserved t, { s with pool, frames := s.frames.set index f' }.setTransaction name t)
      | some .refused => (.returned false,
          { s with pool, frames := s.frames.set index { f' with cursor := f.cursor } }.setTransaction
            name { t with active := false })
      | some .threw => (.threw, { s with pool, frames := s.frames.set index f' }.setTransaction name t)

/-- `exactOwner`: whether nothing has moved the cursor since a bundle was reserved. -/
def State.exactOwner (s : State) (t : Transaction) (f : FrameState) : Bool :=
  s.current = some t.generationIndex ∧ f.generation = t.generation ∧ f.cursor = t.finish

/-- `ShadowArena_CommitBundle`. -/
def commitBundle (name : ℕ) (s : State) : Output × State :=
  let t := s.transactions name
  match s.frames[t.generationIndex]? with
  | none => (.returned false, s)
  | some f =>
    if !t.active then (.returned false, s)
    else (.returned (s.exactOwner t f), s.setTransaction name { t with active := false })

/-- `ShadowArena_RollbackBundle`. -/
def rollbackBundle (name : ℕ) (s : State) : Output × State :=
  let t := s.transactions name
  match s.frames[t.generationIndex]? with
  | none => (.returned false, s)
  | some f =>
    if !t.active then (.returned false, s)
    else if !s.exactOwner t f then
      (.returned false, s.setTransaction name { t with active := false })
    else
      (.returned true,
        { s with frames := s.frames.set t.generationIndex { f with cursor := t.start } }.setTransaction
          name { t with active := false })

def step (cfg : Config) (call : Call) (s : State) : Output × State :=
  match call with
  | .beginFrame frameSerial completedSerial status answer =>
    beginFrame cfg frameSerial completedSerial status answer s
  | .endFrame frameSerial => endFrame frameSerial s
  | .quarantineCurrentGeneration retireSerial => quarantineCurrentGeneration retireSerial s
  | .beginBundle name requests answers => beginBundle cfg name requests answers s
  | .commitBundle name => commitBundle name s
  | .rollbackBundle name => rollbackBundle name s

/-! ## Initialisation -/

/-- The warm pages of `ShadowArena_Init`, one for each generation. -/
def warmPages (cfg : Config) (answers : ℕ → PageAnswer) :
    ℕ → Pool → Option (List FrameState × Pool)
  | 0, p => some ([], p)
  | n + 1, p =>
    match allocateArenaPage cfg arenaPageSize (answers p.buffers) p {} with
    | (none, p, f) => (warmPages cfg answers n p).map fun (frames, p) => (f :: frames, p)
    | _ => none

/-- `ShadowArena_Init`, when it succeeds. -/
def init (cfg : Config) (status : MemoryStatus) (answers : ℕ → PageAnswer) : Option State :=
  (warmPages cfg answers cfg.frameCount (Pool.refresh {} status 0)).map fun (frames, pool) =>
    { frames, pool }

end War3VK.Memory.ShadowArena
