import War3VK.GpuSkin.PackageStore

/-!
# The dynamic resources of the skinning

`War3GpuSkinResources`: upload pages that the host writes for one batch, and output pages that jobs
lease until their consumers' fence has passed. The persistent packages are delegated to the store.
What the device and the fences answer is an argument of the call that asks them; the `n`th question
of a call about a fence is answered by `getFenceValue n`, so an answer that the code has cached is the
same answer given again. Counters and fallback reports are left out.
-/

namespace War3VK.GpuSkin

open War3VK.Lib

/-- `OutputLeaseDesc`. -/
structure OutputLeaseDesc where
  mapEpoch : UInt64
  deviceEpoch : UInt64
  frameTag : UInt64
  token : UInt64
  dispatchEpoch : UInt64
  uploadEpoch : UInt64
  byteOffset : UInt32
  byteLength : UInt32
  vertexStride : UInt32
  vertexCount : UInt32
  dipOrdinal : UInt32
  consumerBits : UInt32
  deriving DecidableEq, Repr

/-- `OutputLease`. -/
structure OutputLease where
  desc : OutputLeaseDesc
  slice : BufferSlice
  retireFence : Option ℕ
  retireValue : UInt64
  leaseId : UInt64
  pageGeneration : UInt64
  pageId : UInt32
  fallback : GpuSkinFallbackReason
  deriving DecidableEq, Repr

/-- `operator bool`. -/
def OutputLease.valid (lease : OutputLease) : Bool := lease.slice.defined && lease.fallback = .none

def OutputLease.refused (desc : OutputLeaseDesc) (reason : GpuSkinFallbackReason) : OutputLease :=
  ⟨desc, .none, none, 0, 0, 0, 0, reason⟩

/-- `UploadPage`. -/
structure UploadPage where
  buffer : Buffer
  capacity : ℕ
  cursor : ℕ
  fence : Option ℕ
  retireValue : UInt64
  deriving DecidableEq, Repr

/-- `OutputPage`. -/
structure OutputPage where
  id : UInt32
  generation : UInt64
  buffer : Buffer
  capacity : ℕ
  cursor : ℕ
  outstanding : ℕ
  deriving DecidableEq, Repr

/-- `ActiveOutput`. -/
structure ActiveOutput where
  pageId : UInt32
  pageGeneration : UInt64
  byteOffset : UInt32
  byteLength : UInt32
  retirementQueued : Bool
  deriving DecidableEq, Repr

/-- `kMinUploadPageBytes`. -/
def kMinUploadPageBytes : ℕ := 256 * 2^10

/-- `kMaxUploadPageBytes`. -/
def kMaxUploadPageBytes : ℕ := 2^20

/-- `kOutputPageBytes`. -/
def kOutputPageBytes : ℕ := 8 * 2^20

/-- `UploadBufferInfo`. -/
def uploadBufferInfo (size : ℕ) : BufferInfo where
  size := size
  usage := [.storageBuffer, .transferSrc]
  stages := [.host, .transfer, .computeShader]
  access := [.hostWrite, .transferRead, .shaderRead]

/-- `OutputBufferInfo`. -/
def outputBufferInfo (size : ℕ) : BufferInfo where
  size := size
  usage := [.storageBuffer, .vertexBuffer, .transferSrc, .transferDst]
  stages := [.computeShader, .vertexShader, .vertexInput, .transfer]
  access := [.shaderWrite, .shaderRead, .vertexAttributeRead, .transferRead, .transferWrite]

structure ResourceSetup where
  store : StoreSetup
  outputBytes : ℕ
  uploadBytes : ℕ

structure SkinResources where
  /-- `m_device != nullptr`. -/
  device : Bool
  mapEpoch : UInt64
  deviceEpoch : UInt64
  lastRetirementPollMapEpoch : UInt64
  lastRetirementPollDeviceEpoch : UInt64
  lastRetirementPollFrameTag : UInt64
  nextOutputLeaseId : UInt64
  nextOutputPageId : UInt32
  uploadBytes : ℕ
  outputBytes : ℕ
  storageBufferOffsetAlignment : ℕ
  /-- `*m_persistentPackages`. -/
  persistentPackages : PackageStore
  activeUpload : Option UploadPage
  pendingUploads : List UploadPage
  retiredUploads : List UploadPage
  idleUploads : List UploadPage
  outputPages : List OutputPage
  activeOutputs : List (UInt64 × ActiveOutput)
  retiredOutputs : List OutputLease
  /-- How many buffers the device has created for the owner. -/
  buffers : ℕ

structure PollAnswers where
  getFenceValue : ℕ → ℕ → UInt64
  /-- Whether the idle pages can grow when they must. -/
  idleGrows : ℕ → Bool

/-- What `allocateOutput` is answered. -/
structure OutputAnswers where
  poll : PollAnswers
  /-- `createBuffer`. -/
  buffer : BufferAnswer
  pagesGrow : Bool
  activeGrow : Bool

structure UploadAnswers where
  poll : PollAnswers
  /-- `createBuffer`. -/
  buffer : BufferAnswer
  mapped : Bool

namespace SkinResources

variable (cfg : ResourceSetup)

/-- `NormalizeStorageBufferOffsetAlignment`. -/
def normalizeStorageBufferOffsetAlignment (alignment : ℕ) : ℕ :=
  max alignment kMinimumStorageBufferOffsetAlignment

def init (device : Bool) (deviceAlignment : ℕ) : SkinResources where
  device := device
  mapEpoch := 0
  deviceEpoch := 0
  lastRetirementPollMapEpoch := 0
  lastRetirementPollDeviceEpoch := 0
  lastRetirementPollFrameTag := 0
  nextOutputLeaseId := 1
  nextOutputPageId := 1
  uploadBytes := 0
  outputBytes := 0
  storageBufferOffsetAlignment := normalizeStorageBufferOffsetAlignment deviceAlignment
  persistentPackages := .init device (normalizeStorageBufferOffsetAlignment deviceAlignment)
  activeUpload := none
  pendingUploads := []
  retiredUploads := []
  idleUploads := []
  outputPages := []
  activeOutputs := []
  retiredOutputs := []
  buffers := 0

/-- `clearDynamicEpochResources`. -/
def clearDynamicEpochResources (s : SkinResources) : SkinResources :=
  { s with
    activeUpload := none
    pendingUploads := []
    retiredUploads := []
    idleUploads := []
    outputPages := []
    activeOutputs := []
    retiredOutputs := []
    uploadBytes := 0
    outputBytes := 0
    lastRetirementPollMapEpoch := 0
    lastRetirementPollDeviceEpoch := 0
    lastRetirementPollFrameTag := 0
    nextOutputLeaseId := 1
    nextOutputPageId := 1 }

/-- `invalidateMapEpoch`. -/
def invalidateMapEpoch (nextMapEpoch : UInt64) (s : SkinResources) : SkinResources :=
  { s.clearDynamicEpochResources with
    persistentPackages := s.persistentPackages.invalidateMapEpoch nextMapEpoch
    mapEpoch := nextMapEpoch }

/-- `invalidateDevice`. -/
def invalidateDevice (device : Bool) (nextDeviceEpoch : UInt64) (deviceAlignment : ℕ)
    (s : SkinResources) : SkinResources :=
  let alignment := normalizeStorageBufferOffsetAlignment deviceAlignment
  { s.clearDynamicEpochResources with
    device := device
    storageBufferOffsetAlignment := alignment
    persistentPackages := s.persistentPackages.invalidateDevice device nextDeviceEpoch alignment
    deviceEpoch := nextDeviceEpoch }

/-- `reset`. -/
def reset (s : SkinResources) : SkinResources :=
  { s.clearDynamicEpochResources with
    persistentPackages := s.persistentPackages.reset
    mapEpoch := 0
    deviceEpoch := 0 }

/-! ## Output pages -/

/-- `m_activeOutputs.find`. -/
def findActive (leaseId : UInt64) (s : SkinResources) : Option ActiveOutput :=
  (s.activeOutputs.find? (·.1 = leaseId)).map Prod.snd

def findPage (pageId : UInt32) (pageGeneration : UInt64) (s : SkinResources) : Option ℕ :=
  s.outputPages.findIdx? fun page => page.id = pageId && page.generation = pageGeneration

def matchesLease (lease : OutputLease) (active : ActiveOutput) : Bool :=
  active.pageId = lease.pageId && active.pageGeneration = lease.pageGeneration &&
    active.byteOffset = lease.desc.byteOffset && active.byteLength = lease.desc.byteLength

def nextGeneration (generation : UInt64) : UInt64 :=
  if generation + 1 = 0 then generation + 2 else generation + 1

def releaseOne (page : OutputPage) : OutputPage :=
  if page.outstanding - 1 = 0 then
    { page with outstanding := 0, cursor := 0, generation := nextGeneration page.generation }
  else
    { page with outstanding := page.outstanding - 1 }

def releasePage (place : ℕ) (s : SkinResources) : SkinResources :=
  { s with outputPages := s.outputPages.modify place releaseOne }

/-- `m_activeOutputs.erase`. -/
def eraseActive (leaseId : UInt64) (s : SkinResources) : SkinResources :=
  { s with activeOutputs := s.activeOutputs.filter (·.1 ≠ leaseId) }

def hasOutstanding (place : ℕ) (s : SkinResources) : Bool :=
  match s.outputPages[place]? with
  | none => false
  | some page => page.outstanding ≠ 0

/-! ## Polling -/

def recycle (page : UploadPage) : UploadPage :=
  { page with cursor := 0, fence := none, retireValue := 0 }

def reached (getFenceValue : ℕ → ℕ → UInt64) (turn : ℕ) (fence : Option ℕ) (value : UInt64) : Bool :=
  match fence with
  | none => false
  | some fence => value ≤ getFenceValue turn fence

/-- The loop of `pollRetired` over the retired upload pages, with those that were kept so far: whether
it came to its end, and after how many questions. -/
def pollUploads (answers : PollAnswers) :
    List UploadPage → List UploadPage → ℕ → SkinResources → Bool × ℕ × SkinResources
  | _, [], turn, s => (true, turn, s)
  | kept, page :: rest, turn, s =>
    if reached answers.getFenceValue turn page.fence page.retireValue then
      let s := { s with retiredUploads := kept ++ rest }
      if answers.idleGrows turn then
        pollUploads answers kept rest (turn + 1)
          { s with idleUploads := s.idleUploads ++ [recycle page] }
      else
        (false, turn + 1, { s with uploadBytes := s.uploadBytes - page.capacity })
    else
      pollUploads answers (kept ++ [page]) rest (turn + 1) s

def completeOutput (lease : OutputLease) (s : SkinResources) : SkinResources :=
  match s.findActive lease.leaseId, s.findPage lease.pageId lease.pageGeneration with
  | some active, some place =>
    if active.pageId = lease.pageId && active.pageGeneration = lease.pageGeneration &&
        active.retirementQueued && s.hasOutstanding place then
      (s.releasePage place).eraseActive lease.leaseId
    else s
  | _, _ => s

/-- The loop of `pollRetired` over the retired outputs, with those that were kept so far. -/
def pollOutputs (answers : PollAnswers) :
    List OutputLease → List OutputLease → ℕ → SkinResources → SkinResources
  | _, [], _, s => s
  | kept, lease :: rest, turn, s =>
    if reached answers.getFenceValue turn lease.retireFence lease.retireValue then
      pollOutputs answers kept rest (turn + 1)
        { s.completeOutput lease with retiredOutputs := kept ++ rest }
    else
      pollOutputs answers (kept ++ [lease]) rest (turn + 1) s

def settlePages (s : SkinResources) : SkinResources :=
  { s with outputPages := s.outputPages.map fun page =>
      if page.outstanding = 0 then { page with cursor := 0 } else page }

/-- `pollRetired`: whether it came to its end. -/
def pollRetired (answers : PollAnswers) (s : SkinResources) : Bool × SkinResources :=
  if s.persistentPackages.retiredStaticUploads.isEmpty && s.retiredUploads.isEmpty &&
      s.retiredOutputs.isEmpty then
    (true, s)
  else
    let turn := s.persistentPackages.retiredStaticUploads.length
    let s := { s with persistentPackages :=
      s.persistentPackages.pollRetired cfg.store answers.getFenceValue }
    match s.pollUploads answers [] s.retiredUploads turn with
    | (false, _, s) => (false, s)
    | (true, turn, s) => (true, (s.pollOutputs answers [] s.retiredOutputs turn).settlePages)

/-- `beginFrame`: whether the frame has begun, nothing when the poll threw. -/
def beginFrame (mapEpoch deviceEpoch frameTag : UInt64) (answers : PollAnswers)
    (s : SkinResources) : Option Bool × SkinResources :=
  if !s.device || mapEpoch = 0 || deviceEpoch = 0 || frameTag = 0 then
    (some false, s)
  else if (s.mapEpoch ≠ 0 && s.mapEpoch ≠ mapEpoch) ||
      (s.deviceEpoch ≠ 0 && s.deviceEpoch ≠ deviceEpoch) then
    (some false, s)
  else
    let (begun, packages) := s.persistentPackages.beginFrame mapEpoch deviceEpoch frameTag
    if !begun then
      (some false, { s with persistentPackages := packages })
    else
      let s := { s with
        persistentPackages := packages, mapEpoch := mapEpoch, deviceEpoch := deviceEpoch }
      if s.lastRetirementPollMapEpoch ≠ mapEpoch || s.lastRetirementPollDeviceEpoch ≠ deviceEpoch ||
          s.lastRetirementPollFrameTag ≠ frameTag then
        match s.pollRetired cfg answers with
        | (false, s) => (none, s)
        | (true, s) => (some true, { s with
            lastRetirementPollMapEpoch := mapEpoch
            lastRetirementPollDeviceEpoch := deviceEpoch
            lastRetirementPollFrameTag := frameTag })
      else
        (some true, s)

/-! ## Outputs -/

def hasRoom (alignment bytes : ℕ) (page : OutputPage) : Bool :=
  match PackageStore.tryAlignUp page.cursor alignment with
  | none => false
  | some offset => offset ≤ page.capacity && bytes ≤ page.capacity - offset

/-- `findAvailablePage`, the last page with room, by its place. -/
def findAvailablePage (bytes : ℕ) (s : SkinResources) : Option ℕ :=
  (s.outputPages.reverse.findIdx? (hasRoom s.storageBufferOffsetAlignment bytes)).map
    (s.outputPages.length - 1 - ·)

def leaseOf (desc : OutputLeaseDesc) (page : OutputPage) (offset : ℕ) (s : SkinResources) :
    OutputLease where
  desc := { desc with byteOffset := UInt32.ofNat offset }
  slice := ⟨some page.buffer, offset, desc.byteLength.toNat⟩
  retireFence := none
  retireValue := 0
  leaseId := s.nextOutputLeaseId
  pageGeneration := page.generation
  pageId := page.id
  fallback := .none

def activeOf (lease : OutputLease) (retirementQueued : Bool) : ActiveOutput :=
  ⟨lease.pageId, lease.pageGeneration, lease.desc.byteOffset, lease.desc.byteLength,
    retirementQueued⟩

/-- `m_activeOutputs.emplace`, which keeps an output that is there already. -/
def emplaceActive (lease : OutputLease) (s : SkinResources) : SkinResources :=
  if (s.findActive lease.leaseId).isSome then s
  else { s with activeOutputs := s.activeOutputs ++ [(lease.leaseId, activeOf lease false)] }

/-- The end of `allocateOutput`, with the page at a place; nothing when it threw. -/
def leaseFrom (activeGrow : Bool) (desc : OutputLeaseDesc) (place : ℕ) (s : SkinResources) :
    Option OutputLease × SkinResources :=
  match s.outputPages[place]? with
  | none => (some (.refused desc .outputBudgetExhausted), s)
  | some page =>
    match PackageStore.tryAlignUp page.cursor s.storageBufferOffsetAlignment with
    | none => (some (.refused desc .outputBudgetExhausted), s)
    | some offset =>
      if offset > 0xffffffff ∨ offset > page.capacity ∨
          desc.byteLength.toNat > page.capacity - offset then
        (some (.refused desc .outputBudgetExhausted), s)
      else
        let lease := s.leaseOf desc page offset
        let s := { s with
          outputPages := s.outputPages.modify place fun page => { page with
            cursor := offset + desc.byteLength.toNat, outstanding := page.outstanding + 1 }
          nextOutputLeaseId := s.nextOutputLeaseId + 1 }
        if activeGrow then (some lease, s.emplaceActive lease) else (none, s)

/-- A new page, by its place; a buffer that is missing or an exception end the call. -/
def openPage (answers : OutputAnswers) (desc : OutputLeaseDesc) (s : SkinResources) :
    Option OutputLease × SkinResources :=
  let capacity := max kOutputPageBytes desc.byteLength.toNat
  if s.outputBytes > cfg.outputBytes ∨ capacity > cfg.outputBytes - s.outputBytes then
    (some (.refused desc .outputBudgetExhausted), s)
  else
    let id := s.nextOutputPageId
    let s := { s with nextOutputPageId := s.nextOutputPageId + 1 }
    match answers.buffer with
    | .threw => (none, s)
    | .null => (some (.refused desc .outputBudgetExhausted), s)
    | .created =>
      let page : OutputPage := ⟨id, 1, ⟨s.buffers, outputBufferInfo capacity⟩, capacity, 0, 0⟩
      let s := { s with buffers := s.buffers + 1, outputBytes := s.outputBytes + capacity }
      if answers.pagesGrow then
        leaseFrom answers.activeGrow desc s.outputPages.length
          { s with outputPages := s.outputPages ++ [page] }
      else (none, s)

/-- `allocateOutput`: the lease, nothing when it threw. -/
def allocateOutput (answers : OutputAnswers) (desc : OutputLeaseDesc) (s : SkinResources) :
    Option OutputLease × SkinResources :=
  if !s.device || desc.byteLength = 0 || desc.mapEpoch ≠ s.mapEpoch ||
      desc.deviceEpoch ≠ s.deviceEpoch then
    (some (.refused desc .invalidEpoch), s)
  else
    match s.findAvailablePage desc.byteLength.toNat with
    | some place => s.leaseFrom answers.activeGrow desc place
    | none =>
      match s.pollRetired cfg answers.poll with
      | (false, s) => (none, s)
      | (true, s) =>
        match s.findAvailablePage desc.byteLength.toNat with
        | some place => s.leaseFrom answers.activeGrow desc place
        | none => s.openPage cfg answers desc

def retiredOf (lease : OutputLease) (fence : ℕ) (value : UInt64) : OutputLease :=
  { lease with retireFence := some fence, retireValue := value }

def queueActive (leaseId : UInt64) (s : SkinResources) : SkinResources :=
  { s with activeOutputs := s.activeOutputs.map fun entry =>
      if entry.1 = leaseId then (entry.1, { entry.2 with retirementQueued := true }) else entry }

/-- `retireOutput`; nothing when the retired outputs cannot grow. -/
def retireOutput (grows : Bool) (lease : OutputLease) (fence : Option ℕ) (value : UInt64)
    (s : SkinResources) : Option Bool × SkinResources :=
  match fence with
  | none => (some false, s)
  | some fence =>
    if !lease.valid || value = 0 || lease.desc.mapEpoch ≠ s.mapEpoch ||
        lease.desc.deviceEpoch ≠ s.deviceEpoch then
      (some false, s)
    else
      match s.findActive lease.leaseId with
      | none => (some false, s)
      | some active =>
        if !matchesLease lease active then (some false, s)
        else if active.retirementQueued then (some true, s)
        else
          match s.findPage lease.pageId lease.pageGeneration with
          | none => (some false, s)
          | some place =>
            if !s.hasOutstanding place then (some false, s)
            else
              let s := s.queueActive lease.leaseId
              if grows then
                (some true, { s with retiredOutputs := s.retiredOutputs ++ [retiredOf lease fence value] })
              else (none, s)

/-- `discardOutput`. -/
def discardOutput (lease : OutputLease) (s : SkinResources) : SkinResources :=
  if !lease.valid then s
  else
    match s.findActive lease.leaseId with
    | none => s
    | some active =>
      if !matchesLease lease active || active.retirementQueued then s
      else
        match s.findPage lease.pageId lease.pageGeneration with
        | none => s.eraseActive lease.leaseId
        | some place =>
          if s.hasOutstanding place then (s.releasePage place).eraseActive lease.leaseId
          else s.eraseActive lease.leaseId

/-! ## Upload pages -/

def bestPage (better : UploadPage → UploadPage → Bool) : List UploadPage → Option UploadPage
  | [] => none
  | page :: rest => some (rest.foldl (fun best page => if better page best then page else best) page)

def reusablePage (requiredBytes : ℕ) (s : SkinResources) : Option UploadPage :=
  bestPage (fun page best => page.capacity < best.capacity)
    (s.idleUploads.filter (requiredBytes ≤ ·.capacity))

def fitsUploadBudget (capacity : ℕ) (s : SkinResources) : Bool :=
  s.uploadBytes ≤ cfg.uploadBytes && capacity ≤ cfg.uploadBytes - s.uploadBytes

/-- Evict the largest idle pages until there is budget, at most this many. -/
def evictIdle (capacity : ℕ) : ℕ → SkinResources → SkinResources
  | 0, s => s
  | count + 1, s =>
    if s.fitsUploadBudget cfg capacity then s
    else
      match bestPage (fun page best => page.capacity > best.capacity) s.idleUploads with
      | none => s
      | some victim => evictIdle capacity count { s with
          uploadBytes := s.uploadBytes - victim.capacity
          idleUploads := s.idleUploads.erase victim }

/-- A new upload page becomes the active one; nothing when the device threw. -/
def createUploadPage (answers : UploadAnswers) (capacity : ℕ) (s : SkinResources) :
    Option Bool × SkinResources :=
  match answers.buffer with
  | .threw => (none, s)
  | .null => (some false, s)
  | .created =>
    let page : UploadPage := ⟨⟨s.buffers, uploadBufferInfo capacity⟩, capacity, 0, none, 0⟩
    let s := { s with buffers := s.buffers + 1 }
    if !answers.mapped then (some false, s)
    else (some true, { s with
      uploadBytes := s.uploadBytes + capacity, activeUpload := some page })

/-- The page that is still active leaves its place, into the pending ones if it was written. -/
def leaveActive (s : SkinResources) : SkinResources :=
  match s.activeUpload with
  | none => s
  | some page =>
    if page.cursor ≠ 0 then
      { s with pendingUploads := s.pendingUploads ++ [page], activeUpload := none }
    else
      { s with uploadBytes := s.uploadBytes - page.capacity, activeUpload := none }

/-- `ensureUploadPage` once the active page is known not to do. -/
def replaceUploadPage (answers : UploadAnswers) (requiredBytes : ℕ) (s : SkinResources) :
    Option Bool × SkinResources :=
  match s.leaveActive.pollRetired cfg answers.poll with
  | (false, s) => (none, s)
  | (true, s) =>
    match PackageStore.tryAlignUp requiredBytes kMinUploadPageBytes with
    | none => (some false, s)
    | some rounded =>
      let capacity := max kMinUploadPageBytes rounded
      if capacity > kMaxUploadPageBytes then (some false, s)
      else
        match s.reusablePage requiredBytes with
        | some page => (some true, { s with
            idleUploads := s.idleUploads.erase page, activeUpload := some (recycle page) })
        | none =>
          if capacity > cfg.uploadBytes then (some false, s)
          else
            let s := s.evictIdle cfg capacity s.idleUploads.length
            if !s.fitsUploadBudget cfg capacity then (some false, s)
            else s.createUploadPage answers capacity

/-- `ensureUploadPage`; nothing when it threw. -/
def ensureUploadPage (answers : UploadAnswers) (requiredBytes : ℕ) (s : SkinResources) :
    Option Bool × SkinResources :=
  if !s.device || requiredBytes = 0 || requiredBytes > kMaxUploadPageBytes then (some false, s)
  else
    match s.activeUpload with
    | none => s.replaceUploadPage cfg answers requiredBytes
    | some page =>
      match PackageStore.tryAlignUp page.cursor s.storageBufferOffsetAlignment with
      | none => (some false, s)
      | some offset =>
        if offset ≤ page.capacity ∧ requiredBytes ≤ page.capacity - offset then (some true, s)
        else s.replaceUploadPage cfg answers requiredBytes

/-- `allocateBatchUpload`: the slices of the palette and of the jobs, or why there are none; nothing
when it threw. -/
def allocateBatchUpload (answers : UploadAnswers) (paletteByteCount jobByteCount : ℕ)
    (s : SkinResources) : Option (Except GpuSkinFallbackReason (BufferSlice × BufferSlice)) ×
      SkinResources :=
  if paletteByteCount = 0 ∨ jobByteCount = 0 then (some (.error .invalidJob), s)
  else
    match PackageStore.tryAlignUp paletteByteCount s.storageBufferOffsetAlignment with
    | none => (some (.error .uploadBudgetExhausted), s)
    | some jobOffset =>
      if jobOffset > kMaxUploadPageBytes ∨ jobByteCount > kMaxUploadPageBytes - jobOffset then
        (some (.error .uploadBudgetExhausted), s)
      else
        match s.ensureUploadPage cfg answers (jobOffset + jobByteCount) with
        | (none, s) => (none, s)
        | (some false, s) => (some (.error .uploadBudgetExhausted), s)
        | (some true, s) =>
          match s.activeUpload with
          | none => (some (.error .uploadBudgetExhausted), s)
          | some page =>
            match PackageStore.tryAlignUp page.cursor s.storageBufferOffsetAlignment with
            | none => (some (.error .uploadBudgetExhausted), s)
            | some baseOffset =>
              if baseOffset > page.capacity ∨ jobOffset > page.capacity - baseOffset ∨
                  jobByteCount > page.capacity - baseOffset - jobOffset then
                (some (.error .uploadBudgetExhausted), s)
              else
                (some (.ok (⟨some page.buffer, baseOffset, paletteByteCount⟩,
                    ⟨some page.buffer, baseOffset + jobOffset, jobByteCount⟩)),
                  { s with activeUpload := some { page with
                      cursor := baseOffset + jobOffset + jobByteCount } })

/-- `allocatePaletteUpload`: the slice of the palette, or why there is none; nothing when it threw. -/
def allocatePaletteUpload (answers : UploadAnswers) (paletteByteCount : ℕ) (s : SkinResources) :
    Option (Except GpuSkinFallbackReason BufferSlice) × SkinResources :=
  if paletteByteCount = 0 then (some (.error .invalidPalette), s)
  else if paletteByteCount > kMaxUploadPageBytes then (some (.error .uploadBudgetExhausted), s)
  else
    match s.ensureUploadPage cfg answers paletteByteCount with
    | (none, s) => (none, s)
    | (some false, s) => (some (.error .uploadBudgetExhausted), s)
    | (some true, s) =>
      match s.activeUpload with
      | none => (some (.error .uploadBudgetExhausted), s)
      | some page =>
        match PackageStore.tryAlignUp page.cursor s.storageBufferOffsetAlignment with
        | none => (some (.error .uploadBudgetExhausted), s)
        | some baseOffset =>
          if baseOffset > page.capacity ∨ paletteByteCount > page.capacity - baseOffset then
            (some (.error .uploadBudgetExhausted), s)
          else
            (some (.ok ⟨some page.buffer, baseOffset, paletteByteCount⟩),
              { s with activeUpload := some { page with cursor := baseOffset + paletteByteCount } })

/-- `retireUploads`. -/
def retireUploads (fence : Option ℕ) (value : UInt64) (s : SkinResources) : Bool × SkinResources :=
  if s.activeUpload.isNone && s.pendingUploads.isEmpty then (true, s)
  else if fence.isNone || value = 0 then (false, s)
  else
    (true, { s with
      retiredUploads := s.retiredUploads ++
        (s.pendingUploads ++ s.activeUpload.toList).map fun page =>
          { page with fence := fence, retireValue := value }
      pendingUploads := []
      activeUpload := none })

/-- `discardUploads`. -/
def discardUploads (s : SkinResources) : SkinResources :=
  { s with
    uploadBytes := s.uploadBytes -
      ((s.pendingUploads ++ s.activeUpload.toList).map UploadPage.capacity).sum
    pendingUploads := []
    activeUpload := none }

end SkinResources

/-! ## Calls -/

inductive PackageCall
  | findOrQueueStatic (cache : ModelCache) (record : Option Snapshot) (layoutGeneration : ℕ)
  | probeStatic (cache : ModelCache) (stamp : ResourceStamp) (layoutGeneration : ℕ)
  | prepareQueuedStaticResources (answers : ℕ → DeviceAnswers) (maxRecords : ℕ)
  | takeStaticUploads
  | retireStaticUploads (allocates : Bool) (uploads : List GpuSkinStaticUpload) (fence : Option ℕ)
      (value : UInt64)

def PackageCall.storeCall : PackageCall → StoreCall
  | .findOrQueueStatic cache record layoutGeneration => .findOrQueueStatic cache record layoutGeneration
  | .probeStatic cache stamp layoutGeneration => .probeStatic cache stamp layoutGeneration
  | .prepareQueuedStaticResources answers maxRecords =>
    .prepareQueuedStaticResources answers maxRecords
  | .takeStaticUploads => .takeStaticUploads
  | .retireStaticUploads allocates uploads fence value =>
    .retireStaticUploads allocates uploads fence value

inductive ResourceCall
  | beginFrame (mapEpoch deviceEpoch frameTag : UInt64) (answers : PollAnswers)
  | invalidateMapEpoch (nextMapEpoch : UInt64)
  | invalidateDevice (device : Bool) (nextDeviceEpoch : UInt64) (deviceAlignment : ℕ)
  | reset
  | package (call : PackageCall)
  | allocateBatchUpload (answers : UploadAnswers) (paletteByteCount jobByteCount : ℕ)
  | allocatePaletteUpload (answers : UploadAnswers) (paletteByteCount : ℕ)
  | retireUploads (fence : Option ℕ) (value : UInt64)
  | discardUploads
  | allocateOutput (answers : OutputAnswers) (desc : OutputLeaseDesc)
  | retireOutput (grows : Bool) (lease : OutputLease) (fence : Option ℕ) (value : UInt64)
  | discardOutput (lease : OutputLease)
  | pollRetired (answers : PollAnswers)

inductive ResourceOutput
  | done
  | threw
  | flag (result : Bool)
  | package (result : StoreOutput)
  | slices (result : Except GpuSkinFallbackReason (BufferSlice × BufferSlice))
  | slice (result : Except GpuSkinFallbackReason BufferSlice)
  | lease (result : OutputLease)

def orThrew {α : Type} (output : α → ResourceOutput) : Option α → ResourceOutput
  | some result => output result
  | none => .threw

def resourceStep (cfg : ResourceSetup) (call : ResourceCall) (s : SkinResources) :
    ResourceOutput × SkinResources :=
  match call with
  | .beginFrame mapEpoch deviceEpoch frameTag answers =>
    let (result, s) := s.beginFrame cfg mapEpoch deviceEpoch frameTag answers
    (orThrew .flag result, s)
  | .invalidateMapEpoch nextMapEpoch => (.done, s.invalidateMapEpoch nextMapEpoch)
  | .invalidateDevice device nextDeviceEpoch deviceAlignment =>
    (.done, s.invalidateDevice device nextDeviceEpoch deviceAlignment)
  | .reset => (.done, s.reset)
  | .package call =>
    let (result, packages) := storeStep cfg.store call.storeCall s.persistentPackages
    (.package result, { s with persistentPackages := packages })
  | .allocateBatchUpload answers paletteByteCount jobByteCount =>
    let (result, s) := s.allocateBatchUpload cfg answers paletteByteCount jobByteCount
    (orThrew .slices result, s)
  | .allocatePaletteUpload answers paletteByteCount =>
    let (result, s) := s.allocatePaletteUpload cfg answers paletteByteCount
    (orThrew .slice result, s)
  | .retireUploads fence value =>
    let (result, s) := s.retireUploads fence value
    (.flag result, s)
  | .discardUploads => (.done, s.discardUploads)
  | .allocateOutput answers desc =>
    let (result, s) := s.allocateOutput cfg answers desc
    (orThrew .lease result, s)
  | .retireOutput grows lease fence value =>
    let (result, s) := s.retireOutput grows lease fence value
    (orThrew .flag result, s)
  | .discardOutput lease => (.done, s.discardOutput lease)
  | .pollRetired answers =>
    let (finished, s) := s.pollRetired cfg answers
    (if finished then .done else .threw, s)

end War3VK.GpuSkin
