import Mathlib.Data.List.FinRange
import Mathlib.Algebra.BigOperators.Fin
import Mathlib.Data.List.Induction
import War3VK.Lib.Chains
import War3VK.Lib.Window

/-!
# The repair of Storm's free lists

`StormNativeSmallRepair_RepairFreeLists`
(`src/d3d9/war3/memory/war3_storm_native_small_repair.cpp`): when the free list that an allocation
looks into has blocks but none that is large enough, a block of a higher list is moved to its front.
The arena and its blocks belong to the game, so what they hold is arbitrary. Pointers are 32-bit
addresses. A plausible block starts at a multiple of 8 behind the arena's header, so two of them do not
overlap, and each address has the block that is read there.
-/

namespace War3VK.Memory.StormRepair

/-! ## The arena -/

/-- `StormNativeFreeBlock`. -/
structure FreeBlock where
  totalBytes : UInt16
  alignmentPadding : UInt8
  flags : UInt8
  next : UInt32
  deriving DecidableEq, Repr

/-- `StormNativeArena`, with the blocks that its memory has. -/
structure Arena where
  address : UInt32
  dataStart : UInt32
  bumpEnd : UInt32
  committedBytes : UInt32
  reservedBytes : UInt32
  freeBins : Fin 9 → UInt32
  blocks : UInt32 → FreeBlock

/-- `kFreeFlag`. -/
def kFreeFlag : UInt8 := 0x02

namespace Arena

/-- `IsFreeBlockPlausible`. -/
def isFreeBlockPlausible (arena : Arena) (block : UInt32) : Bool :=
  let total := (arena.blocks block).totalBytes.toUInt32
  block ≠ 0 && block ≥ arena.dataStart && block + 8 ≤ arena.bumpEnd && block &&& 7 = 0 &&
    total ≥ 8 && total &&& 7 = 0 && block + total ≤ arena.bumpEnd &&
    (arena.blocks block).flags &&& kFreeFlag ≠ 0

/-- `blockBin`: the bin of a size, from 32 bytes to 32 bytes. -/
def binOf (totalBytes : ℕ) : Fin 9 := ⟨min (totalBytes / 32) 8, by omega⟩

def total (arena : Arena) (block : UInt32) : ℕ := (arena.blocks block).totalBytes.toNat

def next (arena : Arena) (block : UInt32) : UInt32 := (arena.blocks block).next

inductive Link
  /-- `&arena->freeBins[bin]`. -/
  | head (bin : Fin 9)
  /-- `&block->next`. -/
  | behind (block : UInt32)
  deriving DecidableEq, Repr

def read (arena : Arena) : Link → UInt32
  | .head bin => arena.freeBins bin
  | .behind block => arena.next block

def write (arena : Arena) (link : Link) (block : UInt32) : Arena :=
  match link with
  | .head bin => { arena with freeBins := Function.update arena.freeBins bin block }
  | .behind before =>
    { arena with
      blocks := Function.update arena.blocks before { arena.blocks before with next := block } }

/-! ## The search in a bin -/

/-- `Candidate`: a block and the link to it, if there is one. -/
structure Candidate where
  /-- `block` and `link`. -/
  found : Option (UInt32 × Link) := none
  valid : Bool := true
  deriving DecidableEq, Repr

def Candidate.malformed : Candidate := { valid := false }

/-- The loop of `FindCandidate`, with the number of nodes that it may still visit. -/
def scan (arena : Arena) (bin : Fin 9) (required : ℕ) :
    ℕ → Link → ℕ → ℕ → Option (UInt32 × Link) → Candidate
  | 0, link, _, _, found => if arena.read link = 0 then { found } else .malformed
  | remaining + 1, link, bestRemainder, tolerance, found =>
    let block := arena.read link
    if block = 0 then { found }
    else if !arena.isFreeBlockPlausible block then .malformed
    else if binOf (arena.total block) ≠ bin then .malformed
    else if arena.total block ≥ required then
      let remainder := arena.total block - required
      if remainder < bestRemainder then
        -- A block that leaves little ends the search; the better the best one, the sooner.
        if remainder < tolerance then { found := some (block, link) }
        else scan arena bin required remaining (.behind block) remainder (tolerance + 4)
          (some (block, link))
      else scan arena bin required remaining (.behind block) bestRemainder tolerance found
    else scan arena bin required remaining (.behind block) bestRemainder tolerance found

end Arena

end War3VK.Memory.StormRepair

/-!
## What the repair does to the lists

The search in a bin walks from its head, and all that it walked over is of that bin (`scan_spec`). A
search that finds nothing has seen the whole list. A block that is found has a link that the walk came
by, so that writing what is behind the block into it unlinks the block, and nothing else.
-/

namespace War3VK.Memory.StormRepair

open Lib Arena

variable {arena : Arena} {bin target : Fin 9} {required : ℕ}

/-! ### The search -/

structure InBin (arena : Arena) (bin : Fin 9) (block : UInt32) : Prop where
  nonnull : block ≠ 0
  passes : arena.isFreeBlockPlausible block = true
  bin : binOf (arena.total block) = bin

def ListOf (arena : Arena) (bin : Fin 9) (blocks : List UInt32) : Prop :=
  Ends arena.next 0 (arena.freeBins bin) blocks

def linkBehind (bin : Fin 9) (walked : List UInt32) : Link :=
  (walked.getLast?).elim (.head bin) .behind

structure Walked (arena : Arena) (bin : Fin 9) (walked : List UInt32) (block : UInt32) : Prop where
  leads : Leads arena.next (arena.freeBins bin) walked block
  inBin : ∀ b ∈ walked, InBin arena bin b

structure Chosen (arena : Arena) (bin : Fin 9) (required : ℕ) (block : UInt32) (link : Link) :
    Prop where
  inBin : InBin arena bin block
  fits : required ≤ arena.total block
  link : ∃ before, Walked arena bin before block ∧ link = linkBehind bin before

structure Searching (arena : Arena) (bin : Fin 9) (required : ℕ) (walked : List UInt32)
    (link : Link) (bestRemainder : ℕ) (found : Option (UInt32 × Link)) : Prop where
  walk : Walked arena bin walked (arena.read link)
  last : link = linkBehind bin walked
  chosen : ∀ block link', found = some (block, link') → Chosen arena bin required block link'
  /-- When it found nothing, nothing was large enough. -/
  nothing : found = none → bestRemainder = 0x7FFFFFFF ∧ ∀ b ∈ walked, arena.total b < required

structure Searched (arena : Arena) (bin : Fin 9) (required : ℕ)
    (found : Option (UInt32 × Link)) : Prop where
  chosen : ∀ block link, found = some (block, link) → Chosen arena bin required block link
  /-- When it found nothing, the list ends and no block of it is large enough. -/
  nothing : found = none → ∃ blocks, ListOf arena bin blocks ∧
    ∀ b ∈ blocks, InBin arena bin b ∧ arena.total b < required

variable {walked before blocks : List UInt32} {block : UInt32}

theorem Walked.concat (h : Walked arena bin walked block) (hblock : InBin arena bin block) :
    Walked arena bin (walked ++ [block]) (arena.read (.behind block)) := by
  refine ⟨leads_concat.mpr ⟨h.leads, rfl⟩, ?_⟩
  rw [List.forall_mem_append]
  exact ⟨h.inBin, by simpa using hblock⟩

theorem Searching.ends {link : Link} {bestRemainder : ℕ} {found : Option (UInt32 × Link)}
    (h : Searching arena bin required walked link bestRemainder found)
    (hend : arena.read link = 0) : Searched arena bin required found := by
  refine ⟨h.chosen, fun hnothing => ⟨walked, ⟨?_, fun hmem => ?_⟩, fun b hb => ?_⟩⟩
  · exact hend ▸ h.walk.leads
  · exact (h.walk.inBin 0 hmem).nonnull rfl
  · exact ⟨h.walk.inBin b hb, (h.nothing hnothing).2 b hb⟩

structure Moved (arena arena' : Arena) (target bin : Fin 9) (required : ℕ) (block : UInt32) :
    Prop where
  above : target < bin
  fits : required ≤ arena.total block
  /-- The list of the target bin ends, no block of it was large enough, and it has the block in front
  now. -/
  front : ∃ blocks, ListOf arena target blocks ∧ (∀ b ∈ blocks, arena.total b < required) ∧
    ListOf arena' target (block :: blocks)
  /-- The list of the other bin, if it ends, lost the block and kept its order. -/
  source : ∀ blocks, ListOf arena bin blocks → ∃ before after, blocks = before ++ block :: after ∧
    ListOf arena' bin (before ++ after)
  /-- The list of a third bin that ends is the same, unless the block was in it too. -/
  others : ∀ other, other ≠ bin → other ≠ target → ∀ blocks, ListOf arena other blocks →
    block ∉ blocks → ListOf arena' other blocks
  sizes : ∀ b, arena'.total b = arena.total b

theorem Moved.kept {arena' : Arena} (h : Moved arena arena' target bin required block)
    {lists : Fin 9 → List UInt32} (hlists : ∀ b, ListOf arena b (lists b))
    (honly : ∀ other, other ≠ bin → block ∉ lists other) :
    ∃ lists' : Fin 9 → List UInt32, (∀ b, ListOf arena' b (lists' b)) ∧
      ∀ c, ∑ b, (lists' b).count c = ∑ b, (lists b).count c := by
  obtain ⟨blocks, hblocks, -, htarget⟩ := h.front
  obtain rfl := Ends.unique hblocks (hlists target)
  obtain ⟨before, after, hsplit, hsource⟩ := h.source _ (hlists bin)
  have hne : target ≠ bin := ne_of_lt h.above
  refine ⟨Function.update (Function.update lists bin (before ++ after)) target
    (block :: lists target), fun b => ?_, fun c => ?_⟩
  · by_cases hb : b = target
    · rw [hb, Function.update_self]
      exact htarget
    · rw [Function.update_of_ne hb]
      by_cases hb' : b = bin
      · rw [hb', Function.update_self]
        exact hsource
      · rw [Function.update_of_ne hb']
        exact h.others b hb' hb _ (hlists b) (honly b hb')
  · have hsum := sum_update (List.count c) (Function.update lists bin (before ++ after)) target
      (block :: lists target)
    have hsum' := sum_update (List.count c) lists bin (before ++ after)
    rw [Function.update_of_ne hne] at hsum
    rw [hsplit] at hsum'
    simp only [List.count_cons, List.count_append] at hsum hsum'
    omega

end War3VK.Memory.StormRepair
