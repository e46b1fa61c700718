import Mathlib

/-!
# The adaptive memory budget

What the shadow arena asks before it grows, and how many pages it keeps
(`src/src/d3d9/war3/memory/war3_adaptive_memory_budget.h`, `war3_shadow_arena_budget.h` and
`war3_memory_budget_sample.h`). What the system reports is an argument. No sum or product here
comes near the end of its 64 bits but the one that the source saturates, so all sizes are natural
numbers.
-/

namespace War3VK.Memory

/-- `MemoryMiB`. -/
def memoryMiB : ℕ := 1024 * 1024

/-- `struct BudgetGrowthRetryGate`. -/
structure BudgetGrowthRetryGate where
  valid : Bool := false
  frame : ℕ := 0
  minimumBytes : ℕ := 0
deriving DecidableEq, Repr

/-- `refused`. -/
def BudgetGrowthRetryGate.refused (g : BudgetGrowthRetryGate) (f bytes : ℕ) : Bool :=
  g.valid ∧ g.frame = f ∧ bytes ≥ g.minimumBytes

/-- `refuse`. -/
def BudgetGrowthRetryGate.refuse (g : BudgetGrowthRetryGate) (f bytes : ℕ) :
    BudgetGrowthRetryGate where
  valid := true
  frame := f
  minimumBytes := if g.valid ∧ g.frame = f then min g.minimumBytes bytes else bytes

/-- `struct AdaptiveBudgetInput`. -/
structure AdaptiveBudgetInput where
  supported : Bool := false
  /-- Whether the heap is known and local to the device. -/
  heapValid : Bool := false
  vaValid : Bool := false
  heapSize : ℕ := 0
  budget : ℕ := 0
  committed : ℕ := 0
  availableVA : ℕ := 0
  resident : ℕ := 0
  hardCap : ℕ := 0
  fallbackCap : ℕ := 0
  pageBytes : ℕ := 0
  quotaEighths : ℕ := 1
deriving DecidableEq, Repr

/-- `struct AdaptiveBudgetDecision`. -/
structure AdaptiveBudgetDecision where
  trusted : Bool := false
  vaPressure : Bool := true
  target : ℕ := 0
  headroom : ℕ := 0
  reserve : ℕ := 0
deriving DecidableEq, Repr

/-- `DecideAdaptiveMemoryBudget`. -/
def decideAdaptiveMemoryBudget (i : AdaptiveBudgetInput) : AdaptiveBudgetDecision :=
  if i.pageBytes = 0 ∨ i.quotaEighths = 0 ∨ i.quotaEighths > 8 then {}
  else
    let vaPressure : Bool := !i.vaValid ∨ i.availableVA < 256 * memoryMiB
    let trusted : Bool :=
      i.supported ∧ i.heapValid ∧ i.heapSize ≠ 0 ∧ i.budget ≠ 0 ∧ i.budget ≤ i.heapSize
    let reserve := if trusted then max (512 * memoryMiB) (i.budget / 8) else 0
    let fallback := min i.fallbackCap i.hardCap
    let headroom :=
      if trusted then i.budget - i.committed - reserve else fallback - i.resident
    let target :=
      if trusted then
        if headroom = 0 then 0 else min i.hardCap (i.budget / 8 * i.quotaEighths)
      else fallback
    if vaPressure then ⟨trusted, true, 0, 0, reserve⟩
    else ⟨trusted, false, target - target % i.pageBytes, headroom, reserve⟩

theorem decideAdaptiveMemoryBudget_target_le (i : AdaptiveBudgetInput) :
    (decideAdaptiveMemoryBudget i).target ≤ i.hardCap := by
  unfold decideAdaptiveMemoryBudget
  dsimp only
  split_ifs
  all_goals first
    | exact Nat.zero_le _
    | exact Nat.le_trans (Nat.sub_le _ _) (by omega)

/-- `ResolveShadowArenaMemoryBudget`, the field `effectiveResidentLimitBytes`. -/
def resolveShadowArenaMemoryBudget (i : AdaptiveBudgetInput) : ℕ :=
  let adaptive := decideAdaptiveMemoryBudget i
  min adaptive.target (min (2^64 - 1) (i.resident + adaptive.headroom))

/-- `ShadowArenaCanGrowResident`. -/
def shadowArenaCanGrowResident (resident growth limit : ℕ) : Bool :=
  growth ≤ limit ∧ resident ≤ limit - growth

structure Heap where
  deviceLocal : Bool
  heapSize : ℕ
  memoryBudget : ℕ
  memoryCommitted : ℕ

structure MemoryStatus where
  /-- The address space that is left, when it could be measured. -/
  availVirtual : Option ℕ
  extMemoryBudget : Bool
  heaps : List Heap

/-- `SampleShadowMemoryBudget`, with a device; a heap that is not known is `none`. -/
def sampleShadowMemoryBudget (status : MemoryStatus) (heapIndex : Option ℕ)
    (resident hardCap fallbackCap pageBytes quotaEighths : ℕ) : AdaptiveBudgetInput :=
  let i : AdaptiveBudgetInput :=
    { resident, hardCap, fallbackCap, pageBytes, quotaEighths
      vaValid := status.availVirtual.isSome
      availableVA := status.availVirtual.getD 0
      supported := status.extMemoryBudget }
  match heapIndex.bind (status.heaps[·]?) with
  | some heap =>
    if status.extMemoryBudget then
      { i with
        heapValid := heap.deviceLocal
        heapSize := heap.heapSize
        budget := heap.memoryBudget
        committed := heap.memoryCommitted }
    else i
  | none => i

theorem sampleShadowMemoryBudget_hardCap (status : MemoryStatus) (heapIndex : Option ℕ)
    (resident hardCap fallbackCap pageBytes quotaEighths : ℕ) :
    (sampleShadowMemoryBudget status heapIndex resident hardCap fallbackCap pageBytes
      quotaEighths).hardCap = hardCap := by
  unfold sampleShadowMemoryBudget
  dsimp only
  split
  · split_ifs <;> rfl
  · rfl

/-- `struct ArenaTrimHistory`. -/
structure ArenaTrimHistory where
  windowStart : ℕ := 0
  peak : ℕ := 0
deriving DecidableEq, Repr

/-- `target`: the bytes to keep, and the history after the call. -/
def ArenaTrimHistory.target (h : ArenaTrimHistory) (frame used capacity pageBytes : ℕ)
    (pressure : Bool) : ℕ × ArenaTrimHistory :=
  let peak := max h.peak used
  let windowStart := if h.windowStart = 0 ∨ frame < h.windowStart then frame else h.windowStart
  if !pressure ∧ frame - windowStart < 120 then (capacity, ⟨windowStart, peak⟩)
  else
    let demand := if pressure then used else peak
    let pages := demand / pageBytes + (if demand % pageBytes ≠ 0 then 1 else 0)
    let keep := min capacity ((pages + 1) * pageBytes)
    let h := if frame - windowStart ≥ 120 then ⟨frame, 0⟩ else ⟨windowStart, peak⟩
    (if keep < capacity then max keep (capacity - pageBytes) else capacity, h)

end War3VK.Memory
