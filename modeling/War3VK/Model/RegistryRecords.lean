import War3VK.Lib.Binary32
import War3VK.Lib.Tally
import War3VK.Model.GeosetRecord

/-!
# What the registries of objects share

The registries of model instances, poses and shadow objects merge records field by field, and read the
memory of the game when a record is not complete (`src/d3d9/war3/model/war3_model_registry.cpp`,
`src/d3d9/war3/render/war3_shadow_object_registry.cpp`, `src/d3d9/war3/game/war3_unit.cpp` and
`src/d3d9/war3/core/war3_memory.h`). What a call reads of the memory, and what the other registries
answer it, is `Outside`, which may be anything in each call.
-/

namespace War3VK.Model

open Lib

/-! ## Fields -/

def carry {α : Type} [DecidableEq α] (unset dst src : α) : α := if src ≠ unset then src else dst

/-- The frame that comes first, where `0` is none. -/
def earliest (dst src : UInt64) : UInt64 := if dst = 0 ∨ (src ≠ 0 ∧ src < dst) then src else dst

def latest (dst src : UInt64) : UInt64 := if src > dst then src else dst

section

variable {α : Type} [DecidableEq α] (unset a : α) (frame : UInt64)

@[simp]
theorem carry_self : carry unset a a = a := by
  unfold carry
  split <;> rfl

@[simp]
theorem carry_from_unset : carry unset unset a = a := by
  unfold carry
  split
  · rfl
  · rename_i h
    exact (not_not.mp h).symm

@[simp]
theorem carry_unset : carry unset a unset = a := by
  unfold carry
  exact if_neg fun h => h rfl

theorem carry_of_agrees {unset dst src : α} (h : src ≠ unset → dst = src) :
    carry unset dst src = dst := by
  unfold carry
  split
  · exact (h ‹_›).symm
  · rfl

@[simp]
theorem earliest_self : earliest frame frame = frame := by
  unfold earliest
  split <;> rfl

@[simp]
theorem earliest_from_zero : earliest 0 frame = frame := if_pos (.inl rfl)

@[simp]
theorem latest_self : latest frame frame = frame := by
  unfold latest
  split <;> rfl

@[simp]
theorem latest_from_zero : latest 0 frame = frame := by
  unfold latest
  split
  · rfl
  · rename_i h
    exact (UInt64.toNat_inj.mp (Nat.le_zero.mp (UInt64.le_iff_toNat_le.mp (UInt64.not_lt.mp h)))).symm

end

/-! ## Floats -/

/-- The word of `1.0f`. -/
def one32 : UInt32 := 0x3f800000

/-- `Matrix4`, with the bit patterns of its floats. -/
abbrev Matrix4 := Fin 4 → Fin 4 → UInt32

/-- `Matrix4()`. -/
def Matrix4.identity : Matrix4 := fun i j => if i = j then one32 else 0

/-- `Matrix4::operator==`. -/
def Matrix4.eq (a b : Matrix4) : Bool := decide (∀ i j, Binary32.eq (a i j) (b i j) = true)

variable {b : Matrix4}

theorem Matrix4.eq_iff {a : Matrix4} :
    Matrix4.eq a b = true ↔ ∀ i j, Binary32.eq (a i j) (b i j) = true := decide_eq_true_iff

theorem Matrix4.eq_symm {a : Matrix4} (h : Matrix4.eq a b = true) : Matrix4.eq b a = true :=
  Matrix4.eq_iff.mpr fun i j => Binary32.eq_symm (Matrix4.eq_iff.mp h i j)

theorem Matrix4.eq_trans {a c : Matrix4} (h : Matrix4.eq a b = true) (k : Matrix4.eq b c = true) :
    Matrix4.eq a c = true :=
  Matrix4.eq_iff.mpr fun i j =>
    Binary32.eq_trans (Matrix4.eq_iff.mp h i j) (Matrix4.eq_iff.mp k i j)

/-- `if (src.field != 0.0f) dst.field = src.field`. -/
def carryFloat (dst src : UInt32) : UInt32 := if Binary32.ne src 0 then src else dst

/-- `if (src.scale != 1.0f || dst.scale == 0.0f) dst.scale = src.scale`. -/
def carryScale (dst src : UInt32) : UInt32 :=
  if Binary32.ne src one32 || Binary32.eq dst 0 then src else dst

variable {s t : UInt32}

theorem eq_carryFloat {d : UInt32} (hd : Binary32.eq d t = true) (hs : Binary32.eq s t = true) :
    Binary32.eq (carryFloat d s) t = true := by
  unfold carryFloat
  split
  · exact hs
  · exact hd

theorem eq_carryScale {d : UInt32} (hd : Binary32.eq d t = true) (hs : Binary32.eq s t = true) :
    Binary32.eq (carryScale d s) t = true := by
  unfold carryScale
  split
  · exact hs
  · exact hd

theorem eq_carryFloat_zero (hs : Binary32.eq s t = true) :
    Binary32.eq (carryFloat 0 s) t = true := by
  unfold carryFloat
  split
  · exact hs
  · exact Binary32.eq_trans (Binary32.eq_symm (Binary32.eq_of_not_ne ‹_›)) hs

theorem eq_carryScale_one (hs : Binary32.eq s t = true) :
    Binary32.eq (carryScale one32 s) t = true := by
  unfold carryScale
  split
  · exact hs
  · rename_i h
    rw [Bool.or_eq_true, not_or] at h
    exact Binary32.eq_trans (Binary32.eq_symm (Binary32.eq_of_not_ne h.1)) hs

/-! ## Outcomes -/

section

variable {ε : Type} [DecidableEq ε]

def firstMiss (hit : ε) (outcomes : List ε) : ε := (outcomes.find? (· ≠ hit)).getD hit

theorem firstMiss_eq_hit {hit : ε} {outcomes : List ε} :
    firstMiss hit outcomes = hit ↔ ∀ outcome ∈ outcomes, outcome = hit := by
  unfold firstMiss
  cases hfind : outcomes.find? (· ≠ hit) with
  | none =>
    rw [List.find?_eq_none] at hfind
    simpa using hfind
  | some outcome =>
    have hmem := List.mem_of_find?_eq_some hfind
    have hne : outcome ≠ hit := by simpa using List.find?_some hfind
    exact iff_of_false hne fun h => hne (h outcome hmem)

end

/-! ## Tables -/

/-- An `unordered_map`. -/
abbrev Table (κ ρ : Type) := κ → Option ρ

def Table.find {κ ρ : Type} [DecidableEq κ] [OfNat κ 0] (table : Table κ ρ) (key : κ) : Option ρ :=
  if key ≠ 0 then table key else none

/-- `map[key] = record`. -/
def Table.put {κ ρ : Type} [DecidableEq κ] (table : Table κ ρ) (key : κ) (record : ρ) : Table κ ρ :=
  Function.update table key (some record)

variable {κ ρ : Type}

@[simp]
theorem Table.put_self [DecidableEq κ] (table : Table κ ρ) (key : κ) (record : ρ) :
    table.put key record key = some record := Function.update_self _ _ _

variable {key : κ} {table : Table κ ρ}

@[simp]
theorem Table.put_of_ne [DecidableEq κ] (table : Table κ ρ) {other : κ} (record : ρ)
    (h : other ≠ key) : table.put key record other = table other :=
  Function.update_of_ne h _ _

theorem Table.find_of_ne [DecidableEq κ] [OfNat κ 0] (h : key ≠ 0) :
    table.find key = table key := if_pos h

theorem Table.find_zero [DecidableEq κ] [OfNat κ 0] :
    table.find 0 = none := if_neg fun h => h rfl

theorem Table.eq_of_find [DecidableEq κ] [OfNat κ 0] {c r : ρ} (h : key ≠ 0 → table key = some c)
    (hfind : table.find key = some r) : r = c := by
  by_cases hkey : key = 0
  · rw [hkey, find_zero] at hfind
    cases hfind
  · rw [find_of_ne hkey, h hkey] at hfind
    exact (Option.some.inj hfind).symm

theorem Table.put_eq_self [DecidableEq κ] {record : ρ} (h : table key = some record) :
    table.put key record = table := by
  unfold put
  rw [← h]
  exact Function.update_eq_self _ _

def Table.records {ρ : Type} (table : Table UInt32 ρ) : List ρ :=
  (List.range (2 ^ 32)).filterMap fun n => table (UInt32.ofNat n)

theorem Table.countP_put_of_lt (table : Table UInt32 ρ) (key : UInt32) (record : ρ) (f : ρ → Bool)
    (bound : ℕ) (hbound : ∀ n < bound, (UInt32.ofNat n).toNat = n) (hkey : key.toNat < bound) :
    ((List.range bound).filterMap fun n => table.put key record (UInt32.ofNat n)).countP f +
        ((table key).any f).toNat =
      ((List.range bound).filterMap fun n => table (UInt32.ofNat n)).countP f + (f record).toNat := by
  have hback : UInt32.ofNat key.toNat = key := UInt32.ofNat_toNat
  have hany (o : Option ρ) : (o.map f).getD false = o.any f := by cases o <;> rfl
  have hcount := countP_of_ne (p := fun n => (table (UInt32.ofNat n)).any f)
    (q := fun n => (table.put key record (UInt32.ofNat n)).any f) (a := key.toNat)
    (List.nodup_range (n := bound)) (List.mem_range.mpr hkey) fun n hn hne => by
      have hkeyn : UInt32.ofNat n ≠ key := fun heq => hne (by
        rw [← heq, hbound n (List.mem_range.mp hn)])
      rw [put_of_ne _ _ hkeyn]
  rw [List.countP_filterMap, List.countP_filterMap]
  simpa only [hany, hback, put_self, Option.any_some] using hcount

theorem Table.countP_put (table : Table UInt32 ρ) (key : UInt32) (record : ρ) (f : ρ → Bool) :
    (table.put key record).records.countP f + ((table key).any f).toNat =
      table.records.countP f + (f record).toNat :=
  countP_put_of_lt table key record f _
    (fun n hn => by rw [UInt32.toNat_ofNat', Nat.mod_eq_of_lt hn]) key.toNat_lt

theorem Table.records_empty : Table.records (fun _ => none : Table UInt32 ρ) = [] :=
  List.filterMap_eq_nil_iff.mpr fun _ _ => rfl

theorem Table.countP_records_le (table : Table UInt32 ρ) (f : ρ → Bool) :
    table.records.countP f ≤ 2 ^ 32 := by
  calc table.records.countP f ≤ table.records.length := List.countP_le_length
    _ ≤ (List.range (2 ^ 32)).length := List.length_filterMap_le _ _
    _ = 2 ^ 32 := List.length_range

/-! ## Counts -/

/-- The `assert` of `ReplaceTrackingClassificationCount`. -/
def trackingAssert (count : UInt64) (oldValue newValue : Bool) : Bool :=
  oldValue == newValue || !oldValue || count ≠ 0

/-- `ReplaceTrackingClassificationCount`. -/
def replaceTrackingClassificationCount (count : UInt64) (oldValue newValue : Bool) : UInt64 :=
  if oldValue = newValue then count
  else if oldValue then (if count ≠ 0 then count - 1 else count)
  else count + 1

def Table.scanned {ρ : Type} (table : Table UInt32 ρ) (f : ρ → Bool) : UInt64 :=
  table.records.foldl (fun count record => if f record then count + 1 else count) 0

theorem toNat_foldl_count (f : ρ → Bool) (records : List ρ) (count : UInt64)
    (h : count.toNat + records.countP f < 2 ^ 64) :
    (records.foldl (fun count record => if f record then count + 1 else count) count).toNat =
      count.toNat + records.countP f := by
  induction records generalizing count with
  | nil => rfl
  | cons record records ih =>
    rw [List.countP_cons] at h ⊢
    rw [List.foldl_cons]
    by_cases hf : f record = true
    · rw [if_pos hf] at h ⊢
      rw [if_pos hf]
      have hnext : (count + 1).toNat = count.toNat + 1 := by
        rw [UInt64.toNat_add, UInt64.toNat_one]
        exact Nat.mod_eq_of_lt (by omega)
      rw [ih _ (by omega), hnext]
      omega
    · rw [if_neg hf] at h ⊢
      rw [if_neg hf]
      exact ih _ h

theorem Table.toNat_scanned (table : Table UInt32 ρ) (f : ρ → Bool) :
    (table.scanned f).toNat = table.records.countP f := by
  have hle := table.countP_records_le f
  have hfold := toNat_foldl_count f table.records 0 (by rw [UInt64.toNat_zero]; omega)
  rwa [UInt64.toNat_zero, Nat.zero_add] at hfold

theorem Table.toNat_recount (table : Table UInt32 ρ) (key : UInt32) (record : ρ) (f : ρ → Bool)
    {count : UInt64} (h : count.toNat = table.records.countP f) :
    (replaceTrackingClassificationCount count ((table key).any f) (f record)).toNat =
        (table.put key record).records.countP f ∧
      trackingAssert count ((table key).any f) (f record) = true := by
  have hput := table.countP_put key record f
  have hle := (table.put key record).countP_records_le f
  unfold replaceTrackingClassificationCount trackingAssert
  cases hold : (table key).any f <;> cases hnew : f record <;> rw [hold, hnew] at hput
  · exact ⟨by simpa [h] using hput.symm, rfl⟩
  · refine ⟨?_, rfl⟩
    rw [if_neg Bool.false_ne_true, if_neg Bool.false_ne_true, UInt64.toNat_add, UInt64.toNat_one, h]
    simp only [Bool.toNat_false, Bool.toNat_true] at hput
    rw [Nat.mod_eq_of_lt (by omega)]
    omega
  · -- There was such a record, so the count is not zero.
    simp only [Bool.toNat_false, Bool.toNat_true] at hput
    have hpos : count ≠ 0 := fun hzero => by
      rw [hzero, UInt64.toNat_zero] at h
      omega
    refine ⟨?_, by simp [hpos]⟩
    have hone : (1 : UInt64) ≤ count := by
      rw [UInt64.le_iff_toNat_le, UInt64.toNat_one, h]
      omega
    rw [if_neg (by decide), if_pos rfl, if_pos hpos, UInt64.toNat_sub_of_le _ _ hone, UInt64.toNat_one, h]
    omega
  · exact ⟨by simpa [h] using hput.symm, rfl⟩

/-! ## Render objects -/

/-- `ObjectKind`. -/
inductive ObjectKind where
  | unknown
  | unit
  | building
  | destructible
  | item
  | effect
  deriving DecidableEq, Repr

/-- `RenderObjectInfo`, what the registries read of it. -/
structure RenderObjectInfo where
  worldObjectEntry : Ptr
  sceneNode : Ptr
  unitPtr : Ptr
  jHandle : UInt32
  rawcode : UInt32
  kind : ObjectKind

/-- `hasValidHandle`. -/
def RenderObjectInfo.hasValidHandle (info : RenderObjectInfo) : Bool := info.jHandle ≠ 0

def RenderObjectInfo.anonymous (info : RenderObjectInfo) : Bool :=
  info.worldObjectEntry = 0 && info.sceneNode = 0 && info.unitPtr = 0 && !info.hasValidHandle

/-- `ModelResourceRecord`, what the registries read of it. -/
structure ModelResourceRecord where
  spritePtr : Ptr
  runtimeModelPtr : Ptr
  modelResourcePtr : Ptr
  modelPath : List UInt8
  modelType : UInt32
  flags : UInt32
  modelKey : UInt64

/-! ## The memory of the game -/

structure GameMemory where
  isReadableRange : Ptr → UInt32 → Bool
  isReadableRangeFast : Ptr → UInt32 → Bool
  word : Ptr → UInt32

namespace GameMemory

/-- `SafeReadFast` of a word, where what cannot be read leaves the `0` it was set to. -/
def safeReadFast (m : GameMemory) (base : Ptr) (offset : UInt32) : Option UInt32 :=
  if m.isReadableRangeFast (base + offset) 4 then some (m.word (base + offset)) else none

/-- `SafeReadPtrFast(...) && out != nullptr`. -/
def hasPtr (m : GameMemory) (base : Ptr) (offset : UInt32) : Bool :=
  (m.safeReadFast base offset).any (· ≠ 0)

/-- `LooksLikeRuntimeModelPtr`. -/
def looksLikeRuntimeModelPtr (m : GameMemory) (candidate : Ptr) : Bool :=
  if candidate = 0 ∨ candidate < 0x10000 then false
  else
    let hasOwnedHandle := m.hasPtr candidate 0x9C
    let hasRuntimeGeosets :=
      (m.safeReadFast candidate 0x0C).any (· < 4096) && m.hasPtr candidate 0x10
    let hasFinalPoseArray :=
      (m.safeReadFast candidate 0x5C).any (· ≤ 256) && m.hasPtr candidate 0x60
    hasOwnedHandle || hasRuntimeGeosets || hasFinalPoseArray

theorem ne_zero_of_looksLike (m : GameMemory) {candidate : Ptr}
    (h : m.looksLikeRuntimeModelPtr candidate = true) : candidate ≠ 0 := by
  rintro rfl
  exact absurd h Bool.false_ne_true

/-- `TryReadRuntimeModelFromSprite`. -/
def tryReadRuntimeModelFromSprite (m : GameMemory) (spritePtr : Ptr) : Ptr :=
  if spritePtr = 0 then 0
  else
    match m.safeReadFast spritePtr 0x20 with
    | none => 0
    | some runtimeModelPtr => if m.looksLikeRuntimeModelPtr runtimeModelPtr then runtimeModelPtr else 0

/-- `UnitWrapper::IsValid`. -/
def unitIsValid (m : GameMemory) (unitPtr : Ptr) : Bool :=
  unitPtr ≠ 0 && m.isReadableRangeFast unitPtr 0x64

/-- `UnitWrapper::GetSprite`. -/
def unitGetSprite (m : GameMemory) (unitPtr : Ptr) : Ptr :=
  if m.unitIsValid unitPtr then (m.safeReadFast unitPtr 0x28).getD 0 else 0

/-- A list of links of `CollectRuntimeModelTreeForOwner`: the links that were visited, and the models
that are pending, after at most so many links. -/
def traverseLinks (m : GameMemory) : ℕ → Ptr → List Ptr → List Ptr → List Ptr × List Ptr
  | 0, _, visited, pending => (visited, pending)
  | rest + 1, linkNode, visited, pending =>
    if linkNode = 0 ∨ linkNode ∈ visited then (visited, pending)
    else
      let childRuntimeModel := (m.safeReadFast linkNode 8).getD 0
      let nextLinkNode := (m.safeReadFast linkNode 4).getD 0
      traverseLinks m rest nextLinkNode (linkNode :: visited)
        (if m.looksLikeRuntimeModelPtr childRuntimeModel then pending ++ [childRuntimeModel]
         else pending)

def traverseGroups (m : GameMemory) (currentRuntimeModel : Ptr) (visited pending : List Ptr) :
    List Ptr × List Ptr :=
  match m.safeReadFast currentRuntimeModel 0xC4, m.safeReadFast currentRuntimeModel 0xC8 with
  | some childGroupCount, some childGroupArray =>
    if childGroupCount = 0 ∨ childGroupArray = 0 ∨
        !m.isReadableRange childGroupArray (childGroupCount * 12) then (visited, pending)
    else
      (List.range childGroupCount.toNat).foldl (fun acc i =>
        let linkNode := (m.safeReadFast (childGroupArray + UInt32.ofNat i * 12) 8).getD 0
        m.traverseLinks 1024 linkNode acc.1 acc.2) (visited, pending)
  | _, _ => (visited, pending)

/-- The loop of `CollectRuntimeModelTreeForOwner` over the models that are pending. There are at most
256 when it goes on, so it goes round as often at most. -/
def collectPending (m : GameMemory) : ℕ → ℕ → List Ptr → List Ptr → List Ptr → List Ptr
  | 0, _, _, visitedRuntimeModels, _ => visitedRuntimeModels
  | rest + 1, cursor, pending, visitedRuntimeModels, visitedLinkNodes =>
    match pending[cursor]? with
    | none => visitedRuntimeModels
    | some currentRuntimeModel =>
      if 256 < pending.length then visitedRuntimeModels
      else if currentRuntimeModel = 0 ∨ currentRuntimeModel ∈ visitedRuntimeModels then
        collectPending m rest (cursor + 1) pending visitedRuntimeModels visitedLinkNodes
      else
        let (links, more) := m.traverseGroups currentRuntimeModel visitedLinkNodes pending
        collectPending m rest (cursor + 1) more (visitedRuntimeModels ++ [currentRuntimeModel]) links

/-- `CollectRuntimeModelTreeForOwner`, whose output are the models in the order of the visits. -/
def collectRuntimeModelTreeForOwner (m : GameMemory) (rootRuntimeModelPtr : Ptr) : List Ptr :=
  if m.looksLikeRuntimeModelPtr rootRuntimeModelPtr then
    m.collectPending 256 0 [rootRuntimeModelPtr] [] []
  else []

end GameMemory

end War3VK.Model
