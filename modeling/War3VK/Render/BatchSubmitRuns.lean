import War3VK.Render.BatchSubmit

/-!
# The layers of a renderable

Both ways to look at the visibility of layers, the scan in advance and the probe, see the same layers,
and both loops append the same elements: the visible layers in their order.
-/

namespace War3VK.Render.BatchSubmit

variable (mem : Memory) (visibilityOffset : UInt32) (mesh : Mesh)

def Mesh.dataAt (i : ℕ) : UInt32 := mesh.layerDataBase + 0x1C + kLayerDataStride * UInt32.ofNat i

def Mesh.stateAt (i : ℕ) : UInt32 := mesh.stateBlockBase + 4 + kLayerStateStride * UInt32.ofNat i

def Mesh.visible (i : ℕ) : Bool := layerVisible mem visibilityOffset (mesh.dataAt i)

/-- The visible layers among `n` of them. -/
def Mesh.visibleFrom (i n : ℕ) : List ℕ :=
  (List.range' i n).filter (mesh.visible mem visibilityOffset)

def Mesh.visibleLayers : List ℕ := mesh.visibleFrom mem visibilityOffset 0 mesh.layerCount.toNat

def Mesh.batch (layer rank : ℕ) : RenderBatchElement where
  renderablePart := mesh.renderablePart
  flags :=
    (if mesh.meshFlag mem then 1 else 0) |||
      (if 2 ≤ (mesh.visibleLayers mem visibilityOffset).length then 2 else 0)
  layerIndex := UInt32.ofNat layer
  subIndex := UInt32.ofNat rank
  layerStatePtr := mesh.stateAt layer

/-- The layers of a list that are drawn: only the first one under the mesh flag. -/
def Mesh.drawn (layers : List ℕ) : List ℕ := if mesh.meshFlag mem then layers.take 1 else layers

def Mesh.batchesOf (layers : List ℕ) (rank : ℕ) : List RenderBatchElement :=
  ((mesh.drawn mem layers).zipIdx rank).map fun layer =>
    mesh.batch mem visibilityOffset layer.1 layer.2

def Mesh.batches : List RenderBatchElement :=
  mesh.batchesOf mem visibilityOffset (mesh.visibleLayers mem visibilityOffset) 0

variable {mem visibilityOffset mesh}

theorem stride_succ (base stride : UInt32) (i : ℕ) :
    base + stride * UInt32.ofNat i + stride = base + stride * UInt32.ofNat (i + 1) := by
  rw [UInt32.ofNat_add, UInt32.mul_add, UInt32.add_assoc]
  congr 2
  exact (UInt32.mul_one stride).symm

theorem dataAt_succ (mesh : Mesh) (i : ℕ) : mesh.dataAt i + kLayerDataStride = mesh.dataAt (i + 1) :=
  stride_succ _ _ i

theorem stateAt_succ (mesh : Mesh) (i : ℕ) :
    mesh.stateAt i + kLayerStateStride = mesh.stateAt (i + 1) :=
  stride_succ _ _ i

theorem scanVisible_eq (mesh : Mesh) (n i : ℕ) :
    scanVisible mem visibilityOffset n (mesh.dataAt i) =
      (List.range' i n).map fun j => if mesh.visible mem visibilityOffset j then 1 else 0 := by
  induction n generalizing i with
  | zero => rfl
  | succ n ih =>
    rw [scanVisible, dataAt_succ, ih, List.range'_succ, List.map_cons]
    rfl

theorem precomputeVisible_eq (mesh : Mesh) :
    precomputeVisible mem visibilityOffset mesh = (List.range' 0 mesh.layerCount.toNat).map fun j =>
      if mesh.visible mem visibilityOffset j then 1 else 0 := by
  have hbase : mesh.layerDataBase + 0x1C = mesh.dataAt 0 := by
    unfold Mesh.dataAt
    simp
  unfold precomputeVisible
  rw [hbase, scanVisible_eq]

theorem scanAfter_snd (visibles : List UInt8) :
    (scanAfter visibles).2 = visibles.any fun visible => visible ≠ 0 := by
  induction visibles with
  | nil => rfl
  | cons visible rest ih =>
    rw [scanAfter, List.any_cons, ← ih]

theorem scanAfter_getD (visibles : List UInt8) (i : ℕ) (hi : i < visibles.length) :
    (scanAfter visibles).1.getD i 0 ≠ 0 ↔
      ((visibles.drop (i + 1)).any fun visible => visible ≠ 0) = true := by
  induction visibles generalizing i with
  | nil => exact absurd hi (Nat.not_lt_zero i)
  | cons visible rest ih =>
    rw [scanAfter]
    cases i with
    | zero =>
      rw [List.getD_cons_zero, scanAfter_snd, Nat.zero_add, List.drop_one, List.tail_cons]
      cases rest.any fun visible => visible ≠ 0 <;> simp
    | succ i =>
      rw [List.getD_cons_succ, List.drop_succ_cons]
      exact ih i (Nat.lt_of_succ_lt_succ hi)

theorem probe_eq (mesh : Mesh) (n i : ℕ) :
    probe mem visibilityOffset n (mesh.dataAt i) =
      (List.range' i n).any (mesh.visible mem visibilityOffset) := by
  induction n generalizing i with
  | zero => rfl
  | succ n ih =>
    rw [probe, dataAt_succ, ih, List.range'_succ, List.any_cons]
    have hvisible : layerVisible mem visibilityOffset (mesh.dataAt i) =
        mesh.visible mem visibilityOffset i := rfl
    rw [hvisible]
    cases mesh.visible mem visibilityOffset i with
    | false => rw [if_neg Bool.false_ne_true, Bool.false_or]
    | true => rw [if_pos rfl, Bool.true_or]

theorem layerShown_eq (precomputeEnabled : Bool) {i : ℕ} (hi : i < mesh.layerCount.toNat) :
    layerShown mem visibilityOffset precomputeEnabled mesh i (mesh.dataAt i) =
      mesh.visible mem visibilityOffset i := by
  unfold layerShown
  split_ifs with huse
  · rw [precomputeVisible_eq, List.getD_eq_getElem _ _ (by simpa using hi), List.getElem_map,
      List.getElem_range', Nat.zero_add, Nat.one_mul]
    cases mesh.visible mem visibilityOffset i <;> rfl
  · rfl

theorem visibleAfter_eq (precomputeEnabled : Bool) {i : ℕ} (hi : i < mesh.layerCount.toNat) :
    visibleAfter mem visibilityOffset precomputeEnabled mesh i (mesh.dataAt i) =
      (List.range' (i + 1) (mesh.layerCount.toNat - (i + 1))).any
        (mesh.visible mem visibilityOffset) := by
  unfold visibleAfter
  split_ifs with huse
  · rw [Bool.eq_iff_iff, decide_eq_true_eq]
    unfold precomputeHasVisibleAfter
    rw [scanAfter_getD _ _ (by rw [precomputeVisible_eq]; simpa using hi), precomputeVisible_eq,
      ← List.map_drop, List.drop_range', List.any_map]
    simp [Function.comp_def]
  · rw [dataAt_succ, probe_eq]

theorem visibleFrom_succ (i n : ℕ) :
    mesh.visibleFrom mem visibilityOffset i (n + 1) = if mesh.visible mem visibilityOffset i then
        i :: mesh.visibleFrom mem visibilityOffset (i + 1) n
      else mesh.visibleFrom mem visibilityOffset (i + 1) n := by
  unfold Mesh.visibleFrom
  rw [List.range'_succ, List.filter_cons]

theorem length_visibleLayers_le (mesh : Mesh) :
    (mesh.visibleLayers mem visibilityOffset).length ≤ mesh.layerCount.toNat :=
  (List.length_filter_le _ _).trans_eq List.length_range'

theorem batchElement_eq (precomputeEnabled : Bool) {i n rank : ℕ}
    (hi : i + (n + 1) = mesh.layerCount.toNat) (hvisible : mesh.visible mem visibilityOffset i)
    (hrank : rank + (mesh.visibleFrom mem visibilityOffset i (n + 1)).length =
      (mesh.visibleLayers mem visibilityOffset).length) :
    batchElement mem visibilityOffset precomputeEnabled mesh i (mesh.dataAt i) (mesh.stateAt i)
      (UInt32.ofNat rank) = mesh.batch mem visibilityOffset i rank := by
  have hlayers : (mesh.visibleLayers mem visibilityOffset).length < 2 ^ 32 :=
    (length_visibleLayers_le mesh).trans_lt mesh.layerCount.toNat_lt
  rw [visibleFrom_succ, if_pos hvisible, List.length_cons] at hrank
  unfold batchElement Mesh.batch
  rw [visibleAfter_eq precomputeEnabled (by omega)]
  have hrest : mesh.layerCount.toNat - (i + 1) = n := by omega
  have hcount : (0 : UInt32) < UInt32.ofNat rank ↔ 0 < rank := by
    rw [UInt32.lt_iff_toNat_lt, UInt32.toNat_ofNat', Nat.mod_eq_of_lt (by omega)]
    rfl
  have hafter : ((List.range' (i + 1) n).any (mesh.visible mem visibilityOffset) = true) ↔
      0 < (mesh.visibleFrom mem visibilityOffset (i + 1) n).length := by
    unfold Mesh.visibleFrom
    rw [List.any_eq_true, List.length_pos_iff_exists_mem]
    simp only [List.mem_filter]
  rw [hrest]
  congr 2
  simp only [gt_iff_lt, hcount, hafter]
  split_ifs <;> first | rfl | omega

end War3VK.Render.BatchSubmit

/-!
## Runs of the submission

The growth of the batch array makes room for the next element, so that no write is behind the reserved
slots, and every renderable that is enqueued has its elements appended in their order.
-/

namespace War3VK.Render.BatchSubmit

variable {P : Type} {fns : RenderBatchFns P}

/-! ### Growth -/

/-- What is relied on of the callback that reserves the array: when it asks for more slots than are
counted, the count stays, and an array that is there afterwards has the slots that were asked for and
the elements that were counted. -/
structure RenderBatchFns.Provides (fns : RenderBatchFns P) : Prop where
  count : ∀ reserve ∈ fns.reserveBatchArray, ∀ (queue : Queue) (newCapacity : UInt32),
    queue.numOfElements < newCapacity →
      (reserve queue newCapacity).numOfElements = queue.numOfElements
  slots : ∀ reserve ∈ fns.reserveBatchArray, ∀ (queue : Queue) (newCapacity : UInt32),
    queue.numOfElements < newCapacity →
      ∀ array ∈ (reserve queue newCapacity).batchArray, newCapacity.toNat ≤ array.slots.length
  elements : ∀ reserve ∈ fns.reserveBatchArray, ∀ (queue : Queue) (newCapacity : UInt32),
    queue.numOfElements < newCapacity → ∀ before ∈ queue.batchArray,
      ∀ array ∈ (reserve queue newCapacity).batchArray,
        array.slots.take queue.numOfElements.toNat = before.slots.take queue.numOfElements.toNat

/-- The elements behind one queue are those before another one and some more. -/
structure Queue.Extends (before after : Queue) (batches : List RenderBatchElement) : Prop where
  count : after.numOfElements.toNat = before.numOfElements.toNat + batches.length
  elements : ∀ old ∈ before.batchArray, ∀ array ∈ after.batchArray,
    array.slots.take after.numOfElements.toNat =
      old.slots.take before.numOfElements.toNat ++ batches

theorem Queue.Extends.refl (queue : Queue) : queue.Extends queue [] where
  count := rfl
  elements := fun old hold array harray => by
    rw [Option.mem_unique hold harray, List.append_nil]

variable {before : Queue}

theorem Queue.Extends.trans {between after : Queue} {first second : List RenderBatchElement}
    (hfirst : before.Extends between first) (hsecond : between.Extends after second)
    (hthere : between.batchArray.isSome) : before.Extends after (first ++ second) where
  count := by rw [hsecond.count, hfirst.count, List.length_append, Nat.add_assoc]
  elements := fun old hold array harray => by
    obtain ⟨middle, hmiddle⟩ := Option.isSome_iff_exists.mp hthere
    rw [hsecond.elements middle hmiddle array harray, hfirst.elements old hold middle hmiddle,
      List.append_assoc]

theorem Queue.append_extends (queue : Queue) (array : BatchArray) (harray : array ∈ queue.batchArray)
    (h : queue.numOfElements.toNat < array.slots.length) (batch : RenderBatchElement) :
    queue.Extends (queue.append array harray h batch) [batch] := by
  have hcount := count_next h
  refine ⟨hcount, fun old hold written hwritten => ?_⟩
  obtain rfl := Option.mem_unique hold harray
  obtain rfl := Option.mem_some.mp hwritten
  change (old.slots.set _ batch).take (queue.numOfElements + 1).toNat = _
  rw [hcount, List.take_succ, List.take_set_of_le (Nat.le_refl _), List.getElem?_set_self h]
  rfl

theorem le_roundUp (growStep next : UInt32) (hnext : next.toNat < 2 ^ 31) :
    next.toNat ≤ (roundUp growStep next).toNat := by
  unfold roundUp
  split_ifs with hround
  · have hpositive : 0 < growStep.toNat := by
      rw [Nat.pos_iff_ne_zero]
      exact fun hzero => hround.1 (UInt32.toNat_inj.mp hzero)
    have hlt := Nat.mod_lt next.toNat hpositive
    have hle := Nat.mod_le next.toNat growStep.toNat
    have hmod : next.toNat % growStep.toNat = next.toNat ∨
        next.toNat % growStep.toNat < next.toNat ∧ growStep.toNat ≤ next.toNat := by
      rcases Nat.lt_or_ge next.toNat growStep.toNat with hsmall | hlarge
      · exact .inl (Nat.mod_eq_of_lt hsmall)
      · exact .inr ⟨hlt.trans_le hlarge, hlarge⟩
    have hgrow := growStep.toNat_lt
    rw [UInt32.toNat_add, UInt32.toNat_sub_of_le _ _ (by
      rw [UInt32.le_iff_toNat_le, UInt32.toNat_mod]
      exact hlt.le), UInt32.toNat_mod, Nat.mod_eq_of_lt]
    · omega
    · rcases hmod with hmod | ⟨-, hlarge⟩ <;> omega
  · exact Nat.le_refl _

theorem ensureCapacity_spec (hprovides : fns.Provides) (queue : Queue) :
    (ensureCapacity fns queue = none ∧ fns.reserveBatchArray = none) ∨
      ∃ grown, ensureCapacity fns queue = some grown ∧ queue.Extends grown [] ∧
        ∀ array ∈ grown.batchArray, grown.numOfElements.toNat < array.slots.length := by
  have hcounted := queue.counted
  unfold kBatchElementStride at hcounted
  have hnext : (queue.numOfElements + 1).toNat = queue.numOfElements.toNat + 1 := by
    rw [UInt32.toNat_add, UInt32.toNat_one]
    omega
  unfold ensureCapacity
  dsimp only
  by_cases hfull : queue.numOfElements + 1 > queue.batchCapacity
  · rw [if_pos hfull]
    generalize (if queue.batchGrowStep = 0 then
      (fns.computeBatchGrowStep.map fun compute => compute queue (queue.numOfElements + 1)).getD 0
      else queue.batchGrowStep) = growStep
    have hround := le_roundUp growStep (queue.numOfElements + 1) (by omega)
    have hless : queue.numOfElements < roundUp growStep (queue.numOfElements + 1) := by
      rw [UInt32.lt_iff_toNat_lt]
      omega
    cases hreserve : fns.reserveBatchArray with
    | none => exact .inl ⟨rfl, rfl⟩
    | some reserve =>
      have hcount := hprovides.count reserve hreserve queue _ hless
      refine .inr ⟨reserve queue (roundUp growStep (queue.numOfElements + 1)), rfl,
        ⟨by rw [hcount]; rfl, fun old hold array harray => ?_⟩, fun array harray => ?_⟩
      · rw [hcount, List.append_nil]
        exact hprovides.elements reserve hreserve queue _ hless old hold array harray
      · have hslots := hprovides.slots reserve hreserve queue _ hless array harray
        rw [hcount]
        omega
  · rw [if_neg hfull]
    refine .inr ⟨queue, rfl, .refl queue, fun array harray => ?_⟩
    have hreserved := queue.reserved array harray
    have hle : (queue.numOfElements + 1).toNat ≤ queue.batchCapacity.toNat :=
      UInt32.le_iff_toNat_le.mp (UInt32.not_lt.mp hfull)
    omega

/-! ### Layers -/

variable {mem : Memory} {visibilityOffset : UInt32} {mesh : Mesh}

/-- The loop over the layers has appended some elements, or as many of them as there was room for. -/
structure Appended.Of (fns : RenderBatchFns P) (batches : List RenderBatchElement) (before : Queue)
    (appended : Appended) : Prop where
  initial : appended.batches <+: batches
  /-- They are all of them, unless the loop was left. -/
  all : appended.refused = false → appended.batches = batches
  /-- It was left because the array could not grow or is not there. -/
  refused : appended.refused = true →
    fns.reserveBatchArray = none ∨ appended.queue.batchArray = none
  extends_ : before.Extends appended.queue appended.batches

theorem batchesOf_cons (layer : ℕ) (layers : List ℕ) (rank : ℕ) :
    mesh.batchesOf mem visibilityOffset (layer :: layers) rank =
      mesh.batch mem visibilityOffset layer rank ::
        if mesh.meshFlag mem then [] else mesh.batchesOf mem visibilityOffset layers (rank + 1) := by
  unfold Mesh.batchesOf Mesh.drawn
  split_ifs <;> rfl

theorem batch_flag (layer rank : ℕ) :
    (mesh.batch mem visibilityOffset layer rank).flags &&& 1 ≠ 0 ↔ mesh.meshFlag mem = true := by
  unfold Mesh.batch
  dsimp only
  split_ifs with hflag htwo <;> simp only [hflag] <;> decide

variable {queue grown : Queue} {i n rank : ℕ}

theorem Appended.Of.left {batches : List RenderBatchElement} (hextends : before.Extends queue [])
    (hrefused : fns.reserveBatchArray = none ∨ queue.batchArray = none) :
    Appended.Of fns batches before ⟨queue, [], true⟩ where
  initial := List.nil_prefix
  all := fun h => by cases h
  refused := fun _ => hrefused
  extends_ := hextends

theorem Appended.Of.cons {batches : List RenderBatchElement} (hextends : before.Extends grown [])
    {array : BatchArray} (harray : array ∈ grown.batchArray)
    (hslot : grown.numOfElements.toNat < array.slots.length) (batch : RenderBatchElement)
    {rest : Appended} (hrest : rest.Of fns batches (grown.append array harray hslot batch)) :
    Appended.Of fns (batch :: batches) before { rest with batches := batch :: rest.batches } where
  initial := List.prefix_cons_inj batch |>.mpr hrest.initial
  all := fun h => by
    dsimp only
    rw [hrest.all h]
  refused := hrest.refused
  extends_ := by
    have hone := hextends.trans (grown.append_extends array harray hslot batch)
      (Option.isSome_of_mem harray)
    exact hone.trans hrest.extends_ rfl

theorem Appended.Of.done (queue : Queue) : Appended.Of fns [] queue ⟨queue, [], false⟩ where
  initial := List.nil_prefix
  all := fun _ => rfl
  refused := fun h => by cases h
  extends_ := .refl queue

theorem layerLoop_shown (precomputeEnabled : Bool) (hi : i + (n + 1) = mesh.layerCount.toNat)
    (hvisible : mesh.visible mem visibilityOffset i)
    (hrank : rank + (mesh.visibleFrom mem visibilityOffset i (n + 1)).length =
      (mesh.visibleLayers mem visibilityOffset).length) {array : BatchArray}
    (hgrown : ensureCapacity fns queue = some grown) (harray : array ∈ grown.batchArray)
    (hslot : grown.numOfElements.toNat < array.slots.length) :
    layerLoop fns mem visibilityOffset precomputeEnabled mesh (n + 1) i (mesh.dataAt i)
        (mesh.stateAt i) (UInt32.ofNat rank) queue =
      if mesh.meshFlag mem then
        some ⟨grown.append array harray hslot (mesh.batch mem visibilityOffset i rank),
          [mesh.batch mem visibilityOffset i rank], false⟩
      else
        (layerLoop fns mem visibilityOffset precomputeEnabled mesh n (i + 1) (mesh.dataAt (i + 1))
          (mesh.stateAt (i + 1)) (UInt32.ofNat (rank + 1))
          (grown.append array harray hslot (mesh.batch mem visibilityOffset i rank))).map
            fun rest => { rest with
              batches := mesh.batch mem visibilityOffset i rank :: rest.batches } := by
  have hnext : UInt32.ofNat rank + 1 = UInt32.ofNat (rank + 1) := (UInt32.ofNat_add rank 1).symm
  rw [layerLoop, layerShown_eq precomputeEnabled (by omega), if_pos hvisible, hgrown]
  dsimp only
  split
  · rename_i hnone
    rw [hnone] at harray
    cases harray
  · rename_i there hthere
    obtain rfl := Option.mem_unique harray hthere
    rw [dif_pos hslot, batchElement_eq precomputeEnabled hi hvisible hrank, dataAt_succ, stateAt_succ,
      hnext]
    simp only [batch_flag]

theorem layerLoop_no_array (precomputeEnabled : Bool) (hi : i + (n + 1) = mesh.layerCount.toNat)
    (hvisible : mesh.visible mem visibilityOffset i)
    (hgrown : ensureCapacity fns queue = some grown) (harray : grown.batchArray = none) :
    layerLoop fns mem visibilityOffset precomputeEnabled mesh (n + 1) i (mesh.dataAt i)
      (mesh.stateAt i) (UInt32.ofNat rank) queue = some ⟨grown, [], true⟩ := by
  rw [layerLoop, layerShown_eq precomputeEnabled (by omega), if_pos hvisible, hgrown]
  dsimp only
  split
  · rfl
  · rename_i there hthere
    rw [harray] at hthere
    cases hthere

theorem layerLoop_hidden (precomputeEnabled : Bool) (hi : i + (n + 1) = mesh.layerCount.toNat)
    (hvisible : ¬mesh.visible mem visibilityOffset i) (queue : Queue) :
    layerLoop fns mem visibilityOffset precomputeEnabled mesh (n + 1) i (mesh.dataAt i)
        (mesh.stateAt i) (UInt32.ofNat rank) queue =
      layerLoop fns mem visibilityOffset precomputeEnabled mesh n (i + 1) (mesh.dataAt (i + 1))
        (mesh.stateAt (i + 1)) (UInt32.ofNat rank) queue := by
  rw [layerLoop, layerShown_eq precomputeEnabled (by omega), if_neg hvisible, dataAt_succ, stateAt_succ]

theorem layerLoop_spec (hprovides : fns.Provides) (precomputeEnabled : Bool)
    (hi : i + n = mesh.layerCount.toNat)
    (hrank : rank + (mesh.visibleFrom mem visibilityOffset i n).length =
      (mesh.visibleLayers mem visibilityOffset).length) (queue : Queue) :
    ∃ appended, layerLoop fns mem visibilityOffset precomputeEnabled mesh n i (mesh.dataAt i)
        (mesh.stateAt i) (UInt32.ofNat rank) queue = some appended ∧
      appended.Of fns (mesh.batchesOf mem visibilityOffset
        (mesh.visibleFrom mem visibilityOffset i n) rank) queue := by
  induction n generalizing i rank queue with
  | zero =>
    have hnil : mesh.batchesOf mem visibilityOffset (mesh.visibleFrom mem visibilityOffset i 0) rank =
        [] := by
      unfold Mesh.visibleFrom Mesh.batchesOf Mesh.drawn
      split_ifs <;> rfl
    rw [hnil]
    exact ⟨_, rfl, .done queue⟩
  | succ n ih =>
    have hlayers := @visibleFrom_succ mem visibilityOffset mesh i n
    by_cases hvisible : mesh.visible mem visibilityOffset i
    · rw [if_pos hvisible] at hlayers
      rw [hlayers, batchesOf_cons]
      obtain ⟨hnone, hreserve⟩ | ⟨grown, hgrown, hextends, hslots⟩ :=
        ensureCapacity_spec hprovides queue
      · refine ⟨⟨queue, [], true⟩, ?_, .left (.refl queue) (.inl hreserve)⟩
        rw [layerLoop, layerShown_eq precomputeEnabled (by omega), if_pos hvisible, hnone]
      · cases harray : grown.batchArray with
        | none =>
          exact ⟨_, layerLoop_no_array precomputeEnabled hi hvisible hgrown harray,
            .left hextends (.inr harray)⟩
        | some array =>
          have hslot := hslots array harray
          rw [layerLoop_shown precomputeEnabled hi hvisible hrank hgrown harray hslot]
          by_cases hflag : mesh.meshFlag mem
          · rw [if_pos hflag, if_pos hflag]
            exact ⟨_, rfl, .cons hextends harray hslot _ (.done _)⟩
          · rw [if_neg hflag, if_neg hflag]
            rw [hlayers, List.length_cons] at hrank
            obtain ⟨rest, heq, hrest⟩ := @ih (i + 1) (rank + 1) (by omega) (by omega)
              (grown.append array harray hslot (mesh.batch mem visibilityOffset i rank))
            rw [heq]
            exact ⟨_, rfl, .cons hextends harray hslot _ hrest⟩
    · rw [if_neg hvisible] at hlayers
      rw [layerLoop_hidden precomputeEnabled hi hvisible, hlayers]
      exact ih (by omega) (by rw [hlayers] at hrank; exact hrank) queue

theorem layerLoop_congr (fns : RenderBatchFns P) (mem : Memory) (visibilityOffset : UInt32)
    (mesh : Mesh) (first second : Bool) (hi : i + n = mesh.layerCount.toNat)
    (visibleLayerCounter : UInt32) (queue : Queue) :
    layerLoop fns mem visibilityOffset first mesh n i (mesh.dataAt i) (mesh.stateAt i)
        visibleLayerCounter queue =
      layerLoop fns mem visibilityOffset second mesh n i (mesh.dataAt i) (mesh.stateAt i)
        visibleLayerCounter queue := by
  induction n generalizing i visibleLayerCounter queue with
  | zero => rfl
  | succ n ih =>
    have hrest := fun counter next => @ih (i + 1) (by omega) counter next
    have hbatch : batchElement mem visibilityOffset first mesh i (mesh.dataAt i) (mesh.stateAt i)
          visibleLayerCounter =
        batchElement mem visibilityOffset second mesh i (mesh.dataAt i) (mesh.stateAt i)
          visibleLayerCounter := by
      unfold batchElement
      rw [visibleAfter_eq first (by omega), visibleAfter_eq second (by omega)]
    rw [layerLoop, layerLoop, layerShown_eq first (by omega), layerShown_eq second (by omega), hbatch,
      dataAt_succ, stateAt_succ, hrest]
    simp only [hrest]

/-! ### Renderables -/

def Kind.batches (mem : Memory) (visibilityOffset : UInt32) : Kind P → List RenderBatchElement
  | .enqueued mesh => mesh.batches mem visibilityOffset
  | _ => []

/-- What has been done with the renderables of a list, from a place on: each has its elements appended
to the queue that the one before it has left. -/
def Submitted.Chain (fns : RenderBatchFns P) (mem : Memory)
    (visibilityOffset sceneNode cullTable meshInfoTable : UInt32) :
    ℕ → UInt32 → Queue → List (Submitted P) → Prop
  | _, _, _, [] => True
  | i, list, queue, submitted :: rest =>
    submitted.kind = classify fns mem sceneNode cullTable meshInfoTable i (mem.u32 list) ∧
      submitted.Of fns (submitted.kind.batches mem visibilityOffset) queue ∧
        Submitted.Chain fns mem visibilityOffset sceneNode cullTable meshInfoTable (i + 1) (list + 4)
          submitted.queue rest

theorem dataAt_zero (mesh : Mesh) : mesh.layerDataBase + 0x1C = mesh.dataAt 0 := by
  unfold Mesh.dataAt
  simp

theorem stateAt_zero (mesh : Mesh) : mesh.stateBlockBase + 4 = mesh.stateAt 0 := by
  unfold Mesh.stateAt
  simp

theorem submitRenderable_congr (fns : RenderBatchFns P) (mem : Memory) (visibilityOffset : UInt32)
    (first second : Bool) (kind : Kind P) (queue : Queue) :
    submitRenderable fns mem visibilityOffset first kind queue =
      submitRenderable fns mem visibilityOffset second kind queue := by
  cases kind with
  | skipped linked => rfl
  | transparent worldPos transparentKey => rfl
  | enqueued mesh =>
    unfold submitRenderable
    dsimp only
    rw [dataAt_zero, stateAt_zero,
      layerLoop_congr fns mem visibilityOffset mesh first second (Nat.zero_add _)]

theorem submitRenderable_spec (hprovides : fns.Provides) (mem : Memory) (visibilityOffset : UInt32)
    (precomputeEnabled : Bool) (kind : Kind P) (queue : Queue) :
    ∃ submitted, submitRenderable fns mem visibilityOffset precomputeEnabled kind queue =
        some submitted ∧ submitted.kind = kind ∧
      submitted.Of fns (kind.batches mem visibilityOffset) queue := by
  cases kind with
  | skipped linked => exact ⟨_, rfl, rfl, .done queue⟩
  | transparent worldPos transparentKey => exact ⟨_, rfl, rfl, .done queue⟩
  | enqueued mesh =>
    obtain ⟨appended, heq, hof⟩ := @layerLoop_spec P fns mem visibilityOffset mesh
      0 mesh.layerCount.toNat 0 hprovides precomputeEnabled (Nat.zero_add _) (Nat.zero_add _) queue
    refine ⟨⟨appended, .enqueued mesh⟩, ?_, rfl, hof⟩
    unfold submitRenderable
    have hzero : UInt32.ofNat 0 = 0 := rfl
    rw [hzero] at heq
    dsimp only
    rw [dataAt_zero, stateAt_zero, heq]
    rfl

theorem renderableLoop_congr (fns : RenderBatchFns P) (mem : Memory)
    (visibilityOffset sceneNode cullTable meshInfoTable : UInt32) (first second : Bool) (n i : ℕ)
    (list : UInt32) (queue : Queue) :
    renderableLoop fns mem visibilityOffset first sceneNode cullTable meshInfoTable n i list queue =
      renderableLoop fns mem visibilityOffset second sceneNode cullTable meshInfoTable n i list
        queue := by
  induction n generalizing i list queue with
  | zero => rfl
  | succ n ih =>
    rw [renderableLoop, renderableLoop, submitRenderable_congr fns mem visibilityOffset first second]
    simp only [ih]

theorem renderableLoop_spec (hprovides : fns.Provides) (mem : Memory)
    (visibilityOffset sceneNode cullTable meshInfoTable : UInt32) (precomputeEnabled : Bool) (n i : ℕ)
    (list : UInt32) (queue : Queue) :
    ∃ submitted, renderableLoop fns mem visibilityOffset precomputeEnabled sceneNode cullTable
        meshInfoTable n i list queue = some submitted ∧ submitted.length = n ∧
      Submitted.Chain fns mem visibilityOffset sceneNode cullTable meshInfoTable i list queue
        submitted := by
  induction n generalizing i list queue with
  | zero => exact ⟨[], rfl, rfl, trivial⟩
  | succ n ih =>
    obtain ⟨submitted, heq, hkind, hof⟩ := submitRenderable_spec hprovides mem visibilityOffset
      precomputeEnabled (classify fns mem sceneNode cullTable meshInfoTable i (mem.u32 list)) queue
    obtain ⟨rest, hrest, hlength, hchain⟩ := ih (i + 1) (list + 4) submitted.queue
    refine ⟨submitted :: rest, ?_, congrArg Nat.succ hlength, hkind, ?_, hchain⟩
    · rw [renderableLoop, heq, Option.bind_eq_bind, Option.bind_some, hrest, Option.bind_eq_bind,
        Option.bind_some]
    · rw [hkind]
      exact hof

/-- What a submission that returns `true` has done: nothing for no renderables, and else every one of
the list. -/
def Accepted (fns : RenderBatchFns P) (mem : Memory) (sceneNode : UInt32) (queue : Queue)
    (submitted : List (Submitted P)) : Prop :=
  ∃ renderableCount ∈ mem.safeU32 (sceneNode + 0x0C),
    ∃ renderableList ∈ mem.safeU32 (sceneNode + 0x10),
      if renderableCount = 0 ∨ renderableList = 0 then submitted = []
      else
        submitted.length = renderableCount.toNat ∧
          ∃ cullTable ∈ mem.safeU32 (sceneNode + 0x20),
            ∃ meshInfoTable ∈ mem.safeU32 (sceneNode + 0x30),
              ∃ visibilityOffset ∈ mem.safeU32 (sceneNode + 0x50),
                Submitted.Chain fns mem visibilityOffset sceneNode cullTable meshInfoTable 0
                  renderableList queue submitted

theorem renderBatchSubmit_spec (hprovides : fns.Provides) (mem : Memory) (precomputeEnabled : Bool)
    (sceneNode : UInt32) (globals : Option Queue) :
    ∃ outcome, renderBatchSubmit fns mem precomputeEnabled sceneNode globals = some outcome ∧
      ∀ submitted ∈ outcome, ∃ queue ∈ globals, Accepted fns mem sceneNode queue submitted := by
  have hfalse : ∀ submitted ∈ (none : Option (List (Submitted P))),
      ∃ queue ∈ globals, Accepted fns mem sceneNode queue submitted := fun submitted h => by cases h
  unfold renderBatchSubmit
  cases globals with
  | none => exact ⟨none, rfl, hfalse⟩
  | some queue =>
    dsimp only
    by_cases hnode : sceneNode = 0
    · rw [if_pos hnode]
      exact ⟨none, rfl, hfalse⟩
    rw [if_neg hnode]
    cases hcount : mem.safeU32 (sceneNode + 0x0C) with
    | none => exact ⟨none, rfl, hfalse⟩
    | some renderableCount =>
    cases hlist : mem.safeU32 (sceneNode + 0x10) with
    | none => exact ⟨none, rfl, hfalse⟩
    | some renderableList =>
    dsimp only
    by_cases hempty : renderableCount = 0 ∨ renderableList = 0
    · rw [if_pos hempty]
      refine ⟨some [], rfl, fun submitted hsubmitted => ⟨queue, rfl, renderableCount, hcount,
        renderableList, hlist, ?_⟩⟩
      rw [if_pos hempty]
      exact (Option.mem_some.mp hsubmitted).symm
    rw [if_neg hempty]
    cases hcull : mem.safeU32 (sceneNode + 0x20) with
    | none => exact ⟨none, rfl, hfalse⟩
    | some cullTable =>
    cases hmesh : mem.safeU32 (sceneNode + 0x30) with
    | none => exact ⟨none, rfl, hfalse⟩
    | some meshInfoTable =>
    cases hoffset : mem.safeU32 (sceneNode + 0x50) with
    | none => exact ⟨none, rfl, hfalse⟩
    | some visibilityOffset =>
    dsimp only
    by_cases htables : cullTable = 0 ∨ meshInfoTable = 0
    · rw [if_pos htables]
      exact ⟨none, rfl, hfalse⟩
    rw [if_neg htables]
    obtain ⟨done, heq, hlength, hchain⟩ := renderableLoop_spec hprovides mem visibilityOffset
      sceneNode cullTable meshInfoTable precomputeEnabled renderableCount.toNat 0 renderableList queue
    rw [heq]
    refine ⟨some done, rfl, fun submitted hsubmitted => ⟨queue, rfl, renderableCount, hcount,
      renderableList, hlist, ?_⟩⟩
    obtain rfl := Option.mem_some.mp hsubmitted
    rw [if_neg hempty]
    exact ⟨hlength, cullTable, hcull, meshInfoTable, hmesh, visibilityOffset, hoffset, hchain⟩

theorem renderBatchSubmit_congr (fns : RenderBatchFns P) (mem : Memory) (first second : Bool)
    (sceneNode : UInt32) (globals : Option Queue) :
    renderBatchSubmit fns mem first sceneNode globals =
      renderBatchSubmit fns mem second sceneNode globals := by
  unfold renderBatchSubmit
  simp only [renderableLoop_congr fns mem _ _ _ _ first second]

/-- Both ways the submission writes the same elements, only to reserved slots, and every renderable has
its elements appended. -/
theorem renderBatchSubmit_law (fns : RenderBatchFns P) (hprovides : fns.Provides) (mem : Memory)
    (sceneNode : UInt32) (globals : Option Queue) :
    renderBatchSubmit fns mem true sceneNode globals =
        renderBatchSubmit fns mem false sceneNode globals ∧
      ∃ outcome, renderBatchSubmit fns mem true sceneNode globals = some outcome ∧
        ∀ submitted ∈ outcome, ∃ queue ∈ globals, Accepted fns mem sceneNode queue submitted :=
  ⟨renderBatchSubmit_congr fns mem true false sceneNode globals,
    renderBatchSubmit_spec hprovides mem true sceneNode globals⟩

/-- A callback that moves the elements to as many slots as were asked for, if they fit. -/
def reserveSlots (queue : Queue) (newCapacity : UInt32) : Queue where
  batchCapacity := newCapacity
  numOfElements := queue.numOfElements
  batchGrowStep := queue.batchGrowStep
  batchArray :=
    if h : newCapacity.toNat * kBatchElementStride ≤ 2 ^ 32 ∧
        queue.numOfElements ≤ newCapacity then
      some ⟨(List.range newCapacity.toNat).map fun i =>
        (queue.batchArray.bind fun array => array.slots[i]?).getD ⟨0, 0, 0, 0, 0⟩, by simpa using h.1⟩
    else none
  reserved := fun array harray => by
    split_ifs at harray with h
    · obtain rfl := Option.mem_some.mp harray
      simp
    · cases harray
  filled := fun array harray => by
    split_ifs at harray with h
    · obtain rfl := Option.mem_some.mp harray
      simpa [UInt32.le_iff_toNat_le] using h.2
    · cases harray
  counted := queue.counted

def sampleFns : RenderBatchFns Unit := ⟨some reserveSlots, none, some fun _ _ => true,
  some fun _ _ => (), true⟩

theorem sampleFns_provides : sampleFns.Provides where
  count := fun reserve hreserve queue newCapacity _ => by
    obtain rfl := Option.mem_some.mp hreserve
    rfl
  slots := fun reserve hreserve queue newCapacity _ array harray => by
    obtain rfl := Option.mem_some.mp hreserve
    unfold reserveSlots at harray
    dsimp only at harray
    split_ifs at harray with h
    · obtain rfl := Option.mem_some.mp harray
      simp
    · cases harray
  elements := fun reserve hreserve queue newCapacity hless before hbefore array harray => by
    obtain rfl := Option.mem_some.mp hreserve
    have hfilled := queue.filled before hbefore
    unfold reserveSlots at harray
    dsimp only at harray
    split_ifs at harray with h
    · obtain rfl := Option.mem_some.mp harray
      rw [UInt32.lt_iff_toNat_lt] at hless
      refine List.ext_getElem ?_ fun i hi hi' => ?_
      · simp only [List.length_take, List.length_map, List.length_range]
        omega
      · rw [List.length_take] at hi'
        rw [List.getElem_take, List.getElem_take, List.getElem_map, List.getElem_range,
          Option.mem_def.mp hbefore, Option.bind_some, List.getElem?_eq_getElem (by omega)]
        rfl
    · cases harray

def sampleQueue : Queue where
  batchCapacity := 0
  numOfElements := 0
  batchGrowStep := 2
  batchArray := none
  reserved := fun array harray => by cases harray
  filled := fun array harray => by cases harray
  counted := by decide

/-- The words of a scene with one renderable of three layers, the second of which is not visible. -/
def sampleWords : List (UInt32 × UInt32) :=
  [(0x1000C, 1), (0x10010, 0x20000), (0x10020, 0x30000), (0x10030, 0x40000), (0x10050, 0x10),
    (0x20000, 0x50000), (0x5000C, 0x60000), (0x40000, 0x70000), (0x7000C, 3), (0x70010, 0x80000),
    (0x70038, 0x90000), (0x90010, 0xA0000), (0xA0048, 0xB0000)]

def sampleMemory : Memory where
  safeU32 := fun address => some ((sampleWords.lookup address).getD 0)
  u32 := fun address => (sampleWords.lookup address).getD 0
  u8 := fun address => if address = 0xB0010 then 0 else 1
  readable := fun _ => true

/-- The submission of this scene. -/
theorem renderBatchSubmit_law_sample :
    renderBatchSubmit sampleFns sampleMemory true 0x10000 (some sampleQueue) =
        renderBatchSubmit sampleFns sampleMemory false 0x10000 (some sampleQueue) ∧
      ∃ outcome, renderBatchSubmit sampleFns sampleMemory true 0x10000 (some sampleQueue) =
          some outcome ∧
        ∀ submitted ∈ outcome, ∃ queue ∈ some sampleQueue,
          Accepted sampleFns sampleMemory 0x10000 queue submitted :=
  renderBatchSubmit_law sampleFns sampleFns_provides sampleMemory 0x10000 (some sampleQueue)

/-- The first and the third layer of this scene are appended. -/
example : ((renderBatchSubmit sampleFns sampleMemory true 0x10000 (some sampleQueue)).map
    fun outcome => outcome.map fun submitted => submitted.map fun done => done.batches) =
      some (some [[⟨0x50000, 2, 0, 0, 0x80004⟩, ⟨0x50000, 2, 2, 1, 0x8004C⟩]]) := by
  decide +kernel

end War3VK.Render.BatchSubmit
