import Mathlib
import War3VK.Lib.Machine
import War3VK.Lib.LastBefore

/-!
# The hash index of a frame

`War3FrameHashIndex` (`src/src/d3d9/war3/render/war3_frame_hash_index.h`): values under keys in chains
of nodes, one chain for each bucket. A bucket counts only while it bears the generation of the index, so
`clear` leaves the buckets as they are. `digits` is the width of `size_t`. What the vectors reserve is
not part of the model.
-/

namespace War3VK.Render.FrameHashIndex

/-- `InvalidNode`. -/
def invalidNode : UInt32 := 0xffffffff

/-- `struct Bucket`. -/
structure Bucket where
  generation : UInt32 := 0
  head : UInt32 := invalidNode
deriving DecidableEq, Repr

/-- `struct Node`. -/
structure Node where
  key : UInt64 := 0
  value : UInt32 := 0
  next : UInt32 := invalidNode
deriving DecidableEq, Repr

/-- `class War3FrameHashIndex`. -/
structure Index where
  buckets : List Bucket := []
  nodes : List Node := []
  generation : UInt32 := 1
deriving DecidableEq, Repr

/-- `hashBucket`. -/
def hashBucket (digits : ℕ) (key : UInt64) (bucketCount : ℕ) : ℕ :=
  let key := key ^^^ (key >>> 33)
  let key := key * 0xff51afd7ed558ccd
  let key := key ^^^ (key >>> 33)
  key.toNat % 2^digits &&& (bucketCount - 1)

/-- `clear`. -/
def Index.clear (s : Index) : Index :=
  if s.generation + 1 = 0 then
    { buckets := s.buckets.map fun bucket => { bucket with generation := 0 }, nodes := []
      generation := 1 }
  else { s with nodes := [], generation := s.generation + 1 }

/-- One turn of the loop of `rebuildBuckets`: a node goes to the front of its chain. -/
def relink (digits : ℕ) (generation : UInt32) (bucketCount : ℕ) (s : List Bucket × List Node) (i : ℕ) :
    List Bucket × List Node :=
  match s.2[i]? with
  | none => s
  | some node =>
    let place := hashBucket digits node.key bucketCount
    let bucket := s.1[place]?.getD {}
    let next := if bucket.generation = generation then bucket.head else invalidNode
    (s.1.set place ⟨generation, UInt32.ofNat i⟩, s.2.set i { node with next })

/-- `rebuildBuckets`. -/
def Index.rebuildBuckets (digits bucketCount : ℕ) (s : Index) : Index :=
  let bucketCount := max bucketCount 8
  let linked := (List.range s.nodes.length).foldl (relink digits s.generation bucketCount)
    (List.replicate bucketCount {}, s.nodes)
  { s with buckets := linked.1, nodes := linked.2 }

/-- The loop of `reserve`: the number of buckets is doubled up to the wanted one. -/
def growBucketCount (wanted maxPowerOfTwo : ℕ) : ℕ → ℕ → ℕ
  | 0, bucketCount => bucketCount
  | fuel + 1, bucketCount =>
    if bucketCount < wanted then
      if bucketCount ≥ maxPowerOfTwo then maxPowerOfTwo
      else growBucketCount wanted maxPowerOfTwo fuel (bucketCount * 2)
    else bucketCount

/-- `reserve`. -/
def Index.reserve (digits valueCount : ℕ) (s : Index) : Index :=
  let valueCount := min valueCount invalidNode.toNat
  let wanted := if valueCount > (2^digits - 1) / 2 then 2^digits - 1 else valueCount * 2
  let bucketCount := growBucketCount wanted (2^(digits - 1)) digits 8
  if bucketCount > s.buckets.length then s.rebuildBuckets digits bucketCount else s

/-- The buckets before a value is inserted: there are some, and they are more than the nodes. -/
def Index.makeRoom (digits : ℕ) (s : Index) : Index :=
  let s := if s.buckets.isEmpty then s.rebuildBuckets digits 8 else s
  if (s.nodes.length + 1) * 4 % 2^digits > s.buckets.length * 3 % 2^digits then
    s.rebuildBuckets digits (s.buckets.length * 2 % 2^digits)
  else s

def Index.push (digits : ℕ) (key : UInt64) (value : UInt32) (s : Index) : Index :=
  let place := hashBucket digits key s.buckets.length
  let bucket := s.buckets[place]?.getD {}
  let previous := if bucket.generation = s.generation then bucket.head else invalidNode
  { s with
    nodes := s.nodes ++ [⟨key, value, previous⟩]
    buckets := s.buckets.set place ⟨s.generation, UInt32.ofNat s.nodes.length⟩ }

/-- `insert`. -/
def Index.insert (digits : ℕ) (key : UInt64) (value : UInt32) (s : Index) : Index :=
  if s.nodes.length ≥ invalidNode.toNat then s else (s.makeRoom digits).push digits key value

variable {σ : Type}

/-- The loop of `forEach`; `none` when the turns do not suffice. The callback returns whether it wants
more. -/
def walk (nodes : List Node) (key : UInt64) (callback : UInt32 → σ → Bool × σ) :
    ℕ → UInt32 → σ → Option σ
  | 0, _, _ => none
  | fuel + 1, nodeIndex, seen =>
    if nodeIndex = invalidNode then some seen
    else
      match nodes[nodeIndex.toNat]? with
      | none => some seen
      | some node =>
        if node.key = key then
          match callback node.value seen with
          | (true, seen) => walk nodes key callback fuel node.next seen
          | (false, seen) => some seen
        else walk nodes key callback fuel node.next seen

/-- `forEach`. A chain has no more nodes than there are. -/
def Index.forEach (digits : ℕ) (key : UInt64) (callback : UInt32 → σ → Bool × σ) (s : Index)
    (seen : σ) : Option σ :=
  if s.buckets.isEmpty then some seen
  else
    let bucket := s.buckets[hashBucket digits key s.buckets.length]?.getD {}
    if bucket.generation ≠ s.generation then some seen
    else walk s.nodes key callback (s.nodes.length + 1) bucket.head seen

inductive Call
  | clear
  | reserve (valueCount : ℕ)
  | insert (key : UInt64) (value : UInt32)
deriving DecidableEq, Repr

def step (digits : ℕ) : Call → Index → Unit × Index
  | .clear, s => ((), s.clear)
  | .reserve valueCount, s => ((), s.reserve digits valueCount)
  | .insert key value, s => ((), s.insert digits key value)

end War3VK.Render.FrameHashIndex

/-!
## What a lookup visits

A node is linked to the last node before it that fell into the same bucket, and the head of a bucket is
the last node of all that did (`Linked`). Clearing leaves the buckets behind with an older generation,
and rebuilding goes through the nodes from the first to the last, as inserting did.
-/

namespace War3VK.Render.FrameHashIndex

open Lib

/-! ### Links -/

def nodeIndexOf : Option ℕ → UInt32
  | none => invalidNode
  | some i => UInt32.ofNat i

def fallsInto (digits bucketCount : ℕ) (nodes : List Node) (place i : ℕ) : Bool :=
  ((nodes[i]?).map Node.key).any fun key => hashBucket digits key bucketCount = place

/-- The last node before the `n`-th that fell into a bucket. -/
def lastInto (digits bucketCount : ℕ) (nodes : List Node) (place n : ℕ) : UInt32 :=
  nodeIndexOf (lastBefore (fallsInto digits bucketCount nodes place) n)

def headOf (generation : UInt32) (buckets : List Bucket) (place : ℕ) : UInt32 :=
  let bucket := buckets[place]?.getD {}
  if bucket.generation = generation then bucket.head else invalidNode

/-- The first `n` nodes are linked, and so are the buckets. -/
structure Linked (digits : ℕ) (generation : UInt32) (buckets : List Bucket) (nodes : List Node)
    (n : ℕ) : Prop where
  /-- A bucket starts with the last node that fell into it. -/
  heads : ∀ place < buckets.length,
    headOf generation buckets place = lastInto digits buckets.length nodes place n
  nexts : ∀ i < n, ∀ node, nodes[i]? = some node →
    node.next = lastInto digits buckets.length nodes (hashBucket digits node.key buckets.length) i

structure Inv (digits : ℕ) (s : Index) : Prop where
  /-- The generation is never that of a bucket that was not written. -/
  positive : s.generation ≠ 0
  earlier : ∀ bucket ∈ s.buckets, bucket.generation ≤ s.generation
  count : s.nodes.length ≤ invalidNode.toNat
  some : s.buckets = [] → s.nodes = []
  linked : Linked digits s.generation s.buckets s.nodes s.nodes.length

variable {digits : ℕ} {s : Index}

variable {bucketCount place n : ℕ} {nodes nodes' : List Node} {generation : UInt32}
  {buckets : List Bucket}

theorem hashBucket_lt (digits : ℕ) (key : UInt64) (h : 0 < bucketCount) :
    hashBucket digits key bucketCount < bucketCount := by
  unfold hashBucket
  exact Nat.lt_of_le_of_lt Nat.and_le_right (Nat.sub_one_lt_of_lt h)

theorem toNat_nodeIndexOf {i : ℕ} (h : i < invalidNode.toNat) :
    (nodeIndexOf (some i)).toNat = i ∧ nodeIndexOf (some i) ≠ invalidNode := by
  have hlt : i < 2^32 := Nat.lt_trans h (by decide)
  have hnat : (nodeIndexOf (some i)).toNat = i := UInt32.toNat_ofNat_of_lt' hlt
  refine ⟨hnat, fun heq => ?_⟩
  rw [heq] at hnat
  omega

theorem lastInto_congr (h : ∀ i < n, (nodes'[i]?).map Node.key = (nodes[i]?).map Node.key) :
    lastInto digits bucketCount nodes' place n = lastInto digits bucketCount nodes place n := by
  unfold lastInto
  rw [lastBefore_congr]
  intro i hi
  unfold fallsInto
  rw [h i hi]

/-! ### One node more -/

theorem headOf_set_self {head : UInt32} (h : place < buckets.length) :
    headOf generation (buckets.set place ⟨generation, head⟩) place = head := by
  unfold headOf
  rw [List.getElem?_set_self h]
  exact if_pos rfl

theorem headOf_set_ne {place' : ℕ} {bucket : Bucket} (h : place ≠ place') :
    headOf generation (buckets.set place bucket) place' = headOf generation buckets place' := by
  unfold headOf
  rw [List.getElem?_set_ne h]

theorem Linked.link (node : Node) (h : Linked digits generation buckets nodes n)
    (hpos : 0 < buckets.length) (hsame : ∀ i < n, nodes'[i]? = nodes[i]?)
    (hnode : nodes'[n]? = some { node with
      next := headOf generation buckets (hashBucket digits node.key buckets.length) }) :
    Linked digits generation
      (buckets.set (hashBucket digits node.key buckets.length) ⟨generation, UInt32.ofNat n⟩)
      nodes' (n + 1) := by
  have hplace := hashBucket_lt digits node.key hpos
  have hkeys : ∀ i < n, (nodes'[i]?).map Node.key = (nodes[i]?).map Node.key := fun i hi =>
    congrArg _ (hsame i hi)
  -- Which bucket the new node falls into.
  have hfalls : ∀ place, fallsInto digits buckets.length nodes' place n =
      decide (hashBucket digits node.key buckets.length = place) := fun place => by
    unfold fallsInto
    rw [hnode, Option.map_some, Option.any_some]
  constructor
  · intro place hlt
    rw [List.length_set] at hlt ⊢
    by_cases heq : hashBucket digits node.key buckets.length = place
    · subst heq
      unfold lastInto
      rw [headOf_set_self hlt, lastBefore_succ_of_pos (by rw [hfalls, decide_eq_true rfl])]
      rfl
    · unfold lastInto
      rw [headOf_set_ne heq, lastBefore_succ_of_neg (by rw [hfalls, decide_eq_false heq]),
        h.heads place hlt]
      exact (lastInto_congr hkeys).symm
  · intro i hi node' hnode'
    rw [List.length_set]
    obtain hlt | rfl := Nat.lt_succ_iff_lt_or_eq.mp hi
    · -- The earlier nodes are as they were.
      rw [hsame i hlt] at hnode'
      rw [h.nexts i hlt node' hnode']
      exact (lastInto_congr fun j hj => hkeys j (Nat.lt_trans hj hlt)).symm
    · rw [hnode, Option.some.injEq] at hnode'
      subst hnode'
      dsimp only
      rw [h.heads _ hplace]
      exact (lastInto_congr hkeys).symm

/-! ### The calls -/

def entries (nodes : List Node) : List (UInt64 × UInt32) := nodes.map fun node => (node.key, node.value)

/-- The first nodes are linked anew, and the others are as they were. -/
structure Relinked (digits bucketCount : ℕ) (generation : UInt32) (nodes : List Node) (n : ℕ)
    (t : List Bucket × List Node) : Prop where
  length : t.1.length = bucketCount
  earlier : ∀ bucket ∈ t.1, bucket.generation ≤ generation
  entries : entries t.2 = entries nodes
  linked : Linked digits generation t.1 t.2 n

theorem length_of_entries (h : entries nodes' = entries nodes) : nodes'.length = nodes.length := by
  have hlength := congrArg List.length h
  rwa [entries, entries, List.length_map, List.length_map] at hlength

theorem relinked_zero (h : generation ≠ 0) :
    Relinked digits bucketCount generation nodes 0 (List.replicate bucketCount {}, nodes) where
  length := List.length_replicate
  earlier bucket hbucket := by
    rw [List.eq_of_mem_replicate hbucket]
    exact UInt32.zero_le
  entries := rfl
  linked := by
    refine ⟨fun place hlt => ?_, fun i hi => absurd hi (Nat.not_lt_zero i)⟩
    unfold headOf
    rw [List.length_replicate] at hlt
    rw [List.getElem?_replicate, if_pos hlt]
    exact if_neg h.symm

theorem Relinked.next {t : List Bucket × List Node}
    (h : Relinked digits bucketCount generation nodes n t) (hpos : 0 < bucketCount)
    (hlt : n < nodes.length) :
    Relinked digits bucketCount generation nodes (n + 1) (relink digits generation bucketCount t n) := by
  obtain ⟨hlength, hearlier, hentries, hlinked⟩ := h
  obtain ⟨buckets, linked⟩ := t
  dsimp only at hlength hearlier hentries hlinked
  subst hlength
  have hlt' : n < linked.length := (length_of_entries hentries).symm ▸ hlt
  have hnode : linked[n]? = some linked[n] := List.getElem?_eq_getElem hlt'
  unfold relink
  dsimp only
  rw [hnode]
  dsimp only
  refine ⟨List.length_set, fun bucket hbucket => ?_, ?_, ?_⟩
  · obtain hmem | rfl := List.mem_or_eq_of_mem_set hbucket
    · exact hearlier bucket hmem
    · exact UInt32.le_refl _
  · rw [← hentries]
    -- The link of a node is not one of its entries.
    unfold FrameHashIndex.entries
    rw [List.map_set]
    refine List.ext_getElem? fun i => ?_
    by_cases hi : n = i
    · subst hi
      rw [List.getElem?_set_self (by rwa [List.length_map]), List.getElem?_map, hnode]
      rfl
    · rw [List.getElem?_set_ne hi]
  · refine hlinked.link linked[n] hpos (fun i hi => List.getElem?_set_ne (by omega)) ?_
    rw [List.getElem?_set_self hlt']
    rfl

theorem relinked_all (digits : ℕ) (h : generation ≠ 0) (hpos : 0 < bucketCount)
    (hn : n ≤ nodes.length) :
    Relinked digits bucketCount generation nodes n
      ((List.range n).foldl (relink digits generation bucketCount)
        (List.replicate bucketCount {}, nodes)) := by
  induction n with
  | zero => exact relinked_zero h
  | succ n ih =>
    rw [List.range_succ, List.foldl_append]
    exact (ih (by omega)).next hpos hn

theorem Inv.rebuildBuckets (h : Inv digits s) (bucketCount : ℕ) :
    Inv digits (s.rebuildBuckets digits bucketCount) ∧
      entries (s.rebuildBuckets digits bucketCount).nodes = entries s.nodes ∧
      (s.rebuildBuckets digits bucketCount).buckets ≠ [] := by
  have hpos : 0 < max bucketCount 8 := by omega
  have hlinked := relinked_all digits h.positive hpos (Nat.le_refl s.nodes.length)
  have hnodes := length_of_entries hlinked.entries
  have hsome : (s.rebuildBuckets digits bucketCount).buckets ≠ [] := by
    intro hnil
    have hlength := hlinked.length
    unfold Index.rebuildBuckets at hnil
    dsimp only at hnil
    rw [hnil, List.length_nil] at hlength
    omega
  refine ⟨⟨h.positive, hlinked.earlier, ?_, fun hnil => absurd hnil hsome, ?_⟩, hlinked.entries, hsome⟩
  · unfold Index.rebuildBuckets
    dsimp only
    rw [hnodes]
    exact h.count
  · unfold Index.rebuildBuckets
    dsimp only
    rw [hnodes]
    exact hlinked.linked

theorem Inv.makeRoom (h : Inv digits s) :
    Inv digits (s.makeRoom digits) ∧ entries (s.makeRoom digits).nodes = entries s.nodes ∧
      (s.makeRoom digits).buckets ≠ [] := by
  -- The first step makes sure that there are any.
  have hfirst : ∀ t, t = (if s.buckets.isEmpty then s.rebuildBuckets digits 8 else s) →
      Inv digits t ∧ entries t.nodes = entries s.nodes ∧ t.buckets ≠ [] := by
    rintro t rfl
    split
    · exact h.rebuildBuckets 8
    · rename_i hsome
      exact ⟨h, rfl, fun hnil => hsome (by rw [hnil]; rfl)⟩
  unfold Index.makeRoom
  generalize ht : (if s.buckets.isEmpty then s.rebuildBuckets digits 8 else s) = t
  obtain ⟨hinv, hentries, hsome⟩ := hfirst t ht.symm
  dsimp only
  split
  · obtain ⟨hinv', hentries', hsome'⟩ := hinv.rebuildBuckets (t.buckets.length * 2 % 2^digits)
    exact ⟨hinv', hentries'.trans hentries, hsome'⟩
  · exact ⟨hinv, hentries, hsome⟩

theorem Inv.push (h : Inv digits s) (hsome : s.buckets ≠ []) (hroom : s.nodes.length < invalidNode.toNat)
    (key : UInt64) (value : UInt32) : Inv digits (s.push digits key value) := by
  have hpos : 0 < s.buckets.length := List.length_pos_iff.mpr hsome
  refine ⟨h.positive, fun bucket hbucket => ?_, ?_, fun hnil => ?_, ?_⟩
  · obtain hmem | rfl := List.mem_or_eq_of_mem_set hbucket
    · exact h.earlier bucket hmem
    · exact UInt32.le_refl _
  · unfold Index.push
    rw [List.length_append, List.length_singleton]
    exact hroom
  · have hlength := congrArg List.length hnil
    unfold Index.push at hlength
    rw [List.length_set, List.length_nil] at hlength
    exact absurd hlength (Nat.ne_of_gt hpos)
  · unfold Index.push
    dsimp only
    rw [List.length_append, List.length_singleton]
    refine h.linked.link ⟨key, value, invalidNode⟩ hpos (fun i hi => List.getElem?_append_left hi) ?_
    rw [List.getElem?_concat_length]
    rfl

theorem Inv.insert (h : Inv digits s) (key : UInt64) (value : UInt32) :
    Inv digits (s.insert digits key value) ∧ entries (s.insert digits key value).nodes =
        (entries s.nodes ++ [(key, value)]).take invalidNode.toNat := by
  have hlength : (entries s.nodes).length = s.nodes.length := List.length_map _
  have hcount := h.count
  unfold Index.insert
  split
  · rename_i hfull
    refine ⟨h, ?_⟩
    rw [List.take_append_of_le_length (by omega), List.take_of_length_le (by omega)]
  · rename_i hroom
    obtain ⟨hinv, hentries, hsome⟩ := h.makeRoom
    have hsame := length_of_entries hentries
    refine ⟨hinv.push hsome (by omega) key value, ?_⟩
    rw [List.take_of_length_le (by rw [List.length_append, List.length_singleton]; omega), ← hentries]
    exact List.map_append

theorem Inv.clear (h : Inv digits s) : Inv digits s.clear ∧ entries s.clear.nodes = [] := by
  -- A bucket of no generation has no head.
  have hlinked : ∀ generation (buckets : List Bucket), (∀ bucket ∈ buckets, bucket.generation ≠ generation) →
      Linked digits generation buckets [] 0 := by
    intro generation buckets hother
    refine ⟨fun place hlt => ?_, fun i hi => absurd hi (Nat.not_lt_zero i)⟩
    unfold headOf
    rw [List.getElem?_eq_getElem hlt]
    exact if_neg (hother _ (List.getElem_mem hlt))
  unfold Index.clear
  split
  · -- The generations start again.
    have hzero : ∀ bucket ∈ s.buckets.map fun bucket => { bucket with generation := 0 },
        bucket.generation = 0 := by
      intro bucket hbucket
      obtain ⟨old, -, rfl⟩ := List.mem_map.mp hbucket
      rfl
    have hone : (1 : UInt32) ≠ 0 := by decide
    refine ⟨⟨hone, fun bucket hbucket => ?_, Nat.zero_le _, fun _ => rfl, ?_⟩, rfl⟩
    · rw [hzero bucket hbucket]
      exact UInt32.zero_le
    · exact hlinked _ _ fun bucket hbucket heq => by
        rw [hzero bucket hbucket] at heq
        exact hone heq.symm
  · rename_i hnext
    have hlt : s.generation < s.generation + 1 := by
      rw [UInt32.lt_iff_toNat_lt]
      have hne : (s.generation + 1).toNat ≠ 0 := fun heq => hnext (UInt32.toNat_inj.mp heq)
      have hbound := s.generation.toNat_lt
      rw [UInt32.toNat_add] at hne ⊢
      have hone : (1 : UInt32).toNat = 1 := rfl
      omega
    refine ⟨⟨hnext, fun bucket hbucket => ?_, Nat.zero_le _, fun _ => rfl, ?_⟩, rfl⟩
    · exact UInt32.le_of_lt (UInt32.lt_of_le_of_lt (h.earlier bucket hbucket) hlt)
    · exact hlinked _ _ fun bucket hbucket heq =>
        UInt32.lt_irrefl _ (UInt32.lt_of_lt_of_le hlt (UInt32.le_trans (UInt32.le_of_eq heq.symm)
          (h.earlier bucket hbucket)))

theorem Inv.reserve (h : Inv digits s) (valueCount : ℕ) :
    Inv digits (s.reserve digits valueCount) ∧
      entries (s.reserve digits valueCount).nodes = entries s.nodes := by
  have hgrown : ∀ bucketCount t, t = (if bucketCount > s.buckets.length then
      s.rebuildBuckets digits bucketCount else s) → Inv digits t ∧ entries t.nodes = entries s.nodes := by
    rintro bucketCount t rfl
    split
    · obtain ⟨hinv, hentries, -⟩ := h.rebuildBuckets bucketCount
      exact ⟨hinv, hentries⟩
    · exact ⟨h, rfl⟩
  exact hgrown _ _ rfl

/-! ### Lookups -/

variable {σ : Type}

def visit (callback : UInt32 → σ → Bool × σ) : List UInt32 → σ → σ
  | [], seen => seen
  | value :: rest, seen =>
    match callback value seen with
    | (true, seen) => visit callback rest seen
    | (false, seen) => seen

def newestFirst (key : UInt64) (inserted : List (UInt64 × UInt32)) : List UInt32 :=
  ((inserted.filter fun entry => entry.1 = key).map Prod.snd).reverse

theorem newestFirst_concat (key : UInt64) (inserted : List (UInt64 × UInt32)) (entry : UInt64 × UInt32) :
    newestFirst key (inserted ++ [entry]) =
      if entry.1 = key then entry.2 :: newestFirst key inserted else newestFirst key inserted := by
  unfold newestFirst
  rw [List.filter_append, List.map_append, List.reverse_append]
  split <;> simp_all

theorem newestFirst_take_lastBefore {key : UInt64} (hn : n ≤ nodes.length) :
    newestFirst key (entries (nodes.take n)) =
      match lastBefore (fallsInto digits bucketCount nodes (hashBucket digits key bucketCount)) n with
      | none => []
      | some j => newestFirst key (entries (nodes.take (j + 1))) := by
  induction n with
  | zero => rfl
  | succ n ih =>
    have hlt : n < nodes.length := hn
    have hfalls : fallsInto digits bucketCount nodes (hashBucket digits key bucketCount) n =
        decide (hashBucket digits nodes[n].key bucketCount = hashBucket digits key bucketCount) := by
      unfold fallsInto
      rw [List.getElem?_eq_getElem hlt, Option.map_some, Option.any_some]
    by_cases hsame : hashBucket digits nodes[n].key bucketCount = hashBucket digits key bucketCount
    · rw [lastBefore_succ_of_pos (hfalls.trans (decide_eq_true hsame))]
    · have hne : nodes[n].key ≠ key := fun heq => hsame (by rw [heq])
      rw [lastBefore_succ_of_neg (hfalls.trans (decide_eq_false hsame)), ← ih (Nat.le_of_lt hlt),
        List.take_add_one, List.getElem?_eq_getElem hlt]
      unfold entries
      rw [List.map_append]
      exact (newestFirst_concat key _ _).trans (if_neg hne)

theorem walk_of_linked (key : UInt64) (h : Linked digits generation buckets nodes nodes.length)
    (hcount : nodes.length ≤ invalidNode.toNat) (callback : UInt32 → σ → Bool × σ)
    (hn : n ≤ nodes.length) {fuel : ℕ} (hfuel : n < fuel) (seen : σ) :
    walk nodes key callback fuel
        (lastInto digits buckets.length nodes (hashBucket digits key buckets.length) n) seen =
      some (visit callback (newestFirst key (entries (nodes.take n))) seen) := by
  induction n using Nat.strongRecOn generalizing fuel seen with
  | ind n ih =>
  obtain ⟨fuel, rfl⟩ := Nat.exists_eq_succ_of_ne_zero (Nat.ne_of_gt (Nat.lt_of_le_of_lt n.zero_le hfuel))
  rw [newestFirst_take_lastBefore hn]
  unfold lastInto
  cases hlast : lastBefore
      (fallsInto digits buckets.length nodes (hashBucket digits key buckets.length)) n with
  | none =>
    unfold walk
    exact if_pos rfl
  | some j =>
    have hj := lt_of_lastBefore hlast
    have hlt : j < nodes.length := Nat.lt_of_lt_of_le hj hn
    obtain ⟨hnat, hvalid⟩ := toNat_nodeIndexOf (Nat.lt_of_lt_of_le hlt hcount)
    -- The node goes on with the one before it in the same bucket.
    have hbucket : hashBucket digits nodes[j].key buckets.length =
        hashBucket digits key buckets.length := by
      have hfalls := of_lastBefore hlast
      unfold fallsInto at hfalls
      rw [List.getElem?_eq_getElem hlt, Option.map_some, Option.any_some] at hfalls
      exact of_decide_eq_true hfalls
    have hnext := h.nexts j hlt nodes[j] (List.getElem?_eq_getElem hlt)
    rw [hbucket] at hnext
    have hrest := fun seen => ih j hj (Nat.le_of_lt hlt) (show j < fuel by omega) seen
    have htake : entries (nodes.take (j + 1)) =
        entries (nodes.take j) ++ [(nodes[j].key, nodes[j].value)] := by
      rw [List.take_add_one, List.getElem?_eq_getElem hlt]
      unfold entries
      rw [List.map_append]
      rfl
    dsimp only
    unfold walk
    rw [if_neg hvalid, hnat, List.getElem?_eq_getElem hlt, htake, newestFirst_concat]
    dsimp only
    rw [hnext]
    split
    · unfold visit
      cases callback nodes[j].value seen with
      | mk more seen' =>
        cases more with
        | true => exact hrest seen'
        | false => rfl
    · exact hrest seen

theorem forEach_of_linked (h : Inv digits s) (key : UInt64) (callback : UInt32 → σ → Bool × σ)
    (seen : σ) :
    s.forEach digits key callback seen =
      some (visit callback (newestFirst key (entries s.nodes)) seen) := by
  unfold Index.forEach
  cases hbuckets : s.buckets with
  | nil =>
    rw [h.some hbuckets]
    rfl
  | cons bucket rest =>
    have hpos : 0 < s.buckets.length := by rw [hbuckets]; exact Nat.succ_pos _
    have hhead := h.linked.heads _ (hashBucket_lt digits key hpos)
    have hwalk := walk_of_linked key h.linked h.count callback (Nat.le_refl _) (Nat.lt_succ_self _) seen
    rw [List.take_length] at hwalk
    rw [← hwalk, ← hhead, ← hbuckets, if_neg (by rw [hbuckets]; exact Bool.false_ne_true)]
    unfold headOf
    dsimp only
    by_cases hsame : (s.buckets[hashBucket digits key s.buckets.length]?.getD {}).generation = s.generation
    · rw [if_pos hsame, if_neg (not_not.mpr hsame)]
    · rw [if_neg hsame, if_pos hsame]
      unfold walk
      exact (if_pos rfl).symm

/-! ### Runs -/

/-- What was inserted since the last `clear`. -/
def sinceClear (calls : List Call) : List (UInt64 × UInt32) :=
  calls.foldl (fun inserted call =>
    match call with
    | .clear => []
    | .reserve _ => inserted
    | .insert key value => inserted ++ [(key, value)]) []

theorem inv_init (digits : ℕ) : Inv digits {} where
  positive := by decide
  earlier _ h := by cases h
  count := Nat.zero_le _
  some _ := rfl
  linked := ⟨fun _ h => absurd h (Nat.not_lt_zero _), fun _ h => absurd h (Nat.not_lt_zero _)⟩

theorem inv_run (digits : ℕ) (calls : List Call) :
    Inv digits (run (step digits) calls {}) ∧
      entries (run (step digits) calls {}).nodes = (sinceClear calls).take invalidNode.toNat := by
  induction calls using List.reverseRecOn with
  | nil => exact ⟨inv_init digits, rfl⟩
  | append_singleton calls call ih =>
    obtain ⟨hinv, hentries⟩ := ih
    have hrun : run (step digits) (calls ++ [call]) {} =
        (step digits call (run (step digits) calls {})).2 := run_append _ _ _ _
    have hsince : sinceClear (calls ++ [call]) = (match call with
        | .clear => []
        | .reserve _ => sinceClear calls
        | .insert key value => sinceClear calls ++ [(key, value)]) := by
      unfold sinceClear
      rw [List.foldl_append]
      cases call <;> rfl
    rw [hrun, hsince]
    cases call with
    | clear =>
      obtain ⟨hinv', hentries'⟩ := hinv.clear
      exact ⟨hinv', hentries'.trans List.take_nil.symm⟩
    | reserve valueCount =>
      obtain ⟨hinv', hentries'⟩ := hinv.reserve valueCount
      exact ⟨hinv', hentries'.trans hentries⟩
    | insert key value =>
      obtain ⟨hinv', hentries'⟩ := hinv.insert key value
      refine ⟨hinv', hentries'.trans ?_⟩
      dsimp only
      rw [hentries]
      -- What did not fit before does not fit now.
      generalize sinceClear calls = inserted
      rcases Nat.lt_or_ge invalidNode.toNat inserted.length with hfull | hroom
      · rw [List.take_append_of_le_length (by rw [List.length_take]; omega),
          List.take_append_of_le_length (Nat.le_of_lt hfull), List.take_take, Nat.min_self]
      · rw [List.take_of_length_le hroom]

/-- After any run a lookup visits the values of its key from the newest to the oldest: those that were
inserted since the last `clear`, up to the one for which there was no index. -/
theorem forEach_run (digits : ℕ) (calls : List Call) (key : UInt64) (callback : UInt32 → σ → Bool × σ)
    (seen : σ) :
    (run (step digits) calls {}).forEach digits key callback seen =
      some (visit callback (newestFirst key ((sinceClear calls).take invalidNode.toNat)) seen) := by
  obtain ⟨hinv, hentries⟩ := inv_run digits calls
  rw [← hentries]
  exact forEach_of_linked hinv key callback seen

/-- Two values under one key, and a stale one. -/
example : (run (step 64) [.insert 5 1, .clear, .insert 5 2, .insert 6 3, .insert 5 4] {}).forEach 64 5
    (fun value seen => (true, seen ++ [value])) [] = some [4, 2] := by decide +kernel

def counts (_ : UInt32) (seen : ℕ) : Bool × ℕ := (true, seen + 1)

theorem visit_counts (values : List UInt32) (seen : ℕ) :
    visit counts values seen = seen + values.length := by
  induction values generalizing seen with
  | nil => rfl
  | cons value rest ih =>
    unfold visit counts
    rw [List.length_cons]
    exact (ih (seen + 1)).trans (by omega)

theorem sinceClear_replicate (n : ℕ) (key : UInt64) (value : UInt32) :
    sinceClear (List.replicate n (.insert key value)) = List.replicate n (key, value) := by
  induction n with
  | zero => rfl
  | succ n ih =>
    rw [List.replicate_succ', List.replicate_succ', ← ih]
    unfold sinceClear
    rw [List.foldl_append]
    rfl

theorem length_newestFirst_replicate (n : ℕ) (key : UInt64) (value : UInt32) :
    (newestFirst key (List.replicate n (key, value))).length = n := by
  unfold newestFirst
  rw [List.length_reverse, List.length_map, List.filter_eq_self.mpr, List.length_replicate]
  intro entry hentry
  rw [List.eq_of_mem_replicate hentry]
  exact decide_eq_true rfl

/-- There is no index for the last of `2^32` insertions. -/
theorem forEach_misses :
    ¬∀ (calls : List Call) (key : UInt64) (callback : UInt32 → ℕ → Bool × ℕ) (seen : ℕ),
      (run (step 64) calls {}).forEach 64 key callback seen =
        some (visit callback (newestFirst key (sinceClear calls)) seen) := by
  intro h
  have hall := h (List.replicate (2^32) (.insert 0 0)) 0 counts 0
  obtain ⟨hinv, hentries⟩ := inv_run 64 (List.replicate (2^32) (.insert 0 0))
  rw [forEach_of_linked hinv, hentries, sinceClear_replicate, List.take_replicate, visit_counts,
    visit_counts, length_newestFirst_replicate, length_newestFirst_replicate, Option.some.injEq] at hall
  exact absurd hall (by decide)

end War3VK.Render.FrameHashIndex
