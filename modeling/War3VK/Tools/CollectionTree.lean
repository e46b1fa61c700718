import Mathlib.Algebra.BigOperators.Intervals
import Mathlib.Algebra.Order.BigOperators.Group.Finset
import War3VK.Lib.Bits
import War3VK.Lib.Machine

/-!
# The tree of the data collection

`collection::Tree` (`src/d3d9/war3/tools/war3_data_collection_tree_core.h`). Scopes of the data
collection are entered and left, and each has a node below that of the scope around it. A node sums up
the ticks of its invocations, and those of the scopes that they entered. In an open invocation the
latter wait in its frame on the stack.
-/

namespace War3VK.Tools.CollectionTree

open Lib

/-- `Tag`: the values from `Root`, which is zero, up to `Count` have names. -/
abbrev Tag := UInt16

/-- `Tag::Count`. -/
def tagCount : Tag := 34

/-- `TreeSnapshot::Capacity`. -/
def capacity : ℕ := 512

/-- The size of `m_stack`. -/
def stackSize : ℕ := 64

/-- `Node`. -/
structure Node where
  parent : ℕ := 0
  tag : Tag := 0
  ticks : UInt64 := 0
  childTicks : UInt64 := 0
  calls : UInt64 := 0

/-- `Frame`. -/
structure Frame where
  node : ℕ
  token : UInt64
  start : UInt64
  children : UInt64

/-- `Tree`, with the `TreeSnapshot` in its first four fields. The innermost frame of the stack comes
first. -/
structure Tree where
  nodes : ℕ → Node := fun _ => {}
  count : ℕ := 1
  faulted : Bool := false
  faults : UInt64 := 0
  edges : ℕ → Tag → ℕ := fun _ _ => 0
  stack : List Frame := []
  serial : UInt64 := 0

namespace Tree

variable (t : Tree)

def fault : Tree where
  nodes := t.nodes
  count := t.count
  faulted := true
  faults := if t.faults ≠ 0xffffffffffffffff then t.faults + 1 else t.faults
  edges := t.edges
  stack := t.stack
  serial := t.serial

def setNode (i : ℕ) (node : Node) : Tree := { t with nodes := Function.update t.nodes i node }

def top : List Frame → ℕ
  | [] => 0
  | frame :: _ => frame.node

/-- `enter`: zero, or a token for `leave`. -/
def enter (tag : Tag) (now : UInt64) : UInt64 × Tree :=
  if t.faulted then (0, t)
  else if tag = 0 ∨ tagCount ≤ tag ∨ t.stack.length = stackSize ∨ t.serial = 0xffffffffffffffff then
    (0, t.fault)
  else if t.edges (top t.stack) tag = 0 then
    if t.count = capacity then (0, t.fault)
    else
      (t.serial + 1, { t with
        nodes := Function.update t.nodes t.count
          { t.nodes t.count with parent := top t.stack, tag }
        count := t.count + 1
        edges := Function.update t.edges (top t.stack)
          (Function.update (t.edges (top t.stack)) tag t.count)
        stack := ⟨t.count, t.serial + 1, now, 0⟩ :: t.stack
        serial := t.serial + 1 })
  else
    (t.serial + 1, { t with
      stack := ⟨t.edges (top t.stack) tag, t.serial + 1, now, 0⟩ :: t.stack
      serial := t.serial + 1 })

/-- `add`, without the fault: nothing if the sum is too large. -/
def add (sum value : UInt64) : Option UInt64 :=
  if 0xffffffffffffffff - sum < value then none else some (sum + value)

/-- A node with the sums that were made for it, one after the other, up to the first that is too
large. -/
def writeNode (i : ℕ) : Option UInt64 → Option UInt64 → Option UInt64 → Bool × Tree
  | none, _, _ => (false, t.fault)
  | some ticks, none, _ => (false, (t.setNode i { t.nodes i with ticks }).fault)
  | some ticks, some childTicks, none =>
    (false, (t.setNode i { t.nodes i with ticks, childTicks }).fault)
  | some ticks, some childTicks, some calls =>
    (true, t.setNode i { t.nodes i with ticks, childTicks, calls })

def addNode (i : ℕ) (elapsed children : UInt64) : Bool × Tree :=
  t.writeNode i (add (t.nodes i).ticks elapsed) (add (t.nodes i).childTicks children)
    (add (t.nodes i).calls 1)

def writeChildren (frame : Frame) (rest : List Frame) : Option UInt64 → Bool × Tree
  | none => (false, t.fault)
  | some children => (true, { t with stack := { frame with children } :: rest })

/-- What `leave` does last: the time of an invocation is added to the children of the frame around it,
or to the root. -/
def passOn (elapsed : UInt64) : Bool × Tree :=
  match t.stack with
  | [] => t.addNode 0 elapsed elapsed
  | frame :: rest => t.writeChildren frame rest (add frame.children elapsed)

/-- What `leave` does with the innermost frame once its token is right. -/
def close (frame : Frame) (now : UInt64) : Bool × Tree :=
  if now < frame.start ∨ now - frame.start < frame.children then (false, t.fault)
  else
    let left := t.addNode frame.node (now - frame.start) frame.children
    if left.1 then left.2.passOn (now - frame.start) else left

/-- `leave`. -/
def leave (token now : UInt64) : Bool × Tree :=
  if t.faulted then (false, t)
  else
    match t.stack with
    | [] => (false, t.fault)
    | frame :: rest =>
      if token = 0 ∨ frame.token ≠ token then (false, t.fault)
      else close { t with stack := rest } frame now

/-- The first loop of `closed`, over `remaining` nodes from `i` on: the sums of the ticks of the
children, unless a node is refused. -/
def childSums : ℕ → ℕ → (ℕ → UInt64) → Option (ℕ → UInt64)
  | 0, _, childSum => some childSum
  | remaining + 1, i, childSum =>
    let n := t.nodes i
    if i ≤ n.parent ∨ n.ticks < n.childTicks ∨ 0xffffffffffffffff - childSum n.parent < n.ticks then none
    else
      childSums remaining (i + 1) (Function.update childSum n.parent (childSum n.parent + n.ticks))

/-- `closed`. -/
def closed : Bool :=
  if t.faulted ∨ t.count = 0 ∨ capacity < t.count then false
  else
    match t.childSums (t.count - 1) 1 fun _ => 0 with
    | none => false
    | some childSum =>
      (List.range t.count).all (fun i =>
        !(childSum i ≠ (t.nodes i).childTicks || (t.nodes i).ticks < (t.nodes i).childTicks)) &&
        (t.nodes 0).ticks = (t.nodes 0).childTicks

end Tree

/-- A call of `enter` or `leave`. -/
inductive Call where
  | enter (tag : Tag) (now : UInt64)
  | leave (token now : UInt64)

inductive Answer where
  | token (token : UInt64)
  | left (success : Bool)

def step : Call → Tree → Answer × Tree
  | .enter tag now, t => ((.token (t.enter tag now).1), (t.enter tag now).2)
  | .leave token now, t => (.left (t.leave token now).1, (t.leave token now).2)

/-! ## Outermost invocations -/

abbrev Happened := Record Tree Call Answer

/-- The clock values at which the open invocations were entered, the innermost first, and the sum of the
durations of the outermost invocations that were left. -/
def invocationsAfter (o : List UInt64 × ℕ) (r : Happened) : List UInt64 × ℕ :=
  match r.call, r.output with
  | .enter _ now, .token token => if token = 0 then o else (now :: o.1, o.2)
  | .leave _ now, .left true =>
    match o.1 with
    | [] => o
    | [start] => ([], o.2 + (now.toNat - start.toNat))
    | _ :: rest => (rest, o.2)
  | _, _ => o

def invocations (past : List Happened) : List UInt64 × ℕ := past.foldl invocationsAfter ([], 0)

def outermost (past : List Happened) : ℕ := (invocations past).2

/-! ## The invariant -/

/-- The ticks of the children of a node, among the first `count` nodes. -/
def childTicksOf (nodes : ℕ → Node) (count p : ℕ) : ℕ :=
  ∑ i ∈ Finset.Ico 1 count, if (nodes i).parent = p then (nodes i).ticks.toNat else 0

def pending (stack : List Frame) (p : ℕ) : ℕ :=
  (stack.map fun frame => if frame.node = p then frame.children.toNat else 0).sum

def Nested (nodes : ℕ → Node) : List Frame → Prop
  | [] => True
  | frame :: rest => (nodes frame.node).parent = Tree.top rest ∧ Nested nodes rest

/-- The nodes of a tree, of which each has a parent before it and is found by its parent and tag. -/
structure Shaped (t : Tree) : Prop where
  pos : 0 < t.count
  small : t.count ≤ capacity
  unused : ∀ i, t.count ≤ i → t.nodes i = {}
  parents : ∀ i, 1 ≤ i → i < t.count → (t.nodes i).parent < i
  tags : ∀ i, 1 ≤ i → i < t.count → (t.nodes i).tag ≠ 0
  edges : ∀ p tag, t.edges p tag ≠ 0 → t.edges p tag < t.count ∧
    (t.nodes (t.edges p tag)).parent = p ∧ (t.nodes (t.edges p tag)).tag = tag
  found : ∀ i, 1 ≤ i → i < t.count → t.edges (t.nodes i).parent (t.nodes i).tag = i
  root : (t.nodes 0).parent = 0 ∧ (t.nodes 0).tag = 0
  frames : ∀ frame ∈ t.stack, 1 ≤ frame.node ∧ frame.node < t.count
  nested : Nested t.nodes t.stack

/-- The state of a tree without faults: what the frames have collected is all that is missing in the sums
of the nodes. -/
structure Balanced (past : List Happened) (t : Tree) : Prop extends Shaped t where
  within : ∀ i, (t.nodes i).childTicks ≤ (t.nodes i).ticks
  sums : ∀ p, 1 ≤ p →
    childTicksOf t.nodes t.count p = (t.nodes p).childTicks.toNat + pending t.stack p
  whole : (t.nodes 0).ticks = (t.nodes 0).childTicks ∧
    childTicksOf t.nodes t.count 0 = (t.nodes 0).childTicks.toNat
  starts : (invocations past).1 = t.stack.map Frame.start
  outer : (t.nodes 0).ticks.toNat = outermost past

variable {past : List Happened} {t t' : Tree} {nodes : ℕ → Node} {node : Node} {i count elapsed c : ℕ}

structure Grown (old node : Node) (elapsed c : ℕ) : Prop where
  parent : node.parent = old.parent
  tag : node.tag = old.tag
  ticks : node.ticks.toNat = old.ticks.toNat + elapsed
  childTicks : node.childTicks.toNat = old.childTicks.toNat + c

/-- What `leave` does when it causes no fault. -/
inductive Left (t : Tree) (now : UInt64) : Tree → Prop where
  | inner (frame around : Frame) (rest : List Frame) (node : Node) (children : UInt64)
      (hstack : t.stack = frame :: around :: rest) (hstart : frame.start ≤ now)
      (hchildren : frame.children.toNat ≤ now.toNat - frame.start.toNat)
      (hnode : Grown (t.nodes frame.node) node (now.toNat - frame.start.toNat) frame.children.toNat)
      (hsum : children.toNat = around.children.toNat + (now.toNat - frame.start.toNat)) :
      Left t now { t with
        nodes := Function.update t.nodes frame.node node
        stack := { around with children } :: rest }
  | outer (frame : Frame) (node root : Node) (hstack : t.stack = [frame]) (hstart : frame.start ≤ now)
      (hchildren : frame.children.toNat ≤ now.toNat - frame.start.toNat)
      (hnode : Grown (t.nodes frame.node) node (now.toNat - frame.start.toNat) frame.children.toNat)
      (hroot : Grown (Function.update t.nodes frame.node node 0) root
        (now.toNat - frame.start.toNat) (now.toNat - frame.start.toNat)) :
      Left t now { t with
        nodes := Function.update (Function.update t.nodes frame.node node) 0 root
        stack := [] }

theorem add_spec {a b sum : UInt64} (h : Tree.add a b = some sum) : sum.toNat = a.toNat + b.toNat := by
  have hover := max_sub_lt_iff a b
  unfold Tree.add at h
  by_cases hlarge : 0xffffffffffffffff - a < b
  · rw [if_pos hlarge] at h
    cases h
  · have hsmall := mt hover.mpr hlarge
    rw [if_neg hlarge, Option.some.injEq] at h
    rw [← h, UInt64.toNat_add, Nat.mod_eq_of_lt (by omega)]

theorem writeNode_cases (t : Tree) (i : ℕ) (ticks childTicks calls : Option UInt64) :
    (∃ ticks' childTicks' calls', ticks = some ticks' ∧ childTicks = some childTicks' ∧
      t.writeNode i ticks childTicks calls = (true, t.setNode i
        { t.nodes i with ticks := ticks', childTicks := childTicks', calls := calls' })) ∨
      (t.writeNode i ticks childTicks calls).1 = false ∧
        (t.writeNode i ticks childTicks calls).2.faulted = true := by
  rcases ticks with _ | ticks
  · exact .inr ⟨rfl, rfl⟩
  · rcases childTicks with _ | childTicks
    · exact .inr ⟨rfl, rfl⟩
    · rcases calls with _ | calls
      · exact .inr ⟨rfl, rfl⟩
      · exact .inl ⟨ticks, childTicks, calls, rfl, rfl, rfl⟩

theorem addNode_spec {t : Tree} {e children : UInt64} :
    (∃ node, t.addNode i e children = (true, t.setNode i node) ∧
        Grown (t.nodes i) node e.toNat children.toNat) ∨
      (t.addNode i e children).1 = false ∧ (t.addNode i e children).2.faulted = true := by
  unfold Tree.addNode
  rcases writeNode_cases t i (Tree.add (t.nodes i).ticks e) (Tree.add (t.nodes i).childTicks children)
    (Tree.add (t.nodes i).calls 1) with ⟨ticks, childTicks, calls, hticks, hchild, hwrite⟩ | hfault
  · exact .inl ⟨_, hwrite, rfl, rfl, add_spec hticks, add_spec hchild⟩
  · exact .inr hfault

theorem passOn_cases {e : UInt64} (s : Tree) :
    (∃ root, s.stack = [] ∧ s.passOn e = (true, s.setNode 0 root) ∧
        Grown (s.nodes 0) root e.toNat e.toNat) ∨
      (∃ frame rest children, s.stack = frame :: rest ∧
        s.passOn e = (true, { s with stack := { frame with children } :: rest }) ∧
          children.toNat = frame.children.toNat + e.toNat) ∨
      (s.passOn e).2.faulted = true := by
  unfold Tree.passOn
  cases hstack : s.stack with
  | nil =>
    dsimp only
    rcases @addNode_spec 0 s e e with ⟨root, hadd, hroot⟩ | ⟨-, hfault⟩
    · exact .inl ⟨root, rfl, hadd, hroot⟩
    · exact .inr (.inr hfault)
  | cons frame rest =>
    dsimp only
    generalize hsum : Tree.add frame.children e = sum
    rcases sum with _ | children
    · exact .inr (.inr rfl)
    · exact .inr (.inl ⟨frame, rest, children, rfl, rfl, add_spec hsum⟩)

theorem leave_cases (token now : UInt64) :
    (∃ t', t.leave token now = (true, t') ∧ t.faulted = false ∧ Left t now t') ∨
      (t.leave token now).2.faulted = true := by
  unfold Tree.leave
  by_cases hfaulted : t.faulted = true
  · rw [if_pos hfaulted]
    exact .inr hfaulted
  have hok : t.faulted = false := by simpa using hfaulted
  rw [if_neg hfaulted]
  cases hstack : t.stack with
  | nil => exact .inr rfl
  | cons frame rest =>
    dsimp only
    by_cases htoken : token = 0 ∨ frame.token ≠ token
    · rw [if_pos htoken]
      exact .inr rfl
    rw [if_neg htoken]
    unfold Tree.close
    by_cases hclock : now < frame.start ∨ now - frame.start < frame.children
    · rw [if_pos hclock]
      exact .inr rfl
    rw [if_neg hclock]
    rw [not_or, UInt64.not_lt, UInt64.not_lt] at hclock
    have helapsed : (now - frame.start).toNat = now.toNat - frame.start.toNat :=
      UInt64.toNat_sub_of_le _ _ hclock.1
    have hchildren := UInt64.le_iff_toNat_le.mp hclock.2
    rw [helapsed] at hchildren
    rcases @addNode_spec frame.node { t with stack := rest } (now - frame.start) frame.children with
      ⟨node, hadd, hnode⟩ | ⟨hfalse, hfault⟩
    · rw [hadd, if_pos rfl]
      rw [helapsed] at hnode
      rcases passOn_cases (Tree.setNode { t with stack := rest } frame.node node) with
        ⟨root, hnil, hpass, hroot⟩ | ⟨around, rest', children, hcons, hpass, hsum⟩ | hfault
      · obtain rfl : rest = [] := hnil
        rw [helapsed] at hroot
        exact .inl ⟨_, hpass, hok, .outer frame node root hstack hclock.1 hchildren hnode hroot⟩
      · obtain rfl : rest = around :: rest' := hcons
        rw [helapsed] at hsum
        exact .inl ⟨_, hpass, hok,
          .inner frame around rest' node children hstack hclock.1 hchildren hnode hsum⟩
      · exact .inr hfault
    · dsimp only
      rw [hfalse, if_neg Bool.false_ne_true]
      exact .inr hfault

/-! ## What one call preserves -/

variable {e children : ℕ}

theorem Grown.same (h : Grown (nodes i) node e c) (j : ℕ) :
    (Function.update nodes i node j).parent = (nodes j).parent ∧
      (Function.update nodes i node j).tag = (nodes j).tag := by
  rcases eq_or_ne j i with rfl | hne
  · rw [Function.update_self]
    exact ⟨h.parent, h.tag⟩
  · rw [Function.update_of_ne hne]
    exact ⟨rfl, rfl⟩

theorem childTicksOf_update (h : Grown (nodes i) node e c) (hi : 1 ≤ i) (hlt : i < count) (p : ℕ) :
    childTicksOf (Function.update nodes i node) count p =
      childTicksOf nodes count p + if (nodes i).parent = p then e else 0 := by
  have hterm : ∀ j ∈ Finset.Ico 1 count, (if (Function.update nodes i node j).parent = p then
        (Function.update nodes i node j).ticks.toNat else 0) =
      (if (nodes j).parent = p then (nodes j).ticks.toNat else 0) +
        if j = i then (if (nodes i).parent = p then e else 0) else 0 := by
    intro j _
    rcases eq_or_ne j i with rfl | hne
    · rw [Function.update_self, h.parent, h.ticks, if_pos rfl]
      split_ifs <;> rfl
    · rw [Function.update_of_ne hne, if_neg hne, Nat.add_zero]
  unfold childTicksOf
  rw [Finset.sum_congr rfl hterm, Finset.sum_add_distrib, Finset.sum_ite_eq',
    if_pos (Finset.mem_Ico.mpr ⟨hi, hlt⟩)]

theorem childTicksOf_root (nodes : ℕ → Node) (root : Node) (count p : ℕ) :
    childTicksOf (Function.update nodes 0 root) count p = childTicksOf nodes count p := by
  refine Finset.sum_congr rfl fun j hj => ?_
  have hne : j ≠ 0 := by
    have := (Finset.mem_Ico.mp hj).1
    omega
  rw [Function.update_of_ne hne]

theorem nested_congr {nodes nodes' : ℕ → Node} (h : ∀ j, (nodes' j).parent = (nodes j).parent) :
    ∀ {stack : List Frame}, Nested nodes stack → Nested nodes' stack
  | [], _ => trivial
  | frame :: _, hnested => ⟨(h frame.node).trans hnested.1, nested_congr h hnested.2⟩

theorem Shaped.update (h : Shaped t) (t' : Tree) (hcount : t'.count = t.count) (hedges : t'.edges = t.edges)
    (hsame : ∀ j, (t'.nodes j).parent = (t.nodes j).parent ∧ (t'.nodes j).tag = (t.nodes j).tag)
    (hunused : ∀ j, t.count ≤ j → t'.nodes j = t.nodes j)
    (hframes : ∀ frame ∈ t'.stack, ∃ other ∈ t.stack, other.node = frame.node)
    (hnested : Nested t.nodes t'.stack) : Shaped t' where
  pos := hcount ▸ h.pos
  small := hcount ▸ h.small
  unused j hj := by
    rw [hcount] at hj
    rw [hunused j hj, h.unused j hj]
  parents j hj hlt := by
    rw [(hsame j).1]
    exact h.parents j hj (hcount ▸ hlt)
  tags j hj hlt := by
    rw [(hsame j).2]
    exact h.tags j hj (hcount ▸ hlt)
  edges p tag hne := by
    rw [hedges] at hne ⊢
    rw [hcount, (hsame _).1, (hsame _).2]
    exact h.edges p tag hne
  found j hj hlt := by
    rw [hedges, (hsame j).1, (hsame j).2]
    exact h.found j hj (hcount ▸ hlt)
  root := by
    rw [(hsame 0).1, (hsame 0).2]
    exact h.root
  frames frame hframe := by
    obtain ⟨other, hother, heq⟩ := hframes frame hframe
    rw [hcount, ← heq]
    exact h.frames other hother
  nested := nested_congr (fun j => (hsame j).1) hnested

variable {past : List Happened} {r : Happened}

theorem invocations_concat : invocations (past ++ [r]) = invocationsAfter (invocations past) r :=
  List.foldl_append

theorem Grown.within (h : Grown (nodes i) node e c) (hle : c ≤ e)
    (hwithin : ∀ j, (nodes j).childTicks ≤ (nodes j).ticks) (j : ℕ) :
    (Function.update nodes i node j).childTicks ≤ (Function.update nodes i node j).ticks := by
  rcases eq_or_ne j i with rfl | hne
  · have hold := UInt64.le_iff_toNat_le.mp (hwithin j)
    rw [Function.update_self, UInt64.le_iff_toNat_le, h.ticks, h.childTicks]
    omega
  · rw [Function.update_of_ne hne]
    exact hwithin j

theorem Balanced.leave (h : Balanced past t) {token now : UInt64} (hleft : Left t now t') :
    Balanced (past ++ [⟨t, .leave token now, .left true⟩]) t' := by
  cases hleft with
  | inner frame around rest node children hstack hstart hchildren hnode hsum =>
    have hnested := h.nested
    rw [hstack] at hnested
    have hframe := h.frames frame (by simp [hstack])
    have haround := h.frames around (by simp [hstack])
    have hparent : (t.nodes frame.node).parent = around.node := hnested.1
    have hlt := h.parents _ hframe.1 hframe.2
    have hzero : Function.update t.nodes frame.node node 0 = t.nodes 0 :=
      Function.update_of_ne (by omega) _ _
    have hinvocations : invocations (past ++ [⟨t, .leave token now, .left true⟩]) =
        (around.start :: rest.map Frame.start, outermost past) := by
      rw [invocations_concat, invocationsAfter, h.starts, hstack]
      rfl
    refine { h.toShaped.update { t with
        nodes := Function.update t.nodes frame.node node
        stack := { around with children } :: rest } rfl rfl hnode.same
      (fun j hj => Function.update_of_ne (by omega) _ _) ?_ hnested.2 with
      within := hnode.within hchildren h.within, sums := ?_, whole := ?_, starts := ?_, outer := ?_ }
    · intro other hother
      rw [hstack]
      rcases List.mem_cons.mp hother with rfl | hother
      · exact ⟨around, by simp, rfl⟩
      · exact ⟨other, by simp [hother], rfl⟩
    · intro p hp
      have hsums := h.sums p hp
      rw [hstack] at hsums
      simp only [pending, List.map_cons, List.sum_cons] at hsums ⊢
      rw [childTicksOf_update hnode hframe.1 hframe.2, hsums, hparent]
      rcases eq_or_ne p frame.node with rfl | hne
      · have hother : around.node ≠ frame.node := by omega
        rw [Function.update_self, hnode.childTicks, if_pos rfl, if_neg hother, if_neg hother, if_neg hother]
        omega
      · rw [Function.update_of_ne hne, if_neg hne.symm]
        split_ifs <;> omega
    · dsimp only
      rw [hzero, childTicksOf_update hnode hframe.1 hframe.2, hparent, if_neg (by omega)]
      exact h.whole
    · rw [hinvocations]
      rfl
    · dsimp only
      rw [hzero, outermost, hinvocations]
      exact h.outer
  | outer frame node root hstack hstart hchildren hnode hroot =>
    have hnested := h.nested
    rw [hstack] at hnested
    have hframe := h.frames frame (by simp [hstack])
    have hparent : (t.nodes frame.node).parent = 0 := hnested.1
    have hzero : Function.update t.nodes frame.node node 0 = t.nodes 0 :=
      Function.update_of_ne (by omega) _ _
    have hinvocations : invocations (past ++ [⟨t, .leave token now, .left true⟩]) =
        ([], outermost past + (now.toNat - frame.start.toNat)) := by
      rw [invocations_concat, invocationsAfter, h.starts, hstack]
      rfl
    have hpos := h.pos
    refine { h.toShaped.update { t with
        nodes := Function.update (Function.update t.nodes frame.node node) 0 root
        stack := [] } rfl rfl
      (fun j => ⟨(hroot.same j).1.trans (hnode.same j).1, (hroot.same j).2.trans (hnode.same j).2⟩)
      (fun j hj => ?_) (fun _ hnone => absurd hnone List.not_mem_nil) trivial with
      within := hroot.within (Nat.le_refl _) (hnode.within hchildren h.within),
      sums := ?_, whole := ?_, starts := ?_, outer := ?_ }
    · dsimp only
      rw [Function.update_of_ne (by omega), Function.update_of_ne (by omega)]
    · intro p hp
      have hsums := h.sums p hp
      rw [hstack] at hsums
      simp only [pending, List.map_cons, List.map_nil, List.sum_cons, List.sum_nil] at hsums ⊢
      have hne0 : 0 ≠ p := by omega
      rw [childTicksOf_root, childTicksOf_update hnode hframe.1 hframe.2, hsums, hparent, if_neg hne0,
        Function.update_of_ne hne0.symm]
      rcases eq_or_ne p frame.node with rfl | hne
      · rw [Function.update_self, hnode.childTicks, if_pos rfl]
        omega
      · rw [Function.update_of_ne hne, if_neg hne.symm]
        omega
    · have hwhole := h.whole
      rw [hzero] at hroot
      dsimp only
      rw [childTicksOf_root, childTicksOf_update hnode hframe.1 hframe.2, hparent, if_pos rfl,
        Function.update_self]
      refine ⟨UInt64.toNat_inj.mp ?_, ?_⟩
      · rw [hroot.ticks, hroot.childTicks, hwhole.1]
      · rw [hroot.childTicks, hwhole.2]
    · rw [hinvocations]
      rfl
    · dsimp only
      rw [hzero] at hroot
      rw [Function.update_self, hroot.ticks, outermost, hinvocations, h.outer]

/-- What `enter` does when it causes no fault: it finds the node or takes a new one. -/
inductive Entered (t : Tree) (tag : Tag) (now : UInt64) : Tree → Prop where
  | found (hne : t.edges (Tree.top t.stack) tag ≠ 0) :
      Entered t tag now { t with
        stack := ⟨t.edges (Tree.top t.stack) tag, t.serial + 1, now, 0⟩ :: t.stack
        serial := t.serial + 1 }
  | new (htag : tag ≠ 0) (hroom : t.count ≠ capacity) (hnone : t.edges (Tree.top t.stack) tag = 0) :
      Entered t tag now { t with
        nodes := Function.update t.nodes t.count
          { t.nodes t.count with parent := Tree.top t.stack, tag }
        count := t.count + 1
        edges := Function.update t.edges (Tree.top t.stack)
          (Function.update (t.edges (Tree.top t.stack)) tag t.count)
        stack := ⟨t.count, t.serial + 1, now, 0⟩ :: t.stack
        serial := t.serial + 1 }

theorem enter_cases (tag : Tag) (now : UInt64) :
    (∃ token t', t.enter tag now = (token, t') ∧ token ≠ 0 ∧ t.faulted = false ∧ Entered t tag now t') ∨
      (t.enter tag now).2.faulted = true := by
  unfold Tree.enter
  by_cases hfaulted : t.faulted = true
  · rw [if_pos hfaulted]
    exact .inr hfaulted
  rw [if_neg hfaulted]
  by_cases hrefused : tag = 0 ∨ tagCount ≤ tag ∨ t.stack.length = stackSize ∨ t.serial = 0xffffffffffffffff
  · rw [if_pos hrefused]
    exact .inr rfl
  rw [if_neg hrefused]
  have htoken : t.serial + 1 ≠ 0 := fun hzero => hrefused (.inr (.inr (.inr (by
    rw [← UInt64.add_sub_cancel t.serial 1, hzero]
    rfl))))
  have hok : t.faulted = false := by simpa using hfaulted
  by_cases hnone : t.edges (Tree.top t.stack) tag = 0
  · rw [if_pos hnone]
    by_cases hroom : t.count = capacity
    · rw [if_pos hroom]
      exact .inr rfl
    · rw [if_neg hroom]
      exact .inl ⟨_, _, rfl, htoken, hok, .new (fun h => hrefused (.inl h)) hroom hnone⟩
  · rw [if_neg hnone]
    exact .inl ⟨_, _, rfl, htoken, hok, .found hnone⟩

theorem Shaped.top_lt (h : Shaped t) : Tree.top t.stack < t.count := by
  cases hstack : t.stack with
  | nil => exact h.pos
  | cons frame rest => exact (h.frames frame (by simp [hstack])).2

theorem Shaped.new (h : Shaped t) {tag : Tag} (htag : tag ≠ 0) (hroom : t.count ≠ capacity)
    (hnone : t.edges (Tree.top t.stack) tag = 0) {serial now : UInt64} {node : Node}
    (hparent : node.parent = Tree.top t.stack) (hnodeTag : node.tag = tag) :
    Shaped { t with
      nodes := Function.update t.nodes t.count node
      count := t.count + 1
      edges := Function.update t.edges (Tree.top t.stack)
        (Function.update (t.edges (Tree.top t.stack)) tag t.count)
      stack := ⟨t.count, serial, now, 0⟩ :: t.stack
      serial } where
  pos := Nat.succ_pos _
  small := Nat.lt_of_le_of_ne h.small hroom
  unused j hj := by
    dsimp only at hj ⊢
    rw [Function.update_of_ne (by omega)]
    exact h.unused j (by omega)
  parents j hj hlt := by
    dsimp only at hlt ⊢
    rcases eq_or_ne j t.count with rfl | hne
    · rw [Function.update_self, hparent]
      exact h.top_lt
    · rw [Function.update_of_ne hne]
      exact h.parents j hj (by omega)
  tags j hj hlt := by
    dsimp only at hlt ⊢
    rcases eq_or_ne j t.count with rfl | hne
    · rw [Function.update_self, hnodeTag]
      exact htag
    · rw [Function.update_of_ne hne]
      exact h.tags j hj (by omega)
  edges p tag' hne := by
    dsimp only at hne ⊢
    by_cases hsame : p = Tree.top t.stack ∧ tag' = tag
    · obtain ⟨rfl, rfl⟩ := hsame
      rw [Function.update_self, Function.update_self, Function.update_self]
      exact ⟨Nat.lt_succ_self _, hparent, hnodeTag⟩
    · have hold : Function.update t.edges (Tree.top t.stack)
          (Function.update (t.edges (Tree.top t.stack)) tag t.count) p tag' = t.edges p tag' := by
        rcases eq_or_ne p (Tree.top t.stack) with rfl | hp
        · rw [Function.update_self, Function.update_of_ne fun heq => hsame ⟨rfl, heq⟩]
        · rw [Function.update_of_ne hp]
      rw [hold] at hne ⊢
      obtain ⟨hlt, hrest⟩ := h.edges p tag' hne
      rw [Function.update_of_ne (by omega)]
      exact ⟨by omega, hrest⟩
  found j hj hlt := by
    dsimp only at hlt ⊢
    rcases eq_or_ne j t.count with rfl | hne
    · rw [Function.update_self, hparent, hnodeTag, Function.update_self, Function.update_self]
    · rw [Function.update_of_ne hne]
      have hfound := h.found j hj (by omega)
      rcases eq_or_ne (t.nodes j).parent (Tree.top t.stack) with hp | hp
      · rw [hp] at hfound
        rw [hp, Function.update_self, Function.update_of_ne, hfound]
        rintro rfl
        omega
      · rw [Function.update_of_ne hp, hfound]
  root := by
    have hpos := h.pos
    dsimp only
    rw [Function.update_of_ne (by omega)]
    exact h.root
  frames frame hframe := by
    dsimp only
    rcases List.mem_cons.mp hframe with rfl | hframe
    · exact ⟨h.pos, Nat.lt_succ_self _⟩
    · have := h.frames frame hframe
      omega
  nested := by
    refine ⟨by dsimp only; rw [Function.update_self, hparent], ?_⟩
    have hall : ∀ {stack : List Frame}, (∀ frame ∈ stack, frame.node < t.count) →
        Nested t.nodes stack → Nested (Function.update t.nodes t.count node) stack := by
      intro stack hlt hnested
      induction stack with
      | nil => trivial
      | cons frame rest ih =>
        have hframe := hlt frame (by simp)
        refine ⟨?_, ih (fun other hother => hlt other (by simp [hother])) hnested.2⟩
        rw [Function.update_of_ne (by omega)]
        exact hnested.1
    exact hall (fun frame hframe => (h.frames frame hframe).2) h.nested

theorem Balanced.enter (h : Balanced past t) {tag : Tag} {now token : UInt64} (htoken : token ≠ 0)
    (hentered : Entered t tag now t') :
    Balanced (past ++ [⟨t, .enter tag now, .token token⟩]) t' := by
  have hinvocations : invocations (past ++ [⟨t, .enter tag now, .token token⟩]) =
      (now :: t.stack.map Frame.start, outermost past) := by
    rw [invocations_concat, ← h.starts]
    exact if_neg htoken
  -- The new frame has collected nothing yet.
  have hpending : ∀ node serial p, pending (⟨node, serial, now, 0⟩ :: t.stack) p = pending t.stack p := by
    intro node serial p
    simp [pending]
  have hpos := h.pos
  cases hentered with
  | found hne =>
    obtain ⟨hlt, hparent, -⟩ := h.edges _ _ hne
    exact {
      h.toShaped with
      frames := fun frame hframe => by
        rcases List.mem_cons.mp hframe with rfl | hframe
        · exact ⟨Nat.pos_of_ne_zero hne, hlt⟩
        · exact h.frames frame hframe
      nested := ⟨hparent, h.nested⟩
      within := h.within
      sums := fun p hp => by
        dsimp only
        rw [hpending]
        exact h.sums p hp
      whole := h.whole
      starts := by rw [hinvocations]; rfl
      outer := by
        rw [outermost, hinvocations]
        exact h.outer }
  | new htag hroom hnone =>
    have hempty := h.unused t.count (Nat.le_refl _)
    have hsums : ∀ p, childTicksOf (Function.update t.nodes t.count
        { t.nodes t.count with parent := Tree.top t.stack, tag }) (t.count + 1) p =
          childTicksOf t.nodes t.count p := by
      intro p
      unfold childTicksOf
      rw [Finset.sum_Ico_succ_top hpos, Function.update_self, hempty]
      refine (congrArg₂ (· + ·) (Finset.sum_congr rfl fun j hj => ?_) (ite_self 0)).trans
        (Nat.add_zero _)
      rw [Function.update_of_ne (by have := (Finset.mem_Ico.mp hj).2; omega)]
    have hticks : ∀ j, (Function.update t.nodes t.count
        { t.nodes t.count with parent := Tree.top t.stack, tag } j).ticks = (t.nodes j).ticks ∧
      (Function.update t.nodes t.count
        { t.nodes t.count with parent := Tree.top t.stack, tag } j).childTicks =
          (t.nodes j).childTicks := by
      intro j
      rcases eq_or_ne j t.count with rfl | hne
      · rw [Function.update_self]
        exact ⟨rfl, rfl⟩
      · rw [Function.update_of_ne hne]
        exact ⟨rfl, rfl⟩
    exact {
      h.toShaped.new htag hroom hnone rfl rfl with
      within := fun j => by
        dsimp only
        rw [(hticks j).1, (hticks j).2]
        exact h.within j
      sums := fun p hp => by
        dsimp only
        rw [hpending, hsums, (hticks p).2]
        exact h.sums p hp
      whole := by
        dsimp only
        rw [(hticks 0).1, (hticks 0).2, hsums]
        exact h.whole
      starts := by rw [hinvocations]; rfl
      outer := by
        dsimp only
        rw [(hticks 0).1, outermost, hinvocations]
        exact h.outer }

/-! ## Runs -/

theorem balanced_run (calls : List Call) (h : (run step calls {}).faulted = false) :
    Balanced (history step calls {}) (run step calls {}) := by
  have hrun := @history_induction _ _ _ step
    (fun t past => t.faulted = false → Balanced past t) {} (fun _ => ?_) ?_ calls
  · exact hrun h
  · exact {
      pos := Nat.one_pos
      small := by decide
      unused := fun _ _ => rfl
      parents := fun i hi hlt => absurd hlt (Nat.not_lt.mpr hi)
      tags := fun i hi hlt => absurd hlt (Nat.not_lt.mpr hi)
      edges := fun _ _ hne => absurd rfl hne
      found := fun i hi hlt => absurd hlt (Nat.not_lt.mpr hi)
      root := ⟨rfl, rfl⟩
      frames := fun _ hnone => absurd hnone List.not_mem_nil
      nested := trivial
      within := fun _ => Nat.le_refl _
      sums := fun _ _ => rfl
      whole := ⟨rfl, rfl⟩
      starts := rfl
      outer := rfl }
  · intro t past call hbalanced hok
    cases call with
    | enter tag now =>
      rcases enter_cases tag now with ⟨token, t', henter, htoken, hfaulted, hentered⟩ | hfault
      · rw [record, step, henter]
        exact (hbalanced hfaulted).enter htoken hentered
      · rw [step] at hok
        rw [hfault] at hok
        cases hok
    | leave token now =>
      rcases leave_cases token now with ⟨t', hleave, hfaulted, hleft⟩ | hfault
      · rw [record, step, hleave]
        exact (hbalanced hfaulted).leave hleft
      · rw [step] at hok
        rw [hfault] at hok
        cases hok

/-! ## Closed trees -/

theorem childTicksOf_succ (nodes : ℕ → Node) {i : ℕ} (hi : 1 ≤ i) (p : ℕ) :
    childTicksOf nodes (i + 1) p =
      childTicksOf nodes i p + if (nodes i).parent = p then (nodes i).ticks.toNat else 0 :=
  Finset.sum_Ico_succ_top hi _

theorem childTicksOf_mono (nodes : ℕ → Node) {i j : ℕ} (hij : i ≤ j) (p : ℕ) :
    childTicksOf nodes i p ≤ childTicksOf nodes j p :=
  Finset.sum_le_sum_of_subset (Finset.Ico_subset_Ico_right hij)

theorem childSums_spec (hparents : ∀ j, 1 ≤ j → j < count → (t.nodes j).parent < j)
    (hwithin : ∀ j, (t.nodes j).childTicks ≤ (t.nodes j).ticks)
    (hsmall : ∀ p, childTicksOf t.nodes count p < 2 ^ 64) (remaining : ℕ) :
    ∀ (i : ℕ) (childSum : ℕ → UInt64), 1 ≤ i → i + remaining = count →
      (∀ p, (childSum p).toNat = childTicksOf t.nodes i p) →
        ∃ sums, t.childSums remaining i childSum = some sums ∧
          ∀ p, (sums p).toNat = childTicksOf t.nodes count p := by
  induction remaining with
  | zero =>
    intro i childSum hi hcount hsum
    obtain rfl : i = count := hcount
    exact ⟨childSum, rfl, hsum⟩
  | succ remaining ih =>
    intro i childSum hi hcount hsum
    have hsucc := childTicksOf_succ t.nodes hi (t.nodes i).parent
    rw [if_pos rfl, ← hsum] at hsucc
    have hroom : (childSum (t.nodes i).parent).toNat + (t.nodes i).ticks.toNat < 2 ^ 64 := by
      rw [← hsucc]
      exact Nat.lt_of_le_of_lt (childTicksOf_mono t.nodes (by omega) _) (hsmall _)
    have hover := mt (max_sub_lt_iff _ _).mp (Nat.not_le.mpr hroom)
    have hparent := hparents i hi (by omega)
    unfold Tree.childSums
    dsimp only
    rw [if_neg (not_or.mpr ⟨Nat.not_le.mpr hparent, not_or.mpr ⟨UInt64.not_lt.mpr (hwithin i), hover⟩⟩)]
    refine ih (i + 1) _ (by omega) (by omega) fun p => ?_
    rw [childTicksOf_succ t.nodes hi]
    rcases eq_or_ne p (t.nodes i).parent with rfl | hne
    · rw [Function.update_self, UInt64.toNat_add, Nat.mod_eq_of_lt hroom, if_pos rfl, hsum]
    · rw [Function.update_of_ne hne, if_neg hne.symm, hsum, Nat.add_zero]

theorem Balanced.sums_of_nil (h : Balanced past t) (hstack : t.stack = []) (p : ℕ) :
    childTicksOf t.nodes t.count p = (t.nodes p).childTicks.toNat := by
  rcases Nat.eq_zero_or_pos p with rfl | hp
  · exact h.whole.2
  · rw [h.sums p hp, hstack]
    rfl

theorem Balanced.closed (h : Balanced past t) (hfaulted : t.faulted = false) (hstack : t.stack = []) :
    t.closed = true := by
  have hpos := h.pos
  have hsums := h.sums_of_nil hstack
  obtain ⟨sums, hloop, hsum⟩ := childSums_spec h.parents h.within
    (fun p => hsums p ▸ (t.nodes p).childTicks.toNat_lt) (t.count - 1) 1 (fun _ => 0) (Nat.le_refl _)
    (by omega) (fun _ => rfl)
  have hrefused : ¬(t.faulted = true ∨ t.count = 0 ∨ capacity < t.count) := by
    rw [hfaulted]
    rintro (hfalse | hzero | hlarge)
    · cases hfalse
    · omega
    · exact absurd h.small (Nat.not_le.mpr hlarge)
  unfold Tree.closed
  rw [if_neg hrefused, hloop]
  dsimp only
  rw [Bool.and_eq_true, decide_eq_true_eq, List.all_eq_true]
  refine ⟨fun i _ => ?_, h.whole.1⟩
  have heq : sums i = (t.nodes i).childTicks := UInt64.toNat_inj.mp (by rw [hsum, hsums])
  rw [Bool.not_eq_true', Bool.or_eq_false_iff, decide_eq_false_iff_not, decide_eq_false_iff_not]
  exact ⟨not_not.mpr heq, UInt64.not_lt.mpr (h.within i)⟩

/-- A tree without a fault has one node at most for a parent and a tag. When no invocation is open, it is
closed: the child ticks of its nodes are the sums of the ticks of their children and not more than
their own, parents come before children, and the root has the time of all outermost invocations. -/
theorem tree_closes (calls : List Call) (h : (run step calls {}).faulted = false) :
    let t := run step calls {}
    (∀ i j, i < t.count → j < t.count → (t.nodes i).parent = (t.nodes j).parent →
      (t.nodes i).tag = (t.nodes j).tag → i = j) ∧
    (t.stack = [] → t.closed = true ∧
      (∀ i < t.count, (t.nodes i).childTicks.toNat = childTicksOf t.nodes t.count i ∧
        (t.nodes i).childTicks ≤ (t.nodes i).ticks ∧ (1 ≤ i → (t.nodes i).parent < i)) ∧
      (t.nodes 0).ticks.toNat = outermost (history step calls {})) := by
  have hbalanced := balanced_run calls h
  refine ⟨fun i j hi hj hparent htag => ?_, fun hstack => ⟨hbalanced.closed h hstack, ?_, hbalanced.outer⟩⟩
  · have hroot := hbalanced.root.2
    rcases Nat.eq_zero_or_pos i with rfl | hi'
    · rcases Nat.eq_zero_or_pos j with rfl | hj'
      · rfl
      · exact absurd (htag.symm.trans hroot) (hbalanced.tags j hj' hj)
    · rcases Nat.eq_zero_or_pos j with rfl | hj'
      · exact absurd (htag.trans hroot) (hbalanced.tags i hi' hi)
      · rw [← hbalanced.found i hi' hi, ← hbalanced.found j hj' hj, hparent, htag]
  · exact fun i hi => ⟨(hbalanced.sums_of_nil hstack i).symm, hbalanced.within i,
      fun hone => hbalanced.parents i hone hi⟩

/-- One invocation within another, of the ticks 10 to 19. -/
theorem tree_closes_nested :
    let t := run step [.enter 1 10, .enter 2 12, .leave 2 17, .leave 1 19] {}
    t.closed = true ∧ (t.nodes 0).ticks.toNat = 9 := by
  have h := (tree_closes [.enter 1 10, .enter 2 12, .leave 2 17, .leave 1 19] (by decide +kernel)).2
    (by decide +kernel)
  exact ⟨h.1, h.2.2.trans (by decide +kernel)⟩

end War3VK.Tools.CollectionTree
