import War3VK.Lib.Stretch
import War3VK.Lib.Bits

/-!
# Exclusive time

The timeline of a thread gives each tick to one bucket, that of the innermost scope that is open
(`src/d3d9/war3/tools/war3_frame_timeline_core.h`, `Ledger`). Scopes are entered and left by a token, and
a slice is what was counted since the last cut. An entry of the stack has a bucket that exists, which
`enter` checks before it makes one.
-/

namespace War3VK.Tools.FrameTimeline

/-- `BucketCount`. -/
abbrev bucketCount : ℕ := 40

abbrev Bucket := Fin bucketCount

/-- `Slice`. -/
structure Slice where
  start : UInt64 := 0
  /-- `end`. -/
  stop : UInt64 := 0
  self : Bucket → UInt64 := fun _ => 0
  inclusive : Bucket → UInt64 := fun _ => 0
  legacySelf : Bucket → UInt64 := fun _ => 0
  calls : Bucket → UInt32 := fun _ => 0
  legacyTicks : UInt64 := 0
  events : UInt64 := 0
  faults : UInt32 := 0

/-- `Entry`. -/
structure Entry where
  id : Bucket
  token : UInt64

/-- The size of `stack`. -/
def stackSize : ℕ := 64

/-- `Ledger`, with the entries of the stack that count, the innermost one last. -/
structure Ledger where
  /-- `stack`, below `depth`. -/
  stack : List Entry := []
  serial : UInt64 := 0
  last : UInt64 := 0
  insideLegacy : Bool := false
  faulted : Bool := false
  row : Slice := {}

/-- `array[index] += amount`. -/
def addAt (counts : Bucket → UInt64) (index : Bucket) (amount : UInt64) : Bucket → UInt64 :=
  Function.update counts index (counts index + amount)

/-- One entry in the loop over the stack, with the buckets that were seen. -/
def includeEntry (dt : UInt64) (state : ℕ × (Bucket → UInt64)) (entry : Entry) :
    ℕ × (Bucket → UInt64) :=
  let bit := 1 <<< entry.id.val
  (state.1 ||| bit, if state.1 &&& bit ≠ 0 then state.2 else addAt state.2 entry.id dt)

namespace Ledger

/-- `++row.faults; faulted = true`. -/
def fault (l : Ledger) : Ledger :=
  { l with faulted := true, row := { l.row with faults := l.row.faults + 1 } }

def leaf (l : Ledger) : Bucket :=
  if l.faulted then 0 else (l.stack.getLast?.map Entry.id).getD 0

/-- `advance`. -/
def advance (now : UInt64) (l : Ledger) : Ledger :=
  if l.last = 0 then { l with last := now, row := { l.row with start := now } }
  else if now < l.last then l.fault
  else
    let dt := now - l.last
    let row := l.row
    { l with
      last := now
      row := { row with
        self := addAt row.self l.leaf dt
        legacySelf := if l.insideLegacy then addAt row.legacySelf l.leaf dt else row.legacySelf
        legacyTicks := if l.insideLegacy then row.legacyTicks + dt else row.legacyTicks
        inclusive :=
          if l.faulted then row.inclusive
          else (l.stack.foldl (includeEntry dt) (0, row.inclusive)).2 } }

/-- `enter`, with the token it returns. -/
def enter (id : UInt32) (now : UInt64) (l : Ledger) : UInt64 × Ledger :=
  let l := l.advance now
  if h : id.toNat = 0 ∨ bucketCount ≤ id.toNat ∨ l.stack.length = stackSize ∨
      l.serial = 0xFFFFFFFFFFFFFFFF then (0, l.fault)
  else
    let bucket : Bucket := ⟨id.toNat, Nat.lt_of_not_le fun hle => h (.inr (.inl hle))⟩
    let token := l.serial + 1
    let calls := Function.update l.row.calls bucket (l.row.calls bucket + 1)
    (token,
      { l with
        serial := token
        stack := l.stack ++ [⟨bucket, token⟩]
        row := { l.row with calls := calls, events := l.row.events + 1 } })

/-- `leave`. -/
def leave (token now : UInt64) (l : Ledger) : Ledger :=
  if token = 0 then l
  else
    let l := l.advance now
    if l.stack.getLast?.all (·.token ≠ token) then l.fault
    else { l with stack := l.stack.dropLast, row := { l.row with events := l.row.events + 1 } }

/-- `legacy`. -/
def legacy (value : Bool) (now : UInt64) (l : Ledger) : Ledger :=
  { l.advance now with insideLegacy := value }

/-- `cut`, with the slice it returns. -/
def cut (now : UInt64) (l : Ledger) : Slice × Ledger :=
  let l := l.advance now
  ({ l.row with stop := now },
    { l with row := { start := now, faults := if l.faulted then 1 else 0 } })

end Ledger

/-! ## Calls -/

inductive Call where
  | enter (id : UInt32) (now : UInt64)
  | leave (token now : UInt64)
  | legacy (value : Bool) (now : UInt64)
  | advance (now : UInt64)
  | cut (now : UInt64)
  deriving DecidableEq, Repr

def Call.now : Call → UInt64
  | .enter _ now => now
  | .leave _ now => now
  | .legacy _ now => now
  | .advance now => now
  | .cut now => now

structure Timeline where
  ledger : Ledger := {}
  slices : List Slice := []

def step (t : Timeline) : Call → Timeline
  | .enter id now => { t with ledger := (t.ledger.enter id now).2 }
  | .leave token now => { t with ledger := t.ledger.leave token now }
  | .legacy value now => { t with ledger := t.ledger.legacy value now }
  | .advance now => { t with ledger := t.ledger.advance now }
  | .cut now =>
    let result := t.ledger.cut now
    ⟨result.2, t.slices ++ [result.1]⟩

def run (calls : List Call) : Timeline := calls.foldl step {}

def Timed (calls : List Call) : Prop :=
  (calls.map Call.now).Pairwise (· ≤ ·) ∧ ∀ call ∈ calls, call.now ≠ 0

/-! ## What is open -/

structure Scope where
  id : UInt32
  since : UInt64
  token : ℕ

def Call.entered : Call → Option (UInt32 × UInt64)
  | .enter id now => some (id, now)
  | _ => none

def entered (calls : List Call) : List Scope :=
  ((calls.filterMap Call.entered).zipIdx 1).map fun e => ⟨e.1.1, e.1.2, e.2⟩

def Call.leaves (scope : Scope) (time : ℕ) : Call → Bool
  | .leave token now => token.toNat = scope.token && now.toNat ≤ time
  | _ => false

/-- The scopes that are open at a time: they are entered and not left. -/
def openAt (calls : List Call) (time : ℕ) : List Scope :=
  (entered calls).filter fun scope =>
    scope.since.toNat ≤ time && !calls.any (Call.leaves scope time)

def innermostAt (calls : List Call) (time : ℕ) : ℕ :=
  ((openAt calls time).getLast?.map (·.id.toNat)).getD 0

def insideAt (calls : List Call) (time : ℕ) (bucket : ℕ) : Prop :=
  ∃ scope ∈ openAt calls time, scope.id.toNat = bucket

/-- What a call sets the legacy section to, if it is at a time or before. -/
def Call.setsLegacy (time : ℕ) : Call → Option Bool
  | .legacy value now => if now.toNat ≤ time then some value else none
  | _ => none

def legacyAt (calls : List Call) (time : ℕ) : Bool :=
  (calls.filterMap (Call.setsLegacy time)).getLast?.getD false

instance (calls : List Call) (time bucket : ℕ) : Decidable (insideAt calls time bucket) :=
  inferInstanceAs (Decidable (∃ _ ∈ _, _))

end War3VK.Tools.FrameTimeline

/-!
## What the timeline counts

Each tick between two calls goes to the leaf of the ledger. So the ticks of a slice add up to its length
and slices follow one another without a gap (`Balanced`).
-/

namespace War3VK.Tools.FrameTimeline

open Lib

/-! ### Additions -/

theorem toNat_add_of_lt {a b : UInt64} (h : a.toNat + b.toNat < 2 ^ 64) :
    (a + b).toNat = a.toNat + b.toNat := by
  rw [UInt64.toNat_add, Nat.mod_eq_of_lt h]

theorem toNat_addAt {counts : Bucket → UInt64} {index : Bucket} {dt : UInt64}
    (h : (counts index).toNat + dt.toNat < 2 ^ 64) (bucket : Bucket) :
    (addAt counts index dt bucket).toNat =
      (counts bucket).toNat + if index = bucket then dt.toNat else 0 := by
  unfold addAt
  by_cases heq : index = bucket
  · subst heq
    rw [Function.update_self, if_pos rfl, toNat_add_of_lt h]
  · rw [Function.update_of_ne (Ne.symm heq), if_neg heq, Nat.add_zero]

theorem sum_addAt {counts : Bucket → UInt64} {index : Bucket} {dt : UInt64}
    (h : (counts index).toNat + dt.toNat < 2 ^ 64) :
    ∑ bucket, (addAt counts index dt bucket).toNat = ∑ bucket, (counts bucket).toNat + dt.toNat := by
  calc ∑ bucket, (addAt counts index dt bucket).toNat
      = ∑ bucket, ((counts bucket).toNat + if index = bucket then dt.toNat else 0) :=
        Finset.sum_congr rfl fun bucket _ => toNat_addAt h bucket
    _ = ∑ bucket, (counts bucket).toNat + dt.toNat := by
      rw [Finset.sum_add_distrib, Finset.sum_ite_eq, if_pos (Finset.mem_univ _)]

theorem foldl_includeEntry (dt : UInt64) (stack : List Entry) (seen : ℕ)
    (counts : Bucket → UInt64) (bucket : Bucket) :
    (stack.foldl (includeEntry dt) (seen, counts)).2 bucket =
      if (∃ entry ∈ stack, entry.id = bucket) ∧ seen.testBit bucket = false then counts bucket + dt
      else counts bucket := by
  induction stack generalizing seen counts with
  | nil => simp
  | cons entry stack ih =>
    rw [List.foldl_cons, includeEntry, ih, testBit_or_bit]
    by_cases heq : entry.id = bucket
    · subst heq
      by_cases hseen : seen.testBit entry.id = true
      · rw [if_pos ((and_bit_ne_zero _ _).mpr hseen)]
        simp [hseen]
      · rw [if_neg (mt (and_bit_ne_zero _ _).mp hseen)]
        simp [hseen, addAt]
    · have hval : entry.id.val ≠ bucket.val := fun hval => heq (Fin.ext hval)
      have hcounts : (if seen &&& 1 <<< entry.id.val ≠ 0 then counts
          else addAt counts entry.id dt) bucket = counts bucket := by
        split
        · rfl
        · exact Function.update_of_ne (Ne.symm heq) _ _
      rw [hcounts]
      simp [heq, hval]

/-! ### Times -/

theorem Timed.append {calls : List Call} {call : Call} (h : Timed (calls ++ [call])) :
    Timed calls ∧ call.now ≠ 0 ∧ ∀ before ∈ calls, before.now ≤ call.now := by
  obtain ⟨hpair, hne⟩ := h
  rw [List.map_append, List.pairwise_append] at hpair
  refine ⟨⟨hpair.1, fun before hmem => hne before (List.mem_append_left _ hmem)⟩,
    hne call (by simp), fun before hmem => ?_⟩
  exact hpair.2.2 _ (List.mem_map_of_mem hmem) _ (by simp)

theorem run_append (calls : List Call) (call : Call) : run (calls ++ [call]) = step (run calls) call := by
  unfold run
  rw [List.foldl_append]
  rfl

variable {l : Ledger} {now : UInt64}

theorem Ledger.last_advance (hle : l.last ≤ now) : (l.advance now).last = now := by
  unfold Ledger.advance
  split
  · rfl
  · rw [if_neg (UInt64.not_lt.mpr hle)]

theorem Ledger.advance_frame (hle : l.last ≤ now) :
    (l.advance now).stack = l.stack ∧ (l.advance now).serial = l.serial ∧
      (l.advance now).insideLegacy = l.insideLegacy ∧ (l.advance now).faulted = l.faulted := by
  unfold Ledger.advance
  split
  · exact ⟨rfl, rfl, rfl, rfl⟩
  · rw [if_neg (UInt64.not_lt.mpr hle)]
    exact ⟨rfl, rfl, rfl, rfl⟩

theorem Ledger.start_advance (hle : l.last ≤ now) (hlast : l.last ≠ 0) :
    (l.advance now).row.start = l.row.start := by
  unfold Ledger.advance
  rw [if_neg hlast, if_neg (UInt64.not_lt.mpr hle)]

/-! ### Sums -/

structure Balanced (l : Ledger) : Prop where
  start_le : l.row.start ≤ l.last
  sum : ∑ bucket, (l.row.self bucket).toNat = l.last.toNat - l.row.start.toNat

theorem Balanced.advance (h : Balanced l) (hle : l.last ≤ now) : Balanced (l.advance now) := by
  have hstart := UInt64.le_iff_toNat_le.mp h.start_le
  have hnow := UInt64.le_iff_toNat_le.mp hle
  have hsum := h.sum
  unfold Ledger.advance
  split
  · rename_i hlast
    refine ⟨UInt64.le_refl _, ?_⟩
    rw [hlast, UInt64.toNat_zero] at hsum
    dsimp only
    rw [hsum]
    omega
  · rw [if_neg (UInt64.not_lt.mpr hle)]
    refine ⟨UInt64.le_trans h.start_le hle, ?_⟩
    have hdt : (now - l.last).toNat = now.toNat - l.last.toNat := UInt64.toNat_sub_of_le _ _ hle
    have hleaf : (l.row.self l.leaf).toNat ≤ ∑ bucket, (l.row.self bucket).toNat :=
      Finset.single_le_sum (f := fun bucket => (l.row.self bucket).toNat)
        (fun _ _ => Nat.zero_le _) (Finset.mem_univ l.leaf)
    have hlt := now.toNat_lt
    dsimp only
    rw [sum_addAt (by omega), hsum, hdt]
    omega

theorem Balanced.of_eq {l' : Ledger} (h : Balanced l) (hlast : l'.last = l.last)
    (hstart : l'.row.start = l.row.start) (hself : l'.row.self = l.row.self) : Balanced l' where
  start_le := by rw [hlast, hstart]; exact h.start_le
  sum := by rw [hlast, hstart, hself]; exact h.sum

structure Slice.Full (s : Slice) : Prop where
  start_le : s.start ≤ s.stop
  sum : ∑ bucket, (s.self bucket).toNat = s.stop.toNat - s.start.toNat

structure Whole (calls : List Call) (t : Timeline) : Prop where
  last : t.ledger.last = 0 ∨ ∃ call ∈ calls, call.now = t.ledger.last
  row : Balanced t.ledger
  slices : ∀ s ∈ t.slices, s.Full
  chain : t.slices.IsChain fun a b => a.stop = b.start
  starts : ∀ s, t.slices.getLast? = some s → t.ledger.last ≠ 0 ∧ s.stop = t.ledger.row.start

variable {t : Timeline}

theorem Whole.edit {calls : List Call} (h : Whole calls t) (hlast : l.last = t.ledger.last)
    (hstart : l.row.start = t.ledger.row.start) (hself : l.row.self = t.ledger.row.self) :
    Whole calls { t with ledger := l } where
  last := by
    obtain hzero | ⟨call, hmem, hnow⟩ := h.last
    · exact .inl (hlast.trans hzero)
    · exact .inr ⟨call, hmem, hnow.trans hlast.symm⟩
  row := h.row.of_eq hlast hstart hself
  slices := h.slices
  chain := h.chain
  starts s hs := by
    obtain ⟨hne, hstop⟩ := h.starts s hs
    exact ⟨fun hzero => hne (hlast.symm.trans hzero), hstop.trans hstart.symm⟩

theorem Whole.advance {calls : List Call} (h : Whole calls t) {call : Call} (hmem : call ∈ calls)
    (hne : call.now ≠ 0) (hle : t.ledger.last ≤ call.now) :
    Whole calls { t with ledger := t.ledger.advance call.now } where
  last := .inr ⟨call, hmem, (Ledger.last_advance hle).symm⟩
  row := h.row.advance hle
  slices := h.slices
  chain := h.chain
  starts s hs := by
    obtain ⟨hlast, hstop⟩ := h.starts s hs
    refine ⟨?_, hstop.trans (Ledger.start_advance hle hlast).symm⟩
    exact (Ledger.last_advance hle).symm ▸ hne

theorem Whole.cut {calls : List Call} (h : Whole calls t) (hmem : .cut now ∈ calls)
    (hne : now ≠ 0) (hle : t.ledger.last ≤ now) : Whole calls (step t (.cut now)) := by
  have hadvance := h.advance hmem hne hle
  have hlast : (t.ledger.advance now).last = now := Ledger.last_advance hle
  refine ⟨hadvance.last, ⟨UInt64.le_of_eq hlast.symm, ?_⟩, fun s hs => ?_, ?_, fun s hs => ?_⟩
  · calc ∑ bucket : Bucket, (0 : UInt64).toNat = 0 := Finset.sum_const_zero
      _ = (t.ledger.advance now).last.toNat - now.toNat := by rw [hlast, Nat.sub_self]
  · obtain hs | hs := List.mem_append.mp hs
    · exact h.slices s hs
    · rw [List.mem_singleton.mp hs]
      have hrow : Balanced (t.ledger.advance now) := hadvance.row
      exact ⟨UInt64.le_trans hrow.start_le (UInt64.le_of_eq hlast), hrow.sum.trans (by rw [hlast]; rfl)⟩
  · refine List.isChain_append.mpr ⟨h.chain, List.isChain_singleton _, fun a ha b hb => ?_⟩
    obtain rfl : _ = b := Option.some.inj hb
    exact (hadvance.starts a ha).2
  · rw [show (step t (.cut now)).slices.getLast? = _ from List.getLast?_concat] at hs
    obtain rfl := Option.some.inj hs
    exact ⟨hlast.symm ▸ hne, rfl⟩

theorem whole_run {calls : List Call} (htimed : Timed calls) : Whole calls (run calls) := by
  induction calls using List.reverseRecOn with
  | nil =>
    exact ⟨.inl rfl, ⟨UInt64.le_refl _, Finset.sum_const_zero⟩, fun s hs => (by cases hs), .nil,
      fun s hs => (by cases hs)⟩
  | append_singleton calls call ih =>
    obtain ⟨hbefore, hne, hle⟩ := htimed.append
    have h := ih hbefore
    have hlast : (run calls).ledger.last ≤ call.now := by
      obtain hzero | ⟨before, hmem, hnow⟩ := h.last
      · exact hzero ▸ UInt64.zero_le
      · exact hnow ▸ hle before hmem
    have hmore : Whole (calls ++ [call]) (run calls) :=
      { h with last := h.last.imp_right fun ⟨before, hmem, hnow⟩ =>
          ⟨before, List.mem_append_left _ hmem, hnow⟩ }
    have hmem : call ∈ calls ++ [call] := by simp
    have hadvance := hmore.advance hmem hne hlast
    rw [run_append]
    cases call with
    | enter id now =>
      unfold step Ledger.enter
      dsimp only
      split
      · exact hadvance.edit rfl rfl rfl
      · exact hadvance.edit rfl rfl rfl
    | leave token now =>
      unfold step Ledger.leave
      dsimp only
      split
      · exact hmore
      · split
        · exact hadvance.edit rfl rfl rfl
        · exact hadvance.edit rfl rfl rfl
    | legacy value now => exact hadvance.edit rfl rfl rfl
    | advance now => exact hadvance
    | cut now => exact hmore.cut hmem hne hlast

/-! ### Open scopes -/

theorem entered_append (calls : List Call) (call : Call) :
    entered (calls ++ [call]) = entered calls ++ ((call.entered.map fun e =>
      (⟨e.1, e.2, (calls.filterMap Call.entered).length + 1⟩ : Scope)).toList) := by
  unfold entered
  rw [List.filterMap_append, List.zipIdx_append, List.map_append]
  refine congrArg _ ?_
  cases hentered : call.entered with
  | none => simp [hentered]
  | some e => simp [hentered, Nat.add_comm]

theorem token_of_mem_entered {calls : List Call} {scope : Scope} (h : scope ∈ entered calls) :
    0 < scope.token ∧ scope.token ≤ (calls.filterMap Call.entered).length := by
  obtain ⟨⟨e, n⟩, hmem, rfl⟩ := List.mem_map.mp h
  obtain ⟨hle, hlt, -⟩ := List.mem_zipIdx hmem
  dsimp only
  omega

theorem entered_sorted (calls : List Call) :
    (entered calls).Pairwise fun a b => a.token < b.token := by
  induction calls using List.reverseRecOn with
  | nil => exact .nil
  | append_singleton calls call ih =>
    rw [entered_append]
    refine List.pairwise_append.mpr ⟨ih, ?_, fun a ha b hb => ?_⟩
    · cases call.entered with
      | none => exact .nil
      | some e => exact List.pairwise_singleton _ _
    · obtain ⟨e, -, rfl⟩ := Option.map_eq_some_iff.mp (Option.mem_toList.mp hb)
      have hle := (token_of_mem_entered ha).2
      exact Nat.lt_succ_of_le hle

variable {calls : List Call} {call : Call} {time : ℕ}

theorem not_leaves_of_lt {scope : Scope} (h : time < call.now.toNat) :
    call.leaves scope time = false := by
  cases call with
  | leave token now =>
    have hlt : ¬now.toNat ≤ time := Nat.not_le.mpr h
    unfold Call.leaves
    dsimp only
    rw [decide_eq_false hlt, Bool.and_false]
  | _ => rfl

theorem openAt_append_of_lt (h : time < call.now.toNat) :
    openAt (calls ++ [call]) time = openAt calls time := by
  unfold openAt
  rw [entered_append, List.filter_append]
  have hold : ∀ scope, (calls ++ [call]).any (Call.leaves scope time) =
      calls.any (Call.leaves scope time) := fun scope => by
    rw [List.any_append, List.any_cons, not_leaves_of_lt h, List.any_nil, Bool.or_false, Bool.or_false]
  simp only [hold]
  cases call with
  | enter id now =>
    have hlt : ¬now.toNat ≤ time := Nat.not_le.mpr h
    simp [Call.entered, hlt]
  | _ => simp [Call.entered]

theorem legacyAt_append_of_lt (h : time < call.now.toNat) :
    legacyAt (calls ++ [call]) time = legacyAt calls time := by
  have hnone : call.setsLegacy time = none := by
    cases call with
    | legacy value now =>
      exact if_neg (Nat.not_le.mpr h)
    | _ => rfl
  unfold legacyAt
  rw [List.filterMap_append, List.filterMap_cons_none hnone, List.filterMap_nil, List.append_nil]

theorem openAt_append_of_plain (hentered : call.entered = none)
    (hleaves : ∀ scope ∈ entered calls, call.leaves scope time = false) :
    openAt (calls ++ [call]) time = openAt calls time := by
  unfold openAt
  rw [entered_append, hentered, Option.map_none, Option.toList_none, List.append_nil]
  refine List.filter_congr fun scope hmem => ?_
  rw [List.any_append, List.any_cons, hleaves scope hmem, List.any_nil, Bool.or_false, Bool.or_false]

theorem openAt_append_leave {token : UInt64} (h : now.toNat ≤ time) :
    openAt (calls ++ [.leave token now]) time =
      (openAt calls time).filter fun scope => token.toNat ≠ scope.token := by
  unfold openAt
  rw [entered_append, List.filter_filter]
  have hnone : (Call.leave token now).entered = none := rfl
  rw [hnone, Option.map_none, Option.toList_none, List.append_nil]
  refine List.filter_congr fun scope _ => ?_
  have hleaves : (Call.leave token now).leaves scope time = decide (token.toNat = scope.token) := by
    unfold Call.leaves
    dsimp only
    rw [decide_eq_true h, Bool.and_true]
  rw [List.any_append, List.any_cons, hleaves, List.any_nil, Bool.or_false, Bool.not_or,
    decide_not, Bool.and_comm (!decide _), Bool.and_assoc]

theorem openAt_append_enter {id : UInt32} (h : now.toNat ≤ time)
    (hleft : ∀ token now, .leave token now ∈ calls → token.toNat ≤ (calls.filterMap Call.entered).length) :
    openAt (calls ++ [.enter id now]) time =
      openAt calls time ++ [⟨id, now, (calls.filterMap Call.entered).length + 1⟩] := by
  unfold openAt
  rw [entered_append, List.filter_append]
  have hold : ∀ scope, (calls ++ [Call.enter id now]).any (Call.leaves scope time) =
      calls.any (Call.leaves scope time) := fun scope => by
    rw [List.any_append, List.any_cons, List.any_nil, Bool.or_false]
    exact Bool.or_false _
  -- Nothing that was left has the new token.
  have hnew : calls.any (Call.leaves ⟨id, now, (calls.filterMap Call.entered).length + 1⟩ time) =
      false := by
    refine List.any_eq_false.mpr fun call hmem hleaves => ?_
    cases call with
    | leave token now' =>
      have heq := of_decide_eq_true (Bool.and_eq_true_iff.mp hleaves).1
      have hle := hleft token now' hmem
      dsimp only at heq
      omega
    | _ => cases hleaves
  simp only [hold]
  refine congrArg _ ?_
  simp [Call.entered, h, hnew]

end War3VK.Tools.FrameTimeline
