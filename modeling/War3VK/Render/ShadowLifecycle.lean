import Mathlib.Logic.Function.Basic
import War3VK.Lib.Machine

/-!
# The lifecycle of shadow casters

The registry of casters that are gone (`src/d3d9/war3/render/war3_shadow_lifecycle.cpp`). A tombstone is
kept under a key for each thing that its identity knows of the caster, until a later sight of the
caster is acknowledged or the map changes; a history of the last tombstones is there for readers.
Pointers are words of the 32-bit process, and `0` is null. Publishing takes a serial first, and the lock
after it: `prepare` and `insert`. Counters of what happened are left out.
-/

namespace War3VK.Render.ShadowLifecycle

open Lib

/-- `kMaxTombstoneHistory`. -/
def kMaxTombstoneHistory : ℕ := 4096

/-- `ShadowCasterTombstoneReason`. -/
inductive TombstoneReason
  | hidden
  | removed
  | stageDisabled
  | replaced
  deriving DecidableEq, Repr

/-- `ShadowCasterIdentity`. -/
structure Identity where
  unitPtr : UInt32 := 0
  worldObjectEntry : UInt32 := 0
  sceneNode : UInt32 := 0
  renderablePart : UInt32 := 0
  jHandle : UInt32 := 0
  rawcode : UInt32 := 0
  producerStage : Int16 := -1
  deriving DecidableEq, Repr

/-- `hasStrongIdentity`. -/
def Identity.hasStrongIdentity (i : Identity) : Bool :=
  i.unitPtr ≠ 0 || i.worldObjectEntry ≠ 0 || i.sceneNode ≠ 0 || i.renderablePart ≠ 0 ||
    i.jHandle ≠ 0

/-- `ShadowCasterTombstone`. -/
structure Tombstone where
  identity : Identity := {}
  reason : TombstoneReason := .removed
  /-- The map that it was published in; `0` for a stage's policy. -/
  mapEpoch : UInt64 := 0
  eventSerial : UInt64 := 0
  stagePolicyRevision : UInt64 := 0
  /-- The last frame that the caster was seen in, if it is known. -/
  visibleFrameSerial : UInt64 := 0
  callerRva : UInt32 := 0
  deriving DecidableEq, Repr

/-! ## Keys -/

/-- `fnv1a_init`. -/
def fnv1aInit : UInt64 := 0xcbf29ce484222325

/-- `fnv1a_iter`. -/
def fnv1aIter (hash value : UInt64) : UInt64 := (hash ^^^ value) * 0x100000001b3

/-- `TaggedPointerKey` and `TaggedU32Key`. -/
def taggedKey (tag value : UInt32) : UInt64 :=
  if value = 0 then 0 else fnv1aIter (fnv1aIter fnv1aInit tag.toUInt64) value.toUInt64

/-- `append` in `BuildIdentityKeys`. -/
def appendKey (keys : List UInt64) (key : UInt64) : List UInt64 :=
  if key = 0 then keys else if key ∈ keys then keys else keys ++ [key]

/-- `BuildIdentityKeys`. -/
def buildIdentityKeys (i : Identity) : List UInt64 :=
  [taggedKey 1 i.unitPtr, taggedKey 2 i.jHandle, taggedKey 4 i.worldObjectEntry,
    taggedKey 5 i.sceneNode, taggedKey 7 i.renderablePart].foldl appendKey []

def stagesAgree (lhs rhs : Int16) : Bool := lhs < 0 || rhs < 0 || lhs = rhs

/-- `SameStageDomain`. -/
def sameStageDomain (t : Tombstone) (i : Identity) : Bool :=
  stagesAgree t.identity.producerStage i.producerStage

/-- `ShadowCasterIdentityMatches`. -/
def identityMatches (lhs rhs : Identity) : Bool :=
  if 0 ≤ lhs.producerStage && 0 ≤ rhs.producerStage && lhs.producerStage ≠ rhs.producerStage then
    false
  else
    (lhs.unitPtr ≠ 0 && lhs.unitPtr = rhs.unitPtr) ||
      (lhs.worldObjectEntry ≠ 0 && lhs.worldObjectEntry = rhs.worldObjectEntry) ||
      (lhs.sceneNode ≠ 0 && lhs.sceneNode = rhs.sceneNode) ||
      (lhs.renderablePart ≠ 0 && lhs.renderablePart = rhs.renderablePart) ||
      (lhs.jHandle ≠ 0 && lhs.jHandle = rhs.jHandle)

/-- `ShadowCasterTombstoneBelongsToMap`. -/
def belongsToMap (t : Tombstone) (mapEpoch : UInt64) : Bool :=
  t.reason = .stageDisabled || (mapEpoch ≠ 0 && t.mapEpoch = mapEpoch)

/-! ## The registry -/

/-- `LifecycleState` and the numbers beside it. -/
structure Registry where
  history : List Tombstone := []
  activeByIdentity : UInt64 → Option Tombstone := fun _ => none
  activeDisabledStages : Int16 → Option Tombstone := fun _ => none
  firstRetainedSerial : UInt64 := 1
  eventSerial : UInt64 := 0
  mapEpoch : UInt64 := 0
  stagePolicyRevision : UInt64 := 1

namespace Registry

def publishes (t : Tombstone) : Bool :=
  t.identity.hasStrongIdentity || t.reason = .stageDisabled

def stamp (t : Tombstone) (s : Registry) : Tombstone :=
  { t with
    mapEpoch := if t.reason = .stageDisabled then 0 else s.mapEpoch
    eventSerial := s.eventSerial + 1
    stagePolicyRevision :=
      if t.stagePolicyRevision = 0 then s.stagePolicyRevision else t.stagePolicyRevision }

/-- `PublishShadowCasterTombstone` before it takes the lock. -/
def prepare (t : Tombstone) (s : Registry) : Option Tombstone × Registry :=
  if publishes t then (some (s.stamp t), { s with eventSerial := s.eventSerial + 1 }) else (none, s)

def evict : List Tombstone → UInt64 → List Tombstone × UInt64
  | [], first => ([], first)
  | t :: rest, first =>
    if (t :: rest).length > kMaxTombstoneHistory then evict rest (first + 1) else (t :: rest, first)

def activate (t : Tombstone) (active : UInt64 → Option Tombstone) : UInt64 → Option Tombstone :=
  (buildIdentityKeys t.identity).foldl (fun active key => Function.update active key (some t)) active

/-- `PublishShadowCasterTombstone` under the lock. -/
def insert (t : Tombstone) (s : Registry) : Registry :=
  let kept := evict (s.history ++ [t]) s.firstRetainedSerial
  { s with
    activeDisabledStages :=
      if t.reason = .stageDisabled && 0 ≤ t.identity.producerStage then
        Function.update s.activeDisabledStages t.identity.producerStage (some t)
      else s.activeDisabledStages
    activeByIdentity := activate t s.activeByIdentity
    history := kept.1
    firstRetainedSerial := kept.2 }

/-- `PublishShadowCasterTombstone`: the serial, and the registry. -/
def publish (t : Tombstone) (s : Registry) : UInt64 × Registry :=
  match s.prepare t with
  | (none, s) => (0, s)
  | (some t, s) => (t.eventSerial, s.insert t)

def stale (t : Tombstone) (visibleFrameSerial stagePolicyRevision : UInt64) : Bool :=
  (t.reason = .stageDisabled && stagePolicyRevision ≤ t.stagePolicyRevision) ||
    (t.visibleFrameSerial ≠ 0 && visibleFrameSerial ≠ 0 &&
      visibleFrameSerial ≤ t.visibleFrameSerial)

def acknowledgeKey (i : Identity) (visibleFrameSerial stagePolicyRevision mapEpoch : UInt64)
    (r : Bool × (UInt64 → Option Tombstone)) (key : UInt64) :
    Bool × (UInt64 → Option Tombstone) :=
  match r.2 key with
  | none => r
  | some t =>
    if !belongsToMap t mapEpoch then (r.1, Function.update r.2 key none)
    else if !sameStageDomain t i then r
    else if stale t visibleFrameSerial stagePolicyRevision then r
    else (true, Function.update r.2 key none)

def stageAcknowledged (i : Identity) (stagePolicyRevision : UInt64) (s : Registry) : Bool :=
  0 ≤ i.producerStage &&
    (s.activeDisabledStages i.producerStage).any fun t => t.stagePolicyRevision < stagePolicyRevision

/-- `AcknowledgeFreshShadowCaster`: whether something was acknowledged, and the registry. -/
def acknowledge (i : Identity) (visibleFrameSerial stagePolicyRevision : UInt64) (s : Registry) :
    Bool × Registry :=
  if !i.hasStrongIdentity then (false, s)
  else
    let stage := s.stageAcknowledged i stagePolicyRevision
    let r := (buildIdentityKeys i).foldl
      (acknowledgeKey i visibleFrameSerial stagePolicyRevision s.mapEpoch) (stage, s.activeByIdentity)
    (r.1, { s with
      activeDisabledStages :=
        if stage then Function.update s.activeDisabledStages i.producerStage none
        else s.activeDisabledStages
      activeByIdentity := r.2 })

/-- `IsShadowCasterTombstoned`. -/
def isTombstoned (i : Identity) (s : Registry) : Bool :=
  if !i.hasStrongIdentity then false
  else if 0 ≤ i.producerStage && (s.activeDisabledStages i.producerStage).isSome then true
  else (buildIdentityKeys i).any fun key =>
    (s.activeByIdentity key).any fun t => belongsToMap t s.mapEpoch && sameStageDomain t i

/-- `ResetShadowCasterLifecycleMapEpoch`. -/
def reset (mapEpoch : UInt64) (s : Registry) : Registry :=
  if mapEpoch = 0 then s else { s with mapEpoch, activeByIdentity := fun _ => none }

def stageTombstone (producerStage : Int16) (visibleFrameSerial revision : UInt64) : Tombstone :=
  { identity := { producerStage }, reason := .stageDisabled, stagePolicyRevision := revision
    visibleFrameSerial }

/-- `AdvanceShadowStagePolicyRevision`. -/
def advanceRevision (s : Registry) : Registry :=
  { s with stagePolicyRevision := s.stagePolicyRevision + 1 }

/-- `PublishShadowStagePolicyTransition` for a stage that is enabled. -/
def enableStage (producerStage : Int16) (s : Registry) : Registry :=
  { s.advanceRevision with
    activeDisabledStages := Function.update s.activeDisabledStages producerStage none }

/-- `PublishShadowStagePolicyTransition`. -/
def policyTransition (producerStage : Int16) (enabled : Bool) (visibleFrameSerial : UInt64)
    (s : Registry) : Registry :=
  if producerStage < 0 then s
  else if enabled then s.enableStage producerStage
  else
    let s := s.advanceRevision
    (s.publish (stageTombstone producerStage visibleFrameSerial s.stagePolicyRevision)).2

/-- `SnapshotShadowCasterTombstonesAfter`: whether tombstones were forgotten, and those after a
serial. -/
def snapshotAfter (afterSerial : UInt64) (s : Registry) : Bool × List Tombstone :=
  (!s.history.isEmpty && afterSerial + 1 < s.firstRetainedSerial,
    s.history.filter fun t => afterSerial < t.eventSerial)

/-! ## Calls -/

inductive Call
  | publish (t : Tombstone)
  | acknowledge (i : Identity) (visibleFrameSerial stagePolicyRevision : UInt64)
  | isTombstoned (i : Identity)
  | reset (mapEpoch : UInt64)
  | policyTransition (producerStage : Int16) (enabled : Bool) (visibleFrameSerial : UInt64)
  deriving DecidableEq

/-- What a call returns; an acknowledgement tells its counter whether it was accepted. -/
inductive Output
  | published (eventSerial : UInt64)
  | acknowledged (accepted : Bool)
  | tombstoned (answer : Bool)
  | done
  deriving DecidableEq

def step (call : Call) (s : Registry) : Output × Registry :=
  match call with
  | .publish t =>
    let (serial, s) := s.publish t
    (.published serial, s)
  | .acknowledge i frame revision =>
    let (accepted, s) := s.acknowledge i frame revision
    (.acknowledged accepted, s)
  | .isTombstoned i => (.tombstoned (s.isTombstoned i), s)
  | .reset mapEpoch => (.done, s.reset mapEpoch)
  | .policyTransition producerStage enabled frame =>
    (.done, s.policyTransition producerStage enabled frame)

end Registry

end War3VK.Render.ShadowLifecycle

/-!
## How long a caster stays gone

The keys of different things are different, so an entry of the registry is touched only by calls about
the same thing. A tombstone therefore stays until the map changes, a sight of the caster that is not
known to be older is acknowledged, or another tombstone takes its place.
-/

namespace War3VK.Render.ShadowLifecycle

open Lib

/-! ### Keys -/

def tags : List UInt32 := [1, 2, 4, 5, 7]

theorem fnv1aIter_inj {a b v w : UInt64} (h : fnv1aIter a v = fnv1aIter b w) : a ^^^ v = b ^^^ w := by
  have hinverse : (0x100000001b3 : UInt64) * 0xce965057aff6957b = 1 := by decide
  have hmul := congrArg (· * (0xce965057aff6957b : UInt64)) h
  simp only [fnv1aIter, UInt64.mul_assoc, hinverse, UInt64.mul_one] at hmul
  exact hmul

theorem xor_low_shift (a : UInt64) (v : UInt32) : (a ^^^ v.toUInt64) >>> 32 = a >>> 32 := by
  have hlow : v.toUInt64 >>> 32 = 0 := by
    apply UInt64.toNat_inj.mp
    rw [UInt64.toNat_shiftRight, Nat.shiftRight_eq_div_pow, UInt32.toNat_toUInt64]
    exact Nat.div_eq_of_lt v.toNat_lt
  rw [UInt64.shiftRight_xor, hlow, UInt64.xor_zero]

theorem mem_tags {t : UInt32} (ht : t ∈ tags) : t = 1 ∨ t = 2 ∨ t = 4 ∨ t = 5 ∨ t = 7 := by
  simpa only [tags, List.mem_cons, List.not_mem_nil, or_false] using ht

theorem tag_inj : ∀ t ∈ tags, ∀ t' ∈ tags,
    fnv1aIter fnv1aInit t.toUInt64 >>> 32 = fnv1aIter fnv1aInit t'.toUInt64 >>> 32 → t = t' := by
  intro t ht t' ht'
  rcases mem_tags ht with rfl | rfl | rfl | rfl | rfl <;>
    rcases mem_tags ht' with rfl | rfl | rfl | rfl | rfl <;> decide +kernel

theorem tag_ne_zero : ∀ t ∈ tags, fnv1aIter fnv1aInit t.toUInt64 >>> 32 ≠ 0 := by
  intro t ht
  rcases mem_tags ht with rfl | rfl | rfl | rfl | rfl <;> decide +kernel

theorem taggedKey_ne_zero {tag value : UInt32} (htag : tag ∈ tags) (hvalue : value ≠ 0) :
    taggedKey tag value ≠ 0 := by
  rw [taggedKey, if_neg hvalue]
  intro h
  have hzero : fnv1aIter (fnv1aIter fnv1aInit tag.toUInt64) value.toUInt64 = fnv1aIter 0 0 := h
  have hxor := congrArg (· >>> (32 : UInt64)) (fnv1aIter_inj hzero)
  simp only [xor_low_shift] at hxor
  exact tag_ne_zero tag htag hxor

theorem taggedKey_inj {tag tag' value value' : UInt32} (htag : tag ∈ tags) (htag' : tag' ∈ tags)
    (hvalue : value ≠ 0) (hvalue' : value' ≠ 0) (h : taggedKey tag value = taggedKey tag' value') :
    tag = tag' ∧ value = value' := by
  rw [taggedKey, taggedKey, if_neg hvalue, if_neg hvalue'] at h
  have hxor := fnv1aIter_inj h
  have hshift := congrArg (· >>> (32 : UInt64)) hxor
  simp only [xor_low_shift] at hshift
  obtain rfl := tag_inj tag htag tag' htag' hshift
  refine ⟨rfl, ?_⟩
  have hvalues := (UInt64.xor_right_inj _).mp hxor
  exact UInt32.toUInt64_inj.mp hvalues

def Identity.knows (i : Identity) : List (UInt32 × UInt32) :=
  [(1, i.unitPtr), (2, i.jHandle), (4, i.worldObjectEntry), (5, i.sceneNode), (7, i.renderablePart)]

theorem mem_foldl_appendKey {key : UInt64} {keys appended : List UInt64} :
    key ∈ keys.foldl appendKey appended ↔ key ∈ appended ∨ key ≠ 0 ∧ key ∈ keys := by
  induction keys generalizing appended with
  | nil => simp
  | cons k keys ih =>
    rw [List.foldl_cons, ih, appendKey]
    split_ifs with hzero hmem
    · subst hzero
      grind
    · grind
    · grind

theorem mem_buildIdentityKeys {key : UInt64} {i : Identity} : key ∈ buildIdentityKeys i ↔
    ∃ field ∈ i.knows, field.2 ≠ 0 ∧ key = taggedKey field.1 field.2 := by
  have htags : ∀ field ∈ i.knows, field.1 ∈ tags := by simp [Identity.knows, tags]
  have hkeys : [taggedKey 1 i.unitPtr, taggedKey 2 i.jHandle, taggedKey 4 i.worldObjectEntry,
      taggedKey 5 i.sceneNode, taggedKey 7 i.renderablePart] =
        i.knows.map fun field => taggedKey field.1 field.2 := rfl
  rw [buildIdentityKeys, hkeys, mem_foldl_appendKey]
  simp only [List.not_mem_nil, false_or, List.mem_map]
  constructor
  · rintro ⟨hne, field, hfield, rfl⟩
    refine ⟨field, hfield, fun hzero => hne ?_, rfl⟩
    rw [taggedKey, if_pos hzero]
  · rintro ⟨field, hfield, hvalue, rfl⟩
    exact ⟨taggedKey_ne_zero (htags field hfield) hvalue, field, hfield, rfl⟩

def shares (a b : Identity) : Prop := ∃ field ∈ a.knows, field ∈ b.knows ∧ field.2 ≠ 0

variable {a b : Identity}

theorem shares_of_key {key : UInt64} (ha : key ∈ buildIdentityKeys a)
    (hb : key ∈ buildIdentityKeys b) : shares a b := by
  obtain ⟨field, hfield, hvalue, rfl⟩ := mem_buildIdentityKeys.mp ha
  obtain ⟨field', hfield', hvalue', heq⟩ := mem_buildIdentityKeys.mp hb
  have htags : ∀ i : Identity, ∀ field ∈ i.knows, field.1 ∈ tags := by simp [Identity.knows, tags]
  obtain ⟨htag, hval⟩ := taggedKey_inj (htags a field hfield) (htags b field' hfield') hvalue hvalue'
    heq
  exact ⟨field, hfield, (Prod.ext htag hval : field = field') ▸ hfield', hvalue⟩

theorem stagesAgree_eq_false {a b : Int16} :
    (0 ≤ a && 0 ≤ b && a ≠ b) = !stagesAgree a b := by
  rw [stagesAgree, Bool.eq_iff_iff]
  simp only [Bool.and_eq_true, decide_eq_true_eq, Bool.not_eq_true', Bool.or_eq_false_iff,
    decide_eq_false_iff_not, Int16.not_lt, ne_eq]

theorem identityMatches_iff : identityMatches a b = true ↔
    stagesAgree a.producerStage b.producerStage = true ∧ shares a b := by
  rw [identityMatches, stagesAgree_eq_false]
  cases stagesAgree a.producerStage b.producerStage with
  | false => simp
  | true =>
    simp only [Bool.not_true, Bool.false_eq_true, if_false, true_and, Bool.or_eq_true,
      Bool.and_eq_true, decide_eq_true_eq, shares, Identity.knows, List.mem_cons, List.not_mem_nil,
      or_false, exists_eq_or_imp, exists_eq_left, Prod.mk.injEq]
    simp
    tauto

theorem stagesAgree_comm (a b : Int16) : stagesAgree a b = stagesAgree b a := by
  rw [stagesAgree, stagesAgree, Bool.eq_iff_iff]
  simp only [Bool.or_eq_true, decide_eq_true_eq]
  tauto

namespace Registry

variable {s : Registry} {t : Tombstone} {i : Identity} {key : UInt64}

/-! ### Entries -/

theorem activate_apply (t : Tombstone) (active : UInt64 → Option Tombstone) (key : UInt64) :
    activate t active key = if key ∈ buildIdentityKeys t.identity then some t else active key := by
  rw [activate]
  generalize buildIdentityKeys t.identity = keys
  induction keys generalizing active with
  | nil => rfl
  | cons k keys ih =>
    rw [List.foldl_cons, ih, Function.update_apply]
    grind

def acknowledgedEntry (i : Identity) (frame revision mapEpoch : UInt64) :
    Option Tombstone → Option Tombstone
  | none => none
  | some t =>
    if belongsToMap t mapEpoch && (!sameStageDomain t i || stale t frame revision) then some t
    else none

variable {frame revision : UInt64}

theorem acknowledgeKey_apply (i : Identity) (frame revision mapEpoch : UInt64)
    (r : Bool × (UInt64 → Option Tombstone)) (k key : UInt64) :
    (acknowledgeKey i frame revision mapEpoch r k).2 key =
      if key = k then acknowledgedEntry i frame revision mapEpoch (r.2 key) else r.2 key := by
  unfold acknowledgeKey
  by_cases hkey : key = k
  · subst hkey
    rw [if_pos rfl]
    cases hentry : r.2 key with
    | none => simpa [acknowledgedEntry] using hentry
    | some t =>
      dsimp only [acknowledgedEntry]
      split_ifs with hmap hstage hstale <;> simp_all
  · rw [if_neg hkey]
    split
    · rfl
    · split_ifs <;> simp [hkey]

theorem acknowledgedEntry_idem (entry : Option Tombstone) (mapEpoch : UInt64) :
    acknowledgedEntry i frame revision mapEpoch (acknowledgedEntry i frame revision mapEpoch entry) =
      acknowledgedEntry i frame revision mapEpoch entry := by
  cases entry with
  | none => rfl
  | some t =>
    by_cases hkept : (belongsToMap t mapEpoch &&
        (!sameStageDomain t i || stale t frame revision)) = true
    · simp only [acknowledgedEntry, if_pos hkept]
    · simp only [acknowledgedEntry, if_neg hkept]

theorem foldl_acknowledgeKey_apply (keys : List UInt64) (mapEpoch : UInt64)
    (r : Bool × (UInt64 → Option Tombstone)) (key : UInt64) :
    (keys.foldl (acknowledgeKey i frame revision mapEpoch) r).2 key =
      if key ∈ keys then acknowledgedEntry i frame revision mapEpoch (r.2 key) else r.2 key := by
  induction keys generalizing r with
  | nil => rfl
  | cons k keys ih =>
    rw [List.foldl_cons, ih, acknowledgeKey_apply]
    by_cases hk : key = k
    · subst hk
      by_cases hmem : key ∈ keys
      · rw [if_pos hmem, if_pos rfl, if_pos List.mem_cons_self, acknowledgedEntry_idem]
      · rw [if_neg hmem, if_pos rfl, if_pos List.mem_cons_self]
    · rw [if_neg hk]
      simp [hk]

theorem acknowledge_activeByIdentity (h : i.hasStrongIdentity = true) (key : UInt64) :
    (s.acknowledge i frame revision).2.activeByIdentity key = if key ∈ buildIdentityKeys i then
        acknowledgedEntry i frame revision s.mapEpoch (s.activeByIdentity key)
      else s.activeByIdentity key := by
  unfold acknowledge
  rw [h]
  exact foldl_acknowledgeKey_apply _ _ _ _

theorem acknowledge_mapEpoch : (s.acknowledge i frame revision).2.mapEpoch = s.mapEpoch := by
  unfold acknowledge
  split_ifs <;> rfl

theorem publish_activeByIdentity (t : Tombstone) (key : UInt64) :
    (s.publish t).2.activeByIdentity key =
      if publishes t = true ∧ key ∈ buildIdentityKeys t.identity then some (s.stamp t)
      else s.activeByIdentity key := by
  unfold publish prepare
  by_cases hpublishes : publishes t = true
  · rw [if_pos hpublishes]
    show activate (s.stamp t) s.activeByIdentity key = _
    rw [activate_apply]
    by_cases hkey : key ∈ buildIdentityKeys t.identity
    · rw [if_pos (show key ∈ buildIdentityKeys (s.stamp t).identity from hkey), if_pos ⟨hpublishes, hkey⟩]
    · rw [if_neg (show key ∉ buildIdentityKeys (s.stamp t).identity from hkey), if_neg fun h => hkey h.2]
  · rw [if_neg hpublishes]
    simp [hpublishes]

theorem publish_mapEpoch (t : Tombstone) : (s.publish t).2.mapEpoch = s.mapEpoch := by
  unfold publish prepare
  split_ifs <;> rfl

theorem buildIdentityKeys_stage (producerStage : Int16) :
    buildIdentityKeys { producerStage := producerStage } = [] := rfl

theorem policyTransition_activeByIdentity (stage : Int16) (enabled : Bool) (frame key : UInt64) :
    (s.policyTransition stage enabled frame).activeByIdentity key = s.activeByIdentity key := by
  unfold policyTransition
  split_ifs
  · rfl
  · rfl
  · rw [publish_activeByIdentity]
    simp [stageTombstone, buildIdentityKeys_stage, advanceRevision]

theorem policyTransition_mapEpoch (stage : Int16) (enabled : Bool) (frame : UInt64) :
    (s.policyTransition stage enabled frame).mapEpoch = s.mapEpoch := by
  unfold policyTransition
  split_ifs
  · rfl
  · rfl
  · exact publish_mapEpoch _

/-! ### A tombstone stays -/

/-- A call can end the tombstone: the map is reset, a sight of the caster that is not known to be older
is acknowledged, or another tombstone about the same is published. -/
def Ends (t : Tombstone) : Call → Prop
  | .reset mapEpoch => mapEpoch ≠ 0
  | .acknowledge i frame revision =>
    identityMatches i t.identity = true ∧ stale t frame revision = false
  | .publish t' => publishes t' = true ∧ shares t'.identity t.identity
  | _ => False

structure Stands (t : Tombstone) (s : Registry) : Prop where
  map : belongsToMap t s.mapEpoch = true
  entry : ∀ key ∈ buildIdentityKeys t.identity, s.activeByIdentity key = some t

theorem Stands.step (h : Stands t s) {call : Call} (hcall : ¬Ends t call) :
    Stands t (Registry.step call s).2 := by
  cases call with
  | publish t' =>
    refine ⟨by rw [← h.map]; exact congrArg (belongsToMap t) (publish_mapEpoch t'), fun key hkey => ?_⟩
    show (s.publish t').2.activeByIdentity key = _
    rw [publish_activeByIdentity, if_neg, h.entry key hkey]
    -- A tombstone under the same key is about the same.
    exact fun hsame => hcall ⟨hsame.1, shares_of_key hsame.2 hkey⟩
  | acknowledge i frame revision =>
    refine ⟨by rw [← h.map]; exact congrArg (belongsToMap t) acknowledge_mapEpoch, fun key hkey => ?_⟩
    show (s.acknowledge i frame revision).2.activeByIdentity key = _
    by_cases hstrong : i.hasStrongIdentity = true
    · rw [acknowledge_activeByIdentity hstrong]
      by_cases hmem : key ∈ buildIdentityKeys i
      · rw [if_pos hmem, h.entry key hkey]
        -- The acknowledgement is about the same, so it has another stage or is older.
        have hkept : sameStageDomain t i = false ∨ stale t frame revision = true := by
          by_contra hneither
          rw [not_or, Bool.not_eq_false, Bool.not_eq_true] at hneither
          refine hcall ⟨identityMatches_iff.mpr ⟨?_, shares_of_key hmem hkey⟩, hneither.2⟩
          rw [stagesAgree_comm]
          exact hneither.1
        simp only [acknowledgedEntry]
        rw [if_pos]
        rw [h.map, Bool.true_and]
        rcases hkept with hstage | hstale
        · rw [hstage]
          rfl
        · rw [hstale, Bool.or_true]
      · rw [if_neg hmem, h.entry key hkey]
    · unfold acknowledge
      rw [eq_false_of_ne_true hstrong]
      exact h.entry key hkey
  | isTombstoned i => exact h
  | reset mapEpoch =>
    have hzero : mapEpoch = 0 := not_not.mp hcall
    show Stands t (s.reset mapEpoch)
    rw [reset, if_pos hzero]
    exact h
  | policyTransition stage enabled frame =>
    refine ⟨by
      rw [← h.map]
      exact congrArg (belongsToMap t) (policyTransition_mapEpoch stage enabled frame),
      fun key hkey => ?_⟩
    show (s.policyTransition stage enabled frame).activeByIdentity key = _
    rw [policyTransition_activeByIdentity, h.entry key hkey]

theorem Stands.run (h : Stands t s) {calls : List Call} (hcalls : ∀ call ∈ calls, ¬Ends t call) :
    Stands t (Lib.run Registry.step calls s) := by
  induction calls generalizing s with
  | nil => exact h
  | cons call calls ih =>
    rw [List.forall_mem_cons] at hcalls
    exact ih (h.step hcalls.1) hcalls.2

theorem key_of_shares (h : shares a b) :
    ∃ key, key ∈ buildIdentityKeys a ∧ key ∈ buildIdentityKeys b := by
  obtain ⟨field, ha, hb, hvalue⟩ := h
  exact ⟨taggedKey field.1 field.2, mem_buildIdentityKeys.mpr ⟨field, ha, hvalue, rfl⟩,
    mem_buildIdentityKeys.mpr ⟨field, hb, hvalue, rfl⟩⟩

theorem hasStrongIdentity_of_shares (h : shares a b) : a.hasStrongIdentity = true := by
  obtain ⟨field, ha, -, hvalue⟩ := h
  simp only [Identity.knows, List.mem_cons, List.not_mem_nil, or_false] at ha
  rcases ha with rfl | rfl | rfl | rfl | rfl <;> simp_all [Identity.hasStrongIdentity]

theorem Stands.isTombstoned (h : Stands t s) {q : Identity}
    (hmatches : identityMatches q t.identity = true) : s.isTombstoned q = true := by
  obtain ⟨hstage, hshares⟩ := identityMatches_iff.mp hmatches
  obtain ⟨key, hq, ht⟩ := key_of_shares hshares
  unfold Registry.isTombstoned
  rw [hasStrongIdentity_of_shares hshares]
  simp only [Bool.not_true, Bool.false_eq_true, if_false]
  split_ifs
  · rfl
  · rw [List.any_eq_true]
    refine ⟨key, hq, ?_⟩
    rw [h.entry key ht, Option.any_some, h.map, sameStageDomain, stagesAgree_comm, hstage]
    rfl

/-! ### A caster is back -/

/-- An acknowledgement is not known to be older than any tombstone that it meets. -/
structure Covers (i : Identity) (frame revision : UInt64) (s : Registry) : Prop where
  /-- The policy of the stage is older, when it is disabled. -/
  stage : ∀ t, 0 ≤ i.producerStage → s.activeDisabledStages i.producerStage = some t →
    t.stagePolicyRevision < revision
  entry : ∀ key ∈ buildIdentityKeys i, ∀ t, s.activeByIdentity key = some t →
    belongsToMap t s.mapEpoch = true → sameStageDomain t i = true → stale t frame revision = false

structure Cleared (i : Identity) (s : Registry) : Prop where
  stage : 0 ≤ i.producerStage → s.activeDisabledStages i.producerStage = none
  /-- Its keys lead to tombstones of other stages only. -/
  entry : ∀ key ∈ buildIdentityKeys i, ∀ t, s.activeByIdentity key = some t →
    sameStageDomain t i = false

def Publishes : Call → Prop
  | .publish t => publishes t = true
  | .policyTransition stage enabled _ => 0 ≤ stage ∧ enabled = false
  | _ => False

theorem acknowledgedEntry_eq_some {mapEpoch : UInt64} {entry : Option Tombstone}
    (h : acknowledgedEntry i frame revision mapEpoch entry = some t) : entry = some t ∧
      belongsToMap t mapEpoch = true ∧ (sameStageDomain t i = false ∨ stale t frame revision = true) := by
  cases entry with
  | none => cases h
  | some t' =>
    simp only [acknowledgedEntry] at h
    split_ifs at h with hkept
    cases h
    simp only [Bool.and_eq_true, Bool.or_eq_true, Bool.not_eq_true'] at hkept
    exact ⟨rfl, hkept⟩

theorem acknowledge_activeDisabledStages (stage : Int16)
    (h : (s.acknowledge i frame revision).2.activeDisabledStages stage = some t) :
    s.activeDisabledStages stage = some t ∧ (i.hasStrongIdentity = true → stage = i.producerStage →
      0 ≤ stage → ¬t.stagePolicyRevision < revision) := by
  unfold acknowledge at h
  by_cases hstrong : i.hasStrongIdentity = true
  · rw [hstrong] at h
    simp only [Bool.not_true, Bool.false_eq_true, if_false] at h
    by_cases hstage : s.stageAcknowledged i revision = true
    · rw [if_pos hstage, Function.update_apply] at h
      split_ifs at h with heq
      exact ⟨h, fun _ hsame => absurd hsame heq⟩
    · rw [if_neg hstage] at h
      refine ⟨h, fun _ hsame hknown hlt => hstage ?_⟩
      subst hsame
      simp [stageAcknowledged, hknown, h, hlt]
  · rw [eq_false_of_ne_true hstrong] at h
    exact ⟨h, fun hstrong' => absurd hstrong' hstrong⟩

theorem Covers.cleared (h : Covers i frame revision s) (hstrong : i.hasStrongIdentity = true) :
    Cleared i (s.acknowledge i frame revision).2 where
  stage hknown := by
    cases hstage : (s.acknowledge i frame revision).2.activeDisabledStages i.producerStage with
    | none => rfl
    | some t =>
      obtain ⟨hbefore, hnewer⟩ := acknowledge_activeDisabledStages i.producerStage hstage
      exact absurd (h.stage t hknown hbefore) (hnewer hstrong rfl hknown)
  entry key hkey t ht := by
    rw [acknowledge_activeByIdentity hstrong, if_pos hkey] at ht
    obtain ⟨hbefore, hmap, hkept⟩ := acknowledgedEntry_eq_some ht
    cases hstage : sameStageDomain t i with
    | false => rfl
    | true =>
      have hfresh := h.entry key hkey t hbefore hmap hstage
      rw [hstage, hfresh] at hkept
      exact hkept.elim Bool.noConfusion Bool.noConfusion

theorem Cleared.step (h : Cleared i s) {call : Call} (hcall : ¬Publishes call) :
    Cleared i (Registry.step call s).2 := by
  cases call with
  | publish t =>
    have hnone : s.publish t = (0, s) := by
      unfold publish prepare
      rw [if_neg (show ¬publishes t = true from hcall)]
    show Cleared i (s.publish t).2
    rw [hnone]
    exact h
  | acknowledge j frame revision =>
    refine ⟨fun hknown => ?_, fun key hkey t ht => ?_⟩
    · cases hstage : (s.acknowledge j frame revision).2.activeDisabledStages i.producerStage with
      | none => exact hstage
      | some t =>
        have hbefore := (acknowledge_activeDisabledStages i.producerStage hstage).1
        rw [h.stage hknown] at hbefore
        cases hbefore
    · have ht : (s.acknowledge j frame revision).2.activeByIdentity key = some t := ht
      by_cases hstrong : j.hasStrongIdentity = true
      · rw [acknowledge_activeByIdentity hstrong] at ht
        split_ifs at ht
        · exact h.entry key hkey t (acknowledgedEntry_eq_some ht).1
        · exact h.entry key hkey t ht
      · unfold acknowledge at ht
        rw [eq_false_of_ne_true hstrong] at ht
        exact h.entry key hkey t ht
  | isTombstoned j => exact h
  | reset mapEpoch =>
    show Cleared i (s.reset mapEpoch)
    unfold reset
    split_ifs
    · exact h
    · exact ⟨h.stage, fun key hkey t ht => (nomatch ht)⟩
  | policyTransition stage enabled frame =>
    show Cleared i (s.policyTransition stage enabled frame)
    unfold policyTransition
    split_ifs with hunknown henabled
    · exact h
    · refine ⟨fun hknown => ?_, h.entry⟩
      show Function.update s.activeDisabledStages stage none i.producerStage = none
      rw [Function.update_apply, h.stage hknown, ite_self]
    · exact absurd ⟨Int16.not_lt.mp hunknown, eq_false_of_ne_true henabled⟩ hcall

theorem Cleared.run (h : Cleared i s) {calls : List Call} (hcalls : ∀ call ∈ calls, ¬Publishes call) :
    Cleared i (Lib.run Registry.step calls s) := by
  induction calls generalizing s with
  | nil => exact h
  | cons call calls ih =>
    rw [List.forall_mem_cons] at hcalls
    exact ih (h.step hcalls.1) hcalls.2

theorem Cleared.isTombstoned (h : Cleared i s) : s.isTombstoned i = false := by
  unfold Registry.isTombstoned
  split_ifs with hstrong hstage
  · rfl
  · rw [Bool.and_eq_true, decide_eq_true_eq] at hstage
    rw [h.stage hstage.1] at hstage
    cases hstage.2
  · rw [List.any_eq_false]
    intro key hkey
    cases hentry : s.activeByIdentity key with
    | none => simp
    | some t => simp [h.entry key hkey t hentry]

/-! ### Every run -/

end Registry

end War3VK.Render.ShadowLifecycle
