import War3VK.Lib.Survivors

/-!
# The metadata of alpha-tested shadows

`War3ShadowDrawMetadataFrameStore` (`src/src/d3d9/war3/shadow/war3_shadow_alpha_test_payload.cpp`): a
ring of three frame slots, each with the records that were published for one frame. The fields of the
payload that the store only copies are a parameter, pointers are words, and the counters are left out.
-/

namespace War3VK.Shadow

/-- `War3ShadowDrawMetadataQuery`. -/
structure DrawMetadataQuery where
  instanceIdentity : UInt32
  sceneNode : UInt32
  renderablePart : UInt32
  meshPayloadPtr : UInt32
  worldObjectEntry : UInt32
  unitPtr : UInt32
  jHandle : UInt32
  layerIndex : UInt32
  producerStage : Int16
  payloadWord108 : UInt32
  payloadWord11C : UInt32
  materialSignatureHash : UInt64
deriving DecidableEq

/-- `War3ShadowDrawMetadataKey`: the fields of a query and the identity of a texture. -/
structure DrawMetadataKey extends DrawMetadataQuery where
  textureIdentity : UInt32
  textureGeneration : UInt64
deriving DecidableEq

/-- `FoldMetadataHash`. -/
def foldMetadataHash (hash value : UInt64) : UInt64 :=
  hash ^^^ (value + 0x9e3779b97f4a7c15 + (hash <<< (6 : UInt64)) + (hash >>> (2 : UInt64)))

/-- `stableHash`. -/
def DrawMetadataKey.stableHash (key : DrawMetadataKey) : UInt64 :=
  let hash := [key.instanceIdentity.toUInt64, key.sceneNode.toUInt64, key.renderablePart.toUInt64,
    key.meshPayloadPtr.toUInt64, key.worldObjectEntry.toUInt64, key.unitPtr.toUInt64,
    key.jHandle.toUInt64, key.layerIndex.toUInt64, key.producerStage.toUInt16.toUInt64,
    key.payloadWord108.toUInt64, key.payloadWord11C.toUInt64, key.materialSignatureHash,
    key.textureIdentity.toUInt64, key.textureGeneration].foldl foldMetadataHash 0xcbf29ce484222325
  if hash ≠ 0 then hash else 1

/-- `MatchesQuery`. -/
def matchesQuery (key : DrawMetadataKey) (query : DrawMetadataQuery) (includeMaterial : Bool) :
    Bool :=
  key.instanceIdentity = query.instanceIdentity ∧ key.sceneNode = query.sceneNode ∧
    key.renderablePart = query.renderablePart ∧ key.meshPayloadPtr = query.meshPayloadPtr ∧
    key.worldObjectEntry = query.worldObjectEntry ∧ key.unitPtr = query.unitPtr ∧
    key.jHandle = query.jHandle ∧ key.layerIndex = query.layerIndex ∧
    key.producerStage = query.producerStage ∧ key.payloadWord108 = query.payloadWord108 ∧
    key.payloadWord11C = query.payloadWord11C ∧
    (!includeMaterial ∨ key.materialSignatureHash = query.materialSignatureHash)

/-- `War3ShadowMetadataBlockerReason`. -/
inductive BlockerReason
  | none
  | knownRawcode
  | widgetIdentity
  | smallFlat
  | belowGround
  | unreadable
deriving DecidableEq, Repr

/-- `War3ShadowAlphaTestPayload`, as far as the store looks at it. -/
structure AlphaTestPayload (A : Type) where
  diffuseTexture : UInt32
  frameSerial : UInt64
  uvPageGeneration : UInt64
  rest : A
deriving DecidableEq

/-- `War3ShadowDrawMetadata`. -/
structure DrawMetadata (A : Type) where
  key : DrawMetadataKey
  alpha : AlphaTestPayload A
  blockerReason : BlockerReason
  frameSerial : UInt64
  uvPageGeneration : UInt64
  alphaPayloadComplete : Bool
deriving DecidableEq

variable {A : Type}

/-- `hasBlocker`. -/
def DrawMetadata.hasBlocker (metadata : DrawMetadata A) : Bool :=
  metadata.blockerReason ≠ .none ∧ metadata.blockerReason ≠ .unreadable

/-- `MetadataTextureGenerationMatches`; the generation of a view is what its descriptor says now. -/
def metadataTextureGenerationMatches (textureGeneration : UInt32 → UInt64)
    (metadata : DrawMetadata A) : Bool :=
  metadata.alpha.diffuseTexture ≠ 0 ∧
    metadata.key.textureIdentity = metadata.alpha.diffuseTexture ∧
    metadata.key.textureGeneration ≠ 0 ∧
    metadata.key.textureGeneration = textureGeneration metadata.alpha.diffuseTexture

/-- `FrameSlot`. -/
structure FrameSlot (A : Type) where
  frameSerial : UInt64
  pageGeneration : UInt64
  records : List (DrawMetadata A)

/-- `m_slots`. -/
abbrev FrameStore (A : Type) := Fin 3 → FrameSlot A

def emptyStore : FrameStore A := fun _ => ⟨0, 0, []⟩

def slotOf (frameSerial : UInt64) : Fin 3 := ⟨frameSerial.toNat % 3, Nat.mod_lt _ (by decide)⟩

def FrameSlot.open (slot : FrameSlot A) (frameSerial : UInt64) : FrameSlot A :=
  if slot.frameSerial ≠ frameSerial then ⟨frameSerial, frameSerial, []⟩ else slot

/-- The metadata with the generation of the page that they are published to. -/
def DrawMetadata.paged (metadata : DrawMetadata A) (pageGeneration : UInt64) : DrawMetadata A :=
  { metadata with
    uvPageGeneration := pageGeneration
    alpha := { metadata.alpha with
      frameSerial := metadata.frameSerial
      uvPageGeneration := pageGeneration } }

/-- A record replaces the first of its key, or comes behind the last. -/
def storeRecord (records : List (DrawMetadata A)) (metadata : DrawMetadata A) :
    List (DrawMetadata A) :=
  match records.findIdx? fun item => item.key = metadata.key with
  | some existing => records.set existing metadata
  | none => records ++ [metadata]

/-- `publish`. -/
def publish (store : FrameStore A) (metadata : DrawMetadata A) : FrameStore A :=
  if metadata.frameSerial = 0 then store
  else
    let slot := (store (slotOf metadata.frameSerial)).open metadata.frameSerial
    Function.update store (slotOf metadata.frameSerial)
      { slot with records := storeRecord slot.records (metadata.paged slot.pageGeneration) }

/-- A record that `lookupAlpha` takes. -/
def usable (textureGeneration : UInt32 → UInt64) (query : DrawMetadataQuery) (frameSerial : UInt64)
    (slot : FrameSlot A) (item : DrawMetadata A) : Bool :=
  item.alphaPayloadComplete ∧ matchesQuery item.key query true ∧ item.frameSerial = frameSerial ∧
    item.uvPageGeneration = slot.pageGeneration ∧ item.alpha.frameSerial = frameSerial ∧
    item.alpha.uvPageGeneration = slot.pageGeneration ∧
    metadataTextureGenerationMatches textureGeneration item

/-- The loop of `lookupAlpha`, with the match so far. -/
def findAlpha (take : DrawMetadata A → Bool) :
    List (DrawMetadata A) → Option (DrawMetadata A) → Option (DrawMetadata A)
  | [], found => found
  | item :: rest, found =>
    if !take item then findAlpha take rest found
    else if found.any fun record => record.key ≠ item.key then none
    else findAlpha take rest (some item)

/-- `lookupAlpha`. -/
def lookupAlpha (store : FrameStore A) (textureGeneration : UInt32 → UInt64)
    (query : DrawMetadataQuery) (frameSerial : UInt64) : Option (DrawMetadata A) :=
  let slot := store (slotOf frameSerial)
  if frameSerial = 0 ∨ slot.frameSerial ≠ frameSerial then none
  else findAlpha (usable textureGeneration query frameSerial slot) slot.records none

/-- `lookupBlocker`: the reason and the hash of the key. -/
def lookupBlocker (store : FrameStore A) (query : DrawMetadataQuery) (frameSerial : UInt64) :
    Option (BlockerReason × UInt64) :=
  let slot := store (slotOf frameSerial)
  if frameSerial = 0 ∨ slot.frameSerial ≠ frameSerial then none
  else
    (slot.records.find? fun item => matchesQuery item.key query false && item.hasBlocker).map
      fun item => (item.blockerReason, item.key.stableHash)

/-- What `retire` is called with. -/
structure Retirement where
  renderablePart : UInt32
  sceneNode : UInt32
  worldObjectEntry : UInt32
  producerStage : Int16

def Retirement.retires (retirement : Retirement) (key : DrawMetadataKey) : Bool :=
  (retirement.producerStage ≥ 0 ∧ key.producerStage = retirement.producerStage) ∨
    (retirement.renderablePart ≠ 0 ∧ key.renderablePart = retirement.renderablePart) ∨
    (retirement.sceneNode ≠ 0 ∧ key.sceneNode = retirement.sceneNode) ∨
    (retirement.worldObjectEntry ≠ 0 ∧ key.worldObjectEntry = retirement.worldObjectEntry)

/-- `retire`. -/
def retire (store : FrameStore A) (retirement : Retirement) : FrameStore A := fun i =>
  { store i with records := (store i).records.filter fun item => !retirement.retires item.key }

inductive StoreCall (A : Type)
  | publish (metadata : DrawMetadata A)
  | retire (retirement : Retirement)
  | clear

def StoreCall.run (store : FrameStore A) : StoreCall A → FrameStore A
  | .publish metadata => Shadow.publish store metadata
  | .retire retirement => Shadow.retire store retirement
  | .clear => emptyStore

end War3VK.Shadow

/-!
## Runs of the metadata store

The ring is a map for each frame: after any calls, the records of a frame are those that were published
for it and were not replaced, retired, cleared or evicted since, each key once, and a lookup answers
from them.
-/

namespace War3VK.Shadow

variable {A : Type}

/-! ### Records -/

def DistinctKeys (records : List (DrawMetadata A)) : Prop :=
  records.Pairwise fun first second => first.key ≠ second.key

variable {records : List (DrawMetadata A)}

theorem mem_storeRecord (h : DistinctKeys records) (metadata item : DrawMetadata A) :
    item ∈ storeRecord records metadata ↔ item = metadata ∨ item ∈ records ∧ item.key ≠ metadata.key := by
  unfold storeRecord
  split
  · rename_i existing hfound
    obtain ⟨hlt, hkey, -⟩ := List.findIdx?_eq_some_iff_getElem.mp hfound
    rw [decide_eq_true_eq] at hkey
    constructor
    · intro hmem
      obtain ⟨i, hi, rfl⟩ := List.mem_iff_getElem.mp hmem
      rw [List.length_set] at hi
      rw [List.getElem_set]
      split_ifs with hplace
      · exact .inl rfl
      · refine .inr ⟨List.getElem_mem hi, fun heq => hplace ?_⟩
        have hpairwise := List.pairwise_iff_getElem.mp h
        rcases Nat.lt_trichotomy existing i with hlt' | heq' | hgt
        · exact absurd (hkey.trans heq.symm) (hpairwise existing i hlt hi hlt')
        · exact heq'
        · exact absurd (heq.trans hkey.symm) (hpairwise i existing hi hlt hgt)
    · rintro (rfl | ⟨hmem, hne⟩)
      · exact List.mem_set hlt item
      · obtain ⟨i, hi, rfl⟩ := List.mem_iff_getElem.mp hmem
        have hplace : existing ≠ i := by
          rintro rfl
          exact hne hkey
        have hset : i < (records.set existing metadata).length := by
          rw [List.length_set]
          exact hi
        rw [← List.getElem_set_ne hplace hset]
        exact List.getElem_mem hset
  · rename_i hfound
    have hnone := List.findIdx?_eq_none_iff.mp hfound
    rw [List.mem_append, List.mem_singleton, or_comm]
    refine or_congr_right (iff_self_and.mpr fun hmem heq => ?_)
    have hfalse := hnone item hmem
    rw [decide_eq_false_iff_not] at hfalse
    exact hfalse heq

theorem DistinctKeys.storeRecord (h : DistinctKeys records) (metadata : DrawMetadata A) :
    DistinctKeys (storeRecord records metadata) := by
  unfold Shadow.storeRecord
  split
  · rename_i existing hfound
    obtain ⟨hlt, hkey, -⟩ := List.findIdx?_eq_some_iff_getElem.mp hfound
    rw [decide_eq_true_eq] at hkey
    have hkeys : (records.set existing metadata).map DrawMetadata.key = records.map DrawMetadata.key := by
      have hlt' : existing < (records.map DrawMetadata.key).length := by
        rw [List.length_map]
        exact hlt
      have hget : (records.map DrawMetadata.key)[existing] = metadata.key := by
        rw [List.getElem_map]
        exact hkey
      rw [List.map_set, ← hget]
      exact List.set_getElem_self hlt'
    have hnodup : (records.map DrawMetadata.key).Pairwise (· ≠ ·) := List.pairwise_map.mpr h
    rw [← hkeys] at hnodup
    exact List.pairwise_map.mp hnodup
  · rename_i hfound
    have hnone := List.findIdx?_eq_none_iff.mp hfound
    refine List.pairwise_append.mpr ⟨h, List.pairwise_singleton _ _, fun item hmem last hlast => ?_⟩
    rw [List.mem_singleton.mp hlast]
    have hfalse := hnone item hmem
    rwa [decide_eq_false_iff_not] at hfalse

/-! ### Slots -/

/-- The records of a slot are those of one frame, which is one of the slot, with its page generation,
each key once. -/
structure FrameSlot.Sound (i : Fin 3) (slot : FrameSlot A) : Prop where
  keys : DistinctKeys slot.records
  page : slot.pageGeneration = slot.frameSerial
  frame : ∀ item ∈ slot.records, item.frameSerial = slot.frameSerial
  paged : ∀ item ∈ slot.records, item.paged slot.pageGeneration = item
  nonzero : ∀ item ∈ slot.records, item.frameSerial ≠ 0
  place : ∀ item ∈ slot.records, slotOf item.frameSerial = i

def FrameStore.Sound (store : FrameStore A) : Prop := ∀ i, (store i).Sound i

theorem FrameSlot.sound_nil (i : Fin 3) (frameSerial : UInt64) :
    (⟨frameSerial, frameSerial, []⟩ : FrameSlot A).Sound i where
  keys := List.Pairwise.nil
  page := rfl
  frame := fun item hitem => absurd hitem List.not_mem_nil
  paged := fun item hitem => absurd hitem List.not_mem_nil
  nonzero := fun item hitem => absurd hitem List.not_mem_nil
  place := fun item hitem => absurd hitem List.not_mem_nil

variable {i : Fin 3} {slot : FrameSlot A} {store : FrameStore A}

theorem FrameSlot.Sound.open (h : slot.Sound i) (frameSerial : UInt64) :
    (slot.open frameSerial).Sound i := by
  unfold FrameSlot.open
  split_ifs
  · exact FrameSlot.sound_nil i frameSerial
  · exact h

theorem open_frameSerial (slot : FrameSlot A) (frameSerial : UInt64) :
    (slot.open frameSerial).frameSerial = frameSerial := by
  unfold FrameSlot.open
  split_ifs with hframe
  · rfl
  · exact not_not.mp hframe

theorem FrameSlot.Sound.mem_open (h : slot.Sound i) (frameSerial : UInt64) (item : DrawMetadata A) :
    item ∈ (slot.open frameSerial).records ↔ item ∈ slot.records ∧ item.frameSerial = frameSerial := by
  unfold FrameSlot.open
  split_ifs with hframe
  · refine iff_of_false List.not_mem_nil ?_
    rintro ⟨hmem, hserial⟩
    exact hframe ((h.frame item hmem).symm.trans hserial)
  · refine (and_iff_left_of_imp fun hmem => ?_).symm
    rw [h.frame item hmem]
    exact not_not.mp hframe

theorem FrameSlot.Sound.storeRecord (h : slot.Sound i) {metadata : DrawMetadata A}
    (hframe : metadata.frameSerial = slot.frameSerial) (hnonzero : metadata.frameSerial ≠ 0)
    (hplace : slotOf metadata.frameSerial = i) :
    ({ slot with records := storeRecord slot.records (metadata.paged slot.pageGeneration) } :
      FrameSlot A).Sound i := by
  have hmem := fun item => (mem_storeRecord h.keys (metadata.paged slot.pageGeneration) item).mp
  refine ⟨h.keys.storeRecord _, h.page, fun item hitem => ?_, fun item hitem => ?_,
    fun item hitem => ?_, fun item hitem => ?_⟩
  · obtain rfl | ⟨hold, -⟩ := hmem item hitem
    · exact hframe
    · exact h.frame item hold
  · obtain rfl | ⟨hold, -⟩ := hmem item hitem
    · rfl
    · exact h.paged item hold
  · obtain rfl | ⟨hold, -⟩ := hmem item hitem
    · exact hnonzero
    · exact h.nonzero item hold
  · obtain rfl | ⟨hold, -⟩ := hmem item hitem
    · exact hplace
    · exact h.place item hold

/-! ### Calls -/

def FrameStore.Holds (store : FrameStore A) (item : DrawMetadata A) : Prop :=
  item ∈ (store (slotOf item.frameSerial)).records

def StoreCall.published : StoreCall A → Option (DrawMetadata A)
  | .publish metadata =>
    if metadata.frameSerial = 0 then none else some (metadata.paged metadata.frameSerial)
  | _ => none

/-- A call removes a record: it replaces it, evicts it for another frame of its slot, retires it or
clears the store. -/
def StoreCall.Removes : StoreCall A → DrawMetadata A → Prop
  | .publish metadata, item =>
    metadata.frameSerial ≠ 0 ∧ slotOf metadata.frameSerial = slotOf item.frameSerial ∧
      (metadata.frameSerial = item.frameSerial → metadata.key = item.key)
  | .retire retirement, item => retirement.retires item.key
  | .clear, _ => True

theorem FrameStore.Sound.run (h : store.Sound) (call : StoreCall A) : (call.run store).Sound := by
  intro i
  cases call with
  | publish metadata =>
    unfold StoreCall.run
    dsimp only
    unfold Shadow.publish
    split_ifs with hzero
    · exact h i
    · by_cases hplace : i = slotOf metadata.frameSerial
      · subst hplace
        rw [Function.update_self]
        exact ((h _).open _).storeRecord (open_frameSerial _ _).symm hzero rfl
      · rw [Function.update_of_ne hplace]
        exact h i
  | retire retirement =>
    have hmem := fun item (hitem : item ∈ (StoreCall.run store (.retire retirement) i).records) =>
      (List.mem_filter.mp hitem).1
    exact ⟨(h i).keys.filter _, (h i).page, fun item hitem => (h i).frame item (hmem item hitem),
      fun item hitem => (h i).paged item (hmem item hitem),
      fun item hitem => (h i).nonzero item (hmem item hitem),
      fun item hitem => (h i).place item (hmem item hitem)⟩
  | clear => exact FrameSlot.sound_nil i 0

theorem FrameStore.Sound.holds_run_iff (h : store.Sound) (call : StoreCall A)
    (item : DrawMetadata A) :
    (call.run store).Holds item ↔ call.published = some item ∨ store.Holds item ∧ ¬call.Removes item := by
  unfold FrameStore.Holds
  cases call with
  | publish metadata =>
    unfold StoreCall.run StoreCall.published StoreCall.Removes
    dsimp only
    unfold Shadow.publish
    by_cases hzero : metadata.frameSerial = 0
    · simp [hzero]
    · rw [if_neg hzero, if_neg hzero, Option.some_inj]
      have hopen := (h (slotOf metadata.frameSerial)).open metadata.frameSerial
      have hserial := open_frameSerial (store (slotOf metadata.frameSerial)) metadata.frameSerial
      by_cases hplace : slotOf item.frameSerial = slotOf metadata.frameSerial
      · rw [hplace, Function.update_self]
        dsimp only
        rw [mem_storeRecord hopen.keys, (h _).mem_open, hopen.page, hserial, eq_comm]
        refine or_congr_right ?_
        have hkey : (metadata.paged metadata.frameSerial).key = metadata.key := rfl
        rw [hkey]
        constructor
        · rintro ⟨⟨hmem, hframe⟩, hne⟩
          exact ⟨hmem, fun hremoves => hne (hremoves.2.2 hframe.symm).symm⟩
        · rintro ⟨hmem, hkept⟩
          have hframe : item.frameSerial = metadata.frameSerial := by
            by_contra hne
            exact hkept ⟨hzero, rfl, fun heq => absurd heq.symm hne⟩
          exact ⟨⟨hmem, hframe⟩, fun heq => hkept ⟨hzero, rfl, fun _ => heq.symm⟩⟩
      · rw [Function.update_of_ne hplace]
        constructor
        · intro hmem
          exact .inr ⟨hmem, fun hremoves => hplace hremoves.2.1.symm⟩
        · rintro (rfl | ⟨hmem, -⟩)
          · exact absurd rfl hplace
          · exact hmem
  | retire retirement =>
    unfold StoreCall.run StoreCall.published StoreCall.Removes
    dsimp only
    unfold Shadow.retire
    simp [List.mem_filter]
  | clear =>
    unfold StoreCall.run StoreCall.published StoreCall.Removes
    simp [emptyStore]

def Published (calls : List (StoreCall A)) (frameSerial : UInt64) (item : DrawMetadata A) : Prop :=
  item.frameSerial = frameSerial ∧ Lib.Survives StoreCall.published StoreCall.Removes calls item

def storeAfter (calls : List (StoreCall A)) : FrameStore A := calls.foldl StoreCall.run emptyStore

theorem storeAfter_spec (calls : List (StoreCall A)) :
    (storeAfter calls).Sound ∧ ∀ item, (storeAfter calls).Holds item ↔
      Lib.Survives StoreCall.published StoreCall.Removes calls item :=
  @Lib.holds_foldl_iff _ _ _ StoreCall.published StoreCall.Removes StoreCall.run FrameStore.Sound
    FrameStore.Holds emptyStore (fun i => FrameSlot.sound_nil i 0) (fun _ => List.not_mem_nil)
    (fun _ call h => h.run call) (fun _ call item h => h.holds_run_iff call item) calls

/-! ### Lookups -/

/-- A record that answers a query: it is complete, matches, and its texture is the one of its key. -/
def Answers (textureGeneration : UInt32 → UInt64) (query : DrawMetadataQuery)
    (item : DrawMetadata A) : Prop :=
  item.alphaPayloadComplete ∧ matchesQuery item.key query true ∧
    metadataTextureGenerationMatches textureGeneration item

theorem findAlpha_some {take : DrawMetadata A → Bool} {found : DrawMetadata A}
    (h : ∀ item ∈ records, found.key ≠ item.key) :
    findAlpha take records (some found) = if records.any take then none else some found := by
  induction records with
  | nil => rfl
  | cons item rest ih =>
    have hrest := ih fun later hmem => h later (List.mem_cons_of_mem item hmem)
    rw [findAlpha, List.any_cons]
    cases htake : take item with
    | false => rw [if_pos (by rfl), hrest, Bool.false_or]
    | true =>
      have hkey : (some found).any (fun record => decide (record.key ≠ item.key)) = true := by
        simpa using h item List.mem_cons_self
      rw [if_neg (by simp), if_pos hkey, Bool.true_or, if_pos rfl]

theorem findAlpha_none_iff {take : DrawMetadata A → Bool} (h : DistinctKeys records)
    (found : DrawMetadata A) :
    findAlpha take records none = some found ↔ found ∈ records ∧ take found = true ∧
        ∀ item ∈ records, take item = true → item = found := by
  induction records with
  | nil => simp [findAlpha]
  | cons item rest ih =>
    obtain ⟨hkeys, hrest⟩ := List.pairwise_cons.mp h
    rw [findAlpha]
    cases htake : take item with
    | false =>
      rw [if_pos (by rfl), ih hrest]
      have hne : ∀ record, take record = true → record ≠ item := by
        rintro record hrecord rfl
        rw [htake] at hrecord
        cases hrecord
      constructor
      · rintro ⟨hmem, hfound, hall⟩
        refine ⟨List.mem_cons_of_mem item hmem, hfound, fun record hrecord htaken => ?_⟩
        exact hall record ((List.mem_cons.mp hrecord).resolve_left (hne record htaken)) htaken
      · rintro ⟨hmem, hfound, hall⟩
        exact ⟨(List.mem_cons.mp hmem).resolve_left (hne found hfound), hfound,
          fun record hrecord => hall record (List.mem_cons_of_mem item hrecord)⟩
    | true =>
      rw [if_neg (by simp), if_neg (by simp), findAlpha_some hkeys]
      split_ifs with hany
      · obtain ⟨other, hother, htaken⟩ := List.any_eq_true.mp hany
        refine iff_of_false (by simp) ?_
        rintro ⟨-, -, hall⟩
        have hitem := hall item List.mem_cons_self htake
        have hsame := hall other (List.mem_cons_of_mem item hother) htaken
        exact hkeys other hother (congrArg DrawMetadata.key (hitem.trans hsame.symm))
      · constructor
        · rintro ⟨⟩
          refine ⟨List.mem_cons_self, htake, fun record hrecord htaken => ?_⟩
          refine (List.mem_cons.mp hrecord).resolve_right fun hmem => hany ?_
          exact List.any_eq_true.mpr ⟨record, hmem, htaken⟩
        · rintro ⟨-, -, hall⟩
          rw [hall item List.mem_cons_self htake]

theorem FrameStore.Sound.mem_slot_iff (h : store.Sound) (frameSerial : UInt64)
    (item : DrawMetadata A) :
    (item.frameSerial = frameSerial ∧ store.Holds item) ↔
      (store (slotOf frameSerial)).frameSerial = frameSerial ∧
        item ∈ (store (slotOf frameSerial)).records := by
  constructor
  · rintro ⟨rfl, hmem⟩
    exact ⟨((h _).frame item hmem).symm, hmem⟩
  · rintro ⟨hframe, hmem⟩
    have hserial := ((h _).frame item hmem).trans hframe
    refine ⟨hserial, ?_⟩
    unfold FrameStore.Holds
    rwa [hserial]

theorem FrameSlot.Sound.usable_iff (h : slot.Sound i) (textureGeneration : UInt32 → UInt64)
    (query : DrawMetadataQuery) {item : DrawMetadata A} (hmem : item ∈ slot.records) :
    usable textureGeneration query slot.frameSerial slot item = true ↔
      Answers textureGeneration query item := by
  have hpaged := h.paged item hmem
  have hframe := h.frame item hmem
  have huv : item.uvPageGeneration = slot.pageGeneration :=
    congrArg DrawMetadata.uvPageGeneration hpaged.symm
  have halpha : item.alpha.frameSerial = item.frameSerial :=
    congrArg (fun record => record.alpha.frameSerial) hpaged.symm
  have halphaUv : item.alpha.uvPageGeneration = slot.pageGeneration :=
    congrArg (fun record => record.alpha.uvPageGeneration) hpaged.symm
  unfold usable Answers
  rw [decide_eq_true_eq, huv, halpha, halphaUv, hframe]
  simp only [true_and]

theorem FrameStore.Sound.lookupAlpha_iff (h : store.Sound) (textureGeneration : UInt32 → UInt64)
    (query : DrawMetadataQuery) (frameSerial : UInt64) (found : DrawMetadata A) :
    lookupAlpha store textureGeneration query frameSerial = some found ↔
      (found.frameSerial = frameSerial ∧ store.Holds found) ∧ Answers textureGeneration query found ∧
          ∀ item, item.frameSerial = frameSerial ∧ store.Holds item →
            Answers textureGeneration query item → item = found := by
  have hslot := h (slotOf frameSerial)
  simp only [h.mem_slot_iff]
  unfold lookupAlpha
  dsimp only
  split_ifs with hrejected
  · refine iff_of_false (by simp) ?_
    rintro ⟨⟨hframe, hmem⟩, -⟩
    rcases hrejected with hzero | hother
    · exact hslot.nonzero found hmem (((hslot.frame found hmem).trans hframe).trans hzero)
    · exact hother hframe
  · obtain ⟨-, hframe⟩ := not_or.mp hrejected
    have hframe := not_not.mp hframe
    have husable := fun item (hmem : item ∈ (store (slotOf frameSerial)).records) =>
      hslot.usable_iff textureGeneration query hmem
    rw [hframe] at husable
    rw [findAlpha_none_iff hslot.keys]
    constructor
    · rintro ⟨hmem, htaken, hall⟩
      refine ⟨⟨hframe, hmem⟩, (husable found hmem).mp htaken, fun item hitem hanswers => ?_⟩
      exact hall item hitem.2 ((husable item hitem.2).mpr hanswers)
    · rintro ⟨⟨-, hmem⟩, hanswers, hall⟩
      refine ⟨hmem, (husable found hmem).mpr hanswers, fun item hitem htaken => ?_⟩
      exact hall item ⟨hframe, hitem⟩ ((husable item hitem).mp htaken)

/-- A record that blocks a query: it matches but for its material, and has a reason to block. -/
def Blocks (query : DrawMetadataQuery) (item : DrawMetadata A) : Prop :=
  matchesQuery item.key query false ∧ item.hasBlocker

theorem FrameStore.Sound.lookupBlocker_of_eq (h : store.Sound) {query : DrawMetadataQuery}
    {frameSerial : UInt64} {answer : BlockerReason × UInt64}
    (hanswer : lookupBlocker store query frameSerial = some answer) :
    ∃ item, (item.frameSerial = frameSerial ∧ store.Holds item) ∧ Blocks query item ∧
      answer = (item.blockerReason, item.key.stableHash) := by
  unfold lookupBlocker at hanswer
  dsimp only at hanswer
  split_ifs at hanswer with hrejected
  obtain ⟨-, hframe⟩ := not_or.mp hrejected
  obtain ⟨item, hfind, rfl⟩ := Option.map_eq_some_iff.mp hanswer
  have hblocks := List.find?_some hfind
  rw [Bool.and_eq_true] at hblocks
  exact ⟨item, (h.mem_slot_iff frameSerial item).mpr
    ⟨not_not.mp hframe, List.mem_of_find?_eq_some hfind⟩, hblocks, rfl⟩

theorem FrameStore.Sound.lookupBlocker_eq_none_iff (h : store.Sound) (query : DrawMetadataQuery)
    (frameSerial : UInt64) :
    lookupBlocker store query frameSerial = none ↔
      ∀ item, item.frameSerial = frameSerial ∧ store.Holds item → ¬Blocks query item := by
  have hslot := h (slotOf frameSerial)
  simp only [h.mem_slot_iff]
  unfold lookupBlocker
  dsimp only
  split_ifs with hrejected
  · refine iff_of_true rfl fun item hitem => ?_
    rcases hrejected with hzero | hother
    · have hserial := (hslot.frame item hitem.2).trans hitem.1
      exact absurd (hserial.trans hzero) (hslot.nonzero item hitem.2)
    · exact absurd hitem.1 hother
  · obtain ⟨-, hframe⟩ := not_or.mp hrejected
    rw [Option.map_eq_none_iff, List.find?_eq_none]
    simp only [Bool.and_eq_true]
    exact ⟨fun hall item hitem => hall item hitem.2,
      fun hall item hitem => hall item ⟨not_not.mp hframe, hitem⟩⟩

/-- After any calls, the records of a slot have different keys and the frame of the slot; a lookup
succeeds with the only record that was published for the frame, has survived and answers the query;
and a blocker is answered only from such records that block it. -/
theorem storeAfter_law (calls : List (StoreCall A)) :
    (∀ i, DistinctKeys (storeAfter calls i).records ∧
      ∀ item ∈ (storeAfter calls i).records, item.frameSerial = (storeAfter calls i).frameSerial) ∧
    (∀ (textureGeneration : UInt32 → UInt64) (query : DrawMetadataQuery) (frameSerial : UInt64)
        (found : DrawMetadata A),
      lookupAlpha (storeAfter calls) textureGeneration query frameSerial = some found ↔
        Published calls frameSerial found ∧ Answers textureGeneration query found ∧
          ∀ item, Published calls frameSerial item → Answers textureGeneration query item →
            item = found) ∧
    ∀ (query : DrawMetadataQuery) (frameSerial : UInt64),
      (∀ answer, lookupBlocker (storeAfter calls) query frameSerial = some answer →
        ∃ item, Published calls frameSerial item ∧ Blocks query item ∧
          answer = (item.blockerReason, item.key.stableHash)) ∧
      (lookupBlocker (storeAfter calls) query frameSerial = none ↔
        ∀ item, Published calls frameSerial item → ¬Blocks query item) := by
  obtain ⟨hsound, hholds⟩ := storeAfter_spec calls
  unfold Published
  simp only [← hholds]
  exact ⟨fun i => ⟨(hsound i).keys, (hsound i).frame⟩, hsound.lookupAlpha_iff,
    fun query frameSerial => ⟨fun _ => hsound.lookupBlocker_of_eq,
      hsound.lookupBlocker_eq_none_iff query frameSerial⟩⟩

/-- Metadata for the texture 9 of the generation 5, under a key of some texture. -/
def sampleMetadata (textureIdentity : UInt32) : DrawMetadata Unit where
  key := ⟨⟨1, 1, 1, 1, 1, 1, 1, 0, 1, 0, 0, 7⟩, textureIdentity, 5⟩
  alpha := ⟨9, 0, 0, ()⟩
  blockerReason := .none
  frameSerial := 1
  uvPageGeneration := 0
  alphaPayloadComplete := true

/-- A record that is complete, matches the query and has still its texture generation is not returned
when its key names another texture; one that is returned has the page generation of its frame and not
the one it came with. -/
theorem lookup_wants_identity :
    Published [.publish (sampleMetadata 8)] 1 ((sampleMetadata 8).paged 1) ∧
      ((sampleMetadata 8).paged 1).alphaPayloadComplete ∧
      matchesQuery ((sampleMetadata 8).paged 1).key (sampleMetadata 8).key.toDrawMetadataQuery true ∧
      lookupAlpha (storeAfter [.publish (sampleMetadata 8)]) (fun _ => 5)
        (sampleMetadata 8).key.toDrawMetadataQuery 1 = none ∧
      lookupAlpha (storeAfter [.publish (sampleMetadata 9)]) (fun _ => 5)
        (sampleMetadata 9).key.toDrawMetadataQuery 1 = some ((sampleMetadata 9).paged 1) ∧
      (sampleMetadata 9).paged 1 ≠ sampleMetadata 9 := by
  refine ⟨⟨rfl, [], _, [], rfl, rfl, fun later hmem => absurd hmem List.not_mem_nil⟩, rfl,
    by decide +kernel, by decide +kernel, by decide +kernel, by decide +kernel⟩

end War3VK.Shadow
