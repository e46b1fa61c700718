import War3VK.Lib.Machine
import War3VK.Memory.IndexDomain
import War3VK.Lib.Recency

/-!
# The cache of index domains

`War3ExactIndexDomainObserverCache`
(`src/src/d3d9/war3/memory/war3_exact_index_domain_observer_cache.h`): a fixed number of sets with a
fixed number of ways each. Every use of an entry stamps it with the next serial number, which stays at
its end once it is there. The width of `size_t` and both template arguments are parameters.
-/

namespace War3VK.Memory.IndexDomainCache

open IndexDomain (ExactIndexVertexDomain)

/-- `War3ExactIndexDomainObserverKey`. -/
structure ObserverKey where
  mapEpoch : UInt64 := 0
  deviceEpoch : UInt64 := 0
  ownerIdentity : UInt64 := 0
  spanDataIdentity : UInt64 := 0
  identityGeneration : UInt64 := 0
  allocationGeneration : UInt64 := 0
  contentGeneration : UInt64 := 0
  spanLength : UInt64 := 0
  indexElementBytes : UInt32 := 0
  indexCount : UInt32 := 0
  baseVertex : Int32 := 0
  vertexCapacity : UInt32 := 0
deriving DecidableEq, Repr

/-- `valid`. -/
def ObserverKey.valid (key : ObserverKey) : Bool :=
  key.mapEpoch ≠ 0 ∧ key.deviceEpoch ≠ 0 ∧ key.ownerIdentity ≠ 0 ∧ key.spanDataIdentity ≠ 0 ∧
    key.identityGeneration ≠ 0 ∧ key.allocationGeneration ≠ 0 ∧ key.contentGeneration ≠ 0 ∧
    key.spanLength ≠ 0 ∧ (key.indexElementBytes = 2 ∨ key.indexElementBytes = 4) ∧
    key.indexCount ≠ 0 ∧ key.vertexCapacity ≠ 0

/-- The lambda `fold` of the hash. -/
def fold (hash value : UInt64) : UInt64 :=
  hash ^^^ (value + (0x9e3779b97f4a7c15 : UInt64) + (hash <<< 6 : UInt64) + (hash >>> 2 : UInt64))

/-- `War3ExactIndexDomainObserverKeyHash`. -/
def keyHash (key : ObserverKey) : UInt64 :=
  [key.mapEpoch, key.deviceEpoch, key.ownerIdentity, key.spanDataIdentity, key.identityGeneration,
    key.allocationGeneration, key.contentGeneration, key.spanLength,
    key.indexElementBytes.toUInt64 ||| (key.indexCount.toUInt64 <<< 32),
    key.baseVertex.toUInt32.toUInt64 ||| (key.vertexCapacity.toUInt64 <<< 32)].foldl fold
      0xcbf29ce484222325

/-- `War3ExactIndexDomainObserverLookup`. -/
inductive Lookup
  | invalidKey
  | hit
  | missEmpty
  | missCollision
deriving DecidableEq, Repr

/-- `War3ExactIndexDomainObserverStore`. -/
inductive Store
  | invalidKey
  | updated
  | inserted
  | replaced
deriving DecidableEq, Repr

/-- `struct Entry`. -/
structure Entry where
  key : ObserverKey := {}
  domain : ExactIndexVertexDomain := {}
  lastUseSerial : UInt64 := 0
  valid : Bool := false
deriving DecidableEq, Repr

/-- The width of `size_t` and the template arguments, with what is asserted of them. -/
structure CacheSize where
  /-- The bits of `size_t`. -/
  digits : ℕ
  setCount : ℕ
  wayCount : ℕ
  /-- There are sets, and their number is a power of two. -/
  sets : setCount ≠ 0 ∧ setCount &&& (setCount - 1) = 0
  ways : wayCount ≠ 0

/-- `War3ExactIndexDomainObserverCache`. -/
structure Cache where
  sets : ℕ → List Entry
  accessSerial : UInt64 := 0

def Cache.init (size : CacheSize) : Cache where
  sets _ := List.replicate size.wayCount {}

def lastSerial : UInt64 := 0xffffffffffffffff

/-- `nextSerial`. -/
def Cache.nextSerial (s : Cache) : UInt64 :=
  if s.accessSerial ≠ lastSerial then s.accessSerial + 1 else s.accessSerial

/-- `setIndex`. -/
def CacheSize.setIndex (size : CacheSize) (key : ObserverKey) : ℕ :=
  (keyHash key).toNat % 2^size.digits &&& (size.setCount - 1)

def findWay (set : List Entry) (key : ObserverKey) : Option ℕ :=
  set.findIdx? fun entry => entry.valid ∧ entry.key = key

def Cache.write (s : Cache) (index way : ℕ) (key : ObserverKey) (domain : ExactIndexVertexDomain) :
    Cache where
  sets := Function.update s.sets index
    ((s.sets index).set way { key, domain, lastUseSerial := s.nextSerial, valid := true })
  accessSerial := s.nextSerial

/-- `lookup`; `domain` is the variable for the answer. -/
def Cache.lookup (size : CacheSize) (key : ObserverKey) (domain : ExactIndexVertexDomain) (s : Cache) :
    (Lookup × ExactIndexVertexDomain) × Cache :=
  if !key.valid then ((.invalidKey, domain), s)
  else
    let index := size.setIndex key
    match findWay (s.sets index) key with
    | some way =>
      let entry := (s.sets index)[way]?.getD {}
      ((.hit, entry.domain), s.write index way entry.key entry.domain)
    | none => ((if (s.sets index).any Entry.valid then .missCollision else .missEmpty, domain), s)

/-- The loop of `store` that looks for the entry to write: the first one that is not valid, or else the
first one with the least serial number. It also returns whether that one is replaced. -/
def chooseVictim (set : List Entry) : List Entry → ℕ → ℕ → ℕ × Bool
  | [], _, victim => (victim, true)
  | entry :: rest, way, victim =>
    if !entry.valid then (way, false)
    else if entry.lastUseSerial < (set[victim]?.getD {}).lastUseSerial then
      chooseVictim set rest (way + 1) way
    else chooseVictim set rest (way + 1) victim

def victimOf (set : List Entry) : ℕ × Bool := chooseVictim set set 0 0

/-- `store`. -/
def Cache.store (size : CacheSize) (key : ObserverKey) (domain : ExactIndexVertexDomain) (s : Cache) :
    Store × Cache :=
  if !key.valid then (.invalidKey, s)
  else
    let index := size.setIndex key
    match findWay (s.sets index) key with
    | some way => (.updated, s.write index way key domain)
    | none =>
      let (victim, replacing) := victimOf (s.sets index)
      (if replacing then .replaced else .inserted, s.write index victim key domain)

inductive Call
  | lookup (key : ObserverKey) (domain : ExactIndexVertexDomain)
  | store (key : ObserverKey) (domain : ExactIndexVertexDomain)
deriving DecidableEq, Repr

inductive Output
  | looked (result : Lookup) (domain : ExactIndexVertexDomain)
  | stored (result : Store)
deriving DecidableEq, Repr

def step (size : CacheSize) : Call → Cache → Output × Cache
  | .lookup key domain, s =>
    let ((result, domain), s) := s.lookup size key domain
    (.looked result domain, s)
  | .store key domain, s =>
    let (result, s) := s.store size key domain
    (.stored result, s)

end War3VK.Memory.IndexDomainCache

/-!
## What the cache of index domains answers

A valid entry holds the domain that was stored last under its key, and the number of the last use of
that key as its stamp, up to the end of the serial numbers (`Inv`). Every call that uses a key writes
one entry (`Inv.write`), so a key that was stored is lost only when its entry is taken for another key.
-/

namespace War3VK.Memory.IndexDomainCache

open Lib
open IndexDomain (ExactIndexVertexDomain)

abbrev Happened := Record Cache Call Output

/-! ### Ways -/

variable {set : List Entry} {key : ObserverKey}

theorem findWay_eq_some {way : ℕ} (h : findWay set key = some way) :
    ∃ entry, set[way]? = some entry ∧ entry.valid = true ∧ entry.key = key := by
  obtain ⟨hlt, hentry, -⟩ := List.findIdx?_eq_some_iff_getElem.mp h
  exact ⟨set[way], List.getElem?_eq_getElem hlt, of_decide_eq_true hentry⟩

theorem findWay_eq_none (h : findWay set key = none) {entry : Entry} (hentry : entry ∈ set)
    (hvalid : entry.valid = true) : entry.key ≠ key := by
  intro hkey
  have hnone := List.findIdx?_eq_none_iff.mp h entry hentry
  exact of_decide_eq_false hnone ⟨hvalid, hkey⟩

structure Chosen (set : List Entry) (victim : ℕ) (replacing : Bool) : Prop where
  lt : victim < set.length
  free : replacing = false → ∀ entry, set[victim]? = some entry → entry.valid = false
  full : replacing = true → ∀ entry ∈ set, entry.valid = true
  least : replacing = true → ∀ (way : ℕ) (entry : Entry), set[way]? = some entry →
    (set[victim]?.getD {}).lastUseSerial ≤ entry.lastUseSerial
  first : replacing = true → ∀ way < victim, ∀ entry : Entry, set[way]? = some entry →
    (set[victim]?.getD {}).lastUseSerial < entry.lastUseSerial

theorem chosen_chooseVictim {passed rest : List Entry} {victim : ℕ} (hset : set = passed ++ rest)
    (hlt : victim < set.length) (hbefore : victim ≤ passed.length) (hvalid : ∀ entry ∈ passed, entry.valid = true)
    (hleast : ∀ way < passed.length, ∀ entry : Entry, set[way]? = some entry →
      (set[victim]?.getD {}).lastUseSerial ≤ entry.lastUseSerial)
    (hfirst : ∀ way < victim, ∀ entry : Entry, set[way]? = some entry →
      (set[victim]?.getD {}).lastUseSerial < entry.lastUseSerial) :
    Chosen set (chooseVictim set rest passed.length victim).1
      (chooseVictim set rest passed.length victim).2 := by
  induction rest generalizing passed victim with
  | nil =>
    rw [List.append_nil] at hset
    subst hset
    exact ⟨hlt, (fun h => by cases h), fun _ => hvalid, fun _ way entry hentry =>
      hleast way (List.getElem?_eq_some_iff.mp hentry).choose entry hentry, fun _ => hfirst⟩
  | cons entry rest ih =>
    have hat : set[passed.length]? = some entry := by
      rw [hset, List.getElem?_append_right (Nat.le_refl _), Nat.sub_self]
      rfl
    have hwayLt : passed.length < set.length := (List.getElem?_eq_some_iff.mp hat).choose
    have hset' : set = (passed ++ [entry]) ++ rest := by rw [hset, List.append_assoc]; rfl
    have hlength : (passed ++ [entry]).length = passed.length + 1 := List.length_append
    unfold chooseVictim
    split
    · -- The first way that is not valid is taken.
      rename_i hfree
      refine ⟨hwayLt, fun _ entry' hentry' => ?_, (by simp), (by simp), (by simp)⟩
      rw [hat, Option.some.injEq] at hentry'
      subst hentry'
      simpa using hfree
    · rename_i hfull
      have hvalid' : ∀ e ∈ passed ++ [entry], e.valid = true := by
        intro e he
        rcases List.mem_append.mp he with he | he
        · exact hvalid e he
        · rw [List.mem_singleton.mp he]
          simpa using hfull
      split
      · -- This one has a smaller stamp than all before it.
        rename_i hsmaller
        have hself : (set[passed.length]?.getD {}).lastUseSerial = entry.lastUseSerial := by rw [hat]; rfl
        have hbelow : ∀ way < passed.length, ∀ e, set[way]? = some e →
            (set[passed.length]?.getD {}).lastUseSerial < e.lastUseSerial := fun way hway e he =>
          hself ▸ UInt64.lt_of_lt_of_le hsmaller (hleast way hway e he)
        have hchosen := ih hset' hwayLt (by omega) hvalid' (fun way hway e he => ?_) hbelow
        · rwa [hlength] at hchosen
        · rw [hlength] at hway
          rcases Nat.lt_succ_iff_lt_or_eq.mp hway with hway | rfl
          · exact UInt64.le_of_lt (hbelow way hway e he)
          · rw [he]
            exact UInt64.le_refl _
      · rename_i hlarger
        have hchosen := ih hset' hlt (by omega) hvalid' (fun way hway e he => ?_) hfirst
        · rwa [hlength] at hchosen
        · rw [hlength] at hway
          rcases Nat.lt_succ_iff_lt_or_eq.mp hway with hway | rfl
          · exact hleast way hway e he
          · rw [hat, Option.some.injEq] at he
            subst he
            exact UInt64.not_lt.mp hlarger

theorem chosen_victimOf (h : 0 < set.length) : Chosen set (victimOf set).1 (victimOf set).2 :=
  @chosen_chooseVictim set [] set 0 rfl h (Nat.le_refl _) (by simp) (by simp) (by simp)

/-! ### The history -/

def usedKey (r : Happened) : Option ObserverKey :=
  match r.call, r.output with
  | .lookup key _, .looked .hit _ => some key
  | .store key _, _ => if key.valid then some key else none
  | _, _ => none

def used (past : List Happened) : List ObserverKey := past.filterMap usedKey

def storedEntry (r : Happened) : Option (ObserverKey × ExactIndexVertexDomain) :=
  match r.call with
  | .store key domain => if key.valid then some (key, domain) else none
  | .lookup _ _ => none

def lastStored (key : ObserverKey) (past : List Happened) : Option ExactIndexVertexDomain :=
  past.foldl (fun last r =>
    match storedEntry r with
    | some (stored, domain) => if stored = key then some domain else last
    | none => last) none

def victimEntry (size : CacheSize) (key : ObserverKey) (s : Cache) : Option Entry :=
  (s.sets (size.setIndex key))[(victimOf (s.sets (size.setIndex key))).1]?

def evictedKey (size : CacheSize) (r : Happened) : Option ObserverKey :=
  match r.call, r.output with
  | .store key _, .stored .replaced => (victimEntry size key r.before).map Entry.key
  | _, _ => none

def EvictedSince (size : CacheSize) (key : ObserverKey) (past : List Happened) : Prop :=
  ∃ before r after, past = before ++ r :: after ∧ evictedKey size r = some key ∧
    ∀ later ∈ after, (storedEntry later).map Prod.fst ≠ some key

variable {size : CacheSize} {past : List Happened} {r : Happened} {s : Cache}

theorem lastStored_concat (key : ObserverKey) (past : List Happened) (r : Happened) :
    lastStored key (past ++ [r]) = (match storedEntry r with
      | some (stored, domain) => if stored = key then some domain else lastStored key past
      | none => lastStored key past) := by
  unfold lastStored
  rw [List.foldl_append]
  rfl

theorem lastStored_concat_other (h : (storedEntry r).map Prod.fst ≠ some key) :
    lastStored key (past ++ [r]) = lastStored key past := by
  rw [lastStored_concat]
  cases hstored : storedEntry r with
  | none => rfl
  | some entry =>
    rw [hstored, Option.map_some, Ne, Option.some.injEq] at h
    exact if_neg h

theorem EvictedSince.of_evicted (h : evictedKey size r = some key) :
    EvictedSince size key (past ++ [r]) := ⟨past, r, [], rfl, h, by simp⟩

theorem EvictedSince.concat (h : EvictedSince size key past)
    (hother : (storedEntry r).map Prod.fst ≠ some key) : EvictedSince size key (past ++ [r]) := by
  obtain ⟨before, r', after, rfl, hevicted, hsince⟩ := h
  refine ⟨before, r', after ++ [r], by rw [List.append_assoc, List.cons_append], hevicted, ?_⟩
  intro later hlater
  rcases List.mem_append.mp hlater with hlater | hlater
  · exact hsince later hlater
  · rwa [List.mem_singleton.mp hlater]

/-! ### The invariant -/

def capped (n : ℕ) : ℕ := min n lastSerial.toNat

structure EntryOk (size : CacheSize) (past : List Happened) (index : ℕ) (entry : Entry) : Prop where
  place : size.setIndex entry.key = index
  domain : lastStored entry.key past = some entry.domain
  mem : entry.key ∈ used past
  stamp : entry.lastUseSerial.toNat = capped (lastUse entry.key (used past))

structure Inv (size : CacheSize) (s : Cache) (past : List Happened) : Prop where
  ways : ∀ index, (s.sets index).length = size.wayCount
  serial : s.accessSerial.toNat = capped (used past).length
  entries : ∀ index, ∀ entry ∈ s.sets index, entry.valid = true → EntryOk size past index entry
  unique : ∀ (index way way' : ℕ) (entry entry' : Entry), (s.sets index)[way]? = some entry →
    (s.sets index)[way']? = some entry' → entry.valid = true → entry'.valid = true →
    entry.key = entry'.key → way = way'
  /-- A key that was stored is still there, or it was evicted. -/
  kept : ∀ key, lastStored key past ≠ none →
    (∃ entry ∈ s.sets (size.setIndex key), entry.valid = true ∧ entry.key = key) ∨
      EvictedSince size key past

theorem toNat_nextSerial (h : s.accessSerial.toNat = capped (used past).length) :
    s.nextSerial.toNat = capped ((used past).length + 1) := by
  have hlast : lastSerial.toNat = 2^64 - 1 := rfl
  unfold Cache.nextSerial capped at *
  rw [hlast] at h ⊢
  split
  · rename_i hne
    have hlt : s.accessSerial.toNat ≠ 2^64 - 1 := fun heq => hne (UInt64.toNat_inj.mp heq)
    have hone : (1 : UInt64).toNat = 1 := rfl
    rw [UInt64.toNat_add, hone]
    omega
  · rename_i heq
    have hend := congrArg UInt64.toNat (not_not.mp heq)
    rw [hlast] at hend
    omega

theorem Inv.quiet (h : Inv size s past) (hused : usedKey r = none) (hstored : storedEntry r = none) :
    Inv size s (past ++ [r]) := by
  have husedAll : used (past ++ [r]) = used past := by
    unfold used
    rw [List.filterMap_append, List.filterMap_cons, hused, List.filterMap_nil, List.append_nil]
  have hother : ∀ key, (storedEntry r).map Prod.fst ≠ some key := by
    intro key
    rw [hstored]
    simp
  refine ⟨h.ways, husedAll.symm ▸ h.serial, fun index entry hentry hvalid => ?_, h.unique,
    fun key hkey => ?_⟩
  · obtain ⟨hplace, hdomain, hmem, hstamp⟩ := h.entries index entry hentry hvalid
    exact ⟨hplace, (lastStored_concat_other (hother _)).trans hdomain, husedAll.symm ▸ hmem,
      husedAll.symm ▸ hstamp⟩
  · rw [lastStored_concat_other (hother key)] at hkey
    exact (h.kept key hkey).imp id fun hevicted => hevicted.concat (hother key)

theorem Inv.write (h : Inv size s past) {key : ObserverKey} {domain : ExactIndexVertexDomain} {way : ℕ}
    {old : Entry} (hold : (s.sets (size.setIndex key))[way]? = some old)
    (hused : usedKey r = some key) (hstored : ∀ other, other ≠ key → (storedEntry r).map Prod.fst ≠ some other)
    (hdomain : lastStored key (past ++ [r]) = some domain)
    (hother : ∀ way' entry, (s.sets (size.setIndex key))[way']? = some entry → entry.valid = true →
      entry.key = key → way' = way)
    (hevicts : old.valid = true → old.key ≠ key → evictedKey size r = some old.key) :
    Inv size (s.write (size.setIndex key) way key domain) (past ++ [r]) := by
  have husedAll : used (past ++ [r]) = used past ++ [key] := by
    unfold used
    rw [List.filterMap_append, List.filterMap_cons, hused, List.filterMap_nil]
  have hserial := toNat_nextSerial h.serial
  have hlt : way < (s.sets (size.setIndex key)).length := (List.getElem?_eq_some_iff.mp hold).choose
  have hsets : ∀ index, index ≠ size.setIndex key →
      (s.write (size.setIndex key) way key domain).sets index = s.sets index := fun index hne =>
    Function.update_of_ne hne _ _
  have hself : (s.write (size.setIndex key) way key domain).sets (size.setIndex key) =
      (s.sets (size.setIndex key)).set way ⟨key, domain, s.nextSerial, true⟩ := Function.update_self _ _ _
  -- An entry of another key stays as it was.
  have hsame : ∀ index entry, EntryOk size past index entry → entry.key ≠ key →
      EntryOk size (past ++ [r]) index entry := by
    intro index entry hok hne
    refine ⟨hok.place, (lastStored_concat_other (hstored _ hne)).trans hok.domain, ?_, ?_⟩
    · rw [husedAll]
      exact List.mem_append_left _ hok.mem
    · rw [husedAll, lastUse_concat_ne hne]
      exact hok.stamp
  -- A valid entry after the call is the one that was written, or an old one of another key.
  have hcases : ∀ (way' : ℕ) (entry : Entry),
      ((s.sets (size.setIndex key)).set way ⟨key, domain, s.nextSerial, true⟩)[way']? = some entry →
      entry.valid = true → (way' = way ∧ entry = ⟨key, domain, s.nextSerial, true⟩) ∨
        (way' ≠ way ∧ (s.sets (size.setIndex key))[way']? = some entry ∧ entry.key ≠ key) := by
    intro way' entry hentry hvalid
    by_cases heq : way = way'
    · subst heq
      rw [List.getElem?_set_self hlt, Option.some.injEq] at hentry
      exact .inl ⟨rfl, hentry.symm⟩
    · rw [List.getElem?_set_ne heq] at hentry
      exact .inr ⟨fun heq' => heq heq'.symm, hentry, fun hkey =>
        heq (hother way' entry hentry hvalid hkey).symm⟩
  refine ⟨fun index => ?_, ?_, fun index entry hentry hvalid => ?_, ?_, fun key' hkey' => ?_⟩
  · by_cases hindex : index = size.setIndex key
    · rw [hindex, hself, List.length_set]
      exact h.ways _
    · rw [hsets index hindex]
      exact h.ways index
  · rw [husedAll, List.length_append, List.length_singleton]
    exact hserial
  · by_cases hindex : index = size.setIndex key
    · subst hindex
      rw [hself] at hentry
      obtain ⟨way', hway'⟩ := List.mem_iff_getElem?.mp hentry
      rcases hcases way' entry hway' hvalid with ⟨-, rfl⟩ | ⟨-, hentry', hne⟩
      · refine ⟨rfl, hdomain, ?_, ?_⟩
        · rw [husedAll]
          exact List.mem_append_right _ (List.mem_singleton_self _)
        · rw [husedAll, lastUse_concat_self]
          exact hserial
      · exact hsame _ entry (h.entries _ entry (List.mem_of_getElem? hentry') hvalid) hne
    · rw [hsets index hindex] at hentry
      have hok := h.entries index entry hentry hvalid
      exact hsame index entry hok fun hkey => hindex (hok.place ▸ hkey ▸ rfl)
  · intro index way₁ way₂ entry₁ entry₂ h₁ h₂ hvalid₁ hvalid₂ hkeys
    by_cases hindex : index = size.setIndex key
    · subst hindex
      rw [hself] at h₁ h₂
      rcases hcases way₁ entry₁ h₁ hvalid₁ with ⟨rfl, rfl⟩ | ⟨-, hold₁, hne₁⟩ <;>
        rcases hcases way₂ entry₂ h₂ hvalid₂ with ⟨rfl, rfl⟩ | ⟨-, hold₂, hne₂⟩
      · rfl
      · exact absurd hkeys.symm hne₂
      · exact absurd hkeys hne₁
      · exact h.unique _ way₁ way₂ entry₁ entry₂ hold₁ hold₂ hvalid₁ hvalid₂ hkeys
    · rw [hsets index hindex] at h₁ h₂
      exact h.unique index way₁ way₂ entry₁ entry₂ h₁ h₂ hvalid₁ hvalid₂ hkeys
  · by_cases hsame' : key' = key
    · subst hsame'
      refine .inl ⟨⟨key', domain, s.nextSerial, true⟩, ?_, rfl, rfl⟩
      rw [hself]
      exact List.mem_of_getElem? (List.getElem?_set_self hlt)
    · rw [lastStored_concat_other (hstored key' hsame')] at hkey'
      rcases h.kept key' hkey' with ⟨entry, hentry, hvalid, rfl⟩ | hevicted
      · by_cases hindex : size.setIndex entry.key = size.setIndex key
        · rw [hindex] at hentry ⊢
          obtain ⟨way', hway'⟩ := List.mem_iff_getElem?.mp hentry
          by_cases hway : way' = way
          · -- Its entry is the one that was taken.
            subst hway
            rw [hold, Option.some.injEq] at hway'
            subst hway'
            exact .inr (.of_evicted (hevicts hvalid hsame'))
          · refine .inl ⟨entry, ?_, hvalid, rfl⟩
            rw [hself]
            exact List.mem_of_getElem? ((List.getElem?_set_ne fun heq => hway heq.symm).trans hway')
        · refine .inl ⟨entry, ?_, hvalid, rfl⟩
          rw [hsets _ hindex]
          exact hentry
      · exact .inr (hevicted.concat (hstored key' hsame'))

/-! ### Calls -/

section

variable {domain : ExactIndexVertexDomain} {way : ℕ} {entry : Entry}

theorem lookup_invalid (h : key.valid = false) :
    s.lookup size key domain = ((.invalidKey, domain), s) := by
  unfold Cache.lookup
  rw [h]
  rfl

theorem lookup_found (h : key.valid = true) (hfound : findWay (s.sets (size.setIndex key)) key = some way)
    (hentry : (s.sets (size.setIndex key))[way]? = some entry) :
    s.lookup size key domain =
      ((.hit, entry.domain), s.write (size.setIndex key) way entry.key entry.domain) := by
  unfold Cache.lookup
  rw [h, if_neg (by simp)]
  dsimp only
  rw [hfound]
  dsimp only
  rw [hentry]
  rfl

theorem lookup_missed (h : key.valid = true) (hfound : findWay (s.sets (size.setIndex key)) key = none) :
    s.lookup size key domain = ((if (s.sets (size.setIndex key)).any Entry.valid then .missCollision
      else .missEmpty, domain), s) := by
  unfold Cache.lookup
  rw [h, if_neg (by simp)]
  dsimp only
  rw [hfound]

theorem store_invalid (h : key.valid = false) : s.store size key domain = (.invalidKey, s) := by
  unfold Cache.store
  rw [h]
  rfl

theorem store_found (h : key.valid = true) (hfound : findWay (s.sets (size.setIndex key)) key = some way) :
    s.store size key domain = (.updated, s.write (size.setIndex key) way key domain) := by
  unfold Cache.store
  rw [h, if_neg (by simp)]
  dsimp only
  rw [hfound]

theorem store_missed (h : key.valid = true) (hfound : findWay (s.sets (size.setIndex key)) key = none) :
    s.store size key domain = (if (victimOf (s.sets (size.setIndex key))).2 then .replaced else .inserted,
      s.write (size.setIndex key) (victimOf (s.sets (size.setIndex key))).1 key domain) := by
  unfold Cache.store
  rw [h, if_neg (by simp)]
  dsimp only
  rw [hfound]

end

theorem Inv.lookup (h : Inv size s past) (key : ObserverKey) (domain : ExactIndexVertexDomain) :
    Inv size (step size (.lookup key domain) s).2 (past ++ [record (step size) s (.lookup key domain)]) := by
  have hstored : storedEntry (record (step size) s (.lookup key domain)) = none := rfl
  by_cases hvalid : key.valid = true
  · cases hfound : findWay (s.sets (size.setIndex key)) key with
    | none =>
      -- A miss uses nothing.
      have hstep : step size (.lookup key domain) s = (.looked (if (s.sets (size.setIndex key)).any
          Entry.valid then .missCollision else .missEmpty) domain, s) := by
        unfold step
        dsimp only
        rw [lookup_missed hvalid hfound]
      have hquiet : usedKey (record (step size) s (.lookup key domain)) = none := by
        unfold usedKey record
        rw [hstep]
        by_cases hany : (s.sets (size.setIndex key)).any Entry.valid = true
        · rw [if_pos hany]
        · rw [if_neg hany]
      rw [hstep]
      exact h.quiet hquiet hstored
    | some way =>
      obtain ⟨entry, hentry, hentryValid, rfl⟩ := findWay_eq_some hfound
      have hstep : step size (.lookup entry.key domain) s = (.looked .hit entry.domain,
          s.write (size.setIndex entry.key) way entry.key entry.domain) := by
        unfold step
        dsimp only
        rw [lookup_found hvalid hfound hentry]
      have hok := h.entries _ entry (List.mem_of_getElem? hentry) hentryValid
      have hused : usedKey (record (step size) s (.lookup entry.key domain)) = some entry.key := by
        unfold usedKey record
        rw [hstep]
      rw [hstep]
      refine h.write hentry hused (fun other _ => by rw [hstored]; simp) ?_ ?_ fun _ hne => absurd rfl hne
      · rw [lastStored_concat_other (by rw [hstored]; simp)]
        exact hok.domain
      · intro way' entry' hentry' hvalid' hkey
        exact h.unique _ way' way entry' entry hentry' hentry hvalid' hentryValid hkey
  · have hstep : step size (.lookup key domain) s = (.looked .invalidKey domain, s) := by
      unfold step
      dsimp only
      rw [lookup_invalid (Bool.eq_false_iff.mpr hvalid)]
    have hquiet : usedKey (record (step size) s (.lookup key domain)) = none := by
      unfold usedKey record
      rw [hstep]
    rw [hstep]
    exact h.quiet hquiet hstored

theorem Inv.store (h : Inv size s past) (key : ObserverKey) (domain : ExactIndexVertexDomain) :
    Inv size (step size (.store key domain) s).2 (past ++ [record (step size) s (.store key domain)]) := by
  by_cases hvalid : key.valid = true
  · have hstored : storedEntry (record (step size) s (.store key domain)) = some (key, domain) := if_pos hvalid
    have hused : usedKey (record (step size) s (.store key domain)) = some key := if_pos hvalid
    have hothers : ∀ other, other ≠ key →
        (storedEntry (record (step size) s (.store key domain))).map Prod.fst ≠ some other := by
      intro other hne heq
      rw [hstored, Option.map_some, Option.some.injEq] at heq
      exact hne heq.symm
    have hdomain : lastStored key (past ++ [record (step size) s (.store key domain)]) = some domain := by
      rw [lastStored_concat, hstored]
      exact if_pos rfl
    cases hfound : findWay (s.sets (size.setIndex key)) key with
    | some way =>
      obtain ⟨entry, hentry, hentryValid, rfl⟩ := findWay_eq_some hfound
      have hstep : (step size (.store entry.key domain) s).2 =
          s.write (size.setIndex entry.key) way entry.key domain := by
        unfold step
        dsimp only
        rw [store_found hvalid hfound]
      rw [hstep]
      refine h.write hentry hused hothers hdomain ?_ fun _ hne => absurd rfl hne
      intro way' entry' hentry' hvalid' hkey
      exact h.unique _ way' way entry' entry hentry' hentry hvalid' hentryValid hkey
    | none =>
      have hpos : 0 < (s.sets (size.setIndex key)).length := by
        rw [h.ways]
        exact Nat.pos_of_ne_zero size.ways
      have hchosen := chosen_victimOf hpos
      have hold := List.getElem?_eq_getElem hchosen.lt
      have hstep : step size (.store key domain) s = (.stored (if
          (victimOf (s.sets (size.setIndex key))).2 then .replaced else .inserted),
          s.write (size.setIndex key) (victimOf (s.sets (size.setIndex key))).1 key domain) := by
        unfold step
        dsimp only
        rw [store_missed hvalid hfound]
      rw [show (step size (.store key domain) s).2 = _ from congrArg Prod.snd hstep]
      refine h.write hold hused hothers hdomain ?_ ?_
      · intro way' entry' hentry' hvalid' hkey
        exact absurd hkey (findWay_eq_none hfound (List.mem_of_getElem? hentry') hvalid')
      · -- Its entry was valid, so it is replaced.
        intro hvalidOld _
        have hreplaces : (victimOf (s.sets (size.setIndex key))).2 = true := by
          by_contra hfree
          have hnot := hchosen.free (Bool.eq_false_iff.mpr hfree) _ hold
          rw [hvalidOld] at hnot
          cases hnot
        unfold evictedKey record
        rw [hstep]
        dsimp only
        rw [if_pos hreplaces]
        unfold victimEntry
        dsimp only
        rw [hold]
        rfl
  · have hfalse := Bool.eq_false_iff.mpr hvalid
    have hstep : step size (.store key domain) s = (.stored .invalidKey, s) := by
      unfold step
      dsimp only
      rw [store_invalid hfalse]
    have hstored : storedEntry (record (step size) s (.store key domain)) = none := if_neg hvalid
    have hused : usedKey (record (step size) s (.store key domain)) = none := if_neg hvalid
    rw [hstep]
    exact h.quiet hused hstored

theorem inv_init (size : CacheSize) : Inv size (Cache.init size) [] where
  ways _ := List.length_replicate
  serial := rfl
  entries index entry hentry hvalid := by
    rw [List.eq_of_mem_replicate hentry] at hvalid
    cases hvalid
  unique index way way' entry entry' hentry _ hvalid := by
    rw [List.eq_of_mem_replicate (List.mem_of_getElem? hentry)] at hvalid
    cases hvalid
  kept key hkey := absurd rfl hkey

theorem inv_run (size : CacheSize) (calls : List Call) :
    Inv size (run (step size) calls (Cache.init size)) (history (step size) calls (Cache.init size)) :=
  history_induction (step size) (inv_init size) (fun _ _ call h => by
    cases call with
    | lookup key domain => exact h.lookup key domain
    | store key domain => exact h.store key domain) calls

/-! ### Answers -/

structure CacheLaw (size : CacheSize) (s : Cache) (past : List Happened) : Prop where
  unique : ∀ (index way way' : ℕ) (entry entry' : Entry), (s.sets index)[way]? = some entry →
    (s.sets index)[way']? = some entry' → entry.valid = true → entry'.valid = true →
    entry.key = entry'.key → way = way'
  /-- A hit returns the domain that was stored last under the key. -/
  hit : ∀ before r after key answer domain, past = before ++ r :: after → r.call = .lookup key answer →
    r.output = .looked .hit domain → lastStored key before = some domain
  /-- A miss leaves the variable as it is. Its key was never stored, or it was evicted since. -/
  miss : ∀ before r after key answer result domain, past = before ++ r :: after →
    r.call = .lookup key answer → r.output = .looked result domain →
    result = .missEmpty ∨ result = .missCollision →
    domain = answer ∧ (lastStored key before = none ∨ EvictedSince size key before)
  /-- What a store replaces is valid, like all ways of its set. Before the end of the serial numbers it is
  the one that was used least recently. -/
  victim : ∀ before r after key domain, past = before ++ r :: after → r.call = .store key domain →
    r.output = .stored .replaced →
    (∀ entry ∈ r.before.sets (size.setIndex key), entry.valid = true) ∧
      ∃ victim, victimEntry size key r.before = some victim ∧
        (r.before.accessSerial ≠ lastSerial → ∀ entry ∈ r.before.sets (size.setIndex key),
          entry.key ≠ victim.key → lastUse victim.key (used before) < lastUse entry.key (used before))

theorem Inv.of_hit (h : Inv size s past) (answer : ExactIndexVertexDomain)
    {domain : ExactIndexVertexDomain}
    (hhit : (s.lookup size key answer).1 = (.hit, domain)) : lastStored key past = some domain := by
  by_cases hvalid : key.valid = true
  · cases hfound : findWay (s.sets (size.setIndex key)) key with
    | none =>
      rw [lookup_missed hvalid hfound] at hhit
      dsimp only at hhit
      split at hhit <;> cases hhit
    | some way =>
      obtain ⟨entry, hentry, hentryValid, rfl⟩ := findWay_eq_some hfound
      rw [lookup_found hvalid hfound hentry] at hhit
      cases hhit
      exact (h.entries _ entry (List.mem_of_getElem? hentry) hentryValid).domain
  · rw [lookup_invalid (Bool.eq_false_iff.mpr hvalid)] at hhit
    cases hhit

theorem Inv.of_miss (h : Inv size s past) {answer domain : ExactIndexVertexDomain} {result : Lookup}
    (hlooked : (s.lookup size key answer).1 = (result, domain))
    (hmiss : result = .missEmpty ∨ result = .missCollision) :
    domain = answer ∧ (lastStored key past = none ∨ EvictedSince size key past) := by
  by_cases hvalid : key.valid = true
  · cases hfound : findWay (s.sets (size.setIndex key)) key with
    | none =>
      rw [lookup_missed hvalid hfound] at hlooked
      refine ⟨(congrArg Prod.snd hlooked).symm, ?_⟩
      by_contra hnot
      rw [not_or] at hnot
      rcases h.kept key hnot.1 with ⟨entry, hentry, hentryValid, hkey⟩ | hevicted
      · exact findWay_eq_none hfound hentry hentryValid hkey
      · exact hnot.2 hevicted
    | some way =>
      obtain ⟨entry, hentry, -, rfl⟩ := findWay_eq_some hfound
      rw [lookup_found hvalid hfound hentry] at hlooked
      have hresult := congrArg Prod.fst hlooked
      dsimp only at hresult
      subst hresult
      simp at hmiss
  · rw [lookup_invalid (Bool.eq_false_iff.mpr hvalid)] at hlooked
    have hresult := congrArg Prod.fst hlooked
    dsimp only at hresult
    subst hresult
    simp at hmiss

theorem lt_of_capped_le {m n total : ℕ} (hm : m ≤ total) (hn : n ≤ total)
    (htotal : capped total ≠ lastSerial.toNat) (hne : m ≠ n) (hle : capped m ≤ capped n) : m < n := by
  unfold capped at *
  omega

theorem Inv.of_replaced (h : Inv size s past) (domain : ExactIndexVertexDomain)
    (hreplaced : (s.store size key domain).1 = .replaced) :
    (∀ entry ∈ s.sets (size.setIndex key), entry.valid = true) ∧
      ∃ victim, victimEntry size key s = some victim ∧
        (s.accessSerial ≠ lastSerial → ∀ entry ∈ s.sets (size.setIndex key),
          entry.key ≠ victim.key → lastUse victim.key (used past) < lastUse entry.key (used past)) := by
  by_cases hvalid : key.valid = true
  · cases hfound : findWay (s.sets (size.setIndex key)) key with
    | some way =>
      rw [store_found hvalid hfound] at hreplaced
      cases hreplaced
    | none =>
      have hpos : 0 < (s.sets (size.setIndex key)).length := by
        rw [h.ways]
        exact Nat.pos_of_ne_zero size.ways
      have hchosen := chosen_victimOf hpos
      have hold := List.getElem?_eq_getElem hchosen.lt
      have hreplacing : (victimOf (s.sets (size.setIndex key))).2 = true := by
        rw [store_missed hvalid hfound] at hreplaced
        by_contra hfree
        dsimp only at hreplaced
        rw [if_neg hfree] at hreplaced
        cases hreplaced
      have hfull := hchosen.full hreplacing
      refine ⟨hfull, _, hold, fun hserial entry hentry hne => ?_⟩
      obtain ⟨way, hway⟩ := List.mem_iff_getElem?.mp hentry
      have hleast := hchosen.least hreplacing way entry hway
      rw [hold, Option.getD_some, UInt64.le_iff_toNat_le] at hleast
      -- The stamps are the numbers of the last uses.
      have hvictim := h.entries _ _ (List.mem_of_getElem? hold) (hfull _ (List.mem_of_getElem? hold))
      have hother := h.entries _ entry hentry (hfull entry hentry)
      rw [hvictim.stamp, hother.stamp] at hleast
      refine lt_of_capped_le (lastUse_le _ _) (lastUse_le _ _) ?_ ?_ hleast
      · rw [← h.serial]
        exact fun heq => hserial (UInt64.toNat_inj.mp heq)
      · exact fun heq => hne (lastUse_inj hvictim.mem heq).symm
  · rw [store_invalid (Bool.eq_false_iff.mpr hvalid)] at hreplaced
    cases hreplaced

/-- The law holds of every run. -/
theorem cache_law (size : CacheSize) (calls : List Call) :
    CacheLaw size (run (step size) calls (Cache.init size)) (history (step size) calls (Cache.init size)) where
  unique := (inv_run size calls).unique
  hit before r after key answer domain hpast hcall houtput := by
    obtain ⟨first, call, rest, -, rfl, rfl, -⟩ := history_split _ hpast
    have hinv := inv_run size first
    generalize run (step size) first (Cache.init size) = s at hcall houtput hinv
    obtain rfl : call = .lookup key answer := hcall
    refine hinv.of_hit answer ?_
    unfold record step at houtput
    dsimp only at houtput
    obtain ⟨hresult, hdomain⟩ := Output.looked.inj houtput
    exact Prod.ext hresult hdomain
  miss before r after key answer result domain hpast hcall houtput hmiss := by
    obtain ⟨first, call, rest, -, rfl, rfl, -⟩ := history_split _ hpast
    have hinv := inv_run size first
    generalize run (step size) first (Cache.init size) = s at hcall houtput hinv
    obtain rfl : call = .lookup key answer := hcall
    refine hinv.of_miss ?_ hmiss
    unfold record step at houtput
    dsimp only at houtput
    obtain ⟨hresult, hdomain⟩ := Output.looked.inj houtput
    exact Prod.ext hresult hdomain
  victim before r after key domain hpast hcall houtput := by
    obtain ⟨first, call, rest, -, rfl, rfl, -⟩ := history_split _ hpast
    have hinv := inv_run size first
    generalize run (step size) first (Cache.init size) = s at hcall houtput hinv
    obtain rfl : call = .store key domain := hcall
    refine hinv.of_replaced domain ?_
    unfold record step at houtput
    dsimp only at houtput
    exact Output.stored.inj houtput

end War3VK.Memory.IndexDomainCache
