import War3VK.Tools.PaletteEvidenceNotes
import War3VK.Lib.Machine

/-!
# The watch table of the palette evidence

`Insert` and `FindChain` (`src/src/d3d9/war3/tools/war3_palette_object_evidence.h`): the table is
probed from the hash of a key, a tombstone keeps the probes going, and a filter that no removal
clears answers for the keys that were never there. Behind them is a finite map (`Watched`) from keys
and types to chains. `Probed` is what the table keeps; the map lists its live places.
-/

namespace War3VK.Tools.PaletteEvidence

open Lib

/-! ## The map -/

/-- An entry of the map: a chain, by its instance. -/
structure Held where
  key : ObjectKey
  type : ChainType
  instanceId : UInt64

def Held.isFor (h : Held) (key : ObjectKey) (type : ChainType) : Bool :=
  sameKey h.key key ∧ h.type = type

/-- The map that the table stands for. -/
structure Watched where
  held : List Held := []
  /-- The instance that the next chain gets. -/
  next : UInt64 := 1
  closed : Bool := false

def Watched.lookup (m : Watched) (key : ObjectKey) (type : ChainType) : Option UInt64 :=
  (m.held.find? fun h => h.isFor key type).map Held.instanceId

/-- What is done with the table. -/
inductive Access where
  /-- `FindChain`, and `Insert` when it finds nothing, as the notes call them. -/
  | insert (key : ObjectKey) (frame : UInt64) (reason : RejectReason) (frames : ObjectFrames)
    (type : ChainType)
  /-- `FindChain`. -/
  | find (key : ObjectKey) (type : ChainType)
  /-- `FindChain`, and the end of the entry in `SettleObjectGone`. -/
  | remove (key : ObjectKey) (type : ChainType)
  /-- `CloseWindow`. -/
  | closeWindow (frame : UInt64)
  /-- `Reset`. -/
  | reset (sessionGeneration mapEpoch : UInt64)
  /-- `ResetForSessionTransition`. -/
  | transition (sessionGeneration mapEpoch : UInt64)

/-- An access to the map: the instance of the chain that was found or inserted. -/
def Watched.step (a : Access) (m : Watched) : Option UInt64 × Watched :=
  match a with
  | .insert key _ _ _ type =>
    match m.lookup key type with
    | some instanceId => (some instanceId, m)
    | none =>
      if m.held.length < kWatchCapacity then
        (some m.next, { m with held := ⟨key, type, m.next⟩ :: m.held, next := m.next + 1 })
      else (none, m)
  | .find key type => (m.lookup key type, m)
  | .remove key type =>
    (m.lookup key type, { m with held := m.held.filter fun h => !h.isFor key type })
  | .closeWindow _ => (none, if m.closed then m else { m with held := [], closed := true })
  | .reset .. => (none, { m with held := [], closed := false })
  | .transition .. => (none, { m with held := [], closed := false })

/-- An access to the table. -/
def access (a : Access) (recorder : Recorder) : Option UInt64 × Recorder :=
  match a with
  | .insert key frame reason frames type =>
    let found := countFind recorder key type
    match chainPlace recorder key type with
    | some place => (some (recorder.entries place).instanceId, found)
    | none =>
      match insert found key frame reason frames type with
      | some (place, inserted) => (some (inserted.entries place).instanceId, inserted)
      | none => (none, found)
  | .find key type =>
    ((chainPlace recorder key type).map fun place => (recorder.entries place).instanceId,
      countFind recorder key type)
  | .remove key type =>
    let found := countFind recorder key type
    match chainPlace recorder key type with
    | some place =>
      (some (recorder.entries place).instanceId, found.bury place (recorder.entries place))
    | none => (none, found)
  | .closeWindow frame => (none, PaletteEvidence.closeWindow recorder frame)
  | .reset sessionGeneration mapEpoch => (none, recorder.reset sessionGeneration mapEpoch)
  | .transition sessionGeneration mapEpoch =>
    (none, recorder.resetForSessionTransition sessionGeneration mapEpoch)

/-! ## Probes -/

theorem hashKey_congr {a b : ObjectKey} (h : sameKey a b = true) : hashKey a = hashKey b := by
  unfold sameKey at h
  obtain ⟨h₁, h₂, h₃, h₄, h₅, h₆, h₇, h₈⟩ := of_decide_eq_true h
  unfold hashKey
  rw [h₁, h₂, h₃, h₄, h₅, h₆, h₇, h₈]

theorem sameKey_comm (a b : ObjectKey) : sameKey a b = sameKey b a := by
  unfold sameKey
  simp only [eq_comm]

theorem sameKey_trans {a b c : ObjectKey} (h : sameKey a b = true) : sameKey b c = sameKey a c := by
  unfold sameKey at h ⊢
  obtain ⟨h₁, h₂, h₃, h₄, h₅, h₆, h₇, h₈⟩ := of_decide_eq_true h
  rw [h₁, h₂, h₃, h₄, h₅, h₆, h₇, h₈]

theorem exists_probe (h : UInt64) (place : Fin kWatchCapacity) :
    ∃ probe < kWatchCapacity, probePlace h probe = place := by
  have hstart : h.toNat % kWatchCapacity < kWatchCapacity := Nat.mod_lt _ (by decide)
  obtain ⟨place, hplace⟩ := place
  unfold probePlace kWatchCapacity at *
  refine ⟨(place + 1024 - h.toNat % 1024) % 1024, Nat.mod_lt _ (by decide), Fin.ext ?_⟩
  dsimp only
  omega

theorem bloomMight_bloomSet (bloom : UInt64 → Bool) (h : UInt64) :
    bloomMight (bloomSet bloom h) h = true := by
  unfold bloomMight bloomSet
  simp

theorem bloomMight_mono {bloom : UInt64 → Bool} {h : UInt64} (hmight : bloomMight bloom h = true)
    (other : UInt64) : bloomMight (bloomSet bloom other) h = true := by
  unfold bloomMight at hmight ⊢
  obtain ⟨ha, hb⟩ := Bool.and_eq_true_iff.mp hmight
  unfold bloomSet
  rw [ha, hb]
  simp

/-- A probe goes on at a place. -/
def Recorder.Passes (recorder : Recorder) (place : Fin kWatchCapacity) : Prop :=
  (recorder.entries place).used = true ∨ (recorder.entries place).tombstone = true

/-- What the table keeps. -/
structure Recorder.Probed (recorder : Recorder) : Prop where
  /-- The probes of a live key reach its place. -/
  reach : ∀ place, (recorder.entries place).used = true →
    ∃ probe < kWatchCapacity, probePlace (hashKey (recorder.entries place).key) probe = place ∧
      ∀ before < probe,
        recorder.Passes (probePlace (hashKey (recorder.entries place).key) before)
  bloom : ∀ place, (recorder.entries place).used = true →
    bloomMight recorder.bloom (hashKey (recorder.entries place).key) = true
  window : ∀ place, (recorder.entries place).used = true →
    (recorder.entries place).windowSegment = recorder.windowSegment
  distinct : ∀ place other, (recorder.entries place).used = true →
    (recorder.entries other).used = true →
      sameKey (recorder.entries place).key (recorder.entries other).key = true →
        (recorder.entries place).chainType = (recorder.entries other).chainType → place = other

variable {recorder : Recorder} {key : ObjectKey} {type : ChainType} {place : Fin kWatchCapacity}

theorem probeChain_isSome (hwatches : recorder.Watches key type place) {n probe k : ℕ}
    (hprobe : probe ≤ k) (hk : k < probe + n) (hplace : probePlace (hashKey key) k = place)
    (hpasses : ∀ before < k, recorder.Passes (probePlace (hashKey key) before)) :
    (probeChain recorder key type n probe).1.isSome = true := by
  induction n generalizing probe with
  | zero => exact absurd hk (by omega)
  | succ n ih =>
    rw [probeChain]
    dsimp only
    obtain rfl | hlt := Nat.eq_or_lt_of_le hprobe
    · rw [hplace, if_pos hwatches.used, if_pos ⟨hwatches.sameKey, hwatches.chainType⟩,
        if_pos hwatches.windowSegment]
      rfl
    have hrest := ih (Nat.succ_le_of_lt hlt) (by omega)
    split_ifs with hused hmatch hwindow htombstone
    · rfl
    · exact hrest
    · exact hrest
    · exact hrest
    · exact absurd (hpasses probe hlt) (not_or.mpr ⟨hused, htombstone⟩)

theorem Recorder.Probed.chainPlace_eq_some_iff (h : recorder.Probed) :
    chainPlace recorder key type = some place ↔ recorder.Watches key type place := by
  refine ⟨chainPlace_spec, fun hwatches => ?_⟩
  have hhash := hashKey_congr hwatches.sameKey
  obtain ⟨k, hk, hplace, hpasses⟩ := h.reach place hwatches.used
  rw [hhash] at hplace hpasses
  have hsome : (chainPlace recorder key type).isSome = true := by
    unfold chainPlace
    rw [if_pos (hhash ▸ h.bloom place hwatches.used)]
    exact probeChain_isSome hwatches (Nat.zero_le _) (by omega) hplace hpasses
  obtain ⟨found, hfound⟩ := Option.isSome_iff_exists.mp hsome
  have hother := chainPlace_spec hfound
  rw [hfound, h.distinct found place hother.used hwatches.used
    ((sameKey_trans hother.sameKey).symm.trans ((sameKey_comm _ _).trans hwatches.sameKey))
    (hother.chainType.trans hwatches.chainType.symm)]

theorem Recorder.Probed.of_unused (h : ∀ place, (recorder.entries place).used = false) :
    recorder.Probed := by
  have hnot (place : Fin kWatchCapacity) : (recorder.entries place).used ≠ true := by simp [h place]
  exact
    { reach := fun place hused => absurd hused (hnot place)
      bloom := fun place hused => absurd hused (hnot place)
      window := fun place hused => absurd hused (hnot place)
      distinct := fun place _ hused => absurd hused (hnot place) }

theorem Recorder.Probed.of_eq (h : recorder.Probed) {next : Recorder}
    (hentries : next.entries = recorder.entries) (hbloom : next.bloom = recorder.bloom)
    (hwindow : next.windowSegment = recorder.windowSegment) : next.Probed where
  reach := by
    unfold Recorder.Passes
    rw [hentries]
    exact h.reach
  bloom := by
    rw [hentries, hbloom]
    exact h.bloom
  window := by
    rw [hentries, hwindow]
    exact h.window
  distinct := by
    rw [hentries]
    exact h.distinct

theorem Recorder.Probed.update (h : recorder.Probed) {next : Recorder} {e : Entry}
    (hentries : next.entries = Function.update recorder.entries place e)
    (hpasses : e.used = true ∨ e.tombstone = true)
    (hbloom : ∀ h, bloomMight recorder.bloom h = true → bloomMight next.bloom h = true)
    (hwindow : next.windowSegment = recorder.windowSegment)
    (hreach : e.used = true → ∃ probe < kWatchCapacity, probePlace (hashKey e.key) probe = place ∧
      ∀ before < probe, recorder.Passes (probePlace (hashKey e.key) before))
    (hmight : e.used = true → bloomMight next.bloom (hashKey e.key) = true)
    (hsegment : e.used = true → e.windowSegment = recorder.windowSegment)
    (hnew : e.used = true → ∀ other, other ≠ place → (recorder.entries other).used = true →
      sameKey (recorder.entries other).key e.key = true →
        (recorder.entries other).chainType ≠ e.chainType) : next.Probed := by
  have hat : next.entries place = e := by rw [hentries, Function.update_self]
  have hother {other : Fin kWatchCapacity} (hne : other ≠ place) :
      next.entries other = recorder.entries other := by rw [hentries, Function.update_of_ne hne]
  have hkeeps {other : Fin kWatchCapacity} (hold : recorder.Passes other) : next.Passes other := by
    by_cases hne : other = place
    · unfold Recorder.Passes
      rwa [hne, hat]
    · unfold Recorder.Passes
      rwa [hother hne]
  constructor
  · intro other hused
    by_cases hne : other = place
    · subst hne
      rw [hat] at hused ⊢
      obtain ⟨probe, hlt, hplace, hold⟩ := hreach hused
      exact ⟨probe, hlt, hplace, fun before hbefore => hkeeps (hold before hbefore)⟩
    · rw [hother hne] at hused ⊢
      obtain ⟨probe, hlt, hplace, hold⟩ := h.reach other hused
      exact ⟨probe, hlt, hplace, fun before hbefore => hkeeps (hold before hbefore)⟩
  · intro other hused
    by_cases hne : other = place
    · rw [hne, hat] at hused ⊢
      exact hmight hused
    · rw [hother hne] at hused ⊢
      exact hbloom _ (h.bloom other hused)
  · intro other hused
    rw [hwindow]
    by_cases hne : other = place
    · rw [hne, hat] at hused ⊢
      exact hsegment hused
    · rw [hother hne] at hused ⊢
      exact h.window other hused
  · intro one other hone htwo hkey htype
    by_cases hne : one = place
    · by_cases hne' : other = place
      · rw [hne, hne']
      · rw [hne, hat] at hone hkey htype
        rw [hother hne'] at htwo hkey htype
        rw [sameKey_comm] at hkey
        exact absurd htype.symm (hnew hone other hne' htwo hkey)
    · by_cases hne' : other = place
      · rw [hne', hat] at htwo hkey htype
        rw [hother hne] at hone hkey htype
        exact absurd htype (hnew htwo one hne hone hkey)
      · rw [hother hne] at hone hkey htype
        rw [hother hne'] at htwo hkey htype
        exact h.distinct one other hone htwo hkey htype

theorem freePlace_eq_some {n probe : ℕ} (h : freePlace recorder key n probe = some place) :
    ∃ k, k < probe + n ∧ probePlace (hashKey key) k = place ∧ ∀ before, probe ≤ before → before < k →
      (recorder.entries (probePlace (hashKey key) before)).used = true := by
  induction n generalizing probe with
  | zero => cases h
  | succ n ih =>
    rw [freePlace] at h
    split_ifs at h with hused
    · obtain ⟨k, hk, hplace, hbefore⟩ := ih h
      refine ⟨k, by omega, hplace, fun before hle hlt => ?_⟩
      obtain rfl | hgt := Nat.eq_or_lt_of_le hle
      · exact hused
      · exact hbefore before hgt hlt
    · refine ⟨probe, by omega, Option.some.inj h, fun before hle hlt => ?_⟩
      omega

theorem freePlace_isSome {n probe k : ℕ} (hle : probe ≤ k) (hlt : k < probe + n)
    (hfree : (recorder.entries (probePlace (hashKey key) k)).used = false) :
    (freePlace recorder key n probe).isSome = true := by
  induction n generalizing probe with
  | zero => omega
  | succ n ih =>
    rw [freePlace]
    split_ifs with hused
    · obtain rfl | hgt := Nat.eq_or_lt_of_le hle
      · rw [hused] at hfree
        cases hfree
      · exact ih hgt (by omega)
    · rfl

/-! ## The table and the map -/

def Recorder.heldAt (recorder : Recorder) (place : Fin kWatchCapacity) : Held :=
  ⟨(recorder.entries place).key, (recorder.entries place).chainType,
    (recorder.entries place).instanceId⟩

/-- The map lists the live places of the table. -/
structure Stands (recorder : Recorder) (m : Watched) : Prop where
  probed : recorder.Probed
  next : recorder.nextInstanceId = m.next
  closed : recorder.windowClosed = m.closed
  watch : recorder.watchCount = m.held.length
  places : ∃ places : List (Fin kWatchCapacity), places.Nodup ∧
    (∀ place, place ∈ places ↔ (recorder.entries place).used = true) ∧
      m.held = places.map recorder.heldAt

variable {m : Watched}

theorem Recorder.Probed.isFor_iff (h : recorder.Probed) (hused : (recorder.entries place).used = true) :
    (recorder.heldAt place).isFor key type = true ↔ chainPlace recorder key type = some place := by
  rw [h.chainPlace_eq_some_iff]
  unfold Held.isFor Recorder.heldAt
  rw [decide_eq_true_eq]
  exact ⟨fun hfor => ⟨hused, hfor.2, h.window place hused, hfor.1⟩,
    fun hwatches => ⟨hwatches.sameKey, hwatches.chainType⟩⟩

theorem Stands.lookup (h : Stands recorder m) (key : ObjectKey) (type : ChainType) :
    m.lookup key type =
      (chainPlace recorder key type).map fun place => (recorder.entries place).instanceId := by
  obtain ⟨places, -, hmem, hheld⟩ := h.places
  have hfind : places.find? (fun place => (recorder.heldAt place).isFor key type) =
      chainPlace recorder key type := by
    rcases hfind : places.find? fun place => (recorder.heldAt place).isFor key type with _ | found
    · rcases hchain : chainPlace recorder key type with _ | place
      · rfl
      · have hused := (chainPlace_spec hchain).used
        exact absurd ((h.probed.isFor_iff hused).mpr hchain)
          (List.find?_eq_none.mp hfind place ((hmem place).mpr hused))
    · have hused := (hmem found).mp (List.mem_of_find?_eq_some hfind)
      have hfor : (recorder.heldAt found).isFor key type = true := by
        simpa using List.find?_some hfind
      exact ((h.probed.isFor_iff hused).mp hfor).symm
  unfold Watched.lookup
  rw [hheld, List.find?_map, Option.map_map, ← hfind]
  rfl

theorem Stands.of_eq (h : Stands recorder m) {next : Recorder}
    (hentries : next.entries = recorder.entries) (hbloom : next.bloom = recorder.bloom)
    (hwindow : next.windowSegment = recorder.windowSegment)
    (hnext : next.nextInstanceId = recorder.nextInstanceId)
    (hclosed : next.windowClosed = recorder.windowClosed)
    (hwatch : next.watchCount = recorder.watchCount) : Stands next m where
  probed := h.probed.of_eq hentries hbloom hwindow
  next := hnext.trans h.next
  closed := hclosed.trans h.closed
  watch := hwatch.trans h.watch
  places := by
    unfold Recorder.heldAt
    rw [hentries]
    exact h.places

theorem Stands.of_unused (hused : ∀ place, (recorder.entries place).used = false)
    (hnext : recorder.nextInstanceId = m.next) (hclosed : recorder.windowClosed = m.closed)
    (hwatch : recorder.watchCount = 0) (hheld : m.held = []) : Stands recorder m where
  probed := .of_unused hused
  next := hnext
  closed := hclosed
  watch := by rw [hwatch, hheld, List.length_nil]
  places := ⟨[], List.nodup_nil, fun place => by simp [hused place], hheld⟩

theorem Stands.countFind (h : Stands recorder m) (key : ObjectKey) (type : ChainType) :
    Stands (countFind recorder key type) m := by
  unfold PaletteEvidence.countFind
  split_ifs
  · exact h.of_eq rfl rfl rfl rfl rfl rfl
  · exact h

theorem countFind_entries (recorder : Recorder) (key : ObjectKey) (type : ChainType) :
    (countFind recorder key type).entries = recorder.entries := by
  unfold countFind
  split_ifs <;> rfl

theorem Stands.chainPlace_countFind (h : Stands recorder m) (key : ObjectKey) (type : ChainType) :
    chainPlace (PaletteEvidence.countFind recorder key type) key type = chainPlace recorder key type := by
  refine Option.ext fun place => ?_
  rw [(h.countFind key type).probed.chainPlace_eq_some_iff, h.probed.chainPlace_eq_some_iff]
  unfold PaletteEvidence.countFind
  split_ifs
  · exact ⟨fun h => ⟨h.used, h.chainType, h.windowSegment, h.sameKey⟩,
      fun h => ⟨h.used, h.chainType, h.windowSegment, h.sameKey⟩⟩
  · exact Iff.rfl

theorem Stands.exists_free (h : Stands recorder m) (hlt : m.held.length < kWatchCapacity) :
    ∃ place, (recorder.entries place).used = false := by
  by_contra hnot
  obtain ⟨places, hnodup, hmem, hheld⟩ := h.places
  have hall : places.toFinset = Finset.univ := Finset.eq_univ_iff_forall.mpr fun place =>
    List.mem_toFinset.mpr ((hmem place).mpr (Bool.eq_true_of_not_eq_false fun hfree =>
      hnot ⟨place, hfree⟩))
  have hcard := congrArg Finset.card hall
  rw [List.toFinset_card_of_nodup hnodup, Finset.card_univ, Fintype.card_fin] at hcard
  rw [hheld, List.length_map, hcard] at hlt
  exact absurd hlt (Nat.lt_irrefl _)

theorem Stands.insert (h : Stands recorder m) (hnone : chainPlace recorder key type = none)
    (frame : UInt64) (reason : RejectReason) (frames : ObjectFrames) :
    if m.held.length < kWatchCapacity then
      ∃ place inserted, insert recorder key frame reason frames type = some (place, inserted) ∧
        (inserted.entries place).instanceId = m.next ∧ Stands inserted
            { m with held := ⟨key, type, m.next⟩ :: m.held, next := m.next + 1 }
    else insert recorder key frame reason frames type = none := by
  unfold PaletteEvidence.insert
  by_cases hlt : m.held.length < kWatchCapacity
  · rw [if_pos hlt, if_neg (h.watch ▸ Nat.not_le.mpr hlt)]
    obtain ⟨free, hfree⟩ := h.exists_free hlt
    obtain ⟨probe, hprobe, hat⟩ := exists_probe (hashKey key) free
    rw [← hat] at hfree
    obtain ⟨place, hplace⟩ := Option.isSome_iff_exists.mp
      (freePlace_isSome (Nat.zero_le probe) (by omega : probe < 0 + kWatchCapacity) hfree)
    rw [hplace]
    refine ⟨place, _, rfl, ?_, ?_⟩
    · unfold Recorder.setEntry
      dsimp only
      rw [Function.update_self]
      exact h.next
    have hunused := freePlace_spec hplace
    obtain ⟨k, hk, hreached, hbefore⟩ := freePlace_eq_some hplace
    have hnew {other : Fin kWatchCapacity} (hused : (recorder.entries other).used = true) :
        other ≠ place := fun heq => by
      rw [heq, hunused] at hused
      cases hused
    refine
      { probed := ?_
        next := congrArg (· + 1) h.next
        closed := h.closed
        watch := congrArg (· + 1) h.watch
        places := ?_ }
    · refine h.probed.update rfl (.inl rfl) (fun _ hmight => bloomMight_mono hmight _) rfl
        (fun _ => ⟨k, by omega, hreached, fun before hlt => .inl (hbefore before (Nat.zero_le _) hlt)⟩)
        (fun _ => bloomMight_bloomSet _ _) (fun _ => rfl) fun _ other _ hused hkey htype => ?_
      have hwatches : recorder.Watches key type other :=
        ⟨hused, htype, h.probed.window other hused, hkey⟩
      rw [h.probed.chainPlace_eq_some_iff.mpr hwatches] at hnone
      cases hnone
    · obtain ⟨places, hnodup, hmem, hheld⟩ := h.places
      refine ⟨place :: places, List.nodup_cons.mpr ⟨fun hin => hnew ((hmem place).mp hin) rfl, hnodup⟩,
        fun other => ?_, ?_⟩
      · rw [List.mem_cons, hmem]
        unfold Recorder.setEntry
        dsimp only
        by_cases heq : other = place
        · rw [heq, Function.update_self]
          simp
        · rw [Function.update_of_ne heq]
          simp [heq]
      · rw [List.map_cons, hheld]
        unfold Recorder.heldAt Recorder.setEntry
        dsimp only
        rw [Function.update_self, h.next]
        refine congrArg _ (List.map_congr_left fun other hin => ?_)
        rw [Function.update_of_ne (hnew ((hmem other).mp hin))]
  · rw [if_neg hlt, if_pos (h.watch ▸ Nat.not_lt.mp hlt)]

theorem Stands.bury (h : Stands recorder m) (hplace : chainPlace recorder key type = some place) :
    Stands (recorder.bury place (recorder.entries place))
      { m with held := m.held.filter fun h => !h.isFor key type } := by
  obtain ⟨places, hnodup, hmem, hheld⟩ := h.places
  have hused := (chainPlace_spec hplace).used
  have hfilter : m.held.filter (fun h => !h.isFor key type) =
      (places.filter fun other => other != place).map recorder.heldAt := by
    rw [hheld, List.filter_map]
    refine congrArg _ (List.filter_congr fun other hin => ?_)
    have hiff : (recorder.heldAt other).isFor key type = true ↔
        chainPlace recorder key type = some other := h.probed.isFor_iff ((hmem other).mp hin)
    rw [hplace, Option.some.injEq] at hiff
    dsimp only [Function.comp_apply]
    by_cases heq : other = place
    · rw [hiff.mpr heq.symm, heq, bne_self_eq_false]
      rfl
    · rw [Bool.eq_false_iff.mpr fun hfor => heq (hiff.mp hfor).symm, bne_iff_ne.mpr heq]
      rfl
  refine
    { probed := ?_
      next := h.next
      closed := h.closed
      watch := ?_
      places := ⟨places.filter fun other => other != place, hnodup.filter _, fun other => ?_, ?_⟩ }
  · refine h.probed.update rfl (.inr rfl) (fun _ hmight => hmight) rfl ?_ ?_ ?_ ?_
    all_goals exact fun hnot => absurd hnot Bool.false_ne_true
  · have herase : places.filter (fun other => other != place) = places.erase place :=
      (hnodup.erase_eq_filter place).symm
    rw [hfilter, List.length_map, herase, List.length_erase_of_mem ((hmem place).mpr hused)]
    exact congrArg (· - 1) (h.watch.trans (by rw [hheld, List.length_map]))
  · rw [List.mem_filter, hmem]
    unfold Recorder.bury Recorder.setEntry
    dsimp only
    by_cases heq : other = place
    · rw [heq, Function.update_self]
      simp
    · rw [Function.update_of_ne heq]
      simp [heq]
  · rw [hfilter]
    refine List.map_congr_left fun other hin => ?_
    have hne : other ≠ place := bne_iff_ne.mp (List.mem_filter.mp hin).2
    unfold Recorder.heldAt Recorder.bury Recorder.setEntry
    dsimp only
    rw [Function.update_of_ne hne]

theorem foldl_closeEntry_next (frame : UInt64) (places : List (Fin kWatchCapacity))
    (recorder : Recorder) :
    (places.foldl (closeEntry frame) recorder).nextInstanceId = recorder.nextInstanceId ∧
      (places.foldl (closeEntry frame) recorder).windowClosed = recorder.windowClosed := by
  induction places generalizing recorder with
  | nil => exact ⟨rfl, rfl⟩
  | cons place places ih =>
    have hfirst : (closeEntry frame recorder place).nextInstanceId = recorder.nextInstanceId ∧
        (closeEntry frame recorder place).windowClosed = recorder.windowClosed := by
      unfold closeEntry
      dsimp only
      split_ifs <;> exact ⟨rfl, rfl⟩
    obtain ⟨hnext, hclosed⟩ := ih (closeEntry frame recorder place)
    exact ⟨hnext.trans hfirst.1, hclosed.trans hfirst.2⟩

theorem Stands.access (h : Stands recorder m) (a : Access) :
    (access a recorder).1 = (m.step a).1 ∧ Stands (access a recorder).2 (m.step a).2 := by
  cases a with
  | insert key frame reason frames type =>
    have hfound := h.countFind key type
    unfold PaletteEvidence.access Watched.step
    dsimp only
    rw [h.lookup]
    rcases hplace : chainPlace recorder key type with _ | place
    · have hinsert := hfound.insert ((h.chainPlace_countFind key type).trans hplace) frame reason frames
      rw [Option.map_none]
      dsimp only
      split_ifs at hinsert ⊢
      · obtain ⟨place, inserted, heq, hinstance, hstands⟩ := hinsert
        rw [heq]
        exact ⟨congrArg some hinstance, hstands⟩
      · rw [hinsert]
        exact ⟨rfl, hfound⟩
    · exact ⟨rfl, hfound⟩
  | find key type => exact ⟨(h.lookup key type).symm, h.countFind key type⟩
  | remove key type =>
    have hfound := h.countFind key type
    have hlookup := h.lookup key type
    unfold PaletteEvidence.access Watched.step
    dsimp only
    rw [hlookup]
    rcases hplace : chainPlace recorder key type with _ | place
    · refine ⟨rfl, ?_⟩
      have hall : m.held.filter (fun h => !h.isFor key type) = m.held := by
        rw [hplace] at hlookup
        refine List.filter_eq_self.mpr fun held hmem => ?_
        have hnot := List.find?_eq_none.mp (Option.map_eq_none_iff.mp hlookup) held hmem
        rw [Bool.eq_false_iff.mpr hnot]
        rfl
      rw [hall]
      exact hfound
    · have hburied := hfound.bury ((h.chainPlace_countFind key type).trans hplace)
      rw [countFind_entries] at hburied
      exact ⟨rfl, hburied⟩
  | closeWindow frame =>
    refine ⟨rfl, ?_⟩
    unfold PaletteEvidence.access Watched.step
    dsimp only
    by_cases hclosed : recorder.windowClosed = true
    · rw [if_pos (h.closed ▸ hclosed)]
      unfold PaletteEvidence.closeWindow
      rwa [if_pos hclosed]
    · have hopen := Bool.eq_false_iff.mpr hclosed
      have hused := closeWindow_used hopen frame
      obtain ⟨places, -, heq⟩ := closeWindow_of_open hopen frame
      have hkept := foldl_closeEntry_next frame places { recorder with windowClosed := true }
      rw [if_neg (h.closed ▸ hclosed)]
      exact .of_unused hused (by rw [heq]; exact hkept.1.trans h.next)
        (by rw [heq]; exact hkept.2) (by rw [heq]) rfl
  | reset sessionGeneration mapEpoch =>
    exact ⟨rfl, .of_unused (fun _ => rfl) h.next rfl rfl rfl⟩
  | transition sessionGeneration mapEpoch =>
    exact ⟨rfl, .of_unused (fun _ => rfl) h.next rfl rfl rfl⟩

/-- Over every run of insertions, lookups, removals and clears the table returns what the map does, and
its filter lets every live chain through. -/
theorem table_stands (calls : List Access) :
    let recorder := run access calls {}
    let m := run Watched.step calls {}
    (history access calls {}).map Record.output =
        (history Watched.step calls {}).map Record.output ∧
      (∀ key type, m.lookup key type =
        (chainPlace recorder key type).map fun place => (recorder.entries place).instanceId) ∧
      (∀ h ∈ m.held, bloomMight recorder.bloom (hashKey h.key) = true) ∧
      recorder.watchCount = m.held.length ∧ m.held.length ≤ kWatchCapacity := by
  intro recorder m
  have hinit : Stands {} {} := .of_unused (fun _ => rfl) rfl rfl rfl rfl
  obtain ⟨houtputs, hstands⟩ := @run_related _ _ _ access _ Watched.step Stands
    (fun _ _ a h => h.access a) calls _ _ hinit
  obtain ⟨places, hnodup, hmem, hheld⟩ := hstands.places
  refine ⟨houtputs, hstands.lookup, fun h hin => ?_, hstands.watch, ?_⟩
  · rw [hheld] at hin
    obtain ⟨place, hplace, rfl⟩ := List.mem_map.mp hin
    exact hstands.probed.bloom place ((hmem place).mp hplace)
  · have hle := hnodup.length_le_card
    rwa [Fintype.card_fin, ← List.length_map, ← hheld] at hle

end War3VK.Tools.PaletteEvidence
