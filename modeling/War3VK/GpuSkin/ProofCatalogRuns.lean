import Mathlib
import War3VK.GpuSkin.CurrentDraw
import War3VK.Lib.Machine

/-!
# Runs of the proof catalog

Every publication makes the next snapshot out of the current one: it inserts a prepared entry or moves
one entry on (`Edited`). So along a run the snapshots stay sorted, their revisions grow, entries keep
what was proved about them, and an upload is complete only where its fence was seen to pass.
-/

namespace War3VK.GpuSkin

open War3VK.Lib

namespace ProofCatalog

/-! ## The order of keys -/

def Key.fields (key : Key) : List ℕ :=
  [key.schema.toNat, key.mapEpoch.toNat, key.deviceEpoch.toNat, key.packageGeneration.toNat,
    key.immutableModelGeneration.toNat, key.geosetData.toNat, key.contentHash.toNat,
    key.layoutGeneration.toNat, key.primitiveOrdinal.toNat]

theorem Key.fields_injective : Function.Injective Key.fields := by
  intro a b h
  simp only [Key.fields, List.cons.injEq, UInt64.toNat_inj, UInt32.toNat_inj, and_true] at h
  obtain ⟨h1, h2, h3, h4, h5, h6, h7, h8, h9⟩ := h
  cases a
  cases b
  simp_all

theorem keyLess_iff (a b : Key) : keyLess a b = true ↔ a.fields < b.fields := by
  unfold keyLess Key.fields
  simp only [List.cons_lt_cons_iff, UInt64.toNat_inj, UInt32.toNat_inj, ← UInt64.lt_iff_toNat_lt,
    ← UInt32.lt_iff_toNat_lt]
  split_ifs <;> simp_all

instance : IsStrictTotalOrder Key (keyLess · · = true) where
  irrefl a h := lt_irrefl a.fields ((keyLess_iff a a).mp h)
  trans a b c hab hbc :=
    (keyLess_iff a c).mpr (((keyLess_iff a b).mp hab).trans ((keyLess_iff b c).mp hbc))
  trichotomous a b hab hba := by
    rw [keyLess_iff] at hab hba
    exact Key.fields_injective (le_antisymm (not_lt.mp hba) (not_lt.mp hab))

variable {snapshot : Snapshot} {entry : Entry}

theorem Snapshot.find_iff (h : SortedTable keyLess Entry.key snapshot.entries) {key : Key} :
    snapshot.find key = some entry ↔ entry ∈ snapshot.entries ∧ entry.key = key := by
  rw [← h.find_iff]
  have hbound : boundOf snapshot.entries key = tableBound keyLess Entry.key snapshot.entries key := rfl
  unfold Snapshot.find
  rw [hbound]
  cases snapshot.entries[tableBound keyLess Entry.key snapshot.entries key]? with
  | none => simp
  | some found =>
    simp only [sameKey, decide_eq_true_eq, Option.some.injEq]
    constructor
    · intro hfound
      split at hfound
      · cases hfound
        exact ⟨rfl, by assumption⟩
      · cases hfound
    · rintro ⟨rfl, hkey⟩
      rw [if_pos hkey]

/-! ## Calls -/

inductive CatalogCall
  | publishPrepared (thread : ℕ) (answers : CatalogAnswers) (package : PreparedPackage)
  | publishUploadSubmitted (thread : ℕ) (answers : CatalogAnswers) (key : Key)
      (fence : ProducerFencePoint)
  | publishUploadCompleted (thread : ℕ) (answers : CatalogAnswers) (key : Key)
      (observation : ProducerFenceObservation)
  | publishInvalidated (thread : ℕ) (answers : CatalogAnswers) (key : Key)
  | snapshot

inductive CatalogOutput
  | threw
  | mutation (result : MutationResult)
  | snapshot (result : Snapshot)

def mutationOr : Option MutationResult → CatalogOutput
  | some result => .mutation result
  | none => .threw

def catalogStep (call : CatalogCall) (s : ProofCatalog) : CatalogOutput × ProofCatalog :=
  match call with
  | .publishPrepared thread answers package =>
    let (result, s) := publishPrepared thread answers package s
    (mutationOr result, s)
  | .publishUploadSubmitted thread answers key fence =>
    let (result, s) := publishUploadSubmitted thread answers key fence s
    (mutationOr result, s)
  | .publishUploadCompleted thread answers key observation =>
    let (result, s) := publishUploadCompleted thread answers key observation s
    (mutationOr result, s)
  | .publishInvalidated thread answers key =>
    let (result, s) := publishInvalidated thread answers key s
    (mutationOr result, s)
  | .snapshot => (.snapshot s.snapshot, s)

def Observes (call : CatalogCall) (entry : Entry) : Prop :=
  ∃ thread answers observation, call = .publishUploadCompleted thread answers entry.key observation ∧
    observation.identity = entry.value.producerFence.identity ∧ observation.querySucceeded = true ∧
    entry.value.producerFence.value ≤ observation.completedValue

/-! ## What a publication changes -/

inductive Moves : PublicationState → PublicationState → Prop
  | submit : Moves .prepared .uploadSubmitted
  | complete : Moves .uploadSubmitted .uploadCompleted
  | invalidate {state : PublicationState} (h : state ≠ .invalidated) : Moves state .invalidated

theorem ne_prepared_of_moves {state state' : PublicationState}
    (h : Relation.ReflTransGen Moves state state') (hne : state ≠ .prepared) : state' ≠ .prepared := by
  induction h with
  | refl => exact hne
  | tail _ hmove _ => cases hmove <;> exact nofun

/-- A value that moved on: its proofs stay, and its fence once it has one. -/
structure Advances (value value' : Value) : Prop where
  packageProof : value'.packageProof = value.packageProof
  primitiveProof : value'.primitiveProof = value.primitiveProof
  canonicalDigest : value'.canonicalDigest = value.canonicalDigest
  state : Relation.ReflTransGen Moves value.state value'.state
  producerFence : value.state ≠ .prepared → value'.producerFence = value.producerFence

theorem Advances.refl (value : Value) : Advances value value := ⟨rfl, rfl, rfl, .refl, fun _ => rfl⟩

theorem Advances.trans {a b c : Value} (h : Advances a b) (h' : Advances b c) : Advances a c where
  packageProof := h'.packageProof.trans h.packageProof
  primitiveProof := h'.primitiveProof.trans h.primitiveProof
  canonicalDigest := h'.canonicalDigest.trans h.canonicalDigest
  state := h.state.trans h'.state
  producerFence hne := by
    rw [h'.producerFence (ne_prepared_of_moves h.state hne), h.producerFence hne]

def Follows (entries entries' : List Entry) : Prop :=
  ∀ entry ∈ entries, ∃ entry' ∈ entries', entry'.key = entry.key ∧ Advances entry.value entry'.value

theorem Follows.trans {a b c : List Entry} (h : Follows a b) (h' : Follows b c) : Follows a c := by
  intro entry hentry
  obtain ⟨entry', hentry', hkey, hadvances⟩ := h entry hentry
  obtain ⟨entry'', hentry'', hkey', hadvances'⟩ := h' entry' hentry'
  exact ⟨entry'', hentry'', hkey'.trans hkey, hadvances.trans hadvances'⟩

structure Edited (call : CatalogCall) (entries entries' : List Entry) : Prop where
  sorted : SortedTable keyLess Entry.key entries → SortedTable keyLess Entry.key entries'
  follows : Follows entries entries'
  /-- An upload becomes complete when its fence is seen to have passed. -/
  completed : ∀ entry ∈ entries', entry.value.state = .uploadCompleted →
    entry ∈ entries ∨ Observes call entry

inductive Change (call : CatalogCall) (s : ProofCatalog) :
    Option MutationResult × ProofCatalog → Prop
  | kept (result : Option MutationResult) (writer : Option ℕ) (hresult : result ≠ some .accepted) :
      Change call s (result, { s with writerThread := writer })
  | stored (entries : List Entry) (writer : Option ℕ)
      (hrevision : s.snapshot.revision ≠ 0xffffffffffffffff)
      (hedited : Edited call s.snapshot.entries entries) :
      Change call s (some .accepted,
        { storeSnapshot entries (s.snapshot.revision + 1) s with writerThread := writer })

variable {call : CatalogCall} {s : ProofCatalog}

theorem Change.refused (result : Option MutationResult) (hresult : result ≠ some .accepted) :
    Change call s (result, s) := .kept result s.writerThread hresult

theorem Change.of_writer {writer : Option ℕ} {result : Option MutationResult × ProofCatalog}
    (h : Change call { s with writerThread := writer } result) : Change call s result := by
  cases h with
  | kept result writer hresult => exact .kept result writer hresult
  | stored entries writer hrevision hedited => exact .stored entries writer hrevision hedited

theorem publishAs_change {thread : ℕ} {valid : Bool}
    {publish : ProofCatalog → Option MutationResult × ProofCatalog}
    (h : ∀ t, Change call t (publish t)) : Change call s (publishAs thread valid publish s) := by
  unfold publishAs
  split
  · exact .refused _ nofun
  · unfold bindOrCheckWriter
    cases s.writerThread with
    | none => exact (h { s with writerThread := some thread }).of_writer
    | some writer =>
      dsimp only
      cases decide (writer = thread) with
      | false => exact .refused _ nofun
      | true => exact h s

variable {entries : List Entry} {target : PublicationState} {fence : Option ProducerFencePoint}
  {observation : Option ProducerFenceObservation} {value : Value}

theorem edited_insert
    (hnone : ∀ found, entries[boundOf entries entry.key]? = some found → found.key ≠ entry.key)
    (hstate : entry.value.state = .prepared) :
    Edited call entries (entries.insertIdx (boundOf entries entry.key) entry) where
  sorted hsorted := hsorted.insertIdx fun other hother hkey => by
    -- The search would have found another entry with that key.
    have hfound := hsorted.getElem?_tableBound hother
    rw [hkey] at hfound
    exact hnone other hfound hkey
  follows other hother := by
    refine ⟨other, ?_, rfl, .refl _⟩
    by_cases hle : boundOf entries entry.key ≤ entries.length
    · exact (List.mem_insertIdx hle).mpr (Or.inr hother)
    · rw [List.insertIdx_of_length_lt (Nat.lt_of_not_le hle)]
      exact hother
  completed other hother hcompleted := by
    by_cases hle : boundOf entries entry.key ≤ entries.length
    · rcases (List.mem_insertIdx hle).mp hother with rfl | hother
      · rw [hstate] at hcompleted
        cases hcompleted
      · exact Or.inl hother
    · rw [List.insertIdx_of_length_lt (Nat.lt_of_not_le hle)] at hother
      exact Or.inl hother

theorem edited_set {i : ℕ} {entry' : Entry} (hentry : entries[i]? = some entry)
    (hkey : entry'.key = entry.key) (hadvances : Advances entry.value entry'.value)
    (hcompleted : entry'.value.state = .uploadCompleted → Observes call entry') :
    Edited call entries (entries.set i entry') where
  sorted hsorted := hsorted.set hentry hkey
  follows other hother := by
    obtain ⟨j, hj⟩ := List.mem_iff_getElem?.mp hother
    have hlt := (List.getElem?_eq_some_iff.mp hj).choose
    by_cases hij : i = j
    · subst hij
      rw [hentry, Option.some.injEq] at hj
      subst hj
      exact ⟨entry', List.mem_of_getElem? (List.getElem?_set_self hlt), hkey, hadvances⟩
    · exact ⟨other, List.mem_of_getElem? ((List.getElem?_set_ne hij).trans hj), rfl, .refl _⟩
  completed other hother hcomplete := by
    rcases List.mem_or_eq_of_mem_set hother with hother | rfl
    · exact Or.inl hother
    · exact Or.inr (hcompleted hcomplete)

theorem insertPrepared_change (answers : CatalogAnswers) (package : PreparedPackage) :
    Change call s (insertPrepared answers package s) := by
  unfold insertPrepared
  split
  · exact .refused _ nofun
  · rename_i hrevision
    split
    · exact .refused _ nofun
    · dsimp only
      -- Inserting is allowed where the search finds no entry of this key.
      have hinsert : (∀ found, s.snapshot.entries[boundOf s.snapshot.entries package.key]? =
          some found → found.key ≠ package.key) → ∀ entry : Entry, entry.key = package.key →
          entry.value.state = .prepared → Change call s (if answers.inserts then
            (some .accepted, storeSnapshot (s.snapshot.entries.insertIdx
              (boundOf s.snapshot.entries package.key) entry) (s.snapshot.revision + 1) s)
            else (none, s)) := by
        rintro hnone entry hkey hstate
        split
        · rw [← hkey] at hnone ⊢
          exact .stored _ s.writerThread hrevision (edited_insert hnone hstate)
        · exact .refused _ nofun
      split
      · rename_i hnone
        exact hinsert (fun found hfound => by rw [hnone] at hfound; cases hfound) _ rfl rfl
      · rename_i entry hentry
        split
        · split
          · exact .refused _ nofun
          · split <;> exact .refused _ nofun
        · rename_i hne
          refine hinsert (fun found hfound => ?_) _ rfl rfl
          rw [hentry, Option.some.injEq] at hfound
          subst hfound
          simpa [sameKey] using hne

theorem transitionOf_advances {value' : Value}
    (h : transitionOf target fence observation value = .ok value') :
    Advances value value' ∧ (value'.state = .uploadCompleted → ∃ seen, observation = some seen ∧
      target = .uploadCompleted ∧ seen.identity = value'.producerFence.identity ∧
      seen.querySucceeded = true ∧ value'.producerFence.value ≤ seen.completedValue) := by
  unfold transitionOf at h
  split at h
  · split at h
    · cases h
    · rename_i hstate
      cases h
      exact ⟨⟨rfl, rfl, rfl, .single (.invalidate hstate), fun _ => rfl⟩, nofun⟩
  · split at h
    · cases h
    · split at h
      · cases h
      · split at h
        · cases h
        · rename_i hprepared
          rw [ne_eq, not_not] at hprepared
          cases h
          refine ⟨⟨rfl, rfl, rfl, ?_, fun hne => absurd hprepared hne⟩, nofun⟩
          rw [hprepared]
          exact .single .submit
  · rename_i seen
    split at h
    · cases h
    · rename_i hstate
      split at h
      · cases h
      · rename_i hidentity
        split at h
        · cases h
        · rename_i hseen
          split at h
          · cases h
          · rename_i hopen
            simp only [Bool.or_eq_true, Bool.not_eq_true', decide_eq_true_eq, not_or,
              Bool.not_eq_false, UInt64.not_lt] at hseen
            have hsubmitted : value.state = .uploadSubmitted := by
              revert hstate hopen
              cases value.state <;> simp
            cases h
            refine ⟨⟨rfl, rfl, rfl, ?_, fun _ => rfl⟩, fun _ => ⟨seen, rfl, rfl, ?_, hseen.1, hseen.2⟩⟩
            · rw [hsubmitted]
              exact .single .complete
            · exact (not_not.mp hidentity).symm
  · cases h

theorem transitionOf_ne_accepted :
    transitionOf target fence observation value ≠ .error .accepted := by
  intro h
  unfold transitionOf at h
  split at h
  · split_ifs at h
    cases h
  · split_ifs at h <;> cases h
  · split_ifs at h <;> cases h
  · cases h

theorem publishTransition_change (answers : CatalogAnswers) {key : Key}
    (hcall : ∀ seen, observation = some seen → target = .uploadCompleted →
      ∃ thread, call = .publishUploadCompleted thread answers key seen) :
    Change call s (publishTransition answers key target fence observation s) := by
  unfold publishTransition
  split
  · exact .refused _ nofun
  · split
    · exact .refused _ nofun
    · rename_i hrevision
      split
      · exact .refused _ nofun
      · dsimp only
        split
        · exact .refused _ nofun
        · rename_i entry hentry
          split
          · exact .refused _ nofun
          · rename_i hkey
            have hkey : entry.key = key := by simpa [sameKey] using hkey
            split
            · rename_i reason hreason
              refine .refused _ fun heq => ?_
              rw [Option.some.inj heq] at hreason
              exact transitionOf_ne_accepted hreason
            · rename_i value hvalue
              obtain ⟨⟨h1, h2, h3, h4, h5⟩, hcompleted⟩ := transitionOf_advances hvalue
              refine .stored _ s.writerThread hrevision
                (edited_set hentry rfl ⟨h1, h2, h3, h4, h5⟩ fun hstate => ?_)
              obtain ⟨seen, hseen, htarget, hidentity, hquery, hle⟩ := hcompleted hstate
              obtain ⟨thread, rfl⟩ := hcall seen hseen htarget
              exact ⟨thread, answers, seen, by rw [hkey], hidentity, hquery, hle⟩

theorem catalogStep_change (call : CatalogCall) (s : ProofCatalog) :
    ((catalogStep call s).2 = s ∧ (catalogStep call s).1 = .snapshot s.snapshot) ∨
      ∃ result, Change call s (result, (catalogStep call s).2) ∧
        (catalogStep call s).1 = mutationOr result := by
  cases call with
  | publishPrepared thread answers package =>
    exact Or.inr ⟨_, publishAs_change fun t => insertPrepared_change answers package, rfl⟩
  | publishUploadSubmitted thread answers key fence =>
    exact Or.inr ⟨_, publishAs_change fun t => publishTransition_change answers nofun, rfl⟩
  | publishUploadCompleted thread answers key observation =>
    exact Or.inr ⟨_, publishAs_change fun t => publishTransition_change answers fun seen hseen _ =>
      ⟨thread, by rw [Option.some.inj hseen]⟩, rfl⟩
  | publishInvalidated thread answers key =>
    exact Or.inr ⟨_, publishAs_change fun t => publishTransition_change answers nofun, rfl⟩
  | snapshot => exact Or.inl ⟨rfl, rfl⟩

/-! ## Runs -/

structure Published (s : ProofCatalog) (past : List (Record ProofCatalog CatalogCall CatalogOutput)) :
    Prop where
  sorted : ∀ snapshot ∈ s.published, SortedTable keyLess Entry.key snapshot.entries
  /-- Later ones have greater revisions, and their entries moved on. -/
  later : s.published.Pairwise fun a b => a.revision < b.revision ∧ Follows a.entries b.entries
  kept : ∀ r ∈ past, r.before.published <+: s.published
  handed : ∀ r ∈ past, ∀ snapshot, r.output = .snapshot snapshot → snapshot ∈ s.published
  completed : ∀ snapshot ∈ s.published, ∀ entry ∈ snapshot.entries,
    entry.value.state = .uploadCompleted →
      ∃ r ∈ past, r.output = .mutation .accepted ∧ Observes r.call entry

variable {past : List (Record ProofCatalog CatalogCall CatalogOutput)}

theorem mem_published : snapshot ∈ s.published ↔ snapshot ∈ s.earlier ∨ snapshot = s.snapshot := by
  rw [published, List.mem_append, List.mem_singleton]

theorem Published.keep (h : Published s past) {t : ProofCatalog} (ht : t.published = s.published)
    {r : Record ProofCatalog CatalogCall CatalogOutput} (hbefore : r.before = s)
    (houtput : ∀ snapshot, r.output = .snapshot snapshot → snapshot ∈ s.published) :
    Published t (past ++ [r]) where
  sorted := ht ▸ h.sorted
  later := ht ▸ h.later
  kept := by
    rw [List.forall_mem_append, ht]
    refine ⟨h.kept, fun r' hr' => ?_⟩
    rw [List.mem_singleton.mp hr']
    exact hbefore ▸ List.prefix_rfl
  handed := by
    rw [List.forall_mem_append, ht]
    refine ⟨h.handed, fun r' hr' => ?_⟩
    rw [List.mem_singleton.mp hr']
    exact houtput
  completed snapshot hsnapshot entry hentry hstate := by
    obtain ⟨r', hr', hseen⟩ := h.completed snapshot (ht ▸ hsnapshot) entry hentry hstate
    exact ⟨r', List.mem_append_left _ hr', hseen⟩

theorem revision_lt {revision : UInt64} (h : revision ≠ 0xffffffffffffffff) :
    revision < revision + 1 := by
  rw [UInt64.lt_iff_toNat_lt, UInt64.toNat_add]
  have hlt := UInt64.toNat_lt revision
  have hne : revision.toNat ≠ 0xffffffffffffffff := fun heq => h (UInt64.toNat_inj.mp heq)
  have hone : (1 : UInt64).toNat = 1 := rfl
  omega

theorem Published.store (h : Published s past) {t : ProofCatalog}
    (hrevision : s.snapshot.revision ≠ 0xffffffffffffffff)
    (ht : t.published = s.published ++ [⟨s.instanceGeneration, s.snapshot.revision + 1, entries⟩])
    (hedited : Edited call s.snapshot.entries entries)
    {r : Record ProofCatalog CatalogCall CatalogOutput} (hbefore : r.before = s)
    (hcall : r.call = call) (houtput : r.output = .mutation .accepted) :
    Published t (past ++ [r]) where
  sorted snapshot hsnapshot := by
    rw [ht] at hsnapshot
    rcases List.mem_append.mp hsnapshot with hsnapshot | hsnapshot
    · exact h.sorted snapshot hsnapshot
    · rw [List.mem_singleton.mp hsnapshot]
      exact hedited.sorted (h.sorted s.snapshot (mem_published.mpr (Or.inr rfl)))
  later := by
    rw [ht, List.pairwise_append]
    refine ⟨h.later, List.pairwise_singleton _ _, fun snapshot hsnapshot new hnew => ?_⟩
    rw [List.mem_singleton.mp hnew]
    have hnext := revision_lt hrevision
    rcases mem_published.mp hsnapshot with hearlier | rfl
    · -- An earlier snapshot comes before the current one, and that before the new one.
      have hlater := h.later
      rw [published, List.pairwise_append] at hlater
      obtain ⟨hlt, hfollows⟩ := hlater.2.2 snapshot hearlier s.snapshot (List.mem_singleton_self _)
      exact ⟨UInt64.lt_trans hlt hnext, hfollows.trans hedited.follows⟩
    · exact ⟨hnext, hedited.follows⟩
  kept := by
    rw [List.forall_mem_append, ht]
    refine ⟨fun r' hr' => (h.kept r' hr').trans (List.prefix_append _ _), fun r' hr' => ?_⟩
    rw [List.mem_singleton.mp hr', hbefore]
    exact List.prefix_append _ _
  handed := by
    rw [List.forall_mem_append, ht]
    refine ⟨fun r' hr' snapshot hout => List.mem_append_left _ (h.handed r' hr' snapshot hout),
      fun r' hr' snapshot hout => ?_⟩
    rw [List.mem_singleton.mp hr', houtput] at hout
    cases hout
  completed snapshot hsnapshot entry hentry hstate := by
    have hpast : ∀ old ∈ s.published, entry ∈ old.entries → ∃ r' ∈ past ++ [r],
        r'.output = .mutation .accepted ∧ Observes r'.call entry := by
      intro old hold hmem
      obtain ⟨r', hr', hseen⟩ := h.completed old hold entry hmem hstate
      exact ⟨r', List.mem_append_left _ hr', hseen⟩
    rw [ht] at hsnapshot
    rcases List.mem_append.mp hsnapshot with hsnapshot | hsnapshot
    · exact hpast snapshot hsnapshot hentry
    · rw [List.mem_singleton.mp hsnapshot] at hentry
      rcases hedited.completed entry hentry hstate with hold | hseen
      · exact hpast s.snapshot (mem_published.mpr (Or.inr rfl)) hold
      · exact ⟨r, List.mem_append_right _ List.mem_cons_self, houtput, hcall ▸ hseen⟩

theorem Published.step (h : Published s past) (call : CatalogCall) :
    Published (catalogStep call s).2 (past ++ [record catalogStep s call]) := by
  rcases catalogStep_change call s with ⟨hstate, houtput⟩ | ⟨result, hchange, houtput⟩
  · rw [hstate]
    refine h.keep rfl rfl fun snapshot hout => ?_
    rw [show (record catalogStep s call).output = .snapshot s.snapshot from houtput] at hout
    cases hout
    exact mem_published.mpr (Or.inr rfl)
  · have hbefore : (record catalogStep s call).before = s := rfl
    have hcall : (record catalogStep s call).call = call := rfl
    have hrecord : (record catalogStep s call).output = mutationOr result := houtput
    generalize (catalogStep call s).2 = t at hchange ⊢
    cases hchange with
    | kept _ writer hresult =>
      have houtputs : ∀ snapshot, (record catalogStep s call).output = .snapshot snapshot →
          snapshot ∈ s.published := by
        intro snapshot hout
        rw [hrecord] at hout
        cases result <;> cases hout
      have hsame : { s with writerThread := writer }.published = s.published := rfl
      exact h.keep hsame hbefore houtputs
    | stored entries writer hrevision hedited =>
      exact h.store hrevision rfl hedited hbefore hcall hrecord

theorem validateDrawEvidence_ready {context : ValidationContext} {evidence : DrawEvidence}
    (h : (validateDrawEvidence (some snapshot) context evidence).ready = true) :
    ∃ entry, snapshot.find evidence.key = some entry ∧ judgeEntry evidence entry.value = .ready ∧
      evidence.catalogSnapshotRevision = snapshot.revision ∧
      validateDrawEvidence (some snapshot) context evidence = accept snapshot evidence entry := by
  unfold validateDrawEvidence at h ⊢
  split at h
  · cases h
  · rename_i current heq
    cases heq
    split_ifs at h ⊢ with hinstance hcontext hkey hrevision
    · exact absurd h Bool.false_ne_true
    · exact absurd h Bool.false_ne_true
    · exact absurd h Bool.false_ne_true
    · exact absurd h Bool.false_ne_true
    · simp only [Bool.or_eq_true, decide_eq_true_eq, not_or, not_not] at hrevision
      split at h
      · exact absurd h Bool.false_ne_true
      · rename_i entry hentry
        split at h
        · rename_i hready
          exact ⟨entry, by assumption, hready, hrevision.2, rfl⟩
        · exact absurd h Bool.false_ne_true

theorem judgeEntry_ready {evidence : DrawEvidence} (h : judgeEntry evidence value = .ready) :
    value.state = .uploadCompleted := by
  rw [judgeEntry, firstError_eq_ok_iff (by simp)] at h
  have hstate := h (_, .uploadNotCompleted) (List.mem_cons_of_mem _ List.mem_cons_self)
  simpa using hstate

theorem published_init (instanceGeneration : UInt64) : Published (init instanceGeneration) [] where
  sorted snapshot hsnapshot := by
    rw [List.mem_singleton.mp hsnapshot]
    exact List.Pairwise.nil
  later := List.pairwise_singleton _ _
  kept _ h := (nomatch h)
  handed _ h := (nomatch h)
  completed snapshot hsnapshot entry hentry := by
    rw [List.mem_singleton.mp hsnapshot] at hentry
    exact (nomatch hentry)

/-- Along every run of a catalog: keys are totally ordered and the snapshots sorted by them without a
key twice, so that `find` finds what is there; revisions grow and entries only move on; snapshots that
were handed out stay as they are; an upload is complete only where its fence was seen to have passed;
and a decision is ready only for an entry of its snapshot whose upload is complete. -/
theorem catalog_publishes (instanceGeneration : UInt64) (calls : List CatalogCall) :
    let s := run catalogStep calls (init instanceGeneration)
    let past := history catalogStep calls (init instanceGeneration)
    IsStrictTotalOrder Key (keyLess · · = true) ∧
      (∀ snapshot ∈ s.published, SortedTable keyLess Entry.key snapshot.entries ∧
        (snapshot.entries.map Entry.key).Nodup ∧ ∀ key entry,
          snapshot.find key = some entry ↔ entry ∈ snapshot.entries ∧ entry.key = key) ∧
      s.published.Pairwise (fun a b => a.revision < b.revision ∧ Follows a.entries b.entries) ∧
      (∀ r ∈ past, r.before.published <+: s.published ∧
        ∀ snapshot, r.output = .snapshot snapshot → snapshot ∈ s.published) ∧
      (∀ snapshot ∈ s.published, ∀ entry ∈ snapshot.entries,
        entry.value.state = .uploadCompleted →
          ∃ r ∈ past, r.output = .mutation .accepted ∧ Observes r.call entry) ∧
      ∀ catalog context evidence, (validateDrawEvidence catalog context evidence).ready = true →
        ∃ snapshot, catalog = some snapshot ∧ (snapshot ∈ s.published →
          ∃ entry ∈ snapshot.entries, entry.key = evidence.key ∧
            entry.value.state = .uploadCompleted ∧
            evidence.catalogSnapshotRevision = snapshot.revision ∧
            validateDrawEvidence catalog context evidence = accept snapshot evidence entry) := by
  intro s past
  have h : Published s past := @history_induction _ _ _ catalogStep Published
    (init instanceGeneration) (published_init instanceGeneration)
    (fun _ _ call h => h.step call) calls
  refine ⟨inferInstance, fun snapshot hsnapshot => ⟨h.sorted snapshot hsnapshot, ?_, fun key entry =>
    Snapshot.find_iff (h.sorted snapshot hsnapshot)⟩, h.later, fun r hr => ⟨h.kept r hr, h.handed r hr⟩,
    h.completed, fun catalog context evidence hready => ?_⟩
  · rw [List.Nodup, List.pairwise_map]
    refine (h.sorted snapshot hsnapshot).imp fun {a b} hless heq => ?_
    rw [heq] at hless
    exact irrefl_of (keyLess · · = true) _ hless
  · cases catalog with
    | none => cases hready
    | some snapshot =>
      refine ⟨snapshot, rfl, fun hsnapshot => ?_⟩
      obtain ⟨entry, hfind, hjudge, hrevision, heq⟩ := validateDrawEvidence_ready hready
      obtain ⟨hmem, hkey⟩ := (Snapshot.find_iff (h.sorted snapshot hsnapshot)).mp hfind
      exact ⟨entry, hmem, hkey, judgeEntry_ready hjudge, hrevision, heq⟩

end ProofCatalog

end War3VK.GpuSkin
