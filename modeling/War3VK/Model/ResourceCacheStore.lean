import War3VK.Model.ResourceCache

/-!
# What the cache stores

A record is either stored as the unresolved alias of a geoset that moved, or it is merged with what is known
and published under its data pointer. Then its payload is that of a complete record, or one that the cache
had. Its generation is that of the snapshot with the same payload, or a fresh one.
-/

namespace War3VK.Model

namespace Cache

/-! ## The merged record -/

def stamped (incoming : GeosetRecord) (s : Cache) : GeosetRecord :=
  { incoming with mapEpoch := s.mapEpoch }

variable {s : Cache} {byGeoset byData : Option GeosetRecord} {record : GeosetRecord}

theorem geosetPtr_mergedMetadata (h : record.geosetPtr ≠ 0) :
    (mergedMetadata byGeoset byData record).geosetPtr = record.geosetPtr := if_pos h

theorem geosetDataPtr_mergedMetadata (h : record.geosetDataPtr ≠ 0) :
    (mergedMetadata byGeoset byData record).geosetDataPtr = record.geosetDataPtr := if_pos h

theorem payload_mergedMetadata : (mergedMetadata byGeoset byData record).payload = {} := by
  cases byGeoset <;> cases byData <;> rfl

theorem status_mergedMetadata :
    (mergedMetadata byGeoset byData record).immutableCaptureStatus = .notAttempted := by
  cases byGeoset <;> cases byData <;> rfl

theorem mergedRecord_content :
    (mergedRecord byGeoset byData record).payload =
        (mergedContent byGeoset byData record (mergedMetadata byGeoset byData record)).payload ∧
      (mergedRecord byGeoset byData record).immutableCaptureStatus = (mergedContent byGeoset byData record
          (mergedMetadata byGeoset byData record)).immutableCaptureStatus := by
  unfold mergedRecord
  dsimp only
  split <;> exact ⟨rfl, rfl⟩

theorem metadata_mergedContent (merged : GeosetRecord) :
    (mergedContent byGeoset byData record merged).geosetPtr = merged.geosetPtr ∧
      (mergedContent byGeoset byData record merged).geosetDataPtr = merged.geosetDataPtr ∧
        (mergedContent byGeoset byData record merged).mapEpoch = merged.mapEpoch := by
  unfold mergedContent
  split
  · exact ⟨rfl, rfl, rfl⟩
  · exact ⟨rfl, rfl, rfl⟩
  · split
    · exact ⟨rfl, rfl, rfl⟩
    · split <;> exact ⟨rfl, rfl, rfl⟩
    · exact ⟨rfl, rfl, rfl⟩

theorem metadata_mergedRecord :
    (mergedRecord byGeoset byData record).geosetPtr = (mergedMetadata byGeoset byData record).geosetPtr ∧
      (mergedRecord byGeoset byData record).geosetDataPtr =
          (mergedMetadata byGeoset byData record).geosetDataPtr ∧
        (mergedRecord byGeoset byData record).mapEpoch =
          (mergedMetadata byGeoset byData record).mapEpoch := by
  have hcontent := @metadata_mergedContent byGeoset byData record
    (mergedMetadata byGeoset byData record)
  unfold mergedRecord
  dsimp only
  split <;> exact hcontent

inductive Content (byGeoset byData : Option GeosetRecord) (record merged : GeosetRecord) : Prop
  | complete (status : record.immutableCaptureStatus = .complete)
    (same : merged.payload = record.payload ∧ merged.immutableCaptureStatus = .complete)
  | failed (status : record.immutableCaptureStatus = .attemptedFailed)
    (same : merged.payload = {} ∧ merged.immutableCaptureStatus = .attemptedFailed)
  | snapshot (d : GeosetRecord) (status : record.immutableCaptureStatus = .notAttempted)
    (known : byData = some d)
    (same : merged.payload = d.payload ∧
      merged.immutableCaptureStatus = d.immutableCaptureStatus)
  | alias_ (g : GeosetRecord) (status : record.immutableCaptureStatus = .notAttempted)
    (unknown : byData = none) (known : byGeoset = some g)
    (unmoved : sourceIdentityTransition byGeoset record = false)
    (same : merged.payload = g.payload ∧
      merged.immutableCaptureStatus = g.immutableCaptureStatus)
  | header (status : record.immutableCaptureStatus = .notAttempted) (unknown : byData = none)
    (same : merged.payload = {} ∧ merged.immutableCaptureStatus = .notAttempted)

theorem content_mergedRecord :
    Content byGeoset byData record (mergedRecord byGeoset byData record) := by
  have hpayload := @payload_mergedMetadata byGeoset byData record
  have hstatus := @status_mergedMetadata byGeoset byData record
  obtain ⟨hp, hs⟩ := @mergedRecord_content byGeoset byData record
  unfold mergedContent at hp hs
  cases hr : record.immutableCaptureStatus with
  | complete =>
    rw [hr] at hp hs
    exact .complete hr ⟨hp, hs.trans hr⟩
  | attemptedFailed =>
    rw [hr] at hp hs
    exact .failed hr ⟨hp.trans hpayload, hs⟩
  | notAttempted =>
    rw [hr] at hp hs
    cases hd : byData with
    | some d =>
      subst hd
      exact .snapshot d hr rfl ⟨hp, hs⟩
    | none =>
      subst hd
      cases hg : byGeoset with
      | none =>
        subst hg
        exact .header hr rfl ⟨hp.trans hpayload, hs.trans hstatus⟩
      | some g =>
        subst hg
        dsimp only at hp hs
        by_cases hmoved : sourceIdentityTransition (some g) record = true
        · rw [if_pos hmoved] at hp hs
          exact .header hr rfl ⟨hp.trans hpayload, hs.trans hstatus⟩
        · rw [if_neg hmoved] at hp hs
          exact .alias_ g hr rfl rfl (Bool.not_eq_true _ ▸ hmoved) ⟨hp, hs⟩

variable {merged : GeosetRecord}

theorem Content.congr {merged' : GeosetRecord} (h : Content byGeoset byData record merged)
    (hpayload : merged'.payload = merged.payload)
    (hstatus : merged'.immutableCaptureStatus = merged.immutableCaptureStatus) :
    Content byGeoset byData record merged' := by
  cases h with
  | complete status same =>
    exact .complete status ⟨hpayload.trans same.1, hstatus.trans same.2⟩
  | failed status same => exact .failed status ⟨hpayload.trans same.1, hstatus.trans same.2⟩
  | snapshot d status known same =>
    exact .snapshot d status known ⟨hpayload.trans same.1, hstatus.trans same.2⟩
  | alias_ g status unknown known unmoved same =>
    exact .alias_ g status unknown known unmoved ⟨hpayload.trans same.1, hstatus.trans same.2⟩
  | header status unknown same =>
    exact .header status unknown ⟨hpayload.trans same.1, hstatus.trans same.2⟩

/-! ## The generation -/

/-- Where the generation of a merged record comes from, and what is left of the issuer. -/
inductive Generation (byGeoset byData : Option GeosetRecord) (record merged : GeosetRecord)
    (issuer : GenerationIssuer) : UInt64 → GenerationIssuer → Prop
  /-- There is none, the payload cannot be consumed. -/
  | none (incomplete : merged.hasCompleteImmutableConsumerPayload = false) :
    Generation byGeoset byData record merged issuer 0 issuer
  | snapshot (d : GeosetRecord) (complete : merged.hasCompleteImmutableConsumerPayload)
    (known : byData = some d) (fresh : forceFreshGeneration byGeoset byData record = false)
    (nonzero : d.immutableModelGeneration ≠ 0) (same : d.payload = merged.payload) :
    Generation byGeoset byData record merged issuer d.immutableModelGeneration issuer
  | alias_ (g : GeosetRecord) (complete : merged.hasCompleteImmutableConsumerPayload)
    (unknown : byData = none) (known : byGeoset = some g)
    (data : g.geosetDataPtr = merged.geosetDataPtr) (nonzero : g.immutableModelGeneration ≠ 0) :
    Generation byGeoset byData record merged issuer g.immutableModelGeneration issuer
  | issued (complete : merged.hasCompleteImmutableConsumerPayload) :
    Generation byGeoset byData record merged issuer issuer.issue.1 issuer.issue.2

theorem reusableGeneration_spec {e : GeosetRecord} {generation : UInt64}
    (h : reusableGeneration e merged = some generation) :
    generation = e.immutableModelGeneration ∧ e.immutableModelGeneration ≠ 0 ∧
      e.payload = merged.payload := by
  unfold reusableGeneration at h
  split_ifs at h with hsame
  simp only [Bool.and_eq_true, decide_eq_true_eq] at hsame
  exact ⟨(Option.some.inj h).symm, hsame.1.1, hsame.2⟩

theorem generation_generationOf (merged : GeosetRecord) (issuer : GenerationIssuer) :
    Generation byGeoset byData record merged issuer
      (generationOf byGeoset byData record merged issuer).1
      (generationOf byGeoset byData record merged issuer).2 := by
  unfold generationOf
  by_cases hcomplete : merged.hasCompleteImmutableConsumerPayload = true
  · rw [hcomplete]
    simp only [Bool.not_true, Bool.false_eq_true, if_false]
    split
    · rename_i generation hreused
      unfold reusedGeneration at hreused
      split_ifs at hreused with hfresh
      rw [Bool.not_eq_true] at hfresh
      split at hreused
      · rename_i d
        obtain ⟨rfl, hnonzero, hsame⟩ := reusableGeneration_spec hreused
        exact .snapshot d hcomplete rfl hfresh hnonzero hsame
      · rename_i g
        split_ifs at hreused with hdata
        obtain ⟨rfl, hnonzero, -⟩ := reusableGeneration_spec hreused
        exact .alias_ g hcomplete rfl rfl hdata hnonzero
      · cases hreused
    · exact .issued hcomplete
  · rw [Bool.not_eq_true] at hcomplete
    rw [hcomplete]
    exact .none hcomplete

theorem Generation.congr {merged' : GeosetRecord} {issuer issuer' : GenerationIssuer}
    {generation : UInt64} (h : Generation byGeoset byData record merged issuer generation issuer')
    (hpayload : merged'.payload = merged.payload)
    (hstatus : merged'.immutableCaptureStatus = merged.immutableCaptureStatus)
    (hdata : merged'.geosetDataPtr = merged.geosetDataPtr) :
    Generation byGeoset byData record merged' issuer generation issuer' := by
  have hcomplete := hasComplete_congr hpayload hstatus
  cases h with
  | none incomplete => exact .none (hcomplete.trans incomplete)
  | snapshot d complete known fresh nonzero same =>
    exact .snapshot d (hcomplete.trans complete) known fresh nonzero (same.trans hpayload.symm)
  | alias_ g complete unknown known data nonzero =>
    exact .alias_ g (hcomplete.trans complete) unknown known (data.trans hdata.symm) nonzero
  | issued complete => exact .issued (hcomplete.trans complete)

theorem issue_spec (g : GenerationIssuer) :
    g.issue.1 = 0 ∧ g.issue.2.next = g.next ∨
      g.issue.1 = g.next ∧ g.next ≠ 0 ∧ g.issue.2.next.toNat = g.next.toNat + 1 := by
  unfold GenerationIssuer.issue
  split
  · exact .inl ⟨rfl, rfl⟩
  · rename_i h
    simp only [Bool.or_eq_true, decide_eq_true_eq, not_or] at h
    refine .inr ⟨rfl, h.1, ?_⟩
    have hlt := g.next.toNat_lt
    have hmax : g.next.toNat ≠ 18446744073709551615 := fun hmax =>
      h.2 (UInt64.toNat_inj.mp (hmax.trans rfl))
    rw [UInt64.toNat_add]
    have hone : (1 : UInt64).toNat = 1 := rfl
    omega

/-! ## What a store leaves -/

/-- Two records agree on their pointers, their payload and its status. -/
structure Alike (a b : GeosetRecord) : Prop where
  geosetPtr : a.geosetPtr = b.geosetPtr
  geosetDataPtr : a.geosetDataPtr = b.geosetDataPtr
  payload : a.payload = b.payload
  status : a.immutableCaptureStatus = b.immutableCaptureStatus

def moves (incoming : GeosetRecord) (s : Cache) : Bool :=
  sourceIdentityTransition (s.aliasOf incoming) incoming

/-- A record is of an alias that waits for its own capture while the snapshot is ready. -/
def pends (incoming : GeosetRecord) (s : Cache) : Bool :=
  pendingAliasResolution (s.aliasOf incoming) (s.canonicalOf incoming) incoming

structure Unresolved (source : Source) (incoming : GeosetRecord) (s : Cache)
    (unresolved : GeosetRecord) (s' : Cache) : Prop where
  known : (s.aliasOf incoming).isSome
  /-- It has another data pointer, or it waits for a capture. -/
  waits : s.moves incoming = true ∨ s.pends incoming = true
  incomplete : incoming.immutableCaptureStatus ≠ .complete
  data : incoming.geosetDataPtr ≠ 0
  /-- The alias has the pointers and the status of the record. -/
  same : unresolved.geosetPtr = incoming.geosetPtr ∧
    unresolved.geosetDataPtr = incoming.geosetDataPtr ∧
      unresolved.immutableCaptureStatus = incoming.immutableCaptureStatus
  empty : unresolved.payload = {} ∧ unresolved.immutableModelGeneration = 0
  byGeoset : s'.byGeoset = Function.update s.byGeoset incoming.geosetPtr (some unresolved)
  byGeosetData : s'.byGeosetData = s.byGeosetData
  issuer : s'.issuer = s.issuer
  mapEpoch : s'.mapEpoch = s.mapEpoch
  trace : s'.trace = s.trace ++ [.stored source (s.moves incoming) incoming unresolved]

structure Published (source : Source) (incoming : GeosetRecord) (s : Cache)
    (merged published : GeosetRecord) (s' : Cache) : Prop where
  /-- The record is complete, or its geoset did not move and does not wait. -/
  settled : incoming.immutableCaptureStatus = .complete ∨
    s.moves incoming = false ∧ s.pends incoming = false
  content : Content (s.aliasOf incoming) (s.canonicalOf incoming) (s.stamped incoming) merged
  generation : Generation (s.aliasOf incoming) (s.canonicalOf incoming) (s.stamped incoming) merged
    s.issuer merged.immutableModelGeneration s'.issuer
  geosetPtr : merged.geosetPtr = if incoming.geosetPtr ≠ 0 then incoming.geosetPtr else
    (s.canonicalOf incoming).elim 0 GeosetRecord.geosetPtr
  geosetDataPtr : merged.geosetDataPtr = if incoming.geosetDataPtr ≠ 0 then incoming.geosetDataPtr else
    (s.aliasOf incoming).elim 0 GeosetRecord.geosetDataPtr
  alike : Alike published merged
  stamp : published.immutableModelGeneration = merged.immutableModelGeneration
  byGeoset : s'.byGeoset = if merged.geosetPtr = 0 then s.byGeoset else
    Function.update s.byGeoset merged.geosetPtr (some merged)
  byGeosetData : s'.byGeosetData = if merged.geosetDataPtr = 0 then s.byGeosetData else
    Function.update s.byGeosetData merged.geosetDataPtr (some published)
  mapEpoch : s'.mapEpoch = s.mapEpoch
  trace : s'.trace = s.trace ++ [.stored source (s.moves incoming) incoming published]

theorem alike_of_sameSnapshot {current : GeosetRecord} (h : sameSnapshot current merged) :
    Alike current merged ∧ current.immutableModelGeneration = merged.immutableModelGeneration := by
  simp only [sameSnapshot, hasSameGeosetConsumerContent, Bool.and_eq_true, decide_eq_true_eq] at h
  obtain ⟨⟨hgeneration, hstatus⟩, hcontent, -⟩ := h
  obtain ⟨hcontent, hpayload⟩ := hcontent
  obtain ⟨⟨⟨⟨⟨⟨⟨⟨hptr, hdata⟩, -⟩, -⟩, -⟩, -⟩, -⟩, -⟩, -⟩ := hcontent
  exact ⟨⟨hptr, hdata, hpayload, hstatus⟩, hgeneration⟩

theorem noteGeosetDataMetadata_spec (geosetDataPtr : Ptr) (record : GeosetRecord) (s : Cache) :
    ∃ observation, s.noteGeosetDataMetadata geosetDataPtr record = { s with observation } := by
  unfold noteGeosetDataMetadata
  split
  · exact ⟨s.observation, rfl⟩
  · exact ⟨_, rfl⟩

theorem setCanonical_spec (record : GeosetRecord) (s : Cache) :
    ∃ observation published, Alike published record ∧
      published.immutableModelGeneration = record.immutableModelGeneration ∧
        ((s.setCanonical record).canonicalOf record).getD record = published ∧
          s.setCanonical record = { s with
            observation
            byGeosetData := if record.geosetDataPtr = 0 then s.byGeosetData else
              Function.update s.byGeosetData record.geosetDataPtr (some published) } := by
  unfold setCanonical canonicalOf
  by_cases hzero : record.geosetDataPtr = 0
  · simp only [if_pos hzero]
    exact ⟨s.observation, record, ⟨rfl, rfl, rfl, rfl⟩, rfl, rfl, rfl⟩
  · simp only [if_neg hzero]
    by_cases hsame : (s.byGeosetData record.geosetDataPtr).any (sameSnapshot · record) = true
    · rw [if_pos hsame]
      obtain ⟨observation, hnoted⟩ := noteGeosetDataMetadata_spec record.geosetDataPtr record s
      obtain ⟨current, hcurrent, hsame⟩ := (Option.any_eq_true _ _).mp hsame
      obtain ⟨halike, hgeneration⟩ := alike_of_sameSnapshot hsame
      refine ⟨observation, current, halike, hgeneration, ?_, ?_⟩
      · rw [hnoted]
        show (s.byGeosetData record.geosetDataPtr).getD record = current
        rw [hcurrent]
        rfl
      · rw [hnoted, ← hcurrent, Function.update_eq_self]
    · rw [if_neg hsame]
      obtain ⟨observation, hnoted⟩ := noteGeosetDataMetadata_spec record.geosetDataPtr record
        { s with byGeosetData := Function.update s.byGeosetData record.geosetDataPtr (some record) }
      refine ⟨observation, record, ⟨rfl, rfl, rfl, rfl⟩, rfl, ?_, hnoted⟩
      rw [hnoted]
      show (Function.update s.byGeosetData record.geosetDataPtr (some record)
        record.geosetDataPtr).getD record = record
      rw [Function.update_self]
      rfl

theorem geosetPtr_mergedMetadata_of (incoming : GeosetRecord) (s : Cache) :
    (mergedMetadata (s.aliasOf incoming) (s.canonicalOf incoming) (s.stamped incoming)).geosetPtr =
      if incoming.geosetPtr ≠ 0 then incoming.geosetPtr else
        (s.canonicalOf incoming).elim 0 GeosetRecord.geosetPtr := by
  by_cases h : incoming.geosetPtr ≠ 0
  · rw [if_pos h]
    exact geosetPtr_mergedMetadata h
  · have hnone : s.aliasOf incoming = none := if_pos (not_not.mp h)
    rw [if_neg h, hnone]
    refine (if_neg h).trans ?_
    cases s.canonicalOf incoming with
    | none => rfl
    | some d => exact ite_eq_left_iff.mpr fun hd => (not_not.mp hd).symm

theorem geosetDataPtr_mergedMetadata_of (incoming : GeosetRecord) (s : Cache) :
    (mergedMetadata (s.aliasOf incoming) (s.canonicalOf incoming)
        (s.stamped incoming)).geosetDataPtr =
      if incoming.geosetDataPtr ≠ 0 then incoming.geosetDataPtr else
        (s.aliasOf incoming).elim 0 GeosetRecord.geosetDataPtr := by
  by_cases h : incoming.geosetDataPtr ≠ 0
  · rw [if_pos h]
    exact geosetDataPtr_mergedMetadata h
  · have hnone : s.canonicalOf incoming = none := if_pos (not_not.mp h)
    rw [if_neg h, hnone]
    refine (if_neg h).trans ?_
    cases s.aliasOf incoming with
    | none => rfl
    | some g => exact ite_eq_left_iff.mpr fun hg => (not_not.mp hg).symm

variable {incoming : GeosetRecord}

theorem aliasOf_eq_some {g : GeosetRecord} (h : s.aliasOf incoming = some g) :
    incoming.geosetPtr ≠ 0 ∧ s.byGeoset incoming.geosetPtr = some g := by
  unfold aliasOf at h
  split_ifs at h with hzero
  exact ⟨hzero, h⟩

theorem canonicalOf_eq_some {d : GeosetRecord} (h : s.canonicalOf incoming = some d) :
    incoming.geosetDataPtr ≠ 0 ∧ s.byGeosetData incoming.geosetDataPtr = some d := by
  unfold canonicalOf at h
  split_ifs at h with hzero
  exact ⟨hzero, h⟩

theorem moves_spec (h : s.moves incoming = true) :
    ∃ g, s.aliasOf incoming = some g ∧ g.geosetDataPtr ≠ 0 ∧ incoming.geosetDataPtr ≠ 0 ∧
      g.geosetDataPtr ≠ incoming.geosetDataPtr := by
  obtain ⟨g, hg, hmoves⟩ := (Option.any_eq_true _ _).mp h
  simp only [Bool.and_eq_true, decide_eq_true_eq] at hmoves
  exact ⟨g, hg, hmoves.1.1, hmoves.1.2, hmoves.2⟩

theorem moves_eq_false {g : GeosetRecord} (h : s.moves incoming = false)
    (hg : s.aliasOf incoming = some g) (hold : g.geosetDataPtr ≠ 0)
    (hnew : incoming.geosetDataPtr ≠ 0) : g.geosetDataPtr = incoming.geosetDataPtr := by
  unfold moves sourceIdentityTransition at h
  rw [hg] at h
  by_contra hne
  simp [hold, hnew, hne] at h

theorem pends_spec (h : s.pends incoming = true) :
    ∃ g d, s.aliasOf incoming = some g ∧ s.canonicalOf incoming = some d := by
  unfold pends pendingAliasResolution at h
  simp only [Bool.and_eq_true] at h
  obtain ⟨⟨-, hg⟩, hd⟩ := h
  obtain ⟨g, hg, -⟩ := (Option.any_eq_true _ _).mp hg
  obtain ⟨d, hd, -⟩ := (Option.any_eq_true _ _).mp hd
  exact ⟨g, d, hg, hd⟩

theorem waits_spec (h : s.moves incoming = true ∨ s.pends incoming = true) :
    ∃ g, s.aliasOf incoming = some g ∧ incoming.geosetDataPtr ≠ 0 := by
  cases h with
  | inl hmoves =>
    obtain ⟨g, hg, -, hdata, -⟩ := moves_spec hmoves
    exact ⟨g, hg, hdata⟩
  | inr hpends =>
    obtain ⟨g, d, hg, hd⟩ := pends_spec hpends
    exact ⟨g, hg, (canonicalOf_eq_some hd).1⟩

theorem unresolvedRecord_spec {known : GeosetRecord} (hptr : incoming.geosetPtr ≠ 0)
    (hdata : incoming.geosetDataPtr ≠ 0) :
    (unresolvedRecord known incoming).geosetPtr = incoming.geosetPtr ∧
      (unresolvedRecord known incoming).geosetDataPtr = incoming.geosetDataPtr :=
  ⟨if_pos hptr, if_pos hdata⟩

theorem setAlias_spec (record : GeosetRecord) (s : Cache) :
    s.setAlias record = { s with
      byGeoset := if record.geosetPtr = 0 then s.byGeoset else
        Function.update s.byGeoset record.geosetPtr (some record) } := by
  unfold setAlias
  split <;> rfl

theorem storeGeosetRecord_cases (source : Source) (incoming : GeosetRecord) (s : Cache) :
    Unresolved source incoming s (s.storeGeosetRecord source incoming).1
        (s.storeGeosetRecord source incoming).2 ∨
      ∃ merged, Published source incoming s merged (s.storeGeosetRecord source incoming).1
        (s.storeGeosetRecord source incoming).2 := by
  unfold storeGeosetRecord
  dsimp only
  split_ifs with h
  · left
    simp only [Bool.and_eq_true, Bool.or_eq_true, decide_eq_true_eq] at h
    obtain ⟨hwaits, hincomplete⟩ := h
    change s.moves incoming = true ∨ s.pends incoming = true at hwaits
    obtain ⟨g, hg, hdata⟩ := waits_spec hwaits
    obtain ⟨hptr, -⟩ := aliasOf_eq_some hg
    have hsame := @unresolvedRecord_spec (s.stamped incoming) ((s.aliasOf incoming).getD {}) hptr
      hdata
    have hset : s.setAlias (unresolvedRecord ((s.aliasOf incoming).getD {}) (s.stamped incoming)) =
        { s with byGeoset := Function.update s.byGeoset incoming.geosetPtr (some
          (unresolvedRecord ((s.aliasOf incoming).getD {}) (s.stamped incoming))) } := by
      unfold setAlias
      rw [hsame.1]
      exact if_neg hptr
    change Unresolved source incoming s
      (unresolvedRecord ((s.aliasOf incoming).getD {}) (s.stamped incoming))
      ((s.setAlias (unresolvedRecord ((s.aliasOf incoming).getD {}) (s.stamped incoming))).note
        (.stored source (s.moves incoming) incoming
          (unresolvedRecord ((s.aliasOf incoming).getD {}) (s.stamped incoming))))
    rw [hset]
    exact {
      known := Option.isSome_of_mem hg
      waits := hwaits
      incomplete := hincomplete
      data := hdata
      same := ⟨hsame.1, hsame.2, rfl⟩
      empty := ⟨rfl, rfl⟩
      byGeoset := rfl
      byGeosetData := rfl
      issuer := rfl
      mapEpoch := rfl
      trace := rfl }
  · right
    have hsettled : incoming.immutableCaptureStatus = .complete ∨
        s.moves incoming = false ∧ s.pends incoming = false := by
      by_cases hcomplete : incoming.immutableCaptureStatus = .complete
      · exact .inl hcomplete
      · refine .inr ?_
        simp only [Bool.and_eq_true, Bool.or_eq_true, decide_eq_true_eq, not_and_or, not_or,
          Bool.not_eq_true] at h
        exact h.resolve_right fun hnot => hnot hcomplete
    obtain ⟨hptr, hdata, -⟩ := @metadata_mergedRecord (s.aliasOf incoming) (s.canonicalOf incoming)
      (s.stamped incoming)
    have hcontent := @content_mergedRecord (s.aliasOf incoming) (s.canonicalOf incoming)
      (s.stamped incoming)
    have hgeneration := @generation_generationOf (s.aliasOf incoming) (s.canonicalOf incoming)
      (s.stamped incoming) (mergedRecord (s.aliasOf incoming) (s.canonicalOf incoming)
        (s.stamped incoming)) s.issuer
    obtain ⟨observation, published, halike, hstamp, hpublished, hcanonical⟩ :=
      setCanonical_spec (s.publishedRecord (s.stamped incoming)).1
        ({ s with issuer := (s.publishedRecord (s.stamped incoming)).2 }.setAlias
          (s.publishedRecord (s.stamped incoming)).1)
    refine ⟨(s.publishedRecord (s.stamped incoming)).1, ?_⟩
    change Published source incoming s (s.publishedRecord (s.stamped incoming)).1
      (((({ s with issuer := (s.publishedRecord (s.stamped incoming)).2 }.setAlias
        (s.publishedRecord (s.stamped incoming)).1).setCanonical
          (s.publishedRecord (s.stamped incoming)).1).canonicalOf
            (s.publishedRecord (s.stamped incoming)).1).getD
              (s.publishedRecord (s.stamped incoming)).1)
      ((({ s with issuer := (s.publishedRecord (s.stamped incoming)).2 }.setAlias
        (s.publishedRecord (s.stamped incoming)).1).setCanonical
          (s.publishedRecord (s.stamped incoming)).1).note
            (.stored source (s.moves incoming) incoming
              (((({ s with issuer := (s.publishedRecord (s.stamped incoming)).2 }.setAlias
                (s.publishedRecord (s.stamped incoming)).1).setCanonical
                  (s.publishedRecord (s.stamped incoming)).1).canonicalOf
                    (s.publishedRecord (s.stamped incoming)).1).getD
                      (s.publishedRecord (s.stamped incoming)).1)))
    rw [hpublished, hcanonical, setAlias_spec]
    exact {
      settled := hsettled
      content := hcontent.congr rfl rfl
      generation := hgeneration.congr rfl rfl rfl
      geosetPtr := hptr.trans (geosetPtr_mergedMetadata_of incoming s)
      geosetDataPtr := hdata.trans (geosetDataPtr_mergedMetadata_of incoming s)
      alike := halike
      stamp := hstamp
      byGeoset := rfl
      byGeosetData := rfl
      mapEpoch := rfl
      trace := rfl }

end Cache

end War3VK.Model
