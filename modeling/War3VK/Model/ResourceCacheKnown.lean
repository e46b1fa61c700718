import War3VK.Model.ResourceCacheMoves

/-!
# What the cache knows

The aliases and the snapshots are kept under their own pointers, a complete alias has data, and what has a
generation can be consumed. Every move keeps that. From it, the generation that a store publishes is none,
that of the snapshot with the same payload, or the next one.
-/

namespace War3VK.Model

namespace Cache

structure Known (s : Cache) : Prop where
  geoset : ∀ P g, s.byGeoset P = some g → g.geosetPtr = P ∧ P ≠ 0
  complete : ∀ P g, s.byGeoset P = some g → g.immutableCaptureStatus = .complete →
    g.geosetDataPtr ≠ 0
  /-- An alias with a generation can be consumed, and its data has a snapshot. -/
  alias_ : ∀ P g, s.byGeoset P = some g → g.immutableModelGeneration ≠ 0 →
    g.hasCompleteImmutableConsumerPayload ∧ (s.byGeosetData g.geosetDataPtr).isSome
  data : ∀ D d, s.byGeosetData D = some d → d.geosetDataPtr = D ∧ D ≠ 0
  snapshot : ∀ D d, s.byGeosetData D = some d → d.immutableModelGeneration ≠ 0 →
    d.hasCompleteImmutableConsumerPayload

structure Sane (s : Cache) (record : GeosetRecord) : Prop where
  complete : record.immutableCaptureStatus = .complete → record.geosetDataPtr ≠ 0
  /-- A record without data is of a geoset without it. -/
  nowhere : record.geosetDataPtr = 0 → ∀ g, s.aliasOf record = some g → g.geosetDataPtr = 0

variable {p : Heed} {s s' : Cache} {source : Source} {incoming merged published : GeosetRecord}

/-! ## What is materialized -/

theorem geosetDataPtr_materialize (alias_ : GeosetRecord) (s : Cache) :
    (s.materializeGeosetAliasRecord alias_).geosetDataPtr = alias_.geosetDataPtr := by
  unfold materializeGeosetAliasRecord
  split
  · rfl
  · rename_i h
    simp only [Bool.or_eq_true, Bool.not_eq_eq_eq_not, Bool.not_true, decide_eq_true_eq, not_or,
      Bool.not_eq_false] at h
    split
    · exact if_pos h.2
    · exact if_pos h.2

variable {P : Ptr} {g : GeosetRecord}

theorem materialize_cases (hs : Known s) (hg : s.byGeoset P = some g) :
    s.materializeGeosetAliasRecord g = g ∧ g.readyForShadowConsumer = false ∨
      g.readyForShadowConsumer = true ∧ ∃ d, s.byGeosetData g.geosetDataPtr = some d ∧
        (s.materializeGeosetAliasRecord g).payload = d.payload ∧
          (s.materializeGeosetAliasRecord g).immutableCaptureStatus = d.immutableCaptureStatus ∧
            (s.materializeGeosetAliasRecord g).immutableModelGeneration = d.immutableModelGeneration := by
  cases hready : g.readyForShadowConsumer with
  | false =>
    refine .inl ⟨?_, rfl⟩
    unfold materializeGeosetAliasRecord
    rw [hready]
    rfl
  | true =>
    obtain ⟨hgeneration, hcomplete⟩ := GeosetRecord.ready_iff.mp hready
    have hdata := hs.complete P g hg (GeosetRecord.complete_of_hasComplete hcomplete)
    obtain ⟨d, hd⟩ := Option.isSome_iff_exists.mp (hs.alias_ P g hg hgeneration).2
    have heq : s.materializeGeosetAliasRecord g =
        mergeGeosetMetadata (s.materializeGeosetDataRecord g.geosetDataPtr d) g := by
      unfold materializeGeosetAliasRecord
      rw [hready, hd]
      simp [hdata]
    obtain ⟨halike, hstamp⟩ := materializeGeosetDataRecord_spec g.geosetDataPtr d s
    rw [heq]
    exact .inr ⟨rfl, d, hd, halike.payload, halike.status, hstamp⟩

theorem findGeosetByPtr_eq_some {r : GeosetRecord} (h : s.findGeosetByPtr P = some r) :
    ∃ g, s.byGeoset P = some g ∧ s.materializeGeosetAliasRecord g = r := by
  unfold findGeosetByPtr at h
  split_ifs at h
  obtain ⟨g, hg, hr⟩ := Option.map_eq_some_iff.mp h
  exact ⟨g, hg, hr⟩

theorem findGeosetByPtr_canonical (hk : Known s) {r : GeosetRecord}
    (h : s.findGeosetByPtr P = some r) (hready : r.readyForShadowConsumer = true) :
    ∃ d, s.byGeosetData r.geosetDataPtr = some d ∧ r.payload = d.payload ∧
      r.immutableCaptureStatus = d.immutableCaptureStatus ∧
        r.immutableModelGeneration = d.immutableModelGeneration := by
  obtain ⟨g, hg, rfl⟩ := findGeosetByPtr_eq_some h
  rw [geosetDataPtr_materialize]
  obtain ⟨hsame, hunready⟩ | ⟨-, d, hd, hcontent⟩ := materialize_cases hk hg
  · rw [hsame, hunready] at hready
    cases hready
  · exact ⟨d, hd, hcontent⟩

theorem materialize_complete (hs : Known s) (hg : s.byGeoset P = some g)
    (h : (s.materializeGeosetAliasRecord g).immutableCaptureStatus = .complete) :
    g.geosetDataPtr ≠ 0 := by
  obtain ⟨hsame, -⟩ | ⟨hready, -⟩ := materialize_cases hs hg
  · rw [hsame] at h
    exact hs.complete P g hg h
  · exact hs.complete P g hg (GeosetRecord.complete_of_hasComplete
      (GeosetRecord.ready_iff.mp hready).2)

theorem target_cached (hs : Known s) {record : GeosetRecord} (hg : s.byGeoset P = some g)
    (h : record.geosetPtr = P ∨ record.geosetPtr = (s.materializeGeosetAliasRecord g).geosetPtr) :
    record.geosetPtr = P := by
  obtain ⟨hptr, hnull⟩ := hs.geoset P g hg
  exact h.elim id fun h => h.trans ((geosetPtr_materialize (hptr ▸ hnull)).trans hptr)

theorem sane_of_reason (hs : Known s) (reason : Reason p s source incoming) : Sane s incoming := by
  cases reason with
  | header _ status _ data _ => exact ⟨fun _ => data, fun h => absurd h data⟩
  | unknown _ status fresh _ =>
    refine ⟨fun h => (by rw [status] at h; cases h), fun _ g hg => ?_⟩
    rw [(aliasOf_eq_some hg).2] at fresh
    cases fresh
  | cached P g _ known heeded target data payload status =>
    have hdata := data.trans (geosetDataPtr_materialize g s)
    refine ⟨fun h => hdata ▸ materialize_complete hs known (status ▸ h), fun h g' hg' => ?_⟩
    have hg := (aliasOf_eq_some hg').2
    rw [target_cached hs known target, known] at hg
    obtain rfl := Option.some.inj hg
    exact hdata.symm.trans h
  | snapshot snapshot _ nonzero known heeded target payload status =>
    exact ⟨fun _ => nonzero, fun h => absurd h nonzero⟩
  | captured live _ noted attempted payload status nonzero data target =>
    exact ⟨fun _ => nonzero, fun h => absurd h nonzero⟩

/-! ## What is published -/

theorem Published.data_of_snapshot (h : Published source incoming s merged published s')
    {d : GeosetRecord} (hd : s.canonicalOf incoming = some d) :
    merged.geosetDataPtr = incoming.geosetDataPtr :=
  h.geosetDataPtr.trans (if_pos (canonicalOf_eq_some hd).1)

theorem Published.complete_data (h : Published source incoming s merged published s') (hs : Known s)
    (sane : Sane s incoming) (hcomplete : merged.immutableCaptureStatus = .complete) :
    merged.geosetDataPtr ≠ 0 := by
  cases h.content with
  | complete status same =>
    have hdata := sane.complete status
    rw [h.geosetDataPtr, if_pos hdata]
    exact hdata
  | failed status same => rw [same.2] at hcomplete; cases hcomplete
  | snapshot d status known same =>
    rw [h.data_of_snapshot known]
    exact (canonicalOf_eq_some known).1
  | alias_ g status unknown known unmoved same =>
    have hg := hs.complete _ g (aliasOf_eq_some known).2 (same.2.symm.trans hcomplete)
    rw [h.geosetDataPtr]
    split_ifs with hdata
    · exact hdata
    · rw [known]
      exact hg
  | header status unknown same => rw [same.2] at hcomplete; cases hcomplete

/-- The generation that is published: none, that of the snapshot, or the next one. -/
inductive Stamp (s : Cache) (incoming merged : GeosetRecord) (issuer : GenerationIssuer) : Prop
  | none (zero : merged.immutableModelGeneration = 0) (issuer : issuer.next = s.issuer.next)
  /-- It is that of the snapshot, which is ready and has the payload. -/
  | reused (d : GeosetRecord) (known : s.canonicalOf incoming = some d)
    (ready : d.readyForShadowConsumer) (stamp : merged.immutableModelGeneration =
      d.immutableModelGeneration) (payload : d.payload = merged.payload)
    (fresh : forceFreshGeneration (s.aliasOf incoming) (s.canonicalOf incoming) incoming = false)
    (issuer : issuer.next = s.issuer.next)
  | issued (complete : merged.hasCompleteImmutableConsumerPayload)
    (stamp : merged.immutableModelGeneration = s.issuer.next) (nonzero : s.issuer.next ≠ 0)
    (issuer : issuer.next.toNat = s.issuer.next.toNat + 1)

section

variable (h : Published source incoming s merged published s')
include h

theorem Published.stamp_cases (hs : Known s) (sane : Sane s incoming) :
    Stamp s incoming merged s'.issuer := by
  have hgeneration := h.generation
  generalize hstamp : merged.immutableModelGeneration = generation at hgeneration
  generalize hissuer : s'.issuer = issuer at hgeneration
  cases hgeneration with
  | none incomplete => exact .none hstamp rfl
  | snapshot d complete known fresh nonzero same =>
    exact .reused d known (GeosetRecord.ready_iff.mpr ⟨nonzero, hs.snapshot _ d
      (canonicalOf_eq_some known).2 nonzero⟩) hstamp same fresh rfl
  | alias_ g complete unknown known data nonzero =>
    -- An alias with a generation has a snapshot, so it is not what is left.
    exfalso
    have hg := (aliasOf_eq_some known).2
    obtain ⟨hconsumed, hsome⟩ := hs.alias_ _ g hg nonzero
    have hdata := hs.complete _ g hg (GeosetRecord.complete_of_hasComplete hconsumed)
    by_cases hincoming : incoming.geosetDataPtr = 0
    · exact hdata (sane.nowhere hincoming g known)
    · have hsame : g.geosetDataPtr = incoming.geosetDataPtr :=
        data.trans (h.geosetDataPtr.trans (if_pos hincoming))
      rw [hsame] at hsome
      have hnone : s.byGeosetData incoming.geosetDataPtr = none := by
        unfold canonicalOf at unknown
        rw [if_neg hincoming] at unknown
        exact unknown
      rw [hnone] at hsome
      cases hsome
  | issued complete =>
    obtain ⟨hzero, hnext⟩ | ⟨hissued, hnonzero, hnext⟩ := issue_spec s.issuer
    · exact .none (hstamp.trans hzero) hnext
    · exact .issued complete (hstamp.trans hissued) hnonzero hnext

theorem Published.hasComplete (hnonzero : merged.immutableModelGeneration ≠ 0) :
    merged.hasCompleteImmutableConsumerPayload := by
  have hgeneration := h.generation
  generalize hstamp : merged.immutableModelGeneration = generation at hgeneration
  generalize hissuer : s'.issuer = issuer at hgeneration
  cases hgeneration with
  | none incomplete => exact absurd hstamp hnonzero
  | snapshot d complete known fresh nonzero same => exact complete
  | alias_ g complete unknown known data nonzero => exact complete
  | issued complete => exact complete

/-! ## Every move keeps what is known -/

theorem Published.byGeoset_cases (hg : s'.byGeoset P = some g) :
    P = merged.geosetPtr ∧ P ≠ 0 ∧ g = merged ∨
      (merged.geosetPtr = 0 ∨ P ≠ merged.geosetPtr) ∧ s.byGeoset P = some g := by
  rw [h.byGeoset] at hg
  split_ifs at hg with hnull
  · exact .inr ⟨.inl hnull, hg⟩
  · by_cases hsame : P = merged.geosetPtr
    · rw [hsame, Function.update_self] at hg
      exact .inl ⟨hsame, hsame ▸ hnull, (Option.some.inj hg).symm⟩
    · rw [Function.update_of_ne hsame] at hg
      exact .inr ⟨.inr hsame, hg⟩

theorem Published.byGeosetData_cases {D : Ptr} {d : GeosetRecord}
    (hd : s'.byGeosetData D = some d) :
    D = merged.geosetDataPtr ∧ D ≠ 0 ∧ d = published ∨
      (merged.geosetDataPtr = 0 ∨ D ≠ merged.geosetDataPtr) ∧ s.byGeosetData D = some d := by
  rw [h.byGeosetData] at hd
  split_ifs at hd with hnull
  · exact .inr ⟨.inl hnull, hd⟩
  · by_cases hsame : D = merged.geosetDataPtr
    · rw [hsame, Function.update_self] at hd
      exact .inl ⟨hsame, hsame ▸ hnull, (Option.some.inj hd).symm⟩
    · rw [Function.update_of_ne hsame] at hd
      exact .inr ⟨.inr hsame, hd⟩

theorem Published.isSome_byGeosetData {D : Ptr} (hd : (s.byGeosetData D).isSome) :
    (s'.byGeosetData D).isSome := by
  rw [h.byGeosetData]
  split_ifs
  · exact hd
  · by_cases hsame : D = merged.geosetDataPtr
    · rw [hsame, Function.update_self]
      rfl
    · rw [Function.update_of_ne hsame]
      exact hd

theorem Published.snapshot_self (hdata : merged.geosetDataPtr ≠ 0) :
    s'.byGeosetData merged.geosetDataPtr = some published := by
  rw [h.byGeosetData, if_neg hdata, Function.update_self]

end

theorem known_published (hs : Known s) (sane : Sane s incoming)
    (h : Published source incoming s merged published s') : Known s' where
  geoset P g hg := by
    obtain ⟨hP, hnull, rfl⟩ | ⟨-, hg⟩ := h.byGeoset_cases hg
    · exact ⟨hP.symm, hnull⟩
    · exact hs.geoset P g hg
  complete P g hg hcomplete := by
    obtain ⟨-, -, rfl⟩ | ⟨-, hg⟩ := h.byGeoset_cases hg
    · exact h.complete_data hs sane hcomplete
    · exact hs.complete P g hg hcomplete
  alias_ P g hg hnonzero := by
    obtain ⟨-, -, rfl⟩ | ⟨-, hg⟩ := h.byGeoset_cases hg
    · have hconsumed := h.hasComplete hnonzero
      have hdata := h.complete_data hs sane (GeosetRecord.complete_of_hasComplete hconsumed)
      exact ⟨hconsumed, Option.isSome_of_mem (h.snapshot_self hdata)⟩
    · obtain ⟨hconsumed, hsome⟩ := hs.alias_ P g hg hnonzero
      exact ⟨hconsumed, h.isSome_byGeosetData hsome⟩
  data D d hd := by
    obtain ⟨hD, hnull, rfl⟩ | ⟨-, hd⟩ := h.byGeosetData_cases hd
    · exact ⟨h.alike.geosetDataPtr.trans hD.symm, hnull⟩
    · exact hs.data D d hd
  snapshot D d hd hnonzero := by
    obtain ⟨-, -, rfl⟩ | ⟨-, hd⟩ := h.byGeosetData_cases hd
    · rw [hasComplete_congr h.alike.payload h.alike.status]
      exact h.hasComplete (h.stamp ▸ hnonzero)
    · exact hs.snapshot D d hd hnonzero

variable {unresolved : GeosetRecord}

theorem Unresolved.byGeoset_cases (h : Unresolved source incoming s unresolved s')
    (hg : s'.byGeoset P = some g) : P = incoming.geosetPtr ∧ g = unresolved ∨
      P ≠ incoming.geosetPtr ∧ s.byGeoset P = some g := by
  rw [h.byGeoset] at hg
  by_cases hsame : P = incoming.geosetPtr
  · rw [hsame, Function.update_self] at hg
    exact .inl ⟨hsame, (Option.some.inj hg).symm⟩
  · rw [Function.update_of_ne hsame] at hg
    exact .inr ⟨hsame, hg⟩

theorem Unresolved.geosetPtr_ne_zero (h : Unresolved source incoming s unresolved s') :
    incoming.geosetPtr ≠ 0 := by
  obtain ⟨g, hg⟩ := Option.isSome_iff_exists.mp h.known
  exact (aliasOf_eq_some hg).1

theorem known_unresolved (hs : Known s) (h : Unresolved source incoming s unresolved s') :
    Known s' where
  geoset P g hg := by
    obtain ⟨rfl, rfl⟩ | ⟨-, hg⟩ := h.byGeoset_cases hg
    · exact ⟨h.same.1, h.geosetPtr_ne_zero⟩
    · exact hs.geoset P g hg
  complete P g hg hcomplete := by
    obtain ⟨rfl, rfl⟩ | ⟨-, hg⟩ := h.byGeoset_cases hg
    · exact absurd (h.same.2.2.symm.trans hcomplete) h.incomplete
    · exact hs.complete P g hg hcomplete
  alias_ P g hg hnonzero := by
    rw [h.byGeosetData]
    obtain ⟨rfl, rfl⟩ | ⟨-, hg⟩ := h.byGeoset_cases hg
    · exact absurd h.empty.2 hnonzero
    · exact hs.alias_ P g hg hnonzero
  data D d hd := by
    rw [h.byGeosetData] at hd
    exact hs.data D d hd
  snapshot D d hd hnonzero := by
    rw [h.byGeosetData] at hd
    exact hs.snapshot D d hd hnonzero

theorem known_quiet (hs : Known s) (h : Quiet s s') : Known s' where
  geoset P g hg := hs.geoset P g (h.byGeoset ▸ hg)
  complete P g hg := hs.complete P g (h.byGeoset ▸ hg)
  alias_ P g hg hnonzero := h.byGeosetData ▸ hs.alias_ P g (h.byGeoset ▸ hg) hnonzero
  data D d hd := hs.data D d (h.byGeosetData ▸ hd)
  snapshot D d hd := hs.snapshot D d (h.byGeosetData ▸ hd)

theorem seen_cases {Q : Ptr} {alias_ : GeosetRecord} {frameNumber : UInt64}
    (known : s.byGeoset Q = some alias_)
    (hg : Function.update s.byGeoset Q (some { alias_ with lastSeenFrame := frameNumber }) P =
      some g) : ∃ g₀, s.byGeoset P = some g₀ ∧ Alike g g₀ ∧
        g.immutableModelGeneration = g₀.immutableModelGeneration := by
  by_cases hsame : P = Q
  · rw [hsame, Function.update_self] at hg
    obtain rfl := Option.some.inj hg
    exact ⟨alias_, hsame ▸ known, ⟨rfl, rfl, rfl, rfl⟩, rfl⟩
  · rw [Function.update_of_ne hsame] at hg
    exact ⟨g, hg, ⟨rfl, rfl, rfl, rfl⟩, rfl⟩

theorem known_seen {Q : Ptr} {alias_ : GeosetRecord} (hs : Known s) (frameNumber : UInt64)
    (known : s.byGeoset Q = some alias_) :
    Known { s with
      byGeoset := Function.update s.byGeoset Q
        (some { alias_ with lastSeenFrame := frameNumber }) } where
  geoset P g hg := by
    obtain ⟨g₀, hg₀, halike, -⟩ := seen_cases known hg
    exact halike.geosetPtr ▸ hs.geoset P g₀ hg₀
  complete P g hg hcomplete := by
    obtain ⟨g₀, hg₀, halike, -⟩ := seen_cases known hg
    exact halike.geosetDataPtr ▸ hs.complete P g₀ hg₀ (halike.status ▸ hcomplete)
  alias_ P g hg hnonzero := by
    obtain ⟨g₀, hg₀, halike, hstamp⟩ := seen_cases known hg
    rw [hasComplete_congr halike.payload halike.status, halike.geosetDataPtr]
    exact hs.alias_ P g₀ hg₀ (hstamp ▸ hnonzero)
  data := hs.data
  snapshot := hs.snapshot

theorem known_reset (hs : Known s) (mapEpoch : UInt64) : Known (s.resetMapEpoch mapEpoch).2 := by
  unfold resetMapEpoch
  split_ifs
  · exact hs
  · exact {
      geoset := fun _ _ h => nomatch h
      complete := fun _ _ h => nomatch h
      alias_ := fun _ _ h => nomatch h
      data := fun _ _ h => nomatch h
      snapshot := fun _ _ h => nomatch h }

theorem known_move (hs : Known s) (move : Move p s s') : Known s' := by
  cases move with
  | quiet _ same => exact known_quiet hs same
  | seen Q alias_ frameNumber known => exact known_seen hs frameNumber known
  | noted record => exact ⟨hs.geoset, hs.complete, hs.alias_, hs.data, hs.snapshot⟩
  | stored source record reason =>
    have sane := sane_of_reason hs reason
    obtain h | ⟨merged, h⟩ := storeGeosetRecord_cases source record s
    · exact known_unresolved hs h
    · exact known_published hs sane h
  | reset mapEpoch _ => exact known_reset hs mapEpoch

theorem known_empty : Known {} where
  geoset _ _ h := nomatch h
  complete _ _ h := nomatch h
  alias_ _ _ h := nomatch h
  data _ _ h := nomatch h
  snapshot _ _ h := nomatch h

end Cache

end War3VK.Model
