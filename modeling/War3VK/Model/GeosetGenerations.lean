import War3VK.Model.ResourceCacheKnown

/-!
# Generations of geosets

A generation stands for a payload: two ready snapshots with one generation are of one data pointer and
have one payload, and the generations of the snapshots of one data pointer never decrease. A geoset that
moved to other data owes a capture, and is not ready until there is one.
-/

namespace War3VK.Model

open Lib

namespace Cache

/-! ## What was published -/

def readySnapshot : Event → Option GeosetRecord
  | .stored _ _ _ published => if published.readyForShadowConsumer then some published else none
  | _ => none

def snapshots (trace : List Event) : List GeosetRecord := trace.filterMap readySnapshot

theorem snapshots_stored (trace : List Event) (source : Source) (moved : Bool)
    (record published : GeosetRecord) :
    snapshots (trace ++ [.stored source moved record published]) = snapshots trace ++
      if published.readyForShadowConsumer then [published] else [] := by
  unfold snapshots
  rw [List.filterMap_append]
  congr 1
  show (if published.readyForShadowConsumer = true then some published else none).toList = _
  split <;> rfl

/-- Whether a geoset owes a capture: it moved, and was not captured completely since. -/
def owes (geosetPtr : Ptr) (trace : List Event) : Bool :=
  trace.foldl (fun owed event =>
    match event with
    | .captured _ _ _ => owed
    | .stored source moved record published =>
      if published.geosetPtr ≠ geosetPtr then owed
      else if source = .captured && record.immutableCaptureStatus = .complete then false
      else moved || owed
    | .reset _ => false) false

theorem owes_captured (P : Ptr) (trace : List Event) (geosetDataPtr : Ptr) (payload : Payload)
    (complete : Bool) :
    owes P (trace ++ [.captured geosetDataPtr payload complete]) = owes P trace := by
  unfold owes
  rw [List.foldl_append]
  rfl

theorem owes_stored (P : Ptr) (trace : List Event) (source : Source) (moved : Bool)
    (record published : GeosetRecord) :
    owes P (trace ++ [.stored source moved record published]) = if published.geosetPtr ≠ P then owes P trace
      else if source = .captured && record.immutableCaptureStatus = .complete then false
      else moved || owes P trace := by
  unfold owes
  rw [List.foldl_append]
  rfl

theorem owes_reset (P : Ptr) (trace : List Event) (mapEpoch : UInt64) :
    owes P (trace ++ [.reset mapEpoch]) = false := by
  unfold owes
  rw [List.foldl_append]
  rfl

/-! ## The condition -/

/-- A record that is stored without a capture does not count as complete for a geoset that moves or owes
a capture: it has not that status, and does not take it from a snapshot without a generation. -/
def keepsOwed (record : GeosetRecord) (s : Cache) : Prop :=
  s.moves record = true ∨ owes record.geosetPtr s.trace = true →
    record.immutableCaptureStatus ≠ .complete ∧
      (record.immutableCaptureStatus = .notAttempted → s.moves record = false →
        ∀ d, s.canonicalOf record = some d → d.immutableCaptureStatus = .complete →
          d.immutableModelGeneration ≠ 0)

def owedHeed : Heed where
  again := keepsOwed
  captured _ _ := True

/-! ## The invariants -/

structure Stamped (s : Cache) : Prop where
  /-- The generations that were published come before the next one. -/
  below : ∀ a ∈ snapshots s.trace, a.immutableModelGeneration.toNat < s.issuer.next.toNat
  /-- A generation has one data pointer and one payload. -/
  same : ∀ a ∈ snapshots s.trace, ∀ b ∈ snapshots s.trace,
    a.immutableModelGeneration = b.immutableModelGeneration →
      a.geosetDataPtr = b.geosetDataPtr ∧ a.payload = b.payload
  /-- The generations of one data pointer never decrease. -/
  increasing : (snapshots s.trace).Pairwise fun a b => a.geosetDataPtr = b.geosetDataPtr →
    a.immutableModelGeneration ≤ b.immutableModelGeneration
  current : ∀ D d, s.byGeosetData D = some d → d.readyForShadowConsumer →
    ∃ a ∈ snapshots s.trace, a.geosetDataPtr = D ∧ a.payload = d.payload ∧
      a.immutableModelGeneration = d.immutableModelGeneration
  newest : ∀ D d, s.byGeosetData D = some d → d.readyForShadowConsumer →
    ∀ a ∈ snapshots s.trace, a.geosetDataPtr = D →
      a.immutableModelGeneration ≤ d.immutableModelGeneration

def Owing (s : Cache) : Prop :=
  ∀ P, owes P s.trace = true → ∃ g, s.byGeoset P = some g ∧ g.immutableModelGeneration = 0 ∧
    g.immutableCaptureStatus ≠ .complete ∧ g.geosetDataPtr ≠ 0

/-- A capture that is owed has a generation that was never published. -/
def Fresh (trace : List Event) : Prop :=
  ∀ before moved record published after,
    trace = before ++ .stored .captured moved record published :: after →
      record.immutableCaptureStatus = .complete →
        (moved = true ∨ owes published.geosetPtr before = true) →
          ∀ a ∈ snapshots before, a.immutableModelGeneration ≠ published.immutableModelGeneration

variable {s s' : Cache} {source : Source} {incoming merged published : GeosetRecord}

theorem generation_of_mem_snapshots {trace : List Event} {a : GeosetRecord}
    (h : a ∈ snapshots trace) : a.immutableModelGeneration ≠ 0 := by
  obtain ⟨event, -, hready⟩ := List.mem_filterMap.mp h
  cases event with
  | captured => cases hready
  | reset => cases hready
  | stored source moved record published =>
    change (if published.readyForShadowConsumer = true then some published else none) = some a
      at hready
    split_ifs at hready with hpublished
    obtain rfl := Option.some.inj hready
    exact (GeosetRecord.ready_iff.mp hpublished).1

/-! ## Generations stand for payloads -/

theorem Published.ready_iff (h : Published source incoming s merged published s') :
    published.readyForShadowConsumer = true ↔ merged.immutableModelGeneration ≠ 0 := by
  rw [GeosetRecord.ready_iff, h.stamp, hasComplete_congr h.alike.payload h.alike.status]
  exact ⟨fun hready => hready.1, fun hnonzero => ⟨hnonzero, h.hasComplete hnonzero⟩⟩

theorem stamped_unready (hs : Stamped s) (hnext : s'.issuer.next = s.issuer.next)
    (hsnapshots : snapshots s'.trace = snapshots s.trace)
    (hdata : ∀ D d, s'.byGeosetData D = some d → d.readyForShadowConsumer →
      s.byGeosetData D = some d) : Stamped s' where
  below a ha := by
    rw [hnext]
    exact hs.below a (hsnapshots ▸ ha)
  same := by
    rw [hsnapshots]
    exact hs.same
  increasing := by
    rw [hsnapshots]
    exact hs.increasing
  current D d hd hready := by
    rw [hsnapshots]
    exact hs.current D d (hdata D d hd hready) hready
  newest D d hd hready := by
    rw [hsnapshots]
    exact hs.newest D d (hdata D d hd hready) hready

theorem stamped_ready (hs : Stamped s) (h : Published source incoming s merged published s')
    (hready : published.readyForShadowConsumer = true) (hdata : merged.geosetDataPtr ≠ 0)
    (hbelow : published.immutableModelGeneration.toNat < s'.issuer.next.toNat)
    (hnext : s.issuer.next.toNat ≤ s'.issuer.next.toNat)
    (hsame : ∀ a ∈ snapshots s.trace, a.immutableModelGeneration = published.immutableModelGeneration →
        a.geosetDataPtr = published.geosetDataPtr ∧ a.payload = published.payload)
    (hnewest : ∀ a ∈ snapshots s.trace, a.geosetDataPtr = published.geosetDataPtr →
      a.immutableModelGeneration ≤ published.immutableModelGeneration) : Stamped s' := by
  have hsnapshots : snapshots s'.trace = snapshots s.trace ++ [published] := by
    rw [h.trace, snapshots_stored, if_pos hready]
  have hself : published ∈ snapshots s'.trace := by
    rw [hsnapshots]
    exact List.mem_append_right _ (List.mem_singleton_self _)
  have hcases {a : GeosetRecord} (ha : a ∈ snapshots s'.trace) :
      a ∈ snapshots s.trace ∨ a = published := by
    rw [hsnapshots, List.mem_append, List.mem_singleton] at ha
    exact ha
  exact {
    below := fun a ha => by
      obtain ha | rfl := hcases ha
      · exact (hs.below a ha).trans_le hnext
      · exact hbelow
    same := fun a ha b hb heq => by
      obtain ha | rfl := hcases ha
      · obtain hb | rfl := hcases hb
        · exact hs.same a ha b hb heq
        · exact hsame a ha heq
      · obtain hb | rfl := hcases hb
        · obtain ⟨hptr, hpayload⟩ := hsame b hb heq.symm
          exact ⟨hptr.symm, hpayload.symm⟩
        · exact ⟨rfl, rfl⟩
    increasing := by
      rw [hsnapshots, List.pairwise_append]
      refine ⟨hs.increasing, List.pairwise_singleton _ _, fun a ha b hb => ?_⟩
      obtain rfl := List.mem_singleton.mp hb
      exact hnewest a ha
    current := fun D d hd hd' => by
      obtain ⟨rfl, -, rfl⟩ | ⟨-, hd⟩ := h.byGeosetData_cases hd
      · exact ⟨d, hself, h.alike.geosetDataPtr, rfl, rfl⟩
      · obtain ⟨a, ha, hcurrent⟩ := hs.current D d hd hd'
        refine ⟨a, ?_, hcurrent⟩
        rw [hsnapshots]
        exact List.mem_append_left _ ha
    newest := fun D d hd hd' a ha haD => by
      obtain ⟨rfl, -, rfl⟩ | ⟨hother, hd⟩ := h.byGeosetData_cases hd
      · obtain ha | rfl := hcases ha
        · exact hnewest a ha (haD.trans h.alike.geosetDataPtr.symm)
        · exact UInt64.le_refl _
      · obtain ha | rfl := hcases ha
        · exact hs.newest D d hd hd' a ha haD
        · exact absurd (haD.symm.trans h.alike.geosetDataPtr) (hother.resolve_left hdata) }

theorem stamped_published (hs : Stamped s) (hk : Known s) (sane : Sane s incoming)
    (h : Published source incoming s merged published s') : Stamped s' := by
  have hready := h.ready_iff
  cases h.stamp_cases hk sane with
  | none zero issuer =>
    have hunready : ¬ published.readyForShadowConsumer = true := fun hpublished =>
      hready.mp hpublished zero
    refine stamped_unready hs issuer ?_ fun D d hd hd' => ?_
    · rw [h.trace, snapshots_stored, if_neg hunready, List.append_nil]
    · obtain ⟨-, -, rfl⟩ | ⟨-, hd⟩ := h.byGeosetData_cases hd
      · exact absurd hd' hunready
      · exact hd
  | reused d known ready stamp payload fresh issuer =>
    obtain ⟨-, hd⟩ := canonicalOf_eq_some known
    have hptr := h.data_of_snapshot known
    have hnonzero : merged.immutableModelGeneration ≠ 0 :=
      stamp ▸ (GeosetRecord.ready_iff.mp ready).1
    obtain ⟨a, ha, haD, hapayload, hastamp⟩ := hs.current _ d hd ready
    have heq : published.immutableModelGeneration = a.immutableModelGeneration :=
      h.stamp.trans (stamp.trans hastamp.symm)
    refine stamped_ready hs h (hready.mpr hnonzero) (hptr ▸ (canonicalOf_eq_some known).1) ?_
      (congrArg UInt64.toNat issuer).ge ?_ ?_
    · rw [heq, issuer]
      exact hs.below a ha
    · intro b hb hbeq
      obtain ⟨hbD, hbpayload⟩ := hs.same b hb a ha (hbeq.trans heq)
      exact ⟨hbD.trans (haD.trans (hptr.symm.trans h.alike.geosetDataPtr.symm)),
        hbpayload.trans (hapayload.trans (payload.trans h.alike.payload.symm))⟩
    · intro b hb hbD
      rw [h.stamp, stamp]
      exact hs.newest _ d hd ready b hb (hbD.trans (h.alike.geosetDataPtr.trans hptr))
  | issued complete stamp nonzero issuer =>
    have heq : published.immutableModelGeneration = s.issuer.next := h.stamp.trans stamp
    have hlt (a : GeosetRecord) (ha : a ∈ snapshots s.trace) :
        a.immutableModelGeneration.toNat < published.immutableModelGeneration.toNat := by
      rw [heq]
      exact hs.below a ha
    refine stamped_ready hs h (hready.mpr (stamp ▸ nonzero)) (h.complete_data hk sane
      (GeosetRecord.complete_of_hasComplete complete)) ?_ (by omega) ?_ ?_
    · rw [heq]
      omega
    · intro a ha haeq
      exact absurd (congrArg UInt64.toNat haeq) (hlt a ha).ne
    · intro a ha _
      exact UInt64.le_iff_toNat_le.mpr (hlt a ha).le

/-! ## What is owed -/

theorem not_owes_null (hk : Known s) (hs : Owing s) : owes 0 s.trace ≠ true := fun h => by
  obtain ⟨g, hg, -⟩ := hs 0 h
  exact (hk.geoset 0 g hg).2 rfl

theorem keepsOwed_of_reason (hk : Known s) (hs : Owing s)
    (reason : Reason owedHeed s .cached incoming) : keepsOwed incoming s := by
  cases reason with
  | header _ status geosetPtr data heeded => exact heeded
  | unknown _ status fresh nowhere =>
    -- Without an alias nothing moves, and nothing is owed.
    rintro (hmoves | howes)
    · obtain ⟨g, hg, -⟩ := moves_spec hmoves
      rw [(aliasOf_eq_some hg).2] at fresh
      cases fresh
    · obtain ⟨g, hg, -⟩ := hs _ howes
      rw [hg] at fresh
      cases fresh
  | cached P g _ known heeded target data payload status =>
    obtain hready | heeded := heeded
    · -- An alias that is ready does not move, and owes nothing.
      have htarget := target_cached hk known target
      have hgready : g.readyForShadowConsumer = true := by
        obtain ⟨hsame, -⟩ | ⟨hgready, -⟩ := materialize_cases hk known
        · exact hsame ▸ hready
        · exact hgready
      rintro (hmoves | howes)
      · obtain ⟨g', hg', -, -, hne⟩ := moves_spec hmoves
        have heq := (aliasOf_eq_some hg').2
        rw [htarget, known] at heq
        obtain rfl := Option.some.inj heq
        exact absurd (data.trans (geosetDataPtr_materialize g s)).symm hne
      · obtain ⟨g', hg', hzero, -⟩ := hs _ howes
        rw [htarget, known] at hg'
        obtain rfl := Option.some.inj hg'
        exact absurd hzero (GeosetRecord.ready_iff.mp hgready).1
    · exact heeded
  | snapshot snapshot _ nonzero known heeded target payload status => exact heeded

theorem target_of_reason {p : Heed} (hk : Known s) (reason : Reason p s source incoming)
    (hnull : incoming.geosetPtr = 0) {d : GeosetRecord} (hd : s.canonicalOf incoming = some d) :
    d.geosetPtr = 0 ∨ source = .captured ∧ incoming.immutableCaptureStatus = .complete ∧
      d.readyForShadowConsumer = false := by
  obtain ⟨hdata, hd⟩ := canonicalOf_eq_some hd
  cases reason with
  | header _ status geosetPtr data heeded => exact absurd hnull geosetPtr
  | unknown _ status fresh nowhere => exact absurd (nowhere hnull) hdata
  | cached P g _ known heeded target data payload status =>
    exact absurd ((target_cached hk known target).symm.trans hnull) (hk.geoset P g known).2
  | snapshot snapshot _ nonzero known heeded target payload status =>
    obtain rfl := Option.some.inj (known.symm.trans hd)
    exact .inl (target.elim (fun h => h.symm.trans hnull) fun h => absurd hnull h.1)
  | captured live _ noted attempted payload status nonzero data target =>
    exact (target hnull d hd).imp id fun h => ⟨rfl, h⟩

theorem Published.target (h : Published source incoming s merged published s') (hk : Known s)
    (reason : Reason owedHeed s source incoming) (hnull : merged.geosetPtr ≠ 0) :
    incoming.geosetPtr = merged.geosetPtr ∨ incoming.geosetPtr = 0 ∧ source = .captured ∧
      incoming.immutableCaptureStatus = .complete ∧
        ∀ d, s.canonicalOf incoming = some d → d.readyForShadowConsumer = false := by
  have hptr := h.geosetPtr
  by_cases hincoming : incoming.geosetPtr ≠ 0
  · rw [if_pos hincoming] at hptr
    exact .inl hptr.symm
  · rw [if_neg hincoming] at hptr
    cases hd : s.canonicalOf incoming with
    | none =>
      rw [hd] at hptr
      exact absurd hptr hnull
    | some d =>
      rw [hd] at hptr
      obtain hzero | ⟨hsource, hcomplete, hready⟩ :=
        target_of_reason hk reason (not_not.mp hincoming) hd
      · exact absurd (hptr.trans hzero) hnull
      · refine .inr ⟨not_not.mp hincoming, hsource, hcomplete, fun d' hd' => ?_⟩
        obtain rfl := Option.some.inj hd'
        exact hready

theorem unresolved_published (hk : Known s) (hs : Owing s)
    (reason : Reason owedHeed s source incoming)
    (h : Published source incoming s merged published s')
    (hincoming : incoming.geosetPtr = merged.geosetPtr)
    (hunpaid : ¬(source = .captured ∧ incoming.immutableCaptureStatus = .complete))
    (howed : s.moves incoming = true ∨ owes merged.geosetPtr s.trace = true) :
    merged.immutableModelGeneration = 0 ∧ merged.immutableCaptureStatus ≠ .complete ∧
      merged.geosetDataPtr ≠ 0 := by
  rw [← hincoming] at howed
  -- The record is not complete: a capture would pay, and the condition excludes the rest.
  have hincomplete : incoming.immutableCaptureStatus ≠ .complete := fun hcomplete => by
    cases source with
    | captured => exact hunpaid ⟨rfl, hcomplete⟩
    | cached => exact (keepsOwed_of_reason hk hs reason howed).1 hcomplete
  obtain ⟨hstays, hpends⟩ := h.settled.resolve_left hincomplete
  obtain howes := howed.resolve_left (by rw [hstays]; exact Bool.false_ne_true)
  obtain ⟨g, hg, hzero, hstatus, hdata⟩ := hs _ howes
  have hnull := (hk.geoset _ g hg).2
  have halias : s.aliasOf incoming = some g := (if_neg hnull).trans hg
  have hmerged : merged.immutableCaptureStatus ≠ .complete := by
    cases h.content with
    | complete status same => exact absurd status hincomplete
    | failed status same => rw [same.2]; simp
    | snapshot d status known same =>
      rw [same.2]
      intro hcomplete
      -- A complete snapshot has a generation, and then the record would have waited.
      have hstamp : d.immutableModelGeneration ≠ 0 := by
        cases hsource : source with
        | captured =>
          rw [hsource] at reason
          cases reason with
          | captured live _ noted attempted payload hlive nonzero data target =>
            exact absurd status attempted
        | cached =>
          rw [hsource] at reason
          exact (keepsOwed_of_reason hk hs reason howed).2 status hstays d known hcomplete
      obtain ⟨hnonzero, hd⟩ := canonicalOf_eq_some known
      have hready := GeosetRecord.ready_iff.mpr ⟨hstamp, hk.snapshot _ d hd hstamp⟩
      have hsame := moves_eq_false hstays halias hdata hnonzero
      have hwaits : s.pends incoming = true := by
        unfold moves at hstays
        unfold pends pendingAliasResolution
        rw [hstays, halias, known]
        simp [unresolvedAt, hsame, hzero, hstatus, hstamp, hready]
      rw [hpends] at hwaits
      cases hwaits
    | alias_ g' status unknown known unmoved same =>
      obtain rfl := Option.some.inj (halias.symm.trans known)
      rw [same.2]
      exact hstatus
    | header status unknown same => rw [same.2]; simp
  refine ⟨?_, hmerged, ?_⟩
  · by_contra hnonzero
    exact hmerged (GeosetRecord.complete_of_hasComplete (h.hasComplete hnonzero))
  · rw [h.geosetDataPtr]
    split_ifs with hnonzero
    · exact hnonzero
    · rw [halias]
      exact hdata

theorem owing_published (hk : Known s) (hs : Owing s) (reason : Reason owedHeed s source incoming)
    (h : Published source incoming s merged published s') : Owing s' := by
  intro P howes
  rw [h.trace, owes_stored, h.alike.geosetPtr] at howes
  by_cases hother : merged.geosetPtr ≠ P
  · rw [if_pos hother] at howes
    obtain ⟨g, hg, hunresolved⟩ := hs P howes
    refine ⟨g, ?_, hunresolved⟩
    rw [h.byGeoset]
    split_ifs
    · exact hg
    · rw [Function.update_of_ne hother.symm]
      exact hg
  · rw [if_neg hother] at howes
    obtain rfl := not_not.mp hother
    by_cases hpaid : (source = .captured && incoming.immutableCaptureStatus = .complete) = true
    · rw [if_pos hpaid] at howes
      cases howes
    · rw [if_neg hpaid, Bool.or_eq_true] at howes
      simp only [Bool.and_eq_true, decide_eq_true_eq] at hpaid
      have hnull : merged.geosetPtr ≠ 0 := fun hnull => by
        cases howes with
        | inl hmoves =>
          obtain ⟨g, hg, -⟩ := moves_spec hmoves
          have hincoming := (aliasOf_eq_some hg).1
          exact hincoming ((h.geosetPtr.trans (if_pos hincoming)).symm.trans hnull)
        | inr howes => exact not_owes_null hk hs (hnull ▸ howes)
      obtain hincoming | ⟨-, hsource, hcomplete, -⟩ := h.target hk reason hnull
      · exact ⟨merged, by rw [h.byGeoset, if_neg hnull, Function.update_self],
          unresolved_published hk hs reason h hincoming hpaid howes⟩
      · exact absurd ⟨hsource, hcomplete⟩ hpaid

theorem owing_unresolved {unresolved : GeosetRecord} (hs : Owing s)
    (h : Unresolved source incoming s unresolved s') : Owing s' := by
  intro P howes
  by_cases hsame : P = incoming.geosetPtr
  · refine ⟨unresolved, ?_, h.empty.2, fun hcomplete => h.incomplete
      (h.same.2.2.symm.trans hcomplete), h.same.2.1.trans_ne h.data⟩
    rw [h.byGeoset, hsame, Function.update_self]
  · rw [h.trace, owes_stored, h.same.1, if_pos (Ne.symm hsame)] at howes
    obtain ⟨g, hg, hunresolved⟩ := hs P howes
    refine ⟨g, ?_, hunresolved⟩
    rw [h.byGeoset, Function.update_of_ne hsame]
    exact hg

/-! ## A capture that is owed is fresh -/

theorem fresh_concat {trace : List Event} {last : Event} (hs : Fresh trace)
    (hlast : ∀ moved record published, last = .stored .captured moved record published →
      record.immutableCaptureStatus = .complete → (moved = true ∨ owes published.geosetPtr trace = true) →
          ∀ a ∈ snapshots trace, a.immutableModelGeneration ≠ published.immutableModelGeneration) :
    Fresh (trace ++ [last]) := by
  intro before moved record published after h hcomplete howed
  obtain ⟨after', htrace⟩ | ⟨rfl, hevent⟩ := split_concat h
  · exact hs before moved record published after' htrace hcomplete howed
  · exact hlast moved record published hevent.symm hcomplete howed

theorem fresh_published (hk : Known s) (ho : Owing s) (ht : Stamped s) (sane : Sane s incoming)
    (reason : Reason owedHeed s source incoming)
    (h : Published source incoming s merged published s')
    (hcomplete : incoming.immutableCaptureStatus = .complete)
    (howed : s.moves incoming = true ∨ owes published.geosetPtr s.trace = true) :
    ∀ a ∈ snapshots s.trace, a.immutableModelGeneration ≠ published.immutableModelGeneration := by
  intro a ha
  rw [h.stamp]
  rw [h.alike.geosetPtr] at howed
  cases h.stamp_cases hk sane with
  | none zero issuer => exact zero ▸ generation_of_mem_snapshots ha
  | issued _ stamp nonzero issuer =>
    intro heq
    have hlt := ht.below a ha
    rw [heq, stamp] at hlt
    omega
  | reused d known ready stamp payload fresh issuer =>
    -- Where a capture is owed a fresh generation is forced, so none is reused.
    exfalso
    have hnull : merged.geosetPtr ≠ 0 := fun hnull => by
      cases howed with
      | inl hmoves =>
        obtain ⟨g, hg, -⟩ := moves_spec hmoves
        have hincoming := (aliasOf_eq_some hg).1
        exact hincoming ((h.geosetPtr.trans (if_pos hincoming)).symm.trans hnull)
      | inr howes => exact not_owes_null hk ho (hnull ▸ howes)
    obtain hincoming | ⟨hzero, -, -, hunready⟩ := h.target hk reason hnull
    · rw [← hincoming] at howed
      unfold forceFreshGeneration at fresh
      simp only [Bool.or_eq_false_iff] at fresh
      obtain ⟨⟨hstays, -⟩, hresolved⟩ := fresh
      obtain howes := howed.resolve_left (by
        rw [show s.moves incoming = false from hstays]
        exact Bool.false_ne_true)
      obtain ⟨g, hg, hgzero, hstatus, hdata⟩ := ho _ howes
      have halias : s.aliasOf incoming = some g := (if_neg (hk.geoset _ g hg).2).trans hg
      have hsame := moves_eq_false (s := s) hstays halias hdata (sane.complete hcomplete)
      rw [halias] at hresolved
      simp [unresolvedAt, hsame, hgzero, hstatus] at hresolved
    · rw [hunready d known] at ready
      cases ready

/-! ## Every move keeps the law -/

structure Lawful (s : Cache) : Prop where
  known : Known s
  stamped : Stamped s
  owing : Owing s
  fresh : Fresh s.trace

theorem lawful_stored (hs : Lawful s) (reason : Reason owedHeed s source incoming) :
    Lawful (s.storeGeosetRecord source incoming).2 := by
  have sane := sane_of_reason hs.known reason
  obtain h | ⟨merged, h⟩ := storeGeosetRecord_cases source incoming s
  · have hunready : ¬ (s.storeGeosetRecord source incoming).1.readyForShadowConsumer = true :=
      fun hready => (GeosetRecord.ready_iff.mp hready).1 h.empty.2
    refine ⟨known_unresolved hs.known h, ?_, owing_unresolved hs.owing h, ?_⟩
    · refine stamped_unready hs.stamped (congrArg _ h.issuer) ?_ fun D d hd _ => h.byGeosetData ▸ hd
      rw [h.trace, snapshots_stored, if_neg hunready, List.append_nil]
    · rw [h.trace]
      refine fresh_concat hs.fresh fun moved record published hlast hcomplete _ => ?_
      obtain ⟨-, -, rfl, -⟩ := Event.stored.inj hlast
      exact absurd hcomplete h.incomplete
  · refine ⟨known_published hs.known sane h, stamped_published hs.stamped hs.known sane h,
      owing_published hs.known hs.owing reason h, ?_⟩
    rw [h.trace]
    refine fresh_concat hs.fresh fun moved record published hlast hcomplete howed => ?_
    obtain ⟨-, rfl, rfl, rfl⟩ := Event.stored.inj hlast
    exact fresh_published hs.known hs.owing hs.stamped sane reason h hcomplete howed

theorem lawful_move (hs : Lawful s) (move : Move owedHeed s s') : Lawful s' := by
  have hknown := known_move hs.known move
  cases move with
  | quiet _ same =>
    refine ⟨hknown, ?_, fun P howes => ?_, same.trace ▸ hs.fresh⟩
    · exact stamped_unready hs.stamped (congrArg _ same.issuer) (congrArg _ same.trace)
        fun D d hd _ => same.byGeosetData ▸ hd
    · rw [same.byGeoset]
      exact hs.owing P (same.trace ▸ howes)
  | seen Q alias_ frameNumber known =>
    refine ⟨hknown, ?_, fun P howes => ?_, hs.fresh⟩
    · exact stamped_unready hs.stamped rfl rfl fun D d hd _ => hd
    · obtain ⟨g, hg, hunresolved⟩ := hs.owing P howes
      by_cases hsame : P = Q
      · subst hsame
        obtain rfl := Option.some.inj (known.symm.trans hg)
        exact ⟨_, Function.update_self .., hunresolved⟩
      · exact ⟨g, (Function.update_of_ne hsame ..).trans hg, hunresolved⟩
  | noted record =>
    refine ⟨hknown, ?_, fun P howes => ?_, fresh_concat hs.fresh fun _ _ _ hlast => nomatch hlast⟩
    · refine stamped_unready hs.stamped rfl ?_ fun D d hd _ => hd
      show snapshots (s.trace ++ [_]) = _
      unfold snapshots
      rw [List.filterMap_append]
      exact List.append_nil _
    · exact hs.owing P (owes_captured P s.trace _ _ _ ▸ howes)
  | stored source record reason => exact lawful_stored hs reason
  | reset mapEpoch _ =>
    unfold resetMapEpoch at hknown ⊢
    split_ifs with hzero
    · exact hs
    · rw [if_neg hzero] at hknown
      refine ⟨hknown, ?_, fun P howes => ?_, fresh_concat hs.fresh fun _ _ _ hlast => nomatch hlast⟩
      · refine stamped_unready hs.stamped rfl ?_ fun D d hd _ => nomatch hd
        show snapshots (s.trace ++ [_]) = _
        unfold snapshots
        rw [List.filterMap_append]
        exact List.append_nil _
      · rw [show owes P (s.trace ++ [_]) = false from owes_reset P s.trace _] at howes
        cases howes

theorem lawful_empty : Lawful {} where
  known := known_empty
  stamped := {
    below := fun _ h => nomatch h
    same := fun _ h => nomatch h
    increasing := .nil
    current := fun _ _ h => nomatch h
    newest := fun _ _ h => nomatch h }
  owing _ h := nomatch h
  fresh _ _ _ _ _ h := by simp at h

/-! ## The law -/

structure GenerationLaw (s : Cache) : Prop where
  /-- Two ready snapshots with one generation have one data pointer and one payload. -/
  same : ∀ a ∈ snapshots s.trace, ∀ b ∈ snapshots s.trace,
    a.immutableModelGeneration = b.immutableModelGeneration →
      a.geosetDataPtr = b.geosetDataPtr ∧ a.payload = b.payload
  /-- The generations of the ready snapshots of one data pointer never decrease. -/
  increasing : (snapshots s.trace).Pairwise fun a b => a.geosetDataPtr = b.geosetDataPtr →
    a.immutableModelGeneration ≤ b.immutableModelGeneration
  /-- A ready record of a geoset is the current snapshot of its data. -/
  canonical : ∀ P r, s.findGeosetByPtr P = some r → r.readyForShadowConsumer →
    ∃ d, s.byGeosetData r.geosetDataPtr = some d ∧ r.payload = d.payload ∧
      r.immutableModelGeneration = d.immutableModelGeneration
  /-- A geoset that moved is not ready until it is captured. -/
  unready : ∀ P, owes P s.trace = true → ∀ r, s.findGeosetByPtr P = some r →
    r.readyForShadowConsumer = false
  /-- And the capture has a generation that was never published. -/
  fresh : Fresh s.trace

theorem Lawful.law (hs : Lawful s) : GenerationLaw s where
  same := hs.stamped.same
  increasing := hs.stamped.increasing
  canonical P r h hready := by
    obtain ⟨d, hd, hpayload, -, hstamp⟩ := findGeosetByPtr_canonical hs.known h hready
    exact ⟨d, hd, hpayload, hstamp⟩
  unready P howes r h := by
    obtain ⟨g, hg, hzero, hstatus, -⟩ := hs.owing P howes
    obtain ⟨g', hg', rfl⟩ := findGeosetByPtr_eq_some h
    obtain rfl := Option.some.inj (hg.symm.trans hg')
    have hunready : ¬ g.readyForShadowConsumer = true := fun hready =>
      (GeosetRecord.ready_iff.mp hready).1 hzero
    obtain ⟨hsame, hready⟩ | ⟨hready, -⟩ := materialize_cases hs.known hg
    · exact (congrArg _ hsame).trans hready
    · exact absurd hready hunready
  fresh := hs.fresh

/-- Every run whose calls store, without a capture, nothing that counts as complete for a geoset that
moves or owes a capture, keeps the law of generations. -/
theorem generations_run (calls : List (Op × Memory))
    (heeded : ∀ r ∈ history perform calls {}, owedHeed.heeds r.call r.before) :
    GenerationLaw (run perform calls {}) :=
  (@history_induction_of _ _ _ perform (fun s _ => Lawful s)
    (fun r => owedHeed.heeds r.call r.before) {} lawful_empty
    (fun _ _ call hs heeds => (path_perform call heeds).keeps (fun _ _ h => lawful_move h) hs)
    calls heeded).law

/-! ### Runs on fixed inputs -/

def triangle : Payload := { positions := [1], indices := [0] }

def triangleAt (geosetDataPtr : Ptr) : Memory where
  geosetData _ := geosetDataPtr
  streams _ := (triangle, true)

def movedCalls : List (Op × Memory) := [
  (.noteRuntimeGeosetBinding { runtimeGeosetPtr := 1, runtimeGeosetDataPtr := 16 }, triangleAt 16),
  (.recordGeosetCreate 1, triangleAt 32)]

def capturedCalls : List (Op × Memory) :=
  movedCalls ++ [(.hydrateGeosetByKnownPtrs 1 32, triangleAt 32)]

/-- The geoset 1 is bound, moves and is captured, with two generations. -/
theorem generations_run_captured : (run perform capturedCalls {}).issuer.next = 3 ∧
    GenerationLaw (run perform capturedCalls {}) := by
  refine ⟨by decide +kernel, generations_run capturedCalls fun r hr => ?_⟩
  have hcalls : r = record perform {} capturedCalls[0] ∨
      r = record perform (run perform (capturedCalls.take 1) {}) capturedCalls[1] ∨
        r = record perform (run perform (capturedCalls.take 2) {}) capturedCalls[2] := by
    simpa [capturedCalls, movedCalls, history] using hr
  rcases hcalls with rfl | rfl | rfl
  · intro hrefreshed
    exact absurd hrefreshed (by decide +kernel)
  · intro header hread _
    obtain rfl := Option.some.inj hread
    exact ⟨by decide +kernel, fun _ hstays => absurd hstays (by decide +kernel)⟩
  · trivial

/-- The snapshot of the data that the geoset 1 had is bound again, in the frame in which it was
captured: the geoset is ready without a capture. -/
theorem rebound_ready : ¬∀ calls, GenerationLaw (run perform calls {}) := by
  intro h
  have hlaw := h (movedCalls ++
    [(.noteRuntimeGeosetBinding { runtimeGeosetDataPtr := 16 }, triangleAt 16)])
  have howes : owes 1 (run perform (movedCalls ++
      [(.noteRuntimeGeosetBinding { runtimeGeosetDataPtr := 16 }, triangleAt 16)]) {}).trace = true := by
    decide +kernel
  have hunready : ((run perform (movedCalls ++
      [(.noteRuntimeGeosetBinding { runtimeGeosetDataPtr := 16 }, triangleAt 16)])
        {}).findGeosetByPtr 1).any GeosetRecord.readyForShadowConsumer = false :=
    (Option.any_eq_false _ _).mpr fun r hr => by
      rw [hlaw.unready 1 howes r hr]
  exact absurd hunready (by decide +kernel)

/-- A geoset loses what it owes when a header of it meets a snapshot that is complete and has nothing to
draw. Its capture has the generation that the capture of another geoset had before. -/
example : (snapshots (run perform [
    (.noteRuntimeGeosetBinding { runtimeGeosetPtr := 1, runtimeGeosetDataPtr := 16 }, triangleAt 16),
    (.noteRuntimeGeosetBinding { runtimeGeosetPtr := 2, runtimeGeosetDataPtr := 32 },
      { geosetData := fun _ => 32, streams := fun _ => ({ positions := [1] }, true) }),
    (.recordGeosetCreate 1, triangleAt 32),
    (.recordGeosetCreate 1, triangleAt 32),
    (.hydrateGeosetByKnownPtrs 2 32, triangleAt 32),
    (.hydrateGeosetByKnownPtrs 1 32, triangleAt 32)] {}).trace).map (fun r =>
      (r.geosetPtr, r.immutableModelGeneration)) = [(1, 1), (2, 2), (1, 2)] := by
  decide +kernel

end Cache

end War3VK.Model
