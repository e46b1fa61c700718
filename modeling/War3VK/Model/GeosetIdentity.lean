import War3VK.Model.ResourceCacheKnown

/-!
# The identity of a payload

A payload that is published under a data pointer was read through it. A binding of a model breaks that when
it captures a geoset of which another data pointer is cached: the cached pointer overrides the one that was
read.
-/

namespace War3VK.Model

open Lib

namespace Cache

def Taken (geosetDataPtr : Ptr) (payload : Payload) (trace : List Event) : Prop :=
  .captured geosetDataPtr payload true ∈ trace

/-- The condition: a geoset of a model is not captured through another data pointer than the one that is
cached of it, if one is. -/
def identityHeed : Heed where
  again _ _ := True
  captured live cached := cached.geosetDataPtr = 0 ∨ cached.geosetDataPtr = live.geosetDataPtr

/-- What is published and ready was read before, through its data pointer. -/
def PublishedTaken (trace : List Event) : Prop :=
  ∀ before source moved record published after,
    trace = before ++ .stored source moved record published :: after →
      published.readyForShadowConsumer →
        Taken published.geosetDataPtr published.payload before

structure Identified (s : Cache) : Prop where
  known : Known s
  /-- A complete alias was read through its data pointer. -/
  alias_ : ∀ P g, s.byGeoset P = some g → g.immutableCaptureStatus = .complete →
    Taken g.geosetDataPtr g.payload s.trace
  /-- A complete snapshot was read through its data pointer. -/
  snapshot : ∀ D d, s.byGeosetData D = some d → d.immutableCaptureStatus = .complete →
    Taken D d.payload s.trace
  published : PublishedTaken s.trace

variable {s s' : Cache} {source : Source} {incoming merged published : GeosetRecord}

theorem Taken.append {D : Ptr} {payload : Payload} {trace : List Event} (h : Taken D payload trace)
    (more : List Event) : Taken D payload (trace ++ more) := List.mem_append_left _ h

theorem publishedTaken_concat {trace : List Event} {last : Event} (hs : PublishedTaken trace)
    (hlast : ∀ source moved record published, last = .stored source moved record published →
      published.readyForShadowConsumer →
        Taken published.geosetDataPtr published.payload trace) : PublishedTaken (trace ++ [last]) := by
  intro before source moved record published after h hready
  obtain ⟨after', htrace⟩ | ⟨rfl, hevent⟩ := split_concat h
  · exact hs before source moved record published after' htrace hready
  · exact hlast source moved record published hevent.symm hready

theorem taken_of_reason (hs : Identified s) (reason : Reason identityHeed s source incoming)
    (hcomplete : incoming.immutableCaptureStatus = .complete) :
    Taken incoming.geosetDataPtr incoming.payload s.trace := by
  cases reason with
  | header _ status geosetPtr data heeded => rw [status] at hcomplete; cases hcomplete
  | unknown _ status fresh nowhere => rw [status] at hcomplete; cases hcomplete
  | cached P g _ known heeded target data payload status =>
    rw [data, geosetDataPtr_materialize, payload]
    rw [status] at hcomplete
    obtain ⟨hsame, -⟩ | ⟨-, d, hd, hpayload, hstatus, -⟩ := materialize_cases hs.known known
    · rw [hsame] at hcomplete ⊢
      exact hs.alias_ P g known hcomplete
    · rw [hpayload]
      exact hs.snapshot _ d hd (hstatus.symm.trans hcomplete)
  | snapshot d _ nonzero known heeded target payload status =>
    rw [payload]
    exact hs.snapshot _ d known (status.symm.trans hcomplete)
  | captured live _ noted attempted payload status nonzero data target =>
    -- The condition leaves only the data pointer that was read.
    have hdata : incoming.geosetDataPtr = live.geosetDataPtr := by
      obtain hdata | ⟨cached, heeded, hcached⟩ := data
      · exact hdata
      · obtain hnull | hsame := heeded
        · exact absurd (hcached.symm.trans hnull) nonzero
        · exact hcached.symm.trans hsame
    have htaken := mem_of_mem_recent noted
    rw [decide_eq_true (status.symm.trans hcomplete)] at htaken
    rw [hdata, payload]
    exact htaken

theorem taken_published (hs : Identified s) (reason : Reason identityHeed s source incoming)
    (h : Published source incoming s merged published s')
    (hcomplete : merged.immutableCaptureStatus = .complete) :
    Taken merged.geosetDataPtr merged.payload s.trace := by
  have sane := sane_of_reason hs.known reason
  cases h.content with
  | complete status same =>
    rw [h.geosetDataPtr, if_pos (sane.complete status), same.1]
    exact taken_of_reason hs reason status
  | failed status same => rw [same.2] at hcomplete; cases hcomplete
  | snapshot d status known same =>
    rw [h.data_of_snapshot known, same.1]
    exact hs.snapshot _ d (canonicalOf_eq_some known).2 (same.2.symm.trans hcomplete)
  | alias_ g status unknown known unmoved same =>
    -- The alias did not move, so its data is that of the merged record.
    obtain ⟨hptr, hg⟩ := aliasOf_eq_some known
    have hgcomplete := same.2.symm.trans hcomplete
    have hdata : merged.geosetDataPtr = g.geosetDataPtr := by
      rw [h.geosetDataPtr]
      split_ifs with hnonzero
      · exact (moves_eq_false unmoved known (hs.known.complete _ g hg hgcomplete) hnonzero).symm
      · rw [known]
        rfl
    rw [hdata, same.1]
    exact hs.alias_ _ g hg hgcomplete
  | header status unknown same => rw [same.2] at hcomplete; cases hcomplete

theorem identified_stored (hs : Identified s) (reason : Reason identityHeed s source incoming) :
    Identified (s.storeGeosetRecord source incoming).2 := by
  have sane := sane_of_reason hs.known reason
  obtain h | ⟨merged, h⟩ := storeGeosetRecord_cases source incoming s
  · refine ⟨known_unresolved hs.known h, fun P g hg hcomplete => ?_, fun D d hd hcomplete => ?_, ?_⟩
    · rw [h.trace]
      obtain ⟨rfl, rfl⟩ | ⟨-, hg⟩ := h.byGeoset_cases hg
      · exact absurd (h.same.2.2.symm.trans hcomplete) h.incomplete
      · exact (hs.alias_ P g hg hcomplete).append _
    · rw [h.byGeosetData] at hd
      rw [h.trace]
      exact (hs.snapshot D d hd hcomplete).append _
    · rw [h.trace]
      refine publishedTaken_concat hs.published fun _ _ _ published hlast hready => ?_
      obtain ⟨-, -, -, rfl⟩ := Event.stored.inj hlast
      exact absurd h.empty.2 (GeosetRecord.ready_iff.mp hready).1
  · have htaken := taken_published hs reason h
    refine ⟨known_published hs.known sane h, fun P g hg hcomplete => ?_, fun D d hd hcomplete => ?_, ?_⟩
    · rw [h.trace]
      obtain ⟨-, -, rfl⟩ | ⟨-, hg⟩ := h.byGeoset_cases hg
      · exact (htaken hcomplete).append _
      · exact (hs.alias_ P g hg hcomplete).append _
    · rw [h.trace]
      obtain ⟨rfl, -, rfl⟩ | ⟨-, hd⟩ := h.byGeosetData_cases hd
      · rw [h.alike.payload]
        exact (htaken (h.alike.status.symm.trans hcomplete)).append _
      · exact (hs.snapshot D d hd hcomplete).append _
    · rw [h.trace]
      refine publishedTaken_concat hs.published fun _ _ _ published hlast hready => ?_
      obtain ⟨-, -, -, rfl⟩ := Event.stored.inj hlast
      rw [h.alike.geosetDataPtr, h.alike.payload]
      exact htaken (h.alike.status.symm.trans
        (GeosetRecord.complete_of_hasComplete (GeosetRecord.ready_iff.mp hready).2))

theorem identified_move (hs : Identified s) (move : Move identityHeed s s') : Identified s' := by
  have hknown := known_move hs.known move
  cases move with
  | quiet _ same =>
    refine ⟨hknown, fun P g hg => ?_, fun D d hd => ?_, same.trace ▸ hs.published⟩
    · rw [same.trace]
      exact hs.alias_ P g (same.byGeoset ▸ hg)
    · rw [same.trace]
      exact hs.snapshot D d (same.byGeosetData ▸ hd)
  | seen Q alias_ frameNumber known =>
    refine ⟨hknown, fun P g hg hcomplete => ?_, hs.snapshot, hs.published⟩
    obtain ⟨g₀, hg₀, halike, -⟩ := seen_cases known hg
    rw [halike.geosetDataPtr, halike.payload]
    exact hs.alias_ P g₀ hg₀ (halike.status ▸ hcomplete)
  | noted record =>
    exact ⟨hknown, fun P g hg hcomplete => (hs.alias_ P g hg hcomplete).append _,
      fun D d hd hcomplete => (hs.snapshot D d hd hcomplete).append _,
      publishedTaken_concat hs.published fun _ _ _ _ hlast => nomatch hlast⟩
  | stored source record reason => exact identified_stored hs reason
  | reset mapEpoch _ =>
    unfold resetMapEpoch at hknown ⊢
    split_ifs with hzero
    · exact hs
    · rw [if_neg hzero] at hknown
      exact ⟨hknown, fun _ _ hg => (nomatch hg), fun _ _ hd => (nomatch hd),
        publishedTaken_concat hs.published fun _ _ _ _ hlast => nomatch hlast⟩

theorem identified_empty : Identified {} where
  known := known_empty
  alias_ _ _ h := nomatch h
  snapshot _ _ h := nomatch h
  published _ _ _ _ _ _ h := by simp at h

structure IdentityLaw (s : Cache) : Prop where
  /-- What was published and ready was read before, through its data pointer. -/
  published : PublishedTaken s.trace
  /-- A ready snapshot was read through its data pointer. -/
  snapshot : ∀ D d, s.byGeosetData D = some d → d.readyForShadowConsumer → Taken D d.payload s.trace
  /-- What is found ready of a geoset was read through its data pointer. -/
  found : ∀ P r, s.findGeosetByPtr P = some r → r.readyForShadowConsumer →
    Taken r.geosetDataPtr r.payload s.trace

theorem Identified.law (hs : Identified s) : IdentityLaw s where
  published := hs.published
  snapshot D d hd hready := hs.snapshot D d hd (GeosetRecord.complete_of_hasComplete
    (GeosetRecord.ready_iff.mp hready).2)
  found P r h hready := by
    obtain ⟨d, hd, hpayload, hstatus, -⟩ := findGeosetByPtr_canonical hs.known h hready
    rw [hpayload]
    exact hs.snapshot _ d hd (hstatus.symm.trans (GeosetRecord.complete_of_hasComplete
      (GeosetRecord.ready_iff.mp hready).2))

/-- Every run in which no binding of a model captures a geoset through another data pointer than the one
that is cached of it keeps the law of identity. -/
theorem identity_run (calls : List (Op × Memory))
    (heeded : ∀ r ∈ history perform calls {}, identityHeed.heeds r.call r.before) :
    IdentityLaw (run perform calls {}) :=
  (@history_induction_of _ _ _ perform (fun s _ => Identified s)
    (fun r => identityHeed.heeds r.call r.before) {} identified_empty
    (fun _ _ call hs heeds => (path_perform call heeds).keeps (fun _ _ h => identified_move h) hs)
    calls heeded).law

/-! ### Runs on fixed inputs -/

def modelAt (geosetDataPtr : Ptr) : Memory where
  geosetData _ := geosetDataPtr
  streams _ := ({ positions := [1], indices := [0] }, true)
  directModelResource modelResourcePtr := modelResourcePtr
  modelGeosets _ := some [1]

def headerThenBinding (headerDataPtr geosetDataPtr : Ptr) : List (Op × Memory) := [
  (.recordGeosetCreate 1, modelAt headerDataPtr),
  (.noteModelResourceBinding 64 0, modelAt geosetDataPtr)]

/-- A geoset that keeps its data is captured with its model. -/
theorem identity_run_kept :
    ((run perform (headerThenBinding 16 16) {}).byGeosetData 16).any
      GeosetRecord.readyForShadowConsumer = true ∧
        IdentityLaw (run perform (headerThenBinding 16 16) {}) := by
  refine ⟨by decide +kernel, identity_run (headerThenBinding 16 16) fun r hr => ?_⟩
  have hcalls : r = record perform {} (headerThenBinding 16 16)[0] ∨
      r = record perform (run perform ((headerThenBinding 16 16).take 1) {})
        (headerThenBinding 16 16)[1] := by
    simpa [headerThenBinding, history] using hr
  rcases hcalls with rfl | rfl
  · intro header _
    trivial
  · intro geosetPtrs hread _
    obtain rfl := Option.some.inj hread
    refine ⟨fun _ => ?_, trivial⟩
    show _ = _ ∨ _ = _
    exact .inr (by decide +kernel)

/-- A geoset that moved is captured with its model: what was read through the new data pointer is
published under the old one. -/
theorem relabelled_payload : ¬∀ calls, IdentityLaw (run perform calls {}) := by
  intro h
  have hlaw := h (headerThenBinding 16 32)
  have hready : ((run perform (headerThenBinding 16 32) {}).byGeosetData 16).any
      GeosetRecord.readyForShadowConsumer = true := by decide +kernel
  obtain ⟨d, hd, hready⟩ := (Option.any_eq_true _ _).mp hready
  have htaken := hlaw.snapshot 16 d hd hready
  have huntaken : ∀ event ∈ (run perform (headerThenBinding 16 32) {}).trace,
      (match event with
        | .captured geosetDataPtr _ _ => geosetDataPtr = 32
        | _ => true) = true := by
    decide +kernel
  exact absurd (huntaken _ htaken) Bool.false_ne_true

end Cache

end War3VK.Model
