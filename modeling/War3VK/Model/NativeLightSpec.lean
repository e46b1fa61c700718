import War3VK.Model.NativeLightCore

/-!
# The decoders read inside

Every position of a loop is in its block, and every block in the file, so that no decoder reads outside of
the file on any path, and each loop moves on (`safe_decodeModelLightSources`,
`safe_decodeReviewedSource`).
-/

namespace War3VK.Model.NativeLight

open Lib

variable {data : Bytes} {stop : ℕ}

variable {u : Unit}

theorem le_of_expect {m n : ℕ} (h : expect (m ≤ n) = .ok u) : m ≤ n :=
  of_decide_eq_true (expect_eq_ok.mp h)

theorem le_of_expect_and {a b : ℕ} {c : Bool} (h : expect (a ≤ b && c) = .ok u) : a ≤ b :=
  of_decide_eq_true (Bool.and_eq_true_iff.mp (expect_eq_ok.mp h)).1

theorem le_trackLength (n interpolation : UInt32) (components : ℕ) :
    16 ≤ trackLength n interpolation components := Nat.le_add_right _ _

theorem safe_sourceTrack (hstop : stop ≤ data.length) (t : ℕ) (eligible : Bool) :
    Safe (sourceTrack data stop t eligible) := by
  unfold sourceTrack
  refine (safe_expect _).bind fun _ hroom => ?_
  have hroom := le_of_expect hroom
  refine (safe_read32 (by omega)).bind fun _ _ => ?_
  refine (safe_read32 (by omega)).bind fun _ _ => ?_
  refine (safe_read32 (by omega)).bind fun _ _ => ?_
  exact (safe_expect _).bind fun _ _ => (safe_expect _).bind fun _ _ => safe_ok _

theorem sourceTrack_lt {t t' : ℕ} {eligible eligible' : Bool}
    (h : sourceTrack data stop t eligible = .ok (t', eligible')) : t < t' := by
  unfold sourceTrack at h
  simp only [bind_eq_ok, pure_eq_ok, Prod.mk.injEq] at h
  obtain ⟨-, -, track, -, n, -, interpolation, -, -, -, -, -, rfl, -⟩ := h
  have hlength := le_trackLength n interpolation
    (if track ∈ attenuationTracks then 1 else trackComponents track)
  omega

theorem safe_reviewedTrack (hstop : stop ≤ data.length) (t : ℕ) (u : Unit) :
    Safe (reviewedTrack data stop t u) := by
  unfold reviewedTrack
  refine (safe_expect _).bind fun _ hroom => ?_
  have hroom := le_of_expect hroom
  refine (safe_read32 (by omega)).bind fun _ _ => ?_
  refine (safe_read32 (by omega)).bind fun _ _ => ?_
  refine (safe_read32 (by omega)).bind fun _ _ => ?_
  exact (safe_expect _).bind fun _ _ => (safe_expect _).bind fun _ _ =>
    (safe_expect _).bind fun _ _ => safe_ok _

theorem reviewedTrack_lt {t t' : ℕ} {u' : Unit} (h : reviewedTrack data stop t u = .ok (t', u')) :
    t < t' := by
  unfold reviewedTrack at h
  simp only [bind_eq_ok, pure_eq_ok, Prod.mk.injEq] at h
  obtain ⟨-, -, track, -, n, -, interp, -, -, -, -, -, -, -, rfl, -⟩ := h
  have hlength := le_trackLength n interp (trackComponents track)
  omega

theorem safe_scan_tracks {σ : Type} {step : ℕ → σ → Except Stop (ℕ × σ)}
    (hsafe : ∀ t s, Safe (step t s)) (hlt : ∀ t s t' s', step t s = .ok (t', s') → t < t') (t : ℕ)
    (s : σ) : Safe (scan stop step t s) :=
  safe_scan (I := fun _ _ => True) (fun t s _ _ => hsafe t s)
    (fun t s t' s' _ _ h => ⟨hlt t s t' s' h, trivial⟩) trivial

structure Record (data : Bytes) (stop p : ℕ) (record node : UInt32) : Prop where
  recordRead : getLe UInt32 p data = record
  nodeRead : getLe UInt32 (p + 4) data = node
  size : 144 ≤ record.toNat
  room : record.toNat ≤ stop - p
  nodeSize : 96 ≤ node.toNat
  nodeRoom : node.toNat ≤ record.toNat - 48

variable {p pos : ℕ}

theorem Record.of_expect {record node : UInt32} (hrecord : readWord UInt32 p data = .ok record)
    (hnode : readWord UInt32 (p + 4) data = .ok node)
    (h : expect (144 ≤ record.toNat && record.toNat ≤ stop - p && 96 ≤ node.toNat &&
      node.toNat ≤ record.toNat - 48) = .ok u) : Record data stop p record node := by
  have htests := expect_eq_ok.mp h
  simp only [Bool.and_eq_true, decide_eq_true_eq] at htests
  exact
    { recordRead := (readWord_eq_ok.mp hrecord).2
      nodeRead := (readWord_eq_ok.mp hnode).2
      size := htests.1.1.1
      room := htests.1.1.2
      nodeSize := htests.1.2
      nodeRoom := htests.2 }

theorem safe_sourceRecord (hstop : stop ≤ data.length) (p : ℕ) (s : Sources) :
    Safe (sourceRecord data stop p s) := by
  unfold sourceRecord
  refine (safe_expect _).bind fun _ hroom => ?_
  have hroom := le_of_expect_and hroom
  refine (safe_read32 (by omega)).bind fun record hrecord => ?_
  refine (safe_read32 (by omega)).bind fun node hnode => ?_
  refine (safe_expect _).bind fun _ htests => ?_
  obtain ⟨-, -, hsize, hroom, hnodeSize, hnodeRoom⟩ := Record.of_expect hrecord hnode htests
  refine (safe_read32 (by omega)).bind fun _ _ => ?_
  refine (safe_expect _).bind fun _ _ => (safe_expect _).bind fun _ _ => ?_
  refine (safe_read32 (by omega)).bind fun _ _ => ?_
  refine (safe_read32 (by omega)).bind fun _ _ => ?_
  refine (safe_read32 (by omega)).bind fun _ _ => ?_
  refine Safe.bind ?_ fun _ _ => safe_ok _
  exact safe_scan_tracks (safe_sourceTrack (by omega)) (fun _ _ _ _ h => sourceTrack_lt h) _ _

theorem sourceRecord_lt {p' : ℕ} {s s' : Sources} (h : sourceRecord data stop p s = .ok (p', s')) :
    p < p' := by
  unfold sourceRecord at h
  simp only [bind_eq_ok, pure_eq_ok, Prod.mk.injEq] at h
  obtain ⟨-, -, record, hrecord, node, hnode, u, htests, -, -, -, -, -, -, -, -, -, -, -, -, -, -,
    rfl, -⟩ := h
  have hsize := (Record.of_expect hrecord hnode htests).size
  omega

theorem safe_reviewedLight {fields : ℕ} (hstop : stop ≤ data.length) (hpos : pos + 144 ≤ stop)
    (hfields : fields + 44 ≤ stop) (policyIndex : ℕ) (id : UInt32) (ordinal : ℕ) (r : Reviewed) :
    Safe (reviewedLight data policyIndex id stop pos fields ordinal r) := by
  unfold reviewedLight
  refine (safe_expect _).bind fun _ _ => ?_
  refine (safe_read32 (by omega)).bind fun _ _ => ?_
  refine (safe_read32 (by omega)).bind fun _ _ => ?_
  refine (safe_expect _).bind fun _ _ => ?_
  refine (safe_read32 (by omega)).bind fun _ _ => ?_
  refine (safe_read32 (by omega)).bind fun _ _ => ?_
  refine (safe_expect _).bind fun _ _ => Safe.bind ?_ fun _ _ => safe_ok _
  exact safe_scan_tracks (safe_reviewedTrack hstop) (fun _ _ _ _ h => reviewedTrack_lt h) _ _

theorem safe_reviewedRecord (hstop : stop ≤ data.length) (policyIndex : ℕ) (policy : Candidate)
    (pos : ℕ) (s : ℕ × Reviewed) : Safe (reviewedRecord data policyIndex policy stop pos s) := by
  unfold reviewedRecord
  refine (safe_expect _).bind fun _ hroom => ?_
  have hroom := le_of_expect_and hroom
  refine (safe_read32 (by omega)).bind fun record hrecord => ?_
  refine (safe_read32 (by omega)).bind fun node hnode => ?_
  refine (safe_expect _).bind fun _ htests => ?_
  obtain ⟨-, -, hsize, hroom, hnodeSize, hnodeRoom⟩ := Record.of_expect hrecord hnode htests
  refine (safe_read32 (by omega)).bind fun _ _ => ?_
  refine Safe.bind (.whenever fun _ => ?_) fun _ _ => safe_ok _
  exact safe_reviewedLight (by omega) (by omega) (by omega) policyIndex _ _ _

theorem reviewedRecord_lt {policyIndex : ℕ} {policy : Candidate} {pos' : ℕ} {s s' : ℕ × Reviewed}
    (h : reviewedRecord data policyIndex policy stop pos s = .ok (pos', s')) : pos < pos' := by
  unfold reviewedRecord at h
  simp only [bind_eq_ok, pure_eq_ok, Prod.mk.injEq] at h
  obtain ⟨-, -, record, hrecord, node, hnode, u, htests, -, -, -, -, rfl, -⟩ := h
  have hsize := (Record.of_expect hrecord hnode htests).size
  omega

theorem add_four_le {bytes : UInt32} {c : Bool} (hbytes : bytes.toNat ≤ data.length - (p + 8))
    (hp : p + 8 ≤ data.length) (h : expect (c && bytes = 4) = .ok u) : p + 8 + 4 ≤ data.length := by
  have hfour := expect_eq_ok.mp h
  rw [Bool.and_eq_true, decide_eq_true_eq] at hfour
  rw [hfour.2] at hbytes
  have hnum : (4 : UInt32).toNat = 4 := rfl
  omega

theorem safe_sourceChunk (hp : p < data.length) (s : Sources) : Safe (sourceChunk data p s) := by
  unfold sourceChunk
  refine (safe_expect _).bind fun _ hroom => ?_
  have hroom := le_of_expect hroom
  refine (safe_read32 (by omega)).bind fun tag _ => ?_
  refine (safe_read32 (by omega)).bind fun bytes _ => ?_
  refine (safe_expect _).bind fun _ hbytes => ?_
  have hbytes := le_of_expect hbytes
  refine Safe.bind (.whenever fun _ => ?_) fun s _ => Safe.bind (.whenever fun _ => ?_) fun s _ =>
    safe_ok _
  · unfold sourceVersion
    refine (safe_expect _).bind fun _ hfour => ?_
    refine (safe_readWord (add_four_le hbytes (by omega) hfour)).bind fun _ _ => ?_
    exact (safe_expect _).bind fun _ _ => safe_ok _
  · unfold sourceLights
    refine (safe_expect _).bind fun _ _ => ?_
    exact safe_scan (I := fun _ _ => True)
      (fun p s _ _ => safe_sourceRecord (by omega) p s)
      (fun p s p' s' _ _ h => ⟨sourceRecord_lt h, trivial⟩) trivial

theorem sourceChunk_lt {p' : ℕ} {s s' : Sources} (h : sourceChunk data p s = .ok (p', s')) :
    p < p' := by
  unfold sourceChunk at h
  simp only [bind_eq_ok, pure_eq_ok, Prod.mk.injEq] at h
  obtain ⟨-, -, -, -, -, -, -, -, -, -, -, -, rfl, -⟩ := h
  omega

theorem safe_reviewedChunk (hpos : pos < data.length) (policyIndex : ℕ) (policy : Candidate)
    (r : Reviewed) : Safe (reviewedChunk data policyIndex policy pos r) := by
  unfold reviewedChunk
  refine (safe_expect _).bind fun _ hroom => ?_
  have hroom := le_of_expect hroom
  refine (safe_read32 (by omega)).bind fun tag _ => ?_
  refine (safe_read32 (by omega)).bind fun bytes _ => ?_
  refine (safe_expect _).bind fun _ hbytes => ?_
  have hbytes := le_of_expect hbytes
  refine Safe.bind (.whenever fun _ => ?_) fun r _ => Safe.bind (.whenever fun _ => ?_) fun r _ =>
    safe_ok _
  · unfold reviewedVersion
    refine (safe_expect _).bind fun _ hfour => ?_
    refine (safe_readWord (add_four_le hbytes (by omega) hfour)).bind fun _ _ => ?_
    exact (safe_expect _).bind fun _ _ => safe_ok _
  · unfold reviewedLights
    refine (safe_expect _).bind fun _ _ => Safe.bind ?_ fun _ _ => safe_ok _
    exact safe_scan (I := fun _ _ => True)
      (fun p s _ _ => safe_reviewedRecord (by omega) policyIndex policy p s)
      (fun p s p' s' _ _ h => ⟨reviewedRecord_lt h, trivial⟩) trivial

theorem reviewedChunk_lt {policyIndex : ℕ} {policy : Candidate} {pos' : ℕ} {r r' : Reviewed}
    (h : reviewedChunk data policyIndex policy pos r = .ok (pos', r')) : pos < pos' := by
  unfold reviewedChunk at h
  simp only [bind_eq_ok, pure_eq_ok, Prod.mk.injEq] at h
  obtain ⟨-, -, -, -, -, -, -, -, -, -, -, -, rfl, -⟩ := h
  omega

theorem safe_decodeModelLightSources (data : Bytes) : Safe (decodeModelLightSources data) := by
  unfold decodeModelLightSources
  refine (safe_expect _).bind fun _ hsize => ?_
  have hsize := expect_eq_ok.mp hsize
  rw [Bool.and_eq_true, decide_eq_true_eq, decide_eq_true_eq] at hsize
  refine (safe_readRange (by omega)).bind fun _ _ => (safe_expect _).bind fun _ _ => ?_
  refine Safe.bind ?_ fun _ _ => (safe_expect _).bind fun _ _ => safe_ok _
  exact safe_scan (I := fun _ _ => True) (fun p s hp _ => safe_sourceChunk hp s)
    (fun p s p' s' _ _ h => ⟨sourceChunk_lt h, trivial⟩) trivial

theorem safe_decodeReviewedSource (data path sha256 : Bytes) :
    Safe (decodeReviewedSource data path sha256) := by
  unfold decodeReviewedSource
  refine Safe.bind ?_ fun policy _ => ?_
  · cases findPolicy data.length path sha256 with
    | none => exact fun h => by cases h
    | some policy => exact safe_ok _
  refine (safe_expect _).bind fun _ hsize => ?_
  have hsize := le_of_expect hsize
  refine (safe_readRange (by omega)).bind fun _ _ => (safe_expect _).bind fun _ _ => ?_
  refine Safe.bind ?_ fun _ _ => (safe_expect _).bind fun _ _ => safe_ok _
  exact safe_scan (I := fun _ _ => True) (fun p r hp _ => safe_reviewedChunk hp _ _ r)
    (fun p r p' r' _ _ h => ⟨reviewedChunk_lt h, trivial⟩) trivial

end War3VK.Model.NativeLight

/-!
## The decoders agree

The loop over the records keeps that the listed lights are eligible and stand in the order of their
records, whose object ids differ (`Listed`).
-/

namespace War3VK.Model.NativeLight

open Lib

variable {data : Bytes} {stop p p' : ℕ} {s s' : Sources}

/-! ### Records -/

def fieldsOf (data : Bytes) (p : ℕ) : ℕ := p + 4 + (getLe UInt32 (p + 4) data).toNat

def omni (data : Bytes) (p : ℕ) : Bool :=
  let start := getLe UInt32 (fieldsOf data p + 4) data
  let range := getLe UInt32 (fieldsOf data p + 8) data
  getLe UInt32 (fieldsOf data p) data = 0 && Binary32.isFinite start && Binary32.isFinite range &&
    Binary32.le 0 start && Binary32.lt start range && Binary32.le range maxRange

def trackSize (data : Bytes) (t : ℕ) : ℕ :=
  let track := getLe UInt32 t data
  trackLength (getLe UInt32 (t + 4) data) (getLe UInt32 (t + 8) data)
    (if track ∈ attenuationTracks then 1 else trackComponents track)

inductive Tracks (data : Bytes) (t : ℕ) : List UInt32 → ℕ → Prop where
  | none : Tracks data t [] t
  | snoc {tags : List UInt32} {t' : ℕ} : Tracks data t tags t' →
      Tracks data t (tags ++ [getLe UInt32 t' data]) (t' + trackSize data t')

/-- A listed light is that of a record: it has no direction, its range is finite and above its start, and
none of its tracks animates the attenuation. -/
structure Eligible (data : Bytes) (p : ℕ) (light : Source) : Prop where
  objectId : getLe UInt32 (p + 88) data = light.objectId
  range : getLe UInt32 (fieldsOf data p + 8) data = light.range
  omni : getLe UInt32 (fieldsOf data p) data = 0
  finite : Binary32.isFinite light.range = true
  start : Binary32.le 0 (getLe UInt32 (fieldsOf data p + 4) data) = true ∧
    Binary32.lt (getLe UInt32 (fieldsOf data p + 4) data) light.range = true
  bounded : Binary32.le light.range maxRange = true
  static : ∃ tags, Tracks data (fieldsOf data p + 44) tags (p + (getLe UInt32 p data).toNat) ∧
    ∀ tag ∈ tags, tag ∉ attenuationTracks

theorem sourceTrack_eq_ok {t t' : ℕ} {eligible eligible' : Bool}
    (h : sourceTrack data stop t eligible = .ok (t', eligible')) :
    t' = t + trackSize data t ∧ t' ≤ stop ∧
      eligible' = if getLe UInt32 t data ∈ attenuationTracks then false else eligible := by
  unfold sourceTrack at h
  simp only [bind_eq_ok, pure_eq_ok, Prod.mk.injEq, readWord_eq_ok] at h
  obtain ⟨_, hroom, track, ⟨-, rfl⟩, n, ⟨-, rfl⟩, interpolation, ⟨-, rfl⟩, -, -, _, hlength, rfl, rfl⟩ := h
  have hroom := le_of_expect hroom
  have hlength := le_of_expect hlength
  exact ⟨rfl, by omega, rfl⟩

theorem reviewedTrack_eq_ok {t t' : ℕ} {u u' : Unit}
    (h : reviewedTrack data stop t u = .ok (t', u')) :
    t' = t + trackSize data t ∧ getLe UInt32 t data ∉ attenuationTracks := by
  unfold reviewedTrack at h
  simp only [bind_eq_ok, pure_eq_ok, Prod.mk.injEq, readWord_eq_ok] at h
  obtain ⟨-, -, track, ⟨-, rfl⟩, n, ⟨-, rfl⟩, interp, ⟨-, rfl⟩, _, hstatic, -, -, -, -, rfl, -⟩ := h
  have hstatic := of_decide_eq_true (expect_eq_ok.mp hstatic)
  exact ⟨by unfold trackSize; dsimp only; rw [if_neg hstatic], hstatic⟩

theorem tracks_of_scan {t : ℕ} {eligible eligible' : Bool} (ht : t ≤ stop)
    (h : scan stop (sourceTrack data stop) t eligible = .ok eligible') :
    ∃ tags, Tracks data t tags stop ∧
      (eligible' = true → eligible = true ∧ ∀ tag ∈ tags, tag ∉ attenuationTracks) := by
  obtain ⟨t', hstop, hle, tags, htracks, heligible⟩ := scan_invariant
    (I := fun t' e => t' ≤ stop ∧ ∃ tags, Tracks data t tags t' ∧
      (e = true → eligible = true ∧ ∀ tag ∈ tags, tag ∉ attenuationTracks))
    (fun t' e t'' e' _ ⟨_, tags, htracks, htags⟩ hstep => by
      obtain ⟨rfl, hle, rfl⟩ := sourceTrack_eq_ok hstep
      refine ⟨hle, _, .snoc htracks, fun he => ?_⟩
      split at he
      · cases he
      · rename_i hstatic
        refine ⟨(htags he).1, fun tag htag => ?_⟩
        obtain htag | htag := List.mem_append.mp htag
        · exact (htags he).2 tag htag
        · rwa [List.mem_singleton.mp htag])
    ⟨ht, [], .none, fun he => ⟨he, fun tag htag => by cases htag⟩⟩ h
  obtain rfl := Nat.le_antisymm hle hstop
  exact ⟨tags, htracks, heligible⟩

structure SourceStep (data : Bytes) (p : ℕ) (s : Sources) (p' : ℕ) (s' : Sources) : Prop where
  next : p' = p + (getLe UInt32 p data).toNat
  fields : fieldsOf data p + 44 ≤ p'
  fresh : getLe UInt32 (p + 88) data ∉ s.ids
  result : ∃ eligible, scan p' (sourceTrack data p') (fieldsOf data p + 44) (omni data p) =
      .ok eligible ∧
    s' = { s with
      ids := s.ids ++ [getLe UInt32 (p + 88) data]
      lights := if eligible then
          s.lights ++ [{ objectId := getLe UInt32 (p + 88) data
                         ordinal := s.ids.length
                         range := getLe UInt32 (fieldsOf data p + 8) data }]
        else s.lights }

theorem sourceRecord_eq_ok (h : sourceRecord data stop p s = .ok (p', s')) :
    SourceStep data p s p' s' := by
  unfold sourceRecord at h
  simp only [bind_eq_ok, pure_eq_ok, Prod.mk.injEq] at h
  obtain ⟨-, -, record, hrecord, node, hnode, u, htests, id, hid, -, -, _, hfresh, start, hstart,
    range, hrange, kind, hkind, eligible, hscan, rfl, rfl⟩ := h
  have hlayout := Record.of_expect hrecord hnode htests
  obtain ⟨-, rfl⟩ := readWord_eq_ok.mp hrecord
  obtain ⟨-, rfl⟩ := readWord_eq_ok.mp hnode
  obtain ⟨-, rfl⟩ := readWord_eq_ok.mp hid
  obtain ⟨-, rfl⟩ := readWord_eq_ok.mp hstart
  obtain ⟨-, rfl⟩ := readWord_eq_ok.mp hrange
  obtain ⟨-, rfl⟩ := readWord_eq_ok.mp hkind
  refine ⟨rfl, ?_, of_decide_eq_true (expect_eq_ok.mp hfresh), eligible, hscan, rfl⟩
  have hsize := hlayout.size
  have hnodeRoom := hlayout.nodeRoom
  unfold fieldsOf
  omega

/-! ### What is listed -/

/-- The listed lights are eligible, and they stand in the order of their records, whose ids differ. -/
structure Listed (data : Bytes) (s : Sources) : Prop where
  nodup : s.ids.Nodup
  light : ∀ light ∈ s.lights, s.ids[light.ordinal]? = some light.objectId ∧
    ∃ p, Eligible data p light
  ordered : s.lights.Pairwise fun a b => a.ordinal < b.ordinal

theorem Listed.record (h : Listed data s) (hstep : SourceStep data p s p' s') : Listed data s' := by
  obtain ⟨eligible, hscan, hs'⟩ := hstep.result
  have hkept : ∀ light ∈ s.lights, (s.ids ++ [getLe UInt32 (p + 88) data])[light.ordinal]? =
      some light.objectId ∧ ∃ p, Eligible data p light := fun light hlight => by
    obtain ⟨hid, heligible⟩ := h.light light hlight
    exact ⟨List.getElem?_append_left (List.getElem?_eq_some_iff.mp hid).1 ▸ hid, heligible⟩
  have hnodup : (s.ids ++ [getLe UInt32 (p + 88) data]).Nodup :=
    List.nodup_append.mpr ⟨h.nodup, List.pairwise_singleton _ _, fun a ha b hb => by
      rw [List.mem_singleton.mp hb]
      exact fun heq => hstep.fresh (heq ▸ ha)⟩
  subst hs'
  cases eligible with
  | false => exact ⟨hnodup, hkept, h.ordered⟩
  | true =>
    obtain ⟨tags, htracks, hstatic⟩ := tracks_of_scan hstep.fields hscan
    obtain ⟨homni, hstatic⟩ := hstatic rfl
    unfold omni at homni
    simp only [Bool.and_eq_true, decide_eq_true_eq] at homni
    obtain ⟨⟨⟨⟨⟨hkind, hstart⟩, hrange⟩, hnonneg⟩, hlt⟩, hle⟩ := homni
    refine ⟨hnodup, fun light hlight => ?_, ?_⟩
    · obtain hlight | hlight := List.mem_append.mp hlight
      · exact hkept light hlight
      · obtain rfl := List.mem_singleton.mp hlight
        refine ⟨List.getElem?_concat_length, p, ?_⟩
        exact
          { objectId := rfl
            range := rfl
            omni := hkind
            finite := hrange
            start := ⟨hnonneg, hlt⟩
            bounded := hle
            static := ⟨tags, hstep.next ▸ htracks, hstatic⟩ }
    · refine List.pairwise_append.mpr ⟨h.ordered, List.pairwise_singleton _ _, fun a ha b hb => ?_⟩
      rw [List.mem_singleton.mp hb]
      exact (List.getElem?_eq_some_iff.mp (h.light a ha).1).1

theorem Listed.chunk (h : Listed data s) (hchunk : sourceChunk data p s = .ok (p', s')) :
    Listed data s' := by
  unfold sourceChunk at hchunk
  simp only [bind_eq_ok, pure_eq_ok, Prod.mk.injEq, whenever_eq_ok] at hchunk
  obtain ⟨-, -, tag, -, bytes, -, -, -, s₁, hversion, s₂, hlights, -, rfl⟩ := hchunk
  have h₁ : Listed data s₁ := by
    obtain ⟨-, hversion⟩ | ⟨-, rfl⟩ := hversion
    · unfold sourceVersion at hversion
      simp only [bind_eq_ok, pure_eq_ok] at hversion
      obtain ⟨-, -, -, -, -, -, rfl⟩ := hversion
      exact ⟨h.nodup, h.light, h.ordered⟩
    · exact h
  obtain ⟨-, hlights⟩ | ⟨-, rfl⟩ := hlights
  · unfold sourceLights at hlights
    obtain ⟨-, -, hscan⟩ := bind_eq_ok.mp hlights
    have h₂ : Listed data { s₁ with lite := true } := ⟨h₁.nodup, h₁.light, h₁.ordered⟩
    obtain ⟨_, -, hlisted⟩ := scan_invariant (I := fun _ s => Listed data s)
      (fun _ _ _ _ _ hs hstep => hs.record (sourceRecord_eq_ok hstep)) h₂ hscan
    exact hlisted
  · exact h₁

/-! ### Agreement -/

structure ReviewedStep (data : Bytes) (policyIndex p ordinal : ℕ) (r : Reviewed) (p' ordinal' : ℕ)
    (r' : Reviewed) : Prop where
  next : p' = p + (getLe UInt32 p data).toNat
  counted : ordinal' = ordinal + 1
  /-- The light is found when it has no direction and no track animates its attenuation. -/
  result : r' = r ∨ (omni data p = true ∧
    scan p' (reviewedTrack data p') (fieldsOf data p + 44) () = .ok () ∧
    r' = { r with
      found := true
      out := { policyIndex := some policyIndex
               objectId := getLe UInt32 (p + 88) data
               ordinal := ordinal
               range := getLe UInt32 (fieldsOf data p + 8) data } })

variable {policyIndex : ℕ} {policy : Candidate} {r r' : Reviewed}

theorem reviewedRecord_eq_ok {ordinal ordinal' : ℕ}
    (h : reviewedRecord data policyIndex policy stop p (ordinal, r) = .ok (p', ordinal', r')) :
    ReviewedStep data policyIndex p ordinal r p' ordinal' r' := by
  unfold reviewedRecord at h
  simp only [bind_eq_ok, pure_eq_ok, Prod.mk.injEq, readWord_eq_ok, whenever_eq_ok] at h
  obtain ⟨-, -, record, ⟨-, rfl⟩, node, ⟨-, rfl⟩, -, -, id, ⟨-, rfl⟩, r₁, hlight, rfl, rfl, rfl⟩ := h
  refine ⟨rfl, rfl, ?_⟩
  obtain ⟨-, hlight⟩ | ⟨-, rfl⟩ := hlight
  · right
    unfold reviewedLight at hlight
    simp only [bind_eq_ok, pure_eq_ok, readWord_eq_ok] at hlight
    obtain ⟨-, -, kind, ⟨-, rfl⟩, parent, -, _, hkind, start, ⟨-, rfl⟩, range, ⟨-, rfl⟩, _, htests,
      u, hscan, rfl⟩ := hlight
    have hkind := expect_eq_ok.mp hkind
    have htests := expect_eq_ok.mp htests
    simp only [Bool.and_eq_true] at hkind htests
    obtain ⟨⟨⟨⟨hstart, hrange⟩, hnonneg⟩, hlt⟩, hle⟩ := htests
    have hstartNaN := Binary32.isNaN_of_isFinite hstart
    have hrangeNaN := Binary32.isNaN_of_isFinite hrange
    rw [Binary32.lt_eq_not_le hstartNaN (by decide), Bool.not_not] at hnonneg
    rw [← Binary32.lt_eq_not_le hstartNaN hrangeNaN] at hlt
    rw [Binary32.lt_eq_not_le (by decide) hrangeNaN, Bool.not_not] at hle
    refine ⟨?_, hscan, rfl⟩
    unfold omni
    simp only [Bool.and_eq_true]
    exact ⟨⟨⟨⟨⟨hkind.1, hstart⟩, hrange⟩, hnonneg⟩, hlt⟩, hle⟩
  · exact .inl rfl

def Agrees (s : Sources) (r : Reviewed) : Prop :=
  r.found = true → ∃ light ∈ s.lights, light.objectId = r.out.objectId ∧
    light.ordinal = r.out.ordinal ∧ light.range = r.out.range

theorem Agrees.record {ordinal q' ordinal' : ℕ} (h : Agrees s r) (hcount : s.ids.length = ordinal)
    (hsource : SourceStep data p s p' s')
    (hreviewed : ReviewedStep data policyIndex p ordinal r q' ordinal' r') :
    p' = q' ∧ s'.ids.length = ordinal' ∧ Agrees s' r' := by
  have hsame : p' = q' := hsource.next.trans hreviewed.next.symm
  obtain ⟨eligible, hscan, rfl⟩ := hsource.result
  refine ⟨hsame, ?_, ?_⟩
  · rw [hreviewed.counted, ← hcount]
    exact List.length_append
  obtain rfl | ⟨homni, hscan', rfl⟩ := hreviewed.result
  · intro hfound
    obtain ⟨light, hlight, hlight'⟩ := h hfound
    refine ⟨light, ?_, hlight'⟩
    dsimp only
    split
    · exact List.mem_append_left _ hlight
    · exact hlight
  · -- The tracks of the found light are walked over twice, and none animates the attenuation.
    rw [← hsame] at hscan'
    obtain ⟨_, -, heligible⟩ := scan_related (R := fun _ e _ => e = omni data p)
      (fun t e _ t' e' q' _ _ he hstep hstep' => by
        obtain ⟨rfl, -, rfl⟩ := sourceTrack_eq_ok hstep
        obtain ⟨rfl, hstatic⟩ := reviewedTrack_eq_ok hstep'
        exact ⟨rfl, by rw [if_neg hstatic, he]⟩) rfl hscan hscan'
    rw [heligible, homni]
    intro _
    exact ⟨_, List.mem_append_right _ (List.mem_singleton_self _), rfl, hcount, rfl⟩

structure Alike (s : Sources) (r : Reviewed) : Prop where
  lite : s.lite = r.hasLite
  fresh : s.lite = false → s.ids = [] ∧ r.found = false
  agrees : Agrees s r
  count : r.found = true → r.out.count = s.ids.length

theorem Alike.version {bytes : UInt32} (h : Alike s r)
    (hsource : sourceVersion data p bytes s = .ok s')
    (hreviewed : reviewedVersion data p bytes r = .ok r') : Alike s' r' := by
  unfold sourceVersion at hsource
  unfold reviewedVersion at hreviewed
  simp only [bind_eq_ok, pure_eq_ok] at hsource hreviewed
  obtain ⟨-, -, -, -, -, -, rfl⟩ := hsource
  obtain ⟨-, -, -, -, -, -, rfl⟩ := hreviewed
  exact ⟨h.lite, h.fresh, h.agrees, h.count⟩

theorem Alike.lights (h : Alike s r) (hsource : sourceLights data stop p s = .ok s')
    (hreviewed : reviewedLights data policyIndex policy stop p r = .ok r') : Alike s' r' := by
  unfold sourceLights at hsource
  unfold reviewedLights at hreviewed
  simp only [bind_eq_ok, pure_eq_ok] at hsource hreviewed
  obtain ⟨_, hlite, hscan⟩ := hsource
  obtain ⟨-, -, ⟨ordinal, r₁⟩, hscan', rfl⟩ := hreviewed
  have hlite : s.lite = false := by simpa using expect_eq_ok.mp hlite
  obtain ⟨hids, hfound⟩ := h.fresh hlite
  have hstart : Agrees { s with lite := true } { r with hasLite := true } := fun hfound' => by
    rw [hfound] at hfound'
    cases hfound'
  have hflags {p p' : ℕ} {s s' : Sources} (hstep : SourceStep data p s p' s') :
      s'.lite = s.lite := by
    obtain ⟨_, -, rfl⟩ := hstep.result
    rfl
  have hflags' {p p' o o' : ℕ} {r r' : Reviewed}
      (hstep : ReviewedStep data policyIndex p o r p' o' r') : r'.hasLite = r.hasLite := by
    obtain rfl | ⟨-, -, rfl⟩ := hstep.result <;> rfl
  obtain ⟨_, -, hcount, hlite', hlite'', hagrees⟩ := scan_related
    (R := fun _ (s : Sources) (t : ℕ × Reviewed) => s.ids.length = t.1 ∧ s.lite = true ∧
      t.2.hasLite = true ∧ Agrees s t.2)
    (fun p s t p' s' q' t' _ ⟨hcount, hl, hl', hagrees⟩ hstep hstep' => by
      have hsource := sourceRecord_eq_ok hstep
      have hreviewed : ReviewedStep data policyIndex p t.1 t.2 q' t'.1 t'.2 :=
        reviewedRecord_eq_ok hstep'
      obtain ⟨hsame, hcount', hagrees'⟩ := hagrees.record hcount hsource hreviewed
      exact ⟨hsame, hcount', (hflags hsource).trans hl, (hflags' hreviewed).trans hl', hagrees'⟩)
    (p := p) ⟨by rw [hids]; rfl, rfl, rfl, hstart⟩ hscan hscan'
  refine ⟨hlite'.trans hlite''.symm, fun hnot => ?_, hagrees, fun _ => hcount.symm⟩
  rw [hlite'] at hnot
  cases hnot

theorem Alike.chunk {q' : ℕ} (h : Alike s r) (hsource : sourceChunk data p s = .ok (p', s'))
    (hreviewed : reviewedChunk data policyIndex policy p r = .ok (q', r')) :
    p' = q' ∧ Alike s' r' := by
  unfold sourceChunk at hsource
  unfold reviewedChunk at hreviewed
  simp only [bind_eq_ok, pure_eq_ok, Prod.mk.injEq, readWord_eq_ok, whenever_eq_ok] at hsource hreviewed
  obtain ⟨-, -, tag, ⟨-, rfl⟩, bytes, ⟨-, rfl⟩, -, -, s₁, hversion, s₂, hlights, rfl, rfl⟩ := hsource
  obtain ⟨-, -, tag', ⟨-, rfl⟩, bytes', ⟨-, rfl⟩, -, -, r₁, hversion', r₂, hlights', rfl, rfl⟩ :=
    hreviewed
  refine ⟨rfl, ?_⟩
  have h₁ : Alike s₁ r₁ := by
    obtain ⟨htag, hversion⟩ | ⟨htag, rfl⟩ := hversion
    · obtain ⟨-, hversion'⟩ | ⟨htag', -⟩ := hversion'
      · exact h.version hversion hversion'
      · exact absurd htag htag'
    · obtain ⟨htag', -⟩ | ⟨-, rfl⟩ := hversion'
      · exact absurd htag' htag
      · exact h
  obtain ⟨htag, hlights⟩ | ⟨htag, rfl⟩ := hlights
  · obtain ⟨-, hlights'⟩ | ⟨htag', -⟩ := hlights'
    · exact h₁.lights hlights hlights'
    · exact absurd htag htag'
  · obtain ⟨htag', -⟩ | ⟨-, rfl⟩ := hlights'
    · exact absurd htag' htag
    · exact h₁

structure Catalogue (data : Bytes) (sources : List Source) : Prop where
  objectIds : sources.Pairwise fun a b => a.objectId ≠ b.objectId
  ordinals : sources.Pairwise fun a b => a.ordinal < b.ordinal
  /-- They are below the count, which is at most 16. -/
  counts : ∃ count, ∀ source ∈ sources, source.count = count ∧ source.ordinal < count
  eligible : ∀ source ∈ sources, ∃ p, Eligible data p source

theorem exists_of_decode {sources : List Source} (h : decodeModelLightSources data = .ok sources) :
    ∃ s, scan data.length (sourceChunk data) 4 {} = .ok s ∧
      sources = s.lights.map fun light => { light with count := s.ids.length } := by
  unfold decodeModelLightSources at h
  simp only [bind_eq_ok, pure_eq_ok] at h
  obtain ⟨-, -, -, -, -, -, s, hscan, -, -, rfl⟩ := h
  exact ⟨s, hscan, rfl⟩

theorem catalogue_of_decode {sources : List Source}
    (h : decodeModelLightSources data = .ok sources) : Catalogue data sources := by
  obtain ⟨s, hscan, rfl⟩ := exists_of_decode h
  have hfresh : Listed data {} :=
    ⟨List.nodup_nil, fun light hlight => (by cases hlight), List.Pairwise.nil⟩
  obtain ⟨_, -, hlisted⟩ := scan_invariant (I := fun _ s => Listed data s)
    (fun _ _ _ _ _ hs hstep => hs.chunk hstep) hfresh hscan
  have hordinals := hlisted.ordered
  refine ⟨List.pairwise_map.mpr ?_, List.pairwise_map.mpr hordinals, ⟨s.ids.length, ?_⟩, ?_⟩
  · refine hordinals.imp_of_mem fun ha hb hlt heq => ?_
    have hida := (hlisted.light _ ha).1
    have hidb := (hlisted.light _ hb).1
    obtain ⟨hra, hia⟩ := List.getElem?_eq_some_iff.mp hida
    obtain ⟨hrb, hib⟩ := List.getElem?_eq_some_iff.mp hidb
    exact hlt.ne ((List.getElem_inj hlisted.nodup).mp
      (hia.trans (heq.trans hib.symm)))
  · intro source hsource
    obtain ⟨light, hlight, rfl⟩ := List.mem_map.mp hsource
    exact ⟨rfl, (List.getElem?_eq_some_iff.mp (hlisted.light light hlight).1).1⟩
  · intro source hsource
    obtain ⟨light, hlight, rfl⟩ := List.mem_map.mp hsource
    obtain ⟨p, heligible⟩ := (hlisted.light light hlight).2
    exact ⟨p, heligible.objectId, heligible.range, heligible.omni, heligible.finite,
      heligible.start, heligible.bounded, heligible.static⟩

def sampleModel : Bytes :=
  magic ++ putLe tagVersion ++ putLe (4 : UInt32) ++ putLe (800 : UInt32) ++ putLe tagLite ++
    putLe (144 : UInt32) ++ putLe (144 : UInt32) ++ putLe (96 : UInt32) ++ List.replicate 80 0 ++
    putLe (7 : UInt32) ++ List.replicate 8 0 ++ putLe (0 : UInt32) ++ putLe (0 : UInt32) ++
    putLe maxRange ++ List.replicate 32 0

example : (decodeModelLightSources sampleModel).toOption =
    some [{ objectId := 7, ordinal := 0, count := 1, range := maxRange }] := by
  decide +kernel

/-- On all data the decoders end and read inside, the sources of a model are a catalogue, and where both
decoders accept, the reviewed source is one of them. -/
theorem decoders_safe_and_agree (data path sha256 : Bytes) :
    (Safe (decodeModelLightSources data) ∧ Safe (decodeReviewedSource data path sha256)) ∧
      (∀ sources, decodeModelLightSources data = .ok sources → Catalogue data sources) ∧
      ∀ sources source, decodeModelLightSources data = .ok sources →
        decodeReviewedSource data path sha256 = .ok source →
        ∃ listed ∈ sources, listed.objectId = source.objectId ∧ listed.ordinal = source.ordinal ∧
          listed.count = source.count ∧ listed.range = source.range := by
  refine ⟨⟨safe_decodeModelLightSources data, safe_decodeReviewedSource data path sha256⟩,
    fun _ h => catalogue_of_decode h, fun sources source hsources hsource => ?_⟩
  obtain ⟨s, hscan, rfl⟩ := exists_of_decode hsources
  unfold decodeReviewedSource at hsource
  simp only [bind_eq_ok, pure_eq_ok] at hsource
  obtain ⟨⟨policyIndex, policy⟩, -, -, -, -, -, -, -, r, hscan', _, htests, rfl⟩ := hsource
  have htests := expect_eq_ok.mp htests
  simp only [Bool.and_eq_true] at htests
  have hfound := htests.1.1.2
  dsimp only at hscan'
  have hfresh : Alike {} {} :=
    ⟨rfl, fun _ => ⟨rfl, rfl⟩, fun h => (by cases h), fun h => (by cases h)⟩
  obtain ⟨_, -, halike⟩ := scan_related (R := fun _ s r => Alike s r)
    (fun p _ r _ _ q' r' _ h hstep
      (hstep' : reviewedChunk data policyIndex policy p r = .ok (q', r')) => h.chunk hstep hstep')
    hfresh hscan hscan'
  obtain ⟨light, hlight, hid, hordinal, hrange⟩ := halike.agrees hfound
  exact ⟨_, List.mem_map_of_mem hlight, hid, hordinal, (halike.count hfound).symm, hrange⟩

end War3VK.Model.NativeLight
