import War3VK.GpuSkin.ObserveOwner
import War3VK.GpuSkin.PackageUploads
import War3VK.GpuSkin.PackageReadiness

/-!
# What one call of the owner does

What frames and observations do is `Framed`: the store makes calls of its own, the epochs may change,
and the open submission is left alone. Taking a submission is inverted by `TakeSpec`, and the uploads
that are ready always pass the checks of `takeSubmission` (`submissionBytes_of_waiting`).
-/

namespace War3VK.GpuSkin

open War3VK.Lib Relation

def StoreRuns (cfg : StoreSetup) : PackageStore → PackageStore → Prop :=
  ReflTransGen fun s s' => ∃ call : StoreCall, call.handlesUploads = false ∧
    s' = (storeStep cfg call s).2

theorem StoreRuns.single {cfg : StoreSetup} {s : PackageStore} (call : StoreCall)
    (hcall : call.handlesUploads = false) : StoreRuns cfg s (storeStep cfg call s).2 :=
  ReflTransGen.single ⟨call, hcall, rfl⟩

variable {opened : List GpuSkinStaticUpload}

theorem StoreRuns.waiting {cfg : StoreSetup} {s s' : PackageStore} (hruns : StoreRuns cfg s s')
    (h : PackageStore.Waiting cfg s opened) : PackageStore.Waiting cfg s' opened := by
  induction hruns with
  | refl => exact h
  | tail _ hcall ih =>
    obtain ⟨call, hcall, rfl⟩ := hcall
    exact ih.step call hcall

def StoreCall.entersEpochs : StoreCall → Bool
  | .beginFrame _ _ _ => true
  | call => call.clears

namespace PackageStore

variable {cfg : StoreSetup} {s s' : PackageStore} {call : StoreCall}

def SameEpochs (s s' : PackageStore) : Prop :=
  s'.mapEpoch = s.mapEpoch ∧ s'.deviceEpoch = s.deviceEpoch

theorem TurnSpec.sameEpochs {miss : QueuedStaticMiss} (h : TurnSpec cfg s miss s') :
    SameEpochs s s' := by
  cases h with
  | skipped => exact ⟨rfl, rfl⟩
  | threw _ hground => exact ⟨hground.sameDirectory.mapEpoch, hground.sameDirectory.deviceEpoch⟩
  | refused _ hground => exact ⟨hground.sameDirectory.mapEpoch, hground.sameDirectory.deviceEpoch⟩
  | created _ hcreated =>
    exact ⟨hcreated.sameDirectory.mapEpoch, hcreated.sameDirectory.deviceEpoch⟩

theorem Move.sameEpochs (hmove : Move cfg call s s') (hcall : call.entersEpochs = false) :
    SameEpochs s s' := by
  cases hmove with
  | epochs _ _ => cases hcall
  | cleared _ _ _ _ hclears => cases call <;> cases hclears <;> cases hcall
  | looked _ _ _ => exact ⟨rfl, rfl⟩
  | turned _ hturn => exact hturn.sameEpochs
  | taken => exact ⟨rfl, rfl⟩
  | retired _ _ =>
    rw [commitRetirements_state]
    exact ⟨rfl, rfl⟩
  | completed _ _ hspec => cases hspec <;> exact ⟨rfl, rfl⟩
  | forgotten _ => exact ⟨rfl, rfl⟩

theorem storeStep_sameEpochs (cfg : StoreSetup) (call : StoreCall) (s : PackageStore)
    (hcall : call.entersEpochs = false) : SameEpochs s (storeStep cfg call s).2 := by
  have hmoves := @storeStep_moves cfg call s
  generalize (storeStep cfg call s).2 = s' at hmoves ⊢
  induction hmoves with
  | refl => exact ⟨rfl, rfl⟩
  | tail _ hmove ih =>
    have hlast := hmove.sameEpochs hcall
    exact ⟨hlast.1.trans ih.1, hlast.2.trans ih.2⟩

theorem Waiting.live (h : Waiting cfg s opened) {upload : GpuSkinStaticUpload} {object : ℕ}
    (hawaited : AwaitedAt s upload object) :
    Live s object ∧ (s.spanAt object).upper - (s.spanAt object).lower = upload.byteCount := by
  obtain ⟨hheld, resource, hresource, hstate, rfl⟩ := hawaited
  have hshape := h.shapes _ _ hresource hstate
  obtain ⟨frozen, hfrozen, -⟩ := hshape.checks
  obtain ⟨staging, census, -, -, hupload⟩ := hshape.upload
  refine ⟨⟨hheld, resource, hresource, by rw [hfrozen]; rfl⟩, ?_⟩
  rw [spanAt_eq hresource, hupload, BufferSlice.span, hshape.length]
  exact Nat.add_sub_cancel_left _ _

theorem Waiting.ready_bytes (h : Waiting cfg s opened) :
    (s.readyStaticUploads.map GpuSkinStaticUpload.byteCount).sum < 2^64 := by
  obtain ⟨objects, hsorted, hforall⟩ := h.ready
  have hlive : ∀ object ∈ objects, Live s object := by
    intro object hobject
    obtain ⟨upload, -, hupload⟩ := exists_partner hforall.flip hobject
    exact (h.live hupload).1
  have hbytes : s.readyStaticUploads.map GpuSkinStaticUpload.byteCount =
      objects.map fun object => (s.spanAt object).upper - (s.spanAt object).lower := by
    generalize s.readyStaticUploads = ready at hforall
    clear hlive hsorted
    induction hforall with
    | nil => rfl
    | cons hupload _ ih => rw [List.map_cons, List.map_cons, ih, (h.live hupload).2]
  have hsum := h.atlas.stacked.sum_le hsorted hlive 0 (Nat.zero_le _) fun _ _ => Nat.zero_le _
  have hlow := h.low
  rw [hbytes]
  omega

theorem hasSliceContract_source {staging : Buffer} {bytes : ℕ} (hbytes : 0 < bytes)
    (hinfo : staging.info = staticUploadBufferInfo bytes) :
    hasSliceContract ⟨some staging, 0, bytes⟩ [.transferSrc] [.transfer] [.transferRead] = true := by
  simp only [hasSliceContract, hinfo, staticUploadBufferInfo, BufferInfo.allows, Bool.and_eq_true,
    decide_eq_true_eq]
  refine ⟨⟨⟨hbytes.ne', by decide⟩, Nat.zero_le _⟩, ?_⟩
  exact Nat.le_refl _

theorem PendingShape.hasSliceContract_destination {resource : GpuSkinStaticResource}
    (h : PendingShape cfg s resource) :
    hasSliceContract resource.packageSlice [.transferDst] [.transfer] [.transferWrite] = true := by
  obtain ⟨buffer, hbuffer, hoffset, hlength, hallows⟩ := h.place
  have hproper : resource.packageSlice.length ≠ 0 := h.length ▸ h.proper.ne'
  simp only [BufferInfo.allows, List.all_cons, List.all_nil, Bool.and_true, Bool.and_eq_true] at hallows
  simp only [hasSliceContract, hbuffer, BufferInfo.allows, List.all_cons, List.all_nil,
    Bool.and_true, Bool.and_eq_true, decide_eq_true_eq]
  exact ⟨⟨⟨hproper, ⟨hallows.1.1.2.2.2, hallows.1.2.2.2.2⟩, hallows.2.2.2.2⟩, hoffset⟩, hlength⟩

theorem PendingShape.source_ne {resource : GpuSkinStaticResource} (h : PendingShape cfg s resource)
    {staging : Buffer} {bytes : ℕ} (hinfo : staging.info = staticUploadBufferInfo bytes) :
    some staging ≠ resource.packageSlice.buffer := by
  obtain ⟨buffer, hbuffer, -, -, hallows⟩ := h.place
  rw [hbuffer]
  intro heq
  rw [← Option.some.inj heq, hinfo] at hallows
  simp [BufferInfo.allows, staticUploadBufferInfo] at hallows

theorem Waiting.validObserveUpload (h : Waiting cfg s opened) {upload : GpuSkinStaticUpload}
    (hawaited : Awaited s upload) : validObserveUpload upload s.mapEpoch s.deviceEpoch = true := by
  obtain ⟨object, ⟨entry, hentry, rfl⟩, resource, hresource, hstate, rfl⟩ := hawaited
  have hshape := h.shapes _ _ hresource hstate
  obtain ⟨other, hother, hkey⟩ := h.directory.refs entry hentry
  rw [hresource, Option.some.injEq] at hother
  obtain ⟨hmap, hdevice, -, -⟩ := h.directory.current entry hentry
  rw [← hkey, ← hother] at hmap hdevice
  obtain ⟨hreserved, hgeoset, hcontent, hmodel, hlayout⟩ := hshape.keyed
  obtain ⟨staging, census, -, hinfo, hupload⟩ := hshape.upload
  have hsource := hasSliceContract_source hshape.proper hinfo
  have hdestination := hshape.hasSliceContract_destination
  have hne := hshape.source_ne hinfo
  have hproper := hshape.proper.ne'
  simp [GpuSkin.validObserveUpload, hupload, hmap, hdevice, hreserved, hgeoset, hcontent, hmodel,
    hlayout, hsource, hdestination, hne, hproper, hshape.length]

end PackageStore

theorem submissionBytes_eq {mapEpoch deviceEpoch : UInt64}
    {uploads earlier : List GpuSkinStaticUpload} {byteCount : ℕ}
    (hvalid : ∀ upload ∈ uploads, validObserveUpload upload mapEpoch deviceEpoch = true)
    (hkeys : ((earlier ++ uploads).map GpuSkinStaticUpload.key).Nodup)
    (hbytes : byteCount + (uploads.map GpuSkinStaticUpload.byteCount).sum < 2^64) :
    submissionBytes mapEpoch deviceEpoch earlier uploads byteCount =
      some (byteCount + (uploads.map GpuSkinStaticUpload.byteCount).sum) := by
  induction uploads generalizing earlier byteCount with
  | nil => rfl
  | cons upload uploads ih =>
    rw [List.forall_mem_cons] at hvalid
    rw [List.map_cons, List.sum_cons] at hbytes ⊢
    have hdistinct : earlier.any (·.key = upload.key) = false := by
      rw [List.any_eq_false]
      intro other hother hkey
      rw [List.map_append, List.nodup_append] at hkeys
      exact hkeys.2.2 _ (List.mem_map_of_mem hother) upload.key (by simp) (by simpa using hkey)
    have hcount : ¬upload.byteCount > 2^64 - 1 - byteCount := by omega
    have hrest := @ih (earlier ++ [upload]) (byteCount + upload.byteCount) hvalid.2
      (by simpa using hkeys) (by omega)
    rw [submissionBytes, hvalid.1, hdistinct, if_neg (by simpa using hcount),
      if_neg Bool.false_ne_true, hrest, Nat.add_assoc]

theorem submissionBytes_of_waiting {cfg : StoreSetup} {s : PackageStore}
    (h : PackageStore.Waiting cfg s opened) :
    submissionBytes s.mapEpoch s.deviceEpoch [] s.readyStaticUploads 0 =
      some (s.readyStaticUploads.map GpuSkinStaticUpload.byteCount).sum := by
  have hbytes := h.ready_bytes
  have hcount := @submissionBytes_eq s.mapEpoch s.deviceEpoch s.readyStaticUploads [] 0
    (fun upload hupload => h.validObserveUpload (h.ready_awaited hupload)) h.ready_keys (by omega)
  rw [hcount, Nat.zero_add]

namespace ObserveOwner

variable {cfg : OwnerSetup} {s s' s'' : ObserveOwner}

structure Agrees (s : ObserveOwner) : Prop where
  mapEpoch : s.mapEpoch = 0 ∨ s.store.mapEpoch = s.mapEpoch
  deviceEpoch : s.store.deviceEpoch = s.deviceEpoch

/-! ## Frames -/

structure Framed (cfg : OwnerSetup) (s s' : ObserveOwner) : Prop where
  /-- The submission, its numbers and the owner's life are left alone. -/
  state : s' = { s with
    store := s'.store
    mapEpoch := s'.mapEpoch
    deviceEpoch := s'.deviceEpoch
    frameSerial := s'.frameSerial
    preparedThisFrame := s'.preparedThisFrame }
  store : StoreRuns cfg.store s.store s'.store
  /-- The epochs stay the same as those of the store. -/
  agrees : Agrees s → Agrees s'

theorem Framed.refl : Framed cfg s s := ⟨rfl, ReflTransGen.refl, id⟩

theorem Framed.trans (h : Framed cfg s s') (h' : Framed cfg s' s'') : Framed cfg s s'' where
  state := by
    rw [h'.state, h.state]
  store := ReflTransGen.trans h.store h'.store
  agrees := h'.agrees ∘ h.agrees

theorem Framed.openSubmission (h : Framed cfg s s') : s'.openSubmission = s.openSubmission := by
  rw [h.state]

theorem Framed.alive (h : Framed cfg s s') : s'.alive = s.alive := by
  rw [h.state]

structure InFrame (cfg : OwnerSetup) (s s' : ObserveOwner) : Prop extends Framed cfg s s' where
  mapEpoch : s'.mapEpoch = s.mapEpoch
  deviceEpoch : s'.deviceEpoch = s.deviceEpoch

theorem InFrame.refl : InFrame cfg s s := ⟨.refl, rfl, rfl⟩

theorem InFrame.trans (h : InFrame cfg s s') (h' : InFrame cfg s' s'') : InFrame cfg s s'' :=
  ⟨h.toFramed.trans h'.toFramed, h'.mapEpoch.trans h.mapEpoch, h'.deviceEpoch.trans h.deviceEpoch⟩

theorem InFrame.call (call : StoreCall) (hcall : call.handlesUploads = false)
    (hepochs : call.entersEpochs = false) (prepared : ℕ) : InFrame cfg s { s with
      store := (storeStep cfg.store call s.store).2, preparedThisFrame := prepared } where
  state := rfl
  store := .single call hcall
  agrees h :=
    have hsame := PackageStore.storeStep_sameEpochs _ call s.store hepochs
    ⟨h.mapEpoch.imp_right hsame.1.trans, hsame.2.trans h.deviceEpoch⟩
  mapEpoch := rfl
  deviceEpoch := rfl

theorem pollProducerCompletions_inFrame (getFenceValue : ℕ → ℕ → UInt64) :
    InFrame cfg s (s.pollProducerCompletions cfg getFenceValue) := by
  unfold pollProducerCompletions
  split
  · exact .call (.pollRetired getFenceValue) rfl rfl s.preparedThisFrame
  · exact .refl

theorem enterDevice_framed (deviceEpoch : UInt64) : Framed cfg s (s.enterDevice cfg deviceEpoch) := by
  unfold enterDevice
  split
  · exact ⟨rfl, .single (.invalidateDevice true deviceEpoch (alignment cfg)) rfl,
      fun _ => ⟨Or.inl rfl, rfl⟩⟩
  · exact .refl

theorem enterMap_framed (mapEpoch : UInt64) : Framed cfg s (s.enterMap mapEpoch) := by
  unfold enterMap
  split
  · exact ⟨rfl, .single (.invalidateMapEpoch mapEpoch) rfl, fun h => ⟨Or.inr rfl, h.deviceEpoch⟩⟩
  · exact .refl

theorem enterFrame_framed (frameSerial : UInt64) (getFenceValue : ℕ → ℕ → UInt64) :
    Framed cfg s (s.enterFrame cfg frameSerial getFenceValue) := by
  unfold enterFrame
  split
  · refine (pollProducerCompletions_inFrame getFenceValue).toFramed.trans ?_
    exact ⟨rfl, ReflTransGen.refl, fun h => ⟨h.mapEpoch, h.deviceEpoch⟩⟩
  · exact .refl

theorem enterFrame_epochs (mapEpoch deviceEpoch frameSerial : UInt64)
    (getFenceValue : ℕ → ℕ → UInt64) :
    let t := ((s.enterDevice cfg deviceEpoch).enterMap mapEpoch).enterFrame cfg frameSerial
      getFenceValue
    t.mapEpoch = mapEpoch ∧ t.deviceEpoch = deviceEpoch := by
  have hdevice : (s.enterDevice cfg deviceEpoch).deviceEpoch = deviceEpoch := by
    unfold enterDevice
    split
    · rfl
    · exact not_not.mp (by assumption)
  have hmap : ∀ t : ObserveOwner, (t.enterMap mapEpoch).mapEpoch = mapEpoch ∧
      (t.enterMap mapEpoch).deviceEpoch = t.deviceEpoch := by
    intro t
    unfold enterMap
    split
    · exact ⟨rfl, rfl⟩
    · exact ⟨not_not.mp (by assumption), rfl⟩
  have hframe : ∀ t : ObserveOwner, (t.enterFrame cfg frameSerial getFenceValue).mapEpoch = t.mapEpoch ∧
        (t.enterFrame cfg frameSerial getFenceValue).deviceEpoch = t.deviceEpoch := by
    intro t
    unfold enterFrame pollProducerCompletions
    split
    · split <;> exact ⟨rfl, rfl⟩
    · exact ⟨rfl, rfl⟩
  exact ⟨(hframe _).1.trans (hmap _).1, (hframe _).2.trans ((hmap _).2.trans hdevice)⟩

def refusesFrame (cfg : OwnerSetup) (mapEpoch deviceEpoch frameSerial : UInt64) (s : ObserveOwner) :
    Bool :=
  !s.alive || cfg.ownerAuthority = 0 || mapEpoch = 0 || deviceEpoch = 0 || frameSerial = 0

theorem beginFrame_spec (mapEpoch deviceEpoch frameSerial : UInt64)
    (getFenceValue : ℕ → ℕ → UInt64) :
    Framed cfg s (s.beginFrame cfg mapEpoch deviceEpoch frameSerial getFenceValue).2 ∧
      if refusesFrame cfg mapEpoch deviceEpoch frameSerial s then
        (s.beginFrame cfg mapEpoch deviceEpoch frameSerial getFenceValue).2 = s
      else
        (s.beginFrame cfg mapEpoch deviceEpoch frameSerial getFenceValue).2.mapEpoch = mapEpoch ∧
          (s.beginFrame cfg mapEpoch deviceEpoch frameSerial getFenceValue).2.deviceEpoch =
            deviceEpoch := by
  have hframed : Framed cfg s (((s.enterDevice cfg deviceEpoch).enterMap mapEpoch).enterFrame cfg
      frameSerial getFenceValue) :=
    ((enterDevice_framed deviceEpoch).trans (enterMap_framed mapEpoch)).trans
      (enterFrame_framed frameSerial getFenceValue)
  have hepochs := @enterFrame_epochs cfg s mapEpoch deviceEpoch frameSerial getFenceValue
  unfold beginFrame refusesFrame
  split
  · exact ⟨.refl, rfl⟩
  · refine ⟨hframed.trans ⟨rfl, .single (.beginFrame mapEpoch deviceEpoch frameSerial) rfl, ?_⟩, hepochs⟩
    intro h
    generalize ((s.enterDevice cfg deviceEpoch).enterMap mapEpoch).enterFrame cfg frameSerial
      getFenceValue = t at h hepochs ⊢
    obtain ⟨hmap, hdevice⟩ := hepochs
    -- The store takes the owner's epochs, or stays in them.
    show Agrees { t with store := (t.store.beginFrame mapEpoch deviceEpoch frameSerial).2 }
    unfold PackageStore.beginFrame
    split
    · exact ⟨h.mapEpoch, h.deviceEpoch⟩
    · split
      · exact ⟨h.mapEpoch, h.deviceEpoch⟩
      · exact ⟨Or.inr hmap.symm, hdevice.symm⟩

/-! ## Observations -/

theorem prepare_inFrame (answers : ℕ → DeviceAnswers) (result : ObserveResult) :
    InFrame cfg s (prepare cfg answers result s).2 := by
  unfold prepare
  split
  · have hcall := fun prepared => @InFrame.call cfg s
      (.prepareQueuedStaticResources answers (kMaxPreparesPerFrame - s.preparedThisFrame)) rfl rfl
      prepared
    simp only [storeStep] at hcall
    generalize s.store.prepareQueuedStaticResources cfg.store answers
      (kMaxPreparesPerFrame - s.preparedThisFrame) = prepared at hcall ⊢
    obtain ⟨count, store⟩ := prepared
    cases count with
    | none => exact hcall s.preparedThisFrame
    | some count => exact hcall (s.preparedThisFrame + count)
  · exact .refl

theorem observeSource_inFrame (current : Snapshot) (draw : CurrentDrawProof) (cache : ModelCache)
    (answers : ℕ → DeviceAnswers) :
    InFrame cfg s (s.observeSource cfg current draw cache answers).2 := by
  have hlookup : InFrame cfg s { s with store :=
      (s.store.findOrQueueStatic cfg.store cache (some current) kStaticPackingLayoutGeneration).2 } :=
    .call (.findOrQueueStatic cache (some current) kStaticPackingLayoutGeneration) rfl rfl
      s.preparedThisFrame
  exact hlookup.trans (prepare_inFrame answers _)

theorem observe_spec (evidence : Stage11Evidence) (snapshot : Option Snapshot)
    (draw : CurrentDrawProof) (cache : ModelCache) (answers : ℕ → DeviceAnswers)
    (getFenceValue : ℕ → ℕ → UInt64) :
    if validEvidence evidence then
      InFrame cfg (s.beginFrame cfg evidence.mapEpoch evidence.deviceEpoch evidence.frameSerial
          getFenceValue).2
        (s.observe cfg evidence snapshot draw cache answers getFenceValue).2
    else (s.observe cfg evidence snapshot draw cache answers getFenceValue).2 = s := by
  unfold observe
  cases validEvidence evidence with
  | false => rfl
  | true =>
    rw [if_pos rfl, if_neg (by simp)]
    generalize s.beginFrame cfg evidence.mapEpoch evidence.deviceEpoch evidence.frameSerial
      getFenceValue = begun
    obtain ⟨begun, t⟩ := begun
    cases begun with
    | false => exact .refl
    | true =>
      dsimp only
      split
      · exact .refl
      · split
        · exact .refl
        · split
          · exact .refl
          · split
            · exact .refl
            · split
              · exact .refl
              · exact observeSource_inFrame _ _ _ _

/-! ## Submissions -/

/-- What `takeSubmission` can do. -/
inductive TakeSpec (cfg : OwnerSetup) (allocates : Bool) (s : ObserveOwner) :
    Submission × ObserveOwner → Prop
  | refused : TakeSpec cfg allocates s (.none, s)
  | lost : s.canTake = true → allocates = true →
      (s.store.readyStaticUploads = [] ∨
        submissionBytes s.mapEpoch s.deviceEpoch [] s.store.readyStaticUploads 0 = none ∨
        s.exhausted = true) →
      TakeSpec cfg allocates s (.none, { s with store := s.store.takeStaticUploads.2 })
  | taken {byteCount : ℕ} : s.canTake = true → s.store.readyStaticUploads ≠ [] →
      submissionBytes s.mapEpoch s.deviceEpoch [] s.store.readyStaticUploads 0 = some byteCount →
      s.exhausted = false →
      TakeSpec cfg allocates s (s.submissionOf cfg s.store.readyStaticUploads byteCount, { s with
        store := s.store.takeStaticUploads.2
        nextSubmissionSerial := s.nextSubmissionSerial + 1
        nextFenceValue := s.nextFenceValue + 1
        openSubmission := s.submissionOf cfg s.store.readyStaticUploads byteCount
        batches := s.batches + 1 })

theorem takeSubmission_spec (allocates : Bool) :
    TakeSpec cfg allocates s (s.takeSubmission cfg allocates) := by
  unfold takeSubmission
  split
  · exact .refused
  · rename_i hcan
    simp only [Bool.or_eq_true, Bool.not_eq_true', not_or, Bool.not_eq_false] at hcan
    dsimp only [PackageStore.takeStaticUploads]
    split
    · rename_i hempty
      exact .lost hcan.1 hcan.2 (Or.inl (List.isEmpty_iff.mp hempty))
    · rename_i hready
      rw [List.isEmpty_iff] at hready
      split
      · exact .lost hcan.1 hcan.2 (Or.inr (Or.inl (by assumption)))
      · rename_i byteCount hbytes
        split
        · exact .lost hcan.1 hcan.2 (Or.inr (Or.inr (by assumption)))
        · rename_i hexhausted
          exact .taken hcan.1 hready hbytes (eq_false_of_ne_true hexhausted)

end ObserveOwner

end War3VK.GpuSkin

/-!
## Runs of the owner

An upload that is taken and not retired is lost: its resource waits for ever. `Owned` is the invariant
that relates the open submission to the waiting resources, and it holds as long as no call loses uploads
(`uploads_kept`).
-/

namespace War3VK.GpuSkin

open War3VK.Lib Relation

variable {submission : Submission}

namespace ObserveOwner

variable {cfg : OwnerSetup} {s s' : ObserveOwner}

theorem validSubmission_iff :
    s.validSubmission cfg submission = true ↔
      submission = s.openSubmission ∧ s.openSubmission.isOpen = true ∧
        s.openSubmission.ownerAuthority = cfg.ownerAuthority ∧
        s.openSubmission.fence = some cfg.producerFence ∧
        s.openSubmission.mapEpoch = s.mapEpoch ∧ s.openSubmission.deviceEpoch = s.deviceEpoch := by
  obtain ⟨authority, serial, map, device, frame, value, bytes, fence, uploads⟩ := submission
  simp only [validSubmission, Bool.and_eq_true, decide_eq_true_eq]
  constructor
  · rintro ⟨⟨⟨⟨⟨⟨⟨⟨⟨⟨⟨⟨⟨⟨-, hopen⟩, hown⟩, rfl⟩, rfl⟩, rfl⟩, rfl⟩, rfl⟩, rfl⟩, rfl⟩, hfence⟩, rfl⟩, rfl⟩,
      hmap⟩, hdevice⟩
    exact ⟨rfl, hopen, hown, hfence, hmap, hdevice⟩
  · rintro ⟨heq, hopen, hown, hfence, hmap, hdevice⟩
    rw [← heq] at hopen hown hfence hmap hdevice ⊢
    exact ⟨⟨⟨⟨⟨⟨⟨⟨⟨⟨⟨⟨⟨⟨hopen, hopen⟩, hown⟩, rfl⟩, rfl⟩, rfl⟩, rfl⟩, rfl⟩, rfl⟩, rfl⟩, hfence⟩, rfl⟩, rfl⟩,
      hmap⟩, hdevice⟩


/-! ### Uploads that are kept -/

/-- The call loses no upload: a submission is taken only while there are numbers for one; it is
committed, as long as its uploads are awaited, when the store can allocate and has room for it; and
it is rejected when none of them is awaited any more. -/
def KeepsUploads (cfg : OwnerSetup) (r : Record ObserveOwner OwnerCall OwnerOutput) : Prop :=
  match r.call with
  | .takeSubmission allocates => r.before.canTake = true → allocates = true →
      r.before.store.readyStaticUploads ≠ [] → r.before.exhausted = false
  | .commitSubmission allocates submission => r.before.validSubmission cfg submission = true →
      (∃ upload ∈ submission.list, r.before.store.Awaited upload) →
        allocates = true ∧ submission.list.length ≤ cfg.store.missQueueCapacity
  | .rejectSubmission submission => r.before.validSubmission cfg submission = true →
      ∀ upload ∈ submission.list, ¬r.before.store.Awaited upload
  | _ => True

structure Owned (cfg : OwnerSetup) (s : ObserveOwner) : Prop where
  /-- The open submission has what is neither ready nor retired. -/
  waiting : PackageStore.Waiting cfg.store s.store s.openSubmission.list
  agrees : Agrees s
  authorized : s.alive = true → cfg.ownerAuthority ≠ 0
  closed : s.openSubmission.isOpen = false → s.openSubmission.list = []

theorem Owned.init (constructed : Bool) : Owned cfg (init cfg constructed) where
  waiting := .init true _
  agrees := ⟨Or.inl rfl, rfl⟩
  authorized halive := by
    simp only [ObserveOwner.init, Bool.and_eq_true, decide_eq_true_eq] at halive
    exact halive.2
  closed _ := rfl

section

variable (h : Owned cfg s)
include h

theorem Owned.framed (hframed : Framed cfg s s') : Owned cfg s' where
  waiting := by
    rw [hframed.openSubmission]
    exact hframed.store.waiting h.waiting
  agrees := hframed.agrees h.agrees
  authorized halive := h.authorized (hframed.alive ▸ halive)
  closed hclosed := by
    rw [hframed.openSubmission] at hclosed ⊢
    exact h.closed hclosed

theorem submissionOf_isOpen (hcan : s.canTake = true) {byteCount : ℕ}
    (hready : s.store.readyStaticUploads ≠ []) (hbytes : byteCount ≠ 0)
    (hexhausted : s.exhausted = false) :
    (s.submissionOf cfg s.store.readyStaticUploads byteCount).isOpen = true := by
  simp only [canTake, Bool.and_eq_true, decide_eq_true_eq] at hcan
  simp only [exhausted, Bool.or_eq_false_iff, decide_eq_false_iff_not] at hexhausted
  obtain ⟨⟨⟨⟨halive, -⟩, hmap⟩, hdevice⟩, hframe⟩ := hcan
  obtain ⟨⟨⟨hserial, -⟩, hfence⟩, -⟩ := hexhausted
  have hauthority := h.authorized halive
  simp [Submission.isOpen, submissionOf, Submission.list, hauthority, hserial, hmap, hdevice, hframe,
    hfence, hbytes, hready]

theorem ready_bytes_ne_zero (hready : s.store.readyStaticUploads ≠ []) :
    (s.store.readyStaticUploads.map GpuSkinStaticUpload.byteCount).sum ≠ 0 := by
  obtain ⟨upload, hupload⟩ := List.exists_mem_of_ne_nil _ hready
  have hvalid := h.waiting.validObserveUpload (h.waiting.ready_awaited hupload)
  simp only [validObserveUpload, Bool.and_eq_true, decide_eq_true_eq] at hvalid
  have hbytes : upload.byteCount ≠ 0 := by tauto
  intro hsum
  exact hbytes (List.sum_eq_zero_iff_forall_eq_nat.mp hsum _ (List.mem_map_of_mem hupload))

theorem Owned.take {allocates : Bool} {result : Submission × ObserveOwner}
    (hspec : TakeSpec cfg allocates s result)
    (hkeeps : s.canTake = true → allocates = true → s.store.readyStaticUploads ≠ [] →
      s.exhausted = false) : Owned cfg result.2 := by
  have hclosed : s.canTake = true → s.openSubmission.list = [] := by
    intro hcan
    simp only [canTake, Bool.and_eq_true, Bool.not_eq_true'] at hcan
    exact h.closed hcan.1.1.1.2
  have hbytes : s.canTake = true →
      submissionBytes s.mapEpoch s.deviceEpoch [] s.store.readyStaticUploads 0 =
        some (s.store.readyStaticUploads.map GpuSkinStaticUpload.byteCount).sum := by
    intro hcan
    simp only [canTake, Bool.and_eq_true, decide_eq_true_eq] at hcan
    rw [← h.agrees.mapEpoch.resolve_left hcan.1.1.2, ← h.agrees.deviceEpoch]
    exact submissionBytes_of_waiting h.waiting
  cases hspec with
  | refused => exact h
  | lost hcan hallocates hwhy =>
    have hready : s.store.readyStaticUploads = [] := by
      rcases hwhy with hready | hnone | hexhausted
      · exact hready
      · rw [hbytes hcan] at hnone
        cases hnone
      · refine by_contra fun hready => ?_
        rw [hkeeps hcan hallocates hready] at hexhausted
        cases hexhausted
    have hwaiting := h.waiting
    rw [hclosed hcan] at hwaiting
    have htake := hwaiting.take
    rw [hready, ← hclosed hcan] at htake
    exact ⟨htake, ⟨h.agrees.mapEpoch, h.agrees.deviceEpoch⟩, h.authorized, h.closed⟩
  | @taken byteCount hcan hready hsome hexhausted =>
    have hwaiting := h.waiting
    rw [hclosed hcan] at hwaiting
    rw [hbytes hcan, Option.some.injEq] at hsome
    refine ⟨hwaiting.take, ⟨h.agrees.mapEpoch, h.agrees.deviceEpoch⟩, h.authorized, fun hnot => ?_⟩
    have hopen := submissionOf_isOpen h hcan hready (hsome ▸ ready_bytes_ne_zero h hready) hexhausted
    rw [show (s.submissionOf cfg s.store.readyStaticUploads byteCount).isOpen = false from hnot]
      at hopen
    cases hopen

theorem Owned.commit {allocates : Bool} (hkeeps : s.validSubmission cfg submission = true →
      (∃ upload ∈ submission.list, s.store.Awaited upload) →
        allocates = true ∧ submission.list.length ≤ cfg.store.missQueueCapacity) :
    Owned cfg (s.commitSubmission cfg allocates submission).2 := by
  unfold commitSubmission
  split
  · exact h
  · rename_i hvalid
    rw [Bool.not_eq_true', Bool.not_eq_false] at hvalid
    have hroom := hkeeps hvalid
    obtain ⟨rfl, hopen, -, hfence, -, -⟩ := validSubmission_iff.mp hvalid
    have hvalue : s.openSubmission.fenceValue ≠ 0 := by
      simp only [Submission.isOpen, Bool.and_eq_true, decide_eq_true_eq] at hopen
      tauto
    have hretire := h.waiting.retire hvalue cfg.producerFence hroom
    have hsame := PackageStore.storeStep_sameEpochs cfg.store (.retireStaticUploads
      allocates s.openSubmission.list (some cfg.producerFence) s.openSubmission.fenceValue) s.store
      rfl
    rw [hfence]
    exact ⟨hretire, ⟨h.agrees.mapEpoch.imp_right hsame.1.trans, hsame.2.trans h.agrees.deviceEpoch⟩,
      h.authorized, fun _ => rfl⟩

theorem Owned.reject (hkeeps : s.validSubmission cfg submission = true →
      ∀ upload ∈ submission.list, ¬s.store.Awaited upload) :
    Owned cfg (s.rejectSubmission cfg submission) := by
  unfold rejectSubmission
  split
  · exact h
  · rename_i hvalid
    rw [Bool.not_eq_true', Bool.not_eq_false] at hvalid
    have hnone := hkeeps hvalid
    obtain ⟨rfl, -⟩ := validSubmission_iff.mp hvalid
    exact ⟨h.waiting.forget hnone, ⟨h.agrees.mapEpoch, h.agrees.deviceEpoch⟩, h.authorized, fun _ => rfl⟩

theorem Owned.dropped (call : StoreCall) (hcall : call.handlesUploads = false)
    (hnone : (storeStep cfg.store call s.store).2.staticResources = []) :
    PackageStore.Waiting cfg.store (storeStep cfg.store call s.store).2 [] :=
  (h.waiting.step call hcall).forget fun upload _ =>
    PackageStore.not_awaited_of_empty hnone upload

end

theorem beginFrame_framed (mapEpoch deviceEpoch frameSerial : UInt64)
    (getFenceValue : ℕ → ℕ → UInt64) :
    Framed cfg s (s.beginFrame cfg mapEpoch deviceEpoch frameSerial getFenceValue).2 :=
  (beginFrame_spec mapEpoch deviceEpoch frameSerial getFenceValue).1

theorem observe_framed (evidence : Stage11Evidence) (snapshot : Option Snapshot)
    (draw : CurrentDrawProof) (cache : ModelCache) (answers : ℕ → DeviceAnswers)
    (getFenceValue : ℕ → ℕ → UInt64) :
    Framed cfg s (s.observe cfg evidence snapshot draw cache answers getFenceValue).2 := by
  have hspec := @observe_spec cfg s evidence snapshot draw cache answers getFenceValue
  split at hspec
  · exact (beginFrame_framed _ _ _ _).trans hspec.toFramed
  · rw [hspec]
    exact .refl

theorem Owned.step (h : Owned cfg s) (call : OwnerCall)
    (hkeeps : KeepsUploads cfg (record (ownerStep cfg) s call)) :
    Owned cfg (ownerStep cfg call s).2 := by
  cases call with
  | beginFrame mapEpoch deviceEpoch frameSerial getFenceValue =>
    exact h.framed (beginFrame_framed _ _ _ _)
  | observe evidence snapshot draw cache answers getFenceValue =>
    exact h.framed (observe_framed _ _ _ _ _ _)
  | takeSubmission allocates => exact h.take (takeSubmission_spec allocates) hkeeps
  | commitSubmission allocates submission => exact h.commit hkeeps
  | rejectSubmission submission => exact h.reject hkeeps
  | invalidateMapEpoch nextMapEpoch =>
    show Owned cfg (s.invalidateMapEpoch nextMapEpoch)
    unfold invalidateMapEpoch
    split
    · exact h
    · exact ⟨h.dropped (.invalidateMapEpoch nextMapEpoch) rfl rfl,
        ⟨Or.inr rfl, h.agrees.deviceEpoch⟩, h.authorized, fun _ => rfl⟩
  | invalidateDeviceEpoch nextDeviceEpoch =>
    show Owned cfg (s.invalidateDeviceEpoch cfg nextDeviceEpoch)
    unfold invalidateDeviceEpoch
    split
    · exact h
    · exact ⟨h.dropped (.invalidateDevice true nextDeviceEpoch (alignment cfg)) rfl rfl,
        ⟨Or.inl rfl, rfl⟩, h.authorized, fun _ => rfl⟩
  | pollProducerCompletions getFenceValue =>
    exact h.framed (pollProducerCompletions_inFrame getFenceValue).toFramed

end ObserveOwner

def smallOwner : OwnerSetup := ⟨smallSetup, 1, 0, 16⟩

def unrequestedDraw : CurrentDrawProof where
  frameSerial := 0
  mapEpoch := 0
  deviceEpoch := 0
  exactGeometryKeyHash := 0
  instanceIdentity := 0
  meshPayloadIdentity := 0
  renderablePartIdentity := 0
  positionOwnerIdentity := 0
  positionIdentityGeneration := 0
  positionAllocationGeneration := 0
  positionContentGeneration := 0
  indexOwnerIdentity := 0
  indexIdentityGeneration := 0
  indexAllocationGeneration := 0
  indexContentGeneration := 0
  positionContentHash := 0
  indexContentHash := 0
  vertexCount := 0
  indexCount := 0
  sourceVertexFirst := 0
  actualIndexMin := 0
  actualIndexMax := 0
  baseVertexIndex := 0
  requested := false
  isSealed := false
  rigidStatic := false
  opaqueMaterial := false
  gpuSkinBacked := false
  vertexBlendEnabled := false
  indexed := false
  triangleList := false
  uint16Indices := false
  exactIndexDomainKnown := false
  fullVertexDomainFallback := false
  exactContiguousVertexRange := false
  positionFloat3 := false
  positionHostCached := false
  positionBoundedObserveReadable := false
  indexHostCached := false
  indexBoundedObserveReadable := false

def triangleEvidence (mapEpoch : UInt64) : Stage11Evidence where
  requestedMode := .observe
  effectiveMode := .observe
  disposition := .recordedCurrentMapSource
  frameSerial := 1
  policyRevision := 1
  mapEpoch := mapEpoch
  deviceEpoch := 1
  sourceGeneration := 1
  immutableModelGeneration := 1
  immutableContentHash := 7
  meshPayloadIdentity := 0x1000
  eligibleConsumerMask := 0
  wouldUseConsumerMask := 0
  actualConsumerMask := 0
  geosetVertexCount := 3
  packageReady := false
  fullyEquivalent := false
  drawMutationAllowed := false
  gpuBindingAllowed := false
  commandRecordingAllowed := false
  packagePublicationAllowed := false
  provesCurrentGameMemory := true

def observeTriangle (mapEpoch : UInt64) : OwnerCall :=
  .observe (triangleEvidence mapEpoch) (some ⟨1, triangle⟩) unrequestedDraw triangleCache
    willingDevice fun _ _ => 0

def takeTriangle : List OwnerCall := [observeTriangle 1, .takeSubmission true]

def triangleSubmission : Submission :=
  (run (ownerStep smallOwner) takeTriangle (.init smallOwner true)).openSubmission

namespace ObserveOwner

variable {cfg : OwnerSetup} {s s' : ObserveOwner}

/-! ### Submissions that can be closed -/

def takenOf (r : Record ObserveOwner OwnerCall OwnerOutput) : Option Submission :=
  match r.output with
  | .submission taken => if taken.isOpen then some taken else none
  | _ => none

def lastTaken (past : List (Record ObserveOwner OwnerCall OwnerOutput)) : Option Submission :=
  (past.filterMap takenOf).getLast?

def KeepsEpochs (cfg : OwnerSetup) (r : Record ObserveOwner OwnerCall OwnerOutput) : Prop :=
  r.before.openSubmission.isOpen = true →
    match r.call with
    | .beginFrame mapEpoch deviceEpoch frameSerial _ =>
      refusesFrame cfg mapEpoch deviceEpoch frameSerial r.before = false →
        mapEpoch = r.before.mapEpoch ∧ deviceEpoch = r.before.deviceEpoch
    | .observe evidence _ _ _ _ _ => validEvidence evidence = true →
      refusesFrame cfg evidence.mapEpoch evidence.deviceEpoch evidence.frameSerial r.before = false →
        evidence.mapEpoch = r.before.mapEpoch ∧ evidence.deviceEpoch = r.before.deviceEpoch
    | _ => True

/-- An open submission is the last one that was taken, in the current epochs, with the owner's
authority and fence. -/
structure Closable (cfg : OwnerSetup) (s : ObserveOwner)
    (past : List (Record ObserveOwner OwnerCall OwnerOutput)) : Prop where
  last : s.openSubmission.isOpen = true → lastTaken past = some s.openSubmission
  authority : s.openSubmission.isOpen = true → s.openSubmission.ownerAuthority = cfg.ownerAuthority
  fence : s.openSubmission.isOpen = true → s.openSubmission.fence = some cfg.producerFence
  mapEpoch : s.openSubmission.isOpen = true → s.openSubmission.mapEpoch = s.mapEpoch
  deviceEpoch : s.openSubmission.isOpen = true → s.openSubmission.deviceEpoch = s.deviceEpoch

theorem lastTaken_concat_of_none {past : List (Record ObserveOwner OwnerCall OwnerOutput)}
    {r : Record ObserveOwner OwnerCall OwnerOutput} (h : takenOf r = none) :
    lastTaken (past ++ [r]) = lastTaken past := by
  rw [lastTaken, filterMap_concat, h, Option.toList_none, List.append_nil, lastTaken]

theorem lastTaken_concat_of_some {past : List (Record ObserveOwner OwnerCall OwnerOutput)}
    {r : Record ObserveOwner OwnerCall OwnerOutput} (h : takenOf r = some submission) :
    lastTaken (past ++ [r]) = some submission := by
  rw [lastTaken, filterMap_concat, h, Option.toList_some, List.getLast?_concat]

variable {past : List (Record ObserveOwner OwnerCall OwnerOutput)}
  {r : Record ObserveOwner OwnerCall OwnerOutput}

theorem Closable.same (h : Closable cfg s past) (hnone : takenOf r = none)
    (hopen : s'.openSubmission = s.openSubmission)
    (hepochs : s.openSubmission.isOpen = true → s'.mapEpoch = s.mapEpoch ∧ s'.deviceEpoch = s.deviceEpoch) :
    Closable cfg s' (past ++ [r]) := by
  rw [← hopen] at hepochs
  obtain ⟨hlast, hauthority, hfence, hmap, hdevice⟩ := h
  rw [← hopen] at hlast hauthority hfence hmap hdevice
  exact {
    last := fun ho => (lastTaken_concat_of_none hnone).trans (hlast ho)
    authority := hauthority
    fence := hfence
    mapEpoch := fun ho => (hmap ho).trans (hepochs ho).1.symm
    deviceEpoch := fun ho => (hdevice ho).trans (hepochs ho).2.symm }

theorem Closable.of_closed (h : s.openSubmission.isOpen = false) : Closable cfg s past := by
  constructor <;> intro hopen <;> rw [h] at hopen <;> cases hopen

theorem beginFrame_epochs {mapEpoch deviceEpoch frameSerial : UInt64}
    (getFenceValue : ℕ → ℕ → UInt64)
    (h : refusesFrame cfg mapEpoch deviceEpoch frameSerial s = false →
      mapEpoch = s.mapEpoch ∧ deviceEpoch = s.deviceEpoch) :
    (s.beginFrame cfg mapEpoch deviceEpoch frameSerial getFenceValue).2.mapEpoch = s.mapEpoch ∧
      (s.beginFrame cfg mapEpoch deviceEpoch frameSerial getFenceValue).2.deviceEpoch = s.deviceEpoch := by
  have hspec := (@beginFrame_spec cfg s mapEpoch deviceEpoch frameSerial getFenceValue).2
  split at hspec
  · rw [hspec]
    exact ⟨rfl, rfl⟩
  · rename_i haccepted
    obtain ⟨hmap, hdevice⟩ := h (eq_false_of_ne_true haccepted)
    exact ⟨hspec.1.trans hmap, hspec.2.trans hdevice⟩

theorem Closable.take (h : Closable cfg s past) (allocates : Bool) :
    Closable cfg (s.takeSubmission cfg allocates).2
      (past ++ [record (ownerStep cfg) s (.takeSubmission allocates)]) := by
  have hspec := @takeSubmission_spec cfg s allocates
  have houtput : (record (ownerStep cfg) s (.takeSubmission allocates)).output =
      .submission (s.takeSubmission cfg allocates).1 := rfl
  generalize record (ownerStep cfg) s (.takeSubmission allocates) = r at houtput ⊢
  generalize s.takeSubmission cfg allocates = result at hspec houtput ⊢
  cases hspec with
  | refused => exact h.same (by rw [takenOf, houtput]; rfl) rfl fun _ => ⟨rfl, rfl⟩
  | lost _ _ _ => exact h.same (by rw [takenOf, houtput]; rfl) rfl fun _ => ⟨rfl, rfl⟩
  | taken _ _ _ _ =>
    refine ⟨fun hopen => lastTaken_concat_of_some ?_, fun _ => rfl, fun _ => rfl, fun _ => rfl,
      fun _ => rfl⟩
    rw [takenOf, houtput]
    exact if_pos hopen

theorem commitSubmission_open (allocates : Bool) (submission : Submission) :
    if s.validSubmission cfg submission then
      (s.commitSubmission cfg allocates submission).2.openSubmission = .none
    else (s.commitSubmission cfg allocates submission).2 = s := by
  unfold commitSubmission
  cases s.validSubmission cfg submission with
  | false => rfl
  | true => rfl

theorem rejectSubmission_open (submission : Submission) :
    if s.validSubmission cfg submission then
      (s.rejectSubmission cfg submission).openSubmission = .none
    else s.rejectSubmission cfg submission = s := by
  unfold rejectSubmission
  cases s.validSubmission cfg submission with
  | false => rfl
  | true => rfl

theorem Closable.step (h : Closable cfg s past) (call : OwnerCall)
    (hkeeps : KeepsEpochs cfg (record (ownerStep cfg) s call)) :
    Closable cfg (ownerStep cfg call s).2 (past ++ [record (ownerStep cfg) s call]) := by
  cases call with
  | beginFrame mapEpoch deviceEpoch frameSerial getFenceValue =>
    exact h.same rfl (beginFrame_framed _ _ _ _).openSubmission fun hopen =>
      beginFrame_epochs getFenceValue (hkeeps hopen)
  | observe evidence snapshot draw cache answers getFenceValue =>
    refine h.same rfl (observe_framed evidence snapshot draw cache answers
      getFenceValue).openSubmission fun hopen => ?_
    have hspec := @observe_spec cfg s evidence snapshot draw cache answers getFenceValue
    show (s.observe cfg evidence snapshot draw cache answers getFenceValue).2.mapEpoch = _ ∧ _
    split at hspec
    · rename_i hvalid
      obtain ⟨hmap, hdevice⟩ := beginFrame_epochs getFenceValue (hkeeps hopen hvalid)
      exact ⟨hspec.mapEpoch.trans hmap, hspec.deviceEpoch.trans hdevice⟩
    · exact ⟨congrArg ObserveOwner.mapEpoch hspec, congrArg ObserveOwner.deviceEpoch hspec⟩
  | takeSubmission allocates => exact h.take allocates
  | commitSubmission allocates submission =>
    have hspec := @commitSubmission_open cfg s allocates submission
    show Closable cfg (s.commitSubmission cfg allocates submission).2 _
    split at hspec
    · exact .of_closed (by rw [hspec]; rfl)
    · rw [hspec]
      exact h.same rfl rfl fun _ => ⟨rfl, rfl⟩
  | rejectSubmission submission =>
    have hspec := @rejectSubmission_open cfg s submission
    show Closable cfg (s.rejectSubmission cfg submission) _
    split at hspec
    · exact .of_closed (by rw [hspec]; rfl)
    · rw [hspec]
      exact h.same rfl rfl fun _ => ⟨rfl, rfl⟩
  | invalidateMapEpoch nextMapEpoch =>
    show Closable cfg (s.invalidateMapEpoch nextMapEpoch) _
    unfold invalidateMapEpoch
    split
    · exact h.same rfl rfl fun _ => ⟨rfl, rfl⟩
    · exact .of_closed rfl
  | invalidateDeviceEpoch nextDeviceEpoch =>
    show Closable cfg (s.invalidateDeviceEpoch cfg nextDeviceEpoch) _
    unfold invalidateDeviceEpoch
    split
    · exact h.same rfl rfl fun _ => ⟨rfl, rfl⟩
    · exact .of_closed rfl
  | pollProducerCompletions getFenceValue =>
    have hframe := @pollProducerCompletions_inFrame cfg s getFenceValue
    exact h.same rfl hframe.openSubmission fun _ => ⟨hframe.mapEpoch, hframe.deviceEpoch⟩

theorem Closable.closes (h : Closable cfg s past) (hlast : lastTaken past = some submission) :
    (∀ allocates, (s.commitSubmission cfg allocates submission).2.openSubmission.isOpen = false) ∧
      (s.rejectSubmission cfg submission).openSubmission.isOpen = false := by
  have hopen : s.validSubmission cfg submission = false → s.openSubmission.isOpen = false := by
    intro hinvalid
    refine eq_false_of_ne_true fun hopen => ?_
    -- An open submission is the last one taken, and that one is valid.
    rw [h.last hopen, Option.some.injEq] at hlast
    rw [validSubmission_iff.mpr ⟨hlast.symm, hopen, h.authority hopen, h.fence hopen,
      h.mapEpoch hopen, h.deviceEpoch hopen⟩] at hinvalid
    cases hinvalid
  constructor
  · intro allocates
    have hspec := @commitSubmission_open cfg s allocates submission
    split at hspec
    · rw [hspec]
      rfl
    · rw [hspec]
      exact hopen (eq_false_of_ne_true (by assumption))
  · have hspec := @rejectSubmission_open cfg s submission
    split at hspec
    · rw [hspec]
      rfl
    · rw [hspec]
      exact hopen (eq_false_of_ne_true (by assumption))

end ObserveOwner

open ObserveOwner in
/-- As long as no frame leaves the epochs of an open submission, an open submission is of the current
epochs and the last that was taken, and whoever commits or rejects the last one that was taken leaves
none open. -/
theorem submission_closes (cfg : OwnerSetup) (constructed : Bool) (calls : List OwnerCall)
    (hcalls : ∀ r ∈ history (ownerStep cfg) calls (init cfg constructed), KeepsEpochs cfg r) :
    let s := run (ownerStep cfg) calls (init cfg constructed)
    let past := history (ownerStep cfg) calls (init cfg constructed)
    (s.openSubmission.isOpen = true → s.openSubmission.mapEpoch = s.mapEpoch ∧
        s.openSubmission.deviceEpoch = s.deviceEpoch ∧ lastTaken past = some s.openSubmission) ∧
      ∀ submission, lastTaken past = some submission →
        (∀ allocates,
            (s.commitSubmission cfg allocates submission).2.openSubmission.isOpen = false) ∧
          (s.rejectSubmission cfg submission).openSubmission.isOpen = false := by
  have hclosable := @history_induction _ _ _ (ownerStep cfg)
    (fun s past => (∀ r ∈ past, KeepsEpochs cfg r) → Closable cfg s past) (init cfg constructed)
    (fun _ => .of_closed rfl)
    (fun s past call ih hpast => by
      rw [List.forall_mem_append] at hpast
      exact (ih hpast.1).step call (hpast.2 _ List.mem_cons_self))
    calls
  have h := hclosable hcalls
  exact ⟨fun hopen => ⟨h.mapEpoch hopen, h.deviceEpoch hopen, h.last hopen⟩,
    fun submission hlast => h.closes hlast⟩

open ObserveOwner in
/-- After a frame in another map the submission of the triangle is still open, and neither committing
nor rejecting it closes it. -/
theorem triangle_unclosable :
    let calls := takeTriangle ++ [observeTriangle 2]
    let s := run (ownerStep smallOwner) calls (.init smallOwner true)
    s.openSubmission.isOpen = true ∧ s.openSubmission.mapEpoch ≠ s.mapEpoch ∧
      lastTaken (history (ownerStep smallOwner) calls (.init smallOwner true)) =
        some triangleSubmission ∧
      (s.commitSubmission smallOwner true triangleSubmission).2.openSubmission.isOpen = true ∧
      (s.rejectSubmission smallOwner triangleSubmission).openSubmission.isOpen = true ∧
      (s.takeSubmission smallOwner true).1 = .none := by
  decide +kernel

/-- The submission of the triangle can be closed while its map is not left. -/
theorem submission_closes_triangle :
    ((run (ownerStep smallOwner) takeTriangle (.init smallOwner true)).rejectSubmission smallOwner
      triangleSubmission).openSubmission.isOpen = false := by
  refine ((submission_closes smallOwner true takeTriangle ?_).2 triangleSubmission ?_).2
  · simp only [takeTriangle, observeTriangle, history, List.forall_mem_cons]
    refine ⟨fun hopen => ?_, fun _ => trivial, fun _ h => (by cases h)⟩
    cases (hopen : Submission.isOpen .none = true)
  · decide +kernel

end War3VK.GpuSkin
