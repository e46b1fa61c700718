import War3VK.Tools.PaletteEvidenceNotes

/-!
# The notes keep the recorder sound

Each note of the recorder of palette evidence keeps what is true between its calls, also when an event
that it emits closes the window from inside.
-/

namespace War3VK.Tools.PaletteEvidence

variable {hook : List Emission → Option UInt64} {recorder : Recorder} {place : Fin kWatchCapacity}
  {key : ObjectKey} {type : ChainType}

/-! ## Chains -/

structure Keeps (e next : Entry) : Prop where
  used : next.used = e.used
  key : next.key = e.key
  chainType : next.chainType = e.chainType
  windowSegment : next.windowSegment = e.windowSegment

theorem markStage_keeps (e : Entry) (attemptSerial : UInt64) (stage : Stage) :
    Keeps e (markStage e attemptSerial stage) := by
  unfold markStage
  dsimp only
  split_ifs <;> exact ⟨rfl, rfl, rfl, rfl⟩

def PathFact.Keeps (fact : PathFact) : Prop := ∀ e, PaletteEvidence.Keeps e (fact.update e)

theorem servedFact_keeps (source : Source) (hitKey : UInt64) (frames : ObjectFrames) :
    (servedFact source hitKey frames).Keeps := fun e => by
  have hmark := markStage_keeps { e with lastServedFrame := frames.renderFrame, lastSource := source,
                                         lastHitKey := hitKey } frames.attemptSerial .servedCandidate
  exact ⟨hmark.used, hmark.key, hmark.chainType, hmark.windowSegment⟩

theorem drawnFact_keeps (source : Source) (hitKey : UInt64) (frames : ObjectFrames) (cleared : Bool) :
    (drawnFact source hitKey frames cleared).Keeps := fun e => by
  have hmark := markStage_keeps { e with lastDrawFrame := frames.renderFrame } frames.attemptSerial
    .drawn
  exact ⟨hmark.used, hmark.key, hmark.chainType, hmark.windowSegment⟩

theorem enqueuedFact_keeps (source : Source) (hitKey : UInt64) (frames : ObjectFrames)
    (cleared : Bool) : (enqueuedFact source hitKey frames cleared).Keeps := fun e => by
  have hmark := markStage_keeps { e with lastSubmitFrame := frames.renderFrame, submitSource := source,
                                         submitHitKey := hitKey } frames.attemptSerial .enqueued
  exact ⟨hmark.used, hmark.key, hmark.chainType, hmark.windowSegment⟩

theorem Recorder.Sound.countRepeated (h : recorder.Sound) (same : Bool) :
    (countRepeated recorder same).Sound := by
  unfold PaletteEvidence.countRepeated
  cases same <;> exact h.of_eq rfl rfl rfl rfl rfl rfl

theorem Recorder.Sound.advanceOnChain (h : recorder.Sound) (hwatches : recorder.Watches key type place)
    {fact : PathFact} (hkeeps : fact.Keeps) : (advanceOnChain hook fact recorder place).Sound := by
  unfold PaletteEvidence.advanceOnChain
  dsimp only
  split_ifs with hseen hcan
  · exact h.countRepeated _
  · exact h.accountDrop (by simpa using hcan)
  · have hupdate := hkeeps (recorder.entries place)
    have hcan : canEmit recorder false = true := by simpa using hcan
    refine emitUnchecked_sound (Recorder.Sound.emitRecord ?_ ?_ _)
    · exact h.setEntry hwatches.used (hupdate.used.trans hwatches.used) hupdate.key hupdate.chainType
        hupdate.windowSegment
    · exact hcan

theorem Recorder.Sound.settleObjectGone (h : recorder.Sound)
    (hwatches : recorder.Watches key type place) : (settleObjectGone hook recorder place).Sound := by
  unfold PaletteEvidence.settleObjectGone
  dsimp only
  split_ifs with hcan
  · exact (h.accountDrop (by simpa using hcan)).bury hwatches.used _
  · have hcan : canEmit recorder true = true := by simpa using hcan
    refine emitUnchecked_sound (Recorder.Sound.emitRecord ?_ ?_ _)
    · have hcounted : ({ recorder with counters := { recorder.counters with
          closedObjectGone := recorder.counters.closedObjectGone + 1 } } : Recorder).Sound :=
        h.of_eq rfl rfl rfl rfl rfl rfl
      exact hcounted.bury hwatches.used _
    · exact hcan

/-! ## Heads -/

/-- Sound but for the head of one chain, which is just about to be emitted. -/
structure Recorder.SoundBut (recorder : Recorder) (place : Fin kWatchCapacity) : Prop
    extends recorder.Books where
  watch : recorder.watchCount = recorder.live.card
  heads : ∀ other, other ≠ place → recorder.Headed other
  used : (recorder.entries place).used = true
  windowSegment : (recorder.entries place).windowSegment = recorder.windowSegment

theorem Recorder.Sound.soundBut (h : recorder.Sound) (hwatches : recorder.Watches key type place) :
    recorder.SoundBut place where
  toBooks := h.toBooks
  watch := h.watch
  heads := fun other _ => h.heads other
  used := hwatches.used
  windowSegment := hwatches.windowSegment

theorem Recorder.SoundBut.emitHead (h : recorder.SoundBut place)
    (hcan : canEmit recorder false = true) {next : Entry} (hkeeps : Keeps (recorder.entries place) next)
    {record : EventRecord} (hkey : record.key = next.key) (htype : record.chainType = next.chainType)
    (hwindow : record.windowSegment = recorder.windowSegment)
    (hstage : record.stage = headStage next.chainType) {counters : Counters}
    (hemitted : counters.emitted = recorder.counters.emitted)
    (hterminal : counters.terminalEmitted = recorder.counters.terminalEmitted) :
    (emitRecord { recorder.setEntry place next with counters := counters } record false).Sound := by
  have hbooks : ({ recorder.setEntry place next with counters := counters } : Recorder).Books :=
    h.toBooks.of_eq rfl rfl hemitted hterminal
  have hcan' : canEmit { recorder.setEntry place next with counters := counters } false = true := by
    unfold canEmit at hcan ⊢
    dsimp only [Recorder.setEntry]
    rw [hemitted, hterminal]
    exact hcan
  refine { toBooks := hbooks.emitRecord hcan' record, watch := ?_, heads := fun other huse => ?_ }
  · refine h.watch.trans (congrArg Finset.card (Finset.filter_congr fun other _ => ?_))
    by_cases hother : other = place
    · subst hother
      simp [emitRecord, Recorder.setEntry, hkeeps.used]
    · simp [emitRecord, Recorder.setEntry, Function.update_of_ne hother]
  · by_cases hother : other = place
    · subst hother
      have hentry : (emitRecord { recorder.setEntry other next with counters := counters } record
          false).entries other = next := Function.update_self ..
      rw [hentry]
      refine ⟨⟨record, false⟩, List.mem_cons_self, rfl, hkey, htype, ?_, hstage⟩
      exact hwindow.trans (h.windowSegment.symm.trans hkeeps.windowSegment.symm)
    · have hentry : (emitRecord { recorder.setEntry place next with counters := counters } record
          false).entries other = recorder.entries other := Function.update_of_ne hother ..
      rw [hentry] at huse ⊢
      obtain ⟨emission, hmem, hhead⟩ := h.heads other hother huse
      exact ⟨emission, List.mem_cons_of_mem _ hmem, hhead⟩

theorem Recorder.SoundBut.rejectOnChain (h : recorder.SoundBut place)
    (hcan : canEmit recorder false = true)
    (htype : (recorder.entries place).chainType = .rejectionRecovery) (reason : RejectReason)
    (frames : ObjectFrames) : (rejectOnChain hook reason frames recorder place).Sound := by
  have hmark := markStage_keeps
    { recorder.entries place with
      lastRejectFrame := frames.renderFrame, lastRejectReason := reason } frames.attemptSerial .rejected
  unfold PaletteEvidence.rejectOnChain
  dsimp only
  refine emitUnchecked_sound (h.emitHead hcan ?_ rfl rfl rfl ?_ rfl rfl)
  · exact ⟨hmark.used, hmark.key, hmark.chainType, hmark.windowSegment⟩
  · exact (congrArg headStage (hmark.chainType.trans htype)).symm

theorem Recorder.SoundBut.firstSightOnChain (h : recorder.SoundBut place)
    (hcan : canEmit recorder false = true)
    (htype : (recorder.entries place).chainType = .observation) (frames : ObjectFrames) :
    (firstSightOnChain hook frames recorder place).Sound := by
  have hmark := markStage_keeps { recorder.entries place with sawFirstSight := true }
    frames.attemptSerial .firstSight
  unfold PaletteEvidence.firstSightOnChain
  dsimp only
  refine emitUnchecked_sound (h.emitHead hcan ?_ hmark.key.symm hmark.chainType.symm rfl ?_ rfl rfl)
  · exact ⟨hmark.used, hmark.key, hmark.chainType, hmark.windowSegment⟩
  · exact (congrArg headStage (hmark.chainType.trans htype)).symm

structure Inserted (recorder : Recorder) (type : ChainType) (place : Fin kWatchCapacity)
    (inserted : Recorder) : Prop where
  soundBut : inserted.SoundBut place
  chainType : (inserted.entries place).chainType = type
  canEmit : ∀ terminal, canEmit inserted terminal = canEmit recorder terminal
  log : inserted.log = recorder.log

theorem Recorder.Sound.insert (h : recorder.Sound) {frame : UInt64} {reason : RejectReason}
    {frames : ObjectFrames} {inserted : Recorder}
    (hinsert : insert recorder key frame reason frames type = some (place, inserted)) :
    Inserted recorder type place inserted := by
  unfold PaletteEvidence.insert at hinsert
  by_cases hfull : recorder.watchCount ≥ kWatchCapacity
  · rw [if_pos hfull] at hinsert
    cases hinsert
  rw [if_neg hfull] at hinsert
  obtain ⟨free, hplace, heq⟩ := Option.map_eq_some_iff.mp hinsert
  obtain ⟨rfl, rfl⟩ := Prod.mk.inj heq
  have hfree := freePlace_spec hplace
  have hnot : free ∉ recorder.live := fun hmem => by
    rw [Recorder.live, Finset.mem_filter, hfree] at hmem
    exact Bool.false_ne_true hmem.2
  generalize hentry : (
    { used := true, instanceId := recorder.nextInstanceId, key := key, firstRejectFrame := frame,
      chainType := type, windowSegment := recorder.windowSegment, firstFrames := frames,
      firstReason := reason } : Entry) = e
  have hused : e.used = true := by rw [← hentry]
  have hlive : (recorder.setEntry free e).live = Insert.insert free recorder.live := by
    ext other
    simp only [Recorder.live, Finset.mem_insert, Finset.mem_filter, Finset.mem_univ, true_and]
    by_cases hother : other = free
    · subst hother
      simp [Recorder.setEntry, hused]
    · simp [Recorder.setEntry, hother]
  refine ⟨{ toBooks := h.toBooks.of_eq rfl rfl rfl rfl, watch := ?_, heads := fun other hother => ?_,
            used := ?_, windowSegment := ?_ }, ?_, fun _ => rfl, rfl⟩
  · have hcard := congrArg Finset.card hlive
    rw [Finset.card_insert_of_notMem hnot, ← h.watch] at hcard
    exact hcard.symm
  · intro huse
    have hheaded := h.heads other
    unfold Recorder.Headed at hheaded
    simp only [Recorder.setEntry, Function.update_of_ne hother] at huse ⊢
    exact hheaded huse
  · simp [Recorder.setEntry, hused]
  · simp [Recorder.setEntry, ← hentry]
  · simp [Recorder.setEntry, ← hentry]

/-! ## Notes -/

theorem Recorder.Sound.beginFrame (h : recorder.Sound) (frame : UInt64) :
    (beginFrame recorder frame).Sound := by
  unfold PaletteEvidence.beginFrame
  split_ifs
  · exact h.of_eq rfl rfl rfl rfl rfl rfl
  · exact h

theorem Recorder.Sound.admitted (h : recorder.Sound) (key : ObjectKey) {t : Recorder} (ht : t.Sound) :
    Recorder.Sound
      (if recorder.windowClosed then countWindowClosed recorder
      else if !admitsSession recorder key then countStaleSession recorder else t) := by
  split_ifs
  · exact h.of_eq rfl rfl rfl rfl rfl rfl
  · exact h.of_eq rfl rfl rfl rfl rfl rfl
  · exact ht

theorem Recorder.Sound.countFind (h : recorder.Sound) (key : ObjectKey) (type : ChainType) :
    (countFind recorder key type).Sound := by
  unfold PaletteEvidence.countFind
  split_ifs
  · exact h.of_eq rfl rfl rfl rfl rfl rfl
  · exact h

theorem Recorder.Watches.countFind (h : recorder.Watches key type place) (other : ObjectKey)
    (otherType : ChainType) : (countFind recorder other otherType).Watches key type place := by
  unfold PaletteEvidence.countFind
  split_ifs
  · exact ⟨h.used, h.chainType, h.windowSegment, h.sameKey⟩
  · exact h

theorem sameObservation_spec {instanceId : UInt64}
    (h : sameObservation recorder key instanceId = some place) :
    recorder.Watches key .observation place :=
  chainPlace_spec (Option.filter_eq_some_iff.mp h).1

theorem Recorder.Sound.onBothChains (h : recorder.Sound) (key : ObjectKey)
    {advance : Recorder → Fin kWatchCapacity → Recorder} {countLost : Recorder → Recorder}
    (hadvance : ∀ (r : Recorder) (type : ChainType) (place : Fin kWatchCapacity), r.Sound →
      r.Watches key type place → (advance r place).Sound)
    (hlost : ∀ r : Recorder, r.Sound → (countLost r).Sound) :
    (onBothChains recorder key advance countLost).Sound := by
  have hfound := (h.countFind key .rejectionRecovery).countFind key .observation
  unfold PaletteEvidence.onBothChains
  dsimp only
  have hsecond {r : Recorder} {instanceId : UInt64} {place : Fin kWatchCapacity} (hr : r.Sound)
      (hsame : sameObservation r key instanceId = some place) :
      (advance (PaletteEvidence.countFind r key .observation) place).Sound :=
    hadvance _ .observation place (hr.countFind key .observation)
      ((sameObservation_spec hsame).countFind key .observation)
  cases hreject : chainPlace recorder key .rejectionRecovery with
  | none =>
    cases hobservation : chainPlace recorder key .observation with
    | none => exact hfound.of_eq rfl rfl rfl rfl rfl rfl
    | some observationChain =>
      dsimp only
      split
      · exact hsecond hfound (by assumption)
      · exact hlost _ (hfound.countFind key .observation)
  | some rejectChain =>
    have hadvanced := hadvance _ .rejectionRecovery rejectChain hfound
      (((chainPlace_spec hreject).countFind key .rejectionRecovery).countFind key .observation)
    cases hobservation : chainPlace recorder key .observation with
    | none => exact hadvanced
    | some observationChain =>
      dsimp only
      split
      · exact hsecond hadvanced (by assumption)
      · exact hlost _ (hadvanced.countFind key .observation)

theorem Recorder.Sound.notePath (h : recorder.Sound) {fact : PathFact} (hkeeps : fact.Keeps)
    (key : ObjectKey) (frames : ObjectFrames) : (notePath hook fact key frames recorder).Sound := by
  unfold PaletteEvidence.notePath
  exact h.admitted key ((h.beginFrame _).onBothChains key
    (fun r type place hr hwatches => hr.advanceOnChain hwatches hkeeps)
    fun r hr => hr.of_eq rfl rfl rfl rfl rfl rfl)

theorem Recorder.Sound.noteObjectGone (h : recorder.Sound) (key : ObjectKey) :
    (noteObjectGone hook key recorder).Sound := by
  unfold PaletteEvidence.noteObjectGone
  refine h.admitted key ?_
  dsimp only
  have hfirst := h.countFind key .rejectionRecovery
  have hlooked : (if (chainPlace recorder key .rejectionRecovery).isSome = true then
      PaletteEvidence.countFind recorder key .rejectionRecovery
      else PaletteEvidence.countFind (PaletteEvidence.countFind recorder key .rejectionRecovery) key
        .observation).Sound := by
    split_ifs
    · exact hfirst
    · exact hfirst.countFind key .observation
  generalize (if (chainPlace recorder key .rejectionRecovery).isSome = true then
    PaletteEvidence.countFind recorder key .rejectionRecovery
    else PaletteEvidence.countFind (PaletteEvidence.countFind recorder key .rejectionRecovery) key
      .observation) = looked at hlooked ⊢
  split_ifs
  · exact hlooked.of_eq rfl rfl rfl rfl rfl rfl
  · exact hlooked.onBothChains key (fun r type place hr hwatches => hr.settleObjectGone hwatches)
      fun r hr => hr.of_eq rfl rfl rfl rfl rfl rfl

theorem Recorder.Sound.rejectTableFull (h : recorder.Sound) (key : ObjectKey) (reason : RejectReason)
    (frames : ObjectFrames) : (rejectTableFull hook key reason frames recorder).Sound := by
  have hcounted : (countTableFull recorder).Sound := h.of_eq rfl rfl rfl rfl rfl rfl
  have hannounced : ({ countTableFull recorder with tableFullAnnounced := true } : Recorder).Sound :=
    hcounted.of_eq rfl rfl rfl rfl rfl rfl
  unfold PaletteEvidence.rejectTableFull
  dsimp only
  split_ifs with hannounce hcan
  · exact hcounted
  · exact hannounced.accountDrop (by simpa using hcan)
  · have hcan : canEmit { countTableFull recorder with tableFullAnnounced := true } true = true := by
      simpa using hcan
    refine emitUnchecked_sound (Recorder.Sound.emitRecord ?_ ?_ _)
    · exact hannounced.of_eq rfl rfl rfl rfl rfl rfl
    · exact hcan

theorem Recorder.Sound.noteReject (h : recorder.Sound) (key : ObjectKey) (reason : RejectReason)
    (frames : ObjectFrames) : (noteReject hook key reason frames recorder).Sound := by
  unfold PaletteEvidence.noteReject
  refine h.admitted key ?_
  dsimp only
  have hfound := (h.beginFrame frames.renderFrame).countFind key .rejectionRecovery
  cases hplace : chainPlace (PaletteEvidence.beginFrame recorder frames.renderFrame) key
      .rejectionRecovery with
  | some place =>
    have hwatches := (chainPlace_spec hplace).countFind key .rejectionRecovery
    dsimp only
    split_ifs with hseen hcan
    · exact hfound.countRepeated _
    · exact hfound.accountDrop (by simpa using hcan)
    · exact (hfound.soundBut hwatches).rejectOnChain (by simpa using hcan) hwatches.chainType reason
        frames
  | none =>
    dsimp only
    split_ifs with hfull hcan
    · exact hfound.rejectTableFull key reason frames
    · exact hfound.accountDrop (by simpa using hcan)
    · split
      · rename_i place inserted hinsert
        have hinserted := hfound.insert hinsert
        refine hinserted.soundBut.rejectOnChain ?_ hinserted.chainType reason frames
        rw [hinserted.canEmit]
        simpa using hcan
      · exact hfound.of_eq rfl rfl rfl rfl rfl rfl

theorem Recorder.SoundBut.countInserted (h : recorder.SoundBut place) :
    Recorder.SoundBut { recorder with counters := { recorder.counters with
      firstSightInserted := recorder.counters.firstSightInserted + 1 } } place :=
  ⟨h.toBooks.of_eq rfl rfl rfl rfl, h.watch, h.heads, h.used, h.windowSegment⟩

theorem Recorder.Sound.noteFirstSight (h : recorder.Sound) (key : ObjectKey) (frames : ObjectFrames) :
    (noteFirstSight hook key frames recorder).Sound := by
  unfold PaletteEvidence.noteFirstSight
  refine h.admitted key ?_
  dsimp only
  have hfound := (h.beginFrame frames.renderFrame).countFind key .observation
  cases hplace : chainPlace (PaletteEvidence.beginFrame recorder frames.renderFrame) key
      .observation with
  | some place =>
    have hwatches := (chainPlace_spec hplace).countFind key .observation
    dsimp only
    split_ifs with hseen hcan
    · exact hfound.countRepeated _
    · exact hfound.accountDrop (by simpa using hcan)
    · exact (hfound.soundBut hwatches).firstSightOnChain (by simpa using hcan) hwatches.chainType
        frames
  | none =>
    dsimp only
    split_ifs with hcan
    · exact hfound.accountDrop (by simpa using hcan)
    · split
      · rename_i place inserted hinsert
        have hinserted := hfound.insert hinsert
        refine hinserted.soundBut.countInserted.firstSightOnChain ?_ hinserted.chainType frames
        have hsame := hinserted.canEmit false
        exact hsame.trans (by simpa using hcan)
      · exact hfound.of_eq rfl rfl rfl rfl rfl rfl

theorem Recorder.Books.resetForSessionTransition (h : recorder.Books)
    (sessionGeneration mapEpoch : UInt64) :
    (recorder.resetForSessionTransition sessionGeneration mapEpoch).Sound where
  toBooks := h.of_eq rfl rfl rfl rfl
  watch := (Finset.card_eq_zero.mpr (Finset.filter_eq_empty_iff.mpr fun _ _ => by
    simp [Recorder.resetForSessionTransition])).symm
  heads := fun place huse => by cases huse

theorem Recorder.Sound.run (h : recorder.Sound) (call : Call) : (call.run hook recorder).Sound := by
  cases call with
  | reject key reason frames => exact h.noteReject key reason frames
  | firstSight key frames => exact h.noteFirstSight key frames
  | served key source hitKey frames => exact h.notePath (servedFact_keeps source hitKey frames) key frames
  | enqueued key source hitKey frames cleared =>
    exact h.notePath (enqueuedFact_keeps source hitKey frames cleared) key frames
  | drawn key source hitKey frames cleared =>
    exact h.notePath (drawnFact_keeps source hitKey frames cleared) key frames
  | objectGone key => exact h.noteObjectGone key
  | close frame => exact h.closeWindow frame
  | transition sessionGeneration mapEpoch =>
    exact h.toBooks.resetForSessionTransition sessionGeneration mapEpoch

theorem reset_sound (recorder : Recorder) (sessionGeneration mapEpoch : UInt64) :
    (recorder.reset sessionGeneration mapEpoch).Sound where
  emitted := rfl
  terminalEmitted := rfl
  terminals_le := Nat.zero_le _
  nonTerminals_le := Nat.zero_le _
  refused := fun refusal hrefusal => absurd hrefusal List.not_mem_nil
  watch := (Finset.card_eq_zero.mpr (Finset.filter_eq_empty_iff.mpr fun _ _ => by
    simp [Recorder.reset])).symm
  heads := fun place huse => by cases huse

end War3VK.Tools.PaletteEvidence

/-!
## The accounts of the recorder of palette evidence

Nothing is lost silently: each note either emits its events or counts what it drops, also when the
window is closed from inside. The budget of a frame is kept by every part of a note that has begun
with this frame.
-/

namespace War3VK.Tools.PaletteEvidence

variable {hook : List Emission → Option UInt64} {s t u : Recorder} {frame : Option UInt64}

/-! ### Accounts -/

/-- The events that were dropped, but for the terminals that the reserve had no room for. -/
def Counters.dropped (c : Counters) : ℕ :=
  c.droppedPerFrame + c.droppedPerSession + c.droppedTableFull + c.droppedDuplicatePerFrame +
    c.droppedPayloadConflict + c.droppedStaleSession + c.objectGoneLostToReentrancy +
    c.pathObservationSkippedAfterReentrantClose + c.droppedWindowClosedEntry +
    c.droppedNoChainForPathFact

def Recorder.gones (recorder : Recorder) : ℕ :=
  recorder.log.countP fun e => e.record.terminal = .objectGone

/-- What the notes have emitted or dropped; the terminals of a closed window are not theirs. -/
def Recorder.accounts (recorder : Recorder) : ℕ :=
  recorder.nonTerminals + recorder.gones + recorder.counters.dropped

def Recorder.perFrame (recorder : Recorder) (frame : UInt64) : ℕ :=
  recorder.log.countP fun e => !e.terminal && e.record.frames.renderFrame = frame

/-- The budgets of all frames are kept, and that of this one, if any, has counted its events. -/
structure Recorder.Framed (recorder : Recorder) (frame : Option UInt64) : Prop where
  le : ∀ frame, recorder.perFrame frame ≤ kPerFrameBudget
  counted : ∀ current ∈ frame, recorder.perFrame current ≤ recorder.frameBudgetUsed

/-- A part of a call for a frame that has `n` events to report, and refuses some terminals. -/
structure Part (s t : Recorder) (frame : Option UInt64) (n refused : ℕ) : Prop where
  accounts : s.accounts + n = t.accounts + refused
  reserve : s.counters.droppedTerminalReserve + refused ≤ t.counters.droppedTerminalReserve
  framed : s.Framed frame → t.Framed frame

theorem Part.trans {n m refused more : ℕ} (h : Part s t frame n refused)
    (h' : Part t u frame m more) : Part s u frame (n + m) (refused + more) where
  accounts := by
    have hfirst := h.accounts
    have hsecond := h'.accounts
    omega
  reserve := by
    have hfirst := h.reserve
    have hsecond := h'.reserve
    omega
  framed := fun hs => h'.framed (h.framed hs)

theorem Part.of_log {n : ℕ} (hlog : t.log = s.log) (hbudget : t.frameBudgetUsed = s.frameBudgetUsed)
    (hdropped : t.counters.dropped = s.counters.dropped + n)
    (hreserve : t.counters.droppedTerminalReserve = s.counters.droppedTerminalReserve) :
    Part s t frame n 0 where
  accounts := by
    unfold Recorder.accounts Recorder.nonTerminals Recorder.gones
    rw [hlog, hdropped]
    omega
  reserve := hreserve.ge
  framed := fun h => by
    have hperFrame : t.perFrame = s.perFrame := by
      unfold Recorder.perFrame
      rw [hlog]
    exact ⟨by rw [hperFrame]; exact h.le, by rw [hperFrame, hbudget]; exact h.counted⟩

theorem Part.refl (s : Recorder) (frame : Option UInt64) : Part s s frame 0 0 :=
  .of_log rfl rfl rfl rfl

theorem Part.silent {n refused : ℕ} (h : Part s t frame n refused) (hlog : u.log = t.log)
    (hbudget : u.frameBudgetUsed = t.frameBudgetUsed)
    (hdropped : u.counters.dropped = t.counters.dropped)
    (hreserve : u.counters.droppedTerminalReserve = t.counters.droppedTerminalReserve) :
    Part s u frame n refused :=
  h.trans (.of_log hlog hbudget (hdropped.trans (Nat.add_zero _).symm) hreserve)

theorem Part.emit (hcan : canEmit s false = true) {record : EventRecord}
    (hterminal : record.terminal ≠ .objectGone) (hframe : frame = some record.frames.renderFrame) :
    Part s (emitRecord s record false) frame 1 0 where
  accounts := by
    unfold Recorder.accounts Recorder.nonTerminals Recorder.gones emitRecord
    simp only [List.countP_cons, hterminal, decide_false, Bool.not_false, if_true, Bool.false_eq_true,
      if_false]
    have hsame : ({ s.counters with
        emitted := s.counters.emitted + 1
        terminalEmitted := s.counters.terminalEmitted + 0 } : Counters).dropped = s.counters.dropped := rfl
    rw [hsame]
    omega
  reserve := Nat.le_refl _
  framed := fun h => by
    have hbudget := (canEmit_false hcan).2
    have hperFrame : ∀ other, (emitRecord s record false).perFrame other =
        s.perFrame other + if record.frames.renderFrame = other then 1 else 0 := by
      intro other
      unfold Recorder.perFrame emitRecord
      rw [List.countP_cons]
      simp only [Bool.not_false, Bool.true_and, decide_eq_true_eq]
    have hcounted := h.counted _ hframe
    refine ⟨fun other => ?_, fun current hcurrent => ?_⟩
    · rw [hperFrame]
      split_ifs with hother
      · subst hother
        omega
      · exact h.le other
    · obtain rfl := Option.some.inj (hframe.symm.trans hcurrent)
      rw [hperFrame, if_pos rfl]
      exact Nat.succ_le_succ hcounted

theorem Part.emitTerminal (s : Recorder) (frame : Option UInt64) (record : EventRecord) :
    Part s (emitRecord s record true) frame (if record.terminal = .objectGone then 1 else 0) 0 where
  accounts := by
    have hdropped : (emitRecord s record true).counters.dropped = s.counters.dropped := rfl
    have hnonTerminals : (emitRecord s record true).nonTerminals = s.nonTerminals :=
      List.countP_cons_of_neg (by simp)
    have hgones : (emitRecord s record true).gones =
        s.gones + if record.terminal = .objectGone then 1 else 0 := by
      unfold Recorder.gones emitRecord
      simp only [List.countP_cons, decide_eq_true_eq]
    unfold Recorder.accounts
    rw [hdropped, hnonTerminals, hgones]
    omega
  reserve := Nat.le_refl _
  framed := fun h => by
    have hperFrame : (emitRecord s record true).perFrame = s.perFrame := by
      funext other
      exact List.countP_cons_of_neg (by simp)
    exact ⟨by rw [hperFrame]; exact h.le, fun current hcurrent => by
        rw [hperFrame]
        exact (h.counted current hcurrent).trans (Nat.le_succ _)⟩

theorem dropCounters_false (s : Recorder) :
    (dropCounters s false).dropped = s.counters.dropped + 1 ∧
      (dropCounters s false).droppedTerminalReserve = s.counters.droppedTerminalReserve := by
  unfold dropCounters
  dsimp only
  rw [if_neg fun h => Bool.false_ne_true h.1]
  split_ifs
  · refine ⟨?_, rfl⟩
    unfold Counters.dropped
    dsimp only
    omega
  · refine ⟨?_, rfl⟩
    unfold Counters.dropped
    dsimp only
    omega

theorem Part.drop (s : Recorder) (frame : Option UInt64) : Part s (accountDrop s false) frame 1 0 :=
  .of_log rfl rfl (dropCounters_false s).1 (dropCounters_false s).2

theorem Recorder.Books.accountDrop_true (h : s.Books) (hcan : canEmit s true = false) :
    (PaletteEvidence.accountDrop s true).counters = { s.counters with
      droppedTerminalReserve := s.counters.droppedTerminalReserve + 1 } := by
  have hfull : s.counters.terminalEmitted ≥ kTerminalReserve := by
    rw [h.terminalEmitted]
    refine Nat.not_lt.mp fun hlt => ?_
    rw [h.canEmit_true_iff.mpr hlt] at hcan
    cases hcan
  unfold PaletteEvidence.accountDrop dropCounters
  dsimp only
  rw [if_pos ⟨rfl, hfull⟩]

theorem Part.refuse (h : s.Books) (hcan : canEmit s true = false) (frame : Option UInt64) :
    Part s (accountDrop s true) frame 1 1 where
  accounts := by
    have hdropped : (accountDrop s true).counters.dropped = s.counters.dropped := by
      rw [h.accountDrop_true hcan]
      rfl
    unfold Recorder.accounts
    rw [hdropped]
    rfl
  reserve := by rw [h.accountDrop_true hcan]
  framed := fun hs => ⟨hs.le, hs.counted⟩

/-! ### The end of the window -/

theorem closingTerminal_ne (e : Entry) : closingTerminal e ≠ .objectGone := by
  unfold closingTerminal
  split_ifs <;> simp

theorem countClosed_dropped (c : Counters) (terminal : Terminal) :
    (countClosed c terminal).dropped = c.dropped ∧
      (countClosed c terminal).droppedTerminalReserve = c.droppedTerminalReserve := by
  cases terminal <;> exact ⟨rfl, rfl⟩

theorem Part.forget (h : Part s t frame 1 1) : Part s t frame 0 0 where
  accounts := Nat.succ_injective h.accounts
  reserve := (Nat.le_succ _).trans h.reserve
  framed := h.framed

theorem Recorder.Books.closeEntry_part (h : s.Books) (closing : UInt64)
    (place : Fin kWatchCapacity) : Part s (PaletteEvidence.closeEntry closing s place) frame 0 0 := by
  unfold PaletteEvidence.closeEntry
  dsimp only
  split_ifs with hused hcan
  · exact .refl s frame
  · exact (Part.refuse h (by simpa using hcan) frame).forget.silent rfl rfl rfl rfl
  · have hemit := Part.emitTerminal s frame (closingRecord s.windowSegment closing (s.entries place))
    rw [if_neg (show (closingRecord s.windowSegment closing (s.entries place)).terminal ≠ _ from
      closingTerminal_ne _)] at hemit
    have hclosed := countClosed_dropped
      (PaletteEvidence.emitRecord s (closingRecord s.windowSegment closing (s.entries place)) true).counters
      (closingTerminal (s.entries place))
    exact hemit.silent rfl rfl hclosed.1 hclosed.2

theorem Recorder.Books.closeWindow_part (h : s.Books) (closing : UInt64) :
    Part s (closeWindow s closing) frame 0 0 := by
  by_cases hclosed : s.windowClosed = true
  · unfold closeWindow
    rw [if_pos hclosed]
    exact .refl s frame
  obtain ⟨places, -, heq⟩ := closeWindow_of_open (Bool.eq_false_iff.mpr hclosed) closing
  have hfold : ∀ (places : List (Fin kWatchCapacity)) (r : Recorder), r.Books →
      Part r (places.foldl (PaletteEvidence.closeEntry closing) r) frame 0 0 := by
    intro places
    induction places with
    | nil => exact fun r _ => .refl r frame
    | cons place places ih =>
      exact fun r hr => (hr.closeEntry_part closing place).trans (ih _ (hr.closeEntry closing place))
  have hopened : ({ s with windowClosed := true } : Recorder).Books := h.of_eq rfl rfl rfl rfl
  have hmarked : Part s { s with windowClosed := true } frame 0 0 :=
    (Part.refl s frame).silent rfl rfl rfl rfl
  rw [heq]
  exact (hmarked.trans (hfold places _ hopened)).silent rfl rfl rfl rfl

theorem Part.emitUnchecked {record : EventRecord} {terminal : Bool} {n refused : ℕ}
    (h : Part s (emitRecord t record terminal) frame n refused)
    (hbooks : (emitRecord t record terminal).Books) :
    Part s (emitUnchecked hook t record terminal) frame n refused := by
  unfold PaletteEvidence.emitUnchecked
  dsimp only
  split
  · exact h.trans (hbooks.closeWindow_part _)
  · exact h

end War3VK.Tools.PaletteEvidence
