import War3VK.Tools.PaletteEvidenceSound

/-!
# What the notes of palette evidence report

Each note on a chain reports its event: it emits it, drops it, or has it refused by the reserve, and
an end of the window from inside changes nothing in this.
-/

namespace War3VK.Tools.PaletteEvidence

variable {hook : List Emission → Option UInt64} {s t : Recorder} {frame : Option UInt64}
  {place : Fin kWatchCapacity} {key : ObjectKey} {type : ChainType}

/-! ## Chains -/

theorem countFind_part (s : Recorder) (key : ObjectKey) (type : ChainType) (frame : Option UInt64) :
    Part s (countFind s key type) frame 0 0 := by
  unfold countFind
  split_ifs
  · exact (Part.refl s frame).silent rfl rfl rfl rfl
  · exact .refl s frame

theorem countRepeated_part (s : Recorder) (same : Bool) (frame : Option UInt64) :
    Part s (countRepeated s same) frame 1 0 := by
  refine .of_log rfl rfl ?_ ?_
  · unfold countRepeated Counters.dropped
    cases same <;> simp only [Bool.false_eq_true, if_true, if_false] <;> omega
  · unfold countRepeated
    cases same <;> rfl

structure PathFact.IsOf (fact : PathFact) (frame : UInt64) : Prop where
  terminal : ∀ windowSegment e next, (fact.record windowSegment e next).terminal = .none
  frame : ∀ windowSegment e next, (fact.record windowSegment e next).frames.renderFrame = frame

variable {current : UInt64}

theorem Recorder.Sound.advanceOnChain_part (h : s.Sound) (hwatches : s.Watches key type place)
    {fact : PathFact} (hkeeps : fact.Keeps) (hof : fact.IsOf current) :
    Part s (PaletteEvidence.advanceOnChain hook fact s place) (some current) 1 0 := by
  unfold PaletteEvidence.advanceOnChain
  dsimp only
  split_ifs with hseen hcan
  · exact countRepeated_part s _ _
  · exact .drop s _
  · have hupdate := hkeeps (s.entries place)
    have hcan : canEmit s false = true := by simpa using hcan
    generalize hnext : ({ fact.update (s.entries place) with
      chainSequence := (fact.update (s.entries place)).chainSequence + 1 } : Entry) = next
    have hset : (s.setEntry place next).Sound := by
      rw [← hnext]
      exact h.setEntry hwatches.used (hupdate.used.trans hwatches.used) hupdate.key hupdate.chainType
        hupdate.windowSegment
    have hcanSet : canEmit (s.setEntry place next) false = true := hcan
    have hmarked : Part s (s.setEntry place next) (some current) 0 0 :=
      (Part.refl s _).silent rfl rfl rfl rfl
    have hrecord := hof.terminal s.windowSegment (s.entries place) next
    have hframe := hof.frame s.windowSegment (s.entries place) next
    have hemit := Part.emit hcanSet (by rw [hrecord]; simp) (congrArg some hframe.symm)
    exact (hmarked.trans hemit).emitUnchecked
      (hset.toBooks.emitRecord hcanSet _)

theorem Recorder.Sound.settleObjectGone_part (h : s.Sound) (hwatches : s.Watches key type place)
    (frame : Option UInt64) :
    ∃ refused, Part s (PaletteEvidence.settleObjectGone hook s place) frame 1 refused := by
  unfold PaletteEvidence.settleObjectGone
  dsimp only
  split_ifs with hcan
  · exact ⟨1, (Part.refuse h.toBooks (by simpa using hcan) frame).silent rfl rfl rfl rfl⟩
  · have hcan : canEmit s true = true := by simpa using hcan
    have hcounted : ({ s with counters := { s.counters with
        closedObjectGone := s.counters.closedObjectGone + 1 } } : Recorder).Sound :=
      h.of_eq rfl rfl rfl rfl rfl rfl
    generalize hnext : ({ s.entries place with
      chainSequence := (s.entries place).chainSequence + 1 } : Entry) = next
    have hburied := hcounted.bury hwatches.used next
    generalize hclaimed : Recorder.bury { s with counters := { s.counters with
      closedObjectGone := s.counters.closedObjectGone + 1 } } place next = claimed at hburied ⊢
    have hclaim : Part s claimed frame 0 0 := by
      rw [← hclaimed]
      exact (Part.refl s frame).silent rfl rfl rfl rfl
    have hcanClaimed : canEmit claimed true = true := by
      rw [← hclaimed]
      exact hcan
    have hemit := Part.emitTerminal claimed frame (goneRecord s.windowSegment (s.entries place))
    rw [if_pos (show (goneRecord s.windowSegment (s.entries place)).terminal = .objectGone from rfl)]
      at hemit
    exact ⟨0, (hclaim.trans hemit).emitUnchecked (hburied.toBooks.emitRecord hcanClaimed _)⟩

/-! ## Notes -/

theorem countWindowClosed_part (s : Recorder) (frame : Option UInt64) :
    Part s (countWindowClosed s) frame 1 0 := by
  refine .of_log rfl rfl ?_ rfl
  unfold countWindowClosed Counters.dropped
  dsimp only
  omega

theorem countStaleSession_part (s : Recorder) (frame : Option UInt64) :
    Part s (countStaleSession s) frame 1 0 := by
  refine .of_log rfl rfl ?_ rfl
  unfold countStaleSession Counters.dropped
  dsimp only
  omega

theorem countNoChain_part (s : Recorder) (frame : Option UInt64) :
    Part s (countNoChain s) frame 1 0 := by
  refine .of_log rfl rfl ?_ rfl
  unfold countNoChain Counters.dropped
  dsimp only
  omega

theorem countTableFull_part (s : Recorder) (frame : Option UInt64) :
    Part s (countTableFull s) frame 1 0 := by
  refine .of_log rfl rfl ?_ rfl
  unfold countTableFull Counters.dropped
  dsimp only
  omega

def Recorder.chains (recorder : Recorder) (key : ObjectKey) : ℕ :=
  (if (chainPlace recorder key .rejectionRecovery).isSome then 1 else 0) +
    if (chainPlace recorder key .observation).isSome then 1 else 0

theorem Recorder.Sound.onBothChains_part (h : s.Sound) (key : ObjectKey)
    {advance : Recorder → Fin kWatchCapacity → Recorder} {countLost : Recorder → Recorder}
    (hadvance : ∀ (r : Recorder) (type : ChainType) (place : Fin kWatchCapacity), r.Sound →
      r.Watches key type place →
      (advance r place).Sound ∧ ∃ refused, Part r (advance r place) frame 1 refused)
    (hlost : ∀ r : Recorder, Part r (countLost r) frame 1 0) :
    ∃ refused, Part s (PaletteEvidence.onBothChains s key advance countLost) frame
      (max 1 (s.chains key)) refused := by
  have hfound := (h.countFind key .rejectionRecovery).countFind key .observation
  have hlook : Part s (PaletteEvidence.countFind (PaletteEvidence.countFind s key .rejectionRecovery)
      key .observation) frame 0 0 :=
    (countFind_part s key .rejectionRecovery frame).trans (countFind_part _ key .observation frame)
  unfold PaletteEvidence.onBothChains Recorder.chains
  dsimp only
  -- The observation is reported whether or not its chain is still there.
  have hsecond {r : Recorder} {instanceId : UInt64} {place : Fin kWatchCapacity} (hr : r.Sound)
      (hsame : sameObservation r key instanceId = some place) :
      ∃ refused, Part r (advance (PaletteEvidence.countFind r key .observation) place) frame 1
        refused := by
    obtain ⟨-, refused, hpart⟩ := hadvance _ .observation place (hr.countFind key .observation)
      ((sameObservation_spec hsame).countFind key .observation)
    exact ⟨0 + refused, (countFind_part r key .observation frame).trans hpart⟩
  have hgone (r : Recorder) :
      Part r (countLost (PaletteEvidence.countFind r key .observation)) frame 1 0 :=
    (countFind_part r key .observation frame).trans (hlost _)
  cases hreject : chainPlace s key .rejectionRecovery with
  | none =>
    cases hobservation : chainPlace s key .observation with
    | none =>
      exact ⟨0, hlook.trans (countNoChain_part _ frame)⟩
    | some observationChain =>
      dsimp only
      split
      · rename_i hsame
        obtain ⟨refused, hpart⟩ := hsecond hfound hsame
        exact ⟨0 + refused, hlook.trans hpart⟩
      · exact ⟨0 + 0, hlook.trans (hgone _)⟩
  | some rejectChain =>
    obtain ⟨hadvanced, refused, hpart⟩ := hadvance _ .rejectionRecovery rejectChain hfound
      (((chainPlace_spec hreject).countFind key .rejectionRecovery).countFind key .observation)
    cases hobservation : chainPlace s key .observation with
    | none => exact ⟨0 + refused, hlook.trans hpart⟩
    | some observationChain =>
      dsimp only
      split
      · rename_i hsame
        obtain ⟨more, hrest⟩ := hsecond hadvanced hsame
        exact ⟨0 + refused + more, (hlook.trans hpart).trans hrest⟩
      · exact ⟨0 + refused + 0, (hlook.trans hpart).trans (hgone _)⟩

theorem Recorder.Sound.onPath_part (hook : List Emission → Option UInt64) (h : s.Sound)
    {fact : PathFact} (hkeeps : fact.Keeps) (hof : fact.IsOf current) (key : ObjectKey) :
    ∃ refused, Part s (PaletteEvidence.onBothChains s key (PaletteEvidence.advanceOnChain hook fact)
      fun recorder =>
        { recorder with counters := { recorder.counters with
            pathObservationSkippedAfterReentrantClose :=
              recorder.counters.pathObservationSkippedAfterReentrantClose + 1 } })
      (some current) (max 1 (s.chains key)) refused := by
  refine h.onBothChains_part key (fun r type place hr hwatches => ?_) fun r => ?_
  · exact ⟨hr.advanceOnChain hwatches hkeeps, 0, hr.advanceOnChain_part hwatches hkeeps hof⟩
  · refine .of_log rfl rfl ?_ rfl
    unfold Counters.dropped
    dsimp only
    omega

theorem Recorder.Sound.onGone_part (hook : List Emission → Option UInt64) (h : s.Sound) (key : ObjectKey) (frame : Option UInt64) :
    ∃ refused, Part s (PaletteEvidence.onBothChains s key (PaletteEvidence.settleObjectGone hook)
      fun recorder =>
        { recorder with counters := { recorder.counters with
            objectGoneLostToReentrancy := recorder.counters.objectGoneLostToReentrancy + 1 } })
      frame (max 1 (s.chains key)) refused := by
  refine h.onBothChains_part key (fun r type place hr hwatches => ?_) fun r => ?_
  · exact ⟨hr.settleObjectGone hwatches, hr.settleObjectGone_part hwatches frame⟩
  · refine .of_log rfl rfl ?_ rfl
    unfold Counters.dropped
    dsimp only
    omega

theorem Recorder.Books.emit_part (h : s.Books) (hcan : canEmit s false = true)
    (hlog : t.log = s.log) (hrefusals : t.refusals = s.refusals)
    (hbudget : t.frameBudgetUsed = s.frameBudgetUsed)
    (hemitted : t.counters.emitted = s.counters.emitted)
    (hterminal : t.counters.terminalEmitted = s.counters.terminalEmitted)
    (hdropped : t.counters.dropped = s.counters.dropped)
    (hreserve : t.counters.droppedTerminalReserve = s.counters.droppedTerminalReserve)
    {record : EventRecord} (hrecord : record.terminal = .none)
    (hframe : record.frames.renderFrame = current) :
    Part s (PaletteEvidence.emitUnchecked hook t record false) (some current) 1 0 := by
  subst hframe
  have hbooks : t.Books := h.of_eq hlog hrefusals hemitted hterminal
  have hcan' : canEmit t false = true := by
    unfold canEmit at hcan ⊢
    rw [hemitted, hterminal, hbudget]
    exact hcan
  have hpart : Part s t (some record.frames.renderFrame) 0 0 :=
    (Part.refl s _).silent hlog hbudget hdropped hreserve
  have hemit : Part t (PaletteEvidence.emitRecord t record false) (some record.frames.renderFrame) 1 0 :=
    .emit hcan' (by rw [hrecord]; simp) rfl
  exact (hpart.trans hemit).emitUnchecked (hbooks.emitRecord hcan' record)

theorem Recorder.SoundBut.rejectOnChain_part (h : s.SoundBut place) (hcan : canEmit s false = true)
    (reason : RejectReason) (frames : ObjectFrames) :
    Part s (PaletteEvidence.rejectOnChain hook reason frames s place) (some frames.renderFrame) 1 0 := by
  unfold PaletteEvidence.rejectOnChain
  dsimp only
  refine h.toBooks.emit_part hcan ?_ ?_ ?_ ?_ ?_ ?_ ?_ ?_ ?_ <;> rfl

theorem Recorder.SoundBut.firstSightOnChain_part (h : s.SoundBut place)
    (hcan : canEmit s false = true) (frames : ObjectFrames) :
    Part s (PaletteEvidence.firstSightOnChain hook frames s place) (some frames.renderFrame) 1 0 := by
  unfold PaletteEvidence.firstSightOnChain
  dsimp only
  refine h.toBooks.emit_part hcan ?_ ?_ ?_ ?_ ?_ ?_ ?_ ?_ ?_ <;> rfl

theorem Recorder.Sound.rejectTableFull_part (h : s.Sound) (key : ObjectKey) (reason : RejectReason)
    (frames : ObjectFrames) (frame : Option UInt64) :
    Part s (PaletteEvidence.rejectTableFull hook key reason frames s) frame 1 0 := by
  have hcounted : (countTableFull s).Sound := h.of_eq rfl rfl rfl rfl rfl rfl
  have hannounced : ({ countTableFull s with tableFullAnnounced := true } : Recorder).Sound :=
    hcounted.of_eq rfl rfl rfl rfl rfl rfl
  have hcount := countTableFull_part s frame
  have hannounce : Part s { countTableFull s with tableFullAnnounced := true } frame 1 0 :=
    hcount.silent rfl rfl rfl rfl
  unfold PaletteEvidence.rejectTableFull
  dsimp only
  split_ifs with hsaid hcan
  · exact hcount
  · exact hannounce.trans (Part.refuse hannounced.toBooks (by simpa using hcan) frame).forget
  · have hcan : canEmit { countTableFull s with tableFullAnnounced := true } true = true := by
      simpa using hcan
    have hemit : ∀ closed : Recorder, canEmit closed true = true → closed.Books →
        Part s closed frame 1 0 → Part s (PaletteEvidence.emitUnchecked hook closed
          (tableFullRecord s.windowSegment key reason frames) true) frame 1 0 :=
      fun closed hcanClosed hbooks hclosed =>
        (hclosed.trans (Part.emitTerminal closed frame _)).emitUnchecked
          (hbooks.emitRecord hcanClosed _)
    refine hemit _ ?_ (hannounced.toBooks.of_eq ?_ ?_ ?_ ?_) (hannounce.silent ?_ ?_ ?_ ?_)
    · exact hcan
    all_goals rfl

theorem insert_part {firstFrame : UInt64} {reason : RejectReason} {frames : ObjectFrames}
    (hinsert : PaletteEvidence.insert s key firstFrame reason frames type = some (place, t))
    (frame : Option UInt64) : Part s t frame 0 0 := by
  unfold PaletteEvidence.insert at hinsert
  by_cases hfull : s.watchCount ≥ kWatchCapacity
  · rw [if_pos hfull] at hinsert
    cases hinsert
  rw [if_neg hfull] at hinsert
  obtain ⟨free, -, heq⟩ := Option.map_eq_some_iff.mp hinsert
  obtain ⟨-, rfl⟩ := Prod.mk.inj heq
  exact (Part.refl s frame).silent rfl rfl rfl rfl

end War3VK.Tools.PaletteEvidence

/-!
## Runs of the recorder of palette evidence

What a call has to report is emitted or counted as lost, over whole runs. The budget of a frame is kept
as long as no note comes for a frame that the recorder has left: a new frame and a transition open the
budget again.
-/

namespace War3VK.Tools.PaletteEvidence

variable {hook : List Emission → Option UInt64} {s t : Recorder}

/-! ### Calls -/

theorem probeChain_congr (hentries : t.entries = s.entries) (hwindow : t.windowSegment = s.windowSegment)
    (key : ObjectKey) (type : ChainType) (n probe : ℕ) :
    probeChain t key type n probe = probeChain s key type n probe := by
  induction n generalizing probe with
  | zero => rfl
  | succ n ih =>
    rw [probeChain, probeChain, hentries, hwindow]
    simp only [ih]

theorem chainPlace_congr (hentries : t.entries = s.entries) (hbloom : t.bloom = s.bloom)
    (hwindow : t.windowSegment = s.windowSegment) (key : ObjectKey) (type : ChainType) :
    chainPlace t key type = chainPlace s key type := by
  unfold chainPlace
  rw [hbloom, probeChain_congr hentries hwindow]

theorem beginFrame_chains (s : Recorder) (frame : UInt64) (key : ObjectKey) :
    (beginFrame s frame).chains key = s.chains key := by
  have hplace : ∀ type, chainPlace (beginFrame s frame) key type = chainPlace s key type := by
    intro type
    unfold beginFrame
    split_ifs
    · refine chainPlace_congr ?_ ?_ ?_ key type <;> rfl
    · rfl
  unfold Recorder.chains
  rw [hplace, hplace]

theorem countFind_chains (s : Recorder) (key other : ObjectKey) (type : ChainType) :
    (countFind s other type).chains key = s.chains key := by
  have hplace : ∀ own, chainPlace (countFind s other type) key own = chainPlace s key own := by
    intro own
    unfold countFind
    split_ifs
    · refine chainPlace_congr ?_ ?_ ?_ key own <;> rfl
    · rfl
  unfold Recorder.chains
  rw [hplace, hplace]

/-- The frame has no events yet, or the recorder is in it and has counted its events. -/
def Recorder.InOrder (recorder : Recorder) (frame : UInt64) : Prop :=
  recorder.perFrame frame = 0 ∨
    recorder.currentFrame = frame ∧ recorder.perFrame frame ≤ recorder.frameBudgetUsed

def Recorder.Within (recorder : Recorder) : Prop :=
  ∀ frame, recorder.perFrame frame ≤ kPerFrameBudget

/-- A call that has `n` events to report emits them, counts them as dropped, or counts them as
terminals that the reserve had no room for. -/
def Accounted (s t : Recorder) (n : ℕ) : Prop :=
  ∃ refused, s.accounts + n = t.accounts + refused ∧
    s.counters.droppedTerminalReserve + refused ≤ t.counters.droppedTerminalReserve

structure Reports (s t : Recorder) (inOrder : Prop) (n : ℕ) : Prop where
  accounted : Accounted s t n
  within : inOrder → s.Within → t.Within

variable {n : ℕ}

theorem Part.reports {refused : ℕ} (h : Part s t none n refused) (inOrder : Prop) :
    Reports s t inOrder n where
  accounted := ⟨refused, h.accounts, h.reserve⟩
  within := fun _ hwithin => (h.framed ⟨hwithin, fun _ hnone => by cases hnone⟩).le

theorem Part.reports_of_beginFrame {current : UInt64}
    (h : ∃ refused, Part (PaletteEvidence.beginFrame s current) t (some current) n refused) :
    Reports s t (s.InOrder current) n := by
  obtain ⟨refused, h⟩ := h
  have hsame : (PaletteEvidence.beginFrame s current).log = s.log ∧
      (PaletteEvidence.beginFrame s current).counters = s.counters := by
    unfold PaletteEvidence.beginFrame
    split_ifs <;> exact ⟨rfl, rfl⟩
  have hperFrame : (PaletteEvidence.beginFrame s current).perFrame = s.perFrame := by
    unfold Recorder.perFrame
    rw [hsame.1]
  have haccounts : (PaletteEvidence.beginFrame s current).accounts = s.accounts := by
    unfold Recorder.accounts Recorder.nonTerminals Recorder.gones
    rw [hsame.1, hsame.2]
  refine ⟨⟨refused, haccounts ▸ h.accounts, hsame.2 ▸ h.reserve⟩, fun horder hwithin => ?_⟩
  refine (h.framed ⟨by rw [hperFrame]; exact hwithin, fun frame hframe => ?_⟩).le
  obtain rfl := Option.some.inj hframe
  rw [hperFrame]
  -- A frame that is new has no events, and one that is left does not come back.
  rcases horder with hnone | ⟨hcurrent, hcounted⟩
  · rw [hnone]
    exact Nat.zero_le _
  · unfold PaletteEvidence.beginFrame
    rw [if_neg fun hne => hne hcurrent.symm]
    exact hcounted

/-- What a fact about a key has to report: one event for each of its chains, and one at least. -/
def Recorder.owed (recorder : Recorder) (key : ObjectKey) : ℕ :=
  if recorder.windowClosed ∨ !admitsSession recorder key then 1 else max 1 (recorder.chains key)

variable {inOrder : Prop}

theorem reports_admitted (s : Recorder) (key : ObjectKey)
    (h : ¬s.windowClosed → admitsSession s key → Reports s t inOrder n) :
    Reports s
      (if s.windowClosed then countWindowClosed s
      else if !admitsSession s key then countStaleSession s else t) inOrder
      (if s.windowClosed ∨ !admitsSession s key then 1 else n) := by
  by_cases hclosed : s.windowClosed = true
  · rw [if_pos hclosed, if_pos (.inl hclosed)]
    exact (countWindowClosed_part s none).reports inOrder
  rw [if_neg hclosed]
  by_cases hadmits : (!admitsSession s key) = true
  · rw [if_pos hadmits, if_pos (.inr hadmits)]
    exact (countStaleSession_part s none).reports inOrder
  · rw [if_neg hadmits, if_neg (not_or.mpr ⟨hclosed, hadmits⟩)]
    exact h hclosed (by simpa using hadmits)

theorem reports_admitted_one (s : Recorder) (key : ObjectKey) (h : Reports s t inOrder 1) :
    Reports s
      (if s.windowClosed then countWindowClosed s
      else if !admitsSession s key then countStaleSession s else t) inOrder 1 := by
  have hadmitted := reports_admitted s key fun _ _ => h
  rwa [ite_self] at hadmitted

theorem Recorder.Sound.notePath_reports (h : s.Sound) {fact : PathFact} (hkeeps : fact.Keeps)
    (key : ObjectKey) (frames : ObjectFrames) (hof : fact.IsOf frames.renderFrame) :
    Reports s (PaletteEvidence.notePath hook fact key frames s) (s.InOrder frames.renderFrame)
      (s.owed key) := by
  refine reports_admitted s key fun _ _ => ?_
  obtain ⟨refused, hpart⟩ := (h.beginFrame frames.renderFrame).onPath_part hook hkeeps hof key
  rw [beginFrame_chains] at hpart
  exact Part.reports_of_beginFrame ⟨refused, hpart⟩

theorem Recorder.Sound.noteObjectGone_reports (h : s.Sound) (key : ObjectKey) (inOrder : Prop) :
    Reports s (PaletteEvidence.noteObjectGone hook key s) inOrder (s.owed key) := by
  refine reports_admitted s key fun _ _ => ?_
  dsimp only
  have hfirst := h.countFind key .rejectionRecovery
  have hlooked : ∃ looked : Recorder, looked.Sound ∧ Part s looked none 0 0 ∧
      looked.chains key = s.chains key ∧
      (if (chainPlace s key .rejectionRecovery).isSome then
        PaletteEvidence.countFind s key .rejectionRecovery
      else PaletteEvidence.countFind (PaletteEvidence.countFind s key .rejectionRecovery) key
        .observation) = looked := by
    by_cases hsome : (chainPlace s key .rejectionRecovery).isSome = true
    · exact ⟨_, hfirst, countFind_part s key _ none, countFind_chains s key key _, if_pos hsome⟩
    · exact ⟨_, hfirst.countFind key .observation,
        (countFind_part s key _ none).trans (countFind_part _ key _ none),
        (countFind_chains _ key key _).trans (countFind_chains s key key _), if_neg hsome⟩
  obtain ⟨looked, hsound, hpart, hchains, heq⟩ := hlooked
  rw [heq]
  by_cases hnone : chainPlace s key .rejectionRecovery = none ∧ chainPlace s key .observation = none
  · rw [if_pos hnone]
    have hzero : s.chains key = 0 := by
      unfold Recorder.chains
      rw [hnone.1, hnone.2]
      rfl
    rw [hzero]
    exact (hpart.trans (countNoChain_part looked none)).reports inOrder
  · rw [if_neg hnone, ← hchains]
    obtain ⟨refused, hgone⟩ := hsound.onGone_part hook key none
    have hall := hpart.trans hgone
    rw [Nat.zero_add] at hall
    exact hall.reports inOrder

theorem Recorder.Sound.noteReject_reports (h : s.Sound) (key : ObjectKey) (reason : RejectReason)
    (frames : ObjectFrames) :
    Reports s (PaletteEvidence.noteReject hook key reason frames s) (s.InOrder frames.renderFrame)
      1 := by
  unfold PaletteEvidence.noteReject
  refine reports_admitted_one s key (Part.reports_of_beginFrame ⟨0, ?_⟩)
  dsimp only
  have hfound := (h.beginFrame frames.renderFrame).countFind key .rejectionRecovery
  have hlook := countFind_part (PaletteEvidence.beginFrame s frames.renderFrame) key .rejectionRecovery
    (some frames.renderFrame)
  cases hplace : chainPlace (PaletteEvidence.beginFrame s frames.renderFrame) key
      .rejectionRecovery with
  | some place =>
    have hwatches := (chainPlace_spec hplace).countFind key .rejectionRecovery
    dsimp only
    split_ifs with hseen hcan
    · exact hlook.trans (countRepeated_part _ _ _)
    · exact hlook.trans (.drop _ _)
    · exact hlook.trans
        ((hfound.soundBut hwatches).rejectOnChain_part (by simpa using hcan) reason frames)
  | none =>
    dsimp only
    split_ifs with hfull hcan
    · exact hlook.trans (hfound.rejectTableFull_part key reason frames _)
    · exact hlook.trans (.drop _ _)
    · split
      · rename_i place inserted hinsert
        have hinserted := hfound.insert hinsert
        have hcan' : canEmit inserted false = true := by
          rw [hinserted.canEmit]
          simpa using hcan
        exact (hlook.trans (insert_part hinsert _)).trans
          (hinserted.soundBut.rejectOnChain_part hcan' reason frames)
      · exact hlook.trans (countTableFull_part _ _)

theorem Recorder.Sound.noteFirstSight_reports (h : s.Sound) (key : ObjectKey)
    (frames : ObjectFrames) :
    Reports s (PaletteEvidence.noteFirstSight hook key frames s) (s.InOrder frames.renderFrame) 1 := by
  unfold PaletteEvidence.noteFirstSight
  refine reports_admitted_one s key (Part.reports_of_beginFrame ⟨0, ?_⟩)
  dsimp only
  have hfound := (h.beginFrame frames.renderFrame).countFind key .observation
  have hlook := countFind_part (PaletteEvidence.beginFrame s frames.renderFrame) key .observation
    (some frames.renderFrame)
  cases hplace : chainPlace (PaletteEvidence.beginFrame s frames.renderFrame) key .observation with
  | some place =>
    have hwatches := (chainPlace_spec hplace).countFind key .observation
    dsimp only
    split_ifs with hseen hcan
    · exact hlook.trans (countRepeated_part _ true _)
    · exact hlook.trans (.drop _ _)
    · exact hlook.trans ((hfound.soundBut hwatches).firstSightOnChain_part (by simpa using hcan) frames)
  | none =>
    dsimp only
    split_ifs with hcan
    · exact hlook.trans (.drop _ _)
    · split
      · rename_i place inserted hinsert
        have hinserted := hfound.insert hinsert
        have hcan' : canEmit inserted false = true := by
          rw [hinserted.canEmit]
          simpa using hcan
        have hcounted := (hlook.trans (insert_part hinsert _)).silent (u := { inserted with
          counters := { inserted.counters with
            firstSightInserted := inserted.counters.firstSightInserted + 1 } }) rfl rfl rfl rfl
        exact hcounted.trans (hinserted.soundBut.countInserted.firstSightOnChain_part hcan' frames)
      · exact hlook.trans (countTableFull_part _ _)

/-! ### Sessions -/

def Call.renderFrame : Call → Option UInt64
  | .reject _ _ frames => frames.renderFrame
  | .firstSight _ frames => frames.renderFrame
  | .served _ _ _ frames => frames.renderFrame
  | .enqueued _ _ _ frames _ => frames.renderFrame
  | .drawn _ _ _ frames _ => frames.renderFrame
  | .objectGone _ => none
  | .close _ => none
  | .transition _ _ => none

def Call.owed (recorder : Recorder) : Call → ℕ
  | .reject _ _ _ => 1
  | .firstSight _ _ => 1
  | .served key _ _ _ => recorder.owed key
  | .enqueued key _ _ _ _ => recorder.owed key
  | .drawn key _ _ _ _ => recorder.owed key
  | .objectGone key => recorder.owed key
  | .close _ => 0
  | .transition _ _ => 0

/-- A call that comes for no frame that the recorder has left behind some events. -/
def Call.InOrder (recorder : Recorder) (call : Call) : Prop :=
  ∀ frame ∈ call.renderFrame, recorder.InOrder frame

theorem Reports.imp {p : Prop} (h : Reports s t p n) (himp : inOrder → p) : Reports s t inOrder n :=
  ⟨h.accounted, fun horder => h.within (himp horder)⟩

theorem Recorder.Sound.run_reports (h : s.Sound) (call : Call) :
    Reports s (call.run hook s) (call.InOrder s) (call.owed s) := by
  cases call with
  | reject key reason frames => exact (h.noteReject_reports key reason frames).imp fun ho => ho _ rfl
  | firstSight key frames => exact (h.noteFirstSight_reports key frames).imp fun ho => ho _ rfl
  | served key source hitKey frames =>
    exact (h.notePath_reports (servedFact_keeps source hitKey frames) key frames
      ⟨fun _ _ _ => rfl, fun _ _ _ => rfl⟩).imp fun ho => ho _ rfl
  | enqueued key source hitKey frames cleared =>
    exact (h.notePath_reports (enqueuedFact_keeps source hitKey frames cleared) key frames
      ⟨fun _ _ _ => rfl, fun _ _ _ => rfl⟩).imp fun ho => ho _ rfl
  | drawn key source hitKey frames cleared =>
    exact (h.notePath_reports (drawnFact_keeps source hitKey frames cleared) key frames
      ⟨fun _ _ _ => rfl, fun _ _ _ => rfl⟩).imp fun ho => ho _ rfl
  | objectGone key => exact h.noteObjectGone_reports key _
  | close frame => exact (h.toBooks.closeWindow_part frame).reports _
  | transition sessionGeneration mapEpoch =>
    have hpart : Part s (s.resetForSessionTransition sessionGeneration mapEpoch) none 0 0 :=
      ⟨rfl, Nat.le_refl _, fun hs => ⟨hs.le, fun current hcurrent => by cases hcurrent⟩⟩
    exact hpart.reports _

/-- Every call of a run comes for no frame that the recorder has left behind some events. -/
def InOrderRun (hook : List Emission → Option UInt64) : Recorder → List Call → Prop
  | _, [] => True
  | recorder, call :: calls => call.InOrder recorder ∧ InOrderRun hook (call.run hook recorder) calls

theorem Recorder.Sound.foldl_run (h : s.Sound) (calls : List Call) :
    (calls.foldl (Call.run hook) s).Sound := by
  induction calls generalizing s with
  | nil => exact h
  | cons call calls ih => exact ih (h.run call)

theorem Recorder.Sound.foldl_within (h : s.Sound) (hwithin : s.Within) {calls : List Call}
    (horder : InOrderRun hook s calls) : (calls.foldl (Call.run hook) s).Within := by
  induction calls generalizing s with
  | nil => exact hwithin
  | cons call calls ih =>
    exact ih (h.run call) ((h.run_reports call).within horder.1 hwithin) horder.2

theorem reset_within (recorder : Recorder) (sessionGeneration mapEpoch : UInt64) :
    (recorder.reset sessionGeneration mapEpoch).Within := fun _ => Nat.zero_le _

structure Recorder.Lossless (hook : List Emission → Option UInt64) (recorder : Recorder) : Prop where
  total : recorder.log.length ≤ kTotalBudget
  terminals : recorder.terminals ≤ kTerminalReserve
  nonTerminals : recorder.nonTerminals ≤ kNormalBudget
  /-- A terminal is refused only when the reserve is used up. -/
  refused : ∀ refusal ∈ recorder.refusals,
    refusal.terminal = true → refusal.terminalEmitted = kTerminalReserve
  /-- The next call, whatever it is, emits or counts what it has to report. -/
  accounted : ∀ call : Call, Accounted recorder (call.run hook recorder) (call.owed recorder)
  watch : recorder.watchCount = recorder.live.card
  watch_le : recorder.watchCount ≤ kWatchCapacity
  heads : ∀ place, recorder.Headed place

theorem Recorder.Sound.lossless (h : s.Sound) : s.Lossless hook where
  total := by
    have hsum := terminals_add_nonTerminals s
    have hterminals := h.terminals_le
    have hnonTerminals := h.nonTerminals_le
    have hnormal : kTerminalReserve + kNormalBudget = kTotalBudget := rfl
    omega
  terminals := h.terminals_le
  nonTerminals := h.nonTerminals_le
  refused := h.refused
  accounted := fun call => (h.run_reports call).accounted
  watch := h.watch
  watch_le := by
    have hcard := Finset.card_le_univ s.live
    rw [Fintype.card_fin] at hcard
    rw [h.watch]
    exact hcard
  heads := h.heads

/-- In every state of a session nothing is lost silently; and the budget of every frame is kept if no
note has come for a frame that the recorder had left behind some events. -/
theorem session_law (hook : List Emission → Option UInt64) (recorder : Recorder)
    (sessionGeneration mapEpoch : UInt64) (calls : List Call) :
    (sessionRun hook recorder sessionGeneration mapEpoch calls).Lossless hook ∧
      (InOrderRun hook (recorder.reset sessionGeneration mapEpoch) calls →
        (sessionRun hook recorder sessionGeneration mapEpoch calls).Within) := by
  have hsound := reset_sound recorder sessionGeneration mapEpoch
  have hwithin := reset_within recorder sessionGeneration mapEpoch
  exact ⟨(hsound.foldl_run calls).lossless, hsound.foldl_within hwithin⟩

def rejectAt (jHandle : UInt64) : Call := .reject { jHandle } .r0 { renderFrame := 5 }

/-- One rejection is a session in order. -/
theorem session_law_one :
    (sessionRun (fun _ => none) {} 0 0 [rejectAt 1]).Within :=
  (session_law (fun _ => none) {} 0 0 [rejectAt 1]).2
    ⟨fun _ _ => .inl rfl, trivial⟩

/-- A session that rejects 64 objects at frame 5, makes a transition within itself, and rejects one
more object at this frame. -/
def reopened : List Call :=
  (List.range 64).map (fun n => rejectAt (UInt64.ofNat n)) ++ [.transition 0 0, rejectAt 64]

/-- The frame has 65 events then. -/
theorem reopened_perFrame : ¬(sessionRun (fun _ => none) {} 0 0 reopened).Within := by
  intro hwithin
  have hframe := hwithin 5
  revert hframe
  decide +kernel

end War3VK.Tools.PaletteEvidence
