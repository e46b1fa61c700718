import War3VK.Tools.PaletteEvidence

/-!
# The calls of the recorder of palette evidence

The notes of `PaletteObjectEvidence` and the end of its window. An event that is emitted may freeze the
ring behind the recorder, which closes the window from inside the call; the parameter `hook` says after
which emissions this happens, and for which frame. Inside `CloseWindow` the window is closed already,
and the hook has no effect.
-/

namespace War3VK.Tools.PaletteEvidence

/-! ## Stages -/

/-- `StageRank`. -/
def stageRank : Stage → ℕ
  | .firstSight => 0
  | .rejected => 1
  | .servedCandidate => 2
  | .enqueued => 3
  | .drawn => 4

/-- `StageOfRank`. -/
def stageOfRank : ℕ → Stage
  | 4 => .drawn
  | 3 => .enqueued
  | 2 => .servedCandidate
  | 1 => .rejected
  | _ => .firstSight

/-- `MarkStage`. -/
def markStage (e : Entry) (attemptSerial : UInt64) (stage : Stage) : Entry :=
  let s := stageRank stage
  let e := { e with maxStage := max e.maxStage s }
  if attemptSerial = unknownSerial then
    { e with orderViolation := e.orderViolation || s < e.maxStage }
  else if attemptSerial ≠ e.attemptSerial then { e with attemptSerial, attemptStage := s }
  else
    { e with
      orderViolation := e.orderViolation || s < e.attemptStage
      attemptStage := max e.attemptStage s }

/-- `DeriveIdentityProofKind`. -/
def deriveIdentityProofKind (key : ObjectKey) : UInt32 :=
  if key.lifecycleIdentity ≠ 0 ∧ !key.identityWeak ∧ !key.epochUnknown then 1 else 0

/-- `MakeRecord`. -/
def makeRecord (windowSegment : UInt64) (e : Entry) : EventRecord where
  windowSegment := windowSegment
  identityProofKind := deriveIdentityProofKind e.key
  key := e.key
  frames := e.firstFrames
  firstRejectFrame := e.firstRejectFrame
  rejectReason := e.firstReason
  hitCount := e.hitCount
  hitKey := e.lastHitKey
  source := e.lastSource
  sawSubmit := e.sawSubmit
  sawDraw := e.sawDraw
  chainSequence := e.chainSequence
  chainType := e.chainType

def deltaFrames (frame firstRejectFrame : UInt64) : UInt64 :=
  if frame ≥ firstRejectFrame then frame - firstRejectFrame else 0

/-! ## The end of the window -/

def closingTerminal (e : Entry) : Terminal :=
  if e.firstReason ≠ .notChecked ∧ e.sawServed ∧ e.sawSubmit ∧ e.sawDraw ∧ !e.orderViolation ∧
      !e.drawSelectionCleared ∧ e.drawSource ≠ .none then
    .recovered
  else if e.chainType = .observation then .observationClosed
  else if e.hitCount = 0 ∧ !e.sawServed then .windowExpired
  else .unclosed

def closingRecord (windowSegment frame : UInt64) (e : Entry) : EventRecord :=
  let record := makeRecord windowSegment e
  { record with
    stage := if e.sawFirstSight then stageOfRank e.maxStage else .drawn
    terminal := closingTerminal e
    frames := { record.frames with renderFrame := frame }
    source := e.drawSource
    hitKey := e.drawHitKey
    selectionClearedByNativeOverride := e.drawSelectionCleared
    deltaFrames := deltaFrames frame e.firstRejectFrame
    chainSequence := e.chainSequence + 1 }

def countClosed (c : Counters) : Terminal → Counters
  | .recovered => { c with closedRecovered := c.closedRecovered + 1 }
  | .windowExpired => { c with closedWindowExpired := c.closedWindowExpired + 1 }
  | .observationClosed => { c with closedObservationClosed := c.closedObservationClosed + 1 }
  | _ => { c with closedUnclosed := c.closedUnclosed + 1 }

def closeEntry (frame : UInt64) (recorder : Recorder) (place : Fin kWatchCapacity) : Recorder :=
  let e := recorder.entries place
  if !e.used then recorder
  else if !canEmit recorder true then (accountDrop recorder true).setEntry place {}
  else
    let emitted := emitRecord recorder (closingRecord recorder.windowSegment frame e) true
    { emitted with counters := countClosed emitted.counters (closingTerminal e) }.setEntry place {}

/-- `CloseWindow`. -/
def closeWindow (recorder : Recorder) (frame : UInt64) : Recorder :=
  if recorder.windowClosed then recorder
  else
    { (List.finRange kWatchCapacity).foldl (closeEntry frame)
        { recorder with windowClosed := true } with watchCount := 0 }

/-! ## Emission -/

variable (hook : List Emission → Option UInt64)

/-- `EmitUnchecked`, with what the callback does. -/
def emitUnchecked (recorder : Recorder) (record : EventRecord) (terminal : Bool) : Recorder :=
  let emitted := emitRecord recorder record terminal
  match hook emitted.log with
  | some frame => closeWindow emitted frame
  | none => emitted

def countRepeated (recorder : Recorder) (same : Bool) : Recorder :=
  let c := recorder.counters
  { recorder with counters :=
      if same then { c with droppedDuplicatePerFrame := c.droppedDuplicatePerFrame + 1 }
      else { c with droppedPayloadConflict := c.droppedPayloadConflict + 1 } }

/-! ## Chains -/

/-- What one of the path facts does with a chain: whether it has been seen in this frame, with the same
payload or not, the entry behind it, and its event. -/
structure PathFact where
  seen : Entry → Bool
  same : Entry → Bool
  update : Entry → Entry
  /-- Its event, from the entries before and behind it. -/
  record : UInt64 → Entry → Entry → EventRecord

def advanceOnChain (fact : PathFact) (recorder : Recorder) (place : Fin kWatchCapacity) : Recorder :=
  let e := recorder.entries place
  if fact.seen e then countRepeated recorder (fact.same e)
  else if !canEmit recorder false then accountDrop recorder false
  else
    let next := { fact.update e with chainSequence := (fact.update e).chainSequence + 1 }
    emitUnchecked hook (recorder.setEntry place next)
      (fact.record recorder.windowSegment e next) false

/-- `AdvanceServedOnChain`. -/
def servedFact (source : Source) (hitKey : UInt64) (frames : ObjectFrames) : PathFact where
  seen := fun e => e.lastServedFrame = frames.renderFrame
  same := fun e => e.lastSource = source ∧ e.lastHitKey = hitKey
  update := fun e =>
    let e := markStage { e with lastServedFrame := frames.renderFrame, lastSource := source,
                                lastHitKey := hitKey } frames.attemptSerial .servedCandidate
    { e with hitCount := e.hitCount + 1, sawServed := true }
  record := fun windowSegment e next =>
    { makeRecord windowSegment e with
      stage := .servedCandidate
      frames
      source
      hitKey
      hitCount := next.hitCount
      deltaFrames := deltaFrames frames.renderFrame e.firstRejectFrame
      chainSequence := next.chainSequence }

/-- `AdvanceDrawnOnChain`. -/
def drawnFact (source : Source) (hitKey : UInt64) (frames : ObjectFrames)
    (selectionClearedByNativeOverride : Bool) : PathFact where
  seen := fun e => e.lastDrawFrame = frames.renderFrame
  same := fun e => e.drawSource = source ∧ e.drawHitKey = hitKey ∧
    e.drawSelectionCleared = selectionClearedByNativeOverride
  update := fun e =>
    { markStage { e with lastDrawFrame := frames.renderFrame } frames.attemptSerial .drawn with
      sawDraw := true
      drawSource := source
      drawHitKey := hitKey
      drawSelectionCleared := selectionClearedByNativeOverride }
  record := fun windowSegment e next =>
    { makeRecord windowSegment e with
      stage := .drawn
      frames
      source
      hitKey
      sawDraw := true
      selectionClearedByNativeOverride
      chainSequence := next.chainSequence }

/-- `AdvanceEnqueuedOnChain`. -/
def enqueuedFact (source : Source) (hitKey : UInt64) (frames : ObjectFrames)
    (selectionClearedByNativeOverride : Bool) : PathFact where
  seen := fun e => e.lastSubmitFrame = frames.renderFrame
  same := fun e => e.submitSource = source ∧ e.submitHitKey = hitKey ∧
    e.submitSelectionCleared = selectionClearedByNativeOverride
  update := fun e =>
    { markStage { e with lastSubmitFrame := frames.renderFrame, submitSource := source,
                         submitHitKey := hitKey } frames.attemptSerial .enqueued with
      sawSubmit := true
      submitSelectionCleared := selectionClearedByNativeOverride }
  record := fun windowSegment e next =>
    { makeRecord windowSegment e with
      stage := .enqueued
      frames
      source
      hitKey
      sawSubmit := true
      selectionClearedByNativeOverride
      chainSequence := next.chainSequence }

/-- The event of `SettleObjectGone`. -/
def goneRecord (windowSegment : UInt64) (e : Entry) : EventRecord :=
  let record := makeRecord windowSegment e
  { record with
    stage := if e.sawFirstSight then stageOfRank e.maxStage else .rejected
    terminal := .objectGone
    deltaFrames := deltaFrames record.frames.renderFrame record.firstRejectFrame
    source := e.drawSource
    hitKey := e.drawHitKey
    chainSequence := e.chainSequence + 1 }

def Recorder.bury (recorder : Recorder) (place : Fin kWatchCapacity) (e : Entry) : Recorder :=
  { recorder.setEntry place { e with used := false, tombstone := true } with
    watchCount := recorder.watchCount - 1 }

/-- `SettleObjectGone`. -/
def settleObjectGone (recorder : Recorder) (place : Fin kWatchCapacity) : Recorder :=
  let e := recorder.entries place
  if !canEmit recorder true then (accountDrop recorder true).bury place e
  else
    let c := recorder.counters
    let claimed :=
      { recorder with counters := { c with closedObjectGone := c.closedObjectGone + 1 } }.bury place
        { e with chainSequence := e.chainSequence + 1 }
    emitUnchecked hook claimed (goneRecord recorder.windowSegment e) true

/-! ## Notes -/

def countWindowClosed (recorder : Recorder) : Recorder :=
  let c := recorder.counters
  { recorder with counters := { c with droppedWindowClosedEntry := c.droppedWindowClosedEntry + 1 } }

def countStaleSession (recorder : Recorder) : Recorder :=
  let c := recorder.counters
  { recorder with counters := { c with droppedStaleSession := c.droppedStaleSession + 1 } }

def countNoChain (recorder : Recorder) : Recorder :=
  let c := recorder.counters
  { recorder with counters := { c with droppedNoChainForPathFact := c.droppedNoChainForPathFact + 1 } }

def countTableFull (recorder : Recorder) : Recorder :=
  let c := recorder.counters
  { recorder with counters := { c with droppedTableFull := c.droppedTableFull + 1 } }

def sameObservation (recorder : Recorder) (key : ObjectKey) (instanceId : UInt64) :
    Option (Fin kWatchCapacity) :=
  (chainPlace recorder key .observation).filter fun place =>
    (recorder.entries place).instanceId = instanceId

/-- A fact on both chains of a key: on that of the rejections, and then on that of the observation if
it is still there. -/
def onBothChains (recorder : Recorder) (key : ObjectKey)
    (advance : Recorder → Fin kWatchCapacity → Recorder) (countLost : Recorder → Recorder) :
    Recorder :=
  let found := countFind (countFind recorder key .rejectionRecovery) key .observation
  match chainPlace recorder key .rejectionRecovery, chainPlace recorder key .observation with
  | none, none => countNoChain found
  | some rejectChain, none => advance found rejectChain
  | rejectChain, some observationChain =>
    let observationInstance := (recorder.entries observationChain).instanceId
    let advanced := match rejectChain with
      | some place => advance found place
      | none => found
    let again := countFind advanced key .observation
    match sameObservation advanced key observationInstance with
    | some place => advance again place
    | none => countLost again

/-- `NoteServed`, `NoteEnqueued` and `NoteDrawn`. -/
def notePath (fact : PathFact) (key : ObjectKey) (frames : ObjectFrames) (recorder : Recorder) :
    Recorder :=
  if recorder.windowClosed then countWindowClosed recorder
  else if !admitsSession recorder key then countStaleSession recorder
  else
    onBothChains (beginFrame recorder frames.renderFrame) key (advanceOnChain hook fact)
      fun recorder =>
        let c := recorder.counters
        { recorder with counters := { c with
            pathObservationSkippedAfterReentrantClose :=
              c.pathObservationSkippedAfterReentrantClose + 1 } }

/-- `NoteObjectGone`. Its first look for the chains counts as the second one does. -/
def noteObjectGone (key : ObjectKey) (recorder : Recorder) : Recorder :=
  if recorder.windowClosed then countWindowClosed recorder
  else if !admitsSession recorder key then countStaleSession recorder
  else
    let looked := countFind recorder key .rejectionRecovery
    let looked :=
      if (chainPlace recorder key .rejectionRecovery).isSome then looked
      else countFind looked key .observation
    if chainPlace recorder key .rejectionRecovery = none ∧
        chainPlace recorder key .observation = none then
      countNoChain looked
    else
      onBothChains looked key (settleObjectGone hook) fun recorder =>
        let c := recorder.counters
        { recorder with counters := { c with
            objectGoneLostToReentrancy := c.objectGoneLostToReentrancy + 1 } }

def tableFullRecord (windowSegment : UInt64) (key : ObjectKey) (reason : RejectReason)
    (frames : ObjectFrames) : EventRecord where
  stage := .rejected
  terminal := .tableFull
  rejectReason := reason
  key := key
  windowSegment := windowSegment
  identityProofKind := deriveIdentityProofKind key
  frames := frames
  firstRejectFrame := frames.renderFrame
  deltaFrames := 0
  chainSequence := 1

/-- `NoteReject` of an object that cannot be watched. -/
def rejectTableFull (key : ObjectKey) (reason : RejectReason) (frames : ObjectFrames)
    (recorder : Recorder) : Recorder :=
  let counted := countTableFull recorder
  if counted.tableFullAnnounced then counted
  else
    let announced := { counted with tableFullAnnounced := true }
    if !canEmit announced true then accountDrop announced true
    else
      let c := announced.counters
      emitUnchecked hook
        { announced with counters := { c with closedTableFull := c.closedTableFull + 1 } }
        (tableFullRecord recorder.windowSegment key reason frames) true

/-- `NoteReject` of a chain that is there. -/
def rejectOnChain (reason : RejectReason) (frames : ObjectFrames) (recorder : Recorder)
    (place : Fin kWatchCapacity) : Recorder :=
  let e := recorder.entries place
  let marked := markStage { e with lastRejectFrame := frames.renderFrame, lastRejectReason := reason }
    frames.attemptSerial .rejected
  let next := { marked with chainSequence := marked.chainSequence + 1 }
  emitUnchecked hook (recorder.setEntry place next)
    { makeRecord recorder.windowSegment next with
      stage := .rejected
      rejectReason := reason
      frames
      deltaFrames := deltaFrames frames.renderFrame next.firstRejectFrame } false

/-- `NoteReject`. -/
def noteReject (key : ObjectKey) (reason : RejectReason) (frames : ObjectFrames)
    (recorder : Recorder) : Recorder :=
  if recorder.windowClosed then countWindowClosed recorder
  else if !admitsSession recorder key then countStaleSession recorder
  else
    let recorder := beginFrame recorder frames.renderFrame
    let found := countFind recorder key .rejectionRecovery
    match chainPlace recorder key .rejectionRecovery with
    | some place =>
      let e := found.entries place
      if e.lastRejectFrame = frames.renderFrame then countRepeated found (e.lastRejectReason = reason)
      else if !canEmit found false then accountDrop found false
      else rejectOnChain hook reason frames found place
    | none =>
      if found.watchCount ≥ kWatchCapacity then rejectTableFull hook key reason frames found
      else if !canEmit found false then accountDrop found false
      else
        match insert found key frames.renderFrame reason frames .rejectionRecovery with
        | some (place, inserted) => rejectOnChain hook reason frames inserted place
        | none => countTableFull found

/-- `NoteFirstSight` of a chain that is there. -/
def firstSightOnChain (frames : ObjectFrames) (recorder : Recorder) (place : Fin kWatchCapacity) :
    Recorder :=
  let e := { recorder.entries place with sawFirstSight := true }
  let marked := markStage e frames.attemptSerial .firstSight
  let next := { marked with chainSequence := marked.chainSequence + 1 }
  let c := recorder.counters
  emitUnchecked hook
    { recorder.setEntry place next with
      counters := { c with firstSightEmitted := c.firstSightEmitted + 1 } }
    { makeRecord recorder.windowSegment e with
      stage := .firstSight
      frames
      source := .none
      hitKey := 0
      deltaFrames := deltaFrames frames.renderFrame next.firstRejectFrame
      chainSequence := next.chainSequence } false

/-- `NoteFirstSight`. -/
def noteFirstSight (key : ObjectKey) (frames : ObjectFrames) (recorder : Recorder) : Recorder :=
  if recorder.windowClosed then countWindowClosed recorder
  else if !admitsSession recorder key then countStaleSession recorder
  else
    let recorder := beginFrame recorder frames.renderFrame
    let found := countFind recorder key .observation
    match chainPlace recorder key .observation with
    | some place =>
      if (found.entries place).sawFirstSight then countRepeated found true
      else if !canEmit found false then accountDrop found false
      else firstSightOnChain hook frames found place
    | none =>
      if !canEmit found false then accountDrop found false
      else
        match insert found key frames.renderFrame .notChecked frames .observation with
        | some (place, inserted) =>
          let c := inserted.counters
          firstSightOnChain hook frames
            { inserted with counters := { c with firstSightInserted := c.firstSightInserted + 1 } }
            place
        | none => countTableFull found

/-! ## Calls -/

inductive Call
  /-- `NoteReject`. -/
  | reject (key : ObjectKey) (reason : RejectReason) (frames : ObjectFrames)
  /-- `NoteFirstSight`. -/
  | firstSight (key : ObjectKey) (frames : ObjectFrames)
  /-- `NoteServed`. -/
  | served (key : ObjectKey) (source : Source) (hitKey : UInt64) (frames : ObjectFrames)
  /-- `NoteEnqueued`. -/
  | enqueued (key : ObjectKey) (source : Source) (hitKey : UInt64) (frames : ObjectFrames)
    (selectionClearedByNativeOverride : Bool)
  /-- `NoteDrawn`. -/
  | drawn (key : ObjectKey) (source : Source) (hitKey : UInt64) (frames : ObjectFrames)
    (selectionClearedByNativeOverride : Bool)
  /-- `NoteObjectGone`. -/
  | objectGone (key : ObjectKey)
  /-- `CloseWindow`. -/
  | close (frame : UInt64)
  /-- `ResetForSessionTransition`. -/
  | transition (sessionGeneration mapEpoch : UInt64)

def Call.run (recorder : Recorder) : Call → Recorder
  | .reject key reason frames => noteReject hook key reason frames recorder
  | .firstSight key frames => noteFirstSight hook key frames recorder
  | .served key source hitKey frames =>
    notePath hook (servedFact source hitKey frames) key frames recorder
  | .enqueued key source hitKey frames selectionCleared =>
    notePath hook (enqueuedFact source hitKey frames selectionCleared) key frames recorder
  | .drawn key source hitKey frames selectionCleared =>
    notePath hook (drawnFact source hitKey frames selectionCleared) key frames recorder
  | .objectGone key => noteObjectGone hook key recorder
  | .close frame => closeWindow recorder frame
  | .transition sessionGeneration mapEpoch =>
    recorder.resetForSessionTransition sessionGeneration mapEpoch

def sessionRun (recorder : Recorder) (sessionGeneration mapEpoch : UInt64) (calls : List Call) :
    Recorder :=
  calls.foldl (Call.run hook) (recorder.reset sessionGeneration mapEpoch)

end War3VK.Tools.PaletteEvidence

/-!
## The books of the recorder of palette evidence

What is true of the recorder between its calls: the budgets are kept, a terminal is refused only when
the reserve is used up, the watch count is that of the table, and every chain of the table has had its
head emitted. Every part of a call keeps this.
-/

namespace War3VK.Tools.PaletteEvidence

/-! ### What is kept -/

def Recorder.terminals (recorder : Recorder) : ℕ := recorder.log.countP fun e => e.terminal

def Recorder.nonTerminals (recorder : Recorder) : ℕ := recorder.log.countP fun e => !e.terminal

def headStage : ChainType → Stage
  | .rejectionRecovery => .rejected
  | .observation => .firstSight

structure Emission.IsHead (emission : Emission) (e : Entry) : Prop where
  terminal : emission.terminal = false
  key : emission.record.key = e.key
  chainType : emission.record.chainType = e.chainType
  windowSegment : emission.record.windowSegment = e.windowSegment
  stage : emission.record.stage = headStage e.chainType

structure Recorder.Books (recorder : Recorder) : Prop where
  emitted : recorder.counters.emitted = recorder.log.length
  terminalEmitted : recorder.counters.terminalEmitted = recorder.terminals
  terminals_le : recorder.terminals ≤ kTerminalReserve
  nonTerminals_le : recorder.nonTerminals ≤ kNormalBudget
  /-- A terminal is refused only when the reserve is used up. -/
  refused : ∀ refusal ∈ recorder.refusals,
    refusal.terminal = true → refusal.terminalEmitted = kTerminalReserve

def Recorder.live (recorder : Recorder) : Finset (Fin kWatchCapacity) :=
  Finset.univ.filter fun place => (recorder.entries place).used = true

def Recorder.Headed (recorder : Recorder) (place : Fin kWatchCapacity) : Prop :=
  (recorder.entries place).used = true →
    ∃ emission ∈ recorder.log, emission.IsHead (recorder.entries place)

structure Recorder.Sound (recorder : Recorder) : Prop extends recorder.Books where
  watch : recorder.watchCount = recorder.live.card
  heads : ∀ place, recorder.Headed place

variable {recorder : Recorder} {place : Fin kWatchCapacity}

/-! ### Budgets -/

theorem terminals_add_nonTerminals (recorder : Recorder) :
    recorder.terminals + recorder.nonTerminals = recorder.log.length := by
  unfold Recorder.terminals Recorder.nonTerminals
  rw [List.length_eq_countP_add_countP fun e : Emission => e.terminal]
  congr 2
  funext e
  cases e.terminal <;> rfl

theorem Recorder.Books.canEmit_true_iff (h : recorder.Books) :
    canEmit recorder true = true ↔ recorder.terminals < kTerminalReserve := by
  have hsum := terminals_add_nonTerminals recorder
  have hnormal := h.nonTerminals_le
  unfold canEmit
  rw [decide_eq_true_eq, h.emitted, h.terminalEmitted]
  simp only [Bool.not_true, Bool.false_eq_true, false_imp_iff, true_imp_iff, true_and, and_true]
  unfold kNormalBudget kTotalBudget kTerminalReserve at *
  omega

theorem canEmit_false (h : canEmit recorder false = true) :
    recorder.counters.emitted < kNormalBudget ∧ recorder.frameBudgetUsed < kPerFrameBudget := by
  unfold canEmit at h
  rw [decide_eq_true_eq] at h
  exact ⟨h.2.1 rfl, h.2.2.2 rfl⟩

variable {terminal : Bool}

theorem Recorder.Books.emitRecord (h : recorder.Books) (hcan : canEmit recorder terminal = true)
    (record : EventRecord) : (emitRecord recorder record terminal).Books := by
  have hsum := terminals_add_nonTerminals recorder
  have hterminals : (PaletteEvidence.emitRecord recorder record terminal).terminals =
      recorder.terminals + if terminal then 1 else 0 := List.countP_cons
  have hnonTerminals : (PaletteEvidence.emitRecord recorder record terminal).nonTerminals =
      recorder.nonTerminals + if !terminal then 1 else 0 := List.countP_cons
  refine ⟨congrArg (· + 1) h.emitted, ?_, ?_, ?_, h.refused⟩
  · rw [hterminals, ← h.terminalEmitted]
    rfl
  · rw [hterminals]
    cases terminal with
    | false => exact h.terminals_le
    | true => exact h.canEmit_true_iff.mp hcan
  · rw [hnonTerminals]
    cases terminal with
    | false =>
      have hemitted := (canEmit_false hcan).1
      rw [h.emitted] at hemitted
      simp only [Bool.not_false, if_true]
      omega
    | true => exact h.nonTerminals_le

theorem Recorder.Books.accountDrop (h : recorder.Books) (hcan : canEmit recorder terminal = false) :
    (accountDrop recorder terminal).Books := by
  have hcounters : (dropCounters recorder terminal).emitted = recorder.counters.emitted ∧
      (dropCounters recorder terminal).terminalEmitted = recorder.counters.terminalEmitted := by
    unfold dropCounters
    dsimp only
    split_ifs <;> exact ⟨rfl, rfl⟩
  refine ⟨hcounters.1.trans h.emitted, hcounters.2.trans h.terminalEmitted, h.terminals_le,
    h.nonTerminals_le, fun refusal hrefusal hterminal => ?_⟩
  rcases List.mem_cons.mp hrefusal with rfl | hold
  · -- A terminal that may not be emitted finds the reserve used up.
    obtain rfl : terminal = true := hterminal
    have hfull : ¬recorder.terminals < kTerminalReserve := fun hlt => by
      rw [h.canEmit_true_iff.mpr hlt] at hcan
      cases hcan
    exact h.terminalEmitted.trans (Nat.le_antisymm h.terminals_le (Nat.not_lt.mp hfull))
  · exact h.refused refusal hold hterminal

theorem Recorder.Books.of_eq (h : recorder.Books) {other : Recorder}
    (hlog : other.log = recorder.log) (hrefusals : other.refusals = recorder.refusals)
    (hemitted : other.counters.emitted = recorder.counters.emitted)
    (hterminal : other.counters.terminalEmitted = recorder.counters.terminalEmitted) :
    other.Books := by
  have hterminals : other.terminals = recorder.terminals := by
    unfold Recorder.terminals
    rw [hlog]
  have hnonTerminals : other.nonTerminals = recorder.nonTerminals := by
    unfold Recorder.nonTerminals
    rw [hlog]
  refine ⟨?_, ?_, ?_, ?_, ?_⟩
  · rw [hemitted, hlog, h.emitted]
  · rw [hterminal, hterminals, h.terminalEmitted]
  · rw [hterminals]
    exact h.terminals_le
  · rw [hnonTerminals]
    exact h.nonTerminals_le
  · rw [hrefusals]
    exact h.refused

/-! ### The end of the window -/

theorem countClosed_emitted (c : Counters) (terminal : Terminal) :
    (countClosed c terminal).emitted = c.emitted ∧
      (countClosed c terminal).terminalEmitted = c.terminalEmitted := by
  cases terminal <;> exact ⟨rfl, rfl⟩

theorem Recorder.Books.closeEntry (h : recorder.Books) (frame : UInt64) (place : Fin kWatchCapacity) :
    (closeEntry frame recorder place).Books := by
  unfold PaletteEvidence.closeEntry
  dsimp only
  split_ifs with hused hcan
  · exact h
  · exact (h.accountDrop (by simpa using hcan)).of_eq rfl rfl rfl rfl
  · have hclosed := countClosed_emitted
      (PaletteEvidence.emitRecord recorder
        (closingRecord recorder.windowSegment frame (recorder.entries place)) true).counters
      (closingTerminal (recorder.entries place))
    exact (h.emitRecord (by simpa using hcan) _).of_eq rfl rfl hclosed.1 hclosed.2

theorem closeEntry_entries (frame : UInt64) (recorder : Recorder) (place other : Fin kWatchCapacity) :
    (closeEntry frame recorder place).entries other =
      if other = place ∧ (recorder.entries place).used then {} else recorder.entries other := by
  unfold closeEntry
  dsimp only
  by_cases hused : (recorder.entries place).used
  · rw [if_neg (by simp [hused])]
    simp only [hused, and_true]
    split_ifs with hcan hplace hplace <;>
      simp [Recorder.setEntry, accountDrop, emitRecord, Function.update_apply, hplace]
  · rw [if_pos (by simpa using hused), if_neg fun hand => hused hand.2]

theorem Recorder.Books.foldl_closeEntry (h : recorder.Books) (frame : UInt64)
    (places : List (Fin kWatchCapacity)) :
    (places.foldl (PaletteEvidence.closeEntry frame) recorder).Books := by
  induction places generalizing recorder with
  | nil => exact h
  | cons place places ih => exact ih (h.closeEntry frame place)

theorem foldl_closeEntry_used (frame : UInt64) (places : List (Fin kWatchCapacity))
    (recorder : Recorder) (other : Fin kWatchCapacity)
    (hother : other ∈ places ∨ (recorder.entries other).used = false) :
    ((places.foldl (closeEntry frame) recorder).entries other).used = false := by
  induction places generalizing recorder with
  | nil => exact hother.resolve_left List.not_mem_nil
  | cons place places ih =>
    refine ih (closeEntry frame recorder place) ?_
    rw [closeEntry_entries]
    split_ifs with hfreed
    · exact .inr rfl
    · rcases hother with hmem | hfree
      · rcases List.mem_cons.mp hmem with rfl | hmem
        · exact .inr (by simpa using hfreed)
        · exact .inl hmem
      · exact .inr hfree

theorem closeWindow_of_open (hopen : recorder.windowClosed = false) (frame : UInt64) :
    ∃ places : List (Fin kWatchCapacity), (∀ place, place ∈ places) ∧ closeWindow recorder frame =
        { places.foldl (closeEntry frame) { recorder with windowClosed := true } with
          watchCount := 0 } := by
  refine ⟨List.finRange kWatchCapacity, List.mem_finRange, ?_⟩
  unfold closeWindow
  rw [hopen]
  exact if_neg Bool.false_ne_true

theorem closeWindow_used (hopen : recorder.windowClosed = false) (frame : UInt64)
    (place : Fin kWatchCapacity) : ((closeWindow recorder frame).entries place).used = false := by
  obtain ⟨places, hall, heq⟩ := closeWindow_of_open hopen frame
  rw [heq]
  exact foldl_closeEntry_used frame places _ place (.inl (hall place))

theorem Recorder.Books.closeWindow_sound (h : recorder.Books) (hopen : recorder.windowClosed = false)
    (frame : UInt64) : (closeWindow recorder frame).Sound := by
  have hused := closeWindow_used hopen frame
  obtain ⟨places, -, heq⟩ := closeWindow_of_open hopen frame
  refine { toBooks := ?_, watch := ?_, heads := fun place huse => ?_ }
  · have hbooks : ({ recorder with windowClosed := true } : Recorder).Books := h.of_eq rfl rfl rfl rfl
    rw [heq]
    exact (hbooks.foldl_closeEntry frame places).of_eq rfl rfl rfl rfl
  · have hlive : (closeWindow recorder frame).live = ∅ :=
      Finset.filter_eq_empty_iff.mpr fun place _ => by rw [hused place]; simp
    rw [hlive, Finset.card_empty, heq]
  · rw [hused place] at huse
    cases huse

theorem Recorder.Sound.closeWindow (h : recorder.Sound) (frame : UInt64) :
    (closeWindow recorder frame).Sound := by
  by_cases hclosed : recorder.windowClosed = true
  · unfold PaletteEvidence.closeWindow
    rwa [if_pos hclosed]
  · exact h.toBooks.closeWindow_sound (Bool.eq_false_iff.mpr hclosed) frame

/-! ### Emission -/

theorem Recorder.Sound.emitRecord (h : recorder.Sound) (hcan : canEmit recorder terminal = true)
    (record : EventRecord) : (emitRecord recorder record terminal).Sound where
  toBooks := h.toBooks.emitRecord hcan record
  watch := h.watch
  heads := fun place hused => by
    obtain ⟨emission, hmem, hhead⟩ := h.heads place hused
    exact ⟨emission, List.mem_cons_of_mem _ hmem, hhead⟩

variable {hook : List Emission → Option UInt64}

theorem emitUnchecked_sound {record : EventRecord}
    (h : (emitRecord recorder record terminal).Sound) :
    (emitUnchecked hook recorder record terminal).Sound := by
  unfold PaletteEvidence.emitUnchecked
  dsimp only
  split
  · exact h.closeWindow _
  · exact h

theorem Recorder.Sound.of_eq (h : recorder.Sound) {other : Recorder}
    (hlog : other.log = recorder.log) (hrefusals : other.refusals = recorder.refusals)
    (hemitted : other.counters.emitted = recorder.counters.emitted)
    (hterminal : other.counters.terminalEmitted = recorder.counters.terminalEmitted)
    (hentries : other.entries = recorder.entries) (hwatch : other.watchCount = recorder.watchCount) :
    other.Sound where
  toBooks := h.toBooks.of_eq hlog hrefusals hemitted hterminal
  watch := by
    unfold Recorder.live
    rw [hwatch, hentries]
    exact h.watch
  heads := fun place hused => by
    rw [hentries] at hused ⊢
    rw [hlog]
    exact h.heads place hused

theorem Recorder.Sound.accountDrop (h : recorder.Sound) (hcan : canEmit recorder terminal = false) :
    (accountDrop recorder terminal).Sound where
  toBooks := h.toBooks.accountDrop hcan
  watch := h.watch
  heads := h.heads

/-! ### The table -/

structure Recorder.Watches (recorder : Recorder) (key : ObjectKey) (type : ChainType)
    (place : Fin kWatchCapacity) : Prop where
  used : (recorder.entries place).used = true
  chainType : (recorder.entries place).chainType = type
  windowSegment : (recorder.entries place).windowSegment = recorder.windowSegment
  sameKey : sameKey (recorder.entries place).key key = true

variable {key : ObjectKey}

theorem probeChain_spec {type : ChainType} {n probe : ℕ}
    (h : (probeChain recorder key type n probe).1 = some place) :
    recorder.Watches key type place := by
  induction n generalizing probe with
  | zero => cases h
  | succ n ih =>
    rw [probeChain] at h
    dsimp only at h
    split_ifs at h with hused hsame hwindow htomb
    · obtain rfl := Option.some.inj h
      exact ⟨hused, hsame.2, hwindow, hsame.1⟩
    · exact ih h
    · exact ih h
    · exact ih h

theorem chainPlace_spec {type : ChainType} (h : chainPlace recorder key type = some place) :
    recorder.Watches key type place := by
  unfold chainPlace at h
  split_ifs at h
  exact probeChain_spec h

theorem freePlace_spec {n probe : ℕ} (h : freePlace recorder key n probe = some place) :
    (recorder.entries place).used = false := by
  induction n generalizing probe with
  | zero => cases h
  | succ n ih =>
    rw [freePlace] at h
    split_ifs at h with hused
    · exact ih h
    · obtain rfl := Option.some.inj h
      exact Bool.eq_false_iff.mpr hused

theorem Recorder.Sound.setEntry (h : recorder.Sound) (hused : (recorder.entries place).used = true)
    {e : Entry} (huse : e.used = true) (hkey : e.key = (recorder.entries place).key)
    (htype : e.chainType = (recorder.entries place).chainType)
    (hwindow : e.windowSegment = (recorder.entries place).windowSegment) :
    (recorder.setEntry place e).Sound where
  toBooks := h.toBooks.of_eq rfl rfl rfl rfl
  watch := by
    refine h.watch.trans (congrArg Finset.card (Finset.filter_congr fun other _ => ?_))
    by_cases hother : other = place
    · subst hother
      simp [Recorder.setEntry, hused, huse]
    · simp [Recorder.setEntry, Function.update_of_ne hother]
  heads := fun other huse' => by
    by_cases hother : other = place
    · subst hother
      obtain ⟨emission, hmem, hhead⟩ := h.heads other hused
      refine ⟨emission, hmem, ?_⟩
      have hentry : (recorder.setEntry other e).entries other = e := Function.update_self ..
      rw [hentry]
      exact ⟨hhead.terminal, hhead.key.trans hkey.symm, hhead.chainType.trans htype.symm,
        hhead.windowSegment.trans hwindow.symm, by rw [htype]; exact hhead.stage⟩
    · have hentry : (recorder.setEntry place e).entries other = recorder.entries other :=
        Function.update_of_ne hother ..
      rw [hentry] at huse' ⊢
      exact h.heads other huse'

theorem Recorder.Sound.bury (h : recorder.Sound) (hused : (recorder.entries place).used = true)
    (e : Entry) : (recorder.bury place e).Sound := by
  have hlive : (recorder.bury place e).live = recorder.live.erase place := by
    ext other
    simp only [Recorder.live, Finset.mem_filter, Finset.mem_univ, true_and, Finset.mem_erase]
    by_cases hother : other = place
    · subst hother
      simp [Recorder.bury, Recorder.setEntry]
    · simp [Recorder.bury, Recorder.setEntry, hother]
  refine { toBooks := h.toBooks.of_eq rfl rfl rfl rfl, watch := ?_, heads := fun other huse => ?_ }
  · have hmem : place ∈ recorder.live := Finset.mem_filter.mpr ⟨Finset.mem_univ place, hused⟩
    rw [hlive, Finset.card_erase_of_mem hmem, ← h.watch]
    rfl
  · have hother : other ≠ place := by
      rintro rfl
      simp [Recorder.bury, Recorder.setEntry] at huse
    have hentry : (recorder.bury place e).entries other = recorder.entries other :=
      Function.update_of_ne hother ..
    rw [hentry] at huse ⊢
    exact h.heads other huse

end War3VK.Tools.PaletteEvidence
