import War3VK.Lib.Window
import War3VK.RenderHost.Inbox

/-!
# What the inbox keeps

`Move` sorts the steps of the inbox by what they do. Three invariants are kept by every move: `Attempts`
numbers the calls of the producer, `Queue` ties the slots to the published samples that are not yet
popped, and `Taken` ties the popped samples to the published ones.
-/

namespace War3VK.RenderHost.Inbox

open Lib

/-! ## Copies -/

def Agrees (a b : Slot) : Part → Prop
  | .frame => a.frame = b.frame
  | .ordinal => a.ordinal = b.ordinal
  | .bytes => a.bytes = b.bytes
  | .byte i => a.payload i = b.payload i

/-- A slot holds a copy of another: all parts of the other are there. -/
def Same (a b : Slot) : Prop := ∀ part ∈ parts b.bytes, Agrees a b part

theorem agrees_copy (source target : Slot) (part : Part) :
    Agrees (source.copy target part) source part ∧
      ∀ p, Agrees target source p → Agrees (source.copy target part) source p := by
  constructor
  · cases part <;> simp [Slot.copy, Agrees]
  · intro p hp
    cases part with
    | byte i =>
      cases p with
      | byte j =>
        by_cases hji : j = i
        · simp [Slot.copy, Agrees, hji]
        · simpa [Slot.copy, Agrees, Function.update_of_ne hji] using hp
      | _ => exact hp
    | _ => cases p <;> first | exact hp | rfl

theorem Agrees.trans {a b c : Slot} {part : Part} (h : Agrees a b part) (h' : Agrees b c part) :
    Agrees a c part := by
  cases part <;> exact Eq.trans h h'

theorem Same.bytes {a b : Slot} (h : Same a b) : a.bytes = b.bytes := h .bytes (by simp [parts])

theorem Same.trans {a b c : Slot} (h : Same a b) (h' : Same b c) : Same a c := fun part hpart =>
  (h part (by rw [h'.bytes]; exact hpart)).trans (h' part hpart)

theorem Same.data {a b : Slot} (h : Same a b) : a.data = b.data := by
  unfold Slot.data
  rw [h.bytes]
  refine List.map_congr_left fun i hi => ?_
  exact h (.byte i) (by simpa [parts] using hi)

/-! ## What the callers have seen -/

/-- The call of `tryPush` that an output ends, and its result. -/
def Output.returned : Output → Option (PushCall × Result)
  | .pushed call result => some (call, result)
  | _ => none

def Output.item : Output → Option Sample
  | .popped (.item sample) => some sample
  | _ => none

def ordinals (results : List (PushCall × Result)) : List ℕ :=
  (results.map fun c => c.2.ordinal).filter (· ≠ 0)

def sampleOf (cfg : Config) (c : PushCall × Result) : Option Sample :=
  if c.2.outcome = .published then
    some ⟨⟨c.1.frame, c.2.ordinal, c.1.bytes, c.1.source.getD fun _ => 0⟩, cfg.scope⟩
  else none

def published (cfg : Config) (results : List (PushCall × Result)) : List Sample :=
  results.filterMap (sampleOf cfg)

/-! ## Moves -/

@[simp]
def PushPoint.attempt : PushPoint → Option ℕ
  | .loadRead ordinal | .write ordinal _ => some ordinal
  | _ => none

structure Fit (cfg : Config) (frame : UInt64) (bytes : ℕ) : Prop where
  frame : frame ≠ 0
  pos : 0 < bytes
  le : bytes ≤ cfg.limits.sampleBytes

inductive Move (cfg : Config) (s : State) : Output × State → Prop where
  | rest : Move cfg s (.running, s)
  | flag (stop closed : Bool) : Move cfg s (.running, { s with stop, closed })
  | carry (producer : PushPoint) (call : PushCall) (exhausted : Bool)
      (hfrom : s.producer.attempt = none) (hto : producer.attempt = none)
      (hscope : s.producer = .idle → cfg.scope.valid) :
      Move cfg s (.running, { s with producer, call, exhausted })
  | refuse (call : PushCall) (outcome : Push) (stop : Bool) (hpoint : s.producer.attempt = none)
      (houtcome : outcome ≠ .published ∧ outcome ≠ .full ∧ outcome ≠ .invalid) :
      Move cfg s (.pushed call ⟨outcome, 0⟩, { s with stop, producer := .idle })
  | invalid (hpoint : s.producer.attempt = none) (hne : s.attempted ≠ cfg.limits.attempts) :
      Move cfg s (.pushed s.call ⟨.invalid, s.attempted + 1⟩,
        { s with attempted := s.attempted + 1, invalid := s.invalid + 1, producer := .idle })
  | admission (hpoint : s.producer.attempt = none) (hbusy : s.producer ≠ .idle)
      (hne : s.attempted ≠ cfg.limits.attempts)
      (hfit : Fit cfg s.call.frame s.call.bytes) (hframe : s.lastFrame ≤ s.call.frame) :
      Move cfg s (.running, { s with
        attempted := s.attempted + 1
        lastFrame := s.call.frame
        producer := .loadRead (s.attempted + 1) })
  | full (ordinal : ℕ) (hpoint : s.producer = .loadRead ordinal) :
      Move cfg s (.pushed s.call ⟨.full, ordinal⟩,
        { s with full := s.full + 1, producer := .idle })
  | fill (ordinal : ℕ) (hpoint : s.producer = .loadRead ordinal)
      (hroom : s.written - s.read ≠ capacity) :
      Move cfg s (.running, { s with producer := .write ordinal ∅ })
  | write (ordinal : ℕ) (done : Finset Part) (part : Part)
      (hpoint : s.producer = .write ordinal done) :
      Move cfg s (.running, { s with
        slot := Function.update s.slot (s.written % capacity)
          ((s.source ordinal).copy (s.slot (s.written % capacity)) part)
        producer := .write ordinal (insert part done) })
  | publish (ordinal : ℕ) (hpoint : s.producer = .write ordinal (parts s.call.bytes)) :
      Move cfg s (.pushed s.call ⟨.published, ordinal⟩,
        { s with written := s.written + 1, published := s.published + 1, producer := .idle })
  /-- The consumer goes on, or returns without a sample. -/
  | look (output : Output) (consumer : PopPoint) (hitem : output.item = none)
      (hreturned : output.returned = none) (hto : ∀ done out, consumer ≠ .copy done out) :
      Move cfg s (output, { s with consumer })
  | find (out : Sample) (hne : s.read ≠ s.written) :
      Move cfg s (.running, { s with consumer := .copy ∅ out })
  | copy (done : Finset Part) (out : Sample) (part : Part) (hpoint : s.consumer = .copy done out) :
      Move cfg s (.running, { s with
        consumer := .copy (insert part done)
          { out with toSlot := (s.slot (s.read % capacity)).copy out.toSlot part } })
  | take (out : Sample)
      (hpoint : s.consumer = .copy (parts (s.slot (s.read % capacity)).bytes) out) :
      Move cfg s (.popped (.item { out with scope := cfg.scope }),
        { s with read := s.read + 1, consumer := .idle })

theorem move_pushStep (cfg : Config) (part : Part) (s : State) : Move cfg s (pushStep cfg part s) := by
  unfold pushStep
  cases hp : s.producer with
  | idle => exact .rest
  | loadClosed =>
    dsimp only
    split_ifs
    · exact .refuse _ _ s.stop (by rw [hp]; rfl) (by decide)
    · exact .refuse _ _ s.stop (by rw [hp]; rfl) (by decide)
    · exact .carry _ s.call s.exhausted (by rw [hp]; rfl) rfl (by simp [hp])
  | loadStop =>
    dsimp only
    split_ifs with hstop hlimit hrefuse
    · exact .refuse _ _ s.stop (by rw [hp]; rfl) (by decide)
    · exact .carry _ s.call _ (by rw [hp]; rfl) rfl (by simp [hp])
    · exact .invalid (by rw [hp]; rfl) hlimit
    · simp only [State.refuses, decide_eq_true_eq, not_or, not_lt] at hrefuse
      exact .admission (by rw [hp]; rfl) (by simp [hp]) hlimit ⟨hrefuse.1, by omega, hrefuse.2.2.2.2⟩
        (UInt64.not_lt.mp hrefuse.2.1)
  | storeStop => exact .refuse _ _ true (by rw [hp]; rfl) (by decide)
  | loadRead ordinal =>
    dsimp only
    split_ifs with hfull
    · exact .full ordinal hp
    · exact .fill ordinal hp hfull
  | write ordinal done =>
    dsimp only
    split_ifs with hdone hpart
    · exact .publish ordinal (by rw [hp, hdone])
    · exact .write ordinal done part hp
    · exact .rest

theorem move_popStep (cfg : Config) (part : Part) (output : Sample) (s : State) :
    Move cfg s (popStep cfg part output s) := by
  unfold popStep
  dsimp only
  cases hp : s.consumer with
  | idle =>
    dsimp only
    split_ifs with hempty
    · exact .look _ _ rfl rfl (fun _ _ => by simp)
    · exact .find output hempty
  | loadClosed out =>
    dsimp only
    split_ifs
    · exact .look _ _ rfl rfl (fun _ _ => by simp)
    · exact .look _ _ rfl rfl (fun _ _ => by simp)
  | reload out =>
    dsimp only
    split_ifs with hempty
    · exact .look _ _ rfl rfl (fun _ _ => by simp)
    · exact .find out hempty
  | copy done out =>
    dsimp only
    split_ifs with hdone hpart
    · exact .take out (by rw [hp, hdone])
    · exact .copy done out part hp
    · exact .rest

theorem move_step (cfg : Config) (action : Action) (s : State) : Move cfg s (step cfg action s) := by
  cases action with
  | enter call =>
    unfold step
    dsimp only
    cases hp : s.producer with
    | idle =>
      dsimp only
      split_ifs with hbad
      · have hmove : Move cfg s (.pushed call ⟨.unconfigured, 0⟩,
            { s with stop := s.stop, producer := .idle }) :=
          .refuse call _ s.stop (by rw [hp]; rfl) (by decide)
        rwa [← hp] at hmove
      · exact .carry _ call s.exhausted (by rw [hp]; rfl) rfl fun _ => by simp_all
    | _ => exact .rest
  | push part => exact move_pushStep cfg part s
  | pop part output => exact move_popStep cfg part output s
  | requestStop => exact .flag true s.closed
  | closeProducer =>
    unfold step
    dsimp only
    cases hp : s.producer with
    | idle =>
      dsimp only
      rw [← hp]
      exact .flag s.stop true
    | _ => exact .rest

/-! ## The attempts -/

structure Attempts (cfg : Config) (s : State) (results : List (PushCall × Result)) : Prop where
  le : s.attempted ≤ cfg.limits.attempts
  /-- They are numbered from 1, the one that is underway last. -/
  numbered : ordinals results ++ s.producer.attempt.toList = List.range' 1 s.attempted
  /-- Those that have a number are published, full or invalid. -/
  outcomes : ∀ c ∈ results, c.2.ordinal ≠ 0 ↔
    c.2.outcome = .published ∨ c.2.outcome = .full ∨ c.2.outcome = .invalid
  fit : s.producer.attempt ≠ none →
    Fit cfg s.call.frame s.call.bytes ∧ s.call.frame = s.lastFrame
  scope : s.producer ≠ .idle → cfg.scope.valid
  fits : ∀ x ∈ published cfg results, Fit cfg x.frame x.bytes ∧ x.frame ≤ s.lastFrame ∧
    cfg.scope.valid
  frames : (published cfg results).Pairwise fun x y => x.frame ≤ y.frame

variable {cfg : Config} {s s' : State} {o : Output} {results : List (PushCall × Result)}
  {popped : List Sample}

theorem attempts_new (cfg : Config) : Attempts cfg {} [] where
  le := Nat.zero_le _
  numbered := rfl
  outcomes _ h := nomatch h
  fit h := absurd rfl h
  scope h := absurd rfl h
  fits _ h := nomatch h
  frames := List.Pairwise.nil

theorem numbers_succ (n : ℕ) : List.range' 1 (n + 1) = List.range' 1 n ++ [n + 1] := by
  rw [List.range'_1_concat, Nat.add_comm 1]

theorem Attempts.attempt (h : Attempts cfg s results) {ordinal : ℕ}
    (hp : s.producer.attempt = some ordinal) : ordinal = s.attempted ∧ ordinal ≠ 0 := by
  have hn := h.numbered
  rw [hp, Option.toList_some] at hn
  have hpos : s.attempted ≠ 0 := by
    intro h0
    rw [h0] at hn
    simp at hn
  obtain ⟨n, hn'⟩ := Nat.exists_eq_succ_of_ne_zero hpos
  rw [hn', Nat.succ_eq_add_one, numbers_succ] at hn
  have := (List.append_inj' hn rfl).2
  simp only [List.cons.injEq, and_true] at this
  omega

theorem Attempts.frame (h : Attempts cfg s results) (hattempted : s'.attempted = s.attempted)
    (hproducer : s'.producer.attempt = s.producer.attempt) (hframe : s'.lastFrame = s.lastFrame)
    (hcall : s.producer.attempt ≠ none → s'.call = s.call)
    (hscope : s'.producer ≠ .idle → cfg.scope.valid) : Attempts cfg s' results where
  le := by rw [hattempted]; exact h.le
  numbered := by rw [hattempted, hproducer]; exact h.numbered
  outcomes := h.outcomes
  fit hp := by
    rw [hproducer] at hp
    rw [hcall hp, hframe]
    exact h.fit hp
  scope := hscope
  fits := by rw [hframe]; exact h.fits
  frames := h.frames

theorem Attempts.returns (h : Attempts cfg s results) {call : PushCall} {outcome : Push}
    {ordinal : ℕ} (hne : outcome ≠ .published)
    (hnumber : ordinal ≠ 0 ↔ outcome = .full ∨ outcome = .invalid)
    (hnumbered : ordinals results ++ (if ordinal = 0 then [] else [ordinal]) = List.range' 1 s'.attempted)
    (hle : s'.attempted ≤ cfg.limits.attempts) (hidle : s'.producer = .idle)
    (hframe : s'.lastFrame = s.lastFrame) :
    Attempts cfg s' (results ++ [(call, ⟨outcome, ordinal⟩)]) := by
  have hpublished : published cfg (results ++ [(call, ⟨outcome, ordinal⟩)]) = published cfg results := by
    simp [published, sampleOf, hne]
  constructor
  · exact hle
  · rw [hidle, ← hnumbered]
    by_cases h0 : ordinal = 0 <;> simp [ordinals, h0]
  · intro c hc
    rcases List.mem_append.mp hc with hc | hc
    · exact h.outcomes c hc
    · rw [List.mem_singleton.mp hc]
      simpa [hne] using hnumber
  · rw [hidle]
    exact fun hn => absurd rfl hn
  · exact fun hne => absurd hidle hne
  · rw [hpublished, hframe]
    exact h.fits
  · rw [hpublished]
    exact h.frames

theorem attempts_move (h : Attempts cfg s results) (hm : Move cfg s (o, s')) :
    Attempts cfg s' (results ++ o.returned.toList) := by
  cases hm with
  | refuse call outcome stop hp hout =>
    refine h.returns hout.1 (by simp [hout]) ?_ h.le rfl rfl
    have hn := h.numbered
    rw [hp] at hn
    exact hn
  | invalid hp hne =>
    refine h.returns (by decide) (by simp) ?_ (Nat.lt_of_le_of_ne h.le hne) rfl rfl
    have hn := h.numbered
    rw [hp, Option.toList_none, List.append_nil] at hn
    rw [if_neg (Nat.succ_ne_zero _), hn]
    exact (numbers_succ _).symm
  | full ordinal hp =>
    have hattempt : s.producer.attempt = some ordinal := by rw [hp]; rfl
    obtain ⟨hlast, hpos⟩ := h.attempt hattempt
    refine h.returns (by decide) (by simpa using hpos) ?_ h.le rfl rfl
    have hn := h.numbered
    rw [hattempt] at hn
    rw [if_neg hpos]
    exact hn
  | admission hp hbusy hne hfit hframe =>
    simp only [Output.returned, Option.toList_none, List.append_nil]
    constructor
    · exact Nat.lt_of_le_of_ne h.le hne
    · have hn := h.numbered
      rw [hp, Option.toList_none, List.append_nil] at hn
      rw [hn]
      exact (numbers_succ _).symm
    · exact h.outcomes
    · exact fun _ => ⟨hfit, rfl⟩
    · exact fun _ => h.scope hbusy
    · exact fun x hx => ⟨(h.fits x hx).1, UInt64.le_trans (h.fits x hx).2.1 hframe, (h.fits x hx).2.2⟩
    · exact h.frames
  | publish ordinal hp =>
    simp only [Output.returned, Option.toList_some]
    have hattempt : s.producer.attempt = some ordinal := by rw [hp]; rfl
    have hpos := (h.attempt hattempt).2
    obtain ⟨hfit, hlast⟩ := h.fit (by rw [hattempt]; simp)
    have hpublished : published cfg (results ++ [(s.call, ⟨.published, ordinal⟩)]) =
        published cfg results ++ [⟨s.source ordinal, cfg.scope⟩] := by
      simp [published, sampleOf, State.source]
    constructor
    · exact h.le
    · have hn := h.numbered
      rw [hattempt] at hn
      rw [← hn]
      simp [ordinals, hpos]
    · intro c hc
      rcases List.mem_append.mp hc with hc | hc
      · exact h.outcomes c hc
      · rw [List.mem_singleton.mp hc]
        simpa using hpos
    · exact fun hn => absurd rfl hn
    · exact fun hn => absurd rfl hn
    · intro x hx
      rw [hpublished] at hx
      rcases List.mem_append.mp hx with hx | hx
      · exact h.fits x hx
      · rw [List.mem_singleton.mp hx]
        exact ⟨hfit, UInt64.le_of_eq hlast, h.scope (by simp [hp])⟩
    · rw [hpublished, List.pairwise_append]
      refine ⟨h.frames, List.pairwise_singleton _ _, fun x hx y hy => ?_⟩
      rw [List.mem_singleton.mp hy]
      exact UInt64.le_trans (h.fits x hx).2.1 (UInt64.le_of_eq hlast.symm)
  | carry producer call exhausted hfrom hto hscope =>
    simp only [Output.returned, Option.toList_none, List.append_nil]
    refine h.frame rfl (hto.trans hfrom.symm) rfl (fun hne => absurd hfrom hne) fun _ => ?_
    by_cases hidle : s.producer = .idle
    · exact hscope hidle
    · exact h.scope hidle
  | fill ordinal hp hroom =>
    simp only [Output.returned, Option.toList_none, List.append_nil]
    exact h.frame rfl (by rw [hp]; rfl) rfl (fun _ => rfl) fun _ => h.scope (by simp [hp])
  | write ordinal done part hp =>
    simp only [Output.returned, Option.toList_none, List.append_nil]
    exact h.frame rfl (by rw [hp]; rfl) rfl (fun _ => rfl) fun _ => h.scope (by simp [hp])
  | look output consumer hitem hreturned hto =>
    rw [hreturned, Option.toList_none, List.append_nil]
    exact h.frame rfl rfl rfl (fun _ => rfl) h.scope
  | _ =>
    simp only [Output.returned, Option.toList_none, List.append_nil]
    exact h.frame rfl rfl rfl (fun _ => rfl) h.scope

/-! ## The slots -/

/-- The published samples that are not yet popped, and the one that is being written. -/
structure Queue (cfg : Config) (s : State) (results : List (PushCall × Result)) : Prop where
  length : (published cfg results).length = s.written
  read_le : s.read ≤ s.written
  written_le : s.written ≤ s.read + capacity
  slots : ∀ p x, s.read ≤ p → (published cfg results)[p]? = some x →
    Same (s.slot (p % capacity)) x.toSlot
  writing : ∀ ordinal done, s.producer = .write ordinal done → s.written < s.read + capacity ∧
    ∀ part ∈ done, Agrees (s.slot (s.written % capacity)) (s.source ordinal) part
  reading : ∀ done out, s.consumer = .copy done out → s.read < s.written

theorem queue_new (cfg : Config) : Queue cfg {} [] where
  length := rfl
  read_le := le_rfl
  written_le := Nat.zero_le _
  slots p x _ hx := by simp [published] at hx
  writing _ _ h := nomatch h
  reading _ _ h := nomatch h

theorem Queue.frame (h : Queue cfg s results) {results' : List (PushCall × Result)}
    (hresults : published cfg results' = published cfg results) (hslot : s'.slot = s.slot)
    (hwritten : s'.written = s.written) (hread : s'.read = s.read)
    (hproducer : ∀ ordinal done, s'.producer = .write ordinal done →
      s.producer = .write ordinal done ∧ s'.call = s.call)
    (hconsumer : ∀ done out, s'.consumer = .copy done out → s.read < s.written) :
    Queue cfg s' results' where
  length := by rw [hresults, hwritten]; exact h.length
  read_le := by rw [hread, hwritten]; exact h.read_le
  written_le := by rw [hread, hwritten]; exact h.written_le
  slots := by rw [hresults, hread, hslot]; exact h.slots
  writing ordinal done hp := by
    obtain ⟨hp', hcall⟩ := hproducer ordinal done hp
    rw [hwritten, hread, hslot, State.source, hcall]
    exact h.writing ordinal done hp'
  reading done out hc := by rw [hread, hwritten]; exact hconsumer done out hc

theorem published_append {c : PushCall × Result} (hc : c.2.outcome ≠ .published) :
    published cfg (results ++ [c]) = published cfg results := by
  simp [published, sampleOf, hc]

theorem queue_move (h : Queue cfg s results) (hm : Move cfg s (o, s')) :
    Queue cfg s' (results ++ o.returned.toList) := by
  cases hm with
  | refuse call outcome stop hp hout =>
    exact h.frame (published_append hout.1) rfl rfl rfl (fun _ _ hw => (nomatch hw)) h.reading
  | invalid hp hne =>
    exact h.frame (published_append (by simp)) rfl rfl rfl (fun _ _ hw => (nomatch hw)) h.reading
  | full ordinal hp =>
    exact h.frame (published_append (by simp)) rfl rfl rfl (fun _ _ hw => (nomatch hw)) h.reading
  | carry producer call exhausted hfrom hto hscope =>
    simp only [Output.returned, Option.toList_none, List.append_nil]
    refine h.frame rfl rfl rfl rfl (fun ordinal done hw => ?_) h.reading
    have hpoint : producer = .write ordinal done := hw
    rw [hpoint] at hto
    exact nomatch hto
  | admission hp hbusy hne hfit hframe =>
    simp only [Output.returned, Option.toList_none, List.append_nil]
    exact h.frame rfl rfl rfl rfl (fun _ _ hw => (nomatch hw)) h.reading
  | fill ordinal hp hroom =>
    simp only [Output.returned, Option.toList_none, List.append_nil]
    refine ⟨h.length, h.read_le, h.written_le, h.slots, fun o done hw => ?_, h.reading⟩
    cases hw
    have := h.read_le
    have := h.written_le
    have hlt : s.written < s.read + capacity := by omega
    exact ⟨hlt, fun part hpart => absurd hpart (Finset.notMem_empty part)⟩
  | write ordinal done part hp =>
    simp only [Output.returned, Option.toList_none, List.append_nil]
    obtain ⟨hlt, hdone⟩ := h.writing ordinal done hp
    obtain ⟨hnew, hold⟩ := agrees_copy (s.source ordinal) (s.slot (s.written % capacity)) part
    refine ⟨h.length, h.read_le, h.written_le, fun p x hr hx => ?_, fun o d hw => ?_, h.reading⟩
    · -- The samples are in other slots.
      have hpw : p < s.written := by
        rw [← h.length]
        exact (List.getElem?_eq_some_iff.mp hx).1
      have hpc : p < s.read + capacity := by omega
      show Same (Function.update s.slot _ _ (p % capacity)) x.toSlot
      rw [Function.update_of_ne (window_ne hr hpc h.read_le hlt hpw.ne)]
      exact h.slots p x hr hx
    · cases hw
      refine ⟨hlt, fun p hpart => ?_⟩
      show Agrees (Function.update s.slot _ _ (s.written % capacity)) (s.source ordinal) p
      rw [Function.update_self]
      rcases Finset.mem_insert.mp hpart with rfl | hpart
      · exact hnew
      · exact hold p (hdone p hpart)
  | publish ordinal hp =>
    simp only [Output.returned, Option.toList_some]
    obtain ⟨hlt, hdone⟩ := h.writing ordinal _ hp
    have hpublished : published cfg (results ++ [(s.call, ⟨.published, ordinal⟩)]) =
        published cfg results ++ [⟨s.source ordinal, cfg.scope⟩] := by
      simp [published, sampleOf, State.source]
    refine ⟨?_, h.read_le.trans (Nat.le_succ _), hlt, fun p x hr hx => ?_,
      fun _ _ hw => (nomatch hw), fun d out hc => Nat.lt_succ_of_lt (h.reading d out hc)⟩
    · rw [hpublished, List.length_append, h.length]
      rfl
    · rw [hpublished] at hx
      rcases Nat.lt_or_ge p (published cfg results).length with hp' | hp'
      · rw [List.getElem?_append_left hp'] at hx
        exact h.slots p x hr hx
      · rw [List.getElem?_append_right hp', List.getElem?_singleton] at hx
        split_ifs at hx with h0
        cases hx
        have hpe : p = s.written := by
          have := h.length
          omega
        rw [hpe]
        exact hdone
  | look output consumer hitem hreturned hto =>
    rw [hreturned, Option.toList_none, List.append_nil]
    exact h.frame rfl rfl rfl rfl (fun _ _ hw => ⟨hw, rfl⟩) fun d out hc => absurd hc (hto d out)
  | find out hne =>
    simp only [Output.returned, Option.toList_none, List.append_nil]
    exact h.frame rfl rfl rfl rfl (fun _ _ hw => ⟨hw, rfl⟩)
      fun _ _ _ => Nat.lt_of_le_of_ne h.read_le hne
  | copy done out part hp =>
    simp only [Output.returned, Option.toList_none, List.append_nil]
    exact h.frame rfl rfl rfl rfl (fun _ _ hw => ⟨hw, rfl⟩) fun _ _ _ => h.reading done out hp
  | take out hp =>
    simp only [Output.returned, Option.toList_none, List.append_nil]
    have hlt := h.reading _ out hp
    have hle := h.written_le
    refine ⟨h.length, hlt, ?_, fun p x hr hx => h.slots p x (Nat.le_of_succ_le hr) hx,
      fun ordinal done hw => ?_, fun _ _ hc => (nomatch hc)⟩
    · show s.written ≤ s.read + 1 + capacity
      omega
    · obtain ⟨hw', hdone⟩ := h.writing ordinal done hw
      refine ⟨?_, hdone⟩
      show s.written < s.read + 1 + capacity
      omega
  | _ =>
    simp only [Output.returned, Option.toList_none, List.append_nil]
    exact h.frame rfl rfl rfl rfl (fun _ _ hw => ⟨hw, rfl⟩) h.reading

/-! ## The popped samples -/

structure Taken (cfg : Config) (s : State) (results : List (PushCall × Result))
    (popped : List Sample) : Prop where
  /-- It has popped the samples before its position. -/
  length : popped.length = s.read
  popped : ∀ (p : ℕ) y, popped[p]? = some y → ∃ x, (published cfg results)[p]? = some x ∧
    y.scope = cfg.scope ∧ Same y.toSlot x.toSlot
  copying : ∀ done out, s.consumer = .copy done out →
    ∀ part ∈ done, Agrees out.toSlot (s.slot (s.read % capacity)) part

theorem taken_new (cfg : Config) : Taken cfg {} [] [] where
  length := rfl
  popped p y hy := by simp at hy
  copying _ _ h := nomatch h

theorem Taken.frame (h : Taken cfg s results popped) (more : List (PushCall × Result))
    (hread : s'.read = s.read)
    (hcopying : ∀ done out, s'.consumer = .copy done out →
      ∀ part ∈ done, Agrees out.toSlot (s'.slot (s'.read % capacity)) part) :
    Taken cfg s' (results ++ more) popped where
  length := by rw [hread]; exact h.length
  popped p y hy := by
    obtain ⟨x, hx, hsame⟩ := h.popped p y hy
    refine ⟨x, ?_, hsame⟩
    rw [published, List.filterMap_append]
    exact (List.getElem?_append_left (List.getElem?_eq_some_iff.mp hx).1).trans hx
  copying := hcopying

theorem taken_move (h : Taken cfg s results popped) (hq : Queue cfg s results)
    (hm : Move cfg s (o, s')) :
    Taken cfg s' (results ++ o.returned.toList) (popped ++ o.item.toList) := by
  cases hm with
  | write ordinal done part hp =>
    simp only [Output.item, Option.toList_none, List.append_nil]
    refine h.frame _ rfl fun d out hc p hpart => ?_
    -- The consumer's slot is not the one that is written.
    have hlt := hq.reading d out hc
    have hw := (hq.writing ordinal done hp).1
    show Agrees out.toSlot (Function.update s.slot _ _ (s.read % capacity)) p
    rw [Function.update_of_ne (window_ne le_rfl (by omega) hq.read_le hw hlt.ne)]
    exact h.copying d out hc p hpart
  | look output consumer hitem hreturned hto =>
    rw [hitem, Option.toList_none, List.append_nil]
    exact h.frame _ rfl fun d out hc => absurd hc (hto d out)
  | find out hne =>
    simp only [Output.item, Option.toList_none, List.append_nil]
    refine h.frame _ rfl fun d out hc p hpart => ?_
    cases hc
    exact absurd hpart (Finset.notMem_empty p)
  | copy done out part hp =>
    simp only [Output.item, Option.toList_none, List.append_nil]
    refine h.frame _ rfl fun d out' hc p hpart => ?_
    cases hc
    obtain ⟨hnew, hold⟩ := agrees_copy (s.slot (s.read % capacity)) out.toSlot part
    rcases Finset.mem_insert.mp hpart with rfl | hpart
    · exact hnew
    · exact hold p (h.copying done out hp p hpart)
  | take out hp =>
    simp only [Output.item, Option.toList_some, Output.returned, Option.toList_none, List.append_nil]
    have hlt := hq.reading _ out hp
    rw [← hq.length] at hlt
    have hx := List.getElem?_eq_getElem hlt
    have hslot := hq.slots s.read _ le_rfl hx
    have hcopy := h.copying _ out hp
    refine ⟨?_, fun p y hy => ?_, fun _ _ hc => (nomatch hc)⟩
    · rw [List.length_append, h.length]
      rfl
    · rcases Nat.lt_or_ge p popped.length with hp' | hp'
      · rw [List.getElem?_append_left hp'] at hy
        exact h.popped p y hy
      · rw [List.getElem?_append_right hp', List.getElem?_singleton] at hy
        split_ifs at hy with h0
        cases hy
        have hpe : p = s.read := by
          have := h.length
          omega
        rw [hpe]
        exact ⟨_, hx, rfl, Same.trans hcopy hslot⟩
  | _ =>
    simp only [Output.item, Option.toList_none, List.append_nil]
    exact h.frame _ rfl h.copying

/-! ## What the invariants say -/

theorem published_ordinals (h : ∀ c ∈ results, c.2.outcome = .published → c.2.ordinal ≠ 0) :
    ((published cfg results).map fun x => x.ordinal).Sublist (ordinals results) := by
  induction results with
  | nil => exact List.Sublist.slnil
  | cons c rest ih =>
    have ih := ih fun c' hc' => h c' (List.mem_cons_of_mem _ hc')
    by_cases hp : c.2.outcome = .published
    · have hne := h c List.mem_cons_self hp
      simpa [published, sampleOf, ordinals, hp, hne] using ih
    · by_cases h0 : c.2.ordinal = 0
      · simpa [published, sampleOf, ordinals, hp, h0] using ih
      · simpa [published, sampleOf, ordinals, hp, h0] using List.Sublist.cons _ ih

theorem Attempts.published (h : Attempts cfg s results) :
    ((published cfg results).map fun x => x.ordinal).Pairwise (· < ·) ∧
      (∀ x ∈ published cfg results, 0 < x.ordinal ∧ x.ordinal ≤ s.attempted) ∧
        (published cfg results).length ≤ s.attempted := by
  have hsub : ((Inbox.published cfg results).map fun x => x.ordinal).Sublist
      (List.range' 1 s.attempted) := by
    rw [← h.numbered]
    refine List.Sublist.trans (published_ordinals fun c hc hout => ?_) (List.sublist_append_left _ _)
    exact (h.outcomes c hc).mpr (.inl hout)
  refine ⟨List.Pairwise.sublist hsub List.pairwise_lt_range', fun x hx => ?_, ?_⟩
  · have := hsub.subset (List.mem_map_of_mem hx)
    rw [List.mem_range'_1] at this
    omega
  · simpa using hsub.length_le

theorem Attempts.returned_below (h : Attempts cfg s results) {x : Sample}
    (hx : x ∈ Inbox.published cfg results) {n : ℕ} (hpos : 0 < n) (hn : n < x.ordinal) :
    ∃ c ∈ results, c.2.ordinal = n ∧
      (c.2.outcome = .published ∨ c.2.outcome = .full ∨ c.2.outcome = .invalid) := by
  have hle := (h.published.2.1 x hx).2
  have hmem : n ∈ List.range' 1 s.attempted := List.mem_range'_1.mpr ⟨hpos, by omega⟩
  rw [← h.numbered] at hmem
  rcases List.mem_append.mp hmem with hmem | hmem
  · obtain ⟨hmem, -⟩ := List.mem_filter.mp hmem
    obtain ⟨c, hc, rfl⟩ := List.mem_map.mp hmem
    exact ⟨c, hc, rfl, (h.outcomes c hc).mp (by omega)⟩
  · -- The attempt that is underway is the last one.
    have := (h.attempt (Option.mem_toList.mp hmem)).1
    omega

theorem Taken.map_eq {β : Type} (h : Taken cfg s results popped) (f : Slot → β)
    (hf : ∀ y x, Same y x → f y = f x) : popped.map (fun y => f y.toSlot) =
      ((published cfg results).take popped.length).map fun x => f x.toSlot := by
  apply List.ext_getElem?
  intro p
  rw [List.getElem?_map, List.getElem?_map]
  rcases Nat.lt_or_ge p popped.length with hp | hp
  · obtain ⟨x, hx, -, hsame⟩ := h.popped p _ (List.getElem?_eq_getElem hp)
    rw [List.getElem?_take_of_lt hp, hx, List.getElem?_eq_getElem hp]
    exact congrArg some (hf _ _ hsame)
  · rw [List.getElem?_eq_none hp, List.getElem?_eq_none]
    exact (List.length_take_le _ _).trans hp

/-! ## Runs -/

abbrev Event := Record State Action Output

/-- The calls of `tryPush` that have returned, and their results. -/
def returnedCalls (past : List Event) : List (PushCall × Result) :=
  past.filterMap fun r => r.output.returned

def poppedSamples (past : List Event) : List Sample := past.filterMap fun r => r.output.item

theorem sound_run (cfg : Config) (actions : List Action) :
    let s := run (step cfg) actions {}
    let past := history (step cfg) actions {}
    Attempts cfg s (returnedCalls past) ∧ Queue cfg s (returnedCalls past) ∧
      Taken cfg s (returnedCalls past) (poppedSamples past) := by
  refine @history_induction _ _ _ (step cfg) (fun s past => Attempts cfg s (returnedCalls past) ∧
    Queue cfg s (returnedCalls past) ∧ Taken cfg s (returnedCalls past) (poppedSamples past)) {}
    ⟨attempts_new cfg, queue_new cfg, taken_new cfg⟩ (fun s past action h => ?_) actions
  obtain ⟨ha, hq, ht⟩ := h
  have hm := move_step cfg action s
  rw [returnedCalls, poppedSamples, filterMap_concat, filterMap_concat]
  exact ⟨attempts_move ha hm, queue_move hq hm, taken_move ht hq hm⟩

end War3VK.RenderHost.Inbox
