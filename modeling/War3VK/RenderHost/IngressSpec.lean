import War3VK.RenderHost.IngressInvariant

/-!
# What the event ingress guarantees

The parts of the invariant are put together for runs (`sound_run`), with the counts of the callers and
their attempts (`counted_run`) and what the consumer knows when it finds the ingress drained
(`draining_run`).
-/

namespace War3VK.RenderHost.Recorder.Ingress

open Lib

variable {ι : Type} {cfg : Config} {s s' : State ι}
  {returned : List (PushCall × PushResult)} {popped : List Words} {o : Output}

/-! ## The queue -/

def Sound (cfg : Config) (s : State ι) (returned : List (PushCall × PushResult))
    (popped : List Words) : Prop :=
  ∃ claims owners, Owned cfg s returned claims owners ∧ Cells cfg s claims ∧
    Consumed cfg s popped claims

theorem sound_new (cfg : Config) : Sound cfg (State.new ι cfg) [] [] := by
  refine ⟨[], [], ?_, ?_, ?_⟩
  · constructor
    · rfl
    · rfl
    · exact fun i p => iff_of_false (by simp [State.new]) (by simp)
    · exact fun n p => iff_of_false (by simp) (by simp)
    · exact fun i p hp => by simp [State.new] at hp
    · exact fun n c p hn => by simp at hn
    · exact fun i hi => by simp [State.new] at hi
    · exact ⟨fun i => rfl, by simp⟩
  · constructor
    · exact le_rfl
    · exact Nat.zero_le _
    · intro p _ hp
      have hlt : p < cfg.capacity := by simpa [State.new] using hp
      exact Nat.mod_eq_of_lt hlt
    · exact fun i p done hw => nomatch hw
    · exact fun p _ hp => absurd hp (by simp [State.new])
    · exact fun i p retry hx => nomatch hx
  · exact ⟨rfl, fun p hp => absurd hp (by simp [State.new]), fun done output hc => nomatch hc⟩

variable [DecidableEq ι]

theorem sound_move (h : Sound cfg s returned popped) (hm : Move cfg s (o, s')) :
    Sound cfg s' (returned ++ o.returned.toList) (popped ++ o.event.toList) := by
  obtain ⟨claims, owners, ho, hc, hu⟩ := h
  have htwo := cfg.two_le
  cases hm with
  | rest =>
    simp only [Output.returned, Output.event, Option.toList_none, List.append_nil]
    exact ⟨claims, owners, ho, hc, hu⟩
  | carry i p _ hcar =>
    simp only [Output.returned, Output.event, Option.toList_none, List.append_nil]
    refine ⟨claims, owners, ho.carry hcar, ?_, ?_⟩
    · refine hc.goto hcar.point hcar.stamp hcar.cell hcar.claimed hcar.read ?_ ?_ ?_
      · exact fun q done hw => by simpa [hw] using hcar.from_holds
      · exact fun q done hw => by simpa [hw] using hcar.to_holds
      · exact fun q retry hx => by simpa [hx] using hcar.to_claims
    · exact hu.frame hcar.read (.inl hcar.consumer) (by rw [hcar.stamp]; exact id)
  | observe i position retry hp hs =>
    simp only [Output.returned, Output.event, Option.toList_none, List.append_nil]
    refine ⟨claims, owners, ?_, ?_, hu.frame rfl (.inl rfl) id⟩
    · exact ho.goto rfl rfl rfl (by rw [hp]; rfl) (fun _ => by rw [hp]; rfl) rfl
    · refine hc.goto rfl rfl rfl rfl rfl (by simp [hp]) (by simp) fun q r hq => ?_
      cases hq
      exact hc.lt_of_stamp hs
  | claim i retry hp =>
    simp only [Output.returned, Output.event, Option.toList_none, List.append_nil]
    refine ⟨claims ++ [(s.call i).event], owners ++ [.inl i], ho.claim hp,
      hc.claim ho.claims_length hp _, ?_⟩
    apply hu.claim hc ho.claims_length <;> rfl
  | write i position done word hp =>
    simp only [Output.returned, Output.event, Option.toList_none, List.append_nil]
    refine ⟨claims, owners, ?_, hc.write ho hp word, hu.frame rfl (.inl rfl) id⟩
    exact ho.goto rfl rfl rfl (by rw [hp]; rfl) (fun _ => by rw [hp]; rfl) rfl
  | store i position hp =>
    simp only [Output.returned, Output.event, Option.toList_none, List.append_nil]
    refine ⟨claims, owners, ?_, hc.store ho hp, hu.frame rfl (.inl rfl) fun hread => ?_⟩
    · exact ho.goto rfl rfl rfl (by rw [hp]; rfl) (fun _ => by rw [hp]; rfl) rfl
    · -- The consumer's cell is not the one that is published now.
      obtain ⟨⟨hr, hlt⟩, hs, -⟩ := hc.writing i position _ hp
      have hle := hc.claimed_le
      have hne : s.read ≠ position := by
        rintro rfl
        omega
      simp only [State.goto, State.setStamp]
      rw [Function.update_of_ne (window_ne le_rfl (by omega) hr (by omega) hne)]
      exact hread
  | publish i position hp =>
    simp only [Output.returned, Output.event, Option.toList_none, Option.toList_some, List.append_nil]
    exact ⟨claims, owners.set position (.inr returned.length), ho.publish hp,
      hc.goto rfl rfl rfl rfl rfl (by simp [hp]) (by simp) (by simp), hu.frame rfl (.inl rfl) id⟩
  | refuse i reason hp =>
    simp only [Output.returned, Output.event, Option.toList_none, Option.toList_some, List.append_nil]
    exact ⟨claims, owners, ho.refuse hp,
      hc.goto rfl rfl rfl rfl rfl (by simp [hp]) (by simp) (by simp), hu.frame rfl (.inl rfl) id⟩
  | take output hp =>
    simp only [Output.returned, Output.event, Option.toList_none, Option.toList_some, List.append_nil]
    exact ⟨claims, owners, ho.frame rfl (fun _ => rfl) (fun _ _ => rfl) ho.session ho.honest.1,
      hc.take (hu.copying _ output hp).1, hu.take hp⟩
  | copy done output word hp =>
    simp only [Output.returned, Output.event, Option.toList_none, List.append_nil]
    exact ⟨claims, owners, ho.frame rfl (fun _ => rfl) (fun _ _ => rfl) ho.session ho.honest.1,
      hc.frame rfl rfl rfl rfl (fun _ _ _ => Iff.rfl) hc.exchange, hu.copy hc hp word⟩
  | find hp hs =>
    simp only [Output.returned, Output.event, Option.toList_none, List.append_nil]
    refine ⟨claims, owners, ho.frame rfl (fun _ => rfl) (fun _ _ => rfl) ho.session ho.honest.1,
      hc.frame rfl rfl rfl rfl (fun _ _ _ => Iff.rfl) hc.exchange, hu.length, hu.popped,
      fun done output hcopy => ?_⟩
    cases hcopy
    exact ⟨hs, fun w hw => absurd hw (Finset.notMem_empty w)⟩
  | close =>
    simp only [Output.returned, Output.event, Option.toList_none, List.append_nil]
    exact ⟨claims, owners, ho.frame rfl (fun _ => rfl) (fun _ _ => rfl) ho.session ho.honest.1,
      hc.frame rfl rfl rfl rfl (fun _ _ _ => Iff.rfl) hc.exchange, hu.frame rfl (.inl rfl) id⟩
  | _ =>
    simp only [Output.returned, Output.event, Option.toList_none, List.append_nil]
    exact ⟨claims, owners, ho.frame rfl (fun _ => rfl) (fun _ _ => rfl) ho.session ho.honest.1,
      hc.frame rfl rfl rfl rfl (fun _ _ _ => Iff.rfl) hc.exchange, hu.frame rfl (.inr (by simp)) id⟩

/-! ## Runs -/

abbrev Event (ι : Type) := Record (State ι) (Action ι) Output

/-- The calls of `tryPush` that have returned, and their results. -/
def returnedCalls (past : List (Event ι)) : List (PushCall × PushResult) :=
  past.filterMap fun r => r.output.returned

def poppedEvents (past : List (Event ι)) : List Words := past.filterMap fun r => r.output.event

theorem sound_run (cfg : Config) (actions : List (Action ι)) :
    Sound cfg (run (step cfg) actions (State.new ι cfg))
      (returnedCalls (history (step cfg) actions (State.new ι cfg)))
      (poppedEvents (history (step cfg) actions (State.new ι cfg))) := by
  refine @history_induction _ _ _ (step cfg)
    (fun s past => Sound cfg s (returnedCalls past) (poppedEvents past)) _ (sound_new cfg)
    (fun s past action h => ?_) actions
  rw [returnedCalls, poppedEvents, filterMap_concat, filterMap_concat]
  exact sound_move h (move_step cfg action s)

/-! ## Counts -/

/-- The callers are counted, and so are the attempts that are not accepted, lost or underway. -/
structure Counted [Fintype ι] (s : State ι) : Prop where
  writers : s.writers = ∑ i, (s.point i).busy
  attempted : s.attempted = s.claimed + s.lost + ∑ i, (s.point i).pending

theorem Counted.goto [Fintype ι] (h : Counted s) {i : ι} {q : PushPoint}
    (hpoint : s'.point = Function.update s.point i q)
    (hwriters : s'.writers + (s.point i).busy = s.writers + q.busy)
    (hattempted : s'.attempted + s.claimed + s.lost + (s.point i).pending =
      s.attempted + s'.claimed + s'.lost + q.pending) : Counted s' := by
  have hb := sum_update PushPoint.busy s.point i q
  have hp := sum_update PushPoint.pending s.point i q
  have := h.writers
  have := h.attempted
  constructor <;> rw [hpoint] <;> omega

theorem counted_move [Fintype ι] (h : Counted s) (hm : Move cfg s (o, s')) : Counted s' := by
  have hbusy : ∀ i, (s.point i).busy ≤ s.writers := fun i => by
    rw [h.writers]
    exact Finset.single_le_sum (fun j (_ : j ∈ Finset.univ) => Nat.zero_le (s.point j).busy)
      (Finset.mem_univ i)
  cases hm with
  | carry i p _ hcar =>
    have := hcar.attempted
    exact h.goto hcar.point hcar.writers (by rw [hcar.claimed]; omega)
  | observe i position retry hp hs => exact h.goto rfl (by rw [hp]; rfl) (by rw [hp]; rfl)
  | claim i retry hp =>
    refine h.goto rfl (by rw [hp]; rfl) ?_
    rw [hp]
    simp only [State.goto, PushPoint.pending]
    omega
  | write i position done word hp => exact h.goto rfl (by rw [hp]; rfl) (by rw [hp]; rfl)
  | store i position hp => exact h.goto rfl (by rw [hp]; rfl) (by rw [hp]; rfl)
  | publish i position hp =>
    have hone : 1 ≤ s.writers := by simpa [hp] using hbusy i
    refine h.goto rfl ?_ (by rw [hp]; rfl)
    rw [hp]
    simp only [State.goto, PushPoint.busy]
    omega
  | refuse i reason hp =>
    have hone : 1 ≤ s.writers := by simpa [hp] using hbusy i
    refine h.goto rfl ?_ (by rw [hp]; rfl)
    rw [hp]
    simp only [State.goto, PushPoint.busy]
    omega
  | _ => exact ⟨h.writers, h.attempted⟩

theorem counted_run [Fintype ι] (cfg : Config) (actions : List (Action ι)) :
    Counted (run (step cfg) actions (State.new ι cfg)) := by
  refine run_induction (step cfg) ⟨?_, ?_⟩ (fun s action h => counted_move h (move_step cfg action s))
    actions
  · simp [State.new]
  · simp [State.new]

/-! ## Drains -/

/-- Nobody can claim a position any more: the ingress is closed, and every producer that is in a
call has yet to see it. -/
def Drained (s : State ι) : Prop := s.closed ∧ ∀ i, (s.point i).late

/-- What the consumer knows while it looks whether the ingress is drained. -/
structure Draining (s : State ι) : Prop where
  closed : s.consumer = .loadWriters → s.closed
  drained : s.consumer = .loadClaimed → Drained s

theorem drained_move (h : Drained s) (hm : Move cfg s (o, s')) : Drained s' := by
  obtain ⟨hclosed, hlate⟩ := h
  have hgoto : ∀ {i : ι} {q : PushPoint} {t : State ι}, t.closed → t.point = s.point → q.late →
      Drained (t.goto i q) := by
    intro i q t ht htp hq
    refine ⟨ht, fun j => ?_⟩
    by_cases hji : j = i
    · simpa [State.goto, hji] using hq
    · simp only [State.goto, Function.update_of_ne hji, htp]
      exact hlate j
  -- A producer at a point beyond the test of `m_closed` is not late.
  have hnot : ∀ {i : ι} {q : PushPoint}, s.point i = q → q.late = false → False := by
    intro i q hp hq
    have := hlate i
    rw [hp, hq] at this
    exact nomatch this
  cases hm with
  | carry i p _ hcar =>
    refine ⟨hcar.closed hclosed, fun j => ?_⟩
    rw [hcar.point]
    by_cases hji : j = i
    · rw [hji, Function.update_self]
      exact hcar.late hclosed (hlate i)
    · rw [Function.update_of_ne hji]
      exact hlate j
  | observe i position retry hp hs => exact (hnot hp rfl).elim
  | claim i retry hp => exact (hnot hp rfl).elim
  | write i position done word hp => exact (hnot hp rfl).elim
  | store i position hp => exact (hnot hp rfl).elim
  | publish i position hp => exact (hnot hp rfl).elim
  | refuse i reason hp => exact hgoto hclosed rfl rfl
  | close => exact ⟨rfl, hlate⟩
  | _ => exact ⟨hclosed, hlate⟩

theorem drained_output (h : Drained s) (hm : Move cfg s (o, s')) :
    s'.claimed = s.claimed ∧ ∀ c, o.returned = some c → c.2.outcome = .closed ∨ c.2.outcome = .stale := by
  have hlate := h.2
  cases hm with
  | carry i p _ hcar => exact ⟨hcar.claimed, fun c hc => nomatch hc⟩
  | claim i retry hp =>
    have := hlate i
    rw [hp] at this
    exact nomatch this
  | publish i position hp =>
    have := hlate i
    rw [hp] at this
    exact nomatch this
  | refuse i reason hp =>
    refine ⟨rfl, fun c hc => ?_⟩
    have hreason := hlate i
    rw [hp] at hreason
    cases hc
    cases reason <;> first | exact .inl rfl | exact .inr rfl | exact nomatch hreason
  | _ => exact ⟨rfl, fun c hc => nomatch hc⟩

omit [DecidableEq ι] in
theorem drained_of_writers [Fintype ι] (h : Counted s) (hclosed : s.closed)
    (hwriters : s.writers = 0) : Drained s := by
  refine ⟨hclosed, fun i => ?_⟩
  have hsum := h.writers
  rw [hwriters] at hsum
  have hi : (s.point i).busy = 0 := Finset.sum_eq_zero_iff.mp hsum.symm i (Finset.mem_univ i)
  cases hp : s.point i <;> rw [hp] at hi <;> first | rfl | exact absurd hi Nat.one_ne_zero

theorem draining_move [Fintype ι] (hd : Draining s) (hc : Counted s) (hm : Move cfg s (o, s')) :
    Draining s' := by
  have hclosed : s.closed → s'.closed := by
    cases hm with
    | carry i p _ hcar => exact hcar.closed
    | close => exact fun _ => rfl
    | _ => exact id
  have hdrained := fun h => drained_move h hm
  cases hm with
  | carry i p _ hcar =>
    exact ⟨fun h => hclosed (hd.closed (hcar.consumer ▸ h)),
      fun h => hdrained (hd.drained (hcar.consumer ▸ h))⟩
  | seeClosed hp hcl => exact ⟨fun _ => hcl, fun h => (nomatch h)⟩
  | seeWriters hp hw =>
    have hdr : Drained s := drained_of_writers hc (hd.closed hp) hw
    exact ⟨fun h => (nomatch h), fun _ => hdrained hdr⟩
  | _ =>
    refine ⟨fun h => ?_, fun h => ?_⟩
    · first | exact hclosed (hd.closed h) | exact nomatch h
    · first | exact hdrained (hd.drained h) | exact nomatch h

theorem drained_of_finished (hd : Draining s) (hm : Move cfg s (o, s'))
    (ho : o = .popped .finished) : Drained s ∧ s.claimed = s.read := by
  cases hm with
  | finish hp hclaimed => exact ⟨hd.drained hp, hclaimed⟩
  | _ => exact nomatch ho

theorem draining_run [Fintype ι] (cfg : Config) (actions : List (Action ι)) :
    Draining (run (step cfg) actions (State.new ι cfg)) := by
  have h := @run_induction _ _ _ (step cfg) (fun s => Counted s ∧ Draining s) (State.new ι cfg)
    ⟨counted_run cfg [], fun h => (nomatch h), fun h => (nomatch h)⟩
    (fun s action h => ⟨counted_move h.1 (move_step cfg action s),
      draining_move h.2 h.1 (move_step cfg action s)⟩) actions
  exact h.2

/-! ## Main results -/

/-- Who has published an event at a position, and the call that it was: a producer that is about to
say so, or the call with some number among those that have returned. -/
inductive Published (s : State ι) (returned : List (PushCall × PushResult)) (p : ℕ) :
    ι ⊕ ℕ → PushCall → Prop where
  | returning (i : ι) (hpoint : s.point i = .published p) :
      Published s returned p (.inl i) (s.call i)
  | returned (n : ℕ) (call : PushCall) (hcall : returned[n]? = some (call, ⟨.published, p + 1⟩)) :
      Published s returned p (.inr n) call

/-- Where an event is that was published at a position: popped, or whole in its cell. -/
structure Delivered (cfg : Config) (s : State ι) (popped : List Words) (p : ℕ) (event : Words) :
    Prop where
  claimed : p < s.claimed
  /-- Before the consumer's position events are popped. -/
  popped : p < s.read → popped[p]? = some (stampEvent cfg.session p event)
  queued : s.read ≤ p → s.stamp (p % cfg.capacity) = p + 1 ∧
    s.cell (p % cfg.capacity) = stampEvent cfg.session p event

theorem publishedAt_eq_some {c : PushCall × PushResult} {p : ℕ} :
    publishedAt c = some p ↔ c.2 = ⟨.published, p + 1⟩ := by
  obtain ⟨call, outcome, sequence⟩ := c
  cases outcome <;> cases sequence <;> simp [publishedAt]

section Owners

variable {claims : List Words} {owners : List (ι ⊕ ℕ)} {p : ℕ} {owner : ι ⊕ ℕ} {call : PushCall}

omit [DecidableEq ι] in
theorem Owned.of_published (h : Owned cfg s returned claims owners)
    (hp : Published s returned p owner call) :
    owners[p]? = some owner ∧ claims[p]? = some call.event := by
  cases hp with
  | returning i hpoint =>
    have hholds : (s.point i).holds = some p := by rw [hpoint]; rfl
    exact ⟨(h.holds i p).mp hholds, h.holds_event i p hholds⟩
  | returned n call hcall =>
    have hat : publishedAt (call, ⟨.published, p + 1⟩) = some p := rfl
    exact ⟨(h.done n p).mp (by rw [hcall]; exact hat), h.done_event n _ p hcall hat⟩

omit [DecidableEq ι] in
theorem Owned.published (h : Owned cfg s returned claims owners) (hp : p < s.claimed)
    (hnone : ∀ i done, s.point i ≠ .write p done) : ∃ owner call, Published s returned p owner call := by
  have hlen : p < owners.length := by rw [h.owners_length]; exact hp
  have hget := List.getElem?_eq_getElem hlen
  cases ho : owners[p] with
  | inl i =>
    rw [ho] at hget
    have hholds := (h.holds i p).mpr hget
    cases hpoint : s.point i with
    | published q =>
      rw [hpoint, PushPoint.holds, Option.some.injEq] at hholds
      exact ⟨.inl i, s.call i, .returning i (by rw [hpoint, hholds])⟩
    | write q done =>
      rw [hpoint, PushPoint.holds, Option.some.injEq] at hholds
      exact absurd (by rw [hpoint, hholds]) (hnone i done)
    | _ =>
      rw [hpoint] at hholds
      exact nomatch hholds
  | inr n =>
    rw [ho] at hget
    obtain ⟨⟨call, result⟩, hcall, hat⟩ := Option.bind_eq_some_iff.mp ((h.done n p).mpr hget)
    rw [publishedAt_eq_some] at hat
    exact ⟨.inr n, call, .returned n call (by rw [hcall, ← hat])⟩

theorem image_eq (h : claims[p]? = some call.event) :
    image cfg claims p = stampEvent cfg.session p call.event := by
  rw [image, List.getD_eq_getElem?_getD, h, Option.getD_some]

end Owners

omit [DecidableEq ι] in
theorem Sound.delivered (h : Sound cfg s returned popped) {p : ℕ} {owner : ι ⊕ ℕ} {call : PushCall}
    (hp : Published s returned p owner call) : Delivered cfg s popped p call.event := by
  obtain ⟨claims, owners, ho, hc, hu⟩ := h
  obtain ⟨howner, hevent⟩ := ho.of_published hp
  have hlt : p < s.claimed := by
    rw [← ho.owners_length]
    exact (List.getElem?_eq_some_iff.mp howner).1
  -- The owner is done with its cell.
  have hnone : ∀ i done, s.point i ≠ .write p done := by
    intro i done hw
    have hi := (ho.holds i p).mp (by rw [hw]; rfl)
    rw [howner, Option.some.injEq] at hi
    subst hi
    cases hp with
    | returning _ hpoint => exact nomatch hpoint.symm.trans hw
  constructor
  · exact hlt
  · intro hr
    rw [← image_eq hevent]
    exact hu.popped p hr
  · intro hr
    rw [← image_eq hevent]
    exact hc.ready p hr hlt hnone

omit [DecidableEq ι] in
theorem Sound.published (h : Sound cfg s returned popped) {p : ℕ} {event : Words}
    (hp : popped[p]? = some event) : ∃ owner call, Published s returned p owner call ∧
      event = stampEvent cfg.session p call.event := by
  obtain ⟨claims, owners, ho, hc, hu⟩ := h
  have hr : p < s.read := by
    rw [← hu.length]
    exact (List.getElem?_eq_some_iff.mp hp).1
  have hle := hc.read_le
  obtain ⟨owner, call, hpub⟩ := ho.published (show p < s.claimed by omega) fun i done hw => by
    have := (hc.writing i p done hw).1
    omega
  refine ⟨owner, call, hpub, ?_⟩
  rw [hu.popped p hr, Option.some.injEq] at hp
  rw [← hp, image_eq (ho.of_published hpub).2]

omit [DecidableEq ι] in
theorem Sound.unique (h : Sound cfg s returned popped) {p : ℕ} {owner owner' : ι ⊕ ℕ}
    {call call' : PushCall} (hp : Published s returned p owner call)
    (hp' : Published s returned p owner' call') : owner = owner' := by
  obtain ⟨claims, owners, ho, -, -⟩ := h
  exact Option.some.inj ((ho.of_published hp).1.symm.trans (ho.of_published hp').1)

omit [DecidableEq ι] in
theorem Sound.perm (h : Sound cfg s returned popped) (hidle : ∀ i, s.point i = .idle) :
    (returned.filterMap publishedAt).Perm (List.range s.claimed) := by
  obtain ⟨claims, owners, ho, -, -⟩ := h
  refine (List.perm_ext_iff_of_nodup ?_ List.nodup_range).mpr fun p => ?_
  · rw [List.Nodup, List.pairwise_filterMap, List.pairwise_iff_getElem]
    rintro n m hn hm hnm p hp _ hq rfl
    have hat : ∀ {k : ℕ} (hk : k < returned.length), publishedAt returned[k] = some p →
        owners[p]? = some (.inr k) := fun hk hp =>
      (ho.done _ p).mp (by rw [List.getElem?_eq_getElem hk]; exact hp)
    have heq := Option.some.inj ((hat hn hp).symm.trans (hat hm hq))
    exact hnm.ne (Sum.inr.inj heq)
  · rw [List.mem_range, List.mem_filterMap]
    constructor
    · rintro ⟨c, hc, hat⟩
      obtain ⟨n, hn⟩ := List.mem_iff_getElem?.mp hc
      rw [← ho.owners_length]
      exact (List.getElem?_eq_some_iff.mp ((ho.done n p).mp (by rw [hn]; exact hat))).1
    · intro hp
      obtain ⟨owner, call, hpub⟩ := ho.published hp fun i done => by simp [hidle i]
      cases hpub with
      | returning i hpoint => exact nomatch (hidle i).symm.trans hpoint
      | returned n call hcall => exact ⟨_, List.mem_of_getElem? hcall, rfl⟩

/-- What the consumer pops, under every interleaving of the steps of any number of producers, the
consumer and callers of `close`:
- the `k`-th event that is popped is that of a call of `tryPush` that has returned `Published` with
  sequence `k`, or is about to, as the call passed it in but for its sequence and session;
- no two calls publish at one position;
- every event that is published is popped as it was passed in, or whole in its cell;
- a result that says `Published` has a sequence;
- when nobody is in a call, the counters account for all attempts and events, and the sequences
  returned are `1` to the number of events accepted. -/
theorem popped_published [Fintype ι] (cfg : Config) (actions : List (Action ι)) :
    let s := run (step cfg) actions (State.new ι cfg)
    let returned := returnedCalls (history (step cfg) actions (State.new ι cfg))
    let popped := poppedEvents (history (step cfg) actions (State.new ι cfg))
    let counters := countersAfterJoin s
    (popped.length = counters.popped ∧ ∀ p event, popped[p]? = some event →
      ∃ owner call, Published s returned p owner call ∧
        event = stampEvent cfg.session p call.event) ∧
    (∀ p owner owner' call call', Published s returned p owner call →
      Published s returned p owner' call' → owner = owner') ∧
    (∀ p owner call, Published s returned p owner call → Delivered cfg s popped p call.event) ∧
    (∀ c ∈ returned, c.2.outcome = .published → ∃ p, c.2.sequence = p + 1) ∧
    ((∀ i, s.point i = .idle) →
      counters.attempted = counters.accepted + counters.lost ∧
      counters.accepted = counters.popped + counters.queued ∧
      (returned.filterMap publishedAt).Perm (List.range counters.accepted)) := by
  intro s returned popped counters
  have hsound : Sound cfg s returned popped := sound_run cfg actions
  have hcounted : Counted s := counted_run cfg actions
  refine ⟨⟨?_, fun p event => hsound.published⟩, fun p owner owner' call call' => hsound.unique,
    fun p owner call => hsound.delivered, ?_, fun hidle => ⟨?_, ?_, hsound.perm hidle⟩⟩
  · obtain ⟨claims, owners, -, -, hu⟩ := hsound
    exact hu.length
  · obtain ⟨claims, owners, ho, -, -⟩ := hsound
    intro c hc hout
    obtain ⟨p, hp⟩ := ho.honest.2 c hc hout
    exact ⟨p, by rw [publishedAt_eq_some.mp hp]⟩
  · have hpending : ∑ i, (s.point i).pending = 0 := Finset.sum_eq_zero fun i _ => by rw [hidle i]; rfl
    have := hcounted.attempted
    rw [hpending] at this
    exact this
  · obtain ⟨claims, owners, -, hc, -⟩ := hsound
    have := hc.read_le
    show s.claimed = s.read + (s.claimed - s.read)
    omega

/-- What is popped, at a run in which the consumer pops the first event before the call of its
producer has returned. -/
theorem popped_published_one_event :
    let cfg : Config := ⟨2, 5, 10, by decide⟩
    let actions : List (Action (Fin 2)) := .enter 0 ⟨5, fun w => UInt64.ofNat (w + 7)⟩ ::
      List.replicate 5 (.push 0 false 0) ++ (List.finRange 49).map (.push 0 false) ++
      [.push 0 false 0, .pop 0] ++ (List.finRange 49).map .pop ++ [.pop 0]
    let s := run (step cfg) actions (State.new (Fin 2) cfg)
    let returned := returnedCalls (history (step cfg) actions (State.new (Fin 2) cfg))
    let popped := poppedEvents (history (step cfg) actions (State.new (Fin 2) cfg))
    ∃ event, popped[0]? = some event ∧ ∃ owner call, Published s returned 0 owner call ∧
      event = stampEvent 5 0 call.event := by
  intro cfg actions s returned popped
  have hpopped : popped[0]? =
      some (stampEvent 5 0 fun w => UInt64.ofNat (w + 7)) := by decide +kernel
  exact ⟨_, hpopped, (popped_published cfg actions).1.2 0 _ hpopped⟩

/-- When `tryPop` returns `Finished`, the ingress is drained, under every interleaving: every event
that a call of `tryPush` has published, or publishes at any later time, has been popped before, and
every call that returns later returns `Closed` or `Stale`. -/
theorem finished_drained [Fintype ι] (cfg : Config) (actions : List (Action ι)) (action : Action ι)
    (hfinished : (step cfg action (run (step cfg) actions (State.new ι cfg))).1 = .popped .finished)
    (more : List (Action ι)) :
    let s := run (step cfg) actions (State.new ι cfg)
    let past := history (step cfg) actions (State.new ι cfg)
    let later := history (step cfg) (action :: more) s
    (∀ c ∈ returnedCalls (past ++ later), c.2.outcome = .published →
      ∃ p, c.2.sequence = p + 1 ∧
        (poppedEvents past)[p]? = some (stampEvent cfg.session p c.1.event)) ∧
    ∀ c ∈ returnedCalls later, c.2.outcome = .closed ∨ c.2.outcome = .stale := by
  intro s past later
  obtain ⟨hdrained, hclaimed⟩ :=
    drained_of_finished (draining_run cfg actions) (move_step cfg action s) hfinished
  -- Nothing is claimed from here on.
  have hafter : Drained (run (step cfg) (action :: more) s) ∧
      (run (step cfg) (action :: more) s).claimed = s.claimed :=
    @run_induction _ _ _ (step cfg) (fun t => Drained t ∧ t.claimed = s.claimed) s ⟨hdrained, rfl⟩
      (fun t a ht => ⟨drained_move ht.1 (move_step cfg a t),
        (drained_output ht.1 (move_step cfg a t)).1.trans ht.2⟩) (action :: more)
  constructor
  · intro c hc hout
    obtain ⟨_, _, -, -, hbefore⟩ := sound_run cfg actions
    have hsound := sound_run cfg (actions ++ action :: more)
    rw [history_append, run_append, poppedEvents, List.filterMap_append] at hsound
    obtain ⟨claims, owners, ho, -, hu⟩ := hsound
    obtain ⟨p, hp⟩ := ho.honest.2 c hc hout
    obtain ⟨n, hn⟩ := List.mem_iff_getElem?.mp hc
    have hevent := ho.done_event n c p hn hp
    have hlt : p < (poppedEvents past).length := by
      have := (List.getElem?_eq_some_iff.mp hevent).1
      rw [ho.claims_length, hafter.2, hclaimed, ← hbefore.length] at this
      exact this
    refine ⟨p, by rw [publishedAt_eq_some.mp hp], ?_⟩
    have hpopped := hu.popped p (by rw [← hu.length, List.length_append]; exact Nat.lt_add_right _ hlt)
    rw [image_eq hevent] at hpopped
    rw [← hpopped]
    exact (List.getElem?_append_left hlt).symm
  · intro c hc
    obtain ⟨r, hr, hret⟩ := List.mem_filterMap.mp hc
    exact @forall_mem_history _ _ _ (step cfg) Drained
      (fun r => ∀ c, r.output.returned = some c → c.2.outcome = .closed ∨ c.2.outcome = .stale) s
      hdrained (fun t a ht => drained_move ht (move_step cfg a t))
      (fun t a ht => (drained_output ht (move_step cfg a t)).2) (action :: more) r hr c hret

/-- The drain at a run in which one event is published and popped, the ingress is closed, and a
producer comes too late. -/
theorem finished_drained_one_event :
    let cfg : Config := ⟨2, 5, 10, by decide⟩
    let actions : List (Action (Fin 2)) := .enter 0 ⟨5, fun w => UInt64.ofNat (w + 7)⟩ ::
      List.replicate 5 (.push 0 false 0) ++ (List.finRange 49).map (.push 0 false) ++
      [.push 0 false 0, .push 0 false 0, .pop 0] ++ (List.finRange 49).map .pop ++
      [.pop 0, .close, .pop 0, .pop 0, .pop 0]
    let more : List (Action (Fin 2)) := [.enter 1 ⟨5, fun _ => 1⟩, .push 1 false 0, .push 1 false 0]
    let s := run (step cfg) actions (State.new (Fin 2) cfg)
    let past := history (step cfg) actions (State.new (Fin 2) cfg)
    let later := history (step cfg) (.pop 0 :: more) s
    ((returnedCalls (past ++ later)).length = 2 ∧
      ∀ c ∈ returnedCalls (past ++ later), c.2.outcome = .published →
        ∃ p, c.2.sequence = p + 1 ∧
          (poppedEvents past)[p]? = some (stampEvent 5 p c.1.event)) ∧
      ∀ c ∈ returnedCalls later, c.2.outcome = .closed ∨ c.2.outcome = .stale := by
  intro cfg actions more s past later
  have hfinished : (step cfg (.pop 0) (run (step cfg) actions (State.new (Fin 2) cfg))).1 =
      .popped .finished := by decide +kernel
  have hcalls : (returnedCalls (past ++ later)).length = 2 := by decide +kernel
  have hdrained := finished_drained cfg actions (.pop 0) hfinished more
  exact ⟨⟨hcalls, hdrained.1⟩, hdrained.2⟩

end War3VK.RenderHost.Recorder.Ingress
