import War3VK.Lib.Window
import War3VK.RenderHost.Ingress

/-!
# The invariant of the event ingress

The invariant speaks of the claims so far: for each claimed position the event of its claimer, and who
has it now, a producer that is still in its call or a call that has returned. Moves keep each of them.
-/

namespace War3VK.RenderHost.Recorder.Ingress

open Lib

variable {ι : Type}

/-! ## What callers have seen -/

/-- The call of `tryPush` that an output ends, and its result. -/
def Output.returned : Output → Option (PushCall × PushResult)
  | .pushed call result => some (call, result)
  | _ => none

def Output.event : Output → Option Words
  | .popped (.item event) => some event
  | _ => none

def publishedAt : PushCall × PushResult → Option ℕ
  | (_, ⟨.published, position + 1⟩) => some position
  | _ => none

/-- A result that says `Published` comes with a sequence. -/
def Honest (c : PushCall × PushResult) : Prop :=
  c.2.outcome = .published → ∃ position, publishedAt c = some position

/-! ## The parts of the invariant -/

/-- The event at a position: the claimer's, with its sequence and session set. -/
def image (cfg : Config) (claims : List Words) (position : ℕ) : Words :=
  stampEvent cfg.session position (claims.getD position fun _ => 0)

/-- Who has the claimed positions: producers in their calls, and calls that have returned. -/
structure Owned (cfg : Config) (s : State ι) (returned : List (PushCall × PushResult))
    (claims : List Words) (owners : List (ι ⊕ ℕ)) : Prop where
  claims_length : claims.length = s.claimed
  owners_length : owners.length = s.claimed
  holds : ∀ i p, (s.point i).holds = some p ↔ owners[p]? = some (.inl i)
  done : ∀ n p, returned[n]?.bind publishedAt = some p ↔ owners[p]? = some (.inr n)
  holds_event : ∀ i p, (s.point i).holds = some p → claims[p]? = some (s.call i).event
  done_event : ∀ (n : ℕ) c p, returned[n]? = some c → publishedAt c = some p → claims[p]? = some c.1.event
  /-- Producers that are let in have the session of the ingress. -/
  session : ∀ i, (s.point i).inside → (s.call i).session = cfg.session
  honest : (∀ i, (s.point i).honest) ∧ ∀ c ∈ returned, Honest c

structure Cells (cfg : Config) (s : State ι) (claims : List Words) : Prop where
  read_le : s.read ≤ s.claimed
  claimed_le : s.claimed ≤ s.read + cfg.capacity
  /-- The stamps of the positions that can be claimed. -/
  free : ∀ p, s.claimed ≤ p → p < s.read + cfg.capacity → s.stamp (p % cfg.capacity) = p
  writing : ∀ i p done, s.point i = .write p done → (s.read ≤ p ∧ p < s.claimed) ∧
    s.stamp (p % cfg.capacity) = p ∧
      ∀ word ∈ done, s.cell (p % cfg.capacity) word = image cfg claims p word
  ready : ∀ p, s.read ≤ p → p < s.claimed → (∀ i done, s.point i ≠ .write p done) →
    s.stamp (p % cfg.capacity) = p + 1 ∧ s.cell (p % cfg.capacity) = image cfg claims p
  /-- A position that is about to be claimed is in the ring. -/
  exchange : ∀ i p retry, s.point i = .exchange p retry → p < s.read + cfg.capacity

structure Consumed (cfg : Config) (s : State ι) (popped : List Words) (claims : List Words) :
    Prop where
  length : popped.length = s.read
  popped : ∀ p < s.read, popped[p]? = some (image cfg claims p)
  /-- What it is copying is the event at its position. -/
  copying : ∀ done output, s.consumer = .copy done output →
    s.stamp (s.read % cfg.capacity) = s.read + 1 ∧
      ∀ word ∈ done, output word = image cfg claims s.read word

variable {cfg : Config} {s s' : State ι} {returned : List (PushCall × PushResult)}
  {popped claims : List Words} {owners : List (ι ⊕ ℕ)}

/-! ## Small facts -/

variable {p : ℕ} {i : ι}

theorem image_append (h : p < claims.length) (more : List Words) :
    image cfg (claims ++ more) p = image cfg claims p := by
  rw [image, image, List.getD_eq_getElem?_getD, List.getElem?_append_left h, ← List.getD_eq_getElem?_getD]

theorem Owned.write_lt (h : Owned cfg s returned claims owners) (hp : (s.point i).holds = some p) :
    p < s.claimed := by
  have hget := (h.holds i p).mp hp
  have := (List.getElem?_eq_some_iff.mp hget).1
  rwa [h.owners_length] at this

theorem Owned.unique (h : Owned cfg s returned claims owners) {j : ι}
    (hi : (s.point i).holds = some p) (hj : (s.point j).holds = some p) : i = j := by
  have := ((h.holds i p).mp hi).symm.trans ((h.holds j p).mp hj)
  simpa using this

theorem Cells.claimed_of_stamp (h : Cells cfg s claims) (hc : p < s.read + cfg.capacity)
    (hs : s.stamp (p % cfg.capacity) = p + 1) :
    p < s.claimed ∧ ∀ i done, s.point i ≠ .write p done := by
  constructor
  · by_contra hge
    have := h.free p (by omega) hc
    omega
  · intro i done hw
    have := (h.writing i p done hw).2.1
    omega

/-- A stamp that equals the position a producer wants is that position's own stamp: it is not one
that the position before in the same slot has left, since the ring has more than one slot. -/
theorem Cells.lt_of_stamp (h : Cells cfg s claims) (hs : s.stamp (p % cfg.capacity) = p) :
    p < s.read + cfg.capacity := by
  have htwo := cfg.two_le
  obtain ⟨q, hrq, hqc, hmod⟩ := exists_window (by omega : 0 < cfg.capacity) s.read p
  rw [← hmod] at hs
  rcases Nat.lt_or_ge q s.claimed with hlt | hge
  · by_cases hw : ∃ i done, s.point i = .write q done
    · obtain ⟨i, done, hw⟩ := hw
      have := (h.writing i q done hw).2.1
      omega
    · have := (h.ready q hrq hlt (by simpa using hw)).1
      have hne := @mod_ne_of_lt cfg.capacity q p (by omega) (by omega)
      exact absurd hmod hne
  · have := h.free q hge hqc
    omega

/-! ## Frames, and the consumer's step -/

theorem Owned.frame (h : Owned cfg s returned claims owners) (hclaimed : s'.claimed = s.claimed)
    (hholds : ∀ j, (s'.point j).holds = (s.point j).holds)
    (hcall : ∀ j, (s.point j).holds ≠ none → s'.call j = s.call j)
    (hsession : ∀ j, (s'.point j).inside → (s'.call j).session = cfg.session)
    (hhonest : ∀ j, (s'.point j).honest) : Owned cfg s' returned claims owners where
  claims_length := by rw [hclaimed, h.claims_length]
  owners_length := by rw [hclaimed, h.owners_length]
  holds i p := by rw [hholds, h.holds]
  done := h.done
  holds_event i p hp := by
    rw [hholds] at hp
    rw [hcall i (by rw [hp]; simp)]
    exact h.holds_event i p hp
  done_event := h.done_event
  session := hsession
  honest := ⟨hhonest, h.honest.2⟩

theorem Cells.frame (h : Cells cfg s claims) (hstamp : s'.stamp = s.stamp) (hcell : s'.cell = s.cell)
    (hclaimed : s'.claimed = s.claimed) (hread : s'.read = s.read)
    (hwrite : ∀ j p done, s'.point j = .write p done ↔ s.point j = .write p done)
    (hexchange : ∀ j p retry, s'.point j = .exchange p retry → p < s.read + cfg.capacity) :
    Cells cfg s' claims where
  read_le := by rw [hread, hclaimed]; exact h.read_le
  claimed_le := by rw [hread, hclaimed]; exact h.claimed_le
  free p hp hc := by
    rw [hclaimed] at hp
    rw [hread] at hc
    rw [hstamp]
    exact h.free p hp hc
  writing j p done hw := by
    rw [hread, hclaimed, hstamp, hcell]
    exact h.writing j p done ((hwrite j p done).mp hw)
  ready p hr hc hw := by
    rw [hread] at hr
    rw [hclaimed] at hc
    rw [hstamp, hcell]
    exact h.ready p hr hc fun j done hj => hw j done ((hwrite j p done).mpr hj)
  exchange j p retry hj := by
    rw [hread]
    exact hexchange j p retry hj

theorem Cells.take (h : Cells cfg s claims)
    (hstamp : s.stamp (s.read % cfg.capacity) = s.read + 1) :
    Cells cfg
      { s.setStamp (s.read % cfg.capacity) (s.read + cfg.capacity) with
        read := s.read + 1, consumer := .idle } claims := by
  have htwo := cfg.two_le
  obtain ⟨hlt, hnone⟩ := h.claimed_of_stamp (by omega) hstamp
  have hclaimed := h.claimed_le
  have hother : ∀ p, s.read < p → p < s.read + cfg.capacity →
      Function.update s.stamp (s.read % cfg.capacity) (s.read + cfg.capacity) (p % cfg.capacity) =
        s.stamp (p % cfg.capacity) := fun p hr hc =>
    Function.update_of_ne (window_ne hr.le hc le_rfl (by omega) hr.ne') ..
  constructor
  · exact hlt
  · have hle : s.claimed ≤ s.read + 1 + cfg.capacity := by omega
    exact hle
  · intro p hp hc
    simp only [State.setStamp] at hp hc ⊢
    rcases Nat.lt_or_ge p (s.read + cfg.capacity) with hin | hout
    · rw [hother p (by omega) hin]
      exact h.free p hp hin
    · -- The cell that is given back.
      have hpe : p = s.read + cfg.capacity := by omega
      rw [hpe, Nat.add_mod_right, Function.update_self]
  · intro j p d hj
    simp only [State.setStamp] at hj ⊢
    obtain ⟨⟨hrp, hpc⟩, hsp, hdp⟩ := h.writing j p d hj
    have hne : p ≠ s.read := by
      rintro rfl
      exact hnone j d hj
    rw [hother p (by omega) (by omega)]
    exact ⟨⟨by omega, hpc⟩, hsp, hdp⟩
  · intro p hrp hpc hw
    simp only [State.setStamp] at hrp hpc hw ⊢
    rw [hother p hrp (by omega)]
    exact h.ready p (by omega) hpc hw
  · intro j p r hj
    have hle : p < s.read + 1 + cfg.capacity := by have := h.exchange j p r hj; omega
    exact hle

/-! ## The consumer -/

section

variable (h : Consumed cfg s popped claims)
include h

theorem Consumed.frame (hread : s'.read = s.read)
    (hconsumer : s'.consumer = s.consumer ∨ ∀ done output, s'.consumer ≠ .copy done output)
    (hstamp : s.stamp (s.read % cfg.capacity) = s.read + 1 →
      s'.stamp (s.read % cfg.capacity) = s.read + 1) : Consumed cfg s' popped claims where
  length := by rw [hread, h.length]
  popped p hp := by
    rw [hread] at hp
    exact h.popped p hp
  copying done output hc := by
    rcases hconsumer with heq | hne
    · rw [heq] at hc
      rw [hread]
      exact ⟨hstamp (h.copying done output hc).1, (h.copying done output hc).2⟩
    · exact absurd hc (hne done output)

theorem Consumed.claim (hc : Cells cfg s claims) (hlen : claims.length = s.claimed)
    (hread : s'.read = s.read) (hstamp : s'.stamp = s.stamp)
    (hconsumer : s'.consumer = s.consumer) (event : Words) :
    Consumed cfg s' popped (claims ++ [event]) := by
  have hle := hc.read_le
  have htwo := cfg.two_le
  refine ⟨by rw [hread, h.length], fun p hp => ?_, fun done output hcopy => ?_⟩
  · rw [hread] at hp
    rw [image_append (by omega)]
    exact h.popped p hp
  · rw [hconsumer] at hcopy
    obtain ⟨hs, hw⟩ := h.copying done output hcopy
    have hlt := (hc.claimed_of_stamp (by omega) hs).1
    rw [hread, hstamp, image_append (by omega)]
    exact ⟨hs, hw⟩

theorem Consumed.copy (hc : Cells cfg s claims) {done : Finset (Fin eventWords)} {output : Words}
    (hpoint : s.consumer = .copy done output) (word : Fin eventWords) :
    let output := Function.update output word (s.cell (s.read % cfg.capacity) word)
    Consumed cfg { s with consumer := .copy (insert word done) output } popped claims := by
  have htwo := cfg.two_le
  obtain ⟨hs, hw⟩ := h.copying done output hpoint
  obtain ⟨hlt, hnone⟩ := hc.claimed_of_stamp (by omega) hs
  refine ⟨h.length, h.popped, fun d o hcopy => ?_⟩
  cases hcopy
  refine ⟨hs, fun w hmem => ?_⟩
  by_cases hww : w = word
  · rw [hww, Function.update_self, (hc.ready _ le_rfl hlt hnone).2]
  · rw [Function.update_of_ne hww]
    exact hw w ((Finset.mem_insert.mp hmem).resolve_left hww)

theorem Consumed.take {output : Words} (hpoint : s.consumer = .copy Finset.univ output) :
    Consumed cfg
      { s.setStamp (s.read % cfg.capacity) (s.read + cfg.capacity) with
        read := s.read + 1, consumer := .idle } (popped ++ [output]) claims := by
  obtain ⟨-, hw⟩ := h.copying _ output hpoint
  refine ⟨by rw [List.length_append, h.length]; rfl, fun p hp => ?_, fun d o hcopy => nomatch hcopy⟩
  rcases Nat.lt_or_ge p s.read with hlt | hge
  · rw [List.getElem?_append_left (by rw [h.length]; exact hlt)]
    exact h.popped p hlt
  · have hpe : p = s.read := by
      have : p < s.read + 1 := hp
      omega
    rw [hpe, ← h.length, List.getElem?_concat_length, h.length]
    exact congrArg some (funext fun w => hw w (Finset.mem_univ w))

end

/-! ## Owners -/

variable [DecidableEq ι]

variable {q : PushPoint}

section

variable (h : Owned cfg s returned claims owners)
include h

theorem Owned.goto (hpoint : s'.point = Function.update s.point i q) (hcall : s'.call = s.call)
    (hclaimed : s'.claimed = s.claimed) (hholds : q.holds = (s.point i).holds)
    (hinside : q.inside → (s.point i).inside) (hhonest : q.honest) :
    Owned cfg s' returned claims owners := by
  refine h.frame hclaimed (fun j => ?_) (fun j _ => by rw [hcall]) (fun j hj => ?_) fun j => ?_
  all_goals
    rw [hpoint] at *
    by_cases hji : j = i
  · rw [hji, Function.update_self, hholds]
  · rw [Function.update_of_ne hji]
  · rw [hji, Function.update_self] at hj
    rw [hcall, hji]
    exact h.session i (hinside hj)
  · rw [Function.update_of_ne hji] at hj
    rw [hcall]
    exact h.session j hj
  · rwa [hji, Function.update_self]
  · rw [Function.update_of_ne hji]
    exact h.honest.1 j

theorem Owned.carry (hc : Carried cfg s s' i q) : Owned cfg s' returned claims owners := by
  have hpoint : ∀ j, j ≠ i → s'.point j = s.point j := fun j hj => by
    rw [hc.point, Function.update_of_ne hj]
  have hself : s'.point i = q := by rw [hc.point, Function.update_self]
  refine h.frame hc.claimed (fun j => ?_) (fun j hj => ?_) (fun j hj => ?_) fun j => ?_ <;>
    by_cases hji : j = i
  · rw [hji, hself, hc.to_holds, hc.from_holds]
  · rw [hpoint j hji]
  · rw [hji, hc.from_holds] at hj
    contradiction
  · exact hc.call j hji
  · rw [hji, hself] at hj
    rw [hji]
    rcases hc.session hj with ⟨hin, hcall⟩ | hsession
    · rw [hcall]
      exact h.session i hin
    · exact hsession
  · rw [hpoint j hji] at hj
    rw [hc.call j hji]
    exact h.session j hj
  · rw [hji, hself]
    exact hc.honest (h.honest.1 i)
  · rw [hpoint j hji]
    exact h.honest.1 j

theorem Owned.claim {retry : ℕ} (hpoint : s.point i = .exchange s.claimed retry) :
    Owned cfg ({ s with claimed := s.claimed + 1 }.goto i (.write s.claimed ∅)) returned
      (claims ++ [(s.call i).event]) (owners ++ [.inl i]) := by
  have hself : (s.point i).holds = none := by rw [hpoint]; rfl
  have hol := h.owners_length
  have hcl := h.claims_length
  have hlt : ∀ {j p}, (s.point j).holds = some p → p < s.claimed := h.write_lt
  constructor
  · rw [List.length_append, hcl]
    rfl
  · rw [List.length_append, hol]
    rfl
  · intro j p
    by_cases hji : j = i
    · subst hji
      simp only [State.goto, Function.update_self, PushPoint.holds, Option.some.injEq]
      constructor
      · rintro rfl
        rw [← hol, List.getElem?_concat_length]
      · intro hp
        rcases Nat.lt_or_ge p owners.length with hlt | hge
        · rw [List.getElem?_append_left hlt, ← h.holds j p, hself] at hp
          contradiction
        · have := (List.getElem?_eq_some_iff.mp hp).1
          rw [List.length_append, List.length_singleton] at this
          omega
    · simp only [State.goto, Function.update_of_ne hji, h.holds j p]
      rcases Nat.lt_or_ge p owners.length with hlt | hge
      · rw [List.getElem?_append_left hlt]
      · rw [List.getElem?_eq_none hge, List.getElem?_append_right hge]
        rcases Nat.eq_zero_or_pos (p - owners.length) with h0 | h0
        · simp [h0, Ne.symm hji]
        · rw [List.getElem?_eq_none (by rw [List.length_singleton]; omega)]
  · intro n p
    rw [h.done n p]
    rcases Nat.lt_or_ge p owners.length with hlt | hge
    · rw [List.getElem?_append_left hlt]
    · rw [List.getElem?_eq_none hge, List.getElem?_append_right hge]
      rcases Nat.eq_zero_or_pos (p - owners.length) with h0 | h0
      · simp [h0]
      · rw [List.getElem?_eq_none (by rw [List.length_singleton]; omega)]
  · intro j p hp
    by_cases hji : j = i
    · subst hji
      simp only [State.goto, Function.update_self, PushPoint.holds, Option.some.injEq] at hp ⊢
      rw [← hp, ← hcl, List.getElem?_concat_length]
    · simp only [State.goto, Function.update_of_ne hji] at hp ⊢
      rw [List.getElem?_append_left (by rw [hcl]; exact hlt hp)]
      exact h.holds_event j p hp
  · intro n c p hn hp
    have hget := h.done_event n c p hn hp
    rw [List.getElem?_append_left (List.getElem?_eq_some_iff.mp hget).1]
    exact hget
  · intro j hj
    by_cases hji : j = i
    · subst hji
      exact h.session j (by rw [hpoint]; rfl)
    · simp only [State.goto, Function.update_of_ne hji] at hj
      exact h.session j hj
  · refine ⟨fun j => ?_, h.honest.2⟩
    by_cases hji : j = i
    · subst hji
      simp only [State.goto, Function.update_self, PushPoint.honest]
    · simp only [State.goto, Function.update_of_ne hji]
      exact h.honest.1 j

theorem Owned.publish {q : ℕ} (hpoint : s.point i = .published q) :
    Owned cfg ({ s with writers := s.writers - 1 }.goto i .idle)
      (returned ++ [(s.call i, ⟨.published, q + 1⟩)]) claims
      (owners.set q (.inr returned.length)) := by
  have hself : (s.point i).holds = some q := by rw [hpoint]; rfl
  have hq : q < owners.length := by rw [h.owners_length]; exact h.write_lt hself
  have hget := (h.holds i q).mp hself
  constructor
  · exact h.claims_length
  · rw [List.length_set]
    exact h.owners_length
  · intro j p
    by_cases hji : j = i
    · subst hji
      simp only [State.goto, Function.update_self, PushPoint.holds, reduceCtorEq, false_iff]
      by_cases hpq : q = p
      · subst hpq
        simp [List.getElem?_set_self hq]
      · rw [List.getElem?_set_ne hpq, ← h.holds j p, hself]
        simpa using hpq
    · simp only [State.goto, Function.update_of_ne hji, h.holds j p]
      by_cases hpq : q = p
      · subst hpq
        rw [hget, List.getElem?_set_self hq]
        simp [Ne.symm hji]
      · rw [List.getElem?_set_ne hpq]
  · intro n p
    rcases Nat.lt_or_ge n returned.length with hn | hn
    · rw [List.getElem?_append_left hn, h.done n p]
      by_cases hpq : q = p
      · subst hpq
        rw [hget, List.getElem?_set_self hq]
        simp [Nat.ne_of_gt hn]
      · rw [List.getElem?_set_ne hpq]
    · rcases Nat.eq_or_lt_of_le hn with rfl | hn'
      · rw [List.getElem?_concat_length]
        simp only [Option.bind_some, publishedAt, Option.some.injEq]
        by_cases hpq : q = p
        · subst hpq
          simp [List.getElem?_set_self hq]
        · rw [List.getElem?_set_ne hpq, ← h.done returned.length p, List.getElem?_eq_none le_rfl]
          simp [hpq]
      · -- No call has a later number.
        rw [List.getElem?_eq_none (by rw [List.length_append, List.length_singleton]; omega)]
        simp only [Option.bind_none, reduceCtorEq, false_iff]
        intro hset
        by_cases hpq : q = p
        · subst hpq
          simp [List.getElem?_set_self hq] at hset
          omega
        · rw [List.getElem?_set_ne hpq, ← h.done n p, List.getElem?_eq_none hn] at hset
          exact nomatch hset
  · intro j p hp
    by_cases hji : j = i
    · subst hji
      simp only [State.goto, Function.update_self, PushPoint.holds, reduceCtorEq] at hp
    · simp only [State.goto, Function.update_of_ne hji] at hp ⊢
      exact h.holds_event j p hp
  · intro n c p hn hp
    rcases Nat.lt_or_ge n returned.length with hlt | hge
    · rw [List.getElem?_append_left hlt] at hn
      exact h.done_event n c p hn hp
    · rw [List.getElem?_append_right hge] at hn
      obtain rfl : c = (s.call i, ⟨.published, q + 1⟩) := by
        have := List.mem_of_getElem? hn
        simpa using this
      simp only [publishedAt, Option.some.injEq] at hp
      exact h.holds_event i p (by rw [hself, hp])
  · intro j hj
    by_cases hji : j = i
    · subst hji
      simp [State.goto] at hj
    · simp only [State.goto, Function.update_of_ne hji] at hj
      exact h.session j hj
  · refine ⟨fun j => ?_, fun c hc => ?_⟩
    · by_cases hji : j = i
      · subst hji
        simp [State.goto]
      · simp only [State.goto, Function.update_of_ne hji]
        exact h.honest.1 j
    · rcases List.mem_append.mp hc with hc | hc
      · exact h.honest.2 c hc
      · rw [List.mem_singleton.mp hc]
        exact fun _ => ⟨q, rfl⟩

theorem Owned.refuse {reason : Push} (hpoint : s.point i = .exit reason) :
    Owned cfg ({ s with writers := s.writers - 1 }.goto i .idle)
      (returned ++ [(s.call i, ⟨reason, 0⟩)]) claims owners := by
  have hidle : Owned cfg ({ s with writers := s.writers - 1 }.goto i .idle) returned claims owners :=
    h.goto rfl rfl rfl (by rw [hpoint]; rfl) (fun hin => by simp at hin) rfl
  have hnone : publishedAt (s.call i, ⟨reason, 0⟩) = none := by cases reason <;> rfl
  refine { hidle with done := fun n p => ?_, done_event := fun n c p hn hp => ?_, honest := ?_ }
  · rw [← hidle.done n p]
    rcases Nat.lt_or_ge n returned.length with hn | hn
    · rw [List.getElem?_append_left hn]
    · rw [List.getElem?_eq_none hn]
      rcases Nat.eq_or_lt_of_le hn with rfl | hn'
      · rw [List.getElem?_concat_length, Option.bind_some, hnone, Option.bind_none]
      · rw [List.getElem?_eq_none (by rw [List.length_append, List.length_singleton]; omega)]
  · rcases Nat.lt_or_ge n returned.length with hlt | hge
    · rw [List.getElem?_append_left hlt] at hn
      exact hidle.done_event n c p hn hp
    · rw [List.getElem?_append_right hge] at hn
      obtain rfl : c = (s.call i, ⟨reason, 0⟩) := by
        have := List.mem_of_getElem? hn
        simpa using this
      rw [hnone] at hp
      exact nomatch hp
  · refine ⟨hidle.honest.1, fun c hc => ?_⟩
    rcases List.mem_append.mp hc with hc | hc
    · exact h.honest.2 c hc
    · have hhonest := h.honest.1 i
      rw [List.mem_singleton.mp hc]
      rintro rfl
      rw [hpoint] at hhonest
      exact nomatch hhonest

end

/-! ## Cells -/

theorem Cells.goto (h : Cells cfg s claims) (hpoint : s'.point = Function.update s.point i q)
    (hstamp : s'.stamp = s.stamp) (hcell : s'.cell = s.cell) (hclaimed : s'.claimed = s.claimed)
    (hread : s'.read = s.read) (hfrom : ∀ p done, s.point i ≠ .write p done)
    (hto : ∀ p done, q ≠ .write p done)
    (hexchange : ∀ p retry, q = .exchange p retry → p < s.read + cfg.capacity) :
    Cells cfg s' claims := by
  refine h.frame hstamp hcell hclaimed hread (fun j p done => ?_) fun j p retry hj => ?_ <;>
    by_cases hji : j = i
  · rw [hpoint, hji, Function.update_self]
    exact iff_of_false (hto p done) (hfrom p done)
  · rw [hpoint, Function.update_of_ne hji]
  · rw [hpoint, hji, Function.update_self] at hj
    exact hexchange p retry hj
  · rw [hpoint, Function.update_of_ne hji] at hj
    exact h.exchange j p retry hj

theorem Cells.claim (h : Cells cfg s claims) (hlen : claims.length = s.claimed) {retry : ℕ}
    (hpoint : s.point i = .exchange s.claimed retry) (event : Words) :
    Cells cfg ({ s with claimed := s.claimed + 1 }.goto i (.write s.claimed ∅))
      (claims ++ [event]) := by
  have hr := h.read_le
  have hc := h.exchange i s.claimed retry hpoint
  have himage : ∀ p < s.claimed, image cfg (claims ++ [event]) p = image cfg claims p :=
    fun p hp => image_append (by rw [hlen]; exact hp) _
  constructor
  · exact Nat.le_succ_of_le hr
  · exact hc
  · exact fun p hp hlt => h.free p (Nat.le_of_succ_le hp) hlt
  · intro j p done hj
    by_cases hji : j = i
    · subst hji
      simp only [State.goto, Function.update_self, PushPoint.write.injEq] at hj
      obtain ⟨rfl, rfl⟩ := hj
      exact ⟨⟨hr, Nat.lt_succ_self _⟩, h.free _ le_rfl hc,
        fun word hw => absurd hw (Finset.notMem_empty word)⟩
    · simp only [State.goto, Function.update_of_ne hji] at hj
      obtain ⟨⟨hrp, hlt⟩, hw⟩ := h.writing j p done hj
      rw [himage p hlt]
      exact ⟨⟨hrp, Nat.lt_succ_of_lt hlt⟩, hw⟩
  · intro p hrp hlt hw
    have hne : p ≠ s.claimed := by
      rintro rfl
      exact hw i ∅ (Function.update_self ..)
    have hlt : p < s.claimed := by
      have : p < s.claimed + 1 := hlt
      omega
    rw [himage p hlt]
    refine h.ready p hrp hlt fun j done hj => hw j done ?_
    have hji : j ≠ i := by
      rintro rfl
      rw [hpoint] at hj
      exact nomatch hj
    simp only [State.goto, Function.update_of_ne hji, hj]
  · intro j p r hj
    by_cases hji : j = i
    · subst hji
      simp only [State.goto, Function.update_self, reduceCtorEq] at hj
    · simp only [State.goto, Function.update_of_ne hji] at hj
      exact h.exchange j p r hj

theorem Cells.write (h : Cells cfg s claims) (ho : Owned cfg s returned claims owners) {q : ℕ}
    {done : Finset (Fin eventWords)} (hpoint : s.point i = .write q done) (word : Fin eventWords) :
    Cells cfg ((s.setWord (q % cfg.capacity) word
      (stampEvent (s.call i).session q (s.call i).event word)).goto i
        (.write q (insert word done))) claims := by
  have hholds : (s.point i).holds = some q := by rw [hpoint]; rfl
  obtain ⟨⟨hrq, hlt⟩, hstamp, hdone⟩ := h.writing i q done hpoint
  have hclaimed := h.claimed_le
  -- The word is that of the event at the claimed position.
  have hword : stampEvent (s.call i).session q (s.call i).event word = image cfg claims q word := by
    rw [image, List.getD_eq_getElem?_getD, ho.holds_event i q hholds, Option.getD_some,
      ho.session i (by rw [hpoint]; rfl)]
  have hother : ∀ p, s.read ≤ p → p < s.claimed → p ≠ q →
      Function.update s.cell (q % cfg.capacity) (Function.update (s.cell (q % cfg.capacity)) word
        (stampEvent (s.call i).session q (s.call i).event word)) (p % cfg.capacity) =
          s.cell (p % cfg.capacity) := fun p hr hc hne =>
    Function.update_of_ne (window_ne hr (by omega) hrq (by omega) hne) ..
  constructor
  · exact h.read_le
  · exact h.claimed_le
  · exact h.free
  · intro j p d hj
    by_cases hji : j = i
    · subst hji
      simp only [State.goto, Function.update_self, PushPoint.write.injEq] at hj
      obtain ⟨rfl, rfl⟩ := hj
      refine ⟨⟨hrq, hlt⟩, hstamp, fun w hw => ?_⟩
      simp only [State.goto, State.setWord, Function.update_self]
      by_cases hww : w = word
      · rw [hww, Function.update_self, hword]
      · rw [Function.update_of_ne hww]
        exact hdone w ((Finset.mem_insert.mp hw).resolve_left hww)
    · simp only [State.goto, State.setWord, Function.update_of_ne hji] at hj
      obtain ⟨⟨hrp, hpc⟩, hsp, hdp⟩ := h.writing j p d hj
      have hne : p ≠ q := by
        rintro rfl
        exact hji (ho.unique (by rw [hj]; rfl) hholds)
      refine ⟨⟨hrp, hpc⟩, hsp, fun w hw => ?_⟩
      simp only [State.goto, State.setWord, hother p hrp hpc hne]
      exact hdp w hw
  · intro p hrp hpc hw
    have hne : p ≠ q := by
      rintro rfl
      exact hw i _ (Function.update_self ..)
    simp only [State.goto, State.setWord, hother p hrp hpc hne]
    refine h.ready p hrp hpc fun j d hj => hw j d ?_
    have hji : j ≠ i := by
      rintro rfl
      rw [hpoint, PushPoint.write.injEq] at hj
      exact hne hj.1.symm
    simp only [State.goto, State.setWord, Function.update_of_ne hji, hj]
  · intro j p r hj
    by_cases hji : j = i
    · subst hji
      simp only [State.goto, Function.update_self, reduceCtorEq] at hj
    · simp only [State.goto, Function.update_of_ne hji] at hj
      exact h.exchange j p r hj

theorem Cells.store (h : Cells cfg s claims) (ho : Owned cfg s returned claims owners) {q : ℕ}
    (hpoint : s.point i = .write q Finset.univ) :
    Cells cfg ((s.setStamp (q % cfg.capacity) (q + 1)).goto i (.published q)) claims := by
  have hholds : (s.point i).holds = some q := by rw [hpoint]; rfl
  obtain ⟨⟨hrq, hlt⟩, -, hdone⟩ := h.writing i q _ hpoint
  have hclaimed := h.claimed_le
  have hother : ∀ p, s.read ≤ p → p < s.read + cfg.capacity → p ≠ q →
      Function.update s.stamp (q % cfg.capacity) (q + 1) (p % cfg.capacity) =
        s.stamp (p % cfg.capacity) := fun p hr hc hne =>
    Function.update_of_ne (window_ne hr hc hrq (by omega) hne) ..
  constructor
  · exact h.read_le
  · exact h.claimed_le
  · intro p hp hc
    simp only [State.goto, State.setStamp] at hp hc ⊢
    rw [hother p (by omega) hc (by omega)]
    exact h.free p hp hc
  · intro j p d hj
    have hji : j ≠ i := by
      rintro rfl
      simp only [State.goto, Function.update_self, reduceCtorEq] at hj
    simp only [State.goto, State.setStamp, Function.update_of_ne hji] at hj ⊢
    obtain ⟨⟨hrp, hpc⟩, hsp, hdp⟩ := h.writing j p d hj
    have hne : p ≠ q := by
      rintro rfl
      exact hji (ho.unique (by rw [hj]; rfl) hholds)
    rw [hother p hrp (by omega) hne]
    exact ⟨⟨hrp, hpc⟩, hsp, hdp⟩
  · intro p hrp hpc hw
    simp only [State.goto, State.setStamp] at hrp hpc ⊢
    by_cases hpq : p = q
    · subst hpq
      rw [Function.update_self]
      exact ⟨rfl, funext fun w => hdone w (Finset.mem_univ w)⟩
    · rw [hother p hrp (by omega) hpq]
      refine h.ready p hrp hpc fun j d hj => hw j d ?_
      have hji : j ≠ i := by
        rintro rfl
        rw [hpoint, PushPoint.write.injEq] at hj
        exact hpq hj.1.symm
      simp only [State.goto, State.setStamp, Function.update_of_ne hji, hj]
  · intro j p r hj
    by_cases hji : j = i
    · subst hji
      simp only [State.goto, Function.update_self, reduceCtorEq] at hj
    · simp only [State.goto, Function.update_of_ne hji] at hj
      exact h.exchange j p r hj

end War3VK.RenderHost.Recorder.Ingress
