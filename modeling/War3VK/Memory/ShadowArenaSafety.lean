import War3VK.Memory.ShadowArenaMoves

/-!
# The shadow arena never hands out memory that is still in use

Over every run whose frames are sealed, a transaction object holds the last bundle that was reserved
with it (`Objects`), and the bundles that are not rolled back are stacked below the cursor of their
generation (`Bundles`).
-/

namespace War3VK.Memory.ShadowArena

open Lib

variable {cfg : Config} {s s' : State} {past : List Event} {r : Event} {call : Call} {o : Output}

/-! ## Objects -/

/-- A transaction object that is active holds the last bundle that was reserved with it, which is not
rolled back, or one that was cut short by an exception. -/
def Objects (past : List Event) (s : State) : Prop :=
  ∀ n, (s.transactions n).active → (s.transactions n).finish = {} ∨
    ∃ i requests, Reserved past i n requests (s.transactions n) ∧
      ¬RolledBack past i past.length n ∧
        ∀ (k : ℕ) (r : Event), i < k → past[k]? = some r → r.call.isBeginBundle n = false

theorem Objects.keep (h : Objects past s) {n : ℕ} (hactive : (s'.transactions n).active)
    (hsame : s'.transactions n = s.transactions n) (hbundle : r.call.isBeginBundle n = false)
    (hrollback : r.call = .rollbackBundle n → r.output ≠ .returned true) :
    (s'.transactions n).finish = {} ∨
      ∃ i requests, Reserved (past ++ [r]) i n requests (s'.transactions n) ∧
        ¬RolledBack (past ++ [r]) i (past ++ [r]).length n ∧
          ∀ (k : ℕ) (x : Event), i < k → (past ++ [r])[k]? = some x → x.call.isBeginBundle n = false := by
  rw [hsame] at hactive ⊢
  rcases h n hactive with hfinish | ⟨i, requests, hreserved, hnot, hlast⟩
  · exact .inl hfinish
  · refine .inr ⟨i, requests, hreserved.concat, fun hback => ?_, fun k x hik hx => ?_⟩
    · obtain ⟨m, s₁, him, hm, hget, hnone⟩ := hback
      rcases getElem?_concat hget with ⟨hlt, -⟩ | ⟨-, rfl⟩
      · exact hnot ((show RolledBack (past ++ [r]) i past.length n from
          ⟨m, s₁, him, hlt, hget, hnone⟩).of_concat le_rfl)
      · exact hrollback rfl rfl
    · rcases getElem?_concat hx with ⟨-, hx⟩ | ⟨-, rfl⟩
      · exact hlast k x hik hx
      · exact hbundle

theorem objects_move (h : Objects past s) (hm : Move cfg s call (o, s')) :
    Objects (past ++ [⟨s, call, o⟩]) s' := by
  intro n hn
  cases hm with
  | skip _ ok current transactions hcall hok hcurrent hgone hactive =>
    obtain ⟨hsame, hbundle⟩ := hactive n hn
    refine h.keep hn hsame hbundle fun hcall => ?_
    rw [hok n hcall]
    simp
  | close _ g serial f current hcurrent hf hcall =>
    rcases hcall with ⟨rfl, -⟩ | ⟨rfl, -⟩ <;> exact h.keep hn rfl rfl fun hcall => (nomatch hcall)
  | refuse name g requests answers pool f f' transactions hf hgrows hactive =>
    obtain ⟨hsame, hne⟩ := hactive n hn
    exact h.keep hn hsame (decide_eq_false hne.symm) fun hcall => (nomatch hcall)
  | throw name g requests answers pool f f' t hcurrent hf hgrows ht =>
    rcases @setTransaction_cases { s with pool, frames := s.frames.set g f' } name n t with
      ⟨-, hset⟩ | ⟨hne, hset⟩
    · rw [hset]
      exact .inl ht.2.2.2
    · exact h.keep hn hset (decide_eq_false hne.symm) fun hcall => (nomatch hcall)
  | reserve name g requests answers pool f f' t hcurrent hf hgrows hne hlaid ht =>
    rcases @setTransaction_cases { s with pool, frames := s.frames.set g f' } name n t with
      ⟨rfl, hset⟩ | ⟨hne, hset⟩
    · rw [hset]
      refine .inr ⟨past.length, requests, ⟨s, answers, List.getElem?_concat_length⟩, ?_, ?_⟩
      · rintro ⟨m, s₁, him, hm, -⟩
        simp at hm
        omega
      · intro k x hk hx
        rw [List.getElem?_eq_none (by simpa using hk)] at hx
        exact nomatch hx
    · exact h.keep hn hset (decide_eq_false hne.symm) fun hcall => (nomatch hcall)
  | rollback name t t' f ht hf hactive hcurrent hgeneration hcursor hended =>
    obtain ⟨hsame, hne⟩ := setTransaction_active hended hn
    refine h.keep hn hsame rfl fun hcall => ?_
    cases hcall
    exact absurd rfl hne
  | renew => exact h.keep hn rfl rfl fun hcall => (nomatch hcall)
  | spill => exact h.keep hn rfl rfl fun hcall => (nomatch hcall)
  | fail => exact h.keep hn rfl rfl fun hcall => (nomatch hcall)

/-! ## Bundles -/

/-- The bundle that was reserved at an index is of a use of a generation, and not rolled back. -/
def Live (past : List Event) (g generation i : ℕ) : Prop :=
  ∃ name requests t, Reserved past i name requests t ∧ t.generationIndex = g ∧
    t.generation = generation ∧ ¬RolledBack past i past.length name

def spanAt (past : List Event) (i : ℕ) : Span Place :=
  match past[i]?.map Record.output with
  | some (.reserved t) => ⟨t.start.place, t.finish.place⟩
  | _ => ⟨place 0 0, place 0 0⟩

/-- A range's memory is at a place and nowhere else, and will never be. -/
def Anchored (s : State) (x : Range) (g p : ℕ) : Prop :=
  x.storage.id < s.pool.buffers ∧ ∀ h q page, pageAt s.frames h q = some page →
    page.storage.id = x.storage.id → h = g ∧ q = p

structure Bundles (past : List Event) (s : State) : Prop where
  generation : ∀ (g : ℕ) f, s.frames[g]? = some f → f.generation ≤ s.generationCounter
  numbered : ∀ i name requests t, Reserved past i name requests t →
    t.generation ≠ 0 ∧ t.generation ≤ s.generationCounter ∧ t.generationIndex < s.frames.length
  anchored : ∀ i name requests t, Reserved past i name requests t →
    ∀ (k : ℕ) x, t.allocations[k]? = some x → ∃ p, Anchored s x t.generationIndex p ∧
      t.start.place ≤ place p x.offset ∧ place p (x.offset + x.size) ≤ t.finish.place
  /-- When its generation is used again, it was rewound. -/
  rewound : ∀ i name requests t f, Reserved past i name requests t →
    s.frames[t.generationIndex]? = some f → f.generation ≠ t.generation →
      Rewound past i past.length t.generationIndex t.generation
  /-- Those of the current use of a generation are stacked. -/
  stacked : ∀ (g : ℕ) f, s.frames[g]? = some f →
    Stacked (Live past g f.generation) (spanAt past) f.cursor.place

variable {i g : ℕ} {requests : List Request} {t : Transaction}

theorem Reserved.spanAt {name : ℕ} (h : Reserved past i name requests t) :
    spanAt past i = ⟨t.start.place, t.finish.place⟩ := by
  obtain ⟨s, answers, hi⟩ := h
  rw [ShadowArena.spanAt, hi]
  rfl

theorem Reserved.eq {name name' : ℕ} {requests' : List Request} {t' : Transaction}
    (h : Reserved past i name requests t) (h' : Reserved past i name' requests' t') :
    name = name' ∧ t = t' := by
  obtain ⟨s, answers, hi⟩ := h
  obtain ⟨s', answers', hi'⟩ := h'
  rw [hi] at hi'
  cases hi'
  exact ⟨rfl, rfl⟩

theorem live_concat {generation : ℕ} (h : Live (past ++ [r]) g generation i) :
    Live past g generation i ∧ spanAt (past ++ [r]) i = spanAt past i ∨
      i = past.length ∧ ∃ s name requests answers t,
        r = ⟨s, .beginBundle name requests answers, .reserved t⟩ ∧ t.generationIndex = g ∧
          t.generation = generation := by
  obtain ⟨name, requests, t, hreserved, hg, hgen, hnot⟩ := h
  rcases reserved_concat hreserved with hold | ⟨hi, s, answers, hr⟩
  · refine .inl ⟨⟨name, requests, t, hold, hg, hgen, fun hback => ?_⟩, ?_⟩
    · exact hnot (hback.concat (by simp))
    · rw [hold.spanAt, hreserved.spanAt]
  · exact .inr ⟨hi, s, name, requests, answers, t, hr, hg, hgen⟩

theorem spanAt_concat (hi : i < past.length) : spanAt (past ++ [r]) i = spanAt past i := by
  rw [spanAt, spanAt, getElem?_concat_of_lt hi]

theorem Live.lt {generation : ℕ} (h : Live past g generation i) : i < past.length := by
  obtain ⟨name, requests, t, hreserved, -⟩ := h
  exact hreserved.lt

theorem Anchored.move {x : Range} {p : ℕ} (h : Anchored s x g p) (hm : Move cfg s call (o, s')) :
    Anchored s' x g p := by
  obtain ⟨hbuffers, g₀, p₀, hrenewed⟩ := renewed_move hm
  refine ⟨h.1.trans_le hbuffers, fun g' q page hpage hid => ?_⟩
  rcases hrenewed g' q page hpage with hold | ⟨-, -, hnew, -⟩
  · exact h.2 g' q page hold hid
  · have := h.1
    omega

/-- What a call does to the uses of generations: nothing, or it begins a new use of one that could be
used again. -/
inductive Uses (s s' : State) : Call → Output → Prop where
  | same (call : Call) (o : Output) (hcounter : s'.generationCounter = s.generationCounter)
      (hlength : s.frames.length = s'.frames.length)
      (hframes : ∀ (g : ℕ) x, s'.frames[g]? = some x →
        ∃ y, s.frames[g]? = some y ∧ x.generation = y.generation) : Uses s s' call o
  | began (frameSerial completedSerial g : ℕ) (status : MemoryStatus) (answer : PageAnswer)
      (f' : FrameState) (hcounter : s'.generationCounter = s.generationCounter + 1)
      (hlength : s.frames.length ≤ s'.frames.length) (hg : g ≤ s.frames.length)
      (hget : s'.frames[g]? = some f') (hgeneration : f'.generation = s.generationCounter + 1)
      (hcursor : f'.cursor = {})
      (hothers : ∀ (h : ℕ) x, h ≠ g → s'.frames[h]? = some x → s.frames[h]? = some x)
      (hreuse : ∀ f, s.frames[g]? = some f → f.retireSerial ≤ completedSerial) :
      Uses s s' (.beginFrame frameSerial completedSerial status answer) (.began g)

variable {f f' : FrameState} {answers : ℕ → PageAnswer}

theorem uses_set (hf : s.frames[g]? = some f) (hframes : s'.frames = s.frames.set g f')
    (hgen : f'.generation = f.generation) (hcounter : s'.generationCounter = s.generationCounter) :
    Uses s s' call o := by
  refine .same call o hcounter (by rw [hframes, List.length_set]) fun g' x hx => ?_
  rw [hframes] at hx
  rcases set_cases hx with ⟨rfl, rfl⟩ | ⟨-, hx⟩
  · exact ⟨f, hf, hgen⟩
  · exact ⟨x, hx, rfl⟩

theorem uses_move (hm : Move cfg s call (o, s')) : Uses s s' call o := by
  cases hm with
  | skip => exact .same _ _ rfl rfl fun g x hx => ⟨x, hx, rfl⟩
  | fail => exact .same _ _ rfl rfl fun g x hx => ⟨x, hx, rfl⟩
  | close _ g serial f current hcurrent hf hcall => exact uses_set hf rfl rfl rfl
  | rollback name t t' f ht hf => exact uses_set hf rfl rfl rfl
  | refuse name g requests answers pool f f' transactions hf hgrows =>
    exact uses_set hf rfl hgrows.same.1 rfl
  | throw name g requests answers pool f f' t hcurrent hf hgrows ht =>
    exact uses_set hf rfl hgrows.same.1 rfl
  | reserve name g requests answers pool f f' t hcurrent hf hgrows hne hlaid ht =>
    exact uses_set hf rfl hgrows.same.1 rfl
  | renew frameSerial completedSerial g status answer pool f f' hf hreuse hbuffers hpages hcursor
      hretire hgeneration hserial =>
    have hlt := (List.getElem?_eq_some_iff.mp hf).1
    refine .began _ _ _ _ _ f' rfl (by simp) hlt.le (List.getElem?_set_self hlt) hgeneration hcursor
      (fun g' x hg hx => ?_) fun f₁ hf₁ => ?_
    · rcases set_cases hx with ⟨h, -⟩ | ⟨-, hx⟩
      · exact absurd h hg
      · exact hx
    · rw [hf, Option.some.injEq] at hf₁
      exact hf₁ ▸ hreuse
  | spill frameSerial completedSerial status answer pool f' hbuffers hpages hcursor hretire
      hgeneration hserial =>
    refine .began _ _ _ _ _ f' rfl (by simp) le_rfl List.getElem?_concat_length hgeneration hcursor
      (fun g' x hg hx => ?_) fun f₁ hf₁ => ?_
    · rcases Nat.lt_or_ge g' s.frames.length with hlt | hge
      · rwa [List.getElem?_append_left hlt] at hx
      · rw [List.getElem?_append_right hge, List.getElem?_singleton] at hx
        split_ifs at hx with h0
        exact absurd (by omega) hg
    · simp at hf₁

theorem move_reserved {name : ℕ}
    (hm : Move cfg s (.beginBundle name requests answers) (.reserved t, s')) :
    ∃ f f', s.current = some t.generationIndex ∧ s.frames[t.generationIndex]? = some f ∧
      s'.frames = s.frames.set t.generationIndex f' ∧ Grows s.pool f s'.pool f' ∧ requests ≠ [] ∧
        Laid f'.pages f.cursor.place requests t.allocations f'.cursor.place ∧
          t.generation = f.generation ∧ t.start = f.cursor ∧ t.finish = f'.cursor := by
  cases hm with
  | reserve name g requests answers pool f f' t hcurrent hf hgrows hne hlaid ht =>
    obtain ⟨rfl, hgen, hstart, hfinish⟩ := ht
    exact ⟨f, f', hcurrent, hf, rfl, hgrows, hne, hlaid, hgen, hstart, hfinish⟩

theorem Pages.anchored (h : Pages s) {p : ℕ} {x : Range} (hf : s.frames[g]? = some f)
    (hx : f.pages[p]?.map Page.storage = some x.storage) :
    Anchored s x g p ∧ pageAt s.frames g p ≠ none := by
  obtain ⟨page, hpage, hstorage⟩ := Option.map_eq_some_iff.mp hx
  have hat : pageAt s.frames g p = some page := by rw [pageAt_eq hf, hpage]
  refine ⟨⟨hstorage ▸ h.bound g p page hat, fun g' q page' hpage' hid => ?_⟩, by rw [hat]; simp⟩
  exact h.distinct g' q page' g p page hpage' hat (by rw [hid, ← hstorage])

section

variable (h : Bundles past s)
include h

theorem numbered_move (hs : Sealed past s) (hm : Move cfg s call (o, s')) :
    ∀ i name requests t, Reserved (past ++ [⟨s, call, o⟩]) i name requests t →
      t.generation ≠ 0 ∧ t.generation ≤ s'.generationCounter ∧ t.generationIndex < s'.frames.length := by
  intro i name requests t hreserved
  rcases reserved_concat hreserved with hold | ⟨-, s₁, answers, heq⟩
  · obtain ⟨hne, hle, hlt⟩ := h.numbered i name requests t hold
    cases uses_move hm with
    | same _ _ hcounter hlength hframes => exact ⟨hne, hcounter ▸ hle, hlength ▸ hlt⟩
    | began _ _ _ _ _ _ hcounter hlength => exact ⟨hne, by omega, hlt.trans_le hlength⟩
  · cases heq
    have hmove := uses_move hm
    obtain ⟨f, f', hcurrent, hf, hframes, -, -, -, hgen, -⟩ := move_reserved hm
    have hlt := (List.getElem?_eq_some_iff.mp hf).1
    rw [hgen]
    refine ⟨hs.used _ f hcurrent hf, ?_, by rw [hframes, List.length_set]; exact hlt⟩
    cases hmove with
    | same _ _ hcounter => exact hcounter ▸ h.generation _ f hf

theorem anchored_move (hp : Pages s') (hm : Move cfg s call (o, s')) :
    ∀ i name requests t, Reserved (past ++ [⟨s, call, o⟩]) i name requests t →
      ∀ (k : ℕ) x, t.allocations[k]? = some x → ∃ p, Anchored s' x t.generationIndex p ∧
        t.start.place ≤ place p x.offset ∧ place p (x.offset + x.size) ≤ t.finish.place := by
  intro i name requests t hreserved k x hx
  rcases reserved_concat hreserved with hold | ⟨-, s₁, answers, heq⟩
  · obtain ⟨p, hanchored, hlower, hupper⟩ := h.anchored i name requests t hold k x hx
    exact ⟨p, hanchored.move hm, hlower, hupper⟩
  · cases heq
    obtain ⟨f, f', -, hf, hframes, -, -, hlaid, -, hstart, hfinish⟩ := move_reserved hm
    obtain ⟨r, p, -, hgiven⟩ := hlaid.given hx
    have hget : s'.frames[t.generationIndex]? = some f' := by
      rw [hframes]
      exact List.getElem?_set_self (List.getElem?_eq_some_iff.mp hf).1
    refine ⟨p, (hp.anchored hget hgiven.storage).1, ?_, ?_⟩
    · rw [hstart]
      exact hgiven.lower
    · rw [hfinish]
      exact hgiven.upper

theorem rewound_move (hs : Sealed past s) (hm : Move cfg s call (o, s'))
    (hsealing : Sealing (past ++ [⟨s, call, o⟩])) :
    ∀ i name requests t f, Reserved (past ++ [⟨s, call, o⟩]) i name requests t →
      s'.frames[t.generationIndex]? = some f → f.generation ≠ t.generation →
        Rewound (past ++ [⟨s, call, o⟩]) i (past ++ [(⟨s, call, o⟩ : Event)]).length t.generationIndex
          t.generation := by
  intro i name requests t f hreserved hf hne
  rcases reserved_concat hreserved with hold | ⟨-, s₁, answers, heq⟩
  · have hkept : ∀ y, s.frames[t.generationIndex]? = some y → y.generation ≠ t.generation →
        Rewound (past ++ [⟨s, call, o⟩]) i (past ++ [(⟨s, call, o⟩ : Event)]).length t.generationIndex
          t.generation := fun y hy hne => (h.rewound i name requests t y hold hy hne).concat (by simp)
    cases uses_move hm with
    | same _ _ hcounter hlength hframes =>
      obtain ⟨y, hy, hgen⟩ := hframes _ f hf
      exact hkept y hy (hgen ▸ hne)
    | began frameSerial completedSerial g status answer f' hcounter hlength hg hget hgeneration
        hcursor hothers hreuse =>
      by_cases hindex : t.generationIndex = g
      · obtain ⟨hzero, -, hlt⟩ := h.numbered i name requests t hold
        have hy := List.getElem?_eq_getElem hlt
        by_cases hgen : s.frames[t.generationIndex].generation = t.generation
        · -- This call rewinds the generation.
          have hretire := hs.all hsealing rfl hy (hgen ▸ hzero)
          refine ⟨past.length, s, frameSerial, completedSerial, status, answer, _, hold.lt, by simp,
            ?_, hy, hgen, hretire, hreuse _ (hindex ▸ hy), ?_⟩
          · rw [hindex]
            exact List.getElem?_concat_length
          · rw [← hgen]
            exact (hs.closed _ _ hy hretire).concat le_rfl
        · exact hkept _ hy hgen
      · exact hkept f (hothers _ f hindex hf) hne
  · cases heq
    obtain ⟨f₁, f', -, hf₁, hframes, hgrows, -, -, hgen, -⟩ := move_reserved hm
    rw [hframes, List.getElem?_set_self (List.getElem?_eq_some_iff.mp hf₁).1, Option.some.injEq] at hf
    rw [← hf, hgrows.same.1, hgen] at hne
    exact absurd rfl hne

theorem Bundles.stay (hf : s.frames[g]? = some f) (hgen : f'.generation = f.generation)
    (hcursor : f.cursor.place ≤ f'.cursor.place)
    (hr : ∀ t, r.output = .reserved t → t.generationIndex ≠ g) :
    Stacked (Live (past ++ [r]) g f'.generation) (spanAt (past ++ [r])) f'.cursor.place := by
  refine (h.stacked g f hf).mono (fun i hi => ?_) hcursor
  rw [hgen] at hi
  rcases live_concat hi with hold | ⟨-, s₁, name, requests, answers, t, rfl, hindex, -⟩
  · exact hold
  · exact absurd hindex (hr t rfl)

theorem Bundles.others (hframes : s'.frames = s.frames.set g f')
    (hr : ∀ t, r.output = .reserved t → t.generationIndex = g)
    (hg : Stacked (Live (past ++ [r]) g f'.generation) (spanAt (past ++ [r])) f'.cursor.place) :
    ∀ (g' : ℕ) x, s'.frames[g']? = some x →
      Stacked (Live (past ++ [r]) g' x.generation) (spanAt (past ++ [r])) x.cursor.place := by
  intro g' x hx
  rw [hframes] at hx
  rcases set_cases hx with ⟨rfl, rfl⟩ | ⟨hne, hx⟩
  · exact hg
  · exact h.stay hx rfl le_rfl fun t ht hindex => hne (hindex.symm.trans (hr t ht))

theorem Bundles.fresh (hi : Live (past ++ [r]) g (s.generationCounter + 1) i)
    (hr : ∀ t, r.output ≠ .reserved t) : False := by
  rcases live_concat hi with ⟨⟨name, requests, t, hreserved, -, hgen, -⟩, -⟩ |
    ⟨-, s₁, name, requests, answers, t, rfl, -⟩
  · have := (h.numbered i name requests t hreserved).2.1
    omega
  · exact hr t rfl

theorem stacked_move (ho : Objects past s) (hm : Move cfg s call (o, s')) :
    ∀ (g : ℕ) f, s'.frames[g]? = some f → Stacked (Live (past ++ [⟨s, call, o⟩]) g f.generation)
      (spanAt (past ++ [⟨s, call, o⟩])) f.cursor.place := by
  cases hm with
  | skip => exact fun g f hf => h.stay hf rfl le_rfl fun t ht => (nomatch ht)
  | fail _ _ _ _ _ _ _ houtput =>
    refine fun g f hf => h.stay hf rfl le_rfl fun t ht => ?_
    rcases houtput with rfl | rfl <;> exact nomatch ht
  | close _ g serial f current hcurrent hf hcall =>
    exact h.others rfl (fun t ht => (nomatch ht)) (h.stay hf rfl le_rfl fun t ht => (nomatch ht))
  | refuse name g requests answers pool f f' transactions hf hgrows hactive =>
    exact h.others rfl (fun t ht => (nomatch ht))
      (h.stay hf hgrows.same.1 le_rfl fun t ht => (nomatch ht))
  | throw name g requests answers pool f f' t hcurrent hf hgrows ht =>
    exact h.others rfl (fun t ht => (nomatch ht))
      (h.stay hf hgrows.same.1 hgrows.cursor fun t ht => (nomatch ht))
  | reserve name g requests answers pool f f' t hcurrent hf hgrows hne hlaid ht =>
    refine h.others rfl (fun t' ht' => by cases ht'; exact ht.1) ?_
    have hreserved : Reserved (past ++ [(⟨s, .beginBundle name requests answers, .reserved t⟩ : Event)])
        past.length name requests t := ⟨s, answers, List.getElem?_concat_length⟩
    have hold : Stacked (Live past g f.generation)
        (spanAt (past ++ [⟨s, .beginBundle name requests answers, .reserved t⟩])) f.cursor.place :=
      (h.stacked g f hf).mono (fun i hi => ⟨hi, spanAt_concat hi.lt⟩) le_rfl
    refine hold.push (fun i hi => hi.lt) ?_ (hlaid.lt hne) fun i hi => ?_
    · rw [hreserved.spanAt, ht.2.2.1, ht.2.2.2]
    · rw [hgrows.same.1] at hi
      rcases live_concat hi with hi | ⟨hi, -⟩
      · exact .inl hi.1
      · exact .inr hi
  | rollback name t t' f ht hf hactive hcurrent hgeneration hcursor hended =>
    refine h.others rfl (fun t' ht' => (nomatch ht')) ?_
    have hstacked := h.stacked _ f hf
    have hkept : ∀ i, Live (past ++ [(⟨s, .rollbackBundle name, .returned true⟩ : Event)])
        t.generationIndex f.generation i → Live past t.generationIndex f.generation i := by
      intro i hi
      rcases live_concat hi with hold | ⟨-, s₁, n, requests, answers, t₁, heq, -⟩
      · exact hold.1
      · exact nomatch heq
    rcases ho name (by rw [ht]; exact hactive) with hfinish | ⟨i, requests, hreserved, hnot, hlast⟩
    · -- A bundle that was cut short stands at the first place, below which there is nothing.
      refine Stacked.of_none fun i hi => ?_
      have hproper := hstacked.proper i (hkept i hi)
      have hbelow := hstacked.below i (hkept i hi)
      rw [hcursor, ← ht, hfinish] at hbelow
      have hlt : (spanAt past i).lower < place 0 0 := hproper.trans_le hbelow
      exact absurd hlt (not_lt.mpr (place_le.mpr (by omega)))
    · rw [ht] at hreserved
      have hlive : Live past t.generationIndex f.generation i :=
        ⟨name, requests, t, hreserved, rfl, hgeneration.symm, hnot⟩
      have hspan := hreserved.spanAt
      have hpop : Stacked (fun j => Live past t.generationIndex f.generation j ∧ j ≠ i)
          (spanAt past) (spanAt past i).lower :=
        hstacked.pop hlive (by rw [hspan, hcursor]) fun j hj => hj
      rw [hspan] at hpop
      refine hpop.mono (fun j hj => ⟨⟨hkept j hj, ?_⟩, spanAt_concat (hkept j hj).lt⟩) le_rfl
      -- This call rolls the bundle back.
      rintro rfl
      obtain ⟨n, requests', t₁, hreserved', -, -, hnot'⟩ := hj
      obtain ⟨rfl, -⟩ := hreserved.concat.eq hreserved'
      refine hnot' ⟨past.length, s, hreserved.lt, by simp, List.getElem?_concat_length, ?_⟩
      intro k r hjk hk hr
      rw [getElem?_concat_of_lt hk] at hr
      exact hlast k r hjk hr
  | renew frameSerial completedSerial g status answer pool f f' hf hreuse hbuffers hpages hcursor
      hretire hgeneration hserial =>
    refine h.others rfl (fun t ht => (nomatch ht)) (Stacked.of_none fun i hi => ?_)
    rw [hgeneration] at hi
    exact h.fresh hi fun t ht => (nomatch ht)
  | spill frameSerial completedSerial status answer pool f' hbuffers hpages hcursor hretire
      hgeneration hserial =>
    intro g x hx
    rcases Nat.lt_or_ge g s.frames.length with hlt | hge
    · rw [List.getElem?_append_left hlt] at hx
      exact h.stay hx rfl le_rfl fun t ht => (nomatch ht)
    · rw [List.getElem?_append_right hge, List.getElem?_singleton] at hx
      split_ifs at hx
      cases hx
      refine Stacked.of_none fun i hi => ?_
      rw [hgeneration] at hi
      exact h.fresh hi fun t ht => (nomatch ht)

theorem bundles_move (hp : Pages s') (hs : Sealed past s) (ho : Objects past s)
    (hm : Move cfg s call (o, s')) (hsealing : Sealing (past ++ [⟨s, call, o⟩])) :
    Bundles (past ++ [⟨s, call, o⟩]) s' where
  generation g x hx := by
    cases uses_move hm with
    | same _ _ hcounter hlength hframes =>
      obtain ⟨y, hy, hgen⟩ := hframes g x hx
      rw [hgen, hcounter]
      exact h.generation g y hy
    | began _ _ g' _ _ f' hcounter hlength hg hget hgeneration hcursor hothers hreuse =>
      by_cases hgg : g = g'
      · rw [hgg, hget, Option.some.injEq] at hx
        rw [← hx, hgeneration, hcounter]
      · have := h.generation g x (hothers g x hgg hx)
        omega
  numbered := numbered_move h hs hm
  anchored := anchored_move h hp hm
  rewound := rewound_move h hs hm hsealing
  stacked := stacked_move h ho hm

end

/-! ## Ranges -/

def Range.Apart (x y : Range) : Prop :=
  x.storage.id = y.storage.id → x.offset + x.size ≤ y.offset ∨ y.offset + y.size ≤ x.offset

structure Ranges (past : List Event) : Prop where
  /-- They are what was asked for, and inside their pages. -/
  given : ∀ i name requests t, Reserved past i name requests t → ∀ (k : ℕ) x,
    t.allocations[k]? = some x → ∃ r, requests[k]? = some r ∧ x.size = r.size.toNat ∧
      r.usedAlignment.toNat ∣ x.offset ∧ x.offset + x.size ≤ x.storage.size
  bundle : ∀ i name requests t, Reserved past i name requests t → ∀ (k l : ℕ) x y, k < l →
    t.allocations[k]? = some x → t.allocations[l]? = some y → x.Apart y
  /-- Those of two bundles are apart, unless the first one was rolled back or its generation was
  rewound in between. -/
  bundles : ∀ i j name name' requests requests' t t', i < j → Reserved past i name requests t →
    Reserved past j name' requests' t' → ¬RolledBack past i j name → ∀ x ∈ t.allocations,
      ∀ y ∈ t'.allocations, x.Apart y ∨ Rewound past i j t.generationIndex t.generation

theorem ranges_move (h : Ranges past) (hb : Bundles past s) (hp : Pages s')
    (hm : Move cfg s call (o, s')) : Ranges (past ++ [⟨s, call, o⟩]) := by
  constructor
  · intro i name requests t hreserved k x hx
    rcases reserved_concat hreserved with hold | ⟨-, s₁, answers, heq⟩
    · exact h.given i name requests t hold k x hx
    · cases heq
      obtain ⟨f, f', -, -, -, -, -, hlaid, -⟩ := move_reserved hm
      obtain ⟨r, p, hr, hgiven⟩ := hlaid.given hx
      exact ⟨r, hr, hgiven.size.1, hgiven.aligned, hgiven.inside⟩
  · intro i name requests t hreserved k l x y hkl hx hy hid
    rcases reserved_concat hreserved with hold | ⟨-, s₁, answers, heq⟩
    · exact h.bundle i name requests t hold k l x y hkl hx hy hid
    · cases heq
      obtain ⟨f, f', -, hf, hframes, -, -, hlaid, -⟩ := move_reserved hm
      have hget : s'.frames[t.generationIndex]? = some f' := by
        rw [hframes]
        exact List.getElem?_set_self (List.getElem?_eq_some_iff.mp hf).1
      obtain ⟨p, q, hpx, hqy, hle⟩ := hlaid.apart hx hy hkl
      obtain ⟨pagex, hpagex, hstorex⟩ := Option.map_eq_some_iff.mp hpx
      obtain ⟨hanchored, -⟩ := hp.anchored hget hqy
      obtain ⟨-, rfl⟩ := hanchored.2 t.generationIndex p pagex (by rw [pageAt_eq hget, hpagex])
        (by rw [hstorex, hid])
      rw [place_le] at hle
      exact .inl (by omega)
  · intro i j name name' requests requests' t t' hij hreserved hreserved' hnot x hx y hy
    rcases reserved_concat hreserved' with hold' | ⟨hj, s₁, answers, heq⟩
    · have hjlt := hold'.lt
      rcases reserved_concat hreserved with hold | ⟨hi, -⟩
      · rcases h.bundles i j name name' requests requests' t t' hij hold hold'
          (fun hback => hnot (hback.concat le_rfl)) x hx y hy with hapart | hrewound
        · exact .inl hapart
        · exact .inr (hrewound.concat le_rfl)
      · omega
    · cases heq
      rcases reserved_concat hreserved with hold | ⟨hi, -⟩
      · obtain ⟨f, f', -, hf, hframes, -, -, hlaid, hgen, -⟩ := move_reserved hm
        have hget : s'.frames[t'.generationIndex]? = some f' := by
          rw [hframes]
          exact List.getElem?_set_self (List.getElem?_eq_some_iff.mp hf).1
        obtain ⟨k, hk⟩ := List.mem_iff_getElem?.mp hx
        obtain ⟨l, hl⟩ := List.mem_iff_getElem?.mp hy
        obtain ⟨p, hanchored, -, hupper⟩ := hb.anchored i name requests t hold k x hk
        obtain ⟨r, q, -, hgiven⟩ := hlaid.given hl
        obtain ⟨pagey, hpagey, hstorey⟩ := Option.map_eq_some_iff.mp hgiven.storage
        by_cases hid : x.storage.id = y.storage.id
        · -- They are in one page, so in one generation.
          obtain ⟨hindex, rfl⟩ := (hanchored.move hm).2 t'.generationIndex q pagey
            (by rw [pageAt_eq hget, hpagey]) (by rw [hstorey, hid])
          rw [hindex] at hf
          by_cases huse : f.generation = t.generation
          · left
            have hlive : Live past t.generationIndex f.generation i :=
              ⟨name, requests, t, hold, rfl, huse.symm, fun hback => hnot (hj ▸ hback.concat le_rfl)⟩
            have hbelow := (hb.stacked _ f hf).below i hlive
            rw [hold.spanAt] at hbelow
            have hle := (hupper.trans hbelow).trans hgiven.lower
            rw [place_le] at hle
            exact fun _ => .inl (by omega)
          · right
            rw [hj]
            exact (hb.rewound i name requests t f hold hf huse).concat le_rfl
        · exact .inl fun h => absurd h hid
      · omega

/-! ## Runs -/

theorem warmPages_spec {n : ℕ} {p p' : Pool} {frames : List FrameState}
    (h : warmPages cfg answers n p = some (frames, p')) : p.buffers ≤ p'.buffers ∧
      ∀ (g : ℕ) f, frames[g]? = some f → f.cursor = {} ∧ f.generation = 0 ∧ f.retireSerial = 0 ∧
        bufferIds f.pages = [p.buffers + g] ∧ p.buffers + g < p'.buffers := by
  induction n generalizing p frames with
  | zero =>
    cases h
    exact ⟨le_rfl, fun g f hf => by simp at hf⟩
  | succ n ih =>
    rw [warmPages] at h
    have hgrown := allocateArenaPage_grown cfg arenaPageSize (answers p.buffers) p {}
    generalize allocateArenaPage cfg arenaPageSize (answers p.buffers) p {} = result at h hgrown
    cases hgrown with
    | failed failure p₁ hbuffers => exact nomatch h
    | grown p₁ hbuffers hminimum =>
      obtain ⟨⟨rest, p₂⟩, hrest, heq⟩ := Option.map_eq_some_iff.mp h
      cases heq
      obtain ⟨hle, hframes⟩ := ih hrest
      refine ⟨by omega, fun g f hf => ?_⟩
      cases g with
      | zero =>
        cases hf
        exact ⟨rfl, rfl, rfl, rfl, by omega⟩
      | succ g =>
        obtain ⟨h1, h2, h3, h4, h5⟩ := hframes g f hf
        exact ⟨h1, h2, h3, by rw [h4]; congr 1; omega, by omega⟩

structure Safe (past : List Event) (s : State) : Prop where
  pages : Pages s
  sealed : Sealed past s
  objects : Objects past s
  bundles : Bundles past s
  ranges : Ranges past

theorem safe_init {status : MemoryStatus} (h : init cfg status answers = some s) : Safe [] s := by
  obtain ⟨⟨frames, pool⟩, hwarm, rfl⟩ := Option.map_eq_some_iff.mp h
  obtain ⟨-, hframes⟩ := warmPages_spec hwarm
  have hpage : ∀ g p page, pageAt frames g p = some page → p = 0 ∧
      page.storage.id = (Pool.refresh {} status 0).buffers + g ∧ page.storage.id < pool.buffers := by
    intro g p page hpage
    obtain ⟨f, hf, hget⟩ := Option.bind_eq_some_iff.mp hpage
    obtain ⟨-, -, -, hids, hlt⟩ := hframes g f hf
    have hid : (bufferIds f.pages)[p]? = some page.storage.id := by
      rw [bufferIds, List.getElem?_map, hget]
      rfl
    rw [hids, List.getElem?_singleton] at hid
    split_ifs at hid with hp
    rw [Option.some.injEq] at hid
    exact ⟨hp, hid.symm, by omega⟩
  have hnone : ∀ i name requests t, ¬Reserved [] i name requests t := by
    rintro i name requests t ⟨s, answers, hi⟩
    simp at hi
  constructor
  · constructor
    · exact fun g p page hget => (hpage g p page hget).2.2
    · intro g p page g' p' page' hget hget' hid
      obtain ⟨hp, hid₁, -⟩ := hpage g p page hget
      obtain ⟨hp', hid₂, -⟩ := hpage g' p' page' hget'
      exact ⟨by omega, by omega⟩
    · intro g f hf
      rw [(hframes g f hf).1]
      exact Nat.zero_le _
    · exact fun n hn => (by cases hn)
  · constructor
    · exact fun g f hf hgen => absurd (hframes g f hf).2.1 hgen
    · exact fun g f hf hne => absurd (hframes g f hf).2.2.1 hne
    · exact fun g f hg => (by cases hg)
    · exact fun g f hg => (by cases hg)
  · exact fun n hn => (by cases hn)
  · constructor
    · exact fun g f hf => (hframes g f hf).2.1.le
    · exact fun i name requests t hi => absurd hi (hnone i name requests t)
    · exact fun i name requests t hi => absurd hi (hnone i name requests t)
    · exact fun i name requests t f hi => absurd hi (hnone i name requests t)
    · refine fun g f hf => Stacked.of_none ?_
      rintro i ⟨name, requests, t, hi, -⟩
      exact hnone i name requests t hi
  · constructor
    · exact fun i name requests t hi => absurd hi (hnone i name requests t)
    · exact fun i name requests t hi => absurd hi (hnone i name requests t)
    · exact fun i j name name' requests requests' t t' _ hi => absurd hi (hnone i name requests t)

theorem safe_run {status : MemoryStatus} (h : init cfg status answers = some s)
    (calls : List Call) :
    Sealing (history (step cfg) calls s) → Safe (history (step cfg) calls s) (run (step cfg) calls s) := by
  refine @history_induction _ _ _ (step cfg) (fun s past => Sealing past → Safe past s) s
    (fun _ => safe_init h) (fun t past call hsafe hsealing => ?_) calls
  obtain ⟨hp, hs, ho, hb, hr⟩ := hsafe hsealing.of_concat
  have hm := @move_step cfg t call hp.offset
  have hp' := pages_move hp hm
  exact ⟨hp', sealed_move hs hm hsealing, objects_move ho hm, bundles_move hb hp' hs ho hm hsealing,
    ranges_move hr hb hp' hm⟩

/-- The ranges of a run whose frames are sealed, from any start of the arena and whatever the device
and the system answer. A range that is given is aligned as requested and lies inside its page. Two
ranges of one page, the first of which was not rolled back before the second was given, have no byte
in common, unless the generation of the first was rewound in between, when the retire serial with
which it had been sealed was already completed. -/
theorem ranges_safe (cfg : Config) (status : MemoryStatus) (answers : ℕ → PageAnswer) (s₀ : State)
    (hinit : init cfg status answers = some s₀) (calls : List Call)
    (hsealing : Sealing (history (step cfg) calls s₀)) :
    let past := history (step cfg) calls s₀
    (∀ i name requests t, Reserved past i name requests t → ∀ (k : ℕ) x,
      t.allocations[k]? = some x → ∃ r, requests[k]? = some r ∧ x.size = r.size.toNat ∧
        (if r.alignment = 0 then 16 else r.alignment.toNat) ∣ x.offset ∧
          x.offset + x.size ≤ x.storage.size) ∧
    (∀ i name requests t, Reserved past i name requests t → ∀ (k l : ℕ) x y, k < l →
      t.allocations[k]? = some x → t.allocations[l]? = some y → x.Apart y) ∧
    ∀ i j name name' requests requests' t t', i < j → Reserved past i name requests t →
      Reserved past j name' requests' t' → ¬RolledBack past i j name → ∀ x ∈ t.allocations,
        ∀ y ∈ t'.allocations, x.Apart y ∨ Rewound past i j t.generationIndex t.generation := by
  intro past
  have hranges := (safe_run hinit calls hsealing).ranges
  refine ⟨fun i name requests t hreserved k x hx => ?_, hranges.bundle, hranges.bundles⟩
  obtain ⟨r, hr, hsize, haligned, hinside⟩ := hranges.given i name requests t hreserved k x hx
  refine ⟨r, hr, hsize, ?_, hinside⟩
  unfold Request.usedAlignment at haligned
  split_ifs at haligned ⊢
  · exact haligned
  · exact haligned

/-- The ranges of a run in which a bundle is rolled back, the next one takes its place, and a second
frame rewinds the generation of the first. -/
theorem ranges_safe_two_frames :
    let cfg : Config := ⟨none, 1, by decide⟩
    let status : MemoryStatus := ⟨some (2^31), false, []⟩
    let answers : ℕ → PageAnswer := fun _ => ⟨status, .heap 0, status, status⟩
    let calls : List Call := [.beginFrame 1 0 status (answers 0),
      .beginBundle 0 [⟨100, 0⟩, ⟨64, 64⟩] answers, .rollbackBundle 0,
      .beginBundle 1 [⟨8, 4⟩] answers, .endFrame 1, .beginFrame 2 1 status (answers 0),
      .beginBundle 2 [⟨8, 4⟩] answers]
    let past := history (step cfg) calls ((init cfg status answers).getD {})
    let x : Range := ⟨0, 8, ⟨0, arenaPageSize⟩⟩
    (past.map Record.output = [.began 0,
      .reserved ⟨[⟨0, 100, ⟨0, arenaPageSize⟩⟩, ⟨128, 64, ⟨0, arenaPageSize⟩⟩], 0, 1, {},
        { offset := 192 }, true⟩, .returned true,
      .reserved ⟨[x], 0, 1, {}, { offset := 8 }, true⟩, .returned true, .began 0,
      .reserved ⟨[x], 0, 2, {}, { offset := 8 }, true⟩]) ∧ Rewound past 3 6 0 1 := by
  intro cfg status answers calls past x
  have houtputs : past.map Record.output = [.began 0,
      .reserved ⟨[⟨0, 100, ⟨0, arenaPageSize⟩⟩, ⟨128, 64, ⟨0, arenaPageSize⟩⟩], 0, 1, {},
        { offset := 192 }, true⟩, .returned true,
      .reserved ⟨[x], 0, 1, {}, { offset := 8 }, true⟩, .returned true, .began 0,
      .reserved ⟨[x], 0, 2, {}, { offset := 8 }, true⟩] := by decide +kernel
  have hinit : init cfg status answers = some ((init cfg status answers).getD {}) := by
    have hsome : (init cfg status answers).isSome := by decide +kernel
    rw [Option.isSome_iff_exists] at hsome
    obtain ⟨s, hs⟩ := hsome
    rw [hs]
    rfl
  have hcalls : past.map Record.call = calls := history_map_call (step cfg) calls _
  have hcall : ∀ (n : ℕ) r, past[n]? = some r → calls[n]? = some r.call := by
    intro n r hr
    rw [← hcalls, List.getElem?_map, hr]
    rfl
  have hget : ∀ {n : ℕ} {c o}, calls[n]? = some c → (past.map Record.output)[n]? = some o →
      ∃ t, past[n]? = some ⟨t, c, o⟩ := history_getElem? (step cfg)
  have hsealing : Sealing past := by
    intro i j s frameSerial completedSerial status answer g r hi hij hj hr
    have hci := hcall i _ hi
    have hcj : calls[j]?.map Call.isBeginFrame = some true := by rw [hcall j _ hj, ← hr]; rfl
    have hj7 : j < 7 := (List.getElem?_eq_some_iff.mp (hcall j _ hj)).1
    obtain ⟨t, ht⟩ := @hget 4 _ _ rfl (by rw [houtputs]; rfl)
    -- Only the first call and the sixth one begin a frame.
    have hj5 : j = 5 := by
      have hpos := Nat.zero_lt_of_lt hij
      interval_cases j <;> first | rfl | exact nomatch hcj
    subst hj5
    have hi0 : i = 0 := by interval_cases i <;> first | rfl | exact nomatch hci
    subst hi0
    simp only [calls, List.getElem?_cons_zero, Option.some.injEq, Call.beginFrame.injEq] at hci
    exact ⟨4, _, by decide, by decide, ht, hci.1, by decide⟩
  have hnot : ¬RolledBack past 3 6 1 := by
    rintro ⟨m, s, hm, hm', hget, -⟩
    interval_cases m <;> exact nomatch hcall _ _ hget
  obtain ⟨s₁, h₁⟩ := @hget 3 _ _ rfl (by rw [houtputs]; rfl)
  obtain ⟨s₂, h₂⟩ := @hget 6 _ _ rfl (by rw [houtputs]; rfl)
  have hsafe := (ranges_safe cfg status answers _ hinit calls hsealing).2.2 3 6 1 2 _ _ _ _
    (by decide) ⟨s₁, answers, h₁⟩ ⟨s₂, answers, h₂⟩ hnot x (by simp) x (by simp)
  refine ⟨houtputs, hsafe.resolve_left fun hapart => ?_⟩
  have := hapart rfl
  simp [x] at this

end War3VK.Memory.ShadowArena
