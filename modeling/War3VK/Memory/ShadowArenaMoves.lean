import War3VK.Memory.ShadowArenaSpec

/-!
# The moves of the shadow arena

`Move` sorts the calls by what they do, and `Pages` is kept by every move: no two pages share a buffer,
no buffer ever moves to another place, and cursors stand in pages.
-/

namespace War3VK.Memory.ShadowArena

open Lib

/-! ## Moves -/

/-- Whether a call is `ShadowArena_BeginFrame`. -/
def Call.isBeginFrame : Call → Bool
  | .beginFrame .. => true
  | _ => false

/-- Whether a call is `ShadowArena_BeginBundle` with a transaction object. -/
def Call.isBeginBundle (name : ℕ) : Call → Bool
  | .beginBundle n .. => n = name
  | _ => false

/-- A call that seals the frame of a serial: its `ShadowArena_EndFrame`, or a quarantine, with a serial
that is not zero. -/
def Call.Seals (frameSerial : ℕ) : Call → Prop
  | .endFrame serial => serial = frameSerial ∧ serial ≠ 0
  | .quarantineCurrentGeneration serial => serial ≠ 0
  | _ => False

inductive Move (cfg : Config) (s : State) : Call → Output × State → Prop where
  | skip (call : Call) (ok : Bool) (current : Option ℕ) (transactions : ℕ → Transaction)
      (hcall : call.isBeginFrame = false) (hok : ∀ name, call = .rollbackBundle name → ok = false)
      (hcurrent : ∀ g f, s.current = some g → s.frames[g]? = some f →
        current = s.current ∧ ¬call.Seals f.frameSerial)
      (hgone : current = s.current ∨ current = none)
      (hactive : ∀ n, (transactions n).active →
        transactions n = s.transactions n ∧ call.isBeginBundle n = false) :
      Move cfg s call (.returned ok, { s with current, transactions })
  | close (call : Call) (g serial : ℕ) (f : FrameState) (current : Option ℕ)
      (hcurrent : s.current = some g) (hf : s.frames[g]? = some f)
      (hcall : call = .endFrame serial ∧ serial = f.frameSerial ∧ current = s.current ∨
        call = .quarantineCurrentGeneration serial ∧ serial ≠ 0 ∧ current = none) :
      Move cfg s call (.returned true,
        { s with current, frames := s.frames.set g { f with retireSerial := serial } })
  | refuse (name g : ℕ) (requests : List Request) (answers : ℕ → PageAnswer) (pool : Pool)
      (f f' : FrameState) (transactions : ℕ → Transaction) (hf : s.frames[g]? = some f)
      (hgrows : Grows s.pool f pool f')
      (hactive : ∀ n, (transactions n).active → transactions n = s.transactions n ∧ n ≠ name) :
      Move cfg s (.beginBundle name requests answers) (.returned false,
        { s with
          pool
          frames := s.frames.set g { f' with cursor := f.cursor }
          transactions })
  | throw (name g : ℕ) (requests : List Request) (answers : ℕ → PageAnswer) (pool : Pool)
      (f f' : FrameState) (t : Transaction) (hcurrent : s.current = some g)
      (hf : s.frames[g]? = some f) (hgrows : Grows s.pool f pool f')
      (ht : t.generationIndex = g ∧ t.generation = f.generation ∧ t.start = f.cursor ∧
        t.finish = {}) :
      Move cfg s (.beginBundle name requests answers) (.threw,
        { s with pool, frames := s.frames.set g f' }.setTransaction name t)
  | reserve (name g : ℕ) (requests : List Request) (answers : ℕ → PageAnswer) (pool : Pool)
      (f f' : FrameState) (t : Transaction) (hcurrent : s.current = some g)
      (hf : s.frames[g]? = some f) (hgrows : Grows s.pool f pool f') (hne : requests ≠ [])
      (hlaid : Laid f'.pages f.cursor.place requests t.allocations f'.cursor.place)
      (ht : t.generationIndex = g ∧ t.generation = f.generation ∧ t.start = f.cursor ∧
        t.finish = f'.cursor) :
      Move cfg s (.beginBundle name requests answers) (.reserved t,
        { s with pool, frames := s.frames.set g f' }.setTransaction name t)
  | rollback (name : ℕ) (t t' : Transaction) (f : FrameState) (ht : s.transactions name = t)
      (hf : s.frames[t.generationIndex]? = some f) (hactive : t.active)
      (hcurrent : s.current = some t.generationIndex) (hgeneration : f.generation = t.generation)
      (hcursor : f.cursor = t.finish) (hended : t'.active = false) :
      Move cfg s (.rollbackBundle name) (.returned true,
        { s with frames := s.frames.set t.generationIndex { f with cursor := t.start } }.setTransaction
          name t')
  /-- A frame begins with a generation that can be used again. -/
  | renew (frameSerial completedSerial g : ℕ) (status : MemoryStatus) (answer : PageAnswer)
      (pool : Pool) (f f' : FrameState) (hf : s.frames[g]? = some f)
      (hreuse : f.retireSerial ≤ completedSerial) (hbuffers : pool.buffers = s.pool.buffers)
      (hpages : f'.pages <+: f.pages) (hcursor : f'.cursor = {}) (hretire : f'.retireSerial = 0)
      (hgeneration : f'.generation = s.generationCounter + 1)
      (hserial : f'.frameSerial = frameSerial) :
      Move cfg s (.beginFrame frameSerial completedSerial status answer) (.began g,
        { s with
          current := some g
          frames := s.frames.set g f'
          generationCounter := s.generationCounter + 1
          pool })
  | spill (frameSerial completedSerial : ℕ) (status : MemoryStatus) (answer : PageAnswer)
      (pool : Pool) (f' : FrameState) (hbuffers : pool.buffers = s.pool.buffers + 1)
      (hpages : bufferIds f'.pages <+: [s.pool.buffers]) (hcursor : f'.cursor = {})
      (hretire : f'.retireSerial = 0) (hgeneration : f'.generation = s.generationCounter + 1)
      (hserial : f'.frameSerial = frameSerial) :
      Move cfg s (.beginFrame frameSerial completedSerial status answer) (.began s.frames.length,
        { s with
          current := some s.frames.length
          frames := s.frames ++ [f']
          generationCounter := s.generationCounter + 1
          pool })
  | fail (frameSerial completedSerial : ℕ) (status : MemoryStatus) (answer : PageAnswer)
      (output : Output) (pool : Pool) (current : Option ℕ)
      (houtput : output = .returned false ∨ output = .threw)
      (hcurrent : current = s.current ∨ current = none) (hbuffers : pool.buffers = s.pool.buffers) :
      Move cfg s (.beginFrame frameSerial completedSerial status answer)
        (output, { s with current, pool })

variable {cfg : Config} {s s' : State}

theorem setTransaction_active {name : ℕ} {t : Transaction} (ht : t.active = false) {n : ℕ}
    (h : ((s.setTransaction name t).transactions n).active) :
    (s.setTransaction name t).transactions n = s.transactions n ∧ n ≠ name := by
  by_cases hn : n = name
  · simp [State.setTransaction, hn, ht] at h
  · simp [State.setTransaction, hn]

variable {g : ℕ} {f : FrameState} {call : Call}

theorem current_eq
    (h : (s.current.bind fun index => s.frames[index]?.map (index, ·)) = some (g, f)) :
    s.current = some g ∧ s.frames[g]? = some f := by
  obtain ⟨index, hindex, hmap⟩ := Option.bind_eq_some_iff.mp h
  obtain ⟨f', hf', heq⟩ := Option.map_eq_some_iff.mp hmap
  cases heq
  exact ⟨hindex, hf'⟩

theorem current_none (h : (s.current.bind fun index => s.frames[index]?.map (index, ·)) = none)
    (hg : s.current = some g) : s.frames[g]? ≠ some f := by
  intro hf
  rw [hg, Option.bind_some, hf] at h
  exact nomatch h

theorem move_beginFrame (frameSerial completedSerial : ℕ) (status : MemoryStatus)
    (answer : PageAnswer) : Move cfg s (.beginFrame frameSerial completedSerial status answer)
      (beginFrame cfg frameSerial completedSerial status answer s) := by
  unfold beginFrame
  dsimp only
  generalize hpool : (if s.pool.budgetSnapshotFrameSerial = 0 ∨
      frameSerial < s.pool.budgetSnapshotFrameSerial ∨
      frameSerial - s.pool.budgetSnapshotFrameSerial ≥ arenaBudgetRefreshIntervalFrames then
    Pool.refresh { s.pool with allocationFrameSerial := frameSerial } status frameSerial
    else { s.pool with allocationFrameSerial := frameSerial }) = pool
  have hbuffers : pool.buffers = s.pool.buffers := by
    rw [← hpool]
    split_ifs <;> rfl
  rcases hchoose : chooseGeneration cfg frameSerial completedSerial s.frames with _ | g
  · dsimp only
    have hgrown := allocateArenaPage_grown cfg arenaPageSize answer pool {}
    generalize allocateArenaPage cfg arenaPageSize answer pool {} = result at hgrown ⊢
    cases hgrown with
    | grown p' hbuffers' hminimum =>
      dsimp only
      unfold State.beginAt
      dsimp only
      have hget : (s.frames ++ [FrameState.grow {} (newPage cfg pool {})]).getD s.frames.length {} =
          FrameState.grow {} (newPage cfg pool {}) := by simp
      obtain ⟨h1, h2, h3, h4, h5, h6⟩ := rewind_spec frameSerial completedSerial
        (s.generationCounter + 1) p' (FrameState.grow {} (newPage cfg pool {}))
      rw [hget, List.set_append_right _ _ le_rfl, Nat.sub_self, List.set_cons_zero]
      refine .spill _ _ _ _ _ _ ?_ ?_ h3 h4 h5 h6
      · rw [h1, hbuffers', hbuffers]
      · rw [← hbuffers]
        exact h2.map fun page : Page => page.storage.id
    | failed failure p' hbuffers' =>
      cases failure with
      | refused => exact .fail _ _ _ _ _ _ _ (.inl rfl) (.inr rfl) (hbuffers'.trans hbuffers)
      | threw => exact .fail _ _ _ _ _ _ _ (.inr rfl) (.inl rfl) (hbuffers'.trans hbuffers)
  · obtain ⟨f, hf, hreuse⟩ := chooseGeneration_some hchoose
    dsimp only
    unfold State.beginAt
    dsimp only
    have hget : s.frames.getD g {} = f := by
      rw [List.getD_eq_getElem?_getD, hf]
      rfl
    rw [hget]
    obtain ⟨h1, h2, h3, h4, h5, h6⟩ :=
      rewind_spec frameSerial completedSerial (s.generationCounter + 1) pool f
    exact .renew _ _ _ _ _ _ f _ hf hreuse (h1.trans hbuffers) h2 h3 h4 h5 h6

theorem move_beginBundle (name : ℕ) (requests : List Request) (answers : ℕ → PageAnswer)
    (hoffset : ∀ (g : ℕ) f, s.frames[g]? = some f → f.cursor.offset ≤ arenaPageSize) :
    Move cfg s (.beginBundle name requests answers) (beginBundle cfg name requests answers s) := by
  have hskip : Move cfg s (.beginBundle name requests answers)
      (.returned false, s.setTransaction name {}) := by
    refine .skip _ _ s.current _ rfl (fun _ h => (nomatch h)) (fun _ _ _ _ => ⟨rfl, id⟩) (.inl rfl)
      fun n h => ?_
    obtain ⟨hsame, hne⟩ := setTransaction_active rfl h
    exact ⟨hsame, decide_eq_false hne.symm⟩
  unfold beginBundle
  split_ifs with hcount
  · exact hskip
  · rcases hcurrent : s.current.bind fun index => s.frames[index]?.map (index, ·) with _ | ⟨g, f⟩
    · exact hskip
    · obtain ⟨hg, hf⟩ := current_eq hcurrent
      obtain ⟨hgrows, hlaid⟩ := @allocateBundle_spec cfg s.pool f requests answers (hoffset g f hf)
      dsimp only
      generalize allocateBundle cfg answers requests s.pool f = result at hgrows hlaid ⊢
      obtain ⟨failure, ranges, pool, f'⟩ := result
      rcases failure with _ | failure
      · refine .reserve _ _ _ _ _ f f' _ hg hf hgrows ?_ (hlaid rfl) ⟨rfl, rfl, rfl, rfl⟩
        rintro rfl
        exact hcount (.inl rfl)
      · cases failure with
        | refused =>
          exact .refuse _ _ _ _ _ f f' _ hf hgrows fun n h => setTransaction_active rfl h
        | threw => exact .throw _ _ _ _ _ f f' _ hg hf hgrows ⟨rfl, rfl, rfl, rfl⟩

theorem move_deactivate {ok : Bool} {name : ℕ} {t : Transaction}
    (hcall : call = .commitBundle name ∨ call = .rollbackBundle name ∧ ok = false)
    (ht : t.active = false) : Move cfg s call (.returned ok, s.setTransaction name t) := by
  have hnot : call.isBeginFrame = false ∧ (∀ n, call.isBeginBundle n = false) ∧
      (∀ serial, ¬call.Seals serial) ∧ ∀ n, call = .rollbackBundle n → ok = false := by
    rcases hcall with rfl | ⟨rfl, hok⟩
    · exact ⟨rfl, fun _ => rfl, fun _ => id, fun _ h => (nomatch h)⟩
    · exact ⟨rfl, fun _ => rfl, fun _ => id, fun _ _ => hok⟩
  exact .skip _ _ s.current _ hnot.1 hnot.2.2.2 (fun _ _ _ _ => ⟨rfl, hnot.2.2.1 _⟩) (.inl rfl)
    fun n h => ⟨(setTransaction_active ht h).1, hnot.2.1 n⟩

theorem move_skip {current : Option ℕ} (hcall : call.isBeginFrame = false)
    (hbundle : ∀ n, call.isBeginBundle n = false)
    (hcurrent : ∀ g f, s.current = some g → s.frames[g]? = some f →
      current = s.current ∧ ¬call.Seals f.frameSerial)
    (hgone : current = s.current ∨ current = none) :
    Move cfg s call (.returned false, { s with current }) :=
  .skip call false current s.transactions hcall (fun _ _ => rfl) hcurrent hgone
    fun n _ => ⟨rfl, hbundle n⟩

theorem move_step (call : Call)
    (hoffset : ∀ (g : ℕ) f, s.frames[g]? = some f → f.cursor.offset ≤ arenaPageSize) :
    Move cfg s call (step cfg call s) := by
  cases call with
  | beginFrame frameSerial completedSerial status answer => exact move_beginFrame _ _ _ _
  | endFrame frameSerial =>
    unfold step endFrame
    dsimp only
    rcases hcurrent : s.current.bind fun index => s.frames[index]?.map (index, ·) with _ | ⟨g, f⟩
    · exact move_skip rfl (fun _ => rfl)
        (fun _ _ hg hf => absurd hf (current_none hcurrent hg)) (.inl rfl)
    · obtain ⟨hg, hf⟩ := current_eq hcurrent
      dsimp only
      split_ifs with hserial
      · refine move_skip rfl (fun _ => rfl) (fun g' f' hg' hf' => ⟨rfl, fun hseals => ?_⟩) (.inl rfl)
        rw [hg] at hg'
        cases hg'
        rw [hf] at hf'
        cases hf'
        exact hserial hseals.1.symm
      · rw [not_not] at hserial
        exact .close _ g _ f s.current hg hf (.inl ⟨rfl, hserial.symm, rfl⟩)
  | quarantineCurrentGeneration retireSerial =>
    unfold step quarantineCurrentGeneration
    dsimp only
    split_ifs with hzero
    · exact move_skip rfl (fun _ => rfl) (fun _ _ _ _ => ⟨rfl, fun hseals => hseals hzero⟩) (.inl rfl)
    · rcases hcurrent : s.current.bind fun index => s.frames[index]?.map (index, ·) with _ | ⟨g, f⟩
      · exact move_skip rfl (fun _ => rfl)
          (fun _ _ hg hf => absurd hf (current_none hcurrent hg)) (.inr rfl)
      · obtain ⟨hg, hf⟩ := current_eq hcurrent
        exact .close _ g _ f none hg hf (.inr ⟨rfl, hzero, rfl⟩)
  | beginBundle name requests answers => exact move_beginBundle _ _ _ hoffset
  | commitBundle name =>
    have hskip : Move cfg s (.commitBundle name) (.returned false, { s with current := s.current }) :=
      move_skip rfl (fun _ => rfl) (fun _ _ _ _ => ⟨rfl, id⟩) (.inl rfl)
    unfold step commitBundle
    dsimp only
    rcases s.frames[(s.transactions name).generationIndex]? with _ | f
    · exact hskip
    · dsimp only
      split_ifs
      · exact hskip
      · exact move_deactivate (.inl rfl) rfl
  | rollbackBundle name =>
    have hskip : Move cfg s (.rollbackBundle name)
        (.returned false, { s with current := s.current }) :=
      move_skip rfl (fun _ => rfl) (fun _ _ _ _ => ⟨rfl, id⟩) (.inl rfl)
    unfold step rollbackBundle
    dsimp only
    rcases hf : s.frames[(s.transactions name).generationIndex]? with _ | f
    · exact hskip
    · dsimp only
      split_ifs with hactive howner
      · exact hskip
      · exact move_deactivate (.inr ⟨rfl, rfl⟩) rfl
      · simp only [State.exactOwner, Bool.not_eq_true', decide_eq_false_iff_not, not_not] at howner
        simp only [Bool.not_eq_true', Bool.not_eq_false] at hactive
        exact .rollback name _ _ f rfl hf hactive howner.1 howner.2.1 howner.2.2 rfl

/-! ## Pages -/

def pageAt (frames : List FrameState) (g p : ℕ) : Option Page :=
  frames[g]?.bind fun f => f.pages[p]?

variable {frames : List FrameState} {f' : FrameState}

theorem pageAt_eq {p : ℕ} (hf : frames[g]? = some f) : pageAt frames g p = f.pages[p]? := by
  rw [pageAt, hf, Option.bind_some]

theorem pageAt_set {h p : ℕ} (hf : frames[g]? = some f) :
    pageAt (frames.set g f') h p = if h = g then f'.pages[p]? else pageAt frames h p := by
  have hlt := (List.getElem?_eq_some_iff.mp hf).1
  unfold pageAt
  rw [List.getElem?_set]
  split_ifs with hgh hhg hhg
  · rfl
  · exact absurd hgh.symm hhg
  · exact absurd hhg.symm hgh
  · rfl

structure Pages (s : State) : Prop where
  bound : ∀ g p page, pageAt s.frames g p = some page → page.storage.id < s.pool.buffers
  distinct : ∀ g p page h q page', pageAt s.frames g p = some page →
    pageAt s.frames h q = some page' → page.storage.id = page'.storage.id → g = h ∧ p = q
  offset : ∀ (g : ℕ) f, s.frames[g]? = some f → f.cursor.offset ≤ arenaPageSize
  start : ∀ n, (s.transactions n).active → (s.transactions n).start.offset ≤ arenaPageSize

/-- What a call may do to the pages: all that are there were there before, in the same places, or are
new ones at the end of one generation, with the next buffers. -/
def Renewed (s s' : State) : Prop :=
  s.pool.buffers ≤ s'.pool.buffers ∧ ∃ g₀ p₀, ∀ g p page, pageAt s'.frames g p = some page →
    pageAt s.frames g p = some page ∨
      g = g₀ ∧ p₀ ≤ p ∧ page.storage.id = s.pool.buffers + (p - p₀) ∧
        page.storage.id < s'.pool.buffers

theorem renewed_of_old (hbuffers : s'.pool.buffers = s.pool.buffers)
    (h : ∀ g p page, pageAt s'.frames g p = some page → pageAt s.frames g p = some page) :
    Renewed s s' :=
  ⟨hbuffers.ge, 0, 0, fun g p page hpage => .inl (h g p page hpage)⟩

theorem prefix_getElem? {α : Type} {l l' : List α} (h : l <+: l') {k : ℕ} {a : α}
    (ha : l[k]? = some a) : l'[k]? = some a := by
  obtain ⟨more, rfl⟩ := h
  rwa [List.getElem?_append_left (List.getElem?_eq_some_iff.mp ha).1]

theorem renewed_set (hbuffers : s'.pool.buffers = s.pool.buffers) (hf : s.frames[g]? = some f)
    (hframes : s'.frames = s.frames.set g f') (hpages : f'.pages <+: f.pages) : Renewed s s' := by
  refine renewed_of_old hbuffers fun h p page hpage => ?_
  rw [hframes, pageAt_set hf] at hpage
  split_ifs at hpage with hh
  · rw [hh, pageAt_eq hf]
    exact prefix_getElem? hpages hpage
  · exact hpage

theorem renewed_grows {f'' : FrameState} (hf : s.frames[g]? = some f)
    (hframes : s'.frames = s.frames.set g f'') (hpages : f''.pages = f'.pages)
    (hgrows : Grows s.pool f s'.pool f') : Renewed s s' := by
  obtain ⟨more, hmore, hids, hbuffers⟩ := hgrows.pages
  refine ⟨by omega, g, f.pages.length, fun h p page hpage => ?_⟩
  rw [hframes, pageAt_set hf, hpages, hmore] at hpage
  split_ifs at hpage with hh
  · rcases Nat.lt_or_ge p f.pages.length with hp | hp
    · rw [List.getElem?_append_left hp] at hpage
      rw [hh, pageAt_eq hf]
      exact .inl hpage
    · rw [List.getElem?_append_right hp] at hpage
      have hlt := (List.getElem?_eq_some_iff.mp hpage).1
      have hid : (bufferIds more)[p - f.pages.length]? = some page.storage.id := by
        rw [bufferIds, List.getElem?_map, hpage]
        rfl
      rw [hids, List.getElem?_range' hlt, Nat.one_mul, Option.some.injEq] at hid
      exact .inr ⟨hh, hp, hid.symm, by omega⟩
  · exact .inl hpage

theorem renewed_move {o : Output} (hm : Move cfg s call (o, s')) : Renewed s s' := by
  cases hm with
  | skip => exact renewed_of_old rfl fun _ _ _ h => h
  | fail => exact renewed_of_old (by assumption) fun _ _ _ h => h
  | close _ g serial f current hcurrent hf hcall =>
    exact renewed_set rfl hf rfl List.prefix_rfl
  | rollback name t t' f ht hf hactive hcurrent hgeneration hcursor hended =>
    exact renewed_set rfl hf rfl List.prefix_rfl
  | refuse name g requests answers pool f f' transactions hf hgrows hactive =>
    exact @renewed_grows s _ g f f' _ hf rfl rfl hgrows
  | throw name g requests answers pool f f' t hcurrent hf hgrows ht =>
    exact renewed_grows hf rfl rfl hgrows
  | reserve name g requests answers pool f f' t hcurrent hf hgrows hne hlaid ht =>
    exact renewed_grows hf rfl rfl hgrows
  | renew frameSerial completedSerial g status answer pool f f' hf hreuse hbuffers hpages =>
    exact renewed_set hbuffers hf rfl hpages
  | spill frameSerial completedSerial status answer pool f' hbuffers hpages =>
    refine ⟨by show _ ≤ pool.buffers; omega, s.frames.length, 0, fun g p page hpage => ?_⟩
    simp only [pageAt] at hpage ⊢
    rcases Nat.lt_trichotomy g s.frames.length with hg | rfl | hg
    · rw [List.getElem?_append_left hg] at hpage
      exact .inl hpage
    · rw [List.getElem?_concat_length, Option.bind_some] at hpage
      have hid : (bufferIds f'.pages)[p]? = some page.storage.id := by
        rw [bufferIds, List.getElem?_map, hpage]
        rfl
      have hid' := prefix_getElem? hpages hid
      rw [List.getElem?_singleton] at hid'
      split_ifs at hid' with hp
      rw [Option.some.injEq] at hid'
      exact .inr ⟨rfl, Nat.zero_le _, by omega, by show _ < pool.buffers; omega⟩
    · rw [List.getElem?_eq_none (by simpa using hg)] at hpage
      cases hpage

theorem set_cases {h : ℕ} {x : FrameState} (hx : (frames.set g f')[h]? = some x) :
    h = g ∧ x = f' ∨ h ≠ g ∧ frames[h]? = some x := by
  rw [List.getElem?_set] at hx
  split_ifs at hx with hgh hlt
  · exact .inl ⟨hgh.symm, (Option.some.inj hx).symm⟩
  · exact .inr ⟨fun hhg => hgh hhg.symm, hx⟩

theorem setTransaction_cases {name n : ℕ} {t : Transaction} :
    n = name ∧ (s.setTransaction name t).transactions n = t ∨
      n ≠ name ∧ (s.setTransaction name t).transactions n = s.transactions n := by
  by_cases hn : n = name
  · exact .inl ⟨hn, if_pos hn⟩
  · exact .inr ⟨hn, if_neg hn⟩

theorem pages_move_cursors {o : Output} (h : Pages s) (hm : Move cfg s call (o, s')) :
    (∀ (g : ℕ) f, s'.frames[g]? = some f → f.cursor.offset ≤ arenaPageSize) ∧
      ∀ n, (s'.transactions n).active → (s'.transactions n).start.offset ≤ arenaPageSize := by
  cases hm with
  | skip _ _ current transactions hcall hok hcurrent hgone hactive =>
    refine ⟨h.offset, fun n hn => ?_⟩
    have hsame := (hactive n hn).1
    show (transactions n).start.offset ≤ _
    rw [hsame]
    exact h.start n (hsame ▸ hn)
  | fail => exact ⟨h.offset, h.start⟩
  | close _ g serial f current hcurrent hf hcall =>
    refine ⟨fun g' x hx => ?_, h.start⟩
    rcases set_cases hx with ⟨-, rfl⟩ | ⟨-, hx⟩
    · exact h.offset g f hf
    · exact h.offset g' x hx
  | rollback name t t' f ht hf hactive hcurrent hgeneration hcursor hended =>
    refine ⟨fun g' x hx => ?_, fun n hn => ?_⟩
    · rcases set_cases hx with ⟨-, rfl⟩ | ⟨-, hx⟩
      · have := h.start name (by rw [ht]; exact hactive)
        rwa [ht] at this
      · exact h.offset g' x hx
    · obtain ⟨hsame, -⟩ := setTransaction_active hended hn
      rw [hsame] at hn ⊢
      exact h.start n hn
  | refuse name g requests answers pool f f' transactions hf hgrows hactive =>
    refine ⟨fun g' x hx => ?_, fun n hn => ?_⟩
    · rcases set_cases hx with ⟨-, rfl⟩ | ⟨-, hx⟩
      · exact h.offset g f hf
      · exact h.offset g' x hx
    · have hsame := (hactive n hn).1
      show (transactions n).start.offset ≤ _
      rw [hsame]
      exact h.start n (hsame ▸ hn)
  | throw name g requests answers pool f f' t hcurrent hf hgrows ht
  | reserve name g requests answers pool f f' t hcurrent hf hgrows hne hlaid ht =>
    refine ⟨fun g' x hx => ?_, fun n hn => ?_⟩
    · rcases set_cases hx with ⟨-, rfl⟩ | ⟨-, hx⟩
      · exact hgrows.offset (h.offset g f hf)
      · exact h.offset g' x hx
    · rcases @setTransaction_cases { s with pool, frames := s.frames.set g f' } name n t with
        ⟨-, hset⟩ | ⟨-, hset⟩
      · rw [hset, ht.2.2.1]
        exact h.offset g f hf
      · rw [hset] at hn ⊢
        exact h.start n hn
  | renew frameSerial completedSerial g status answer pool f f' hf hreuse hbuffers hpages hcursor =>
    refine ⟨fun g' x hx => ?_, h.start⟩
    rcases set_cases hx with ⟨-, rfl⟩ | ⟨-, hx⟩
    · rw [hcursor]
      exact Nat.zero_le _
    · exact h.offset g' x hx
  | spill frameSerial completedSerial status answer pool f' hbuffers hpages hcursor =>
    refine ⟨fun g' x hx => ?_, h.start⟩
    rcases Nat.lt_or_ge g' s.frames.length with hg | hg
    · rw [List.getElem?_append_left hg] at hx
      exact h.offset g' x hx
    · rw [List.getElem?_append_right hg, List.getElem?_singleton] at hx
      split_ifs at hx
      cases hx
      rw [hcursor]
      exact Nat.zero_le _

theorem pages_move {o : Output} (h : Pages s) (hm : Move cfg s call (o, s')) : Pages s' := by
  obtain ⟨hbuffers, g₀, p₀, hrenewed⟩ := renewed_move hm
  constructor
  · intro g p page hpage
    rcases hrenewed g p page hpage with hold | ⟨-, -, -, hlt⟩
    · exact (h.bound g p page hold).trans_le hbuffers
    · exact hlt
  · intro g p page g' p' page' hpage hpage' hid
    rcases hrenewed g p page hpage with hold | ⟨hg, hp, hnew, -⟩ <;>
      rcases hrenewed g' p' page' hpage' with hold' | ⟨hg', hp', hnew', -⟩
    · exact h.distinct g p page g' p' page' hold hold' hid
    · have := h.bound g p page hold
      omega
    · have := h.bound g' p' page' hold'
      omega
    · exact ⟨by omega, by omega⟩
  · exact (pages_move_cursors h hm).1
  · exact (pages_move_cursors h hm).2

end War3VK.Memory.ShadowArena

/-!
## What happens in the shadow arena

The history of a run: which bundles were reserved and rolled back, which generations were sealed and
rewound. Over every run whose frames are sealed (`Sealing`), a generation that was used is sealed or
open (`Sealed`).
-/

namespace War3VK.Memory.ShadowArena

open Lib

/-! ### What happened -/

abbrev Event := Record State Call Output

def Reserved (past : List Event) (i name : ℕ) (requests : List Request) (t : Transaction) : Prop :=
  ∃ s answers, past[i]? = some ⟨s, .beginBundle name requests answers, .reserved t⟩

/-- The bundle that a transaction object got at an index was rolled back before another. -/
def RolledBack (past : List Event) (i j name : ℕ) : Prop :=
  ∃ m s, i < m ∧ m < j ∧ past[m]? = some ⟨s, .rollbackBundle name, .returned true⟩ ∧
    ∀ k r, i < k → k < m → past[k]? = some r → r.call.isBeginBundle name = false

def SealedBy (past : List Event) (m g generation serial : ℕ) : Prop :=
  ∃ q s call f, q < m ∧ past[q]? = some ⟨s, call, .returned true⟩ ∧ s.current = some g ∧
    s.frames[g]? = some f ∧ f.generation = generation ∧
      (call = .endFrame serial ∧ f.frameSerial = serial ∨ call = .quarantineCurrentGeneration serial)

/-- A generation was rewound between two indices, when it had been sealed with a retire serial that
was already completed. -/
def Rewound (past : List Event) (i j g generation : ℕ) : Prop :=
  ∃ m s frameSerial completedSerial status answer f, i < m ∧ m < j ∧
    past[m]? = some ⟨s, .beginFrame frameSerial completedSerial status answer, .began g⟩ ∧
      s.frames[g]? = some f ∧ f.generation = generation ∧ f.retireSerial ≠ 0 ∧
        f.retireSerial ≤ completedSerial ∧ SealedBy past m g generation f.retireSerial

/-- Each frame that begins is sealed before the next one is asked for. -/
def Sealing (past : List Event) : Prop :=
  ∀ (i j : ℕ) s frameSerial completedSerial status answer g (r : Event),
    past[i]? = some ⟨s, .beginFrame frameSerial completedSerial status answer, .began g⟩ → i < j →
      past[j]? = some r → r.call.isBeginFrame → ∃ (m : ℕ) (r' : Event), i < m ∧ m < j ∧ past[m]? = some r' ∧
        r'.call.Seals frameSerial

variable {cfg : Config} {s s' : State} {past : List Event} {r : Event} {call : Call} {o : Output}

variable {m name i : ℕ} {t : Transaction} {requests : List Request}

theorem getElem?_concat_of_lt (hm : m < past.length) : (past ++ [r])[m]? = past[m]? :=
  List.getElem?_append_left hm

theorem getElem?_concat {x : Event} (h : (past ++ [r])[m]? = some x) :
    m < past.length ∧ past[m]? = some x ∨ m = past.length ∧ x = r := by
  rcases Nat.lt_trichotomy m past.length with hm | rfl | hm
  · rw [getElem?_concat_of_lt hm] at h
    exact .inl ⟨hm, h⟩
  · rw [List.getElem?_concat_length] at h
    exact .inr ⟨rfl, (Option.some.inj h).symm⟩
  · rw [List.getElem?_eq_none (by simpa using hm)] at h
    exact nomatch h

theorem getElem?_concat_of_some {x : Event} (h : past[m]? = some x) :
    (past ++ [r])[m]? = some x := by
  rw [getElem?_concat_of_lt (List.getElem?_eq_some_iff.mp h).1]
  exact h

theorem reserved_concat (h : Reserved (past ++ [r]) i name requests t) :
    Reserved past i name requests t ∨ i = past.length ∧
      ∃ s answers, r = ⟨s, .beginBundle name requests answers, .reserved t⟩ := by
  obtain ⟨s, answers, hi⟩ := h
  rcases getElem?_concat hi with ⟨-, hi⟩ | ⟨hi, hr⟩
  · exact .inl ⟨s, answers, hi⟩
  · exact .inr ⟨hi, s, answers, hr.symm⟩

theorem Reserved.lt (h : Reserved past i name requests t) : i < past.length := by
  obtain ⟨s, answers, hi⟩ := h
  exact (List.getElem?_eq_some_iff.mp hi).1

theorem Reserved.concat (h : Reserved past i name requests t) :
    Reserved (past ++ [r]) i name requests t := by
  obtain ⟨s, answers, hi⟩ := h
  exact ⟨s, answers, getElem?_concat_of_some hi⟩

theorem RolledBack.concat {j j' : ℕ} (h : RolledBack past i j name) (hj : j ≤ j') :
    RolledBack (past ++ [r]) i j' name := by
  obtain ⟨m, s, him, hmj, hm, hnone⟩ := h
  refine ⟨m, s, him, hmj.trans_le hj, getElem?_concat_of_some hm, fun k x hik hkm hx => ?_⟩
  rw [getElem?_concat_of_lt (hkm.trans (List.getElem?_eq_some_iff.mp hm).1)] at hx
  exact hnone k x hik hkm hx

theorem RolledBack.of_concat {j : ℕ} (h : RolledBack (past ++ [r]) i j name)
    (hj : j ≤ past.length) : RolledBack past i j name := by
  obtain ⟨m, s, him, hmj, hm, hnone⟩ := h
  rw [getElem?_concat_of_lt (hmj.trans_le hj)] at hm
  refine ⟨m, s, him, hmj, hm, fun k x hik hkm hx => ?_⟩
  exact hnone k x hik hkm (getElem?_concat_of_some hx)

theorem SealedBy.concat {m' g generation serial : ℕ} (h : SealedBy past m g generation serial)
    (hm : m ≤ m') : SealedBy (past ++ [r]) m' g generation serial := by
  obtain ⟨q, s, call, f, hq, hget, hrest⟩ := h
  exact ⟨q, s, call, f, hq.trans_le hm, getElem?_concat_of_some hget, hrest⟩

theorem Rewound.concat {j j' g generation : ℕ} (h : Rewound past i j g generation) (hj : j ≤ j') :
    Rewound (past ++ [r]) i j' g generation := by
  obtain ⟨m, s, frameSerial, completedSerial, status, answer, f, him, hmj, hm, hf, hgen, hne, hle,
    hsealed⟩ := h
  exact ⟨m, s, frameSerial, completedSerial, status, answer, f, him, hmj.trans_le hj,
    getElem?_concat_of_some hm, hf, hgen, hne, hle, hsealed.concat le_rfl⟩

theorem Sealing.of_concat (h : Sealing (past ++ [r])) : Sealing past := by
  intro i j s frameSerial completedSerial status answer g x hi hij hj hcall
  obtain ⟨m, x', him, hmj, hm, hseals⟩ := h i j s frameSerial completedSerial status answer g x
    (getElem?_concat_of_some hi) hij (getElem?_concat_of_some hj) hcall
  have hlt := hmj.trans (List.getElem?_eq_some_iff.mp hj).1
  rw [getElem?_concat_of_lt hlt] at hm
  exact ⟨m, x', him, hmj, hm, hseals⟩

/-! ### Sealed generations -/

structure Sealed (past : List Event) (s : State) : Prop where
  /-- One that is not sealed is the current one, and no call after the start of its frame seals it. -/
  unsealed : ∀ (g : ℕ) (f : FrameState), s.frames[g]? = some f → f.generation ≠ 0 → f.retireSerial = 0 →
    s.current = some g ∧ ∃ (i : ℕ) (s₀ : State) (completedSerial : ℕ) (status : MemoryStatus)
        (answer : PageAnswer),
      past[i]? = some ⟨s₀, .beginFrame f.frameSerial completedSerial status answer, .began g⟩ ∧
        ∀ (m : ℕ) (r : Event), i < m → past[m]? = some r → ¬r.call.Seals f.frameSerial
  /-- One that has a retire serial was sealed with it. -/
  closed : ∀ (g : ℕ) (f : FrameState), s.frames[g]? = some f → f.retireSerial ≠ 0 →
    SealedBy past past.length g f.generation f.retireSerial
  used : ∀ (g : ℕ) (f : FrameState), s.current = some g → s.frames[g]? = some f → f.generation ≠ 0
  /-- When it is sealed, then by the end of its frame. -/
  ended : ∀ (g : ℕ) (f : FrameState), s.current = some g → s.frames[g]? = some f →
    f.retireSerial ≠ 0 → f.retireSerial = f.frameSerial

theorem Sealed.all (h : Sealed past s) (hsealing : Sealing (past ++ [r]))
    (hr : r.call.isBeginFrame) {g : ℕ} {f : FrameState} (hf : s.frames[g]? = some f)
    (hgen : f.generation ≠ 0) : f.retireSerial ≠ 0 := by
  intro hzero
  obtain ⟨-, i, s₀, completedSerial, status, answer, hi, hnone⟩ := h.unsealed g f hf hgen hzero
  have hlt := (List.getElem?_eq_some_iff.mp hi).1
  obtain ⟨m, r', him, hm, hget, hseals⟩ := hsealing i past.length s₀ _ _ _ _ g r
    (getElem?_concat_of_some hi) hlt (List.getElem?_concat_length) hr
  rw [getElem?_concat_of_lt hm] at hget
  exact hnone m r' him hget hseals

theorem Sealed.frame (h : Sealed past s)
    (hframes : ∀ (g : ℕ) f', s'.frames[g]? = some f' → ∃ f, s.frames[g]? = some f ∧
      f'.generation = f.generation ∧ f'.retireSerial = f.retireSerial ∧ f'.frameSerial = f.frameSerial)
    (hcurrent : ∀ (g : ℕ) f, s.current = some g → s.frames[g]? = some f →
      s'.current = s.current ∧ ¬r.call.Seals f.frameSerial)
    (hgone : s'.current = s.current ∨ s'.current = none) : Sealed (past ++ [r]) s' where
  unsealed g f' hf' hgen hzero := by
    obtain ⟨f, hf, hgeneration, hretire, hserial⟩ := hframes g f' hf'
    rw [hgeneration] at hgen
    rw [hretire] at hzero
    obtain ⟨hg, i, s₀, completedSerial, status, answer, hi, hnone⟩ := h.unsealed g f hf hgen hzero
    obtain ⟨hsame, hnot⟩ := hcurrent g f hg hf
    rw [hserial]
    refine ⟨hsame.trans hg, i, s₀, completedSerial, status, answer, getElem?_concat_of_some hi,
      fun m x him hx => ?_⟩
    rcases getElem?_concat hx with ⟨-, hx⟩ | ⟨-, rfl⟩
    · exact hnone m x him hx
    · exact hnot
  closed g f' hf' hne := by
    obtain ⟨f, hf, hgeneration, hretire, -⟩ := hframes g f' hf'
    rw [hretire] at hne ⊢
    rw [hgeneration]
    exact (h.closed g f hf hne).concat (by simp)
  used g f' hg hf' := by
    obtain ⟨f, hf, hgeneration, -⟩ := hframes g f' hf'
    rw [hgeneration]
    rcases hgone with hsame | hnone
    · exact h.used g f (hsame ▸ hg) hf
    · rw [hnone] at hg
      exact nomatch hg
  ended g f' hg hf' := by
    obtain ⟨f, hf, -, hretire, hserial⟩ := hframes g f' hf'
    rw [hretire, hserial]
    rcases hgone with hsame | hnone
    · exact h.ended g f (hsame ▸ hg) hf
    · rw [hnone] at hg
      exact nomatch hg

theorem Sealed.set (h : Sealed past s) {g : ℕ} {f f' : FrameState} (hf : s.frames[g]? = some f)
    (hframes : s'.frames = s.frames.set g f')
    (hsame : f'.generation = f.generation ∧ f'.retireSerial = f.retireSerial ∧
      f'.frameSerial = f.frameSerial)
    (hcurrent : s'.current = s.current) (hcall : ∀ serial, ¬r.call.Seals serial) :
    Sealed (past ++ [r]) s' := by
  refine h.frame (fun g' x hx => ?_) (fun _ _ _ _ => ⟨hcurrent, hcall _⟩) (.inl hcurrent)
  rw [hframes] at hx
  rcases set_cases hx with ⟨rfl, rfl⟩ | ⟨-, hx⟩
  · exact ⟨f, hf, hsame⟩
  · exact ⟨x, hx, rfl, rfl, rfl⟩

theorem Sealed.begin_frame (h : Sealed past s) {frameSerial completedSerial g : ℕ}
    {status : MemoryStatus} {answer : PageAnswer} {f' : FrameState}
    (hsealing : Sealing
      (past ++ [⟨s, .beginFrame frameSerial completedSerial status answer, .began g⟩]))
    (hcurrent : s'.current = some g) (hget : s'.frames[g]? = some f')
    (hothers : ∀ (h : ℕ) x, h ≠ g → s'.frames[h]? = some x → s.frames[h]? = some x)
    (hf' : f'.retireSerial = 0 ∧ f'.generation ≠ 0 ∧ f'.frameSerial = frameSerial) :
    Sealed (past ++ [⟨s, .beginFrame frameSerial completedSerial status answer, .began g⟩]) s' where
  unsealed g' x hx hgen hzero := by
    by_cases hg : g' = g
    · rw [hg, hget, Option.some.injEq] at hx
      rw [← hx, hf'.2.2, hg]
      refine ⟨hcurrent, past.length, s, completedSerial, status, answer, ?_, fun m x hm hx => ?_⟩
      · exact List.getElem?_concat_length
      · rw [List.getElem?_eq_none (by simpa using hm)] at hx
        exact nomatch hx
    · exact absurd hzero (h.all hsealing rfl (hothers g' x hg hx) hgen)
  closed g' x hx hne := by
    by_cases hg : g' = g
    · rw [hg, hget, Option.some.injEq] at hx
      exact absurd (hx ▸ hf'.1) hne
    · exact (h.closed g' x (hothers g' x hg hx) hne).concat (by simp)
  used g' x hg hx := by
    rw [hcurrent, Option.some.injEq] at hg
    rw [← hg, hget, Option.some.injEq] at hx
    exact hx ▸ hf'.2.1
  ended g' x hg hx hne := by
    rw [hcurrent, Option.some.injEq] at hg
    rw [← hg, hget, Option.some.injEq] at hx
    exact absurd (hx ▸ hf'.1) hne

theorem sealed_move (h : Sealed past s) (hm : Move cfg s call (o, s'))
    (hsealing : Sealing (past ++ [⟨s, call, o⟩])) : Sealed (past ++ [⟨s, call, o⟩]) s' := by
  cases hm with
  | skip _ ok current transactions hcall hok hcurrent hgone hactive =>
    exact h.frame (fun g x hx => ⟨x, hx, rfl, rfl, rfl⟩) hcurrent hgone
  | close _ g serial f current hcurrent hf hcall =>
    constructor
    · intro g' x hx hgen hzero
      rcases set_cases hx with ⟨rfl, rfl⟩ | ⟨hne, hx⟩
      · rcases hcall with ⟨rfl, hserial, hsame⟩ | ⟨-, hne, -⟩
        · -- The end of a frame with serial zero seals nothing.
          have hretire : f.retireSerial = 0 := by
            by_contra hne
            have := h.ended g' f hcurrent hf hne
            exact hne (this.trans (hserial.symm.trans hzero))
          obtain ⟨-, i, s₀, completedSerial, status, answer, hi, hnone⟩ :=
            h.unsealed g' f hf hgen hretire
          refine ⟨hsame.trans hcurrent, i, s₀, completedSerial, status, answer,
            getElem?_concat_of_some hi, fun m r him hr => ?_⟩
          rcases getElem?_concat hr with ⟨-, hr⟩ | ⟨-, rfl⟩
          · exact hnone m r him hr
          · exact fun hseals => hseals.2 hzero
        · exact absurd hzero hne
      · obtain ⟨hg, -⟩ := h.unsealed g' x hx hgen hzero
        rw [hcurrent, Option.some.injEq] at hg
        exact absurd hg.symm hne
    · intro g' x hx hne
      rcases set_cases hx with ⟨rfl, rfl⟩ | ⟨-, hx⟩
      · refine ⟨past.length, s, call, f, by simp, List.getElem?_concat_length, hcurrent, hf, rfl, ?_⟩
        rcases hcall with ⟨rfl, hserial, -⟩ | ⟨rfl, -, -⟩
        · exact .inl ⟨rfl, hserial.symm⟩
        · exact .inr rfl
      · exact (h.closed g' x hx hne).concat (by simp)
    · intro g' x hg hx
      rcases hcall with ⟨-, -, hsame⟩ | ⟨-, -, hnone⟩
      · rcases set_cases hx with ⟨rfl, rfl⟩ | ⟨-, hx⟩
        · exact h.used g' f hcurrent hf
        · exact h.used g' x (hsame ▸ hg) hx
      · exact nomatch hnone.symm.trans hg
    · intro g' x hg hx hne
      rcases hcall with ⟨-, hserial, hsame⟩ | ⟨-, -, hnone⟩
      · rcases set_cases hx with ⟨rfl, rfl⟩ | ⟨-, hx⟩
        · exact hserial
        · exact h.ended g' x (hsame ▸ hg) hx hne
      · exact nomatch hnone.symm.trans hg
  | refuse name g requests answers pool f f' transactions hf hgrows hactive =>
    exact h.set hf rfl hgrows.same rfl fun _ => id
  | throw name g requests answers pool f f' t hcurrent hf hgrows ht =>
    exact h.set hf rfl hgrows.same rfl fun _ => id
  | reserve name g requests answers pool f f' t hcurrent hf hgrows hne hlaid ht =>
    exact h.set hf rfl hgrows.same rfl fun _ => id
  | rollback name t t' f ht hf hactive hcurrent hgeneration hcursor hended =>
    exact h.set hf rfl ⟨rfl, rfl, rfl⟩ rfl fun _ => id
  | renew frameSerial completedSerial g status answer pool f f' hf hreuse hbuffers hpages hcursor
      hretire hgeneration hserial =>
    have hget : (s.frames.set g f')[g]? = some f' :=
      List.getElem?_set_self (List.getElem?_eq_some_iff.mp hf).1
    refine h.begin_frame hsealing rfl hget (fun g' x hg hx => ?_) ⟨hretire, ?_, hserial⟩
    · rcases set_cases hx with ⟨h, -⟩ | ⟨-, hx⟩
      · exact absurd h hg
      · exact hx
    · rw [hgeneration]
      exact Nat.succ_ne_zero _
  | spill frameSerial completedSerial status answer pool f' hbuffers hpages hcursor hretire
      hgeneration hserial =>
    have hget : (s.frames ++ [f'])[s.frames.length]? = some f' := List.getElem?_concat_length
    refine h.begin_frame hsealing rfl hget (fun g' x hg hx => ?_) ⟨hretire, ?_, hserial⟩
    · rcases Nat.lt_or_ge g' s.frames.length with hlt | hge
      · rwa [List.getElem?_append_left hlt] at hx
      · rw [List.getElem?_append_right hge, List.getElem?_singleton] at hx
        split_ifs at hx with h0
        exact absurd (by omega) hg
    · rw [hgeneration]
      exact Nat.succ_ne_zero _
  | fail frameSerial completedSerial status answer _ pool current houtput hcurrent hbuffers =>
    constructor
    · intro g f hf hgen hzero
      exact absurd hzero (h.all hsealing rfl hf hgen)
    · intro g f hf hne
      exact (h.closed g f hf hne).concat (by simp)
    · intro g f hg hf
      rcases hcurrent with rfl | rfl
      · exact h.used g f hg hf
      · exact nomatch hg
    · intro g f hg hf
      rcases hcurrent with rfl | rfl
      · exact h.ended g f hg hf
      · exact nomatch hg

end War3VK.Memory.ShadowArena
