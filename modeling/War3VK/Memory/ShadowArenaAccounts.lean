import War3VK.Memory.ShadowArenaMoves

/-!
# The accounts of the shadow arena

Three counters say how much memory the shadow arena has: `g_residentBytes` for all of it, the
`totalCapacity` of each generation, and the capacities of its pages.
-/

namespace War3VK.Memory.ShadowArena

open Lib

variable {cfg : Config} {p p' p'' : Pool} {f f' f'' : FrameState} {s : State}

/-- The capacities of all pages of a generation. -/
def capacity (pages : List Page) : ℕ := (pages.map Page.capacity).sum

theorem capacity_append (pages more : List Page) :
    capacity (pages ++ more) = capacity pages + capacity more := by
  unfold capacity
  rw [List.map_append, List.sum_append]

def FrameState.Summed (f : FrameState) : Prop := f.totalCapacity = capacity f.pages

/-! ## One generation -/

/-- A generation changed, and the pool has the difference on its books. -/
structure Booked (p : Pool) (f : FrameState) (p' : Pool) (f' : FrameState) : Prop where
  resident : p'.residentBytes + f.totalCapacity = p.residentBytes + f'.totalCapacity
  summed : f.Summed → f'.Summed
  cap : p.residentBytes ≤ fixedResidentLimitBytes → p'.residentBytes ≤ fixedResidentLimitBytes

theorem Booked.of_eq (hresident : p'.residentBytes = p.residentBytes) (hpages : f'.pages = f.pages)
    (htotal : f'.totalCapacity = f.totalCapacity) : Booked p f p' f' where
  resident := by rw [hresident, htotal]
  summed h := by
    unfold FrameState.Summed
    rw [htotal, hpages]
    exact h
  cap h := by rwa [hresident]

theorem Booked.trans (h : Booked p f p' f') (h' : Booked p' f' p'' f'') : Booked p f p'' f'' where
  resident := by
    have hfirst := h.resident
    have hsecond := h'.resident
    omega
  summed hf := h'.summed (h.summed hf)
  cap hp := h'.cap (h.cap hp)

theorem discover_residentBytes (p : Pool) (index : ℕ) (status : MemoryStatus) :
    (p.discover index status).residentBytes = p.residentBytes := by
  unfold Pool.discover
  split_ifs <;> rfl

theorem allocateArenaPage_booked (minimum : ℕ) (answer : PageAnswer) (p : Pool) (f : FrameState) :
    let result := allocateArenaPage cfg minimum answer p f
    Booked p f result.2.1 result.2.2 := by
  have hsame {q : Pool} (h : q.residentBytes = p.residentBytes) : Booked p f q f := .of_eq h rfl rfl
  unfold allocateArenaPage
  dsimp only
  split_ifs with hguard hgrow
  · exact hsame rfl
  · exact hsame rfl
  split
  · exact hsame rfl
  · exact hsame rfl
  · exact hsame rfl
  rename_i index hbuffer
  split_ifs with hheap hafter
  · exact hsame rfl
  · exact hsame (discover_residentBytes _ _ _)
  have hresident := discover_residentBytes
    (p.refresh answer.before p.budgetSnapshotFrameSerial) index answer.discovered
  have hbefore : (p.refresh answer.before p.budgetSnapshotFrameSerial).residentBytes =
      p.residentBytes := rfl
  refine ⟨?_, fun hf => ?_, fun _ => ?_⟩
  · dsimp only
    omega
  · unfold FrameState.Summed at hf ⊢
    dsimp only
    rw [capacity_append, ← hf]
    rfl
  · have htarget := (Nat.not_lt.mp (not_or.mp hafter).2).trans (decideAdaptiveMemoryBudget_target_le _)
    rwa [sampleShadowMemoryBudget_hardCap] at htarget

theorem growWhen_booked (needed : FrameState → Bool) (size : ℕ) (answers : ℕ → PageAnswer)
    (p : Pool) (f : FrameState) :
    let result := growWhen needed cfg size answers p f
    Booked p f result.2.1 result.2.2 := by
  unfold growWhen
  split_ifs
  · exact allocateArenaPage_booked _ _ _ _
  · exact .of_eq rfl rfl rfl

theorem allocateLoop_booked (answers : ℕ → PageAnswer) (size alignment : UInt32) (fuel : ℕ)
    (p : Pool) (f : FrameState) :
    let result := allocateLoop cfg answers size alignment fuel p f
    Booked p f result.2.1 result.2.2 := by
  induction fuel generalizing p f with
  | zero => exact .of_eq rfl rfl rfl
  | succ fuel ih =>
    have hfirst := @growWhen_booked cfg (fun f => f.pages.isEmpty) size.toNat answers p f
    rw [allocateLoop]
    split
    · rename_i heq
      rwa [heq] at hfirst
    rename_i p₁ f₁ heq
    rw [heq] at hfirst
    have hsecond := @growWhen_booked cfg (fun f => f.cursor.page ≥ f.pages.length) size.toNat
      answers p₁ f₁
    split
    · rename_i heq'
      rw [heq'] at hsecond
      exact hfirst.trans hsecond
    rename_i p₂ f₂ heq'
    rw [heq'] at hsecond
    have hgrown := hfirst.trans hsecond
    split
    · exact hgrown
    rename_i page hpage
    dsimp only
    split_ifs
    · exact hgrown.trans (.of_eq rfl rfl rfl)
    · have hmoved : Booked p₂ f₂ p₂ { f₂ with cursor := f₂.cursor.nextPage page } :=
        .of_eq rfl rfl rfl
      exact hgrown.trans (hmoved.trans (ih _ _))

theorem allocateBundle_booked (answers : ℕ → PageAnswer) (requests : List Request) (p : Pool)
    (f : FrameState) :
    let result := allocateBundle cfg answers requests p f
    Booked p f result.2.2.1 result.2.2.2 := by
  induction requests generalizing p f with
  | nil => exact .of_eq rfl rfl rfl
  | cons r rest ih =>
    have hfirst : let result := tryAllocateFromCurrentGeneration cfg answers r.size r.usedAlignment p f
        Booked p f result.2.1 result.2.2 := by
      unfold tryAllocateFromCurrentGeneration
      split_ifs
      · exact .of_eq rfl rfl rfl
      · exact allocateLoop_booked _ _ _ _ _ _
    rw [allocateBundle]
    split
    · rename_i heq
      rwa [heq] at hfirst
    · rename_i p₁ f₁ heq
      rw [heq] at hfirst
      exact hfirst.trans (ih _ _)

theorem dropPages_sum (keep : ℕ) (pages : List Page) :
    (dropPages keep pages (capacity pages)).2 = capacity (dropPages keep pages (capacity pages)).1 := by
  induction pages with
  | nil => rfl
  | cons page rest ih =>
    have hrest : capacity (page :: rest) - page.capacity = capacity rest :=
      Nat.add_sub_cancel_left _ _
    rw [dropPages, hrest]
    split_ifs
    · exact ih
    · rfl

theorem dropPages_le (keep : ℕ) (pages : List Page) (total : ℕ) :
    (dropPages keep pages total).2 ≤ total := by
  induction pages generalizing total with
  | nil => exact Nat.le_refl _
  | cons page rest ih =>
    rw [dropPages]
    split_ifs
    · exact (ih _).trans (Nat.sub_le _ _)
    · exact Nat.le_refl _

theorem capacity_reverse (pages : List Page) : capacity pages.reverse = capacity pages := by
  unfold capacity
  rw [List.map_reverse, List.sum_reverse]

theorem rewind_booked (frameSerial completedSerial generation : ℕ) (hf : f.Summed)
    (hle : f.totalCapacity ≤ p.residentBytes) :
    let result := rewind frameSerial completedSerial generation p f
    Booked p f result.1 result.2 := by
  unfold rewind
  dsimp only
  generalize (if f.retireSerial ≠ 0 ∧ generationCanBeReused f.retireSerial completedSerial then
      f.trimHistory.target frameSerial (f.cursor.committedBytes + f.cursor.offset) f.totalCapacity
        arenaPageSize (p.residentBytes > p.residentLimitBytes)
    else (f.totalCapacity, f.trimHistory)) = kept
  have hdrop := dropPages_le kept.1 f.pages.reverse f.totalCapacity
  refine ⟨?_, fun _ => ?_, fun hcap => (Nat.sub_le _ _).trans hcap⟩
  · dsimp only
    omega
  · unfold FrameState.Summed at hf ⊢
    dsimp only
    rw [capacity_reverse, hf, ← capacity_reverse]
    exact dropPages_sum _ _

/-! ## The arena -/

/-- The books of the arena: the resident bytes are those of all generations, each of which has the
capacities of its pages, and stay within the fixed limit. -/
structure Accounted (s : State) : Prop where
  summed : ∀ f ∈ s.frames, f.Summed
  resident : s.pool.residentBytes = (s.frames.map FrameState.totalCapacity).sum
  cap : s.pool.residentBytes ≤ fixedResidentLimitBytes

variable {g : ℕ} {answers : ℕ → PageAnswer}

theorem sum_set {frames : List FrameState} (hf : frames[g]? = some f) (f' : FrameState) :
    ((frames.set g f').map FrameState.totalCapacity).sum + f.totalCapacity =
      (frames.map FrameState.totalCapacity).sum + f'.totalCapacity := by
  induction frames generalizing g with
  | nil => cases hf
  | cons first rest ih =>
    cases g with
    | zero =>
      obtain rfl : first = f := Option.some.inj hf
      rw [List.set_cons_zero, List.map_cons, List.map_cons, List.sum_cons, List.sum_cons]
      omega
    | succ g =>
      have hrest := ih hf
      rw [List.set_cons_succ, List.map_cons, List.map_cons, List.sum_cons, List.sum_cons]
      omega

section

variable (h : Accounted s)
include h

theorem Accounted.le (hf : s.frames[g]? = some f) : f.totalCapacity ≤ s.pool.residentBytes := by
  have hsum := sum_set hf {}
  rw [h.resident, ← Nat.add_zero (List.sum _)]
  exact (Nat.le_add_left _ _).trans (Nat.le_of_eq hsum)

theorem Accounted.set (hf : s.frames[g]? = some f) {s' : State} (hpool : s'.pool = p')
    (hframes : s'.frames = s.frames.set g f') (hbooked : Booked s.pool f p' f') : Accounted s' where
  summed x hx := by
    rw [hframes] at hx
    obtain hx | rfl := List.mem_or_eq_of_mem_set hx
    · exact h.summed x hx
    · exact hbooked.summed (h.summed f (List.mem_of_getElem? hf))
  resident := by
    have hsum := sum_set hf f'
    have hresident := hbooked.resident
    rw [h.resident] at hresident
    rw [hpool, hframes]
    omega
  cap := hpool ▸ hbooked.cap h.cap

theorem Accounted.of_eq {s' : State} (hpool : s'.pool.residentBytes = s.pool.residentBytes)
    (hframes : s'.frames = s.frames) : Accounted s' where
  summed := hframes ▸ h.summed
  resident := by rw [hpool, hframes, h.resident]
  cap := hpool ▸ h.cap

theorem Accounted.push (hbooked : Booked s.pool {} p' f') :
    Accounted { s with pool := p', frames := s.frames ++ [f'] } where
  summed x hx := by
    obtain hx | hx := List.mem_append.mp hx
    · exact h.summed x hx
    · rw [List.mem_singleton.mp hx]
      exact hbooked.summed rfl
  resident := by
    have hresident := hbooked.resident
    rw [h.resident] at hresident
    rw [List.map_append, List.sum_append]
    exact hresident
  cap := hbooked.cap h.cap

theorem Accounted.beginAt (frameSerial completedSerial : ℕ) (hf : s.frames[g]? = some f) :
    Accounted (s.beginAt frameSerial completedSerial g).2 := by
  have hget : s.frames.getD g {} = f := by rw [List.getD_eq_getElem?_getD, hf, Option.getD_some]
  have hbooked := @rewind_booked s.pool f frameSerial completedSerial (s.generationCounter + 1)
    (h.summed f (List.mem_of_getElem? hf)) (h.le hf)
  rw [← hget] at hbooked hf
  exact h.set hf rfl rfl hbooked

theorem Accounted.beginFrame (frameSerial completedSerial : ℕ) (status : MemoryStatus)
    (answer : PageAnswer) :
    Accounted (beginFrame cfg frameSerial completedSerial status answer s).2 := by
  unfold ShadowArena.beginFrame
  dsimp only
  generalize hpool : (if s.pool.budgetSnapshotFrameSerial = 0 ∨
      frameSerial < s.pool.budgetSnapshotFrameSerial ∨
      frameSerial - s.pool.budgetSnapshotFrameSerial ≥ arenaBudgetRefreshIntervalFrames then
    Pool.refresh { s.pool with allocationFrameSerial := frameSerial } status frameSerial
    else { s.pool with allocationFrameSerial := frameSerial }) = pool
  have hresident : pool.residentBytes = s.pool.residentBytes := by
    rw [← hpool]
    split_ifs <;> rfl
  have hrefreshed : Accounted { s with pool } := h.of_eq hresident rfl
  split
  · rename_i hchosen
    obtain ⟨f, hf, -⟩ := chooseGeneration_some hchosen
    exact Accounted.beginAt hrefreshed frameSerial completedSerial hf
  · have hgrown := allocateArenaPage_grown cfg arenaPageSize answer pool {}
    have hbooked := @allocateArenaPage_booked cfg arenaPageSize answer pool {}
    generalize allocateArenaPage cfg arenaPageSize answer pool {} = result at hgrown hbooked ⊢
    cases hgrown with
    | grown p' hbuffers hminimum =>
      exact (hrefreshed.push hbooked).beginAt frameSerial completedSerial
        List.getElem?_concat_length
    | failed failure p' hbuffers =>
      have hsame : p'.residentBytes = s.pool.residentBytes := hbooked.resident.trans hresident
      cases failure with
      | refused => exact h.of_eq hsame rfl
      | threw => exact h.of_eq hsame rfl

theorem Accounted.beginBundle (name : ℕ) (requests : List Request) (answers : ℕ → PageAnswer) :
    Accounted (beginBundle cfg name requests answers s).2 := by
  unfold ShadowArena.beginBundle
  split_ifs
  · exact h.of_eq rfl rfl
  split
  · exact h.of_eq rfl rfl
  rename_i g f heq
  obtain ⟨-, hf⟩ := current_eq heq
  have hbooked := @allocateBundle_booked cfg answers requests s.pool f
  dsimp only at hbooked ⊢
  split
  · exact h.set hf rfl rfl hbooked
  · exact h.set hf rfl rfl (hbooked.trans (.of_eq rfl rfl rfl))
  · exact h.set hf rfl rfl hbooked

theorem Accounted.step (call : Call) : Accounted (step cfg call s).2 := by
  cases call with
  | beginFrame frameSerial completedSerial status answer => exact h.beginFrame _ _ _ _
  | endFrame frameSerial =>
    unfold ShadowArena.step endFrame
    dsimp only
    split
    · exact h
    · rename_i g f heq
      split_ifs
      · exact h
      · exact h.set (current_eq heq).2 rfl rfl (.of_eq rfl rfl rfl)
  | quarantineCurrentGeneration retireSerial =>
    unfold ShadowArena.step quarantineCurrentGeneration
    dsimp only
    split_ifs
    · exact h
    split
    · exact h.of_eq rfl rfl
    · rename_i g f heq
      exact h.set (current_eq heq).2 rfl rfl (.of_eq rfl rfl rfl)
  | beginBundle name requests answers => exact h.beginBundle _ _ _
  | commitBundle name =>
    unfold ShadowArena.step commitBundle
    dsimp only
    split
    · exact h
    · split_ifs
      · exact h
      · exact h.of_eq rfl rfl
  | rollbackBundle name =>
    unfold ShadowArena.step rollbackBundle
    dsimp only
    split
    · exact h
    · rename_i f hf
      split_ifs
      · exact h
      · exact h.of_eq rfl rfl
      · exact h.set hf rfl rfl (.of_eq rfl rfl rfl)

end

theorem warmPages_booked {n : ℕ} {frames : List FrameState}
    (h : warmPages cfg answers n p = some (frames, p'))
    (hcap : p.residentBytes ≤ fixedResidentLimitBytes) :
    (∀ f ∈ frames, f.Summed) ∧
      p'.residentBytes = p.residentBytes + (frames.map FrameState.totalCapacity).sum ∧
        p'.residentBytes ≤ fixedResidentLimitBytes := by
  induction n generalizing p frames with
  | zero =>
    cases h
    exact ⟨fun f hf => absurd hf List.not_mem_nil, rfl, hcap⟩
  | succ n ih =>
    rw [warmPages] at h
    have hbooked := @allocateArenaPage_booked cfg arenaPageSize (answers p.buffers) p {}
    split at h
    · rename_i p₁ f heq
      rw [heq] at hbooked
      obtain ⟨⟨rest, p₂⟩, hrest, hpair⟩ := Option.map_eq_some_iff.mp h
      cases hpair
      obtain ⟨hsummed, hresident, hle⟩ := ih hrest (hbooked.cap hcap)
      have hfirst : p₁.residentBytes = p.residentBytes + f.totalCapacity := hbooked.resident
      refine ⟨List.forall_mem_cons.mpr ⟨hbooked.summed rfl, hsummed⟩, ?_, hle⟩
      rw [List.map_cons, List.sum_cons, hresident, hfirst, Nat.add_assoc]
    · cases h

theorem accounted_init {status : MemoryStatus} (h : init cfg status answers = some s) :
    Accounted s := by
  obtain ⟨⟨frames, pool⟩, hwarm, rfl⟩ := Option.map_eq_some_iff.mp h
  obtain ⟨hsummed, hresident, hcap⟩ := warmPages_booked hwarm (Nat.zero_le _)
  exact ⟨hsummed, hresident.trans (Nat.zero_add _), hcap⟩

theorem beginBundle_refused {name : ℕ} {requests : List Request}
    (h : (beginBundle cfg name requests answers s).1 = .returned false) :
    (beginBundle cfg name requests answers s).2.frames.map FrameState.cursor =
      s.frames.map FrameState.cursor := by
  unfold beginBundle at h ⊢
  split_ifs at h ⊢
  · rfl
  rcases heq : s.current.bind fun index => s.frames[index]?.map (index, ·) with _ | ⟨g, f⟩
  · rfl
  obtain ⟨-, hf⟩ := current_eq heq
  rw [heq] at h
  dsimp only at h ⊢
  generalize allocateBundle cfg answers requests s.pool f = result at h ⊢
  obtain ⟨failure, ranges, pool, f'⟩ := result
  rcases failure with _ | _ | _
  · cases h
  · obtain ⟨hlt, rfl⟩ := List.getElem?_eq_some_iff.mp hf
    have hcursor : (s.frames.map FrameState.cursor)[g]? = some s.frames[g].cursor := by
      rw [List.getElem?_map, hf, Option.map_some]
    obtain ⟨hlt, heq⟩ := List.getElem?_eq_some_iff.mp hcursor
    refine (List.map_set ..).trans ?_
    rw [← heq, List.set_getElem_self]
  · cases h

/-- From any start of the arena, over frames, spills, trims, bundles and rollbacks, the resident bytes
are the capacities of all pages and the total capacities of all generations, and within the fixed
limit. A bundle that is refused leaves every cursor as it was. -/
theorem resident_accounted (cfg : Config) (status : MemoryStatus) (answers : ℕ → PageAnswer)
    (s₀ : State) (hinit : init cfg status answers = some s₀) (calls : List Call) :
    let s := run (step cfg) calls s₀
    s.pool.residentBytes = (s.frames.map fun f => capacity f.pages).sum ∧
      s.pool.residentBytes = (s.frames.map FrameState.totalCapacity).sum ∧
      s.pool.residentBytes ≤ fixedResidentLimitBytes ∧
      ∀ name requests answers,
        (beginBundle cfg name requests answers s).1 = .returned false →
          (beginBundle cfg name requests answers s).2.frames.map FrameState.cursor =
            s.frames.map FrameState.cursor := by
  intro s
  have haccounted : Accounted s :=
    @history_induction _ _ _ (step cfg) (fun t _ => Accounted t) s₀ (accounted_init hinit)
      (fun _ _ call h => h.step call) calls
  refine ⟨?_, haccounted.resident, haccounted.cap, fun _ _ _ => beginBundle_refused⟩
  rw [haccounted.resident]
  exact congrArg List.sum (List.map_congr_left haccounted.summed)

/-- One generation and one frame; the second part of a bundle does not fit behind the first. -/
theorem resident_accounted_refused :
    let cfg : Config := ⟨none, 1, by decide⟩
    let status : MemoryStatus := ⟨some (2^31), false, []⟩
    let answers : ℕ → PageAnswer := fun n =>
      ⟨status, if n = 0 then .heap 0 else .failed, status, status⟩
    let s := run (step cfg) [.beginFrame 1 0 status (answers 0)] ((init cfg status answers).getD {})
    let r := beginBundle cfg 0 [⟨0x4000000, 0⟩, ⟨16, 0⟩] answers s
    s.pool.residentBytes = 0x4000000 ∧ r.1 = .returned false ∧
      r.2.frames.map FrameState.cursor = s.frames.map FrameState.cursor := by
  intro cfg status answers s r
  have hinit : init cfg status answers = some ((init cfg status answers).getD {}) := by
    have hsome : (init cfg status answers).isSome := by decide +kernel
    obtain ⟨s₀, hs₀⟩ := Option.isSome_iff_exists.mp hsome
    rw [hs₀]
    rfl
  have hall := resident_accounted cfg status answers _ hinit
    [.beginFrame 1 0 status (answers 0)]
  have hrefused : r.1 = .returned false := by decide +kernel
  exact ⟨by decide +kernel, hrefused, hall.2.2.2 _ _ _ hrefused⟩

/-- A page whose creation throws because the device is lost leaves the cursor behind the first part of
the bundle. -/
theorem beginBundle_lost :
    let cfg : Config := ⟨none, 1, by decide⟩
    let status : MemoryStatus := ⟨some (2^31), false, []⟩
    let answers : ℕ → PageAnswer := fun n =>
      ⟨status, if n = 0 then .heap 0 else .lost, status, status⟩
    let s := run (step cfg) [.beginFrame 1 0 status (answers 0)] ((init cfg status answers).getD {})
    let r := beginBundle cfg 0 [⟨0x4000000, 0⟩, ⟨16, 0⟩] answers s
    (init cfg status answers).isSome ∧ s.frames.map FrameState.cursor = [{}] ∧ r.1 = .threw ∧
      r.2.frames.map FrameState.cursor = [⟨1, 0, 0x4000000, 0⟩] := by
  decide +kernel

end War3VK.Memory.ShadowArena
