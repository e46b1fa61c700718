import Mathlib.Data.Prod.Lex
import War3VK.Lib.Reservations
import War3VK.Memory.ShadowArena

/-!
# What one call of the shadow arena does

The facts about single functions on which the safety of whole runs rests: a page that is created has a
fresh buffer; a range that is given is aligned, inside its page and behind all that was given before
it; and a call of `ShadowArena_BeginBundle` reserves the span from the cursor to its new place.
-/

namespace War3VK.Memory.ShadowArena

open Lib

/-! ## Alignment -/

theorem alignedStart_spec {offset : ℕ} {alignment : UInt32} (h : isValidAlignment alignment)
    (hoffset : offset ≤ arenaPageSize) :
    alignment.toNat ∣ alignedStart offset alignment ∧ offset ≤ alignedStart offset alignment := by
  have hsize : arenaPageSize = 67108864 := by decide
  simp only [isValidAlignment, decide_eq_true_eq] at h
  obtain ⟨hne, hand⟩ := h
  have hpos : alignment.toNat ≠ 0 := by
    rw [ne_eq, ← UInt32.toNat_inj] at hne
    exact hne
  have hle : (1 : UInt32) ≤ alignment := by
    rw [UInt32.le_iff_toNat_le]
    exact Nat.one_le_iff_ne_zero.mpr hpos
  have hnat : alignment.toNat &&& (alignment.toNat - 1) = 0 := by
    have hval := congrArg UInt32.toNat hand
    rwa [UInt32.toNat_and, UInt32.toNat_sub_of_le _ _ hle] at hval
  obtain ⟨k, hk⟩ := isPowerOfTwo_of_and_sub_one hpos hnat
  have hlt := alignment.toNat_lt
  have hvalue : (UInt64.ofNat offset).toNat = offset := by
    rw [UInt64.toNat_ofNat']
    omega
  have hspec := @alignUp_spec (UInt64.ofNat offset) alignment.toUInt64 k
    (by rw [UInt32.toNat_toUInt64, hk]) (by rw [UInt32.toNat_toUInt64, hvalue]; omega)
  rw [hvalue, ← hk] at hspec
  exact ⟨hspec.1, hspec.2.1⟩

/-! ## Pages -/

def newPage (cfg : Config) (p : Pool) (f : FrameState) : Page where
  storage := ⟨p.buffers, min arenaPageSize (cfg.maxFrameSize - f.totalCapacity)⟩
  capacity := min arenaPageSize (cfg.maxFrameSize - f.totalCapacity)
  size_eq := rfl
  capacity_le := Nat.min_le_left _ _

def FrameState.grow (f : FrameState) (page : Page) : FrameState :=
  { f with pages := f.pages ++ [page], totalCapacity := f.totalCapacity + page.capacity }

inductive Grown (cfg : Config) (minimum : ℕ) (p : Pool) (f : FrameState) :
    Option Failure × Pool × FrameState → Prop where
  | grown (p' : Pool) (hbuffers : p'.buffers = p.buffers + 1)
      (hminimum : minimum ≤ (newPage cfg p f).capacity) :
      Grown cfg minimum p f (none, p', f.grow (newPage cfg p f))
  | failed (failure : Failure) (p' : Pool) (hbuffers : p'.buffers = p.buffers) :
      Grown cfg minimum p f (some failure, p', f)

@[simp]
theorem discover_buffers (p : Pool) (index : ℕ) (status : MemoryStatus) :
    (p.discover index status).buffers = p.buffers := by
  unfold Pool.discover
  split_ifs <;> rfl

theorem allocateArenaPage_grown (cfg : Config) (minimum : ℕ) (answer : PageAnswer) (p : Pool)
    (f : FrameState) : Grown cfg minimum p f (allocateArenaPage cfg minimum answer p f) := by
  unfold allocateArenaPage
  dsimp only
  split_ifs with hguard
  · exact .failed _ _ rfl
  · exact .failed _ _ rfl
  · cases answer.buffer with
    | lost => exact .failed _ _ rfl
    | failed => exact .failed _ _ rfl
    | empty => exact .failed _ _ rfl
    | heap index =>
      dsimp only
      split_ifs
      · exact .failed _ _ rfl
      · exact .failed _ _ (discover_buffers _ index answer.discovered)
      · have hpage : newPage cfg p f = newPage cfg
            ((p.refresh answer.before p.budgetSnapshotFrameSerial).discover index answer.discovered)
            f := by
          rw [newPage, newPage, discover_buffers]
          rfl
        have hgrown := @Grown.grown cfg minimum p f
        rw [hpage] at hgrown
        refine hgrown _ ?_ ?_
        · show Pool.buffers (Pool.discover _ _ _) + 1 = _
          rw [discover_buffers]
          rfl
        · show minimum ≤ min _ _
          omega

theorem growWhen_cases (needed : FrameState → Bool) (cfg : Config) (size : ℕ)
    (answers : ℕ → PageAnswer) (p : Pool) (f : FrameState) :
    (growWhen needed cfg size answers p f = (none, p, f) ∧ needed f = false) ∨
      (needed f = true ∧ Grown cfg size p f (growWhen needed cfg size answers p f)) := by
  unfold growWhen
  cases hneeded : needed f
  · exact .inl ⟨rfl, rfl⟩
  · exact .inr ⟨rfl, allocateArenaPage_grown cfg size _ p f⟩

/-! ## Generations that grow -/

/-- The places in the pages of a generation: the page and the offset. -/
abbrev Place := ℕ ×ₗ ℕ

def place (page offset : ℕ) : Place := toLex (page, offset)

theorem place_le {p q a b : ℕ} : place p a ≤ place q b ↔ p < q ∨ p = q ∧ a ≤ b := Prod.Lex.toLex_le_toLex

theorem place_lt {p q a b : ℕ} : place p a < place q b ↔ p < q ∨ p = q ∧ a < b := Prod.Lex.toLex_lt_toLex

def Cursor.place (c : Cursor) : Place := ShadowArena.place c.page c.offset

def bufferIds (pages : List Page) : List ℕ := pages.map fun page => page.storage.id

/-- A generation that only grows: it gets pages with fresh buffers, and its cursor moves on. -/
structure Grows (p : Pool) (f : FrameState) (p' : Pool) (f' : FrameState) : Prop where
  pages : ∃ more, f'.pages = f.pages ++ more ∧
    bufferIds more = List.range' p.buffers more.length ∧ p'.buffers = p.buffers + more.length
  same : f'.generation = f.generation ∧ f'.retireSerial = f.retireSerial ∧
    f'.frameSerial = f.frameSerial
  cursor : f.cursor.place ≤ f'.cursor.place
  offset : f.cursor.offset ≤ arenaPageSize → f'.cursor.offset ≤ arenaPageSize

variable {cfg : Config} {p p' p'' : Pool} {f f' f'' : FrameState}

theorem Grows.refl (h : p'.buffers = p.buffers) : Grows p f p' f where
  pages := ⟨[], by simp, rfl, by simp [h]⟩
  same := ⟨rfl, rfl, rfl⟩
  cursor := le_rfl
  offset := id

theorem Grows.trans (h : Grows p f p' f') (h' : Grows p' f' p'' f'') : Grows p f p'' f'' where
  pages := by
    obtain ⟨more, hmore, hids, hbuffers⟩ := h.pages
    obtain ⟨more', hmore', hids', hbuffers'⟩ := h'.pages
    refine ⟨more ++ more', by rw [hmore', hmore, List.append_assoc], ?_, ?_⟩
    · rw [bufferIds, List.map_append, List.length_append, ← List.range'_append_1, ← hbuffers,
        ← hids, ← hids']
      rfl
    · rw [hbuffers', hbuffers, List.length_append, Nat.add_assoc]
  same := by
    obtain ⟨h1, h2, h3⟩ := h.same
    obtain ⟨h1', h2', h3'⟩ := h'.same
    exact ⟨h1'.trans h1, h2'.trans h2, h3'.trans h3⟩
  cursor := h.cursor.trans h'.cursor
  offset := h'.offset ∘ h.offset

theorem Grown.grows {minimum : ℕ} {r : Option Failure × Pool × FrameState}
    (h : Grown cfg minimum p f r) : Grows p f r.2.1 r.2.2 := by
  cases h with
  | grown p' hbuffers hminimum =>
    exact ⟨⟨[newPage cfg p f], rfl, rfl, hbuffers⟩, ⟨rfl, rfl, rfl⟩, le_rfl, id⟩
  | failed failure p' hbuffers => exact Grows.refl hbuffers

theorem growWhen_grows (needed : FrameState → Bool) (cfg : Config) (size : ℕ)
    (answers : ℕ → PageAnswer) (p : Pool) (f : FrameState) :
    Grows p f (growWhen needed cfg size answers p f).2.1 (growWhen needed cfg size answers p f).2.2 ∧
      (growWhen needed cfg size answers p f).2.2.cursor = f.cursor := by
  rcases growWhen_cases needed cfg size answers p f with ⟨h, -⟩ | ⟨-, h⟩
  · rw [h]
    exact ⟨Grows.refl rfl, rfl⟩
  · refine ⟨h.grows, ?_⟩
    generalize growWhen needed cfg size answers p f = r at h
    cases h <;> rfl

theorem grows_behind {offset : ℕ} (h : f.cursor.offset ≤ offset) (hle : offset ≤ arenaPageSize) :
    Grows p f p { f with cursor := f.cursor.behind offset } where
  pages := ⟨[], by simp, rfl, rfl⟩
  same := ⟨rfl, rfl, rfl⟩
  cursor := place_le.mpr (.inr ⟨rfl, h⟩)
  offset _ := hle

theorem grows_nextPage (page : Page) : Grows p f p { f with cursor := f.cursor.nextPage page } where
  pages := ⟨[], by simp, rfl, rfl⟩
  same := ⟨rfl, rfl, rfl⟩
  cursor := place_le.mpr (.inl (Nat.lt_succ_self _))
  offset _ := Nat.zero_le _

/-! ## Ranges -/

/-- A range is given for a request, in a page of the generation, between two places. -/
structure Given (pages : List Page) (lower : Place) (r : Request) (x : Range) (upper : Place)
    (page : ℕ) : Prop where
  storage : pages[page]?.map Page.storage = some x.storage
  size : x.size = r.size.toNat ∧ 0 < x.size
  aligned : r.usedAlignment.toNat ∣ x.offset
  inside : x.offset + x.size ≤ x.storage.size
  lower : lower ≤ place page x.offset
  upper : place page (x.offset + x.size) ≤ upper

theorem allocateLoop_spec {answers : ℕ → PageAnswer} {r : Request} {fuel : ℕ}
    (hsize : r.size ≠ 0) (halign : isValidAlignment r.usedAlignment)
    (hoffset : f.cursor.offset ≤ arenaPageSize) :
    let result := allocateLoop cfg answers r.size r.usedAlignment fuel p f
    Grows p f result.2.1 result.2.2 ∧ ∀ x, result.1 = .ok x →
      Given result.2.2.pages f.cursor.place r x result.2.2.cursor.place result.2.2.cursor.page := by
  induction fuel generalizing p f with
  | zero => exact ⟨Grows.refl rfl, fun x hx => (nomatch hx)⟩
  | succ fuel ih =>
    dsimp only
    rw [allocateLoop]
    obtain ⟨hfirst, hfirstc⟩ := growWhen_grows (fun f => f.pages.isEmpty) cfg r.size.toNat answers p f
    rcases hg : growWhen (fun f => f.pages.isEmpty) cfg r.size.toNat answers p f with
      ⟨_ | failure, p1, f1⟩ <;> rw [hg] at hfirst hfirstc
    · dsimp only at hfirst hfirstc ⊢
      obtain ⟨hsecond, hsecondc⟩ :=
        growWhen_grows (fun f => f.cursor.page ≥ f.pages.length) cfg r.size.toNat answers p1 f1
      rcases hg2 : growWhen (fun f => f.cursor.page ≥ f.pages.length) cfg r.size.toNat answers p1 f1
        with ⟨_ | failure, p2, f2⟩ <;> rw [hg2] at hsecond hsecondc
      · dsimp only at hsecond hsecondc ⊢
        have hgrows := hfirst.trans hsecond
        have hcursor : f2.cursor = f.cursor := hsecondc.trans hfirstc
        rcases hpage : f2.pages[f2.cursor.page]? with _ | page
        · exact ⟨hgrows, fun x hx => (nomatch hx)⟩
        · dsimp only
          rw [← hcursor] at hoffset
          obtain ⟨hdvd, hle⟩ := alignedStart_spec halign hoffset
          split_ifs with hfits
          · have hin := hfits.2.trans page.capacity_le
            refine ⟨hgrows.trans (grows_behind (by omega) hin), fun x hx => ?_⟩
            cases hx
            have hpos : 0 < r.size.toNat := by
              rw [Nat.pos_iff_ne_zero]
              exact fun h0 => hsize (UInt32.toNat_inj.mp h0)
            refine ⟨?_, ⟨rfl, hpos⟩, hdvd, ?_, ?_, le_rfl⟩
            · show f2.pages[f2.cursor.page]?.map _ = _
              rw [hpage]
              rfl
            · rw [page.size_eq]
              exact hfits.2
            · rw [← hcursor]
              exact place_le.mpr (.inr ⟨rfl, hle⟩)
          · -- The page has no room, so the cursor goes to the next one.
            have hnext := hgrows.trans (@grows_nextPage p2 f2 page)
            obtain ⟨hrest, hgiven⟩ := @ih p2 { f2 with cursor := f2.cursor.nextPage page }
              (Nat.zero_le _)
            refine ⟨hnext.trans hrest, fun x hx => ?_⟩
            obtain ⟨h1, h2, h3, h4, h5, h6⟩ := hgiven x hx
            exact ⟨h1, h2, h3, h4, hnext.cursor.trans h5, h6⟩
      · exact ⟨hfirst.trans hsecond, fun x hx => (nomatch hx)⟩
    · exact ⟨hfirst, fun x hx => (nomatch hx)⟩

theorem tryAllocate_spec {answers : ℕ → PageAnswer} {r : Request}
    (hoffset : f.cursor.offset ≤ arenaPageSize) :
    let result := tryAllocateFromCurrentGeneration cfg answers r.size r.usedAlignment p f
    Grows p f result.2.1 result.2.2 ∧ ∀ x, result.1 = .ok x →
      Given result.2.2.pages f.cursor.place r x result.2.2.cursor.place result.2.2.cursor.page := by
  dsimp only
  unfold tryAllocateFromCurrentGeneration
  split_ifs with hbad
  · exact ⟨Grows.refl rfl, fun x hx => (nomatch hx)⟩
  · simp only [not_or, Bool.not_eq_true', Bool.not_eq_false] at hbad
    exact allocateLoop_spec hbad.1 hbad.2.1 hoffset

/-! ## Bundles -/

/-- Ranges are given for requests, one after another from a place to another. -/
inductive Laid (pages : List Page) : Place → List Request → List Range → Place → Prop where
  | nil (lower : Place) : Laid pages lower [] [] lower
  | cons {lower middle upper : Place} {r : Request} {x : Range} {requests : List Request}
      {ranges : List Range} {page : ℕ} (given : Given pages lower r x middle page)
      (rest : Laid pages middle requests ranges upper) :
      Laid pages lower (r :: requests) (x :: ranges) upper

variable {pages : List Page} {lower upper : Place} {requests : List Request} {ranges : List Range}

theorem Given.lt {r : Request} {x : Range} {page : ℕ} (h : Given pages lower r x upper page) :
    lower < upper := by
  have hsize := h.size.2
  have hlt : place page x.offset < place page (x.offset + x.size) := place_lt.mpr (.inr ⟨rfl, by omega⟩)
  exact h.lower.trans_lt (hlt.trans_le h.upper)

theorem Given.append {r : Request} {x : Range} {page : ℕ} (h : Given pages lower r x upper page)
    (more : List Page) : Given (pages ++ more) lower r x upper page := by
  refine ⟨?_, h.size, h.aligned, h.inside, h.lower, h.upper⟩
  obtain ⟨y, hy, hstorage⟩ := Option.map_eq_some_iff.mp h.storage
  rw [List.getElem?_append_left (List.getElem?_eq_some_iff.mp hy).1, hy]
  exact congrArg some hstorage

section

variable (h : Laid pages lower requests ranges upper)
include h

theorem Laid.le : lower ≤ upper := by
  induction h with
  | nil => exact le_rfl
  | cons given _ ih => exact given.lt.le.trans ih

theorem Laid.lt (hne : requests ≠ []) : lower < upper := by
  cases h with
  | nil => exact absurd rfl hne
  | cons given rest => exact given.lt.trans_le rest.le

theorem Laid.given {k : ℕ} {x : Range} (hx : ranges[k]? = some x) :
    ∃ r page, requests[k]? = some r ∧ Given pages lower r x upper page := by
  induction h generalizing k with
  | nil => simp at hx
  | @cons lower middle upper r y requests ranges page given rest ih =>
    cases k with
    | zero =>
      cases hx
      obtain ⟨h1, h2, h3, h4, h5, h6⟩ := given
      exact ⟨r, page, rfl, h1, h2, h3, h4, h5, h6.trans rest.le⟩
    | succ k =>
      obtain ⟨r', page', hr, h1, h2, h3, h4, h5, h6⟩ := ih hx
      exact ⟨r', page', hr, h1, h2, h3, h4, given.lt.le.trans h5, h6⟩

theorem Laid.apart {k l : ℕ} {x y : Range} (hx : ranges[k]? = some x) (hy : ranges[l]? = some y)
    (hkl : k < l) :
    ∃ p q, pages[p]?.map Page.storage = some x.storage ∧ pages[q]?.map Page.storage = some y.storage ∧
        place p (x.offset + x.size) ≤ place q y.offset := by
  induction h generalizing k l with
  | nil => simp at hx
  | @cons lower middle upper r z requests ranges page given rest ih =>
    cases l with
    | zero => exact absurd hkl (Nat.not_lt_zero _)
    | succ l =>
      cases k with
      | zero =>
        cases hx
        obtain ⟨_, q, _, hq⟩ := rest.given hy
        exact ⟨page, q, given.storage, hq.storage, given.upper.trans hq.lower⟩
      | succ k => exact ih hx hy (Nat.lt_of_succ_lt_succ hkl)

end

theorem allocateBundle_spec {answers : ℕ → PageAnswer} (hoffset : f.cursor.offset ≤ arenaPageSize) :
    let result := allocateBundle cfg answers requests p f
    Grows p f result.2.2.1 result.2.2.2 ∧ (result.1 = none →
      Laid result.2.2.2.pages f.cursor.place requests result.2.1 result.2.2.2.cursor.place) := by
  induction requests generalizing p f with
  | nil => exact ⟨Grows.refl rfl, fun _ => .nil _⟩
  | cons r rest ih =>
    dsimp only
    rw [allocateBundle]
    obtain ⟨hgrows, hgiven⟩ := @tryAllocate_spec cfg p f answers r hoffset
    rcases htry : tryAllocateFromCurrentGeneration cfg answers r.size r.usedAlignment p f with
      ⟨failure | x, p1, f1⟩ <;> rw [htry] at hgrows hgiven
    · exact ⟨hgrows, fun h => (nomatch h)⟩
    · obtain ⟨hrest, hlaid⟩ := @ih p1 f1 (hgrows.offset hoffset)
      refine ⟨hgrows.trans hrest, fun h => ?_⟩
      obtain ⟨more, hmore, -⟩ := hrest.pages
      have hfirst := (hgiven x rfl).append more
      rw [← hmore] at hfirst
      exact .cons hfirst (hlaid h)

/-! ## Frames -/

theorem dropPages_suffix (keep : ℕ) (pages : List Page) (total : ℕ) :
    (dropPages keep pages total).1 <:+ pages := by
  induction pages generalizing total with
  | nil => exact List.suffix_rfl
  | cons page rest ih =>
    rw [dropPages]
    split_ifs
    · exact (ih _).trans (List.suffix_cons _ _)
    · exact List.suffix_rfl

theorem rewind_spec (frameSerial completedSerial generation : ℕ) (p : Pool) (f : FrameState) :
    let result := rewind frameSerial completedSerial generation p f
    result.1.buffers = p.buffers ∧ result.2.pages <+: f.pages ∧ result.2.cursor = {} ∧
      result.2.retireSerial = 0 ∧ result.2.generation = generation ∧
        result.2.frameSerial = frameSerial := by
  refine ⟨rfl, ?_, rfl, rfl, rfl, rfl⟩
  have hsuffix := dropPages_suffix (if f.retireSerial ≠ 0 ∧
      generationCanBeReused f.retireSerial completedSerial then
    f.trimHistory.target frameSerial (f.cursor.committedBytes + f.cursor.offset) f.totalCapacity
      arenaPageSize (p.residentBytes > p.residentLimitBytes)
    else (f.totalCapacity, f.trimHistory)).1 f.pages.reverse f.totalCapacity
  rw [← List.reverse_prefix, List.reverse_reverse] at hsuffix
  exact hsuffix

theorem chooseGeneration_some {frameSerial completedSerial index : ℕ} {frames : List FrameState}
    (h : chooseGeneration cfg frameSerial completedSerial frames = some index) :
    ∃ f, frames[index]? = some f ∧ f.retireSerial ≤ completedSerial := by
  unfold chooseGeneration at h
  dsimp only at h
  split_ifs at h with hpreferred
  · cases h
    rw [Option.any_eq_true] at hpreferred
    obtain ⟨f, hf, hreuse⟩ := hpreferred
    exact ⟨f, hf, of_decide_eq_true hreuse⟩
  · obtain ⟨hlt, hreuse, -⟩ := List.findIdx?_eq_some_iff_getElem.mp h
    exact ⟨_, List.getElem?_eq_getElem hlt, of_decide_eq_true hreuse⟩

end War3VK.Memory.ShadowArena
