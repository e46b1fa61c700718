import War3VK.Model.SkinPalette

/-!
# What a move does to the cells

A cell whose selection has a ticket holds the matrices of the publication that drew it (`CellOk`), and
what a thread has copied out of a cell is the answer of one publication (`PhaseOk`).
-/

namespace War3VK.Model.SkinPalette

open Lib

def Phase.holds : Phase → Option ℕ
  | .forget _ part .entered => some (cellOf part)
  | .forget _ part .releasing => some (cellOf part)
  | .record _ _ .trying => none
  | .record _ b _ => some (cellOf b.renderablePart)
  | .query q (.entered ..) => some (cellOf q.part)
  | .query q (.copied ..) => some (cellOf q.part)
  | .query q (.stable ..) => some (cellOf q.part)
  | .query q (.releasing _) => some (cellOf q.part)
  | .judge selected .entered => some (cellOf selected.part)
  | .judge selected .compared => some (cellOf selected.part)
  | .judge selected (.releasing _) => some (cellOf selected.part)
  | _ => none

def published : Output → Option Publication
  | .published p => some p
  | _ => none

structure Names (p : Publication) (s : Selection) : Prop where
  ticket : p.ticket = s.publicationTicket
  runtimeModel : p.binding.runtimeModel = s.runtimeModel
  part : p.binding.renderablePart = s.part
  slot : p.binding.paletteSlotIndex = s.slot
  frameTag : p.binding.frameTag = s.frameTag
  ownerEpoch : p.binding.ownerEpochWitness = s.ownerEpoch
  count : p.matrices.length = s.actualGroupCount.toNat

/-- A selection with a ticket goes with the matrices of its publication. -/
def CellOk (pubs : List Publication) (cell : Cell) : Prop :=
  cell.sealedSelection.publicationTicket ≠ 0 →
    ∃ p ∈ pubs, Names p cell.sealedSelection ∧ cell.palette.take p.matrices.length = p.matrices

def AnswerOk (pubs : List Publication) (q : Query) (answer : Answer) : Prop :=
  ∃ p ∈ pubs, Names p answer.1 ∧ answer.1.runtimeModel = q.runtimeModel ∧ answer.1.part = q.part ∧
    q.required.toNat ≤ p.matrices.length ∧ answer.2 = p.matrices.take q.required.toNat

structure Written (b : Binding) (matrices : List Matrix4) (cell : Cell) : Prop where
  unsealed : cell.sealedSelection.publicationTicket = 0
  palette : cell.palette.take matrices.length = matrices
  count : matrices.length = b.paletteCount.toNat

def PhaseOk (pubs : List Publication) (cells : ℕ → Cell) : Phase → Prop
  | .record _ b .entered =>
    (cells (cellOf b.renderablePart)).sealedSelection.publicationTicket = 0
  | .record _ b .admitted =>
    (cells (cellOf b.renderablePart)).sealedSelection.publicationTicket = 0
  | .record _ b (.copied matrices _) => Written b matrices (cells (cellOf b.renderablePart))
  | .record _ b (.stable matrices _) => Written b matrices (cells (cellOf b.renderablePart))
  | .record _ b (.proven matrices _) => Written b matrices (cells (cellOf b.renderablePart))
  | .query q (.copied _ _ epoch answer) =>
    AnswerOk pubs q answer ∧ answer.1.ownerEpoch = epoch ∧ epoch ≠ 0
  | .query q (.stable epoch answer) =>
    AnswerOk pubs q answer ∧ answer.1.ownerEpoch = epoch ∧ epoch ≠ 0
  | .query q (.releasing (some answer)) => AnswerOk pubs q answer
  | .query q (.returning (some answer)) => AnswerOk pubs q answer
  | .judge selected .asked => selected.ownerEpoch ≠ 0
  | .judge selected .entered => selected.ownerEpoch ≠ 0
  | .judge selected .compared => selected.ownerEpoch ≠ 0
  | _ => True

/-! ## Frames -/

variable {pubs pubs' : List Publication} {cells cells' : ℕ → Cell}

variable {cell : Cell} {phase : Phase}

theorem CellOk.mono (h : CellOk pubs cell) (hsub : pubs ⊆ pubs') : CellOk pubs' cell := by
  intro hticket
  obtain ⟨p, hp, hrest⟩ := h hticket
  exact ⟨p, hsub hp, hrest⟩

theorem AnswerOk.mono {q : Query} {answer : Answer} (h : AnswerOk pubs q answer)
    (hsub : pubs ⊆ pubs') : AnswerOk pubs' q answer := by
  obtain ⟨p, hp, hrest⟩ := h
  exact ⟨p, hsub hp, hrest⟩

theorem PhaseOk.frame (h : PhaseOk pubs cells phase) (hsub : pubs ⊆ pubs')
    (hcells : ∀ c, phase.holds = some c →
      (cells' c).sealedSelection = (cells c).sealedSelection ∧ (cells' c).palette = (cells c).palette) :
    PhaseOk pubs' cells' phase := by
  cases phase with
  | record c b p =>
    have hwritten : ∀ matrices, (Phase.record c b p).holds = some (cellOf b.renderablePart) →
        Written b matrices (cells (cellOf b.renderablePart)) →
        Written b matrices (cells' (cellOf b.renderablePart)) := fun matrices hholds hw =>
      ⟨(hcells _ hholds).1 ▸ hw.unsealed, (hcells _ hholds).2 ▸ hw.palette, hw.count⟩
    cases p with
    | entered => exact (congrArg Selection.publicationTicket (hcells _ rfl).1).trans h
    | admitted => exact (congrArg Selection.publicationTicket (hcells _ rfl).1).trans h
    | copied matrices hash => exact hwritten matrices rfl h
    | stable matrices hash => exact hwritten matrices rfl h
    | proven matrices hash => exact hwritten matrices rfl h
    | _ => trivial
  | query q p =>
    cases p with
    | copied currentSlot currentFrame epoch answer => exact ⟨h.1.mono hsub, h.2⟩
    | stable epoch answer => exact ⟨h.1.mono hsub, h.2⟩
    | releasing result =>
      cases result with
      | none => trivial
      | some answer => exact AnswerOk.mono h hsub
    | returning result =>
      cases result with
      | none => trivial
      | some answer => exact AnswerOk.mono h hsub
    | _ => trivial
  | judge selected p => cases p <;> exact h
  | _ => trivial

theorem cellOk_of_unsealed (h : cell.sealedSelection.publicationTicket = 0) :
    CellOk pubs cell := fun hticket => absurd h hticket

/-! ## Moves -/

structure MoveOk (pubs : List Publication) (w : World) (thread : ℕ) (m : Move) : Prop where
  legal : Legal Cell.cellBusy Phase.holds w.cells thread m.phase m.change
  cell : ∀ c cell, m.change = some (c, cell) → CellOk (pubs ++ (published m.output).toList) cell
  phase : PhaseOk (pubs ++ (published m.output).toList) (putCell m.change w.cells) m.phase
  tickets : w.publicationTicket ≤ m.publicationTicket.getD w.publicationTicket
  fresh : ∀ p, published m.output = some p →
    w.publicationTicket < p.ticket ∧ p.ticket ≤ m.publicationTicket.getD w.publicationTicket
  confirmed : ∀ epoch, m.output = .confirmed epoch → epoch = w.ownerEpoch ∧ epoch ≠ 0
  stays : ∀ epoch, m.output ≠ .epochChanged epoch

def Quiet (output : Output) : Prop :=
  published output = none ∧ ∀ epoch, output ≠ .confirmed epoch ∧ output ≠ .epochChanged epoch

variable {w : World} {thread : ℕ}

theorem moveOk_still {output : Output} (houtput : Quiet output)
    (hholds : ∀ c, phase.holds = some c → (w.cells c).cellBusy = some thread)
    (hphase : PhaseOk pubs w.cells phase) :
    MoveOk pubs w thread { phase := phase, output := output } where
  legal := ⟨fun _ _ h => (by cases h), hholds⟩
  cell _ _ h := by cases h
  phase := by rwa [houtput.1, Option.toList_none, List.append_nil]
  tickets := UInt64.le_refl _
  fresh _ h := by rw [houtput.1] at h; cases h
  confirmed epoch h := absurd h (houtput.2 epoch).1
  stays epoch := (houtput.2 epoch).2

theorem moveOk_confirmed {epoch : UInt64} (hepoch : epoch = w.ownerEpoch) (hne : epoch ≠ 0)
    (hholds : ∀ c, phase.holds = some c → (w.cells c).cellBusy = some thread)
    (hphase : PhaseOk pubs w.cells phase) :
    MoveOk pubs w thread { phase := phase, output := .confirmed epoch } where
  legal := ⟨fun _ _ h => (by cases h), hholds⟩
  cell _ _ h := by cases h
  phase := by simpa [published, putCell] using hphase
  tickets := UInt64.le_refl _
  fresh _ h := by cases h
  confirmed e h := by cases h; exact ⟨hepoch, hne⟩
  stays _ h := by cases h

theorem moveOk_change {n : ℕ}
    (hown : (w.cells n).cellBusy = none ∨ (w.cells n).cellBusy = some thread)
    (hholds : ∀ c, phase.holds = some c → c = n ∧ cell.cellBusy = some thread)
    (hcell : CellOk pubs cell) (hphase : PhaseOk pubs (Function.update w.cells n cell) phase) :
    MoveOk pubs w thread { phase := phase, change := some (n, cell) } where
  legal := {
    own := by
      rintro _ _ ⟨⟩
      exact hown
    taken := by
      intro c hc
      obtain ⟨rfl, hbusy⟩ := hholds c hc
      simpa [putCell] using hbusy }
  cell := by
    rintro _ _ ⟨⟩
    simpa [published] using hcell
  phase := by simpa [published, putCell] using hphase
  tickets := UInt64.le_refl _
  fresh _ h := by cases h
  confirmed _ h := by cases h
  stays _ h := by cases h

theorem tryCell_some {taken : Cell} (h : cell.tryCell thread = some taken) :
    cell.cellBusy = none ∧ taken = { cell with cellBusy := some thread } := by
  unfold Cell.tryCell at h
  split at h
  · rename_i hnone
    exact ⟨Option.isNone_iff_eq_none.mp hnone, (Option.some.inj h).symm⟩
  · cases h

theorem quiet_nothing : Quiet .nothing := ⟨rfl, by simp⟩

theorem moveOk_free (hfree : phase.holds = none) (hphase : PhaseOk pubs w.cells phase) :
    MoveOk pubs w thread { phase := phase } :=
  moveOk_still quiet_nothing (fun c hc => by rw [hfree] at hc; cases hc) hphase

theorem moveOk_held {n : ℕ} (hheld : phase.holds = some n)
    (hbusy : (w.cells n).cellBusy = some thread) (hphase : PhaseOk pubs w.cells phase) :
    MoveOk pubs w thread { phase := phase } :=
  moveOk_still quiet_nothing (fun c hc => by rw [hheld] at hc; exact Option.some.inj hc ▸ hbusy) hphase

theorem lt_succ_of_ne {value : UInt64} (h : value ≠ 0xffffffffffffffff) : value < value + 1 := by
  have hlt := value.toNat_lt
  have hne : value.toNat ≠ 2^64 - 1 := fun heq => h (UInt64.toNat_inj.mp heq)
  rw [UInt64.lt_iff_toNat_lt, UInt64.toNat_add, UInt64.toNat_one, Nat.mod_eq_of_lt (by omega)]
  exact Nat.lt_succ_self _

theorem nextTicket_spec {value : UInt64} (h : (nextTicket value).1 ≠ 0) :
    (nextTicket value).2 = (nextTicket value).1 ∧ value < (nextTicket value).1 := by
  unfold nextTicket at h ⊢
  split at h
  · exact absurd rfl h
  · rename_i hmax
    rw [if_neg hmax]
    exact ⟨rfl, lt_succ_of_ne hmax⟩

theorem nextTicket_le (value : UInt64) : value ≤ (nextTicket value).2 := by
  unfold nextTicket
  split
  · exact UInt64.le_refl _
  · rename_i hmax
    exact UInt64.le_of_lt (lt_succ_of_ne hmax)

/-! ## Each function -/

variable (hholds : ∀ c, (w.threads thread).holds = some c → (w.cells c).cellBusy = some thread)
  (hcells : ∀ c, CellOk pubs (w.cells c))

include hholds hcells

theorem goForget_ok {c : Capture} {part : Ptr} {p : ForgetPhase}
    (hphase : w.threads thread = .forget c part p) : MoveOk pubs w thread (w.goForget thread c part p) := by
  rw [hphase] at hholds
  unfold World.goForget
  cases p with
  | trying =>
    dsimp only
    split
    · exact moveOk_free rfl trivial
    · rename_i taken htaken
      obtain ⟨hfree, rfl⟩ := tryCell_some htaken
      exact moveOk_change (.inl hfree) (by simp [Phase.holds]) (hcells _) trivial
  | entered =>
    have hbusy := hholds _ rfl
    refine moveOk_change (.inr hbusy) ?_ ?_ trivial
    · intro n hn
      refine ⟨(Option.some.inj hn).symm, ?_⟩
      split <;> exact hbusy
    · split
      · exact cellOk_of_unsealed rfl
      · exact hcells _
  | releasing =>
    exact moveOk_change (.inr (hholds _ rfl)) (by simp [Phase.holds]) (hcells _) trivial

variable {memory : Memory}

theorem goRecord_ok {setup : PaletteSetup} {c : Option Capture} {b : Binding} {p : RecordPhase}
    (hphase : w.threads thread = .record c b p) (hok : PhaseOk pubs w.cells (.record c b p)) :
    MoveOk pubs w thread (w.goRecord setup thread memory c b p) := by
  rw [hphase] at hholds
  have hresume : ∀ n, (resume c).holds ≠ some n := by cases c <;> simp [resume, Phase.holds]
  have hresumed : ∀ cells, PhaseOk pubs cells (resume c) := by
    intro cells
    cases c <;> trivial
  unfold World.goRecord
  cases p with
  | trying =>
    dsimp only
    split
    · exact moveOk_still quiet_nothing (fun n hn => absurd hn (hresume n)) (hresumed _)
    · split
      · exact moveOk_still quiet_nothing (fun n hn => absurd hn (hresume n)) (hresumed _)
      · rename_i taken htaken
        obtain ⟨hfree, rfl⟩ := tryCell_some htaken
        refine moveOk_change (.inl hfree) ?_ (cellOk_of_unsealed rfl) ?_
        · exact fun n hn => ⟨(Option.some.inj hn).symm, rfl⟩
        · simp [PhaseOk, Cell.clearSelection]
  | entered =>
    have hbusy := hholds _ rfl
    dsimp only
    split
    · exact moveOk_held rfl hbusy trivial
    · exact moveOk_held rfl hbusy hok
  | admitted =>
    have hbusy := hholds _ rfl
    dsimp only
    split
    · refine moveOk_change (.inr hbusy) ?_ (cellOk_of_unsealed hok) ?_
      · exact fun n hn => ⟨(Option.some.inj hn).symm, hbusy⟩
      · -- The matrices are written over the first ones of the cell.
        simp only [PhaseOk, Function.update_self]
        exact ⟨hok, by simp [Cell.write], by simp⟩
    · refine moveOk_change (.inr hbusy) ?_ (cellOk_of_unsealed hok) trivial
      exact fun n hn => ⟨(Option.some.inj hn).symm, hbusy⟩
  | copied matrices hash =>
    have hbusy := hholds _ rfl
    dsimp only
    split
    · exact moveOk_held rfl hbusy hok
    · exact moveOk_held rfl hbusy trivial
  | stable matrices hash =>
    have hbusy := hholds _ rfl
    dsimp only
    split
    · exact moveOk_held rfl hbusy hok
    · exact moveOk_held rfl hbusy trivial
  | proven matrices hash =>
    have hbusy := hholds _ rfl
    dsimp only
    generalize hnext : nextTicket w.publicationTicket = next
    obtain ⟨ticket, counter⟩ := next
    dsimp only
    have hlegal : Legal Cell.cellBusy Phase.holds w.cells thread (.record c b .finishing)
        (some (cellOf b.renderablePart, { w.cells (cellOf b.renderablePart) with
          sealedSelection := sealedOf b hash ticket })) := {
      own := by
        rintro _ _ ⟨⟩
        exact .inr hbusy
      taken := by
        intro n hn
        obtain rfl := Option.some.inj hn
        simpa [putCell] using hbusy }
    have hcounter : w.publicationTicket ≤ counter := by
      have hle := nextTicket_le w.publicationTicket
      rwa [hnext] at hle
    by_cases hticket : ticket = 0
    · -- No ticket is left, and what is sealed has none.
      rw [if_pos hticket]
      exact {
        legal := hlegal
        cell := by
          rintro _ _ ⟨⟩
          exact cellOk_of_unsealed hticket
        phase := trivial
        tickets := hcounter
        fresh := by rintro _ ⟨⟩
        confirmed := by rintro _ ⟨⟩
        stays := by rintro _ ⟨⟩ }
    · rw [if_neg hticket]
      obtain ⟨heq, hlt⟩ := @nextTicket_spec w.publicationTicket (by rwa [hnext])
      rw [hnext] at heq hlt
      exact {
        legal := hlegal
        cell := by
          rintro _ _ ⟨⟩ -
          refine ⟨⟨b, matrices, ticket⟩, ?_, ⟨rfl, rfl, rfl, rfl, rfl, rfl, hok.count⟩, hok.palette⟩
          exact List.mem_append_right _ (List.mem_singleton_self _)
        phase := trivial
        tickets := hcounter
        fresh := by
          rintro _ ⟨⟩
          exact ⟨hlt, UInt64.le_of_eq heq.symm⟩
        confirmed := by rintro _ ⟨⟩
        stays := by rintro _ ⟨⟩ }
  | finishing =>
    have hbusy := hholds _ rfl
    refine moveOk_change (.inr hbusy) ?_ (hcells _) trivial
    exact fun n hn => ⟨(Option.some.inj hn).symm, hbusy⟩
  | releasing =>
    exact moveOk_change (.inr (hholds _ rfl)) (fun n hn => absurd hn (hresume n)) (hcells _)
      (hresumed _)

theorem goQuery_ok {setup : PaletteSetup} {q : Query} {p : QueryPhase}
    (hphase : w.threads thread = .query q p) (hok : PhaseOk pubs w.cells (.query q p)) :
    MoveOk pubs w thread (w.goQuery setup thread memory q p) := by
  rw [hphase] at hholds
  unfold World.goQuery
  cases p with
  | begun =>
    dsimp only
    split
    · exact moveOk_free rfl trivial
    · split <;> exact moveOk_free rfl trivial
  | read currentSlot currentFrame =>
    exact moveOk_free rfl trivial
  | asked currentSlot currentFrame epoch =>
    dsimp only
    split
    · exact moveOk_free rfl trivial
    · rename_i taken htaken
      obtain ⟨hfree, rfl⟩ := tryCell_some htaken
      refine moveOk_change (.inl hfree) ?_ (hcells _) trivial
      exact fun n hn => ⟨(Option.some.inj hn).symm, rfl⟩
  | entered currentSlot currentFrame epoch =>
    have hbusy := hholds _ rfl
    dsimp only
    split
    · rename_i hmatches
      refine moveOk_held rfl hbusy ?_
      simp only [ownedSnapshotMatches, groupRange, Bool.and_eq_true, decide_eq_true_eq] at hmatches
      obtain ⟨⟨⟨⟨⟨⟨⟨⟨⟨⟨⟨⟨⟨⟨⟨⟨⟨-, -⟩, -⟩, -⟩, -⟩, hepoch⟩, -⟩, hmodel⟩, hpart⟩, howner⟩, hticket⟩, -⟩, -⟩, -⟩,
        -⟩, hrange⟩, -⟩, -⟩ := hmatches
      -- The selection has a ticket, so it goes with the matrices of its publication.
      obtain ⟨p, hp, hnames, hpalette⟩ := hcells _ hticket
      have hrequired : q.required.toNat ≤ p.matrices.length := by
        rw [hnames.count]
        exact UInt32.le_iff_toNat_le.mp hrange.2
      refine ⟨⟨p, hp, hnames, hmodel, hpart, hrequired, ?_⟩, howner, hepoch⟩
      calc (w.cells (cellOf q.part)).palette.take q.required.toNat
          = ((w.cells (cellOf q.part)).palette.take p.matrices.length).take q.required.toNat := by
            rw [List.take_take, Nat.min_eq_left hrequired]
        _ = p.matrices.take q.required.toNat := by rw [hpalette]
    · exact moveOk_held rfl hbusy trivial
  | copied currentSlot currentFrame epoch answer =>
    have hbusy := hholds _ rfl
    dsimp only
    split
    · exact moveOk_held rfl hbusy hok
    · exact moveOk_held rfl hbusy trivial
  | stable epoch answer =>
    have hbusy := hholds _ rfl
    obtain ⟨selection, out⟩ := answer
    obtain ⟨⟨p, hp, hnames, hrest⟩, -, hne⟩ := hok
    dsimp only
    split
    · rename_i hepoch
      refine moveOk_confirmed hepoch hne (fun n hn => Option.some.inj hn ▸ hbusy) ?_
      exact ⟨p, hp, ⟨hnames.ticket, hnames.runtimeModel, hnames.part, hnames.slot, hnames.frameTag,
        hnames.ownerEpoch, hnames.count⟩, hrest⟩
    · exact moveOk_held rfl hbusy trivial
  | releasing result =>
    refine moveOk_change (.inr (hholds _ rfl)) (by simp [Phase.holds]) (hcells _) ?_
    cases result with
    | none => trivial
    | some answer => exact hok
  | returning result =>
    exact moveOk_still ⟨rfl, by simp⟩ (by simp [Phase.holds]) trivial

theorem goJudge_ok {selected : Selection} {p : JudgePhase}
    (hphase : w.threads thread = .judge selected p)
    (hok : PhaseOk pubs w.cells (.judge selected p)) :
    MoveOk pubs w thread (w.goJudge thread memory selected p) := by
  rw [hphase] at hholds
  unfold World.goJudge
  cases p with
  | begun =>
    dsimp only
    split
    · exact moveOk_free rfl trivial
    · split_ifs
      · exact moveOk_free rfl trivial
      · exact moveOk_free rfl trivial
      · split <;> exact moveOk_free rfl trivial
      · split <;> exact moveOk_free rfl trivial
  | read slot frame =>
    dsimp only
    split
    · rename_i hmatches
      refine moveOk_free rfl ?_
      simp only [ownedSnapshotMatches, Bool.and_eq_true, decide_eq_true_eq] at hmatches
      obtain ⟨⟨⟨⟨⟨⟨⟨⟨⟨⟨⟨-, hepoch⟩, -⟩, -⟩, -⟩, howner⟩, -⟩, -⟩, -⟩, -⟩, -⟩, -⟩ := hmatches
      exact fun hzero => hepoch (howner ▸ hzero)
    · exact moveOk_free rfl trivial
  | asked =>
    dsimp only
    split
    · exact moveOk_free rfl trivial
    · rename_i taken htaken
      obtain ⟨hfree, rfl⟩ := tryCell_some htaken
      refine moveOk_change (.inl hfree) ?_ (hcells _) hok
      exact fun n hn => ⟨(Option.some.inj hn).symm, rfl⟩
  | entered =>
    have hbusy := hholds _ rfl
    dsimp only
    split
    · exact moveOk_held rfl hbusy hok
    · exact moveOk_held rfl hbusy trivial
  | compared =>
    have hbusy := hholds _ rfl
    dsimp only
    split
    · rename_i hepoch
      exact moveOk_confirmed hepoch hok (fun n hn => Option.some.inj hn ▸ hbusy) trivial
    · exact moveOk_held rfl hbusy trivial
  | releasing result =>
    exact moveOk_change (.inr (hholds _ rfl)) (by simp [Phase.holds]) (hcells _) trivial
  | returning result =>
    exact moveOk_still ⟨rfl, by simp⟩ (by simp [Phase.holds]) trivial

theorem move_ok (setup : PaletteSetup) (memory : Memory)
    (hok : PhaseOk pubs w.cells (w.threads thread)) :
    MoveOk pubs w thread (w.move setup thread memory) := by
  unfold World.move
  split
  · exact moveOk_free rfl trivial
  · unfold World.goBegun
    split
    · split <;> exact moveOk_free rfl trivial
    · exact moveOk_free rfl trivial
  · unfold World.goCapture
    split_ifs
    · exact moveOk_free rfl trivial
    · dsimp only
      split
      · exact moveOk_free rfl trivial
      · split_ifs <;> exact moveOk_free rfl trivial
  · rename_i hphase
    exact goForget_ok hholds hcells hphase
  · rename_i hphase
    exact goRecord_ok hholds hcells hphase (hphase ▸ hok)
  · rename_i hphase
    exact goQuery_ok hholds hcells hphase (hphase ▸ hok)
  · rename_i hphase
    exact goJudge_ok hholds hcells hphase (hphase ▸ hok)

end War3VK.Model.SkinPalette
