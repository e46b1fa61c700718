import War3VK.Model.SkinPaletteSpec

/-!
# Runs of the skin palettes

In every run a query that succeeds returns the matrices of one publication, no ticket is drawn twice,
and a call that returns or judges a selection has found its epoch to be the owner epoch in its last load
of it. What follows the last load is no part of this: a reset that comes between it and the return is
complete when an older selection is returned (`stale_returned`).
-/

namespace War3VK.Model.SkinPalette

open Lib

abbrev Happened := Record World Event Output

def publications (past : List Happened) : List Publication :=
  past.filterMap fun r => published r.output

def Older (epoch left : UInt64) : Prop := left = 0 ∨ epoch < left

/-- The owner epoch has come to one that a reset has left, or is given up. -/
def Reached (left now : UInt64) : Prop := now = 0 ∨ left ≠ 0 ∧ left ≤ now

/-- A thread has confirmed an epoch, and nothing was seen of its steps since. -/
def Confirmed (thread : ℕ) (epoch : UInt64) (past : List Happened) : Prop :=
  ∃ before r after, past = before ++ r :: after ∧ (∃ memory, r.call = .go thread memory) ∧
    r.output = .confirmed epoch ∧
      ∀ x ∈ after, ∀ memory, x.call = .go thread memory → x.output = .nothing

def Phase.owes : Phase → Option UInt64
  | .query _ (.releasing (some answer)) => some answer.1.ownerEpoch
  | .query _ (.returning (some answer)) => some answer.1.ownerEpoch
  | .judge selected (.releasing true) => some selected.ownerEpoch
  | .judge selected (.returning true) =>
    if selected.source = .capturedWriter then none else some selected.ownerEpoch
  | _ => none

structure Inv (w : World) (past : List Happened) : Prop where
  exclusive : Exclusive Cell.cellBusy Phase.holds w.cells w.threads
  cells : ∀ c, CellOk (publications past) (w.cells c)
  threads : ∀ t, PhaseOk (publications past) w.cells (w.threads t)
  ordered : (publications past).Pairwise fun p p' => p.ticket < p'.ticket
  drawn : ∀ p ∈ publications past, p.ticket ≤ w.publicationTicket
  advancing : w.reset = .advancing → w.ownerEpoch ≠ 0
  left : ∀ r ∈ past, ∀ epoch, r.output = .epochChanged epoch → Reached epoch w.ownerEpoch
  owed : ∀ t epoch, (w.threads t).owes = some epoch → Confirmed t epoch past

/-! ## One step -/

variable {w : World} {past : List Happened} {r : Happened}

theorem publications_concat (past : List Happened) (r : Happened) :
    publications (past ++ [r]) = publications past ++ (published r.output).toList := by
  rw [publications, List.filterMap_append, publications]
  cases h : published r.output <;> simp [h]

theorem Confirmed.concat {t : ℕ} {epoch : UInt64} (h : Confirmed t epoch past)
    (hr : ∀ memory, r.call = .go t memory → r.output = .nothing) :
    Confirmed t epoch (past ++ [r]) := by
  obtain ⟨before, r0, after, rfl, hcall, houtput, hafter⟩ := h
  refine ⟨before, r0, after ++ [r], by simp, hcall, houtput, ?_⟩
  intro x hx
  obtain hx | hx := List.mem_append.mp hx
  · exact hafter x hx
  · rw [List.mem_singleton.mp hx]
    exact hr

theorem Confirmed.last {t : ℕ} {epoch : UInt64} {memory : Memory} (hcall : r.call = .go t memory)
    (houtput : r.output = .confirmed epoch) : Confirmed t epoch (past ++ [r]) :=
  ⟨past, r, [], rfl, ⟨memory, hcall⟩, houtput, by simp⟩

inductive Seen (phase : Phase) : Move → Prop
  | quiet (m : Move) (howes : m.phase.owes = none)
    (houtput : m.output = .nothing ∨ (published m.output).isSome) : Seen phase m
  | confirmed (m : Move) (epoch : UInt64) (howes : m.phase.owes = some epoch)
    (houtput : m.output = .confirmed epoch) : Seen phase m
  | released (m : Move) (howes : ∀ epoch, m.phase.owes = some epoch → phase.owes = some epoch)
    (houtput : m.output = .nothing) : Seen phase m
  | queried (q : Query) (result : Option Answer) (hphase : phase = .query q (.returning result)) :
    Seen phase { phase := .idle, output := .queried q result }
  | judged (selected : Selection) (result : Bool)
    (hphase : phase = .judge selected (.returning result)) :
    Seen phase { phase := .idle, output := .judged selected result }

theorem move_seen (setup : PaletteSetup) (thread : ℕ) (memory : Memory) {pubs : List Publication}
    (hok : PhaseOk pubs w.cells (w.threads thread)) :
    Seen (w.threads thread) (w.move setup thread memory) := by
  unfold World.move
  generalize w.threads thread = phase at hok ⊢
  cases phase with
  | idle => exact .quiet _ rfl (.inl rfl)
  | begun runtimeModel captureSimpleFallbackSlots =>
    dsimp only [World.goBegun]
    split
    · split <;> exact .quiet _ rfl (.inl rfl)
    · exact .quiet _ rfl (.inl rfl)
  | capture c =>
    dsimp only [World.goCapture]
    split
    · exact .quiet _ rfl (.inl rfl)
    · split
      · exact .quiet _ rfl (.inl rfl)
      · split
        · exact .quiet _ rfl (.inl rfl)
        · split <;> exact .quiet _ rfl (.inl rfl)
  | forget c part p =>
    cases p with
    | trying =>
      dsimp only [World.goForget]
      split <;> exact .quiet _ rfl (.inl rfl)
    | _ => exact .quiet _ rfl (.inl rfl)
  | record c b p =>
    have hresume : (resume c).owes = none := by cases c <;> rfl
    cases p <;> dsimp only [World.goRecord]
    case trying =>
      split
      · exact .quiet _ hresume (.inl rfl)
      · split
        · exact .quiet _ hresume (.inl rfl)
        · exact .quiet _ rfl (.inl rfl)
    case proven =>
      refine .quiet _ rfl ?_
      dsimp only
      split
      · exact .inl rfl
      · exact .inr rfl
    case finishing => exact .quiet _ rfl (.inl rfl)
    case releasing => exact .quiet _ hresume (.inl rfl)
    all_goals split <;> exact .quiet _ rfl (.inl rfl)
  | query q p =>
    cases p <;> dsimp only [World.goQuery]
    case begun =>
      split
      · exact .quiet _ rfl (.inl rfl)
      · split <;> exact .quiet _ rfl (.inl rfl)
    case read => exact .quiet _ rfl (.inl rfl)
    case stable epoch answer =>
      obtain ⟨-, howner, -⟩ := hok
      split
      · exact .confirmed _ epoch (congrArg some howner) rfl
      · exact .quiet _ rfl (.inl rfl)
    case releasing result =>
      refine .released _ (fun epoch howes => ?_) rfl
      cases result <;> exact howes
    case returning result => exact .queried q result rfl
    all_goals split <;> exact .quiet _ rfl (.inl rfl)
  | judge selected p =>
    cases p <;> dsimp only [World.goJudge]
    case begun =>
      split
      · exact .quiet _ rfl (.inl rfl)
      · split
        · exact .quiet _ rfl (.inl rfl)
        · split
          · rename_i hwriter
            exact .quiet _ (if_pos hwriter) (.inl rfl)
          · split
            · exact .quiet _ rfl (.inl rfl)
            · split <;> exact .quiet _ rfl (.inl rfl)
    case compared =>
      split
      · exact .confirmed _ selected.ownerEpoch rfl rfl
      · exact .quiet _ rfl (.inl rfl)
    case releasing result =>
      refine .released _ (fun epoch howes => ?_) rfl
      cases result with
      | false => cases howes
      | true =>
        dsimp only [Phase.owes] at howes ⊢
        split at howes
        · cases howes
        · exact howes
    case returning result => exact .judged selected result rfl
    all_goals split <;> exact .quiet _ rfl (.inl rfl)

theorem Seen.owes {phase : Phase} {m : Move} (h : Seen phase m) {epoch : UInt64}
    (howes : m.phase.owes = some epoch) :
    m.output = .confirmed epoch ∨ m.output = .nothing ∧ phase.owes = some epoch := by
  cases h with
  | quiet m hnone houtput =>
    rw [hnone] at howes
    cases howes
  | confirmed m epoch' hsome houtput =>
    rw [hsome] at howes
    exact .inl (Option.some.inj howes ▸ houtput)
  | released m hpassed houtput => exact .inr ⟨houtput, hpassed epoch howes⟩
  | queried q result hphase => cases howes
  | judged selected result hphase => cases howes

theorem Seen.of_queried {phase : Phase} {m : Move} (h : Seen phase m) {q : Query}
    {result : Option Answer} (houtput : m.output = .queried q result) :
    phase = .query q (.returning result) := by
  cases h with
  | quiet m hnone hquiet => simp [houtput, published] at hquiet
  | confirmed m epoch hsome hconfirmed => simp [houtput] at hconfirmed
  | released m hpassed hnothing => simp [houtput] at hnothing
  | queried q' result' hphase =>
    obtain ⟨rfl, rfl⟩ := Output.queried.inj houtput
    exact hphase
  | judged selected result' hphase => cases houtput

theorem Seen.of_judged {phase : Phase} {m : Move} (h : Seen phase m) {selected : Selection}
    {result : Bool} (houtput : m.output = .judged selected result) :
    phase = .judge selected (.returning result) := by
  cases h with
  | quiet m hnone hquiet => simp [houtput, published] at hquiet
  | confirmed m epoch hsome hconfirmed => simp [houtput] at hconfirmed
  | released m hpassed hnothing => simp [houtput] at hnothing
  | queried q result' hphase => cases houtput
  | judged selected' result' hphase =>
    obtain ⟨rfl, rfl⟩ := Output.judged.inj houtput
    exact hphase

theorem Inv.go (h : Inv w past) (setup : PaletteSetup) (thread : ℕ) (memory : Memory) :
    Inv (w.step setup (.go thread memory)).2
      (past ++ [record (World.step setup) w (.go thread memory)]) := by
  have hmove := move_ok (h.exclusive thread) h.cells setup memory (h.threads thread)
  have hseen := move_seen setup thread memory (h.threads thread)
  change Inv (w.moved thread (w.move setup thread memory)) _
  have hpubs : publications (past ++ [record (World.step setup) w (.go thread memory)]) =
      publications past ++ (published (w.move setup thread memory).output).toList :=
    publications_concat past _
  have hcall : (record (World.step setup) w (.go thread memory)).call = .go thread memory := rfl
  have houtput : (record (World.step setup) w (.go thread memory)).output =
      (w.move setup thread memory).output := rfl
  generalize record (World.step setup) w (.go thread memory) = r at hpubs hcall houtput ⊢
  generalize w.move setup thread memory = m at hmove hseen hpubs houtput
  have hsub : publications past ⊆ publications (past ++ [r]) := by
    rw [hpubs]
    exact List.subset_append_left _ _
  exact {
    exclusive := h.exclusive.move hmove.legal
    cells := by
      intro c
      change CellOk _ (putCell m.change w.cells c)
      have hchanged := hmove.cell
      rw [← hpubs] at hchanged
      generalize m.change = change at hchanged ⊢
      cases change with
      | none => exact (h.cells c).mono hsub
      | some changed =>
        obtain ⟨n, cell⟩ := changed
        change CellOk _ (Function.update w.cells n cell c)
        by_cases heq : c = n
        · subst heq
          rw [Function.update_self]
          exact hchanged c cell rfl
        · rw [Function.update_of_ne heq]
          exact (h.cells c).mono hsub
    threads := by
      intro t
      change PhaseOk _ (putCell m.change w.cells) (Function.update w.threads thread m.phase t)
      by_cases heq : t = thread
      · subst heq
        rw [Function.update_self, hpubs]
        exact hmove.phase
      · rw [Function.update_of_ne heq]
        refine (h.threads t).frame hsub fun c hc => ?_
        rw [h.exclusive.untouched hmove.legal heq hc]
        exact ⟨rfl, rfl⟩
    ordered := by
      rw [hpubs]
      refine List.pairwise_append.mpr ⟨h.ordered, ?_, ?_⟩
      · cases published m.output <;> simp
      · intro p hp p' hp'
        have hfresh := hmove.fresh p' (Option.mem_toList.mp hp')
        exact UInt64.lt_of_le_of_lt (h.drawn p hp) hfresh.1
    drawn := by
      rw [hpubs]
      intro p hp
      obtain hp | hp := List.mem_append.mp hp
      · exact UInt64.le_trans (h.drawn p hp) hmove.tickets
      · exact (hmove.fresh p (Option.mem_toList.mp hp)).2
    advancing := h.advancing
    left := by
      intro x hx epoch hepoch
      obtain hx | hx := List.mem_append.mp hx
      · exact h.left x hx epoch hepoch
      · rw [List.mem_singleton.mp hx, houtput] at hepoch
        exact absurd hepoch (hmove.stays epoch)
    owed := by
      intro t epoch ht
      change (Function.update w.threads thread m.phase t).owes = some epoch at ht
      by_cases heq : t = thread
      · subst heq
        rw [Function.update_self] at ht
        obtain hconfirmed | ⟨hnothing, hbefore⟩ := hseen.owes ht
        · exact .last hcall (houtput.trans hconfirmed)
        · exact (h.owed t epoch hbefore).concat fun _ _ => houtput.trans hnothing
      · rw [Function.update_of_ne heq] at ht
        refine (h.owed t epoch ht).concat fun _ hother => ?_
        rw [hcall] at hother
        exact absurd (Event.go.inj hother).1.symm heq }

theorem Inv.quiet (h : Inv w past) {w' : World} (hpublished : published r.output = none)
    (hgo : ∀ t memory, r.call ≠ .go t memory)
    (hcells : ∀ c, (w'.cells c).cellBusy = (w.cells c).cellBusy ∧
      (w'.cells c).sealedSelection = (w.cells c).sealedSelection ∧
      (w'.cells c).palette = (w.cells c).palette)
    (hthreads : ∀ t, w'.threads t = w.threads t ∨ (w'.threads t).holds = none ∧ (w'.threads t).owes = none ∧
        ∀ pubs cells, PhaseOk pubs cells (w'.threads t))
    (hticket : w'.publicationTicket = w.publicationTicket)
    (hadvancing : w'.reset = .advancing → w'.ownerEpoch ≠ 0)
    (hleft : ∀ epoch, Reached epoch w.ownerEpoch → Reached epoch w'.ownerEpoch)
    (hchanged : ∀ epoch, r.output = .epochChanged epoch → Reached epoch w'.ownerEpoch) :
    Inv w' (past ++ [r]) := by
  have hpubs : publications (past ++ [r]) = publications past := by
    rw [publications_concat, hpublished, Option.toList_none, List.append_nil]
  exact {
    exclusive := by
      intro t c hc
      rw [(hcells c).1]
      obtain heq | hidle := hthreads t
      · exact h.exclusive t c (heq ▸ hc)
      · rw [hidle.1] at hc
        cases hc
    cells := by
      intro c
      have hcell := h.cells c
      unfold CellOk at hcell ⊢
      rwa [(hcells c).2.1, (hcells c).2.2, hpubs]
    threads := by
      intro t
      obtain heq | hidle := hthreads t
      · rw [heq, hpubs]
        exact (h.threads t).frame (List.Subset.refl _) fun c _ => (hcells c).2
      · exact hidle.2.2 _ _
    ordered := hpubs ▸ h.ordered
    drawn := by
      rw [hpubs, hticket]
      exact h.drawn
    advancing := hadvancing
    left := by
      intro x hx epoch hepoch
      obtain hx | hx := List.mem_append.mp hx
      · exact hleft epoch (h.left x hx epoch hepoch)
      · rw [List.mem_singleton.mp hx] at hepoch
        exact hchanged epoch hepoch
    owed := by
      intro t epoch ht
      obtain heq | hidle := hthreads t
      · exact (h.owed t epoch (heq ▸ ht)).concat fun memory hr => absurd hr (hgo t memory)
      · rw [hidle.2.1] at ht
        cases ht }

theorem Reached.advance {epoch now : UInt64} (h : Reached epoch now) (hne : now ≠ 0)
    (hmax : now ≠ 0xffffffffffffffff) : Reached epoch (now + 1) := by
  obtain hzero | ⟨hepoch, hle⟩ := h
  · exact absurd hzero hne
  · exact .inr ⟨hepoch, UInt64.le_trans hle (UInt64.le_of_lt (lt_succ_of_ne hmax))⟩

theorem Inv.goReset (h : Inv w past) (setup : PaletteSetup) :
    Inv (w.step setup .goReset).2 (past ++ [record (World.step setup) w .goReset]) := by
  have hsame : ∀ c, (w.cells c).cellBusy = (w.cells c).cellBusy ∧
      (w.cells c).sealedSelection = (w.cells c).sealedSelection ∧
      (w.cells c).palette = (w.cells c).palette := fun _ => ⟨rfl, rfl, rfl⟩
  have hcall : (record (World.step setup) w .goReset).call = .goReset := rfl
  have houtput : (record (World.step setup) w .goReset).output = w.goReset.1 := rfl
  change Inv w.goReset.2 _
  generalize record (World.step setup) w .goReset = r at hcall houtput ⊢
  have hgo : ∀ t memory, r.call ≠ .go t memory := by simp [hcall]
  unfold World.goReset at houtput ⊢
  cases hreset : w.reset with
  | idle =>
    rw [hreset] at houtput
    exact h.quiet (by simp [houtput, published]) hgo hsame (fun _ => .inl rfl) rfl (by simp [hreset])
      (fun _ => id) (by simp [houtput])
  | begun =>
    rw [hreset] at houtput
    refine h.quiet (by simp [houtput, published]) hgo hsame (fun _ => .inl rfl) rfl ?_
      (fun _ => id) (by simp [houtput])
    dsimp only
    split
    · simp
    · rename_i hne
      exact fun _ => hne
  | advancing =>
    rw [hreset] at houtput
    have hne := h.advancing hreset
    dsimp only at houtput ⊢
    split
    · rename_i hticket
      rw [if_pos hticket] at houtput
      exact h.quiet (by simp [houtput, published]) hgo hsame (fun _ => .inl rfl) rfl (by simp)
        (fun _ => id) (by simp [houtput])
    · rename_i hticket
      rw [if_neg hticket] at houtput
      -- The epoch was not at its end, and the next one is a new one.
      have hmax : w.ownerEpoch ≠ 0xffffffffffffffff := fun hmax => hticket (by simp [nextTicket, hmax])
      have hnext : (nextTicket w.ownerEpoch).2 = w.ownerEpoch + 1 := by simp [nextTicket, hmax]
      have hpositive : w.ownerEpoch + 1 ≠ 0 := by
        have hlt := lt_succ_of_ne hmax
        intro hzero
        rw [hzero] at hlt
        exact absurd hlt (by simp)
      rw [hnext] at houtput ⊢
      refine h.quiet (by simp [houtput, published]) hgo hsame (fun _ => .inl rfl) rfl (by simp)
        (fun _ hreached => hreached.advance hne hmax) ?_
      intro epoch hepoch
      obtain rfl := Output.epochChanged.inj (houtput.symm.trans hepoch)
      exact .inr ⟨hpositive, UInt64.le_refl _⟩
  | exhausted =>
    rw [hreset] at houtput
    exact h.quiet (by simp [houtput, published]) hgo hsame (fun _ => .inl rfl) rfl (by simp)
      (fun _ _ => .inl rfl) (fun _ _ => .inl rfl)
  | clearing n =>
    rw [hreset] at houtput
    dsimp only at houtput ⊢
    split
    · rename_i hlt
      rw [if_pos hlt] at houtput
      refine h.quiet (by simp [houtput, published]) hgo ?_ (fun _ => .inl rfl) rfl (by simp)
        (fun _ => id) (by simp [houtput])
      intro c
      by_cases heq : c = n
      · subst heq
        simp
      · simp [Function.update_of_ne heq]
    · rename_i hlt
      rw [if_neg hlt] at houtput
      exact h.quiet (by simp [houtput, published]) hgo hsame (fun _ => .inl rfl) rfl (by simp)
        (fun _ => id) (by simp [houtput])

theorem Inv.step (h : Inv w past) (setup : PaletteSetup) (event : Event) :
    Inv (w.step setup event).2 (past ++ [record (World.step setup) w event]) := by
  have hsame : ∀ c, (w.cells c).cellBusy = (w.cells c).cellBusy ∧
      (w.cells c).sealedSelection = (w.cells c).sealedSelection ∧
      (w.cells c).palette = (w.cells c).palette := fun _ => ⟨rfl, rfl, rfl⟩
  cases event with
  | call thread call =>
    unfold World.step
    dsimp only
    split
    · refine h.quiet rfl (by simp [record]) hsame ?_ rfl h.advancing (fun _ => id) (by simp [record])
      intro t
      by_cases heq : t = thread
      · subst heq
        refine .inr ?_
        dsimp only
        rw [Function.update_self]
        cases call with
        | capture runtimeModel captureSimpleFallbackSlots =>
          unfold World.enter
          dsimp only
          split <;> exact ⟨rfl, rfl, fun _ _ => trivial⟩
        | record b => exact ⟨rfl, rfl, fun _ _ => trivial⟩
        | query q => exact ⟨rfl, rfl, fun _ _ => trivial⟩
        | judge selected => exact ⟨rfl, rfl, fun _ _ => trivial⟩
      · exact .inl (Function.update_of_ne heq _ _)
    · exact h.quiet rfl (by simp [record]) hsame (fun _ => .inl rfl) rfl h.advancing (fun _ => id)
        (by simp [record])
  | go thread memory => exact h.go setup thread memory
  | resetMapSession =>
    unfold World.step
    dsimp only
    split
    · exact h.quiet rfl (by simp [record]) hsame (fun _ => .inl rfl) rfl (by simp) (fun _ => id)
        (by simp [record])
    · exact h.quiet rfl (by simp [record]) hsame (fun _ => .inl rfl) rfl h.advancing (fun _ => id)
        (by simp [record])
  | goReset => exact h.goReset setup

/-! ## Runs -/

theorem inv_init : Inv {} [] where
  exclusive _ _ h := by cases h
  cells _ h := absurd rfl h
  threads _ := trivial
  ordered := .nil
  drawn _ h := by cases h
  advancing h := by cases h
  left _ h := by cases h
  owed _ _ h := by cases h

theorem inv_run (setup : PaletteSetup) (events : List Event) :
    Inv (run (World.step setup) events {}) (history (World.step setup) events {}) :=
  history_induction (World.step setup) inv_init (fun _ _ event h => h.step setup event) events

structure PaletteLaw (past : List Happened) : Prop where
  /-- The matrices that a query returns are the first ones of those that one recording call has decoded:
  the call of this model and part, at this slot and frame, with this ticket and under this epoch. -/
  owned : ∀ before r after q selection out, past = before ++ r :: after →
    r.output = .queried q (some (selection, out)) →
    ∃ p ∈ publications before, p.ticket = selection.publicationTicket ∧
      p.binding.runtimeModel = q.runtimeModel ∧ p.binding.renderablePart = q.part ∧
      p.binding.paletteSlotIndex = selection.slot ∧ p.binding.frameTag = selection.frameTag ∧
      p.binding.ownerEpochWitness = selection.ownerEpoch ∧
      q.required.toNat ≤ p.matrices.length ∧ out = p.matrices.take q.required.toNat
  tickets : (publications past).Pairwise fun p p' => p.ticket ≠ p'.ticket
  /-- A selection is returned only by a thread that has found its epoch in its last load. -/
  returned : ∀ before r after thread memory q selection out, past = before ++ r :: after →
    r.call = .go thread memory → r.output = .queried q (some (selection, out)) →
    Confirmed thread selection.ownerEpoch before
  reported : ∀ before r after thread memory selected, past = before ++ r :: after →
    r.call = .go thread memory → r.output = .judged selected true →
    selected.source ≠ .capturedWriter → Confirmed thread selected.ownerEpoch before
  /-- No load finds an epoch that an earlier reset has left behind. -/
  fresh : ∀ before r after epoch, past = before ++ r :: after → r.output = .confirmed epoch →
    ∀ r0 ∈ before, ∀ left, r0.output = .epochChanged left → ¬Older epoch left

theorem output_of_go {setup : PaletteSetup} {event : Event} {output : Output}
    (h : (w.step setup event).1 = output) (hnothing : output ≠ .nothing)
    (hchanged : ∀ epoch, output ≠ .epochChanged epoch) (hdone : ∀ epoch, output ≠ .resetDone epoch) :
    ∃ thread memory, event = .go thread memory ∧ (w.move setup thread memory).output = output := by
  cases event with
  | call thread call => exact absurd h.symm hnothing
  | go thread memory => exact ⟨thread, memory, rfl, h⟩
  | resetMapSession => exact absurd h.symm hnothing
  | goReset =>
    change w.goReset.1 = output at h
    unfold World.goReset at h
    split at h
    · exact absurd h.symm hnothing
    · exact absurd h.symm hnothing
    · dsimp only at h
      split at h
      · exact absurd h.symm hnothing
      · exact absurd h.symm (hchanged _)
    · exact absurd h.symm (hchanged _)
    · split at h
      · exact absurd h.symm hnothing
      · exact absurd h.symm (hdone _)

/-- The law holds of every run. -/
theorem palette_law (setup : PaletteSetup) (events : List Event) :
    PaletteLaw (history (World.step setup) events {}) where
  owned before r after q selection out hpast houtput := by
    obtain ⟨first, event, rest, -, rfl, rfl, -⟩ := history_split _ hpast
    have hinv := inv_run setup first
    obtain ⟨thread, memory, rfl, hmove⟩ := output_of_go houtput (by simp) (by simp) (by simp)
    have hphase := (move_seen setup thread memory (hinv.threads thread)).of_queried hmove
    have hok := hinv.threads thread
    rw [hphase] at hok
    obtain ⟨p, hp, hnames, hmodel, hpart, hrequired, hout⟩ := hok
    exact ⟨p, hp, hnames.ticket, hnames.runtimeModel.trans hmodel, hnames.part.trans hpart, hnames.slot,
      hnames.frameTag, hnames.ownerEpoch, hrequired, hout⟩
  tickets := (inv_run setup events).ordered.imp fun hlt heq => by
    rw [heq] at hlt
    exact UInt64.lt_irrefl _ hlt
  returned before r after thread memory q selection out hpast hcall houtput := by
    obtain ⟨first, event, rest, -, rfl, rfl, -⟩ := history_split _ hpast
    obtain rfl : event = .go thread memory := hcall
    have hinv := inv_run setup first
    have hphase := (move_seen setup thread memory (hinv.threads thread)).of_queried houtput
    exact hinv.owed thread _ (by rw [hphase]; rfl)
  reported before r after thread memory selected hpast hcall houtput hsource := by
    obtain ⟨first, event, rest, -, rfl, rfl, -⟩ := history_split _ hpast
    obtain rfl : event = .go thread memory := hcall
    have hinv := inv_run setup first
    have hphase := (move_seen setup thread memory (hinv.threads thread)).of_judged houtput
    refine hinv.owed thread _ ?_
    rw [hphase]
    exact if_neg hsource
  fresh before r after epoch hpast houtput r0 hr0 left hleft := by
    obtain ⟨first, event, rest, -, rfl, rfl, -⟩ := history_split _ hpast
    have hinv := inv_run setup first
    obtain ⟨thread, memory, rfl, hmove⟩ := output_of_go houtput (by simp) (by simp) (by simp)
    have hok := move_ok (hinv.exclusive thread) hinv.cells setup memory (hinv.threads thread)
    obtain ⟨rfl, hne⟩ := hok.confirmed epoch hmove
    -- The owner epoch is not one that it has left.
    obtain hzero | ⟨hpositive, hle⟩ := hinv.left r0 hr0 left hleft
    · exact absurd hzero hne
    · rintro (rfl | hlt)
      · exact hpositive rfl
      · exact absurd hle (UInt64.not_le.mpr hlt)

/-! ## A reset before the return -/

/-- No selection of an older epoch is returned once a reset is complete. -/
def NeverStale (past : List Happened) : Prop :=
  ∀ before r0 between r after left q selection out,
    past = before ++ r0 :: (between ++ r :: after) → r0.output = .resetDone left →
    r.output = .queried q (some (selection, out)) → ¬Older selection.ownerEpoch left

theorem run_clearing (setup : PaletteSetup) (count n : ℕ) (w : World) (hreset : w.reset = .clearing n)
    (hcount : n + count = kRenderablePartPaletteBindingCacheSize) :
    (run (World.step setup) (List.replicate count .goReset) w).reset =
        .clearing kRenderablePartPaletteBindingCacheSize ∧
      (run (World.step setup) (List.replicate count .goReset) w).ownerEpoch = w.ownerEpoch ∧
      (run (World.step setup) (List.replicate count .goReset) w).threads = w.threads := by
  induction count generalizing n w with
  | zero =>
    rw [Nat.add_zero] at hcount
    exact ⟨hcount ▸ hreset, rfl, rfl⟩
  | succ count ih =>
    have hstep : (World.step setup .goReset w).2 = { w with
        cells := Function.update w.cells n { w.cells n with renderablePart := 0 }
        reset := .clearing (n + 1) } := by
      change w.goReset.2 = _
      unfold World.goReset
      rw [hreset]
      dsimp only
      rw [if_pos (by omega)]
    rw [List.replicate_succ, run_cons, hstep]
    exact ih (n + 1) _ rfl (by omega)

def sampleMemory : Memory := { slot := some 5, frameTag := some 7, readable := true }

def sampleBinding : Binding := ⟨0x10, 5, 1, 7, true, 1, 0x100, 1⟩

def sampleQuery : Query := ⟨0x100, 0x10, 1, true⟩

/-- One thread records, another one queries up to its last load, and a reset advances the epoch. -/
def overtakenByReset : List Event :=
  [.call 0 (.record sampleBinding)] ++ List.replicate 8 (.go 0 sampleMemory) ++
    [.call 1 (.query sampleQuery)] ++ List.replicate 6 (.go 1 sampleMemory) ++
    [.resetMapSession, .goReset, .goReset]

def sampleAnswer : Answer :=
  (sealedOf sampleBinding (hashMatrixPalette [decodeRuntimePoseMatrix48 fun _ => 0]) 1,
    [decodeRuntimePoseMatrix48 fun _ => 0])

theorem returned_after_reset {setup : PaletteSetup} {w : World} {left : UInt64} {q : Query}
    {result : Option Answer} (hreset : w.reset = .clearing kRenderablePartPaletteBindingCacheSize)
    (hepoch : w.ownerEpoch = left) (hthread : w.threads 1 = .query q (.releasing result))
    (memory : Memory) : ∃ r0 r r',
      history (World.step setup) [.goReset, .go 1 memory, .go 1 memory] w = [r0, r, r'] ∧
        r0.output = .resetDone left ∧ r'.output = .queried q result := by
  have hstep : World.step setup .goReset w = (.resetDone left, { w with reset := .idle }) := by
    change w.goReset = _
    unfold World.goReset
    rw [hreset]
    dsimp only
    rw [if_neg (lt_irrefl _), hepoch]
  refine ⟨_, _, _, rfl, ?_, ?_⟩
  · exact congrArg Prod.fst hstep
  · rw [hstep]
    -- The thread releases its cell, and then returns.
    have hmove : World.move setup 1 memory { w with reset := .idle } =
        { phase := .query q (.returning result)
          change := some (cellOf q.part, (w.cells (cellOf q.part)).release) } := by
      unfold World.move
      dsimp only
      rw [hthread]
      rfl
    have hreleased : ((World.step setup (.go 1 memory) { w with reset := .idle }).2.threads 1) =
        .query q (.returning result) := by
      change Function.update w.threads 1 (World.move setup 1 memory { w with reset := .idle }).phase 1 = _
      rw [hmove, Function.update_self]
    change (World.move setup 1 memory
      (World.step setup (.go 1 memory) { w with reset := .idle }).2).output = _
    unfold World.move
    rw [hreleased]
    rfl

/-- A reset that comes between the last load of a query and its return is complete when the query
returns a selection of the older epoch. -/
theorem stale_returned :
    ¬∀ setup events, NeverStale (history (World.step setup) events {}) := by
  intro h
  let setup : PaletteSetup := ⟨true, true⟩
  have hbefore : (run (World.step setup) overtakenByReset {}).reset = .clearing 0 ∧
      (run (World.step setup) overtakenByReset {}).ownerEpoch = 2 ∧
      (run (World.step setup) overtakenByReset {}).threads 1 =
        .query sampleQuery (.releasing (some sampleAnswer)) := by
    decide +kernel
  obtain ⟨hreset, hepoch, hthread⟩ := hbefore
  obtain ⟨hcleared, hepoch', hthreads⟩ := run_clearing setup
    kRenderablePartPaletteBindingCacheSize 0 _ hreset (Nat.zero_add _)
  rw [← run_append] at hcleared hepoch' hthreads
  obtain ⟨r0, r, r', hlast, hdone, hreturned⟩ := @returned_after_reset setup _ 2 sampleQuery
    (some sampleAnswer) hcleared (hepoch'.trans hepoch) ((congrFun hthreads 1).trans hthread) sampleMemory
  let cleared := overtakenByReset ++ List.replicate kRenderablePartPaletteBindingCacheSize .goReset
  -- The last event of the reset, the release of the cell and the return of the query.
  let last : List Event := [.goReset, .go 1 sampleMemory, .go 1 sampleMemory]
  refine h setup (cleared ++ last) (history (World.step setup) cleared {}) r0 [r] r' [] 2 sampleQuery
    sampleAnswer.1 sampleAnswer.2 ?_ hdone hreturned (.inr (by decide))
  rw [List.singleton_append, ← hlast]
  exact history_append _ _ _ _

end War3VK.Model.SkinPalette
