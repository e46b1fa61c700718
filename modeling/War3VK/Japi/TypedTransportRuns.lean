import War3VK.Japi.TypedTransport

/-!
# What the typed plane promises over its runs

Over every order of calls, a command that was begun is dispatched at most once, after its declared slots
were written once each and a call of its kind closed it. At most four commands are open, under the
active table.
-/

namespace War3VK.Japi.TypedTransport

open Lib

abbrev Happened := Record State Call Output

/-! ## What a step does -/

def Closes (call : Call) (table : UInt32) (parentKey opcode : Int32) : ResultKind → Prop
  | .void => call = .saveInteger table parentKey kTypedCommitChild opcode
  | .integer => call = .loadInteger table parentKey kTypedQueryIntegerChild
  | .real => call = .loadReal table parentKey kTypedQueryRealChild
  | .text => False

/-- The output names no command that was begun, written, closed or dispatched. -/
def Output.silent : Output → Bool
  | .forwarded | .consumed _ | .acknowledged _ | .refused _ _ | .done => true
  | _ => false

/-- What one step does to the commands that are open and that were taken out. -/
inductive Moves (s : State) (call : Call) : Output → State → Prop
  | quiet (output : Output) (s' : State) (silent : output.silent = true)
      (transactions : s'.transactions = s.transactions) (active : s'.activeTable = s.activeTable)
      (begun : s'.begun = s.begun) (taken : s'.taken = s.taken) : Moves s call output s'
  | cleared (output : Output) (s' : State) (silent : output.silent = true)
      (transactions : s'.transactions = ∅) (begun : s'.begun = s.begun) (taken : s'.taken = s.taken) :
      Moves s call output s'
  | began (parentKey opcode : Int32) (binding : TypedCommandBinding) (spec : CommandSpec)
      (called : call = .saveInteger s.activeTable parentKey kTypedBeginChild opcode)
      (bound : findTypedCommand opcode = some binding) (found : findCommand binding.command = some spec)
      (room : parentKey ∈ s.transactions ∨ s.transactions.keys.length < kMaximumTypedTransactions) :
      Moves s call (.began s.begun)
        { s with
          transactions := s.transactions.insert parentKey (.opened s.begun opcode spec)
          begun := s.begun + 1 }
  | wrote (parentKey : Int32) (t : TypedTransaction) (w : Write)
      (open_ : s.transactions.lookup parentKey = some t) :
      Moves s call (.wrote t.serial w)
        { s with transactions := s.transactions.insert parentKey (t.put w) }
  | dropped (output : Output) (parentKey : Int32) (silent : output.silent = true) :
      Moves s call output { s with transactions := s.transactions.erase parentKey }
  | closed (parentKey : Int32) (t : TypedTransaction) (binding : TypedCommandBinding)
      (open_ : s.transactions.lookup parentKey = some t)
      (bound : findTypedCommand t.opcode = some binding) (complete : t.isComplete = true)
      (closes : Closes call s.activeTable parentKey t.opcode binding.result) :
      Moves s call (.closed t.serial)
        { s with
          transactions := s.transactions.erase parentKey
          taken := s.taken ++ [{ serial := t.serial, kind := binding.result, request := t.request }] }
  | finished (output : Output) (n : ℕ) (e : Taken) (taken : s.taken[n]? = some e)
      (live : e.finished = false)
      (said : output.silent = true ∨ ∃ answer, output = .dispatched e.serial e.request answer) :
      Moves s call output { s with taken := s.taken.set n { e with finished := true } }

variable {s : State} {parentKey : Int32} {t : TypedTransaction}

theorem moves_close {call : Call} {valid : Bool} {kind : ResultKind}
    (hopen : s.transactions.lookup parentKey = some t)
    (hvalid : valid = true → answers t kind = true ∧ Closes call s.activeTable parentKey t.opcode kind) :
    Moves s call (s.close parentKey t valid kind).1 (s.close parentKey t valid kind).2 := by
  unfold State.close
  cases hv : valid with
  | false => exact .dropped _ parentKey rfl
  | true =>
    obtain ⟨hanswers, hcloses⟩ := hvalid hv
    unfold answers at hanswers
    cases hbound : findTypedCommand t.opcode with
    | none => simp [hbound] at hanswers
    | some binding =>
      simp only [hbound, Bool.and_eq_true, decide_eq_true_eq] at hanswers
      obtain ⟨hresult, hcomplete⟩ := hanswers
      subst hresult
      exact .closed parentKey t binding hopen hbound hcomplete hcloses

theorem moves_beginCommand (parentKey opcode : Int32) :
    Moves s (.saveInteger s.activeTable parentKey kTypedBeginChild opcode)
      (s.beginCommand parentKey opcode).1 (s.beginCommand parentKey opcode).2 := by
  unfold State.beginCommand
  cases hbound : findTypedCommand opcode with
  | none => exact .quiet _ s rfl rfl rfl rfl rfl
  | some binding =>
    dsimp only
    cases hfound : findCommand binding.command with
    | none => exact .quiet _ s rfl rfl rfl rfl rfl
    | some spec =>
      dsimp only
      split
      · exact .quiet _ s rfl rfl rfl rfl rfl
      · split
        · exact .quiet _ s rfl rfl rfl rfl rfl
        · rename_i hfull
          refine .began parentKey opcode binding spec rfl hbound hfound ?_
          by_cases hmem : parentKey ∈ s.transactions
          · exact .inl hmem
          · rw [← AList.lookup_eq_none] at hmem
            simp only [hmem, Option.isNone_none, Bool.true_and, decide_eq_true_eq] at hfull
            exact .inr (Nat.lt_of_not_le hfull)

theorem table_eq {table active : UInt32} (h : ¬ (decide (table = 0) || decide (table ≠ active)) = true) :
    table = active := by
  simp only [Bool.or_eq_true, decide_eq_true_eq, not_or, not_not] at h
  exact h.2

theorem moves_write {call : Call} (childKey : Int32) (value : Written)
    (hopen : s.transactions.lookup parentKey = some t) :
    Moves s call
      (match State.slot? childKey with
        | some slot => s.write parentKey t ⟨slot, value⟩
        | none => (.forwarded, s)).1
      (match State.slot? childKey with
        | some slot => s.write parentKey t ⟨slot, value⟩
        | none => (.forwarded, s)).2 := by
  cases State.slot? childKey with
  | none => exact .quiet _ s rfl rfl rfl rfl rfl
  | some slot => exact .wrote parentKey t ⟨slot, value⟩ hopen

theorem moves_trySaveInteger (table : UInt32) (parentKey childKey value : Int32) (s : State) :
    Moves s (.saveInteger table parentKey childKey value)
      (s.trySaveInteger table parentKey childKey value).1
      (s.trySaveInteger table parentKey childKey value).2 := by
  unfold State.trySaveInteger
  split_ifs with hA hB hactive htable hbegin hcommit
  · exact .quiet _ _ rfl rfl rfl rfl rfl
  · exact .cleared _ _ rfl rfl rfl rfl
  · exact .quiet _ _ rfl rfl rfl rfl rfl
  · exact .quiet _ s rfl rfl rfl rfl rfl
  · rw [table_eq htable, hbegin]
    exact moves_beginCommand parentKey value
  · rw [table_eq htable, hcommit]
    cases hopen : s.transactions.lookup parentKey with
    | none => exact .quiet _ s rfl rfl rfl rfl rfl
    | some t =>
      refine moves_close hopen fun hvalid => ?_
      simp only [Bool.and_eq_true, decide_eq_true_eq] at hvalid
      exact ⟨hvalid.2, by rw [hvalid.1]; rfl⟩
  · cases hopen : s.transactions.lookup parentKey with
    | none => exact .quiet _ s rfl rfl rfl rfl rfl
    | some t => exact moves_write childKey (.integer value) hopen

theorem moves_trySaveReal (table : UInt32) (parentKey childKey : Int32) (value : UInt32) (s : State) :
    Moves s (.saveReal table parentKey childKey value)
      (s.trySaveReal table parentKey childKey value).1
      (s.trySaveReal table parentKey childKey value).2 := by
  unfold State.trySaveReal
  split_ifs with htable
  · exact .quiet _ s rfl rfl rfl rfl rfl
  · cases hopen : s.transactions.lookup parentKey with
    | none => exact .quiet _ s rfl rfl rfl rfl rfl
    | some t => exact moves_write childKey (.real value) hopen

theorem moves_tryLoadInteger (table : UInt32) (parentKey childKey : Int32) (s : State) :
    Moves s (.loadInteger table parentKey childKey) (s.tryLoadInteger table parentKey childKey).1
      (s.tryLoadInteger table parentKey childKey).2 := by
  unfold State.tryLoadInteger
  split_ifs with htable hprobe hquery
  · exact .quiet _ s rfl rfl rfl rfl rfl
  · exact .quiet _ s rfl rfl rfl rfl rfl
  · exact .quiet _ s rfl rfl rfl rfl rfl
  · cases hopen : s.transactions.lookup parentKey with
    | none => exact .quiet _ s rfl rfl rfl rfl rfl
    | some t =>
      rw [table_eq htable, not_not.mp hquery]
      exact moves_close hopen fun hvalid => ⟨hvalid, rfl⟩

theorem moves_tryLoadReal (table : UInt32) (parentKey childKey : Int32) (s : State) :
    Moves s (.loadReal table parentKey childKey) (s.tryLoadReal table parentKey childKey).1
      (s.tryLoadReal table parentKey childKey).2 := by
  unfold State.tryLoadReal
  split_ifs with htable
  · exact .quiet _ s rfl rfl rfl rfl rfl
  · cases hopen : s.transactions.lookup parentKey with
    | none => exact .quiet _ s rfl rfl rfl rfl rfl
    | some t =>
      simp only [Bool.or_eq_true, decide_eq_true_eq, not_or, not_not] at htable
      rw [htable.1.2, htable.2]
      exact moves_close hopen fun hvalid => ⟨hvalid, rfl⟩

theorem moves_dispatch (n : ℕ) (ready : Bool) (reply : Reply) (s : State) :
    Moves s (.dispatch n ready reply) (s.dispatch n ready reply).1 (s.dispatch n ready reply).2 := by
  unfold State.dispatch
  cases htaken : s.taken[n]? with
  | none => exact .quiet _ s rfl rfl rfl rfl rfl
  | some e =>
    dsimp only
    split
    · exact .quiet _ s rfl rfl rfl rfl rfl
    · rename_i hlive
      rw [Bool.not_eq_true] at hlive
      cases dispatchTypedRequest e.request ready with
      | none => exact .finished _ n e htaken hlive (.inr ⟨_, rfl⟩)
      | _ => exact .finished _ n e htaken hlive (.inl rfl)

theorem moves_step (call : Call) (s : State) :
    Moves s call (State.step call s).1 (State.step call s).2 := by
  cases call with
  | saveInteger table parentKey childKey value => exact moves_trySaveInteger table parentKey childKey value s
  | saveReal table parentKey childKey value => exact moves_trySaveReal table parentKey childKey value s
  | loadInteger table parentKey childKey => exact moves_tryLoadInteger table parentKey childKey s
  | loadReal table parentKey childKey => exact moves_tryLoadReal table parentKey childKey s
  | reset => exact .cleared _ _ rfl rfl rfl rfl
  | dispatch n ready reply => exact moves_dispatch n ready reply s

/-! ## What is promised -/

def writesTo (serial : ℕ) (past : List Happened) : List Write :=
  past.filterMap fun r =>
    match r.output with
    | .wrote n w => if n = serial then some w else none
    | _ => none

def beganSerial (r : Happened) : Option ℕ :=
  match r.output with
  | .began serial => some serial
  | _ => none

def dispatchedSerial (r : Happened) : Option ℕ :=
  match r.output with
  | .dispatched serial _ _ => some serial
  | _ => none

def Begins (r : Happened) (table : UInt32) (parentKey opcode : Int32) (serial : ℕ) : Prop :=
  r.call = .saveInteger table parentKey kTypedBeginChild opcode ∧ r.output = .began serial

/-- A request has a value of the declared type in every declared slot: the one that was written there. -/
def Carries (spec : CommandSpec) (writes : List Write) (request : ParsedRequest) : Prop :=
  FillsOnce spec.types writes ∧ request.spec = some spec ∧
    request.argumentCount = spec.types.length ∧
      ∀ slot declared w, spec.types[slot]? = some declared → writesAt slot writes = [w] →
        request.arguments[slot]? = some (w.value.argument declared)

/-- A command was begun, its declared slots were written once each, and it was closed as its kind of
result asks. -/
def Earned (past : List Happened) (serial : ℕ) (request : ParsedRequest) : Prop :=
  ∃ table parentKey opcode binding spec first b writing c rest,
    past = first ++ b :: (writing ++ c :: rest) ∧ Begins b table parentKey opcode serial ∧
      findTypedCommand opcode = some binding ∧ findCommand binding.command = some spec ∧
        Carries spec (writesTo serial writing) request ∧ c.output = .closed serial ∧
          Closes c.call table parentKey opcode binding.result

def AsksToClose (call : Call) (table : UInt32) (parentKey : Int32) : Prop :=
  (∃ value, call = .saveInteger table parentKey kTypedCommitChild value) ∨
    call = .loadInteger table parentKey kTypedQueryIntegerChild ∨
      call = .loadReal table parentKey kTypedQueryRealChild

def RegistrationWrite (call : Call) : Prop :=
  ∃ table, call = .saveInteger table kTypedRegisterParent kTypedRegisterChildA kTypedRegisterCookieA ∨
    call = .saveInteger table kTypedRegisterParent kTypedRegisterChildB kTypedRegisterCookieB

def Registers (r : Happened) : Prop :=
  ∃ table, r.call = .saveInteger table kTypedRegisterParent kTypedRegisterChildB kTypedRegisterCookieB ∧
    table ≠ 0 ∧ r.before.registerASeen = true ∧ table = r.before.pendingTable

structure Keeps (past : List Happened) : Prop where
  began_once : (past.filterMap beganSerial).Nodup
  dispatched_once : (past.filterMap dispatchedSerial).Nodup
  /-- A command that is dispatched was begun, filled and closed before. -/
  earned : ∀ before r after, past = before ++ r :: after → ∀ serial request answer,
    r.output = .dispatched serial request answer → Earned before serial request
  erased : ∀ r ∈ past, ∀ parentKey, r.before.activeTable ≠ 0 →
    AsksToClose r.call r.before.activeTable parentKey →
      parentKey ∉ (State.step r.call r.before).2.transactions
  /-- A call that returns `false` and makes no registration write changes nothing. -/
  unchanged : ∀ r ∈ past, r.output = .forwarded → ¬ RegistrationWrite r.call →
    (State.step r.call r.before).2 = r.before
  /-- What is dispatched after a registration or a reset was begun after it, or was taken out before. -/
  retired : ∀ before r after, past = before ++ r :: after → Registers r ∨ r.call = .reset →
    ∀ d ∈ after, ∀ serial request answer, d.output = .dispatched serial request answer →
      (∃ b ∈ after, b.output = .began serial) ∨ ∃ c ∈ before, c.output = .closed serial

/-! ## The invariant -/

/-- An open command was begun under the active table, and is what was written since. -/
def Open (past : List Happened) (table : UInt32) (parentKey : Int32) (t : TypedTransaction) : Prop :=
  ∃ binding spec first b writing, past = first ++ b :: writing ∧
    Begins b table parentKey t.opcode t.serial ∧ findTypedCommand t.opcode = some binding ∧
      findCommand binding.command = some spec ∧ Filled spec t (writesTo t.serial writing)

structure Inv (s : State) (past : List Happened) : Prop where
  bounded : s.transactions.keys.length ≤ kMaximumTypedTransactions
  opened : ∀ parentKey t, s.transactions.lookup parentKey = some t → Open past s.activeTable parentKey t
  separate : ∀ parentKey parentKey' t t', s.transactions.lookup parentKey = some t →
    s.transactions.lookup parentKey' = some t' → t.serial = t'.serial → parentKey = parentKey'
  openBelow : ∀ parentKey t, s.transactions.lookup parentKey = some t → t.serial < s.begun
  takenBelow : ∀ e ∈ s.taken, e.serial < s.begun
  apart : ∀ e ∈ s.taken, ∀ parentKey t, s.transactions.lookup parentKey = some t → t.serial ≠ e.serial
  takenOnce : (s.taken.map Taken.serial).Nodup
  earned : ∀ e ∈ s.taken, Earned past e.serial e.request
  beganBelow : ∀ serial ∈ past.filterMap beganSerial, serial < s.begun
  beganOnce : (past.filterMap beganSerial).Nodup
  dispatchedFrom : ∀ serial ∈ past.filterMap dispatchedSerial,
    ∃ e ∈ s.taken, e.serial = serial ∧ e.finished = true
  dispatchedOnce : (past.filterMap dispatchedSerial).Nodup

variable {r : Happened} {past : List Happened} {m : AList fun _ : Int32 => TypedTransaction}

theorem writesTo_silent (h : r.output.silent = true) (serial : ℕ) : writesTo serial [r] = [] := by
  cases hout : r.output <;> rw [hout] at h <;> first | (simp [writesTo, hout]; done) | cases h

theorem beganSerial_silent (h : r.output.silent = true) : beganSerial r = none := by
  cases hout : r.output <;> rw [hout] at h <;> first | (simp [beganSerial, hout]; done) | cases h

theorem dispatchedSerial_silent (h : r.output.silent = true) : dispatchedSerial r = none := by
  cases hout : r.output <;> rw [hout] at h <;> first | (simp [dispatchedSerial, hout]; done) | cases h

theorem writesTo_append (serial : ℕ) (past more : List Happened) :
    writesTo serial (past ++ more) = writesTo serial past ++ writesTo serial more :=
  List.filterMap_append

theorem Open.concat {table : UInt32} (h : Open past table parentKey t)
    (hr : writesTo t.serial [r] = []) : Open (past ++ [r]) table parentKey t := by
  obtain ⟨binding, spec, first, b, writing, rfl, hb, hbound, hfound, hfilled⟩ := h
  refine ⟨binding, spec, first, b, writing ++ [r], by simp, hb, hbound, hfound, ?_⟩
  rw [writesTo_append, hr, List.append_nil]
  exact hfilled

theorem Earned.concat {serial : ℕ} {request : ParsedRequest} (h : Earned past serial request)
    (r : Happened) : Earned (past ++ [r]) serial request := by
  obtain ⟨table, parentKey, opcode, binding, spec, first, b, writing, c, rest, rfl, h⟩ := h
  exact ⟨table, parentKey, opcode, binding, spec, first, b, writing, c, rest ++ [r], by simp, h⟩

theorem types_length_le {id : CommandId} {spec : CommandSpec} (hfound : findCommand id = some spec) :
    spec.types.length ≤ kMaximumArgumentCount := by
  have hall : ∀ spec ∈ kCommands, spec.types.length ≤ kMaximumArgumentCount := by decide +kernel
  exact hall spec (List.mem_of_find?_eq_some hfound)

theorem Inv.shrink {s' : State} (h : Inv s past) (silent : r.output.silent = true)
    (hsub : ∀ parentKey t, s'.transactions.lookup parentKey = some t →
      s.transactions.lookup parentKey = some t ∧ s'.activeTable = s.activeTable)
    (hlen : s'.transactions.keys.length ≤ s.transactions.keys.length)
    (hbegun : s'.begun = s.begun) (htaken : s'.taken = s.taken) : Inv s' (past ++ [r]) where
  bounded := Nat.le_trans hlen h.bounded
  opened parentKey t ht := by
    obtain ⟨ht, hactive⟩ := hsub parentKey t ht
    rw [hactive]
    exact (h.opened parentKey t ht).concat (writesTo_silent silent t.serial)
  separate parentKey parentKey' t t' ht ht' :=
    h.separate parentKey parentKey' t t' (hsub parentKey t ht).1 (hsub parentKey' t' ht').1
  openBelow parentKey t ht := hbegun ▸ h.openBelow parentKey t (hsub parentKey t ht).1
  takenBelow e he := by
    rw [htaken] at he
    rw [hbegun]
    exact h.takenBelow e he
  apart e he parentKey t ht := h.apart e (htaken ▸ he) parentKey t (hsub parentKey t ht).1
  takenOnce := htaken ▸ h.takenOnce
  earned e he := (h.earned e (htaken ▸ he)).concat r
  beganBelow serial hserial := by
    rw [filterMap_concat, beganSerial_silent silent, Option.toList_none, List.append_nil] at hserial
    rw [hbegun]
    exact h.beganBelow serial hserial
  beganOnce := by
    rw [filterMap_concat, beganSerial_silent silent, Option.toList_none, List.append_nil]
    exact h.beganOnce
  dispatchedFrom serial hserial := by
    rw [filterMap_concat, dispatchedSerial_silent silent, Option.toList_none, List.append_nil] at hserial
    rw [htaken]
    exact h.dispatchedFrom serial hserial
  dispatchedOnce := by
    rw [filterMap_concat, dispatchedSerial_silent silent, Option.toList_none, List.append_nil]
    exact h.dispatchedOnce

theorem lookup_insert_cases {k : Int32} {v : TypedTransaction}
    (h : (m.insert parentKey t).lookup k = some v) :
    (k = parentKey ∧ v = t) ∨ (k ≠ parentKey ∧ m.lookup k = some v) := by
  by_cases hk : k = parentKey
  · subst hk
    rw [AList.lookup_insert, Option.some.injEq] at h
    exact .inl ⟨rfl, h.symm⟩
  · rw [AList.lookup_insert_ne hk] at h
    exact .inr ⟨hk, h⟩

theorem lookup_erase_some {k : Int32} {v : TypedTransaction}
    (h : (m.erase parentKey).lookup k = some v) : k ≠ parentKey ∧ m.lookup k = some v := by
  by_cases hk : k = parentKey
  · subst hk
    rw [AList.lookup_erase] at h
    cases h
  · rw [AList.lookup_erase_ne hk] at h
    exact ⟨hk, h⟩

theorem keys_erase_length_le (m : AList fun _ : Int32 => TypedTransaction) (parentKey : Int32) :
    (m.erase parentKey).keys.length ≤ m.keys.length := by
  rw [AList.keys_erase]
  exact List.length_erase_le

theorem keys_insert_length_le (t : TypedTransaction) {bound : ℕ} (h : m.keys.length ≤ bound)
    (room : parentKey ∈ m ∨ m.keys.length < bound) :
    (m.insert parentKey t).keys.length ≤ bound := by
  rw [AList.keys_insert, List.length_cons]
  rcases room with hmem | hlt
  · rw [List.length_erase_of_mem (AList.mem_keys.mp hmem)]
    have := List.length_pos_of_mem (AList.mem_keys.mp hmem)
    omega
  · have := List.length_erase_le (a := parentKey) (l := m.keys)
    omega

theorem Inv.began (h : Inv s past) {opcode : Int32} {binding : TypedCommandBinding}
    {spec : CommandSpec}
    (called : r.call = .saveInteger s.activeTable parentKey kTypedBeginChild opcode)
    (bound : findTypedCommand opcode = some binding)
    (found : findCommand binding.command = some spec)
    (room : parentKey ∈ s.transactions ∨ s.transactions.keys.length < kMaximumTypedTransactions)
    (hout : r.output = .began s.begun) :
    Inv { s with
      transactions := s.transactions.insert parentKey (.opened s.begun opcode spec)
      begun := s.begun + 1 } (past ++ [r]) where
  bounded := keys_insert_length_le _ h.bounded room
  opened k t ht := by
    rcases lookup_insert_cases ht with ⟨rfl, rfl⟩ | ⟨-, ht⟩
    · exact ⟨binding, spec, past, r, [], rfl, ⟨called, hout⟩, bound, found,
        filled_opened s.begun opcode spec⟩
    · exact (h.opened k t ht).concat (by simp [writesTo, hout])
  separate k k' t t' ht ht' heq := by
    rcases lookup_insert_cases ht with ⟨rfl, rfl⟩ | ⟨-, hold⟩ <;>
      rcases lookup_insert_cases ht' with ⟨rfl, rfl⟩ | ⟨-, hold'⟩
    · rfl
    · exact absurd heq.symm (Nat.ne_of_lt (h.openBelow k' t' hold'))
    · exact absurd heq (Nat.ne_of_lt (h.openBelow k t hold))
    · exact h.separate k k' t t' hold hold' heq
  openBelow k t ht := by
    rcases lookup_insert_cases ht with ⟨rfl, rfl⟩ | ⟨-, ht⟩
    · exact Nat.lt_succ_self _
    · exact Nat.lt_succ_of_lt (h.openBelow k t ht)
  takenBelow e he := Nat.lt_succ_of_lt (h.takenBelow e he)
  apart e he k t ht := by
    rcases lookup_insert_cases ht with ⟨rfl, rfl⟩ | ⟨-, ht⟩
    · exact Nat.ne_of_gt (h.takenBelow e he)
    · exact h.apart e he k t ht
  takenOnce := h.takenOnce
  earned e he := (h.earned e he).concat r
  beganBelow serial hserial := by
    rw [filterMap_concat, List.mem_append] at hserial
    rcases hserial with hold | hnew
    · exact Nat.lt_succ_of_lt (h.beganBelow serial hold)
    · simp only [beganSerial, hout, Option.toList_some, List.mem_singleton] at hnew
      exact hnew ▸ Nat.lt_succ_self _
  beganOnce := by
    rw [filterMap_concat]
    refine List.Nodup.append h.beganOnce (by simp [beganSerial, hout]) fun serial hold hnew => ?_
    simp only [beganSerial, hout, Option.toList_some, List.mem_singleton] at hnew
    exact absurd hnew (Nat.ne_of_lt (h.beganBelow serial hold))
  dispatchedFrom serial hserial := by
    rw [filterMap_concat] at hserial
    exact h.dispatchedFrom serial (by simpa [dispatchedSerial, hout] using hserial)
  dispatchedOnce := by
    rw [filterMap_concat]
    simpa [dispatchedSerial, hout] using h.dispatchedOnce

theorem Inv.wrote (h : Inv s past) {w : Write} (hopen : s.transactions.lookup parentKey = some t)
    (hout : r.output = .wrote t.serial w) :
    Inv { s with transactions := s.transactions.insert parentKey (t.put w) } (past ++ [r]) := by
  -- The write keeps the serial, so what is said of serials is said of the old command.
  have hserial := And.intro (t.put_serial w) (t.put_opcode w)
  have hold : ∀ k v, (s.transactions.insert parentKey (t.put w)).lookup k = some v →
      ∃ v', s.transactions.lookup k = some v' ∧ v'.serial = v.serial := by
    intro k v hv
    rcases lookup_insert_cases hv with ⟨rfl, rfl⟩ | ⟨-, hv⟩
    · exact ⟨t, hopen, hserial.1.symm⟩
    · exact ⟨v, hv, rfl⟩
  have hbegan : beganSerial r = none := by simp [beganSerial, hout]
  have hdispatched : dispatchedSerial r = none := by simp [dispatchedSerial, hout]
  constructor
  case bounded =>
    exact keys_insert_length_le _ h.bounded (.inl (AList.lookup_isSome.mp (by simp [hopen])))
  case opened =>
    intro k v hv
    rcases lookup_insert_cases hv with ⟨rfl, rfl⟩ | ⟨hk, hv⟩
    · obtain ⟨binding, spec, first, b, writing, rfl, hb, hbound, hfound, hfilled⟩ := h.opened k t hopen
      refine ⟨binding, spec, first, b, writing ++ [r], by simp, ?_, ?_, hfound, ?_⟩
      · rw [hserial.1, hserial.2]
        exact hb
      · rw [hserial.2]
        exact hbound
      · have hone : writesTo t.serial [r] = [w] := by simp [writesTo, hout]
        rw [hserial.1, writesTo_append, hone]
        exact hfilled.put w (types_length_le hfound)
    · refine (h.opened k v hv).concat ?_
      have hne : t.serial ≠ v.serial := fun heq => hk (h.separate parentKey k t v hopen hv heq).symm
      simp [writesTo, hout, hne]
  case separate =>
    intro k k' v v' hv hv' heq
    obtain ⟨u, hu, hserial⟩ := hold k v hv
    obtain ⟨u', hu', hserial'⟩ := hold k' v' hv'
    exact h.separate k k' u u' hu hu' (by rw [hserial, hserial', heq])
  case openBelow =>
    intro k v hv
    obtain ⟨u, hu, hserial⟩ := hold k v hv
    exact hserial ▸ h.openBelow k u hu
  case takenBelow => exact h.takenBelow
  case apart =>
    intro e he k v hv
    obtain ⟨u, hu, hserial⟩ := hold k v hv
    exact hserial ▸ h.apart e he k u hu
  case takenOnce => exact h.takenOnce
  case earned => exact fun e he => (h.earned e he).concat r
  case beganBelow => simpa [filterMap_concat, hbegan] using h.beganBelow
  case beganOnce => simpa [filterMap_concat, hbegan] using h.beganOnce
  case dispatchedFrom => simpa [filterMap_concat, hdispatched] using h.dispatchedFrom
  case dispatchedOnce => simpa [filterMap_concat, hdispatched] using h.dispatchedOnce

theorem Inv.closed (h : Inv s past) {binding : TypedCommandBinding}
    (hopen : s.transactions.lookup parentKey = some t)
    (bound : findTypedCommand t.opcode = some binding) (complete : t.isComplete = true)
    (closes : Closes r.call s.activeTable parentKey t.opcode binding.result)
    (hout : r.output = .closed t.serial) :
    Inv { s with
      transactions := s.transactions.erase parentKey
      taken := s.taken ++ [{ serial := t.serial, kind := binding.result, request := t.request }] }
      (past ++ [r]) := by
  have hbegan : beganSerial r = none := by simp [beganSerial, hout]
  have hdispatched : dispatchedSerial r = none := by simp [dispatchedSerial, hout]
  have hquiet : ∀ serial, writesTo serial [r] = [] := by simp [writesTo, hout]
  -- What was written is complete, so every declared slot has one value.
  have hearned : Earned (past ++ [r]) t.serial t.request := by
    obtain ⟨binding', spec, first, b, writing, rfl, hb, hbound, hfound, hfilled⟩ := h.opened _ t hopen
    rw [bound, Option.some.injEq] at hbound
    subst hbound
    have honce := hfilled.isComplete_iff.mp complete
    refine ⟨s.activeTable, parentKey, t.opcode, binding, spec, first, b, writing, r, [], by simp, hb,
      bound, hfound, ⟨honce, hfilled.spec_eq, hfilled.count_eq, ?_⟩, hout, closes⟩
    exact hfilled.argument fun slot declared hd => .inr (honce slot declared hd)
  constructor
  case bounded => exact Nat.le_trans (keys_erase_length_le _ _) h.bounded
  case opened => exact fun k v hv => (h.opened k v (lookup_erase_some hv).2).concat (hquiet v.serial)
  case separate =>
    exact fun k k' v v' hv hv' => h.separate k k' v v' (lookup_erase_some hv).2 (lookup_erase_some hv').2
  case openBelow => exact fun k v hv => h.openBelow k v (lookup_erase_some hv).2
  case takenBelow =>
    intro e he
    rcases List.mem_append.mp he with hold | hnew
    · exact h.takenBelow e hold
    · rw [List.mem_singleton] at hnew
      subst hnew
      exact h.openBelow parentKey t hopen
  case apart =>
    intro e he k v hv heq
    obtain ⟨hk, hv⟩ := lookup_erase_some hv
    rcases List.mem_append.mp he with hold | hnew
    · exact h.apart e hold k v hv heq
    · rw [List.mem_singleton] at hnew
      subst hnew
      exact hk (h.separate k parentKey v t hv hopen heq)
  case takenOnce =>
    rw [List.map_append]
    refine List.Nodup.append h.takenOnce (by simp) fun serial hold hnew => ?_
    obtain ⟨e, he, rfl⟩ := List.mem_map.mp hold
    simp only [List.map_cons, List.map_nil, List.mem_singleton] at hnew
    exact h.apart e he parentKey t hopen hnew.symm
  case earned =>
    intro e he
    rcases List.mem_append.mp he with hold | hnew
    · exact (h.earned e hold).concat r
    · rw [List.mem_singleton] at hnew
      subst hnew
      exact hearned
  case beganBelow => simpa [filterMap_concat, hbegan] using h.beganBelow
  case beganOnce => simpa [filterMap_concat, hbegan] using h.beganOnce
  case dispatchedFrom =>
    intro serial hserial
    rw [filterMap_concat, hdispatched, Option.toList_none, List.append_nil] at hserial
    obtain ⟨e, he, hfrom⟩ := h.dispatchedFrom serial hserial
    exact ⟨e, List.mem_append_left _ he, hfrom⟩
  case dispatchedOnce => simpa [filterMap_concat, hdispatched] using h.dispatchedOnce

theorem Inv.finished (h : Inv s past) {n : ℕ} {e : Taken} (htaken : s.taken[n]? = some e)
    (live : e.finished = false)
    (said : r.output.silent = true ∨ ∃ answer, r.output = .dispatched e.serial e.request answer) :
    Inv { s with taken := s.taken.set n { e with finished := true } } (past ++ [r]) := by
  have hn : n < s.taken.length := (List.getElem?_eq_some_iff.mp htaken).1
  have hmem : e ∈ s.taken := List.mem_of_getElem? htaken
  have hbegan : beganSerial r = none := by
    rcases said with hs | ⟨answer, hs⟩
    · exact beganSerial_silent hs
    · simp [beganSerial, hs]
  have hquiet : ∀ serial, writesTo serial [r] = [] := by
    rcases said with hs | ⟨answer, hs⟩
    · exact writesTo_silent hs
    · simp [writesTo, hs]
  -- An entry keeps its serial and its request.
  have hserials : (s.taken.set n { e with finished := true }).map Taken.serial =
      s.taken.map Taken.serial := by
    have hsame : (s.taken.map Taken.serial)[n]? = some e.serial := by rw [List.getElem?_map, htaken]; rfl
    rw [List.map_set]
    refine List.ext_getElem? fun m => ?_
    by_cases hm : n = m
    · subst hm
      rw [List.getElem?_set_self (by simpa using hn), hsame]
    · rw [List.getElem?_set_ne hm]
  have hold : ∀ e' ∈ s.taken.set n { e with finished := true },
      ∃ e'' ∈ s.taken, e''.serial = e'.serial ∧ e''.request = e'.request := by
    intro e' he'
    rcases List.mem_or_eq_of_mem_set he' with he' | rfl
    · exact ⟨e', he', rfl, rfl⟩
    · exact ⟨e, hmem, rfl, rfl⟩
  -- The others that were finished stay so, as serials differ.
  have hkeep : ∀ e' ∈ s.taken, e'.finished = true → e' ∈ s.taken.set n { e with finished := true } := by
    intro e' he' hfin
    obtain ⟨m, hm⟩ := List.mem_iff_getElem?.mp he'
    refine List.mem_iff_getElem?.mpr ⟨m, ?_⟩
    rw [List.getElem?_set_ne, hm]
    rintro rfl
    rw [htaken, Option.some.injEq] at hm
    rw [← hm, live] at hfin
    cases hfin
  have hnew : { e with finished := true } ∈ s.taken.set n { e with finished := true } :=
    List.mem_iff_getElem?.mpr ⟨n, by rw [List.getElem?_set_self hn]⟩
  constructor
  case bounded => exact h.bounded
  case opened => exact fun k v hv => (h.opened k v hv).concat (hquiet v.serial)
  case separate => exact h.separate
  case openBelow => exact h.openBelow
  case takenBelow =>
    intro e' he'
    obtain ⟨e'', hmem'', hserial, -⟩ := hold e' he'
    exact hserial ▸ h.takenBelow e'' hmem''
  case apart =>
    intro e' he' k v hv
    obtain ⟨e'', hmem'', hserial, -⟩ := hold e' he'
    exact hserial ▸ h.apart e'' hmem'' k v hv
  case takenOnce => exact hserials ▸ h.takenOnce
  case earned =>
    intro e' he'
    obtain ⟨e'', hmem'', hserial, hrequest⟩ := hold e' he'
    exact hserial ▸ hrequest ▸ (h.earned e'' hmem'').concat r
  case beganBelow => simpa [filterMap_concat, hbegan] using h.beganBelow
  case beganOnce => simpa [filterMap_concat, hbegan] using h.beganOnce
  case dispatchedFrom =>
    intro serial hserial
    rw [filterMap_concat, List.mem_append] at hserial
    rcases hserial with hprev | hhere
    · obtain ⟨e', he', hfrom⟩ := h.dispatchedFrom serial hprev
      exact ⟨e', hkeep e' he' hfrom.2, hfrom⟩
    · rcases said with hs | ⟨answer, hs⟩
      · simp [dispatchedSerial_silent hs] at hhere
      · simp only [dispatchedSerial, hs, Option.toList_some, List.mem_singleton] at hhere
        exact ⟨_, hnew, hhere.symm, rfl⟩
  case dispatchedOnce =>
    rw [filterMap_concat]
    rcases said with hs | ⟨answer, hs⟩
    · simpa [dispatchedSerial_silent hs] using h.dispatchedOnce
    · refine List.Nodup.append h.dispatchedOnce (by simp [dispatchedSerial, hs]) fun serial hprev hhere => ?_
      simp only [dispatchedSerial, hs, Option.toList_some, List.mem_singleton] at hhere
      obtain ⟨e', he', hsame, hfin⟩ := h.dispatchedFrom serial hprev
      -- An entry with the serial is the entry itself, which is not finished.
      have heq : e' = e := List.inj_on_of_nodup_map h.takenOnce he' hmem (hsame.trans hhere)
      rw [heq, live] at hfin
      cases hfin

theorem Inv.step (h : Inv s past) (call : Call) :
    Inv (State.step call s).2 (past ++ [record State.step s call]) := by
  have hmoves := moves_step call s
  have hout : (record State.step s call).output = (State.step call s).1 := rfl
  generalize hr : record State.step s call = r at hout ⊢
  have hcall : r.call = call := by rw [← hr]; rfl
  generalize (State.step call s).1 = output at hmoves hout
  generalize (State.step call s).2 = s' at hmoves ⊢
  subst hcall
  cases hmoves with
  | quiet _ _ silent transactions active begun taken =>
    refine h.shrink (hout ▸ silent) (fun k t ht => ⟨transactions ▸ ht, active⟩) ?_ begun taken
    rw [transactions]
  | cleared _ _ silent transactions begun taken =>
    refine h.shrink (hout ▸ silent) (fun k t ht => ?_) ?_ begun taken
    · rw [transactions, AList.lookup_empty] at ht
      cases ht
    · rw [transactions]
      exact Nat.zero_le _
  | began parentKey opcode binding spec called bound found room =>
    exact h.began called bound found room hout
  | wrote parentKey t w open_ => exact h.wrote open_ hout
  | dropped _ parentKey silent =>
    exact h.shrink (hout ▸ silent) (fun k t ht => ⟨(lookup_erase_some ht).2, rfl⟩)
      (keys_erase_length_le _ _) rfl rfl
  | closed parentKey t binding open_ bound complete closes =>
    exact h.closed open_ bound complete closes hout
  | finished _ n e taken live said => exact h.finished taken live (hout ▸ said)

theorem inv_run (calls : List Call) :
    Inv (run State.step calls {}) (history State.step calls {}) := by
  refine @history_induction _ _ _ State.step Inv {} ?_ (fun t past call h => h.step call) calls
  constructor <;> simp [AList.keys]

/-! ## The promises -/

theorem beginCommand_consumed (parentKey opcode : Int32) (s : State) :
    (s.beginCommand parentKey opcode).1 ≠ .forwarded := by
  unfold State.beginCommand
  cases findTypedCommand opcode with
  | none => simp
  | some binding =>
    dsimp only
    cases findCommand binding.command with
    | none => simp
    | some spec =>
      dsimp only
      split_ifs <;> simp

theorem close_consumed (parentKey : Int32) (t : TypedTransaction) (valid : Bool) (kind : ResultKind)
    (s : State) : (s.close parentKey t valid kind).1 ≠ .forwarded := by
  unfold State.close
  cases valid <;> simp

theorem close_erases (parentKey : Int32) (t : TypedTransaction) (valid : Bool) (kind : ResultKind)
    (s : State) : parentKey ∉ (s.close parentKey t valid kind).2.transactions := by
  unfold State.close
  cases valid <;> simp

theorem unchanged_of_forwarded (call : Call) (s : State) (hout : (State.step call s).1 = .forwarded)
    (hcall : ¬ RegistrationWrite call) : (State.step call s).2 = s := by
  cases call with
  | saveInteger table parentKey childKey value =>
    rw [State.step] at *
    unfold State.trySaveInteger at *
    split_ifs at * with hA hB hactive htable hbegin hcommit
    · simp only [Bool.and_eq_true, decide_eq_true_eq] at hA
      exact absurd ⟨table, .inl (by rw [hA.1.1, hA.1.2, hA.2])⟩ hcall
    · simp only [Bool.and_eq_true, decide_eq_true_eq] at hB
      exact absurd ⟨table, .inr (by rw [hB.1.1, hB.1.2, hB.2])⟩ hcall
    · simp only [Bool.and_eq_true, decide_eq_true_eq] at hB
      exact absurd ⟨table, .inr (by rw [hB.1.1, hB.1.2, hB.2])⟩ hcall
    · rfl
    · exact absurd hout (beginCommand_consumed parentKey value s)
    · cases hopen : s.transactions.lookup parentKey with
      | none => rfl
      | some t =>
        rw [hopen] at hout
        exact absurd hout (close_consumed _ _ _ _ _)
    · cases hopen : s.transactions.lookup parentKey with
      | none => rfl
      | some t =>
        rw [hopen] at hout
        dsimp only at *
        cases hslot : State.slot? childKey with
        | none => rfl
        | some slot => simp [hslot, State.write] at hout
  | saveReal table parentKey childKey value =>
    rw [State.step] at *
    unfold State.trySaveReal at *
    split_ifs at * with htable
    · rfl
    · cases hopen : s.transactions.lookup parentKey with
      | none => rfl
      | some t =>
        rw [hopen] at hout
        dsimp only at *
        cases hslot : State.slot? childKey with
        | none => rfl
        | some slot => simp [hslot, State.write] at hout
  | loadInteger table parentKey childKey =>
    rw [State.step] at *
    unfold State.tryLoadInteger at *
    split_ifs at * with htable hprobe hquery
    · rfl
    · rfl
    · cases hopen : s.transactions.lookup parentKey with
      | none => rfl
      | some t =>
        rw [hopen] at hout
        exact absurd hout (close_consumed _ _ _ _ _)
  | loadReal table parentKey childKey =>
    rw [State.step] at *
    unfold State.tryLoadReal at *
    split_ifs at * with htable
    · rfl
    · cases hopen : s.transactions.lookup parentKey with
      | none => rfl
      | some t =>
        rw [hopen] at hout
        exact absurd hout (close_consumed _ _ _ _ _)
  | reset => simp [State.step] at hout
  | dispatch n ready reply =>
    rw [State.step] at *
    unfold State.dispatch at *
    cases htaken : s.taken[n]? with
    | none => rfl
    | some e =>
      rw [htaken] at hout
      dsimp only at *
      cases hlive : e.finished with
      | true => rfl
      | false =>
        rw [hlive] at hout
        cases hcheck : dispatchTypedRequest e.request ready <;> simp [hcheck] at hout

theorem erased_of_asksToClose (call : Call) (s : State) (parentKey : Int32) (hactive : s.activeTable ≠ 0)
    (hcall : AsksToClose call s.activeTable parentKey) :
    parentKey ∉ (State.step call s).2.transactions := by
  have htable : ¬ (decide (s.activeTable = 0) || decide (s.activeTable ≠ s.activeTable)) = true := by
    simpa using hactive
  rcases hcall with ⟨value, rfl⟩ | rfl | rfl
  · have hA : ¬ (decide (parentKey = kTypedRegisterParent) &&
        decide (kTypedCommitChild = kTypedRegisterChildA) && decide (value = kTypedRegisterCookieA)) = true := by
      have : kTypedCommitChild ≠ kTypedRegisterChildA := by decide
      simp [this]
    have hB : ¬ (decide (parentKey = kTypedRegisterParent) &&
        decide (kTypedCommitChild = kTypedRegisterChildB) && decide (value = kTypedRegisterCookieB)) = true := by
      have : kTypedCommitChild ≠ kTypedRegisterChildB := by decide
      simp [this]
    rw [State.step, State.trySaveInteger, if_neg hA, if_neg hB, if_neg htable, if_neg (by decide)]
    cases hopen : s.transactions.lookup parentKey with
    | none => exact AList.lookup_eq_none.mp hopen
    | some t =>
      dsimp only
      rw [if_pos rfl]
      exact close_erases _ _ _ _ _
  · have hprobe : ¬ (decide (parentKey = kTypedRegisterParent) &&
        decide (kTypedQueryIntegerChild = kTypedProbeChild)) = true := by
      have : kTypedQueryIntegerChild ≠ kTypedProbeChild := by decide
      simp [this]
    rw [State.step, State.tryLoadInteger, if_neg htable, if_neg hprobe, if_neg (by simp)]
    cases hopen : s.transactions.lookup parentKey with
    | none => exact AList.lookup_eq_none.mp hopen
    | some t => exact close_erases _ _ _ _ _
  · rw [State.step, State.tryLoadReal, if_neg (by simpa using hactive)]
    cases hopen : s.transactions.lookup parentKey with
    | none => exact AList.lookup_eq_none.mp hopen
    | some t => exact close_erases _ _ _ _ _

theorem cleared_of_registers (call : Call) (s : State)
    (h : Registers (record State.step s call) ∨ call = .reset) :
    (State.step call s).2.transactions = ∅ ∧ (State.step call s).1.silent = true := by
  rcases h with ⟨table, hcall, hzero, hseen, hpending⟩ | rfl
  · rw [show call = _ from hcall]
    have hseen' : s.registerASeen = true := hseen
    have hpending' : table = s.pendingTable := hpending
    have hA : ¬ (decide (kTypedRegisterParent = kTypedRegisterParent) &&
        decide (kTypedRegisterChildB = kTypedRegisterChildA) &&
          decide (kTypedRegisterCookieB = kTypedRegisterCookieA)) = true := by decide
    rw [State.step, State.trySaveInteger, if_neg hA, if_pos (by decide), hseen',
      if_pos (by simp [hzero, ← hpending'])]
    exact ⟨rfl, rfl⟩
  · exact ⟨rfl, rfl⟩

/-- After a point at which nothing was open, what is open or taken out was begun since. -/
structure Since (s : State) (past : List Happened) : Prop where
  opened : ∀ parentKey t, s.transactions.lookup parentKey = some t →
    ∃ b ∈ past, b.output = .began t.serial
  closed : ∀ c ∈ past, ∀ serial, c.output = .closed serial → ∃ b ∈ past, b.output = .began serial

theorem Since.step (h : Since s past) (call : Call) :
    Since (State.step call s).2 (past ++ [record State.step s call]) := by
  have hmoves := moves_step call s
  have hout : (record State.step s call).output = (State.step call s).1 := rfl
  generalize record State.step s call = r at hout ⊢
  generalize (State.step call s).1 = output at hmoves hout
  generalize (State.step call s).2 = s' at hmoves ⊢
  have hgrow : ∀ serial, (∃ b ∈ past, b.output = .began serial) →
      ∃ b ∈ past ++ [r], b.output = .began serial := by
    rintro serial ⟨b, hb, hbegan⟩
    exact ⟨b, List.mem_append_left _ hb, hbegan⟩
  -- A step that takes out nothing leaves what is said of the past.
  have hpast : (∀ serial, r.output ≠ .closed serial) → ∀ c ∈ past ++ [r], ∀ serial,
      c.output = .closed serial → ∃ b ∈ past ++ [r], b.output = .began serial := by
    intro hnone c hc serial hclosed
    rcases List.mem_append.mp hc with hold | hnew
    · exact hgrow serial (h.closed c hold serial hclosed)
    · rw [List.mem_singleton] at hnew
      exact absurd (hnew ▸ hclosed) (hnone serial)
  have hsilent : output.silent = true → ∀ serial, r.output ≠ .closed serial := by
    rintro hs serial heq
    rw [← hout, heq] at hs
    cases hs
  cases hmoves with
  | quiet _ _ silent transactions =>
    exact ⟨fun k t ht => hgrow _ (h.opened k t (transactions ▸ ht)), hpast (hsilent silent)⟩
  | cleared _ _ silent transactions =>
    refine ⟨fun k t ht => ?_, hpast (hsilent silent)⟩
    rw [transactions, AList.lookup_empty] at ht
    cases ht
  | began parentKey opcode binding spec =>
    refine ⟨fun k t ht => ?_, hpast (by simp [hout])⟩
    rcases lookup_insert_cases ht with ⟨-, rfl⟩ | ⟨-, hold⟩
    · exact ⟨r, by simp, hout⟩
    · exact hgrow _ (h.opened k t hold)
  | wrote parentKey t w open_ =>
    refine ⟨fun k v hv => ?_, hpast (by simp [hout])⟩
    rcases lookup_insert_cases hv with ⟨-, rfl⟩ | ⟨-, hold⟩
    · rw [t.put_serial w]
      exact hgrow _ (h.opened parentKey t open_)
    · exact hgrow _ (h.opened k v hold)
  | dropped _ parentKey silent =>
    exact ⟨fun k t ht => hgrow _ (h.opened k t (lookup_erase_some ht).2), hpast (hsilent silent)⟩
  | closed parentKey t binding open_ =>
    refine ⟨fun k v hv => hgrow _ (h.opened k v (lookup_erase_some hv).2), fun c hc serial hclosed => ?_⟩
    rcases List.mem_append.mp hc with hold | hnew
    · exact hgrow serial (h.closed c hold serial hclosed)
    · rw [List.mem_singleton.mp hnew, hout, Output.closed.injEq] at hclosed
      exact hclosed ▸ hgrow _ (h.opened parentKey t open_)
  | finished _ n e taken live said =>
    refine ⟨fun k t ht => hgrow _ (h.opened k t ht), hpast ?_⟩
    rcases said with hs | ⟨answer, hs⟩
    · exact hsilent hs
    · simp [hout, hs]

theorem retired_run (calls : List Call) (before : List Happened) (r : Happened) (after : List Happened)
    (hsplit : history State.step calls {} = before ++ r :: after)
    (hr : Registers r ∨ r.call = .reset) (d : Happened) (hd : d ∈ after) (serial : ℕ)
    (request : ParsedRequest) (answer : Answer) (hout : d.output = .dispatched serial request answer)
    (hearned : ∀ before r after, history State.step calls {} = before ++ r :: after →
      ∀ serial request answer, r.output = .dispatched serial request answer →
        Earned before serial request) :
    (∃ b ∈ after, b.output = .began serial) ∨ ∃ c ∈ before, c.output = .closed serial := by
  obtain ⟨early, late, rfl⟩ := List.append_of_mem hd
  -- The command was closed before it was dispatched.
  obtain ⟨c, hc, hclosed⟩ : ∃ c ∈ before ++ r :: early, c.output = .closed serial := by
    obtain ⟨_, _, _, _, _, first, b, writing, c, rest, hpast, -, -, -, -, hclosed, -⟩ :=
      hearned (before ++ r :: early) d late (by rw [hsplit]; simp) serial request answer hout
    exact ⟨c, by rw [hpast]; simp, hclosed⟩
  obtain ⟨earlier, call, later, -, -, hrec, hafter⟩ := history_split State.step hsplit
  obtain ⟨hempty, hsilent⟩ := cleared_of_registers call (run State.step earlier {}) (by
    rw [hrec] at hr
    exact hr)
  rcases List.mem_append.mp hc with hbefore | hhere
  · exact .inr ⟨c, hbefore, hclosed⟩
  rcases List.mem_cons.mp hhere with hsame | hsince
  · -- A registration and a reset close nothing.
    have : (State.step call (run State.step earlier {})).1 = .closed serial := by
      rw [← hclosed, hsame, hrec]
      rfl
    rw [this] at hsilent
    cases hsilent
  · -- What was closed since was begun since.
    left
    have hinv : Since (run State.step later (State.step call (run State.step earlier {})).2)
        (early ++ d :: late) := by
      rw [hafter]
      refine @history_induction _ _ _ State.step Since _ ⟨fun k t ht => ?_, by simp⟩
        (fun t past call h => h.step call) later
      rw [hempty, AList.lookup_empty] at ht
      cases ht
    exact hinv.closed c (List.mem_append_left _ hsince) serial hclosed

theorem earned_run (calls : List Call) (before : List Happened) (r : Happened) (after : List Happened)
    (hsplit : history State.step calls {} = before ++ r :: after) (serial : ℕ) (request : ParsedRequest)
    (answer : Answer) (hout : r.output = .dispatched serial request answer) :
    Earned before serial request := by
  obtain ⟨earlier, call, later, -, rfl, hrec, -⟩ := history_split State.step hsplit
  have hinv := inv_run earlier
  have hmoves := moves_step call (run State.step earlier {})
  have hsaid : (State.step call (run State.step earlier {})).1 = .dispatched serial request answer := by
    rw [← hout, hrec]
    rfl
  rw [hsaid] at hmoves
  generalize (State.step call (run State.step earlier {})).2 = s' at hmoves
  cases hmoves with
  | quiet _ _ silent => cases silent
  | cleared _ _ silent => cases silent
  | dropped _ _ silent => cases silent
  | finished _ n e taken live said =>
    rcases said with silent | ⟨answer', heq⟩
    · cases silent
    · cases heq
      exact hinv.earned e (List.mem_of_getElem? taken)

/-- Over every order of calls the transport keeps its promises, and at most four commands are open, each
begun under the active table. -/
theorem transport_runs (calls : List Call) :
    Keeps (history State.step calls {}) ∧
      (run State.step calls {}).transactions.keys.length ≤ kMaximumTypedTransactions ∧
        ∀ parentKey t, (run State.step calls {}).transactions.lookup parentKey = some t →
          ∃ b ∈ history State.step calls {},
            Begins b (run State.step calls {}).activeTable parentKey t.opcode t.serial := by
  have hinv := inv_run calls
  refine ⟨⟨hinv.beganOnce, hinv.dispatchedOnce, earned_run calls, ?_, ?_, ?_⟩, hinv.bounded, ?_⟩
  · intro r hr parentKey hactive hcall
    obtain ⟨before, after, hsplit⟩ := List.append_of_mem hr
    obtain ⟨earlier, call, -, -, -, rfl, -⟩ := history_split State.step hsplit
    exact erased_of_asksToClose _ _ parentKey hactive hcall
  · intro r hr hout hcall
    obtain ⟨before, after, hsplit⟩ := List.append_of_mem hr
    obtain ⟨earlier, call, -, -, -, rfl, -⟩ := history_split State.step hsplit
    exact unchanged_of_forwarded _ _ hout hcall
  · intro before r after hsplit hr d hd serial request answer hout
    exact retired_run calls before r after hsplit hr d hd serial request answer hout (earned_run calls)
  · intro parentKey t ht
    obtain ⟨-, -, first, b, writing, hpast, hb, -⟩ := hinv.opened parentKey t ht
    exact ⟨b, by rw [hpast]; simp, hb⟩

def registersNothing : List Call :=
  [.saveInteger 5 kTypedRegisterParent kTypedRegisterChildA kTypedRegisterCookieA,
    .saveInteger 6 kTypedRegisterParent kTypedRegisterChildB kTypedRegisterCookieB]

/-- A query of a command without arguments, up to the end of its region. -/
def queryTaken : List Call :=
  [.saveInteger 5 kTypedRegisterParent kTypedRegisterChildA kTypedRegisterCookieA,
    .saveInteger 5 kTypedRegisterParent kTypedRegisterChildB kTypedRegisterCookieB,
    .saveInteger 5 1 kTypedBeginChild 401, .loadReal 5 1 kTypedQueryRealChild]

/-- A registration write for another table returns `false`, registers nothing and forgets what was pending.
And a query that left the mutex before a reset dispatches its command after it. -/
theorem forwarded_changes_and_late_dispatch :
    (∃ r ∈ history State.step registersNothing {}, r.output = .forwarded ∧ ¬ Registers r ∧
      (State.step r.call r.before).2 ≠ r.before) ∧
    ∃ before r after, history State.step (queryTaken ++ [.reset, .dispatch 0 true {}]) {} =
      before ++ r :: after ∧ r.call = .reset ∧ (∃ b ∈ before, b.output = .began 0) ∧
        ∃ d ∈ after, ∃ request answer, d.output = .dispatched 0 request answer := by
  constructor
  · let s := run State.step (registersNothing.take 1) {}
    refine ⟨⟨s, .saveInteger 6 kTypedRegisterParent kTypedRegisterChildB kTypedRegisterCookieB, .forwarded⟩,
      List.mem_of_getElem? (i := 1) rfl, rfl, ?_, fun heq => ?_⟩
    · rintro ⟨table, hcall, -, -, hpending⟩
      cases hcall
      exact absurd hpending (by decide)
    · exact absurd (congrArg State.registerASeen heq) (by decide)
  · refine ⟨_, _, _, by rw [history_append]; rfl, rfl, ⟨_, List.mem_of_getElem? (i := 2) rfl, rfl⟩,
      _, List.mem_of_getElem? (i := 0) rfl, _, _, rfl⟩

end War3VK.Japi.TypedTransport
