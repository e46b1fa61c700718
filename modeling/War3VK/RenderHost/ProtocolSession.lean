import War3VK.RenderHost.ControlCodecs

/-!
# Runs of an echo session

`Outcome` lists what a call of a session can do: a packet is accepted at its place, or it is the end of
the session. So the counters are those of the packets that were accepted (`Sound`), and a session is
closed only once the reply to its last packet was sent.
-/

namespace War3VK.RenderHost.Protocol.ServerSession

open Lib

variable {s : ServerSession}

/-! ## One call -/

inductive Accepts (s : ServerSession) (h : Header) : Prop
  | hello (hop : h.op = .hello) (hstate : s.state = .awaitHello)
  | beginEpoch (hop : h.op = .beginEpoch) (hstate : s.state = .ready) (hmap : s.map ≤ h.mapEpoch)
      (hdevice : s.device ≤ h.deviceEpoch) (hnew : h.mapEpoch ≠ s.map ∨ h.deviceEpoch ≠ s.device)
  | sampleEcho (hop : h.op = .sampleEcho) (hstate : s.state = .active)
      (hleft : s.frame ≠ UInt64.ofNat (2^64 - 1)) (hframe : h.frameId = s.frame + 1)
  | endEpoch (hop : h.op = .endEpoch) (hstate : s.state = .active)
  | close (hop : h.op = .close) (hstate : s.state = .ready)

theorem op_cases {h : Header} (hvalid : h.Valid) : h.op = .hello ∨ h.op = .beginEpoch ∨
    h.op = .sampleEcho ∨ h.op = .endEpoch ∨ h.op = .close := by
  obtain ⟨hlow, hhigh⟩ := hvalid.op
  obtain ⟨⟨raw⟩, flags, payloadBytes, nonce, sequence, mapEpoch, deviceEpoch, resourceId,
    resourceGeneration, frameId⟩ := h
  simp only [Op.hello, Op.close, Op.beginEpoch, Op.sampleEcho, Op.endEpoch, Op.mk.injEq,
    UInt16.le_iff_toNat_le, ← UInt16.toNat_inj] at hlow hhigh ⊢
  simp at hlow hhigh ⊢
  omega

theorem accepts_of_opError {h : Header} {payload : Bytes} (hvalid : h.Valid)
    (herror : s.opError h payload = .none) : Accepts s h := by
  unfold opError at herror
  rcases op_cases hvalid with hop | hop | hop | hop | hop
  · rw [if_pos hop, helloError, firstError_eq_ok_iff (by simp)] at herror
    simp only [List.forall_mem_cons, decide_eq_false_iff_not, not_not] at herror
    exact .hello hop herror.1
  · rw [if_neg (by rw [hop]; decide), if_pos hop, beginEpochError, firstError_eq_ok_iff (by simp)] at herror
    simp only [List.forall_mem_cons, decide_eq_false_iff_not, not_not, not_or] at herror
    obtain ⟨hstate, -, ⟨-, -, -, hmap, hdevice, hnew⟩, -⟩ := herror
    exact .beginEpoch hop hstate (UInt64.not_lt.mp hmap) (UInt64.not_lt.mp hdevice)
      (not_and_or.mp hnew)
  · rw [if_neg (by rw [hop]; decide), if_neg (by rw [hop]; decide), if_pos hop, sampleEchoError,
      firstError_eq_ok_iff (by simp)] at herror
    simp only [List.forall_mem_cons, decide_eq_false_iff_not, not_not, not_or] at herror
    obtain ⟨hstate, -, ⟨hleft, hframe⟩, -⟩ := herror
    exact .sampleEcho hop hstate hleft hframe
  · rw [if_neg (by rw [hop]; decide), if_neg (by rw [hop]; decide), if_neg (by rw [hop]; decide),
      if_pos hop, endEpochError, firstError_eq_ok_iff (by simp)] at herror
    simp only [List.forall_mem_cons, decide_eq_false_iff_not, not_not] at herror
    exact .endEpoch hop herror.1
  · rw [if_neg (by rw [hop]; decide), if_neg (by rw [hop]; decide), if_neg (by rw [hop]; decide),
      if_neg (by rw [hop]; decide), if_pos hop, closeError, firstError_eq_ok_iff (by simp)] at herror
    simp only [List.forall_mem_cons, decide_eq_false_iff_not, not_not] at herror
    exact .close hop herror.1

inductive Outcome (s : ServerSession) : Call → Output × ServerSession → Prop
  | accepted (data : Option Bytes) (v : MessageView) (hdecode : decode data = (.none, v))
      (hsequence : v.header.sequence = s.next) (hleft : s.next ≠ UInt64.ofNat (2^64 - 1))
      (haccepts : Accepts s v.header) :
      Outcome s (.receive data) (.received .none (s.replyTo v), s.commit v.header)
  | rejected (data : Option Bytes) (e : Error) (he : e ≠ .none) (hstate : s.state ≠ .closed) :
      Outcome s (.receive data) (.received e {}, s.reject)
  | terminal (data : Option Bytes) (hstate : s.state = .closed) :
      Outcome s (.receive data) (.received .terminal {}, s)
  | closed (hstate : s.state = .closing) :
      Outcome s (.closeReplySent (s.next - 1)) (.closeReplySent .none, { s with state := .closed })
  | failed (call : Call) (output : Output) (hcall : ∀ data, call ≠ .receive data)
      (houtput : output ≠ .closeReplySent .none) (hstate : s.state ≠ .closed) :
      Outcome s call (output, s.reject)
  | kept (call : Call) (output : Output) (hcall : ∀ data, call ≠ .receive data)
      (houtput : output ≠ .closeReplySent .none) (hstate : s.state = .closed) :
      Outcome s call (output, s)

theorem reject_of_fault (h : s.state = .fault) : s.reject = s := by
  rw [reject, ← h]

theorem step_outcome (call : Call) (s : ServerSession) : Outcome s call (step call s) := by
  cases call with
  | receive data =>
    unfold step receive
    dsimp only
    split_ifs with hover hclosing
    · rcases hover with hclosed | hfault
      · exact .terminal data hclosed
      · have hrejected := Outcome.rejected data .terminal (by decide)
          (show s.state ≠ .closed by rw [hfault]; decide)
        rwa [reject_of_fault hfault] at hrejected
    · exact .rejected data .state (by decide) (by rw [hclosing]; decide)
    · have hopen : s.state ≠ .closed := fun h => hover (Or.inl h)
      rcases decode_spec data with ⟨bytes, -, -, hvalid, -, hdecode⟩ | ⟨e, he, hdecode⟩
      · rw [hdecode]
        dsimp only
        split_ifs with herror
        · exact .rejected data _ herror hopen
        · rw [not_not, packetError, firstError_eq_ok_iff_of_imp (by simp)] at herror
          simp only [List.forall_mem_cons, decide_eq_false_iff_not, not_not] at herror
          obtain ⟨-, -, hlast, hsequence, -, herror, -⟩ := herror
          exact .accepted data _ hdecode hsequence (by rwa [← hsequence])
            (accepts_of_opError hvalid herror)
      · rw [hdecode]
        cases e with
        | none => exact absurd rfl he
        | _ => exact .rejected data _ he hopen
  | closeReplySent sequence =>
    unfold step closeReplySent
    dsimp only
    split_ifs with hover hclosing hsequence
    · rcases hover with hclosed | hfault
      · exact .kept _ _ (by simp) (by simp) hclosed
      · have hfailed := Outcome.failed (.closeReplySent sequence) (.closeReplySent .terminal)
          (by simp) (by simp) (show s.state ≠ .closed by rw [hfault]; decide)
        rwa [reject_of_fault hfault] at hfailed
    · exact .failed _ _ (by simp) (by simp) fun h => hover (Or.inl h)
    · exact .failed _ _ (by simp) (by simp) fun h => hover (Or.inl h)
    · rw [not_not] at hclosing hsequence
      subst hsequence
      exact .closed hclosing
  | transportFailed =>
    unfold step transportFailed
    dsimp only
    split_ifs with hclosed
    · exact .failed _ _ (by simp) (by simp) hclosed
    · exact .kept _ _ (by simp) (by simp) (not_not.mp hclosed)

/-! ## What was accepted -/

abbrev Happened := Record ServerSession Call Output

def acceptedHeader (r : Happened) : Option Header :=
  match r.call, r.output with
  | .receive data, .received .none _ => some (decode data).2.header
  | _, _ => none

def begins (r : Happened) : Bool := (acceptedHeader r).any fun h => h.op = .beginEpoch

def acceptedFrame (r : Happened) : Option UInt64 :=
  (acceptedHeader r).bind fun h => if h.op = .sampleEcho then some h.frameId else none

def framesSince (past : List Happened) : List UInt64 :=
  past.foldl (fun frames r => if begins r then [] else frames ++ (acceptedFrame r).toList) []

def rejects (r : Happened) : Bool :=
  match r.output with
  | .received e _ => e ≠ .none
  | _ => false

/-- The call closed the session: it told that the reply to a close was sent. -/
structure Closes (c r : Happened) : Prop where
  /-- The close was accepted, and its reply of exactly its sequence was sent. -/
  reply : ∃ h, acceptedHeader c = some h ∧ h.op = .close ∧ r.call = .closeReplySent h.sequence
  output : r.output = .closeReplySent .none

structure Sound (s : ServerSession) (past : List Happened) : Prop where
  /-- The next packet is the one after those that were accepted. -/
  counted : s.accepted.toNat + 1 = s.next.toNat
  sequences : (past.filterMap acceptedHeader).map (fun h => h.sequence.toNat) =
    List.range' 1 s.accepted.toNat
  frames : (framesSince past).map UInt64.toNat = List.range' 1 s.frame.toNat
  idle : (∀ r ∈ past, begins r = false) → s.frame = 0 ∧ s.state ≠ .active
  /-- A session that closes has just accepted a close. -/
  closing : s.state = .closing → ∃ before c h, past = before ++ [c] ∧ acceptedHeader c = some h ∧
    h.op = .close ∧ h.sequence = s.next - 1
  closed : s.state = .closed → ∃ before c r after, past = before ++ c :: r :: after ∧ Closes c r

variable {past : List Happened} {r : Happened}

theorem framesSince_concat (past : List Happened) (r : Happened) : framesSince (past ++ [r]) =
    if begins r then [] else framesSince past ++ (acceptedFrame r).toList := by
  rw [framesSince, List.foldl_append]
  rfl

theorem framesSince_append {past since : List Happened} (h : ∀ r ∈ since, begins r = false) :
    framesSince (past ++ since) = framesSince past ++ since.filterMap acceptedFrame := by
  induction since using List.reverseRecOn with
  | nil => simp
  | append_singleton since r ih =>
    rw [List.forall_mem_append] at h
    rw [← List.append_assoc, framesSince_concat, h.2 r List.mem_cons_self, ih h.1,
      filterMap_concat, List.append_assoc]
    rfl

theorem framesSince_begins (past : List Happened) (h : begins r = true) :
    framesSince (past ++ [r]) = [] := by
  rw [framesSince_concat, h]
  rfl

theorem closed_append (h : ∃ before c r after, past = before ++ c :: r :: after ∧ Closes c r)
    (r : Happened) : ∃ before c r' after, past ++ [r] = before ++ c :: r' :: after ∧ Closes c r' := by
  obtain ⟨before, c, r', after, rfl, hcloses⟩ := h
  exact ⟨before, c, r', after ++ [r], by simp, hcloses⟩

theorem Sound.leave (h : Sound s past) {t : ServerSession} (hnone : acceptedHeader r = none)
    (hsame : t = { s with state := t.state })
    (hstate : t.state = .fault ∨ t.state = .closed ∧
      (s.state = .closed ∨ ∃ c, past.getLast? = some c ∧ Closes c r)) :
    Sound t (past ++ [r]) := by
  have hbegins : begins r = false := by rw [begins, hnone]; rfl
  have hframe : acceptedFrame r = none := by rw [acceptedFrame, hnone]; rfl
  have hclosing : t.state ≠ .closing := by
    rcases hstate with hfault | ⟨hclosed, -⟩
    · rw [hfault]; decide
    · rw [hclosed]; decide
  exact {
    counted := by rw [hsame]; exact h.counted
    sequences := by
      rw [filterMap_concat, hnone, hsame]
      simpa using h.sequences
    frames := by
      rw [framesSince_concat, hbegins, hframe, hsame]
      simpa using h.frames
    idle := fun hidle => by
      refine ⟨?_, ?_⟩
      · rw [hsame]
        exact (h.idle fun r' hr' => hidle r' (List.mem_append_left _ hr')).1
      · rcases hstate with hfault | ⟨hclosed, -⟩
        · rw [hfault]; decide
        · rw [hclosed]; decide
    closing := fun heq => absurd heq hclosing
    closed := fun hclosed => by
      rcases hstate with hfault | ⟨-, hbefore | ⟨c, hlast, hcloses⟩⟩
      · rw [hfault] at hclosed
        cases hclosed
      · exact closed_append (h.closed hbefore) r
      · obtain ⟨before, rfl⟩ := List.getLast?_eq_some_iff.mp hlast
        exact ⟨before, c, r, [], by simp, hcloses⟩ }

theorem toNat_succ {n : UInt64} (h : n ≠ UInt64.ofNat (2^64 - 1)) :
    (n + 1).toNat = n.toNat + 1 := by
  have hlt := UInt64.toNat_lt n
  have hne : n.toNat ≠ 2^64 - 1 := fun heq => h (UInt64.toNat_inj.mp heq)
  rw [UInt64.toNat_add]
  show (n.toNat + 1) % 2^64 = _
  omega

theorem Sound.count (h : Sound s past) {header : Header} (hheader : acceptedHeader r = some header)
    (hsequence : header.sequence = s.next) (hleft : s.next ≠ UInt64.ofNat (2^64 - 1)) :
    (s.accepted + 1).toNat + 1 = (s.next + 1).toNat ∧
      ((past ++ [r]).filterMap acceptedHeader).map (fun h => h.sequence.toNat) =
        List.range' 1 (s.accepted + 1).toNat := by
  have hcounted := h.counted
  have hlt := UInt64.toNat_lt s.next
  have hsucc : (s.accepted + 1).toNat = s.accepted.toNat + 1 := by
    rw [UInt64.toNat_add]
    show (s.accepted.toNat + 1) % 2^64 = _
    omega
  refine ⟨by rw [hsucc, toNat_succ hleft, hcounted], ?_⟩
  rw [filterMap_concat, hheader, hsucc, List.map_append, h.sequences, List.range'_1_concat]
  simp only [Option.toList_some, List.map_cons, List.map_nil, hsequence]
  rw [← hcounted, Nat.add_comm]

theorem Sound.pass (h : Sound s past) {header : Header} {t : ServerSession}
    (hheader : acceptedHeader r = some header) (hbegin : header.op ≠ .beginEpoch)
    (hsample : header.op ≠ .sampleEcho) (hsequence : header.sequence = s.next)
    (hleft : s.next ≠ UInt64.ofNat (2^64 - 1))
    (ht : t = { s with state := t.state, next := s.next + 1, accepted := s.accepted + 1 })
    (hstate : t.state = .ready ∨ t.state = .closing ∧ header.op = .close) :
    Sound t (past ++ [r]) := by
  have hbegins : begins r = false := by simp [begins, hheader, hbegin]
  have hframe : acceptedFrame r = none := by simp [acceptedFrame, hheader, hsample]
  obtain ⟨hcounted, hsequences⟩ := h.count hheader hsequence hleft
  exact {
    counted := by rw [ht]; exact hcounted
    sequences := by rw [ht]; exact hsequences
    frames := by
      rw [framesSince_concat, hbegins, hframe, ht]
      simpa using h.frames
    idle := fun hidle => by
      refine ⟨?_, ?_⟩
      · rw [ht]
        exact (h.idle fun r' hr' => hidle r' (List.mem_append_left _ hr')).1
      · rcases hstate with hready | ⟨hclosing, -⟩
        · rw [hready]; decide
        · rw [hclosing]; decide
    closing := fun hclosing => by
      have hop : header.op = .close := by
        rcases hstate with hready | ⟨-, hop⟩
        · rw [hready] at hclosing
          cases hclosing
        · exact hop
      refine ⟨past, r, header, rfl, hheader, hop, ?_⟩
      rw [hsequence, ht]
      exact (UInt64.add_sub_cancel s.next 1).symm
    closed := fun hclosed => by
      rcases hstate with hready | ⟨hclosing, -⟩
      · rw [hready] at hclosed
        cases hclosed
      · rw [hclosing] at hclosed
        cases hclosed }

theorem Sound.accept (h : Sound s past) {header : Header}
    (hheader : acceptedHeader r = some header) (hsequence : header.sequence = s.next)
    (hleft : s.next ≠ UInt64.ofNat (2^64 - 1)) (haccepts : Accepts s header) :
    Sound (s.commit header) (past ++ [r]) := by
  cases haccepts with
  | hello hop hstate =>
    have hcommit : s.commit header =
        { s with state := .ready, next := s.next + 1, accepted := s.accepted + 1 } := by
      rw [commit, switched, if_pos hop]
    rw [hcommit]
    exact h.pass hheader (by rw [hop]; decide) (by rw [hop]; decide) hsequence hleft rfl (Or.inl rfl)
  | beginEpoch hop hstate hmap hdevice hnew =>
    have hcommit : s.commit header = { s with
          map := header.mapEpoch, device := header.deviceEpoch, frame := 0, state := .active
          next := s.next + 1, accepted := s.accepted + 1 } := by
      rw [commit, switched, if_neg (by rw [hop]; decide), if_pos hop]
    have hbegins : begins r = true := by simp [begins, hheader, hop]
    obtain ⟨hcounted, hsequences⟩ := h.count hheader hsequence hleft
    rw [hcommit]
    exact {
      counted := hcounted
      sequences := hsequences
      frames := by
        rw [framesSince_begins past hbegins]
        rfl
      idle := fun hidle => by
        rw [hidle r (List.mem_append_right _ List.mem_cons_self)] at hbegins
        cases hbegins
      closing := fun hclosing => (nomatch hclosing)
      closed := fun hclosed => (nomatch hclosed) }
  | sampleEcho hop hstate hframeLeft hframe =>
    have hcommit : s.commit header =
        { s with frame := header.frameId, next := s.next + 1, accepted := s.accepted + 1 } := by
      rw [commit, switched, if_neg (by rw [hop]; decide), if_neg (by rw [hop]; decide), if_pos hop]
    have hbegins : begins r = false := by simp [begins, hheader, hop, Op.beginEpoch, Op.sampleEcho]
    have hsample : acceptedFrame r = some header.frameId := by
      simp [acceptedFrame, hheader, hop]
    obtain ⟨hcounted, hsequences⟩ := h.count hheader hsequence hleft
    rw [hcommit]
    exact {
      counted := hcounted
      sequences := hsequences
      frames := by
        rw [framesSince_concat, hbegins, hsample, hframe]
        show ((framesSince past) ++ [s.frame + 1]).map UInt64.toNat = List.range' 1 (s.frame + 1).toNat
        rw [List.map_append, h.frames, toNat_succ hframeLeft, List.range'_1_concat, List.map_cons,
          toNat_succ hframeLeft, Nat.add_comm 1]
        rfl
      idle := fun hidle =>
        absurd hstate (h.idle fun r' hr' => hidle r' (List.mem_append_left _ hr')).2
      closing := fun hclosing => by
        rw [show s.state = .closing from hclosing] at hstate
        cases hstate
      closed := fun hclosed => by
        rw [show s.state = .closed from hclosed] at hstate
        cases hstate }
  | endEpoch hop hstate =>
    have hcommit : s.commit header =
        { s with state := .ready, next := s.next + 1, accepted := s.accepted + 1 } := by
      rw [commit, switched, if_neg (by rw [hop]; decide), if_neg (by rw [hop]; decide),
        if_neg (by rw [hop]; decide), if_pos hop]
    rw [hcommit]
    exact h.pass hheader (by rw [hop]; decide) (by rw [hop]; decide) hsequence hleft rfl (Or.inl rfl)
  | close hop hstate =>
    have hcommit : s.commit header =
        { s with state := .closing, next := s.next + 1, accepted := s.accepted + 1 } := by
      rw [commit, switched, if_neg (by rw [hop]; decide), if_neg (by rw [hop]; decide),
        if_neg (by rw [hop]; decide), if_neg (by rw [hop]; decide), if_pos hop]
    rw [hcommit]
    exact h.pass hheader (by rw [hop]; decide) (by rw [hop]; decide) hsequence hleft rfl
      (Or.inr ⟨rfl, hop⟩)

theorem Sound.step (h : Sound s past) (call : Call) :
    Sound (ServerSession.step call s).2 (past ++ [Lib.record ServerSession.step s call]) := by
  have houtcome := step_outcome call s
  have hcall : (Lib.record ServerSession.step s call).call = call := rfl
  have houtput : (Lib.record ServerSession.step s call).output = (ServerSession.step call s).1 := rfl
  generalize Lib.record ServerSession.step s call = r at hcall houtput ⊢
  generalize ServerSession.step call s = result at houtcome houtput ⊢
  cases houtcome with
  | accepted data v hdecode hsequence hleft haccepts =>
    have hheader : acceptedHeader r = some v.header := by
      simp [acceptedHeader, hcall, houtput, hdecode]
    exact h.accept hheader hsequence hleft haccepts
  | rejected data e he hstate =>
    refine h.leave ?_ rfl (Or.inl rfl)
    cases e with
    | none => exact absurd rfl he
    | _ => simp [acceptedHeader, hcall, houtput]
  | terminal data hstate =>
    refine h.leave ?_ rfl (Or.inr ⟨hstate, Or.inl hstate⟩)
    simp [acceptedHeader, hcall, houtput]
  | closed hstate =>
    refine h.leave ?_ rfl (Or.inr ⟨rfl, Or.inr ?_⟩)
    · simp [acceptedHeader, hcall]
    · -- The close that was just accepted has the sequence that was told.
      obtain ⟨before, c, header, rfl, hheader, hop, hsequence⟩ := h.closing hstate
      exact ⟨c, by simp, ⟨header, hheader, hop, by rw [hcall, hsequence]⟩, houtput⟩
  | failed call output hreceive hclose hstate =>
    refine h.leave ?_ rfl (Or.inl rfl)
    unfold acceptedHeader
    split
    · exact absurd (hcall.symm.trans (by assumption)) (hreceive _)
    · rfl
  | kept call output hreceive hclose hstate =>
    refine h.leave ?_ rfl (Or.inr ⟨hstate, Or.inl hstate⟩)
    unfold acceptedHeader
    split
    · exact absurd (hcall.symm.trans (by assumption)) (hreceive _)
    · rfl

theorem sound_init (nonce : Nonce) (localBits peerBits : UInt32) :
    Sound (ServerSession.new nonce localBits peerBits) [] where
  counted := rfl
  sequences := rfl
  frames := rfl
  idle _ := by
    refine ⟨rfl, ?_⟩
    unfold ServerSession.new
    dsimp only
    split_ifs <;> decide
  closing h := by
    unfold ServerSession.new at h
    dsimp only at h
    split_ifs at h
  closed h := by
    unfold ServerSession.new at h
    dsimp only at h
    split_ifs at h

theorem sound_run (nonce : Nonce) (localBits peerBits : UInt32) (calls : List Call) :
    Sound (run ServerSession.step calls (ServerSession.new nonce localBits peerBits))
      (history ServerSession.step calls (ServerSession.new nonce localBits peerBits)) :=
  @history_induction _ _ _ ServerSession.step Sound (ServerSession.new nonce localBits peerBits)
    (sound_init nonce localBits peerBits) (fun _ _ call h => h.step call) calls

/-! ## Every run -/

structure Advances (r : Happened) : Prop where
  map : r.before.map ≤ (ServerSession.step r.call r.before).2.map
  device : r.before.device ≤ (ServerSession.step r.call r.before).2.device
  begins : begins r = true → r.before.map < (ServerSession.step r.call r.before).2.map ∨
    r.before.device < (ServerSession.step r.call r.before).2.device

theorem lt_of_le_of_ne' {m n : UInt64} (hle : n ≤ m) (hne : m ≠ n) : n < m := by
  rw [UInt64.lt_iff_toNat_lt]
  have hle := UInt64.le_iff_toNat_le.mp hle
  have hne : m.toNat ≠ n.toNat := fun heq => hne (UInt64.toNat_inj.mp heq)
  omega

theorem advances_record (s : ServerSession) (call : Call) :
    Advances (Lib.record ServerSession.step s call) := by
  have houtcome := step_outcome call s
  have hle : s.map ≤ s.map ∧ s.device ≤ s.device := ⟨UInt64.le_refl _, UInt64.le_refl _⟩
  -- Only a packet that is accepted can begin an epoch.
  have hkeep (hmap : (ServerSession.step call s).2.map = s.map)
      (hdevice : (ServerSession.step call s).2.device = s.device)
      (hbegins : begins (Lib.record ServerSession.step s call) = false) :
      Advances (Lib.record ServerSession.step s call) :=
    ⟨by rw [Lib.record, hmap]; exact hle.1, by rw [Lib.record, hdevice]; exact hle.2, fun h => by
      rw [hbegins] at h
      cases h⟩
  generalize hresult : ServerSession.step call s = result at houtcome hkeep
  have houtput : (Lib.record ServerSession.step s call).output = result.1 := by
    rw [← hresult]
    rfl
  have hnone (hheader : acceptedHeader (Lib.record ServerSession.step s call) = none) :
      begins (Lib.record ServerSession.step s call) = false := by rw [begins, hheader]; rfl
  cases houtcome with
  | accepted data v hdecode hsequence hleft haccepts =>
    have hheader : acceptedHeader (Lib.record ServerSession.step s (.receive data)) = some v.header := by
      unfold acceptedHeader
      rw [houtput]
      simp [Lib.record, hdecode]
    cases haccepts with
    | beginEpoch hop hstate hmap hdevice hnew =>
      have hcommit : (s.commit v.header).map = v.header.mapEpoch ∧
          (s.commit v.header).device = v.header.deviceEpoch := by
        rw [commit, switched, if_neg (by rw [hop]; decide), if_pos hop]
        exact ⟨rfl, rfl⟩
      refine ⟨?_, ?_, fun _ => ?_⟩
      · rw [Lib.record, hresult, hcommit.1]
        exact hmap
      · rw [Lib.record, hresult, hcommit.2]
        exact hdevice
      · rw [Lib.record, hresult, hcommit.1, hcommit.2]
        exact hnew.imp (lt_of_le_of_ne' hmap) (lt_of_le_of_ne' hdevice)
    | hello hop hstate =>
      refine hkeep ?_ ?_ (by simp [begins, hheader, hop, Op.hello, Op.beginEpoch]) <;>
        simp [commit, switched, hop]
    | sampleEcho hop hstate hframeLeft hframe =>
      refine hkeep ?_ ?_ (by simp [begins, hheader, hop, Op.sampleEcho, Op.beginEpoch]) <;>
        simp [commit, switched, hop, Op.sampleEcho, Op.beginEpoch, Op.hello]
    | endEpoch hop hstate =>
      refine hkeep ?_ ?_ (by simp [begins, hheader, hop, Op.endEpoch, Op.beginEpoch]) <;>
        simp [commit, switched, hop, Op.sampleEcho, Op.beginEpoch, Op.hello, Op.endEpoch]
    | close hop hstate =>
      refine hkeep ?_ ?_ (by simp [begins, hheader, hop, Op.close, Op.beginEpoch]) <;>
        simp [commit, switched, hop, Op.sampleEcho, Op.beginEpoch, Op.hello, Op.endEpoch, Op.close]
  | rejected data e he hstate =>
    refine hkeep rfl rfl (hnone ?_)
    unfold acceptedHeader
    rw [houtput]
    cases e with
    | none => exact absurd rfl he
    | _ => rfl
  | terminal data hstate =>
    refine hkeep rfl rfl (hnone ?_)
    unfold acceptedHeader
    rw [houtput]
    rfl
  | closed hstate => exact hkeep rfl rfl (hnone rfl)
  | failed call output hreceive hclose hstate =>
    refine hkeep rfl rfl (hnone ?_)
    cases call with
    | receive data => exact absurd rfl (hreceive data)
    | _ => rfl
  | kept call output hreceive hclose hstate =>
    refine hkeep rfl rfl (hnone ?_)
    cases call with
    | receive data => exact absurd rfl (hreceive data)
    | _ => rfl

def Over (s : ServerSession) : Prop := s.state = .closed ∨ s.state = .fault

theorem Over.step (h : Over s) (call : Call) : Over (ServerSession.step call s).2 := by
  have houtcome := step_outcome call s
  generalize ServerSession.step call s = result at houtcome ⊢
  cases houtcome with
  | accepted data v hdecode hsequence hleft haccepts =>
    exfalso
    rcases h with h | h <;> cases haccepts <;> simp_all
  | rejected data e he hstate => exact Or.inr rfl
  | terminal data hstate => exact Or.inl hstate
  | closed hstate => exact Or.inl rfl
  | failed call output hreceive hclose hstate => exact Or.inr rfl
  | kept call output hreceive hclose hstate => exact Or.inl hstate

theorem Over.accepts (h : Over s) (call : Call) :
    acceptedHeader (Lib.record ServerSession.step s call) = none := by
  cases call with
  | receive data =>
    have hstep : (Lib.record ServerSession.step s (.receive data)).output = .received .terminal {} := by
      show (ServerSession.step (.receive data) s).1 = _
      unfold ServerSession.step receive
      dsimp only
      rw [if_pos (show s.state = .closed ∨ s.state = .fault from h)]
    unfold acceptedHeader
    rw [hstep]
    rfl
  | _ => rfl

theorem rejects_step {call : Call} (h : rejects (Lib.record ServerSession.step s call) = true) :
    (ServerSession.step call s).2 = if s.state = .closed then s else { s with state := .fault } := by
  have houtcome := step_outcome call s
  have houtput : (Lib.record ServerSession.step s call).output = (ServerSession.step call s).1 := rfl
  rw [rejects, houtput] at h
  generalize ServerSession.step call s = result at houtcome h ⊢
  cases houtcome with
  | accepted data v hdecode hsequence hleft haccepts => cases h
  | rejected data e he hstate =>
    rw [if_neg hstate]
    rfl
  | terminal data hstate => rw [if_pos hstate]
  | closed hstate => cases h
  | failed call output hreceive hclose hstate =>
    rw [if_neg hstate]
    rfl
  | kept call output hreceive hclose hstate => rw [if_pos hstate]

/-- In every run packets are accepted in their order, epochs go on, samples are counted from 1 in each,
the first packet that is rejected ends the session, and it is closed only once the reply to its close
was sent. -/
theorem session_runs (nonce : Nonce) (localBits peerBits : UInt32) (calls : List Call) :
    let past := history step calls (new nonce localBits peerBits)
    let t := run step calls (new nonce localBits peerBits)
    (t.accepted = t.next - 1 ∧ (past.filterMap acceptedHeader).map (fun h => h.sequence.toNat) =
      List.range' 1 t.accepted.toNat) ∧
    (∀ r ∈ past, Advances r) ∧
    (∀ before b epoch after, past = before ++ b :: (epoch ++ after) → begins b = true →
      (∀ r ∈ epoch, begins r = false) → (epoch.filterMap acceptedFrame).map UInt64.toNat =
        List.range' 1 (epoch.filterMap acceptedFrame).length) ∧
    (∀ before after, past = before ++ after → (∀ r ∈ before, begins r = false) →
      before.filterMap acceptedFrame = []) ∧
    (∀ before r after, past = before ++ r :: after → rejects r = true →
      (step r.call r.before).2 =
        (if r.before.state = .closed then r.before else { r.before with state := .fault }) ∧
      ∀ r' ∈ after, acceptedHeader r' = none) ∧
    (t.state = .closed → ∃ before c r after, past = before ++ c :: r :: after ∧ Closes c r) := by
  intro past t
  have hsound : Sound t past := sound_run nonce localBits peerBits calls
  refine ⟨⟨?_, hsound.sequences⟩, ?_, ?_, ?_, ?_, hsound.closed⟩
  · -- The counters are one apart.
    have hcounted := hsound.counted
    have hnext : t.next = t.accepted + 1 := by
      have hlt := UInt64.toNat_lt t.next
      apply UInt64.toNat_inj.mp
      rw [UInt64.toNat_add]
      show _ = (t.accepted.toNat + 1) % 2^64
      omega
    rw [hnext]
    exact (UInt64.add_sub_cancel t.accepted 1).symm
  · exact @forall_mem_history _ _ _ step (fun _ => True) Advances _ trivial
      (fun _ _ _ => trivial) (fun s call _ => advances_record s call) calls
  · intro before b epoch after hpast hb hepoch
    have hsplit : past = (before ++ b :: epoch) ++ after := by
      rw [hpast, List.append_assoc, List.cons_append]
    obtain ⟨earlier, later, -, hbefore, -⟩ := history_prefix step hsplit
    -- Up to here the samples are those of the epoch.
    have hframes := (sound_run nonce localBits peerBits earlier).frames
    rw [← hbefore, ← List.singleton_append, ← List.append_assoc, framesSince_append hepoch,
      framesSince_begins before hb, List.nil_append] at hframes
    have hlength := congrArg List.length hframes
    rw [List.length_map, List.length_range'] at hlength
    rw [hframes, hlength]
  · intro before after hpast hnone
    obtain ⟨earlier, later, -, hbefore, -⟩ := history_prefix step hpast
    have hsound := sound_run nonce localBits peerBits earlier
    rw [← hbefore] at hsound
    have hframes := hsound.frames
    rw [(hsound.idle hnone).1, ← List.nil_append before, framesSince_append hnone] at hframes
    exact List.map_eq_nil_iff.mp hframes
  · intro before r after hpast hrejects
    obtain ⟨earlier, call, later, -, -, rfl, hafter⟩ := history_split step hpast
    have hstep := rejects_step hrejects
    refine ⟨hstep, ?_⟩
    have hover : Over (step call (run step earlier (new nonce localBits peerBits))).2 := by
      rw [hstep]
      split_ifs with hclosed
      · exact Or.inl hclosed
      · exact Or.inr rfl
    rw [hafter]
    exact @forall_mem_history _ _ _ step Over (fun r' => acceptedHeader r' = none) _ hover
      (fun s call h => h.step call) (fun s call h => h.accepts call) later

def shortSession : List Call :=
  [.receive (some (headerImage { payloadBytes := 24, nonce := ⟨1, 0⟩ } 24 ++
      encodeHello 32 64 cpuEcho cpuEcho)),
    .receive (some (headerImage { op := .close, nonce := ⟨1, 0⟩, sequence := 2 } 0)),
    .closeReplySent 2, .receive none]

/-- A packet that a closed session rejects leaves it closed: not every rejected packet is a fault. -/
theorem rejected_stays_closed : ¬∀ nonce localBits peerBits calls,
    ∀ r ∈ history step calls (new nonce localBits peerBits), rejects r = true →
      (step r.call r.before).2.state = .fault := by
  intro h
  have hlast := h ⟨1, 0⟩ 64 32 shortSession
  revert hlast
  decide +kernel

end War3VK.RenderHost.Protocol.ServerSession
