import Mathlib.Data.List.AList
import War3VK.Japi.TypedTransaction
import War3VK.Lib.Machine

/-!
# The typed plane of the script interface

Writes to a registered hashtable begin a command, fill its arguments and close it
(`src/d3d9/war3/japi/war3_japi_v1.cpp`, `TryTypedSaveInteger`, `TryTypedSaveReal`,
`TryTypedLoadInteger`, `TryTypedLoadReal`, `ResetTypedTransport`). A call is one region under the mutex.
A call that closes a complete command takes it out there, leaves the mutex and hands the command to the
backend: this is a step of its own, and other calls may come between.
-/

namespace War3VK.Japi.TypedTransport

open Lib

/-- `kTypedRegisterParent`. -/
def kTypedRegisterParent : Int32 := 0x57564b54

/-- `kTypedRegisterChildA`. -/
def kTypedRegisterChildA : Int32 := 0x52454731

/-- `kTypedRegisterChildB`. -/
def kTypedRegisterChildB : Int32 := 0x52454732

/-- `kTypedRegisterCookieA`. -/
def kTypedRegisterCookieA : Int32 := 0x13572468

/-- `kTypedRegisterCookieB`. -/
def kTypedRegisterCookieB : Int32 := 0x24681357

/-- `kTypedProbeChild`. -/
def kTypedProbeChild : Int32 := 0x50524f42

/-- `kTypedProbeAck`. -/
def kTypedProbeAck : Int32 := 0x574b5632

/-- `kTypedBeginChild`. -/
def kTypedBeginChild : Int32 := -2147418111

/-- `kTypedCommitChild`. -/
def kTypedCommitChild : Int32 := -2147418110

/-- `kTypedQueryIntegerChild`. -/
def kTypedQueryIntegerChild : Int32 := -2147418109

/-- `kTypedQueryRealChild`. -/
def kTypedQueryRealChild : Int32 := -2147418108

/-- `kMaximumTypedTransactions`. -/
def kMaximumTypedTransactions : ℕ := 4

/-- `Reply`. -/
structure Reply where
  consumed : Bool := false
  error : ErrorCode := .none
  kind : ResultKind := .void
  integer : Int32 := 0
  real : UInt32 := 0
  text : List UInt8 := []
  deriving DecidableEq, Repr

/-- `Reply::ok`. -/
def Reply.ok (reply : Reply) : Bool := reply.consumed && reply.error = .none

/-- A command that a call took out and that the call hands to the backend. -/
structure Taken where
  serial : ℕ
  /-- The kind of result that the call asks for, `void` for a commit. -/
  kind : ResultKind
  request : ParsedRequest
  finished : Bool := false
  deriving DecidableEq, Repr

/-- The variables of the transport, and the calls that left the mutex with a command. -/
structure State where
  /-- `g_typedPendingTable`. -/
  pendingTable : UInt32 := 0
  /-- `g_typedActiveTable`. -/
  activeTable : UInt32 := 0
  /-- `g_typedRegisterASeen`. -/
  registerASeen : Bool := false
  /-- `g_typedTransactions`. -/
  transactions : AList fun _ : Int32 => TypedTransaction := ∅
  begun : ℕ := 0
  taken : List Taken := []
  deriving DecidableEq

/-- The calls, and the steps in which they hand over a command. The runtime may be ready or not, and the
backend gives some reply. -/
inductive Call
  | saveInteger (table : UInt32) (parentKey childKey value : Int32)
  | saveReal (table : UInt32) (parentKey childKey : Int32) (value : UInt32)
  | loadInteger (table : UInt32) (parentKey childKey : Int32)
  | loadReal (table : UInt32) (parentKey childKey : Int32)
  | reset
  | dispatch (n : ℕ) (ready : Bool) (reply : Reply)
  deriving DecidableEq, Repr

structure Answer where
  integer : Int32 := 0
  real : UInt32 := 0
  error : ErrorCode := .none
  deriving DecidableEq, Repr

/-- What a step does: `forwarded` is the result `false`, the others are `true` or go on. -/
inductive Output
  | forwarded
  | consumed (error : ErrorCode)
  | acknowledged (value : Int32)
  | began (serial : ℕ)
  | wrote (serial : ℕ) (w : Write)
  | closed (serial : ℕ)
  | refused (serial : ℕ) (error : ErrorCode)
  | dispatched (serial : ℕ) (request : ParsedRequest) (answer : Answer)
  | done
  deriving DecidableEq, Repr

/-- The checks of `DispatchTypedRequest`. Without an error it calls `DispatchBackend`. -/
def dispatchTypedRequest (request : ParsedRequest) (ready : Bool) : ErrorCode :=
  match request.spec with
  | none => .internalError
  | some spec =>
    if spec.backendRequired && !ready then .backendUnavailable
    else if spec.featureMask = 0 || kImplementedFeatureMask &&& spec.featureMask ≠ spec.featureMask then
      .unsupportedFeature
    else .none

def finish (kind : ResultKind) (reply : Reply) : Answer :=
  if kind = .void then { error := reply.error }
  else if reply.ok && reply.kind = kind then
    if kind = .integer then { integer := reply.integer } else { real := reply.real }
  else if reply.ok then { error := .backendContractViolation }
  else { error := reply.error }

/-- The result of a command has a kind and its arguments are complete. -/
def answers (t : TypedTransaction) (kind : ResultKind) : Bool :=
  match findTypedCommand t.opcode with
  | none => false
  | some binding => binding.result = kind && t.isComplete

namespace State

/-- `TryTypedSaveInteger`, the begin of a command. -/
def beginCommand (parentKey value : Int32) (s : State) : Output × State :=
  match findTypedCommand value with
  | none => (.consumed .unknownCommand, s)
  | some binding =>
    match findCommand binding.command with
    | none => (.consumed .internalError, s)
    | some command =>
      if 's' ∈ command.types then (.consumed .internalError, s)
      else if (s.transactions.lookup parentKey).isNone &&
          kMaximumTypedTransactions ≤ s.transactions.keys.length then
        (.consumed .backendRejected, s)
      else
        (.began s.begun,
          { s with
            transactions := s.transactions.insert parentKey (.opened s.begun value command)
            begun := s.begun + 1 })

/-- A commit or a query: the transaction is erased, and dispatched if it is valid. -/
def close (parentKey : Int32) (t : TypedTransaction) (valid : Bool) (kind : ResultKind) (s : State) :
    Output × State :=
  let erased := { s with transactions := s.transactions.erase parentKey }
  if valid then
    (.closed t.serial, { erased with taken := s.taken ++ [{ serial := t.serial, kind, request := t.request }] })
  else (.consumed .invalidArgumentType, erased)

def write (parentKey : Int32) (t : TypedTransaction) (w : Write) (s : State) : Output × State :=
  (.wrote t.serial w, { s with transactions := s.transactions.insert parentKey (t.put w) })

def slot? (childKey : Int32) : Option ℕ :=
  if 0 ≤ childKey && childKey < 16 then some childKey.toInt.toNat else none

/-- `TryTypedSaveInteger`. -/
def trySaveInteger (table : UInt32) (parentKey childKey value : Int32) (s : State) : Output × State :=
  if parentKey = kTypedRegisterParent && childKey = kTypedRegisterChildA &&
      value = kTypedRegisterCookieA then
    (.forwarded, { s with pendingTable := table, registerASeen := table ≠ 0 })
  else if parentKey = kTypedRegisterParent && childKey = kTypedRegisterChildB &&
      value = kTypedRegisterCookieB then
    let s :=
      if table ≠ 0 && s.registerASeen && table = s.pendingTable then
        { s with activeTable := table, transactions := ∅ }
      else s
    (.forwarded, { s with pendingTable := 0, registerASeen := false })
  else if table = 0 || table ≠ s.activeTable then (.forwarded, s)
  else if childKey = kTypedBeginChild then s.beginCommand parentKey value
  else
    match s.transactions.lookup parentKey with
    | none => (.forwarded, s)
    | some t =>
      if childKey = kTypedCommitChild then
        s.close parentKey t (value = t.opcode && answers t .void) .void
      else
        match slot? childKey with
        | some slot => s.write parentKey t ⟨slot, .integer value⟩
        | none => (.forwarded, s)

/-- `TryTypedSaveReal`. -/
def trySaveReal (table : UInt32) (parentKey childKey : Int32) (value : UInt32) (s : State) :
    Output × State :=
  if table = 0 || table ≠ s.activeTable then (.forwarded, s)
  else
    match s.transactions.lookup parentKey with
    | none => (.forwarded, s)
    | some t =>
      match slot? childKey with
      | some slot => s.write parentKey t ⟨slot, .real value⟩
      | none => (.forwarded, s)

/-- `TryTypedLoadInteger`. -/
def tryLoadInteger (table : UInt32) (parentKey childKey : Int32) (s : State) : Output × State :=
  if table = 0 || table ≠ s.activeTable then (.forwarded, s)
  else if parentKey = kTypedRegisterParent && childKey = kTypedProbeChild then
    (.acknowledged kTypedProbeAck, s)
  else if childKey ≠ kTypedQueryIntegerChild then (.forwarded, s)
  else
    match s.transactions.lookup parentKey with
    | none => (.forwarded, s)
    | some t => s.close parentKey t (answers t .integer) .integer

/-- `TryTypedLoadReal`. -/
def tryLoadReal (table : UInt32) (parentKey childKey : Int32) (s : State) : Output × State :=
  if table = 0 || table ≠ s.activeTable || childKey ≠ kTypedQueryRealChild then (.forwarded, s)
  else
    match s.transactions.lookup parentKey with
    | none => (.forwarded, s)
    | some t => s.close parentKey t (answers t .real) .real

/-- `ResetTypedTransport`. -/
def resetTypedTransport (s : State) : State :=
  { s with pendingTable := 0, activeTable := 0, registerASeen := false, transactions := ∅ }

/-- The end of a call that took out a command: `DispatchTypedRequest`. -/
def dispatch (n : ℕ) (ready : Bool) (reply : Reply) (s : State) : Output × State :=
  match s.taken[n]? with
  | none => (.done, s)
  | some e =>
    if e.finished then (.done, s)
    else
      let s' := { s with taken := s.taken.set n { e with finished := true } }
      match dispatchTypedRequest e.request ready with
      | .none => (.dispatched e.serial e.request (finish e.kind reply), s')
      | error => (.refused e.serial error, s')

def step (call : Call) (s : State) : Output × State :=
  match call with
  | .saveInteger table parentKey childKey value => s.trySaveInteger table parentKey childKey value
  | .saveReal table parentKey childKey value => s.trySaveReal table parentKey childKey value
  | .loadInteger table parentKey childKey => s.tryLoadInteger table parentKey childKey
  | .loadReal table parentKey childKey => s.tryLoadReal table parentKey childKey
  | .reset => (.done, s.resetTypedTransport)
  | .dispatch n ready reply => s.dispatch n ready reply

end State

end War3VK.Japi.TypedTransport
