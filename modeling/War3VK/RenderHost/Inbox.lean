import Mathlib.Data.Finset.Image
import Mathlib.Data.Finset.Range
import Mathlib.Logic.Function.Basic
import War3VK.RenderHost.SlotLedger
import War3VK.Lib.Bytes

/-!
# The producer inbox

The queue of four samples between one producer and one consumer
(`src/tools/render_host/producer_inbox.h`). Every `Action` is the next access of one thread to memory
that both use, with the private work that follows it; samples are copied into a slot and out of it
part by part, in any order. The limit of attempts keeps all counters far from the end of their 32
bits, so they are natural numbers.
-/

namespace War3VK.RenderHost.Inbox

open Lib

/-- `Capacity`. -/
def capacity : ℕ := 4

/-- `MaxBytes`. -/
def maxBytes : ℕ := 65536

/-- `struct Scope`. -/
structure Scope where
  connection : Nonce := {}
  map : UInt64 := 0
  device : UInt64 := 0
deriving DecidableEq, Repr

/-- `valid`. -/
def Scope.valid (s : Scope) : Bool := !s.connection.empty ∧ s.map ≠ 0 ∧ s.device ≠ 0

/-- `struct Slot`. -/
structure Slot where
  frame : UInt64 := 0
  ordinal : ℕ := 0
  bytes : ℕ := 0
  payload : ℕ → UInt8 := fun _ => 0

/-- `struct Sample`. -/
structure Sample extends Slot where
  scope : Scope := {}

def Slot.data (s : Slot) : List UInt8 := (List.range s.bytes).map s.payload

inductive Part where
  | frame
  | ordinal
  | bytes
  | byte (i : ℕ)
deriving DecidableEq

def parts (bytes : ℕ) : Finset Part :=
  {.frame, .ordinal, .bytes} ∪ (Finset.range bytes).image .byte

def Slot.copy (source target : Slot) : Part → Slot
  | .frame => { target with frame := source.frame }
  | .ordinal => { target with ordinal := source.ordinal }
  | .bytes => { target with bytes := source.bytes }
  | .byte i => { target with payload := Function.update target.payload i (source.payload i) }

/-- `enum class Push`. -/
inductive Push where
  | published | full | invalid | stopped | closed | exhausted | unconfigured
deriving DecidableEq, Repr

/-- `struct Result`. -/
structure Result where
  outcome : Push
  ordinal : ℕ
deriving DecidableEq, Repr

/-- The result of `tryPop`, with the sample that it wrote to its output. -/
inductive Pop where
  | item (sample : Sample)
  | empty
  | finished

/-- `struct Limits`. -/
structure Limits where
  attempts : ℕ := 2^32 - 1
  sampleBytes : ℕ := maxBytes
deriving DecidableEq, Repr

structure Config where
  scope : Scope
  limits : Limits

/-- The arguments of `tryPush`; a source is `none` when it is null. -/
structure PushCall where
  frame : UInt64 := 0
  source : Option (ℕ → UInt8) := none
  bytes : ℕ := 0

/-- What a call of `tryPush` does next. -/
inductive PushPoint where
  | idle
  /-- `m_closed.load()`. -/
  | loadClosed
  /-- `m_stop.load()`. -/
  | loadStop
  /-- `requestStop()`, after the last attempt. -/
  | storeStop
  /-- `m_read.load()`. -/
  | loadRead (ordinal : ℕ)
  /-- The copy into the slot, of which some parts are done, and then `m_written.store()`. -/
  | write (ordinal : ℕ) (done : Finset Part)

/-- What a call of `tryPop` does next. -/
inductive PopPoint where
  /-- `m_written.load()`, the start of a call. -/
  | idle
  /-- `m_closed.load()`. -/
  | loadClosed (output : Sample)
  /-- `m_written.load()`, after the queue was found closed. -/
  | reload (output : Sample)
  /-- The copy out of the slot, of which some parts are done, and then `m_read.store()`. -/
  | copy (done : Finset Part) (output : Sample)

structure State where
  /-- `m_slots`. -/
  slot : ℕ → Slot := fun _ => {}
  written : ℕ := 0
  read : ℕ := 0
  stop : Bool := false
  closed : Bool := false
  lastFrame : UInt64 := 0
  attempted : ℕ := 0
  published : ℕ := 0
  full : ℕ := 0
  invalid : ℕ := 0
  exhausted : Bool := false
  producer : PushPoint := .idle
  call : PushCall := {}
  consumer : PopPoint := .idle

inductive Action where
  /-- The producer, when it is in no call, calls `tryPush`. -/
  | enter (call : PushCall)
  /-- Its next step; `part` is the part that is copied. -/
  | push (part : Part)
  /-- The next step of the consumer; `output` is what it calls `tryPop` with. -/
  | pop (part : Part) (output : Sample)
  | requestStop
  /-- `closeProducer`, when the producer is in no call. -/
  | closeProducer

inductive Output where
  | running
  /-- A call of `tryPush` returns. -/
  | pushed (call : PushCall) (result : Result)
  /-- A call of `tryPop` returns. -/
  | popped (result : Pop)

def State.source (s : State) (ordinal : ℕ) : Slot where
  frame := s.call.frame
  ordinal := ordinal
  bytes := s.call.bytes
  payload := s.call.source.getD fun _ => 0

/-- Whether `tryPush` is called with a sample that cannot be taken. -/
def State.refuses (s : State) (limits : Limits) : Bool :=
  s.call.frame = 0 ∨ s.call.frame < s.lastFrame ∨ s.call.source.isNone ∨ s.call.bytes = 0 ∨
    s.call.bytes > limits.sampleBytes

def State.returns (s : State) (outcome : Push) (ordinal : ℕ) : Output × State :=
  (.pushed s.call ⟨outcome, ordinal⟩, { s with producer := .idle })

/-- The next step of `tryPush`. -/
def pushStep (cfg : Config) (part : Part) (s : State) : Output × State :=
  match s.producer with
  | .idle => (.running, s)
  | .loadClosed =>
    if s.closed then s.returns .closed 0
    else if s.exhausted then s.returns .exhausted 0
    else (.running, { s with producer := .loadStop })
  | .loadStop =>
    if s.stop then s.returns .stopped 0
    else if s.attempted = cfg.limits.attempts then
      (.running, { s with exhausted := true, producer := .storeStop })
    else
      let ordinal := s.attempted + 1
      if s.refuses cfg.limits then
        { s with attempted := ordinal, invalid := s.invalid + 1 }.returns .invalid ordinal
      else
        (.running, { s with
          attempted := ordinal, lastFrame := s.call.frame, producer := .loadRead ordinal })
  | .storeStop => { s with stop := true }.returns .exhausted 0
  | .loadRead ordinal =>
    if s.written - s.read = capacity then { s with full := s.full + 1 }.returns .full ordinal
    else (.running, { s with producer := .write ordinal ∅ })
  | .write ordinal done =>
    let i := s.written % capacity
    if done = parts s.call.bytes then
      { s with written := s.written + 1, published := s.published + 1 }.returns .published ordinal
    else if part ∈ parts s.call.bytes then
      (.running, { s with
        slot := Function.update s.slot i ((s.source ordinal).copy (s.slot i) part)
        producer := .write ordinal (insert part done) })
    else (.running, s)

/-- The next step of `tryPop`. -/
def popStep (cfg : Config) (part : Part) (output : Sample) (s : State) : Output × State :=
  let slot := s.slot (s.read % capacity)
  match s.consumer with
  | .idle =>
    (.running, { s with
      consumer := if s.read = s.written then .loadClosed output else .copy ∅ output })
  | .loadClosed output =>
    if !s.closed then (.popped .empty, { s with consumer := .idle })
    else (.running, { s with consumer := .reload output })
  | .reload output =>
    if s.read = s.written then (.popped .finished, { s with consumer := .idle })
    else (.running, { s with consumer := .copy ∅ output })
  | .copy done output =>
    if done = parts slot.bytes then
      (.popped (.item { output with scope := cfg.scope }),
        { s with read := s.read + 1, consumer := .idle })
    else if part ∈ parts slot.bytes then
      let output := { output with toSlot := slot.copy output.toSlot part }
      (.running, { s with consumer := .copy (insert part done) output })
    else (.running, s)

def step (cfg : Config) (action : Action) (s : State) : Output × State :=
  match action with
  | .enter call =>
    match s.producer with
    | .idle =>
      if !cfg.scope.valid ∨ cfg.limits.sampleBytes = 0 ∨ cfg.limits.sampleBytes > maxBytes then
        (.pushed call ⟨.unconfigured, 0⟩, s)
      else (.running, { s with call, producer := .loadClosed })
    | _ => (.running, s)
  | .push part => pushStep cfg part s
  | .pop part output => popStep cfg part output s
  | .requestStop => (.running, { s with stop := true })
  | .closeProducer =>
    match s.producer with
    | .idle => (.running, { s with closed := true })
    | _ => (.running, s)

end War3VK.RenderHost.Inbox

/-!
## The sample envelope

The wrapping of samples for the slots (`src/tools/render_host/sample_envelope.cpp`): an 80-byte header
and the payload. `encode` takes pointers, so the model gives it the addresses of its arguments
(`Placement`); its overlap test is part of what it does. A `Validator` accepts the envelopes of one
scope in the order of their transfers, and nothing after its first fault.
-/

namespace War3VK.RenderHost.Envelope

open Lib Slots Inbox

/-- `HeaderBytes`. -/
def headerBytes : ℕ := 80

/-- `MaxPayloadBytes`. -/
def maxPayloadBytes : ℕ := slotBytes.toNat - headerBytes

/-- `InboxLimits`. -/
def inboxLimits : Inbox.Limits := ⟨2^32 - 1, maxPayloadBytes⟩

/-- `enum class Error`. -/
inductive Error where
  | none | nullBuffer | size | capacity | overlap | magic | version | header | flags | scope
  | sourceFrame | attempt | transfer | lease | order | exhausted | terminal
deriving DecidableEq, Repr

structure Header where
  scope : Scope := {}
  sourceFrame : UInt64 := 0
  /-- The number of the attempt that published the sample. -/
  attempt : UInt64 := 0
  transfer : UInt64 := 0
deriving DecidableEq, Repr

structure View where
  header : Header := {}
  data : Option Bytes := none
  bytes : UInt32 := 0
deriving DecidableEq, Repr

/-- `Check`. -/
def check (h : Header) : Error :=
  firstError .none [
    (!h.scope.valid, .scope),
    (h.sourceFrame = 0, .sourceFrame),
    (h.attempt = 0 ∨ h.attempt > UInt64.ofNat (2^32 - 1), .attempt),
    (h.transfer = 0, .transfer)]

/-- `Overlap`: whether two byte ranges meet, given by their addresses and sizes. A range that reaches
the end of the address space counts as meeting every other. -/
def overlap (uintptrMax a an b bn : ℕ) : Bool :=
  if an > uintptrMax - a ∨ bn > uintptrMax - b then true else a < b + bn ∧ b < a + an

/-- Where the buffers of `encode` stand; address `0` is the null pointer. -/
structure Placement where
  uintptrMax : ℕ
  payload : ℕ
  out : ℕ

/-- An envelope's first four bytes, `"WVP1"`. -/
def envelopeMagic : Bytes := [0x57, 0x56, 0x50, 0x31]

/-- The bytes of a header whose payload has `count` bytes. -/
def headerImage (h : Header) (count : ℕ) : Bytes :=
  envelopeMagic                                                       -- + 0
    ++ putLe (1 : UInt16) ++ putLe (0 : UInt16)                       -- + 4, + 6
    ++ putLe (UInt32.ofNat headerBytes) ++ putLe (0 : UInt32)         -- + 8, + 12
    ++ putLe (UInt32.ofNat (headerBytes + count))                     -- + 16
    ++ putLe (UInt32.ofNat count)                                     -- + 20
    ++ putLe h.scope.connection.low ++ putLe h.scope.connection.high  -- + 24, + 32
    ++ putLe h.scope.map ++ putLe h.scope.device                      -- + 40, + 48
    ++ putLe h.sourceFrame ++ putLe h.attempt ++ putLe h.transfer     -- + 56, + 64, + 72

/-- What a call of `Encode` leaves behind. -/
structure EncodeResult where
  error : Error
  out : Bytes
  written : ℕ
deriving DecidableEq, Repr

/-- The tests of `Encode`, in their order. -/
def encodeError (pl : Placement) (h : Header) (payload out : Bytes) : Error :=
  firstError .none [
    (pl.payload = 0 ∨ pl.out = 0, .nullBuffer),
    (payload.length = 0 ∨ payload.length > maxPayloadBytes, .size),
    (out.length < headerBytes + payload.length, .capacity),
    (check h ≠ .none, check h),
    (overlap pl.uintptrMax pl.payload payload.length pl.out (headerBytes + payload.length),
      .overlap)]

/-- `Encode`: `payload` are the bytes at the pointer, and `out` the buffer before the call. -/
def encode (pl : Placement) (h : Header) (payload out : Bytes) : EncodeResult :=
  if encodeError pl h payload out ≠ .none then ⟨encodeError pl h payload out, out, 0⟩
  else
    let count := headerBytes + payload.length
    ⟨.none, headerImage h payload.length ++ payload ++ out.drop count, count⟩

def readHeader (src : Bytes) : Header where
  scope := ⟨⟨getLe UInt64 24 src, getLe UInt64 32 src⟩, getLe UInt64 40 src, getLe UInt64 48 src⟩
  sourceFrame := getLe UInt64 56 src
  attempt := getLe UInt64 64 src
  transfer := getLe UInt64 72 src

/-- The tests of `Decode` on bytes that are there, in their order. -/
def decodeError (src : Bytes) : Error :=
  let bytes := (getLe UInt32 20 src).toNat
  firstError .none [
    (src.length < headerBytes ∨ src.length > slotBytes.toNat, .size),
    (slice 0 4 src ≠ envelopeMagic, .magic),
    (getLe UInt16 4 src ≠ 1 ∨ getLe UInt16 6 src ≠ 0, .version),
    ((getLe UInt32 8 src).toNat ≠ headerBytes, .header),
    (getLe UInt32 12 src ≠ 0, .flags),
    (bytes = 0 ∨ bytes > maxPayloadBytes ∨ (getLe UInt32 16 src).toNat ≠ src.length ∨
      headerBytes + bytes ≠ src.length, .size),
    (check (readHeader src) ≠ .none, check (readHeader src))]

/-- `Decode`: the error, and the view at `output` after the call. -/
def decode (input : Option Bytes) : Error × View :=
  match input with
  | none => (.nullBuffer, {})
  | some src =>
    if decodeError src ≠ .none then (decodeError src, {})
    else (.none, ⟨readHeader src, some (src.drop headerBytes), getLe UInt32 20 src⟩)

/-! ### The validator -/

/-- `struct Limits`. -/
structure Limits where
  transfer : UInt64 := UInt64.ofNat (2^64 - 1)
  attempt : UInt32 := UInt32.ofNat (2^32 - 1)
deriving DecidableEq, Repr

/-- `struct Progress`. -/
structure Progress where
  sourceFrame : UInt64 := 0
  attempt : UInt64 := 0
  transfer : UInt64 := 0
  fault : Error := .none
deriving DecidableEq, Repr

/-- `class Validator`. -/
structure Validator where
  scope : Scope
  limits : Limits
  progress : Progress
deriving DecidableEq, Repr

def Validator.new (scope : Scope) (limits : Limits) : Validator where
  scope := scope
  limits := limits
  progress :=
    { fault := if !scope.valid then .scope
        else if limits.transfer = 0 ∨ limits.attempt = 0 then .exhausted else .none }

/-- The tests of `accept` on an envelope that was decoded, in their order. -/
def acceptError (v : Validator) (key : Key) (count : ℕ) (h : Header) : Error :=
  firstError .none [
    (h.scope ≠ v.scope ∨ key.connection ≠ v.scope.connection ∨ key.map ≠ v.scope.map ∨
      key.device ≠ v.scope.device, .scope),
    (key.generation = 0 ∨ key.slot.toNat ≥ slotCount ∨ key.bytes.toNat ≠ count ∨
      key.frame ≠ h.transfer, .lease),
    (v.progress.transfer ≥ v.limits.transfer ∨ h.attempt > v.limits.attempt.toUInt64, .exhausted),
    (h.transfer ≠ v.progress.transfer + 1 ∨ h.attempt ≤ v.progress.attempt ∨
      h.sourceFrame < v.progress.sourceFrame, .order)]

/-- `fail`. -/
def Validator.fail (v : Validator) (e : Error) : Validator :=
  { v with progress := { v.progress with fault := e } }

/-- `accept`: the error, the view at `output` after the call, and the validator. -/
def accept (key : Key) (input : Option Bytes) (v : Validator) : Error × View × Validator :=
  if v.progress.fault ≠ .none then (.terminal, {}, v)
  else match decode input with
    | (.none, view) =>
      let e := acceptError v key (input.getD []).length view.header
      if e ≠ .none then (e, {}, v.fail e)
      else
        (.none, view, { v with progress :=
          ⟨view.header.sourceFrame, view.header.attempt, view.header.transfer, .none⟩ })
    | (e, _) => (e, {}, v.fail e)

end War3VK.RenderHost.Envelope
