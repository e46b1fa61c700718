import War3VK.Lib.Bytes
import War3VK.RenderHost.SlotLedger

/-!
# The echo protocol

The packets of the render host's first protocol and the session that answers them
(`src/tools/render_host/protocol.cpp`). A packet is a 96-byte header and up to 65536 bytes of payload.
A session greets, then runs through epochs of samples that it echoes, and closes; the first packet that
it does not expect is its last.
-/

namespace War3VK.RenderHost.Protocol

open Lib

/-! ## Packets -/

/-- `HeaderBytes`. -/
def headerBytes : ℕ := 96

/-- `MaxPayloadBytes`. -/
def maxPayloadBytes : ℕ := 65536

/-- `CpuEcho`. -/
def cpuEcho : UInt64 := 1

/-- `enum class Op : uint16_t`. A value of the type can hold any 16-bit pattern. -/
structure Op where
  raw : UInt16
deriving DecidableEq, Repr

/-- `Op::Hello`. -/
def Op.hello : Op := ⟨1⟩

/-- `Op::BeginEpoch`. -/
def Op.beginEpoch : Op := ⟨2⟩

/-- `Op::SampleEcho`. -/
def Op.sampleEcho : Op := ⟨3⟩

/-- `Op::EndEpoch`. -/
def Op.endEpoch : Op := ⟨4⟩

/-- `Op::Close`. -/
def Op.close : Op := ⟨5⟩

/-- `enum class Error`. -/
inductive Error where
  | none | nullBuffer | shortHeader | magic | version | headerSize | opcode | flags | reserved
  | payloadLimit | packetSize | emptyNonce | session | sequence | sequenceExhausted
  | resourceUnsupported | state | scope | payload | bits | capabilities | frame | terminal
deriving DecidableEq, Repr

/-- `struct Header`. -/
structure Header where
  op : Op := .hello
  /-- `0` in a request, `1` in a reply. -/
  flags : UInt32 := 0
  payloadBytes : UInt32 := 0
  nonce : Nonce := {}
  sequence : UInt64 := 1
  mapEpoch : UInt64 := 0
  deviceEpoch : UInt64 := 0
  resourceId : UInt64 := 0
  resourceGeneration : UInt64 := 0
  frameId : UInt64 := 0
deriving DecidableEq, Repr

/-- `MessageView`. -/
structure MessageView where
  header : Header := {}
  payload : Option Bytes := none
deriving DecidableEq, Repr

/-- A packet's first four bytes, `"WVK0"`. -/
def wireMagic : Bytes := [0x57, 0x56, 0x4b, 0x30]

/-- The bytes of a header whose payload has `count` bytes. -/
def headerImage (h : Header) (count : ℕ) : Bytes :=
  wireMagic                                                           -- + 0
    ++ putLe (0 : UInt16) ++ putLe (1 : UInt16)                       -- + 4, + 6
    ++ putLe (UInt16.ofNat headerBytes) ++ putLe h.op.raw             -- + 8, + 10
    ++ putLe h.flags ++ putLe (UInt32.ofNat count)                    -- + 12, + 16
    ++ putLe (0 : UInt32)                                             -- + 20
    ++ putLe h.nonce.low ++ putLe h.nonce.high ++ putLe h.sequence    -- + 24, + 32, + 40
    ++ putLe h.mapEpoch ++ putLe h.deviceEpoch                        -- + 48, + 56
    ++ putLe h.resourceId ++ putLe h.resourceGeneration               -- + 64, + 72
    ++ putLe h.frameId ++ putLe (0 : UInt32) ++ putLe (0 : UInt32)    -- + 80, + 88, + 92

def readHeader (src : Bytes) : Header where
  op := ⟨getLe UInt16 10 src⟩
  flags := getLe UInt32 12 src
  payloadBytes := getLe UInt32 16 src
  nonce := ⟨getLe UInt64 24 src, getLe UInt64 32 src⟩
  sequence := getLe UInt64 40 src
  mapEpoch := getLe UInt64 48 src
  deviceEpoch := getLe UInt64 56 src
  resourceId := getLe UInt64 64 src
  resourceGeneration := getLe UInt64 72 src
  frameId := getLe UInt64 80 src

/-- The tests of `DecodeHeader` on bytes that are there, in their order. -/
def headerError (src : Bytes) : Error :=
  firstError .none [
    (src.length < headerBytes, .shortHeader),
    (slice 0 4 src ≠ wireMagic, .magic),
    (getLe UInt16 4 src ≠ 0 ∨ getLe UInt16 6 src ≠ 1, .version),
    ((getLe UInt16 8 src).toNat ≠ headerBytes, .headerSize),
    (getLe UInt16 10 src < Op.hello.raw ∨ getLe UInt16 10 src > Op.close.raw, .opcode),
    (getLe UInt32 12 src > 1, .flags),
    (getLe UInt32 20 src ≠ 0 ∨ getLe UInt32 88 src ≠ 0 ∨ getLe UInt32 92 src ≠ 0, .reserved),
    ((getLe UInt32 16 src).toNat > maxPayloadBytes, .payloadLimit),
    ((readHeader src).nonce.empty, .emptyNonce)]

/-- `DecodeHeader`: the error, and the header at `out` after the call. -/
def decodeHeader (data : Option Bytes) : Error × Header :=
  match data with
  | none => (.nullBuffer, {})
  | some src => if headerError src = .none then (.none, readHeader src) else (headerError src, {})

/-- `Decode`: the error, and the view at `out` after the call. -/
def decode (data : Option Bytes) : Error × MessageView :=
  match decodeHeader data with
  | (.none, header) =>
    let src := data.getD []
    if src.length - headerBytes ≠ header.payloadBytes.toNat then (.packetSize, {})
    else (.none, ⟨header, some (src.drop headerBytes)⟩)
  | (e, _) => (e, {})

/-- What a call of `Encode` leaves behind. -/
structure EncodeResult where
  error : Error
  output : Option Bytes
  written : ℕ
deriving DecidableEq, Repr

/-- `Encode`: `payload` are the bytes at the pointer before the call, of which `count` are read, and
`output` is the buffer. -/
def encode (h : Header) (payload : Option Bytes) (count : ℕ) (output : Option Bytes) :
    EncodeResult :=
  match output with
  | none => ⟨.nullBuffer, none, 0⟩
  | some dst =>
    if count ≠ 0 ∧ payload = none then ⟨.nullBuffer, some dst, 0⟩
    else if count > maxPayloadBytes then ⟨.payloadLimit, some dst, 0⟩
    else if h.payloadBytes.toNat ≠ count ∨ dst.length < headerBytes ∨
        dst.length - headerBytes < count then ⟨.packetSize, some dst, 0⟩
    else
      let bytes := headerImage h count
      if (decodeHeader (some bytes)).1 ≠ .none then ⟨(decodeHeader (some bytes)).1, some dst, 0⟩
      else
        let packet := bytes ++ (payload.getD []).take count
        ⟨.none, some (packet ++ dst.drop (headerBytes + count)), headerBytes + count⟩

/-! ## Sessions -/

/-- `EncodeHello`. -/
def encodeHello (senderBits expectedPeerBits : UInt32) (requiredCaps supportedCaps : UInt64) : Bytes :=
  putLe senderBits ++ putLe expectedPeerBits ++ putLe requiredCaps ++ putLe supportedCaps

/-- `struct Reply`. -/
structure Reply where
  header : Header := {}
  hello : Bytes := List.replicate 24 0
  echo : Option Bytes := none
deriving DecidableEq, Repr

/-- `enum class State`. -/
inductive State where
  | awaitHello | ready | active | closing | closed | fault
deriving DecidableEq, Repr

/-- `class ServerSession`. -/
structure ServerSession where
  nonce : Nonce
  localBits : UInt32
  peerBits : UInt32
  state : State := .awaitHello
  next : UInt64 := 1
  accepted : UInt64 := 0
  map : UInt64 := 0
  device : UInt64 := 0
  frame : UInt64 := 0
deriving DecidableEq, Repr

namespace ServerSession

def new (nonce : Nonce) (localBits peerBits : UInt32) : ServerSession :=
  { nonce, localBits, peerBits
    state := if nonce.empty ∨ (localBits ≠ 32 ∧ localBits ≠ 64) ∨ (peerBits ≠ 32 ∧ peerBits ≠ 64)
      then .fault else .awaitHello }

variable (s : ServerSession)

/-- `reject`. -/
def reject : ServerSession := { s with state := .fault }

def helloError (h : Header) (payload : Bytes) : Error :=
  firstError .none [
    (s.state ≠ .awaitHello, .state),
    (h.mapEpoch ≠ 0 ∨ h.deviceEpoch ≠ 0 ∨ h.frameId ≠ 0, .scope),
    (h.payloadBytes ≠ 24, .payload),
    (getLe UInt32 0 payload ≠ s.peerBits ∨ getLe UInt32 4 payload ≠ s.localBits, .bits),
    (getLe UInt64 8 payload ≠ cpuEcho ∨ getLe UInt64 16 payload ≠ cpuEcho, .capabilities)]

def beginEpochError (h : Header) : Error :=
  firstError .none [
    (s.state ≠ .ready, .state),
    (h.payloadBytes ≠ 0, .payload),
    (h.mapEpoch = 0 ∨ h.deviceEpoch = 0 ∨ h.frameId ≠ 0 ∨ h.mapEpoch < s.map ∨
      h.deviceEpoch < s.device ∨ (h.mapEpoch = s.map ∧ h.deviceEpoch = s.device), .scope)]

def sampleEchoError (h : Header) : Error :=
  firstError .none [
    (s.state ≠ .active, .state),
    (h.mapEpoch ≠ s.map ∨ h.deviceEpoch ≠ s.device, .scope),
    (s.frame = UInt64.ofNat (2^64 - 1) ∨ h.frameId ≠ s.frame + 1, .frame)]

def endEpochError (h : Header) : Error :=
  firstError .none [
    (s.state ≠ .active, .state),
    (h.mapEpoch ≠ s.map ∨ h.deviceEpoch ≠ s.device, .scope),
    (h.frameId ≠ 0, .frame),
    (h.payloadBytes ≠ 0, .payload)]

def closeError (h : Header) : Error :=
  firstError .none [
    (s.state ≠ .ready, .state),
    (h.payloadBytes ≠ 0, .payload),
    (h.mapEpoch ≠ 0 ∨ h.deviceEpoch ≠ 0 ∨ h.frameId ≠ 0, .scope)]

/-- The tests of the `switch`; no other opcode passes the decoder. -/
def opError (h : Header) (payload : Bytes) : Error :=
  if h.op = .hello then s.helloError h payload
  else if h.op = .beginEpoch then s.beginEpochError h
  else if h.op = .sampleEcho then s.sampleEchoError h
  else if h.op = .endEpoch then s.endEpochError h
  else if h.op = .close then s.closeError h
  else .none

/-- The tests of `receive` on a packet that was decoded, in their order. -/
def packetError (v : MessageView) : Error :=
  firstError .none [
    (v.header.flags ≠ 0, .flags),
    (v.header.nonce ≠ s.nonce, .session),
    (v.header.sequence = UInt64.ofNat (2^64 - 1), .sequenceExhausted),
    (v.header.sequence ≠ s.next, .sequence),
    (v.header.resourceId ≠ 0 ∨ v.header.resourceGeneration ≠ 0, .resourceUnsupported),
    (s.opError v.header (v.payload.getD []) ≠ .none, s.opError v.header (v.payload.getD []))]

/-- What the `switch` leaves of the scope and the state. -/
def switched (h : Header) : ServerSession :=
  if h.op = .hello then { s with state := .ready }
  else if h.op = .beginEpoch then
    { s with map := h.mapEpoch, device := h.deviceEpoch, frame := 0, state := .active }
  else if h.op = .sampleEcho then { s with frame := h.frameId }
  else if h.op = .endEpoch then { s with state := .ready }
  else if h.op = .close then { s with state := .closing }
  else s

def commit (h : Header) : ServerSession :=
  { s.switched h with next := s.next + 1, accepted := s.accepted + 1 }

def replyTo (v : MessageView) : Reply where
  header := { v.header with flags := 1 }
  hello := if v.header.op = .hello then encodeHello s.localBits s.peerBits cpuEcho cpuEcho
    else List.replicate 24 0
  echo := if v.header.op = .sampleEcho then v.payload else none

/-- `receive`: the error, the reply after the call, and the session. -/
def receive (data : Option Bytes) : Error × Reply × ServerSession :=
  if s.state = .closed ∨ s.state = .fault then (.terminal, {}, s)
  else if s.state = .closing then (.state, {}, s.reject)
  else match decode data with
    | (.none, v) =>
      if s.packetError v ≠ .none then (s.packetError v, {}, s.reject)
      else (.none, s.replyTo v, s.commit v.header)
    | (e, _) => (e, {}, s.reject)

/-- `closeReplySent`. -/
def closeReplySent (sequence : UInt64) : Error × ServerSession :=
  if s.state = .closed ∨ s.state = .fault then (.terminal, s)
  else if s.state ≠ .closing then (.state, s.reject)
  else if sequence ≠ s.next - 1 then (.sequence, s.reject)
  else (.none, { s with state := .closed })

/-- `transportFailed`. -/
def transportFailed : ServerSession := if s.state ≠ .closed then { s with state := .fault } else s

inductive Call where
  | receive (data : Option Bytes)
  | closeReplySent (sequence : UInt64)
  | transportFailed
deriving DecidableEq

inductive Output where
  | received (error : Error) (reply : Reply)
  | closeReplySent (error : Error)
  | transportFailed
deriving DecidableEq

def step (call : Call) (s : ServerSession) : Output × ServerSession :=
  match call with
  | .receive data =>
    let (e, reply, s) := s.receive data
    (.received e reply, s)
  | .closeReplySent sequence =>
    let (e, s) := s.closeReplySent sequence
    (.closeReplySent e, s)
  | .transportFailed => (.transportFailed, s.transportFailed)

end ServerSession

end War3VK.RenderHost.Protocol
