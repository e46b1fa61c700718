import War3VK.Lib.Bytes
import War3VK.RenderHost.SlotLedger

/-!
# The slot wire

The names of leases on the wire (`EncodeKey` and `DecodeKey` of
`src/tools/render_host/slot_ledger.cpp`) and the packets of the slot protocol
(`src/tools/render_host/slot_wire.cpp`): a 48-byte header and up to 128 bytes of payload. A pointer
is `none` when it is null; an output buffer is its bytes before and after the call.
-/

namespace War3VK.RenderHost.Slots

open Lib

/-! ## Keys -/

/-- `ErrorName`. -/
def errorName : Error → String
  | .none => "None"
  | .phase => "Phase"
  | .epoch => "Epoch"
  | .slot => "Slot"
  | .size => "Size"
  | .frame => "Frame"
  | .frameExhausted => "FrameExhausted"
  | .capacity => "Capacity"
  | .generationExhausted => "GenerationExhausted"
  | .lease => "Lease"
  | .slotState => "SlotState"
  | .permit => "Permit"
  | .outputBusy => "OutputBusy"
  | .outputUsed => "OutputUsed"
  | .nullBuffer => "NullBuffer"
  | .descriptorSize => "DescriptorSize"
  | .magic => "Magic"
  | .version => "Version"

/-- `DescriptorBytes`. -/
def descriptorBytes : ℕ := 64

/-- A key's first four bytes, `"WVL1"`. -/
def keyMagic : Bytes := [0x57, 0x56, 0x4c, 0x31]

/-- `Shape`. -/
def shape (key : Key) : Error :=
  if key.connection.empty ∨ key.map = 0 ∨ key.device = 0 ∨ key.frame = 0 ∨ key.generation = 0 then
    .lease
  else if key.slot.toNat ≥ slotCount then .slot
  else if key.bytes = 0 ∨ key.bytes > slotBytes then .size
  else .none

def keyImage (key : Key) : Bytes :=
  keyMagic                                                            -- + 0
    ++ putLe (1 : UInt16) ++ putLe (UInt16.ofNat descriptorBytes)     -- + 4, + 6
    ++ putLe key.connection.low ++ putLe key.connection.high          -- + 8, + 16
    ++ putLe key.map ++ putLe key.device                              -- + 24, + 32
    ++ putLe key.frame ++ putLe key.generation                        -- + 40, + 48
    ++ putLe key.slot ++ putLe key.bytes                              -- + 56, + 60

/-- `EncodeKey`: the error, and the bytes at `output` after the call. -/
def encodeKey (key : Key) (output : Option Bytes) : Error × Option Bytes :=
  match output with
  | none => (.nullBuffer, none)
  | some dst =>
    if dst.length < descriptorBytes then (.descriptorSize, some dst)
    else if shape key ≠ .none then (shape key, some dst)
    else (.none, some (keyImage key ++ dst.drop descriptorBytes))

def parseKey (src : Bytes) : Key where
  connection := ⟨getLe UInt64 8 src, getLe UInt64 16 src⟩
  map := getLe UInt64 24 src
  device := getLe UInt64 32 src
  frame := getLe UInt64 40 src
  generation := getLe UInt64 48 src
  slot := getLe UInt32 56 src
  bytes := getLe UInt32 60 src

/-- The tests of `DecodeKey` on bytes that are there. -/
def decodeKeyError (src : Bytes) : Error :=
  if src.length ≠ descriptorBytes then .descriptorSize
  else if slice 0 4 src ≠ keyMagic then .magic
  else if getLe UInt16 4 src ≠ 1 ∨ (getLe UInt16 6 src).toNat ≠ descriptorBytes then .version
  else shape (parseKey src)

/-- `DecodeKey`: the error, and the key at `output` after the call. -/
def decodeKey (bytes : Option Bytes) : Error × Key :=
  match bytes with
  | none => (.nullBuffer, {})
  | some src => if decodeKeyError src = .none then (.none, parseKey src) else (decodeKeyError src, {})

end War3VK.RenderHost.Slots

namespace War3VK.RenderHost.SlotWire

open Lib Slots

/-! ## Packets -/

/-- `HeaderBytes`. -/
def headerBytes : ℕ := 48

/-- `MaxPayloadBytes`. -/
def maxPayloadBytes : ℕ := 128

/-- `MaxMessageBytes`. -/
def maxMessageBytes : ℕ := headerBytes + maxPayloadBytes

/-- `SharedCpuSlots`. -/
def sharedCpuSlots : UInt64 := 2

/-- `enum class Op : uint16_t`. A value of the type can hold any 16-bit pattern. -/
structure Op where
  raw : UInt16
deriving DecidableEq, Repr

/-- `Op::Hello`. -/
def Op.hello : Op := ⟨1⟩

/-- `Op::Begin`. -/
def Op.begin : Op := ⟨2⟩

/-- `Op::Reserve`. -/
def Op.reserve : Op := ⟨3⟩

/-- `Op::Publish`. -/
def Op.publish : Op := ⟨4⟩

/-- `Op::Cancel`. -/
def Op.cancel : Op := ⟨5⟩

/-- `Op::End`. -/
def Op.finish : Op := ⟨6⟩

/-- `Op::Close`. -/
def Op.close : Op := ⟨7⟩

/-- `Op::Retire`. -/
def Op.retire : Op := ⟨8⟩

/-- `enum class Error`. -/
inductive Error where
  | none | nullBuffer | headerSize | magic | version | opcode | flags | reserved | payloadLimit
  | packetSize | emptyNonce
deriving DecidableEq, Repr

/-- `ErrorName`. -/
def errorName : Error → String
  | .none => "None"
  | .nullBuffer => "NullBuffer"
  | .headerSize => "HeaderSize"
  | .magic => "Magic"
  | .version => "Version"
  | .opcode => "Opcode"
  | .flags => "Flags"
  | .reserved => "Reserved"
  | .payloadLimit => "PayloadLimit"
  | .packetSize => "PacketSize"
  | .emptyNonce => "EmptyNonce"

structure Header where
  op : Op := .hello
  /-- `0` in a request, `1` in a reply. -/
  flags : UInt32 := 0
  payloadBytes : UInt32 := 0
  nonce : Nonce := {}
  sequence : UInt64 := 1
deriving DecidableEq, Repr

structure View where
  header : Header := {}
  payload : Option Bytes := none
deriving DecidableEq, Repr

/-- A packet's first four bytes, `"WVS1"`. -/
def wireMagic : Bytes := [0x57, 0x56, 0x53, 0x31]

/-- The bytes of a header whose payload has `count` bytes. -/
def headerImage (h : Header) (count : ℕ) : Bytes :=
  wireMagic                                                           -- + 0
    ++ putLe (1 : UInt16) ++ putLe (0 : UInt16)                       -- + 4, + 6
    ++ putLe (UInt16.ofNat headerBytes) ++ putLe h.op.raw             -- + 8, + 10
    ++ putLe h.flags ++ putLe (UInt32.ofNat count)                    -- + 12, + 16
    ++ putLe (0 : UInt32)                                             -- + 20
    ++ putLe h.nonce.low ++ putLe h.nonce.high ++ putLe h.sequence    -- + 24, + 32, + 40

def readHeader (src : Bytes) : Header where
  op := ⟨getLe UInt16 10 src⟩
  flags := getLe UInt32 12 src
  payloadBytes := getLe UInt32 16 src
  nonce := ⟨getLe UInt64 24 src, getLe UInt64 32 src⟩
  sequence := getLe UInt64 40 src

/-- The tests of `DecodeHeader` on bytes that are there, in their order. -/
def headerError (src : Bytes) : Error :=
  firstError .none [
    (src.length < headerBytes, .headerSize),
    (slice 0 4 src ≠ wireMagic, .magic),
    (getLe UInt16 4 src ≠ 1 ∨ getLe UInt16 6 src ≠ 0, .version),
    ((getLe UInt16 8 src).toNat ≠ headerBytes, .headerSize),
    (getLe UInt16 10 src < Op.hello.raw ∨ getLe UInt16 10 src > Op.retire.raw, .opcode),
    (getLe UInt32 12 src > 1, .flags),
    (getLe UInt32 20 src ≠ 0, .reserved),
    ((getLe UInt32 16 src).toNat > maxPayloadBytes, .payloadLimit),
    ((readHeader src).nonce.empty, .emptyNonce)]

/-- `DecodeHeader`: the error, and the header at `out` after the call. -/
def decodeHeader (data : Option Bytes) : Error × Header :=
  match data with
  | none => (.nullBuffer, {})
  | some src => if headerError src = .none then (.none, readHeader src) else (headerError src, {})

/-- `Decode`: the error, and the view at `out` after the call. -/
def decode (data : Option Bytes) : Error × View :=
  match decodeHeader data with
  | (.none, header) =>
    let src := data.getD []
    if src.length - headerBytes ≠ header.payloadBytes.toNat then (.packetSize, {})
    else (.none, ⟨header, some (src.drop headerBytes)⟩)
  | (e, _) => (e, {})

/-- What a call of `Encode` leaves behind. -/
structure EncodeResult where
  error : Error
  output : Option Bytes
  written : ℕ
deriving DecidableEq, Repr

/-- `Encode`: `payload` are the bytes at the pointer, of which `count` are read, and `output` is the
buffer, which does not overlap them. -/
def encode (h : Header) (payload : Option Bytes) (count : ℕ) (output : Option Bytes) :
    EncodeResult :=
  match output with
  | none => ⟨.nullBuffer, none, 0⟩
  | some dst =>
    if count ≠ 0 ∧ payload = none then ⟨.nullBuffer, some dst, 0⟩
    else if count > maxPayloadBytes then ⟨.payloadLimit, some dst, 0⟩
    else if h.payloadBytes.toNat ≠ count ∨ dst.length < headerBytes ∨
        dst.length - headerBytes < count then ⟨.packetSize, some dst, 0⟩
    else
      let bytes := headerImage h count
      if (decodeHeader (some bytes)).1 ≠ .none then ⟨(decodeHeader (some bytes)).1, some dst, 0⟩
      else
        let packet := bytes ++ (payload.getD []).take count
        ⟨.none, some (packet ++ dst.drop (headerBytes + count)), headerBytes + count⟩

/-- `Hello`. -/
def hello (sender peer : UInt32) (capabilities : UInt64) : Bytes :=
  putLe sender ++ putLe peer ++ putLe capabilities ++ putLe (UInt32.ofNat slotCount)
    ++ putLe slotBytes

end War3VK.RenderHost.SlotWire
