import War3VK.Lib.Bytes
import War3VK.Lib.Guards

/-!
# The WVE1 event wire

The recorder's packets (`src/tools/render_host/recorder_event_wire.cpp`): an 80-byte header and up
to 160 event records of 392 bytes, little-endian. `encode` validates a header and its events before
it writes anything, `decode` validates a whole packet, and `decodeEvent` one record. The functions
take pointers, so the model gives them the addresses of their arguments (`Placement`,
`InPlacement`): the aliasing tests are part of what they do.
-/

namespace War3VK.RenderHost.Recorder

open Lib

def headerBytes : ℕ := 80

def eventBytes : ℕ := 392

/-- The packet's first four bytes, `"WVE1"`. -/
def wireMagic : Bytes := [0x57, 0x56, 0x45, 0x31]

def maxEvents : UInt32 := 160

def maxHistoryEvents : UInt32 := 262144

/-- `UINT64_MAX`, the trigger of a history without a cut. -/
def noTrigger : UInt64 := UInt64.ofNat (2^64 - 1)

/-- `enum class Op : uint16_t`. A value of the type can hold any 16-bit pattern. -/
structure Op where
  raw : UInt16
deriving DecidableEq, Repr

/-- `Op::Begin`. -/
def Op.begin : Op := ⟨1⟩

/-- `Op::Data`. -/
def Op.data : Op := ⟨2⟩

/-- `Op::Seal`. -/
def Op.seal : Op := ⟨3⟩

/-- `evidence::Kind : uint32_t`. A value of the type can hold any 32-bit pattern; the named ones are
`1` to `18`. -/
structure Kind where
  raw : UInt32
deriving DecidableEq, Repr

/-- `Kind::Camera`, the kind of a default event. -/
def Kind.camera : Kind := ⟨7⟩

/-- `enum class WireError`. -/
inductive WireError where
  | none | null | size | capacity | overlap | magic | version | header | opcode | flags | shape
  | session | ordinal | trigger | totals | eventValue
deriving DecidableEq, Repr

structure Header where
  op : Op := .begin
  count : UInt32 := 0
  session : UInt64 := 0
  ordinal : UInt64 := 0
  /-- The sequence of the cut, or `noTrigger`. -/
  trigger : UInt64 := noTrigger
  attempted : UInt64 := 0
  lost : UInt64 := 0
  capacity : UInt32 := 0
  reason : UInt32 := 0
  accepted : UInt64 := 0
deriving DecidableEq, Repr

instance : Inhabited Header := ⟨{}⟩

/-- `evidence::Key`. -/
structure EventKey where
  owner : UInt64 := 0
  frame : UInt64 := 0
  mapEpoch : UInt64 := 0
  deviceEpoch : UInt64 := 0
deriving DecidableEq, Repr

/-- `evidence::Event`. -/
structure Event where
  sequence : UInt64 := 0
  session : UInt64 := 0
  parent : UInt64 := 0
  qpc : UInt64 := 0
  key : EventKey := {}
  thread : UInt32 := 0
  kind : Kind := .camera
  label : Vector UInt8 32 := Vector.replicate 32 0
  data : Vector UInt64 12 := Vector.replicate 12 0
  bits : Vector UInt32 48 := Vector.replicate 48 0
deriving DecidableEq, Repr

instance : Inhabited Event := ⟨{}⟩

/-- A decoded packet: the header, and the bytes that `events` points to (`none` when it is null). -/
structure View where
  header : Header := {}
  events : Option Bytes := none
deriving DecidableEq, Repr

instance : Inhabited View := ⟨{}⟩

/-! ## Aliasing -/

/-- `Overlaps`: whether two byte ranges meet, given by their addresses and sizes. A range that
reaches the end of the address space counts as meeting every other. -/
def overlaps (uintptrMax a an b bn : ℕ) : Bool :=
  if a = 0 ∨ b = 0 ∨ an = 0 ∨ bn = 0 then false
  else if an > uintptrMax - a ∨ bn > uintptrMax - b then true
  else a < b + bn ∧ b < a + an

/-- `sizeof(Event)`. -/
def sizeofEvent : ℕ := 392

/-- `sizeof(Header)`. -/
def sizeofHeader : ℕ := 64

/-- `sizeof(View)`. -/
def sizeofView : ℕ := 72

/-- Where the arguments of `encode` stand; address `0` is the null pointer. -/
structure Placement where
  /-- `UINTPTR_MAX`, which is also `SIZE_MAX`. -/
  uintptrMax : ℕ
  /-- `sizeof(size_t)`. -/
  sizeofSize : ℕ
  header : ℕ
  events : ℕ
  dst : ℕ
  written : ℕ

/-- Where the arguments of `decode` or `decodeEvent` stand; address `0` is the null pointer. -/
structure InPlacement where
  uintptrMax : ℕ
  src : ℕ
  out : ℕ

/-! ## `Encode` -/

/-- The header rules of `Encode`, in the order of its tests. -/
def encodeHeaderError (h : Header) : WireError :=
  firstError .none [
    (h.op ≠ .begin ∧ h.op ≠ .data ∧ h.op ≠ .seal, .opcode),
    (h.capacity < 4 ∨ h.capacity > maxHistoryEvents, .capacity),
    (h.session = 0, .session),
    (h.ordinal = 0, .ordinal),
    (h.op = .begin ∧ h.ordinal ≠ 1, .ordinal),
    (h.op = .begin ∧ h.trigger ≠ noTrigger, .trigger),
    (h.op = .seal ∧ h.trigger ≠ noTrigger ∧ h.trigger > h.accepted, .trigger),
    (h.count > maxEvents, .shape),
    (h.op = .begin ∧ (h.count ≠ 0 ∨ h.reason ≠ 0), .shape),
    (h.op = .data ∧ (h.count = 0 ∨ h.reason ≠ 0), .shape),
    (h.op = .seal ∧ (h.count ≠ 0 ∨ h.reason < 1 ∨ h.reason > 4), .shape),
    (h.op = .begin ∧ (h.attempted ≠ 0 ∨ h.lost ≠ 0 ∨ h.accepted ≠ 0), .totals),
    (h.op = .data ∧ (h.attempted ≠ 0 ∨ h.lost ≠ 0 ∨ h.accepted ≠ 0), .totals),
    (h.op = .seal ∧ (h.accepted > h.attempted ∨ h.lost ≠ h.attempted - h.accepted), .totals)]

/-- The rules of `Encode` for one event of a session. -/
def encodeEventError (session : UInt64) (ev : Event) : WireError :=
  firstError .none [
    (ev.session ≠ session, .session),
    (ev.sequence = 0 ∨ ev.sequence = noTrigger, .eventValue),
    (ev.kind.raw < 1 ∨ ev.kind.raw > 18, .eventValue),
    (0 ∉ ev.label.toList, .eventValue)]

/-- The validation loop of `Encode`: the error of the first event that has one. -/
def encodeEventsError (session : UInt64) : List Event → WireError
  | [] => .none
  | ev :: rest =>
    if encodeEventError session ev ≠ .none then encodeEventError session ev
    else encodeEventsError session rest

def headerImage (h : Header) : Bytes :=
  wireMagic                                                           -- + 0
    ++ putLe (1 : UInt16) ++ putLe (0 : UInt16)                       -- + 4, + 6
    ++ putLe h.op.raw ++ putLe (0 : UInt16)                           -- + 8, + 10
    ++ putLe (UInt32.ofNat headerBytes)                               -- + 12
    ++ putLe (UInt32.ofNat (h.count.toNat * eventBytes))              -- + 16
    ++ putLe h.count                                                  -- + 20
    ++ putLe h.session ++ putLe h.ordinal ++ putLe h.trigger          -- + 24, + 32, + 40
    ++ putLe h.attempted ++ putLe h.lost                              -- + 48, + 56
    ++ putLe h.capacity ++ putLe h.reason ++ putLe h.accepted         -- + 64, + 68, + 72

def eventImage (ev : Event) : Bytes :=
  putLe ev.sequence ++ putLe ev.session ++ putLe ev.parent ++ putLe ev.qpc  -- + 0, + 8, + 16, + 24
    ++ putLe ev.key.owner ++ putLe ev.key.frame                       -- + 32, + 40
    ++ putLe ev.key.mapEpoch ++ putLe ev.key.deviceEpoch              -- + 48, + 56
    ++ putLe ev.thread ++ putLe ev.kind.raw                           -- + 64, + 68
    ++ putArray ev.label                                              -- + 72
    ++ putArray ev.data                                               -- + 104
    ++ putArray ev.bits                                               -- + 200

def countedEvents (h : Header) (events : ℕ → Event) : List Event :=
  (List.range h.count.toNat).map events

/-- The bytes of a packet: what `Encode` writes once its validation has passed. -/
def packetImage (h : Header) (events : ℕ → Event) : Bytes :=
  headerImage h ++ (countedEvents h events).flatMap eventImage

/-- The bytes that `Encode` needs at its destination. -/
def required (h : Header) : ℕ := headerBytes + h.count.toNat * eventBytes

/-- What a call of `Encode` leaves behind. -/
structure EncodeResult where
  error : WireError
  dst : Bytes
  written : ℕ
deriving DecidableEq, Repr

/-- The tests of `Encode` after `written` has been found independent and set to zero. -/
def encodeError (pl : Placement) (h : Header) (events : ℕ → Event) (outSize : ℕ) : WireError :=
  if pl.dst = 0 then .null
  else if outSize > 0 ∧ overlaps pl.uintptrMax pl.dst outSize pl.header sizeofHeader then .overlap
  else if pl.events ≠ 0 ∧ h.count > 0 ∧ outSize > 0 ∧
      overlaps pl.uintptrMax pl.dst outSize pl.events (h.count.toNat * sizeofEvent) then .overlap
  else if encodeHeaderError h ≠ .none then encodeHeaderError h
  else if h.count > 0 ∧ pl.events = 0 then .null
  else if outSize < required h then .size
  else encodeEventsError h.session (countedEvents h events)

/-- Whether `written` shares memory with an input or the destination, or the event range does not
fit the address space. -/
def writtenAliased (pl : Placement) (h : Header) (outSize : ℕ) : Bool :=
  (pl.events ≠ 0 ∧ h.count > 0 ∧ sizeofEvent > pl.uintptrMax / h.count.toNat) ∨
    overlaps pl.uintptrMax pl.written pl.sizeofSize pl.header sizeofHeader ∨
    (pl.dst ≠ 0 ∧ outSize > 0 ∧ overlaps pl.uintptrMax pl.written pl.sizeofSize pl.dst outSize) ∨
    (pl.events ≠ 0 ∧ h.count > 0 ∧
      overlaps pl.uintptrMax pl.written pl.sizeofSize pl.events (h.count.toNat * sizeofEvent))

/-- `Encode`: `events` are the events at the pointer, of which the header's count are read, and
`dst` and `written` hold what was there before the call. -/
def encode (pl : Placement) (h : Header) (events : ℕ → Event) (dst : Bytes) (written : ℕ) :
    EncodeResult :=
  -- An aliased `written` is left alone, to preserve the sources.
  if writtenAliased pl h dst.length then ⟨.overlap, dst, written⟩
  else match encodeError pl h events dst.length with
    | .none => ⟨.none, packetImage h events ++ dst.drop (required h), required h⟩
    | e => ⟨e, dst, 0⟩

/-! ## `DecodeEvent` -/

def readEvent (src : Bytes) : Event where
  sequence := getLe UInt64 0 src
  session := getLe UInt64 8 src
  parent := getLe UInt64 16 src
  qpc := getLe UInt64 24 src
  key :=
    { owner := getLe UInt64 32 src
      frame := getLe UInt64 40 src
      mapEpoch := getLe UInt64 48 src
      deviceEpoch := getLe UInt64 56 src }
  thread := getLe UInt32 64 src
  kind := ⟨getLe UInt32 68 src⟩
  label := getArray UInt8 32 72 src
  data := getArray UInt64 12 104 src
  bits := getArray UInt32 48 200 src

/-- The tests of `DecodeEvent` on a record that is there. -/
def decodeRecordError (src : Bytes) : WireError :=
  firstError .none [
    (src.length ≠ eventBytes, .size),
    (getLe UInt64 0 src = 0 ∨ getLe UInt64 0 src = noTrigger, .eventValue),
    (getLe UInt64 8 src = 0, .session),
    (getLe UInt32 68 src < 1 ∨ getLe UInt32 68 src > 18, .eventValue),
    (0 ∉ slice 72 32 src, .eventValue)]

/-- `DecodeEvent` on a record that is there, into an event that does not alias it. -/
def decodeRecord (src : Bytes) : WireError × Event :=
  match decodeRecordError src with
  | .none => (.none, readEvent src)
  | e => (e, {})

/-- `DecodeEvent`: the error, and the event at `out` after the call. -/
def decodeEvent (pl : InPlacement) (src : Bytes) (out : Event) : WireError × Event :=
  if pl.src ≠ 0 ∧ src.length > 0 ∧
      overlaps pl.uintptrMax pl.out sizeofEvent pl.src src.length then (.overlap, out)
  else if pl.src = 0 then (.null, {})
  else decodeRecord src

/-! ## `Decode` -/

def readHeader (src : Bytes) : Header where
  op := ⟨getLe UInt16 8 src⟩
  count := getLe UInt32 20 src
  session := getLe UInt64 24 src
  ordinal := getLe UInt64 32 src
  trigger := getLe UInt64 40 src
  attempted := getLe UInt64 48 src
  lost := getLe UInt64 56 src
  capacity := getLe UInt32 64 src
  reason := getLe UInt32 68 src
  accepted := getLe UInt64 72 src

/-- The tests of `Decode` before it reads the records, in their order. -/
def decodeHeaderError (src : Bytes) : WireError :=
  let h := readHeader src
  firstError .none [
    (src.length < headerBytes, .size),
    (slice 0 4 src ≠ wireMagic, .magic),
    (getLe UInt16 4 src ≠ 1 ∨ getLe UInt16 6 src ≠ 0, .version),
    (h.op.raw < 1 ∨ h.op.raw > 3, .opcode),
    (getLe UInt16 10 src ≠ 0, .flags),
    ((getLe UInt32 12 src).toNat ≠ headerBytes, .header),
    (h.count > maxEvents, .shape),
    (getLe UInt32 16 src ≠ h.count * UInt32.ofNat eventBytes, .shape),
    (src.length ≠ headerBytes + (getLe UInt32 16 src).toNat, .size),
    (h.session = 0, .session),
    (h.ordinal = 0, .ordinal),
    (h.op = .begin ∧ h.ordinal ≠ 1, .ordinal),
    (h.op = .begin ∧ h.trigger ≠ noTrigger, .trigger),
    (h.capacity < 4 ∨ h.capacity > maxHistoryEvents, .capacity),
    (h.op = .begin ∧ (h.count ≠ 0 ∨ h.reason ≠ 0), .shape),
    (h.op = .data ∧ (h.count = 0 ∨ h.reason ≠ 0), .shape),
    (h.op = .seal ∧ (h.count ≠ 0 ∨ h.reason < 1 ∨ h.reason > 4), .shape),
    (h.op = .begin ∧ (h.attempted ≠ 0 ∨ h.lost ≠ 0 ∨ h.accepted ≠ 0), .totals),
    (h.op = .data ∧ (h.attempted ≠ 0 ∨ h.lost ≠ 0 ∨ h.accepted ≠ 0), .totals),
    (h.op = .seal ∧ (h.accepted > h.attempted ∨ h.lost ≠ h.attempted - h.accepted), .totals),
    (h.op = .seal ∧ h.trigger ≠ noTrigger ∧ h.trigger > h.accepted, .trigger)]

/-- The bytes of record `i`, where `events` points to record `0`. -/
def recordAt (events : Bytes) (i : ℕ) : Bytes := slice (i * eventBytes) eventBytes events

/-- The record loop of `Decode`: the error of the first record that has one. -/
def decodeRecordsError (session : UInt64) : List Bytes → WireError
  | [] => .none
  | r :: rest =>
    if (decodeRecord r).1 ≠ .none then (decodeRecord r).1
    else if (decodeRecord r).2.session ≠ session then .session
    else decodeRecordsError session rest

/-- The records that `count` of them give from `events` on. -/
def records (count : ℕ) (events : Bytes) : List Bytes := (List.range count).map (recordAt events)

/-- `Decode` on a packet that is there, into a view that does not alias it. -/
def decodePacket (src : Bytes) : WireError × View :=
  match decodeHeaderError src with
  | .none =>
    let h := readHeader src
    match decodeRecordsError h.session (records h.count.toNat (src.drop headerBytes)) with
    | .none => (.none, ⟨h, if h.count > 0 then some (src.drop headerBytes) else none⟩)
    | e => (e, {})
  | e => (e, {})

/-- `Decode`: the error, and the view at `out` after the call. -/
def decode (pl : InPlacement) (src : Bytes) (out : View) : WireError × View :=
  if pl.src ≠ 0 ∧ src.length > 0 ∧
      overlaps pl.uintptrMax pl.out sizeofView pl.src src.length then (.overlap, out)
  else if pl.src = 0 then (.null, {})
  else decodePacket src

end War3VK.RenderHost.Recorder
