import War3VK.RenderHost.SlotWire

/-!
# The slot host

The loop of `RunSlotHost` (`src/tools/render_host/slot_host_runtime.cpp`): it reads one request at a
time, lets the slot ledger decide, takes private copies of published slots for a consumer and
answers. Whatever the world does meanwhile is data of the request (`Surroundings`): the bytes that
arrive, what the mapping and the hash provider give, whether the reply goes out. An exception ends
the loop, after the ledger has been retired.
-/

namespace War3VK.RenderHost.SlotHost

open Lib Slots SlotWire

/-! ## The world outside -/

/-- `Digest`. -/
abbrev Digest := Vector UInt8 32

abbrev Sample := ℕ → UInt8

inductive Fault where
  | rejected (reason : String)
  | failure
  | exception
deriving DecidableEq, Repr

/-- How a callback of the consumer ends: it returns null or a reason, or throws. -/
inductive Verdict where
  | accepted
  | refused (reason : String)
  | thrown
deriving DecidableEq, Repr

/-- `SlotPayloadConsumer`, with its own state `κ`; `ε` is what its surroundings do in one request. -/
structure Consumer (κ ε : Type) where
  capabilities : UInt64
  /-- `begin`. -/
  start : ε → Nonce → UInt64 → UInt64 → κ → Verdict × κ
  consume : ε → ReadPermit → Bytes → κ → Verdict × κ
  /-- `end`. -/
  finish : ε → κ → Verdict × κ
  close : ε → κ → Verdict × κ

structure Surroundings (ε : Type) where
  arrived : Bytes
  mapped : Bool
  /-- The shared memory of the slot, if it can be locked and copied. -/
  slotMemory : Option Sample
  hash : Bytes → Option Digest
  around : ε
  written : Bool

structure Connection (κ ε : Type) where
  nonce : Nonce
  consumer : Option (Consumer κ ε)

def Connection.capabilities {κ ε : Type} (conn : Connection κ ε) : UInt64 :=
  match conn.consumer with
  | some c => c.capabilities
  | none => sharedCpuSlots

def Verdict.fault : Verdict → Option Fault
  | .accepted => none
  | .refused reason => some (.rejected reason)
  | .thrown => some .exception

/-- `Require(!error, error)` after a callback, which is not made when there is no consumer. -/
def consult {κ ε : Type} (consumer : Option (Consumer κ ε))
    (callback : Consumer κ ε → κ → Verdict × κ) (k : κ) : Option Fault × κ :=
  match consumer with
  | none => (none, k)
  | some c => ((callback c k).1.fault, (callback c k).2)

/-! ## Private copies -/

/-- `SharedSlots::validate`. -/
def validLease (nonce : Nonce) (key : Key) : Bool :=
  key.connection = nonce ∧ key.slot.toNat < slotCount ∧ key.bytes ≠ 0 ∧ key.bytes ≤ slotBytes ∧
    key.generation ≠ 0 ∧ key.map ≠ 0 ∧ key.device ≠ 0 ∧ key.frame ≠ 0

/-- `SharedSlots::copyPrivate` into a sample of zeros, by a reader. -/
def copyPrivate (nonce : Nonce) (slotMemory : Option Sample) (permit : ReadPermit) :
    Option Sample :=
  if !permit.active ∨ !validLease nonce permit.key then none
  else slotMemory.map fun memory i => if i < permit.key.bytes.toNat then memory i else 0

def Sample.bytes (sample : Sample) (count : UInt32) : Bytes := (List.range count.toNat).map sample

/-- `Sha256`. -/
def sha256 (hash : Bytes → Option Digest) (bytes : Bytes) : Option Digest :=
  if bytes.length > slotBytes.toNat then none else hash bytes

/-! ## The host -/

/-- The loop goes on, or how it has ended: `state` and the exception that was caught. -/
inductive Status where
  | serving
  | closed
  | retired
  | failed (fault : Fault)
deriving DecidableEq, Repr

structure Host (κ : Type) where
  ledger : SlotLedger
  consumer : κ
  next : UInt64 := 1
  /-- Whether `Hello` was accepted; the mapping is open from then on. -/
  greeted : Bool := false
  accepted : UInt64 := 0
  status : Status := .serving
  /-- Whether no reader was left when the loop ended. -/
  readersDone : Bool := true

/-- The host before its first request; the ledger's address does not matter. -/
def Host.new {κ : Type} (nonce : Nonce) (consumer : κ) : Host κ where
  ledger := .new 0 nonce {}
  consumer := consumer

/-- What the `switch` leaves behind: the reply's payload or what was thrown, and the objects that it
has changed. -/
structure Answer (κ : Type) where
  reply : Except Fault Bytes
  ledger : SlotLedger
  consumer : κ

section Requests

variable {κ ε : Type} (conn : Connection κ ε) (env : Surroundings ε) (payload : Bytes)
  (l : SlotLedger) (k : κ)

/-- A failed `Require`. -/
def reject (reason : String) : Answer κ := ⟨.error (.rejected reason), l, k⟩

/-- `case Op::Hello`. -/
def onHello (greeted : Bool) : Answer κ :=
  if greeted then reject l k "RepeatedHello"
  else if payload.length ≠ 24 then reject l k "Shape"
  else if payload ≠ hello 32 64 conn.capabilities then reject l k "HelloContract"
  else if !env.mapped then ⟨.error .failure, l, k⟩
  else ⟨.ok (hello 64 32 conn.capabilities), l, k⟩

/-- `case Op::Begin`. -/
def onBegin : Answer κ :=
  if payload.length ≠ 16 then reject l k "Shape"
  else
    let map := getLe UInt64 0 payload
    let device := getLe UInt64 8 payload
    match beginEpoch map device l with
    | (.none, l) =>
      match consult conn.consumer (fun c => c.start env.around conn.nonce map device) k with
      | (none, k) => ⟨.ok payload, l, k⟩
      | (some fault, k) => ⟨.error fault, l, k⟩
    | (e, l) => reject l k (Slots.errorName e)

/-- `case Op::Reserve`. -/
def onReserve : Answer κ :=
  if payload.length ≠ 16 then reject l k "Shape"
  else if getLe UInt32 12 payload ≠ 0 then reject l k "ReserveReserved"
  else
    match reserve (getLe UInt64 0 payload) (getLe UInt32 8 payload) l with
    | (.none, key, l) =>
      match encodeKey (key.getD {}) (some (List.replicate maxPayloadBytes 0)) with
      | (.none, reply) => ⟨.ok ((reply.getD []).take descriptorBytes), l, k⟩
      | (e, _) => reject l k (Slots.errorName e)
    | (e, _, l) => reject l k (Slots.errorName e)

/-- What the `try` block of `case Op::Publish` leaves behind. -/
structure Reading (κ : Type) where
  digest : Except Fault Digest
  permit : ReadPermit
  ledger : SlotLedger
  consumer : κ

/-- The `try` block of `case Op::Publish`. -/
def readSlot (key : Key) (permit : ReadPermit) : Reading κ :=
  match copyPrivate conn.nonce env.slotMemory permit with
  | none => ⟨.error .failure, permit, l, k⟩
  | some sample =>
    match sha256 env.hash (sample.bytes key.bytes) with
    | none => ⟨.error .failure, permit, l, k⟩
    | some digest =>
      if digest.toList ≠ slice descriptorBytes 32 payload then
        ⟨.error (.rejected "Digest"), permit, l, k⟩
      else
        match consult conn.consumer
            (fun c => c.consume env.around permit (sample.bytes key.bytes)) k with
        | (some fault, k) => ⟨.error fault, permit, l, k⟩
        | (none, k) =>
          match finishRead permit l with
          | (.none, permit, l) => ⟨.ok digest, permit, l, k⟩
          | (e, permit, l) => ⟨.error (.rejected (Slots.errorName e)), permit, l, k⟩

/-- The `catch` block of `case Op::Publish`: uncertain consumption never makes the slot free. -/
def abandon (fault : Fault) (permit : ReadPermit) : Answer κ :=
  let l := retire l
  if permit.active then
    match finishRead permit l with
    | (.none, _, l) => ⟨.error fault, l, k⟩
    | (e, _, l) => reject l k (Slots.errorName e)
  else ⟨.error fault, l, k⟩

/-- `case Op::Publish`. -/
def onPublish : Answer κ :=
  if payload.length ≠ 96 then reject l k "Shape"
  else
    match decodeKey (some (slice 0 descriptorBytes payload)) with
    | (.none, key) =>
      match publish key l with
      | (.none, l) =>
        match beginRead key {} l with
        | (.none, permit, l) =>
          match readSlot conn env payload l k key permit with
          | ⟨.ok digest, _, l, k⟩ => ⟨.ok (slice 0 descriptorBytes payload ++ digest.toList), l, k⟩
          | ⟨.error fault, permit, l, k⟩ => abandon l k fault permit
        | (e, _, l) => reject l k (Slots.errorName e)
      | (e, l) => reject l k (Slots.errorName e)
    | (e, _) => reject l k (Slots.errorName e)

/-- `case Op::Cancel`. -/
def onCancel : Answer κ :=
  if payload.length ≠ descriptorBytes then reject l k "Shape"
  else
    match decodeKey (some payload) with
    | (.none, key) =>
      match cancelWrite key l with
      | (.none, l) => ⟨.ok payload, l, k⟩
      | (e, l) => reject l k (Slots.errorName e)
    | (e, _) => reject l k (Slots.errorName e)

/-- `case Op::End`. -/
def onEnd : Answer κ :=
  if payload.length ≠ 0 then reject l k "Shape"
  else
    match endEpoch l with
    | (.none, l) =>
      match consult conn.consumer (fun c => c.finish env.around) k with
      | (none, k) => ⟨.ok [], l, k⟩
      | (some fault, k) => ⟨.error fault, l, k⟩
    | (e, l) => reject l k (Slots.errorName e)

/-- `case Op::Close`. -/
def onClose : Answer κ :=
  if payload.length ≠ 0 then reject l k "Shape"
  else if l.phase ≠ .dormant ∧ l.phase ≠ .ready then reject l k "ClosePhase"
  else if !l.localReadersDone then reject l k "LocalReaders"
  else
    match consult conn.consumer (fun c => c.close env.around) k with
    | (none, k) => ⟨.ok [], l, k⟩
    | (some fault, k) => ⟨.error fault, l, k⟩

/-- `case Op::Retire`. -/
def onRetire : Answer κ :=
  if payload.length ≠ 0 then reject l k "Shape"
  else
    let l := retire l
    if !l.localReadersDone then reject l k "LocalReaders" else ⟨.ok [], l, k⟩

/-- The `switch` over the opcode; no other value passes the decoder. -/
def answer (op : Op) (greeted : Bool) : Answer κ :=
  if op = .hello then onHello conn env payload l k greeted
  else if op = .begin then onBegin conn env payload l k
  else if op = .reserve then onReserve payload l k
  else if op = .publish then onPublish conn env payload l k
  else if op = .cancel then onCancel payload l k
  else if op = .finish then onEnd conn env payload l k
  else if op = .close then onClose conn env payload l k
  else if op = .retire then onRetire payload l k
  else ⟨.ok [], l, k⟩

end Requests

/-! ## The loop -/

/-- `ReadExact`: the first bytes of what arrives, and the rest. -/
def readExact (count : ℕ) (arrived : Bytes) : Option (Bytes × Bytes) :=
  if arrived.length < count then none else some (arrived.take count, arrived.drop count)

/-- `ReadPacket`, and `Decode` of the packet that it has read. -/
def readPacket (arrived : Bytes) : Except Fault View :=
  match readExact headerBytes arrived with
  | none => .error .failure
  | some (first, rest) =>
    match decodeHeader (some first) with
    | (.none, header) =>
      match readExact header.payloadBytes.toNat rest with
      | none => .error .failure
      | some (body, _) =>
        match decode (some (first ++ body)) with
        | (.none, view) => .ok view
        | (e, _) => .error (.rejected (SlotWire.errorName e))
    | (e, _) => .error (.rejected (SlotWire.errorName e))

/-- The tests of the loop before the `switch`: the reason of the first that fails. -/
def admission (nonce : Nonce) (header : Header) (next : UInt64) (greeted : Bool) : Option String :=
  if header.flags ≠ 0 then some "RequestFlags"
  else if header.nonce ≠ nonce then some "Nonce"
  else if header.sequence ≠ next ∨ next = UInt64.ofNat (2^64 - 1) then some "Sequence"
  else if !greeted ∧ header.op ≠ .hello then some "HelloRequired"
  else none

structure Ack where
  op : Op
  request : Bytes
  reply : Bytes
  packet : Bytes
deriving DecidableEq, Repr

/-- The `catch` block of the loop. -/
def Host.fail {κ : Type} (h : Host κ) (fault : Fault) : Host κ :=
  let ledger := retire h.ledger
  { h with ledger, readersDone := ledger.localReadersDone, status := .failed fault }

def Host.acknowledge {κ : Type} (h : Host κ) (op : Op) : Host κ :=
  if op = .close then
    { h with status := .closed, readersDone := h.ledger.localReadersDone }
  else if op = .retire then
    { h with status := .retired, readersDone := h.ledger.localReadersDone }
  else h

def respond {κ : Type} (written : Bool) (view : View) (reply : Bytes) (h : Host κ) :
    Option Ack × Host κ :=
  let header :=
    { view.header with flags := 1, payloadBytes := UInt32.ofNat reply.length }
  let encoded := encode header (some reply) reply.length (some (List.replicate maxMessageBytes 0))
  if encoded.error ≠ .none then
    (none, h.fail (.rejected (SlotWire.errorName encoded.error)))
  else if !written then (none, h.fail .failure)
  else
    let packet := (encoded.output.getD []).take encoded.written
    (some ⟨view.header.op, view.payload.getD [], reply, packet⟩, h.acknowledge view.header.op)

def serve {κ ε : Type} (conn : Connection κ ε) (env : Surroundings ε) (h : Host κ) :
    Option Ack × Host κ :=
  if h.status ≠ .serving then (none, h)
  else match readPacket env.arrived with
    | .error fault => (none, h.fail fault)
    | .ok view =>
      match admission conn.nonce view.header h.next h.greeted with
      | some reason => (none, h.fail (.rejected reason))
      | none =>
        let a := answer conn env (view.payload.getD []) h.ledger h.consumer view.header.op h.greeted
        let h := { h with ledger := a.ledger, consumer := a.consumer }
        match a.reply with
        | .error fault => (none, h.fail fault)
        | .ok reply =>
          respond env.written view reply { h with
            greeted := h.greeted ∨ view.header.op = .hello
            accepted := h.accepted + 1
            next := h.next + 1 }

def Host.result {κ : Type} (h : Host κ) : ℕ :=
  match h.status with
  | .closed | .retired => 0
  | _ => 2

end War3VK.RenderHost.SlotHost
