import War3VK.Lib.Codec
import War3VK.RenderHost.InboxDelivery
import War3VK.RenderHost.Protocol
import War3VK.RenderHost.SlotHostSpec

/-!
# The control codecs

The echo packets, the slot packets, the names of leases and the envelopes of samples, each with an
encoder and a decoder of its own. Each pair is an exact codec. A value of a packet codec is a header
and the bytes of its payload, and its header says how many these are.
-/

namespace War3VK.RenderHost

open Lib

/-! ## Echo packets -/

variable {src bytes : Bytes}

namespace Protocol

def codec : Codec (Header × Bytes) MessageView (Option Bytes) Error where
  ok := .none
  image v := headerImage v.1 v.1.payloadBytes.toNat ++ v.2
  buffer out := out
  Fits v out := ∃ dst, out = some dst ∧ headerBytes + v.2.length ≤ dst.length
  encode v out :=
    let r := encode v.1 (some v.2) v.2.length out
    (r.error, r.output)
  decode := decode
  value view := (view.header, view.payload.getD [])
  blank := {}

theorem codec_decode : codec.decode = decode := rfl

theorem codec_image (h : Header) (payload : Bytes) :
    codec.image (h, payload) = headerImage h h.payloadBytes.toNat ++ payload := rfl

@[simp]
theorem wireMagic_length : wireMagic.length = 4 := by simp [wireMagic]

theorem headerImage_length (h : Header) (count : ℕ) : (headerImage h count).length = headerBytes := by
  simp [headerImage, headerBytes]

theorem readHeader_headerImage (h : Header) (rest : Bytes) :
    readHeader (headerImage h h.payloadBytes.toNat ++ rest) = h := by
  obtain ⟨⟨op⟩, flags, payloadBytes, ⟨low, high⟩, sequence, mapEpoch, deviceEpoch, resourceId,
    resourceGeneration, frameId⟩ := h
  simp [readHeader, headerImage, getLe_append_left, getLe_append_right]

structure Header.Valid (h : Header) : Prop where
  op : Op.hello.raw ≤ h.op.raw ∧ h.op.raw ≤ Op.close.raw
  flags : h.flags ≤ 1
  payload : h.payloadBytes.toNat ≤ maxPayloadBytes
  nonce : h.nonce.empty = false

structure Framed (src : Bytes) : Prop where
  length : headerBytes ≤ src.length
  magic : slice 0 4 src = wireMagic
  version : getLe UInt16 4 src = 0 ∧ getLe UInt16 6 src = 1
  headerSize : getLe UInt16 8 src = UInt16.ofNat headerBytes
  reserved : getLe UInt32 20 src = 0 ∧ getLe UInt32 88 src = 0 ∧ getLe UInt32 92 src = 0

theorem headerError_eq_none (src : Bytes) :
    headerError src = .none ↔ Framed src ∧ (readHeader src).Valid := by
  have hsize : (getLe UInt16 8 src).toNat = headerBytes ↔
      getLe UInt16 8 src = UInt16.ofNat headerBytes := by
    rw [← UInt16.toNat_inj]
    rfl
  rw [headerError, firstError_eq_ok_iff (by simp)]
  simp only [List.forall_mem_cons, decide_eq_false_iff_not, not_not, not_or, hsize]
  constructor
  · rintro ⟨h1, h2, h3, h4, h5, h6, h7, h8, h9, -⟩
    refine ⟨⟨by omega, h2, h3, h4, h7⟩, ⟨?_, ?_, ?_, h9⟩⟩
    · exact ⟨UInt16.not_lt.mp h5.1, UInt16.not_lt.mp h5.2⟩
    · exact UInt32.not_lt.mp h6
    · exact Nat.not_lt.mp h8
  · rintro ⟨⟨f1, f2, f3, f4, f5⟩, ⟨h1, h2, h3, h4⟩⟩
    exact ⟨by omega, f2, f3, f4, ⟨UInt16.not_lt.mpr h1.1, UInt16.not_lt.mpr h1.2⟩,
      UInt32.not_lt.mpr h2, f5, Nat.not_lt.mpr h3, h4, List.forall_mem_nil _⟩

theorem framed_headerImage (h : Header) (count : ℕ) (rest : Bytes) :
    Framed (headerImage h count ++ rest) where
  length := by simp [headerImage_length]
  magic := by
    rw [headerImage]
    simp [slice_append_left]
  version := by simp [headerImage, getLe_append_left, getLe_append_right]
  headerSize := by simp [headerImage, getLe_append_left, getLe_append_right]
  reserved := by
    refine ⟨?_, ?_, ?_⟩ <;> simp [headerImage, getLe_append_left, getLe_append_right]

theorem headerImage_readHeader (h : Framed src) :
    headerImage (readHeader src) (readHeader src).payloadBytes.toNat = slice 0 headerBytes src := by
  have hlen : 96 ≤ src.length := h.length
  -- The fields that are not read into the header are fixed by the framing.
  have hmajor : putLe (0 : UInt16) = slice 4 2 src := by
    rw [← h.version.1]; exact putLe_getLe (by simp; omega)
  have hminor : putLe (1 : UInt16) = slice 6 2 src := by
    rw [← h.version.2]; exact putLe_getLe (by simp; omega)
  have hsize : putLe (UInt16.ofNat headerBytes) = slice 8 2 src := by
    rw [← h.headerSize]; exact putLe_getLe (by simp; omega)
  have hfirst : putLe (0 : UInt32) = slice 20 4 src := by
    rw [← h.reserved.1]; exact putLe_getLe (by simp; omega)
  have hsecond : putLe (0 : UInt32) = slice 88 4 src := by
    rw [← h.reserved.2.1]; exact putLe_getLe (by simp; omega)
  have hthird : putLe (0 : UInt32) = slice 92 4 src := by
    rw [← h.reserved.2.2]; exact putLe_getLe (by simp; omega)
  rw [headerImage, UInt32.ofNat_toNat, hsize, hmajor, hminor, ← h.magic]
  nth_rw 1 [hfirst]
  nth_rw 1 [hsecond]
  rw [hthird]
  simp (disch := simp; omega) only [readHeader, putLe_getLe, width_uint16, width_uint32, width_uint64]
  simp (disch := simp) only [slice_append_slice, Nat.reduceAdd]
  rfl

theorem decodeHeader_error (bytes : Bytes) : (decodeHeader (some bytes)).1 = headerError bytes := by
  unfold decodeHeader
  dsimp only
  split_ifs with h
  · exact h.symm
  · rfl

theorem decode_of_headerError (h : headerError bytes ≠ .none) :
    decode (some bytes) = (headerError bytes, {}) := by
  unfold decode decodeHeader
  dsimp only
  rw [if_neg h]
  generalize headerError bytes = e at h ⊢
  cases e <;> first | exact absurd rfl h | rfl

theorem decode_of_header (h : headerError bytes = .none) :
    decode (some bytes) =
      if bytes.length - headerBytes ≠ (readHeader bytes).payloadBytes.toNat then (.packetSize, {})
      else (.none, ⟨readHeader bytes, some (bytes.drop headerBytes)⟩) := by
  unfold decode decodeHeader
  dsimp only
  rw [if_pos h]
  rfl

theorem decode_spec (src : Option Bytes) :
    (∃ bytes, src = some bytes ∧ Framed bytes ∧ (readHeader bytes).Valid ∧
      bytes.length = headerBytes + (readHeader bytes).payloadBytes.toNat ∧
      decode src = (.none, ⟨readHeader bytes, some (bytes.drop headerBytes)⟩)) ∨
    ∃ e, e ≠ .none ∧ decode src = (e, {}) := by
  cases src with
  | none => exact .inr ⟨.nullBuffer, by decide, rfl⟩
  | some bytes =>
    by_cases herror : headerError bytes = .none
    · obtain ⟨hframed, hvalid⟩ := (headerError_eq_none bytes).mp herror
      have hlen := hframed.length
      by_cases hsize : bytes.length - headerBytes = (readHeader bytes).payloadBytes.toNat
      · exact .inl ⟨bytes, rfl, hframed, hvalid, by omega, by
          rw [decode_of_header herror, if_neg (not_not.mpr hsize)]⟩
      · exact .inr ⟨.packetSize, by decide, by rw [decode_of_header herror, if_pos hsize]⟩
    · exact .inr ⟨headerError bytes, herror, decode_of_headerError herror⟩

theorem decode_image (h : Header) (payload : Bytes) :
    (decode (some (headerImage h h.payloadBytes.toNat ++ payload))).1 = .none ↔
      h.Valid ∧ h.payloadBytes.toNat = payload.length := by
  have hframed := framed_headerImage h h.payloadBytes.toNat payload
  rcases decode_spec (some (headerImage h h.payloadBytes.toNat ++ payload)) with
    ⟨bytes, hbytes, -, hvalid, hlen, heq⟩ | ⟨e, he, heq⟩
  · cases hbytes
    rw [readHeader_headerImage] at hvalid hlen
    rw [List.length_append, headerImage_length] at hlen
    exact iff_of_true (by rw [heq]) ⟨hvalid, by omega⟩
  · refine iff_of_false (by rw [heq]; exact he) fun ⟨hvalid, hcount⟩ => he ?_
    have herror := (headerError_eq_none _).mpr ⟨hframed, by rwa [readHeader_headerImage]⟩
    rw [decode_of_header herror, readHeader_headerImage, if_neg] at heq
    · exact (congrArg Prod.fst heq).symm
    · rw [List.length_append, headerImage_length]
      omega

theorem decode_image_view {h : Header} {payload : Bytes}
    (hok : (decode (some (headerImage h h.payloadBytes.toNat ++ payload))).1 = .none) :
    decode (some (headerImage h h.payloadBytes.toNat ++ payload)) = (.none, ⟨h, some payload⟩) := by
  rcases decode_spec (some (headerImage h h.payloadBytes.toNat ++ payload)) with
    ⟨bytes, hbytes, -, -, -, heq⟩ | ⟨e, he, heq⟩
  · cases hbytes
    rw [heq, readHeader_headerImage, List.drop_left' (headerImage_length h _)]
  · rw [heq] at hok
    exact absurd hok he

theorem encode_spec (h : Header) (payload : Bytes) (out : Option Bytes) :
    ((∃ dst, out = some dst ∧ headerBytes + payload.length ≤ dst.length ∧
        encode h (some payload) payload.length out =
          ⟨.none, some (headerImage h h.payloadBytes.toNat ++ payload ++
            dst.drop (headerBytes + payload.length)), headerBytes + payload.length⟩) ∧
      h.Valid ∧ h.payloadBytes.toNat = payload.length) ∨
    ¬((∃ dst, out = some dst ∧ headerBytes + payload.length ≤ dst.length) ∧
      h.Valid ∧ h.payloadBytes.toNat = payload.length) ∧
      ∃ e, e ≠ .none ∧ encode h (some payload) payload.length out = ⟨e, out, 0⟩ := by
  cases out with
  | none => exact .inr ⟨fun ⟨⟨_, hdst, _⟩, _⟩ => (nomatch hdst), .nullBuffer, by decide, rfl⟩
  | some dst =>
    have hheader : (decodeHeader (some (headerImage h payload.length))).1 = .none ↔
        (readHeader (headerImage h payload.length)).Valid := by
      have hframed := framed_headerImage h payload.length []
      rw [List.append_nil] at hframed
      rw [decodeHeader_error, headerError_eq_none]
      exact and_iff_right hframed
    have hread (hcount : h.payloadBytes.toNat = payload.length) :
        readHeader (headerImage h payload.length) = h := by
      rw [← hcount, ← List.append_nil (headerImage h _), readHeader_headerImage]
    unfold encode
    dsimp only
    rw [if_neg (show ¬(payload.length ≠ 0 ∧ some payload = none) from fun h => nomatch h.2)]
    split_ifs with hlimit hsize herror
    · refine .inr ⟨fun ⟨_, hvalid, hcount⟩ => ?_, .payloadLimit, by decide, rfl⟩
      have := hvalid.payload
      omega
    · refine .inr ⟨fun ⟨⟨dst', hdst, hroom⟩, _, hcount⟩ => ?_, .packetSize, by decide, rfl⟩
      cases hdst
      omega
    · refine .inr ⟨fun ⟨_, hvalid, hcount⟩ => herror (hheader.mpr ?_), _, herror, rfl⟩
      rwa [hread hcount]
    · have hcount : h.payloadBytes.toNat = payload.length := by omega
      have hvalid := hheader.mp (not_not.mp herror)
      rw [hread hcount] at hvalid
      exact .inl ⟨⟨dst, rfl, by omega, by simp [hcount]⟩, hvalid, hcount⟩

theorem codec_exact : codec.Exact := by
  refine Codec.Exact.of_valid
    (fun v => v.1.Valid ∧ v.1.payloadBytes.toNat = v.2.length) ?_ ?_ ?_ ?_
  · rintro ⟨h, payload⟩ out
    have hlen : (codec.image (h, payload)).length = headerBytes + payload.length := by
      simp [codec, headerImage_length]
    rcases encode_spec h payload out with
      ⟨⟨dst, hdst, hroom, heq⟩, hvalid⟩ | ⟨hnot, e, he, heq⟩
    · refine .inl ⟨⟨dst, hdst, hroom⟩, hvalid, dst, hdst, ?_⟩
      rw [hlen]
      simp only [codec, heq]
    · exact .inr ⟨hnot, e, he, by simp only [codec, heq]⟩
  · intro src
    rcases decode_spec src with ⟨bytes, hsrc, hframed, -, -, heq⟩ | hfail
    · refine .inl ⟨bytes, _, hsrc, heq, ?_⟩
      show headerImage (readHeader bytes) (readHeader bytes).payloadBytes.toNat ++
        bytes.drop headerBytes = bytes
      rw [headerImage_readHeader hframed]
      exact List.take_append_drop headerBytes bytes
    · exact .inr hfail
  · rintro ⟨h, payload⟩
    rw [codec_decode, codec_image]
    exact decode_image h payload
  · rintro ⟨h, payload⟩ hok
    rw [codec_decode, codec_image] at hok ⊢
    rw [decode_image_view hok]
    rfl

theorem encode_written (h : Header) (payload : Bytes) (out : Option Bytes) :
    (encode h (some payload) payload.length out).written =
      if (encode h (some payload) payload.length out).error = .none then
        headerBytes + payload.length else 0 := by
  rcases encode_spec h payload out with ⟨⟨dst, -, -, heq⟩, -⟩ | ⟨-, e, he, heq⟩
  · rw [heq, if_pos rfl]
  · rw [heq, if_neg he]

end Protocol

/-! ## Slot packets -/

namespace SlotWire

def codec : Codec (Header × Bytes) View (Option Bytes) Error where
  ok := .none
  image v := headerImage v.1 v.1.payloadBytes.toNat ++ v.2
  buffer out := out
  Fits v out := ∃ dst, out = some dst ∧ headerBytes + v.2.length ≤ dst.length
  encode v out :=
    let r := encode v.1 (some v.2) v.2.length out
    (r.error, r.output)
  decode := decode
  value view := (view.header, view.payload.getD [])
  blank := {}

theorem codec_decode : codec.decode = decode := rfl

theorem codec_image (h : Header) (payload : Bytes) :
    codec.image (h, payload) = headerImage h h.payloadBytes.toNat ++ payload := rfl

@[simp]
theorem wireMagic_length : wireMagic.length = 4 := by simp [wireMagic]

theorem headerImage_length (h : Header) (count : ℕ) : (headerImage h count).length = headerBytes := by
  simp [headerImage, headerBytes]

theorem readHeader_headerImage (h : Header) (rest : Bytes) :
    readHeader (headerImage h h.payloadBytes.toNat ++ rest) = h := by
  obtain ⟨⟨op⟩, flags, payloadBytes, ⟨low, high⟩, sequence⟩ := h
  simp [readHeader, headerImage, getLe_append_left, getLe_append_right]

structure Header.Valid (h : Header) : Prop where
  op : Op.hello.raw ≤ h.op.raw ∧ h.op.raw ≤ Op.retire.raw
  flags : h.flags ≤ 1
  payload : h.payloadBytes.toNat ≤ maxPayloadBytes
  nonce : h.nonce.empty = false

structure Framed (src : Bytes) : Prop where
  length : headerBytes ≤ src.length
  magic : slice 0 4 src = wireMagic
  version : getLe UInt16 4 src = 1 ∧ getLe UInt16 6 src = 0
  headerSize : getLe UInt16 8 src = UInt16.ofNat headerBytes
  reserved : getLe UInt32 20 src = 0

theorem headerError_eq_none (src : Bytes) :
    headerError src = .none ↔ Framed src ∧ (readHeader src).Valid := by
  have hsize : (getLe UInt16 8 src).toNat = headerBytes ↔
      getLe UInt16 8 src = UInt16.ofNat headerBytes := by
    rw [← UInt16.toNat_inj]
    rfl
  rw [headerError, firstError_eq_ok_iff (by simp)]
  simp only [List.forall_mem_cons, decide_eq_false_iff_not, not_not, not_or, hsize]
  constructor
  · rintro ⟨h1, h2, h3, h4, h5, h6, h7, h8, h9, -⟩
    refine ⟨⟨by omega, h2, h3, h4, h7⟩, ⟨?_, ?_, ?_, h9⟩⟩
    · exact ⟨UInt16.not_lt.mp h5.1, UInt16.not_lt.mp h5.2⟩
    · exact UInt32.not_lt.mp h6
    · exact Nat.not_lt.mp h8
  · rintro ⟨⟨f1, f2, f3, f4, f5⟩, ⟨h1, h2, h3, h4⟩⟩
    exact ⟨by omega, f2, f3, f4, ⟨UInt16.not_lt.mpr h1.1, UInt16.not_lt.mpr h1.2⟩,
      UInt32.not_lt.mpr h2, f5, Nat.not_lt.mpr h3, h4, List.forall_mem_nil _⟩

theorem framed_headerImage (h : Header) (count : ℕ) (rest : Bytes) :
    Framed (headerImage h count ++ rest) where
  length := by simp [headerImage_length]
  magic := by
    rw [headerImage]
    simp [slice_append_left]
  version := by simp [headerImage, getLe_append_left, getLe_append_right]
  headerSize := by simp [headerImage, getLe_append_left, getLe_append_right]
  reserved := by simp [headerImage, getLe_append_left, getLe_append_right]

theorem headerImage_readHeader (h : Framed src) :
    headerImage (readHeader src) (readHeader src).payloadBytes.toNat = slice 0 headerBytes src := by
  have hlen : 48 ≤ src.length := h.length
  -- The fields that are not read into the header are fixed by the framing.
  have hmajor : putLe (1 : UInt16) = slice 4 2 src := by
    rw [← h.version.1]; exact putLe_getLe (by simp; omega)
  have hminor : putLe (0 : UInt16) = slice 6 2 src := by
    rw [← h.version.2]; exact putLe_getLe (by simp; omega)
  have hsize : putLe (UInt16.ofNat headerBytes) = slice 8 2 src := by
    rw [← h.headerSize]; exact putLe_getLe (by simp; omega)
  have hreserved : putLe (0 : UInt32) = slice 20 4 src := by
    rw [← h.reserved]; exact putLe_getLe (by simp; omega)
  rw [headerImage, UInt32.ofNat_toNat, hsize, hmajor, hminor, hreserved, ← h.magic]
  simp (disch := simp; omega) only [readHeader, putLe_getLe, width_uint16, width_uint32, width_uint64]
  simp (disch := simp) only [slice_append_slice, Nat.reduceAdd]
  rfl

theorem decodeHeader_error (bytes : Bytes) : (decodeHeader (some bytes)).1 = headerError bytes := by
  unfold decodeHeader
  dsimp only
  split_ifs with h
  · exact h.symm
  · rfl

theorem decode_of_headerError (h : headerError bytes ≠ .none) :
    decode (some bytes) = (headerError bytes, {}) := by
  unfold decode decodeHeader
  dsimp only
  rw [if_neg h]
  generalize headerError bytes = e at h ⊢
  cases e <;> first | exact absurd rfl h | rfl

theorem decode_of_header (h : headerError bytes = .none) :
    decode (some bytes) =
      if bytes.length - headerBytes ≠ (readHeader bytes).payloadBytes.toNat then (.packetSize, {})
      else (.none, ⟨readHeader bytes, some (bytes.drop headerBytes)⟩) := by
  unfold decode decodeHeader
  dsimp only
  rw [if_pos h]
  rfl

theorem decode_spec (src : Option Bytes) :
    (∃ bytes, src = some bytes ∧ Framed bytes ∧ (readHeader bytes).Valid ∧
      bytes.length = headerBytes + (readHeader bytes).payloadBytes.toNat ∧
      decode src = (.none, ⟨readHeader bytes, some (bytes.drop headerBytes)⟩)) ∨
    ∃ e, e ≠ .none ∧ decode src = (e, {}) := by
  cases src with
  | none => exact .inr ⟨.nullBuffer, by decide, rfl⟩
  | some bytes =>
    by_cases herror : headerError bytes = .none
    · obtain ⟨hframed, hvalid⟩ := (headerError_eq_none bytes).mp herror
      have hlen := hframed.length
      by_cases hsize : bytes.length - headerBytes = (readHeader bytes).payloadBytes.toNat
      · exact .inl ⟨bytes, rfl, hframed, hvalid, by omega, by
          rw [decode_of_header herror, if_neg (not_not.mpr hsize)]⟩
      · exact .inr ⟨.packetSize, by decide, by rw [decode_of_header herror, if_pos hsize]⟩
    · exact .inr ⟨headerError bytes, herror, decode_of_headerError herror⟩

theorem decode_image (h : Header) (payload : Bytes) :
    (decode (some (headerImage h h.payloadBytes.toNat ++ payload))).1 = .none ↔
      h.Valid ∧ h.payloadBytes.toNat = payload.length := by
  have hframed := framed_headerImage h h.payloadBytes.toNat payload
  rcases decode_spec (some (headerImage h h.payloadBytes.toNat ++ payload)) with
    ⟨bytes, hbytes, -, hvalid, hlen, heq⟩ | ⟨e, he, heq⟩
  · cases hbytes
    rw [readHeader_headerImage] at hvalid hlen
    rw [List.length_append, headerImage_length] at hlen
    exact iff_of_true (by rw [heq]) ⟨hvalid, by omega⟩
  · refine iff_of_false (by rw [heq]; exact he) fun ⟨hvalid, hcount⟩ => he ?_
    have herror := (headerError_eq_none _).mpr ⟨hframed, by rwa [readHeader_headerImage]⟩
    rw [decode_of_header herror, readHeader_headerImage, if_neg] at heq
    · exact (congrArg Prod.fst heq).symm
    · rw [List.length_append, headerImage_length]
      omega

theorem decode_image_view {h : Header} {payload : Bytes}
    (hok : (decode (some (headerImage h h.payloadBytes.toNat ++ payload))).1 = .none) :
    decode (some (headerImage h h.payloadBytes.toNat ++ payload)) = (.none, ⟨h, some payload⟩) := by
  rcases decode_spec (some (headerImage h h.payloadBytes.toNat ++ payload)) with
    ⟨bytes, hbytes, -, -, -, heq⟩ | ⟨e, he, heq⟩
  · cases hbytes
    rw [heq, readHeader_headerImage, List.drop_left' (headerImage_length h _)]
  · rw [heq] at hok
    exact absurd hok he

theorem encode_spec (h : Header) (payload : Bytes) (out : Option Bytes) :
    ((∃ dst, out = some dst ∧ headerBytes + payload.length ≤ dst.length ∧
        encode h (some payload) payload.length out =
          ⟨.none, some (headerImage h h.payloadBytes.toNat ++ payload ++
            dst.drop (headerBytes + payload.length)), headerBytes + payload.length⟩) ∧
      h.Valid ∧ h.payloadBytes.toNat = payload.length) ∨
    ¬((∃ dst, out = some dst ∧ headerBytes + payload.length ≤ dst.length) ∧
      h.Valid ∧ h.payloadBytes.toNat = payload.length) ∧
      ∃ e, e ≠ .none ∧ encode h (some payload) payload.length out = ⟨e, out, 0⟩ := by
  cases out with
  | none => exact .inr ⟨fun ⟨⟨_, hdst, _⟩, _⟩ => (nomatch hdst), .nullBuffer, by decide, rfl⟩
  | some dst =>
    have hheader : (decodeHeader (some (headerImage h payload.length))).1 = .none ↔
        (readHeader (headerImage h payload.length)).Valid := by
      have hframed := framed_headerImage h payload.length []
      rw [List.append_nil] at hframed
      rw [decodeHeader_error, headerError_eq_none]
      exact and_iff_right hframed
    have hread (hcount : h.payloadBytes.toNat = payload.length) :
        readHeader (headerImage h payload.length) = h := by
      rw [← hcount, ← List.append_nil (headerImage h _), readHeader_headerImage]
    unfold encode
    dsimp only
    rw [if_neg (show ¬(payload.length ≠ 0 ∧ some payload = none) from fun h => nomatch h.2)]
    split_ifs with hlimit hsize herror
    · refine .inr ⟨fun ⟨_, hvalid, hcount⟩ => ?_, .payloadLimit, by decide, rfl⟩
      have := hvalid.payload
      omega
    · refine .inr ⟨fun ⟨⟨dst', hdst, hroom⟩, _, hcount⟩ => ?_, .packetSize, by decide, rfl⟩
      cases hdst
      omega
    · refine .inr ⟨fun ⟨_, hvalid, hcount⟩ => herror (hheader.mpr ?_), _, herror, rfl⟩
      rwa [hread hcount]
    · have hcount : h.payloadBytes.toNat = payload.length := by omega
      have hvalid := hheader.mp (not_not.mp herror)
      rw [hread hcount] at hvalid
      exact .inl ⟨⟨dst, rfl, by omega, by simp [hcount]⟩, hvalid, hcount⟩

theorem codec_exact : codec.Exact := by
  refine Codec.Exact.of_valid
    (fun v => v.1.Valid ∧ v.1.payloadBytes.toNat = v.2.length) ?_ ?_ ?_ ?_
  · rintro ⟨h, payload⟩ out
    have hlen : (codec.image (h, payload)).length = headerBytes + payload.length := by
      simp [codec, headerImage_length]
    rcases encode_spec h payload out with
      ⟨⟨dst, hdst, hroom, heq⟩, hvalid⟩ | ⟨hnot, e, he, heq⟩
    · refine .inl ⟨⟨dst, hdst, hroom⟩, hvalid, dst, hdst, ?_⟩
      rw [hlen]
      simp only [codec, heq]
    · exact .inr ⟨hnot, e, he, by simp only [codec, heq]⟩
  · intro src
    rcases decode_spec src with ⟨bytes, hsrc, hframed, -, -, heq⟩ | hfail
    · refine .inl ⟨bytes, _, hsrc, heq, ?_⟩
      show headerImage (readHeader bytes) (readHeader bytes).payloadBytes.toNat ++
        bytes.drop headerBytes = bytes
      rw [headerImage_readHeader hframed]
      exact List.take_append_drop headerBytes bytes
    · exact .inr hfail
  · rintro ⟨h, payload⟩
    rw [codec_decode, codec_image]
    exact decode_image h payload
  · rintro ⟨h, payload⟩ hok
    rw [codec_decode, codec_image] at hok ⊢
    rw [decode_image_view hok]
    rfl

theorem encode_written (h : Header) (payload : Bytes) (out : Option Bytes) :
    (encode h (some payload) payload.length out).written =
      if (encode h (some payload) payload.length out).error = .none then
        headerBytes + payload.length else 0 := by
  rcases encode_spec h payload out with ⟨⟨dst, -, -, heq⟩, -⟩ | ⟨-, e, he, heq⟩
  · rw [heq, if_pos rfl]
  · rw [heq, if_neg he]

end SlotWire

/-! ## Names of leases -/

namespace Slots

def keyCodec : Codec Key Key (Option Bytes) Error where
  ok := .none
  image := keyImage
  buffer out := out
  Fits _ out := ∃ dst, out = some dst ∧ descriptorBytes ≤ dst.length
  encode := encodeKey
  decode := decodeKey
  value key := key
  blank := {}

theorem decodeKey_error (src : Bytes) : (decodeKey (some src)).1 = decodeKeyError src := by
  unfold decodeKey
  dsimp only
  split_ifs with h
  · exact h.symm
  · rfl

theorem keyImage_parseKey (h : decodeKeyError src = .none) :
    keyImage (parseKey src) = src ∧ shape (parseKey src) = .none := by
  unfold decodeKeyError at h
  split_ifs at h with hsize hmagic hversion
  have hlen : src.length = 64 := not_not.mp hsize
  simp only [not_or, not_not] at hmagic hversion
  have hmajor : putLe (1 : UInt16) = slice 4 2 src := by
    rw [← hversion.1]; exact putLe_getLe (by simp; omega)
  have hbytes : putLe (UInt16.ofNat descriptorBytes) = slice 6 2 src := by
    rw [← hversion.2, UInt16.ofNat_toNat]; exact putLe_getLe (by simp; omega)
  refine ⟨?_, h⟩
  rw [keyImage, hmajor, hbytes, ← hmagic]
  simp (disch := simp; omega) only [parseKey, putLe_getLe, width_uint32, width_uint64]
  simp (disch := simp) only [slice_append_slice, Nat.reduceAdd]
  exact slice_zero_length hlen

theorem keyCodec_exact : keyCodec.Exact := by
  refine Codec.Exact.of_valid (fun key => shape key = .none) ?_ ?_ ?_ ?_
  · intro key out
    have hlen : (keyCodec.image key).length = descriptorBytes := keyImage_length key
    rw [hlen]
    cases out with
    | none => exact .inr ⟨fun ⟨⟨_, hdst, _⟩, _⟩ => (nomatch hdst), .nullBuffer, by decide, rfl⟩
    | some dst =>
      by_cases hroom : descriptorBytes ≤ dst.length
      · rcases encodeKey_spec key hroom with ⟨e, he, heq⟩ | ⟨hshape, heq⟩
        · refine .inr ⟨fun ⟨_, hshape⟩ => he ?_, e, he, heq⟩
          have hok : encodeKey key (some dst) =
              (.none, some (keyImage key ++ dst.drop descriptorBytes)) := by
            unfold encodeKey
            dsimp only
            rw [if_neg (by omega), if_neg (not_not.mpr hshape)]
          rw [heq] at hok
          exact congrArg Prod.fst hok
        · exact .inl ⟨⟨dst, rfl, hroom⟩, hshape, dst, rfl, heq⟩
      · refine .inr ⟨fun ⟨⟨dst', hdst, hroom'⟩, _⟩ => hroom ?_, .descriptorSize, by decide, ?_⟩
        · cases hdst
          exact hroom'
        · show encodeKey key (some dst) = _
          unfold encodeKey
          dsimp only
          rw [if_pos (by omega)]
          rfl
  · intro src
    cases src with
    | none => exact .inr ⟨.nullBuffer, by decide, rfl⟩
    | some src =>
      by_cases herror : decodeKeyError src = .none
      · exact .inl ⟨src, parseKey src, rfl, if_pos herror, (keyImage_parseKey herror).1⟩
      · exact .inr ⟨decodeKeyError src, herror, if_neg herror⟩
  · intro key
    by_cases hshape : shape key = .none
    · refine iff_of_true ?_ hshape
      show (decodeKey (some (keyImage key))).1 = .none
      rw [decodeKey_keyImage hshape]
    · refine iff_of_false (fun hok => hshape ?_) hshape
      have herror : decodeKeyError (keyImage key) = .none := (decodeKey_error _).symm.trans hok
      have hvalid := (keyImage_parseKey herror).2
      rwa [← List.append_nil (keyImage key), parseKey_keyImage] at hvalid
  · intro key hok
    have herror : decodeKeyError (keyImage key) = .none := (decodeKey_error _).symm.trans hok
    show (decodeKey (some (keyImage key))).2 = key
    rw [decodeKey, if_pos herror, ← List.append_nil (keyImage key), parseKey_keyImage]

end Slots

/-! ## Envelopes -/

namespace Envelope

open Slots

/-- The codec of envelopes; its buffers are those of the call and their addresses. -/
def codec : Codec (Header × Bytes) View (Placement × Bytes) Error where
  ok := .none
  image v := headerImage v.1 v.2.length ++ v.2
  buffer b := some b.2
  Fits v b := b.1.payload ≠ 0 ∧ b.1.out ≠ 0 ∧ headerBytes + v.2.length ≤ b.2.length ∧
    overlap b.1.uintptrMax b.1.payload v.2.length b.1.out (headerBytes + v.2.length) = false
  encode v b :=
    let r := encode b.1 v.1 v.2 b.2
    (r.error, some r.out)
  decode := decode
  value view := (view.header, view.data.getD [])
  blank := {}

theorem codec_decode : codec.decode = decode := rfl

theorem codec_image (h : Header) (payload : Bytes) :
    codec.image (h, payload) = headerImage h payload.length ++ payload := rfl

theorem decode_error (src : Bytes) : (decode (some src)).1 = decodeError src := by
  unfold decode
  dsimp only
  split_ifs with h
  · rfl
  · exact (not_not.mp h).symm

theorem headerImage_readHeader (h : decodeError src = .none) :
    headerImage (readHeader src) (src.drop headerBytes).length ++ src.drop headerBytes = src ∧
      check (readHeader src) = .none ∧ Sized (src.drop headerBytes) := by
  unfold decodeError at h
  dsimp only at h
  rw [firstError_eq_ok_iff_of_imp] at h
  · simp only [List.forall_mem_cons, decide_eq_false_iff_not, not_not, not_or] at h
    simp only [headerBytes] at h
    obtain ⟨⟨hlen, -⟩, hmagic, ⟨hmajor, hminor⟩, hheader, hflags, ⟨hbytes, hlimit, hcount, hsize⟩,
      hcheck, -⟩ := h
    have hdrop : (src.drop 80).length = (getLe UInt32 20 src).toNat := by
      rw [List.length_drop]
      omega
    have hmajor : putLe (1 : UInt16) = slice 4 2 src := by
      rw [← hmajor]; exact putLe_getLe (by simp; omega)
    have hminor : putLe (0 : UInt16) = slice 6 2 src := by
      rw [← hminor]; exact putLe_getLe (by simp; omega)
    have hheader : putLe (UInt32.ofNat headerBytes) = slice 8 4 src := by
      rw [headerBytes, ← hheader, UInt32.ofNat_toNat]; exact putLe_getLe (by simp; omega)
    have hflags : putLe (0 : UInt32) = slice 12 4 src := by
      rw [← hflags]; exact putLe_getLe (by simp; omega)
    have htotal : putLe (UInt32.ofNat (headerBytes + (src.drop headerBytes).length)) = slice 16 4 src := by
      rw [headerBytes, hdrop, hsize, ← hcount, UInt32.ofNat_toNat]
      exact putLe_getLe (by simp; omega)
    have hpayload : putLe (UInt32.ofNat (src.drop headerBytes).length) = slice 20 4 src := by
      rw [headerBytes, hdrop, UInt32.ofNat_toNat]; exact putLe_getLe (by simp; omega)
    have hsized : Sized (src.drop headerBytes) := by
      rw [Sized, headerBytes, hdrop]
      exact ⟨hbytes, Nat.not_lt.mp hlimit⟩
    refine ⟨?_, hcheck, hsized⟩
    rw [headerImage, hmajor, hminor, hheader, hflags, htotal, hpayload, ← hmagic]
    simp (disch := simp; omega) only [readHeader, putLe_getLe, width_uint64]
    simp (disch := simp) only [slice_append_slice, Nat.reduceAdd]
    exact List.take_append_drop 80 src
  · simp

theorem encodeError_eq_none (pl : Placement) (h : Header) (payload out : Bytes) :
    encodeError pl h payload out = .none ↔
      codec.Fits (h, payload) (pl, out) ∧ check h = .none ∧ Sized payload := by
  rw [encodeError, firstError_eq_ok_iff_of_imp (by simp)]
  simp only [List.forall_mem_cons, decide_eq_false_iff_not, not_not, not_or, codec, Sized]
  constructor
  · rintro ⟨h1, h2, h3, h4, h5, -⟩
    exact ⟨⟨h1.1, h1.2, by omega, h5⟩, h4, h2.1, by omega⟩
  · rintro ⟨⟨h1, h2, h3, h4⟩, h5, h6, h7⟩
    exact ⟨⟨h1, h2⟩, ⟨h6, by omega⟩, by omega, h5, h4, List.forall_mem_nil _⟩

theorem decode_image (h : Header) (payload : Bytes) :
    (decode (some (headerImage h payload.length ++ payload))).1 = .none ↔
      check h = .none ∧ Sized payload := by
  constructor
  · intro hok
    rw [decode_error] at hok
    obtain ⟨-, hcheck, hsized⟩ := headerImage_readHeader hok
    rw [readHeader_headerImage] at hcheck
    rw [List.drop_left' (headerImage_length h _)] at hsized
    exact ⟨hcheck, hsized⟩
  · rintro ⟨hcheck, hsized⟩
    rw [decode_headerImage hcheck hsized]

theorem codec_exact : codec.Exact := by
  refine Codec.Exact.of_valid (fun v => check v.1 = .none ∧ Sized v.2) ?_ ?_ ?_ ?_
  · rintro ⟨h, payload⟩ ⟨pl, out⟩
    have hlen : (codec.image (h, payload)).length = headerBytes + payload.length := by
      simp [codec, headerImage_length]
    have hencode : codec.encode (h, payload) (pl, out) =
        ((encode pl h payload out).error, some (encode pl h payload out).out) := rfl
    rw [hlen, hencode, encode, codec_image]
    by_cases herror : encodeError pl h payload out = .none
    · obtain ⟨hfits, hvalid⟩ := (encodeError_eq_none pl h payload out).mp herror
      rw [if_neg (not_not.mpr herror)]
      exact .inl ⟨hfits, hvalid, out, rfl, rfl⟩
    · rw [if_pos herror]
      exact .inr ⟨fun hvalid => herror ((encodeError_eq_none pl h payload out).mpr hvalid), _, herror, rfl⟩
  · intro src
    cases src with
    | none => exact .inr ⟨.nullBuffer, by decide, rfl⟩
    | some src =>
      by_cases herror : decodeError src = .none
      · exact .inl ⟨src, _, rfl, if_neg (not_not.mpr herror), (headerImage_readHeader herror).1⟩
      · exact .inr ⟨decodeError src, herror, if_pos herror⟩
  · rintro ⟨h, payload⟩
    rw [codec_decode, codec_image]
    exact decode_image h payload
  · rintro ⟨h, payload⟩ hok
    rw [codec_decode, codec_image] at hok ⊢
    obtain ⟨hcheck, hsized⟩ := (decode_image h payload).mp hok
    rw [decode_headerImage hcheck hsized]
    rfl

theorem encode_written (pl : Placement) (h : Header) (payload out : Bytes) :
    (encode pl h payload out).written =
      if (encode pl h payload out).error = .none then headerBytes + payload.length else 0 := by
  by_cases herror : encodeError pl h payload out = .none
  · rw [encode, if_neg (not_not.mpr herror)]
    rfl
  · rw [encode, if_pos herror, if_neg herror]

end Envelope

/-! ## All of them -/

/-- Every codec is exact: its encoder and its decoder are a bijection between the values that are
encoded and the byte strings that are accepted; and what an encoder says it wrote is all it wrote. -/
theorem control_codecs :
    Protocol.codec.Exact ∧ SlotWire.codec.Exact ∧ Slots.keyCodec.Exact ∧ Envelope.codec.Exact ∧
    Set.BijOn Protocol.codec.image {v | ∃ out, (Protocol.codec.encode v out).1 = .none}
      {src | (Protocol.decode (some src)).1 = .none} ∧
    Set.BijOn SlotWire.codec.image {v | ∃ out, (SlotWire.codec.encode v out).1 = .none}
      {src | (SlotWire.decode (some src)).1 = .none} ∧
    Set.BijOn Slots.keyImage {key | ∃ out, (Slots.encodeKey key out).1 = .none}
      {src | (Slots.decodeKey (some src)).1 = .none} ∧
    Set.BijOn Envelope.codec.image {v | ∃ b, (Envelope.codec.encode v b).1 = .none}
      {src | (Envelope.decode (some src)).1 = .none} ∧
    (∀ h payload out, (Protocol.encode h (some payload) payload.length out).written =
      if (Protocol.encode h (some payload) payload.length out).error = .none then
        Protocol.headerBytes + payload.length else 0) ∧
    (∀ h payload out, (SlotWire.encode h (some payload) payload.length out).written =
      if (SlotWire.encode h (some payload) payload.length out).error = .none then
        SlotWire.headerBytes + payload.length else 0) ∧
    ∀ pl h payload out, (Envelope.encode pl h payload out).written =
      if (Envelope.encode pl h payload out).error = .none then
        Envelope.headerBytes + payload.length else 0 := by
  refine ⟨Protocol.codec_exact, SlotWire.codec_exact, Slots.keyCodec_exact, Envelope.codec_exact,
    Protocol.codec_exact.bijOn fun v => ?_, SlotWire.codec_exact.bijOn fun v => ?_,
    Slots.keyCodec_exact.bijOn fun key => ?_, Envelope.codec_exact.bijOn fun v => ?_,
    Protocol.encode_written, SlotWire.encode_written, Envelope.encode_written⟩
  · exact ⟨some (List.replicate (Protocol.headerBytes + v.2.length) 0), _, rfl, by simp⟩
  · exact ⟨some (List.replicate (SlotWire.headerBytes + v.2.length) 0), _, rfl, by simp⟩
  · exact ⟨some (List.replicate Slots.descriptorBytes 0), _, rfl, by simp⟩
  · -- The payload stands at 1, and the output after it.
    refine ⟨(⟨4 * (v.2.length + Envelope.headerBytes) + 4, 1, 1 + v.2.length⟩,
      List.replicate (Envelope.headerBytes + v.2.length) 0), ?_⟩
    refine ⟨Nat.one_ne_zero, by simp, by simp, ?_⟩
    simp only [Envelope.overlap]
    rw [if_neg (by omega)]
    simp

end War3VK.RenderHost
