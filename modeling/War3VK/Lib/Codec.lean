import War3VK.Lib.Bytes
import Mathlib.Data.Set.Function

/-!
# Codecs over buffers

A codec writes values into a caller's buffer and reads them back from a caller's bytes; both ends test
what they are given. It is exact (`Codec.Exact`) when the two ends test the same, so that what one
writes is what the other accepts, byte for byte.
-/

namespace War3VK.Lib

/-- An encoder into buffers `B` of values `V`, and a decoder into views `W`. -/
structure Codec (V W B E : Type) where
  ok : E
  image : V → Bytes
  /-- The bytes of the output buffer, `none` when there is none. -/
  buffer : B → Option Bytes
  Fits : V → B → Prop
  /-- The encoder: the error, and the bytes of the output buffer after the call. -/
  encode : V → B → E × Option Bytes
  /-- The decoder: the error, and the view after the call. -/
  decode : Option Bytes → E × W
  value : W → V
  blank : W

namespace Codec

variable {V W B E : Type}

/-- The two ends of a codec agree. -/
structure Exact (c : Codec V W B E) : Prop where
  /-- A value is encoded exactly when the buffers fit and its bytes would be accepted. -/
  encode_ok_iff : ∀ v b, (c.encode v b).1 = c.ok ↔
    c.Fits v b ∧ (c.decode (some (c.image v))).1 = c.ok
  /-- What is written are the bytes of the value; the rest of the buffer stays. -/
  encode_ok : ∀ v b, (c.encode v b).1 = c.ok → ∃ dst, c.buffer b = some dst ∧
    (c.encode v b).2 = some (c.image v ++ dst.drop (c.image v).length)
  encode_fail : ∀ v b, (c.encode v b).1 ≠ c.ok → (c.encode v b).2 = c.buffer b
  /-- The bytes of a value, when they are accepted, decode to the value. -/
  decode_image : ∀ v, (c.decode (some (c.image v))).1 = c.ok →
    c.value (c.decode (some (c.image v))).2 = v
  /-- Bytes that are accepted are the bytes of the value that they decode to. -/
  image_decode : ∀ src, (c.decode (some src)).1 = c.ok →
    c.image (c.value (c.decode (some src)).2) = src
  decode_fail : ∀ src, (c.decode src).1 ≠ c.ok → (c.decode src).2 = c.blank

variable {c : Codec V W B E}

/-- A codec is exact when both ends accept the same valid values: the encoder those for which the
buffers fit, the decoder their bytes and no others. -/
theorem Exact.of_valid (Valid : V → Prop)
    (hencode : ∀ v b, (c.Fits v b ∧ Valid v ∧ ∃ dst, c.buffer b = some dst ∧
        c.encode v b = (c.ok, some (c.image v ++ dst.drop (c.image v).length))) ∨
      ¬(c.Fits v b ∧ Valid v) ∧ ∃ e, e ≠ c.ok ∧ c.encode v b = (e, c.buffer b))
    (hdecode : ∀ src,
      (∃ bytes w, src = some bytes ∧ c.decode src = (c.ok, w) ∧ c.image (c.value w) = bytes) ∨
      ∃ e, e ≠ c.ok ∧ c.decode src = (e, c.blank))
    (himage : ∀ v, (c.decode (some (c.image v))).1 = c.ok ↔ Valid v)
    (hread : ∀ v, (c.decode (some (c.image v))).1 = c.ok →
      c.value (c.decode (some (c.image v))).2 = v) : c.Exact where
  encode_ok_iff v b := by
    rw [himage]
    rcases hencode v b with ⟨hfits, hvalid, dst, -, heq⟩ |
      ⟨hnot, e, he, heq⟩
    · exact iff_of_true (by rw [heq]) ⟨hfits, hvalid⟩
    · exact iff_of_false (by rw [heq]; exact he) hnot
  encode_ok v b hok := by
    rcases hencode v b with ⟨-, -, dst, hbuffer, heq⟩ | ⟨-, e, he, heq⟩
    · exact ⟨dst, hbuffer, by rw [heq]⟩
    · exact absurd (by rw [heq] at hok; exact hok) he
  encode_fail v b hfail := by
    rcases hencode v b with ⟨-, -, dst, -, heq⟩ | ⟨-, e, -, heq⟩
    · exact absurd (by rw [heq]) hfail
    · rw [heq]
  decode_image := hread
  image_decode src hok := by
    rcases hdecode (some src) with ⟨bytes, w, hsrc, heq, himage⟩ | ⟨e, he, heq⟩
    · rw [heq, himage, Option.some.inj hsrc]
    · exact absurd (by rw [heq] at hok; exact hok) he
  decode_fail src hfail := by
    rcases hdecode src with ⟨bytes, w, -, heq, -⟩ | ⟨e, -, heq⟩
    · exact absurd (by rw [heq]) hfail
    · rw [heq]

/-- An exact codec is a bijection between the values that it encodes, given room, and the byte strings
that it accepts. -/
theorem Exact.bijOn (h : c.Exact) (hroom : ∀ v, ∃ b, c.Fits v b) :
    Set.BijOn c.image {v | ∃ b, (c.encode v b).1 = c.ok}
      {src | (c.decode (some src)).1 = c.ok} := by
  refine ⟨?_, ?_, ?_⟩
  · rintro v ⟨b, hok⟩
    exact ((h.encode_ok_iff v b).mp hok).2
  · -- Values with the same bytes decode to the same.
    rintro v ⟨b, hv⟩ w ⟨b', hw⟩ himage
    have hv := h.decode_image v ((h.encode_ok_iff v b).mp hv).2
    have hw := h.decode_image w ((h.encode_ok_iff w b').mp hw).2
    rw [← hv, ← hw, himage]
  · intro src hsrc
    obtain ⟨b, hfits⟩ := hroom (c.value (c.decode (some src)).2)
    have himage := h.image_decode src hsrc
    exact ⟨_, ⟨b, (h.encode_ok_iff _ _).mpr ⟨hfits, by rw [himage]; exact hsrc⟩⟩, himage⟩

end Codec

end War3VK.Lib
