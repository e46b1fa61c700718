import Mathlib.Data.List.Basic
import Mathlib.Data.List.OfFn
import Mathlib.Tactic.Ring

/-!
# Little-endian words in byte strings

A fixed-width word is written as its bytes, least significant first, and read back from a slice of a
byte string. `LeWord` is the interface of a word type: a width in bytes and a bijection with the numbers
below `256 ^ width`.
-/

namespace War3VK.Lib

/-- A byte string. -/
abbrev Bytes := List UInt8

/-- The `n` bytes of `data` from `offset` on; fewer if `data` ends before. -/
def slice (offset n : ℕ) (data : Bytes) : Bytes := (data.drop offset).take n

variable {offset n : ℕ} {data a b : Bytes}

theorem slice_length (h : offset + n ≤ data.length) : (slice offset n data).length = n := by
  simp only [slice, List.length_take, List.length_drop]
  omega

/-- The slice at the front of an appended string is the first part. -/
theorem slice_append_left (h : a.length = n) : slice 0 n (a ++ b) = a := by
  simp [slice, ← h]

/-- A slice past the first part of an appended string is a slice of the second part. -/
theorem slice_append_right (h : a.length ≤ offset) :
    slice offset n (a ++ b) = slice (offset - a.length) n b := by
  simp [slice, List.drop_append, List.drop_eq_nil_of_le h]

/-- A slice inside the first part of an appended string is a slice of the first part. -/
theorem slice_append_of_le (h : offset + n ≤ a.length) :
    slice offset n (a ++ b) = slice offset n a := by
  simp only [slice]
  rw [List.drop_append_of_le_length (by omega), List.take_append_of_le_length]
  simp only [List.length_drop]
  omega

theorem slice_append_slice {next m : ℕ} (h : next = offset + n) :
    slice offset n data ++ slice next m data = slice offset (n + m) data := by
  subst h
  simp only [slice]
  rw [List.take_add, List.drop_drop]

theorem slice_slice {i m : ℕ} (h : i + m ≤ n) :
    slice i m (slice offset n data) = slice (offset + i) m data := by
  simp only [slice, List.drop_take, List.drop_drop, List.take_take]
  rw [min_eq_left (by omega)]

theorem slice_zero_length (h : data.length = n) : slice 0 n data = data := by
  simp [slice, ← h]

/-- Equal-width blocks laid end to end: the slice at the `i`th place is the `i`th block. -/
theorem slice_flatMap {α : Type} {f : α → Bytes} {w : ℕ} (hf : ∀ x, (f x).length = w) (l : List α)
    (i : ℕ) (h : i < l.length) : slice (i * w) w (l.flatMap f) = f l[i] := by
  induction l generalizing i with
  | nil => simp at h
  | cons x l ih =>
    rw [List.flatMap_cons]
    cases i with
    | zero => simpa using slice_append_left (hf x)
    | succ i =>
      rw [slice_append_right (by rw [hf]; exact Nat.le_mul_of_pos_left _ (by omega)), hf,
        Nat.succ_mul, Nat.add_sub_cancel]
      exact ih i (by simpa using h)

/-- Adjacent slices of one width laid end to end are one slice. -/
theorem flatMap_range_slice (offset k w : ℕ) (data : Bytes) :
    (List.range k).flatMap (fun i => slice (offset + i * w) w data) = slice offset (k * w) data := by
  induction k with
  | zero => simp [slice]
  | succ k ih =>
    rw [List.range_succ, List.flatMap_append, ih, List.flatMap_singleton, slice_append_slice rfl,
      Nat.succ_mul]

/-! ## Numbers -/

/-- The number that little-endian bytes spell. -/
def leValue : Bytes → ℕ
  | [] => 0
  | b :: bs => b.toNat + 256 * leValue bs

/-- The `n` low bytes of a number, least significant first. -/
def leBytes : ℕ → ℕ → Bytes
  | 0, _ => []
  | n + 1, v => UInt8.ofNat v :: leBytes n (v / 256)

@[simp]
theorem leBytes_length (n v : ℕ) : (leBytes n v).length = n := by
  induction n generalizing v with
  | zero => rfl
  | succ n ih => simp [leBytes, ih]

/-- Bytes spell a number below `256` to their count. -/
theorem leValue_lt (bs : Bytes) : leValue bs < 256 ^ bs.length := by
  induction bs with
  | nil => simp [leValue]
  | cons b bs ih =>
    have hb := b.toNat_lt
    simp only [leValue, List.length_cons, pow_succ]
    omega

theorem leValue_leBytes {v : ℕ} (h : v < 256 ^ n) : leValue (leBytes n v) = v := by
  induction n generalizing v with
  | zero => simp at h; simp [leBytes, leValue, h]
  | succ n ih =>
    have hdiv : v / 256 < 256 ^ n := by rw [pow_succ] at h; omega
    simp only [leBytes, leValue, ih hdiv, UInt8.toNat_ofNat']
    omega

/-- Writing the number that bytes spell gives the bytes back. -/
theorem leBytes_leValue (bs : Bytes) : leBytes bs.length (leValue bs) = bs := by
  induction bs with
  | nil => rfl
  | cons b bs ih =>
    have hb := b.toNat_lt
    have hdiv : (b.toNat + 256 * leValue bs) / 256 = leValue bs := by omega
    have hlow : UInt8.ofNat (b.toNat + 256 * leValue bs) = b := by
      apply UInt8.toNat_inj.mp
      rw [UInt8.toNat_ofNat']
      omega
    simp only [List.length_cons, leValue, leBytes, hdiv, ih, hlow]

/-! ## Words -/

/-- A word type of `width` bytes: a bijection with the numbers below `256 ^ width`. -/
class LeWord (W : Type) where
  width : ℕ
  toNat : W → ℕ
  ofNat : ℕ → W
  toNat_lt : ∀ w, toNat w < 256 ^ width
  ofNat_toNat : ∀ w, ofNat (toNat w) = w
  toNat_ofNat : ∀ n, n < 256 ^ width → toNat (ofNat n) = n

/-- One byte. -/
instance : LeWord UInt8 where
  width := 1
  toNat := UInt8.toNat
  ofNat := UInt8.ofNat
  toNat_lt w := w.toNat_lt
  ofNat_toNat _ := UInt8.ofNat_toNat
  toNat_ofNat _ h := UInt8.toNat_ofNat_of_lt' h

/-- Two bytes. -/
instance : LeWord UInt16 where
  width := 2
  toNat := UInt16.toNat
  ofNat := UInt16.ofNat
  toNat_lt w := w.toNat_lt
  ofNat_toNat _ := UInt16.ofNat_toNat
  toNat_ofNat _ h := UInt16.toNat_ofNat_of_lt' h

/-- Four bytes. -/
instance : LeWord UInt32 where
  width := 4
  toNat := UInt32.toNat
  ofNat := UInt32.ofNat
  toNat_lt w := w.toNat_lt
  ofNat_toNat _ := UInt32.ofNat_toNat
  toNat_ofNat _ h := UInt32.toNat_ofNat_of_lt' h

/-- Eight bytes. -/
instance : LeWord UInt64 where
  width := 8
  toNat := UInt64.toNat
  ofNat := UInt64.ofNat
  toNat_lt w := w.toNat_lt
  ofNat_toNat _ := UInt64.ofNat_toNat
  toNat_ofNat _ h := UInt64.toNat_ofNat_of_lt' h

@[simp] theorem width_uint8 : LeWord.width UInt8 = 1 := rfl
@[simp] theorem width_uint16 : LeWord.width UInt16 = 2 := rfl
@[simp] theorem width_uint32 : LeWord.width UInt32 = 4 := rfl
@[simp] theorem width_uint64 : LeWord.width UInt64 = 8 := rfl

variable {W : Type} [LeWord W]

/-- The bytes of a word. -/
def putLe (w : W) : Bytes := leBytes (LeWord.width W) (LeWord.toNat w)

/-- The word at an offset. -/
def getLe (W : Type) [LeWord W] (offset : ℕ) (data : Bytes) : W :=
  LeWord.ofNat (leValue (slice offset (LeWord.width W) data))

@[simp]
theorem putLe_length (w : W) : (putLe w).length = LeWord.width W := leBytes_length _ _

/-- A word whose bytes stand at an offset is read there. -/
theorem getLe_of_slice {w : W} (h : slice offset (LeWord.width W) data = putLe w) :
    getLe W offset data = w := by
  rw [getLe, h, putLe, leValue_leBytes (LeWord.toNat_lt w), LeWord.ofNat_toNat]

/-- The bytes of the word that was read are the bytes it was read from. -/
theorem putLe_getLe (h : offset + LeWord.width W ≤ data.length) :
    putLe (getLe W offset data) = slice offset (LeWord.width W) data := by
  have hlen := slice_length h
  have hlt := leValue_lt (slice offset (LeWord.width W) data)
  rw [hlen] at hlt
  have hback := leBytes_leValue (slice offset (LeWord.width W) data)
  rw [hlen] at hback
  rw [putLe, getLe, LeWord.toNat_ofNat _ hlt, hback]

theorem getLe_append_left (w : W) (rest : Bytes) : getLe W 0 (putLe w ++ rest) = w :=
  getLe_of_slice (slice_append_left (putLe_length w))

/-- Past the first part of an appended string, words are read from the second part. -/
theorem getLe_append_right (h : a.length ≤ offset) :
    getLe W offset (a ++ b) = getLe W (offset - a.length) b := by
  rw [getLe, slice_append_right h]
  rfl

/-! ## Writing into a string -/

/-- Bytes are written at an offset. -/
def overwrite (offset : ℕ) (bytes data : Bytes) : Bytes :=
  data.take offset ++ bytes ++ data.drop (offset + bytes.length)

variable {bytes : Bytes}

theorem overwrite_length (h : offset + bytes.length ≤ data.length) :
    (overwrite offset bytes data).length = data.length := by
  simp only [overwrite, List.length_append, List.length_take, List.length_drop]
  omega

theorem slice_overwrite_self (h : offset + bytes.length ≤ data.length) :
    slice offset bytes.length (overwrite offset bytes data) = bytes := by
  have htake : (data.take offset).length = offset := by
    rw [List.length_take]
    omega
  rw [overwrite, List.append_assoc, slice_append_right (Nat.le_of_eq htake), htake, Nat.sub_self,
    slice_append_left rfl]

theorem slice_overwrite_of_disjoint {o : ℕ} (h : offset + bytes.length ≤ data.length)
    (hdisjoint : o + n ≤ offset ∨ offset + bytes.length ≤ o) :
    slice o n (overwrite offset bytes data) = slice o n data := by
  have htake : (data.take offset).length = offset := by
    rw [List.length_take]
    omega
  rw [overwrite]
  obtain hbefore | hbehind := hdisjoint
  · -- The slice lies in what was taken.
    rw [List.append_assoc, slice_append_of_le (by omega), slice, slice, List.drop_take,
      List.take_take, min_eq_left (by omega)]
  · -- The slice lies in what was left.
    rw [slice_append_right (by rw [List.length_append]; omega), slice, slice, List.drop_drop,
      List.length_append, htake]
    congr 2
    omega

theorem getLe_overwrite_self {w : W} (h : offset + LeWord.width W ≤ data.length) :
    getLe W offset (overwrite offset (putLe w) data) = w := by
  apply getLe_of_slice
  rw [← putLe_length w] at h ⊢
  exact slice_overwrite_self h

theorem getLe_overwrite_of_disjoint {o : ℕ} (h : offset + bytes.length ≤ data.length)
    (hdisjoint : o + LeWord.width W ≤ offset ∨ offset + bytes.length ≤ o) :
    getLe W o (overwrite offset bytes data) = getLe W o data := by
  rw [getLe, slice_overwrite_of_disjoint h hdisjoint, getLe]

/-! ## Writing several pieces -/

/-- A piece: the place where it is written, and its bytes. -/
abbrev Piece := ℕ × Bytes

/-- Pieces are written one after the other. -/
def overwriteAll (pieces : List Piece) (data : Bytes) : Bytes :=
  pieces.foldl (fun data piece => overwrite piece.1 piece.2 data) data

/-- Each piece ends before the later ones begin. -/
def Ordered (pieces : List Piece) : Prop :=
  pieces.Pairwise fun a b => a.1 + a.2.length ≤ b.1

/-- The pieces end inside a string of this length. -/
def Inside (n : ℕ) (pieces : List Piece) : Prop := ∀ piece ∈ pieces, piece.1 + piece.2.length ≤ n

variable {pieces : List Piece}

theorem overwriteAll_length (h : Inside data.length pieces) :
    (overwriteAll pieces data).length = data.length := by
  induction pieces generalizing data with
  | nil => rfl
  | cons piece pieces ih =>
    have hlen := overwrite_length (h piece (by simp))
    rw [overwriteAll, List.foldl_cons, ← overwriteAll, ih, hlen]
    intro other hother
    rw [hlen]
    exact h other (by simp [hother])

theorem slice_overwriteAll_of_disjoint {o : ℕ} (h : Inside data.length pieces)
    (hdisjoint : ∀ piece ∈ pieces, o + n ≤ piece.1 ∨ piece.1 + piece.2.length ≤ o) :
    slice o n (overwriteAll pieces data) = slice o n data := by
  induction pieces generalizing data with
  | nil => rfl
  | cons piece pieces ih =>
    have hpiece := h piece (by simp)
    have hrest : Inside (overwrite piece.1 piece.2 data).length pieces := by
      intro other hother
      rw [overwrite_length hpiece]
      exact h other (by simp [hother])
    rw [overwriteAll, List.foldl_cons, ← overwriteAll,
      ih hrest (fun other hother => hdisjoint other (by simp [hother])),
      slice_overwrite_of_disjoint hpiece (hdisjoint piece (by simp))]

/-- Where the pieces are in order, each of them is found at its place. -/
theorem slice_overwriteAll_of_mem (h : Inside data.length pieces) (hordered : Ordered pieces)
    {piece : Piece} (hpiece : piece ∈ pieces) :
    slice piece.1 piece.2.length (overwriteAll pieces data) = piece.2 := by
  induction pieces generalizing data with
  | nil => simp at hpiece
  | cons first pieces ih =>
    obtain ⟨hfirst, hordered⟩ := List.pairwise_cons.mp hordered
    have hinside := h first (by simp)
    have hrest : Inside (overwrite first.1 first.2 data).length pieces := by
      intro other hother
      rw [overwrite_length hinside]
      exact h other (by simp [hother])
    rw [overwriteAll, List.foldl_cons, ← overwriteAll]
    obtain rfl | hpiece := List.mem_cons.mp hpiece
    · -- The later pieces leave the first one alone.
      rw [slice_overwriteAll_of_disjoint hrest fun other hother => .inl (hfirst other hother),
        slice_overwrite_self hinside]
    · exact ih hrest hordered hpiece

/-! ## Arrays of words -/

/-- The bytes of an array of words, in index order. -/
def putArray {k : ℕ} (v : Vector W k) : Bytes := v.toList.flatMap putLe

/-- The array of `k` words from an offset on. -/
def getArray (W : Type) [LeWord W] (k offset : ℕ) (data : Bytes) : Vector W k :=
  Vector.ofFn fun j => getLe W (offset + j * LeWord.width W) data

variable {k : ℕ}

/-- An array is written in its count times the width. -/
@[simp]
theorem putArray_length (v : Vector W k) : (putArray v).length = k * LeWord.width W := by
  simp [putArray]

theorem getArray_append_left (v : Vector W k) (rest : Bytes) :
    getArray W k 0 (putArray v ++ rest) = v := by
  ext j hj
  have hle : j * LeWord.width W + LeWord.width W ≤ k * LeWord.width W := by
    rw [← Nat.succ_mul]; exact Nat.mul_le_mul_right _ hj
  simp only [getArray, Vector.getElem_ofFn, Nat.zero_add]
  apply getLe_of_slice
  rw [slice_append_of_le (by rw [putArray_length]; exact hle), putArray,
    slice_flatMap putLe_length _ _ (by simpa using hj)]
  simp

/-- Past the first part of an appended string, arrays are read from the second part. -/
theorem getArray_append_right (h : a.length ≤ offset) :
    getArray W k offset (a ++ b) = getArray W k (offset - a.length) b := by
  ext j hj
  simp only [getArray, Vector.getElem_ofFn]
  rw [getLe_append_right (by omega), Nat.sub_add_comm h]

/-- The bytes of the array that was read are the bytes it was read from. -/
theorem putArray_getArray (h : offset + k * LeWord.width W ≤ data.length) :
    putArray (getArray W k offset data) = slice offset (k * LeWord.width W) data := by
  have hword : ∀ i ∈ List.range k, putLe (getLe W (offset + i * LeWord.width W) data) =
      slice (offset + i * LeWord.width W) (LeWord.width W) data := by
    intro i hi
    have hle : i * LeWord.width W + LeWord.width W ≤ k * LeWord.width W := by
      rw [← Nat.succ_mul]; exact Nat.mul_le_mul_right _ (List.mem_range.mp hi)
    exact putLe_getLe (by omega)
  have hlist : (getArray W k offset data).toList =
      (List.range k).map fun i => getLe W (offset + i * LeWord.width W) data := by
    apply List.ext_getElem <;> simp [getArray]
  rw [putArray, hlist, List.flatMap_map, ← flatMap_range_slice]
  exact List.flatMap_congr hword

/-- The words of a list are read where its bytes stand. -/
theorem map_range_getLe {l : List W}
    (h : slice offset (LeWord.width W * l.length) data = l.flatMap putLe) :
    ((List.range l.length).map fun i => getLe W (offset + LeWord.width W * i) data) = l := by
  apply List.ext_getElem
  · simp
  · intro i hi hi'
    rw [List.getElem_map, List.getElem_range]
    have hle : LeWord.width W * i + LeWord.width W ≤ LeWord.width W * l.length := by
      rw [← Nat.mul_succ]
      exact Nat.mul_le_mul_left _ hi'
    apply getLe_of_slice
    rw [← slice_slice hle, h, Nat.mul_comm, slice_flatMap putLe_length l i hi']

theorem putArray_uint8 (v : Vector UInt8 k) : putArray v = v.toList := by
  have hb : ∀ b : UInt8, putLe b = [b] := by
    intro b
    simp [putLe, leBytes, LeWord.toNat]
  rw [putArray, funext hb, List.flatMap_singleton']

end War3VK.Lib
