import Mathlib.Data.List.Pairwise
import War3VK.Lib.Walk

/-!
# The relocated hook prefix

Before the bytes of a loaded module are patched they are compared with those of its file, as the loader
relocates them (`src/d3d9/war3/model/war3_native_light_core.h`, `RelocatedEntry`). Words of the file are
of 32 bits, and their sums and differences wrap. A `size_t` of the process has 32 bits, so a file has fewer
than `2 ^ 32` bytes. A file whose check is `rejected` has the result `false`.
-/

namespace War3VK.Model.RelocatedEntry

open Lib

structure FileImage where
  bytes : Bytes
  /-- The size is a `size_t`. -/
  size_lt : bytes.length < 2 ^ 32

/-- `offset`: the position of an address in the file, from a section on. -/
def offsetFrom (file : FileImage) (start address bytes : UInt32) : ℕ → ℕ → Except Stop ℕ
  | 0, _ => .error .rejected
  | left + 1, i => do
    let size := file.bytes.length
    let s := start + UInt32.ofNat i * 40
    let va ← readWord UInt32 (s + 12).toNat file.bytes
    let raw ← readWord UInt32 (s + 16).toNat file.bytes
    let pos ← readWord UInt32 (s + 20).toNat file.bytes
    if va ≤ address ∧ address - va ≤ raw ∧ bytes ≤ raw - (address - va) ∧ pos.toNat ≤ size ∧
        (address - va).toNat ≤ size - pos.toNat ∧
        bytes.toNat ≤ size - pos.toNat - (address - va).toNat then
      .ok (pos + (address - va)).toNat
    else offsetFrom file start address bytes left (i + 1)

structure Sections where
  /-- `sections`. -/
  count : ℕ
  start : UInt32

/-- `offset`. -/
def Sections.offset (sections : Sections) (file : FileImage) (address bytes : UInt32) :
    Except Stop ℕ :=
  offsetFrom file sections.start address bytes sections.count 0

def put (rva a : ℕ) (byte : UInt8) (out : Bytes) : Bytes :=
  if rva ≤ a ∧ a < rva + 8 then out.set (a - rva) byte else out

def splice (rva target : ℕ) (adjusted : UInt32) (out : Bytes) : Bytes :=
  (putLe adjusted).zipIdx.foldl (fun out byte => put rva (target + byte.2) byte.1 out) out

def relocRecord (file : FileImage) (sections : Sections) (delta rva page : UInt32) (p : ℕ)
    (out : Bytes) : Except Stop (ℕ × Bytes) := do
  let record ← readWord UInt16 p file.bytes
  let type := record >>> 12
  let low := (record &&& 4095).toUInt32
  if type = 0 then pure (p + 2, out)
  else if type ≠ 3 ∨ page > UInt32.ofNat (2 ^ 32 - 1) - low then .error .rejected
  else
    let target := page + low
    if target.toNat + 4 ≤ rva.toNat ∨ target ≥ rva + 8 then pure (p + 2, out)
    else do
      let raw ← sections.offset file target 4
      let word ← readWord UInt32 raw file.bytes
      pure (p + 2, splice rva.toNat target.toNat (word + delta) out)

def relocBlock (file : FileImage) (sections : Sections) (delta rva : UInt32) (stop reloc : ℕ)
    (out : Bytes) : Except Stop (ℕ × Bytes) := do
  expect (8 ≤ stop - reloc)
  let page ← readWord UInt32 reloc file.bytes
  let length ← readWord UInt32 (reloc + 4) file.bytes
  expect (8 ≤ length.toNat && length.toNat ≤ stop - reloc && length.toNat % 2 = 0)
  let out ← scan (reloc + length.toNat) (relocRecord file sections delta rva page) (reloc + 8) out
  pure (reloc + length.toNat, out)

/-- The headers, up to the sections: `opt` and the sections. -/
def readHeaders (file : FileImage) : Except Stop (UInt32 × Sections) := do
  let size := file.bytes.length
  expect (0x100 ≤ size)
  let mz ← readWord UInt16 0 file.bytes
  expect (mz = 0x5a4d)
  let pe ← readWord UInt32 0x3c file.bytes
  expect (pe.toNat ≤ size - 0x100)
  let signature ← readWord UInt32 pe.toNat file.bytes
  let machine ← readWord UInt16 (pe + 4).toNat file.bytes
  let kind ← readWord UInt16 (pe + 24).toNat file.bytes
  expect (signature = 0x4550 && machine = 0x14c && kind = 0x10b)
  let count ← readWord UInt16 (pe + 6).toNat file.bytes
  let optional ← readWord UInt16 (pe + 20).toNat file.bytes
  let start := pe + 24 + optional.toUInt32
  expect (count ≠ 0 && count ≤ 96 && start.toNat ≤ size && count.toNat * 40 ≤ size - start.toNat)
  pure (pe + 24, ⟨count.toNat, start⟩)

/-- `RelocatedEntry`. -/
def relocatedEntry (file : FileImage) (actualBase rva : UInt32) : Except Stop Bytes := do
  let (opt, sections) ← readHeaders file
  let preferred ← readWord UInt32 (opt + 28).toNat file.bytes
  let directories ← readWord UInt32 (opt + 92).toNat file.bytes
  expect (6 ≤ directories && rva ≤ UInt32.ofNat (2 ^ 32 - 1) - 8)
  let entry ← sections.offset file rva 8
  let out ← readRange entry 8 file.bytes
  let relocRva ← readWord UInt32 (opt + 96 + 5 * 8).toNat file.bytes
  let relocSize ← readWord UInt32 (opt + 100 + 5 * 8).toNat file.bytes
  expect (relocRva ≠ 0 && 8 ≤ relocSize)
  let reloc ← sections.offset file relocRva relocSize
  let stop := reloc + relocSize.toNat
  scan stop (relocBlock file sections (actualBase - preferred) rva stop) reloc out

end War3VK.Model.RelocatedEntry

/-!
## The prefix is that of the loaded image

The loader copies the sections to their addresses and adds the difference of the bases to every word
that the directory names.
-/

namespace War3VK.Model.RelocatedEntry

open Lib

/-! ### The image -/

structure Section where
  va : ℕ
  raw : ℕ
  pos : ℕ

def Section.has (s : Section) (a : ℕ) : Bool := s.va ≤ a && a < s.va + s.raw

def Section.Apart (s t : Section) : Prop := s.va + s.raw ≤ t.va ∨ t.va + t.raw ≤ s.va

def sectionAt (data : Bytes) (p : ℕ) : Section where
  va := (getLe UInt32 (p + 12) data).toNat
  raw := (getLe UInt32 (p + 16) data).toNat
  pos := (getLe UInt32 (p + 20) data).toNat

def Sections.list (sections : Sections) (data : Bytes) : List Section :=
  (List.range sections.count).map fun i => sectionAt data (sections.start.toNat + 40 * i)

def positionOf (sections : List Section) (a : ℕ) : ℕ :=
  match sections.find? (·.has a) with
  | some s => s.pos + (a - s.va)
  | none => 0

def loaded (data : Bytes) (sections : List Section) (a : ℕ) : UInt8 :=
  match sections.find? (·.has a) with
  | some s => data.getD (s.pos + (a - s.va)) 0
  | none => 0

def wordAt (mem : ℕ → UInt8) (a : ℕ) : UInt32 :=
  LeWord.ofNat (leValue [mem a, mem (a + 1), mem (a + 2), mem (a + 3)])

def relocate (delta : UInt32) (mem : ℕ → UInt8) (target : ℕ) (a : ℕ) : UInt8 :=
  if target ≤ a ∧ a < target + 4 then (putLe (wordAt mem target + delta)).getD (a - target) 0
  else mem a

/-- The address of a `HIGHLOW` record. -/
def highLowTarget (page : UInt32) (record : UInt16) : Option ℕ :=
  if record >>> 12 = 3 then some (page.toNat + (record &&& 4095).toNat) else none

def recordTarget (data : Bytes) (p i : ℕ) : Option ℕ :=
  highLowTarget (getLe UInt32 p data) (getLe UInt16 (p + 8 + 2 * i) data)

def blockTargets (data : Bytes) (p : ℕ) : List ℕ :=
  (List.range (((getLe UInt32 (p + 4) data).toNat - 8) / 2)).filterMap (recordTarget data p)

def directoryTargets (data : Bytes) (stop p : ℕ) : List ℕ :=
  if h : p < stop ∧ 8 ≤ (getLe UInt32 (p + 4) data).toNat then
    blockTargets data p ++ directoryTargets data stop (p + (getLe UInt32 (p + 4) data).toNat)
  else []
  termination_by stop - p
  decreasing_by omega

def WordsApart (t u : ℕ) : Prop := t + 4 ≤ u ∨ u + 4 ≤ t

variable {mem : ℕ → UInt8} {delta : UInt32} {data : Bytes} {target a : ℕ}

theorem relocate_of_apart (h : a < target ∨ target + 4 ≤ a) : relocate delta mem target a = mem a :=
  if_neg (by omega)

variable {targets : List ℕ} {out : Bytes}

theorem foldl_relocate_of_apart (h : ∀ t ∈ targets, a < t ∨ t + 4 ≤ a) :
    targets.foldl (relocate delta) mem a = mem a := by
  induction targets generalizing mem with
  | nil => rfl
  | cons t targets ih =>
    rw [List.foldl_cons, ih fun u hu => h u (List.mem_cons_of_mem _ hu)]
    exact relocate_of_apart (h t (List.mem_cons_self ..))

theorem wordAt_foldl (h : ∀ t ∈ targets, WordsApart t target) :
    wordAt (targets.foldl (relocate delta) mem) target = wordAt mem target := by
  have hbyte (j : ℕ) (hj : j < 4) :
      targets.foldl (relocate delta) mem (target + j) = mem (target + j) :=
    foldl_relocate_of_apart fun t ht => by
      have hapart := h t ht
      unfold WordsApart at hapart
      omega
  unfold wordAt
  rw [hbyte 1 (by decide), hbyte 2 (by decide), hbyte 3 (by decide), ← Nat.add_zero target,
    hbyte 0 (by decide), Nat.add_zero]

/-! ### The window -/

theorem getElem?_put {rva : ℕ} {byte : UInt8} {k : ℕ} (hlength : out.length = 8) (hk : k < 8) :
    (put rva a byte out)[k]? = if a = rva + k then some byte else out[k]? := by
  unfold put
  split
  · rw [List.getElem?_set]
    by_cases heq : a = rva + k
    · rw [if_pos heq, if_pos (by omega), if_pos (by omega)]
    · rw [if_neg heq, if_neg (by omega)]
  · rw [if_neg (by omega)]

theorem length_put {rva : ℕ} {byte : UInt8} : (put rva a byte out).length = out.length := by
  unfold put
  split
  · exact List.length_set
  · rfl

theorem putLe_eq (w : UInt32) : putLe w = [UInt8.ofNat w.toNat, UInt8.ofNat (w.toNat / 256),
    UInt8.ofNat (w.toNat / 256 / 256), UInt8.ofNat (w.toNat / 256 / 256 / 256)] := rfl

structure Window (rva : ℕ) (mem : ℕ → UInt8) (out : Bytes) : Prop where
  length : out.length = 8
  byte : ∀ k < 8, out[k]? = some (mem (rva + k))

theorem Window.eq_map {rva : ℕ} (h : Window rva mem out) :
    out = (List.range 8).map fun k => mem (rva + k) := by
  apply List.ext_getElem?
  intro k
  by_cases hk : k < 8
  · rw [h.byte k hk, List.getElem?_map, List.getElem?_range hk, Option.map_some]
  · rw [List.getElem?_eq_none (by rw [h.length]; omega),
      List.getElem?_eq_none (by rw [List.length_map, List.length_range]; omega)]

theorem Window.splice {rva : ℕ} {w : UInt32} (h : Window rva mem out) (hw : w = wordAt mem target) :
    Window rva (relocate delta mem target) (splice rva target (w + delta) out) := by
  unfold RelocatedEntry.splice
  rw [putLe_eq]
  simp only [List.zipIdx_cons, List.zipIdx_nil, List.foldl_cons, List.foldl_nil, Nat.zero_add, Nat.add_zero]
  refine ⟨by simp only [length_put, h.length], fun k hk => ?_⟩
  rw [getElem?_put (by simp only [length_put, h.length]) hk,
    getElem?_put (by simp only [length_put, h.length]) hk,
    getElem?_put (by simp only [length_put, h.length]) hk, getElem?_put h.length hk, h.byte k hk]
  unfold relocate
  rw [← hw, putLe_eq]
  by_cases hin : target ≤ rva + k ∧ rva + k < target + 4
  · rw [if_pos hin]
    obtain heq | heq | heq | heq : rva + k = target ∨ rva + k = target + 1 ∨
        rva + k = target + 2 ∨ rva + k = target + 3 := by omega
    all_goals
      rw [heq]
      simp
  · rw [if_neg hin, if_neg (by omega), if_neg (by omega), if_neg (by omega), if_neg (by omega)]

theorem Window.relocate {rva : ℕ} (h : Window rva mem out)
    (hout : target + 4 ≤ rva ∨ rva + 8 ≤ target) : Window rva (relocate delta mem target) out where
  length := h.length
  byte k hk := by rw [h.byte k hk, relocate_of_apart (by omega)]

/-! ### Positions in the file -/

structure Section.Holds (s : Section) (size a n : ℕ) : Prop where
  begins : s.va ≤ a
  ends : a + n ≤ s.va + s.raw
  inside : s.pos + (a - s.va) + n ≤ size

def Sections.Inside (sections : Sections) (file : FileImage) : Prop :=
  sections.start.toNat + 40 * sections.count ≤ file.bytes.length

variable {file : FileImage} {sections : Sections} {address bytes : UInt32}

theorem toNat_field (start : UInt32) (i : ℕ) (field : UInt32) (n : ℕ) (hn : field.toNat = n)
    (h : start.toNat + 40 * i + n < 2 ^ 32) :
    (start + UInt32.ofNat i * 40 + field).toNat = start.toNat + 40 * i + n := by
  have hi : (UInt32.ofNat i).toNat = i := by
    rw [UInt32.toNat_ofNat', Nat.mod_eq_of_lt (by omega)]
  have hforty : (40 : UInt32).toNat = 40 := rfl
  rw [UInt32.toNat_add, UInt32.toNat_add, UInt32.toNat_mul, hi, hn, hforty]
  omega

theorem holds_iff {va raw pos : UInt32} {size : ℕ} :
    (va ≤ address ∧ address - va ≤ raw ∧ bytes ≤ raw - (address - va) ∧ pos.toNat ≤ size ∧
      (address - va).toNat ≤ size - pos.toNat ∧
      bytes.toNat ≤ size - pos.toNat - (address - va).toNat) ↔
      Section.Holds ⟨va.toNat, raw.toNat, pos.toNat⟩ size address.toNat bytes.toNat := by
  have hsub (hva : va ≤ address) : (address - va).toNat = address.toNat - va.toNat :=
    UInt32.toNat_sub_of_le _ _ hva
  constructor
  · rintro ⟨hva, hraw, hbytes, hpos, hsize, hroom⟩
    rw [UInt32.le_iff_toNat_le] at hbytes
    rw [UInt32.toNat_sub_of_le _ _ hraw] at hbytes
    rw [UInt32.le_iff_toNat_le] at hva hraw
    rw [hsub (UInt32.le_iff_toNat_le.mpr hva)] at hraw hbytes hsize hroom
    exact ⟨hva, by dsimp only; omega, by dsimp only; omega⟩
  · rintro ⟨hva, hends, hinside⟩
    dsimp only at hva hends hinside
    have hva' := UInt32.le_iff_toNat_le.mpr hva
    have hraw : address - va ≤ raw := by
      rw [UInt32.le_iff_toNat_le, hsub hva']
      omega
    refine ⟨hva', hraw, ?_, by omega, ?_, ?_⟩
    · rw [UInt32.le_iff_toNat_le, UInt32.toNat_sub_of_le _ _ hraw, hsub hva']
      omega
    · rw [hsub hva']
      omega
    · rw [hsub hva']
      omega

theorem safe_offsetFrom {start : UInt32} {left i : ℕ}
    (h : start.toNat + 40 * (i + left) ≤ file.bytes.length) :
    Safe (offsetFrom file start address bytes left i) := by
  have hsize := file.size_lt
  induction left generalizing i with
  | zero => exact fun h => by cases h
  | succ left ih =>
    rw [offsetFrom]
    refine (safe_readWord ?_).bind fun _ _ => (safe_readWord ?_).bind fun _ _ =>
      (safe_readWord ?_).bind fun _ _ => ?_
    · rw [toNat_field start i 12 12 rfl (by omega), width_uint32]
      omega
    · rw [toNat_field start i 16 16 rfl (by omega), width_uint32]
      omega
    · rw [toNat_field start i 20 20 rfl (by omega), width_uint32]
      omega
    · split
      · exact safe_ok _
      · exact ih (by omega)

theorem offsetFrom_eq_ok {start : UInt32} {left i r : ℕ}
    (h : start.toNat + 40 * (i + left) ≤ file.bytes.length)
    (hok : offsetFrom file start address bytes left i = .ok r) :
    ∃ j < left, (sectionAt file.bytes (start.toNat + 40 * (i + j))).Holds file.bytes.length
      address.toNat bytes.toNat ∧
      r = (sectionAt file.bytes (start.toNat + 40 * (i + j))).pos +
        (address.toNat - (sectionAt file.bytes (start.toNat + 40 * (i + j))).va) := by
  have hsize := file.size_lt
  induction left generalizing i with
  | zero => cases hok
  | succ left ih =>
    rw [offsetFrom] at hok
    simp only [bind_eq_ok, readWord_eq_ok] at hok
    obtain ⟨va, ⟨-, hva⟩, raw, ⟨-, hraw⟩, pos, ⟨-, hpos⟩, hok⟩ := hok
    have hsection : sectionAt file.bytes (start.toNat + 40 * i) = ⟨va.toNat, raw.toNat, pos.toNat⟩ := by
      unfold sectionAt
      rw [← hva, ← hraw, ← hpos]
      exact congr (congr (congrArg Section.mk
        (by rw [← toNat_field start i 12 12 rfl (by omega)]))
        (by rw [← toNat_field start i 16 16 rfl (by omega)]))
        (by rw [← toNat_field start i 20 20 rfl (by omega)])
    split at hok
    · rename_i htest
      have hholds := holds_iff.mp htest
      refine ⟨0, by omega, ?_, ?_⟩
      · rw [Nat.add_zero, hsection]
        exact hholds
      · rw [Nat.add_zero, hsection]
        cases hok
        have hinside := hholds.inside
        have hbegins := hholds.begins
        dsimp only at hinside hbegins
        rw [UInt32.toNat_add, UInt32.toNat_sub_of_le _ _ (UInt32.le_iff_toNat_le.mpr hbegins),
          Nat.mod_eq_of_lt (by omega)]
    · obtain ⟨j, hj, hfound⟩ := ih (i := i + 1) (by omega) hok
      refine ⟨j + 1, by omega, ?_⟩
      rwa [Nat.add_assoc, Nat.add_comm 1 j] at hfound

theorem Sections.Inside.offset (h : sections.Inside file) {r : ℕ}
    (hok : sections.offset file address bytes = .ok r) :
    ∃ s ∈ sections.list file.bytes, s.Holds file.bytes.length address.toNat bytes.toNat ∧
      r = s.pos + (address.toNat - s.va) := by
  have htable : sections.start.toNat + 40 * (0 + sections.count) ≤ file.bytes.length := by
    rw [Nat.zero_add]
    exact h
  obtain ⟨j, hj, hfound⟩ := offsetFrom_eq_ok htable hok
  rw [Nat.zero_add] at hfound
  exact ⟨_, List.mem_map.mpr ⟨j, List.mem_range.mpr hj, rfl⟩, hfound⟩

theorem Sections.Inside.safe_offset (h : sections.Inside file) :
    Safe (sections.offset file address bytes) :=
  safe_offsetFrom (by rw [Nat.zero_add]; exact h)

variable {s : Section} {page rva : UInt32} {p p' : ℕ} {out' : Bytes}

theorem find_of_mem {list : List Section} (hapart : list.Pairwise Section.Apart) (hs : s ∈ list)
    (hhas : s.has a = true) : list.find? (·.has a) = some s := by
  cases hfind : list.find? (·.has a) with
  | none => exact absurd hhas (List.find?_eq_none.mp hfind s hs)
  | some t =>
    have ht := List.find?_some hfind
    have hmem := List.mem_of_find?_eq_some hfind
    refine congrArg some ?_
    by_contra hne
    have hsymm : Std.Symm Section.Apart := ⟨fun _ _ h => h.symm⟩
    have htwo := hapart.forall hmem hs hne
    unfold Section.has at hhas ht
    unfold Section.Apart at htwo
    simp only [Bool.and_eq_true, decide_eq_true_eq] at hhas ht
    omega

theorem Section.Holds.has {size n k : ℕ} (h : s.Holds size a n) (hk : k < n) :
    s.has (a + k) = true := by
  have hbegins := h.begins
  have hends := h.ends
  unfold Section.has
  rw [Bool.and_eq_true, decide_eq_true_eq, decide_eq_true_eq]
  omega

theorem Section.Holds.loaded {list : List Section} (hapart : list.Pairwise Section.Apart)
    (hs : s ∈ list) {n k : ℕ} (h : s.Holds data.length a n) (hk : k < n) :
    data[s.pos + (a - s.va) + k]? = some (loaded data list (a + k)) := by
  have hbegins := h.begins
  have hinside := h.inside
  have hposition : s.pos + (a + k - s.va) = s.pos + (a - s.va) + k := by omega
  unfold RelocatedEntry.loaded
  rw [find_of_mem hapart hs (h.has hk)]
  dsimp only
  rw [hposition, List.getD_eq_getElem?_getD, List.getElem?_eq_getElem (by omega), Option.getD_some]

theorem Section.Holds.wordAt {list : List Section} (hapart : list.Pairwise Section.Apart)
    (hs : s ∈ list) (h : s.Holds data.length a 4) :
    getLe UInt32 (s.pos + (a - s.va)) data = wordAt (RelocatedEntry.loaded data list) a := by
  have hslice : slice (s.pos + (a - s.va)) 4 data = [RelocatedEntry.loaded data list a,
      RelocatedEntry.loaded data list (a + 1), RelocatedEntry.loaded data list (a + 2),
      RelocatedEntry.loaded data list (a + 3)] := by
    apply List.ext_getElem?
    intro k
    unfold slice
    rw [List.getElem?_take]
    split
    · rename_i hk
      rw [List.getElem?_drop, h.loaded hapart hs hk]
      obtain rfl | rfl | rfl | rfl : k = 0 ∨ k = 1 ∨ k = 2 ∨ k = 3 := by omega
      all_goals rfl
    · rename_i hk
      exact (List.getElem?_eq_none (by simpa using Nat.not_lt.mp hk)).symm
  unfold getLe RelocatedEntry.wordAt
  rw [width_uint32, hslice]

theorem Section.Holds.window {list : List Section} (hapart : list.Pairwise Section.Apart)
    (hs : s ∈ list) (h : s.Holds data.length a 8) :
    Window a (RelocatedEntry.loaded data list) (slice (s.pos + (a - s.va)) 8 data) where
  length := slice_length h.inside
  byte k hk := by
    unfold slice
    rw [List.getElem?_take, if_pos hk, List.getElem?_drop]
    exact h.loaded hapart hs hk

theorem positionOf_of_holds {list : List Section} (hapart : list.Pairwise Section.Apart)
    (hs : s ∈ list) {size n : ℕ} (h : s.Holds size a n) (hn : 0 < n) :
    positionOf list a = s.pos + (a - s.va) := by
  have hfind : list.find? (·.has a) = some s := find_of_mem hapart hs (h.has hn)
  unfold positionOf
  rw [hfind]

/-! ### The directory -/

theorem toNat_target {record : UInt16}
    (h : ¬page > UInt32.ofNat (2 ^ 32 - 1) - (record &&& 4095).toUInt32) :
    (page + (record &&& 4095).toUInt32).toNat = page.toNat + (record &&& 4095).toNat := by
  have hmax : (UInt32.ofNat (2 ^ 32 - 1)).toNat = 2 ^ 32 - 1 := rfl
  have hlow := (record &&& 4095).toNat_lt
  have hle : (record &&& 4095).toUInt32 ≤ UInt32.ofNat (2 ^ 32 - 1) := by
    rw [UInt32.le_iff_toNat_le, UInt16.toNat_toUInt32, hmax]
    omega
  rw [gt_iff_lt, UInt32.lt_iff_toNat_lt, UInt32.toNat_sub_of_le _ _ hle, UInt16.toNat_toUInt32, hmax] at h
  rw [UInt32.toNat_add, UInt16.toNat_toUInt32, Nat.mod_eq_of_lt (by omega)]

theorem safe_relocRecord (h : sections.Inside file) (hp : p + 2 ≤ file.bytes.length) :
    Safe (relocRecord file sections delta rva page p out) := by
  unfold relocRecord
  refine (safe_readWord hp).bind fun record _ => ?_
  dsimp only
  split
  · exact safe_ok _
  split
  · exact fun hrejected => by cases hrejected
  split
  · exact safe_ok _
  refine h.safe_offset.bind fun raw hraw => ?_
  obtain ⟨s, -, hholds, rfl⟩ := h.offset hraw
  exact (safe_readWord hholds.inside).bind fun _ _ => safe_ok _

theorem relocRecord_fst (h : relocRecord file sections delta rva page p out = .ok (p', out')) :
    p' = p + 2 := by
  unfold relocRecord at h
  obtain ⟨record, -, h⟩ := bind_eq_ok.mp h
  dsimp only at h
  split at h
  · exact (Prod.mk.inj (pure_eq_ok.mp h)).1.symm
  split at h
  · cases h
  split at h
  · exact (Prod.mk.inj (pure_eq_ok.mp h)).1.symm
  obtain ⟨raw, -, h⟩ := bind_eq_ok.mp h
  obtain ⟨word, -, h⟩ := bind_eq_ok.mp h
  exact (Prod.mk.inj (pure_eq_ok.mp h)).1.symm

theorem window_relocRecord (h : sections.Inside file)
    (hapart : (sections.list file.bytes).Pairwise Section.Apart) (hrva : rva.toNat + 8 < 2 ^ 32)
    (hwindow : Window rva.toNat
      (targets.foldl (relocate delta) (loaded file.bytes (sections.list file.bytes))) out)
    (htargets : ∀ target, highLowTarget page (getLe UInt16 p file.bytes) = some target →
      ∀ t ∈ targets, WordsApart t target)
    (hok : relocRecord file sections delta rva page p out = .ok (p', out')) :
    Window rva.toNat ((targets ++ (highLowTarget page (getLe UInt16 p file.bytes)).toList).foldl
      (relocate delta) (loaded file.bytes (sections.list file.bytes))) out' := by
  have height : (rva + 8).toNat = rva.toNat + 8 := by
    have hnum : (8 : UInt32).toNat = 8 := rfl
    rw [UInt32.toNat_add, hnum, Nat.mod_eq_of_lt hrva]
  unfold relocRecord at hok
  simp only [bind_eq_ok, readWord_eq_ok] at hok
  obtain ⟨record, ⟨-, rfl⟩, hok⟩ := hok
  split at hok
  · rename_i htype
    obtain rfl := (Prod.mk.inj (pure_eq_ok.mp hok)).2
    have hnone : highLowTarget page (getLe UInt16 p file.bytes) = none := by
      unfold highLowTarget
      rw [htype]
      rfl
    rwa [hnone, Option.toList_none, List.append_nil]
  split at hok
  · cases hok
  rename_i _ hvalid
  obtain ⟨htype, hpage⟩ := not_or.mp hvalid
  have hsome : highLowTarget page (getLe UInt16 p file.bytes) =
      some (page.toNat + (getLe UInt16 p file.bytes &&& 4095).toNat) :=
    if_pos (not_not.mp htype)
  have htarget := toNat_target hpage
  rw [← htarget] at hsome
  rw [hsome, Option.toList_some, List.foldl_append, List.foldl_cons, List.foldl_nil]
  split at hok
  · rename_i hout
    obtain rfl := (Prod.mk.inj (pure_eq_ok.mp hok)).2
    rw [ge_iff_le, UInt32.le_iff_toNat_le, height] at hout
    exact hwindow.relocate hout
  · simp only [bind_eq_ok, readWord_eq_ok] at hok
    obtain ⟨raw, hraw, word, ⟨-, rfl⟩, hok⟩ := hok
    obtain rfl := (Prod.mk.inj (pure_eq_ok.mp hok)).2
    obtain ⟨s, hs, hholds, rfl⟩ := h.offset hraw
    refine hwindow.splice ?_
    rw [wordAt_foldl (htargets _ hsome)]
    exact hholds.wordAt hapart hs

structure Block (data : Bytes) (stop p : ℕ) : Prop where
  header : 8 ≤ (getLe UInt32 (p + 4) data).toNat
  room : (getLe UInt32 (p + 4) data).toNat ≤ stop - p
  even : (getLe UInt32 (p + 4) data).toNat % 2 = 0

variable {stop : ℕ}

theorem relocBlock_eq_ok (h : relocBlock file sections delta rva stop p out = .ok (p', out')) :
    p' = p + (getLe UInt32 (p + 4) file.bytes).toNat ∧ Block file.bytes stop p ∧
      scan p' (relocRecord file sections delta rva (getLe UInt32 p file.bytes)) (p + 8) out = .ok out' := by
  unfold relocBlock at h
  simp only [bind_eq_ok, pure_eq_ok, readWord_eq_ok, Prod.mk.injEq] at h
  obtain ⟨-, -, page, ⟨-, rfl⟩, length, ⟨-, rfl⟩, _, htests, out', hscan, rfl, rfl⟩ := h
  have htests := expect_eq_ok.mp htests
  simp only [Bool.and_eq_true, decide_eq_true_eq] at htests
  exact ⟨rfl, ⟨htests.1.1, htests.1.2, htests.2⟩, hscan⟩

theorem safe_relocBlock (h : sections.Inside file) (hstop : stop ≤ file.bytes.length) :
    Safe (relocBlock file sections delta rva stop p out) := by
  unfold relocBlock
  refine (safe_expect _).bind fun _ hroom => ?_
  have hroom := of_decide_eq_true (expect_eq_ok.mp hroom)
  refine (safe_read32 (by omega)).bind fun page _ => ?_
  refine (safe_read32 (by omega)).bind fun length _ => ?_
  refine (safe_expect _).bind fun _ htests => ?_
  have htests := expect_eq_ok.mp htests
  simp only [Bool.and_eq_true, decide_eq_true_eq] at htests
  refine Safe.bind ?_ fun _ _ => safe_ok _
  -- The records are words, so a record that begins in the block ends in it.
  refine safe_scan (I := fun q _ => q ≤ p + length.toNat ∧ (p + length.toNat - q) % 2 = 0)
    (fun q out hq hI => safe_relocRecord h (by omega)) (fun q out q' out' hq hI hstep => ?_)
    (by omega)
  obtain rfl := relocRecord_fst hstep
  omega

theorem window_relocBlock (h : sections.Inside file)
    (hapart : (sections.list file.bytes).Pairwise Section.Apart) (hrva : rva.toNat + 8 < 2 ^ 32)
    (hwindow : Window rva.toNat
      (targets.foldl (relocate delta) (loaded file.bytes (sections.list file.bytes))) out)
    (htargets : (targets ++ blockTargets file.bytes p).Pairwise WordsApart)
    (hok : relocBlock file sections delta rva stop p out = .ok (p', out')) :
    Window rva.toNat ((targets ++ blockTargets file.bytes p).foldl (relocate delta)
      (loaded file.bytes (sections.list file.bytes))) out' := by
  obtain ⟨rfl, hblock, hscan⟩ := relocBlock_eq_ok hok
  have hheader := hblock.header
  have heven := hblock.even
  unfold blockTargets at htargets ⊢
  generalize hcount : ((getLe UInt32 (p + 4) file.bytes).toNat - 8) / 2 = count at *
  have hsucc (i : ℕ) : targets ++ (List.range (i + 1)).filterMap (recordTarget file.bytes p) =
      (targets ++ (List.range i).filterMap (recordTarget file.bytes p)) ++
        (recordTarget file.bytes p i).toList := by
    have hone : [i].filterMap (recordTarget file.bytes p) = (recordTarget file.bytes p i).toList := by
      rw [List.filterMap_cons, List.filterMap_nil]
      cases recordTarget file.bytes p i <;> rfl
    rw [List.range_succ, List.filterMap_append, hone, List.append_assoc]
  -- The records before a position are those before its index.
  obtain ⟨q, hstop, i, hi, rfl, hwindow'⟩ := scan_invariant
    (I := fun q out => ∃ i ≤ count, q = p + 8 + 2 * i ∧
      Window rva.toNat ((targets ++ (List.range i).filterMap (recordTarget file.bytes p)).foldl
        (relocate delta) (loaded file.bytes (sections.list file.bytes))) out)
    (fun q out q' out' hq ⟨i, hi, heq, hwindow⟩ hstep => by
      subst heq
      have hlt : i + 1 ≤ count := by omega
      have hpart := htargets.sublist (((List.range_sublist.mpr hlt).filterMap
        (recordTarget file.bytes p)).append_left targets)
      rw [hsucc] at hpart
      refine ⟨i + 1, hlt, (relocRecord_fst hstep).trans (by omega), ?_⟩
      rw [hsucc]
      refine window_relocRecord h hapart hrva hwindow (fun target htarget t ht => ?_) hstep
      have hmem : target ∈ (recordTarget file.bytes p i).toList := Option.mem_toList.mpr htarget
      exact (List.pairwise_append.mp hpart).2.2 t ht target hmem)
    ⟨0, Nat.zero_le _, rfl, by simpa using hwindow⟩ hscan
  obtain rfl : i = count := by omega
  exact hwindow'

theorem window_directory (h : sections.Inside file)
    (hapart : (sections.list file.bytes).Pairwise Section.Apart) (hrva : rva.toNat + 8 < 2 ^ 32)
    (hwindow : Window rva.toNat (loaded file.bytes (sections.list file.bytes)) out)
    (htargets : (directoryTargets file.bytes stop p).Pairwise WordsApart)
    (hok : scan stop (relocBlock file sections delta rva stop) p out = .ok out') :
    Window rva.toNat ((directoryTargets file.bytes stop p).foldl (relocate delta)
      (loaded file.bytes (sections.list file.bytes))) out' := by
  -- The blocks that were passed and those that are left are all blocks.
  obtain ⟨q, hstop, passed, hall, hwindow'⟩ := scan_invariant
    (I := fun q out => ∃ passed,
      passed ++ directoryTargets file.bytes stop q = directoryTargets file.bytes stop p ∧
        Window rva.toNat (passed.foldl (relocate delta)
          (loaded file.bytes (sections.list file.bytes))) out)
    (fun q out q' out' hq ⟨passed, hall, hwindow⟩ hstep => by
      obtain ⟨hnext, hblock, -⟩ := relocBlock_eq_ok hstep
      rw [directoryTargets, dif_pos ⟨hq, hblock.header⟩, ← hnext, ← List.append_assoc] at hall
      refine ⟨passed ++ blockTargets file.bytes q, hall, ?_⟩
      refine window_relocBlock h hapart hrva hwindow ?_ hstep
      rw [← hall] at htargets
      exact (List.pairwise_append.mp htargets).1)
    ⟨[], rfl, hwindow⟩ hok
  rw [directoryTargets, dif_neg (by omega), List.append_nil] at hall
  exact hall ▸ hwindow'

theorem safe_directory (h : sections.Inside file) (hstop : stop ≤ file.bytes.length) :
    Safe (scan stop (relocBlock file sections delta rva stop) p out) := by
  refine safe_scan (I := fun _ _ => True) (fun q out _ _ => safe_relocBlock h hstop)
    (fun q out q' out' _ _ hstep => ⟨?_, trivial⟩) trivial
  obtain ⟨rfl, hblock, -⟩ := relocBlock_eq_ok hstep
  have hheader := hblock.header
  omega

/-! ### The entry -/

/-- `opt`, where the optional header begins. -/
def optionalHeader (data : Bytes) : UInt32 := getLe UInt32 0x3c data + 24

def sectionTable (data : Bytes) : Sections where
  count := (getLe UInt16 (getLe UInt32 0x3c data + 6).toNat data).toNat
  start := optionalHeader data + (getLe UInt16 (getLe UInt32 0x3c data + 20).toNat data).toUInt32

def sectionsOf (data : Bytes) : List Section := (sectionTable data).list data

def targetsOf (data : Bytes) : List ℕ :=
  let opt := optionalHeader data
  let start := positionOf (sectionsOf data) (getLe UInt32 (opt + 96 + 5 * 8).toNat data).toNat
  directoryTargets data (start + (getLe UInt32 (opt + 100 + 5 * 8).toNat data).toNat) start

/-- The image of a file at a base: its sections with all relocations. -/
def imageAt (data : Bytes) (actualBase : UInt32) : ℕ → UInt8 :=
  (targetsOf data).foldl
    (relocate (actualBase - getLe UInt32 (optionalHeader data + 28).toNat data))
    (loaded data (sectionsOf data))

theorem safe_readHeaders (file : FileImage) : Safe (readHeaders file) := by
  have hsize := file.size_lt
  unfold readHeaders
  refine (safe_expect _).bind fun _ hlarge => ?_
  have hlarge := of_decide_eq_true (expect_eq_ok.mp hlarge)
  refine (safe_readWord (by rw [width_uint16]; omega)).bind fun _ _ => (safe_expect _).bind fun _ _ => ?_
  refine (safe_read32 (by omega)).bind fun pe _ => ?_
  refine (safe_expect _).bind fun _ hpe => ?_
  have hpe := of_decide_eq_true (expect_eq_ok.mp hpe)
  have hfield (field : UInt32) (hfield : field.toNat ≤ 0xf0) :
      (pe + field).toNat + 4 ≤ file.bytes.length := by
    rw [UInt32.toNat_add, Nat.mod_eq_of_lt (by omega)]
    omega
  have hfield' (field : UInt32) (hsmall : field.toNat ≤ 0xf0) :
      (pe + field).toNat + 2 ≤ file.bytes.length :=
    Nat.le_trans (by omega) (hfield field hsmall)
  refine (safe_read32 (by omega)).bind fun _ _ => ?_
  refine (safe_readWord (hfield' 4 (by decide))).bind fun _ _ => ?_
  refine (safe_readWord (hfield' 24 (by decide))).bind fun _ _ => (safe_expect _).bind fun _ _ => ?_
  refine (safe_readWord (hfield' 6 (by decide))).bind fun _ _ => ?_
  refine (safe_readWord (hfield' 20 (by decide))).bind fun _ _ => ?_
  exact (safe_expect _).bind fun _ _ => safe_ok _

theorem readHeaders_eq_ok {opt : UInt32} (h : readHeaders file = .ok (opt, sections)) :
    opt = optionalHeader file.bytes ∧ sections = sectionTable file.bytes ∧
      opt.toNat + 232 ≤ file.bytes.length ∧ sections.Inside file := by
  have hsize := file.size_lt
  unfold readHeaders at h
  simp only [bind_eq_ok, pure_eq_ok, readWord_eq_ok, Prod.mk.injEq] at h
  obtain ⟨_, hlarge, mz, -, -, -, pe, ⟨-, rfl⟩, _, hpe, signature, -, machine, -, kind, -, -, -,
    count, ⟨-, rfl⟩, optional, ⟨-, rfl⟩, _, htable, rfl, rfl⟩ := h
  have hlarge := of_decide_eq_true (expect_eq_ok.mp hlarge)
  have hpe := of_decide_eq_true (expect_eq_ok.mp hpe)
  have htable := expect_eq_ok.mp htable
  simp only [Bool.and_eq_true, decide_eq_true_eq] at htable
  have hnum : (24 : UInt32).toNat = 24 := rfl
  refine ⟨rfl, rfl, ?_, ?_⟩
  · rw [UInt32.toNat_add, hnum, Nat.mod_eq_of_lt (by omega)]
    omega
  · have hstart := htable.1.2
    have hroom := htable.2
    unfold Sections.Inside
    dsimp only
    omega

/-- `relocatedEntry` ends and reads inside the file, and where it returns eight bytes of a file whose
sections do not overlap and whose relocated words do not overlap, they are those of the image. -/
theorem relocatedEntry_exact (file : FileImage) (actualBase rva : UInt32) :
    Safe (relocatedEntry file actualBase rva) ∧
      ∀ out, relocatedEntry file actualBase rva = .ok out →
        (sectionsOf file.bytes).Pairwise Section.Apart →
        (targetsOf file.bytes).Pairwise WordsApart →
        out = (List.range 8).map fun k => imageAt file.bytes actualBase (rva.toNat + k) := by
  have hsize := file.size_lt
  constructor
  · unfold relocatedEntry
    refine (safe_readHeaders file).bind fun headers hheaders => ?_
    obtain ⟨opt, sections⟩ := headers
    obtain ⟨-, -, hopt, hinside⟩ := readHeaders_eq_ok hheaders
    have hfield (field : UInt32) (hfield : field.toNat ≤ 228) :
        (opt + field).toNat + 4 ≤ file.bytes.length := by
      rw [UInt32.toNat_add, Nat.mod_eq_of_lt (by omega)]
      omega
    refine (safe_readWord (hfield 28 (by decide))).bind fun _ _ => ?_
    refine (safe_readWord (hfield 92 (by decide))).bind fun _ _ => (safe_expect _).bind fun _ _ => ?_
    refine hinside.safe_offset.bind fun entry hentry => ?_
    obtain ⟨s, -, hholds, rfl⟩ := hinside.offset hentry
    refine (safe_readRange hholds.inside).bind fun _ _ => ?_
    refine (safe_readWord ?_).bind fun _ _ => (safe_readWord ?_).bind fun _ _ =>
      (safe_expect _).bind fun _ _ => ?_
    · rw [UInt32.add_assoc]
      exact hfield (96 + 5 * 8) (by decide)
    · rw [UInt32.add_assoc]
      exact hfield (100 + 5 * 8) (by decide)
    refine hinside.safe_offset.bind fun reloc hreloc => ?_
    obtain ⟨t, -, hholds', rfl⟩ := hinside.offset hreloc
    exact safe_directory hinside hholds'.inside
  · intro out hok hapart htargets
    unfold relocatedEntry at hok
    simp only [bind_eq_ok, readWord_eq_ok, readRange_eq_ok] at hok
    obtain ⟨⟨opt, sections⟩, hheaders, preferred, ⟨-, rfl⟩, directories, -, _, hrva, entry, hentry,
      start, ⟨-, rfl⟩, relocRva, ⟨-, rfl⟩, relocSize, ⟨-, rfl⟩, _, hrelocs, reloc, hreloc, hscan⟩ := hok
    obtain ⟨rfl, rfl, -, hinside⟩ := readHeaders_eq_ok hheaders
    obtain ⟨s, hs, hholds, rfl⟩ := hinside.offset hentry
    obtain ⟨t, ht, hholds', rfl⟩ := hinside.offset hreloc
    have hrva := (Bool.and_eq_true_iff.mp (expect_eq_ok.mp hrva)).2
    have hrelocs := (Bool.and_eq_true_iff.mp (expect_eq_ok.mp hrelocs)).2
    rw [decide_eq_true_eq, UInt32.le_iff_toNat_le] at hrva hrelocs
    have hroom : (UInt32.ofNat (2 ^ 32 - 1) - 8).toNat = 2 ^ 32 - 9 := rfl
    have height : (8 : UInt32).toNat = 8 := rfl
    have hposition := positionOf_of_holds hapart ht hholds' (by omega)
    have hstart := hholds.window hapart hs
    have hwindow := window_directory hinside hapart (by omega) hstart
      (hposition ▸ htargets) hscan
    rw [← hposition] at hwindow
    exact hwindow.eq_map

/-- A file with one section, and in it a directory of one word that the window cuts. -/
def sampleFile : FileImage where
  bytes := overwriteAll
    [(0, putLe (0x5a4d : UInt16)), (0x3c, putLe (0x40 : UInt32)),
      (0x40, putLe (0x4550 : UInt32) ++ putLe (0x14c : UInt16) ++ putLe (1 : UInt16)),
      (0x54, putLe (224 : UInt16)), (0x58, putLe (0x10b : UInt16)),
      (0x74, putLe (0x10000 : UInt32)), (0xb4, putLe (6 : UInt32)),
      (0xe0, putLe (0x1040 : UInt32) ++ putLe (10 : UInt32)),
      (0x144, putLe (0x1000 : UInt32) ++ putLe (0x100 : UInt32) ++ putLe (0x160 : UInt32)),
      (0x1a0, putLe (0x1000 : UInt32) ++ putLe (10 : UInt32) ++ putLe (0x3006 : UInt16))]
    (List.replicate 0x260 0)
  size_lt := by decide +kernel

example : (relocatedEntry sampleFile 0x10201 0x1000).toOption =
    some [0, 0, 0, 0, 0, 0, 1, 2] := by
  decide +kernel

end War3VK.Model.RelocatedEntry
