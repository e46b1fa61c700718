import Mathlib.Data.List.Basic
import Mathlib.Data.List.Sort
import War3VK.Lib.Window

/-!
# A ring with a tail

A bounded store of an unbounded sequence: the first `ring` entries of the sequence are written into `p`
slots in rotation, each over the entry written `p` writes before it, and the entries after those go into
slots of their own behind the ring. `Retains` says what the slots hold.
-/

namespace War3VK.Lib

variable {α : Type} {p ring : ℕ} {blank : α} {entries store : List α}

/-- The slot of entry `m`: in rotation among the first `p` for the first `ring` entries, and in
order behind them for the others. -/
def slotOf (p ring m : ℕ) : ℕ := if m < ring then m % p else p + (m - ring)

/-- The slots of a store hold the last `p` of the first `ring` entries of a sequence and all later
ones; the slots that no entry has reached are blank. -/
structure Retains (p ring : ℕ) (blank : α) (entries store : List α) : Prop where
  ring_le : ring ≤ entries.length
  /-- The ring's slots and the tail's slots are there. -/
  room : p + (entries.length - ring) ≤ store.length
  /-- An entry that is not written over is in its slot. -/
  held : ∀ m < entries.length, ring ≤ m + p → store[slotOf p ring m]? = entries[m]?
  /-- The slots of the ring that no entry has reached are blank. -/
  blank_ring : ∀ i < p, ring ≤ i → store[i]? = some blank
  blank_tail : ∀ i, p + (entries.length - ring) ≤ i → i < store.length → store[i]? = some blank

theorem retains_nil {n : ℕ} (h : p ≤ n) :
    Retains p 0 blank ([] : List α) (List.replicate n blank) where
  ring_le := le_refl 0
  room := by simpa using h
  held m hm := by simp at hm
  blank_ring i hi _ := by simp [show i < n by omega]
  blank_tail i _ hi := by
    rw [List.length_replicate] at hi
    simp [hi]

theorem Retains.push_ring (h : Retains p ring blank entries store) (hp : 0 < p)
    (hall : ring = entries.length) (e : α) :
    Retains p (ring + 1) blank (entries ++ [e]) (store.set (ring % p) e) := by
  have hmod : ring % p < p := Nat.mod_lt _ hp
  have hroom := h.room
  constructor
  · simp [hall]
  · rw [List.length_set, List.length_append, List.length_singleton]
    omega
  · intro m hm hkept
    rw [List.length_append, List.length_singleton] at hm
    rw [slotOf, if_pos (by omega)]
    rcases Nat.lt_or_ge m ring with hlt | hge
    · -- The entry is less than `p` writes old, so the new one has another slot.
      have hne : m % p ≠ ring % p := mod_ne_of_lt hlt (by omega)
      have hold := h.held m (by omega) (by omega)
      rw [slotOf, if_pos hlt] at hold
      rw [List.getElem?_set_ne hne.symm, hold, List.getElem?_append_left (by omega)]
    · have hmr : m = entries.length := by omega
      subst hmr
      have hlt : ring % p < store.length := by omega
      rw [← hall, List.getElem?_set_self hlt, hall, List.getElem?_concat_length]
  · intro i hi hring
    have hne : ring % p ≠ i := by
      rw [Nat.mod_eq_of_lt (by omega)]
      omega
    rw [List.getElem?_set_ne hne]
    exact h.blank_ring i hi (by omega)
  · intro i hi hlt
    rw [List.length_append, List.length_singleton] at hi
    rw [List.length_set] at hlt
    rw [List.getElem?_set_ne (by omega)]
    exact h.blank_tail i (by omega) hlt

theorem Retains.push_tail (h : Retains p ring blank entries store)
    (hroom : p + (entries.length - ring) < store.length) (e : α) :
    Retains p ring blank (entries ++ [e]) (store.set (p + (entries.length - ring)) e) := by
  have hle := h.ring_le
  constructor
  · rw [List.length_append]
    omega
  · rw [List.length_set, List.length_append, List.length_singleton]
    omega
  · intro m hm hkept
    rw [List.length_append, List.length_singleton] at hm
    rcases Nat.lt_or_ge m entries.length with hlt | hge
    · have hne : p + (entries.length - ring) ≠ slotOf p ring m := by
        unfold slotOf
        split_ifs with hm'
        · rcases Nat.eq_zero_or_pos p with hp | hp
          · omega
          · have := Nat.mod_lt m hp
            omega
        · omega
      rw [List.getElem?_set_ne hne, h.held m hlt hkept, List.getElem?_append_left hlt]
    · have hme : m = entries.length := by omega
      subst hme
      rw [slotOf, if_neg (by omega), List.getElem?_set_self hroom, List.getElem?_concat_length]
  · intro i hi hring
    rw [List.getElem?_set_ne (by omega)]
    exact h.blank_ring i hi hring
  · intro i hi hlt
    rw [List.length_append, List.length_singleton] at hi
    rw [List.length_set] at hlt
    rw [List.getElem?_set_ne (by omega)]
    exact h.blank_tail i (by omega) hlt

theorem slotOf_injective (hp : 0 < p) {m n : ℕ} (hm : ring ≤ m + p) (hn : ring ≤ n + p)
    (h : slotOf p ring m = slotOf p ring n) : m = n := by
  have hmp := Nat.mod_lt m hp
  have hnp := Nat.mod_lt n hp
  unfold slotOf at h
  split_ifs at h with h1 h2 h2
  · by_contra hne
    rcases Nat.lt_or_gt_of_ne hne with hlt | hgt
    · exact mod_ne_of_lt hlt (by omega) h
    · exact mod_ne_of_lt hgt (by omega) h.symm
  · omega
  · omega
  · omega

/-- Each slot of the ring that an entry has reached holds one of the last `p` of them. -/
theorem exists_slotOf_eq (hp : 0 < p) {i : ℕ} (hi : i < p) (hring : i < ring) :
    ∃ m < ring, ring ≤ m + p ∧ slotOf p ring m = i := by
  -- The last number below `ring` with remainder `i`.
  refine ⟨i + p * ((ring - 1 - i) / p), ?_, ?_, ?_⟩
  · have := Nat.mul_div_le (ring - 1 - i) p
    omega
  · have := Nat.lt_mul_div_succ (ring - 1 - i) hp
    rw [Nat.mul_add, Nat.mul_one] at this
    omega
  · have := Nat.mul_div_le (ring - 1 - i) p
    rw [slotOf, if_pos (by omega), Nat.add_mul_mod_self_left, Nat.mod_eq_of_lt hi]

/-- The entries that are still held: the last `p` of the ring, and the tail. -/
def heldFrom (p ring n : ℕ) : List ℕ := List.range' (ring - p) (n - (ring - p))

/-- The slots in use are those of the held entries, each once. -/
theorem Retains.used_perm (h : Retains p ring blank entries store) (hp : 0 < p) (used : α → Bool)
    (hblank : used blank = false) (hused : ∀ e ∈ entries, used e = true) :
    ((List.range store.length).filter fun i => used (store.getD i blank)).Perm
      ((heldFrom p ring entries.length).map (slotOf p ring)) := by
  have hle := h.ring_le
  have hroom := h.room
  have hnodup : ((heldFrom p ring entries.length).map (slotOf p ring)).Nodup := by
    refine List.Nodup.map_on (fun m hm n hn hmn => ?_) List.nodup_range'
    simp only [heldFrom, List.mem_range'_1] at hm hn
    exact slotOf_injective hp (by omega) (by omega) hmn
  refine (List.perm_ext_iff_of_nodup (List.nodup_range.filter _) hnodup).mpr fun i => ?_
  simp only [List.mem_filter, List.mem_range, List.mem_map, heldFrom, List.mem_range'_1]
  constructor
  · rintro ⟨hi, hui⟩
    have hnot : store[i]? ≠ some blank := by
      intro hb
      rw [List.getD_eq_getElem?_getD, hb, Option.getD_some, hblank] at hui
      contradiction
    rcases Nat.lt_or_ge i p with hip | hip
    · have hir : i < ring := by
        by_contra hir
        exact hnot (h.blank_ring i hip (by omega))
      obtain ⟨m, hm, hkept, hslot⟩ := exists_slotOf_eq hp hip hir
      exact ⟨m, by omega, hslot⟩
    · have hit : i < p + (entries.length - ring) := by
        by_contra hit
        exact hnot (h.blank_tail i (by omega) hi)
      refine ⟨ring + (i - p), by omega, ?_⟩
      rw [slotOf, if_neg (by omega)]
      omega
  · rintro ⟨m, hm, rfl⟩
    have hm' : entries[m]? = some entries[m] := List.getElem?_eq_getElem (by omega)
    have hget := h.held m (by omega) (by omega)
    rw [hm'] at hget
    refine ⟨(List.getElem?_eq_some_iff.mp hget).1, ?_⟩
    rw [List.getD_eq_getElem?_getD, hget, Option.getD_some]
    exact hused _ (List.getElem_mem _)

/-- The held entries are the last ones of the sequence. -/
theorem Retains.map_heldFrom (h : Retains p ring blank entries store) :
    (heldFrom p ring entries.length).map (fun m => store.getD (slotOf p ring m) blank) =
      entries.drop (ring - p) := by
  apply List.ext_getElem?
  intro i
  rw [heldFrom, List.getElem?_map, List.getElem?_drop]
  rcases Nat.lt_or_ge i (entries.length - (ring - p)) with hi | hi
  · rw [List.getElem?_range' hi, Option.map_some, Nat.one_mul, List.getD_eq_getElem?_getD,
      h.held _ (by omega) (by omega), List.getElem?_eq_getElem (by omega), Option.getD_some]
  · rw [List.getElem?_eq_none (by rw [List.length_range']; exact hi),
      List.getElem?_eq_none (by omega), Option.map_none]

/-- Sorting the slots in use by a key that the sequence is strictly sorted by lists the held
entries in the order of the sequence. -/
theorem Retains.map_sorted (h : Retains p ring blank entries store) (hp : 0 < p) (used : α → Bool)
    (hblank : used blank = false) (hused : ∀ e ∈ entries, used e = true) (key : α → ℕ)
    (hkey : entries.Pairwise fun x y => key x < key y) {order : List ℕ}
    (hperm : order.Perm ((List.range store.length).filter fun i => used (store.getD i blank)))
    (hsorted : order.Pairwise fun i j => key (store.getD i blank) ≤ key (store.getD j blank)) :
    order.map (fun i => store.getD i blank) = entries.drop (ring - p) := by
  have hperm' : (order.map fun i => store.getD i blank).Perm (entries.drop (ring - p)) := by
    rw [← h.map_heldFrom]
    have hmap := (hperm.trans (h.used_perm hp used hblank hused)).map fun i => store.getD i blank
    rwa [List.map_map] at hmap
  have hdrop := hkey.sublist (List.drop_sublist (ring - p) entries)
  refine hperm'.eq_of_pairwise (fun x y hx hy hxy hyx => ?_) (List.pairwise_map.mpr hsorted)
    (hdrop.imp fun hlt => hlt.le)
  -- Entries with one key are one entry.
  by_contra hne
  have : Std.Symm fun x y : α => key x ≠ key y := ⟨fun _ _ => Ne.symm⟩
  have hkeys := (hdrop.imp fun hlt => hlt.ne).forall (hperm'.subset hx) hy hne
  exact hkeys (le_antisymm hxy hyx)

end War3VK.Lib
