import Mathlib

/-!
# Tallies

A table whose entries are appended and amended, and a counter that is kept as it goes. A tally is the
combination of a measure over all entries, under an operation that does not care for the order: a sum,
or a union of flags.
-/

namespace War3VK.Lib

variable {α M : Type} {op : M → M → M} {e : M}

/-- The measure of all entries, combined. -/
def tally (op : M → M → M) (e : M) (measure : α → M) (entries : List α) : M :=
  (entries.map measure).foldr op e

section

variable [Std.Associative op] {measure : α → M}

theorem tally_append [Std.LawfulIdentity op e] (entries more : List α) :
    tally op e measure (entries ++ more) = op (tally op e measure entries) (tally op e measure more) := by
  induction entries with
  | nil => exact (Std.LawfulLeftIdentity.left_id _).symm
  | cons x entries ih =>
    calc tally op e measure (x :: entries ++ more)
        = op (measure x) (tally op e measure (entries ++ more)) := rfl
      _ = op (measure x) (op (tally op e measure entries) (tally op e measure more)) := by rw [ih]
      _ = op (op (measure x) (tally op e measure entries)) (tally op e measure more) :=
        (Std.Associative.assoc _ _ _).symm

theorem tally_concat [Std.LawfulIdentity op e] (entries : List α) (x : α) :
    tally op e measure (entries ++ [x]) = op (tally op e measure entries) (measure x) := by
  rw [tally_append]
  exact congrArg (op _) (Std.LawfulRightIdentity.right_id (measure x))

/-- An amended entry adds the difference of its measures. -/
theorem tally_set [Std.Commutative op] {entries : List α} {i : ℕ} {x y : α} {d : M}
    (hx : entries[i]? = some x) (hd : measure y = op (measure x) d) :
    tally op e measure (entries.set i y) = op (tally op e measure entries) d := by
  induction entries generalizing i with
  | nil => simp at hx
  | cons first entries ih =>
    cases i with
    | zero =>
      obtain rfl : first = x := by simpa using hx
      calc tally op e measure (y :: entries)
          = op (op (measure first) d) (tally op e measure entries) := by rw [← hd]; rfl
        _ = op (op (measure first) (tally op e measure entries)) d := by
          rw [@Std.Associative.assoc _ op, @Std.Commutative.comm _ op _ d, ← @Std.Associative.assoc _ op]
    | succ i =>
      calc tally op e measure (first :: entries.set i y)
          = op (measure first) (tally op e measure (entries.set i y)) := rfl
        _ = op (measure first) (op (tally op e measure entries) d) := by
          rw [ih (by simpa using hx)]
        _ = op (tally op e measure (first :: entries)) d := (Std.Associative.assoc _ _ _).symm

/-- An amended entry whose measure stays adds nothing. -/
theorem tally_set_of_eq [Std.Commutative op] [Std.LawfulIdentity op e] {entries : List α} {i : ℕ}
    {x y : α} (hx : entries[i]? = some x) (h : measure y = measure x) :
    tally op e measure (entries.set i y) = tally op e measure entries := by
  rw [tally_set hx (h.trans (@Std.LawfulRightIdentity.right_id _ _ op e _ _).symm)]
  exact Std.LawfulRightIdentity.right_id _

end

theorem tally_indicator (p : α → Bool) (entries : List α) :
    tally (· + ·) 0 (fun x => if p x then (1 : UInt64) else 0) entries =
      UInt64.ofNat (entries.countP p) := by
  induction entries with
  | nil => rfl
  | cons x entries ih =>
    calc tally (· + ·) 0 (fun x => if p x then (1 : UInt64) else 0) (x :: entries)
        = (if p x then 1 else 0) + UInt64.ofNat (entries.countP p) := by rw [← ih]; rfl
      _ = UInt64.ofNat ((x :: entries).countP p) := by
        rw [List.countP_cons, UInt64.ofNat_add]
        cases p x
        · exact UInt64.add_comm _ _
        · exact UInt64.add_comm _ _

/-- A count along a list where one element is counted anew. -/
theorem countP_of_ne {p q : α → Bool} {a : α} {l : List α} (hl : l.Nodup) (ha : a ∈ l)
    (h : ∀ b ∈ l, b ≠ a → q b = p b) : l.countP q + (p a).toNat = l.countP p + (q a).toNat := by
  induction l with
  | nil => cases ha
  | cons b l ih =>
    obtain ⟨hb, hl⟩ := List.nodup_cons.mp hl
    rw [List.countP_cons, List.countP_cons]
    by_cases heq : b = a
    · -- The rest of the list does not have it.
      subst heq
      have hrest : l.countP q = l.countP p := List.countP_congr fun x hx => by
        rw [h x (List.mem_cons_of_mem _ hx) fun hxb => hb (hxb ▸ hx)]
      rw [hrest]
      cases p b <;> cases q b <;> simp <;> omega
    · have hmem : a ∈ l := (List.mem_cons.mp ha).resolve_left (Ne.symm heq)
      have hrec := ih hl hmem fun x hx => h x (List.mem_cons_of_mem _ hx)
      rw [h b List.mem_cons_self heq]
      omega

theorem tally_ofNat (f : α → ℕ) (entries : List α) :
    tally (· + ·) 0 (fun x => UInt64.ofNat (f x)) entries = UInt64.ofNat (entries.map f).sum := by
  induction entries with
  | nil => rfl
  | cons x entries ih =>
    calc tally (· + ·) 0 (fun x => UInt64.ofNat (f x)) (x :: entries)
        = UInt64.ofNat (f x) + UInt64.ofNat (entries.map f).sum := by rw [← ih]; rfl
      _ = UInt64.ofNat ((x :: entries).map f).sum := by
        rw [List.map_cons, List.sum_cons, UInt64.ofNat_add]

/-! ## Amended entries -/

/-- What is in a list after one place of it was written. -/
theorem mem_modify {α : Type} {l : List α} {i : ℕ} {f : α → α} {b : α} (h : b ∈ l.modify i f) :
    ∃ j a, l[j]? = some a ∧ b = if j = i then f a else a := by
  obtain ⟨j, hj⟩ := List.mem_iff_getElem?.mp h
  rw [List.getElem?_modify] at hj
  obtain ⟨a, ha, rfl⟩ := Option.map_eq_some_iff.mp hj
  refine ⟨j, a, ha, ?_⟩
  by_cases hij : i = j
  · simp [hij]
  · simp [hij, Ne.symm hij]

theorem map_modify {α β : Type} {l : List α} {i : ℕ} {f : α → α} {g : α → β}
    (h : ∀ a, g (f a) = g a) : (l.modify i f).map g = l.map g := by
  apply List.ext_getElem?
  intro j
  rw [List.getElem?_map, List.getElem?_modify, List.getElem?_map]
  cases l[j]? with
  | none => rfl
  | some a =>
    by_cases hij : i = j <;> simp [hij, h]

end War3VK.Lib
