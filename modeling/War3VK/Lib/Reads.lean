import War3VK.Lib.Bytes

/-!
# Reads that can leave the data

A check reads a byte string and stops where it finds something wrong. Here a read outside of the
data is an outcome of its own (`Stop.outOfBounds`), so that a check which never has it reads in
bounds on every path. `expect` is a test, and a check that is a chain of tests is the test of their
conjunction (`expect_bind_expect`).
-/

namespace War3VK.Lib

/-- Why a check stops. -/
inductive Stop
  | rejected
  | outOfBounds
  deriving DecidableEq, Repr

/-- A test. -/
def expect (b : Bool) : Except Stop Unit := if b then .ok () else .error .rejected

/-- What is missing is rejected. -/
def require {α : Type} : Option α → Except Stop α
  | some a => .ok a
  | none => .error .rejected

/-- The `n` bytes from an offset on, which must be there. -/
def readRange (offset n : ℕ) (data : Bytes) : Except Stop Bytes :=
  if offset + n ≤ data.length then .ok (slice offset n data) else .error .outOfBounds

/-- The word at an offset, whose bytes must be there. -/
def readWord (W : Type) [LeWord W] (offset : ℕ) (data : Bytes) : Except Stop W :=
  if offset + LeWord.width W ≤ data.length then .ok (getLe W offset data)
  else .error .outOfBounds

theorem readRange_of_le {offset n : ℕ} {data : Bytes} (h : offset + n ≤ data.length) :
    readRange offset n data = .ok (slice offset n data) := if_pos h

theorem readWord_of_le {W : Type} [LeWord W] {offset : ℕ} {data : Bytes}
    (h : offset + LeWord.width W ≤ data.length) :
    readWord W offset data = .ok (getLe W offset data) := if_pos h

@[simp]
theorem expect_true_bind {α : Type} (f : Unit → Except Stop α) : expect true >>= f = f () := rfl

@[simp]
theorem ok_bind {α β : Type} (a : α) (f : α → Except Stop β) : (.ok a >>= f) = f a := rfl

theorem expect_bind_expect (a b : Bool) : (expect a >>= fun _ => expect b) = expect (a && b) := by
  cases a <;> rfl

/-- A test of what may be missing is the test that it is there and passes. -/
theorem require_bind_expect {α : Type} (o : Option α) (f : α → Bool) :
    (require o >>= fun a => expect (f a)) = expect (o.elim false f) := by
  cases o <;> rfl

theorem require_ite_none {α : Type} {c : Prop} [Decidable c] (o : Option α) :
    require (if c then none else o) = if c then .error .rejected else require o := by
  by_cases hc : c
  · rw [if_pos hc, if_pos hc, require]
  · rw [if_neg hc, if_neg hc]

end War3VK.Lib
