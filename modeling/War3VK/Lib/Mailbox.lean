import Mathlib.Data.Nat.Notation

/-!
# A pending copy that is edited and taken

Authors edit a pending copy and count their edits. An owner takes the copy when the count has moved,
derives values of its own from what it took, and gives the result back as the next pending copy unless
an edit came between. What the owner derives is what a `view` does not show.
-/

namespace War3VK.Lib

variable {α β : Type}

/-- A pending copy, with how often it was edited and what of that was taken. -/
structure Mailbox (α : Type) where
  pending : α
  pendingRevision : ℕ
  appliedRevision : ℕ

namespace Mailbox

/-- An edit of the copy. -/
def commit (edit : α → α) (m : Mailbox α) : Mailbox α :=
  { m with pending := edit m.pending, pendingRevision := m.pendingRevision + 1 }

/-- The owner's copy after taking, which is the old one if nothing was edited. -/
def taken (m : Mailbox α) (mine : α) : α :=
  if m.pendingRevision ≠ m.appliedRevision then m.pending else mine

/-- The mailbox after taking. -/
def take (m : Mailbox α) : Mailbox α :=
  if m.pendingRevision ≠ m.appliedRevision then { m with appliedRevision := m.pendingRevision } else m

/-- The owner's copy given back, unless an edit was not taken. -/
def giveBack (mine : α) (m : Mailbox α) : Mailbox α :=
  if m.pendingRevision = m.appliedRevision then { m with pending := mine } else m

/-- The counts agree only while the pending copy and the owner's are the same in the view. -/
structure Settled (view : α → β) (m : Mailbox α) (mine : α) : Prop where
  ordered : m.appliedRevision ≤ m.pendingRevision
  same : m.pendingRevision = m.appliedRevision → view m.pending = view mine

variable {view : α → β} {m : Mailbox α} {mine derived : α}

theorem Settled.commit (h : Settled view m mine) (edit : α → α) :
    Settled view (m.commit edit) mine where
  ordered := Nat.le_succ_of_le h.ordered
  same heq := absurd heq (Nat.ne_of_gt (Nat.lt_succ_of_le h.ordered))

theorem Settled.view_take (h : Settled view m mine) : view (m.taken mine) = view m.pending := by
  unfold taken
  split
  · rfl
  · rename_i heq
    exact (h.same (Decidable.not_not.mp heq)).symm

theorem take_settled (m : Mailbox α) : m.take.pendingRevision = m.take.appliedRevision := by
  unfold take
  split
  · rfl
  · rename_i heq
    exact Decidable.not_not.mp heq

@[simp]
theorem take_pending (m : Mailbox α) : m.take.pending = m.pending := by
  unfold take
  split <;> rfl

@[simp]
theorem take_pendingRevision (m : Mailbox α) : m.take.pendingRevision = m.pendingRevision := by
  unfold take
  split <;> rfl

theorem Settled.take (h : Settled view m mine) : Settled view m.take (m.taken mine) where
  ordered := Nat.le_of_eq (take_settled m).symm
  same _ := by rw [take_pending, h.view_take]

/-- The owner derives what the view does not show. -/
theorem Settled.derive (h : Settled view m mine) (hview : view derived = view mine) :
    Settled view m derived where
  ordered := h.ordered
  same heq := (h.same heq).trans hview.symm

/-- What is given back is what was pending, in the view. -/
theorem Settled.view_giveBack (h : Settled view m mine) :
    view (m.giveBack mine).pending = view m.pending := by
  unfold Mailbox.giveBack
  split
  · rename_i heq
    exact (h.same heq).symm
  · rfl

theorem Settled.giveBack (h : Settled view m mine) : Settled view (m.giveBack mine) mine := by
  unfold Mailbox.giveBack
  split
  · exact ⟨h.ordered, fun _ => rfl⟩
  · exact h

/-- An edit that was not taken is not taken back. -/
theorem giveBack_of_lt (h : m.appliedRevision < m.pendingRevision) : m.giveBack mine = m :=
  if_neg (Nat.ne_of_gt h)

@[simp]
theorem giveBack_pendingRevision (m : Mailbox α) (mine : α) :
    (m.giveBack mine).pendingRevision = m.pendingRevision := by
  unfold Mailbox.giveBack
  split <;> rfl

@[simp]
theorem giveBack_appliedRevision (m : Mailbox α) (mine : α) :
    (m.giveBack mine).appliedRevision = m.appliedRevision := by
  unfold Mailbox.giveBack
  split <;> rfl

end Mailbox

end War3VK.Lib
