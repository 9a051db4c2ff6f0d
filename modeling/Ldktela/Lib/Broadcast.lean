import Mathlib.Data.List.Basic
import Mathlib.Tactic.Common

/-!
# Broadcast channels that drop the oldest

A sender never waits.  The channel keeps the last `capacity` messages; a receiver
that is further behind loses the older ones, is told once how many, and goes on with
the oldest message that is still there.

`Receiver` is the view of one receiver: everything that was ever sent, and how far
it is.  `recv_cases` says what one `recv` does to the messages it is behind by.
`newestOf` is the last message of a key, which is what a consumer keeps that only
cares for the newest message of each key.
-/

namespace Broadcast

variable {α κ : Type*}

/-- One receiver of a channel. -/
structure Receiver (α : Type*) where
  /-- Everything that was sent, oldest first. -/
  log : List α
  /-- How many messages the receiver is past. -/
  next : Nat
  next_le : next ≤ log.length

/-- What a `recv` that does not wait answers. -/
inductive Received (α : Type*) where
  | value (a : α)
  | lagged (missed : Nat)
  | empty

namespace Receiver

/-- A receiver of a channel nothing was sent to since. -/
def new : Receiver α := ⟨[], 0, Nat.le_refl 0⟩

def send (a : α) (c : Receiver α) : Receiver α where
  log := c.log ++ [a]
  next := c.next
  next_le := by
    have hle := c.next_le
    rw [List.length_append]
    omega

/-- What the receiver is still to receive or to lose. -/
def behind (c : Receiver α) : List α := c.log.drop c.next

/-- The messages that are gone for the receiver, and that it has not been told about. -/
def lost (capacity : Nat) (c : Receiver α) : List α :=
  c.behind.take (c.log.length - capacity - c.next)

/-- The ones that are still there. -/
def kept (capacity : Nat) (c : Receiver α) : List α :=
  c.behind.drop (c.log.length - capacity - c.next)

/-- The receiver takes one step, if there is something for it. -/
def recv (capacity : Nat) (c : Receiver α) : Receiver α × Received α :=
  if c.next < c.log.length - capacity then
    (⟨c.log, c.log.length - capacity, Nat.sub_le _ _⟩,
      .lagged (c.log.length - capacity - c.next))
  else
    if h : c.next < c.log.length then
      (⟨c.log, c.next + 1, h⟩, .value c.log[c.next])
    else
      (c, .empty)

@[simp]
theorem behind_new : (new : Receiver α).behind = [] := rfl

theorem lost_append_kept (capacity : Nat) (c : Receiver α) :
    c.lost capacity ++ c.kept capacity = c.behind :=
  List.take_append_drop _ _

@[simp]
theorem log_send (a : α) (c : Receiver α) : (c.send a).log = c.log ++ [a] := rfl

@[simp]
theorem behind_send (a : α) (c : Receiver α) : (c.send a).behind = c.behind ++ [a] :=
  List.drop_append_of_le_length c.next_le

@[simp]
theorem log_recv (capacity : Nat) (c : Receiver α) : (c.recv capacity).1.log = c.log := by
  unfold recv
  split
  · rfl
  · split
    · rfl
    · rfl

/-- A receiver either loses what is gone, or takes the oldest message, or has nothing
to take. -/
theorem recv_cases (capacity : Nat) (c : Receiver α) :
    (∃ missed, (c.recv capacity).2 = .lagged missed ∧ c.lost capacity ≠ [] ∧
      (c.recv capacity).1.behind = c.kept capacity) ∨
    (∃ a, (c.recv capacity).2 = .value a ∧ c.lost capacity = [] ∧
      c.behind = a :: (c.recv capacity).1.behind) ∨
    ((c.recv capacity).2 = .empty ∧ c.behind = [] ∧ (c.recv capacity).1 = c) := by
  have hle := c.next_le
  unfold recv
  split
  · next hgone =>
      refine .inl ⟨_, rfl, ?_, ?_⟩
      · rw [lost, behind, ne_eq, List.take_eq_nil_iff, List.drop_eq_nil_iff]
        omega
      · rw [kept, behind, behind, List.drop_drop]
        dsimp only
        congr 1
        omega
  · next hthere =>
      have hnone : c.lost capacity = [] := by
        rw [lost, List.take_eq_nil_iff]
        exact .inl (by omega)
      split
      · next hlt => exact .inr (.inl ⟨_, rfl, hnone, List.drop_eq_getElem_cons hlt⟩)
      · next hend =>
          refine .inr (.inr ⟨rfl, ?_, rfl⟩)
          rw [behind, List.drop_eq_nil_iff]
          omega

end Receiver

/-! ## The newest message of a key -/

section Newest

variable [DecidableEq κ] (key : α → κ) {k : κ}

/-- The last message of a list that carries the key. -/
def newestOf (k : κ) (l : List α) : Option α :=
  (l.filter fun a => key a = k).getLast?

@[simp]
theorem newestOf_nil : newestOf key k [] = none := rfl

theorem newestOf_append (l m : List α) :
    newestOf key k (l ++ m) = (newestOf key k m).or (newestOf key k l) := by
  rw [newestOf, List.filter_append, List.getLast?_append]
  rfl

theorem newestOf_singleton (a : α) :
    newestOf key k [a] = if key a = k then some a else none := by
  unfold newestOf
  by_cases h : key a = k
  · simp [h]
  · simp [h]

theorem newestOf_cons (a : α) (l : List α) :
    newestOf key k (a :: l) = (newestOf key k l).or (if key a = k then some a else none) := by
  rw [← newestOf_singleton]
  exact newestOf_append key [a] l

theorem mem_of_newestOf {l : List α} {a : α} (h : newestOf key k l = some a) :
    a ∈ l ∧ key a = k := by
  have hmem := List.mem_of_getLast? h
  rwa [List.mem_filter, decide_eq_true_iff] at hmem

theorem newestOf_eq_none_iff {l : List α} :
    newestOf key k l = none ↔ ∀ a ∈ l, key a ≠ k := by
  rw [newestOf, List.getLast?_eq_none_iff, List.filter_eq_nil_iff]
  simp

end Newest

end Broadcast
