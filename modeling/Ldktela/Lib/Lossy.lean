import Mathlib.Data.List.Basic
import Mathlib.Tactic.Common

/-!
# Bounded channels that refuse

A sender never waits: a message that finds the channel full is dropped and counted.  The
receiver takes the others, in the order in which they were sent.

`Queue` is what the channel itself promises.  `Kept` is what every order of sends and receives
keeps: nothing is made up, repeated or reordered, and every message was taken, or waits, or is
counted as dropped.
-/

namespace Lossy

/-- A bounded channel, by what its two ends are told. -/
structure Queue (α : Type*) (capacity : Nat) where
  State : Type
  empty : State
  /-- The messages that wait, oldest first. -/
  waiting : State → List α
  /-- `true` when the message was taken in. -/
  trySend : α → State → State × Bool
  recv : State → State × Option α
  waiting_empty : waiting empty = []
  sent : ∀ {a s s'}, trySend a s = (s', true) →
    waiting s' = waiting s ++ [a] ∧ (waiting s).length < capacity
  refused : ∀ {a s s'}, trySend a s = (s', false) →
    waiting s' = waiting s ∧ capacity ≤ (waiting s).length
  received : ∀ {a s s'}, recv s = (s', some a) → waiting s = a :: waiting s'
  /-- Nothing waits, or the receiver is to come back. -/
  pending : ∀ {s s'}, recv s = (s', none) → waiting s' = waiting s

variable {α : Type*} {capacity : Nat}

/-- The channel, with the history of both of its ends. -/
structure Channel (q : Queue α capacity) where
  /-- What the sender has offered, oldest first. -/
  offered : List α
  /-- What the receiver has taken, oldest first. -/
  taken : List α
  state : q.State
  dropped : Nat

namespace Channel

variable {q : Queue α capacity}

def new : Channel q := ⟨[], [], q.empty, 0⟩

def queue (c : Channel q) : List α :=
  q.waiting c.state

def trySend (a : α) (c : Channel q) : Channel q :=
  match q.trySend a c.state with
  | (state, true) => { c with offered := c.offered ++ [a], state }
  | (state, false) => { c with offered := c.offered ++ [a], state, dropped := c.dropped + 1 }

/-- The receiver takes the oldest message, if it gets one. -/
def recv (c : Channel q) : Channel q × Option α :=
  match q.recv c.state with
  | (state, none) => ({ c with state }, none)
  | (state, some a) => ({ c with taken := c.taken ++ [a], state }, some a)

structure Kept (c : Channel q) : Prop where
  sublist : List.Sublist (c.taken ++ c.queue) c.offered
  length_offered : c.offered.length = c.taken.length + c.queue.length + c.dropped
  length_queue : c.queue.length ≤ capacity

variable {c c' : Channel q} {a : α}

theorem queue_new : (new : Channel q).queue = [] := q.waiting_empty

theorem kept_new : Kept (new : Channel q) := by
  refine ⟨?_, ?_, ?_⟩
  · rw [queue_new]
    exact List.Sublist.refl []
  · rw [queue_new]
    rfl
  · rw [queue_new]
    exact Nat.zero_le capacity

@[simp]
theorem offered_trySend : (c.trySend a).offered = c.offered ++ [a] := by
  unfold trySend
  split
  · rfl
  · rfl

@[simp]
theorem taken_trySend : (c.trySend a).taken = c.taken := by
  unfold trySend
  split
  · rfl
  · rfl

/-- A message waits behind the others, or finds the channel full. -/
theorem trySend_cases :
    ((c.trySend a).queue = c.queue ++ [a] ∧ (c.trySend a).dropped = c.dropped ∧
        c.queue.length < capacity) ∨
      ((c.trySend a).queue = c.queue ∧ (c.trySend a).dropped = c.dropped + 1 ∧
        capacity ≤ c.queue.length) := by
  unfold trySend
  split
  · next state hsend =>
      obtain ⟨hqueue, hroom⟩ := q.sent hsend
      exact .inl ⟨hqueue, rfl, hroom⟩
  · next state hsend =>
      obtain ⟨hqueue, hfull⟩ := q.refused hsend
      exact .inr ⟨hqueue, rfl, hfull⟩

/-- A message is dropped only when the channel is full. -/
theorem dropped_trySend (h : (c.trySend a).dropped ≠ c.dropped) : capacity ≤ c.queue.length := by
  rcases trySend_cases (c := c) (a := a) with ⟨-, hsame, -⟩ | ⟨-, -, hfull⟩
  · exact absurd hsame h
  · exact hfull

theorem Kept.trySend (h : Kept c) : Kept (c.trySend a) := by
  have hcount := h.length_offered
  rcases trySend_cases (c := c) (a := a) with ⟨hqueue, hdropped, hroom⟩ | ⟨hqueue, hdropped, hfull⟩
  · refine ⟨?_, ?_, ?_⟩
    · rw [taken_trySend, hqueue, offered_trySend, ← List.append_assoc]
      exact h.sublist.append (List.Sublist.refl [a])
    · rw [offered_trySend, taken_trySend, hqueue, hdropped, List.length_append,
        List.length_append, List.length_singleton]
      omega
    · rw [hqueue, List.length_append]
      exact hroom
  · refine ⟨?_, ?_, ?_⟩
    · rw [taken_trySend, hqueue, offered_trySend]
      exact h.sublist.trans (List.sublist_append_left _ _)
    · rw [offered_trySend, taken_trySend, hqueue, hdropped, List.length_append,
        List.length_singleton]
      omega
    · rw [hqueue]
      exact h.length_queue

/-- What is taken was the oldest that waited. -/
theorem recv_eq {received : Option α} (h : c.recv = (c', received)) :
    c.queue = received.toList ++ c'.queue ∧ c'.taken = c.taken ++ received.toList ∧
      c'.offered = c.offered ∧ c'.dropped = c.dropped := by
  unfold recv at h
  split at h
  · next state hrecv =>
      obtain ⟨rfl, rfl⟩ := Prod.mk.inj h
      exact ⟨(q.pending hrecv).symm, (List.append_nil c.taken).symm, rfl, rfl⟩
  · next state a hrecv =>
      obtain ⟨rfl, rfl⟩ := Prod.mk.inj h
      exact ⟨q.received hrecv, rfl, rfl, rfl⟩

theorem Kept.recv (h : Kept c) {received : Option α} (hrecv : c.recv = (c', received)) :
    Kept c' := by
  obtain ⟨hqueue, htaken, hoffered, hdropped⟩ := recv_eq hrecv
  have hsublist := h.sublist
  have hcount := h.length_offered
  have hbound := h.length_queue
  rw [hqueue, ← List.append_assoc, ← htaken, ← hoffered] at hsublist
  rw [hqueue, List.length_append, ← hoffered, ← hdropped] at hcount
  rw [hqueue, List.length_append] at hbound
  refine ⟨hsublist, ?_, by omega⟩
  rw [htaken, List.length_append]
  omega

end Channel

/-- A list does. -/
def Queue.list (α : Type) (capacity : Nat) : Queue α capacity where
  State := List α
  empty := []
  waiting s := s
  trySend a s := if s.length < capacity then (s ++ [a], true) else (s, false)
  recv s := (s.tail, s.head?)
  waiting_empty := rfl
  sent h := by
    split at h
    · next hroom => exact ⟨(Prod.mk.inj h).1.symm, hroom⟩
    · cases h
  refused h := by
    split at h
    · cases h
    · next hfull => exact ⟨(Prod.mk.inj h).1.symm, Nat.not_lt.mp hfull⟩
  received {a s s'} h := by
    cases s with
    | nil => cases h
    | cons b s =>
        obtain ⟨rfl, hb⟩ := Prod.mk.inj h
        rw [Option.some.inj hb]
        rfl
  pending {s s'} h := by
    cases s with
    | nil => exact (Prod.mk.inj h).1.symm
    | cons b s => cases h

end Lossy
