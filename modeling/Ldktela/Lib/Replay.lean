import Mathlib.Data.List.Infix
import Mathlib.Tactic.Common

/-!
# Replaying a log of updates

A copy of a value is kept by sending it the updates that were made to the value.
When the copy starts from a reading of the value, some of the updates it receives
are ones the reading already shows; they are replayed over their own result.

`Settled apply log x` says that replaying what is left of the log, from any point of
it on, leaves `x` as it is.  `Settled.append` is the rule for updates that are made
and logged: it asks of each that it is `Absorbed`, that is, that it overwrites the
whole value, or that every update hides it or commutes with it.
-/

namespace Replay

variable {σ α : Type*} (apply : σ → α → σ)

/-- The update leads to one value, whatever it is made to. -/
def Overwrites (u : α) : Prop :=
  ∀ x y, apply x u = apply y u

/-- A second time changes nothing, and every other update hides this one or commutes
with it. -/
structure Partial (u : α) : Prop where
  twice : ∀ x, apply (apply x u) u = apply x u
  hidden_or_commutes : ∀ x v,
    apply (apply x u) v = apply x v ∨ apply (apply x u) v = apply (apply x v) u

/-- The update may be made early: at the end of a log it has the last word. -/
def Absorbed (u : α) : Prop :=
  Overwrites apply u ∨ Partial apply u

/-- What is left of the log, from any point on, changes nothing. -/
def Settled (log : List α) (x : σ) : Prop :=
  ∀ rest, rest <:+ log → rest.foldl apply x = x

variable {apply} {u : α} {log updates : List α} {x : σ}

/-- An update that ends a log may be made before it too. -/
theorem foldl_concat_absorbed (hu : Absorbed apply u) (log : List α) (x : σ) :
    (log ++ [u]).foldl apply (apply x u) = (log ++ [u]).foldl apply x := by
  cases hu with
  | inl hover =>
      simp only [List.foldl_append, List.foldl_cons, List.foldl_nil]
      exact hover _ _
  | inr hpart =>
      induction log generalizing x with
      | nil => exact hpart.twice x
      | cons v log ih =>
          simp only [List.cons_append, List.foldl_cons]
          cases hpart.hidden_or_commutes x v with
          | inl hhidden => rw [hhidden]
          | inr hcommutes => rw [hcommutes, ih]

theorem settled_nil (x : σ) : Settled apply [] x := by
  intro rest hrest
  rw [List.suffix_nil.mp hrest]
  rfl

theorem Settled.foldl (h : Settled apply log x) : log.foldl apply x = x :=
  h log List.suffix_rfl

/-- The first update of the log is sent. -/
theorem Settled.tail (h : Settled apply (u :: log) x) : Settled apply log x :=
  fun rest hrest => h rest (hrest.trans (List.suffix_cons u log))

/-- An update is made, and logged. -/
theorem Settled.concat (hu : Absorbed apply u) (h : Settled apply log x) :
    Settled apply (log ++ [u]) (apply x u) := by
  intro rest hrest
  rcases List.suffix_concat_iff.mp hrest with rfl | ⟨rest', rfl, hrest'⟩
  · rfl
  · rw [foldl_concat_absorbed hu, List.foldl_append, h rest' hrest']
    rfl

/-- Several updates are made, and logged in their order. -/
theorem Settled.append (hall : ∀ u ∈ updates, Absorbed apply u) (h : Settled apply log x) :
    Settled apply (log ++ updates) (updates.foldl apply x) := by
  induction updates generalizing log x with
  | nil => simpa using h
  | cons u updates ih =>
      have hfirst : Settled apply (log ++ [u]) (apply x u) :=
        h.concat (hall u List.mem_cons_self)
      have hrest := ih (fun v hv => hall v (List.mem_cons_of_mem u hv)) hfirst
      simpa using hrest

end Replay
