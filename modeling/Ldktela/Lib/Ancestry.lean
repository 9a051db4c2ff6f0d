import Mathlib.Data.List.Basic
import Mathlib.Data.Set.Finite.List
import Mathlib.Logic.Relation
import Mathlib.Order.WellFounded
import Mathlib.Tactic.Common

/-!
# The top of an ancestry

`parent a b` says that `a` is the parent of `b`; the ancestors of `b` are what a chain of
parents leads to.  A member of a finite set is at the `Top` when no other member is among its
ancestors, wherever in the chain, and where the ancestry has no cycles there is one.

A search through a list by a test that every top passes finds a top exactly when each member
that passes the test without being one comes after a member that is (`find?_top_iff`).
-/

namespace Ancestry

variable {α : Type*} {parent : α → α → Prop} {S : α → Prop} {l : List α}

/-- Nothing is its own ancestor. -/
def Acyclic (parent : α → α → Prop) : Prop :=
  ∀ a, ¬ Relation.TransGen parent a a

/-- Parents that come first in some numbering form no cycle. -/
theorem acyclic_of_rank (rank : α → Nat) (h : ∀ a b, parent a b → rank a < rank b) :
    Acyclic parent := by
  have hrank : ∀ a b, Relation.TransGen parent a b → rank a < rank b := by
    intro a b hab
    induction hab with
    | single hab => exact h _ _ hab
    | tail _ hbc ih => exact ih.trans (h _ _ hbc)
  exact fun a ha => lt_irrefl _ (hrank a a ha)

/-- A member with no other member above it. -/
def Top (parent : α → α → Prop) (S : α → Prop) (a : α) : Prop :=
  S a ∧ ∀ b, S b → ¬ Relation.TransGen parent b a

theorem exists_top (hacyclic : Acyclic parent) (hl : ∀ a, S a → a ∈ l) (hS : ∃ a, S a) :
    ∃ a, Top parent S a := by
  obtain ⟨a, ha⟩ := hS
  let above : {a // a ∈ l} → {a // a ∈ l} → Prop :=
    fun a b => Relation.TransGen parent a.1 b.1
  -- a finite order has a minimal member among those of `S`
  have hfinite : Finite {a // a ∈ l} := l.finite_toSet
  have htrans : IsTrans {a // a ∈ l} above := ⟨fun _ _ _ => Relation.TransGen.trans⟩
  have hirrefl : Std.Irrefl above := ⟨fun a => hacyclic a.1⟩
  have hwf : WellFounded above := Finite.wellFounded_of_trans_of_irrefl above
  obtain ⟨top, htop, hmin⟩ := hwf.has_min {a | S a.1} ⟨⟨a, hl a ha⟩, ha⟩
  exact ⟨top.1, htop, fun b hb => hmin ⟨b, hl b hb⟩ hb⟩

/-- A member with all the others below it is the only top. -/
theorem Top.eq_of_forall {a r : α} (ha : Top parent S a) (hr : S r)
    (hbelow : ∀ b, S b → b = r ∨ Relation.TransGen parent r b) : a = r :=
  (hbelow a ha.1).resolve_right (ha.2 r hr)

/-- Each member that passes the test without being at the top comes after one that is. -/
def TopFirst (parent : α → α → Prop) (S : α → Prop) (p : α → Bool) (l : List α) : Prop :=
  ∀ before a after, l = before ++ a :: after → p a = true → ¬ Top parent S a →
    ∃ t ∈ before, Top parent S t

theorem find?_top_iff {p : α → Bool} (htest : ∀ a, Top parent S a → a ∈ l ∧ p a = true)
    (hS : ∃ a, Top parent S a) :
    (∃ a, l.find? p = some a ∧ Top parent S a) ↔ TopFirst parent S p l := by
  obtain ⟨top, htop⟩ := hS
  obtain ⟨hmem, hp⟩ := htest top htop
  obtain ⟨found, hfound⟩ := Option.isSome_iff_exists.mp (List.find?_isSome.mpr ⟨top, hmem, hp⟩)
  obtain ⟨hfoundTest, as, bs, hsplit, hbefore⟩ := List.find?_eq_some_iff_append.mp hfound
  constructor
  · rintro ⟨a, ha, hatop⟩ before b after hl hb hnot
    obtain rfl : found = a := Option.some.inj (hfound.symm.trans ha)
    -- `b` is not the one found, so it comes after it
    rw [hsplit] at hl
    rcases List.append_eq_append_iff.mp hl with ⟨cs, rfl, hcs⟩ | ⟨cs, rfl, hcs⟩
    · cases cs with
      | nil =>
          rw [List.nil_append, List.cons.injEq] at hcs
          exact absurd (hcs.1 ▸ hatop) hnot
      | cons c cs =>
          rw [List.cons_append, List.cons.injEq] at hcs
          exact ⟨found, by simp [hcs.1], hatop⟩
    · cases cs with
      | nil =>
          rw [List.nil_append, List.cons.injEq] at hcs
          exact absurd (hcs.1 ▸ hatop) hnot
      | cons c cs =>
          rw [List.cons_append, List.cons.injEq] at hcs
          have hnotTest := hbefore b (by simp [hcs.1])
          rw [hb] at hnotTest
          cases hnotTest
  · intro hfirst
    refine ⟨found, hfound, ?_⟩
    by_contra hnot
    obtain ⟨t, ht, httop⟩ := hfirst as found bs hsplit hfoundTest hnot
    have hnotTest := hbefore t ht
    rw [(htest t httop).2] at hnotTest
    cases hnotTest

end Ancestry
