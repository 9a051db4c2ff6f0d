import Mathlib.Data.List.Basic

/-!
# Attempts one after the other

Computations that fail and keep the state they failed in, and the loop that makes one
attempt after the other: the first that succeeds is the answer, an error that is final
ends the loop, any other is remembered in case the rest fails as well.

`firstOf_eq_ok_iff` says when the loop succeeds: after attempts that `Fail` there is one
that does not.
-/

namespace Attempts

variable {ε ε' σ α β : Type}

/-! ## Sequences -/

theorem bind_eq_ok {x : EStateM ε σ α} {f : α → EStateM ε σ β} {b : β} {s s' : σ} :
    (x >>= f) s = .ok b s' ↔ ∃ a s₁, x s = .ok a s₁ ∧ f a s₁ = .ok b s' := by
  show EStateM.bind x f s = .ok b s' ↔ _
  unfold EStateM.bind
  cases x s with
  | ok a s₁ => simp
  | error e s₁ => simp

theorem adaptExcept_eq_ok {f : ε → ε'} {x : EStateM ε σ α} {a : α} {s s' : σ} :
    x.adaptExcept f s = .ok a s' ↔ x s = .ok a s' := by
  unfold EStateM.adaptExcept
  cases x s with
  | ok a s₁ => simp
  | error e s₁ => simp

/-- The answer that is there, or the error. -/
def orThrow (e : ε) : Option α → EStateM ε σ α
  | some a => pure a
  | none => throw e

theorem orThrow_eq_ok {e : ε} {o : Option α} {a : α} {s s' : σ} :
    orThrow e o s = .ok a s' ↔ o = some a ∧ s = s' := by
  cases o with
  | none =>
      show EStateM.Result.error e s = .ok a s' ↔ _
      simp
  | some b =>
      show EStateM.Result.ok b s = .ok a s' ↔ _
      simp

/-! ## The loop -/

/-- The first attempt that succeeds.  The error is the final one, or else the last; none
when nothing was attempted. -/
def firstOf (final : ε → Bool) (attempt : α → EStateM ε σ β) :
    List α → Option ε → EStateM (Option ε) σ β
  | [], last => throw last
  | a :: rest, _ => fun s =>
      match attempt a s with
      | .ok b s => .ok b s
      | .error e s => if final e then .error (some e) s else firstOf final attempt rest (some e) s

/-- The attempts fail one after the other, and none of the errors is final. -/
inductive Fail (final : ε → Bool) (attempt : α → EStateM ε σ β) : List α → σ → σ → Prop
  | nil {s} : Fail final attempt [] s s
  | cons {a rest e s s₁ s'} : attempt a s = .error e s₁ → final e = false →
      Fail final attempt rest s₁ s' → Fail final attempt (a :: rest) s s'

section Loop

variable {final : ε → Bool} {attempt : α → EStateM ε σ β} {attempts before after : List α}
  {last : Option ε} {a : α} {b : β} {s s₁ s' : σ}

theorem firstOf_cons_of_ok (h : attempt a s = .ok b s₁) :
    firstOf final attempt (a :: after) last s = .ok b s₁ := by
  simp only [firstOf, h]

theorem firstOf_cons_of_error {e : ε} (h : attempt a s = .error e s₁) :
    firstOf final attempt (a :: after) last s =
      if final e then .error (some e) s₁ else firstOf final attempt after (some e) s₁ := by
  simp only [firstOf, h]

/-- Attempts that fail are passed over. -/
theorem Fail.firstOf_append (h : Fail final attempt before s s₁) (after : List α)
    (last : Option ε) : ∃ last', firstOf final attempt (before ++ after) last s =
      firstOf final attempt after last' s₁ := by
  induction h generalizing last with
  | nil => exact ⟨last, rfl⟩
  | @cons first rest e s s₁ s' hattempt hfinal _ ih =>
      obtain ⟨last', hrest⟩ := ih (some e)
      refine ⟨last', ?_⟩
      rw [List.cons_append, firstOf_cons_of_error hattempt, hfinal]
      exact hrest

theorem firstOf_eq_ok_iff :
    firstOf final attempt attempts last s = .ok b s' ↔
      ∃ before a after s₁, attempts = before ++ a :: after ∧
        Fail final attempt before s s₁ ∧ attempt a s₁ = .ok b s' := by
  constructor
  · intro h
    induction attempts generalizing s last with
    | nil => cases h
    | cons first rest ih =>
        cases hattempt : attempt first s with
        | ok b₁ s₁ =>
            -- nothing failed before it
            rw [firstOf_cons_of_ok hattempt] at h
            cases h
            exact ⟨[], first, rest, s, rfl, .nil, hattempt⟩
        | error e s₁ =>
            rw [firstOf_cons_of_error hattempt] at h
            -- a final error is no answer, after any other the rest is as if it stood alone
            split at h
            · cases h
            · next hfinal =>
                obtain ⟨before, a, after, s₂, rfl, hfail, hok⟩ := ih h
                have hfinal' : final e = false := Bool.eq_false_iff.mpr hfinal
                exact ⟨first :: before, a, after, s₂, rfl, .cons hattempt hfinal' hfail, hok⟩
  · rintro ⟨before, a, after, s₁, rfl, hfail, hok⟩
    obtain ⟨last', hrest⟩ := hfail.firstOf_append (a :: after) last
    rw [hrest, firstOf_cons_of_ok hok]

end Loop

end Attempts
