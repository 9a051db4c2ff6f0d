import Ldktela.Lib.Runs

/-!
# Two runs of the same actions

A relation between the states of two systems that every action keeps holds at the end of every
run, and so does a condition on the actions that is stated on the first system alone.  Where an
action of the one takes any number of actions of the other, the labels of both are compared
(`run_simulated`).  Two systems that answer each action, and stop at the first error, answer a list
of actions alike when every pair of steps does.
-/

namespace Runs

variable {σ τ α : Type*} {step : σ → α → σ} {step' : τ → α → τ} {R : σ → τ → Prop}
  {ok : σ → α → Prop}

/-- What the relation says of two states, it says of every pair the two runs pass through. -/
theorem run_related_take (hstep : ∀ s t a, R s t → ok s a → R (step s a) (step' t a)) {s : σ}
    {t : τ} {as : List α} (h : R s t) (hok : EachStep step ok s as) (k : Nat) :
    R (run step s (as.take k)) (run step' t (as.take k)) := by
  induction as generalizing s t k with
  | nil =>
      rw [List.take_nil]
      exact h
  | cons a as ih =>
      cases k with
      | zero => exact h
      | succ k => exact ih (hstep s t a h hok.1) hok.2 k

/-- Each action of the first system is some actions of the second with the same labels, and so is
each run. -/
theorem run_simulated {β γ : Type*} {step' : τ → β → τ} {label : α → List γ}
    {label' : β → List γ}
    (hstep : ∀ s t a, R s t → ok s a →
      ∃ bs : List β, bs.flatMap label' = label a ∧ R (step s a) (run step' t bs))
    {s : σ} {t : τ} {as : List α} (h : R s t) (hok : EachStep step ok s as) :
    ∃ bs : List β, bs.flatMap label' = as.flatMap label ∧ R (run step s as) (run step' t bs) := by
  induction as generalizing s t with
  | nil => exact ⟨[], rfl, h⟩
  | cons a as ih =>
      obtain ⟨first, hfirst, hnext⟩ := hstep s t a h hok.1
      obtain ⟨rest, hrest, hend⟩ := ih hnext hok.2
      refine ⟨first ++ rest, ?_, ?_⟩
      · rw [List.flatMap_append, hfirst, hrest, List.flatMap_cons]
      · rw [run_append]
        exact hend

/-! ## Answers up to the first error -/

section Drive

variable {σ τ α β ε : Type*}

/-- The answers to a list of actions, and the error that ended them. -/
def drive (step : σ → α → Except ε (β × σ)) : σ → List α → List β × Option ε
  | _, [] => ([], none)
  | s, a :: as =>
      match step s a with
      | .error e => ([], some e)
      | .ok (b, s) => (b :: (drive step s as).1, (drive step s as).2)

/-- Two steps give one answer and leave related states, or fail alike. -/
inductive Agree (R : σ → τ → Prop) : Except ε (β × σ) → Except ε (β × τ) → Prop where
  | error (e : ε) : Agree R (.error e) (.error e)
  | ok (b : β) {s : σ} {t : τ} (h : R s t) : Agree R (.ok (b, s)) (.ok (b, t))

/-- A condition on every step that is taken. -/
def Along (step : σ → α → Except ε (β × σ)) (ok : σ → α → Prop) : σ → List α → Prop
  | _, [] => True
  | s, a :: as => ok s a ∧ ∀ b s', step s a = .ok (b, s') → Along step ok s' as

variable {step : σ → α → Except ε (β × σ)} {step' : τ → α → Except ε (β × τ)} {R : σ → τ → Prop}
  {ok : σ → α → Prop}

/-- What the second system leaves may be looked at from farther away. -/
theorem Agree.map {υ : Type*} {T : σ → υ → Prop} {f : τ → υ} {x : Except ε (β × σ)}
    {y : Except ε (β × τ)} (h : Agree R x y) (hf : ∀ s t, R s t → T s (f t)) :
    Agree T x (y.map fun (b, t) => (b, f t)) := by
  cases h with
  | error e => exact .error e
  | ok b h => exact .ok b (hf _ _ h)

theorem along_of_forall (h : ∀ s a, ok s a) (s : σ) (as : List α) : Along step ok s as := by
  induction as generalizing s with
  | nil => trivial
  | cons a as ih => exact ⟨h s a, fun _ s' _ => ih s'⟩

theorem drive_related (hstep : ∀ s t a, R s t → ok s a → Agree R (step s a) (step' t a)) {s : σ}
    {t : τ} {as : List α} (h : R s t) (hok : Along step ok s as) :
    drive step s as = drive step' t as := by
  induction as generalizing s t with
  | nil => rfl
  | cons a as ih =>
      have hagree := hstep s t a h hok.1
      have hrest := hok.2
      rw [drive, drive]
      generalize step s a = answer at hagree hrest
      generalize step' t a = answer' at hagree
      cases hagree with
      | error e => rfl
      | ok b hnext => simp only [ih hnext (hrest b _ rfl)]

end Drive

end Runs
