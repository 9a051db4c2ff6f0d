import Mathlib.Data.List.Infix
import Mathlib.Tactic.Common

/-!
# Runs of a deterministic step function

A system is given by a total step function `step : σ → α → σ`: an action that
is not enabled in a state leaves the state as it is.  A run is a list of
actions, read from the left.  Interleavings of several parties are runs too:
an action then names the party that moves.

* `run step s as` is the state the actions `as` lead to from `s`;
* `EachStep step ok s as` says that every action of the run meets `ok` in the
  state it is taken from;
* `Throughout step P s as` says that `P` holds in every state the run passes
  through, the first and the last one included.

`run_invariant` carries an invariant to the end of every run, and
`throughout_of_eachStep` through the states of a guarded one.  For a guard that
decides whether a step keeps the property, `throughout_iff_eachStep` and
`run_iff_eachStep` characterise the runs along which, or at the end of which, the
property holds.
-/

namespace Runs

variable {σ α : Type*} (step : σ → α → σ)

/-- The state reached from `s` by taking the actions `as` in order. -/
def run (s : σ) (as : List α) : σ :=
  as.foldl step s

/-- Every action of the run meets `ok` in the state it is taken from. -/
def EachStep (ok : σ → α → Prop) : σ → List α → Prop
  | _, [] => True
  | s, a :: as => ok s a ∧ EachStep ok (step s a) as

/-- `P` holds in every state the run passes through. -/
def Throughout (P : σ → Prop) : σ → List α → Prop
  | s, [] => P s
  | s, a :: as => P s ∧ Throughout P (step s a) as

instance decidableEachStep (ok : σ → α → Prop) [∀ s a, Decidable (ok s a)] :
    ∀ s as, Decidable (EachStep step ok s as)
  | _, [] => .isTrue trivial
  | s, a :: as =>
      haveI := decidableEachStep ok (step s a) as
      inferInstanceAs (Decidable (ok s a ∧ EachStep step ok (step s a) as))

instance decidableThroughout (P : σ → Prop) [DecidablePred P] :
    ∀ s as, Decidable (Throughout step P s as)
  | s, [] => inferInstanceAs (Decidable (P s))
  | s, a :: as =>
      haveI := decidableThroughout P (step s a) as
      inferInstanceAs (Decidable (P s ∧ Throughout step P (step s a) as))

@[simp]
theorem run_nil (s : σ) : run step s [] = s := rfl

@[simp]
theorem run_cons (s : σ) (a : α) (as : List α) :
    run step s (a :: as) = run step (step s a) as := rfl

theorem run_append (s : σ) (as bs : List α) :
    run step s (as ++ bs) = run step (run step s as) bs :=
  List.foldl_append

section Invariants

variable {step} {ok : σ → α → Prop} {I P : σ → Prop}

/-- An invariant of the unguarded step function holds at the end of every run. -/
theorem run_invariant (hstep : ∀ s a, I s → I (step s a)) {s : σ} (hs : I s)
    (as : List α) : I (run step s as) := by
  induction as generalizing s with
  | nil => exact hs
  | cons a as ih => exact ih (hstep s a hs)

/-- What the guarded steps preserve holds in every state of a guarded run. -/
theorem throughout_of_eachStep (hstep : ∀ s a, I s → ok s a → I (step s a)) {s : σ}
    {as : List α} (hs : I s) (hok : EachStep step ok s as) : Throughout step I s as := by
  induction as generalizing s with
  | nil => exact hs
  | cons a as ih => exact ⟨hs, ih (hstep s a hs hok.1) hok.2⟩

/-- What the guarded steps preserve holds at the end of a guarded run. -/
theorem run_of_eachStep (hstep : ∀ s a, I s → ok s a → I (step s a)) {s : σ} {as : List α}
    (hs : I s) (hok : EachStep step ok s as) : I (run step s as) := by
  induction as generalizing s with
  | nil => exact hs
  | cons a as ih => exact ih (hstep s a hs hok.1) hok.2

/-- What holds throughout a run holds before each of its steps. -/
theorem Throughout.eachStep {s : σ} {as : List α} (h : Throughout step P s as) :
    EachStep step (fun s _ => P s) s as := by
  induction as generalizing s with
  | nil => trivial
  | cons a as ih => exact ⟨h.1, ih h.2⟩

theorem Throughout.head {s : σ} {as : List α} (h : Throughout step P s as) : P s := by
  cases as with
  | nil => exact h
  | cons a as => exact h.1

/-- What holds throughout a run holds after each of its steps. -/
theorem EachStep.and_after {s : σ} {as : List α} (hok : EachStep step ok s as)
    (hP : Throughout step P s as) :
    EachStep step (fun s a => ok s a ∧ P (step s a)) s as := by
  induction as generalizing s with
  | nil => trivial
  | cons a as ih => exact ⟨⟨hok.1, hP.2.head⟩, ih hok.2 hP.2⟩

/-- What holds throughout a run holds after each of its prefixes. -/
theorem throughout_iff_initial {s : σ} {as : List α} :
    Throughout step P s as ↔ ∀ bs, bs <+: as → P (run step s bs) := by
  induction as generalizing s with
  | nil =>
      constructor
      · intro h bs hbs
        rw [List.prefix_nil.mp hbs]
        exact h
      · intro h
        exact h [] (List.prefix_refl [])
  | cons a as ih =>
      constructor
      · intro h bs hbs
        cases bs with
        | nil => exact h.1
        | cons b bs =>
            obtain ⟨rfl, htail⟩ := List.cons_prefix_cons.mp hbs
            exact ih.mp h.2 bs htail
      · intro h
        refine ⟨h [] List.nil_prefix, ih.mpr fun bs hbs => ?_⟩
        exact h (a :: bs) (List.cons_prefix_cons.mpr ⟨rfl, hbs⟩)

/-- Weakening the property of the states. -/
theorem Throughout.mono {Q : σ → Prop} (hPQ : ∀ s, P s → Q s) {s : σ} {as : List α}
    (h : Throughout step P s as) : Throughout step Q s as := by
  rw [throughout_iff_initial] at h ⊢
  exact fun bs hbs => hPQ _ (h bs hbs)

/-- When the guard decides whether a step keeps `P`, the runs along which `P`
holds are exactly the guarded ones.  `I` is an invariant of all steps, guarded
or not, that the decision may rely on. -/
theorem throughout_iff_eachStep (hI : ∀ s a, I s → I (step s a))
    (hexact : ∀ s a, I s → P s → (P (step s a) ↔ ok s a)) {s : σ} {as : List α}
    (hIs : I s) (hPs : P s) :
    Throughout step P s as ↔ EachStep step ok s as := by
  induction as generalizing s with
  | nil => exact ⟨fun _ => trivial, fun _ => hPs⟩
  | cons a as ih =>
      constructor
      · rintro ⟨-, htail⟩
        have hnext : P (step s a) := htail.head
        exact ⟨(hexact s a hIs hPs).mp hnext, (ih (hI s a hIs) hnext).mp htail⟩
      · rintro ⟨hok, htail⟩
        have hnext : P (step s a) := (hexact s a hIs hPs).mpr hok
        exact ⟨hPs, (ih (hI s a hIs) hnext).mpr htail⟩

/-- The same where the steps are taken under a guard of their own: `ok'` decides for
the steps that `ok` allows. -/
theorem EachStep.throughout_iff {ok' : σ → α → Prop}
    (hexact : ∀ s a, P s → ok s a → (P (step s a) ↔ ok' s a)) {s : σ} {as : List α}
    (hok : EachStep step ok s as) (hPs : P s) :
    Throughout step P s as ↔ EachStep step ok' s as := by
  induction as generalizing s with
  | nil => exact ⟨fun _ => trivial, fun _ => hPs⟩
  | cons a as ih =>
      constructor
      · rintro ⟨-, htail⟩
        have hnext : P (step s a) := htail.head
        exact ⟨(hexact s a hPs hok.1).mp hnext, (ih hok.2 hnext).mp htail⟩
      · rintro ⟨hok', htail⟩
        have hnext : P (step s a) := (hexact s a hPs hok.1).mpr hok'
        exact ⟨hPs, (ih hok.2 hnext).mpr htail⟩

/-- A guard that every step meets admits every run. -/
theorem eachStep_of_forall (h : ∀ s a, ok s a) (s : σ) (as : List α) : EachStep step ok s as := by
  induction as generalizing s with
  | nil => trivial
  | cons a as ih => exact ⟨h s a, ih (step s a)⟩

/-- A guard that every action of the run meets, whatever the state. -/
theorem eachStep_of_forall_mem {as : List α} (h : ∀ a ∈ as, ∀ s, ok s a) (s : σ) :
    EachStep step ok s as := by
  induction as generalizing s with
  | nil => trivial
  | cons a as ih =>
      exact ⟨h a List.mem_cons_self s, ih (fun b hb => h b (List.mem_cons_of_mem a hb)) (step s a)⟩

/-- Two guards that both admit a run admit it together. -/
theorem EachStep.and {ok' : σ → α → Prop} {s : σ} {as : List α} (h : EachStep step ok s as)
    (h' : EachStep step ok' s as) : EachStep step (fun s a => ok s a ∧ ok' s a) s as := by
  induction as generalizing s with
  | nil => trivial
  | cons a as ih => exact ⟨⟨h.1, h'.1⟩, ih h.2 h'.2⟩

/-- A guard that implies another one where the invariant `I` holds, and keeps `I`,
admits no other runs. -/
theorem EachStep.imp {ok' : σ → α → Prop} (himp : ∀ s a, I s → ok s a → ok' s a)
    (hstep : ∀ s a, I s → ok s a → I (step s a)) {s : σ} {as : List α} (hs : I s)
    (h : EachStep step ok s as) : EachStep step ok' s as := by
  induction as generalizing s with
  | nil => trivial
  | cons a as ih => exact ⟨himp s a hs h.1, ih (hstep s a hs h.1) h.2⟩

/-- Two guards that agree where the invariant `I` holds admit the same runs, when
the steps they admit keep `I`. -/
theorem eachStep_iff_eachStep {ok' : σ → α → Prop} (hiff : ∀ s a, I s → (ok' s a ↔ ok s a))
    (hstep : ∀ s a, I s → ok s a → I (step s a)) {s : σ} {as : List α} (hs : I s) :
    EachStep step ok' s as ↔ EachStep step ok s as :=
  ⟨EachStep.imp (fun s a hI => (hiff s a hI).mp)
      (fun s a hI hok => hstep s a hI ((hiff s a hI).mp hok)) hs,
    EachStep.imp (fun s a hI => (hiff s a hI).mpr) hstep hs⟩

/-- When a step ends in `P` exactly if it starts in `P` and meets the guard, a
run ends in `P` exactly if it starts in `P` and all its steps meet the guard. -/
theorem run_iff_eachStep (hI : ∀ s a, I s → I (step s a))
    (hexact : ∀ s a, I s → (P (step s a) ↔ P s ∧ ok s a)) {s : σ} {as : List α}
    (hIs : I s) :
    P (run step s as) ↔ P s ∧ EachStep step ok s as := by
  induction as generalizing s with
  | nil => exact ⟨fun h => ⟨h, trivial⟩, fun h => h.1⟩
  | cons a as ih =>
      rw [run_cons, ih (hI s a hIs), hexact s a hIs]
      exact and_assoc

end Invariants

end Runs
