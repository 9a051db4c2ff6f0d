import Mathlib.Data.List.Basic
import Mathlib.Logic.Function.Basic
import Mathlib.Tactic.Common

/-!
# Backtracking patterns

Regular expressions with captures, back references and greedy or lazy repetition, with the
meaning that ECMAScript gives them.  `run r x` lists the states that a match of `r` from `x` can
end in, in the order in which backtracking reaches them; the match itself is the first one.
`repeated` is the loop of a repetition: what is captured inside is forgotten before each turn,
and a turn beyond the required ones must consume something.

A pattern that begins with `^` is tried at the start only, by `exec`; `matchAll` tries every
place, and goes on behind each match.
-/

/-- A pattern over the characters `α`. -/
inductive Regex (α : Type*) where
  | eps
  | set (p : α → Bool)
  | seq (r r' : Regex α)
  | alt (r r' : Regex α)
  | rep (min : Nat) (max : Option Nat) (greedy : Bool) (r : Regex α)
  | group (n : Nat) (r : Regex α)
  | backref (n : Nat)
  | atEnd

namespace Regex

variable {α : Type*}

/-- The input that is left, and what the groups have captured. -/
structure State (α : Type*) where
  rest : List α
  captures : Nat → Option (List α)

namespace State

/-- Nothing is captured at the start of a match. -/
def start (input : List α) : State α := ⟨input, fun _ => none⟩

def reset (ns : List Nat) (x : State α) : State α :=
  { x with captures := fun n => if n ∈ ns then none else x.captures n }

/-- What was read on the way from `x` to `y`. -/
def consumed (x y : State α) : List α :=
  x.rest.take (x.rest.length - y.rest.length)

def capture (n : Nat) (t : List α) (y : State α) : State α :=
  { y with captures := Function.update y.captures n (some t) }

theorem reset_nil (x : State α) : x.reset [] = x := by
  simp [reset]

theorem consumed_eq {x y : State α} {t : List α} (h : x.rest = t ++ y.rest) :
    x.consumed y = t := by
  rw [consumed, h]
  simp

end State

/-- The groups of a pattern. -/
def groups : Regex α → List Nat
  | eps => []
  | set _ => []
  | seq r r' => r.groups ++ r'.groups
  | alt r r' => r.groups ++ r'.groups
  | rep _ _ _ r => r.groups
  | group n r => n :: r.groups
  | backref _ => []
  | atEnd => []

/-- Takes `step` between `min` and `max` times. -/
def repeated (step : State α → List (State α)) (greedy : Bool) (min : Nat) (max : Option Nat)
    (x : State α) : List (State α) :=
  if max = some 0 then [x]
  else
    let more := (step x).flatMap fun y =>
      if 0 < min then repeated step greedy (min - 1) (max.map fun m => m - 1) y
      -- a turn that is not required and reads nothing is no turn
      else if y.rest.length < x.rest.length then
        repeated step greedy 0 (max.map fun m => m - 1) y
      else []
    if 0 < min then more
    else if greedy then more ++ [x]
    else x :: more
termination_by (min, x.rest.length)
decreasing_by
  · exact Prod.Lex.left _ _ (by omega)
  · obtain rfl : min = 0 := by omega
    exact Prod.Lex.right _ (by assumption)

def run [DecidableEq α] : Regex α → State α → List (State α)
  | eps, x => [x]
  | set p, x =>
      match x.rest with
      | [] => []
      | a :: rest => if p a then [{ x with rest }] else []
  | seq r r', x => (run r x).flatMap (run r')
  | alt r r', x => run r x ++ run r' x
  | rep min max greedy r, x => repeated (fun y => run r (y.reset r.groups)) greedy min max x
  | group n r, x => (run r x).map fun y => y.capture n (x.consumed y)
  | backref n, x =>
      match x.captures n with
      | none => [x]
      | some t => if t.isPrefixOf x.rest then [{ x with rest := x.rest.drop t.length }] else []
  | atEnd, x => if x.rest = [] then [x] else []

/-- A match of a pattern that begins with `^`. -/
def exec [DecidableEq α] (r : Regex α) (input : List α) : Option (State α) :=
  (run r (.start input)).head?

/-- One pattern after the other. -/
def cat : List (Regex α) → Regex α
  | [] => eps
  | [r] => r
  | r :: rs => seq r (cat rs)

/-- `r*`. -/
def star (r : Regex α) : Regex α := rep 0 none true r

/-- `r+`. -/
def plus (r : Regex α) : Regex α := rep 1 none true r

/-- `r?`. -/
def opt (r : Regex α) : Regex α := rep 0 (some 1) true r

/-! ## Every match -/

structure Match (α : Type*) where
  index : Nat
  text : List α
  captures : Nat → Option (List α)

/-- The first place of the input, which begins at `index`, where the pattern matches. -/
def search [DecidableEq α] (r : Regex α) (index : Nat) (input : List α) : Option (Match α) :=
  match run r (.start input) with
  | y :: _ => some ⟨index, (State.start input).consumed y, y.captures⟩
  | [] =>
      match input with
      | [] => none
      | _ :: rest => search r (index + 1) rest

theorem le_index_of_search [DecidableEq α] {r : Regex α} {index : Nat} {input : List α}
    {m : Match α} (h : search r index input = some m) : index ≤ m.index := by
  induction input generalizing index with
  | nil =>
      unfold search at h
      split at h
      · obtain rfl := Option.some.inj h
        exact Nat.le_refl index
      · cases h
  | cons a rest ih =>
      unfold search at h
      split at h
      · obtain rfl := Option.some.inj h
        exact Nat.le_refl index
      · exact Nat.le_of_succ_le (ih h)

/-- `matchAll`, from `lastIndex` on.  Behind an empty match the search goes on one further. -/
def matchAll [DecidableEq α] (r : Regex α) (text : List α) (lastIndex : Nat) : List (Match α) :=
  if lastIndex ≤ text.length then
    match _hm : search r lastIndex (text.drop lastIndex) with
    | none => []
    | some m => m :: matchAll r text (if m.text = [] then m.index + 1 else m.index + m.text.length)
  else []
termination_by text.length + 1 - lastIndex
decreasing_by
  have hle := le_index_of_search _hm
  split
  · omega
  · next hne =>
      have hpos : 0 < m.text.length := List.length_pos_iff.mpr hne
      omega

theorem matchAll_of_search_none [DecidableEq α] {r : Regex α} {text : List α} {lastIndex : Nat}
    (h : search r lastIndex (text.drop lastIndex) = none) : matchAll r text lastIndex = [] := by
  rw [matchAll]
  split
  · split
    · rfl
    · next m hm =>
        rw [h] at hm
        cases hm
  · rfl

theorem matchAll_of_search_some [DecidableEq α] {r : Regex α} {text : List α} {lastIndex : Nat}
    {m : Match α} (hle : lastIndex ≤ text.length)
    (h : search r lastIndex (text.drop lastIndex) = some m) :
    matchAll r text lastIndex =
      m :: matchAll r text
        (if m.text = [] then m.index + 1 else m.index + m.text.length) := by
  rw [matchAll, if_pos hle]
  split
  · next hm =>
      rw [h] at hm
      cases hm
  · next m' hm =>
      rw [h] at hm
      rw [Option.some.inj hm]

/-! ## What a match reads -/

section Reads

/-- `k` turns of a loop. -/
inductive Steps (step : State α → List (State α)) : Nat → State α → State α → Prop where
  | zero (x : State α) : Steps step 0 x x
  | succ {k : Nat} {x y z : State α} : y ∈ step x → Steps step k y z → Steps step (k + 1) x z

variable {step : State α → List (State α)} {greedy : Bool}

/-- A loop ends at once, or takes a turn and goes on. -/
theorem cases_of_mem_repeated {min : Nat} {max : Option Nat} {x z : State α}
    (h : z ∈ repeated step greedy min max x) :
    (z = x ∧ (min = 0 ∨ max = some 0)) ∨
      (max ≠ some 0 ∧ ∃ y ∈ step x, (min = 0 → y.rest.length < x.rest.length) ∧
        z ∈ repeated step greedy (min - 1) (max.map fun m => m - 1) y) := by
  rw [repeated] at h
  by_cases hmax : max = some 0
  · rw [if_pos hmax, List.mem_singleton] at h
    exact .inl ⟨h, .inr hmax⟩
  · rw [if_neg hmax] at h
    by_cases hmin : 0 < min
    · simp only [if_pos hmin, List.mem_flatMap] at h
      obtain ⟨y, hy, hz⟩ := h
      exact .inr ⟨hmax, y, hy, by omega, hz⟩
    · obtain rfl : min = 0 := by omega
      -- greedy and lazy loops list the same states, in different orders
      have hcases : z = x ∨ ∃ y ∈ step x, y.rest.length < x.rest.length ∧
          z ∈ repeated step greedy 0 (max.map fun m => m - 1) y := by
        cases greedy <;> simp [or_comm] at h ⊢ <;> grind
      rcases hcases with rfl | ⟨y, hy, hprogress, hz⟩
      · exact .inl ⟨rfl, .inl rfl⟩
      · exact .inr ⟨hmax, y, hy, fun _ => hprogress, hz⟩

/-- A loop takes a number of turns between its bounds. -/
theorem steps_of_mem_repeated {min : Nat} {max : Option Nat} {x z : State α}
    (hmax : ∀ m, max = some m → min ≤ m)
    (h : z ∈ repeated step greedy min max x) :
    ∃ k, min ≤ k ∧ (∀ m, max = some m → k ≤ m) ∧ Steps step k x z := by
  rcases cases_of_mem_repeated h with ⟨rfl, hend⟩ | ⟨hne, y, hy, hprogress, hz⟩
  · refine ⟨0, ?_, fun m _ => Nat.zero_le m, .zero _⟩
    rcases hend with hmin | hzero
    · exact Nat.le_of_eq hmin
    · exact hmax 0 hzero
  · have hmax' : ∀ m, max.map (fun m => m - 1) = some m → min - 1 ≤ m := by
      intro m hm
      obtain ⟨m', hm', rfl⟩ := Option.map_eq_some_iff.mp hm
      exact Nat.sub_le_sub_right (hmax m' hm') 1
    obtain ⟨k, hk, hkmax, hsteps⟩ := steps_of_mem_repeated hmax' hz
    refine ⟨k + 1, by omega, fun m hm => ?_, .succ hy hsteps⟩
    have hlast := hkmax (m - 1) (by rw [hm]; rfl)
    -- the bound goes down by one with the turn that was taken
    have hpos : m ≠ 0 := fun hzero => hne (hzero ▸ hm)
    omega
termination_by (min, x.rest.length)
decreasing_by
  rcases Nat.eq_zero_or_pos min with hmin | hmin
  · subst hmin
    exact Prod.Lex.right _ (hprogress rfl)
  · exact Prod.Lex.left _ _ (by omega)

/-- What every turn keeps, the loop keeps. -/
theorem Steps.induct {R : State α → State α → Prop} (hrefl : ∀ x, R x x)
    (htrans : ∀ x y z, R x y → R y z → R x z) (hstep : ∀ x y, y ∈ step x → R x y) {k : Nat}
    {x z : State α} (h : Steps step k x z) : R x z := by
  induction h with
  | zero x => exact hrefl x
  | succ hy _ ih => exact htrans _ _ _ (hstep _ _ hy) ih

end Reads

/-- On the way from `x` to `y` the input `t` is read and nothing is captured. -/
structure Reads (x y : State α) (t : List α) : Prop where
  rest : x.rest = t ++ y.rest
  captures : y.captures = x.captures

theorem Reads.refl (x : State α) : Reads x x [] := ⟨rfl, rfl⟩

theorem Reads.trans {x y z : State α} {t u : List α} (h : Reads x y t) (h' : Reads y z u) :
    Reads x z (t ++ u) :=
  ⟨by rw [h.rest, h'.rest, List.append_assoc], h'.captures.trans h.captures⟩

section Patterns

variable [DecidableEq α] {p : α → Bool} {r r' : Regex α} {rs : List (Regex α)} {x y z : State α}

theorem mem_run_set (h : y ∈ run (set p) x) : ∃ a, p a = true ∧ Reads x y [a] := by
  cases hrest : x.rest with
  | nil => simp [run, hrest] at h
  | cons a rest =>
      simp only [run, hrest] at h
      split at h
      · next hp =>
          obtain rfl := List.mem_singleton.mp h
          exact ⟨a, hp, hrest, rfl⟩
      · cases h

theorem mem_run_seq : z ∈ run (seq r r') x ↔ ∃ y ∈ run r x, z ∈ run r' y := by
  rw [run, List.mem_flatMap]

theorem mem_run_alt : y ∈ run (alt r r') x ↔ y ∈ run r x ∨ y ∈ run r' x := by
  rw [run, List.mem_append]

theorem mem_run_group {n : Nat} :
    y ∈ run (group n r) x ↔ ∃ z ∈ run r x, y = z.capture n (x.consumed z) := by
  simp only [run, List.mem_map, eq_comm]

/-- A back reference reads what its group has captured. -/
theorem mem_run_backref {n : Nat} {t : List α} (ht : x.captures n = some t)
    (h : y ∈ run (backref n) x) : Reads x y t := by
  simp only [run, ht] at h
  split at h
  · next hstart =>
      obtain rfl := List.mem_singleton.mp h
      obtain ⟨rest, hrest⟩ := List.isPrefixOf_iff_prefix.mp hstart
      refine ⟨?_, rfl⟩
      rw [← hrest, List.drop_left]
  · cases h

theorem mem_run_atEnd (h : y ∈ run atEnd x) : y = x ∧ x.rest = [] := by
  rw [run] at h
  split at h
  · next hend => exact ⟨List.mem_singleton.mp h, hend⟩
  · cases h

theorem mem_run_cat_cons :
    z ∈ run (cat (r :: r' :: rs)) x ↔ ∃ y ∈ run r x, z ∈ run (cat (r' :: rs)) y :=
  mem_run_seq

/-- A loop over single characters. -/
theorem mem_run_rep_set {min : Nat} {max : Option Nat} {greedy : Bool}
    (hmax : ∀ m, max = some m → min ≤ m) (h : y ∈ run (rep min max greedy (set p)) x) :
    ∃ t, Reads x y t ∧ (∀ a ∈ t, p a = true) ∧ min ≤ t.length ∧
      ∀ m, max = some m → t.length ≤ m := by
  obtain ⟨k, hk, hkmax, hsteps⟩ := steps_of_mem_repeated hmax h
  have hread : ∃ t, Reads x y t ∧ (∀ a ∈ t, p a = true) ∧ t.length = k := by
    clear hk hkmax h
    induction hsteps with
    | zero x => exact ⟨[], .refl x, by simp, rfl⟩
    | succ hstep _ ih =>
        obtain ⟨a, ha, hread⟩ := mem_run_set hstep
        obtain ⟨t, hread', hall, hlength⟩ := ih
        rw [groups, State.reset_nil] at hread
        exact ⟨a :: t, hread.trans hread', by simpa using ⟨ha, hall⟩, by simp [hlength]⟩
  obtain ⟨t, hread, hall, hlength⟩ := hread
  exact ⟨t, hread, hall, hlength ▸ hk, fun m hm => hlength ▸ hkmax m hm⟩

theorem mem_run_star_set (h : y ∈ run (star (set p)) x) :
    ∃ t, Reads x y t ∧ ∀ a ∈ t, p a = true := by
  obtain ⟨t, hread, hall, -, -⟩ := mem_run_rep_set (by simp) h
  exact ⟨t, hread, hall⟩

theorem mem_run_plus_set (h : y ∈ run (plus (set p)) x) :
    ∃ t, Reads x y t ∧ (∀ a ∈ t, p a = true) ∧ t ≠ [] := by
  obtain ⟨t, hread, hall, hlength, -⟩ := mem_run_rep_set (by simp) h
  exact ⟨t, hread, hall, List.ne_nil_of_length_pos hlength⟩

/-- `r?` is `r`, or nothing. -/
theorem mem_run_opt (h : y ∈ run (opt r) x) : y = x ∨ y ∈ run r (x.reset r.groups) := by
  obtain ⟨k, -, hk, hsteps⟩ := steps_of_mem_repeated (by simp) h
  have hk1 : k ≤ 1 := hk 1 rfl
  cases hsteps with
  | zero => exact .inl rfl
  | succ hstep hsteps =>
      obtain rfl : _ = 0 := Nat.le_zero.mp (Nat.le_of_succ_le_succ hk1)
      cases hsteps
      exact .inr hstep

/-- What a group captures is what is read inside it. -/
theorem mem_run_group_reads {n : Nat} {P : List α → Prop}
    (hr : ∀ z ∈ run r x, ∃ t, Reads x z t ∧ P t) (h : y ∈ run (group n r) x) :
    ∃ t, P t ∧ x.rest = t ++ y.rest ∧ y.captures = Function.update x.captures n (some t) := by
  obtain ⟨z, hz, rfl⟩ := mem_run_group.mp h
  obtain ⟨t, hread, hP⟩ := hr z hz
  refine ⟨t, hP, hread.rest, ?_⟩
  rw [State.capture, State.consumed_eq hread.rest, hread.captures]

/-- Where a search finds a match. -/
theorem search_spec {index : Nat} {input : List α} {m : Match α}
    (h : search r index input = some m) :
    ∃ skipped rest y, input = skipped ++ rest ∧ m.index = index + skipped.length ∧
      y ∈ run r (.start rest) ∧ m.text = (State.start rest).consumed y ∧
      m.captures = y.captures := by
  induction input generalizing index with
  | nil =>
      unfold search at h
      split at h
      · next y ys hrun =>
          obtain rfl := Option.some.inj h
          exact ⟨[], [], y, rfl, rfl, by rw [hrun]; exact List.mem_cons_self, rfl, rfl⟩
      · cases h
  | cons a input ih =>
      unfold search at h
      split at h
      · next y ys hrun =>
          obtain rfl := Option.some.inj h
          exact ⟨[], a :: input, y, rfl, rfl, by rw [hrun]; exact List.mem_cons_self, rfl, rfl⟩
      · obtain ⟨skipped, rest, y, hinput, hindex, hy⟩ := ih h
        refine ⟨a :: skipped, rest, y, by rw [hinput, List.cons_append], ?_, hy⟩
        rw [hindex, List.length_cons]
        omega

end Patterns

end Regex
