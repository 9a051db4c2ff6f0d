import Mathlib.Data.List.Infix
import Mathlib.Data.List.Pairwise
import Mathlib.Tactic.Common

/-!
# Bursts in a list of instants

The instants of an increasing list that fall into an interval are consecutive.  So at most `m`
of them fall into any interval of a width exactly if any `m + 1` consecutive ones span more
than it.
-/

namespace Bursts

/-- The instants from `x` up to `x + width`. -/
def within (x width : Nat) (l : List Nat) : List Nat :=
  l.filter fun t => decide (x ≤ t ∧ t ≤ x + width)

/-- At most `m` instants in any interval of the width. -/
def Sparse (width m : Nat) (l : List Nat) : Prop :=
  ∀ x, (within x width l).length ≤ m

variable {x width m : Nat} {l : List Nat}

theorem mem_within {t : Nat} : t ∈ within x width l ↔ t ∈ l ∧ x ≤ t ∧ t ≤ x + width := by
  rw [within, List.mem_filter, decide_eq_true_eq]

theorem within_of_forall (h : ∀ t ∈ l, x ≤ t ∧ t ≤ x + width) : within x width l = l :=
  List.filter_eq_self.mpr fun t ht => decide_eq_true (h t ht)

theorem within_append (l l' : List Nat) :
    within x width (l ++ l') = within x width l ++ within x width l' :=
  List.filter_append l l'

/-- What an interval holds of an increasing list stands together. -/
theorem exists_split (x width : Nat) (h : l.Pairwise (· ≤ ·)) :
    ∃ before after, l = before ++ within x width l ++ after ∧ ∀ t ∈ before, t < x := by
  induction l with
  | nil => exact ⟨[], [], rfl, fun t ht => by cases ht⟩
  | cons t l ih =>
      obtain ⟨hfirst, hrest⟩ := List.pairwise_cons.mp h
      obtain ⟨before, after, hsplit, hbefore⟩ := ih hrest
      by_cases hearly : t < x
      · refine ⟨t :: before, after, ?_, ?_⟩
        · rw [within, List.filter_cons_of_neg (by simp; omega)]
          exact congrArg (t :: ·) hsplit
        · exact List.forall_mem_cons.mpr ⟨hearly, hbefore⟩
      · -- nothing of the rest comes before the interval any more
        have hnone : before = [] := by
          refine List.eq_nil_iff_forall_not_mem.mpr fun u hu => ?_
          have hle := hfirst u (by rw [hsplit]; simp [hu])
          have hlt := hbefore u hu
          omega
        by_cases hlate : x + width < t
        · refine ⟨[], t :: l, ?_, fun u hu => by cases hu⟩
          have hempty : within x width (t :: l) = [] := by
            refine List.filter_eq_nil_iff.mpr fun u hu => ?_
            have hle : t ≤ u := by
              rcases List.mem_cons.mp hu with rfl | hmem
              · exact Nat.le_refl u
              · exact hfirst u hmem
            simp
            omega
          rw [hempty]
          rfl
        · refine ⟨[], after, ?_, fun u hu => by cases hu⟩
          rw [within, List.filter_cons_of_pos (by simp; omega)]
          rw [hnone] at hsplit
          exact congrArg (t :: ·) hsplit

/-- An increasing list is sparse when no `m + 1` consecutive instants are close together. -/
theorem sparse_iff (h : l.Pairwise (· ≤ ·)) :
    Sparse width m l ↔ ∀ before burst after, l = before ++ burst ++ after →
      burst.length = m + 1 → ∃ t ∈ burst, ∃ u ∈ burst, t + width < u := by
  constructor
  · intro hsparse before burst after hsplit hlength
    by_contra hclose
    obtain ⟨first, rest, rfl⟩ := List.exists_cons_of_length_eq_add_one hlength
    have hsorted : (first :: rest).Pairwise (· ≤ ·) := by
      rw [hsplit] at h
      exact (List.pairwise_append.mp (List.pairwise_append.mp h).1).2.1
    have hall : within first width (first :: rest) = first :: rest := by
      refine within_of_forall fun u hu => ⟨?_, ?_⟩
      · rcases List.mem_cons.mp hu with rfl | hmem
        · exact Nat.le_refl u
        · exact (List.pairwise_cons.mp hsorted).1 u hmem
      · by_contra hfar
        exact hclose ⟨first, List.mem_cons_self, u, hu, by omega⟩
    have hmany := hsparse first
    rw [hsplit, within_append, within_append, hall, List.length_append, List.length_append,
      hlength] at hmany
    omega
  · intro hspread x
    by_contra hmany
    obtain ⟨before, after, hsplit, -⟩ := exists_split x width h
    obtain ⟨t, ht, u, hu, hfar⟩ := hspread before ((within x width l).take (m + 1))
      ((within x width l).drop (m + 1) ++ after)
      (by rw [← List.append_assoc, List.append_assoc before, List.take_append_drop]; exact hsplit)
      (List.length_take_of_le (by omega))
    have ht' := mem_within.mp (List.mem_of_mem_take ht)
    have hu' := mem_within.mp (List.mem_of_mem_take hu)
    omega

/-- Two instants are a `gap` apart for each step between them, but for `slack` of the steps. -/
def Spaced (gap slack : Nat) (l : List Nat) : Prop :=
  ∀ i j (hj : j < l.length) (hij : i < j), l[i] + (j - i - slack) * gap ≤ l[j]

/-- One more instant, a gap after the last one. -/
theorem spaced_append {gap t : Nat} (h : Spaced gap 0 l)
    (ht : ∀ i (hi : i < l.length), l[i] + (l.length - i) * gap ≤ t) : Spaced gap 0 (l ++ [t]) := by
  intro i j hj hij
  rw [List.length_append, List.length_singleton] at hj
  rw [List.getElem_append_left (by omega : i < l.length)]
  by_cases hlast : j < l.length
  · rw [List.getElem_append_left hlast]
    exact h i j hlast hij
  · obtain rfl : j = l.length := by omega
    rw [List.getElem_concat_length rfl]
    exact ht i (by omega)

/-- One more instant, a gap after the last one of spaced instants. -/
theorem spaced_concat {gap t : Nat} (h : Spaced gap 0 l)
    (ht : ∀ last ∈ l.getLast?, last + gap ≤ t) : Spaced gap 0 (l ++ [t]) := by
  refine spaced_append h fun i hi => ?_
  have hlast : l[l.length - 1] + gap ≤ t := by
    refine ht _ ?_
    rw [List.getLast?_eq_getElem?, List.getElem?_eq_getElem (by omega)]
    exact rfl
  by_cases hend : i = l.length - 1
  · subst hend
    rw [show l.length - (l.length - 1) = 1 by omega, Nat.one_mul]
    exact hlast
  · have hspan := h i (l.length - 1) (by omega) (by omega)
    rw [show l.length - i = (l.length - 1 - i - 0) + 1 by omega, Nat.add_mul, Nat.one_mul]
    omega

/-- Spaced instants are no burst. -/
theorem length_within_le {gap slack : Nat} (hgap : 0 < gap) (h : Spaced gap slack l) :
    (within x width l).length ≤ width / gap + slack + 1 := by
  have hsorted : l.Pairwise (· ≤ ·) := by
    rw [List.pairwise_iff_getElem]
    intro i j hi hj hij
    exact le_trans (Nat.le_add_right _ _) (h i j hj hij)
  obtain ⟨before, after, hsplit, -⟩ := exists_split x width hsorted
  have hdiv := Nat.lt_div_mul_add hgap (a := width)
  generalize width / gap = q at hdiv ⊢
  by_contra hmany
  have hlength : l.length =
      before.length + (within x width l).length + after.length := by
    conv_lhs => rw [hsplit]
    simp only [List.length_append]
  have hat : ∀ k (hk : k < (within x width l).length),
      ∃ hl : before.length + k < l.length, l[before.length + k] = (within x width l)[k] := by
    intro k hk
    refine ⟨by omega, ?_⟩
    have hget : l[before.length + k]? =
        (before ++ within x width l ++ after)[before.length + k]? := by
      rw [← hsplit]
    rw [List.append_assoc, List.getElem?_append_right (Nat.le_add_right _ _),
      Nat.add_sub_cancel_left, List.getElem?_append_left hk, List.getElem?_eq_getElem (by omega),
      List.getElem?_eq_getElem hk] at hget
    exact Option.some.inj hget
  -- the first and the last of those in the interval
  obtain ⟨hfirst, heqfirst⟩ := hat 0 (by omega)
  obtain ⟨hlast, heqlast⟩ := hat ((within x width l).length - 1) (by omega)
  have hspan := h _ _ hlast (by omega : before.length + 0 < _)
  have hlow := (mem_within.mp (List.getElem_mem
    (by omega : 0 < (within x width l).length))).2.1
  have hhigh := (mem_within.mp (List.getElem_mem
    (by omega : (within x width l).length - 1 < (within x width l).length))).2.2
  rw [heqfirst, heqlast] at hspan
  have hcount : (q + 1) * gap ≤
      (before.length + ((within x width l).length - 1) - (before.length + 0) - slack) * gap :=
    Nat.mul_le_mul_right gap (by omega)
  rw [Nat.add_mul, Nat.one_mul] at hcount
  omega

end Bursts
