import Mathlib.Data.List.Basic
import Mathlib.Tactic.Common

/-!
# Buffers written row by row

A buffer is a list, read and written by ranges; a range that does not fit is `none`.  A
picture in a buffer is a number of rows, `stride` apart, of which the first `width`
entries count and the rest is padding.

* `slice` and `splice` read and write a range;
* `Filled orig cur stride width content n` says that `cur` is `orig` with its first `n`
  rows replaced by `content`, and nothing else changed.

`Filled.splice` writes one more row, and `Filled.eq` says that the content and the
buffer before determine the buffer after.  `foldlM_range` is the loop rule that carries
them through `for row in 0..rows`.
-/

namespace Rows

variable {α : Type*}

/-! ## Ranges -/

/-- The entries from `start` up to `stop`. -/
def slice (l : List α) (start stop : Nat) : Option (List α) :=
  if start ≤ stop ∧ stop ≤ l.length then some ((l.drop start).take (stop - start)) else none

/-- Writes `entries` at the beginning of the range from `start` up to `stop`. -/
def splice (l : List α) (start stop : Nat) (entries : List α) : Option (List α) :=
  if start + entries.length ≤ stop ∧ stop ≤ l.length then
    some (l.take start ++ entries ++ l.drop (start + entries.length))
  else
    none

theorem slice_eq_some {l : List α} {start stop : Nat} (hle : start ≤ stop)
    (hstop : stop ≤ l.length) : slice l start stop = some ((l.drop start).take (stop - start)) :=
  if_pos ⟨hle, hstop⟩

theorem length_of_slice {l : List α} {start stop : Nat} (hstop : stop ≤ l.length) :
    ((l.drop start).take (stop - start)).length = stop - start := by
  rw [List.length_take, List.length_drop]
  omega

theorem getElem?_slice {l : List α} {start stop i : Nat} (hi : i < stop - start) :
    ((l.drop start).take (stop - start))[i]? = l[start + i]? := by
  rw [List.getElem?_take_of_lt hi, List.getElem?_drop]

theorem splice_eq_some {l entries : List α} {start stop : Nat}
    (hline : start + entries.length ≤ stop) (hstop : stop ≤ l.length) :
    splice l start stop entries =
      some (l.take start ++ entries ++ l.drop (start + entries.length)) :=
  if_pos ⟨hline, hstop⟩

theorem getElem?_splice {l entries : List α} {start i : Nat}
    (hfits : start + entries.length ≤ l.length) :
    (l.take start ++ entries ++ l.drop (start + entries.length))[i]? =
      if start ≤ i ∧ i < start + entries.length then entries[i - start]? else l[i]? := by
  have htake : (l.take start).length = start := by
    rw [List.length_take]
    omega
  have hboth : (l.take start ++ entries).length = start + entries.length := by
    rw [List.length_append, htake]
  by_cases hbelow : i < start
  · rw [if_neg (by omega), List.getElem?_append_left (by omega),
      List.getElem?_append_left (by omega), List.getElem?_take_of_lt hbelow]
  · by_cases hwithin : i < start + entries.length
    · rw [if_pos ⟨by omega, hwithin⟩, List.getElem?_append_left (by omega),
        List.getElem?_append_right (by omega), htake]
    · rw [if_neg (by omega), List.getElem?_append_right (by omega), hboth,
        List.getElem?_drop]
      congr 1
      omega

theorem length_splice {l entries : List α} {start : Nat}
    (hfits : start + entries.length ≤ l.length) :
    (l.take start ++ entries ++ l.drop (start + entries.length)).length = l.length := by
  simp only [List.length_append, List.length_take, List.length_drop]
  omega

/-! ## Loops -/

section Loops

variable {σ : Type*}

/-- A loop over the numbers below `n` that keeps an invariant of the number of turns. -/
theorem foldlM_range {step : σ → Nat → Option σ} {I : Nat → σ → Prop} {s : σ} (n : Nat)
    (hs : I 0 s) (hstep : ∀ k s, k < n → I k s → ∃ s', step s k = some s' ∧ I (k + 1) s') :
    ∃ s', (List.range n).foldlM step s = some s' ∧ I n s' := by
  induction n with
  | zero => exact ⟨s, rfl, hs⟩
  | succ n ih =>
      obtain ⟨s', hrun, hI⟩ := ih fun k s hk => hstep k s (Nat.lt_succ_of_lt hk)
      obtain ⟨s'', hlast, hI'⟩ := hstep n s' (Nat.lt_succ_self n) hI
      refine ⟨s'', ?_, hI'⟩
      rw [List.range_succ, List.foldlM_append, hrun]
      show ([n].foldlM step s' : Option σ) = some s''
      rw [List.foldlM_cons, hlast]
      rfl

/-- The first `n` entries of `f`, when all of them are there. -/
theorem mapM_range {f : Nat → Option α} {n : Nat} (h : ∀ x < n, (f x).isSome = true) :
    ∃ entries, (List.range n).mapM f = some entries ∧ entries.length = n ∧
      ∀ x < n, entries[x]? = f x := by
  induction n with
  | zero => exact ⟨[], rfl, rfl, fun x hx => absurd hx (Nat.not_lt_zero x)⟩
  | succ n ih =>
      obtain ⟨entries, hrun, hlength, hline⟩ := ih fun x hx => h x (Nat.lt_succ_of_lt hx)
      obtain ⟨last, hlast⟩ := Option.isSome_iff_exists.mp (h n (Nat.lt_succ_self n))
      refine ⟨entries ++ [last], ?_, by rw [List.length_append, hlength]; rfl, fun x hx => ?_⟩
      · rw [List.range_succ, List.mapM_append, hrun]
        show ([n].mapM f).bind (fun rest => some (entries ++ rest)) = some (entries ++ [last])
        rw [List.mapM_cons, hlast]
        rfl
      · by_cases heq : x = n
        · rw [heq, List.getElem?_append_right (by omega), hlength, Nat.sub_self, hlast]
          rfl
        · rw [List.getElem?_append_left (by omega)]
          exact hline x (by omega)

end Loops

/-! ## Rows -/

/-- `cur` is `orig` with the first `n` rows replaced by `content`. -/
structure Filled (orig cur : List α) (stride width : Nat) (content : Nat → Nat → Option α)
    (n : Nat) : Prop where
  length_eq : cur.length = orig.length
  written : ∀ row < n, ∀ x < width, cur[row * stride + x]? = content row x
  kept : ∀ i, (∀ row < n, ∀ x < width, i ≠ row * stride + x) → cur[i]? = orig[i]?

section Filled

variable {orig cur cur' : List α} {stride width n : Nat} {content : Nat → Nat → Option α}

theorem filled_zero : Filled orig orig stride width content 0 where
  length_eq := rfl
  written row hrow := absurd hrow (Nat.not_lt_zero row)
  kept _ _ := rfl

/-- A row ends before the next one begins. -/
theorem row_end_le (stride : Nat) {row rows : Nat} (hrow : row < rows) :
    row * stride + stride ≤ rows * stride := by
  rw [← Nat.succ_mul]
  exact Nat.mul_le_mul_right stride hrow

/-- One more row is written. -/
theorem Filled.splice (h : Filled orig cur stride width content n) (hwidth : width ≤ stride)
    {entries : List α} (hlength : entries.length = width)
    (hline : ∀ x < width, entries[x]? = content n x)
    (hroom : n * stride + width ≤ orig.length) {stop : Nat} (hstop : n * stride + width ≤ stop)
    (hstop' : stop ≤ orig.length) :
    ∃ cur', Rows.splice cur (n * stride) stop entries = some cur' ∧
      Filled orig cur' stride width content (n + 1) := by
  have hfits : n * stride + entries.length ≤ cur.length := by
    rw [hlength, h.length_eq]
    exact hroom
  refine ⟨_, splice_eq_some (by omega) (by rw [h.length_eq]; exact hstop'), ?_, ?_, ?_⟩
  · rw [length_splice hfits, h.length_eq]
  · intro row hrow x hx
    rw [getElem?_splice hfits]
    by_cases hlast : row = n
    · subst hlast
      rw [if_pos ⟨Nat.le_add_right _ _, by omega⟩, Nat.add_sub_cancel_left, hline x hx]
    · -- the rows before are below the new one
      have hbefore : row < n := by omega
      have hend := row_end_le stride hbefore
      rw [if_neg (by omega)]
      exact h.written row hbefore x hx
  · intro i hi
    rw [getElem?_splice hfits, if_neg]
    · exact h.kept i fun row hrow => hi row (Nat.lt_succ_of_lt hrow)
    · rintro ⟨hle, hlt⟩
      refine hi n (Nat.lt_succ_self n) (i - n * stride) (by omega) ?_
      omega

/-- The content determines what is written. -/
theorem Filled.eq (h : Filled orig cur stride width content n)
    (h' : Filled orig cur' stride width content n) : cur = cur' := by
  apply List.ext_getElem?
  intro i
  by_cases hrow : ∃ row < n, ∃ x < width, i = row * stride + x
  · obtain ⟨row, hrow, x, hx, rfl⟩ := hrow
    rw [h.written row hrow x hx, h'.written row hrow x hx]
  · have houtside : ∀ row < n, ∀ x < width, i ≠ row * stride + x :=
      fun row hlt x hx heq => hrow ⟨row, hlt, x, hx, heq⟩
    rw [h.kept i houtside, h'.kept i houtside]

/-- Without padding nothing of the buffer before is left. -/
theorem Filled.eq_of_full {orig' : List α} (h : Filled orig cur width width content n)
    (h' : Filled orig' cur' width width content n) (hlength : orig.length = width * n)
    (hlength' : orig'.length = width * n) : cur = cur' := by
  apply List.ext_getElem?
  intro i
  by_cases hi : i < width * n
  · have hpos : 0 < width := by
      rcases Nat.eq_zero_or_pos width with rfl | hpos
      · omega
      · exact hpos
    have hrow : i / width < n := Nat.div_lt_of_lt_mul hi
    have hx : i % width < width := Nat.mod_lt i hpos
    rw [← Nat.div_add_mod' i width, h.written _ hrow _ hx, h'.written _ hrow _ hx]
  · rw [List.getElem?_eq_none (by rw [h.length_eq]; omega),
      List.getElem?_eq_none (by rw [h'.length_eq]; omega)]

/-- Only the entries of the rows are asked of the content. -/
theorem Filled.congr {content' : Nat → Nat → Option α}
    (h : Filled orig cur stride width content n)
    (hcontent : ∀ row < n, ∀ x < width, content row x = content' row x) :
    Filled orig cur stride width content' n where
  length_eq := h.length_eq
  written row hrow x hx := (h.written row hrow x hx).trans (hcontent row hrow x hx)
  kept := h.kept

end Filled

end Rows
