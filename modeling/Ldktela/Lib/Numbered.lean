import Mathlib.Data.List.Basic
import Mathlib.Tactic.Common

/-!
# Consecutively numbered lists

`Numbered num start l` says that the entries of `l` carry the numbers
`start + 1, start + 2, ...` in order.  A log that numbers its entries when it
appends them is numbered from `0`; every suffix of it is numbered from the
number of entries that were dropped.
-/

variable {φ : Type*} {num : φ → Nat}

/-- The entries carry the numbers `start + 1, start + 2, ...` in order. -/
def Numbered (num : φ → Nat) : Nat → List φ → Prop
  | _, [] => True
  | start, f :: fs => num f = start + 1 ∧ Numbered num (start + 1) fs

namespace Numbered

theorem append_iff {start : Nat} {l m : List φ} :
    Numbered num start (l ++ m) ↔
      Numbered num start l ∧ Numbered num (start + l.length) m := by
  induction l generalizing start with
  | nil => simp [Numbered]
  | cons f fs ih =>
      simp only [List.cons_append, Numbered, ih, List.length_cons, and_assoc]
      rw [show start + 1 + fs.length = start + (fs.length + 1) by omega]

/-- Appending an entry that carries the next number. -/
theorem snoc {start : Nat} {l : List φ} {f : φ} (h : Numbered num start l)
    (hf : num f = start + l.length + 1) : Numbered num start (l ++ [f]) :=
  append_iff.mpr ⟨h, hf, trivial⟩

theorem drop {start n : Nat} {l : List φ} (h : Numbered num start l)
    (hn : n ≤ l.length) : Numbered num (start + n) (l.drop n) := by
  have hsplit : Numbered num start (l.take n ++ l.drop n) := by
    rw [List.take_append_drop]
    exact h
  have htail := (append_iff.mp hsplit).2
  rwa [List.length_take_of_le hn] at htail

theorem num_le {start : Nat} {l : List φ} (h : Numbered num start l) {f : φ}
    (hf : f ∈ l) : num f ≤ start + l.length := by
  induction l generalizing start with
  | nil => cases hf
  | cons g gs ih =>
      obtain ⟨hg, hgs⟩ := h
      rcases List.mem_cons.mp hf with rfl | hmem
      · simp only [List.length_cons]
        omega
      · have := ih hgs hmem
        simp only [List.length_cons]
        omega

theorem lt_num {start : Nat} {l : List φ} (h : Numbered num start l) {f : φ}
    (hf : f ∈ l) : start < num f := by
  induction l generalizing start with
  | nil => cases hf
  | cons g gs ih =>
      obtain ⟨hg, hgs⟩ := h
      rcases List.mem_cons.mp hf with rfl | hmem
      · omega
      · have := ih hgs hmem
        omega

theorem take {start : Nat} {l : List φ} (h : Numbered num start l) (n : Nat) :
    Numbered num start (l.take n) := by
  have hsplit : Numbered num start (l.take n ++ l.drop n) := by
    rw [List.take_append_drop]
    exact h
  exact (append_iff.mp hsplit).1

/-- The numbers of the entries, listed. -/
theorem map_eq_range' {start : Nat} {l : List φ} (h : Numbered num start l) :
    l.map num = List.range' (start + 1) l.length := by
  induction l generalizing start with
  | nil => rfl
  | cons f fs ih =>
      obtain ⟨hf, hfs⟩ := h
      rw [List.map_cons, ih hfs, hf, List.length_cons, List.range'_succ]

/-- No number is left out. -/
theorem exists_num {start n : Nat} {l : List φ} (h : Numbered num start l) (hn : start < n)
    (hle : n ≤ start + l.length) : ∃ f ∈ l, num f = n := by
  have hmem : n ∈ l.map num := by
    rw [h.map_eq_range', List.mem_range'_1]
    omega
  simpa using hmem

/-- The entry with the smallest number is the first one. -/
theorem eq_cons_of_le {start : Nat} {l : List φ} {f : φ} (h : Numbered num start l)
    (hf : f ∈ l) (hmin : ∀ g ∈ l, num f ≤ num g) : ∃ rest, l = f :: rest := by
  cases l with
  | nil => cases hf
  | cons g gs =>
      rcases List.mem_cons.mp hf with rfl | htail
      · exact ⟨gs, rfl⟩
      · have hlater := h.2.lt_num htail
        have hfirst := hmin g List.mem_cons_self
        have hg := h.1
        omega

/-- Different entries carry different numbers. -/
theorem nodup_map {start : Nat} {l : List φ} (h : Numbered num start l) :
    (l.map num).Nodup := by
  rw [h.map_eq_range']
  exact List.nodup_range'

theorem pairwise_lt {start : Nat} {l : List φ} (h : Numbered num start l) :
    (l.map num).Pairwise (· < ·) := by
  rw [h.map_eq_range']
  exact List.pairwise_lt_range'

/-- Selecting what comes after `k` cuts the list at `k`. -/
theorem filter_gt {start k : Nat} {l : List φ} (h : Numbered num start l)
    (hk : start ≤ k) : l.filter (fun f => k < num f) = l.drop (k - start) := by
  induction l generalizing start with
  | nil => simp
  | cons f fs ih =>
      obtain ⟨hf, hfs⟩ := h
      by_cases hlt : start < k
      · rw [List.filter_cons_of_neg (by simp; omega), ih hfs (by omega),
          show k - start = (k - (start + 1)) + 1 by omega, List.drop_succ_cons]
      · obtain rfl : k = start := by omega
        rw [Nat.sub_self, List.drop_zero, List.filter_eq_self]
        intro g hg
        rcases List.mem_cons.mp hg with rfl | hmem
        · simp [hf]
        · have := hfs.lt_num hmem
          simp
          omega

end Numbered
