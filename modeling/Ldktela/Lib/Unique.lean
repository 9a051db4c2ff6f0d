import Mathlib.Data.List.Perm.Basic
import Mathlib.Data.List.Nodup
import Mathlib.Data.List.Pairwise
import Mathlib.Tactic.Common

/-!
# Looking up what is there at most once

A search for the first member of a list that meets a test does not depend on the order of
the list when at most one member meets it.  This is the case for a test of a key, when the
keys of the list are distinct.
-/

namespace Unique

variable {α κ : Type*} {p q : α → Bool} {l l' : List α} {a : α}

/-- At most one member of the list meets the test. -/
def AtMostOne (p : α → Bool) (l : List α) : Prop :=
  ∀ a ∈ l, ∀ b ∈ l, p a = true → p b = true → a = b

/-- A test that fixes the key of a list with distinct keys. -/
theorem atMostOne_of_nodup {key : α → κ} (hnodup : (l.map key).Nodup)
    (hkey : ∀ a b, p a = true → p b = true → key a = key b) : AtMostOne p l :=
  fun a ha b hb hpa hpb => List.inj_on_of_nodup_map hnodup ha hb (hkey a b hpa hpb)

/-- Where the keys are partial and distinct, a key is that of one member. -/
theorem eq_of_nodup_filterMap {key : α → Option κ} {k : κ} {b : α}
    (hnodup : (l.filterMap key).Nodup) (ha : a ∈ l) (hb : b ∈ l) (hka : key a = some k)
    (hkb : key b = some k) : a = b := by
  by_contra hne
  have hpairs := List.pairwise_filterMap.mp hnodup
  have : Std.Symm fun a a' => ∀ k, key a = some k → ∀ k', key a' = some k' → k ≠ k' :=
    ⟨fun _ _ hdiffer k hk k' hk' => (hdiffer k' hk' k hk).symm⟩
  exact hpairs.forall ha hb hne k hka k hkb rfl

theorem AtMostOne.perm (h : AtMostOne p l) (hperm : l.Perm l') : AtMostOne p l' :=
  fun a ha b hb => h a (hperm.mem_iff.mpr ha) b (hperm.mem_iff.mpr hb)

theorem find?_eq_some_iff (h : AtMostOne p l) : l.find? p = some a ↔ a ∈ l ∧ p a = true := by
  constructor
  · exact fun hfound => ⟨List.mem_of_find?_eq_some hfound, List.find?_some hfound⟩
  · rintro ⟨hmem, hp⟩
    obtain ⟨b, hb⟩ := Option.isSome_iff_exists.mp (List.find?_isSome.mpr ⟨a, hmem, hp⟩)
    have heq := h a hmem b (List.mem_of_find?_eq_some hb) hp (List.find?_some hb)
    rw [hb, heq]

/-- The order of the list is not asked. -/
theorem find?_perm (h : AtMostOne p l) (hperm : l.Perm l') : l'.find? p = l.find? p := by
  refine Option.ext fun a => ?_
  rw [find?_eq_some_iff h, find?_eq_some_iff (h.perm hperm), hperm.mem_iff]

/-- What is asked of the member that is found can be asked of every member. -/
theorem any_find? (h : AtMostOne p l) :
    (l.find? p).any q = l.any fun a => p a && q a := by
  rw [Bool.eq_iff_iff, Option.any_eq_true, List.any_eq_true]
  constructor
  · rintro ⟨a, hfound, hq⟩
    obtain ⟨hmem, hp⟩ := (find?_eq_some_iff h).mp hfound
    exact ⟨a, hmem, Bool.and_eq_true_iff.mpr ⟨hp, hq⟩⟩
  · rintro ⟨a, hmem, hpq⟩
    obtain ⟨hp, hq⟩ := Bool.and_eq_true_iff.mp hpq
    exact ⟨a, (find?_eq_some_iff h).mpr ⟨hmem, hp⟩, hq⟩

end Unique
