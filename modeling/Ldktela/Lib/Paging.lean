import Mathlib.Data.List.Sort
import Mathlib.Order.Basic

/-!
# Listing page by page

A listing by pages gives, for a cursor, the first items past it in the order of their
keys; the next cursor is the key of the last one.  The items may change from one page to
the next.

`mem_page_or_later` is what a reader of the pages relies on: an item past the cursor is on
the page, or the page is full and the item is past its last key.
-/

namespace Paging

variable {α κ : Type*} [LinearOrder κ]

/-- Past the cursor; without one, everything is. -/
def Past : Option κ → κ → Prop
  | none, _ => True
  | some cursor, k => cursor < k

instance (cursor : Option κ) (k : κ) : Decidable (Past cursor k) :=
  match cursor with
  | none => .isTrue trivial
  | some cursor => inferInstanceAs (Decidable (cursor < k))

/-- The items past the cursor, in the order of their keys. -/
def later (key : α → κ) (cursor : Option κ) (items : List α) : List α :=
  (items.filter fun a => Past cursor (key a)).insertionSort fun a b => key a ≤ key b

/-- The first `limit` items past the cursor. -/
def page (key : α → κ) (limit : Nat) (cursor : Option κ) (items : List α) : List α :=
  (later key cursor items).take limit

variable {key : α → κ} {limit : Nat} {cursor : Option κ} {items : List α} {a : α}

theorem mem_later : a ∈ later key cursor items ↔ a ∈ items ∧ Past cursor (key a) := by
  rw [later, List.mem_insertionSort, List.mem_filter, decide_eq_true_eq]

theorem mem_of_mem_page (h : a ∈ page key limit cursor items) :
    a ∈ items ∧ Past cursor (key a) :=
  mem_later.mp (List.mem_of_mem_take h)

theorem pairwise_later (key : α → κ) (cursor : Option κ) (items : List α) :
    (later key cursor items).Pairwise fun a b => key a ≤ key b := by
  have : Std.Total fun a b : α => key a ≤ key b := ⟨fun a b => le_total (key a) (key b)⟩
  have : IsTrans α fun a b => key a ≤ key b := ⟨fun a b c => le_trans⟩
  exact List.pairwise_insertionSort _ _

/-- An item past the cursor that is not on the page is past the last key of the page, and
the page is full. -/
theorem mem_page_or_later (key : α → κ) (limit : Nat)
    (hkeys : ∀ a ∈ items, ∀ b ∈ items, key a = key b → a = b) (ha : a ∈ items)
    (hpast : Past cursor (key a)) :
    a ∈ page key limit cursor items ∨
      ((page key limit cursor items).length = limit ∧
        ∀ b ∈ page key limit cursor items, key b < key a) := by
  have hsplit := List.take_append_drop limit (later key cursor items)
  have hsorted := pairwise_later key cursor items
  rw [← hsplit, List.pairwise_append] at hsorted
  have hmem : a ∈ later key cursor items := mem_later.mpr ⟨ha, hpast⟩
  rw [← hsplit, List.mem_append] at hmem
  cases hmem with
  | inl hpage => exact .inl hpage
  | inr hdropped =>
      by_cases hpage : a ∈ page key limit cursor items
      · exact .inl hpage
      · right
        have hlong : limit < (later key cursor items).length := by
          have hpos := List.length_pos_of_mem hdropped
          rw [List.length_drop] at hpos
          omega
        constructor
        · rw [page, List.length_take]
          omega
        · intro b hb
          have hle : key b ≤ key a := hsorted.2.2 b hb a hdropped
          refine lt_of_le_of_ne hle fun heq => ?_
          have hsame : b = a := hkeys b (mem_of_mem_page hb).1 a ha heq
          exact hpage (hsame ▸ hb)

end Paging
