import Mathlib.Algebra.Group.Nat.Defs
import Mathlib.Tactic.Common

/-!
# Hexadecimal numerals of a fixed width

`write w n` is the numeral of `n` with `w` digits, in lower case; `read` takes either case and any
width.
-/

namespace Hex

/-- The value of a digit, in either case. -/
def digitValue (c : Char) : Option Nat :=
  if '0' ≤ c ∧ c ≤ '9' then some (c.toNat - '0'.toNat)
  else if 'a' ≤ c ∧ c ≤ 'f' then some (c.toNat - 'a'.toNat + 10)
  else if 'A' ≤ c ∧ c ≤ 'F' then some (c.toNat - 'A'.toNat + 10)
  else none

/-- The last `w` digits of a number. -/
def write : Nat → Nat → List Char
  | 0, _ => []
  | w + 1, n => write w (n / 16) ++ [Nat.digitChar (n % 16)]

/-- One more digit on the right. -/
def push (acc : Nat) (c : Char) : Option Nat :=
  (digitValue c).map fun d => 16 * acc + d

/-- The value of a numeral; `none` if some character is no digit. -/
def read (text : List Char) : Option Nat :=
  text.foldlM push 0

theorem digitValue_digitChar {d : Nat} (h : d < 16) : digitValue (Nat.digitChar d) = some d := by
  have hall : ∀ d < 16, digitValue (Nat.digitChar d) = some d := by decide
  exact hall d h

@[simp]
theorem length_write (w n : Nat) : (write w n).length = w := by
  induction w generalizing n with
  | zero => rfl
  | succ w ih => rw [write, List.length_append, ih, List.length_singleton]

theorem read_append (text : List Char) (c : Char) :
    read (text ++ [c]) = (read text).bind fun acc => push acc c := by
  simp [read, List.foldlM_append]

/-- What is written reads back. -/
theorem read_write {w n : Nat} (h : n < 16 ^ w) : read (write w n) = some n := by
  induction w generalizing n with
  | zero =>
      obtain rfl : n = 0 := by simpa using h
      rfl
  | succ w ih =>
      have hdiv : n / 16 < 16 ^ w := by
        rw [Nat.div_lt_iff_lt_mul (by decide), ← Nat.pow_succ]
        exact h
      rw [write, read_append, ih hdiv]
      show push (n / 16) (Nat.digitChar (n % 16)) = some n
      rw [push, digitValue_digitChar (Nat.mod_lt n (by decide))]
      simp [Nat.div_add_mod]

/-- Every character that is written is a digit. -/
theorem digitValue_of_mem_write {w n : Nat} {c : Char} (h : c ∈ write w n) :
    (digitValue c).isSome = true := by
  induction w generalizing n with
  | zero => cases h
  | succ w ih =>
      rw [write, List.mem_append, List.mem_singleton] at h
      cases h with
      | inl h => exact ih h
      | inr h => rw [h, digitValue_digitChar (Nat.mod_lt n (by decide)), Option.isSome_some]

/-- A character that is no digit is not written. -/
theorem notMem_write {w n : Nat} {c : Char} (hc : digitValue c = none) : c ∉ write w n := by
  intro h
  have := digitValue_of_mem_write h
  rw [hc] at this
  cases this

end Hex
