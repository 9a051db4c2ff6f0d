import Mathlib.Tactic.Common

/-!
# Masks of 64 bits

A mask as the set of its bits: `Masks.has mask b` for `b < 64`.
-/

namespace Masks

def has (mask : UInt64) (b : Nat) : Bool := mask.toBitVec.getLsbD b

variable {b : Nat}

theorem ext {m n : UInt64} (h : ∀ b < 64, has m b = has n b) : m = n := by
  refine UInt64.toBitVec_inj.mp (BitVec.eq_of_getLsbD_eq fun b hb => ?_)
  exact h b hb

@[simp]
theorem has_zero : has 0 b = false := by
  simp [has]

@[simp]
theorem has_or (m n : UInt64) : has (m ||| n) b = (has m b || has n b) := by
  simp [has]

@[simp]
theorem has_and (m n : UInt64) : has (m &&& n) b = (has m b && has n b) := by
  simp [has]

theorem has_not (m : UInt64) (hb : b < 64) : has (~~~m) b = !has m b := by
  simp [has, hb]

/-- The mask has one bit. -/
def IsBit (bit : UInt64) (k : Nat) : Prop :=
  ∀ b < 64, has bit b = decide (b = k)

instance (bit : UInt64) (k : Nat) : Decidable (IsBit bit k) :=
  inferInstanceAs (Decidable (∀ b < 64, _))

/-- `contains` of one bit. -/
theorem and_eq_iff {bit : UInt64} {k : Nat} (hbit : IsBit bit k) (hk : k < 64) (m : UInt64) :
    m &&& bit = bit ↔ has m k = true := by
  constructor
  · intro hall
    have hself : has (m &&& bit) k = has bit k := by rw [hall]
    rw [has_and, hbit k hk, decide_eq_true rfl, Bool.and_true] at hself
    exact hself
  · intro hhas
    refine ext fun b hb => ?_
    rw [has_and, hbit b hb]
    by_cases heq : b = k
    · rw [heq, hhas, Bool.true_and]
    · rw [decide_eq_false heq, Bool.and_false]

/-- A mask after some bits were taken away and others added. -/
theorem has_revised (base allow deny : UInt64) (hb : b < 64) :
    has ((base &&& ~~~deny) ||| allow) b = (has allow b || (!has deny b && has base b)) := by
  rw [has_or, has_and, has_not deny hb]
  cases has base b <;> cases has allow b <;> cases has deny b <;> rfl

/-- Masks united one by one. -/
theorem has_foldl_or {α : Type*} (f : α → UInt64) (l : List α) (base : UInt64) :
    has (l.foldl (fun mask a => mask ||| f a) base) b =
      (has base b || l.any fun a => has (f a) b) := by
  induction l generalizing base with
  | nil => simp
  | cons a l ih => rw [List.foldl_cons, ih, has_or, List.any_cons, Bool.or_assoc]

/-- The order of the union is not asked. -/
theorem foldl_or_perm {α : Type*} (f : α → UInt64) {l l' : List α} (hperm : l.Perm l')
    (base : UInt64) :
    l'.foldl (fun mask a => mask ||| f a) base = l.foldl (fun mask a => mask ||| f a) base := by
  refine (hperm.foldl_eq' (fun a _ a' _ mask => ?_) base).symm
  rw [UInt64.or_assoc, UInt64.or_comm (f a), ← UInt64.or_assoc]

end Masks
