import Mathlib.Algebra.Order.Round
import Mathlib.Data.Rat.Floor
import Mathlib.Tactic.FieldSimp
import Mathlib.Tactic.Linarith
import Mathlib.Tactic.Ring

/-!
# The delays of the gateway client

`desktop/src/gateway/backoff.ts`.  What `Math.random` gives is a `Random`, and
`Math.round` is `round`: both round halves up.  The numbers are exact here and doubles in the
source, where a product that falls next to a half may round to the other side: a delay is
then a millisecond off.  What other modules use of the delays holds either way: a backoff is
positive, and a heartbeat comes no earlier than its interval and at most a tenth later.
-/

namespace Ldktela
namespace Desktop

/-- What `Math.random` gives. -/
structure Random where
  value : ℚ
  nonneg : 0 ≤ value
  lt_one : value < 1

def backoffBaseMs : Nat := 1000
def backoffCeilingMs : Nat := 30000
def backoffJitterRatio : ℚ := 3 / 10
def heartbeatJitterRatio : ℚ := 1 / 10

/-- 1s, 2s, 4s, 8s, 16s, then a 30s ceiling, each with ±30% jitter. -/
def backoffDelayMs (attempt : Nat) (random : Random) : Nat :=
  let steps := min attempt 16
  let base := min (backoffBaseMs * 2 ^ steps) backoffCeilingMs
  let jitter := (random.value * 2 - 1) * backoffJitterRatio
  (max 0 (round (base * (1 + jitter)))).toNat

/-- Heartbeats are spread by up to 10% so reconnecting clients do not sync into a herd. -/
def heartbeatDelayMs (intervalMs : Nat) (random : Random) : Nat :=
  (round (intervalMs * (1 + random.value * heartbeatJitterRatio))).toNat

/-- There is always a backoff. -/
theorem backoffDelayMs_pos (attempt : Nat) (random : Random) :
    0 < backoffDelayMs attempt random := by
  unfold backoffDelayMs
  dsimp only
  have hsteps : 1 ≤ 2 ^ min attempt 16 := Nat.one_le_two_pow
  have hbase : 1000 ≤ min (backoffBaseMs * 2 ^ min attempt 16) backoffCeilingMs := by
    unfold backoffBaseMs backoffCeilingMs
    omega
  generalize min (backoffBaseMs * 2 ^ min attempt 16) backoffCeilingMs = base at hbase ⊢
  have hjitter : (7 : ℚ) / 10 ≤ 1 + (random.value * 2 - 1) * backoffJitterRatio := by
    rw [backoffJitterRatio]
    linarith [random.nonneg]
  have hdelay : (700 : ℚ) ≤ base * (1 + (random.value * 2 - 1) * backoffJitterRatio) := by
    have hcast : (1000 : ℚ) ≤ base := by exact_mod_cast hbase
    calc (700 : ℚ) = 1000 * (7 / 10) := by norm_num
      _ ≤ _ := mul_le_mul hcast hjitter (by norm_num) (by linarith)
  generalize (base : ℚ) * (1 + (random.value * 2 - 1) * backoffJitterRatio) = delay at hdelay ⊢
  have hround : 1 ≤ round delay := by
    rw [round_eq, Int.le_floor]
    push_cast
    linarith
  omega

/-- The jitter only adds to the interval, half a millisecond of rounding apart. -/
theorem le_heartbeatDelayMs (intervalMs : Nat) (random : Random) :
    intervalMs ≤ heartbeatDelayMs intervalMs random := by
  unfold heartbeatDelayMs
  have hnonneg : (0 : ℚ) ≤ intervalMs := Nat.cast_nonneg intervalMs
  have hjitter : (0 : ℚ) ≤ intervalMs * (random.value * heartbeatJitterRatio) :=
    mul_nonneg hnonneg (mul_nonneg random.nonneg (by norm_num [heartbeatJitterRatio]))
  have hround : (intervalMs : ℤ) ≤
      round (intervalMs * (1 + random.value * heartbeatJitterRatio)) := by
    rw [round_eq, Int.le_floor]
    push_cast
    linarith
  omega

/-- Nor does it add more than a tenth. -/
theorem heartbeatDelayMs_le (intervalMs : Nat) (random : Random) :
    10 * heartbeatDelayMs intervalMs random ≤ 11 * intervalMs + 5 := by
  have hlow := le_heartbeatDelayMs intervalMs random
  unfold heartbeatDelayMs at hlow ⊢
  have hnonneg : (0 : ℚ) ≤ intervalMs := Nat.cast_nonneg intervalMs
  have hjitter : (intervalMs : ℚ) * (1 + random.value * heartbeatJitterRatio) ≤
      intervalMs * (11 / 10) := by
    refine mul_le_mul_of_nonneg_left ?_ hnonneg
    rw [heartbeatJitterRatio]
    linarith [random.lt_one]
  have hround : (10 : ℚ) * round (intervalMs * (1 + random.value * heartbeatJitterRatio)) ≤
      11 * intervalMs + 5 := by
    have hfloor := Int.floor_le
      ((intervalMs : ℚ) * (1 + random.value * heartbeatJitterRatio) + 1 / 2)
    rw [round_eq]
    linarith
  have hcast : 10 * round ((intervalMs : ℚ) * (1 + random.value * heartbeatJitterRatio)) ≤
      11 * (intervalMs : ℤ) + 5 := by exact_mod_cast hround
  omega

/-- Every delay in between does occur. -/
theorem exists_heartbeatDelayMs {intervalMs delayMs : Nat} (hlow : intervalMs ≤ delayMs)
    (hhigh : 10 * delayMs < 11 * intervalMs + 5) :
    ∃ random, heartbeatDelayMs intervalMs random = delayMs := by
  rcases Nat.eq_or_lt_of_le hlow with rfl | hlater
  · exact ⟨⟨0, le_refl 0, zero_lt_one⟩, by simp [heartbeatDelayMs]⟩
  -- the jitter that ends half a millisecond before the delay
  have hlater' : (intervalMs : ℚ) + 1 ≤ delayMs := by exact_mod_cast hlater
  have hhigh' : (10 : ℚ) * delayMs < 11 * intervalMs + 5 := by exact_mod_cast hhigh
  have hpos : (0 : ℚ) < intervalMs := by
    by_contra hnot
    have hzero : (0 : ℚ) ≤ intervalMs := Nat.cast_nonneg intervalMs
    linarith
  refine ⟨⟨(10 * (delayMs - intervalMs) - 5) / intervalMs, ?_, ?_⟩, ?_⟩
  · exact div_nonneg (by linarith) (le_of_lt hpos)
  · rw [div_lt_one hpos]
    linarith
  · have hdelay : (intervalMs : ℚ) *
        (1 + (10 * (delayMs - intervalMs) - 5) / intervalMs * heartbeatJitterRatio) =
          delayMs - 1 / 2 := by
      rw [heartbeatJitterRatio]
      field_simp
      ring
    have hround : round ((delayMs : ℚ) - 1 / 2) = delayMs := by
      rw [round_eq, sub_add_cancel]
      exact Int.floor_natCast delayMs
    unfold heartbeatDelayMs
    rw [hdelay, hround]
    exact Int.toNat_natCast delayMs

end Desktop
end Ldktela
