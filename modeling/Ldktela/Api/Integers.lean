import Mathlib.Algebra.Group.Int.Defs
import Ldktela.Api.Config

/-!
# Integers as text

Which texts the integer types of `Api.Config` read, and that what is written reads back.  The
reader stops at the first digit that takes it past the bound; that is the same as reading the
whole numeral and comparing at the end.
-/

namespace Ldktela
namespace Api
namespace Env

/-- A digit at least, and nothing else. -/
def Digits (digits : List Char) : Prop :=
  digits ≠ [] ∧ ∀ c ∈ digits, c.isDigit = true

instance (digits : List Char) : Decidable (Digits digits) :=
  inferInstanceAs (Decidable (_ ∧ _))

/-- A numeral without a sign, or with a plus, and its value. -/
inductive Numeral : List Char → Nat → Prop
  | plain {digits : List Char} (h : Digits digits) : Numeral digits (Nat.ofDigitChars 10 digits 0)
  | plus {digits : List Char} (h : Digits digits) :
      Numeral ('+' :: digits) (Nat.ofDigitChars 10 digits 0)

/-- A numeral that may have a minus too. -/
inductive SignedNumeral : List Char → Int → Prop
  | positive {text : List Char} {n : Nat} (h : Numeral text n) : SignedNumeral text n
  | negative {digits : List Char} (h : Digits digits) :
      SignedNumeral ('-' :: digits) (-(Nat.ofDigitChars 10 digits 0 : Nat))

/-! ## The loop over the digits -/

theorem le_ofDigitChars (digits : List Char) (acc : Nat) :
    acc ≤ Nat.ofDigitChars 10 digits acc := by
  induction digits generalizing acc with
  | nil => rw [Nat.ofDigitChars_nil]
  | cons c digits ih =>
      rw [Nat.ofDigitChars_cons]
      exact le_trans (by omega) (ih _)

theorem parseDigits_eq_ok {max acc n : Nat} {overflow : String} {digits : List Char}
    (hacc : acc ≤ max) :
    parseDigits max overflow acc digits = .ok n ↔
      (∀ c ∈ digits, c.isDigit = true) ∧ Nat.ofDigitChars 10 digits acc = n ∧ n ≤ max := by
  induction digits generalizing acc with
  | nil =>
      rw [parseDigits, Nat.ofDigitChars_nil, Except.ok.injEq]
      constructor
      · rintro rfl
        exact ⟨fun _ h => absurd h List.not_mem_nil, rfl, hacc⟩
      · exact fun h => h.2.1
  | cons c digits ih =>
      rw [parseDigits, Nat.ofDigitChars_cons, List.forall_mem_cons]
      by_cases hdigit : c.isDigit = true
      · rw [if_pos hdigit]
        by_cases hover : max < 10 * acc + (c.toNat - '0'.toNat)
        · -- the value only grows from here
          have hgrow := le_ofDigitChars digits (10 * acc + (c.toNat - '0'.toNat))
          rw [if_pos hover]
          constructor
          · intro h
            cases h
          · rintro ⟨-, rfl, hle⟩
            omega
        · rw [if_neg hover, ih (Nat.le_of_not_lt hover)]
          simp [hdigit]
      · rw [if_neg hdigit]
        constructor
        · intro h
          cases h
        · exact fun h => absurd h.1.1 hdigit

theorem parseDigits_zero_eq_ok {max n : Nat} {overflow : String} {digits : List Char}
    (hne : digits ≠ []) :
    parseDigits max overflow 0 digits = .ok n ↔
      (Digits digits ∧ Nat.ofDigitChars 10 digits 0 = n) ∧ n ≤ max := by
  rw [parseDigits_eq_ok (Nat.zero_le _), Digits]
  tauto

theorem not_digits_nil : ¬ Digits [] := fun h => h.1 rfl

/-- A sign is no digit. -/
theorem not_digits_cons {c : Char} {digits : List Char} (hc : c.isDigit = false) :
    ¬ Digits (c :: digits) := by
  intro h
  have := h.2 c List.mem_cons_self
  rw [hc] at this
  cases this

/-! ## What is accepted -/

theorem numeral_nil {n : Nat} : ¬ Numeral [] n := by
  rintro ⟨h⟩
  exact not_digits_nil h

theorem numeral_plus {digits : List Char} {n : Nat} :
    Numeral ('+' :: digits) n ↔ Digits digits ∧ Nat.ofDigitChars 10 digits 0 = n := by
  constructor
  · intro h
    cases h with
    | plain h => exact absurd h (not_digits_cons (by decide))
    | plus h => exact ⟨h, rfl⟩
  · rintro ⟨h, rfl⟩
    exact .plus h

theorem numeral_cons {c : Char} {digits : List Char} {n : Nat} (hc : c ≠ '+') :
    Numeral (c :: digits) n ↔
      Digits (c :: digits) ∧ Nat.ofDigitChars 10 (c :: digits) 0 = n := by
  constructor
  · intro h
    cases h with
    | plain h => exact ⟨h, rfl⟩
    | plus h => exact absurd rfl hc
  · rintro ⟨h, rfl⟩
    exact .plain h

theorem signedNumeral_minus {digits : List Char} {n : Int} :
    SignedNumeral ('-' :: digits) n ↔
      Digits digits ∧ -(Nat.ofDigitChars 10 digits 0 : Int) = n := by
  constructor
  · intro h
    cases h with
    | positive h =>
        have hdigits := ((numeral_cons (by decide)).mp h).1
        exact absurd hdigits (not_digits_cons (by decide))
    | negative h => exact ⟨h, rfl⟩
  · rintro ⟨h, rfl⟩
    exact .negative h

theorem signedNumeral_of_head {text : List Char} {n : Int} (h : text.head? ≠ some '-') :
    SignedNumeral text n ↔ ∃ m : Nat, Numeral text m ∧ (m : Int) = n := by
  constructor
  · intro hn
    cases hn with
    | positive hm => exact ⟨_, hm, rfl⟩
    | negative _ => exact absurd rfl h
  · rintro ⟨m, hm, rfl⟩
    exact .positive hm

theorem parseUnsigned_eq_ok {max n : Nat} {raw : String} :
    parseUnsigned max raw = .ok n ↔ Numeral raw.toList n ∧ n ≤ max := by
  unfold parseUnsigned
  split
  · next hnil =>
      rw [hnil]
      exact iff_of_false (by simp) fun h => numeral_nil h.1
  · next hplus =>
      rw [hplus, numeral_plus]
      exact iff_of_false (by simp) fun h => not_digits_nil h.1.1
  · next digits hplus hcons =>
      rw [hcons, numeral_plus, parseDigits_zero_eq_ok hplus]
  · next digits hnil hplus hcons =>
      cases heq : raw.toList with
      | nil => exact absurd heq hnil
      | cons c rest =>
          have hc : c ≠ '+' := by
            rintro rfl
            exact hcons rest heq
          rw [numeral_cons hc, parseDigits_zero_eq_ok (List.cons_ne_nil c rest)]

/-- A magnitude that is given its sign. -/
private theorem map_cast_eq_ok {f : Int → Int} {x : Except String Nat} {n : Int} :
    (x >>= fun m => pure (m : Int)).map f = .ok n ↔ ∃ m, x = .ok m ∧ f m = n := by
  cases x with
  | error e => simp [Except.map, bind, Except.bind]
  | ok m => simp [Except.map, bind, Except.bind, pure, Except.pure]

theorem parseI64_eq_ok {n : Int} {raw : String} :
    parseI64 raw = .ok n ↔ SignedNumeral raw.toList n ∧ -2 ^ 63 ≤ n ∧ n < 2 ^ 63 := by
  have hbound : ∀ m : Nat, m ≤ 2 ^ 63 - 1 ↔ -2 ^ 63 ≤ (m : Int) ∧ (m : Int) < 2 ^ 63 := by
    intro m
    omega
  have hneg : ∀ m : Nat, m ≤ 2 ^ 63 ↔ -2 ^ 63 ≤ -(m : Int) ∧ -(m : Int) < 2 ^ 63 := by
    intro m
    omega
  unfold parseI64
  split
  · next hnil =>
      rw [hnil, signedNumeral_of_head (by simp)]
      exact iff_of_false (by simp) fun ⟨⟨_, h, _⟩, _⟩ => numeral_nil h
  · next hplus =>
      rw [hplus, signedNumeral_of_head (by simp)]
      exact iff_of_false (by simp) fun ⟨⟨_, h, _⟩, _⟩ => not_digits_nil (numeral_plus.mp h).1
  · next hminus =>
      rw [hminus, signedNumeral_minus]
      exact iff_of_false (by simp) fun h => not_digits_nil h.1.1
  · next digits hne hcons =>
      rw [hcons, signedNumeral_of_head (by simp), map_cast_eq_ok]
      simp only [numeral_plus, parseDigits_zero_eq_ok hne]
      constructor
      · rintro ⟨m, ⟨h, hle⟩, rfl⟩
        exact ⟨⟨m, h, rfl⟩, (hbound m).mp hle⟩
      · rintro ⟨⟨m, h, rfl⟩, hle⟩
        exact ⟨m, ⟨h, (hbound m).mpr hle⟩, rfl⟩
  · next digits hne hcons =>
      rw [hcons, signedNumeral_minus, map_cast_eq_ok]
      simp only [parseDigits_zero_eq_ok hne]
      constructor
      · rintro ⟨m, ⟨⟨h, rfl⟩, hle⟩, rfl⟩
        exact ⟨⟨h, rfl⟩, (hneg _).mp hle⟩
      · rintro ⟨⟨h, rfl⟩, hle⟩
        exact ⟨_, ⟨⟨h, rfl⟩, (hneg _).mpr hle⟩, rfl⟩
  · next digits hnil hplus hminus hplus' hminus' =>
      cases heq : raw.toList with
      | nil => exact absurd heq hnil
      | cons c rest =>
          have hc : c ≠ '+' := by
            rintro rfl
            exact hplus' rest heq
          have hc' : (c :: rest).head? ≠ some '-' := by
            rintro h
            obtain rfl : c = '-' := by simpa using h
            exact hminus' rest heq
          rw [signedNumeral_of_head hc', map_cast_eq_ok]
          simp only [numeral_cons hc, parseDigits_zero_eq_ok (List.cons_ne_nil c rest)]
          constructor
          · rintro ⟨m, ⟨h, hle⟩, rfl⟩
            exact ⟨⟨m, h, rfl⟩, (hbound m).mp hle⟩
          · rintro ⟨⟨m, h, rfl⟩, hle⟩
            exact ⟨m, ⟨h, (hbound m).mpr hle⟩, rfl⟩

/-! ## What is written -/

theorem digits_toDigits (n : Nat) : Digits (Nat.toDigits 10 n) :=
  ⟨Nat.toDigits_ne_nil, fun _ h => Nat.isDigit_of_mem_toDigits (by decide) (by decide) h⟩

/-- `Display` of an unsigned integer writes a numeral of it. -/
theorem numeral_repr (n : Nat) : Numeral n.repr.toList n := by
  have h := Numeral.plain (digits_toDigits n)
  rwa [Nat.ofDigitChars_ten_toDigits, ← Nat.toList_repr] at h

/-- `Display` of a signed integer writes a numeral of it. -/
theorem signedNumeral_repr (n : Int) : SignedNumeral n.repr.toList n := by
  rw [Int.repr_eq_if]
  split
  · next hn =>
      have h := SignedNumeral.positive (numeral_repr n.toNat)
      rwa [Int.toNat_of_nonneg hn] at h
  · next hn =>
      have h := SignedNumeral.negative (digits_toDigits (-n).toNat)
      rw [Nat.ofDigitChars_ten_toDigits, Int.toNat_of_nonneg (by omega), Int.neg_neg] at h
      rwa [String.toList_append, Nat.toList_repr]

theorem parseUnsigned_repr {max n : Nat} (h : n ≤ max) : parseUnsigned max n.repr = .ok n :=
  parseUnsigned_eq_ok.mpr ⟨numeral_repr n, h⟩

/-! ## The limits of the gateway, from their variables -/

/-- The values fit their type. -/
structure Fits (gateway : Gateway.GatewayConfig) : Prop where
  heartbeatIntervalMs : gateway.heartbeatIntervalMs ≤ 2 ^ 64 - 1
  sessionTtlMs : gateway.sessionTtlMs ≤ 2 ^ 64 - 1
  resumeBufferSize : gateway.resumeBufferSize ≤ 2 ^ 64 - 1
  maxConnectionsPerUser : gateway.maxConnectionsPerUser ≤ 2 ^ 64 - 1

/-- `.env.example`, with other limits of the gateway. -/
def gatewayEnv (gateway : Gateway.GatewayConfig) : Source := fun name =>
  ([("WS_HEARTBEAT_INTERVAL_MS", gateway.heartbeatIntervalMs.repr),
    ("WS_SESSION_TTL_MS", gateway.sessionTtlMs.repr),
    ("WS_RESUME_BUFFER_SIZE", gateway.resumeBufferSize.repr),
    ("WS_MAX_CONNECTIONS_PER_USER", gateway.maxConnectionsPerUser.repr)].lookup name).or
      (exampleEnv "500" "4" name)

theorem parse_repr {source : Source} {name : String} {n : Nat} (hn : n ≤ 2 ^ 64 - 1)
    (hsource : source name = some n.repr) : parse parseU64 source name = .ok n := by
  have hread : parseU64 n.repr = .ok n := parseUnsigned_repr hn
  simp only [parse, required, hsource, bind, Except.bind, hread]

/-- Whatever limits fit their type, the process starts with them. -/
theorem fromSource_gatewayEnv {gateway : Gateway.GatewayConfig} (h : Fits gateway) :
    fromSource (fun addr => .ok addr) (gatewayEnv gateway) =
      .ok { exampleConfig 500 4 with gateway := gateway } := by
  have hgateway : gatewayConfig (gatewayEnv gateway) = .ok gateway := by
    have hread : ∀ name n, n ≤ 2 ^ 64 - 1 → gatewayEnv gateway name = some n.repr →
        parse parseU64 (gatewayEnv gateway) name = .ok n := fun _ _ hn => parse_repr hn
    unfold gatewayConfig
    rw [hread "WS_HEARTBEAT_INTERVAL_MS" _ h.heartbeatIntervalMs rfl,
      hread "WS_SESSION_TTL_MS" _ h.sessionTtlMs rfl,
      hread "WS_RESUME_BUFFER_SIZE" _ h.resumeBufferSize rfl,
      hread "WS_MAX_CONNECTIONS_PER_USER" _ h.maxConnectionsPerUser rfl]
    rfl
  show Except.bind (gatewayConfig (gatewayEnv gateway)) _ = _
  rw [hgateway]
  rfl

end Env
end Api
end Ldktela
