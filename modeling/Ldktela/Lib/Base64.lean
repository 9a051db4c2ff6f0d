import Mathlib.Algebra.Group.Nat.Defs
import Mathlib.Tactic.Common

/-!
# Base64

The encoding of RFC 4648, section 4: groups of 24 bits are written as four symbols of six
bits each, and the last group is padded with `=`.  The decoder is the strict one: it asks for
whole groups, for padding in the last one only, and for the bits behind the last byte to be
zero.  `decode_encode` is the round trip.
-/

namespace Base64

/-- The symbol of a value below 64. -/
def symbol (v : Nat) : Char :=
  if v < 26 then Char.ofNat (v + 65)
  else if v < 52 then Char.ofNat (v + 71)
  else if v < 62 then Char.ofNat (v - 4)
  else if v = 62 then '+'
  else '/'

/-- The value of a symbol of the alphabet. -/
def value (c : Char) : Option Nat :=
  if 'A' ≤ c ∧ c ≤ 'Z' then some (c.toNat - 65)
  else if 'a' ≤ c ∧ c ≤ 'z' then some (c.toNat - 71)
  else if '0' ≤ c ∧ c ≤ '9' then some (c.toNat + 4)
  else if c = '+' then some 62
  else if c = '/' then some 63
  else none

theorem value_symbol {v : Nat} (h : v < 64) : value (symbol v) = some v := by
  revert v
  decide

theorem value_pad : value '=' = none := by decide

theorem symbol_ne_pad {v : Nat} (h : v < 64) : symbol v ≠ '=' := by
  intro heq
  have hvalue := value_symbol h
  rw [heq, value_pad] at hvalue
  cases hvalue

/-! ## Decoding -/

/-- Four symbols are three bytes. -/
def whole (a b c d : Char) : Option (List UInt8) := do
  let a ← value a
  let b ← value b
  let c ← value c
  let d ← value d
  some [UInt8.ofNat (a * 4 + b / 16), UInt8.ofNat (b % 16 * 16 + c / 4),
    UInt8.ofNat (c % 4 * 64 + d)]

/-- The last group can end in padding: three symbols are two bytes then, and two symbols are
one byte. -/
def final (a b c d : Char) : Option (List UInt8) :=
  if d ≠ '=' then whole a b c d
  else if c ≠ '=' then do
    let a ← value a
    let b ← value b
    let c ← value c
    if c % 4 = 0 then some [UInt8.ofNat (a * 4 + b / 16), UInt8.ofNat (b % 16 * 16 + c / 4)]
    else none
  else do
    let a ← value a
    let b ← value b
    if b % 16 = 0 then some [UInt8.ofNat (a * 4 + b / 16)] else none

def decode : List Char → Option (List UInt8)
  | [] => some []
  | a :: b :: c :: d :: rest =>
      if rest = [] then final a b c d
      else do
        let bytes ← whole a b c d
        let more ← decode rest
        some (bytes ++ more)
  | _ => none

/-! ## Encoding -/

def encode : List UInt8 → List Char
  | [] => []
  | [x] => [symbol (x.toNat / 4), symbol (x.toNat % 4 * 16), '=', '=']
  | [x, y] =>
      [symbol (x.toNat / 4), symbol (x.toNat % 4 * 16 + y.toNat / 16),
        symbol (y.toNat % 16 * 4), '=']
  | x :: y :: z :: rest =>
      symbol (x.toNat / 4) :: symbol (x.toNat % 4 * 16 + y.toNat / 16) ::
        symbol (y.toNat % 16 * 4 + z.toNat / 64) :: symbol (z.toNat % 64) :: encode rest

theorem length_encode (b : List UInt8) : (encode b).length = 4 * ((b.length + 2) / 3) := by
  induction b using encode.induct with
  | case1 => rfl
  | case2 x => simp [encode]
  | case3 x y => simp [encode]
  | case4 x y z rest ih =>
      simp only [encode, List.length_cons, ih]
      omega

/-! ## The round trip -/

theorem whole_symbol (x y z : UInt8) :
    whole (symbol (x.toNat / 4)) (symbol (x.toNat % 4 * 16 + y.toNat / 16))
      (symbol (y.toNat % 16 * 4 + z.toNat / 64)) (symbol (z.toNat % 64)) = some [x, y, z] := by
  have hx := x.toNat_lt
  have hy := y.toNat_lt
  have hz := z.toNat_lt
  have hfirst : x.toNat / 4 * 4 + (x.toNat % 4 * 16 + y.toNat / 16) / 16 = x.toNat := by omega
  have hsecond : (x.toNat % 4 * 16 + y.toNat / 16) % 16 * 16 +
      (y.toNat % 16 * 4 + z.toNat / 64) / 4 = y.toNat := by omega
  have hthird : (y.toNat % 16 * 4 + z.toNat / 64) % 4 * 64 + z.toNat % 64 = z.toNat := by omega
  rw [whole, value_symbol (by omega), value_symbol (by omega), value_symbol (by omega),
    value_symbol (by omega)]
  simp only [Option.bind_eq_bind, Option.bind_some, hfirst, hsecond, hthird, UInt8.ofNat_toNat]

theorem final_two (x y : UInt8) :
    final (symbol (x.toNat / 4)) (symbol (x.toNat % 4 * 16 + y.toNat / 16))
      (symbol (y.toNat % 16 * 4)) '=' = some [x, y] := by
  have hx := x.toNat_lt
  have hy := y.toNat_lt
  have hpad : symbol (y.toNat % 16 * 4) ≠ '=' := symbol_ne_pad (by omega)
  have hfirst : x.toNat / 4 * 4 + (x.toNat % 4 * 16 + y.toNat / 16) / 16 = x.toNat := by omega
  have hsecond : (x.toNat % 4 * 16 + y.toNat / 16) % 16 * 16 + y.toNat % 16 * 4 / 4 =
      y.toNat := by omega
  have hzero : y.toNat % 16 * 4 % 4 = 0 := by omega
  rw [final, if_neg (not_not.mpr rfl), if_pos hpad, value_symbol (by omega),
    value_symbol (by omega), value_symbol (by omega)]
  simp only [Option.bind_eq_bind, Option.bind_some, if_pos hzero, hfirst, hsecond,
    UInt8.ofNat_toNat]

theorem final_one (x : UInt8) :
    final (symbol (x.toNat / 4)) (symbol (x.toNat % 4 * 16)) '=' '=' = some [x] := by
  have hx := x.toNat_lt
  have hfirst : x.toNat / 4 * 4 + x.toNat % 4 * 16 / 16 = x.toNat := by omega
  have hzero : x.toNat % 4 * 16 % 16 = 0 := by omega
  rw [final, if_neg (not_not.mpr rfl), if_neg (not_not.mpr rfl), value_symbol (by omega),
    value_symbol (by omega)]
  simp only [Option.bind_eq_bind, Option.bind_some, if_pos hzero, hfirst, UInt8.ofNat_toNat]

/-- The last group is read as any other when it is not padded. -/
theorem final_of_ne_pad {a b c d : Char} (h : d ≠ '=') : final a b c d = whole a b c d :=
  if_pos h

theorem decode_encode (b : List UInt8) : decode (encode b) = some b := by
  induction b using encode.induct with
  | case1 => rfl
  | case2 x => exact final_one x
  | case3 x y => exact final_two x y
  | case4 x y z rest ih =>
      have hz := z.toNat_lt
      rw [encode, decode]
      split
      · rename_i hend
        -- what encodes to nothing is nothing, by its own round trip
        have hrest : rest = [] := by
          rw [hend] at ih
          exact (Option.some.inj ih).symm
        rw [final_of_ne_pad (symbol_ne_pad (by omega)), whole_symbol, hrest]
      · rw [whole_symbol, ih]
        rfl

theorem encode_injective : Function.Injective encode := by
  intro b b' h
  have hsome : some b = some b' := by rw [← decode_encode b, h, decode_encode]
  exact Option.some.inj hsome

end Base64
