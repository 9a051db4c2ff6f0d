import Ldktela.Lib.Base64

/-!
# A preview frame as text

`base64_into` and `encode_data_url` of `desktop/src-tauri/src/preview.rs`: a reduced frame
becomes a JPEG, and the JPEG a data URL that an image element loads.  The JPEG encoder is
code outside the repository.  `out.reserve` allocates and leaves the text as it is.
-/

namespace Ldktela
namespace Preview

def ALPHABET : List Char :=
  "ABCDEFGHIJKLMNOPQRSTUVWXYZabcdefghijklmnopqrstuvwxyz0123456789+/".toList

/-- The alphabet of RFC 4648. -/
theorem ALPHABET_eq : ALPHABET = (List.range 64).map Base64.symbol := by decide

theorem length_ALPHABET : ALPHABET.length = 64 := by
  rw [ALPHABET_eq, List.length_map, List.length_range]

/-- `ALPHABET[sextet as usize & 63]`: the mask keeps the index within the alphabet. -/
def letter (sextet : UInt32) : Char :=
  ALPHABET.get ⟨sextet.toNat &&& 63, by
    rw [length_ALPHABET]
    exact Nat.lt_succ_of_le Nat.and_le_right⟩

/-- `bytes.chunks(3)`. -/
def chunks : List UInt8 → List (List UInt8)
  | [] => []
  | [b0] => [[b0]]
  | [b0, b1] => [[b0, b1]]
  | b0 :: b1 :: b2 :: rest => [b0, b1, b2] :: chunks rest

/-- One turn of the loop: the four characters that a chunk pushes. -/
def pushChunk (out : String) (chunk : List UInt8) : String :=
  let b0 := (chunk[0]?.map UInt8.toUInt32).getD 0
  let b1 := (chunk[1]?.map UInt8.toUInt32).getD 0
  let b2 := (chunk[2]?.map UInt8.toUInt32).getD 0
  let triple := (b0 <<< 16) ||| (b1 <<< 8) ||| b2
  let out := out.push (letter (triple >>> 18))
  let out := out.push (letter (triple >>> 12))
  let out := out.push (if chunk.length > 1 then letter (triple >>> 6) else '=')
  out.push (if chunk.length > 2 then letter triple else '=')

def base64Into (bytes : List UInt8) (out : String) : String :=
  (chunks bytes).foldl pushChunk out

/-- A reduced frame, BGRA without padding between its rows. -/
structure Raw where
  width : Nat
  height : Nat
  pixels : List UInt8
  quality : UInt8

/-- A frame whose sides do not fit in 16 bits, or that the encoder refuses, has no URL. -/
def encodeDataUrl (encode : List UInt8 → UInt8 → UInt16 → UInt16 → Option (List UInt8))
    (frame : Raw) : Option String :=
  if frame.width < 2 ^ 16 ∧ frame.height < 2 ^ 16 then do
    let jpeg ← encode frame.pixels frame.quality (.ofNat frame.width) (.ofNat frame.height)
    some (base64Into jpeg "data:image/jpeg;base64,")
  else none

/-! ## A chunk is a group -/

theorem letter_eq_symbol (sextet : UInt32) :
    letter sextet = Base64.symbol (sextet.toNat % 64) := by
  have hmask : sextet.toNat &&& 63 = sextet.toNat % 64 := Nat.and_two_pow_sub_one_eq_mod _ 6
  rw [letter, List.get_eq_getElem]
  simp only [ALPHABET_eq, List.getElem_map, List.getElem_range, hmask]

/-- The bytes of a chunk do not overlap in the triple. -/
theorem toNat_triple (x y z : UInt8) :
    ((x.toUInt32 <<< 16) ||| (y.toUInt32 <<< 8) ||| z.toUInt32).toNat =
      x.toNat * 65536 + y.toNat * 256 + z.toNat := by
  have hx := x.toNat_lt
  have hy := y.toNat_lt
  have hz := z.toNat_lt
  have hhigh : (x.toUInt32 <<< 16).toNat = 2 ^ 16 * x.toNat := by
    rw [UInt32.toNat_shiftLeft, UInt8.toNat_toUInt32, Nat.shiftLeft_eq,
      show (16 : UInt32).toNat % 32 = 16 from rfl, Nat.mul_comm, Nat.mod_eq_of_lt (by omega)]
  have hmiddle : (y.toUInt32 <<< 8).toNat = 2 ^ 8 * y.toNat := by
    rw [UInt32.toNat_shiftLeft, UInt8.toNat_toUInt32, Nat.shiftLeft_eq,
      show (8 : UInt32).toNat % 32 = 8 from rfl, Nat.mul_comm, Nat.mod_eq_of_lt (by omega)]
  rw [UInt32.toNat_or, UInt32.toNat_or, hhigh, hmiddle, UInt8.toNat_toUInt32,
    ← Nat.two_pow_add_eq_or_of_lt (by omega : 2 ^ 8 * y.toNat < 2 ^ 16)]
  have hpair : 2 ^ 16 * x.toNat + 2 ^ 8 * y.toNat = 2 ^ 8 * (2 ^ 8 * x.toNat + y.toNat) := by
    omega
  rw [hpair, ← Nat.two_pow_add_eq_or_of_lt hz]
  omega

/-- The four sextets of the triple. -/
theorem letter_triple (x y z : UInt8) :
    letter (((x.toUInt32 <<< 16) ||| (y.toUInt32 <<< 8) ||| z.toUInt32) >>> 18) =
        Base64.symbol (x.toNat / 4) ∧
      letter (((x.toUInt32 <<< 16) ||| (y.toUInt32 <<< 8) ||| z.toUInt32) >>> 12) =
        Base64.symbol (x.toNat % 4 * 16 + y.toNat / 16) ∧
      letter (((x.toUInt32 <<< 16) ||| (y.toUInt32 <<< 8) ||| z.toUInt32) >>> 6) =
        Base64.symbol (y.toNat % 16 * 4 + z.toNat / 64) ∧
      letter ((x.toUInt32 <<< 16) ||| (y.toUInt32 <<< 8) ||| z.toUInt32) =
        Base64.symbol (z.toNat % 64) := by
  have hx := x.toNat_lt
  have hy := y.toNat_lt
  have hz := z.toNat_lt
  simp only [letter_eq_symbol, UInt32.toNat_shiftRight, toNat_triple, Nat.shiftRight_eq_div_pow]
  refine ⟨?_, ?_, ?_, ?_⟩
  · rw [show (18 : UInt32).toNat % 32 = 18 from rfl]
    congr 1
    omega
  · rw [show (12 : UInt32).toNat % 32 = 12 from rfl]
    congr 1
    omega
  · rw [show (6 : UInt32).toNat % 32 = 6 from rfl]
    congr 1
    omega
  · congr 1
    omega

theorem toList_pushChunk_three (out : String) (x y z : UInt8) :
    (pushChunk out [x, y, z]).toList = out.toList ++ Base64.encode [x, y, z] := by
  obtain ⟨h0, h1, h2, h3⟩ := letter_triple x y z
  simp [pushChunk, Base64.encode, h0, h1, h2, h3]

theorem toList_pushChunk_two (out : String) (x y : UInt8) :
    (pushChunk out [x, y]).toList = out.toList ++ Base64.encode [x, y] := by
  -- the third byte of the triple is 0
  obtain ⟨h0, h1, h2, -⟩ := letter_triple x y 0
  simp only [show UInt8.toUInt32 0 = 0 from rfl, UInt32.or_zero, UInt8.toNat_zero, Nat.zero_div,
    add_zero] at h0 h1 h2
  simp [pushChunk, Base64.encode, h0, h1, h2]

theorem toList_pushChunk_one (out : String) (x : UInt8) :
    (pushChunk out [x]).toList = out.toList ++ Base64.encode [x] := by
  -- the second and the third are 0
  obtain ⟨h0, h1, -, -⟩ := letter_triple x 0 0
  simp only [show UInt8.toUInt32 0 = 0 from rfl, UInt32.zero_shiftLeft, UInt32.or_zero,
    UInt8.toNat_zero, Nat.zero_div, add_zero] at h0 h1
  simp [pushChunk, Base64.encode, h0, h1]

/-- The loop appends the encoding of the whole list. -/
theorem toList_base64Into (b : List UInt8) (s : String) :
    (base64Into b s).toList = s.toList ++ Base64.encode b := by
  induction b using Base64.encode.induct generalizing s with
  | case1 => simp [base64Into, chunks, Base64.encode]
  | case2 x => exact toList_pushChunk_one s x
  | case3 x y => exact toList_pushChunk_two s x y
  | case4 x y z rest ih =>
      have hrest := ih (pushChunk s [x, y, z])
      rw [base64Into] at hrest ⊢
      rw [chunks, List.foldl_cons, hrest, toList_pushChunk_three, List.append_assoc]
      rfl

/-- What `base64Into` appends to a text. -/
def appended (b : List UInt8) : List Char :=
  (base64Into b "").toList

theorem appended_eq_encode (b : List UInt8) : appended b = Base64.encode b := by
  rw [appended, toList_base64Into]
  rfl

/-- What is appended has four characters for each chunk of three bytes and decodes back, so
that different bytes append different text. -/
theorem base64Into_decodes (b : List UInt8) (s : String) :
    (base64Into b s).toList = s.toList ++ appended b ∧
      (appended b).length = 4 * ((b.length + 2) / 3) ∧
      Base64.decode (appended b) = some b ∧
      ∀ b', appended b' = appended b → b' = b := by
  refine ⟨?_, ?_, ?_, fun b' h => ?_⟩
  · rw [toList_base64Into, appended_eq_encode]
  · rw [appended_eq_encode, Base64.length_encode]
  · rw [appended_eq_encode, Base64.decode_encode]
  · rw [appended_eq_encode, appended_eq_encode] at h
    exact Base64.encode_injective h

/-- A data URL carries the JPEG that was made of the frame. -/
theorem encodeDataUrl_decodes
    {encode : List UInt8 → UInt8 → UInt16 → UInt16 → Option (List UInt8)} {frame : Raw}
    {url : String} (h : encodeDataUrl encode frame = some url) :
    ∃ jpeg text,
      encode frame.pixels frame.quality (.ofNat frame.width) (.ofNat frame.height) = some jpeg ∧
      url.toList = "data:image/jpeg;base64,".toList ++ text ∧
      Base64.decode text = some jpeg := by
  simp only [encodeDataUrl] at h
  split at h
  · obtain ⟨jpeg, hjpeg, hurl⟩ := Option.bind_eq_some_iff.mp h
    refine ⟨jpeg, Base64.encode jpeg, hjpeg, ?_, Base64.decode_encode jpeg⟩
    rw [← Option.some.inj hurl, toList_base64Into]
  · cases h

example : base64Into [0xFB, 0xEF, 0xFF, 0xFE] "x" = "x++///g==" := by decide

end Preview
end Ldktela
