import Mathlib.Algebra.Group.Int.Defs
import Ldktela.Lib.Hex

/-!
# JSON texts of values with integers

`Json.write` is the compact writer, without blanks and with the short escapes; `Json.parse` reads
any blanks and any escapes.  A fraction or an exponent is not read: the numbers are integers.  A
repeated key stays in the list of fields, and it is left to the reader of a field which one counts.

`parse_write` says that what is written reads back.  The reader is given a bound on its depth; a
value never nests deeper than its text is long.

`Writer` and `Reader` are what may be relied on in another library: it may write blanks and other
escapes, and its reader may refuse what is nested too deep or counts too far.
-/

/-- A JSON value. -/
inductive Json where
  | null
  | bool (b : Bool)
  | num (n : Int)
  | str (s : String)
  | arr (items : List Json)
  | obj (fields : List (String × Json))

namespace Json

/-! ## Writing -/

/-- One character of a string. -/
def escape (c : Char) : List Char :=
  if c = '\x22' then ['\\', '\x22']
  else if c = '\\' then ['\\', '\\']
  else if c = '\x08' then ['\\', 'b']
  else if c = '\x0c' then ['\\', 'f']
  else if c = '\n' then ['\\', 'n']
  else if c = '\r' then ['\\', 'r']
  else if c = '\t' then ['\\', 't']
  else if c.toNat < 32 then '\\' :: 'u' :: Hex.write 4 c.toNat
  else [c]

def writeString (s : String) : List Char :=
  '\x22' :: (s.toList.flatMap escape ++ ['\x22'])

def writeNumber : Int → List Char
  | .ofNat n => Nat.toDigits 10 n
  | .negSucc n => '-' :: Nat.toDigits 10 (n + 1)

mutual

def write : Json → List Char
  | .null => "null".toList
  | .bool true => "true".toList
  | .bool false => "false".toList
  | .num n => writeNumber n
  | .str s => writeString s
  | .arr items => '[' :: (writeItems items ++ [']'])
  | .obj fields => '\x7b' :: (writeFields fields ++ ['\x7d'])

def writeItems : List Json → List Char
  | [] => []
  | [v] => write v
  | v :: w :: items => write v ++ ',' :: writeItems (w :: items)

def writeFields : List (String × Json) → List Char
  | [] => []
  | [(key, v)] => writeString key ++ ':' :: write v
  | (key, v) :: field :: fields =>
      writeString key ++ ':' :: (write v ++ ',' :: writeFields (field :: fields))

end

theorem write_num (n : Int) : write (.num n) = writeNumber n := rfl

theorem write_str (s : String) :
    write (.str s) = '\x22' :: (s.toList.flatMap escape ++ ['\x22']) := rfl

theorem write_arr (items : List Json) : write (.arr items) = '[' :: (writeItems items ++ [']']) :=
  rfl

theorem write_obj (fields : List (String × Json)) :
    write (.obj fields) = '\x7b' :: (writeFields fields ++ ['\x7d']) := rfl

/-! ## Reading -/

def isSpace (c : Char) : Bool :=
  c = ' ' || c = '\t' || c = '\n' || c = '\r'

def skipSpace (text : List Char) : List Char :=
  text.dropWhile isSpace

/-- The text after a fixed word. -/
def skipWord (word text : List Char) : Option (List Char) :=
  if word.isPrefixOf text then some (text.drop word.length) else none

/-- Four digits. -/
def readHex4 (text : List Char) : Option (Nat × List Char) :=
  if text.length < 4 then none
  else (Hex.read (text.take 4)).map fun code => (code, text.drop 4)

/-- After `\u`: one code unit, or the two of a surrogate pair. -/
def readUnit (text : List Char) : Option (Char × List Char) :=
  (readHex4 text).bind fun (high, text) =>
    if 0xD800 ≤ high ∧ high < 0xDC00 then
      (skipWord ['\\', 'u'] text).bind fun text =>
        (readHex4 text).bind fun (low, text) =>
          if 0xDC00 ≤ low ∧ low < 0xE000 then
            some (Char.ofNat (0x10000 + (high - 0xD800) * 0x400 + (low - 0xDC00)), text)
          else
            none
    else if 0xDC00 ≤ high ∧ high < 0xE000 then none
    else some (Char.ofNat high, text)

/-- After a backslash. -/
def readEscape : List Char → Option (Char × List Char)
  | [] => none
  | c :: text =>
      if c = '\x22' then some ('\x22', text)
      else if c = '\\' then some ('\\', text)
      else if c = '/' then some ('/', text)
      else if c = 'b' then some ('\x08', text)
      else if c = 'f' then some ('\x0c', text)
      else if c = 'n' then some ('\n', text)
      else if c = 'r' then some ('\r', text)
      else if c = 't' then some ('\t', text)
      else if c = 'u' then readUnit text
      else none

def readChar : List Char → Option (Char × List Char)
  | [] => none
  | c :: text =>
      if c = '\\' then readEscape text
      else if c.toNat < 32 then none
      else some (c, text)

/-- After the opening quotation mark. -/
def readChars : Nat → List Char → Option (List Char × List Char)
  | 0, _ => none
  | fuel + 1, text =>
      if text.head? = some '\x22' then some ([], text.tail)
      else
        (readChar text).bind fun (c, text) =>
          (readChars fuel text).map fun (s, text) => (c :: s, text)

def readString (text : List Char) : Option (String × List Char) :=
  (readChars (text.length + 1) text).map fun (s, text) => (String.ofList s, text)

/-- Digits without a superfluous zero in front, and no fraction or exponent after them. -/
def readDigits (text : List Char) : Option (Nat × List Char) :=
  let digits := text.takeWhile Char.isDigit
  let rest := text.dropWhile Char.isDigit
  let n := Nat.ofDigitChars 10 digits 0
  if Nat.toDigits 10 n = digits ∧ rest.head? ∉ [some '.', some 'e', some 'E'] then some (n, rest)
  else none

def readNumber (text : List Char) : Option (Int × List Char) :=
  if text.head? = some '-' then
    (readDigits text.tail).map fun (n, rest) => (-(n : Int), rest)
  else
    (readDigits text).map fun (n, rest) => ((n : Int), rest)

mutual

def readValue : Nat → List Char → Option (Json × List Char)
  | 0, _ => none
  | fuel + 1, text =>
      match skipSpace text with
      | [] => none
      | c :: text =>
          if c = 'n' then (skipWord "ull".toList text).map fun text => (.null, text)
          else if c = 't' then (skipWord "rue".toList text).map fun text => (.bool true, text)
          else if c = 'f' then (skipWord "alse".toList text).map fun text => (.bool false, text)
          else if c = '\x22' then (readString text).map fun (s, text) => (.str s, text)
          else if c = '[' then
            if (skipSpace text).head? = some ']' then some (.arr [], (skipSpace text).tail)
            else (readItems fuel text).map fun (items, text) => (.arr items, text)
          else if c = '\x7b' then
            if (skipSpace text).head? = some '\x7d' then some (.obj [], (skipSpace text).tail)
            else (readFields fuel text).map fun (fields, text) => (.obj fields, text)
          else (readNumber (c :: text)).map fun (n, text) => (.num n, text)

def readItems : Nat → List Char → Option (List Json × List Char)
  | 0, _ => none
  | fuel + 1, text =>
      (readValue fuel text).bind fun (v, text) =>
        if (skipSpace text).head? = some ']' then some ([v], (skipSpace text).tail)
        else if (skipSpace text).head? = some ',' then
          (readItems fuel (skipSpace text).tail).map fun (items, text) => (v :: items, text)
        else none

def readFields : Nat → List Char → Option (List (String × Json) × List Char)
  | 0, _ => none
  | fuel + 1, text =>
      if (skipSpace text).head? = some '\x22' then
        (readString (skipSpace text).tail).bind fun (key, text) =>
          if (skipSpace text).head? = some ':' then
            (readValue fuel (skipSpace text).tail).bind fun (v, text) =>
              if (skipSpace text).head? = some '\x7d' then some ([(key, v)], (skipSpace text).tail)
              else if (skipSpace text).head? = some ',' then
                (readFields fuel (skipSpace text).tail).map fun (fields, text) =>
                  ((key, v) :: fields, text)
              else none
          else none
      else none

end

/-- `JSON.parse`. -/
def parse (text : List Char) : Option Json :=
  (readValue (2 * text.length + 2) text).bind fun (v, rest) =>
    if skipSpace rest = [] then some v else none

/-! ## Fields -/

/-- A field by its key; of a repeated key the last one counts. -/
def field (key : String) : Json → Option Json
  | .obj fields => (fields.reverse.find? fun entry => entry.1 = key).map Prod.snd
  | _ => none

/-! ## Strings -/

theorem readHex4_write {n : Nat} (h : n < 16 ^ 4) (rest : List Char) :
    readHex4 (Hex.write 4 n ++ rest) = some (n, rest) := by
  have hlen : (Hex.write 4 n).length = 4 := Hex.length_write 4 n
  rw [readHex4, if_neg (by rw [List.length_append, hlen]; omega),
    List.take_left' hlen, List.drop_left' hlen, Hex.read_write h]
  rfl

/-- A control character is not one half of a pair. -/
theorem readUnit_write {n : Nat} (h : n < 32) (rest : List Char) :
    readUnit (Hex.write 4 n ++ rest) = some (Char.ofNat n, rest) := by
  rw [readUnit, readHex4_write (by omega), Option.bind_some]
  dsimp only
  rw [if_neg (by omega), if_neg (by omega)]

/-- A character is written behind a backslash, by its code, or as itself. -/
theorem escape_cases (c : Char) :
    (∃ d, escape c = ['\\', d] ∧ ∀ rest, readEscape (d :: rest) = some (c, rest)) ∨
      (c.toNat < 32 ∧ escape c = '\\' :: 'u' :: Hex.write 4 c.toNat) ∨
      (c ≠ '\x22' ∧ c ≠ '\\' ∧ ¬ c.toNat < 32 ∧ escape c = [c]) := by
  by_cases hquote : c = '\x22'
  · subst hquote
    exact .inl ⟨'\x22', rfl, fun _ => rfl⟩
  by_cases hslash : c = '\\'
  · subst hslash
    exact .inl ⟨'\\', rfl, fun _ => rfl⟩
  by_cases hback : c = '\x08'
  · subst hback
    exact .inl ⟨'b', rfl, fun _ => rfl⟩
  by_cases hform : c = '\x0c'
  · subst hform
    exact .inl ⟨'f', rfl, fun _ => rfl⟩
  by_cases hline : c = '\n'
  · subst hline
    exact .inl ⟨'n', rfl, fun _ => rfl⟩
  by_cases hreturn : c = '\r'
  · subst hreturn
    exact .inl ⟨'r', rfl, fun _ => rfl⟩
  by_cases htab : c = '\t'
  · subst htab
    exact .inl ⟨'t', rfl, fun _ => rfl⟩
  rw [escape, if_neg hquote, if_neg hslash, if_neg hback, if_neg hform, if_neg hline,
    if_neg hreturn, if_neg htab]
  by_cases hcontrol : c.toNat < 32
  · exact .inr (.inl ⟨hcontrol, if_pos hcontrol⟩)
  · exact .inr (.inr ⟨hquote, hslash, hcontrol, if_neg hcontrol⟩)

theorem readChar_escape (c : Char) (rest : List Char) :
    readChar (escape c ++ rest) = some (c, rest) := by
  rcases escape_cases c with ⟨d, hd, hread⟩ | ⟨hcontrol, hd⟩ | ⟨-, hslash, hcontrol, hd⟩
  · rw [hd]
    exact hread rest
  · rw [hd]
    show readUnit (Hex.write 4 c.toNat ++ rest) = some (c, rest)
    rw [readUnit_write hcontrol, Char.ofNat_toNat]
  · rw [hd]
    show readChar (c :: rest) = some (c, rest)
    rw [readChar, if_neg hslash, if_neg hcontrol]

/-- A character that is written does not end the string. -/
theorem head?_escape (c : Char) (rest : List Char) :
    (escape c ++ rest).head? ≠ some '\x22' := by
  rcases escape_cases c with ⟨d, hd, -⟩ | ⟨-, hd⟩ | ⟨hquote, -, -, hd⟩
  · simp [hd]
  · simp [hd]
  · simp [hd, hquote]

theorem escape_ne_nil (c : Char) : escape c ≠ [] := by
  rcases escape_cases c with ⟨d, hd, -⟩ | ⟨-, hd⟩ | ⟨-, -, -, hd⟩
  · simp [hd]
  · simp [hd]
  · simp [hd]

theorem readChars_flatMap (s rest : List Char) {fuel : Nat} (h : s.length < fuel) :
    readChars fuel (s.flatMap escape ++ '\x22' :: rest) = some (s, rest) := by
  induction s generalizing fuel with
  | nil =>
      cases fuel with
      | zero => cases h
      | succ fuel => rfl
  | cons c s ih =>
      cases fuel with
      | zero => cases h
      | succ fuel =>
          rw [List.flatMap_cons, List.append_assoc, readChars, if_neg (head?_escape c _),
            readChar_escape, Option.bind_some]
          dsimp only
          rw [ih (Nat.lt_of_succ_lt_succ h), Option.map_some]

theorem length_le_flatMap_escape (s : List Char) : s.length ≤ (s.flatMap escape).length := by
  induction s with
  | nil => exact Nat.zero_le _
  | cons c s ih =>
      have hpos := List.length_pos_iff.mpr (escape_ne_nil c)
      rw [List.flatMap_cons, List.length_append, List.length_cons]
      omega

theorem readString_write (s : String) (rest : List Char) :
    readString ((writeString s).tail ++ rest) = some (s, rest) := by
  have htail : (writeString s).tail ++ rest = s.toList.flatMap escape ++ '\x22' :: rest := by
    simp [writeString]
  have hlen := length_le_flatMap_escape s.toList
  rw [htail, readString, readChars_flatMap, Option.map_some]
  · show some (String.ofList s.toList, rest) = some (s, rest)
    rw [String.ofList_toList]
  · rw [List.length_append]
    omega

/-! ## Numbers -/

/-- What may follow a value that is written: the end, a comma or a closing bracket. -/
def Delimited (rest : List Char) : Prop :=
  ∀ c ∈ rest.head?, c = ',' ∨ c = ']' ∨ c = '\x7d'

theorem delimited_nil : Delimited [] := fun _ h => nomatch h

theorem delimited_comma (rest : List Char) : Delimited (',' :: rest) := by
  intro c h
  exact .inl (Option.some.inj h).symm

theorem delimited_bracket (rest : List Char) : Delimited (']' :: rest) := by
  intro c h
  exact .inr (.inl (Option.some.inj h).symm)

theorem delimited_brace (rest : List Char) : Delimited ('\x7d' :: rest) := by
  intro c h
  exact .inr (.inr (Option.some.inj h).symm)

theorem readDigits_write (n : Nat) {rest : List Char} (h : Delimited rest) :
    readDigits (Nat.toDigits 10 n ++ rest) = some (n, rest) := by
  have hdigits : ∀ c ∈ Nat.toDigits 10 n, c.isDigit = true := fun c hc =>
    Nat.isDigit_of_mem_toDigits (by decide) (by decide) hc
  have hrest : rest.takeWhile Char.isDigit = [] ∧ rest.dropWhile Char.isDigit = rest ∧
      rest.head? ∉ [some '.', some 'e', some 'E'] := by
    cases rest with
    | nil => exact ⟨rfl, rfl, by simp⟩
    | cons c rest =>
        rcases h c rfl with rfl | rfl | rfl
        · exact ⟨rfl, rfl, by simp⟩
        · exact ⟨rfl, rfl, by simp⟩
        · exact ⟨rfl, rfl, by simp⟩
  unfold readDigits
  rw [List.takeWhile_append_of_pos hdigits, List.dropWhile_append_of_pos hdigits, hrest.1,
    hrest.2.1, List.append_nil]
  dsimp only
  rw [Nat.ofDigitChars_ten_toDigits, if_pos ⟨rfl, hrest.2.2⟩]

theorem head?_toDigits_ne (n : Nat) (rest : List Char) :
    (Nat.toDigits 10 n ++ rest).head? ≠ some '-' := by
  intro h
  cases hdigits : Nat.toDigits 10 n with
  | nil => exact absurd hdigits (Nat.toDigits_ne_nil)
  | cons c digits =>
      rw [hdigits] at h
      have hc : c.isDigit = true :=
        Nat.isDigit_of_mem_toDigits (by decide) (by decide) (hdigits ▸ List.mem_cons_self)
      rw [Option.some.inj h] at hc
      cases hc

theorem readNumber_write (n : Int) {rest : List Char} (h : Delimited rest) :
    readNumber (writeNumber n ++ rest) = some (n, rest) := by
  cases n with
  | ofNat n =>
      rw [readNumber, writeNumber, if_neg (head?_toDigits_ne n rest), readDigits_write n h]
      rfl
  | negSucc n =>
      show (readDigits (Nat.toDigits 10 (n + 1) ++ rest)).map _ = _
      rw [readDigits_write (n + 1) h]
      rfl

/-! ## Values -/

theorem skipSpace_cons {c : Char} (h : isSpace c = false) (text : List Char) :
    skipSpace (c :: text) = c :: text := by
  rw [skipSpace, List.dropWhile_cons, if_neg (by simp [h])]

/-- A text that begins a value. -/
def Begins (text : List Char) : Prop :=
  ∃ c rest, text = c :: rest ∧ isSpace c = false ∧ c ≠ ']' ∧ c ≠ '\x7d'

theorem Begins.append {text : List Char} (h : Begins text) (more : List Char) :
    Begins (text ++ more) := by
  obtain ⟨c, rest, rfl, hc⟩ := h
  exact ⟨c, rest ++ more, rfl, hc⟩

theorem begins_writeNumber (n : Int) : Begins (writeNumber n) := by
  cases n with
  | ofNat n =>
      cases hdigits : Nat.toDigits 10 n with
      | nil => exact absurd hdigits Nat.toDigits_ne_nil
      | cons c digits =>
          have hc : c.isDigit = true :=
            Nat.isDigit_of_mem_toDigits (by decide) (by decide) (hdigits ▸ List.mem_cons_self)
          refine ⟨c, digits, hdigits, ?_, ?_, ?_⟩
          · by_contra hspace
            simp only [isSpace, Bool.not_eq_false, Bool.or_eq_true, decide_eq_true_eq] at hspace
            rcases hspace with ((rfl | rfl) | rfl) | rfl
            all_goals cases hc
          · rintro rfl
            cases hc
          · rintro rfl
            cases hc
  | negSucc n => exact ⟨'-', _, rfl, by decide, by decide, by decide⟩

theorem begins_write (v : Json) : Begins (write v) := by
  cases v with
  | null => exact ⟨'n', _, rfl, by decide, by decide, by decide⟩
  | bool b =>
      cases b with
      | true => exact ⟨'t', _, rfl, by decide, by decide, by decide⟩
      | false => exact ⟨'f', _, rfl, by decide, by decide, by decide⟩
  | num n =>
      rw [write_num]
      exact begins_writeNumber n
  | str s => exact ⟨'\x22', _, write_str s, by decide, by decide, by decide⟩
  | arr items => exact ⟨'[', _, write_arr items, by decide, by decide, by decide⟩
  | obj fields => exact ⟨'\x7b', _, write_obj fields, by decide, by decide, by decide⟩

theorem begins_writeItems {items : List Json} (h : items ≠ []) : Begins (writeItems items) := by
  match items with
  | [] => exact absurd rfl h
  | [v] =>
      rw [writeItems]
      exact begins_write v
  | v :: w :: items =>
      rw [writeItems]
      exact (begins_write v).append _

theorem begins_writeFields {fields : List (String × Json)} (h : fields ≠ []) :
    Begins (writeFields fields) := by
  match fields with
  | [] => exact absurd rfl h
  | [(key, v)] =>
      rw [writeFields]
      exact ⟨'\x22', _, rfl, by decide, by decide, by decide⟩
  | (key, v) :: field :: fields =>
      rw [writeFields]
      exact ⟨'\x22', _, rfl, by decide, by decide, by decide⟩

theorem Begins.skipSpace {text : List Char} (h : Begins text) : skipSpace text = text := by
  obtain ⟨c, rest, rfl, hc, -⟩ := h
  exact skipSpace_cons hc rest

theorem Begins.head?_ne {text : List Char} (h : Begins text) :
    text.head? ≠ some ']' ∧ text.head? ≠ some '\x7d' := by
  obtain ⟨c, rest, rfl, -, hbracket, hbrace⟩ := h
  exact ⟨fun heq => hbracket (Option.some.inj heq), fun heq => hbrace (Option.some.inj heq)⟩

theorem Begins.length_pos {text : List Char} (h : Begins text) : 0 < text.length := by
  obtain ⟨c, rest, rfl, -⟩ := h
  exact Nat.succ_pos _

/-- A number begins with none of the letters that begin another value. -/
theorem readValue_number (n : Int) {rest : List Char} (h : Delimited rest) (fuel : Nat) :
    readValue (fuel + 1) (writeNumber n ++ rest) = some (.num n, rest) := by
  have hread := readNumber_write n h
  obtain ⟨c, digits, heq, hspace, -⟩ := begins_writeNumber n
  have hc : c = '-' ∨ c.isDigit = true := by
    cases n with
    | ofNat n =>
        exact .inr (Nat.isDigit_of_mem_toDigits (by decide) (by decide)
          ((heq : Nat.toDigits 10 n = _) ▸ List.mem_cons_self))
    | negSucc n => exact .inl (List.cons.inj heq).1.symm
  rw [heq] at hread ⊢
  rw [readValue, List.cons_append, skipSpace_cons hspace]
  dsimp only
  have hne : ∀ d : Char, d ≠ '-' → d.isDigit = false → c ≠ d := by
    rintro d hminus hdigit rfl
    rcases hc with rfl | hc
    · exact hminus rfl
    · rw [hdigit] at hc
      cases hc
  rw [if_neg (hne 'n' (by decide) (by decide)), if_neg (hne 't' (by decide) (by decide)),
    if_neg (hne 'f' (by decide) (by decide)), if_neg (hne '\x22' (by decide) (by decide)),
    if_neg (hne '[' (by decide) (by decide)), if_neg (hne '\x7b' (by decide) (by decide)),
    ← List.cons_append, hread]
  rfl

mutual

theorem readValue_write : ∀ (v : Json) (fuel : Nat) (rest : List Char),
    2 * (write v).length ≤ fuel → Delimited rest →
      readValue fuel (write v ++ rest) = some (v, rest)
  | v, 0, rest, hfuel, hrest => by
      have hpos := (begins_write v).length_pos
      omega
  | .null, fuel + 1, rest, hfuel, hrest => rfl
  | .bool true, fuel + 1, rest, hfuel, hrest => rfl
  | .bool false, fuel + 1, rest, hfuel, hrest => rfl
  | .num n, fuel + 1, rest, hfuel, hrest => by
      rw [write_num]
      exact readValue_number n hrest fuel
  | .str s, fuel + 1, rest, hfuel, hrest => by
      show (readString ((writeString s).tail ++ rest)).map _ = _
      rw [readString_write]
      rfl
  | .arr [], fuel + 1, rest, hfuel, hrest => rfl
  | .arr (v :: items), fuel + 1, rest, hfuel, hrest => by
      have hbegins := begins_writeItems (List.cons_ne_nil v items)
      have hbegins' := hbegins.append (']' :: rest)
      have hread := readItems_write (v :: items) (List.cons_ne_nil v items) fuel rest
        (by
          rw [write_arr, List.length_cons, List.length_append, List.length_singleton] at hfuel
          omega)
      have hshape : write (.arr (v :: items)) ++ rest =
          '[' :: (writeItems (v :: items) ++ ']' :: rest) := by
        rw [write_arr, List.cons_append, List.append_assoc]
        rfl
      rw [hshape, readValue, skipSpace_cons (by decide)]
      dsimp only
      rw [hbegins'.skipSpace, if_neg (by decide), if_neg (by decide), if_neg (by decide),
        if_neg (by decide), if_pos rfl, if_neg hbegins'.head?_ne.1, hread]
      rfl
  | .obj [], fuel + 1, rest, hfuel, hrest => rfl
  | .obj (field :: fields), fuel + 1, rest, hfuel, hrest => by
      have hbegins := begins_writeFields (List.cons_ne_nil field fields)
      have hbegins' := hbegins.append ('\x7d' :: rest)
      have hread := readFields_write (field :: fields) (List.cons_ne_nil field fields)
        fuel rest (by
          rw [write_obj, List.length_cons, List.length_append, List.length_singleton] at hfuel
          omega)
      have hshape : write (.obj (field :: fields)) ++ rest =
          '\x7b' :: (writeFields (field :: fields) ++ '\x7d' :: rest) := by
        rw [write_obj, List.cons_append, List.append_assoc]
        rfl
      rw [hshape, readValue, skipSpace_cons (by decide)]
      dsimp only
      rw [hbegins'.skipSpace, if_neg (by decide), if_neg (by decide), if_neg (by decide),
        if_neg (by decide), if_neg (by decide), if_pos rfl, if_neg hbegins'.head?_ne.2, hread]
      rfl

theorem readItems_write : ∀ (items : List Json), items ≠ [] → ∀ (fuel : Nat) (rest : List Char),
    2 * ((writeItems items).length + 1) + 1 ≤ fuel →
      readItems fuel (writeItems items ++ ']' :: rest) = some (items, rest)
  | [], h, _, _, _ => absurd rfl h
  | items, _, 0, _, hfuel => by omega
  | [v], _, fuel + 1, rest, hfuel => by
      rw [writeItems] at hfuel ⊢
      rw [readItems, readValue_write v _ _ (by omega) (delimited_bracket rest), Option.bind_some]
      rfl
  | v :: w :: items, _, fuel + 1, rest, hfuel => by
      have hpos := (begins_write v).length_pos
      have hsplit : writeItems (v :: w :: items) ++ ']' :: rest =
          write v ++ ',' :: (writeItems (w :: items) ++ ']' :: rest) := by
        rw [writeItems, List.append_assoc]
        rfl
      have hread := readItems_write (w :: items) (List.cons_ne_nil w items) fuel rest
        (by
          rw [writeItems, List.length_append, List.length_cons] at hfuel
          omega)
      rw [hsplit, readItems, readValue_write v _ _ (by
        rw [writeItems, List.length_append] at hfuel
        omega) (delimited_comma _), Option.bind_some]
      dsimp only
      rw [skipSpace_cons (by decide), if_neg (by simp), if_pos (by simp), List.tail_cons, hread]
      rfl

theorem readFields_write : ∀ (fields : List (String × Json)), fields ≠ [] →
    ∀ (fuel : Nat) (rest : List Char), 2 * ((writeFields fields).length + 1) + 1 ≤ fuel →
      readFields fuel (writeFields fields ++ '\x7d' :: rest) = some (fields, rest)
  | [], h, _, _, _ => absurd rfl h
  | fields, _, 0, _, hfuel => by omega
  | [(key, v)], _, fuel + 1, rest, hfuel => by
      have hshape : writeFields [(key, v)] ++ '\x7d' :: rest =
          '\x22' :: ((writeString key).tail ++ ':' :: (write v ++ '\x7d' :: rest)) := by
        simp [writeFields, writeString]
      have hlen : (writeFields [(key, v)]).length =
          (writeString key).length + ((write v).length + 1) := by
        simp [writeFields]
      rw [hlen] at hfuel
      rw [hshape, readFields, skipSpace_cons (by decide), if_pos List.head?_cons, List.tail_cons,
        readString_write, Option.bind_some]
      dsimp only
      rw [skipSpace_cons (by decide), if_pos List.head?_cons, List.tail_cons,
        readValue_write v _ _ (by omega) (delimited_brace rest), Option.bind_some]
      rfl
  | (key, v) :: field :: fields, _, fuel + 1, rest, hfuel => by
      have hshape : writeFields ((key, v) :: field :: fields) ++ '\x7d' :: rest =
          '\x22' :: ((writeString key).tail ++
            ':' :: (write v ++ ',' :: (writeFields (field :: fields) ++ '\x7d' :: rest))) := by
        simp [writeFields, writeString]
      have hlen : (writeFields ((key, v) :: field :: fields)).length =
          (writeString key).length + ((write v).length + ((writeFields (field :: fields)).length +
            1) + 1) := by
        simp [writeFields]
      rw [hlen] at hfuel
      have hread := readFields_write (field :: fields) (List.cons_ne_nil field fields)
        fuel rest (by omega)
      rw [hshape, readFields, skipSpace_cons (by decide), if_pos List.head?_cons, List.tail_cons,
        readString_write, Option.bind_some]
      dsimp only
      rw [skipSpace_cons (by decide), if_pos List.head?_cons, List.tail_cons,
        readValue_write v _ _ (by omega) (delimited_comma _), Option.bind_some]
      dsimp only
      rw [skipSpace_cons (by decide), if_neg (by simp), if_pos (by simp), List.tail_cons, hread]
      rfl

end

/-- What is written reads back. -/
theorem parse_write (v : Json) : parse (write v) = some v := by
  have hread := readValue_write v (2 * (write v).length + 2) []
    (Nat.le_add_right _ 2) delimited_nil
  rw [List.append_nil] at hread
  rw [parse, hread]
  rfl

/-! ## Other libraries -/

/-- A value that nests no deeper than `depth`, with integers of 64 bits. -/
inductive Within : Nat → Json → Prop where
  | null {depth : Nat} : Within depth .null
  | bool {depth : Nat} (b : Bool) : Within depth (.bool b)
  | num {depth : Nat} {n : Int} (hlow : -2 ^ 63 ≤ n) (hhigh : n < 2 ^ 64) : Within depth (.num n)
  | str {depth : Nat} (s : String) : Within depth (.str s)
  | arr {depth : Nat} {items : List Json} (h : ∀ v ∈ items, Within depth v) :
      Within (depth + 1) (.arr items)
  | obj {depth : Nat} {fields : List (String × Json)} (h : ∀ field ∈ fields, Within depth field.2) :
      Within (depth + 1) (.obj fields)

/-- A writer of texts that mean their values. -/
structure Writer where
  toText : Json → List Char
  parse_toText : ∀ v, parse (toText v) = some v

/-- A reader of compact texts. -/
structure Reader (depth : Nat) where
  ofText : List Char → Option Json
  ofText_write : ∀ {v}, Within depth v → ofText (write v) = some v

theorem Writer.toText_inj (writer : Writer) {v w : Json} (h : writer.toText v = writer.toText w) :
    v = w := by
  have hread := writer.parse_toText v
  rw [h, writer.parse_toText w] at hread
  exact (Option.some.inj hread).symm

theorem Writer.toText_ne_nil (writer : Writer) (v : Json) : writer.toText v ≠ [] := by
  intro h
  have hread := writer.parse_toText v
  rw [h] at hread
  cases hread

def writer : Writer := ⟨write, parse_write⟩

def reader (depth : Nat) : Reader depth := ⟨parse, fun {v} _ => parse_write v⟩

end Json
