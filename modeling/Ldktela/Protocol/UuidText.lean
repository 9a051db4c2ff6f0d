import Ldktela.Lib.Hex
import Ldktela.Protocol

/-!
# UUIDs as text

A UUID is a number below `2 ^ 128`.  The `uuid` crate writes and reads its text; `UuidFormat` is
what the rest relies on.  `UuidText.format` is one such format, by the documentation of the crate:
a UUID is written with hyphens and in lower case, and read in either case, with or without hyphens,
in braces, or as a URN.
-/

namespace Ldktela
namespace Protocol

/-- `Display` and `FromStr` of the `uuid` crate. -/
structure UuidFormat where
  write : Uuid → List Char
  read : List Char → Option Uuid
  read_write : ∀ {id : Uuid}, id < 2 ^ 128 → read (write id) = some id
  /-- There is nothing but hexadecimal digits and hyphens in it. -/
  notMem_write : ∀ {id : Uuid} {c : Char}, Hex.digitValue c = none → c ≠ '-' → c ∉ write id

theorem UuidFormat.write_inj (uuid : UuidFormat) {id id' : Uuid} (h : id < 2 ^ 128)
    (h' : id' < 2 ^ 128) (heq : uuid.write id = uuid.write id') : id = id' := by
  have hread := uuid.read_write h
  rw [heq, uuid.read_write h'] at hread
  exact (Option.some.inj hread).symm

namespace UuidText

/-- The five groups of a hyphenated text. -/
def hyphenated (a b c d e : List Char) : List Char :=
  a ++ '-' :: (b ++ '-' :: (c ++ '-' :: (d ++ '-' :: e)))

/-- `Display`. -/
def write (id : Uuid) : List Char :=
  let digits := Hex.write 32 id
  hyphenated (digits.take 8) ((digits.drop 8).take 4) ((digits.drop 12).take 4)
    ((digits.drop 16).take 4) (digits.drop 20)

/-- `parse_hyphenated`, of 36 characters. -/
def parseHyphenated (text : List Char) : Option Uuid :=
  if text[8]? = some '-' ∧ text[13]? = some '-' ∧ text[18]? = some '-' ∧ text[23]? = some '-' then
    Hex.read (text.take 8 ++ ((text.drop 9).take 4 ++ ((text.drop 14).take 4 ++
      ((text.drop 19).take 4 ++ text.drop 24))))
  else
    none

/-- `FromStr`. -/
def read (text : List Char) : Option Uuid :=
  if text.length = 32 then
    Hex.read text
  else if text.length = 36 then
    parseHyphenated text
  else if text.length = 38 ∧ text.head? = some '\x7b' ∧ text.getLast? = some '\x7d' then
    parseHyphenated text.tail.dropLast
  else if text.length = 45 ∧ "urn:uuid:".toList.isPrefixOf text then
    parseHyphenated (text.drop 9)
  else
    none

/-! ## Round trip -/

theorem length_hyphenated (a b c d e : List Char) :
    (hyphenated a b c d e).length =
      a.length + b.length + c.length + d.length + e.length + 4 := by
  simp only [hyphenated, List.length_append, List.length_cons]
  omega

theorem parseHyphenated_hyphenated {a b c d e : List Char} (ha : a.length = 8)
    (hb : b.length = 4) (hc : c.length = 4) (hd : d.length = 4) :
    parseHyphenated (hyphenated a b c d e) = Hex.read (a ++ (b ++ (c ++ (d ++ e)))) := by
  unfold parseHyphenated hyphenated
  rw [if_pos]
  · -- each slice lies inside one group
    simp (disch := omega) [List.drop_append, List.drop_eq_nil_of_le, ha, hb, hc, hd]
  · simp [List.getElem?_append, ha, hb, hc, hd]

/-- What is written reads back. -/
theorem read_write {id : Uuid} (h : id < 2 ^ 128) : read (write id) = some id := by
  have hlen : (Hex.write 32 id).length = 32 := Hex.length_write 32 id
  have hjoin : ((Hex.write 32 id).take 8 ++ (((Hex.write 32 id).drop 8).take 4 ++
      (((Hex.write 32 id).drop 12).take 4 ++ (((Hex.write 32 id).drop 16).take 4 ++
        (Hex.write 32 id).drop 20)))) = Hex.write 32 id := by
    have hstep : ∀ k : Nat, ((Hex.write 32 id).drop k).take 4 ++ (Hex.write 32 id).drop (k + 4) =
        (Hex.write 32 id).drop k := by
      intro k
      rw [← List.drop_drop, List.take_append_drop]
    rw [hstep 16, hstep 12, hstep 8, List.take_append_drop]
  have htext : (write id).length = 36 := by
    simp [write, length_hyphenated, hlen]
  rw [read, if_neg (by omega), if_pos htext, write,
    parseHyphenated_hyphenated (by simp [hlen]) (by simp [hlen]) (by simp [hlen])
      (by simp [hlen]), hjoin]
  exact Hex.read_write (by simpa using h)

/-- A UUID is written with hexadecimal digits and hyphens. -/
theorem notMem_write {id : Uuid} {c : Char} (hc : Hex.digitValue c = none) (hdash : c ≠ '-') :
    c ∉ write id := by
  intro h
  have hno : ∀ {l : List Char}, (∀ x ∈ l, x ∈ Hex.write 32 id) → c ∉ l := fun hsub hmem =>
    Hex.notMem_write hc (hsub c hmem)
  unfold write hyphenated at h
  simp only [List.mem_append, List.mem_cons] at h
  rcases h with h | h | h | h | h | h | h | h | h
  · exact hno (fun x hx => List.mem_of_mem_take hx) h
  · exact hdash h
  · exact hno (fun x hx => List.mem_of_mem_drop (List.mem_of_mem_take hx)) h
  · exact hdash h
  · exact hno (fun x hx => List.mem_of_mem_drop (List.mem_of_mem_take hx)) h
  · exact hdash h
  · exact hno (fun x hx => List.mem_of_mem_drop (List.mem_of_mem_take hx)) h
  · exact hdash h
  · exact hno (fun x hx => List.mem_of_mem_drop hx) h

def format : UuidFormat := ⟨write, read, read_write, notMem_write⟩

end UuidText
end Protocol
end Ldktela
