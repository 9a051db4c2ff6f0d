import Mathlib.Data.List.TakeWhile
import Ldktela.Auth.Exchange

/-!
# A pairing code from the bot to the server

`generate` of `crates/domain/src/pairing.rs`, the field of `PairingScreen.tsx` with
`normalizePairingCode` of `desktop/src/features/pairing/code.ts`, and the shape check of the server.
The client and the server normalise a text in two different ways; they agree on every text that one
of them takes for a code.
-/

namespace Ldktela
namespace Desktop
namespace PairingCode

open Auth.Pair

/-- `toUpperCase`, which maps a character to one or more, and leaves white space alone. -/
structure UpperCase where
  upper : Char → List Char
  ascii : ∀ c, c.toNat < 128 → upper c = [c.toUpper]
  space : ∀ c, isWhitespace c = true → upper c = [c]

/-! ## The bot -/

/-- A code of eight draws from the alphabet. -/
def generate (draws : Fin pairingCodeLen → Fin pairingCodeAlphabet.length) : List Char :=
  List.ofFn fun k => pairingCodeAlphabet.get (draws k)

/-! ## The field -/

/-- No 0/1/I/L/O. -/
def pairingAlphabet : List Char := "ABCDEFGHJKMNPQRSTUVWXYZ23456789".toList

def pairingCodeLength : Nat := 8

/-- The loop of `normalizePairingCode`. -/
def collect (code : List Char) : List Char → List Char
  | [] => code
  | c :: text =>
      if code.length = pairingCodeLength then code
      else collect (if c ∈ pairingAlphabet then code ++ [c] else code) text

variable (u : UpperCase)

def normalizePairingCode (raw : List Char) : List Char :=
  collect [] (raw.flatMap u.upper)

def isCompletePairingCode (code : List Char) : Bool :=
  code.length = pairingCodeLength

/-- The button, while a pairing is under way or not. -/
def ready (code : List Char) (busy : Bool) : Bool :=
  isCompletePairingCode code && !busy

/-- The field after one more piece of text was typed or pasted at its end. -/
def typed (code piece : List Char) : List Char :=
  normalizePairingCode u (code ++ piece)

/-! ## What the loop collects -/

/-- The symbols of a text. -/
def symbols (text : List Char) : List Char :=
  text.filter fun c => decide (c ∈ pairingAlphabet)

theorem symbols_append (l m : List Char) : symbols (l ++ m) = symbols l ++ symbols m :=
  List.filter_append l m

theorem collect_eq {code : List Char} (h : code.length ≤ pairingCodeLength) (text : List Char) :
    collect code text = (code ++ symbols text).take pairingCodeLength := by
  induction text generalizing code with
  | nil => rw [collect, symbols, List.filter_nil, List.append_nil, List.take_of_length_le h]
  | cons c text ih =>
      rw [collect]
      by_cases hfull : code.length = pairingCodeLength
      · rw [if_pos hfull, ← hfull, List.take_left]
      · rw [if_neg hfull]
        by_cases hc : c ∈ pairingAlphabet
        · rw [if_pos hc, ih (by rw [List.length_append, List.length_singleton]; omega), symbols,
            symbols, List.filter_cons_of_pos (by simpa using hc), List.append_assoc]
          rfl
        · rw [if_neg hc, ih h, symbols, symbols, List.filter_cons_of_neg (by simpa using hc)]

theorem normalizePairingCode_eq (raw : List Char) :
    normalizePairingCode u raw = (symbols (raw.flatMap u.upper)).take pairingCodeLength := by
  rw [normalizePairingCode, collect_eq (Nat.zero_le _), List.nil_append]

/-- What the field may hold. -/
def InField (code : List Char) : Prop :=
  code.length ≤ pairingCodeLength ∧ ∀ c ∈ code, c ∈ pairingAlphabet

theorem inField_normalize (raw : List Char) : InField (normalizePairingCode u raw) := by
  rw [normalizePairingCode_eq]
  refine ⟨List.length_take_le _ _, fun c hc => ?_⟩
  simpa using (List.mem_filter.mp (List.mem_of_mem_take hc)).2

theorem ascii_of_mem {c : Char} (h : c ∈ pairingAlphabet) : c.toNat < 128 ∧ c.toUpper = c := by
  have hall : (pairingAlphabet.all fun c => c.toNat < 128 ∧ c.toUpper = c) = true := by decide
  exact of_decide_eq_true (List.all_eq_true.mp hall c h)

theorem isWhitespace_of_mem {c : Char} (h : c ∈ pairingAlphabet) : isWhitespace c = false := by
  have hall : (pairingAlphabet.all fun c => !isWhitespace c) = true := by decide
  simpa using List.all_eq_true.mp hall c h

/-- The symbols are in upper case already. -/
theorem flatMap_upper_of_inField {code : List Char} (h : ∀ c ∈ code, c ∈ pairingAlphabet) :
    code.flatMap u.upper = code := by
  induction code with
  | nil => rfl
  | cons c code ih =>
      obtain ⟨hascii, hupper⟩ := ascii_of_mem (h c List.mem_cons_self)
      rw [List.flatMap_cons, u.ascii c hascii, hupper,
        ih fun d hd => h d (List.mem_cons_of_mem c hd)]
      rfl

theorem symbols_of_inField {code : List Char} (h : ∀ c ∈ code, c ∈ pairingAlphabet) :
    symbols code = code :=
  List.filter_eq_self.mpr fun c hc => by simpa using h c hc

theorem take_append_take (n : Nat) (l m : List Char) :
    (l.take n ++ m).take n = (l ++ m).take n := by
  rw [List.take_append, List.take_append, List.take_take, Nat.min_self, List.length_take]
  congr 2
  omega

/-- One piece after another gives what the whole text gives. -/
theorem foldl_typed (pieces : List (List Char)) {code : List Char} (h : InField code) :
    pieces.foldl (typed u) code =
      (code ++ symbols (pieces.flatten.flatMap u.upper)).take pairingCodeLength := by
  induction pieces generalizing code with
  | nil =>
      rw [List.foldl_nil, List.flatten_nil, List.flatMap_nil, symbols, List.filter_nil,
        List.append_nil, List.take_of_length_le h.1]
  | cons piece pieces ih =>
      have htyped : typed u code piece =
          (code ++ symbols (piece.flatMap u.upper)).take pairingCodeLength := by
        rw [typed, normalizePairingCode_eq, List.flatMap_append, flatMap_upper_of_inField u h.2,
          symbols_append, symbols_of_inField h.2]
      have hnext : InField (typed u code piece) := inField_normalize u (code ++ piece)
      rw [List.foldl_cons, ih hnext, htyped, take_append_take, List.append_assoc, List.flatten_cons,
        List.flatMap_append, symbols_append]

/-! ## The client and the server -/

theorem normalized_of_inField {code : List Char} (h : ∀ c ∈ code, c ∈ pairingAlphabet) :
    normalized code = code := by
  have hspace : ∀ c ∈ code, isWhitespace c = false := by
    exact fun c hc => isWhitespace_of_mem (h c hc)
  have hdrop : ∀ l : List Char, (∀ c ∈ l, isWhitespace c = false) → l.dropWhile isWhitespace = l :=
    fun l hl => List.dropWhile_eq_self_iff.mpr fun hpos => by
      rw [hl _ (List.getElem_mem hpos)]
      exact Bool.false_ne_true
  have hupper : code.map Char.toUpper = code :=
    (List.map_congr_left fun c hc => (ascii_of_mem (h c hc)).2).trans (List.map_id _)
  rw [normalized, hdrop code hspace,
    hdrop code.reverse fun c hc => hspace c (List.mem_reverse.mp hc),
    List.reverse_reverse, hupper]

theorem pairingCode_eq_ok {code : List Char} :
    pairingCode code = .ok () ↔
      code.length = pairingCodeLength ∧ ∀ c ∈ code, c ∈ pairingAlphabet := by
  show pairingCode code = .ok () ↔ code.length = 8 ∧ ∀ c ∈ code, c ∈ pairingCodeAlphabet
  unfold pairingCode pairingCodeLen
  split_ifs with hempty hshort hlong hformat
  · rw [List.isEmpty_iff] at hempty
    simp [hempty]
  · exact iff_of_false (by simp) fun h => by omega
  · exact iff_of_false (by simp) fun h => by omega
  · refine iff_of_false (by simp) fun h => ?_
    rw [Bool.not_eq_true', Bool.eq_false_iff] at hformat
    exact hformat (List.all_eq_true.mpr fun c hc => by simpa using h.2 c hc)
  · simp only [Bool.not_eq_true', Bool.not_eq_false, List.all_eq_true, decide_eq_true_eq] at hformat
    exact iff_of_true rfl ⟨by omega, hformat⟩

theorem ascii_of_toUpper_mem {c : Char} (h : c.toUpper ∈ pairingAlphabet) : c.toNat < 128 := by
  unfold Char.toUpper at h
  split at h
  · next hlower => exact lt_of_le_of_lt (UInt32.le_iff_toNat_le.mp hlower.2) (by decide)
  · exact (ascii_of_mem h).1

theorem symbols_space {text : List Char} (h : ∀ c ∈ text, isWhitespace c = true) :
    symbols (text.flatMap u.upper) = [] := by
  have hnone : ∀ c ∈ pairingAlphabet, isWhitespace c = false := fun c hc =>
    isWhitespace_of_mem hc
  induction text with
  | nil => rfl
  | cons c text ih =>
      have hspace := h c List.mem_cons_self
      have hc : c ∉ pairingAlphabet := by
        intro hmem
        rw [hnone c hmem] at hspace
        cases hspace
      rw [List.flatMap_cons, u.space c hspace, List.singleton_append, symbols,
        List.filter_cons_of_neg (by simpa using hc)]
      exact ih fun d hd => h d (List.mem_cons_of_mem c hd)

/-- `trim` takes white space away on both sides. -/
theorem exists_trimmed (raw : List Char) :
    ∃ front text back, raw = front ++ (text ++ back) ∧ normalized raw = text.map Char.toUpper ∧
      (∀ c ∈ front, isWhitespace c = true) ∧ ∀ c ∈ back, isWhitespace c = true := by
  have hback := List.takeWhile_append_dropWhile
    (p := isWhitespace) (l := (raw.dropWhile isWhitespace).reverse)
  refine ⟨raw.takeWhile isWhitespace,
    ((raw.dropWhile isWhitespace).reverse.dropWhile isWhitespace).reverse,
    ((raw.dropWhile isWhitespace).reverse.takeWhile isWhitespace).reverse, ?_, rfl,
    fun c hc => List.mem_takeWhile_imp hc, fun c hc => ?_⟩
  · rw [← List.reverse_append, hback, List.reverse_reverse, List.takeWhile_append_dropWhile]
  · exact List.mem_takeWhile_imp (List.mem_reverse.mp hc)

theorem flatMap_upper_of_toUpper {text : List Char}
    (h : ∀ c ∈ text, c.toUpper ∈ pairingAlphabet) :
    text.flatMap u.upper = text.map Char.toUpper := by
  induction text with
  | nil => rfl
  | cons c text ih =>
      rw [List.flatMap_cons, u.ascii c (ascii_of_toUpper_mem (h c List.mem_cons_self)),
        List.map_cons, ih fun d hd => h d (List.mem_cons_of_mem c hd)]
      rfl

/-- What the server takes for a code, the client takes for the same code. -/
theorem normalize_of_pairingCode {raw : List Char} (h : pairingCode (normalized raw) = .ok ()) :
    normalizePairingCode u raw = normalized raw := by
  obtain ⟨front, text, back, hraw, hnormalized, hfront, hback⟩ := exists_trimmed raw
  obtain ⟨hlen, hmem⟩ := pairingCode_eq_ok.mp h
  rw [hnormalized] at hlen hmem ⊢
  have htext : ∀ c ∈ text, c.toUpper ∈ pairingAlphabet := fun c hc =>
    hmem _ (List.mem_map_of_mem hc)
  have hsymbols : symbols (raw.flatMap u.upper) = text.map Char.toUpper := by
    rw [hraw, List.flatMap_append, List.flatMap_append, symbols_append, symbols_append,
      symbols_space u hfront, symbols_space u hback, flatMap_upper_of_toUpper u htext,
      symbols_of_inField hmem, List.nil_append, List.append_nil]
  rw [normalizePairingCode_eq, hsymbols, List.take_of_length_le hlen.le]

/-- While no pairing is under way, the button is enabled exactly when the server would look the code
up, the server looks up the code in the field, and any text it takes for a code would have left that
code in the field. -/
theorem field_agrees (raw : List Char) (busy : Bool) :
    (ready (normalizePairingCode u raw) busy = true ↔
        busy = false ∧ pairingCode (normalized (normalizePairingCode u raw)) = .ok ()) ∧
      normalized (normalizePairingCode u raw) = normalizePairingCode u raw ∧
      (pairingCode (normalized raw) = .ok () ↔
        ready (normalizePairingCode u raw) false = true ∧
          normalizePairingCode u raw = normalized raw) := by
  have hfield := inField_normalize u raw
  have hsame := normalized_of_inField hfield.2
  have hready : ∀ busy, ready (normalizePairingCode u raw) busy = true ↔
      (normalizePairingCode u raw).length = pairingCodeLength ∧ busy = false := by
    simp [ready, isCompletePairingCode]
  refine ⟨?_, hsame, fun h => ?_, fun ⟨hcomplete, heq⟩ => ?_⟩
  · rw [hsame, pairingCode_eq_ok, hready]
    exact ⟨fun ⟨hlen, hbusy⟩ => ⟨hbusy, hlen, hfield.2⟩, fun ⟨hbusy, h⟩ => ⟨h.1, hbusy⟩⟩
  · have heq := normalize_of_pairingCode u h
    refine ⟨?_, heq⟩
    rw [hready, heq]
    exact ⟨(pairingCode_eq_ok.mp h).1, rfl⟩
  · rw [← heq, pairingCode_eq_ok]
    exact ⟨((hready false).mp hcomplete).1, hfield.2⟩

/-! ## A code of the bot -/

theorem generate_inAlphabet (draws : Fin pairingCodeLen → Fin pairingCodeAlphabet.length) :
    (generate draws).length = pairingCodeLength ∧ ∀ c ∈ generate draws, c ∈ pairingAlphabet := by
  refine ⟨List.length_ofFn, fun c hc => ?_⟩
  obtain ⟨k, rfl⟩ := List.mem_ofFn.mp hc
  exact List.get_mem _ _

/-- A code that is read off the message and typed in pieces, in either case and with anything
between its symbols that is none of them, is the code the server looks up. -/
theorem typed_generate (draws : Fin pairingCodeLen → Fin pairingCodeAlphabet.length)
    (pieces : List (List Char))
    (hpieces : symbols (pieces.flatten.flatMap u.upper) = generate draws) :
    let field := pieces.foldl (typed u) []
    field = generate draws ∧ isCompletePairingCode field = true ∧
      normalized field = generate draws ∧ pairingCode (normalized field) = .ok () := by
  intro field
  obtain ⟨hlen, hmem⟩ := generate_inAlphabet draws
  have hfield : field = generate draws := by
    have hempty : InField [] := ⟨Nat.zero_le _, fun c hc => absurd hc List.not_mem_nil⟩
    show pieces.foldl (typed u) [] = generate draws
    rw [foldl_typed u pieces hempty, hpieces, List.nil_append, List.take_of_length_le hlen.le]
  have hsame := normalized_of_inField hmem
  rw [hfield, hsame]
  exact ⟨rfl, decide_eq_true hlen, rfl, pairingCode_eq_ok.mpr ⟨hlen, hmem⟩⟩

/-- Upper case of the letters A to Z alone. -/
def asciiUpper : UpperCase where
  upper c := [c.toUpper]
  ascii _ _ := rfl
  space c h := by
    unfold Char.toUpper
    split
    · next hlower =>
        have hlow : 97 ≤ c.toNat := UInt32.le_iff_toNat_le.mp hlower.1
        have hhigh : c.toNat ≤ 122 := UInt32.le_iff_toNat_le.mp hlower.2
        simp only [isWhitespace, Bool.or_eq_true, decide_eq_true_eq] at h
        omega
    · rfl

/-- Eight times the first symbol, with a dash in the middle. -/
theorem typed_generate_dashed :
    symbols (["aaaA-".toList, "aAaa".toList].flatten.flatMap asciiUpper.upper) =
        generate (fun _ => ⟨0, by decide⟩) ∧
      ["aaaA-".toList, "aAaa".toList].foldl (typed asciiUpper) [] =
        generate fun _ => ⟨0, by decide⟩ :=
  have hpieces : symbols (["aaaA-".toList, "aAaa".toList].flatten.flatMap asciiUpper.upper) =
      generate fun _ => ⟨0, by decide⟩ := by decide
  ⟨hpieces, (typed_generate asciiUpper _ _ hpieces).1⟩

end PairingCode
end Desktop
end Ldktela
