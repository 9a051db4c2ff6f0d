import Ldktela.Lib.Regex
import Mathlib.Data.List.DropRight
import Mathlib.Data.List.Forall2
import Mathlib.Data.List.Flatten
import Mathlib.Logic.Function.Iterate

/-!
# Release notes

`readInlines` and `readNotes` of `desktop/src/features/update/notes.ts`, with their patterns.
A text is what JavaScript has, a list of UTF-16 code units, and the patterns read it unit by
unit.

`readNotes` goes through the lines with an index that its fence loop advances as well; `turn` is
one round of the outer loop on the lines that are left.  `contents` says what a document holds,
line by line and without the loop.
-/

namespace Ldktela
namespace Notes

open Regex (cat plus star opt exec)

abbrev Text := List UInt16

/-! ## The patterns -/

/-- A character of the basic plane as a code unit. -/
def unit (c : Char) : UInt16 := .ofNat c.toNat

def backtick : Char := Char.ofNat 0x60

/-- White space and line terminators: `\s`, and what `trim` takes away. -/
def isSpace (u : UInt16) : Bool :=
  [0x09, 0x0A, 0x0B, 0x0C, 0x0D, 0x20, 0xA0, 0x1680, 0x2028, 0x2029, 0x202F, 0x205F, 0x3000,
    0xFEFF].contains u || (0x2000 ≤ u && u ≤ 0x200A)

def isDigit (u : UInt16) : Bool :=
  unit '0' ≤ u && u ≤ unit '9'

/-- What `.` reads. -/
def isInLine (u : UInt16) : Bool :=
  !([0x0A, 0x0D, 0x2028, 0x2029].contains u)

def oneOf (cs : List Char) : Regex UInt16 := .set fun u => (cs.map unit).contains u

def noneOf (cs : List Char) : Regex UInt16 := .set fun u => !(cs.map unit).contains u

def lit (c : Char) : Regex UInt16 := oneOf [c]

def space : Regex UInt16 := .set isSpace

/-- `\s{0,3}`. -/
def indent : Regex UInt16 := .rep 0 (some 3) true space

/-- `.*`. -/
def anything : Regex UInt16 := star (.set isInLine)

/-- `[^*\s]`. -/
def solid : Regex UInt16 := .set fun u => u != unit '*' && !isSpace u

/-- Code first, because it protects what is inside it; then bold, links and italics. -/
def INLINE : Regex UInt16 :=
  .alt (cat [lit backtick, .group 1 (plus (noneOf [backtick])), lit backtick])
    (.alt (cat [lit '*', lit '*', .group 2 (plus (noneOf ['*'])), lit '*', lit '*'])
      (.alt
        (cat [lit '[', .group 3 (plus (noneOf [']'])), lit ']', lit '(',
          plus (.set fun u => u != unit ')' && !isSpace u), lit ')'])
        (cat [lit '*', .group 4 (.seq solid (opt (.seq (star (noneOf ['*'])) solid))), lit '*'])))

def BULLET : Regex UInt16 :=
  cat [indent, oneOf ['-', '*', '+'], plus space, .group 1 anything, .atEnd]

def NUMBERED : Regex UInt16 :=
  cat [indent, plus (.set isDigit), oneOf ['.', ')'], plus space, .group 1 anything, .atEnd]

def HEADING : Regex UInt16 :=
  cat [indent, .group 1 (.rep 1 (some 6) true (lit '#')), plus space,
    .group 2 (.rep 0 none false (.set isInLine)), star space, star (lit '#'), star space, .atEnd]

def RULE : Regex UInt16 :=
  cat [indent, .group 1 (oneOf ['-', '*', '_']),
    .rep 2 none true (.group 2 (.seq (star space) (.backref 1))), star space, .atEnd]

def FENCE : Regex UInt16 :=
  cat [indent, lit backtick, lit backtick, lit backtick]

def QUOTE : Regex UInt16 :=
  cat [indent, lit '>', opt space, .group 1 anything, .atEnd]

/-- `/^\s+\S/`. -/
def INDENTED : Regex UInt16 :=
  cat [plus space, .set fun u => !isSpace u]

/-- `pattern.test(line)`. -/
def test (r : Regex UInt16) (line : Text) : Bool := (exec r line).isSome

/-- `match[n] ?? ''`, if the pattern matches. -/
def captured (r : Regex UInt16) (n : Nat) (line : Text) : Option Text :=
  (exec r line).map fun m => (m.captures n).getD []

/-! ## What is read -/

inductive InlineKind where
  | text
  | strong
  | em
  | code
deriving DecidableEq

structure Inline where
  kind : InlineKind
  text : Text
deriving DecidableEq

inductive Block where
  | heading (level : Nat) (inlines : List Inline)
  | paragraph (inlines : List Inline)
  | list (ordered : Bool) (items : List (List Inline))
  | quote (inlines : List Inline)
  | code (text : Text)
  | rule
deriving DecidableEq

structure ReadNotes where
  title : Option Text
  blocks : List Block
deriving DecidableEq

/-! ## Inlines -/

/-- The segment of a match, by what its groups captured.  A link is shown as its text. -/
def segment (captures : Nat → Option Text) : List Inline :=
  match captures 1, captures 2, captures 3, captures 4 with
  | some code, _, _, _ => [⟨.code, code⟩]
  | none, some strong, _, _ => [⟨.strong, strong⟩]
  | none, none, some link, _ => [⟨.text, link⟩]
  | none, none, none, some em => [⟨.em, em⟩]
  | none, none, none, none => []

/-- One turn of the loop over the matches: the text between two of them, and the match. -/
def addMatch (text : Text) (state : List Inline × Nat) (m : Regex.Match UInt16) :
    List Inline × Nat :=
  let (inlines, last) := state
  -- what stands between two matches is shown as it is
  let inlines := if m.index > last then
    inlines ++ [⟨.text, (text.drop last).take (m.index - last)⟩] else inlines
  (inlines ++ segment m.captures, m.index + m.text.length)

def readInlines (text : Text) : List Inline :=
  let (inlines, last) := (Regex.matchAll INLINE text 0).foldl (addMatch text) ([], 0)
  if last < text.length then inlines ++ [⟨.text, text.drop last⟩] else inlines

/-! ## Lines -/

/-- `markdown.replace(/\r\n?/g, '\n')`: a carriage return goes with the line feed behind it, or
becomes one. -/
def normalize : Text → Text
  | [] => []
  | u :: rest =>
      if u = 0x0D then
        if rest.head? = some 0x0A then normalize rest else 0x0A :: normalize rest
      else u :: normalize rest

def lines (markdown : Text) : List Text :=
  (normalize markdown).splitOn 0x0A

def trim (line : Text) : Text :=
  (line.dropWhile isSpace).rdropWhile isSpace

/-- `parts.join(' ')`. -/
def joinWords (parts : List Text) : Text := List.intercalate [unit ' '] parts

/-- What a line is, by the first pattern that it matches. -/
inductive LineKind where
  | fence
  | blank
  | heading (depth : Nat) (text : Text)
  | rule
  | quoted (text : Text)
  | item (ordered : Bool) (text : Text)
  | plain (indented : Bool) (text : Text)
deriving DecidableEq

def kindOf (line : Text) : LineKind :=
  -- the order matters: a rule of dashes with blanks between them is a bullet too
  if test FENCE line then .fence
  else if trim line = [] then .blank
  else
    match exec HEADING line with
    | some m => .heading ((m.captures 1).map List.length |>.getD 1) ((m.captures 2).getD [])
    | none =>
        if test RULE line then .rule
        else
          match captured QUOTE 1 line, captured BULLET 1 line, captured NUMBERED 1 line with
          | some quoted, _, _ => .quoted quoted
          | none, some bullet, _ => .item false bullet
          | none, none, some numbered => .item true numbered
          | none, none, none => .plain (test INDENTED line) (trim line)

/-! ## Blocks -/

structure ItemList where
  ordered : Bool
  items : List Text

/-- What the loop of `readNotes` holds, and the lines it has not read. -/
structure Reading where
  blocks : List Block
  paragraph : List Text
  list : Option ItemList
  quote : List Text
  rest : List Text

namespace Reading

def start (rest : List Text) : Reading := ⟨[], [], none, [], rest⟩

def push (block : Block) (s : Reading) : Reading :=
  { s with blocks := s.blocks ++ [block] }

def flushParagraph (s : Reading) : Reading :=
  if s.paragraph ≠ [] then
    { s.push (.paragraph (readInlines (joinWords s.paragraph))) with paragraph := [] }
  else s

def flushList (s : Reading) : Reading :=
  match s.list with
  | none => s
  | some list => { s.push (.list list.ordered (list.items.map readInlines)) with list := none }

def flushQuote (s : Reading) : Reading :=
  if s.quote ≠ [] then
    { s.push (.quote (readInlines (joinWords s.quote))) with quote := [] }
  else s

def flush (s : Reading) : Reading :=
  s.flushParagraph.flushList.flushQuote

/-- The lines up to the fence that closes, and those behind it. -/
def fenced : List Text → List Text × List Text
  | [] => ([], [])
  | line :: rest =>
      if test FENCE line then ([], rest)
      else
        let (code, after) := fenced rest
        (line :: code, after)

/-- A line that continues the last item. -/
def continueItem (items : List Text) (text : Text) : List Text :=
  items.dropLast ++ [(items.getLast?.getD []) ++ [unit ' '] ++ text]

/-- What a line that is not a fence does. -/
def addLine (s : Reading) : LineKind → Reading
  | .fence => s
  | .blank => s.flush
  | .heading depth text =>
      s.flush.push (.heading (if depth ≥ 3 then 3 else depth) (readInlines text))
  | .rule => s.flush.push .rule
  | .quoted text =>
      let s := if s.paragraph ≠ [] ∨ s.list.isSome then s.flush else s
      { s with quote := s.quote ++ [text] }
  | .item ordered text =>
      match s.list with
      | some list =>
          -- numbers in the middle of bullets begin a list of their own
          if list.ordered = ordered then
            { s with list := some { list with items := list.items ++ [text] } }
          else { s.flush with list := some ⟨ordered, [text]⟩ }
      | none => { s.flush with list := some ⟨ordered, [text]⟩ }
  | .plain indented text =>
      match s.list, indented with
      -- an indented line behind an item belongs to the item
      | some list, true =>
          { s with list := some { list with items := continueItem list.items text } }
      | _, _ =>
          let s := if s.list.isSome ∨ s.quote ≠ [] then s.flush else s
          { s with paragraph := s.paragraph ++ [text] }

/-- One round of the loop over the lines. -/
def turn (s : Reading) : Reading :=
  match s.rest with
  | [] => s
  | line :: rest =>
      match kindOf line with
      | .fence =>
          let (code, after) := fenced rest
          { s.flush.push (.code (List.intercalate [0x0A] code)) with rest := after }
      | kind => { s.addLine kind with rest := rest }

end Reading

/-- The title of the release becomes the title of the window. -/
def titled (blocks : List Block) : ReadNotes :=
  match blocks with
  | .heading 1 inlines :: rest => ⟨some (inlines.flatMap Inline.text), rest⟩
  | blocks => ⟨none, blocks⟩

/-- The loop ends after at most as many rounds as there are lines. -/
def readNotes (markdown : Text) : ReadNotes :=
  let lines := lines markdown
  titled (Reading.turn^[lines.length] (.start lines)).flush.blocks

/-! ## Segments put back -/

/-- A segment with the markup that its match had. -/
inductive Piece where
  | plain (text : Text)
  | code (text : Text)
  | strong (text : Text)
  | link (text url : Text)
  | em (text : Text)

namespace Piece

def inline : Piece → Inline
  | plain text => ⟨.text, text⟩
  | code text => ⟨.code, text⟩
  | strong text => ⟨.strong, text⟩
  | link text _ => ⟨.text, text⟩
  | em text => ⟨.em, text⟩

def source : Piece → Text
  | plain text => text
  | code text => [unit backtick] ++ text ++ [unit backtick]
  | strong text => [unit '*', unit '*'] ++ text ++ [unit '*', unit '*']
  | link text url => [unit '['] ++ text ++ [unit ']', unit '('] ++ url ++ [unit ')']
  | em text => [unit '*'] ++ text ++ [unit '*']

end Piece

/-- The segments, each put back inside the markup its match had, concatenate to the text. -/
def PutsBack (text : Text) (inlines : List Inline) : Prop :=
  ∃ pieces : List Piece, pieces.map Piece.inline = inlines ∧ pieces.flatMap Piece.source = text

theorem PutsBack.append {text text' : Text} {inlines inlines' : List Inline}
    (h : PutsBack text inlines) (h' : PutsBack text' inlines') :
    PutsBack (text ++ text') (inlines ++ inlines') := by
  obtain ⟨pieces, rfl, rfl⟩ := h
  obtain ⟨pieces', rfl, rfl⟩ := h'
  exact ⟨pieces ++ pieces', List.map_append, List.flatMap_append⟩

theorem putsBack_piece (piece : Piece) : PutsBack piece.source [piece.inline] :=
  ⟨[piece], rfl, by simp⟩

section Patterns

open Regex (Reads mem_run_cat_cons mem_run_group_reads)

variable {x y : Regex.State UInt16} {c : Char}

theorem mem_run_lit (h : y ∈ Regex.run (lit c) x) : Reads x y [unit c] := by
  obtain ⟨u, hu, hread⟩ := Regex.mem_run_set h
  obtain rfl : u = unit c := by simpa using hu
  exact hread

/-- What an emphasis holds: it may be a single character. -/
theorem mem_run_emphasised
    (h : y ∈ Regex.run (.seq solid (opt (.seq (star (noneOf ['*'])) solid))) x) :
    ∃ t, Reads x y t ∧ t ≠ [] := by
  obtain ⟨y1, h1, h2⟩ := Regex.mem_run_seq.mp h
  obtain ⟨u, -, hread1⟩ := Regex.mem_run_set h1
  rcases Regex.mem_run_opt h2 with rfl | h2
  · exact ⟨_, hread1, List.cons_ne_nil _ _⟩
  · obtain ⟨y2, h2, h3⟩ := Regex.mem_run_seq.mp h2
    obtain ⟨t, hread2, -⟩ := Regex.mem_run_star_set h2
    obtain ⟨v, -, hread3⟩ := Regex.mem_run_set h3
    exact ⟨_, (hread1.trans hread2).trans hread3, by simp⟩

/-- A group between what opens it and what closes it. -/
theorem reads_enclosed {y1 y2 : Regex.State UInt16} {r : Regex UInt16} {n : Nat}
    {before after : Text} {P : Text → Prop} (hopen : Reads x y1 before)
    (hr : ∀ z ∈ Regex.run r y1, ∃ t, Reads y1 z t ∧ P t)
    (h : y2 ∈ Regex.run (.group n r) y1) (hclose : Reads y2 y after) :
    ∃ t, x.rest = before ++ t ++ after ++ y.rest ∧
      y.captures = Function.update x.captures n (some t) := by
  obtain ⟨t, -, hrest, hcaptures⟩ := mem_run_group_reads hr h
  refine ⟨t, ?_, ?_⟩
  · rw [hopen.rest, hrest, hclose.rest]
    simp only [List.append_assoc]
  · rw [hclose.captures, hcaptures, hopen.captures]

/-- A match of `INLINE` is a piece of markup, and its segment is that of the piece. -/
theorem mem_run_INLINE {input : Text} (h : y ∈ Regex.run INLINE (.start input)) :
    ∃ piece : Piece, input = piece.source ++ y.rest ∧ piece.source ≠ [] ∧
      segment y.captures = [piece.inline] := by
  rw [INLINE, Regex.mem_run_alt, Regex.mem_run_alt, Regex.mem_run_alt] at h
  rcases h with h | h | h | h
  · obtain ⟨y1, h1, h⟩ := mem_run_cat_cons.mp h
    obtain ⟨y2, h2, h3⟩ := mem_run_cat_cons.mp h
    obtain ⟨t, hinput, hcaptures⟩ :=
      reads_enclosed (mem_run_lit h1) (fun z hz => Regex.mem_run_plus_set hz) h2 (mem_run_lit h3)
    refine ⟨.code t, hinput, by simp [Piece.source], ?_⟩
    rw [hcaptures]
    rfl
  · obtain ⟨y1, h1, h⟩ := mem_run_cat_cons.mp h
    obtain ⟨y2, h2, h⟩ := mem_run_cat_cons.mp h
    obtain ⟨y3, h3, h⟩ := mem_run_cat_cons.mp h
    obtain ⟨y4, h4, h5⟩ := mem_run_cat_cons.mp h
    have hopen := (mem_run_lit h1).trans (mem_run_lit h2)
    have hclose := (mem_run_lit h4).trans (mem_run_lit h5)
    obtain ⟨t, hinput, hcaptures⟩ :=
      reads_enclosed hopen (fun z hz => Regex.mem_run_plus_set hz) h3 hclose
    refine ⟨.strong t, hinput, by simp [Piece.source], ?_⟩
    rw [hcaptures]
    rfl
  · obtain ⟨y1, h1, h⟩ := mem_run_cat_cons.mp h
    obtain ⟨y2, h2, h⟩ := mem_run_cat_cons.mp h
    obtain ⟨y3, h3, h⟩ := mem_run_cat_cons.mp h
    obtain ⟨y4, h4, h⟩ := mem_run_cat_cons.mp h
    obtain ⟨y5, h5, h6⟩ := mem_run_cat_cons.mp h
    have hmiddle := (mem_run_lit h3).trans (mem_run_lit h4)
    obtain ⟨url, hurl, -, -⟩ := Regex.mem_run_plus_set h5
    have hclose := (hmiddle.trans hurl).trans (mem_run_lit h6)
    obtain ⟨t, hinput, hcaptures⟩ :=
      reads_enclosed (mem_run_lit h1) (fun z hz => Regex.mem_run_plus_set hz) h2 hclose
    refine ⟨.link t url, ?_, by simp [Piece.source], ?_⟩
    · rw [show input = _ from hinput]
      simp [Piece.source]
    · rw [hcaptures]
      rfl
  · obtain ⟨y1, h1, h⟩ := mem_run_cat_cons.mp h
    obtain ⟨y2, h2, h3⟩ := mem_run_cat_cons.mp h
    obtain ⟨t, hinput, hcaptures⟩ :=
      reads_enclosed (mem_run_lit h1) (fun z hz => mem_run_emphasised hz) h2 (mem_run_lit h3)
    refine ⟨.em t, hinput, by simp [Piece.source], ?_⟩
    rw [hcaptures]
    rfl

end Patterns

/-- A match found from `last` on: what stands before it, and the piece that it is. -/
theorem search_INLINE {text : Text} {last : Nat} {m : Regex.Match UInt16}
    (h : Regex.search INLINE last (text.drop last) = some m) :
    ∃ (skipped : Text) (piece : Piece) (rest : Text),
      text.drop last = skipped ++ (piece.source ++ rest) ∧
      m.index = last + skipped.length ∧ m.text = piece.source ∧ m.text ≠ [] ∧
      segment m.captures = [piece.inline] := by
  obtain ⟨skipped, input, y, hdrop, hindex, hy, htext, hcaptures⟩ := Regex.search_spec h
  obtain ⟨piece, hinput, hne, hsegment⟩ := mem_run_INLINE hy
  have hsource : m.text = piece.source :=
    htext.trans (Regex.State.consumed_eq (x := .start input) hinput)
  exact ⟨skipped, piece, y.rest, by rw [hdrop, hinput], hindex, hsource, hsource ▸ hne,
    by rw [hcaptures, hsegment]⟩

/-- One turn of the loop over the matches puts back what stands before the match, and the
match. -/
theorem putsBack_addMatch {text : Text} {inlines : List Inline} {last : Nat}
    {m : Regex.Match UInt16} (hinlines : PutsBack (text.take last) inlines)
    (hlast : last ≤ text.length)
    (hm : Regex.search INLINE last (text.drop last) = some m) :
    PutsBack (text.take (addMatch text (inlines, last) m).2) (addMatch text (inlines, last) m).1 ∧
      (addMatch text (inlines, last) m).2 ≤ text.length := by
  obtain ⟨skipped, piece, rest, hdrop, hindex, hsource, -, hsegment⟩ := search_INLINE hm
  have htext : text = (text.take last ++ skipped ++ piece.source) ++ rest := by
    calc text = text.take last ++ text.drop last := (List.take_append_drop last text).symm
      _ = (text.take last ++ skipped ++ piece.source) ++ rest := by
        rw [hdrop]
        simp only [List.append_assoc]
  have hlength : (text.take last ++ skipped ++ piece.source).length =
      m.index + m.text.length := by
    rw [List.length_append, List.length_append, List.length_take_of_le hlast, hindex, hsource]
  have htake : text.take (m.index + m.text.length) =
      text.take last ++ skipped ++ piece.source := by
    conv_lhs => rw [htext]
    exact List.take_left' hlength
  have hslice : (text.drop last).take (m.index - last) = skipped := by
    rw [hdrop, hindex]
    exact List.take_left' (by omega)
  constructor
  · -- the text up to the match is put back, whether there is any or not
    have hbefore : PutsBack (text.take last ++ skipped)
        (if m.index > last then
          inlines ++ [⟨.text, (text.drop last).take (m.index - last)⟩] else inlines) := by
      split
      · rw [hslice]
        exact hinlines.append (putsBack_piece (.plain skipped))
      · have hempty : skipped = [] := List.length_eq_zero_iff.mp (by omega)
        rw [hempty, List.append_nil]
        exact hinlines
    have hpiece := hbefore.append (putsBack_piece piece)
    rw [← htake, ← hsegment] at hpiece
    exact hpiece
  · show m.index + m.text.length ≤ text.length
    have htotal := congrArg List.length htext
    rw [List.length_append, hlength] at htotal
    omega

/-- The loop over the matches from `last` on. -/
theorem putsBack_foldl {text : Text} {inlines : List Inline} {last : Nat}
    (hinlines : PutsBack (text.take last) inlines) (hlast : last ≤ text.length) :
    let state := (Regex.matchAll INLINE text last).foldl (addMatch text) (inlines, last)
    PutsBack (text.take state.2) state.1 ∧ state.2 ≤ text.length := by
  cases hm : Regex.search INLINE last (text.drop last) with
  | none =>
      rw [Regex.matchAll_of_search_none hm]
      exact ⟨hinlines, hlast⟩
  | some m =>
      obtain ⟨skipped, piece, rest, -, hindex, -, hne, -⟩ := search_INLINE hm
      have hpos : 0 < m.text.length := List.length_pos_iff.mpr hne
      obtain ⟨hputs, hle⟩ := putsBack_addMatch hinlines hlast hm
      rw [Regex.matchAll_of_search_some hlast hm, if_neg hne, List.foldl_cons]
      exact putsBack_foldl hputs hle
termination_by text.length - last
decreasing_by
  simp only [addMatch] at hle ⊢
  omega

/-- No word of a text is lost between its segments. -/
theorem putsBack_readInlines (text : Text) : PutsBack text (readInlines text) := by
  have hstart : PutsBack (text.take 0) [] := ⟨[], rfl, rfl⟩
  obtain ⟨hputs, hle⟩ := putsBack_foldl hstart (Nat.zero_le text.length)
  simp only [readInlines]
  generalize (Regex.matchAll INLINE text 0).foldl (addMatch text) ([], 0) = state at hputs hle ⊢
  split
  · have hrest := hputs.append (putsBack_piece (.plain (text.drop state.2)))
    rw [show Piece.source (.plain (text.drop state.2)) = text.drop state.2 from rfl,
      List.take_append_drop] at hrest
    exact hrest
  · rw [List.take_of_length_le (by omega)] at hputs
    exact hputs

/-! ## What a document holds -/

/-- The content of a line that is not a fence, without its block marker. -/
def LineKind.content : LineKind → Option Text
  | fence => none
  | blank => none
  | heading _ text => some text
  | rule => some []
  | quoted text => some text
  | item _ text => some text
  | plain _ text => some text

/-- The contents of the lines, in order; `inside` says that a fence is open, where a line is its
own content. -/
def contents (inside : Bool) : List Text → List Text
  | [] => []
  | line :: rest =>
      if test FENCE line then contents (!inside) rest
      else (if inside then [line] else (kindOf line).content.toList) ++ contents inside rest

/-- The block shows these contents and nothing else. -/
inductive Shows : Block → List Text → Prop where
  | heading (level : Nat) (text : Text) : Shows (.heading level (readInlines text)) [text]
  | paragraph (parts : List Text) :
      Shows (.paragraph (readInlines (joinWords parts))) parts
  | list (ordered : Bool) (items : List (List Text)) :
      Shows (.list ordered (items.map fun parts => readInlines (joinWords parts))) items.flatten
  | quote (parts : List Text) : Shows (.quote (readInlines (joinWords parts))) parts
  | code (parts : List Text) : Shows (.code (List.intercalate [0x0A] parts)) parts
  | rule : Shows .rule [[]]

namespace Reading

/-- At most one of the paragraph, the list and the quote is under way. -/
def OnePending (s : Reading) : Prop :=
  (s.list = none ∧ s.quote = []) ∨ (s.paragraph = [] ∧ s.quote = []) ∨
    (s.paragraph = [] ∧ s.list = none)

/-- The items of the list under way, each from the lines that it was put together from. -/
def Items (list : Option ItemList) (items : List (List Text)) : Prop :=
  match list with
  | none => items = []
  | some list => list.items = items.map joinWords ∧ items ≠ [] ∧ ∀ parts ∈ items, parts ≠ []

/-- The blocks and what is under way show the contents `done`. -/
def Gathered (s : Reading) (done : List Text) : Prop :=
  ∃ groups items, List.Forall₂ Shows s.blocks groups ∧ Items s.list items ∧
    done = groups.flatten ++ (s.paragraph ++ items.flatten ++ s.quote)

/-- Nothing is under way. -/
structure Flushed (s : Reading) : Prop where
  paragraph : s.paragraph = []
  list : s.list = none
  quote : s.quote = []

variable {s : Reading} {done : List Text}

theorem forall₂_concat {blocks : List Block} {groups : List (List Text)} {block : Block}
    {group : List Text} (h : List.Forall₂ Shows blocks groups) (hblock : Shows block group) :
    List.Forall₂ Shows (blocks ++ [block]) (groups ++ [group]) :=
  List.rel_append h (.cons hblock .nil)

theorem gathered_flushParagraph (h : s.Gathered done) :
    s.flushParagraph.Gathered done ∧ s.flushParagraph.paragraph = [] := by
  obtain ⟨groups, items, hblocks, hitems, rfl⟩ := h
  unfold flushParagraph
  split
  · refine ⟨⟨groups ++ [s.paragraph], items, ?_, hitems, ?_⟩, rfl⟩
    · exact forall₂_concat hblocks (.paragraph s.paragraph)
    · simp [push]
  · next hempty =>
      exact ⟨⟨groups, items, hblocks, hitems, rfl⟩, not_not.mp hempty⟩

theorem gathered_flushList (h : s.Gathered done) (hparagraph : s.paragraph = []) :
    s.flushList.Gathered done ∧ s.flushList.paragraph = [] ∧ s.flushList.list = none := by
  obtain ⟨groups, items, hblocks, hitems, rfl⟩ := h
  unfold flushList
  cases hlist : s.list with
  | none => exact ⟨⟨groups, items, hblocks, hitems, rfl⟩, hparagraph, hlist⟩
  | some list =>
      rw [hlist] at hitems
      refine ⟨⟨groups ++ [items.flatten], [], ?_, rfl, ?_⟩, hparagraph, rfl⟩
      · have hshows := Shows.list list.ordered items
        rw [show (items.map fun parts => readInlines (joinWords parts)) =
          list.items.map readInlines by rw [hitems.1, List.map_map]; rfl] at hshows
        exact forall₂_concat hblocks hshows
      · simp [push, hparagraph]

theorem gathered_flushQuote (h : s.Gathered done) (hparagraph : s.paragraph = [])
    (hlist : s.list = none) : s.flushQuote.Gathered done ∧ s.flushQuote.Flushed := by
  obtain ⟨groups, items, hblocks, hitems, rfl⟩ := h
  unfold flushQuote
  split
  · rw [hlist] at hitems
    obtain rfl : items = [] := hitems
    refine ⟨⟨groups ++ [s.quote], [], ?_, ?_, ?_⟩, hparagraph, hlist, rfl⟩
    · exact forall₂_concat hblocks (.quote s.quote)
    · simp [push, hlist, Items]
    · simp [push, hparagraph]
  · next hempty =>
      exact ⟨⟨groups, items, hblocks, hitems, rfl⟩, hparagraph, hlist, not_not.mp hempty⟩

/-- A flush puts what is under way behind the blocks, and nothing is lost. -/
theorem gathered_flush (h : s.Gathered done) : s.flush.Gathered done ∧ s.flush.Flushed := by
  obtain ⟨hafter, hparagraph⟩ := gathered_flushParagraph h
  obtain ⟨hafter, hparagraph, hlist⟩ := gathered_flushList hafter hparagraph
  exact gathered_flushQuote hafter hparagraph hlist

/-- A block that is pushed when nothing is under way. -/
theorem gathered_push {block : Block} {group : List Text} (h : s.Gathered done) (hs : s.Flushed)
    (hblock : Shows block group) :
    (s.push block).Gathered (done ++ group) ∧ (s.push block).Flushed := by
  obtain ⟨groups, items, hblocks, hitems, rfl⟩ := h
  rw [hs.list] at hitems
  obtain rfl : items = [] := hitems
  refine ⟨⟨groups ++ [group], [], forall₂_concat hblocks hblock, ?_, ?_⟩,
    hs.paragraph, hs.list, hs.quote⟩
  · simp [push, hs.list, Items]
  · simp [push, hs.paragraph, hs.quote]

theorem Flushed.onePending (hs : s.Flushed) : s.OnePending :=
  .inl ⟨hs.list, hs.quote⟩

theorem joinWords_concat {parts : List Text} (text : Text) (h : parts ≠ []) :
    joinWords (parts ++ [text]) = joinWords parts ++ [unit ' '] ++ text := by
  unfold joinWords
  induction parts with
  | nil => exact absurd rfl h
  | cons part parts ih =>
      cases parts with
      | nil => simp [List.intercalate_cons_cons]
      | cons part' parts =>
          rw [List.cons_append, List.cons_append, List.intercalate_cons_cons,
            ← List.cons_append, ih (List.cons_ne_nil _ _), List.intercalate_cons_cons]
          simp only [List.append_assoc]

/-- A list under way excludes the others. -/
theorem OnePending.of_list {list : ItemList} (h : s.OnePending) (hlist : s.list = some list) :
    s.paragraph = [] ∧ s.quote = [] := by
  rcases h with ⟨hnone, -⟩ | hboth | ⟨-, hnone⟩
  · rw [hlist] at hnone
    cases hnone
  · exact hboth
  · rw [hlist] at hnone
    cases hnone

/-- The list that begins with the line. -/
theorem gathered_newList (ordered : Bool) (text : Text) (h : s.Gathered done) (hs : s.Flushed) :
    Gathered { s with list := some ⟨ordered, [text]⟩ } (done ++ [text]) ∧
      OnePending { s with list := some ⟨ordered, [text]⟩ } := by
  obtain ⟨groups, items, hblocks, hitems, rfl⟩ := h
  rw [hs.list] at hitems
  obtain rfl : items = [] := hitems
  refine ⟨⟨groups, [[text]], hblocks, ?_, ?_⟩, .inr (.inl ⟨hs.paragraph, hs.quote⟩)⟩
  · simp [Items, joinWords]
  · simp [hs.paragraph, hs.quote]

/-- An item that is added to the list under way. -/
theorem gathered_addItem {list : ItemList} (text : Text) (h : s.Gathered done)
    (hone : s.OnePending) (hlist : s.list = some list) :
    Gathered { s with list := some { list with items := list.items ++ [text] } }
        (done ++ [text]) ∧
      OnePending { s with list := some { list with items := list.items ++ [text] } } := by
  obtain ⟨hparagraph, hquote⟩ := hone.of_list hlist
  obtain ⟨groups, items, hblocks, hitems, rfl⟩ := h
  rw [hlist] at hitems
  obtain ⟨heq, -, hne⟩ := hitems
  refine ⟨⟨groups, items ++ [[text]], hblocks, ⟨?_, by simp, ?_⟩, ?_⟩,
    .inr (.inl ⟨hparagraph, hquote⟩)⟩
  · simp [heq, joinWords]
  · simpa [or_imp, forall_and] using hne
  · simp [hparagraph, hquote]

/-- A line that continues the last item of the list under way. -/
theorem gathered_continueItem {list : ItemList} (text : Text) (h : s.Gathered done)
    (hone : s.OnePending) (hlist : s.list = some list) :
    Gathered { s with list := some { list with items := continueItem list.items text } }
        (done ++ [text]) ∧
      OnePending { s with list := some { list with items := continueItem list.items text } } := by
  obtain ⟨hparagraph, hquote⟩ := hone.of_list hlist
  obtain ⟨groups, items, hblocks, hitems, rfl⟩ := h
  rw [hlist] at hitems
  obtain ⟨heq, hsome, hne⟩ := hitems
  -- the last item grows by a blank and the line; there is one, for a list begins with an item
  obtain ⟨init, last, rfl⟩ := (List.eq_nil_or_concat' items).resolve_left hsome
  have hlast : last ≠ [] := hne last (by simp)
  refine ⟨⟨groups, init ++ [last ++ [text]], hblocks, ⟨?_, by simp, ?_⟩, ?_⟩,
    .inr (.inl ⟨hparagraph, hquote⟩)⟩
  · simp [continueItem, heq, joinWords_concat text hlast]
  · intro parts hparts
    rcases List.mem_append.mp hparts with hinit | hlast'
    · exact hne parts (List.mem_append_left _ hinit)
    · rw [List.mem_singleton.mp hlast']
      simp
  · simp [hparagraph, hquote]

/-- A line of a paragraph. -/
theorem gathered_addParagraph (text : Text) (h : s.Gathered done) (hlist : s.list = none)
    (hquote : s.quote = []) :
    Gathered { s with paragraph := s.paragraph ++ [text] } (done ++ [text]) ∧
      OnePending { s with paragraph := s.paragraph ++ [text] } := by
  obtain ⟨groups, items, hblocks, hitems, rfl⟩ := h
  rw [hlist] at hitems
  obtain rfl : items = [] := hitems
  refine ⟨⟨groups, [], hblocks, ?_, ?_⟩, .inl ⟨hlist, hquote⟩⟩
  · simp [hlist, Items]
  · simp [hquote]

/-- A line of a quote. -/
theorem gathered_addQuote (text : Text) (h : s.Gathered done) (hparagraph : s.paragraph = [])
    (hlist : s.list = none) :
    Gathered { s with quote := s.quote ++ [text] } (done ++ [text]) ∧
      OnePending { s with quote := s.quote ++ [text] } := by
  obtain ⟨groups, items, hblocks, hitems, rfl⟩ := h
  exact ⟨⟨groups, items, hblocks, hitems, by simp⟩, .inr (.inr ⟨hparagraph, hlist⟩)⟩

/-- Whatever a line that is not a fence is, its content comes last, and one thing at most is
under way behind it. -/
theorem gathered_addLine {kind : LineKind} (h : s.Gathered done) (hone : s.OnePending)
    (hkind : kind ≠ .fence) :
    (s.addLine kind).Gathered (done ++ kind.content.toList) ∧ (s.addLine kind).OnePending := by
  obtain ⟨hflush, hflushed⟩ := gathered_flush h
  cases kind with
  | fence => exact absurd rfl hkind
  | blank =>
      rw [show done ++ LineKind.blank.content.toList = done by simp [LineKind.content]]
      exact ⟨hflush, hflushed.onePending⟩
  | heading depth text =>
      obtain ⟨hpushed, hafter⟩ := gathered_push hflush hflushed (.heading _ text)
      exact ⟨hpushed, hafter.onePending⟩
  | rule =>
      obtain ⟨hpushed, hafter⟩ := gathered_push hflush hflushed .rule
      exact ⟨hpushed, hafter.onePending⟩
  | quoted text =>
      simp only [addLine]
      split
      · exact gathered_addQuote text hflush hflushed.paragraph hflushed.list
      · next hnone =>
          obtain ⟨hparagraph, hlist⟩ := not_or.mp hnone
          exact gathered_addQuote text h (not_not.mp hparagraph) (by simpa using hlist)
  | item ordered text =>
      simp only [addLine]
      split
      · next list hlist =>
          split
          · exact gathered_addItem text h hone hlist
          · exact gathered_newList ordered text hflush hflushed
      · exact gathered_newList ordered text hflush hflushed
  | plain indented text =>
      simp only [addLine]
      split
      · next list _ hlist => exact gathered_continueItem text h hone hlist
      · split
        · exact gathered_addParagraph text hflush hflushed.list hflushed.quote
        · next hnone =>
            obtain ⟨hlist, hquote⟩ := not_or.mp hnone
            exact gathered_addParagraph text h (by simpa using hlist) (not_not.mp hquote)

/-! ## The loop -/

theorem kindOf_eq_fence {line : Text} : kindOf line = .fence ↔ test FENCE line = true := by
  unfold kindOf
  constructor
  · intro h
    by_contra hnot
    rw [if_neg hnot] at h
    repeat' split at h
    all_goals cases h
  · exact fun h => if_pos h

theorem contents_cons_of_not_fence {line : Text} {rest : List Text}
    (h : ¬ test FENCE line = true) :
    contents false (line :: rest) = (kindOf line).content.toList ++ contents false rest := by
  rw [contents, if_neg h]
  rfl

/-- The lines of a fence are kept as they are. -/
theorem contents_fenced (rest : List Text) :
    contents true rest = (fenced rest).1 ++ contents false (fenced rest).2 := by
  induction rest with
  | nil => rfl
  | cons line rest ih =>
      rw [contents, fenced]
      split
      · rfl
      · rw [ih]
        rfl

theorem length_fenced (rest : List Text) : (fenced rest).2.length ≤ rest.length := by
  induction rest with
  | nil => exact Nat.le_refl _
  | cons line rest ih =>
      rw [fenced]
      split
      · exact Nat.le_succ _
      · exact Nat.le_succ_of_le ih

/-- What is gathered and what is still to read make up the whole. -/
def Inv (all : List Text) (s : Reading) : Prop :=
  s.OnePending ∧ ∃ done, s.Gathered done ∧ done ++ contents false s.rest = all

theorem inv_start (rest : List Text) : Inv (contents false rest) (.start rest) :=
  ⟨.inl ⟨rfl, rfl⟩, [], ⟨[], [], .nil, rfl, rfl⟩, rfl⟩

theorem turn_of_fence {line : Text} {rest : List Text} (hrest : s.rest = line :: rest)
    (hfence : test FENCE line = true) :
    s.turn = { s.flush.push (.code (List.intercalate [0x0A] (fenced rest).1)) with
      rest := (fenced rest).2 } := by
  simp only [turn, hrest, kindOf_eq_fence.mpr hfence]

theorem turn_of_not_fence {line : Text} {rest : List Text} (hrest : s.rest = line :: rest)
    (hfence : ¬ test FENCE line = true) :
    s.turn = { s.addLine (kindOf line) with rest := rest } := by
  have hkind : kindOf line ≠ .fence := fun h => hfence (kindOf_eq_fence.mp h)
  simp only [turn, hrest]

theorem inv_turn {all : List Text} (h : Inv all s) : Inv all s.turn := by
  cases hrest : s.rest with
  | nil =>
      rw [turn, hrest]
      exact h
  | cons line rest =>
      obtain ⟨hone, done, hdone, hall⟩ := h
      rw [hrest] at hall
      by_cases hfence : test FENCE line = true
      · obtain ⟨hflush, hflushed⟩ := gathered_flush hdone
        obtain ⟨hpushed, hafter⟩ := gathered_push hflush hflushed (.code (fenced rest).1)
        -- the lines up to the closing fence are read in this one round
        rw [turn_of_fence hrest hfence]
        refine ⟨hafter.onePending, done ++ (fenced rest).1, hpushed, ?_⟩
        rw [contents, if_pos hfence, Bool.not_false, contents_fenced] at hall
        rw [← hall, List.append_assoc]
      · have hkind : kindOf line ≠ .fence := fun h => hfence (kindOf_eq_fence.mp h)
        obtain ⟨hadded, hone'⟩ := gathered_addLine hdone hone hkind
        rw [turn_of_not_fence hrest hfence]
        refine ⟨hone', done ++ (kindOf line).content.toList, hadded, ?_⟩
        rw [contents_cons_of_not_fence hfence] at hall
        rw [← hall, List.append_assoc]

theorem length_turn (s : Reading) : s.turn.rest.length ≤ s.rest.length - 1 := by
  cases hrest : s.rest with
  | nil => rw [turn, hrest, hrest]; exact Nat.zero_le _
  | cons line rest =>
      by_cases hfence : test FENCE line = true
      · rw [turn_of_fence hrest hfence]
        exact length_fenced rest
      · rw [turn_of_not_fence hrest hfence]
        exact Nat.le_refl _

theorem inv_iterate {all : List Text} (h : Inv all s) (n : Nat) : Inv all (turn^[n] s) := by
  induction n with
  | zero => exact h
  | succ n ih =>
      rw [Function.iterate_succ_apply']
      exact inv_turn ih

theorem length_iterate (s : Reading) (n : Nat) :
    (turn^[n] s).rest.length ≤ s.rest.length - n := by
  induction n with
  | zero => exact Nat.le_refl _
  | succ n ih =>
      rw [Function.iterate_succ_apply']
      have hturn := length_turn (turn^[n] s)
      omega

end Reading

/-! ## Markers -/

def Blanks (text : Text) : Prop :=
  ∀ u ∈ text, isSpace u = true

/-- The line is the content of its kind between blanks and the markers of that kind. -/
inductive Written : Text → LineKind → Prop where
  | fence {before after : Text} (hbefore : Blanks before) :
      Written (before ++ [unit backtick, unit backtick, unit backtick] ++ after) .fence
  | blank {line : Text} (hline : Blanks line) : Written line .blank
  | heading {before hashes gap text gap' closing after : Text} (hbefore : Blanks before)
      (hhashes : ∀ u ∈ hashes, u = unit '#') (hgap : Blanks gap) (hgap' : Blanks gap')
      (hclosing : ∀ u ∈ closing, u = unit '#') (hafter : Blanks after) :
      Written (before ++ hashes ++ gap ++ text ++ (gap' ++ closing ++ after))
        (.heading hashes.length text)
  | rule {line : Text} {mark : UInt16} (hmark : mark ∈ [unit '-', unit '*', unit '_'])
      (hline : ∀ u ∈ line, isSpace u = true ∨ u = mark) : Written line .rule
  | quoted {before gap text : Text} (hbefore : Blanks before) (hgap : Blanks gap) :
      Written (before ++ [unit '>'] ++ gap ++ text) (.quoted text)
  | bullet {before gap text : Text} {mark : UInt16} (hbefore : Blanks before)
      (hmark : mark ∈ [unit '-', unit '*', unit '+']) (hgap : Blanks gap) :
      Written (before ++ [mark] ++ gap ++ text) (.item false text)
  | numbered {before digits gap text : Text} {mark : UInt16} (hbefore : Blanks before)
      (hdigits : ∀ u ∈ digits, isDigit u = true) (hmark : mark ∈ [unit '.', unit ')'])
      (hgap : Blanks gap) :
      Written (before ++ digits ++ [mark] ++ gap ++ text) (.item true text)
  | plain {before text after : Text} (indented : Bool) (hbefore : Blanks before)
      (hafter : Blanks after) : Written (before ++ text ++ after) (.plain indented text)

section Markers

open Regex (Reads mem_run_cat_cons mem_run_group_reads)

variable {x y : Regex.State UInt16} {line : Text} {m : Regex.State UInt16}

theorem mem_of_exec {r : Regex UInt16} (h : exec r line = some m) :
    m ∈ Regex.run r (.start line) :=
  List.mem_of_head? h

theorem mem_run_oneOf {cs : List Char} (h : y ∈ Regex.run (oneOf cs) x) :
    ∃ u ∈ cs.map unit, Reads x y [u] := by
  obtain ⟨u, hu, hread⟩ := Regex.mem_run_set h
  exact ⟨u, by simpa using hu, hread⟩

theorem mem_run_indent (h : y ∈ Regex.run indent x) : ∃ t, Reads x y t ∧ Blanks t := by
  obtain ⟨t, hread, hblanks, -, -⟩ := Regex.mem_run_rep_set (by simp) h
  exact ⟨t, hread, hblanks⟩

/-- The group that takes the rest of the line. -/
theorem mem_run_rest (h : y ∈ Regex.run (cat [.group 1 anything, .atEnd]) x) :
    y.captures 1 = some x.rest := by
  obtain ⟨y1, h1, h2⟩ := mem_run_cat_cons.mp h
  obtain ⟨rfl, hend⟩ := Regex.mem_run_atEnd h2
  obtain ⟨t, -, hrest, hcaptures⟩ :=
    mem_run_group_reads (P := fun _ => True)
      (fun z hz => (Regex.mem_run_star_set hz).imp fun _ h => ⟨h.1, trivial⟩) h1
  rw [hcaptures, hrest, hend, List.append_nil]
  simp

theorem written_quoted {text : Text} (h : captured QUOTE 1 line = some text) :
    Written line (.quoted text) := by
  obtain ⟨m, hexec, rfl⟩ := Option.map_eq_some_iff.mp h
  obtain ⟨y1, h1, h⟩ := mem_run_cat_cons.mp (mem_of_exec hexec)
  obtain ⟨y2, h2, h⟩ := mem_run_cat_cons.mp h
  obtain ⟨y3, h3, h4⟩ := mem_run_cat_cons.mp h
  obtain ⟨before, hread1, hbefore⟩ := mem_run_indent h1
  have hread2 := mem_run_lit h2
  -- the blank behind the mark may be missing
  obtain ⟨gap, hread3, hgap⟩ : ∃ gap, Reads y2 y3 gap ∧ Blanks gap := by
    rcases Regex.mem_run_opt h3 with rfl | h3
    · exact ⟨[], .refl _, by simp [Blanks]⟩
    · obtain ⟨u, hu, hread⟩ := Regex.mem_run_set h3
      exact ⟨[u], hread, by simpa [Blanks] using hu⟩
  have hline : line = before ++ [unit '>'] ++ gap ++ y3.rest :=
    ((hread1.trans hread2).trans hread3).rest
  rw [mem_run_rest h4, hline]
  exact .quoted hbefore hgap

theorem written_bullet {text : Text} (h : captured BULLET 1 line = some text) :
    Written line (.item false text) := by
  obtain ⟨m, hexec, rfl⟩ := Option.map_eq_some_iff.mp h
  obtain ⟨y1, h1, h⟩ := mem_run_cat_cons.mp (mem_of_exec hexec)
  obtain ⟨y2, h2, h⟩ := mem_run_cat_cons.mp h
  obtain ⟨y3, h3, h4⟩ := mem_run_cat_cons.mp h
  obtain ⟨before, hread1, hbefore⟩ := mem_run_indent h1
  obtain ⟨mark, hmark, hread2⟩ := mem_run_oneOf h2
  obtain ⟨gap, hread3, hgap, -⟩ := Regex.mem_run_plus_set h3
  have hline : line = before ++ [mark] ++ gap ++ y3.rest :=
    ((hread1.trans hread2).trans hread3).rest
  rw [mem_run_rest h4, hline]
  exact .bullet hbefore hmark hgap

theorem written_numbered {text : Text} (h : captured NUMBERED 1 line = some text) :
    Written line (.item true text) := by
  obtain ⟨m, hexec, rfl⟩ := Option.map_eq_some_iff.mp h
  obtain ⟨y1, h1, h⟩ := mem_run_cat_cons.mp (mem_of_exec hexec)
  obtain ⟨y2, h2, h⟩ := mem_run_cat_cons.mp h
  obtain ⟨y3, h3, h⟩ := mem_run_cat_cons.mp h
  obtain ⟨y4, h4, h5⟩ := mem_run_cat_cons.mp h
  obtain ⟨before, hread1, hbefore⟩ := mem_run_indent h1
  obtain ⟨digits, hread2, hdigits, -⟩ := Regex.mem_run_plus_set h2
  obtain ⟨mark, hmark, hread3⟩ := mem_run_oneOf h3
  obtain ⟨gap, hread4, hgap, -⟩ := Regex.mem_run_plus_set h4
  have hline : line = before ++ digits ++ [mark] ++ gap ++ y4.rest :=
    (((hread1.trans hread2).trans hread3).trans hread4).rest
  rw [mem_run_rest h5, hline]
  exact .numbered hbefore hdigits hmark hgap

theorem written_heading (h : exec HEADING line = some m) :
    Written line
      (.heading ((m.captures 1).map List.length |>.getD 1) ((m.captures 2).getD [])) := by
  obtain ⟨y1, h1, h⟩ := mem_run_cat_cons.mp (mem_of_exec h)
  obtain ⟨y2, h2, h⟩ := mem_run_cat_cons.mp h
  obtain ⟨y3, h3, h⟩ := mem_run_cat_cons.mp h
  obtain ⟨y4, h4, h⟩ := mem_run_cat_cons.mp h
  obtain ⟨y5, h5, h⟩ := mem_run_cat_cons.mp h
  obtain ⟨y6, h6, h⟩ := mem_run_cat_cons.mp h
  obtain ⟨y7, h7, h8⟩ := mem_run_cat_cons.mp h
  obtain ⟨before, hread1, hbefore⟩ := mem_run_indent h1
  obtain ⟨hashes, hhashes, hrest2, hcaptures2⟩ :=
    mem_run_group_reads (P := fun t => ∀ u ∈ t, u = unit '#')
      (fun z hz => (Regex.mem_run_rep_set (by simp) hz).imp fun _ h =>
        ⟨h.1, by simpa using h.2.1⟩) h2
  obtain ⟨gap, hread3, hgap, -⟩ := Regex.mem_run_plus_set h3
  obtain ⟨text, -, hrest4, hcaptures4⟩ :=
    mem_run_group_reads (P := fun _ => True)
      (fun z hz => (Regex.mem_run_rep_set (by simp) hz).imp fun _ h => ⟨h.1, trivial⟩) h4
  obtain ⟨gap', hread5, hgap'⟩ := Regex.mem_run_star_set h5
  obtain ⟨closing, hread6, hclosing⟩ := Regex.mem_run_star_set h6
  obtain ⟨after, hread7, hafter⟩ := Regex.mem_run_star_set h7
  obtain ⟨rfl, hend⟩ := Regex.mem_run_atEnd h8
  have htail := (hread5.trans hread6).trans hread7
  have hline : line = before ++ hashes ++ gap ++ text ++ (gap' ++ closing ++ after) := by
    have hstart : line = before ++ y1.rest := hread1.rest
    rw [hstart, hrest2, hread3.rest, hrest4, htail.rest, hend]
    simp only [List.append_assoc, List.append_nil]
  have htext : m.captures 2 = some text := by
    rw [htail.captures, hcaptures4]
    simp
  have hdepth : m.captures 1 = some hashes := by
    rw [htail.captures, hcaptures4, hread3.captures, hcaptures2]
    simp
  rw [htext, hdepth, hline]
  exact .heading hbefore hhashes hgap hgap' (by simpa using hclosing) hafter

/-- Only blanks and the mark are read from `x` to `y`, and the mark stays captured. -/
def ReadsMarks (mark : UInt16) (x y : Regex.State UInt16) : Prop :=
  x.captures 1 = some [mark] → y.captures 1 = some [mark] ∧
    ∃ t, x.rest = t ++ y.rest ∧ ∀ u ∈ t, isSpace u = true ∨ u = mark

theorem ReadsMarks.refl (mark : UInt16) (x : Regex.State UInt16) : ReadsMarks mark x x :=
  fun hx => ⟨hx, [], rfl, by simp⟩

theorem ReadsMarks.trans {mark : UInt16} {x y z : Regex.State UInt16}
    (h : ReadsMarks mark x y) (h' : ReadsMarks mark y z) : ReadsMarks mark x z := by
  intro hx
  obtain ⟨hy, t, ht, hall⟩ := h hx
  obtain ⟨hz, t', ht', hall'⟩ := h' hy
  refine ⟨hz, t ++ t', by rw [ht, ht', List.append_assoc], fun u hu => ?_⟩
  rcases List.mem_append.mp hu with hu | hu
  · exact hall u hu
  · exact hall' u hu

/-- A turn of the loop of `RULE`: blanks, and the mark again. -/
theorem readsMarks_turn {mark : UInt16}
    (h : y ∈ Regex.run (.group 2 (.seq (star space) (.backref 1))) x) : ReadsMarks mark x y := by
  intro hmark
  obtain ⟨t, ht, hrest, hcaptures⟩ :=
    mem_run_group_reads (P := fun t => ∀ u ∈ t, isSpace u = true ∨ u = mark) (fun z hz => by
      obtain ⟨y1, h1, h2⟩ := Regex.mem_run_seq.mp hz
      obtain ⟨t, hread, hblanks⟩ := Regex.mem_run_star_set h1
      have hagain := Regex.mem_run_backref (hread.captures ▸ hmark) h2
      refine ⟨t ++ [mark], hread.trans hagain, fun u hu => ?_⟩
      rcases List.mem_append.mp hu with hu | hu
      · exact .inl (hblanks u hu)
      · exact .inr (List.mem_singleton.mp hu)) h
  refine ⟨?_, t, hrest, ht⟩
  rw [hcaptures]
  simpa using hmark

/-- The second group is forgotten before each turn, and the mark is the first. -/
theorem readsMarks_loop {mark : UInt16}
    (h : y ∈ Regex.run
      (.rep 2 none true (.group 2 (.seq (star space) (.backref 1)))) x) :
    ReadsMarks mark x y := by
  obtain ⟨k, -, -, hsteps⟩ := Regex.steps_of_mem_repeated (by simp) h
  refine Regex.Steps.induct (R := ReadsMarks mark) (.refl mark) (fun _ _ _ => .trans) ?_ hsteps
  intro x y hy hx
  have hreset : (x.reset [2]).captures 1 = some [mark] := by simpa [Regex.State.reset] using hx
  exact readsMarks_turn (x := x.reset [2]) hy hreset

theorem written_rule (h : test RULE line = true) : Written line .rule := by
  obtain ⟨m, hexec⟩ := Option.isSome_iff_exists.mp h
  obtain ⟨y1, h1, h⟩ := mem_run_cat_cons.mp (mem_of_exec hexec)
  obtain ⟨y2, h2, h⟩ := mem_run_cat_cons.mp h
  obtain ⟨y3, h3, h⟩ := mem_run_cat_cons.mp h
  obtain ⟨y4, h4, h5⟩ := mem_run_cat_cons.mp h
  obtain ⟨before, hread1, hbefore⟩ := mem_run_indent h1
  obtain ⟨_, ⟨mark, hmark, rfl⟩, hrest2, hcaptures2⟩ :=
    mem_run_group_reads (P := fun t => ∃ u ∈ ['-', '*', '_'].map unit, t = [u])
      (fun z hz => (mem_run_oneOf hz).elim fun u h => ⟨[u], h.2, u, h.1, rfl⟩) h2
  have hmark1 : y2.captures 1 = some [mark] := by
    rw [hcaptures2]
    simp
  obtain ⟨-, marks, hrest3, hmarks⟩ := readsMarks_loop h3 hmark1
  obtain ⟨after, hread4, hafter⟩ := Regex.mem_run_star_set h4
  obtain ⟨rfl, hend⟩ := Regex.mem_run_atEnd h5
  have hline : line = before ++ [mark] ++ marks ++ after := by
    have hstart : line = before ++ y1.rest := hread1.rest
    rw [hstart, hrest2, hrest3, hread4.rest, hend]
    simp only [List.append_assoc, List.append_nil]
  refine .rule (by simpa using hmark) fun u hu => ?_
  rw [hline] at hu
  simp only [List.mem_append, List.mem_singleton] at hu
  rcases hu with ((hu | hu) | hu) | hu
  · exact .inl (hbefore u hu)
  · exact .inr hu
  · exact hmarks u hu
  · exact .inl (hafter u hu)

theorem written_fence (h : test FENCE line = true) : Written line .fence := by
  obtain ⟨m, hexec⟩ := Option.isSome_iff_exists.mp h
  obtain ⟨y1, h1, h⟩ := mem_run_cat_cons.mp (mem_of_exec hexec)
  obtain ⟨y2, h2, h⟩ := mem_run_cat_cons.mp h
  obtain ⟨y3, h3, h4⟩ := mem_run_cat_cons.mp h
  obtain ⟨before, hread1, hbefore⟩ := mem_run_indent h1
  have hmarks := ((mem_run_lit h2).trans (mem_run_lit h3)).trans (mem_run_lit h4)
  have hline : line = before ++ [unit backtick, unit backtick, unit backtick] ++ m.rest :=
    (hread1.trans hmarks).rest
  rw [hline]
  exact .fence hbefore

/-- What `trim` takes away is blank. -/
theorem trim_spec (line : Text) :
    ∃ before after, line = before ++ trim line ++ after ∧ Blanks before ∧ Blanks after := by
  refine ⟨line.takeWhile isSpace, (line.dropWhile isSpace).rtakeWhile isSpace, ?_, ?_, ?_⟩
  · rw [List.append_assoc, trim, List.rdropWhile_append_rtakeWhile,
      List.takeWhile_append_dropWhile]
  · exact fun u hu => List.mem_takeWhile_imp hu
  · exact fun u hu => List.mem_rtakeWhile_imp hu

theorem written_plain (line : Text) (indented : Bool) :
    Written line (.plain indented (trim line)) := by
  obtain ⟨before, after, hline, hbefore, hafter⟩ := trim_spec line
  have hwritten : Written (before ++ trim line ++ after) (.plain indented (trim line)) :=
    .plain indented hbefore hafter
  rwa [← hline] at hwritten

/-- Whichever pattern a line matches first, the markers of that pattern are all that its content
leaves out. -/
theorem written_kindOf (line : Text) : Written line (kindOf line) := by
  unfold kindOf
  split
  · next hfence => exact written_fence hfence
  · split
    · next hblank =>
        obtain ⟨before, after, hline, hbefore, hafter⟩ := trim_spec line
        rw [hblank, List.append_nil] at hline
        refine .blank fun u hu => ?_
        rw [hline] at hu
        exact (List.mem_append.mp hu).elim (hbefore u) (hafter u)
    · split
      · next m hheading => exact written_heading hheading
      · split
        · next hrule => exact written_rule hrule
        · split
          · next hquoted => exact written_quoted hquoted
          · next hbullet => exact written_bullet hbullet
          · next hnumbered => exact written_numbered hnumbered
          · exact written_plain line _

end Markers

/-! ## The whole document -/

/-- The title and the blocks show what these blocks show. -/
inductive Whole : ReadNotes → List Block → Prop where
  | untitled (blocks : List Block) : Whole ⟨none, blocks⟩ blocks
  | titled (inlines : List Inline) (rest : List Block) :
      Whole ⟨some (inlines.flatMap Inline.text), rest⟩ (.heading 1 inlines :: rest)

theorem whole_titled (blocks : List Block) : Whole (titled blocks) blocks := by
  unfold titled
  split
  · exact .titled _ _
  · exact .untitled _

theorem rest_after_all (lines : List Text) :
    (Reading.turn^[lines.length] (.start lines)).rest = [] := by
  have hlength := Reading.length_iterate (.start lines) lines.length
  rw [show (Reading.start lines).rest = lines from rfl, Nat.sub_self] at hlength
  exact List.length_eq_zero_iff.mp (Nat.le_zero.mp hlength)

/-- When nothing is under way, the blocks show all that is gathered. -/
theorem Reading.Gathered.shows {s : Reading} {done : List Text} (h : s.Gathered done)
    (hs : s.Flushed) :
    ∃ groups, List.Forall₂ Shows s.blocks groups ∧ groups.flatten = done := by
  obtain ⟨groups, items, hblocks, hitems, rfl⟩ := h
  rw [hs.list] at hitems
  obtain rfl : items = [] := hitems
  refine ⟨groups, hblocks, ?_⟩
  rw [hs.paragraph, hs.quote]
  simp

theorem readNotes_shows (markdown : Text) :
    ∃ blocks groups, Whole (readNotes markdown) blocks ∧ List.Forall₂ Shows blocks groups ∧
      groups.flatten = contents false (lines markdown) := by
  obtain ⟨-, done, hdone, hall⟩ :=
    Reading.inv_iterate (Reading.inv_start (lines markdown)) (lines markdown).length
  rw [rest_after_all, contents, List.append_nil] at hall
  obtain ⟨hflush, hflushed⟩ := Reading.gathered_flush hdone
  obtain ⟨groups, hshows, hgroups⟩ := hflush.shows hflushed
  exact ⟨_, groups, whole_titled _, hshows, hgroups.trans hall⟩

/-- The segments of a text put back give the text.  The loop of `readNotes` reads every line,
with one thing at most under way before each, and what the title and the blocks show, in their
order, is the content of each line, which is the line without its markers. -/
theorem readNotes_loses_nothing :
    (∀ text, PutsBack text (readInlines text)) ∧
      ∀ markdown,
        (∀ n, (Reading.turn^[n] (.start (lines markdown))).OnePending) ∧
        (Reading.turn^[(lines markdown).length] (.start (lines markdown))).rest = [] ∧
        (∃ blocks groups, Whole (readNotes markdown) blocks ∧ List.Forall₂ Shows blocks groups ∧
          groups.flatten = contents false (lines markdown)) ∧
        ∀ line ∈ lines markdown, Written line (kindOf line) :=
  ⟨putsBack_readInlines, fun markdown =>
    ⟨fun n => (Reading.inv_iterate (Reading.inv_start (lines markdown)) n).1,
      rest_after_all (lines markdown), readNotes_shows markdown,
      fun line _ => written_kindOf line⟩⟩

end Notes
end Ldktela
