import Ldktela.Auth.Exchange
import Ldktela.Desktop.Notes
import Ldktela.Lib.Runs
import Mathlib.Data.List.Lex

/-!
# Release notes from launch to launch

`compareVersions` and `notesVerdict` of `desktop/src/features/update/notes.ts`, the record of
`desktop/src-tauri/src/seen.rs`, `fetchReleaseText` of `platform/releaseNotes.ts`,
`offerReleaseNotes` of `app/runtime.ts` and the button of `ReleaseNotesDialog.tsx`.  The application
may end between any two steps and in the middle of a write, and only the record is left then.

The parts of a version are below 2⁵³, so `Number` reads them exactly.
-/

namespace Ldktela
namespace Desktop
namespace ReleaseNotes

open Notes (ReadNotes readNotes)
open Auth.Pair (isWhitespace)
open Runs

abbrev Version := List Char

/-! ## Versions -/

/-- `^\d+$`. -/
def isNumeral (part : List Char) : Bool :=
  !part.isEmpty && part.all Char.isDigit

/-- The three numbers of `x.y.z`. -/
def parse (text : Version) : Option (List Nat) :=
  let parts := text.splitOn '.'
  if parts.length ≠ 3 ∨ parts.any (fun part => !isNumeral part) then none
  else some (parts.map fun part => Nat.ofDigitChars 10 part 0)

/-- The first difference decides. -/
def compareParts : List Nat → List Nat → Int
  | l :: left, r :: right =>
      let difference := (l : Int) - r
      if difference ≠ 0 then difference.sign else compareParts left right
  | _, _ => 0

def compareVersions (a b : Version) : Option Int :=
  match parse a, parse b with
  | some left, some right => some (compareParts left right)
  | _, _ => none

inductive NotesVerdict where
  | show
  | record
  | nothing
deriving DecidableEq

def notesVerdict (seen : Option Version) (current : Version) (hadSession : Bool) : NotesVerdict :=
  match seen with
  -- a session without a record is an update, and not a new installation
  | none => if hadSession then .show else .record
  | some seen =>
      if seen = current then .nothing
      else if compareVersions seen current = some (-1) then .show
      else .record

/-! ## The record -/

/-- Three numbers of nine digits at most. -/
def isVersion (text : Version) : Bool :=
  let parts := text.splitOn '.'
  decide (parts.length = 3) && parts.all fun part => isNumeral part && decide (part.length ≤ 9)

/-- What the file says.  A damaged one counts as nothing seen. -/
def read (file : Option (List Char)) : Option Version :=
  file.bind fun text =>
    let text := (text.dropWhile isWhitespace).rdropWhile isWhitespace
    if isVersion text then some text else none

/-- How far the write of the file comes.  It empties the file before it fills it again. -/
inductive Written where
  | whole
  /-- The file could not be opened, and is as it was. -/
  | refused
  /-- So many characters, when the disk failed or the application ended. -/
  | torn (length : Nat)
deriving DecidableEq

/-- The file after a write, which is refused for what is not a version. -/
def write (written : Written) (version : Version) (file : Option (List Char)) :
    Option (List Char) :=
  if isVersion version then
    match written with
    | .whole => some version
    | .refused => file
    | .torn length => some (version.take length)
  else file

/-! ## The text -/

/-- The answer of the releases page: the body is `none` where the JSON has no string. -/
structure Reply where
  status : Nat
  body : Option Notes.Text

/-- `none` when there is nothing to show; an error when that could not be told. -/
def fetchReleaseText (reply : Option Reply) : Except Unit (Option Notes.Text) :=
  match reply with
  | none => .error ()
  | some reply =>
      if reply.status = 404 then .ok none
      else if reply.status < 200 ∨ 300 ≤ reply.status then .error ()
      else .ok (reply.body.filter fun body => decide (Notes.trim body ≠ []))

/-! ## Launches -/

/-- How far `offerReleaseNotes` and the dialog are. -/
inductive Phase where
  | reading (hadSession : Bool)
  | fetching
  | showing (notes : ReadNotes)
  /-- The version is being written down. -/
  | marking
  | done

inductive Event where
  | shown (version : Version)
  | recorded (version : Version)

structure World where
  file : Option (List Char)
  /-- The version that runs. -/
  app : Option (Version × Phase)
  /-- The version that was started last. -/
  started : Option Version
  log : List Event

inductive Act where
  | launch (current : Version) (hadSession : Bool)
  | quit
  /-- `release_notes_seen` answers. -/
  | read (ok : Bool)
  /-- The releases page answers; `none` without a network, in time, or without JSON. -/
  | fetched (reply : Option Reply)
  /-- The dialog is closed. -/
  | close
  /-- `release_notes_mark_seen` is at its end. -/
  | marked (written : Written)

namespace World

/-- What was left of an installation. -/
def installed (file : Option (List Char)) : World := ⟨file, none, none, []⟩

/-- What the verdict leads to. -/
def decided : NotesVerdict → Phase
  | .nothing => .done
  | .record => .marking
  | .show => .fetching

/-- What the text leads to. -/
def offered (current : Version) (text : Except Unit (Option Notes.Text)) (w : World) : World :=
  match text with
  | .error () => { w with app := some (current, .done) }
  | .ok none => { w with app := some (current, .marking) }
  | .ok (some markdown) =>
      let notes := readNotes markdown
      if notes.blocks.isEmpty then { w with app := some (current, .marking) }
      else { w with app := some (current, .showing notes), log := w.log ++ [.shown current] }

/-- The write of the version that runs. -/
def mark (current : Version) (written : Written) (w : World) : World :=
  let w := { w with file := write written current w.file, app := some (current, .done) }
  if written = .whole ∧ isVersion current = true then
    { w with log := w.log ++ [.recorded current] }
  else w

/-- The next step of the version that runs, if the act is one of its phase. -/
def proceed (current : Version) (w : World) : Phase → Act → World
  | .reading hadSession, .read ok =>
      let next := decided (notesVerdict (ReleaseNotes.read w.file) current hadSession)
      { w with app := some (current, if ok then next else .done) }
  | .fetching, .fetched reply => w.offered current (fetchReleaseText reply)
  | .showing _, .close => { w with app := some (current, .marking) }
  | .marking, .marked written => w.mark current written
  | _, _ => w

def step (w : World) : Act → World
  | .launch current hadSession =>
      { w with app := some (current, .reading hadSession), started := some current }
  | .quit => { w with app := none }
  | act =>
      match w.app with
      | none => w
      | some (current, phase) => w.proceed current phase act

end World

/-! ## The order of the versions -/

/-- The one is of an older release than the other. -/
def Older (a b : Version) : Prop :=
  ∃ l r, parse a = some l ∧ parse b = some r ∧ l < r

theorem length_of_parse {text : Version} {numbers : List Nat} (h : parse text = some numbers) :
    numbers.length = 3 := by
  simp only [parse] at h
  split at h
  · cases h
  · next hparts =>
      obtain rfl := Option.some.inj h
      rw [List.length_map]
      exact not_not.mp (not_or.mp hparts).1

theorem compareParts_eq_iff (left right : List Nat) (h : left.length = right.length) :
    compareParts left right = -1 ↔ left < right := by
  induction left generalizing right with
  | nil =>
      obtain rfl := List.length_eq_zero_iff.mp h.symm
      simp [compareParts]
  | cons l left ih =>
      cases right with
      | nil => cases h
      | cons r right =>
          have hrest := ih right (by simpa using h)
          simp only [compareParts, List.cons_lt_cons_iff]
          rcases Nat.lt_trichotomy l r with hl | rfl | hl
          · have hsign : ((l : Int) - r).sign = -1 := Int.sign_eq_neg_one_of_neg (by omega)
            rw [if_pos (by omega), hsign]
            omega
          · rw [if_neg (by omega), hrest]
            simp
          · have hsign : ((l : Int) - r).sign = 1 := Int.sign_eq_one_of_pos (by omega)
            rw [if_pos (by omega), hsign]
            omega

section Order

variable {a b c : Version}

theorem compareVersions_eq_iff : compareVersions a b = some (-1) ↔ Older a b := by
  unfold compareVersions Older
  cases hleft : parse a with
  | none => simp
  | some left =>
      cases hright : parse b with
      | none => simp
      | some right =>
          have hlength := (length_of_parse hleft).trans (length_of_parse hright).symm
          simp [compareParts_eq_iff left right hlength]

theorem Older.ne (h : Older a b) : a ≠ b := by
  rintro rfl
  obtain ⟨l, r, hl, hr, hlt⟩ := h
  obtain rfl := Option.some.inj (hl.symm.trans hr)
  exact lt_irrefl l hlt

theorem Older.trans (h : Older a b) (h' : Older b c) : Older a c := by
  obtain ⟨l, m, hl, hm, hlt⟩ := h
  obtain ⟨m', r, hm', hr, hlt'⟩ := h'
  obtain rfl := Option.some.inj (hm.symm.trans hm')
  exact ⟨l, r, hl, hr, hlt.trans hlt'⟩

/-- The two are the same, or the one is older. -/
def UpTo (a b : Version) : Prop :=
  a = b ∨ Older a b

theorem UpTo.trans (h : UpTo a b) (h' : UpTo b c) : UpTo a c := by
  rcases h with rfl | h
  · exact h'
  · rcases h' with rfl | h'
    · exact .inr h
    · exact .inr (h.trans h')

/-- Nothing lies between a version and itself. -/
theorem UpTo.antisymm (h : UpTo a b) (h' : UpTo b a) : a = b := by
  rcases h with rfl | h
  · rfl
  · rcases h' with rfl | h'
    · rfl
    · exact absurd rfl (h.trans h').ne

end Order

/-! ## What is recorded is read back -/

theorem mem_intercalate {x c : Char} {parts : List (List Char)}
    (h : c ∈ List.intercalate [x] parts) : c = x ∨ ∃ part ∈ parts, c ∈ part := by
  induction parts with
  | nil => cases h
  | cons part parts ih =>
      cases parts with
      | nil =>
          rw [List.intercalate_singleton] at h
          exact .inr ⟨part, List.mem_cons_self, h⟩
      | cons next parts =>
          rw [List.intercalate_cons_cons, List.mem_append, List.mem_append] at h
          rcases h with (h | h) | h
          · exact .inr ⟨part, List.mem_cons_self, h⟩
          · exact .inl (List.mem_singleton.mp h)
          · rcases ih h with hx | ⟨part', hpart', hc⟩
            · exact .inl hx
            · exact .inr ⟨part', List.mem_cons_of_mem part hpart', hc⟩

theorem isWhitespace_of_isDigit {c : Char} (h : c.isDigit = true) : isWhitespace c = false := by
  have hrange : 48 ≤ c.toNat ∧ c.toNat ≤ 57 := by
    simp only [Char.isDigit, Bool.and_eq_true, decide_eq_true_eq] at h
    exact ⟨UInt32.le_iff_toNat_le.mp h.1, UInt32.le_iff_toNat_le.mp h.2⟩
  simp only [isWhitespace, Bool.or_eq_false_iff, decide_eq_false_iff_not]
  omega

theorem isWhitespace_of_isVersion {text : Version} (h : isVersion text = true) {c : Char}
    (hc : c ∈ text) : isWhitespace c = false := by
  have hjoin : ['.'].intercalate (text.splitOn '.') = text := List.intercalate_splitOn '.'
  rw [← hjoin] at hc
  simp only [isVersion, Bool.and_eq_true, List.all_eq_true] at h
  rcases mem_intercalate hc with rfl | ⟨part, hpart, hc⟩
  · decide
  · have hnumeral := (h.2 part hpart).1
    rw [isNumeral, Bool.and_eq_true, List.all_eq_true] at hnumeral
    exact isWhitespace_of_isDigit (hnumeral.2 c hc)

theorem read_write {version : Version} (h : isVersion version = true)
    (file : Option (List Char)) : read (write .whole version file) = some version := by
  have hspace : ∀ c ∈ version, ¬ isWhitespace c = true := fun c hc => by
    rw [isWhitespace_of_isVersion h hc]
    exact Bool.false_ne_true
  have hfront : version.dropWhile isWhitespace = version :=
    List.dropWhile_eq_self_iff.mpr fun _ => hspace _ (List.getElem_mem _)
  have hback : version.rdropWhile isWhitespace = version :=
    List.rdropWhile_eq_self_iff.mpr fun hne => hspace _ (List.getLast_mem hne)
  rw [write, if_pos h]
  show (if isVersion ((version.dropWhile isWhitespace).rdropWhile isWhitespace) = true then _
    else _) = _
  rw [hfront, hback, if_pos h]

/-! ## Over all launches -/

/-- No version is started after a newer one. -/
def NoDowngrade (w : World) : Act → Prop
  | .launch current _ => ∀ last, w.started = some last → UpTo last current
  | _ => True

/-- What the record leaves to be shown: an older version is on it, or none at all where there is a
session. -/
def Due (file : Option (List Char)) (current : Version) (hadSession : Bool) : Prop :=
  match read file with
  | none => hadSession = true
  | some seen => Older seen current

def Event.version : Event → Version
  | .shown version | .recorded version => version

/-- What one entry of the log says of a later one. -/
def Event.Before : Event → Event → Prop
  | .recorded v, later => Older v later.version
  | .shown _, _ => True

/-- What the log holds while a version is in a phase. -/
def Phase.Allowed (log : List Event) (current : Version) : Phase → Prop
  | .fetching | .showing _ | .marking => .recorded current ∉ log
  | .reading _ | .done => True

/-- The record says the version that was started last, if that was written down: a torn write, which
leaves nothing or some other version there, is one of a version that is not written down yet. -/
structure Inv (w : World) : Prop where
  before : w.log.Pairwise Event.Before
  started : ∀ current phase, w.app = some (current, phase) → w.started = some current
  upTo : ∀ v, .recorded v ∈ w.log → ∃ last, w.started = some last ∧ UpTo v last
  recorded : ∀ v, .recorded v ∈ w.log → w.started = some v → read w.file = some v
  allowed : ∀ current phase, w.app = some (current, phase) → phase.Allowed w.log current

theorem inv_installed (file : Option (List Char)) : Inv (.installed file) where
  before := .nil
  started := nofun
  upTo := nofun
  recorded := nofun
  allowed := nofun

section Steps

variable {w : World} {current : Version}

/-- A step that writes neither the file nor the log. -/
theorem Inv.goTo (h : Inv w) (hstarted : w.started = some current) (phase : Phase)
    (hphase : phase.Allowed w.log current) : Inv { w with app := some (current, phase) } where
  before := h.before
  started := fun c p happ => by
    cases Option.some.inj happ
    exact hstarted
  upTo := h.upTo
  recorded := h.recorded
  allowed := fun c p happ => by
    cases Option.some.inj happ
    exact hphase

theorem Inv.launch (h : Inv w) (hadSession : Bool)
    (hok : ∀ last, w.started = some last → UpTo last current) :
    Inv { w with app := some (current, .reading hadSession), started := some current } where
  before := h.before
  started := fun c p happ => by
    cases Option.some.inj happ
    rfl
  upTo := fun v hv => by
    obtain ⟨last, hlast, hle⟩ := h.upTo v hv
    exact ⟨current, rfl, hle.trans (hok last hlast)⟩
  recorded := fun v hv hcurrent => by
    obtain rfl := Option.some.inj hcurrent
    obtain ⟨last, hlast, hle⟩ := h.upTo _ hv
    obtain rfl := hle.antisymm (hok last hlast)
    exact h.recorded _ hv hlast
  allowed := fun c p happ => by
    cases Option.some.inj happ
    trivial

/-- What is on record is neither shown nor written again. -/
theorem Inv.allowed_decided (h : Inv w) (hstarted : w.started = some current)
    (hadSession : Bool) :
    (World.decided (notesVerdict (read w.file) current hadSession)).Allowed w.log current := by
  by_cases hmem : .recorded current ∈ w.log
  · have hverdict : notesVerdict (some current) current hadSession = .nothing := if_pos rfl
    rw [h.recorded current hmem hstarted, hverdict]
    trivial
  · cases notesVerdict (read w.file) current hadSession with
    | «show» => exact hmem
    | record => exact hmem
    | nothing => trivial

/-- What is recorded before is older than the version that runs, while that is not. -/
theorem Inv.older (h : Inv w) (hstarted : w.started = some current)
    (hcurrent : .recorded current ∉ w.log) {v : Version} (hv : .recorded v ∈ w.log) :
    Older v current := by
  obtain ⟨last, hlast, hle⟩ := h.upTo v hv
  obtain rfl := Option.some.inj (hstarted.symm.trans hlast)
  rcases hle with rfl | holder
  · exact absurd hv hcurrent
  · exact holder

theorem Inv.before_append (h : Inv w) (hstarted : w.started = some current)
    (hcurrent : .recorded current ∉ w.log) {event : Event} (hevent : event.version = current) :
    (w.log ++ [event]).Pairwise Event.Before := by
  refine List.pairwise_append.mpr ⟨h.before, List.pairwise_singleton _ _, fun e he e' he' => ?_⟩
  obtain rfl := List.mem_singleton.mp he'
  cases e with
  | shown v => trivial
  | recorded v =>
      show Older v e'.version
      rw [hevent]
      exact h.older hstarted hcurrent he

theorem Inv.offered (h : Inv w) (hstarted : w.started = some current)
    (hcurrent : .recorded current ∉ w.log) (text : Except Unit (Option Notes.Text)) :
    Inv (w.offered current text) := by
  have hlog : ∀ v, .recorded v ∈ w.log ++ [.shown current] → .recorded v ∈ w.log := by
    simp
  unfold World.offered
  split
  · exact h.goTo hstarted .done trivial
  · exact h.goTo hstarted .marking hcurrent
  · dsimp only
    split
    · exact h.goTo hstarted .marking hcurrent
    · next markdown hblocks =>
        refine ⟨h.before_append hstarted hcurrent rfl, fun c p happ => ?_,
          fun v hv => h.upTo v (hlog v hv), fun v hv => h.recorded v (hlog v hv),
          fun c p happ => ?_⟩
        · cases Option.some.inj happ
          exact hstarted
        · cases Option.some.inj happ
          exact fun hmem => hcurrent (hlog _ hmem)

theorem Inv.mark (h : Inv w) (hstarted : w.started = some current)
    (hcurrent : .recorded current ∉ w.log) (written : Written) :
    Inv (w.mark current written) := by
  unfold World.mark
  dsimp only
  split
  · next hwhole =>
      obtain ⟨rfl, hversion⟩ := hwhole
      refine ⟨h.before_append hstarted hcurrent rfl, fun c p happ => ?_, fun v hv => ?_,
        fun v hv hv' => ?_, fun c p happ => ?_⟩
      · cases Option.some.inj happ
        exact hstarted
      · rcases List.mem_append.mp hv with hv | hv
        · exact h.upTo v hv
        · cases List.mem_singleton.mp hv
          exact ⟨current, hstarted, .inl rfl⟩
      · obtain rfl := Option.some.inj (hstarted.symm.trans hv')
        exact read_write hversion w.file
      · cases Option.some.inj happ
        trivial
  · -- whatever is left of the file, nothing recorded is about the version that runs
    refine ⟨h.before, fun c p happ => ?_, h.upTo, fun v hv hv' => ?_, fun c p happ => ?_⟩
    · cases Option.some.inj happ
      exact hstarted
    · obtain rfl := Option.some.inj (hstarted.symm.trans hv')
      exact absurd hv hcurrent
    · cases Option.some.inj happ
      trivial

theorem Inv.proceed (h : Inv w) {phase : Phase} (happ : w.app = some (current, phase))
    (act : Act) : Inv (w.proceed current phase act) := by
  have hstarted := h.started current phase happ
  have hallowed := h.allowed current phase happ
  unfold World.proceed
  split
  · next hadSession ok =>
      refine h.goTo hstarted _ ?_
      cases ok with
      | true => exact h.allowed_decided hstarted hadSession
      | false => trivial
  · exact h.offered hstarted hallowed _
  · exact h.goTo hstarted .marking hallowed
  · exact h.mark hstarted hallowed _
  · exact h

theorem Inv.step (h : Inv w) (act : Act) (hok : NoDowngrade w act) : Inv (w.step act) := by
  have hproceed : ∀ act, Inv (match w.app with
      | none => w
      | some (current, phase) => w.proceed current phase act) := fun act => by
    cases happ : w.app with
    | none => exact h
    | some app => exact h.proceed happ act
  cases act with
  | launch current hadSession => exact h.launch hadSession hok
  | quit => exact ⟨h.before, nofun, h.upTo, h.recorded, nofun⟩
  | read ok => exact hproceed (.read ok)
  | fetched reply => exact hproceed (.fetched reply)
  | close => exact hproceed .close
  | marked written => exact hproceed (.marked written)

/-- A new installation has nothing to show: the version that is started first is written down at
most. -/
structure Silent (log : List Event) (w : World) : Prop where
  shown : ∀ v, .shown v ∈ w.log → .shown v ∈ log
  phase : ∀ current phase, w.app = some (current, phase) →
    (phase = .reading false ∧ read w.file = none) ∨ phase = .marking ∨ phase = .done

theorem Silent.mark {log : List Event} (h : Silent log w) (written : Written) :
    Silent log (w.mark current written) := by
  unfold World.mark
  dsimp only
  split
  · refine ⟨fun v hv => ?_, fun c p happ => ?_⟩
    · rcases List.mem_append.mp hv with hv | hv
      · exact h.shown v hv
      · cases List.mem_singleton.mp hv
    · cases Option.some.inj happ
      exact .inr (.inr rfl)
  · refine ⟨h.shown, fun c p happ => ?_⟩
    cases Option.some.inj happ
    exact .inr (.inr rfl)

theorem Silent.step {log : List Event} (h : Silent log w) {act : Act}
    (hact : ∀ current hadSession, act ≠ .launch current hadSession) : Silent log (w.step act) := by
  have hproceed : ∀ act, Silent log (match w.app with
      | none => w
      | some (current, phase) => w.proceed current phase act) := fun act => by
    cases happ : w.app with
    | none => exact h
    | some app =>
        obtain ⟨current, phase⟩ := app
        rcases h.phase current phase happ with ⟨rfl, hnone⟩ | rfl | rfl
        · cases act with
          | read ok =>
              refine ⟨h.shown, fun c p happ => ?_⟩
              cases Option.some.inj happ
              rw [hnone]
              cases ok with
              | true => exact .inr (.inl rfl)
              | false => exact .inr (.inr rfl)
          | _ => exact h
        · cases act with
          | marked written => exact h.mark written
          | _ => exact h
        · exact h
  cases act with
  | launch current hadSession => exact absurd rfl (hact current hadSession)
  | quit => exact ⟨h.shown, nofun⟩
  | read ok => exact hproceed (.read ok)
  | fetched reply => exact hproceed (.fetched reply)
  | close => exact hproceed .close
  | marked written => exact hproceed (.marked written)

theorem silent_launch (hfile : read w.file = none) (current : Version) :
    Silent w.log (w.step (.launch current false)) where
  shown := fun _ hv => hv
  phase := fun c p happ => by
    cases Option.some.inj happ
    exact .inl ⟨rfl, hfile⟩

theorem notesVerdict_of_due {file : Option (List Char)} {hadSession : Bool}
    (hdue : Due file current hadSession) : notesVerdict (read file) current hadSession = .show := by
  unfold Due at hdue
  cases hread : read file with
  | none =>
      rw [hread] at hdue
      exact if_pos hdue
  | some seen =>
      have holder : Older seen current := by
        rw [hread] at hdue
        exact hdue
      show (if seen = current then _ else _) = _
      rw [if_neg holder.ne, if_pos (compareVersions_eq_iff.mpr holder)]

/-- What shows the notes of a version that the record leaves to be shown. -/
theorem log_offered {hadSession : Bool} (hdue : Due w.file current hadSession) {status : Nat}
    (hstatus : 200 ≤ status ∧ status < 300) {markdown : Notes.Text}
    (htext : Notes.trim markdown ≠ []) (hblocks : (readNotes markdown).blocks ≠ []) :
    (run World.step w [.launch current hadSession, .read true,
      .fetched (some ⟨status, some markdown⟩)]).log = w.log ++ [.shown current] := by
  have hfetch : fetchReleaseText (some ⟨status, some markdown⟩) = .ok (some markdown) := by
    simp [fetchReleaseText, show ¬ status = 404 by omega, show ¬ status < 200 by omega,
      show ¬ 300 ≤ status by omega, htext]
  simp only [run_cons, run_nil, World.step, World.proceed, if_true]
  rw [notesVerdict_of_due hdue]
  simp only [World.decided, World.offered, hfetch]
  rw [if_neg (by simpa using hblocks)]

end Steps

/-- Release notes from launch to launch, whenever the application ends and however far a write
comes: what was written down whole is never shown again, and nothing older; what the record leaves
to be shown is shown at the next launch that has the text; and a new installation shows nothing. -/
theorem notes_run (file : Option (List Char)) (acts : List Act)
    (hacts : EachStep World.step NoDowngrade (.installed file) acts) :
    let w := run World.step (.installed file) acts
    w.log.Pairwise Event.Before ∧
      (∀ current hadSession status markdown, Due w.file current hadSession →
        200 ≤ status ∧ status < 300 → Notes.trim markdown ≠ [] →
          (readNotes markdown).blocks ≠ [] →
            (run World.step w [.launch current hadSession, .read true,
              .fetched (some ⟨status, some markdown⟩)]).log = w.log ++ [.shown current]) ∧
      (read w.file = none → ∀ current more,
        (∀ act ∈ more, ∀ version hadSession, act ≠ .launch version hadSession) →
          ∀ v, .shown v ∈ (run World.step (w.step (.launch current false)) more).log →
            .shown v ∈ w.log) := by
  intro w
  have hinv : Inv w :=
    run_of_eachStep (I := Inv) (fun _ act h hok => h.step act hok) (inv_installed file) hacts
  refine ⟨hinv.before, fun current hadSession status markdown hdue hstatus htext hblocks =>
    log_offered hdue hstatus htext hblocks, fun hfile current more hmore v hv => ?_⟩
  have hsilent : Silent w.log (run World.step (w.step (.launch current false)) more) :=
    run_of_eachStep (I := Silent w.log) (fun _ _ h hact => h.step hact)
      (silent_launch hfile current) (eachStep_of_forall_mem (fun act hact _ => hmore act hact) _)
  exact hsilent.shown v hv

/-- An update that has no notes, and a later one whose write the disk tears. -/
def updates : List Act :=
  [.launch "2.0.9".toList true, .read true, .fetched (some ⟨404, none⟩), .marked .whole,
    .launch "2.0.10".toList true, .read true, .fetched (some ⟨404, none⟩), .marked (.torn 5)]

theorem notes_run_update :
    EachStep World.step NoDowngrade (.installed none) updates ∧
      (run World.step (.installed none) updates).file = some "2.0.1".toList ∧
      (run World.step (.installed none) updates).log.Pairwise Event.Before :=
  have hacts : EachStep World.step NoDowngrade (.installed none) updates :=
    ⟨nofun, trivial, trivial, trivial, fun last hlast => by
      obtain rfl : "2.0.9".toList = last := Option.some.inj hlast
      exact .inr ⟨[2, 0, 9], [2, 0, 10], by decide, by decide, by decide⟩,
      trivial, trivial, trivial, trivial⟩
  ⟨hacts, by decide, (notes_run none _ hacts).1⟩

end ReleaseNotes
end Desktop
end Ldktela
