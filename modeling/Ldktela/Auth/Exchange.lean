import Ldktela.Auth.Session
import Ldktela.Db.Pairing
import Ldktela.Db.Presence

/-!
# Exchanging a credential, with failing statements

`pair` of `crates/api/src/routes/auth.rs` and `rotate_refresh` of
`crates/api/src/auth/session.rs`, one request alone, where any of its database
statements may fail.

A credential is consumed by a statement of its own, and what is issued for it is
inserted by a later one on another connection: `issue_session` takes an executor so
that it can run inside the transaction that consumes, and neither caller opens one.
`exchange_allOrNothing_iff` says for which states and faults a refused request
leaves the credential as it was.
-/

namespace Ldktela
namespace Auth

open Protocol
open Db

/-! ## Pairing -/

namespace Pair

inductive ValidationCode where
  | required
  | tooShort
  | tooLong
  | invalidFormat
deriving DecidableEq

def pairingCodeLen : Nat := 8

/-- The symbols of a code, without the ambiguous ones. -/
def pairingCodeAlphabet : List Char :=
  "ABCDEFGHJKMNPQRSTUVWXYZ23456789".toList

/-- Shape check only.  Whether the code exists is a database question. -/
def pairingCode (value : List Char) : Except ValidationCode Unit :=
  if value.isEmpty then
    .error .required
  else if value.length < pairingCodeLen then
    .error .tooShort
  else if pairingCodeLen < value.length then
    .error .tooLong
  else if !value.all (fun c => decide (c ∈ pairingCodeAlphabet)) then
    .error .invalidFormat
  else
    .ok ()

/-- White space, as `str::trim` knows it. -/
def isWhitespace (c : Char) : Bool :=
  let n := c.toNat
  decide (9 ≤ n ∧ n ≤ 13) || n = 0x20 || n = 0x85 || n = 0xA0 || n = 0x1680 ||
    decide (0x2000 ≤ n ∧ n ≤ 0x200A) || n = 0x2028 || n = 0x2029 || n = 0x202F ||
    n = 0x205F || n = 0x3000

/-- `trim().to_ascii_uppercase()`. -/
def normalized (code : List Char) : List Char :=
  (((code.dropWhile isWhitespace).reverse.dropWhile isWhitespace).reverse).map Char.toUpper

/-- What the route reads and writes. -/
structure Store where
  codes : PairingCodes
  users : Users
  tokens : RefreshTokens
  /-- No id below it is fresh. -/
  nextId : Uuid

def findByDiscordId (discordUserId : Snowflake) (users : Users) : Option Uuid :=
  (users.entries.find? fun e => e.2.discordUserId = discordUserId).map fun e => e.1

/-- The part of the store the session module works on. -/
def Store.database (st : Store) : Database :=
  ⟨st.users.keys, st.tokens, st.nextId⟩

def Store.withDatabase (db : Database) (st : Store) : Store :=
  { st with tokens := db.tokens, nextId := db.nextId }

/-- Which calls of a request fail: the statements of the route, and the signing of
the access token, which counts as part of `insert`. -/
structure Faults where
  consume : Bool
  findUser : Bool
  insert : Bool

inductive PairError where
  | unauthorized
  | internal
deriving DecidableEq

variable (hashCode : List Char → CodeHash) (ttl : Nat)

/-- Exchange a pairing code for a session.  `fresh` is the hash of the refresh
secret that is drawn, and the answer is the user of the session. -/
def pair (now : Timestamp) (faults : Faults) (code : List Char) (fresh : TokenHash)
    (st : Store) : Store × Except PairError Uuid :=
  match pairingCode (normalized code) with
  | .error _ => (st, .error .unauthorized)
  | .ok () =>
      if faults.consume then
        (st, .error .internal)
      else
        match st.codes.consume (hashCode (normalized code)) now with
        | (_, none) => (st, .error .unauthorized)
        | (codes, some consumed) =>
            let st := { st with codes := codes }
            if faults.findUser then
              (st, .error .internal)
            else
              match findByDiscordId consumed.discordUserId st.users with
              | none => (st, .error .internal)
              | some userId =>
                  if faults.insert then
                    (st, .error .internal)
                  else
                    match insertToken st.nextId userId fresh (now + ttl) st.database with
                    | (db, .done (.issued _)) => (st.withDatabase db, .ok userId)
                    | _ => (st, .error .internal)

/-- The code lets a client in. -/
def usable (code : List Char) (now : Timestamp) (st : Store) : Bool :=
  st.codes.usable (hashCode (normalized code)) now

/-- A refused request leaves the code as usable as it was. -/
def AllOrNothing (now : Timestamp) (faults : Faults) (code : List Char) (fresh : TokenHash)
    (st : Store) : Prop :=
  ∀ e, (pair hashCode ttl now faults code fresh st).2 = .error e →
    ∀ later, usable hashCode code later (pair hashCode ttl now faults code fresh st).1 =
      usable hashCode code later st

/-- The request consumes the code of `row`. -/
def Consumes (now : Timestamp) (faults : Faults) (code : List Char) (st : Store)
    (row : PairingRow) : Prop :=
  pairingCode (normalized code) = .ok () ∧ faults.consume = false ∧
    (∃ id, st.codes.findByHash (hashCode (normalized code)) = some (id, row)) ∧
    row.isUsable now = true

/-- Once the code is consumed, nothing stands in the way of the session: no later
call fails, the account of the code exists, and the new token can be inserted. -/
def Issues (faults : Faults) (discordUserId : Snowflake) (fresh : TokenHash) (st : Store) :
    Prop :=
  faults.findUser = false ∧ faults.insert = false ∧
    ∃ userId, findByDiscordId discordUserId st.users = some userId ∧
      st.database.Accepts userId fresh

section

variable {hashCode : List Char → CodeHash} {ttl : Nat} {now : Timestamp} {faults : Faults}
  {code : List Char} {fresh : TokenHash} {st : Store}

/-- A request that consumes no code leaves everything as it was. -/
theorem pair_of_not_consumes (h : ∀ row, ¬ Consumes hashCode now faults code st row) :
    (pair hashCode ttl now faults code fresh st).1 = st := by
  unfold pair
  split
  · rfl
  · next hvalid =>
      split
      · rfl
      · next hconsume =>
          have hspent : st.codes.usable (hashCode (normalized code)) now = false := by
            unfold PairingCodes.usable
            split
            · next id row hfind =>
                have hnot := h row
                simp only [Consumes, hvalid, Bool.not_eq_true _ ▸ hconsume, hfind] at hnot
                simpa using hnot
            · rfl
          rw [PairingCodes.consume_of_not_usable hspent]

/-- A request that consumes a code spends it, and is answered with a session exactly
if nothing stands in the way. -/
theorem pair_of_consumes (ttl : Nat) (fresh : TokenHash) {row : PairingRow}
    (h : Consumes hashCode now faults code st row) :
    (∀ later, usable hashCode code later (pair hashCode ttl now faults code fresh st).1 = false) ∧
      ((∃ e, (pair hashCode ttl now faults code fresh st).2 = .error e) ↔
        ¬ Issues faults row.discordUserId fresh st) := by
  obtain ⟨hvalid, hconsume, ⟨id, hfind⟩, hrow⟩ := h
  have husable : st.codes.usable (hashCode (normalized code)) now = true := by
    rw [PairingCodes.usable, hfind]
    exact hrow
  obtain ⟨row', ⟨id', hfind'⟩, hcode, hspent⟩ := PairingCodes.consume_of_usable husable
  obtain ⟨-, rfl⟩ := Prod.mk.inj (Option.some.inj (hfind.symm.trans hfind'))
  unfold pair Issues usable
  simp only [hvalid, hconsume]
  rcases hresult : st.codes.consume (hashCode (normalized code)) now with ⟨codes, consumed⟩
  rw [hresult] at hcode hspent
  obtain rfl := hcode
  by_cases huser : faults.findUser = true
  · simpa [huser] using hspent
  cases hlookup : findByDiscordId row.discordUserId st.users with
  | none => simpa [huser, hlookup] using hspent
  | some userId =>
      by_cases hinsert : faults.insert = true
      · simpa [huser, hlookup, hinsert] using hspent
      by_cases haccepts : st.database.Accepts userId fresh
      · have hissued := insertToken_of_accepts haccepts st.nextId (now + ttl)
        simp only [Store.database] at hissued haccepts
        simpa [huser, hlookup, hinsert, Store.database, Store.withDatabase, hissued, haccepts]
          using hspent
      · have hrefused := insertToken_of_not_accepts haccepts st.nextId (now + ttl)
        simp only [Store.database] at hrefused haccepts
        simpa [huser, hlookup, hinsert, Store.database, hrefused, haccepts] using hspent

/-- The code survives a refused request exactly if consuming it is enough for the
session. -/
theorem allOrNothing_iff :
    AllOrNothing hashCode ttl now faults code fresh st ↔
      ∀ row, Consumes hashCode now faults code st row →
        Issues faults row.discordUserId fresh st := by
  constructor
  · intro h row hrow
    by_contra hstuck
    obtain ⟨hspent, herror⟩ := pair_of_consumes ttl fresh hrow
    obtain ⟨e, he⟩ := herror.mpr hstuck
    have hbefore : usable hashCode code now st = true := by
      obtain ⟨-, -, ⟨id, hfind⟩, hlive⟩ := hrow
      rw [usable, PairingCodes.usable, hfind]
      exact hlive
    have hafter := (hspent now).symm.trans (h e he now)
    rw [hbefore] at hafter
    cases hafter
  · intro h e he later
    by_cases hconsumes : ∃ row, Consumes hashCode now faults code st row
    · obtain ⟨row, hrow⟩ := hconsumes
      have herror := (pair_of_consumes ttl fresh hrow).2
      exact absurd (h row hrow) (herror.mp ⟨e, he⟩)
    · rw [pair_of_not_consumes (not_exists.mp hconsumes)]

end

end Pair

/-! ## Rotation -/

namespace Rotate

/-- The statements of `rotate_refresh`; signing the access token counts as part of
`insert`. -/
inductive Statement where
  | findByHash
  | consume
  | findById
  | insert
  | revokeFamily
deriving DecidableEq

/-- The statement a rotation runs next. -/
def statement : Call → Option Statement
  | .rotateFind .. => some .findByHash
  | .rotateConsume .. => some .consume
  | .rotateUser .. => some .findById
  | .rotateInsert .. => some .insert
  | .revoke .. => some .revokeFamily
  | _ => none

variable (ttl : Nat)

/-- The statements of a call, one after the other, up to the first one that fails. -/
def complete (now : Timestamp) (fails : Statement → Bool) :
    Nat → Database → Call → Database × Call
  | 0, db, call => (db, call)
  | fuel + 1, db, call =>
      match statement call with
      | none => (db, call)
      | some s =>
          if fails s then
            (db, .done .failed)
          else
            let (db, call) := advance ttl now db call
            complete now fails fuel db call

/-- One rotation with no other call around it.  It runs at most four statements. -/
def rotateRefresh (now : Timestamp) (fails : Statement → Bool) (presented fresh : TokenHash)
    (db : Database) : Database × Call :=
  complete ttl now fails 4 db (.rotateFind presented fresh now)

/-- The request is answered, and a refusal other than for a reuse leaves the token as
usable as it was. -/
def AllOrNothing (now : Timestamp) (fails : Statement → Bool) (presented fresh : TokenHash)
    (db : Database) : Prop :=
  ∃ answer, (rotateRefresh ttl now fails presented fresh db).2 = .done answer ∧
    ((∀ id, answer ≠ .issued id) → (∀ familyId, answer ≠ .tokenReused familyId) →
      ∀ later, (rotateRefresh ttl now fails presented fresh db).1.tokens.usable presented later =
        db.tokens.usable presented later)

/-- The request consumes the token of `row`. -/
def Consumes (now : Timestamp) (fails : Statement → Bool) (presented : TokenHash)
    (db : Database) (row : RefreshTokenRow) : Prop :=
  fails .findByHash = false ∧ fails .consume = false ∧
    (∃ id, db.tokens.findByHash presented = some (id, row)) ∧ row.isUsable now = true

/-- Once the token is consumed, nothing stands in the way of its successor. -/
def Issues (fails : Statement → Bool) (userId : Uuid) (fresh : TokenHash) (db : Database) :
    Prop :=
  fails .findById = false ∧ fails .insert = false ∧ db.Accepts userId fresh

section

variable {ttl : Nat} {now : Timestamp} {fails : Statement → Bool}
  {presented fresh : TokenHash} {db : Database}

theorem complete_of_fails {call : Call} {s : Statement} (hs : statement call = some s)
    (h : fails s = true) (fuel : Nat) :
    complete ttl now fails (fuel + 1) db call = (db, .done .failed) := by
  simp [complete, hs, h]

theorem complete_of_runs {call : Call} {s : Statement} (hs : statement call = some s)
    (h : fails s = false) (fuel : Nat) :
    complete ttl now fails (fuel + 1) db call =
      complete ttl now fails fuel (advance ttl now db call).1 (advance ttl now db call).2 := by
  simp [complete, hs, h]

theorem complete_done (answer : Answer) (fuel : Nat) :
    complete ttl now fails fuel db (.done answer) = (db, .done answer) := by
  cases fuel with
  | zero => rfl
  | succ fuel => rfl

/-- A rotation that consumes nothing writes nothing, unless it detects a reuse. -/
theorem rotateRefresh_of_not_consumes (ttl : Nat) (fresh : TokenHash)
    (h : ∀ row, ¬ Consumes now fails presented db row) :
    ∃ answer, (rotateRefresh ttl now fails presented fresh db).2 = .done answer ∧
      ((∃ familyId, answer = .tokenReused familyId) ∨
        (rotateRefresh ttl now fails presented fresh db).1 = db) := by
  by_cases hfind : fails .findByHash = true
  · exact ⟨.failed, by simp [rotateRefresh, complete, statement, hfind]⟩
  cases hrow : db.tokens.findByHash presented with
  | none =>
      refine ⟨.unauthorized, ?_⟩
      simp [rotateRefresh, complete, statement, hfind, advance, hrow]
  | some found =>
      obtain ⟨id, row⟩ := found
      by_cases hconsumed : row.consumedAt.isSome = true
      · by_cases hrevoke : fails .revokeFamily = true
        · refine ⟨.failed, ?_⟩
          simp [rotateRefresh, complete, statement, hfind, advance, hrow, decideRotation,
            hconsumed, hrevoke]
        · refine ⟨.tokenReused row.familyId, ?_⟩
          simp [rotateRefresh, complete, statement, hfind, advance, hrow, decideRotation,
            hconsumed, hrevoke]
      by_cases hdead : row.revokedAt.isSome = true ∨ row.expiresAt ≤ now
      · refine ⟨.unauthorized, ?_⟩
        simp [rotateRefresh, complete, statement, hfind, advance, hrow, decideRotation,
          hconsumed, hdead]
      -- the row is usable, so the request does not get to consume it
      · have hconsume : fails .consume = true := by
          by_contra hruns
          refine h row ⟨by simpa using hfind, by simpa using hruns, ⟨id, hrow⟩, ?_⟩
          simp only [not_or, Nat.not_le] at hdead
          simpa [RefreshTokenRow.isUsable, hdead.2] using And.intro hconsumed hdead.1
        refine ⟨.failed, ?_⟩
        simp [rotateRefresh, complete, statement, hfind, advance, hrow, decideRotation,
          hconsumed, hdead, hconsume]

/-- Consuming a token changes nothing that an insert asks about. -/
theorem accepts_consume (now : Timestamp) (id : Uuid) {userId : Uuid} :
    Database.Accepts { db with tokens := (db.tokens.consume now id).1 } userId fresh ↔
      db.Accepts userId fresh := by
  have hid : db.nextId ∉ (db.tokens.consume now id).1 ↔ db.nextId ∉ db.tokens := by
    rw [← AList.lookup_eq_none, ← AList.lookup_eq_none, RefreshTokens.lookup_consume]
    split
    · exact Option.map_eq_none_iff
    · rfl
  have hhash : (db.tokens.consume now id).1.findByHash fresh = none ↔
      db.tokens.findByHash fresh = none := by
    rw [RefreshTokens.findByHash_consume, Option.map_eq_none_iff]
  simp only [Database.Accepts, hid, hhash]

/-- A rotation that consumes its token issues a new one exactly if nothing stands in
the way, and otherwise has spent it. -/
theorem rotateRefresh_of_consumes (ttl : Nat) {row : RefreshTokenRow}
    (h : Consumes now fails presented db row) :
    (Issues fails row.userId fresh db →
        (rotateRefresh ttl now fails presented fresh db).2 = .done (.issued db.nextId)) ∧
      (¬ Issues fails row.userId fresh db →
        (rotateRefresh ttl now fails presented fresh db).2 = .done .failed ∧
          ∀ later, (rotateRefresh ttl now fails presented fresh db).1.tokens.usable presented
            later = false) := by
  obtain ⟨hfind, hconsume, ⟨id, hrow⟩, husable⟩ := h
  have hspent := RefreshTokens.usable_consume hrow now
  have hlookup := RefreshTokens.lookup_of_findByHash hrow
  obtain ⟨hlive, hexpires⟩ : row.isLive = true ∧ now < row.expiresAt := by
    simpa [RefreshTokenRow.isUsable_eq] using husable
  -- the first two statements succeed, and the token is spent from there on
  have hfirst : rotateRefresh ttl now fails presented fresh db =
      complete ttl now fails 2 { db with tokens := (db.tokens.consume now id).1 }
        (.rotateUser row fresh now) := by
    obtain ⟨hnew, hkept⟩ : row.consumedAt = none ∧ row.revokedAt = none := by
      simpa [RefreshTokenRow.isLive] using hlive
    have hdecide : decideRotation id row fresh now = .rotateConsume id row fresh now := by
      simp [decideRotation, hnew, hkept, hexpires]
    have hwon : (db.tokens.consume now id).2 = true := by
      rw [RefreshTokens.consume, hlookup]
      exact hlive
    rw [rotateRefresh, complete_of_runs rfl hfind]
    simp only [advance, hrow, hdecide]
    rw [complete_of_runs rfl hconsume]
    simp only [advance, hwon, if_true]
  rw [hfirst]
  unfold Issues
  rw [← accepts_consume now id]
  generalize (db.tokens.consume now id).1 = tokens at hspent
  cases huser : fails .findById with
  | true =>
      rw [complete_of_fails rfl huser]
      simpa using hspent
  | false =>
      rw [complete_of_runs rfl huser]
      by_cases hmem : row.userId ∈ db.users
      · simp only [advance, hmem, if_true]
        cases hinsert : fails .insert with
        | true =>
            rw [complete_of_fails rfl hinsert]
            simpa using hspent
        | false =>
            rw [complete_of_runs rfl hinsert]
            simp only [advance]
            by_cases haccepts : Database.Accepts { db with tokens := tokens } row.userId fresh
            · rw [insertToken_of_accepts haccepts, complete_done]
              simp [haccepts]
            · rw [insertToken_of_not_accepts haccepts, complete_done]
              simpa [haccepts] using hspent
      · simp only [advance, hmem, if_false]
        rw [complete_done]
        simpa [Database.Accepts, hmem] using hspent

/-- The token survives a refused rotation exactly if consuming it is enough for its
successor. -/
theorem allOrNothing_iff :
    AllOrNothing ttl now fails presented fresh db ↔
      ∀ row, Consumes now fails presented db row → Issues fails row.userId fresh db := by
  constructor
  · intro h row hrow
    by_contra hstuck
    obtain ⟨hfailed, hspent⟩ := (rotateRefresh_of_consumes ttl hrow).2 hstuck
    obtain ⟨answer, hanswer, hkept⟩ := h
    obtain rfl := Call.done.inj (hanswer.symm.trans hfailed)
    have hafter := (hspent now).symm.trans
      (hkept (fun _ => Answer.noConfusion) (fun _ => Answer.noConfusion) now)
    have hbefore : db.tokens.usable presented now = true := by
      obtain ⟨-, -, ⟨id, hfind⟩, husable⟩ := hrow
      rw [RefreshTokens.usable, hfind]
      exact husable
    rw [hbefore] at hafter
    cases hafter
  · intro h
    by_cases hconsumes : ∃ row, Consumes now fails presented db row
    · obtain ⟨row, hrow⟩ := hconsumes
      have hissued := (rotateRefresh_of_consumes ttl hrow).1 (h row hrow)
      exact ⟨_, hissued, fun hnot => absurd rfl (hnot _)⟩
    · obtain ⟨answer, hanswer, hreused | hsame⟩ :=
        rotateRefresh_of_not_consumes ttl fresh (not_exists.mp hconsumes)
      · obtain ⟨familyId, rfl⟩ := hreused
        exact ⟨_, hanswer, fun _ hnot => absurd rfl (hnot _)⟩
      · refine ⟨answer, hanswer, fun _ _ later => ?_⟩
        rw [hsame]

end

end Rotate

/-! ## Both exchanges -/

/-- A credential survives the requests that are refused exactly if, whenever a
request consumes it, nothing stands in the way of what is issued for it. -/
theorem exchange_allOrNothing_iff (hashCode : List Char → CodeHash) (ttl : Nat)
    (now : Timestamp) (fresh : TokenHash) :
    (∀ faults code st, Pair.AllOrNothing hashCode ttl now faults code fresh st ↔
      ∀ row, Pair.Consumes hashCode now faults code st row →
        Pair.Issues faults row.discordUserId fresh st) ∧
    (∀ fails presented db, Rotate.AllOrNothing ttl now fails presented fresh db ↔
      ∀ row, Rotate.Consumes now fails presented db row →
        Rotate.Issues fails row.userId fresh db) :=
  ⟨fun _ _ _ => Pair.allOrNothing_iff, fun _ _ _ => Rotate.allOrNothing_iff⟩

/-- One account, its code and its first refresh token. -/
private def paired : Pair.Store where
  codes := AList.insert 1 ⟨List.length "ABCDEFGH".toList, 7, 9, 100, none⟩ ∅
  users := AList.insert 5 ⟨7, "ana", none, none⟩ ∅
  tokens := AList.insert 0 ⟨0, 5, 42, 100, none, none⟩ ∅
  nextId := 1

/-- The statement that inserts the new token fails: the code is gone, the refresh
token is gone, and its holder, who tries again, brings the family down. -/
theorem failed_insert_spends_the_credential :
    ¬ Pair.AllOrNothing List.length 60 10 ⟨false, false, true⟩ "ABCDEFGH".toList 43 paired ∧
      ¬ Rotate.AllOrNothing 60 10 (fun s => decide (s = .insert)) 42 43 paired.database ∧
      (Rotate.rotateRefresh 60 11 (fun _ => false) 42 44
        (Rotate.rotateRefresh 60 10 (fun s => decide (s = .insert)) 42 43 paired.database).1).2 =
          .done (.tokenReused 0) := by
  refine ⟨fun h => ?_, fun h => ?_, by decide⟩
  · exact absurd (h .internal (by decide) 20) (by decide)
  · obtain ⟨answer, hanswer, hkept⟩ := h
    have hfailed : Call.done answer = .done .failed := hanswer.symm.trans (by decide)
    obtain rfl := Call.done.inj hfailed
    exact absurd (hkept (fun _ => Answer.noConfusion) (fun _ => Answer.noConfusion) 20)
      (by decide)

end Auth
end Ldktela
