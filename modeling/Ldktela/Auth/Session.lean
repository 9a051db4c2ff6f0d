import Ldktela.Db.RefreshTokens
import Ldktela.Lib.Runs

/-!
# Session issuance and refresh rotation

`crates/api/src/auth/session.rs`: `issue_session`, `rotate_refresh` and
`revoke_session` as their database statements in order, for any number of calls
that interleave.

`Call` says which statement a call runs next and what it has read so far.  A run
starts calls, lets one of them take its next statement, lets a statement fail, or
lets time pass.  Every id a call draws (`Uuid::now_v7`) is a fresh one, so the
ids are handed out by a counter.

`advance_effect` says once what a statement can do to the table and to the call;
the invariants of all runs are derived from it.
-/

namespace Ldktela
namespace Auth

open Protocol
open Db
open Runs

/-- What a call returned. -/
inductive Answer where
  /-- A new pair, with the id of its refresh token. -/
  | issued (id : Uuid)
  /-- Reuse was detected and the family revoked. -/
  | tokenReused (familyId : Uuid)
  | unauthorized
  /-- The family of the presented token, if it is known. -/
  | loggedOut (familyId : Option Uuid)
  /-- A database error. -/
  | failed
deriving DecidableEq

/-- The next statement of a call. -/
inductive Call where
  /-- `rotate_refresh`: `find_by_hash`.  `fresh` is the hash of the secret it
  would issue, `now` the instant it started. -/
  | rotateFind (presented fresh : TokenHash) (now : Timestamp)
  /-- `rotate_refresh`: `consume`, with the row it read. -/
  | rotateConsume (id : Uuid) (row : RefreshTokenRow) (fresh : TokenHash) (now : Timestamp)
  /-- `rotate_refresh`: `users::find_by_id`. -/
  | rotateUser (row : RefreshTokenRow) (fresh : TokenHash) (now : Timestamp)
  /-- `rotate_refresh`: `insert` of the new token of the family. -/
  | rotateInsert (userId familyId : Uuid) (fresh : TokenHash) (now : Timestamp)
  /-- `revoke_session`: `find_by_hash`. -/
  | logoutFind (presented : TokenHash)
  /-- `revoke_family`, on a reuse or on a logout. -/
  | revoke (familyId : Uuid) (logout : Bool)
  /-- `issue_session`: `insert` of the first token of a family. -/
  | issueInsert (userId : Uuid) (fresh : TokenHash) (now : Timestamp)
  | done (answer : Answer)
deriving DecidableEq

structure Database where
  users : List Uuid
  tokens : RefreshTokens
  /-- No id below it is fresh. -/
  nextId : Uuid

/-- `insert` with a fresh id, and the answer of the call; a user that is gone
breaks the foreign key. -/
def insertToken (familyId userId : Uuid) (fresh : TokenHash) (expiresAt : Timestamp)
    (db : Database) : Database × Call :=
  if userId ∈ db.users then
    match db.tokens.insert db.nextId familyId userId fresh expiresAt with
    | some tokens => ({ db with tokens := tokens, nextId := db.nextId + 1 },
        .done (.issued db.nextId))
    | none => (db, .done .failed)
  else
    (db, .done .failed)

/-- Where `find_by_hash` leads a rotation. -/
def decideRotation (id : Uuid) (row : RefreshTokenRow) (fresh : TokenHash) (now : Timestamp) :
    Call :=
  if row.consumedAt.isSome then
    -- the token was exchanged before: explicit reuse
    .revoke row.familyId false
  else if row.revokedAt.isSome ∨ row.expiresAt ≤ now then
    .done .unauthorized
  else
    .rotateConsume id row fresh now

/-- The next statement of a call.  `ttl` is the lifetime of a refresh token and
`now` the clock of the database. -/
def advance (ttl : Nat) (now : Timestamp) (db : Database) : Call → Database × Call
  | .rotateFind presented fresh started =>
      match db.tokens.findByHash presented with
      | none => (db, .done .unauthorized)
      | some (id, row) => (db, decideRotation id row fresh started)
  | .rotateConsume id row fresh started =>
      let consumed := db.tokens.consume now id
      if consumed.2 then
        ({ db with tokens := consumed.1 }, .rotateUser row fresh started)
      else
        -- lost the race: indistinguishable from a thief
        ({ db with tokens := consumed.1 }, .revoke row.familyId false)
  | .rotateUser row fresh started =>
      if row.userId ∈ db.users then
        (db, .rotateInsert row.userId row.familyId fresh started)
      else
        (db, .done .failed)
  | .rotateInsert userId familyId fresh started =>
      insertToken familyId userId fresh (started + ttl) db
  | .logoutFind presented =>
      match db.tokens.findByHash presented with
      | none => (db, .done (.loggedOut none))
      | some (_, row) => (db, .revoke row.familyId true)
  | .revoke familyId logout =>
      ({ db with tokens := db.tokens.revokeFamily now familyId },
        .done (if logout then .loggedOut (some familyId) else .tokenReused familyId))
  | .issueInsert userId fresh started =>
      -- the family is named after its first token
      insertToken db.nextId userId fresh (started + ttl) db
  | .done answer => (db, .done answer)

/-! ## Interleaved calls -/

structure World where
  now : Timestamp
  db : Database
  calls : Table Nat Call

inductive Act where
  | issue (i : Nat) (userId : Uuid) (fresh : TokenHash)
  | rotate (i : Nat) (presented fresh : TokenHash)
  | logout (i : Nat) (presented : TokenHash)
  /-- The next statement of a call. -/
  | advance (i : Nat)
  /-- The next statement of a call fails. -/
  | fail (i : Nat)
  | tick (ms : Nat)

namespace World

def init (users : List Uuid) : World where
  now := 0
  db := ⟨users, ∅, 0⟩
  calls := ∅

/-- Starts a call under a new number. -/
def begin (i : Nat) (call : Call) (w : World) : World :=
  if i ∈ w.calls then w else { w with calls := w.calls.insert i call }

variable (ttl : Nat)

def step (w : World) : Act → World
  | .issue i userId fresh => w.begin i (.issueInsert userId fresh w.now)
  | .rotate i presented fresh => w.begin i (.rotateFind presented fresh w.now)
  | .logout i presented => w.begin i (.logoutFind presented)
  | .advance i =>
      match w.calls.lookup i with
      | none => w
      | some call =>
          let (db, call) := Auth.advance ttl w.now w.db call
          { w with db := db, calls := w.calls.insert i call }
  | .fail i =>
      match w.calls.lookup i with
      | none => w
      | some (.done _) => w
      | some _ => { w with calls := w.calls.insert i (.done .failed) }
  | .tick ms => { w with now := w.now + ms }

end World

/-! ## What a statement can do -/

namespace Call

/-- The family of a rotation between its `consume` and its `insert`. -/
def pending : Call → Option Uuid
  | .rotateUser row _ _ => some row.familyId
  | .rotateInsert _ familyId _ _ => some familyId
  | _ => none

/-- The token a rotation is about to consume, with the family it read. -/
def candidate : Call → Option (Uuid × Uuid)
  | .rotateConsume id row _ _ => some (id, row.familyId)
  | _ => none

/-- The family a call is about to revoke. -/
def revoking : Call → Option Uuid
  | .revoke familyId _ => some familyId
  | _ => none

/-- The family a call has brought down: it returned `TokenReused`, or a logout
completed. -/
def killed : Call → Option Uuid
  | .done (.tokenReused familyId) => some familyId
  | .done (.loggedOut familyId) => familyId
  | _ => none

end Call

/-- The row `insert` writes. -/
def newRow (familyId userId : Uuid) (fresh : TokenHash) (expiresAt : Timestamp) :
    RefreshTokenRow :=
  ⟨familyId, userId, fresh, expiresAt, none, none⟩

/-- The insert of a fresh token breaks no constraint of the table. -/
def Database.Accepts (db : Database) (userId : Uuid) (fresh : TokenHash) : Prop :=
  userId ∈ db.users ∧ db.nextId ∉ db.tokens ∧ db.tokens.findByHash fresh = none

theorem insertToken_of_accepts {db : Database} {userId : Uuid} {fresh : TokenHash}
    (h : db.Accepts userId fresh) (familyId : Uuid) (expiresAt : Timestamp) :
    insertToken familyId userId fresh expiresAt db =
      ({ db with
          tokens := AList.insert db.nextId (newRow familyId userId fresh expiresAt) db.tokens
          nextId := db.nextId + 1 },
        .done (.issued db.nextId)) := by
  obtain ⟨huser, hid, hhash⟩ := h
  simp [insertToken, RefreshTokens.insert, huser, hid, hhash, newRow]

theorem insertToken_of_not_accepts {db : Database} {userId : Uuid} {fresh : TokenHash}
    (h : ¬ db.Accepts userId fresh) (familyId : Uuid) (expiresAt : Timestamp) :
    insertToken familyId userId fresh expiresAt db = (db, .done .failed) := by
  unfold insertToken RefreshTokens.insert
  split
  · next huser =>
      rw [if_pos]
      by_contra hfree
      rw [not_or] at hfree
      exact h ⟨huser, hfree.1, by simpa using hfree.2⟩
  · rfl

/-- The four things a statement can do to the tokens and to its call. -/
inductive Effect (ttl : Nat) (now : Timestamp) (db : Database) (call : Call) :
    Database → Call → Prop
  /-- The table is only read. -/
  | read (call' : Call)
      (hpending : ∀ f, call'.pending = some f → call.pending = some f)
      (hcandidate : ∀ id f, call'.candidate = some (id, f) →
        ∃ row, db.tokens.lookup id = some row ∧ row.familyId = f)
      (hrevoking : ∀ f, call'.revoking = some f →
        (∃ id, call.candidate = some (id, f)) ∨
          ∃ id row, db.tokens.lookup id = some row ∧ row.familyId = f)
      (hkilled : ∀ f, call'.killed = some f → call.killed = some f) :
      Effect ttl now db call db call'
  /-- A live token is consumed. -/
  | consumed (id f : Uuid) (row : RefreshTokenRow) (call' : Call)
      (hcandidate : call.candidate = some (id, f))
      (hrow : db.tokens.lookup id = some row) (hlive : row.isLive = true)
      (hcall : call'.pending = some f ∧ call'.candidate = none ∧ call'.revoking = none ∧
        call'.killed = none) :
      Effect ttl now db call { db with tokens := (db.tokens.consume now id).1 } call'
  /-- A fresh token is inserted, by a pending rotation or as the first of its
  family. -/
  | inserted (f userId : Uuid) (fresh : TokenHash) (started : Timestamp)
      (hcall : call = .rotateInsert userId f fresh started ∨
        (call = .issueInsert userId fresh started ∧ f = db.nextId))
      (haccepts : db.Accepts userId fresh) :
      Effect ttl now db call
        { db with
          tokens := AList.insert db.nextId (newRow f userId fresh (started + ttl)) db.tokens
          nextId := db.nextId + 1 }
        (.done (.issued db.nextId))
  /-- A family is revoked. -/
  | revoked (f : Uuid) (call' : Call) (hcall : call.revoking = some f)
      (hkilled : call'.killed = some f)
      (hcall' : call'.pending = none ∧ call'.candidate = none ∧ call'.revoking = none) :
      Effect ttl now db call { db with tokens := db.tokens.revokeFamily now f } call'

section Effects

variable {ttl : Nat} {now : Timestamp} {db : Database}

/-- A statement that leaves the tokens alone and ends its call without bringing a
family down. -/
private theorem effect_done {call : Call} {answer : Answer}
    (hkilled : Call.killed (.done answer) = none) :
    Effect ttl now db call db (.done answer) := by
  refine .read _ ?_ ?_ ?_ ?_
  · intro f h
    cases h
  · intro id f h
    cases h
  · intro f h
    cases h
  · intro f h
    rw [hkilled] at h
    cases h

private theorem effect_insertToken {call : Call} {f userId : Uuid} {fresh : TokenHash}
    {started : Timestamp}
    (hcall : call = .rotateInsert userId f fresh started ∨
      (call = .issueInsert userId fresh started ∧ f = db.nextId)) :
    Effect ttl now db call (insertToken f userId fresh (started + ttl) db).1
      (insertToken f userId fresh (started + ttl) db).2 := by
  by_cases haccepts : db.Accepts userId fresh
  · rw [insertToken_of_accepts haccepts]
    exact .inserted f userId fresh started hcall haccepts
  · rw [insertToken_of_not_accepts haccepts]
    exact effect_done rfl

private theorem effect_decideRotation {presented fresh : TokenHash} {started : Timestamp}
    {id : Uuid} {row : RefreshTokenRow} (hrow : db.tokens.lookup id = some row) :
    Effect ttl now db (.rotateFind presented fresh started) db
      (decideRotation id row fresh started) := by
  unfold decideRotation
  split
  · refine .read _ (fun f h => nomatch h) (fun _ f h => nomatch h) (fun f h => ?_)
      (fun f h => nomatch h)
    exact .inr ⟨id, row, hrow, Option.some.inj h⟩
  · split
    · exact effect_done rfl
    · refine .read _ (fun f h => nomatch h) (fun id' f h => ?_) (fun f h => nomatch h)
        (fun f h => nomatch h)
      obtain ⟨rfl, rfl⟩ := Prod.mk.inj (Option.some.inj h)
      exact ⟨row, hrow, rfl⟩

private theorem effect_consume {id : Uuid} {row : RefreshTokenRow} {fresh : TokenHash}
    {started : Timestamp} :
    Effect ttl now db (.rotateConsume id row fresh started)
      (advance ttl now db (.rotateConsume id row fresh started)).1
      (advance ttl now db (.rotateConsume id row fresh started)).2 := by
  unfold advance
  dsimp only
  split
  · next hwon =>
      unfold RefreshTokens.consume at hwon
      dsimp only at hwon
      split at hwon
      · next row' hrow =>
          exact .consumed id row.familyId row' _ rfl hrow hwon ⟨rfl, rfl, rfl, rfl⟩
      · cases hwon
  · next hlost =>
      -- the guard of `consume` found no live row, so it wrote nothing
      have hsame : { db with tokens := (db.tokens.consume now id).1 } = db := by
        have htokens : (db.tokens.consume now id).1 = db.tokens := by
          refine AList.modify_eq_self fun row' hrow => ?_
          have hdead : row'.isLive = false := by
            simpa [RefreshTokens.consume, hrow] using hlost
          simp [RefreshTokenRow.consume, hdead]
        rw [htokens]
      rw [hsame]
      refine .read _ (fun f h => nomatch h) (fun _ f h => nomatch h) (fun f h => ?_)
        (fun f h => nomatch h)
      exact .inl ⟨id, by rw [← Option.some.inj h]; rfl⟩

/-- Every statement has one of the four effects. -/
theorem advance_effect (call : Call) :
    Effect ttl now db call (advance ttl now db call).1 (advance ttl now db call).2 := by
  cases call with
  | rotateFind presented fresh started =>
      simp only [advance]
      split
      · exact effect_done rfl
      · next id row hfind =>
          exact effect_decideRotation (RefreshTokens.lookup_of_findByHash hfind)
  | rotateConsume id row fresh started => exact effect_consume
  | rotateUser row fresh started =>
      simp only [advance]
      split
      · exact .read _ (fun f h => h) (fun _ f h => nomatch h) (fun f h => nomatch h)
          (fun f h => nomatch h)
      · exact effect_done rfl
  | rotateInsert userId familyId fresh started => exact effect_insertToken (.inl rfl)
  | logoutFind presented =>
      simp only [advance]
      split
      · exact effect_done rfl
      · next id row hfind =>
          refine .read _ (fun f h => nomatch h) (fun _ f h => nomatch h) (fun f h => ?_)
            (fun f h => nomatch h)
          exact .inr ⟨id, row, RefreshTokens.lookup_of_findByHash hfind, Option.some.inj h⟩
  | revoke familyId logout =>
      cases logout with
      | true => exact .revoked familyId _ rfl rfl ⟨rfl, rfl, rfl⟩
      | false => exact .revoked familyId _ rfl rfl ⟨rfl, rfl, rfl⟩
  | issueInsert userId fresh started => exact effect_insertToken (.inr ⟨rfl, rfl⟩)
  | done answer =>
      exact .read _ (fun f h => nomatch h) (fun _ f h => nomatch h) (fun f h => nomatch h)
        (fun f h => h)

end Effects

end Auth
end Ldktela
