import Ldktela.Auth.Session
import Ldktela.Lib.Collected
import Ldktela.Lib.Simulation

/-!
# The daily cleanup of refresh tokens

`run_token_cleanup` in `crates/api/src/jobs.rs`, beside the calls of `Auth.Session`.  The same
calls are run on two databases, one that is cleaned up and one that never is.  Nobody can tell the
two apart who presents no token that expired more than seven days ago, and whose call does not hang
for as long.

A token that is presented later than that is unknown on the first database.  On the second one it
may still give a reuse away.
-/

namespace Ldktela
namespace Auth

open Protocol
open Db
open Runs

/-- The argument `run_token_cleanup` passes. -/
def cleanupGraceDays : Nat := 7

/-- The calls of the server, and the ticks of its daily job. -/
inductive Maintained where
  | session (act : Act)
  | cleanup

namespace World

def cleanup (w : World) : World :=
  { w with db := { w.db with tokens := w.db.tokens.deleteExpired cleanupGraceDays w.now } }

variable (ttl : Nat)

def maintainedStep (w : World) : Maintained → World
  | .session act => w.step ttl act
  | .cleanup => w.cleanup

/-- The same calls with the job switched off. -/
def unmaintainedStep (w : World) : Maintained → World
  | .session act => w.step ttl act
  | .cleanup => w

end World

/-- The row a statement looks for, by its id or by its hash. -/
def Call.sought (t : RefreshTokens) : Call → Option RefreshTokenRow
  | .rotateFind presented _ _ => (t.findByHash presented).map Prod.snd
  | .rotateConsume id _ _ _ => t.lookup id
  | .rotateUser _ _ _ => none
  | .rotateInsert _ _ fresh _ => (t.findByHash fresh).map Prod.snd
  | .logoutFind presented => (t.findByHash presented).map Prod.snd
  | .revoke _ _ => none
  | .issueInsert _ fresh _ => (t.findByHash fresh).map Prod.snd
  | .done _ => none

/-- The row is not one the job may have taken. -/
def Call.seeksRecent (now : Timestamp) (t : RefreshTokens) (call : Call) : Bool :=
  (call.sought t).all fun row => !RefreshTokens.expiredFor cleanupGraceDays now row

/-- No statement looks for a token that expired more than seven days ago. -/
def World.SeeksRecent (w : World) : Maintained → Prop
  | .session (.advance i) => (w.calls.lookup i).all (Call.seeksRecent w.now w.db.tokens) = true
  | _ => True

/-! ## One statement on both tables -/

/-- The rows the job may have taken. -/
def Expired (now : Timestamp) (row : RefreshTokenRow) : Prop :=
  RefreshTokens.expiredFor cleanupGraceDays now row = true

theorem Expired.mono {now later : Timestamp} (h : now ≤ later) {row : RefreshTokenRow}
    (hrow : Expired now row) : Expired later row := by
  unfold Expired RefreshTokens.expiredFor at hrow ⊢
  exact decide_eq_true (lt_of_lt_of_le (of_decide_eq_true hrow) h)

theorem expired_consume {now at_ : Timestamp} {row : RefreshTokenRow} (h : Expired now row) :
    Expired now (row.consume at_) := by
  unfold RefreshTokenRow.consume
  split
  · exact h
  · exact h

theorem expired_revoke {now at_ : Timestamp} {row : RefreshTokenRow} (h : Expired now row) :
    Expired now (row.revoke at_) := by
  unfold RefreshTokenRow.revoke
  split
  · exact h
  · exact h

/-- The database that is never cleaned up, and the one that is. -/
structure CleanedUp (now : Timestamp) (db db' : Database) : Prop where
  users : db'.users = db.users
  nextId : db'.nextId = db.nextId
  tokens : AList.SweptOf (Expired now) db.tokens db'.tokens
  /-- A swept id is not handed out again. -/
  fresh : ∀ id ∈ db.tokens, id < db.nextId

section Statements

variable {ttl : Nat} {now : Timestamp} {t t' : RefreshTokens} {db db' : Database}

theorem findByHash_swept (h : AList.SweptOf (Expired now) t t') {tokenHash : TokenHash}
    (halive : ∀ row, (t.findByHash tokenHash).map Prod.snd = some row → ¬ Expired now row) :
    t'.findByHash tokenHash = t.findByHash tokenHash := by
  unfold RefreshTokens.findByHash at halive ⊢
  rw [h.find?_eq (p := fun row => decide (row.tokenHash = tokenHash)) fun e he => ?_]
  refine halive e.2 ?_
  rw [he]
  rfl

theorem Call.not_expired {call : Call} (h : call.seeksRecent now t = true) {row : RefreshTokenRow}
    (hrow : call.sought t = some row) : ¬ Expired now row := by
  unfold Call.seeksRecent at h
  rw [hrow, Option.all_some, Bool.not_eq_true'] at h
  exact Bool.not_eq_true _ |>.mpr h

namespace CleanedUp

/-- The tokens of both databases changed alike, and no id was handed out. -/
theorem withTokens (h : CleanedUp now db db') (htokens : AList.SweptOf (Expired now) t t')
    (hids : ∀ id ∈ t, id ∈ db.tokens) :
    CleanedUp now { db with tokens := t } { db' with tokens := t' } :=
  ⟨h.users, h.nextId, htokens, fun id hid => h.fresh id (hids id hid)⟩

theorem nextId_notMem (h : CleanedUp now db db') : db.nextId ∉ db.tokens :=
  fun hmem => lt_irrefl _ (h.fresh _ hmem)

theorem consume (h : CleanedUp now db db') (at_ : Timestamp) (id : Uuid) :
    CleanedUp now { db with tokens := (db.tokens.consume at_ id).1 }
      { db' with tokens := (db'.tokens.consume at_ id).1 } := by
  refine h.withTokens (h.tokens.modify id fun _ hrow => expired_consume hrow) fun id' hid => ?_
  rw [← AList.lookup_isSome, RefreshTokens.lookup_consume] at hid
  rw [← AList.lookup_isSome]
  split at hid
  · simpa using hid
  · exact hid

theorem revokeFamily (h : CleanedUp now db db') (at_ : Timestamp) (familyId : Uuid) :
    CleanedUp now { db with tokens := db.tokens.revokeFamily at_ familyId }
      { db' with tokens := db'.tokens.revokeFamily at_ familyId } := by
  refine h.withTokens (h.tokens.mapVal fun _ row hrow => ?_) fun id hid => ?_
  · split
    · exact expired_revoke hrow
    · exact hrow
  · rw [← AList.lookup_isSome, RefreshTokens.lookup_revokeFamily] at hid
    rw [← AList.lookup_isSome]
    simpa using hid

theorem insertToken (h : CleanedUp now db db') {fresh : TokenHash}
    (halive : ∀ row, (db.tokens.findByHash fresh).map Prod.snd = some row → ¬ Expired now row)
    (familyId userId : Uuid) (expiresAt : Timestamp) :
    (Auth.insertToken familyId userId fresh expiresAt db').2 =
        (Auth.insertToken familyId userId fresh expiresAt db).2 ∧
      CleanedUp now (Auth.insertToken familyId userId fresh expiresAt db).1
        (Auth.insertToken familyId userId fresh expiresAt db').1 := by
  have hfind := findByHash_swept h.tokens halive
  have hfree' : db'.nextId ∉ db'.tokens := fun hmem =>
    h.nextId_notMem (h.nextId ▸ h.tokens.mem_of_mem hmem)
  by_cases haccepts : db.Accepts userId fresh
  · have haccepts' : db'.Accepts userId fresh :=
      ⟨h.users.symm ▸ haccepts.1, hfree', hfind.trans haccepts.2.2⟩
    rw [insertToken_of_accepts haccepts, insertToken_of_accepts haccepts', h.nextId]
    refine ⟨rfl, ⟨h.users, rfl, h.tokens.insert haccepts.2.1 _, fun id hid => ?_⟩⟩
    rcases AList.mem_insert _ |>.mp hid with rfl | hold
    · exact Nat.lt_succ_self _
    · exact Nat.lt_succ_of_lt (h.fresh id hold)
  · have haccepts' : ¬ db'.Accepts userId fresh := by
      rintro ⟨huser, -, hnone⟩
      exact haccepts ⟨h.users ▸ huser, h.nextId_notMem, hfind.symm.trans hnone⟩
    rw [insertToken_of_not_accepts haccepts, insertToken_of_not_accepts haccepts']
    exact ⟨rfl, h⟩

/-- A statement answers alike on both databases and keeps them alike. -/
theorem advance (h : CleanedUp now db db') {call : Call}
    (hrecent : call.seeksRecent now db.tokens = true) :
    (Auth.advance ttl now db' call).2 = (Auth.advance ttl now db call).2 ∧
      CleanedUp now (Auth.advance ttl now db call).1 (Auth.advance ttl now db' call).1 := by
  have halive : ∀ row, call.sought db.tokens = some row → ¬ Expired now row :=
    fun _ hrow => call.not_expired hrecent hrow
  cases call with
  | rotateFind presented fresh started =>
      have hfind := findByHash_swept h.tokens halive
      simp only [Auth.advance, hfind]
      cases db.tokens.findByHash presented with
      | none => exact ⟨rfl, h⟩
      | some found => exact ⟨rfl, h⟩
  | rotateConsume id row fresh started =>
      have hwon : (db'.tokens.consume now id).2 = (db.tokens.consume now id).2 := by
        unfold RefreshTokens.consume
        rw [h.tokens.lookup_eq halive]
      simp only [Auth.advance, hwon]
      split
      · exact ⟨rfl, h.consume now id⟩
      · exact ⟨rfl, h.consume now id⟩
  | rotateUser row fresh started =>
      simp only [Auth.advance, h.users]
      split
      · exact ⟨rfl, h⟩
      · exact ⟨rfl, h⟩
  | rotateInsert userId familyId fresh started =>
      exact h.insertToken halive familyId userId (started + ttl)
  | logoutFind presented =>
      have hfind := findByHash_swept h.tokens halive
      simp only [Auth.advance, hfind]
      cases db.tokens.findByHash presented with
      | none => exact ⟨rfl, h⟩
      | some found => exact ⟨rfl, h⟩
  | revoke familyId logout => exact ⟨rfl, h.revokeFamily now familyId⟩
  | issueInsert userId fresh started =>
      simp only [Auth.advance, h.nextId]
      exact h.insertToken halive db.nextId userId (started + ttl)
  | done answer => exact ⟨rfl, h⟩

theorem later {later : Timestamp} (h : CleanedUp now db db') (hle : now ≤ later) :
    CleanedUp later db db' :=
  ⟨h.users, h.nextId, h.tokens.mono fun _ hrow => hrow.mono hle, h.fresh⟩

end CleanedUp

end Statements

/-! ## Runs -/

/-- The two worlds after the same calls. -/
structure World.Alike (w w' : World) : Prop where
  now : w'.now = w.now
  calls : w'.calls = w.calls
  db : CleanedUp w.now w.db w'.db

namespace World

theorem alike_begin {w w' : World} (h : Alike w w') (i : Nat) (call : Call) :
    Alike (w.begin i call) (w'.begin i call) := by
  unfold begin
  rw [h.calls]
  split
  · exact h
  · exact ⟨h.now, rfl, h.db⟩

theorem alike_step {ttl : Nat} {w w' : World} {act : Act} (h : Alike w w')
    (hrecent : w.SeeksRecent (.session act)) : Alike (w.step ttl act) (w'.step ttl act) := by
  cases act with
  | issue i userId fresh =>
      simp only [step, h.now]
      exact alike_begin h i _
  | rotate i presented fresh =>
      simp only [step, h.now]
      exact alike_begin h i _
  | logout i presented => exact alike_begin h i _
  | advance i =>
      simp only [step, h.now, h.calls]
      rw [SeeksRecent] at hrecent
      cases hcall : w.calls.lookup i with
      | none => exact h
      | some call =>
          have hseeks : call.seeksRecent w.now w.db.tokens = true := by
            rw [hcall, Option.all_some] at hrecent
            exact hrecent
          obtain ⟨hanswer, hdb⟩ := CleanedUp.advance h.db hseeks
          dsimp only
          exact ⟨rfl, congrArg (w.calls.insert i) hanswer, hdb⟩
  | fail i =>
      simp only [step, h.calls]
      cases w.calls.lookup i with
      | none => exact h
      | some call =>
          cases call with
          | done answer => exact h
          | _ => exact ⟨h.now, rfl, h.db⟩
  | tick ms =>
      exact ⟨congrArg (· + ms) h.now, h.calls, h.db.later (Nat.le_add_right _ ms)⟩

theorem alike_cleanup {w w' : World} (h : Alike w w') : Alike w w'.cleanup := by
  refine ⟨h.now, h.calls, ⟨h.db.users, h.db.nextId, ?_, h.db.fresh⟩⟩
  show AList.SweptOf (Expired w.now) w.db.tokens (w'.db.tokens.retain fun _ row =>
    !RefreshTokens.expiredFor cleanupGraceDays w'.now row)
  rw [h.now]
  refine AList.SweptOf.retain (p := fun row => !RefreshTokens.expiredFor cleanupGraceDays w.now row)
    h.db.tokens fun row hrow => ?_
  rw [Bool.not_eq_false'] at hrow
  exact hrow

theorem alike_init (users : List Uuid) : Alike (init users) (init users) :=
  ⟨rfl, rfl, rfl, rfl, AList.SweptOf.refl _ _, fun _ hid => absurd hid (AList.notMem_empty _)⟩

/-- The daily cleanup is invisible: with it and without it every call gets the same answer, at
every moment of every run in which no statement looks for a token that expired more than seven days
before. -/
theorem answers_maintained (ttl : Nat) (users : List Uuid) (acts : List Maintained)
    (hrecent : EachStep (unmaintainedStep ttl) SeeksRecent (init users) acts) (k : Nat) :
    (run (maintainedStep ttl) (init users) (acts.take k)).calls =
      (run (unmaintainedStep ttl) (init users) (acts.take k)).calls := by
  refine (run_related_take (R := Alike) (fun w w' act h hok => ?_) (alike_init users)
    hrecent k).calls
  cases act with
  | session act => exact alike_step h hok
  | cleanup => exact alike_cleanup h

/-- A token of one second, swept after it has been good for nothing for eight days. -/
theorem answers_maintained_after_sweep :
    EachStep (unmaintainedStep 1000) SeeksRecent (init [1])
        [.session (.issue 0 1 5), .session (.advance 0), .session (.tick 691202000), .cleanup,
          .session (.rotate 1 6 7), .session (.advance 1)] ∧
      (run (maintainedStep 1000) (init [1])
          [.session (.issue 0 1 5), .session (.advance 0), .session (.tick 691202000), .cleanup,
            .session (.rotate 1 6 7), .session (.advance 1)]).calls =
        (run (unmaintainedStep 1000) (init [1])
          [.session (.issue 0 1 5), .session (.advance 0), .session (.tick 691202000), .cleanup,
            .session (.rotate 1 6 7), .session (.advance 1)]).calls :=
  have hrecent : EachStep (unmaintainedStep 1000) SeeksRecent (init [1])
      [.session (.issue 0 1 5), .session (.advance 0), .session (.tick 691202000), .cleanup,
        .session (.rotate 1 6 7), .session (.advance 1)] := by
    simp only [EachStep, SeeksRecent]
    decide
  ⟨hrecent, answers_maintained 1000 [1] _ hrecent 6⟩

end World

end Auth
end Ldktela
