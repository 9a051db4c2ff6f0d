import Ldktela.Api.Concealment
import Ldktela.Auth.Cleanup
import Ldktela.Auth.Exchange

/-!
# Accounts and the families of their tokens

The table of `crates/db/src/repo/users.rs` under `upsert_from_discord`, and the refresh tokens under
everything the server does with them but starting a family: no statement of either moves a row to
another account.
-/

namespace Ldktela
namespace Auth

open Protocol
open Db
open Api (upsertFromDiscord)

/-! ## The accounts -/

namespace SignIn

open Pair (findByDiscordId)

/-- The account has a row. -/
def Known (users : Users) (account : Snowflake) : Prop :=
  ∃ id profile, users.lookup id = some profile ∧ profile.discordUserId = account

/-- `discord_user_id` is unique. -/
def OneRowEach (users : Users) : Prop :=
  ∀ id id' profile profile', users.lookup id = some profile → users.lookup id' = some profile' →
    profile.discordUserId = profile'.discordUserId → id = id'

/-- The rows stay, each with its account. -/
def Keeps (users users' : Users) : Prop :=
  ∀ id profile, users.lookup id = some profile →
    ∃ profile', users'.lookup id = some profile' ∧
      profile'.discordUserId = profile.discordUserId

section Accounts

variable {users users' users'' : Users} {account : Snowflake} {id : Uuid} {profile : UserRow}

theorem Keeps.refl (users : Users) : Keeps users users :=
  fun _ profile h => ⟨profile, h, rfl⟩

theorem Keeps.trans (h : Keeps users users') (h' : Keeps users' users'') : Keeps users users'' := by
  intro id profile hrow
  obtain ⟨profile', hrow', heq⟩ := h id profile hrow
  obtain ⟨profile'', hrow'', heq'⟩ := h' id profile' hrow'
  exact ⟨profile'', hrow'', heq'.trans heq⟩

theorem Keeps.known (h : Keeps users users') (hknown : Known users account) :
    Known users' account := by
  obtain ⟨id, profile, hrow, rfl⟩ := hknown
  obtain ⟨profile', hrow', heq⟩ := h id profile hrow
  exact ⟨id, profile', hrow', heq⟩

theorem exists_of_findByDiscordId (h : findByDiscordId account users = some id) :
    ∃ profile, users.lookup id = some profile ∧ profile.discordUserId = account := by
  obtain ⟨entry, hfind, rfl⟩ := Option.map_eq_some_iff.mp h
  exact ⟨entry.2, AList.mem_entries_iff.mp (List.mem_of_find?_eq_some hfind), by
    simpa using List.find?_some hfind⟩

theorem findByDiscordId_ne_none (h : Known users account) :
    findByDiscordId account users ≠ none := by
  obtain ⟨id, profile, hrow, haccount⟩ := h
  intro hnone
  have hmiss := List.find?_eq_none.mp (Option.map_eq_none_iff.mp hnone) ⟨id, profile⟩
    (AList.mem_entries_iff.mpr hrow)
  exact hmiss (by simpa using haccount)

/-- An account that is known keeps its id, and a new one gets an id of its own. -/
theorem upsertFromDiscord_cases (id : Uuid) (profile : UserRow) (users : Users) :
    (∃ known old, users.lookup known = some old ∧ old.discordUserId = profile.discordUserId ∧
        upsertFromDiscord id profile users = users.insert known profile) ∨
      (¬ Known users profile.discordUserId ∧
        (upsertFromDiscord id profile users = users ∨
          (users.lookup id = none ∧
            upsertFromDiscord id profile users = users.insert id profile))) := by
  unfold upsertFromDiscord
  cases hfind : users.entries.find? fun entry => entry.2.discordUserId = profile.discordUserId with
  | some entry =>
      exact .inl ⟨entry.1, entry.2, AList.mem_entries_iff.mp (List.mem_of_find?_eq_some hfind), by
        simpa using List.find?_some hfind, rfl⟩
  | none =>
      refine .inr ⟨?_, ?_⟩
      · rintro ⟨other, row, hrow, haccount⟩
        have hmiss := List.find?_eq_none.mp hfind ⟨other, row⟩ (AList.mem_entries_iff.mpr hrow)
        exact hmiss (by simpa using haccount)
      · dsimp only
        split
        · exact .inl rfl
        · next hfree => exact .inr ⟨AList.lookup_eq_none.mpr hfree, rfl⟩

theorem keeps_upsertFromDiscord (id : Uuid) (profile : UserRow) (users : Users) :
    Keeps users (upsertFromDiscord id profile users) := by
  intro other row hrow
  rcases upsertFromDiscord_cases id profile users with
    ⟨known, old, hold, haccount, heq⟩ | ⟨-, heq | ⟨hfree, heq⟩⟩
  · rw [heq, AList.lookup_insert_ite]
    split
    · next hsame =>
        subst hsame
        rw [hrow] at hold
        exact ⟨profile, rfl, (Option.some.inj hold ▸ haccount).symm⟩
    · exact ⟨row, hrow, rfl⟩
  · rw [heq]
    exact ⟨row, hrow, rfl⟩
  · rw [heq, AList.lookup_insert_ite, if_neg]
    · exact ⟨row, hrow, rfl⟩
    · rintro rfl
      rw [hfree] at hrow
      cases hrow

theorem oneRowEach_upsertFromDiscord (h : OneRowEach users) (id : Uuid) (profile : UserRow) :
    OneRowEach (upsertFromDiscord id profile users) := by
  have hinsert : ∀ owner, (∀ other row, users.lookup other = some row →
      row.discordUserId = profile.discordUserId → other = owner) →
        OneRowEach (users.insert owner profile) := by
    intro owner hother a b pa pb ha hb heq
    rw [AList.lookup_insert_ite] at ha hb
    split at ha <;> split at hb
    · next hleft hright => exact hleft.trans hright.symm
    · next hleft hright =>
        rw [← Option.some.inj ha] at heq
        exact hleft.trans (hother b pb hb heq.symm).symm
    · next hleft hright =>
        rw [← Option.some.inj hb] at heq
        exact (hother a pa ha heq).trans hright.symm
    · exact h a b pa pb ha hb heq
  rcases upsertFromDiscord_cases id profile users with
    ⟨known, old, hold, haccount, heq⟩ | ⟨hunknown, heq | ⟨hfree, heq⟩⟩
  · rw [heq]
    exact hinsert known fun other row hrow hrowAccount =>
      h other known row old hrow hold (hrowAccount.trans haccount.symm)
  · rw [heq]
    exact h
  · rw [heq]
    exact hinsert id fun other row hrow hrowAccount =>
      absurd ⟨other, row, hrow, hrowAccount⟩ hunknown

end Accounts

/-! ## The families of the tokens -/

/-- `P` holds of the family and the user that the rest of the call works for. -/
def CallOwned (P : Uuid → Uuid → Prop) : Call → Prop
  | .rotateConsume _ row _ _ => P row.familyId row.userId
  | .rotateUser row _ _ => P row.familyId row.userId
  | .rotateInsert userId familyId _ _ => P familyId userId
  -- `issue_session` starts families
  | .issueInsert _ _ _ => False
  | _ => True

/-- `P` holds of the family and the user of every token. -/
structure Owned (P : Uuid → Uuid → Prop) (w : World) : Prop where
  rows : ∀ id row, w.db.tokens.lookup id = some row → P row.familyId row.userId
  calls : ∀ i call, w.calls.lookup i = some call → CallOwned P call

namespace Owned

variable {P P' : Uuid → Uuid → Prop} {w : World} {t : RefreshTokens}

theorem mono (h : Owned P w) (himp : ∀ f u, P f u → P' f u) : Owned P' w := by
  refine ⟨fun id row hrow => himp _ _ (h.rows id row hrow), fun i call hcall => ?_⟩
  have hold := h.calls i call hcall
  cases call with
  | rotateConsume id row fresh started => exact himp _ _ hold
  | rotateUser row fresh started => exact himp _ _ hold
  | rotateInsert userId familyId fresh started => exact himp _ _ hold
  | issueInsert userId fresh started => exact hold
  | _ => trivial

/-- What the statements do to a row keeps its family and its user. -/
theorem rows_of_old (h : Owned P w)
    (hold : ∀ id row, t.lookup id = some row → ∃ old, w.db.tokens.lookup id = some old ∧
      row.familyId = old.familyId ∧ row.userId = old.userId) :
    ∀ id row, t.lookup id = some row → P row.familyId row.userId := by
  intro id row hrow
  obtain ⟨old, hlookup, hfamily, huser⟩ := hold id row hrow
  rw [hfamily, huser]
  exact h.rows id old hlookup

theorem rows_insertToken (h : Owned P w) {familyId userId : Uuid} (hP : P familyId userId)
    (fresh : TokenHash) (expiresAt : Timestamp) :
    (∀ id row, (insertToken familyId userId fresh expiresAt w.db).1.tokens.lookup id = some row →
        P row.familyId row.userId) ∧
      CallOwned P (insertToken familyId userId fresh expiresAt w.db).2 := by
  by_cases haccepts : w.db.Accepts userId fresh
  · rw [insertToken_of_accepts haccepts]
    refine ⟨fun id row hrow => ?_, trivial⟩
    rw [AList.lookup_insert_ite] at hrow
    split at hrow
    · rw [← Option.some.inj hrow]
      exact hP
    · exact h.rows id row hrow
  · rw [insertToken_of_not_accepts haccepts]
    exact ⟨h.rows, trivial⟩

/-- No statement of a call that is under way moves a token to another family or user. -/
theorem advance (h : Owned P w) (ttl : Nat) {call : Call} (hcall : CallOwned P call) :
    (∀ id row, (Auth.advance ttl w.now w.db call).1.tokens.lookup id = some row →
        P row.familyId row.userId) ∧
      CallOwned P (Auth.advance ttl w.now w.db call).2 := by
  cases call with
  | rotateFind presented fresh started =>
      simp only [Auth.advance]
      split
      · exact ⟨h.rows, trivial⟩
      · next id row hfind =>
          refine ⟨h.rows, ?_⟩
          dsimp only [decideRotation]
          split
          · trivial
          · split
            · trivial
            · exact h.rows id row (RefreshTokens.lookup_of_findByHash hfind)
  | rotateConsume id row fresh started =>
      have hrows := h.rows_of_old (t := (w.db.tokens.consume w.now id).1) fun id' row' hrow' => by
        rw [RefreshTokens.lookup_consume] at hrow'
        split at hrow'
        · obtain ⟨old, hold, rfl⟩ := Option.map_eq_some_iff.mp hrow'
          refine ⟨old, hold, old.consume_familyId w.now, ?_⟩
          unfold RefreshTokenRow.consume
          split
          · rfl
          · rfl
        · exact ⟨row', hrow', rfl, rfl⟩
      simp only [Auth.advance]
      split
      · exact ⟨hrows, hcall⟩
      · exact ⟨hrows, trivial⟩
  | rotateUser row fresh started =>
      simp only [Auth.advance]
      split
      · exact ⟨h.rows, hcall⟩
      · exact ⟨h.rows, trivial⟩
  | rotateInsert userId familyId fresh started => exact h.rows_insertToken hcall fresh _
  | logoutFind presented =>
      simp only [Auth.advance]
      split
      · exact ⟨h.rows, trivial⟩
      · exact ⟨h.rows, trivial⟩
  | revoke familyId logout =>
      refine ⟨h.rows_of_old fun id row hrow => ?_, trivial⟩
      rw [Auth.advance, RefreshTokens.lookup_revokeFamily] at hrow
      obtain ⟨old, hold, rfl⟩ := Option.map_eq_some_iff.mp hrow
      refine ⟨old, hold, ?_⟩
      split
      · refine ⟨old.revoke_familyId w.now, ?_⟩
        unfold RefreshTokenRow.revoke
        split
        · rfl
        · rfl
      · exact ⟨rfl, rfl⟩
  | issueInsert userId fresh started => exact hcall.elim
  | done answer => exact ⟨h.rows, trivial⟩

theorem withCall (h : Owned P w) (i : Nat) {call : Call} (hcall : CallOwned P call) :
    ∀ j c, (w.calls.insert i call).lookup j = some c → CallOwned P c := by
  intro j c hc
  rw [AList.lookup_insert_ite] at hc
  split at hc
  · rw [← Option.some.inj hc]
    exact hcall
  · exact h.calls j c hc

theorem begin (h : Owned P w) (i : Nat) {call : Call} (hcall : CallOwned P call) :
    Owned P (w.begin i call) := by
  unfold World.begin
  split
  · exact h
  · exact ⟨h.rows, h.withCall i hcall⟩

end Owned

/-- What the server does with the tokens on its own: rotations, logouts and the cleanup. -/
def isOwn : Maintained → Bool
  | .session (.issue _ _ _) => false
  | _ => true

theorem owned_maintainedStep {P : Uuid → Uuid → Prop} {w : World} (h : Owned P w) (ttl : Nat)
    {act : Maintained} (hown : isOwn act = true) : Owned P (w.maintainedStep ttl act) := by
  cases act with
  | cleanup =>
      refine ⟨h.rows_of_old fun id row hrow => ?_, h.calls⟩
      rw [World.maintainedStep, World.cleanup, RefreshTokens.deleteExpired, AList.lookup_retain,
        Option.filter_eq_some_iff] at hrow
      exact ⟨row, hrow.1, rfl, rfl⟩
  | session act =>
      cases act with
      | issue i userId fresh => cases hown
      | rotate i presented fresh => exact h.begin i trivial
      | logout i presented => exact h.begin i trivial
      | advance i =>
          simp only [World.maintainedStep, World.step]
          cases hcall : w.calls.lookup i with
          | none => exact h
          | some call =>
              obtain ⟨hrows, hnext⟩ := h.advance ttl (h.calls i call hcall)
              exact ⟨hrows, h.withCall i hnext⟩
      | fail i =>
          simp only [World.maintainedStep, World.step]
          split
          · exact h
          · exact h
          · exact ⟨h.rows, h.withCall i trivial⟩
      | tick ms => exact ⟨h.rows, h.calls⟩

end SignIn

end Auth
end Ldktela
