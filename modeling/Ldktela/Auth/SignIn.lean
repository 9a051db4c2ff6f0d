import Ldktela.Auth.Ownership
import Ldktela.Bot.Pairing

/-!
# Who a pairing code signs in

From `/tela` to the refresh token: `build_reply` of `crates/bot/src/pairing.rs`, the table of
`crates/db/src/repo/users.rs`, `pair` of `crates/api/src/routes/auth.rs`, the rotations of
`crates/api/src/auth/session.rs` and both cleanups of `crates/api/src/jobs.rs`, each taken apart at
its statements and in any order.  Any statement may fail, and the clocks of the three parts advance
on their own.

A code is known by its hash only, so what is proved of a token names the codes with the hash that
was presented.
-/

namespace Ldktela
namespace Auth

open Protocol
open Db
open Runs
open Api (upsertFromDiscord)

namespace SignIn

open Pair (findByDiscordId)

/-! ## Bot, server and database -/

/-- A code that `/tela` has shown to somebody. -/
structure Shown where
  code : List Char
  discordUserId : Snowflake

/-- A request of `pair` that has consumed a code. -/
inductive PairStage where
  /-- `find_by_discord_id` comes next. -/
  | consumed (code : ConsumedCode)
  /-- `issue_session` comes next. -/
  | found (userId : Uuid)
  | issued (familyId : Uuid)
  /-- The account of the code has no row. -/
  | internal
  /-- A statement failed. -/
  | failed

structure PairCall where
  /-- What was presented, normalized. -/
  code : List Char
  stage : PairStage

structure State where
  pairing : Bot.Pairing.State
  users : Users
  sessions : World
  /-- The commands that have refreshed their account and have no code yet. -/
  registered : List Bot.Pairing.Request
  shown : List Shown
  pairs : Table Nat PairCall

inductive SignInAct where
  /-- A step of the bot, other than the two below. -/
  | bot (act : Bot.Pairing.Act)
  /-- `upsert_from_discord`, with the profile of the command. -/
  | register (request : Bot.Pairing.Request) (id : Uuid) (username : String)
      (displayName avatarUrl : Option String)
  /-- `pairing::insert`, and the answer that shows the code. -/
  | insert (request : Bot.Pairing.Request) (id : Uuid) (code : List Char)
  /-- `POST /auth/pair` up to `consume`. -/
  | pair (n : Nat) (now : Timestamp) (code : List Char)
  | findUser (n : Nat)
  | issue (n : Nat) (fresh : TokenHash)
  /-- The next statement of a request fails. -/
  | fail (n : Nat)
  | session (act : Maintained)

namespace State

def new (clock : Timestamp) : State :=
  ⟨.fresh clock, ∅, .init [], [], [], ∅⟩

variable (config : Bot.Pairing.DiscordConfig) (ttl : Nat) (hashCode : List Char → CodeHash)

def bot (act : Bot.Pairing.Act) (s : State) : State :=
  match act with
  | .insert _ _ _ => s
  | .consume _ _ => s
  | act => { s with pairing := s.pairing.step config act }

def register (request : Bot.Pairing.Request) (id : Uuid) (profile : UserRow) (s : State) : State :=
  if request ∈ s.pairing.allowed then
    let users := upsertFromDiscord id profile s.users
    match findByDiscordId profile.discordUserId users with
    | none => { s with pairing := s.pairing.fail request }
    | some _ =>
        { s with
          users := users
          sessions := { s.sessions with db := { s.sessions.db with users := users.keys } }
          registered := request :: s.registered }
  else
    s

def insert (request : Bot.Pairing.Request) (id : Uuid) (code : List Char) (s : State) : State :=
  if request ∈ s.registered ∧ request ∈ s.pairing.allowed then
    let row := s.pairing.codes.insert id (hashCode code) request.discordUserId
      request.discordGuildId (request.now + config.pairingCodeTtl * 1000) s.pairing.clock
    { s with
      pairing := s.pairing.insert config request id (hashCode code)
      registered := s.registered.erase request
      shown := if row.isSome then ⟨code, request.discordUserId⟩ :: s.shown else s.shown }
  else
    s

def pair (n : Nat) (now : Timestamp) (code : List Char) (s : State) : State :=
  match Pair.pairingCode (Pair.normalized code) with
  | .error _ => s
  | .ok () =>
      -- what read the clock earlier may come later
      if n ∈ s.pairs ∨ s.pairing.clock < now then s
      else
        match (s.pairing.codes.bare.consume (hashCode (Pair.normalized code)) now).2 with
        | none => s
        | some consumed =>
            { s with
              pairing := s.pairing.consume (hashCode (Pair.normalized code)) now
              pairs := s.pairs.insert n ⟨Pair.normalized code, .consumed consumed⟩ }

def setStage (n : Nat) (stage : PairStage) (s : State) : State :=
  { s with pairs := s.pairs.modify n fun call => { call with stage } }

def findUser (n : Nat) (s : State) : State :=
  match (s.pairs.lookup n).map PairCall.stage with
  | some (.consumed code) =>
      match findByDiscordId code.discordUserId s.users with
      | none => s.setStage n .internal
      | some userId => s.setStage n (.found userId)
  | _ => s

def issue (n : Nat) (fresh : TokenHash) (s : State) : State :=
  match (s.pairs.lookup n).map PairCall.stage with
  | some (.found userId) =>
      -- the family is named after its first token
      match insertToken s.sessions.db.nextId userId fresh (s.sessions.now + ttl) s.sessions.db with
      | (db, .done (.issued id)) =>
          { s with sessions := { s.sessions with db } }.setStage n (.issued id)
      | _ => s.setStage n .failed
  | _ => s

def fail (n : Nat) (s : State) : State :=
  match (s.pairs.lookup n).map PairCall.stage with
  | some (.consumed _) => s.setStage n .failed
  | some (.found _) => s.setStage n .failed
  | _ => s

def step (s : State) : SignInAct → State
  | .bot act => s.bot config act
  | .register request id username displayName avatarUrl =>
      s.register request id ⟨request.discordUserId, username, displayName, avatarUrl⟩
  | .insert request id code => s.insert config hashCode request id code
  | .pair n now code => s.pair hashCode n now code
  | .findUser n => s.findUser n
  | .issue n fresh => s.issue ttl n fresh
  | .fail n => s.fail n
  | .session act =>
      if isOwn act then { s with sessions := s.sessions.maintainedStep ttl act } else s

end State

/-! ## What every run keeps -/

variable (hashCode : List Char → CodeHash)

/-- A code of this hash was shown to the account. -/
def ShownTo (s : State) (codeHash : CodeHash) (account : Snowflake) : Prop :=
  ∃ sh ∈ s.shown, hashCode sh.code = codeHash ∧ sh.discordUserId = account

/-- The user is the account to which the code of the request was shown. -/
def Rightful (s : State) (code : List Char) (userId : Uuid) : Prop :=
  ∃ profile, s.users.lookup userId = some profile ∧
    ShownTo hashCode s (hashCode code) profile.discordUserId

/-- The family was started by a request, for the user its code was shown to. -/
def Earned (s : State) (familyId userId : Uuid) : Prop :=
  ∃ n code, s.pairs.lookup n = some ⟨code, .issued familyId⟩ ∧ Rightful hashCode s code userId

/-- What a request that is under way has in hand. -/
def PairCall.Right (s : State) (call : PairCall) : Prop :=
  match call.stage with
  | .consumed code => Known s.users code.discordUserId ∧
      ShownTo hashCode s (hashCode call.code) code.discordUserId
  | .found userId => Rightful hashCode s call.code userId
  | .internal => False
  | _ => True

/-- The code may still be consumed. -/
def Unspent (codes : IssuedCodes) (codeHash : CodeHash) : Prop :=
  ∃ id row, codes.lookup id = some row ∧ row.codeHash = codeHash ∧ row.consumedAt = none

/-- The requests that have consumed a code of this hash. -/
def spentOn (s : State) (codeHash : CodeHash) : Nat :=
  s.pairs.vals.countP fun call => hashCode call.code = codeHash

def shownOf (s : State) (codeHash : CodeHash) : Nat :=
  s.shown.countP fun sh => hashCode sh.code = codeHash

structure Inv (s : State) : Prop where
  accounts : OneRowEach s.users
  registered : ∀ request ∈ s.registered, Known s.users request.discordUserId
  /-- `code_hash` is unique. -/
  hashes : ∀ id id' row row', s.pairing.codes.lookup id = some row →
    s.pairing.codes.lookup id' = some row' → row.codeHash = row'.codeHash → id = id'
  codes : ∀ id row, s.pairing.codes.lookup id = some row →
    Known s.users row.discordUserId ∧ ShownTo hashCode s row.codeHash row.discordUserId
  pairs : ∀ n call, s.pairs.lookup n = some call → call.Right hashCode s
  owned : Owned (Earned hashCode s) s.sessions
  once : ∀ codeHash, spentOn hashCode s codeHash ≤ shownOf hashCode s codeHash ∧
    (Unspent s.pairing.codes codeHash → spentOn hashCode s codeHash < shownOf hashCode s codeHash)

section Steps

variable {hashCode} {s s' : State}

/-- Nothing that a request relies on is lost. -/
structure Grows (s s' : State) : Prop where
  users : Keeps s.users s'.users
  shown : ∀ sh ∈ s.shown, sh ∈ s'.shown
  issued : ∀ n code f, s.pairs.lookup n = some ⟨code, .issued f⟩ →
    s'.pairs.lookup n = some ⟨code, .issued f⟩

theorem Grows.shownTo (h : Grows s s') {codeHash : CodeHash} {account : Snowflake}
    (hshown : ShownTo hashCode s codeHash account) : ShownTo hashCode s' codeHash account := by
  obtain ⟨sh, hmem, hsh⟩ := hshown
  exact ⟨sh, h.shown sh hmem, hsh⟩

theorem Grows.rightful (h : Grows s s') {code : List Char} {userId : Uuid}
    (hright : Rightful hashCode s code userId) : Rightful hashCode s' code userId := by
  obtain ⟨profile, hrow, hshown⟩ := hright
  obtain ⟨profile', hrow', heq⟩ := h.users userId profile hrow
  exact ⟨profile', hrow', heq.symm ▸ h.shownTo hshown⟩

theorem Grows.earned (h : Grows s s') {familyId userId : Uuid}
    (hearned : Earned hashCode s familyId userId) : Earned hashCode s' familyId userId := by
  obtain ⟨n, code, hcall, hright⟩ := hearned
  exact ⟨n, code, h.issued n code familyId hcall, h.rightful hright⟩

theorem Grows.right (h : Grows s s') {call : PairCall} (hright : call.Right hashCode s) :
    call.Right hashCode s' := by
  obtain ⟨code, stage⟩ := call
  cases stage with
  | consumed consumed => exact ⟨h.users.known hright.1, h.shownTo hright.2⟩
  | found userId => exact h.rightful hright
  | issued familyId => trivial
  | internal => exact hright
  | failed => trivial

theorem Grows.code (h : Grows s s') {row : CodeRow}
    (hrow : Known s.users row.discordUserId ∧
      ShownTo hashCode s row.codeHash row.discordUserId) :
    Known s'.users row.discordUserId ∧ ShownTo hashCode s' row.codeHash row.discordUserId :=
  ⟨h.users.known hrow.1, h.shownTo hrow.2⟩

/-- A step of the bot that adds no code. -/
theorem Inv.withPairing (h : Inv hashCode s) (pairing : Bot.Pairing.State)
    (hcodes : ∀ id row, pairing.codes.lookup id = some row →
      s.pairing.codes.lookup id = some row) : Inv hashCode { s with pairing } where
  accounts := h.accounts
  registered := h.registered
  hashes := fun id id' row row' hrow hrow' =>
    h.hashes id id' row row' (hcodes id row hrow) (hcodes id' row' hrow')
  codes := fun id row hrow => h.codes id row (hcodes id row hrow)
  pairs := h.pairs
  owned := h.owned
  once := fun codeHash => by
    refine ⟨(h.once codeHash).1, fun hunspent => (h.once codeHash).2 ?_⟩
    obtain ⟨id, row, hrow, hhash⟩ := hunspent
    exact ⟨id, row, hcodes id row hrow, hhash⟩

theorem Inv.bot (h : Inv hashCode s) (config : Bot.Pairing.DiscordConfig)
    (act : Bot.Pairing.Act) : Inv hashCode (s.bot config act) := by
  cases act with
  | tick milliseconds => exact h.withPairing _ fun _ _ hrow => hrow
  | command account guildId =>
      refine h.withPairing _ fun id row hrow => ?_
      simp only [Bot.Pairing.State.step, Bot.Pairing.State.command] at hrow
      split at hrow
      · exact hrow
      · split at hrow
        · exact hrow
        · exact hrow
  | count request =>
      refine h.withPairing _ fun id row hrow => ?_
      simp only [Bot.Pairing.State.step, Bot.Pairing.State.count] at hrow
      split at hrow
      · split at hrow
        · exact hrow
        · exact hrow
      · exact hrow
  | insert request id codeHash => exact h
  | fail request => exact h.withPairing _ fun _ _ hrow => hrow
  | consume codeHash now => exact h
  | cleanup now =>
      refine h.withPairing _ fun id row hrow => ?_
      simp only [Bot.Pairing.State.step, Bot.Pairing.State.cleanup] at hrow
      split at hrow
      · rw [IssuedCodes.deleteExpired, AList.lookup_retain, Option.filter_eq_some_iff] at hrow
        exact hrow.1
      · exact hrow

theorem Inv.register (h : Inv hashCode s) (request : Bot.Pairing.Request) (id : Uuid)
    {profile : UserRow} (hprofile : profile.discordUserId = request.discordUserId) :
    Inv hashCode (s.register request id profile) := by
  unfold State.register
  split
  · dsimp only
    split
    · exact h.withPairing _ fun _ _ hrow => hrow
    · next userId hfind =>
        have hkeeps := keeps_upsertFromDiscord id profile s.users
        have hgrows : ∀ sessions registered, Grows s
            { s with users := upsertFromDiscord id profile s.users, sessions, registered } :=
          fun _ _ => ⟨hkeeps, fun _ hmem => hmem, fun _ _ _ hcall => hcall⟩
        exact {
          accounts := oneRowEach_upsertFromDiscord h.accounts id profile
          registered := List.forall_mem_cons.mpr ⟨by
            obtain ⟨row, hrow, haccount⟩ := exists_of_findByDiscordId hfind
            exact ⟨userId, row, hrow, haccount.trans hprofile⟩,
            fun other hmem => hkeeps.known (h.registered other hmem)⟩
          hashes := h.hashes
          codes := fun id row hrow => (hgrows _ _).code (h.codes id row hrow)
          pairs := fun n call hcall => (hgrows _ _).right (h.pairs n call hcall)
          owned := Owned.mono ⟨h.owned.rows, h.owned.calls⟩ fun _ _ => (hgrows _ _).earned
          once := h.once }
  · exact h

/-- What an insert into the table of codes has found and written. -/
theorem of_insert_codes {t t' : IssuedCodes} {id : Uuid} {codeHash : CodeHash}
    {account guild : Snowflake} {expiresAt now : Timestamp}
    (h : t.insert id codeHash account guild expiresAt now = some t') :
    (∀ k row, t.lookup k = some row → row.codeHash ≠ codeHash) ∧
      ∀ k, t'.lookup k =
        if k = id then some ⟨⟨codeHash, account, guild, expiresAt, none⟩, now⟩ else t.lookup k := by
  unfold IssuedCodes.insert at h
  split at h
  · cases h
  · next hfree =>
      simp only [Bool.or_eq_true, List.any_eq_true, decide_eq_true_eq, not_or, not_exists,
        not_and] at hfree
      refine ⟨fun k row hrow => hfree.2 row (AList.mem_vals_iff.mpr ⟨k, hrow⟩), fun k => ?_⟩
      rw [← Option.some.inj h, AList.lookup_insert_ite]

theorem Inv.insert (h : Inv hashCode s) (config : Bot.Pairing.DiscordConfig)
    (request : Bot.Pairing.Request) (id : Uuid) (code : List Char) :
    Inv hashCode (s.insert config hashCode request id code) := by
  unfold State.insert
  split
  · next hmem =>
      have hregistered : ∀ r ∈ s.registered.erase request, Known s.users r.discordUserId :=
        fun r hr => h.registered r (List.mem_of_mem_erase hr)
      simp only [Bot.Pairing.State.insert, if_pos hmem.2]
      cases hinsert : s.pairing.codes.insert id (hashCode code) request.discordUserId
          request.discordGuildId (request.now + config.pairingCodeTtl * 1000) s.pairing.clock with
      | none =>
          exact { h.withPairing _ fun _ _ hrow => hrow with registered := hregistered }
      | some codes =>
          obtain ⟨hfresh, hlookup⟩ := of_insert_codes hinsert
          have hgrows : ∀ pairing registered sh, Grows s
              { s with pairing, registered, shown := sh :: s.shown } :=
            fun _ _ sh => ⟨Keeps.refl _, fun _ hmem => List.mem_cons_of_mem sh hmem,
              fun _ _ _ hcall => hcall⟩
          have hold : ∀ k row, codes.lookup k = some row → k ≠ id →
              s.pairing.codes.lookup k = some row := by
            intro k row hrow hne
            rw [hlookup, if_neg hne] at hrow
            exact hrow
          have hnew : ∀ row, codes.lookup id = some row → row.codeHash = hashCode code ∧
              row.discordUserId = request.discordUserId := by
            intro row hrow
            rw [hlookup, if_pos rfl] at hrow
            rw [← Option.some.inj hrow]
            exact ⟨rfl, rfl⟩
          exact {
            accounts := h.accounts
            registered := hregistered
            hashes := fun k k' row row' hrow hrow' heq => by
              by_cases hk : k = id
              · subst hk
                by_cases hk' : k' = k
                · exact hk'.symm
                · exact absurd ((hnew row hrow).1 ▸ heq).symm
                    (hfresh k' row' (hold k' row' hrow' hk'))
              · by_cases hk' : k' = id
                · subst hk'
                  exact absurd (heq.trans (hnew row' hrow').1) (hfresh k row (hold k row hrow hk))
                · exact h.hashes k k' row row' (hold k row hrow hk) (hold k' row' hrow' hk') heq
            codes := fun k row hrow => by
              by_cases hk : k = id
              · subst hk
                obtain ⟨hhash, haccount⟩ := hnew row hrow
                rw [hhash, haccount]
                exact ⟨h.registered request hmem.1, _, List.mem_cons_self, rfl, rfl⟩
              · exact (hgrows _ _ _).code (h.codes k row (hold k row hrow hk))
            pairs := fun n call hcall => (hgrows _ _ _).right (h.pairs n call hcall)
            owned := h.owned.mono fun _ _ => (hgrows _ _ _).earned
            once := fun codeHash => by
              have honce := h.once codeHash
              have hshown : shownOf hashCode { s with
                  shown := ⟨code, request.discordUserId⟩ :: s.shown } codeHash =
                    shownOf hashCode s codeHash + if hashCode code = codeHash then 1 else 0 := by
                simp [shownOf, List.countP_cons]
              suffices hgoal : ∀ k', k' = shownOf hashCode s codeHash +
                  (if hashCode code = codeHash then 1 else 0) →
                    spentOn hashCode s codeHash ≤ k' ∧
                      (Unspent codes codeHash → spentOn hashCode s codeHash < k') from
                hgoal _ hshown
              rintro _ rfl
              refine ⟨by omega, fun hunspent => ?_⟩
              obtain ⟨k, row, hrow, heq, hnone⟩ := hunspent
              by_cases hk : k = id
              · subst hk
                rw [if_pos ((hnew row hrow).1.symm.trans heq)]
                omega
              · have hless := honce.2 ⟨k, row, hold k row hrow hk, heq, hnone⟩
                omega }
  · exact h

/-- The row that a `consume` with an answer has consumed. -/
theorem exists_of_consume {t : IssuedCodes} {codeHash : CodeHash} {now : Timestamp}
    {consumed : ConsumedCode} (h : (t.bare.consume codeHash now).2 = some consumed) :
    ∃ id row, t.lookup id = some row ∧ row.codeHash = codeHash ∧
      row.toPairingRow.isUsable now = true ∧ consumed.discordUserId = row.discordUserId := by
  unfold PairingCodes.consume at h
  cases hfind : t.bare.findByHash codeHash with
  | none =>
      rw [hfind] at h
      cases h
  | some found =>
      obtain ⟨id, bare⟩ := found
      obtain ⟨hid, hhash⟩ := PairingCodes.of_findByHash hfind
      rw [IssuedCodes.bare, AList.lookup_collect, Option.bind_eq_some_iff] at hid
      obtain ⟨row, hrow, hbare⟩ := hid
      obtain rfl := Option.some.inj hbare
      rw [hfind] at h
      dsimp only at h
      split at h
      · next husable => exact ⟨id, row, hrow, hhash, husable, by rw [← Option.some.inj h]⟩
      · cases h

theorem lookup_consume_codes {t : IssuedCodes} {codeHash : CodeHash} {now : Timestamp} {id : Uuid}
    {row : CodeRow} (h : (t.consume codeHash now).lookup id = some row) :
    ∃ old, t.lookup id = some old ∧ row.codeHash = old.codeHash ∧
      row.discordUserId = old.discordUserId ∧
        (row.consumedAt = none → old.consumedAt = none ∧
          (old.codeHash = codeHash → old.toPairingRow.isUsable now = false)) := by
  rw [IssuedCodes.consume, AList.lookup_mapVal] at h
  obtain ⟨old, hold, rfl⟩ := Option.map_eq_some_iff.mp h
  refine ⟨old, hold, ?_⟩
  split
  · unfold PairingRow.consume
    split
    · refine ⟨rfl, rfl, fun hnone => ?_⟩
      cases hnone
    · next hunusable => exact ⟨rfl, rfl, fun hnone => ⟨hnone, fun _ => by simpa using hunusable⟩⟩
  · next hother => exact ⟨rfl, rfl, fun hnone => ⟨hnone, fun hhash => absurd hhash hother⟩⟩

theorem Inv.pair (h : Inv hashCode s) (n : Nat) (now : Timestamp) (code : List Char) :
    Inv hashCode (s.pair hashCode n now code) := by
  unfold State.pair
  generalize Pair.normalized code = code
  split
  · exact h
  · split
    · exact h
    · next hfree =>
        rw [not_or, Nat.not_lt] at hfree
        split
        · exact h
        · next consumed hconsumed =>
            obtain ⟨id, row, hrow, hhash, husable, haccount⟩ := exists_of_consume hconsumed
            rw [Bot.Pairing.State.consume, if_pos hfree.2]
            have hgrows : ∀ pairing, Grows s { s with
                pairing, pairs := s.pairs.insert n ⟨code, .consumed consumed⟩ } := by
              refine fun _ => ⟨Keeps.refl _, fun _ hmem => hmem, fun k _ _ hcall => ?_⟩
              show (s.pairs.insert n _).lookup k = _
              rw [AList.lookup_insert_ite, if_neg, hcall]
              rintro rfl
              rw [AList.lookup_eq_none.mpr hfree.1] at hcall
              cases hcall
            have hspent : ∀ codeHash,
                (s.pairs.insert n ⟨code, .consumed consumed⟩).vals.countP
                    (fun call => decide (hashCode call.code = codeHash)) =
                  spentOn hashCode s codeHash + if hashCode code = codeHash then 1 else 0 := by
              intro codeHash
              rw [AList.countP_vals_insert hfree.1]
              simp [spentOn]
            exact {
              accounts := h.accounts
              registered := h.registered
              hashes := fun k k' r r' hr hr' heq => by
                obtain ⟨old, hold, hcode, -⟩ := lookup_consume_codes hr
                obtain ⟨old', hold', hcode', -⟩ := lookup_consume_codes hr'
                exact h.hashes k k' old old' hold hold' (hcode.symm.trans (heq.trans hcode'))
              codes := fun k r hr => by
                obtain ⟨old, hold, hcode, haccount, -⟩ := lookup_consume_codes hr
                rw [hcode, haccount]
                exact (hgrows _).code (h.codes k old hold)
              pairs := fun k call hcall => by
                rw [AList.lookup_insert_ite] at hcall
                split at hcall
                · rw [← Option.some.inj hcall]
                  obtain ⟨hknown, hshown⟩ := h.codes id row hrow
                  rw [← haccount] at hknown hshown
                  rw [hhash] at hshown
                  exact ⟨hknown, hshown⟩
                · exact (hgrows _).right (h.pairs k call hcall)
              owned := h.owned.mono fun _ _ => (hgrows _).earned
              once := fun codeHash => by
                obtain ⟨hle, hless⟩ := h.once codeHash
                show List.countP _ _ ≤ shownOf hashCode s codeHash ∧
                  (_ → List.countP _ _ < shownOf hashCode s codeHash)
                rw [hspent]
                by_cases hcode : hashCode code = codeHash
                · have hbefore := hless ⟨id, row, hrow, hhash.trans hcode, by
                    unfold PairingRow.isUsable at husable
                    rw [Bool.and_eq_true, Option.isNone_iff_eq_none] at husable
                    exact husable.1⟩
                  rw [if_pos hcode]
                  refine ⟨hbefore, ?_⟩
                  -- the row of the hash is spent now
                  rintro ⟨k, r, hr, hrHash, hnone⟩
                  obtain ⟨old, hold, hcode', -, hunspent⟩ := lookup_consume_codes hr
                  obtain ⟨-, hunusable⟩ := hunspent hnone
                  have hsame : old.codeHash = row.codeHash :=
                    (hcode'.symm.trans hrHash).trans (hhash.trans hcode).symm
                  obtain rfl := h.hashes k id old row hold hrow hsame
                  rw [hrow] at hold
                  obtain rfl := Option.some.inj hold
                  rw [hunusable hhash] at husable
                  cases husable
                · rw [if_neg hcode, Nat.add_zero]
                  refine ⟨hle, fun hunspent => hless ?_⟩
                  obtain ⟨k, r, hr, hrHash, hnone⟩ := hunspent
                  obtain ⟨old, hold, hcode', -, hunspent⟩ := lookup_consume_codes hr
                  exact ⟨k, old, hold, hcode'.symm.trans hrHash, (hunspent hnone).1⟩ }

/-- A request goes on. -/
theorem Inv.setStage (h : Inv hashCode s) {n : Nat} {call : PairCall}
    (hcall : s.pairs.lookup n = some call) (hunissued : ∀ f, call.stage ≠ .issued f)
    {stage : PairStage} (hright : PairCall.Right hashCode s ⟨call.code, stage⟩) :
    Inv hashCode (s.setStage n stage) := by
  have hlookup : ∀ k, (s.setStage n stage).pairs.lookup k =
      if k = n then (s.pairs.lookup k).map fun call => { call with stage } else s.pairs.lookup k :=
    fun k => AList.lookup_modify s.pairs n k _
  have hgrows : Grows s (s.setStage n stage) := by
    refine ⟨Keeps.refl _, fun _ hmem => hmem, fun k _ f hissued => ?_⟩
    rw [hlookup, if_neg, hissued]
    rintro rfl
    rw [hcall] at hissued
    exact hunissued f (by rw [Option.some.inj hissued])
  exact {
    accounts := h.accounts
    registered := h.registered
    hashes := h.hashes
    codes := h.codes
    pairs := fun k c hc => by
      rw [hlookup] at hc
      split at hc
      · next hk =>
          subst hk
          rw [hcall, Option.map_some] at hc
          rw [← Option.some.inj hc]
          exact hgrows.right hright
      · exact hgrows.right (h.pairs k c hc)
    owned := h.owned.mono fun _ _ => hgrows.earned
    once := fun codeHash => by
      have hspent : spentOn hashCode (s.setStage n stage) codeHash =
          spentOn hashCode s codeHash :=
        AList.countP_vals_modify s.pairs n fun _ => rfl
      rw [hspent]
      exact h.once codeHash }

theorem exists_of_stage {n : Nat} {stage : PairStage}
    (h : (s.pairs.lookup n).map PairCall.stage = some stage) :
    ∃ code, s.pairs.lookup n = some ⟨code, stage⟩ := by
  obtain ⟨call, hcall, rfl⟩ := Option.map_eq_some_iff.mp h
  exact ⟨call.code, hcall⟩

theorem Inv.findUser (h : Inv hashCode s) (n : Nat) : Inv hashCode (s.findUser n) := by
  unfold State.findUser
  split
  · next consumed hstage =>
      obtain ⟨code, hcall⟩ := exists_of_stage hstage
      obtain ⟨hknown, hshown⟩ := h.pairs n _ hcall
      cases hfind : findByDiscordId consumed.discordUserId s.users with
      | none => exact absurd hfind (findByDiscordId_ne_none hknown)
      | some userId =>
          obtain ⟨profile, hrow, haccount⟩ := exists_of_findByDiscordId hfind
          exact h.setStage hcall (fun _ heq => nomatch heq)
            (show Rightful hashCode s code userId from
              ⟨profile, hrow, haccount.symm ▸ hshown⟩)
  · exact h

theorem Inv.withSessions (h : Inv hashCode s) {sessions : World}
    (howned : Owned (Earned hashCode s) sessions) : Inv hashCode { s with sessions } :=
  ⟨h.accounts, h.registered, h.hashes, h.codes, h.pairs, howned, h.once⟩

theorem Inv.issue (h : Inv hashCode s) (ttl n : Nat) (fresh : TokenHash) :
    Inv hashCode (s.issue ttl n fresh) := by
  unfold State.issue
  split
  · next userId hstage =>
      obtain ⟨code, hcall⟩ := exists_of_stage hstage
      have hright : Rightful hashCode s code userId := h.pairs n _ hcall
      have hunissued : ∀ f, (PairStage.found userId) ≠ .issued f := fun _ heq => nomatch heq
      split
      · next db id hinsert =>
          have hissued : Inv hashCode (s.setStage n (.issued id)) :=
            h.setStage hcall hunissued trivial
          have hearned : Earned hashCode (s.setStage n (.issued id)) id userId := by
            refine ⟨n, code, ?_, hright⟩
            show (s.pairs.modify n _).lookup n = _
            rw [AList.lookup_modify, if_pos rfl, hcall]
            rfl
          have hfamily : id = s.sessions.db.nextId := by
            by_cases haccepts : s.sessions.db.Accepts userId fresh
            · rw [insertToken_of_accepts haccepts] at hinsert
              cases hinsert
              rfl
            · rw [insertToken_of_not_accepts haccepts] at hinsert
              cases hinsert
          subst hfamily
          obtain ⟨hrows, -⟩ := hissued.owned.rows_insertToken hearned fresh (s.sessions.now + ttl)
          refine hissued.withSessions ⟨?_, hissued.owned.calls⟩
          rw [show (s.setStage n (.issued s.sessions.db.nextId)).sessions = s.sessions from rfl]
            at hrows
          rw [hinsert] at hrows
          exact hrows
      · exact h.setStage hcall hunissued trivial
  · exact h

theorem Inv.fail (h : Inv hashCode s) (n : Nat) : Inv hashCode (s.fail n) := by
  unfold State.fail
  split
  · next hstage =>
      obtain ⟨code, hcall⟩ := exists_of_stage hstage
      exact h.setStage hcall (fun _ heq => nomatch heq) trivial
  · next hstage =>
      obtain ⟨code, hcall⟩ := exists_of_stage hstage
      exact h.setStage hcall (fun _ heq => nomatch heq) trivial
  · exact h

theorem Inv.step (h : Inv hashCode s) (config : Bot.Pairing.DiscordConfig) (ttl : Nat)
    (act : SignInAct) : Inv hashCode (s.step config ttl hashCode act) := by
  cases act with
  | bot act => exact h.bot config act
  | register request id username displayName avatarUrl => exact h.register request id rfl
  | insert request id code => exact h.insert config request id code
  | pair n now code => exact h.pair n now code
  | findUser n => exact h.findUser n
  | issue n fresh => exact h.issue ttl n fresh
  | fail n => exact h.fail n
  | session act =>
      simp only [State.step]
      split
      · next hown => exact h.withSessions (owned_maintainedStep h.owned ttl hown)
      · exact h

theorem inv_new (clock : Timestamp) : Inv hashCode (.new clock) where
  accounts := fun _ _ _ _ hrow => nomatch hrow
  registered := fun _ hmem => nomatch hmem
  hashes := fun _ _ _ _ hrow => nomatch hrow
  codes := fun _ _ hrow => nomatch hrow
  pairs := fun _ _ hcall => nomatch hcall
  owned := ⟨fun _ _ hrow => (nomatch hrow), fun _ _ hcall => (nomatch hcall)⟩
  once := fun _ => ⟨Nat.le_refl 0, fun ⟨_, _, hrow, _⟩ => (nomatch hrow)⟩

theorem keeps_step (config : Bot.Pairing.DiscordConfig) (ttl : Nat) (s : State)
    (act : SignInAct) : Keeps s.users (s.step config ttl hashCode act).users := by
  cases act with
  | register request id username displayName avatarUrl =>
      simp only [State.step, State.register]
      split
      · split
        · exact Keeps.refl _
        · exact keeps_upsertFromDiscord id _ s.users
      · exact Keeps.refl _
  | bot act =>
      cases act with
      | _ => exact Keeps.refl _
  | insert request id code =>
      simp only [State.step, State.insert]
      split
      · exact Keeps.refl _
      · exact Keeps.refl _
  | pair n now code =>
      simp only [State.step, State.pair]
      split
      · exact Keeps.refl _
      · split
        · exact Keeps.refl _
        · split
          · exact Keeps.refl _
          · exact Keeps.refl _
  | findUser n =>
      simp only [State.step, State.findUser]
      split
      · split
        · exact Keeps.refl _
        · exact Keeps.refl _
      · exact Keeps.refl _
  | issue n fresh =>
      simp only [State.step, State.issue]
      split
      · split
        · exact Keeps.refl _
        · exact Keeps.refl _
      · exact Keeps.refl _
  | fail n =>
      simp only [State.step, State.fail]
      split
      · exact Keeps.refl _
      · exact Keeps.refl _
      · exact Keeps.refl _
  | session act =>
      simp only [State.step]
      split
      · exact Keeps.refl _
      · exact Keeps.refl _

end Steps

/-- Whoever holds a refresh token, rotated however often, is the account to which a code with the
presented hash was shown; no hash lets in more requests than it was shown codes, no request that
consumed a code finds its account missing, and a user stays the account it was. -/
theorem signedIn_run (config : Bot.Pairing.DiscordConfig) (ttl clock : Nat)
    (acts more : List SignInAct) :
    let s := run (State.step config ttl hashCode) (.new clock) acts
    (∀ id row, s.sessions.db.tokens.lookup id = some row →
        ∃ n code sh profile, s.pairs.lookup n = some ⟨code, .issued row.familyId⟩ ∧
          sh ∈ s.shown ∧ hashCode sh.code = hashCode code ∧
          s.users.lookup row.userId = some profile ∧
          profile.discordUserId = sh.discordUserId) ∧
      (∀ codeHash, spentOn hashCode s codeHash ≤ shownOf hashCode s codeHash) ∧
      (∀ n call, s.pairs.lookup n = some call → call.stage ≠ .internal) ∧
      OneRowEach s.users ∧
      Keeps s.users (run (State.step config ttl hashCode) s more).users := by
  intro s
  have hinv : Inv hashCode s :=
    run_invariant (I := Inv hashCode) (fun _ act h => h.step config ttl act) (inv_new clock) acts
  refine ⟨fun id row hrow => ?_, fun codeHash => (hinv.once codeHash).1, fun n call hcall heq => ?_,
    hinv.accounts, ?_⟩
  · obtain ⟨n, code, hcall, profile, huser, sh, hmem, hhash, haccount⟩ :=
      hinv.owned.rows id row hrow
    exact ⟨n, code, sh, profile, hcall, hmem, hhash, huser, haccount.symm⟩
  · have hright := hinv.pairs n call hcall
    rw [PairCall.Right, heq] at hright
    exact hright
  · exact run_invariant (I := fun s' => Keeps s.users s'.users)
      (fun s' act h => h.trans (keeps_step config ttl s' act)) (Keeps.refl _) more

end SignIn

end Auth
end Ldktela
