import Ldktela.Db.Pairing
import Ldktela.Lib.Runs

/-!
# The issuance limit of pairing codes

`build_reply` of `crates/bot/src/pairing.rs`, taken apart where it waits for the
database, between commands of any accounts, `POST /auth/pair` and the cleanup of
`crates/api/src/jobs.rs`.

`limited_of_careful` says when no hour sees more codes issued to an account than
`pairing_max_per_hour`: the count has to see every code of the hour, and two commands
of one account must not both pass on the same count.
-/

namespace Ldktela
namespace Bot
namespace Pairing

open Protocol
open Db (CodeHash IssuedCodes)

structure DiscordConfig where
  /-- `none` serves every guild. -/
  allowedGuilds : Option (List Snowflake)
  /-- In seconds. -/
  pairingCodeTtl : Nat
  pairingMaxPerHour : Int
deriving DecidableEq

namespace DiscordConfig

/-- Whether this instance serves the guild. -/
def serves (config : DiscordConfig) (guildId : Snowflake) : Bool :=
  match config.allowedGuilds with
  | none => true
  | some allowed => allowed.contains guildId

end DiscordConfig

/-- An hour, in milliseconds. -/
def HOUR : Nat := 60 * 60 * 1000

/-- A command under way. -/
structure Request where
  discordUserId : Snowflake
  discordGuildId : Snowflake
  now : Timestamp
deriving DecidableEq

/-- A code that was issued. -/
structure Issue where
  discordUserId : Snowflake
  createdAt : Timestamp
deriving DecidableEq

structure State where
  clock : Timestamp
  codes : IssuedCodes
  /-- The commands whose count is not in yet. -/
  asked : List Request
  /-- The commands whose count was below the limit and whose code is not in yet. -/
  allowed : List Request
  /-- Every code ever issued. -/
  issued : List Issue

inductive Act where
  | tick (milliseconds : Nat)
  /-- `/tela`, in a guild or outside of any. -/
  | command (discordUserId : Snowflake) (guildId : Option Snowflake)
  | count (request : Request)
  | insert (request : Request) (id : Uuid) (codeHash : CodeHash)
  /-- A call of the database fails, and the command with it. -/
  | fail (request : Request)
  /-- `POST /auth/pair`, with the moment it read. -/
  | consume (codeHash : CodeHash) (now : Timestamp)
  /-- The cleanup, with the moment it read. -/
  | cleanup (now : Timestamp)
deriving DecidableEq

namespace State

def fresh (clock : Timestamp) : State :=
  ⟨clock, ∅, [], [], []⟩

/-- What the command counts. -/
def issuedTo (request : Request) (s : State) : Nat :=
  s.codes.recentRequestCount request.discordUserId (request.now - HOUR)

def command (config : DiscordConfig) (discordUserId : Snowflake) (guildId : Option Snowflake)
    (s : State) : State :=
  match guildId with
  | none => s
  | some guildId =>
      if config.serves guildId then
        { s with asked := ⟨discordUserId, guildId, s.clock⟩ :: s.asked }
      else
        s

def count (config : DiscordConfig) (request : Request) (s : State) : State :=
  if request ∈ s.asked then
    let s' := { s with asked := s.asked.erase request }
    if (s.issuedTo request : Int) ≥ config.pairingMaxPerHour then
      s'
    else
      { s' with allowed := request :: s.allowed }
  else
    s

def insert (config : DiscordConfig) (request : Request) (id : Uuid) (codeHash : CodeHash)
    (s : State) : State :=
  if request ∈ s.allowed then
    let s' := { s with allowed := s.allowed.erase request }
    match s.codes.insert id codeHash request.discordUserId request.discordGuildId
        (request.now + config.pairingCodeTtl * 1000) s.clock with
    | none => s'
    | some codes =>
        { s' with codes := codes, issued := ⟨request.discordUserId, s.clock⟩ :: s.issued }
  else
    s

def fail (request : Request) (s : State) : State :=
  { s with asked := s.asked.erase request, allowed := s.allowed.erase request }

/-- What read the clock earlier may come later. -/
def consume (codeHash : CodeHash) (now : Timestamp) (s : State) : State :=
  if now ≤ s.clock then { s with codes := s.codes.consume codeHash now } else s

def cleanup (now : Timestamp) (s : State) : State :=
  if now ≤ s.clock then { s with codes := s.codes.deleteExpired now } else s

def step (config : DiscordConfig) (s : State) : Act → State
  | .tick milliseconds => { s with clock := s.clock + milliseconds }
  | .command discordUserId guildId => s.command config discordUserId guildId
  | .count request => s.count config request
  | .insert request id codeHash => s.insert config request id codeHash
  | .fail request => s.fail request
  | .consume codeHash now => s.consume codeHash now
  | .cleanup now => s.cleanup now

/-! ## The limit -/

/-- How many codes the account was issued in the hour up to `t`. -/
def issuedWithin (user : Snowflake) (t : Timestamp) (s : State) : Nat :=
  s.issued.countP fun i => i.discordUserId = user && i.createdAt ≤ t && t < i.createdAt + HOUR

/-- No hour sees more codes issued to an account than the limit. -/
def Limited (config : DiscordConfig) (s : State) : Prop :=
  ∀ user t, s.issuedWithin user t ≤ config.pairingMaxPerHour.toNat

/-- How many commands of the account were let through and have no code yet. -/
def underWay (user : Snowflake) (s : State) : Nat :=
  s.allowed.countP fun r => r.discordUserId = user

/-- A command that passes leaves room for those of its account that passed before it,
and a row is not deleted before it is an hour old. -/
def Careful (config : DiscordConfig) (s : State) : Act → Prop
  | .count request =>
      request ∈ s.asked → (s.issuedTo request : Int) < config.pairingMaxPerHour →
        (s.issuedTo request : Int) + s.underWay request.discordUserId < config.pairingMaxPerHour
  | .cleanup now =>
      ∀ row ∈ s.codes.vals, IssuedCodes.isSpent now row = true → row.createdAt + HOUR ≤ s.clock
  | .tick _ | .command _ _ | .insert _ _ _ | .fail _ | .consume _ _ => True

instance (config : DiscordConfig) (s : State) : ∀ act, Decidable (s.Careful config act)
  | .count _ => inferInstanceAs (Decidable (_ → _ → _))
  | .cleanup _ => inferInstanceAs (Decidable (∀ row ∈ s.codes.vals, _ → _))
  | .tick _ | .command _ _ | .insert _ _ _ | .fail _ | .consume _ _ => .isTrue trivial

/-! ## The invariant -/

/-- The codes of the account that still count at `t`. -/
def countingAt (user : Snowflake) (t : Timestamp) (s : State) : Nat :=
  s.issued.countP fun i => i.discordUserId = user && t < i.createdAt + HOUR

structure Inv (config : DiscordConfig) (s : State) : Prop where
  limited : s.Limited config
  past : ∀ i ∈ s.issued, i.createdAt ≤ s.clock
  asked : ∀ r ∈ s.asked, r.now ≤ s.clock
  /-- What counts and what is under way fit in the limit together. -/
  room : ∀ user, s.countingAt user s.clock + s.underWay user ≤ config.pairingMaxPerHour.toNat
  /-- The table still has what counts from now on. -/
  kept : ∀ user (t : Timestamp), s.clock ≤ t →
    s.countingAt user t ≤ s.codes.recentRequestCount user ((t : Int) - HOUR)

section

variable {config : DiscordConfig} {s : State} {request : Request} {user : Snowflake}

theorem countingAt_anti {t t' : Timestamp} (h : t ≤ t') :
    s.countingAt user t' ≤ s.countingAt user t := by
  apply List.countP_mono_left
  intro i hi hcounts
  simp only [Bool.and_eq_true, decide_eq_true_eq] at hcounts ⊢
  exact ⟨hcounts.1, Nat.lt_of_le_of_lt h hcounts.2⟩

theorem issuedWithin_le_countingAt (t : Timestamp) :
    s.issuedWithin user t ≤ s.countingAt user t := by
  apply List.countP_mono_left
  intro i hi hcounts
  simp only [Bool.and_eq_true, decide_eq_true_eq] at hcounts ⊢
  exact ⟨hcounts.1.1, hcounts.2⟩

theorem issuedWithin_cons (i : Issue) (t : Timestamp) :
    ({ s with issued := i :: s.issued } : State).issuedWithin user t =
      s.issuedWithin user t +
        if i.discordUserId = user ∧ i.createdAt ≤ t ∧ t < i.createdAt + HOUR then 1 else 0 := by
  simp [issuedWithin, List.countP_cons, and_assoc]

theorem countingAt_cons (i : Issue) (t : Timestamp) :
    ({ s with issued := i :: s.issued } : State).countingAt user t =
      s.countingAt user t +
        if i.discordUserId = user ∧ t < i.createdAt + HOUR then 1 else 0 := by
  simp [countingAt, List.countP_cons]

/-- A command that is done is under way no more. -/
theorem underWay_erase (user : Snowflake) (hmem : request ∈ s.allowed) :
    ({ s with allowed := s.allowed.erase request } : State).underWay user +
        (if request.discordUserId = user then 1 else 0) =
      s.underWay user := by
  have hperm := (List.perm_cons_erase hmem).countP_eq fun r => decide (r.discordUserId = user)
  rw [underWay, underWay, hperm, List.countP_cons]
  simp

namespace Inv

theorem init (clock : Timestamp) : Inv config (fresh clock) where
  limited _ _ := Nat.zero_le _
  past i hi := by cases hi
  asked r hr := by cases hr
  room _ := Nat.zero_le _
  kept _ _ _ := Nat.zero_le _

/-- What a command of the account counts is no less than what counts now. -/
theorem countingAt_le_issuedTo (h : Inv config s) (hmem : request ∈ s.asked) :
    s.countingAt request.discordUserId s.clock ≤ s.issuedTo request := by
  have hnow := h.asked request hmem
  have hkept := h.kept request.discordUserId s.clock (Nat.le_refl _)
  have hearlier : s.codes.recentRequestCount request.discordUserId ((s.clock : Int) - HOUR) ≤
      s.issuedTo request := by
    apply IssuedCodes.recentRequestCount_anti
    exact Int.sub_le_sub_right (Int.ofNat_le.mpr hnow) _
  exact Nat.le_trans hkept hearlier

theorem tick (h : Inv config s) (milliseconds : Nat) :
    Inv config { s with clock := s.clock + milliseconds } where
  limited := h.limited
  past i hi := Nat.le_trans (h.past i hi) (Nat.le_add_right _ _)
  asked r hr := Nat.le_trans (h.asked r hr) (Nat.le_add_right _ _)
  room user := by
    have hfewer : s.countingAt user (s.clock + milliseconds) ≤ s.countingAt user s.clock :=
      countingAt_anti (Nat.le_add_right _ _)
    have hroom := h.room user
    show s.countingAt user (s.clock + milliseconds) + s.underWay user ≤ _
    omega
  kept user t ht := h.kept user t (Nat.le_trans (Nat.le_add_right _ _) ht)

/-- Commands asked for or dropped before they were counted. -/
theorem asked_congr (h : Inv config s) (requests : List Request)
    (hnow : ∀ r ∈ requests, r.now ≤ s.clock) : Inv config { s with asked := requests } :=
  ⟨h.limited, h.past, hnow, h.room, h.kept⟩

theorem command (h : Inv config s) (u : Snowflake) (guildId : Option Snowflake) :
    Inv config (s.command config u guildId) := by
  unfold State.command
  split
  · exact h
  · split
    · apply h.asked_congr
      intro r hr
      cases hr with
      | head => exact Nat.le_refl _
      | tail _ hr => exact h.asked r hr
    · exact h

theorem count (h : Inv config s) (hcareful : s.Careful config (.count request)) :
    Inv config (s.count config request) := by
  unfold State.count
  split
  · next hmem =>
      have herased := h.asked_congr (s.asked.erase request)
        fun r hr => h.asked r (List.mem_of_mem_erase hr)
      dsimp only
      split
      · exact herased
      · next hbelow =>
          refine ⟨h.limited, h.past, herased.asked, fun user => ?_, h.kept⟩
          have hadmitted := hcareful hmem (by omega)
          have hcount := h.countingAt_le_issuedTo hmem
          have hroom := h.room user
          show s.countingAt user s.clock + List.countP _ (request :: s.allowed) ≤ _
          rw [List.countP_cons]
          show _ + (s.underWay user + _) ≤ _
          by_cases hu : request.discordUserId = user
          · subst hu
            simp only [decide_true, if_true]
            omega
          · simp only [hu, decide_false, Bool.false_eq_true, if_false]
            omega
  · exact h

theorem fail (h : Inv config s) : Inv config (s.fail request) where
  limited := h.limited
  past := h.past
  asked r hr := h.asked r (List.mem_of_mem_erase hr)
  room user := by
    have hfewer : (s.fail request).underWay user ≤ s.underWay user :=
      List.erase_sublist.countP_le
    have hroom := h.room user
    show s.countingAt user s.clock + (s.fail request).underWay user ≤ _
    omega
  kept := h.kept

/-- The code of a command that was let through. -/
theorem issue (h : Inv config s) {id : Uuid} {codeHash : CodeHash} {codes : IssuedCodes}
    {expiresAt : Timestamp} (hmem : request ∈ s.allowed)
    (hinsert : s.codes.insert id codeHash request.discordUserId request.discordGuildId expiresAt
      s.clock = some codes) :
    Inv config { s with
      allowed := s.allowed.erase request
      codes := codes
      issued := ⟨request.discordUserId, s.clock⟩ :: s.issued } where
  limited user t := by
    have hroom := h.room user
    have hfewer := underWay_erase user hmem
    have hbefore := h.limited user t
    show ({ s with issued := ⟨request.discordUserId, s.clock⟩ :: s.issued } :
      State).issuedWithin user t ≤ _
    rw [issuedWithin_cons]
    split
    · next hwindow =>
        -- everything else in this hour still counts now
        have hcounting : s.issuedWithin user t ≤ s.countingAt user s.clock :=
          Nat.le_trans (issuedWithin_le_countingAt t) (countingAt_anti hwindow.2.1)
        rw [if_pos hwindow.1] at hfewer
        omega
    · omega
  past i hi := by
    cases hi with
    | head => exact Nat.le_refl _
    | tail _ hi => exact h.past i hi
  asked := h.asked
  room user := by
    have hroom := h.room user
    have hfewer := underWay_erase user hmem
    show ({ s with issued := ⟨request.discordUserId, s.clock⟩ :: s.issued } :
        State).countingAt user s.clock +
      ({ s with allowed := s.allowed.erase request } : State).underWay user ≤ _
    rw [countingAt_cons]
    by_cases hu : request.discordUserId = user
    · rw [if_pos hu] at hfewer
      rw [if_pos ⟨hu, Nat.lt_add_of_pos_right (by decide)⟩]
      omega
    · rw [if_neg hu] at hfewer
      rw [if_neg fun hboth => hu hboth.1]
      omega
  kept user t ht := by
    have hkept := h.kept user t ht
    show ({ s with issued := ⟨request.discordUserId, s.clock⟩ :: s.issued } :
      State).countingAt user t ≤ codes.recentRequestCount user ((t : Int) - HOUR)
    rw [countingAt_cons, IssuedCodes.recentRequestCount_insert hinsert]
    have hrecent : ∀ a b c : Nat, a < b + c ↔ (a : Int) - c < b := by
      intro a b c
      omega
    simp only [hrecent t s.clock HOUR]
    omega

theorem insert (h : Inv config s) (id : Uuid) (codeHash : CodeHash) :
    Inv config (s.insert config request id codeHash) := by
  unfold State.insert
  split
  · next hmem =>
      dsimp only
      split
      · refine ⟨h.limited, h.past, h.asked, fun user => ?_, h.kept⟩
        have hfewer := underWay_erase user hmem
        have hroom := h.room user
        show s.countingAt user s.clock +
          ({ s with allowed := s.allowed.erase request } : State).underWay user ≤ _
        omega
      · next codes hinsert => exact h.issue hmem hinsert
  · exact h

theorem consume (h : Inv config s) (codeHash : CodeHash) (now : Timestamp) :
    Inv config (s.consume codeHash now) := by
  unfold State.consume
  split
  · refine ⟨h.limited, h.past, h.asked, h.room, fun user t ht => ?_⟩
    simp only [IssuedCodes.recentRequestCount_consume]
    exact h.kept user t ht
  · exact h

theorem cleanup (h : Inv config s) {now : Timestamp}
    (hcareful : s.Careful config (.cleanup now)) : Inv config (s.cleanup now) := by
  unfold State.cleanup
  split
  · refine ⟨h.limited, h.past, h.asked, h.room, fun user t ht => ?_⟩
    rw [IssuedCodes.recentRequestCount_deleteExpired]
    · exact h.kept user t ht
    · intro row hrow hspent
      have hold := Nat.le_trans (hcareful row hrow hspent) ht
      omega
  · exact h

theorem step (h : Inv config s) (act : Act) (hcareful : s.Careful config act) :
    Inv config (s.step config act) := by
  cases act with
  | tick milliseconds => exact h.tick milliseconds
  | command u guildId => exact h.command u guildId
  | count request => exact h.count hcareful
  | insert request id codeHash => exact h.insert id codeHash
  | fail request => exact h.fail
  | consume codeHash now => exact h.consume codeHash now
  | cleanup now => exact h.cleanup hcareful

end Inv

/-- No hour sees more codes issued to an account than the limit, in every run in which
the commands of an account leave room for one another and no row is deleted before it
is an hour old. -/
theorem limited_of_careful {clock : Timestamp} {acts : List Act}
    (h : Runs.EachStep (step config) (Careful config) (fresh clock) acts) :
    Runs.Throughout (step config) (Limited config) (fresh clock) acts :=
  (Runs.throughout_of_eachStep (fun _ act hinv hcareful => hinv.step act hcareful)
    (Inv.init clock) h).mono fun _ hinv => hinv.limited

end

/-- One code an hour, each good for five minutes. -/
def oneAnHour : DiscordConfig := ⟨none, 300, 1⟩

/-- The careful runs issue codes: the second command of the hour is turned away, the
one after the hour is not. -/
theorem limited_of_careful_hour : Runs.Throughout (step oneAnHour) (Limited oneAnHour) (fresh 0)
    [.command 7 (some 3), .count ⟨7, 3, 0⟩, .insert ⟨7, 3, 0⟩ 1 11, .consume 11 0, .tick 60000,
      .command 7 (some 3), .count ⟨7, 3, 60000⟩, .tick 3600000, .cleanup 3660000,
      .command 7 (some 3), .count ⟨7, 3, 3660000⟩, .insert ⟨7, 3, 3660000⟩ 2 12] :=
  limited_of_careful (by decide)

/-- The first code expires, the cleanup deletes its row ten minutes after it was
issued, and the second command of the hour counts nothing. -/
theorem cleanup_forgets_issue :
    ¬ ∀ config clock acts, 0 < config.pairingCodeTtl →
      Runs.Throughout (step config) (Limited config) (fresh clock) acts := by
  intro hall
  have hrun := Runs.throughout_iff_initial.mp (hall oneAnHour 0
    [.command 7 (some 3), .count ⟨7, 3, 0⟩, .insert ⟨7, 3, 0⟩ 1 11, .tick 600000, .cleanup 600000,
      .command 7 (some 3), .count ⟨7, 3, 600000⟩, .insert ⟨7, 3, 600000⟩ 2 12] (by decide))
    _ (List.prefix_refl _) 7 600000
  revert hrun
  decide

end State

end Pairing
end Bot
end Ldktela
