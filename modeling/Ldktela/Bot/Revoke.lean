import Ldktela.Bot.ReplicaSync
import Ldktela.Db.Presence

/-!
# Live revocation

`crates/bot/src/revoke.rs`: after a change at Discord, the people in the affected
rooms are checked again and the ones who no longer belong are evicted.

The database calls succeed, and whether the SFU takes the removal does not
matter: the presence row goes either way.

The specification of a sweep is one equation about the presence table: a row
stays unless its room was looked at and its owner is barred from it.
-/

namespace Ldktela
namespace Bot

open Protocol
open Discord
open Db

/-- What the sweeps and the handler read and write. -/
structure AppState where
  replica : Replica
  users : Users
  presence : Presence
  /-- `DISCORD_ALLOWED_GUILDS`; absent means all. -/
  allowedGuilds : Option (List UInt64)
  /-- Participants the SFU was asked to remove. -/
  removals : List (Snowflake × Uuid)
  /-- Events published to the sessions of one user. -/
  published : List (Uuid × DispatchEvent)

namespace Revoke

/-- Remove one participant from the SFU and tell their client why. -/
def evict (discordChannelId : Snowflake) (userId : Uuid) (st : AppState) : AppState :=
  { st with
    removals := st.removals ++ [(discordChannelId, userId)]
    presence := (Presence.leave userId st.presence).1
    published := st.published ++
      [(userId, .roomLeave ⟨discordChannelId, .accessRevoked⟩)] }

/-- Recheck one participant; one whose id does not convert is passed over. -/
def recheck (discordChannelId : Snowflake) (channel : UInt64) (st : AppState)
    (participant : ParticipantRow) : AppState :=
  match u64TryFrom participant.profile.discordUserId with
  | none => st
  | some discordUser =>
      if st.replica.mayJoin discordUser channel then
        st
      else
        evict discordChannelId participant.userId st

/-- Recheck one room and evict whoever lost access. -/
def sweepChannel (discordChannelId : Snowflake) (st : AppState) : AppState :=
  match Presence.listByChannel st.users discordChannelId st.presence with
  | [] => st
  | participants =>
      match u64TryFrom discordChannelId with
      | none => st
      | some channel => participants.foldl (recheck discordChannelId channel) st

/-- Recheck one occupied room if it is one of the guild's. -/
def sweepIfIn (discordGuildId : UInt64) (st : AppState) (channel : Snowflake) : AppState :=
  match u64TryFrom channel with
  | none => st
  | some id => if st.replica.inGuild discordGuildId id then sweepChannel channel st else st

/-- Recheck every room in a guild. -/
def sweepGuild (discordGuildId : UInt64) (st : AppState) : AppState :=
  (Presence.occupiedChannels st.presence).foldl (sweepIfIn discordGuildId) st

/-! ## Who is barred -/

/-- The account of a profile may not join the channel. -/
def barredFrom (r : Replica) (channel : UInt64) (profile : UserRow) : Bool :=
  match u64TryFrom profile.discordUserId with
  | none => false
  | some discordUser => !(r.mayJoin discordUser channel)

/-- The owner of a row is barred from the room of the row. -/
def barred (st : AppState) (userId : Uuid) (row : PresenceRow) : Bool :=
  match u64TryFrom row.discordChannelId, st.users.lookup userId with
  | some channel, some profile => barredFrom st.replica channel profile
  | _, _ => false

/-- The room of a row is one of the guild's. -/
def rowIn (st : AppState) (discordGuildId : UInt64) (row : PresenceRow) : Bool :=
  match u64TryFrom row.discordChannelId with
  | none => false
  | some channel => st.replica.inGuild discordGuildId channel

/-- A sweep writes to no table but the presence. -/
structure SameWorld (st st' : AppState) : Prop where
  replica_eq : st'.replica = st.replica
  users_eq : st'.users = st.users

namespace SameWorld

variable {st st' st'' : AppState}

theorem refl (st : AppState) : SameWorld st st := ⟨rfl, rfl⟩

theorem trans (h : SameWorld st st') (h' : SameWorld st' st'') : SameWorld st st'' :=
  ⟨h'.replica_eq.trans h.replica_eq, h'.users_eq.trans h.users_eq⟩

theorem barred_eq (h : SameWorld st st') : barred st' = barred st := by
  funext userId row
  rw [barred, barred, h.replica_eq, h.users_eq]

end SameWorld

/-! ## One room -/

variable {c : Snowflake} {channel : UInt64} {u : Uuid}

theorem recheck_spec (c : Snowflake) (channel : UInt64) (st : AppState) (p : ParticipantRow)
    (u : Uuid) :
    SameWorld st (recheck c channel st p) ∧
      (recheck c channel st p).presence.lookup u =
        if u = p.userId ∧ barredFrom st.replica channel p.profile = true then none
        else st.presence.lookup u := by
  unfold recheck
  split
  · next hd => exact ⟨SameWorld.refl st, by simp [barredFrom, hd]⟩
  · next discordUser hd =>
      split
      · next hjoin => exact ⟨SameWorld.refl st, by simp [barredFrom, hd, hjoin]⟩
      · next hjoin =>
          refine ⟨⟨rfl, rfl⟩, ?_⟩
          rw [evict, Presence.lookup_leave]
          simp [barredFrom, hd, hjoin]

theorem recheckAll_spec (c : Snowflake) (channel : UInt64) (l : List ParticipantRow)
    (st : AppState) (u : Uuid) :
    SameWorld st (l.foldl (recheck c channel) st) ∧
      (l.foldl (recheck c channel) st).presence.lookup u =
        if ∃ p ∈ l, u = p.userId ∧ barredFrom st.replica channel p.profile = true then none
        else st.presence.lookup u := by
  induction l generalizing st with
  | nil => exact ⟨SameWorld.refl st, by simp⟩
  | cons p l ih =>
      obtain ⟨hsame, hlookup⟩ := recheck_spec c channel st p u
      obtain ⟨hsame', hlookup'⟩ := ih (recheck c channel st p)
      refine ⟨hsame.trans hsame', ?_⟩
      rw [List.foldl_cons, hlookup', hlookup, hsame.replica_eq]
      by_cases hp : u = p.userId ∧ barredFrom st.replica channel p.profile = true
      · simp [hp]
      · simp [hp]

/-- A row stays through the sweep of a room unless it is in the room and its
owner is barred. -/
theorem sweepChannel_spec (c : Snowflake) (st : AppState) :
    SameWorld st (sweepChannel c st) ∧
      ∀ u, (sweepChannel c st).presence.lookup u =
        (st.presence.lookup u).filter
          fun row => !(decide (row.discordChannelId = c) && barred st u row) := by
  have hlisted : ∀ (channel : UInt64) (u : Uuid), u64TryFrom c = some channel →
      (if ∃ p ∈ Presence.listByChannel st.users c st.presence,
          u = p.userId ∧ barredFrom st.replica channel p.profile = true then none
        else st.presence.lookup u) =
      (st.presence.lookup u).filter
        fun row => !(decide (row.discordChannelId = c) && barred st u row) := by
    intro channel u hc
    cases hrow : st.presence.lookup u with
    | none => simp
    | some row =>
        -- the row is listed if it is in the room, and then it is rechecked
        have hiff : (∃ p ∈ Presence.listByChannel st.users c st.presence,
            u = p.userId ∧ barredFrom st.replica channel p.profile = true) ↔
              row.discordChannelId = c ∧ barred st u row = true := by
          constructor
          · rintro ⟨p, hp, rfl, hbar⟩
            obtain ⟨hlookup, hchan, huser⟩ := Presence.mem_listByChannel.mp hp
            obtain rfl := Option.some.inj (hrow.symm.trans hlookup)
            exact ⟨hchan, by simp [barred, hchan, hc, huser, hbar]⟩
          · rintro ⟨hchan, hbar⟩
            cases huser : st.users.lookup u with
            | none => simp [barred, hchan, hc, huser] at hbar
            | some profile =>
                rw [barred, hchan, hc, huser] at hbar
                exact ⟨⟨u, profile, row⟩,
                  Presence.mem_listByChannel.mpr ⟨hrow, hchan, huser⟩, rfl, hbar⟩
        by_cases hout : row.discordChannelId = c ∧ barred st u row = true
        · rw [if_pos (hiff.mpr hout), Option.filter_some_neg (by simp [hout])]
        · rw [if_neg (fun h => hout (hiff.mp h)), Option.filter_some_pos]
          simpa [not_and_or, or_iff_not_imp_left] using hout
  unfold sweepChannel
  split
  · next hempty =>
      refine ⟨SameWorld.refl st, fun u => ?_⟩
      cases hc : u64TryFrom c with
      | none =>
          refine (Option.filter_eq_self_of_forall fun row _ => ?_).symm
          by_cases hchan : row.discordChannelId = c
          · simp [barred, hchan, hc]
          · simp [hchan]
      | some channel => rw [← hlisted channel u hc, hempty, if_neg (by simp)]
  · split
    · next hc =>
        refine ⟨SameWorld.refl st, fun u => ?_⟩
        refine (Option.filter_eq_self_of_forall fun row _ => ?_).symm
        by_cases hchan : row.discordChannelId = c
        · simp [barred, hchan, hc]
        · simp [hchan]
    · next channel hc =>
        refine ⟨(recheckAll_spec c channel _ st 0).1, fun u => ?_⟩
        rw [(recheckAll_spec c channel _ st u).2]
        exact hlisted channel u hc

/-! ## A whole guild -/

/-- One turn of the guild sweep. -/
theorem sweepIfIn_spec (g : UInt64) (st : AppState) (c : Snowflake) :
    SameWorld st (sweepIfIn g st c) ∧
      ∀ u, (sweepIfIn g st c).presence.lookup u =
        (st.presence.lookup u).filter fun row =>
          !(decide (row.discordChannelId = c) && (rowIn st g row && barred st u row)) := by
  unfold sweepIfIn
  have hstay : (∀ row : PresenceRow, row.discordChannelId = c → rowIn st g row = false) →
      ∀ u, st.presence.lookup u = (st.presence.lookup u).filter fun row =>
        !(decide (row.discordChannelId = c) && (rowIn st g row && barred st u row)) := by
    intro hout u
    refine (Option.filter_eq_self_of_forall fun row _ => ?_).symm
    by_cases hchan : row.discordChannelId = c
    · simp [hout row hchan]
    · simp [hchan]
  split
  · next hc =>
      refine ⟨SameWorld.refl st, hstay fun row hchan => ?_⟩
      simp [rowIn, hchan, hc]
  · next id hc =>
      split
      · next hin =>
          obtain ⟨hsame, hlookup⟩ := sweepChannel_spec c st
          refine ⟨hsame, fun u => ?_⟩
          rw [hlookup]
          congr 1
          funext row
          by_cases hchan : row.discordChannelId = c
          · simp [rowIn, hchan, hc, hin]
          · simp [hchan]
      · next hin =>
          refine ⟨SameWorld.refl st, hstay fun row hchan => ?_⟩
          simpa [rowIn, hchan, hc] using hin

private theorem sweepAll_spec (g : UInt64) (l : List Snowflake) (st : AppState) :
    SameWorld st (l.foldl (sweepIfIn g) st) ∧
      ∀ u, (l.foldl (sweepIfIn g) st).presence.lookup u =
        (st.presence.lookup u).filter fun row =>
          !(decide (row.discordChannelId ∈ l) && (rowIn st g row && barred st u row)) := by
  induction l generalizing st with
  | nil =>
      refine ⟨SameWorld.refl st, fun u => ?_⟩
      exact (Option.filter_eq_self_of_forall fun _ _ => by simp).symm
  | cons c l ih =>
      obtain ⟨hsame, hlookup⟩ := sweepIfIn_spec g st c
      obtain ⟨hsame', hlookup'⟩ := ih (sweepIfIn g st c)
      have hrow : rowIn (sweepIfIn g st c) g = rowIn st g := by
        funext row
        rw [rowIn, rowIn, hsame.replica_eq]
      refine ⟨hsame.trans hsame', fun u => ?_⟩
      -- an earlier turn changes neither who is barred nor which rooms are the guild's
      rw [List.foldl_cons, hlookup', hlookup, hsame.barred_eq, hrow, Option.filter_filter]
      congr 1
      funext row
      by_cases hchan : row.discordChannelId = c
      · cases rowIn st g row && barred st u row with
        | false => simp [hchan]
        | true => simp [hchan]
      · simp [hchan]

/-- A row stays through the sweep of a guild unless its room resolves to the guild
and its owner is barred. -/
theorem sweepGuild_spec (g : UInt64) (st : AppState) :
    SameWorld st (sweepGuild g st) ∧
      ∀ u, (sweepGuild g st).presence.lookup u =
        (st.presence.lookup u).filter fun row => !(rowIn st g row && barred st u row) := by
  obtain ⟨hsame, hlookup⟩ := sweepAll_spec g (Presence.occupiedChannels st.presence) st
  refine ⟨hsame, fun u => ?_⟩
  rw [sweepGuild, hlookup]
  cases hrow : st.presence.lookup u with
  | none => rfl
  | some row =>
      -- whoever has a row is in one of the rooms the sweep walks over
      have hocc : row.discordChannelId ∈ Presence.occupiedChannels st.presence :=
        Presence.mem_occupiedChannels.mpr ⟨u, row, hrow, rfl⟩
      simp [Option.filter_some, hocc]

end Revoke

end Bot
end Ldktela
