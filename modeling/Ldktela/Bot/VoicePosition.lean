import Ldktela.Bot.FollowedRoom

/-!
# Where the replica has an account in voice

The replica keeps a voice map for each guild, and `voice_channel_of` answers with the
first guild that has the account, in the order of a hash map
(`crates/api/src/discord/replica.rs`).

Discord has an account in at most one voice channel and reports every move to the guilds
it concerns.  Each guild's updates are handled in their order, those of two guilds in any.
`answers_throughout` says that whenever no mirrored guild has an update on its way, the
answer is the channel the account is in.
-/

namespace Ldktela
namespace Bot
namespace VoicePosition

open Protocol
open Discord
open Handler
open Revoke
open Runs

/-- A voice channel, with its guild. -/
abbrev Position := UInt64 × UInt64

/-- The channel of the guild that a position names. -/
def channelIn (position : Option Position) (guildId : UInt64) : Option UInt64 :=
  match position with
  | none => none
  | some (guild, channel) => if guild = guildId then some channel else none

/-- What Discord reports to a guild when an account moves: the guild it leaves and the
guild it joins each get an update. -/
def updatesIn (before after : Option Position) (guildId : UInt64) : List (Option UInt64) :=
  match before, after with
  | none, none => []
  | some (left, _), none => if left = guildId then [none] else []
  | none, some (joined, channel) => if joined = guildId then [some channel] else []
  | some (left, _), some (joined, channel) =>
      if joined = guildId then [some channel] else if left = guildId then [none] else []

/-- The bot, where the account is, and what is on its way to the bot. -/
structure World where
  app : AppState
  position : Option Position
  /-- By guild, oldest first. -/
  pending : UInt64 → List (Option UInt64)

inductive Act where
  /-- Discord moves the account, or reports that it was muted where it is. -/
  | move (position : Option Position)
  /-- The oldest update of a guild is handled; `old` is what the library had cached. -/
  | handle (guildId : UInt64) (old : Option VoiceState)
  /-- A snapshot of a guild is handled. -/
  | guildCreate (guild : Guild) (fetched : List Member)
  | guildDelete (id : UInt64) (unavailable : Bool)
  /-- Any event that is no voice update of the account. -/
  | other (event : DiscordEvent)

/-- The event is a voice update of the account. -/
def concerns (discordUser : UInt64) : DiscordEvent → Bool
  | .voiceStateUpdate _ new => new.userId = discordUser
  | _ => false

/-- The snapshot has the account where it is now, or was taken before a move that the
guild is still to be told of. -/
def carries (discordUser : UInt64) (guild : Guild) (w : World) : Bool :=
  !(w.pending guild.id).isEmpty ||
    (guild.voiceStates.lookup discordUser).join = channelIn w.position guild.id

namespace World

def start (grace : Nat) (position : Option Position) (app : AppState) : World where
  app := { app with replica := Replica.new grace }
  position := position
  pending := fun _ => []

def step (discordUser : UInt64) (w : World) : Act → World
  | .move position =>
      { w with
        position := position
        pending := fun g => w.pending g ++ updatesIn w.position position g }
  | .handle guildId old =>
      match w.pending guildId with
      | [] => w
      | channelId :: rest =>
          { w with
            app := voiceStateUpdate old ⟨some guildId, discordUser, channelId⟩ w.app
            pending := fun g => if g = guildId then rest else w.pending g }
  | .guildCreate guild fetched =>
      if carries discordUser guild w then
        { w with app := Handler.guildCreate guild fetched w.app }
      else
        w
  | .guildDelete id unavailable => { w with app := Handler.guildDelete id unavailable w.app }
  | .other event =>
      if concerns discordUser event then w else { w with app := handleEvent event w.app }

/-- No mirrored guild has an update on its way. -/
def Quiet (w : World) : Prop :=
  ∀ g ∈ w.app.replica.guilds, w.pending g = []

/-- The channel of the account, if the guild is mirrored. -/
def channel (w : World) : Option UInt64 :=
  match w.position with
  | none => none
  | some (guild, channel) => if guild ∈ w.app.replica.guilds then some channel else none

/-- The answer is the channel of the account, once nothing is on its way. -/
def Answers (discordUser : UInt64) (w : World) : Prop :=
  w.Quiet → w.app.replica.voiceChannelOf discordUser = w.channel

/-! ## The last report -/

/-- The last update on its way to a guild says where the account is, and so does the entry
of a mirrored guild to which none is on its way. -/
structure Inv (discordUser : UInt64) (w : World) : Prop where
  last : ∀ g, w.pending g ≠ [] → (w.pending g).getLast? = some (channelIn w.position g)
  entry : ∀ g ∈ w.app.replica.guilds, w.pending g = [] →
    w.app.replica.voiceIn g discordUser = channelIn w.position g

variable {discordUser : UInt64} {w : World}

/-- A move is reported to the guilds it concerns, with the channel that is left there. -/
theorem updatesIn_cases (before after : Option Position) (g : UInt64) :
    updatesIn before after g = [channelIn after g] ∨
      updatesIn before after g = [] ∧ channelIn after g = channelIn before g := by
  cases before with
  | none =>
      cases after with
      | none => exact .inr ⟨rfl, rfl⟩
      | some joined =>
          by_cases hg : joined.1 = g
          · exact .inl (by simp [updatesIn, channelIn, hg])
          · exact .inr (by simp [updatesIn, channelIn, hg])
  | some left =>
      cases after with
      | none =>
          by_cases hg : left.1 = g
          · exact .inl (by simp [updatesIn, channelIn, hg])
          · exact .inr (by simp [updatesIn, channelIn, hg])
      | some joined =>
          by_cases hjoined : joined.1 = g
          · exact .inl (by simp [updatesIn, channelIn, hjoined])
          · by_cases hleft : left.1 = g
            · exact .inl (by simp [updatesIn, channelIn, hjoined, hleft])
            · exact .inr (by simp [updatesIn, channelIn, hjoined, hleft])

theorem Inv.answers (h : Inv discordUser w) : w.Answers discordUser := by
  intro hquiet
  have hentry : ∀ g ∈ w.app.replica.guilds,
      w.app.replica.voiceIn g discordUser = channelIn w.position g :=
    fun g hg => h.entry g hg (hquiet g hg)
  unfold channel
  cases hanswer : w.app.replica.voiceChannelOf discordUser with
  | none =>
      have hnone := Replica.voiceIn_eq_none hanswer
      cases hposition : w.position with
      | none => rfl
      | some position =>
          obtain ⟨guild, channel⟩ := position
          dsimp only
          split
          · next hmem =>
              have hin := hentry guild hmem
              rw [hnone guild, hposition, channelIn, if_pos rfl] at hin
              cases hin
          · rfl
  | some answer =>
      obtain ⟨g, hmem, hvoice⟩ := Replica.exists_voiceIn hanswer
      have hin := (hentry g hmem).symm.trans hvoice
      cases hposition : w.position with
      | none =>
          rw [hposition] at hin
          cases hin
      | some position =>
          obtain ⟨guild, channel⟩ := position
          rw [hposition, channelIn] at hin
          -- the guild that answers is the one the account is in
          split at hin
          · next hg =>
              subst hg
              rw [← hin]
              exact (if_pos hmem).symm
          · cases hin

/-- A write to the replica that mirrors no other guilds and moves the account nowhere. -/
theorem Inv.congr (h : Inv discordUser w) {app : AppState}
    (hguilds : ∀ g, g ∈ app.replica.guilds → g ∈ w.app.replica.guilds)
    (hvoice : ∀ g ∈ app.replica.guilds,
      app.replica.voiceIn g discordUser = w.app.replica.voiceIn g discordUser) :
    Inv discordUser { w with app := app } :=
  ⟨h.last, fun g hg hquiet => (hvoice g hg).trans (h.entry g (hguilds g hg) hquiet)⟩

theorem inv_move (h : Inv discordUser w) (position : Option Position) :
    Inv discordUser (w.step discordUser (.move position)) := by
  refine ⟨fun g hne => ?_, fun g hg hnil => ?_⟩
  · show (w.pending g ++ updatesIn w.position position g).getLast? = some (channelIn position g)
    rcases updatesIn_cases w.position position g with hone | ⟨hnone, hsame⟩
    · rw [hone, List.getLast?_append]
      rfl
    · have hbefore : w.pending g ≠ [] := by
        intro heq
        exact hne (show w.pending g ++ _ = [] by rw [heq, hnone]; rfl)
      rw [hnone, List.append_nil, hsame]
      exact h.last g hbefore
  · obtain ⟨hbefore, hnone⟩ := List.append_eq_nil_iff.mp hnil
    rcases updatesIn_cases w.position position g with hone | ⟨-, hsame⟩
    · rw [hone] at hnone
      cases hnone
    · exact (h.entry g hg hbefore).trans hsame.symm

theorem inv_handle (h : Inv discordUser w) (guildId : UInt64) (old : Option VoiceState) :
    Inv discordUser (w.step discordUser (.handle guildId old)) := by
  unfold step
  dsimp only
  split
  · exact h
  · next channelId rest hpending =>
      have hlast := h.last guildId (by simp [hpending])
      rw [hpending] at hlast
      have hreplica : (voiceStateUpdate old ⟨some guildId, discordUser, channelId⟩ w.app).replica =
          Replica.setVoice guildId discordUser channelId w.app.replica :=
        (voiceStateUpdate_tells old _ w.app).replica_eq
      refine ⟨fun g hne => ?_, fun g hg hnil => ?_⟩
      · dsimp only at hne ⊢
        split at hne
        · next hg =>
            subst hg
            rw [if_pos rfl, ← hlast, List.getLast?_cons, List.getLast?_eq_some_getLast hne]
            rfl
        · next hg =>
            rw [if_neg hg]
            exact h.last g hne
      · dsimp only at hg hnil ⊢
        rw [hreplica] at hg ⊢
        have hmem : g ∈ w.app.replica.guilds := Replica.mem_guilds_modifyGuild.mp hg
        rw [Replica.voiceIn_setVoice hmem]
        split at hnil
        · next hsame =>
            -- the last update of the guild is the one that is handled
            rw [if_pos hsame, hsame]
            rw [hnil] at hlast
            exact Option.some.inj hlast
        · next hother =>
            rw [if_neg hother]
            exact h.entry g hmem hnil

theorem installGuild_voice (guild : Guild) (fetched : List Member) (r : Replica) (g : UInt64) :
    (g ∈ (installGuild guild fetched r).guilds → g = guild.id ∨ g ∈ r.guilds) ∧
      (installGuild guild fetched r).voiceIn g discordUser =
        if g = guild.id then (guild.voiceStates.lookup discordUser).join
        else r.voiceIn g discordUser := by
  have hbackfill : ∀ (members : List Member) (r : Replica),
      (g ∈ (backfillMembers guild.id members r).guilds ↔ g ∈ r.guilds) ∧
        (backfillMembers guild.id members r).voiceIn g discordUser = r.voiceIn g discordUser := by
    intro members
    induction members with
    | nil => exact fun _ => ⟨Iff.rfl, rfl⟩
    | cons member members ih =>
        intro r
        obtain ⟨hmem, hvoice⟩ := ih (Replica.upsertMember guild.id member.userId member.roles r)
        exact ⟨hmem.trans Replica.mem_guilds_modifyGuild,
          hvoice.trans (Replica.voiceIn_modifyGuild fun _ => rfl)⟩
  have hmem : g ∈ (Replica.replaceGuild (guildData guild) r).guilds → g = guild.id ∨ g ∈ r.guilds :=
    fun hg => (AList.mem_insert r.guilds).mp hg
  have hvoice : (Replica.replaceGuild (guildData guild) r).voiceIn g discordUser =
      if g = guild.id then (guild.voiceStates.lookup discordUser).join
      else r.voiceIn g discordUser := by
    rw [Replica.voiceIn_replaceGuild, guildData, AList.lookup_collect]
    rfl
  unfold installGuild
  dsimp only
  split
  · obtain ⟨hsame, hin⟩ := hbackfill fetched (Replica.replaceGuild (guildData guild) r)
    exact ⟨fun hg => hmem (hsame.mp hg), hin.trans hvoice⟩
  · exact ⟨hmem, hvoice⟩

theorem inv_guildCreate (h : Inv discordUser w) (guild : Guild) (fetched : List Member) :
    Inv discordUser (w.step discordUser (.guildCreate guild fetched)) := by
  unfold step Handler.guildCreate
  dsimp only
  split
  · next hcarries =>
      split
      · refine ⟨h.last, fun g hg hnil => ?_⟩
        have hreplica :
            (sweepGuild guild.id (onReplica (installGuild guild fetched) w.app)).replica =
              installGuild guild fetched w.app.replica := (sweepGuild_spec guild.id _).1.replica_eq
        dsimp only at hg hnil ⊢
        rw [hreplica] at hg ⊢
        obtain ⟨hmem, hvoice⟩ := @installGuild_voice discordUser guild fetched
          w.app.replica g
        rw [hvoice]
        split
        · next hsame =>
            -- nothing is on its way, so the snapshot has the account where it is
            subst hsame
            simpa [carries, hnil] using hcarries
        · next hother => exact h.entry g ((hmem hg).resolve_left hother) hnil
      · exact h
  · exact h

theorem inv_guildDelete (h : Inv discordUser w) (id : UInt64) (unavailable : Bool) :
    Inv discordUser (w.step discordUser (.guildDelete id unavailable)) := by
  unfold step Handler.guildDelete
  dsimp only
  split
  · exact h
  · have hreplica : (sweepGuild id (onReplica (Replica.removeGuild id) w.app)).replica =
        Replica.removeGuild id w.app.replica := (sweepGuild_spec id _).1.replica_eq
    have hkept : ∀ g, g ∈ (Replica.removeGuild id w.app.replica).guilds →
        g ≠ id ∧ g ∈ w.app.replica.guilds := fun g hg => AList.mem_erase.mp hg
    refine h.congr (fun g hg => ?_) (fun g hg => ?_)
    · rw [hreplica] at hg
      exact (hkept g hg).2
    · rw [hreplica] at hg ⊢
      exact Replica.voiceIn_removeGuild (hkept g hg).1

/-- What any other event records moves the account nowhere. -/
theorem recorded_voice {event : DiscordEvent} (hother : concerns discordUser event = false)
    (r : Replica) (g : UInt64) :
    (g ∈ (recorded event r).guilds ↔ g ∈ r.guilds) ∧
      (recorded event r).voiceIn g discordUser = r.voiceIn g discordUser := by
  have hrecords := records_recorded event r
  generalize recorded event r = after at hrecords ⊢
  cases hrecords with
  | nothing => exact ⟨Iff.rfl, rfl⟩
  | roster guildId hchannels hvoice =>
      exact ⟨Replica.mem_guilds_modifyGuild,
        Replica.voiceIn_modifyGuild fun guild => by rw [hvoice guild]⟩
  | channel channel =>
      exact ⟨Replica.mem_guilds_upsertChannel, Replica.voiceIn_upsertChannel⟩
  | channelGone channel =>
      exact ⟨Replica.mem_guilds_modifyGuild, Replica.voiceIn_modifyGuild fun _ => rfl⟩
  | voice old new guildId =>
      have hne : discordUser ≠ new.userId := by
        rintro rfl
        simp [concerns] at hother
      exact ⟨Replica.mem_guilds_modifyGuild, Replica.voiceIn_setVoice_of_ne hne⟩

/-- The replica after an event is what the event records. -/
theorem handleEvent_replica (event : DiscordEvent) (app : AppState) :
    (handleEvent event app).replica = recorded event app.replica := by
  rcases isAccess_or event with haccess | ⟨old, new, rfl⟩
  · exact (rechecks 0 haccess).same.replica_eq
  · exact (voiceStateUpdate_tells old new app).replica_eq

theorem inv_step (h : Inv discordUser w) (act : Act) :
    Inv discordUser (w.step discordUser act) := by
  cases act with
  | move position => exact inv_move h position
  | handle guildId old => exact inv_handle h guildId old
  | guildCreate guild fetched => exact inv_guildCreate h guild fetched
  | guildDelete id unavailable => exact inv_guildDelete h id unavailable
  | other event =>
      unfold step
      dsimp only
      split
      · exact h
      · next hother =>
          have hvoice := fun g => recorded_voice (Bool.eq_false_of_not_eq_true hother)
            w.app.replica g
          refine h.congr (fun g hg => ?_) (fun g _ => ?_)
          · rw [handleEvent_replica] at hg
            exact (hvoice g).1.mp hg
          · rw [handleEvent_replica]
            exact (hvoice g).2

/-- Whenever no update is on its way to a mirrored guild, the replica answers with the
channel the account is in. -/
theorem answers_throughout (grace : Nat) (discordUser : UInt64) (position : Option Position)
    (app : AppState) (acts : List Act) :
    Throughout (step discordUser) (Answers discordUser) (start grace position app) acts := by
  have hstart : Inv discordUser (start grace position app) :=
    ⟨fun g hne => absurd rfl hne, fun g hg => by cases hg⟩
  have hinv : Throughout (step discordUser) (Inv discordUser) (start grace position app) acts :=
    @throughout_of_eachStep _ _ _ (fun _ _ => True) _ (fun _ act h _ => inv_step h act) _ _ hstart
      (eachStep_of_forall (fun _ _ => trivial) _ acts)
  exact hinv.mono fun _ h => h.answers

end World

end VoicePosition
end Bot
end Ldktela
