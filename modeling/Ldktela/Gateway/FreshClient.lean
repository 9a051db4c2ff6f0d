import Ldktela.Gateway.Standing
import Ldktela.Lib.Replay
import Ldktela.Lib.Runs

/-!
# A client that has just identified

`Connection::identify` of `crates/api/src/gateway/mod.rs` and the webhook handlers, one
step at a time.  The READY is read before the session can be reached, so an event that
is published in between reaches the connection in no form unless the READY read it
already.

The invariant is about one person at a time: the events about them that are still to be
published lead from what the client shows to what the table has (`Shows.standing`), and
show nothing of what the table has (`Inv.settled`), which is why a READY may be read
in the middle of them.  `converges_throughout` is what follows for the runs in which the
steps keep to `Orderly`.
-/

namespace Ldktela
namespace Gateway
namespace FreshClient

open Protocol
open Db
open Discord
open Desktop
open Desktop.RoomSnapshot
open Api.Rooms
open Replay
open Runs

/-- A connection of `me`, who is in the room of `channel`, and what does not change while
it identifies. -/
structure Setting where
  replica : Replica
  users : Users
  createdAt : Uuid → Timestamp
  heartbeatIntervalMs : Nat
  sessionId : Uuid
  me : Uuid
  user : UserRow
  channel : Snowflake
  known : users.lookup me = some user

/-- How far `identify` has come. -/
inductive Identifying where
  | waiting
  | created
  | read (ready : Protocol.Ready)
  | dispatched
  | attached
deriving DecidableEq

namespace Identifying

/-- The rows of the READY have been read. -/
def hasRead : Identifying → Bool
  | .waiting | .created => false
  | .read _ | .dispatched | .attached => true

/-- The READY has been dispatched. -/
def hasDispatched : Identifying → Bool
  | .waiting | .created | .read _ => false
  | .dispatched | .attached => true

end Identifying

structure World where
  presence : Presence
  /-- The `on_leave`s that have read their recipients. -/
  leaving : List Leaving
  /-- The handlers that have written, in the order of their writes. -/
  handlers : List Handler
  identifying : Identifying
  /-- What was dispatched on the session. -/
  frames : List DispatchEvent

inductive Step where
  | createSession
  | readRoom
  | dispatchReady
  | attach
  /-- A webhook: its handler writes, except that `on_leave` reads its recipients. -/
  | handle (now : Timestamp) (action : Action)
  /-- An `on_leave` deletes the row. -/
  | delete (i : Nat)
  /-- A handler publishes its next event. -/
  | publish (i : Nat)

namespace World

def start (presence : Presence) : World := ⟨presence, [], [], .waiting, []⟩

/-- A handler has written. -/
def commit (w : World) (written : Presence × Option Handler) : World :=
  { w with presence := written.1, handlers := w.handlers ++ written.2.toList }

/-- The client, once it has applied what it received. -/
def client (w : World) : RoomSnapshot :=
  w.frames.foldl RoomSnapshot.applyRoomEvent emptyRoom

/-- The client, once it has applied the READY that was read as well. -/
def shown (w : World) : RoomSnapshot :=
  match w.identifying with
  | .read ready => emptyRoom.applyRoomEvent (.ready ready)
  | _ => w.client

end World

variable (s : Setting)

/-- What the queries of a READY see now. -/
def snapshot (w : World) : Ready.Snapshot :=
  ⟨s.replica, s.users, s.createdAt, w.presence⟩

/-- The READY, read now. -/
def readyNow (w : World) : Protocol.Ready :=
  Ready.build (snapshot s w) ⟨true, true, true⟩ s.heartbeatIntervalMs s.me s.sessionId

/-- The session gets what is published to its user once it is attached. -/
def hears (w : World) (h : Handler) : Prop :=
  w.identifying = .attached ∧ s.me ∈ h.recipientsIn s.users w.presence

instance (w : World) (h : Handler) : Decidable (hears s w h) :=
  inferInstanceAs (Decidable (_ ∧ _))

def step (w : World) : Step → World
  | .createSession =>
      match w.identifying with
      | .waiting => { w with identifying := .created }
      | _ => w
  | .readRoom =>
      match w.identifying with
      | .created => { w with identifying := .read (readyNow s w) }
      | _ => w
  | .dispatchReady =>
      match w.identifying with
      | .read ready =>
          { w with identifying := .dispatched, frames := w.frames ++ [.ready ready] }
      | _ => w
  | .attach =>
      match w.identifying with
      | .dispatched => { w with identifying := .attached }
      | _ => w
  | .handle now action =>
      match action with
      | .left channel userId =>
          { w with leaving := w.leaving ++ [readLeaving s.users channel userId w.presence] }
      | action => w.commit (write s.users now w.presence action)
  | .delete i =>
      match w.leaving[i]? with
      | none => w
      | some l => { w with leaving := w.leaving.eraseIdx i }.commit (writeLeave l w.presence)
  | .publish i =>
      match w.handlers[i]? with
      | none => w
      | some h =>
          match h.events with
          | [] => w
          | event :: rest =>
              { w with
                handlers := w.handlers.set i { h with events := rest }
                frames := if hears s w h then w.frames ++ [event] else w.frames }

/-! ## The property, and when it holds -/

/-- `me` is in the room. -/
def InRoom (w : World) : Prop :=
  Presence.channelOf s.me w.presence = some s.channel

instance : DecidablePred (InRoom s) := fun w =>
  inferInstanceAs (Decidable (Presence.channelOf s.me w.presence = some s.channel))

/-- Every step has run. -/
structure Quiet (w : World) : Prop where
  identified : w.identifying = .attached
  left : w.leaving = []
  published : ∀ h ∈ w.handlers, h.events = []

/-- The client has the participants and the live publications of the table. -/
structure Matches (w : World) : Prop where
  channelId : w.client.channelId = some s.channel
  participantIds : ∀ user, user ∈ w.client.participantIds ↔
    (participantOf s.users s.channel w.presence user).isSome
  participants : ∀ user,
    (w.client.participants.lookup user).map (fun p => ⟨p.user, publicationsOf p⟩) =
      participantOf s.users s.channel w.presence user
  publicationIds : ∀ user source, (user, source) ∈ w.client.publicationIds ↔
    ∃ p, participantOf s.users s.channel w.presence user = some p ∧
      (publicationSince p source).isSome

/-- Discord agrees about the room: the replica has the channel, and has the user in no
other room that they may join. -/
def DiscordAgrees (w : World) : Prop :=
  ((u64TryFrom s.channel).bind s.replica.channelInfo).isSome = true ∧
    ((u64TryFrom s.user.discordUserId).bind (Ready.voiceRoom (snapshot s w))).getD s.channel =
      s.channel

/-- The webhook of another room finds the row of its person not in this one. -/
def KeepsToItsRoom (w : World) : Action → Prop
  | .left _ _ | .finished _ => True
  | .joined c u | .publisherGone c u | .shareStarted c u _ | .shareStopped c u _ =>
      FindsNoRowHere s.channel c w.presence u

/-- The handlers that wrote about the same person of the same room before have
published. -/
def InOrder (w : World) (i : Nat) (h : Handler) : Prop :=
  ∀ earlier ∈ w.handlers.take i,
    earlier.channel = h.channel → earlier.userId = h.userId → earlier.events = []

/-- While nobody can hear what is published, it is what the READY shows. -/
def ShownAlready (w : World) (h : Handler) : Prop :=
  w.identifying.hasRead → w.identifying ≠ .attached →
    ∀ event ∈ h.events.head?, w.shown.applyRoomEvent event = w.shown

/-- The steps that the client can follow. -/
def Orderly (w : World) : Step → Prop
  | .createSession | .dispatchReady | .attach => True
  | .readRoom => DiscordAgrees s w
  | .handle _ action => KeepsToItsRoom s w action
  | .delete i => ∀ l ∈ w.leaving[i]?, FindsNoRowHere s.channel l.channel w.presence l.userId
  | .publish i => ∀ h ∈ w.handlers[i]?, h.channel = s.channel →
      InOrder w i h ∧ ShownAlready w h

instance (w : World) : Decidable (DiscordAgrees s w) :=
  inferInstanceAs (Decidable (_ ∧ Option.getD _ _ = s.channel))

instance (w : World) : ∀ action, Decidable (KeepsToItsRoom s w action)
  | .left _ _ => inferInstanceAs (Decidable True)
  | .finished _ => inferInstanceAs (Decidable True)
  | .joined c u => inferInstanceAs (Decidable (FindsNoRowHere s.channel c w.presence u))
  | .publisherGone c u => inferInstanceAs (Decidable (FindsNoRowHere s.channel c w.presence u))
  | .shareStarted c u _ => inferInstanceAs (Decidable (FindsNoRowHere s.channel c w.presence u))
  | .shareStopped c u _ => inferInstanceAs (Decidable (FindsNoRowHere s.channel c w.presence u))

instance (w : World) (i : Nat) (h : Handler) : Decidable (InOrder w i h) :=
  inferInstanceAs (Decidable (∀ earlier ∈ w.handlers.take i, _))

instance (w : World) (h : Handler) : Decidable (ShownAlready w h) :=
  inferInstanceAs (Decidable (_ → _ → ∀ event ∈ h.events.head?, _))

instance (w : World) : ∀ a, Decidable (Orderly s w a)
  | .createSession => inferInstanceAs (Decidable True)
  | .readRoom => inferInstanceAs (Decidable (DiscordAgrees s w))
  | .dispatchReady => inferInstanceAs (Decidable True)
  | .attach => inferInstanceAs (Decidable True)
  | .handle _ action => inferInstanceAs (Decidable (KeepsToItsRoom s w action))
  | .delete i => inferInstanceAs (Decidable (∀ l ∈ w.leaving[i]?, _))
  | .publish i => inferInstanceAs (Decidable (∀ h ∈ w.handlers[i]?, _ → _ ∧ _))

/-! ## The invariant -/

/-- What the client shows and what is still to be published make up the table. -/
structure Shows (w : World) : Prop where
  channelId : w.shown.channelId = some s.channel
  coherent : w.shown.Coherent
  profiles : Profiles (ProfileIn s.users) w.shown.participants
  standing : ∀ user, (pendingOf s.channel user w.handlers).foldl told (w.shown.view user) =
    standingIn s.channel w.presence user

structure Inv (w : World) : Prop where
  known : KnownOnly s.users w.presence
  leaving : ∀ l ∈ w.leaving, l.userId ≠ s.me → (s.me ∈ l.recipients ↔ l.channel = s.channel)
  recipients : ∀ h ∈ w.handlers, ∀ users, h.recipients = .users users →
    (s.me ∈ users ↔ h.channel = s.channel)
  speaks : ∀ h ∈ w.handlers, ∀ event ∈ h.events, Speaks s.users h event
  settled : ∀ user, Settled told (pendingOf s.channel user w.handlers)
    (standingIn s.channel w.presence user)
  silent : w.identifying.hasDispatched = false → w.frames = []
  shows : w.identifying.hasRead = true → Shows s w

section Steps

variable {s} {w : World} {written : Presence × Option Handler} {i : Nat} {h : Handler}
  {event : DispatchEvent} {rest : List DispatchEvent}

theorem mem_membersOf (hroom : InRoom s w) (c : Snowflake) :
    s.me ∈ membersOf s.users c w.presence ↔ c = s.channel := by
  obtain ⟨row, hrow, hchannel⟩ := Option.map_eq_some_iff.mp hroom
  unfold membersOf
  rw [List.mem_map]
  constructor
  · rintro ⟨p, hp, hme⟩
    obtain ⟨hrow', hc, -⟩ := Presence.mem_listByChannel.mp hp
    rw [hme, hrow] at hrow'
    rw [← hc, ← Option.some.inj hrow', hchannel]
  · rintro rfl
    exact ⟨⟨s.me, s.user, row⟩, Presence.mem_listByChannel.mpr ⟨hrow, hchannel, s.known⟩, rfl⟩

/-- The room hears about itself, and about no other room. -/
theorem Inv.hears_iff (hinv : Inv s w) (hroom : InRoom s w) (hmem : h ∈ w.handlers) :
    hears s w h ↔ w.identifying = .attached ∧ h.channel = s.channel := by
  unfold hears Handler.recipientsIn
  cases hrecipients : h.recipients with
  | room => rw [mem_membersOf hroom]
  | users users => rw [hinv.recipients h hmem users hrecipients]

/-- A handler has written. -/
theorem Inv.commit (hinv : Inv s w) (hwritten : Announced s.users s.channel w.presence written)
    (hrecipients : ∀ h, written.2 = some h → ∀ users, h.recipients = .users users →
      (s.me ∈ users ↔ h.channel = s.channel)) :
    Inv s (w.commit written) where
  known := hwritten.known hinv.known
  leaving := hinv.leaving
  recipients h hmem := by
    rcases List.mem_append.mp hmem with hold | hnew
    · exact hinv.recipients h hold
    · exact hrecipients h (Option.mem_toList.mp hnew)
  speaks h hmem := by
    rcases List.mem_append.mp hmem with hold | hnew
    · exact hinv.speaks h hold
    · exact hwritten.speaks h (Option.mem_toList.mp hnew)
  settled user := by
    simp only [World.commit, pendingOf_append, hwritten.standing]
    exact (hinv.settled user).append fun event _ => absorbed_told event
  silent := hinv.silent
  shows hread :=
    have hshows := hinv.shows hread
    { channelId := hshows.channelId
      coherent := hshows.coherent
      profiles := hshows.profiles
      standing := fun user => by
        simp only [World.commit, pendingOf_append, List.foldl_append, hwritten.standing]
        exact congrArg (fun x => List.foldl told x _) (hshows.standing user) }

theorem step_publish (hi : w.handlers[i]? = some h) (hevents : h.events = event :: rest) :
    step s w (.publish i) =
      { w with
        handlers := w.handlers.set i { h with events := rest }
        frames := if hears s w h then w.frames ++ [event] else w.frames } := by
  simp only [step, hi, hevents]

/-- What a publish adds to what the client shows. -/
theorem shown_publish (hinv : Inv s w) (hroom : InRoom s w) (hi : w.handlers[i]? = some h)
    (hevents : h.events = event :: rest) (hshown : h.channel = s.channel → ShownAlready w h)
    (hread : w.identifying.hasRead = true) :
    (step s w (.publish i)).shown =
      if h.channel = s.channel then w.shown.applyRoomEvent event else w.shown := by
  rw [step_publish hi hevents]
  have hhears := hinv.hears_iff hroom (List.mem_of_getElem? hi)
  by_cases hattached : w.identifying = .attached
  · by_cases hc : h.channel = s.channel
    · simp [hhears, hattached, hc, World.shown, World.client]
    · simp [hhears, hattached, hc, World.shown, World.client]
  · -- nobody hears it
    have hdeaf : ¬ hears s w h := fun hh => hattached (hhears.mp hh).1
    rw [if_neg hdeaf]
    split
    · next hc =>
        exact (hshown hc hread hattached event (by simp [hevents])).symm
    · rfl

/-- An event about a person of the room is applied, and is no longer pending. -/
theorem Shows.apply (hshows : Shows s w) (hspeaks : Speaks s.users h event)
    (hc : h.channel = s.channel) {w' : World}
    (hshown : w'.shown = w.shown.applyRoomEvent event) (hpresence : w'.presence = w.presence)
    (hpending : ∀ user, pendingOf s.channel user w.handlers =
      (if h.userId = user then [event] else []) ++ pendingOf s.channel user w'.handlers) :
    Shows s w' where
  channelId := by
    rw [hshown, channelId_applyRoomEvent hspeaks.subject, hshows.channelId]
  coherent := by
    rw [hshown]
    exact hshows.coherent.applyRoomEvent hspeaks.listsOnce
  profiles := by
    rw [hshown]
    exact profiles_applyRoomEvent hshows.profiles hspeaks.profile
  standing user := by
    have hview := view_applyRoomEvent hshows.coherent hspeaks.listsOnce hspeaks.subject
      (hc ▸ hshows.channelId) (v := user)
    rw [hshown, hview, hpresence, ← hshows.standing user, hpending user]
    by_cases hu : h.userId = user
    · simp [hu]
    · simp [hu, Ne.symm hu]

/-- The client goes on to show what it shows when a handler publishes. -/
theorem Inv.shows_publish (hinv : Inv s w) (hroom : InRoom s w) (hi : w.handlers[i]? = some h)
    (hevents : h.events = event :: rest) (horder : h.channel = s.channel → InOrder w i h)
    (hshown : h.channel = s.channel → ShownAlready w h) (hread : w.identifying.hasRead = true) :
    Shows s (step s w (.publish i)) := by
  have hbefore := hinv.shows hread
  have hafter := shown_publish hinv hroom hi hevents hshown hread
  have hspeaks := hinv.speaks h (List.mem_of_getElem? hi) event (by simp [hevents])
  have hpending := fun user => pendingOf_set hi hevents horder user
  rw [step_publish hi hevents] at hafter ⊢
  by_cases hc : h.channel = s.channel
  · rw [if_pos hc] at hafter
    exact hbefore.apply hspeaks hc hafter rfl fun user => by simpa [hc] using hpending user
  · rw [if_neg hc] at hafter
    have hsame : ∀ user, pendingOf s.channel user w.handlers =
        pendingOf s.channel user (w.handlers.set i { h with events := rest }) :=
      fun user => by simpa [hc] using hpending user
    exact
      { channelId := by rw [hafter, hbefore.channelId]
        coherent := by rw [hafter]; exact hbefore.coherent
        profiles := by rw [hafter]; exact hbefore.profiles
        standing := fun user => by rw [hafter, ← hsame user, hbefore.standing user] }

/-- A handler publishes its next event. -/
theorem Inv.publish (hinv : Inv s w) (hroom : InRoom s w) (hi : w.handlers[i]? = some h)
    (hevents : h.events = event :: rest) (horder : h.channel = s.channel → InOrder w i h)
    (hshown : h.channel = s.channel → ShownAlready w h) : Inv s (step s w (.publish i)) := by
  have hmem : h ∈ w.handlers := List.mem_of_getElem? hi
  have hset : ∀ h' ∈ w.handlers.set i { h with events := rest },
      h' ∈ w.handlers ∨ h' = { h with events := rest } := fun h' => List.mem_or_eq_of_mem_set
  have hshows := hinv.shows_publish hroom hi hevents horder hshown
  rw [step_publish hi hevents] at hshows ⊢
  exact
    { known := hinv.known
      leaving := hinv.leaving
      recipients := by
        intro h' hmem' users husers
        rcases hset h' hmem' with hold | rfl
        · exact hinv.recipients h' hold users husers
        · exact hinv.recipients h hmem users husers
      speaks := by
        intro h' hmem' event' hevent'
        rcases hset h' hmem' with hold | rfl
        · exact hinv.speaks h' hold event' hevent'
        · have hspeaks' := hinv.speaks h hmem event' (by simp_all)
          exact ⟨hspeaks'.subject, hspeaks'.listsOnce, hspeaks'.profile⟩
      settled := by
        intro user
        have hsettled := hinv.settled user
        rw [pendingOf_set hi hevents horder user] at hsettled
        split at hsettled
        · exact hsettled.tail
        · exact hsettled
      silent := by
        intro hnot
        -- before the READY nobody hears what is published
        have hdeaf : ¬ hears s w h := by
          intro hh
          rw [hh.1] at hnot
          cases hnot
        show (if hears s w h then w.frames ++ [event] else w.frames) = []
        rw [if_neg hdeaf]
        exact hinv.silent hnot
      shows := hshows }

/-- The READY carries the room. -/
theorem room_readyNow (hroom : InRoom s w) (hagrees : DiscordAgrees s w) :
    ∃ room, (readyNow s w).room = some room ∧ room.discordChannelId = s.channel := by
  have hchosen : Ready.roomChannel (snapshot s w) ⟨true, true, true⟩ s.me
      (u64TryFrom s.user.discordUserId) = some s.channel := by
    unfold Ready.roomChannel
    split
    · next other hother =>
        have hsame := hagrees.2
        rw [hother, Option.getD_some] at hsame
        rw [hsame]
    · exact hroom
  obtain ⟨info, hinfo⟩ := Option.isSome_iff_exists.mp hagrees.1
  obtain ⟨c, hc, hchannel⟩ := Option.bind_eq_some_iff.mp hinfo
  exact (Ready.handsOut_iff s.known).mpr
    ⟨rfl, rfl, hchosen, c, hc, Option.ne_none_iff_exists'.mpr ⟨info, hchannel⟩⟩

/-- The rows are read: what is pending by then is in them already. -/
theorem Inv.readRoom (hinv : Inv s w) (hroom : InRoom s w) (hagrees : DiscordAgrees s w)
    (hcreated : w.identifying = .created) :
    Inv s { w with identifying := .read (readyNow s w) } := by
  obtain ⟨room, hready, hchannel⟩ := room_readyNow hroom hagrees
  have hshown : World.shown { w with identifying := .read (readyNow s w) } =
      roomFromState room := by
    simp [World.shown, applyRoomEvent, hready]
  have hparticipants := participants_ready hready
  exact
    { hinv with
      silent := fun _ => hinv.silent (by rw [hcreated]; rfl)
      shows := fun _ =>
        { channelId := by rw [hshown, channelId_roomFromState, hchannel]
          coherent := by
            rw [hshown]
            exact Coherent.roomFromState fun p hp => (hparticipants p hp).1
          profiles := by
            rw [hshown]
            exact profiles_roomFromState fun p hp => (hparticipants p hp).2
          standing := by
            intro user
            rw [hshown, view_ready hinv.known hready, hchannel]
            exact (hinv.settled user).foldl } }

/-- The client shows the same, and the other parties do not move. -/
theorem Inv.of_shown {identifying : Identifying} {frames : List DispatchEvent} (hinv : Inv s w)
    (hread : w.identifying.hasRead = true)
    (hshown : World.shown { w with identifying := identifying, frames := frames } = w.shown)
    (hdispatched : identifying.hasDispatched = true) :
    Inv s { w with identifying := identifying, frames := frames } :=
  have hshows := hinv.shows hread
  { hinv with
    silent := fun hnot => by rw [hdispatched] at hnot; cases hnot
    shows := fun _ =>
      { channelId := hshown ▸ hshows.channelId
        coherent := hshown ▸ hshows.coherent
        profiles := hshown ▸ hshows.profiles
        standing := fun user => by rw [hshown]; exact hshows.standing user } }

theorem Inv.of_leaving {leaving : List Leaving} (hinv : Inv s w)
    (hleaving : ∀ l ∈ leaving, l.userId ≠ s.me → (s.me ∈ l.recipients ↔ l.channel = s.channel)) :
    Inv s { w with leaving := leaving } :=
  { hinv with
    leaving := hleaving
    shows := fun hread =>
      have hshows := hinv.shows hread
      ⟨hshows.channelId, hshows.coherent, hshows.profiles, hshows.standing⟩ }

theorem recipients_write {users : Users} {now : Timestamp} {presence : Presence}
    {action : Action} (hleft : ∀ c u, action ≠ .left c u)
    (hh : (write users now presence action).2 = some h) : h.recipients = .room := by
  cases action with
  | left c u => exact absurd rfl (hleft c u)
  | joined c u =>
      simp only [write] at hh
      split at hh
      · cases hh
      · cases hh
        rfl
  | publisherGone c u =>
      simp only [write] at hh
      split at hh
      · cases hh
      · cases hh
        rfl
  | shareStarted c u source =>
      simp only [write] at hh
      split at hh
      · cases hh
      · cases hh
        rfl
  | shareStopped c u source =>
      simp only [write] at hh
      split at hh
      · cases hh
      · cases hh
        rfl
  | finished c => cases hh

theorem announced_write {now : Timestamp} {action : Action} (hleft : ∀ c u, action ≠ .left c u)
    (hkeeps : KeepsToItsRoom s w action)
    (hafter : InRoom s (w.commit (write s.users now w.presence action))) :
    Announced s.users s.channel w.presence (write s.users now w.presence action) := by
  cases action with
  | left c u => exact absurd rfl (hleft c u)
  | joined c u => exact announced_joined hkeeps
  | publisherGone c u => exact announced_publisherGone hkeeps
  | shareStarted c u source => exact announced_shareStarted hkeeps
  | shareStopped c u source => exact announced_shareStopped hkeeps
  | finished c =>
      apply announced_finished
      -- the room of `me` is not emptied
      rintro rfl
      obtain ⟨row, hrow, hchannel⟩ := Option.map_eq_some_iff.mp hafter
      have hlookup : (Presence.clearChannel s.channel w.presence).lookup s.me = some row := hrow
      rw [Presence.lookup_clearChannel, Option.filter_eq_some_iff] at hlookup
      simp_all

theorem Inv.handle (hinv : Inv s w) (hroom : InRoom s w) {now : Timestamp} {action : Action}
    (hkeeps : KeepsToItsRoom s w action) (hafter : InRoom s (step s w (.handle now action))) :
    Inv s (step s w (.handle now action)) := by
  have hwrites : (∀ c u, action ≠ .left c u) →
      InRoom s (w.commit (write s.users now w.presence action)) →
      Inv s (w.commit (write s.users now w.presence action)) := by
    intro hleft hafter
    apply hinv.commit (announced_write hleft hkeeps hafter)
    intro h hh users husers
    rw [recipients_write hleft hh] at husers
    cases husers
  cases action with
  | joined c u => exact hwrites nofun hafter
  | publisherGone c u => exact hwrites nofun hafter
  | shareStarted c u source => exact hwrites nofun hafter
  | shareStopped c u source => exact hwrites nofun hafter
  | finished c => exact hwrites nofun hafter
  | left c u =>
      apply hinv.of_leaving
      intro l hmem hme
      rcases List.mem_append.mp hmem with hold | hnew
      · exact hinv.leaving l hold hme
      · obtain rfl := List.mem_singleton.mp hnew
        have hother : s.me ≠ u := Ne.symm hme
        simp only [readLeaving]
        split
        · exact mem_membersOf hroom c
        · simp [hother, mem_membersOf hroom c]

theorem Inv.delete (hinv : Inv s w) {l : Leaving} (hi : w.leaving[i]? = some l)
    (hhere : FindsNoRowHere s.channel l.channel w.presence l.userId)
    (hafter : InRoom s (step s w (.delete i))) : Inv s (step s w (.delete i)) := by
  have hmem : l ∈ w.leaving := List.mem_of_getElem? hi
  simp only [step, hi] at hafter ⊢
  have htaken : Inv s { w with leaving := w.leaving.eraseIdx i } :=
    hinv.of_leaving fun l' hl' => hinv.leaving l' (List.mem_of_mem_eraseIdx hl')
  have hother : l.userId ≠ s.me := by
    intro hme
    obtain ⟨row, hrow, -⟩ := Option.map_eq_some_iff.mp hafter
    have hlookup : (Presence.leave l.userId w.presence).1.lookup s.me = some row := hrow
    rw [Presence.lookup_leave, if_pos hme.symm] at hlookup
    cases hlookup
  apply htaken.commit (announced_writeLeave l hhere)
  intro h hh users husers
  cases hh
  cases husers
  exact hinv.leaving l hmem hother

theorem inv_start {presence : Presence} (hknown : KnownOnly s.users presence) :
    Inv s (World.start presence) where
  known := hknown
  leaving l hl := absurd hl List.not_mem_nil
  recipients h hh := absurd hh List.not_mem_nil
  speaks h hh := absurd hh List.not_mem_nil
  settled user := settled_nil _
  silent _ := rfl
  shows hread := by cases hread

theorem inv_step {a : Step} (hinv : Inv s w) (hroom : InRoom s w) (hok : Orderly s w a)
    (hafter : InRoom s (step s w a)) : Inv s (step s w a) := by
  cases a with
  | createSession =>
      simp only [step]
      split
      · next hwaiting =>
          exact
            { hinv with
              silent := fun _ => hinv.silent (by rw [hwaiting]; rfl)
              shows := nofun }
      · exact hinv
  | readRoom =>
      simp only [step]
      split
      · next hcreated => exact hinv.readRoom hroom hok hcreated
      · exact hinv
  | dispatchReady =>
      simp only [step]
      split
      · -- nothing was said before the READY, so it is all that the client shows
        next ready hread =>
          have hframes : w.frames = [] := hinv.silent (by rw [hread]; rfl)
          apply hinv.of_shown (by rw [hread]; rfl) _ rfl
          simp [World.shown, World.client, hread, hframes]
      · exact hinv
  | attach =>
      simp only [step]
      split
      · next hdispatched =>
          apply hinv.of_shown (by rw [hdispatched]; rfl) _ rfl
          simp [World.shown, World.client, hdispatched]
      · exact hinv
  | handle now action => exact hinv.handle hroom hok hafter
  | delete i =>
      cases hi : w.leaving[i]? with
      | none => simpa only [step, hi] using hinv
      | some l => exact hinv.delete hi (hok l hi) hafter
  | publish i =>
      cases hi : w.handlers[i]? with
      | none => simpa only [step, hi] using hinv
      | some h =>
          cases hevents : h.events with
          | nil => simpa only [step, hi, hevents] using hinv
          | cons event rest =>
              exact hinv.publish hroom hi hevents (fun hc => (hok h hi hc).1)
                fun hc => (hok h hi hc).2

/-- With nothing left to be published, the client shows the table. -/
theorem Inv.matches (hinv : Inv s w) (hquiet : Quiet w) : Matches s w := by
  have hshows := hinv.shows (by rw [hquiet.identified]; rfl)
  have hshown : w.shown = w.client := by simp [World.shown, hquiet.identified]
  have hview : ∀ user, w.client.view user = standingIn s.channel w.presence user := by
    intro user
    have hnone : pendingOf s.channel user w.handlers = [] := by
      unfold pendingOf
      rw [List.flatMap_eq_nil_iff]
      exact fun h hmem => hquiet.published h (List.mem_filter.mp hmem).1
    rw [← hshows.standing user, hnone, hshown]
    rfl
  have hcoherent : w.client.Coherent := hshown ▸ hshows.coherent
  have hprofiles : Profiles (ProfileIn s.users) w.client.participants := hshown ▸ hshows.profiles
  have hparticipants := fun user =>
    participant_of_view hcoherent hprofiles hinv.known (hview user)
  exact
    { channelId := hshown ▸ hshows.channelId
      participantIds := by
        intro user
        rw [hcoherent.mem_participantIds, ← hparticipants user, Option.isSome_map]
      participants := hparticipants
      publicationIds := by
        intro user source
        have hlisted : (w.client.participants.lookup user).map publicationSince =
            (participantOf s.users s.channel w.presence user).map publicationSince :=
          (hview user).trans (standingIn_eq hinv.known)
        have hstanding : ∀ o : Option RoomParticipant,
            (∃ p, o = some p ∧ (publicationSince p source).isSome) ↔
              ∃ since, o.map publicationSince = some since ∧ (since source).isSome := by
          intro o
          cases o with
          | none => simp
          | some p => simp
        rw [hcoherent.mem_publicationIds, hstanding, hstanding, hlisted] }

end Steps

/-! ## The runs -/

/-- In every run in which the user is in the room throughout and every step is one that
the client can follow, whenever every step has run, the client has the participants and
the publications of the table. -/
theorem converges_throughout (presence : Presence) (steps : List Step)
    (hknown : KnownOnly s.users presence)
    (hroom : Throughout (step s) (InRoom s) (World.start presence) steps)
    (hok : EachStep (step s) (Orderly s) (World.start presence) steps) :
    Throughout (step s) (fun w => Quiet w → Matches s w) (World.start presence) steps := by
  have hstart : Inv s (World.start presence) ∧ InRoom s (World.start presence) :=
    ⟨inv_start hknown, hroom.head⟩
  have hinv := throughout_of_eachStep
    (fun w a (hw : Inv s w ∧ InRoom s w) (ha : Orderly s w a ∧ InRoom s (step s w a)) =>
      (⟨inv_step hw.1 hw.2 ha.1 ha.2, ha.2⟩ : Inv s (step s w a) ∧ InRoom s (step s w a)))
    hstart (hok.and_after hroom)
  exact hinv.mono fun w hw hquiet => hw.1.matches hquiet

/-- Two accounts, and a guild with one voice channel. -/
def sala : Setting where
  replica := Replica.replaceGuild
    { id := 100
      ownerId := 1
      roles := [⟨100, 0⟩]
      members := (∅ : Table UInt64 (List UInt64)).insert 30 []
      channels := (∅ : Table UInt64 ChannelData).insert 5 ⟨5, "sala", []⟩
      voice := ∅ } (Replica.new 60)
  users := ((∅ : Users).insert 3 ⟨30, "ana", none, none⟩ : Users).insert 4
    ⟨40, "bia", none, none⟩
  createdAt := fun _ => 0
  heartbeatIntervalMs := 30000
  sessionId := 1
  me := 3
  user := ⟨30, "ana", none, none⟩
  channel := 5
  known := by decide

/-- Somebody who is in the room starts to share while the client identifies. -/
def arriving : Presence := Presence.join 11 4 5 (Presence.join 10 3 5 ∅)

theorem known_arriving : KnownOnly sala.users arriving := by
  intro user row hrow
  unfold arriving at hrow
  rw [Presence.lookup_join, Presence.lookup_join] at hrow
  split at hrow
  · next hu => rw [hu]; decide
  · split at hrow
    · next hu => rw [hu]; decide
    · simp at hrow

theorem share_around_ready_converges :
    Throughout (step sala) (fun w => Quiet w → Matches sala w) (World.start arriving)
      [.createSession, .handle 12 (.shareStarted 5 4 .screen), .readRoom, .dispatchReady,
        .publish 0, .handle 13 (.shareStarted 5 4 .camera), .attach, .publish 1,
        .handle 14 (.left 5 4), .delete 0, .publish 2] :=
  converges_throughout sala arriving _ known_arriving (by decide) (by decide)

/-- Somebody starts to share after the rows were read, and that is published before the
session is attached. -/
def unheard : List Step :=
  [.createSession, .readRoom, .handle 12 (.shareStarted 5 4 .screen), .publish 0,
    .dispatchReady, .attach]

/-- The share is never heard of. -/
theorem started_before_attach_is_lost :
    ¬ ∀ (s : Setting) (presence : Presence) (steps : List Step), KnownOnly s.users presence →
      Throughout (step s) (InRoom s) (World.start presence) steps →
      Throughout (step s) (fun w => Quiet w → Matches s w) (World.start presence) steps := by
  intro h
  have hall := h sala arriving unheard known_arriving (by decide)
  have hend : Quiet (run (step sala) (World.start arriving) unheard) →
      Matches sala (run (step sala) (World.start arriving) unheard) :=
    throughout_iff_initial.mp hall unheard (List.prefix_refl _)
  have hparticipant := (hend ⟨by decide, by decide, by decide⟩).participants 4
  exact absurd hparticipant (by decide)

end FreshClient
end Gateway
end Ldktela
