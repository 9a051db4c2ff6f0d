import Ldktela.Api.Rooms

/-!
# The webhook handlers in flight

The handlers of `crates/api/src/routes/rooms.rs` once more, in the steps that other
handlers can come between: the write of the presence, and the publishes that follow
it.  `on_leave` reads its recipients before it writes; the others publish to whoever
is in the room by then.

`perform_alone` says that the steps of one handler, taken without interruption, are the
handler of `Api.Rooms`.
-/

namespace Ldktela
namespace Api
namespace Rooms

open Protocol
open Db

/-- Whom a handler publishes to. -/
inductive Recipients where
  /-- Whoever is in the room when it publishes. -/
  | room
  | users (users : List Uuid)
deriving DecidableEq

/-- A handler that has written, with the events it has still to publish. -/
structure Handler where
  channel : Snowflake
  userId : Uuid
  recipients : Recipients
  events : List DispatchEvent
deriving DecidableEq

/-- An `on_leave` that has read its recipients and not written yet. -/
structure Leaving where
  channel : Snowflake
  userId : Uuid
  recipients : List Uuid
deriving DecidableEq

def membersOf (users : Users) (channel : Snowflake) (presence : Presence) : List Uuid :=
  (Presence.listByChannel users channel presence).map fun p => p.userId

/-- The recipients of the events of a handler, were it to publish now. -/
def Handler.recipientsIn (users : Users) (presence : Presence) (h : Handler) : List Uuid :=
  match h.recipients with
  | .room => membersOf users h.channel presence
  | .users recipients => recipients

/-- The first step of `on_leave`. -/
def readLeaving (users : Users) (channel : Snowflake) (userId : Uuid) (presence : Presence) :
    Leaving :=
  let members := membersOf users channel presence
  ⟨channel, userId, if userId ∈ members then members else members ++ [userId]⟩

/-- The write of `on_leave`. -/
def writeLeave (l : Leaving) (presence : Presence) : Presence × Option Handler :=
  ((Presence.leave l.userId presence).1,
    some ⟨l.channel, l.userId, .users l.recipients,
      [.roomParticipantRemove ⟨l.channel, l.userId⟩]⟩)

/-- The write of a handler, and what it has then to publish. -/
def write (users : Users) (now : Timestamp) (presence : Presence) :
    Action → Presence × Option Handler
  | .joined channel userId =>
      match users.lookup userId with
      | none => (presence, none)
      | some profile =>
          (Presence.join now userId channel presence,
            some ⟨channel, userId, .room,
              [.roomParticipantAdd ⟨channel, ⟨userSummary userId profile, []⟩⟩]⟩)
  | .left channel userId => writeLeave (readLeaving users channel userId presence) presence
  | .publisherGone channel userId =>
      match Presence.clearPublications userId presence with
      | (_, none) => (presence, none)
      | (presence, some cleared) =>
          (presence, some ⟨channel, userId, .room,
            cleared.sources.map fun source => .shareStop ⟨channel, userId, source⟩⟩)
  | .shareStarted channel userId source =>
      match Presence.startPublication now userId source presence with
      | (_, none) => (presence, none)
      | (presence, some started) =>
          (presence, some ⟨channel, userId, .room,
            [.shareStart ⟨channel, userId, source, started.since⟩]⟩)
  | .shareStopped channel userId source =>
      match Presence.stopPublication userId source presence with
      | (_, none) => (presence, none)
      | (presence, some _) =>
          (presence, some ⟨channel, userId, .room, [.shareStop ⟨channel, userId, source⟩]⟩)
  | .finished channel => (Presence.clearChannel channel presence, none)

/-! ## A handler that runs alone -/

section Alone

variable (now : Timestamp) (st : ServerState) (channel : Snowflake)

/-- What a handler publishes when nothing comes between its steps. -/
def publishedBy (users : Users) (written : Presence × Option Handler) :
    List (List Uuid × DispatchEvent) :=
  written.2.toList.flatMap fun h =>
    h.events.map fun event => (h.recipientsIn users written.1, event)

theorem foldl_publishToRoom (events : List DispatchEvent) (st : ServerState) :
    events.foldl (fun st event => publishToRoom channel event st) st =
      { st with published :=
          st.published ++ events.map fun event => (roomMembers channel st, event) } := by
  induction events generalizing st with
  | nil => simp
  | cons event events ih =>
      rw [List.foldl_cons, ih]
      simp [publishToRoom, publishToUsers, roomMembers, participants]

/-- The steps of one handler without interruption are the handler. -/
theorem perform_alone (action : Action) :
    (perform now st action).presence = (write st.users now st.presence action).1 ∧
      (perform now st action).published =
        st.published ++ publishedBy st.users (write st.users now st.presence action) := by
  cases action with
  | joined channel userId =>
      cases huser : st.users.lookup userId with
      | none => simp [perform, onJoin, write, huser, publishedBy]
      | some profile =>
          simp [perform, onJoin, write, huser, publishedBy, publishToRoom, publishToUsers,
            observeRoom, roomMembers, participants, membersOf, Handler.recipientsIn]
  | left channel userId =>
      simp [perform, onLeave, write, writeLeave, readLeaving, publishedBy, publishToUsers,
        observeRoom, roomMembers, participants, membersOf, Handler.recipientsIn]
  | publisherGone channel userId =>
      cases hrow : st.presence.lookup userId with
      | none =>
          simp [perform, onPublisherGone, write, publishedBy, Presence.clearPublications, hrow]
      | some row =>
          -- one `shareStop` for each source that was on the air, in that order
          have hfold := fun (sources : List PublicationSource) =>
            foldl_publishToRoom channel
              (sources.map fun source => .shareStop ⟨channel, userId, source⟩)
          simp only [List.foldl_map] at hfold
          simp [perform, onPublisherGone, write, publishedBy, Presence.clearPublications, hrow,
            hfold, observeRoom, roomMembers, participants, membersOf, Handler.recipientsIn]
  | shareStarted channel userId source =>
      cases hrow : st.presence.lookup userId with
      | none => simp [perform, onShareStart, write, publishedBy, Presence.startPublication, hrow]
      | some row =>
          simp [perform, onShareStart, write, publishedBy, Presence.startPublication, hrow,
            publishToRoom, publishToUsers, observeRoom, roomMembers, participants, membersOf,
            Handler.recipientsIn]
  | shareStopped channel userId source =>
      cases hrow : st.presence.lookup userId with
      | none => simp [perform, onShareStop, write, publishedBy, Presence.stopPublication, hrow]
      | some row =>
          simp [perform, onShareStop, write, publishedBy, Presence.stopPublication, hrow,
            publishToRoom, publishToUsers, observeRoom, roomMembers, participants, membersOf,
            Handler.recipientsIn]
  | finished channel =>
      simp [perform, roomFinished, write, publishedBy]

end Alone

end Rooms
end Api
end Ldktela
