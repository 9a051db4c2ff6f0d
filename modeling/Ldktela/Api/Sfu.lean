import Ldktela.Api.Rooms

/-!
# What the SFU reports

The tracks of a publishing connection, the changes of the two connections of one
person to a room, and the webhook each of them emits.
-/

namespace Ldktela
namespace Api
namespace Rooms

open Protocol

/-- What a publishing connection has on the air. -/
structure Tracks where
  screen : Bool
  camera : Bool
deriving DecidableEq

namespace Tracks

def none : Tracks := ⟨false, false⟩

def get (tracks : Tracks) : PublicationSource → Bool
  | .screen => tracks.screen
  | .camera => tracks.camera

def set (source : PublicationSource) (live : Bool) (tracks : Tracks) : Tracks :=
  match source with
  | .screen => { tracks with screen := live }
  | .camera => { tracks with camera := live }

@[simp]
theorem get_none (source : PublicationSource) : Tracks.none.get source = false := by
  cases source with
  | screen => rfl
  | camera => rfl

theorem get_set (source s : PublicationSource) (live : Bool) (tracks : Tracks) :
    (tracks.set source live).get s = if s = source then live else tracks.get s := by
  cases source with
  | screen => cases s with
      | screen => rfl
      | camera => rfl
  | camera => cases s with
      | screen => rfl
      | camera => rfl

end Tracks

/-- What can happen to the two connections of one person. -/
inductive Change where
  | viewerJoins
  | viewerLeaves
  | publisherJoins
  | publisherLeaves
  | publishes (source : PublicationSource)
  | unpublishes (source : PublicationSource)
deriving DecidableEq

namespace Change

def trackSource : PublicationSource → TrackSource
  | .screen => .screenShare
  | .camera => .camera

/-- The webhook the change emits. -/
def emitted (channel : Snowflake) (u : Uuid) : Change → WebhookEvent
  | viewerJoins => ⟨.participantJoined, some channel, some ⟨some u, false⟩, none⟩
  | viewerLeaves => ⟨.participantLeft, some channel, some ⟨some u, false⟩, none⟩
  | publisherJoins => ⟨.participantJoined, some channel, some ⟨some u, true⟩, none⟩
  | publisherLeaves => ⟨.participantLeft, some channel, some ⟨some u, true⟩, none⟩
  | publishes source =>
      ⟨.trackPublished, some channel, some ⟨some u, true⟩, some (trackSource source)⟩
  | unpublishes source =>
      ⟨.trackUnpublished, some channel, some ⟨some u, true⟩, some (trackSource source)⟩

/-- The handler the webhook of a change reaches. -/
theorem action_emitted (channel : Snowflake) (u : Uuid) (change : Change) :
    action (change.emitted channel u) =
      match change with
      | viewerJoins => some (.joined channel u)
      | viewerLeaves => some (.left channel u)
      | publisherJoins => none
      | publisherLeaves => some (.publisherGone channel u)
      | publishes source => some (.shareStarted channel u source)
      | unpublishes source => some (.shareStopped channel u source) := by
  cases change with
  | viewerJoins => rfl
  | viewerLeaves => rfl
  | publisherJoins => rfl
  | publisherLeaves => rfl
  | publishes source => cases source with
      | screen => rfl
      | camera => rfl
  | unpublishes source => cases source with
      | screen => rfl
      | camera => rfl

end Change

end Rooms
end Api
end Ldktela
