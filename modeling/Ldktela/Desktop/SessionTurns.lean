import Ldktela.Desktop.TileState
import Ldktela.Desktop.Tiles

/-!
# The media session, turn by turn

`MediaSession` of `desktop/src/media/session.ts` on the whole media store: what it holds of
the remote publications and of our own shares, and the interval that samples the statistics.
A call of the session runs until it awaits; each definition here is one such piece, and the
modules above this one put them in sequence or interleave them.

An audio element belongs to the tile that registers it (`ScreenTile.tsx` creates one for each),
so it is kept with the publication that it is held for.  What LiveKit does to an element when
a track is attached or detached is code outside the repository.
-/

namespace Ldktela
namespace Desktop
namespace SessionTurns

open Protocol
open Desktop.Core (AudioModeReport)

inductive SourceKind where
  | screen
  | window
deriving DecidableEq

/-- What the core needs to start a share; remembered so a preset change can redo it. -/
structure ShareChoice where
  sourceId : String
  kind : SourceKind
  audio : Bool
  title : String
deriving DecidableEq

/-- What the session sets on an audio element. -/
structure AudioElement where
  muted : Bool
  volume : Rat

structure LiveKit where
  attach : AudioElement → AudioElement
  detach : AudioElement → AudioElement

/-- What is held for one remote publication. -/
structure Held extends RemotePublication where
  audioElement : Option AudioElement

/-- The session, with the store, the user and the intervals of the page. -/
structure Client (Stats : Type) where
  me : Option Identity
  channelId : Option Snowflake
  sharing : Option ShareChoice
  remotes : Table PublicationId Held
  statsTimer : Option Nat
  /-- The intervals that run, and the next handle of `setInterval`. -/
  intervals : List Nat
  issued : Nat
  store : MediaStore Stats

/-- While we transmit audio, other people's screens are silenced, unless only a window is
captured. -/
def shouldSilenceOtherScreens {Stats : Type} (store : MediaStore Stats) : Bool :=
  store.publishing && store.sharingAudio && decide (store.audioMode ≠ some .onlyWindow)

namespace Client

variable {Stats : Type}

def new : Client Stats := ⟨none, none, none, ∅, none, [], 0, .initial⟩

/-- An action of the store. -/
def update (action : MediaAction Stats) (c : Client Stats) : Client Stats :=
  { c with store := c.store.step action }

def held (id : PublicationId) (c : Client Stats) : Held :=
  (c.remotes.lookup id).getD { emptyPublication with audioElement := none }

def hold (id : PublicationId) (held : Held) (c : Client Stats) : Client Stats :=
  { c with remotes := c.remotes.insert id held }

def applyAudioPolicy (c : Client Stats) : Client Stats :=
  let silence := shouldSilenceOtherScreens c.store
  { c with
    remotes := c.remotes.mapVal fun id held =>
      { held with
        audioElement := held.audioElement.map fun element =>
          { element with
            muted := silence
            volume := ((c.store.publications.lookup id).map PublicationState.volume).getD 1 } } }

def registerAudioElement (kit : LiveKit) (id : PublicationId) (element : Option AudioElement)
    (c : Client Stats) : Client Stats :=
  let held := c.held id
  match element with
  | none => c.hold id { held with audioElement := none }
  | some element =>
      -- the audio may have arrived before the tile was drawn
      let element := if held.audio.isSome then kit.attach element else element
      (c.hold id { held with audioElement := some element }).applyAudioPolicy

/-! ## Sampling -/

def stopStatsSampling (c : Client Stats) : Client Stats :=
  let c := match c.statsTimer with
    | none => c
    | some handle => { c with intervals := c.intervals.erase handle, statsTimer := none }
  (c.update (.setStats none)).update (.setCameraStats none)

def startStatsSampling (c : Client Stats) : Client Stats :=
  -- both sources start the same interval, so the one that runs is stopped first
  let c := c.stopStatsSampling
  { c with
    intervals := c.intervals ++ [c.issued]
    statsTimer := some c.issued
    issued := c.issued + 1 }

def stopStatsSamplingIfIdle (c : Client Stats) : Client Stats :=
  if c.sharing.isNone && !c.store.camera.publishing then c.stopStatsSampling else c

/-- What an interval does when it comes, with the answers of the core. -/
def sampleStats (share camera : Option Stats) (c : Client Stats) : Client Stats :=
  let next := if c.sharing.isSome then c.update (.setStats share) else c
  if c.store.camera.publishing then next.update (.setCameraStats camera) else next

/-! ## The screen -/

/-- `startShare` goes on to ask for a token. -/
def canShare (c : Client Stats) : Bool :=
  c.channelId.isSome && c.sharing.isNone

/-- `startShare`, up to the token. -/
def beginShare (c : Client Stats) : Client Stats :=
  c.update (.setStarting true)

/-- `startShare`, refused by the server or by the core. -/
def shareRefused (c : Client Stats) : Client Stats :=
  c.update (.setStarting false)

/-- `startShare`, on the air. -/
def shareStarted (choice : ShareChoice) (audio : Option AudioModeReport) (c : Client Stats) :
    Client Stats :=
  let c := { c with sharing := some choice }
  let c := c.update (.setPublishing true audio.isSome audio (some choice.title))
  c.applyAudioPolicy.startStatsSampling

/-- `stopShare`, up to the core. -/
def stopSharing (c : Client Stats) : Client Stats :=
  -- not `stopStatsSamplingIfIdle`: the camera is not asked
  let c := ({ c with sharing := none }).stopStatsSampling
  (c.update (.setPublishing false false none none)).applyAudioPolicy

/-! ## The camera -/

def canStartCamera (c : Client Stats) : Bool :=
  c.channelId.isSome && !c.store.camera.publishing

def beginCamera (c : Client Stats) : Client Stats :=
  c.update (.setCameraStarting true)

def cameraRefused (c : Client Stats) : Client Stats :=
  c.update (.setCameraStarting false)

def cameraStarted (device : CameraDevice) (c : Client Stats) : Client Stats :=
  (c.update (.setCameraPublishing (some device))).startStatsSampling

/-- `stopCamera`, up to the core; what follows it is `stopStatsSamplingIfIdle`. -/
def stopCameraPublishing (c : Client Stats) : Client Stats :=
  c.update (.setCameraPublishing none)

/-- `onShareEnded`: the core stopped a source without being asked. -/
def shareEnded (source : PublicationSource) (c : Client Stats) : Client Stats :=
  match source with
  | .camera =>
      if c.store.camera.publishing then
        (c.update (.setCameraPublishing none)).stopStatsSamplingIfIdle
      else c
  | .screen =>
      if c.sharing.isNone then c
      else
        let c := ({ c with sharing := none }).update (.setPublishing false false none none)
        c.applyAudioPolicy.stopStatsSamplingIfIdle

/-! ## Remote publications -/

def setVolume (id : PublicationId) (volume : Number) (c : Client Stats) : Client Stats :=
  (c.update (.setVolume id volume)).applyAudioPolicy

def setPublicationSubscribed (id : PublicationId) (subscribed : Bool) (c : Client Stats) :
    Client Stats :=
  let next := c.update (.setSubscribed id subscribed)
  -- its tile leaves the layout, and the focus on it would leave the window empty
  if !subscribed && decide (c.store.focused = some id) then next.update (.focus none) else next

def setQuality (id : PublicationId) (quality : QualityChoice) (c : Client Stats) : Client Stats :=
  c.update (.setQuality id quality)

/-- `viewerIds` is what `syncViewers` finds in the room. -/
def adoptPublication (kit : LiveKit) (sid : Nat) (t : RemoteTrack) (viewerIds : List Identity)
    (c : Client Stats) : Client Stats :=
  if Viewer.isOurOwnPublisher c.me t.identity then c
  else
    match t.publicationId with
    | none => c
    | some id =>
        -- a track whose kind does not fit its source is neither
        if t.source ≠ .screenShareAudio ∧ t.kind = .video then
          let c := c.hold id { c.held id with video := some sid, publication := some sid }
          (c.update (.addTrack id .video)).update (.setViewerIds viewerIds)
        else if t.source = .screenShareAudio ∧ t.kind = .audio then
          let held := c.held id
          let c := c.hold id
            { held with audio := some sid, audioElement := held.audioElement.map kit.attach }
          (c.update (.addTrack id .audio)).applyAudioPolicy
        else c

def dropTrack (kit : LiveKit) (t : RemoteTrack) (viewerIds : List Identity) (c : Client Stats) :
    Client Stats :=
  match t.publicationId with
  | none => c
  | some id =>
      match c.remotes.lookup id with
      | none => c
      | some held =>
          if t.source = .screenShareAudio then
            let element := if held.audio.isSome then held.audioElement.map kit.detach
              else held.audioElement
            (c.hold id { held with audio := none, audioElement := element }).update
              (.removeTrack id .audio)
          else
            ((c.hold id { held with video := none, publication := none }).update
              (.removeTrack id .video)).update (.setViewerIds viewerIds)

/-- One publication is gone for good. -/
def forget (id : PublicationId) (c : Client Stats) : Client Stats :=
  ({ c with remotes := c.remotes.erase id }).update (.dropPublication id)

/-- Everything one person was transmitting is gone: both sources go along. -/
def forgetOwner (owner : Identity) (c : Client Stats) : Client Stats :=
  let c := (c.remotes.keys.filter fun id => id.ownerId = owner).foldl (fun c id => c.forget id) c
  (c.update (.dropPublication ⟨owner, .screen⟩)).update (.dropPublication ⟨owner, .camera⟩)

/-- `TrackUnpublished`. -/
def unpublished (t : RemoteTrack) (viewerIds : List Identity) (c : Client Stats) : Client Stats :=
  match t.publicationId with
  | none => c
  | some id =>
      if t.source = .screenShareAudio then c
      else (c.forget id).update (.setViewerIds viewerIds)

def detachAll (c : Client Stats) : Client Stats :=
  c.remotes.keys.foldl (fun c id => c.forget id) c

/-! ## The room -/

/-- `connect`: the server or LiveKit refuses, or there is a room with these tracks. -/
def connect (kit : LiveKit) (joined : Option (List (Nat × RemoteTrack) × List Identity))
    (c : Client Stats) : Client Stats :=
  match c.channelId with
  | none => c
  | some _ =>
      let c := (c.update (.setConnection .connecting none)).detachAll
      match joined with
      | none => c.update (.setConnection .failed (some .unreachable))
      | some (tracks, viewerIds) =>
          let c := c.update (.setConnection .connected none)
          let c := tracks.foldl (fun c track => c.adoptPublication kit track.1 track.2 viewerIds) c
          c.update (.setViewerIds viewerIds)

/-- `leave`, from its call to its end. -/
def leave (c : Client Stats) : Client Stats :=
  let c := ({ c.stopStatsSampling with channelId := none }).detachAll
  -- the reset takes the camera off the air as well
  ({ c with sharing := none }).update .reset

/-- `follow`, from its call to its end. -/
def follow (kit : LiveKit) (channelId : Option Snowflake)
    (joined : Option (List (Nat × RemoteTrack) × List Identity)) (c : Client Stats) :
    Client Stats :=
  if channelId = c.channelId then c
  else ({ c.leave with channelId }).connect kit joined

end Client

end SessionTurns
end Desktop
end Ldktela
