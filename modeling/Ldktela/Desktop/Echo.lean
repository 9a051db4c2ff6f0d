import Ldktela.Api.Config
import Ldktela.Desktop.Agreement
import Ldktela.Desktop.AudioCapture
import Ldktela.Desktop.AudioPolicy

/-!
# Other people's screens in the sound of our own share

What the core captures and what the page plays meet on the same machine: a capture of the whole
system, or of the system without Discord, carries the sound of the screens that the page plays.
`applyAudioPolicy` silences them from the mode that `share_start` answers with, so the two sides
agree only as far as answers, stops and events arrive in time.

The page is the session of `desktop/src/media/session.ts` in its room, the core that of
`desktop/src-tauri/src/share.rs`, and a call of the page is answered later.  `noEcho_of_timely`:
while no answer and no stop is on its way, somebody else's screen is audible here only when the
share captures the tree of one process, the owner of the shared window.
-/

namespace Ldktela
namespace Desktop
namespace Echo

open Protocol Runs
open DiscordTree (Process)
open Desktop.Audio
open Desktop.Core (AudioModeReport Command Release ScreenOutcome)
open Desktop.SessionTurns (Client LiveKit ShareChoice shouldSilenceOtherScreens)

/-! ## The page and the core -/

/-- A call of the page about its share, by what it awaits. -/
inductive Call where
  /-- `startShare`: the publish token. -/
  | token (choice : ShareChoice)
  /-- `startShare`: the core. -/
  | native (choice : ShareChoice)
  /-- `startShare`: the answer of the core, which has run the start of this number. -/
  | answered (choice : ShareChoice) (start : Nat) (audio : Option AudioModeReport)
  /-- `startShare`: the answer of the core, which has refused. -/
  | refused
  /-- `stopShare`: the core; `switchShare` and `changePreset` start again after it. -/
  | stop (again : Option ShareChoice)
  /-- `stopShare`: the answer of the core, which has run it. -/
  | stopped (again : Option ShareChoice)
deriving DecidableEq

structure World (Stats : Type) where
  client : Client Stats
  calls : List Call
  core : Core.State
  /-- The last share that went on the air, and what Windows answered to its audio capture. -/
  shared : Option (ShareChoice × Windows)
  /-- `share://ended` events on their way. -/
  events : List PublicationSource

inductive Act (Stats : Type) where
  | startShare (choice : ShareChoice)
  | stopShare
  | switchShare (choice : ShareChoice)
  | changePreset (preset : PublishPreset)
  /-- The server answers the token request of a start. -/
  | granted (choice : ShareChoice) (token : Bool)
  /-- The core runs a start; `lost` says that the capture it opens is lost at once. -/
  | native (choice : ShareChoice) (windows : Windows) (outcome : ScreenOutcome) (lost : Bool)
  | answered (choice : ShareChoice) (start : Nat) (audio : Option AudioModeReport)
  | refused
  /-- The core runs a stop. -/
  | nativeStop (again : Option ShareChoice)
  | stopped (again : Option ShareChoice)
  | cameraStart (outcome : Core.CameraOutcome) (lost : Bool)
  | cameraStop
  /-- A capture ends by itself. -/
  | lost (source : PublicationSource)
  /-- A connection tells of its end, whoever ended it. -/
  | disconnected (connection : Nat)
  /-- What `give_up` has scheduled runs. -/
  | release (task : Release)
  /-- An event arrives. -/
  | ended (source : PublicationSource)
  /-- A turn of the page that is about something else, with the calls it has in flight. -/
  | turn (calls : List SessionTurns.Call) (act : SessionTurns.Act Stats)

/-- The call is about the camera. -/
def ofCamera : SessionTurns.Call → Bool
  | .shareToken _ | .shareNative _ | .shareStop _ => false
  | .cameraToken _ | .cameraNative _ | .cameraStop _ => true

/-- The turn is not about our own screen and leaves the session in its room. -/
def aside {Stats : Type} (calls : List SessionTurns.Call) : SessionTurns.Act Stats → Bool
  | .startShare _ | .stopShare | .switchShare _ | .changePreset _ | .follow _ _ | .leave => false
  | .shareEnded source => source = .camera
  | .answered place _ _ => (calls[place]?).all ofCamera
  | _ => true

/-- `parse` of the id that the picker was given as text. -/
def parseSourceId (raw : String) : Option UInt64 :=
  match Api.Env.parseUnsigned (2 ^ 64 - 1) raw with
  | .ok id => some id.toUInt64
  | .error _ => none

/-- The window or the monitor of a start that comes as far as its captures. -/
def sourceIdOf (choice : ShareChoice) : UInt64 :=
  (parseSourceId choice.sourceId).getD 0

/-- The audio capture of such a start. -/
def audioOf (choice : ShareChoice) (windows : Windows) :
    Option Opened × Option AudioModeReport :=
  startAudio windows choice.audio choice.kind (sourceIdOf choice)

namespace World

variable {Stats : Type}

def startShare (choice : ShareChoice) (w : World Stats) : World Stats :=
  if w.client.canShare then
    { w with client := w.client.beginShare, calls := .token choice :: w.calls }
  else
    w

def stopShare (again : Option ShareChoice) (w : World Stats) : World Stats :=
  { w with client := w.client.stopSharing, calls := .stop again :: w.calls }

/-- `share_start` of the core. -/
def nativeStart (choice : ShareChoice) (windows : Windows) (outcome : ScreenOutcome)
    (lost : Bool) (w : World Stats) : World Stats :=
  let audio := audioOf choice windows
  let request : Core.StartRequest := ⟨parseSourceId choice.sourceId, choice.audio⟩
  let outcome := { outcome with audioMode := audio.2 }
  let core := w.core.command (.shareStart request outcome) lost
  match (w.core.sharing.live.shareStart w.core.sharing.starts request outcome).2 with
  | .ok started =>
      { w with
        core
        shared := some (choice, windows)
        calls := .answered choice w.core.sharing.starts started.audio ::
          w.calls.erase (.native choice) }
  | .error _ => { w with core, calls := .refused :: w.calls.erase (.native choice) }

def step (kit : LiveKit) (w : World Stats) : Act Stats → World Stats
  | .startShare choice => w.startShare choice
  | .stopShare => if w.client.sharing.isSome then w.stopShare none else w
  | .switchShare choice =>
      if w.client.sharing.isSome then w.stopShare (some choice) else w.startShare choice
  | .changePreset preset =>
      let w := { w with client := w.client.update (.setPublishPreset preset) }
      match w.client.sharing with
      | none => w
      | some choice => w.stopShare (some choice)
  | .granted choice token =>
      if .token choice ∈ w.calls then
        let w := { w with calls := w.calls.erase (.token choice) }
        if token then { w with calls := .native choice :: w.calls }
        else { w with client := w.client.shareRefused }
      else
        w
  | .native choice windows outcome lost =>
      if .native choice ∈ w.calls then w.nativeStart choice windows outcome lost else w
  | .answered choice start audio =>
      if .answered choice start audio ∈ w.calls then
        { w with
          client := w.client.shareStarted choice audio
          calls := w.calls.erase (.answered choice start audio) }
      else
        w
  | .refused =>
      if .refused ∈ w.calls then
        { w with client := w.client.shareRefused, calls := w.calls.erase .refused }
      else
        w
  | .nativeStop again =>
      if .stop again ∈ w.calls then
        { w with
          core := w.core.command .shareStop false
          calls := .stopped again :: w.calls.erase (.stop again) }
      else
        w
  | .stopped again =>
      if .stopped again ∈ w.calls then
        let w := { w with calls := w.calls.erase (.stopped again) }
        match again with
        | none => w
        | some choice => w.startShare choice
      else
        w
  | .cameraStart outcome lost => { w with core := w.core.command (.cameraStart outcome) lost }
  | .cameraStop => { w with core := w.core.command .cameraStop false }
  | .lost source => { w with core := w.core.lost source }
  | .disconnected connection => { w with core := w.core.disconnected connection }
  | .release task =>
      if task ∈ w.core.pending then
        { w with core := w.core.release task, events := task.source :: w.events }
      else
        w
  | .ended source =>
      if source ∈ w.events then
        { w with client := w.client.shareEnded source, events := w.events.erase source }
      else
        w
  | .turn calls act =>
      if aside calls act then
        { w with client := (SessionTurns.Turns.step kit ⟨w.client, calls⟩ act).client }
      else
        w

/-- The session in its room, with nothing of ours on the air. -/
def joined (channelId : Snowflake) : World Stats :=
  ⟨{ Client.new with channelId := some channelId }, [], .idle, none, []⟩

/-! ## What is audible -/

/-- The capture of the screen that is on the air, by the number of its start. -/
def onAir (w : World Stats) : Option Nat :=
  w.core.sharing.live.screen

/-- What the interface is to be told of the audio of the last share. -/
def report (w : World Stats) : Option AudioModeReport :=
  w.shared.bind fun share => (audioOf share.1 share.2).2

/-- What goes out: the audio capture is stopped with that of the screen. -/
def heard (w : World Stats) : Option Opened :=
  if w.onAir.isSome then w.shared.bind fun share => (audioOf share.1 share.2).1 else none

/-- The store says what the audio of the share captures. -/
def Told (w : World Stats) : Prop :=
  w.client.store.publishing = true ∧ w.client.store.sharingAudio = w.report.isSome ∧
    w.client.store.audioMode = w.report

/-- The answer of the start is on its way. -/
def Answering (w : World Stats) (start : Nat) : Prop :=
  ∃ call ∈ w.calls, ∃ choice, call = .answered choice start w.report

/-- The core has been asked to stop the share. -/
def Stopping (w : World Stats) : Prop :=
  ∃ call ∈ w.calls, ∃ again, call = .stop again

/-- The page has had the answer about what is on the air, and has not asked for its end. -/
def Settled (w : World Stats) : Prop :=
  (∀ start, w.onAir = some start → ¬ w.Answering start) ∧ ¬ w.Stopping

/-- An audio element of somebody else's publication plays. -/
def Audible (w : World Stats) : Prop :=
  ∃ id held element, w.client.remotes.lookup id = some held ∧ held.audio.isSome = true ∧
    held.audioElement = some element ∧ element.muted = false

/-- While somebody else's screen is audible here, all that goes out is the sound of the process
that owned the shared window, and of those that descend from it. -/
def NoEcho (loopback : Loopback) (w : World Stats) : Prop :=
  w.Settled → w.Audible → w.heard ≠ none →
    ∃ choice windows pid, w.shared = some (choice, windows) ∧ choice.kind = .window ∧
      windowOwnerPid windows (sourceIdOf choice) = some pid ∧
      ∀ processes p, Heard loopback processes p w.heard ↔ InTree processes pid p

/-- The page is not told what is past: an answer of another start, or the end of a share, does
not arrive while it knows what is on the air, unless more is on its way. -/
def Timely (w : World Stats) : Act Stats → Prop
  | .answered choice start audio => .answered choice start audio ∈ w.calls → w.Told →
      ∀ current, w.onAir = some current → current = start ∨ w.Answering current ∨ w.Stopping
  | .ended .screen => .screen ∈ w.events → w.Told →
      ∀ current, w.onAir = some current → w.Answering current ∨ w.Stopping
  | _ => True

end World

/-! ## Turns about something else -/

section Aside

variable {Stats : Type} {kit : LiveKit} {c c' : Client Stats}

/-- The store says the same of our own share. -/
structure SameShare (c c' : Client Stats) : Prop where
  publishing : c'.store.publishing = c.store.publishing
  sharingAudio : c'.store.sharingAudio = c.store.sharingAudio
  audioMode : c'.store.audioMode = c.store.audioMode

namespace SameShare

theorem refl (c : Client Stats) : SameShare c c := ⟨rfl, rfl, rfl⟩

theorem trans {c'' : Client Stats} (h : SameShare c c') (h' : SameShare c' c'') :
    SameShare c c'' :=
  ⟨h'.publishing.trans h.publishing, h'.sharingAudio.trans h.sharingAudio,
    h'.audioMode.trans h.audioMode⟩

/-- The actions of the store that are about our own share. -/
def ofShare : MediaAction Stats → Bool
  | .setPublishing _ _ _ _ | .reset => true
  | _ => false

theorem step (s : MediaStore Stats) {action : MediaAction Stats} (h : ofShare action = false) :
    (s.step action).publishing = s.publishing ∧ (s.step action).sharingAudio = s.sharingAudio ∧
      (s.step action).audioMode = s.audioMode := by
  have hchange : ∀ id change, (s.changePublication id change).publishing = s.publishing ∧
      (s.changePublication id change).sharingAudio = s.sharingAudio ∧
      (s.changePublication id change).audioMode = s.audioMode := by
    intro id change
    unfold MediaStore.changePublication
    split
    · exact ⟨rfl, rfl, rfl⟩
    · exact ⟨rfl, rfl, rfl⟩
  cases action with
  | setPublishing publishing sharingAudio audioMode title => cases h
  | reset => cases h
  | setVolume id volume => exact hchange id _
  | setQuality id quality => exact hchange id _
  | setSubscribed id subscribed => exact hchange id _
  | setCameraPublishing device => cases device with
    | none => exact ⟨rfl, rfl, rfl⟩
    | some device => exact ⟨rfl, rfl, rfl⟩
  | focus id => cases id with
    | none => exact ⟨rfl, rfl, rfl⟩
    | some id => exact ⟨rfl, rfl, rfl⟩
  | _ => exact ⟨rfl, rfl, rfl⟩

theorem update (h : SameShare c c') {action : MediaAction Stats}
    (haction : ofShare action = false) : SameShare c (c'.update action) := by
  obtain ⟨hpublishing, hsharingAudio, haudioMode⟩ := step c'.store haction
  exact h.trans ⟨hpublishing, hsharingAudio, haudioMode⟩

theorem stopStatsSampling (h : SameShare c c') : SameShare c c'.stopStatsSampling := by
  unfold Client.stopStatsSampling
  refine SameShare.update (SameShare.update ?_ rfl) rfl
  split
  · exact h
  · exact ⟨h.publishing, h.sharingAudio, h.audioMode⟩

theorem startStatsSampling (h : SameShare c c') : SameShare c c'.startStatsSampling :=
  ⟨h.stopStatsSampling.publishing, h.stopStatsSampling.sharingAudio,
    h.stopStatsSampling.audioMode⟩

theorem stopStatsSamplingIfIdle (h : SameShare c c') :
    SameShare c c'.stopStatsSamplingIfIdle := by
  unfold Client.stopStatsSamplingIfIdle
  split
  · exact h.stopStatsSampling
  · exact h

theorem sampleStats (share camera : Option Stats) (h : SameShare c c') :
    SameShare c (c'.sampleStats share camera) := by
  have hshare : SameShare c
      (if c'.sharing.isSome then c'.update (.setStats share) else c') := by
    split
    · exact h.update rfl
    · exact h
  unfold Client.sampleStats
  dsimp only
  split
  · exact hshare.update rfl
  · exact hshare

theorem adoptPublication (sid : Nat) (t : RemoteTrack) (viewerIds : List Identity)
    (h : SameShare c c') : SameShare c (c'.adoptPublication kit sid t viewerIds) := by
  unfold Client.adoptPublication
  split
  · exact h
  · split
    · exact h
    · next id hid =>
        split_ifs
        · exact ((h.trans ⟨rfl, rfl, rfl⟩ :
            SameShare c (c'.hold id _)).update rfl).update rfl
        · have hheld : SameShare c (c'.hold id { c'.held id with
              audio := some sid, audioElement := (c'.held id).audioElement.map kit.attach }) :=
            h.trans ⟨rfl, rfl, rfl⟩
          have hadded : SameShare c ((c'.hold id { c'.held id with
              audio := some sid, audioElement := (c'.held id).audioElement.map kit.attach }).update
              (.addTrack id .audio)) := hheld.update rfl
          exact hadded.trans ⟨rfl, rfl, rfl⟩
        · exact h

theorem dropTrack (t : RemoteTrack) (viewerIds : List Identity) (h : SameShare c c') :
    SameShare c (c'.dropTrack kit t viewerIds) := by
  unfold Client.dropTrack
  split
  · exact h
  · next id hid =>
      split
      · exact h
      · next held hheld =>
          have hhold : ∀ held', SameShare c (c'.hold id held') := fun _ => h.trans ⟨rfl, rfl, rfl⟩
          split
          · exact (hhold _).update rfl
          · exact ((hhold _).update rfl).update rfl

theorem forget (id : PublicationId) (h : SameShare c c') : SameShare c (c'.forget id) := by
  have herased : SameShare c { c' with remotes := c'.remotes.erase id } :=
    h.trans ⟨rfl, rfl, rfl⟩
  exact herased.update rfl

theorem foldl_forget (ids : List PublicationId) (h : SameShare c c') :
    SameShare c (ids.foldl (fun c id => c.forget id) c') := by
  induction ids generalizing c' with
  | nil => exact h
  | cons id ids ih => exact ih (h.forget id)

theorem foldl_adopt (tracks : List (Nat × RemoteTrack)) (viewerIds : List Identity)
    (h : SameShare c c') : SameShare c
      (tracks.foldl (fun c track => c.adoptPublication kit track.1 track.2 viewerIds) c') := by
  induction tracks generalizing c' with
  | nil => exact h
  | cons track tracks ih => exact ih (h.adoptPublication track.1 track.2 viewerIds)

theorem unpublished (t : RemoteTrack) (viewerIds : List Identity) (h : SameShare c c') :
    SameShare c (c'.unpublished t viewerIds) := by
  unfold Client.unpublished
  split
  · exact h
  · split
    · exact h
    · exact (h.forget _).update rfl

theorem connect (joined : Option (List (Nat × RemoteTrack) × List Identity))
    (h : SameShare c c') : SameShare c (c'.connect kit joined) := by
  unfold Client.connect
  split
  · exact h
  · have hdetached : SameShare c (c'.update (.setConnection .connecting none)).detachAll :=
      foldl_forget _ (h.update rfl)
    cases joined with
    | none => exact hdetached.update rfl
    | some joined =>
        obtain ⟨tracks, viewerIds⟩ := joined
        exact (foldl_adopt tracks viewerIds (hdetached.update rfl)).update rfl

theorem shareEnded_camera (h : SameShare c c') : SameShare c (c'.shareEnded .camera) := by
  unfold Client.shareEnded
  dsimp only
  split
  · exact (h.update rfl).stopStatsSamplingIfIdle
  · exact h

theorem startCamera {calls : List SessionTurns.Call} (device : CameraDevice)
    (h : SameShare c c') :
    SameShare c ((⟨c', calls⟩ : SessionTurns.Turns Stats).startCamera device).client := by
  unfold SessionTurns.Turns.startCamera
  split
  · exact h.update rfl
  · exact h

/-- A call about the camera goes on. -/
theorem answered {call : SessionTurns.Call} {calls : List SessionTurns.Call}
    (hcall : ofCamera call = true) (succeeds : Bool) (audio : Option AudioModeReport) :
    SameShare c (SessionTurns.Turns.answered call succeeds audio ⟨c, calls⟩).client := by
  cases call with
  | shareToken choice => cases hcall
  | shareNative choice => cases hcall
  | shareStop again => cases hcall
  | cameraToken device => cases succeeds with
    | true => exact refl c
    | false => exact (refl c).update rfl
  | cameraNative device => cases succeeds with
    | true => exact ((refl c).update rfl).startStatsSampling
    | false => exact (refl c).update rfl
  | cameraStop again =>
      have hidle := (refl c).stopStatsSamplingIfIdle
      cases again with
      | none => exact hidle
      | some device => exact startCamera device hidle

/-- No turn about something else changes what the store says of our own share. -/
theorem turn {calls : List SessionTurns.Call} {act : SessionTurns.Act Stats}
    (h : aside calls act = true) :
    SameShare c (SessionTurns.Turns.step kit ⟨c, calls⟩ act).client := by
  cases act with
  | startShare choice => cases h
  | stopShare => cases h
  | switchShare choice => cases h
  | changePreset preset => cases h
  | follow channelId joined => cases h
  | leave => cases h
  | startCamera device => exact startCamera device (refl c)
  | stopCamera =>
      simp only [SessionTurns.Turns.step]
      split
      · exact (refl c).update rfl
      · exact refl c
  | switchCamera device =>
      simp only [SessionTurns.Turns.step]
      split
      · exact (refl c).update rfl
      · exact startCamera device (refl c)
  | answered place succeeds audio =>
      simp only [SessionTurns.Turns.step]
      split
      · exact refl c
      · next call hcall =>
          simp only [aside, hcall, Option.all_some] at h
          exact answered h succeeds audio
  | shareEnded source => cases source with
    | screen => cases h
    | camera => exact (refl c).shareEnded_camera
  | setVolume id volume =>
      have hvolume : SameShare c (c.update (.setVolume id volume)) := (refl c).update rfl
      exact hvolume.trans ⟨rfl, rfl, rfl⟩
  | setQuality id quality => exact (refl c).update rfl
  | setPublicationSubscribed id subscribed =>
      simp only [SessionTurns.Turns.step, SessionTurns.Turns.turn,
        Client.setPublicationSubscribed]
      split
      · exact ((refl c).update rfl).update rfl
      · exact (refl c).update rfl
  | registerAudioElement id element => cases element with
    | none => exact ⟨rfl, rfl, rfl⟩
    | some element => exact ⟨rfl, rfl, rfl⟩
  | adopted sid t viewerIds => exact (refl c).adoptPublication sid t viewerIds
  | dropped t viewerIds => exact (refl c).dropTrack t viewerIds
  | unpublished t viewerIds => exact (refl c).unpublished t viewerIds
  | ownerLeft owner viewerIds =>
      exact (((foldl_forget _ (refl c)).update rfl).update rfl).update rfl
  | viewers viewerIds => exact (refl c).update rfl
  | reconnecting => exact (refl c).update rfl
  | reconnected viewerIds => exact ((refl c).update rfl).update rfl
  | sampled share camera => exact (refl c).sampleStats share camera
  | signedIn me => exact ⟨rfl, rfl, rfl⟩
  | rejoined joined => exact (refl c).connect joined

end SameShare

end Aside

/-! ## What the commands leave on the air -/

section Commands

variable {live : Core.Live} {core : Core.State}

/-- The answer of a start names the mode of its audio capture, if it was to have one. -/
theorem audio_of_shareStart {request : Core.StartRequest} {outcome : ScreenOutcome}
    {started : Core.StartedShare} {start : Nat}
    (h : (live.shareStart start request outcome).2 = .ok started) :
    started.audio = if request.audio then outcome.audioMode else none := by
  unfold Core.Live.shareStart at h
  split at h
  · cases h
  · split at h
    · cases h
    · split at h
      · cases h
      · next publisher hconnect =>
          split at h
          · cases h
          · next publisher' sink hpublished =>
              split at h
              · cases h
              · obtain rfl : _ = started := Except.ok.inj h
                obtain rfl : sink = request.audio := by
                  unfold Core.Publisher.publishScreen at hpublished
                  split at hpublished
                  · cases hpublished
                  · split at hpublished
                    · next haudio =>
                        split at hpublished
                        · cases hpublished
                        · rw [haudio]
                          exact (Except.ok.inj (Prod.mk.inj hpublished).2).symm
                    · next haudio =>
                        rw [Bool.eq_false_iff.mpr haudio]
                        exact (Except.ok.inj (Prod.mk.inj hpublished).2).symm
                rfl

/-- A start that goes through is on the air, and one that is refused changes nothing there. -/
theorem screen_shareStart (request : Core.StartRequest) (outcome : ScreenOutcome) (lost : Bool) :
    (core.command (.shareStart request outcome) lost).sharing.live.screen =
      if (core.sharing.live.shareStart core.sharing.starts request outcome).2.isOk then
        some core.sharing.starts
      else core.sharing.live.screen := by
  obtain ⟨-, hcaptures⟩ :=
    Core.startsAs_shareStart core.sharing.live core.sharing.starts request outcome
  split at hcaptures
  · next hok =>
      rw [if_pos hok]
      exact hcaptures.2 .screen
  · next hrefused =>
      rw [if_neg hrefused]
      exact hcaptures .screen

theorem screen_cameraStart (outcome : Core.CameraOutcome) (lost : Bool) :
    (core.command (.cameraStart outcome) lost).sharing.live.screen =
      core.sharing.live.screen := by
  obtain ⟨-, hcaptures⟩ :=
    Core.startsAs_cameraStart core.sharing.live core.sharing.starts outcome
  split at hcaptures
  · exact hcaptures.2 .screen
  · exact hcaptures .screen

theorem screen_release (source : PublicationSource) :
    (live.release source).screen = if source = .screen then none else live.screen := by
  have hcapture := Core.State.capture_release live source .screen
  rw [show (live.release source).capture .screen = (live.release source).screen from rfl]
    at hcapture
  rw [hcapture]
  exact if_congr eq_comm rfl rfl

theorem starts_le_command (command : Command) (lost : Bool) :
    core.sharing.starts ≤ (core.command command lost).sharing.starts := by
  cases command with
  | shareStart request outcome => exact Nat.le_succ _
  | cameraStart outcome => exact Nat.le_succ _
  | shareStop => exact le_refl _
  | cameraStop => exact le_refl _
  | gaveUp source => exact le_refl _

theorem sharing_lost (source : PublicationSource) :
    (core.lost source).sharing = core.sharing := by
  unfold Core.State.lost
  split
  · rfl
  · rfl

theorem sharing_disconnected (connection : Nat) :
    (core.disconnected connection).sharing = core.sharing := by
  unfold Core.State.disconnected
  split
  · rfl
  · rfl

end Commands

/-! ## Every run -/

namespace World

variable {Stats : Type} {kit : LiveKit} {w w' : World Stats}

structure Inv (w : World Stats) : Prop where
  agrees : w.client.Agrees
  current : ∀ start, w.onAir = some start → start < w.core.sharing.starts
  /-- An answer about what is on the air is that of the last share. -/
  answered : ∀ choice start audio, Call.answered choice start audio ∈ w.calls →
    start < w.core.sharing.starts ∧ (w.onAir = some start → audio = w.report)
  /-- What is on the air the page knows of, or will hear of, or has asked to end. -/
  told : ∀ start, w.onAir = some start → w.Told ∨ w.Answering start ∨ w.Stopping

theorem inv_joined (channelId : Snowflake) : Inv (joined channelId : World Stats) where
  agrees _ _ hheld := by cases hheld
  current _ h := by cases h
  answered _ _ _ h := by cases h
  told _ h := by cases h

/-- A step that leaves the share alone, or ends it, and loses no answer and no stop of it. -/
theorem Inv.frame (h : Inv w) (hagrees : w'.client.Agrees)
    (hsame : SameShare w.client w'.client) (hshared : w'.shared = w.shared)
    (honAir : w'.onAir = w.onAir ∨ w'.onAir = none)
    (hstarts : w.core.sharing.starts ≤ w'.core.sharing.starts)
    (hanswered : ∀ choice start audio, Call.answered choice start audio ∈ w'.calls ↔
      Call.answered choice start audio ∈ w.calls)
    (hstop : ∀ again, Call.stop again ∈ w.calls → Call.stop again ∈ w'.calls) : Inv w' := by
  have hbefore : ∀ start, w'.onAir = some start → w.onAir = some start := by
    intro start hstart
    rcases honAir with hon | hoff
    · exact hon.symm.trans hstart
    · cases hoff.symm.trans hstart
  have hreport : w'.report = w.report := by rw [report, report, hshared]
  refine ⟨hagrees, fun start hstart => (h.current start (hbefore start hstart)).trans_le hstarts,
    fun choice start audio hmem => ?_, fun start hstart => ?_⟩
  · obtain ⟨hlt, haudio⟩ := h.answered choice start audio ((hanswered choice start audio).mp hmem)
    refine ⟨hlt.trans_le hstarts, fun hstart => ?_⟩
    rw [hreport]
    exact haudio (hbefore start hstart)
  · rcases h.told start (hbefore start hstart) with htold | ⟨call, hmem, choice, rfl⟩ |
        ⟨call, hmem, again, rfl⟩
    · left
      unfold Told
      rw [hsame.publishing, hsame.sharingAudio, hsame.audioMode, hreport]
      exact htold
    · refine .inr (.inl ⟨_, (hanswered choice start _).mpr hmem, choice, ?_⟩)
      rw [hreport]
    · exact .inr (.inr ⟨_, hstop again hmem, again, rfl⟩)

/-- The page alone changes, in what has nothing to do with its share. -/
theorem Inv.aside (h : Inv w) {client : Client Stats} (hagrees : client.Agrees)
    (hsame : SameShare w.client client) : Inv { w with client } :=
  h.frame hagrees hsame rfl (.inl rfl) (le_refl _) (fun _ _ _ => Iff.rfl) fun _ hmem => hmem

/-- The calls alone change. -/
theorem Inv.calls (h : Inv w) {calls : List Call}
    (hanswered : ∀ choice start audio, Call.answered choice start audio ∈ calls ↔
      Call.answered choice start audio ∈ w.calls)
    (hstop : ∀ again, Call.stop again ∈ w.calls → Call.stop again ∈ calls) :
    Inv { w with calls } :=
  h.frame h.agrees (.refl _) rfl (.inl rfl) (le_refl _) hanswered hstop

/-- The core alone changes, and what it has on the air at most ends. -/
theorem Inv.core (h : Inv w) {core : Core.State}
    (honAir : core.sharing.live.screen = w.onAir ∨ core.sharing.live.screen = none)
    (hstarts : w.core.sharing.starts ≤ core.sharing.starts) : Inv { w with core } :=
  h.frame h.agrees (.refl _) rfl honAir hstarts (fun _ _ _ => Iff.rfl) fun _ hmem => hmem

theorem Inv.startShare (h : Inv w) (choice : ShareChoice) : Inv (w.startShare choice) := by
  unfold World.startShare
  split
  · have hbegun : Inv { w with client := w.client.beginShare } :=
      h.aside (h.agrees.update rfl rfl) ((SameShare.refl _).update rfl)
    exact hbegun.calls (fun _ _ _ => by simp) fun _ hmem => List.mem_cons_of_mem _ hmem
  · exact h

/-- The share that is on the air has been asked to end. -/
theorem Inv.stopShare (h : Inv w) (again : Option ShareChoice) : Inv (w.stopShare again) where
  agrees := Client.agrees_stopSharing h.agrees
  current := h.current
  answered choice start audio hmem := by
    refine h.answered choice start audio ?_
    simpa [World.stopShare] using hmem
  told _ _ := .inr (.inr ⟨_, List.mem_cons_self, again, rfl⟩)

theorem report_startAudio (windows : Windows) (sink : Bool) (kind : SessionTurns.SourceKind)
    (sourceId : UInt64) :
    (if sink then (startAudio windows sink kind sourceId).2 else none) =
      (startAudio windows sink kind sourceId).2 := by
  cases sink with
  | true => rfl
  | false => rfl

/-- The core runs a start: one that goes through is on the air, and its answer on the way. -/
theorem Inv.nativeStart (h : Inv w) (choice : ShareChoice) (windows : Windows)
    (outcome : ScreenOutcome) (lost : Bool) :
    Inv (w.nativeStart choice windows outcome lost) := by
  unfold World.nativeStart
  dsimp only
  have hscreen : (w.core.command (.shareStart ⟨parseSourceId choice.sourceId, choice.audio⟩
      { outcome with audioMode := (audioOf choice windows).2 }) lost).sharing.live.screen = _ :=
    screen_shareStart _ _ lost
  split
  · next started hstarted =>
      rw [hstarted] at hscreen
      have haudio : started.audio = (audioOf choice windows).2 :=
        (audio_of_shareStart hstarted).trans (report_startAudio windows _ _ _)
      refine ⟨h.agrees, fun start hstart => ?_, fun choice' start audio hmem => ?_,
        fun start hstart => ?_⟩
      · obtain rfl : w.core.sharing.starts = start :=
          Option.some.inj (hscreen.symm.trans hstart)
        exact Nat.lt_succ_self _
      · rcases List.mem_cons.mp hmem with heq | hold
        · obtain ⟨rfl, rfl, rfl⟩ := Call.answered.inj heq
          exact ⟨Nat.lt_succ_self _, fun _ => haudio⟩
        · have hlt := (h.answered choice' start audio (List.mem_of_mem_erase hold)).1
          refine ⟨Nat.lt_succ_of_lt hlt, fun hstart => ?_⟩
          -- the numbers of the answers that were on their way before are taken
          have heq : w.core.sharing.starts = start :=
            Option.some.inj (hscreen.symm.trans hstart)
          exact absurd heq hlt.ne'
      · obtain rfl : w.core.sharing.starts = start :=
          Option.some.inj (hscreen.symm.trans hstart)
        refine .inr (.inl ⟨_, List.mem_cons_self, choice, ?_⟩)
        rw [haudio]
        rfl
  · next error hrefused =>
      rw [hrefused] at hscreen
      have hcore : Inv { w with core := w.core.command (.shareStart
          ⟨parseSourceId choice.sourceId, choice.audio⟩
          { outcome with audioMode := (audioOf choice windows).2 }) lost } :=
        h.core (.inl hscreen) (starts_le_command _ _)
      refine hcore.calls (fun _ _ _ => ?_) fun _ hmem => ?_
      · simp [List.mem_erase_of_ne]
      · exact List.mem_cons_of_mem _ ((List.mem_erase_of_ne (by simp)).mpr hmem)

/-- The page hears how a start went. -/
theorem Inv.answer (h : Inv w) {choice : ShareChoice} {start : Nat}
    {audio : Option AudioModeReport} (hmem : Call.answered choice start audio ∈ w.calls)
    (htimely : w.Told → ∀ current, w.onAir = some current →
      current = start ∨ w.Answering current ∨ w.Stopping) :
    Inv { w with
      client := w.client.shareStarted choice audio
      calls := w.calls.erase (.answered choice start audio) } := by
  refine ⟨Client.agrees_shareStarted choice audio h.agrees, h.current,
    fun choice' start' audio' hmem' => h.answered choice' start' audio'
      (List.mem_of_mem_erase hmem'), fun current hcurrent => ?_⟩
  by_cases hsame : current = start
  · subst hsame
    left
    obtain rfl : audio = w.report := (h.answered choice current audio hmem).2 hcurrent
    -- what the store was told outlives the start of the sampling
    have hstarted : SameShare (({ w.client with sharing := some choice }.update
        (.setPublishing true w.report.isSome w.report (some choice.title))).applyAudioPolicy)
        (w.client.shareStarted choice w.report) := (SameShare.refl _).startStatsSampling
    exact ⟨hstarted.publishing, hstarted.sharingAudio, hstarted.audioMode⟩
  · have hcoming : w.Answering current ∨ w.Stopping := by
      rcases h.told current hcurrent with htold | hcoming
      · exact (htimely htold current hcurrent).resolve_left hsame
      · exact hcoming
    right
    rcases hcoming with ⟨call, hcall, choice', rfl⟩ | ⟨call, hcall, again, rfl⟩
    · refine .inl ⟨_, (List.mem_erase_of_ne ?_).mpr hcall, choice', rfl⟩
      exact fun heq => hsame (Call.answered.inj heq).2.1
    · exact .inr ⟨_, (List.mem_erase_of_ne (by simp)).mpr hcall, again, rfl⟩

/-- The core runs a stop, and nothing is on the air. -/
theorem Inv.nativeStop (h : Inv w) (again : Option ShareChoice) :
    Inv { w with
      core := w.core.command .shareStop false
      calls := .stopped again :: w.calls.erase (.stop again) } := by
  have hoff : (w.core.command .shareStop false).sharing.live.screen = none :=
    screen_release .screen
  refine ⟨h.agrees, fun start hstart => ?_, fun choice start audio hmem => ?_,
    fun start hstart => ?_⟩
  · cases hoff.symm.trans hstart
  · have hbefore : Call.answered choice start audio ∈ w.calls := by
      simpa [List.mem_erase_of_ne] using hmem
    refine ⟨(h.answered choice start audio hbefore).1, fun hstart => ?_⟩
    cases hoff.symm.trans hstart
  · cases hoff.symm.trans hstart

/-- The page hears that its share has ended. -/
theorem Inv.ended (h : Inv w) (source : PublicationSource)
    (htimely : source = .screen → w.Told → ∀ current, w.onAir = some current →
      w.Answering current ∨ w.Stopping) :
    Inv { w with
      client := w.client.shareEnded source
      events := w.events.erase source } := by
  have hagrees := Client.agrees_shareEnded source h.agrees
  cases source with
  | camera =>
      exact h.frame hagrees (SameShare.refl _).shareEnded_camera rfl (.inl rfl) (le_refl _)
        (fun _ _ _ => Iff.rfl) fun _ hmem => hmem
  | screen =>
      refine ⟨hagrees, h.current, h.answered, fun current hcurrent => .inr ?_⟩
      rcases h.told current hcurrent with htold | hcoming
      · exact htimely rfl htold current hcurrent
      · exact hcoming

theorem Inv.release (h : Inv w) {task : Release} (hmem : task ∈ w.core.pending) :
    Inv { w with core := w.core.release task, events := task.source :: w.events } := by
  have hcore : (w.core.release task).sharing =
      ⟨w.core.sharing.live.release task.source, w.core.sharing.starts⟩ := by
    unfold Core.State.release
    rw [if_pos hmem]
    rfl
  refine h.frame h.agrees (.refl _) rfl ?_ ?_ (fun _ _ _ => Iff.rfl) fun _ hmem => hmem
  · show (w.core.release task).sharing.live.screen = _ ∨
      (w.core.release task).sharing.live.screen = none
    rw [hcore, screen_release]
    split
    · exact .inr rfl
    · exact .inl rfl
  · show w.core.sharing.starts ≤ (w.core.release task).sharing.starts
    rw [hcore]

theorem inv_step (h : Inv w) (act : Act Stats) (hok : w.Timely act) : Inv (step kit w act) := by
  cases act with
  | startShare choice => exact h.startShare choice
  | stopShare =>
      simp only [step]
      split
      · exact h.stopShare none
      · exact h
  | switchShare choice =>
      simp only [step]
      split
      · exact h.stopShare (some choice)
      · exact h.startShare choice
  | changePreset preset =>
      have hset : Inv { w with client := w.client.update (.setPublishPreset preset) } :=
        h.aside (h.agrees.update rfl rfl) ((SameShare.refl _).update rfl)
      simp only [step]
      split
      · exact hset
      · exact hset.stopShare _
  | granted choice token =>
      have herased : Inv { w with calls := w.calls.erase (.token choice) } :=
        h.calls (fun _ _ _ => List.mem_erase_of_ne (by simp)) fun _ hmem =>
          (List.mem_erase_of_ne (by simp)).mpr hmem
      simp only [step]
      split
      · split
        · exact herased.calls (fun _ _ _ => by simp) fun _ hmem => List.mem_cons_of_mem _ hmem
        · exact herased.aside (h.agrees.update rfl rfl) ((SameShare.refl _).update rfl)
      · exact h
  | native choice windows outcome lost =>
      simp only [step]
      split
      · exact h.nativeStart choice windows outcome lost
      · exact h
  | answered choice start audio =>
      simp only [step]
      split
      · next hmem => exact h.answer hmem (hok hmem)
      · exact h
  | refused =>
      have herased : Inv { w with calls := w.calls.erase .refused } :=
        h.calls (fun _ _ _ => List.mem_erase_of_ne (by simp)) fun _ hmem =>
          (List.mem_erase_of_ne (by simp)).mpr hmem
      simp only [step]
      split
      · exact herased.aside (h.agrees.update rfl rfl) ((SameShare.refl _).update rfl)
      · exact h
  | nativeStop again =>
      simp only [step]
      split
      · exact h.nativeStop again
      · exact h
  | stopped again =>
      have herased : Inv { w with calls := w.calls.erase (.stopped again) } :=
        h.calls (fun _ _ _ => List.mem_erase_of_ne (by simp)) fun _ hmem =>
          (List.mem_erase_of_ne (by simp)).mpr hmem
      simp only [step]
      split
      · cases again with
        | none => exact herased
        | some choice => exact herased.startShare choice
      · exact h
  -- the camera shares the connection, and has no sound
  | cameraStart outcome lost =>
      exact h.core (.inl (screen_cameraStart outcome lost)) (starts_le_command _ _)
  | cameraStop => exact h.core (.inl (screen_release .camera)) (le_refl _)
  | lost source =>
      exact h.core (.inl (by rw [sharing_lost]; rfl)) (by rw [sharing_lost])
  | disconnected connection =>
      exact h.core (.inl (by rw [sharing_disconnected]; rfl)) (by rw [sharing_disconnected])
  | release task =>
      simp only [step]
      split
      · next hmem => exact h.release hmem
      · exact h
  | ended source =>
      simp only [step]
      split
      · next hmem =>
          refine h.ended source fun hsource htold => ?_
          subst hsource
          exact hok hmem htold
      · exact h
  | turn calls act =>
      simp only [step]
      split
      · next hact =>
          exact h.aside (SessionTurns.Turns.agrees_step act h.agrees) (.turn hact)
      · exact h

/-- The elements follow the store, and the store says what is captured. -/
theorem Inv.noEcho (h : Inv w) (loopback : Loopback) : w.NoEcho loopback := by
  rintro ⟨hanswered, hstopping⟩ ⟨id, held, element, hheld, haudio, helement, hmuted⟩ hheard
  unfold heard at hheard ⊢
  cases hon : w.onAir with
  | none =>
      rw [hon] at hheard
      exact absurd rfl hheard
  | some start =>
      rw [hon] at hheard
      simp only [Option.isSome_some, if_true] at hheard ⊢
      have htold : w.Told :=
        (h.told start hon).resolve_right (not_or_intro (hanswered start hon) hstopping)
      obtain ⟨q, -, -, hset⟩ := h.agrees id held hheld haudio
      have hsilent : shouldSilenceOtherScreens w.client.store = false :=
        (hset element helement).1.symm.trans hmuted
      rw [shouldSilenceOtherScreens, htold.1, htold.2.1, htold.2.2, Bool.true_and] at hsilent
      cases hshared : w.shared with
      | none =>
          rw [hshared] at hheard
          exact absurd rfl hheard
      | some share =>
          obtain ⟨choice, windows⟩ := share
          rw [hshared] at hheard
          have htells : Tells loopback windows choice.audio choice.kind (sourceIdOf choice) _ _ :=
            tells_of_startAudio rfl
          have hsome : w.report.isSome = true := by
            rw [Option.isSome_iff_ne_none, report, hshared]
            exact fun hnone => hheard (htells.silent.mp hnone)
          rw [hsome, Bool.true_and, decide_eq_false_iff_not, not_not, report, hshared] at hsilent
          obtain ⟨hkind, pid, howner, htree⟩ := htells.onlyWindow hsilent
          exact ⟨choice, windows, pid, rfl, hkind, howner, htree⟩

/-- Along every run in which the page is not told what is past, somebody else's screen is audible
here only while nothing but the sound of the shared window's processes goes out. -/
theorem noEcho_of_timely (loopback : Loopback) (kit : LiveKit) (channelId : Snowflake)
    (acts : List (Act Stats)) (h : EachStep (step kit) Timely (joined channelId) acts) :
    Throughout (step kit) (NoEcho loopback) (joined channelId) acts := by
  have hinv : Throughout (step kit) Inv (joined channelId) acts :=
    throughout_of_eachStep (fun _ act hinv hok => inv_step hinv act hok)
      (inv_joined channelId) h
  exact hinv.mono fun _ hinv => hinv.noEcho loopback

/-- The window of process 7 is shared with its sound, on a machine that gives all it is asked
for. -/
def windowChoice : ShareChoice := ⟨"42", .window, true, "Jogo"⟩

def grantingWindows : Windows where
  windowThreadProcessId _ := (3, 7)
  snapshot := [⟨7, 4, "jogo.exe"⟩]
  processLoopback _ _ := none
  endpoint := none
  spawns := true
  coInitialize := true
  captures := true
  inTime := true

def sharesWindow : List (Act Unit) :=
  [.turn [] (.adopted 1 ⟨"ana~pub".toList, .screenShareAudio, .audio, true⟩ []),
    .turn [] (.registerAudioElement ⟨"ana".toList, .screen⟩ (some ⟨true, 1⟩)),
    .startShare windowChoice, .granted windowChoice true,
    .native windowChoice grantingWindows ⟨none, none, none, none, none⟩ false,
    .answered windowChoice 0 (some .onlyWindow)]

theorem noEcho_of_timely_window :
    Throughout (step ⟨id, id⟩) (NoEcho default) (joined 7 : World Unit) sharesWindow :=
  noEcho_of_timely default ⟨id, id⟩ 7 sharesWindow
    ⟨trivial, trivial, trivial, trivial, trivial,
      fun _ _ _ hcurrent => .inl (Option.some.inj hcurrent).symm, trivial⟩

end World

end Echo
end Desktop
end Ldktela
