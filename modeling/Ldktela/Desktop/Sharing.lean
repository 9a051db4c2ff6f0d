import Ldktela.Desktop.Publisher
import Ldktela.Lib.Runs

/-!
# The core's commands, with every way they can fail

`desktop/src-tauri/src/share.rs`: one connection, up to two publications over it.  A
command holds the lock from start to end, so it is a function on what the lock
guards; where the SFU or the system can refuse, the refusal is an argument.
-/

namespace Ldktela
namespace Desktop
namespace Core

open Protocol

/-! ## Requests and failures -/

/-- The capture modes of the audio, as the interface is told of them. -/
inductive AudioModeReport where
  | excludingDiscord
  | onlyWindow
  | wholeSystem
deriving DecidableEq

/-- What `share_start` reads of its request: what the id of the source parses to, and
whether the audio goes along. -/
structure StartRequest where
  sourceId : Option UInt64
  audio : Bool
deriving DecidableEq

/-- `null` when sharing without audio, or when its capture does not start. -/
structure StartedShare where
  audio : Option AudioModeReport
deriving DecidableEq

inductive CaptureError where
  | unavailable (what : String)
  | sourceGone
deriving DecidableEq

/-- `camera` carries the text of the camera's own error. -/
inductive ShareFailure where
  | alreadySharing
  | badSource
  | capture (error : CaptureError)
  | publish (error : PublishError)
  | alreadyOnCamera
  | camera (error : String)
deriving DecidableEq

/-- What happens outside the core during `share_start`: the error of each call, if it
fails, and the mode of the audio capture, if it starts. -/
structure ScreenOutcome where
  connect : Option String
  video : Option String
  audio : Option String
  capture : Option CaptureError
  audioMode : Option AudioModeReport
deriving DecidableEq

/-- The same for `camera_start`. -/
structure CameraOutcome where
  connect : Option String
  opened : Option String
  video : Option String
deriving DecidableEq

/-! ## The commands -/

/-- What the lock guards.  A capture is known by the number of the start that made
it. -/
structure Live where
  publisher : Option Publisher
  screen : Option Nat
  camera : Option Nat

namespace Live

def idle : Live := ⟨none, none, none⟩

/-- The capture of the source, if it is live. -/
def capture (live : Live) : PublicationSource → Option Nat
  | .screen => live.screen
  | .camera => live.camera

def setCapture (source : PublicationSource) (capture : Option Nat) (live : Live) : Live :=
  match source with
  | .screen => { live with screen := capture }
  | .camera => { live with camera := capture }

/-- Closes the connection when nothing is on the air any more. -/
def closeIfIdle (live : Live) : Live :=
  if live.screen.isSome || live.camera.isSome then
    live
  else
    { live with publisher := none }

/-- The publishing connection, used again when it is there. -/
def connect (start : Nat) (refused : Option String) (live : Live) :
    Except PublishError Publisher :=
  match live.publisher with
  | some publisher => .ok publisher
  | none =>
      match refused with
      | some message => .error (.connect message)
      | none => .ok (Publisher.new start)

/-- Stops the capture and unpublishes a source, if it is still up. -/
def takeDown (source : PublicationSource) (live : Live) : Live :=
  { live.setCapture source none with
    publisher := live.publisher.map (Publisher.unpublish source) }

/-- `share_stop`, `camera_stop`, and what `give_up` schedules. -/
def release (source : PublicationSource) (live : Live) : Live :=
  (live.takeDown source).closeIfIdle

/-- The screen is published before its capture starts. -/
def shareStart (start : Nat) (request : StartRequest) (outcome : ScreenOutcome) (live : Live) :
    Live × Except ShareFailure StartedShare :=
  if live.screen.isSome then
    (live, .error .alreadySharing)
  else
    match request.sourceId with
    | none => (live, .error .badSource)
    | some _ =>
        match live.connect start outcome.connect with
        | .error error => (live, .error (.publish error))
        | .ok publisher =>
            match publisher.publishScreen request.audio outcome.video outcome.audio with
            | (publisher, .error error) =>
                ({ live with publisher := some publisher }.closeIfIdle, .error (.publish error))
            | (publisher, .ok sink) =>
                match outcome.capture with
                | some error =>
                    ({ live with publisher := some (publisher.unpublish .screen) }.closeIfIdle,
                      .error (.capture error))
                | none =>
                    ({ live with publisher := some publisher, screen := some start },
                      .ok ⟨if sink then outcome.audioMode else none⟩)

/-- The camera opens before it is published. -/
def cameraStart (start : Nat) (outcome : CameraOutcome) (live : Live) :
    Live × Except ShareFailure Unit :=
  if live.camera.isSome then
    (live, .error .alreadyOnCamera)
  else
    match live.connect start outcome.connect with
    | .error error => (live, .error (.publish error))
    | .ok publisher =>
        match outcome.opened with
        | some error =>
            ({ live with publisher := some publisher }.closeIfIdle, .error (.camera error))
        | none =>
            match publisher.publishCamera outcome.video with
            | (publisher, .error error) =>
                ({ live with publisher := some publisher }.closeIfIdle, .error (.publish error))
            | (publisher, .ok ()) =>
                ({ live with publisher := some publisher, camera := some start }, .ok ())

end Live

/-! ## What a command leaves -/

/-- A command under the lock; `gaveUp` is the release that a lost capture or a
dropped connection asks for. -/
inductive Command where
  | shareStart (request : StartRequest) (outcome : ScreenOutcome)
  | shareStop
  | cameraStart (outcome : CameraOutcome)
  | cameraStop
  | gaveUp (source : PublicationSource)
deriving DecidableEq

namespace Command

def source : Command → PublicationSource
  | shareStart _ _ => .screen
  | shareStop => .screen
  | cameraStart _ => .camera
  | cameraStop => .camera
  | gaveUp source => source

/-- What the command, when it succeeds, leaves on the air of its source. -/
def leaves : Command → List Track
  | shareStart request _ => .screen :: if request.audio then [.screenAudio] else []
  | cameraStart _ => [.camera]
  | shareStop => []
  | cameraStop => []
  | gaveUp _ => []

end Command

/-- The core, with the number of starts so far. -/
structure Sharing where
  live : Live
  starts : Nat

namespace Sharing

def idle : Sharing := ⟨Live.idle, 0⟩

/-- Runs a command; answers with its error, if it returns one. -/
def run (s : Sharing) : Command → Sharing × Option ShareFailure
  | .shareStart request outcome =>
      let (live, result) := s.live.shareStart s.starts request outcome
      (⟨live, s.starts + 1⟩, match result with
        | .error error => some error
        | .ok _ => none)
  | .cameraStart outcome =>
      let (live, result) := s.live.cameraStart s.starts outcome
      (⟨live, s.starts + 1⟩, match result with
        | .error error => some error
        | .ok () => none)
  | .shareStop => (⟨s.live.release .screen, s.starts⟩, none)
  | .cameraStop => (⟨s.live.release .camera, s.starts⟩, none)
  | .gaveUp source => (⟨s.live.release source, s.starts⟩, none)

def step (s : Sharing) (command : Command) : Sharing :=
  (s.run command).1

end Sharing

namespace Live

/-- What the source has on the air. -/
def tracks (live : Live) (source : PublicationSource) : List TrackPublication :=
  match live.publisher with
  | none => []
  | some publisher => publisher.room.onAir source

/-- There is a connection exactly when a source is live, and on it exactly the
tracks of the live sources: the picture of each, and with the screen its audio, if it
was published. -/
structure Exact (live : Live) : Prop where
  connection : live.publisher.isSome = (live.screen.isSome || live.camera.isSome)
  off : ∀ source, live.capture source = none → live.tracks source = []
  screen : live.screen.isSome = true →
    (live.tracks .screen).map TrackPublication.track = [.screen] ∨
      (live.tracks .screen).map TrackPublication.track = [.screen, .screenAudio]
  camera : live.camera.isSome = true → (live.tracks .camera).map TrackPublication.track = [.camera]

end Live

/-- The source keeps its capture, its tracks and, while it is live, the connection they
are on. -/
structure Live.Undisturbed (before after : Live) (source : PublicationSource) : Prop where
  capture : after.capture source = before.capture source
  tracks : after.tracks source = before.tracks source
  connection : (before.capture source).isSome = true →
    after.publisher.map Publisher.connection = before.publisher.map Publisher.connection

namespace Sharing

/-- What holds once the command has returned.  A source that was live already when
its start is refused stays as it is. -/
structure Clean (s : Sharing) (command : Command) : Prop where
  exact : (s.step command).live.Exact
  other : ∀ source, source ≠ command.source → s.live.Undisturbed (s.step command).live source
  failed : (s.run command).2.isSome = true →
    (s.step command).live.capture command.source = s.live.capture command.source ∧
    (s.step command).live.tracks command.source =
      if (s.live.capture command.source).isSome then s.live.tracks command.source else []
  succeeded : (s.run command).2 = none →
    ((s.step command).live.tracks command.source).map TrackPublication.track = command.leaves

/-- The start of the screen over a live camera does not publish the picture and then
fail to publish the audio. -/
def Whole (s : Sharing) : Command → Prop
  | .shareStart request outcome =>
      s.live.screen = none → s.live.camera.isSome = true → request.sourceId.isSome = true →
        outcome.video = none → request.audio = true → outcome.audio = none
  | .shareStop | .cameraStart _ | .cameraStop | .gaveUp _ => True

end Sharing

/-! ## What is kept -/

/-- What the connection knows of its tracks matches what is live. -/
structure Live.Matches (live : Live) (publisher : Publisher) : Prop where
  recorded : publisher.Recorded
  off : ∀ source, live.capture source = none → publisher.published source = ⟨none, none⟩
  on : ∀ source, (live.capture source).isSome = true →
    (publisher.published source).video.isSome = true

/-- The invariant behind `Exact`. -/
structure Live.Kept (live : Live) : Prop where
  connection : live.publisher.isSome = (live.screen.isSome || live.camera.isSome)
  matched : ∀ publisher, live.publisher = some publisher → live.Matches publisher

section Kept

open Core.Live

variable {live : Live} {publisher publisher' : Publisher} {source s : PublicationSource}
  {capture : Nat}

theorem busy_of_capture (h : (live.capture source).isSome = true) :
    (live.screen.isSome || live.camera.isSome) = true := by
  cases source with
  | screen => exact Bool.or_eq_true_iff.mpr (.inl h)
  | camera => exact Bool.or_eq_true_iff.mpr (.inr h)

theorem capture_of_idle (h : (live.screen.isSome || live.camera.isSome) = false)
    (source : PublicationSource) : live.capture source = none := by
  simp only [Bool.or_eq_false_iff, Option.isSome_eq_false_iff, Option.isNone_iff_eq_none] at h
  cases source with
  | screen => exact h.1
  | camera => exact h.2

theorem exists_live_of_busy (h : (live.screen.isSome || live.camera.isSome) = true) :
    ∃ source, (live.capture source).isSome = true := by
  rcases Bool.or_eq_true_iff.mp h with hscreen | hcamera
  · exact ⟨.screen, hscreen⟩
  · exact ⟨.camera, hcamera⟩

/-- A source that is not live has nothing on the air. -/
theorem Live.Matches.onAir (h : live.Matches publisher) (hoff : live.capture source = none) :
    publisher.room.onAir source = [] := by
  rw [h.recorded source]
  exact Publisher.held_of_none (h.off source hoff)

theorem tracks_of_publisher (h : live.publisher = some publisher) :
    live.tracks source = publisher.room.onAir source := by
  rw [tracks, h]

/-- With nothing live there is nothing at all. -/
theorem Live.Kept.eq_idle (h : live.Kept) (hscreen : live.screen = none)
    (hcamera : live.camera = none) : live = Live.idle := by
  obtain ⟨publisher, screen, camera⟩ := live
  obtain rfl : screen = none := hscreen
  obtain rfl : camera = none := hcamera
  have hsome : publisher.isSome = false := h.connection
  rw [Option.isSome_eq_false_iff, Option.isNone_iff_eq_none] at hsome
  rw [hsome, idle]

theorem Live.Kept.tracks_of_off (h : live.Kept) (hoff : live.capture source = none) :
    live.tracks source = [] := by
  cases hpublisher : live.publisher with
  | none => rw [tracks, hpublisher]
  | some publisher =>
      rw [tracks_of_publisher hpublisher]
      exact (h.matched publisher hpublisher).onAir hoff

theorem Live.Kept.publisher_of_live (h : live.Kept) (source : PublicationSource)
    (hlive : (live.capture source).isSome = true) :
    ∃ publisher, live.publisher = some publisher := by
  have hbusy := busy_of_capture hlive
  rw [← h.connection] at hbusy
  exact Option.isSome_iff_exists.mp hbusy

/-- The picture of a live source is on the air, then maybe an audio. -/
theorem Live.Kept.tracks_of_live (h : live.Kept) (source : PublicationSource)
    (hlive : (live.capture source).isSome = true) :
    ∃ sid audio, live.tracks source = ⟨sid, videoTrack source⟩ ::
      (Option.toList audio).map fun sid => ⟨sid, .screenAudio⟩ := by
  obtain ⟨publisher, hpublisher⟩ := h.publisher_of_live source hlive
  have hmatched := h.matched publisher hpublisher
  obtain ⟨sid, hsid⟩ := Option.isSome_iff_exists.mp (hmatched.on source hlive)
  refine ⟨sid, (publisher.published source).audio, ?_⟩
  rw [tracks_of_publisher hpublisher, hmatched.recorded source, Publisher.held, hsid]
  rfl

theorem Live.Kept.exact (h : live.Kept) : live.Exact where
  connection := h.connection
  off _ hoff := h.tracks_of_off hoff
  screen hlive := by
    obtain ⟨sid, audio, htracks⟩ := h.tracks_of_live .screen hlive
    rw [htracks]
    cases audio with
    | none => exact .inl rfl
    | some sid => exact .inr rfl
  camera hlive := by
    obtain ⟨sid, audio, htracks⟩ := h.tracks_of_live .camera hlive
    cases audio with
    | none => rw [htracks]; rfl
    | some audio =>
        -- the camera carries no audio: the track would be the screen's
        obtain ⟨publisher, hpublisher⟩ := h.publisher_of_live .camera hlive
        rw [tracks_of_publisher hpublisher] at htracks
        have hmem : (⟨audio, .screenAudio⟩ : TrackPublication) ∈ publisher.room.onAir .camera := by
          simp [htracks]
        cases (Room.mem_onAir.mp hmem).2

/-! ## The connection -/

/-- A start works on the connection that is there, or on a new one. -/
theorem connect_cases {start : Nat} {refused : Option String}
    (h : live.connect start refused = .ok publisher) :
    live.publisher = some publisher ∨
      live.publisher = none ∧ refused = none ∧ publisher = Publisher.new start := by
  unfold connect at h
  cases hpublisher : live.publisher with
  | some old =>
      rw [hpublisher] at h
      cases h
      exact .inl rfl
  | none =>
      rw [hpublisher] at h
      cases refused with
      | some message => cases h
      | none =>
          cases h
          exact .inr ⟨rfl, rfl, rfl⟩

/-- The connection a start works on shows what was on the air. -/
theorem connect_spec (h : live.Kept) {start : Nat} {refused : Option String}
    (hconnect : live.connect start refused = .ok publisher) :
    live.Matches publisher ∧ (∀ s, publisher.room.onAir s = live.tracks s) ∧
      ((live.screen.isSome || live.camera.isSome) = true →
        live.publisher.map Publisher.connection = some publisher.connection) := by
  rcases connect_cases hconnect with hpublisher | ⟨hpublisher, -, rfl⟩
  · refine ⟨h.matched _ hpublisher, fun s => (tracks_of_publisher hpublisher).symm, fun _ => ?_⟩
    rw [hpublisher, Option.map_some]
  · have hidle : (live.screen.isSome || live.camera.isSome) = false := by
      rw [← h.connection, hpublisher]
      rfl
    refine ⟨⟨Publisher.recorded_new start, ?_, ?_⟩, ?_, ?_⟩
    · intro source _
      cases source with
      | screen => rfl
      | camera => rfl
    · intro source hlive
      rw [capture_of_idle hidle source] at hlive
      cases hlive
    · intro s
      rw [tracks, hpublisher]
      rfl
    · intro hbusy
      rw [hidle] at hbusy
      cases hbusy

theorem Live.Undisturbed.trans {live' live'' : Live} (h : live.Undisturbed live' s)
    (h' : live'.Undisturbed live'' s) : live.Undisturbed live'' s where
  capture := h'.capture.trans h.capture
  tracks := h'.tracks.trans h.tracks
  connection hlive := (h'.connection (h.capture ▸ hlive)).trans (h.connection hlive)

theorem capture_publisher (publisher : Option Publisher) :
    { live with publisher := publisher }.capture s = live.capture s := by
  cases s with
  | screen => rfl
  | camera => rfl

/-- Closing an idle connection takes nothing off the air. -/
theorem closeIfIdle_spec (hmatched : ∀ publisher, live.publisher = some publisher →
      live.Matches publisher)
    (hbusy : (live.screen.isSome || live.camera.isSome) = true → live.publisher.isSome = true) :
    live.closeIfIdle.Kept ∧ ∀ s, live.Undisturbed live.closeIfIdle s := by
  unfold closeIfIdle
  cases hlive : live.screen.isSome || live.camera.isSome with
  | true =>
      rw [if_pos rfl]
      refine ⟨⟨?_, hmatched⟩, fun s => ⟨rfl, rfl, fun _ => rfl⟩⟩
      rw [hlive, hbusy hlive]
  | false =>
      rw [if_neg Bool.false_ne_true]
      refine ⟨⟨hlive.symm, fun publisher hpublisher => by cases hpublisher⟩, fun s => ⟨?_, ?_, ?_⟩⟩
      · exact capture_publisher none
      · -- what is on the air belongs to a live source
        show [] = live.tracks s
        cases hpublisher : live.publisher with
        | none => rw [tracks, hpublisher]
        | some publisher =>
            rw [tracks_of_publisher hpublisher]
            exact ((hmatched publisher hpublisher).onAir (capture_of_idle hlive s)).symm
      · intro hcapture
        rw [capture_of_idle hlive s] at hcapture
        cases hcapture

/-- A start that puts nothing on the air leaves every source as it was. -/
theorem closed_spec (hmatches : live.Matches publisher)
    (htracks : ∀ s, publisher.room.onAir s = live.tracks s)
    (hconnection : (live.screen.isSome || live.camera.isSome) = true →
      live.publisher.map Publisher.connection = some publisher.connection) :
    ({ live with publisher := some publisher }.closeIfIdle).Kept ∧
      ∀ s, live.Undisturbed ({ live with publisher := some publisher }.closeIfIdle) s := by
  have hclose : ({ live with publisher := some publisher }.closeIfIdle).Kept ∧
      ∀ s, { live with publisher := some publisher }.Undisturbed
        ({ live with publisher := some publisher }.closeIfIdle) s := by
    refine closeIfIdle_spec (fun other hother => ?_) fun _ => rfl
    cases hother
    refine ⟨hmatches.recorded, fun s hoff => ?_, fun s hon => ?_⟩
    · rw [capture_publisher] at hoff
      exact hmatches.off s hoff
    · rw [capture_publisher] at hon
      exact hmatches.on s hon
  refine ⟨hclose.1, fun s => Undisturbed.trans ?_ (hclose.2 s)⟩
  exact ⟨capture_publisher _, htracks s, fun hlive => (hconnection (busy_of_capture hlive)).symm⟩

/-- What publishing a source does to the connection. -/
structure Publishes (publisher : Publisher) (source : PublicationSource) (added : List Track)
    (publisher' : Publisher) : Prop where
  recorded : publisher'.Recorded
  video : (publisher'.published source).video.isSome = true
  added : (publisher'.room.onAir source).map TrackPublication.track = added
  other : ∀ s, s ≠ source → publisher'.published s = publisher.published s ∧
    publisher'.room.onAir s = publisher.room.onAir s
  connection : publisher'.connection = publisher.connection

theorem publishes_video (hrecorded : publisher.Recorded)
    (hnone : publisher.published source = ⟨none, none⟩) :
    Publishes publisher source [videoTrack source] (publisher.publishVideo source) where
  recorded := hrecorded.publishVideo hnone
  video := by
    rw [Publisher.published_publishVideo, if_pos rfl]
    rfl
  added := by
    rw [Publisher.onAir_publishVideo, if_pos rfl, hrecorded source, Publisher.held_of_none hnone]
    rfl
  other s hs := by
    rw [Publisher.published_publishVideo, Publisher.onAir_publishVideo, if_neg hs, if_neg hs,
      List.append_nil]
    exact ⟨rfl, rfl⟩
  connection := Publisher.connection_publishVideo

/-- How publishing the screen ends: with everything asked for on the air, with
nothing, or with the picture alone. -/
theorem publishScreen_spec (hrecorded : publisher.Recorded)
    (hnone : publisher.published .screen = ⟨none, none⟩) (withAudio : Bool)
    (video audio : Option String) :
    (∃ message, video = some message ∧ publisher.publishScreen withAudio video audio =
      (publisher, .error (.publish message))) ∨
    (∃ message, video = none ∧ withAudio = true ∧ audio = some message ∧
      publisher.publishScreen withAudio video audio =
        (publisher.publishVideo .screen, .error (.publish message))) ∨
    (video = none ∧ (withAudio = true → audio = none) ∧ ∃ publisher',
      publisher.publishScreen withAudio video audio = (publisher', .ok withAudio) ∧
      Publishes publisher .screen (.screen :: if withAudio then [.screenAudio] else [])
        publisher') := by
  have hvideo := publishes_video hrecorded hnone
  cases video with
  | some message => exact .inl ⟨message, rfl, rfl⟩
  | none =>
      right
      cases withAudio with
      | false =>
          exact .inr ⟨rfl, fun h => absurd h Bool.false_ne_true, publisher.publishVideo .screen,
            rfl, hvideo⟩
      | true =>
          cases audio with
          | some message => exact .inl ⟨message, rfl, rfl, rfl, rfl⟩
          | none =>
              right
              refine ⟨rfl, fun _ => rfl, (publisher.publishVideo .screen).publishAudio, rfl, ?_⟩
              -- no audio was published with the picture, so what is published now is new
              have hquiet : (publisher.publishVideo .screen).screen.audio = none := by
                have hpublished : (publisher.publishVideo .screen).published .screen = _ :=
                  Publisher.published_publishVideo
                rw [if_pos rfl, hnone] at hpublished
                exact congrArg Published.audio hpublished
              refine ⟨hvideo.recorded.publishAudio hquiet, hvideo.video, ?_, ?_, ?_⟩
              · rw [Publisher.onAir_publishAudio, if_pos rfl, List.map_append, hvideo.added]
                rfl
              · intro s hs
                rw [Publisher.onAir_publishAudio, if_neg hs, List.append_nil]
                cases s with
                | screen => exact absurd rfl hs
                | camera => exact hvideo.other .camera hs
              · exact hvideo.connection

/-- Taking down what a start has just published undoes it. -/
theorem Live.Matches.unpublish (hmatches : live.Matches publisher) (source : PublicationSource)
    (hoff : live.capture source = none) {added : List Track}
    (hpublishes : Publishes publisher source added publisher') :
    live.Matches (publisher'.unpublish source) ∧
      (∀ s, (publisher'.unpublish source).room.onAir s = publisher.room.onAir s) ∧
      (publisher'.unpublish source).connection = publisher.connection := by
  have hpublished : ∀ s, (publisher'.unpublish source).published s = publisher.published s := by
    intro s
    rw [Publisher.published_unpublish]
    by_cases hs : s = source
    · rw [if_pos hs, hs, hmatches.off source hoff]
    · rw [if_neg hs, (hpublishes.other s hs).1]
  refine ⟨⟨hpublishes.recorded.unpublish, fun s hs => ?_, fun s hs => ?_⟩, fun s => ?_, ?_⟩
  · rw [hpublished]
    exact hmatches.off s hs
  · rw [hpublished]
    exact hmatches.on s hs
  · rw [Publisher.onAir_unpublish hpublishes.recorded]
    by_cases hs : s = source
    · rw [if_pos hs, hs, hmatches.onAir hoff]
    · rw [if_neg hs, (hpublishes.other s hs).2]
  · rw [Publisher.connection_unpublish, hpublishes.connection]

theorem capture_setCapture (capture : Option Nat) :
    (live.setCapture source capture).capture s =
      if s = source then capture else live.capture s := by
  cases source with
  | screen => cases s with
      | screen => rfl
      | camera => rfl
  | camera => cases s with
      | screen => rfl
      | camera => rfl

/-- A start that succeeds. -/
theorem started_spec (hmatches : live.Matches publisher)
    (htracks : ∀ s, publisher.room.onAir s = live.tracks s)
    (hconnection : (live.screen.isSome || live.camera.isSome) = true →
      live.publisher.map Publisher.connection = some publisher.connection)
    {added : List Track} (hpublishes : Publishes publisher source added publisher') (start : Nat)
    {live' : Live} (hlive' : live' =
      { live with publisher := some publisher' }.setCapture source (some start)) :
    live'.Kept ∧ (live'.tracks source).map TrackPublication.track = added ∧
      ∀ s, s ≠ source → live.Undisturbed live' s := by
  have hcapture : ∀ s, live'.capture s = if s = source then some start else live.capture s := by
    intro s
    rw [hlive', capture_setCapture]
    cases s with
    | screen => rfl
    | camera => rfl
  have hpublisher : live'.publisher = some publisher' := by
    rw [hlive']
    cases source with
    | screen => rfl
    | camera => rfl
  refine ⟨⟨?_, ?_⟩, ?_, ?_⟩
  · have hlive : (live'.capture source).isSome = true := by
      rw [hcapture, if_pos rfl]
      rfl
    rw [hpublisher, busy_of_capture hlive]
    rfl
  · intro other hother
    rw [hpublisher] at hother
    cases hother
    refine ⟨hpublishes.recorded, fun s hoff => ?_, fun s hon => ?_⟩
    · rw [hcapture] at hoff
      by_cases hs : s = source
      · rw [if_pos hs] at hoff
        cases hoff
      · rw [if_neg hs] at hoff
        rw [(hpublishes.other s hs).1]
        exact hmatches.off s hoff
    · rw [hcapture] at hon
      by_cases hs : s = source
      · rw [hs]
        exact hpublishes.video
      · rw [if_neg hs] at hon
        rw [(hpublishes.other s hs).1]
        exact hmatches.on s hon
  · rw [tracks_of_publisher hpublisher]
    exact hpublishes.added
  · intro s hs
    refine ⟨?_, ?_, fun hlive => ?_⟩
    · rw [hcapture, if_neg hs]
    · rw [tracks_of_publisher hpublisher, (hpublishes.other s hs).2, htracks]
    · rw [hpublisher, hconnection (busy_of_capture hlive), Option.map_some, hpublishes.connection]

theorem capture_takeDown :
    (live.takeDown source).capture s = if s = source then none else live.capture s := by
  rw [takeDown, capture_publisher, capture_setCapture]

theorem connection_takeDown :
    (live.takeDown source).publisher.map Publisher.connection =
      live.publisher.map Publisher.connection := by
  rw [takeDown, Option.map_map]
  exact congrArg (Option.map · live.publisher) (funext fun _ => Publisher.connection_unpublish)

theorem Live.Kept.tracks_takeDown (h : live.Kept) :
    (live.takeDown source).tracks s = if s = source then [] else live.tracks s := by
  unfold takeDown tracks
  cases hsome : live.publisher with
  | none => simp only [Option.map_none, ite_self]
  | some publisher => exact Publisher.onAir_unpublish (h.matched publisher hsome).recorded

theorem Live.Kept.matches_takeDown (h : live.Kept)
    (hpublisher : (live.takeDown source).publisher = some publisher) :
    (live.takeDown source).Matches publisher := by
  obtain ⟨old, hold, rfl⟩ := Option.map_eq_some_iff.mp hpublisher
  have hmatches := h.matched old hold
  refine ⟨hmatches.recorded.unpublish, fun s hoff => ?_, fun s hon => ?_⟩
  · rw [Publisher.published_unpublish]
    by_cases hs : s = source
    · rw [if_pos hs]
    · rw [capture_takeDown, if_neg hs] at hoff
      rw [if_neg hs]
      exact hmatches.off s hoff
  · rw [capture_takeDown] at hon
    by_cases hs : s = source
    · rw [if_pos hs] at hon
      cases hon
    · rw [if_neg hs] at hon
      rw [Publisher.published_unpublish, if_neg hs]
      exact hmatches.on s hon

/-- What is live once a source is down was live before. -/
theorem capture_of_takeDown (h : (live.takeDown source).capture s = some capture) :
    s ≠ source ∧ live.capture s = some capture := by
  rw [capture_takeDown] at h
  split at h
  · cases h
  · next hs => exact ⟨hs, h⟩

/-- A stop, or a release: the source is off the air, the other one as it was. -/
theorem release_spec (h : live.Kept) (source : PublicationSource) :
    (live.release source).Kept ∧ (live.release source).tracks source = [] ∧
      ∀ s, s ≠ source → live.Undisturbed (live.release source) s := by
  have hbusy : ((live.takeDown source).screen.isSome || (live.takeDown source).camera.isSome) =
      true → (live.takeDown source).publisher.isSome = true := by
    intro hbusy
    obtain ⟨s, hs⟩ := exists_live_of_busy hbusy
    obtain ⟨capture, hcapture⟩ := Option.isSome_iff_exists.mp hs
    have hlive : (live.capture s).isSome = true := by
      rw [(capture_of_takeDown hcapture).2]
      rfl
    show (live.publisher.map (Publisher.unpublish source)).isSome = true
    rw [Option.isSome_map, h.connection, busy_of_capture hlive]
  obtain ⟨hkept, hsame⟩ := closeIfIdle_spec (fun _ => h.matches_takeDown) hbusy
  refine ⟨hkept, ?_, fun s hs => Undisturbed.trans ⟨?_, ?_, fun _ => ?_⟩ (hsame s)⟩
  · rw [release, (hsame source).tracks, h.tracks_takeDown, if_pos rfl]
  · rw [capture_takeDown, if_neg hs]
  · rw [h.tracks_takeDown, if_neg hs]
  · exact connection_takeDown

/-! ## The starts -/

/-- What `share_start` does once it has its connection. -/
theorem shareStart_connected {start : Nat} {request : StartRequest} {outcome : ScreenOutcome}
    (hscreen : live.screen = none) (hid : request.sourceId.isSome = true)
    (hconnect : live.connect start outcome.connect = .ok publisher) :
    live.shareStart start request outcome =
      match publisher.publishScreen request.audio outcome.video outcome.audio with
      | (publisher, .error error) =>
          ({ live with publisher := some publisher }.closeIfIdle, .error (.publish error))
      | (publisher, .ok sink) =>
          match outcome.capture with
          | some error =>
              ({ live with publisher := some (publisher.unpublish .screen) }.closeIfIdle,
                .error (.capture error))
          | none =>
              ({ live with publisher := some publisher, screen := some start },
                .ok ⟨if sink then outcome.audioMode else none⟩) := by
  obtain ⟨id, hid⟩ := Option.isSome_iff_exists.mp hid
  rw [shareStart, if_neg (by simp [hscreen])]
  simp only [hid, hconnect]

/-- A start that publishes all it is asked for or nothing either fails and leaves
every source as it was, or puts its source on the air. -/
theorem shareStart_spec (h : live.Kept) (start : Nat) (request : StartRequest)
    (outcome : ScreenOutcome)
    (hwhole : live.screen = none → live.camera.isSome = true → request.sourceId.isSome = true →
      outcome.video = none → request.audio = true → outcome.audio = none) :
    (∃ live' error, live.shareStart start request outcome = (live', .error error) ∧
      live'.Kept ∧ ∀ s, live.Undisturbed live' s) ∨
    (∃ live' started, live.shareStart start request outcome = (live', .ok started) ∧
      live'.Kept ∧ (∀ s, s ≠ .screen → live.Undisturbed live' s) ∧
      (live'.tracks .screen).map TrackPublication.track =
        .screen :: if request.audio then [.screenAudio] else []) := by
  have hrefl : ∀ s, live.Undisturbed live s := fun s => ⟨rfl, rfl, fun _ => rfl⟩
  cases hscreen : live.screen with
  | some capture =>
      exact .inl ⟨live, .alreadySharing, by simp [shareStart, hscreen], h, hrefl⟩
  | none =>
      cases hid : request.sourceId with
      | none => exact .inl ⟨live, .badSource, by simp [shareStart, hscreen, hid], h, hrefl⟩
      | some id =>
          have hid : request.sourceId.isSome = true := by rw [hid]; rfl
          cases hconnect : live.connect start outcome.connect with
          | error error =>
              obtain ⟨id, hid⟩ := Option.isSome_iff_exists.mp hid
              exact .inl ⟨live, .publish error, by simp [shareStart, hscreen, hid, hconnect], h,
                hrefl⟩
          | ok publisher =>
              obtain ⟨hmatches, htracks, hconnection⟩ := connect_spec h hconnect
              have hnone : publisher.published .screen = ⟨none, none⟩ :=
                hmatches.off .screen hscreen
              rw [shareStart_connected hscreen hid hconnect]
              rcases publishScreen_spec hmatches.recorded hnone request.audio outcome.video
                outcome.audio with
                ⟨message, -, heq⟩ | ⟨message, hvideo, haudio, hrefused, heq⟩ |
                  ⟨-, -, publisher', heq, hpublishes⟩
              · left
                rw [heq]
                obtain ⟨hkept, hundisturbed⟩ := closed_spec hmatches htracks hconnection
                exact ⟨_, .publish (.publish message), rfl, hkept, hundisturbed⟩
              · -- the camera is off, so the connection was made for this start and closes
                left
                rw [heq]
                have hcamera : live.camera = none := by
                  cases hcamera : live.camera with
                  | none => rfl
                  | some capture =>
                      have hnot := hwhole hscreen (by rw [hcamera]; rfl) hid hvideo haudio
                      rw [hrefused] at hnot
                      cases hnot
                refine ⟨live, .publish (.publish message), ?_, h, hrefl⟩
                rw [h.eq_idle hscreen hcamera]
                rfl
              · cases hcapture : outcome.capture with
                | some error =>
                    left
                    rw [heq]
                    obtain ⟨hmatches', htracks', hconnection'⟩ :=
                      hmatches.unpublish .screen hscreen hpublishes
                    obtain ⟨hkept, hundisturbed⟩ := closed_spec hmatches'
                      (fun s => (htracks' s).trans (htracks s))
                      fun hbusy => (hconnection hbusy).trans (congrArg some hconnection'.symm)
                    exact ⟨_, .capture error, rfl, hkept, hundisturbed⟩
                | none =>
                    right
                    rw [heq]
                    obtain ⟨hkept, hadded, hother⟩ :=
                      started_spec hmatches htracks hconnection hpublishes start rfl
                    exact ⟨_, _, rfl, hkept, hother, hadded⟩

/-- Over a live camera, a picture whose audio is refused stays on the air. -/
theorem shareStart_partial (h : live.Kept) (start : Nat) {request : StartRequest}
    {outcome : ScreenOutcome} {message : String} (hscreen : live.screen = none)
    (hcamera : live.camera.isSome = true) (hid : request.sourceId.isSome = true)
    (hvideo : outcome.video = none) (haudio : request.audio = true)
    (hrefused : outcome.audio = some message) :
    (live.shareStart start request outcome).1.screen = none ∧
      (live.shareStart start request outcome).1.tracks .screen ≠ [] := by
  obtain ⟨publisher, hpublisher⟩ := h.publisher_of_live .camera hcamera
  have hconnect : live.connect start outcome.connect = .ok publisher := by
    unfold connect
    rw [hpublisher]
  rw [shareStart_connected hscreen hid hconnect]
  have heq : publisher.publishScreen request.audio outcome.video outcome.audio =
      (publisher.publishVideo .screen, .error (.publish message)) := by
    rw [hvideo, haudio, hrefused]
    rfl
  have hbusy : (live.screen.isSome || live.camera.isSome) = true :=
    Bool.or_eq_true_iff.mpr (.inr hcamera)
  rw [heq]
  dsimp only
  rw [closeIfIdle, if_pos hbusy]
  refine ⟨hscreen, ?_⟩
  show (publisher.publishVideo .screen).room.onAir .screen ≠ []
  rw [Publisher.onAir_publishVideo, if_pos rfl]
  exact List.append_ne_nil_of_right_ne_nil _ (List.cons_ne_nil _ _)

theorem cameraStart_spec (h : live.Kept) (start : Nat) (outcome : CameraOutcome) :
    (∃ live' error, live.cameraStart start outcome = (live', .error error) ∧
      live'.Kept ∧ ∀ s, live.Undisturbed live' s) ∨
    (∃ live', live.cameraStart start outcome = (live', .ok ()) ∧
      live'.Kept ∧ (∀ s, s ≠ .camera → live.Undisturbed live' s) ∧
      (live'.tracks .camera).map TrackPublication.track = [.camera]) := by
  have hrefl : ∀ s, live.Undisturbed live s := fun s => ⟨rfl, rfl, fun _ => rfl⟩
  unfold cameraStart
  by_cases hcamera : live.camera.isSome = true
  · rw [if_pos hcamera]
    exact .inl ⟨live, .alreadyOnCamera, rfl, h, hrefl⟩
  · rw [if_neg hcamera]
    have hoff : live.camera = none := Option.not_isSome_iff_eq_none.mp hcamera
    cases hconnect : live.connect start outcome.connect with
    | error error => exact .inl ⟨live, .publish error, rfl, h, hrefl⟩
    | ok publisher =>
        obtain ⟨hmatches, htracks, hconnection⟩ := connect_spec h hconnect
        obtain ⟨hkept, hundisturbed⟩ := closed_spec hmatches htracks hconnection
        cases outcome.opened with
        | some error => exact .inl ⟨_, .camera error, rfl, hkept, hundisturbed⟩
        | none =>
            cases hvideo : outcome.video with
            | some message => exact .inl ⟨_, .publish (.publish message), rfl, hkept, hundisturbed⟩
            | none =>
                right
                have hnone : publisher.published .camera = ⟨none, none⟩ := hmatches.off .camera hoff
                obtain ⟨hkept, hadded, hother⟩ := started_spec hmatches htracks hconnection
                  (publishes_video hmatches.recorded hnone) start rfl
                exact ⟨_, rfl, hkept, hother, hadded⟩

end Kept

/-! ## Every command -/

namespace Sharing

variable {s : Sharing} {command : Command}

/-- A command that fails and leaves every source as it was. -/
theorem clean_of_failed (h : s.live.Kept) (hkept : (s.step command).live.Kept)
    (hundisturbed : ∀ source, s.live.Undisturbed (s.step command).live source)
    (herror : (s.run command).2.isSome = true) : s.Clean command where
  exact := hkept.exact
  other source _ := hundisturbed source
  failed _ := by
    refine ⟨(hundisturbed command.source).capture, ?_⟩
    rw [(hundisturbed command.source).tracks]
    split
    · rfl
    · next hoff => exact h.tracks_of_off (Option.not_isSome_iff_eq_none.mp hoff)
  succeeded hnone := by
    rw [hnone] at herror
    cases herror

theorem clean_of_succeeded (hkept : (s.step command).live.Kept)
    (hother : ∀ source, source ≠ command.source → s.live.Undisturbed (s.step command).live source)
    (hleaves : ((s.step command).live.tracks command.source).map TrackPublication.track =
      command.leaves)
    (herror : (s.run command).2 = none) : s.Clean command where
  exact := hkept.exact
  other := hother
  failed hsome := by
    rw [herror] at hsome
    cases hsome
  succeeded _ := hleaves

theorem clean_release (h : s.live.Kept) (source : PublicationSource)
    (hstep : (s.step command).live = s.live.release source) (hsource : command.source = source)
    (hleaves : command.leaves = []) (herror : (s.run command).2 = none) :
    (s.step command).live.Kept ∧ s.Clean command := by
  obtain ⟨hkept, hoff, hother⟩ := release_spec h source
  rw [← hstep] at hkept
  refine ⟨hkept, clean_of_succeeded hkept ?_ ?_ herror⟩
  · rw [hstep, hsource]
    exact hother
  · rw [hstep, hsource, hoff, hleaves]
    rfl

/-- A whole command keeps the invariant and leaves the state clean. -/
theorem kept_and_clean (h : s.live.Kept) (hwhole : s.Whole command) :
    (s.step command).live.Kept ∧ s.Clean command := by
  cases command with
  | shareStart request outcome =>
      rcases shareStart_spec h s.starts request outcome hwhole with
        ⟨live', error, heq, hkept, hundisturbed⟩ | ⟨live', started, heq, hkept, hother, hadded⟩
      · have hlive : (s.step (.shareStart request outcome)).live = live' := congrArg Prod.fst heq
        have herror : (s.run (.shareStart request outcome)).2 = some error := by
          simp only [run, heq]
        rw [← hlive] at hkept hundisturbed
        exact ⟨hkept, clean_of_failed h hkept hundisturbed (by rw [herror]; rfl)⟩
      · have hlive : (s.step (.shareStart request outcome)).live = live' := congrArg Prod.fst heq
        have herror : (s.run (.shareStart request outcome)).2 = none := by
          simp only [run, heq]
        rw [← hlive] at hkept hother hadded
        exact ⟨hkept, clean_of_succeeded hkept hother hadded herror⟩
  | cameraStart outcome =>
      rcases cameraStart_spec h s.starts outcome with
        ⟨live', error, heq, hkept, hundisturbed⟩ | ⟨live', heq, hkept, hother, hadded⟩
      · have hlive : (s.step (.cameraStart outcome)).live = live' := congrArg Prod.fst heq
        have herror : (s.run (.cameraStart outcome)).2 = some error := by
          simp only [run, heq]
        rw [← hlive] at hkept hundisturbed
        exact ⟨hkept, clean_of_failed h hkept hundisturbed (by rw [herror]; rfl)⟩
      · have hlive : (s.step (.cameraStart outcome)).live = live' := congrArg Prod.fst heq
        have herror : (s.run (.cameraStart outcome)).2 = none := by
          simp only [run, heq]
        rw [← hlive] at hkept hother hadded
        exact ⟨hkept, clean_of_succeeded hkept hother hadded herror⟩
  | shareStop => exact clean_release h .screen rfl rfl rfl rfl
  | cameraStop => exact clean_release h .camera rfl rfl rfl rfl
  | gaveUp source => exact clean_release h source rfl rfl rfl rfl

/-- A command leaves the state clean exactly if it is whole. -/
theorem clean_iff (h : s.live.Kept) : s.Clean command ↔ s.Whole command := by
  constructor
  · intro hclean
    cases command with
    | shareStart request outcome =>
        intro hscreen hcamera hid hvideo haudio
        cases hrefused : outcome.audio with
        | none => rfl
        | some message =>
            obtain ⟨hoff, htracks⟩ :=
              shareStart_partial h s.starts hscreen hcamera hid hvideo haudio hrefused
            exact absurd (hclean.exact.off .screen hoff) htracks
    | shareStop => trivial
    | cameraStart outcome => trivial
    | cameraStop => trivial
    | gaveUp source => trivial
  · exact fun hwhole => (kept_and_clean h hwhole).2

theorem kept_idle : idle.live.Kept where
  connection := rfl
  matched publisher hpublisher := by cases hpublisher

/-- The commands of a run all leave the state clean exactly if all of them are
whole. -/
theorem clean_throughout_iff (commands : List Command) :
    Runs.EachStep step Clean idle commands ↔ Runs.EachStep step Whole idle commands :=
  Runs.eachStep_iff_eachStep (I := fun s => s.live.Kept) (fun _ _ h => clean_iff h)
    (fun _ _ h hwhole => (kept_and_clean h hwhole).1) kept_idle

/-- The audio of a screen is refused while the camera holds the connection. -/
theorem refused_audio_leaves_screen :
    ¬ Runs.EachStep step Clean idle
      [.cameraStart ⟨none, none, none⟩,
        .shareStart ⟨some 1, true⟩ ⟨none, none, some "timeout", none, none⟩] := by
  intro h
  have htracks := h.2.1.exact.off .screen rfl
  revert htracks
  decide

end Sharing

end Core
end Desktop
end Ldktela
