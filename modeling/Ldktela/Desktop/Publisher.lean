import Mathlib.Data.List.Nodup
import Ldktela.Protocol

/-!
# One publishing connection and its tracks

`desktop/src-tauri/src/publisher.rs`: a connection publishes the screen, with or
without its audio, and the camera, and keeps the sids of what each source has
published, so that one source can be taken down alone.

The SFU's answers are arguments: an error text where a call fails.  Unpublishing a
track that is there does not fail.
-/

namespace Ldktela
namespace Desktop
namespace Core

open Protocol

/-- What a track of the connection carries. -/
inductive Track where
  | screen
  | screenAudio
  | camera
deriving DecidableEq

/-- The source the track belongs to. -/
def Track.source : Track → PublicationSource
  | screen => .screen
  | screenAudio => .screen
  | camera => .camera

/-- The picture of a source. -/
def videoTrack : PublicationSource → Track
  | .screen => .screen
  | .camera => .camera

@[simp]
theorem source_videoTrack (source : PublicationSource) : (videoTrack source).source = source := by
  cases source with
  | screen => rfl
  | camera => rfl

/-- A track on the air, with the sid the SFU gave it. -/
structure TrackPublication where
  sid : Nat
  track : Track
deriving DecidableEq

/-- The local participant of the connection: what it has on the air.  Sids are not
given out twice. -/
structure Room where
  tracks : List TrackPublication
  nextSid : Nat
  issued : ∀ publication ∈ tracks, publication.sid < nextSid
  distinct : (tracks.map TrackPublication.sid).Nodup

namespace Room

/-- A new connection, with nothing on the air. -/
def empty : Room where
  tracks := []
  nextSid := 0
  issued := by simp
  distinct := List.nodup_nil

def publishTrack (track : Track) (room : Room) : Room where
  tracks := room.tracks ++ [⟨room.nextSid, track⟩]
  nextSid := room.nextSid + 1
  issued := by
    intro publication hmem
    rcases List.mem_append.mp hmem with hold | hnew
    · have hlt := room.issued publication hold
      omega
    · rw [List.mem_singleton.mp hnew]
      exact Nat.lt_succ_self _
  distinct := by
    rw [List.map_append, List.nodup_append]
    refine ⟨room.distinct, by simp, ?_⟩
    intro sid hold sid' hnew
    obtain ⟨publication, hmem, rfl⟩ := List.mem_map.mp hold
    have hlt := room.issued publication hmem
    have heq : sid' = room.nextSid := by simpa using hnew
    omega

def unpublishTrack (sid : Nat) (room : Room) : Room where
  tracks := room.tracks.filter fun publication => publication.sid ≠ sid
  nextSid := room.nextSid
  issued := fun publication hmem => room.issued publication (List.mem_of_mem_filter hmem)
  distinct := room.distinct.sublist (List.filter_sublist.map _)

/-- What the source has on the air. -/
def onAir (room : Room) (source : PublicationSource) : List TrackPublication :=
  room.tracks.filter fun publication => publication.track.source = source

variable {room : Room} {source : PublicationSource} {track : Track}

theorem onAir_publishTrack :
    (room.publishTrack track).onAir source =
      room.onAir source ++ if track.source = source then [⟨room.nextSid, track⟩] else [] := by
  unfold onAir publishTrack
  rw [List.filter_append]
  by_cases h : track.source = source
  · simp [h]
  · simp [h]

theorem onAir_unpublishTrack (sid : Nat) :
    (room.unpublishTrack sid).onAir source =
      (room.onAir source).filter fun publication => publication.sid ≠ sid := by
  unfold onAir unpublishTrack
  rw [List.filter_filter, List.filter_filter]
  exact List.filter_congr fun publication _ => Bool.and_comm _ _

/-- A sid names one track. -/
theorem eq_of_sid {a b : TrackPublication} (ha : a ∈ room.tracks) (hb : b ∈ room.tracks)
    (h : a.sid = b.sid) : a = b :=
  List.inj_on_of_nodup_map room.distinct ha hb h

theorem mem_onAir {publication : TrackPublication} :
    publication ∈ room.onAir source ↔
      publication ∈ room.tracks ∧ publication.track.source = source := by
  simp [onAir]

/-- Takes the tracks with these sids off the air. -/
theorem onAir_unpublishTracks (sids : List Nat) (room : Room) :
    (sids.foldl (fun room sid => room.unpublishTrack sid) room).onAir source =
      (room.onAir source).filter fun publication => publication.sid ∉ sids := by
  induction sids generalizing room with
  | nil => simp
  | cons sid sids ih =>
      rw [List.foldl_cons, ih, onAir_unpublishTrack, List.filter_filter]
      refine List.filter_congr fun publication _ => ?_
      simp [Bool.and_comm]

end Room

/-- The sids of what one source has published. -/
structure Published where
  video : Option Nat
  audio : Option Nat
deriving DecidableEq

/-- `PublishError`; `message` is the text of the SDK. -/
inductive PublishError where
  | connect (message : String)
  | publish (message : String)
deriving DecidableEq

structure Publisher where
  /-- Which connection of the core this is. -/
  connection : Nat
  room : Room
  screen : Published
  camera : Published

namespace Publisher

/-- Connects without publishing anything. -/
def new (connection : Nat) : Publisher :=
  ⟨connection, Room.empty, ⟨none, none⟩, ⟨none, none⟩⟩

def published (publisher : Publisher) : PublicationSource → Published
  | .screen => publisher.screen
  | .camera => publisher.camera

def setPublished (source : PublicationSource) (held : Published) (publisher : Publisher) :
    Publisher :=
  match source with
  | .screen => { publisher with screen := held }
  | .camera => { publisher with camera := held }

/-- Publishes the picture of the source and keeps its sid. -/
def publishVideo (source : PublicationSource) (publisher : Publisher) : Publisher :=
  setPublished source { publisher.published source with video := some publisher.room.nextSid }
    { publisher with room := publisher.room.publishTrack (videoTrack source) }

/-- Publishes the audio of the screen and keeps its sid. -/
def publishAudio (publisher : Publisher) : Publisher :=
  { publisher with
    room := publisher.room.publishTrack .screenAudio
    screen := { publisher.screen with audio := some publisher.room.nextSid } }

/-- Publishes the screen, and its audio when asked.  `video` and `audio` are the
errors of the two publications, if they fail.  Answers whether there is a sink for
the audio. -/
def publishScreen (withAudio : Bool) (video audio : Option String) (publisher : Publisher) :
    Publisher × Except PublishError Bool :=
  match video with
  | some message => (publisher, .error (.publish message))
  | none =>
      let publisher := publisher.publishVideo .screen
      if withAudio then
        match audio with
        | some message => (publisher, .error (.publish message))
        | none => (publisher.publishAudio, .ok true)
      else
        (publisher, .ok false)

/-- Publishes the camera.  Carries no audio. -/
def publishCamera (video : Option String) (publisher : Publisher) :
    Publisher × Except PublishError Unit :=
  match video with
  | some message => (publisher, .error (.publish message))
  | none => (publisher.publishVideo .camera, .ok ())

/-- Takes one source off the air, leaving the other one running. -/
def unpublish (source : PublicationSource) (publisher : Publisher) : Publisher :=
  let held := publisher.published source
  let sids := held.video.toList ++ held.audio.toList
  setPublished source ⟨none, none⟩
    { publisher with
      room := sids.foldl (fun room sid => room.unpublishTrack sid) publisher.room }

/-! ## What the connection has on the air, and what it knows of it -/

/-- The tracks of the source by the sids that are kept. -/
def held (publisher : Publisher) (source : PublicationSource) : List TrackPublication :=
  ((publisher.published source).video.toList.map fun sid => ⟨sid, videoTrack source⟩) ++
    (publisher.published source).audio.toList.map fun sid => ⟨sid, .screenAudio⟩

/-- What a source has on the air is what `unpublish` will take down. -/
def Recorded (publisher : Publisher) : Prop :=
  ∀ source, publisher.room.onAir source = publisher.held source

variable {publisher : Publisher} {source s : PublicationSource}

theorem recorded_new (connection : Nat) : (new connection).Recorded := by
  intro source
  cases source with
  | screen => rfl
  | camera => rfl

theorem published_setPublished (held : Published) :
    (setPublished source held publisher).published s =
      if s = source then held else publisher.published s := by
  cases source with
  | screen => cases s with
      | screen => rfl
      | camera => rfl
  | camera => cases s with
      | screen => rfl
      | camera => rfl

@[simp]
theorem room_setPublished (held : Published) :
    (setPublished source held publisher).room = publisher.room := by
  cases source with
  | screen => rfl
  | camera => rfl

@[simp]
theorem connection_setPublished (held : Published) :
    (setPublished source held publisher).connection = publisher.connection := by
  cases source with
  | screen => rfl
  | camera => rfl

theorem held_eq {other : Publisher} (h : other.published s = publisher.published s) :
    other.held s = publisher.held s := by
  rw [held, held, h]

theorem held_of_none (h : publisher.published s = ⟨none, none⟩) : publisher.held s = [] := by
  rw [held, h]
  rfl

@[simp]
theorem connection_publishVideo :
    (publisher.publishVideo source).connection = publisher.connection :=
  connection_setPublished _

theorem published_publishVideo :
    (publisher.publishVideo source).published s =
      if s = source then { publisher.published source with video := some publisher.room.nextSid }
      else publisher.published s := by
  rw [publishVideo, published_setPublished]
  rfl

theorem onAir_publishVideo :
    (publisher.publishVideo source).room.onAir s =
      publisher.room.onAir s ++
        if s = source then [⟨publisher.room.nextSid, videoTrack source⟩] else [] := by
  rw [publishVideo, room_setPublished, Room.onAir_publishTrack, source_videoTrack]
  simp only [eq_comm]

theorem published_unpublish :
    (publisher.unpublish source).published s =
      if s = source then ⟨none, none⟩ else publisher.published s := by
  rw [unpublish, published_setPublished]
  rfl

@[simp]
theorem connection_unpublish : (publisher.unpublish source).connection = publisher.connection :=
  connection_setPublished _

/-- The first picture of a source is on record. -/
theorem Recorded.publishVideo (h : publisher.Recorded)
    (hnone : publisher.published source = ⟨none, none⟩) :
    (publisher.publishVideo source).Recorded := by
  intro s
  rw [onAir_publishVideo, h s]
  by_cases hs : s = source
  · subst hs
    rw [if_pos rfl, held_of_none hnone, held, published_publishVideo, if_pos rfl, hnone]
    rfl
  · rw [if_neg hs, List.append_nil]
    refine (held_eq ?_).symm
    rw [published_publishVideo, if_neg hs]

theorem onAir_publishAudio :
    publisher.publishAudio.room.onAir s =
      publisher.room.onAir s ++
        if s = .screen then [⟨publisher.room.nextSid, .screenAudio⟩] else [] := by
  rw [publishAudio, Room.onAir_publishTrack]
  cases s with
  | screen => rfl
  | camera => rfl

/-- So is its audio, once. -/
theorem Recorded.publishAudio (h : publisher.Recorded) (hnone : publisher.screen.audio = none) :
    publisher.publishAudio.Recorded := by
  intro s
  rw [onAir_publishAudio, h s]
  cases s with
  | screen => simp [held, published, Publisher.publishAudio, hnone]
  | camera => simp [held, published, Publisher.publishAudio]

/-- Taking a source down leaves nothing of it on the air, and the other source
alone. -/
theorem onAir_unpublish (h : publisher.Recorded) :
    (publisher.unpublish source).room.onAir s =
      if s = source then [] else publisher.room.onAir s := by
  rw [unpublish, room_setPublished, Room.onAir_unpublishTracks]
  by_cases hs : s = source
  · subst hs
    rw [if_pos rfl, h s, List.filter_eq_nil_iff]
    intro publication hmem
    simp only [held, List.mem_append, List.mem_map] at hmem
    rcases hmem with ⟨sid, hsid, rfl⟩ | ⟨sid, hsid, rfl⟩
    · simp [hsid]
    · simp [hsid]
  · rw [if_neg hs, List.filter_eq_self]
    intro publication hmem
    obtain ⟨hroom, hsource⟩ := Room.mem_onAir.mp hmem
    -- a sid that is kept is that of a track of the other source
    have hother : ∀ other ∈ publisher.held source, other.sid ≠ publication.sid := by
      intro other hother heq
      rw [← h source] at hother
      obtain ⟨hroom', hsource'⟩ := Room.mem_onAir.mp hother
      have hsame : other = publication := Room.eq_of_sid hroom' hroom heq
      subst hsame
      exact hs (hsource.symm.trans hsource')
    have hsids : ∀ sid ∈ (publisher.published source).video.toList ++
        (publisher.published source).audio.toList, sid ≠ publication.sid := by
      intro sid hsid
      rcases List.mem_append.mp hsid with hvideo | haudio
      · exact hother ⟨sid, videoTrack source⟩
          (List.mem_append_left _ (List.mem_map_of_mem hvideo))
      · exact hother ⟨sid, .screenAudio⟩
          (List.mem_append_right _ (List.mem_map_of_mem haudio))
    have hfree : publication.sid ∉ (publisher.published source).video.toList ++
        (publisher.published source).audio.toList := fun hmem => hsids _ hmem rfl
    exact decide_eq_true hfree

theorem Recorded.unpublish (h : publisher.Recorded) : (publisher.unpublish source).Recorded := by
  intro s
  rw [onAir_unpublish h]
  by_cases hs : s = source
  · rw [if_pos hs]
    refine (held_of_none ?_).symm
    rw [published_unpublish, if_pos hs]
  · rw [if_neg hs, h s]
    refine (held_eq ?_).symm
    rw [published_unpublish, if_neg hs]

end Publisher

end Core
end Desktop
end Ldktela
