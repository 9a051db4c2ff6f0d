import Ldktela.Desktop.SessionTurns

/-!
# Other people's screens while we transmit audio

`applyAudioPolicy` of `desktop/src/media/session.ts` sets `muted` and `volume` on every audio
element, and each place that changes the store, an element or a track has to call it.  Here the
turns of the session are taken in any order: a start or a stop awaits the server and the core
while tracks come and go and other calls begin.  Only `follow`, `leave` and a rejoin run to
their end.

`AgreesAt` is what holds of one publication in every state (`agrees_step`); the elements of the
audio that is received follow from it (`audio_follows_store`).
-/

namespace Ldktela
namespace Desktop
namespace SessionTurns

open Protocol Runs
open Desktop.Core (AudioModeReport)

/-! ## Calls in flight -/

/-- A call, by what it awaits. -/
inductive Call where
  /-- `startShare`: the publish token. -/
  | shareToken (choice : ShareChoice)
  /-- `startShare`: the core. -/
  | shareNative (choice : ShareChoice)
  /-- `stopShare`: the core; `switchShare` and `changePreset` start again after it. -/
  | shareStop (again : Option ShareChoice)
  | cameraToken (device : CameraDevice)
  | cameraNative (device : CameraDevice)
  | cameraStop (again : Option CameraDevice)

structure Turns (Stats : Type) where
  client : Client Stats
  calls : List Call

/-- What the page runs next: a call, the answer to one in flight (by its place among them), or
an event. -/
inductive Act (Stats : Type) where
  | startShare (choice : ShareChoice)
  | stopShare
  | switchShare (choice : ShareChoice)
  | changePreset (preset : PublishPreset)
  | startCamera (device : CameraDevice)
  | stopCamera
  | switchCamera (device : CameraDevice)
  | answered (place : Nat) (succeeds : Bool) (audio : Option AudioModeReport)
  | shareEnded (source : PublicationSource)
  | setVolume (id : PublicationId) (volume : Number)
  | setQuality (id : PublicationId) (quality : QualityChoice)
  | setPublicationSubscribed (id : PublicationId) (subscribed : Bool)
  | registerAudioElement (id : PublicationId) (element : Option AudioElement)
  | adopted (sid : Nat) (t : RemoteTrack) (viewerIds : List Identity)
  | dropped (t : RemoteTrack) (viewerIds : List Identity)
  | unpublished (t : RemoteTrack) (viewerIds : List Identity)
  | ownerLeft (owner : Identity) (viewerIds : List Identity)
  | viewers (viewerIds : List Identity)
  | reconnecting
  | reconnected (viewerIds : List Identity)
  | sampled (share camera : Option Stats)
  | signedIn (me : Option Identity)
  | rejoined (joined : Option (List (Nat × RemoteTrack) × List Identity))
  | follow (channelId : Option Snowflake)
      (joined : Option (List (Nat × RemoteTrack) × List Identity))
  | leave

namespace Turns

variable {Stats : Type}

def new : Turns Stats := ⟨.new, []⟩

def startShare (choice : ShareChoice) (w : Turns Stats) : Turns Stats :=
  if w.client.canShare then ⟨w.client.beginShare, w.calls ++ [Call.shareToken choice]⟩ else w

/-- `stopShare`, and what starts again after it. -/
def stopShare (again : Option ShareChoice) (w : Turns Stats) : Turns Stats :=
  ⟨w.client.stopSharing, w.calls ++ [Call.shareStop again]⟩

def startCamera (device : CameraDevice) (w : Turns Stats) : Turns Stats :=
  if w.client.canStartCamera then ⟨w.client.beginCamera, w.calls ++ [Call.cameraToken device]⟩
  else w

def stopCamera (again : Option CameraDevice) (w : Turns Stats) : Turns Stats :=
  ⟨w.client.stopCameraPublishing, w.calls ++ [Call.cameraStop again]⟩

/-- A call goes on with the answer it awaits; `audio` is what a core that starts reports. -/
def answered (call : Call) (succeeds : Bool) (audio : Option AudioModeReport) (w : Turns Stats) :
    Turns Stats :=
  match call with
  | .shareToken choice =>
      if succeeds then { w with calls := w.calls ++ [Call.shareNative choice] }
      else { w with client := w.client.shareRefused }
  | .shareNative choice =>
      { w with
        client := if succeeds then w.client.shareStarted choice audio else w.client.shareRefused }
  | .shareStop none => w
  | .shareStop (some choice) => w.startShare choice
  | .cameraToken device =>
      if succeeds then { w with calls := w.calls ++ [Call.cameraNative device] }
      else { w with client := w.client.cameraRefused }
  | .cameraNative device =>
      { w with
        client := if succeeds then w.client.cameraStarted device else w.client.cameraRefused }
  | .cameraStop again =>
      let w := { w with client := w.client.stopStatsSamplingIfIdle }
      match again with
      | none => w
      | some device => w.startCamera device

/-- A turn of the client that leaves the calls as they are. -/
def turn (w : Turns Stats) (client : Client Stats) : Turns Stats :=
  { w with client }

def step (kit : LiveKit) (w : Turns Stats) : Act Stats → Turns Stats
  | .startShare choice => w.startShare choice
  | .stopShare => if w.client.sharing.isSome then w.stopShare none else w
  | .switchShare choice =>
      -- the new start waits for the core to have stopped
      if w.client.sharing.isSome then w.stopShare (some choice) else w.startShare choice
  | .changePreset preset =>
      let w := w.turn (w.client.update (.setPublishPreset preset))
      match w.client.sharing with
      | none => w
      | some choice => w.stopShare (some choice)
  | .startCamera device => w.startCamera device
  | .stopCamera => if w.client.store.camera.publishing then w.stopCamera none else w
  | .switchCamera device =>
      if w.client.store.camera.publishing then w.stopCamera (some device)
      else w.startCamera device
  | .answered place succeeds audio =>
      match w.calls[place]? with
      | none => w
      | some call => answered call succeeds audio { w with calls := w.calls.eraseIdx place }
  | .shareEnded source => w.turn (w.client.shareEnded source)
  | .setVolume id volume => w.turn (w.client.setVolume id volume)
  | .setQuality id quality => w.turn (w.client.setQuality id quality)
  | .setPublicationSubscribed id subscribed =>
      w.turn (w.client.setPublicationSubscribed id subscribed)
  | .registerAudioElement id element => w.turn (w.client.registerAudioElement kit id element)
  | .adopted sid t viewerIds => w.turn (w.client.adoptPublication kit sid t viewerIds)
  | .dropped t viewerIds => w.turn (w.client.dropTrack kit t viewerIds)
  | .unpublished t viewerIds => w.turn (w.client.unpublished t viewerIds)
  | .ownerLeft owner viewerIds =>
      w.turn ((w.client.forgetOwner owner).update (.setViewerIds viewerIds))
  | .viewers viewerIds => w.turn (w.client.update (.setViewerIds viewerIds))
  | .reconnecting => w.turn (w.client.update (.setConnection .reconnecting none))
  | .reconnected viewerIds =>
      w.turn ((w.client.update (.setConnection .connected none)).update (.setViewerIds viewerIds))
  | .sampled share camera => w.turn (w.client.sampleStats share camera)
  | .signedIn me => w.turn { w.client with me }
  | .rejoined joined => w.turn (w.client.connect kit joined)
  | .follow channelId joined => w.turn (w.client.follow kit channelId joined)
  | .leave => w.turn w.client.leave

end Turns

/-! ## One publication -/

/-- What is set on the element of one publication: the publication whose audio is received is in
the store, and its element is muted and loud as the store says. -/
def AgreesAt (silence : Bool) (held : Option Held) (p : Option PublicationState) : Prop :=
  ∀ h, held = some h → h.audio.isSome = true → ∃ q, p = some q ∧ q.hasAudio = true ∧
    ∀ element, h.audioElement = some element → element.muted = silence ∧ element.volume = q.volume

/-- The audio that is received is that of a publication in the store. -/
def ReceivedAt (held : Option Held) (p : Option PublicationState) : Prop :=
  ∀ h, held = some h → h.audio.isSome = true → ∃ q, p = some q ∧ q.hasAudio = true

theorem AgreesAt.received {silence : Bool} {held : Option Held} {p : Option PublicationState}
    (h : AgreesAt silence held p) : ReceivedAt held p := by
  intro held' hheld haudio
  obtain ⟨q, hq, hhas, -⟩ := h held' hheld haudio
  exact ⟨q, hq, hhas⟩

/-! ## What the store keeps -/

section Store

variable {Stats : Type} {s s' : MediaStore Stats} {id : PublicationId}

/-- A publication with audio stays, with its audio. -/
def KeepsAudio (s s' : MediaStore Stats) : Prop :=
  ∀ id p, s.publications.lookup id = some p → p.hasAudio = true →
    ∃ p', s'.publications.lookup id = some p' ∧ p'.hasAudio = true

/-- The policy and the volumes of what has audio stay as well. -/
def SameSound (s s' : MediaStore Stats) : Prop :=
  shouldSilenceOtherScreens s' = shouldSilenceOtherScreens s ∧
    ∀ id p, s.publications.lookup id = some p → p.hasAudio = true →
      ∃ p', s'.publications.lookup id = some p' ∧ p'.hasAudio = true ∧ p'.volume = p.volume

theorem keepsAudio_of_eq (h : s'.publications = s.publications) : KeepsAudio s s' := by
  intro id p hp haudio
  rw [← h] at hp
  exact ⟨p, hp, haudio⟩

theorem sameSound_of_eq (h : s'.publications = s.publications)
    (hsilence : shouldSilenceOtherScreens s' = shouldSilenceOtherScreens s) : SameSound s s' := by
  refine ⟨hsilence, fun id p hp haudio => ?_⟩
  rw [← h] at hp
  exact ⟨p, hp, haudio, rfl⟩

theorem lookup_changePublication (id id' : PublicationId)
    (change : PublicationState → PublicationState) :
    (s.changePublication id change).publications.lookup id' =
      if id' = id then (s.publications.lookup id).map change else s.publications.lookup id' := by
  unfold MediaStore.changePublication
  split
  · next hnone =>
      split
      · next hid => rw [hid, hnone]; rfl
      · rfl
  · next publication hp =>
      rw [AList.lookup_insert_ite, hp]
      rfl

theorem keepsAudio_changePublication {change : PublicationState → PublicationState}
    (h : ∀ p, (change p).hasAudio = p.hasAudio) :
    KeepsAudio s (s.changePublication id change) := by
  intro id' p hp haudio
  rw [lookup_changePublication]
  split
  · next hid =>
      rw [← hid, hp]
      exact ⟨change p, rfl, (h p).trans haudio⟩
  · exact ⟨p, hp, haudio⟩

theorem sameSound_changePublication {change : PublicationState → PublicationState}
    (h : ∀ p, (change p).hasAudio = p.hasAudio) (hvolume : ∀ p, (change p).volume = p.volume) :
    SameSound s (s.changePublication id change) := by
  refine ⟨?_, fun id' p hp haudio => ?_⟩
  · unfold MediaStore.changePublication
    split <;> rfl
  · rw [lookup_changePublication]
    split
    · next hid =>
        rw [← hid, hp]
        exact ⟨change p, rfl, (h p).trans haudio, hvolume p⟩
    · exact ⟨p, hp, haudio, rfl⟩

/-- A track that arrives takes no audio away and keeps the volume. -/
theorem sameSound_addTrack (kind : TrackKind) : SameSound s (s.step (.addTrack id kind)) := by
  refine ⟨rfl, fun id' p hp haudio => ?_⟩
  have hlookup : (s.step (.addTrack id kind)).publications.lookup id' = _ :=
    MediaState.lookup_withTrack
  rw [hlookup]
  split
  · next hid =>
      rw [← hid, hp]
      refine ⟨p.set kind true, rfl, ?_, PublicationState.volume_set kind true p⟩
      cases kind with
      | video => exact haudio
      | audio => rfl
  · exact ⟨p, hp, haudio, rfl⟩

/-- What is taken from one publication leaves the others. -/
theorem lookup_removeTrack_of_ne {id' : PublicationId} (kind : TrackKind) (hid : id' ≠ id) :
    (s.step (.removeTrack id kind)).publications.lookup id' = s.publications.lookup id' := by
  cases hexisting : s.publications.lookup id with
  | none => simp only [MediaStore.step, MediaState.withoutTrack, hexisting]
  | some existing =>
      have hlookup : (s.step (.removeTrack id kind)).publications.lookup id' = _ :=
        MediaState.lookup_withoutTrack hexisting
      rw [hlookup, if_neg hid]

theorem sameSound_removeVideo : SameSound s (s.step (.removeTrack id .video)) := by
  refine ⟨rfl, fun id' p hp haudio => ?_⟩
  by_cases hid : id' = id
  · subst hid
    have hlookup : (s.step (.removeTrack id' .video)).publications.lookup id' = _ :=
      MediaState.lookup_withoutTrack hp
    have hleft : ((p.set .video false).hasVideo || (p.set .video false).hasAudio ||
        !(p.set .video false).subscribed) = true := by
      simp [PublicationState.set, haudio]
    rw [hlookup, if_pos rfl, if_pos hleft]
    exact ⟨_, rfl, haudio, rfl⟩
  · rw [lookup_removeTrack_of_ne .video hid]
    exact ⟨p, hp, haudio, rfl⟩

end Store

namespace Client

variable {Stats : Type} {kit : LiveKit} {c : Client Stats}

def Agrees (c : Client Stats) : Prop :=
  ∀ id, AgreesAt (shouldSilenceOtherScreens c.store) (c.remotes.lookup id)
    (c.store.publications.lookup id)

def Received (c : Client Stats) : Prop :=
  ∀ id, ReceivedAt (c.remotes.lookup id) (c.store.publications.lookup id)

theorem Agrees.received (h : c.Agrees) : c.Received := fun id => (h id).received

/-- Whatever the elements were set to, the policy sets them right. -/
theorem agrees_applyAudioPolicy (h : c.Received) : c.applyAudioPolicy.Agrees := by
  intro id held hheld haudio
  simp only [applyAudioPolicy, AList.lookup_mapVal, Option.map_eq_some_iff] at hheld
  obtain ⟨held', hheld', rfl⟩ := hheld
  obtain ⟨q, hq, hhas⟩ := h id held' hheld' haudio
  refine ⟨q, hq, hhas, fun element helement => ?_⟩
  obtain ⟨element', -, rfl⟩ := Option.map_eq_some_iff.mp helement
  rw [hq]
  exact ⟨rfl, rfl⟩

variable {c' : Client Stats}

/-- A turn that leaves the elements and the sound of the store alone. -/
theorem Agrees.frame (h : c.Agrees) (hremotes : c'.remotes = c.remotes)
    (hsound : SameSound c.store c'.store) : c'.Agrees := by
  intro id held hheld haudio
  rw [hremotes] at hheld
  obtain ⟨q, hq, hhas, helement⟩ := h id held hheld haudio
  obtain ⟨q', hq', hhas', hvolume⟩ := hsound.2 id q hq hhas
  rw [hsound.1]
  refine ⟨q', hq', hhas', fun element hsome => ?_⟩
  rw [hvolume]
  exact helement element hsome

theorem Received.frame (h : c.Received) (hremotes : c'.remotes = c.remotes)
    (hkeeps : KeepsAudio c.store c'.store) : c'.Received := by
  intro id held hheld haudio
  rw [hremotes] at hheld
  obtain ⟨q, hq, hhas⟩ := h id held hheld haudio
  exact hkeeps id q hq hhas

theorem Agrees.update_sound (h : c.Agrees) {action : MediaAction Stats}
    (hsound : SameSound c.store (c.store.step action)) : (c.update action).Agrees :=
  h.frame rfl hsound

/-- An action of the store that has nothing to do with the publications or the policy. -/
theorem Agrees.update (h : c.Agrees) {action : MediaAction Stats}
    (hpublications : (c.store.step action).publications = c.store.publications)
    (hsilence : shouldSilenceOtherScreens (c.store.step action) =
      shouldSilenceOtherScreens c.store) : (c.update action).Agrees :=
  h.frame rfl (sameSound_of_eq hpublications hsilence)

theorem remotes_stopStatsSampling : c.stopStatsSampling.remotes = c.remotes := by
  cases h : c.statsTimer <;> simp [stopStatsSampling, h, Client.update]

theorem agrees_stopStatsSampling (h : c.Agrees) : c.stopStatsSampling.Agrees := by
  refine h.frame remotes_stopStatsSampling (sameSound_of_eq ?_ ?_)
  · cases htimer : c.statsTimer <;>
      simp [stopStatsSampling, htimer, Client.update, MediaStore.step]
  · cases htimer : c.statsTimer <;>
      simp [stopStatsSampling, htimer, Client.update, MediaStore.step, shouldSilenceOtherScreens]

theorem agrees_startStatsSampling (h : c.Agrees) : c.startStatsSampling.Agrees :=
  (agrees_stopStatsSampling h).frame rfl (sameSound_of_eq rfl rfl)

theorem agrees_stopStatsSamplingIfIdle (h : c.Agrees) : c.stopStatsSamplingIfIdle.Agrees := by
  simp only [stopStatsSamplingIfIdle]
  split
  · exact agrees_stopStatsSampling h
  · exact h

theorem agrees_sampleStats (share camera : Option Stats) (h : c.Agrees) :
    (c.sampleStats share camera).Agrees := by
  simp only [sampleStats]
  split_ifs
  · exact (h.update rfl rfl).update rfl rfl
  · exact h.update rfl rfl
  · exact h.update rfl rfl
  · exact h

/-! ### Our own shares -/

theorem agrees_shareStarted (choice : ShareChoice) (audio : Option AudioModeReport)
    (h : c.Agrees) : (c.shareStarted choice audio).Agrees := by
  apply agrees_startStatsSampling
  exact agrees_applyAudioPolicy (h.received.frame rfl (keepsAudio_of_eq rfl))

theorem agrees_stopSharing (h : c.Agrees) : c.stopSharing.Agrees := by
  -- between `setPublishing` and the policy the elements are still muted, so only `Received`
  -- gets through
  have hstopped : ({ c with sharing := none }).stopStatsSampling.Agrees :=
    agrees_stopStatsSampling (h.frame rfl (sameSound_of_eq rfl rfl))
  exact agrees_applyAudioPolicy (hstopped.received.frame rfl (keepsAudio_of_eq rfl))

theorem agrees_cameraStarted (device : CameraDevice) (h : c.Agrees) :
    (c.cameraStarted device).Agrees :=
  agrees_startStatsSampling (h.update rfl rfl)

theorem agrees_shareEnded (source : PublicationSource) (h : c.Agrees) :
    (c.shareEnded source).Agrees := by
  cases source with
  | camera =>
      simp only [shareEnded]
      split
      · exact agrees_stopStatsSamplingIfIdle (h.update rfl rfl)
      · exact h
  | screen =>
      simp only [shareEnded]
      split
      · exact h
      · -- the policy comes before the sampling here, the other way round than in `stopSharing`
        apply agrees_stopStatsSamplingIfIdle
        exact agrees_applyAudioPolicy (h.received.frame rfl (keepsAudio_of_eq rfl))

/-! ### Remote publications -/

theorem agrees_setVolume (id : PublicationId) (volume : Number) (h : c.Agrees) :
    (c.setVolume id volume).Agrees :=
  agrees_applyAudioPolicy
    (h.received.frame rfl (keepsAudio_changePublication fun _ => rfl))

theorem agrees_setQuality (id : PublicationId) (quality : QualityChoice) (h : c.Agrees) :
    (c.setQuality id quality).Agrees :=
  h.frame rfl (sameSound_changePublication (fun _ => rfl) fun _ => rfl)

theorem agrees_setPublicationSubscribed (id : PublicationId) (subscribed : Bool)
    (h : c.Agrees) : (c.setPublicationSubscribed id subscribed).Agrees := by
  have hset : (c.update (.setSubscribed id subscribed)).Agrees :=
    h.frame rfl (sameSound_changePublication (fun _ => rfl) fun _ => rfl)
  simp only [setPublicationSubscribed]
  split
  · exact hset.update rfl rfl
  · exact hset

/-- What is held of a publication is that of an entry, or nothing is received. -/
theorem lookup_of_audio {id : PublicationId} (h : (c.held id).audio.isSome = true) :
    c.remotes.lookup id = some (c.held id) := by
  unfold held at h ⊢
  cases hlookup : c.remotes.lookup id with
  | none =>
      rw [hlookup] at h
      cases h
  | some held => rfl

/-- An entry is replaced, with the same audio track and an element it already had. -/
theorem Agrees.hold {id : PublicationId} {held : Held} (h : c.Agrees)
    (haudio : held.audio = (c.held id).audio)
    (helement : ∀ e, held.audioElement = some e → (c.held id).audioElement = some e) :
    (c.hold id held).Agrees := by
  intro id' held' hheld' haudio'
  simp only [Client.hold, AList.lookup_insert_ite] at hheld'
  split at hheld'
  · next hid =>
      obtain rfl := Option.some.inj hheld'
      rw [haudio] at haudio'
      obtain ⟨q, hq, hhas, hset⟩ := h id (c.held id) (lookup_of_audio haudio') haudio'
      rw [hid]
      exact ⟨q, hq, hhas, fun element hsome => hset element (helement element hsome)⟩
  · exact h id' held' hheld' haudio'

theorem Received.hold {id : PublicationId} {held : Held} (h : c.Received)
    (haudio : held.audio = (c.held id).audio) : (c.hold id held).Received := by
  intro id' held' hheld' haudio'
  simp only [Client.hold, AList.lookup_insert_ite] at hheld'
  split at hheld'
  · next hid =>
      obtain rfl := Option.some.inj hheld'
      rw [haudio] at haudio'
      rw [hid]
      exact h id (c.held id) (lookup_of_audio haudio') haudio'
  · exact h id' held' hheld' haudio'

theorem agrees_registerAudioElement (id : PublicationId) (element : Option AudioElement)
    (h : c.Agrees) : (c.registerAudioElement kit id element).Agrees := by
  cases element with
  | none => exact h.hold rfl fun e he => by cases he
  | some element => exact agrees_applyAudioPolicy (h.received.hold rfl)

/-- Audio that arrives creates its publication. -/
theorem received_addAudio {id : PublicationId} {held : Held} (h : c.Received) :
    ((c.hold id held).update (.addTrack id .audio)).Received := by
  intro id' held' hheld' haudio'
  have hlookup : ((c.hold id held).update (.addTrack id .audio)).store.publications.lookup id' =
      _ := MediaState.lookup_withTrack
  rw [hlookup]
  simp only [Client.update, Client.hold, AList.lookup_insert_ite] at hheld'
  split
  · exact ⟨_, rfl, rfl⟩
  · next hid =>
      rw [if_neg hid] at hheld'
      exact h id' held' hheld' haudio'

theorem agrees_adoptPublication (sid : Nat) (t : RemoteTrack) (viewerIds : List Identity)
    (h : c.Agrees) : (c.adoptPublication kit sid t viewerIds).Agrees := by
  unfold adoptPublication
  split
  · exact h
  · split
    · exact h
    · next id hid =>
        split_ifs
        · -- a video leaves the audio of its publication as it is
          have hheld : (c.hold id { c.held id with
              video := some sid, publication := some sid }).Agrees := h.hold rfl fun e he => he
          exact (hheld.update_sound (sameSound_addTrack .video)).update rfl rfl
        · -- an element that was waiting for this audio is set by the policy
          exact agrees_applyAudioPolicy (received_addAudio h.received)
        · exact h

/-- Nothing is received for this one any more, and the others stay. -/
theorem agrees_removeAudio {id : PublicationId} {held : Held} (hnone : held.audio = none)
    (h : c.Agrees) : ((c.hold id held).update (.removeTrack id .audio)).Agrees := by
  intro id' held' hheld' haudio'
  simp only [Client.update, Client.hold, AList.lookup_insert_ite] at hheld'
  split at hheld'
  · obtain rfl := Option.some.inj hheld'
    rw [hnone] at haudio'
    cases haudio'
  · next hid =>
      have hlookup : ((c.hold id held).update (.removeTrack id .audio)).store.publications.lookup
          id' = c.store.publications.lookup id' := lookup_removeTrack_of_ne .audio hid
      rw [hlookup]
      exact h id' held' hheld' haudio'

theorem agrees_dropTrack (t : RemoteTrack) (viewerIds : List Identity) (h : c.Agrees) :
    (c.dropTrack kit t viewerIds).Agrees := by
  unfold dropTrack
  split
  · exact h
  · next id hid =>
      split
      · exact h
      · next held hlookup =>
          have hheld : c.held id = held := by rw [Client.held, hlookup]; rfl
          split
          · exact agrees_removeAudio rfl h
          · -- the element keeps playing: the audio of the publication stays
            have hvideo : (c.hold id { held with video := none, publication := none }).Agrees :=
              h.hold (by rw [hheld]) fun e he => by rw [hheld]; exact he
            exact (hvideo.update_sound sameSound_removeVideo).update rfl rfl

/-- A publication that is held no more can be dropped. -/
theorem agrees_dropPublication {id : PublicationId} (h : c.Agrees)
    (hnone : c.remotes.lookup id = none) : (c.update (.dropPublication id)).Agrees := by
  intro id' held hheld haudio
  have hlookup : (c.update (.dropPublication id)).store.publications.lookup id' = _ :=
    MediaState.lookup_dropPublication
  have hid : id' ≠ id := by
    rintro rfl
    rw [show (c.update (.dropPublication id')).remotes = c.remotes from rfl, hnone] at hheld
    cases hheld
  rw [hlookup, if_neg hid]
  exact h id' held hheld haudio

theorem agrees_forget (id : PublicationId) (h : c.Agrees) : (c.forget id).Agrees := by
  have herased : ({ c with remotes := c.remotes.erase id }).Agrees := by
    intro id' held hheld haudio
    simp only [AList.lookup_erase_ite] at hheld
    split at hheld
    · cases hheld
    · exact h id' held hheld haudio
  exact agrees_dropPublication herased (by simp)

theorem lookup_foldl_forget (ids : List PublicationId) (id : PublicationId) :
    (ids.foldl (fun c id => c.forget id) c).remotes.lookup id =
      if id ∈ ids then none else c.remotes.lookup id := by
  induction ids generalizing c with
  | nil => rfl
  | cons first ids ih =>
      rw [List.foldl_cons, ih]
      have hforget : (c.forget first).remotes.lookup id = _ := AList.lookup_erase_ite _ _ _
      rw [hforget]
      by_cases hid : id = first
      · simp [hid]
      · simp [hid]

theorem agrees_foldl_forget (ids : List PublicationId) (h : c.Agrees) :
    (ids.foldl (fun c id => c.forget id) c).Agrees := by
  induction ids generalizing c with
  | nil => exact h
  | cons id ids ih => exact ih (agrees_forget id h)

theorem lookup_detachAll (id : PublicationId) : c.detachAll.remotes.lookup id = none := by
  rw [detachAll, lookup_foldl_forget]
  split
  · rfl
  · next hid => exact AList.lookup_eq_none.mpr hid

theorem agrees_detachAll (h : c.Agrees) : c.detachAll.Agrees :=
  agrees_foldl_forget _ h

theorem agrees_forgetOwner (owner : Identity) (h : c.Agrees) : (c.forgetOwner owner).Agrees := by
  have hgone : ∀ source, ((c.remotes.keys.filter fun id => id.ownerId = owner).foldl
      (fun c id => c.forget id) c).remotes.lookup ⟨owner, source⟩ = none := by
    intro source
    rw [lookup_foldl_forget]
    split
    · rfl
    · next hid =>
        rw [List.mem_filter] at hid
        exact AList.lookup_eq_none.mpr fun hmem => hid ⟨hmem, by simp⟩
  have hforgotten := agrees_foldl_forget (c.remotes.keys.filter fun id => id.ownerId = owner) h
  -- both sources are dropped from the store, held or not
  exact agrees_dropPublication (agrees_dropPublication hforgotten (hgone .screen)) (hgone .camera)

theorem agrees_unpublished (t : RemoteTrack) (viewerIds : List Identity) (h : c.Agrees) :
    (c.unpublished t viewerIds).Agrees := by
  unfold unpublished
  split
  · exact h
  · split
    · exact h
    · exact (agrees_forget _ h).update rfl rfl

/-! ### The room -/

theorem agrees_foldl_adopt (tracks : List (Nat × RemoteTrack)) (viewerIds : List Identity)
    (h : c.Agrees) :
    (tracks.foldl (fun c track => c.adoptPublication kit track.1 track.2 viewerIds) c).Agrees := by
  induction tracks generalizing c with
  | nil => exact h
  | cons track tracks ih => exact ih (agrees_adoptPublication track.1 track.2 viewerIds h)

theorem agrees_connect (joined : Option (List (Nat × RemoteTrack) × List Identity))
    (h : c.Agrees) : (c.connect kit joined).Agrees := by
  unfold connect
  split
  · exact h
  · have hdetached : (c.update (.setConnection .connecting none)).detachAll.Agrees :=
      agrees_detachAll (h.update rfl rfl)
    cases joined with
    | none => exact hdetached.update rfl rfl
    | some joined =>
        obtain ⟨tracks, viewerIds⟩ := joined
        have hconnected : ((c.update (.setConnection .connecting none)).detachAll.update
            (.setConnection .connected none)).Agrees := hdetached.update rfl rfl
        exact (agrees_foldl_adopt tracks viewerIds hconnected).update rfl rfl

/-- Nothing is held any more. -/
theorem agrees_leave : c.leave.Agrees := by
  intro id held hheld
  have hnone : c.leave.remotes.lookup id = none := lookup_detachAll id
  rw [hnone] at hheld
  cases hheld

theorem agrees_follow (channelId : Option Snowflake)
    (joined : Option (List (Nat × RemoteTrack) × List Identity)) (h : c.Agrees) :
    (c.follow kit channelId joined).Agrees := by
  unfold follow
  split
  · exact h
  · exact agrees_connect joined (agrees_leave.frame rfl (sameSound_of_eq rfl rfl))

end Client

/-! ## Every run -/

namespace Turns

variable {Stats : Type} {kit : LiveKit} {w : Turns Stats}

theorem agrees_startShare (choice : ShareChoice) (h : w.client.Agrees) :
    (w.startShare choice).client.Agrees := by
  unfold startShare
  split
  · exact h.update rfl rfl
  · exact h

theorem agrees_startCamera (device : CameraDevice) (h : w.client.Agrees) :
    (w.startCamera device).client.Agrees := by
  unfold startCamera
  split
  · exact h.update rfl rfl
  · exact h

/-- A call that goes on, whatever it awaited. -/
theorem agrees_answered (call : Call) (succeeds : Bool) (audio : Option AudioModeReport)
    (h : w.client.Agrees) : (answered call succeeds audio w).client.Agrees := by
  cases call with
  | shareToken choice =>
      cases succeeds with
      | true => exact h
      | false => exact h.update rfl rfl
  | shareNative choice =>
      cases succeeds with
      | true => exact Client.agrees_shareStarted choice audio h
      | false => exact h.update rfl rfl
  | shareStop again =>
      cases again with
      | none => exact h
      | some choice => exact agrees_startShare choice h
  | cameraToken device =>
      cases succeeds with
      | true => exact h
      | false => exact h.update rfl rfl
  | cameraNative device =>
      cases succeeds with
      | true => exact Client.agrees_cameraStarted device h
      | false => exact h.update rfl rfl
  | cameraStop again =>
      have hidle := Client.agrees_stopStatsSamplingIfIdle h
      cases again with
      | none => exact hidle
      | some device => exact agrees_startCamera device hidle

theorem agrees_step (act : Act Stats) (h : w.client.Agrees) : (step kit w act).client.Agrees := by
  cases act with
  | startShare choice => exact agrees_startShare choice h
  | stopShare =>
      simp only [step]
      split
      · exact Client.agrees_stopSharing h
      · exact h
  | switchShare choice =>
      simp only [step]
      split
      · exact Client.agrees_stopSharing h
      · exact agrees_startShare choice h
  | changePreset preset =>
      have hset : (w.client.update (.setPublishPreset preset)).Agrees := h.update rfl rfl
      simp only [step]
      split
      · exact hset
      · exact Client.agrees_stopSharing hset
  | startCamera device => exact agrees_startCamera device h
  | stopCamera =>
      simp only [step]
      split
      · exact h.update rfl rfl
      · exact h
  | switchCamera device =>
      simp only [step]
      split
      · exact h.update rfl rfl
      · exact agrees_startCamera device h
  | answered place succeeds audio =>
      simp only [step]
      split
      · exact h
      · exact agrees_answered _ succeeds audio h
  | shareEnded source => exact Client.agrees_shareEnded source h
  | setVolume id volume => exact Client.agrees_setVolume id volume h
  | setQuality id quality => exact Client.agrees_setQuality id quality h
  | setPublicationSubscribed id subscribed =>
      exact Client.agrees_setPublicationSubscribed id subscribed h
  | registerAudioElement id element => exact Client.agrees_registerAudioElement id element h
  | adopted sid t viewerIds => exact Client.agrees_adoptPublication sid t viewerIds h
  | dropped t viewerIds => exact Client.agrees_dropTrack t viewerIds h
  | unpublished t viewerIds => exact Client.agrees_unpublished t viewerIds h
  | ownerLeft owner viewerIds => exact (Client.agrees_forgetOwner owner h).update rfl rfl
  | viewers viewerIds => exact h.update rfl rfl
  | reconnecting => exact h.update rfl rfl
  | reconnected viewerIds =>
      have hconnected : (w.client.update (.setConnection .connected none)).Agrees :=
        h.update rfl rfl
      exact hconnected.update rfl rfl
  | sampled share camera => exact Client.agrees_sampleStats share camera h
  | signedIn me => exact h.frame rfl (sameSound_of_eq rfl rfl)
  | rejoined joined => exact Client.agrees_connect joined h
  | follow channelId joined => exact Client.agrees_follow channelId joined h
  | leave => exact Client.agrees_leave

/-- Every element that is held for a publication whose audio is received is muted and loud as
the store says. -/
def AudioFollows (w : Turns Stats) : Prop :=
  ∀ id held element, w.client.remotes.lookup id = some held → held.audio.isSome = true →
    held.audioElement = some element →
      element.muted = shouldSilenceOtherScreens w.client.store ∧
        ∃ p, w.client.store.publications.lookup id = some p ∧ element.volume = p.volume

theorem audioFollows_of_agrees (h : w.client.Agrees) : w.AudioFollows := by
  intro id held element hheld haudio helement
  obtain ⟨p, hp, -, hset⟩ := h id held hheld haudio
  exact ⟨(hset element helement).1, p, hp, (hset element helement).2⟩

/-- Whatever the order of the turns, other people's screens are silenced exactly while we
transmit the audio of the system, and are as loud as they were set. -/
theorem audio_follows_store (kit : LiveKit) (acts : List (Act Stats)) :
    Throughout (step kit) AudioFollows (Turns.new : Turns Stats) acts := by
  have hnew : (Turns.new : Turns Stats).client.Agrees := fun _ _ hheld => by cases hheld
  have hagrees : Throughout (step kit) (fun w : Turns Stats => w.client.Agrees)
      Turns.new acts :=
    throughout_iff_initial.mpr fun as _ =>
      run_invariant (I := fun w : Turns Stats => w.client.Agrees)
        (fun _ act h => agrees_step act h) hnew as
  exact hagrees.mono fun w h => audioFollows_of_agrees h

end Turns

end SessionTurns
end Desktop
end Ldktela
