import Ldktela.Desktop.SessionTurns

/-!
# When the statistics are sampled

The operations of `MediaSession` that start and stop our own shares, one after the other, with
what the server and the core answer.  Two sources share one interval: both starts arm it, and
`stopStatsSamplingIfIdle` stops it when neither is on the air.  `stopShare` stops it whatever
the camera does.

`Air` forgets all but what is on the air and whether the interval runs.  Each operation is an
operation of `Air` (`becomes_step`), and what they do there is a finite matter;
`sampled_iff_keeps` carries it back to every run of the session.
-/

namespace Ldktela
namespace Desktop
namespace SessionTurns

open Protocol Runs
open Desktop.Core (AudioModeReport)

/-! ## The operations -/

namespace Client

variable {Stats : Type}

/-- `outcome` is `none` when the server or the core refuses. -/
def startShare (choice : ShareChoice) (outcome : Option (Option AudioModeReport))
    (c : Client Stats) : Client Stats :=
  if c.canShare then
    match outcome with
    | none => c.beginShare.shareRefused
    | some audio => c.beginShare.shareStarted choice audio
  else c

/-- A core that fails to stop is only logged. -/
def stopShare (c : Client Stats) : Client Stats :=
  if c.sharing.isSome then c.stopSharing else c

def switchShare (choice : ShareChoice) (outcome : Option (Option AudioModeReport))
    (c : Client Stats) : Client Stats :=
  (if c.sharing.isSome then c.stopShare else c).startShare choice outcome

def changePreset (preset : PublishPreset) (outcome : Option (Option AudioModeReport))
    (c : Client Stats) : Client Stats :=
  let c := c.update (.setPublishPreset preset)
  match c.sharing with
  | none => c
  | some choice => c.stopShare.startShare choice outcome

def startCamera (device : CameraDevice) (succeeds : Bool) (c : Client Stats) : Client Stats :=
  if c.canStartCamera then
    if succeeds then c.beginCamera.cameraStarted device else c.beginCamera.cameraRefused
  else c

def stopCamera (c : Client Stats) : Client Stats :=
  if c.store.camera.publishing then c.stopCameraPublishing.stopStatsSamplingIfIdle else c

def switchCamera (device : CameraDevice) (succeeds : Bool) (c : Client Stats) : Client Stats :=
  (if c.store.camera.publishing then c.stopCamera else c).startCamera device succeeds

/-- The interval comes, if one runs. -/
def tick (share camera : Option Stats) (c : Client Stats) : Client Stats :=
  if c.intervals = [] then c else c.sampleStats share camera

end Client

/-- What can happen, each to its end. -/
inductive Op (Stats : Type) where
  | startShare (choice : ShareChoice) (outcome : Option (Option AudioModeReport))
  | stopShare
  | switchShare (choice : ShareChoice) (outcome : Option (Option AudioModeReport))
  | changePreset (preset : PublishPreset) (outcome : Option (Option AudioModeReport))
  | startCamera (device : CameraDevice) (succeeds : Bool)
  | stopCamera
  | switchCamera (device : CameraDevice) (succeeds : Bool)
  | shareEnded (source : PublicationSource)
  | leave
  | follow (channelId : Option Snowflake)
      (joined : Option (List (Nat × RemoteTrack) × List Identity))
  | tick (share camera : Option Stats)

section Runs

variable {Stats : Type} (kit : LiveKit)

def step (c : Client Stats) : Op Stats → Client Stats
  | .startShare choice outcome => c.startShare choice outcome
  | .stopShare => c.stopShare
  | .switchShare choice outcome => c.switchShare choice outcome
  | .changePreset preset outcome => c.changePreset preset outcome
  | .startCamera device succeeds => c.startCamera device succeeds
  | .stopCamera => c.stopCamera
  | .switchCamera device succeeds => c.switchCamera device succeeds
  | .shareEnded source => c.shareEnded source
  | .leave => c.leave
  | .follow channelId joined => c.follow kit channelId joined
  | .tick share camera => c.tick share camera

/-- The session in a channel, with nothing on the air. -/
def Client.inChannel (channelId : Option Snowflake) : Client Stats := { Client.new with channelId }

/-- The screen is shared, or the camera is publishing. -/
def Client.onAir (c : Client Stats) : Bool :=
  c.sharing.isSome || c.store.camera.publishing

/-- One interval runs while something is on the air, and none otherwise. -/
def Client.Sampled (c : Client Stats) : Prop :=
  c.intervals.length = if c.onAir then 1 else 0

/-- The screen is not stopped for good beside a camera that goes on. -/
def Keeps (c : Client Stats) : Op Stats → Prop
  | .stopShare => ¬ (c.sharing.isSome = true ∧ c.store.camera.publishing = true)
  | .switchShare _ outcome | .changePreset _ outcome =>
      outcome = none → ¬ (c.sharing.isSome = true ∧ c.store.camera.publishing = true)
  | _ => True

end Runs

/-! ## On the air -/

/-- What matters of the session here. -/
structure Air where
  inRoom : Bool
  screen : Bool
  camera : Bool
  timer : Bool
deriving DecidableEq

namespace Air

def startShare (succeeds : Bool) (a : Air) : Air :=
  if a.inRoom && !a.screen && succeeds then { a with screen := true, timer := true } else a

def stopShare (a : Air) : Air :=
  if a.screen then { a with screen := false, timer := false } else a

def startCamera (succeeds : Bool) (a : Air) : Air :=
  if a.inRoom && !a.camera && succeeds then { a with camera := true, timer := true } else a

/-- `stopStatsSamplingIfIdle`. -/
def idle (a : Air) : Air :=
  if !a.screen && !a.camera then { a with timer := false } else a

def ended (source : PublicationSource) (a : Air) : Air :=
  match source with
  | .screen => if a.screen then idle { a with screen := false } else a
  | .camera => if a.camera then idle { a with camera := false } else a

inductive Op where
  | startShare (succeeds : Bool)
  | stopShare
  | switchShare (succeeds : Bool)
  | changePreset (succeeds : Bool)
  | startCamera (succeeds : Bool)
  | switchCamera (succeeds : Bool)
  | ended (source : PublicationSource)
  | moved (inRoom : Bool)
  | nothing

def step (a : Air) : Op → Air
  | .startShare succeeds => a.startShare succeeds
  | .stopShare => a.stopShare
  | .switchShare succeeds => a.stopShare.startShare succeeds
  | .changePreset succeeds => if a.screen then a.stopShare.startShare succeeds else a
  | .startCamera succeeds => a.startCamera succeeds
  | .switchCamera succeeds => (a.ended .camera).startCamera succeeds
  | .ended source => a.ended source
  | .moved inRoom => ⟨inRoom, false, false, false⟩
  | .nothing => a

/-- The interval runs exactly while something is on the air. -/
def Coherent (a : Air) : Prop :=
  a.timer = (a.screen || a.camera)

/-- A screen is shared in a room only. -/
def Placed (a : Air) : Prop :=
  a.screen = true → a.inRoom = true

def Keeps (a : Air) : Op → Prop
  | .stopShare => ¬ (a.screen = true ∧ a.camera = true)
  | .switchShare succeeds | .changePreset succeeds =>
      succeeds = false → ¬ (a.screen = true ∧ a.camera = true)
  | _ => True

instance (a : Air) : Decidable a.Coherent := inferInstanceAs (Decidable (_ = _))

instance (a : Air) : Decidable a.Placed := inferInstanceAs (Decidable (_ → _))

instance (a : Air) : (op : Op) → Decidable (a.Keeps op)
  | .stopShare => inferInstanceAs (Decidable (¬ _))
  | .switchShare _ => inferInstanceAs (Decidable (_ → _))
  | .changePreset _ => inferInstanceAs (Decidable (_ → _))
  | .startShare _ => .isTrue trivial
  | .startCamera _ => .isTrue trivial
  | .switchCamera _ => .isTrue trivial
  | .ended _ => .isTrue trivial
  | .moved _ => .isTrue trivial
  | .nothing => .isTrue trivial

/-- A statement about every state is decided by looking at the sixteen of them. -/
instance {p : Air → Prop} [DecidablePred p] : Decidable (∀ a, p a) :=
  decidable_of_iff (∀ inRoom screen camera timer, p ⟨inRoom, screen, camera, timer⟩)
    ⟨fun h a => h a.1 a.2 a.3 a.4, fun h _ _ _ _ => h _⟩

theorem step_placed (a : Air) (op : Op) (h : a.Placed) : (a.step op).Placed := by
  revert a
  cases op with
  | startShare succeeds => revert succeeds; decide
  | stopShare => decide
  | switchShare succeeds => revert succeeds; decide
  | changePreset succeeds => revert succeeds; decide
  | startCamera succeeds => revert succeeds; decide
  | switchCamera succeeds => revert succeeds; decide
  | ended source => cases source <;> decide
  | moved inRoom => revert inRoom; decide
  | nothing => exact fun a h => h

/-- One operation: only a screen that is stopped for good beside the camera loses the
interval. -/
theorem step_coherent_iff (a : Air) (op : Op) (hplaced : a.Placed) (h : a.Coherent) :
    (a.step op).Coherent ↔ a.Keeps op := by
  revert a
  cases op with
  | startShare succeeds => revert succeeds; decide
  | stopShare => decide
  | switchShare succeeds => revert succeeds; decide
  | changePreset succeeds => revert succeeds; decide
  | startCamera succeeds => revert succeeds; decide
  | switchCamera succeeds => revert succeeds; decide
  | ended source => cases source <;> decide
  | moved inRoom => revert inRoom; decide
  | nothing => exact fun a _ h => ⟨fun _ => trivial, fun _ => h⟩

end Air

/-! ## The session on the air -/

namespace Client

variable {Stats : Type} {kit : LiveKit} {c : Client Stats}

def air (c : Client Stats) : Air :=
  ⟨c.channelId.isSome, c.sharing.isSome, c.store.camera.publishing, c.statsTimer.isSome⟩

/-- The interval that runs is the one the session knows of. -/
def Timed (c : Client Stats) : Prop :=
  c.intervals = c.statsTimer.toList

theorem sampled_iff (h : c.Timed) : c.Sampled ↔ c.air.Coherent := by
  rw [Sampled, h, Air.Coherent, air, ← onAir]
  cases c.statsTimer <;> cases c.onAir <;> simp

@[simp]
theorem statsTimer_stopStatsSampling : c.stopStatsSampling.statsTimer = none := by
  cases h : c.statsTimer <;> simp [stopStatsSampling, h, update]

@[simp]
theorem sharing_stopStatsSampling : c.stopStatsSampling.sharing = c.sharing := by
  cases h : c.statsTimer <;> simp [stopStatsSampling, h, update]

@[simp]
theorem channelId_stopStatsSampling : c.stopStatsSampling.channelId = c.channelId := by
  cases h : c.statsTimer <;> simp [stopStatsSampling, h, update]

@[simp]
theorem camera_stopStatsSampling :
    c.stopStatsSampling.store.camera.publishing = c.store.camera.publishing := by
  cases h : c.statsTimer <;> simp [stopStatsSampling, h, update, MediaStore.step]

theorem air_stopStatsSampling : c.stopStatsSampling.air = { c.air with timer := false } := by
  simp [air]

theorem timed_stopStatsSampling (h : c.Timed) : c.stopStatsSampling.Timed := by
  cases htimer : c.statsTimer with
  | none => simpa [stopStatsSampling, htimer, Timed, update] using h
  | some handle =>
      -- the handle that is cleared is the only one
      have hintervals : c.intervals = [handle] := by rw [h, htimer]; rfl
      simp [stopStatsSampling, htimer, Timed, update, hintervals]

theorem air_startStatsSampling : c.startStatsSampling.air = { c.air with timer := true } := by
  simp [startStatsSampling, air]

/-- A second start replaces the interval of the first one. -/
theorem timed_startStatsSampling (h : c.Timed) : c.startStatsSampling.Timed := by
  have hstop := timed_stopStatsSampling h
  rw [Timed, statsTimer_stopStatsSampling] at hstop
  simp [startStatsSampling, Timed, hstop]

/-- Nothing starts or stops, and the interval is left alone. -/
structure SameAir (c c' : Client Stats) : Prop where
  channelId : c'.channelId = c.channelId
  sharing : c'.sharing = c.sharing
  camera : c'.store.camera.publishing = c.store.camera.publishing
  statsTimer : c'.statsTimer = c.statsTimer
  intervals : c'.intervals = c.intervals

namespace SameAir

variable {c' c'' : Client Stats}

theorem refl (c : Client Stats) : SameAir c c := ⟨rfl, rfl, rfl, rfl, rfl⟩

theorem trans (h : SameAir c c') (h' : SameAir c' c'') : SameAir c c'' :=
  ⟨h'.1.trans h.1, h'.2.trans h.2, h'.3.trans h.3, h'.4.trans h.4, h'.5.trans h.5⟩

theorem air_eq (h : SameAir c c') : c'.air = c.air := by
  simp only [air, h.channelId, h.sharing, h.camera, h.statsTimer]

theorem timed (h : SameAir c c') (ht : c.Timed) : c'.Timed := by
  rw [Timed, h.statsTimer, h.intervals]
  exact ht

theorem foldl {α : Type} {f : Client Stats → α → Client Stats} (h : ∀ c a, SameAir c (f c a))
    (l : List α) (c : Client Stats) : SameAir c (l.foldl f c) := by
  induction l generalizing c with
  | nil => exact refl c
  | cons a l ih => exact (h c a).trans (ih (f c a))

end SameAir

theorem sameAir_update {action : MediaAction Stats}
    (h : (c.store.step action).camera.publishing = c.store.camera.publishing) :
    SameAir c (c.update action) :=
  ⟨rfl, rfl, h, rfl, rfl⟩

theorem sameAir_forget (c : Client Stats) (id : PublicationId) : SameAir c (c.forget id) :=
  ⟨rfl, rfl, rfl, rfl, rfl⟩

theorem sameAir_detachAll (c : Client Stats) : SameAir c c.detachAll :=
  .foldl sameAir_forget _ c

theorem sameAir_adoptPublication (kit : LiveKit) (c : Client Stats) (sid : Nat) (t : RemoteTrack)
    (viewerIds : List Identity) : SameAir c (c.adoptPublication kit sid t viewerIds) := by
  unfold adoptPublication
  split
  · exact .refl c
  · split
    · exact .refl c
    · split_ifs
      · exact ⟨rfl, rfl, rfl, rfl, rfl⟩
      · exact ⟨rfl, rfl, rfl, rfl, rfl⟩
      · exact .refl c

theorem sameAir_connect (c : Client Stats)
    (joined : Option (List (Nat × RemoteTrack) × List Identity)) :
    SameAir c (c.connect kit joined) := by
  unfold connect
  split
  · exact .refl c
  · have hdetached : SameAir c (c.update (.setConnection .connecting none)).detachAll :=
      (sameAir_update rfl).trans (sameAir_detachAll _)
    cases joined with
    | none => exact hdetached.trans (sameAir_update rfl)
    | some joined =>
        obtain ⟨tracks, viewerIds⟩ := joined
        have hadopted := SameAir.foldl (fun (c : Client Stats) (track : Nat × RemoteTrack) =>
          sameAir_adoptPublication kit c track.1 track.2 viewerIds) tracks
        exact ((hdetached.trans (sameAir_update rfl)).trans (hadopted _)).trans
          (sameAir_update rfl)

/-- `leave`, up to the reset of the store. -/
theorem sameAir_leaving : SameAir { c.stopStatsSampling with channelId := none }
    (detachAll { c.stopStatsSampling with channelId := none }) :=
  sameAir_detachAll _

theorem sameAir_applyAudioPolicy (c : Client Stats) : SameAir c c.applyAudioPolicy :=
  ⟨rfl, rfl, rfl, rfl, rfl⟩

/-- `c'` is `a` on the air, and the session still knows of the interval. -/
structure Becomes (c : Client Stats) (a : Air) (c' : Client Stats) : Prop where
  air : c'.air = a
  timed : c.Timed → c'.Timed

theorem Becomes.refl (c : Client Stats) : Becomes c c.air c := ⟨rfl, id⟩

theorem Becomes.trans {c' c'' : Client Stats} {a b : Air} (h : Becomes c a c')
    (h' : Becomes c' b c'') : Becomes c b c'' :=
  ⟨h'.air, fun ht => h'.timed (h.timed ht)⟩

theorem becomes_stopStatsSampling :
    Becomes c { c.air with timer := false } c.stopStatsSampling :=
  ⟨air_stopStatsSampling, timed_stopStatsSampling⟩

theorem becomes_startStatsSampling :
    Becomes c { c.air with timer := true } c.startStatsSampling :=
  ⟨air_startStatsSampling, timed_startStatsSampling⟩

theorem becomes_stopStatsSamplingIfIdle : Becomes c c.air.idle c.stopStatsSamplingIfIdle := by
  simp only [stopStatsSamplingIfIdle, Air.idle, air, Option.not_isSome]
  split
  · exact becomes_stopStatsSampling
  · exact .refl c

theorem becomes_leave : Becomes c ⟨false, false, false, false⟩ c.leave := by
  refine ⟨?_, fun h => sameAir_leaving.timed (timed_stopStatsSampling h)⟩
  have hchannel : c.leave.channelId = none := sameAir_leaving.channelId
  have htimer : c.leave.statsTimer = none :=
    sameAir_leaving.statsTimer.trans statsTimer_stopStatsSampling
  have hsharing : c.leave.sharing = none := rfl
  have hstore : c.leave.store = .initial := rfl
  simp [air, hchannel, htimer, hsharing, hstore, MediaStore.initial, MediaStore.noCamera]

theorem becomes_follow (channelId : Option Snowflake)
    (joined : Option (List (Nat × RemoteTrack) × List Identity)) :
    Becomes c (if channelId = c.channelId then c.air else ⟨channelId.isSome, false, false, false⟩)
      (c.follow kit channelId joined) := by
  unfold follow
  split
  · exact .refl c
  · -- what connects has left: only the channel is new
    refine ⟨?_, fun h => (sameAir_connect _ joined).timed (becomes_leave.timed h)⟩
    rw [(sameAir_connect _ joined).air_eq]
    have hleave := (becomes_leave (c := c)).air
    simp only [air, Air.mk.injEq] at hleave
    simp only [air, hleave]

/-! ### The shares -/

theorem becomes_shareStarted (choice : ShareChoice) (audio : Option AudioModeReport) :
    Becomes c { c.air with screen := true, timer := true } (c.shareStarted choice audio) := by
  have hsharing : Becomes c { c.air with screen := true }
      (({ c with sharing := some choice }).update
        (.setPublishing true audio.isSome audio (some choice.title))).applyAudioPolicy := ⟨rfl, id⟩
  exact hsharing.trans becomes_startStatsSampling

theorem becomes_stopSharing :
    Becomes c { c.air with screen := false, timer := false } c.stopSharing := by
  refine ⟨?_, fun h => (sameAir_applyAudioPolicy _).timed ?_⟩
  · rw [stopSharing, (sameAir_applyAudioPolicy _).air_eq]
    simp [air, update, MediaStore.step]
  · have hstop : ({ c with sharing := none }).stopStatsSampling.Timed := timed_stopStatsSampling h
    exact hstop

theorem becomes_startShare (choice : ShareChoice) (outcome : Option (Option AudioModeReport)) :
    Becomes c (c.air.startShare outcome.isSome) (c.startShare choice outcome) := by
  have hcan : c.canShare = (c.air.inRoom && !c.air.screen) := by
    simp [canShare, air]
  simp only [startShare, Air.startShare, ← hcan]
  cases c.canShare with
  | false => exact .refl c
  | true =>
      cases outcome with
      | none => exact ⟨rfl, id⟩
      | some audio =>
          have hbegun : Becomes c c.air c.beginShare := ⟨rfl, id⟩
          exact hbegun.trans (becomes_shareStarted choice audio)

theorem becomes_stopShare : Becomes c c.air.stopShare c.stopShare := by
  have hscreen : c.air.screen = c.sharing.isSome := rfl
  rw [stopShare, Air.stopShare, hscreen]
  split
  · exact becomes_stopSharing
  · exact .refl c

/-- A start after a stop, as the switch and the new preset are. -/
theorem becomes_restartShare (choice : ShareChoice) (outcome : Option (Option AudioModeReport)) :
    Becomes c (c.air.stopShare.startShare outcome.isSome)
      (c.stopShare.startShare choice outcome) := by
  have hstart := becomes_stopShare.trans (becomes_startShare (c := c.stopShare) choice outcome)
  rwa [becomes_stopShare.air] at hstart

theorem becomes_switchShare (choice : ShareChoice) (outcome : Option (Option AudioModeReport)) :
    Becomes c (c.air.stopShare.startShare outcome.isSome) (c.switchShare choice outcome) := by
  rw [switchShare]
  split
  · exact becomes_restartShare choice outcome
  · next h =>
      -- with no screen shared, stopping first changes nothing
      have hscreen : ¬ c.air.screen = true := h
      rw [Air.stopShare, if_neg hscreen]
      exact becomes_startShare choice outcome

theorem becomes_changePreset (preset : PublishPreset)
    (outcome : Option (Option AudioModeReport)) :
    Becomes c (if c.air.screen then c.air.stopShare.startShare outcome.isSome else c.air)
      (c.changePreset preset outcome) := by
  have hscreen : c.air.screen = c.sharing.isSome := rfl
  have hset : (c.update (.setPublishPreset preset)).sharing = c.sharing := rfl
  rw [hscreen]
  simp only [changePreset, hset]
  cases c.sharing with
  | none => exact ⟨rfl, id⟩
  | some choice =>
      have hpreset : Becomes c c.air (c.update (.setPublishPreset preset)) := ⟨rfl, id⟩
      exact hpreset.trans (becomes_restartShare choice outcome)

theorem becomes_startCamera (device : CameraDevice) (succeeds : Bool) :
    Becomes c (c.air.startCamera succeeds) (c.startCamera device succeeds) := by
  have hcan : c.canStartCamera = (c.air.inRoom && !c.air.camera) := rfl
  simp only [startCamera, Air.startCamera, ← hcan]
  cases c.canStartCamera with
  | false => exact .refl c
  | true =>
      cases succeeds with
      | false => exact ⟨rfl, id⟩
      | true =>
          have hcamera : Becomes c { c.air with camera := true }
              (c.beginCamera.update (.setCameraPublishing (some device))) := ⟨rfl, id⟩
          exact hcamera.trans becomes_startStatsSampling

theorem becomes_stopCamera : Becomes c (c.air.ended .camera) c.stopCamera := by
  have hcamera : c.air.camera = c.store.camera.publishing := rfl
  simp only [stopCamera, Air.ended, hcamera]
  split
  · have hstopped : Becomes c { c.air with camera := false } c.stopCameraPublishing := ⟨rfl, id⟩
    exact hstopped.trans becomes_stopStatsSamplingIfIdle
  · exact .refl c

theorem becomes_shareEnded (source : PublicationSource) :
    Becomes c (c.air.ended source) (c.shareEnded source) := by
  cases source with
  | camera => exact becomes_stopCamera
  | screen =>
      have hscreen : c.air.screen = c.sharing.isSome := rfl
      simp only [shareEnded, Air.ended, hscreen]
      cases hsharing : c.sharing with
      | none => exact .refl c
      | some choice =>
          have hstopped : Becomes c { c.air with screen := false }
              (({ c with sharing := none }).update
                (.setPublishing false false none none)).applyAudioPolicy := ⟨rfl, id⟩
          exact hstopped.trans becomes_stopStatsSamplingIfIdle

theorem becomes_switchCamera (device : CameraDevice) (succeeds : Bool) :
    Becomes c ((c.air.ended .camera).startCamera succeeds) (c.switchCamera device succeeds) := by
  rw [switchCamera]
  split
  · have hstart :=
      becomes_stopCamera.trans (becomes_startCamera (c := c.stopCamera) device succeeds)
    rwa [becomes_stopCamera.air] at hstart
  · next h =>
      have hcamera : ¬ c.air.camera = true := h
      rw [Air.ended, if_neg hcamera]
      exact becomes_startCamera device succeeds

theorem becomes_tick (share camera : Option Stats) : Becomes c c.air (c.tick share camera) := by
  simp only [tick, sampleStats]
  split_ifs <;> exact ⟨rfl, id⟩

end Client

/-! ## Every run -/

section Runs

variable {Stats : Type} {kit : LiveKit} {c : Client Stats} {op : Op Stats}

/-- What the operation is on the air. -/
def Op.air (c : Client Stats) : Op Stats → Air.Op
  | .startShare _ outcome => .startShare outcome.isSome
  | .stopShare => .stopShare
  | .switchShare _ outcome => .switchShare outcome.isSome
  | .changePreset _ outcome => .changePreset outcome.isSome
  | .startCamera _ succeeds => .startCamera succeeds
  | .stopCamera => .ended .camera
  | .switchCamera _ succeeds => .switchCamera succeeds
  | .shareEnded source => .ended source
  | .leave => .moved false
  | .follow channelId _ => if channelId = c.channelId then .nothing else .moved channelId.isSome
  | .tick _ _ => .nothing

theorem becomes_step (c : Client Stats) (op : Op Stats) :
    c.Becomes (c.air.step (op.air c)) (step kit c op) := by
  cases op with
  | startShare choice outcome => exact Client.becomes_startShare choice outcome
  | stopShare => exact Client.becomes_stopShare
  | switchShare choice outcome => exact Client.becomes_switchShare choice outcome
  | changePreset preset outcome => exact Client.becomes_changePreset preset outcome
  | startCamera device succeeds => exact Client.becomes_startCamera device succeeds
  | stopCamera => exact Client.becomes_stopCamera
  | switchCamera device succeeds => exact Client.becomes_switchCamera device succeeds
  | shareEnded source => exact Client.becomes_shareEnded source
  | leave => exact Client.becomes_leave
  | follow channelId joined =>
      have hfollow : c.Becomes _ (c.follow kit channelId joined) :=
        Client.becomes_follow channelId joined
      rw [Op.air]
      split at hfollow
      · next hsame =>
          rw [if_pos hsame]
          exact hfollow
      · next hother =>
          rw [if_neg hother]
          exact hfollow
  | tick share camera => exact Client.becomes_tick share camera

theorem keeps_iff : Keeps c op ↔ c.air.Keeps (op.air c) := by
  cases op with
  | switchShare choice outcome => cases outcome <;> simp [Keeps, Op.air, Air.Keeps, Client.air]
  | changePreset preset outcome => cases outcome <;> simp [Keeps, Op.air, Air.Keeps, Client.air]
  | follow channelId joined =>
      rw [Op.air]
      split <;> exact Iff.rfl
  | _ => exact Iff.rfl

/-- It is never running twice, in any run. -/
theorem throughout_once (channelId : Option Snowflake) (ops : List (Op Stats)) :
    Throughout (step kit) (fun c => c.intervals.length ≤ 1) (Client.inChannel channelId) ops := by
  have htimed : Throughout (step kit) Client.Timed (Client.inChannel channelId) ops :=
    throughout_iff_initial.mpr fun as _ =>
      run_invariant (fun c op h => (becomes_step c op).timed h)
        (show (Client.inChannel channelId).Timed from rfl) as
  refine htimed.mono fun c h => ?_
  rw [h]
  cases c.statsTimer <;> simp

/-- Sampling runs once while something is on the air, and not otherwise, along exactly the runs
that never stop the screen for good beside a camera that goes on. -/
theorem sampled_iff_keeps (kit : LiveKit) (channelId : Option Snowflake) (ops : List (Op Stats)) :
    Throughout (step kit) Client.Sampled (Client.inChannel channelId) ops ↔
      EachStep (step kit) Keeps (Client.inChannel channelId) ops := by
  refine throughout_iff_eachStep (I := fun c => c.Timed ∧ c.air.Placed) ?_ ?_ ?_ rfl
  · intro c op h
    refine ⟨(becomes_step c op).timed h.1, ?_⟩
    rw [(becomes_step c op).air]
    exact Air.step_placed c.air _ h.2
  · -- a step of the session is a step on the air
    intro c op h hsampled
    rw [Client.sampled_iff h.1] at hsampled
    rw [Client.sampled_iff ((becomes_step c op).timed h.1), (becomes_step c op).air, keeps_iff]
    exact Air.step_coherent_iff c.air _ h.2 hsampled
  · exact ⟨rfl, fun h => by cases h⟩

/-- The screen is stopped while the camera goes on. -/
def cameraGoesOn : List (Op Unit) :=
  [.startShare ⟨"1", .screen, false, "Tela 1"⟩ (some none), .startCamera ⟨"cam", "Webcam"⟩ true,
    .stopShare]

theorem not_sampled_beside_camera :
    (run (step ⟨id, id⟩) (Client.inChannel (some 7)) cameraGoesOn).store.camera.publishing = true ∧
      (run (step ⟨id, id⟩) (Client.inChannel (some 7)) cameraGoesOn).intervals = [] ∧
      ¬ Throughout (step ⟨id, id⟩) Client.Sampled (Client.inChannel (some 7)) cameraGoesOn := by
  refine ⟨rfl, rfl, fun h => ?_⟩
  have hlast := throughout_iff_initial.mp h cameraGoesOn List.prefix_rfl
  have hzero : 0 = 1 := hlast
  cases hzero

end Runs

end SessionTurns
end Desktop
end Ldktela
