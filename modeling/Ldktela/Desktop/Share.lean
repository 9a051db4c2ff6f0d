import Ldktela.Api.Sfu

/-!
# The core's publications

`desktop/src-tauri/src/share.rs` and `publisher.rs`: one publishing connection, up to
two publications over it.  The commands hold one lock from start to end, so each of
them is a function on what the lock guards.  It answers with the webhooks the SFU
emits on the way; where a start can fail, the way it goes is an argument.
`Desktop.Sharing` has the same commands with the sids of the tracks and every failure,
and `Desktop.Shown` says that the two agree.

Nothing goes off the air without a webhook (`reported_startNative`,
`reported_release`); `accounted_of_failed` says what a failed start leaves behind, and
`startNative_silent` which failures leave nothing at all.
-/

namespace Ldktela
namespace Desktop

open Protocol
open Api.Rooms (Change Tracks)

/-- A webhook about the publishing connection. -/
inductive Hook where
  | published (source : PublicationSource)
  | unpublished (source : PublicationSource)
  | gone
deriving DecidableEq

/-- The change at the SFU that the webhook reports. -/
def Hook.change : Hook → Change
  | published source => .publishes source
  | unpublished source => .unpublishes source
  | gone => .publisherLeaves

/-- The webhook gives back the slot of the source. -/
def Hook.releases (hook : Hook) (source : PublicationSource) : Bool :=
  match hook with
  | published _ => false
  | unpublished s => s = source
  | gone => true

structure Live where
  /-- The connection, with what it has published. -/
  publisher : Option Tracks
  /-- The screen is being captured. -/
  screen : Bool
  /-- The camera is being captured. -/
  camera : Bool
  /-- A picture of the screen is published whose sid a later start has overwritten:
  only the end of the connection takes it down. -/
  stray : Bool
deriving DecidableEq

namespace Live

def strayed (live : Live) : PublicationSource → Bool
  | .screen => live.stray
  | .camera => false

def published (live : Live) (source : PublicationSource) : Bool :=
  match live.publisher with
  | none => false
  | some tracks => tracks.get source || live.strayed source

def active (live : Live) : PublicationSource → Bool
  | .screen => live.screen
  | .camera => live.camera

def setActive (source : PublicationSource) (value : Bool) (live : Live) : Live :=
  match source with
  | .screen => { live with screen := value }
  | .camera => { live with camera := value }

/-- Closes the connection when nothing is on the air any more. -/
def closeIfIdle (live : Live) : Live × List Hook :=
  if live.screen || live.camera then
    (live, [])
  else
    match live.publisher with
    | none => (live, [])
    | some _ => ({ live with publisher := none, stray := false }, [.gone])

/-- The publishing connection, used again when it is there. -/
def connect (live : Live) : Live :=
  match live.publisher with
  | some _ => live
  | none => { live with publisher := some Tracks.none, stray := false }

/-- A screen that is published already keeps its first picture besides the new one. -/
def publish (source : PublicationSource) (live : Live) : Live × List Hook :=
  ({ live with
      publisher := live.publisher.map fun tracks => tracks.set source true
      stray := live.stray || (source = .screen && live.published .screen) },
    [.published source])

def unpublish (source : PublicationSource) (live : Live) : Live × List Hook :=
  match live.publisher with
  | none => (live, [])
  | some tracks =>
      if tracks.get source then
        ({ live with publisher := some (tracks.set source false) }, [.unpublished source])
      else
        (live, [])

/-- Do the one, then the other; the webhooks come in this order. -/
def andThen (first : Live × List Hook) (next : Live → Live × List Hook) : Live × List Hook :=
  ((next first.1).1, first.2 ++ (next first.1).2)

/-- Stops the capture and unpublishes the source.  `share_stop` and `camera_stop`. -/
def release (source : PublicationSource) (live : Live) : Live × List Hook :=
  andThen (unpublish source (live.setActive source false)) closeIfIdle

end Live

/-! ## Starts -/

/-- How `share_start` goes, if no share is on. -/
inductive ShareOutcome where
  | badSource
  | notConnected
  | notPublished
  /-- The video is published and its audio is refused. -/
  | noAudio
  /-- Everything is published and the capture does not start. -/
  | noCapture
  | started
deriving DecidableEq

/-- How `camera_start` goes, if the camera is not on. -/
inductive CameraOutcome where
  | notConnected
  | notOpened
  | notPublished
  | started
deriving DecidableEq

namespace Live

/-- The screen is published before its capture starts. -/
def shareStart (outcome : ShareOutcome) (live : Live) : (Live × List Hook) × Bool :=
  if live.screen then
    ((live, []), false)
  else
    match outcome with
    | .badSource => ((live, []), false)
    | .notConnected => ((live, []), false)
    | .notPublished => (closeIfIdle live.connect, false)
    | .noAudio => (andThen (publish .screen live.connect) closeIfIdle, false)
    | .noCapture =>
        (andThen (andThen (publish .screen live.connect) (unpublish .screen)) closeIfIdle, false)
    | .started => (andThen (publish .screen live.connect) fun l => (l.setActive .screen true, []),
        true)

/-- The camera opens before it is published. -/
def cameraStart (outcome : CameraOutcome) (live : Live) : (Live × List Hook) × Bool :=
  if live.camera then
    ((live, []), false)
  else
    match outcome with
    | .notConnected => ((live, []), false)
    | .notOpened => (closeIfIdle live.connect, false)
    | .notPublished => (closeIfIdle live.connect, false)
    | .started => (andThen (publish .camera live.connect) fun l => (l.setActive .camera true, []),
        true)

end Live

/-- The start of either source. -/
inductive Outcome where
  | share (outcome : ShareOutcome)
  | camera (outcome : CameraOutcome)
deriving DecidableEq

def Outcome.source : Outcome → PublicationSource
  | share _ => .screen
  | camera _ => .camera

/-- No connection is made where one is there already. -/
def Outcome.possible (live : Live) : Outcome → Bool
  | share outcome => !(outcome = .notConnected && live.publisher.isSome)
  | camera outcome => !(outcome = .notConnected && live.publisher.isSome)

/-- The start publishes the screen over a picture that an earlier start left there. -/
def Outcome.strays (live : Live) : Outcome → Bool
  | share outcome =>
      !live.screen && live.published .screen &&
        match outcome with
        | .noAudio => live.camera
        | .noCapture => live.camera
        | .started => true
        | .badSource => false
        | .notConnected => false
        | .notPublished => false
  | camera _ => false

def startNative (outcome : Outcome) (live : Live) : (Live × List Hook) × Bool :=
  match outcome with
  | .share outcome => live.shareStart outcome
  | .camera outcome => live.cameraStart outcome

/-- The start fails and leaves no webhook behind: it never came to a connection, or
it ended over the connection of the other source before it published anything. -/
def Outcome.silent (live : Live) (outcome : Outcome) : Bool :=
  !live.active outcome.source &&
    match outcome with
    | share .badSource => true
    | share .notConnected => true
    | share .notPublished => live.screen || live.camera
    | share .noAudio => false
    | share .noCapture => false
    | share .started => false
    | camera .notConnected => true
    | camera .notOpened => live.screen || live.camera
    | camera .notPublished => live.screen || live.camera
    | camera .started => false

/-! ## What the steps leave published -/

/-- What is captured is published. -/
def Live.Shown (live : Live) : Prop :=
  ∀ source, live.active source = true → live.published source = true

/-- What is captured is published, and no picture has strayed. -/
structure Live.Ok (live : Live) : Prop where
  shown : live.Shown
  stray : live.stray = false

/-- A webhook of the list gives back the slot of the source. -/
def Released (hooks : List Hook) (source : PublicationSource) : Prop :=
  ∃ hook ∈ hooks, hook.releases source = true

instance (hooks : List Hook) (source : PublicationSource) : Decidable (Released hooks source) :=
  inferInstanceAs (Decidable (∃ hook ∈ hooks, hook.releases source = true))

theorem released_append {hooks hooks' : List Hook} {source : PublicationSource} :
    Released (hooks ++ hooks') source ↔ Released hooks source ∨ Released hooks' source := by
  simp only [Released, List.mem_append, or_and_right, exists_or]

/-- Nothing goes off the air without a webhook, and nothing but `source` comes on. -/
structure Reported (source : PublicationSource) (live live' : Live) (hooks : List Hook) : Prop where
  off : ∀ s, live.published s = true → live'.published s = true ∨ Released hooks s
  on : ∀ s, live'.published s = true → live.published s = true ∨ s = source

namespace Live

variable {live : Live} {source s : PublicationSource}

theorem published_connect : live.connect.published s = live.published s := by
  unfold connect
  cases hpublisher : live.publisher with
  | none =>
      unfold published
      rw [hpublisher]
      cases s with
      | screen => rfl
      | camera => rfl
  | some tracks => rfl

theorem connect_publisher : ∃ tracks, live.connect.publisher = some tracks := by
  unfold connect
  cases hpublisher : live.publisher with
  | none => exact ⟨Tracks.none, rfl⟩
  | some tracks => exact ⟨tracks, hpublisher⟩

theorem active_connect : live.connect.active s = live.active s := by
  unfold connect
  cases live.publisher with
  | none => cases s with
      | screen => rfl
      | camera => rfl
  | some tracks => rfl

theorem published_setActive (value : Bool) :
    (live.setActive source value).published s = live.published s := by
  cases source with
  | screen => rfl
  | camera => rfl

theorem active_setActive (value : Bool) :
    (live.setActive source value).active s = if s = source then value else live.active s := by
  cases source with
  | screen => cases s with
      | screen => rfl
      | camera => rfl
  | camera => cases s with
      | screen => rfl
      | camera => rfl

theorem published_publish_connect :
    (publish source live.connect).1.published s =
      if s = source then true else live.published s := by
  have hconnect : live.connect.published s = live.published s := published_connect
  rw [← hconnect]
  obtain ⟨tracks, htracks⟩ : ∃ tracks, live.connect.publisher = some tracks := connect_publisher
  by_cases hs : s = source
  · simp [publish, published, htracks, Tracks.get_set, hs]
  · cases s with
    | screen => simp [publish, published, strayed, htracks, Tracks.get_set, hs, Ne.symm hs]
    | camera => simp [publish, published, strayed, htracks, Tracks.get_set, hs]

/-- Unpublishing takes down the track whose sid is kept, and no stray one. -/
theorem published_unpublish :
    (unpublish source live).1.published s =
      if s = source then live.publisher.isSome && live.strayed s else live.published s := by
  unfold unpublish
  cases hpublisher : live.publisher with
  | none => simp [published, hpublisher]
  | some tracks =>
      cases hget : tracks.get source with
      | true =>
          simp only [hget, if_true]
          show ((tracks.set source false).get s || live.strayed s) = _
          rw [Tracks.get_set]
          by_cases hs : s = source
          · simp [hs]
          · simp [published, hpublisher, hs]
      | false =>
          by_cases hs : s = source
          · subst hs
            simp [published, hpublisher, hget]
          · simp [published, hpublisher, hget, hs]

theorem active_unpublish : (unpublish source live).1.active s = live.active s := by
  unfold unpublish
  cases live.publisher with
  | none => rfl
  | some tracks =>
      dsimp only
      split
      · rfl
      · rfl

theorem active_closeIfIdle : live.closeIfIdle.1.active s = live.active s := by
  unfold closeIfIdle
  split
  · rfl
  · cases live.publisher with
    | none => rfl
    | some tracks => rfl

/-- Closing an idle connection takes everything off the air. -/
theorem published_closeIfIdle :
    live.closeIfIdle.1.published s = (live.published s && (live.screen || live.camera)) := by
  unfold closeIfIdle
  cases hbusy : live.screen || live.camera with
  | true => simp
  | false =>
      cases hpublisher : live.publisher with
      | none => simp [published, hpublisher]
      | some tracks => simp [published]

theorem busy_connect :
    (live.connect.screen || live.connect.camera) = (live.screen || live.camera) := by
  unfold connect
  cases live.publisher with
  | none => rfl
  | some tracks => rfl

theorem busy_of_active (h : live.active source = true) : (live.screen || live.camera) = true := by
  cases source with
  | screen => exact Bool.or_eq_true_iff.mpr (.inl h)
  | camera => exact Bool.or_eq_true_iff.mpr (.inr h)

end Live

/-! ## Nothing goes off the air in silence -/

section Commands

open Live

variable {live live' live'' : Live} {source s : PublicationSource}

theorem Reported.refl (source : PublicationSource) (live : Live) : Reported source live live [] :=
  ⟨fun _ h => .inl h, fun _ h => .inl h⟩

theorem Reported.andThen {first : Live × List Hook} {next : Live → Live × List Hook}
    (h : Reported source live first.1 first.2)
    (h' : Reported source first.1 (next first.1).1 (next first.1).2) :
    Reported source live (Live.andThen first next).1 (Live.andThen first next).2 where
  off s hs := by
    rcases h.off s hs with hmid | hreleased
    · rcases h'.off s hmid with hlast | hreleased
      · exact .inl hlast
      · exact .inr (released_append.mpr (.inr hreleased))
    · exact .inr (released_append.mpr (.inl hreleased))
  on s hs := by
    rcases h'.on s hs with hmid | hsource
    · exact h.on s hmid
    · exact .inr hsource

/-- A step before that publishes and unpublishes nothing does not matter. -/
theorem Reported.of_published_eq {hooks : List Hook} (h : Reported source live live'' hooks)
    (heq : ∀ s, live.published s = live'.published s) : Reported source live' live'' hooks :=
  ⟨fun s hs => h.off s ((heq s).trans hs), fun s hs => (h.on s hs).imp_left (heq s).symm.trans⟩

theorem reported_setActive (live : Live) (value : Bool) :
    Reported source live (live.setActive source value) [] :=
  ⟨fun _ hs => .inl ((published_setActive value).trans hs),
    fun _ hs => .inl ((published_setActive value).symm.trans hs)⟩

theorem reported_publish_connect :
    Reported source live (publish source live.connect).1 (publish source live.connect).2 where
  off s hs := by
    left
    rw [published_publish_connect, hs]
    simp
  on s hs := by
    rw [published_publish_connect] at hs
    split at hs
    · next heq => exact .inr heq
    · exact .inl hs

theorem reported_unpublish (source' : PublicationSource) :
    Reported source live (unpublish source' live).1 (unpublish source' live).2 where
  off s hs := by
    -- the source itself goes with its webhook, and the other one stays
    by_cases heq : s = source'
    · subst heq
      unfold unpublish
      cases hpublisher : live.publisher with
      | none => exact .inl hs
      | some tracks =>
          cases hget : tracks.get s with
          | true => exact .inr (by simp [hget, Released, Hook.releases])
          | false => exact .inl (by simpa [hget] using hs)
    · left
      rw [published_unpublish, if_neg heq, hs]
  on s hs := by
    rw [published_unpublish] at hs
    split at hs
    · next heq =>
        -- a stray picture was on the air before
        obtain ⟨hpublisher, hstray⟩ := Bool.and_eq_true_iff.mp hs
        obtain ⟨tracks, htracks⟩ := Option.isSome_iff_exists.mp hpublisher
        left
        rw [published, htracks]
        exact Bool.or_eq_true_iff.mpr (.inr hstray)
    · exact .inl hs

theorem reported_closeIfIdle :
    Reported source live live.closeIfIdle.1 live.closeIfIdle.2 where
  off s hs := by
    rw [published_closeIfIdle, hs, Bool.true_and]
    cases hbusy : live.screen || live.camera with
    | true => exact .inl rfl
    | false =>
        -- a connection that has something published is there to be closed
        right
        unfold closeIfIdle
        cases hpublisher : live.publisher with
        | none => simp [published, hpublisher] at hs
        | some tracks => simp [hbusy, Released, Hook.releases]
  on s hs := by
    rw [published_closeIfIdle] at hs
    exact .inl (Bool.and_eq_true_iff.mp hs).1

/-- Connecting, and closing again when nothing came of it. -/
theorem reported_connect_close :
    Reported source live live.connect.closeIfIdle.1 live.connect.closeIfIdle.2 :=
  reported_closeIfIdle.of_published_eq fun _ => published_connect

/-- What an idle connection becomes: gone, with the webhook that gives every slot
back. -/
theorem released_closeIfIdle (hidle : (live.screen || live.camera) = false)
    (hpublisher : live.publisher.isSome = true) : Released live.closeIfIdle.2 s := by
  obtain ⟨tracks, htracks⟩ := Option.isSome_iff_exists.mp hpublisher
  simp [closeIfIdle, hidle, htracks, Released, Hook.releases]

theorem reported_shareStart (outcome : ShareOutcome) :
    Reported .screen live (live.shareStart outcome).1.1 (live.shareStart outcome).1.2 := by
  unfold shareStart
  split
  · exact Reported.refl .screen live
  · cases outcome with
    | badSource => exact Reported.refl .screen live
    | notConnected => exact Reported.refl .screen live
    | notPublished => exact reported_connect_close
    | noAudio => exact reported_publish_connect.andThen reported_closeIfIdle
    | noCapture =>
        exact (reported_publish_connect.andThen (reported_unpublish .screen)).andThen
          reported_closeIfIdle
    | started =>
        exact reported_publish_connect.andThen (reported_setActive _ true)

theorem reported_cameraStart (outcome : CameraOutcome) :
    Reported .camera live (live.cameraStart outcome).1.1 (live.cameraStart outcome).1.2 := by
  unfold cameraStart
  split
  · exact Reported.refl .camera live
  · cases outcome with
    | notConnected => exact Reported.refl .camera live
    | notOpened => exact reported_connect_close
    | notPublished => exact reported_connect_close
    | started =>
        exact reported_publish_connect.andThen (reported_setActive _ true)

theorem reported_release :
    Reported source live (release source live).1 (release source live).2 := by
  have hunpublished : Reported source live (unpublish source (live.setActive source false)).1
      (unpublish source (live.setActive source false)).2 :=
    (reported_unpublish source).of_published_eq fun _ => published_setActive false
  exact hunpublished.andThen reported_closeIfIdle

theorem stray_setActive (value : Bool) : (live.setActive source value).stray = live.stray := by
  cases source with
  | screen => rfl
  | camera => rfl

theorem strayed_eq_false (h : live.stray = false) : live.strayed s = false := by
  cases s with
  | screen => exact h
  | camera => rfl

/-- A stopped source is off the air, unless a picture of it has strayed. -/
theorem published_release (h : live.stray = false) :
    (release source live).1.published source = false := by
  show (closeIfIdle (unpublish source (live.setActive source false)).1).1.published source = false
  have hstray : (live.setActive source false).strayed source = false :=
    strayed_eq_false ((stray_setActive false).trans h)
  rw [published_closeIfIdle, published_unpublish, if_pos rfl, hstray, Bool.and_false,
    Bool.false_and]

theorem reported_startNative (outcome : Outcome) :
    Reported outcome.source live (startNative outcome live).1.1 (startNative outcome live).1.2 := by
  cases outcome with
  | share outcome => exact reported_shareStart outcome
  | camera outcome => exact reported_cameraStart outcome

/-! ## What is captured stays published -/

theorem shown_connect (h : live.Shown) : live.connect.Shown := by
  intro s hs
  rw [active_connect] at hs
  rw [published_connect]
  exact h s hs

theorem active_publish_connect : (publish source live.connect).1.active s = live.active s := by
  have hconnect : live.connect.active s = live.active s := active_connect
  rw [← hconnect]
  cases s with
  | screen => rfl
  | camera => rfl

theorem shown_publish_connect (h : live.Shown) : (publish source live.connect).1.Shown := by
  intro s hs
  rw [active_publish_connect] at hs
  rw [published_publish_connect, h s hs, ite_self]

theorem shown_closeIfIdle (h : live.Shown) : live.closeIfIdle.1.Shown := by
  intro s hs
  rw [active_closeIfIdle] at hs
  rw [published_closeIfIdle, h s hs, busy_of_active hs, Bool.true_and]

/-- A source may be unpublished once its capture has stopped. -/
theorem shown_unpublish (h : ∀ s, s ≠ source → live.active s = true → live.published s = true)
    (hstopped : live.active source = false) : (unpublish source live).1.Shown := by
  intro s hs
  rw [active_unpublish] at hs
  have hne : s ≠ source := by
    rintro rfl
    rw [hstopped] at hs
    cases hs
  rw [published_unpublish, if_neg hne]
  exact h s hne hs

theorem shown_setActive_publish (h : live.Shown) :
    ((publish source live.connect).1.setActive source true).Shown := by
  intro s hs
  rw [published_setActive, published_publish_connect]
  rw [active_setActive, active_publish_connect] at hs
  by_cases heq : s = source
  · rw [if_pos heq]
  · rw [if_neg heq] at hs ⊢
    exact h s hs

theorem shown_startNative (outcome : Outcome) (h : live.Shown) :
    (startNative outcome live).1.1.Shown := by
  have hclose : live.connect.closeIfIdle.1.Shown := shown_closeIfIdle (shown_connect h)
  cases outcome with
  | share outcome =>
      unfold startNative shareStart
      dsimp only
      split
      · exact h
      · next hidle =>
          cases outcome with
          | badSource => exact h
          | notConnected => exact h
          | notPublished => exact hclose
          | noAudio => exact shown_closeIfIdle (shown_publish_connect h)
          | noCapture =>
              -- the capture never started, so the screen may go again
              refine shown_closeIfIdle
                (shown_unpublish (fun s _ hs => shown_publish_connect h s hs) ?_)
              rw [active_publish_connect]
              exact Bool.eq_false_of_not_eq_true hidle
          | started => exact shown_setActive_publish h
  | camera outcome =>
      unfold startNative cameraStart
      dsimp only
      split
      · exact h
      · cases outcome with
        | notConnected => exact h
        | notOpened => exact hclose
        | notPublished => exact hclose
        | started => exact shown_setActive_publish h

theorem shown_release (h : live.Shown) : (release source live).1.Shown := by
  refine shown_closeIfIdle (shown_unpublish (fun s hne hs => ?_) ?_)
  · rw [active_setActive, if_neg hne] at hs
    rw [published_setActive]
    exact h s hs
  · rw [active_setActive, if_pos rfl]

/-! ## Stray pictures -/

theorem stray_connect (h : live.stray = false) : live.connect.stray = false := by
  unfold connect
  cases live.publisher with
  | none => rfl
  | some tracks => exact h

theorem stray_publish_connect (h : live.stray = false) :
    (publish source live.connect).1.stray = (source = .screen && live.published .screen) := by
  have hconnect : live.connect.published .screen = live.published .screen := published_connect
  rw [← hconnect]
  show (live.connect.stray || _) = _
  rw [stray_connect h, Bool.false_or]

theorem stray_unpublish : (unpublish source live).1.stray = live.stray := by
  unfold unpublish
  cases live.publisher with
  | none => rfl
  | some tracks =>
      dsimp only
      split
      · rfl
      · rfl

theorem publisher_unpublish :
    (unpublish source live).1.publisher.isSome = live.publisher.isSome := by
  unfold unpublish
  cases hpublisher : live.publisher with
  | none => simp [hpublisher]
  | some tracks =>
      dsimp only
      split
      · rfl
      · rw [hpublisher]

/-- Closing the connection takes a stray picture down. -/
theorem stray_closeIfIdle (h : live.stray = true → live.publisher.isSome = true) :
    live.closeIfIdle.1.stray = (live.stray && (live.screen || live.camera)) := by
  unfold closeIfIdle
  cases hbusy : live.screen || live.camera with
  | true => simp
  | false =>
      cases hpublisher : live.publisher with
      | none =>
          have hstray : live.stray = false := by
            by_contra hstray
            have hsome := h (Bool.eq_true_of_not_eq_false hstray)
            rw [hpublisher] at hsome
            cases hsome
          simp [hstray]
      | some tracks => simp

theorem stray_release (h : live.stray = false) : (release source live).1.stray = false := by
  have hstray : (unpublish source (live.setActive source false)).1.stray = false := by
    rw [stray_unpublish, stray_setActive, h]
  show (closeIfIdle (unpublish source (live.setActive source false)).1).1.stray = false
  rw [stray_closeIfIdle (fun hsome => by rw [hstray] at hsome; cases hsome), hstray, Bool.false_and]

/-- A picture strays exactly if a start publishes over it and the connection stays. -/
theorem stray_startNative (outcome : Outcome) (h : live.stray = false) :
    (startNative outcome live).1.1.stray = outcome.strays live := by
  have hclose : live.connect.closeIfIdle.1.stray = false := by
    have hstray : live.connect.stray = false := stray_connect h
    rw [stray_closeIfIdle (fun hsome => by rw [hstray] at hsome; cases hsome), hstray,
      Bool.false_and]
  cases outcome with
  | share outcome =>
      unfold startNative shareStart Outcome.strays
      dsimp only
      cases hscreen : live.screen with
      | true =>
          rw [if_pos rfl]
          exact h
      | false =>
          rw [if_neg Bool.false_ne_true, Bool.not_false, Bool.true_and]
          have hpublished : (publish .screen live.connect).1.stray = live.published .screen := by
            rw [stray_publish_connect h]
            rfl
          have hsome : (publish .screen live.connect).1.publisher.isSome = true := by
            obtain ⟨tracks, htracks⟩ : ∃ tracks, live.connect.publisher = some tracks :=
              connect_publisher
            simp [publish, htracks]
          -- only the camera can keep the connection: there is no screen yet
          have hbusy : ((publish .screen live.connect).1.screen ||
              (publish .screen live.connect).1.camera) = live.camera := by
            show (live.connect.screen || live.connect.camera) = live.camera
            rw [busy_connect, hscreen, Bool.false_or]
          cases outcome with
          | badSource => exact h.trans (Bool.and_false _).symm
          | notConnected => exact h.trans (Bool.and_false _).symm
          | notPublished => exact hclose.trans (Bool.and_false _).symm
          | noAudio =>
              show (publish .screen live.connect).1.closeIfIdle.1.stray = _
              rw [stray_closeIfIdle fun _ => hsome, hpublished, hbusy]
          -- the track is taken back, but not what it published over
          | noCapture =>
              have hsame : ∀ s, (unpublish .screen (publish .screen live.connect).1).1.active s =
                  (publish .screen live.connect).1.active s := fun _ => active_unpublish
              have hstill : ((unpublish .screen (publish .screen live.connect).1).1.screen ||
                  (unpublish .screen (publish .screen live.connect).1).1.camera) = live.camera := by
                rw [← hbusy]
                exact congrArg₂ or (hsame .screen) (hsame .camera)
              have hthere :
                  (unpublish .screen (publish .screen live.connect).1).1.publisher.isSome =
                    true := by
                rw [publisher_unpublish, hsome]
              show (unpublish .screen (publish .screen live.connect).1).1.closeIfIdle.1.stray = _
              rw [stray_closeIfIdle fun _ => hthere, stray_unpublish, hpublished, hstill]
          | started => exact hpublished.trans (Bool.and_true _).symm
  | camera outcome =>
      have hpublished : (publish .camera live.connect).1.stray = false :=
        (stray_publish_connect h).trans (Bool.false_and _)
      unfold startNative cameraStart Outcome.strays
      dsimp only
      split
      · exact h
      · cases outcome with
        | notConnected => exact h
        | notOpened => exact hclose
        | notPublished => exact hclose
        | started => exact hpublished

theorem ok_startNative (outcome : Outcome) (h : live.Ok) (hstrays : outcome.strays live = false) :
    (startNative outcome live).1.1.Ok :=
  ⟨shown_startNative outcome h.shown, (stray_startNative outcome h.stray).trans hstrays⟩

theorem ok_release (h : live.Ok) : (release source live).1.Ok :=
  ⟨shown_release h.shown, stray_release h.stray⟩

/-! ## How a start ends -/

/-- A start that succeeds leaves its source on the air. -/
theorem published_of_started (outcome : Outcome) (h : (startNative outcome live).2 = true) :
    (startNative outcome live).1.1.published outcome.source = true := by
  have hpublished : ∀ source, ((publish source live.connect).1.setActive source true).published
      source = true := by
    intro source
    rw [published_setActive, published_publish_connect, if_pos rfl]
  cases outcome with
  | share outcome =>
      unfold startNative shareStart at h ⊢
      dsimp only at h ⊢
      split
      · next hbusy => simp [hbusy] at h
      · next hidle =>
          rw [if_neg hidle] at h
          cases outcome with
          | started => exact hpublished .screen
          | badSource => cases h
          | notConnected => cases h
          | notPublished => cases h
          | noAudio => cases h
          | noCapture => cases h
  | camera outcome =>
      unfold startNative cameraStart at h ⊢
      dsimp only at h ⊢
      split
      · next hbusy => simp [hbusy] at h
      · next hidle =>
          rw [if_neg hidle] at h
          cases outcome with
          | started => exact hpublished .camera
          | notConnected => cases h
          | notOpened => cases h
          | notPublished => cases h

/-- Closing after a connection that came to nothing gives the slot back, unless the
other source keeps the connection. -/
theorem released_close_connect (h : (live.screen || live.camera) = false) :
    Released live.connect.closeIfIdle.2 s := by
  obtain ⟨tracks, htracks⟩ : ∃ tracks, live.connect.publisher = some tracks := connect_publisher
  exact released_closeIfIdle (busy_connect.trans h) (by rw [htracks]; rfl)

/-- A start that fails, and not in silence, leaves its source on the air or a
webhook that gives its slot back. -/
theorem accounted_of_failed (outcome : Outcome) (hok : live.Ok)
    (hfailed : (startNative outcome live).2 = false) (hloud : outcome.silent live = false) :
    (startNative outcome live).1.1.published outcome.source = true ∨
      Released (startNative outcome live).1.2 outcome.source := by
  cases hactive : live.active outcome.source with
  | true =>
      left
      have hpublished := hok.shown outcome.source hactive
      cases outcome with
      | share outcome => simpa [startNative, shareStart, show live.screen = true from hactive]
      | camera outcome => simpa [startNative, cameraStart, show live.camera = true from hactive]
  | false =>
      unfold Outcome.silent at hloud
      rw [hactive, Bool.not_false, Bool.true_and] at hloud
      cases outcome with
      | share outcome =>
          have hidle : ¬ live.screen = true := by
            rw [show live.screen = false from hactive]
            exact Bool.noConfusion
          unfold startNative shareStart at hfailed ⊢
          dsimp only at hfailed ⊢
          rw [if_neg hidle] at hfailed ⊢
          cases outcome with
          | badSource => cases hloud
          | notConnected => cases hloud
          | notPublished => exact .inr (released_close_connect hloud)
          | noAudio =>
              -- the video stays published as long as the camera keeps the connection
              have hvideo : (publish .screen live.connect).1.published .screen = true := by
                rw [published_publish_connect, if_pos rfl]
              have hclosed : Reported .screen (publish .screen live.connect).1
                  (closeIfIdle (publish .screen live.connect).1).1
                  (closeIfIdle (publish .screen live.connect).1).2 := reported_closeIfIdle
              rcases hclosed.off .screen hvideo with hon | hoff
              · exact .inl hon
              · exact .inr (released_append.mpr (.inr hoff))
          | noCapture =>
              -- the picture that has just been published goes with its webhook
              right
              refine released_append.mpr (.inl (released_append.mpr (.inr ?_)))
              obtain ⟨tracks, htracks⟩ : ∃ tracks, live.connect.publisher = some tracks :=
                connect_publisher
              simp [publish, unpublish, htracks, Tracks.get_set, Released, Hook.releases,
                Outcome.source]
          | started => cases hfailed
      | camera outcome =>
          have hidle : ¬ live.camera = true := by
            rw [show live.camera = false from hactive]
            exact Bool.noConfusion
          unfold startNative cameraStart at hfailed ⊢
          dsimp only at hfailed ⊢
          rw [if_neg hidle] at hfailed ⊢
          cases outcome with
          | notConnected => cases hloud
          | notOpened => exact .inr (released_close_connect hloud)
          | notPublished => exact .inr (released_close_connect hloud)
          | started => cases hfailed

/-- A start that fails in silence changes nothing that is published and sends no
webhook. -/
theorem startNative_silent (outcome : Outcome) (h : outcome.silent live = true) :
    (startNative outcome live).2 = false ∧ (startNative outcome live).1.2 = [] ∧
      (startNative outcome live).1.1.published = live.published := by
  obtain ⟨hidle, hhow⟩ := Bool.and_eq_true_iff.mp h
  -- the other source keeps the connection open
  have hclose : ∀ hbusy : (live.screen || live.camera) = true,
      live.connect.closeIfIdle = (live.connect, []) := by
    intro hbusy
    exact if_pos (busy_connect.trans hbusy)
  have hconnect : live.connect.published = live.published := funext fun _ => published_connect
  cases outcome with
  | share outcome =>
      have hscreen : live.screen = false := by
        simpa [Live.active, Outcome.source] using hidle
      cases outcome with
      | badSource => simp [startNative, shareStart, hscreen]
      | notConnected => simp [startNative, shareStart, hscreen]
      | notPublished => simp [startNative, shareStart, hscreen, hclose hhow, hconnect]
      | noAudio => cases hhow
      | noCapture => cases hhow
      | started => cases hhow
  | camera outcome =>
      have hcamera : live.camera = false := by
        simpa [Live.active, Outcome.source] using hidle
      cases outcome with
      | notConnected => simp [startNative, cameraStart, hcamera]
      | notOpened => simp [startNative, cameraStart, hcamera, hclose hhow, hconnect]
      | notPublished => simp [startNative, cameraStart, hcamera, hclose hhow, hconnect]
      | started => cases hhow

end Commands

end Desktop
end Ldktela
