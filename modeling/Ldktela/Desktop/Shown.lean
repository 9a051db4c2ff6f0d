import Ldktela.Desktop.Share
import Ldktela.Desktop.Sharing

/-!
# The core that the session sees

The same core is described twice: with the sids and the audio of every track, and by
which sources are on the air.  `shown` forgets the first of the second, and every
command of the one is the step of the other, whatever fails on the way
(`shown_shareStart`, `shown_cameraStart`, `shown_release`).
-/

namespace Ldktela
namespace Desktop
namespace Core

open Protocol
open Api.Rooms (Tracks)

namespace Publisher

/-- A picture of the screen is on the air whose sid is not kept. -/
def stray (publisher : Publisher) : Bool :=
  publisher.room.tracks.any fun publication =>
    publication.track = .screen && publisher.screen.video ≠ some publication.sid

/-- Which pictures it knows of. -/
def shown (publisher : Publisher) : Tracks :=
  ⟨publisher.screen.video.isSome, publisher.camera.video.isSome⟩

/-- The sids that are kept are those of tracks on the air. -/
def Tracked (publisher : Publisher) : Prop :=
  ∀ source, ∀ publication ∈ publisher.held source, publication ∈ publisher.room.onAir source

variable {publisher : Publisher} {source s : PublicationSource}

theorem tracked_new (connection : Nat) : (new connection).Tracked := by
  intro source publication hmem
  cases source with
  | screen => cases hmem
  | camera => cases hmem

theorem mem_held {publication : TrackPublication} :
    publication ∈ publisher.held s ↔
      (publication.track = videoTrack s ∧
        (publisher.published s).video = some publication.sid) ∨
      (publication.track = .screenAudio ∧
        (publisher.published s).audio = some publication.sid) := by
  obtain ⟨sid, track⟩ := publication
  simp [held, and_comm, eq_comm]

theorem Tracked.publishVideo (h : publisher.Tracked) (source : PublicationSource) :
    (publisher.publishVideo source).Tracked := by
  intro s publication hmem
  rw [onAir_publishVideo]
  rw [mem_held, published_publishVideo] at hmem
  by_cases hs : s = source
  · subst hs
    rw [if_pos rfl] at hmem ⊢
    rcases hmem with ⟨htrack, hsid⟩ | haudio
    · refine List.mem_append_right _ (List.mem_singleton.mpr ?_)
      obtain ⟨sid, track⟩ := publication
      obtain rfl : track = videoTrack s := htrack
      obtain rfl : publisher.room.nextSid = sid := Option.some.inj hsid
      rfl
    · exact List.mem_append_left _ (h s publication (mem_held.mpr (.inr haudio)))
  · rw [if_neg hs] at hmem
    exact List.mem_append_left _ (h s publication (mem_held.mpr hmem))

theorem Tracked.publishAudio (h : publisher.Tracked) : publisher.publishAudio.Tracked := by
  intro s publication hmem
  rw [onAir_publishAudio]
  rw [mem_held] at hmem
  cases s with
  | camera => exact List.mem_append_left _ (h .camera publication (mem_held.mpr hmem))
  | screen =>
      rcases hmem with hvideo | ⟨htrack, hsid⟩
      · exact List.mem_append_left _ (h .screen publication (mem_held.mpr (.inl hvideo)))
      · refine List.mem_append_right _ (List.mem_singleton.mpr ?_)
        obtain ⟨sid, track⟩ := publication
        obtain rfl : track = .screenAudio := htrack
        obtain rfl : publisher.room.nextSid = sid := Option.some.inj hsid
        rfl

/-- The sids that `unpublish` takes down. -/
theorem mem_onAir_unpublish {publication : TrackPublication} :
    publication ∈ (publisher.unpublish source).room.onAir s ↔
      publication ∈ publisher.room.onAir s ∧
        ∀ held ∈ publisher.held source, held.sid ≠ publication.sid := by
  rw [unpublish, room_setPublished, Room.onAir_unpublishTracks, List.mem_filter]
  refine and_congr_right fun _ => ?_
  rw [decide_eq_true_iff]
  constructor
  · intro hfree held hheld heq
    rcases mem_held.mp hheld with ⟨-, hvideo⟩ | ⟨-, haudio⟩
    · exact hfree (List.mem_append_left _ (by rw [hvideo, heq]; simp))
    · exact hfree (List.mem_append_right _ (by rw [haudio, heq]; simp))
  · intro hfree hmem
    rcases List.mem_append.mp hmem with hvideo | haudio
    · exact hfree ⟨publication.sid, videoTrack source⟩
        (mem_held.mpr (.inl ⟨rfl, Option.mem_toList.mp hvideo⟩)) rfl
    · exact hfree ⟨publication.sid, .screenAudio⟩
        (mem_held.mpr (.inr ⟨rfl, Option.mem_toList.mp haudio⟩)) rfl

/-- A track whose sid is kept is on the air as itself. -/
theorem Tracked.eq_of_sid (h : publisher.Tracked) {held publication : TrackPublication}
    (hheld : held ∈ publisher.held source) (hmem : publication ∈ publisher.room.tracks)
    (hsid : held.sid = publication.sid) : held = publication :=
  Room.eq_of_sid (Room.mem_onAir.mp (h source held hheld)).1 hmem hsid

theorem Tracked.unpublish (h : publisher.Tracked) : (publisher.unpublish source).Tracked := by
  intro s publication hmem
  rw [mem_held, published_unpublish] at hmem
  by_cases hs : s = source
  · rw [if_pos hs] at hmem
    rcases hmem with ⟨-, hsid⟩ | ⟨-, hsid⟩
    · cases hsid
    · cases hsid
  · rw [if_neg hs] at hmem
    have hair := h s publication (mem_held.mpr hmem)
    refine mem_onAir_unpublish.mpr ⟨hair, fun held hheld hsid => hs ?_⟩
    have heq := h.eq_of_sid hheld (Room.mem_onAir.mp hair).1 hsid
    subst heq
    exact (Room.mem_onAir.mp hair).2.symm.trans (Room.mem_onAir.mp (h source held hheld)).2

/-! ## Stray pictures -/

theorem stray_iff :
    publisher.stray = true ↔ ∃ publication ∈ publisher.room.onAir .screen,
      publication.track = .screen ∧ publisher.screen.video ≠ some publication.sid := by
  simp only [stray, List.any_eq_true, Bool.and_eq_true, decide_eq_true_eq]
  constructor
  · rintro ⟨publication, hmem, htrack, hsid⟩
    exact ⟨publication, Room.mem_onAir.mpr ⟨hmem, by rw [htrack]; rfl⟩, htrack, hsid⟩
  · rintro ⟨publication, hmem, htrack, hsid⟩
    exact ⟨publication, (Room.mem_onAir.mp hmem).1, htrack, hsid⟩

/-- A new picture leaves the one before it stray. -/
theorem Tracked.stray_publishVideo (h : publisher.Tracked) (source : PublicationSource) :
    (publisher.publishVideo source).stray =
      (publisher.stray || (source = .screen && publisher.screen.video.isSome)) := by
  rw [Bool.eq_iff_iff, Bool.or_eq_true, stray_iff, stray_iff, onAir_publishVideo]
  cases source with
  | camera =>
      rw [if_neg (by decide), List.append_nil]
      exact (or_iff_left (by simp)).symm
  | screen =>
      rw [if_pos rfl]
      show (∃ publication ∈ publisher.room.onAir .screen ++ [⟨publisher.room.nextSid, .screen⟩],
        publication.track = .screen ∧ some publisher.room.nextSid ≠ some publication.sid) ↔ _
      constructor
      · rintro ⟨publication, hmem, htrack, hsid⟩
        rcases List.mem_append.mp hmem with hold | hnew
        · cases hvideo : publisher.screen.video with
          | none => exact .inl ⟨publication, hold, htrack, (Option.some_ne_none _).symm⟩
          | some sid => exact .inr rfl
        · rw [List.mem_singleton.mp hnew] at hsid
          exact absurd rfl hsid
      · -- an old picture has not the sid of the new one
        have hold : ∀ publication ∈ publisher.room.onAir .screen,
            some publisher.room.nextSid ≠ some publication.sid := by
          intro publication hmem heq
          have hlt := publisher.room.issued publication (Room.mem_onAir.mp hmem).1
          have hsid := Option.some.inj heq
          omega
        rintro (⟨publication, hmem, htrack, -⟩ | hsome)
        · exact ⟨publication, List.mem_append_left _ hmem, htrack, hold publication hmem⟩
        · obtain ⟨sid, hsid⟩ := Option.isSome_iff_exists.mp (Bool.and_eq_true_iff.mp hsome).2
          have hmem : ⟨sid, .screen⟩ ∈ publisher.room.onAir .screen :=
            h .screen _ (mem_held.mpr (.inl ⟨rfl, hsid⟩))
          exact ⟨_, List.mem_append_left _ hmem, rfl, hold _ hmem⟩

theorem stray_publishAudio : publisher.publishAudio.stray = publisher.stray := by
  rw [Bool.eq_iff_iff, stray_iff, stray_iff, onAir_publishAudio, if_pos rfl]
  constructor
  · rintro ⟨publication, hmem, htrack, hsid⟩
    rcases List.mem_append.mp hmem with hold | hnew
    · exact ⟨publication, hold, htrack, hsid⟩
    · rw [List.mem_singleton.mp hnew] at htrack
      cases htrack
  · rintro ⟨publication, hmem, htrack, hsid⟩
    exact ⟨publication, List.mem_append_left _ hmem, htrack, hsid⟩

/-- Unpublishing takes no stray picture down, and leaves none behind. -/
theorem Tracked.stray_unpublish (h : publisher.Tracked) (source : PublicationSource) :
    (publisher.unpublish source).stray = publisher.stray := by
  rw [Bool.eq_iff_iff, stray_iff, stray_iff]
  constructor
  · rintro ⟨publication, hmem, htrack, hsid⟩
    obtain ⟨hair, hfree⟩ := mem_onAir_unpublish.mp hmem
    refine ⟨publication, hair, htrack, fun hvideo => ?_⟩
    cases source with
    | screen => exact hfree _ (mem_held.mpr (.inl ⟨htrack, hvideo⟩)) rfl
    | camera => exact hsid hvideo
  · rintro ⟨publication, hair, htrack, hsid⟩
    refine ⟨publication, mem_onAir_unpublish.mpr ⟨hair, fun held hheld heq => ?_⟩, htrack, ?_⟩
    · -- a kept sid names its own track, and that is not a stray picture
      have hsame := h.eq_of_sid hheld (Room.mem_onAir.mp hair).1 heq
      subst hsame
      cases source with
      | camera =>
          have hsource := (Room.mem_onAir.mp (h .camera held hheld)).2
          rw [htrack] at hsource
          cases hsource
      | screen =>
          rcases mem_held.mp hheld with ⟨-, hvideo⟩ | ⟨haudio, -⟩
          · exact hsid hvideo
          · rw [htrack] at haudio
            cases haudio
    · cases source with
      | screen => exact (Option.some_ne_none _).symm
      | camera => exact hsid

end Publisher

/-! ## The commands -/

namespace Live

/-- What the session sees of the core. -/
def shown (live : Live) : Desktop.Live where
  publisher := live.publisher.map Publisher.shown
  screen := live.screen.isSome
  camera := live.camera.isSome
  stray := match live.publisher with
    | none => false
    | some publisher => publisher.stray

/-- The sids that are kept are those of tracks on the air. -/
def Tracked (live : Live) : Prop :=
  ∀ publisher, live.publisher = some publisher → publisher.Tracked

/-- How a start of the screen goes. -/
def shareOutcome (live : Live) (request : StartRequest) (outcome : ScreenOutcome) : ShareOutcome :=
  if request.sourceId.isNone then .badSource
  else if live.publisher.isNone ∧ outcome.connect.isSome then .notConnected
  else if outcome.video.isSome then .notPublished
  else if request.audio ∧ outcome.audio.isSome then .noAudio
  else if outcome.capture.isSome then .noCapture
  else .started

/-- How a start of the camera goes. -/
def cameraOutcome (live : Live) (outcome : CameraOutcome) : Desktop.CameraOutcome :=
  if live.publisher.isNone ∧ outcome.connect.isSome then .notConnected
  else if outcome.opened.isSome then .notOpened
  else if outcome.video.isSome then .notPublished
  else .started

variable {live : Live} {publisher : Publisher} {start : Nat}

theorem shown_closeIfIdle : live.closeIfIdle.shown = live.shown.closeIfIdle.1 := by
  unfold closeIfIdle Desktop.Live.closeIfIdle
  show _ = (if live.screen.isSome || live.camera.isSome then _ else _ : Desktop.Live × _).1
  cases hbusy : live.screen.isSome || live.camera.isSome with
  | true => rfl
  | false =>
      simp only [Bool.false_eq_true, if_false]
      cases hpublisher : live.publisher with
      | none => simp [shown, hpublisher]
      | some publisher => simp [shown, hpublisher]

theorem tracked_closeIfIdle (h : live.Tracked) : live.closeIfIdle.Tracked := by
  unfold closeIfIdle
  split
  · exact h
  · intro publisher hpublisher
    cases hpublisher

/-- A state is tracked when the connection it holds is. -/
theorem tracked_publisher (live : Live) (h : publisher.Tracked) :
    Tracked { live with publisher := some publisher } := by
  intro other hother
  cases hother
  exact h

theorem tracked_connect (h : live.Tracked) {refused : Option String}
    (hconnect : live.connect start refused = .ok publisher) : publisher.Tracked := by
  rcases connect_cases hconnect with hpublisher | ⟨-, -, rfl⟩
  · exact h _ hpublisher
  · exact Publisher.tracked_new start

theorem shown_connect {refused : Option String}
    (hconnect : live.connect start refused = .ok publisher) :
    { live with publisher := some publisher }.shown = live.shown.connect := by
  rcases connect_cases hconnect with hpublisher | ⟨hpublisher, -, rfl⟩
  · simp [shown, Desktop.Live.connect, hpublisher]
  · simp only [shown, Desktop.Live.connect, hpublisher, Option.map_none]
    rfl

theorem shown_publishVideo (live : Live) (h : publisher.Tracked) (source : PublicationSource) :
    { live with publisher := some (publisher.publishVideo source) }.shown =
      (Desktop.Live.publish source { live with publisher := some publisher }.shown).1 := by
  have hstray := h.stray_publishVideo source
  cases source with
  | camera =>
      simp only [shown, Desktop.Live.publish, Option.map_some, hstray]
      rfl
  | screen =>
      simp only [shown, Desktop.Live.publish, Option.map_some, hstray]
      congr 1
      show (publisher.stray || (_ && publisher.screen.video.isSome)) =
        (publisher.stray || (_ && (publisher.screen.video.isSome || publisher.stray)))
      cases publisher.stray with
      | true => rfl
      | false => rw [Bool.or_false]

theorem shown_publishAudio :
    { live with publisher := some publisher.publishAudio }.shown =
      { live with publisher := some publisher }.shown := by
  simp only [shown, Option.map_some, Publisher.stray_publishAudio]
  rfl

theorem shown_unpublish (live : Live) (h : publisher.Tracked) (source : PublicationSource) :
    { live with publisher := some (publisher.unpublish source) }.shown =
      (Desktop.Live.unpublish source { live with publisher := some publisher }.shown).1 := by
  have hstray := h.stray_unpublish source
  unfold Desktop.Live.unpublish
  simp only [shown, Option.map_some, hstray]
  cases source with
  | screen =>
      show _ = (if publisher.screen.video.isSome then _ else _ : Desktop.Live × _).1
      cases hvideo : publisher.screen.video.isSome with
      | true => rfl
      | false => simp only [Publisher.shown, hvideo]; rfl
  | camera =>
      show _ = (if publisher.camera.video.isSome then _ else _ : Desktop.Live × _).1
      cases hvideo : publisher.camera.video.isSome with
      | true => rfl
      | false => simp only [Publisher.shown, hvideo]; rfl

/-- The connection is refused when one is needed and the SFU says no, -/
theorem refused_of_connect {refused : Option String} {error : PublishError}
    (h : live.connect start refused = .error error) :
    live.publisher.isNone = true ∧ refused.isSome = true := by
  unfold connect at h
  cases hpublisher : live.publisher with
  | some publisher =>
      rw [hpublisher] at h
      cases h
  | none =>
      rw [hpublisher] at h
      cases refused with
      | some message => exact ⟨rfl, rfl⟩
      | none => cases h

/-- and not otherwise. -/
theorem not_refused_of_connect {refused : Option String}
    (h : live.connect start refused = .ok publisher) :
    ¬ (live.publisher.isNone = true ∧ refused.isSome = true) := by
  rintro ⟨hnone, hsome⟩
  rcases connect_cases h with hpublisher | ⟨-, hrefused, -⟩
  · rw [hpublisher] at hnone
    cases hnone
  · rw [hrefused] at hsome
    cases hsome

/-- A screen whose capture does not start is taken down again. -/
theorem shown_notCaptured {published : Desktop.Live} (htracked : publisher.Tracked)
    (hshown : { live with publisher := some publisher }.shown = published) :
    ({ live with publisher := some (publisher.unpublish .screen) }.closeIfIdle).Tracked ∧
      ({ live with publisher := some (publisher.unpublish .screen) }.closeIfIdle).shown =
        (Desktop.Live.unpublish .screen published).1.closeIfIdle.1 ∧ false = false := by
  refine ⟨tracked_closeIfIdle fun other hother => ?_, ?_, rfl⟩
  · cases hother
    exact htracked.unpublish
  · rw [shown_closeIfIdle, shown_unpublish live htracked, hshown]

/-- A start that fails before it publishes gives the connection back. -/
theorem shown_closed (htracked : publisher.Tracked) :
    ({ live with publisher := some publisher }.closeIfIdle).Tracked ∧
      ({ live with publisher := some publisher }.closeIfIdle).shown =
        ({ live with publisher := some publisher }.shown).closeIfIdle.1 ∧ false = false :=
  ⟨tracked_closeIfIdle (tracked_publisher live htracked), shown_closeIfIdle, rfl⟩

theorem shown_captured {published : Desktop.Live}
    (hshown : { live with publisher := some publisher }.shown = published) :
    { live with publisher := some publisher, screen := some start }.shown =
      published.setActive .screen true := by
  rw [← hshown]
  rfl

theorem shown_shareStart (h : live.Tracked) (start : Nat) (request : StartRequest)
    (outcome : ScreenOutcome) :
    (live.shareStart start request outcome).1.Tracked ∧
      (live.shareStart start request outcome).1.shown =
        (live.shown.shareStart (live.shareOutcome request outcome)).1.1 ∧
      (live.shareStart start request outcome).2.isOk =
        (live.shown.shareStart (live.shareOutcome request outcome)).2 := by
  unfold Desktop.Live.shareStart
  show _ ∧ _ = (if live.screen.isSome then _ else _ : (Desktop.Live × _) × _).1.1 ∧ _ =
    (if live.screen.isSome then _ else _ : (Desktop.Live × _) × _).2
  cases hscreen : live.screen with
  | some capture =>
      have hsame : live.shareStart start request outcome = (live, .error .alreadySharing) := by
        simp [shareStart, hscreen]
      rw [hsame]
      exact ⟨h, rfl, rfl⟩
  | none =>
      rw [if_neg (by simp)]
      unfold shareOutcome
      cases hid : request.sourceId with
      | none =>
          have hsame : live.shareStart start request outcome = (live, .error .badSource) := by
            simp [shareStart, hscreen, hid]
          rw [hsame]
          exact ⟨h, rfl, rfl⟩
      | some id =>
          rw [if_neg (by simp)]
          cases hconnect : live.connect start outcome.connect with
          | error error =>
              have hsame : live.shareStart start request outcome =
                  (live, .error (.publish error)) := by
                simp [shareStart, hscreen, hid, hconnect]
              rw [hsame, if_pos (refused_of_connect hconnect)]
              exact ⟨h, rfl, rfl⟩
          | ok publisher =>
              have htracked := tracked_connect h hconnect
              have hshown := shown_connect hconnect
              rw [if_neg (not_refused_of_connect hconnect),
                shareStart_connected hscreen (by rw [hid]; rfl) hconnect, ← hshown]
              have hvideo := htracked.publishVideo .screen
              have hpublished := shown_publishVideo live htracked .screen
              have haudio := hvideo.publishAudio
              have hboth : { live with
                  publisher := some (publisher.publishVideo .screen).publishAudio }.shown = _ :=
                shown_publishAudio.trans hpublished
              -- the publisher is there: what fails closes it if nothing else is live
              unfold Publisher.publishScreen
              cases outcome.video with
              | some message => exact shown_closed htracked
              | none =>
                  cases request.audio with
                  | false =>
                      cases outcome.capture with
                      | some error => exact shown_notCaptured hvideo hpublished
                      | none =>
                          exact ⟨tracked_publisher live hvideo, shown_captured hpublished, rfl⟩
                  | true =>
                      cases outcome.audio with
                      | some message =>
                          refine ⟨tracked_closeIfIdle (tracked_publisher live hvideo), ?_, rfl⟩
                          exact shown_closeIfIdle.trans
                            (congrArg (fun live => live.closeIfIdle.1) hpublished)
                      | none =>
                          cases outcome.capture with
                          | some error => exact shown_notCaptured haudio hboth
                          | none => exact ⟨tracked_publisher live haudio, shown_captured hboth, rfl⟩

theorem shown_cameraStart (h : live.Tracked) (start : Nat) (outcome : CameraOutcome) :
    (live.cameraStart start outcome).1.Tracked ∧
      (live.cameraStart start outcome).1.shown =
        (live.shown.cameraStart (live.cameraOutcome outcome)).1.1 ∧
      (live.cameraStart start outcome).2.isOk =
        (live.shown.cameraStart (live.cameraOutcome outcome)).2 := by
  unfold cameraStart Desktop.Live.cameraStart
  show _ ∧ _ = (if live.camera.isSome then _ else _ : (Desktop.Live × _) × _).1.1 ∧ _ =
    (if live.camera.isSome then _ else _ : (Desktop.Live × _) × _).2
  by_cases hcamera : live.camera.isSome = true
  · rw [if_pos hcamera, if_pos hcamera]
    exact ⟨h, rfl, rfl⟩
  · rw [if_neg hcamera, if_neg hcamera]
    unfold cameraOutcome
    cases hconnect : live.connect start outcome.connect with
    | error error =>
        rw [if_pos (refused_of_connect hconnect)]
        exact ⟨h, rfl, rfl⟩
    | ok publisher =>
        have htracked := tracked_connect h hconnect
        rw [if_neg (not_refused_of_connect hconnect), ← shown_connect hconnect]
        cases outcome.opened with
        | some error => exact shown_closed htracked
        | none =>
            cases outcome.video with
            | some message => exact shown_closed htracked
            | none =>
                refine ⟨tracked_publisher live (htracked.publishVideo .camera), ?_, rfl⟩
                have hpublished := shown_publishVideo live htracked .camera
                exact congrArg (Desktop.Live.setActive .camera true) hpublished

theorem shown_takeDown (h : live.Tracked) (source : PublicationSource) :
    (live.takeDown source).Tracked ∧ (live.takeDown source).shown =
      (Desktop.Live.unpublish source (live.shown.setActive source false)).1 := by
  constructor
  · intro publisher hpublisher
    obtain ⟨old, hold, rfl⟩ := Option.map_eq_some_iff.mp hpublisher
    exact (h old hold).unpublish
  · unfold takeDown
    cases hpublisher : live.publisher with
    | none =>
        cases source with
        | screen => simp [shown, hpublisher, setCapture, Desktop.Live.setActive,
            Desktop.Live.unpublish]
        | camera => simp [shown, hpublisher, setCapture, Desktop.Live.setActive,
            Desktop.Live.unpublish]
    | some publisher =>
        refine (shown_unpublish (live.setCapture source none) (h publisher hpublisher)
          source).trans (congrArg (fun live => (Desktop.Live.unpublish source live).1) ?_)
        cases source with
        | screen => simp [shown, hpublisher, setCapture, Desktop.Live.setActive]
        | camera => simp [shown, hpublisher, setCapture, Desktop.Live.setActive]

theorem shown_release (h : live.Tracked) (source : PublicationSource) :
    (live.release source).Tracked ∧
      (live.release source).shown = (Desktop.Live.release source live.shown).1 := by
  obtain ⟨htracked, hshown⟩ := shown_takeDown h source
  refine ⟨tracked_closeIfIdle htracked, ?_⟩
  rw [release, shown_closeIfIdle, hshown]
  rfl

/-- The sids stay on record along every run. -/
theorem tracked_run (commands : List Command) :
    (Runs.run Sharing.step Sharing.idle commands).live.Tracked := by
  refine Runs.run_invariant (I := fun s : Sharing => s.live.Tracked)
    (fun s command h => ?_) ?_ commands
  · cases command with
    | shareStart request outcome => exact (shown_shareStart h s.starts request outcome).1
    | cameraStart outcome => exact (shown_cameraStart h s.starts outcome).1
    | shareStop => exact (shown_release h .screen).1
    | cameraStop => exact (shown_release h .camera).1
    | gaveUp source => exact (shown_release h source).1
  · intro publisher hpublisher
    cases hpublisher

end Live

end Core
end Desktop
end Ldktela
