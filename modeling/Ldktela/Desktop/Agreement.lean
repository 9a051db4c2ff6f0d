import Ldktela.Desktop.GiveUp
import Ldktela.Desktop.MediaSession

/-!
# What the interface and the core say is on the air

The calls of `desktop/src/media/session.ts` for our own publications, in a room, over the
commands of `desktop/src-tauri/src/share.rs`.  A call asks for its token and then asks the
core, which answers later; a publication that dies on its own reaches the interface as an
event that names its source alone.

`agrees_of_timely`: along every run in which no such event, no answer of a start and no stop
comes too late, what the store shows is what is on the air whenever nothing is pending.
-/

namespace Ldktela
namespace Desktop

open Protocol
open Runs

namespace Core

/-! ## What a start does to the core -/

/-- `share_start`, `camera_start`. -/
def Command.starts : Command → Bool
  | shareStart _ _ => true
  | cameraStart _ => true
  | _ => false

/-- `share_stop`, `camera_stop`. -/
def Command.stop : PublicationSource → Command
  | .screen => .shareStop
  | .camera => .cameraStop

section Starts

open Core.Live

variable {live : Live} {publisher : Publisher} {source s : PublicationSource} {start : Nat}

/-- The connection that was there, none, or the new one. -/
def Live.Reconnected (live live' : Live) (start : Nat) : Prop :=
  live'.connection = live.connection ∨ live'.connection = none ∨ live'.connection = some start

theorem connection_closeIfIdle_cases (live : Live) :
    live.closeIfIdle.connection = live.connection ∨ live.closeIfIdle.connection = none := by
  unfold closeIfIdle
  split
  · exact .inl rfl
  · exact .inr rfl

theorem reconnected_of_publisher (h : publisher.connection = live.connection.getD start)
    {live' : Live}
    (hpublisher : live'.publisher = some publisher) : live.Reconnected live' start := by
  have hconnection : live'.connection = some (live.connection.getD start) := by
    rw [connection, hpublisher, Option.map_some, h]
  cases hbefore : live.connection with
  | none => exact .inr (.inr (by rw [hconnection, hbefore]; rfl))
  | some connection => exact .inl (by rw [hconnection, hbefore]; rfl)

theorem Live.Reconnected.closeIfIdle {live' : Live} (h : live.Reconnected live' start) :
    live.Reconnected live'.closeIfIdle start := by
  rcases connection_closeIfIdle_cases live' with hsame | hnone
  · unfold Reconnected
    rw [hsame]
    exact h
  · exact .inr (.inl hnone)

/-- A start that fails leaves every capture as it was; one that succeeds adds its own. -/
def Live.StartsAs (live live' : Live) (source : PublicationSource) (start : Nat)
    (succeeded : Bool) : Prop :=
  live.Reconnected live' start ∧
    if succeeded then
      live.capture source = none ∧
        ∀ s, live'.capture s = if s = source then some start else live.capture s
    else
      ∀ s, live'.capture s = live.capture s

theorem startsAs_refused (live : Live) (source : PublicationSource) (start : Nat) :
    live.StartsAs live source start false :=
  ⟨.inl rfl, fun _ => rfl⟩

theorem startsAs_closed (h : publisher.connection = live.connection.getD start)
    (source : PublicationSource) :
    live.StartsAs { live with publisher := some publisher }.closeIfIdle source start false := by
  refine ⟨(reconnected_of_publisher h rfl).closeIfIdle, fun s => ?_⟩
  rw [capture_closeIfIdle]
  exact capture_publisher _

theorem startsAs_shareStart (live : Live) (start : Nat) (request : StartRequest)
    (outcome : ScreenOutcome) :
    live.StartsAs (live.shareStart start request outcome).1 .screen start
      (live.shareStart start request outcome).2.isOk := by
  cases hscreen : live.screen with
  | some capture =>
      have hsame : live.shareStart start request outcome = (live, .error .alreadySharing) := by
        simp [shareStart, hscreen]
      rw [hsame]
      exact startsAs_refused live .screen start
  | none => cases hid : request.sourceId with
    | none =>
        have hsame : live.shareStart start request outcome = (live, .error .badSource) := by
          simp [shareStart, hscreen, hid]
        rw [hsame]
        exact startsAs_refused live .screen start
    | some id => cases hconnect : live.connect start outcome.connect with
      | error error =>
          have hsame : live.shareStart start request outcome =
              (live, .error (.publish error)) := by
            simp [shareStart, hscreen, hid, hconnect]
          rw [hsame]
          exact startsAs_refused live .screen start
      | ok publisher =>
          obtain ⟨hconnection, -⟩ := connection_of_connect hconnect
          rw [shareStart_connected hscreen (by rw [hid]; rfl) hconnect]
          have hpublished := publishScreen_connection request.audio outcome.video outcome.audio
            publisher
          cases hresult : publisher.publishScreen request.audio outcome.video outcome.audio with
          | mk publisher' result =>
              rw [hresult] at hpublished
              have hsame := hpublished.trans hconnection
              cases result with
              | error error => exact startsAs_closed hsame .screen
              | ok sink => cases hcapture : outcome.capture with
                | some error =>
                    exact startsAs_closed (Publisher.connection_unpublish.trans hsame) .screen
                | none =>
                    refine ⟨reconnected_of_publisher hsame rfl, hscreen, fun s => ?_⟩
                    cases s with
                    | screen => rfl
                    | camera => rfl

theorem startsAs_cameraStart (live : Live) (start : Nat) (outcome : CameraOutcome) :
    live.StartsAs (live.cameraStart start outcome).1 .camera start
      (live.cameraStart start outcome).2.isOk := by
  unfold cameraStart
  by_cases hcamera : live.camera.isSome = true
  · rw [if_pos hcamera]
    exact startsAs_refused live .camera start
  · rw [if_neg hcamera]
    cases hconnect : live.connect start outcome.connect with
    | error error => exact startsAs_refused live .camera start
    | ok publisher =>
        obtain ⟨hconnection, -⟩ := connection_of_connect hconnect
        cases hopened : outcome.opened with
        | some error => exact startsAs_closed hconnection .camera
        | none => cases hvideo : outcome.video with
          | some message => exact startsAs_closed hconnection .camera
          | none =>
              have hsame := (@Publisher.connection_publishVideo publisher .camera).trans hconnection
              refine ⟨reconnected_of_publisher hsame rfl, ?_, fun s => ?_⟩
              · exact Option.not_isSome_iff_eq_none.mp hcamera
              · cases s with
                | screen => rfl
                | camera => rfl

theorem startsAs_run (sharing : Sharing) {c : Command} (hc : c.starts = true) :
    sharing.live.StartsAs (sharing.step c).live c.source sharing.starts
      (sharing.run c).2.isNone := by
  cases c with
  | shareStart request outcome =>
      have h := startsAs_shareStart sharing.live sharing.starts request outcome
      unfold Sharing.step Sharing.run
      dsimp only
      cases hresult : (sharing.live.shareStart sharing.starts request outcome).2 with
      | error error =>
          rw [hresult] at h
          exact h
      | ok started =>
          rw [hresult] at h
          exact h
  | cameraStart outcome =>
      have h := startsAs_cameraStart sharing.live sharing.starts outcome
      unfold Sharing.step Sharing.run
      dsimp only
      cases hresult : (sharing.live.cameraStart sharing.starts outcome).2 with
      | error error =>
          rw [hresult] at h
          exact h
      | ok started =>
          rw [hresult] at h
          exact h
  | shareStop => cases hc
  | cameraStop => cases hc
  | gaveUp source => cases hc

end Starts

/-! ## What is going to be released -/

namespace State

/-- The source will be taken off the air, and the interface told: a release is scheduled,
or a connection that was closed has still to tell of its end. -/
def Ending (s : State) (source : PublicationSource) : Prop :=
  (∃ task ∈ s.pending, task.source = source) ∨
    ∃ connection ∈ s.connections, s.sharing.live.connection ≠ some connection

instance (s : State) (source : PublicationSource) : Decidable (s.Ending source) :=
  inferInstanceAs (Decidable (_ ∨ _))

variable {s s' : State} {source : PublicationSource}

/-- What is scheduled stays scheduled, and what was closed stays closed. -/
theorem Ending.mono (h : s.Ending source) (hpending : ∀ task ∈ s.pending,
      task.source = source → task ∈ s'.pending)
    (hconnections : ∀ connection ∈ s.connections, s.sharing.live.connection ≠ some connection →
      connection ∈ s'.connections ∧ s'.sharing.live.connection ≠ some connection ∨
        s'.Ending source) : s'.Ending source := by
  rcases h with ⟨task, hmem, hsource⟩ | ⟨connection, hmem, hclosed⟩
  · exact .inl ⟨task, hpending task hmem hsource, hsource⟩
  · rcases hconnections connection hmem hclosed with ⟨hstill, hne⟩ | hending
    · exact .inr ⟨connection, hstill, hne⟩
    · exact hending

theorem Ending.start (h : s.Ending source) (hfresh : ∀ connection ∈ s.connections,
      connection < s.sharing.starts) {c : Command} (hc : c.starts = true) (lost : Bool) :
    (s.command c lost).Ending source := by
  obtain ⟨hconnection, -⟩ := startsAs_run s.sharing hc
  refine h.mono (fun task hmem _ => ?_) fun connection hmem hclosed => .inl ⟨?_, ?_⟩
  · unfold command
    dsimp only
    split
    · exact List.mem_cons_of_mem _ hmem
    · exact hmem
  · unfold command
    dsimp only
    split
    · exact List.mem_cons_of_mem _ hmem
    · exact hmem
  · intro hsome
    rcases hconnection with hsame | hnone | hnew
    · exact hclosed (hsame.symm.trans hsome)
    · cases hnone.symm.trans hsome
    · have hlt := hfresh connection hmem
      have heq : s.sharing.starts = connection := Option.some.inj (hnew.symm.trans hsome)
      omega

theorem capture_release (live : Live) (source s : PublicationSource) :
    (live.release source).capture s = if s = source then none else live.capture s := by
  rw [Live.release, capture_closeIfIdle, capture_takeDown]

theorem connection_release (live : Live) (source : PublicationSource) :
    (live.release source).connection = live.connection ∨
      (live.release source).connection = none := by
  rw [Live.release]
  exact (connection_closeIfIdle_cases (live.takeDown source)).imp_left fun hsame =>
    hsame.trans connection_takeDown

theorem command_stop (s : State) (source : PublicationSource) :
    s.command (Command.stop source) false =
      { s with sharing := ⟨s.sharing.live.release source, s.sharing.starts⟩ } := by
  cases source with
  | screen => simp [command, Command.stop, Sharing.Connects, Sharing.Opens, Sharing.step,
      Sharing.run]
  | camera => simp [command, Command.stop, Sharing.Connects, Sharing.Opens, Sharing.step,
      Sharing.run]

theorem closed_release {live : Live} {connection : Nat}
    (hclosed : live.connection ≠ some connection)
    (source : PublicationSource) : (live.release source).connection ≠ some connection := by
  rcases connection_release live source with hsame | hnone
  · rw [hsame]
    exact hclosed
  · rw [hnone]
    exact (Option.some_ne_none connection).symm

theorem Ending.stop {stopped : PublicationSource} (h : s.Ending source) :
    (s.command (Command.stop stopped) false).Ending source := by
  rw [command_stop]
  exact h.mono (fun _ hmem _ => hmem) fun _ hmem hclosed => .inl ⟨hmem, closed_release hclosed _⟩

/-- Stopping the last source closes the connection. -/
theorem ending_of_closed {connection : Nat} (hmem : connection ∈ s.connections)
    (hoff : ∀ other, other ≠ source → s.sharing.live.capture other = none)
    (s' : PublicationSource) : (s.command (Command.stop source) false).Ending s' := by
  rw [command_stop]
  refine .inr ⟨connection, hmem, ?_⟩
  have hnone : ∀ other, (s.sharing.live.release source).capture other = none := by
    intro other
    rw [capture_release]
    split
    · rfl
    · next hne => exact hoff other hne
  have hclosed : (s.sharing.live.release source).connection = none := by
    have htaken : ∀ other, (s.sharing.live.takeDown source).capture other = none := by
      intro other
      rw [← capture_closeIfIdle]
      exact hnone other
    have hscreen : (s.sharing.live.takeDown source).screen = none := htaken .screen
    have hcamera : (s.sharing.live.takeDown source).camera = none := htaken .camera
    simp [Live.release, Live.closeIfIdle, hscreen, hcamera, Live.connection]
  rw [hclosed]
  exact (Option.some_ne_none connection).symm

theorem Ending.lost (h : s.Ending source) (gone : PublicationSource) :
    (s.lost gone).Ending source := by
  unfold State.lost
  split
  · exact h
  · exact h.mono (fun _ hmem _ => List.mem_cons_of_mem _ hmem)
      fun _ hmem hclosed => .inl ⟨hmem, hclosed⟩

/-- A connection that tells of its end has both sources released. -/
theorem Ending.disconnected (h : s.Ending source) (connection : Nat) :
    (s.disconnected connection).Ending source := by
  unfold State.disconnected
  split
  · left
    cases source with
    | screen => exact ⟨_, List.mem_cons_self, rfl⟩
    | camera => exact ⟨_, List.mem_cons_of_mem _ List.mem_cons_self, rfl⟩
  · exact h

theorem Ending.release (h : s.Ending source) {task : Release} (hne : task.source ≠ source) :
    (s.release task).Ending source := by
  unfold State.release
  split
  · refine h.mono (fun other hmem hsource => ?_) fun _ hmem hclosed =>
      .inl ⟨hmem, closed_release hclosed task.source⟩
    refine (List.mem_erase_of_ne ?_).mpr hmem
    rintro rfl
    exact hne hsource
  · exact h

end State

end Core

namespace MediaSession

/-- The store shows the source as publishing. -/
def shows (session : MediaSession) : PublicationSource → Bool
  | .screen => session.publishing
  | .camera => session.cameraPublishing

/-- What `stopShare` and `stopCamera` do before they ask the core. -/
def cleared (source : PublicationSource) (session : MediaSession) : MediaSession :=
  match source with
  | .screen => { session with sharing := false, publishing := false }
  | .camera => { session with cameraPublishing := false }

/-- What `startShare` and `startCamera` look at: whether the source is on already. -/
def busy (session : MediaSession) : PublicationSource → Bool
  | .screen => session.sharing
  | .camera => session.cameraPublishing

/-- The listener of `share://ended`. -/
def ended (source : PublicationSource) (session : MediaSession) : MediaSession :=
  if session.busy source then session.cleared source else session

end MediaSession

namespace Agreement

open Desktop.Core (Sharing Command Release)

/-- A call of the session, by what it awaits. -/
inductive Call where
  /-- A start: its token. -/
  | token (source : PublicationSource)
  /-- A start: the core. -/
  | native (source : PublicationSource)
  /-- A start: the answer of the core, which has run it. -/
  | answered (source : PublicationSource) (succeeded : Bool)
  /-- A stop: the core; a switch starts again after it. -/
  | stop (source : PublicationSource) (restart : Bool)
  /-- A stop: the answer of the core, which has run it. -/
  | stopped (source : PublicationSource) (restart : Bool)
deriving DecidableEq

structure World where
  session : MediaSession
  calls : List Call
  core : Core.State
  /-- `share://ended` events on their way. -/
  events : List PublicationSource

inductive Act where
  /-- `startShare`, `startCamera`. -/
  | start (source : PublicationSource)
  /-- `stopShare`, `stopCamera`. -/
  | stop (source : PublicationSource)
  /-- `switchShare`, `switchCamera`. -/
  | switch (source : PublicationSource)
  | changePreset
  /-- The server answers the token request of a start. -/
  | granted (source : PublicationSource) (token : Bool)
  /-- The core runs a start; `lost` says that the capture it opens is lost at once. -/
  | native (command : Command) (lost : Bool)
  /-- The session hears how a start went. -/
  | answered (source : PublicationSource) (succeeded : Bool)
  /-- The core runs a stop. -/
  | nativeStop (source : PublicationSource) (restart : Bool)
  | stopped (source : PublicationSource) (restart : Bool)
  /-- A capture ends by itself. -/
  | lost (source : PublicationSource)
  /-- A connection tells of its end, whoever ended it. -/
  | disconnected (connection : Nat)
  /-- What `give_up` has scheduled runs. -/
  | release (task : Release)
  /-- An event arrives. -/
  | ended (source : PublicationSource)

namespace World

def start (source : PublicationSource) (w : World) : World :=
  if w.session.busy source then w else { w with calls := .token source :: w.calls }

/-- A stop of a source that is on. -/
def halt (source : PublicationSource) (restart : Bool) (w : World) : World :=
  { w with
    session := w.session.cleared source
    calls := .stop source restart :: w.calls }

def step (w : World) : Act → World
  | .start source => w.start source
  | .stop source => if w.session.busy source then w.halt source false else w
  | .switch source => if w.session.busy source then w.halt source true else w.start source
  | .changePreset => if w.session.busy .screen then w.halt .screen true else w
  | .granted source token =>
      if .token source ∈ w.calls then
        { w with calls :=
            (if token then [.native source] else []) ++ w.calls.erase (.token source) }
      else
        w
  | .native command lost =>
      if command.starts ∧ .native command.source ∈ w.calls then
        { w with
          core := w.core.command command lost
          calls := .answered command.source (w.core.sharing.run command).2.isNone ::
            w.calls.erase (.native command.source) }
      else
        w
  | .answered source succeeded =>
      if .answered source succeeded ∈ w.calls then
        { w with
          session := if succeeded then w.session.started source else w.session
          calls := w.calls.erase (.answered source succeeded) }
      else
        w
  | .nativeStop source restart =>
      if .stop source restart ∈ w.calls then
        { w with
          core := w.core.command (Command.stop source) false
          calls := .stopped source restart :: w.calls.erase (.stop source restart) }
      else
        w
  | .stopped source restart =>
      if .stopped source restart ∈ w.calls then
        let w := { w with calls := w.calls.erase (.stopped source restart) }
        if restart then w.start source else w
      else
        w
  | .lost source => { w with core := w.core.lost source }
  | .disconnected connection => { w with core := w.core.disconnected connection }
  | .release task =>
      if task ∈ w.core.pending then
        { w with core := w.core.release task, events := task.source :: w.events }
      else
        w
  | .ended source =>
      if source ∈ w.events then
        { w with session := w.session.ended source, events := w.events.erase source }
      else
        w

/-- The session in its room, with nothing of ours on the air. -/
def joined : World := ⟨.new, [], .idle, []⟩

def live (w : World) (source : PublicationSource) : Bool :=
  (w.core.sharing.live.capture source).isSome

/-- No call, scheduled release or event is pending, and every connection that was closed has
told of it. -/
structure Quiet (w : World) : Prop where
  calls : w.calls = []
  pending : w.core.pending = []
  events : w.events = []
  connections : ∀ connection ∈ w.core.connections, w.core.sharing.live.connection = some connection

/-- Once nothing is pending, the store and the core agree. -/
def Agrees (w : World) : Prop :=
  w.Quiet → ∀ source, w.session.shows source = w.live source

/-- The core has been asked to stop the source. -/
def Stopping (w : World) (source : PublicationSource) : Prop :=
  .stop source false ∈ w.calls ∨ .stop source true ∈ w.calls

/-- What the interface hears is no news of the past, or more is to come: an event does not
arrive for a publication that goes on, the answer of a start not after its publication has
ended, and a stop does not take down a publication that a later start put there. -/
def Timely (w : World) : Act → Prop
  | .ended source => source ∈ w.events → w.session.shows source = true → w.live source = true →
      .answered source true ∈ w.calls ∨ w.Stopping source ∨ w.core.Ending source
  | .answered source succeeded => .answered source succeeded ∈ w.calls → succeeded = true →
      w.live source = false → source ∈ w.events ∨ w.core.Ending source
  | .nativeStop source restart => .stop source restart ∈ w.calls →
      w.session.shows source = true → w.live source = true →
      source ∈ w.events ∨ w.core.Ending source ∨
        (∀ other, other ≠ source → w.live other = false) ∧
          ∃ connection ∈ w.core.connections, w.core.sharing.live.connection = some connection
  | _ => True

instance (w : World) (source : PublicationSource) : Decidable (w.Stopping source) :=
  inferInstanceAs (Decidable (_ ∨ _))

instance (w : World) (act : Act) : Decidable (w.Timely act) :=
  match act with
  | .ended _ | .answered _ _ | .nativeStop _ _ => inferInstanceAs (Decidable (_ → _ → _ → _ ∨ _))
  | .start _ | .stop _ | .switch _ | .changePreset | .granted _ _ | .native _ _ | .stopped _ _
  | .lost _ | .disconnected _ | .release _ => .isTrue trivial

/-- What is on its way sets right what the store says. -/
structure Inv (w : World) : Prop where
  sharing_eq : w.session.sharing = w.session.publishing
  fresh : ∀ connection ∈ w.core.connections, connection < w.core.sharing.starts
  /-- What the core has and the store does not show, the session will hear of, or it will
  be taken off the air. -/
  live : ∀ source, w.live source = true → w.session.shows source = false →
    .answered source true ∈ w.calls ∨ w.Stopping source ∨ w.core.Ending source
  /-- What the store shows and the core does not have, an event will say. -/
  shown : ∀ source, w.session.shows source = true → w.live source = false →
    source ∈ w.events ∨ w.core.Ending source

theorem inv_joined : Inv joined where
  sharing_eq := rfl
  fresh connection hmem := by cases hmem
  live source hlive := by
    cases source with
    | screen => cases hlive
    | camera => cases hlive
  shown source hshows := by
    cases source with
    | screen => cases hshows
    | camera => cases hshows

section Steps

variable {w : World} {source : PublicationSource}

theorem Inv.agrees (h : Inv w) : w.Agrees := by
  intro hquiet source
  have hnot : ¬ w.core.Ending source := by
    rintro (⟨task, hmem, -⟩ | ⟨connection, hmem, hclosed⟩)
    · rw [hquiet.pending] at hmem
      cases hmem
    · exact hclosed (hquiet.connections connection hmem)
  cases hshows : w.session.shows source with
  | true =>
      cases hlive : w.live source with
      | true => rfl
      | false =>
          rcases h.shown source hshows hlive with hmem | hending
          · rw [hquiet.events] at hmem
            cases hmem
          · exact absurd hending hnot
  | false =>
      cases hlive : w.live source with
      | false => rfl
      | true =>
          rcases h.live source hlive hshows with hmem | hstopping | hending
          · rw [hquiet.calls] at hmem
            cases hmem
          · unfold Stopping at hstopping
            rw [hquiet.calls] at hstopping
            rcases hstopping with hmem | hmem
            · cases hmem
            · cases hmem
          · exact absurd hending hnot

/-- The calls may change as long as no answer of a start and no stop gets lost. -/
theorem Inv.calls (h : Inv w) {calls : List Call}
    (hanswered : ∀ s, Call.answered s true ∈ w.calls → Call.answered s true ∈ calls)
    (hstop : ∀ s restart, Call.stop s restart ∈ w.calls → Call.stop s restart ∈ calls) :
    Inv { w with calls := calls } where
  sharing_eq := h.sharing_eq
  fresh := h.fresh
  live s hlive hshows := by
    rcases h.live s hlive hshows with hmem | hstopping | hending
    · exact .inl (hanswered s hmem)
    · exact .inr (.inl (hstopping.imp (hstop s false) (hstop s true)))
    · exact .inr (.inr hending)
  shown := h.shown

theorem Inv.start (h : Inv w) (source : PublicationSource) : Inv (w.start source) := by
  unfold World.start
  split
  · exact h
  · exact h.calls (fun _ hmem => List.mem_cons_of_mem _ hmem)
      fun _ _ hmem => List.mem_cons_of_mem _ hmem

theorem shows_cleared (session : MediaSession) (source s : PublicationSource) :
    (session.cleared source).shows s = if s = source then false else session.shows s := by
  cases source with
  | screen => cases s with
    | screen => rfl
    | camera => rfl
  | camera => cases s with
    | screen => rfl
    | camera => rfl

theorem sharing_cleared {session : MediaSession} (h : session.sharing = session.publishing)
    (source : PublicationSource) :
    (session.cleared source).sharing = (session.cleared source).publishing := by
  cases source with
  | screen => rfl
  | camera => exact h

theorem Inv.halt (h : Inv w) (source : PublicationSource) (restart : Bool) :
    Inv (w.halt source restart) where
  sharing_eq := sharing_cleared h.sharing_eq source
  fresh := h.fresh
  live s hlive hshows := by
    by_cases hs : s = source
    · subst hs
      refine .inr (.inl ?_)
      cases restart with
      | false => exact .inl List.mem_cons_self
      | true => exact .inr List.mem_cons_self
    · have hbefore : w.session.shows s = false := by
        have hcleared := shows_cleared w.session source s
        rw [if_neg hs] at hcleared
        exact hcleared.symm.trans hshows
      rcases h.live s hlive hbefore with hmem | hstopping | hending
      · exact .inl (List.mem_cons_of_mem _ hmem)
      · exact .inr (.inl (hstopping.imp (List.mem_cons_of_mem _) (List.mem_cons_of_mem _)))
      · exact .inr (.inr hending)
  shown s hshows hlive := by
    have hcleared := shows_cleared w.session source s
    rw [show (w.halt source restart).session.shows s = _ from hcleared] at hshows
    split at hshows
    · cases hshows
    · exact h.shown s hshows hlive

theorem shows_started (session : MediaSession) (source s : PublicationSource) :
    (session.started source).shows s = if s = source then true else session.shows s := by
  cases source with
  | screen => cases s with
    | screen => rfl
    | camera => rfl
  | camera => cases s with
    | screen => rfl
    | camera => rfl

theorem shows_ended {session : MediaSession} (h : session.sharing = session.publishing)
    (source s : PublicationSource) :
    (session.ended source).shows s = if s = source then false else session.shows s := by
  unfold MediaSession.ended
  split
  · exact shows_cleared session source s
  · next hidle =>
      have hoff : session.shows source = false := by
        have hidle : session.busy source = false := Bool.eq_false_iff.mpr hidle
        cases source with
        | screen => exact h.symm.trans hidle
        | camera => exact hidle
      split
      · next hs => rw [hs, hoff]
      · rfl

/-- The answer of a start gets the session to show the source. -/
theorem Inv.answered (h : Inv w)
    (hok : w.live source = false → source ∈ w.events ∨ w.core.Ending source) :
    Inv { w with
      session := w.session.started source
      calls := w.calls.erase (.answered source true) } where
  sharing_eq := by
    cases source with
    | screen => rfl
    | camera => exact h.sharing_eq
  fresh := h.fresh
  live s hlive hshows := by
    rw [shows_started] at hshows
    split at hshows
    · cases hshows
    · next hs =>
        rcases h.live s hlive hshows with hmem | hstopping | hending
        · refine .inl ((List.mem_erase_of_ne ?_).mpr hmem)
          simpa using hs
        · exact .inr (.inl (hstopping.imp (List.mem_erase_of_ne (by simp)).mpr
            (List.mem_erase_of_ne (by simp)).mpr))
        · exact .inr (.inr hending)
  shown s hshows hlive := by
    rw [shows_started] at hshows
    split at hshows
    · next hs =>
        subst hs
        exact hok hlive
    · exact h.shown s hshows hlive

/-- An event takes the source off the store. -/
theorem Inv.ended (h : Inv w)
    (hok : w.session.shows source = true → w.live source = true →
      .answered source true ∈ w.calls ∨ w.Stopping source ∨ w.core.Ending source) :
    Inv { w with session := w.session.ended source, events := w.events.erase source } where
  sharing_eq := by
    unfold MediaSession.ended
    split
    · exact sharing_cleared h.sharing_eq source
    · exact h.sharing_eq
  fresh := h.fresh
  live s hlive hshows := by
    by_cases hs : s = source
    · subst hs
      cases hbefore : w.session.shows s with
      | true => exact hok hbefore hlive
      | false => exact h.live s hlive hbefore
    · rw [shows_ended h.sharing_eq, if_neg hs] at hshows
      exact h.live s hlive hshows
  shown s hshows hlive := by
    rw [shows_ended h.sharing_eq] at hshows
    split at hshows
    · cases hshows
    · next hs =>
        exact (h.shown s hshows hlive).imp_left (List.mem_erase_of_ne hs).mpr

theorem fresh_command {core : Core.State} (h : ∀ connection ∈ core.connections,
      connection < core.sharing.starts) {c : Command} (hc : c.starts = true) (lost : Bool) :
    ∀ connection ∈ (core.command c lost).connections,
      connection < (core.command c lost).sharing.starts := by
  have hstarts : (core.sharing.step c).starts = core.sharing.starts + 1 := by
    cases c with
    | shareStart request outcome => rfl
    | cameraStart outcome => rfl
    | shareStop => cases hc
    | cameraStop => cases hc
    | gaveUp source => cases hc
  intro connection hmem
  show connection < (core.sharing.step c).starts
  rw [hstarts]
  unfold Core.State.command at hmem
  dsimp only at hmem
  split at hmem
  · rcases List.mem_cons.mp hmem with rfl | hold
    · exact Nat.lt_succ_self _
    · exact Nat.lt_succ_of_lt (h connection hold)
  · exact Nat.lt_succ_of_lt (h connection hmem)

/-- The core runs a start. -/
theorem Inv.native (h : Inv w) {c : Command} (hc : c.starts = true) (lost : Bool) :
    Inv { w with
      core := w.core.command c lost
      calls := .answered c.source (w.core.sharing.run c).2.isNone ::
        w.calls.erase (.native c.source) } := by
  obtain ⟨-, hcaptures⟩ := Core.startsAs_run w.core.sharing hc
  have hkept : ∀ s, w.live s = true → w.session.shows s = false →
      .answered s true ∈ .answered c.source (w.core.sharing.run c).2.isNone ::
          w.calls.erase (.native c.source) ∨
        World.Stopping { w with
          core := w.core.command c lost
          calls := .answered c.source (w.core.sharing.run c).2.isNone ::
            w.calls.erase (.native c.source) } s ∨
        (w.core.command c lost).Ending s := by
    intro s hlive hshows
    have hmem : ∀ call, call ∈ w.calls → call ≠ .native c.source →
        call ∈ .answered c.source (w.core.sharing.run c).2.isNone ::
          w.calls.erase (.native c.source) :=
      fun call hmem hne => List.mem_cons_of_mem _ ((List.mem_erase_of_ne hne).mpr hmem)
    -- what was still to come for a live source is still to come
    rcases h.live s hlive hshows with hanswered | hstopping | hending
    · exact .inl (hmem _ hanswered (by simp))
    · exact .inr (.inl (hstopping.imp (fun hstop => hmem _ hstop (by simp))
        fun hstop => hmem _ hstop (by simp)))
    · exact .inr (.inr (hending.start h.fresh hc lost))
  refine ⟨h.sharing_eq, fresh_command h.fresh hc lost, fun s hlive hshows => ?_,
    fun s hshows hlive => ?_⟩
  · rcases Bool.eq_false_or_eq_true (w.core.sharing.run c).2.isNone with hok | hok
    · rw [hok] at hcaptures
      by_cases hs : s = c.source
      · left
        rw [hs, hok]
        exact List.mem_cons_self
      · have hsame := hcaptures.2 s
        rw [if_neg hs] at hsame
        exact hkept s ((congrArg Option.isSome hsame).symm.trans hlive) hshows
    · rw [hok] at hcaptures
      exact hkept s ((congrArg Option.isSome (hcaptures s)).symm.trans hlive) hshows
  · -- a source that is dead after the start was dead before it
    have hbefore : w.live s = false := by
      rcases Bool.eq_false_or_eq_true (w.core.sharing.run c).2.isNone with hok | hok
      · rw [hok] at hcaptures
        have hsame := hcaptures.2 s
        split at hsame
        · cases (congrArg Option.isSome hsame).symm.trans hlive
        · exact (congrArg Option.isSome hsame).symm.trans hlive
      · rw [hok] at hcaptures
        exact (congrArg Option.isSome (hcaptures s)).symm.trans hlive
    exact (h.shown s hshows hbefore).imp_right fun hending => hending.start h.fresh hc lost

/-- The core runs a stop. -/
theorem Inv.nativeStop (h : Inv w) {restart : Bool}
    (hok : w.session.shows source = true → w.live source = true →
      source ∈ w.events ∨ w.core.Ending source ∨
        (∀ other, other ≠ source → w.live other = false) ∧
          ∃ connection ∈ w.core.connections,
            w.core.sharing.live.connection = some connection) :
    Inv { w with
      core := w.core.command (Command.stop source) false
      calls := .stopped source restart :: w.calls.erase (.stop source restart) } := by
  have hcaptures : ∀ s, ((w.core.command (Command.stop source) false).sharing.live.capture s) =
      if s = source then none else w.core.sharing.live.capture s := by
    intro s
    rw [Core.State.command_stop]
    exact Core.State.capture_release _ source s
  refine ⟨h.sharing_eq, ?_, fun s hlive hshows => ?_, fun s hshows hlive => ?_⟩
  · rw [Core.State.command_stop]
    exact h.fresh
  · have hsame := hcaptures s
    split at hsame
    · cases (congrArg Option.isSome hsame).symm.trans hlive
    · next hs =>
        have hbefore : w.live s = true := (congrArg Option.isSome hsame).symm.trans hlive
        have hmem : ∀ call, call ∈ w.calls → call ≠ .stop source restart →
            call ∈ Call.stopped source restart :: w.calls.erase (.stop source restart) :=
          fun call hmem hne => List.mem_cons_of_mem _ ((List.mem_erase_of_ne hne).mpr hmem)
        have hother : ∀ r, Call.stop s r ≠ .stop source restart :=
          fun r heq => hs (Call.stop.inj heq).1
        rcases h.live s hbefore hshows with hanswered | hstopping | hending
        · exact .inl (hmem _ hanswered (by simp))
        · exact .inr (.inl (hstopping.imp (fun hstop => hmem _ hstop (hother false))
            fun hstop => hmem _ hstop (hother true)))
        · exact .inr (.inr hending.stop)
  · by_cases hbefore : w.live s = true
    · have hs : s = source := by
        by_contra hs
        have hsame := hcaptures s
        rw [if_neg hs] at hsame
        have hstill := (congrArg Option.isSome hsame).trans hbefore
        cases hlive.symm.trans hstill
      subst hs
      rcases hok hshows hbefore with hmem | hending | ⟨hoff, connection, hmem, -⟩
      · exact .inl hmem
      · exact .inr hending.stop
      · -- nothing else is on the air, so the connection goes with it and tells of its end
        refine .inr (Core.State.ending_of_closed hmem (fun other hne => ?_) s)
        exact Option.isSome_eq_false_iff.mp (hoff other hne) |> Option.isNone_iff_eq_none.mp
    · exact (h.shown s hshows (Bool.eq_false_iff.mpr hbefore)).imp_right fun hending => hending.stop

theorem Inv.lost (h : Inv w) (gone : PublicationSource) :
    Inv { w with core := w.core.lost gone } := by
  have hsharing : (w.core.lost gone).sharing = w.core.sharing := by
    unfold Core.State.lost
    split
    · rfl
    · rfl
  have hconnections : (w.core.lost gone).connections = w.core.connections := by
    unfold Core.State.lost
    split
    · rfl
    · rfl
  have hlive : ∀ s, World.live { w with core := w.core.lost gone } s = w.live s := by
    intro s
    unfold World.live
    dsimp only
    rw [hsharing]
  refine ⟨h.sharing_eq, ?_, fun s hon hshows => ?_, fun s hshows hoff => ?_⟩
  · dsimp only
    rw [hsharing, hconnections]
    exact h.fresh
  · rw [hlive] at hon
    exact (h.live s hon hshows).imp_right (.imp_right fun hending => hending.lost gone)
  · rw [hlive] at hoff
    exact (h.shown s hshows hoff).imp_right fun hending => hending.lost gone

theorem Inv.disconnected (h : Inv w) (connection : Nat) :
    Inv { w with core := w.core.disconnected connection } := by
  have hsharing : (w.core.disconnected connection).sharing = w.core.sharing := by
    unfold Core.State.disconnected
    split
    · rfl
    · rfl
  have hlive : ∀ s,
      World.live { w with core := w.core.disconnected connection } s = w.live s := by
    intro s
    unfold World.live
    dsimp only
    rw [hsharing]
  refine ⟨h.sharing_eq, fun other hmem => ?_, fun s hon hshows => ?_, fun s hshows hoff => ?_⟩
  · dsimp only at hmem ⊢
    rw [hsharing]
    refine h.fresh other ?_
    unfold Core.State.disconnected at hmem
    split at hmem
    · exact List.mem_of_mem_erase hmem
    · exact hmem
  · rw [hlive] at hon
    exact (h.live s hon hshows).imp_right (.imp_right fun hending => hending.disconnected _)
  · rw [hlive] at hoff
    exact (h.shown s hshows hoff).imp_right fun hending => hending.disconnected _

/-- A release tells of its source, whatever it has found. -/
theorem Inv.release (h : Inv w) {task : Release} (hmem : task ∈ w.core.pending) :
    Inv { w with core := w.core.release task, events := task.source :: w.events } := by
  have hcore : w.core.release task =
      { w.core with
        sharing := ⟨w.core.sharing.live.release task.source, w.core.sharing.starts⟩
        pending := w.core.pending.erase task } := by
    unfold Core.State.release
    rw [if_pos hmem]
    rfl
  have hcaptures : ∀ s, (w.core.release task).sharing.live.capture s =
      if s = task.source then none else w.core.sharing.live.capture s := by
    intro s
    rw [hcore]
    exact Core.State.capture_release _ task.source s
  refine ⟨h.sharing_eq, ?_, fun s hlive hshows => ?_, fun s hshows hlive => ?_⟩
  · dsimp only
    rw [hcore]
    exact h.fresh
  · have hsame := hcaptures s
    split at hsame
    · cases (congrArg Option.isSome hsame).symm.trans hlive
    · next hs =>
        have hbefore : w.live s = true := (congrArg Option.isSome hsame).symm.trans hlive
        exact (h.live s hbefore hshows).imp_right (.imp_right fun hending =>
          hending.release (Ne.symm hs))
  · by_cases hs : s = task.source
    · rw [hs]
      exact .inl List.mem_cons_self
    · have hsame := hcaptures s
      rw [if_neg hs] at hsame
      have hbefore : w.live s = false := (congrArg Option.isSome hsame).symm.trans hlive
      exact (h.shown s hshows hbefore).imp (List.mem_cons_of_mem _) fun hending =>
        hending.release (Ne.symm hs)

theorem inv_step (h : Inv w) (act : Act) (hok : w.Timely act) : Inv (w.step act) := by
  cases act with
  | start source => exact h.start source
  | stop source =>
      rw [step]
      split
      · exact h.halt source false
      · exact h
  | switch source =>
      rw [step]
      split
      · exact h.halt source true
      · exact h.start source
  | changePreset =>
      rw [step]
      split
      · exact h.halt .screen true
      · exact h
  -- only what is awaited changes: the token, and then the core
  | granted source token =>
      rw [step]
      split
      · refine h.calls (fun s hmem => ?_) fun s restart hmem => ?_
        · exact List.mem_append_right _ ((List.mem_erase_of_ne (by simp)).mpr hmem)
        · exact List.mem_append_right _ ((List.mem_erase_of_ne (by simp)).mpr hmem)
      · exact h
  | native command lost =>
      rw [step]
      split
      · next hrun => exact h.native hrun.1 lost
      · exact h
  | answered source succeeded =>
      rw [step]
      split
      · next hmem =>
          cases succeeded with
          | true => exact h.answered (hok hmem rfl)
          | false =>
              refine h.calls (fun s hkept => ?_) fun s restart hkept => ?_
              · exact (List.mem_erase_of_ne (by simp)).mpr hkept
              · exact (List.mem_erase_of_ne (by simp)).mpr hkept
      · exact h
  | nativeStop source restart =>
      rw [step]
      split
      · next hmem => exact h.nativeStop (hok hmem)
      · exact h
  -- a switch starts again when its stop has returned
  | stopped source restart =>
      have herased : Inv { w with calls := w.calls.erase (.stopped source restart) } :=
        h.calls (fun s hkept => (List.mem_erase_of_ne (by simp)).mpr hkept)
          fun s r hkept => (List.mem_erase_of_ne (by simp)).mpr hkept
      rw [step]
      split
      · dsimp only
        split
        · exact herased.start source
        · exact herased
      · exact h
  | lost source => exact h.lost source
  | disconnected connection => exact h.disconnected connection
  | release task =>
      rw [step]
      split
      · next hmem => exact h.release hmem
      · exact h
  | ended source =>
      rw [step]
      split
      · next hmem => exact h.ended (hok hmem)
      · exact h

end Steps

/-- In every run whose news are timely, the store and the core agree whenever nothing is
pending. -/
theorem agrees_of_timely (acts : List Act) (h : EachStep step Timely joined acts) :
    Throughout step Agrees joined acts := by
  have hinv : Throughout step Inv joined acts :=
    throughout_of_eachStep (fun _ act hinv hok => inv_step hinv act hok) inv_joined h
  exact hinv.mono fun _ hinv => hinv.agrees

/-- The screen goes on the air. -/
private def sharesScreen : List Act :=
  [.start .screen, .granted .screen true,
    .native (.shareStart ⟨some 1, false⟩ ⟨none, none, none, none, none⟩) false,
    .answered .screen true]

/-- The window is closed, and another one shared after the word of it. -/
theorem agrees_of_timely_reshare :
    Throughout step Agrees joined
      (sharesScreen ++ [Act.lost .screen, Act.release ⟨.screen, .capture 0⟩,
          Act.ended .screen] ++
        sharesScreen) :=
  agrees_of_timely _ (by decide +kernel)

/-- A switch of the share closes the connection of the first one, whose end is told while
the second one starts. -/
def staleEnd : List Act :=
  sharesScreen ++
    [Act.switch .screen, Act.nativeStop .screen true, Act.disconnected 0,
      Act.release ⟨.screen, .connection 0⟩, Act.release ⟨.camera, .connection 0⟩,
      Act.stopped .screen true] ++ sharesScreen.tail ++
    [Act.ended .screen, Act.ended .camera]

/-- The event of the old share takes the new one off the store. -/
theorem stale_end_hides_share :
    ¬ ∀ acts : List Act, Throughout step Agrees joined acts := by
  intro h
  have hagrees := throughout_iff_initial.mp (h staleEnd) staleEnd (List.prefix_refl _)
  have hquiet : (run step joined staleEnd).Quiet :=
    ⟨by decide +kernel, by decide +kernel, by decide +kernel, by decide +kernel⟩
  have hshows := hagrees hquiet .screen
  exact absurd hshows (by decide +kernel)

end World

end Agreement

end Desktop
end Ldktela
