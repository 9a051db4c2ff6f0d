import Ldktela.Desktop.OwnRoom

/-!
# Leaving a room

`leave` of `desktop/src/media/session.ts`, which `follow` calls when the channel changes and
`signOut` when the session ends, among the calls of `OwnRoom`: it awaits the stop of the
share and the end of the viewing connection, and the starts and stops in flight go on
meanwhile.  A publication may also end by itself, and the timer of `scheduleRejoin` fires.

The session knows of a screen from `sharing` alone and of a camera from the store alone,
and `leave` looks at the first only.  `takesEverythingOff_of_orderly`: along every run in
which each source that is on the air at a call of `leave` is a screen it knows of, or is
being stopped already, in which no start goes through under a `leave`, and no `leave` ends
before the stops that were sent have run, leaving takes everything off the air.
`not_takesEverythingOff_of_disorderly` says what comes of any other step.
-/

namespace Ldktela
namespace Desktop

open Protocol
open Runs

/-! ## A connection that is closed when it is idle -/

namespace Core

/-- With nothing captured there is no connection. -/
def Live.ClosedIfIdle (live : Live) : Prop :=
  (∀ source, live.capture source = none) → live.publisher = none

section ClosedIfIdle

open Core.Live

variable {live : Live} {source : PublicationSource}

theorem closedIfIdle_closeIfIdle (live : Live) : live.closeIfIdle.ClosedIfIdle := by
  intro hoff
  have hscreen : live.screen = none := capture_closeIfIdle.symm.trans (hoff .screen)
  have hcamera : live.camera = none := capture_closeIfIdle.symm.trans (hoff .camera)
  simp [closeIfIdle, hscreen, hcamera]

theorem closedIfIdle_of_capture (source : PublicationSource)
    (h : (live.capture source).isSome = true) : live.ClosedIfIdle := by
  intro hoff
  rw [hoff source] at h
  cases h

/-- The ways out of a start that fails close an idle connection. -/
theorem Live.ClosedIfIdle.shareStart (h : live.ClosedIfIdle) (start : Nat)
    (request : StartRequest) (outcome : ScreenOutcome) :
    (live.shareStart start request outcome).1.ClosedIfIdle := by
  unfold Live.shareStart
  split
  · exact h
  · split
    · exact h
    · split
      · exact h
      · split
        · exact closedIfIdle_closeIfIdle _
        · split
          · exact closedIfIdle_closeIfIdle _
          · exact closedIfIdle_of_capture .screen rfl

theorem Live.ClosedIfIdle.cameraStart (h : live.ClosedIfIdle) (start : Nat)
    (outcome : CameraOutcome) : (live.cameraStart start outcome).1.ClosedIfIdle := by
  unfold Live.cameraStart
  split
  · exact h
  · split
    · exact h
    · split
      · exact closedIfIdle_closeIfIdle _
      · split
        · exact closedIfIdle_closeIfIdle _
        · exact closedIfIdle_of_capture .camera rfl

theorem Live.ClosedIfIdle.step {sharing : Sharing} (h : sharing.live.ClosedIfIdle) (c : Command) :
    (sharing.step c).live.ClosedIfIdle := by
  cases c with
  | shareStart request outcome => exact h.shareStart sharing.starts request outcome
  | cameraStart outcome => exact h.cameraStart sharing.starts outcome
  | shareStop => exact closedIfIdle_closeIfIdle _
  | cameraStop => exact closedIfIdle_closeIfIdle _
  | gaveUp source => exact closedIfIdle_closeIfIdle _

/-- Without a connection nothing is on the air. -/
theorem Live.ClosedIfIdle.tracks (h : live.ClosedIfIdle)
    (hoff : ∀ source, live.capture source = none) (source : PublicationSource) :
    live.tracks source = [] := by
  rw [Live.tracks, h hoff]

end ClosedIfIdle

end Core

/-! ## Calls of `leave` -/

namespace OwnRoom

/-- The call is in its `leave`. -/
def Call.inLeave : Call → Bool
  | stop _ (.leave _ _) => true
  | stopped _ (.leave _ _) => true
  | disconnecting _ => true
  | _ => false

namespace World

/-- The step is a call of `leave`. -/
def CallsLeave (w : World) : Act → Prop
  | .follow channelId => channelId ≠ w.channelId
  | .signOut => True
  | _ => False

/-- A `leave` is done with the step: it had nothing to await, or has nothing more. -/
def EndsLeave (w : World) : Act → Prop
  | .follow channelId => channelId ≠ w.channelId ∧ w.session.sharing = false ∧ w.room = false
  | .signOut => w.session.sharing = false ∧ w.room = false
  | .stopped source (.leave next room) =>
      room = false ∧ .stopped source (.leave next room) ∈ w.calls
  | .disconnected next => .disconnecting next ∈ w.calls
  | _ => False

/-- A start goes through in the core with the step. -/
def Starts (w : World) : Act → Prop
  | .native command channelId =>
      .native command.source channelId ∈ w.calls ∧ w.core.Starts command
  | _ => False

instance (w : World) (act : Act) : Decidable (w.CallsLeave act) :=
  match act with
  | .follow _ => inferInstanceAs (Decidable (_ ≠ _))
  | .signOut => .isTrue trivial
  | .start _ | .stop _ | .switch _ | .changePreset | .granted _ _ _ | .native _ _
  | .answered _ _ | .nativeStop _ _ | .stopped _ _ | .disconnected _ | .left _ | .replaced
  | .joined _ | .connected _ => .isFalse id

instance (w : World) (act : Act) : Decidable (w.EndsLeave act) :=
  match act with
  | .follow _ | .signOut | .stopped _ (.leave _ _) => inferInstanceAs (Decidable (_ ∧ _))
  | .disconnected _ => inferInstanceAs (Decidable (_ ∈ _))
  | .stopped _ .done | .stopped _ .restart | .start _ | .stop _ | .switch _ | .changePreset
  | .granted _ _ _ | .native _ _ | .answered _ _ | .nativeStop _ _ | .left _ | .replaced
  | .joined _ | .connected _ => .isFalse id

instance (w : World) (act : Act) : Decidable (w.Starts act) :=
  match act with
  | .native _ _ => inferInstanceAs (Decidable (_ ∧ _))
  | .follow _ | .signOut | .start _ | .stop _ | .switch _ | .changePreset | .granted _ _ _
  | .answered _ _ | .nativeStop _ _ | .stopped _ _ | .disconnected _ | .left _ | .replaced
  | .joined _ | .connected _ => .isFalse id

end World

end OwnRoom

namespace Leave

open OwnRoom (Next After)
open Desktop.Core (Command)

/-! ## The session, with what comes from outside -/

structure World where
  client : OwnRoom.World
  /-- `share://ended` events on their way. -/
  events : List PublicationSource

inductive Act where
  /-- A call of the session begins, or goes on. -/
  | call (act : OwnRoom.Act)
  /-- What `give_up` has scheduled runs in the core. -/
  | release (source : PublicationSource)
  /-- An event arrives. -/
  | ended (source : PublicationSource)
  /-- The viewing connection is lost, or the timer's `connect` failed. -/
  | scheduleRejoin
  /-- The timer fires. -/
  | rejoin

/-- The core takes something off the air by the step. -/
def Act.takesDown : Act → Bool
  | call (.nativeStop _ _) => true
  | release _ => true
  | _ => false

/-- The core is going to stop the source. -/
def Halting (calls : List OwnRoom.Call) (source : PublicationSource) : Prop :=
  ∃ call ∈ calls, call.stops source = true

/-- A `leave` is under way. -/
def Leaving (calls : List OwnRoom.Call) : Prop :=
  ∃ call ∈ calls, call.inLeave = true

instance (calls : List OwnRoom.Call) (source : PublicationSource) :
    Decidable (Halting calls source) :=
  inferInstanceAs (Decidable (∃ call ∈ calls, _))

instance (calls : List OwnRoom.Call) : Decidable (Leaving calls) :=
  inferInstanceAs (Decidable (∃ call ∈ calls, _))

namespace World

def new : World := ⟨.new, []⟩

/-- One timer at a time, and only in a channel. -/
def scheduleRejoin (w : World) : World :=
  if w.client.channelId.isSome then
    { w with client := { w.client with session := w.client.session.scheduleRejoin } }
  else
    w

def rejoin (w : World) : World :=
  if w.client.session.rejoinTimer then
    let client := { w.client with session := { w.client.session with rejoinTimer := false } }
    { w with client := if client.channelId.isSome then client.connect else client }
  else
    w

def step (w : World) : Act → World
  | .call act => { w with client := w.client.step act }
  | .release source =>
      { client := { w.client with core := w.client.core.step (.gaveUp source) }
        events := source :: w.events }
  | .ended source =>
      if source ∈ w.events then
        { client := { w.client with session := w.client.session.ended source }
          events := w.events.erase source }
      else
        w
  | .scheduleRejoin => w.scheduleRejoin
  | .rejoin => w.rejoin

/-- The source is captured, or has a track on the publishing connection. -/
def OnAir (w : World) (source : PublicationSource) : Prop :=
  (w.client.core.live.capture source).isSome = true ∨ w.client.core.live.tracks source ≠ []

/-- The step is a call of `leave`. -/
def CallsLeave (w : World) : Act → Prop
  | .call act => w.client.CallsLeave act
  | .release _ | .ended _ | .scheduleRejoin | .rejoin => False

/-- A `leave` is done with the step. -/
def EndsLeave (w : World) : Act → Prop
  | .call act => w.client.EndsLeave act
  | .release _ | .ended _ | .scheduleRejoin | .rejoin => False

/-- A start goes through in the core with the step. -/
def Starts (w : World) : Act → Prop
  | .call act => w.client.Starts act
  | .release _ | .ended _ | .scheduleRejoin | .rejoin => False

/-- With a call of `leave` every source that is on the air is going to be stopped; at its
end none is on the air, and the store shows neither. -/
structure TakesEverythingOff (w : World) (act : Act) : Prop where
  issued : w.CallsLeave act → ∀ source, w.OnAir source → Halting (w.step act).client.calls source
  off : w.EndsLeave act → ∀ source,
    ¬ (w.step act).OnAir source ∧ (w.step act).client.session.shows source = false

/-- What the step must not do. -/
structure Orderly (w : World) (act : Act) : Prop where
  known : w.CallsLeave act → ∀ source, w.OnAir source →
    source = .screen ∧ w.client.session.sharing = true ∨ Halting w.client.calls source
  quiet : w.Starts act → ¬ Leaving w.client.calls
  awaited : w.EndsLeave act → ∀ source, w.OnAir source → ¬ Halting w.client.calls source

instance (w : World) (source : PublicationSource) : Decidable (w.OnAir source) :=
  inferInstanceAs (Decidable (_ ∨ _))

instance (w : World) (act : Act) : Decidable (w.CallsLeave act) :=
  match act with
  | .call act => inferInstanceAs (Decidable (w.client.CallsLeave act))
  | .release _ | .ended _ | .scheduleRejoin | .rejoin => .isFalse id

instance (w : World) (act : Act) : Decidable (w.EndsLeave act) :=
  match act with
  | .call act => inferInstanceAs (Decidable (w.client.EndsLeave act))
  | .release _ | .ended _ | .scheduleRejoin | .rejoin => .isFalse id

instance (w : World) (act : Act) : Decidable (w.Starts act) :=
  match act with
  | .call act => inferInstanceAs (Decidable (w.client.Starts act))
  | .release _ | .ended _ | .scheduleRejoin | .rejoin => .isFalse id

instance (w : World) (act : Act) : Decidable (w.Orderly act) :=
  decidable_of_iff
    ((w.CallsLeave act → ∀ source, w.OnAir source →
        source = .screen ∧ w.client.session.sharing = true ∨ Halting w.client.calls source) ∧
      (w.Starts act → ¬ Leaving w.client.calls) ∧
      (w.EndsLeave act → ∀ source, w.OnAir source → ¬ Halting w.client.calls source))
    ⟨fun h => ⟨h.1, h.2.1, h.2.2⟩, fun h => ⟨h.known, h.quiet, h.awaited⟩⟩

instance (w : World) (act : Act) : Decidable (w.TakesEverythingOff act) :=
  decidable_of_iff
    ((w.CallsLeave act → ∀ source, w.OnAir source →
        Halting (w.step act).client.calls source) ∧
      (w.EndsLeave act → ∀ source,
        ¬ (w.step act).OnAir source ∧ (w.step act).client.session.shows source = false))
    ⟨fun h => ⟨h.1, h.2⟩, fun h => ⟨h.issued, h.off⟩⟩

/-! ## What the pieces do to the calls -/

/-- The stops that wait still wait, and no `leave` has begun. -/
structure Kept (calls calls' : List OwnRoom.Call) : Prop where
  halting : ∀ source, Halting calls source → Halting calls' source
  leaving : Leaving calls' → Leaving calls

section Pieces

variable {calls calls' : List OwnRoom.Call} {call : OwnRoom.Call} {client : OwnRoom.World}
  {source s : PublicationSource} {next : Next} {after : After}

theorem Kept.refl (calls : List OwnRoom.Call) : Kept calls calls :=
  ⟨fun _ h => h, fun h => h⟩

theorem halting_cons :
    Halting (call :: calls) source ↔ call.stops source = true ∨ Halting calls source :=
  List.exists_mem_cons_iff _ call calls

theorem leaving_cons : Leaving (call :: calls) ↔ call.inLeave = true ∨ Leaving calls :=
  List.exists_mem_cons_iff _ call calls

/-- Another call may be begun, in a `leave` only if one was under way. -/
theorem Kept.cons (h : Kept calls calls') (hleave : call.inLeave = true → Leaving calls) :
    Kept calls (call :: calls') where
  halting source hhalting := halting_cons.mpr (.inr (h.halting source hhalting))
  leaving hleaving := (leaving_cons.mp hleaving).elim hleave h.leaving

theorem halting_erase (h : Halting calls source) (call : OwnRoom.Call) :
    Halting (calls.erase call) source ∨ call.stops source = true := by
  obtain ⟨other, hmem, hstops⟩ := h
  by_cases heq : other = call
  · subst heq
    exact .inr hstops
  · exact .inl ⟨other, (List.mem_erase_of_ne heq).mpr hmem, hstops⟩

theorem Leaving.of_erase (h : Leaving (calls.erase call)) : Leaving calls := by
  obtain ⟨other, hmem, hleave⟩ := h
  exact ⟨other, List.mem_of_mem_erase hmem, hleave⟩

/-- A call that does not wait for a stop may go on. -/
theorem kept_erase (hstops : ∀ source, call.stops source = false) :
    Kept calls (calls.erase call) where
  halting source h := by
    rcases halting_erase h call with hstill | hstop
    · exact hstill
    · cases (hstops source).symm.trans hstop
  leaving := Leaving.of_erase

theorem Kept.start (h : Kept calls client.calls) (source : PublicationSource) :
    Kept calls (client.start source).calls := by
  unfold OwnRoom.World.start
  split
  · exact h
  · split
    · exact h
    · exact h.cons Bool.noConfusion

theorem Kept.leaveEnd (h : Kept calls client.calls) (next : Next) :
    Kept calls (client.leaveEnd next).calls := by
  cases next with
  | signOut => exact h
  | follow target => exact h.cons Bool.noConfusion

theorem Kept.leaveRoom (h : Kept calls client.calls) (hleaving : Leaving calls) (next : Next)
    (room : Bool) : Kept calls (client.leaveRoom next room).calls := by
  unfold OwnRoom.World.leaveRoom
  split
  · exact h.cons fun _ => hleaving
  · exact h.leaveEnd next

theorem Kept.connect (h : Kept calls client.calls) : Kept calls client.connect.calls := by
  refine Kept.cons h ?_
  cases client.room with
  | true => exact Bool.noConfusion
  | false => exact Bool.noConfusion

theorem Kept.enter (h : Kept calls client.calls) (target : Option Snowflake) :
    Kept calls (client.enter target).calls := by
  unfold OwnRoom.World.enter
  split
  · exact Kept.connect h
  · exact h

theorem Kept.goOn (h : Kept calls client.calls)
    (hleaving : ∀ next room, after = .leave next room → Leaving calls) :
    Kept calls (client.goOn source after).calls := by
  cases after with
  | done => exact h
  | restart => exact h.start source
  | leave next room => exact h.leaveRoom (hleaving next room rfl) next room

/-- Apart from what the core runs and from calls of `leave`, a step keeps the stops that
wait and begins no `leave`. -/
theorem kept_step {act : OwnRoom.Act} (hact : act.commands = false)
    (hcalls : ¬ client.CallsLeave act) : Kept client.calls (client.step act).calls := by
  have hsame : Kept client.calls client.calls := Kept.refl _
  cases act with
  | start source => exact hsame.start source
  | stop source =>
      rw [OwnRoom.World.step]
      split
      · exact hsame.cons Bool.noConfusion
      · exact hsame
  | switch source =>
      rw [OwnRoom.World.step]
      split
      · exact hsame.cons Bool.noConfusion
      · exact hsame.start source
  | changePreset =>
      rw [OwnRoom.World.step]
      split
      · exact hsame.cons Bool.noConfusion
      · exact hsame
  | follow target =>
      rw [OwnRoom.World.step, if_pos (Classical.not_not.mp hcalls)]
      exact hsame
  | signOut => exact absurd trivial hcalls
  | granted source channelId token =>
      rw [OwnRoom.World.step]
      split
      · cases token with
        | true => exact (kept_erase fun _ => rfl).cons Bool.noConfusion
        | false => exact kept_erase fun _ => rfl
      · exact hsame
  | native c channelId => cases hact
  | answered source succeeded =>
      rw [OwnRoom.World.step]
      split
      · exact kept_erase fun _ => rfl
      · exact hsame
  | nativeStop source after => cases hact
  | stopped source after =>
      rw [OwnRoom.World.step]
      split
      · next hmem =>
          refine Kept.goOn (kept_erase fun _ => rfl) fun next room hafter => ?_
          subst hafter
          exact ⟨_, hmem, rfl⟩
      · exact hsame
  | disconnected next =>
      rw [OwnRoom.World.step]
      split
      · exact Kept.leaveEnd (kept_erase fun _ => rfl) next
      · exact hsame
  | left target =>
      rw [OwnRoom.World.step]
      split
      · exact Kept.enter (kept_erase fun _ => rfl) target
      · exact hsame
  | replaced =>
      rw [OwnRoom.World.step]
      split
      · exact (kept_erase fun _ => rfl).cons Bool.noConfusion
      · exact hsame
  | joined token =>
      rw [OwnRoom.World.step]
      split
      · cases token with
        | true => exact (kept_erase fun _ => rfl).cons Bool.noConfusion
        | false => exact kept_erase fun _ => rfl
      · exact hsame
  | connected succeeded =>
      rw [OwnRoom.World.step]
      split
      · cases succeeded with
        | true => exact kept_erase fun _ => rfl
        | false => exact kept_erase fun _ => rfl
      · exact hsame

end Pieces

/-! ## A leave that is under way -/

/-- What orderly steps keep: under a `leave`, everything that is captured is being stopped. -/
structure Inv (w : World) : Prop where
  connected : w.client.core.live.Connected
  closed : w.client.core.live.ClosedIfIdle
  stopping : Leaving w.client.calls → ∀ source,
    (w.client.core.live.capture source).isSome = true → Halting w.client.calls source

theorem inv_new : Inv new where
  connected source hlive := by
    cases source with
    | screen => exact absurd rfl hlive
    | camera => exact absurd rfl hlive
  closed _ := rfl
  stopping hleaving := by
    obtain ⟨call, hmem, -⟩ := hleaving
    cases hmem

section Steps

variable {w w' : World} {source : PublicationSource} {act : Act}

/-- Where the stops that wait still wait and nothing more is captured. -/
theorem Inv.of_kept (h : Inv w) (hkept : Kept w.client.calls w'.client.calls)
    (hcore : w'.client.core = w.client.core) : Inv w' where
  connected := by
    rw [hcore]
    exact h.connected
  closed := by
    rw [hcore]
    exact h.closed
  stopping hleaving source hlive := by
    rw [hcore] at hlive
    exact hkept.halting source (h.stopping (hkept.leaving hleaving) source hlive)

theorem Inv.of_same (h : Inv w) (hsame : w'.client = w.client) : Inv w' :=
  h.of_kept (hsame ▸ .refl _) (congrArg OwnRoom.World.core hsame)

/-- `leave` sends a stop for the screen it knows of, and for nothing else. -/
theorem halting_leave (next : Next) (client : OwnRoom.World) (source : PublicationSource) :
    Halting (client.leave next).calls source ↔
      source = .screen ∧ client.session.sharing = true ∨ Halting client.calls source := by
  unfold OwnRoom.World.leave
  dsimp only
  split
  · next hsharing =>
      refine halting_cons.trans (or_congr_left ?_)
      simp [OwnRoom.Call.stops, hsharing, eq_comm]
  · next hsharing =>
      have hnone : ∀ call : OwnRoom.Call, call.stops source = false →
          (Halting (call :: client.calls) source ↔
            source = .screen ∧ client.session.sharing = true ∨ Halting client.calls source) := by
        intro call hstops
        refine halting_cons.trans (or_congr_left ?_)
        simp [hstops, hsharing]
      unfold OwnRoom.World.leaveRoom
      split
      · exact hnone _ rfl
      · cases next with
        | follow target => exact hnone _ rfl
        | signOut =>
            refine (or_iff_right ?_).symm
            rintro ⟨-, hshared⟩
            exact hsharing hshared

/-- What a call of `leave` leads to. -/
theorem step_of_callsLeave (h : w.CallsLeave act) :
    ∃ next, (w.step act).client = w.client.leave next := by
  cases act with
  | call act =>
      cases act with
      | follow target => exact ⟨.follow target, if_neg h⟩
      | signOut => exact ⟨.signOut, rfl⟩
      | _ => cases h
  | _ => cases h

theorem halting_step_of_callsLeave (h : w.CallsLeave act) (source : PublicationSource) :
    Halting (w.step act).client.calls source ↔
      source = .screen ∧ w.client.session.sharing = true ∨ Halting w.client.calls source := by
  obtain ⟨next, hnext⟩ := step_of_callsLeave h
  rw [hnext]
  exact halting_leave next w.client source

theorem core_step_of_callsLeave (h : w.CallsLeave act) :
    (w.step act).client.core = w.client.core := by
  obtain ⟨next, hnext⟩ := step_of_callsLeave h
  rw [hnext]
  exact (OwnRoom.World.core_leave next w.client).1

/-- After an orderly call of `leave` whatever is on the air is being stopped. -/
theorem Orderly.halting (h : w.Orderly act) (hcalls : w.CallsLeave act) (hair : w.OnAir source) :
    Halting (w.step act).client.calls source :=
  (halting_step_of_callsLeave hcalls source).mpr (h.known hcalls source hair)

theorem Inv.ran (h : Inv w) {c : Command} {channelId : Snowflake}
    (hmem : .native c.source channelId ∈ w.client.calls)
    (hquiet : w.Starts (.call (.native c channelId)) → ¬ Leaving w.client.calls)
    (hw' : w'.client = w.client.ran c channelId) : Inv w' where
  connected := by
    rw [hw']
    exact Core.connected_step h.connected
  closed := by
    rw [hw']
    exact h.closed.step c
  stopping hleaving source hlive := by
    rw [hw'] at hleaving hlive ⊢
    have hkept : Kept w.client.calls (w.client.ran c channelId).calls :=
      (kept_erase fun _ => rfl).cons Bool.noConfusion
    have hunder := hkept.leaving hleaving
    obtain ⟨start, hcapture⟩ := Option.isSome_iff_exists.mp hlive
    -- under a leave nothing goes on the air
    rcases Core.live_of_step h.connected hcapture with ⟨hbefore, -⟩ | ⟨-, -, hgoes, -⟩
    · exact hkept.halting source (h.stopping hunder source (by rw [hbefore]; rfl))
    · exact absurd hunder (hquiet ⟨hmem, hgoes⟩)

theorem Inv.halted (h : Inv w) {after : After} (hmem : .stop source after ∈ w.client.calls)
    (hw' : w'.client = w.client.halted source after) : Inv w' where
  connected := by
    rw [hw']
    exact Core.connected_step h.connected
  closed := by
    rw [hw']
    exact h.closed.step (Command.stop source)
  stopping hleaving s hlive := by
    rw [hw'] at hleaving hlive ⊢
    have hunder : Leaving w.client.calls := by
      rcases leaving_cons.mp hleaving with hleave | herased
      · cases after with
        | leave next room => exact ⟨_, hmem, rfl⟩
        | done => cases hleave
        | restart => cases hleave
      · exact Leaving.of_erase herased
    have hcapture : (if s = source then none else w.client.core.live.capture s).isSome = true := by
      rw [← OwnRoom.World.capture_stop]
      exact hlive
    split at hcapture
    · cases hcapture
    · next hs =>
        -- the stop that has run was for the other source
        rcases halting_erase (h.stopping hunder s hcapture) (.stop source after) with
          hstill | hstop
        · exact halting_cons.mpr (.inr hstill)
        · exact absurd (of_decide_eq_true hstop).symm hs

theorem Inv.release (h : Inv w) (source : PublicationSource) : Inv (w.step (.release source)) where
  connected := Core.connected_step h.connected
  closed := h.closed.step (.gaveUp source)
  stopping hleaving s hlive := by
    have hcapture : (if s = source then none else w.client.core.live.capture s).isSome = true := by
      rw [← Core.State.capture_release]
      exact hlive
    split at hcapture
    · cases hcapture
    · exact h.stopping hleaving s hcapture

theorem Inv.step (h : Inv w) (hok : w.Orderly act) : Inv (w.step act) := by
  by_cases hcalls : w.CallsLeave act
  · refine ⟨?_, ?_, fun _ s hlive => hok.halting hcalls (.inl ?_)⟩
    · rw [core_step_of_callsLeave hcalls]
      exact h.connected
    · rw [core_step_of_callsLeave hcalls]
      exact h.closed
    · rw [core_step_of_callsLeave hcalls] at hlive
      exact hlive
  cases act with
  | call act =>
      cases hact : act.commands with
      | false => exact h.of_kept (kept_step hact hcalls) (OwnRoom.World.core_step hact).1
      | true =>
          cases act with
          | native c channelId =>
              by_cases hruns : c.starts = true ∧ .native c.source channelId ∈ w.client.calls
              · exact h.ran hruns.2 hok.quiet (if_pos hruns)
              · have hsame : (w.step (.call (.native c channelId))).client = w.client :=
                  if_neg hruns
                exact h.of_same hsame
          | nativeStop source after =>
              by_cases hmem : .stop source after ∈ w.client.calls
              · exact h.halted hmem (if_pos hmem)
              · have hsame : (w.step (.call (.nativeStop source after))).client = w.client :=
                  if_neg hmem
                exact h.of_same hsame
          | _ => cases hact
  | release source => exact h.release source
  | ended source =>
      rw [World.step]
      split
      · exact h.of_kept (.refl _) rfl
      · exact h
  | scheduleRejoin =>
      rw [World.step, World.scheduleRejoin]
      split
      · exact h.of_kept (.refl _) rfl
      · exact h
  | rejoin =>
      rw [World.step, World.rejoin]
      split
      · dsimp only
        split
        · exact h.of_kept (Kept.connect (.refl _)) rfl
        · exact h.of_kept (.refl _) rfl
      · exact h

/-! ## The end of a leave -/

/-- The end of a `leave` resets the store and nothing in the core; one that had to await
something was under way. -/
theorem endsLeave_spec {client : OwnRoom.World} {act : OwnRoom.Act} (h : client.EndsLeave act) :
    act.commands = false ∧
      (∃ next before, client.step act = OwnRoom.World.leaveEnd next before) ∧
      (client.CallsLeave act ∧ client.session.sharing = false ∨ Leaving client.calls) := by
  have hleave : ∀ next, client.session.sharing = false → client.room = false →
      ∃ before, client.leave next = OwnRoom.World.leaveEnd next before := by
    intro next hsharing hroom
    rw [OwnRoom.World.leave, hsharing, hroom]
    exact ⟨_, rfl⟩
  cases act with
  | follow target =>
      obtain ⟨hne, hsharing, hroom⟩ := h
      refine ⟨rfl, ⟨.follow target, ?_⟩, .inl ⟨hne, hsharing⟩⟩
      rw [OwnRoom.World.step, if_neg hne]
      exact hleave _ hsharing hroom
  | signOut => exact ⟨rfl, ⟨.signOut, hleave _ h.1 h.2⟩, .inl ⟨trivial, h.1⟩⟩
  | stopped source after =>
      cases after with
      | done => cases h
      | restart => cases h
      | leave next room =>
          obtain ⟨rfl, hmem⟩ := h
          exact ⟨rfl, ⟨next, _, if_pos hmem⟩, .inr ⟨_, hmem, rfl⟩⟩
  | disconnected next => exact ⟨rfl, ⟨next, _, if_pos h⟩, .inr ⟨_, h, rfl⟩⟩
  | _ => cases h

theorem shows_leaveEnd (next : Next) (client : OwnRoom.World) (source : PublicationSource) :
    (client.leaveEnd next).session.shows source = false := by
  cases next with
  | signOut => cases source with
    | screen => rfl
    | camera => rfl
  | follow target => cases source with
    | screen => rfl
    | camera => rfl

theorem core_step_of_endsLeave (h : w.EndsLeave act) :
    (w.step act).client.core = w.client.core := by
  cases act with
  | call act => exact (OwnRoom.World.core_step (endsLeave_spec h).1).1
  | _ => cases h

/-- Nothing is captured when an orderly `leave` ends. -/
theorem Inv.off (h : Inv w) (hok : w.Orderly act) (hends : w.EndsLeave act)
    (source : PublicationSource) : w.client.core.live.capture source = none := by
  by_contra hlive
  have hcapture := Option.isSome_iff_ne_none.mpr hlive
  refine hok.awaited hends source (.inl hcapture) ?_
  cases act with
  | call act =>
      rcases (endsLeave_spec hends).2.2 with ⟨hcalls, hsharing⟩ | hleaving
      · rcases hok.known hcalls source (.inl hcapture) with ⟨-, hshared⟩ | hhalting
        · cases hsharing.symm.trans hshared
        · exact hhalting
      · exact h.stopping hleaving source hcapture
  | _ => cases hends

theorem Inv.takesEverythingOff (h : Inv w) (hok : w.Orderly act) : w.TakesEverythingOff act where
  issued hcalls source hair := hok.halting hcalls hair
  off hends source := by
    have hoff := h.off hok hends
    refine ⟨?_, ?_⟩
    · unfold OnAir
      rw [core_step_of_endsLeave hends, h.closed.tracks hoff source, hoff source]
      simp
    · cases act with
      | call act =>
          obtain ⟨next, before, hstep⟩ := (endsLeave_spec hends).2.1
          show (w.client.step act).session.shows source = false
          rw [hstep]
          exact shows_leaveEnd next before source
      | _ => cases hends

/-- In every run of orderly steps, whatever is on the air at a call of `leave` is going to be
stopped, and nothing is on the air when a `leave` ends. -/
theorem takesEverythingOff_of_orderly (acts : List Act) (h : EachStep step Orderly new acts) :
    EachStep step TakesEverythingOff new acts :=
  h.imp (I := Inv) (fun _ _ hinv hok => hinv.takesEverythingOff hok)
    (fun _ _ hinv hok => hinv.step hok) inv_new

/-- Joins the room of channel 5. -/
private def joinsRoom : List OwnRoom.Act :=
  [.follow (some 5), .left (some 5), .joined true, .connected true]

/-- Puts the screen on the air there. -/
private def sharesScreen : List OwnRoom.Act :=
  [.start .screen, .granted .screen 5 true,
    .native (.shareStart ⟨some 1, false⟩ ⟨none, none, none, none, none⟩) 5,
    .answered .screen true]

/-- Puts the camera on the air there. -/
private def showsCamera : List OwnRoom.Act :=
  [.start .camera, .granted .camera 5 true, .native (.cameraStart ⟨none, none, none⟩) 5,
    .answered .camera true]

/-- The camera was asked to stop before, and has stopped when the `leave` ends. -/
theorem takesEverythingOff_of_orderly_signOut :
    EachStep step TakesEverythingOff new
      ((joinsRoom ++ sharesScreen ++ showsCamera ++
        [OwnRoom.Act.stop .camera, OwnRoom.Act.signOut, OwnRoom.Act.nativeStop .camera .done,
          OwnRoom.Act.nativeStop .screen (.leave .signOut true),
          OwnRoom.Act.stopped .screen (.leave .signOut true),
          OwnRoom.Act.disconnected .signOut]).map Act.call) :=
  takesEverythingOff_of_orderly _ (by decide +kernel)

/-- A camera that is on the air when the room is left stays there. -/
theorem camera_outlives_leave :
    ¬ ∀ acts : List Act, EachStep step TakesEverythingOff new acts :=
  fun h => absurd
    (h ((joinsRoom ++ showsCamera ++
      [OwnRoom.Act.signOut, OwnRoom.Act.disconnected .signOut]).map Act.call))
    (by decide +kernel)

/-! ## What a leave leaves on the air -/

/-- The store being reset, the camera cannot be stopped any more. -/
theorem stop_camera_of_endsLeave (h : w.EndsLeave act) :
    (w.step act).step (.call (.stop .camera)) = w.step act := by
  cases act with
  | call act =>
      obtain ⟨next, before, hstep⟩ := (endsLeave_spec h).2.1
      have hoff : (w.client.step act).session.busy .camera = false := by
        rw [hstep]
        exact shows_leaveEnd next before .camera
      have hsame : (w.client.step act).step (.stop .camera) = w.client.step act :=
        if_neg (ne_true_of_eq_false hoff)
      exact congrArg (World.mk · w.events) hsame
  | _ => cases h

theorem captured_step (hact : act.takesDown = false)
    (h : (w.client.core.live.capture source).isSome = true) :
    ((w.step act).client.core.live.capture source).isSome = true := by
  cases act with
  | call act =>
      cases hcommands : act.commands with
      | false =>
          show ((w.client.step act).core.live.capture source).isSome = true
          rw [(OwnRoom.World.core_step hcommands).1]
          exact h
      | true =>
          cases act with
          | native c channelId =>
              show ((w.client.step (.native c channelId)).core.live.capture source).isSome = true
              rw [OwnRoom.World.step]
              split
              · next hruns =>
                  obtain ⟨start, hcapture⟩ := Option.isSome_iff_exists.mp h
                  exact Option.isSome_of_mem (OwnRoom.World.capture_start hruns.1 hcapture)
              · exact h
          | nativeStop s after => cases hact
          | _ => cases hcommands
  | release s => cases hact
  | ended s =>
      rw [World.step]
      split
      · exact h
      · exact h
  | scheduleRejoin =>
      rw [World.step, World.scheduleRejoin]
      split
      · exact h
      · exact h
  | rejoin =>
      rw [World.step, World.rejoin]
      split
      · dsimp only
        split
        · exact h
        · exact h
      · exact h

theorem captured_run {rest : List Act} (hrest : ∀ a ∈ rest, a.takesDown = false) {w : World}
    (h : (w.client.core.live.capture source).isSome = true) :
    ((run step w rest).client.core.live.capture source).isSome = true := by
  induction rest generalizing w with
  | nil => exact h
  | cons a rest ih =>
      exact ih (fun b hb => hrest b (List.mem_cons_of_mem a hb))
        (captured_step (hrest a List.mem_cons_self) h)

/-- A start that goes through puts its source on the air. -/
theorem captured_of_starts (h : w.Starts act) :
    ∃ source, ((w.step act).client.core.live.capture source).isSome = true := by
  cases act with
  | call act =>
      cases act with
      | native c channelId =>
          obtain ⟨hmem, hgoes⟩ := h
          have hruns : (w.client.step (.native c channelId)) = w.client.ran c channelId :=
            if_pos ⟨OwnRoom.World.starts_of_goes hgoes, hmem⟩
          refine ⟨c.source, ?_⟩
          show ((w.client.step (.native c channelId)).core.live.capture c.source).isSome = true
          rw [hruns]
          exact Option.isSome_of_mem (OwnRoom.World.capture_of_starts hgoes)
      | _ => cases h
  | _ => cases h

/-- After a step that is not orderly a `leave` fails, at once or, where nothing more is taken
off the air, when it ends. -/
theorem not_takesEverythingOff_of_disorderly (hbad : ¬ w.Orderly act) {rest : List Act}
    (hrest : ∀ a ∈ rest, a.takesDown = false) {last : Act}
    (hends : (run step (w.step act) rest).EndsLeave last) :
    ¬ (w.TakesEverythingOff act ∧ (run step (w.step act) rest).TakesEverythingOff last) := by
  rintro ⟨hnow, hlast⟩
  apply hbad
  refine ⟨fun hcalls source hair => ?_, fun hstarts => ?_, fun hends source hair => ?_⟩
  · exact (halting_step_of_callsLeave hcalls source).mp (hnow.issued hcalls source hair)
  · obtain ⟨source, hlive⟩ := captured_of_starts hstarts
    refine absurd (.inl ?_) (hlast.off hends source).1
    rw [core_step_of_endsLeave hends]
    exact captured_run hrest hlive
  · refine absurd ?_ (hnow.off hends source).1
    unfold OnAir
    rw [core_step_of_endsLeave hends]
    exact hair

end Steps

end World

end Leave
end Desktop
end Ldktela
