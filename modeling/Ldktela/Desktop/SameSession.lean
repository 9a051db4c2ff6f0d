import Ldktela.Desktop.Follow
import Ldktela.Desktop.OwnRoom
import Ldktela.Desktop.Sampling
import Ldktela.Lib.Simulation

/-!
# One session, described three times

`leave` and `follow` of `desktop/src/media/session.ts` are in three descriptions of the session.
`Desktop.Follow` numbers every `Room` that is created, `Desktop.OwnRoom` has the starts and stops
of our own publications beside them, and `Desktop.SessionTurns` the store, with a `follow` that
nothing interrupts.

What the second does while no connection is refused, the first does as well, and the same channels
are announced (`same_run`).  The third does what the pieces of the second do one after the other
(`seen_leave`, `seen_follow`).
-/

namespace Ldktela
namespace Desktop
namespace SameSession

open Protocol Runs
open Follow (Session)

/-! ## With and without the rooms -/

/-- What a call of `follow` awaits, without its rooms. -/
def shape : Follow.Call → OwnRoom.Call
  | .stopping target room => .stop .screen (.leave (.follow target) room.isSome)
  | .leaving target _ => .disconnecting (.follow target)
  | .left target => .left target
  | .replacing _ _ => .replacing
  | .token _ => .joining
  | .connecting _ => .connecting

/-- The call as one of a `follow`, if it is; a stop is awaited until the core has answered. -/
def ofFollow : OwnRoom.Call → Option OwnRoom.Call
  | .stop source (.leave (.follow target) room) =>
      some (.stop source (.leave (.follow target) room))
  | .stopped source (.leave (.follow target) room) =>
      some (.stop source (.leave (.follow target) room))
  | .disconnecting (.follow target) => some (.disconnecting (.follow target))
  | .left target => some (.left target)
  | .replacing => some .replacing
  | .joining => some .joining
  | .connecting => some .connecting
  | _ => none

structure Same (s : Session) (w : OwnRoom.World) : Prop where
  channelId : s.channelId = w.channelId
  room : s.room.isSome = w.room
  sharing : s.sharing = w.session.sharing
  calls : List.Perm (s.calls.map shape) (w.calls.filterMap ofFollow)

/-- The channels that are announced. -/
def follows : Follow.Act → List (Option Snowflake)
  | .follow channelId => [channelId]
  | _ => []

def announces : OwnRoom.Act → List (Option Snowflake)
  | .follow channelId => [channelId]
  | _ => []

/-- Nobody signs out, and no connection is refused. -/
def Plain : OwnRoom.Act → Prop
  | .signOut => False
  | .joined token => token = true
  | .connected succeeded => succeeded = true
  | _ => True

/-- The session of `Follow` gets there too, and the same channels are announced on the way. -/
def Reaches (s : Session) (announced : List (Option Snowflake)) (w : OwnRoom.World) : Prop :=
  ∃ acts, acts.flatMap follows = announced ∧ Same (run Session.step s acts) w

variable {s : Session} {w w' : OwnRoom.World}

theorem same_new : Same .new .new := ⟨rfl, rfl, rfl, .nil⟩

/-! ### What goes on beside it -/

/-- No call of a `follow` begins or goes on. -/
structure Beside (w w' : OwnRoom.World) : Prop where
  channelId : w'.channelId = w.channelId
  room : w'.room = w.room
  calls : List.Perm (w'.calls.filterMap ofFollow) (w.calls.filterMap ofFollow)

theorem Beside.refl (w : OwnRoom.World) : Beside w w := ⟨rfl, rfl, .refl _⟩

theorem Beside.trans {w'' : OwnRoom.World} (h : Beside w w') (h' : Beside w' w'') : Beside w w'' :=
  ⟨h'.channelId.trans h.channelId, h'.room.trans h.room, h'.calls.trans h.calls⟩

/-- Only the sharing may be seen to change. -/
theorem Same.beside (h : Same s w) (hbeside : Beside w w') : Reaches s [] w' := by
  refine ⟨[.sharing w'.session.sharing], rfl, ?_⟩
  exact
    { channelId := h.channelId.trans hbeside.channelId.symm
      room := h.room.trans hbeside.room.symm
      sharing := rfl
      calls := h.calls.trans hbeside.calls.symm }

/-- An act whose turn it is not does nothing. -/
theorem Same.guarded {p : Prop} [Decidable p] (h : Same s w) (hthen : p → Reaches s [] w') :
    Reaches s [] (if p then w' else w) := by
  by_cases hp : p
  · rw [if_pos hp]
    exact hthen hp
  · rw [if_neg hp]
    exact h.beside (.refl w)

theorem beside_await {call : OwnRoom.Call} (h : ofFollow call = none) :
    Beside w (w.await call) := by
  refine ⟨rfl, rfl, ?_⟩
  show List.Perm ((call :: w.calls).filterMap ofFollow) _
  rw [List.filterMap_cons_none h]

theorem beside_resumed {call : OwnRoom.Call} (hmem : call ∈ w.calls) (h : ofFollow call = none) :
    Beside w (w.resumed call) := by
  have hcalls := (List.perm_cons_erase hmem).filterMap ofFollow
  rw [List.filterMap_cons_none h] at hcalls
  exact ⟨rfl, rfl, hcalls.symm⟩

theorem beside_start (source : PublicationSource) (w : OwnRoom.World) :
    Beside w (w.start source) := by
  unfold OwnRoom.World.start
  split
  · exact .refl w
  · split
    · exact .refl w
    · exact beside_await rfl

theorem beside_halt {source : PublicationSource} {after : OwnRoom.After}
    (h : ofFollow (.stop source after) = none) : Beside w (w.halt source after) := by
  have hcleared : Beside w { w with session := w.session.cleared source } := ⟨rfl, rfl, .refl _⟩
  exact hcleared.trans (beside_await h)

theorem beside_ran {command : Core.Command} {channelId : Snowflake}
    (hmem : .native command.source channelId ∈ w.calls) :
    Beside w (w.ran command channelId) := by
  have hresumed := beside_resumed hmem rfl
  refine ⟨rfl, rfl, ?_⟩
  show List.Perm ((.answered _ _ :: (w.resumed _).calls).filterMap ofFollow) _
  rw [List.filterMap_cons_none rfl]
  exact hresumed.calls

theorem ofFollow_stopped (source : PublicationSource) (after : OwnRoom.After) :
    ofFollow (.stopped source after) = ofFollow (.stop source after) := by
  cases after with
  | done => rfl
  | restart => rfl
  | leave next room => cases next <;> rfl

/-- What a stop awaits is the same before and after the core has run it. -/
theorem beside_halted {source : PublicationSource} {after : OwnRoom.After}
    (hmem : .stop source after ∈ w.calls) : Beside w (w.halted source after) := by
  refine ⟨rfl, rfl, ?_⟩
  have hcalls := (List.perm_cons_erase hmem).filterMap ofFollow
  refine List.Perm.trans ?_ hcalls.symm
  show List.Perm ((.stopped source after :: w.calls.erase (.stop source after)).filterMap ofFollow)
    _
  rw [List.filterMap_cons, List.filterMap_cons, ofFollow_stopped]

/-! ### A call of a `follow` -/

theorem Same.await (h : Same s w) {c : Follow.Call} {call : OwnRoom.Call}
    (hshape : ofFollow call = some (shape c)) : Same (s.await c) (w.await call) := by
  refine ⟨h.channelId, h.room, h.sharing, ?_⟩
  show List.Perm ((c :: s.calls).map shape) ((call :: w.calls).filterMap ofFollow)
  rw [List.map_cons, List.filterMap_cons_some hshape]
  exact h.calls.cons _

/-- The call has its like in the other description, and both go on. -/
theorem Same.resumed (h : Same s w) {call shaped : OwnRoom.Call} (hmem : call ∈ w.calls)
    (hshape : ofFollow call = some shaped) :
    ∃ c ∈ s.calls, shape c = shaped ∧
      Same { s with calls := s.calls.erase c } (w.resumed call) := by
  have hthere : shaped ∈ s.calls.map shape :=
    h.calls.mem_iff.mpr (List.mem_filterMap.mpr ⟨call, hmem, hshape⟩)
  obtain ⟨c, hc, rfl⟩ := List.mem_map.mp hthere
  have hleft := (List.perm_cons_erase hc).map shape
  have hright := (List.perm_cons_erase hmem).filterMap ofFollow
  rw [List.map_cons] at hleft
  rw [List.filterMap_cons_some hshape] at hright
  exact ⟨c, hc, rfl, h.channelId, h.room, h.sharing,
    (hleft.symm.trans (h.calls.trans hright)).cons_inv⟩

/-- One piece of `Follow` is the piece that is taken. -/
theorem Reaches.resume {c : Follow.Call} (hc : c ∈ s.calls) (h : Same (s.resume c) w) :
    Reaches s [] w := by
  refine ⟨[.resume c], rfl, ?_⟩
  show Same (s.step (.resume c)) w
  rw [Session.step, if_pos hc]
  exact h

theorem Same.leaveRoom (h : Same s w) (target : Option Snowflake) (room : Option Nat) :
    Same (s.await (Session.leaveRoom target room))
      (w.leaveRoom (.follow target) room.isSome) := by
  cases room with
  | some r => exact h.await rfl
  | none =>
      have hended : Same s { w with session :=
          { w.session with publishing := false, cameraPublishing := false } } :=
        ⟨h.channelId, h.room, h.sharing, h.calls⟩
      exact hended.await rfl

theorem Same.leave (h : Same s w) (target : Option Snowflake) :
    Same (s.leave target) (w.leave (.follow target)) := by
  have hleft : Same { s with channelId := none, room := none, sharing := false }
      { w with
        session := { w.session with sharing := false, rejoinTimer := false }
        channelId := none
        room := false } := ⟨rfl, rfl, rfl, h.calls⟩
  unfold Session.leave OwnRoom.World.leave
  rw [← h.sharing, ← h.room]
  cases s.sharing with
  | true => exact hleft.await rfl
  | false => exact hleft.leaveRoom target s.room

theorem Same.connect (h : Same s w) (channelId : Snowflake) :
    Same (s.connect channelId) w.connect := by
  have hleft : Same { s with room := none } { w with room := false } :=
    ⟨h.channelId, rfl, h.sharing, h.calls⟩
  unfold Session.connect OwnRoom.World.connect
  rw [← h.room]
  cases s.room with
  | some previous => exact hleft.await rfl
  | none => exact hleft.await rfl

/-! ### One step and a run -/

theorem Same.stopped (h : Same s w) {source : PublicationSource} {after : OwnRoom.After}
    (hmem : .stopped source after ∈ w.calls) :
    Reaches s [] ((w.resumed (.stopped source after)).goOn source after) := by
  cases after with
  | done => exact h.beside (beside_resumed hmem rfl)
  | restart => exact h.beside ((beside_resumed hmem rfl).trans (beside_start source _))
  | leave next room =>
      cases next with
      | signOut =>
          refine h.beside ((beside_resumed hmem rfl).trans ?_)
          cases room with
          | true => exact beside_await rfl
          | false => exact ⟨rfl, rfl, .refl _⟩
      | follow target =>
          obtain ⟨c, hc, hshape, hsame⟩ := h.resumed hmem rfl
          cases c with
          | stopping target' room' =>
              simp only [shape, OwnRoom.Call.stop.injEq, OwnRoom.After.leave.injEq,
                OwnRoom.Next.follow.injEq] at hshape
              obtain ⟨-, rfl, rfl⟩ := hshape
              exact .resume hc (hsame.leaveRoom target' room')
          | _ => cases hshape

theorem Same.disconnect (h : Same s w) (r : Nat) : Same (s.disconnect r) w :=
  ⟨h.channelId, h.room, h.sharing, h.calls⟩

theorem Same.disconnected (h : Same s w) {next : OwnRoom.Next}
    (hmem : .disconnecting next ∈ w.calls) :
    Reaches s [] ((w.resumed (.disconnecting next)).leaveEnd next) := by
  cases next with
  | signOut => exact h.beside ((beside_resumed hmem rfl).trans ⟨rfl, rfl, .refl _⟩)
  | follow target =>
      obtain ⟨c, hc, hshape, hsame⟩ := h.resumed hmem rfl
      cases c with
      | leaving target' r =>
          simp only [shape, OwnRoom.Call.disconnecting.injEq, OwnRoom.Next.follow.injEq] at hshape
          obtain rfl := hshape
          have hended := hsame.leaveRoom target' none
          exact .resume hc ⟨hended.channelId, hended.room, hended.sharing, hended.calls⟩
      | _ => cases hshape

theorem Same.replaced (h : Same s w) (hmem : .replacing ∈ w.calls) :
    Reaches s [] ((w.resumed .replacing).await .joining) := by
  obtain ⟨c, hc, hshape, hsame⟩ := h.resumed hmem rfl
  cases c with
  | replacing channelId previous => exact .resume hc ((hsame.disconnect previous).await rfl)
  | _ => cases hshape

theorem Same.joined (h : Same s w) (hmem : .joining ∈ w.calls) :
    Reaches s [] ({ w.resumed .joining with room := true }.await .connecting) := by
  obtain ⟨c, hc, hshape, hsame⟩ := h.resumed hmem rfl
  cases c with
  | token channelId =>
      refine .resume hc (Same.await ?_ rfl)
      exact ⟨hsame.channelId, rfl, hsame.sharing, hsame.calls⟩
  | _ => cases hshape

theorem Same.connected (h : Same s w) (hmem : .connecting ∈ w.calls) :
    Reaches s [] (w.resumed .connecting) := by
  obtain ⟨c, hc, hshape, hsame⟩ := h.resumed hmem rfl
  cases c with
  | connecting r => exact .resume hc ⟨hsame.channelId, hsame.room, hsame.sharing, hsame.calls⟩
  | _ => cases hshape

theorem Same.entered (h : Same s w) {target : Option Snowflake} (hmem : .left target ∈ w.calls) :
    Reaches s [] ((w.resumed (.left target)).enter target) := by
  obtain ⟨c, hc, hshape, hsame⟩ := h.resumed hmem rfl
  cases c with
  | left target' =>
      obtain rfl := OwnRoom.Call.left.inj hshape
      cases target' with
      | none => exact .resume hc ⟨rfl, hsame.room, hsame.sharing, hsame.calls⟩
      | some channelId =>
          have hthere : Same { s with
              calls := s.calls.erase (.left (some channelId)), channelId := some channelId }
              { w.resumed (.left (some channelId)) with channelId := some channelId } :=
            ⟨rfl, hsame.room, hsame.sharing, hsame.calls⟩
          exact .resume hc (hthere.connect channelId)
  | _ => cases hshape

theorem same_step (h : Same s w) (act : OwnRoom.Act) (hplain : Plain act) :
    Reaches s (announces act) (w.step act) := by
  cases act with
  | start source => exact h.beside (beside_start source w)
  | stop source => exact h.guarded fun _ => h.beside (beside_halt rfl)
  | switch source =>
      simp only [OwnRoom.World.step]
      split
      · exact h.beside (beside_halt rfl)
      · exact h.beside (beside_start source w)
  | changePreset => exact h.guarded fun _ => h.beside (beside_halt rfl)
  | follow channelId =>
      refine ⟨[.follow channelId], rfl, ?_⟩
      show Same (s.follow channelId) _
      have hannounced : Same { s with announced := channelId } w :=
        ⟨h.channelId, h.room, h.sharing, h.calls⟩
      by_cases hsame : channelId = s.channelId
      · rw [Session.follow, if_pos hsame, OwnRoom.World.step, if_pos (hsame.trans h.channelId)]
        exact hannounced
      · rw [Session.follow, if_neg hsame, OwnRoom.World.step,
          if_neg fun heq => hsame (heq.trans h.channelId.symm)]
        exact hannounced.leave channelId
  | signOut => exact hplain.elim
  | granted source channelId token =>
      refine h.guarded fun hmem => ?_
      have hresumed := beside_resumed hmem rfl
      cases token with
      | true => exact h.beside (hresumed.trans (beside_await rfl))
      | false => exact h.beside hresumed
  | native command channelId => exact h.guarded fun hrun => h.beside (beside_ran hrun.2)
  | answered source succeeded =>
      exact h.guarded fun hmem =>
        h.beside ((beside_resumed hmem rfl).trans ⟨rfl, rfl, .refl _⟩)
  | nativeStop source after => exact h.guarded fun hmem => h.beside (beside_halted hmem)
  | stopped source after => exact h.guarded fun hmem => h.stopped hmem
  | disconnected next => exact h.guarded fun hmem => h.disconnected hmem
  | left target => exact h.guarded fun hmem => h.entered hmem
  | replaced => exact h.guarded fun hmem => h.replaced hmem
  | joined token =>
      obtain rfl : token = true := hplain
      exact h.guarded fun hmem => h.joined hmem
  | connected succeeded =>
      obtain rfl : succeeded = true := hplain
      exact h.guarded fun hmem => h.connected hmem

/-- What `OwnRoom` does while no connection is refused, `Follow` does, with the same channels
announced. -/
theorem same_run (acts : List OwnRoom.Act) (h : ∀ act ∈ acts, Plain act) :
    ∃ acts', acts'.flatMap follows = acts.flatMap announces ∧
      Same (run Session.step .new acts') (run OwnRoom.World.step .new acts) := by
  have hok : EachStep OwnRoom.World.step (fun _ act => Plain act) .new acts :=
    eachStep_of_forall_mem (fun act hact _ => h act hact) _
  exact run_simulated (R := fun w s => Same s w) (fun w s act hsame => same_step hsame act)
    same_new hok

/-! ## With the store, and nothing in between -/

section Alone

open SessionTurns (Client LiveKit)

variable {Stats : Type} {c : Client Stats}

/-- Where we are, and what is known of our own publications. -/
structure Seen (c : Client Stats) (w : OwnRoom.World) : Prop where
  channelId : c.channelId = w.channelId
  sharing : c.sharing.isSome = w.session.sharing
  camera : c.store.camera.publishing = w.session.cameraPublishing

/-- What is under way goes on to there. -/
def Goes (w w' : OwnRoom.World) : Prop :=
  ∃ acts : List OwnRoom.Act, (∀ act ∈ acts, act.completes = true) ∧
    run OwnRoom.World.step w acts = w'

theorem Goes.refl (w : OwnRoom.World) : Goes w w := ⟨[], by simp, rfl⟩

theorem Goes.trans {w'' : OwnRoom.World} (h : Goes w w') (h' : Goes w' w'') : Goes w w'' := by
  obtain ⟨acts, hacts, rfl⟩ := h
  obtain ⟨acts', hacts', rfl⟩ := h'
  refine ⟨acts ++ acts', fun act hact => ?_, run_append OwnRoom.World.step w acts acts'⟩
  exact (List.mem_append.mp hact).elim (hacts act) (hacts' act)

theorem resumed_await (w : OwnRoom.World) (call : OwnRoom.Call) :
    (w.await call).resumed call = w := by
  simp [OwnRoom.World.await, OwnRoom.World.resumed]

theorem mem_await (w : OwnRoom.World) (call : OwnRoom.Call) : call ∈ (w.await call).calls :=
  List.mem_cons_self

theorem goes_leaveRoom (next : OwnRoom.Next) (room : Bool) (w : OwnRoom.World) :
    Goes (w.leaveRoom next room) (w.leaveEnd next) := by
  cases room with
  | false => exact .refl _
  | true =>
      refine ⟨[.disconnected next], by simp [OwnRoom.Act.completes], ?_⟩
      show (w.await (.disconnecting next)).step (.disconnected next) = _
      rw [OwnRoom.World.step, if_pos (mem_await w _), resumed_await]

/-- The session as `leave` makes it, before it awaits anything. -/
def departed (w : OwnRoom.World) : OwnRoom.World :=
  { w with
    session := { w.session with sharing := false, rejoinTimer := false }
    channelId := none
    room := false }

/-- The core stops the screen and answers. -/
theorem goes_stop (next : OwnRoom.Next) (room : Bool) (w : OwnRoom.World) : ∃ core,
    Goes (w.await (.stop .screen (.leave next room))) ({ w with core }.leaveRoom next room) := by
  refine ⟨w.core.step (Core.Command.stop .screen), [.nativeStop .screen (.leave next room),
    .stopped .screen (.leave next room)], by simp [OwnRoom.Act.completes], ?_⟩
  simp only [run_cons, run_nil, OwnRoom.World.step]
  rw [if_pos (mem_await _ _), OwnRoom.World.halted, resumed_await, if_pos (mem_await _ _),
    resumed_await]
  rfl

/-- `leave` comes to its end. -/
theorem goes_leave (next : OwnRoom.Next) (w : OwnRoom.World) :
    ∃ core, Goes (w.leave next) ({ departed w with core }.leaveEnd next) := by
  unfold OwnRoom.World.leave
  split
  · obtain ⟨core, hstop⟩ := goes_stop next w.room (departed w)
    exact ⟨core, hstop.trans (goes_leaveRoom next w.room _)⟩
  · exact ⟨w.core, goes_leaveRoom next w.room (departed w)⟩

/-- `leave` of the session is that of its pieces, one after the other. -/
theorem seen_leave (w : OwnRoom.World) : ∃ w', Goes (w.step .signOut) w' ∧ w'.calls = w.calls ∧
    Seen c.leave w' := by
  obtain ⟨core, hgoes⟩ := goes_leave .signOut w
  exact ⟨_, hgoes, rfl, Client.sameAir_leaving.channelId, rfl, rfl⟩

/-- `connect` comes to its end, joined or refused. -/
theorem goes_connect (w : OwnRoom.World) (joined : Bool) (hroom : w.room = false) :
    Goes w.connect { w with room := joined } := by
  obtain ⟨session, channelId, room, calls, core, tokens⟩ := w
  obtain rfl : room = false := hroom
  cases joined with
  | false =>
      refine ⟨[.joined false], by simp [OwnRoom.Act.completes], ?_⟩
      simp [OwnRoom.World.connect, OwnRoom.World.step, OwnRoom.World.await,
        OwnRoom.World.resumed]
  | true =>
      refine ⟨[.joined true, .connected true], by simp [OwnRoom.Act.completes], ?_⟩
      simp [OwnRoom.World.connect, OwnRoom.World.step, OwnRoom.World.await,
        OwnRoom.World.resumed]

theorem goes_enter (w : OwnRoom.World) (channelId : Option Snowflake) (joined : Bool)
    (hroom : w.room = false) : ∃ room, Goes (w.enter channelId) { w with channelId, room } := by
  cases channelId with
  | none => exact ⟨w.room, .refl _⟩
  | some channelId =>
      exact ⟨joined, goes_connect { w with channelId := some channelId } joined hroom⟩

/-- A `follow` that nothing interrupts is that of its pieces, one after the other. -/
theorem seen_follow (kit : LiveKit) (h : Seen c w) (channelId : Option Snowflake)
    (joined : Option (List (Nat × RemoteTrack) × List Identity)) :
    ∃ w', Goes (w.step (.follow channelId)) w' ∧ w'.calls = w.calls ∧
      Seen (c.follow kit channelId joined) w' := by
  unfold Client.follow
  by_cases hsame : channelId = c.channelId
  · rw [OwnRoom.World.step, if_pos (hsame.trans h.channelId), if_pos hsame]
    exact ⟨w, .refl w, rfl, h⟩
  · rw [OwnRoom.World.step, if_neg fun heq => hsame (heq.trans h.channelId.symm), if_neg hsame]
    obtain ⟨core, hleave⟩ := goes_leave (.follow channelId) w
    obtain ⟨room, henter⟩ := goes_enter
      { departed w with
        core
        session := { (departed w).session with publishing := false, cameraPublishing := false } }
      channelId joined.isSome rfl
    refine ⟨_, (hleave.trans ?_).trans henter, rfl, ?_⟩
    · refine ⟨[.left channelId], by simp [OwnRoom.Act.completes], ?_⟩
      show (OwnRoom.World.await (.left channelId) _).step (.left channelId) = _
      rw [OwnRoom.World.step, if_pos (mem_await _ _), resumed_await]
    · have hconnect : Client.SameAir { c.leave with channelId }
          (Client.connect kit joined { c.leave with channelId }) :=
        Client.sameAir_connect _ joined
      exact ⟨hconnect.channelId, congrArg Option.isSome hconnect.sharing, hconnect.camera⟩

end Alone

end SameSession
end Desktop
end Ldktela
