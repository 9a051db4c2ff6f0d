import Ldktela.Lib.Keyed
import Ldktela.Lib.Runs
import Ldktela.Protocol

/-!
# Following the voice channel

`follow`, `leave` and `connect` of `desktop/src/media/session.ts`, as the pieces that
run between two awaits, for any number of calls of `follow` that do not wait for each
other.  Nothing that is awaited fails.

The calls share `channelId` and `room`, and none looks at them again after an await.
`converged_throughout` says that this is all that is missing: if a call that goes on
still has the last channel announced before it, and a token that arrives is still for
the channel of a session without a room, then the session ends up where it was told
to, and nowhere else.  `Desktop.SameSession` connects it with the session that also
starts and stops its own publications.
-/

namespace Ldktela
namespace Desktop
namespace Follow

open Protocol
open Runs

inductive RoomStatus where
  | connecting
  | connected
  | disconnected
deriving DecidableEq

/-- A `Room`, with the channel its token was issued for. -/
structure Room where
  channelId : Snowflake
  status : RoomStatus
deriving DecidableEq

/-- A call of `follow`, by what it awaits. -/
inductive Call where
  /-- `leave`: `stopNativeShare`, with the room it took. -/
  | stopping (target : Option Snowflake) (room : Option Nat)
  /-- `leave`: `room.disconnect`. -/
  | leaving (target : Option Snowflake) (room : Nat)
  /-- `leave` itself. -/
  | left (target : Option Snowflake)
  /-- `connect`: `previous.disconnect`. -/
  | replacing (channelId : Snowflake) (previous : Nat)
  /-- `connect`: `roomToken`. -/
  | token (channelId : Snowflake)
  /-- `connect`: `room.connect`. -/
  | connecting (room : Nat)
deriving DecidableEq

namespace Call

/-- The call is in `leave`. -/
def inLeave : Call → Bool
  | stopping .. => true
  | leaving .. => true
  | left _ => true
  | _ => false

/-- The room the call is going to disconnect. -/
def takes : Call → Option Nat
  | stopping _ room => room
  | leaving _ room => some room
  | replacing _ previous => some previous
  | _ => none

/-- The channel the call is going to create a room for. -/
def joins : Call → Option Snowflake
  | replacing channelId _ => some channelId
  | token channelId => some channelId
  | _ => none

end Call

structure Session where
  channelId : Option Snowflake
  /-- The number of the room that is held. -/
  room : Option Nat
  sharing : Bool
  /-- Every `Room` created, numbered. -/
  rooms : Table Nat Room
  nextRoom : Nat
  calls : List Call
  /-- The last channel that was announced. -/
  announced : Option Snowflake

namespace Session

def new : Session where
  channelId := none
  room := none
  sharing := false
  rooms := ∅
  nextRoom := 0
  calls := []
  announced := none

/-- `room.disconnect` completes. -/
def disconnect (r : Nat) (s : Session) : Session :=
  { s with rooms := s.rooms.modify r fun room => { room with status := .disconnected } }

/-- `room.connect` completes; a room that was disconnected meanwhile stays so. -/
def connected (r : Nat) (s : Session) : Session :=
  { s with
    rooms := s.rooms.modify r fun room =>
      if room.status = .connecting then { room with status := .connected } else room }

/-- The call awaits something. -/
def await (call : Call) (s : Session) : Session :=
  { s with calls := call :: s.calls }

/-- What `leave` awaits for the room it took. -/
def leaveRoom (target : Option Snowflake) (room : Option Nat) : Call :=
  match room with
  | some r => .leaving target r
  | none => .left target

/-- `leave`, up to what it awaits first. -/
def leave (target : Option Snowflake) (s : Session) : Session :=
  { s with channelId := none, room := none, sharing := false }.await <|
    if s.sharing then .stopping target s.room else leaveRoom target s.room

def follow (channelId : Option Snowflake) (s : Session) : Session :=
  let s := { s with announced := channelId }
  if channelId = s.channelId then s else s.leave channelId

/-- `connect`, up to what it awaits first. -/
def connect (channelId : Snowflake) (s : Session) : Session :=
  { s with room := none }.await <|
    match s.room with
    | some previous => .replacing channelId previous
    | none => .token channelId

/-- A token for the channel arrives: a room is created, held and connected. -/
def join (channelId : Snowflake) (s : Session) : Session :=
  { s with
    rooms := s.rooms.insert s.nextRoom ⟨channelId, .connecting⟩
    room := some s.nextRoom
    nextRoom := s.nextRoom + 1 }.await (.connecting s.nextRoom)

/-- What the call awaited has completed, and it goes on to the next await. -/
def resume (call : Call) (s : Session) : Session :=
  let s := { s with calls := s.calls.erase call }
  match call with
  | .stopping target room => s.await (leaveRoom target room)
  | .leaving target room => (s.disconnect room).await (.left target)
  | .left none => { s with channelId := none }
  | .left (some channelId) => { s with channelId := some channelId }.connect channelId
  | .replacing channelId previous => (s.disconnect previous).await (.token channelId)
  | .token channelId => s.join channelId
  | .connecting room => s.connected room

end Session

inductive Act where
  | follow (channelId : Option Snowflake)
  /-- What the call awaits completes. -/
  | resume (call : Call)
  /-- A share is started, or ends. -/
  | sharing (value : Bool)

/-- A call that is not in flight does not go on. -/
def Session.step (s : Session) : Act → Session
  | .follow channelId => s.follow channelId
  | .resume call => if call ∈ s.calls then s.resume call else s
  | .sharing value => { s with sharing := value }

/-! ## What is promised, and when -/

namespace Session

/-- The session is where it was last told to be, and in no other room. -/
def Converged (s : Session) : Prop :=
  s.channelId = s.announced ∧
    (match s.announced with
      | some channelId =>
          ∃ r, s.room = some r ∧ s.rooms.lookup r = some ⟨channelId, .connected⟩
      | none => s.room = none) ∧
    ∀ r room, s.rooms.lookup r = some room → s.room ≠ some r → room.status = .disconnected

/-- A call that leaves `leave` is for the last channel announced, and a token is for
the channel of a session that holds no room. -/
def Current (s : Session) : Act → Prop
  | .resume (.left target) => target = s.announced
  | .resume (.token channelId) => s.channelId = some channelId ∧ s.room = none
  | _ => True

instance (s : Session) : (a : Act) → Decidable (s.Current a)
  | .follow _ => .isTrue trivial
  | .sharing _ => .isTrue trivial
  | .resume (.stopping ..) => .isTrue trivial
  | .resume (.leaving ..) => .isTrue trivial
  | .resume (.left target) => inferInstanceAs (Decidable (target = s.announced))
  | .resume (.replacing ..) => .isTrue trivial
  | .resume (.token channelId) =>
      inferInstanceAs (Decidable (s.channelId = some channelId ∧ s.room = none))
  | .resume (.connecting _) => .isTrue trivial

/-! ## The invariant -/

/-- What the pieces keep as long as they are current. -/
structure Inv (s : Session) : Prop where
  /-- The session is at the last channel, or a call will take it there. -/
  announced : s.channelId = s.announced ∨ ∃ call ∈ s.calls, call.inLeave = true
  /-- It is at no other channel. -/
  only : s.channelId = none ∨ s.channelId = s.announced
  idle : s.channelId = none → s.room = none
  /-- It has a room for its channel, or is about to create one. -/
  joined : ∀ c, s.channelId = some c →
    (∃ call ∈ s.calls, call.joins = some c) ∨
      ∃ r room, s.room = some r ∧ s.rooms.lookup r = some room ∧ room.channelId = c
  /-- The room it holds is connected, or a call connects it. -/
  held : ∀ r, s.room = some r → ∃ room, s.rooms.lookup r = some room ∧
    (room.status = .connected ∨ (room.status = .connecting ∧ .connecting r ∈ s.calls))
  /-- Every other room is disconnected, or a call will disconnect it. -/
  gone : ∀ r room, s.rooms.lookup r = some room → s.room ≠ some r →
    room.status = .disconnected ∨ ∃ call ∈ s.calls, call.takes = some r
  /-- No call disconnects the room that is held. -/
  apart : ∀ call ∈ s.calls, ∀ r, call.takes = some r → s.room ≠ some r ∧ r < s.nextRoom
  fresh : ∀ r room, s.rooms.lookup r = some room → r < s.nextRoom

theorem inv_new : Inv new where
  announced := .inl rfl
  only := .inl rfl
  idle _ := rfl
  joined c hc := by cases hc
  held r hr := by cases hr
  gone r room hr := by cases hr
  apart call hcall := by cases hcall
  fresh r room hr := by cases hr

/-- When no call is pending, the invariant is what is promised. -/
theorem Inv.converged {s : Session} (h : s.Inv) (hquiet : s.calls = []) : s.Converged := by
  have hat : s.channelId = s.announced := by
    rcases h.announced with hat | ⟨call, hmem, -⟩
    · exact hat
    · rw [hquiet] at hmem
      cases hmem
  refine ⟨hat, ?_, ?_⟩
  · cases hannounced : s.announced with
    | none => exact h.idle (hat.trans hannounced)
    | some c =>
        rcases h.joined c (hat.trans hannounced) with ⟨call, hmem, -⟩ | ⟨r, room, hr, hroom, hc⟩
        · rw [hquiet] at hmem
          cases hmem
        · refine ⟨r, hr, ?_⟩
          obtain ⟨room', hroom', hconnected | ⟨-, hmem⟩⟩ := h.held r hr
          · rw [hroom] at hroom'
            obtain rfl := Option.some.inj hroom'
            rw [hroom, ← hc, ← hconnected]
          · rw [hquiet] at hmem
            cases hmem
  · intro r room hroom hne
    rcases h.gone r room hroom hne with hgone | ⟨call, hmem, -⟩
    · exact hgone
    · rw [hquiet] at hmem
      cases hmem

section Step

variable {s : Session} {call next : Call}

/-- A call of a kind is still there when one call is replaced by one of the same kind. -/
theorem exists_replaced {calls : List Call} {p : Call → Prop} (hp : p call → p next)
    (h : ∃ other ∈ calls, p other) : ∃ other ∈ next :: calls.erase call, p other := by
  obtain ⟨other, hmem, hother⟩ := h
  by_cases heq : other = call
  · exact ⟨next, List.mem_cons_self, hp (heq ▸ hother)⟩
  · exact ⟨other, List.mem_cons_of_mem _ ((List.mem_erase_of_ne heq).mpr hmem), hother⟩

/-- A call of a kind is still there when one of another kind ends. -/
theorem exists_erased {calls : List Call} {p : Call → Prop} (hp : ¬ p call)
    (h : ∃ other ∈ calls, p other) : ∃ other ∈ calls.erase call, p other := by
  obtain ⟨other, hmem, hother⟩ := h
  have hne : other ≠ call := fun heq => hp (heq ▸ hother)
  exact ⟨other, (List.mem_erase_of_ne hne).mpr hmem, hother⟩

/-- `stopNativeShare` completes. -/
theorem Inv.stopped (h : s.Inv) {target : Option Snowflake} {room : Option Nat}
    (hmem : .stopping target room ∈ s.calls) :
    (s.resume (.stopping target room)).Inv := by
  have hleave : (leaveRoom target room).inLeave = true := by
    cases room with
    | none => rfl
    | some r => rfl
  have htakes : (leaveRoom target room).takes = room := by
    cases room with
    | none => rfl
    | some r => rfl
  exact
    { announced := h.announced.imp_right (exists_replaced fun _ => hleave)
      only := h.only
      idle := h.idle
      joined := fun c hc => (h.joined c hc).imp_left (exists_replaced fun hnone => nomatch hnone)
      held := by
        intro r hr
        obtain ⟨room', hroom, hstatus⟩ := h.held r hr
        refine ⟨room', hroom, hstatus.imp_right fun ⟨hconnecting, hcall⟩ => ⟨hconnecting, ?_⟩⟩
        exact List.mem_cons_of_mem _ ((List.mem_erase_of_ne Call.noConfusion).mpr hcall)
      gone := fun r room' hr hne =>
        (h.gone r room' hr hne).imp_right (exists_replaced fun htaken => htakes.trans htaken)
      apart := by
        intro other hother r htaken
        rcases List.mem_cons.mp hother with rfl | hrest
        · exact h.apart _ hmem r (htakes.symm.trans htaken)
        · exact h.apart other (List.mem_of_mem_erase hrest) r htaken
      fresh := h.fresh }

theorem lookup_disconnect (r r' : Nat) :
    (s.disconnect r).rooms.lookup r' =
      if r' = r then (s.rooms.lookup r').map fun room => { room with status := .disconnected }
      else s.rooms.lookup r' :=
  AList.lookup_modify s.rooms r r' _

/-- A `disconnect` completes, and its call goes on. -/
theorem Inv.disconnected (h : s.Inv) {r : Nat} (hmem : call ∈ s.calls)
    (htaken : call.takes = some r) (htakes : next.takes = none)
    (hleave : call.inLeave = true → next.inLeave = true)
    (hjoins : ∀ c, call.joins = some c → next.joins = some c) :
    (({ s with calls := s.calls.erase call }.disconnect r).await next).Inv := by
  obtain ⟨hapart, -⟩ := h.apart call hmem r htaken
  have hother : ∀ r', s.room = some r' →
      (s.disconnect r).rooms.lookup r' = s.rooms.lookup r' := by
    intro r' hr'
    have hne : r' ≠ r := by
      rintro rfl
      exact hapart hr'
    rw [lookup_disconnect, if_neg hne]
  refine ⟨h.announced.imp_right (exists_replaced hleave), h.only, h.idle, ?_, ?_, ?_, ?_, ?_⟩
  · intro c hc
    rcases h.joined c hc with hjoining | ⟨r', room, hr', hroom, hchannel⟩
    · exact .inl (exists_replaced (hjoins c) hjoining)
    · exact .inr ⟨r', room, hr', (hother r' hr').trans hroom, hchannel⟩
  · intro r' hr'
    obtain ⟨room, hroom, hstatus⟩ := h.held r' hr'
    refine ⟨room, (hother r' hr').trans hroom, hstatus.imp_right fun ⟨hconnecting, hcall⟩ =>
      ⟨hconnecting, ?_⟩⟩
    have hne : .connecting r' ≠ call := by
      rintro rfl
      cases htaken
    exact List.mem_cons_of_mem _ ((List.mem_erase_of_ne hne).mpr hcall)
  · intro r' room hroom hne
    change (s.disconnect r).rooms.lookup r' = some room at hroom
    rw [lookup_disconnect] at hroom
    split at hroom
    · obtain ⟨old, -, rfl⟩ := Option.map_eq_some_iff.mp hroom
      exact .inl rfl
    · next hdistinct =>
        refine (h.gone r' room hroom hne).imp_right (exists_replaced fun htaken' => ?_)
        rw [htaken] at htaken'
        exact absurd (Option.some.inj htaken').symm hdistinct
  · intro other hother' r' htaken'
    rcases List.mem_cons.mp hother' with rfl | hrest
    · rw [htakes] at htaken'
      cases htaken'
    · exact h.apart other (List.mem_of_mem_erase hrest) r' htaken'
  · intro r' room hroom
    change (s.disconnect r).rooms.lookup r' = some room at hroom
    rw [lookup_disconnect] at hroom
    split at hroom
    · obtain ⟨old, hold, -⟩ := Option.map_eq_some_iff.mp hroom
      exact h.fresh r' old hold
    · exact h.fresh r' room hroom

/-- The room that is held was created. -/
theorem Inv.room_lt (h : s.Inv) {r : Nat} (hr : s.room = some r) : r < s.nextRoom := by
  obtain ⟨room, hroom, -⟩ := h.held r hr
  exact h.fresh r room hroom

/-- A call goes on for the last channel, and there is none. -/
theorem Inv.left_none (h : s.Inv) (hlast : s.announced = none) :
    (s.resume (.left none)).Inv := by
  have hroom : s.room = none := by
    refine h.idle ?_
    rcases h.only with hnone | hsame
    · exact hnone
    · exact hsame.trans hlast
  refine ⟨.inl hlast.symm, .inl rfl, fun _ => hroom, fun c hc => ?_, fun r hr => ?_, ?_, ?_,
    h.fresh⟩
  · cases hc
  · exact absurd (hroom.symm.trans hr) (by simp)
  · intro r room hr hne
    exact (h.gone r room hr hne).imp_right (exists_erased fun hnone => nomatch hnone)
  · intro other hother
    exact h.apart other (List.mem_of_mem_erase hother)

/-- A call goes on for the last channel, and connects to it. -/
theorem Inv.left_some (h : s.Inv) {c : Snowflake} (hlast : s.announced = some c) :
    (s.resume (.left (some c))).Inv := by
  -- what `connect` awaits takes the room there was
  obtain ⟨first, hfirst, htakes, hjoins⟩ : ∃ first : Call,
      s.resume (.left (some c)) =
        { s with calls := first :: s.calls.erase (.left (some c))
                 channelId := some c
                 room := none } ∧
        first.takes = s.room ∧ first.joins = some c := by
    unfold resume connect
    cases s.room with
    | none => exact ⟨.token c, rfl, rfl, rfl⟩
    | some r => exact ⟨.replacing c r, rfl, rfl, rfl⟩
  rw [hfirst]
  refine ⟨.inl hlast.symm, .inr hlast.symm, fun hnone => ?_, fun c' hc' => ?_, fun r hr => ?_,
    ?_, ?_, h.fresh⟩
  · cases hnone
  · exact .inl ⟨first, List.mem_cons_self, hjoins.trans hc'⟩
  · cases hr
  · intro r room hroom _
    by_cases hr : s.room = some r
    · exact .inr ⟨first, List.mem_cons_self, htakes.trans hr⟩
    · refine (h.gone r room hroom hr).imp_right fun htaken => ?_
      have herased : ∃ other ∈ s.calls.erase (.left (some c)), other.takes = some r :=
        exists_erased (fun hnone => nomatch hnone) htaken
      obtain ⟨other, hmem, hother⟩ := herased
      exact ⟨other, List.mem_cons_of_mem _ hmem, hother⟩
  · intro other hother r htaken
    refine ⟨(nomatch ·), ?_⟩
    rcases List.mem_cons.mp hother with rfl | hrest
    · exact h.room_lt (htakes.symm.trans htaken)
    · exact (h.apart other (List.mem_of_mem_erase hrest) r htaken).2

/-- A token arrives for the channel of a session without a room. -/
theorem Inv.joined_room (h : s.Inv) {c : Snowflake} (hchannel : s.channelId = some c)
    (hroom : s.room = none) : (s.resume (.token c)).Inv := by
  have hothers : ∀ {p : Call → Prop}, ¬ p (.token c) → (∃ call ∈ s.calls, p call) →
      ∃ call ∈ .connecting s.nextRoom :: s.calls.erase (.token c), p call := by
    intro p hp hcalls
    obtain ⟨other, hmem, hother⟩ := exists_erased hp hcalls
    exact ⟨other, List.mem_cons_of_mem _ hmem, hother⟩
  refine ⟨?_, h.only, fun hnone => ?_, fun c' hc' => .inr ?_, fun r hr => ?_, ?_, ?_, ?_⟩
  · exact h.announced.imp_right (hothers Bool.noConfusion)
  · cases hchannel.symm.trans hnone
  · refine ⟨s.nextRoom, ⟨c, .connecting⟩, rfl, AList.lookup_insert _, ?_⟩
    exact Option.some.inj (hchannel.symm.trans hc')
  · obtain rfl := Option.some.inj hr
    exact ⟨⟨c, .connecting⟩, AList.lookup_insert _, .inr ⟨rfl, List.mem_cons_self⟩⟩
  · intro r room hr hne
    have hdistinct : r ≠ s.nextRoom := by
      rintro rfl
      exact hne rfl
    have hold : s.rooms.lookup r = some room := by
      rw [← hr]
      exact (AList.lookup_insert_ne hdistinct).symm
    exact (h.gone r room hold (by simp [hroom])).imp_right (hothers fun hnone => nomatch hnone)
  · intro other hother r htaken
    rcases List.mem_cons.mp hother with rfl | hrest
    · cases htaken
    · obtain ⟨-, hlt⟩ := h.apart other (List.mem_of_mem_erase hrest) r htaken
      refine ⟨fun hr => ?_, Nat.lt_succ_of_lt hlt⟩
      obtain rfl := Option.some.inj hr
      exact Nat.lt_irrefl _ hlt
  · intro r room hr
    change (s.rooms.insert s.nextRoom ⟨c, .connecting⟩).lookup r = some room at hr
    show r < s.nextRoom + 1
    rw [AList.lookup_insert_ite] at hr
    split at hr
    · omega
    · exact Nat.lt_succ_of_lt (h.fresh r room hr)

theorem lookup_connected (r r' : Nat) :
    (s.connected r).rooms.lookup r' =
      if r' = r then (s.rooms.lookup r').map fun room =>
        if room.status = .connecting then { room with status := .connected } else room
      else s.rooms.lookup r' :=
  AList.lookup_modify s.rooms r r' _

/-- The room that is connected is connected, unless it was disconnected before. -/
theorem lookup_connected_of_lookup {r r' : Nat} {old : Room} (h : s.rooms.lookup r' = some old) :
    ∃ room, (s.connected r).rooms.lookup r' = some room ∧ room.channelId = old.channelId ∧
      (old.status = .connected → room.status = .connected) ∧
      (old.status = .connecting → room.status = if r' = r then .connected else .connecting) := by
  rw [lookup_connected, h, Option.map_some]
  by_cases hr : r' = r
  · rw [if_pos hr]
    refine ⟨_, rfl, ?_⟩
    split
    · next hconnecting => exact ⟨rfl, fun _ => rfl, fun _ => rfl⟩
    · next hnot => exact ⟨rfl, id, fun hconnecting => absurd hconnecting hnot⟩
  · rw [if_neg hr]
    exact ⟨old, rfl, rfl, id, fun hconnecting => hconnecting.trans (if_neg hr).symm⟩

/-- `room.connect` changes a status and nothing else. -/
theorem exists_of_lookup_connected {r r' : Nat} {room : Room}
    (h : (s.connected r).rooms.lookup r' = some room) :
    ∃ old, s.rooms.lookup r' = some old ∧ room.channelId = old.channelId ∧
      (old.status = .disconnected → room.status = .disconnected) := by
  rw [lookup_connected] at h
  split at h
  · obtain ⟨old, hold, rfl⟩ := Option.map_eq_some_iff.mp h
    refine ⟨old, hold, ?_⟩
    split
    · next hconnecting => exact ⟨rfl, fun hgone => by simp [hconnecting] at hgone⟩
    · exact ⟨rfl, id⟩
  · exact ⟨room, h, rfl, id⟩

/-- `room.connect` completes. -/
theorem Inv.connected (h : s.Inv) (r : Nat) : (s.resume (.connecting r)).Inv := by
  refine ⟨?_, h.only, h.idle, fun c hc => ?_, fun r' hr' => ?_, ?_, ?_, ?_⟩
  · exact h.announced.imp_right (exists_erased Bool.noConfusion)
  · rcases h.joined c hc with hjoining | ⟨r', room, hr', hroom, hchannel⟩
    · exact .inl (exists_erased (fun hnone => nomatch hnone) hjoining)
    · obtain ⟨room', hroom', hsame, -⟩ := lookup_connected_of_lookup (r := r) hroom
      exact .inr ⟨r', room', hr', hroom', hsame.trans hchannel⟩
  · obtain ⟨old, hold, hstatus⟩ := h.held r' hr'
    obtain ⟨room, hroom, -, hconnected, hconnecting⟩ := lookup_connected_of_lookup (r := r) hold
    refine ⟨room, hroom, ?_⟩
    rcases hstatus with hdone | ⟨hwaiting, hmem⟩
    · exact .inl (hconnected hdone)
    · rw [hconnecting hwaiting]
      split
      · exact .inl rfl
      · next hne =>
          refine .inr ⟨rfl, (List.mem_erase_of_ne fun heq => hne ?_).mpr hmem⟩
          exact Call.connecting.inj heq
  · intro r' room hroom hne
    obtain ⟨old, hold, -, hgone⟩ := exists_of_lookup_connected (s := s) hroom
    rcases h.gone r' old hold hne with hdisconnected | htaken
    · exact .inl (hgone hdisconnected)
    · exact .inr (exists_erased (fun hnone => nomatch hnone) htaken)
  · intro other hother
    exact h.apart other (List.mem_of_mem_erase hother)
  · intro r' room hroom
    obtain ⟨old, hold, -⟩ := exists_of_lookup_connected (s := s) hroom
    exact h.fresh r' old hold

/-- `leave` takes the room along. -/
theorem Inv.leave (h : s.Inv) (target : Option Snowflake) :
    Inv { s.leave target with announced := target } := by
  obtain ⟨first, hfirst, htakes, hleave⟩ : ∃ first : Call,
      { s.leave target with announced := target } =
        { s with channelId := none
                 room := none
                 sharing := false
                 calls := first :: s.calls
                 announced := target } ∧
        first.takes = s.room ∧ first.inLeave = true := by
    unfold Session.leave leaveRoom
    cases s.sharing with
    | true => exact ⟨.stopping target s.room, rfl, rfl, rfl⟩
    | false =>
        cases s.room with
        | none => exact ⟨.left target, rfl, rfl, rfl⟩
        | some r => exact ⟨.leaving target r, rfl, rfl, rfl⟩
  rw [hfirst]
  refine ⟨.inr ⟨first, List.mem_cons_self, hleave⟩, .inl rfl, fun _ => rfl, fun c hc => ?_,
    fun r hr => ?_, ?_, ?_, h.fresh⟩
  · cases hc
  · cases hr
  · intro r room hroom _
    by_cases hr : s.room = some r
    · exact .inr ⟨first, List.mem_cons_self, htakes.trans hr⟩
    · refine (h.gone r room hroom hr).imp_right fun ⟨other, hmem, hother⟩ => ?_
      exact ⟨other, List.mem_cons_of_mem _ hmem, hother⟩
  · intro other hother r htaken
    refine ⟨(nomatch ·), ?_⟩
    rcases List.mem_cons.mp hother with rfl | hrest
    · exact h.room_lt (htakes.symm.trans htaken)
    · exact (h.apart other hrest r htaken).2

theorem Inv.follow (h : s.Inv) (target : Option Snowflake) : (s.follow target).Inv := by
  unfold Session.follow
  dsimp only
  split
  · next hsame =>
      exact ⟨.inl hsame.symm, .inr hsame.symm, h.idle, h.joined, h.held, h.gone, h.apart, h.fresh⟩
  · exact h.leave target

theorem Inv.resume (h : s.Inv) (hmem : call ∈ s.calls) (hok : s.Current (.resume call)) :
    (s.resume call).Inv := by
  cases call with
  | stopping target room => exact h.stopped hmem
  | leaving target room =>
      exact h.disconnected hmem rfl rfl (fun _ => rfl) fun _ hnone => nomatch hnone
  | left target =>
      cases target with
      | none => exact h.left_none hok.symm
      | some c => exact h.left_some hok.symm
  | replacing c previous =>
      exact h.disconnected hmem rfl rfl (fun hnot => nomatch hnot) fun _ hjoins => hjoins
  | token c => exact h.joined_room hok.1 hok.2
  | connecting r => exact h.connected r

theorem Inv.step (h : s.Inv) {a : Act} (hok : s.Current a) : (s.step a).Inv := by
  cases a with
  | follow target => exact h.follow target
  | resume call =>
      unfold Session.step
      dsimp only
      split
      · next hmem => exact h.resume hmem hok
      · exact h
  | sharing value =>
      exact ⟨h.announced, h.only, h.idle, h.joined, h.held, h.gone, h.apart, h.fresh⟩

end Step

/-! ## Runs -/

/-- As long as every piece is current, the session converges: whenever no call is
pending it is in the last channel announced, and every other room is disconnected. -/
theorem converged_throughout (as : List Act) (hok : EachStep step Current new as) :
    Throughout step (fun s => s.calls = [] → s.Converged) new as := by
  have hinv : Throughout step Inv new as :=
    throughout_of_eachStep (fun _ _ h hstep => h.step hstep) inv_new hok
  exact hinv.mono fun _ h => h.converged

/-- From one channel to another while a share is on, and out. -/
theorem moves_and_leaves_converged :
    Throughout step (fun s => s.calls = [] → s.Converged) new
      [.follow (some 1), .resume (.left (some 1)), .resume (.token 1), .resume (.connecting 0),
        .sharing true, .follow (some 2), .resume (.stopping (some 2) (some 0)),
        .resume (.leaving (some 2) 0), .resume (.left (some 2)), .resume (.token 2),
        .follow none, .resume (.connecting 1), .resume (.leaving none 1),
        .resume (.left none)] :=
  converged_throughout _ (by decide)

/-- Out of a channel before the session got there: it goes there, and stays. -/
theorem leaving_early_is_ignored :
    ¬ ∀ as : List Act, Throughout step (fun s => s.calls = [] → s.Converged) new as := by
  intro h
  have hend := throughout_iff_initial.mp
    (h [.follow (some 1), .follow none, .resume (.left (some 1)), .resume (.token 1),
      .resume (.connecting 0)]) _ (List.prefix_refl _)
  exact absurd (hend (by decide)).1 (by decide)

end Session

end Follow
end Desktop
end Ldktela
