import Ldktela.Api.Integers
import Ldktela.Desktop.WithinLimits

/-!
# The intervals for which the limits fit together

`Config::from_source` takes any `WS_HEARTBEAT_INTERVAL_MS`.  `spared_bounds`: the client is never
cut off if the interval is at least 2069 ms and no delay of a heartbeat is beyond the 31 bits of
a timer, so at most 1952257861 ms; and hardly otherwise.

Where a heartbeat may follow another after less than 2069 ms, the session that cannot be
resumed shows it: the window of the new connection has a `RESUME` and an `IDENTIFY`, and on an
idle network it also gets the twenty-ninth heartbeat before its 60 seconds are over.  An
interval of zero is not even announced: the client does not read such a `HELLO`, and
identifies never.
-/

namespace Ldktela
namespace Desktop
namespace Timed

open Protocol
open Runs
open Gateway
open Gateway.Serve

/-! ## A run without delays, and always with the same jitter -/

section Run

variable (wire : Wire) (config : GatewayConfig) (random : Random)

/-- The time between two heartbeats. -/
def pace : Nat := timerMs (heartbeatDelayMs config.heartbeatIntervalMs random)

/-- The client hears what is next on a socket. -/
def hearNext (socket : Nat) : Act := .toClient socket 1 random 1000 false

def firstReadyEvent : DispatchEvent :=
  .ready ⟨1, ⟨1, 1, "ana", none, none, 0⟩, none, config.heartbeatIntervalMs⟩

def firstReady : OutFrame := .dispatch (DispatchFrame.new 1 (firstReadyEvent config))

/-- Every session is new: none can be resumed. -/
def forgetful : HubAnswer := ⟨1, firstReady config, none⟩

theorem answers_forgetful : Answers config (forgetful config) :=
  ⟨rfl, fun _ h => by cases h⟩

/-- A connection, until the hub has dropped its session and asks for a reconnect. -/
def firstConnection : List Act :=
  [.start 1, .accept 0, hearNext random 0, .toServer 0 (forgetful config), hearNext random 0,
    .push 0 (.control Opcode.reconnect), hearNext random 0, .toServer 0 (forgetful config),
    hearNext random 0]

/-- The next connection, until its session is ready. -/
def secondConnection : List Act :=
  [.retry 1, .accept 1, hearNext random 1, .toServer 1 (forgetful config), hearNext random 1,
    .toServer 1 (forgetful config), hearNext random 1]

/-- A heartbeat, and its ack. -/
def round : List Act :=
  [.advance (pace config random), .beat random, .toServer 1 (forgetful config), hearNext random 1]

/-- The client is cut off when the last heartbeat of it arrives. -/
def cutOff : List Act :=
  firstConnection config random ++ secondConnection config random ++
    (List.replicate 28 (round config random)).flatten ++
    [Act.advance (pace config random), Act.beat random, Act.toServer 1 (forgetful config)]

/-- The first socket of a client, after the `HELLO`. -/
def onFirst (client : GatewayClient) (link : Link) : Timed :=
  ⟨0, ⟨wire.info, client, [0], 1⟩, 0 + pace config random, false, [link]⟩

/-- The second one, after the `HELLO`. -/
def onSecond (client : GatewayClient) (link : Link) : Timed :=
  ⟨0, ⟨wire.info, client, [1], 2⟩, 0 + pace config random, false,
    [⟨some ⟨⟨some 1, 0, 1⟩, 0, 0, []⟩, some none, true, [], []⟩, link]⟩

/-- The client hears a frame at the moment 0. -/
def heard (frame : ServerFrame) (client : GatewayClient) : GatewayClient :=
  (client.handleFrame wire.info 0 (some 1) random (some frame)).1

def greeting : Hello := ⟨config.heartbeatIntervalMs, config.sessionTtlMs⟩

def greeted : GatewayClient :=
  heard wire random (.hello (greeting config)) (GatewayClient.idle.start (some 1) 0)

def readied (client : GatewayClient) : GatewayClient :=
  heard wire random (.dispatch 1 (firstReadyEvent config)) client

/-- The client that is asked to reconnect. -/
def asked : GatewayClient :=
  heard wire random .reconnect (readied wire config random (greeted wire config random))

def resuming : GatewayClient :=
  heard wire random (.hello (greeting config)) <|
    ((asked wire config random).handleClose 0 (backoffDelayMs · random) 1000).retry (some 1) 1

def refused : GatewayClient :=
  heard wire random (.invalidSession false) (resuming wire config random)

end Run

section Cut

variable {wire : Wire} {config : GatewayConfig} {random : Random}

theorem parse_greeting (hpos : 0 < config.heartbeatIntervalMs) :
    parseServerFrame (.hello (greeting config)) = some (.hello (greeting config)) :=
  if_pos hpos

theorem onFirst_toServer (client : GatewayClient) (link : Link) :
    step wire config (onFirst wire config random client link) (.toServer 0 (forgetful config)) =
      onFirst wire config random client (link.arrive wire config 0 (forgetful config)) := by
  rw [step, if_pos (answers_forgetful config)]
  rfl

theorem onSecond_toServer (client : GatewayClient) (link : Link) :
    step wire config (onSecond wire config random client link) (.toServer 1 (forgetful config)) =
      onSecond wire config random client (link.arrive wire config 0 (forgetful config)) := by
  rw [step, if_pos (answers_forgetful config)]
  rfl

theorem first_greeted (hpos : 0 < config.heartbeatIntervalMs) :
    run (step wire config) (idle wire) [.start 1, .accept 0, hearNext random 0] =
      onFirst wire config random (greeted wire config random)
        ⟨some ⟨⟨none, 0, 0⟩, 0, 0, []⟩, none, false, [(0, .frame (.identify 1 wire.info))],
          []⟩ := by
  show drive (.frame 0 (parseServerFrame (.hello (greeting config))) 0 (some 1) random) _ = _
  rw [parse_greeting hpos]
  rfl

theorem first_identified (client : GatewayClient) :
    step wire config (onFirst wire config random client
        ⟨some ⟨⟨none, 0, 0⟩, 0, 0, []⟩, none, false, [(0, .frame (.identify 1 wire.info))], []⟩)
      (.toServer 0 (forgetful config)) =
    onFirst wire config random client
      ⟨some ⟨⟨some 1, 0, 1⟩, 0, 0, []⟩, none, false, [], [(0, .text (firstReady config))]⟩ := by
  have harrive := @arrive_identify wire config 0 (forgetful config) 0 0 0 0 false 1 [] []
    (Nat.zero_le 1) (Nat.zero_le _)
  rw [onFirst_toServer, harrive]
  rfl

theorem first_asked :
    run (step wire config) (onFirst wire config random (greeted wire config random)
        ⟨some ⟨⟨some 1, 0, 1⟩, 0, 0, []⟩, none, false, [], [(0, .text (firstReady config))]⟩)
      [hearNext random 0, .push 0 (.control Opcode.reconnect), hearNext random 0] =
    onFirst wire config random (asked wire config random)
      ⟨some ⟨⟨some 1, 0, 1⟩, 0, 0, []⟩, none, true, [(0, .closed)], []⟩ :=
  rfl

theorem second_greeted (hpos : 0 < config.heartbeatIntervalMs) :
    run (step wire config) (onFirst wire config random (asked wire config random)
        ⟨some ⟨⟨some 1, 0, 1⟩, 0, 0, []⟩, none, true, [(0, .closed)], []⟩)
      [.toServer 0 (forgetful config), hearNext random 0, .retry 1, .accept 1, hearNext random 1] =
    onSecond wire config random (resuming wire config random)
      ⟨some ⟨⟨none, 0, 0⟩, 0, 0, []⟩, none, false, [(0, .frame (.resume 1 1 1))], []⟩ := by
  rw [run_cons, onFirst_toServer]
  show drive (.frame 1 (parseServerFrame (.hello (greeting config))) 0 (some 1) random) _ = _
  rw [parse_greeting hpos]
  rfl

theorem second_refused (client : GatewayClient) :
    step wire config (onSecond wire config random client
        ⟨some ⟨⟨none, 0, 0⟩, 0, 0, []⟩, none, false, [(0, .frame (.resume 1 1 1))], []⟩)
      (.toServer 1 (forgetful config)) =
    onSecond wire config random client
      ⟨some ⟨⟨none, 0, 1⟩, 0, 0, []⟩, none, false, [],
        [(0, .text (.invalidSession false))]⟩ := by
  obtain ⟨id, harrive⟩ := @arrive_resume wire config 0 (forgetful config) 0 0 0 false 1 1 1 [] []
    (Nat.zero_le _)
  rw [onSecond_toServer, harrive]
  rfl

theorem second_asked :
    step wire config (onSecond wire config random (resuming wire config random)
        ⟨some ⟨⟨none, 0, 1⟩, 0, 0, []⟩, none, false, [],
          [(0, .text (.invalidSession false))]⟩) (hearNext random 1) =
    onSecond wire config random (refused wire config random)
      ⟨some ⟨⟨none, 0, 1⟩, 0, 0, []⟩, none, false, [(0, .frame (.identify 1 wire.info))], []⟩ :=
  rfl

theorem second_identified (client : GatewayClient) :
    step wire config (onSecond wire config random client
        ⟨some ⟨⟨none, 0, 1⟩, 0, 0, []⟩, none, false, [(0, .frame (.identify 1 wire.info))], []⟩)
      (.toServer 1 (forgetful config)) =
    onSecond wire config random client
      ⟨some ⟨⟨some 1, 0, 2⟩, 0, 0, []⟩, none, false, [], [(0, .text (firstReady config))]⟩ := by
  have harrive := @arrive_identify wire config 0 (forgetful config) 0 0 0 1 false 1 [] []
    (Nat.le_refl 1) (Nat.zero_le _)
  rw [onSecond_toServer, harrive]
  rfl

/-- The second connection after `k` heartbeats, with nothing else on its way. -/
structure Beaten (config : GatewayConfig) (random : Random) (k acks : Nat) (link : Link)
    (w : Timed) : Prop where
  clock : w.clock = k * pace config random
  socket : w.wired.client.socket = some 1
  attached : w.wired.attached = [1]
  ticks : Ticks config w.wired.client
  acks : w.wired.client.missedAcks = acks
  beatAt : w.beatAt = w.clock + pace config random
  links : ∃ gone : Link, gone.up = [] ∧ gone.down = [] ∧ w.links = [gone, link]

/-- An idle link whose server has counted `frames` frames. -/
def counted (id : Uuid) (frames last : Nat) : Link :=
  ⟨some ⟨⟨some id, 0, frames⟩, 0, last, []⟩, none, false, [], []⟩

theorem beaten_zero (hpos : 0 < config.heartbeatIntervalMs) :
    Beaten config random 0 0 (counted 1 2 0) (run (step wire config) (idle wire)
      (firstConnection config random ++ secondConnection config random)) := by
  have hrun : run (step wire config) (idle wire)
      (firstConnection config random ++ secondConnection config random) =
        onSecond wire config random (readied wire config random (refused wire config random))
          ⟨some ⟨⟨some 1, 0, 2⟩, 0, 0, []⟩, none, false, [], []⟩ := by
    have hacts : firstConnection config random ++ secondConnection config random =
        [Act.start 1, Act.accept 0, hearNext random 0] ++ (Act.toServer 0 (forgetful config) ::
          ([hearNext random 0, Act.push 0 (.control Opcode.reconnect), hearNext random 0] ++
            ([Act.toServer 0 (forgetful config), hearNext random 0, Act.retry 1, Act.accept 1,
              hearNext random 1] ++ [Act.toServer 1 (forgetful config), hearNext random 1,
                Act.toServer 1 (forgetful config), hearNext random 1]))) :=
      rfl
    rw [hacts, run_append, first_greeted hpos, run_cons, first_identified, run_append, first_asked,
      run_append, second_greeted hpos, run_cons, second_refused, run_cons, second_asked, run_cons,
      second_identified]
    rfl
  rw [hrun]
  exact {
    clock := (Nat.zero_mul _).symm
    socket := rfl
    attached := rfl
    ticks := ⟨rfl, rfl⟩
    acks := rfl
    beatAt := rfl
    links := ⟨_, rfl, rfl, rfl⟩ }

variable {w : Timed} {link : Link} {k acks : Nat}

theorem Beaten.advance {server : Option LoopState}
    (h : Beaten config random k acks ⟨server, none, false, [], []⟩ w) (wire : Wire) :
    step wire config w (.advance (pace config random)) =
      { w with clock := w.clock + pace config random } := by
  obtain ⟨gone, hup, hdown, hlinks⟩ := h.links
  have hontime : w.OnTime config (w.clock + pace config random) := by
    refine ⟨fun link hmem => ?_, fun _ => Nat.le_of_eq h.beatAt.symm⟩
    rw [hlinks] at hmem
    rcases List.mem_pair.mp hmem with rfl | rfl
    · rw [hup, hdown]
      exact ⟨fun m hm => (by cases hm), fun m hm => (by cases hm)⟩
    · exact ⟨fun m hm => (by cases hm), fun m hm => (by cases hm)⟩
  rw [step, if_pos hontime]

/-- The timer fires in time, and a heartbeat is on its way. -/
theorem Beaten.beat {server : Option LoopState}
    (h : Beaten config random k 0 ⟨server, none, false, [], []⟩ w) (wire : Wire) :
    Beaten config random (k + 1) 1
      ⟨server, none, false, [((k + 1) * pace config random, .frame .heartbeat)], []⟩
      (run (step wire config) w [.advance (pace config random), .beat random]) := by
  obtain ⟨gone, hup, hdown, hlinks⟩ := h.links
  have hclock : w.clock + pace config random = (k + 1) * pace config random := by
    rw [h.clock, Nat.succ_mul]
  obtain ⟨hsends, htimer, hinterval, hacks⟩ :=
    @beat_sends w.wired.client 1 h.socket random (by rw [h.acks]; decide)
  have hsame := @GatewayClient.beat_same w.wired.client random
  have hstep : w.wired.step (.heartbeat random) =
      ({ w.wired with client := (w.wired.client.beat random).1 },
        (w.wired.client.beat random).2) := by
    simp [Wired.step, Wired.handle, Wired.stopCalled, Wired.Act.onFatalStops, h.ticks.timer]
  have hdue : w.wired.client.heartbeatTimer = true ∧
      w.beatAt ≤ w.clock + pace config random := ⟨h.ticks.timer, Nat.le_of_eq h.beatAt⟩
  rw [run_cons, h.advance wire, run_cons, run_nil, step, if_pos hdue]
  rw [drive_eq (w := { w with clock := w.clock + pace config random }) hstep, hsends,
    h.ticks.interval]
  refine ⟨hclock, hsame.socket.trans h.socket, h.attached,
    ⟨htimer, hinterval.trans h.ticks.interval⟩, hacks.trans (congrArg (· + 1) h.acks), rfl, gone,
    hup, hdown, ?_⟩
  show w.links.modify 1 (Link.write (w.clock + pace config random) _) = _
  rw [hlinks, hclock]
  rfl

theorem Beaten.toServer (h : Beaten config random k acks link w) (wire : Wire) :
    Beaten config random k acks
      (link.arrive wire config (k * pace config random) (forgetful config))
      (step wire config w (.toServer 1 (forgetful config))) := by
  obtain ⟨gone, hup, hdown, hlinks⟩ := h.links
  rw [step, if_pos (answers_forgetful config)]
  refine ⟨h.clock, h.socket, h.attached, h.ticks, h.acks, h.beatAt, gone, hup, hdown, ?_⟩
  dsimp only
  rw [hlinks, h.clock]
  rfl

/-- The ack arrives. -/
theorem Beaten.hearNext {server : Option LoopState} {t : Timestamp}
    (h : Beaten config random k acks
      ⟨server, none, false, [], [(t, .text (.control Opcode.heartbeatAck))]⟩ w) (wire : Wire) :
    Beaten config random k 0 ⟨server, none, false, [], []⟩
      (step wire config w (hearNext random 1)) := by
  obtain ⟨gone, hup, hdown, hlinks⟩ := h.links
  have hlink : w.links[1]? = some
      ⟨server, none, false, [], [(t, .text (.control Opcode.heartbeatAck))]⟩ := by
    rw [hlinks]
    rfl
  have hattached : 1 ∈ w.wired.attached := by
    rw [h.attached]
    exact List.mem_singleton_self 1
  have hdriven : step wire config w (Timed.hearNext random 1) = { w with
      links := w.links.set 1 ⟨server, none, false, [], []⟩
      wired := { w.wired with client := { w.wired.client with missedAcks := 0 } } } := by
    unfold Timed.hearNext
    rw [step, hlink]
    exact drive_eq (w := { w with links := w.links.set 1 ⟨server, none, false, [], []⟩ })
      (wired_frame hattached (some .heartbeatAck) w.clock (some 1) random)
  rw [hdriven]
  refine ⟨h.clock, h.socket, h.attached, ⟨h.ticks.timer, h.ticks.interval⟩, rfl, h.beatAt, gone,
    hup, hdown, ?_⟩
  dsimp only
  rw [hlinks]
  rfl

/-- A heartbeat of the first window, while there is room. -/
theorem arrive_counted {id : Uuid} {frames last t : Nat} (hframes : frames < 30)
    (ht : t ≤ 60000) :
    Link.arrive wire config t (forgetful config)
        { counted id frames last with up := [(t, .frame .heartbeat)] } =
      { counted id (frames + 1) t with down := [(t, .text (.control Opcode.heartbeatAck))] } := by
  have hallowed : (⟨some id, 0, frames⟩ : Serve.Connection).allowFrame t =
      (⟨some id, 0, frames + 1⟩, true) := by
    unfold Serve.Connection.allowFrame
    dsimp only
    rw [if_neg (by unfold Limits.frameWindowMs; omega)]
    exact Prod.ext rfl (decide_eq_true hframes)
  exact arrive_frame hallowed (wire.handle_heartbeat _) rfl

/-- And the one for which there is none. -/
theorem arrive_tooMany {id : Uuid} {last t : Nat} (ht : t ≤ 60000) :
    (Link.arrive wire config t (forgetful config)
      { counted id 30 last with up := [(t, .frame .heartbeat)] }).ended = some Wire.tooMany := by
  have hallowed : (⟨some id, 0, 30⟩ : Serve.Connection).allowFrame t =
      (⟨some id, 0, 31⟩, false) := by
    unfold Serve.Connection.allowFrame
    dsimp only
    rw [if_neg (by unfold Limits.frameWindowMs; omega)]
    rfl
  unfold Link.arrive Link.wake counted
  dsimp only
  rw [wire.turn_text, hallowed]
  rfl

theorem Beaten.round {id : Uuid} {frames last : Nat}
    (h : Beaten config random k 0 (counted id frames last) w) (wire : Wire) (hframes : frames < 30)
    (ht : (k + 1) * pace config random ≤ 60000) :
    Beaten config random (k + 1) 0
      (counted id (frames + 1) ((k + 1) * pace config random))
      (run (step wire config) w (round config random)) := by
  have hbeaten : Beaten config random (k + 1) 1
      { counted id frames last with
        up := [((k + 1) * pace config random, .frame .heartbeat)] }
      (run (step wire config) w [.advance (pace config random), .beat random]) := h.beat wire
  have harrived := hbeaten.toServer wire
  rw [arrive_counted hframes ht] at harrived
  exact harrived.hearNext wire

/-- As many heartbeats as there is room for. -/
theorem beaten_rounds (wire : Wire) (hpos : 0 < config.heartbeatIntervalMs)
    (hk : k ≤ 28) (hshort : k * pace config random ≤ 60000) :
    ∃ last, Beaten config random k 0 (counted 1 (k + 2) last) (run (step wire config) (idle wire)
      (firstConnection config random ++ secondConnection config random ++
        (List.replicate k (Timed.round config random)).flatten)) := by
  induction k with
  | zero => exact ⟨0, by simpa using beaten_zero hpos⟩
  | succ k ih =>
      have hsucc := Nat.add_one_mul k (pace config random)
      obtain ⟨last, hbeaten⟩ := ih (by omega) (by omega)
      refine ⟨(k + 1) * pace config random, ?_⟩
      rw [List.replicate_succ', List.flatten_concat, ← List.append_assoc, run_append]
      exact hbeaten.round wire (by omega) hshort

/-- The twenty-ninth heartbeat of a connection that began with a failed resume. -/
theorem not_spared_of_short (wire : Wire) (hpos : 0 < config.heartbeatIntervalMs)
    (hshort : pace config random < 2069) :
    ¬ (run (step wire config) (idle wire) (cutOff config random)).Spared := by
  obtain ⟨last, hbeaten⟩ := @beaten_rounds config random 28 wire hpos (Nat.le_refl 28) (by omega)
  have hbeat : Beaten config random 29 1
      { counted 1 30 last with
        up := [(29 * pace config random, .frame .heartbeat)] } _ :=
    hbeaten.beat wire
  obtain ⟨gone, -, -, hlinks⟩ := (hbeat.toServer wire).links
  intro hspared
  have hover := @arrive_tooMany wire config 1 last (29 * pace config random) (by omega)
  rw [cutOff, run_append] at hspared
  refine hspared.2 _ ?_ _ List.mem_cons_self hover
  rw [run_cons, run_cons, run_cons, run_nil]
  rw [run_cons, run_cons, run_nil] at hlinks
  rw [hlinks]
  exact List.mem_cons_of_mem _ List.mem_cons_self

/-- The client does not read a `HELLO` with an interval of zero, and identifies never. -/
theorem not_spared_of_zero (wire : Wire) (hzero : config.heartbeatIntervalMs = 0) :
    ∃ acts, ¬ (run (step wire config) (idle wire) acts).Spared := by
  have hparsed : parseServerFrame (.hello (greeting config)) = none :=
    if_neg (by rw [greeting, hzero]; exact Nat.lt_irrefl 0)
  let steady : Random := ⟨0, le_refl 0, zero_lt_one⟩
  have hrun : run (step wire config) (idle wire) [.start 1, .accept 0, hearNext steady 0] =
      ⟨0, ⟨wire.info, GatewayClient.idle.start (some 1) 0, [0], 1⟩, 0, false,
        [⟨some ⟨⟨none, 0, 0⟩, 0, 0, []⟩, none, false, [], []⟩]⟩ := by
    show drive (.frame 0 (parseServerFrame (.hello (greeting config))) 0 (some 1) steady) _ = _
    rw [hparsed]
    rfl
  obtain ⟨ms, hms⟩ : ∃ ms, Limits.identifyTimeoutMs ≤ ms := ⟨_, Nat.le_refl _⟩
  refine ⟨[Act.start 1, Act.accept 0, hearNext steady 0] ++
    [Act.advance ms, Act.identifyDeadline 0], ?_⟩
  have hontime : (⟨0, ⟨wire.info, GatewayClient.idle.start (some 1) 0, [0], 1⟩, 0, false,
      [⟨some ⟨⟨none, 0, 0⟩, 0, 0, []⟩, none, false, [], []⟩]⟩ : Timed).OnTime config (0 + ms) := by
    refine ⟨fun link hmem => ?_, fun hon => (by cases hon)⟩
    rw [List.mem_singleton.mp hmem]
    exact ⟨fun m hm => (by cases hm), fun m hm => (by cases hm)⟩
  have hover : (Link.wake wire.codec config (0 + ms) .identifyDeadline
      ⟨some ⟨⟨none, 0, 0⟩, 0, 0, []⟩, none, false, [], []⟩).ended =
        some (some (CloseCode.notAuthenticated, "identify timeout")) := by
    simp [Link.wake, turn, hms, Link.turned]
  rw [run_append, hrun, run_cons, step, if_pos hontime]
  intro hspared
  refine hspared.2 _ List.mem_cons_self _ ?_ hover
  exact List.mem_cons_of_mem _ (List.mem_cons_of_mem _ List.mem_cons_self)

end Cut

/-! ## The frames of one client -/

namespace Jwt

def heartbeatText : String := "\x7b\"op\":4\x7d"

def identifyText : String :=
  "\x7b\"op\":2,\"d\":\x7b\"token\":\"jwt\"," ++
    "\"client\":\x7b\"version\":\"2.0.0\",\"os\":\"linux\"\x7d\x7d\x7d"

def resumeText : String :=
  "\x7b\"op\":3,\"d\":\x7b\"token\":\"jwt\"," ++
    "\"session_id\":\"00000000-0000-0000-0000-000000000001\",\"last_seq\":1\x7d\x7d"

/-- What these texts decode to. -/
def envelope (text : String) : Option (RawClientFrame (Identify ⊕ Resume)) :=
  if text = heartbeatText then some ⟨Opcode.heartbeat, none⟩
  else if text = identifyText then
    some ⟨Opcode.identify, some (.inl ⟨"jwt", ⟨"2.0.0", "linux"⟩⟩)⟩
  else if text = resumeText then some ⟨Opcode.resume, some (.inr ⟨"jwt", 1, 1⟩)⟩
  else none

/-- A client whose token is `jwt`, in its session 1. -/
def wire : Wire where
  codec :=
    { Value := Identify ⊕ Resume
      envelope := envelope
      identify := Sum.getLeft?
      resume := Sum.getRight?
      verifyAccess := fun _ token => if token = "jwt" then some "1" else none
      parseUuid := fun subject => if subject = "1" then some 1 else none }
  info := ⟨"2.0.0", "linux"⟩
  encode
    | .heartbeat => heartbeatText
    | .identify _ _ => identifyText
    | .resume _ _ _ => resumeText
  fits frame := by
    cases frame with
    | identify token info => show identifyText.utf8ByteSize ≤ 4096; decide
    | resume token sessionId lastSeq => show resumeText.utf8ByteSize ≤ 4096; decide
    | heartbeat => show heartbeatText.utf8ByteSize ≤ 4096; decide
  heartbeat := ⟨none, rfl⟩
  identify token := ⟨_, _, 1, rfl, rfl, rfl, fun _ => rfl⟩
  resume token sessionId lastSeq := ⟨_, _, 1, rfl, rfl, fun _ => rfl⟩

end Jwt

/-! ## The delays of an interval -/

/-- Every delay of the interval is in the turn of the 32 bits of a timer, neither in its first
2069 ms nor in the half that is negative. -/
def InTurn (turn intervalMs : Nat) : Prop :=
  turn * 2 ^ 32 + 2069 ≤ intervalMs ∧ 11 * intervalMs + 5 ≤ 10 * (turn * 2 ^ 32 + 2 ^ 31)

theorem inTurn_zero {intervalMs : Nat} :
    InTurn 0 intervalMs ↔ 2069 ≤ intervalMs ∧ intervalMs ≤ 1952257861 := by
  unfold InTurn
  omega

/-- An interval that is in no turn has a delay which the timer cuts short. -/
theorem exists_timerMs_short {intervalMs : Nat} (hpos : 0 < intervalMs)
    (hturn : ∀ turn, ¬ InTurn turn intervalMs) :
    ∃ random, timerMs (heartbeatDelayMs intervalMs random) < 2069 := by
  have hdelay : ∀ delayMs, intervalMs ≤ delayMs → 10 * delayMs < 11 * intervalMs + 5 →
      timerMs delayMs < 2069 → ∃ random, timerMs (heartbeatDelayMs intervalMs random) < 2069 := by
    intro delayMs hlow hhigh hshort
    obtain ⟨random, hrandom⟩ := exists_heartbeatDelayMs hlow hhigh
    exact ⟨random, by rw [hrandom]; exact hshort⟩
  by_cases hnow : timerMs intervalMs < 2069
  · exact hdelay intervalMs (Nat.le_refl _) (by omega) hnow
  -- the first delay whose 32 bits are negative
  have hsplit := Nat.div_add_mod intervalMs (2 ^ 32)
  have hout := hturn (intervalMs / 2 ^ 32)
  unfold timerMs at hnow
  unfold InTurn at hout
  split at hnow
  · refine hdelay (intervalMs / 2 ^ 32 * 2 ^ 32 + 2 ^ 31) (by omega) (by omega) ?_
    have hnegative : (intervalMs / 2 ^ 32 * 2 ^ 32 + 2 ^ 31) % 2 ^ 32 = 2 ^ 31 := by omega
    unfold timerMs
    rw [hnegative]
    decide
  · exact absurd (by decide) hnow

/-- The client is spared in every run if the interval is neither too short nor too long for a
timer, whatever its jitter; and only then, unless it is so long that every delay of it comes round
to a later turn of the 32 bits. -/
theorem spared_bounds (wire : Wire) (config : GatewayConfig) :
    (2069 ≤ config.heartbeatIntervalMs ∧ config.heartbeatIntervalMs ≤ 1952257861 →
        ∀ acts, Throughout (step wire config) Spared (idle wire) acts) ∧
      ((∀ acts, Throughout (step wire config) Spared (idle wire) acts) →
        2069 ≤ config.heartbeatIntervalMs ∧ config.heartbeatIntervalMs ≤ 1952257861 ∨
          ∃ turn, 0 < turn ∧ InTurn turn config.heartbeatIntervalMs) := by
  constructor
  · intro hin acts
    have hcompatible : Compatible config := ⟨hin.1, by omega⟩
    exact spared_throughout wire hcompatible acts
  · intro hspared
    have hend : ∀ acts, (run (step wire config) (idle wire) acts).Spared := fun acts =>
      throughout_iff_initial.mp (hspared acts) acts List.prefix_rfl
    by_contra hout
    rcases Nat.eq_zero_or_pos config.heartbeatIntervalMs with hzero | hpos
    · obtain ⟨acts, hcut⟩ := not_spared_of_zero wire hzero
      exact hcut (hend acts)
    · obtain ⟨random, hshort⟩ := exists_timerMs_short hpos fun turn hin => by
        rcases Nat.eq_zero_or_pos turn with rfl | hlater
        · exact hout (.inl (inTurn_zero.mp hin))
        · exact hout (.inr ⟨turn, hlater, hin⟩)
      exact not_spared_of_short wire hpos hshort (hend (cutOff config random))

/-- With the interval of `.env.example`. -/
theorem jwt_spared :
    ∀ acts, Throughout (step Jwt.wire ⟨30000, 90000, 500, 4⟩) Spared (idle Jwt.wire) acts :=
  (spared_bounds Jwt.wire ⟨30000, 90000, 500, 4⟩).1 (by decide)

/-- The process starts with an interval that is too short, and with one whose timer fires at
once. -/
theorem jwt_not_spared :
    (∃ config : Api.Env.Config String,
      Api.Env.fromSource (fun addr => .ok addr) (Api.Env.gatewayEnv ⟨2068, 90000, 500, 4⟩) =
          .ok config ∧
        ¬ ∀ acts, Throughout (step Jwt.wire config.gateway) Spared (idle Jwt.wire) acts) ∧
      ∃ config : Api.Env.Config String,
        Api.Env.fromSource (fun addr => .ok addr) (Api.Env.gatewayEnv ⟨2 ^ 31, 90000, 500, 4⟩) =
            .ok config ∧
          ¬ ∀ acts, Throughout (step Jwt.wire config.gateway) Spared (idle Jwt.wire) acts := by
  have hcut : ∀ config : GatewayConfig, 0 < config.heartbeatIntervalMs →
      timerMs config.heartbeatIntervalMs < 2069 →
      ¬ ∀ acts, Throughout (step Jwt.wire config) Spared (idle Jwt.wire) acts := by
    intro config hpos hshort hspared
    obtain ⟨random, hrandom⟩ :=
      exists_heartbeatDelayMs (Nat.le_refl config.heartbeatIntervalMs) (by omega)
    refine not_spared_of_short Jwt.wire hpos ?_
      (throughout_iff_initial.mp (hspared (cutOff config random)) _ List.prefix_rfl)
    unfold pace
    rw [hrandom]
    exact hshort
  constructor
  · exact ⟨_, Api.Env.fromSource_gatewayEnv ⟨by decide, by decide, by decide, by decide⟩,
      hcut ⟨2068, 90000, 500, 4⟩ (by decide) (by decide)⟩
  · exact ⟨_, Api.Env.fromSource_gatewayEnv ⟨by decide, by decide, by decide, by decide⟩,
      hcut ⟨2 ^ 31, 90000, 500, 4⟩ (by decide) (by decide)⟩

end Timed
end Desktop
end Ldktela
