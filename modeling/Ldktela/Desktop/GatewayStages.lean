import Ldktela.Desktop.TimedGateway

/-!
# How far a connection has come

A `Stage` says what is on its way in either direction, and how the moment it was written
stands to the heartbeat timer of the client and to the window and the last heartbeat of the
server.  At most one frame of the client is on its way at a time, which is why the budget of
a window is a matter of the spacing of the heartbeats alone.

The rounds of the server keep it: a frame that arrives finds room in its window
(`Stage.arrive`), and no timer finds the connection late (`Stage.alive`).
-/

namespace Ldktela
namespace Desktop

open Protocol
open Runs
open Gateway
open Gateway.Serve

/-- The intervals for which the limits fit together, and every delay of a heartbeat fits a
timer. -/
def Compatible (config : GatewayConfig) : Prop :=
  2069 ≤ config.heartbeatIntervalMs ∧ 11 * config.heartbeatIntervalMs + 5 ≤ 10 * 2 ^ 31

instance (config : GatewayConfig) : Decidable (Compatible config) :=
  inferInstanceAs (Decidable (_ ∧ _))

theorem Compatible.timerMs {config : GatewayConfig} (h : Compatible config) (random : Random) :
    timerMs (heartbeatDelayMs config.heartbeatIntervalMs random) =
      heartbeatDelayMs config.heartbeatIntervalMs random := by
  have hfits := h.2
  have hhigh := heartbeatDelayMs_le config.heartbeatIntervalMs random
  exact timerMs_of_lt (by omega)

/-! ## How far a connection has come -/

/-- What a client hears once the handshake is over. -/
def Heard (config : GatewayConfig) : WireFrame → Prop
  | .text frame => frame = .control Opcode.heartbeatAck ∨ Sent config frame
  | .hello _ => False
  | .close _ => False

section Stages

variable (wire : Wire) (config : GatewayConfig)

/-- The heartbeat timer was set at most `late` before the moment, or up to its interval
before it fires. -/
structure TimerSet (late written beatAt : Nat) : Prop where
  earliest : written + config.heartbeatIntervalMs ≤ beatAt + late
  latest : 10 * beatAt ≤ 10 * written + (11 * config.heartbeatIntervalMs + 5)

/-- The heartbeat timer is set, for the interval of the server. -/
structure Ticks (c : GatewayClient) : Prop where
  timer : c.heartbeatTimer = true
  interval : c.heartbeatIntervalMs = config.heartbeatIntervalMs

/-- The server has closed a socket that the client has closed. -/
inductive Closed : Link → Prop where
  | mk {server up down} : Closed ⟨server, some none, true, up, down⟩

/-- The client has closed the socket at that moment, and the server is still to hear of it. -/
inductive Draining (closedAt : Nat) : Link → Prop where
  | greeting {a L F : Nat} {down} (haccepted : closedAt ≤ a + 3 * maxDelay config)
      (hdown : ∀ m ∈ down, ∀ reason, m.2 ≠ .close reason) :
      Draining closedAt ⟨some ⟨⟨none, a, F⟩, a, L, []⟩, none, true, [(closedAt, .closed)], down⟩
  | resuming {a L s : Nat} {down token sessionId lastSeq} (hwritten : s ≤ a + maxDelay config)
      (hclosed : closedAt ≤ s + maxDelay config)
      (hdown : ∀ m ∈ down, ∀ reason, m.2 ≠ .close reason) :
      Draining closedAt ⟨some ⟨⟨none, a, 0⟩, a, L, []⟩, none, true,
        [(s, .frame (.resume token sessionId lastSeq)), (closedAt, .closed)], down⟩
  | identifying {a L s F : Nat} {down token} (hF : F ≤ 1) (hwritten : s ≤ a + 3 * maxDelay config)
      (hclosed : closedAt ≤ s + maxDelay config)
      (hdown : ∀ m ∈ down, ∀ reason, m.2 ≠ .close reason) :
      Draining closedAt ⟨some ⟨⟨none, a, F⟩, a, L, []⟩, none, true,
        [(s, .frame (.identify token wire.info)), (closedAt, .closed)], down⟩
  | ready {id} {w F a L : Nat} {down}
      (hlast : closedAt + maxDelay config ≤ L + config.heartbeatIntervalMs * 2)
      (hdown : ∀ m ∈ down, ∀ reason, m.2 ≠ .close reason) :
      Draining closedAt ⟨some ⟨⟨some id, w, F⟩, a, L, []⟩, none, true, [(closedAt, .closed)],
        down⟩
  | beating {id} {w F a L s : Nat} {down} (hwindow : w + F * config.heartbeatIntervalMs ≤
        s + config.heartbeatIntervalMs)
      (hlast : s + maxDelay config ≤ L + config.heartbeatIntervalMs * 2)
      (hclosed : closedAt ≤ s + maxDelay config)
      (hdown : ∀ m ∈ down, ∀ reason, m.2 ≠ .close reason) :
      Draining closedAt ⟨some ⟨⟨some id, w, F⟩, a, L, []⟩, none, true,
        [(s, .frame .heartbeat), (closedAt, .closed)], down⟩

/-- A connection of the client's socket; `beatAt` is when the heartbeat timer fires. -/
inductive Stage (c : GatewayClient) (beatAt : Nat) : Link → Prop where
  | opened (htimer : c.heartbeatTimer = false) : Stage c beatAt Link.opened
  | greeted {a : Nat} (htimer : c.heartbeatTimer = false) :
      Stage c beatAt ⟨some ⟨⟨none, a, 0⟩, a, a, []⟩, none, false, [],
        [(a, .hello ⟨config.heartbeatIntervalMs, config.sessionTtlMs⟩)]⟩
  | resuming {a L s : Nat} {token sessionId lastSeq} (hticks : Ticks config c) (haccepted : a ≤ s)
      (hwritten : s ≤ a + maxDelay config) (htimer : TimerSet config 0 s beatAt)
      (hacks : c.missedAcks = 0) :
      Stage c beatAt ⟨some ⟨⟨none, a, 0⟩, a, L, []⟩, none, false,
        [(s, .frame (.resume token sessionId lastSeq))], []⟩
  | refused {a L s : Nat} (hticks : Ticks config c)
    (haccepted : a + config.heartbeatIntervalMs ≤ beatAt)
      (hwritten : s ≤ a + 2 * maxDelay config) (htimer : TimerSet config (maxDelay config) s beatAt)
      (hacks : c.missedAcks = 0) :
      Stage c beatAt ⟨some ⟨⟨none, a, 1⟩, a, L, []⟩, none, false, [],
        [(s, .text (.invalidSession false))]⟩
  | identifying {a L s F : Nat} {token} (hticks : Ticks config c) (hF : F ≤ 1)
      (haccepted : a + config.heartbeatIntervalMs ≤ beatAt)
      (hwritten : s ≤ a + 3 * maxDelay config)
      (htimer : TimerSet config (2 * maxDelay config) s beatAt) (hacks : c.missedAcks = 0) :
      Stage c beatAt ⟨some ⟨⟨none, a, F⟩, a, L, []⟩, none, false,
        [(s, .frame (.identify token wire.info))], []⟩
  | ready {id} {w F a L : Nat} {down} (hticks : Ticks config c)
      (hwindow : w + F * config.heartbeatIntervalMs ≤ beatAt + config.heartbeatIntervalMs)
      (hlast : 10 * beatAt ≤ 10 * L + (11 * config.heartbeatIntervalMs + 5))
      (hacks : c.missedAcks = 0 ∨ c.missedAcks = 1 ∧
        ∃ s, (s, .text (.control Opcode.heartbeatAck)) ∈ down ∧
          s + config.heartbeatIntervalMs ≤ beatAt + maxDelay config)
      (hdown : ∀ m ∈ down, Heard config m.2) :
      Stage c beatAt ⟨some ⟨⟨some id, w, F⟩, a, L, []⟩, none, false, [], down⟩
  | beating {id} {w F a L s : Nat} {down} (hticks : Ticks config c)
      (hwindow : w + F * config.heartbeatIntervalMs ≤ s + config.heartbeatIntervalMs)
      (hlast : 10 * s ≤ 10 * L + (11 * config.heartbeatIntervalMs + 5))
      (htimer : TimerSet config 0 s beatAt) (hacks : c.missedAcks ≤ 1)
      (hdown : ∀ m ∈ down, Heard config m.2) :
      Stage c beatAt ⟨some ⟨⟨some id, w, F⟩, a, L, []⟩, none, false, [(s, .frame .heartbeat)],
        down⟩
  | draining {link closedAt} (hticks : Ticks config c)
      (hacks : c.missedAcks ≤ 1 ∨ closedAt + config.heartbeatIntervalMs ≤ beatAt)
      (h : Draining wire config closedAt link) : Stage c beatAt link
  | closed {server down} {s closedAt : Nat} (hticks : Ticks config c)
      (hacks : c.missedAcks ≤ 1 ∨ closedAt + config.heartbeatIntervalMs ≤ beatAt)
      (hclosed : closedAt ≤ s) (hwritten : s ≤ closedAt + maxDelay config)
      (hdown : ∀ m ∈ down, ∀ reason, m.2 ≠ .close reason) :
      Stage c beatAt ⟨server, some none, true, [], down ++ [(s, .close none)]⟩

/-- A connection whose socket the client has let go. -/
inductive Left : Link → Prop where
  | unserved {up down} : Left ⟨none, none, true, up, down⟩
  | draining {link closedAt} (h : Draining wire config closedAt link) : Left link
  | closed {link} (h : Closed link) : Left link

end Stages

/-! ## The rounds of the server -/

section Rounds

variable {wire : Wire} {config : GatewayConfig} {c : GatewayClient} {beatAt closedAt now : Nat}
  {link : Link} {hub : HubAnswer}

theorem four_maxDelay_le (config : GatewayConfig) :
    4 * maxDelay config ≤ config.heartbeatIntervalMs := by
  unfold maxDelay
  omega

theorem maxDelay_le (config : GatewayConfig) : maxDelay config ≤ 2000 :=
  Nat.min_le_left _ _

/-- A window takes one more heartbeat when those it has are an interval apart. -/
theorem frames_lt {h w F s now : Nat} (hcompatible : 2069 ≤ h) (hwindow : w + F * h ≤ s + h)
    (hwritten : s ≤ now) (hnow : now ≤ w + 60000) : F < 30 := by
  by_contra hF
  have hmul : 30 * h ≤ F * h := Nat.mul_le_mul_right h (Nat.le_of_not_lt hF)
  omega

/-- The frame is counted, and the next one has room as well. -/
theorem allowFrame_heartbeat {session : Option Uuid} {w F s : Nat}
    (hcompatible : Compatible config)
    (hwindow : w + F * config.heartbeatIntervalMs ≤ s + config.heartbeatIntervalMs)
    (hwritten : s ≤ now) (hnow : now ≤ s + maxDelay config) :
    ∃ w' F' : Nat, (⟨session, w, F⟩ : Serve.Connection).allowFrame now = (⟨session, w', F'⟩, true) ∧
      w' + F' * config.heartbeatIntervalMs ≤ s + 2 * config.heartbeatIntervalMs := by
  have hdelay := four_maxDelay_le config
  unfold Serve.Connection.allowFrame
  dsimp only
  by_cases hnext : Limits.frameWindowMs < now - w
  · rw [if_pos hnext]
    refine ⟨now, 1, rfl, ?_⟩
    omega
  · rw [if_neg hnext]
    have hF : F < 30 := by
      refine frames_lt hcompatible.1 hwindow hwritten ?_
      unfold Limits.frameWindowMs at hnext
      omega
    refine ⟨w, F + 1, Prod.ext rfl (decide_eq_true hF), ?_⟩
    rw [Nat.succ_mul]
    omega

/-- The frames of the handshake are all in the first window. -/
theorem allowFrame_handshake {session : Option Uuid} {a F : Nat} (hF : F ≤ 1)
    (hnow : now ≤ a + 10000) :
    (⟨session, a, F⟩ : Serve.Connection).allowFrame now = (⟨session, a, F + 1⟩, true) := by
  unfold Serve.Connection.allowFrame
  dsimp only
  rw [if_neg (by unfold Limits.frameWindowMs; omega)]
  have hroom : F + 1 ≤ Limits.maxFramesPerWindow := by
    unfold Limits.maxFramesPerWindow
    omega
  exact Prod.ext rfl (decide_eq_true hroom)

/-- What is on its way was written before now, and is not overdue. -/
structure Punctual (config : GatewayConfig) (now : Nat) (link : Link) : Prop where
  up : ∀ m ∈ link.up, m.1 ≤ now ∧ now ≤ m.1 + maxDelay config
  down : ∀ m ∈ link.down, m.1 ≤ now ∧ now ≤ m.1 + maxDelay config

theorem Punctual.heard {server ended closing up} {t : Nat} {message rest}
    (h : Punctual config now ⟨server, ended, closing, up, (t, message) :: rest⟩) :
    t ≤ now ∧ now ≤ t + maxDelay config :=
  h.down _ List.mem_cons_self

theorem Punctual.next {server ended closing} {t : Nat} {message rest down}
    (h : Punctual config now ⟨server, ended, closing, (t, message) :: rest, down⟩) :
    t ≤ now ∧ now ≤ t + maxDelay config :=
  h.up _ List.mem_cons_self

theorem Punctual.rest {server ended closing up} {m : Timestamp × WireFrame} {rest}
    (h : Punctual config now ⟨server, ended, closing, up, m :: rest⟩) :
    Punctual config now ⟨server, ended, closing, up, rest⟩ :=
  ⟨h.up, fun _ hmem => h.down _ (List.mem_cons_of_mem m hmem)⟩

/-- A frame that is counted and understood. -/
theorem arrive_frame {s : LoopState} {conn conn' : Serve.Connection} {frames : List OutFrame}
    {closing : Bool} {t : Nat} {frame : ClientFrame} {rest down}
    (hallowed : s.conn.allowFrame now = (conn, true))
    (hhandled : handle wire.codec now hub (wire.encode frame) conn = .ok (conn', frames))
    (hqueue : s.queue = []) :
    Link.arrive wire config now hub ⟨some s, none, closing, (t, .frame frame) :: rest, down⟩ =
      ⟨some ⟨conn', s.started, now, []⟩, none, closing, rest,
        down ++ frames.map fun frame => (now, .text frame)⟩ := by
  unfold Link.arrive Link.wake
  dsimp only
  rw [wire.turn_text, hallowed]
  dsimp only
  rw [hhandled, hqueue]
  rfl

/-- The end of the socket. -/
theorem arrive_closed {s : LoopState} {closing : Bool} {t : Nat} {rest down} :
    Link.arrive wire config now hub ⟨some s, none, closing, (t, .closed) :: rest, down⟩ =
      ⟨some s, some none, closing, rest, down ++ [(now, .close none)]⟩ :=
  rfl

theorem arrive_heartbeat {id : Uuid} {w F a L t : Nat} {closing : Bool} {rest down}
    (hcompatible : Compatible config)
    (hwindow : w + F * config.heartbeatIntervalMs ≤ t + config.heartbeatIntervalMs)
    (hwritten : t ≤ now) (hnow : now ≤ t + maxDelay config) :
    ∃ w' F' : Nat, Link.arrive wire config now hub
        ⟨some ⟨⟨some id, w, F⟩, a, L, []⟩, none, closing, (t, .frame .heartbeat) :: rest, down⟩ =
      ⟨some ⟨⟨some id, w', F'⟩, a, now, []⟩, none, closing, rest,
        down ++ [(now, .text (.control Opcode.heartbeatAck))]⟩ ∧
      w' + F' * config.heartbeatIntervalMs ≤ t + 2 * config.heartbeatIntervalMs := by
  obtain ⟨w', F', hallowed, hroom⟩ :=
    @allowFrame_heartbeat config now (some id) w F t hcompatible hwindow hwritten hnow
  exact ⟨w', F', arrive_frame hallowed (wire.handle_heartbeat _) rfl, hroom⟩

theorem arrive_resume {a L t : Nat} {closing : Bool} {token sessionId lastSeq rest down}
    (hnow : now ≤ a + 10000) :
    ∃ id, Link.arrive wire config now hub ⟨some ⟨⟨none, a, 0⟩, a, L, []⟩, none, closing,
        (t, .frame (.resume token sessionId lastSeq)) :: rest, down⟩ =
      match hub.resumed with
      | none => ⟨some ⟨⟨none, a, 1⟩, a, now, []⟩, none, closing, rest,
          down ++ [(now, .text (.invalidSession false))]⟩
      | some frames => ⟨some ⟨⟨some id, a, 1⟩, a, now, []⟩, none, closing, rest,
          down ++ frames.map fun frame => (now, .text frame)⟩ := by
  have hallowed := @allowFrame_handshake now none a 0 (Nat.zero_le 1) hnow
  obtain ⟨id, hhandled⟩ :=
    @Wire.handle_resume wire now hub token sessionId lastSeq ⟨none, a, 1⟩ rfl
  refine ⟨id, ?_⟩
  cases hresumed : hub.resumed with
  | none =>
      rw [hresumed] at hhandled
      exact arrive_frame hallowed hhandled rfl
  | some frames =>
      rw [hresumed] at hhandled
      exact arrive_frame hallowed hhandled rfl

theorem arrive_identify {a L t F : Nat} {closing : Bool} {token rest down} (hF : F ≤ 1)
    (hnow : now ≤ a + 10000) :
    Link.arrive wire config now hub ⟨some ⟨⟨none, a, F⟩, a, L, []⟩, none, closing,
        (t, .frame (.identify token wire.info)) :: rest, down⟩ =
      ⟨some ⟨⟨some hub.sessionId, a, F + 1⟩, a, now, []⟩, none, closing, rest,
        down ++ [(now, .text hub.ready)]⟩ :=
  arrive_frame (@allowFrame_handshake now none a F hF hnow)
    (@Wire.handle_identify wire now hub token ⟨none, a, F + 1⟩ rfl) rfl

/-- The end of a drained connection: the loop is over, and the client will hear of it. -/
def Over (config : GatewayConfig) (closedAt : Nat) (link : Link) : Prop :=
  ∃ server down, ∃ s : Nat, link = ⟨server, some none, true, [], down ++ [(s, .close none)]⟩ ∧
    closedAt ≤ s ∧ s ≤ closedAt + maxDelay config ∧ ∀ m ∈ down, ∀ reason, m.2 ≠ .close reason

theorem no_close_append {down : List (Timestamp × WireFrame)} {frames : List OutFrame}
    (h : ∀ m ∈ down, ∀ reason, m.2 ≠ .close reason) :
    ∀ m ∈ down ++ frames.map fun frame => (now, WireFrame.text frame),
      ∀ reason, m.2 ≠ .close reason := by
  intro m hmem reason
  rcases List.mem_append.mp hmem with hold | hnew
  · exact h m hold reason
  · obtain ⟨frame, -, rfl⟩ := List.mem_map.mp hnew
    exact WireFrame.noConfusion

theorem no_close_of_heard {down : List (Timestamp × WireFrame)}
    (h : ∀ m ∈ down, Heard config m.2) : ∀ m ∈ down, ∀ reason, m.2 ≠ .close reason := by
  intro m hmem reason heq
  have hheard := h m hmem
  rw [heq] at hheard
  exact hheard

theorem Draining.closing (h : Draining wire config closedAt link) : link.closing = true := by
  cases h with
  | greeting _ _ => rfl
  | resuming _ _ _ => rfl
  | identifying _ _ _ _ => rfl
  | ready _ _ => rfl
  | beating _ _ _ _ => rfl

/-- The server will hear of it in time. -/
theorem Draining.closed_le (h : Draining wire config closedAt link)
    (hpunctual : Punctual config now link) :
    closedAt ≤ now ∧ now ≤ closedAt + maxDelay config := by
  cases h with
  | greeting _ _ => exact hpunctual.next
  | resuming _ _ _ => exact hpunctual.up _ (List.mem_cons_of_mem _ List.mem_cons_self)
  | identifying _ _ _ _ => exact hpunctual.up _ (List.mem_cons_of_mem _ List.mem_cons_self)
  | ready _ _ => exact hpunctual.next
  | beating _ _ _ _ => exact hpunctual.up _ (List.mem_cons_of_mem _ List.mem_cons_self)

theorem Draining.no_close (h : Draining wire config closedAt link) :
    ∀ m ∈ link.down, ∀ reason, m.2 ≠ .close reason := by
  cases h with
  | greeting _ hdown => exact hdown
  | resuming _ _ hdown => exact hdown
  | identifying _ _ _ hdown => exact hdown
  | ready _ hdown => exact hdown
  | beating _ _ _ hdown => exact hdown

/-- What the client does not hear any more. -/
theorem Draining.rest {server ended closing up} {m : Timestamp × WireFrame} {rest}
    (h : Draining wire config closedAt ⟨server, ended, closing, up, m :: rest⟩) :
    Draining wire config closedAt ⟨server, ended, closing, up, rest⟩ := by
  have hrest : ∀ m ∈ rest, ∀ reason, m.2 ≠ .close reason := fun other hmem =>
    h.no_close other (List.mem_cons_of_mem m hmem)
  cases h with
  | greeting haccepted _ => exact .greeting haccepted hrest
  | resuming hwritten hclosed _ => exact .resuming hwritten hclosed hrest
  | identifying hF hwritten hclosed _ => exact .identifying hF hwritten hclosed hrest
  | ready hlast _ => exact .ready hlast hrest
  | beating hwindow hlast hclosed _ => exact .beating hwindow hlast hclosed hrest

theorem Draining.arrive (h : Draining wire config closedAt link) (hcompatible : Compatible config)
    (hpunctual : Punctual config now link) :
    Draining wire config closedAt (Link.arrive wire config now hub link) ∨
      Over config closedAt (Link.arrive wire config now hub link) := by
  have hdelay := four_maxDelay_le config
  have hbound := maxDelay_le config
  cases h with
  | greeting haccepted hdown =>
      obtain ⟨hpast, hnow⟩ := hpunctual.next
      rw [arrive_closed]
      exact .inr ⟨_, _, _, rfl, hpast, hnow, hdown⟩
  | @resuming a L s down token sessionId lastSeq hwritten hclosed hdown =>
      obtain ⟨hpast, hnow⟩ := hpunctual.next
      obtain ⟨id, hlink⟩ := @arrive_resume wire config now hub a L s true token sessionId lastSeq
        [(closedAt, .closed)] down (by omega)
      left
      rw [hlink]
      cases hub.resumed with
      | none => exact .greeting (by omega) (@no_close_append now down [.invalidSession false] hdown)
      | some frames => exact .ready (by omega) (no_close_append hdown)
  | @identifying a L s F down token hF hwritten hclosed hdown =>
      obtain ⟨hpast, hnow⟩ := hpunctual.next
      left
      rw [arrive_identify hF (by omega)]
      exact .ready (by omega) (@no_close_append now down [hub.ready] hdown)
  | @ready id w F a L down hlast hdown =>
      obtain ⟨hpast, hnow⟩ := hpunctual.next
      rw [arrive_closed]
      exact .inr ⟨_, _, _, rfl, hpast, hnow, hdown⟩
  | @beating id w F a L s down hwindow hlast hclosed hdown =>
      obtain ⟨hpast, hnow⟩ := hpunctual.next
      obtain ⟨w', F', hlink, -⟩ :=
        @arrive_heartbeat wire config now hub id w F a L s true _ down hcompatible hwindow hpast
          hnow
      left
      rw [hlink]
      exact .ready (by omega) (@no_close_append now down [.control Opcode.heartbeatAck] hdown)

theorem Stage.arrive (h : Stage wire config c beatAt link) (hcompatible : Compatible config)
    (hpunctual : Punctual config now link) (hanswers : Answers config hub) :
    Stage wire config c beatAt (Link.arrive wire config now hub link) := by
  have hdelay := four_maxDelay_le config
  have hbound := maxDelay_le config
  cases h with
  | opened htimer => exact .opened htimer
  | greeted htimer => exact .greeted htimer
  | @resuming a L s token sessionId lastSeq hticks haccepted hwritten htimer hacks =>
      obtain ⟨hpast, hnow⟩ := hpunctual.next
      have hearliest := htimer.earliest
      have hlatest := htimer.latest
      obtain ⟨id, hlink⟩ := @arrive_resume wire config now hub a L s false token sessionId lastSeq
        [] [] (by omega)
      rw [hlink]
      cases hresumed : hub.resumed with
      | none => exact .refused hticks (by omega) (by omega) ⟨by omega, by omega⟩ hacks
      | some frames =>
          refine .ready hticks (by omega) (by omega) (.inl hacks) fun m hmem => ?_
          obtain ⟨frame, hframe, rfl⟩ := List.mem_map.mp hmem
          exact .inr (hanswers.2 frames hresumed frame hframe)
  -- the server has said all it had to say
  | refused hticks haccepted hwritten htimer hacks =>
      exact .refused hticks haccepted hwritten htimer hacks
  | @identifying a L s F token hticks hF haccepted hwritten htimer hacks =>
      obtain ⟨hpast, hnow⟩ := hpunctual.next
      have hlatest := htimer.latest
      rw [arrive_identify hF (by omega)]
      refine .ready hticks ?_ (by omega) (.inl hacks) fun m hmem => ?_
      · -- the identify and the frames before it fit in two intervals
        have hmul : (F + 1) * config.heartbeatIntervalMs ≤ 2 * config.heartbeatIntervalMs :=
          Nat.mul_le_mul_right _ (by omega)
        omega
      · rw [List.mem_singleton.mp hmem]
        exact .inr hanswers.1
  | ready hticks hwindow hlast hacks hdown => exact .ready hticks hwindow hlast hacks hdown
  | @beating id w F a L s down hticks hwindow hlast htimer hacks hdown =>
      obtain ⟨hpast, hnow⟩ := hpunctual.next
      have hearliest := htimer.earliest
      have hlatest := htimer.latest
      obtain ⟨w', F', hlink, hroom⟩ :=
        @arrive_heartbeat wire config now hub id w F a L s false [] down hcompatible hwindow hpast
          hnow
      rw [hlink]
      refine .ready hticks (by omega) (by omega) ?_ fun m hmem => ?_
      · -- the ack to this beat is what the next one will find
        rcases Nat.le_one_iff_eq_zero_or_eq_one.mp hacks with hnone | hone
        · exact .inl hnone
        · exact .inr ⟨hone, now, List.mem_append_right _ List.mem_cons_self, by omega⟩
      · rcases List.mem_append.mp hmem with hold | hnew
        · exact hdown m hold
        · rw [List.mem_singleton.mp hnew]
          exact .inl rfl
  | draining hticks hacks h =>
      rcases @Draining.arrive wire config _ now link hub h hcompatible hpunctual with
        hstill | ⟨server, down, s, hlink, hclosed, hwritten, hdown⟩
      · exact .draining hticks hacks hstill
      · rw [hlink]
        exact .closed hticks hacks hclosed hwritten hdown
  | closed hticks hacks hclosed hwritten hdown =>
      exact .closed hticks hacks hclosed hwritten hdown

/-- The client closes the socket. -/
theorem Stage.leave (h : Stage wire config c beatAt link) (hcompatible : Compatible config)
    (hpunctual : Punctual config now link) (htimer : c.heartbeatTimer = true → now ≤ beatAt) :
    Left wire config (link.write now .closed) := by
  have hdelay := four_maxDelay_le config
  have hinterval := hcompatible.1
  cases h with
  | opened _ => exact .unserved
  | greeted _ =>
      have hnow := hpunctual.heard.2
      refine .draining (.greeting (by omega) fun m hmem reason => ?_)
      rw [List.mem_singleton.mp hmem]
      exact WireFrame.noConfusion
  | resuming hticks haccepted hwritten hset hacks =>
      exact .draining (.resuming hwritten hpunctual.next.2 fun m hmem => by cases hmem)
  | refused hticks haccepted hwritten hset hacks =>
      have hnow := hpunctual.heard.2
      refine .draining (.greeting (by omega) fun m hmem reason => ?_)
      rw [List.mem_singleton.mp hmem]
      exact WireFrame.noConfusion
  | identifying hticks hF haccepted hwritten hset hacks =>
      exact .draining (.identifying hF hwritten hpunctual.next.2 fun m hmem => by cases hmem)
  | ready hticks hwindow hlast hacks hdown =>
      have hnow := htimer hticks.timer
      exact .draining (.ready (by omega) (no_close_of_heard hdown))
  | beating hticks hwindow hlast hset hacks hdown =>
      exact .draining (.beating hwindow (by omega) hpunctual.next.2 (no_close_of_heard hdown))
  | draining hticks hacks h =>
      rw [show link.write now .closed = link from if_pos h.closing]
      exact .draining h
  | closed hticks hacks hclosed hwritten hdown => exact .closed .mk

theorem Left.closing (h : Left wire config link) : link.closing = true := by
  cases h with
  | unserved => rfl
  | draining h => exact h.closing
  | closed h =>
      cases h with
      | mk => rfl

theorem Left.rest {server ended closing up} {m : Timestamp × WireFrame} {rest}
    (h : Left wire config ⟨server, ended, closing, up, m :: rest⟩) :
    Left wire config ⟨server, ended, closing, up, rest⟩ := by
  cases h with
  | unserved => exact .unserved
  | draining h => exact .draining h.rest
  | closed h =>
      cases h with
      | mk => exact .closed .mk

theorem Left.arrive (h : Left wire config link) (hcompatible : Compatible config)
    (hpunctual : Punctual config now link) :
    Left wire config (Link.arrive wire config now hub link) := by
  cases h with
  | @unserved up down =>
      cases up with
      | nil => exact .unserved
      | cons m rest =>
          obtain ⟨t, message⟩ := m
          exact .unserved
  | draining h =>
      rcases @Draining.arrive wire config _ now link hub h hcompatible hpunctual with
        hstill | ⟨server, down, s, hlink, -, -, -⟩
      · exact .draining hstill
      · rw [hlink]
        exact .closed .mk
  | closed h =>
      cases h with
      | @mk server up down =>
          cases up with
          | nil => exact .closed .mk
          | cons m rest =>
              obtain ⟨t, message⟩ := m
              cases server with
              | none => exact .closed .mk
              | some s => exact .closed .mk

/-- Neither the deadline of the handshake nor the heartbeat check closes the connection. -/
def Alive (config : GatewayConfig) (now : Nat) (link : Link) : Prop :=
  ∀ s ∈ link.server, link.ended = none → s.queue = [] ∧
    (s.conn.session = none → now < (s.started : Nat) + Limits.identifyTimeoutMs) ∧
    (s.conn.session.isSome = true →
      now ≤ (s.lastHeartbeat : Nat) + config.heartbeatIntervalMs * 2)

theorem alive_of_none {w F a L : Nat} {closing : Bool} {up down} (hnow : now < a + 10000) :
    Alive config now ⟨some ⟨⟨none, w, F⟩, a, L, []⟩, none, closing, up, down⟩ := by
  intro s hs _
  cases hs
  exact ⟨rfl, fun _ => hnow, fun hsome => by cases hsome⟩

theorem alive_of_some {id : Uuid} {w F a L : Nat} {closing : Bool} {up down}
    (hnow : now ≤ L + config.heartbeatIntervalMs * 2) :
    Alive config now ⟨some ⟨⟨some id, w, F⟩, a, L, []⟩, none, closing, up, down⟩ := by
  intro s hs _
  cases hs
  exact ⟨rfl, fun hnone => (by cases hnone), fun _ => hnow⟩

theorem Draining.alive (h : Draining wire config closedAt link)
    (hpunctual : Punctual config now link) : Alive config now link := by
  have hbound := maxDelay_le config
  cases h with
  | greeting haccepted hdown =>
      have hnow := hpunctual.next.2
      exact alive_of_none (by omega)
  | resuming hwritten hclosed hdown =>
      have hnow := hpunctual.next.2
      exact alive_of_none (by omega)
  | identifying hF hwritten hclosed hdown =>
      have hnow := hpunctual.next.2
      exact alive_of_none (by omega)
  | ready hlast hdown =>
      have hnow := hpunctual.next.2
      exact alive_of_some (by omega)
  | beating hwindow hlast hclosed hdown =>
      have hnow := hpunctual.next.2
      exact alive_of_some (by omega)

theorem Stage.alive (h : Stage wire config c beatAt link) (hcompatible : Compatible config)
    (hpunctual : Punctual config now link) (htimer : c.heartbeatTimer = true → now ≤ beatAt) :
    Alive config now link := by
  have hdelay := four_maxDelay_le config
  have hbound := maxDelay_le config
  have hinterval := hcompatible.1
  cases h with
  | opened _ => exact fun s hs => by cases hs
  | greeted _ =>
      have hnow := hpunctual.heard.2
      exact alive_of_none (by omega)
  | resuming hticks haccepted hwritten hset hacks =>
      have hnow := hpunctual.next.2
      exact alive_of_none (by omega)
  | refused hticks haccepted hwritten hset hacks =>
      have hnow := hpunctual.heard.2
      exact alive_of_none (by omega)
  | identifying hticks hF haccepted hwritten hset hacks =>
      have hnow := hpunctual.next.2
      exact alive_of_none (by omega)
  | ready hticks hwindow hlast hacks hdown =>
      have hnow := htimer hticks.timer
      exact alive_of_some (by omega)
  | beating hticks hwindow hlast hset hacks hdown =>
      have hnow := hpunctual.next.2
      exact alive_of_some (by omega)
  | draining hticks hacks h => exact h.alive hpunctual
  | closed hticks hacks hclosed hwritten hdown => exact fun s _ hended => by cases hended

theorem Left.alive (h : Left wire config link) (hpunctual : Punctual config now link) :
    Alive config now link := by
  cases h with
  | unserved => exact fun s hs => by cases hs
  | draining h => exact h.alive hpunctual
  | closed h =>
      cases h with
      | mk => exact fun s _ hended => by cases hended

/-- A round that changes nothing. -/
theorem wake_eq_self {codec : Codec} {wake : Wake}
    (h : ∀ s ∈ link.server, link.ended = none →
      s.queue = [] ∧ turn codec config s now wake = .ok s) :
    link.wake codec config now wake = link := by
  obtain ⟨server, ended, closing, up, down⟩ := link
  unfold Link.wake
  split
  · next s hserver hended =>
      obtain ⟨hqueue, hturn⟩ := h s hserver hended
      rw [hturn]
      cases hserver
      obtain ⟨conn, started, lastHeartbeat, queue⟩ := s
      cases hqueue
      simp [Link.turned]
  · rfl

theorem wake_identifyDeadline {codec : Codec} (h : Alive config now link) :
    link.wake codec config now .identifyDeadline = link := by
  refine wake_eq_self fun s hs hended => ?_
  obtain ⟨hqueue, hnone, -⟩ := h s hs hended
  refine ⟨hqueue, if_neg ?_⟩
  rintro ⟨hsession, hdeadline⟩
  exact absurd hdeadline (Nat.not_le.mpr (hnone (Option.isNone_iff_eq_none.mp hsession)))

theorem wake_heartbeatCheck {codec : Codec} (h : Alive config now link) :
    link.wake codec config now .heartbeatCheck = link := by
  refine wake_eq_self fun s hs hended => ?_
  obtain ⟨hqueue, -, hsome⟩ := h s hs hended
  refine ⟨hqueue, if_neg ?_⟩
  rintro ⟨hsession, hlate⟩
  have hnow := hsome hsession
  omega

theorem Draining.pushed {frame : OutFrame} (h : Draining wire config closedAt link) :
    Draining wire config closedAt (Link.pushed wire.codec config now frame link) := by
  cases h with
  | greeting haccepted hdown => exact .greeting haccepted hdown
  | resuming hwritten hclosed hdown => exact .resuming hwritten hclosed hdown
  | identifying hF hwritten hclosed hdown => exact .identifying hF hwritten hclosed hdown
  | ready hlast hdown => exact .ready hlast (@no_close_append now _ [frame] hdown)
  | beating hwindow hlast hclosed hdown =>
      exact .beating hwindow hlast hclosed (@no_close_append now _ [frame] hdown)

theorem heard_append {down : List (Timestamp × WireFrame)} {frame : OutFrame}
    (h : ∀ m ∈ down, Heard config m.2) (hsent : Sent config frame) :
    ∀ m ∈ down ++ [(now, .text frame)], Heard config m.2 := by
  intro m hmem
  rcases List.mem_append.mp hmem with hold | hnew
  · exact h m hold
  · rw [List.mem_singleton.mp hnew]
    exact .inr hsent

theorem Stage.pushed {frame : OutFrame} (h : Stage wire config c beatAt link)
    (hsent : Sent config frame) :
    Stage wire config c beatAt (Link.pushed wire.codec config now frame link) := by
  cases h with
  | opened htimer => exact .opened htimer
  | greeted htimer => exact .greeted htimer
  | resuming hticks haccepted hwritten htimer hacks =>
      exact .resuming hticks haccepted hwritten htimer hacks
  | refused hticks haccepted hwritten htimer hacks =>
      exact .refused hticks haccepted hwritten htimer hacks
  | identifying hticks hF haccepted hwritten htimer hacks =>
      exact .identifying hticks hF haccepted hwritten htimer hacks
  | ready hticks hwindow hlast hacks hdown =>
      refine .ready hticks hwindow hlast (hacks.imp_right ?_) (heard_append hdown hsent)
      rintro ⟨hone, s, hmem, hack⟩
      exact ⟨hone, s, List.mem_append_left _ hmem, hack⟩
  | beating hticks hwindow hlast htimer hacks hdown =>
      exact .beating hticks hwindow hlast htimer hacks (heard_append hdown hsent)
  | draining hticks hacks h => exact .draining hticks hacks h.pushed
  | @closed server down s closedAt hticks hacks hclosed hwritten hdown =>
      have hsame : Link.pushed wire.codec config now frame
          ⟨server, some none, true, [], down ++ [(s, .close none)]⟩ =
          ⟨server, some none, true, [], down ++ [(s, .close none)]⟩ := by
        unfold Link.pushed
        cases server with
        | none => rfl
        | some s => split <;> rfl
      rw [hsame]
      exact .closed hticks hacks hclosed hwritten hdown

theorem Left.pushed {frame : OutFrame} (h : Left wire config link) :
    Left wire config (Link.pushed wire.codec config now frame link) := by
  cases h with
  | unserved => exact .unserved
  | draining h => exact .draining h.pushed
  | closed h =>
      cases h with
      | @mk server up down =>
          unfold Link.pushed
          cases server with
          | none => exact .closed .mk
          | some s =>
              split
              · exact .closed .mk
              · exact .closed .mk

theorem Stage.accept (h : Stage wire config c beatAt link) :
    Stage wire config c beatAt (link.accept config now) := by
  cases h with
  | opened htimer => exact .greeted htimer
  | greeted htimer => exact .greeted htimer
  | resuming hticks haccepted hwritten htimer hacks =>
      exact .resuming hticks haccepted hwritten htimer hacks
  | refused hticks haccepted hwritten htimer hacks =>
      exact .refused hticks haccepted hwritten htimer hacks
  | identifying hticks hF haccepted hwritten htimer hacks =>
      exact .identifying hticks hF haccepted hwritten htimer hacks
  | ready hticks hwindow hlast hacks hdown => exact .ready hticks hwindow hlast hacks hdown
  | beating hticks hwindow hlast htimer hacks hdown =>
      exact .beating hticks hwindow hlast htimer hacks hdown
  | draining hticks hacks h =>
      refine .draining hticks hacks ?_
      rw [Link.accept, if_neg (by simp [h.closing])]
      exact h
  | closed hticks hacks hclosed hwritten hdown =>
      rw [Link.accept, if_neg (by simp)]
      exact .closed hticks hacks hclosed hwritten hdown

theorem Left.accept (h : Left wire config link) : Left wire config (link.accept config now) := by
  rw [Link.accept, if_neg (by simp [h.closing])]
  exact h

/-! ## What is on its way -/

/-- What the server writes now is not late. -/
theorem Punctual.turned (h : Punctual config now link)
    (result : Except (Option CloseReason) LoopState) :
    Punctual config now (link.turned now result) := by
  have hnow : ∀ frame : WireFrame, ((now, frame) : Timestamp × WireFrame).1 ≤ now ∧
      now ≤ ((now, frame) : Timestamp × WireFrame).1 + maxDelay config :=
    fun _ => ⟨Nat.le_refl now, Nat.le_add_right now _⟩
  cases result with
  | error reason =>
      refine ⟨h.up, fun m hmem => ?_⟩
      rcases List.mem_append.mp hmem with hold | hnew
      · exact h.down m hold
      · rw [List.mem_singleton.mp hnew]
        exact hnow _
  | ok s =>
      refine ⟨h.up, fun m hmem => ?_⟩
      rcases List.mem_append.mp hmem with hold | hnew
      · exact h.down m hold
      · obtain ⟨frame, -, rfl⟩ := List.mem_map.mp hnew
        exact hnow _

theorem Punctual.wake {codec : Codec} (h : Punctual config now link) (wake : Wake) :
    Punctual config now (link.wake codec config now wake) := by
  unfold Link.wake
  split
  · exact h.turned _
  · exact h

theorem Punctual.pushed {codec : Codec} (h : Punctual config now link) (frame : OutFrame) :
    Punctual config now (link.pushed codec config now frame) := by
  unfold Link.pushed
  split
  · exact h.wake _
  · exact h

theorem Punctual.arrive (h : Punctual config now link) :
    Punctual config now (link.arrive wire config now hub) := by
  obtain ⟨server, ended, closing, up, down⟩ := link
  cases up with
  | nil => exact h
  | cons m rest =>
      have hrest : Punctual config now ⟨server, ended, closing, rest, down⟩ :=
        ⟨fun m hmem => h.up m (List.mem_cons_of_mem _ hmem), h.down⟩
      exact hrest.wake _

theorem Punctual.accept (h : Punctual config now link) :
    Punctual config now (link.accept config now) := by
  unfold Link.accept
  split
  · refine ⟨h.up, fun m hmem => ?_⟩
    rw [List.mem_singleton.mp hmem]
    exact ⟨Nat.le_refl now, Nat.le_add_right now _⟩
  · exact h

/-- What the client writes now is not late either. -/
theorem Punctual.write (h : Punctual config now link) (message : Upstream) :
    Punctual config now (link.write now message) := by
  unfold Link.write
  split
  · exact h
  · refine ⟨fun m hmem => ?_, h.down⟩
    rcases List.mem_append.mp hmem with hold | hnew
    · exact h.up m hold
    · rw [List.mem_singleton.mp hnew]
      exact ⟨Nat.le_refl now, Nat.le_add_right now _⟩

/-- Time may pass as far as nothing is overdue. -/
theorem Punctual.advance {later : Nat} (h : Punctual config now link) (hlater : now ≤ later)
    (hup : ∀ m ∈ link.up, later ≤ m.1 + maxDelay config)
    (hdown : ∀ m ∈ link.down, later ≤ m.1 + maxDelay config) : Punctual config later link :=
  ⟨fun m hmem => ⟨Nat.le_trans (h.up m hmem).1 hlater, hup m hmem⟩,
    fun m hmem => ⟨Nat.le_trans (h.down m hmem).1 hlater, hdown m hmem⟩⟩

end Rounds

end Desktop
end Ldktela
