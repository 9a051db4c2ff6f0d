import Ldktela.Desktop.GatewayStages

/-!
# The client keeps within the limits of the gateway

`spared_throughout`: with an interval of at least 2069 ms whose delays fit a timer no
connection is ever closed for a limit of the server, and none as a zombie by the client.  A
window then has room for a `RESUME`, an `IDENTIFY` and 28 heartbeats.
-/

namespace Ldktela
namespace Desktop
namespace Timed

open Protocol
open Runs
open Gateway
open Gateway.Serve

/-! ## What the handlers of the client do on a socket -/

section Handlers

variable {c : GatewayClient} {info : ClientInfo} {n now : Nat}

theorem handleHello_sends (hsocket : c.socket = some n) (token : Uuid) (random : Random)
    (intervalMs : Nat) :
    ∃ frame, (c.handleHello info (some token) random intervalMs).2 =
        [.send n frame, .heartbeatIn (heartbeatDelayMs intervalMs random)] ∧
      (frame = .identify token info ∨
        ∃ sessionId lastSeq, frame = .resume token sessionId lastSeq) := by
  cases hsession : c.sessionId with
  | none =>
      refine ⟨.identify token info, ?_, .inl rfl⟩
      simp [GatewayClient.handleHello, hsession, GatewayClient.sendIdentify, GatewayClient.send,
        hsocket, GatewayClient.scheduleHeartbeat]
  | some sessionId =>
      refine ⟨.resume token sessionId c.lastSeq, ?_, .inr ⟨_, _, rfl⟩⟩
      simp [GatewayClient.handleHello, hsession, GatewayClient.send, hsocket,
        GatewayClient.scheduleHeartbeat]

theorem handleHello_ticks (token : Uuid) (random : Random) (intervalMs : Nat) :
    (c.handleHello info (some token) random intervalMs).1.heartbeatTimer = true ∧
      (c.handleHello info (some token) random intervalMs).1.heartbeatIntervalMs = intervalMs ∧
      (c.handleHello info (some token) random intervalMs).1.missedAcks = 0 := by
  cases hsession : c.sessionId with
  | none => simp [GatewayClient.handleHello, hsession, GatewayClient.sendIdentify,
      GatewayClient.scheduleHeartbeat]
  | some sessionId => simp [GatewayClient.handleHello, hsession, GatewayClient.scheduleHeartbeat]

theorem sendIdentify_sends (hsocket : c.socket = some n) (token : Uuid) :
    (c.clearSession.sendIdentify info (some token)).2 = [.send n (.identify token info)] ∧
      (c.clearSession.sendIdentify info (some token)).1.heartbeatTimer = c.heartbeatTimer ∧
      (c.clearSession.sendIdentify info (some token)).1.heartbeatIntervalMs =
        c.heartbeatIntervalMs ∧
      (c.clearSession.sendIdentify info (some token)).1.missedAcks = c.missedAcks := by
  simp [GatewayClient.sendIdentify, GatewayClient.send, GatewayClient.clearSession, hsocket]

theorem handleDispatch_keeps {config : GatewayConfig} (seq : Nat) {event : DispatchEvent}
    (hannounces : Announces config event)
    (hinterval : c.heartbeatIntervalMs = config.heartbeatIntervalMs) :
    (c.handleDispatch now seq event).2 = [.event event] ∧
      (c.handleDispatch now seq event).1.heartbeatTimer = c.heartbeatTimer ∧
      (c.handleDispatch now seq event).1.heartbeatIntervalMs = config.heartbeatIntervalMs ∧
      (c.handleDispatch now seq event).1.missedAcks = c.missedAcks := by
  cases event with
  | ready ready =>
      have hready : ready.heartbeatIntervalMs = config.heartbeatIntervalMs := hannounces
      exact ⟨rfl, by simp [GatewayClient.handleDispatch, GatewayClient.ready],
        by simp [GatewayClient.handleDispatch, GatewayClient.ready, hready],
        by simp [GatewayClient.handleDispatch, GatewayClient.ready]⟩
  | resumed resumed =>
      exact ⟨rfl, by simp [GatewayClient.handleDispatch],
        by simp [GatewayClient.handleDispatch, hinterval], by simp [GatewayClient.handleDispatch]⟩
  | _ => exact ⟨rfl, rfl, hinterval, rfl⟩

theorem beat_sends (hsocket : c.socket = some n) (random : Random) (hacks : c.missedAcks < 2) :
    (c.beat random).2 =
        [.send n .heartbeat, .heartbeatIn (heartbeatDelayMs c.heartbeatIntervalMs random)] ∧
      (c.beat random).1.heartbeatTimer = true ∧
      (c.beat random).1.heartbeatIntervalMs = c.heartbeatIntervalMs ∧
      (c.beat random).1.missedAcks = c.missedAcks + 1 := by
  simp [GatewayClient.beat, hsocket, maxMissedAcks, Nat.not_le.mpr hacks, GatewayClient.send,
    GatewayClient.scheduleHeartbeat]

end Handlers

/-- Every connection is where its stage says, and the timer of the client is on time. -/
structure Inv (wire : Wire) (config : GatewayConfig) (w : Timed) : Prop where
  wired : w.wired.Inv
  info : w.wired.info = wire.info
  opened : w.links.length = w.wired.opened
  zombie : w.zombie = false
  timer : w.wired.client.heartbeatTimer = true → w.clock ≤ w.beatAt
  punctual : ∀ link ∈ w.links, Punctual config w.clock link
  stage : ∀ n, w.wired.client.socket = some n →
    ∃ link, w.links[n]? = some link ∧ Stage wire config w.wired.client w.beatAt link
  left : ∀ n link, w.links[n]? = some link → w.wired.client.socket ≠ some n →
    Left wire config link

theorem inv_idle (wire : Wire) (config : GatewayConfig) : Inv wire config (idle wire) where
  wired := Wired.inv_idle wire.info
  info := rfl
  opened := rfl
  zombie := rfl
  timer h := by cases h
  punctual link hmem := by cases hmem
  stage n h := by cases h
  left n link h := by cases h

section Lists

variable {α : Type} {l : List α} {a : α} {n : Nat} {f : α → α}

theorem modify_of_getElem? (h : l[n]? = some a) : l.modify n f = l.set n (f a) := by
  have : Inhabited α := ⟨a⟩
  rw [List.modify_eq_set, h]
  rfl

theorem set_modify (h : n < l.length) : (l.set n a).modify n f = l.set n (f a) := by
  rw [modify_of_getElem? (List.getElem?_set_self h), List.set_set]

end Lists

section Steps

variable {wire : Wire} {config : GatewayConfig} {w w' : Timed} {link link' : Link} {n : Nat}

theorem Inv.spared (h : Inv wire config w) : w.Spared := by
  refine ⟨h.zombie, fun link hmem reason _ hended => ?_⟩
  obtain ⟨n, hlink⟩ := List.mem_iff_getElem?.mp hmem
  have hover : ∀ closedAt, ¬ Draining wire config closedAt link := by
    intro closedAt hdraining
    cases hdraining <;> cases hended
  by_cases hsocket : w.wired.client.socket = some n
  · obtain ⟨link', hlink', hstage⟩ := h.stage n hsocket
    cases Option.some.inj (hlink.symm.trans hlink')
    cases hstage with
    | draining _ _ hdraining => exact hover _ hdraining
    | _ => cases hended
  · cases h.left n link hlink hsocket with
    | unserved => cases hended
    | draining hdraining => exact hover _ hdraining
    | closed hclosed => cases hclosed; cases hended

/-- A connection changes, and the client does not. -/
theorem Inv.onLink (h : Inv wire config w) (hlink : w.links[n]? = some link)
    (hpunctual : Punctual config w.clock link')
    (hstage : w.wired.client.socket = some n → Stage wire config w.wired.client w.beatAt link →
      Stage wire config w.wired.client w.beatAt link')
    (hleft : Left wire config link → Left wire config link') :
    Inv wire config { w with links := w.links.set n link' } := by
  have hn : n < w.links.length := (List.getElem?_eq_some_iff.mp hlink).1
  have hself : (w.links.set n link')[n]? = some link' := List.getElem?_set_self hn
  refine ⟨h.wired, h.info, (List.length_set ..).trans h.opened, h.zombie, h.timer,
    fun other hmem => ?_, fun m hm => ?_, fun m other hget hm => ?_⟩
  · rcases List.mem_or_eq_of_mem_set hmem with hold | rfl
    · exact h.punctual other hold
    · exact hpunctual
  · obtain ⟨before, hbefore, hold⟩ := h.stage m hm
    by_cases heq : m = n
    · subst heq
      cases Option.some.inj (hlink.symm.trans hbefore)
      exact ⟨link', hself, hstage hm hold⟩
    · exact ⟨before, (List.getElem?_set_ne (Ne.symm heq)).trans hbefore, hold⟩
  · by_cases heq : m = n
    · subst heq
      cases Option.some.inj (hself.symm.trans hget)
      exact hleft (h.left m link hlink hm)
    · exact h.left m other ((List.getElem?_set_ne (Ne.symm heq)).symm.trans hget) hm

/-- A step of the server on one connection. -/
theorem Inv.server (h : Inv wire config w) (n : Nat) {f : Link → Link}
    (hpunctual : ∀ link, Punctual config w.clock link → Punctual config w.clock (f link))
    (hstage : ∀ link, Punctual config w.clock link →
      Stage wire config w.wired.client w.beatAt link →
      Stage wire config w.wired.client w.beatAt (f link))
    (hleft : ∀ link, Punctual config w.clock link → Left wire config link →
      Left wire config (f link)) :
    Inv wire config { w with links := w.links.modify n f } := by
  cases hlink : w.links[n]? with
  | none =>
      have hsame : w.links.modify n f = w.links :=
        List.modify_eq_self (List.getElem?_eq_none_iff.mp hlink)
      rw [hsame]
      exact h
  | some link =>
      have hold := h.punctual link (List.mem_of_getElem? hlink)
      rw [modify_of_getElem? hlink]
      exact h.onLink hlink (hpunctual link hold) (fun _ => hstage link hold) (hleft link hold)

/-- A step of the client on its connection. -/
theorem Inv.client (h : Inv wire config w) (hsocket : w.wired.client.socket = some n)
    (hclock : w'.clock = w.clock) (hlinks : w'.links = w.links.set n link')
    (hwired : w'.wired.Inv) (hinfo : w'.wired.info = w.wired.info)
    (hopened : w'.wired.opened = w.wired.opened) (hzombie : w'.zombie = false)
    (htimer : w'.wired.client.heartbeatTimer = true → w.clock ≤ w'.beatAt)
    (hpunctual : Punctual config w.clock link')
    (hafter : w'.wired.client.socket = some n ∧
        Stage wire config w'.wired.client w'.beatAt link' ∨
      w'.wired.client.socket = none ∧ Left wire config link') : Inv wire config w' := by
  obtain ⟨link, hlink, -⟩ := h.stage n hsocket
  have hn : n < w.links.length := (List.getElem?_eq_some_iff.mp hlink).1
  have hself : w'.links[n]? = some link' := by
    rw [hlinks]
    exact List.getElem?_set_self hn
  have hother : ∀ m, m ≠ n → w'.links[m]? = w.links[m]? := by
    intro m hm
    rw [hlinks]
    exact List.getElem?_set_ne (Ne.symm hm)
  refine ⟨hwired, hinfo.trans h.info, ?_, hzombie, ?_, fun other hmem => ?_, fun m hm => ?_,
    fun m other hget hm => ?_⟩
  · rw [hlinks, hopened, List.length_set]
    exact h.opened
  · rw [hclock]
    exact htimer
  · rw [hclock]
    rw [hlinks] at hmem
    rcases List.mem_or_eq_of_mem_set hmem with hold | rfl
    · exact h.punctual other hold
    · exact hpunctual
  · rcases hafter with ⟨hstill, hstage⟩ | ⟨hnone, -⟩
    · cases Option.some.inj (hstill.symm.trans hm)
      exact ⟨link', hself, hstage⟩
    · cases hnone.symm.trans hm
  · by_cases heq : m = n
    · subst heq
      cases Option.some.inj (hself.symm.trans hget)
      rcases hafter with ⟨hstill, -⟩ | ⟨-, hleft⟩
      · exact absurd hstill hm
      · exact hleft
    · rw [hother m heq] at hget
      refine h.left m other hget ?_
      rw [hsocket]
      exact fun hsame => heq (Option.some.inj hsame).symm

/-! ## What the client does -/

theorem drive_eq {act : Wired.Act} {c : GatewayClient} {outputs : List Output}
    (hstep : w.wired.step act = ({ w.wired with client := c }, outputs)) :
    w.drive act = outputs.foldl perform { w with wired := { w.wired with client := c } } := by
  unfold drive
  rw [hstep]
  simp

theorem wired_frame (hattached : n ∈ w.wired.attached) (frame : Option ServerFrame) (now : Nat)
    (token : Option Uuid) (random : Random) :
    w.wired.step (.frame n frame now token random) =
      ({ w.wired with client :=
          (w.wired.client.handleFrame w.wired.info now token random frame).1 },
        (w.wired.client.handleFrame w.wired.info now token random frame).2) := by
  simp [Wired.step, Wired.handle, Wired.stopCalled, Wired.Act.onFatalStops, hattached]

/-- The end of a socket the client has let go. -/
theorem drive_detached (hdetached : n ∉ w.wired.attached) (code : UInt16) (now : Nat)
    (random : Random) (stops : Bool) : w.drive (.close n code now random stops) = w := by
  have hhandle : w.wired.handle (.close n code now random stops) = (w.wired, []) := by
    simp [Wired.handle, hdetached]
  have hcalled : w.wired.stopCalled (.close n code now random stops) = false := by
    have hreported : ¬ w.wired.Reported (w.wired.handle (.close n code now random stops)).1 := by
      rw [hhandle]
      exact lt_irrefl _
    simp [Wired.stopCalled, hreported]
  unfold drive Wired.step
  rw [hcalled, hhandle]
  simp

theorem Inv.attached_iff (h : Inv wire config w) :
    n ∈ w.wired.attached ↔ w.wired.client.socket = some n := by
  rw [h.wired.attached_eq]
  simp

/-- A frame reaches the client, which writes nothing or something. -/
theorem deliver_frame (h : Inv wire config w) (hsocket : w.wired.client.socket = some n)
    {server : Option LoopState} {ended : Option (Option CloseReason)}
    {up : List (Timestamp × Upstream)} {t : Timestamp} {frame : WireFrame} {rest}
    (hframe : ∀ reason, frame ≠ .close reason) (token : Uuid) (random : Random) (code : UInt16)
    (stops : Bool) :
    w.deliver n token random code stops ⟨server, ended, false, up, (t, frame) :: rest⟩ =
      (w.wired.client.handleFrame w.wired.info w.clock (some token) random
        (parseServerFrame frame)).2.foldl perform
        { w with
          links := w.links.set n ⟨server, ended, false, up, rest⟩
          wired := { w.wired with client := (w.wired.client.handleFrame w.wired.info w.clock
            (some token) random (parseServerFrame frame)).1 } } := by
  have hattached : n ∈ w.wired.attached := h.attached_iff.mpr hsocket
  unfold deliver
  dsimp only
  cases frame with
  | close reason => exact absurd rfl (hframe reason)
  | hello hello =>
      simp only [Bool.false_eq_true, if_false]
      exact drive_eq (wired_frame hattached _ _ _ _)
  | text frame =>
      simp only [Bool.false_eq_true, if_false]
      exact drive_eq (wired_frame hattached _ _ _ _)

section Performed

variable {server : Option LoopState} {ended : Option (Option CloseReason)}
  {up : List (Timestamp × Upstream)} {down rest : List (Timestamp × WireFrame)}
  {c : GatewayClient}

/-- What is left of a connection after a frame was heard, and another one written. -/
theorem Inv.written (h : Inv wire config w) (hlink : w.links[n]? = some ⟨server, ended, false, up,
      down⟩) (hrest : ∀ m ∈ rest, m ∈ down) (message : Upstream) :
    Punctual config w.clock
      ⟨server, ended, decide (message = .closed), up ++ [(w.clock, message)], rest⟩ := by
  have hpunctual := h.punctual _ (List.mem_of_getElem? hlink)
  refine ⟨fun m hmem => ?_, fun m hmem => hpunctual.down m (hrest m hmem)⟩
  rcases List.mem_append.mp hmem with hold | hnew
  · exact hpunctual.up m hold
  · rw [List.mem_singleton.mp hnew]
    exact ⟨Nat.le_refl _, Nat.le_add_right _ _⟩

/-- The client hears a frame, and writes nothing. -/
theorem Inv.heard (h : Inv wire config w) (hsocket : w.wired.client.socket = some n)
    (hlink : w.links[n]? = some ⟨server, ended, false, up, down⟩) (hrest : ∀ m ∈ rest, m ∈ down)
    (hsame : w.wired.client.SameConnection c)
    (htimer : c.heartbeatTimer = true → w.clock ≤ w.beatAt)
    (hstage : Stage wire config c w.beatAt ⟨server, ended, false, up, rest⟩) :
    Inv wire config { w with
      links := w.links.set n ⟨server, ended, false, up, rest⟩
      wired := { w.wired with client := c } } := by
  have hpunctual := h.punctual _ (List.mem_of_getElem? hlink)
  exact h.client hsocket rfl rfl
    (h.wired.same hsame (by rw [hsocket]; exact Option.some_ne_none n)) rfl rfl h.zombie htimer
    ⟨hpunctual.up, fun m hmem => hpunctual.down m (hrest m hmem)⟩
    (.inl ⟨hsame.socket.trans hsocket, hstage⟩)

/-- The client hears a frame and writes one. -/
theorem Inv.sends (h : Inv wire config w) (hsocket : w.wired.client.socket = some n)
    (hlink : w.links[n]? = some ⟨server, ended, false, up, down⟩) (hrest : ∀ m ∈ rest, m ∈ down)
    (hsame : w.wired.client.SameConnection c) {frame : ClientFrame}
    (htimer : c.heartbeatTimer = true → w.clock ≤ w.beatAt)
    (hstage : Stage wire config c w.beatAt
      ⟨server, ended, false, up ++ [(w.clock, .frame frame)], rest⟩) :
    Inv wire config ([Output.send n frame].foldl perform { w with
      links := w.links.set n ⟨server, ended, false, up, rest⟩
      wired := { w.wired with client := c } }) := by
  have hn : n < w.links.length := (List.getElem?_eq_some_iff.mp hlink).1
  exact h.client hsocket rfl (set_modify hn)
    (h.wired.same hsame (by rw [hsocket]; exact Option.some_ne_none n)) rfl rfl h.zombie htimer
    (h.written hlink hrest _) (.inl ⟨hsame.socket.trans hsocket, hstage⟩)

/-- The client hears a frame, writes one and sets the heartbeat timer. -/
theorem Inv.sendsAndTicks (h : Inv wire config w) (hsocket : w.wired.client.socket = some n)
    (hlink : w.links[n]? = some ⟨server, ended, false, up, down⟩) (hrest : ∀ m ∈ rest, m ∈ down)
    (hsame : w.wired.client.SameConnection c) {frame : ClientFrame} {delayMs : Nat}
    (hstage : Stage wire config c (w.clock + timerMs delayMs)
      ⟨server, ended, false, up ++ [(w.clock, .frame frame)], rest⟩) :
    Inv wire config ([Output.send n frame, .heartbeatIn delayMs].foldl perform { w with
      links := w.links.set n ⟨server, ended, false, up, rest⟩
      wired := { w.wired with client := c } }) := by
  have hn : n < w.links.length := (List.getElem?_eq_some_iff.mp hlink).1
  exact h.client hsocket rfl (set_modify hn)
    (h.wired.same hsame (by rw [hsocket]; exact Option.some_ne_none n)) rfl rfl h.zombie
    (fun _ => Nat.le_add_right _ _) (h.written hlink hrest _)
    (.inl ⟨hsame.socket.trans hsocket, hstage⟩)

/-- The client hears a frame and closes the socket, not as a zombie. -/
theorem Inv.closes (h : Inv wire config w) (hsocket : w.wired.client.socket = some n)
    (hlink : w.links[n]? = some ⟨server, ended, false, up, down⟩) (hrest : ∀ m ∈ rest, m ∈ down)
    (hsame : w.wired.client.SameConnection c) {code : UInt16} {reason : String}
    (hcode : code ≠ CloseCode.zombied) (htimer : c.heartbeatTimer = true → w.clock ≤ w.beatAt)
    (hstage : Stage wire config c w.beatAt
      ⟨server, ended, true, up ++ [(w.clock, .closed)], rest⟩) :
    Inv wire config ([Output.close n code reason].foldl perform { w with
      links := w.links.set n ⟨server, ended, false, up, rest⟩
      wired := { w.wired with client := c } }) := by
  have hn : n < w.links.length := (List.getElem?_eq_some_iff.mp hlink).1
  refine h.client hsocket rfl (set_modify hn)
    (h.wired.same hsame (by rw [hsocket]; exact Option.some_ne_none n)) rfl rfl ?_ htimer
    (h.written hlink hrest .closed) (.inl ⟨hsame.socket.trans hsocket, hstage⟩)
  show (w.zombie || decide (code = CloseCode.zombied)) = false
  rw [h.zombie, decide_eq_false hcode]
  rfl

end Performed

/-- The handshake begins. -/
theorem Inv.hello (h : Inv wire config w) (hcompatible : Compatible config)
    (hsocket : w.wired.client.socket = some n) {a : Nat}
    (hlink : w.links[n]? = some ⟨some ⟨⟨none, a, 0⟩, a, a, []⟩, none, false, [],
      [(a, .hello ⟨config.heartbeatIntervalMs, config.sessionTtlMs⟩)]⟩) (token : Uuid)
    (random : Random) (code : UInt16) (stops : Bool) :
    Inv wire config (w.deliver n token random code stops ⟨some ⟨⟨none, a, 0⟩, a, a, []⟩, none,
      false, [], [(a, .hello ⟨config.heartbeatIntervalMs, config.sessionTtlMs⟩)]⟩) := by
  have hinterval := hcompatible.1
  obtain ⟨hpast, hnow⟩ := (h.punctual _ (List.mem_of_getElem? hlink)).heard
  have hlow := le_heartbeatDelayMs config.heartbeatIntervalMs random
  have hhigh := heartbeatDelayMs_le config.heartbeatIntervalMs random
  have hparsed : parseServerFrame (.hello ⟨config.heartbeatIntervalMs, config.sessionTtlMs⟩) =
      some (.hello ⟨config.heartbeatIntervalMs, config.sessionTtlMs⟩) :=
    if_pos (Nat.lt_of_lt_of_le (by decide) hinterval)
  obtain ⟨frame, hsends, hframe⟩ := @handleHello_sends w.wired.client w.wired.info n hsocket token
    random config.heartbeatIntervalMs
  obtain ⟨htimer, hticks, hacks⟩ := @handleHello_ticks w.wired.client w.wired.info token random
    config.heartbeatIntervalMs
  have hsame := @GatewayClient.handleHello_same w.wired.client w.wired.info (some token) random
    config.heartbeatIntervalMs
  rw [deliver_frame h hsocket (fun _ => WireFrame.noConfusion), hparsed]
  show Inv wire config (List.foldl perform _ (w.wired.client.handleHello w.wired.info (some token)
    random config.heartbeatIntervalMs).2)
  rw [hsends]
  refine h.sendsAndTicks hsocket hlink (fun m hmem => by cases hmem) hsame ?_
  rw [hcompatible.timerMs random]
  rcases hframe with rfl | ⟨sessionId, lastSeq, rfl⟩
  · rw [h.info] at htimer hticks hacks ⊢
    exact .identifying ⟨htimer, hticks⟩ (Nat.zero_le 1) (by omega) (by omega)
      ⟨by omega, by omega⟩ hacks
  · exact .resuming ⟨htimer, hticks⟩ hpast hnow ⟨by omega, by omega⟩ hacks

/-- The session could not be resumed. -/
theorem Inv.invalidSession (h : Inv wire config w)
    (hsocket : w.wired.client.socket = some n) {a L t : Nat}
    (hlink : w.links[n]? = some ⟨some ⟨⟨none, a, 1⟩, a, L, []⟩, none, false, [],
      [(t, .text (.invalidSession false))]⟩)
    (hticks : Ticks config w.wired.client)
    (haccepted : a + config.heartbeatIntervalMs ≤ w.beatAt) (hwritten : t ≤ a + 2 * maxDelay config)
    (hset : TimerSet config (maxDelay config) t w.beatAt) (hacks : w.wired.client.missedAcks = 0)
    (token : Uuid) (random : Random) (code : UInt16) (stops : Bool) :
    Inv wire config (w.deliver n token random code stops ⟨some ⟨⟨none, a, 1⟩, a, L, []⟩, none,
      false, [], [(t, .text (.invalidSession false))]⟩) := by
  obtain ⟨hpast, hnow⟩ := (h.punctual _ (List.mem_of_getElem? hlink)).heard
  have hearliest := hset.earliest
  have hlatest := hset.latest
  obtain ⟨hsends, htimer, hinterval, hacks'⟩ :=
    @sendIdentify_sends w.wired.client w.wired.info n hsocket token
  have hsame := @GatewayClient.handleFrame_same w.wired.client w.wired.info (some token) random
    w.clock (some (.invalidSession false))
  rw [deliver_frame h hsocket (fun _ => WireFrame.noConfusion)]
  show Inv wire config (List.foldl perform _
    (w.wired.client.clearSession.sendIdentify w.wired.info (some token)).2)
  rw [hsends]
  refine h.sends hsocket hlink (fun m hmem => by cases hmem) hsame
    (fun _ => h.timer hticks.timer) ?_
  rw [h.info] at htimer hinterval hacks' ⊢
  exact .identifying ⟨htimer.trans hticks.timer, hinterval.trans hticks.interval⟩ (Nat.le_refl 1)
    haccepted (by omega) ⟨by omega, by omega⟩ (hacks'.trans hacks)

/-- A frame of the session: a dispatch, an ack or the request to reconnect. -/
theorem Inv.hears (h : Inv wire config w) (hsocket : w.wired.client.socket = some n)
    {server : Option LoopState} {up : List (Timestamp × Upstream)} {t : Timestamp}
    {frame : WireFrame} {rest : List (Timestamp × WireFrame)}
    (hlink : w.links[n]? = some ⟨server, none, false, up, (t, frame) :: rest⟩)
    (hheard : Heard config frame) (hticks : Ticks config w.wired.client)
    (hskip : ∀ c, Ticks config c → c.missedAcks = w.wired.client.missedAcks →
      frame ≠ .text (.control Opcode.heartbeatAck) →
      Stage wire config c w.beatAt ⟨server, none, false, up, rest⟩)
    (hack : ∀ c, Ticks config c → c.missedAcks = 0 →
      Stage wire config c w.beatAt ⟨server, none, false, up, rest⟩)
    (hclose : ∀ c, Ticks config c → c.missedAcks = w.wired.client.missedAcks →
      Stage wire config c w.beatAt ⟨server, none, true, up ++ [(w.clock, .closed)], rest⟩)
    (token : Uuid) (random : Random) (code : UInt16) (stops : Bool) :
    Inv wire config (w.deliver n token random code stops
      ⟨server, none, false, up, (t, frame) :: rest⟩) := by
  have hrest : ∀ m ∈ rest, m ∈ (t, frame) :: rest := fun m hmem => List.mem_cons_of_mem _ hmem
  have hnow := h.timer hticks.timer
  cases frame with
  | hello hello => cases hheard
  | close reason => cases hheard
  | text frame =>
      rw [deliver_frame h hsocket (fun _ => WireFrame.noConfusion)]
      have hsame := @GatewayClient.handleFrame_same w.wired.client w.wired.info (some token) random
        w.clock (parseServerFrame (.text frame))
      cases frame with
      | dispatch frame =>
          have hannounces : Announces config frame.event := hheard.resolve_left OutFrame.noConfusion
          obtain ⟨houtput, htimer, hinterval, hacks⟩ := @handleDispatch_keeps w.wired.client w.clock
            config frame.s frame.event hannounces hticks.interval
          show Inv wire config (List.foldl perform _
            (w.wired.client.handleDispatch w.clock frame.s frame.event).2)
          rw [houtput]
          refine h.heard hsocket hlink hrest hsame (fun _ => hnow) ?_
          refine hskip _ ⟨htimer.trans hticks.timer, hinterval⟩ hacks fun heq => ?_
          cases heq
      | invalidSession resumable =>
          rcases hheard with heq | hsent
          · cases heq
          · cases hsent
      | control op =>
          rcases hheard with heq | hsent
          · cases heq
            exact h.heard hsocket hlink hrest hsame (fun _ => hnow)
              (hack _ ⟨hticks.timer, hticks.interval⟩ rfl)
          · have hop : op = Opcode.reconnect := hsent
            subst hop
            show Inv wire config (List.foldl perform _
              (w.wired.client.closeSocket 1000 "server requested reconnect"))
            rw [GatewayClient.closeSocket, hsocket]
            exact h.closes hsocket hlink hrest hsame (by decide) (fun _ => hnow)
              (hclose _ ⟨hticks.timer, hticks.interval⟩ rfl)

/-- A closing socket hears no frames. -/
theorem deliver_closing {server ended up} {t : Timestamp} {frame : WireFrame} {rest}
    (hframe : ∀ reason, frame ≠ .close reason) (token : Uuid) (random : Random) (code : UInt16)
    (stops : Bool) :
    w.deliver n token random code stops ⟨server, ended, true, up, (t, frame) :: rest⟩ =
      { w with links := w.links.set n ⟨server, ended, true, up, rest⟩ } := by
  cases frame with
  | close reason => exact absurd rfl (hframe reason)
  | hello hello => rfl
  | text frame => rfl

/-- The socket is over. -/
theorem Inv.ends (h : Inv wire config w) (hsocket : w.wired.client.socket = some n) {server down}
    {s : Timestamp}
    (hlink : w.links[n]? = some ⟨server, some none, true, [], (s, .close none) :: down⟩)
    (token : Uuid) (random : Random) (code : UInt16) (stops : Bool) :
    Inv wire config (w.deliver n token random code stops
      ⟨server, some none, true, [], (s, .close none) :: down⟩) := by
  have hattached : n ∈ w.wired.attached := h.attached_iff.mpr hsocket
  have hpunctual := h.punctual _ (List.mem_of_getElem? hlink)
  have hnone : (w.wired.step (.close n code w.clock random stops)).1.client.socket = none := by
    have hover := @GatewayClient.handleClose_over w.clock (backoffDelayMs · random) code
      w.wired.client
    unfold Wired.step
    dsimp only
    split
    · exact GatewayClient.stop_socket
    · simp only [Wired.handle, hattached, if_true]
      exact hover.1
  have hopened : (w.wired.step (.close n code w.clock random stops)).1.opened = w.wired.opened := by
    unfold Wired.step
    dsimp only
    split
    · simp [Wired.handle, hattached, Wired.handleClose, Wired.stop]
    · simp [Wired.handle, hattached, Wired.handleClose]
  have hinfo : (w.wired.step (.close n code w.clock random stops)).1.info = w.wired.info := by
    unfold Wired.step
    dsimp only
    split
    · simp [Wired.handle, hattached, Wired.handleClose, Wired.stop]
    · simp [Wired.handle, hattached, Wired.handleClose]
  have houtputs : (w.wired.step (.close n code w.clock random stops)).2 = [] := by
    simp [Wired.step, Wired.handle, hattached]
  have hwired := h.wired.step (.close n code w.clock random stops)
  have hdeliver : w.deliver n token random code stops
      ⟨server, some none, true, [], (s, .close none) :: down⟩ =
      { w with
        links := w.links.set n ⟨server, some none, true, [], down⟩
        wired := (w.wired.step (.close n code w.clock random stops)).1 } := by
    unfold deliver drive
    dsimp only
    rw [houtputs, hopened]
    simp
  rw [hdeliver]
  -- the client has no socket any more, and so no heartbeat timer
  refine h.client hsocket rfl rfl hwired hinfo hopened h.zombie (fun htimer => ?_)
    hpunctual.rest (.inr ⟨hnone, .closed .mk⟩)
  exact absurd hnone (hwired.socket_of_heartbeat htimer)

theorem Inv.deliver (h : Inv wire config w) (hcompatible : Compatible config)
    (hlink : w.links[n]? = some link) (token : Uuid) (random : Random) (code : UInt16)
    (stops : Bool) : Inv wire config (w.deliver n token random code stops link) := by
  have hbound := four_maxDelay_le config
  have hinterval := hcompatible.1
  have hpunctual := h.punctual _ (List.mem_of_getElem? hlink)
  by_cases hsocket : w.wired.client.socket = some n
  · obtain ⟨before, hbefore, hstage⟩ := h.stage n hsocket
    cases Option.some.inj (hlink.symm.trans hbefore)
    cases hstage with
    | opened _ => exact h
    | greeted _ => exact h.hello hcompatible hsocket hlink token random code stops
    | resuming _ _ _ _ _ => exact h
    | refused hticks haccepted hwritten htimer hacks =>
        exact h.invalidSession hsocket hlink hticks haccepted hwritten htimer hacks token random
          code stops
    | identifying _ _ _ _ _ _ => exact h
    | @ready id w' F a L down hticks hwindow hlast hacks hdown =>
        cases down with
        | nil => exact h
        | cons m rest =>
            have hrest : ∀ m ∈ rest, Heard config m.2 := fun m hmem =>
              hdown m (List.mem_cons_of_mem _ hmem)
            have hnow := h.timer hticks.timer
            refine h.hears hsocket hlink (hdown m List.mem_cons_self) hticks
              (fun c hc hsame hskip => ?_) (fun c hc hnone => ?_) (fun c hc hsame => ?_) token
              random
              code stops
            · refine .ready hc hwindow hlast ?_ hrest
              rw [hsame]
              refine hacks.imp_right ?_
              rintro ⟨hone, s, hmem, hack⟩
              refine ⟨hone, s, (List.mem_cons.mp hmem).resolve_left ?_, hack⟩
              rintro rfl
              exact hskip rfl
            · exact .ready hc hwindow hlast (.inl hnone) hrest
            · refine .draining hc (.inl ?_) (.ready (by omega) (no_close_of_heard hrest))
              rw [hsame]
              rcases hacks with hnone | ⟨hone, -⟩
              · omega
              · omega
    | @beating id w' F a L s down hticks hwindow hlast htimer hacks hdown =>
        cases down with
        | nil => exact h
        | cons m rest =>
            have hrest : ∀ m ∈ rest, Heard config m.2 := fun m hmem =>
              hdown m (List.mem_cons_of_mem _ hmem)
            have hnow := hpunctual.next.2
            refine h.hears hsocket hlink (hdown m List.mem_cons_self) hticks
              (fun c hc hsame _ => ?_) (fun c hc hnone => ?_) (fun c hc hsame => ?_) token random
              code stops
            · exact .beating hc hwindow hlast htimer (by omega) hrest
            · exact .beating hc hwindow hlast htimer (by omega) hrest
            · exact .draining hc (.inl (by omega)) (.beating hwindow (by omega) hnow
                (no_close_of_heard hrest))
    -- the client has closed its socket, and hears nothing that is still on the way
    | draining hticks hacks hdraining =>
        obtain ⟨server, ended, closing, up, down⟩ := link
        have hclosing : closing = true := hdraining.closing
        subst hclosing
        cases down with
        | nil => exact h
        | cons m rest =>
            obtain ⟨t, frame⟩ := m
            rw [deliver_closing (hdraining.no_close (t, frame) List.mem_cons_self)]
            exact h.onLink hlink hpunctual.rest (fun _ _ => .draining hticks hacks hdraining.rest)
              fun _ => .draining hdraining.rest
    | @closed server down s closedAt hticks hacks hclosed hwritten hdown =>
        cases down with
        | nil => exact h.ends hsocket hlink token random code stops
        | cons m rest =>
            obtain ⟨t, frame⟩ := m
            rw [List.cons_append, deliver_closing (hdown (t, frame) List.mem_cons_self)]
            exact h.onLink hlink hpunctual.rest
              (fun _ _ => .closed hticks hacks hclosed hwritten fun m hmem =>
                hdown m (List.mem_cons_of_mem _ hmem))
              fun _ => .closed .mk
  · -- an old link, whose socket the client does not listen to any more
    have hleft := h.left n link hlink hsocket
    have hdetached : n ∉ w.wired.attached := fun hmem => hsocket (h.attached_iff.mp hmem)
    obtain ⟨server, ended, closing, up, down⟩ := link
    have hclosing : closing = true := hleft.closing
    subst hclosing
    cases down with
    | nil => exact h
    | cons m rest =>
        obtain ⟨t, frame⟩ := m
        have hpopped : Inv wire config
            { w with links := w.links.set n ⟨server, ended, true, up, rest⟩ } :=
          h.onLink hlink hpunctual.rest (fun hsame => absurd hsame hsocket) fun _ => hleft.rest
        cases frame with
        | hello hello => exact hpopped
        | text frame => exact hpopped
        | close reason =>
            have hsame := drive_detached
              (w := { w with links := w.links.set n ⟨server, ended, true, up, rest⟩ }) hdetached
              code w.clock random stops
            unfold Timed.deliver
            dsimp only
            rw [hsame]
            exact hpopped

/-- The heartbeat timer fires, and no two acks are missing. -/
theorem Inv.beats (h : Inv wire config w) (hcompatible : Compatible config)
    (hsocket : w.wired.client.socket = some n)
    (hlink : w.links[n]? = some link) (hticks : Ticks config w.wired.client)
    (hacks : w.wired.client.missedAcks ≤ 1) (random : Random)
    (hstage : ∀ c delayMs, Ticks config c → c.missedAcks = w.wired.client.missedAcks + 1 →
      config.heartbeatIntervalMs ≤ delayMs → 10 * delayMs ≤ 11 * config.heartbeatIntervalMs + 5 →
      Stage wire config c (w.clock + delayMs) (link.write w.clock (.frame .heartbeat))) :
    Inv wire config (w.drive (.heartbeat random)) := by
  obtain ⟨hsends, htimer, hinterval, hacks'⟩ :=
    @beat_sends w.wired.client n hsocket random (Nat.lt_succ_of_le hacks)
  have hsame := @GatewayClient.beat_same w.wired.client random
  have hstep : w.wired.step (.heartbeat random) =
      ({ w.wired with client := (w.wired.client.beat random).1 },
        (w.wired.client.beat random).2) := by
    simp [Wired.step, Wired.handle, Wired.stopCalled, Wired.Act.onFatalStops, hticks.timer]
  rw [drive_eq hstep, hsends, hticks.interval]
  have hpaced : Stage wire config (w.wired.client.beat random).1
      (w.clock + timerMs (heartbeatDelayMs config.heartbeatIntervalMs random))
      (link.write w.clock (.frame .heartbeat)) := by
    rw [hcompatible.timerMs random]
    exact hstage _ _ ⟨htimer, hinterval.trans hticks.interval⟩ hacks' (le_heartbeatDelayMs _ random)
      (heartbeatDelayMs_le _ random)
  exact h.client hsocket rfl (modify_of_getElem? hlink)
    (h.wired.same hsame (by rw [hsocket]; exact Option.some_ne_none n)) rfl rfl h.zombie
    (fun _ => Nat.le_add_right _ _) ((h.punctual link (List.mem_of_getElem? hlink)).write _)
    (.inl ⟨hsame.socket.trans hsocket, hpaced⟩)

theorem Inv.beat (h : Inv wire config w) (hcompatible : Compatible config)
    (htimer : w.wired.client.heartbeatTimer = true) (hdue : w.beatAt ≤ w.clock) (random : Random) :
    Inv wire config (w.drive (.heartbeat random)) := by
  have hdelay := four_maxDelay_le config
  have hinterval := hcompatible.1
  have hnow := h.timer htimer
  obtain ⟨n, hsocket⟩ := Option.ne_none_iff_exists'.mp (h.wired.socket_of_heartbeat htimer)
  obtain ⟨link, hlink, hstage⟩ := h.stage n hsocket
  have hpunctual := h.punctual link (List.mem_of_getElem? hlink)
  cases hstage with
  | opened hoff => cases htimer.symm.trans hoff
  | greeted hoff => cases htimer.symm.trans hoff
  | resuming hticks haccepted hwritten hset hacks =>
      -- the handshake is over before the first heartbeat is due
      have hlate := hpunctual.next.2
      have hearliest := hset.earliest
      omega
  | refused hticks haccepted hwritten hset hacks =>
      have hlate := hpunctual.heard.2
      have hearliest := hset.earliest
      omega
  | identifying hticks hF haccepted hwritten hset hacks =>
      have hlate := hpunctual.next.2
      have hearliest := hset.earliest
      omega
  | ready hticks hwindow hlast hacks hdown =>
      have hnone : w.wired.client.missedAcks = 0 := by
        refine hacks.resolve_right ?_
        rintro ⟨-, s, hmem, hack⟩
        have hlate : w.clock ≤ s + maxDelay config := (hpunctual.down _ hmem).2
        omega
      refine h.beats hcompatible hsocket hlink hticks (by omega) random
        fun c delayMs hc hsame hlow hhigh => ?_
      exact .beating hc (by omega) (by omega) ⟨by omega, by omega⟩ (by omega) hdown
  | beating hticks hwindow hlast hset hacks hdown =>
      have hlate := hpunctual.next.2
      have hearliest := hset.earliest
      omega
  | @draining _ closedAt hticks hacks hdraining =>
      obtain ⟨hpast, hlate⟩ := hdraining.closed_le hpunctual
      refine h.beats hcompatible hsocket hlink hticks (by omega) random
        fun c delayMs hc hsame hlow hhigh => ?_
      have hwrite : link.write w.clock (.frame .heartbeat) = link := if_pos hdraining.closing
      rw [hwrite]
      exact .draining hc (.inr (by omega)) hdraining
  | @closed server down s closedAt hticks hacks hclosed hwritten hdown =>
      have hlate : (s : Nat) ≤ w.clock ∧ w.clock ≤ s + maxDelay config :=
        hpunctual.down _ (List.mem_append_right _ List.mem_cons_self)
      refine h.beats hcompatible hsocket hlink hticks (by omega) random
        fun c delayMs hc hsame hlow hhigh => ?_
      exact .closed hc (.inr (by omega)) hclosed hwritten hdown

theorem Inv.stop (h : Inv wire config w) (hcompatible : Compatible config) :
    Inv wire config w.stop := by
  -- whatever the links do, a stop of the client sends nothing more
  have hstep : ∀ w' : Timed, w'.wired = w.wired →
      w'.drive .stop = { w' with wired := w.wired.stop } := by
    intro w' hwired
    have hstop : w'.wired.step .stop = (w.wired.stop, []) := by
      rw [hwired]
      rfl
    unfold drive
    rw [hstop, hwired]
    simp [Wired.stop]
  have hoff : w.wired.stop.client.socket = none := GatewayClient.stop_socket
  have htimer : w.wired.stop.client.heartbeatTimer = false := by
    simp [Wired.stop, GatewayClient.stop]
  cases hsocket : w.wired.client.socket with
  | none =>
      have hsame : w.stop = { w with wired := w.wired.stop } := by
        unfold Timed.stop
        rw [GatewayClient.closeSocket, hsocket]
        exact hstep w rfl
      rw [hsame]
      refine ⟨h.wired.stop, h.info, h.opened, h.zombie, fun hon => ?_, h.punctual,
        fun n hn => ?_, fun n link hlink _ => h.left n link hlink (by rw [hsocket]; simp)⟩
      · cases htimer.symm.trans hon
      · cases hoff.symm.trans hn
  | some n =>
      obtain ⟨link, hlink, hstage⟩ := h.stage n hsocket
      have hpunctual := h.punctual link (List.mem_of_getElem? hlink)
      have hclosed : w.stop = { w with
          zombie := w.zombie || decide ((1000 : UInt16) = CloseCode.zombied)
          links := w.links.modify n (Link.write w.clock .closed)
          wired := w.wired.stop } := by
        unfold Timed.stop
        rw [GatewayClient.closeSocket, hsocket]
        exact hstep _ rfl
      rw [hclosed]
      refine h.client hsocket rfl (modify_of_getElem? hlink) h.wired.stop rfl rfl ?_ (fun hon => ?_)
        (hpunctual.write _) (.inr ⟨hoff, hstage.leave hcompatible hpunctual h.timer⟩)
      · show (w.zombie || _) = false
        rw [h.zombie]
        rfl
      · cases htimer.symm.trans hon

/-- The client opens a socket. -/
theorem Inv.opens (h : Inv wire config w) (hsocket : w.wired.client.socket = none)
    {c : GatewayClient} (htimer : c.heartbeatTimer = false) (token : Uuid)
    (hwired : Wired.Inv ({ w.wired with client := c }.openSocket (some token))) :
    Inv wire config { w with
      wired := { w.wired with client := c }.openSocket (some token)
      links := w.links ++ [Link.opened] } := by
  have hoff : ({ w.wired with client := c }.openSocket (some token)).client.heartbeatTimer =
      false := (GatewayClient.openSocket_heartbeatTimer _ _).trans htimer
  have hopened : ({ w.wired with client := c }.openSocket (some token)).client.socket =
      some w.links.length := by
    rw [h.opened]
    exact GatewayClient.openSocket_some_socket token w.wired.opened
  refine ⟨hwired, h.info, ?_, h.zombie, fun hon => ?_, fun link hmem => ?_, fun n hn => ?_,
    fun n link hlink hn => ?_⟩
  · rw [List.length_append, h.opened]
    rfl
  · cases hoff.symm.trans hon
  · rcases List.mem_append.mp hmem with hold | hnew
    · exact h.punctual link hold
    · rw [List.mem_singleton.mp hnew]
      exact ⟨fun m hm => (by cases hm), fun m hm => (by cases hm)⟩
  · cases Option.some.inj (hopened.symm.trans hn)
    exact ⟨Link.opened, List.getElem?_concat_length, .opened hoff⟩
  · by_cases hlt : n < w.links.length
    · rw [List.getElem?_append_left hlt] at hlink
      exact h.left n link hlink (by rw [hsocket]; simp)
    · have hlast : n = w.links.length := by
        have hbound := (List.getElem?_eq_some_iff.mp hlink).1
        rw [List.length_append, List.length_singleton] at hbound
        omega
      rw [hlast] at hn
      exact absurd hopened hn

theorem Inv.start (h : Inv wire config w) (token : Uuid) :
    Inv wire config (w.drive (.start (some token) false)) := by
  have hwired := h.wired.step (.start (some token) false)
  have hstep : w.wired.step (.start (some token) false) = (w.wired.start (some token), []) := rfl
  unfold drive
  rw [hstep] at hwired ⊢
  dsimp only at hwired
  by_cases hstopped : w.wired.client.stopped = true
  · have hsocket := h.wired.socket_of_stopped hstopped
    have hopens : w.wired.start (some token) = { w.wired with
        client := { w.wired.client with stopped := false, attempt := 0 } }.openSocket
          (some token) := if_pos hstopped
    rw [hopens] at hwired ⊢
    have hnew : ({ w.wired with client := { w.wired.client with stopped := false, attempt := 0 }
        }.openSocket (some token)).opened - w.wired.opened = 1 := Nat.add_sub_cancel_left _ _
    show Inv wire config { w with wired := _, links := w.links ++ List.replicate _ Link.opened }
    rw [hnew]
    exact h.opens (c := { w.wired.client with stopped := false, attempt := 0 }) hsocket
      (h.wired.heartbeat_off hsocket) token hwired
  · have hsame : w.wired.start (some token) = w.wired := if_neg hstopped
    rw [hsame]
    simpa using h

theorem Inv.retry (h : Inv wire config w) (token : Uuid) :
    Inv wire config (w.drive (.retry (some token) false)) := by
  have hwired := h.wired.step (.retry (some token) false)
  have hstep : w.wired.step (.retry (some token) false) = (w.wired.retry (some token), []) := rfl
  unfold drive
  rw [hstep] at hwired ⊢
  dsimp only at hwired
  cases hretry : w.wired.client.retryTimer with
  | none =>
      have hsame : w.wired.retry (some token) = w.wired := by
        unfold Wired.retry
        rw [hretry]
      rw [hsame]
      simpa using h
  | some delayMs =>
      have hset : w.wired.client.retryTimer ≠ none := by
        rw [hretry]
        exact Option.some_ne_none delayMs
      have hsocket := h.wired.socket_of_retry hset
      have hrunning : ¬ w.wired.client.stopped = true := fun hstopped =>
        hset (h.wired.retry_of_stopped hstopped)
      have hopens : w.wired.retry (some token) = { w.wired with
          client := { w.wired.client with retryTimer := none } }.openSocket (some token) := by
        unfold Wired.retry
        rw [hretry]
        exact if_neg hrunning
      rw [hopens] at hwired ⊢
      have hnew : ({ w.wired with client := { w.wired.client with retryTimer := none }
          }.openSocket (some token)).opened - w.wired.opened = 1 := Nat.add_sub_cancel_left _ _
      show Inv wire config { w with wired := _, links := w.links ++ List.replicate _ Link.opened }
      rw [hnew]
      exact h.opens (c := { w.wired.client with retryTimer := none }) hsocket
        (h.wired.heartbeat_off hsocket) token hwired

theorem Inv.advance (h : Inv wire config w) {ms : Nat} (hontime : w.OnTime config (w.clock + ms)) :
    Inv wire config { w with clock := w.clock + ms } where
  wired := h.wired
  info := h.info
  opened := h.opened
  zombie := h.zombie
  timer := hontime.2
  punctual link hmem := (h.punctual link hmem).advance (Nat.le_add_right _ ms)
    (hontime.1 link hmem).1 (hontime.1 link hmem).2
  stage := h.stage
  left := h.left

theorem Inv.step (h : Inv wire config w) (hcompatible : Compatible config) (act : Act) :
    Inv wire config (w.step wire config act) := by
  cases act with
  | start token => exact h.start token
  | stop => exact h.stop hcompatible
  | retry token => exact h.retry token
  | beat random =>
      rw [Timed.step]
      split
      · next hdue => exact h.beat hcompatible hdue.1 hdue.2 random
      · exact h
  | accept n =>
      exact h.server n (fun _ hpunctual => hpunctual.accept) (fun _ _ hstage => hstage.accept)
        fun _ _ hleft => hleft.accept
  | toServer n hub =>
      rw [Timed.step]
      split
      · next hanswers =>
          exact h.server n (fun _ hpunctual => hpunctual.arrive)
            (fun _ hpunctual hstage => hstage.arrive hcompatible hpunctual hanswers)
            fun _ hpunctual hleft => hleft.arrive hcompatible hpunctual
      · exact h
  | toClient n token random code stops =>
      rw [Timed.step]
      split
      · exact h
      · next link hlink => exact h.deliver hcompatible hlink token random code stops
  | push n frame =>
      rw [Timed.step]
      split
      · next hsent =>
          exact h.server n (fun _ hpunctual => hpunctual.pushed frame)
            (fun _ _ hstage => hstage.pushed hsent) fun _ _ hleft => hleft.pushed
      · exact h
  -- the deadlines and the checks find every connection in time, so they change nothing
  | identifyDeadline n =>
      refine h.server n (fun _ hpunctual => hpunctual.wake _) (fun link hpunctual hstage => ?_)
        fun link hpunctual hleft => ?_
      · rw [wake_identifyDeadline (hstage.alive hcompatible hpunctual h.timer)]
        exact hstage
      · rw [wake_identifyDeadline (hleft.alive hpunctual)]
        exact hleft
  | heartbeatCheck n =>
      refine h.server n (fun _ hpunctual => hpunctual.wake _) (fun link hpunctual hstage => ?_)
        fun link hpunctual hleft => ?_
      · rw [wake_heartbeatCheck (hstage.alive hcompatible hpunctual h.timer)]
        exact hstage
      · rw [wake_heartbeatCheck (hleft.alive hpunctual)]
        exact hleft
  | advance ms =>
      rw [Timed.step]
      split
      · next hontime => exact h.advance hontime
      · exact h

end Steps

/-- With these intervals no connection is closed for a limit, in any run. -/
theorem spared_throughout (wire : Wire) {config : GatewayConfig} (hcompatible : Compatible config)
    (acts : List Act) : Throughout (step wire config) Spared (idle wire) acts := by
  have hinv : Throughout (step wire config) (Inv wire config) (idle wire) acts :=
    throughout_of_eachStep (fun w act h _ => h.step hcompatible act) (inv_idle wire config)
      (eachStep_of_forall (fun _ _ => trivial) _ acts)
  exact hinv.mono fun _ h => h.spared

end Timed
end Desktop
end Ldktela
