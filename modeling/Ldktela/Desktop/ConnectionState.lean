import Ldktela.Desktop.GatewayFrames
import Ldktela.Lib.Runs

/-!
# The connection state of the gateway client

What holds of `GatewayClient` in every run: its sockets, its timers, and the session its
`RESUME`s name.  A `Watched` client is one with a record of what it was told, kept beside
it and without it.
-/

namespace Ldktela
namespace Desktop

open Protocol
open Runs

/-- The close codes that end a session. -/
def invalidates (code : UInt16) : Bool :=
  code = CloseCode.authenticationFailed || code = CloseCode.decodeError ||
    code = CloseCode.notAuthenticated || code = CloseCode.sessionAlreadyActive

/-- What a frame says about the session and the sequence it has come to. -/
def heard : Option ServerFrame → Option (Uuid × Nat) → Option (Uuid × Nat)
  | some (.dispatch seq (.ready d)), _ => some (d.sessionId, seq)
  | some (.dispatch seq _), session => session.map fun s => (s.1, seq)
  | some (.invalidSession _), _ => none
  | _, session => session

/-- The session and the sequence of a `RESUME`. -/
def Output.resume? : Output → Option (Uuid × Nat)
  | .send _ (.resume _ sessionId lastSeq) => some (sessionId, lastSeq)
  | _ => none

structure Watched where
  wired : Wired
  /-- Since a `stop` or a fatal close: the sockets created until then. -/
  halted : Option Nat
  /-- The session of the latest `READY`, unless it was invalidated, and the sequence of its
  last dispatch. -/
  session : Option (Uuid × Nat)
  /-- Every `RESUME`, with the session there was. -/
  resumes : List ((Uuid × Nat) × Option (Uuid × Nat))

namespace Watched

/-- The codes the client does not reconnect after. -/
def fatalClose (w : Wired) : Wired.Act → Bool
  | .close socket code _ _ _ => decide (socket ∈ w.attached) &&
      (code = CloseCode.versionTooOld || code = CloseCode.authenticationFailed)
  | _ => false

/-- The client is stopped, or reports something fatal. -/
def halts (w : Wired) (act : Wired.Act) : Bool :=
  w.stopCalled act || decide (w.Reported (w.handle act).1) || fatalClose w act

def haltedAfter (w : Watched) (act : Wired.Act) : Option Nat :=
  if halts w.wired act then
    some (w.wired.step act).1.opened
  else
    match act with
    | .start _ _ => none
    | _ => w.halted

def sessionAfter (w : Watched) (act : Wired.Act) : Option (Uuid × Nat) :=
  if w.wired.stopCalled act then
    none
  else
    match act with
    | .frame socket frame _ _ _ =>
        if socket ∈ w.wired.attached then heard frame w.session else w.session
    | .close socket code _ _ _ =>
        if socket ∈ w.wired.attached ∧ invalidates code then none else w.session
    | _ => w.session

def step (w : Watched) (act : Wired.Act) : Watched where
  wired := (w.wired.step act).1
  halted := w.haltedAfter act
  session := w.sessionAfter act
  resumes := w.resumes ++
    ((w.wired.step act).2.filterMap Output.resume?).map fun resume => (resume, w.session)

def start (info : ClientInfo) : Watched := ⟨.idle info, none, none, []⟩

structure Sound (w : Watched) : Prop where
  /-- At most one socket has our handlers attached. -/
  one_attached : w.wired.attached.length ≤ 1
  /-- A live socket and a pending retry do not coexist. -/
  retry : w.wired.attached ≠ [] → w.wired.client.retryTimer = none
  /-- No socket is opened after a `stop` or a fatal close. -/
  halted : ∀ opened, w.halted = some opened → w.wired.opened = opened
  heartbeat : w.wired.client.heartbeatTimer = true → w.wired.attached ≠ []
  resumes : ∀ resume ∈ w.resumes, resume.2 = some resume.1

end Watched

/-! ## The session -/

/-- The client has the session it was told of. -/
structure GatewayClient.Knows (session : Option (Uuid × Nat)) (c : GatewayClient) : Prop where
  sessionId : c.sessionId = session.map Prod.fst
  lastSeq : ∀ s, session = some s → c.lastSeq = s.2

namespace GatewayClient

variable {session : Option (Uuid × Nat)} {c c' : GatewayClient}

theorem Knows.congr (h : c.Knows session) (hsession : c'.sessionId = c.sessionId)
    (hlastSeq : c'.lastSeq = c.lastSeq) : c'.Knows session where
  sessionId := hsession.trans h.sessionId
  lastSeq s hs := hlastSeq.trans (h.lastSeq s hs)

theorem knows_none (h : c.sessionId = none) : c.Knows none where
  sessionId := h
  lastSeq s hs := by cases hs

/-- A dispatch of the session. -/
theorem Knows.dispatch (h : c.Knows session) {seq : Nat} (hsession : c'.sessionId = c.sessionId)
    (hlastSeq : c'.lastSeq = seq) : c'.Knows (session.map fun s => (s.1, seq)) where
  sessionId := by
    rw [hsession, h.sessionId, Option.map_map]
    rfl
  lastSeq s hs := by
    obtain ⟨s, -, rfl⟩ := Option.map_eq_some_iff.mp hs
    exact hlastSeq

theorem Knows.handleDispatch (h : c.Knows session) (now seq : Nat) (event : DispatchEvent) :
    (c.handleDispatch now seq event).1.Knows (heard (some (.dispatch seq event)) session) := by
  cases event with
  | ready d =>
      refine ⟨by simp [GatewayClient.handleDispatch, ready, heard], ?_⟩
      rintro s ⟨⟩
      simp [GatewayClient.handleDispatch, ready]
  | resumed d =>
      exact h.dispatch (by simp [GatewayClient.handleDispatch])
        (by simp [GatewayClient.handleDispatch])
  | _ => exact h.dispatch rfl rfl

theorem Knows.handleFrame (h : c.Knows session) (info : ClientInfo) (now : Nat)
    (token : Option Uuid) (random : Random) (frame : Option ServerFrame) :
    (c.handleFrame info now token random frame).1.Knows (heard frame session) := by
  match frame with
  | none => exact h.congr rfl rfl
  | some (.hello hello) =>
      obtain ⟨hsession, hlastSeq⟩ :=
        @handleHello_session c info token random hello.heartbeatIntervalMs
      exact h.congr hsession hlastSeq
  | some (.dispatch seq event) => exact h.handleDispatch now seq event
  | some .heartbeatAck => exact h.congr rfl rfl
  | some (.invalidSession _) =>
      exact knows_none ((@sendIdentify_session c.clearSession info token).1)
  | some .reconnect => exact h.congr rfl rfl

/-- A client that runs forgets the session exactly after the codes that end it. -/
theorem Knows.handleClose (h : c.Knows session) (hrunning : c.stopped = false) (now : Nat)
    (backoffDelayMs : Nat → Nat) (code : UInt16) :
    (c.handleClose now backoffDelayMs code).Knows
      (if invalidates code then none else session) := by
  obtain ⟨-, -, hsession⟩ := @handleClose_running now backoffDelayMs code c hrunning
  have hcodes : invalidates code = true ↔
      code = CloseCode.authenticationFailed ∨ clearsSession code = true := by
    simp [invalidates, clearsSession, or_assoc]
  by_cases hinvalid : invalidates code = true
  · rw [if_pos (hcodes.mp hinvalid)] at hsession
    rw [if_pos hinvalid]
    exact knows_none hsession
  · have hnot := fun h => hinvalid (hcodes.mpr h)
    rw [if_neg hnot] at hsession
    rw [if_neg hinvalid]
    exact h.congr hsession (handleClose_lastSeq hrunning hnot)

theorem Knows.beat (h : c.Knows session) (random : Random) :
    (c.beat random).1.Knows session := by
  unfold GatewayClient.beat
  dsimp only
  split
  · exact h.congr rfl rfl
  · split
    · exact h.congr rfl rfl
    · exact h.congr rfl rfl

/-- A `RESUME` names the session of the client. -/
theorem handleFrame_resume {info : ClientInfo} {now : Nat} {token : Option Uuid} {random : Random}
    {frame : Option ServerFrame} {resume : Uuid × Nat}
    (h : resume ∈ (c.handleFrame info now token random frame).2.filterMap Output.resume?) :
    c.sessionId = some resume.1 ∧ c.lastSeq = resume.2 := by
  obtain ⟨out, hout, hresume⟩ := List.mem_filterMap.mp h
  -- an `IDENTIFY` is not a `RESUME`, nor is the close without a token
  have hidentify : ∀ (c : GatewayClient) {out : Output},
      out ∈ (c.sendIdentify info token).2 → out.resume? ≠ some resume := by
    intro c out hout hresume
    cases token with
    | none =>
        obtain ⟨socket, -, rfl⟩ := mem_closeSocket.mp hout
        cases hresume
    | some token =>
        obtain ⟨socket, -, rfl⟩ := mem_send.mp hout
        cases hresume
  match frame with
  | none => cases hout
  | some (.hello hello) =>
      simp only [handleFrame] at hout
      unfold handleHello at hout
      dsimp only at hout
      rcases List.mem_append.mp hout with hgreeted | hscheduled
      · split at hgreeted
        · next sessionId hsession =>
            split at hgreeted
            · obtain ⟨socket, -, rfl⟩ := mem_send.mp hgreeted
              obtain rfl := Option.some.inj hresume
              exact ⟨hsession, rfl⟩
            · cases hgreeted
        · exact absurd hresume (hidentify _ hgreeted)
      · obtain rfl := List.mem_singleton.mp hscheduled
        cases hresume
  | some (.dispatch seq event) =>
      obtain rfl := List.mem_singleton.mp hout
      cases hresume
  | some .heartbeatAck => cases hout
  | some (.invalidSession _) => exact absurd hresume (hidentify _ hout)
  | some .reconnect =>
      obtain ⟨socket, -, rfl⟩ := mem_closeSocket.mp hout
      cases hresume

/-- The heartbeat timer sends no `RESUME`. -/
theorem beat_resume {random : Random} {resume : Uuid × Nat} :
    resume ∉ (c.beat random).2.filterMap Output.resume? := by
  intro h
  obtain ⟨out, hout, hresume⟩ := List.mem_filterMap.mp h
  unfold beat at hout
  dsimp only at hout
  split at hout
  · cases hout
  · split at hout
    · obtain ⟨socket, -, rfl⟩ := mem_closeSocket.mp hout
      cases hresume
    · rcases List.mem_append.mp hout with hsent | hscheduled
      · obtain ⟨socket, -, rfl⟩ := mem_send.mp hsent
        cases hresume
      · obtain rfl := List.mem_singleton.mp hscheduled
        cases hresume

end GatewayClient

/-! ## A client that has stopped -/

namespace Wired

variable {w : Wired}

/-- Nothing but `start` gets anything out of a client that has stopped. -/
theorem handle_of_stopped (h : w.Inv) (hstopped : w.client.stopped = true) {act : Wired.Act}
    (hact : ∀ token stops, act ≠ .start token stops) : w.handle act = (w, []) := by
  have hnone := h.attached_nil (h.socket_of_stopped hstopped)
  cases act with
  | start token stops => exact absurd rfl (hact token stops)
  | stop => rfl
  | frame socket frame now token random => simp [handle, hnone]
  | close socket code now random stops => simp [handle, hnone]
  | heartbeat random => simp [handle, h.heartbeat_off (h.socket_of_stopped hstopped)]
  | retry token stops => simp [handle, retry, h.retry_of_stopped hstopped]

theorem knows_openSocket {session : Option (Uuid × Nat)} (h : w.client.Knows session)
    (token : Option Uuid) : (w.openSocket token).client.Knows session := by
  cases token with
  | none => exact h.congr (by simp [openSocket]) (by simp [openSocket])
  | some token => exact h.congr (by simp [openSocket]) (by simp [openSocket])

end Wired

namespace Watched

structure Inv (w : Watched) : Prop where
  wired : w.wired.Inv
  halted : ∀ opened, w.halted = some opened →
    w.wired.opened = opened ∧ w.wired.client.stopped = true
  knows : w.wired.client.Knows w.session
  resumes : ∀ resume ∈ w.resumes, resume.2 = some resume.1

variable {w : Watched}

theorem Inv.sound (h : Inv w) : Sound w where
  one_attached := by
    rw [h.wired.attached_eq]
    cases w.wired.client.socket with
    | none => simp
    | some socket => simp
  retry hattached := by
    by_contra hretry
    exact hattached (h.wired.attached_nil (h.wired.socket_of_retry hretry))
  halted opened hhalted := (h.halted opened hhalted).1
  heartbeat hbeat hnone := by
    refine h.wired.socket_of_heartbeat hbeat ?_
    have hattached := h.wired.attached_eq
    rw [hnone] at hattached
    simpa using hattached.symm
  resumes := h.resumes

theorem inv_start (info : ClientInfo) : Inv (start info) where
  wired := Wired.inv_idle info
  halted opened hhalted := by cases hhalted
  knows := GatewayClient.knows_none rfl
  resumes resume hresume := by cases hresume

theorem stopped_of_halts (h : w.wired.Inv) {act : Wired.Act} (hhalts : halts w.wired act = true) :
    (w.wired.step act).1.client.stopped = true := by
  unfold Wired.step
  dsimp only
  split
  · exact GatewayClient.stop_stopped
  · next hstop =>
      simp only [halts, hstop, Bool.false_or, Bool.or_eq_true, decide_eq_true_eq] at hhalts
      rcases hhalts with hreported | hfatal
      · exact Wired.stopped_of_reported h hreported
      · cases act with
        | close socket code now random stops =>
            simp only [fatalClose, Bool.and_eq_true, Bool.or_eq_true, decide_eq_true_eq] at hfatal
            rw [Wired.handle, if_pos hfatal.1]
            rcases Wired.handleClose_reports (Wired.running_of_attached h hfatal.1) now random
                code with ⟨-, hstopped⟩ | ⟨hnot, -⟩
            · exact hstopped
            · exact absurd hfatal.2 hnot
        | _ => cases hfatal

/-- A client that has halted opens no socket, unless it is started. -/
theorem halted_step (h : Inv w) (act : Wired.Act) (opened : Nat)
    (hhalted : w.haltedAfter act = some opened) :
    (w.wired.step act).1.opened = opened ∧ (w.wired.step act).1.client.stopped = true := by
  unfold haltedAfter at hhalted
  split at hhalted
  · next hhalts => exact ⟨Option.some.inj hhalted, stopped_of_halts h.wired hhalts⟩
  · next hgoes =>
      have hstop : w.wired.stopCalled act = false := by
        by_contra hstop
        exact hgoes (by simp [halts, hstop])
      have hstays : (∀ token stops, act ≠ .start token stops) → w.halted = some opened →
          (w.wired.step act).1.opened = opened ∧ (w.wired.step act).1.client.stopped = true := by
        intro hact hbefore
        have hstep : (w.wired.step act).1 = w.wired := by
          unfold Wired.step
          rw [hstop, Wired.handle_of_stopped h.wired (h.halted opened hbefore).2 hact]
          rfl
        rw [hstep]
        exact h.halted opened hbefore
      cases act with
      | start token stops => cases hhalted
      | _ => exact hstays (fun _ _ => by simp) hhalted

theorem knows_step (h : Inv w) (act : Wired.Act) :
    (w.wired.step act).1.client.Knows (w.sessionAfter act) := by
  unfold Wired.step sessionAfter
  dsimp only
  split
  · exact GatewayClient.knows_none (by simp [Wired.stop, GatewayClient.stop])
  · cases act with
    | start token stops =>
        simp only [Wired.handle, Wired.start]
        split
        · refine Wired.knows_openSocket ?_ token
          exact h.knows.congr rfl rfl
        · exact h.knows
    | stop => exact h.knows
    | frame socket frame now token random =>
        simp only [Wired.handle]
        split
        · exact h.knows.handleFrame w.wired.info now token random frame
        · exact h.knows
    | close socket code now random stops =>
        by_cases hsocket : socket ∈ w.wired.attached
        · rw [Wired.handle, if_pos hsocket]
          simp only [hsocket, true_and]
          exact h.knows.handleClose (Wired.running_of_attached h.wired hsocket) now _ code
        · rw [Wired.handle, if_neg hsocket]
          simp only [hsocket, false_and, if_false]
          exact h.knows
    | heartbeat random =>
        simp only [Wired.handle]
        split
        · exact h.knows.beat random
        · exact h.knows
    | retry token stops =>
        simp only [Wired.handle, Wired.retry]
        split
        · exact h.knows
        · split
          · exact h.knows.congr rfl rfl
          · refine Wired.knows_openSocket ?_ token
            exact h.knows.congr rfl rfl

/-- A `RESUME` is sent for the session the client knows of. -/
theorem resume_step (h : Inv w) (act : Wired.Act) {resume : Uuid × Nat}
    (hresume : resume ∈ (w.wired.step act).2.filterMap Output.resume?) :
    w.session = some resume := by
  have hknown : w.wired.client.sessionId = some resume.1 → w.wired.client.lastSeq = resume.2 →
      w.session = some resume := by
    intro hsession hlastSeq
    rw [h.knows.sessionId] at hsession
    obtain ⟨s, hs, hid⟩ := Option.map_eq_some_iff.mp hsession
    rw [hs, Prod.ext hid ((h.knows.lastSeq s hs).symm.trans hlastSeq)]
  have hout : resume ∈ (w.wired.handle act).2.filterMap Output.resume? := hresume
  cases act with
  | start token stops => cases hout
  | stop => cases hout
  | frame socket frame now token random =>
      simp only [Wired.handle] at hout
      split at hout
      · obtain ⟨hsession, hlastSeq⟩ := GatewayClient.handleFrame_resume hout
        exact hknown hsession hlastSeq
      · cases hout
  | close socket code now random stops =>
      simp only [Wired.handle] at hout
      split at hout
      · cases hout
      · cases hout
  | heartbeat random =>
      simp only [Wired.handle] at hout
      split at hout
      · exact absurd hout GatewayClient.beat_resume
      · cases hout
  | retry token stops => cases hout

theorem inv_step (h : Inv w) (act : Wired.Act) : Inv (w.step act) where
  wired := h.wired.step act
  halted := halted_step h act
  knows := knows_step h act
  resumes resume hresume := by
    rcases List.mem_append.mp hresume with hbefore | hnew
    · exact h.resumes resume hbefore
    · obtain ⟨sent, hsent, rfl⟩ := List.mem_map.mp hnew
      exact resume_step h act hsent

/-- The connection state of the client is sound in every run. -/
theorem sound_throughout (info : ClientInfo) (acts : List Wired.Act) :
    Throughout step Sound (start info) acts := by
  have hinv : Throughout step Inv (start info) acts :=
    throughout_iff_initial.mpr fun acts' _ =>
      run_invariant (I := Inv) (fun _ act h => inv_step h act) (inv_start info) acts'
  exact hinv.mono fun _ h => h.sound

end Watched

end Desktop
end Ldktela
