import Ldktela.Gateway.Session
import Ldktela.Lib.Runs

/-!
# What a session can replay

`replay_after` of `crates/api/src/gateway/session.rs` over every run of one session.  The
buffer is a window of the last `bufferCapacity` frames: `Window` says where it stands, and
`replayAfter_exact` reads the resume points off it.
-/

namespace Ldktela
namespace Gateway

open Protocol
open Runs

/-- What happens to a session. -/
inductive SessionAct where
  | dispatch (event : DispatchEvent)
  | disconnect (now : Timestamp)
  | reconnect (outbox : Outbox)

def SessionAct.event? : SessionAct → Option DispatchEvent
  | .dispatch event => some event
  | .disconnect _ => none
  | .reconnect _ => none

/-- The events of a run, in order. -/
def dispatched (acts : List SessionAct) : List DispatchEvent :=
  acts.filterMap SessionAct.event?

def Session.act (s : Session) : SessionAct → Session
  | .dispatch event => s.dispatch event
  | .disconnect now => s.disconnect now
  | .reconnect outbox => s.reconnect outbox

/-- The frames that the dispatches of a run build. -/
def Session.sent : Session → List SessionAct → List DispatchFrame
  | _, [] => []
  | s, .dispatch event :: acts => s.nextFrame event :: Session.sent (s.dispatch event) acts
  | s, .disconnect now :: acts => Session.sent (s.disconnect now) acts
  | s, .reconnect outbox :: acts => Session.sent (s.reconnect outbox) acts

theorem Session.events_sent (s : Session) (acts : List SessionAct) :
    (s.sent acts).map DispatchFrame.event = dispatched acts := by
  induction acts generalizing s with
  | nil => rfl
  | cons a acts ih =>
      cases a with
      | dispatch event => exact congrArg (event :: ·) (ih (s.dispatch event))
      | disconnect now => exact ih (s.disconnect now)
      | reconnect outbox => exact ih (s.reconnect outbox)

namespace TrackedSession

def act (t : TrackedSession) : SessionAct → TrackedSession
  | .dispatch event => t.dispatch event
  | .disconnect now => t.disconnect now
  | .reconnect outbox => t.reconnect outbox

/-- The buffer holds the last frames, up to its capacity `c`. -/
structure Window (c : Nat) (t : TrackedSession) : Prop where
  capacity_eq : t.session.bufferCapacity = c
  evicted_eq : t.session.evictedThrough = t.history.length - c

namespace Window

variable {c : Nat} {t : TrackedSession}

theorem length_buffer (h : t.Window c) : t.session.buffer.length ≤ c := by
  rw [t.tracks.buffer_eq, List.length_drop, h.evicted_eq]
  omega

/-- A full buffer drops its oldest frame, one that is not full drops nothing. -/
theorem dispatch (hc : 1 ≤ c) (h : t.Window c) (event : DispatchEvent) :
    (t.dispatch event).Window c where
  capacity_eq := by
    obtain ⟨buffer, evicted, hframe⟩ := t.session.dispatch_frame event
    change (t.session.dispatch event).bufferCapacity = c
    rw [hframe]
    exact h.capacity_eq
  evicted_eq := by
    have hlen : t.session.buffer.length = t.history.length - t.session.evictedThrough := by
      rw [t.tracks.buffer_eq, List.length_drop]
    have hevicted := h.evicted_eq
    have hcapacity := h.capacity_eq
    simp only [TrackedSession.dispatch, Session.dispatch, Session.pushBuffer,
      List.length_append, List.length_singleton]
    split
    · next hfull =>
      split
      · next dropped rest hbuffer =>
        obtain ⟨hs, -, -⟩ := t.tracks.evict_head hbuffer
        dsimp only
        omega
      · next hbuffer =>
        -- a buffer with room for a frame is not full when it is empty
        rw [hbuffer, List.length_nil] at hfull
        omega
    · dsimp only
      omega

theorem act (hc : 1 ≤ c) (h : t.Window c) (a : SessionAct) : (t.act a).Window c := by
  cases a with
  | dispatch event => exact h.dispatch hc event
  | disconnect now => exact ⟨h.capacity_eq, h.evicted_eq⟩
  | reconnect outbox => exact ⟨h.capacity_eq, h.evicted_eq⟩

/-- The resume points. -/
theorem replayAfter_eq (h : t.Window c) (k : Nat) :
    t.session.replayAfter k =
      if t.history.length - c ≤ k ∧ k ≤ t.history.length then some (t.history.drop k)
      else none := by
  have hnone := t.tracks.replayAfter_eq_none_iff k
  rw [h.evicted_eq] at hnone
  cases hreplay : t.session.replayAfter k with
  | none =>
      rw [if_neg]
      have hout := hnone.mp hreplay
      omega
  | some missed =>
      obtain ⟨hle, hmissed⟩ := t.tracks.replayAfter_eq_some hreplay
      have hin : ¬(t.history.length < k ∨ k < t.history.length - c) := by
        rw [← hnone, hreplay]
        exact Option.some_ne_none missed
      rw [if_pos (by omega), hmissed]

end Window

theorem session_run (t : TrackedSession) (acts : List SessionAct) :
    (run act t acts).session = run Session.act t.session acts := by
  induction acts generalizing t with
  | nil => rfl
  | cons a acts ih =>
      rw [run_cons, run_cons, ih]
      cases a <;> rfl

/-- The history of a run is what its dispatches sent. -/
theorem history_run (t : TrackedSession) (acts : List SessionAct) :
    (run act t acts).history = t.history ++ t.session.sent acts := by
  induction acts generalizing t with
  | nil => exact (List.append_nil _).symm
  | cons a acts ih =>
      rw [run_cons, ih]
      cases a with
      | dispatch event => exact List.append_assoc _ _ _
      | disconnect now => rfl
      | reconnect outbox => rfl

end TrackedSession

/-- A replay is exact: the resume points are those the buffer reaches back to, and the answer is
what was sent after them. -/
theorem replayAfter_exact {c : Nat} (hc : 1 ≤ c) (id userId : Uuid) (outbox : Outbox)
    (acts : List SessionAct) :
    let n := (dispatched acts).length
    let sent := (Session.new id userId outbox c).sent acts
    let s := run Session.act (Session.new id userId outbox c) acts
    sent.map DispatchFrame.s = List.range' 1 n ∧
      sent.map DispatchFrame.event = dispatched acts ∧
      s.buffer.length ≤ c ∧
      ∀ k, s.replayAfter k = if n - c ≤ k ∧ k ≤ n then some (sent.drop k) else none := by
  intro n sent s
  let t := run TrackedSession.act (TrackedSession.new id userId outbox c) acts
  have hwindow : t.Window c :=
    run_invariant (fun _ a h => h.act hc a) ⟨rfl, (Nat.zero_sub c).symm⟩ acts
  have hsession : t.session = s := TrackedSession.session_run _ acts
  have hhistory : t.history = sent := TrackedSession.history_run _ acts
  have hevents : sent.map DispatchFrame.event = dispatched acts := Session.events_sent _ acts
  have hlength : sent.length = n := by rw [← List.length_map, hevents]
  have hnumbers := t.tracks.numbered.map_eq_range'
  have hreplay := hwindow.replayAfter_eq
  rw [hhistory, hlength] at hnumbers
  rw [hsession, hhistory, hlength] at hreplay
  exact ⟨hnumbers, hevents, hsession ▸ hwindow.length_buffer, hreplay⟩

/-- Three dispatches, the second one while nobody listens. -/
def threeDispatches : List SessionAct :=
  [.dispatch (.roomLeave ⟨10, .left⟩), .disconnect 1, .dispatch (.roomLeave ⟨20, .left⟩),
    .reconnect 4, .dispatch (.roomLeave ⟨30, .left⟩)]

/-- A buffer of two frames reaches back to the first one. -/
theorem threeDispatches_replayed :
    (run Session.act (Session.new 7 1 3 2) threeDispatches).replayAfter 1 =
      if 3 - 2 ≤ 1 ∧ 1 ≤ 3 then some (((Session.new 7 1 3 2).sent threeDispatches).drop 1)
      else none :=
  (replayAfter_exact (by decide) 7 1 3 threeDispatches).2.2.2 1

end Gateway
end Ldktela
