import Ldktela.Gateway.Session
import Ldktela.Lib.Runs

/-!
# RESUME, step by step

`Connection::resume` takes no lock over its steps.  Once the hub has found the
session it

* asks the session for the frames after `last_seq` (`replay_after`), and stops
  there when they are gone;
* attaches the new outbox (`reconnect`);
* sends the missed frames, one `send_text` each;
* dispatches `RESUMED`.

Publishers call `Session::dispatch` between any two of these steps.  A run is a
list of moves, each the next step of the resume or one dispatch, and the state
carries what has been written to every outbox since the resume began.

A dispatch that falls between the snapshot and the attachment is in neither the
snapshot nor the new outbox; one that falls between two replay sends overtakes
the frames still to be replayed.  `resume_complete_iff_quiet` shows that these
are the only runs in which the client does not get exactly the history past
`last_seq`.
-/

namespace Ldktela
namespace Gateway
namespace Resume

open Protocol
open Runs

/-- How far the resume has come. -/
inductive Phase where
  /-- `resumable` found the session. -/
  | located
  /-- `replay_after` answered with the missed frames. -/
  | replayed (missed : List DispatchFrame)
  /-- The new outbox is attached; `rest` is still to be sent. -/
  | sending (rest : List DispatchFrame) (missed : Nat)
  | resumed
  /-- The gap is wider than the buffer. -/
  | refused
deriving DecidableEq

structure State where
  tracked : TrackedSession
  phase : Phase
  written : List Delivery

inductive Move where
  /-- A publisher's `Session::dispatch`. -/
  | publish (event : DispatchEvent)
  /-- The next step of the resume. -/
  | advance
deriving DecidableEq

/-- One dispatch on the session, with what it writes. -/
def dispatch (event : DispatchEvent) (w : State) : State :=
  { w with
    tracked := w.tracked.dispatch event
    written := w.written ++ w.tracked.session.dispatchSends event }

variable (outbox : Outbox) (lastSeq : Nat)

/-- `Connection::resume` from the point where the hub has found the session. -/
def advance (w : State) : State :=
  match w.phase with
  | .located =>
      match w.tracked.session.replayAfter lastSeq with
      | none =>
          { w with
            phase := .refused
            written := w.written ++ [⟨outbox, .invalidSession false⟩] }
      | some missed => { w with phase := .replayed missed }
  | .replayed missed =>
      { w with
        tracked := w.tracked.reconnect outbox
        phase := .sending missed missed.length }
  | .sending (frame :: rest) missed =>
      { w with
        phase := .sending rest missed
        written := w.written ++ w.tracked.session.sendText (.dispatch frame) }
  | .sending [] missed =>
      -- the count is cast to `u32`
      { dispatch (.resumed ⟨missed.toUInt32⟩) w with phase := .resumed }
  | .resumed => w
  | .refused => w

def step (w : State) : Move → State
  | .publish event => dispatch event w
  | .advance => advance outbox lastSeq w

def start (t : TrackedSession) : State where
  tracked := t
  phase := .located
  written := []

/-- The dispatches written to the new outbox. -/
def State.delivered (w : State) : List DispatchFrame :=
  deliveredTo outbox w.written

/-- No dispatch between the snapshot and the attachment, and none while frames
are still to be replayed. -/
def Quiet (w : State) : Move → Prop
  | .advance => True
  | .publish _ =>
      match w.phase with
      | .replayed _ => False
      | .sending (_ :: _) _ => False
      | _ => True

instance (w : State) : ∀ m, Decidable (Quiet w m)
  | .advance => .isTrue trivial
  | .publish _ =>
      match h : w.phase with
      | .replayed _ => .isFalse (by simp [Quiet, h])
      | .sending (_ :: _) _ => .isFalse (by simp [Quiet, h])
      | .sending [] _ => .isTrue (by simp [Quiet, h])
      | .located => .isTrue (by simp [Quiet, h])
      | .resumed => .isTrue (by simp [Quiet, h])
      | .refused => .isTrue (by simp [Quiet, h])

/-- The client got exactly the frames past `last_seq`, up to the session's
current sequence, each once and in increasing order. -/
def Complete (w : State) : Prop :=
  w.delivered outbox = w.tracked.history.drop lastSeq ∧
    (w.delivered outbox).map DispatchFrame.s =
      List.range' (lastSeq + 1) (w.tracked.session.seq - lastSeq)

section Writes

variable {outbox}

/-- A dispatch is delivered when the new outbox is attached. -/
theorem delivered_dispatch_attached {w : State} {event : DispatchEvent}
    (hout : w.tracked.session.outbox = some outbox) :
    (dispatch event w).delivered outbox =
      w.delivered outbox ++ [w.tracked.session.nextFrame event] := by
  simp [State.delivered, dispatch, Session.dispatchSends, Session.deliveredTo_sendFrame, hout]

/-- A dispatch goes elsewhere while the new outbox is not attached. -/
theorem delivered_dispatch_detached {w : State} {event : DispatchEvent}
    (hout : w.tracked.session.outbox ≠ some outbox) :
    (dispatch event w).delivered outbox = w.delivered outbox := by
  simp [State.delivered, dispatch, Session.dispatchSends, Session.deliveredTo_sendFrame, hout]

end Writes

/-! ## The invariant of all runs -/

/-- What every interleaving keeps: where the session is attached, and that the
frames still to be replayed are frames of the past. -/
def Inv (w : State) : Prop :=
  match w.phase with
  | .located => w.tracked.session.outbox ≠ some outbox ∧ w.delivered outbox = []
  | .replayed missed =>
      w.tracked.session.outbox ≠ some outbox ∧ w.delivered outbox = [] ∧
        lastSeq ≤ w.tracked.history.length ∧
        ∀ f ∈ missed, f.s ≤ w.tracked.history.length
  | .sending rest _ =>
      w.tracked.session.outbox = some outbox ∧
        lastSeq ≤ w.tracked.history.length ∧
        ∀ f ∈ rest, f.s ≤ w.tracked.history.length
  | .resumed =>
      w.tracked.session.outbox = some outbox ∧ lastSeq ≤ w.tracked.history.length
  | .refused => True

/-- What is delivered, with what is still to be sent, is the history past
`last_seq`. -/
def Good (w : State) : Prop :=
  match w.phase with
  | .located => True
  | .replayed missed => missed = w.tracked.history.drop lastSeq
  | .sending rest _ => w.delivered outbox ++ rest = w.tracked.history.drop lastSeq
  | .resumed => w.delivered outbox = w.tracked.history.drop lastSeq
  | .refused => True

section Steps

variable {outbox lastSeq} {w : State}

@[simp]
theorem dispatch_phase (event : DispatchEvent) (w : State) :
    (dispatch event w).phase = w.phase := rfl

@[simp]
theorem dispatch_outbox (event : DispatchEvent) (w : State) :
    (dispatch event w).tracked.session.outbox = w.tracked.session.outbox :=
  Session.dispatch_outbox _ event

@[simp]
theorem dispatch_history (event : DispatchEvent) (w : State) :
    (dispatch event w).tracked.history =
      w.tracked.history ++ [w.tracked.session.nextFrame event] := rfl

/-- The frame a dispatch builds is numbered past everything in the history. -/
theorem nextFrame_s (event : DispatchEvent) (w : State) :
    (w.tracked.session.nextFrame event).s = w.tracked.history.length + 1 := by
  rw [← w.tracked.tracks.seq_eq]
  rfl

theorem inv_dispatch (event : DispatchEvent) (hinv : Inv outbox lastSeq w) :
    Inv outbox lastSeq (dispatch event w) := by
  unfold Inv at hinv ⊢
  rw [dispatch_phase, dispatch_outbox, dispatch_history, List.length_append]
  cases hphase : w.phase with
  | located =>
      rw [hphase] at hinv
      obtain ⟨hout, hdel⟩ := hinv
      exact ⟨hout, by rw [delivered_dispatch_detached hout, hdel]⟩
  | replayed missed =>
      rw [hphase] at hinv
      obtain ⟨hout, hdel, hle, hpast⟩ := hinv
      refine ⟨hout, by rw [delivered_dispatch_detached hout, hdel], by omega, ?_⟩
      exact fun f hf => Nat.le_add_right_of_le (hpast f hf)
  | sending rest missed =>
      rw [hphase] at hinv
      obtain ⟨hout, hle, hpast⟩ := hinv
      exact ⟨hout, by omega, fun f hf => Nat.le_add_right_of_le (hpast f hf)⟩
  | resumed =>
      rw [hphase] at hinv
      obtain ⟨hout, hle⟩ := hinv
      exact ⟨hout, by omega⟩
  | refused => trivial

theorem inv_advance (hinv : Inv outbox lastSeq w) :
    Inv outbox lastSeq (advance outbox lastSeq w) := by
  unfold advance
  cases hphase : w.phase with
  | located =>
      simp only [Inv, hphase] at hinv
      dsimp only
      cases hmissed : w.tracked.session.replayAfter lastSeq with
      | none => trivial
      | some missed =>
          -- the snapshot is a suffix of the history, so its frames are past ones
          obtain ⟨hle, rfl⟩ := w.tracked.tracks.replayAfter_eq_some hmissed
          refine ⟨hinv.1, hinv.2, hle, fun f hf => ?_⟩
          have hpast := w.tracked.tracks.numbered.num_le (List.mem_of_mem_drop hf)
          rwa [Nat.zero_add] at hpast
  | replayed missed =>
      simp only [Inv, hphase] at hinv
      exact ⟨rfl, hinv.2.2.1, hinv.2.2.2⟩
  | sending rest missed =>
      simp only [Inv, hphase] at hinv
      obtain ⟨hout, hle, hpast⟩ := hinv
      cases rest with
      | nil =>
          refine ⟨by simp [hout], ?_⟩
          simp only [dispatch_history, List.length_append]
          omega
      | cons frame rest =>
          exact ⟨hout, hle, fun f hf => hpast f (List.mem_cons_of_mem frame hf)⟩
  | resumed => simpa [Inv, hphase] using hinv
  | refused => simp [Inv, hphase]

theorem inv_step (w : State) (m : Move) (hinv : Inv outbox lastSeq w) :
    Inv outbox lastSeq (step outbox lastSeq w m) := by
  cases m with
  | publish event => exact inv_dispatch event hinv
  | advance => exact inv_advance hinv

/-! ## Which steps keep the delivery complete -/

/-- A list that ends with the newest frame contains it. -/
private theorem mem_of_append_eq_snoc {l m rest : List DispatchFrame} {g : DispatchFrame}
    (hrest : rest ≠ []) (h : l ++ rest = m ++ [g]) : g ∈ rest := by
  have hlast : (l ++ rest).getLast? = some g := by rw [h, List.getLast?_concat]
  rw [List.getLast?_append_of_ne_nil l hrest] at hlast
  exact List.mem_of_getLast? hlast

/-- A dispatch keeps the delivery complete exactly when it is quiet. -/
theorem good_dispatch_iff (event : DispatchEvent) (hinv : Inv outbox lastSeq w) :
    Good outbox lastSeq (dispatch event w) ↔
      Good outbox lastSeq w ∧ Quiet w (.publish event) := by
  have hnew := nextFrame_s event w
  unfold Good Quiet
  rw [dispatch_phase, dispatch_history]
  cases hphase : w.phase with
  | located => simp
  | replayed missed =>
      simp only [Inv, hphase] at hinv
      obtain ⟨hout, hdel, hle, hpast⟩ := hinv
      -- the new frame is not in the snapshot
      simp only [and_false, iff_false]
      intro h
      rw [List.drop_append_of_le_length hle] at h
      have hmem : w.tracked.session.nextFrame event ∈ missed := by
        rw [h]
        simp
      have := hpast _ hmem
      omega
  | sending rest missed =>
      simp only [Inv, hphase] at hinv
      obtain ⟨hout, hle, hpast⟩ := hinv
      rw [delivered_dispatch_attached hout, List.drop_append_of_le_length hle]
      cases rest with
      | nil => simp
      | cons frame rest =>
          -- the new frame is ahead of frames that are still to be sent
          simp only [and_false, iff_false]
          intro h
          have := hpast _ (mem_of_append_eq_snoc (List.cons_ne_nil frame rest) h)
          omega
  | resumed =>
      simp only [Inv, hphase] at hinv
      obtain ⟨hout, hle⟩ := hinv
      rw [delivered_dispatch_attached hout, List.drop_append_of_le_length hle]
      simp
  | refused => simp

/-- The steps of the resume itself neither lose nor repeat anything. -/
theorem good_advance_iff (hinv : Inv outbox lastSeq w) :
    Good outbox lastSeq (advance outbox lastSeq w) ↔ Good outbox lastSeq w := by
  unfold advance
  cases hphase : w.phase with
  | located =>
      dsimp only
      cases hmissed : w.tracked.session.replayAfter lastSeq with
      | none => simp [Good, hphase]
      | some missed =>
          obtain ⟨-, rfl⟩ := w.tracked.tracks.replayAfter_eq_some hmissed
          simp [Good, hphase]
  | replayed missed =>
      -- nothing reached the new outbox before it was attached
      simp only [Inv, hphase] at hinv
      have hdel : State.delivered outbox
          { w with
            tracked := w.tracked.reconnect outbox
            phase := .sending missed missed.length } = [] := hinv.2.1
      simp only [Good, hphase, hdel, List.nil_append]
      rfl
  | sending rest missed =>
      simp only [Inv, hphase] at hinv
      obtain ⟨hout, hle, -⟩ := hinv
      cases rest with
      | nil =>
          -- `RESUMED` is a dispatch like any other, and takes a sequence
          have hdel : (dispatch (.resumed ⟨missed.toUInt32⟩) w).delivered outbox =
              w.delivered outbox ++
                [w.tracked.session.nextFrame (.resumed ⟨missed.toUInt32⟩)] :=
            delivered_dispatch_attached hout
          show State.delivered outbox (dispatch _ w) = _ ↔ _
          simp only [Good, hphase, List.append_nil]
          rw [hdel, dispatch_history, List.drop_append_of_le_length hle]
          simp
      | cons frame rest =>
          have hdel :
              deliveredTo outbox (w.tracked.session.sendText (.dispatch frame)) = [frame] := by
            rw [← Session.sendFrame, Session.deliveredTo_sendFrame, if_pos hout]
          simp only [Good, hphase, State.delivered, deliveredTo_append, hdel, List.append_assoc,
            List.singleton_append]
  | resumed => simp [Good, hphase]
  | refused => simp [Good, hphase]

theorem good_step_iff (w : State) (m : Move) (hinv : Inv outbox lastSeq w) :
    Good outbox lastSeq (step outbox lastSeq w m) ↔ Good outbox lastSeq w ∧ Quiet w m := by
  cases m with
  | publish event => exact good_dispatch_iff event hinv
  | advance => exact (good_advance_iff hinv).trans (and_iff_left trivial).symm

end Steps

/-! ## Whole runs -/

/-- At the end of a resume the delivery is complete when it is good: the history
past `last_seq` is numbered from `last_seq + 1`. -/
theorem complete_iff_good {w : State} (hinv : Inv outbox lastSeq w)
    (hdone : w.phase = .resumed) :
    Complete outbox lastSeq w ↔ Good outbox lastSeq w := by
  simp only [Inv, hdone] at hinv
  simp only [Good, hdone]
  constructor
  · exact fun h => h.1
  · intro h
    have hnum := w.tracked.tracks.numbered.drop hinv.2
    rw [Nat.zero_add] at hnum
    refine ⟨h, ?_⟩
    rw [h, hnum.map_eq_range', List.length_drop, w.tracked.tracks.seq_eq]

/-- A resume that ran to its end delivered exactly the frames past `last_seq`
if and only if every dispatch of the run was quiet. -/
theorem resume_complete_iff_quiet (t : TrackedSession) (outbox : Outbox) (lastSeq : Nat)
    (moves : List Move) (hfresh : t.session.outbox ≠ some outbox)
    (hdone : (run (step outbox lastSeq) (start t) moves).phase = .resumed) :
    Complete outbox lastSeq (run (step outbox lastSeq) (start t) moves) ↔
      EachStep (step outbox lastSeq) Quiet (start t) moves := by
  have hstart : Inv outbox lastSeq (start t) := ⟨hfresh, rfl⟩
  have hend := run_invariant inv_step hstart moves
  rw [complete_iff_good outbox lastSeq hend hdone,
    run_iff_eachStep inv_step good_step_iff hstart]
  exact and_iff_right trivial

/-- A session whose first owner's socket dropped after two dispatches. -/
private def droppedSession : TrackedSession :=
  (((TrackedSession.new 7 3 1 500).dispatch (.roomLeave ⟨5, .left⟩)).dispatch
    (.roomLeave ⟨6, .left⟩)).disconnect 40

/-- Dispatches before the snapshot and after the replay are delivered once, in
their places. -/
theorem resume_complete_quiet_run :
    Complete 2 1 (run (step 2 1) (start droppedSession)
      [.publish (.roomLeave ⟨8, .left⟩), .advance, .advance, .advance, .advance,
        .publish (.roomLeave ⟨9, .left⟩), .advance]) :=
  (resume_complete_iff_quiet droppedSession 2 1 _ (by decide) (by decide)).mpr (by decide)

/-- A dispatch between `replay_after` and `reconnect` is never written to the new
outbox: the client sees 2, then 4. -/
theorem resume_loses_dispatch :
    ¬ ∀ (t : TrackedSession) (outbox : Outbox) (lastSeq : Nat) (moves : List Move),
      t.session.outbox ≠ some outbox →
      (run (step outbox lastSeq) (start t) moves).phase = .resumed →
      Complete outbox lastSeq (run (step outbox lastSeq) (start t) moves) := by
  intro h
  have hrun := h droppedSession 2 1
    [.advance, .publish (.roomLeave ⟨8, .left⟩), .advance, .advance, .advance]
    (by decide) (by decide)
  exact absurd hrun.2 (by decide)

end Resume
end Gateway
end Ldktela
