import Ldktela.Lib.Numbered
import Ldktela.Protocol

/-!
# One gateway session

`crates/api/src/gateway/session.rs`: the sequence counter, the resume buffer and
the outbox of whichever connection owns the session.

A session writes to a channel it holds a handle of, so the operations that send
return what they write, as a list of `Delivery`.  `Session.dispatch` is one step
here: its callers are interleaved around it, not through it.

The second half relates a session to the list of all frames it ever dispatched.
`Session.Tracks` is the invariant behind the gap test of `replay_after`: the
buffer is the history without its first `evictedThrough` entries.
`TrackedSession` is a session together with a history it tracks.
-/

namespace Ldktela
namespace Gateway

open Protocol

/-- The sending half of one connection's channel, by connection. -/
abbrev Outbox := Nat

/-- One frame written to one connection's channel. -/
structure Delivery where
  outbox : Outbox
  frame : OutFrame
deriving DecidableEq

structure Session where
  id : Uuid
  userId : Uuid
  /-- Monotonic per session, starting at 1. -/
  seq : Nat
  /-- The last `bufferCapacity` dispatches, oldest first. -/
  buffer : List DispatchFrame
  bufferCapacity : Nat
  /-- Highest sequence dropped from the buffer because it overflowed. -/
  evictedThrough : Nat
  /-- `none` while the session is disconnected but still resumable. -/
  outbox : Option Outbox
  connected : Bool
  disconnectedAt : Option Timestamp
deriving DecidableEq

namespace Session

def new (id userId : Uuid) (outbox : Outbox) (bufferCapacity : Nat) : Session where
  id := id
  userId := userId
  seq := 0
  buffer := []
  bufferCapacity := bufferCapacity
  evictedThrough := 0
  outbox := some outbox
  connected := true
  disconnectedAt := none

def isConnected (s : Session) : Bool := s.connected

/-- Marks the socket gone.  The session stays resumable until the TTL sweep. -/
def disconnect (now : Timestamp) (s : Session) : Session :=
  { s with connected := false, outbox := none, disconnectedAt := some now }

/-- Attaches a new socket to an existing session (`RESUME`). -/
def reconnect (outbox : Outbox) (s : Session) : Session :=
  { s with outbox := some outbox, disconnectedAt := none, connected := true }

def lastSeq (s : Session) : Nat := s.seq

/-- What a send writes: the frame, if a socket is attached. -/
def sendText (s : Session) (frame : OutFrame) : List Delivery :=
  match s.outbox with
  | some tx => [⟨tx, frame⟩]
  | none => []

def sendFrame (s : Session) (frame : DispatchFrame) : List Delivery :=
  s.sendText (.dispatch frame)

/-- The resume buffer after one more frame: a full buffer first drops its oldest
entry and records the sequence it dropped. -/
def pushBuffer (frame : DispatchFrame) (s : Session) : Session :=
  if s.buffer.length = s.bufferCapacity then
    match s.buffer with
    | dropped :: rest =>
        { s with evictedThrough := dropped.s, buffer := rest ++ [frame] }
    | [] => { s with buffer := [frame] }
  else
    { s with buffer := s.buffer ++ [frame] }

/-- The frame the next dispatch of `event` builds. -/
def nextFrame (s : Session) (event : DispatchEvent) : DispatchFrame :=
  DispatchFrame.new (s.seq + 1) event

/-- The session after a dispatch.  The sequence advances even while
disconnected, which is what makes a gap detectable on resume. -/
def dispatch (event : DispatchEvent) (s : Session) : Session :=
  pushBuffer (s.nextFrame event) { s with seq := s.seq + 1 }

/-- What a dispatch writes to the attached socket. -/
def dispatchSends (s : Session) (event : DispatchEvent) : List Delivery :=
  s.sendFrame (s.nextFrame event)

/-- Frames after `lastSeq`, in order, or `none` when the gap is wider than the
buffer. -/
def replayAfter (s : Session) (lastSeq : Nat) : Option (List DispatchFrame) :=
  if s.seq < lastSeq then
    -- the client claims to have seen more than was ever sent
    none
  else if lastSeq < s.evictedThrough then
    none
  else
    some (s.buffer.filter fun f => lastSeq < f.s)

/-! ## What reaches an outbox -/

end Session

/-- The dispatches among `written` that went to one outbox. -/
def deliveredTo (outbox : Outbox) (written : List Delivery) : List DispatchFrame :=
  written.filterMap fun d => if d.outbox = outbox then d.frame.dispatch? else none

@[simp]
theorem deliveredTo_append (outbox : Outbox) (l m : List Delivery) :
    deliveredTo outbox (l ++ m) = deliveredTo outbox l ++ deliveredTo outbox m :=
  List.filterMap_append

namespace Session

theorem deliveredTo_sendFrame (s : Session) (outbox : Outbox) (frame : DispatchFrame) :
    deliveredTo outbox (s.sendFrame frame) =
      if s.outbox = some outbox then [frame] else [] := by
  unfold sendFrame sendText
  cases hout : s.outbox with
  | none => simp [deliveredTo]
  | some tx =>
      by_cases htx : tx = outbox
      · simp [deliveredTo, htx, OutFrame.dispatch?]
      · simp [deliveredTo, htx]

/-! ## What the operations leave alone -/

@[simp] theorem disconnect_id (s : Session) (now : Timestamp) :
    (s.disconnect now).id = s.id := rfl

@[simp] theorem disconnect_userId (s : Session) (now : Timestamp) :
    (s.disconnect now).userId = s.userId := rfl

@[simp] theorem reconnect_id (s : Session) (o : Outbox) : (s.reconnect o).id = s.id := rfl

@[simp] theorem reconnect_userId (s : Session) (o : Outbox) :
    (s.reconnect o).userId = s.userId := rfl

@[simp] theorem reconnect_outbox (s : Session) (o : Outbox) :
    (s.reconnect o).outbox = some o := rfl

/-- A push touches the buffer and the eviction mark only. -/
theorem pushBuffer_frame (s : Session) (frame : DispatchFrame) :
    ∃ buffer evictedThrough, s.pushBuffer frame =
      { s with buffer := buffer, evictedThrough := evictedThrough } := by
  unfold pushBuffer
  split
  · split
    · exact ⟨_, _, rfl⟩
    · exact ⟨_, _, rfl⟩
  · exact ⟨_, _, rfl⟩

/-- A push does not look at the sequence. -/
theorem pushBuffer_withSeq (s : Session) (frame : DispatchFrame) (seq : Nat) :
    pushBuffer frame { s with seq := seq } = { s.pushBuffer frame with seq := seq } := by
  obtain ⟨id, userId, seq', buffer, capacity, evictedThrough, outbox, connected, at'⟩ := s
  unfold pushBuffer
  dsimp only
  split
  · cases buffer with
    | nil => rfl
    | cons first rest => rfl
  · rfl

/-- A dispatch touches the sequence, the buffer and the eviction mark only. -/
theorem dispatch_frame (s : Session) (event : DispatchEvent) :
    ∃ buffer evictedThrough, s.dispatch event =
      { s with seq := s.seq + 1, buffer := buffer, evictedThrough := evictedThrough } :=
  pushBuffer_frame { s with seq := s.seq + 1 } (s.nextFrame event)

@[simp] theorem dispatch_id (s : Session) (event : DispatchEvent) :
    (s.dispatch event).id = s.id := by
  obtain ⟨b, e, h⟩ := s.dispatch_frame event
  rw [h]

@[simp] theorem dispatch_userId (s : Session) (event : DispatchEvent) :
    (s.dispatch event).userId = s.userId := by
  obtain ⟨b, e, h⟩ := s.dispatch_frame event
  rw [h]

@[simp] theorem dispatch_seq (s : Session) (event : DispatchEvent) :
    (s.dispatch event).seq = s.seq + 1 := by
  obtain ⟨b, e, h⟩ := s.dispatch_frame event
  rw [h]

@[simp] theorem dispatch_outbox (s : Session) (event : DispatchEvent) :
    (s.dispatch event).outbox = s.outbox := by
  obtain ⟨b, e, h⟩ := s.dispatch_frame event
  rw [h]

@[simp] theorem dispatch_connected (s : Session) (event : DispatchEvent) :
    (s.dispatch event).connected = s.connected := by
  obtain ⟨b, e, h⟩ := s.dispatch_frame event
  rw [h]

/-! ## The session and the history of its dispatches -/

/-- `history` is everything the session ever dispatched: it is numbered from 1 to
the current sequence, and the buffer is what is left of it past the evicted
prefix. -/
structure Tracks (s : Session) (history : List DispatchFrame) : Prop where
  seq_eq : s.seq = history.length
  numbered : Numbered DispatchFrame.s 0 history
  evicted_le : s.evictedThrough ≤ history.length
  buffer_eq : s.buffer = history.drop s.evictedThrough

theorem tracks_new (id userId : Uuid) (outbox : Outbox) (bufferCapacity : Nat) :
    (new id userId outbox bufferCapacity).Tracks [] where
  seq_eq := rfl
  numbered := trivial
  evicted_le := Nat.le_refl 0
  buffer_eq := rfl

namespace Tracks

variable {s : Session} {history : List DispatchFrame}

theorem disconnect (h : s.Tracks history) (now : Timestamp) :
    (s.disconnect now).Tracks history := ⟨h.1, h.2, h.3, h.4⟩

theorem reconnect (h : s.Tracks history) (outbox : Outbox) :
    (s.reconnect outbox).Tracks history := ⟨h.1, h.2, h.3, h.4⟩

/-- The oldest buffered frame is the first one that was not evicted. -/
theorem evict_head (h : s.Tracks history) {dropped : DispatchFrame}
    {rest : List DispatchFrame} (hbuf : s.buffer = dropped :: rest) :
    dropped.s = s.evictedThrough + 1 ∧
      s.evictedThrough + 1 ≤ history.length ∧
      rest = history.drop (s.evictedThrough + 1) := by
  have hdrop : history.drop s.evictedThrough = dropped :: rest := by
    rw [← h.buffer_eq, hbuf]
  have hnum := h.numbered.drop h.evicted_le
  rw [hdrop, Nat.zero_add] at hnum
  have hlen : history.length - s.evictedThrough = rest.length + 1 := by
    rw [← List.length_drop, hdrop, List.length_cons]
  refine ⟨hnum.1, by omega, ?_⟩
  rw [← List.tail_drop, hdrop, List.tail_cons]

/-- Pushing the next frame appends it to the history. -/
theorem push (h : s.Tracks history) {frame : DispatchFrame}
    (hframe : frame.s = history.length + 1) :
    Tracks { s.pushBuffer frame with seq := history.length + 1 } (history ++ [frame]) := by
  have hle := h.evicted_le
  have hnum : Numbered DispatchFrame.s 0 (history ++ [frame]) :=
    h.numbered.snoc (by rw [hframe, Nat.zero_add])
  unfold pushBuffer
  split
  · split
    · next dropped rest hbuf =>
        -- the oldest frame leaves: the mark moves on by one
        obtain ⟨hs, hlt, hrest⟩ := h.evict_head hbuf
        refine ⟨by simp, hnum, by simp [hs]; omega, ?_⟩
        dsimp only
        rw [hs, hrest, List.drop_append_of_le_length hlt]
    · next hbuf =>
        -- a buffer of capacity 0 has nothing to drop and grows past it
        refine ⟨by simp, hnum, by simp; omega, ?_⟩
        dsimp only
        rw [List.drop_append_of_le_length hle, ← h.buffer_eq, hbuf]
        rfl
  · refine ⟨by simp, hnum, by simp; omega, ?_⟩
    dsimp only
    rw [List.drop_append_of_le_length hle, ← h.buffer_eq]

/-- A dispatch appends its frame to the history. -/
theorem dispatch (h : s.Tracks history) (event : DispatchEvent) :
    (s.dispatch event).Tracks (history ++ [s.nextFrame event]) := by
  rw [Session.dispatch, pushBuffer_withSeq, h.seq_eq]
  exact h.push (by rw [nextFrame, h.seq_eq]; rfl)

/-- What `replay_after` answers is the history past `last_seq`, whole. -/
theorem replayAfter_eq_some (h : s.Tracks history) {lastSeq : Nat}
    {missed : List DispatchFrame} (hmissed : s.replayAfter lastSeq = some missed) :
    lastSeq ≤ history.length ∧ missed = history.drop lastSeq := by
  unfold replayAfter at hmissed
  split at hmissed
  · cases hmissed
  · split at hmissed
    · cases hmissed
    · next hle hev =>
        have hseq := h.seq_eq
        have hnum := h.numbered.drop h.evicted_le
        rw [Nat.zero_add] at hnum
        refine ⟨by omega, ?_⟩
        rw [← Option.some.inj hmissed, h.buffer_eq, hnum.filter_gt (by omega),
          List.drop_drop]
        congr 1
        omega

/-- A resume point is refused exactly when it lies in the future or before the
evicted prefix ends. -/
theorem replayAfter_eq_none_iff (h : s.Tracks history) (lastSeq : Nat) :
    s.replayAfter lastSeq = none ↔ history.length < lastSeq ∨ lastSeq < s.evictedThrough := by
  have hseq := h.seq_eq
  unfold replayAfter
  split
  · simp; omega
  · split
    · simp; omega
    · simp; omega

end Tracks

end Session

/-- A session together with everything it ever dispatched. -/
structure TrackedSession where
  session : Session
  history : List DispatchFrame
  tracks : session.Tracks history

namespace TrackedSession

def new (id userId : Uuid) (outbox : Outbox) (bufferCapacity : Nat) : TrackedSession where
  session := Session.new id userId outbox bufferCapacity
  history := []
  tracks := Session.tracks_new id userId outbox bufferCapacity

def dispatch (event : DispatchEvent) (t : TrackedSession) : TrackedSession where
  session := t.session.dispatch event
  history := t.history ++ [t.session.nextFrame event]
  tracks := t.tracks.dispatch event

def disconnect (now : Timestamp) (t : TrackedSession) : TrackedSession where
  session := t.session.disconnect now
  history := t.history
  tracks := t.tracks.disconnect now

def reconnect (outbox : Outbox) (t : TrackedSession) : TrackedSession where
  session := t.session.reconnect outbox
  history := t.history
  tracks := t.tracks.reconnect outbox

end TrackedSession

end Gateway
end Ldktela
