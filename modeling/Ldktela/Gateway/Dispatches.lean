import Ldktela.Gateway.Session
import Ldktela.Lib.Keyed
import Ldktela.Lib.Runs

/-!
# Several dispatches at once

`crates/api/src/gateway/session.rs`: `Session::dispatch`, in the three steps that no
lock holds together.  A call takes its sequence (`fetch_add`), stores its frame under
the lock of the buffer, and sends it under the lock of the outbox.
`crates/api/src/gateway/hub.rs`: publishers hold the read lock of the registry only, so
any number of them may be in the middle of a call on one session.

Nothing makes a call wait for one with an earlier sequence.  `ordered_of_inOrder` says
that the buffer, the eviction mark and the outbox are in order along every run in which
no call overtakes another; `unsorted_of_overtaking` that a frame stored ahead of its
turn leaves the buffer out of order.
-/

namespace Ldktela
namespace Gateway
namespace Dispatches

open Protocol

/-- A call of `dispatch` that has taken its sequence. -/
structure Call where
  frame : DispatchFrame
  /-- The frame is in the buffer, and is still to be sent. -/
  stored : Bool

/-- The session, the calls under way, and what has happened: every frame that was
numbered, every frame that was evicted, and everything that was sent. -/
structure State where
  session : Session
  /-- By publisher. -/
  running : Table Nat Call
  issued : List DispatchFrame
  evicted : List DispatchFrame
  written : List Delivery

inductive Act where
  /-- A publisher calls `dispatch`. -/
  | call (publisher : Nat) (event : DispatchEvent)
  /-- The next step of the call of a publisher. -/
  | advance (publisher : Nat)

/-- What a push drops from the buffer. -/
def dropped (s : Session) : List DispatchFrame :=
  if s.buffer.length = s.bufferCapacity then s.buffer.take 1 else []

namespace State

/-- The `fetch_add`. -/
def number (publisher : Nat) (event : DispatchEvent) (w : State) : State :=
  { w with
    session := { w.session with seq := w.session.seq + 1 }
    running := w.running.insert publisher ⟨w.session.nextFrame event, false⟩
    issued := w.issued ++ [w.session.nextFrame event] }

/-- Under the lock of the buffer. -/
def store (publisher : Nat) (frame : DispatchFrame) (w : State) : State :=
  { w with
    session := w.session.pushBuffer frame
    running := w.running.insert publisher ⟨frame, true⟩
    evicted := w.evicted ++ dropped w.session }

/-- Under the lock of the outbox. -/
def send (publisher : Nat) (frame : DispatchFrame) (w : State) : State :=
  { w with
    running := w.running.erase publisher
    written := w.written ++ w.session.sendFrame frame }

/-- A publisher makes one call at a time. -/
def step (w : State) : Act → State
  | .call publisher event =>
      if publisher ∈ w.running then w else w.number publisher event
  | .advance publisher =>
      match w.running.lookup publisher with
      | none => w
      | some ⟨frame, false⟩ => w.store publisher frame
      | some ⟨frame, true⟩ => w.send publisher frame

/-- A session on which nobody is calling `dispatch`. -/
def start (t : TrackedSession) : State where
  session := t.session
  running := ∅
  issued := t.history
  evicted := t.history.take t.session.evictedThrough
  written := []

/-! ## The property -/

/-- The frames of a list are in increasing order of their sequences. -/
def Increasing (frames : List DispatchFrame) : Prop :=
  (frames.map DispatchFrame.s).Pairwise (· < ·)

instance (frames : List DispatchFrame) : Decidable (Increasing frames) :=
  inferInstanceAs (Decidable (List.Pairwise _ _))

structure Ordered (w : State) : Prop where
  unique : (w.issued.map DispatchFrame.s).Nodup
  sent : ∀ outbox, Increasing (deliveredTo outbox w.written)
  buffer : Increasing w.session.buffer
  /-- What `replay_after` lists when no call is under way. -/
  lists : w.running = ∅ → ∀ lastSeq ≤ w.session.seq, (∀ f ∈ w.evicted, f.s ≤ lastSeq) →
    ∃ missed, w.session.replayAfter lastSeq = some missed ∧ Increasing missed ∧
      ∀ f, f ∈ missed ↔ f ∈ w.session.buffer ∧ lastSeq < f.s
  /-- What it refuses. -/
  refuses : w.running = ∅ → ∀ lastSeq, (∃ f ∈ w.evicted, lastSeq < f.s) →
    w.session.replayAfter lastSeq = none

/-- The mark of what was evicted does not go back. -/
def KeepsMark (w : State) (a : Act) : Prop :=
  w.session.evictedThrough ≤ (w.step a).session.evictedThrough

/-- No call stores its frame ahead of one with an earlier sequence, and on an attached
session none sends it ahead of one. -/
def InOrder (w : State) : Act → Prop
  | .call _ _ => True
  | .advance publisher =>
      match w.running.lookup publisher with
      | none => True
      | some ⟨frame, false⟩ => ∀ other ∈ w.running.vals, other.stored = false →
          frame.s ≤ other.frame.s
      | some ⟨frame, true⟩ => w.session.outbox ≠ none → ∀ other ∈ w.running.vals,
          frame.s ≤ other.frame.s

instance (w : State) : ∀ a, Decidable (w.InOrder a)
  | .call _ _ => .isTrue trivial
  | .advance publisher =>
      match h : w.running.lookup publisher with
      | none => .isTrue (by simp [InOrder, h])
      | some ⟨frame, false⟩ =>
          decidable_of_iff (∀ other ∈ w.running.vals, other.stored = false →
            frame.s ≤ other.frame.s) (by simp [InOrder, h])
      | some ⟨frame, true⟩ =>
          decidable_of_iff (w.session.outbox ≠ none → ∀ other ∈ w.running.vals,
            frame.s ≤ other.frame.s) (by simp [InOrder, h])

/-! ## The frames in order -/

/-- Along a run without overtaking the frames are in two stretches, what is stored and
what is to be stored, and what was sent and what is to be sent ends the first one. -/
structure Inv (stored unsent pending : List DispatchFrame) (w : State) : Prop where
  issued : w.issued = stored ++ pending
  numbered : Numbered DispatchFrame.s 0 w.issued
  seq : w.session.seq = w.issued.length
  /-- To `replay_after` the session is one that has dispatched what is stored. -/
  tracks : Session.Tracks { w.session with seq := stored.length } stored
  evicted : w.evicted = stored.take w.session.evictedThrough
  toSend : ∀ f, (∃ p, w.running.lookup p = some ⟨f, true⟩) ↔ f ∈ unsent
  toStore : ∀ f, (∃ p, w.running.lookup p = some ⟨f, false⟩) ↔ f ∈ pending
  /-- Every call has a frame of its own. -/
  apart : ∀ p q x y, w.running.lookup p = some x → w.running.lookup q = some y →
    x.frame = y.frame → p = q
  unsent_stored : ∀ f ∈ unsent, f ∈ stored
  attached : ∀ outbox, w.session.outbox = some outbox →
    deliveredTo outbox w.written ++ unsent <:+ stored
  elsewhere : ∀ outbox, w.session.outbox ≠ some outbox → deliveredTo outbox w.written = []

section Push

variable {s : Session} {history : List DispatchFrame} {frame : DispatchFrame}

/-- The frame that a push drops is the first one that was not evicted before. -/
theorem evicted_push (h : s.Tracks history) (frame : DispatchFrame) :
    s.evictedThrough ≤ (s.pushBuffer frame).evictedThrough ∧
      (history ++ [frame]).take (s.pushBuffer frame).evictedThrough =
        history.take s.evictedThrough ++ dropped s := by
  have hkept : (history ++ [frame]).take s.evictedThrough = history.take s.evictedThrough :=
    List.take_append_of_le_length h.evicted_le
  unfold Session.pushBuffer dropped
  split
  · split
    · next first rest hbuffer =>
        obtain ⟨hs, hlt, -⟩ := h.evict_head hbuffer
        have hfirst : history.drop s.evictedThrough = first :: rest := by
          rw [← h.buffer_eq, hbuffer]
        rw [hs]
        refine ⟨Nat.le_succ _, ?_⟩
        rw [List.take_append_of_le_length hlt, List.take_add, hfirst, hbuffer]
    · next hbuffer =>
        rw [hbuffer]
        exact ⟨Nat.le_refl _, by simpa using hkept⟩
  · exact ⟨Nat.le_refl _, by simpa using hkept⟩

theorem pushBuffer_outbox : (s.pushBuffer frame).outbox = s.outbox := by
  obtain ⟨buffer, evictedThrough, h⟩ := s.pushBuffer_frame frame
  rw [h]

theorem pushBuffer_seq : (s.pushBuffer frame).seq = s.seq := by
  obtain ⟨buffer, evictedThrough, h⟩ := s.pushBuffer_frame frame
  rw [h]

end Push

namespace Inv

variable {stored unsent pending : List DispatchFrame} {w : State} {publisher : Nat}
  {frame : DispatchFrame}

theorem seq_le (h : Inv stored unsent pending w) {x : Call} {p : Nat}
    (hx : w.running.lookup p = some x) : x.frame.s ≤ w.issued.length := by
  have hmem : x.frame ∈ w.issued := by
    obtain ⟨f, isStored⟩ := x
    rw [h.issued]
    cases isStored with
    | true =>
        have hstored := h.unsent_stored f ((h.toSend f).mp ⟨p, hx⟩)
        exact List.mem_append_left pending hstored
    | false =>
        have hpending := (h.toStore f).mp ⟨p, hx⟩
        exact List.mem_append_right stored hpending
  have hle := h.numbered.num_le hmem
  rwa [Nat.zero_add] at hle

theorem number (h : Inv stored unsent pending w) (hfree : w.running.lookup publisher = none)
    (event : DispatchEvent) :
    Inv stored unsent (pending ++ [w.session.nextFrame event]) (w.number publisher event) := by
  have hs : (w.session.nextFrame event).s = w.issued.length + 1 := by
    rw [← h.seq]
    rfl
  have hlookup : ∀ p, (w.number publisher event).running.lookup p =
      if p = publisher then some ⟨w.session.nextFrame event, false⟩ else w.running.lookup p :=
    fun p => AList.lookup_insert_ite w.running publisher p _
  have hother : ∀ p x, w.running.lookup p = some x → p ≠ publisher := by
    rintro p x hx rfl
    rw [hfree] at hx
    cases hx
  refine
    { issued := ?_
      numbered := h.numbered.snoc (by rw [hs, Nat.zero_add])
      seq := ?_
      tracks := h.tracks
      evicted := h.evicted
      toSend := fun f => ?_
      toStore := fun f => ?_
      apart := fun p q x y hx hy hframe => ?_
      unsent_stored := h.unsent_stored
      attached := h.attached
      elsewhere := h.elsewhere }
  · show w.issued ++ _ = _
    rw [h.issued, List.append_assoc]
  · show w.session.seq + 1 = (w.issued ++ _).length
    rw [h.seq, List.length_append]
    rfl
  · rw [← h.toSend f]
    refine exists_congr fun p => ?_
    rw [hlookup]
    split
    · next hp =>
        rw [hp, hfree]
        simp
    · rfl
  · rw [List.mem_append, ← h.toStore f, List.mem_singleton]
    constructor
    · rintro ⟨p, hp⟩
      rw [hlookup] at hp
      split at hp
      · exact .inr (congrArg Call.frame (Option.some.inj hp)).symm
      · exact .inl ⟨p, hp⟩
    · rintro (⟨p, hp⟩ | rfl)
      · exact ⟨p, by rw [hlookup, if_neg (hother p _ hp), hp]⟩
      · exact ⟨publisher, by rw [hlookup, if_pos rfl]⟩
  · -- the new frame has a later sequence than every other one
    rw [hlookup] at hx hy
    split at hx
    · split at hy
      · next hp hq => rw [hp, hq]
      · have hle := h.seq_le hy
        rw [← hframe, ← Option.some.inj hx, hs] at hle
        omega
    · split at hy
      · have hle := h.seq_le hx
        rw [hframe, ← Option.some.inj hy, hs] at hle
        omega
      · exact h.apart p q x y hx hy hframe

/-- The others among the calls at one stage have the other frames. -/
theorem others_iff {isStored : Bool} {frames : List DispatchFrame}
    (hcalls : ∀ f, (∃ p, w.running.lookup p = some ⟨f, isStored⟩) ↔ f ∈ frames)
    (hapart : ∀ p q x y, w.running.lookup p = some x → w.running.lookup q = some y →
      x.frame = y.frame → p = q)
    (hcall : w.running.lookup publisher = some ⟨frame, isStored⟩) (f : DispatchFrame) :
    (∃ p, p ≠ publisher ∧ w.running.lookup p = some ⟨f, isStored⟩) ↔
      f ∈ frames.filter (fun g => g ≠ frame) := by
  rw [List.mem_filter, ← hcalls f, decide_eq_true_iff]
  constructor
  · rintro ⟨p, hne, hp⟩
    refine ⟨⟨p, hp⟩, ?_⟩
    rintro rfl
    exact hne (hapart p publisher _ _ hp hcall rfl)
  · rintro ⟨⟨p, hp⟩, hne⟩
    refine ⟨p, ?_, hp⟩
    rintro rfl
    rw [hcall] at hp
    exact hne (congrArg Call.frame (Option.some.inj hp)).symm

/-- Without its head a numbered list is what is not the head. -/
theorem filter_ne_head {rest : List DispatchFrame} {start : Nat}
    (h : Numbered DispatchFrame.s start (frame :: rest)) :
    (frame :: rest).filter (fun g => g ≠ frame) = rest := by
  rw [List.filter_cons_of_neg (by simp), List.filter_eq_self]
  intro g hg
  have hlater := h.2.lt_num hg
  have hfirst := h.1
  rw [decide_eq_true_iff]
  rintro rfl
  omega

theorem pending_numbered (h : Inv stored unsent pending w) :
    Numbered DispatchFrame.s stored.length pending := by
  have hall := h.numbered
  rw [h.issued] at hall
  have htail := (Numbered.append_iff.mp hall).2
  rwa [Nat.zero_add] at htail

theorem unsent_numbered (h : Inv stored unsent pending w) {outbox : Outbox}
    (hout : w.session.outbox = some outbox) :
    ∃ start, Numbered DispatchFrame.s start unsent := by
  obtain ⟨before, hbefore⟩ := h.attached outbox hout
  have hstored := h.tracks.numbered
  rw [← hbefore, ← List.append_assoc] at hstored
  exact ⟨_, (Numbered.append_iff.mp hstored).2⟩

theorem store {rest : List DispatchFrame} (h : Inv stored unsent (frame :: rest) w)
    (hcall : w.running.lookup publisher = some ⟨frame, false⟩) :
    Inv (stored ++ [frame]) (unsent ++ [frame]) rest (w.store publisher frame) := by
  have hnumbered := h.pending_numbered
  have hlookup : ∀ p, (w.store publisher frame).running.lookup p =
      if p = publisher then some ⟨frame, true⟩ else w.running.lookup p :=
    fun p => AList.lookup_insert_ite w.running publisher p _
  -- the frame is pushed at the end of the buffer, which may drop its first one
  have htracks := h.tracks.push hnumbered.1
  rw [Session.pushBuffer_withSeq] at htracks
  refine
    { issued := ?_
      numbered := h.numbered
      seq := ?_
      tracks := ?_
      evicted := ?_
      toSend := fun f => ?_
      toStore := fun f => ?_
      apart := fun p q x y hx hy hframe => ?_
      unsent_stored := fun f hf => ?_
      attached := fun outbox hout => ?_
      elsewhere := fun outbox hout => ?_ }
  · show w.issued = _
    rw [h.issued, List.append_assoc]
    rfl
  · show (w.session.pushBuffer frame).seq = w.issued.length
    rw [pushBuffer_seq, h.seq]
  · rw [List.length_append, List.length_singleton]
    exact htracks
  · show w.evicted ++ dropped w.session = _
    have hevicted := (evicted_push h.tracks frame).2
    rw [Session.pushBuffer_withSeq] at hevicted
    rw [h.evicted]
    exact hevicted.symm
  · -- the call of `publisher` moves from those that store to those that send
    rw [List.mem_append, ← h.toSend f, List.mem_singleton]
    constructor
    · rintro ⟨p, hp⟩
      rw [hlookup] at hp
      split at hp
      · exact .inr (congrArg Call.frame (Option.some.inj hp)).symm
      · exact .inl ⟨p, hp⟩
    · rintro (⟨p, hp⟩ | rfl)
      · refine ⟨p, ?_⟩
        rw [hlookup, if_neg, hp]
        rintro rfl
        rw [hcall] at hp
        cases hp
      · exact ⟨publisher, by rw [hlookup, if_pos rfl]⟩
  · rw [← filter_ne_head hnumbered, ← others_iff h.toStore h.apart hcall f]
    refine exists_congr fun p => ?_
    rw [hlookup]
    split
    · next hp => simp [hp]
    · next hp => simp [hp]
  · -- two calls with one frame are one call: `publisher` keeps the frame it had
    rw [hlookup] at hx hy
    split at hx
    · next hp =>
        split at hy
        · next hq => rw [hp, hq]
        · rw [← Option.some.inj hx] at hframe
          exact hp.trans (h.apart publisher q _ _ hcall hy hframe)
    · split at hy
      · next hq =>
          rw [← Option.some.inj hy] at hframe
          exact (h.apart p publisher _ _ hx hcall hframe).trans hq.symm
      · exact h.apart p q x y hx hy hframe
  · rw [List.mem_append] at hf ⊢
    exact hf.imp_left (h.unsent_stored f)
  · have hsame : w.session.outbox = some outbox := (pushBuffer_outbox).symm.trans hout
    obtain ⟨before, hbefore⟩ := h.attached outbox hsame
    refine ⟨before, ?_⟩
    show before ++ (deliveredTo outbox w.written ++ (unsent ++ [frame])) = stored ++ [frame]
    rw [← hbefore]
    simp
  · refine h.elsewhere outbox fun hsame => hout ?_
    exact (pushBuffer_outbox).trans hsame

/-- After a send, with the frames that are left to be sent. -/
theorem send (h : Inv stored unsent pending w)
    (hcall : w.running.lookup publisher = some ⟨frame, true⟩)
    (hfirst : w.session.outbox ≠ none → ∃ rest, unsent = frame :: rest) :
    Inv stored (unsent.filter fun g => g ≠ frame) pending (w.send publisher frame) := by
  have hlookup : ∀ p, (w.send publisher frame).running.lookup p =
      if p = publisher then none else w.running.lookup p :=
    fun p => AList.lookup_erase_ite w.running publisher p
  have hwritten : ∀ outbox, deliveredTo outbox (w.send publisher frame).written =
      deliveredTo outbox w.written ++
        if w.session.outbox = some outbox then [frame] else [] := by
    intro outbox
    rw [← Session.deliveredTo_sendFrame, ← deliveredTo_append]
    rfl
  refine
    { issued := h.issued
      numbered := h.numbered
      seq := h.seq
      tracks := h.tracks
      evicted := h.evicted
      toSend := fun f => ?_
      toStore := fun f => ?_
      apart := fun p q x y hx hy hframe => ?_
      unsent_stored := fun f hf => h.unsent_stored f (List.mem_of_mem_filter hf)
      attached := fun outbox hout => ?_
      elsewhere := fun outbox hout => ?_ }
  · -- the call of `publisher` is over, and the others are where they were
    rw [← others_iff h.toSend h.apart hcall f]
    refine exists_congr fun p => ?_
    rw [hlookup]
    split
    · next hp => simp [hp]
    · next hp => simp [hp]
  · rw [← h.toStore f]
    refine exists_congr fun p => ?_
    rw [hlookup]
    split
    · next hp =>
        rw [hp, hcall]
        simp
    · rfl
  · rw [hlookup] at hx hy
    split at hx
    · cases hx
    · split at hy
      · cases hy
      · exact h.apart p q x y hx hy hframe
  · -- to the outbox attached the frame is written, and it was the first one that was unsent
    have hsame : w.session.outbox = some outbox := hout
    obtain ⟨rest, rfl⟩ := hfirst (by simp [hsame])
    obtain ⟨start, hnumbered⟩ := h.unsent_numbered hsame
    rw [filter_ne_head hnumbered, hwritten, if_pos hsame, List.append_assoc]
    exact h.attached outbox hsame
  · have hother : w.session.outbox ≠ some outbox := hout
    rw [hwritten, if_neg hother, List.append_nil]
    exact h.elsewhere outbox hother

theorem evicted_numbered (h : Inv stored unsent pending w) :
    Numbered DispatchFrame.s 0 w.evicted := by
  rw [h.evicted]
  exact h.tracks.numbered.take _

theorem evicted_length (h : Inv stored unsent pending w) :
    w.evicted.length = w.session.evictedThrough := by
  rw [h.evicted]
  exact List.length_take_of_le h.tracks.evicted_le

theorem ordered (h : Inv stored unsent pending w) : Ordered w := by
  have hincreasing := (h.tracks.numbered.drop h.tracks.evicted_le).pairwise_lt
  -- when no call is under way, everything that was numbered is stored
  have hquiet : w.running = ∅ → w.session.Tracks w.issued := by
    intro hnone
    have hpending : pending = [] := by
      rw [List.eq_nil_iff_forall_not_mem]
      intro f hf
      obtain ⟨p, hp⟩ := (h.toStore f).mpr hf
      rw [hnone] at hp
      cases hp
    have hissued : stored = w.issued := by
      rw [h.issued, hpending, List.append_nil]
    have htracks := h.tracks
    rw [hissued, ← h.seq] at htracks
    exact htracks
  refine ⟨h.numbered.nodup_map, fun outbox => ?_, ?_, ?_, ?_⟩
  · by_cases hout : w.session.outbox = some outbox
    · obtain ⟨before, hbefore⟩ := h.attached outbox hout
      have hstored := h.tracks.numbered
      rw [← hbefore, ← List.append_assoc] at hstored
      have hsent := (Numbered.append_iff.mp (Numbered.append_iff.mp hstored).1).2
      exact hsent.pairwise_lt
    · rw [h.elsewhere outbox hout]
      exact List.Pairwise.nil
  · unfold Increasing
    rw [h.tracks.buffer_eq]
    exact hincreasing
  · intro hnone lastSeq hle hkept
    have hlast : w.session.evictedThrough ≤ lastSeq := by
      rcases Nat.eq_zero_or_pos w.session.evictedThrough with hzero | hpos
      · omega
      · obtain ⟨f, hf, hs⟩ := h.evicted_numbered.exists_num hpos (by simp [h.evicted_length])
        exact hs ▸ hkept f hf
    refine ⟨w.session.buffer.filter fun f => lastSeq < f.s, ?_, ?_, fun f => ?_⟩
    · unfold Session.replayAfter
      rw [if_neg (by omega), if_neg (by omega)]
    · refine List.Pairwise.sublist (List.filter_sublist.map DispatchFrame.s) ?_
      rw [h.tracks.buffer_eq]
      exact hincreasing
    · rw [List.mem_filter, decide_eq_true_iff]
  · rintro hnone lastSeq ⟨f, hf, hlt⟩
    rw [(hquiet hnone).replayAfter_eq_none_iff]
    right
    have hle := h.evicted_numbered.num_le hf
    rw [h.evicted_length, Nat.zero_add] at hle
    omega

/-- What a call stores next is the first frame that is to be stored. -/
theorem pending_head (h : Inv stored unsent pending w)
    (hcall : w.running.lookup publisher = some ⟨frame, false⟩)
    (hok : ∀ other ∈ w.running.vals, other.stored = false → frame.s ≤ other.frame.s) :
    ∃ rest, pending = frame :: rest := by
  refine h.pending_numbered.eq_cons_of_le ((h.toStore frame).mp ⟨publisher, hcall⟩) fun g hg => ?_
  obtain ⟨p, hp⟩ := (h.toStore g).mpr hg
  exact hok _ (AList.mem_vals_iff.mpr ⟨p, hp⟩) rfl

/-- On an attached session, what it sends next is the first one that is to be sent. -/
theorem unsent_head (h : Inv stored unsent pending w)
    (hcall : w.running.lookup publisher = some ⟨frame, true⟩)
    (hok : w.session.outbox ≠ none → ∀ other ∈ w.running.vals, frame.s ≤ other.frame.s)
    (hattached : w.session.outbox ≠ none) : ∃ rest, unsent = frame :: rest := by
  obtain ⟨outbox, hout⟩ := Option.ne_none_iff_exists'.mp hattached
  obtain ⟨start, hnumbered⟩ := h.unsent_numbered hout
  refine hnumbered.eq_cons_of_le ((h.toSend frame).mp ⟨publisher, hcall⟩) fun g hg => ?_
  obtain ⟨p, hp⟩ := (h.toSend g).mpr hg
  exact hok hattached _ (AList.mem_vals_iff.mpr ⟨p, hp⟩)

end Inv

/-- The frames are in two stretches, wherever these end. -/
def InStretches (w : State) : Prop :=
  ∃ stored unsent pending, Inv stored unsent pending w

theorem inStretches_start (t : TrackedSession) : InStretches (start t) := by
  refine ⟨t.history, [], [], ?_⟩
  have htracks := t.tracks
  refine
    { issued := (List.append_nil _).symm
      numbered := htracks.numbered
      seq := htracks.seq_eq
      tracks := ?_
      evicted := rfl
      toSend := fun f => ?_
      toStore := fun f => ?_
      apart := fun p q x y hx => ?_
      unsent_stored := fun f hf => ?_
      attached := fun outbox _ => List.nil_suffix
      elsewhere := fun outbox _ => rfl }
  · rw [← htracks.seq_eq]
    exact htracks
  · simp [start]
  · simp [start]
  · cases hx
  · cases hf

/-- What one step does. -/
theorem step_cases (w : State) (a : Act) :
    w.step a = w ∨
      (∃ p event, w.running.lookup p = none ∧ w.step a = w.number p event) ∨
      (∃ p frame, w.running.lookup p = some ⟨frame, false⟩ ∧ w.step a = w.store p frame ∧
        (w.InOrder a → ∀ other ∈ w.running.vals, other.stored = false →
          frame.s ≤ other.frame.s)) ∨
      ∃ p frame, w.running.lookup p = some ⟨frame, true⟩ ∧ w.step a = w.send p frame ∧
        (w.InOrder a → w.session.outbox ≠ none → ∀ other ∈ w.running.vals,
          frame.s ≤ other.frame.s) := by
  cases a with
  | call p event =>
      by_cases hp : p ∈ w.running
      · exact .inl (if_pos hp)
      · exact .inr (.inl ⟨p, event, AList.lookup_eq_none.mpr hp, if_neg hp⟩)
  | advance p =>
      rcases hcall : w.running.lookup p with _ | ⟨frame, _ | _⟩
      · exact .inl (by simp [step, hcall])
      · exact .inr (.inr (.inl ⟨p, frame, hcall, by simp [step, hcall], by simp [InOrder, hcall]⟩))
      · exact .inr (.inr (.inr ⟨p, frame, hcall, by simp [step, hcall], by simp [InOrder, hcall]⟩))

theorem inStretches_step {w : State} (h : InStretches w) {a : Act} (hok : w.InOrder a) :
    InStretches (w.step a) := by
  obtain ⟨stored, unsent, pending, h⟩ := h
  obtain heq | ⟨p, event, hfree, heq⟩ | ⟨p, frame, hcall, heq, horder⟩ |
    ⟨p, frame, hcall, heq, horder⟩ := w.step_cases a
  · rw [heq]
    exact ⟨_, _, _, h⟩
  · rw [heq]
    exact ⟨_, _, _, h.number hfree event⟩
  · rw [heq]
    obtain ⟨rest, rfl⟩ := h.pending_head hcall (horder hok)
    exact ⟨_, _, _, h.store hcall⟩
  · rw [heq]
    exact ⟨_, _, _, h.send hcall (h.unsent_head hcall (horder hok))⟩

/-- No step at all moves the mark back while the frames are in stretches. -/
theorem keepsMark_of_inStretches {w : State} (h : InStretches w) (a : Act) : w.KeepsMark a := by
  obtain ⟨stored, unsent, pending, h⟩ := h
  unfold KeepsMark
  obtain heq | ⟨p, event, -, heq⟩ | ⟨p, frame, -, heq, -⟩ | ⟨p, frame, -, heq, -⟩ := w.step_cases a
  · rw [heq]
  · rw [heq]
    exact Nat.le_refl _
  · rw [heq]
    have hle := (evicted_push h.tracks frame).1
    rw [Session.pushBuffer_withSeq] at hle
    exact hle
  · rw [heq]
    exact Nat.le_refl _

theorem ordered_of_inOrder (t : TrackedSession) (acts : List Act)
    (h : Runs.EachStep step InOrder (start t) acts) :
    Runs.Throughout step Ordered (start t) acts ∧ Runs.EachStep step KeepsMark (start t) acts := by
  have hstep : ∀ w a, InStretches w → w.InOrder a → InStretches (w.step a) :=
    fun w a hw hok => inStretches_step hw hok
  constructor
  · refine (Runs.throughout_of_eachStep hstep (inStretches_start t) h).mono fun w hw => ?_
    obtain ⟨stored, unsent, pending, hw⟩ := hw
    exact hw.ordered
  · exact h.imp (fun w a hw _ => keepsMark_of_inStretches hw a) hstep (inStretches_start t)

/-- A run of two publishers in which the second one waits for its turn. -/
def inTurn (event : DispatchEvent) : List Act :=
  [.call 1 event, .call 2 event, .advance 1, .advance 2, .advance 1, .advance 2]

theorem ordered_inTurn :
    Runs.Throughout step Ordered (start (TrackedSession.new 1 1 0 500))
        (inTurn (.roomLeave ⟨7, .left⟩)) ∧
      Runs.EachStep step KeepsMark (start (TrackedSession.new 1 1 0 500))
        (inTurn (.roomLeave ⟨7, .left⟩)) :=
  ordered_of_inOrder _ _ (by decide)

/-- The same two publishers, the second one ahead of the first. -/
def overtaken (event : DispatchEvent) : List Act :=
  [.call 1 event, .call 2 event, .advance 2, .advance 2, .advance 1, .advance 1]

/-- The buffer and the outbox both hold the second frame before the first. -/
theorem unordered_overtaken :
    ¬ Runs.Throughout step Ordered (start (TrackedSession.new 1 1 0 500))
        (overtaken (.roomLeave ⟨7, .left⟩)) ∧
      ¬ Increasing (Runs.run step (start (TrackedSession.new 1 1 0 500))
        (overtaken (.roomLeave ⟨7, .left⟩))).session.buffer ∧
      ¬ Increasing (deliveredTo 0 (Runs.run step (start (TrackedSession.new 1 1 0 500))
        (overtaken (.roomLeave ⟨7, .left⟩))).written) := by
  refine ⟨fun h => ?_, by decide, by decide⟩
  have hlast := Runs.throughout_iff_initial.mp h _ (List.prefix_refl _)
  exact absurd hlast.buffer (by decide)

/-! ## What overtaking leads to -/

theorem pushBuffer_buffer (s : Session) (frame : DispatchFrame) :
    ∃ kept, (s.pushBuffer frame).buffer = kept ++ [frame] ∧
      (s.pushBuffer frame).bufferCapacity = s.bufferCapacity := by
  unfold Session.pushBuffer
  split
  · split
    · next first rest hbuffer => exact ⟨rest, rfl, rfl⟩
    · exact ⟨[], rfl, rfl⟩
  · exact ⟨s.buffer, rfl, rfl⟩

theorem not_increasing_append {frames : List DispatchFrame} {f g : DispatchFrame}
    (hlt : g.s < f.s) : ¬ Increasing (frames ++ [f] ++ [g]) := by
  intro h
  rw [Increasing, List.append_assoc, List.map_append, List.pairwise_append] at h
  have hpair : f.s < g.s := by simpa using h.2.1
  omega

/-- A frame that is stored right after one with a later sequence is out of order in the
buffer, which only forgets about it when it has room for one frame. -/
theorem unsorted_of_overtaking (s : Session) {f g : DispatchFrame} (hlt : g.s < f.s)
    (hcapacity : s.bufferCapacity ≠ 1) : ¬ Increasing ((s.pushBuffer f).pushBuffer g).buffer := by
  obtain ⟨kept, hkept, hsame⟩ := pushBuffer_buffer s f
  generalize s.pushBuffer f = stored at hkept hsame ⊢
  unfold Session.pushBuffer
  split
  · next hfull =>
      rw [hkept, hsame] at hfull
      cases kept with
      | nil => exact absurd hfull.symm hcapacity
      | cons first rest =>
          rw [hkept]
          exact not_increasing_append hlt
  · rw [hkept]
    exact not_increasing_append hlt

end State

end Dispatches
end Gateway
end Ldktela
