import Ldktela.Lib.Lossy
import Ldktela.Lib.Runs
import Mathlib.Algebra.Order.BigOperators.Group.List
import Mathlib.Algebra.Order.Ring.Nat

/-!
# The sound on its way to the encoder

`pump` of `desktop/src-tauri/src/audio.rs` copies every packet of the capture into a block and
offers it to a short channel; the task that `start` spawns takes the blocks one at a time and
hands them to the encoder.  The thread never waits for the encoder, so a block that finds the
channel full is dropped, and `stop` waits for the thread but not for the task.  The channel is that
of `tokio`, of which `Lossy.Queue` says what is relied on.

`pump_run` is what holds in every order of packets, answers of the encoder and the stop.
-/

namespace Ldktela
namespace Desktop
namespace AudioPump

open Runs

def CHANNELS : Nat := 2

/-- The depth of the channel, in blocks. -/
def QUEUE : Nat := 32

/-- One packet of `GetBuffer`, with what its pointer points to, unless it is null. -/
structure Packet where
  /-- In samples per channel. -/
  count : Nat
  silent : Bool
  data : Option (List Int16)
  full : ∀ samples, data = some samples → samples.length = count * CHANNELS

abbrev Block := List Int16

/-- Silence goes out as well, as zeros. -/
def Packet.block (packet : Packet) : Block :=
  match packet.data with
  | none => List.replicate (packet.count * CHANNELS) 0
  | some samples =>
      if packet.silent then List.replicate (packet.count * CHANNELS) 0 else samples

def samplesPerChannel (block : Block) : Nat :=
  block.length / CHANNELS

inductive Thread where
  /-- It waits for the tick, or for the poll. -/
  | waiting
  /-- It takes packets until there is none. -/
  | draining
  /-- Stopped, or a call of the capture has failed. -/
  | ended
deriving DecidableEq

/-- The capture thread, the channel and the task. -/
structure Pump (q : Lossy.Queue Block QUEUE) where
  thread : Thread
  stop : Bool
  channel : Lossy.Channel q
  /-- The block that the encoder has not answered for yet. -/
  feeding : Option Block
  /-- The blocks that the encoder has accepted. -/
  encoded : List Block
  /-- Samples per channel, as `delivered_samples` reports them. -/
  delivered : Nat
  /-- The packets of the capture that were not empty. -/
  captured : List Packet

namespace Pump

variable {q : Lossy.Queue Block QUEUE}

def start : Pump q := ⟨.waiting, false, .new, none, [], 0, []⟩

inductive Act where
  | wake
  | packet (packet : Packet)
  /-- `GetNextPacketSize` is 0. -/
  | empty
  /-- A call of the capture fails. -/
  | fails
  /-- `stop` sets the flag; it returns once the thread has ended. -/
  | stop
  /-- The task takes a block. -/
  | receive
  /-- The encoder answers for the block it was handed. -/
  | answered (accepts : Bool)

def step (p : Pump q) : Act → Pump q
  | .wake => if p.thread = .waiting then { p with thread := .draining } else p
  | .packet packet =>
      if p.thread = .draining then
        if 0 < packet.count then
          { p with
            channel := p.channel.trySend packet.block
            captured := p.captured ++ [packet] }
        else p
      else p
  | .empty =>
      if p.thread = .draining then
        { p with thread := if p.stop then .ended else .waiting }
      else p
  | .fails => { p with thread := .ended }
  | .stop => { p with stop := true }
  | .receive =>
      if p.feeding.isSome then p
      else
        let (channel, received) := p.channel.recv
        match received with
        | none => { p with channel }
        | some block =>
            if samplesPerChannel block = 0 then { p with channel }
            else { p with channel, feeding := some block }
  | .answered accepts =>
      match p.feeding with
      | none => p
      | some block =>
          if accepts then
            { p with
              feeding := none
              encoded := p.encoded ++ [block]
              delivered := p.delivered + samplesPerChannel block }
          else
            { p with feeding := none }

end Pump

/-! ## One packet -/

theorem length_block (packet : Packet) : packet.block.length = packet.count * CHANNELS := by
  unfold Packet.block
  split
  · exact List.length_replicate
  · next samples hdata =>
      split
      · exact List.length_replicate
      · exact packet.full samples hdata

theorem samplesPerChannel_block (packet : Packet) :
    samplesPerChannel packet.block = packet.count := by
  rw [samplesPerChannel, length_block]
  exact Nat.mul_div_cancel packet.count (by decide)

/-! ## What every run keeps -/

namespace Pump

variable {q : Lossy.Queue Block QUEUE}

/-- The task takes what there is while it has nothing in hand, and skips what is empty. -/
theorem receive_cases (p : Pump q) : p.step .receive = p ∨
    p.feeding = none ∧ ∃ channel received, p.channel.recv = (channel, received) ∧
      p.step .receive = { p with
        channel
        feeding := received.filter fun block => samplesPerChannel block ≠ 0 } := by
  cases hfeeding : p.feeding with
  | some block => exact .inl (by simp [step, hfeeding])
  | none =>
      refine .inr ⟨rfl, p.channel.recv.1, p.channel.recv.2, rfl, ?_⟩
      simp only [step, hfeeding, Option.isSome_none, Bool.false_eq_true, if_false]
      cases p.channel.recv with
      | mk channel received => cases received with
        | none => simp [Option.filter]
        | some block =>
            by_cases hempty : samplesPerChannel block = 0
            · simp [Option.filter, hempty]
            · simp [Option.filter, hempty]

/-- The block in hand is let go of, and counted when it was accepted. -/
theorem answered_cases (p : Pump q) (accepts : Bool) : p.step (.answered accepts) = p ∨
    ∃ block, p.feeding = some block ∧ p.step (.answered accepts) = { p with
      feeding := none
      encoded := p.encoded ++ if accepts then [block] else []
      delivered := p.delivered + if accepts then samplesPerChannel block else 0 } := by
  cases hfeeding : p.feeding with
  | none => exact .inl (by simp [step, hfeeding])
  | some block =>
      refine .inr ⟨block, rfl, ?_⟩
      cases accepts with
      | true => simp [step, hfeeding]
      | false => simp [step, hfeeding]

/-- `blocks` are those of the packets that were captured. -/
structure Inv (p : Pump q) : Prop where
  kept : p.channel.Kept
  offered : p.channel.offered = p.captured.map Packet.block
  count_pos : ∀ packet ∈ p.captured, 0 < packet.count
  /-- What the encoder was handed is what the task has taken, but for what it has refused. -/
  handed : List.Sublist (p.encoded ++ p.feeding.toList) p.channel.taken
  delivered : p.delivered = (p.encoded.map samplesPerChannel).sum

variable {p : Pump q}

theorem inv_start : (start : Pump q).Inv where
  kept := Lossy.Channel.kept_new
  offered := rfl
  count_pos _ hmem := by cases hmem
  handed := List.Sublist.refl []
  delivered := rfl

/-- A block that waits is that of a packet with something in it. -/
theorem Inv.samples_pos (h : p.Inv) {block : Block} (hmem : block ∈ p.channel.queue) :
    0 < samplesPerChannel block := by
  have hoffered := h.kept.sublist.subset (List.mem_append_right p.channel.taken hmem)
  rw [h.offered] at hoffered
  obtain ⟨packet, hpacket, rfl⟩ := List.mem_map.mp hoffered
  rw [samplesPerChannel_block]
  exact h.count_pos packet hpacket

theorem Inv.thread (h : p.Inv) (thread : Thread) : Inv { p with thread } :=
  ⟨h.kept, h.offered, h.count_pos, h.handed, h.delivered⟩

theorem Inv.packet (h : p.Inv) {packet : Packet} (hcount : 0 < packet.count) :
    Inv { p with
      channel := p.channel.trySend packet.block
      captured := p.captured ++ [packet] } where
  kept := h.kept.trySend
  offered := by
    rw [Lossy.Channel.offered_trySend, h.offered, List.map_append]
    rfl
  count_pos other hother := by
    rcases List.mem_append.mp hother with hold | hnew
    · exact h.count_pos other hold
    · rw [List.mem_singleton.mp hnew]
      exact hcount
  handed := by
    rw [Lossy.Channel.taken_trySend]
    exact h.handed
  delivered := h.delivered

theorem Inv.receive (h : p.Inv) : (p.step .receive).Inv := by
  rcases receive_cases p with hsame | ⟨hnone, channel, received, hrecv, hstep⟩
  · rw [hsame]
    exact h
  · obtain ⟨hqueue, htaken, hoffered, -⟩ := Lossy.Channel.recv_eq hrecv
    -- no block is skipped: each has a sample for every channel
    have hkept : (received.filter fun block => samplesPerChannel block ≠ 0) = received := by
      cases received with
      | none => rfl
      | some block =>
          have hpos : 0 < samplesPerChannel block := by
            refine h.samples_pos ?_
            rw [hqueue]
            exact List.mem_cons_self
          simp [hpos.ne']
    have hhanded := h.handed
    rw [hnone, Option.toList_none, List.append_nil] at hhanded
    rw [hstep, hkept]
    refine ⟨h.kept.recv hrecv, hoffered.trans h.offered, h.count_pos, ?_, h.delivered⟩
    rw [htaken]
    exact hhanded.append (List.Sublist.refl received.toList)

theorem Inv.answered (h : p.Inv) (accepts : Bool) : (p.step (.answered accepts)).Inv := by
  rcases answered_cases p accepts with hsame | ⟨block, hfeeding, hstep⟩
  · rw [hsame]
    exact h
  · have hhanded := h.handed
    rw [hfeeding, Option.toList_some] at hhanded
    rw [hstep]
    refine ⟨h.kept, h.offered, h.count_pos, ?_, ?_⟩
    · rw [Option.toList_none, List.append_nil]
      cases accepts with
      | true => exact hhanded
      | false =>
          refine List.Sublist.trans ?_ hhanded
          exact (List.append_nil p.encoded).symm ▸ List.sublist_append_left _ _
    · rw [List.map_append, List.sum_append, h.delivered]
      cases accepts with
      | true => rfl
      | false => rfl

theorem inv_step (h : p.Inv) (act : Act) : (p.step act).Inv := by
  cases act with
  | wake =>
      simp only [step]
      split
      · exact h.thread .draining
      · exact h
  | packet packet =>
      simp only [step]
      split
      · split
        · next hcount => exact h.packet hcount
        · exact h
      · exact h
  | empty =>
      simp only [step]
      split
      · exact h.thread _
      · exact h
  | fails => exact h.thread .ended
  | stop => exact ⟨h.kept, h.offered, h.count_pos, h.handed, h.delivered⟩
  | receive => exact h.receive
  | answered accepts => exact h.answered accepts

theorem inv_run (acts : List Act) : (run step (start : Pump q) acts).Inv :=
  run_invariant (I := Inv) (fun _ act h => inv_step h act) inv_start acts

/-! ### After the end of the thread -/

/-- What may still come to be encoded. -/
def pending (p : Pump q) : Nat :=
  p.encoded.length + p.feeding.toList.length + p.channel.queue.length

theorem length_toList_filter {α : Type} (keep : α → Bool) (received : Option α) :
    (received.filter keep).toList.length ≤ received.toList.length := by
  cases received with
  | none => exact Nat.le_refl _
  | some a => cases hkeep : keep a <;> simp [Option.filter, hkeep]

/-- The task goes on with what is left. -/
theorem pending_step (h : p.thread = .ended) (act : Act) :
    (p.step act).thread = .ended ∧ (p.step act).captured = p.captured ∧
      (p.step act).pending ≤ p.pending := by
  cases act with
  | wake =>
      simp only [step, h, reduceCtorEq, if_false]
      exact ⟨trivial, trivial, Nat.le_refl _⟩
  | packet packet =>
      simp only [step, h, reduceCtorEq, if_false]
      exact ⟨trivial, trivial, Nat.le_refl _⟩
  | empty =>
      simp only [step, h, reduceCtorEq, if_false]
      exact ⟨trivial, trivial, Nat.le_refl _⟩
  | fails => exact ⟨rfl, rfl, Nat.le_refl _⟩
  | stop => exact ⟨h, rfl, Nat.le_refl _⟩
  | receive =>
      rcases receive_cases p with hsame | ⟨hnone, channel, received, hrecv, hstep⟩
      · rw [hsame]
        exact ⟨h, rfl, Nat.le_refl _⟩
      · obtain ⟨hqueue, -⟩ := Lossy.Channel.recv_eq hrecv
        have hlength :=
          length_toList_filter (fun block => decide (samplesPerChannel block ≠ 0)) received
        rw [hstep]
        refine ⟨h, rfl, ?_⟩
        simp only [pending, hqueue, hnone, Option.toList_none, List.length_append,
          List.length_nil]
        omega
  | answered accepts =>
      rcases answered_cases p accepts with hsame | ⟨block, hfeeding, hstep⟩
      · rw [hsame]
        exact ⟨h, rfl, Nat.le_refl _⟩
      · rw [hstep]
        refine ⟨h, rfl, ?_⟩
        simp only [pending, hfeeding, Option.toList_some, Option.toList_none,
          List.length_append, List.length_cons, List.length_nil]
        cases accepts with
        | true => simp
        | false => simp

theorem pending_run (h : p.thread = .ended) (acts : List Act) :
    (run step p acts).captured = p.captured ∧ (run step p acts).pending ≤ p.pending := by
  induction acts generalizing p with
  | nil => exact ⟨rfl, Nat.le_refl _⟩
  | cons act acts ih =>
      obtain ⟨hended, hcaptured, hpending⟩ := pending_step h act
      obtain ⟨hcaptured', hpending'⟩ := ih hended
      exact ⟨hcaptured'.trans hcaptured, hpending'.trans hpending⟩

/-- A block is dropped only behind a full channel. -/
theorem queue_of_dropped (h : p.Inv) {act : Act}
    (hdropped : (p.step act).channel.dropped ≠ p.channel.dropped) :
    p.channel.queue.length = QUEUE := by
  refine le_antisymm h.kept.length_queue ?_
  cases act with
  | packet packet =>
      simp only [step] at hdropped
      split at hdropped
      · split at hdropped
        · exact Lossy.Channel.dropped_trySend hdropped
        · exact absurd rfl hdropped
      · exact absurd rfl hdropped
  | receive =>
      refine absurd ?_ hdropped
      rcases receive_cases p with hsame | ⟨-, channel, received, hrecv, hstep⟩
      · rw [hsame]
      · obtain ⟨-, -, -, hdropped⟩ := Lossy.Channel.recv_eq hrecv
        rw [hstep]
        exact hdropped
  | wake => exact absurd (by unfold step; dsimp only; split <;> rfl) hdropped
  | empty => exact absurd (by unfold step; dsimp only; split <;> rfl) hdropped
  | fails => exact absurd rfl hdropped
  | stop => exact absurd rfl hdropped
  | answered accepts =>
      refine absurd ?_ hdropped
      rcases answered_cases p accepts with hsame | ⟨block, -, hstep⟩
      · rw [hsame]
      · rw [hstep]

/-- The encoder gets blocks of the packets in their order, none twice; each of the packets was
taken, or waits, or was dropped behind a full channel; what is reported as delivered is no more
than was captured; and once the thread has ended at most 33 blocks still come. -/
theorem pump_run (q : Lossy.Queue Block QUEUE) (acts more : List Act) :
    let p := run step (start : Pump q) acts
    List.Sublist (p.encoded ++ p.feeding.toList ++ p.channel.queue)
        (p.captured.map Packet.block) ∧
      p.captured.length =
        p.channel.taken.length + p.channel.queue.length + p.channel.dropped ∧
      (∀ act, (p.step act).channel.dropped ≠ p.channel.dropped →
        p.channel.queue.length = QUEUE) ∧
      p.delivered = (p.encoded.map samplesPerChannel).sum ∧
      p.delivered ≤ (p.captured.map Packet.count).sum ∧
      (p.thread = .ended → (run step p more).captured = p.captured ∧
        (run step p more).encoded.length ≤ p.encoded.length + QUEUE + 1) := by
  intro p
  have hinv : p.Inv := inv_run acts
  have hblocks : List.Sublist (p.encoded ++ p.feeding.toList ++ p.channel.queue)
      (p.captured.map Packet.block) := by
    have hkept := hinv.kept.sublist
    rw [hinv.offered] at hkept
    exact (hinv.handed.append (List.Sublist.refl _)).trans hkept
  refine ⟨hblocks, ?_, fun act => queue_of_dropped hinv, hinv.delivered, ?_, fun hended => ?_⟩
  · have hcount := hinv.kept.length_offered
    rw [hinv.offered, List.length_map] at hcount
    exact hcount
  · have hcounts : (p.captured.map Packet.block).map samplesPerChannel =
        p.captured.map Packet.count := by
      rw [List.map_map]
      exact List.map_congr_left fun packet _ => samplesPerChannel_block packet
    have hencoded : List.Sublist p.encoded (p.captured.map Packet.block) := by
      rw [List.append_assoc] at hblocks
      exact (List.sublist_append_left _ _).trans hblocks
    rw [hinv.delivered, ← hcounts]
    exact (hencoded.map samplesPerChannel).sum_le_sum fun _ _ => Nat.zero_le _
  · obtain ⟨hcaptured, hpending⟩ := pending_run hended more
    refine ⟨hcaptured, ?_⟩
    have hqueue := hinv.kept.length_queue
    have hfeeding : p.feeding.toList.length ≤ 1 := by
      cases p.feeding with
      | none => exact Nat.zero_le 1
      | some block => exact le_refl 1
    unfold pending at hpending
    omega

/-- Four samples of silence, on their way through a channel that is a list. -/
example : (run step (start : Pump (.list Block QUEUE))
    [.wake, .packet ⟨4, true, none, by simp⟩, .receive, .answered true]).delivered = 4 := by
  decide

end Pump

end AudioPump
end Desktop
end Ldktela
