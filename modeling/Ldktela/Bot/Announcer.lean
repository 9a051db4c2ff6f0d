import Ldktela.Bot.Announce
import Ldktela.Lib.Broadcast

/-!
# A task that falls behind

`Announcer` of `crates/api/src/announce.rs` is one broadcast channel for the snapshots of
all rooms, and `run` of `crates/bot/src/announce.rs` receives from it: the newest snapshot
of each room waits for the next flush.  A flush awaits calls to Discord for each of them,
and the task receives nothing meanwhile.

A snapshot is the whole state of its room, so nothing is lost with one as long as a newer
one of the same room is received.  `converges_of_keepsRooms` says that this is all it
takes: the task converges along every run in which each room that a lag drops has a newer
snapshot left in the channel.
-/

namespace Ldktela
namespace Bot
namespace Announcer

open Protocol
open Api (RoomBroadcast)
open Discord (Replica)
open Announce (Loop)
open Broadcast
open Runs

/-- The capacity of the channel. -/
def capacity : Nat := 64

/-- The channel, and the task at its receiving end. -/
structure World where
  channel : Receiver RoomBroadcast
  loop : Loop
  /-- What a flush under way has still to apply. -/
  flushing : List RoomBroadcast
  /-- The last snapshot of a room that was applied. -/
  lastApplied : Snowflake → Option RoomBroadcast

inductive Act where
  | publish (snapshot : RoomBroadcast)
  /-- `snapshots.recv()` is ready. -/
  | receive
  /-- `flush.tick()` is ready; `order` is how the hash map is drained. -/
  | tick (order : List Snowflake)
  /-- One `apply` of a flush, with the replica as it is then. -/
  | apply (r : Replica)

namespace World

def start : World where
  channel := .new
  loop := ⟨∅, ⟨[], []⟩⟩
  flushing := []
  lastApplied := fun _ => none

/-- The receiver has answered. -/
def take (w : World) : Receiver RoomBroadcast × Received RoomBroadcast → World
  | (channel, .value snapshot) =>
      { w with channel := channel, loop := w.loop.receive snapshot }
  -- only a warning
  | (channel, .lagged _) => { w with channel := channel }
  | (_, .empty) => w

def step (w : World) : Act → World
  | .publish snapshot => { w with channel := w.channel.send snapshot }
  | .receive =>
      match w.flushing with
      | [] => w.take (w.channel.recv capacity)
      | _ :: _ => w
  | .tick order =>
      match w.flushing with
      | [] =>
          if order.Perm w.loop.pending.keys then
            { w with
              loop := { w.loop with pending := ∅ }
              flushing := w.loop.drained order }
          else
            w
      | _ :: _ => w
  | .apply r =>
      match w.flushing with
      | [] => w
      | snapshot :: rest =>
          { w with
            loop := { w.loop with tags := Announce.apply r w.loop.tags snapshot }
            flushing := rest
            lastApplied := fun channel =>
              if channel = snapshot.discordChannelId then some snapshot
              else w.lastApplied channel }

/-- Everything that is still in the channel was received, and everything received was
flushed. -/
def Quiet (w : World) : Prop :=
  w.channel.behind = [] ∧ w.loop.pending = ∅ ∧ w.flushing = []

/-- The last snapshot published for a room. -/
def published (w : World) (channel : Snowflake) : Option RoomBroadcast :=
  newestOf RoomBroadcast.discordChannelId channel w.channel.log

/-- Once the task is quiet, the last snapshot applied for each room is the last one
published for it. -/
def Converged (w : World) : Prop :=
  w.Quiet → ∀ channel, w.lastApplied channel = w.published channel

/-- The newest snapshot of a room that the task has taken out of the channel. -/
def held (w : World) (channel : Snowflake) : Option RoomBroadcast :=
  ((w.loop.pending.lookup channel).or
    (newestOf RoomBroadcast.discordChannelId channel w.flushing)).or (w.lastApplied channel)

/-- When snapshots are lost, the channel still has a newer one of each of their rooms, or
the task has the last of them already. -/
def KeepsRooms (w : World) : Act → Prop
  | .receive => w.flushing = [] → ∀ lost ∈ w.channel.lost capacity,
      (∃ newer ∈ w.channel.kept capacity, newer.discordChannelId = lost.discordChannelId) ∨
        w.held lost.discordChannelId =
          newestOf RoomBroadcast.discordChannelId lost.discordChannelId
            (w.channel.lost capacity)
  | _ => True

instance (w : World) : ∀ act, Decidable (w.KeepsRooms act)
  | .receive => inferInstanceAs (Decidable (w.flushing = [] → ∀ lost ∈ w.channel.lost capacity,
      (∃ newer ∈ w.channel.kept capacity, newer.discordChannelId = lost.discordChannelId) ∨
        w.held lost.discordChannelId =
          newestOf RoomBroadcast.discordChannelId lost.discordChannelId
            (w.channel.lost capacity)))
  | .publish _ => .isTrue trivial
  | .tick _ => .isTrue trivial
  | .apply _ => .isTrue trivial

instance (w : World) : Decidable w.Quiet :=
  decidable_of_iff (w.channel.behind = [] ∧ w.loop.pending.entries = [] ∧ w.flushing = []) (by
    rw [Quiet, AList.ext_iff]
    rfl)

/-! ## What is on its way -/

/-- A pending snapshot is under its own channel. -/
def Keyed (w : World) : Prop :=
  ∀ channel snapshot, w.loop.pending.lookup channel = some snapshot →
    snapshot.discordChannelId = channel

/-- For every room the last snapshot published is in the channel, or else is the one the
task has. -/
structure Inv (w : World) : Prop where
  keyed : w.Keyed
  onItsWay : ∀ channel, w.published channel =
    (newestOf RoomBroadcast.discordChannelId channel w.channel.behind).or (w.held channel)

variable {w : World}

theorem inv_start : Inv start where
  keyed channel snapshot h := by cases h
  onItsWay _ := rfl

theorem Inv.converged (h : Inv w) : w.Converged := by
  rintro ⟨hbehind, hpending, hflushing⟩ channel
  rw [h.onItsWay, hbehind, held, hpending, hflushing]
  simp

theorem inv_publish (h : Inv w) (snapshot : RoomBroadcast) :
    Inv (w.step (.publish snapshot)) := by
  refine ⟨h.keyed, fun channel => ?_⟩
  show newestOf _ channel (w.channel.log ++ [snapshot]) =
    (newestOf _ channel (w.channel.send snapshot).behind).or (w.held channel)
  have hnewest := h.onItsWay channel
  rw [published] at hnewest
  rw [Receiver.behind_send, newestOf_append, newestOf_append, hnewest, Option.or_assoc]

theorem channel_tick (order : List Snowflake) : (w.step (.tick order)).channel = w.channel := by
  unfold step
  dsimp only
  split
  · split
    · rfl
    · rfl
  · rfl

theorem channel_apply (r : Replica) : (w.step (.apply r)).channel = w.channel := by
  unfold step
  dsimp only
  split
  · rfl
  · rfl

/-- What a lag drops is known, or is made up for by what is left. -/
theorem newestOf_behind_of_lag {channel : Snowflake}
    (hok : ∀ lost ∈ w.channel.lost capacity,
      (∃ newer ∈ w.channel.kept capacity, newer.discordChannelId = lost.discordChannelId) ∨
        w.held lost.discordChannelId =
          newestOf RoomBroadcast.discordChannelId lost.discordChannelId
            (w.channel.lost capacity)) :
    (newestOf RoomBroadcast.discordChannelId channel w.channel.behind).or (w.held channel) =
      (newestOf RoomBroadcast.discordChannelId channel (w.channel.kept capacity)).or
        (w.held channel) := by
  rw [← w.channel.lost_append_kept capacity, newestOf_append, Option.or_assoc]
  cases hkept : newestOf RoomBroadcast.discordChannelId channel (w.channel.kept capacity) with
  | some newer => rfl
  | none =>
      cases hlost : newestOf RoomBroadcast.discordChannelId channel (w.channel.lost capacity) with
      | none => rfl
      | some lost =>
          obtain ⟨hmem, rfl⟩ := mem_of_newestOf _ hlost
          rcases hok lost hmem with ⟨newer, hnewer, hsame⟩ | hheld
          · exact absurd hsame ((newestOf_eq_none_iff _).mp hkept newer hnewer)
          · rw [hheld, hlost]
            rfl

/-- A drain takes the pending snapshot of every room. -/
theorem newestOf_drained {loop : Loop} {order : List Snowflake} {channel : Snowflake}
    (hkeyed : ∀ channel snapshot, loop.pending.lookup channel = some snapshot →
      snapshot.discordChannelId = channel)
    (hperm : order.Perm loop.pending.keys) :
    newestOf RoomBroadcast.discordChannelId channel (loop.drained order) =
      loop.pending.lookup channel := by
  have hmem : ∀ snapshot, snapshot ∈ loop.drained order ↔
      ∃ room, loop.pending.lookup room = some snapshot := fun snapshot =>
    Announce.World.mem_drained_iff (w := ⟨loop, fun _ => none⟩) hperm
  cases hnewest : newestOf RoomBroadcast.discordChannelId channel (loop.drained order) with
  | some snapshot =>
      obtain ⟨hdrained, rfl⟩ := mem_of_newestOf _ hnewest
      obtain ⟨room, hroom⟩ := (hmem snapshot).mp hdrained
      rw [hkeyed room snapshot hroom, hroom]
  | none =>
      cases hpending : loop.pending.lookup channel with
      | none => rfl
      | some snapshot =>
          have hdrained := (hmem snapshot).mpr ⟨channel, hpending⟩
          exact absurd (hkeyed channel snapshot hpending)
            ((newestOf_eq_none_iff _).mp hnewest snapshot hdrained)

/-- A flush, from its beginning to its end, has what was pending. -/
theorem held_tick (hkeyed : w.Keyed) (order : List Snowflake) (channel : Snowflake) :
    (w.step (.tick order)).held channel = w.held channel := by
  unfold step
  dsimp only
  split
  · next hflushing =>
      split
      · next hperm =>
          unfold held
          rw [hflushing]
          dsimp only
          rw [newestOf_drained hkeyed hperm]
          simp
      · rfl
  · rfl

theorem held_apply (r : Replica) (channel : Snowflake) :
    (w.step (.apply r)).held channel = w.held channel := by
  unfold step
  dsimp only
  split
  · rfl
  · next snapshot rest hflushing =>
      unfold held
      rw [hflushing, newestOf_cons]
      dsimp only
      rw [Option.or_assoc, Option.or_assoc, Option.or_assoc]
      congr 2
      by_cases heq : channel = snapshot.discordChannelId
      · rw [if_pos heq, if_pos heq.symm]
        rfl
      · rw [if_neg heq, if_neg (Ne.symm heq)]
        rfl

/-- What the task receives is the newest of its room. -/
theorem held_receive (hflushing : w.flushing = []) (c : Receiver RoomBroadcast)
    (snapshot : RoomBroadcast) (channel : Snowflake) :
    (w.take (c, .value snapshot)).held channel =
      (if snapshot.discordChannelId = channel then some snapshot else none).or
        (w.held channel) := by
  unfold held
  rw [take, Loop.receive, AList.lookup_insert_ite, hflushing]
  by_cases heq : channel = snapshot.discordChannelId
  · rw [if_pos heq, if_pos heq.symm]
    rfl
  · rw [if_neg heq, if_neg (Ne.symm heq)]
    rfl

theorem keyed_step (hkeyed : w.Keyed) (act : Act) : (w.step act).Keyed := by
  cases act with
  | publish snapshot => exact hkeyed
  | receive =>
      unfold step
      dsimp only
      split
      · rcases w.channel.recv capacity with ⟨channel, received⟩
        cases received with
        | value snapshot =>
            intro room known hknown
            rw [take, Loop.receive, AList.lookup_insert_ite] at hknown
            split at hknown
            · next heq => rw [heq, Option.some.inj hknown]
            · exact hkeyed room known hknown
        | lagged missed => exact hkeyed
        | empty => exact hkeyed
      · exact hkeyed
  | tick order =>
      unfold step
      dsimp only
      split
      · split
        · intro room known hknown
          cases hknown
        · exact hkeyed
      · exact hkeyed
  | apply r =>
      unfold step
      dsimp only
      split
      · exact hkeyed
      · exact hkeyed

theorem inv_receive (h : Inv w) (hok : w.KeepsRooms .receive) : Inv (w.step .receive) := by
  refine ⟨keyed_step h.keyed .receive, fun room => ?_⟩
  unfold step
  dsimp only
  split
  · next hflushing =>
      have hlog := w.channel.log_recv capacity
      have hcases := w.channel.recv_cases capacity
      rcases hrecv : w.channel.recv capacity with ⟨channel, received⟩
      rw [hrecv] at hlog hcases
      dsimp only at hlog hcases
      have hnewest := h.onItsWay room
      obtain ⟨missed, rfl, -, hbehind⟩ | ⟨snapshot, rfl, -, hbehind⟩ | ⟨rfl, -, -⟩ := hcases
      · show newestOf _ room channel.log = (newestOf _ room channel.behind).or (w.held room)
        rw [hlog, hbehind, ← newestOf_behind_of_lag (hok hflushing)]
        exact hnewest
      · rw [held_receive hflushing]
        rw [hbehind, newestOf_cons, Option.or_assoc, published, ← hlog] at hnewest
        exact hnewest
      · exact hnewest
  · exact h.onItsWay room

theorem inv_step (h : Inv w) {act : Act} (hok : w.KeepsRooms act) : Inv (w.step act) := by
  cases act with
  | publish snapshot => exact inv_publish h snapshot
  | receive => exact inv_receive h hok
  | tick order =>
      refine ⟨keyed_step h.keyed _, fun channel => ?_⟩
      rw [held_tick h.keyed, published, channel_tick]
      exact h.onItsWay channel
  | apply r =>
      refine ⟨keyed_step h.keyed _, fun channel => ?_⟩
      rw [held_apply, published, channel_apply]
      exact h.onItsWay channel

/-- The task converges along every run in which a lag drops only snapshots of rooms of
which it has, or is still to receive, the newest one. -/
theorem converges_of_keepsRooms (acts : List Act) (h : EachStep step KeepsRooms start acts) :
    Throughout step Converged start acts := by
  have hinv : Throughout step Inv start acts :=
    throughout_of_eachStep (s := start) (fun _ _ hinv hok => inv_step hinv hok) inv_start h
  exact hinv.mono fun _ hinv => hinv.converged

/-- The task receives in time: 66 snapshots of one room, of which it misses two. -/
theorem converges_on_one_room :
    Throughout step Converged start
      (List.replicate 66 (Act.publish ⟨5, [30], 0⟩) ++ List.replicate 65 Act.receive ++
        [Act.tick [5], Act.apply (Replica.new 60)]) :=
  converges_of_keepsRooms _ (by decide +kernel)

/-- While a flush is under way, the end of one share is published, and then 64 snapshots of
another room. -/
def overrun : List Act :=
  [Act.publish ⟨5, [30], 0⟩, Act.receive, Act.tick [5], Act.publish ⟨5, [], 1⟩] ++
    List.replicate 64 (Act.publish ⟨6, [31], 2⟩) ++ [Act.apply (Replica.new 60)] ++
    List.replicate 65 Act.receive ++ [Act.tick [6], Act.apply (Replica.new 60)]

/-- The end of the share is never applied. -/
theorem overrun_does_not_converge :
    ¬ ∀ acts : List Act, Throughout step Converged start acts := by
  intro h
  have hconverged := throughout_iff_initial.mp (h overrun) overrun (List.prefix_refl _)
  have hquiet : (run step start overrun).Quiet := by decide +kernel
  have hroom := hconverged hquiet 5
  revert hroom
  decide +kernel

/-! ## What a lag takes for good -/

/-- The last snapshot of a room is neither in the channel nor with the task. -/
def Missed (w : World) (channel : Snowflake) : Prop :=
  (∀ snapshot ∈ w.channel.behind, snapshot.discordChannelId ≠ channel) ∧
    w.held channel ≠ w.published channel

/-- A lag that `KeepsRooms` does not admit leaves such a room behind. -/
theorem missed_of_not_keepsRooms (h : Inv w) (hnot : ¬ w.KeepsRooms .receive) :
    ∃ channel, (w.step .receive).Missed channel := by
  unfold KeepsRooms at hnot
  push Not at hnot
  obtain ⟨hflushing, lost, hlost, hnewer, hheld⟩ := hnot
  refine ⟨lost.discordChannelId, ?_⟩
  have hlog := w.channel.log_recv capacity
  have hcases := w.channel.recv_cases capacity
  rcases hrecv : w.channel.recv capacity with ⟨channel, received⟩
  have hstep : w.step .receive = w.take (channel, received) := by
    simp only [step, hflushing, hrecv]
  rw [hrecv] at hlog hcases
  dsimp only at hlog hcases
  obtain ⟨missed, rfl, -, hbehind⟩ | ⟨-, -, hnone, -⟩ | ⟨-, hnone, -⟩ := hcases
  · rw [hstep]
    refine ⟨fun snapshot hmem => hnewer snapshot (hbehind ▸ hmem), ?_⟩
    show w.held lost.discordChannelId ≠ newestOf _ lost.discordChannelId channel.log
    have hkept : newestOf RoomBroadcast.discordChannelId lost.discordChannelId
        (w.channel.kept capacity) = none := (newestOf_eq_none_iff _).mpr hnewer
    have hsome : newestOf RoomBroadcast.discordChannelId lost.discordChannelId
        (w.channel.lost capacity) ≠ none := fun hnone =>
      (newestOf_eq_none_iff _).mp hnone lost hlost rfl
    have hpublished := h.onItsWay lost.discordChannelId
    rw [published, ← w.channel.lost_append_kept capacity, newestOf_append, hkept, Option.none_or,
      Option.or_of_isSome (Option.isSome_iff_ne_none.mpr hsome)] at hpublished
    rw [hlog, hpublished]
    exact hheld
  · rw [hnone] at hlost
    cases hlost
  · have hsplit := w.channel.lost_append_kept capacity
    rw [hnone] at hsplit
    rw [(List.append_eq_nil_iff.mp hsplit).1] at hlost
    cases hlost

/-- It stays so until the next snapshot of the room is published. -/
theorem missed_step (hkeyed : w.Keyed) {channel : Snowflake} (h : w.Missed channel) (act : Act)
    (hact : ∀ snapshot, act = .publish snapshot → snapshot.discordChannelId ≠ channel) :
    (w.step act).Missed channel := by
  obtain ⟨hbehind, hheld⟩ := h
  cases act with
  | publish snapshot =>
      have hother := hact snapshot rfl
      refine ⟨fun other hmem => ?_, ?_⟩
      · rw [step, Receiver.behind_send, List.mem_append, List.mem_singleton] at hmem
        rcases hmem with hmem | rfl
        · exact hbehind other hmem
        · exact hother
      · show w.held channel ≠ newestOf _ channel (w.channel.log ++ [snapshot])
        rw [newestOf_append, newestOf_singleton, if_neg hother]
        exact hheld
  | receive =>
      unfold step
      dsimp only
      split
      · next hflushing =>
          have hlog := w.channel.log_recv capacity
          have hcases := w.channel.recv_cases capacity
          rcases hrecv : w.channel.recv capacity with ⟨c, received⟩
          rw [hrecv] at hlog hcases
          dsimp only at hlog hcases
          obtain ⟨missed, rfl, -, hkept⟩ | ⟨snapshot, rfl, -, hhead⟩ | ⟨rfl, -, -⟩ := hcases
          · refine ⟨fun other hmem => hbehind other ?_, ?_⟩
            · rw [← w.channel.lost_append_kept capacity, ← hkept]
              exact List.mem_append_right _ hmem
            · show w.held channel ≠ newestOf _ channel c.log
              rw [hlog]
              exact hheld
          · rw [hhead] at hbehind
            refine ⟨fun other hmem => hbehind other (List.mem_cons_of_mem snapshot hmem), ?_⟩
            rw [held_receive hflushing, if_neg (hbehind snapshot List.mem_cons_self)]
            show w.held channel ≠ newestOf _ channel c.log
            rw [hlog]
            exact hheld
          · exact ⟨hbehind, hheld⟩
      · exact ⟨hbehind, hheld⟩
  | tick order =>
      refine ⟨?_, ?_⟩
      · rw [channel_tick]
        exact hbehind
      · rw [held_tick hkeyed, published, channel_tick]
        exact hheld
  | apply r =>
      refine ⟨?_, ?_⟩
      · rw [channel_apply]
        exact hbehind
      · rw [held_apply, published, channel_apply]
        exact hheld

/-- And the task comes to rest without it. -/
theorem Missed.not_converged {channel : Snowflake} (h : w.Missed channel) (hquiet : w.Quiet) :
    ¬ w.Converged := by
  intro hconverged
  refine h.2 ?_
  rw [← hconverged hquiet channel, held, hquiet.2.1, hquiet.2.2]
  simp

end World

end Announcer
end Bot
end Ldktela
