import Ldktela.Api.Rooms
import Ldktela.Discord.Replica
import Ldktela.Lib.Runs

/-!
# The live tags

`crates/bot/src/announce.rs`: the task that puts a tag on the nickname of whoever
is publishing.  Snapshots of the rooms pile up in `pending`, the newest of each
channel, and are applied together at the next flush, in the order in which the
hash map is drained.

The tags are kept by guild and person, a snapshot is of one channel, and
`updateTags` takes the tag of everybody in the guild whom the snapshot does not
list.  `follows_throughout_iff` says along which runs the tags are nevertheless the
publishers of the guild: the snapshot of a guild that is applied last in a flush has
to list the publishers of all its rooms.
-/

namespace Ldktela
namespace Bot
namespace Announce

open Protocol
open Api (RoomBroadcast)
open Discord (Replica)

/-- A call that renames a member. -/
inductive Edit where
  | applyNickname (guildId userId : Snowflake)
  | restoreNickname (guildId userId : Snowflake)
deriving DecidableEq

/-- Who carries a tag, by guild and person, and the calls made so far, the latest
one first. -/
structure Tags where
  tagged : List (Snowflake × Snowflake)
  edits : List Edit

/-- `tagged.insert`, and the call if the person was not tagged. -/
def tag (guildId : Snowflake) (tags : Tags) (user : Snowflake) : Tags :=
  if (guildId, user) ∈ tags.tagged then
    tags
  else
    ⟨(guildId, user) :: tags.tagged, .applyNickname guildId user :: tags.edits⟩

/-- `tagged.remove`, and the call. -/
def untag (guildId : Snowflake) (tags : Tags) (user : Snowflake) : Tags :=
  ⟨tags.tagged.filter fun p => p ≠ (guildId, user), .restoreNickname guildId user :: tags.edits⟩

def updateTags (guildId : Snowflake) (snapshot : RoomBroadcast) (tags : Tags) : Tags :=
  let wanted := snapshot.publishers.dedup
  let tags := wanted.foldl (tag guildId) tags
  let stale := (tags.tagged.filter fun p => p.1 = guildId ∧ p.2 ∉ wanted).map Prod.snd
  stale.foldl (untag guildId) tags

/-- The guild of a channel, as the replica knows it. -/
def guildOf (r : Replica) (channel : Snowflake) : Option Snowflake :=
  (r.channelInfo (unsignedAbs channel)).map fun info => i64OrDefault info.1

/-- A channel outside the replica is not ours. -/
def apply (r : Replica) (tags : Tags) (snapshot : RoomBroadcast) : Tags :=
  match guildOf r snapshot.discordChannelId with
  | none => tags
  | some guildId => updateTags guildId snapshot tags

/-- The state of the loop in `run`. -/
structure Loop where
  pending : Table Snowflake RoomBroadcast
  tags : Tags

namespace Loop

/-- The newest one wins. -/
def receive (snapshot : RoomBroadcast) (loop : Loop) : Loop :=
  { loop with pending := loop.pending.insert snapshot.discordChannelId snapshot }

/-- The snapshots that are drained, in the order in which their channels come. -/
def drained (order : List Snowflake) (loop : Loop) : List RoomBroadcast :=
  order.filterMap fun channel => loop.pending.lookup channel

def flush (r : Replica) (order : List Snowflake) (loop : Loop) : Loop where
  pending := ∅
  tags := (loop.drained order).foldl (apply r) loop.tags

end Loop

/-! ## One snapshot -/

section Snapshot

variable {guildId : Snowflake} {tags : Tags} {p : Snowflake × Snowflake} {r : Replica}

theorem mem_tag (user : Snowflake) :
    p ∈ (tag guildId tags user).tagged ↔ p = (guildId, user) ∨ p ∈ tags.tagged := by
  unfold tag
  split
  · next hmem =>
      refine (or_iff_right_of_imp ?_).symm
      rintro rfl
      exact hmem
  · exact List.mem_cons

theorem mem_foldl_tag (users : List Snowflake) :
    p ∈ (users.foldl (tag guildId) tags).tagged ↔
      (p.1 = guildId ∧ p.2 ∈ users) ∨ p ∈ tags.tagged := by
  induction users generalizing tags with
  | nil => simp
  | cons user users ih =>
      rw [List.foldl_cons, ih, mem_tag, Prod.ext_iff, List.mem_cons]
      tauto

theorem mem_foldl_untag (users : List Snowflake) :
    p ∈ (users.foldl (untag guildId) tags).tagged ↔
      p ∈ tags.tagged ∧ ¬ (p.1 = guildId ∧ p.2 ∈ users) := by
  induction users generalizing tags with
  | nil => simp
  | cons user users ih =>
      rw [List.foldl_cons, ih, List.mem_cons]
      simp only [untag, List.mem_filter, decide_eq_true_eq, ne_eq, Prod.ext_iff]
      tauto

/-- After a snapshot has been applied, the tags of its guild are its publishers,
whatever the other rooms of the guild have. -/
theorem mem_updateTags (snapshot : RoomBroadcast) :
    p ∈ (updateTags guildId snapshot tags).tagged ↔
      if p.1 = guildId then p.2 ∈ snapshot.publishers else p ∈ tags.tagged := by
  unfold updateTags
  rw [mem_foldl_untag, mem_foldl_tag]
  obtain ⟨g, u⟩ := p
  by_cases hg : g = guildId
  · subst hg
    simp only [if_true, true_and, List.mem_dedup, List.mem_map, List.mem_filter, mem_foldl_tag,
      decide_eq_true_eq]
    constructor
    · -- a tag the snapshot does not list is stale
      rintro ⟨hmem, hfresh⟩
      by_contra hu
      exact hfresh ⟨(g, u), ⟨hmem.imp_left fun hwanted => ⟨rfl, hwanted⟩, rfl, hu⟩, rfl⟩
    · intro hu
      refine ⟨.inl hu, ?_⟩
      rintro ⟨⟨g', u'⟩, ⟨-, -, hstale⟩, rfl⟩
      exact hstale hu
  · simp [hg]

theorem mem_apply {g u : Snowflake} (snapshot : RoomBroadcast) :
    (g, u) ∈ (apply r tags snapshot).tagged ↔
      if guildOf r snapshot.discordChannelId = some g then u ∈ snapshot.publishers
      else (g, u) ∈ tags.tagged := by
  unfold apply
  cases hguild : guildOf r snapshot.discordChannelId with
  | none => simp
  | some guildId =>
      dsimp only
      rw [mem_updateTags]
      simp only [Option.some.injEq, eq_comm]

end Snapshot

/-! ## The calls -/

/-- The last call about the member put the tag on. -/
def marked (p : Snowflake × Snowflake) : List Edit → Bool
  | [] => false
  | .applyNickname guildId userId :: edits =>
      if p = (guildId, userId) then true else marked p edits
  | .restoreNickname guildId userId :: edits =>
      if p = (guildId, userId) then false else marked p edits

/-- The set the task keeps is what its calls amount to. -/
def Faithful (tags : Tags) : Prop :=
  ∀ p, p ∈ tags.tagged ↔ marked p tags.edits = true

section Calls

variable {guildId : Snowflake} {tags : Tags}

theorem Faithful.tag (h : Faithful tags) (user : Snowflake) : Faithful (tag guildId tags user) := by
  intro p
  unfold Announce.tag
  split
  · exact h p
  · simp only [List.mem_cons, marked, h p]
    split
    · next heq => simp [heq]
    · next hne => simp [hne]

theorem Faithful.untag (h : Faithful tags) (user : Snowflake) :
    Faithful (untag guildId tags user) := by
  intro p
  simp only [Announce.untag, List.mem_filter, decide_eq_true_eq, marked, h p]
  split
  · next heq => simp [heq]
  · next hne => simp [hne]

/-- What one edit keeps, a loop of edits keeps. -/
theorem Faithful.foldl {α : Type} {f : Tags → α → Tags} {tags : Tags}
    (hf : ∀ tags a, Faithful tags → Faithful (f tags a)) (l : List α) (h : Faithful tags) :
    Faithful (l.foldl f tags) :=
  Runs.run_invariant hf h l

theorem Faithful.apply (r : Replica) (snapshot : RoomBroadcast) (h : Faithful tags) :
    Faithful (apply r tags snapshot) := by
  unfold Announce.apply
  split
  · exact h
  · refine Faithful.foldl (fun _ user h => h.untag user) _ ?_
    exact Faithful.foldl (fun _ user h => h.tag user) _ h

theorem Faithful.flush (r : Replica) (order : List Snowflake) {loop : Loop}
    (h : Faithful loop.tags) : Faithful (loop.flush r order).tags :=
  Faithful.foldl (fun _ snapshot h => h.apply r snapshot) _ h

end Calls

/-! ## A flush -/

section Flush

variable {r : Replica} {g u : Snowflake}

/-- The snapshot of the guild that is applied last. -/
def lastOf (r : Replica) (g : Snowflake) : List RoomBroadcast → Option RoomBroadcast
  | [] => none
  | snapshot :: rest =>
      match lastOf r g rest with
      | some last => some last
      | none => if guildOf r snapshot.discordChannelId = some g then some snapshot else none

theorem lastOf_eq_some {snapshots : List RoomBroadcast} {last : RoomBroadcast}
    (h : lastOf r g snapshots = some last) :
    last ∈ snapshots ∧ guildOf r last.discordChannelId = some g := by
  induction snapshots with
  | nil => cases h
  | cons snapshot rest ih =>
      unfold lastOf at h
      split at h
      · next hrest =>
          obtain ⟨hmem, hguild⟩ := ih (hrest.trans h)
          exact ⟨List.mem_cons_of_mem snapshot hmem, hguild⟩
      · split at h
        · next hguild =>
            obtain rfl := Option.some.inj h
            exact ⟨List.mem_cons_self, hguild⟩
        · cases h

theorem lastOf_eq_none {snapshots : List RoomBroadcast} (h : lastOf r g snapshots = none)
    {snapshot : RoomBroadcast} (hmem : snapshot ∈ snapshots) :
    guildOf r snapshot.discordChannelId ≠ some g := by
  induction snapshots with
  | nil => cases hmem
  | cons head rest ih =>
      unfold lastOf at h
      split at h
      · cases h
      · next hrest =>
          split at h
          · cases h
          · next hguild =>
              rcases List.mem_cons.mp hmem with rfl | htail
              · exact hguild
              · exact ih hrest htail

/-- After several snapshots the tags of a guild are the publishers of the one
applied last. -/
theorem mem_foldl_apply (snapshots : List RoomBroadcast) (tags : Tags) :
    (g, u) ∈ (snapshots.foldl (apply r) tags).tagged ↔
      match lastOf r g snapshots with
      | some last => u ∈ last.publishers
      | none => (g, u) ∈ tags.tagged := by
  induction snapshots generalizing tags with
  | nil => exact Iff.rfl
  | cons snapshot rest ih =>
      rw [List.foldl_cons, ih, lastOf]
      cases lastOf r g rest with
      | some last => exact Iff.rfl
      | none =>
          dsimp only
          rw [mem_apply]
          by_cases hguild : guildOf r snapshot.discordChannelId = some g
          · simp [hguild]
          · simp [hguild]

end Flush

/-! ## Runs -/

/-- The loop, with the last flushed snapshot of each channel. -/
structure World where
  loop : Loop
  lastFlushed : Snowflake → Option RoomBroadcast

inductive Act where
  | receive (snapshot : RoomBroadcast)
  | flush (order : List Snowflake)

namespace World

/-- The newest snapshot of a channel: the pending one, or else the last flushed. -/
def latest (w : World) (channel : Snowflake) : Option RoomBroadcast :=
  match w.loop.pending.lookup channel with
  | some snapshot => some snapshot
  | none => w.lastFlushed channel

/-- A flush drains the pending channels in some order. -/
def step (r : Replica) (w : World) : Act → World
  | .receive snapshot => { w with loop := w.loop.receive snapshot }
  | .flush order =>
      if order.Perm w.loop.pending.keys then ⟨w.loop.flush r order, w.latest⟩ else w

/-- Tagged are the people whom the last flushed snapshot of some channel of the
guild lists. -/
def Follows (r : Replica) (w : World) : Prop :=
  ∀ g u, (g, u) ∈ w.loop.tags.tagged ↔
    ∃ channel snapshot, guildOf r channel = some g ∧ w.lastFlushed channel = some snapshot ∧
      u ∈ snapshot.publishers

/-- The snapshot of a guild that the flush applies last lists everybody whom the
newest snapshot of any channel of the guild lists. -/
def LastCovers (r : Replica) (w : World) : Act → Prop
  | .receive _ => True
  | .flush order => order.Perm w.loop.pending.keys →
      ∀ g last, lastOf r g (w.loop.drained order) = some last →
        ∀ channel snapshot, guildOf r channel = some g → w.latest channel = some snapshot →
          ∀ u ∈ snapshot.publishers, u ∈ last.publishers

/-- A pending snapshot is under its own channel. -/
def Keyed (w : World) : Prop :=
  ∀ channel snapshot, w.loop.pending.lookup channel = some snapshot →
    snapshot.discordChannelId = channel

section Step

variable {r : Replica} {w : World}

theorem keyed_step (a : Act) (hkeyed : Keyed w) : Keyed (step r w a) := by
  intro channel snapshot hpending
  cases a with
  | receive new =>
      change (w.loop.pending.insert new.discordChannelId new).lookup channel = _ at hpending
      rw [AList.lookup_insert_ite] at hpending
      split at hpending
      · next hchannel =>
          obtain rfl := Option.some.inj hpending
          exact hchannel.symm
      · exact hkeyed channel snapshot hpending
  | flush order =>
      unfold step at hpending
      dsimp only at hpending
      split at hpending
      · cases hpending
      · exact hkeyed channel snapshot hpending

/-- What a flush drains is what was pending. -/
theorem mem_drained_iff {order : List Snowflake} (hperm : order.Perm w.loop.pending.keys)
    {snapshot : RoomBroadcast} :
    snapshot ∈ w.loop.drained order ↔
      ∃ channel, w.loop.pending.lookup channel = some snapshot := by
  rw [Loop.drained, List.mem_filterMap]
  constructor
  · rintro ⟨channel, -, hpending⟩
    exact ⟨channel, hpending⟩
  · rintro ⟨channel, hpending⟩
    exact ⟨channel, hperm.mem_iff.mpr (AList.mem_keys_iff.mpr ⟨snapshot, hpending⟩), hpending⟩

/-- A flush that drains no snapshot of the guild changes no newest snapshot of its
channels. -/
theorem latest_of_lastOf_none {order : List Snowflake} {g channel : Snowflake}
    (hkeyed : Keyed w) (hperm : order.Perm w.loop.pending.keys)
    (hlast : lastOf r g (w.loop.drained order) = none) (hguild : guildOf r channel = some g) :
    w.latest channel = w.lastFlushed channel := by
  unfold latest
  cases hpending : w.loop.pending.lookup channel with
  | none => rfl
  | some snapshot =>
      have hmem := (mem_drained_iff hperm).mpr ⟨channel, hpending⟩
      have hne := lastOf_eq_none hlast hmem
      rw [hkeyed channel snapshot hpending] at hne
      exact absurd hguild hne

theorem follows_step_iff (a : Act) (hkeyed : Keyed w) (hfollows : Follows r w) :
    Follows r (step r w a) ↔ LastCovers r w a := by
  cases a with
  | receive snapshot => exact iff_of_true hfollows trivial
  | flush order =>
      by_cases hperm : order.Perm w.loop.pending.keys
      · have hstep : step r w (.flush order) = ⟨w.loop.flush r order, w.latest⟩ := if_pos hperm
        rw [hstep]
        constructor
        · -- after the flush the last flushed snapshot of a channel is its newest one
          intro hafter _ g last hlast channel snapshot hguild hlatest u hu
          have htagged := (hafter g u).mpr ⟨channel, snapshot, hguild, hlatest, hu⟩
          have happlied := (mem_foldl_apply _ _).mp htagged
          rwa [hlast] at happlied
        · intro hcovers g u
          refine (mem_foldl_apply _ _).trans ?_
          cases hlast : lastOf r g (w.loop.drained order) with
          | none =>
              -- the flush does not touch the guild
              refine (hfollows g u).trans ?_
              refine exists_congr fun channel => exists_congr fun snapshot => ?_
              refine and_congr_right fun hguild => ?_
              rw [← latest_of_lastOf_none hkeyed hperm hlast hguild]
          | some last =>
              dsimp only
              constructor
              · intro hu
                obtain ⟨hmem, hguild⟩ := lastOf_eq_some hlast
                obtain ⟨channel, hpending⟩ := (mem_drained_iff hperm).mp hmem
                have hchannel := hkeyed channel last hpending
                subst hchannel
                exact ⟨_, last, hguild, by simp [latest, hpending], hu⟩
              · rintro ⟨channel, snapshot, hguild, hlatest, hu⟩
                exact hcovers hperm g last hlast channel snapshot hguild hlatest u hu
      · rw [show step r w (.flush order) = w from if_neg hperm]
        exact iff_of_true hfollows fun h => absurd h hperm

end Step

/-- The task before its first snapshot, with every tag of a former run taken off. -/
def start : World where
  loop := ⟨∅, ⟨[], []⟩⟩
  lastFlushed := fun _ => none

/-- Throughout a run of snapshots and flushes the tagged members of every guild are
the publishers of its rooms, exactly if in every flush the snapshot of a guild that
is applied last lists the publishers of all rooms of the guild. -/
theorem follows_throughout_iff (r : Replica) (acts : List Act) :
    Runs.Throughout (step r) (Follows r) start acts ↔
      Runs.EachStep (step r) (LastCovers r) start acts := by
  refine Runs.throughout_iff_eachStep (fun _ a hkeyed => keyed_step a hkeyed)
    (fun _ a hkeyed hfollows => follows_step_iff a hkeyed hfollows) ?_ ?_
  · intro channel snapshot hpending
    cases hpending
  · intro g u
    constructor
    · intro htagged
      cases htagged
    · rintro ⟨channel, snapshot, -, hflushed, -⟩
      cases hflushed

/-- At the end of every run the calls made so far have left the tag on exactly the
members the task keeps. -/
theorem faithful_run (r : Replica) (acts : List Act) :
    Faithful (Runs.run (step r) start acts).loop.tags := by
  refine Runs.run_invariant (I := fun w => Faithful w.loop.tags) (fun w a h => ?_)
    (s := start) (fun p => by simp [start, marked]) acts
  cases a with
  | receive snapshot => exact h
  | flush order =>
      unfold step
      dsimp only
      split
      · exact h.flush r order
      · exact h

/-- A guild with two voice channels. -/
private def twoRooms : Replica :=
  Replica.replaceGuild
    { id := 100
      ownerId := 1
      roles := []
      members := ∅
      channels := ((∅ : Table UInt64 Discord.ChannelData).insert 5 ⟨5, "a", []⟩).insert 6
        ⟨6, "b", []⟩
      voice := ∅ } (Replica.new 60)

/-- The person 30 publishes in one room of the guild, and then 31 in the other. -/
private def secondRoomStarts : List Act :=
  [.receive ⟨5, [30], 0⟩, .flush [5], .receive ⟨6, [31], 0⟩, .flush [6]]

/-- The snapshot of the second room takes the tag of the person in the first one. -/
theorem second_room_untags_first :
    ¬ ∀ (r : Replica) (acts : List Act), Runs.Throughout (step r) (Follows r) start acts := by
  intro h
  have hfollows := Runs.throughout_iff_initial.mp (h twoRooms secondRoomStarts)
    secondRoomStarts (List.prefix_refl _)
  have htagged := (hfollows 100 30).mpr ⟨5, ⟨5, [30], 0⟩, by decide, by decide, by decide⟩
  exact absurd htagged (by decide)

end World

end Announce

end Bot
end Ldktela
