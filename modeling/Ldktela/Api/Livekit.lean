import Mathlib.Data.Finset.Card
import Mathlib.Data.Finset.Insert
import Ldktela.Lib.Keyed
import Ldktela.Protocol

/-!
# The publisher ledger and the webhook events

`crates/api/src/livekit.rs`: who holds a publish grant, for each voice channel and
each source, and the parts of a webhook the application acts on.

The strings of a webhook are read once, by `channel`, `user`,
`is_publisher_connection` and `published_source`; an event is modelled by what
these answer.
-/

namespace Ldktela
namespace Api

open Protocol

structure RoomConfig where
  /-- Simultaneous screens for each room. -/
  maxPublishers : Nat
  /-- Simultaneous cameras for each room. -/
  maxCameras : Nat
deriving DecidableEq

/-- The publish slots of one room. -/
structure RoomSlots where
  screens : Finset Uuid
  cameras : Finset Uuid
deriving DecidableEq

namespace RoomSlots

def empty : RoomSlots := ⟨∅, ∅⟩

def holders (room : RoomSlots) : PublicationSource → Finset Uuid
  | .screen => room.screens
  | .camera => room.cameras

def setHolders (source : PublicationSource) (holders : Finset Uuid) (room : RoomSlots) :
    RoomSlots :=
  match source with
  | .screen => { room with screens := holders }
  | .camera => { room with cameras := holders }

def isEmpty (room : RoomSlots) : Bool :=
  decide (room.screens = ∅) && decide (room.cameras = ∅)

variable {source s : PublicationSource}

theorem eq_empty_of_isEmpty {room : RoomSlots} (h : room.isEmpty = true) :
    room = empty := by
  simp only [isEmpty, Bool.and_eq_true, decide_eq_true_eq] at h
  obtain ⟨screens, cameras⟩ := room
  obtain ⟨rfl, rfl⟩ := h
  rfl

@[simp]
theorem holders_empty : empty.holders s = ∅ := by
  cases s with
  | screen => rfl
  | camera => rfl

theorem holders_setHolders (room : RoomSlots) (holders : Finset Uuid) :
    (room.setHolders source holders).holders s =
      if s = source then holders else room.holders s := by
  cases source with
  | screen => cases s with
      | screen => rfl
      | camera => rfl
  | camera => cases s with
      | screen => rfl
      | camera => rfl

end RoomSlots

/-- `publisher_grants`, by channel. -/
abbrev Grants := Table Snowflake RoomSlots

namespace Grants

def ceiling (config : RoomConfig) : PublicationSource → Nat
  | .screen => config.maxPublishers
  | .camera => config.maxCameras

/-- The source is refused to somebody who does not hold it and finds the room
full. -/
def refuses (config : RoomConfig) (room : RoomSlots) (userId : Uuid)
    (source : PublicationSource) : Bool :=
  decide (userId ∉ room.holders source) &&
    decide (ceiling config source ≤ (room.holders source).card)

/-- The slots of the person become exactly the sources in `wanted`. -/
def assign (userId : Uuid) (wanted : List PublicationSource) (room : RoomSlots) : RoomSlots :=
  [PublicationSource.screen, PublicationSource.camera].foldl
    (fun room source =>
      if source ∈ wanted then
        room.setHolders source (insert userId (room.holders source))
      else
        room.setHolders source ((room.holders source).erase userId))
    room

/-- Write a room back, or drop its entry when it is empty. -/
def put (discordChannelId : Snowflake) (room : RoomSlots) (grants : Grants) : Grants :=
  if room.isEmpty then grants.erase discordChannelId else grants.insert discordChannelId room

/-- Makes the ledger say exactly what the client declared it will have live.
Refuses before it changes any slot; the entry of the room is there by then. -/
def claimPublications (config : RoomConfig) (discordChannelId : Snowflake) (userId : Uuid)
    (wanted : List PublicationSource) (grants : Grants) : Grants × Bool :=
  let room := (grants.lookup discordChannelId).getD RoomSlots.empty
  if wanted.any (refuses config room userId) then
    (grants.insert discordChannelId room, false)
  else
    (put discordChannelId (assign userId wanted room) grants, true)

/-- Gives back one source's slot: that publication stopped. -/
def releasePublication (discordChannelId : Snowflake) (userId : Uuid)
    (source : PublicationSource) (grants : Grants) : Grants :=
  match grants.lookup discordChannelId with
  | none => grants
  | some room =>
      put discordChannelId (room.setHolders source ((room.holders source).erase userId)) grants

/-- Gives back every slot this person holds. -/
def releasePublisher (discordChannelId : Snowflake) (userId : Uuid) (grants : Grants) : Grants :=
  match grants.lookup discordChannelId with
  | none => grants
  | some room =>
      put discordChannelId ⟨room.screens.erase userId, room.cameras.erase userId⟩ grants

/-- Drops the publisher ledger of a room the SFU has closed. -/
def forgetRoom (discordChannelId : Snowflake) (grants : Grants) : Grants :=
  grants.erase discordChannelId

/-! ## Who holds what -/

/-- The slots of a room; a room without an entry has none taken. -/
def slots (grants : Grants) (c : Snowflake) : RoomSlots :=
  (grants.lookup c).getD RoomSlots.empty

/-- The person holds a slot of the source in the channel. -/
def Holds (grants : Grants) (c : Snowflake) (u : Uuid) (source : PublicationSource) : Prop :=
  u ∈ (grants.slots c).holders source

instance (grants : Grants) (c : Snowflake) (u : Uuid) (source : PublicationSource) :
    Decidable (grants.Holds c u source) :=
  inferInstanceAs (Decidable (u ∈ (grants.slots c).holders source))

variable {grants : Grants} {c c' : Snowflake} {u v : Uuid} {source s : PublicationSource}

theorem slots_of_lookup {room : RoomSlots} (h : grants.lookup c = some room) :
    grants.slots c = room := by
  rw [slots, h, Option.getD_some]

/-- In a room without an entry nobody holds a slot. -/
theorem not_holds_of_lookup (h : grants.lookup c = none) : ¬ grants.Holds c u s := by
  rw [Holds, slots, h, Option.getD_none, RoomSlots.holders_empty]
  exact Finset.notMem_empty u

/-- Dropping the entry of an empty room changes nobody's slots. -/
theorem slots_put (room : RoomSlots) :
    (put c room grants).slots c' = if c' = c then room else grants.slots c' := by
  unfold put slots
  split
  · next hempty =>
      rw [AList.lookup_erase_ite]
      split
      · rw [RoomSlots.eq_empty_of_isEmpty hempty]
        rfl
      · rfl
  · rw [AList.lookup_insert_ite]
    split
    · rfl
    · rfl

theorem holds_releasePublication :
    (releasePublication c u source grants).Holds c' v s ↔
      grants.Holds c' v s ∧ ¬ (c' = c ∧ v = u ∧ s = source) := by
  unfold releasePublication
  cases hroom : grants.lookup c with
  | none =>
      refine (and_iff_left_of_imp fun h => ?_).symm
      rintro ⟨rfl, -, -⟩
      exact not_holds_of_lookup hroom h
  | some room =>
      dsimp only
      unfold Holds
      rw [slots_put]
      by_cases hc : c' = c
      · subst hc
        rw [if_pos rfl, RoomSlots.holders_setHolders, slots_of_lookup hroom]
        by_cases hs : s = source
        · subst hs
          simp [and_comm]
        · simp [hs]
      · simp [hc]

theorem holds_releasePublisher :
    (releasePublisher c u grants).Holds c' v s ↔ grants.Holds c' v s ∧ ¬ (c' = c ∧ v = u) := by
  unfold releasePublisher
  cases hroom : grants.lookup c with
  | none =>
      refine (and_iff_left_of_imp fun h => ?_).symm
      rintro ⟨rfl, -⟩
      exact not_holds_of_lookup hroom h
  | some room =>
      dsimp only
      unfold Holds
      rw [slots_put]
      by_cases hc : c' = c
      · subst hc
        rw [if_pos rfl, slots_of_lookup hroom]
        cases s with
        | screen => simp [RoomSlots.holders, and_comm]
        | camera => simp [RoomSlots.holders, and_comm]
      · simp [hc]

theorem holds_forgetRoom :
    (forgetRoom c grants).Holds c' v s ↔ grants.Holds c' v s ∧ c' ≠ c := by
  unfold forgetRoom Holds slots
  rw [AList.lookup_erase_ite]
  by_cases hc : c' = c
  · simp [hc]
  · simp [hc]

/-- After an assignment the person holds exactly what they wanted, and nobody
else's slots have moved. -/
theorem mem_holders_assign (wanted : List PublicationSource) (room : RoomSlots) :
    v ∈ (assign u wanted room).holders s ↔
      if v = u then s ∈ wanted else v ∈ room.holders s := by
  have hone : ∀ (source : PublicationSource) (room : RoomSlots),
      v ∈ (if source ∈ wanted then room.setHolders source (insert u (room.holders source))
          else room.setHolders source ((room.holders source).erase u)).holders s ↔
        if v = u ∧ s = source then source ∈ wanted else v ∈ room.holders s := by
    intro source room
    by_cases hs : s = source
    · subst hs
      by_cases hv : v = u
      · by_cases hwanted : s ∈ wanted
        · simp [hv, hwanted, RoomSlots.holders_setHolders]
        · simp [hv, hwanted, RoomSlots.holders_setHolders]
      · by_cases hwanted : s ∈ wanted
        · simp [hv, hwanted, RoomSlots.holders_setHolders]
        · simp [hv, hwanted, RoomSlots.holders_setHolders]
    · by_cases hwanted : source ∈ wanted
      · simp [hs, hwanted, RoomSlots.holders_setHolders]
      · simp [hs, hwanted, RoomSlots.holders_setHolders]
  unfold assign
  rw [List.foldl_cons, List.foldl_cons, List.foldl_nil, hone, hone]
  cases s with
  | screen =>
      by_cases hv : v = u
      · simp [hv]
      · simp [hv]
  | camera =>
      by_cases hv : v = u
      · simp [hv]
      · simp [hv]

/-- A claim that is granted makes the person hold exactly what they wanted; a
claim that is refused moves no slot. -/
theorem holds_claimPublications (config : RoomConfig) (wanted : List PublicationSource) :
    (claimPublications config c u wanted grants).1.Holds c' v s ↔
      if (claimPublications config c u wanted grants).2 = true ∧ c' = c ∧ v = u then s ∈ wanted
      else grants.Holds c' v s := by
  unfold claimPublications Holds
  dsimp only
  split
  · have hsame : ∀ room, (grants.lookup c).getD RoomSlots.empty = room →
        slots (grants.insert c room) c' = grants.slots c' := by
      rintro room rfl
      unfold slots
      rw [AList.lookup_insert_ite]
      by_cases hc : c' = c
      · subst hc
        simp
      · simp [hc]
    rw [hsame _ rfl]
    simp
  · rw [slots_put]
    by_cases hc : c' = c
    · subst hc
      rw [if_pos rfl, mem_holders_assign]
      by_cases hv : v = u
      · simp [hv]
      · simp only [hv, if_false, and_false]
        rfl
    · simp [hc]

end Grants

/-! ## Webhook events -/

inductive EventKind where
  | participantJoined
  | participantLeft
  | trackPublished
  | trackUnpublished
  | roomFinished
  | other
deriving DecidableEq

inductive TrackSource where
  | screenShare
  | screenShareAudio
  | camera
  | other
deriving DecidableEq

/-- The identity of a participant: whose it is, if it parses, and whether it
carries the suffix of the publishing connection. -/
structure Identity where
  user : Option Uuid
  isPublisher : Bool
deriving DecidableEq

/-- The parts of a webhook this application acts on. -/
structure WebhookEvent where
  kind : EventKind
  /-- The voice channel, if the room is one of ours. -/
  channel : Option Snowflake
  identity : Option Identity
  trackSource : Option TrackSource
deriving DecidableEq

namespace WebhookEvent

def user (event : WebhookEvent) : Option Uuid :=
  event.identity.bind fun identity => identity.user

def isPublisherConnection (event : WebhookEvent) : Bool :=
  match event.identity with
  | some identity => identity.isPublisher
  | none => false

/-- Which publication this track event is about, if any.  The audio of a screen
has no publication of its own. -/
def publishedSource (event : WebhookEvent) : Option PublicationSource :=
  match event.trackSource with
  | some .screenShare => some .screen
  | some .camera => some .camera
  | some .screenShareAudio => none
  | some .other => none
  | none => none

end WebhookEvent

end Api
end Ldktela
