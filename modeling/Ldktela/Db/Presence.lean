import Mathlib.Data.List.Dedup
import Mathlib.Data.List.Sort
import Ldktela.Lib.Keyed
import Ldktela.Protocol

/-!
# `room_presence`

`crates/db/src/repo/presence.rs`: who is in which room right now.  The primary
key is the user, so a person has at most one row, and the statements that end a
publication or a stay are keyed by the user alone.

Each repository function is one SQL statement.  It is a function on the table;
one with a `RETURNING` clause also answers with what the statement returned.
-/

namespace Ldktela
namespace Db

open Protocol

/-- The profile of a person, as the queries join it. -/
structure UserRow where
  discordUserId : Snowflake
  username : String
  displayName : Option String
  avatarUrl : Option String
deriving DecidableEq

abbrev Users := Table Uuid UserRow

structure PresenceRow where
  discordChannelId : Snowflake
  /-- Transmits something. -/
  publishing : Bool
  joinedAt : Timestamp
  /-- When the screen went live; `none` when it is not on the air. -/
  screenSince : Option Timestamp
  /-- When the camera went live; `none` when it is not on the air. -/
  cameraSince : Option Timestamp
deriving DecidableEq

abbrev Presence := Table Uuid PresenceRow

/-- The source that is not this one. -/
def other : PublicationSource → PublicationSource
  | .screen => .camera
  | .camera => .screen

namespace PresenceRow

/-- The start column of a source. -/
def since (row : PresenceRow) : PublicationSource → Option Timestamp
  | .screen => row.screenSince
  | .camera => row.cameraSince

def setSince (source : PublicationSource) (value : Option Timestamp) (row : PresenceRow) :
    PresenceRow :=
  match source with
  | .screen => { row with screenSince := value }
  | .camera => { row with cameraSince := value }

/-- The row after one publication went live; the clock of a source that is
already on the air is kept. -/
def start (now : Timestamp) (source : PublicationSource) (row : PresenceRow) :
    PresenceRow :=
  { row.setSince source (some ((row.since source).getD now)) with publishing := true }

/-- The row after one publication ended. -/
def stop (source : PublicationSource) (row : PresenceRow) : PresenceRow :=
  { row.setSince source none with publishing := (row.since (other source)).isSome }

/-- The row after everything the person transmits was stopped. -/
def clear (row : PresenceRow) : PresenceRow :=
  { row with screenSince := none, cameraSince := none, publishing := false }

variable (now : Timestamp) (source s : PublicationSource) (row : PresenceRow)

@[simp]
theorem start_discordChannelId :
    (row.start now source).discordChannelId = row.discordChannelId := by
  cases source with
  | screen => rfl
  | camera => rfl

@[simp]
theorem start_publishing : (row.start now source).publishing = true := rfl

theorem since_start :
    (row.start now source).since s =
      if s = source then some ((row.since source).getD now) else row.since s := by
  cases source with
  | screen => cases s with
      | screen => rfl
      | camera => rfl
  | camera => cases s with
      | screen => rfl
      | camera => rfl

@[simp]
theorem stop_discordChannelId : (row.stop source).discordChannelId = row.discordChannelId := by
  cases source with
  | screen => rfl
  | camera => rfl

@[simp]
theorem stop_publishing : (row.stop source).publishing = (row.since (other source)).isSome := rfl

theorem since_stop :
    (row.stop source).since s = if s = source then none else row.since s := by
  cases source with
  | screen => cases s with
      | screen => rfl
      | camera => rfl
  | camera => cases s with
      | screen => rfl
      | camera => rfl

@[simp]
theorem since_clear : row.clear.since s = none := by
  cases s with
  | screen => rfl
  | camera => rfl

end PresenceRow

/-- One participant, joined with the profile needed to render them. -/
structure ParticipantRow where
  userId : Uuid
  profile : UserRow
  row : PresenceRow
deriving DecidableEq

/-- The publications of a participant: screen, then camera. -/
def publicationsOf (row : PresenceRow) : List Publication :=
  [PublicationSource.screen, PublicationSource.camera].filterMap fun source =>
    (row.since source).map fun since => ⟨source, since⟩

def ParticipantRow.toWire (p : ParticipantRow) : RoomParticipant where
  user := ⟨p.userId, p.profile.discordUserId, p.profile.username, p.profile.displayName,
    p.profile.avatarUrl⟩
  publications := publicationsOf p.row

/-- The channel a publication belongs to, and when it went live. -/
structure StartedPublication where
  discordChannelId : Snowflake
  since : Timestamp
deriving DecidableEq

/-- The channel a publication belonged to, and whether anything is left. -/
structure StoppedPublication where
  discordChannelId : Snowflake
  stillPublishing : Bool
deriving DecidableEq

/-- What the person was transmitting when everything was stopped at once. -/
structure ClearedPublications where
  discordChannelId : Snowflake
  hadScreen : Bool
  hadCamera : Bool
deriving DecidableEq

/-- The sources that were live, in tile order. -/
def ClearedPublications.sources (cleared : ClearedPublications) : List PublicationSource :=
  (if cleared.hadScreen then [PublicationSource.screen] else []) ++
    if cleared.hadCamera then [PublicationSource.camera] else []

namespace Presence

/-- Put a user in a room, or move them to a different one. -/
def join (now : Timestamp) (userId : Uuid) (discordChannelId : Snowflake) (t : Presence) :
    Presence :=
  t.insert userId ⟨discordChannelId, false, now, none, none⟩

/-- Remove a user from whatever room they were in. -/
def leave (userId : Uuid) (t : Presence) : Presence × Option Snowflake :=
  (t.erase userId, (t.lookup userId).map fun row => row.discordChannelId)

/-- One publication going live. -/
def startPublication (now : Timestamp) (userId : Uuid) (source : PublicationSource)
    (t : Presence) : Presence × Option StartedPublication :=
  (t.modify userId (PresenceRow.start now source),
    (t.lookup userId).map fun row =>
      ⟨row.discordChannelId, (row.since source).getD now⟩)

/-- One publication ending. -/
def stopPublication (userId : Uuid) (source : PublicationSource) (t : Presence) :
    Presence × Option StoppedPublication :=
  (t.modify userId (PresenceRow.stop source),
    (t.lookup userId).map fun row =>
      ⟨row.discordChannelId, (row.since (other source)).isSome⟩)

/-- Stops everything this person transmits, and says what was on the air. -/
def clearPublications (userId : Uuid) (t : Presence) : Presence × Option ClearedPublications :=
  (t.modify userId PresenceRow.clear,
    (t.lookup userId).map fun row =>
      ⟨row.discordChannelId, row.screenSince.isSome, row.cameraSince.isSome⟩)

/-- The rows of a room with their profiles, oldest first. -/
def listByChannel (users : Users) (discordChannelId : Snowflake) (t : Presence) :
    List ParticipantRow :=
  let rows := t.entries.filterMap fun e =>
    if e.2.discordChannelId = discordChannelId then
      (users.lookup e.1).map fun profile => ⟨e.1, profile, e.2⟩
    else
      none
  rows.insertionSort fun p q => p.row.joinedAt ≤ q.row.joinedAt

/-- Which room a user is in, if any. -/
def channelOf (userId : Uuid) (t : Presence) : Option Snowflake :=
  (t.lookup userId).map fun row => row.discordChannelId

/-- Every room that has someone in it. -/
def occupiedChannels (t : Presence) : List Snowflake :=
  (t.vals.map fun row => row.discordChannelId).dedup

/-- Empty a room. -/
def clearChannel (discordChannelId : Snowflake) (t : Presence) : Presence :=
  t.retain fun _ row => row.discordChannelId ≠ discordChannelId

/-! ## What the statements leave behind -/

variable {t : Presence} {users : Users} {u v : Uuid} {c : Snowflake}

theorem lookup_join (now : Timestamp) :
    (join now u c t).lookup v =
      if v = u then some ⟨c, false, now, none, none⟩ else t.lookup v :=
  AList.lookup_insert_ite t u v _

theorem lookup_leave :
    (leave u t).1.lookup v = if v = u then none else t.lookup v :=
  AList.lookup_erase_ite t u v

theorem lookup_startPublication (now : Timestamp) (source : PublicationSource) :
    (startPublication now u source t).1.lookup v =
      if v = u then (t.lookup v).map (PresenceRow.start now source) else t.lookup v :=
  AList.lookup_modify t u v _

theorem lookup_stopPublication (source : PublicationSource) :
    (stopPublication u source t).1.lookup v =
      if v = u then (t.lookup v).map (PresenceRow.stop source) else t.lookup v :=
  AList.lookup_modify t u v _

theorem lookup_clearPublications :
    (clearPublications u t).1.lookup v =
      if v = u then (t.lookup v).map PresenceRow.clear else t.lookup v :=
  AList.lookup_modify t u v _

/-- What a rewrite of the row of one person leaves behind, when they have the row
`row`. -/
theorem lookup_rewritten {row : PresenceRow} (hrow : t.lookup u = some row)
    (f : PresenceRow → PresenceRow) :
    (if v = u then (t.lookup v).map f else t.lookup v) =
      if v = u then some (f row) else t.lookup v := by
  split
  · next heq => rw [heq, hrow, Option.map_some]
  · rfl

theorem lookup_clearChannel :
    (clearChannel c t).lookup v =
      (t.lookup v).filter (fun row => row.discordChannelId ≠ c) :=
  AList.lookup_retain t _ v

theorem mem_listByChannel {p : ParticipantRow} :
    p ∈ listByChannel users c t ↔
      t.lookup p.userId = some p.row ∧ p.row.discordChannelId = c ∧
        users.lookup p.userId = some p.profile := by
  unfold listByChannel
  rw [List.mem_insertionSort, List.mem_filterMap]
  constructor
  · rintro ⟨⟨user, row⟩, he, hif⟩
    split at hif
    · next hc =>
        obtain ⟨profile, hprofile, rfl⟩ := Option.map_eq_some_iff.mp hif
        exact ⟨AList.mem_entries_iff.mp he, hc, hprofile⟩
    · cases hif
  · rintro ⟨hrow, hc, hprofile⟩
    exact ⟨⟨p.userId, p.row⟩, AList.mem_entries_iff.mpr hrow, by simp [hc, hprofile]⟩

/-- Nobody is listed twice. -/
theorem nodup_listByChannel : ((listByChannel users c t).map ParticipantRow.userId).Nodup := by
  unfold listByChannel
  refine ((List.perm_insertionSort _ _).map _).nodup_iff.mpr ?_
  -- the ids that are listed are some of the keys, in their order
  refine List.Nodup.sublist ?_ t.keys_nodup
  unfold AList.keys List.keys
  induction t.entries with
  | nil => exact List.Sublist.refl _
  | cons e l ih =>
      rw [List.filterMap_cons, List.map_cons]
      split
      · exact ih.cons e.1
      · next p hp =>
        have hid : p.userId = e.1 := by
          split at hp
          · obtain ⟨profile, -, rfl⟩ := Option.map_eq_some_iff.mp hp
            rfl
          · cases hp
        rw [List.map_cons, hid]
        exact ih.cons_cons e.1

theorem mem_occupiedChannels :
    c ∈ occupiedChannels t ↔ ∃ user row, t.lookup user = some row ∧ row.discordChannelId = c := by
  unfold occupiedChannels
  rw [List.mem_dedup, List.mem_map]
  constructor
  · rintro ⟨row, hrow, rfl⟩
    obtain ⟨user, huser⟩ := AList.mem_vals_iff.mp hrow
    exact ⟨user, row, huser, rfl⟩
  · rintro ⟨user, row, huser, rfl⟩
    exact ⟨row, AList.mem_vals_iff.mpr ⟨user, huser⟩, rfl⟩

end Presence

end Db
end Ldktela
