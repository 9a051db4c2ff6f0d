import Ldktela.Api.InFlight
import Ldktela.Db.PublishingFlag
import Ldktela.Desktop.RoomView
import Ldktela.Gateway.Ready

/-!
# Standing in a room, in the table and on the client

A row of `room_presence` gives its person a standing in one room, and none in the
others.  `Announced` relates the write of a webhook handler to the events it leaves to
be published: they tell exactly what the write did, to the person it did it to.
`view_ready` is the same for the room of a READY, which shows the standings it read.
-/

namespace Ldktela
namespace Gateway

open Protocol
open Db
open Desktop
open Desktop.RoomSnapshot
open Api.Rooms

/-- The standing that a row gives its person in the room of a channel. -/
def standingOf (channel : Snowflake) (row : Option PresenceRow) : Standing :=
  (row.filter fun row => row.discordChannelId = channel).map PresenceRow.since

def standingIn (channel : Snowflake) (presence : Presence) (user : Uuid) : Standing :=
  standingOf channel (presence.lookup user)

/-- Every row is of a person the database knows: the foreign key. -/
def KnownOnly (users : Users) (presence : Presence) : Prop :=
  ∀ user row, presence.lookup user = some row → (users.lookup user).isSome

/-- The profile is the one the database has. -/
def ProfileIn (users : Users) (user : Uuid) (summary : UserSummary) : Prop :=
  ∃ profile, users.lookup user = some profile ∧ summary = userSummary user profile

/-- What the events that are still to be published say about a person in a room, in
the order of their writes. -/
def pendingOf (channel : Snowflake) (user : Uuid) (handlers : List Handler) :
    List DispatchEvent :=
  (handlers.filter fun h => h.channel = channel ∧ h.userId = user).flatMap fun h => h.events

/-- The event is about the person and the room of the handler, and carries what the
tables have. -/
structure Speaks (users : Users) (h : Handler) (event : DispatchEvent) : Prop where
  subject : subject event = some (h.channel, h.userId)
  listsOnce : Carries ListsOnce event
  profile : Carries (fun p => ProfileIn users p.user.id p.user) event

/-- What was written is what the events of the handler say. -/
structure Announced (users : Users) (channel : Snowflake) (presence : Presence)
    (written : Presence × Option Handler) : Prop where
  known : KnownOnly users presence → KnownOnly users written.1
  standing : ∀ user, standingIn channel written.1 user =
    (pendingOf channel user written.2.toList).foldl told (standingIn channel presence user)
  speaks : ∀ h, written.2 = some h → ∀ event ∈ h.events, Speaks users h event

section Write

variable {users : Users} {channel c : Snowflake} {presence presence' : Presence} {u : Uuid}
  {h : Handler} {row row' : PresenceRow} {now : Timestamp} {source : PublicationSource}

theorem standingOf_some :
    standingOf channel (some row) =
      if row.discordChannelId = channel then some row.since else none := by
  unfold standingOf
  by_cases hc : row.discordChannelId = channel
  · simp [hc]
  · simp [hc]

theorem pendingOf_append (handlers more : List Handler) :
    pendingOf channel u (handlers ++ more) =
      pendingOf channel u handlers ++ pendingOf channel u more := by
  simp [pendingOf]

theorem pendingOf_cons (handlers : List Handler) :
    pendingOf channel u (h :: handlers) =
      pendingOf channel u [h] ++ pendingOf channel u handlers :=
  pendingOf_append [h] handlers

theorem pendingOf_singleton :
    pendingOf channel u [h] = if h.channel = channel ∧ h.userId = u then h.events else [] := by
  unfold pendingOf
  by_cases hmatch : h.channel = channel ∧ h.userId = u
  · simp [hmatch]
  · simp [hmatch]

/-- A handler publishes its next event, which is the next one about its person. -/
theorem pendingOf_set {handlers : List Handler} {i : Nat} {event : DispatchEvent}
    {rest : List DispatchEvent} (hi : handlers[i]? = some h) (hevents : h.events = event :: rest)
    (hfirst : h.channel = channel → ∀ earlier ∈ handlers.take i,
      earlier.channel = h.channel → earlier.userId = h.userId → earlier.events = [])
    (user : Uuid) :
    pendingOf channel user handlers =
      (if h.channel = channel ∧ h.userId = user then [event] else []) ++
        pendingOf channel user (handlers.set i { h with events := rest }) := by
  obtain ⟨hlt, hget⟩ := List.getElem?_eq_some_iff.mp hi
  have hsplit : handlers = handlers.take i ++ h :: handlers.drop (i + 1) := by
    rw [← hget, ← List.drop_eq_getElem_cons hlt, List.take_append_drop]
  have hset : handlers.set i { h with events := rest } =
      handlers.take i ++ { h with events := rest } :: handlers.drop (i + 1) := by
    rw [List.set_eq_take_append_cons_drop, if_pos hlt]
  rw [hset, pendingOf_append, pendingOf_cons]
  conv_lhs => rw [hsplit, pendingOf_append, pendingOf_cons]
  rw [pendingOf_singleton, pendingOf_singleton]
  by_cases hmatch : h.channel = channel ∧ h.userId = user
  · have hnone : pendingOf channel user (handlers.take i) = [] := by
      unfold pendingOf
      rw [List.flatMap_eq_nil_iff]
      intro earlier hearlier
      obtain ⟨hmem, hboth⟩ := List.mem_filter.mp hearlier
      have hsame := of_decide_eq_true hboth
      exact hfirst hmatch.1 earlier hmem (hsame.1.trans hmatch.1.symm)
        (hsame.2.trans hmatch.2.symm)
    simp [hmatch, hnone, hevents]
  · simp [hmatch]

/-- A handler that writes nothing. -/
theorem Announced.unwritten : Announced users channel presence (presence, none) where
  known hknown := hknown
  standing user := by simp [pendingOf]
  speaks h hh := by cases hh

/-- One row is written, and the events say what became of the standing it gives. -/
theorem Announced.of_lookup {written : Option PresenceRow}
    (hlookup : ∀ v, presence'.lookup v = if v = h.userId then written else presence.lookup v)
    (hknown : written.isSome → KnownOnly users presence → (users.lookup h.userId).isSome)
    (hstanding : standingOf channel written =
      (if h.channel = channel then h.events else []).foldl told
        (standingOf channel (presence.lookup h.userId)))
    (hspeaks : ∀ event ∈ h.events, Speaks users h event) :
    Announced users channel presence (presence', some h) where
  known hall v row hrow := by
    dsimp only at hrow
    rw [hlookup] at hrow
    split at hrow
    · next hv => exact hv ▸ hknown (by simp [hrow]) hall
    · exact hall v row hrow
  standing v := by
    simp only [Option.toList_some, standingIn, hlookup, pendingOf_singleton]
    by_cases hv : v = h.userId
    · subst hv
      simpa using hstanding
    · simp [hv, Ne.symm hv]
  speaks h' hh' := by
    cases hh'
    exact hspeaks

/-- A row is rewritten where it is. -/
theorem Announced.of_rewrite (hrow : presence.lookup h.userId = some row)
    (hlookup : ∀ v, presence'.lookup v = if v = h.userId then some row' else presence.lookup v)
    (hchannel : row'.discordChannelId = row.discordChannelId)
    (htold : h.events.foldl told (some row.since) = some row'.since)
    (habsent : h.events.foldl told none = none)
    (hhere : h.channel = channel ∨ row.discordChannelId ≠ channel)
    (hspeaks : ∀ event ∈ h.events, Speaks users h event) :
    Announced users channel presence (presence', some h) := by
  have hstanding : standingOf channel (some row') =
      (if h.channel = channel then h.events else []).foldl told
        (standingOf channel (presence.lookup h.userId)) := by
    rw [hrow, standingOf_some, standingOf_some, hchannel]
    by_cases hrowHere : row.discordChannelId = channel
    · have hmine : h.channel = channel := hhere.resolve_right (not_not.mpr hrowHere)
      simp [hrowHere, hmine, htold]
    · by_cases hmine : h.channel = channel
      · simp [hrowHere, hmine, habsent]
      · simp [hrowHere, hmine]
  exact Announced.of_lookup hlookup (fun _ hall => hall _ row hrow) hstanding hspeaks

/-- The row of the person, if any, is not in this room, unless the handler is of it. -/
def FindsNoRowHere (channel c : Snowflake) (presence : Presence) (u : Uuid) : Prop :=
  c = channel ∨ Presence.channelOf u presence ≠ some channel

instance : Decidable (FindsNoRowHere channel c presence u) :=
  inferInstanceAs (Decidable (_ ∨ _))

theorem FindsNoRowHere.of_row (hhere : FindsNoRowHere channel c presence u)
    (hrow : presence.lookup u = some row) : c = channel ∨ row.discordChannelId ≠ channel := by
  unfold FindsNoRowHere Presence.channelOf at hhere
  simpa [hrow] using hhere

theorem FindsNoRowHere.standing (hhere : FindsNoRowHere channel c presence u)
    (hc : c ≠ channel) : standingOf channel (presence.lookup u) = none := by
  cases hrow : presence.lookup u with
  | none => rfl
  | some row =>
      rw [standingOf_some, if_neg ((hhere.of_row hrow).resolve_left hc)]

theorem announced_writeLeave (l : Leaving)
    (hhere : FindsNoRowHere channel l.channel presence l.userId) :
    Announced users channel presence (writeLeave l presence) := by
  unfold writeLeave
  refine Announced.of_lookup (fun v => Presence.lookup_leave) ?_ ?_ ?_
  · intro hsome
    cases hsome
  · by_cases hc : l.channel = channel
    · simp [hc, told, standingOf]
    · simp only [hc, if_false, List.foldl_nil, hhere.standing hc]
      rfl
  · intro event hevent
    rw [List.mem_singleton.mp hevent]
    exact ⟨rfl, trivial, trivial⟩

theorem announced_joined (hhere : FindsNoRowHere channel c presence u) :
    Announced users channel presence (write users now presence (.joined c u)) := by
  cases huser : users.lookup u with
  | none => simpa [write, huser] using Announced.unwritten
  | some profile =>
      simp only [write, huser]
      refine Announced.of_lookup (fun v => Presence.lookup_join now) ?_ ?_ ?_
      · intro _ _
        simp [huser]
      · by_cases hc : c = channel
        · simp only [hc, if_true, List.foldl_cons, List.foldl_nil, told, standingOf_some]
          congr 1
          funext source
          cases source with
          | screen => rfl
          | camera => rfl
        · simp [hc, hhere.standing hc, standingOf_some]
      · intro event hevent
        rw [List.mem_singleton.mp hevent]
        exact ⟨rfl, List.nodup_nil, profile, huser, rfl⟩

theorem announced_shareStarted (hhere : FindsNoRowHere channel c presence u) :
    Announced users channel presence (write users now presence (.shareStarted c u source)) := by
  cases hrow : presence.lookup u with
  | none => simpa [write, Presence.startPublication, hrow] using Announced.unwritten
  | some row =>
      simp only [write, Presence.startPublication, hrow, Option.map_some]
      refine Announced.of_rewrite hrow
        (fun v => (Presence.lookup_startPublication now source).trans
          (Presence.lookup_rewritten hrow _)) ?_ ?_ ?_ ?_ ?_
      · exact PresenceRow.start_discordChannelId now source row
      · simp only [List.foldl_cons, List.foldl_nil, told, Option.map_some]
        congr 1
        funext s
        rw [PresenceRow.since_start, Function.update_apply]
      · rfl
      · exact hhere.of_row hrow
      · intro event hevent
        rw [List.mem_singleton.mp hevent]
        exact ⟨rfl, trivial, trivial⟩

theorem announced_shareStopped (hhere : FindsNoRowHere channel c presence u) :
    Announced users channel presence (write users now presence (.shareStopped c u source)) := by
  cases hrow : presence.lookup u with
  | none => simpa [write, Presence.stopPublication, hrow] using Announced.unwritten
  | some row =>
      simp only [write, Presence.stopPublication, hrow, Option.map_some]
      refine Announced.of_rewrite hrow
        (fun v => (Presence.lookup_stopPublication source).trans
          (Presence.lookup_rewritten hrow _)) ?_ ?_ ?_ ?_ ?_
      · exact PresenceRow.stop_discordChannelId source row
      · simp only [List.foldl_cons, List.foldl_nil, told, Option.map_some]
        congr 1
        funext s
        rw [PresenceRow.since_stop, Function.update_apply]
      · rfl
      · exact hhere.of_row hrow
      · intro event hevent
        rw [List.mem_singleton.mp hevent]
        exact ⟨rfl, trivial, trivial⟩

theorem foldl_told_shareStop (sources : List PublicationSource)
    (since : PublicationSource → Option Timestamp) :
    (sources.map fun source => DispatchEvent.shareStop ⟨c, u, source⟩).foldl told (some since) =
      some fun s => if s ∈ sources then none else since s := by
  induction sources generalizing since with
  | nil => simp
  | cons source sources ih =>
      rw [List.map_cons, List.foldl_cons, told, Option.map_some, ih]
      congr 1
      funext s
      by_cases hs : s = source
      · simp [hs]
      · simp [hs]

theorem announced_publisherGone (hhere : FindsNoRowHere channel c presence u) :
    Announced users channel presence (write users now presence (.publisherGone c u)) := by
  cases hrow : presence.lookup u with
  | none => simpa [write, Presence.clearPublications, hrow] using Announced.unwritten
  | some row =>
      simp only [write, Presence.clearPublications, hrow, Option.map_some]
      refine Announced.of_rewrite hrow
        (fun v => Presence.lookup_clearPublications.trans (Presence.lookup_rewritten hrow _))
        ?_ ?_ ?_ ?_ ?_
      · rfl
      · rw [foldl_told_shareStop]
        congr 1
        funext s
        rw [PresenceRow.since_clear]
        -- a source that gets no event was not on the air
        by_cases hs : (row.since s).isSome
        · rw [if_pos (ClearedPublications.mem_sources.mpr hs)]
        · rw [if_neg (fun hmem => hs (ClearedPublications.mem_sources.mp hmem))]
          simpa using hs
      · generalize ClearedPublications.sources _ = sources
        induction sources with
        | nil => rfl
        | cons source sources ih => exact ih
      · exact hhere.of_row hrow
      · intro event hevent
        obtain ⟨source, -, rfl⟩ := List.mem_map.mp hevent
        exact ⟨rfl, trivial, trivial⟩

theorem announced_finished (hc : c ≠ channel) :
    Announced users channel presence (write users now presence (.finished c)) where
  known hall v row hrow := by
    simp only [write, Presence.lookup_clearChannel] at hrow
    exact hall v row (Option.filter_eq_some_iff.mp hrow).1
  standing v := by
    show standingOf channel ((Presence.clearChannel c presence).lookup v) = _
    rw [Presence.lookup_clearChannel]
    unfold standingIn
    cases presence.lookup v with
    | none => rfl
    | some row =>
        by_cases hrow : row.discordChannelId = c
        · simp [Option.filter_some, hrow, write, pendingOf, standingOf, hc]
        · simp [Option.filter_some, hrow, write, pendingOf]
  speaks h hh := by cases hh

end Write

/-! ## The table as the room lists it -/

/-- The participant that a listing of the room has for a person. -/
def participantOf (users : Users) (channel : Snowflake) (presence : Presence) (user : Uuid) :
    Option RoomParticipant :=
  ((Presence.listByChannel users channel presence).find? fun p => p.userId = user).map
    ParticipantRow.toWire

section Listing

variable {users : Users} {channel : Snowflake} {presence : Presence} {u : Uuid}
  {p : ParticipantRow}

theorem mem_publicationsOf {row : PresenceRow} {source : PublicationSource} {since : Timestamp} :
    ⟨source, since⟩ ∈ Db.publicationsOf row ↔ row.since source = some since := by
  unfold Db.publicationsOf
  rw [List.mem_filterMap]
  constructor
  · rintro ⟨s, -, hs⟩
    obtain ⟨t, ht, heq⟩ := Option.map_eq_some_iff.mp hs
    cases heq
    exact ht
  · intro hsince
    have hlisted : source ∈ [PublicationSource.screen, PublicationSource.camera] := by
      cases source with
      | screen => simp
      | camera => simp
    exact ⟨source, hlisted, by rw [hsince, Option.map_some]⟩

theorem listsOnce_toWire : ListsOnce p.toWire := by
  unfold ListsOnce ParticipantRow.toWire Db.publicationsOf
  cases hscreen : p.row.screenSince with
  | none => cases hcamera : p.row.cameraSince with
      | none => simp [PresenceRow.since, hscreen, hcamera]
      | some since => simp [PresenceRow.since, hscreen, hcamera]
  | some since => cases hcamera : p.row.cameraSince with
      | none => simp [PresenceRow.since, hscreen, hcamera]
      | some since => simp [PresenceRow.since, hscreen, hcamera]

/-- On the wire each source has the clock of its column. -/
theorem publicationSince_toWire : publicationSince p.toWire = p.row.since := by
  funext source
  apply Option.ext
  intro since
  rw [publicationSince_eq_some_iff listsOnce_toWire]
  exact mem_publicationsOf

theorem find?_listByChannel :
    ((Presence.listByChannel users channel presence).find? fun p => p.userId = u) = some p ↔
      p ∈ Presence.listByChannel users channel presence ∧ p.userId = u := by
  constructor
  · intro hfound
    exact ⟨List.mem_of_find?_eq_some hfound, by simpa using List.find?_some hfound⟩
  · rintro ⟨hmem, hu⟩
    cases hfound :
        (Presence.listByChannel users channel presence).find? fun p => p.userId = u with
    | none =>
        have hne := List.find?_eq_none.mp hfound p hmem
        exact absurd hu (by simpa using hne)
    | some q =>
        -- a person has one row
        have hq : q.userId = u := by simpa using List.find?_some hfound
        obtain ⟨hrow, -, hprofile⟩ := Presence.mem_listByChannel.mp hmem
        obtain ⟨hrow', -, hprofile'⟩ :=
          Presence.mem_listByChannel.mp (List.mem_of_find?_eq_some hfound)
        rw [hu] at hrow hprofile
        rw [hq] at hrow' hprofile'
        cases p
        cases q
        simp_all

theorem participantOf_eq_some_iff {q : RoomParticipant} :
    participantOf users channel presence u = some q ↔
      ∃ row profile, presence.lookup u = some row ∧ row.discordChannelId = channel ∧
        users.lookup u = some profile ∧ q = ParticipantRow.toWire ⟨u, profile, row⟩ := by
  unfold participantOf
  rw [Option.map_eq_some_iff]
  simp only [find?_listByChannel, Presence.mem_listByChannel]
  constructor
  · rintro ⟨p, ⟨⟨hrow, hc, hprofile⟩, rfl⟩, rfl⟩
    exact ⟨p.row, p.profile, hrow, hc, hprofile, rfl⟩
  · rintro ⟨row, profile, hrow, hc, hprofile, rfl⟩
    exact ⟨⟨u, profile, row⟩, ⟨⟨hrow, hc, hprofile⟩, rfl⟩, rfl⟩

/-- The standing in the table is that of the participant that is listed. -/
theorem standingIn_eq (hknown : KnownOnly users presence) :
    standingIn channel presence u =
      (participantOf users channel presence u).map publicationSince := by
  unfold standingIn
  cases hlisted : participantOf users channel presence u with
  | some q =>
      obtain ⟨row, profile, hrow, hc, hprofile, rfl⟩ := participantOf_eq_some_iff.mp hlisted
      rw [hrow, standingOf_some, if_pos hc, Option.map_some, publicationSince_toWire]
  | none =>
      cases hrow : presence.lookup u with
      | none => rfl
      | some row =>
          obtain ⟨profile, hprofile⟩ := Option.isSome_iff_exists.mp (hknown u row hrow)
          have hc : row.discordChannelId ≠ channel := by
            intro hc
            have hsome := participantOf_eq_some_iff.mpr ⟨row, profile, hrow, hc, hprofile, rfl⟩
            rw [hlisted] at hsome
            cases hsome
          rw [standingOf_some, if_neg hc]
          rfl

/-- The publications of a listed participant are in the fixed order already. -/
theorem publicationsOf_toWire : publicationsOf p.toWire = p.toWire.publications := by
  rw [publicationsOf_eq listsOnce_toWire, publicationSince_toWire]
  rfl

/-- A client that has the standings of the table has its participants. -/
theorem participant_of_view {room : RoomSnapshot} (hroom : room.Coherent)
    (hprofiles : Profiles (ProfileIn users) room.participants)
    (hknown : KnownOnly users presence)
    (hview : room.view u = standingIn channel presence u) :
    (room.participants.lookup u).map (fun p => ⟨p.user, publicationsOf p⟩) =
      participantOf users channel presence u := by
  rw [standingIn_eq hknown, view] at hview
  cases hlookup : room.participants.lookup u with
  | none =>
      rw [hlookup, Option.map_none, eq_comm, Option.map_eq_none_iff] at hview
      rw [hview, Option.map_none]
  | some p =>
      rw [hlookup, Option.map_some, eq_comm, Option.map_eq_some_iff] at hview
      obtain ⟨q, hq, hsince⟩ := hview
      obtain ⟨row, profile, -, -, hprofile, rfl⟩ := participantOf_eq_some_iff.mp hq
      obtain ⟨profile', hprofile', huser⟩ := hprofiles u p hlookup
      obtain rfl : profile = profile' := Option.some.inj (hprofile.symm.trans hprofile')
      have hpublications : publicationsOf p =
          publicationsOf (ParticipantRow.toWire ⟨u, profile, row⟩) := by
        rw [publicationsOf_eq (hroom.listsOnce u p hlookup), publicationsOf_eq listsOnce_toWire,
          hsince]
      rw [Option.map_some, hq, huser, hpublications, publicationsOf_toWire]
      rfl

end Listing

/-! ## The room of a READY -/

section Ready

variable {s : Ready.Snapshot} {answered : Ready.Answered} {heartbeatIntervalMs : Nat}
  {userId sessionId : Uuid} {room : RoomState}

/-- The room of a READY lists the rows it read. -/
theorem participants_build
    (hroom : (Ready.build s answered heartbeatIntervalMs userId sessionId).room = some room) :
    room.participants =
      (Presence.listByChannel s.users room.discordChannelId s.presence).map
        ParticipantRow.toWire := by
  unfold Ready.build at hroom
  split at hroom
  · cases hroom
  · unfold Ready.currentRoom at hroom
    dsimp only at hroom
    split at hroom
    · cases hroom
    · split at hroom
      · cases hroom
      · unfold Ready.stateOf at hroom
        split at hroom
        · obtain rfl := Option.some.inj hroom
          rfl
        · cases hroom

/-- What a client that starts from the READY shows. -/
theorem participants_ready
    (hroom : (Ready.build s answered heartbeatIntervalMs userId sessionId).room = some room) :
    ∀ p ∈ room.participants, ListsOnce p ∧ ProfileIn s.users p.user.id p.user := by
  intro p hp
  rw [participants_build hroom] at hp
  obtain ⟨q, hq, rfl⟩ := List.mem_map.mp hp
  exact ⟨listsOnce_toWire, q.profile, (Presence.mem_listByChannel.mp hq).2.2, rfl⟩

theorem view_ready (hknown : KnownOnly s.users s.presence)
    (hroom : (Ready.build s answered heartbeatIntervalMs userId sessionId).room = some room)
    (v : Uuid) :
    (roomFromState room).view v = standingIn room.discordChannelId s.presence v := by
  rw [standingIn_eq hknown, view, lookup_roomFromState, participants_build hroom,
    List.find?_map]
  rfl

end Ready

end Gateway
end Ldktela
