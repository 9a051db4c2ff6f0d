import Ldktela.Api.Rooms

/-!
# An event of one room and a person in another

Somebody who moves from one room to another produces events of both, in no
guaranteed order.  Every handler gets the channel of its event, but the presence
statements are keyed by the person alone, so an event of the old room writes to
the row of the new one.  `onlyRoom_iff` lists what has to hold for an event of a
room to leave a person in another room alone.
-/

namespace Ldktela
namespace Api
namespace Rooms

open Protocol
open Db

/-- Of the person `u`, in the room `b`, nothing has changed from `st` to `st'`,
and no session was opened in the room `a`. -/
structure OnlyRoom (a b : Snowflake) (u : Uuid) (st st' : ServerState) : Prop where
  presence : st'.presence.lookup u = st.presence.lookup u
  sessions : ∀ id row, row.discordChannelId = b → row.publisherId = u →
    (st'.sessions.lookup id = some row ↔ st.sessions.lookup id = some row)
  slots : ∀ source, st'.grants.Holds b u source ↔ st.grants.Holds b u source
  opens : ∀ v, st'.sessions.OpenFor a v → st.sessions.OpenFor a v

/-- An event of the room `a` about a person whose row is `row`, in another room,
changes nothing there:

* the viewer left: never, the row is deleted;
* the publishing connection left: the row says that nothing is on the air;
* a publication started: the row says already that it is on the air, and the
  person has an open session in `a` already;
* a publication stopped: the row says already that it is not on the air. -/
def Harmless (st : ServerState) (u : Uuid) (row : PresenceRow) : Option Action → Prop
  | none => True
  | some (.joined _ _) => False
  | some (.left _ _) => False
  | some (.publisherGone _ _) =>
      row.publishing = false ∧ row.screenSince = none ∧ row.cameraSince = none
  | some (.shareStarted a _ source) =>
      row.publishing = true ∧ row.since source ≠ none ∧ st.sessions.OpenFor a u
  | some (.shareStopped _ _ source) =>
      row.since source = none ∧ row.publishing = (row.since (other source)).isSome
  | some (.finished _) => True

/-! ## Rows that a statement leaves as they are -/

theorem clear_eq_self_iff (row : PresenceRow) :
    row.clear = row ↔
      row.publishing = false ∧ row.screenSince = none ∧ row.cameraSince = none := by
  obtain ⟨channel, publishing, joinedAt, screenSince, cameraSince⟩ := row
  simp only [PresenceRow.clear, PresenceRow.mk.injEq, true_and]
  constructor
  · rintro ⟨rfl, rfl, rfl⟩
    exact ⟨rfl, rfl, rfl⟩
  · rintro ⟨rfl, rfl, rfl⟩
    exact ⟨rfl, rfl, rfl⟩

theorem start_eq_self_iff (now : Timestamp) (source : PublicationSource) (row : PresenceRow) :
    row.start now source = row ↔ row.publishing = true ∧ row.since source ≠ none := by
  obtain ⟨channel, publishing, joinedAt, screenSince, cameraSince⟩ := row
  cases source with
  | screen =>
      cases screenSince with
      | none => simp [PresenceRow.start, PresenceRow.setSince, PresenceRow.since]
      | some since =>
          simp [PresenceRow.start, PresenceRow.setSince, PresenceRow.since, eq_comm]
  | camera =>
      cases cameraSince with
      | none => simp [PresenceRow.start, PresenceRow.setSince, PresenceRow.since]
      | some since =>
          simp [PresenceRow.start, PresenceRow.setSince, PresenceRow.since, eq_comm]

theorem stop_eq_self_iff (source : PublicationSource) (row : PresenceRow) :
    row.stop source = row ↔
      row.since source = none ∧ row.publishing = (row.since (other source)).isSome := by
  obtain ⟨channel, publishing, joinedAt, screenSince, cameraSince⟩ := row
  cases source with
  | screen =>
      simp [PresenceRow.stop, PresenceRow.setSince, PresenceRow.since, other, and_comm, eq_comm]
  | camera =>
      simp [PresenceRow.stop, PresenceRow.setSince, PresenceRow.since, other, and_comm, eq_comm]

/-! ## The frame condition -/

section Frame

variable {st st' : ServerState} {a b : Snowflake} {u : Uuid} {row : PresenceRow}

/-- What an effect on the room `a` leaves to check about a person in the room
`b`: their row, their slots in `b`, and the sessions of `a`. -/
theorem onlyRoom_of_effect {rows : Uuid → Option PresenceRow}
    {isOpen : Snowflake → Uuid → Prop} {holds : Snowflake → Uuid → PublicationSource → Prop}
    (heffect : Effect a st st' rows isOpen holds) (hne : b ≠ a)
    (hslots : ∀ source, holds b u source ↔ st.grants.Holds b u source) :
    OnlyRoom a b u st st' ↔
      rows u = st.presence.lookup u ∧ ∀ v, isOpen a v → st.sessions.OpenFor a v := by
  constructor
  · intro h
    refine ⟨(heffect.presence u).symm.trans h.presence, fun v hopen => ?_⟩
    exact h.opens v ((heffect.openFor a v).mpr hopen)
  · rintro ⟨hrow, hopens⟩
    exact
      { presence := (heffect.presence u).trans hrow
        sessions := fun id row hb _ => heffect.elsewhere id row (by rwa [hb])
        slots := fun source => (heffect.holds b u source).trans (hslots source)
        opens := fun v hopen => hopens v ((heffect.openFor a v).mp hopen) }

theorem onlyRoom_refl (a b : Snowflake) (u : Uuid) (st : ServerState) : OnlyRoom a b u st st :=
  ⟨rfl, fun _ _ _ _ => Iff.rfl, fun _ => Iff.rfl, fun _ h => h⟩

/-- The room and the person of an action; a room that finished is about everybody
in it. -/
def Concerns (a : Snowflake) (u : Uuid) : Action → Prop
  | .joined _ _ => False
  | .left channel userId => channel = a ∧ userId = u
  | .publisherGone channel userId => channel = a ∧ userId = u
  | .shareStarted channel userId _ => channel = a ∧ userId = u
  | .shareStopped channel userId _ => channel = a ∧ userId = u
  | .finished channel => channel = a

theorem onlyRoom_perform_iff (now : Timestamp) (act : Action) (hconcerns : Concerns a u act)
    (hrow : st.presence.lookup u = some row) (hne : row.discordChannelId ≠ a) :
    OnlyRoom a row.discordChannelId u st (perform now st act) ↔ Harmless st u row (some act) := by
  have hkept : ∀ source, st.grants.Holds row.discordChannelId u source ∧
      ¬ (row.discordChannelId = a ∧ u = u) ↔ st.grants.Holds row.discordChannelId u source :=
    fun source => and_iff_left fun h => hne h.1
  cases act with
  | joined channel userId => cases hconcerns
  | left channel userId =>
      -- the row is keyed by the person alone, so it goes in any case
      obtain ⟨rfl, rfl⟩ := hconcerns
      rw [perform, onlyRoom_of_effect onLeave_effect hne hkept, hrow]
      simp [Harmless]
  | publisherGone channel userId =>
      obtain ⟨rfl, rfl⟩ := hconcerns
      rw [perform, onlyRoom_of_effect (onPublisherGone_effect hrow) hne hkept, hrow]
      simp only [if_pos, Option.some.injEq, clear_eq_self_iff, Harmless]
      exact and_iff_left fun v hopen => hopen.1
  | shareStarted channel userId source =>
      -- the only handler that may open a session in the room of the event
      obtain ⟨rfl, rfl⟩ := hconcerns
      rw [perform, onlyRoom_of_effect (onShareStart_effect hrow) hne fun _ => Iff.rfl, hrow]
      simp only [if_pos, Option.some.injEq, start_eq_self_iff, Harmless, and_assoc]
      refine and_congr_right fun _ => and_congr_right fun _ => ?_
      constructor
      · intro hopens
        exact hopens userId (.inl ⟨trivial, rfl⟩)
      · intro halready v hnow
        rcases hnow with ⟨-, rfl⟩ | hopen
        · exact halready
        · exact hopen
  | shareStopped channel userId source =>
      obtain ⟨rfl, rfl⟩ := hconcerns
      have hslots : ∀ s, st.grants.Holds row.discordChannelId userId s ∧
          ¬ (row.discordChannelId = channel ∧ userId = userId ∧ s = source) ↔
            st.grants.Holds row.discordChannelId userId s :=
        fun s => and_iff_left fun h => hne h.1
      rw [perform, onlyRoom_of_effect (onShareStop_effect hrow) hne hslots, hrow]
      simp only [if_pos, Option.some.injEq, stop_eq_self_iff, Harmless]
      exact and_iff_left fun v hopen => hopen.1
  | finished channel =>
      obtain rfl : channel = a := hconcerns
      have hslots : ∀ s, st.grants.Holds row.discordChannelId u s ∧
          row.discordChannelId ≠ channel ↔ st.grants.Holds row.discordChannelId u s :=
        fun s => and_iff_left hne
      rw [perform, onlyRoom_of_effect roomFinished_effect hne hslots, hrow]
      simp [Harmless, hne]

end Frame

/-- The event is one of `participant_left`, `track_published`, `track_unpublished`
about the person, or `room_finished`. -/
def About (event : WebhookEvent) (u : Uuid) : Prop :=
  event.kind = .roomFinished ∨
    event.user = some u ∧
      (event.kind = .participantLeft ∨ event.kind = .trackPublished ∨
        event.kind = .trackUnpublished)

theorem concerns_of_about {event : WebhookEvent} {a : Snowflake} {u : Uuid} {act : Action}
    (hchannel : event.channel = some a) (habout : About event u)
    (haction : action event = some act) : Concerns a u act := by
  rw [action, hchannel, Option.bind_some] at haction
  rcases habout with hkind | ⟨huser, hkind | hkind | hkind⟩
  · rw [hkind] at haction
    obtain rfl := Option.some.inj haction
    rfl
  · rw [hkind, huser] at haction
    obtain rfl := Option.some.inj haction
    split
    · exact ⟨rfl, rfl⟩
    · exact ⟨rfl, rfl⟩
  · rw [hkind, huser, Option.bind_some] at haction
    obtain ⟨source, -, rfl⟩ := Option.map_eq_some_iff.mp haction
    exact ⟨rfl, rfl⟩
  · rw [hkind, huser, Option.bind_some] at haction
    obtain ⟨source, -, rfl⟩ := Option.map_eq_some_iff.mp haction
    exact ⟨rfl, rfl⟩

/-- When an event of the room `a` about a person who sits in another room leaves
their row, sessions and slots there alone and opens no session in `a`. -/
theorem onlyRoom_iff (now : Timestamp) (st : ServerState) (event : WebhookEvent)
    (a : Snowflake) (u : Uuid) (row : PresenceRow) (hchannel : event.channel = some a)
    (habout : About event u) (hrow : st.presence.lookup u = some row)
    (hne : row.discordChannelId ≠ a) :
    OnlyRoom a row.discordChannelId u st (webhook now st event) ↔
      Harmless st u row (action event) := by
  rw [webhook_eq]
  cases haction : action event with
  | none => exact iff_of_true (onlyRoom_refl a row.discordChannelId u st) trivial
  | some act =>
      exact onlyRoom_perform_iff now act (concerns_of_about hchannel habout haction) hrow hne

/-- Somebody who shares their screen in the room 6. -/
private def sharingInSix : ServerState where
  config := ⟨2, 4⟩
  users := (∅ : Users).insert 3 ⟨30, "ana", none, none⟩
  presence := (∅ : Presence).insert 3 ⟨6, true, 10, some 12, none⟩
  sessions := (∅ : ShareSessions).insert 0 ⟨6, 3, 12, none, 1⟩
  grants := (∅ : Grants).insert 6 ⟨{3}, ∅⟩
  announced := []
  published := []

/-- The end of the old room, 5, leaves them alone. -/
theorem onlyRoom_finished :
    OnlyRoom 5 6 3 sharingInSix
      (webhook 20 sharingInSix ⟨.roomFinished, some 5, none, none⟩) :=
  (onlyRoom_iff 20 sharingInSix ⟨.roomFinished, some 5, none, none⟩ 5 3
    ⟨6, true, 10, some 12, none⟩ rfl (.inl rfl) (by decide) (by decide)).mpr trivial

/-- The late `participant_left` of the old room deletes their row in the new one. -/
theorem late_left_deletes_row :
    ¬ ∀ (now : Timestamp) (st : ServerState) (event : WebhookEvent) (a : Snowflake) (u : Uuid)
      (row : PresenceRow), event.channel = some a → About event u →
      st.presence.lookup u = some row → row.discordChannelId ≠ a →
      OnlyRoom a row.discordChannelId u st (webhook now st event) := by
  intro h
  have honly := h 20 sharingInSix ⟨.participantLeft, some 5, some ⟨some 3, false⟩, none⟩ 5 3
    ⟨6, true, 10, some 12, none⟩ rfl (.inr ⟨rfl, .inl rfl⟩) (by decide) (by decide)
  exact absurd honly.presence (by decide)

end Rooms
end Api
end Ldktela
