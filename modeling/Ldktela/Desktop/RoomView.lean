import Ldktela.Desktop.RoomStore
import Ldktela.Lib.Replay

/-!
# One person in the room of the client

What an event does to the standing of one person, who is in the room and transmits
since when, depends on that standing alone (`view_applyRoomEvent`): the function is
`told`, and its updates are the kind a log may replay (`absorbed_told`).  The rest is
what a READY puts into the record, and that the profiles in it are the ones that were
sent.
-/

namespace Ldktela
namespace Desktop

open Protocol

namespace RoomSnapshot

/-! ## Standing -/

/-- Since when the sources of a person are on the air; `none` when they are not in the
room. -/
abbrev Standing := Option (PublicationSource → Option Timestamp)

def view (room : RoomSnapshot) (user : Uuid) : Standing :=
  (room.participants.lookup user).map publicationSince

/-- The room and the person that an event is about. -/
def subject : DispatchEvent → Option (Snowflake × Uuid)
  | .roomParticipantAdd add => some (add.discordChannelId, add.participant.user.id)
  | .roomParticipantRemove remove => some (remove.discordChannelId, remove.userId)
  | .shareStart start => some (start.discordChannelId, start.userId)
  | .shareStop stop => some (stop.discordChannelId, stop.userId)
  | .ready _ | .resumed _ | .roomJoin _ | .roomLeave _ => none

/-- What an event makes of the standing of the person it is about. -/
def told (standing : Standing) : DispatchEvent → Standing
  | .roomParticipantAdd add => some (publicationSince add.participant)
  | .roomParticipantRemove _ => none
  | .shareStart start =>
      standing.map fun since => Function.update since start.source (some start.startedAt)
  | .shareStop stop => standing.map fun since => Function.update since stop.source none
  | .ready _ | .resumed _ | .roomJoin _ | .roomLeave _ => standing

/-- Setting the clock of one source is hidden by whatever sets it again, or replaces
the standing, and commutes with the rest. -/
theorem partial_update {event : DispatchEvent} {source : PublicationSource}
    {since : Option Timestamp}
    (htold : ∀ x, told x event = x.map fun f => Function.update f source since) :
    Replay.Partial told event where
  twice x := by
    cases x with
    | none => simp [htold]
    | some f => simp [htold]
  hidden_or_commutes x other := by
    have hset : ∀ source' since', (∀ y, told y other =
        y.map fun f => Function.update f source' since') →
        told (told x event) other = told x other ∨
          told (told x event) other = told (told x other) event := by
      intro source' since' hother
      cases x with
      | none => simp [htold, hother]
      | some f =>
          by_cases hs : source' = source
          · subst hs
            simp [htold, hother]
          · right
            simp [htold, hother, Function.update_comm hs]
    cases other with
    | ready ready => exact .inr rfl
    | resumed resumed => exact .inr rfl
    | roomJoin state => exact .inr rfl
    | roomLeave leave => exact .inr rfl
    | roomParticipantAdd add => exact .inl rfl
    | roomParticipantRemove remove => exact .inl rfl
    | shareStart start => exact hset _ _ fun _ => rfl
    | shareStop stop => exact hset _ _ fun _ => rfl

theorem absorbed_told (event : DispatchEvent) : Replay.Absorbed told event := by
  have hnothing : (∀ x, told x event = x) → Replay.Partial told event :=
    fun hsame => ⟨fun x => by simp [hsame], fun x other => by simp [hsame]⟩
  cases event with
  | ready ready => exact .inr (hnothing fun _ => rfl)
  | resumed resumed => exact .inr (hnothing fun _ => rfl)
  | roomJoin state => exact .inr (hnothing fun _ => rfl)
  | roomLeave leave => exact .inr (hnothing fun _ => rfl)
  | roomParticipantAdd add => exact .inl fun _ _ => rfl
  | roomParticipantRemove remove => exact .inl fun _ _ => rfl
  | shareStart start => exact .inr (partial_update fun _ => rfl)
  | shareStop stop => exact .inr (partial_update fun _ => rfl)

section View

variable {room : RoomSnapshot} {participant : RoomParticipant} {user v : Uuid}
  {channelId : Snowflake} {event : DispatchEvent}

theorem view_addParticipant (h : room.Coherent) (honce : ListsOnce participant)
    (hc : room.channelId = some channelId) :
    (room.addParticipant channelId participant).view v =
      if v = participant.user.id then some (publicationSince participant) else room.view v := by
  unfold addParticipant
  simp only [hc, ne_eq, not_true_eq_false, if_false]
  split
  · next hsame =>
      obtain ⟨known, hknown, hsame⟩ := (Option.any_eq_true _ _).mp hsame
      split
      · next hv =>
          have hlisted := h.listsOnce _ known hknown
          rw [view, hv, hknown, Option.map_some,
            publicationSince_eq_of_samePublications hlisted honce hsame]
      · rfl
  · unfold view
    rw [AList.lookup_insert_ite]
    split
    · rfl
    · rfl

theorem view_removeParticipant (hc : room.channelId = some channelId) :
    (room.removeParticipant channelId user).view v = if v = user then none else room.view v := by
  unfold removeParticipant
  simp only [hc, ne_eq, not_true_eq_false, false_or]
  split
  · next habsent =>
      split
      · next hv => rw [view, hv, Option.isNone_iff_eq_none.mp habsent, Option.map_none]
      · rfl
  · unfold view
    rw [AList.lookup_erase_ite]
    split
    · rfl
    · rfl

theorem view_setPublishing (hc : room.channelId = some channelId) (source : PublicationSource)
    (since : Option Timestamp) :
    (room.setPublishing channelId user source since).view v =
      if v = user then (room.view v).map fun f => Function.update f source since
      else room.view v := by
  unfold setPublishing
  cases hknown : room.participants.lookup user with
  | none =>
      dsimp only
      split
      · next hv => rw [view, hv, hknown, Option.map_none, Option.map_none]
      · rfl
  | some p =>
      simp only [hc, ne_eq, not_true_eq_false, if_false]
      split
      · next hsame =>
          split
          · next hv =>
              rw [view, hv, hknown, Option.map_some, Option.map_some, ← hsame,
                Function.update_eq_self]
          · rfl
      · unfold view
        rw [AList.lookup_insert_ite]
        split
        · next hv =>
            rw [hv, hknown, Option.map_some, Option.map_some, Option.map_some]
            congr 1
            funext s
            rw [publicationSince_after, Function.update_apply]
        · rfl

theorem channelId_setPublishing (channelId : Snowflake) (user : Uuid)
    (source : PublicationSource) (since : Option Timestamp) :
    (room.setPublishing channelId user source since).channelId = room.channelId := by
  unfold setPublishing
  split
  · rfl
  · split
    · rfl
    · split
      · rfl
      · rfl

/-- An event changes the standing of its person, and of nobody else. -/
theorem view_applyRoomEvent (h : room.Coherent) (hpayload : Carries ListsOnce event)
    (hsubject : subject event = some (channelId, user)) (hc : room.channelId = some channelId) :
    (room.applyRoomEvent event).view v =
      if v = user then told (room.view v) event else room.view v := by
  cases event with
  | ready ready => cases hsubject
  | resumed resumed => cases hsubject
  | roomJoin state => cases hsubject
  | roomLeave leave => cases hsubject
  | roomParticipantAdd add =>
      cases hsubject
      exact view_addParticipant h hpayload hc
  | roomParticipantRemove remove =>
      cases hsubject
      exact view_removeParticipant hc
  | shareStart start =>
      cases hsubject
      exact view_setPublishing hc _ _
  | shareStop stop =>
      cases hsubject
      exact view_setPublishing hc _ _

/-- An event about a person does not change the room. -/
theorem channelId_applyRoomEvent {about : Snowflake × Uuid}
    (hsubject : subject event = some about) :
    (room.applyRoomEvent event).channelId = room.channelId := by
  cases event with
  | ready ready => cases hsubject
  | resumed resumed => cases hsubject
  | roomJoin state => cases hsubject
  | roomLeave leave => cases hsubject
  | roomParticipantAdd add =>
      show (room.addParticipant _ _).channelId = _
      unfold addParticipant
      dsimp only
      split
      · rfl
      · split
        · rfl
        · rfl
  | roomParticipantRemove remove =>
      show (room.removeParticipant _ _).channelId = _
      unfold removeParticipant
      split
      · rfl
      · rfl
  | shareStart start => exact channelId_setPublishing _ _ _ _
  | shareStop stop => exact channelId_setPublishing _ _ _ _

end View

/-! ## The participants of a state, and their profiles -/

theorem lookup_takeParticipant (room : RoomSnapshot) (participant : RoomParticipant) (v : Uuid) :
    (room.takeParticipant participant).participants.lookup v =
      (room.participants.lookup v).or
        (if participant.user.id = v then some participant else none) := by
  unfold takeParticipant
  split
  · next hknown =>
      split
      · next hv =>
          obtain ⟨p, hp⟩ := Option.isSome_iff_exists.mp hknown
          rw [← hv, hp, Option.some_or]
      · rw [Option.or_none]
  · next hunknown =>
      dsimp only
      rw [AList.lookup_insert_ite]
      by_cases hv : v = participant.user.id
      · subst hv
        have hnone : room.participants.lookup participant.user.id = none := by
          simpa using hunknown
        simp [hnone]
      · simp [hv, Ne.symm hv]

theorem channelId_roomFromState (state : RoomState) :
    (roomFromState state).channelId = some state.discordChannelId := by
  have hfold : ∀ (parts : List RoomParticipant) (room : RoomSnapshot),
      (parts.foldl takeParticipant room).channelId = room.channelId := by
    intro parts
    induction parts with
    | nil => intro room; rfl
    | cons p parts ih =>
        intro room
        rw [List.foldl_cons, ih]
        unfold takeParticipant
        split
        · rfl
        · rfl
  exact hfold _ _

/-- The first participant of a person counts. -/
theorem lookup_roomFromState (state : RoomState) (v : Uuid) :
    (roomFromState state).participants.lookup v =
      state.participants.find? fun p => p.user.id = v := by
  have hfold : ∀ (parts : List RoomParticipant) (room : RoomSnapshot),
      (parts.foldl takeParticipant room).participants.lookup v =
        (room.participants.lookup v).or (parts.find? fun p => p.user.id = v) := by
    intro parts
    induction parts with
    | nil => intro room; simp
    | cons p parts ih =>
        intro room
        rw [List.foldl_cons, ih, lookup_takeParticipant, Option.or_assoc, List.find?_cons]
        by_cases hv : p.user.id = v
        · simp [hv]
        · simp [hv]
  rw [roomFromState, hfold]
  simp [emptyRoom]

/-- The profile of everybody in the record meets `P`. -/
def Profiles (P : Uuid → UserSummary → Prop) (participants : Table Uuid RoomParticipant) :
    Prop :=
  ∀ user p, participants.lookup user = some p → P user p.user

section Profiles

variable {P : Uuid → UserSummary → Prop} {participants : Table Uuid RoomParticipant}

theorem Profiles.insert (h : Profiles P participants) {user : Uuid} {p : RoomParticipant}
    (hp : P user p.user) : Profiles P (participants.insert user p) := by
  intro v q hq
  rw [AList.lookup_insert_ite] at hq
  split at hq
  · next hv =>
      obtain rfl := Option.some.inj hq
      exact hv ▸ hp
  · exact h v q hq

theorem profiles_roomFromState {state : RoomState}
    (hP : ∀ p ∈ state.participants, P p.user.id p.user) :
    Profiles P (roomFromState state).participants := by
  intro v p hp
  rw [lookup_roomFromState] at hp
  have hid : p.user.id = v := by simpa using List.find?_some hp
  exact hid ▸ hP p (List.mem_of_find?_eq_some hp)

theorem profiles_setPublishing {room : RoomSnapshot} (h : Profiles P room.participants)
    (channelId : Snowflake) (user : Uuid) (source : PublicationSource)
    (since : Option Timestamp) :
    Profiles P (room.setPublishing channelId user source since).participants := by
  unfold setPublishing
  cases hknown : room.participants.lookup user with
  | none => exact h
  | some p =>
      dsimp only
      split
      · exact h
      · split
        · exact h
        · exact h.insert (h user p hknown)

theorem profiles_applyRoomEvent {room : RoomSnapshot} {event : DispatchEvent}
    (h : Profiles P room.participants) (hP : Carries (fun p => P p.user.id p.user) event) :
    Profiles P (room.applyRoomEvent event).participants := by
  -- a room that was left shows nobody
  have hempty : Profiles P emptyRoom.participants := by
    intro v p hp
    simp [emptyRoom] at hp
  cases event with
  | ready ready =>
      unfold applyRoomEvent
      cases hroom : ready.room with
      | none => simpa [hroom] using hempty
      | some state => simpa [hroom] using profiles_roomFromState (hP state hroom)
  | resumed resumed => exact h
  | roomJoin state => exact profiles_roomFromState hP
  | roomLeave leave =>
      unfold applyRoomEvent
      dsimp only
      split
      · exact h
      · exact hempty
  | roomParticipantAdd add =>
      show Profiles P (room.addParticipant _ _).participants
      unfold addParticipant
      dsimp only
      split
      · exact h
      · split
        · exact h
        · exact h.insert hP
  | roomParticipantRemove remove =>
      show Profiles P (room.removeParticipant _ _).participants
      unfold removeParticipant
      split
      · exact h
      · intro v p hp
        dsimp only at hp
        rw [AList.lookup_erase_ite] at hp
        split at hp
        · cases hp
        · exact h v p hp
  | shareStart start => exact profiles_setPublishing h _ _ _ _
  | shareStop stop => exact profiles_setPublishing h _ _ _ _

end Profiles

end RoomSnapshot

end Desktop
end Ldktela
