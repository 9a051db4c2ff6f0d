import Ldktela.Desktop.RoomStore
import Ldktela.Lib.Runs

/-!
# Runs of room events

The store applies every dispatch event of the gateway with `applyRoomEvent`, in the
order of arrival.  After a resume the same event can arrive twice
(`docs/websocket.md`, section 6), and events can speak of other channels and of people
the client does not know.

`roomSnapshot_coherent` carries the coherence of the three structures through every
run.  `applyRoomEvent_twice` says that a repeated event changes nothing, and in which
cases the reducer hands its own input back.
-/

namespace Ldktela
namespace Desktop

open Protocol Runs

/-- The channel an event speaks of. -/
def eventChannel : DispatchEvent → Option Snowflake
  | .ready _ | .roomJoin _ | .resumed _ => none
  | .roomLeave leave => some leave.discordChannelId
  | .roomParticipantAdd add => some add.discordChannelId
  | .roomParticipantRemove remove => some remove.discordChannelId
  | .shareStart start => some start.discordChannelId
  | .shareStop stop => some stop.discordChannelId

namespace RoomSnapshot

/-! ## The events that return their input -/

/-- `setPublishing` returns `room` itself. -/
def setPublishingReturnsInput (room : RoomSnapshot) (channelId : Snowflake) (userId : Uuid)
    (source : PublicationSource) (since : Option Timestamp) : Bool :=
  (room.participants.lookup userId).all fun participant =>
    room.channelId ≠ some channelId ∨ publicationSince participant source = since

/-- The branch of the event returns `room` itself, and no new object. -/
def returnsInput (room : RoomSnapshot) : DispatchEvent → Bool
  | .ready _ | .roomJoin _ => false
  | .resumed _ => true
  | .roomLeave leave => room.channelId ≠ some leave.discordChannelId
  | .roomParticipantAdd add =>
      room.channelId ≠ some add.discordChannelId ∨
        (room.participants.lookup add.participant.user.id).any fun known =>
          samePublications known add.participant
  | .roomParticipantRemove remove =>
      room.channelId ≠ some remove.discordChannelId ∨
        (room.participants.lookup remove.userId).isNone
  | .shareStart start =>
      setPublishingReturnsInput room start.discordChannelId start.userId start.source
        (some start.startedAt)
  | .shareStop stop =>
      setPublishingReturnsInput room stop.discordChannelId stop.userId stop.source none

section Unchanged

variable {room : RoomSnapshot} {channelId : Snowflake} {user : Uuid}
  {participant known : RoomParticipant}

theorem samePublications_of_perm (hsame : known.publications.Perm participant.publications) :
    samePublications known participant = true := by
  simp only [samePublications, List.all_eq_true, List.any_eq_true, decide_eq_true_eq]
  refine ⟨hsame.length_eq, fun p hp => ?_⟩
  exact ⟨p, hsame.mem_iff.mp hp, rfl, rfl⟩

theorem addParticipant_eq_self_iff :
    room.addParticipant channelId participant = room ↔
      room.channelId ≠ some channelId ∨
        ∃ known, room.participants.lookup participant.user.id = some known ∧
          samePublications known participant = true := by
  constructor
  · intro h
    by_contra! hnew
    obtain ⟨hchannel, hother⟩ := hnew
    have hsome : ¬((room.participants.lookup participant.user.id).any
        fun known => samePublications known participant) = true := by
      rw [Option.any_eq_true]
      rintro ⟨known, hknown, hsame⟩
      exact hother known hknown hsame
    rw [addParticipant, if_neg (not_not.mpr hchannel), if_neg hsome] at h
    have hparticipants : room.participants.insert participant.user.id participant =
        room.participants := congrArg RoomSnapshot.participants h
    -- the record already holds the payload, and a payload has its own publications
    have hlookup : room.participants.lookup participant.user.id = some participant := by
      rw [← hparticipants, AList.lookup_insert]
    exact hother participant hlookup (samePublications_of_perm (List.Perm.refl _))
  · rintro (hchannel | ⟨known, hknown, hsame⟩)
    · rw [addParticipant, if_pos hchannel]
    · rw [addParticipant]
      simp [hknown, hsame]

theorem removeParticipant_eq_self_iff :
    room.removeParticipant channelId user = room ↔
      room.channelId ≠ some channelId ∨ room.participants.lookup user = none := by
  unfold removeParticipant
  split
  · next hsame => simpa using hsame
  · next hgone =>
      rw [not_or] at hgone
      constructor
      · intro h
        have hparticipants : room.participants.erase user = room.participants :=
          congrArg RoomSnapshot.participants h
        right
        rw [← hparticipants, AList.lookup_erase]
      · rintro (hchannel | hnone)
        · exact absurd hchannel hgone.1
        · exact absurd (by rw [hnone]; rfl) hgone.2

theorem setPublishing_eq_self_iff {source : PublicationSource} {since : Option Timestamp} :
    room.setPublishing channelId user source since = room ↔
      ∀ participant, room.participants.lookup user = some participant →
        room.channelId ≠ some channelId ∨ publicationSince participant source = since := by
  unfold setPublishing
  cases hknown : room.participants.lookup user with
  | none => simp
  | some participant =>
      dsimp only
      split
      · next hchannel => simp [hchannel]
      · next hchannel =>
          split
          · next hsince => simp [hsince]
          · next hsince =>
              constructor
              · intro h
                have hparticipants := congrArg RoomSnapshot.participants h
                dsimp only at hparticipants
                have hlookup := congrArg (AList.lookup user) hparticipants
                rw [AList.lookup_insert, hknown, Option.some.injEq] at hlookup
                -- the clock of the source is then the announced one
                have hafter := publicationSince_after participant source since source
                rw [hlookup, if_pos rfl] at hafter
                exact absurd hafter hsince
              · intro h
                obtain hother | hsame := h participant rfl
                · exact absurd hother hchannel
                · exact absurd hsame hsince

theorem addParticipant_twice :
    (room.addParticipant channelId participant).addParticipant channelId participant =
      room.addParticipant channelId participant := by
  rw [addParticipant_eq_self_iff]
  unfold addParticipant
  dsimp only
  split
  · next hother => exact .inl hother
  · split
    · next hsame => exact .inr ((Option.any_eq_true _ _).mp hsame)
    · exact .inr ⟨participant, AList.lookup_insert _, samePublications_of_perm (List.Perm.refl _)⟩

theorem removeParticipant_twice :
    (room.removeParticipant channelId user).removeParticipant channelId user =
      room.removeParticipant channelId user := by
  rw [removeParticipant_eq_self_iff]
  unfold removeParticipant
  split
  · next hsame => simpa using hsame
  · exact .inr (AList.lookup_erase _ _)

theorem setPublishing_twice {source : PublicationSource} {since : Option Timestamp} :
    (room.setPublishing channelId user source since).setPublishing channelId user source since =
      room.setPublishing channelId user source since := by
  rw [setPublishing_eq_self_iff]
  unfold setPublishing
  cases hknown : room.participants.lookup user with
  | none =>
      intro p hp
      rw [hknown] at hp
      cases hp
  | some participant =>
      dsimp only
      split
      · next hother => exact fun _ _ => .inl hother
      · split
        · next hsince =>
            intro p hp
            rw [hknown] at hp
            obtain rfl := Option.some.inj hp
            exact .inr hsince
        · intro p hp
          rw [AList.lookup_insert] at hp
          obtain rfl := Option.some.inj hp
          right
          rw [publicationSince_after, if_pos rfl]

/-- After a resume the same event can arrive twice. -/
theorem applyRoomEvent_repeated (event : DispatchEvent) :
    (room.applyRoomEvent event).applyRoomEvent event = room.applyRoomEvent event := by
  cases event with
  | ready ready => rfl
  | roomJoin state => rfl
  | resumed resumed => rfl
  | roomLeave leave =>
      unfold applyRoomEvent
      dsimp only
      split
      · rfl
      · -- the room is no longer the one that is left
        exact if_pos (by simp [emptyRoom])
  | roomParticipantAdd add => exact addParticipant_twice
  | roomParticipantRemove remove => exact removeParticipant_twice
  | shareStart start => exact setPublishing_twice
  | shareStop stop => exact setPublishing_twice

theorem setPublishingReturnsInput_iff {source : PublicationSource}
    {since : Option Timestamp} :
    setPublishingReturnsInput room channelId user source since = true ↔
      room.setPublishing channelId user source since = room := by
  rw [setPublishing_eq_self_iff, setPublishingReturnsInput, Option.all_eq_true]
  simp only [decide_eq_true_eq]

/-- Only READY and ROOM_JOIN build a new snapshot whatever the old one is. -/
theorem returnsInput_iff {event : DispatchEvent} (hready : ∀ ready, event ≠ .ready ready)
    (hjoin : ∀ state, event ≠ .roomJoin state) :
    room.returnsInput event = true ↔ room.applyRoomEvent event = room := by
  cases event with
  | ready ready => exact absurd rfl (hready ready)
  | roomJoin state => exact absurd rfl (hjoin state)
  | resumed resumed => simp [returnsInput, applyRoomEvent]
  | roomLeave leave =>
      simp only [returnsInput, applyRoomEvent, decide_eq_true_eq]
      constructor
      · intro hother
        rw [if_pos hother]
      · intro h hchannel
        rw [if_neg (not_not.mpr hchannel)] at h
        have hnone : none = room.channelId := congrArg RoomSnapshot.channelId h
        rw [hchannel] at hnone
        cases hnone
  | roomParticipantAdd add =>
      rw [returnsInput, applyRoomEvent, addParticipant_eq_self_iff, decide_eq_true_eq,
        Option.any_eq_true]
  | roomParticipantRemove remove =>
      rw [returnsInput, applyRoomEvent, removeParticipant_eq_self_iff, decide_eq_true_eq,
        Option.isNone_iff_eq_none]
  | shareStart start => exact setPublishingReturnsInput_iff
  | shareStop stop => exact setPublishingReturnsInput_iff

/-- Events of another channel leave the room as it is. -/
theorem applyRoomEvent_of_other_channel {event : DispatchEvent}
    (hevent : eventChannel event = some channelId) (hother : room.channelId ≠ some channelId) :
    room.applyRoomEvent event = room := by
  cases event with
  | ready ready => cases hevent
  | roomJoin state => cases hevent
  | resumed resumed => cases hevent
  | roomLeave leave =>
      obtain rfl := Option.some.inj hevent
      exact if_pos hother
  | roomParticipantAdd add =>
      obtain rfl := Option.some.inj hevent
      exact addParticipant_eq_self_iff.mpr (.inl hother)
  | roomParticipantRemove remove =>
      obtain rfl := Option.some.inj hevent
      exact removeParticipant_eq_self_iff.mpr (.inl hother)
  | shareStart start =>
      obtain rfl := Option.some.inj hevent
      exact setPublishing_eq_self_iff.mpr fun _ _ => .inl hother
  | shareStop stop =>
      obtain rfl := Option.some.inj hevent
      exact setPublishing_eq_self_iff.mpr fun _ _ => .inl hother

end Unchanged

end RoomSnapshot

open RoomSnapshot

/-! ## Every run of events -/

/-- Through every run of events from the empty room the lists and the record agree, and
an event of another channel changes nothing. -/
theorem roomSnapshot_coherent (events : List DispatchEvent)
    (honce : ∀ event ∈ events, Carries ListsOnce event) :
    Throughout applyRoomEvent (fun room =>
        room.participantIds.Nodup ∧
        (∀ user, user ∈ room.participantIds ↔ user ∈ room.participants) ∧
        room.publicationIds.Nodup ∧
        (∀ user source, (user, source) ∈ room.publicationIds ↔
          ∃ p, room.participants.lookup user = some p ∧
            ∃ publication ∈ p.publications, publication.source = source) ∧
        ∀ user p, room.participants.lookup user = some p →
          (p.publications.map fun publication => publication.source).Nodup)
      emptyRoom events ∧
    EachStep applyRoomEvent (fun room event => ∀ channelId,
        eventChannel event = some channelId → room.channelId ≠ some channelId →
          room.applyRoomEvent event = room)
      emptyRoom events := by
  constructor
  · have hpayloads : EachStep applyRoomEvent (fun _ event => Carries ListsOnce event)
        emptyRoom events :=
      eachStep_of_forall_mem (fun event hevent _ => honce event hevent) _
    have hcoherent : Throughout applyRoomEvent Coherent emptyRoom events :=
      throughout_of_eachStep (fun room event h hpayload => h.applyRoomEvent hpayload)
        coherent_emptyRoom hpayloads
    apply hcoherent.mono
    intro room h
    refine ⟨h.nodup_participantIds, fun user => ?_, h.nodup_publicationIds,
      fun user source => ?_, h.listsOnce⟩
    · rw [h.mem_participantIds, AList.lookup_isSome]
    · rw [h.mem_publicationIds]
      simp only [publicationSince_isSome, List.any_eq_true, decide_eq_true_eq]
  · apply eachStep_of_forall
    intro room event channelId hevent hother
    exact applyRoomEvent_of_other_channel hevent hother

/-- Somebody joins, is repeated with a camera, and shares in a room that is not ours. -/
theorem roomSnapshot_coherent_rejoined :
    let ana : RoomParticipant :=
      { user := ⟨1, 10, "ana", none, none⟩
        publications := [⟨.screen, 5⟩] }
    let events : List DispatchEvent :=
      [.roomJoin ⟨100, 1, "jogos", [ana]⟩,
        .roomParticipantAdd ⟨100, { ana with publications := [⟨.camera, 7⟩] }⟩,
        .shareStart ⟨200, 1, .screen, 9⟩]
    (run applyRoomEvent emptyRoom events).publicationIds = [(1, .camera)] ∧
      (run applyRoomEvent emptyRoom events).participantIds.Nodup := by
  intro ana events
  have honce : ∀ event ∈ events, Carries ListsOnce event := by
    intro event hevent
    simp only [events, List.mem_cons, List.not_mem_nil, or_false] at hevent
    obtain rfl | rfl | rfl := hevent
    · simp [Carries, ListsOnce, ana]
    · simp [Carries, ListsOnce]
    · trivial
  have hcoherent := (roomSnapshot_coherent events honce).1
  exact ⟨by decide, (throughout_iff_initial.mp hcoherent events List.prefix_rfl).1⟩

/-- A repeated event changes nothing.  The reducer hands its own input back when it is
told of a known participant with the same publications, or of a share that is already in
the announced state; and of the events other than READY and ROOM_JOIN, which always build
a snapshot, exactly when nothing changed. -/
theorem applyRoomEvent_twice (room : RoomSnapshot) (event : DispatchEvent) :
    (room.applyRoomEvent event).applyRoomEvent event = room.applyRoomEvent event ∧
    (∀ add known, event = .roomParticipantAdd add →
      room.participants.lookup add.participant.user.id = some known →
      known.publications.Perm add.participant.publications →
        room.returnsInput event = true ∧ room.applyRoomEvent event = room) ∧
    (∀ start participant, event = .shareStart start →
      room.participants.lookup start.userId = some participant →
      publicationSince participant start.source = some start.startedAt →
        room.returnsInput event = true ∧ room.applyRoomEvent event = room) ∧
    (∀ stop participant, event = .shareStop stop →
      room.participants.lookup stop.userId = some participant →
      publicationSince participant stop.source = none →
        room.returnsInput event = true ∧ room.applyRoomEvent event = room) ∧
    ((∀ ready, event ≠ .ready ready) → (∀ state, event ≠ .roomJoin state) →
      (room.returnsInput event = true ↔ room.applyRoomEvent event = room)) := by
  refine ⟨applyRoomEvent_repeated event, ?_, ?_, ?_, returnsInput_iff⟩
  · rintro add known rfl hknown hsame
    have hself : room.applyRoomEvent (.roomParticipantAdd add) = room :=
      addParticipant_eq_self_iff.mpr (.inr ⟨known, hknown, samePublications_of_perm hsame⟩)
    exact ⟨(returnsInput_iff (by simp) (by simp)).mpr hself, hself⟩
  · rintro start participant rfl hknown hsince
    have hself : room.applyRoomEvent (.shareStart start) = room := by
      apply setPublishing_eq_self_iff.mpr
      intro p hp
      obtain rfl := Option.some.inj (hknown.symm.trans hp)
      exact .inr hsince
    exact ⟨(returnsInput_iff (by simp) (by simp)).mpr hself, hself⟩
  · rintro stop participant rfl hknown hsince
    have hself : room.applyRoomEvent (.shareStop stop) = room := by
      apply setPublishing_eq_self_iff.mpr
      intro p hp
      obtain rfl := Option.some.inj (hknown.symm.trans hp)
      exact .inr hsince
    exact ⟨(returnsInput_iff (by simp) (by simp)).mpr hself, hself⟩

end Desktop
end Ldktela
