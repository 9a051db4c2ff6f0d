import Mathlib.Data.List.Sort
import Ldktela.Lib.Keyed
import Ldktela.Protocol

/-!
# The room of the client

`desktop/src/store/room.ts`: the room as the server's events describe it, normalised
by user id.  `applyRoomEvent` is the reducer; every branch of it returns its input
when nothing changed.

`Coherent.applyRoomEvent` says that the two lists and the record of a room stay in step,
whatever the events are.
-/

namespace Ldktela
namespace Desktop

open Protocol

/-- The order in which the sources of a person appear. -/
def sourceOrder : List PublicationSource := [.screen, .camera]

structure RoomSnapshot where
  channelId : Option Snowflake
  guildId : Option Snowflake
  channelName : Option String
  /-- Insertion order, so the list does not jump around between renders. -/
  participantIds : List Uuid
  participants : Table Uuid RoomParticipant
  /-- Who is on the air, by publication and not by person. -/
  publicationIds : List (Uuid × PublicationSource)
  lastLeaveReason : Option RoomLeaveReason

instance : DecidableEq RoomSnapshot := fun a b =>
  decidable_of_iff
    (a.channelId = b.channelId ∧ a.guildId = b.guildId ∧ a.channelName = b.channelName ∧
      a.participantIds = b.participantIds ∧
      a.participants.entries = b.participants.entries ∧
      a.publicationIds = b.publicationIds ∧ a.lastLeaveReason = b.lastLeaveReason) (by
    cases a
    cases b
    simp [AList.ext_iff])

def emptyRoom : RoomSnapshot where
  channelId := none
  guildId := none
  channelName := none
  participantIds := []
  participants := ∅
  publicationIds := []
  lastLeaveReason := none

/-- The publications of a person, in the fixed order of their sources. -/
def publicationsOf (participant : RoomParticipant) : List Publication :=
  participant.publications.insertionSort fun a b =>
    sourceOrder.idxOf a.source ≤ sourceOrder.idxOf b.source

/-- When this publication went live; `none` when it is not on the air. -/
def publicationSince (participant : RoomParticipant) (source : PublicationSource) :
    Option Timestamp :=
  (participant.publications.find? fun p => p.source = source).map fun p => p.since

/-- Appends at the end and removes in place. -/
def withPublication (current : List (Uuid × PublicationSource))
    (id : Uuid × PublicationSource) (live : Bool) : List (Uuid × PublicationSource) :=
  if live = decide (id ∈ current) then current
  else if live then current ++ [id]
  else current.filter fun existing => existing ≠ id

/-- The loop over the sources of a person. -/
def withPublications (current : List (Uuid × PublicationSource)) (id : Uuid)
    (live : PublicationSource → Bool) : List (Uuid × PublicationSource) :=
  sourceOrder.foldl (fun ids source => withPublication ids (id, source) (live source)) current

def samePublications (known fresh : RoomParticipant) : Bool :=
  known.publications.length = fresh.publications.length ∧
    known.publications.all fun publication =>
      fresh.publications.any fun p =>
        p.source = publication.source ∧ p.since = publication.since

/-- The publications of a person once one of their sources went live, or ended. -/
def publicationsAfter (publications : List Publication) (source : PublicationSource)
    (since : Option Timestamp) : List Publication :=
  let others := publications.filter fun p => p.source ≠ source
  match since with
  | none => others
  | some since => others ++ [⟨source, since⟩]

namespace RoomSnapshot

/-- One turn of the loop of `roomFromState`. -/
def takeParticipant (room : RoomSnapshot) (participant : RoomParticipant) : RoomSnapshot :=
  if (room.participants.lookup participant.user.id).isSome then
    room
  else
    { room with
      participants := room.participants.insert participant.user.id participant
      participantIds := room.participantIds ++ [participant.user.id]
      publicationIds := room.publicationIds ++
        (publicationsOf participant).map fun p => (participant.user.id, p.source) }

def roomFromState (state : RoomState) : RoomSnapshot :=
  state.participants.foldl takeParticipant
    { emptyRoom with
      channelId := some state.discordChannelId
      guildId := some state.discordGuildId
      channelName := some state.channelName }

def addParticipant (room : RoomSnapshot) (channelId : Snowflake)
    (participant : RoomParticipant) : RoomSnapshot :=
  let id := participant.user.id
  let known := room.participants.lookup id
  if room.channelId ≠ some channelId then room
  else if known.any fun known => samePublications known participant then room
  else
    { room with
      participants := room.participants.insert id participant
      participantIds :=
        if known.isNone then room.participantIds ++ [id] else room.participantIds
      publicationIds := withPublications room.publicationIds id fun source =>
        participant.publications.any fun p => p.source = source }

def removeParticipant (room : RoomSnapshot) (channelId : Snowflake) (userId : Uuid) :
    RoomSnapshot :=
  if room.channelId ≠ some channelId ∨ (room.participants.lookup userId).isNone then room
  else
    { room with
      participants := room.participants.erase userId
      participantIds := room.participantIds.filter fun id => id ≠ userId
      publicationIds := withPublications room.publicationIds userId fun _ => false }

/-- `since` is the server's start time on `SHARE_START` and `none` on `SHARE_STOP`. -/
def setPublishing (room : RoomSnapshot) (channelId : Snowflake) (userId : Uuid)
    (source : PublicationSource) (since : Option Timestamp) : RoomSnapshot :=
  match room.participants.lookup userId with
  -- a share event for someone unknown is dropped
  | none => room
  | some participant =>
      if room.channelId ≠ some channelId then room
      else if publicationSince participant source = since then room
      else
        { room with
          participants := room.participants.insert userId
            { participant with
              publications := publicationsAfter participant.publications source since }
          publicationIds := withPublication room.publicationIds (userId, source) since.isSome }

def applyRoomEvent (room : RoomSnapshot) : DispatchEvent → RoomSnapshot
  | .ready ready =>
      match ready.room with
      | none => emptyRoom
      | some state => roomFromState state
  | .roomJoin state => roomFromState state
  | .roomLeave leave =>
      if room.channelId ≠ some leave.discordChannelId then room
      else { emptyRoom with lastLeaveReason := some leave.reason }
  | .roomParticipantAdd add => addParticipant room add.discordChannelId add.participant
  | .roomParticipantRemove remove =>
      removeParticipant room remove.discordChannelId remove.userId
  | .shareStart start =>
      setPublishing room start.discordChannelId start.userId start.source (some start.startedAt)
  | .shareStop stop => setPublishing room stop.discordChannelId stop.userId stop.source none
  | .resumed _ => room

end RoomSnapshot

/-! ## The publications of one person -/

/-- Each source is listed at most once. -/
def ListsOnce (participant : RoomParticipant) : Prop :=
  (participant.publications.map fun p => p.source).Nodup

section Publications

variable {p known fresh : RoomParticipant} {source : PublicationSource} {since : Timestamp}

theorem publicationSince_isSome :
    (publicationSince p source).isSome = p.publications.any fun q => q.source = source := by
  unfold publicationSince
  rw [Option.isSome_map, List.isSome_find?]

theorem publicationSince_eq_some_iff (honce : ListsOnce p) :
    publicationSince p source = some since ↔ ⟨source, since⟩ ∈ p.publications := by
  unfold publicationSince
  constructor
  · intro h
    obtain ⟨q, hq, rfl⟩ := Option.map_eq_some_iff.mp h
    have hsource : q.source = source := by simpa using List.find?_some hq
    rw [← hsource]
    exact List.mem_of_find?_eq_some hq
  · intro hmem
    cases hfound : p.publications.find? fun q => q.source = source with
    | none =>
        have hne := List.find?_eq_none.mp hfound _ hmem
        simp at hne
    | some q =>
        have hsource : q.source = source := by simpa using List.find?_some hfound
        have hq : q = ⟨source, since⟩ :=
          List.inj_on_of_nodup_map honce (List.mem_of_find?_eq_some hfound) hmem hsource
        rw [hq, Option.map_some]

/-- A client that keeps what it has is told nothing new. -/
theorem publicationSince_eq_of_samePublications (hknown : ListsOnce known)
    (hfresh : ListsOnce fresh) (hsame : samePublications known fresh = true) :
    publicationSince known = publicationSince fresh := by
  simp only [samePublications, List.all_eq_true, List.any_eq_true, decide_eq_true_eq] at hsame
  obtain ⟨hlength, hall⟩ := hsame
  have hsubset : known.publications ⊆ fresh.publications := by
    intro q hq
    obtain ⟨q', hq', hsource, hsince⟩ := hall q hq
    have heq : q' = q := by
      cases q'
      cases q
      simp_all
    rwa [← heq]
  have hperm : known.publications.Perm fresh.publications :=
    (List.subperm_of_subset (List.Nodup.of_map _ hknown) hsubset).perm_of_length_le
      hlength.ge
  funext source
  apply Option.ext
  intro since
  rw [publicationSince_eq_some_iff hknown, publicationSince_eq_some_iff hfresh, hperm.mem_iff]

theorem publicationSince_after (p : RoomParticipant) (source : PublicationSource)
    (since : Option Timestamp) (s : PublicationSource) :
    publicationSince
        { p with publications := publicationsAfter p.publications source since } s =
      if s = source then since else publicationSince p s := by
  unfold publicationSince publicationsAfter
  have hothers : (p.publications.filter fun q => q.source ≠ source).find?
      (fun q => q.source = s) =
        if s = source then none else p.publications.find? fun q => q.source = s := by
    rw [List.find?_filter]
    split
    · next heq =>
        rw [List.find?_eq_none]
        intro q _
        simp [heq]
    · next hne =>
        congr 1
        funext q
        by_cases hq : q.source = s
        · simp [hq, hne]
        · simp [hq]
  cases since with
  | none =>
      dsimp only
      rw [hothers]
      split
      · rfl
      · rfl
  | some since =>
      dsimp only
      rw [List.find?_append, hothers]
      by_cases heq : s = source
      · simp [heq]
      · simp [heq, Ne.symm heq]

theorem listsOnce_after (honce : ListsOnce p) (source : PublicationSource)
    (since : Option Timestamp) :
    ListsOnce { p with publications := publicationsAfter p.publications source since } := by
  unfold ListsOnce publicationsAfter
  have hothers : ((p.publications.filter fun q => q.source ≠ source).map
      fun q => q.source).Nodup :=
    List.Nodup.sublist (List.Sublist.map _ List.filter_sublist) honce
  cases since with
  | none => exact hothers
  | some since =>
      dsimp only
      rw [List.map_append, List.nodup_append]
      refine ⟨hothers, List.nodup_singleton _, ?_⟩
      intro a ha b hb hab
      obtain ⟨q, hq, rfl⟩ := List.mem_map.mp ha
      have hne : q.source ≠ source := by simpa using (List.mem_filter.mp hq).2
      simp_all

/-- The fixed order leaves no choice: the publications are determined by since when
each source is on the air. -/
theorem publicationsOf_eq (honce : ListsOnce p) :
    publicationsOf p =
      sourceOrder.filterMap fun source =>
        (publicationSince p source).map fun since => ⟨source, since⟩ := by
  obtain ⟨user, publications⟩ := p
  unfold ListsOnce at honce
  unfold publicationsOf publicationSince
  match publications, honce with
  | [], _ => rfl
  | [a], _ =>
      obtain ⟨source, since⟩ := a
      cases source with
      | screen => rfl
      | camera => rfl
  | [a, b], honce =>
      obtain ⟨sourceA, sinceA⟩ := a
      obtain ⟨sourceB, sinceB⟩ := b
      cases sourceA with
      | screen => cases sourceB with
          | screen => simp at honce
          | camera => rfl
      | camera => cases sourceB with
          | screen => rfl
          | camera => simp at honce
  | a :: b :: c :: rest, honce =>
      -- three publications share a source
      obtain ⟨sourceA, sinceA⟩ := a
      obtain ⟨sourceB, sinceB⟩ := b
      obtain ⟨sourceC, sinceC⟩ := c
      cases sourceA with
      | screen => cases sourceB with
          | screen => simp at honce
          | camera => cases sourceC with
              | screen => simp at honce
              | camera => simp at honce
      | camera => cases sourceB with
          | screen => cases sourceC with
              | screen => simp at honce
              | camera => simp at honce
          | camera => simp at honce

end Publications

section PublicationIds

variable {current : List (Uuid × PublicationSource)} {id x : Uuid × PublicationSource}
  {user owner : Uuid}

theorem mem_withPublication (live : Bool) :
    x ∈ withPublication current id live ↔ if x = id then live = true else x ∈ current := by
  unfold withPublication
  split
  · next hpresent =>
      split
      · next heq => rw [heq, hpresent, decide_eq_true_iff]
      · rfl
  · next habsent =>
      cases live with
      | true => by_cases heq : x = id
                · simp [heq]
                · simp [heq]
      | false => by_cases heq : x = id
                 · simp [heq]
                 · simp [heq]

theorem nodup_withPublication (live : Bool) (hnodup : current.Nodup) :
    (withPublication current id live).Nodup := by
  unfold withPublication
  split
  · exact hnodup
  · next habsent =>
      cases live with
      | true =>
          have hid : id ∉ current := by simpa using habsent
          simpa using List.Nodup.concat hid hnodup
      | false => exact hnodup.filter _

theorem mem_withPublications (live : PublicationSource → Bool) {source : PublicationSource} :
    (user, source) ∈ withPublications current owner live ↔
      if user = owner then live source = true else (user, source) ∈ current := by
  simp only [withPublications, sourceOrder, List.foldl_cons, List.foldl_nil,
    mem_withPublication, Prod.mk.injEq]
  by_cases heq : user = owner
  · cases source with
    | screen => simp [heq]
    | camera => simp [heq]
  · simp [heq]

theorem nodup_withPublications (live : PublicationSource → Bool) (hnodup : current.Nodup) :
    (withPublications current user live).Nodup :=
  nodup_withPublication _ (nodup_withPublication _ hnodup)

end PublicationIds

/-! ## The lists and the record -/

namespace RoomSnapshot

/-- The two lists and the record agree on who is there and what is on the air. -/
structure Coherent (room : RoomSnapshot) : Prop where
  nodup_participantIds : room.participantIds.Nodup
  mem_participantIds : ∀ user,
    user ∈ room.participantIds ↔ (room.participants.lookup user).isSome
  nodup_publicationIds : room.publicationIds.Nodup
  mem_publicationIds : ∀ user source, (user, source) ∈ room.publicationIds ↔
    ∃ p, room.participants.lookup user = some p ∧ (publicationSince p source).isSome
  listsOnce : ∀ user p, room.participants.lookup user = some p → ListsOnce p

theorem coherent_emptyRoom : Coherent emptyRoom where
  nodup_participantIds := List.nodup_nil
  mem_participantIds _ := by simp [emptyRoom]
  nodup_publicationIds := List.nodup_nil
  mem_publicationIds _ _ := by simp [emptyRoom]
  listsOnce _ _ h := by simp [emptyRoom] at h

section Steps

variable {room : RoomSnapshot} {participant : RoomParticipant} {user : Uuid}
  {channelId : Snowflake}

/-- The entry of one person is written, and the lists follow it. -/
theorem Coherent.insert (h : room.Coherent) (honce : ListsOnce participant)
    {ids : List Uuid} {publicationIds : List (Uuid × PublicationSource)}
    (hids : ids.Nodup) (hmem : ∀ v, v ∈ ids ↔ v = user ∨ v ∈ room.participantIds)
    (hpublications : publicationIds.Nodup)
    (hlive : ∀ v s, (v, s) ∈ publicationIds ↔
      if v = user then (publicationSince participant s).isSome = true
      else (v, s) ∈ room.publicationIds) :
    Coherent { room with
      participants := room.participants.insert user participant
      participantIds := ids
      publicationIds := publicationIds } where
  nodup_participantIds := hids
  mem_participantIds v := by
    dsimp only
    rw [hmem v, h.mem_participantIds v, AList.lookup_insert_ite]
    by_cases hv : v = user
    · simp [hv]
    · simp [hv]
  nodup_publicationIds := hpublications
  mem_publicationIds v s := by
    dsimp only
    rw [hlive v s, h.mem_publicationIds v s, AList.lookup_insert_ite]
    by_cases hv : v = user
    · simp [hv]
    · simp [hv]
  listsOnce v p hp := by
    dsimp only at hp
    rw [AList.lookup_insert_ite] at hp
    split at hp
    · exact Option.some.inj hp ▸ honce
    · exact h.listsOnce v p hp

theorem Coherent.takeParticipant (h : room.Coherent) (honce : ListsOnce participant) :
    (room.takeParticipant participant).Coherent := by
  unfold RoomSnapshot.takeParticipant
  split
  · exact h
  · next hunknown =>
      have hid : participant.user.id ∉ room.participantIds :=
        fun hmem => hunknown ((h.mem_participantIds _).mp hmem)
      -- somebody who is not listed has nothing on the air in the snapshot
      have hnone : ∀ s, (participant.user.id, s) ∉ room.publicationIds := by
        intro s hmem
        obtain ⟨p, hp, -⟩ := (h.mem_publicationIds _ _).mp hmem
        exact hunknown (by simp [hp])
      have hsources : (publicationsOf participant).Perm participant.publications :=
        List.perm_insertionSort _ _
      apply h.insert honce
      · simpa using List.Nodup.concat hid h.nodup_participantIds
      · intro v
        rw [List.mem_append, List.mem_singleton, or_comm]
      · rw [List.nodup_append]
        refine ⟨h.nodup_publicationIds, ?_, ?_⟩
        · have hmap : ((publicationsOf participant).map fun p => p.source).Nodup :=
            ((hsources.map _).nodup_iff).mpr honce
          have hpairs := hmap.map (Prod.mk_right_injective participant.user.id)
          rwa [List.map_map] at hpairs
        · intro a ha b hb hab
          obtain ⟨p, -, rfl⟩ := List.mem_map.mp hb
          exact hnone p.source (hab ▸ ha)
      · intro v s
        rw [List.mem_append, List.mem_map, publicationSince_isSome, List.any_eq_true]
        split
        · next hv =>
            subst hv
            constructor
            · rintro (hmem | ⟨p, hp, heq⟩)
              · exact absurd hmem (hnone s)
              · exact ⟨p, hsources.mem_iff.mp hp, by simp_all⟩
            · rintro ⟨p, hp, hs⟩
              exact .inr ⟨p, hsources.mem_iff.mpr hp, by simp_all⟩
        · next hv =>
            constructor
            · rintro (hmem | ⟨p, -, heq⟩)
              · exact hmem
              · exact absurd (congrArg Prod.fst heq).symm hv
            · exact .inl

theorem Coherent.roomFromState {state : RoomState}
    (honce : ∀ p ∈ state.participants, ListsOnce p) : (roomFromState state).Coherent := by
  unfold RoomSnapshot.roomFromState
  have hempty : Coherent { emptyRoom with
      channelId := some state.discordChannelId
      guildId := some state.discordGuildId
      channelName := some state.channelName } :=
    { coherent_emptyRoom with }
  generalize hparts : state.participants = parts at honce ⊢
  clear hparts
  generalize { emptyRoom with
      channelId := some state.discordChannelId
      guildId := some state.discordGuildId
      channelName := some state.channelName : RoomSnapshot } = room at hempty ⊢
  induction parts generalizing room with
  | nil => exact hempty
  | cons p parts ih =>
      exact ih (fun q hq => honce q (List.mem_cons_of_mem p hq)) _
        (hempty.takeParticipant (honce p List.mem_cons_self))

theorem Coherent.addParticipant (h : room.Coherent) (honce : ListsOnce participant) :
    (room.addParticipant channelId participant).Coherent := by
  unfold RoomSnapshot.addParticipant
  dsimp only
  split
  · exact h
  · split
    · exact h
    · apply h.insert honce
      · split
        · next hnone =>
            have hid : participant.user.id ∉ room.participantIds := by
              rw [h.mem_participantIds]
              simpa using hnone
            simpa using List.Nodup.concat hid h.nodup_participantIds
        · exact h.nodup_participantIds
      · intro v
        split
        · rw [List.mem_append, List.mem_singleton, or_comm]
        · next hsome =>
            constructor
            · exact .inr
            · rintro (rfl | hmem)
              · rw [h.mem_participantIds]
                simpa [Option.isSome_iff_ne_none] using hsome
              · exact hmem
      · exact nodup_withPublications _ h.nodup_publicationIds
      · intro v s
        rw [mem_withPublications, publicationSince_isSome]

theorem Coherent.removeParticipant (h : room.Coherent) :
    (room.removeParticipant channelId user).Coherent := by
  unfold RoomSnapshot.removeParticipant
  split
  · exact h
  · constructor
    · exact h.nodup_participantIds.filter _
    · intro v
      dsimp only
      rw [List.mem_filter, h.mem_participantIds v, AList.lookup_erase_ite]
      by_cases hv : v = user
      · simp [hv]
      · simp [hv]
    · show (withPublications room.publicationIds user fun _ => false).Nodup
      exact nodup_withPublications _ h.nodup_publicationIds
    · intro v s
      dsimp only
      rw [mem_withPublications, h.mem_publicationIds v s,
        AList.lookup_erase_ite]
      by_cases hv : v = user
      · simp [hv]
      · simp [hv]
    · intro v p hp
      dsimp only at hp
      rw [AList.lookup_erase_ite] at hp
      split at hp
      · cases hp
      · exact h.listsOnce v p hp

theorem Coherent.setPublishing (h : room.Coherent) (source : PublicationSource)
    (since : Option Timestamp) :
    (room.setPublishing channelId user source since).Coherent := by
  unfold RoomSnapshot.setPublishing
  cases hknown : room.participants.lookup user with
  | none => exact h
  | some p =>
      dsimp only
      split
      · exact h
      · split
        · exact h
        · apply h.insert (listsOnce_after (h.listsOnce user p hknown) source since)
          · exact h.nodup_participantIds
          · intro v
            constructor
            · exact .inr
            · rintro (rfl | hmem)
              · rw [h.mem_participantIds, hknown]
                rfl
              · exact hmem
          · exact nodup_withPublication _ h.nodup_publicationIds
          · intro v s
            simp only [mem_withPublication, publicationSince_after, Prod.mk.injEq]
            by_cases hv : v = user
            · subst hv
              by_cases hs : s = source
              · simp [hs]
              · simp [hs, h.mem_publicationIds, hknown]
            · simp [hv]

end Steps

/-- Every participant the event carries meets `P`. -/
def Carries (P : RoomParticipant → Prop) : DispatchEvent → Prop
  | .ready ready => ∀ state, ready.room = some state → ∀ p ∈ state.participants, P p
  | .roomJoin state => ∀ p ∈ state.participants, P p
  | .roomParticipantAdd add => P add.participant
  | .resumed _ | .roomLeave _ | .roomParticipantRemove _ | .shareStart _ | .shareStop _ => True

theorem Coherent.applyRoomEvent {room : RoomSnapshot} {event : DispatchEvent}
    (h : room.Coherent) (hpayload : Carries ListsOnce event) :
    (room.applyRoomEvent event).Coherent := by
  cases event with
  | ready ready =>
      unfold RoomSnapshot.applyRoomEvent
      cases hroom : ready.room with
      | none => simpa [hroom] using coherent_emptyRoom
      | some state => simpa [hroom] using Coherent.roomFromState (hpayload state hroom)
  | resumed resumed => exact h
  | roomJoin state => exact Coherent.roomFromState hpayload
  | roomLeave leave =>
      unfold RoomSnapshot.applyRoomEvent
      dsimp only
      split
      · exact h
      · exact { coherent_emptyRoom with }
  | roomParticipantAdd add => exact h.addParticipant hpayload
  | roomParticipantRemove remove => exact h.removeParticipant
  | shareStart start => exact h.setPublishing _ _
  | shareStop stop => exact h.setPublishing _ _

end RoomSnapshot

end Desktop
end Ldktela
