import Ldktela.Api.Livekit
import Ldktela.Desktop.MediaStore
import Ldktela.Lib.Runs

/-!
# Tiles and tracks

The handlers that `wire` of `desktop/src/media/session.ts` puts on a room, with the
room as LiveKit keeps it: who is connected, what they publish, and what of it is
subscribed.  A person may be connected twice, once to watch and once to publish.

`fed` lists what should arrive for which publication.  Subscribing always keeps the
store in step with it (`Inv.trackSubscribed`); the handlers that take something away
may take too much, and `Clean` says when they do not.
-/

namespace Ldktela
namespace Desktop

open Protocol
open Api (TrackSource)
open Runs

/-! ## The room -/

/-- A track publication of a remote participant. -/
structure RemoteTrack where
  identity : Identity
  source : TrackSource
  kind : TrackKind
  subscribed : Bool
deriving DecidableEq

structure RoomView where
  /-- The remote participants that are connected. -/
  participants : List Identity
  /-- What they publish, by its sid. -/
  publications : Table Nat RemoteTrack

inductive RoomEvent where
  | participantConnected (identity : Identity)
  | trackPublished (sid : Nat) (identity : Identity) (source : TrackSource) (kind : TrackKind)
  | trackSubscribed (sid : Nat)
  | trackUnsubscribed (sid : Nat)
  | trackUnpublished (sid : Nat)
  | participantDisconnected (identity : Identity)

/-- Which publication a track feeds. -/
def sourceOfTrack : TrackSource → Option PublicationSource
  | .screenShare => some .screen
  | .screenShareAudio => some .screen
  | .camera => some .camera
  | .other => none

namespace RemoteTrack

/-- The publication that the source of the track belongs to. -/
def publicationId (t : RemoteTrack) : Option PublicationId :=
  (sourceOfTrack t.source).map fun source => ⟨ownerOf t.identity, source⟩

/-- A video of a screen or a camera, or the audio of a screen. -/
def carries (t : RemoteTrack) : Option (PublicationSource × TrackKind) :=
  match t.source, t.kind with
  | .screenShare, .video => some (.screen, .video)
  | .camera, .video => some (.camera, .video)
  | .screenShareAudio, .audio => some (.screen, .audio)
  | _, _ => none

end RemoteTrack

namespace RoomView

def empty : RoomView := ⟨[], ∅⟩

/-- What an event does to the room, before it is reported. -/
def step (r : RoomView) : RoomEvent → RoomView
  | .participantConnected identity => { r with participants := r.participants ++ [identity] }
  | .trackPublished sid identity source kind =>
      { r with publications := r.publications.insert sid ⟨identity, source, kind, false⟩ }
  | .trackSubscribed sid =>
      { r with publications := r.publications.modify sid fun t => { t with subscribed := true } }
  | .trackUnsubscribed sid =>
      { r with publications := r.publications.modify sid fun t => { t with subscribed := false } }
  | .trackUnpublished sid => { r with publications := r.publications.erase sid }
  | .participantDisconnected identity =>
      { participants := r.participants.filter fun other => other ≠ identity
        publications := r.publications.retain fun _ t => t.identity ≠ identity }

/-- The events that LiveKit may report. -/
def Possible (r : RoomView) : RoomEvent → Prop
  | .participantConnected identity => identity ∉ r.participants
  | .trackPublished sid identity _ _ => identity ∈ r.participants ∧ sid ∉ r.publications
  | .trackSubscribed sid => sid ∈ r.publications
  | .trackUnsubscribed sid => sid ∈ r.publications
  | .trackUnpublished sid => sid ∈ r.publications
  | .participantDisconnected identity => identity ∈ r.participants

instance (r : RoomView) : (e : RoomEvent) → Decidable (r.Possible e)
  | .participantConnected identity => inferInstanceAs (Decidable (identity ∉ r.participants))
  | .trackPublished sid identity _ _ =>
      inferInstanceAs (Decidable (identity ∈ r.participants ∧ sid ∉ r.publications))
  | .trackSubscribed sid => inferInstanceAs (Decidable (sid ∈ r.publications))
  | .trackUnsubscribed sid => inferInstanceAs (Decidable (sid ∈ r.publications))
  | .trackUnpublished sid => inferInstanceAs (Decidable (sid ∈ r.publications))
  | .participantDisconnected identity => inferInstanceAs (Decidable (identity ∈ r.participants))

end RoomView

/-! ## The handlers -/

/-- What is held for one remote publication: the sids of its tracks. -/
structure RemotePublication where
  video : Option Nat
  audio : Option Nat
  publication : Option Nat

def emptyPublication : RemotePublication := ⟨none, none, none⟩

structure Viewer where
  room : RoomView
  remotes : Table PublicationId RemotePublication
  store : MediaState

namespace Viewer

def new : Viewer := ⟨.empty, ∅, .initial⟩

/-- `me` is the user of the session. -/
def isOurOwnPublisher (me : Option Identity) (identity : Identity) : Bool :=
  match me with
  | none => false
  | some me => identity = me ++ publisherSuffix

/-- Who is watching.  Publishing connections are skipped: they are not people. -/
def syncViewers (v : Viewer) : Viewer :=
  { v with
    store := v.store.setViewerIds <| v.room.participants.filter fun identity =>
      !publisherSuffix.isSuffixOf identity &&
        !v.room.publications.vals.any fun t =>
          t.identity = identity && t.source = .screenShare }

def held (id : PublicationId) (v : Viewer) : RemotePublication :=
  (v.remotes.lookup id).getD emptyPublication

def adoptPublication (me : Option Identity) (sid : Nat) (t : RemoteTrack) (v : Viewer) : Viewer :=
  if isOurOwnPublisher me t.identity then
    v
  else
    match t.publicationId with
    | none => v
    | some id =>
        if t.source ≠ .screenShareAudio ∧ t.kind = .video then
          syncViewers
            { v with
              remotes := v.remotes.insert id
                { v.held id with video := some sid, publication := some sid }
              store := v.store.withTrack id .video }
        else if t.source = .screenShareAudio ∧ t.kind = .audio then
          { v with
            remotes := v.remotes.insert id { v.held id with audio := some sid }
            store := v.store.withTrack id .audio }
        else
          v

def dropTrack (t : RemoteTrack) (v : Viewer) : Viewer :=
  match t.publicationId with
  | none => v
  | some id =>
      match v.remotes.lookup id with
      | none => v
      | some held =>
          if t.source = .screenShareAudio then
            { v with
              remotes := v.remotes.insert id { held with audio := none }
              store := v.store.withoutTrack id .audio }
          else
            syncViewers
              { v with
                remotes := v.remotes.insert id { held with video := none, publication := none }
                store := v.store.withoutTrack id .video }

/-- One publication is gone for good. -/
def forget (id : PublicationId) (v : Viewer) : Viewer :=
  { v with remotes := v.remotes.erase id, store := v.store.dropPublication id }

/-- Everything one person was transmitting is gone. -/
def forgetOwner (owner : Identity) (v : Viewer) : Viewer :=
  let v := (v.remotes.keys.filter fun id => id.ownerId = owner).foldl (fun v id => v.forget id) v
  { v with
    store := (v.store.dropPublication ⟨owner, .screen⟩).dropPublication ⟨owner, .camera⟩ }

/-- Who stopped transmitting takes the tile along.  The audio does not count: it
comes and goes by itself. -/
def unpublished (t : RemoteTrack) (v : Viewer) : Viewer :=
  match t.publicationId with
  | none => v
  | some id => if t.source = .screenShareAudio then v else (v.forget id).syncViewers

/-- An event of the room, and its handler. -/
def step (me : Option Identity) (v : Viewer) (e : RoomEvent) : Viewer :=
  if v.room.Possible e then
    let next := { v with room := v.room.step e }
    match e with
    | .participantConnected _ => next.syncViewers
    | .trackPublished .. => next
    | .trackSubscribed sid =>
        match v.room.publications.lookup sid with
        | none => next
        | some t => next.adoptPublication me sid t
    | .trackUnsubscribed sid =>
        match v.room.publications.lookup sid with
        | none => next
        | some t => next.dropTrack t
    | .trackUnpublished sid =>
        match v.room.publications.lookup sid with
        | none => next
        | some t => next.unpublished t
    | .participantDisconnected identity => (next.forgetOwner (ownerOf identity)).syncViewers
  else
    v

end Viewer

/-! ## What should arrive -/

/-- One of the tracks of a publication. -/
abbrev Slot := PublicationId × TrackKind

/-- What the track brings to us, if it is subscribed. -/
def RemoteTrack.feeds (me : Option Identity) (t : RemoteTrack) : Option Slot :=
  if t.subscribed && !Viewer.isOurOwnPublisher me t.identity then
    t.carries.map fun c => (⟨ownerOf t.identity, c.1⟩, c.2)
  else
    none

def RoomView.fed (me : Option Identity) (r : RoomView) : List Slot :=
  r.publications.vals.filterMap (RemoteTrack.feeds me)

namespace Viewer

/-- There is a tile exactly for what some connected participant, other than our own
publisher, has a subscribed track of. -/
def Agrees (me : Option Identity) (v : Viewer) : Prop :=
  ∀ id, id ∈ v.store.publications ↔
    ∃ identity ∈ v.room.participants, isOurOwnPublisher me identity = false ∧
      ownerOf identity = id.ownerId ∧
        ∃ t ∈ v.room.publications.vals, t.identity = identity ∧ t.subscribed = true ∧
          ∃ kind, t.carries = some (id.source, kind)

/-- The event takes nothing away that is still fed, and leaves nothing that is not:
a track is unsubscribed while no other track feeds the same publication with the same
kind, a video is unpublished while nothing feeds its publication any more, an audio
after it was unsubscribed, and a participant disconnects while the other identity of
the same person has no subscribed track. -/
def Clean (me : Option Identity) (v : Viewer) (e : RoomEvent) : Prop :=
  match e with
  | .trackUnsubscribed sid =>
      ∀ t ∈ v.room.publications.lookup sid, ∀ slot ∈ (v.room.step e).fed me,
        t.publicationId = some slot.1 →
          slot.2 ≠ if t.source = .screenShareAudio then .audio else .video
  | .trackUnpublished sid =>
      ∀ t ∈ v.room.publications.lookup sid,
        if t.source = .screenShareAudio then t.feeds me = none
        else ∀ slot ∈ (v.room.step e).fed me, t.publicationId ≠ some slot.1
  | .participantDisconnected identity =>
      ∀ slot ∈ (v.room.step e).fed me, slot.1.ownerId ≠ ownerOf identity
  | _ => True

instance (me : Option Identity) (v : Viewer) : (e : RoomEvent) → Decidable (v.Clean me e)
  | .trackUnsubscribed sid =>
      inferInstanceAs (Decidable (∀ t ∈ v.room.publications.lookup sid, ∀ slot ∈ _, _ → _))
  | .trackUnpublished sid =>
      inferInstanceAs (Decidable (∀ t ∈ v.room.publications.lookup sid, ite _ _ _))
  | .participantDisconnected _ => inferInstanceAs (Decidable (∀ slot ∈ _, _))
  | .participantConnected _ => .isTrue trivial
  | .trackPublished .. => .isTrue trivial
  | .trackSubscribed _ => .isTrue trivial

end Viewer

/-! ## Feeding -/

section Fed

variable {me : Option Identity} {r : RoomView} {t : RemoteTrack} {slot : Slot} {sid : Nat}

theorem mem_fed :
    slot ∈ r.fed me ↔ ∃ sid t, r.publications.lookup sid = some t ∧ t.feeds me = some slot := by
  unfold RoomView.fed
  rw [List.mem_filterMap]
  constructor
  · rintro ⟨t, hmem, hfeeds⟩
    obtain ⟨sid, hsid⟩ := AList.mem_vals_iff.mp hmem
    exact ⟨sid, t, hsid, hfeeds⟩
  · rintro ⟨sid, t, hsid, hfeeds⟩
    exact ⟨t, AList.mem_vals_iff.mpr ⟨sid, hsid⟩, hfeeds⟩

theorem feeds_eq_some :
    t.feeds me = some slot ↔ t.subscribed = true ∧
      Viewer.isOurOwnPublisher me t.identity = false ∧
        ∃ source, t.carries = some (source, slot.2) ∧ slot.1 = ⟨ownerOf t.identity, source⟩ := by
  unfold RemoteTrack.feeds
  split
  · next hboth =>
      rw [Bool.and_eq_true, Bool.not_eq_true'] at hboth
      simp only [hboth, true_and, Option.map_eq_some_iff]
      constructor
      · rintro ⟨⟨source, kind⟩, hcarries, rfl⟩
        exact ⟨source, hcarries, rfl⟩
      · rintro ⟨source, hcarries, hid⟩
        exact ⟨_, hcarries, Prod.ext hid.symm rfl⟩
  · next hnot =>
      constructor
      · intro h
        cases h
      · rintro ⟨hsubscribed, hother, -⟩
        simp [hsubscribed, hother] at hnot

/-- What a track carries is of the source it has. -/
theorem carries_eq_some {source : PublicationSource} {kind : TrackKind} :
    t.carries = some (source, kind) ↔
      sourceOfTrack t.source = some source ∧ t.kind = kind ∧
        kind = if t.source = .screenShareAudio then .audio else .video := by
  obtain ⟨identity, source', kind', subscribed⟩ := t
  cases source' with
  | screenShare => cases kind' <;> cases kind <;> simp [RemoteTrack.carries, sourceOfTrack]
  | screenShareAudio => cases kind' <;> cases kind <;> simp [RemoteTrack.carries, sourceOfTrack]
  | camera => cases kind' <;> cases kind <;> simp [RemoteTrack.carries, sourceOfTrack]
  | other => cases kind' <;> cases kind <;> simp [RemoteTrack.carries, sourceOfTrack]

/-- A track feeds the publication the handlers find for it, with the kind they take
it for. -/
theorem feeds_slot (h : t.feeds me = some slot) :
    t.publicationId = some slot.1 ∧
      slot.2 = if t.source = .screenShareAudio then .audio else .video := by
  obtain ⟨-, -, source, hcarries, hid⟩ := feeds_eq_some.mp h
  obtain ⟨hsource, -, hkind⟩ := carries_eq_some.mp hcarries
  refine ⟨?_, hkind⟩
  rw [RemoteTrack.publicationId, hsource, hid]
  rfl

/-- A new publication feeds nothing yet. -/
theorem fed_published {identity : Identity} {source : TrackSource} {kind : TrackKind}
    (hnew : sid ∉ r.publications) :
    slot ∈ (r.step (.trackPublished sid identity source kind)).fed me ↔ slot ∈ r.fed me := by
  rw [mem_fed, mem_fed]
  constructor
  · rintro ⟨sid', t, ht, hfeeds⟩
    simp only [RoomView.step, AList.lookup_insert_ite] at ht
    split at ht
    · obtain rfl := Option.some.inj ht
      cases (feeds_eq_some.mp hfeeds).1
    · exact ⟨sid', t, ht, hfeeds⟩
  · rintro ⟨sid', t, ht, hfeeds⟩
    refine ⟨sid', t, ?_, hfeeds⟩
    have hne : sid' ≠ sid := by
      rintro rfl
      exact hnew (AList.lookup_isSome.mp (by rw [ht]; rfl))
    simp only [RoomView.step, AList.lookup_insert_ite]
    rw [if_neg hne]
    exact ht

/-- A track that is subscribed feeds what it carries, and nothing else changes. -/
theorem fed_subscribed (ht : r.publications.lookup sid = some t) :
    slot ∈ (r.step (.trackSubscribed sid)).fed me ↔
      ({ t with subscribed := true } : RemoteTrack).feeds me = some slot ∨ slot ∈ r.fed me := by
  rw [mem_fed, mem_fed]
  simp only [RoomView.step, AList.lookup_modify]
  constructor
  · rintro ⟨sid', t', ht', hfeeds⟩
    split at ht'
    · next hsid =>
        rw [hsid, ht] at ht'
        obtain rfl := Option.some.inj ht'
        exact .inl hfeeds
    · exact .inr ⟨sid', t', ht', hfeeds⟩
  · rintro (hfeeds | ⟨sid', t', ht', hfeeds⟩)
    · exact ⟨sid, _, by rw [if_pos rfl, ht]; rfl, hfeeds⟩
    · by_cases hsid : sid' = sid
      · rw [hsid, ht] at ht'
        obtain rfl := Option.some.inj ht'
        refine ⟨sid, _, by rw [if_pos rfl, ht]; rfl, ?_⟩
        obtain ⟨-, hother, hcarried⟩ := feeds_eq_some.mp hfeeds
        exact feeds_eq_some.mpr ⟨rfl, hother, hcarried⟩
      · exact ⟨sid', t', by rw [if_neg hsid]; exact ht', hfeeds⟩

/-- Taking a track away takes away what it feeds, at most. -/
theorem fed_of_unsubscribed (h : slot ∈ (r.step (.trackUnsubscribed sid)).fed me) :
    slot ∈ r.fed me := by
  obtain ⟨sid', t', ht', hfeeds⟩ := mem_fed.mp h
  simp only [RoomView.step, AList.lookup_modify] at ht'
  split at ht'
  · obtain ⟨t, -, rfl⟩ := Option.map_eq_some_iff.mp ht'
    cases (feeds_eq_some.mp hfeeds).1
  · exact mem_fed.mpr ⟨sid', t', ht', hfeeds⟩

/-- What is fed is fed by the one track, or by another one. -/
theorem feeds_or_other (ht : r.publications.lookup sid = some t) (h : slot ∈ r.fed me) :
    t.feeds me = some slot ∨ ∃ sid' t', sid' ≠ sid ∧ r.publications.lookup sid' = some t' ∧
      t'.feeds me = some slot := by
  obtain ⟨sid', t', ht', hfeeds⟩ := mem_fed.mp h
  by_cases hsid : sid' = sid
  · rw [hsid, ht] at ht'
    obtain rfl := Option.some.inj ht'
    exact .inl hfeeds
  · exact .inr ⟨sid', t', hsid, ht', hfeeds⟩

theorem unsubscribed_or_fed (ht : r.publications.lookup sid = some t) (h : slot ∈ r.fed me) :
    t.feeds me = some slot ∨ slot ∈ (r.step (.trackUnsubscribed sid)).fed me := by
  apply (feeds_or_other ht h).imp_right
  rintro ⟨sid', t', hsid, ht', hfeeds⟩
  refine mem_fed.mpr ⟨sid', t', ?_, hfeeds⟩
  simp only [RoomView.step, AList.lookup_modify]
  rw [if_neg hsid]
  exact ht'

theorem fed_of_unpublished (h : slot ∈ (r.step (.trackUnpublished sid)).fed me) :
    slot ∈ r.fed me := by
  obtain ⟨sid', t', ht', hfeeds⟩ := mem_fed.mp h
  simp only [RoomView.step, AList.lookup_erase_ite] at ht'
  split at ht'
  · cases ht'
  · exact mem_fed.mpr ⟨sid', t', ht', hfeeds⟩

theorem unpublished_or_fed (ht : r.publications.lookup sid = some t) (h : slot ∈ r.fed me) :
    t.feeds me = some slot ∨ slot ∈ (r.step (.trackUnpublished sid)).fed me := by
  apply (feeds_or_other ht h).imp_right
  rintro ⟨sid', t', hsid, ht', hfeeds⟩
  refine mem_fed.mpr ⟨sid', t', ?_, hfeeds⟩
  simp only [RoomView.step, AList.lookup_erase_ite]
  rw [if_neg hsid]
  exact ht'

/-- Who disconnects takes what they feed along. -/
theorem fed_disconnected {identity : Identity} :
    slot ∈ (r.step (.participantDisconnected identity)).fed me ↔
      ∃ sid t, r.publications.lookup sid = some t ∧ t.identity ≠ identity ∧
        t.feeds me = some slot := by
  rw [mem_fed]
  simp only [RoomView.step, AList.lookup_retain, Option.filter_eq_some_iff, decide_eq_true_eq,
    and_assoc]

end Fed

/-! ## What the handlers do to the store -/

namespace Viewer

section Handlers

variable {me : Option Identity} {v : Viewer} {t : RemoteTrack} {sid : Nat} {id : PublicationId}
  {kind : TrackKind}

/-! The handlers leave the room alone. -/

theorem room_adoptPublication : (v.adoptPublication me sid t).room = v.room := by
  unfold adoptPublication
  split
  · rfl
  · split
    · rfl
    · split
      · rfl
      · split
        · rfl
        · rfl

theorem room_dropTrack : (v.dropTrack t).room = v.room := by
  unfold dropTrack
  split
  · rfl
  · split
    · rfl
    · split
      · rfl
      · rfl

theorem room_unpublished : (v.unpublished t).room = v.room := by
  unfold unpublished
  split
  · rfl
  · split
    · rfl
    · rfl

theorem room_forgetOwner (owner : Identity) : (v.forgetOwner owner).room = v.room := by
  have hall : ∀ (ids : List PublicationId) (v : Viewer),
      (ids.foldl (fun v id => v.forget id) v).room = v.room := by
    intro ids
    induction ids with
    | nil => exact fun _ => rfl
    | cons id ids ih => exact fun v => ih (v.forget id)
  exact hall _ v

/-- Every tile is wanted and has a track, and the session holds its publication. -/
structure Tidy (v : Viewer) : Prop where
  shown : v.store.Shown
  held : ∀ id, id ∈ v.store.publications → id ∈ v.remotes

@[simp]
theorem has_syncViewers : v.syncViewers.store.has id kind = v.store.has id kind := rfl

theorem Tidy.syncViewers (h : v.Tidy) : v.syncViewers.Tidy :=
  ⟨h.shown, h.held⟩

/-- What the handlers look at, and what a subscribed track feeds. -/
theorem feeds_subscribed :
    ({ t with subscribed := true } : RemoteTrack).feeds me =
      if isOurOwnPublisher me t.identity then none
      else t.publicationId.bind fun id =>
        if t.source ≠ .screenShareAudio ∧ t.kind = .video then some (id, .video)
        else if t.source = .screenShareAudio ∧ t.kind = .audio then some (id, .audio)
        else none := by
  unfold RemoteTrack.feeds
  cases isOurOwnPublisher me t.identity with
  | true => rfl
  | false =>
      obtain ⟨identity, source, kind, subscribed⟩ := t
      cases source <;> cases kind <;> rfl

theorem tidy_insert {store : MediaState} {p : RemotePublication} (h : v.Tidy)
    (hshown : store.Shown)
    (hstore : ∀ id', id' ∈ store.publications → id' = id ∨ id' ∈ v.store.publications) :
    Tidy { v with remotes := v.remotes.insert id p, store := store } where
  shown := hshown
  held id' hmem := by
    refine AList.mem_insert _ |>.mpr ?_
    exact (hstore id' hmem).imp_right (h.held id')

theorem mem_withTrack {state : MediaState} {id' : PublicationId}
    (h : id' ∈ (state.withTrack id kind).publications) : id' = id ∨ id' ∈ state.publications := by
  rw [← AList.lookup_isSome, MediaState.lookup_withTrack] at h
  split at h
  · next hid => exact .inl hid
  · exact .inr (AList.lookup_isSome.mp h)

/-- A track that is subscribed arrives in the store as what it feeds. -/
theorem adoptPublication_spec (me : Option Identity) (sid : Nat) (t : RemoteTrack)
    (h : v.Tidy) :
    (v.adoptPublication me sid t).Tidy ∧
      ∀ id kind, (v.adoptPublication me sid t).store.has id kind = true ↔
        ({ t with subscribed := true } : RemoteTrack).feeds me = some (id, kind) ∨
          v.store.has id kind = true := by
  rw [feeds_subscribed]
  unfold adoptPublication
  cases isOurOwnPublisher me t.identity with
  | true => exact ⟨h, fun id kind => by simp⟩
  | false =>
      cases t.publicationId with
      | none => exact ⟨h, fun id kind => by simp⟩
      | some id =>
          simp only [Bool.false_eq_true, if_false, Option.bind_some]
          split
          · refine ⟨?_, fun id' kind' => ?_⟩
            · exact (tidy_insert h h.shown.withTrack fun _ => mem_withTrack).syncViewers
            · rw [has_syncViewers, MediaState.has_withTrack, Option.some.injEq, Prod.mk.injEq]
          · split
            · refine ⟨tidy_insert h h.shown.withTrack fun _ => mem_withTrack, fun id' kind' => ?_⟩
              rw [MediaState.has_withTrack, Option.some.injEq, Prod.mk.injEq]
            · exact ⟨h, fun id kind => by simp⟩

/-- A track that is dropped no longer arrives, whichever track it was. -/
theorem dropTrack_spec (h : v.Tidy) :
    (v.dropTrack t).Tidy ∧
      ∀ id kind, (v.dropTrack t).store.has id kind =
        if t.publicationId = some id ∧
            kind = (if t.source = .screenShareAudio then .audio else .video) then false
        else v.store.has id kind := by
  unfold dropTrack
  cases hid : t.publicationId with
  | none => exact ⟨h, fun id kind => by simp⟩
  | some id =>
      dsimp only
      cases hremote : v.remotes.lookup id with
      | none =>
          refine ⟨h, fun id' kind' => ?_⟩
          -- what the session does not hold has no tile either
          have habsent : v.store.publications.lookup id = none := by
            by_contra hsome
            have hmem := h.held id (AList.lookup_isSome.mp (Option.isSome_iff_ne_none.mpr hsome))
            exact absurd hremote (Option.isSome_iff_ne_none.mp (AList.lookup_isSome.mpr hmem))
          by_cases hslot : some id = some id' ∧
              kind' = if t.source = .screenShareAudio then .audio else .video
          · obtain rfl := Option.some.inj hslot.1
            rw [if_pos hslot, MediaState.has, habsent]
          · rw [if_neg hslot]
      | some held =>
          dsimp only
          have hkept : ∀ kind id', id' ∈ (v.store.withoutTrack id kind).publications →
              id' = id ∨ id' ∈ v.store.publications := by
            intro kind id' hmem
            by_cases hsame : id' = id
            · exact .inl hsame
            · refine .inr ?_
              rw [← AList.lookup_isSome] at hmem ⊢
              cases hp : v.store.publications.lookup id with
              | none => rwa [MediaState.withoutTrack, hp] at hmem
              | some p => rwa [MediaState.lookup_withoutTrack hp, if_neg hsame] at hmem
          split
          · refine ⟨tidy_insert h h.shown.withoutTrack (hkept .audio), fun id' kind' => ?_⟩
            simp only [MediaState.has_withoutTrack, Option.some.injEq, eq_comm (a := id)]
          · refine ⟨(tidy_insert h h.shown.withoutTrack (hkept .video)).syncViewers,
              fun id' kind' => ?_⟩
            simp only [has_syncViewers, MediaState.has_withoutTrack, Option.some.injEq,
              eq_comm (a := id)]

theorem mem_dropPublication {state : MediaState} {id id' : PublicationId}
    (hmem : id' ∈ (state.dropPublication id).publications) :
    id' ≠ id ∧ id' ∈ state.publications := by
  have hlookup := AList.lookup_isSome.mpr hmem
  rw [MediaState.lookup_dropPublication] at hlookup
  split at hlookup
  · cases hlookup
  · next hne => exact ⟨hne, AList.lookup_isSome.mp hlookup⟩

/-- A publication that is forgotten has no tile. -/
theorem forget_spec (h : v.Tidy) (id : PublicationId) :
    (v.forget id).Tidy ∧
      ∀ id' kind, (v.forget id).store.has id' kind =
        if id' = id then false else v.store.has id' kind := by
  refine ⟨⟨h.shown.dropPublication, fun id' hmem => ?_⟩, fun _ _ => MediaState.has_dropPublication⟩
  obtain ⟨hne, hheld⟩ := mem_dropPublication hmem
  exact AList.mem_erase.mpr ⟨hne, h.held id' hheld⟩

theorem unpublished_spec (h : v.Tidy) :
    (v.unpublished t).Tidy ∧
      ∀ id kind, (v.unpublished t).store.has id kind =
        if t.publicationId = some id ∧ t.source ≠ .screenShareAudio then false
        else v.store.has id kind := by
  unfold unpublished
  cases t.publicationId with
  | none => exact ⟨h, fun id kind => by simp⟩
  | some id =>
      dsimp only
      split
      · next haudio => exact ⟨h, fun id kind => by simp [haudio]⟩
      · next hvideo =>
          obtain ⟨htidy, hhas⟩ := forget_spec h id
          refine ⟨htidy.syncViewers, fun id' kind => ?_⟩
          rw [has_syncViewers, hhas]
          simp [hvideo, eq_comm (a := id)]

/-- Dropping a publication from the store keeps it tidy, whether it is held or not. -/
theorem Tidy.dropPublication (h : v.Tidy) (id : PublicationId) :
    Tidy { v with store := v.store.dropPublication id } where
  shown := h.shown.dropPublication
  held id' hmem := h.held id' (mem_dropPublication hmem).2

theorem forget_foldl_spec (ids : List PublicationId) (h : v.Tidy) :
    (ids.foldl (fun v id => v.forget id) v).Tidy ∧
      ∀ id kind, (ids.foldl (fun v id => v.forget id) v).store.has id kind =
        if id ∈ ids then false else v.store.has id kind := by
  induction ids generalizing v with
  | nil => exact ⟨h, fun id kind => by simp⟩
  | cons first ids ih =>
      obtain ⟨htidy, hhas⟩ := forget_spec h first
      obtain ⟨htidy', hhas'⟩ := ih htidy
      refine ⟨htidy', fun id kind => ?_⟩
      rw [List.foldl_cons, hhas', hhas]
      by_cases hfirst : id = first
      · simp [hfirst]
      · simp [hfirst]

/-- Nothing of a person is left. -/
theorem forgetOwner_spec (h : v.Tidy) (owner : Identity) :
    (v.forgetOwner owner).Tidy ∧
      ∀ id kind, (v.forgetOwner owner).store.has id kind =
        if id.ownerId = owner then false else v.store.has id kind := by
  obtain ⟨htidy, hhas⟩ := forget_foldl_spec (v.remotes.keys.filter fun id => id.ownerId = owner) h
  refine ⟨(htidy.dropPublication _).dropPublication _, fun id kind => ?_⟩
  simp only [forgetOwner, MediaState.has_dropPublication, hhas]
  by_cases howner : id.ownerId = owner
  · obtain ⟨ownerId, source⟩ := id
    obtain rfl := howner
    cases source with
    | screen => simp
    | camera => simp
  · have hne : ∀ source, id ≠ ⟨owner, source⟩ := by
      rintro source rfl
      exact howner rfl
    simp [hne, howner]

end Handlers

/-! ## The invariant -/

structure Inv (me : Option Identity) (v : Viewer) : Prop where
  tidy : v.Tidy
  /-- What arrives according to the store is what is fed. -/
  agrees : ∀ id kind, v.store.has id kind = true ↔ (id, kind) ∈ v.room.fed me
  connected : ∀ sid t, v.room.publications.lookup sid = some t → t.identity ∈ v.room.participants

theorem inv_new (me : Option Identity) : Inv me new where
  tidy := ⟨MediaState.shown_initial, fun _ h => absurd h (AList.notMem_empty _)⟩
  agrees id kind := by
    constructor
    · intro h
      cases h
    · intro h
      cases h
  connected sid t h := by cases h

theorem Inv.agreement {me : Option Identity} {v : Viewer} (h : v.Inv me) : v.Agrees me := by
  intro id
  rw [h.tidy.shown.mem_iff]
  constructor
  · rintro ⟨kind, hhas⟩
    obtain ⟨sid, t, ht, hfeeds⟩ := mem_fed.mp ((h.agrees id kind).mp hhas)
    obtain ⟨hsubscribed, hother, source, hcarries, hid⟩ := feeds_eq_some.mp hfeeds
    simp only at hcarries hid
    refine ⟨t.identity, h.connected sid t ht, hother, ?_, t, AList.mem_vals_iff.mpr ⟨sid, ht⟩,
      rfl, hsubscribed, kind, ?_⟩
    · rw [hid]
    · rw [hid]
      exact hcarries
  · rintro ⟨identity, -, hother, howner, t, hmem, rfl, hsubscribed, kind, hcarries⟩
    obtain ⟨sid, ht⟩ := AList.mem_vals_iff.mp hmem
    refine ⟨kind, (h.agrees id kind).mpr (mem_fed.mpr ⟨sid, t, ht, ?_⟩)⟩
    refine feeds_eq_some.mpr ⟨hsubscribed, hother, id.source, hcarries, ?_⟩
    rw [howner]

/-- The room stays consistent whatever happens. -/
theorem connected_step {r : RoomView} {e : RoomEvent}
    (h : ∀ sid t, r.publications.lookup sid = some t → t.identity ∈ r.participants)
    (hpossible : r.Possible e) :
    ∀ sid t, (r.step e).publications.lookup sid = some t →
      t.identity ∈ (r.step e).participants := by
  intro sid t ht
  cases e with
  | participantConnected identity => exact List.mem_append_left _ (h sid t ht)
  | trackPublished sid' identity source kind =>
      simp only [RoomView.step, AList.lookup_insert_ite] at ht
      split at ht
      · obtain rfl := Option.some.inj ht
        exact hpossible.1
      · exact h sid t ht
  | trackSubscribed sid' =>
      simp only [RoomView.step, AList.lookup_modify] at ht
      split at ht
      · obtain ⟨old, hold, rfl⟩ := Option.map_eq_some_iff.mp ht
        exact h sid old hold
      · exact h sid t ht
  | trackUnsubscribed sid' =>
      simp only [RoomView.step, AList.lookup_modify] at ht
      split at ht
      · obtain ⟨old, hold, rfl⟩ := Option.map_eq_some_iff.mp ht
        exact h sid old hold
      · exact h sid t ht
  | trackUnpublished sid' =>
      simp only [RoomView.step, AList.lookup_erase_ite] at ht
      split at ht
      · cases ht
      · exact h sid t ht
  | participantDisconnected identity =>
      simp only [RoomView.step, AList.lookup_retain, Option.filter_eq_some_iff,
        decide_eq_true_eq] at ht
      exact List.mem_filter.mpr ⟨h sid t ht.1, by simpa using ht.2⟩

section Step

variable {me : Option Identity} {v : Viewer}

/-- An event that takes something away, and its handler: what the handler clears is
not fed any more, and what was fed and is not any more is cleared. -/
theorem Inv.of_cleared (h : v.Inv me) {e : RoomEvent} {next : Viewer} (htidy : next.Tidy)
    (hpossible : v.room.Possible e) (hroom : next.room = v.room.step e)
    (clears : PublicationId → TrackKind → Prop) [∀ id kind, Decidable (clears id kind)]
    (hhas : ∀ id kind, next.store.has id kind =
      if clears id kind then false else v.store.has id kind)
    (hless : ∀ slot, slot ∈ (v.room.step e).fed me → slot ∈ v.room.fed me)
    (hclean : ∀ slot ∈ (v.room.step e).fed me, ¬ clears slot.1 slot.2)
    (hrest : ∀ slot ∈ v.room.fed me,
      slot ∈ (v.room.step e).fed me ∨ clears slot.1 slot.2) : next.Inv me where
  tidy := htidy
  agrees id kind := by
    rw [hhas, hroom]
    by_cases hclear : clears id kind
    · rw [if_pos hclear]
      exact iff_of_false Bool.noConfusion fun hfed => hclean (id, kind) hfed hclear
    · rw [if_neg hclear, h.agrees]
      constructor
      · intro hfed
        exact (hrest (id, kind) hfed).resolve_right hclear
      · exact hless (id, kind)
  connected := by
    rw [hroom]
    exact connected_step h.connected hpossible

theorem Inv.trackSubscribed (h : v.Inv me) {sid : Nat} {t : RemoteTrack}
    (ht : v.room.publications.lookup sid = some t)
    (hpossible : v.room.Possible (.trackSubscribed sid)) :
    Inv me (adoptPublication me sid t { v with room := v.room.step (.trackSubscribed sid) }) := by
  have hbefore : Tidy { v with room := v.room.step (.trackSubscribed sid) } :=
    ⟨h.tidy.shown, h.tidy.held⟩
  obtain ⟨htidy, hhas⟩ := adoptPublication_spec me sid t hbefore
  refine ⟨htidy, fun id kind => ?_, ?_⟩
  · rw [hhas, room_adoptPublication, fed_subscribed ht]
    exact or_congr_right (h.agrees id kind)
  · rw [room_adoptPublication]
    exact connected_step h.connected hpossible

theorem Inv.trackUnsubscribed (h : v.Inv me) {sid : Nat} {t : RemoteTrack}
    (ht : v.room.publications.lookup sid = some t)
    (hpossible : v.room.Possible (.trackUnsubscribed sid))
    (hclean : v.Clean me (.trackUnsubscribed sid)) :
    Inv me (dropTrack t { v with room := v.room.step (.trackUnsubscribed sid) }) := by
  have hbefore : Tidy { v with room := v.room.step (.trackUnsubscribed sid) } :=
    ⟨h.tidy.shown, h.tidy.held⟩
  obtain ⟨htidy, hhas⟩ := dropTrack_spec (t := t) hbefore
  refine h.of_cleared htidy hpossible room_dropTrack _ hhas (fun _ => fed_of_unsubscribed) ?_ ?_
  · rintro slot hfed ⟨hid, hkind⟩
    exact hclean t ht slot hfed hid hkind
  · intro slot hfed
    rcases unsubscribed_or_fed ht hfed with hfeeds | hstill
    · exact .inr (feeds_slot hfeeds)
    · exact .inl hstill

theorem Inv.trackUnpublished (h : v.Inv me) {sid : Nat} {t : RemoteTrack}
    (ht : v.room.publications.lookup sid = some t)
    (hpossible : v.room.Possible (.trackUnpublished sid))
    (hclean : v.Clean me (.trackUnpublished sid)) :
    Inv me (unpublished t { v with room := v.room.step (.trackUnpublished sid) }) := by
  have hbefore : Tidy { v with room := v.room.step (.trackUnpublished sid) } :=
    ⟨h.tidy.shown, h.tidy.held⟩
  obtain ⟨htidy, hhas⟩ := unpublished_spec (t := t) hbefore
  have hthis := hclean t ht
  refine h.of_cleared htidy hpossible room_unpublished
    (fun id _ => t.publicationId = some id ∧ t.source ≠ .screenShareAudio) hhas
    (fun _ => fed_of_unpublished) ?_ ?_
  · rintro slot hfed ⟨hid, hvideo⟩
    rw [if_neg hvideo] at hthis
    exact hthis slot hfed hid
  · intro slot hfed
    rcases unpublished_or_fed ht hfed with hfeeds | hstill
    · refine .inr ⟨(feeds_slot hfeeds).1, fun haudio => ?_⟩
      rw [if_pos haudio, hfeeds] at hthis
      cases hthis
    · exact .inl hstill

theorem Inv.participantDisconnected (h : v.Inv me) {identity : Identity}
    (hpossible : v.room.Possible (.participantDisconnected identity))
    (hclean : v.Clean me (.participantDisconnected identity)) :
    Inv me (forgetOwner (ownerOf identity)
      { v with room := v.room.step (.participantDisconnected identity) }).syncViewers := by
  have hbefore : Tidy { v with room := v.room.step (.participantDisconnected identity) } :=
    ⟨h.tidy.shown, h.tidy.held⟩
  obtain ⟨htidy, hhas⟩ := forgetOwner_spec hbefore (ownerOf identity)
  refine h.of_cleared htidy.syncViewers hpossible (room_forgetOwner _)
    (fun id _ => id.ownerId = ownerOf identity) hhas ?_ hclean ?_
  · intro slot hfed
    obtain ⟨sid, t, ht, -, hfeeds⟩ := fed_disconnected.mp hfed
    exact mem_fed.mpr ⟨sid, t, ht, hfeeds⟩
  · intro slot hfed
    obtain ⟨sid, t, ht, hfeeds⟩ := mem_fed.mp hfed
    by_cases hsame : t.identity = identity
    · obtain ⟨-, -, source, -, hid⟩ := feeds_eq_some.mp hfeeds
      refine .inr ?_
      rw [hid, hsame]
    · exact .inl (fed_disconnected.mpr ⟨sid, t, ht, hsame, hfeeds⟩)

theorem Inv.step (h : v.Inv me) {e : RoomEvent} (hclean : v.Clean me e) :
    (v.step me e).Inv me := by
  unfold Viewer.step
  split
  · next hpossible =>
      cases e with
      | participantConnected identity =>
          exact ⟨⟨h.tidy.shown, h.tidy.held⟩, h.agrees, connected_step h.connected hpossible⟩
      | trackPublished sid identity source kind =>
          refine ⟨⟨h.tidy.shown, h.tidy.held⟩, fun id kind' => ?_,
            connected_step h.connected hpossible⟩
          exact (h.agrees id kind').trans (fed_published hpossible.2).symm
      | trackSubscribed sid =>
          obtain ⟨t, ht⟩ := Option.isSome_iff_exists.mp (AList.lookup_isSome.mpr hpossible)
          simp only [ht]
          exact h.trackSubscribed ht hpossible
      | trackUnsubscribed sid =>
          obtain ⟨t, ht⟩ := Option.isSome_iff_exists.mp (AList.lookup_isSome.mpr hpossible)
          simp only [ht]
          exact h.trackUnsubscribed ht hpossible hclean
      | trackUnpublished sid =>
          obtain ⟨t, ht⟩ := Option.isSome_iff_exists.mp (AList.lookup_isSome.mpr hpossible)
          simp only [ht]
          exact h.trackUnpublished ht hpossible hclean
      | participantDisconnected identity => exact h.participantDisconnected hpossible hclean
  · exact h

end Step

/-! ## Runs -/

/-- As long as every event is clean, the tiles are exactly what is subscribed. -/
theorem agrees_throughout (me : Option Identity) (events : List RoomEvent)
    (hclean : EachStep (step me) (Clean me) new events) :
    Throughout (step me) (Agrees me) new events := by
  have hinv : Throughout (step me) (Inv me) new events :=
    throughout_of_eachStep (fun _ _ h hstep => h.step hstep) (inv_new me) hclean
  exact hinv.mono fun _ h => h.agreement

/-- Ana shares a screen with its audio over her second connection, and stops; her
first connection goes last. -/
theorem shared_screen_agrees :
    Throughout (step none) (Agrees none) new
      [.participantConnected "ana".toList, .participantConnected "ana~pub".toList,
        .trackPublished 1 "ana~pub".toList .screenShare .video,
        .trackPublished 2 "ana~pub".toList .screenShareAudio .audio, .trackSubscribed 2,
        .trackSubscribed 1, .trackUnsubscribed 2, .trackUnpublished 2, .trackUnsubscribed 1,
        .trackUnpublished 1, .participantDisconnected "ana~pub".toList,
        .participantDisconnected "ana".toList] :=
  agrees_throughout none _ (by decide)

/-- Ana's first connection drops while the second one goes on sharing: her tile is
gone all the same. -/
theorem viewer_takes_the_tile_along :
    ¬ ∀ (me : Option Identity) (events : List RoomEvent),
      Throughout (step me) (Agrees me) new events := by
  intro h
  have hend := throughout_iff_initial.mp
    (h none [.participantConnected "ana".toList, .participantConnected "ana~pub".toList,
      .trackPublished 1 "ana~pub".toList .screenShare .video, .trackSubscribed 1,
      .participantDisconnected "ana".toList]) _ (List.prefix_refl _)
  have htile := (hend ⟨"ana".toList, .screen⟩).mpr
    ⟨"ana~pub".toList, by decide, rfl, by decide, _, List.mem_singleton_self _, rfl, rfl, .video,
      rfl⟩
  exact absurd htile (by decide)

end Viewer

end Desktop
end Ldktela
