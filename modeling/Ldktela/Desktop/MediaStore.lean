import Ldktela.Lib.Keyed
import Ldktela.Protocol

/-!
# The tiles of the media store

`desktop/src/store/media.ts`, the part that says which publications of other people
are received, with `publication.ts` for their ids.  A publication has a video, an
audio or both; `has` says which, and there is one lemma for each operation that says
what it does to it.
-/

namespace Ldktela
namespace Desktop

open Protocol

/-! ## Identities and ids -/

/-- The identity of a LiveKit participant. -/
abbrev Identity := List Char

/-- The suffix the server gives the publishing connection. -/
def publisherSuffix : List Char := "~pub".toList

/-- Both connections of a person have one owner. -/
def ownerOf (identity : Identity) : Identity :=
  if publisherSuffix.isSuffixOf identity then
    identity.take (identity.length - publisherSuffix.length)
  else
    identity

/-- A publication: a person and a source. -/
structure PublicationId where
  ownerId : Identity
  source : PublicationSource
deriving DecidableEq

inductive TrackKind where
  | video
  | audio
deriving DecidableEq

inductive QualityChoice where
  | auto
  | high
  | low
deriving DecidableEq

/-! ## The store -/

/-- One publication that is received. -/
structure PublicationState where
  hasVideo : Bool
  hasAudio : Bool
  /-- From 0 to 1. -/
  volume : Rat
  quality : QualityChoice
  /-- Whether this viewer wants the publication at all. -/
  subscribed : Bool

namespace PublicationState

def blank : PublicationState where
  hasVideo := false
  hasAudio := false
  volume := 1
  quality := .auto
  subscribed := true

def has (kind : TrackKind) (p : PublicationState) : Bool :=
  match kind with
  | .video => p.hasVideo
  | .audio => p.hasAudio

/-- Sets or clears the flag of a kind. -/
def set (kind : TrackKind) (value : Bool) (p : PublicationState) : PublicationState :=
  match kind with
  | .video => { p with hasVideo := value }
  | .audio => { p with hasAudio := value }

theorem has_set (kind kind' : TrackKind) (value : Bool) (p : PublicationState) :
    (p.set kind value).has kind' = if kind' = kind then value else p.has kind' := by
  cases kind with
  | video => cases kind' with
      | video => rfl
      | audio => rfl
  | audio => cases kind' with
      | video => rfl
      | audio => rfl

@[simp]
theorem subscribed_set (kind : TrackKind) (value : Bool) (p : PublicationState) :
    (p.set kind value).subscribed = p.subscribed := by
  cases kind with
  | video => rfl
  | audio => rfl

@[simp]
theorem volume_set (kind : TrackKind) (value : Bool) (p : PublicationState) :
    (p.set kind value).volume = p.volume := by
  cases kind with
  | video => rfl
  | audio => rfl

/-- Setting flags to what they are changes nothing. -/
theorem set_eq_self {kind : TrackKind} {value : Bool} {p : PublicationState}
    (hvideo : p.hasVideo = (p.set kind value).hasVideo)
    (haudio : p.hasAudio = (p.set kind value).hasAudio) : p.set kind value = p := by
  cases kind with
  | video =>
      cases p
      simp only [set] at hvideo ⊢
      rw [← hvideo]
  | audio =>
      cases p
      simp only [set] at haudio ⊢
      rw [← haudio]

end PublicationState

structure MediaState where
  publications : Table PublicationId PublicationState
  /-- Arrival order, so the grid does not reshuffle on every render. -/
  publicationOrder : List PublicationId
  /-- Publication shown large. -/
  focused : Option PublicationId
  /-- Publication currently in the picture-in-picture window. -/
  detached : Option PublicationId
  /-- Identities connected to the media room, minus ourselves: the viewers. -/
  viewerIds : List Identity

namespace MediaState

def initial : MediaState := ⟨∅, [], none, none, []⟩

/-- Created by whichever track lands first. -/
def withTrack (id : PublicationId) (kind : TrackKind) (state : MediaState) : MediaState :=
  let existing := (state.publications.lookup id).getD .blank
  let updated := existing.set kind true
  if existing.hasVideo = updated.hasVideo ∧ existing.hasAudio = updated.hasAudio ∧
      (state.publications.lookup id).isSome then
    state
  else
    { state with
      publications := state.publications.insert id updated
      publicationOrder :=
        if id ∈ state.publicationOrder then state.publicationOrder
        else state.publicationOrder ++ [id] }

/-- Removes a publication, and whatever points to it. -/
def dropPublication (id : PublicationId) (state : MediaState) : MediaState :=
  match state.publications.lookup id with
  | none => state
  | some _ =>
      { state with
        publications := state.publications.erase id
        publicationOrder := state.publicationOrder.filter fun existing => existing ≠ id
        focused := if state.focused = some id then none else state.focused
        detached := if state.detached = some id then none else state.detached }

/-- A publication only disappears when both tracks are gone, and one that the viewer
left does not even then. -/
def withoutTrack (id : PublicationId) (kind : TrackKind) (state : MediaState) : MediaState :=
  match state.publications.lookup id with
  | none => state
  | some existing =>
      let updated := existing.set kind false
      if updated.hasVideo || updated.hasAudio || !updated.subscribed then
        { state with publications := state.publications.insert id updated }
      else
        -- nothing of this publication arrives any more
        { state with
          publications := state.publications.erase id
          publicationOrder := state.publicationOrder.filter fun existing => existing ≠ id
          focused := if state.focused = some id then none else state.focused
          detached := if state.detached = some id then none else state.detached }

def setViewerIds (viewerIds : List Identity) (state : MediaState) : MediaState :=
  { state with viewerIds := viewerIds }

/-! ## What is received -/

/-- The store says that a track of this kind arrives for the publication. -/
def has (id : PublicationId) (kind : TrackKind) (state : MediaState) : Bool :=
  match state.publications.lookup id with
  | some p => p.has kind
  | none => false

/-- Every tile is wanted, and something arrives for it. -/
def Shown (state : MediaState) : Prop :=
  ∀ id p, state.publications.lookup id = some p →
    p.subscribed = true ∧ ∃ kind, p.has kind = true

variable {state : MediaState} {id id' : PublicationId} {kind kind' : TrackKind}

theorem shown_initial : initial.Shown := by
  intro id p h
  cases h

/-- In such a store there is a tile exactly where something arrives. -/
theorem Shown.mem_iff (h : state.Shown) :
    id ∈ state.publications ↔ ∃ kind, state.has id kind = true := by
  rw [← AList.lookup_isSome, Option.isSome_iff_exists]
  unfold has
  constructor
  · rintro ⟨p, hp⟩
    rw [hp]
    exact (h id p hp).2
  · rintro ⟨kind, hkind⟩
    split at hkind
    · next p hp => exact ⟨p, hp⟩
    · cases hkind

theorem lookup_withTrack :
    (state.withTrack id kind).publications.lookup id' =
      if id' = id then some (((state.publications.lookup id).getD .blank).set kind true)
      else state.publications.lookup id' := by
  unfold withTrack
  dsimp only
  split
  · next hsame =>
      obtain ⟨hvideo, haudio, hsome⟩ := hsame
      obtain ⟨p, hp⟩ := Option.isSome_iff_exists.mp hsome
      split
      · next hid =>
          rw [PublicationState.set_eq_self hvideo haudio, hid, hp]
          rfl
      · rfl
  · exact AList.lookup_insert_ite _ _ _ _

theorem lookup_dropPublication :
    (state.dropPublication id).publications.lookup id' =
      if id' = id then none else state.publications.lookup id' := by
  unfold dropPublication
  split
  · next hnone =>
      split
      · next hid => rw [hid, hnone]
      · rfl
  · exact AList.lookup_erase_ite _ _ _

/-- A track that arrives is received, and nothing else changes. -/
theorem has_withTrack :
    (state.withTrack id kind).has id' kind' = true ↔
      (id = id' ∧ kind = kind') ∨ state.has id' kind' = true := by
  unfold has
  rw [lookup_withTrack]
  by_cases hid : id' = id
  · subst hid
    simp only [if_true, true_and, PublicationState.has_set]
    by_cases hkind : kind' = kind
    · simp [hkind]
    · have hkind' : ¬ kind = kind' := fun heq => hkind heq.symm
      simp only [hkind, hkind', if_false, false_or]
      cases state.publications.lookup id' with
      | none => cases kind' with
          | video => rfl
          | audio => rfl
      | some p => rfl
  · have hid' : ¬ id = id' := fun heq => hid heq.symm
    simp only [hid, hid', if_false, false_and, false_or]

theorem has_dropPublication :
    (state.dropPublication id).has id' kind =
      if id' = id then false else state.has id' kind := by
  unfold has
  rw [lookup_dropPublication]
  by_cases hid : id' = id
  · simp only [hid, if_true]
  · simp only [hid, if_false]

/-- What is left of a publication without one of its tracks. -/
theorem lookup_withoutTrack {p : PublicationState} (hp : state.publications.lookup id = some p) :
    (state.withoutTrack id kind).publications.lookup id' =
      if id' = id then
        if (p.set kind false).hasVideo || (p.set kind false).hasAudio ||
            !(p.set kind false).subscribed then
          some (p.set kind false)
        else none
      else state.publications.lookup id' := by
  unfold withoutTrack
  rw [hp]
  dsimp only
  split
  · rw [AList.lookup_insert_ite]
  · rw [AList.lookup_erase_ite]

theorem has_withoutTrack :
    (state.withoutTrack id kind).has id' kind' =
      if id' = id ∧ kind' = kind then false else state.has id' kind' := by
  cases hp : state.publications.lookup id with
  | none =>
      have hsame : state.withoutTrack id kind = state := by
        rw [withoutTrack, hp]
      rw [hsame]
      split
      · next hboth => rw [has, hboth.1, hp]
      · rfl
  | some p =>
      unfold has
      rw [lookup_withoutTrack hp]
      by_cases hid : id' = id
      · subst hid
        simp only [if_true, true_and, hp]
        rw [← PublicationState.has_set]
        by_cases hleft : ((p.set kind false).hasVideo || (p.set kind false).hasAudio ||
            !(p.set kind false).subscribed) = true
        · rw [if_pos hleft]
        · rw [if_neg hleft]
          simp only [Bool.or_eq_true, not_or, Bool.not_eq_true] at hleft
          cases kind' with
          | video => exact hleft.1.1.symm
          | audio => exact hleft.1.2.symm
      · simp only [hid, if_false, false_and]

theorem Shown.withTrack (h : state.Shown) : (state.withTrack id kind).Shown := by
  intro id' p hp
  rw [lookup_withTrack] at hp
  split at hp
  · obtain rfl := Option.some.inj hp
    refine ⟨?_, kind, ?_⟩
    · rw [PublicationState.subscribed_set]
      cases hexisting : state.publications.lookup id with
      | none => rfl
      | some existing => exact (h id existing hexisting).1
    · rw [PublicationState.has_set, if_pos rfl]
  · exact h id' p hp

theorem Shown.dropPublication (h : state.Shown) : (state.dropPublication id).Shown := by
  intro id' p hp
  rw [lookup_dropPublication] at hp
  split at hp
  · cases hp
  · exact h id' p hp

theorem Shown.withoutTrack (h : state.Shown) : (state.withoutTrack id kind).Shown := by
  cases hexisting : state.publications.lookup id with
  | none =>
      rw [MediaState.withoutTrack, hexisting]
      exact h
  | some existing =>
      have hwanted : (existing.set kind false).subscribed = true :=
        (PublicationState.subscribed_set kind false existing).trans (h id existing hexisting).1
      intro id' p hp
      rw [lookup_withoutTrack hexisting] at hp
      split at hp
      · split at hp
        · next hleft =>
            obtain rfl := Option.some.inj hp
            refine ⟨hwanted, ?_⟩
            rw [hwanted, Bool.not_true, Bool.or_false, Bool.or_eq_true] at hleft
            rcases hleft with hvideo | haudio
            · exact ⟨.video, hvideo⟩
            · exact ⟨.audio, haudio⟩
        · cases hp
      · exact h id' p hp

end MediaState

end Desktop
end Ldktela
