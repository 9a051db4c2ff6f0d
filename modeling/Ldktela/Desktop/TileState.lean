import Mathlib.Algebra.Order.Ring.Unbundled.Rat
import Ldktela.Desktop.MediaStore
import Ldktela.Desktop.Sharing

/-!
# The whole media store

`desktop/src/store/media.ts`, `useMediaStore`: the publications of `MediaStore` together
with what the store says about our own shares, and every action of it.  A tile is a
publication in the store, or the local preview of one of our own sources while it is
live.

`TilesCoherent` says that the order and the record agree, that volumes are between 0 and
1, that what is focused and what is detached is a tile, and that nothing is exclusive
without a focus.  Two kinds of actions break it: those that take the focus away without
ending the exclusive mode, and the end of an own share whose preview is detached.
`tilesCoherent_iff_keeps` says exactly which runs stay coherent.
-/

namespace Ldktela
namespace Desktop

open Protocol Runs

inductive MediaConnection where
  | idle
  | connecting
  | connected
  | reconnecting
  | failed
deriving DecidableEq

inductive MediaFault where
  | duplicateIdentity
  | unreachable
deriving DecidableEq

inductive PublishPreset where
  | p1080x60
  | p1080x30
  | p720x60
  | p720x30
deriving DecidableEq

/-- What we are sending from the camera.  The statistics are stored and never read. -/
structure CameraShare (Stats : Type) where
  publishing : Bool
  starting : Bool
  deviceId : Option String
  deviceName : Option String
  stats : Option Stats

/-- The argument of `setCameraPublishing`. -/
structure CameraDevice where
  id : String
  name : String

/-- A number of the interface that is not NaN. -/
inductive Number where
  | finite (value : Rat)
  | infinity
  | minusInfinity

/-- `Math.min(1, Math.max(0, volume))`. -/
def Number.clamped : Number → Rat
  | .finite value => min 1 (max 0 value)
  | .infinity => 1
  | .minusInfinity => 0

theorem Number.clamped_mem (volume : Number) : 0 ≤ volume.clamped ∧ volume.clamped ≤ 1 := by
  cases volume with
  | finite value =>
      have hone : (0 : Rat) ≤ 1 := by decide
      exact ⟨le_min hone (le_max_left 0 value), min_le_left 1 (max 0 value)⟩
  | infinity => decide
  | minusInfinity => decide

/-- The owner of the local previews.  It is not an identity of the SFU. -/
def selfOwner : Identity := "~self".toList

def selfPublication (source : PublicationSource) : PublicationId := ⟨selfOwner, source⟩

structure MediaStore (Stats : Type) extends MediaState where
  connection : MediaConnection
  fault : Option MediaFault
  /-- From the moment our screen track is published until it is dropped. -/
  publishing : Bool
  sharingTitle : Option String
  starting : Bool
  sharingAudio : Bool
  audioMode : Option Core.AudioModeReport
  publishPreset : PublishPreset
  shareAudio : Bool
  camera : CameraShare Stats
  /-- While something is focused, hide the other screens. -/
  solo : Bool
  stats : Option Stats

inductive MediaAction (Stats : Type) where
  | setConnection (connection : MediaConnection) (fault : Option MediaFault)
  | setPublishing (publishing sharingAudio : Bool) (audioMode : Option Core.AudioModeReport)
      (title : Option String)
  | setStarting (starting : Bool)
  | setPublishPreset (preset : PublishPreset)
  | setShareAudio (shareAudio : Bool)
  | setCameraPublishing (device : Option CameraDevice)
  | setCameraStarting (starting : Bool)
  | setCameraStats (stats : Option Stats)
  | addTrack (id : PublicationId) (kind : TrackKind)
  | removeTrack (id : PublicationId) (kind : TrackKind)
  | setVolume (id : PublicationId) (volume : Number)
  | setQuality (id : PublicationId) (quality : QualityChoice)
  | setSubscribed (id : PublicationId) (subscribed : Bool)
  | dropPublication (id : PublicationId)
  | focus (id : Option PublicationId)
  | setSolo (solo : Bool)
  | setDetached (id : Option PublicationId)
  | setViewerIds (ids : List Identity)
  | setStats (stats : Option Stats)
  | reset

namespace MediaStore

variable {Stats : Type}

def noCamera : CameraShare Stats := ⟨false, false, none, none, none⟩

def initial : MediaStore Stats where
  toMediaState := MediaState.initial
  connection := .idle
  fault := none
  publishing := false
  sharingTitle := none
  starting := false
  sharingAudio := false
  audioMode := none
  publishPreset := .p1080x60
  shareAudio := true
  camera := noCamera
  solo := false
  stats := none

/-- What `setVolume`, `setQuality` and `setSubscribed` have in common: an id that is not
in the store is ignored. -/
def changePublication (s : MediaStore Stats) (id : PublicationId)
    (change : PublicationState → PublicationState) : MediaStore Stats :=
  match s.publications.lookup id with
  | none => s
  | some publication => { s with publications := s.publications.insert id (change publication) }

def step (s : MediaStore Stats) : MediaAction Stats → MediaStore Stats
  | .setConnection connection fault =>
      -- a fault does not outlive its own reason
      { s with connection, fault := if connection = .failed then fault else none }
  | .setPublishing true sharingAudio audioMode title =>
      { s with publishing := true, sharingAudio, audioMode, starting := false,
               sharingTitle := title }
  | .setPublishing false sharingAudio _ _ =>
      { s with publishing := false, sharingAudio, audioMode := none, starting := false,
               stats := none, sharingTitle := none, focused := none }
  | .setStarting starting => { s with starting }
  | .setPublishPreset publishPreset => { s with publishPreset }
  | .setShareAudio shareAudio => { s with shareAudio }
  | .setCameraPublishing none =>
      { s with
        camera := noCamera
        focused := if s.focused = some (selfPublication .camera) then none else s.focused }
  | .setCameraPublishing (some device) =>
      { s with camera := ⟨true, false, some device.id, some device.name, s.camera.stats⟩ }
  | .setCameraStarting starting => { s with camera := { s.camera with starting } }
  | .setCameraStats stats => { s with camera := { s.camera with stats } }
  | .addTrack id kind => { s with toMediaState := s.toMediaState.withTrack id kind }
  | .removeTrack id kind => { s with toMediaState := s.toMediaState.withoutTrack id kind }
  | .setVolume id volume => s.changePublication id fun p => { p with volume := volume.clamped }
  | .setQuality id quality => s.changePublication id fun p => { p with quality }
  | .setSubscribed id subscribed => s.changePublication id fun p => { p with subscribed }
  | .dropPublication id => { s with toMediaState := s.toMediaState.dropPublication id }
  | .focus none => { s with focused := none, solo := false }
  | .focus (some id) => { s with focused := some id }
  | .setSolo solo => { s with solo }
  | .setDetached detached => { s with detached }
  | .setViewerIds viewerIds => { s with toMediaState := s.toMediaState.setViewerIds viewerIds }
  | .setStats stats => { s with stats }
  | .reset => initial

/-! ## Coherence -/

/-- The preview of one of our own sources, while it is live. -/
def OwnPreview (s : MediaStore Stats) (id : PublicationId) : Prop :=
  (id = selfPublication .screen ∧ s.publishing = true) ∨
    (id = selfPublication .camera ∧ s.camera.publishing = true)

/-- There is a tile for the id. -/
def HasTile (s : MediaStore Stats) (id : PublicationId) : Prop :=
  id ∈ s.publications ∨ s.OwnPreview id

structure TilesCoherent (s : MediaStore Stats) : Prop where
  nodup_publicationOrder : s.publicationOrder.Nodup
  mem_publicationOrder : ∀ id, id ∈ s.publicationOrder ↔ id ∈ s.publications
  volume_mem : ∀ id p, s.publications.lookup id = some p → 0 ≤ p.volume ∧ p.volume ≤ 1
  focused : ∀ id, s.focused = some id → s.HasTile id
  detached : ∀ id, s.detached = some id → s.HasTile id
  solo : s.focused = none → s.solo = false

/-- What the interface asks for: it focuses and detaches tiles, and makes a focus
exclusive. -/
def Allowed (s : MediaStore Stats) : MediaAction Stats → Prop
  | .focus (some id) => s.HasTile id
  | .setDetached (some id) => s.HasTile id
  | .setSolo true => s.focused ≠ none
  | _ => True

/-- Nothing but the track of this kind arrives for a publication that is wanted. -/
def IsLastTrack (s : MediaStore Stats) (id : PublicationId) (kind : TrackKind) : Prop :=
  ∃ p, s.publications.lookup id = some p ∧ p.subscribed = true ∧
    (p.set kind false).hasVideo = false ∧ (p.set kind false).hasAudio = false

/-- The action does not take the focus of the exclusive mode away, and ends no own share
whose preview is detached. -/
def Keeps (s : MediaStore Stats) : MediaAction Stats → Prop
  | .removeTrack id kind => s.solo = true → s.focused = some id → ¬ s.IsLastTrack id kind
  | .dropPublication id => s.solo = true → s.focused = some id → id ∉ s.publications
  | .setPublishing false _ _ _ =>
      s.solo = false ∧
        (s.detached = some (selfPublication .screen) → selfPublication .screen ∈ s.publications)
  | .setCameraPublishing none =>
      (s.solo = true → s.focused ≠ some (selfPublication .camera)) ∧
        (s.detached = some (selfPublication .camera) → selfPublication .camera ∈ s.publications)
  | _ => True

section Steps

variable {s : MediaStore Stats} {id : PublicationId}

theorem tilesCoherent_initial : TilesCoherent (initial : MediaStore Stats) where
  nodup_publicationOrder := List.nodup_nil
  mem_publicationOrder _ := by simp [initial, MediaState.initial]
  volume_mem _ _ h := by cases h
  focused _ h := by cases h
  detached _ h := by cases h
  solo _ := rfl

/-- A publication in the store is replaced, and the tiles stay. -/
theorem TilesCoherent.replace (h : s.TilesCoherent) (hid : id ∈ s.publications)
    {p : PublicationState} (hvolume : 0 ≤ p.volume ∧ p.volume ≤ 1) :
    TilesCoherent { s with publications := s.publications.insert id p } := by
  have hmem : ∀ id', id' ∈ s.publications.insert id p ↔ id' ∈ s.publications := by
    intro id'
    rw [AList.mem_insert]
    constructor
    · rintro (rfl | hmem)
      · exact hid
      · exact hmem
    · exact .inr
  have htile : ∀ id', s.HasTile id' →
      HasTile { s with publications := s.publications.insert id p } id' := by
    rintro id' (hmem' | hown)
    · exact .inl ((hmem id').mpr hmem')
    · exact .inr hown
  constructor
  · exact h.nodup_publicationOrder
  · intro id'
    rw [hmem]
    exact h.mem_publicationOrder id'
  · intro id' p' hp'
    rw [AList.lookup_insert_ite] at hp'
    split at hp'
    · obtain rfl := Option.some.inj hp'
      exact hvolume
    · exact h.volume_mem id' p' hp'
  · exact fun id' hfocused => htile id' (h.focused id' hfocused)
  · exact fun id' hdetached => htile id' (h.detached id' hdetached)
  · exact h.solo

theorem TilesCoherent.changePublication (h : s.TilesCoherent)
    {change : PublicationState → PublicationState}
    (hvolume : ∀ p, 0 ≤ p.volume ∧ p.volume ≤ 1 →
      0 ≤ (change p).volume ∧ (change p).volume ≤ 1) :
    TilesCoherent (s.changePublication id change) := by
  unfold MediaStore.changePublication
  split
  · exact h
  · next p hp =>
      exact h.replace (AList.lookup_isSome.mp (by rw [hp]; rfl))
        (hvolume p (h.volume_mem id p hp))

theorem TilesCoherent.withTrack (h : s.TilesCoherent) (kind : TrackKind) :
    TilesCoherent { s with toMediaState := s.toMediaState.withTrack id kind } := by
  unfold MediaState.withTrack
  dsimp only
  split
  · exact h
  · cases hp : s.publications.lookup id with
    | some p =>
        have hid : id ∈ s.publications := AList.lookup_isSome.mp (by rw [hp]; rfl)
        rw [if_pos ((h.mem_publicationOrder id).mpr hid)]
        apply h.replace hid
        rw [PublicationState.volume_set]
        exact h.volume_mem id p hp
    | none =>
        -- a publication that is new comes last
        have hid : id ∉ s.publications := AList.lookup_eq_none.mp hp
        have horder : id ∉ s.publicationOrder := fun hmem =>
          hid ((h.mem_publicationOrder id).mp hmem)
        rw [if_neg horder]
        constructor
        · simpa using List.Nodup.concat horder h.nodup_publicationOrder
        · intro id'
          dsimp only
          rw [List.mem_append, List.mem_singleton, AList.mem_insert, h.mem_publicationOrder,
            or_comm]
        · intro id' p' hp'
          dsimp only at hp'
          rw [AList.lookup_insert_ite] at hp'
          split at hp'
          · obtain rfl := Option.some.inj hp'
            rw [PublicationState.volume_set]
            exact ⟨by decide, by decide⟩
          · exact h.volume_mem id' p' hp'
        · intro id' hfocused
          exact (h.focused id' hfocused).imp_left fun hmem =>
            (AList.mem_insert _).mpr (.inr hmem)
        · intro id' hdetached
          exact (h.detached id' hdetached).imp_left fun hmem =>
            (AList.mem_insert _).mpr (.inr hmem)
        · exact h.solo

/-- The focus on a publication that is dropped goes with it. -/
theorem TilesCoherent.dropPublication_iff (h : s.TilesCoherent) (hid : id ∈ s.publications) :
    TilesCoherent { s with toMediaState := s.toMediaState.dropPublication id } ↔
      (s.solo = true → s.focused ≠ some id) := by
  obtain ⟨p, hp⟩ := Option.isSome_iff_exists.mp (AList.lookup_isSome.mpr hid)
  -- another tile than the one that goes is still there
  have hothers : ∀ pointer id', (if pointer = some id then none else pointer) = some id' →
      (pointer = some id' → s.HasTile id') →
        id' ∈ s.publications.erase id ∨ s.OwnPreview id' := by
    intro pointer id' hpointer htile
    split at hpointer
    · cases hpointer
    · next hne =>
        apply (htile hpointer).imp_left
        intro hmem
        refine AList.mem_erase.mpr ⟨?_, hmem⟩
        rintro rfl
        exact hne hpointer
  unfold MediaState.dropPublication
  rw [hp]
  constructor
  · intro hafter hsolo hfocused
    have hoff : s.solo = false := hafter.solo (if_pos hfocused)
    rw [hsolo] at hoff
    cases hoff
  · intro hkeeps
    constructor
    · exact h.nodup_publicationOrder.filter _
    · intro id'
      dsimp only
      rw [List.mem_filter, AList.mem_erase, h.mem_publicationOrder, decide_eq_true_eq, and_comm]
    · intro id' p' hp'
      dsimp only at hp'
      rw [AList.lookup_erase_ite] at hp'
      split at hp'
      · cases hp'
      · exact h.volume_mem id' p' hp'
    · exact fun id' hfocused => hothers s.focused id' hfocused (h.focused id')
    · exact fun id' hdetached => hothers s.detached id' hdetached (h.detached id')
    · intro hnone
      dsimp only at hnone ⊢
      split at hnone
      · next hfocused =>
          by_contra hsolo
          exact hkeeps (by simpa using hsolo) hfocused
      · exact h.solo hnone

theorem withoutTrack_eq_of_isLastTrack {kind : TrackKind} (hlast : s.IsLastTrack id kind) :
    s.toMediaState.withoutTrack id kind = s.toMediaState.dropPublication id := by
  obtain ⟨p, hp, hwanted, hvideo, haudio⟩ := hlast
  rw [MediaState.withoutTrack, MediaState.dropPublication, hp]
  simp [hwanted, hvideo, haudio]

theorem TilesCoherent.withoutTrack (h : s.TilesCoherent) {kind : TrackKind}
    (hlast : ¬ s.IsLastTrack id kind) :
    TilesCoherent { s with toMediaState := s.toMediaState.withoutTrack id kind } := by
  cases hp : s.publications.lookup id with
  | none =>
      rw [MediaState.withoutTrack, hp]
      exact h
  | some p =>
      have hleft : ((p.set kind false).hasVideo || (p.set kind false).hasAudio ||
          !(p.set kind false).subscribed) = true := by
        by_contra hnothing
        simp only [Bool.or_eq_true, not_or, Bool.not_eq_true, Bool.not_eq_true',
          PublicationState.subscribed_set, Bool.not_eq_false] at hnothing
        exact hlast ⟨p, hp, hnothing.2, hnothing.1.1, hnothing.1.2⟩
      rw [MediaState.withoutTrack, hp]
      dsimp only
      rw [if_pos hleft]
      apply h.replace (AList.lookup_isSome.mp (by rw [hp]; rfl))
      rw [PublicationState.volume_set]
      exact h.volume_mem id p hp

theorem selfPublication_screen_ne_camera :
    selfPublication .screen ≠ selfPublication .camera := by
  decide

/-- The end of the screen share takes the focus away, whatever it is on. -/
theorem TilesCoherent.setPublishing_false_iff (h : s.TilesCoherent) (sharingAudio : Bool)
    (audioMode : Option Core.AudioModeReport) (title : Option String) :
    TilesCoherent (s.step (.setPublishing false sharingAudio audioMode title)) ↔
      s.solo = false ∧
        (s.detached = some (selfPublication .screen) →
          selfPublication .screen ∈ s.publications) := by
  constructor
  · intro hafter
    refine ⟨hafter.solo rfl, fun hdetached => ?_⟩
    obtain hmem | ⟨-, hlive⟩ | ⟨hcamera, -⟩ := hafter.detached _ hdetached
    · exact hmem
    · cases hlive
    · exact absurd hcamera selfPublication_screen_ne_camera
  · rintro ⟨hsolo, hscreen⟩
    refine { h with focused := ?_, detached := ?_, solo := fun _ => hsolo }
    · rintro id' ⟨⟩
    · intro id' hdetached
      obtain hmem | ⟨rfl, -⟩ | hcamera := h.detached id' hdetached
      · exact .inl hmem
      · exact .inl (hscreen hdetached)
      · exact .inr (.inr hcamera)

theorem TilesCoherent.setCameraPublishing_none_iff (h : s.TilesCoherent) :
    TilesCoherent (s.step (.setCameraPublishing none)) ↔
      (s.solo = true → s.focused ≠ some (selfPublication .camera)) ∧
        (s.detached = some (selfPublication .camera) →
          selfPublication .camera ∈ s.publications) := by
  constructor
  · intro hafter
    constructor
    · intro hsolo hfocused
      -- the focus is gone, so the exclusive mode has to be off
      have hoff : s.solo = false := hafter.solo (if_pos hfocused)
      rw [hsolo] at hoff
      cases hoff
    · intro hdetached
      obtain hmem | ⟨hscreen, -⟩ | ⟨-, hlive⟩ := hafter.detached _ hdetached
      · exact hmem
      · exact absurd hscreen.symm selfPublication_screen_ne_camera
      · cases hlive
  · rintro ⟨hkeeps, hcamera⟩
    refine { h with focused := ?_, detached := ?_, solo := ?_ }
    · intro id' hfocused
      dsimp only [step] at hfocused
      split at hfocused
      · cases hfocused
      · next hne =>
          obtain hmem | hscreen | ⟨rfl, -⟩ := h.focused id' hfocused
          · exact .inl hmem
          · exact .inr (.inl hscreen)
          · exact absurd hfocused hne
    · intro id' hdetached
      obtain hmem | hscreen | ⟨rfl, -⟩ := h.detached id' hdetached
      · exact .inl hmem
      · exact .inr (.inl hscreen)
      · exact .inl (hcamera hdetached)
    · intro hnone
      dsimp only [step] at hnone ⊢
      split at hnone
      · next hfocused =>
          by_contra hsolo
          exact hkeeps (by simpa using hsolo) hfocused
      · exact h.solo hnone

/-- An action of the interface keeps the tiles coherent exactly when it meets `Keeps`. -/
theorem TilesCoherent.step_iff (h : s.TilesCoherent) {action : MediaAction Stats}
    (hallowed : s.Allowed action) : (s.step action).TilesCoherent ↔ s.Keeps action := by
  cases action with
  | setPublishing publishing sharingAudio audioMode title =>
      cases publishing with
      | true =>
          refine iff_of_true { h with focused := ?_, detached := ?_ } trivial
          · exact fun id hfocused => (h.focused id hfocused).imp_right
              (Or.imp_left fun hscreen => ⟨hscreen.1, rfl⟩)
          · exact fun id hdetached => (h.detached id hdetached).imp_right
              (Or.imp_left fun hscreen => ⟨hscreen.1, rfl⟩)
      | false => exact h.setPublishing_false_iff sharingAudio audioMode title
  | setCameraPublishing device =>
      cases device with
      | none => exact h.setCameraPublishing_none_iff
      | some device =>
          refine iff_of_true { h with focused := ?_, detached := ?_ } trivial
          · exact fun id hfocused => (h.focused id hfocused).imp_right
              (Or.imp_right fun hcamera => ⟨hcamera.1, rfl⟩)
          · exact fun id hdetached => (h.detached id hdetached).imp_right
              (Or.imp_right fun hcamera => ⟨hcamera.1, rfl⟩)
  | addTrack id kind => exact iff_of_true (h.withTrack kind) trivial
  -- the last track takes the publication along, so this is the drop of a publication
  | removeTrack id kind =>
      by_cases hlast : s.IsLastTrack id kind
      · have hid : id ∈ s.publications := by
          obtain ⟨p, hp, -⟩ := hlast
          exact AList.lookup_isSome.mp (by rw [hp]; rfl)
        rw [step, withoutTrack_eq_of_isLastTrack hlast, h.dropPublication_iff hid]
        constructor
        · exact fun hkeeps hsolo hfocused => absurd hfocused (hkeeps hsolo)
        · exact fun hkeeps hsolo hfocused => hkeeps hsolo hfocused hlast
      · exact iff_of_true (h.withoutTrack hlast) fun _ _ => hlast
  | setVolume id volume =>
      exact iff_of_true (h.changePublication fun _ _ => volume.clamped_mem) trivial
  | setQuality id quality => exact iff_of_true (h.changePublication fun _ hp => hp) trivial
  | setSubscribed id subscribed =>
      exact iff_of_true (h.changePublication fun _ hp => hp) trivial
  | dropPublication id =>
      by_cases hid : id ∈ s.publications
      · rw [step, h.dropPublication_iff hid]
        constructor
        · exact fun hkeeps hsolo hfocused => absurd hfocused (hkeeps hsolo)
        · exact fun hkeeps hsolo hfocused => hkeeps hsolo hfocused hid
      · have hsame : s.step (.dropPublication id) = s := by
          rw [step, MediaState.dropPublication, AList.lookup_eq_none.mpr hid]
        rw [hsame]
        exact iff_of_true h fun _ _ => hid
  | focus focused =>
      cases focused with
      | none =>
          refine iff_of_true { h with focused := ?_, solo := fun _ => rfl } trivial
          rintro id ⟨⟩
      | some id =>
          refine iff_of_true { h with focused := ?_, solo := ?_ } trivial
          · rintro id' ⟨⟩
            exact hallowed
          · rintro ⟨⟩
  -- the interface offers the exclusive mode only with something in focus
  | setSolo solo =>
      refine iff_of_true { h with solo := ?_ } trivial
      intro hnone
      cases solo with
      | false => rfl
      | true => exact absurd hnone hallowed
  | setDetached detached =>
      refine iff_of_true { h with detached := ?_ } trivial
      rintro id ⟨⟩
      exact hallowed
  | reset => exact iff_of_true tilesCoherent_initial trivial
  | setConnection connection fault => exact iff_of_true { h with } trivial
  | setStarting starting => exact iff_of_true { h with } trivial
  | setPublishPreset preset => exact iff_of_true { h with } trivial
  | setShareAudio shareAudio => exact iff_of_true { h with } trivial
  | setCameraStarting starting => exact iff_of_true { h with } trivial
  | setCameraStats stats => exact iff_of_true { h with } trivial
  | setViewerIds ids => exact iff_of_true { h with } trivial
  | setStats stats => exact iff_of_true { h with } trivial

end Steps

/-! ## Every run of actions -/

/-- A run of the interface's actions from the initial store stays coherent exactly when no
action of it takes the focus of the exclusive mode away, or ends an own share whose
preview is detached. -/
theorem tilesCoherent_iff_keeps (actions : List (MediaAction Stats))
    (hallowed : EachStep step Allowed initial actions) :
    Throughout step TilesCoherent initial actions ↔ EachStep step Keeps initial actions :=
  hallowed.throughout_iff (fun _ _ h hallowed => h.step_iff hallowed) tilesCoherent_initial

/-- Somebody's screen is watched alone and then left with its exclusive mode ended: every
state is coherent. -/
theorem tilesCoherent_iff_keeps_watched :
    let screen : PublicationId := ⟨"bia".toList, .screen⟩
    let actions : List (MediaAction Unit) :=
      [.addTrack screen .video, .focus (some screen), .setSolo true, .setVolume screen .infinity,
        .focus none, .dropPublication screen]
    EachStep step Keeps initial actions ∧ Throughout step TilesCoherent initial actions := by
  intro screen actions
  have hallowed : EachStep step Allowed initial actions := by
    refine ⟨trivial, .inl ?_, ?_, trivial, trivial, trivial, trivial⟩
    · exact AList.lookup_isSome.mp rfl
    · exact Option.some_ne_none screen
  have hkeeps : EachStep step Keeps initial actions := by
    refine ⟨trivial, trivial, trivial, trivial, trivial, ?_, trivial⟩
    rintro ⟨⟩
  exact ⟨hkeeps, (tilesCoherent_iff_keeps actions hallowed).mpr hkeeps⟩

/-- The person whose screen is watched alone stops it: the grid is left exclusive. -/
theorem not_tilesCoherent_after_drop :
    ¬ ∀ actions : List (MediaAction Unit), EachStep step Allowed initial actions →
      Throughout step TilesCoherent initial actions := by
  intro hall
  let screen : PublicationId := ⟨"bia".toList, .screen⟩
  let actions : List (MediaAction Unit) :=
    [.addTrack screen .video, .focus (some screen), .setSolo true, .dropPublication screen]
  have hallowed : EachStep step Allowed initial actions := by
    refine ⟨trivial, .inl ?_, ?_, trivial, trivial⟩
    · exact AList.lookup_isSome.mp rfl
    · exact Option.some_ne_none screen
  have hend : TilesCoherent (run step initial actions) :=
    throughout_iff_initial.mp (hall actions hallowed) actions List.prefix_rfl
  have hsolo : (run step initial actions).solo = false := hend.solo rfl
  cases hsolo

end MediaStore

end Desktop
end Ldktela
