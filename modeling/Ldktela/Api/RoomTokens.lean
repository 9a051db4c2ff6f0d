import Ldktela.Api.Integers
import Ldktela.Api.Rooms
import Ldktela.Protocol.UuidText

/-!
# Room tokens and the names in them

`issue_token`, `room_name`, `publisher_identity` and the reading of a webhook in
`crates/api/src/livekit.rs`, on the texts themselves.  The signature around a token is left out: a
token is what LiveKit reads in it, and LiveKit repeats its room and its identity in every webhook
about the connection it opens.  The texts of the crates are parameters: `UuidFormat` of a UUID,
and `SourceNames` of the sources of LiveKit's protocol.

`toEvent` reads the texts once and gives the event of `Api.Livekit`.
-/

namespace Ldktela
namespace Api

open Protocol

/-! ## Names -/

/-- Tells the publishing connection apart from the watching one. -/
def publisherSuffix : List Char := "~pub".toList

/-- The identity the core uses to publish for `userId`. -/
def publisherIdentity (uuid : UuidFormat) (userId : Uuid) : List Char :=
  uuid.write userId ++ publisherSuffix

/-- Room name for a voice channel. -/
def roomName (discordChannelId : Snowflake) : List Char :=
  "dvc-".toList ++ discordChannelId.toInt.repr.toList

/-- `str::strip_prefix`. -/
def stripFront (front text : List Char) : Option (List Char) :=
  if front.isPrefixOf text then some (text.drop front.length) else none

/-- `str::strip_suffix`. -/
def stripBack (back text : List Char) : Option (List Char) :=
  if back.isSuffixOf text then some (text.take (text.length - back.length)) else none

/-- `parse` of `i64`, when only its success matters. -/
def readChannel (text : List Char) : Option Snowflake :=
  match Env.parseI64 (String.ofList text) with
  | .ok n => some (Int64.ofInt n)
  | .error _ => none

/-- The voice channel a room name refers to, or `none` if it is not ours. -/
def channelOfRoom (room : List Char) : Option Snowflake :=
  (stripFront "dvc-".toList room).bind readChannel

/-! ## Tokens -/

/-- The grant block of a token; what `Default` leaves out is refused. -/
structure VideoGrants where
  roomJoin : Bool
  room : List Char
  canSubscribe : Bool
  canPublish : Bool
  canPublishData : Bool
  canPublishSources : List String
deriving DecidableEq

structure AccessToken where
  identity : List Char
  name : String
  ttlSeconds : Nat
  grants : VideoGrants
deriving DecidableEq

/-- Everything this product ever publishes; the audio of a screen is one of them. -/
def publishableSources : List String := ["screen_share", "screen_share_audio", "camera"]

def maxTokenTtlSeconds : Nat := 3600

/-- A room-scoped token. -/
def issueToken (uuid : UuidFormat) (config : Env.RoomConfig) (discordChannelId : Snowflake)
    (userId : Uuid) (displayName : String) (publish : Bool) : AccessToken where
  identity := if publish then publisherIdentity uuid userId else uuid.write userId
  name := displayName
  ttlSeconds := min config.tokenTtlSeconds maxTokenTtlSeconds
  grants :=
    { roomJoin := true
      room := roomName discordChannelId
      canSubscribe := true
      canPublish := publish
      canPublishData := false
      canPublishSources := if publish then publishableSources else [] }

/-! ## Webhooks -/

/-- `TrackSource` of the SFU's protocol. -/
inductive ProtoSource where
  | unknown
  | camera
  | microphone
  | screenShare
  | screenShareAudio
deriving DecidableEq

/-- `str::to_ascii_lowercase`. -/
def toAsciiLowercase (text : String) : String :=
  String.ofList (text.toList.map Char.toLower)

/-- `as_str_name`, which the SFU's protocol generates: two names stand for the two pictures, and
no other source has one of them. -/
structure SourceNames where
  asStrName : ProtoSource → String
  screenShare : toAsciiLowercase (asStrName .screenShare) = "screen_share"
  camera : toAsciiLowercase (asStrName .camera) = "camera"
  other : ∀ source, source ≠ .screenShare → source ≠ .camera →
    toAsciiLowercase (asStrName source) ∉ ["screen_share", "camera"]

/-- The names of the enumeration in the protocol. -/
def protobufName : ProtoSource → String
  | .unknown => "UNKNOWN"
  | .camera => "CAMERA"
  | .microphone => "MICROPHONE"
  | .screenShare => "SCREEN_SHARE"
  | .screenShareAudio => "SCREEN_SHARE_AUDIO"

def protobufNames : SourceNames where
  asStrName := protobufName
  screenShare := by decide
  camera := by decide
  other source hscreen hcamera := by
    cases source with
    | unknown => decide
    | microphone => decide
    | screenShareAudio => decide
    | screenShare => exact absurd rfl hscreen
    | camera => exact absurd rfl hcamera

/-- The fields of a verified webhook that are read. -/
structure ProtoEvent where
  event : String
  room : Option (List Char)
  participant : Option (List Char)
  track : Option ProtoSource

/-- `WebhookEvent`, as its texts. -/
structure WebhookText where
  event : String
  room : Option (List Char)
  participantIdentity : Option (List Char)
  trackSource : Option String

namespace WebhookText

def fromProto (names : SourceNames) (event : ProtoEvent) : WebhookText where
  event := event.event
  room := event.room
  participantIdentity := event.participant
  trackSource := event.track.map fun source => toAsciiLowercase (names.asStrName source)

/-- The voice channel this event belongs to, if it is one of ours. -/
def channel (event : WebhookText) : Option Snowflake :=
  event.room.bind channelOfRoom

/-- The user id carried in the identity; the suffix is a transport detail. -/
def user (uuid : UuidFormat) (event : WebhookText) : Option Uuid :=
  event.participantIdentity.bind fun identity =>
    uuid.read ((stripBack publisherSuffix identity).getD identity)

/-- Whether the event came from the publishing connection. -/
def isPublisherConnection (event : WebhookText) : Bool :=
  event.participantIdentity.any fun identity => publisherSuffix.isSuffixOf identity

/-- Compared by equality: the audio of a screen is a track of its own. -/
def publishedSource (event : WebhookText) : Option PublicationSource :=
  if event.trackSource = some "screen_share" then some .screen
  else if event.trackSource = some "camera" then some .camera
  else none

/-- The `match` on the name of the event. -/
def kind (event : WebhookText) : EventKind :=
  if event.event = "participant_joined" then .participantJoined
  else if event.event = "participant_left" then .participantLeft
  else if event.event = "track_published" then .trackPublished
  else if event.event = "track_unpublished" then .trackUnpublished
  else if event.event = "room_finished" then .roomFinished
  else .other

/-- The constructor that stands for the name of a source. -/
def trackSourceOf (source : String) : TrackSource :=
  if source = "screen_share" then .screenShare
  else if source = "camera" then .camera
  else if source = "screen_share_audio" then .screenShareAudio
  else .other

/-- What the handlers read in the texts. -/
def toEvent (uuid : UuidFormat) (event : WebhookText) : WebhookEvent where
  kind := event.kind
  channel := event.channel
  identity := event.participantIdentity.map fun identity =>
    ⟨uuid.read ((stripBack publisherSuffix identity).getD identity),
      publisherSuffix.isSuffixOf identity⟩
  trackSource := event.trackSource.map trackSourceOf

variable (uuid : UuidFormat) (event : WebhookText)

@[simp]
theorem toEvent_kind : (event.toEvent uuid).kind = event.kind := rfl

@[simp]
theorem toEvent_channel : (event.toEvent uuid).channel = event.channel := rfl

@[simp]
theorem toEvent_user : (event.toEvent uuid).user = event.user uuid := by
  cases h : event.participantIdentity with
  | none => simp [toEvent, WebhookEvent.user, user, h]
  | some identity => simp [toEvent, WebhookEvent.user, user, h]

@[simp]
theorem toEvent_isPublisherConnection :
    (event.toEvent uuid).isPublisherConnection = event.isPublisherConnection := by
  cases h : event.participantIdentity with
  | none => simp [toEvent, WebhookEvent.isPublisherConnection, isPublisherConnection, h]
  | some identity => simp [toEvent, WebhookEvent.isPublisherConnection, isPublisherConnection, h]

@[simp]
theorem toEvent_publishedSource :
    (event.toEvent uuid).publishedSource = event.publishedSource := by
  unfold toEvent WebhookEvent.publishedSource publishedSource
  cases event.trackSource with
  | none => rfl
  | some source =>
      simp only [Option.map_some, Option.some.injEq]
      by_cases hscreen : source = "screen_share"
      · simp [trackSourceOf, hscreen]
      · by_cases hcamera : source = "camera"
        · simp [trackSourceOf, hcamera]
        · by_cases haudio : source = "screen_share_audio"
          · simp [trackSourceOf, haudio]
          · simp [trackSourceOf, hscreen, hcamera, haudio]

end WebhookText

/-! ## What the names say -/

theorem stripFront_append (front text : List Char) :
    stripFront front (front ++ text) = some text := by
  rw [stripFront, if_pos (List.isPrefixOf_iff_prefix.mpr (List.prefix_append front text)),
    List.drop_left]

theorem stripFront_eq_some {front text rest : List Char} :
    stripFront front text = some rest ↔ text = front ++ rest := by
  constructor
  · intro h
    unfold stripFront at h
    split at h
    · next hfront =>
        obtain ⟨tail, rfl⟩ := List.isPrefixOf_iff_prefix.mp hfront
        rw [List.drop_left] at h
        rw [Option.some.inj h]
    · cases h
  · rintro rfl
    exact stripFront_append front rest

theorem stripBack_append (text back : List Char) : stripBack back (text ++ back) = some text := by
  rw [stripBack, if_pos (List.isSuffixOf_iff_suffix.mpr (List.suffix_append text back)),
    List.length_append, Nat.add_sub_cancel, List.take_left]

theorem readChannel_eq_some {text : List Char} {c : Snowflake} :
    readChannel text = some c ↔ Env.SignedNumeral text c.toInt := by
  unfold readChannel
  cases h : Env.parseI64 (String.ofList text) with
  | error reason =>
      refine iff_of_false (by simp) fun hn => ?_
      have hok := Env.parseI64_eq_ok.mpr ⟨(String.toList_ofList (l := text)).symm ▸ hn,
        c.le_toInt, c.toInt_lt⟩
      rw [h] at hok
      cases hok
  | ok n =>
      obtain ⟨hn, hlow, hhigh⟩ := Env.parseI64_eq_ok.mp h
      rw [String.toList_ofList] at hn
      have hback : (Int64.ofInt n).toInt = n := Int64.toInt_ofInt_of_le hlow hhigh
      constructor
      · intro heq
        rw [← Option.some.inj heq, hback]
        exact hn
      · intro hc
        have hok := Env.parseI64_eq_ok.mpr ⟨(String.toList_ofList (l := text)).symm ▸ hc,
          c.le_toInt, c.toInt_lt⟩
        obtain rfl : n = c.toInt := Except.ok.inj (h.symm.trans hok)
        simp

/-- A room is ours when its name is the letters `dvc-` and an integer of 64 bits. -/
theorem channelOfRoom_eq_some {room : List Char} {c : Snowflake} :
    channelOfRoom room = some c ↔
      ∃ text, room = "dvc-".toList ++ text ∧ Env.SignedNumeral text c.toInt := by
  unfold channelOfRoom
  constructor
  · intro h
    obtain ⟨text, hfront, hread⟩ := Option.bind_eq_some_iff.mp h
    exact ⟨text, stripFront_eq_some.mp hfront, readChannel_eq_some.mp hread⟩
  · rintro ⟨text, rfl, hn⟩
    rw [stripFront_append, Option.bind_some, readChannel_eq_some]
    exact hn

theorem channelOfRoom_roomName (c : Snowflake) : channelOfRoom (roomName c) = some c :=
  channelOfRoom_eq_some.mpr ⟨_, rfl, Env.signedNumeral_repr c.toInt⟩

theorem roomName_inj {c c' : Snowflake} (h : roomName c = roomName c') : c = c' := by
  have hread := channelOfRoom_roomName c
  rw [h, channelOfRoom_roomName c'] at hread
  exact (Option.some.inj hread).symm

section

variable (uuid : UuidFormat)

/-- The suffix cannot occur in a UUID. -/
theorem not_suffix_write (id : Uuid) : publisherSuffix.isSuffixOf (uuid.write id) = false := by
  refine Bool.eq_false_iff.mpr fun h => ?_
  have hmem : '~' ∈ uuid.write id :=
    (List.isSuffixOf_iff_suffix.mp h).subset (by decide)
  exact uuid.notMem_write (by decide) (by decide) hmem

theorem stripBack_write (id : Uuid) : stripBack publisherSuffix (uuid.write id) = none := by
  rw [stripBack, not_suffix_write uuid id]
  rfl

/-- The identity of one connection of a person. -/
def identityOf (userId : Uuid) (publish : Bool) : List Char :=
  if publish then publisherIdentity uuid userId else uuid.write userId

theorem stripped_identityOf (userId : Uuid) (publish : Bool) :
    (stripBack publisherSuffix (identityOf uuid userId publish)).getD
        (identityOf uuid userId publish) = uuid.write userId := by
  cases publish with
  | true =>
      show (stripBack publisherSuffix (uuid.write userId ++ publisherSuffix)).getD _ = _
      rw [stripBack_append, Option.getD_some]
  | false =>
      show (stripBack publisherSuffix (uuid.write userId)).getD (uuid.write userId) = _
      rw [stripBack_write, Option.getD_none]

theorem isSuffixOf_identityOf (userId : Uuid) (publish : Bool) :
    publisherSuffix.isSuffixOf (identityOf uuid userId publish) = publish := by
  cases publish with
  | true => exact List.isSuffixOf_iff_suffix.mpr (List.suffix_append _ _)
  | false => exact not_suffix_write uuid userId

theorem identityOf_inj {user user' : Uuid} {publish publish' : Bool} (h : user < 2 ^ 128)
    (h' : user' < 2 ^ 128) (heq : identityOf uuid user publish = identityOf uuid user' publish') :
    user = user' ∧ publish = publish' := by
  constructor
  · have hstrip := stripped_identityOf uuid user publish
    rw [heq, stripped_identityOf uuid user' publish'] at hstrip
    exact uuid.write_inj h h' hstrip.symm
  · have hsuffix := isSuffixOf_identityOf uuid user publish
    rw [heq, isSuffixOf_identityOf uuid user' publish'] at hsuffix
    exact hsuffix.symm

end

/-! ## What a webhook about a connection reaches -/

/-- The handler for a track of the connection, by its source. -/
def trackAction (start : PublicationSource → Rooms.Action) :
    Option ProtoSource → Option Rooms.Action
  | some .screenShare => some (start .screen)
  | some .camera => some (start .camera)
  | some .screenShareAudio => none
  | some .microphone => none
  | some .unknown => none
  | none => none

/-- The handler for an event of the connection that was opened to publish, or to watch. -/
def connectionAction (c : Snowflake) (userId : Uuid) (publish : Bool)
    (source : Option ProtoSource) : EventKind → Option Rooms.Action
  | .participantJoined => if publish then none else some (.joined c userId)
  | .participantLeft => some (if publish then .publisherGone c userId else .left c userId)
  | .trackPublished => trackAction (Rooms.Action.shareStarted c userId) source
  | .trackUnpublished => trackAction (Rooms.Action.shareStopped c userId) source
  | .roomFinished => some (.finished c)
  | .other => none

/-- The webhook that repeats the names of a token. -/
def AccessToken.webhook (names : SourceNames) (token : AccessToken) (event : String)
    (source : Option ProtoSource) : WebhookText :=
  .fromProto names ⟨event, some token.grants.room, some token.identity, source⟩

section

variable (uuid : UuidFormat) (names : SourceNames)

theorem trackAction_eq (start : PublicationSource → Rooms.Action) (event : ProtoEvent) :
    (WebhookText.fromProto names event).publishedSource.map start =
      trackAction start event.track := by
  obtain ⟨name, room, participant, track⟩ := event
  have hother : ∀ source, source ≠ .screenShare → source ≠ .camera →
      (WebhookText.fromProto names ⟨name, room, participant, some source⟩).publishedSource =
        none := by
    intro source hscreen hcamera
    have hname := names.other source hscreen hcamera
    simp only [List.mem_cons, List.not_mem_nil, or_false, not_or] at hname
    simp [WebhookText.publishedSource, WebhookText.fromProto, hname]
  cases track with
  | none => rfl
  | some source => cases source with
    | screenShare =>
        simp [WebhookText.publishedSource, WebhookText.fromProto, names.screenShare, trackAction]
    | camera =>
        simp [WebhookText.publishedSource, WebhookText.fromProto, names.camera, trackAction]
    | unknown => simp [hother .unknown (by decide) (by decide), trackAction]
    | microphone => simp [hother .microphone (by decide) (by decide), trackAction]
    | screenShareAudio => simp [hother .screenShareAudio (by decide) (by decide), trackAction]

variable (config : Env.RoomConfig) (c : Snowflake) (userId : Uuid) (name : String) (publish : Bool)
  (event : String) (source : Option ProtoSource)

theorem channel_webhook :
    ((issueToken uuid config c userId name publish).webhook names event source).channel =
      some c := by
  show (some (roomName c)).bind channelOfRoom = some c
  rw [Option.bind_some, channelOfRoom_roomName]

theorem user_webhook (h : userId < 2 ^ 128) :
    ((issueToken uuid config c userId name publish).webhook names event source).user uuid =
      some userId := by
  show uuid.read ((stripBack publisherSuffix (identityOf uuid userId publish)).getD
    (identityOf uuid userId publish)) = some userId
  rw [stripped_identityOf, uuid.read_write h]

theorem isPublisherConnection_webhook :
    ((issueToken uuid config c userId name publish).webhook names event
      source).isPublisherConnection = publish :=
  isSuffixOf_identityOf uuid userId publish

/-- A webhook about the connection of a token reaches the handler for the channel, the person and
the kind of connection the token was issued for, and no other. -/
theorem webhook_of_token (now : Timestamp) (st : ServerState) (h : userId < 2 ^ 128) :
    let text := (issueToken uuid config c userId name publish).webhook names event source
    Rooms.webhook now st (text.toEvent uuid) =
      (connectionAction c userId publish source text.kind).elim st (Rooms.perform now st) := by
  intro text
  have haction : Rooms.action (text.toEvent uuid) =
      connectionAction c userId publish source text.kind := by
    have hchannel : text.channel = some c :=
      channel_webhook uuid names config c userId name publish event source
    have huser : text.user uuid = some userId :=
      user_webhook uuid names config c userId name publish event source h
    have hpublish : text.isPublisherConnection = publish :=
      isPublisherConnection_webhook uuid names config c userId name publish event source
    unfold Rooms.action
    rw [WebhookText.toEvent_channel, hchannel, Option.bind_some]
    simp only [WebhookText.toEvent_kind, WebhookText.toEvent_user,
      WebhookText.toEvent_isPublisherConnection, WebhookText.toEvent_publishedSource, huser,
      hpublish, Option.map_some, Option.bind_some]
    cases text.kind with
    | participantJoined => rfl
    | participantLeft => rfl
    | trackPublished => exact trackAction_eq names _ _
    | trackUnpublished => exact trackAction_eq names _ _
    | roomFinished => rfl
    | other => rfl
  rw [Rooms.webhook_eq, haction]
  cases connectionAction c userId publish source text.kind with
  | none => rfl
  | some action => rfl

/-- The watching connection of one person, seen to join. -/
theorem webhook_of_token_watching :
    (7 : Uuid) < 2 ^ 128 ∧
      Rooms.webhook 1 (.started ⟨2, 4⟩ ∅)
          (((issueToken UuidText.format ⟨"", "", "", 60, 2, 4⟩ 5 7 "" false).webhook protobufNames
            "participant_joined" none).toEvent UuidText.format) =
        (connectionAction 5 7 false none .participantJoined).elim (.started ⟨2, 4⟩ ∅)
          (Rooms.perform 1 (.started ⟨2, 4⟩ ∅)) :=
  ⟨by decide, webhook_of_token UuidText.format protobufNames ⟨"", "", "", 60, 2, 4⟩ 5 7 "" false
    "participant_joined" none 1 _ (by decide)⟩

end

/-- The SFU tells two connections apart by their names: they share the room and the identity only
when they are the same connection of the same person in the same channel. -/
theorem token_names_eq_iff (uuid : UuidFormat) (config config' : Env.RoomConfig)
    (c c' : Snowflake) (user user' : Uuid) (name name' : String) (publish publish' : Bool)
    (h : user < 2 ^ 128) (h' : user' < 2 ^ 128) :
    let token := issueToken uuid config c user name publish
    let token' := issueToken uuid config' c' user' name' publish'
    (token.grants.room = token'.grants.room ↔ c = c') ∧
      (token.identity = token'.identity ↔ user = user' ∧ publish = publish') := by
  intro token token'
  refine ⟨⟨roomName_inj, ?_⟩, ⟨identityOf_inj uuid h h', ?_⟩⟩
  · rintro rfl
    rfl
  · rintro ⟨rfl, rfl⟩
    rfl

/-- The two connections of one person, in one channel. -/
theorem token_names_eq_iff_same_person :
    (7 : Uuid) < 2 ^ 128 ∧
      ((issueToken UuidText.format ⟨"", "", "", 60, 2, 4⟩ 5 7 "" false).identity =
          (issueToken UuidText.format ⟨"", "", "", 60, 2, 4⟩ 5 7 "" true).identity ↔
        (7 : Uuid) = 7 ∧ false = true) :=
  ⟨by decide, (token_names_eq_iff _ _ _ 5 5 7 7 "" "" false true (by decide) (by decide)).2⟩

end Api
end Ldktela
