import Mathlib.Logic.Function.Basic
import Ldktela.Lib.Runs
import Ldktela.Api.Sfu

/-!
# Two connections of one person

A person is in a room with two connections to the SFU, one that views and one
that publishes; the second one carries a suffix in its identity.  They come and go
independently, and the presence row of the person has to say what the second one
has on the air while the first one is there.

The SFU of one room is modelled by the two connections of each person.  Each change
emits its webhook, which the server handles before the next one.
`recorded_throughout_iff` says along which runs the presence rows are right: a
viewing connection may only come in while the publishing one has nothing on the
air.
-/

namespace Ldktela
namespace Api
namespace Rooms

open Protocol
open Db

/-- The connections of one person to the room: whether the viewing one is there,
and the publishing one with its tracks, if that is there. -/
structure Connections where
  viewing : Bool
  publishing : Option Tracks
deriving DecidableEq

/-- The publishing connection has the track on the air. -/
def Connections.live (connections : Connections) (source : PublicationSource) : Bool :=
  match connections.publishing with
  | none => false
  | some tracks => tracks.get source

namespace Change

/-- The connections after the change; `none` when it cannot happen. -/
def apply (connections : Connections) : Change → Option Connections
  | viewerJoins =>
      if connections.viewing then none else some { connections with viewing := true }
  | viewerLeaves =>
      if connections.viewing then some { connections with viewing := false } else none
  | publisherJoins =>
      match connections.publishing with
      | none => some { connections with publishing := some Tracks.none }
      | some _ => none
  | publisherLeaves =>
      connections.publishing.map fun _ => { connections with publishing := none }
  | publishes source =>
      connections.publishing.bind fun tracks =>
        if tracks.get source then none
        else some { connections with publishing := some (tracks.set source true) }
  | unpublishes source =>
      connections.publishing.bind fun tracks =>
        if tracks.get source then
          some { connections with publishing := some (tracks.set source false) }
        else none

end Change

/-- The SFU room and the server. -/
structure SfuWorld where
  sfu : Uuid → Connections
  server : ServerState

/-- A change of one person's connections, at the instant its webhook is handled. -/
structure SfuStep where
  now : Timestamp
  userId : Uuid
  change : Change
deriving DecidableEq

namespace SfuWorld

/-- The change happens and its webhook is handled.  Only people the database knows
get a token for the room. -/
def step (channel : Snowflake) (w : SfuWorld) (a : SfuStep) : SfuWorld :=
  match w.server.users.lookup a.userId, a.change.apply (w.sfu a.userId) with
  | some _, some connections =>
      { sfu := Function.update w.sfu a.userId connections
        server := webhook a.now w.server (a.change.emitted channel a.userId) }
  | _, _ => w

/-- A person whose viewing connection is there has a row in the channel, with the
start columns of what their publishing connection has on the air. -/
def RecordedFor (channel : Snowflake) (u : Uuid) (w : SfuWorld) : Prop :=
  (w.sfu u).viewing = true →
    ∃ row, w.server.presence.lookup u = some row ∧ row.discordChannelId = channel ∧
      ∀ source, (row.since source).isSome = (w.sfu u).live source

def Recorded (channel : Snowflake) (w : SfuWorld) : Prop :=
  ∀ u, RecordedFor channel u w

/-- If a viewing connection comes in, the publishing one has nothing on the air. -/
def JoinsQuietly (w : SfuWorld) (a : SfuStep) : Prop :=
  a.change = .viewerJoins → w.server.users.lookup a.userId ≠ none →
    (w.sfu a.userId).viewing = false → ∀ source, (w.sfu a.userId).live source = false

/-! ## One change -/

section Step

variable {channel : Snowflake} {w : SfuWorld} {u : Uuid} {connections : Connections}
  {rows : Uuid → Option PresenceRow} {isOpen : Snowflake → Uuid → Prop}
  {holds : Snowflake → Uuid → PublicationSource → Prop} {server' : ServerState}

/-- A change of one person whose webhook writes no row but theirs leaves to check
what the tables say about them. -/
theorem recorded_iff_of_written {written : Option PresenceRow} (hrecorded : Recorded channel w)
    (hpresence : ∀ v, server'.presence.lookup v =
      if v = u then written else w.server.presence.lookup v) :
    Recorded channel ⟨Function.update w.sfu u connections, server'⟩ ↔
      (connections.viewing = true →
        ∃ row, written = some row ∧ row.discordChannelId = channel ∧
          ∀ source, (row.since source).isSome = connections.live source) := by
  have hone : ∀ v, RecordedFor channel v ⟨Function.update w.sfu u connections, server'⟩ ↔
      if v = u then connections.viewing = true →
        ∃ row, written = some row ∧ row.discordChannelId = channel ∧
          ∀ source, (row.since source).isSome = connections.live source
      else RecordedFor channel v w := by
    intro v
    unfold RecordedFor
    dsimp only
    rw [hpresence]
    by_cases hv : v = u
    · subst hv
      simp only [Function.update_self, if_true]
    · simp only [Function.update_of_ne hv, if_neg hv]
  constructor
  · intro hafter
    have hu := (hone u).mp (hafter u)
    rwa [if_pos rfl] at hu
  · intro hu v
    rw [hone]
    by_cases hv : v = u
    · rwa [if_pos hv]
    · rw [if_neg hv]
      exact hrecorded v

/-- The same, for a webhook with an effect on the row of the person. -/
theorem recorded_iff_of_effect {written : Option PresenceRow} (hrecorded : Recorded channel w)
    (heffect : Effect channel w.server server'
      (fun v => if v = u then written else w.server.presence.lookup v) isOpen holds) :
    Recorded channel ⟨Function.update w.sfu u connections, server'⟩ ↔
      (connections.viewing = true →
        ∃ row, written = some row ∧ row.discordChannelId = channel ∧
          ∀ source, (row.since source).isSome = connections.live source) :=
  recorded_iff_of_written hrecorded heffect.presence

/-- What a publication of a person who views does to their row and to their
connections keeps the two in step. -/
theorem recorded_of_row {server' : ServerState} (hrecorded : Recorded channel w)
    (hviewing : connections.viewing = (w.sfu u).viewing)
    (habsent : w.server.presence.lookup u = none → server' = w.server)
    (hwritten : ∀ row, w.server.presence.lookup u = some row → ∃ row',
      (∀ v, server'.presence.lookup v =
        if v = u then some row' else w.server.presence.lookup v) ∧
      row'.discordChannelId = row.discordChannelId ∧
      ((∀ source, (row.since source).isSome = (w.sfu u).live source) →
        ∀ source, (row'.since source).isSome = connections.live source)) :
    Recorded channel ⟨Function.update w.sfu u connections, server'⟩ := by
  cases hrow : w.server.presence.lookup u with
  | none =>
      -- somebody without a row does not view, and nothing is written
      rw [habsent hrow, @recorded_iff_of_written _ _ _ _ _ none hrecorded]
      · intro hview
        obtain ⟨row, hsome, -⟩ := hrecorded u (hviewing ▸ hview)
        simp [hrow] at hsome
      · intro v
        split
        · next hv => rw [hv, hrow]
        · rfl
  | some row =>
      obtain ⟨row', hpresence, hchannel, hlive⟩ := hwritten row hrow
      rw [recorded_iff_of_written hrecorded hpresence]
      intro hview
      obtain ⟨old, hold, hin, hsame⟩ := hrecorded u (hviewing ▸ hview)
      obtain rfl := Option.some.inj (hrow.symm.trans hold)
      exact ⟨row', rfl, hchannel.trans hin, hlive hsame⟩

theorem since_joined (now : Timestamp) (source : PublicationSource) :
    (PresenceRow.since ⟨channel, false, now, none, none⟩ source).isSome = false := by
  cases source with
  | screen => rfl
  | camera => rfl

/-- One change keeps the rows right exactly if it is not a viewing connection that
finds the publishing one on the air. -/
theorem recorded_step_iff (a : SfuStep) (hrecorded : Recorded channel w) :
    Recorded channel (step channel w a) ↔ JoinsQuietly w a := by
  obtain ⟨now, u, change⟩ := a
  unfold step
  dsimp only
  cases huser : w.server.users.lookup u with
  | none => exact iff_of_true hrecorded fun _ hknown => absurd huser hknown
  | some profile =>
      cases happly : change.apply (w.sfu u) with
      | none =>
          refine iff_of_true hrecorded fun hchange _ hview => ?_
          subst hchange
          simp [Change.apply, hview] at happly
      | some connections =>
          dsimp only
          rw [webhook_eq, Change.action_emitted]
          cases change with
          | viewerJoins =>
              -- the new row says that nothing is on the air
              simp only [Change.apply, Option.ite_none_left_eq_some, Option.some.injEq] at happly
              obtain ⟨hview, rfl⟩ := happly
              refine (recorded_iff_of_effect hrecorded (onJoin_effect huser)).trans ?_
              constructor
              · intro hrow _ _ _ source
                obtain ⟨row, hjoined, -, hsame⟩ := hrow rfl
                obtain rfl := Option.some.inj hjoined
                have hs := hsame source
                rw [since_joined] at hs
                exact hs.symm
              · intro hquiet _
                refine ⟨_, rfl, rfl, fun source => ?_⟩
                rw [since_joined]
                exact (hquiet rfl (by simp [huser]) (Bool.eq_false_of_not_eq_true hview)
                  source).symm
          | viewerLeaves =>
              refine iff_of_true ?_ fun hchange => by cases hchange
              simp only [Change.apply, Option.ite_none_right_eq_some, Option.some.injEq] at happly
              obtain ⟨-, rfl⟩ := happly
              refine (recorded_iff_of_effect hrecorded onLeave_effect).mpr fun hview => ?_
              cases hview
          | publisherJoins =>
              refine iff_of_true ?_ fun hchange => by cases hchange
              cases hpublishing : (w.sfu u).publishing with
              | some tracks => simp [Change.apply, hpublishing] at happly
              | none =>
                  simp only [Change.apply, hpublishing, Option.some.injEq] at happly
                  subst happly
                  -- the webhook is dropped, and the new connection has no track yet
                  refine recorded_of_row hrecorded rfl (fun _ => rfl) fun row hrow => ?_
                  refine ⟨row, fun v => ?_, rfl, fun hsame source => ?_⟩
                  · change w.server.presence.lookup v = _
                    split
                    · next hv => rw [hv, hrow]
                    · rfl
                  · rw [hsame]
                    simp [Connections.live, hpublishing]
          | publisherLeaves =>
              -- the row is cleared, and so is what the connection had on the air
              refine iff_of_true ?_ fun hchange => by cases hchange
              obtain ⟨tracks, -, rfl⟩ := Option.map_eq_some_iff.mp happly
              refine recorded_of_row hrecorded rfl onPublisherGone_absent fun row hrow => ?_
              refine ⟨row.clear, (onPublisherGone_effect hrow).presence, rfl, fun _ source => ?_⟩
              simp [Connections.live]
          | publishes source =>
              refine iff_of_true ?_ fun hchange => by cases hchange
              obtain ⟨tracks, htracks, hset⟩ := Option.bind_eq_some_iff.mp happly
              simp only [Option.ite_none_left_eq_some, Option.some.injEq] at hset
              obtain ⟨-, rfl⟩ := hset
              refine recorded_of_row hrecorded rfl onShareStart_absent fun row hrow => ?_
              refine ⟨row.start now source, (onShareStart_effect hrow).presence, by simp,
                fun hsame s => ?_⟩
              have hs := hsame s
              simp only [Connections.live, htracks] at hs
              simp only [PresenceRow.since_start, Connections.live, Tracks.get_set, ← hs]
              split
              · rfl
              · rfl
          | unpublishes source =>
              refine iff_of_true ?_ fun hchange => by cases hchange
              obtain ⟨tracks, htracks, hset⟩ := Option.bind_eq_some_iff.mp happly
              simp only [Option.ite_none_right_eq_some, Option.some.injEq] at hset
              obtain ⟨-, rfl⟩ := hset
              refine recorded_of_row hrecorded rfl onShareStop_absent fun row hrow => ?_
              refine ⟨row.stop source, (onShareStop_effect hrow).presence, by simp,
                fun hsame s => ?_⟩
              have hs := hsame s
              simp only [Connections.live, htracks] at hs
              simp only [PresenceRow.since_stop, Connections.live, Tracks.get_set, ← hs]
              split
              · rfl
              · rfl

end Step

/-! ## Runs -/

/-- Nobody is connected to the room, and no room has a row. -/
def start (config : RoomConfig) (users : Users) : SfuWorld where
  sfu := fun _ => ⟨false, none⟩
  server := ServerState.started config users

theorem recorded_start (channel : Snowflake) (config : RoomConfig) (users : Users) :
    Recorded channel (start config users) := by
  intro u hview
  cases hview

/-- After every webhook of a run the rows of the people who view are right, exactly
if no viewing connection of the run comes in while the publishing one of the person
is on the air. -/
theorem recorded_throughout_iff (channel : Snowflake) (config : RoomConfig) (users : Users)
    (steps : List SfuStep) :
    Runs.Throughout (step channel) (Recorded channel) (start config users) steps ↔
      Runs.EachStep (step channel) JoinsQuietly (start config users) steps :=
  Runs.throughout_iff_eachStep (I := fun _ => True) (fun _ _ _ => trivial)
    (fun _ a _ hrecorded => recorded_step_iff a hrecorded) trivial
    (recorded_start channel config users)

/-- The viewing connection drops and comes back while the screen is on the air. -/
private def viewerDrops : List SfuStep :=
  [⟨10, 3, .viewerJoins⟩, ⟨11, 3, .publisherJoins⟩, ⟨12, 3, .publishes .screen⟩,
    ⟨20, 3, .viewerLeaves⟩, ⟨21, 3, .viewerJoins⟩]

/-- The row of the person who is back says that they transmit nothing. -/
theorem viewer_back_clears_row :
    ¬ ∀ (channel : Snowflake) (config : RoomConfig) (users : Users) (steps : List SfuStep),
      Runs.Throughout (step channel) (Recorded channel) (start config users) steps := by
  intro h
  have hrecorded := Runs.throughout_iff_initial.mp
    (h 5 ⟨2, 4⟩ ((∅ : Users).insert 3 ⟨30, "ana", none, none⟩) viewerDrops)
    viewerDrops (List.prefix_refl _)
  obtain ⟨row, hrow, -, hsame⟩ := hrecorded 3 (by decide)
  have hback : (Runs.run (step 5)
      (start ⟨2, 4⟩ ((∅ : Users).insert 3 ⟨30, "ana", none, none⟩))
      viewerDrops).server.presence.lookup 3 = some ⟨5, false, 21, none, none⟩ := by decide
  obtain rfl := Option.some.inj (hback.symm.trans hrow)
  exact absurd (hsame .screen) (by decide)

end SfuWorld

end Rooms
end Api
end Ldktela
