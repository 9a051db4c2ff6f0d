import Mathlib.Data.Finset.Card
import Ldktela.Api.SessionMirror
import Ldktela.Lib.HighWater

/-!
# The peak of the viewers

`peak_viewers` of a share session is raised by `observe_room`, which the handlers of
`crates/api/src/routes/rooms.rs` call at their end for the room of the event.  The statements on
`room_presence` are keyed by the person alone: an event of one room can turn a publisher of
another room into a viewer there, and that room is not observed.
-/

namespace Ldktela
namespace Api
namespace Rooms

open Protocol
open Db
open Runs

/-! ## The audience -/

/-- Whose row is in the channel, and who do not publish. -/
def viewersIn (c : Snowflake) (t : Presence) : Finset Uuid :=
  t.keys.toFinset.filter fun u =>
    (t.lookup u).any (fun row => decide (row.discordChannelId = c) && !row.publishing) = true

/-- How many people are watching a session; `none` when it is not open. -/
def watching (id : Uuid) (st : ServerState) : Option Nat :=
  (st.sessions.lookup id).bind fun row =>
    if row.endedAt = none then some (viewersIn row.discordChannelId st.presence).card else none

/-- The column of a session. -/
def peak (id : Uuid) (st : ServerState) : Option Nat :=
  (st.sessions.lookup id).map ShareSessionRow.peakViewers

/-- After every event, the peak of every session is the largest number of viewers that its room
had at a moment at which the session was open. -/
def PeaksExact (st : ServerState) (events : List (Timestamp × WebhookEvent)) : Prop :=
  ∀ handled, handled <+: events → ∀ id row,
    (run handleAt st handled).sessions.lookup id = some row →
      IsGreatest (HighWater.Seen handleAt (watching id) st handled) row.peakViewers

/-! ## The condition -/

/-- One viewer more would not pass the peak of any open session of the room. -/
def RoomToSpare (st : ServerState) (c : Snowflake) : Prop :=
  ∀ id row, st.sessions.lookup id = some row → row.discordChannelId = c → row.endedAt = none →
    (viewersIn c st.presence).card < row.peakViewers

/-- What takes somebody off the air comes from the room of their row, or the open sessions of
that room have had a larger audience already. -/
def Accounted (st : ServerState) : Action → Prop
  | .publisherGone c u => ∀ row, st.presence.lookup u = some row → row.publishing = true →
      row.discordChannelId ≠ c → RoomToSpare st row.discordChannelId
  | .shareStopped c u source => ∀ row, st.presence.lookup u = some row → row.publishing = true →
      row.since (other source) = none → row.discordChannelId ≠ c →
        RoomToSpare st row.discordChannelId
  | _ => True

/-- The event is dropped, or its handler is accounted for. -/
def EventAccounted (st : ServerState) (event : Timestamp × WebhookEvent) : Prop :=
  ∀ act, action event.2 = some act → Accounted st act

section Audience

variable {t t' : Presence} {c : Snowflake} {u : Uuid} {row row' : PresenceRow}

theorem mem_viewersIn :
    u ∈ viewersIn c t ↔
      ∃ row, t.lookup u = some row ∧ row.discordChannelId = c ∧ row.publishing = false := by
  unfold viewersIn
  rw [Finset.mem_filter, List.mem_toFinset, AList.mem_keys_iff, Option.any_eq_true]
  constructor
  · rintro ⟨-, row, hrow, hviews⟩
    simp only [Bool.and_eq_true, decide_eq_true_eq, Bool.not_eq_true'] at hviews
    exact ⟨row, hrow, hviews⟩
  · rintro ⟨row, hrow, hc, hviews⟩
    exact ⟨⟨row, hrow⟩, row, hrow, by simp [hc, hviews]⟩

/-- Nobody new watches the room when whoever was rewritten does not. -/
theorem viewersIn_subset (hrows : ∀ v row, t'.lookup v = some row → row.discordChannelId = c →
    row.publishing = false → t.lookup v = some row) : viewersIn c t' ⊆ viewersIn c t := by
  intro v hv
  obtain ⟨row, hrow, hc, hviews⟩ := mem_viewersIn.mp hv
  exact mem_viewersIn.mpr ⟨row, hrows v row hrow hc hviews, hc, hviews⟩

/-- Somebody goes off the air: their room has one viewer more, if they were on the air. -/
theorem card_viewersIn_off (hrow : t.lookup u = some row)
    (hrows : ∀ v, t'.lookup v = if v = u then some row' else t.lookup v)
    (hchannel : row'.discordChannelId = row.discordChannelId) (hoff : row'.publishing = false) :
    (viewersIn row.discordChannelId t').card =
      if row.publishing = true then (viewersIn row.discordChannelId t).card + 1
      else (viewersIn row.discordChannelId t).card := by
  have hinsert : viewersIn row.discordChannelId t' =
      insert u (viewersIn row.discordChannelId t) := by
    ext v
    rw [Finset.mem_insert, mem_viewersIn, mem_viewersIn, hrows]
    by_cases hv : v = u
    · rw [if_pos hv]
      exact iff_of_true ⟨row', rfl, hchannel, hoff⟩ (.inl hv)
    · rw [if_neg hv]
      exact (or_iff_right hv).symm
  rw [hinsert]
  have hmem : u ∈ viewersIn row.discordChannelId t ↔ row.publishing = false := by
    rw [mem_viewersIn]
    constructor
    · rintro ⟨row₀, hrow₀, -, hviews⟩
      obtain rfl := Option.some.inj (hrow.symm.trans hrow₀)
      exact hviews
    · exact fun hviews => ⟨row, hrow, rfl, hviews⟩
  split
  · next hlive =>
    rw [Finset.card_insert_of_notMem]
    rw [hmem, hlive]
    simp
  · next hquiet => rw [Finset.insert_eq_of_mem (hmem.mpr (Bool.eq_false_of_not_eq_true hquiet))]

/-- What `observe_room` counts. -/
theorem length_viewers {users : Users}
    (hknown : ∀ u row, t.lookup u = some row → users.lookup u ≠ none) :
    ((Presence.listByChannel users c t).filter fun p => !p.row.publishing).length =
      (viewersIn c t).card := by
  have hids : (((Presence.listByChannel users c t).filter fun p => !p.row.publishing).map
      ParticipantRow.userId).toFinset = viewersIn c t := by
    ext u
    rw [List.mem_toFinset, List.mem_map, mem_viewersIn]
    constructor
    · rintro ⟨p, hp, rfl⟩
      obtain ⟨hlisted, hviews⟩ := List.mem_filter.mp hp
      obtain ⟨hrow, hc, -⟩ := Presence.mem_listByChannel.mp hlisted
      exact ⟨p.row, hrow, hc, by simpa using hviews⟩
    · rintro ⟨row, hrow, hc, hviews⟩
      obtain ⟨profile, hprofile⟩ := Option.ne_none_iff_exists'.mp (hknown u row hrow)
      refine ⟨⟨u, profile, row⟩, List.mem_filter.mpr ⟨?_, by simp [hviews]⟩, rfl⟩
      exact Presence.mem_listByChannel.mpr ⟨hrow, hc, hprofile⟩
  have hnodup : ((Presence.listByChannel users c t).map ParticipantRow.userId).Nodup :=
    Presence.nodup_listByChannel
  rw [← hids, List.toFinset_card_of_nodup, List.length_map]
  exact hnodup.sublist (List.filter_sublist.map _)

end Audience

/-! ## What a handler does to the sessions -/

/-- The sessions after a handler of the channel wrote them, and before it observed the room: no
row is lost, no peak is changed, and a new session is open in the channel with no viewers. -/
structure Wrote (c : Snowflake) (t t' : ShareSessions) : Prop where
  elsewhere : ShareSessions.SameElsewhere c t t'
  kept : ∀ id row, t.lookup id = some row →
    ∃ row', t'.lookup id = some row' ∧ row'.peakViewers = row.peakViewers
  written : ∀ id row', t'.lookup id = some row' →
    (∃ row, t.lookup id = some row ∧ row.peakViewers = row'.peakViewers) ∨
      row'.discordChannelId = c ∧ row'.endedAt = none ∧ row'.peakViewers = 0

/-- The room of the channel was observed at the end of the handler. -/
def Observed (c : Snowflake) (st st' : ServerState) : Prop :=
  ∃ t, Wrote c st.sessions t ∧ st'.sessions = ShareSessions.observeViewers c
    ((participants c st').filter fun p => !p.row.publishing).length t

section Sessions

variable {st st' : ServerState} {t t' : ShareSessions} {c : Snowflake} {u : Uuid}
  {now : Timestamp} {source : PublicationSource} {row : PresenceRow}

theorem Wrote.refl (c : Snowflake) (t : ShareSessions) : Wrote c t t where
  elsewhere := ShareSessions.SameElsewhere.refl c t
  kept _ row hrow := ⟨row, hrow, rfl⟩
  written _ row hrow := .inl ⟨row, hrow, rfl⟩

theorem wrote_close : Wrote c t (ShareSessions.close now c u t) where
  elsewhere := ShareSessions.sameElsewhere_close
  kept id row hrow := by
    refine ⟨if row.isOpenFor c u then { row with endedAt := some now } else row, ?_, ?_⟩
    · rw [ShareSessions.close, AList.lookup_mapVal, hrow]
      rfl
    · split
      · rfl
      · rfl
  written id row' hrow' := by
    rw [ShareSessions.close, AList.lookup_mapVal] at hrow'
    obtain ⟨row, hrow, rfl⟩ := Option.map_eq_some_iff.mp hrow'
    refine .inl ⟨row, hrow, ?_⟩
    split
    · rfl
    · rfl

theorem wrote_open : Wrote c t (ShareSessions.openSession now c u t) where
  elsewhere := ShareSessions.sameElsewhere_open
  kept id row hrow := by
    refine ⟨row, ?_, rfl⟩
    rw [ShareSessions.lookup_open, if_neg, hrow]
    rintro ⟨-, rfl⟩
    exact ShareSessions.freshId_not_mem t (AList.lookup_isSome.mp (by simp [hrow]))
  written id row' hrow' := by
    rw [ShareSessions.lookup_open] at hrow'
    split at hrow'
    · obtain rfl := Option.some.inj hrow'
      exact .inr ⟨rfl, rfl, rfl⟩
    · exact .inl ⟨row', hrow', rfl⟩

theorem Observed.publishToRoom (h : Observed c st st') (channel : Snowflake)
    (event : DispatchEvent) : Observed c st (publishToRoom channel event st') := h

theorem onJoin_observed {profile : UserRow} (huser : st.users.lookup u = some profile) :
    Observed c st (onJoin now c u st) := by
  rw [onJoin, huser]
  exact ⟨st.sessions, Wrote.refl c st.sessions, rfl⟩

theorem onLeave_observed : Observed c st (onLeave now c u st) :=
  ⟨ShareSessions.close now c u st.sessions, wrote_close, rfl⟩

theorem onShareStart_observed (hrow : st.presence.lookup u = some row) :
    Observed c st (onShareStart now c u source st) := by
  have hstarted : (Presence.startPublication now u source st.presence).2 =
      some ⟨row.discordChannelId, (row.since source).getD now⟩ := by
    simp [Presence.startPublication, hrow]
  unfold onShareStart
  rw [← Prod.mk.eta (p := Presence.startPublication now u source st.presence), hstarted]
  exact ⟨ShareSessions.openSession now c u st.sessions, wrote_open, rfl⟩

theorem onShareStop_observed (hrow : st.presence.lookup u = some row) :
    Observed c st (onShareStop now c u source st) := by
  have hstopped : (Presence.stopPublication u source st.presence).2 =
      some ⟨row.discordChannelId, (row.since (other source)).isSome⟩ := by
    simp [Presence.stopPublication, hrow]
  unfold onShareStop
  rw [← Prod.mk.eta (p := Presence.stopPublication u source st.presence), hstopped]
  refine ⟨if (row.since (other source)).isSome then st.sessions
    else ShareSessions.close now c u st.sessions, ?_, rfl⟩
  split
  · exact Wrote.refl c st.sessions
  · exact wrote_close

theorem onPublisherGone_observed (hrow : st.presence.lookup u = some row) :
    Observed c st (onPublisherGone now c u st) := by
  have hcleared : (Presence.clearPublications u st.presence).2 =
      some ⟨row.discordChannelId, row.screenSince.isSome, row.cameraSince.isSome⟩ := by
    simp [Presence.clearPublications, hrow]
  have hannounced : ∀ (sources : List PublicationSource) (st' : ServerState),
      Observed c st st' → Observed c st (sources.foldl
        (fun st source => Rooms.publishToRoom c (.shareStop ⟨c, u, source⟩) st) st') := by
    intro sources
    induction sources with
    | nil => exact fun st' h => h
    | cons source sources ih => exact fun st' h => ih _ (h.publishToRoom c _)
  unfold onPublisherGone
  rw [← Prod.mk.eta (p := Presence.clearPublications u st.presence), hcleared]
  exact hannounced _ _ ⟨ShareSessions.close now c u st.sessions, wrote_close, rfl⟩

end Sessions

/-! ## One event -/

/-- No open session has more viewers than its peak. -/
def PeaksCover (st : ServerState) : Prop :=
  ∀ id, HighWater.Covered (watching id) (peak id) st

section Step

variable {st st' : ServerState} {c : Snowflake} {u id : Uuid} {n : Nat} {row : PresenceRow}

theorem watching_eq_some_iff :
    watching id st = some n ↔ ∃ session, st.sessions.lookup id = some session ∧
      session.endedAt = none ∧ (viewersIn session.discordChannelId st.presence).card = n := by
  unfold watching
  rw [Option.bind_eq_some_iff]
  refine exists_congr fun session => and_congr_right fun _ => ?_
  split
  · next hopen => simp [hopen]
  · next hclosed => simp [hclosed]

theorem peaksCover_iff :
    PeaksCover st ↔ ∀ id session, st.sessions.lookup id = some session → session.endedAt = none →
      (viewersIn session.discordChannelId st.presence).card ≤ session.peakViewers := by
  constructor
  · intro hcover id session hsession hopen
    refine hcover id session.peakViewers _ ?_
      (watching_eq_some_iff.mpr ⟨session, hsession, hopen, rfl⟩)
    rw [peak, hsession]
    rfl
  · intro hcover id m n hpeak hwatching
    obtain ⟨session, hsession, hopen, rfl⟩ := watching_eq_some_iff.mp hwatching
    rw [peak, hsession] at hpeak
    obtain rfl := Option.some.inj hpeak
    exact hcover id session hsession hopen

/-- The sessions after a handler, row by row. -/
theorem Observed.lookup (h : Observed c st st') (hrows : RowsOk st') :
    ∃ t, Wrote c st.sessions t ∧ ∀ id, st'.sessions.lookup id = (t.lookup id).map fun session =>
      if session.discordChannelId = c ∧ session.endedAt = none then
        { session with
          peakViewers := max session.peakViewers (viewersIn c st'.presence).card }
      else
        session := by
  obtain ⟨t, hwrote, hsessions⟩ := h
  refine ⟨t, hwrote, fun id => ?_⟩
  rw [hsessions, participants, length_viewers hrows.known, ShareSessions.observeViewers,
    AList.lookup_mapVal]

theorem Observed.raises (h : Observed c st st') (hrows : RowsOk st') (id : Uuid) :
    HighWater.Raises (watching id) (peak id) st st' := by
  obtain ⟨t, hwrote, hlookup⟩ := h.lookup hrows
  constructor
  · intro m hm
    obtain ⟨session, hsession, rfl⟩ := Option.map_eq_some_iff.mp hm
    obtain ⟨session', hsession', hpeak⟩ := hwrote.kept id session hsession
    rw [peak, hlookup, hsession', ← hpeak, Option.map_some, Option.map_some]
    split
    · exact ⟨_, rfl, Nat.le_max_left _ _⟩
    · exact ⟨_, rfl, Nat.le_refl _⟩
  · intro m' hm'
    rw [peak, hlookup] at hm'
    cases hsession : t.lookup id with
    | none =>
        rw [hsession] at hm'
        cases hm'
    | some session =>
        rw [hsession] at hm'
        obtain rfl := Option.some.inj hm'
        -- the peak of a row that was there is the one it had
        have hold : (∃ row, st.sessions.lookup id = some row ∧
            row.peakViewers = session.peakViewers) → peak id st = some session.peakViewers := by
          rintro ⟨row, hrow, hpeak⟩
          rw [peak, hrow, ← hpeak]
          rfl
        dsimp only
        split
        · next hopen =>
          have hshown : watching id st' = some (viewersIn c st'.presence).card := by
            refine watching_eq_some_iff.mpr ⟨{ session with
              peakViewers := max session.peakViewers (viewersIn c st'.presence).card },
              ?_, hopen.2, ?_⟩
            · rw [hlookup, hsession, Option.map_some, if_pos hopen]
            · rw [hopen.1]
          -- the new peak is the audience now or the peak before, and a new row starts at zero
          rcases Nat.le_total session.peakViewers (viewersIn c st'.presence).card with hle | hle
          · exact .inr (by rw [hshown, Nat.max_eq_right hle])
          · rcases hwrote.written id session hsession with hrow | ⟨-, -, hzero⟩
            · exact .inl (by rw [hold hrow, Nat.max_eq_left hle])
            · exact .inr (by rw [hshown, hzero, Nat.zero_max])
        · next hother =>
          rcases hwrote.written id session hsession with hrow | ⟨hc, hopen, -⟩
          · exact .inl (hold hrow)
          · exact absurd ⟨hc, hopen⟩ hother

/-- The observed room is in order; the other ones are as they were. -/
theorem Observed.peaksCover_iff (h : Observed c st st') (hrows : RowsOk st') :
    PeaksCover st' ↔ ∀ id session, st.sessions.lookup id = some session →
      session.endedAt = none → session.discordChannelId ≠ c →
        (viewersIn session.discordChannelId st'.presence).card ≤ session.peakViewers := by
  obtain ⟨t, hwrote, hlookup⟩ := h.lookup hrows
  rw [Rooms.peaksCover_iff]
  constructor
  · intro hcover id session hsession hopen hother
    refine hcover id session ?_ hopen
    rw [hlookup, (hwrote.elsewhere id session hother).mpr hsession, Option.map_some,
      if_neg fun hboth => hother hboth.1]
  · intro hcover id session' hsession' hopen
    rw [hlookup] at hsession'
    obtain ⟨session, hsession, rfl⟩ := Option.map_eq_some_iff.mp hsession'
    split at hopen
    · next hobserved =>
      rw [if_pos hobserved, hobserved.1]
      exact Nat.le_max_right _ _
    · next hother =>
      have hne : session.discordChannelId ≠ c := fun hc => hother ⟨hc, hopen⟩
      rw [if_neg hother]
      exact hcover id session ((hwrote.elsewhere id session hne).mp hsession) hopen hne

/-- No room but the one of the event has new viewers. -/
theorem Observed.peaksCover (h : Observed c st st') (hrows : RowsOk st') (hcover : PeaksCover st)
    (hsubset : ∀ c', c' ≠ c → viewersIn c' st'.presence ⊆ viewersIn c' st.presence) :
    PeaksCover st' := by
  refine (h.peaksCover_iff hrows).mpr fun id session hsession hopen hother => ?_
  exact (Finset.card_le_card (hsubset _ hother)).trans
    (Rooms.peaksCover_iff.mp hcover id session hsession hopen)

/-- The row of one person, on the air or gone, brings no viewers to another room. -/
theorem viewersIn_subset_of_written {written : Option PresenceRow} {c' : Snowflake}
    (hpresence : ∀ v, st'.presence.lookup v = if v = u then written else st.presence.lookup v)
    (hwritten : ∀ row, written = some row → row.discordChannelId = c' → row.publishing = true) :
    viewersIn c' st'.presence ⊆ viewersIn c' st.presence := by
  refine viewersIn_subset fun v row hrow hc hviews => ?_
  rw [hpresence] at hrow
  split at hrow
  · exact absurd (hwritten row hrow hc) (by simp [hviews])
  · exact hrow

/-- Somebody goes off the air. -/
theorem Observed.off_iff {row' : PresenceRow} (h : Observed c st st') (hrows : RowsOk st')
    (hcover : PeaksCover st) (hrow : st.presence.lookup u = some row)
    (hpresence : ∀ v, st'.presence.lookup v = if v = u then some row' else st.presence.lookup v)
    (hchannel : row'.discordChannelId = row.discordChannelId) (hoff : row'.publishing = false) :
    PeaksCover st' ↔ (row.publishing = true → row.discordChannelId ≠ c →
      RoomToSpare st row.discordChannelId) := by
  have hcard := card_viewersIn_off hrow hpresence hchannel hoff
  rw [h.peaksCover_iff hrows]
  constructor
  · intro hcover' hlive hne id session hsession hc hopen
    have hpeak := hcover' id session hsession hopen (hc ▸ hne)
    rw [hc, hcard, if_pos hlive] at hpeak
    exact hpeak
  · intro hspare id session hsession hopen hne
    have hbefore := Rooms.peaksCover_iff.mp hcover id session hsession hopen
    by_cases hroom : session.discordChannelId = row.discordChannelId
    · rw [hroom] at hbefore hne ⊢
      rw [hcard]
      split
      · next hlive => exact hspare hlive hne id session hsession hroom hopen
      · exact hbefore
    · refine (Finset.card_le_card ?_).trans hbefore
      refine viewersIn_subset_of_written hpresence fun row₀ hrow₀ hc => ?_
      obtain rfl := Option.some.inj hrow₀
      exact absurd (hc.symm.trans hchannel) hroom

theorem peaksCover_perform_iff (now : Timestamp) (act : Action) (hrows : RowsOk st)
    (hcover : PeaksCover st) : PeaksCover (perform now st act) ↔ Accounted st act := by
  have hrows' := rowsOk_perform now act hrows
  cases act with
  | joined channel userId =>
      refine iff_of_true ?_ trivial
      cases huser : st.users.lookup userId with
      | none =>
          rw [perform, onJoin_unknown huser]
          exact hcover
      | some profile =>
          refine (onJoin_observed huser).peaksCover hrows' hcover fun c' hother => ?_
          refine viewersIn_subset_of_written (onJoin_effect huser).presence fun row hrow hc => ?_
          obtain rfl := Option.some.inj hrow
          exact absurd hc.symm hother
  | left channel userId =>
      refine iff_of_true (onLeave_observed.peaksCover hrows' hcover fun c' _ => ?_) trivial
      exact viewersIn_subset_of_written onLeave_effect.presence fun row hrow => by cases hrow
  | publisherGone channel userId =>
      cases hrow : st.presence.lookup userId with
      | none =>
          rw [perform, onPublisherGone_absent hrow]
          exact iff_of_true hcover fun row hsome => by simp [hrow] at hsome
      | some row =>
          refine ((onPublisherGone_observed hrow).off_iff hrows' hcover hrow
            (onPublisherGone_effect hrow).presence rfl rfl).trans ?_
          simp [Accounted, hrow]
  | shareStarted channel userId source =>
      refine iff_of_true ?_ trivial
      cases hrow : st.presence.lookup userId with
      | none =>
          rw [perform, onShareStart_absent hrow]
          exact hcover
      | some row =>
          refine (onShareStart_observed hrow).peaksCover hrows' hcover fun c' _ => ?_
          refine viewersIn_subset_of_written (onShareStart_effect hrow).presence
            fun started hstarted _ => ?_
          obtain rfl := Option.some.inj hstarted
          exact PresenceRow.start_publishing now source row
  | shareStopped channel userId source =>
      cases hrow : st.presence.lookup userId with
      | none =>
          rw [perform, onShareStop_absent hrow]
          exact iff_of_true hcover fun row hsome => by simp [hrow] at hsome
      | some row =>
          cases hother : row.since (other source) with
          | none =>
              refine ((onShareStop_observed hrow).off_iff hrows' hcover hrow
                (onShareStop_effect hrow).presence (PresenceRow.stop_discordChannelId source row)
                ?_).trans ?_
              · rw [PresenceRow.stop_publishing, hother]
                rfl
              · simp [Accounted, hrow, hother]
          | some since =>
              -- the other source keeps the person on the air
              refine iff_of_true ?_ fun row₀ hrow₀ _ hnone => ?_
              · refine (onShareStop_observed hrow).peaksCover hrows' hcover fun c' _ => ?_
                refine viewersIn_subset_of_written (onShareStop_effect hrow).presence
                  fun stopped hstopped _ => ?_
                obtain rfl := Option.some.inj hstopped
                rw [PresenceRow.stop_publishing, hother]
                rfl
              · obtain rfl := Option.some.inj (hrow.symm.trans hrow₀)
                rw [hother] at hnone
                cases hnone
  | finished channel =>
      refine iff_of_true (Rooms.peaksCover_iff.mpr fun id session hsession hopen => ?_) trivial
      refine (Finset.card_le_card ?_).trans
        (Rooms.peaksCover_iff.mp hcover id session hsession hopen)
      refine viewersIn_subset fun v row hrow _ _ => ?_
      rw [perform, roomFinished_effect.presence] at hrow
      exact (Option.filter_eq_some_iff.mp hrow).1

theorem raises_perform (now : Timestamp) (act : Action) (hrows : RowsOk st) (id : Uuid) :
    HighWater.Raises (watching id) (peak id) st (perform now st act) := by
  have hrows' := rowsOk_perform now act hrows
  cases act with
  | joined channel userId =>
      cases huser : st.users.lookup userId with
      | none =>
          rw [perform, onJoin_unknown huser]
          exact .of_mark_eq rfl
      | some profile => exact (onJoin_observed huser).raises hrows' id
  | left channel userId => exact onLeave_observed.raises hrows' id
  | publisherGone channel userId =>
      cases hrow : st.presence.lookup userId with
      | none =>
          rw [perform, onPublisherGone_absent hrow]
          exact .of_mark_eq rfl
      | some row => exact (onPublisherGone_observed hrow).raises hrows' id
  | shareStarted channel userId source =>
      cases hrow : st.presence.lookup userId with
      | none =>
          rw [perform, onShareStart_absent hrow]
          exact .of_mark_eq rfl
      | some row => exact (onShareStart_observed hrow).raises hrows' id
  | shareStopped channel userId source =>
      cases hrow : st.presence.lookup userId with
      | none =>
          rw [perform, onShareStop_absent hrow]
          exact .of_mark_eq rfl
      | some row => exact (onShareStop_observed hrow).raises hrows' id
  -- the end of a room writes no session
  | finished channel => exact .of_mark_eq rfl

theorem raises_handleAt (event : Timestamp × WebhookEvent) (hrows : RowsOk st) (id : Uuid) :
    HighWater.Raises (watching id) (peak id) st (handleAt st event) := by
  rw [handleAt, webhook_eq]
  cases action event.2 with
  | none => exact .of_mark_eq rfl
  | some act => exact raises_perform event.1 act hrows id

theorem peaksCover_handleAt_iff (event : Timestamp × WebhookEvent) (hrows : RowsOk st)
    (hcover : PeaksCover st) : PeaksCover (handleAt st event) ↔ EventAccounted st event := by
  rw [handleAt, webhook_eq, EventAccounted]
  cases action event.2 with
  | none => exact iff_of_true hcover fun act hnone => by cases hnone
  | some act =>
      rw [peaksCover_perform_iff event.1 act hrows hcover]
      simp

end Step

/-! ## Every run -/

theorem peaksCover_started (config : RoomConfig) (users : Users) :
    PeaksCover (ServerState.started config users) :=
  peaksCover_iff.mpr fun _ _ hsession => by cases hsession

/-- The peaks are exact exactly along the runs all of whose events are accounted for. -/
theorem peaks_exact_iff (config : RoomConfig) (users : Users)
    (events : List (Timestamp × WebhookEvent)) :
    PeaksExact (ServerState.started config users) events ↔
      EachStep handleAt EventAccounted (ServerState.started config users) events := by
  have hmarks : ∀ id, (∀ handled, handled <+: events → ∀ m,
      peak id (run handleAt (ServerState.started config users) handled) = some m →
        IsGreatest (HighWater.Seen handleAt (watching id) (ServerState.started config users)
          handled) m) ↔
      Throughout handleAt (HighWater.Covered (watching id) (peak id))
        (ServerState.started config users) events := by
    intro id
    refine HighWater.isGreatest_iff_throughout (I := RowsOk)
      (fun _ event hrows => rowsOk_handleAt event hrows)
      (fun _ event hrows => raises_handleAt event hrows id) (rowsOk_started config users) ?_ ?_
    · intro st n hwatching
      obtain ⟨session, hsession, -, -⟩ := watching_eq_some_iff.mp hwatching
      exact ⟨session.peakViewers, by rw [peak, hsession, Option.map_some]⟩
    · intro m hpeak
      cases hpeak
  have hcover : Throughout handleAt PeaksCover (ServerState.started config users) events ↔
      EachStep handleAt EventAccounted (ServerState.started config users) events :=
    throughout_iff_eachStep (fun _ event hrows => rowsOk_handleAt event hrows)
      (fun _ event hrows hcover => peaksCover_handleAt_iff event hrows hcover)
      (rowsOk_started config users) (peaksCover_started config users)
  rw [← hcover, throughout_iff_initial]
  simp only [throughout_iff_initial] at hmarks
  constructor
  · intro hexact handled hhandled id
    refine (hmarks id).mp (fun handled hhandled m hpeak => ?_) handled hhandled
    obtain ⟨session, hsession, rfl⟩ := Option.map_eq_some_iff.mp hpeak
    exact hexact handled hhandled id session hsession
  · intro hcovers handled hhandled id session hsession
    refine (hmarks id).mpr (fun handled hhandled => hcovers handled hhandled id) handled hhandled
      session.peakViewers ?_
    rw [peak, hsession, Option.map_some]

/-- Somebody shares in the room 5, moves to the room 6, where another one watches, and shares
there; the end of their first publishing connection is reported late. -/
private def movedPublisher : List (Timestamp × WebhookEvent) :=
  [(10, ⟨.participantJoined, some 5, some ⟨some 3, false⟩, none⟩),
    (12, ⟨.trackPublished, some 5, some ⟨some 3, true⟩, some .screenShare⟩),
    (20, ⟨.participantJoined, some 6, some ⟨some 4, false⟩, none⟩),
    (22, ⟨.participantJoined, some 6, some ⟨some 3, false⟩, none⟩),
    (24, ⟨.trackPublished, some 6, some ⟨some 3, true⟩, some .screenShare⟩),
    (30, ⟨.participantLeft, some 5, some ⟨some 3, true⟩, none⟩)]

/-- The session of the room 6 is open, with two people who do not publish and a peak of 1. -/
theorem moved_publisher_uncounted :
    ¬∀ (config : RoomConfig) (users : Users) (events : List (Timestamp × WebhookEvent)),
      PeaksExact (ServerState.started config users) events := by
  intro h
  let users : Users := ((∅ : Users).insert 3 ⟨30, "ana", none, none⟩).insert 4
    ⟨40, "bia", none, none⟩
  have hgreatest := h ⟨2, 4⟩ users movedPublisher movedPublisher List.prefix_rfl 1
    ⟨6, 3, 24, none, 1⟩ (by decide)
  have hpeak : 2 ≤ 1 := hgreatest.2 ⟨movedPublisher, List.prefix_rfl, by decide⟩
  exact absurd hpeak (by decide)

end Rooms
end Api
end Ldktela
