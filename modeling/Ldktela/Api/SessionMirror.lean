import Ldktela.Api.Rooms
import Ldktela.Db.PublishingFlag

/-!
# Open share sessions and presence

`room_presence` has one row for each person and `share_sessions` one open row for
each channel and publisher.  Six handlers write to the two tables, and nothing
compares them.  `mirrored_throughout_iff` says along which runs of the webhook the
open sessions are those of the people who are on the air, in the room they sit
in: no handler may find the person on the air in another room than the one of its
event, and a room may not finish while somebody is on the air in it.
-/

namespace Ldktela
namespace Api
namespace Rooms

open Protocol
open Db

/-- The presence row of the person says that they are on the air in the channel. -/
def OnAir (st : ServerState) (c : Snowflake) (u : Uuid) : Prop :=
  ∃ row, st.presence.lookup u = some row ∧ row.discordChannelId = c ∧ row.publishing = true

/-- A session is open exactly for whoever is on the air, and there is one. -/
structure Mirrored (st : ServerState) : Prop where
  openFor : ∀ c u, st.sessions.OpenFor c u ↔ OnAir st c u
  oneOpen : st.sessions.OneOpen

/-- What the handlers keep of the presence rows in any case: the flag is the
disjunction of the two start columns, and every row has a user. -/
structure RowsOk (st : ServerState) : Prop where
  flag : ∀ u row, st.presence.lookup u = some row → row.FlagTells
  known : ∀ u row, st.presence.lookup u = some row → st.users.lookup u ≠ none

/-- One event handled. -/
def handleAt (st : ServerState) (event : Timestamp × WebhookEvent) : ServerState :=
  webhook event.1 st event.2

/-- The handler finds the two tables where it expects them:

* nobody joins a room while their row says that they are on the air;
* what ends a stay or the publications of a person comes from the room in which
  they are on the air;
* a publication starts in the room the person sits in;
* a room does not finish while somebody is on the air in it. -/
def InStep (st : ServerState) : Action → Prop
  | .joined _ u => ∀ row, st.presence.lookup u = some row → row.publishing = false
  | .left c u => ∀ row, st.presence.lookup u = some row →
      row.publishing = true → row.discordChannelId = c
  | .publisherGone c u => ∀ row, st.presence.lookup u = some row →
      row.publishing = true → row.discordChannelId = c
  | .shareStarted c u _ => ∀ row, st.presence.lookup u = some row → row.discordChannelId = c
  | .shareStopped c u source => ∀ row, st.presence.lookup u = some row →
      row.publishing = true → row.since (other source) = none → row.discordChannelId = c
  | .finished c => ∀ u row, st.presence.lookup u = some row → row.discordChannelId = c →
      row.publishing = false

/-- The event is dropped, or its handler is in step. -/
def EventInStep (st : ServerState) (event : Timestamp × WebhookEvent) : Prop :=
  ∀ act, action event.2 = some act → InStep st act

/-! ## What every event keeps -/

section Keep

variable {st st' : ServerState} {c : Snowflake} {u : Uuid} {rows : Uuid → Option PresenceRow}
  {isOpen : Snowflake → Uuid → Prop} {holds : Snowflake → Uuid → PublicationSource → Prop}

/-- The rows after an effect are old rows, but for those it wrote. -/
theorem RowsOk.of_effect (hrows : RowsOk st) (heffect : Effect c st st' rows isOpen holds)
    (hwritten : ∀ v row, rows v = some row →
      st.presence.lookup v = some row ∨ row.FlagTells ∧ st.users.lookup v ≠ none) : RowsOk st' where
  flag v row hrow := by
    rw [heffect.presence] at hrow
    rcases hwritten v row hrow with hold | ⟨hflag, -⟩
    · exact hrows.flag v row hold
    · exact hflag
  known v row hrow := by
    rw [heffect.presence] at hrow
    rw [heffect.users]
    rcases hwritten v row hrow with hold | ⟨-, hknown⟩
    · exact hrows.known v row hold
    · exact hknown

/-- The effects that write the row of one person. -/
theorem RowsOk.of_effect_one {written : Option PresenceRow} (hrows : RowsOk st)
    (heffect : Effect c st st' (fun v => if v = u then written else st.presence.lookup v)
      isOpen holds)
    (hwritten : ∀ row, written = some row → row.FlagTells ∧ st.users.lookup u ≠ none) :
    RowsOk st' := by
  refine hrows.of_effect heffect fun v row hrow => ?_
  split at hrow
  · next hv =>
      subst hv
      exact .inr (hwritten row hrow)
  · exact .inl hrow

theorem rowsOk_perform (now : Timestamp) (act : Action) (hrows : RowsOk st) :
    RowsOk (perform now st act) := by
  cases act with
  | joined channel userId =>
      cases huser : st.users.lookup userId with
      | none =>
          rw [perform, onJoin_unknown huser]
          exact hrows
      | some profile =>
          refine hrows.of_effect_one (onJoin_effect huser) fun row hrow => ?_
          obtain rfl := Option.some.inj hrow
          exact ⟨by simp [PresenceRow.FlagTells], by simp [huser]⟩
  | left channel userId =>
      exact hrows.of_effect_one onLeave_effect fun row hrow => by cases hrow
  | publisherGone channel userId =>
      cases hrow : st.presence.lookup userId with
      | none =>
          rw [perform, onPublisherGone_absent hrow]
          exact hrows
      | some row =>
          refine hrows.of_effect_one (onPublisherGone_effect hrow) fun cleared hcleared => ?_
          obtain rfl := Option.some.inj hcleared
          exact ⟨row.flagTells_clear, hrows.known userId row hrow⟩
  | shareStarted channel userId source =>
      cases hrow : st.presence.lookup userId with
      | none =>
          rw [perform, onShareStart_absent hrow]
          exact hrows
      | some row =>
          refine hrows.of_effect_one (onShareStart_effect hrow) fun started hstarted => ?_
          obtain rfl := Option.some.inj hstarted
          exact ⟨row.flagTells_start now source, hrows.known userId row hrow⟩
  | shareStopped channel userId source =>
      cases hrow : st.presence.lookup userId with
      | none =>
          rw [perform, onShareStop_absent hrow]
          exact hrows
      | some row =>
          refine hrows.of_effect_one (onShareStop_effect hrow) fun stopped hstopped => ?_
          obtain rfl := Option.some.inj hstopped
          exact ⟨row.flagTells_stop source, hrows.known userId row hrow⟩
  | finished channel =>
      refine hrows.of_effect roomFinished_effect fun v row hrow => .inl ?_
      exact (Option.filter_eq_some_iff.mp hrow).1

theorem rowsOk_handleAt (event : Timestamp × WebhookEvent) (hrows : RowsOk st) :
    RowsOk (handleAt st event) := by
  rw [handleAt, webhook_eq]
  cases action event.2 with
  | none => exact hrows
  | some act => exact rowsOk_perform event.1 act hrows

end Keep

/-! ## One event -/

section Step

variable {st st' : ServerState} {c : Snowflake} {u : Uuid}
  {isOpen : Snowflake → Uuid → Prop} {holds : Snowflake → Uuid → PublicationSource → Prop}

/-- After an effect on one person, the tables agree exactly if they agree about
that person: `live` is the room they are on the air in. -/
theorem Effect.mirrored_iff {written : Option PresenceRow} (hmirrored : Mirrored st)
    (heffect : Effect c st st' (fun v => if v = u then written else st.presence.lookup v)
      isOpen holds)
    (hopen : ∀ c' v, v ≠ u → (isOpen c' v ↔ st.sessions.OpenFor c' v)) :
    Mirrored st' ↔ ∀ c', isOpen c' u ↔
      ∃ row, written = some row ∧ row.discordChannelId = c' ∧ row.publishing = true := by
  have hair : ∀ c' v, OnAir st' c' v ↔
      if v = u then ∃ row, written = some row ∧ row.discordChannelId = c' ∧ row.publishing = true
      else OnAir st c' v := by
    intro c' v
    unfold OnAir
    rw [heffect.presence]
    by_cases hv : v = u
    · simp only [if_pos hv]
    · simp only [if_neg hv]
  constructor
  · intro hafter c'
    have hagree := hafter.openFor c' u
    rwa [heffect.openFor, hair, if_pos rfl] at hagree
  · intro hagree
    refine ⟨fun c' v => ?_, heffect.oneOpen hmirrored.oneOpen⟩
    rw [heffect.openFor, hair]
    by_cases hv : v = u
    · rw [if_pos hv, hv]
      exact hagree c'
    · rw [if_neg hv, hopen c' v hv]
      exact hmirrored.openFor c' v

/-- Where a person who has a row is on the air. -/
theorem onAir_iff {row : PresenceRow} (hrow : st.presence.lookup u = some row)
    (c' : Snowflake) : OnAir st c' u ↔ row.discordChannelId = c' ∧ row.publishing = true := by
  constructor
  · rintro ⟨row', hrow', hair⟩
    obtain rfl := Option.some.inj (hrow.symm.trans hrow')
    exact hair
  · exact fun hair => ⟨row, hrow, hair⟩

/-- A handler that takes the person off the air and closes their session in the
room of its event leaves no session open exactly if they were on the air in no
other room. -/
theorem closes_all_iff (hmirrored : Mirrored st) :
    (∀ c', ¬ (st.sessions.OpenFor c' u ∧ c' ≠ c)) ↔
      ∀ row, st.presence.lookup u = some row → row.publishing = true →
        row.discordChannelId = c := by
  constructor
  · intro hnone row hrow hair
    by_contra hne
    refine hnone row.discordChannelId ⟨?_, hne⟩
    exact (hmirrored.openFor _ u).mpr ⟨row, hrow, rfl, hair⟩
  · rintro hroom c' ⟨hopen, hne⟩
    obtain ⟨row, hrow, rfl, hair⟩ := (hmirrored.openFor c' u).mp hopen
    exact hne (hroom row hrow hair)

/-- When the person sits in `row`, opening their session in the room `c` and
putting them on the air agree exactly if `c` is the room of the row. -/
theorem opens_same_iff {row : PresenceRow} (hmirrored : Mirrored st)
    (hrow : st.presence.lookup u = some row) :
    (∀ c', c' = c ∨ st.sessions.OpenFor c' u ↔ row.discordChannelId = c') ↔
      row.discordChannelId = c := by
  constructor
  · intro hagree
    exact (hagree c).mp (.inl rfl)
  · rintro hroom c'
    rw [hmirrored.openFor, onAir_iff hrow, hroom]
    constructor
    · rintro (rfl | ⟨hc, -⟩)
      · rfl
      · exact hc
    · exact fun hc => .inl hc.symm

theorem mirrored_perform_iff (now : Timestamp) (act : Action) (hrows : RowsOk st)
    (hmirrored : Mirrored st) : Mirrored (perform now st act) ↔ InStep st act := by
  cases act with
  | joined channel userId =>
      cases huser : st.users.lookup userId with
      | none =>
          rw [perform, onJoin_unknown huser]
          refine iff_of_true hmirrored fun row hrow => ?_
          exact absurd huser (hrows.known userId row hrow)
      | some profile =>
          rw [perform, Effect.mirrored_iff hmirrored (onJoin_effect huser) fun _ _ _ => Iff.rfl]
          simp only [InStep, hmirrored.openFor]
          constructor
          · -- a session that stays open would have no row behind it
            intro hagree row hrow
            by_contra hair
            obtain ⟨joined, hjoined, -, hlive⟩ := (hagree row.discordChannelId).mp
              ⟨row, hrow, rfl, eq_true_of_ne_false hair⟩
            obtain rfl := Option.some.inj hjoined
            cases hlive
          · intro hquiet c'
            refine iff_of_false ?_ ?_
            · rintro ⟨row, hrow, -, hair⟩
              exact absurd (hquiet row hrow) (by simp [hair])
            · rintro ⟨row, hjoined, -, hair⟩
              obtain rfl := Option.some.inj hjoined
              cases hair
  | left channel userId =>
      rw [perform, Effect.mirrored_iff hmirrored onLeave_effect fun c' v hv => by simp [hv]]
      rw [InStep, ← closes_all_iff hmirrored]
      refine forall_congr' fun c' => ?_
      simp
  | publisherGone channel userId =>
      cases hrow : st.presence.lookup userId with
      | none =>
          rw [perform, onPublisherGone_absent hrow]
          exact iff_of_true hmirrored fun row hsome => by simp [hrow] at hsome
      | some row =>
          rw [perform, Effect.mirrored_iff hmirrored (onPublisherGone_effect hrow)
            fun c' v hv => by simp [hv]]
          rw [InStep, ← closes_all_iff hmirrored]
          refine forall_congr' fun c' => ?_
          simp [PresenceRow.clear]
  | shareStarted channel userId source =>
      cases hrow : st.presence.lookup userId with
      | none =>
          rw [perform, onShareStart_absent hrow]
          exact iff_of_true hmirrored fun row hsome => by simp [hrow] at hsome
      | some row =>
          rw [perform, Effect.mirrored_iff hmirrored (onShareStart_effect hrow)
            fun c' v hv => by simp [hv]]
          simp only [InStep, hrow, Option.some.injEq, forall_eq']
          rw [← opens_same_iff hmirrored hrow]
          refine forall_congr' fun c' => ?_
          simp
  | shareStopped channel userId source =>
      cases hrow : st.presence.lookup userId with
      | none =>
          rw [perform, onShareStop_absent hrow]
          exact iff_of_true hmirrored fun row hsome => by simp [hrow] at hsome
      | some row =>
          rw [perform, Effect.mirrored_iff hmirrored (onShareStop_effect hrow)
            fun c' v hv => by simp [hv]]
          cases hother : row.since (other source) with
          | none =>
              have hstep : InStep st (.shareStopped channel userId source) ↔
                  ∀ row, st.presence.lookup userId = some row → row.publishing = true →
                    row.discordChannelId = channel := by
                simp [InStep, hrow, hother]
              rw [hstep, ← closes_all_iff hmirrored]
              refine forall_congr' fun c' => ?_
              simp [hother]
          | some since =>
              -- the session stays, and so does what the person transmits
              have hlive : row.publishing = true := by
                rw [(hrows.flag userId row hrow).publishing_eq]
                cases source with
                | screen => simp_all [PresenceRow.since, other]
                | camera => simp_all [PresenceRow.since, other]
              refine iff_of_true (fun c' => ?_) ?_
              · simp [hother, hmirrored.openFor, onAir_iff hrow, hlive]
              · simp [InStep, hrow, hother]
  | finished channel =>
      have hair : ∀ c' v, OnAir (roomFinished channel st) c' v ↔ OnAir st c' v ∧ c' ≠ channel := by
        intro c' v
        unfold OnAir
        rw [(@roomFinished_effect st channel).presence]
        simp only [Option.filter_eq_some_iff, decide_eq_true_eq]
        constructor
        · rintro ⟨row, ⟨hrow, hne⟩, rfl, hlive⟩
          exact ⟨⟨row, hrow, rfl, hlive⟩, hne⟩
        · rintro ⟨⟨row, hrow, rfl, hlive⟩, hne⟩
          exact ⟨row, ⟨hrow, hne⟩, rfl, hlive⟩
      -- the rows of the room go, and no session is closed
      constructor
      · intro hafter v row hrow hchannel
        by_contra hlive
        have hopen : st.sessions.OpenFor channel v := (hmirrored.openFor channel v).mpr
          ⟨row, hrow, hchannel, eq_true_of_ne_false hlive⟩
        exact ((hair channel v).mp ((hafter.openFor channel v).mp hopen)).2 rfl
      · intro hquiet
        refine ⟨fun c' v => ?_, hmirrored.oneOpen⟩
        rw [perform, hair, roomFinished_effect.openFor, hmirrored.openFor]
        refine (and_iff_left_of_imp ?_).symm
        rintro ⟨row, hrow, rfl, hlive⟩ rfl
        exact absurd (hquiet v row hrow rfl) (by simp [hlive])

theorem mirrored_handleAt_iff (event : Timestamp × WebhookEvent) (hrows : RowsOk st)
    (hmirrored : Mirrored st) : Mirrored (handleAt st event) ↔ EventInStep st event := by
  rw [handleAt, webhook_eq, EventInStep]
  cases action event.2 with
  | none => exact iff_of_true hmirrored fun act hnone => nomatch hnone
  | some act =>
      rw [mirrored_perform_iff event.1 act hrows hmirrored]
      simp

end Step

/-! ## Runs -/

theorem rowsOk_started (config : RoomConfig) (users : Users) :
    RowsOk (ServerState.started config users) where
  flag _ _ hrow := nomatch hrow
  known _ _ hrow := nomatch hrow

theorem mirrored_started (config : RoomConfig) (users : Users) :
    Mirrored (ServerState.started config users) where
  openFor c u := by
    constructor
    · rintro ⟨id, row, hrow, -⟩
      cases hrow
    · rintro ⟨row, hrow, -⟩
      cases hrow
  oneOpen _ _ _ _ _ _ hrow _ _ _ := nomatch hrow

/-- The open sessions mirror the presence after every event of a run, and there
is at most one for each channel and publisher, exactly if every handler of the run
is in step. -/
theorem mirrored_throughout_iff (config : RoomConfig) (users : Users)
    (events : List (Timestamp × WebhookEvent)) :
    Runs.Throughout handleAt Mirrored (ServerState.started config users) events ↔
      Runs.EachStep handleAt EventInStep (ServerState.started config users) events :=
  Runs.throughout_iff_eachStep (fun _ event hrows => rowsOk_handleAt event hrows)
    (fun _ event hrows hmirrored => mirrored_handleAt_iff event hrows hmirrored)
    (rowsOk_started config users) (mirrored_started config users)

/-- Somebody joins the room 5 and shares their screen; the room finishes. -/
private def finishedWhileSharing : List (Timestamp × WebhookEvent) :=
  [(10, ⟨.participantJoined, some 5, some ⟨some 3, false⟩, none⟩),
    (12, ⟨.trackPublished, some 5, some ⟨some 3, true⟩, some .screenShare⟩),
    (20, ⟨.roomFinished, some 5, none, none⟩)]

/-- The end of the room deletes the presence row and leaves the session open. -/
theorem finished_room_leaves_session :
    ¬ ∀ (config : RoomConfig) (users : Users) (events : List (Timestamp × WebhookEvent)),
      Runs.Throughout handleAt Mirrored (ServerState.started config users) events := by
  intro h
  have hmirrored := Runs.throughout_iff_initial.mp
    (h ⟨2, 4⟩ ((∅ : Users).insert 3 ⟨30, "ana", none, none⟩) finishedWhileSharing)
    finishedWhileSharing (List.prefix_refl _)
  obtain ⟨row, hrow, -⟩ := (hmirrored.openFor 5 3).mp (by decide)
  have habsent : (Runs.run handleAt
      (ServerState.started ⟨2, 4⟩ ((∅ : Users).insert 3 ⟨30, "ana", none, none⟩))
      finishedWhileSharing).presence.lookup 3 = none := by decide
  rw [habsent] at hrow
  cases hrow

end Rooms
end Api
end Ldktela
