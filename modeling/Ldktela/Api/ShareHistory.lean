import Ldktela.Api.Announcements
import Ldktela.Lib.Runs

/-!
# The history of the shares

`share_sessions` is the one table that keeps a history.  Its writers are the handlers of the
webhook, statement by statement and in any order (`Announcements.Job`), and `serve` of
`crates/server/src/main.rs`, which closes what a crash left open; that may fail, and a crash may
come again at any moment.

A handler reads the clock before it closes a session, and the statement may run later; a session is
opened at the clock of the statement.
-/

namespace Ldktela
namespace Api
namespace ShareHistory

open Protocol
open Db
open Announcements (Job)
open Rooms (Action Op Task)
open Runs

structure World where
  clock : Timestamp
  st : ServerState
  running : Table Nat Job

/-- A clock and a server that has never served. -/
def World.new (config : RoomConfig) (users : Users) (clock : Timestamp) : World :=
  ⟨clock, .started config users, ∅⟩

inductive Act where
  | tick (ms : Nat)
  /-- A webhook comes in. -/
  | receive (id : Nat) (action : Action)
  /-- The next call of a handler, which read the clock at `stamp`. -/
  | advance (id : Nat) (stamp : Timestamp)
  /-- A publish slot is asked for. -/
  | claim (channel : Snowflake) (userId : Uuid) (wanted : List PublicationSource)
  /-- `evict` deletes a row of the presence. -/
  | evict (userId : Uuid)
  /-- The process ends and is started again.  The presence may be lost with the database. -/
  | restart (stamp : Timestamp) (closes : Bool) (presence : Presence)

/-- Whether the next call of a handler writes an instant that it has read before. -/
def closesNext : Job → Bool
  | .task (.rest (.close _ _ :: _)) => true
  | _ => false

namespace World

/-- The instant that the next call of a handler writes. -/
def instant (w : World) (job : Job) (stamp : Timestamp) : Timestamp :=
  if closesNext job then min stamp w.clock else w.clock

def restart (stamp : Timestamp) (closes : Bool) (presence : Presence) (w : World) : World :=
  { w with
    st :=
      { ServerState.started w.st.config w.st.users with
        presence
        sessions :=
          if closes then ShareSessions.closeAllOpen (min stamp w.clock) w.st.sessions
          else w.st.sessions }
    running := ∅ }

def advance (id : Nat) (stamp : Timestamp) (w : World) : World :=
  match w.running.lookup id with
  | none => w
  | some job =>
      let moved := job.advance (w.instant job stamp) w.st
      { w with
        st := moved.1
        running := moved.2.elim (w.running.erase id) fun next => w.running.insert id next }

def step (w : World) : Act → World
  | .tick ms => { w with clock := w.clock + ms }
  | .receive id action => { w with running := w.running.insert id (.task (.received action)) }
  | .advance id stamp => w.advance id stamp
  | .claim channel userId wanted =>
      { w with st := { w.st with
        grants := (Grants.claimPublications w.st.config channel userId wanted w.st.grants).1 } }
  | .evict userId =>
      { w with st := { w.st with presence := (Presence.leave userId w.st.presence).1 } }
  | .restart stamp closes presence => w.restart stamp closes presence

end World

/-! ## What a step writes -/

/-- One statement on the table, run at `clock`. -/
inductive Statement (clock : Timestamp) (t : ShareSessions) : ShareSessions → Prop where
  | nothing : Statement clock t t
  | openSession (c : Snowflake) (u : Uuid) :
      Statement clock t (ShareSessions.openSession clock c u t)
  | close (stamp : Timestamp) (hstamp : stamp ≤ clock) (c : Snowflake) (u : Uuid) :
      Statement clock t (ShareSessions.close stamp c u t)
  | observeViewers (c : Snowflake) (viewers : Nat) :
      Statement clock t (ShareSessions.observeViewers c viewers t)
  | closeAllOpen (stamp : Timestamp) (hstamp : stamp ≤ clock) :
      Statement clock t (ShareSessions.closeAllOpen stamp t)

theorem sessions_start (now : Timestamp) (st : ServerState) (action : Action) :
    (Task.start now st action).1.sessions = st.sessions := by
  cases action <;> rfl

theorem statement_advance (w : World) (job : Job) (stamp : Timestamp) :
    Statement w.clock w.st.sessions (job.advance (w.instant job stamp) w.st).1.sessions := by
  cases job with
  | observing b todo => exact .observeViewers b.discordChannelId b.viewers
  | announcing b todo => exact .nothing
  | task task =>
      cases task with
      | received action =>
          show Statement _ _ (Task.start _ _ _).1.sessions
          rw [sessions_start]
          exact .nothing
      | rest todo =>
          cases todo with
          | nil => exact .nothing
          | cons op todo =>
              cases op with
              | openSession channel userId => exact .openSession channel userId
              | close channel userId => exact .close _ (Nat.min_le_right _ _) channel userId
              | observe channel => exact .nothing
              | publish channel recipients event =>
                  cases recipients with
                  | room => exact .nothing
                  | users recipients => exact .nothing
              | leave userId => exact .nothing
              | releasePublisher channel userId => exact .nothing
              | releasePublication channel userId source => exact .nothing
              | forgetRoom channel => exact .nothing
              | announceEmpty channel => exact .nothing

/-- The clock goes forward, and the table is written by one statement at most. -/
theorem step_cases (w : World) (act : Act) :
    w.clock ≤ (w.step act).clock ∧ Statement w.clock w.st.sessions (w.step act).st.sessions := by
  cases act with
  | tick ms => exact ⟨Nat.le_add_right _ _, .nothing⟩
  | receive id action => exact ⟨le_rfl, .nothing⟩
  | advance id stamp =>
      simp only [World.step, World.advance]
      cases w.running.lookup id with
      | none => exact ⟨le_rfl, .nothing⟩
      | some job => exact ⟨le_rfl, statement_advance w job stamp⟩
  | claim channel userId wanted => exact ⟨le_rfl, .nothing⟩
  | evict userId => exact ⟨le_rfl, .nothing⟩
  | restart stamp closes presence =>
      refine ⟨le_rfl, ?_⟩
      cases closes with
      | true => exact .closeAllOpen _ (Nat.min_le_right _ _)
      | false => exact .nothing

/-! ## What a statement keeps -/

/-- The row as it may be found later: the end is final, the rest of the history stays, and the peak
does not fall. -/
structure Later (row row' : ShareSessionRow) : Prop where
  channel : row'.discordChannelId = row.discordChannelId
  publisher : row'.publisherId = row.publisherId
  started : row'.startedAt = row.startedAt
  peak : row.peakViewers ≤ row'.peakViewers
  final : row.endedAt ≠ none → row' = row

theorem Later.refl (row : ShareSessionRow) : Later row row :=
  ⟨rfl, rfl, rfl, le_rfl, fun _ => rfl⟩

theorem Later.trans {row row' row'' : ShareSessionRow} (h : Later row row')
    (h' : Later row' row'') : Later row row'' where
  channel := h'.channel.trans h.channel
  publisher := h'.publisher.trans h.publisher
  started := h'.started.trans h.started
  peak := h.peak.trans h'.peak
  final := fun hended => by
    obtain rfl := h.final hended
    exact h'.final hended

/-- Every row of `t` is a row of `t'`, and has moved on at most. -/
def Kept (t t' : ShareSessions) : Prop :=
  ∀ id row, t.lookup id = some row → ∃ row', t'.lookup id = some row' ∧ Later row row'

theorem Kept.refl (t : ShareSessions) : Kept t t :=
  fun _ row hrow => ⟨row, hrow, .refl row⟩

theorem Kept.trans {t t' t'' : ShareSessions} (h : Kept t t') (h' : Kept t' t'') : Kept t t'' := by
  intro id row hrow
  obtain ⟨row', hrow', hlater⟩ := h id row hrow
  obtain ⟨row'', hrow'', hlater'⟩ := h' id row' hrow'
  exact ⟨row'', hrow'', hlater.trans hlater'⟩

/-- A session of a publisher in a channel ends before the next one starts. -/
structure Ordered (clock : Timestamp) (t : ShareSessions) : Prop where
  past : ∀ id row, t.lookup id = some row →
    row.startedAt ≤ clock ∧ ∀ ended, row.endedAt = some ended → ended ≤ clock
  apart : ∀ id id' row row', id < id' → t.lookup id = some row → t.lookup id' = some row' →
    row.discordChannelId = row'.discordChannelId → row.publisherId = row'.publisherId →
      ∃ ended, row.endedAt = some ended ∧ ended ≤ row'.startedAt

section Rewrites

variable {clock clock' : Timestamp} {t t' : ShareSessions}
  {f : Uuid → ShareSessionRow → ShareSessionRow}

theorem Ordered.later (h : Ordered clock t) (hclock : clock ≤ clock') : Ordered clock' t where
  past := fun id row hrow => ⟨(h.past id row hrow).1.trans hclock,
    fun ended hended => ((h.past id row hrow).2 ended hended).trans hclock⟩
  apart := h.apart

theorem kept_mapVal (hf : ∀ id row, Later row (f id row)) : Kept t (t.mapVal f) := by
  intro id row hrow
  exact ⟨f id row, by rw [AList.lookup_mapVal, hrow, Option.map_some], hf id row⟩

theorem Ordered.mapVal (h : Ordered clock t) (hf : ∀ id row, Later row (f id row))
    (hends : ∀ id row ended, row.endedAt = none → (f id row).endedAt = some ended →
      ended ≤ clock) : Ordered clock (t.mapVal f) where
  past := fun id row hrow => by
    rw [AList.lookup_mapVal] at hrow
    obtain ⟨old, hold, rfl⟩ := Option.map_eq_some_iff.mp hrow
    obtain ⟨hstarted, hended⟩ := h.past id old hold
    refine ⟨(hf id old).started.trans_le hstarted, fun ended heq => ?_⟩
    by_cases hopen : old.endedAt = none
    · exact hends id old ended hopen heq
    · rw [(hf id old).final hopen] at heq
      exact hended ended heq
  apart := fun id id' row row' hlt hrow hrow' hchannel hpublisher => by
    rw [AList.lookup_mapVal] at hrow hrow'
    obtain ⟨old, hold, rfl⟩ := Option.map_eq_some_iff.mp hrow
    obtain ⟨old', hold', rfl⟩ := Option.map_eq_some_iff.mp hrow'
    obtain ⟨ended, hended, hle⟩ := h.apart id id' old old' hlt hold hold'
      ((hf id old).channel.symm.trans (hchannel.trans (hf id' old').channel))
      ((hf id old).publisher.symm.trans (hpublisher.trans (hf id' old').publisher))
    refine ⟨ended, ?_, hle.trans_eq (hf id' old').started.symm⟩
    rw [(hf id old).final (by rw [hended]; exact nofun), hended]

theorem later_closed (stamp : Timestamp) (p : ShareSessionRow → Prop) [DecidablePred p]
    (hp : ∀ row, p row → row.endedAt = none) (row : ShareSessionRow) :
    Later row (if p row then { row with endedAt := some stamp } else row) := by
  split
  · next hrow => exact ⟨rfl, rfl, rfl, le_rfl, fun hended => absurd (hp row hrow) hended⟩
  · exact .refl row

theorem later_observed (c : Snowflake) (viewers : Nat) (row : ShareSessionRow) :
    Later row (if row.discordChannelId = c ∧ row.endedAt = none then
      { row with peakViewers := max row.peakViewers viewers } else row) := by
  split
  · next hrow =>
      exact ⟨rfl, rfl, rfl, Nat.le_max_left _ _, fun hended => absurd hrow.2 hended⟩
  · exact .refl row

theorem ended_closed {stamp : Timestamp} (p : ShareSessionRow → Prop) [DecidablePred p]
    (hstamp : stamp ≤ clock) {row : ShareSessionRow} {ended : Timestamp}
    (hopen : row.endedAt = none)
    (h : (if p row then { row with endedAt := some stamp } else row).endedAt = some ended) :
    ended ≤ clock := by
  split at h
  · exact (Option.some.inj h).symm.trans_le hstamp
  · rw [hopen] at h
    cases h

theorem ordered_empty (clock : Timestamp) : Ordered clock ∅ where
  past := fun id _ hrow => absurd (hrow.symm.trans (AList.lookup_empty id)) (Option.some_ne_none _)
  apart := fun id _ _ _ _ hrow =>
    absurd (hrow.symm.trans (AList.lookup_empty id)) (Option.some_ne_none _)

theorem Kept.openSession (c : Snowflake) (u : Uuid) :
    Kept t (ShareSessions.openSession clock c u t) := by
  intro id row hrow
  refine ⟨row, ?_, .refl row⟩
  rw [ShareSessions.lookup_open, if_neg, hrow]
  rintro ⟨-, rfl⟩
  exact ShareSessions.freshId_not_mem t (AList.lookup_isSome.mp (by simp [hrow]))

theorem Ordered.openSession (h : Ordered clock t) (c : Snowflake) (u : Uuid) :
    Ordered clock (ShareSessions.openSession clock c u t) where
  past := fun id row hrow => by
    rw [ShareSessions.lookup_open] at hrow
    split at hrow
    · obtain rfl := Option.some.inj hrow
      exact ⟨le_rfl, nofun⟩
    · exact h.past id row hrow
  apart := fun id id' row row' hlt hrow hrow' hchannel hpublisher => by
    have hold : ∀ {id row}, t.lookup id = some row → id < t.freshId := fun hrow =>
      ShareSessions.lt_freshId (AList.lookup_isSome.mp (by simp [hrow]))
    rw [ShareSessions.lookup_open] at hrow hrow'
    split at hrow'
    · next hnew =>
        obtain rfl := Option.some.inj hrow'
        rw [if_neg (fun h => absurd (h.2.trans hnew.2.symm) hlt.ne)] at hrow
        -- the session was closed, or another one would not have been opened
        have hended : row.endedAt ≠ none := fun hopen => hnew.1 ⟨id, row, hrow,
          ShareSessions.isOpenFor_iff.mpr ⟨hchannel, hpublisher, hopen⟩⟩
        obtain ⟨ended, hended⟩ := Option.ne_none_iff_exists'.mp hended
        exact ⟨ended, hended, (h.past id row hrow).2 ended hended⟩
    · split at hrow
      · next hnew => exact absurd (hold hrow') (hnew.2 ▸ hlt).not_gt
      · exact h.apart id id' row row' hlt hrow hrow' hchannel hpublisher

theorem Statement.kept (h : Statement clock t t') : Kept t t' := by
  cases h with
  | nothing => exact .refl t
  | openSession c u => exact .openSession c u
  | close stamp hstamp c u =>
      exact kept_mapVal fun _ row => later_closed stamp (fun row => row.isOpenFor c u = true)
        (fun row hopen => (ShareSessions.isOpenFor_iff.mp hopen).2.2) row
  | observeViewers c viewers => exact kept_mapVal fun _ row => later_observed c viewers row
  | closeAllOpen stamp hstamp =>
      exact kept_mapVal fun _ row =>
        later_closed stamp (fun row => row.endedAt = none) (fun _ hopen => hopen) row

theorem Statement.ordered (h : Statement clock t t') (hordered : Ordered clock t) :
    Ordered clock t' := by
  cases h with
  | nothing => exact hordered
  | openSession c u => exact hordered.openSession c u
  | close stamp hstamp c u =>
      exact hordered.mapVal
        (fun _ row => later_closed stamp (fun row => row.isOpenFor c u = true)
          (fun row hopen => (ShareSessions.isOpenFor_iff.mp hopen).2.2) row)
        fun _ _ _ hopen h => ended_closed (fun row => row.isOpenFor c u = true) hstamp hopen h
  | observeViewers c viewers =>
      refine hordered.mapVal (fun _ row => later_observed c viewers row)
        fun _ row ended hopen h => ?_
      split at h
      · exact absurd (h.symm.trans hopen) nofun
      · exact absurd (h.symm.trans hopen) nofun
  | closeAllOpen stamp hstamp =>
      exact hordered.mapVal
        (fun _ row => later_closed stamp (fun row => row.endedAt = none) (fun _ hopen => hopen) row)
        fun _ _ _ hopen h => ended_closed (fun row => row.endedAt = none) hstamp hopen h

end Rewrites

/-- Whatever the handlers interleave and however often the server ends: a closed session is never
written again, what is open only moves on, two sessions of a publisher in a channel do not overlap,
none ends in the future, and a start that closes what was left open leaves nothing open. -/
theorem shareHistory_run (config : RoomConfig) (users : Users) (clock : Timestamp)
    (acts more : List Act) :
    let w := run World.step (.new config users clock) acts
    Kept w.st.sessions (run World.step w more).st.sessions ∧
      (∀ id id' row row', id ≠ id' → w.st.sessions.lookup id = some row →
        w.st.sessions.lookup id' = some row' → row.discordChannelId = row'.discordChannelId →
          row.publisherId = row'.publisherId →
            (∃ ended, row.endedAt = some ended ∧ ended ≤ row'.startedAt) ∨
              ∃ ended, row'.endedAt = some ended ∧ ended ≤ row.startedAt) ∧
      (∀ id row, w.st.sessions.lookup id = some row → ∀ ended, row.endedAt = some ended →
        ended ≤ w.clock) ∧
      ∀ stamp presence id row,
        (w.step (.restart stamp true presence)).st.sessions.lookup id = some row →
          row.endedAt ≠ none := by
  intro w
  have hordered : Ordered w.clock w.st.sessions := by
    refine run_invariant (I := fun w : World => Ordered w.clock w.st.sessions)
      (fun w act h => ?_) (ordered_empty clock) acts
    obtain ⟨hclock, hstatement⟩ := step_cases w act
    exact (hstatement.ordered h).later hclock
  refine ⟨?_, fun id id' row row' hne hrow hrow' hchannel hpublisher => ?_,
    fun id row hrow => (hordered.past id row hrow).2, fun stamp presence id row hrow => ?_⟩
  · exact run_invariant (I := fun w' : World => Kept w.st.sessions w'.st.sessions)
      (fun w' act h => h.trans (step_cases w' act).2.kept) (.refl _) more
  · rcases Nat.lt_or_gt_of_ne hne with hlt | hgt
    · exact .inl (hordered.apart id id' row row' hlt hrow hrow' hchannel hpublisher)
    · exact .inr (hordered.apart id' id row' row hgt hrow' hrow hchannel.symm hpublisher.symm)
  · have hrow : (ShareSessions.closeAllOpen _ w.st.sessions).lookup id = some row := hrow
    rw [ShareSessions.closeAllOpen, AList.lookup_mapVal] at hrow
    obtain ⟨old, -, rfl⟩ := Option.map_eq_some_iff.mp hrow
    split
    · exact nofun
    · next hclosed => exact hclosed

end ShareHistory
end Api
end Ldktela
