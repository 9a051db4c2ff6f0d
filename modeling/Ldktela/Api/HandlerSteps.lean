import Ldktela.Api.InFlight

/-!
# The handlers, one write at a time

A handler of the webhook as the calls it makes, in their order, so that the calls of
other handlers can come between any two of them.  `Api.InFlight` keeps the write of the
presence and the publishes apart; here every table is written by a step of its own.
`observe_room` is one call here; `Announcements.Job` takes it apart too.

`on_leave` starts by reading its recipients and does not look at the row.  Every other
handler starts by its write of the presence, and what it has still to do depends on what
that write found.

`complete_received` says that the steps taken without interruption are the handler.
-/

namespace Ldktela
namespace Api
namespace Rooms

open Protocol
open Db

/-- One call of a handler. -/
inductive Op where
  | leave (userId : Uuid)
  | openSession (channel : Snowflake) (userId : Uuid)
  | close (channel : Snowflake) (userId : Uuid)
  | releasePublisher (channel : Snowflake) (userId : Uuid)
  | releasePublication (channel : Snowflake) (userId : Uuid) (source : PublicationSource)
  | forgetRoom (channel : Snowflake)
  | observe (channel : Snowflake)
  /-- The announcement of a room that is gone. -/
  | announceEmpty (channel : Snowflake)
  | publish (channel : Snowflake) (recipients : Recipients) (event : DispatchEvent)
deriving DecidableEq

def Op.perform (now : Timestamp) (st : ServerState) : Op → ServerState
  | leave userId => { st with presence := (Presence.leave userId st.presence).1 }
  | openSession channel userId =>
      { st with sessions := ShareSessions.openSession now channel userId st.sessions }
  | close channel userId =>
      { st with sessions := ShareSessions.close now channel userId st.sessions }
  | releasePublisher channel userId =>
      { st with grants := Grants.releasePublisher channel userId st.grants }
  | releasePublication channel userId source =>
      { st with grants := Grants.releasePublication channel userId source st.grants }
  | forgetRoom channel => { st with grants := Grants.forgetRoom channel st.grants }
  | observe channel => observeRoom channel st
  | announceEmpty channel => { st with announced := st.announced ++ [⟨channel, [], 0⟩] }
  | publish channel .room event => publishToRoom channel event st
  | publish _ (.users recipients) event => publishToUsers recipients event st

/-- What `on_leave` does after it has read its recipients. -/
def Leaving.ops (l : Leaving) : List Op :=
  [.leave l.userId, .close l.channel l.userId, .releasePublisher l.channel l.userId,
    .observe l.channel,
    .publish l.channel (.users l.recipients) (.roomParticipantRemove ⟨l.channel, l.userId⟩)]

/-- What a handler that has written the presence does before it publishes.  `presence` is
the table before the write. -/
def settle (presence : Presence) : Action → List Op
  | .joined channel _ => [.observe channel]
  | .left channel userId | .publisherGone channel userId =>
      [.close channel userId, .releasePublisher channel userId, .observe channel]
  | .shareStarted channel userId _ => [.openSession channel userId, .observe channel]
  | .shareStopped channel userId source =>
      match (Presence.stopPublication userId source presence).2 with
      | none => []
      | some stopped =>
          (if stopped.stillPublishing then [] else [.close channel userId]) ++
            [.releasePublication channel userId source, .observe channel]
  | .finished channel => [.forgetRoom channel, .announceEmpty channel]

def Handler.publishes (h : Handler) : List Op :=
  h.events.map fun event => .publish h.channel h.recipients event

/-- A handler in flight. -/
inductive Task where
  /-- The event has come in, and nothing has been done yet. -/
  | received (action : Action)
  | rest (todo : List Op)
deriving DecidableEq

namespace Task

/-- The first call of a handler, and the ones that follow it. -/
def start (now : Timestamp) (st : ServerState) : Action → ServerState × List Op
  | .left channel userId => (st, (readLeaving st.users channel userId st.presence).ops)
  | .finished channel =>
      ({ st with presence := Presence.clearChannel channel st.presence },
        settle st.presence (.finished channel))
  | action =>
      let written := write st.users now st.presence action
      ({ st with presence := written.1 },
        match written.2 with
        | none => []
        | some h => settle st.presence action ++ h.publishes)

/-- One call of a handler; `none` when it has returned. -/
def advance (now : Timestamp) (st : ServerState) : Task → ServerState × Option Task
  | received action =>
      let started := start now st action
      (started.1, some (.rest started.2))
  | rest [] => (st, none)
  | rest (op :: todo) => (op.perform now st, some (.rest todo))

/-- All of it without interruption. -/
def complete (now : Timestamp) (st : ServerState) : Task → ServerState
  | received action =>
      let started := start now st action
      started.2.foldl (Op.perform now) started.1
  | rest todo => todo.foldl (Op.perform now) st

/-- The calls lead to where the uninterrupted handler ends. -/
theorem complete_advance (now : Timestamp) (st : ServerState) (task : Task) :
    (match (task.advance now st).2 with
      | none => (task.advance now st).1
      | some next => next.complete now (task.advance now st).1) = task.complete now st := by
  cases task with
  | received action => rfl
  | rest todo => cases todo with
      | nil => rfl
      | cons op todo => rfl

/-- The calls of one handler, taken without interruption, are the handler. -/
theorem complete_received (now : Timestamp) (st : ServerState) (action : Action) :
    (received action).complete now st = perform now st action := by
  cases action with
  | joined channel userId =>
      cases huser : st.users.lookup userId with
      | none => simp [complete, start, write, perform, onJoin, huser]
      | some profile =>
          simp [complete, start, write, settle, Handler.publishes, Op.perform, perform, onJoin,
            huser]
  | left channel userId => rfl
  | publisherGone channel userId =>
      cases hrow : st.presence.lookup userId with
      | none =>
          simp [complete, start, write, perform, onPublisherGone, Presence.clearPublications,
            hrow]
      | some row =>
          simp [complete, start, write, settle, Handler.publishes, Op.perform, perform,
            onPublisherGone, Presence.clearPublications, hrow, List.foldl_map]
  | shareStarted channel userId source =>
      cases hrow : st.presence.lookup userId with
      | none =>
          simp [complete, start, write, perform, onShareStart, Presence.startPublication, hrow]
      | some row =>
          simp [complete, start, write, settle, Handler.publishes, Op.perform, perform,
            onShareStart, Presence.startPublication, hrow]
  | shareStopped channel userId source =>
      cases hrow : st.presence.lookup userId with
      | none =>
          simp [complete, start, write, perform, onShareStop, Presence.stopPublication, hrow]
      | some row =>
          cases hstill : (row.since (other source)).isSome with
          | true =>
              simp [complete, start, write, settle, Handler.publishes, Op.perform, perform,
                onShareStop, Presence.stopPublication, hrow, hstill]
          | false =>
              simp [complete, start, write, settle, Handler.publishes, Op.perform, perform,
                onShareStop, Presence.stopPublication, hrow, hstill]
  | finished channel => rfl

end Task

/-! ## What a call does to one person -/

/-- Nothing new about the person `u`: no row where there was none, and no session or slot
that was not there. -/
structure NothingNew (u : Uuid) (st st' : ServerState) : Prop where
  users : st'.users = st.users
  row : st.presence.lookup u = none → st'.presence.lookup u = none
  openFor : ∀ c, st'.sessions.OpenFor c u → st.sessions.OpenFor c u
  holds : ∀ c source, st'.grants.Holds c u source → st.grants.Holds c u source
  published : st.published <+: st'.published

namespace NothingNew

variable {u : Uuid} {st st' st'' : ServerState}

theorem refl (u : Uuid) (st : ServerState) : NothingNew u st st where
  users := rfl
  row h := h
  openFor _ h := h
  holds _ _ h := h
  published := List.prefix_refl _

theorem trans (h : NothingNew u st st') (h' : NothingNew u st' st'') : NothingNew u st st'' where
  users := h'.users.trans h.users
  row hnone := h'.row (h.row hnone)
  openFor c hopen := h.openFor c (h'.openFor c hopen)
  holds c source hholds := h.holds c source (h'.holds c source hholds)
  published := h.published.trans h'.published

/-- A write of the presence that gives `u` no row. -/
theorem of_presence {presence : Presence}
    (hrow : st.presence.lookup u = none → presence.lookup u = none) :
    NothingNew u st { st with presence := presence } :=
  { refl u st with row := hrow }

theorem publishToUsers (recipients : List Uuid) (event : DispatchEvent) :
    NothingNew u st (publishToUsers recipients event st) :=
  { refl u st with published := List.prefix_append _ _ }

end NothingNew

/-- The handlers that bring something new about `u`: a join, and the start of a
publication. -/
def Action.Admits (u : Uuid) : Action → Prop
  | .joined _ userId => userId = u
  | .shareStarted _ userId _ => userId = u
  | _ => False

def Op.Admits (u : Uuid) : Op → Prop
  | .openSession _ userId => userId = u
  | _ => False

/-- A handler in flight that may bring something new about `u`. -/
def Task.Admits (u : Uuid) : Task → Prop
  | .received action => action.Admits u
  | .rest todo => ∃ op ∈ todo, op.Admits u

section Person

variable {u : Uuid} {now : Timestamp} {st : ServerState}

theorem Op.nothingNew {op : Op} (h : ¬ op.Admits u) : NothingNew u st (op.perform now st) := by
  have hst := NothingNew.refl u st
  cases op with
  | leave userId =>
      apply NothingNew.of_presence
      intro hnone
      rw [Presence.lookup_leave, hnone]
      exact ite_self none
  | openSession channel userId =>
      have hother : ∀ c, (ShareSessions.openSession now channel userId st.sessions).OpenFor c u →
          st.sessions.OpenFor c u := by
        intro c hopen
        cases ShareSessions.openFor_open.mp hopen with
        | inl hsame => exact absurd hsame.2.symm h
        | inr hbefore => exact hbefore
      exact { hst with openFor := hother }
  | close channel userId =>
      exact { hst with openFor := fun c hopen => (ShareSessions.openFor_close.mp hopen).1 }
  | releasePublisher channel userId =>
      exact { hst with
        holds := fun c source hholds => (Grants.holds_releasePublisher.mp hholds).1 }
  | releasePublication channel userId source =>
      exact { hst with
        holds := fun c s hholds => (Grants.holds_releasePublication.mp hholds).1 }
  | forgetRoom channel =>
      exact { hst with holds := fun c s hholds => (Grants.holds_forgetRoom.mp hholds).1 }
  | observe channel =>
      exact { hst with
        openFor := fun c hopen => (ShareSessions.openFor_observeViewers _).mp hopen }
  | announceEmpty channel => exact { hst with }
  | publish channel recipients event => cases recipients with
      | room => exact NothingNew.publishToUsers _ event
      | users recipients => exact NothingNew.publishToUsers recipients event

theorem Task.nothingNew_start {action : Action} (h : ¬ action.Admits u) :
    NothingNew u st (Task.start now st action).1 := by
  -- a row that is written was there, but for a join, which is of somebody else
  cases action with
  | joined channel userId =>
      have hother : u ≠ userId := fun heq => h heq.symm
      apply NothingNew.of_presence
      intro hnone
      simp only [write]
      split
      · exact hnone
      · rw [Presence.lookup_join, if_neg hother]
        exact hnone
  | left channel userId => exact NothingNew.refl u st
  | publisherGone channel userId =>
      apply NothingNew.of_presence
      intro hnone
      have hcleared : (Presence.clearPublications userId st.presence).1.lookup u = none := by
        rw [Presence.lookup_clearPublications, hnone, Option.map_none, ite_self]
      simp only [write]
      split
      · exact hnone
      · next heq => rwa [heq] at hcleared
  | shareStarted channel userId source =>
      apply NothingNew.of_presence
      intro hnone
      have hstarted :
          (Presence.startPublication now userId source st.presence).1.lookup u = none := by
        rw [Presence.lookup_startPublication, hnone, Option.map_none, ite_self]
      simp only [write]
      split
      · exact hnone
      · next heq => rwa [heq] at hstarted
  | shareStopped channel userId source =>
      apply NothingNew.of_presence
      intro hnone
      have hstopped : (Presence.stopPublication userId source st.presence).1.lookup u = none := by
        rw [Presence.lookup_stopPublication, hnone, Option.map_none, ite_self]
      simp only [write]
      split
      · exact hnone
      · next heq => rwa [heq] at hstopped
  | finished channel =>
      apply NothingNew.of_presence
      intro hnone
      rw [Presence.lookup_clearChannel, hnone, Option.filter_none]

/-- Of the handlers only `on_share_start` opens a session. -/
theorem admits_of_settle {presence : Presence} {action : Action} {op : Op}
    (hop : op ∈ settle presence action) (hadmits : op.Admits u) : action.Admits u := by
  cases action with
  | joined channel userId =>
      simp only [settle, List.mem_singleton] at hop
      simp [hop, Op.Admits] at hadmits
  | left channel userId =>
      simp only [settle, List.mem_cons, List.not_mem_nil, or_false] at hop
      obtain rfl | rfl | rfl := hop <;> exact hadmits
  | publisherGone channel userId =>
      simp only [settle, List.mem_cons, List.not_mem_nil, or_false] at hop
      obtain rfl | rfl | rfl := hop <;> exact hadmits
  | shareStarted channel userId source =>
      simp only [settle, List.mem_cons, List.not_mem_nil, or_false] at hop
      obtain rfl | rfl := hop
      · exact hadmits
      · simp [Op.Admits] at hadmits
  | shareStopped channel userId source =>
      simp only [settle] at hop
      split at hop
      · cases hop
      · simp only [List.mem_append, List.mem_cons, List.not_mem_nil, or_false] at hop
        obtain hclose | rfl | rfl := hop
        · split at hclose
          · cases hclose
          · rw [List.mem_singleton.mp hclose] at hadmits
            exact hadmits
        · exact hadmits
        · exact hadmits
  | finished channel =>
      simp only [settle, List.mem_cons, List.not_mem_nil, or_false] at hop
      obtain rfl | rfl := hop <;> exact hadmits

theorem Handler.not_admits_publishes {h : Handler} {op : Op} (hop : op ∈ h.publishes) :
    ¬ op.Admits u := by
  obtain ⟨event, -, rfl⟩ := List.mem_map.mp hop
  exact id

theorem Leaving.not_admits_ops {l : Leaving} {op : Op} (hop : op ∈ l.ops) : ¬ op.Admits u := by
  simp only [ops, List.mem_cons, List.not_mem_nil, or_false] at hop
  obtain rfl | rfl | rfl | rfl | rfl := hop <;> exact id

theorem Task.not_admits_start {action : Action} (h : ¬ action.Admits u) {op : Op}
    (hop : op ∈ (Task.start now st action).2) : ¬ op.Admits u := by
  unfold start at hop
  split at hop
  · exact Leaving.not_admits_ops hop
  · next channel =>
      have hsettle : op ∈ settle st.presence (.finished channel) := hop
      exact fun hadmits => h (admits_of_settle hsettle hadmits)
  · dsimp only at hop
    split at hop
    · cases hop
    · cases List.mem_append.mp hop with
      | inl hsettle => exact fun hadmits => h (admits_of_settle hsettle hadmits)
      | inr hpublishes => exact Handler.not_admits_publishes hpublishes

/-- A handler that brings nothing new about `u` does not at any of its calls. -/
theorem Task.nothingNew_advance (now : Timestamp) (st : ServerState) {task : Task}
    (h : ¬ task.Admits u) :
    NothingNew u st (task.advance now st).1 ∧
      ∀ next, (task.advance now st).2 = some next → ¬ next.Admits u := by
  cases task with
  | received action =>
      constructor
      · exact Task.nothingNew_start h
      · rintro next ⟨⟩ ⟨op, hop, hadmits⟩
        exact Task.not_admits_start h hop hadmits
  | rest todo =>
      cases todo with
      | nil =>
          constructor
          · exact NothingNew.refl u st
          · rintro next ⟨⟩
      | cons op todo =>
          constructor
          · exact Op.nothingNew fun hadmits => h ⟨op, List.mem_cons_self, hadmits⟩
          · rintro next ⟨⟩ ⟨op', hop, hadmits⟩
            exact h ⟨op', List.mem_cons_of_mem op hop, hadmits⟩

/-- A handler in flight that has a call `p` of the `on_leave` of `u` before it. -/
def Task.Owes (c : Snowflake) (u : Uuid) (p : Op → Prop) : Task → Prop
  | .received action => action = .left c u
  | .rest todo => ∃ op ∈ todo, p op

/-- The next call is the one that was owed, or it is owed still. -/
theorem Task.owes_advance (now : Timestamp) (st : ServerState) {c : Snowflake} {p : Op → Prop}
    {task : Task} (h : task.Owes c u p)
    (hread : ∃ op ∈ (readLeaving st.users c u st.presence).ops, p op) :
    (∃ op, p op ∧ (task.advance now st).1 = op.perform now st) ∨
      ∃ next, (task.advance now st).2 = some next ∧ next.Owes c u p := by
  cases task with
  | received action =>
      have hleft : action = .left c u := h
      right
      rw [hleft]
      exact ⟨_, rfl, hread⟩
  | rest todo =>
      obtain ⟨op, hop, hp⟩ := h
      cases hop with
      | head => exact .inl ⟨op, hp, rfl⟩
      | tail _ hop => exact .inr ⟨_, rfl, op, hop, hp⟩

end Person

end Rooms
end Api
end Ldktela
