import Ldktela.Api.HandlerSteps
import Ldktela.Lib.Broadcast
import Ldktela.Lib.Runs

/-!
# Announcements of one room

The webhook handlers of `crates/api/src/routes/rooms.rs` for one channel, any number of
them in flight, with `observe_room` in its parts: it lists the room, then awaits
`observe_viewers`, and only then announces what it has listed.

The last announcement of a room describes it, once nothing is in flight, if handlers
announce no listing that another write has overtaken (`described_of_timely`).  Nothing in
the handlers keeps them from it, and an announcement of such a listing stays uncorrected
until another event comes in (`undescribed_of_untold`).
-/

namespace Ldktela
namespace Api
namespace Announcements

open Protocol
open Db
open Rooms
open Broadcast
open Runs

/-- The channel of the handler. -/
def actionChannel : Action → Snowflake
  | .joined channel _ => channel
  | .left channel _ => channel
  | .publisherGone channel _ => channel
  | .shareStarted channel _ _ => channel
  | .shareStopped channel _ _ => channel
  | .finished channel => channel

/-- What `observe_room` announces after it has listed the room. -/
def snapshot (channel : Snowflake) (st : ServerState) : RoomBroadcast :=
  let rows := participants channel st
  { discordChannelId := channel
    publishers := (rows.filter fun p => p.row.publishing).map fun p => p.profile.discordUserId
    viewers := (rows.filter fun p => !p.row.publishing).length }

/-- The statement between the listing and its announcement. -/
def observeViewers (b : RoomBroadcast) (st : ServerState) : ServerState :=
  { st with sessions := ShareSessions.observeViewers b.discordChannelId b.viewers st.sessions }

def announce (b : RoomBroadcast) (st : ServerState) : ServerState :=
  { st with announced := st.announced ++ [b] }

/-- The three parts without interruption. -/
theorem observeRoom_eq (channel : Snowflake) (st : ServerState) :
    observeRoom channel st =
      announce (snapshot channel st) (observeViewers (snapshot channel st) st) := rfl

/-- A handler in flight. -/
inductive Job where
  | task (task : Task)
  /-- It has listed the room and is about to write how many watch. -/
  | observing (b : RoomBroadcast) (todo : List Op)
  /-- It has written it and is about to announce what it has listed. -/
  | announcing (b : RoomBroadcast) (todo : List Op)

/-- One call of a handler; `none` when it has returned. -/
def Job.advance (now : Timestamp) (st : ServerState) : Job → ServerState × Option Job
  | .task (.rest (.observe channel :: todo)) =>
      (st, some (.observing (snapshot channel st) todo))
  | .task t => ((t.advance now st).1, (t.advance now st).2.map .task)
  | .observing b todo => (observeViewers b st, some (.announcing b todo))
  | .announcing b todo => (announce b st, some (.task (.rest todo)))

/-- What the next call of a handler announces. -/
def Job.told : Job → Option RoomBroadcast
  | .announcing b _ => some b
  | .task (.rest (.announceEmpty channel :: _)) => some ⟨channel, [], 0⟩
  | _ => none

structure World where
  st : ServerState
  running : Table Nat Job

inductive Act where
  /-- An event comes in. -/
  | receive (id : Nat) (action : Action)
  /-- The next call of a handler. -/
  | advance (now : Timestamp) (id : Nat)

/-- The announcement lists exactly the people of the room whose row is publishing, and
counts the other ones. -/
structure Describes (channel : Snowflake) (st : ServerState) (b : RoomBroadcast) : Prop where
  publishers : ∀ discordUserId, discordUserId ∈ b.publishers ↔
    ∃ p ∈ participants channel st, p.row.publishing = true ∧
      p.profile.discordUserId = discordUserId
  viewers : b.viewers = ((participants channel st).filter fun p => !p.row.publishing).length

instance (channel : Snowflake) (st : ServerState) (b : RoomBroadcast) :
    Decidable (Describes channel st b) :=
  -- the list is walked, whatever is known of the type of its members
  haveI : Decidable (∀ discordUserId ∈ b.publishers, ∃ p ∈ participants channel st,
      p.row.publishing = true ∧ p.profile.discordUserId = discordUserId) :=
    List.decidableBAll _ _
  decidable_of_iff
    ((∀ discordUserId ∈ b.publishers, ∃ p ∈ participants channel st, p.row.publishing = true ∧
        p.profile.discordUserId = discordUserId) ∧
      (∀ p ∈ participants channel st, p.row.publishing = true →
        p.profile.discordUserId ∈ b.publishers) ∧
      b.viewers = ((participants channel st).filter fun p => !p.row.publishing).length) (by
    constructor
    · rintro ⟨hlisted, hall, hviewers⟩
      refine ⟨fun discordUserId => ⟨hlisted discordUserId, ?_⟩, hviewers⟩
      rintro ⟨p, hp, hpublishing, rfl⟩
      exact hall p hp hpublishing
    · rintro ⟨hpublishers, hviewers⟩
      exact ⟨fun discordUserId hmem => (hpublishers discordUserId).mp hmem,
        fun p hp hpublishing => (hpublishers _).mpr ⟨p, hp, hpublishing, rfl⟩, hviewers⟩)

/-- The handler is still to list the room, or is about to announce a description of it. -/
def Job.Owes (channel : Snowflake) (st : ServerState) : Job → Prop
  | .task (.received _) => False
  | .task (.rest todo) =>
      .observe channel ∈ todo ∨
        .announceEmpty channel ∈ todo ∧ Describes channel st ⟨channel, [], 0⟩
  | .observing b todo | .announcing b todo =>
      b.discordChannelId = channel ∧ Describes channel st b ∨
        .observe channel ∈ todo ∨
        .announceEmpty channel ∈ todo ∧ Describes channel st ⟨channel, [], 0⟩

instance (channel : Snowflake) (st : ServerState) : ∀ job, Decidable (Job.Owes channel st job)
  | .task (.received _) => .isFalse id
  | .task (.rest todo) => inferInstanceAs (Decidable (.observe channel ∈ todo ∨
      .announceEmpty channel ∈ todo ∧ Describes channel st ⟨channel, [], 0⟩))
  | .observing b todo | .announcing b todo =>
      inferInstanceAs (Decidable (b.discordChannelId = channel ∧ Describes channel st b ∨
        .observe channel ∈ todo ∨
        .announceEmpty channel ∈ todo ∧ Describes channel st ⟨channel, [], 0⟩))

namespace World

variable (channel : Snowflake)

/-- Only the handlers of the channel. -/
def step (w : World) : Act → World
  | .receive id action =>
      if id ∈ w.running ∨ actionChannel action ≠ channel then
        w
      else
        { w with running := w.running.insert id (.task (.received action)) }
  | .advance now id =>
      match w.running.lookup id with
      | none => w
      | some job =>
          { st := (job.advance now w.st).1
            running :=
              match (job.advance now w.st).2 with
              | none => w.running.erase id
              | some next => w.running.insert id next }

/-- Nothing is in flight, and nothing has been announced so far. -/
def start (st : ServerState) : World := ⟨{ st with announced := [] }, ∅⟩

/-- The last announcement of the room. -/
def last (w : World) : Option RoomBroadcast :=
  newestOf RoomBroadcast.discordChannelId channel w.st.announced

/-- Once no handler is running, the last announcement describes the room. -/
def Described (w : World) : Prop :=
  w.running = ∅ → ∀ b, w.last channel = some b → Describes channel w.st b

/-- What is announced describes the room as it is, or some handler other than `id` is still
to announce something that does. -/
def Made (w : World) (id : Nat) (b : RoomBroadcast) : Prop :=
  b.discordChannelId = channel → ¬ Describes channel w.st b →
    ∃ other ∈ w.running.entries, other.1 ≠ id ∧ other.2.Owes channel w.st

/-- No handler announces a listing that a write has overtaken, unless there is another
announcement to come. -/
def Timely (w : World) : Act → Prop
  | .receive _ _ => True
  | .advance _ id => ∀ b ∈ (w.running.lookup id).bind Job.told, w.Made channel id b

instance (w : World) : ∀ act, Decidable (w.Timely channel act)
  | .receive _ _ => .isTrue trivial
  | .advance _ id => inferInstanceAs (Decidable (∀ b ∈ (w.running.lookup id).bind Job.told,
      b.discordChannelId = channel → ¬ Describes channel w.st b →
        ∃ other ∈ w.running.entries, other.1 ≠ id ∧ other.2.Owes channel w.st))

end World

/-! ## One call -/

section Calls

variable {channel : Snowflake} {st st' : ServerState}

theorem describes_snapshot (channel : Snowflake) (st : ServerState) :
    Describes channel st (snapshot channel st) where
  publishers discordUserId := by
    rw [snapshot]
    simp only [List.mem_map, List.mem_filter, and_assoc]
  viewers := rfl

theorem describes_empty (h : participants channel st = []) :
    Describes channel st ⟨channel, [], 0⟩ where
  publishers discordUserId := by simp [h]
  viewers := by simp [h]

theorem Describes.congr {b : RoomBroadcast}
    (hrows : participants channel st' = participants channel st) (h : Describes channel st b) :
    Describes channel st' b where
  publishers discordUserId := by
    rw [hrows]
    exact h.publishers discordUserId
  viewers := by
    rw [hrows]
    exact h.viewers

theorem Job.Owes.congr {job : Job} (hrows : participants channel st' = participants channel st)
    (h : job.Owes channel st) : job.Owes channel st' := by
  match job, h with
  | .task (.rest _), h => exact h.imp_right fun h => ⟨h.1, h.2.congr hrows⟩
  | .observing _ _, h | .announcing _ _, h =>
      exact h.imp (fun h => ⟨h.1, h.2.congr hrows⟩)
        (Or.imp_right fun h => ⟨h.1, h.2.congr hrows⟩)

/-- Whoever takes a row away lists the room afterwards. -/
def ListsAfterLeave (channel : Snowflake) (todo : List Op) : Prop :=
  ∀ userId rest, (.leave userId :: rest) <:+ todo → Op.observe channel ∈ rest

theorem ListsAfterLeave.tail {op : Op} {todo : List Op}
    (h : ListsAfterLeave channel (op :: todo)) : ListsAfterLeave channel todo :=
  fun userId rest hrest => h userId rest (hrest.trans (List.suffix_cons op todo))

theorem listsAfterLeave_of_forall {todo : List Op} (h : ∀ userId, .leave userId ∉ todo) :
    ListsAfterLeave channel todo :=
  fun userId _ hrest => absurd (hrest.mem List.mem_cons_self) (h userId)

/-- The handler is one of the channel, and lists the room after it takes a row away. -/
def Job.WellFormed (channel : Snowflake) : Job → Prop
  | .task (.received action) => actionChannel action = channel
  | .task (.rest todo) => ListsAfterLeave channel todo
  | .observing _ todo | .announcing _ todo => ListsAfterLeave channel todo

/-- The handlers whose first call writes the presence and that list the room then. -/
def Writes : Action → Prop
  | .left _ _ => False
  | .finished _ => False
  | _ => True

/-- A handler that has written lists the room, and one that has not written has returned. -/
theorem write_cases (users : Users) (now : Timestamp) (presence : Presence) {action : Action}
    (haction : Writes action) :
    (write users now presence action).2 = none ∧
        (write users now presence action).1 = presence ∨
      (write users now presence action).2.isSome ∧
        Op.observe (actionChannel action) ∈ settle presence action := by
  cases action with
  | joined c u =>
      cases huser : users.lookup u with
      | none => exact .inl (by simp [write, huser])
      | some profile => exact .inr (by simp [write, huser, settle, actionChannel])
  | left c u => exact haction.elim
  | publisherGone c u =>
      cases hrow : presence.lookup u with
      | none => exact .inl (by simp [write, Presence.clearPublications, hrow])
      | some row =>
          exact .inr (by simp [write, Presence.clearPublications, hrow, settle, actionChannel])
  | shareStarted c u source =>
      cases hrow : presence.lookup u with
      | none => exact .inl (by simp [write, Presence.startPublication, hrow])
      | some row =>
          exact .inr (by simp [write, Presence.startPublication, hrow, settle, actionChannel])
  | shareStopped c u source =>
      cases hrow : presence.lookup u with
      | none => exact .inl (by simp [write, Presence.stopPublication, hrow])
      | some row =>
          exact .inr (by simp [write, Presence.stopPublication, hrow, settle, actionChannel])
  | finished c => exact haction.elim

theorem leave_not_mem_settle (presence : Presence) (action : Action) (userId : Uuid) :
    Op.leave userId ∉ settle presence action := by
  cases action with
  | joined c u => simp [settle]
  | left c u => simp [settle]
  | publisherGone c u => simp [settle]
  | shareStarted c u source => simp [settle]
  | shareStopped c u source =>
      unfold settle
      dsimp only
      split
      · simp
      · split
        · simp
        · simp
  | finished c => simp [settle]

theorem leave_not_mem_publishes (h : Rooms.Handler) (userId : Uuid) :
    Op.leave userId ∉ h.publishes := by
  simp [Handler.publishes]

theorem participants_clearChannel (channel : Snowflake) (st : ServerState) :
    participants channel { st with presence := Presence.clearChannel channel st.presence } =
      [] := by
  rw [List.eq_nil_iff_forall_not_mem]
  intro p hp
  obtain ⟨hrow, hchannel, -⟩ := Presence.mem_listByChannel.mp hp
  rw [Presence.lookup_clearChannel, Option.filter_eq_some_iff] at hrow
  simpa [hchannel] using hrow.2

/-- What the first call of a handler of the channel leaves behind. -/
theorem start_cases (now : Timestamp) (st : ServerState) {action : Action}
    (hchannel : actionChannel action = channel) :
    (Task.start now st action).1.announced = st.announced ∧
      ListsAfterLeave channel (Task.start now st action).2 ∧
      (participants channel (Task.start now st action).1 = participants channel st ∨
        Job.Owes channel (Task.start now st action).1
          (.task (.rest (Task.start now st action).2))) := by
  subst hchannel
  have hwrites : Writes action → Task.start now st action =
      ({ st with presence := (write st.users now st.presence action).1 },
        (write st.users now st.presence action).2.elim []
          fun h => settle st.presence action ++ h.publishes) := by
    intro haction
    cases action with
    | left c u => exact haction.elim
    | finished c => exact haction.elim
    | _ =>
        unfold Task.start
        dsimp only
        cases (write st.users now st.presence _).2 with
        | none => rfl
        | some h => rfl
  -- all handlers but `left` and `finished` go through one write
  by_cases haction : Writes action
  · rw [hwrites haction]
    obtain ⟨hnone, hsame⟩ | ⟨hsome, hlists⟩ := write_cases st.users now st.presence haction
    · rw [hnone, hsame]
      exact ⟨rfl, listsAfterLeave_of_forall fun _ => List.not_mem_nil, .inl rfl⟩
    · obtain ⟨h, hh⟩ := Option.isSome_iff_exists.mp hsome
      rw [hh]
      refine ⟨rfl, listsAfterLeave_of_forall fun userId hmem => ?_, .inr (.inl ?_)⟩
      · rcases List.mem_append.mp hmem with hsettle | hpublish
        · exact leave_not_mem_settle st.presence action userId hsettle
        · exact leave_not_mem_publishes h userId hpublish
      · exact List.mem_append_left _ hlists
  · cases action with
    | left c u =>
        refine ⟨rfl, fun userId rest hrest => ?_, .inl rfl⟩
        -- the only leave is the first call, and the room is listed behind it
        rcases List.suffix_cons_iff.mp hrest with hall | htail
        · rw [(List.cons.inj hall).2]
          simp [actionChannel, readLeaving]
        · exact absurd (htail.mem List.mem_cons_self) (by simp)
    | finished c =>
        refine ⟨rfl, listsAfterLeave_of_forall (leave_not_mem_settle st.presence (.finished c)),
          .inr (.inr ⟨?_, describes_empty ?_⟩)⟩
        · exact List.mem_cons_of_mem _ List.mem_cons_self
        · exact participants_clearChannel c st
    | _ => exact absurd trivial haction

/-- The handler has made its first call. -/
def Job.Started : Job → Prop
  | .task (.received _) => False
  | _ => True

/-- What one call of a handler does, and what the handler is then still to do: it leaves
the room alone, or writes it and is to announce it, or announces. -/
def Advances (channel : Snowflake) (now : Timestamp) (st : ServerState) (job : Job) : Prop :=
  (∀ next ∈ (job.advance now st).2, next.WellFormed channel ∧ next.Started) ∧
    ((job.told = none ∧ (job.advance now st).1.announced = st.announced ∧
        participants channel (job.advance now st).1 = participants channel st ∧
        (job.Owes channel st → ∃ next ∈ (job.advance now st).2, next.Owes channel st) ∧
        (job.Started → ∀ next ∈ (job.advance now st).2, next.Owes channel st →
          job.Owes channel st)) ∨
      (job.told = none ∧ (job.advance now st).1.announced = st.announced ∧
        (∃ next ∈ (job.advance now st).2, next.Owes channel (job.advance now st).1) ∧
        (job.Started → job.Owes channel st)) ∨
      ∃ b todo, job.told = some b ∧
        job.advance now st = (announce b st, some (.task (.rest todo))) ∧
        (job.Owes channel st ↔ Job.Owes channel st (.task (.rest todo)) ∨
          b.discordChannelId = channel ∧ Describes channel st b))

/-- A call that neither touches the presence nor announces. -/
theorem advances_other {now : Timestamp} {op : Op} {todo : List Op}
    (hjob : ListsAfterLeave channel (op :: todo))
    (htold : (Job.task (.rest (op :: todo))).told = none)
    (hobserve : Op.observe channel ≠ op) (hempty : Op.announceEmpty channel ≠ op)
    (hadvance : Job.advance now st (.task (.rest (op :: todo))) =
      (op.perform now st, some (.task (.rest todo))))
    (hannounced : (op.perform now st).announced = st.announced)
    (hrows : participants channel (op.perform now st) = participants channel st) :
    Advances channel now st (.task (.rest (op :: todo))) := by
  unfold Advances
  rw [hadvance]
  have howes : Job.Owes channel st (.task (.rest (op :: todo))) ↔
      Job.Owes channel st (.task (.rest todo)) := by
    simp [Job.Owes, hobserve, hempty]
  refine ⟨?_, .inl ⟨htold, hannounced, hrows, fun h => ⟨_, rfl, howes.mp h⟩, ?_⟩⟩
  · rintro next ⟨⟩
    exact ⟨hjob.tail, trivial⟩
  · rintro - next ⟨⟩
    exact howes.mpr

theorem advances (now : Timestamp) (st : ServerState) {job : Job}
    (hjob : job.WellFormed channel) : Advances channel now st job := by
  match job, hjob with
  -- the statement is about the sessions alone
  | .observing b todo, hjob =>
      refine ⟨?_, .inl ⟨rfl, rfl, rfl, fun h => ⟨_, rfl, h⟩, ?_⟩⟩
      · rintro next ⟨⟩
        exact ⟨hjob, trivial⟩
      · rintro - next ⟨⟩
        exact id
  | .announcing b todo, hjob =>
      refine ⟨?_, .inr (.inr ⟨b, todo, rfl, rfl, Or.comm⟩)⟩
      rintro next ⟨⟩
      exact ⟨hjob, trivial⟩
  | .task (.received action), hjob =>
      obtain ⟨hannounced, hlists, hrows | howes⟩ := start_cases now st hjob
      · refine ⟨?_, .inl ⟨rfl, hannounced, hrows, False.elim, False.elim⟩⟩
        rintro next ⟨⟩
        exact ⟨hlists, trivial⟩
      · refine ⟨?_, .inr (.inl ⟨rfl, hannounced, ⟨_, rfl, howes⟩, False.elim⟩)⟩
        rintro next ⟨⟩
        exact ⟨hlists, trivial⟩
  | .task (.rest []), hjob =>
      refine ⟨fun next hnext => (by cases hnext), .inl ⟨rfl, rfl, rfl, ?_, ?_⟩⟩
      · rintro (h | ⟨h, -⟩)
        · cases h
        · cases h
      · rintro - next ⟨⟩
  | .task (.rest (op :: todo)), hjob =>
      cases op with
      -- the row goes, and the announcement of it is still among the calls to come
      | leave u =>
          have hlists : Op.observe channel ∈ todo := hjob u todo (List.suffix_refl _)
          refine ⟨?_, .inr (.inl ⟨rfl, rfl, ⟨_, rfl, .inl hlists⟩, fun _ => ?_⟩)⟩
          · rintro next ⟨⟩
            exact ⟨hjob.tail, trivial⟩
          · exact .inl (List.mem_cons_of_mem _ hlists)
      -- from here on the announcement owed is the snapshot that was just taken
      | observe c =>
          have howes : Job.Owes channel st (.task (.rest (.observe c :: todo))) ↔
              Job.Owes channel st (.observing (snapshot c st) todo) := by
            by_cases hc : c = channel
            · subst hc
              exact ⟨fun _ => .inl ⟨rfl, describes_snapshot c st⟩,
                fun _ => .inl List.mem_cons_self⟩
            · simp [Job.Owes, snapshot, hc, Ne.symm hc]
          refine ⟨?_, .inl ⟨rfl, rfl, rfl, fun h => ⟨_, rfl, howes.mp h⟩, ?_⟩⟩
          · rintro next ⟨⟩
            exact ⟨hjob.tail, trivial⟩
          · rintro - next ⟨⟩
            exact howes.mpr
      | announceEmpty c =>
          refine ⟨?_, .inr (.inr ⟨⟨c, [], 0⟩, todo, rfl, rfl, ?_⟩)⟩
          · rintro next ⟨⟩
            exact ⟨hjob.tail, trivial⟩
          · by_cases hc : c = channel
            · subst hc
              simp only [Job.Owes, List.mem_cons, reduceCtorEq, false_or, true_or, true_and]
              tauto
            · simp [Job.Owes, hc, Ne.symm hc]
      | publish c recipients event =>
          cases recipients with
          | room => exact advances_other hjob rfl (by simp) (by simp) rfl rfl rfl
          | users recipients => exact advances_other hjob rfl (by simp) (by simp) rfl rfl rfl
      | openSession c u => exact advances_other hjob rfl (by simp) (by simp) rfl rfl rfl
      | close c u => exact advances_other hjob rfl (by simp) (by simp) rfl rfl rfl
      | releasePublisher c u => exact advances_other hjob rfl (by simp) (by simp) rfl rfl rfl
      | releasePublication c u source =>
          exact advances_other hjob rfl (by simp) (by simp) rfl rfl rfl
      | forgetRoom c => exact advances_other hjob rfl (by simp) (by simp) rfl rfl rfl

end Calls

/-! ## Whole runs -/

namespace World

section Runs

variable {channel : Snowflake} {w : World}

/-- The last announcement describes the room, or another one that does is to come. -/
def Told (channel : Snowflake) (w : World) : Prop :=
  (∀ b, w.last channel = some b → Describes channel w.st b) ∨
    ∃ id job, w.running.lookup id = some job ∧ job.Owes channel w.st

structure Inv (channel : Snowflake) (w : World) : Prop where
  wellFormed : ∀ id job, w.running.lookup id = some job → job.WellFormed channel
  told : w.Told channel

theorem Inv.described (h : Inv channel w) : w.Described channel := by
  intro hnone
  rcases h.told with hlast | ⟨id, job, hjob, -⟩
  · exact hlast
  · rw [hnone] at hjob
    cases hjob

theorem lookup_advance (now : Timestamp) {id : Nat} {job : Job}
    (hjob : w.running.lookup id = some job) (other : Nat) :
    (w.step channel (.advance now id)).running.lookup other =
      if other = id then (job.advance now w.st).2 else w.running.lookup other := by
  simp only [step, hjob]
  cases (job.advance now w.st).2 with
  | none => exact AList.lookup_erase_ite w.running id other
  | some next => exact AList.lookup_insert_ite w.running id other next

theorem st_advance (now : Timestamp) {id : Nat} {job : Job}
    (hjob : w.running.lookup id = some job) :
    (w.step channel (.advance now id)).st = (job.advance now w.st).1 := by
  simp only [step, hjob]

/-- What the others owe they owe as long as the room stays as it is. -/
theorem told_of_rows (htold : w.Told channel) (now : Timestamp) {id : Nat} {job : Job}
    (hjob : w.running.lookup id = some job)
    (hlast : (∀ b, w.last channel = some b → Describes channel w.st b) →
      ∀ b, (w.step channel (.advance now id)).last channel = some b →
        Describes channel (job.advance now w.st).1 b)
    (hrows : participants channel (job.advance now w.st).1 = participants channel w.st)
    (howes : job.Owes channel w.st → (w.step channel (.advance now id)).Told channel) :
    (w.step channel (.advance now id)).Told channel := by
  rcases htold with hdescribes | ⟨other, ojob, hother, howed⟩
  · left
    rw [st_advance now hjob]
    exact hlast hdescribes
  · by_cases hid : other = id
    · subst hid
      obtain rfl := Option.some.inj (hjob.symm.trans hother)
      exact howes howed
    · refine .inr ⟨other, ojob, ?_, ?_⟩
      · rw [lookup_advance now hjob, if_neg hid, hother]
      · rw [st_advance now hjob]
        exact howed.congr hrows

theorem inv_advance (h : Inv channel w) (now : Timestamp) {id : Nat} {job : Job}
    (hjob : w.running.lookup id = some job)
    (hok : ∀ b, job.told = some b → w.Made channel id b) :
    Inv channel (w.step channel (.advance now id)) := by
  obtain ⟨hnext, hcases⟩ := advances now w.st (h.wellFormed id job hjob)
  have hlookup := @lookup_advance channel _ now _ _ hjob
  have hst := @st_advance channel _ now _ _ hjob
  refine ⟨fun other ojob hother => ?_, ?_⟩
  · rw [hlookup] at hother
    split at hother
    · exact (hnext ojob hother).1
    · exact h.wellFormed other ojob hother
  obtain ⟨-, hannounced, hrows, hkeeps, -⟩ | ⟨-, hannounced, ⟨next, hsome, howes⟩, -⟩ |
    ⟨b, todo, htold, hadvance, hkeeps⟩ := hcases
  · refine told_of_rows h.told now hjob (fun hdescribes b hb => ?_) hrows fun howes => ?_
    · rw [last, hst, hannounced] at hb
      exact (hdescribes b hb).congr hrows
    · obtain ⟨next, hsome, hnextOwes⟩ := hkeeps howes
      refine .inr ⟨id, next, ?_, ?_⟩
      · rw [hlookup, if_pos rfl]
        exact hsome
      · rw [hst]
        exact hnextOwes.congr hrows
  · refine .inr ⟨id, next, ?_, ?_⟩
    · rw [hlookup, if_pos rfl]
      exact hsome
    · rw [hst]
      exact howes
  · have hannounced : (job.advance now w.st).1 = announce b w.st := by rw [hadvance]
    have hrows : participants channel (job.advance now w.st).1 = participants channel w.st := by
      rw [hannounced]
      rfl
    have hlast : (w.step channel (.advance now id)).last channel =
        (if b.discordChannelId = channel then some b else none).or (w.last channel) := by
      rw [last, hst, hannounced, announce, newestOf_append, newestOf_singleton]
      rfl
    by_cases hmade : b.discordChannelId = channel ∧ ¬ Describes channel w.st b
    · -- the announcement is outdated, and another one is to come
      obtain ⟨⟨other, ojob⟩, hmem, hne, howes⟩ := hok b htold hmade.1 hmade.2
      refine .inr ⟨other, ojob, ?_, ?_⟩
      · rw [hlookup, if_neg hne]
        exact AList.mem_entries_iff.mp hmem
      · rw [hst]
        exact howes.congr hrows
    · have hdescribed : b.discordChannelId = channel → Describes channel w.st b := by
        intro hb
        by_contra hnot
        exact hmade ⟨hb, hnot⟩
      have hcurrent : b.discordChannelId = channel →
          (w.step channel (.advance now id)).Told channel := by
        intro hb
        left
        intro b' hb'
        rw [hlast, if_pos hb] at hb'
        obtain rfl := Option.some.inj hb'
        rw [hst]
        exact (hdescribed hb).congr hrows
      refine told_of_rows h.told now hjob (fun hdescribes b' hb' => ?_) hrows fun howes => ?_
      · rw [hlast] at hb'
        by_cases hb : b.discordChannelId = channel
        · rw [if_pos hb] at hb'
          obtain rfl := Option.some.inj hb'
          exact (hdescribed hb).congr hrows
        · rw [if_neg hb] at hb'
          exact (hdescribes b' hb').congr hrows
      · rcases hkeeps.mp howes with hrest | ⟨hb, -⟩
        · refine .inr ⟨id, .task (.rest todo), ?_, ?_⟩
          · rw [hlookup, if_pos rfl, hadvance]
          · rw [hst]
            exact hrest.congr hrows
        · exact hcurrent hb

theorem inv_step (h : Inv channel w) {act : Act} (hok : w.Timely channel act) :
    Inv channel (w.step channel act) := by
  cases act with
  | receive id action =>
      unfold step
      dsimp only
      split
      · exact h
      · next hnew =>
          push Not at hnew
          have hfree : w.running.lookup id = none := AList.lookup_eq_none.mpr hnew.1
          refine ⟨fun other job hother => ?_, h.told.imp_right ?_⟩
          · rw [AList.lookup_insert_ite] at hother
            split at hother
            · obtain rfl := Option.some.inj hother
              exact hnew.2
            · exact h.wellFormed other job hother
          · rintro ⟨other, job, hother, howes⟩
            refine ⟨other, job, ?_, howes⟩
            rw [AList.lookup_insert_ite, if_neg, hother]
            rintro rfl
            rw [hfree] at hother
            cases hother
  | advance now id =>
      cases hjob : w.running.lookup id with
      | none =>
          have hstep : w.step channel (.advance now id) = w := by simp only [step, hjob]
          rw [hstep]
          exact h
      | some job =>
          refine inv_advance h now hjob fun b hb => ?_
          have hok : ∀ b ∈ (w.running.lookup id).bind Job.told, w.Made channel id b := hok
          rw [hjob] at hok
          exact hok b hb

/-! ### What an overtaken announcement leads to -/

/-- Every handler has made its first call, the last announcement does not describe the
room, and none that does is to come. -/
structure Untold (channel : Snowflake) (w : World) : Prop where
  wellFormed : ∀ id job, w.running.lookup id = some job → job.WellFormed channel
  started : ∀ id job, w.running.lookup id = some job → job.Started
  untold : ¬ w.Told channel

theorem Untold.not_described (h : Untold channel w) (hnone : w.running = ∅) :
    ¬ w.Described channel :=
  fun hdescribed => h.untold (.inl (hdescribed hnone))

/-- A handler that owes nothing neither writes the room nor announces what it is like. -/
theorem untold_advance (h : Untold channel w) (now : Timestamp) (id : Nat) :
    Untold channel (w.step channel (.advance now id)) := by
  cases hjob : w.running.lookup id with
  | none =>
      have hstep : w.step channel (.advance now id) = w := by simp only [step, hjob]
      rw [hstep]
      exact h
  | some job =>
      obtain ⟨hnext, hcases⟩ := advances now w.st (h.wellFormed id job hjob)
      have hstarted := h.started id job hjob
      have hlookup := @lookup_advance channel _ now _ _ hjob
      have hst := @st_advance channel _ now _ _ hjob
      have hnotOwes : ∀ other ojob, w.running.lookup other = some ojob →
          ¬ ojob.Owes channel w.st :=
        fun other ojob hother howes => h.untold (.inr ⟨other, ojob, hother, howes⟩)
      have hstays : ∀ other ojob,
          (w.step channel (.advance now id)).running.lookup other = some ojob →
          (other = id ∧ ojob ∈ (job.advance now w.st).2) ∨ w.running.lookup other = some ojob := by
        intro other ojob hother
        rw [hlookup] at hother
        split at hother
        · next hid => exact .inl ⟨hid, hother⟩
        · exact .inr hother
      -- a step that leaves the rows and the owed announcements alone leaves the room untold, unless
      -- what it announces last is right
      have huntold : ∀ hrows : participants channel (job.advance now w.st).1 =
            participants channel w.st,
          (∀ next ∈ (job.advance now w.st).2, ¬ next.Owes channel w.st) →
          (∃ b, (w.step channel (.advance now id)).last channel = some b ∧
            ¬ Describes channel w.st b) →
          ¬ (w.step channel (.advance now id)).Told channel := by
        rintro hrows hnextOwes ⟨b, hlast, hnot⟩ (hdescribes | ⟨other, ojob, hother, howes⟩)
        · have hb := hdescribes b hlast
          rw [hst] at hb
          exact hnot (hb.congr hrows.symm)
        · rw [hst] at howes
          rcases hstays other ojob hother with ⟨-, hmem⟩ | hbefore
          · exact hnextOwes ojob hmem (howes.congr hrows.symm)
          · exact hnotOwes other ojob hbefore (howes.congr hrows.symm)
      have hlast : ∃ b, w.last channel = some b ∧ ¬ Describes channel w.st b := by
        by_contra hnone
        push Not at hnone
        exact h.untold (.inl hnone)
      refine ⟨fun other ojob hother => ?_, fun other ojob hother => ?_, ?_⟩
      · rcases hstays other ojob hother with ⟨-, hmem⟩ | hbefore
        · exact (hnext ojob hmem).1
        · exact h.wellFormed other ojob hbefore
      · rcases hstays other ojob hother with ⟨-, hmem⟩ | hbefore
        · exact (hnext ojob hmem).2
        · exact h.started other ojob hbefore
      -- the handler goes on, it writes the room and owes, or it announces
      obtain ⟨-, hannounced, hrows, -, hback⟩ | ⟨-, -, -, howes⟩ |
        ⟨b, todo, -, hadvance, hkeeps⟩ := hcases
      · refine huntold hrows (fun next hmem howes => ?_) ?_
        · exact hnotOwes id job hjob (hback hstarted next hmem howes)
        · rw [last, hst, hannounced]
          exact hlast
      · exact absurd (howes hstarted) (hnotOwes id job hjob)
      · have hannounced : (job.advance now w.st).1 = announce b w.st := by rw [hadvance]
        refine huntold (by rw [hannounced]; rfl) (fun next hmem howes => ?_) ?_
        · rw [hadvance] at hmem
          obtain rfl := Option.some.inj hmem
          exact hnotOwes id job hjob (hkeeps.mpr (.inl howes))
        · rw [last, hst, hannounced, announce, newestOf_append, newestOf_singleton]
          by_cases hb : b.discordChannelId = channel
          · rw [if_pos hb]
            exact ⟨b, rfl, fun hdescribes =>
              hnotOwes id job hjob (hkeeps.mpr (.inr ⟨hb, hdescribes⟩))⟩
          · rw [if_neg hb]
            exact hlast

/-- Unless another event comes in, what the handlers still do leaves the last announcement
as wrong as it is. -/
theorem undescribed_of_untold (h : Untold channel w) (calls : List (Timestamp × Nat))
    (hnone : (run (fun w call => w.step channel (.advance call.1 call.2)) w calls).running = ∅) :
    ¬ (run (fun w call => w.step channel (.advance call.1 call.2)) w calls).Described channel := by
  have huntold : Untold channel
      (run (fun w call => w.step channel (.advance call.1 call.2)) w calls) :=
    run_invariant (I := Untold channel) (fun _ call hw => untold_advance hw call.1 call.2) h calls
  exact huntold.not_described hnone

end Runs

/-- Once no handler is running, the last announcement of the room describes it, along every
run in which no handler announces a listing that a write has overtaken while no other
announcement is to come. -/
theorem described_of_timely (channel : Snowflake) (st : ServerState) (acts : List Act)
    (h : EachStep (step channel) (Timely channel) (start st) acts) :
    Throughout (step channel) (Described channel) (start st) acts := by
  have hstart : Inv channel (start st) :=
    ⟨fun id job hjob => (by cases hjob), .inl fun b hb => (by cases hb)⟩
  have hinv : Throughout (step channel) (Inv channel) (start st) acts :=
    throughout_of_eachStep (fun _ _ hinv hok => inv_step hinv hok) hstart h
  exact hinv.mono fun _ hinv => hinv.described

/-- An empty room that two people may come to. -/
private def emptyRoom : ServerState :=
  .started ⟨2, 4⟩ (((∅ : Users).insert 3 ⟨30, "ana", none, none⟩).insert 4 ⟨40, "bia", none, none⟩)

/-- `on_join` announces what it listed before the share was written, and the share is still
to be announced. -/
theorem described_of_timely_share :
    Throughout (step 5) (Described 5) (start emptyRoom)
      ([Act.receive 0 (.joined 5 3), Act.advance 10 0, Act.advance 10 0,
        Act.receive 1 (.shareStarted 5 3 .screen), Act.advance 11 1] ++
        List.replicate 5 (Act.advance 12 0) ++ List.replicate 7 (Act.advance 13 1)) :=
  described_of_timely 5 emptyRoom _ (by decide +kernel)

/-- `on_join` has listed the room and awaits `observe_viewers` while the share is written,
listed and announced. -/
def shareOvertakesJoin : List Act :=
  [Act.receive 0 (.joined 5 3), Act.advance 10 0, Act.advance 10 0,
    Act.receive 1 (.shareStarted 5 3 .screen)] ++
    List.replicate 7 (Act.advance 11 1) ++ List.replicate 5 (Act.advance 12 0)

/-- The room is announced as one with nobody on the air. -/
theorem overtaken_listing_is_announced_last :
    ¬ ∀ acts : List Act, Throughout (step 5) (Described 5) (start emptyRoom) acts := by
  intro h
  have hdescribed := throughout_iff_initial.mp (h shareOvertakesJoin) shareOvertakesJoin
    (List.prefix_refl _)
  have hnone : (run (step 5) (start emptyRoom) shareOvertakesJoin).running = ∅ :=
    AList.ext (List.eq_nil_of_length_eq_zero (by decide +kernel))
  have hlast : (run (step 5) (start emptyRoom) shareOvertakesJoin).last 5 = some ⟨5, [], 1⟩ := by
    decide +kernel
  have hroom := hdescribed hnone _ hlast
  revert hroom
  decide +kernel

end World

end Announcements
end Api
end Ldktela
