import Ldktela.Api.HandlerSteps
import Ldktela.Bot.Revoke
import Ldktela.Lib.Runs

/-!
# What an eviction leaves behind

`evict` asks the SFU to remove both connections of a person and deletes their row.  The
SFU answers with webhooks, and the handlers run next to the rest of `evict`, to each other
and to everything other people do.

The row may be gone before the first of the handlers looks at it, and most of them then do
nothing.  `on_leave` does not look: the deletion of the row, the end of the session, the
return of the slots and the notice to the room are all among its calls.  So each of the
four is owed by that one handler from the beginning (`Owed`), and no call of anybody brings
any of the first three back (`NothingNew`).
-/

namespace Ldktela
namespace Bot
namespace Eviction

open Protocol
open Db
open Runs
open Api (Grants Identity RoomConfig ServerState)
open Api.Rooms (Action Leaving NothingNew Op Task)

/-- One call of `evict`. -/
inductive EvictStep where
  /-- `remove_participant`: the connection of the core, then the one of the person. -/
  | removePublisher
  | removeViewer
  | leave
  | notify
deriving DecidableEq

/-- An `evict` in flight. -/
structure Evicting where
  discordChannelId : Snowflake
  userId : Uuid
  todo : List EvictStep
deriving DecidableEq

def evict (discordChannelId : Snowflake) (userId : Uuid) : Evicting :=
  ⟨discordChannelId, userId, [.removePublisher, .removeViewer, .leave, .notify]⟩

structure State where
  server : ServerState
  /-- Connections the SFU was asked to remove. -/
  removals : List (Snowflake × Identity)
  handlers : List Task
  evictions : List Evicting

inductive Act where
  /-- The next call of a handler in flight. -/
  | handler (task : Task) (now : Timestamp)
  /-- The next call of an `evict` in flight. -/
  | evict (e : Evicting)
  /-- A webhook about somebody else, or about a room. -/
  | webhook (action : Action)
  /-- Somebody else asks for publish slots. -/
  | claim (discordChannelId : Snowflake) (userId : Uuid) (wanted : List PublicationSource)
  /-- Somebody else is evicted. -/
  | revoke (discordChannelId : Snowflake) (userId : Uuid)

/-- Whom an event is about. -/
def subject : Action → Option Uuid
  | .joined _ userId => some userId
  | .left _ userId => some userId
  | .publisherGone _ userId => some userId
  | .shareStarted _ userId _ => some userId
  | .shareStopped _ userId _ => some userId
  | .finished _ => none

namespace State

def evictStep (e : Evicting) (s : State) : EvictStep → State
  | .removePublisher =>
      { s with removals := s.removals ++ [(e.discordChannelId, ⟨some e.userId, true⟩)] }
  | .removeViewer =>
      { s with removals := s.removals ++ [(e.discordChannelId, ⟨some e.userId, false⟩)] }
  | .leave =>
      { s with server := { s.server with
          presence := (Presence.leave e.userId s.server.presence).1 } }
  | .notify =>
      let event := .roomLeave ⟨e.discordChannelId, .accessRevoked⟩
      { s with server := Api.Rooms.publishToUsers [e.userId] event s.server }

def advance (task : Task) (now : Timestamp) (s : State) : State :=
  if task ∈ s.handlers then
    let moved := task.advance now s.server
    { s with server := moved.1, handlers := s.handlers.erase task ++ moved.2.toList }
  else
    s

def proceed (e : Evicting) (s : State) : State :=
  if e ∈ s.evictions then
    match e.todo with
    | [] => { s with evictions := s.evictions.erase e }
    | first :: todo =>
        { s.evictStep e first with evictions := { e with todo := todo } :: s.evictions.erase e }
  else
    s

/-- `evicted` is the person whose eviction is looked at. -/
def step (evicted : Uuid) (s : State) : Act → State
  | .handler task now => s.advance task now
  | .evict e => s.proceed e
  | .webhook action =>
      if subject action = some evicted then s
      else { s with handlers := s.handlers ++ [.received action] }
  | .claim discordChannelId userId wanted =>
      if userId = evicted then s
      else { s with server := { s.server with
        grants := (Grants.claimPublications s.server.config discordChannelId userId wanted
          s.server.grants).1 } }
  | .revoke discordChannelId userId =>
      if userId = evicted then s
      else { s with evictions := Eviction.evict discordChannelId userId :: s.evictions }

/-- `userId` is about to be evicted: the webhooks of both connections, and of every
publication in `sources`, are on their way. -/
def started (server : ServerState) (discordChannelId : Snowflake) (userId : Uuid)
    (sources : List PublicationSource) : State where
  server := server
  removals := []
  handlers :=
    .received (.left discordChannelId userId) ::
      .received (.publisherGone discordChannelId userId) ::
      sources.map fun source => .received (.shareStopped discordChannelId userId source)
  evictions := [evict discordChannelId userId]

/-- Everything in flight has run. -/
def Done (s : State) : Prop := s.handlers = [] ∧ s.evictions = []

instance (s : State) : Decidable s.Done :=
  inferInstanceAs (Decidable (s.handlers = [] ∧ s.evictions = []))

/-- `v` has a row in the room `c`. -/
def InRoom (c : Snowflake) (v : Uuid) (s : State) : Prop :=
  Presence.channelOf v s.server.presence = some c

instance (c : Snowflake) (v : Uuid) (s : State) : Decidable (InRoom c v s) :=
  inferInstanceAs (Decidable (Presence.channelOf v s.server.presence = some c))

variable {evicted : Uuid} {c : Snowflake} {s : State}

/-- The calls of one `evict`, taken without interruption, are `Revoke.evict`. -/
theorem foldl_evictStep (s : State) (app : AppState) (discordChannelId : Snowflake) (userId : Uuid)
    (hpresence : app.presence = s.server.presence) :
    let after := (evict discordChannelId userId).todo.foldl
      (evictStep (evict discordChannelId userId)) s
    after.server.presence = (Revoke.evict discordChannelId userId app).presence ∧
      after.server.published =
        s.server.published ++ [([userId], .roomLeave ⟨discordChannelId, .accessRevoked⟩)] := by
  constructor
  · rw [Revoke.evict, hpresence]
    rfl
  · rfl

/-! ## What a step can do -/

theorem subject_of_admits {action : Action} (h : action.Admits evicted) :
    subject action = some evicted := by
  cases action with
  | joined channel userId => exact congrArg some h
  | shareStarted channel userId source => exact congrArg some h
  | left channel userId => exact h.elim
  | publisherGone channel userId => exact h.elim
  | shareStopped channel userId source => exact h.elim
  | finished channel => exact h.elim

theorem nothingNew_evictStep (e : Evicting) (first : EvictStep) :
    NothingNew evicted s.server (s.evictStep e first).server := by
  cases first with
  | removePublisher => exact NothingNew.refl _ _
  | removeViewer => exact NothingNew.refl _ _
  | leave =>
      apply NothingNew.of_presence
      intro hnone
      rw [Presence.lookup_leave, hnone, ite_self]
  | notify => exact NothingNew.publishToUsers _ _

theorem handlers_evictStep (e : Evicting) (first : EvictStep) :
    (s.evictStep e first).handlers = s.handlers := by
  cases first <;> rfl

/-- A step is one call of a handler in flight, or brings nothing new about the evicted
person and starts only handlers that do not either. -/
theorem step_cases (s : State) (evicted : Uuid) (act : Act) :
    (∃ task now, task ∈ s.handlers ∧
        (s.step evicted act).server = (task.advance now s.server).1 ∧
        (s.step evicted act).handlers =
          s.handlers.erase task ++ (task.advance now s.server).2.toList) ∨
      (NothingNew evicted s.server (s.step evicted act).server ∧
        ∃ new, (s.step evicted act).handlers = s.handlers ++ new ∧
          ∀ task ∈ new, ¬ task.Admits evicted) := by
  have hidle : NothingNew evicted s.server s.server ∧ ∃ new, s.handlers = s.handlers ++ new ∧
      ∀ task ∈ new, ¬ task.Admits evicted :=
    ⟨NothingNew.refl _ _, [], (List.append_nil _).symm, fun _ hmem => (List.not_mem_nil hmem).elim⟩
  cases act with
  | handler task now =>
      simp only [step, advance]
      split
      · next hmem => exact .inl ⟨task, now, hmem, rfl, rfl⟩
      · exact .inr hidle
  | evict e =>
      right
      simp only [step, proceed]
      split
      · split
        · exact hidle
        · rw [handlers_evictStep]
          exact ⟨nothingNew_evictStep e _, hidle.2⟩
      · exact hidle
  | webhook action =>
      right
      simp only [step]
      split
      · exact hidle
      · next hother =>
          have hnew : ¬ (Task.received action).Admits evicted :=
            fun hadmits => hother (subject_of_admits hadmits)
          exact ⟨NothingNew.refl _ _, [.received action], rfl,
            fun task hmem => List.mem_singleton.mp hmem ▸ hnew⟩
  | claim channel userId wanted =>
      right
      simp only [step]
      split
      · exact hidle
      · next hother =>
          have hgrants : ∀ c' source,
              (Grants.claimPublications s.server.config channel userId wanted
                s.server.grants).1.Holds c' evicted source →
              s.server.grants.Holds c' evicted source := by
            intro c' source hholds
            rw [Grants.holds_claimPublications] at hholds
            rwa [if_neg (fun hsame => hother hsame.2.2.symm)] at hholds
          exact ⟨{ NothingNew.refl _ _ with holds := hgrants }, hidle.2⟩
  | revoke channel userId =>
      right
      simp only [step]
      split
      · exact hidle
      · exact hidle

/-! ## What the last handler is for -/

/-- Nothing new has come up since the eviction began, and nothing will. -/
structure Inv (evicted : Uuid) (before : ServerState) (s : State) : Prop where
  since : NothingNew evicted before s.server
  handlers : ∀ task ∈ s.handlers, ¬ task.Admits evicted

variable {before : ServerState}

theorem inv_started (server : ServerState) (c : Snowflake) (evicted : Uuid)
    (sources : List PublicationSource) :
    (started server c evicted sources).Inv evicted server where
  since := NothingNew.refl _ _
  handlers := by
    intro task hmem
    simp only [started, List.mem_cons, List.mem_map] at hmem
    obtain rfl | rfl | ⟨source, -, rfl⟩ := hmem <;> exact id

theorem Inv.step (h : s.Inv evicted before) (act : Act) :
    (s.step evicted act).Inv evicted before := by
  cases s.step_cases evicted act with
  | inl hcall =>
      obtain ⟨task, now, hmem, hserver, hhandlers⟩ := hcall
      obtain ⟨hnothing, hnext⟩ := Task.nothingNew_advance now s.server (h.handlers task hmem)
      constructor
      · rw [hserver]
        exact h.since.trans hnothing
      · intro task' hmem'
        rw [hhandlers, List.mem_append] at hmem'
        cases hmem' with
        | inl hold => exact h.handlers task' (List.mem_of_mem_erase hold)
        | inr hnew => exact hnext task' (Option.mem_toList.mp hnew)
  | inr hother =>
      obtain ⟨hnothing, new, hhandlers, hnew⟩ := hother
      constructor
      · exact h.since.trans hnothing
      · intro task hmem
        rw [hhandlers, List.mem_append] at hmem
        cases hmem with
        | inl hold => exact h.handlers task hold
        | inr hmem => exact hnew task hmem

/-- It is done, or a handler in flight has a call `p` before it that does it. -/
def Owed (c : Snowflake) (evicted : Uuid) (p : Op → Prop) (done : ServerState → Prop)
    (s : State) : Prop :=
  done s.server ∨ ∃ task ∈ s.handlers, task.Owes c evicted p

theorem owed_started (server : ServerState) (sources : List PublicationSource)
    (p : Op → Prop) (done : ServerState → Prop) :
    Owed c evicted p done (started server c evicted sources) :=
  .inr ⟨_, List.mem_cons_self, rfl⟩

/-- `p` are calls of the `on_leave` of the evicted person, they bring `done` about, and
nothing undoes it. -/
theorem Owed.step {p : Op → Prop} {done : ServerState → Prop} (h : Owed c evicted p done s)
    (hinv : s.Inv evicted before)
    (hcall : ∀ op now, p op → done (op.perform now s.server))
    (hkeeps : ∀ st', NothingNew evicted s.server st' → done s.server → done st')
    (hread : ∃ op ∈ (Api.Rooms.readLeaving s.server.users c evicted s.server.presence).ops, p op)
    (act : Act) : Owed c evicted p done (s.step evicted act) := by
  cases s.step_cases evicted act with
  | inl hmoved =>
      obtain ⟨task, now, hmem, hserver, hhandlers⟩ := hmoved
      unfold Owed
      rw [hserver, hhandlers]
      cases h with
      | inl hdone =>
          have hnothing := (Task.nothingNew_advance now s.server (hinv.handlers task hmem)).1
          exact .inl (hkeeps _ hnothing hdone)
      | inr howed =>
          obtain ⟨task', hmem', howes⟩ := howed
          by_cases hsame : task' = task
          · -- the handler that owes is the one that runs: it does so now, or owes it still
            rw [hsame] at howes
            cases Task.owes_advance now s.server howes hread with
            | inl hnow =>
                obtain ⟨op, hop, heq⟩ := hnow
                rw [heq]
                exact .inl (hcall op now hop)
            | inr hlater =>
                obtain ⟨next, hnext, howes'⟩ := hlater
                have hin : next ∈ s.handlers.erase task ++
                    (task.advance now s.server).2.toList :=
                  List.mem_append_right _ (Option.mem_toList.mpr hnext)
                exact .inr ⟨next, hin, howes'⟩
          · have hin : task' ∈ s.handlers.erase task :=
              (List.mem_erase_of_ne hsame).mpr hmem'
            exact .inr ⟨task', List.mem_append_left _ hin, howes⟩
  | inr hother =>
      obtain ⟨hnothing, new, hhandlers, -⟩ := hother
      cases h with
      | inl hdone => exact .inl (hkeeps _ hnothing hdone)
      | inr howed =>
          obtain ⟨task, hmem, howes⟩ := howed
          exact .inr ⟨task, hhandlers ▸ List.mem_append_left new hmem, howes⟩

/-- What was owed at the beginning is done once everything has run. -/
theorem done_of_owed {server : ServerState} {sources : List PublicationSource} {acts : List Act}
    {p : Op → Prop} {q : ServerState → Prop}
    (hcall : ∀ st op now, NothingNew evicted server st → p op → q (op.perform now st))
    (hkeeps : ∀ st st', NothingNew evicted st st' → q st → q st')
    (hread : EachStep (step evicted)
      (fun s _ =>
        ∃ op ∈ (Api.Rooms.readLeaving s.server.users c evicted s.server.presence).ops, p op)
      (started server c evicted sources) acts)
    (hrun : (run (step evicted) (started server c evicted sources) acts).Done) :
    q (run (step evicted) (started server c evicted sources) acts).server := by
  have howed : ∀ s act, (s.Inv evicted server ∧ Owed c evicted p q s) →
      (∃ op ∈ (Api.Rooms.readLeaving s.server.users c evicted s.server.presence).ops, p op) →
      (s.step evicted act).Inv evicted server ∧ Owed c evicted p q (s.step evicted act) := by
    intro s act hs hreads
    have hcalls := fun op now hop => hcall s.server op now hs.1.since hop
    exact ⟨hs.1.step act, hs.2.step hs.1 hcalls (fun st' => hkeeps s.server st') hreads act⟩
  obtain ⟨-, hend⟩ := run_of_eachStep howed
    ⟨inv_started server c evicted sources, owed_started server sources p q⟩ hread
  cases hend with
  | inl hdone => exact hdone
  | inr hleft =>
      obtain ⟨task, hmem, -⟩ := hleft
      rw [hrun.1] at hmem
      exact (List.not_mem_nil hmem).elim

section Residue

variable {server : ServerState} {sources : List PublicationSource} {acts : List Act}

theorem no_row (hrun : (run (step evicted) (started server c evicted sources) acts).Done) :
    (run (step evicted) (started server c evicted sources) acts).server.presence.lookup evicted =
      none := by
  apply done_of_owed (p := fun op => op = .leave evicted)
    (q := fun st => st.presence.lookup evicted = none)
  · rintro st op now - rfl
    exact Presence.lookup_leave.trans (if_pos rfl)
  · exact fun st st' hnothing hnone => hnothing.row hnone
  · exact eachStep_of_forall (fun s act => ⟨_, List.mem_cons_self, rfl⟩) _ _
  · exact hrun

theorem no_session (hrun : (run (step evicted) (started server c evicted sources) acts).Done) :
    ¬ (run (step evicted) (started server c evicted sources) acts).server.sessions.OpenFor
      c evicted := by
  apply done_of_owed (p := fun op => op = .close c evicted)
    (q := fun st => ¬ st.sessions.OpenFor c evicted)
  · rintro st op now - rfl hopen
    exact (ShareSessions.openFor_close.mp hopen).2 ⟨rfl, rfl⟩
  · exact fun st st' hnothing hclosed hopen => hclosed (hnothing.openFor c hopen)
  · refine eachStep_of_forall (fun s act => ⟨_, ?_, rfl⟩) _ _
    exact List.mem_cons_of_mem _ List.mem_cons_self
  · exact hrun

theorem no_slot (hrun : (run (step evicted) (started server c evicted sources) acts).Done)
    (source : PublicationSource) :
    ¬ (run (step evicted) (started server c evicted sources) acts).server.grants.Holds
      c evicted source := by
  apply done_of_owed (p := fun op => op = .releasePublisher c evicted)
    (q := fun st => ¬ st.grants.Holds c evicted source)
  · rintro st op now - rfl hholds
    exact (Grants.holds_releasePublisher.mp hholds).2 ⟨rfl, rfl⟩
  · exact fun st st' hnothing hfree hholds => hfree (hnothing.holds c source hholds)
  · refine eachStep_of_forall (fun s act => ⟨_, ?_, rfl⟩) _ _
    exact List.mem_cons_of_mem _ (List.mem_cons_of_mem _ List.mem_cons_self)
  · exact hrun

/-- `v` has been sent the removal of `evicted` from the room since `before`. -/
def NoticeSent (before : ServerState) (c : Snowflake) (evicted v : Uuid) (st : ServerState) :
    Prop :=
  ∃ new, st.published = before.published ++ new ∧
    ∃ recipients, (recipients, .roomParticipantRemove ⟨c, evicted⟩) ∈ new ∧ v ∈ recipients

/-- Whoever is in the room when `on_leave` reads it is among its recipients. -/
theorem mem_recipients (u : Uuid) {users : Users} {presence : Presence} {v : Uuid}
    {row : PresenceRow} {profile : UserRow} (hrow : presence.lookup v = some row)
    (hc : row.discordChannelId = c) (hprofile : users.lookup v = some profile) :
    v ∈ (Api.Rooms.readLeaving users c u presence).recipients := by
  have hlisted : ⟨v, profile, row⟩ ∈ Presence.listByChannel users c presence :=
    Presence.mem_listByChannel.mpr ⟨hrow, hc, hprofile⟩
  have hmember : v ∈ Api.Rooms.membersOf users c presence := List.mem_map.mpr ⟨_, hlisted, rfl⟩
  simp only [Api.Rooms.readLeaving]
  split
  · exact hmember
  · exact List.mem_append_left _ hmember

theorem notice_sent {v : Uuid} {profile : UserRow}
    (hprofile : server.users.lookup v = some profile)
    (hstays : Throughout (step evicted) (InRoom c v) (started server c evicted sources) acts)
    (hrun : (run (step evicted) (started server c evicted sources) acts).Done) :
    NoticeSent server c evicted v
      (run (step evicted) (started server c evicted sources) acts).server := by
  apply done_of_owed
    (p := fun op => ∃ recipients, v ∈ recipients ∧
      op = .publish c (.users recipients) (.roomParticipantRemove ⟨c, evicted⟩))
    (q := NoticeSent server c evicted v)
  · rintro st op now hnothing ⟨recipients, hv, rfl⟩
    obtain ⟨new, hnew⟩ := hnothing.published
    have hpublished : (Op.perform now st (.publish c (.users recipients)
        (.roomParticipantRemove ⟨c, evicted⟩))).published =
        server.published ++ (new ++ [(recipients, .roomParticipantRemove ⟨c, evicted⟩)]) := by
      rw [← List.append_assoc, hnew]
      rfl
    exact ⟨_, hpublished, recipients, List.mem_append_right _ List.mem_cons_self, hv⟩
  · rintro st st' hnothing ⟨new, hnew, recipients, hmem, hv⟩
    obtain ⟨later, hlater⟩ := hnothing.published
    have hpublished : st'.published = server.published ++ (new ++ later) := by
      rw [← hlater, hnew, List.append_assoc]
    exact ⟨_, hpublished, recipients, List.mem_append_left _ hmem, hv⟩
  · refine EachStep.imp (I := fun s => s.Inv evicted server) ?_
      (fun s act hinv _ => hinv.step act) (inv_started server c evicted sources) hstays.eachStep
    intro s act hinv hroom
    obtain ⟨row, hrow, hc⟩ := Option.map_eq_some_iff.mp hroom
    have hknown : s.server.users.lookup v = some profile := by rw [hinv.since.users, hprofile]
    have hv := mem_recipients evicted hrow hc hknown
    have hlast : Op.publish c (.users (Api.Rooms.readLeaving s.server.users c evicted
        s.server.presence).recipients) (.roomParticipantRemove ⟨c, evicted⟩) ∈
          (Api.Rooms.readLeaving s.server.users c evicted s.server.presence).ops := by
      simp [Leaving.ops, Api.Rooms.readLeaving]
    exact ⟨_, hlast, _, hv, rfl⟩
  · exact hrun

/-- However the calls of `evict`, of the handlers and of everybody else interleave: when
all have run, the evicted person has no row, no open session and no publish slot in the
room, and everybody who stayed in it has been told.  `hknown` is the foreign key of
`room_presence`. -/
theorem no_residue (hknown : ∀ v ∈ server.presence.keys, (server.users.lookup v).isSome)
    (hrun : (run (step evicted) (started server c evicted sources) acts).Done) :
    (run (step evicted) (started server c evicted sources) acts).server.presence.lookup evicted =
        none ∧
      ¬ (run (step evicted) (started server c evicted sources) acts).server.sessions.OpenFor
        c evicted ∧
      (∀ source, ¬ (run (step evicted) (started server c evicted sources) acts).server.grants.Holds
        c evicted source) ∧
      ∀ v, Throughout (step evicted) (InRoom c v) (started server c evicted sources) acts →
        NoticeSent server c evicted v
          (run (step evicted) (started server c evicted sources) acts).server := by
  refine ⟨no_row hrun, no_session hrun, no_slot hrun, ?_⟩
  intro v hstays
  obtain ⟨row, hrow, -⟩ := Option.map_eq_some_iff.mp hstays.head
  have hmem : v ∈ server.presence.keys := AList.mem_keys_iff.mpr ⟨row, hrow⟩
  obtain ⟨profile, hprofile⟩ := Option.isSome_iff_exists.mp (hknown v hmem)
  exact notice_sent hprofile hstays hrun

end Residue

/-- A room of two, one of them sharing the screen. -/
def sharing : ServerState :=
  [.joined 5 3, .joined 5 4, .shareStarted 5 3 .screen].foldl (Api.Rooms.perform 0)
    { ServerState.started ⟨1, 1⟩
        (((∅ : Users).insert 4 ⟨40, "bia", none, none⟩).insert 3 ⟨30, "ana", none, none⟩) with
      grants := (Grants.claimPublications ⟨1, 1⟩ 5 3 [.screen] ∅).1 }

/-- The row goes before two of the handlers look at it. -/
def rowGoesFirst : List Act :=
  let leaving : Leaving := ⟨5, 3, [4, 3]⟩
  [.evict (evict 5 3), .evict ⟨5, 3, [.removeViewer, .leave, .notify]⟩,
    .handler (.received (.left 5 3)) 9, .evict ⟨5, 3, [.leave, .notify]⟩,
    .handler (.received (.publisherGone 5 3)) 9, .handler (.rest []) 9,
    .handler (.received (.shareStopped 5 3 .screen)) 9, .handler (.rest []) 9,
    .handler (.rest leaving.ops) 9, .handler (.rest (leaving.ops.drop 1)) 9,
    .evict ⟨5, 3, [.notify]⟩, .evict ⟨5, 3, []⟩,
    .handler (.rest (leaving.ops.drop 2)) 9, .handler (.rest (leaving.ops.drop 3)) 9,
    .handler (.rest (leaving.ops.drop 4)) 9, .handler (.rest []) 9]

theorem no_residue_sharing :
    (run (step 3) (started sharing 5 3 [.screen]) rowGoesFirst).server.presence.lookup 3 = none ∧
      ¬ (run (step 3) (started sharing 5 3 [.screen]) rowGoesFirst).server.sessions.OpenFor 5 3 ∧
      ¬ (run (step 3) (started sharing 5 3 [.screen]) rowGoesFirst).server.grants.Holds 5 3
        .screen ∧
      NoticeSent sharing 5 3 4
        (run (step 3) (started sharing 5 3 [.screen]) rowGoesFirst).server := by
  have hknown : ∀ v ∈ sharing.presence.keys, (sharing.users.lookup v).isSome := by decide
  have hrun : (run (step 3) (started sharing 5 3 [.screen]) rowGoesFirst).Done := by decide
  obtain ⟨hrow, hsession, hslot, hnotice⟩ := no_residue hknown hrun
  exact ⟨hrow, hsession, hslot .screen, hnotice 4 (by decide)⟩

end State

end Eviction
end Bot
end Ldktela
