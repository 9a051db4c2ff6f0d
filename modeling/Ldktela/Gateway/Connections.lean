import Ldktela.Gateway.Hub
import Ldktela.Lib.Runs

/-!
# Several connections over one session

`crates/api/src/gateway/mod.rs`: `serve`, `Connection::identify` and
`Connection::resume`, for any number of connections at once.

A connection is known by its outbox.  Its serve loop ends at any moment (the peer
closed, no heartbeat, a frame it could not decode), and what it then does to the
session it holds is `Session::disconnect`, whoever owns the session by then.

`World.owner` is kept for the statements only: the connection that last
identified or resumed each session.  A session loses its owner when the
connection limit evicts it or a failed resume forgets it; a sweep takes no owner
away.
-/

namespace Ldktela
namespace Gateway

open Protocol
open Runs

/-- One socket and the task that serves it. -/
structure Connection where
  session : Option Uuid
  /-- What a `RESUME` in progress has located: the session and the missed frames. -/
  resuming : Option (Uuid × List DispatchFrame)
  isOpen : Bool

structure World where
  now : Timestamp
  hub : Hub
  connections : Table Outbox Connection
  owner : Table Uuid Outbox

inductive Act where
  /-- A socket is accepted; its serve loop waits for a first frame. -/
  | accept (c : Outbox)
  | identify (c : Outbox) (id userId : Uuid) (ready : Ready)
  /-- `RESUME`, up to the answer of `replay_after`. -/
  | resume (c : Outbox) (userId sessionId : Uuid) (lastSeq : Nat)
  /-- `RESUME`, from the attachment of the outbox on. -/
  | attachResumed (c : Outbox)
  /-- The serve loop ends. -/
  | finish (c : Outbox)
  | publish (users : List Uuid) (event : DispatchEvent)
  | sweep
  | shutdown
  | tick (ms : Nat)

namespace World

def init (config : GatewayConfig) : World where
  now := 0
  hub := Hub.new config
  connections := ∅
  owner := ∅

/-- The owners that are left when the registry goes from `before` to `after`. -/
def ownersLeft (before after : Hub) (owner : Table Uuid Outbox) : Table Uuid Outbox :=
  owner.retain fun id _ =>
    !(decide (id ∈ before.registry.sessions) && decide (id ∉ after.registry.sessions))

/-- A fresh `Uuid` is the id of no session. -/
def isFresh (id : Uuid) (h : Hub) : Bool :=
  decide (id ∉ h.objects) && decide (id ∉ h.registry.sessions)

def accept (c : Outbox) (w : World) : World :=
  if c ∈ w.connections then
    w
  else
    { w with connections := w.connections.insert c ⟨none, none, true⟩ }

def identify (c : Outbox) (id userId : Uuid) (ready : Ready) (w : World) : World :=
  match w.connections.lookup c with
  | some ⟨none, none, true⟩ =>
      if isFresh id w.hub then
        -- READY takes sequence 1: the session is not in the registry yet
        let hub := Hub.attach w.now id userId
          (Hub.dispatch id (.ready ready) (Hub.createSession id userId c w.hub))
        { w with
          hub := hub
          connections := w.connections.insert c ⟨some id, none, true⟩
          owner := (ownersLeft w.hub hub w.owner).insert id c }
      else
        w
  | _ => w

def resume (c : Outbox) (userId sessionId : Uuid) (lastSeq : Nat) (w : World) : World :=
  match w.connections.lookup c with
  | some ⟨none, none, true⟩ =>
      match w.hub.resumable sessionId userId with
      | none => { w with hub := Hub.queue c (.invalidSession false) w.hub }
      | some s =>
          match s.replayAfter lastSeq with
          | none =>
              let hub := Hub.forget sessionId w.hub
              { w with
                hub := Hub.queue c (.invalidSession false) hub
                owner := ownersLeft w.hub hub w.owner }
          | some missed =>
              { w with
                connections :=
                  w.connections.insert c ⟨none, some (sessionId, missed), true⟩ }
  | _ => w

def attachResumed (c : Outbox) (w : World) : World :=
  match w.connections.lookup c with
  | some ⟨none, some (id, missed), true⟩ =>
      if id ∈ w.hub.objects then
        let hub := Hub.reconnect c id w.hub
        let hub := missed.foldl (fun h frame => Hub.sendText id (.dispatch frame) h) hub
        { w with
          hub := Hub.dispatch id (.resumed ⟨missed.length.toUInt32⟩) hub
          connections := w.connections.insert c ⟨some id, none, true⟩
          owner := w.owner.insert id c }
      else
        w
  | _ => w

/-- The end of `serve`.  A task inside `resume` is not at the end of its loop. -/
def finish (c : Outbox) (w : World) : World :=
  match w.connections.lookup c with
  | some ⟨none, none, true⟩ =>
      { w with connections := w.connections.insert c ⟨none, none, false⟩ }
  | some ⟨some id, none, true⟩ =>
      { w with
        hub := Hub.disconnect w.now id w.hub
        connections := w.connections.insert c ⟨some id, none, false⟩ }
  | _ => w

def step (w : World) : Act → World
  | .accept c => accept c w
  | .identify c id userId ready => identify c id userId ready w
  | .resume c userId sessionId lastSeq => resume c userId sessionId lastSeq w
  | .attachResumed c => attachResumed c w
  | .finish c => finish c w
  | .publish users event => { w with hub := Hub.publishToUsers users event w.hub }
  | .sweep => { w with hub := Hub.sweepExpired w.now w.hub }
  | .shutdown => { w with hub := Hub.broadcastReconnect w.hub }
  | .tick ms => { w with now := w.now + ms }

/-! ## The property -/

def isOpen (w : World) (c : Outbox) : Bool :=
  match w.connections.lookup c with
  | some conn => conn.isOpen
  | none => false

/-- `c` is the last connection that attached the session, the session was not
evicted or forgotten since, and the socket of `c` is open. -/
def Owns (w : World) (id : Uuid) (c : Outbox) : Prop :=
  w.owner.lookup id = some c ∧ w.isOpen c = true

/-- The session is connected with the outbox `c`, a dispatch reaches `c`, and a
sweep at any time keeps the session in the registry. -/
structure Serves (w : World) (id : Uuid) (c : Outbox) : Prop where
  attached : ∃ s, w.hub.objects.lookup id = some s ∧ s.isConnected = true ∧ s.outbox = some c
  reaches : ∀ event, ∃ frame : DispatchFrame, frame.event = event ∧
    deliveredTo c (Hub.dispatch id event w.hub).written =
      deliveredTo c w.hub.written ++ [frame]
  kept : ∀ now, id ∈ w.hub.registry.sessions →
    id ∈ (Hub.sweepExpired now w.hub).registry.sessions

/-- Every open connection is served by the session it owns. -/
def Served (w : World) : Prop :=
  ∀ id c, w.Owns id c → w.Serves id c

/-- The session a serve loop would disconnect if it ended now. -/
def finishing (w : World) (c : Outbox) : Option Uuid :=
  match w.connections.lookup c with
  | some ⟨some id, none, true⟩ => some id
  | _ => none

/-- No serve loop ends while another open connection owns its session. -/
def EndsOwn (w : World) : Act → Prop
  | .finish c => ∀ id, w.finishing c = some id → ∀ c', w.Owns id c' → c' = c
  | _ => True

/-! ## Reduction to the attachment -/

theorem serves_iff {w : World} {id : Uuid} {c : Outbox} :
    w.Serves id c ↔ w.hub.attachment id = some (true, some c) := by
  constructor
  · intro h
    obtain ⟨s, hs, hconn, hout⟩ := h.attached
    simp [Hub.attachment, hs, hconn, hout]
  · intro h
    obtain ⟨s, hs, hsome⟩ := Option.map_eq_some_iff.mp h
    obtain ⟨hconn, hout⟩ := Prod.mk.inj hsome
    exact
      { attached := ⟨s, hs, hconn, hout⟩
        reaches := fun event => Hub.dispatch_reaches h event
        kept := fun now hid => Hub.mem_sweepExpired_of_connected h hid }

/-- Only known connections own a session. -/
def Known (w : World) : Prop :=
  ∀ id c, w.owner.lookup id = some c → c ∈ w.connections

section Steps

variable {w w' : World}

theorem served_iff :
    w.Served ↔ ∀ id c, w.Owns id c → w.hub.attachment id = some (true, some c) :=
  forall_congr' fun _ => forall_congr' fun _ => imp_congr_right fun _ => serves_iff

/-- A step that makes no new owner and moves no attachment keeps the property. -/
theorem Served.frame (h : w.Served) (howns : ∀ id c, w'.Owns id c → w.Owns id c)
    (hatt : ∀ id c, w'.Owns id c → w'.hub.attachment id = w.hub.attachment id) :
    w'.Served := by
  rw [served_iff] at h ⊢
  intro id c hown
  rw [hatt id c hown]
  exact h id c (howns id c hown)

theorem isOpen_insert {c : Outbox} {conn : Connection}
    (hconns : w'.connections = w.connections.insert c conn) (c' : Outbox) :
    w'.isOpen c' = if c' = c then conn.isOpen else w.isOpen c' := by
  unfold isOpen
  rw [hconns, AList.lookup_insert_ite]
  by_cases heq : c' = c
  · simp [heq]
  · simp [heq]

/-- Rewriting the entry of an open connection opens no other one. -/
theorem isOpen_of_insert {c c' : Outbox} {conn : Connection}
    (hopen : w.isOpen c = true) (hconns : w'.connections = w.connections.insert c conn)
    (h : w'.isOpen c' = true) : w.isOpen c' = true := by
  rw [isOpen_insert hconns] at h
  split at h
  · next heq => rwa [heq]
  · exact h

theorem isOpen_of_lookup {c : Outbox} {session : Option Uuid}
    {resuming : Option (Uuid × List DispatchFrame)}
    (h : w.connections.lookup c = some ⟨session, resuming, true⟩) : w.isOpen c = true := by
  simp [isOpen, h]

theorem lookup_ownersLeft {before after : Hub} {owner : Table Uuid Outbox} {id : Uuid}
    {c : Outbox} (h : (ownersLeft before after owner).lookup id = some c) :
    owner.lookup id = some c ∧
      ¬ (id ∈ before.registry.sessions ∧ id ∉ after.registry.sessions) := by
  rw [ownersLeft, AList.lookup_retain, Option.filter_eq_some_iff] at h
  simpa [not_and_or, or_iff_not_imp_left] using h

theorem served_accept (c : Outbox) (hknown : w.Known) (h : w.Served) :
    (accept c w).Served := by
  unfold accept
  split
  · exact h
  · next hnew =>
      refine h.frame (fun id c' hown => ?_) fun _ _ _ => rfl
      obtain ⟨howner, hopen⟩ := hown
      have hne : c' ≠ c := by
        rintro rfl
        exact hnew (hknown id c' howner)
      rw [isOpen_insert rfl, if_neg hne] at hopen
      exact ⟨howner, hopen⟩

theorem served_identify (c : Outbox) (id userId : Uuid) (ready : Ready) (h : w.Served) :
    (identify c id userId ready w).Served := by
  unfold identify
  split
  · next hconn =>
      split
      · next hfresh =>
          simp only [isFresh, Bool.and_eq_true, decide_eq_true_eq] at hfresh
          obtain ⟨hobj, hreg⟩ := hfresh
          have hregistry : (Hub.dispatch id (.ready ready)
              (Hub.createSession id userId c w.hub)).registry = w.hub.registry := by
            simp [Hub.dispatch, Hub.createSession]
          rw [served_iff] at h ⊢
          dsimp only
          rintro id' c' ⟨howner, hopen⟩
          rw [AList.lookup_insert_ite] at howner
          -- the session is new; the older ones lose their owner with their place
          by_cases hid : id' = id
          · subst hid
            rw [if_pos rfl] at howner
            obtain rfl := Option.some.inj howner
            rw [Hub.attachment_attach_self w.now id' userId (by rwa [hregistry]),
              Hub.attachment_dispatch, Hub.attachment_createSession, if_pos rfl]
          · rw [if_neg hid] at howner
            obtain ⟨howner, hleft⟩ := lookup_ownersLeft howner
            rw [Hub.attachment_attach w.now id userId _ hid, hregistry, if_neg hleft,
              Hub.attachment_dispatch, Hub.attachment_createSession, if_neg hid]
            exact h id' c' ⟨howner, isOpen_of_insert (isOpen_of_lookup hconn) rfl hopen⟩
      · exact h
  · exact h

theorem served_resume (c : Outbox) (userId sessionId : Uuid) (lastSeq : Nat)
    (h : w.Served) : (resume c userId sessionId lastSeq w).Served := by
  unfold resume
  split
  · next hconn =>
      split
      · exact h.frame (fun _ _ hown => hown) fun _ _ _ => rfl
      · split
        · -- the gap is too wide: the session is forgotten, and so is its owner
          refine h.frame (fun id c' hown => ?_) fun id c' hown => ?_
          · exact ⟨(lookup_ownersLeft hown.1).1, hown.2⟩
          · exact Hub.attachment_forget
        · refine h.frame (fun id c' hown => ?_) fun _ _ _ => rfl
          exact ⟨hown.1, isOpen_of_insert (isOpen_of_lookup hconn) rfl hown.2⟩
  · exact h

/-- Replaying the missed frames moves no attachment. -/
theorem attachment_replay (id id' : Uuid) (missed : List DispatchFrame) (h : Hub) :
    (missed.foldl (fun h frame => Hub.sendText id (.dispatch frame) h) h).attachment id' =
      h.attachment id' := by
  induction missed generalizing h with
  | nil => rfl
  | cons frame missed ih => rw [List.foldl_cons, ih, Hub.attachment_sendText]

theorem served_attachResumed (c : Outbox) (h : w.Served) : (attachResumed c w).Served := by
  unfold attachResumed
  split
  · next id missed hconn =>
      split
      · next hobj =>
          rw [served_iff] at h ⊢
          dsimp only
          rintro id' c' ⟨howner, hopen⟩
          rw [AList.lookup_insert_ite] at howner
          -- of all these calls only `reconnect` moves an attachment
          rw [Hub.attachment_dispatch, attachment_replay, Hub.attachment_reconnect]
          by_cases hid : id' = id
          · subst hid
            rw [if_pos rfl] at howner
            obtain rfl := Option.some.inj howner
            obtain ⟨s, hs⟩ := Option.isSome_iff_exists.mp (AList.lookup_isSome.mpr hobj)
            simp [Hub.attachment, hs]
          · rw [if_neg hid] at howner ⊢
            exact h id' c' ⟨howner, isOpen_of_insert (isOpen_of_lookup hconn) rfl hopen⟩
      · exact h
  · exact h

/-- The end of a serve loop keeps the property exactly when the loop ends on a
session that no other open connection owns. -/
theorem served_finish_iff (c : Outbox) (h : w.Served) :
    (finish c w).Served ↔ w.EndsOwn (.finish c) := by
  have hothers : ∀ {w' : World} {conn : Connection} {c' : Outbox}, conn.isOpen = false →
      w'.connections = w.connections.insert c conn → w'.isOpen c' = true →
        c' ≠ c ∧ w.isOpen c' = true := by
    intro w' conn c' hconn hconns hopen
    rw [isOpen_insert hconns] at hopen
    split at hopen
    · rw [hconn] at hopen
      cases hopen
    · next hne => exact ⟨hne, hopen⟩
  unfold finish
  split
  · next hconn =>
      refine iff_of_true (h.frame (fun id c' hown => ?_) fun _ _ _ => rfl) ?_
      · exact ⟨hown.1, (hothers rfl rfl hown.2).2⟩
      · simp [EndsOwn, finishing, hconn]
  · next id hconn =>
      have hfinishing : w.finishing c = some id := by simp [finishing, hconn]
      constructor
      · -- an open owner other than `c` has just lost its session
        intro hserved id' heq c' hown
        obtain rfl : id = id' := Option.some.inj (hfinishing.symm.trans heq)
        by_contra hne
        have hopen := hown.2
        rw [← if_neg (c := c' = c) (t := false) (e := w.isOpen c') hne] at hopen
        have hatt := served_iff.mp hserved id c'
          ⟨hown.1, (isOpen_insert rfl c').trans hopen⟩
        rw [Hub.attachment_disconnect, if_pos rfl, served_iff.mp h id c' hown] at hatt
        simp at hatt
      · intro hends
        refine h.frame (fun id' c' hown => ?_) fun id' c' hown => ?_
        · exact ⟨hown.1, (hothers rfl rfl hown.2).2⟩
        · obtain ⟨hne, hopen⟩ := hothers rfl rfl hown.2
          rw [Hub.attachment_disconnect, if_neg]
          rintro rfl
          exact hne (hends id' hfinishing c' ⟨hown.1, hopen⟩)
  · next hfree hheld =>
      refine iff_of_true h fun id heq => ?_
      unfold finishing at heq
      split at heq
      · next id' hconn => exact absurd hconn (hheld id')
      · cases heq

theorem known_step (w : World) (a : Act) (h : w.Known) : (step w a).Known := by
  have hinsert : ∀ (c : Outbox) (conn : Connection) (id : Uuid) (c' : Outbox),
      w.owner.lookup id = some c' → c' ∈ w.connections.insert c conn :=
    fun c conn id c' howner => (AList.mem_insert _).mpr (.inr (h id c' howner))
  cases a with
  | accept c =>
      simp only [step, accept]
      split
      · exact h
      · exact fun id c' howner => hinsert c _ id c' howner
  | identify c id userId ready =>
      simp only [step, identify]
      split
      · split
        · intro id' c' howner
          dsimp only at howner ⊢
          rw [AList.lookup_insert_ite] at howner
          split at howner
          · obtain rfl := Option.some.inj howner
            exact (AList.mem_insert _).mpr (.inl rfl)
          · exact hinsert c _ id' c' (lookup_ownersLeft howner).1
        · exact h
      · exact h
  | resume c userId sessionId lastSeq =>
      simp only [step, resume]
      split
      · split
        · exact h
        · split
          · exact fun id c' howner => h id c' (lookup_ownersLeft howner).1
          · exact fun id c' howner => hinsert c _ id c' howner
      · exact h
  | attachResumed c =>
      simp only [step, attachResumed]
      split
      · split
        · intro id' c' howner
          dsimp only at howner ⊢
          rw [AList.lookup_insert_ite] at howner
          split at howner
          · obtain rfl := Option.some.inj howner
            exact (AList.mem_insert _).mpr (.inl rfl)
          · exact hinsert c _ id' c' howner
        · exact h
      · exact h
  | finish c =>
      simp only [step, finish]
      split
      · exact fun id c' howner => hinsert c _ id c' howner
      · exact fun id c' howner => hinsert c _ id c' howner
      · exact h
  | publish users event => exact h
  | sweep => exact h
  | shutdown => exact h
  | tick ms => exact h

/-- Which steps keep every open connection served. -/
theorem served_step_iff (w : World) (a : Act) (hknown : w.Known) (h : w.Served) :
    (step w a).Served ↔ w.EndsOwn a := by
  cases a with
  | accept c => exact iff_of_true (served_accept c hknown h) trivial
  | identify c id userId ready =>
      exact iff_of_true (served_identify c id userId ready h) trivial
  | resume c userId sessionId lastSeq =>
      exact iff_of_true (served_resume c userId sessionId lastSeq h) trivial
  | attachResumed c => exact iff_of_true (served_attachResumed c h) trivial
  | finish c => exact served_finish_iff c h
  | publish users event =>
      refine iff_of_true (h.frame (fun _ _ hown => hown) fun _ _ _ => ?_) trivial
      exact Hub.attachment_publishToUsers users event
  | sweep =>
      refine iff_of_true (h.frame (fun _ _ hown => hown) fun _ _ _ => ?_) trivial
      exact Hub.attachment_sweepExpired w.now
  | shutdown =>
      refine iff_of_true (h.frame (fun _ _ hown => hown) fun _ _ _ => ?_) trivial
      exact Hub.attachment_broadcastReconnect
  | tick ms =>
      exact iff_of_true (h.frame (fun _ _ hown => hown) fun _ _ _ => rfl) trivial

end Steps

/-! ## Whole runs -/

/-- Along a run, every open connection keeps being served by the session it owns
exactly when no serve loop ends on a session that another open connection owns. -/
theorem served_throughout_iff (config : GatewayConfig) (acts : List Act) :
    Throughout step Served (init config) acts ↔
      EachStep step EndsOwn (init config) acts := by
  refine throughout_iff_eachStep (I := Known) known_step served_step_iff ?_ ?_
  · intro id c howner
    simp [init] at howner
  · rintro id c ⟨howner, -⟩
    simp [init] at howner

/-- The first connection identifies, the second resumes its session, and only
then does the server notice that the first socket is gone: the session of the
second one is disconnected under it. -/
theorem late_finish_disconnects_resumed :
    ¬ ∀ (config : GatewayConfig) (acts : List Act),
      Throughout step Served (init config) acts := by
  intro h
  let ready : Ready := ⟨7, ⟨3, 30, "ana", none, none, 0⟩, none, 30000⟩
  have hrun := throughout_iff_initial.mp
    (h ⟨30000, 90000, 500, 4⟩
      [.accept 1, .identify 1 7 3 ready, .accept 2, .resume 2 3 7 1, .attachResumed 2,
        .finish 1]) _ (List.prefix_refl _)
  obtain ⟨s, hs, hconn, -⟩ := (hrun 7 2 ⟨by decide, by decide⟩).attached
  have hconnected := congrArg (Option.map Session.isConnected) hs
  rw [Option.map_some, hconn] at hconnected
  exact absurd hconnected (by decide)

end World

end Gateway
end Ldktela
