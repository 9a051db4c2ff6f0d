import Mathlib.Algebra.Group.Int.Defs
import Mathlib.Algebra.Group.Nat.Defs
import Ldktela.Gateway.Session
import Ldktela.Lib.Keyed

/-!
# The session registry

`crates/api/src/gateway/hub.rs`.  A session is shared: the registry holds a
handle of it and so does every connection that attached it, so what one holder
does to the session the others see.  The hub therefore keeps the session objects
apart from the registry:

* `objects` are the sessions ever created, by id, registered or not;
* `registry.sessions` are the ids with an entry in the registry;
* `registry.byUser` are the session ids of each user, oldest first;
* `written` is what has been queued on every outbox.

`Hub.attachment` is the part of a session that decides where its dispatches go.
The last section says, for each operation, what becomes of it.
-/

namespace Ldktela
namespace Gateway

open Protocol

structure GatewayConfig where
  heartbeatIntervalMs : Nat
  sessionTtlMs : Nat
  resumeBufferSize : Nat
  maxConnectionsPerUser : Nat
deriving DecidableEq

structure Registry where
  sessions : List Uuid
  byUser : Table Uuid (List Uuid)
deriving DecidableEq

structure Hub where
  config : GatewayConfig
  objects : Table Uuid Session
  registry : Registry
  written : List Delivery

namespace Hub

def new (config : GatewayConfig) : Hub where
  config := config
  objects := ∅
  registry := ⟨[], ∅⟩
  written := []

/-! ## Calls on one session -/

/-- Run a call on the session object `id`: the new state of the session, and what
the call writes. -/
def call (id : Uuid) (f : Session → Session) (sends : Session → List Delivery)
    (h : Hub) : Hub :=
  match h.objects.lookup id with
  | none => h
  | some s =>
      { h with
        objects := h.objects.insert id (f s)
        written := h.written ++ sends s }

def dispatch (id : Uuid) (event : DispatchEvent) : Hub → Hub :=
  call id (Session.dispatch event) fun s => s.dispatchSends event

def sendText (id : Uuid) (frame : OutFrame) : Hub → Hub :=
  call id (fun s => s) fun s => s.sendText frame

def disconnect (now : Timestamp) (id : Uuid) : Hub → Hub :=
  call id (Session.disconnect now) fun _ => []

def reconnect (outbox : Outbox) (id : Uuid) : Hub → Hub :=
  call id (Session.reconnect outbox) fun _ => []

/-- A frame queued on a connection's own outbox, past any session. -/
def queue (outbox : Outbox) (frame : OutFrame) (h : Hub) : Hub :=
  { h with written := h.written ++ [⟨outbox, frame⟩] }

/-! ## Sessions -/

/-- Builds a session without publishing it. -/
def createSession (id userId : Uuid) (outbox : Outbox) (h : Hub) : Hub :=
  { h with
    objects := h.objects.insert id
      (Session.new id userId outbox h.config.resumeBufferSize) }

/-- The `while owned.len() > max` loop of `attach`: what it pops off the front,
oldest first, and what it leaves. -/
def popOver (max : Nat) : List Uuid → List Uuid × List Uuid
  | [] => ([], [])
  | oldest :: owned =>
      if max < (oldest :: owned).length then
        (oldest :: (popOver max owned).1, (popOver max owned).2)
      else
        ([], oldest :: owned)

/-- One turn of the eviction loop of `attach`. -/
def evict (now : Timestamp) (h : Hub) (oldest : Uuid) : Hub :=
  if oldest ∈ h.registry.sessions then
    disconnect now oldest (sendText oldest (.control Opcode.reconnect)
      { h with
        registry :=
          { h.registry with sessions := h.registry.sessions.filter (· ≠ oldest) } })
  else
    h

/-- The eviction half of `attach`: the new id joins the user's list, and the
oldest ones past the connection limit leave it. -/
def evictOldest (now : Timestamp) (id userId : Uuid) (h : Hub) : Hub :=
  let owned := (h.registry.byUser.lookup userId).getD [] ++ [id]
  let popped := popOver h.config.maxConnectionsPerUser owned
  popped.1.foldl (evict now)
    { h with
      registry := { h.registry with byUser := h.registry.byUser.insert userId popped.2 } }

/-- Publishes the session `id` of `userId`, dropping the user's oldest ones past
the connection limit. -/
def attach (now : Timestamp) (id userId : Uuid) (h : Hub) : Hub :=
  let h := evictOldest now id userId h
  { h with
    registry := { h.registry with
      sessions := h.registry.sessions.filter (· ≠ id) ++ [id] } }

/-- Looks up a session for `RESUME`.  The user must match. -/
def resumable (sessionId userId : Uuid) (h : Hub) : Option Session :=
  if sessionId ∈ h.registry.sessions then
    (h.objects.lookup sessionId).filter fun s => s.userId = userId
  else
    none

/-- Takes `id` off its owner's list, and the list off the index when it was the
last one. -/
def unlist (id userId : Uuid) (byUser : Table Uuid (List Uuid)) : Table Uuid (List Uuid) :=
  match byUser.lookup userId with
  | none => byUser
  | some owned =>
      if owned.filter (· ≠ id) = [] then
        byUser.erase userId
      else
        byUser.insert userId (owned.filter (· ≠ id))

/-- Removes one session from the registry. -/
def forget (sessionId : Uuid) (h : Hub) : Hub :=
  if sessionId ∈ h.registry.sessions then
    match h.objects.lookup sessionId with
    | none => h
    | some s =>
        { h with
          registry :=
            { sessions := h.registry.sessions.filter (· ≠ sessionId)
              byUser := unlist sessionId s.userId h.registry.byUser } }
  else
    h

/-- The moments of an `OffsetDateTime`, the years -9999 to 9999. -/
def earliestMs : Int := -377705116800000
def latestMs : Int := 253402300799999

/-- `session_ttl_ms as i64`. -/
def ttl (config : GatewayConfig) : Int :=
  if config.sessionTtlMs < 2 ^ 63 then config.sessionTtlMs else config.sessionTtlMs - 2 ^ 64

/-- The moment a socket must be gone since for `sweep_expired`; the subtraction panics where
there is no such moment. -/
def cutoff (now : Timestamp) (h : Hub) : Option Int :=
  let cutoff := (now : Int) - ttl h.config
  if earliestMs ≤ cutoff ∧ cutoff ≤ latestMs then some cutoff else none

/-- The test of `sweep_expired`: the socket is gone since the cutoff. -/
def isExpired (cutoff : Int) (h : Hub) (id : Uuid) : Bool :=
  match h.objects.lookup id with
  | none => false
  | some s =>
      !s.isConnected &&
        match s.disconnectedAt with
        | none => false
        | some at_ => decide ((at_ : Int) ≤ cutoff)

/-- Drops sessions whose socket has been gone longer than the TTL.  A panic comes before the
registry is touched. -/
def sweepExpired (now : Timestamp) (h : Hub) : Hub :=
  match h.cutoff now with
  | none => h
  | some cutoff =>
      (h.registry.sessions.filter (h.isExpired cutoff)).foldl (fun h id => forget id h) h

/-! ## Publication -/

/-- Sends to every registered session of one user. -/
def publishToUser (event : DispatchEvent) (h : Hub) (user : Uuid) : Hub :=
  ((h.registry.byUser.lookup user).getD []).foldl
    (fun h' id => if id ∈ h.registry.sessions then dispatch id event h' else h') h

/-- Sends to every session of every user in `users`. -/
def publishToUsers (users : List Uuid) (event : DispatchEvent) (h : Hub) : Hub :=
  users.foldl (publishToUser event) h

/-- Graceful shutdown: every session is told to reconnect. -/
def broadcastReconnect (h : Hub) : Hub :=
  h.registry.sessions.foldl (fun h id => sendText id (.control Opcode.reconnect) h) h

/-! ## Where the dispatches of a session go -/

/-- The connected flag and the outbox of a session object. -/
def attachment (h : Hub) (id : Uuid) : Option (Bool × Option Outbox) :=
  (h.objects.lookup id).map fun s => (s.isConnected, s.outbox)

/-- A dispatch on a session attached to `outbox` is delivered there. -/
theorem dispatch_reaches {h : Hub} {id : Uuid} {outbox : Outbox}
    (hatt : h.attachment id = some (true, some outbox)) (event : DispatchEvent) :
    ∃ frame, frame.event = event ∧
      deliveredTo outbox (dispatch id event h).written =
        deliveredTo outbox h.written ++ [frame] := by
  obtain ⟨s, hs, hsome⟩ := Option.map_eq_some_iff.mp hatt
  obtain ⟨-, hout⟩ := Prod.mk.inj hsome
  refine ⟨s.nextFrame event, rfl, ?_⟩
  simp [dispatch, call, hs, Session.dispatchSends, Session.deliveredTo_sendFrame, hout]

section Attachment

variable {h : Hub} {id id' : Uuid}

/-- A call moves an attachment only through what it does to the session. -/
theorem attachment_call (f : Session → Session) (sends : Session → List Delivery)
    (h : Hub) (id id' : Uuid) :
    (call id f sends h).attachment id' =
      if id' = id then
        (h.objects.lookup id).map fun s => ((f s).isConnected, (f s).outbox)
      else
        h.attachment id' := by
  unfold call attachment
  cases hs : h.objects.lookup id with
  | none =>
      by_cases hid : id' = id
      · subst hid
        simp [hs]
      · simp [hid]
  | some s =>
      by_cases hid : id' = id
      · subst hid
        simp
      · simp [hid, AList.lookup_insert_ne hid]

@[simp]
theorem attachment_dispatch (event : DispatchEvent) :
    (dispatch id event h).attachment id' = h.attachment id' := by
  rw [dispatch, attachment_call]
  split
  · next heq =>
      subst heq
      simp [attachment, Session.isConnected]
  · rfl

@[simp]
theorem attachment_sendText (frame : OutFrame) :
    (sendText id frame h).attachment id' = h.attachment id' := by
  rw [sendText, attachment_call]
  split
  · next heq =>
      subst heq
      rfl
  · rfl

theorem attachment_disconnect (now : Timestamp) :
    (disconnect now id h).attachment id' =
      if id' = id then (h.attachment id').map fun _ => (false, none) else h.attachment id' := by
  rw [disconnect, attachment_call]
  split
  · next heq =>
      rw [heq, attachment, Option.map_map]
      rfl
  · rfl

theorem attachment_reconnect (outbox : Outbox) :
    (reconnect outbox id h).attachment id' =
      if id' = id then (h.attachment id').map fun _ => (true, some outbox)
      else h.attachment id' := by
  rw [reconnect, attachment_call]
  split
  · next heq =>
      rw [heq, attachment, Option.map_map]
      rfl
  · rfl

@[simp]
theorem attachment_queue (outbox : Outbox) (frame : OutFrame) :
    (queue outbox frame h).attachment id = h.attachment id := rfl

theorem attachment_createSession (userId : Uuid) (outbox : Outbox) :
    (createSession id userId outbox h).attachment id' =
      if id' = id then some (true, some outbox) else h.attachment id' := by
  unfold createSession attachment
  rw [AList.lookup_insert_ite]
  split
  · rfl
  · rfl

@[simp]
theorem attachment_forget : (forget id h).attachment id' = h.attachment id' := by
  unfold forget
  split
  · split
    · rfl
    · rfl
  · rfl

/-- Calls repeated over a list move nothing when one of them moves nothing. -/
private theorem attachment_foldl {α : Type*} (f : Hub → α → Hub)
    (hf : ∀ h a, (f h a).attachment id = h.attachment id) (l : List α) (h : Hub) :
    (l.foldl f h).attachment id = h.attachment id := by
  induction l generalizing h with
  | nil => rfl
  | cons a l ih => rw [List.foldl_cons, ih, hf]

@[simp]
theorem attachment_sweepExpired (now : Timestamp) :
    (sweepExpired now h).attachment id = h.attachment id := by
  unfold sweepExpired
  split
  · rfl
  · exact attachment_foldl _ (fun _ _ => attachment_forget) _ h

@[simp]
theorem attachment_publishToUsers (users : List Uuid) (event : DispatchEvent) :
    (publishToUsers users event h).attachment id = h.attachment id := by
  refine attachment_foldl _ (fun h user => attachment_foldl _ (fun h' id' => ?_) _ h) users h
  split
  · exact attachment_dispatch event
  · rfl

@[simp]
theorem attachment_broadcastReconnect :
    (broadcastReconnect h).attachment id = h.attachment id :=
  attachment_foldl _ (fun _ _ => attachment_sendText _) _ h

end Attachment

/-! ## What leaves the registry -/

@[simp]
theorem call_registry (id : Uuid) (f : Session → Session)
    (sends : Session → List Delivery) (h : Hub) :
    (call id f sends h).registry = h.registry := by
  unfold call
  split
  · rfl
  · rfl

/-- One turn of the eviction loop: the session leaves the registry, and is
disconnected if it was in it. -/
theorem evict_spec (now : Timestamp) (h : Hub) (oldest id : Uuid) :
    (id ∈ (evict now h oldest).registry.sessions ↔
        id ∈ h.registry.sessions ∧ id ≠ oldest) ∧
      (evict now h oldest).attachment id =
        if id ∈ h.registry.sessions ∧ id = oldest then
          (h.attachment id).map fun _ => (false, none)
        else
          h.attachment id := by
  unfold evict
  split
  · next hmem =>
      constructor
      · simp [disconnect, sendText]
      · rw [attachment_disconnect]
        by_cases hid : id = oldest
        · simp [hid, hmem]
          rfl
        · simp [hid]
          rfl
  · next hmem =>
      constructor
      · constructor
        · exact fun hid => ⟨hid, fun heq => hmem (heq ▸ hid)⟩
        · exact fun hid => hid.1
      · rw [if_neg]
        rintro ⟨hid, rfl⟩
        exact hmem hid

/-- The whole eviction loop. -/
theorem evictAll_spec (now : Timestamp) (l : List Uuid) (h : Hub) (id : Uuid) :
    (id ∈ (l.foldl (evict now) h).registry.sessions ↔
        id ∈ h.registry.sessions ∧ id ∉ l) ∧
      (l.foldl (evict now) h).attachment id =
        if id ∈ h.registry.sessions ∧ id ∈ l then
          (h.attachment id).map fun _ => (false, none)
        else
          h.attachment id := by
  induction l generalizing h with
  | nil => simp
  | cons oldest l ih =>
      obtain ⟨hreg, hatt⟩ := ih (evict now h oldest)
      obtain ⟨hreg', hatt'⟩ := evict_spec now h oldest id
      rw [List.foldl_cons]
      constructor
      · rw [hreg, hreg', List.mem_cons, not_or, and_assoc]
      · rw [hatt, hatt']
        by_cases hid : id = oldest
        · subst hid
          simp [hreg']
        · simp [hreg', hid]

/-- Attaching a session leaves the attachment of every other one alone, unless it
pushes it out of the registry. -/
theorem attachment_attach (now : Timestamp) (id userId : Uuid) (h : Hub) {id' : Uuid}
    (hne : id' ≠ id) :
    (attach now id userId h).attachment id' =
      if id' ∈ h.registry.sessions ∧ id' ∉ (attach now id userId h).registry.sessions then
        (h.attachment id').map fun _ => (false, none)
      else
        h.attachment id' := by
  obtain ⟨hreg, hatt⟩ := evictAll_spec now
    (popOver h.config.maxConnectionsPerUser
      ((h.registry.byUser.lookup userId).getD [] ++ [id])).1 _ id'
  have hleft : id' ∈ (attach now id userId h).registry.sessions ↔
      id' ∈ (evictOldest now id userId h).registry.sessions := by
    simp [attach, hne]
  rw [show (attach now id userId h).attachment id' =
    (evictOldest now id userId h).attachment id' from rfl]
  refine hatt.trans (if_congr ?_ rfl rfl)
  rw [hleft]
  -- a registered session leaves exactly if the loop popped it
  refine (and_congr_right fun hid => ?_)
  exact (not_iff_comm.mp (hreg.trans (and_iff_right hid)).symm).symm

theorem attachment_attach_self (now : Timestamp) (id userId : Uuid) {h : Hub}
    (hfresh : id ∉ h.registry.sessions) :
    (attach now id userId h).attachment id = h.attachment id :=
  (evictAll_spec now _ _ id).2.trans (if_neg fun hid => hfresh hid.1)

theorem mem_forget_sessions {id id' : Uuid} {h : Hub} (hid : id' ∈ h.registry.sessions)
    (hne : id' ≠ id) : id' ∈ (forget id h).registry.sessions := by
  unfold forget
  split
  · split
    · exact hid
    · simp [hid, hne]
  · exact hid

/-- The sweep keeps every session that has a socket. -/
theorem mem_sweepExpired_of_connected {now : Timestamp} {id : Uuid} {h : Hub}
    {outbox : Option Outbox} (hatt : h.attachment id = some (true, outbox))
    (hid : id ∈ h.registry.sessions) :
    id ∈ (sweepExpired now h).registry.sessions := by
  have hkept : ∀ cutoff, h.isExpired cutoff id = false := by
    intro cutoff
    obtain ⟨s, hs, hsome⟩ := Option.map_eq_some_iff.mp hatt
    simp [isExpired, hs, (Prod.mk.inj hsome).1]
  have hloop : ∀ (l : List Uuid) (h : Hub), id ∉ l → id ∈ h.registry.sessions →
      id ∈ (l.foldl (fun h id => forget id h) h).registry.sessions := by
    intro l
    induction l with
    | nil => exact fun h _ hid => hid
    | cons a l ih =>
        intro h hnot hid
        rw [List.mem_cons, not_or] at hnot
        exact ih (forget a h) hnot.2 (mem_forget_sessions hid hnot.1)
  unfold sweepExpired
  split
  · exact hid
  · refine hloop _ h ?_ hid
    rw [List.mem_filter, hkept]
    exact fun hmem => Bool.false_ne_true hmem.2

end Hub

end Gateway
end Ldktela
