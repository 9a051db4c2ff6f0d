import Ldktela.Gateway.Connections
import Ldktela.Gateway.Registered

/-!
# Whether publishers reach a resumed session

`Connection::resume` of `crates/api/src/gateway/mod.rs`, with the registry calls of
`crates/api/src/gateway/hub.rs` between any two of its steps.  `resumable` hands out the session
under the lock of the registry, and `reconnect` revives it after the lock is gone: what removed
the session in between has no effect on the revival, and the revived session is in no list that
a publisher reads.

The flag of `Phase.serving` is kept for the statements only: the connection came by a resume
that was completed, and the session was neither evicted nor forgotten since.
-/

namespace Ldktela
namespace Gateway

open Protocol
open Runs

namespace Hub

/-! ## What leaves the registry alone -/

section Frame

variable {h h' : Hub} {id id' : Uuid}

theorem userOf_dispatch (event : DispatchEvent) :
    (dispatch id event h).userOf id' = h.userOf id' :=
  userOf_call (fun s => s.dispatch_userId event) _

theorem userOf_sendText (frame : OutFrame) :
    (sendText id frame h).userOf id' = h.userOf id' :=
  userOf_call (f := fun s => s) (fun _ => rfl) _

/-- The registry, the limits and the users are what they were. -/
structure SameIndex (h h' : Hub) : Prop where
  registry : h'.registry = h.registry
  config : h'.config = h.config
  user : ∀ id, h'.userOf id = h.userOf id

theorem SameIndex.refl (h : Hub) : SameIndex h h := ⟨rfl, rfl, fun _ => rfl⟩

theorem sameIndex_dispatch (id : Uuid) (event : DispatchEvent) (h : Hub) :
    SameIndex h (dispatch id event h) :=
  ⟨call_registry _ _ _ _, call_config _ _, fun _ => userOf_dispatch event⟩

theorem sameIndex_sendText (id : Uuid) (frame : OutFrame) (h : Hub) :
    SameIndex h (sendText id frame h) :=
  ⟨call_registry _ _ _ _, call_config _ _, fun _ => userOf_sendText frame⟩

theorem sameIndex_disconnect (now : Timestamp) (id : Uuid) (h : Hub) :
    SameIndex h (disconnect now id h) :=
  ⟨call_registry _ _ _ _, call_config _ _, fun _ => userOf_disconnect now⟩

theorem sameIndex_reconnect (outbox : Outbox) (id : Uuid) (h : Hub) :
    SameIndex h (reconnect outbox id h) :=
  ⟨call_registry _ _ _ _, call_config _ _, fun _ => userOf_reconnect outbox⟩

/-- Calls repeated over a list leave the index alone when one of them does. -/
theorem sameIndex_foldl {α : Type*} {f : Hub → α → Hub} (hf : ∀ h a, SameIndex h (f h a))
    (l : List α) (h : Hub) : SameIndex h (l.foldl f h) := by
  induction l generalizing h with
  | nil => exact SameIndex.refl h
  | cons a l ih =>
      exact ⟨(ih (f h a)).registry.trans (hf h a).registry,
        (ih (f h a)).config.trans (hf h a).config,
        fun id => ((ih (f h a)).user id).trans ((hf h a).user id)⟩

theorem sameIndex_publishToUsers (users : List Uuid) (event : DispatchEvent) (h : Hub) :
    SameIndex h (publishToUsers users event h) := by
  refine sameIndex_foldl (fun h user => sameIndex_foldl (fun h' id => ?_) _ h) users h
  split
  · exact sameIndex_dispatch id event h'
  · exact SameIndex.refl h'

theorem sameIndex_broadcastReconnect (h : Hub) : SameIndex h (broadcastReconnect h) :=
  sameIndex_foldl (fun h id => sameIndex_sendText id _ h) _ h

/-- The registry after an eviction is a matter of the registry before. -/
theorem evict_registry (now : Timestamp) (h : Hub) (oldest : Uuid) :
    (evict now h oldest).registry =
      { h.registry with sessions := h.registry.sessions.filter (· ≠ oldest) } := by
  unfold evict
  split
  · rw [disconnect, call_registry, sendText, call_registry]
  · next hout =>
    rw [List.filter_eq_self.mpr]
    exact fun id hid => decide_eq_true fun heq => hout (heq ▸ hid)

theorem evictAll_registry (now : Timestamp) (l : List Uuid) {h h' : Hub}
    (hsame : h'.registry = h.registry) :
    (l.foldl (evict now) h').registry = (l.foldl (evict now) h).registry := by
  induction l generalizing h h' with
  | nil => exact hsame
  | cons oldest l ih =>
      refine ih ?_
      rw [evict_registry, evict_registry, hsame]

theorem SameIndex.evictAll (hsame : SameIndex h h') (now : Timestamp) (l : List Uuid) :
    SameIndex (l.foldl (evict now) h) (l.foldl (evict now) h') := by
  obtain ⟨-, hconfig, huser⟩ := evictAll_frame now l h
  obtain ⟨-, hconfig', huser'⟩ := evictAll_frame now l h'
  refine ⟨evictAll_registry now l hsame.registry, ?_, fun id => ?_⟩
  · exact hconfig'.trans (hsame.config.trans hconfig.symm)
  · exact (huser' id).trans ((hsame.user id).trans (huser id).symm)

theorem SameIndex.attach (hsame : SameIndex h h') (now : Timestamp) (id userId : Uuid) :
    SameIndex (Hub.attach now id userId h) (Hub.attach now id userId h') := by
  obtain ⟨gone, kept, hpopped⟩ : ∃ gone kept, popOver h.config.maxConnectionsPerUser
      ((h.registry.byUser.lookup userId).getD [] ++ [id]) = (gone, kept) := ⟨_, _, rfl⟩
  have hpopped' : popOver h'.config.maxConnectionsPerUser
      ((h'.registry.byUser.lookup userId).getD [] ++ [id]) = (gone, kept) := by
    rw [hsame.registry, hsame.config, hpopped]
  have hevicted : SameIndex (evictOldest now id userId h) (evictOldest now id userId h') := by
    rw [evictOldest_eq hpopped, evictOldest_eq hpopped']
    let rest (h : Hub) : Hub :=
      { h with registry := { h.registry with byUser := h.registry.byUser.insert userId kept } }
    have hrest : SameIndex (rest h) (rest h') := by
      refine ⟨?_, hsame.config, hsame.user⟩
      exact congrArg (fun r : Registry => { r with byUser := r.byUser.insert userId kept })
        hsame.registry
    exact hrest.evictAll now gone
  refine ⟨?_, hevicted.config, hevicted.user⟩
  rw [Hub.attach, Hub.attach, hevicted.registry]

end Frame

/-! ## One user is published to -/

/-- The loop over the sessions of a user. -/
theorem lookup_dispatchAll (event : DispatchEvent) (registered : List Uuid) (l : List Uuid)
    (hnodup : l.Nodup) (h : Hub) (id : Uuid) :
    (l.foldl (fun h' id => if id ∈ registered then dispatch id event h' else h') h).objects.lookup
        id =
      if id ∈ l ∧ id ∈ registered then (h.objects.lookup id).map (Session.dispatch event)
      else h.objects.lookup id := by
  induction l generalizing h with
  | nil => simp
  | cons first l ih =>
      obtain ⟨hnew, hrest⟩ := List.nodup_cons.mp hnodup
      have hstep : (if first ∈ registered then dispatch first event h else h).objects.lookup id =
          if id = first ∧ id ∈ registered then (h.objects.lookup id).map (Session.dispatch event)
          else h.objects.lookup id := by
        by_cases hreg : first ∈ registered
        · rw [if_pos hreg, dispatch, call]
          by_cases heq : id = first
          · subst heq
            rw [if_pos ⟨rfl, hreg⟩]
            cases hs : h.objects.lookup id with
            | none => simp [hs]
            | some s => simp
          · rw [if_neg fun hboth => heq hboth.1]
            cases hs : h.objects.lookup first with
            | none => rfl
            | some s => exact AList.lookup_insert_ne heq
        · rw [if_neg hreg, if_neg]
          rintro ⟨rfl, hid⟩
          exact hreg hid
      rw [List.foldl_cons, ih hrest, hstep]
      by_cases heq : id = first
      · subst heq
        simp [hnew]
      · simp [heq]

end Hub

/-- A listed session gets the dispatch once. -/
theorem Registered.World.Indexed.dispatched {w : Registered.World} (h : w.Indexed) {id u : Uuid}
    (hid : id ∈ w.sessions) (hu : w.hub.userOf id = some u) (event : DispatchEvent) :
    (Hub.publishToUsers [u] event w.hub).objects.lookup id =
      (w.hub.objects.lookup id).map (Session.dispatch event) := by
  have hin : id ∈ w.listed u :=
    Registered.World.mem_listed.mpr ⟨h.registered id hid, hid, hu⟩
  have howned : w.hub.registry.byUser.lookup u = some (w.listed u) :=
    h.owned_eq_some_iff.mpr ⟨rfl, List.ne_nil_of_mem hin⟩
  change (Hub.publishToUser event w.hub u).objects.lookup id = _
  rw [Hub.publishToUser, howned]
  refine (Hub.lookup_dispatchAll event _ _ h.nodup_listed _ id).trans ?_
  exact if_pos ⟨hin, hid⟩

namespace Reachable

/-- How far the task of a connection has come. -/
inductive Phase where
  | idle
  /-- `resumable` answered with the session. -/
  | located (id : Uuid) (lastSeq : Nat)
  /-- The gap is too wide: the session is to be forgotten. -/
  | refused (id : Uuid)
  /-- `replay_after` answered with the missed frames. -/
  | replayed (id : Uuid) (missed : List DispatchFrame)
  /-- The outbox is attached; `rest` is still to be sent. -/
  | sending (id : Uuid) (rest : List DispatchFrame) (missed : Nat)
  /-- The connection has its session. -/
  | serving (id : Uuid) (resumed : Bool)
  | closed

def Phase.isIdle : Phase → Bool
  | .idle => true
  | _ => false

/-- The session to which missed frames are being sent. -/
def Phase.target : Phase → Option Uuid
  | .sending id _ _ => some id
  | _ => none

/-- The session that a connection was told to forget. -/
def Phase.refusal : Phase → Option Uuid
  | .refused id => some id
  | _ => none

/-- The session that a resume is about to revive. -/
def Phase.pending : Phase → Option Uuid
  | .replayed id _ => some id
  | _ => none

/-- The session that a connection serves. -/
def Phase.served : Phase → Option Uuid
  | .serving id _ => some id
  | _ => none

/-- The session whose outbox a resume has made its own. -/
def Phase.revived : Phase → Option Uuid
  | .sending id _ _ => some id
  | .serving id true => some id
  | _ => none

structure World where
  now : Timestamp
  hub : Hub
  /-- Every session that was ever attached, in that order. -/
  attached : List Uuid
  connections : Table Outbox Phase

inductive Act where
  | accept (c : Outbox)
  | identify (c : Outbox) (id userId : Uuid) (ready : Ready)
  /-- A `RESUME` comes in: `resumable`. -/
  | lookup (c : Outbox) (userId sessionId : Uuid) (lastSeq : Nat)
  /-- `replay_after`. -/
  | replay (c : Outbox)
  /-- `forget`, after a refusal. -/
  | forget (c : Outbox)
  | reconnect (c : Outbox)
  /-- The next missed frame, or `RESUMED` when all of them are sent. -/
  | send (c : Outbox)
  /-- The serve loop ends. -/
  | finish (c : Outbox)
  | publish (users : List Uuid) (event : DispatchEvent)
  | sweep
  | shutdown
  | tick (ms : Nat)

namespace World

def init (config : GatewayConfig) : World := ⟨0, Hub.new config, [], ∅⟩

def registry (w : World) : Registered.World := ⟨w.hub, w.attached⟩

/-- The flags that are left when the registry loses sessions to an eviction or a forget. -/
def unflag (before after : Hub) (connections : Table Outbox Phase) : Table Outbox Phase :=
  connections.mapVal fun _ phase =>
    match phase with
    | .serving id resumed =>
        .serving id (resumed &&
          !(decide (id ∈ before.registry.sessions) && decide (id ∉ after.registry.sessions)))
    | phase => phase

def accept (c : Outbox) (w : World) : World :=
  if c ∈ w.connections then w else { w with connections := w.connections.insert c .idle }

/-- `create_session`, READY and `attach`. -/
def identify (c : Outbox) (id userId : Uuid) (ready : Ready) (w : World) : World :=
  match w.connections.lookup c with
  | some .idle =>
      if id ∈ w.hub.objects then
        w
      else
        let hub := Hub.attach w.now id userId
          (Hub.dispatch id (.ready ready) (Hub.createSession id userId c w.hub))
        { w with
          hub := hub
          attached := w.attached ++ [id]
          connections := (unflag w.hub hub w.connections).insert c (.serving id false) }
  | _ => w

def lookup (c : Outbox) (userId sessionId : Uuid) (lastSeq : Nat) (w : World) : World :=
  match w.connections.lookup c with
  | some .idle =>
      match w.hub.resumable sessionId userId with
      | none => { w with hub := Hub.queue c (.invalidSession false) w.hub }
      | some _ => { w with connections := w.connections.insert c (.located sessionId lastSeq) }
  | _ => w

def replay (c : Outbox) (w : World) : World :=
  match w.connections.lookup c with
  | some (.located id lastSeq) =>
      match (w.hub.objects.lookup id).bind fun s => s.replayAfter lastSeq with
      | none => { w with connections := w.connections.insert c (.refused id) }
      | some missed => { w with connections := w.connections.insert c (.replayed id missed) }
  | _ => w

def forget (c : Outbox) (w : World) : World :=
  match w.connections.lookup c with
  | some (.refused id) =>
      let hub := Hub.forget id w.hub
      { w with
        hub := Hub.queue c (.invalidSession false) hub
        connections := (unflag w.hub hub w.connections).insert c .idle }
  | _ => w

def reconnect (c : Outbox) (w : World) : World :=
  match w.connections.lookup c with
  | some (.replayed id missed) =>
      { w with
        hub := Hub.reconnect c id w.hub
        connections := w.connections.insert c (.sending id missed missed.length) }
  | _ => w

def send (c : Outbox) (w : World) : World :=
  match w.connections.lookup c with
  | some (.sending id (frame :: rest) missed) =>
      { w with
        hub := Hub.sendText id (.dispatch frame) w.hub
        connections := w.connections.insert c (.sending id rest missed) }
  | some (.sending id [] missed) =>
      { w with
        hub := Hub.dispatch id (.resumed ⟨missed.toUInt32⟩) w.hub
        connections := w.connections.insert c (.serving id true) }
  | _ => w

/-- The end of `serve`.  A task inside `resume` is not at the end of its loop. -/
def finish (c : Outbox) (w : World) : World :=
  match w.connections.lookup c with
  | some .idle => { w with connections := w.connections.insert c .closed }
  | some (.serving id _) =>
      { w with
        hub := Hub.disconnect w.now id w.hub
        connections := w.connections.insert c .closed }
  | _ => w

def step (w : World) : Act → World
  | .accept c => accept c w
  | .identify c id userId ready => identify c id userId ready w
  | .lookup c userId sessionId lastSeq => lookup c userId sessionId lastSeq w
  | .replay c => replay c w
  | .forget c => forget c w
  | .reconnect c => reconnect c w
  | .send c => send c w
  | .finish c => finish c w
  | .publish users event => { w with hub := Hub.publishToUsers users event w.hub }
  | .sweep => { w with hub := Hub.sweepExpired w.now w.hub }
  | .shutdown => { w with hub := Hub.broadcastReconnect w.hub }
  | .tick ms => { w with now := w.now + ms }

/-! ## The property -/

/-- The session is in the registry, and a publication to its user is dispatched to it. -/
structure Reached (w : World) (id : Uuid) : Prop where
  registered : id ∈ w.hub.registry.sessions
  dispatched : ∃ u, w.hub.userOf id = some u ∧ ∀ event,
    (Hub.publishToUsers [u] event w.hub).objects.lookup id =
      (w.hub.objects.lookup id).map (Session.dispatch event)

/-- Publishers reach every session that an open connection resumed, unless it was evicted or
forgotten since. -/
def AllReached (w : World) : Prop :=
  ∀ c id, w.connections.lookup c = some (.serving id true) → w.Reached id

/-- What the task of a connection has to do with a session. -/
def sessionOf (w : World) (part : Phase → Option Uuid) (c : Outbox) : Option Uuid :=
  (w.connections.lookup c).bind part

/-- The sessions of a user that one more puts over the limit. -/
def overLimit (w : World) (userId : Uuid) : List Uuid :=
  let owned := (w.hub.registry.byUser.lookup userId).getD []
  owned.take (owned.length + 1 - w.hub.config.maxConnectionsPerUser)

/-- A resume revives a session only while it is registered, and the session is neither evicted
nor forgotten while the missed frames are sent.  No serve loop ends on a session that another
open connection has resumed. -/
def Undisturbed (w : World) : Act → Prop
  | .reconnect c => ∀ id ∈ w.sessionOf Phase.pending c, id ∈ w.hub.registry.sessions
  | .identify c id userId _ => (w.connections.lookup c).any Phase.isIdle = true →
      id ∉ w.hub.objects → ∀ c' ∈ w.connections.keys, ∀ id' ∈ w.sessionOf Phase.target c',
        id' ∉ w.overLimit userId
  | .forget c => ∀ id ∈ w.sessionOf Phase.refusal c, ∀ c' ∈ w.connections.keys,
      w.sessionOf Phase.target c' ≠ some id
  | .finish c => ∀ id ∈ w.sessionOf Phase.served c, ∀ c' ∈ w.connections.keys, c' ≠ c →
      w.sessionOf Phase.revived c' ≠ some id
  | _ => True

/-! ## The invariant -/

/-- A session with a connection, in the registry. -/
structure Held (w : World) (id : Uuid) : Prop where
  registered : id ∈ w.hub.registry.sessions
  connected : ∃ outbox, w.hub.attachment id = some (true, outbox)

structure Sound (w : World) : Prop where
  indexed : w.registry.Indexed
  limit : 1 ≤ w.hub.config.maxConnectionsPerUser
  held : ∀ c id, w.sessionOf Phase.revived c = some id → w.Held id

section Steps

variable {w w' : World} {c c' : Outbox} {id id' : Uuid} {phase : Phase}
  {part : Phase → Option Uuid}

theorem mem_keys_of_sessionOf (h : w.sessionOf part c = some id) : c ∈ w.connections.keys := by
  obtain ⟨phase, hphase, -⟩ := Option.bind_eq_some_iff.mp h
  exact AList.mem_keys.mp (AList.lookup_isSome.mp (Option.isSome_of_eq_some hphase))

theorem sessionOf_insert (connections : Table Outbox Phase)
    (hconns : w'.connections = connections.insert c phase) :
    w'.sessionOf part c' = if c' = c then part phase else (connections.lookup c').bind part := by
  unfold sessionOf
  rw [hconns, AList.lookup_insert_ite]
  split
  · rfl
  · rfl

/-- A session that is still flagged is either being sent to, or was kept. -/
theorem revived_unflag {before after : Hub} {connections : Table Outbox Phase}
    (h : ((unflag before after connections).lookup c).bind Phase.revived = some id) :
    (connections.lookup c).bind Phase.revived = some id ∧
      ((connections.lookup c).bind Phase.target = some id ∨
        (id ∈ before.registry.sessions → id ∈ after.registry.sessions)) := by
  rw [unflag, AList.lookup_mapVal] at h
  cases hphase : connections.lookup c with
  | none =>
      rw [hphase] at h
      cases h
  | some phase =>
      rw [hphase] at h
      cases phase with
      | serving id' resumed =>
          cases resumed with
          | false => cases h
          | true =>
              change (Phase.serving id' (true && _)).revived = some id at h
              rw [Bool.true_and] at h
              -- the flag goes exactly when the session was there and is no more
              cases hleft : (decide (id' ∈ before.registry.sessions) &&
                  decide (id' ∉ after.registry.sessions)) with
              | true =>
                  rw [hleft] at h
                  cases h
              | false =>
                  rw [hleft] at h
                  cases h
                  refine ⟨rfl, .inr fun hbefore => ?_⟩
                  by_contra hafter
                  simp [hbefore, hafter] at hleft
      | sending id' rest missed =>
          cases h
          exact ⟨rfl, .inl rfl⟩
      | idle => cases h
      | located id' lastSeq => cases h
      | refused id' => cases h
      | replayed id' missed => cases h
      | closed => cases h

/-- What keeps the registry and every attachment. -/
theorem Sound.frame (h : w.Sound) (hattached : w'.attached = w.attached)
    (hsame : Hub.SameIndex w.hub w'.hub)
    (hatt : ∀ c id, w'.sessionOf Phase.revived c = some id →
      w.sessionOf Phase.revived c = some id ∧ w'.hub.attachment id = w.hub.attachment id) :
    w'.Sound where
  indexed := by
    rw [registry, hattached]
    exact h.indexed.frame hsame.registry hsame.config hsame.user
  limit := hsame.config.symm ▸ h.limit
  held c id hrevived := by
    obtain ⟨hold, hatt'⟩ := hatt c id hrevived
    obtain ⟨hin, outbox, hconnected⟩ := h.held c id hold
    exact ⟨hsame.registry.symm ▸ hin, outbox, hatt'.trans hconnected⟩

theorem Sound.exists_object (h : w.Sound) (hid : id ∈ w.hub.registry.sessions) :
    ∃ s, w.hub.objects.lookup id = some s :=
  Option.isSome_iff_exists.mp
    (AList.lookup_isSome.mpr (h.indexed.created id (h.indexed.registered id hid)))

/-- A connection moves on, and revives nothing. -/
theorem Sound.moved (h : w.Sound) (c : Outbox) (phase : Phase)
    (hattached : w'.attached = w.attached) (hsame : Hub.SameIndex w.hub w'.hub)
    (hatt : ∀ id, w'.hub.attachment id = w.hub.attachment id)
    (hconns : w'.connections = w.connections.insert c phase)
    (hphase : ∀ id, phase.revived = some id → w.sessionOf Phase.revived c = some id) :
    w'.Sound := by
  refine h.frame hattached hsame fun c' id hrevived => ⟨?_, hatt id⟩
  rw [sessionOf_insert _ hconns] at hrevived
  split at hrevived
  · next heq =>
    rw [heq]
    exact hphase id hrevived
  · exact hrevived

theorem Sound.accept (h : w.Sound) (c : Outbox) : (w.accept c).Sound := by
  unfold World.accept
  split
  · exact h
  · exact h.moved c .idle rfl (.refl _) (fun _ => rfl) rfl
      (fun _ hrevived => by cases hrevived)

theorem Sound.lookup (h : w.Sound) (c : Outbox) (userId sessionId : Uuid) (lastSeq : Nat) :
    (w.lookup c userId sessionId lastSeq).Sound := by
  unfold World.lookup
  split
  · split
    · exact h.frame rfl ⟨rfl, rfl, fun _ => rfl⟩ fun _ _ hrevived => ⟨hrevived, rfl⟩
    · exact h.moved c (.located sessionId lastSeq) rfl (.refl _) (fun _ => rfl)
        rfl (fun _ hrevived => by cases hrevived)
  · exact h

theorem Sound.replay (h : w.Sound) (c : Outbox) : (w.replay c).Sound := by
  unfold World.replay
  split
  · next id lastSeq hphase =>
    split
    · exact h.moved c (.refused id) rfl (.refl _) (fun _ => rfl) rfl
        (fun _ hrevived => by cases hrevived)
    · next missed hmissed =>
      exact h.moved c (.replayed id missed) rfl (.refl _) (fun _ => rfl)
        rfl (fun _ hrevived => by cases hrevived)
  · exact h

theorem Sound.forget (h : w.Sound) (c : Outbox) (hkept : w.Undisturbed (.forget c)) :
    (w.forget c).Sound := by
  unfold World.forget
  split
  · next id hphase =>
    have hrefusal : w.sessionOf Phase.refusal c = some id := by
      rw [sessionOf, hphase]
      rfl
    refine ⟨(h.indexed.without id).frame rfl rfl fun _ => rfl, ?_, fun c' id' hrevived => ?_⟩
    · exact (Hub.forget_frame id w.hub).2.symm ▸ h.limit
    · rw [sessionOf_insert _ rfl] at hrevived
      split at hrevived
      · cases hrevived
      · obtain ⟨hold, htarget | hstays⟩ := revived_unflag hrevived
        · obtain ⟨hin, outbox, hconnected⟩ := h.held c' id' hold
          have hne : id' ≠ id := by
            rintro rfl
            exact hkept id' hrefusal c' (mem_keys_of_sessionOf htarget) htarget
          exact ⟨Hub.mem_forget_sessions hin hne, outbox, Hub.attachment_forget.trans hconnected⟩
        · obtain ⟨hin, outbox, hconnected⟩ := h.held c' id' hold
          exact ⟨hstays hin, outbox, Hub.attachment_forget.trans hconnected⟩
  · exact h

theorem Sound.reconnect (h : w.Sound) (c : Outbox) (hin : w.Undisturbed (.reconnect c)) :
    (w.reconnect c).Sound := by
  unfold World.reconnect
  split
  · next id missed hphase =>
    have hid : id ∈ w.hub.registry.sessions := by
      refine hin id ?_
      rw [sessionOf, hphase]
      rfl
    have hsame := Hub.sameIndex_reconnect c id w.hub
    refine ⟨h.indexed.frame hsame.registry hsame.config hsame.user, ?_, fun c' id' hrevived => ?_⟩
    · exact hsame.config.symm ▸ h.limit
    · rw [sessionOf_insert w.connections rfl] at hrevived
      split at hrevived
      · obtain rfl : id = id' := Option.some.inj hrevived
        obtain ⟨s, hs⟩ := h.exists_object hid
        refine ⟨hsame.registry.symm ▸ hid, some c, ?_⟩
        rw [Hub.attachment_reconnect, if_pos rfl, Hub.attachment, hs]
        rfl
      · obtain ⟨hregistered, outbox, hconnected⟩ := h.held c' id' hrevived
        refine ⟨hsame.registry.symm ▸ hregistered, ?_⟩
        rw [Hub.attachment_reconnect, hconnected]
        split
        · exact ⟨some c, rfl⟩
        · exact ⟨outbox, rfl⟩
  · exact h

theorem Sound.send (h : w.Sound) (c : Outbox) : (w.send c).Sound := by
  unfold World.send
  split
  · next id frame rest missed hphase =>
    refine h.moved c (.sending id rest missed) rfl
      (Hub.sameIndex_sendText id _ w.hub) (fun _ => Hub.attachment_sendText _) rfl
      fun id' hrevived => ?_
    rw [sessionOf, hphase]
    exact hrevived
  · next id missed hphase =>
    refine h.moved c (.serving id true) rfl
      (Hub.sameIndex_dispatch id _ w.hub) (fun _ => Hub.attachment_dispatch _) rfl
      fun id' hrevived => ?_
    rw [sessionOf, hphase]
    exact hrevived
  · exact h

theorem Sound.finish (h : w.Sound) (c : Outbox) (hown : w.Undisturbed (.finish c)) :
    (w.finish c).Sound := by
  unfold World.finish
  split
  · exact h.moved c .closed rfl (.refl _) (fun _ => rfl) rfl
      (fun _ hrevived => by cases hrevived)
  · next id resumed hphase =>
    refine h.frame rfl (Hub.sameIndex_disconnect w.now id w.hub) fun c' id' hrevived => ?_
    rw [sessionOf_insert w.connections rfl] at hrevived
    split at hrevived
    · cases hrevived
    · next hother =>
      refine ⟨hrevived, ?_⟩
      rw [Hub.attachment_disconnect, if_neg]
      rintro rfl
      have hserved : w.sessionOf Phase.served c = some id' := by
        rw [sessionOf, hphase]
        rfl
      exact hown id' hserved c' (mem_keys_of_sessionOf hrevived) hother hrevived
  · exact h

theorem Sound.sweep (h : w.Sound) : (step w .sweep).Sound where
  indexed := by
    have hindexed := h.indexed.sweep w.now
    rw [Registered.World.step, Hub.sweep_fst] at hindexed
    exact hindexed
  limit := (Hub.sweepExpired_frame w.now w.hub).2.symm ▸ h.limit
  held c id hrevived := by
    obtain ⟨hin, outbox, hconnected⟩ := h.held c id hrevived
    exact ⟨Hub.mem_sweepExpired_of_connected hconnected hin, outbox,
      (Hub.attachment_sweepExpired w.now).trans hconnected⟩

theorem Sound.identify (h : w.Sound) (c : Outbox) (id userId : Uuid) (ready : Ready)
    (hkept : w.Undisturbed (.identify c id userId ready)) :
    (w.identify c id userId ready).Sound := by
  unfold World.identify
  split
  · next hphase =>
    split
    · exact h
    · next hfresh =>
      have hover : w.overLimit userId =
          (w.registry.listed userId).take (w.registry.excess userId) := by
        have howned : w.hub.registry.byUser.lookup userId =
            Registered.World.entry (w.registry.listed userId) := h.indexed.owned_eq userId
        rw [overLimit, howned, Registered.World.getD_entry]
        rfl
      have hidle : (w.connections.lookup c).any Phase.isIdle = true := by
        rw [hphase]
        rfl
      have hsame := (Hub.sameIndex_dispatch id (.ready ready)
        (Hub.createSession id userId c w.hub)).attach w.now id userId
      have hindexed := h.indexed.attach w.now userId c h.limit hfresh
      obtain ⟨hconfig, -, -, hsessions⟩ := h.indexed.attach_hub w.now userId c h.limit hfresh
      refine ⟨hindexed.frame hsame.registry hsame.config hsame.user, ?_,
        fun c' id' hrevived => ?_⟩
      · exact (hsame.config.trans hconfig).symm ▸ h.limit
      · rw [sessionOf_insert _ rfl] at hrevived
        split at hrevived
        · cases hrevived
        · obtain ⟨hold, hreason⟩ := revived_unflag hrevived
          obtain ⟨hin, outbox, hconnected⟩ := h.held c' id' hold
          -- a session that is being resumed was created before, so it is not the new one
          have hne : id' ≠ id := fun heq =>
            hfresh (heq ▸ h.indexed.created id' (h.indexed.registered id' hin))
          have hstays : id' ∈ (Hub.attach w.now id userId (Hub.dispatch id (.ready ready)
              (Hub.createSession id userId c w.hub))).registry.sessions := by
            rcases hreason with htarget | hstays
            · rw [hsame.registry]
              refine (hsessions id').mpr (.inr ⟨hin, ?_⟩)
              rw [← hover]
              exact hkept hidle hfresh c' (mem_keys_of_sessionOf htarget) id' htarget
            · exact hstays hin
          refine ⟨hstays, outbox, ?_⟩
          rw [Hub.attachment_attach w.now id userId _ hne, if_neg fun hboth => hboth.2 hstays,
            Hub.attachment_dispatch, Hub.attachment_createSession, if_neg hne, hconnected]
  · exact h

theorem Sound.step (h : w.Sound) (a : Act) (hundisturbed : w.Undisturbed a) :
    (step w a).Sound := by
  cases a with
  | accept c => exact h.accept c
  | identify c id userId ready => exact h.identify c id userId ready hundisturbed
  | lookup c userId sessionId lastSeq => exact h.lookup c userId sessionId lastSeq
  | replay c => exact h.replay c
  | forget c => exact h.forget c hundisturbed
  | reconnect c => exact h.reconnect c hundisturbed
  | send c => exact h.send c
  | finish c => exact h.finish c hundisturbed
  | publish users event =>
      exact h.frame rfl (Hub.sameIndex_publishToUsers users event w.hub)
        fun _ _ hrevived => ⟨hrevived, Hub.attachment_publishToUsers users event⟩
  | sweep => exact h.sweep
  | shutdown =>
      exact h.frame rfl (Hub.sameIndex_broadcastReconnect w.hub)
        fun _ _ hrevived => ⟨hrevived, Hub.attachment_broadcastReconnect⟩
  | tick ms => exact h.frame rfl (.refl _) fun _ _ hrevived => ⟨hrevived, rfl⟩

theorem sound_init {config : GatewayConfig} (hmax : 1 ≤ config.maxConnectionsPerUser) :
    (init config).Sound :=
  ⟨Registered.World.indexed_init config, hmax, fun _ _ hrevived => by cases hrevived⟩

theorem Sound.reached (h : w.Sound) (hid : id ∈ w.hub.registry.sessions) : w.Reached id := by
  obtain ⟨s, hs⟩ := h.exists_object hid
  have huser : w.hub.userOf id = some s.userId := by
    rw [Hub.userOf, hs]
    rfl
  exact ⟨hid, s.userId, huser, fun event => h.indexed.dispatched hid huser event⟩

theorem Sound.allReached (h : w.Sound) : w.AllReached := by
  intro c id hphase
  refine h.reached (h.held c id ?_).registered
  rw [sessionOf, hphase]
  rfl

end Steps

/-! ## Every run -/

/-- Publishers reach the resumed sessions as long as no resume is overtaken and no serve loop
ends on a session of another connection. -/
theorem resumed_reached (config : GatewayConfig) (hmax : 1 ≤ config.maxConnectionsPerUser)
    (acts : List Act) (hundisturbed : EachStep step Undisturbed (init config) acts) :
    Throughout step AllReached (init config) acts :=
  (throughout_of_eachStep (fun _ a h hok => h.step a hok) (sound_init hmax) hundisturbed).mono
    fun _ h => h.allReached

instance decidableUndisturbed (w : World) : ∀ a, Decidable (w.Undisturbed a)
  | .reconnect c => inferInstanceAs
      (Decidable (∀ id ∈ w.sessionOf Phase.pending c, id ∈ w.hub.registry.sessions))
  | .identify c id userId _ => inferInstanceAs
      (Decidable ((w.connections.lookup c).any Phase.isIdle = true → id ∉ w.hub.objects →
        ∀ c' ∈ w.connections.keys, ∀ id' ∈ w.sessionOf Phase.target c',
          id' ∉ w.overLimit userId))
  | .forget c => inferInstanceAs
      (Decidable (∀ id ∈ w.sessionOf Phase.refusal c, ∀ c' ∈ w.connections.keys,
        w.sessionOf Phase.target c' ≠ some id))
  | .finish c => inferInstanceAs
      (Decidable (∀ id ∈ w.sessionOf Phase.served c, ∀ c' ∈ w.connections.keys, c' ≠ c →
        w.sessionOf Phase.revived c' ≠ some id))
  | .accept _ => .isTrue trivial
  | .lookup _ _ _ _ => .isTrue trivial
  | .replay _ => .isTrue trivial
  | .send _ => .isTrue trivial
  | .publish _ _ => .isTrue trivial
  | .sweep => .isTrue trivial
  | .shutdown => .isTrue trivial
  | .tick _ => .isTrue trivial

/-- Two connections; the first one identifies. -/
def opening : List Act :=
  [.accept 1, .identify 1 7 3 ⟨7, ⟨3, 30, "ana", none, none, 0⟩, none, 30000⟩, .accept 2]

/-- The second connection resumes, and a publication comes in. -/
def resuming : List Act :=
  [.lookup 2 3 7 1, .replay 2, .reconnect 2, .send 2,
    .publish [3] (.roomLeave ⟨5, .left⟩), .tick 100000, .sweep]

theorem resumed_after_finish :
    Throughout step AllReached (init ⟨30000, 90000, 500, 4⟩)
      (opening ++ [Act.finish 1] ++ resuming) :=
  resumed_reached ⟨30000, 90000, 500, 4⟩ (by decide) (opening ++ [Act.finish 1] ++ resuming)
    (by decide)

example : (run step (init ⟨30000, 90000, 500, 4⟩)
    (opening ++ [Act.finish 1] ++ resuming)).sessionOf Phase.revived 2 = some 7 := by decide

/-- In the first run the sweep comes between the lookup and the end of the resume.  In the
second one the server notices late that the first socket is gone. -/
theorem resumed_unreached :
    ¬(run step (init ⟨30000, 90000, 500, 4⟩) (opening ++
        [Act.finish 1, .tick 90000, .lookup 2 3 7 1, .replay 2, .sweep, .reconnect 2,
          .send 2])).AllReached ∧
      ¬(run step (init ⟨30000, 90000, 500, 4⟩) (opening ++
        [Act.lookup 2 3 7 1, .replay 2, .reconnect 2, .send 2, .finish 1, .tick 90000,
          .sweep])).AllReached := by
  constructor
  · intro h
    exact absurd (h 2 7 (by rfl)).registered (by decide)
  · intro h
    exact absurd (h 2 7 (by rfl)).registered (by decide)

end World
end Reachable

end Gateway
end Ldktela
