import Ldktela.Api.Integers
import Ldktela.Gateway.Hub
import Ldktela.Lib.Runs

/-!
# The two maps of the session registry

`attach`, `forget` and `sweep_expired` of `crates/api/src/gateway/hub.rs` keep `sessions` and
`by_user` by hand.  `World.Indexed` says in one equation what `by_user` is: for each user the
registered sessions of theirs, in the order in which they were attached, and no entry where
there are none.

The maps agree in every run.  What the sweep removes depends on the TTL: the cast of
`session_ttl_ms` makes half of its values negative, and a long one leaves no moment to compare
with.
-/

namespace Ldktela
namespace Gateway

open Protocol
open Runs

namespace Hub

/-! ## The users of the sessions -/

/-- The user of a session object. -/
def userOf (h : Hub) (id : Uuid) : Option Uuid :=
  (h.objects.lookup id).map Session.userId

section UserOf

variable {h : Hub} {id id' : Uuid}

/-- No call changes the user of a session. -/
theorem userOf_call {f : Session → Session} (hf : ∀ s, (f s).userId = s.userId)
    (sends : Session → List Delivery) : (call id f sends h).userOf id' = h.userOf id' := by
  unfold call userOf
  cases hs : h.objects.lookup id with
  | none => rfl
  | some s =>
      dsimp only
      rw [AList.lookup_insert_ite]
      split
      · next heq => rw [heq, hs, Option.map_some, Option.map_some, hf]
      · rfl

theorem userOf_disconnect (now : Timestamp) : (disconnect now id h).userOf id' = h.userOf id' :=
  userOf_call (fun s => s.disconnect_userId now) _

theorem userOf_reconnect (outbox : Outbox) : (reconnect outbox id h).userOf id' = h.userOf id' :=
  userOf_call (fun s => s.reconnect_userId outbox) _

theorem userOf_createSession (userId : Uuid) (outbox : Outbox) :
    (createSession id userId outbox h).userOf id' =
      if id' = id then some userId else h.userOf id' := by
  unfold createSession userOf
  dsimp only
  rw [AList.lookup_insert_ite]
  split
  · rfl
  · rfl

/-- Forgetting looks at the registry only. -/
theorem forget_frame (id : Uuid) (h : Hub) :
    (forget id h).objects = h.objects ∧ (forget id h).config = h.config := by
  unfold forget
  split
  · split
    · exact ⟨rfl, rfl⟩
    · exact ⟨rfl, rfl⟩
  · exact ⟨rfl, rfl⟩

theorem forget_of_not_mem (hid : id ∉ h.registry.sessions) : forget id h = h := by
  rw [forget, if_neg hid]

theorem forget_registry {s : Session} (hid : id ∈ h.registry.sessions)
    (hs : h.objects.lookup id = some s) :
    (forget id h).registry =
      ⟨h.registry.sessions.filter (· ≠ id), unlist id s.userId h.registry.byUser⟩ := by
  rw [forget, if_pos hid, hs]

theorem userOf_forget : (forget id h).userOf id' = h.userOf id' := by
  rw [userOf, (forget_frame id h).1]
  rfl

theorem userOf_evict (now : Timestamp) : (evict now h id).userOf id' = h.userOf id' := by
  unfold evict
  split
  · rw [userOf_disconnect]
    exact userOf_call (fun _ => rfl) _
  · rfl

theorem call_config (f : Session → Session) (sends : Session → List Delivery) :
    (call id f sends h).config = h.config := by
  unfold call
  split
  · rfl
  · rfl

theorem evict_frame (id : Uuid) (h : Hub) (now : Timestamp) :
    (evict now h id).registry.byUser = h.registry.byUser ∧
      (evict now h id).config = h.config := by
  unfold evict
  split
  · simp [disconnect, sendText, call_config]
  · exact ⟨rfl, rfl⟩

/-- The eviction loop looks at the sessions only. -/
theorem evictAll_frame (now : Timestamp) (l : List Uuid) (h : Hub) :
    (l.foldl (evict now) h).registry.byUser = h.registry.byUser ∧
      (l.foldl (evict now) h).config = h.config ∧
      ∀ id, (l.foldl (evict now) h).userOf id = h.userOf id := by
  induction l generalizing h with
  | nil => exact ⟨rfl, rfl, fun _ => rfl⟩
  | cons oldest l ih =>
      obtain ⟨hbyUser, hconfig, huser⟩ := ih (evict now h oldest)
      obtain ⟨hbyUser', hconfig'⟩ := evict_frame oldest h now
      exact ⟨hbyUser.trans hbyUser', hconfig.trans hconfig',
        fun id => (huser id).trans (userOf_evict now)⟩

theorem mem_objects_iff : id ∈ h.objects ↔ (h.userOf id).isSome := by
  rw [userOf, Option.isSome_map, AList.lookup_isSome]

end UserOf

/-- The loop pops what is over the limit. -/
theorem popOver_eq (max : Nat) (l : List Uuid) :
    popOver max l = (l.take (l.length - max), l.drop (l.length - max)) := by
  induction l with
  | nil => simp [popOver]
  | cons oldest owned ih =>
      rw [popOver]
      split
      · next hover =>
        rw [List.length_cons] at hover
        rw [ih, List.length_cons, Nat.succ_sub (Nat.le_of_lt_succ hover), List.take_succ_cons,
          List.drop_succ_cons]
      · next hfits =>
        rw [Nat.sub_eq_zero_of_le (Nat.le_of_not_lt hfits)]
        rfl

theorem evictOldest_eq {now : Timestamp} {id userId : Uuid} {h : Hub} {gone kept : List Uuid}
    (hpopped : popOver h.config.maxConnectionsPerUser
      ((h.registry.byUser.lookup userId).getD [] ++ [id]) = (gone, kept)) :
    evictOldest now id userId h = gone.foldl (evict now)
      { h with
        registry := { h.registry with byUser := h.registry.byUser.insert userId kept } } := by
  unfold evictOldest
  dsimp only
  rw [hpopped]

/-! ## The sweep, with what it returns -/

/-- The user whose list loses its last session when `id` is removed. -/
def lastOf (id : Uuid) (h : Hub) : List Uuid :=
  if id ∈ h.registry.sessions then
    match h.objects.lookup id with
    | none => []
    | some s =>
        match h.registry.byUser.lookup s.userId with
        | none => []
        | some owned => if owned.filter (· ≠ id) = [] then [s.userId] else []
  else
    []

theorem lastOf_of_not_mem {h : Hub} {id : Uuid} (hid : id ∉ h.registry.sessions) :
    lastOf id h = [] := by
  rw [lastOf, if_neg hid]

theorem lastOf_of_mem {h : Hub} {id : Uuid} {s : Session} {owned : List Uuid}
    (hid : id ∈ h.registry.sessions) (hs : h.objects.lookup id = some s)
    (howned : h.registry.byUser.lookup s.userId = some owned) :
    lastOf id h = if owned.filter (· ≠ id) = [] then [s.userId] else [] := by
  rw [lastOf, if_pos hid, hs]
  dsimp only
  rw [howned]

/-- One turn of the loop of `sweep_expired`. -/
def sweepOne (swept : Hub × List Uuid) (id : Uuid) : Hub × List Uuid :=
  (forget id swept.1, swept.2 ++ lastOf id swept.1)

/-- `sweep_expired`, with the users who no longer have any session: none if it panics. -/
def sweep (now : Timestamp) (h : Hub) : Hub × Option (List Uuid) :=
  match h.cutoff now with
  | none => (h, none)
  | some cutoff =>
      let swept := (h.registry.sessions.filter (h.isExpired cutoff)).foldl sweepOne (h, [])
      (swept.1, some swept.2)

/-- The loop of the sweep looks at the registry only. -/
theorem forgetAll_frame (l : List Uuid) (h : Hub) :
    (l.foldl (fun h id => forget id h) h).objects = h.objects ∧
      (l.foldl (fun h id => forget id h) h).config = h.config := by
  induction l generalizing h with
  | nil => exact ⟨rfl, rfl⟩
  | cons id l ih =>
      obtain ⟨hobjects, hconfig⟩ := ih (forget id h)
      exact ⟨hobjects.trans (forget_frame id h).1, hconfig.trans (forget_frame id h).2⟩

theorem sweepExpired_frame (now : Timestamp) (h : Hub) :
    (sweepExpired now h).objects = h.objects ∧ (sweepExpired now h).config = h.config := by
  unfold sweepExpired
  split
  · exact ⟨rfl, rfl⟩
  · exact forgetAll_frame _ h

theorem sweepAll_fst (l : List Uuid) (swept : Hub × List Uuid) :
    (l.foldl sweepOne swept).1 = l.foldl (fun h id => forget id h) swept.1 := by
  induction l generalizing swept with
  | nil => rfl
  | cons id l ih => exact ih (sweepOne swept id)

theorem sweep_fst (now : Timestamp) (h : Hub) : (sweep now h).1 = sweepExpired now h := by
  unfold sweep sweepExpired
  cases h.cutoff now with
  | none => rfl
  | some cutoff => exact sweepAll_fst _ (h, [])

end Hub

namespace Registered

/-- The hub, and every session that was ever attached, in that order. -/
structure World where
  hub : Hub
  attached : List Uuid

inductive Act where
  /-- A new session is created and attached. -/
  | attach (now : Timestamp) (id userId : Uuid) (outbox : Outbox)
  | forget (id : Uuid)
  | disconnect (now : Timestamp) (id : Uuid)
  | reconnect (outbox : Outbox) (id : Uuid)
  | sweep (now : Timestamp)

namespace World

def init (config : GatewayConfig) : World := ⟨Hub.new config, []⟩

def attach (now : Timestamp) (id userId : Uuid) (outbox : Outbox) (w : World) : World where
  hub := Hub.attach now id userId (Hub.createSession id userId outbox w.hub)
  attached := w.attached ++ [id]

def step (w : World) : Act → World
  | .attach now id userId outbox =>
      -- ids are UUIDs that nobody has had before
      if id ∈ w.hub.objects then w else attach now id userId outbox w
  | .forget id => { w with hub := Hub.forget id w.hub }
  | .disconnect now id => { w with hub := Hub.disconnect now id w.hub }
  | .reconnect outbox id => { w with hub := Hub.reconnect outbox id w.hub }
  | .sweep now => { w with hub := (Hub.sweep now w.hub).1 }

def sessions (w : World) : List Uuid := w.hub.registry.sessions

/-- The entry of a user. -/
def owned (w : World) (u : Uuid) : Option (List Uuid) := w.hub.registry.byUser.lookup u

/-! ## The property -/

structure Consistent (w : World) : Prop where
  /-- The ids that are listed are the keys. -/
  keys : ∀ id, id ∈ w.sessions ↔ ∃ u l, w.owned u = some l ∧ id ∈ l
  own : ∀ u l, w.owned u = some l → ∀ id ∈ l, w.hub.userOf id = some u
  once : ∀ u l, w.owned u = some l → l.Nodup
  inOrder : ∀ u l, w.owned u = some l → l.Sublist w.attached
  nonempty : ∀ u l, w.owned u = some l → l ≠ []
  limit : ∀ u l, w.owned u = some l → l.length ≤ w.hub.config.maxConnectionsPerUser

/-- The socket of the session has been gone for the TTL. -/
def Expired (w : World) (now : Timestamp) (id : Uuid) : Prop :=
  ∃ s at_, w.hub.objects.lookup id = some s ∧ s.connected = false ∧
    s.disconnectedAt = some at_ ∧ at_ + w.hub.config.sessionTtlMs ≤ now

/-- What a step may take out of the registry. -/
def Removes (w : World) : Act → Prop
  | .attach now id userId outbox =>
      id ∉ w.hub.objects → ∀ id', id' ∈ (attach now id userId outbox w).sessions ↔
        id' = id ∨ id' ∈ w.sessions ∧
          -- the oldest ones of the user, as many as are over the limit
          id' ∉ ((w.owned userId).getD []).take
            (((w.owned userId).getD []).length + 1 - w.hub.config.maxConnectionsPerUser)
  | .sweep now =>
      (∀ id, id ∈ (Hub.sweep now w.hub).1.registry.sessions ↔
        id ∈ w.sessions ∧ ¬ w.Expired now id) ∧
      ∃ touched, (Hub.sweep now w.hub).2 = some touched ∧ ∀ u, u ∈ touched ↔
        (∃ id ∈ w.sessions, w.hub.userOf id = some u) ∧
          ¬∃ id ∈ (Hub.sweep now w.hub).1.registry.sessions, w.hub.userOf id = some u
  | .forget _ | .disconnect _ _ | .reconnect _ _ => True

/-- The sweep finds a moment to compare with, and takes the TTL for what it is, or there is
nothing for it to remove. -/
def Sound (w : World) : Act → Prop
  | .sweep now => ∃ cutoff ∈ w.hub.cutoff now, w.hub.config.sessionTtlMs < 2 ^ 63 ∨
      ∀ id ∈ w.sessions, w.hub.isExpired cutoff id = false
  | .attach _ _ _ _ | .forget _ | .disconnect _ _ | .reconnect _ _ => True

instance (w : World) (act : Act) : Decidable (w.Sound act) :=
  match act with
  | .sweep _ => inferInstanceAs (Decidable (∃ cutoff ∈ _, _))
  | .attach _ _ _ _ | .forget _ | .disconnect _ _ | .reconnect _ _ => .isTrue trivial

/-! ## The invariant -/

/-- A session of the user, in the registry. -/
def mine (h : Hub) (u id : Uuid) : Bool :=
  decide (id ∈ h.registry.sessions ∧ h.userOf id = some u)

/-- The registered sessions of a user, in the order of their attachment. -/
def listed (w : World) (u : Uuid) : List Uuid :=
  w.attached.filter (mine w.hub u)

/-- No entry stands for no sessions. -/
def entry : List Uuid → Option (List Uuid)
  | [] => none
  | id :: l => some (id :: l)

structure Indexed (w : World) : Prop where
  nodup : w.attached.Nodup
  created : ∀ id ∈ w.attached, id ∈ w.hub.objects
  registered : ∀ id ∈ w.sessions, id ∈ w.attached
  owned_eq : ∀ u, w.owned u = entry (w.listed u)
  limit : ∀ u, (w.listed u).length ≤ w.hub.config.maxConnectionsPerUser

section Indexed

variable {w : World} {id u : Uuid} {l : List Uuid}

theorem entry_eq_some_iff {l' : List Uuid} : entry l = some l' ↔ l = l' ∧ l ≠ [] := by
  cases l with
  | nil => simp [entry]
  | cons id l => simp [entry]

theorem entry_bind_filter (p : Uuid → Bool) (l : List Uuid) :
    ((entry l).bind fun l => entry (l.filter p)) = entry (l.filter p) := by
  cases l with
  | nil => rfl
  | cons id l => rfl

theorem getD_entry (l : List Uuid) : (entry l).getD [] = l := by
  cases l with
  | nil => rfl
  | cons id l => rfl

theorem mem_listed :
    id ∈ w.listed u ↔ id ∈ w.attached ∧ id ∈ w.sessions ∧ w.hub.userOf id = some u := by
  rw [listed, List.mem_filter, mine, decide_eq_true_eq]
  rfl

theorem Indexed.nodup_listed (h : w.Indexed) : (w.listed u).Nodup :=
  h.nodup.filter _

/-- A registered session is listed under its user. -/
theorem Indexed.exists_listed (h : w.Indexed) (hid : id ∈ w.sessions) :
    ∃ u, id ∈ w.listed u := by
  have hattached := h.registered id hid
  obtain ⟨s, hs⟩ := Option.isSome_iff_exists.mp (AList.lookup_isSome.mpr (h.created id hattached))
  refine ⟨s.userId, mem_listed.mpr ⟨hattached, hid, ?_⟩⟩
  rw [Hub.userOf, hs]
  rfl

theorem Indexed.owned_eq_some_iff (h : w.Indexed) :
    w.owned u = some l ↔ w.listed u = l ∧ w.listed u ≠ [] := by
  rw [h.owned_eq, entry_eq_some_iff]

theorem Indexed.consistent (h : w.Indexed) : w.Consistent where
  keys id := by
    constructor
    · intro hid
      obtain ⟨u, hlisted⟩ := h.exists_listed hid
      exact ⟨u, w.listed u, h.owned_eq_some_iff.mpr ⟨rfl, List.ne_nil_of_mem hlisted⟩, hlisted⟩
    · rintro ⟨u, l, howned, hid⟩
      obtain ⟨rfl, -⟩ := h.owned_eq_some_iff.mp howned
      exact (mem_listed.mp hid).2.1
  own u l howned id hid := by
    obtain ⟨rfl, -⟩ := h.owned_eq_some_iff.mp howned
    exact (mem_listed.mp hid).2.2
  once u l howned := by
    obtain ⟨rfl, -⟩ := h.owned_eq_some_iff.mp howned
    exact h.nodup_listed
  inOrder u l howned := by
    obtain ⟨rfl, -⟩ := h.owned_eq_some_iff.mp howned
    exact List.filter_sublist
  nonempty u l howned := by
    obtain ⟨rfl, hne⟩ := h.owned_eq_some_iff.mp howned
    exact hne
  limit u l howned := by
    obtain ⟨rfl, -⟩ := h.owned_eq_some_iff.mp howned
    exact h.limit u

theorem indexed_init (config : GatewayConfig) : (init config).Indexed where
  nodup := List.nodup_nil
  created _ hid := by cases hid
  registered _ hid := by cases hid
  owned_eq _ := rfl
  limit _ := Nat.zero_le _

/-! ## Calls on one session -/

/-- What leaves the registry and the users alone. -/
theorem Indexed.frame (h : w.Indexed) {hub : Hub} (hregistry : hub.registry = w.hub.registry)
    (hconfig : hub.config = w.hub.config) (huser : ∀ id, hub.userOf id = w.hub.userOf id) :
    (⟨hub, w.attached⟩ : World).Indexed := by
  have hlisted : ∀ u, (⟨hub, w.attached⟩ : World).listed u = w.listed u := by
    intro u
    refine List.filter_congr fun id' _ => ?_
    unfold mine
    rw [hregistry, huser]
  refine ⟨h.nodup, fun id' hid => ?_, fun id' hid => ?_, fun u => ?_, fun u => ?_⟩
  · rw [Hub.mem_objects_iff, huser, ← Hub.mem_objects_iff]
    exact h.created id' hid
  · refine h.registered id' ?_
    rw [sessions, ← hregistry]
    exact hid
  · rw [hlisted, ← h.owned_eq, owned, owned, hregistry]
  · rw [hlisted, hconfig]
    exact h.limit u

/-- A call on a session. -/
theorem indexed_call (h : w.Indexed) {f : Session → Session} (hf : ∀ s, (f s).userId = s.userId)
    (sends : Session → List Delivery) (id : Uuid) :
    ({ w with hub := Hub.call id f sends w.hub } : World).Indexed :=
  h.frame (Hub.call_registry id f sends w.hub) (Hub.call_config f sends)
    fun _ => Hub.userOf_call hf sends

/-! ## What is forgotten -/

/-- The index without a session of a user. -/
theorem lookup_unlist (id u u' : Uuid) (byUser : Table Uuid (List Uuid)) :
    (Hub.unlist id u byUser).lookup u' =
      if u' = u then (byUser.lookup u).bind fun l => entry (l.filter (· ≠ id))
      else byUser.lookup u' := by
  unfold Hub.unlist
  cases howned : byUser.lookup u with
  | none =>
      dsimp only
      split
      · next heq =>
        rw [heq, howned]
        rfl
      · rfl
  | some l =>
      dsimp only [Option.bind_some]
      cases hrest : l.filter (· ≠ id) with
      | nil =>
          rw [if_pos rfl, AList.lookup_erase_ite]
          rfl
      | cons first rest =>
          rw [if_neg (List.cons_ne_nil first rest), AList.lookup_insert_ite]
          rfl

/-- The world without a session. -/
def without (id : Uuid) (w : World) : World := { w with hub := Hub.forget id w.hub }

theorem Indexed.forget_registry (h : w.Indexed) (hid : id ∈ w.sessions) :
    ∃ u, w.hub.userOf id = some u ∧ (Hub.forget id w.hub).registry =
      ⟨w.sessions.filter (· ≠ id), Hub.unlist id u w.hub.registry.byUser⟩ := by
  obtain ⟨s, hs⟩ := Option.isSome_iff_exists.mp
    (AList.lookup_isSome.mpr (h.created id (h.registered id hid)))
  refine ⟨s.userId, ?_, Hub.forget_registry hid hs⟩
  rw [Hub.userOf, hs]
  rfl

theorem without_of_not_mem (hid : id ∉ w.sessions) : w.without id = w := by
  rw [without, Hub.forget_of_not_mem hid]

theorem Indexed.mem_without (h : w.Indexed) {id' : Uuid} :
    id' ∈ (w.without id).sessions ↔ id' ∈ w.sessions ∧ id' ≠ id := by
  by_cases hid : id ∈ w.sessions
  · obtain ⟨u, -, hregistry⟩ := h.forget_registry hid
    change id' ∈ (Hub.forget id w.hub).registry.sessions ↔ _
    rw [hregistry, List.mem_filter, decide_eq_true_eq]
  · rw [without_of_not_mem hid]
    exact ⟨fun hid' => ⟨hid', fun heq => hid (heq ▸ hid')⟩, fun hboth => hboth.1⟩

theorem Indexed.listed_without (h : w.Indexed) :
    (w.without id).listed u = (w.listed u).filter (· ≠ id) := by
  rw [listed, listed, List.filter_filter]
  refine List.filter_congr fun id' _ => ?_
  have hmem : id' ∈ (w.without id).sessions ↔ id' ∈ w.sessions ∧ id' ≠ id := h.mem_without
  have huser : (w.without id).hub.userOf id' = w.hub.userOf id' := Hub.userOf_forget
  rw [Bool.eq_iff_iff, mine, huser, decide_eq_true_eq, Bool.and_eq_true, decide_eq_true_eq, mine,
    decide_eq_true_eq]
  constructor
  · rintro ⟨hin, hown⟩
    exact ⟨(hmem.mp hin).2, (hmem.mp hin).1, hown⟩
  · rintro ⟨hne, hin, hown⟩
    exact ⟨hmem.mpr ⟨hin, hne⟩, hown⟩

theorem Indexed.without (h : w.Indexed) (id : Uuid) : (w.without id).Indexed := by
  refine ⟨h.nodup, fun id' hid' => ?_, fun id' hid' => ?_, fun u => ?_, fun u => ?_⟩
  · have hobjects : (w.without id).hub.objects = w.hub.objects := (Hub.forget_frame id w.hub).1
    rw [hobjects]
    exact h.created id' hid'
  · exact h.registered id' (h.mem_without.mp hid').1
  · rw [h.listed_without]
    by_cases hid : id ∈ w.sessions
    · obtain ⟨v, hv, hregistry⟩ := h.forget_registry hid
      have howned : (w.without id).owned u =
          (Hub.unlist id v w.hub.registry.byUser).lookup u := by
        change (Hub.forget id w.hub).registry.byUser.lookup u = _
        rw [hregistry]
      rw [howned, lookup_unlist]
      split
      · next heq =>
        rw [← heq, ← entry_bind_filter, ← h.owned_eq]
        rfl
      · next hne =>
        -- the session is not of this user
        rw [List.filter_eq_self.mpr fun id' hid' => ?_, ← h.owned_eq]
        · rfl
        · refine decide_eq_true fun heq => hne ?_
          have hown := (mem_listed.mp hid').2.2
          rw [heq, hv] at hown
          exact (Option.some.inj hown).symm
    · rw [without_of_not_mem hid, h.owned_eq, List.filter_eq_self.mpr fun id' hid' => ?_]
      exact decide_eq_true fun heq => hid (heq ▸ (mem_listed.mp hid').2.1)
  · have hconfig : (w.without id).hub.config = w.hub.config := (Hub.forget_frame id w.hub).2
    rw [h.listed_without, hconfig]
    exact Nat.le_trans (List.length_filter_le _ _) (h.limit u)

/-! ## The sweep -/

theorem isExpired_iff {h : Hub} {cutoff : Int} :
    h.isExpired cutoff id = true ↔ ∃ s at_, h.objects.lookup id = some s ∧ s.connected = false ∧
      s.disconnectedAt = some at_ ∧ (at_ : Int) ≤ cutoff := by
  unfold Hub.isExpired Session.isConnected
  cases hs : h.objects.lookup id with
  | none => simp
  | some s =>
      cases hat : s.disconnectedAt with
      | none => simp [hat]
      | some at_ => simp [hat]

/-- The cutoff is the TTL before now, or 2^64 ms later if the cast has made it negative. -/
theorem cutoff_eq_some {h : Hub} {now : Timestamp} {cutoff : Int}
    (hcutoff : h.cutoff now = some cutoff) :
    cutoff ≤ Hub.latestMs ∧ cutoff = (now : Int) - h.config.sessionTtlMs +
      if h.config.sessionTtlMs < 2 ^ 63 then 0 else 2 ^ 64 := by
  unfold Hub.cutoff at hcutoff
  dsimp only at hcutoff
  split at hcutoff
  · next hrange =>
      obtain rfl := Option.some.inj hcutoff
      refine ⟨hrange.2, ?_⟩
      unfold Hub.ttl
      split
      · omega
      · omega
  · cases hcutoff

/-- A TTL that is taken for what it is. -/
theorem isExpired_iff_expired {now : Timestamp} {cutoff : Int}
    (hcutoff : w.hub.cutoff now = some cutoff) (httl : w.hub.config.sessionTtlMs < 2 ^ 63) :
    w.hub.isExpired cutoff id = true ↔ w.Expired now id := by
  have heq := (cutoff_eq_some hcutoff).2
  rw [if_pos httl] at heq
  refine isExpired_iff.trans (exists_congr fun s => exists_congr fun at_ => ?_)
  refine and_congr_right fun _ => and_congr_right fun _ => and_congr_right fun _ => ?_
  have hmoments : ∀ a ttl n : Nat, cutoff = (n : Int) - ttl + 0 →
      ((a : Int) ≤ cutoff ↔ a + ttl ≤ n) := by
    omega
  exact hmoments at_ w.hub.config.sessionTtlMs now heq

/-- No socket is gone for longer than a TTL that the cast makes negative. -/
theorem not_expired {now : Timestamp} {cutoff : Int} (hcutoff : w.hub.cutoff now = some cutoff)
    (hu64 : w.hub.config.sessionTtlMs < 2 ^ 64) (httl : 2 ^ 63 ≤ w.hub.config.sessionTtlMs) :
    ¬ w.Expired now id := by
  rintro ⟨s, at_, -, -, -, hgone⟩
  obtain ⟨hlatest, heq⟩ := cutoff_eq_some hcutoff
  rw [if_neg (by omega)] at heq
  unfold Hub.latestMs at hlatest
  have hmoments : ∀ a ttl n : Nat, cutoff = (n : Int) - ttl + 2 ^ 64 → ttl < 2 ^ 64 →
      2 ^ 63 ≤ ttl → ¬ a + ttl ≤ n := by
    omega
  exact hmoments at_ w.hub.config.sessionTtlMs now heq hu64 httl hgone

/-- The users a removal is reported for. -/
theorem Indexed.mem_lastOf (h : w.Indexed) :
    u ∈ Hub.lastOf id w.hub ↔ w.listed u ≠ [] ∧ (w.without id).listed u = [] := by
  by_cases hid : id ∈ w.sessions
  · have hattached := h.registered id hid
    obtain ⟨s, hs⟩ := Option.isSome_iff_exists.mp
      (AList.lookup_isSome.mpr (h.created id hattached))
    have huser : w.hub.userOf id = some s.userId := by
      rw [Hub.userOf, hs]
      rfl
    have hin : id ∈ w.listed s.userId := mem_listed.mpr ⟨hattached, hid, huser⟩
    have howned : w.hub.registry.byUser.lookup s.userId = some (w.listed s.userId) :=
      h.owned_eq_some_iff.mpr ⟨rfl, List.ne_nil_of_mem hin⟩
    rw [Hub.lastOf_of_mem hid hs howned, h.listed_without]
    by_cases hu : u = s.userId
    · rw [hu]
      split
      · next hempty =>
        exact iff_of_true List.mem_cons_self ⟨List.ne_nil_of_mem hin, hempty⟩
      · next hmore => simp only [List.not_mem_nil, hmore, and_false]
    · have hkept : (w.listed u).filter (· ≠ id) = w.listed u := by
        refine List.filter_eq_self.mpr fun id' hid' => decide_eq_true fun heq => hu ?_
        have hown := (mem_listed.mp hid').2.2
        rw [heq, huser] at hown
        exact (Option.some.inj hown).symm
      rw [hkept]
      refine iff_of_false ?_ fun hboth => hboth.1 hboth.2
      split
      · simp [hu]
      · exact List.not_mem_nil
  · rw [Hub.lastOf_of_not_mem hid, without_of_not_mem hid]
    exact iff_of_false List.not_mem_nil fun hboth => hboth.1 hboth.2

/-- The loop of the sweep. -/
theorem Indexed.sweepAll (h : w.Indexed) (l touched : List Uuid) :
    ∃ w' : World, w'.hub = (l.foldl Hub.sweepOne (w.hub, touched)).1 ∧
      w'.attached = w.attached ∧ w'.Indexed ∧
      (∀ id, id ∈ w'.sessions ↔ id ∈ w.sessions ∧ id ∉ l) ∧
      (∀ id, w'.hub.userOf id = w.hub.userOf id) ∧
      ∀ u, u ∈ (l.foldl Hub.sweepOne (w.hub, touched)).2 ↔
        u ∈ touched ∨ w.listed u ≠ [] ∧ w'.listed u = [] := by
  induction l generalizing w touched with
  | nil =>
      refine ⟨w, rfl, rfl, h, fun id => by simp, fun id => rfl, fun u => ?_⟩
      exact (or_iff_left fun hboth => hboth.1 hboth.2).symm
  | cons id l ih =>
      obtain ⟨w', hhub, hattached, hindexed, hsessions, huser, htouched⟩ :=
        ih (h.without id) (touched ++ Hub.lastOf id w.hub)
      refine ⟨w', hhub, hattached, hindexed, fun id' => ?_, fun id' => ?_, fun u => ?_⟩
      · rw [hsessions, h.mem_without, List.mem_cons, not_or, and_assoc]
      · rw [huser]
        exact Hub.userOf_forget
      · have hshrinks : w.listed u = [] → (w.without id).listed u = [] := by
          intro hempty
          rw [h.listed_without, hempty]
          rfl
        have hshrinks' : (w.without id).listed u = [] → w'.listed u = [] := by
          intro hempty
          refine List.eq_nil_iff_forall_not_mem.mpr fun id' hid' => ?_
          obtain ⟨hatt, hin, hown⟩ := mem_listed.mp hid'
          have hold : id' ∈ (w.without id).listed u :=
            mem_listed.mpr ⟨hattached ▸ hatt, ((hsessions id').mp hin).1, huser id' ▸ hown⟩
          rw [hempty] at hold
          cases hold
        refine (htouched u).trans ?_
        rw [List.mem_append, h.mem_lastOf, or_assoc]
        refine or_congr_right ?_
        by_cases hmid : (w.without id).listed u = []
        · simp [hmid, hshrinks' hmid]
        · simp [hmid, mt hshrinks hmid]

/-- A user has a session in the registry. -/
theorem Indexed.listed_ne_nil_iff (h : w.Indexed) :
    w.listed u ≠ [] ↔ ∃ id ∈ w.sessions, w.hub.userOf id = some u := by
  constructor
  · intro hne
    obtain ⟨id, hid⟩ := List.exists_mem_of_ne_nil _ hne
    exact ⟨id, (mem_listed.mp hid).2⟩
  · rintro ⟨id, hid, hown⟩
    exact List.ne_nil_of_mem (mem_listed.mpr ⟨h.registered id hid, hid, hown⟩)

/-- What a sweep with a cutoff removes, and whom it returns. -/
theorem Indexed.swept (h : w.Indexed) {now : Timestamp} {cutoff : Int}
    (hcutoff : w.hub.cutoff now = some cutoff) :
    (step w (.sweep now)).Indexed ∧
      (∀ id, id ∈ (Hub.sweep now w.hub).1.registry.sessions ↔
        id ∈ w.sessions ∧ w.hub.isExpired cutoff id = false) ∧
      ∃ touched, (Hub.sweep now w.hub).2 = some touched ∧ ∀ u, u ∈ touched ↔
        (∃ id ∈ w.sessions, w.hub.userOf id = some u) ∧
          ¬∃ id ∈ (Hub.sweep now w.hub).1.registry.sessions, w.hub.userOf id = some u := by
  obtain ⟨w', hhub, hattached, hindexed, hsessions, huser, htouched⟩ :=
    h.sweepAll (w.sessions.filter (w.hub.isExpired cutoff)) []
  have hsweep : Hub.sweep now w.hub =
      (w'.hub, some ((w.sessions.filter (w.hub.isExpired cutoff)).foldl Hub.sweepOne
        (w.hub, [])).2) := by
    rw [hhub]
    unfold Hub.sweep
    rw [hcutoff]
    rfl
  have hworld : step w (.sweep now) = w' := by
    rw [step, ← hattached, hsweep]
  refine ⟨hworld ▸ hindexed, fun id => ?_, _, congrArg Prod.snd hsweep, fun u => ?_⟩
  · rw [hsweep]
    refine (hsessions id).trans ?_
    rw [List.mem_filter, not_and, Bool.not_eq_true]
    exact and_congr_right fun hid => ⟨fun hkept => hkept hid, fun hkept _ => hkept⟩
  · have hleft := hindexed.listed_ne_nil_iff (u := u)
    simp only [huser] at hleft
    rw [hsweep]
    refine (htouched u).trans ?_
    rw [or_iff_right List.not_mem_nil, h.listed_ne_nil_iff]
    exact and_congr_right fun _ => (not_iff_comm.mp hleft).symm

theorem sweep_of_panic {h : Hub} {now : Timestamp} (hcutoff : h.cutoff now = none) :
    Hub.sweep now h = (h, none) := by
  rw [Hub.sweep, hcutoff]

theorem Indexed.sweep (h : w.Indexed) (now : Timestamp) : (step w (.sweep now)).Indexed := by
  cases hcutoff : w.hub.cutoff now with
  | none =>
      rw [step, sweep_of_panic hcutoff]
      exact h
  | some cutoff => exact (h.swept hcutoff).1

/-- A sweep does what it is for exactly if it is sound. -/
theorem Indexed.removes_sweep_iff (h : w.Indexed) (hu64 : w.hub.config.sessionTtlMs < 2 ^ 64)
    (now : Timestamp) : w.Removes (.sweep now) ↔ w.Sound (.sweep now) := by
  cases hcutoff : w.hub.cutoff now with
  | none =>
      refine iff_of_false ?_ ?_
      · rintro ⟨-, touched, hreturns, -⟩
        rw [sweep_of_panic hcutoff] at hreturns
        cases hreturns
      · rintro ⟨cutoff, hsome, -⟩
        cases hcutoff.symm.trans hsome
  | some cutoff =>
      obtain ⟨-, hsessions, htouched⟩ := h.swept hcutoff
      constructor
      · rintro ⟨hremoved, -⟩
        refine ⟨cutoff, hcutoff, ?_⟩
        rcases Nat.lt_or_ge w.hub.config.sessionTtlMs (2 ^ 63) with httl | httl
        · exact .inl httl
        · refine .inr fun id hid => ?_
          exact ((hsessions id).mp ((hremoved id).mpr ⟨hid, not_expired hcutoff hu64 httl⟩)).2
      · rintro ⟨other, hother, hsound⟩
        obtain rfl := Option.some.inj (hcutoff.symm.trans hother)
        refine ⟨fun id => ?_, htouched⟩
        refine (hsessions id).trans (and_congr_right fun hid => ?_)
        rcases Nat.lt_or_ge w.hub.config.sessionTtlMs (2 ^ 63) with httl | httl
        · rw [← isExpired_iff_expired hcutoff httl, Bool.not_eq_true]
        · refine iff_of_true ?_ (not_expired hcutoff hu64 httl)
          exact hsound.resolve_left (Nat.not_lt_of_le httl) id hid

/-! ## What is attached -/

/-- What is left of a list when its first members are gone. -/
theorem filter_not_mem_take (hnodup : l.Nodup) (k : Nat) :
    l.filter (fun id => decide (id ∉ l.take k)) = l.drop k := by
  have hdisjoint : (l.take k).Disjoint (l.drop k) := by
    rw [← List.take_append_drop k l] at hnodup
    exact (List.nodup_append'.mp hnodup).2.2
  have hfirst : (l.take k).filter (fun id => decide (id ∉ l.take k)) = [] :=
    List.filter_eq_nil_iff.mpr fun id hid => by simp [hid]
  have hrest : (l.drop k).filter (fun id => decide (id ∉ l.take k)) = l.drop k :=
    List.filter_eq_self.mpr fun id hid => decide_eq_true fun hmem => hdisjoint hmem hid
  calc l.filter (fun id => decide (id ∉ l.take k))
      = (l.take k ++ l.drop k).filter fun id => decide (id ∉ l.take k) := by
        rw [List.take_append_drop]
    _ = l.drop k := by rw [List.filter_append, hfirst, hrest, List.nil_append]

/-- How many of a user's sessions one more puts over the limit. -/
def excess (w : World) (u : Uuid) : Nat :=
  (w.listed u).length + 1 - w.hub.config.maxConnectionsPerUser

variable (now : Timestamp) (userId : Uuid) (outbox : Outbox)

/-- What `attach` writes, and what it leaves alone. -/
theorem Indexed.attach_hub (h : w.Indexed) (hmax : 1 ≤ w.hub.config.maxConnectionsPerUser)
    (hfresh : id ∉ w.hub.objects) :
    (attach now id userId outbox w).hub.config = w.hub.config ∧
      (∀ id', (attach now id userId outbox w).hub.userOf id' =
        if id' = id then some userId else w.hub.userOf id') ∧
      (∀ u, (attach now id userId outbox w).owned u =
        if u = userId then some ((w.listed userId).drop (w.excess userId) ++ [id])
        else w.owned u) ∧
      ∀ id', id' ∈ (attach now id userId outbox w).sessions ↔
        id' = id ∨ id' ∈ w.sessions ∧ id' ∉ (w.listed userId).take (w.excess userId) := by
  have hnew : id ∉ w.sessions := fun hid => hfresh (h.created id (h.registered id hid))
  have hk : w.excess userId ≤ (w.listed userId).length := by
    unfold excess
    omega
  -- with room for one session, the new one is not popped
  have hpopped : Hub.popOver w.hub.config.maxConnectionsPerUser
      ((w.hub.registry.byUser.lookup userId).getD [] ++ [id]) =
        ((w.listed userId).take (w.excess userId),
          (w.listed userId).drop (w.excess userId) ++ [id]) := by
    have howned : w.hub.registry.byUser.lookup userId = entry (w.listed userId) :=
      h.owned_eq userId
    rw [howned, getD_entry, Hub.popOver_eq, List.length_append, List.length_singleton]
    change ((w.listed userId ++ [id]).take (w.excess userId),
      (w.listed userId ++ [id]).drop (w.excess userId)) = _
    rw [List.take_append_of_le_length hk, List.drop_append_of_le_length hk]
  let created : Hub :=
    { Hub.createSession id userId outbox w.hub with
      registry := { w.hub.registry with
        byUser := w.hub.registry.byUser.insert userId
          ((w.listed userId).drop (w.excess userId) ++ [id]) } }
  let evicted : Hub := ((w.listed userId).take (w.excess userId)).foldl (Hub.evict now) created
  have hevicted : Hub.evictOldest now id userId (Hub.createSession id userId outbox w.hub) =
      evicted := Hub.evictOldest_eq hpopped
  have hhub : (attach now id userId outbox w).hub =
      { evicted with registry := { evicted.registry with
          sessions := evicted.registry.sessions.filter (· ≠ id) ++ [id] } } := by
    rw [attach, Hub.attach, hevicted]
  obtain ⟨hbyUser, hconfig, huser⟩ := Hub.evictAll_frame now
    ((w.listed userId).take (w.excess userId)) created
  refine ⟨?_, fun id' => ?_, fun u => ?_, fun id' => ?_⟩
  · rw [hhub]
    exact hconfig
  · rw [hhub]
    exact (huser id').trans (Hub.userOf_createSession userId outbox)
  · rw [owned, hhub]
    change evicted.registry.byUser.lookup u = _
    rw [hbyUser]
    exact AList.lookup_insert_ite _ _ _ _
  · rw [sessions, hhub]
    change id' ∈ evicted.registry.sessions.filter (· ≠ id) ++ [id] ↔ _
    rw [List.mem_append, List.mem_filter, decide_eq_true_eq, List.mem_singleton,
      (Hub.evictAll_spec now _ created id').1]
    constructor
    · rintro (⟨hkept, -⟩ | rfl)
      · exact .inr hkept
      · exact .inl rfl
    · rintro (rfl | hkept)
      · exact .inr rfl
      · exact .inl ⟨hkept, fun heq => hnew (heq ▸ hkept.1)⟩

theorem Indexed.listed_attach (h : w.Indexed) (hmax : 1 ≤ w.hub.config.maxConnectionsPerUser)
    (hfresh : id ∉ w.hub.objects) :
    (attach now id userId outbox w).listed u =
      if u = userId then (w.listed userId).drop (w.excess userId) ++ [id] else w.listed u := by
  obtain ⟨-, huser, -, hsessions⟩ := h.attach_hub now userId outbox hmax hfresh
  -- those attached before stay unless they are among the first that are too many
  have hold : w.attached.filter (mine (attach now id userId outbox w).hub u) =
      (w.listed u).filter fun id' => decide (id' ∉ (w.listed userId).take (w.excess userId)) := by
    change _ = (w.attached.filter (mine w.hub u)).filter _
    rw [List.filter_filter]
    refine List.filter_congr fun id' hid' => ?_
    have hne : id' ≠ id := fun heq => hfresh (heq ▸ h.created id' hid')
    have hmem := hsessions id'
    rw [or_iff_right hne] at hmem
    rw [Bool.eq_iff_iff, mine, huser, if_neg hne, decide_eq_true_eq, Bool.and_eq_true,
      decide_eq_true_eq, mine, decide_eq_true_eq]
    constructor
    · rintro ⟨hin, hown⟩
      exact ⟨(hmem.mp hin).2, (hmem.mp hin).1, hown⟩
    · rintro ⟨hkept, hin, hown⟩
      exact ⟨hmem.mpr ⟨hin, hkept⟩, hown⟩
  have hself : mine (attach now id userId outbox w).hub u id = decide (u = userId) := by
    rw [Bool.eq_iff_iff, mine, huser, if_pos rfl, decide_eq_true_eq, decide_eq_true_eq]
    constructor
    · exact fun hboth => (Option.some.inj hboth.2).symm
    · exact fun heq => ⟨(hsessions id).mpr (.inl rfl), congrArg some heq.symm⟩
  have hsplit : (attach now id userId outbox w).listed u =
      w.attached.filter (mine (attach now id userId outbox w).hub u) ++
        [id].filter (mine (attach now id userId outbox w).hub u) := List.filter_append _ _
  rw [hsplit, hold]
  split
  · next heq =>
    subst heq
    rw [filter_not_mem_take h.nodup_listed, List.filter_cons_of_pos (by rw [hself]; simp)]
    rfl
  · next hne =>
    -- those that are dropped are all of one user
    have hothers : (w.listed u).filter
        (fun id' => decide (id' ∉ (w.listed userId).take (w.excess userId))) = w.listed u := by
      refine List.filter_eq_self.mpr fun id' hid' => decide_eq_true fun hmem => hne ?_
      have hown := (mem_listed.mp hid').2.2
      rw [(mem_listed.mp (List.mem_of_mem_take hmem)).2.2] at hown
      exact (Option.some.inj hown).symm
    rw [hothers, List.filter_cons_of_neg (by rw [hself]; simp [hne])]
    exact List.append_nil _

theorem Indexed.attach (h : w.Indexed) (hmax : 1 ≤ w.hub.config.maxConnectionsPerUser)
    (hfresh : id ∉ w.hub.objects) : (attach now id userId outbox w).Indexed := by
  obtain ⟨hconfig, huser, howned, hsessions⟩ := h.attach_hub now userId outbox hmax hfresh
  have hunseen : id ∉ w.attached := fun hid => hfresh (h.created id hid)
  refine ⟨?_, fun id' hid' => ?_, fun id' hid' => ?_, fun u => ?_, fun u => ?_⟩
  · refine List.nodup_append'.mpr ⟨h.nodup, List.nodup_singleton id, ?_⟩
    exact List.disjoint_singleton.mpr hunseen
  · rw [Hub.mem_objects_iff, huser]
    split
    · rfl
    · next hne =>
      have hold : id' ∈ w.attached :=
        (List.mem_append.mp hid').resolve_right fun hlast => hne (List.mem_singleton.mp hlast)
      exact Hub.mem_objects_iff.mp (h.created id' hold)
  · rcases (hsessions id').mp hid' with heq | ⟨hin, -⟩
    · rw [heq]
      exact List.mem_append_right _ (List.mem_singleton_self id)
    · exact List.mem_append_left _ (h.registered id' hin)
  · rw [howned, h.listed_attach now userId outbox hmax hfresh]
    split
    · cases (w.listed userId).drop (w.excess userId) with
      | nil => rfl
      | cons first rest => rfl
    · exact h.owned_eq u
  · rw [hconfig, h.listed_attach now userId outbox hmax hfresh]
    split
    · rw [List.length_append, List.length_drop, List.length_singleton, excess]
      omega
    · exact h.limit u

/-! ## Every run -/

theorem Indexed.step (h : w.Indexed) (hmax : 1 ≤ w.hub.config.maxConnectionsPerUser) (a : Act) :
    (step w a).Indexed := by
  cases a with
  | attach now id userId outbox =>
      rw [World.step]
      split
      · exact h
      · next hfresh => exact h.attach now userId outbox hmax hfresh
  | forget id => exact h.without id
  | disconnect now id => exact indexed_call h (fun s => s.disconnect_userId now) _ id
  | reconnect outbox id => exact indexed_call h (fun s => s.reconnect_userId outbox) _ id
  | sweep now => exact h.sweep now

/-- Every step but a sweep that is not sound removes what it should. -/
theorem Indexed.removes_iff (h : w.Indexed) (hmax : 1 ≤ w.hub.config.maxConnectionsPerUser)
    (hu64 : w.hub.config.sessionTtlMs < 2 ^ 64) (a : Act) : w.Removes a ↔ w.Sound a := by
  cases a with
  | attach now id userId outbox =>
      refine iff_of_true (fun hfresh id' => ?_) trivial
      have howned : (w.owned userId).getD [] = w.listed userId := by
        rw [h.owned_eq, getD_entry]
      rw [howned]
      exact (h.attach_hub now userId outbox hmax hfresh).2.2.2 id'
  | forget id => exact Iff.rfl
  | disconnect now id => exact Iff.rfl
  | reconnect outbox id => exact Iff.rfl
  | sweep now => exact h.removes_sweep_iff hu64 now

end Indexed

theorem config_step (w : World) (a : Act) : (step w a).hub.config = w.hub.config := by
  cases a with
  | attach now id userId outbox =>
      rw [step]
      split
      · rfl
      · exact (Hub.evictAll_frame now _ _).2.1
  | forget id => exact (Hub.forget_frame id w.hub).2
  | disconnect now id => exact Hub.call_config _ _
  | reconnect outbox id => exact Hub.call_config _ _
  | sweep now =>
      rw [step, Hub.sweep_fst]
      exact (Hub.sweepExpired_frame now w.hub).2

section Runs

variable (config : GatewayConfig) (hmax : 1 ≤ config.maxConnectionsPerUser) (acts : List Act)

include hmax

theorem indexed_run :
    Throughout step (fun w => w.Indexed ∧ w.hub.config = config) (init config) acts := by
  have hany : EachStep step (fun _ _ => True) (init config) acts :=
    eachStep_of_forall (fun _ _ => trivial) (init config) acts
  exact throughout_of_eachStep
    (fun w a h _ => ⟨h.1.step (h.2.symm ▸ hmax) a, (config_step w a).trans h.2⟩)
    ⟨indexed_init config, rfl⟩ hany

/-- The two maps stay inverse to each other, whatever the TTL. -/
theorem consistent_run : Throughout step Consistent (init config) acts :=
  (indexed_run config hmax acts).mono fun _ h => h.1.consistent

/-- The two maps stay inverse to each other, and nothing is removed but what is over the limit
or expired, exactly if every sweep is sound. -/
theorem registry_consistent_iff (hu64 : config.sessionTtlMs < 2 ^ 64) :
    Throughout step Consistent (init config) acts ∧ EachStep step Removes (init config) acts ↔
      EachStep step Sound (init config) acts := by
  rw [and_iff_right (consistent_run config hmax acts)]
  refine eachStep_iff_eachStep (I := fun w => w.Indexed ∧ w.hub.config = config)
    (fun w a h => h.1.removes_iff (h.2.symm ▸ hmax) (h.2.symm ▸ hu64) a)
    (fun w a h _ => ⟨h.1.step (h.2.symm ▸ hmax) a, (config_step w a).trans h.2⟩)
    ⟨indexed_init config, rfl⟩

end Runs

/-- A third session of a user evicts the first one, and the second one expires. -/
def thirdSession : List Act :=
  [.attach 0 1 7 101, .attach 0 2 7 102, .attach 5 3 7 103, .disconnect 10 2, .sweep 90010]

theorem thirdSession_consistent :
    Throughout step Consistent (init ⟨30000, 90000, 500, 2⟩) thirdSession ∧
      EachStep step Removes (init ⟨30000, 90000, 500, 2⟩) thirdSession :=
  (registry_consistent_iff ⟨30000, 90000, 500, 2⟩ (by decide) thirdSession (by decide)).mpr
    (by decide)

/-- With the longest TTL the process starts with, a session goes a millisecond after its socket. -/
theorem swept_at_once :
    ¬ ∀ (source : Api.Env.Source) (config : Api.Env.Config String),
      Api.Env.fromSource (fun addr => .ok addr) source = .ok config →
        1 ≤ config.gateway.maxConnectionsPerUser →
          ∀ acts, Throughout step Consistent (init config.gateway) acts ∧
            EachStep step Removes (init config.gateway) acts := by
  intro h
  obtain ⟨-, -, -, ⟨hremoved, -⟩, -⟩ :=
    h (Api.Env.gatewayEnv ⟨30000, 2 ^ 64 - 1, 500, 2⟩) _
      (Api.Env.fromSource_gatewayEnv ⟨by decide, by decide, by decide, by decide⟩)
      (show 1 ≤ 2 by decide) [.attach 0 1 7 101, .disconnect 10 1, .sweep 11]
  have hgone := (hremoved 1).mpr ⟨by decide, ?_⟩
  · exact absurd hgone (by decide)
  · rintro ⟨s, at_, -, -, -, hold⟩
    exact absurd (Nat.le_trans (Nat.le_add_left (2 ^ 64 - 1) at_) hold) (by decide)

example : (run step (init ⟨30000, 90000, 500, 2⟩) thirdSession).owned 7 = some [3] := by decide

end World
end Registered

end Gateway
end Ldktela
