import Ldktela.Api.Config
import Ldktela.Gateway.Registered
import Mathlib.Data.List.Perm.Subperm

/-!
# The limits of the hub

`Session::dispatch` trims a resume buffer when its length equals the capacity, and `Hub::attach`
makes room before it inserts.  Both keep to the configured limits when these are at least one.
A capacity of zero is never equal to the length of a buffer that has a frame, and at a limit of
zero the session that `attach` evicts is the one it inserts next.
-/

namespace Ldktela
namespace Gateway

open Protocol
open Runs

namespace Hub

/-- Every session object, registered or not, has the property. -/
def Everywhere (P : Session → Prop) (h : Hub) : Prop :=
  ∀ id s, h.objects.lookup id = some s → P s

section Everywhere

variable {P : Session → Prop} {h : Hub}

theorem everywhere_insert (hall : h.Everywhere P) {id : Uuid} {s : Session} (hs : P s) {h' : Hub}
    (hobjects : h'.objects = h.objects.insert id s) : h'.Everywhere P := by
  intro id' s' hs'
  rw [hobjects, AList.lookup_insert_ite] at hs'
  split at hs'
  · rw [← Option.some.inj hs']
    exact hs
  · exact hall id' s' hs'

theorem everywhere_call (hall : h.Everywhere P) {f : Session → Session}
    (hf : ∀ s, P s → P (f s)) (sends : Session → List Delivery) (id : Uuid) :
    (call id f sends h).Everywhere P := by
  unfold call
  cases hs : h.objects.lookup id with
  | none => exact hall
  | some s => exact everywhere_insert hall (hf s (hall id s hs)) rfl

theorem everywhere_evict (hall : h.Everywhere P)
    (hdisconnect : ∀ now s, P s → P (Session.disconnect now s)) (now : Timestamp) (id : Uuid) :
    (evict now h id).Everywhere P := by
  unfold evict
  split
  · refine everywhere_call (everywhere_call ?_ (fun _ hs => hs) _ id) (hdisconnect now) _ id
    exact hall
  · exact hall

theorem everywhere_evictAll (hall : h.Everywhere P)
    (hdisconnect : ∀ now s, P s → P (Session.disconnect now s)) (now : Timestamp)
    (l : List Uuid) : (l.foldl (evict now) h).Everywhere P := by
  induction l generalizing h with
  | nil => exact hall
  | cons id l ih => exact ih (everywhere_evict hall hdisconnect now id)

theorem everywhere_attach (hall : h.Everywhere P)
    (hdisconnect : ∀ now s, P s → P (Session.disconnect now s)) (now : Timestamp)
    (id userId : Uuid) : (attach now id userId h).Everywhere P := by
  change (evictOldest now id userId h).Everywhere P
  unfold evictOldest
  refine everywhere_evictAll ?_ hdisconnect now _
  exact hall

end Everywhere

end Hub

namespace HubLimits

inductive Act where
  | registry (act : Registered.Act)
  | dispatch (id : Uuid) (event : DispatchEvent)

def step (w : Registered.World) : Act → Registered.World
  | .registry act => w.step act
  | .dispatch id event => { w with hub := Hub.dispatch id event w.hub }

/-- No buffer is larger than configured, and no user has more sessions in the registry. -/
structure WithinLimits (config : GatewayConfig) (w : Registered.World) : Prop where
  buffers : w.hub.Everywhere fun s => s.buffer.length ≤ config.resumeBufferSize
  connections : ∀ (u : Uuid) (l : List Uuid), l.Nodup →
    (∀ id ∈ l, id ∈ w.sessions ∧ w.hub.userOf id = some u) →
      l.length ≤ config.maxConnectionsPerUser

/-- The buffer has the configured capacity and keeps to it. -/
structure Fits (config : GatewayConfig) (s : Session) : Prop where
  capacity_eq : s.bufferCapacity = config.resumeBufferSize
  length_le : s.buffer.length ≤ config.resumeBufferSize

section Steps

variable {config : GatewayConfig} {w : Registered.World}

/-- A buffer with room for a frame trims in time. -/
theorem Fits.dispatch {s : Session} (h : Fits config s) (hpos : 1 ≤ config.resumeBufferSize)
    (event : DispatchEvent) : Fits config (s.dispatch event) := by
  obtain ⟨hcapacity, hlength⟩ := h
  constructor
  · obtain ⟨buffer, evicted, hframe⟩ := s.dispatch_frame event
    rw [hframe]
    exact hcapacity
  · simp only [Session.dispatch, Session.pushBuffer]
    split
    · next hfull =>
      split
      · next dropped rest hbuffer =>
        rw [hbuffer, List.length_cons] at hlength
        rw [List.length_append, List.length_singleton]
        exact hlength
      · exact hpos
    · next hroom =>
      rw [List.length_append, List.length_singleton]
      omega

theorem everywhere_fits_step (hpos : 1 ≤ config.resumeBufferSize) (hconfig : w.hub.config = config)
    (h : w.hub.Everywhere (Fits config)) (a : Act) : (step w a).hub.Everywhere (Fits config) := by
  have hdisconnect : ∀ now s, Fits config s → Fits config (Session.disconnect now s) :=
    fun _ _ hs => ⟨hs.1, hs.2⟩
  cases a with
  | dispatch id event => exact Hub.everywhere_call h (fun _ hs => hs.dispatch hpos event) _ id
  | registry act =>
      cases act with
      | attach now id userId outbox =>
          simp only [step, Registered.World.step]
          split
          · exact h
          · refine Hub.everywhere_attach (Hub.everywhere_insert h ?_ rfl) hdisconnect now id userId
            exact ⟨congrArg GatewayConfig.resumeBufferSize hconfig, Nat.zero_le _⟩
      | forget id =>
          intro id' s hs
          exact h id' s ((Hub.forget_frame id w.hub).1 ▸ hs)
      | disconnect now id => exact Hub.everywhere_call h (hdisconnect now) _ id
      | reconnect outbox id =>
          have hreconnect : ∀ s, Fits config s → Fits config (Session.reconnect outbox s) :=
            fun _ hs => ⟨hs.1, hs.2⟩
          exact Hub.everywhere_call h hreconnect _ id
      | sweep now =>
          intro id' s hs
          have hobjects : (Hub.sweep now w.hub).1.objects = w.hub.objects := by
            rw [Hub.sweep_fst]
            exact (Hub.sweepExpired_frame now w.hub).1
          exact h id' s (hobjects ▸ hs)

theorem indexed_step (hpos : 1 ≤ w.hub.config.maxConnectionsPerUser) (h : w.Indexed) (a : Act) :
    (step w a).Indexed := by
  cases a with
  | registry act => exact h.step hpos act
  | dispatch id event =>
      exact Registered.World.indexed_call h (fun s => s.dispatch_userId event) _ id

theorem config_step (w : Registered.World) (a : Act) :
    (step w a).hub.config = w.hub.config := by
  cases a with
  | registry act => exact Registered.World.config_step w act
  | dispatch id event => exact Hub.call_config _ _

theorem connections_of_indexed (h : w.Indexed) (u : Uuid) (l : List Uuid) (hnodup : l.Nodup)
    (hall : ∀ id ∈ l, id ∈ w.sessions ∧ w.hub.userOf id = some u) :
    l.length ≤ w.hub.config.maxConnectionsPerUser := by
  have hsubset : l ⊆ w.listed u := fun id hid => Registered.World.mem_listed.mpr
    ⟨h.registered id (hall id hid).1, hall id hid⟩
  exact Nat.le_trans (List.subperm_of_subset hnodup hsubset).length_le (h.limit u)

end Steps

theorem withinLimits_of_pos {config : GatewayConfig} (hbuffer : 1 ≤ config.resumeBufferSize)
    (hconnections : 1 ≤ config.maxConnectionsPerUser) (acts : List Act) :
    Throughout step (WithinLimits config) (Registered.World.init config) acts := by
  have hall : EachStep step (fun _ _ => True) (Registered.World.init config) acts :=
    eachStep_of_forall (fun _ _ => trivial) _ acts
  have hinv : Throughout step (fun w => w.hub.config = config ∧ w.Indexed ∧
      w.hub.Everywhere (Fits config)) (Registered.World.init config) acts := by
    refine throughout_of_eachStep (fun w a h _ => ?_)
      ⟨rfl, Registered.World.indexed_init config, fun _ _ hs => by cases hs⟩ hall
    obtain ⟨hconfig, hindexed, hfits⟩ := h
    exact ⟨(config_step w a).trans hconfig, indexed_step (hconfig ▸ hconnections) hindexed a,
      everywhere_fits_step hbuffer hconfig hfits a⟩
  refine hinv.mono fun w h => ?_
  obtain ⟨hconfig, hindexed, hfits⟩ := h
  exact ⟨fun id s hs => (hfits id s hs).length_le, hconfig ▸ connections_of_indexed hindexed⟩

/-- A session is attached, and gets a frame. -/
def firstFrame : List Act :=
  [.registry (.attach 0 1 7 101), .dispatch 1 (.roomLeave ⟨10, .left⟩)]

theorem firstFrame_buffer (config : GatewayConfig) :
    ∃ s, (run step (Registered.World.init config) firstFrame).hub.objects.lookup 1 = some s ∧
      s.buffer.length = 1 := by
  obtain ⟨heartbeat, ttl, size, max⟩ := config
  cases max with
  | zero =>
      cases size with
      | zero => exact ⟨_, rfl, rfl⟩
      | succ size => exact ⟨_, rfl, rfl⟩
  | succ max =>
      cases size with
      | zero => exact ⟨_, rfl, rfl⟩
      | succ size => exact ⟨_, rfl, rfl⟩

theorem firstFrame_registered (config : GatewayConfig) :
    1 ∈ (run step (Registered.World.init config) firstFrame).sessions ∧
      (run step (Registered.World.init config) firstFrame).hub.userOf 1 = some 7 := by
  obtain ⟨heartbeat, ttl, size, max⟩ := config
  cases max with
  | zero =>
      cases size with
      | zero => exact ⟨List.mem_singleton_self 1, rfl⟩
      | succ size => exact ⟨List.mem_singleton_self 1, rfl⟩
  | succ max =>
      cases size with
      | zero => exact ⟨List.mem_singleton_self 1, rfl⟩
      | succ size => exact ⟨List.mem_singleton_self 1, rfl⟩

/-- The hub keeps to its limits exactly where neither of them is zero. -/
theorem limits_iff (config : GatewayConfig) :
    (∀ acts, Throughout step (WithinLimits config) (Registered.World.init config) acts) ↔
      1 ≤ config.resumeBufferSize ∧ 1 ≤ config.maxConnectionsPerUser := by
  constructor
  · intro h
    have hend := throughout_iff_initial.mp (h firstFrame) firstFrame List.prefix_rfl
    constructor
    · obtain ⟨s, hs, hlength⟩ := firstFrame_buffer config
      rw [← hlength]
      exact hend.buffers 1 s hs
    · refine hend.connections 7 [1] (List.nodup_singleton 1) fun id hid => ?_
      rw [List.mem_singleton.mp hid]
      exact firstFrame_registered config
  · rintro ⟨hbuffer, hconnections⟩ acts
    exact withinLimits_of_pos hbuffer hconnections acts

/-- The process starts with a limit of zero, and the hub does not keep to it. -/
theorem zero_limits :
    (∃ config : Api.Env.Config String,
      Api.Env.fromSource (fun addr => .ok addr) (Api.Env.exampleEnv "0" "4") = .ok config ∧
        ¬∀ acts, Throughout step (WithinLimits config.gateway)
          (Registered.World.init config.gateway) acts) ∧
    ∃ config : Api.Env.Config String,
      Api.Env.fromSource (fun addr => .ok addr) (Api.Env.exampleEnv "500" "0") = .ok config ∧
        ¬∀ acts, Throughout step (WithinLimits config.gateway)
          (Registered.World.init config.gateway) acts := by
  refine ⟨⟨_, Api.Env.fromSource_zero.1, fun h => ?_⟩, ⟨_, Api.Env.fromSource_zero.2, fun h => ?_⟩⟩
  · have hend := throughout_iff_initial.mp (h firstFrame) firstFrame List.prefix_rfl
    obtain ⟨s, hs, hlength⟩ := firstFrame_buffer (Api.Env.exampleConfig 0 4).gateway
    have hle : s.buffer.length ≤ 0 := hend.buffers 1 s hs
    omega
  · have hend := throughout_iff_initial.mp (h firstFrame) firstFrame List.prefix_rfl
    have hle : [1].length ≤ 0 := hend.connections 7 [1] (List.nodup_singleton 1) fun id hid => by
      rw [List.mem_singleton.mp hid]
      exact firstFrame_registered (Api.Env.exampleConfig 500 0).gateway
    exact absurd hle (by decide)

end HubLimits

end Gateway
end Ldktela
