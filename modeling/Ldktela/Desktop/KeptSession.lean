import Ldktela.Desktop.Runtime

/-!
# What keeps the user signed in

Runs of `Desktop.Runtime` in which nobody ends the session: the user does not sign out,
no request is answered with 401 and the gateway is not closed with 4001.

`kept_of_refreshed` says what the vault and the phase rely on then.  `start` takes a
refresh that is lost, and nothing else, for a server it cannot reach; and what it does
about that ends in `recoverFromAuthFailure`, which takes nothing.
-/

namespace Ldktela
namespace Desktop

open Protocol
open Runs
open Auth (Answer)
open Db (TokenHash)
open ApiClient (ClientAct Client Op Caller)

namespace ApiClient

/-- Who waits for the refresh that an operation is. -/
def Op.refresher : Op → Option Caller
  | .refreshing caller _ => some caller
  | .storing caller _ => some caller
  | _ => none

namespace World

/-- The answer operation `n` waits for, once the server has given it. -/
def answerTo (n : Nat) (w : World) : Option Answer :=
  match w.client.ops.lookup n with
  | some (.request (.logout _ m) _) => w.wire.answer m
  | some (.refreshing _ m) => w.wire.answer m
  | some (.pairing m) => w.wire.answer m
  | _ => none

/-- Who waits for the refresh that operation `n` is. -/
def refresher (n : Nat) (w : World) : Option Caller :=
  (w.client.ops.lookup n).bind Op.refresher

/-- A new pair. -/
def isIssued : Answer → Bool
  | .issued _ => true
  | _ => false

/-- Neither the user nor the server ends the session. -/
def Unended (w : World) : ClientAct → Prop
  | .signOut => False
  | .replied _ unauthorized => unauthorized = false
  | .answered n => (w.answerTo n).map unauthorized ≠ some true
  | _ => True

/-- Every refresh that is answered brings a new pair, which is stored; and the refresh of
`recoverFromAuthFailure` is answered. -/
def Refreshed (w : World) : ClientAct → Prop
  | .answered n => w.refresher n ≠ none → (w.answerTo n).map isIssued ≠ some false
  | .stored n ok => w.refresher n ≠ none → ok = true
  | .networkError n => w.refresher n ≠ some .recoverFromAuthFailure
  | _ => True

end World

end ApiClient

namespace Runtime

/-- The vault still has a token, and the user is not asked to pair. -/
def Kept (r : Runtime) : Prop :=
  r.world.client.vault ≠ none ∧ r.phase ≠ .pairing

/-- Neither the user nor the server ends the session. -/
def Unended (r : Runtime) : Act → Prop
  | .world (.client a) => r.world.Unended a
  | .closed _ code _ => code ≠ CloseCode.authenticationFailed
  | _ => True

/-- The refreshes `start` and `recoverFromAuthFailure` ask for go well, but that the one of
`start` may be lost. -/
def Refreshed (r : Runtime) : Act → Prop
  | .world (.client a) => r.world.Refreshed a
  | _ => True

end Runtime

namespace ApiClient.World

instance (w : World) : ∀ a, Decidable (w.Unended a)
  | .signOut => .isFalse id
  | .replied _ unauthorized => inferInstanceAs (Decidable (unauthorized = false))
  | .answered _ => inferInstanceAs (Decidable (_ ≠ _))
  | .start | .pair _ | .request | .gatewayReady | .gatewayAuthFailure | .networkError _
  | .resumed _ | .finalized _ | .stored _ _ | .left _ | .cleared _ | .relaunched =>
      .isTrue trivial

instance (w : World) : ∀ a, Decidable (w.Refreshed a)
  | .answered _ => inferInstanceAs (Decidable (_ → _))
  | .stored _ _ => inferInstanceAs (Decidable (_ → _))
  | .networkError _ => inferInstanceAs (Decidable (_ ≠ _))
  | .signOut | .replied _ _ | .start | .pair _ | .request | .gatewayReady | .gatewayAuthFailure
  | .resumed _ | .finalized _ | .left _ | .cleared _ | .relaunched => .isTrue trivial

end ApiClient.World

namespace Runtime

instance (r : Runtime) : Decidable r.Kept :=
  inferInstanceAs (Decidable (_ ∧ _))

instance (r : Runtime) : ∀ act, Decidable (r.Unended act)
  | .world (.client a) => inferInstanceAs (Decidable (r.world.Unended a))
  | .closed _ code _ => inferInstanceAs (Decidable (code ≠ _))
  | .world (.arrive _ _) | .world (.serve _) | .world (.fail _) | .world (.tick _)
  | .clearFailed _ | .ready _ _ _ _ | .retry => .isTrue trivial

instance (r : Runtime) : ∀ act, Decidable (r.Refreshed act)
  | .world (.client a) => inferInstanceAs (Decidable (r.world.Refreshed a))
  | .closed _ _ _ | .world (.arrive _ _) | .world (.serve _) | .world (.fail _)
  | .world (.tick _) | .clearFailed _ | .ready _ _ _ _ | .retry => .isTrue trivial

end Runtime

/-! ## The client -/

namespace ApiClient

/-- What may be under way in a session that nobody ends. -/
def Op.keeps : Op → Bool
  | .request .plain _ => true
  | .refreshing .ensureRefreshed _ => false
  | .refreshing _ _ => true
  | .storing .ensureRefreshed _ => false
  | .storing _ _ => true
  | .pairing _ => true
  | .storingPair _ => true
  | _ => false

/-- The refresh of `start`. -/
def Op.starts (op : Op) : Bool :=
  op.refresher = some .start

namespace Client

structure Keeps (c : Client) : Prop where
  vault : c.vault ≠ none
  ops : ∀ n op, c.ops.lookup n = some op → op.keeps = true
  seeded : c.started = true → c.refreshToken ≠ none
  adopted : ∀ n op, c.ops.lookup n = some op → op.stores = true → c.accessToken ≠ none
  unstarted : c.started = false → c.authRetryUsed = false
  /-- While `start` waits, nothing has used up the one retry. -/
  starting : ∀ n op, c.ops.lookup n = some op → op.starts = true →
    c.started = true ∧ c.authRetryUsed = false
  once : ∀ n op n' op', c.ops.lookup n = some op → op.starts = true →
    c.ops.lookup n' = some op' → op'.starts = true → n = n'

section

variable {c : Client} {n : Nat} {op : Op}

theorem lookup_setOp (k : Nat) :
    (c.setOp k op).ops.lookup n = if n = k then some op else c.ops.lookup n :=
  AList.lookup_insert_ite c.ops k n op

theorem lookup_endOp (k : Nat) :
    (c.endOp k).ops.lookup n = if n = k then none else c.ops.lookup n :=
  AList.lookup_erase_ite c.ops k n

theorem keeps_launched {vault : Option TokenHash} (h : vault ≠ none) :
    Keeps (launched vault) where
  vault := h
  ops n op hop := by cases hop
  seeded hstarted := by cases hstarted
  adopted n op hop := by cases hop
  unstarted _ := rfl
  starting n op hop := by cases hop
  once n op n' op' hop := by cases hop

/-- What holds of an entry and of every entry before it. -/
theorem forall_setOp {P : Op → Prop} (hop : P op)
    (h : ∀ k o, c.ops.lookup k = some o → P o) :
    ∀ k o, (c.setOp n op).ops.lookup k = some o → P o := by
  intro k o hk
  rw [lookup_setOp] at hk
  split at hk
  · rw [← Option.some.inj hk]
    exact hop
  · exact h k o hk

namespace Keeps

theorem setOp (h : c.Keeps) (hkeeps : op.keeps = true)
    (hadopted : op.stores = true → c.accessToken ≠ none)
    (hstarts : op.starts = true → ∃ old, c.ops.lookup n = some old ∧ old.starts = true) :
    (c.setOp n op).Keeps where
  vault := h.vault
  ops := forall_setOp hkeeps h.ops
  seeded := h.seeded
  adopted := forall_setOp hadopted h.adopted
  unstarted := h.unstarted
  starting k o hk ho := by
    rw [lookup_setOp] at hk
    split at hk
    · rw [← Option.some.inj hk] at ho
      obtain ⟨old, hold, holdstarts⟩ := hstarts ho
      exact h.starting n old hold holdstarts
    · exact h.starting k o hk ho
  once k o k' o' hk ho hk' ho' := by
    rw [lookup_setOp] at hk hk'
    -- the entry that was put in stands where such an entry was before
    have hentry : ∀ j x, (if j = n then some op else c.ops.lookup j) = some x →
        x.starts = true → ∃ old, c.ops.lookup j = some old ∧ old.starts = true := by
      intro j x hj hx
      split at hj
      · next hjn =>
          rw [← Option.some.inj hj] at hx
          rw [hjn]
          exact hstarts hx
      · exact ⟨x, hj, hx⟩
    obtain ⟨old, hold, holdstarts⟩ := hentry k o hk ho
    obtain ⟨old', hold', holdstarts'⟩ := hentry k' o' hk' ho'
    exact h.once k old k' old' hold holdstarts hold' holdstarts'

theorem endOp (h : c.Keeps) : (c.endOp n).Keeps := by
  have hsub : ∀ k o, (c.endOp n).ops.lookup k = some o → c.ops.lookup k = some o := by
    intro k o hk
    rw [lookup_endOp] at hk
    split at hk
    · cases hk
    · exact hk
  exact
    { vault := h.vault
      ops := fun k o hk => h.ops k o (hsub k o hk)
      seeded := h.seeded
      adopted := fun k o hk => h.adopted k o (hsub k o hk)
      unstarted := h.unstarted
      starting := fun k o hk => h.starting k o (hsub k o hk)
      once := fun k o k' o' hk ho hk' ho' =>
        h.once k o k' o' (hsub k o hk) ho (hsub k' o' hk') ho' }

theorem adopt (h : c.Keeps) (auth : AuthResponse) : (c.adopt auth).Keeps where
  vault := h.vault
  ops := h.ops
  seeded _ := (Option.some_ne_none _)
  adopted _ _ _ _ := (Option.some_ne_none _)
  unstarted := h.unstarted
  starting := h.starting
  once := h.once

/-- The refresh of `start`, with the token it has seeded. -/
theorem starts (h : c.Keeps) (hstarted : c.started = false) (stored : TokenHash) (m : Nat) :
    (({ c with
        started := true
        refreshToken := some stored
        nextOp := c.nextOp + 1 } : Client).setOp c.nextOp (.refreshing .start m)).Keeps := by
  have hnone : ∀ k o, c.ops.lookup k = some o → o.starts ≠ true := by
    intro k o hk ho
    rw [(h.starting k o hk ho).1] at hstarted
    cases hstarted
  have honly : ∀ k o, (if k = c.nextOp then some (.refreshing .start m) else c.ops.lookup k) =
      some o → o.starts = true → k = c.nextOp := by
    intro k o hk ho
    by_contra hne
    rw [if_neg hne] at hk
    exact hnone k o hk ho
  refine ⟨h.vault, forall_setOp rfl h.ops, fun _ => Option.some_ne_none _,
    forall_setOp (fun hstores => by cases hstores) h.adopted, ?_, ?_, ?_⟩
  · intro hfalse
    cases hfalse
  · intro k o hk ho
    exact ⟨rfl, h.unstarted hstarted⟩
  · intro k o k' o' hk ho hk' ho'
    rw [lookup_setOp] at hk hk'
    rw [honly k o hk ho, honly k' o' hk' ho']

/-- The one retry, which is for a session whose `start` is over. -/
theorem retries (h : c.Keeps) (hstarted : c.started = true)
    (hover : ∀ k o, c.ops.lookup k = some o → o.starts ≠ true) (m : Nat) :
    (({ c with
        authRetryUsed := true
        nextOp := c.nextOp + 1 } : Client).setOp c.nextOp
      (.refreshing .recoverFromAuthFailure m)).Keeps := by
  have hnever : ∀ k o, (({ c with
        authRetryUsed := true
        nextOp := c.nextOp + 1 } : Client).setOp c.nextOp
      (.refreshing .recoverFromAuthFailure m)).ops.lookup k = some o → o.starts ≠ true :=
    forall_setOp Bool.false_ne_true hover
  refine ⟨h.vault, forall_setOp rfl h.ops, h.seeded,
    forall_setOp (fun hstores => by cases hstores) h.adopted, ?_, ?_, ?_⟩
  · intro hfalse
    change c.started = false at hfalse
    rw [hstarted] at hfalse
    cases hfalse
  · intro k o hk ho
    exact absurd ho (hnever k o hk)
  · intro k o k' o' hk ho hk' ho'
    exact absurd ho (hnever k o hk)

theorem spawn (h : c.Keeps) (hkeeps : op.keeps = true) (hstores : op.stores = false)
    (hstarts : op.starts = false) : (c.spawn op).Keeps := by
  have hset : (c.setOp c.nextOp op).Keeps := by
    apply h.setOp hkeeps
    · intro htrue
      rw [hstores] at htrue
      cases htrue
    · intro htrue
      rw [hstarts] at htrue
      cases htrue
  exact ⟨hset.vault, hset.ops, hset.seeded, hset.adopted, hset.unstarted, hset.starting, hset.once⟩

theorem retryUnused (h : c.Keeps) : ({ c with authRetryUsed := false } : Client).Keeps where
  vault := h.vault
  ops := h.ops
  seeded := h.seeded
  adopted := h.adopted
  unstarted _ := rfl
  starting n op hop hs := ⟨(h.starting n op hop hs).1, rfl⟩
  once := h.once

theorem stored (h : c.Keeps) (token : TokenHash) :
    ({ c with vault := some token } : Client).Keeps :=
  ⟨Option.some_ne_none _, h.ops, h.seeded, h.adopted, h.unstarted, h.starting, h.once⟩

end Keeps

end

end Client

namespace World

variable {w : World}

/-- From `w` to `w'` the session was kept, and an access token with it. -/
structure Kept (w w' : World) : Prop where
  keeps : w'.client.Keeps
  token : w.client.accessToken ≠ none → w'.client.accessToken ≠ none

theorem Kept.refl (h : w.client.Keeps) : Kept w w :=
  ⟨h, id⟩

theorem keeps_storing (caller : Caller) (m : Nat) (token : TokenHash) :
    (Op.storing caller token).keeps = (Op.refreshing caller m).keeps := by
  cases caller with
  | start => rfl
  | recoverFromAuthFailure => rfl
  | ensureRefreshed => rfl

/-- Nothing is under way that a session nobody ends does not have. -/
theorem Kept.elim {w' : World} {n : Nat} {op : Op} (h : w.client.Keeps)
    (hop : w.client.ops.lookup n = some op) (hkeeps : op.keeps = false) : Kept w w' := by
  have htrue := h.ops n op hop
  rw [hkeeps] at htrue
  cases htrue

/-- `start` seeds the token it finds in the vault. -/
theorem kept_start (h : w.client.Keeps) : Kept w (w.clientStep .start) := by
  obtain ⟨stored, hstored⟩ := Option.ne_none_iff_exists'.mp h.vault
  simp only [clientStep]
  split
  · exact .refl h
  · next hstarted =>
      simp only [hstored]
      exact ⟨h.starts (by simpa using hstarted) stored w.wire.next, id⟩

theorem kept_replied (h : w.client.Keeps) (n : Nat) : Kept w (w.clientStep (.replied n false)) := by
  simp only [clientStep]
  split
  · exact ⟨h.endOp, id⟩
  · exact .refl h

theorem kept_answered {n : Nat} (h : w.client.Keeps) (hrefreshed : w.Refreshed (.answered n)) :
    Kept w (w.clientStep (.answered n)) := by
  simp only [clientStep]
  split
  · next token m retried hop => exact .elim h hop rfl
  · next caller m hop =>
      split
      · next answer hanswer =>
          -- under the assumption a refresh that is answered is answered with a session
          have hissued : isIssued answer = true := by
            have hnew := hrefreshed (by simp [refresher, hop, Op.refresher])
            simpa [answerTo, hop, hanswer] using hnew
          cases answer with
          | issued id =>
              simp only [answeredRefresh]
              split
              · next auth hauth =>
                  refine ⟨(h.adopt auth).setOp ?_ ?_ ?_, fun _ => Option.some_ne_none _⟩
                  · exact (keeps_storing caller m auth.refreshToken).trans (h.ops n _ hop)
                  · exact fun _ => Option.some_ne_none _
                  · exact fun hstarts => ⟨_, hop, hstarts⟩
              · exact .refl h
          | tokenReused familyId => cases hissued
          | unauthorized => cases hissued
          | loggedOut familyId => cases hissued
          | failed => cases hissued
      · exact .refl h
  · next m hop =>
      split
      · next answer hanswer =>
          unfold answeredPair
          split
          · next id =>
              split
              · next auth hauth =>
                  refine ⟨(h.adopt auth).setOp rfl (fun _ => Option.some_ne_none _) ?_,
                    fun _ => Option.some_ne_none _⟩
                  intro hstarts
                  cases hstarts
              · exact .refl h
          · exact ⟨h.endOp, id⟩
      · exact .refl h
  · exact .refl h

theorem kept_networkError {n : Nat} (h : w.client.Keeps)
    (hrefreshed : w.Refreshed (.networkError n)) : Kept w (w.clientStep (.networkError n)) := by
  simp only [clientStep]
  split
  · next task retried hop =>
      cases task with
      | plain => exact ⟨h.endOp, id⟩
      | logout token m => exact .elim h hop rfl
  · next caller m hop =>
      cases caller with
      | start => exact ⟨h.endOp, id⟩
      | recoverFromAuthFailure =>
          exact absurd (by simp [refresher, hop, Op.refresher]) hrefreshed
      | ensureRefreshed => exact .elim h hop rfl
  · exact ⟨h.endOp, id⟩
  · exact .refl h

theorem kept_resumed (h : w.client.Keeps) (n : Nat) : Kept w (w.clientStep (.resumed n)) := by
  simp only [clientStep]
  split
  · next task r hop => exact .elim h hop rfl
  · exact .refl h

theorem kept_finalized (h : w.client.Keeps) (n : Nat) : Kept w (w.clientStep (.finalized n)) := by
  simp only [clientStep]
  split
  · next ok hop => exact .elim h hop rfl
  · exact .refl h

theorem kept_stored {n : Nat} {ok : Bool} (h : w.client.Keeps)
    (hrefreshed : w.Refreshed (.stored n ok)) : Kept w (w.clientStep (.stored n ok)) := by
  simp only [clientStep]
  split
  · next caller token hop =>
      have hok : ok = true := hrefreshed (by simp [refresher, hop, Op.refresher])
      rw [hok, if_pos rfl]
      cases caller with
      | start => exact ⟨h.endOp.stored token, id⟩
      | recoverFromAuthFailure => exact ⟨h.endOp.stored token, id⟩
      | ensureRefreshed => exact .elim h hop rfl
  · next token hop =>
      split
      · exact ⟨h.endOp.retryUnused.stored token, id⟩
      · exact ⟨h.endOp, id⟩
  · exact .refl h

theorem kept_left (h : w.client.Keeps) (n : Nat) : Kept w (w.clientStep (.left n)) := by
  simp only [clientStep]
  split
  · next hop => exact .elim h hop rfl
  · exact .refl h

theorem kept_cleared (h : w.client.Keeps) (n : Nat) : Kept w (w.clientStep (.cleared n)) := by
  simp only [clientStep]
  split
  · next hop => exact .elim h hop rfl
  · exact .refl h

/-- The steps of a session that nobody ends, with the refreshes going well. -/
theorem kept_clientStep {a : ClientAct} (h : w.client.Keeps) (hunended : w.Unended a)
    (hrefreshed : w.Refreshed a) (hsocket : a ≠ .gatewayAuthFailure) (halive : a ≠ .relaunched) :
    Kept w (w.clientStep a) := by
  cases a with
  | start => exact kept_start h
  | pair userId => exact ⟨h.spawn rfl rfl rfl, id⟩
  | signOut => exact hunended.elim
  | request => exact ⟨h.spawn rfl rfl rfl, id⟩
  | gatewayReady => exact ⟨h.retryUnused, id⟩
  | gatewayAuthFailure => exact absurd rfl hsocket
  | replied n unauthorized =>
      obtain rfl : unauthorized = false := hunended
      exact kept_replied h n
  | answered n => exact kept_answered h hrefreshed
  | networkError n => exact kept_networkError h hrefreshed
  | resumed n => exact kept_resumed h n
  | finalized n => exact kept_finalized h n
  | stored n ok => exact kept_stored h hrefreshed
  | left n => exact kept_left h n
  | cleared n => exact kept_cleared h n
  | relaunched => exact absurd rfl halive

/-- The first authentication failure after `start` is over is answered by a refresh. -/
theorem kept_gatewayAuthFailure (h : w.client.Keeps) (hstarted : w.client.started = true)
    (hunused : w.client.authRetryUsed = false)
    (hover : ∀ n op, w.client.ops.lookup n = some op → op.starts ≠ true) :
    Kept w (w.clientStep .gatewayAuthFailure) := by
  obtain ⟨token, htoken⟩ := Option.ne_none_iff_exists'.mp (h.seeded hstarted)
  have hretry : ¬(w.client.authRetryUsed = true ∨ w.client.refreshToken.isNone = true) := by
    simp [hunused, htoken]
  simp only [clientStep, if_neg hretry, refreshSession, locally]
  split
  · next hnone =>
      rw [htoken] at hnone
      cases hnone
  · exact ⟨h.retries hstarted hover w.wire.next, id⟩

end World

end ApiClient

/-! ## The runs -/

namespace Runtime

structure KeptInv (r : Runtime) : Prop where
  keeps : r.world.client.Keeps
  phase : r.phase ≠ .pairing
  /-- A gateway that runs has a token to identify with. -/
  running : r.gateway.stopped = false → r.world.client.accessToken ≠ none

namespace KeptInv

variable {r : Runtime} {a : ClientAct} {n : Nat}

theorem launched {world : ApiClient.World} (hvault : world.client.vault ≠ none) :
    KeptInv (launched world) where
  keeps := Client.keeps_launched hvault
  phase := AuthPhase.noConfusion
  running hrunning := by cases hrunning

theorem kept (h : r.KeptInv) : r.Kept :=
  ⟨h.keeps.vault, h.phase⟩

theorem setPhase (h : r.KeptInv) {phase : AuthPhase} (hphase : phase ≠ .pairing) :
    (r.setPhase phase).KeptInv :=
  ⟨h.keeps, hphase, h.running⟩

/-- Stopping the gateway breaks nothing. -/
theorem advance (h : r.KeptInv) (hkept : r.world.Kept (r.world.clientStep a)) :
    (r.advance a).KeptInv where
  keeps := hkept.keeps
  phase := h.phase
  running hrunning := by
    simp only [Runtime.advance] at hrunning
    split at hrunning
    · simp at hrunning
    · exact hkept.token (h.running hrunning)

theorem withGateway (h : r.KeptInv) {gateway : GatewayClient} (sockets : Nat)
    (hrunning : gateway.stopped = false → r.world.client.accessToken ≠ none) :
    KeptInv { r with gateway := gateway, sockets := sockets } :=
  ⟨h.keeps, h.phase, hrunning⟩

theorem gatewayStart (h : r.KeptInv) (htoken : r.world.client.accessToken ≠ none) :
    r.gatewayStart.KeptInv := by
  obtain ⟨gateway, -, hstart⟩ := gatewayStart_of_token htoken
  rw [hstart]
  exact h.withGateway _ fun _ => htoken

/-- The start that found no server comes back for a refresh. -/
theorem gatewayStart_unrefreshed (h : r.KeptInv) (hstarted : r.world.client.started = true)
    (hunused : r.world.client.authRetryUsed = false)
    (hover : ∀ k op, r.world.client.ops.lookup k = some op → op.starts ≠ true) :
    r.gatewayStart.KeptInv := by
  cases htoken : r.world.client.accessToken with
  | some token => exact h.gatewayStart (by rw [htoken]; exact Option.some_ne_none _)
  | none =>
      cases hstopped : r.gateway.stopped with
      | false => exact absurd htoken (h.running hstopped)
      | true =>
          obtain ⟨gateway, hstays, -, -, hstart⟩ := gatewayStart_of_no_token htoken hstopped
          rw [hstart, recoverFromAuthFailure]
          apply advance
          · exact h.withGateway _ fun hrunning => by rw [hstays] at hrunning; cases hrunning
          · exact ApiClient.World.kept_gatewayAuthFailure h.keeps hstarted hunused hover

theorem networkError (h : r.KeptInv) (hrefreshed : r.world.Refreshed (.networkError n)) :
    (r.networkError n).KeptInv := by
  have hadvanced := h.advance (ApiClient.World.kept_networkError h.keeps hrefreshed)
  unfold Runtime.networkError
  split
  · next m hop =>
      have hworld : (r.advance (.networkError n)).world = r.world.locally (·.endOp n) := by
        unfold op at hop
        simp only [Runtime.advance, ApiClient.World.clientStep, hop]
        rfl
      obtain ⟨hstarted, hunused⟩ := h.keeps.starting n _ hop rfl
      apply gatewayStart_unrefreshed
      · exact hadvanced.setPhase AuthPhase.noConfusion
      · exact (congrArg (·.client.started) hworld).trans hstarted
      · exact (congrArg (·.client.authRetryUsed) hworld).trans hunused
      · intro k op hk hstarts
        change (r.advance (.networkError n)).world.client.ops.lookup k = some op at hk
        rw [hworld] at hk
        change (r.world.client.endOp n).ops.lookup k = some op at hk
        rw [Client.lookup_endOp] at hk
        split at hk
        · cases hk
        · next hne => exact hne (h.keeps.once k op n _ hk hstarts hop rfl)
  · exact hadvanced

theorem stored (h : r.KeptInv) (hrefreshed : r.world.Refreshed (.stored n true)) :
    (r.stored n).KeptInv := by
  have hkept := ApiClient.World.kept_stored h.keeps hrefreshed
  have hadvanced := h.advance hkept
  unfold Runtime.stored
  split
  · next token hop =>
      exact (hadvanced.setPhase AuthPhase.noConfusion).gatewayStart
        (hkept.token (h.keeps.adopted n _ hop rfl))
  · next token hop => exact hadvanced.gatewayStart (hkept.token (h.keeps.adopted n _ hop rfl))
  · next token hop =>
      exact (hadvanced.setPhase AuthPhase.noConfusion).gatewayStart
        (hkept.token (h.keeps.adopted n _ hop rfl))
  · exact hadvanced

theorem start (h : r.KeptInv) : r.start.KeptInv := by
  have hkept := ApiClient.World.kept_start h.keeps
  unfold Runtime.start
  split
  · exact h
  · split
    · next hnone => exact absurd hnone h.keeps.vault
    · exact h.advance hkept

theorem cleared (h : r.KeptInv) : (r.cleared n).KeptInv ∧ (r.clearFailed n).KeptInv := by
  have hnone : r.op n ≠ some .clearing := by
    intro hop
    exact Bool.false_ne_true (h.keeps.ops n _ hop)
  unfold Runtime.cleared Runtime.clearFailed
  split
  · next hop => exact absurd hop hnone
  · exact ⟨h, h⟩

theorem client (h : r.KeptInv) (hunended : r.world.Unended a) (hrefreshed : r.world.Refreshed a) :
    (r.client a).KeptInv := by
  have hadvance : a ≠ .gatewayAuthFailure → a ≠ .relaunched → (r.advance a).KeptInv :=
    fun hsocket halive =>
      h.advance (ApiClient.World.kept_clientStep h.keeps hunended hrefreshed hsocket halive)
  cases a with
  | start => exact h.start
  | networkError n => exact h.networkError hrefreshed
  | stored n ok =>
      cases ok with
      | true => exact h.stored hrefreshed
      | false => exact hadvance ClientAct.noConfusion ClientAct.noConfusion
  | cleared n => exact h.cleared.1
  | relaunched => exact launched h.keeps.vault
  | gatewayReady => exact h
  | gatewayAuthFailure => exact h
  | pair userId => exact hadvance ClientAct.noConfusion ClientAct.noConfusion
  | signOut => exact hunended.elim
  | request => exact hadvance ClientAct.noConfusion ClientAct.noConfusion
  | replied n unauthorized => exact hadvance ClientAct.noConfusion ClientAct.noConfusion
  | answered n => exact hadvance ClientAct.noConfusion ClientAct.noConfusion
  | resumed n => exact hadvance ClientAct.noConfusion ClientAct.noConfusion
  | finalized n => exact hadvance ClientAct.noConfusion ClientAct.noConfusion
  | left n => exact hadvance ClientAct.noConfusion ClientAct.noConfusion

theorem ready (h : r.KeptInv) (seq heartbeatIntervalMs now : Nat) (sessionId : Protocol.Uuid) :
    (r.ready seq sessionId heartbeatIntervalMs now).KeptInv := by
  unfold Runtime.ready
  split
  · exact h
  · rw [gatewayCall_quiet (by simp)]
    apply setPhase
    · apply advance
      · exact h.withGateway _ fun hrunning => h.running (by simpa using hrunning)
      · exact ⟨h.keeps.retryUnused, id⟩
    · exact AuthPhase.noConfusion

theorem closed (h : r.KeptInv) (now backoff : Nat) {code : UInt16}
    (hcode : code ≠ CloseCode.authenticationFailed) : (r.closed now code backoff).KeptInv := by
  unfold Runtime.closed
  split
  · exact h
  · cases hstopped : r.gateway.stopped with
    | true =>
        obtain ⟨hfatals, hstays⟩ := @GatewayClient.handleClose_stopped now (fun _ => backoff) code
          { r.gateway with fatals := [] } hstopped
        rw [gatewayCall_quiet hfatals]
        exact h.withGateway _ fun hrunning => by rw [hstays] at hrunning; cases hrunning
    | false =>
        have htoken := h.running hstopped
        obtain ⟨-, hfatals, -⟩ := @GatewayClient.handleClose_running now (fun _ => backoff) code
          { r.gateway with fatals := [] } hstopped
        rw [if_neg hcode] at hfatals
        split at hfatals
        · rw [gatewayCall_fatal .outdatedClient hfatals]
          exact (h.withGateway _ fun _ => htoken).setPhase AuthPhase.noConfusion
        · rw [gatewayCall_quiet hfatals]
          exact h.withGateway _ fun _ => htoken

theorem retry (h : r.KeptInv) : r.retry.KeptInv := by
  obtain ⟨hfatals, hstopped⟩ := GatewayClient.retry_of_token (c := { r.gateway with fatals := [] })
    r.sockets h.running
  unfold Runtime.retry
  rw [gatewayCall_quiet hfatals]
  exact h.withGateway _ fun hrunning => h.running (hstopped.symm.trans hrunning)

theorem step {ttl : Nat} (h : r.KeptInv) (act : Act) (hunended : r.Unended act)
    (hrefreshed : r.Refreshed act) : (r.step ttl act).KeptInv := by
  cases act with
  | world a =>
      cases a with
      | client a => exact h.client hunended hrefreshed
      | arrive m fresh => exact ⟨h.keeps, h.phase, h.running⟩
      | serve m => exact ⟨h.keeps, h.phase, h.running⟩
      | fail m => exact ⟨h.keeps, h.phase, h.running⟩
      | tick ms => exact ⟨h.keeps, h.phase, h.running⟩
  | clearFailed n => exact h.cleared.2
  | ready seq sessionId heartbeatIntervalMs now =>
      exact h.ready seq heartbeatIntervalMs now sessionId
  | closed now code backoff => exact h.closed now backoff hunended
  | retry => exact h.retry

end KeptInv

/-- In every run in which neither the user nor the server ends the session, the vault keeps
a token and the user is not asked to pair, as long as the refreshes `start` and
`recoverFromAuthFailure` ask for go well, but that the one of `start` may be lost. -/
theorem kept_of_refreshed {ttl : Nat} {world : ApiClient.World} {acts : List Act}
    (hvault : world.client.vault ≠ none)
    (hunended : EachStep (step ttl) Unended (launched world) acts)
    (hrefreshed : EachStep (step ttl) Refreshed (launched world) acts) :
    Throughout (step ttl) Kept (launched world) acts :=
  (throughout_of_eachStep (fun _ act hinv hok => hinv.step act hok.1 hok.2)
    (KeptInv.launched hvault) (hunended.and hrefreshed)).mono fun _ hinv => hinv.kept

/-- A client that has paired with the account 5. -/
def paired : ApiClient.World :=
  run (ApiClient.World.step 60) (.init [5])
    [.client (.pair 5), .arrive 0 42, .serve 0, .client (.answered 0), .client (.stored 0 true)]

/-- The first refresh is lost before it reaches the server, the second one goes well. -/
theorem kept_of_refreshed_second :
    Throughout (step 60) Kept (launched paired)
      [.world (.client .start), .world (.client (.networkError 0)), .world (.arrive 2 43),
        .world (.serve 2), .world (.serve 2), .world (.serve 2), .world (.serve 2),
        .world (.client (.answered 1)), .world (.client (.stored 1 true)), .ready 1 7 30000 0,
        .closed 1 1006 500, .retry] :=
  kept_of_refreshed (by decide) (by decide) (by decide)

/-- The server cannot be reached.  `start` keeps the session and starts the gateway, which
has no access token; the refresh that is to recover it is lost too. -/
theorem unreachable_server_ends_session :
    ¬ ∀ ttl world acts, world.client.vault ≠ none →
      EachStep (step ttl) Unended (launched world) acts →
      Throughout (step ttl) Kept (launched world) acts := by
  intro hall
  have hrun := throughout_iff_initial.mp (hall 60 paired
    [.world (.client .start), .world (.client (.networkError 0)),
      .world (.client (.networkError 1)), .world (.client (.left 1)),
      .world (.client (.networkError 1)), .world (.client (.cleared 1))] (by decide) (by decide))
    _ (List.prefix_refl _)
  revert hrun
  decide

end Runtime

end Desktop
end Ldktela
