import Ldktela.Desktop.Runtime

/-!
# What is left of a session after `signOut`

`signOut` waits for the media, for the server and for the vault, and what was under way
before it goes on meanwhile: a refresh or a pairing ends in `adopt`, in the vault and in
`gateway.start`, and asks nobody whether the session was given up.

The invariant is about who is still to come.  After a `signOut`, tokens are there only
while a `signOut` is on its way to `forget`, and a token in the vault or a phase other than
`pairing` only while one is on its way to its end; the gateway is closed all along.
`signedOut_of_careful` says which steps break it.
-/

namespace Ldktela
namespace Desktop

open Protocol
open Db (TokenHash)
open Runs
open Auth (Answer)
open ApiClient (ClientAct Client Op Caller Task Outcome)

namespace ApiClient

/-- A `signOut` on its way to `forget`. -/
def Op.forgets : Op → Bool
  | .leaving => true
  | .request (.logout _ _) _ => true
  | .waiting (.logout _ _) _ => true
  | _ => false

/-- A `signOut` on its way to its end. -/
def Op.clears (op : Op) : Bool :=
  op.forgets || op = .clearing

/-- What waits for the operation goes on to start the gateway: when its token is stored, or
when its request is lost. -/
def Op.restarts (stored : Bool) : Op → Bool
  | .storing .start _ => stored
  | .storing .recoverFromAuthFailure _ => stored
  | .storingPair _ => stored
  | .refreshing .start _ => !stored
  | _ => false

/-- A promise that is settled is not waited for. -/
def Op.pending : Op → Bool
  | .settled _ => false
  | _ => true

namespace Client

/-- Something of the kind is under way. -/
def has (p : Op → Bool) (c : Client) : Bool :=
  c.ops.vals.any p

/-- The client holds a token. -/
def Tokens (c : Client) : Prop :=
  c.accessToken ≠ none ∨ c.refreshToken ≠ none

end Client

namespace World

/-- Operation `n` waits for the answer of a refresh or of a pairing, and the answer is a
new pair. -/
def brings (n : Nat) (w : World) : Bool :=
  match w.client.ops.lookup n with
  | some (.refreshing _ m) => (w.wire.answer m matches some (.issued _))
  | some (.pairing m) => (w.wire.answer m matches some (.issued _))
  | _ => false

end World

end ApiClient

namespace Runtime

/-- Nothing of the session is left. -/
structure Clean (r : Runtime) : Prop where
  accessToken : r.world.client.accessToken = none
  refreshToken : r.world.client.refreshToken = none
  vault : r.world.client.vault = none
  stopped : r.gateway.stopped = true
  socket : r.gateway.socket = none
  retryTimer : r.gateway.retryTimer = none
  phase : r.phase = .pairing

/-- Once nothing is pending, nothing of the session is left. -/
def Final (r : Runtime) : Prop :=
  r.world.client.has Op.pending = false → r.Clean

/-- After a `signOut` nobody pairs or seeds a token, the process goes on, and the vault
deletes what it is told to. -/
def NoReturn (r : Runtime) : Act → Prop
  | .world (.client (.pair _)) => False
  | .world (.client .start) => r.world.client.started = true ∨ r.world.client.vault = none
  | .world (.client .relaunched) => False
  | .clearFailed n => r.op n ≠ some .clearing
  | _ => True

/-- The gateway is not started with an access token when operation `n` ends. -/
def Stays (stored : Bool) (n : Nat) (r : Runtime) : Prop :=
  (r.op n).any (Op.restarts stored) = true → r.world.client.accessToken = none

/-- What was under way brings tokens only before they are forgotten, stores them only before
the vault is cleared, and goes on to start the gateway only without an access token. -/
def Careful (r : Runtime) : Act → Prop
  | .world (.client (.answered n)) =>
      r.world.brings n = true → r.world.client.has Op.forgets = true
  | .world (.client (.stored n true)) =>
      r.Stays true n ∧ ((r.op n).any Op.stores = true → (r.op n).any (Op.restarts true) = false →
        r.world.client.has Op.clears = true)
  | .world (.client (.networkError n)) => r.Stays false n
  | _ => True

instance (stored : Bool) (n : Nat) (r : Runtime) : Decidable (r.Stays stored n) :=
  inferInstanceAs (Decidable (_ → _))

instance (r : Runtime) : ∀ act, Decidable (r.Careful act)
  | .world (.client (.answered _)) => inferInstanceAs (Decidable (_ → _))
  | .world (.client (.stored _ true)) => inferInstanceAs (Decidable (_ ∧ (_ → _ → _)))
  | .world (.client (.networkError n)) => inferInstanceAs (Decidable (r.Stays false n))
  | .world (.client (.stored _ false)) | .world (.client (.pair _)) | .world (.client .start)
  | .world (.client .relaunched) | .world (.client .signOut) | .world (.client .request)
  | .world (.client .gatewayReady) | .world (.client .gatewayAuthFailure)
  | .world (.client (.replied _ _)) | .world (.client (.resumed _))
  | .world (.client (.finalized _)) | .world (.client (.left _)) | .world (.client (.cleared _))
  | .world (.arrive _ _) | .world (.serve _) | .world (.fail _) | .world (.tick _)
  | .clearFailed _ | .ready _ _ _ _ | .closed _ _ _ | .retry => .isTrue trivial

instance (r : Runtime) : ∀ act, Decidable (r.NoReturn act)
  | .world (.client (.pair _)) => .isFalse id
  | .world (.client .start) => inferInstanceAs (Decidable (_ ∨ _))
  | .world (.client .relaunched) => .isFalse id
  | .clearFailed _ => inferInstanceAs (Decidable (_ ≠ _))
  | .world (.client .signOut) | .world (.client .request) | .world (.client .gatewayReady)
  | .world (.client .gatewayAuthFailure) | .world (.client (.replied _ _))
  | .world (.client (.answered _)) | .world (.client (.networkError _))
  | .world (.client (.resumed _)) | .world (.client (.finalized _))
  | .world (.client (.stored _ _)) | .world (.client (.left _)) | .world (.client (.cleared _))
  | .world (.arrive _ _) | .world (.serve _) | .world (.fail _) | .world (.tick _)
  | .ready _ _ _ _ | .closed _ _ _ | .retry => .isTrue trivial

end Runtime

/-! ## The client -/

namespace ApiClient

namespace Client

section

variable {p : Op → Bool} {c : Client} {n : Nat} {op : Op}

theorem has_iff : c.has p = true ↔ ∃ n op, c.ops.lookup n = some op ∧ p op = true := by
  unfold has
  rw [List.any_eq_true]
  constructor
  · intro h
    obtain ⟨op, hop, hp⟩ := h
    obtain ⟨n, hn⟩ := AList.mem_vals_iff.mp hop
    exact ⟨n, op, hn, hp⟩
  · intro h
    obtain ⟨n, op, hn, hp⟩ := h
    exact ⟨op, AList.mem_vals_iff.mpr ⟨n, hn⟩, hp⟩

/-- What is put in the place of something else is under way instead of it. -/
theorem has_setOp (hold : ∀ old, c.ops.lookup n = some old → p old = true → p op = true)
    (h : c.has p = true) : (c.setOp n op).has p = true := by
  obtain ⟨k, o, hk, ho⟩ := has_iff.mp h
  by_cases hkn : k = n
  · subst hkn
    exact has_iff.mpr ⟨k, op, by simp [setOp], hold o hk ho⟩
  · refine has_iff.mpr ⟨k, o, ?_, ho⟩
    rw [setOp, AList.lookup_insert_ite, if_neg hkn]
    exact hk

theorem has_endOp (hold : ∀ old, c.ops.lookup n = some old → p old = false)
    (h : c.has p = true) : (c.endOp n).has p = true := by
  obtain ⟨k, o, hk, ho⟩ := has_iff.mp h
  have hkn : k ≠ n := by
    rintro rfl
    rw [hold o hk] at ho
    cases ho
  refine has_iff.mpr ⟨k, o, ?_, ho⟩
  rw [endOp, AList.lookup_erase_ite, if_neg hkn]
  exact hk

theorem clears_of_lookup (hop : c.ops.lookup n = some op) (hclears : op.clears = false) :
    ∀ old, c.ops.lookup n = some old → old.clears = false := by
  intro old hold
  rw [← Option.some.inj (hop.symm.trans hold)]
  exact hclears

/-- A `signOut` takes a number that was free. -/
theorem lookup_signOut (hn : n < c.nextOp) : c.signOut.ops.lookup n = c.ops.lookup n := by
  show (c.ops.insert c.nextOp .leaving).lookup n = c.ops.lookup n
  rw [AList.lookup_insert_ite, if_neg (Nat.ne_of_lt hn)]

theorem not_tokens_forget (c : Client) : ¬ c.forget.Tokens := by
  intro h
  cases h with
  | inl haccess => exact haccess rfl
  | inr hrefresh => exact hrefresh rfl

end

/-- What holds of the client in a phase; `out` is that a `signOut` was called and nobody
has come back since. -/
structure SignedOut (out : Prop) (c : Client) (phase : AuthPhase) : Prop where
  /-- Numbers from `nextOp` on are not in use. -/
  fresh : ∀ n, c.nextOp ≤ n → c.ops.lookup n = none
  tokens : out → c.Tokens → c.has Op.forgets = true
  left : out → c.vault ≠ none ∨ phase ≠ .pairing → c.has Op.clears = true

namespace SignedOut

variable {out : Prop} {c : Client} {phase : AuthPhase} {n : Nat} {op old : Op}

/-- Before any `signOut` there is only the numbering to keep. -/
theorem of_fresh {phase' : AuthPhase} (h : SignedOut out c phase) : SignedOut False c phase' where
  fresh := h.fresh
  tokens := False.elim
  left := False.elim

theorem launched (vault : Option TokenHash) : SignedOut False (launched vault) phase where
  fresh _ _ := rfl
  tokens := False.elim
  left := False.elim

theorem lt_nextOp (h : SignedOut out c phase) (hop : c.ops.lookup n = some op) : n < c.nextOp := by
  by_contra hle
  rw [h.fresh n (Nat.le_of_not_lt hle)] at hop
  cases hop

/-- An operation in the place of another one. -/
theorem setOp (h : SignedOut out c phase) (hn : n < c.nextOp)
    (hforgets : ∀ old, c.ops.lookup n = some old → old.forgets = true → c.Tokens →
      op.forgets = true)
    (hclears : ∀ old, c.ops.lookup n = some old → old.clears = true → op.clears = true) :
    SignedOut out (c.setOp n op) phase where
  fresh k hk := by
    rw [Client.setOp, AList.lookup_insert_ite, if_neg (Nat.ne_of_gt (Nat.lt_of_lt_of_le hn hk))]
    exact h.fresh k hk
  tokens hout htokens :=
    has_setOp (fun old hold hf => hforgets old hold hf htokens) (h.tokens hout htokens)
  left hout hleft := has_setOp hclears (h.left hout hleft)

/-- Anything in the place of what is no `signOut`. -/
theorem replace (h : SignedOut out c phase) (hn : n < c.nextOp)
    (hold : ∀ old, c.ops.lookup n = some old → old.clears = false) (op : Op) :
    SignedOut out (c.setOp n op) phase := by
  apply h.setOp hn
  · intro old hn hforgets
    have hclears := hold old hn
    rw [Op.clears, hforgets] at hclears
    cases hclears
  · intro old hn hclears
    rw [hold old hn] at hclears
    cases hclears

/-- An operation under a new number. -/
theorem setNew (h : SignedOut out c phase) (op : Op) :
    SignedOut out { c.setOp c.nextOp op with nextOp := c.nextOp + 1 } phase where
  fresh k hk := by
    have hne : k ≠ c.nextOp := Nat.ne_of_gt hk
    show (c.ops.insert c.nextOp op).lookup k = none
    rw [AList.lookup_insert_ite, if_neg hne]
    exact h.fresh k (Nat.le_of_lt hk)
  tokens hout htokens := by
    refine has_setOp (fun old hold => ?_) (h.tokens hout htokens)
    rw [h.fresh c.nextOp (Nat.le_refl _)] at hold
    cases hold
  left hout hleft := by
    refine has_setOp (fun old hold => ?_) (h.left hout hleft)
    rw [h.fresh c.nextOp (Nat.le_refl _)] at hold
    cases hold

theorem endOp (h : SignedOut out c phase)
    (hold : ∀ old, c.ops.lookup n = some old → old.clears = false) :
    SignedOut out (c.endOp n) phase where
  fresh k hk := by
    rw [Client.endOp, AList.lookup_erase_ite]
    split
    · rfl
    · exact h.fresh k hk
  tokens hout htokens := by
    refine has_endOp (fun old hn => ?_) (h.tokens hout htokens)
    have hclears := hold old hn
    unfold Op.clears at hclears
    exact (Bool.or_eq_false_iff.mp hclears).1
  left hout hleft := has_endOp hold (h.left hout hleft)

theorem forget (h : SignedOut out c phase) : SignedOut out c.forget phase where
  fresh := h.fresh
  tokens _ htokens := absurd htokens (not_tokens_forget c)
  left := h.left

/-- `signOut` restores everything. -/
theorem of_leaving (hfresh : ∀ n, c.nextOp ≤ n → c.ops.lookup n = none)
    (hop : c.ops.lookup n = some .leaving) : SignedOut out c phase where
  fresh := hfresh
  tokens _ _ := has_iff.mpr ⟨n, .leaving, hop, rfl⟩
  left _ _ := has_iff.mpr ⟨n, .leaving, hop, rfl⟩

theorem signOut {out' : Prop} {phase' : AuthPhase} (h : SignedOut out c phase) :
    SignedOut out' c.signOut phase' :=
  of_leaving (n := c.nextOp) (h.setNew .leaving).fresh
    (by simp [Client.signOut, Client.spawn, Client.setOp])

/-- The end of a `signOut`. -/
theorem cleared (h : SignedOut out c phase) (hop : c.ops.lookup n = some .clearing)
    {vault : Option TokenHash} {phase' : AuthPhase}
    (hleft : out → vault = none ∧ phase' = .pairing) :
    SignedOut out { c.endOp n with vault := vault } phase' where
  fresh k hk := by
    show (c.ops.erase n).lookup k = none
    rw [AList.lookup_erase_ite]
    split
    · rfl
    · exact h.fresh k hk
  tokens hout htokens := by
    refine has_endOp (fun old hold => ?_) (h.tokens hout htokens)
    rw [← Option.some.inj (hop.symm.trans hold)]
    rfl
  left hout hany := by
    obtain ⟨hvault, hphase⟩ := hleft hout
    cases hany with
    | inl hne => exact absurd hvault hne
    | inr hne => exact absurd hphase hne

/-- With tokens to forget, a `signOut` is on its way to its end, whatever is stored or shown
meanwhile. -/
theorem endOp_of_tokens (h : SignedOut out c phase)
    (hold : ∀ old, c.ops.lookup n = some old → old.clears = false) (htokens : c.Tokens)
    (vault : Option TokenHash) (used : Bool) (phase' : AuthPhase) :
    SignedOut out { c.endOp n with vault := vault, authRetryUsed := used } phase' where
  fresh := (h.endOp hold).fresh
  tokens := (h.endOp hold).tokens
  left hout _ := by
    obtain ⟨k, op, hk, hforgets⟩ := has_iff.mp ((h.endOp hold).tokens hout htokens)
    exact has_iff.mpr ⟨k, op, hk, by rw [Op.clears, hforgets, Bool.true_or]⟩

/-- What a refresh leaves when it ends. -/
theorem refreshed (h : SignedOut out c phase) (hn : n < c.nextOp)
    (hold : ∀ old, c.ops.lookup n = some old → old.clears = false) (caller : Caller)
    (outcome : Outcome) : SignedOut out (c.refreshed n caller outcome) phase := by
  have hset : ∀ op, SignedOut out (c.setOp n op) phase := h.replace hn hold
  cases caller with
  | ensureRefreshed =>
      cases outcome with
      | ok => exact hset _
      | networkError => exact hset _
      | error => exact hset _
  | start =>
      cases outcome with
      | ok => exact h.endOp hold
      | networkError => exact h.endOp hold
      | error => exact hset _
  | recoverFromAuthFailure =>
      cases outcome with
      | ok => exact h.endOp hold
      | networkError => exact hset _
      | error => exact hset _

/-- What a request leaves when it ends. -/
theorem requested (h : SignedOut out c phase) {task : Task} (hn : n < c.nextOp)
    (hold : task = .plain → ∀ old, c.ops.lookup n = some old → old.clears = false) :
    SignedOut out (c.requested n task) phase := by
  cases task with
  | plain => exact h.endOp (hold rfl)
  | logout token m =>
      apply h.forget.setOp hn
      · exact fun _ _ _ htokens => absurd htokens (not_tokens_forget c)
      · exact fun _ _ _ => rfl

end SignedOut

end Client

namespace World

open Client (SignedOut clears_of_lookup lookup_signOut)

variable {out : Prop} {w : World} {phase : AuthPhase} {n : Nat} {op old : Op}

/-- Without a token the session is given up once more. -/
theorem signedOut_lost (h : SignedOut out w.client phase) (hn : n < w.client.nextOp)
    (hold : ∀ old, w.client.ops.lookup n = some old → old.clears = false) (caller : Caller) :
    SignedOut out (w.client.forget.onSessionLost.refreshed n caller .error) phase := by
  apply SignedOut.refreshed
  · exact h.forget.signOut
  · exact Nat.lt_succ_of_lt hn
  · exact fun old hlookup => hold old ((lookup_signOut hn).symm.trans hlookup)

theorem signedOut_refreshSession (h : SignedOut out w.client phase) (hn : n < w.client.nextOp)
    (hold : ∀ old, w.client.ops.lookup n = some old → old.clears = false) (caller : Caller) :
    SignedOut out (w.refreshSession n caller).client phase := by
  unfold refreshSession
  split
  · exact signedOut_lost h hn hold caller
  · exact h.replace hn hold _

theorem signedOut_ensureRefreshed (h : SignedOut out w.client phase) {task : Task}
    {retried : Bool} (hop : w.client.ops.lookup n = some (.request task retried)) :
    SignedOut out (w.ensureRefreshed n task).client phase := by
  have hwaiting : ∀ r, SignedOut out (w.client.setOp n (.waiting task r)) phase := by
    intro r
    apply h.setOp (h.lt_nextOp hop)
    · intro old hold hforgets _
      rw [← Option.some.inj (hop.symm.trans hold)] at hforgets
      cases task with
      | plain => cases hforgets
      | logout token m => rfl
    · intro old hold hclears
      rw [← Option.some.inj (hop.symm.trans hold)] at hclears
      cases task with
      | plain => cases hclears
      | logout token m => rfl
  unfold ensureRefreshed
  split
  · exact hwaiting _
  · dsimp only
    have hset := hwaiting w.client.nextOp
    apply signedOut_refreshSession
    · exact ⟨fun k hk => hset.fresh k (Nat.le_of_lt hk), hset.tokens, hset.left⟩
    · exact Nat.lt_succ_self _
    · intro old hold
      change (w.client.setOp n (.waiting task w.client.nextOp)).ops.lookup w.client.nextOp =
        some old at hold
      have hfree := hset.fresh w.client.nextOp (Nat.le_refl _)
      rw [hfree] at hold
      cases hold

theorem signedOut_received (h : SignedOut out w.client phase) {task : Task}
    {retried : Bool} (hop : w.client.ops.lookup n = some (.request task retried))
    (retried' unauthorized : Bool) :
    SignedOut out (w.received n task retried' unauthorized).client phase := by
  have hn := h.lt_nextOp hop
  have hplain : task = .plain → ∀ old, w.client.ops.lookup n = some old → old.clears = false := by
    rintro rfl
    exact clears_of_lookup hop rfl
  unfold received
  split
  · split
    · apply SignedOut.requested
      · exact h.forget.signOut
      · exact Nat.lt_succ_of_lt hn
      · exact fun htask old hlookup => hplain htask old ((lookup_signOut hn).symm.trans hlookup)
    · exact signedOut_ensureRefreshed h hop
  · exact h.requested hn hplain

theorem signedOut_resend (h : SignedOut out w.client phase) {task : Task} {r : Nat}
    (hop : w.client.ops.lookup n = some (.waiting task r)) :
    SignedOut out (w.resend n task).client phase := by
  unfold resend
  cases task with
  | plain =>
      exact h.replace (h.lt_nextOp hop) (clears_of_lookup hop rfl) _
  | logout token m => exact h.setOp (h.lt_nextOp hop) (fun _ _ _ _ => rfl) fun _ _ _ => rfl

theorem signedOut_logout (h : SignedOut out w.client phase) (hn : n < w.client.nextOp) :
    SignedOut out (w.logout n).client phase := by
  unfold logout
  split
  · apply h.forget.setOp hn
    · exact fun _ _ _ htokens => absurd htokens (Client.not_tokens_forget w.client)
    · exact fun _ _ _ => rfl
  · exact h.setOp hn (fun _ _ _ _ => rfl) fun _ _ _ => rfl

/-- New tokens come before they are forgotten. -/
theorem signedOut_adopt (h : SignedOut out w.client phase) (auth : AuthResponse)
    (hop : w.client.ops.lookup n = some old) (hold : old.clears = false)
    (hforgets : out → w.client.has Op.forgets = true) :
    SignedOut out ((w.client.adopt auth).setOp n op) phase := by
  have hadopted : SignedOut out (w.client.adopt auth) phase :=
    ⟨h.fresh, fun hout _ => hforgets hout, h.left⟩
  exact hadopted.replace (h.lt_nextOp hop) (clears_of_lookup hop hold) op

/-! ### The steps -/

theorem signedOut_start (h : SignedOut out w.client phase)
    (hseeds : out → w.client.started = true ∨ w.client.vault = none) :
    SignedOut out (w.clientStep .start).client phase := by
  simp only [clientStep]
  split
  · exact h
  · next hstarted =>
      split
      · exact ⟨h.fresh, h.tokens, h.left⟩
      · next stored hstored =>
          have hnot : ¬out := by
            intro hout
            cases hseeds hout with
            | inl hstart => exact hstarted hstart
            | inr hnone =>
                rw [hstored] at hnone
                cases hnone
          exact ⟨(h.setNew _).fresh, fun hout => (hnot hout).elim, fun hout => (hnot hout).elim⟩

/-- `recoverFromAuthFailure` gives the session up, or has a refresh token. -/
theorem signedOut_gatewayAuthFailure (hfresh : SignedOut False w.client phase)
    (h : w.client.Tokens → SignedOut out w.client phase) :
    SignedOut out (w.clientStep .gatewayAuthFailure).client phase := by
  simp only [clientStep]
  split
  · exact hfresh.signOut
  · next hretry =>
      have hout : SignedOut out w.client phase := by
        apply h
        right
        intro hnone
        exact hretry (.inr (by rw [hnone]; rfl))
      apply signedOut_refreshSession
      · exact ⟨fun k hk => hout.fresh k (Nat.le_of_lt hk), hout.tokens, hout.left⟩
      · exact Nat.lt_succ_self _
      · intro old hold
        change w.client.ops.lookup w.client.nextOp = some old at hold
        rw [hout.fresh _ (Nat.le_refl _)] at hold
        cases hold

theorem signedOut_replied (h : SignedOut out w.client phase) (unauthorized : Bool) :
    SignedOut out (w.clientStep (.replied n unauthorized)).client phase := by
  simp only [clientStep]
  split
  · next retried hop => exact signedOut_received h hop _ _
  · exact h

theorem signedOut_answered (h : SignedOut out w.client phase)
    (hbrings : out → w.brings n = true → w.client.has Op.forgets = true) :
    SignedOut out (w.clientStep (.answered n)).client phase := by
  simp only [clientStep]
  split
  · next token m retried hop =>
      split
      · exact signedOut_received h hop _ _
      · exact h
  · next caller m hop =>
      have hold := clears_of_lookup hop rfl
      split
      · next answer hanswer =>
          unfold answeredRefresh
          split
          · next id =>
              split
              · next auth hauth =>
                  -- after the sign-out something is left that forgets the session
                  apply signedOut_adopt h auth hop rfl
                  exact fun hout => hbrings hout (by simp [brings, hop, hanswer])
              · exact h
          · split
            · exact signedOut_lost h (h.lt_nextOp hop) hold caller
            · exact h.refreshed (h.lt_nextOp hop) hold caller .error
      · exact h
  · next m hop =>
      split
      · next answer hanswer =>
          unfold answeredPair
          split
          · next id =>
              split
              · next auth hauth =>
                  apply signedOut_adopt h auth hop rfl
                  exact fun hout => hbrings hout (by simp [brings, hop, hanswer])
              · exact h
          · exact h.endOp (clears_of_lookup hop rfl)
      · exact h
  · exact h

theorem signedOut_networkError (h : SignedOut out w.client phase) :
    SignedOut out (w.clientStep (.networkError n)).client phase := by
  simp only [clientStep]
  split
  · next task retried hop =>
      apply h.requested (h.lt_nextOp hop)
      rintro rfl
      exact clears_of_lookup hop rfl
  · next caller m hop => exact h.refreshed (h.lt_nextOp hop) (clears_of_lookup hop rfl) caller _
  · next m hop => exact h.endOp (clears_of_lookup hop rfl)
  · exact h

theorem signedOut_resumed (h : SignedOut out w.client phase) :
    SignedOut out (w.clientStep (.resumed n)).client phase := by
  simp only [clientStep]
  split
  · next task r hop =>
      split
      · exact signedOut_resend h hop
      · apply h.requested (h.lt_nextOp hop)
        rintro rfl
        exact clears_of_lookup hop rfl
      · exact h
  · exact h

theorem signedOut_finalized (h : SignedOut out w.client phase) :
    SignedOut out (w.clientStep (.finalized n)).client phase := by
  simp only [clientStep]
  split
  · split
    · exact ⟨h.fresh, h.tokens, h.left⟩
    · exact h
  · exact h

theorem signedOut_left (h : SignedOut out w.client phase) :
    SignedOut out (w.clientStep (.left n)).client phase := by
  simp only [clientStep]
  split
  · next hop => exact signedOut_logout h (h.lt_nextOp hop)
  · exact h

/-- What is stored while the vault is to be cleared is cleared. -/
theorem signedOut_stored (h : SignedOut out w.client phase) {ok : Bool}
    (hclears : out → ok = true → ∀ op, w.client.ops.lookup n = some op → op.stores = true →
      w.client.has Op.clears = true) :
    SignedOut out (w.clientStep (.stored n ok)).client phase := by
  simp only [clientStep]
  split
  · next caller token hop =>
      have hold := clears_of_lookup hop rfl
      have hn := h.lt_nextOp hop
      split
      · next hok =>
          have hshown : SignedOut out { w.client with vault := some token } phase :=
            ⟨h.fresh, h.tokens, fun hout _ => hclears hout hok _ hop rfl⟩
          have hended := hshown.refreshed hn hold caller .ok
          cases caller with
          | start => exact hended
          | recoverFromAuthFailure => exact hended
          | ensureRefreshed => exact hended
      · exact h.refreshed hn hold caller .error
  · next token hop =>
      have hold := clears_of_lookup hop rfl
      split
      · next hok =>
          have hshown : SignedOut out { w.client with vault := some token } phase :=
            ⟨h.fresh, h.tokens, fun hout _ => hclears hout hok _ hop rfl⟩
          exact ⟨(hshown.endOp hold).fresh, (hshown.endOp hold).tokens, (hshown.endOp hold).left⟩
      · exact h.endOp hold
  · exact h

end World

end ApiClient

/-! ## The runs -/

namespace GatewayClient

structure Closed (c : GatewayClient) : Prop where
  stopped : c.stopped = true
  socket : c.socket = none
  retryTimer : c.retryTimer = none

theorem closed_stop (c : GatewayClient) : c.stop.Closed :=
  ⟨stop_stopped, stop_socket, stop_retryTimer⟩

end GatewayClient

namespace Runtime

open ApiClient.Client (SignedOut)

structure OutInv (out : Prop) (r : Runtime) : Prop where
  client : SignedOut out r.world.client r.phase
  gateway : out → r.gateway.Closed

variable {out : Prop} {r : Runtime} {a : ClientAct} {n : Nat} {phase : AuthPhase}

theorem final_of_inv (hout : out) (h : OutInv out r) : r.Final := by
  intro hpending
  have hnothing : ∀ p : Op → Bool, (∀ op, p op = true → op.pending = true) →
      r.world.client.has p ≠ true := by
    intro p hp hhas
    obtain ⟨n, op, hop, hpop⟩ := ApiClient.Client.has_iff.mp hhas
    have hsome : r.world.client.has Op.pending = true :=
      ApiClient.Client.has_iff.mpr ⟨n, op, hop, hp op hpop⟩
    rw [hpending] at hsome
    cases hsome
  have hforgets := hnothing Op.forgets (fun op hop => by cases op <;> first | rfl | cases hop)
  have hclears := hnothing Op.clears (fun op hop => by cases op <;> first | rfl | cases hop)
  have htokens : ¬r.world.client.Tokens := fun h' => hforgets (h.client.tokens hout h')
  have hleft := fun h' => hclears (h.client.left hout h')
  unfold ApiClient.Client.Tokens at htokens
  exact
    { accessToken := not_not.mp fun h' => htokens (.inl h')
      refreshToken := not_not.mp fun h' => htokens (.inr h')
      vault := not_not.mp fun h' => hleft (.inl h')
      stopped := (h.gateway hout).stopped
      socket := (h.gateway hout).socket
      retryTimer := (h.gateway hout).retryTimer
      phase := not_not.mp fun h' => hleft (.inr h') }

namespace OutInv

theorem launched (world : ApiClient.World) : OutInv False (launched world) where
  client := SignedOut.launched _
  gateway := False.elim

/-- Before any `signOut` there is only the numbering to keep. -/
theorem of_fresh (hnot : ¬out) (h : OutInv False r) : OutInv out r where
  client := ⟨h.client.fresh, fun hout => (hnot hout).elim, fun hout => (hnot hout).elim⟩
  gateway hout := (hnot hout).elim

theorem closed_advance (h : r.gateway.Closed) : (r.advance a).gateway.Closed := by
  show (if _ then r.gateway.stop else r.gateway).Closed
  split
  · exact GatewayClient.closed_stop r.gateway
  · exact h

theorem advance (hgateway : out → r.gateway.Closed)
    (hclient : SignedOut out (r.world.clientStep a).client r.phase) : OutInv out (r.advance a) :=
  ⟨hclient, fun hout => closed_advance (hgateway hout)⟩

theorem gatewayCall_fresh (hfresh : SignedOut False r.world.client r.phase)
    (f : GatewayClient → GatewayClient) : OutInv False (r.gatewayCall f) := by
  unfold gatewayCall
  dsimp only
  split
  · exact ⟨hfresh, False.elim⟩
  · next reason reasons hfatals =>
      cases reason with
      | outdatedClient => exact ⟨hfresh.of_fresh, False.elim⟩
      | auth =>
          apply advance False.elim
          exact ApiClient.World.signedOut_gatewayAuthFailure hfresh fun _ => hfresh

/-- Without an access token the gateway stays closed. -/
theorem gatewayStart (hgateway : out → r.gateway.Closed ∧ r.world.client.accessToken = none)
    (hfresh : SignedOut False r.world.client r.phase)
    (h : r.world.client.Tokens → SignedOut out r.world.client r.phase) :
    OutInv out r.gatewayStart := by
  by_cases hout : out
  · obtain ⟨hclosed, htoken⟩ := hgateway hout
    obtain ⟨gateway, hstopped, hsocket, htimer, hstart⟩ :=
      gatewayStart_of_no_token htoken hclosed.stopped
    rw [hstart]
    apply advance
    · exact fun _ => ⟨hstopped, hsocket.trans hclosed.socket, htimer.trans hclosed.retryTimer⟩
    · exact ApiClient.World.signedOut_gatewayAuthFailure hfresh h
  · exact of_fresh hout (gatewayCall_fresh hfresh _)

theorem accessToken_of_stays {stored : Bool} {op : Op} (h : r.Stays stored n)
    (hop : r.op n = some op) (hrestarts : op.restarts stored = true) :
    r.world.client.accessToken = none :=
  h (by rw [hop]; exact hrestarts)

/-- What goes on to start the gateway when its operation ends. -/
theorem restarts (h : OutInv out r) {old : Op} {vault : Option TokenHash} {used : Bool}
    (hop : r.op n = some old) (hold : old.clears = false)
    (hclient : (r.world.clientStep a).client =
      { r.world.client.endOp n with vault := vault, authRetryUsed := used })
    (htoken : out → r.world.client.accessToken = none) (phase : AuthPhase) :
    OutInv out ((r.advance a).setPhase phase).gatewayStart := by
  have hended := ApiClient.Client.clears_of_lookup hop hold
  apply gatewayStart
  · intro hout
    exact ⟨closed_advance (h.gateway hout),
      (congrArg Client.accessToken hclient).trans (htoken hout)⟩
  · show SignedOut False (r.world.clientStep a).client phase
    rw [hclient]
    exact ⟨(h.client.endOp hended).fresh, False.elim, False.elim⟩
  · show (r.world.clientStep a).client.Tokens → SignedOut out (r.world.clientStep a).client phase
    rw [hclient]
    exact fun htokens => h.client.endOp_of_tokens hended htokens vault used phase

theorem networkError (h : OutInv out r)
    (hcareful : out → r.Careful (.world (.client (.networkError n)))) :
    OutInv out (r.networkError n) := by
  unfold Runtime.networkError
  split
  · next m hop =>
      apply h.restarts hop rfl
      · unfold op at hop
        simp only [ApiClient.World.clientStep, hop]
        rfl
      · exact fun hout => accessToken_of_stays (hcareful hout) hop rfl
  · exact advance h.gateway (ApiClient.World.signedOut_networkError h.client)

theorem stored (h : OutInv out r) (hcareful : out → r.Careful (.world (.client (.stored n true)))) :
    OutInv out (r.stored n) := by
  unfold Runtime.stored
  split
  · next token hop =>
      apply h.restarts hop rfl
      · unfold op at hop
        simp only [ApiClient.World.clientStep, hop]
        rfl
      · exact fun hout => accessToken_of_stays (hcareful hout).1 hop rfl
  · next token hop =>
      apply h.restarts (a := .stored n true) hop rfl
      · unfold op at hop
        simp only [ApiClient.World.clientStep, hop]
        rfl
      · exact fun hout => accessToken_of_stays (hcareful hout).1 hop rfl
  · next token hop =>
      apply h.restarts hop rfl
      · unfold op at hop
        simp only [ApiClient.World.clientStep, hop]
        rfl
      · exact fun hout => accessToken_of_stays (hcareful hout).1 hop rfl
  · next hstart hrecover hpair =>
      apply advance h.gateway
      apply ApiClient.World.signedOut_stored h.client
      intro hout _ op hop hstores
      change r.op n = some op at hop
      have hclears := (hcareful hout).2
      rw [hop] at hclears
      cases op with
      | storing caller token =>
          cases caller with
          | start => exact (hstart token hop).elim
          | recoverFromAuthFailure => exact (hrecover token hop).elim
          | ensureRefreshed => exact hclears rfl rfl
      | storingPair token => exact (hpair token hop).elim
      | _ => cases hstores

theorem start (h : OutInv out r)
    (hseeds : out → r.world.client.started = true ∨ r.world.client.vault = none) :
    OutInv out r.start := by
  have hadvanced := advance h.gateway (ApiClient.World.signedOut_start h.client hseeds)
  unfold Runtime.start
  split
  · exact h
  · split
    · exact ⟨⟨hadvanced.client.fresh, hadvanced.client.tokens, fun hout hleft =>
        hadvanced.client.left hout (hleft.imp_right fun hne => absurd rfl hne)⟩, hadvanced.gateway⟩
    · exact hadvanced

/-- The last statements of a `signOut`. -/
theorem cleared (h : OutInv out r) : OutInv out (r.cleared n) := by
  unfold Runtime.cleared
  split
  · next hop =>
      refine ⟨?_, fun hout => closed_advance (h.gateway hout)⟩
      unfold op at hop
      have hworld : (r.advance (.cleared n)).world.client =
          { r.world.client.endOp n with vault := none } := by
        simp only [Runtime.advance, ApiClient.World.clientStep, hop]
        rfl
      show SignedOut out (r.advance (.cleared n)).world.client .pairing
      rw [hworld]
      exact h.client.cleared hop fun _ => ⟨rfl, rfl⟩
  · exact h

theorem clearFailed (h : OutInv out r) (hclears : out → r.op n ≠ some .clearing) :
    OutInv out (r.clearFailed n) := by
  unfold Runtime.clearFailed
  split
  · next hop =>
      have hnot : ¬out := fun hout => hclears hout hop
      exact ⟨h.client.cleared hop fun hout => (hnot hout).elim, h.gateway⟩
  · exact h

/-- A socket is open in a session only. -/
theorem not_of_socket (h : OutInv out r) {socket : Nat}
    (hsocket : r.gateway.socket = some socket) : ¬out := by
  intro hout
  rw [(h.gateway hout).socket] at hsocket
  cases hsocket

theorem ready (h : OutInv out r) (seq heartbeatIntervalMs now : Nat) (sessionId : Protocol.Uuid) :
    OutInv out (r.ready seq sessionId heartbeatIntervalMs now) := by
  unfold Runtime.ready
  split
  · exact h
  · next socket hsocket =>
      have hcalled := gatewayCall_fresh h.client.of_fresh
        (·.ready seq sessionId heartbeatIntervalMs now)
      exact of_fresh (h.not_of_socket hsocket)
        ⟨⟨hcalled.client.fresh, False.elim, False.elim⟩, False.elim⟩

theorem closed (h : OutInv out r) (now backoff : Nat) (code : UInt16) :
    OutInv out (r.closed now code backoff) := by
  unfold Runtime.closed
  split
  · exact h
  · next socket hsocket =>
      exact of_fresh (h.not_of_socket hsocket) (gatewayCall_fresh h.client.of_fresh _)

theorem retry (h : OutInv out r) : OutInv out r.retry := by
  by_cases hout : out
  · have hclosed := h.gateway hout
    have hnothing : GatewayClient.retry r.world.client.accessToken r.sockets
        { r.gateway with fatals := [] } = { r.gateway with fatals := [] } := by
      simp only [GatewayClient.retry, hclosed.retryTimer]
    unfold Runtime.retry
    rw [gatewayCall_quiet (congrArg GatewayClient.fatals hnothing), hnothing]
    exact ⟨h.client, fun _ => ⟨hclosed.stopped, hclosed.socket, hclosed.retryTimer⟩⟩
  · exact of_fresh hout (gatewayCall_fresh h.client.of_fresh _)

theorem clientAct (h : OutInv out r) (hreturn : out → r.NoReturn (.world (.client a)))
    (hcareful : out → r.Careful (.world (.client a))) : OutInv out (r.client a) := by
  cases a with
  | start => exact h.start hreturn
  | networkError n => exact h.networkError hcareful
  | stored n ok =>
      cases ok with
      | true => exact h.stored hcareful
      | false =>
          apply advance h.gateway
          apply ApiClient.World.signedOut_stored h.client
          intro _ hok
          cases hok
  | cleared n => exact h.cleared
  | relaunched => exact of_fresh hreturn (launched r.world)
  | gatewayReady => exact h
  | gatewayAuthFailure => exact h
  | pair userId => exact advance h.gateway (h.client.setNew _)
  | signOut => exact advance h.gateway h.client.signOut
  | request => exact advance h.gateway (h.client.setNew _)
  | replied n unauthorized =>
      exact advance h.gateway (ApiClient.World.signedOut_replied h.client unauthorized)
  | answered n => exact advance h.gateway (ApiClient.World.signedOut_answered h.client hcareful)
  | resumed n => exact advance h.gateway (ApiClient.World.signedOut_resumed h.client)
  | finalized n => exact advance h.gateway (ApiClient.World.signedOut_finalized h.client)
  | left n => exact advance h.gateway (ApiClient.World.signedOut_left h.client)

/-- The first statement of a `signOut` closes the gateway. -/
theorem signOut (h : OutInv False r) : OutInv True (r.client .signOut) where
  client := h.client.signOut
  gateway _ := by
    have hsigns : signsOut r.world.client (r.world.clientStep .signOut).client = true := by
      have hnone := h.client.fresh r.world.client.nextOp (Nat.le_refl _)
      have hleaving : (r.world.clientStep .signOut).client.ops.lookup r.world.client.nextOp =
          some .leaving := by
        show (r.world.client.ops.insert r.world.client.nextOp .leaving).lookup _ = _
        simp
      apply List.any_eq_true.mpr
      refine ⟨⟨r.world.client.nextOp, .leaving⟩, AList.mem_entries_iff.mpr hleaving, ?_⟩
      simp [hnone]
    show (if signsOut r.world.client (r.world.clientStep .signOut).client then r.gateway.stop
      else r.gateway).Closed
    rw [if_pos hsigns]
    exact GatewayClient.closed_stop r.gateway

theorem step {ttl : Nat} (h : OutInv out r) (act : Act) (hreturn : out → r.NoReturn act)
    (hcareful : out → r.Careful act) : OutInv out (r.step ttl act) := by
  cases act with
  | world a =>
      cases a with
      | client a => exact h.clientAct hreturn hcareful
      | arrive m fresh => exact ⟨h.client, h.gateway⟩
      | serve m => exact ⟨h.client, h.gateway⟩
      | fail m => exact ⟨h.client, h.gateway⟩
      | tick ms => exact ⟨h.client, h.gateway⟩
  | clearFailed n => exact h.clearFailed hreturn
  | ready seq sessionId heartbeatIntervalMs now =>
      exact h.ready seq heartbeatIntervalMs now sessionId
  | closed now code backoff => exact h.closed now backoff code
  | retry => exact h.retry

end OutInv

/-- The state after any run, and then `signOut`. -/
def leftAfter (ttl : Nat) (world : ApiClient.World) (before : List Act) : Runtime :=
  run (step ttl) (launched world) (before ++ [.world (.client .signOut)])

/-- Whatever was under way when `signOut` was called, and in whatever order it goes on,
nothing of the session is left once nothing is pending, as long as what was under way brings
and stores tokens before they are forgotten and cleared, and starts no gateway. -/
theorem signedOut_of_careful {ttl : Nat} {world : ApiClient.World} {before after : List Act}
    (hreturn : EachStep (step ttl) NoReturn (leftAfter ttl world before) after)
    (hcareful : EachStep (step ttl) Careful (leftAfter ttl world before) after) :
    Throughout (step ttl) Final (leftAfter ttl world before) after := by
  have hbefore : OutInv False (run (step ttl) (launched world) before) :=
    run_invariant (fun r act h => h.step act False.elim False.elim) (OutInv.launched world) before
  have hleft : OutInv True (leftAfter ttl world before) := by
    unfold leftAfter run
    rw [List.foldl_append]
    exact hbefore.signOut
  exact (throughout_of_eachStep (fun r act h hok => h.step act (fun _ => hok.1) fun _ => hok.2)
    hleft (hreturn.and hcareful)).mono fun r h => final_of_inv trivial h

/-- The user signs out while a request is being refreshed; the new pair arrives while the
logout does, and is forgotten. -/
theorem signedOut_of_careful_refresh : Throughout (step 60) Final
    (leftAfter 60 (.init [5])
      [.world (.client (.pair 5)), .world (.arrive 0 42), .world (.serve 0),
        .world (.client (.answered 0)), .world (.client (.stored 0 true)),
        .world (.client .request), .world (.client (.replied 1 true))])
    [.world (.arrive 1 43), .world (.serve 1), .world (.serve 1), .world (.serve 1),
      .world (.serve 1), .world (.client (.answered 2)), .world (.client (.stored 2 true)),
      .world (.client (.left 3)), .world (.client (.networkError 3)),
      .world (.client (.resumed 1)), .world (.client (.replied 1 false)),
      .world (.client (.finalized 2)), .world (.client (.cleared 3))] :=
  signedOut_of_careful (by decide) (by decide)

/-- The user signs out while the application starts; the refresh of `start` is answered
after the vault was cleared. -/
theorem late_refresh_signs_in_again :
    ¬ ∀ ttl world before after, EachStep (step ttl) NoReturn (leftAfter ttl world before) after →
      Throughout (step ttl) Final (leftAfter ttl world before) after := by
  intro hall
  have hrun := throughout_iff_initial.mp (hall 60
    (run (ApiClient.World.step 60) (.init [5])
      [.client (.pair 5), .arrive 0 42, .serve 0, .client (.answered 0), .client (.stored 0 true)])
    [.world (.client .start)]
    [.world (.arrive 1 43), .world (.serve 1), .world (.serve 1), .world (.serve 1),
      .world (.serve 1), .world (.client (.left 1)), .world (.client (.networkError 1)),
      .world (.client (.cleared 1)), .world (.client (.answered 0)),
      .world (.client (.stored 0 true))] (by decide))
    _ (List.prefix_refl _)
  have hclean := (hrun (by decide)).vault
  revert hclean
  decide

end Runtime

end Desktop
end Ldktela
