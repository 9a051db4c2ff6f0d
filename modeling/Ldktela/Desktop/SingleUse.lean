import Ldktela.Desktop.ApiClient

/-!
# When reuse detection stays silent

Every refresh token is for one use, and the server treats a second use as theft.  The
client of `Desktop.ApiClient` keeps the rule only as far as it knows: it learns of a
rotation from the response alone, and of its entry points to `refreshSession` only
`ensureRefreshed` waits for a refresh that is under way.

`noReuse_throughout` says that nothing else can go wrong: whatever the order of
requests, statements and responses, and whatever is lost, the server detects no reuse
as long as the client sends no token that an earlier refresh has spent or may still
spend, and no logout revokes a family in the middle of a rotation.
-/

namespace Ldktela
namespace Desktop
namespace ApiClient

open Protocol
open Db
open Runs
open Auth (Answer)

/-! ## Tokens that are under way -/

/-- The token a request carries to `/auth/refresh`. -/
def Message.presented : Message → Option TokenHash
  | .refresh token => some token
  | _ => none

/-- The token a rotation has not consumed yet. -/
def presented : Auth.Call → Option TokenHash
  | .rotateFind token _ _ => some token
  | .rotateConsume _ row _ _ => some row.tokenHash
  | _ => none

/-- The call has detected a reuse. -/
def reuses : Auth.Call → Bool
  | .revoke _ logout => !logout
  | .done (.tokenReused _) => true
  | _ => false

namespace Wire

/-- The token request `m` may still spend. -/
def presentedBy (m : Nat) (wire : Wire) : Option TokenHash :=
  match wire.transit.lookup m with
  | some message => message.presented
  | none => (wire.server.calls.lookup m).bind presented

/-- No refresh that was sent has spent the token or may still do so. -/
def Unspent (token : TokenHash) (wire : Wire) : Prop :=
  (∀ message ∈ wire.transit.vals, message.presented ≠ some token) ∧
    (∀ call ∈ wire.server.calls.vals, presented call ≠ some token) ∧
    ∀ row ∈ wire.server.db.tokens.vals, row.tokenHash = token → row.consumedAt = none

instance (token : TokenHash) (wire : Wire) : Decidable (wire.Unspent token) :=
  inferInstanceAs (Decidable (_ ∧ _))

/-- No rotation of the family is about to consume its token. -/
def NotRotating (familyId : Uuid) (wire : Wire) : Prop :=
  ∀ call ∈ wire.server.calls.vals, call.candidate.map Prod.snd ≠ some familyId

instance (familyId : Uuid) (wire : Wire) : Decidable (wire.NotRotating familyId) :=
  inferInstanceAs (Decidable (∀ _ ∈ _, _))

/-- The server has detected no reuse, and no token it is asked to rotate was consumed
before. -/
def NoReuse (wire : Wire) : Prop :=
  ∀ call ∈ wire.server.calls.vals, reuses call = false ∧
    ∀ token fresh started, call = .rotateFind token fresh started →
      ∀ row ∈ wire.server.db.tokens.vals, row.tokenHash = token → row.consumedAt = none

end Wire

namespace World

/-- The token a refresh would carry that an unauthorized request sets off. -/
def presentsOn401 (retried unauthorized : Bool) (w : World) : Option TokenHash :=
  if unauthorized = true ∧ retried = false ∧ w.client.refreshing = none then
    w.client.refreshToken
  else
    none

/-- The token the client sends to `/auth/refresh` in this step. -/
def presents (w : World) : Act → Option TokenHash
  | .client .start => if w.client.started then none else w.client.vault
  | .client .gatewayAuthFailure =>
      if w.client.authRetryUsed then none else w.client.refreshToken
  | .client (.replied n unauthorized) =>
      match w.client.ops.lookup n with
      | some (.request .plain retried) => w.presentsOn401 retried unauthorized
      | _ => none
  | .client (.answered n) =>
      match w.client.ops.lookup n with
      | some (.request (.logout _ m) retried) =>
          match w.wire.answer m with
          | some answer => w.presentsOn401 retried (unauthorized answer)
          | none => none
      | _ => none
  | _ => none

/-- The family a logout revokes in this step. -/
def revokes (w : World) : Act → Option Uuid
  | .serve m =>
      match w.wire.server.calls.lookup m with
      | some (.revoke familyId true) => some familyId
      | _ => none
  | _ => none

/-- A token is sent only while it is unspent, and a family is revoked only while it is
not being rotated. -/
def SingleUse (w : World) (a : Act) : Prop :=
  (∀ token ∈ w.presents a, w.wire.Unspent token) ∧
    ∀ familyId ∈ w.revokes a, w.wire.NotRotating familyId

instance (w : World) (a : Act) : Decidable (w.SingleUse a) :=
  inferInstanceAs (Decidable (_ ∧ _))

end World

/-! ## The invariant -/

namespace Wire

/-- The token a rotation read is still there to be consumed. -/
def Wins (t : RefreshTokens) (id : Uuid) (row : RefreshTokenRow) : Prop :=
  ∃ current, t.lookup id = some current ∧ current.isLive = true ∧
    current.tokenHash = row.tokenHash ∧ current.familyId = row.familyId

/-- What holds of the network and the server as long as tokens are sent once. -/
structure Inv (wire : Wire) : Prop where
  transit_lt : ∀ m message, wire.transit.lookup m = some message → m < wire.next
  calls_lt : ∀ m call, wire.server.calls.lookup m = some call →
    m < wire.next ∧ wire.transit.lookup m = none
  /-- No token is on two requests. -/
  unique : ∀ m n token, wire.presentedBy m = some token → wire.presentedBy n = some token → m = n
  unspent : ∀ m token, wire.presentedBy m = some token →
    ∀ id row, wire.server.db.tokens.lookup id = some row → row.tokenHash = token →
      row.consumedAt = none
  /-- A rotation that is about to consume its token will win. -/
  rotating : ∀ m id row fresh started,
    wire.server.calls.lookup m = some (.rotateConsume id row fresh started) →
      Wins wire.server.db.tokens id row
  silent : ∀ m call, wire.server.calls.lookup m = some call → reuses call = false

theorem inv_init (users : List Uuid) : Inv ⟨∅, .init users, 0⟩ where
  transit_lt m message h := by cases h
  calls_lt m call h := by cases h
  unique m n token h := by cases h
  unspent m token h := by cases h
  rotating m id row fresh started h := by cases h
  silent m call h := by cases h

variable {wire : Wire}

theorem Inv.noReuse (h : wire.Inv) : wire.NoReuse := by
  intro call hcall
  obtain ⟨m, hm⟩ := AList.mem_vals_iff.mp hcall
  refine ⟨h.silent m call hm, ?_⟩
  rintro token fresh started rfl row hrow hhash
  obtain ⟨id, hid⟩ := AList.mem_vals_iff.mp hrow
  have hpresented : wire.presentedBy m = some token := by
    rw [presentedBy, (h.calls_lt m _ hm).2, hm]
    rfl
  exact h.unspent m token hpresented id row hid hhash

/-! ### Sending -/

theorem presentedBy_send (message : Message) (m : Nat) :
    (wire.send message).presentedBy m =
      if m = wire.next then message.presented else wire.presentedBy m := by
  unfold presentedBy send
  simp only [AList.lookup_insert_ite]
  by_cases hm : m = wire.next
  · simp only [if_pos hm]
  · simp only [if_neg hm]

/-- A token that nothing may spend is on no request. -/
theorem Unspent.presentedBy_ne {token : TokenHash} (h : wire.Unspent token) (m : Nat) :
    wire.presentedBy m ≠ some token := by
  obtain ⟨htransit, hcalls, -⟩ := h
  unfold presentedBy
  split
  · next message hm => exact htransit message (AList.mem_vals_iff.mpr ⟨m, hm⟩)
  · intro hpresented
    obtain ⟨call, hm, hcall⟩ := Option.bind_eq_some_iff.mp hpresented
    exact hcalls call (AList.mem_vals_iff.mpr ⟨m, hm⟩) hcall

theorem inv_send (h : wire.Inv) {message : Message}
    (hunspent : ∀ token ∈ message.presented, wire.Unspent token) : (wire.send message).Inv where
  transit_lt m sent hm := by
    simp only [send, AList.lookup_insert_ite] at hm ⊢
    split at hm
    · omega
    · exact Nat.lt_succ_of_lt (h.transit_lt m sent hm)
  calls_lt m call hm := by
    obtain ⟨hlt, hnone⟩ := h.calls_lt m call hm
    refine ⟨Nat.lt_succ_of_lt hlt, ?_⟩
    simp only [send, AList.lookup_insert_ite]
    rw [if_neg (Nat.ne_of_lt hlt)]
    exact hnone
  unique m n token hm hn := by
    rw [presentedBy_send] at hm hn
    split at hm
    · split at hn
      · omega
      · exact absurd hn ((hunspent token hm).presentedBy_ne n)
    · split at hn
      · exact absurd hm ((hunspent token hn).presentedBy_ne m)
      · exact h.unique m n token hm hn
  unspent m token hm id row hid hhash := by
    rw [presentedBy_send] at hm
    split at hm
    · exact (hunspent token hm).2.2 row (AList.mem_vals_iff.mpr ⟨id, hid⟩) hhash
    · exact h.unspent m token hm id row hid hhash
  rotating := h.rotating
  silent := h.silent

/-! ### Arrival -/

/-- The call a request becomes. -/
def received (message : Message) (fresh : TokenHash) (now : Timestamp) : Auth.Call :=
  match message with
  | .refresh token => .rotateFind token fresh now
  | .logout token => .logoutFind token
  | .pair userId => .issueInsert userId fresh now

theorem presented_received (message : Message) (fresh : TokenHash) (now : Timestamp) :
    presented (received message fresh now) = message.presented := by
  cases message with
  | refresh token => rfl
  | logout token => rfl
  | pair userId => rfl

variable {ttl : Nat} {m : Nat}

theorem arrive_eq (h : wire.Inv) {message : Message} (hm : wire.transit.lookup m = some message)
    (fresh : TokenHash) :
    wire.arrive ttl m fresh =
      { wire with
        transit := wire.transit.erase m
        server := { wire.server with
          calls := wire.server.calls.insert m (received message fresh wire.server.now) } } := by
  have hfree : m ∉ wire.server.calls := by
    intro hmem
    obtain ⟨call, hcall⟩ := Option.isSome_iff_exists.mp (AList.lookup_isSome.mpr hmem)
    rw [(h.calls_lt m call hcall).2] at hm
    cases hm
  unfold arrive
  rw [hm]
  cases message with
  | refresh token => simp [Auth.World.step, Auth.World.begin, hfree, received]
  | logout token => simp [Auth.World.step, Auth.World.begin, hfree, received]
  | pair userId => simp [Auth.World.step, Auth.World.begin, hfree, received]

theorem inv_arrive (h : wire.Inv) (fresh : TokenHash) : (wire.arrive ttl m fresh).Inv := by
  cases hm : wire.transit.lookup m with
  | none =>
      rw [arrive, hm]
      exact h
  | some message =>
      rw [arrive_eq h hm]
      -- the token leaves the wire and is in the call: the same requests present the same tokens
      have hpresented : ∀ n, presentedBy n
          { wire with
            transit := wire.transit.erase m
            server := { wire.server with
              calls := wire.server.calls.insert m (received message fresh wire.server.now) } } =
          wire.presentedBy n := by
        intro n
        unfold presentedBy
        simp only [AList.lookup_erase_ite, AList.lookup_insert_ite]
        by_cases hn : n = m
        · rw [hn]
          simp only [hm]
          exact presented_received message fresh wire.server.now
        · simp only [if_neg hn]
      refine ⟨?_, ?_, ?_, ?_, ?_, ?_⟩
      · intro n sent hsent
        simp only [AList.lookup_erase_ite] at hsent
        split at hsent
        · cases hsent
        · exact h.transit_lt n sent hsent
      · intro n call hcall
        simp only [AList.lookup_insert_ite, AList.lookup_erase_ite] at hcall ⊢
        split at hcall
        · next hn =>
            rw [hn]
            exact ⟨h.transit_lt m message hm, if_pos rfl⟩
        · next hn =>
            rw [if_neg hn]
            exact h.calls_lt n call hcall
      · intro n k token hn hk
        rw [hpresented] at hn hk
        exact h.unique n k token hn hk
      · intro n token hn
        rw [hpresented] at hn
        exact h.unspent n token hn
      · intro n id row fresh' started hcall
        simp only [AList.lookup_insert_ite] at hcall
        split at hcall
        · -- a call that has just been received is at its first statement
          cases message with
          | refresh token => cases hcall
          | logout token => cases hcall
          | pair userId => cases hcall
        · exact h.rotating n id row fresh' started hcall
      · intro n call hcall
        simp only [AList.lookup_insert_ite] at hcall
        split at hcall
        · obtain rfl := Option.some.inj hcall
          cases message with
          | refresh token => rfl
          | logout token => rfl
          | pair userId => rfl
        · exact h.silent n call hcall

/-! ### The statements of the server -/

/-- Call `m` takes its next statement. -/
def moved (m : Nat) (db : Auth.Database) (call : Auth.Call) (wire : Wire) : Wire :=
  { wire with
    server := { wire.server with db := db, calls := wire.server.calls.insert m call } }

theorem presentedBy_moved (h : wire.Inv) {call : Auth.Call}
    (hcall : wire.server.calls.lookup m = some call) (db : Auth.Database) (call' : Auth.Call)
    (n : Nat) :
    (wire.moved m db call').presentedBy n =
      if n = m then presented call' else wire.presentedBy n := by
  unfold presentedBy moved
  simp only [AList.lookup_insert_ite]
  by_cases hn : n = m
  · rw [hn]
    simp only [(h.calls_lt m call hcall).2]
    rfl
  · simp only [if_neg hn]

/-- A call that presents no other token than before. -/
theorem presentedBy_of_moved (h : wire.Inv) {call call' : Auth.Call} {db : Auth.Database}
    (hcall : wire.server.calls.lookup m = some call)
    (hpresented : ∀ token, presented call' = some token → presented call = some token)
    {n : Nat} {token : TokenHash} (hn : (wire.moved m db call').presentedBy n = some token) :
    wire.presentedBy n = some token := by
  rw [presentedBy_moved h hcall] at hn
  split at hn
  · next heq =>
      rw [presentedBy, heq, (h.calls_lt m call hcall).2, hcall]
      exact hpresented token hn
  · exact hn

/-- What a statement has to respect: the call presents no other token than before, no
token that is still under way is consumed, and the other rotations still win. -/
theorem inv_moved (h : wire.Inv) {call call' : Auth.Call} {db : Auth.Database}
    (hcall : wire.server.calls.lookup m = some call)
    (hpresented : ∀ token, presented call' = some token → presented call = some token)
    (hsilent : reuses call' = false)
    (hunspent : ∀ n token, (wire.moved m db call').presentedBy n = some token →
      ∀ id row, db.tokens.lookup id = some row → row.tokenHash = token → row.consumedAt = none)
    (hnew : ∀ id row fresh started, call' = .rotateConsume id row fresh started →
      Wins db.tokens id row)
    (hothers : ∀ n, n ≠ m → ∀ id row fresh started,
      wire.server.calls.lookup n = some (.rotateConsume id row fresh started) →
        Wins db.tokens id row) :
    (wire.moved m db call').Inv where
  transit_lt := h.transit_lt
  calls_lt n other hother := by
    simp only [moved, AList.lookup_insert_ite] at hother
    split at hother
    · next hn =>
        rw [hn]
        exact h.calls_lt m call hcall
    · exact h.calls_lt n other hother
  unique n k token hn hk := by
    exact h.unique n k token (presentedBy_of_moved h hcall hpresented hn)
      (presentedBy_of_moved h hcall hpresented hk)
  unspent := hunspent
  rotating n id row fresh started hother := by
    simp only [moved, AList.lookup_insert_ite] at hother
    split at hother
    · exact hnew id row fresh started (Option.some.inj hother)
    · next hn => exact hothers n hn id row fresh started hother
  silent n other hother := by
    simp only [moved, AList.lookup_insert_ite] at hother
    split at hother
    · obtain rfl := Option.some.inj hother
      exact hsilent
    · exact h.silent n other hother

/-- The statement only reads. -/
theorem inv_moved_read (h : wire.Inv) {call call' : Auth.Call}
    (hcall : wire.server.calls.lookup m = some call)
    (hpresented : ∀ token, presented call' = some token → presented call = some token)
    (hsilent : reuses call' = false)
    (hnew : ∀ id row fresh started, call' = .rotateConsume id row fresh started →
      Wins wire.server.db.tokens id row) :
    (wire.moved m wire.server.db call').Inv :=
  inv_moved h hcall hpresented hsilent
    (fun n token hn => h.unspent n token (presentedBy_of_moved h hcall hpresented hn)) hnew
    fun n _ => h.rotating n

/-- A call that ends. -/
theorem inv_moved_done (h : wire.Inv) {call : Auth.Call} {answer : Answer}
    (hcall : wire.server.calls.lookup m = some call) (hsilent : reuses (.done answer) = false) :
    (wire.moved m wire.server.db (.done answer)).Inv :=
  inv_moved_read h hcall (fun _ hnone => nomatch hnone) hsilent fun _ _ _ _ hnot => nomatch hnot

/-- A rotation consumes its token, which is on no other request. -/
theorem inv_moved_consume (h : wire.Inv) {id : Uuid} {row : RefreshTokenRow} {fresh : TokenHash}
    {started now : Timestamp}
    (hcall : wire.server.calls.lookup m = some (.rotateConsume id row fresh started)) :
    (wire.moved m
      { wire.server.db with tokens := (wire.server.db.tokens.consume now id).1 }
      (.rotateUser row fresh started)).Inv := by
  have hpresented : ∀ token, presented (.rotateUser row fresh started) = some token →
      presented (.rotateConsume id row fresh started) = some token :=
    fun _ hnone => nomatch hnone
  have hmine : wire.presentedBy m = some row.tokenHash := by
    rw [presentedBy, (h.calls_lt m _ hcall).2, hcall]
    rfl
  obtain ⟨current, hcurrent, -, hhash, -⟩ := h.rotating m id row fresh started hcall
  refine inv_moved h hcall hpresented rfl ?_ (fun _ _ _ _ hnot => nomatch hnot) ?_
  · intro n token hn id' row' hrow' htoken
    have hbefore := presentedBy_of_moved h hcall hpresented hn
    rw [RefreshTokens.lookup_consume] at hrow'
    split at hrow'
    · next hid =>
        rw [hid, hcurrent] at hrow'
        obtain rfl := Option.some.inj hrow'
        rw [RefreshTokenRow.consume_tokenHash, hhash] at htoken
        -- only call `m` presents this token, and it does so no more
        obtain rfl := h.unique n m token hbefore (htoken ▸ hmine)
        rw [presentedBy_moved h hcall, if_pos rfl] at hn
        cases hn
    · exact h.unspent n token hbefore id' row' hrow' htoken
  · intro n hne id' row' fresh' started' hother
    obtain ⟨current', hcurrent', hlive', hhash', hfamily'⟩ :=
      h.rotating n id' row' fresh' started' hother
    have hdistinct : id' ≠ id := by
      rintro rfl
      rw [hcurrent] at hcurrent'
      obtain rfl := Option.some.inj hcurrent'
      have hother' : wire.presentedBy n = some row.tokenHash := by
        rw [presentedBy, (h.calls_lt n _ hother).2, hother]
        exact congrArg some (hhash'.symm.trans hhash)
      exact hne (h.unique n m _ hother' hmine)
    refine ⟨current', ?_, hlive', hhash', hfamily'⟩
    rw [RefreshTokens.lookup_consume, if_neg hdistinct]
    exact hcurrent'

/-- A logout revokes a family that no rotation is about to go on with. -/
theorem inv_moved_revoke (h : wire.Inv) {familyId : Uuid} {now : Timestamp}
    (hcall : wire.server.calls.lookup m = some (.revoke familyId true))
    (hfree : wire.NotRotating familyId) :
    (wire.moved m
      { wire.server.db with tokens := wire.server.db.tokens.revokeFamily now familyId }
      (.done (.loggedOut (some familyId)))).Inv := by
  have hpresented : ∀ token, presented (.done (.loggedOut (some familyId))) = some token →
      presented (.revoke familyId true) = some token := fun _ hnone => nomatch hnone
  refine inv_moved h hcall hpresented rfl ?_ (fun _ _ _ _ hnot => nomatch hnot) ?_
  · intro n token hn id row hrow htoken
    have hbefore := presentedBy_of_moved h hcall hpresented hn
    rw [RefreshTokens.lookup_revokeFamily] at hrow
    obtain ⟨old, hold, rfl⟩ := Option.map_eq_some_iff.mp hrow
    have hunspent := h.unspent n token hbefore id old hold
    split at htoken
    · next hfamily =>
        rw [if_pos hfamily, RefreshTokenRow.revoke_consumedAt]
        rw [RefreshTokenRow.revoke_tokenHash] at htoken
        exact hunspent htoken
    · next hfamily =>
        rw [if_neg hfamily]
        exact hunspent htoken
  · intro n _ id row fresh started hother
    obtain ⟨current, hcurrent, hlive, hhash, hfamily⟩ := h.rotating n id row fresh started hother
    have hne : current.familyId ≠ familyId := by
      intro heq
      refine hfree _ (AList.mem_vals_iff.mpr ⟨n, hother⟩) ?_
      rw [← heq, hfamily]
      rfl
    refine ⟨current, ?_, hlive, hhash, hfamily⟩
    rw [RefreshTokens.lookup_revokeFamily, hcurrent, Option.map_some, if_neg hne]

/-- A token that is inserted is not consumed. -/
theorem inv_moved_insert (h : wire.Inv) {call : Auth.Call} {familyId userId : Uuid}
    {fresh : TokenHash} {expiresAt : Timestamp}
    (hcall : wire.server.calls.lookup m = some call) :
    (wire.moved m (Auth.insertToken familyId userId fresh expiresAt wire.server.db).1
      (Auth.insertToken familyId userId fresh expiresAt wire.server.db).2).Inv := by
  by_cases haccepts : wire.server.db.Accepts userId fresh
  · rw [Auth.insertToken_of_accepts haccepts]
    have hpresented : ∀ token,
        presented (.done (.issued wire.server.db.nextId)) = some token →
          presented call = some token := fun _ hnone => nomatch hnone
    refine inv_moved h hcall hpresented rfl ?_ (fun _ _ _ _ hnot => nomatch hnot) ?_
    · intro n token hn id row hrow htoken
      simp only [AList.lookup_insert_ite] at hrow
      split at hrow
      · obtain rfl := Option.some.inj hrow
        rfl
      · exact h.unspent n token (presentedBy_of_moved h hcall hpresented hn) id row hrow htoken
    · intro n _ id row fresh' started hother
      obtain ⟨current, hcurrent, hwins⟩ := h.rotating n id row fresh' started hother
      have hne : id ≠ wire.server.db.nextId := by
        rintro rfl
        exact haccepts.2.1 (AList.lookup_isSome.mp (by rw [hcurrent]; rfl))
      refine ⟨current, ?_, hwins⟩
      simp only [AList.lookup_insert_ite]
      rw [if_neg hne]
      exact hcurrent
  · rw [Auth.insertToken_of_not_accepts haccepts]
    exact inv_moved_done h hcall rfl

/-- The next statement of a call, unless it is a logout that interrupts a rotation. -/
theorem inv_serve (h : wire.Inv)
    (hguard : ∀ familyId, wire.server.calls.lookup m = some (.revoke familyId true) →
      wire.NotRotating familyId) :
    Inv { wire with server := wire.server.step ttl (.advance m) } := by
  cases hcall : wire.server.calls.lookup m with
  | none =>
      simp only [Auth.World.step, hcall]
      exact h
  | some call =>
      have hstep : ({ wire with server := wire.server.step ttl (.advance m) } : Wire) =
          wire.moved m (Auth.advance ttl wire.server.now wire.server.db call).1
            (Auth.advance ttl wire.server.now wire.server.db call).2 := by
        simp only [Auth.World.step, hcall, moved]
      rw [hstep]
      cases call with
      | rotateFind token fresh started =>
          simp only [Auth.advance]
          split
          · exact inv_moved_done h hcall rfl
          · next id row hfind =>
              have hlookup := RefreshTokens.lookup_of_findByHash hfind
              have hhash := RefreshTokens.tokenHash_of_findByHash hfind
              -- the row is not spent: no other request has presented this token
              have hmine : wire.presentedBy m = some token := by
                rw [presentedBy, (h.calls_lt m _ hcall).2, hcall]
                rfl
              have hnew := h.unspent m token hmine id row hlookup hhash
              unfold Auth.decideRotation
              rw [hnew]
              by_cases hdead : row.revokedAt.isSome = true ∨ row.expiresAt ≤ started
              · simp only [hdead, if_true]
                exact inv_moved_done h hcall rfl
              · simp only [hdead, if_false]
                refine inv_moved_read h hcall (fun t ht => ?_) rfl fun id' row' _ _ heq => ?_
                · exact ht ▸ congrArg some hhash.symm
                · obtain ⟨rfl, rfl, -, -⟩ := Auth.Call.rotateConsume.inj heq
                  refine ⟨row, hlookup, ?_, rfl, rfl⟩
                  simpa [RefreshTokenRow.isLive, hnew] using fun h => hdead (.inl h)
      | rotateConsume id row fresh started =>
          obtain ⟨current, hcurrent, hlive, -, -⟩ := h.rotating m id row fresh started hcall
          -- so the statement that consumes it finds it live and wins
          have hwon : (wire.server.db.tokens.consume wire.server.now id).2 = true := by
            rw [RefreshTokens.consume, hcurrent]
            exact hlive
          simp only [Auth.advance, hwon, if_true]
          exact inv_moved_consume h hcall
      | rotateUser row fresh started =>
          simp only [Auth.advance]
          split
          · exact inv_moved_read h hcall (by intro _ hnone; cases hnone) rfl
              (by intro _ _ _ _ hnot; cases hnot)
          · exact inv_moved_done h hcall rfl
      | rotateInsert userId familyId fresh started => exact inv_moved_insert h hcall
      | logoutFind token =>
          simp only [Auth.advance]
          split
          · exact inv_moved_done h hcall rfl
          · exact inv_moved_read h hcall (by intro _ hnone; cases hnone) rfl
              (by intro _ _ _ _ hnot; cases hnot)
      | revoke familyId logout =>
          cases logout with
          | true => exact inv_moved_revoke h hcall (hguard familyId hcall)
          | false => cases h.silent m _ hcall
      | issueInsert userId fresh started => exact inv_moved_insert h hcall
      | done answer =>
          exact inv_moved_read h hcall (fun _ hnone => hnone) (h.silent m _ hcall)
            (by intro _ _ _ _ hnot; cases hnot)

/-- A statement that fails ends its call. -/
theorem inv_fail (h : wire.Inv) : Inv { wire with server := wire.server.step ttl (.fail m) } := by
  simp only [Auth.World.step]
  split
  · exact h
  · exact h
  · next call hcall => exact inv_moved_done h hcall rfl

theorem inv_tick (h : wire.Inv) (ms : Nat) :
    Inv { wire with server := wire.server.step ttl (.tick ms) } where
  transit_lt := h.transit_lt
  calls_lt := h.calls_lt
  unique := h.unique
  unspent := h.unspent
  rotating := h.rotating
  silent := h.silent

end Wire

/-! ## What the client sends -/

namespace World

/-- A step sends at most one request, and to `/auth/refresh` only with the token
`o`. -/
def Sends (o : Option TokenHash) (w w' : World) : Prop :=
  w'.wire = w.wire ∨
    ∃ message, w'.wire = w.wire.send message ∧ ∀ token ∈ message.presented, o = some token

variable {w : World} {o : Option TokenHash}

theorem sends_refl : Sends o w w :=
  .inl rfl

theorem sends_locally (f : Client → Client) : Sends o w (w.locally f) :=
  .inl rfl

theorem sends_refreshSession (n : Nat) (caller : Caller) :
    Sends w.client.refreshToken w (w.refreshSession n caller) := by
  unfold refreshSession
  split
  · exact sends_locally _
  · next token htoken => exact .inr ⟨_, rfl, fun _ hmem => htoken.trans hmem⟩

theorem sends_received (n : Nat) (task : Task) (retried unauthorized : Bool) :
    Sends (w.presentsOn401 retried unauthorized) w (w.received n task retried unauthorized) := by
  cases unauthorized with
  | false => exact sends_locally _
  | true =>
      cases retried with
      | true => exact sends_locally _
      | false =>
          show Sends (w.presentsOn401 false true) w (w.ensureRefreshed n task)
          unfold ensureRefreshed presentsOn401
          cases hrefreshing : w.client.refreshing with
          | some r => exact sends_locally _
          | none => exact sends_refreshSession (w := w.locally _) _ _

theorem sends_resend (n : Nat) (task : Task) : Sends o w (w.resend n task) := by
  cases task with
  | plain => exact sends_locally _
  | logout token m => exact .inr ⟨.logout token, rfl, fun _ hmem => nomatch hmem⟩

theorem sends_logout (n : Nat) : Sends o w (w.logout n) := by
  unfold logout
  split
  · exact sends_locally _
  · next token _ => exact .inr ⟨.logout token, rfl, fun _ hmem => nomatch hmem⟩

theorem sends_answeredRefresh (n : Nat) (caller : Caller) (answer : Answer) :
    Sends o w (w.answeredRefresh n caller answer) := by
  unfold answeredRefresh
  split
  · split
    · exact sends_locally _
    · exact sends_refl
  · split
    · exact sends_locally _
    · exact sends_locally _

theorem sends_answeredPair (n : Nat) (answer : Answer) :
    Sends o w (w.answeredPair n answer) := by
  unfold answeredPair
  split
  · split
    · exact sends_locally _
    · exact sends_refl
  · exact sends_locally _

/-- Refreshes are sent by three kinds of steps only: a launch, a rejection by the
gateway, and the first 401 of a request while no other request refreshes. -/
theorem sends_clientStep (a : ClientAct) :
    Sends (w.presents (.client a)) w (w.clientStep a) := by
  cases a with
  | start =>
      simp only [clientStep, presents]
      split
      · exact sends_refl
      · cases hvault : w.client.vault with
        | none => exact sends_locally _
        | some stored => exact sends_refreshSession (w := w.locally _) _ _
  | pair userId => exact .inr ⟨.pair userId, rfl, fun _ hmem => nomatch hmem⟩
  | signOut => exact sends_locally _
  | request => exact sends_locally _
  | gatewayReady => exact sends_locally _
  | gatewayAuthFailure =>
      unfold clientStep presents
      dsimp only
      by_cases hgive : w.client.authRetryUsed = true ∨ w.client.refreshToken.isNone = true
      · -- it gives up, and the session is cleared without a request
        rw [if_pos hgive]
        exact sends_locally _
      · rw [if_neg hgive, if_neg fun hused => hgive (.inl hused)]
        exact sends_refreshSession (w := w.locally _) _ _
  | replied n unauthorized =>
      unfold clientStep presents
      dsimp only
      cases w.client.ops.lookup n with
      | none => exact sends_refl
      | some op =>
          cases op with
          | request task retried =>
              cases task with
              | plain => exact sends_received _ _ _ _
              -- a logout is answered by the wire, not by this step
              | logout token m => exact sends_refl
          | _ => exact sends_refl
  | answered n =>
      unfold clientStep presents
      dsimp only
      cases w.client.ops.lookup n with
      | none => exact sends_refl
      | some op =>
          cases op with
          | request task retried =>
              cases task with
              | plain => exact sends_refl
              | logout token m =>
                  dsimp only
                  cases w.wire.answer m with
                  | none => exact sends_refl
                  | some answer => exact sends_received _ _ _ _
          | refreshing caller m =>
              dsimp only
              cases w.wire.answer m with
              | none => exact sends_refl
              | some answer => exact sends_answeredRefresh _ _ _
          | pairing m =>
              dsimp only
              cases w.wire.answer m with
              | none => exact sends_refl
              | some answer => exact sends_answeredPair _ _
          | _ => exact sends_refl
  -- from here on no step sends a refresh
  | networkError n =>
      simp only [clientStep]
      split
      · exact sends_locally _
      · exact sends_locally _
      · exact sends_locally _
      · exact sends_refl
  | resumed n =>
      simp only [clientStep]
      split
      · split
        · exact sends_resend _ _
        · exact sends_locally _
        · exact sends_refl
      · exact sends_refl
  | finalized r =>
      simp only [clientStep]
      split
      · split
        · exact sends_locally _
        · exact sends_refl
      · exact sends_refl
  | stored n ok =>
      simp only [clientStep]
      split
      · split
        · exact sends_locally _
        · exact sends_locally _
      · split
        · exact sends_locally _
        · exact sends_locally _
      · exact sends_refl
  | left n =>
      simp only [clientStep]
      split
      · exact sends_logout _
      · exact sends_refl
  | cleared n =>
      simp only [clientStep]
      split
      · exact sends_locally _
      · exact sends_refl
  | relaunched => exact sends_locally _

/-! ## Runs -/

variable (ttl : Nat)

theorem inv_step (a : Act) (h : w.wire.Inv) (hok : w.SingleUse a) :
    (w.step ttl a).wire.Inv := by
  cases a with
  | client a =>
      obtain hsame | ⟨message, hsent, hcarried⟩ := sends_clientStep (w := w) a
      · rw [step, hsame]
        exact h
      · rw [step, hsent]
        exact Wire.inv_send h fun token hmem => hok.1 token (hcarried token hmem)
  | arrive m fresh => exact Wire.inv_arrive h fresh
  | serve m =>
      refine Wire.inv_serve h fun familyId hrevoke => hok.2 familyId ?_
      simp only [revokes, hrevoke, Option.mem_some_iff]
  | fail m => exact Wire.inv_fail h
  | tick ms => exact Wire.inv_tick h ms

/-- As long as tokens are used once, the server never detects a reuse, in whatever
order requests, statements and responses come. -/
theorem noReuse_throughout (users : List Uuid) (as : List Act)
    (hok : EachStep (step ttl) SingleUse (init users) as) :
    Throughout (step ttl) (fun w => w.wire.NoReuse) (init users) as := by
  have hinv : Throughout (step ttl) (fun w => w.wire.Inv) (init users) as :=
    throughout_of_eachStep (I := fun w => w.wire.Inv)
      (fun w a h hstep => inv_step ttl a h hstep) (Wire.inv_init users) hok
  exact hinv.mono fun w h => h.noReuse

/-- A client pairs, and its access token expires. -/
private def pairedAndExpired : List Act :=
  [.client (.pair 5), .arrive 0 42, .serve 0, .client (.answered 0), .client (.stored 0 true),
    .client .request, .client (.replied 1 true)]

/-- The request is repeated after its refresh, and the user signs out. -/
theorem refreshed_once_has_no_reuse :
    Throughout (step 60) (fun w => w.wire.NoReuse) (init [5])
      (pairedAndExpired ++
        [Act.arrive 1 43, Act.serve 1, Act.serve 1, Act.serve 1, Act.serve 1,
          Act.client (.answered 2), Act.client (.stored 2 true), Act.client (.resumed 1),
          Act.client (.finalized 2), Act.client .signOut, Act.client (.left 3), Act.arrive 2 44,
          Act.serve 2, Act.serve 2]) :=
  noReuse_throughout 60 [5] _ (by decide)

/-- The server's calls after a run show a reuse. -/
private theorem not_noReuse_of_run {as : List Act} (m : Nat) (call : Auth.Call)
    (hcall : (run (step 60) (init [5]) as).wire.server.calls.lookup m = some call)
    (hreuses : reuses call = true) :
    ¬ Throughout (step 60) (fun w => w.wire.NoReuse) (init [5]) as := by
  intro h
  have hend := throughout_iff_initial.mp h as (List.prefix_refl as)
  have hsilent := (hend call (AList.mem_vals_iff.mpr ⟨m, hcall⟩)).1
  rw [hreuses] at hsilent
  cases hsilent

/-- The gateway rejects the session while a request refreshes it: both send the same
token.  Or the answer of a refresh is lost, and the next 401 sends the token again. -/
theorem honest_client_trips_reuse_detection :
    ¬ Throughout (step 60) (fun w => w.wire.NoReuse) (init [5])
        (pairedAndExpired ++
          [Act.client .gatewayAuthFailure, Act.arrive 1 43, Act.arrive 2 44, Act.serve 1,
            Act.serve 1, Act.serve 2, Act.serve 2]) ∧
      ¬ Throughout (step 60) (fun w => w.wire.NoReuse) (init [5])
        (pairedAndExpired ++
          [Act.arrive 1 43, Act.serve 1, Act.serve 1, Act.serve 1, Act.serve 1,
            Act.client (.networkError 2), Act.client (.resumed 1), Act.client (.finalized 2),
            Act.client .request, Act.client (.replied 3 true), Act.arrive 2 44, Act.serve 2,
            Act.serve 2]) :=
  ⟨not_noReuse_of_run 2 (.done (.tokenReused 0)) (by decide) rfl,
    not_noReuse_of_run 2 (.done (.tokenReused 0)) (by decide) rfl⟩

end World

end ApiClient
end Desktop
end Ldktela
