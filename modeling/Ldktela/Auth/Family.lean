import Ldktela.Auth.Session

/-!
# Families of refresh tokens under interleaving

Two properties of every run of `issue_session`, `rotate_refresh` and
`revoke_session` calls, whatever tokens they present.

* A family has at most one live token.  The invariant counts a rotation that has
  won `consume` and not inserted yet as a holder of the family, beside the live
  tokens (`Holds`); a family has at most one holder.
* A family that reuse detection or a logout has brought down has no usable token.
  The winner of a race inserts its token in a statement of its own, and this
  holds exactly along the runs in which no such insert comes after the
  revocation (`familiesDead_throughout_iff`).
-/

namespace Ldktela
namespace Auth

open Protocol
open Db
open Runs

namespace World

variable {ttl : Nat} {w w' : World}

/-! ## Ids below the counter -/

/-- What a call remembers is about families that exist. -/
structure CallOk (db : Database) (call : Call) : Prop where
  pending_lt : ∀ f, call.pending = some f → f < db.nextId
  candidate_known : ∀ id f, call.candidate = some (id, f) →
    ∃ row, db.tokens.lookup id = some row ∧ row.familyId = f
  revoking_lt : ∀ f, call.revoking = some f → f < db.nextId
  killed_lt : ∀ f, call.killed = some f → f < db.nextId

structure TokensOk (db : Database) : Prop where
  id_lt : ∀ id row, db.tokens.lookup id = some row → id < db.nextId
  family_lt : ∀ id row, db.tokens.lookup id = some row → row.familyId < db.nextId

/-- A statement that rewrites rows in place, each within its family, keeps ids and
families below the counter. -/
theorem TokensOk.rewrite {db : Database} {tokens : RefreshTokens} (h : TokensOk db)
    (hrows : ∀ id row, tokens.lookup id = some row →
      ∃ old, db.tokens.lookup id = some old ∧ row.familyId = old.familyId) :
    TokensOk { db with tokens := tokens } where
  id_lt id row hrow := by
    obtain ⟨old, hold, -⟩ := hrows id row hrow
    exact h.id_lt id old hold
  family_lt id row hrow := by
    obtain ⟨old, hold, hfamily⟩ := hrows id row hrow
    rw [hfamily]
    exact h.family_lt id old hold

/-- Ids, families and what the calls remember are below the counter. -/
structure Bounded (w : World) : Prop where
  tokens : TokensOk w.db
  calls : ∀ i call, w.calls.lookup i = some call → CallOk w.db call

/-- A token keeps its family, and the counter only grows. -/
structure Grows (db db' : Database) : Prop where
  nextId_le : db.nextId ≤ db'.nextId
  family_kept : ∀ id row, db.tokens.lookup id = some row →
    ∃ row', db'.tokens.lookup id = some row' ∧ row'.familyId = row.familyId

theorem CallOk.mono {db db' : Database} {call : Call} (h : CallOk db call)
    (hgrows : Grows db db') : CallOk db' call where
  pending_lt f hf := Nat.lt_of_lt_of_le (h.pending_lt f hf) hgrows.nextId_le
  candidate_known id f hf := by
    obtain ⟨row, hrow, rfl⟩ := h.candidate_known id f hf
    exact hgrows.family_kept id row hrow
  revoking_lt f hf := Nat.lt_of_lt_of_le (h.revoking_lt f hf) hgrows.nextId_le
  killed_lt f hf := Nat.lt_of_lt_of_le (h.killed_lt f hf) hgrows.nextId_le

/-- A call that remembers nothing. -/
theorem CallOk.of_none {db : Database} {call : Call} (hpending : call.pending = none)
    (hcandidate : call.candidate = none) (hrevoking : call.revoking = none)
    (hkilled : call.killed = none) : CallOk db call where
  pending_lt f hf := by simp [hpending] at hf
  candidate_known id f hf := by simp [hcandidate] at hf
  revoking_lt f hf := by simp [hrevoking] at hf
  killed_lt f hf := by simp [hkilled] at hf

section Effects

variable {now : Timestamp} {db db' : Database} {call call' : Call}

theorem effect_grows (heffect : Effect ttl now db call db' call') : Grows db db' := by
  cases heffect with
  | read => exact ⟨Nat.le_refl _, fun id row hrow => ⟨row, hrow, rfl⟩⟩
  | consumed id f row _ _ _ _ _ =>
      refine ⟨Nat.le_refl _, fun id' row' hrow' => ?_⟩
      dsimp only
      rw [RefreshTokens.lookup_consume, hrow']
      split
      · exact ⟨_, rfl, row'.consume_familyId now⟩
      · exact ⟨row', rfl, rfl⟩
  | inserted f userId fresh started _ haccepts =>
      refine ⟨Nat.le_succ _, fun id' row' hrow' => ⟨row', ?_, rfl⟩⟩
      dsimp only
      -- the id of the new token is the id of no row
      rw [AList.lookup_insert_ne, hrow']
      rintro rfl
      exact haccepts.2.1 (AList.lookup_isSome.mp (by simp [hrow']))
  | revoked f _ _ _ _ =>
      refine ⟨Nat.le_refl _, fun id' row' hrow' => ?_⟩
      dsimp only
      rw [RefreshTokens.lookup_revokeFamily, hrow']
      refine ⟨_, rfl, ?_⟩
      dsimp only
      split
      · exact row'.revoke_familyId now
      · rfl

theorem effect_tokensOk (heffect : Effect ttl now db call db' call') (htokens : TokensOk db)
    (hcall : CallOk db call) : TokensOk db' := by
  cases heffect with
  | read => exact htokens
  | consumed id f row _ _ _ _ _ =>
      exact htokens.rewrite fun _ _ => RefreshTokens.exists_of_lookup_consume
  | inserted f userId fresh started hwho _ =>
      have hf : f < db.nextId + 1 := by
        rcases hwho with rfl | ⟨-, rfl⟩
        · exact Nat.lt_succ_of_lt (hcall.pending_lt f rfl)
        · exact Nat.lt_succ_self _
      constructor
      · intro id' row' hrow'
        dsimp only at hrow' ⊢
        rw [AList.lookup_insert_ite] at hrow'
        split at hrow'
        · next heq =>
            rw [heq]
            exact Nat.lt_succ_self _
        · exact Nat.lt_succ_of_lt (htokens.id_lt id' row' hrow')
      · intro id' row' hrow'
        dsimp only at hrow' ⊢
        rw [AList.lookup_insert_ite] at hrow'
        split at hrow'
        · rw [← Option.some.inj hrow']
          exact hf
        · exact Nat.lt_succ_of_lt (htokens.family_lt id' row' hrow')
  | revoked f _ _ _ _ =>
      exact htokens.rewrite fun _ _ => RefreshTokens.exists_of_lookup_revokeFamily

theorem effect_callOk (heffect : Effect ttl now db call db' call') (htokens : TokensOk db)
    (hcall : CallOk db call) : CallOk db' call' := by
  have hknown : ∀ id f, call.candidate = some (id, f) → f < db.nextId := by
    intro id f hf
    obtain ⟨row, hrow, rfl⟩ := hcall.candidate_known id f hf
    exact htokens.family_lt id row hrow
  cases heffect with
  | read _ hpending hcandidate hrevoking hkilled =>
      refine ⟨fun f hf => hcall.pending_lt f (hpending f hf), hcandidate, fun f hf => ?_,
        fun f hf => hcall.killed_lt f (hkilled f hf)⟩
      rcases hrevoking f hf with ⟨id, hid⟩ | ⟨id, row, hrow, rfl⟩
      · exact hknown id f hid
      · exact htokens.family_lt id row hrow
  | consumed id f row _ hcandidate _ _ hcall' =>
      obtain ⟨hpending, hnone, hrevoking, hkilled⟩ := hcall'
      refine ⟨fun f' hf' => ?_, fun id' f' hf' => ?_, fun f' hf' => ?_, fun f' hf' => ?_⟩
      · obtain rfl := Option.some.inj (hpending.symm.trans hf')
        exact hknown id f hcandidate
      · simp [hnone] at hf'
      · simp [hrevoking] at hf'
      · simp [hkilled] at hf'
  | inserted => exact CallOk.of_none rfl rfl rfl rfl
  | revoked f _ hrevoking hkilled hcall' =>
      obtain ⟨hpending, hcandidate, hnone⟩ := hcall'
      refine ⟨fun f' hf' => ?_, fun id' f' hf' => ?_, fun f' hf' => ?_, fun f' hf' => ?_⟩
      · simp [hpending] at hf'
      · simp [hcandidate] at hf'
      · simp [hnone] at hf'
      · obtain rfl := Option.some.inj (hkilled.symm.trans hf')
        exact hcall.revoking_lt f hrevoking

end Effects

/-! ## Steps of a world -/

/-- What a step does to the calls: it takes the next statement of one of them, or
it touches no token and leaves one call, at most, remembering nothing new. -/
inductive Moves (ttl : Nat) (w : World) : World → Prop
  | statement (i : Nat) (call : Call) (db' : Database) (call' : Call)
      (hcall : w.calls.lookup i = some call)
      (heffect : Effect ttl w.now w.db call db' call') :
      Moves ttl w { w with db := db', calls := w.calls.insert i call' }
  | idle (i : Nat) (call' : Call)
      (hold : ∀ call, w.calls.lookup i = some call → call.killed = none)
      (hpending : call'.pending = none) (hcandidate : call'.candidate = none)
      (hrevoking : call'.revoking = none) (hkilled : call'.killed = none) :
      Moves ttl w { w with calls := w.calls.insert i call' }
  | wait (ms : Nat) : Moves ttl w { w with now := w.now + ms }

private theorem moves_begin (i : Nat) {call : Call} (hpending : call.pending = none)
    (hcandidate : call.candidate = none) (hrevoking : call.revoking = none)
    (hkilled : call.killed = none) : Moves ttl w (w.begin i call) := by
  unfold begin
  split
  · exact .wait 0
  · next hnew =>
      refine .idle i call (fun old hold => ?_) hpending hcandidate hrevoking hkilled
      exact absurd (AList.lookup_isSome.mp (by simp [hold])) hnew

theorem step_moves (w : World) (a : Act) : Moves ttl w (step ttl w a) := by
  cases a with
  | issue i userId fresh => exact moves_begin i rfl rfl rfl rfl
  | rotate i presented fresh => exact moves_begin i rfl rfl rfl rfl
  | logout i presented => exact moves_begin i rfl rfl rfl rfl
  | advance i =>
      simp only [step]
      cases hcall : w.calls.lookup i with
      | none => exact .wait 0
      | some call => exact .statement i call _ _ hcall (advance_effect call)
  | fail i =>
      simp only [step]
      split
      · exact .wait 0
      · exact .wait 0
      · next call hdone hcall =>
          refine .idle i _ (fun call' hcall' => ?_) rfl rfl rfl rfl
          obtain rfl := Option.some.inj (hcall.symm.trans hcall')
          cases call with
          | done answer => exact absurd rfl (hdone answer)
          | _ => rfl
  | tick ms => exact .wait ms

theorem bounded_step (w : World) (a : Act) (h : w.Bounded) : (step ttl w a).Bounded := by
  have hmoves : Moves ttl w (step ttl w a) := step_moves w a
  generalize step ttl w a = w' at hmoves
  cases hmoves with
  | statement i call db' call' hcall heffect =>
      refine ⟨effect_tokensOk heffect h.tokens (h.calls i call hcall), fun j other hother => ?_⟩
      dsimp only at hother ⊢
      rw [AList.lookup_insert_ite] at hother
      split at hother
      · rw [← Option.some.inj hother]
        exact effect_callOk heffect h.tokens (h.calls i call hcall)
      · exact (h.calls j other hother).mono (effect_grows heffect)
  | idle i call' hold hpending hcandidate hrevoking hkilled =>
      refine ⟨h.tokens, fun j other hother => ?_⟩
      dsimp only at hother ⊢
      rw [AList.lookup_insert_ite] at hother
      split at hother
      · rw [← Option.some.inj hother]
        exact CallOk.of_none hpending hcandidate hrevoking hkilled
      · exact h.calls j other hother
  | wait ms => exact ⟨h.tokens, h.calls⟩

theorem bounded_init (users : List Uuid) : (init users).Bounded where
  tokens := ⟨fun id row h => by simp [init] at h, fun id row h => by simp [init] at h⟩
  calls i call h := by simp [init] at h

/-! ## One holder for each family -/

/-- Who may hold a family: a token, or a rotation between its two writes. -/
inductive Holder where
  | token (id : Uuid)
  | call (i : Nat)
deriving DecidableEq

/-- A live token holds its family, and so does a rotation that has consumed the
last live token and not inserted the next one yet. -/
def Holds (w : World) (f : Uuid) : Holder → Prop
  | .token id => ∃ row, w.db.tokens.lookup id = some row ∧ row.familyId = f ∧ row.isLive = true
  | .call i => ∃ call, w.calls.lookup i = some call ∧ call.pending = some f

/-- A family has at most one holder. -/
def OneHolder (w : World) : Prop :=
  ∀ f h h', w.Holds f h → w.Holds f h' → h = h'

/-- A step that makes no new holder keeps holders unique. -/
theorem oneHolder_of_subset (hone : w.OneHolder)
    (hsub : ∀ f h, w'.Holds f h → w.Holds f h) : w'.OneHolder :=
  fun f h h' hh hh' => hone f h h' (hsub f h hh) (hsub f h' hh')

/-- A step that passes a family from one holder to another keeps holders unique. -/
theorem oneHolder_of_passed (hone : w.OneHolder) (f₀ : Uuid) (old new : Holder)
    (hold : w.Holds f₀ old) (hgone : ¬ w'.Holds f₀ old)
    (hsub : ∀ f h, w'.Holds f h → (f = f₀ ∧ h = new) ∨ w.Holds f h) : w'.OneHolder := by
  -- whoever else holds the family after held it beside `old` before
  have hothers : ∀ h, w'.Holds f₀ h → h = new := by
    intro h hh
    rcases hsub f₀ h hh with ⟨-, heq⟩ | hbefore
    · exact heq
    · rw [hone f₀ h old hbefore hold] at hh
      exact absurd hh hgone
  intro f h h' hh hh'
  by_cases hf : f = f₀
  · subst hf
    rw [hothers h hh, hothers h' hh']
  · rcases hsub f h hh with ⟨heq, -⟩ | hbefore
    · exact absurd heq hf
    · rcases hsub f h' hh' with ⟨heq, -⟩ | hbefore'
      · exact absurd heq hf
      · exact hone f h h' hbefore hbefore'

/-- The calls that hold a family after the call `i` moved on. -/
private theorem holds_call_insert {db' : Database} {i j : Nat} {f : Uuid} {call' : Call}
    (h : Holds { w with db := db', calls := w.calls.insert i call' } f (.call j)) :
    (j = i ∧ call'.pending = some f) ∨ w.Holds f (.call j) := by
  obtain ⟨call, hlookup, hpending⟩ := h
  dsimp only at hlookup
  rw [AList.lookup_insert_ite] at hlookup
  split at hlookup
  · next heq =>
      rw [← Option.some.inj hlookup] at hpending
      exact .inl ⟨heq, hpending⟩
  · exact .inr ⟨call, hlookup, hpending⟩

private theorem oneHolder_statement {i : Nat} {call call' : Call} {db' : Database}
    (hcall : w.calls.lookup i = some call)
    (heffect : Effect ttl w.now w.db call db' call') (hbounded : w.Bounded)
    (hone : w.OneHolder) :
    OneHolder { w with db := db', calls := w.calls.insert i call' } := by
  cases heffect with
  | read _ hpending _ _ _ =>
      refine oneHolder_of_subset hone fun f h hh => ?_
      cases h with
      | token id => exact hh
      | call j =>
          rcases holds_call_insert hh with ⟨rfl, hf⟩ | hbefore
          · exact ⟨call, hcall, hpending f hf⟩
          · exact hbefore
  | consumed id f₀ row _ hcandidate hrow hlive hcall' =>
      -- the family passes from the token to the call
      obtain ⟨row', hrow', hfamily⟩ :=
        (hbounded.calls i call hcall).candidate_known id f₀ hcandidate
      obtain rfl := Option.some.inj (hrow.symm.trans hrow')
      refine oneHolder_of_passed hone f₀ (.token id) (.call i)
        ⟨row, hrow, hfamily, hlive⟩ ?_ fun f h hh => ?_
      · rintro ⟨after, hafter, -, hafterLive⟩
        dsimp only at hafter
        rw [RefreshTokens.lookup_consume, if_pos rfl, hrow] at hafter
        rw [← Option.some.inj hafter, RefreshTokenRow.consume_isLive] at hafterLive
        cases hafterLive
      · cases h with
        | token id' =>
            obtain ⟨after, hafter, hf, hafterLive⟩ := hh
            dsimp only at hafter
            rw [RefreshTokens.lookup_consume] at hafter
            split at hafter
            · obtain ⟨before, -, rfl⟩ := Option.map_eq_some_iff.mp hafter
              rw [RefreshTokenRow.consume_isLive] at hafterLive
              cases hafterLive
            · exact .inr ⟨after, hafter, hf, hafterLive⟩
        | call j =>
            rcases holds_call_insert hh with ⟨rfl, hf⟩ | hbefore
            · exact .inl ⟨Option.some.inj (hf.symm.trans hcall'.1), rfl⟩
            · exact .inr hbefore
  | inserted f₀ userId fresh started hwho haccepts =>
      have hsub : ∀ f h,
          Holds { w with
            db := { w.db with
              tokens := AList.insert w.db.nextId (newRow f₀ userId fresh (started + ttl))
                w.db.tokens
              nextId := w.db.nextId + 1 }
            calls := w.calls.insert i (.done (.issued w.db.nextId)) } f h →
          (f = f₀ ∧ h = .token w.db.nextId) ∨ w.Holds f h := by
        intro f h hh
        cases h with
        | token id' =>
            obtain ⟨after, hafter, hf, hafterLive⟩ := hh
            dsimp only at hafter
            rw [AList.lookup_insert_ite] at hafter
            split at hafter
            · next heq =>
                rw [← Option.some.inj hafter] at hf
                exact .inl ⟨hf.symm, by rw [heq]⟩
            · exact .inr ⟨after, hafter, hf, hafterLive⟩
        | call j =>
            rcases holds_call_insert hh with ⟨-, hf⟩ | hbefore
            · cases hf
            · exact .inr hbefore
      rcases hwho with rfl | ⟨-, rfl⟩
      · -- the family passes from the call to the new token
        refine oneHolder_of_passed hone f₀ (.call i) _ ⟨_, hcall, rfl⟩ ?_ hsub
        rintro ⟨after, hafter, hpending⟩
        dsimp only at hafter
        rw [AList.lookup_insert_ite, if_pos rfl] at hafter
        rw [← Option.some.inj hafter] at hpending
        cases hpending
      · -- nobody can hold a family that does not exist yet
        have hnobody : ∀ h, ¬ w.Holds w.db.nextId h := by
          intro h hh
          cases h with
          | token id' =>
              obtain ⟨row, hrow, hf, -⟩ := hh
              exact Nat.lt_irrefl _ (hf ▸ hbounded.tokens.family_lt id' row hrow)
          | call j =>
              obtain ⟨other, hother, hpending⟩ := hh
              exact Nat.lt_irrefl _ ((hbounded.calls j other hother).pending_lt _ hpending)
        intro f h h' hh hh'
        rcases hsub f h hh with ⟨rfl, rfl⟩ | hbefore
        · rcases hsub _ h' hh' with ⟨-, rfl⟩ | hbefore'
          · rfl
          · exact absurd hbefore' (hnobody h')
        · rcases hsub f h' hh' with ⟨rfl, rfl⟩ | hbefore'
          · exact absurd hbefore (hnobody h)
          · exact hone f h h' hbefore hbefore'
  | revoked f₀ _ _ _ hcall' =>
      -- the tokens of the family are no holders any more
      refine oneHolder_of_subset hone fun f h hh => ?_
      cases h with
      | token id' =>
          obtain ⟨after, hafter, hf, hafterLive⟩ := hh
          dsimp only at hafter
          rw [RefreshTokens.lookup_revokeFamily] at hafter
          obtain ⟨before, hbefore, rfl⟩ := Option.map_eq_some_iff.mp hafter
          split at hafterLive
          · rw [RefreshTokenRow.revoke_isLive] at hafterLive
            cases hafterLive
          · next hne =>
              rw [if_neg hne] at hf
              exact ⟨before, hbefore, hf, hafterLive⟩
      | call j =>
          rcases holds_call_insert hh with ⟨-, hf⟩ | hbefore
          · rw [hcall'.1] at hf
            cases hf
          · exact hbefore

theorem oneHolder_step (w : World) (a : Act) (h : w.Bounded ∧ w.OneHolder) :
    (step ttl w a).Bounded ∧ (step ttl w a).OneHolder := by
  refine ⟨bounded_step w a h.1, ?_⟩
  have hmoves : Moves ttl w (step ttl w a) := step_moves w a
  generalize step ttl w a = w' at hmoves
  cases hmoves with
  | statement i call db' call' hcall heffect =>
      exact oneHolder_statement hcall heffect h.1 h.2
  | idle i call' _ hpending _ _ _ =>
      refine oneHolder_of_subset h.2 fun f holder hh => ?_
      cases holder with
      | token id => exact hh
      | call j =>
          rcases @holds_call_insert w w.db _ _ _ _ hh with ⟨-, hf⟩ | hbefore
          · rw [hpending] at hf
            cases hf
          · exact hbefore
  | wait ms => exact h.2

/-- No family has two tokens that are neither consumed nor revoked. -/
def AtMostOneLive (w : World) : Prop :=
  ∀ id id' row row', w.db.tokens.lookup id = some row → w.db.tokens.lookup id' = some row' →
    row.isLive = true → row'.isLive = true → row.familyId = row'.familyId → id = id'

theorem atMostOneLive_of_oneHolder (h : w.OneHolder) : w.AtMostOneLive := by
  intro id id' row row' hrow hrow' hlive hlive' hfamily
  have heq := h row.familyId (.token id) (.token id') ⟨row, hrow, rfl, hlive⟩
    ⟨row', hrow', hfamily.symm, hlive'⟩
  exact Holder.token.inj heq

/-- Along every interleaving of the statements of any calls, a family has at most
one live token. -/
theorem atMostOneLive_throughout (ttl : Nat) (users : List Uuid) (acts : List Act) :
    Throughout (step ttl) AtMostOneLive (init users) acts := by
  have hinit : (init users).Bounded ∧ (init users).OneHolder := by
    refine ⟨bounded_init users, fun f h h' hh _ => ?_⟩
    cases h with
    | token id =>
        obtain ⟨row, hrow, -⟩ := hh
        simp [init] at hrow
    | call i =>
        obtain ⟨call, hcall, -⟩ := hh
        simp [init] at hcall
  rw [throughout_iff_initial]
  intro prior _
  exact atMostOneLive_of_oneHolder (run_invariant oneHolder_step hinit prior).2

/-! ## Families that were brought down -/

/-- Some call answered `TokenReused` on the family, or a logout of it completed. -/
def Killed (w : World) (f : Uuid) : Prop :=
  ∃ i call, w.calls.lookup i = some call ∧ call.killed = some f

/-- No token of a family that was brought down is usable. -/
def FamiliesDead (w : World) : Prop :=
  ∀ f, w.Killed f → ∀ id row, w.db.tokens.lookup id = some row → row.familyId = f →
    row.isUsable w.now = false

/-- The next statement of the call is the insert of a rotation, it breaks no
constraint, and the token it inserts has not expired yet. -/
def InsertsUsable (ttl : Nat) (w : World) (i : Nat) (f : Uuid) : Prop :=
  ∃ userId fresh started, w.calls.lookup i = some (.rotateInsert userId f fresh started) ∧
    w.db.Accepts userId fresh ∧ w.now < started + ttl

/-- No rotation inserts a token into a family that was brought down. -/
def InsertsInTime (ttl : Nat) (w : World) : Act → Prop
  | .advance i => ∀ f, InsertsUsable ttl w i f → ¬ w.Killed f
  | _ => True

/-- The families that are down after the call `i` moved on. -/
private theorem killed_insert {db' : Database} {i : Nat} {call' : Call} {f : Uuid}
    (h : Killed { w with db := db', calls := w.calls.insert i call' } f) :
    call'.killed = some f ∨ w.Killed f := by
  obtain ⟨j, call, hlookup, hkilled⟩ := h
  dsimp only at hlookup
  rw [AList.lookup_insert_ite] at hlookup
  split at hlookup
  · rw [← Option.some.inj hlookup] at hkilled
    exact .inl hkilled
  · exact .inr ⟨j, call, hlookup, hkilled⟩

/-- A row that is not live is not usable. -/
private theorem isUsable_of_not_isLive {row : RefreshTokenRow} {now : Timestamp}
    (h : row.isLive = false) : row.isUsable now = false := by
  rw [row.isUsable_eq, h, Bool.false_and]

private theorem familiesDead_statement {i : Nat} {call call' : Call} {db' : Database}
    (hcall : w.calls.lookup i = some call)
    (heffect : Effect ttl w.now w.db call db' call') (hbounded : w.Bounded)
    (hdead : w.FamiliesDead) (hintime : ∀ f, InsertsUsable ttl w i f → ¬ w.Killed f) :
    FamiliesDead { w with db := db', calls := w.calls.insert i call' } := by
  intro f hkilled id row hrow hfamily
  dsimp only at hrow
  cases heffect with
  | read _ _ _ _ hkilled' =>
      rcases killed_insert hkilled with hnow | hbefore
      · exact hdead f ⟨i, call, hcall, hkilled' f hnow⟩ id row hrow hfamily
      · exact hdead f hbefore id row hrow hfamily
  | consumed id₀ f₀ row₀ _ _ _ _ hcall' =>
      have hbefore : w.Killed f := by
        rcases killed_insert hkilled with hnow | hbefore
        · rw [hcall'.2.2.2] at hnow
          cases hnow
        · exact hbefore
      rw [RefreshTokens.lookup_consume] at hrow
      split at hrow
      · obtain ⟨old, -, rfl⟩ := Option.map_eq_some_iff.mp hrow
        exact isUsable_of_not_isLive (old.consume_isLive w.now)
      · exact hdead f hbefore id row hrow hfamily
  | inserted f₀ userId fresh started hwho haccepts =>
      have hbefore : w.Killed f := by
        rcases killed_insert hkilled with hnow | hbefore
        · cases hnow
        · exact hbefore
      rw [AList.lookup_insert_ite] at hrow
      split at hrow
      · obtain rfl := Option.some.inj hrow
        obtain rfl : f₀ = f := hfamily
        rcases hwho with rfl | ⟨-, rfl⟩
        · -- a rotation inserts a usable token into a family that is down
          by_contra husable
          rw [Bool.not_eq_false] at husable
          have hfresh : w.now < started + ttl := of_decide_eq_true husable
          exact hintime f₀ ⟨userId, fresh, started, hcall, haccepts, hfresh⟩ hbefore
        · -- a family that starts only now was never brought down
          obtain ⟨j, other, hother, hk⟩ := hbefore
          exact absurd ((hbounded.calls j other hother).killed_lt _ hk) (Nat.lt_irrefl _)
      · exact hdead f hbefore id row hrow hfamily
  | revoked f₀ _ _ hkilled₀ _ =>
      rw [RefreshTokens.lookup_revokeFamily] at hrow
      obtain ⟨old, hold, rfl⟩ := Option.map_eq_some_iff.mp hrow
      split at hfamily
      · next hf => rw [if_pos hf, isUsable_of_not_isLive (old.revoke_isLive w.now)]
      · next hf =>
          rw [if_neg hf]
          rcases killed_insert hkilled with hnow | hbefore
          · exact absurd (hfamily.trans (Option.some.inj (hnow.symm.trans hkilled₀))) hf
          · exact hdead f hbefore id old hold hfamily

/-- An insert into a family that was brought down leaves a usable token in it. -/
private theorem not_familiesDead_of_insert {i : Nat} {f : Uuid}
    (hinsert : InsertsUsable ttl w i f) (hkilled : w.Killed f) :
    ¬ (step ttl w (.advance i)).FamiliesDead := by
  obtain ⟨userId, fresh, started, hcall, haccepts, hfresh⟩ := hinsert
  intro hdead
  obtain ⟨j, other, hother, hk⟩ := hkilled
  -- the call that brought the family down has returned, and this one has not
  have hne : j ≠ i := by
    rintro rfl
    rw [← Option.some.inj (hcall.symm.trans hother)] at hk
    cases hk
  simp only [step, hcall, advance, insertToken_of_accepts haccepts] at hdead
  have hrow := hdead f ⟨j, other, by rw [AList.lookup_insert_ne hne, hother], hk⟩ w.db.nextId
    (newRow f userId fresh (started + ttl)) (AList.lookup_insert _) rfl
  exact of_decide_eq_false hrow hfresh

/-- A step keeps the families that were brought down dead exactly when it inserts
nothing into them. -/
theorem familiesDead_step_iff (w : World) (a : Act) (hbounded : w.Bounded)
    (hdead : w.FamiliesDead) :
    (step ttl w a).FamiliesDead ↔ InsertsInTime ttl w a := by
  constructor
  · intro hafter
    cases a with
    | advance i => exact fun f hinsert hkilled => not_familiesDead_of_insert hinsert hkilled hafter
    | _ => trivial
  · intro hintime
    have hidle : ∀ {i : Nat} {call' : Call}, call'.killed = none →
        FamiliesDead { w with calls := w.calls.insert i call' } := by
      intro i call' hnone f hkilled
      rcases @killed_insert w w.db _ _ _ hkilled with hnow | hbefore
      · rw [hnone] at hnow
        cases hnow
      · exact hdead f hbefore
    have hbegin : ∀ {i : Nat} {call' : Call}, call'.killed = none →
        (w.begin i call').FamiliesDead := by
      intro i call' hnone
      unfold begin
      split
      · exact hdead
      · exact hidle hnone
    cases a with
    | issue i userId fresh => exact hbegin rfl
    | rotate i presented fresh => exact hbegin rfl
    | logout i presented => exact hbegin rfl
    | advance i =>
        simp only [step]
        cases hcall : w.calls.lookup i with
        | none => exact hdead
        | some call =>
            exact familiesDead_statement hcall (advance_effect call) hbounded hdead hintime
    | fail i =>
        simp only [step]
        split
        · exact hdead
        · exact hdead
        · exact hidle rfl
    | tick ms =>
        -- an expired token stays expired
        intro f hkilled id row hrow hfamily
        have hbefore := hdead f hkilled id row hrow hfamily
        rw [row.isUsable_eq] at hbefore ⊢
        rw [Bool.and_eq_false_iff, decide_eq_false_iff_not] at hbefore ⊢
        refine hbefore.imp_right fun hexpired hlater => hexpired ?_
        exact Nat.lt_of_le_of_lt (Nat.le_add_right w.now ms) hlater

/-- Along a run, a family that reuse detection or a logout has brought down has no
usable token, in any state, exactly when no rotation inserts its new token into
such a family. -/
theorem familiesDead_throughout_iff (ttl : Nat) (users : List Uuid) (acts : List Act) :
    Throughout (step ttl) FamiliesDead (init users) acts ↔
      EachStep (step ttl) (InsertsInTime ttl) (init users) acts := by
  refine throughout_iff_eachStep bounded_step familiesDead_step_iff (bounded_init users) ?_
  rintro f ⟨i, call, hcall, -⟩
  simp [init] at hcall

/-- No call has a statement left to run. -/
def settled (w : World) : Bool :=
  w.calls.vals.all fun call =>
    match call with
    | .done _ => true
    | _ => false

/-- Two rotations present the same token.  The loser revokes the family and
answers `TokenReused` before the winner inserts its new token, which stays
usable after both calls have returned. -/
theorem late_insert_survives_reuse :
    ¬ ∀ (ttl : Nat) (users : List Uuid) (acts : List Act),
      (run (step ttl) (init users) acts).settled = true →
        (run (step ttl) (init users) acts).FamiliesDead := by
  intro h
  have hdead := h 1000 [5]
    [.issue 0 5 10, .advance 0, .rotate 1 10 11, .rotate 2 10 12, .advance 1, .advance 2,
      .advance 1, .advance 2, .advance 2, .advance 1, .advance 1] (by decide)
  have hrow := hdead 0 ⟨2, .done (.tokenReused 0), by decide, rfl⟩ 1 (newRow 0 5 11 1000)
    (by decide) rfl
  exact absurd hrow (by decide)

end World

end Auth
end Ldktela
