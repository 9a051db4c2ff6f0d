import Ldktela.Desktop.MediaSession
import Ldktela.Lib.Runs

/-!
# The admission ledger and what is on the air

The server keeps who holds a publish slot, and every token request is read as the
whole intent of its sender.  The client asks from three places, its starts can fail
after the claim, and the webhooks that give slots back come late.

`agrees_when_idle`: along every run whose steps are `Careful`, whenever no call is in
flight and no webhook is pending, the ledger holds exactly the slots of what the core
has published.  What carries it is `Accounted`, which says the same with the slots
that are on their way: a source on the air has its slot unless its stop is in
flight, and a slot that is held is that of a source on the air, being started, or
given back by a pending webhook.  A step keeps it exactly if it is careful
(`accounted_step_iff`).
-/

namespace Ldktela
namespace Desktop

open Protocol
open Api
open Db
open Discord (Replica)

namespace World

/-- A call for the source has its token and waits for the core. -/
def Starting (w : World) (source : PublicationSource) : Prop :=
  Call.native source ∈ w.calls

/-- A stop of the source waits for the core. -/
def Stopping (w : World) (source : PublicationSource) : Prop :=
  Call.stop source false ∈ w.calls ∨ Call.stop source true ∈ w.calls

instance (w : World) (source : PublicationSource) : Decidable (w.Starting source) :=
  inferInstanceAs (Decidable (Call.native source ∈ w.calls))

instance (w : World) (source : PublicationSource) : Decidable (w.Stopping source) :=
  inferInstanceAs (Decidable (Call.stop source false ∈ w.calls ∨ Call.stop source true ∈ w.calls))

/-- The request is the whole intent at the moment it is answered: it lists what is
on the air and not being stopped and what is being started, and nothing but that,
the source the call itself starts, and sources with a webhook pending that gives
their slot back. -/
def Whole (w : World) (call : Call) (wanted : List PublicationSource) : Prop :=
  ∀ source,
    (w.core.published source = true → ¬ w.Stopping source → source ∈ wanted) ∧
    (w.Starting source → source ∈ wanted) ∧
    (source ∈ wanted → w.core.published source = true ∨ w.Starting source ∨
      call.starts = some source ∨ Released w.hooks source)

/-- A start that fails in silence has somebody else to account for its slot: the
source is on the air already, another call starts it, or a webhook that gives the
slot back is pending. -/
def Covered (w : World) (source : PublicationSource) : Prop :=
  w.core.published source = true ∨ Call.native source ∈ w.calls.erase (.native source) ∨
    Released w.hooks source

/-- The webhook comes while no source whose slot it gives back is being started or
is on the air without being stopped. -/
def Timely (w : World) (hook : Hook) : Prop :=
  ∀ source, hook.releases source = true →
    ¬ w.Starting source ∧ (w.core.published source = true → w.Stopping source)

/-- The steps along which the ledger stays right: an admitted token request is
whole, a start that fails in silence is covered, no start publishes the screen over a
picture that an earlier start left on the air, and a webhook is timely. -/
def Careful (channel : Snowflake) (me : Uuid) (w : World) : Act → Prop
  | .answer now call => ∀ wanted ∈ call.wants, call ∈ w.calls →
      Rooms.admits now w.replica me channel wanted w.server = true → w.Whole call wanted
  | .native outcome => Call.native outcome.source ∈ w.calls → outcome.possible w.core = true →
      (outcome.silent w.core = true → w.Covered outcome.source) ∧ outcome.strays w.core = false
  | .webhook _ hook => hook ∈ w.hooks → w.Timely hook
  | _ => True

instance (w : World) (call : Call) (wanted : List PublicationSource) :
    Decidable (w.Whole call wanted) :=
  decidableForallSource

instance (w : World) (source : PublicationSource) : Decidable (w.Covered source) :=
  inferInstanceAs (Decidable (_ ∨ _))

instance (w : World) (hook : Hook) : Decidable (w.Timely hook) :=
  decidableForallSource

instance (channel : Snowflake) (me : Uuid) (w : World) (act : Act) :
    Decidable (Careful channel me w act) :=
  match act with
  | .answer now call => inferInstanceAs (Decidable (∀ wanted ∈ call.wants, call ∈ w.calls →
      Rooms.admits now w.replica me channel wanted w.server = true → w.Whole call wanted))
  | .native outcome => inferInstanceAs (Decidable (Call.native outcome.source ∈ w.calls →
      outcome.possible w.core = true →
        (outcome.silent w.core = true → w.Covered outcome.source) ∧
          outcome.strays w.core = false))
  | .webhook _ hook => inferInstanceAs (Decidable (hook ∈ w.hooks → w.Timely hook))
  | .startShare | .switchShare | .stopShare | .startCamera | .stopCamera | .disconnected
  | .rejoin | .told _ | .released _ _ | .stopped _ _ | .otherClaims _ _ | .replica _ =>
      .isTrue trivial

/-- No call is in flight, and no webhook is pending. -/
def Idle (w : World) : Prop :=
  w.calls = [] ∧ w.hooks = []

/-- The ledger holds the slots of what the core has published. -/
def Agrees (channel : Snowflake) (me : Uuid) (w : World) : Prop :=
  ∀ source, w.server.grants.Holds channel me source ↔ w.core.published source = true

/-- Every publish request lists the source it starts. -/
def Asked (calls : List Call) : Prop :=
  ∀ source wanted, Call.request source wanted ∈ calls → source ∈ wanted

/-- The slots with what is on its way. -/
structure Accounted (channel : Snowflake) (me : Uuid) (w : World) : Prop where
  onAir : ∀ source, w.core.published source = true →
    w.server.grants.Holds channel me source ∨ w.Stopping source
  starting : ∀ source, w.Starting source → w.server.grants.Holds channel me source
  held : ∀ source, w.server.grants.Holds channel me source →
    w.core.published source = true ∨ w.Starting source ∨ Released w.hooks source
  present : ∃ row, w.server.presence.lookup me = some row
  asked : Asked w.calls
  ok : w.core.Ok

theorem Accounted.agrees {channel : Snowflake} {me : Uuid} {w : World}
    (h : Accounted channel me w) (hidle : Idle w) : Agrees channel me w := by
  obtain ⟨hcalls, hhooks⟩ := hidle
  intro source
  constructor
  · intro hholds
    rcases h.held source hholds with hair | hstarting | ⟨hook, hmem, -⟩
    · exact hair
    · rw [Starting, hcalls] at hstarting
      cases hstarting
    · rw [hhooks] at hmem
      cases hmem
  · intro hair
    rcases h.onAir source hair with hholds | hstop | hstop
    · exact hholds
    · rw [hcalls] at hstop
      cases hstop
    · rw [hcalls] at hstop
      cases hstop

/-! ## One step -/

section Step

variable {channel : Snowflake} {me : Uuid} {w w' : World}

/-- A step that touches neither the core nor the ledger, starts nothing in the core
and ends no stop. -/
theorem Accounted.of_client (h : Accounted channel me w) (hcore : w'.core = w.core)
    (hhooks : w'.hooks = w.hooks) (hserver : w'.server = w.server)
    (hstarting : ∀ source, w'.Starting source ↔ w.Starting source)
    (hstopping : ∀ source, w.Stopping source → w'.Stopping source) (hasked : Asked w'.calls) :
    Accounted channel me w' where
  onAir source hair := by
    rw [hcore] at hair
    rw [hserver]
    exact (h.onAir source hair).imp_right (hstopping source)
  starting source hnative := by
    rw [hserver]
    exact h.starting source ((hstarting source).mp hnative)
  held source hholds := by
    rw [hserver] at hholds
    rw [hcore, hstarting, hhooks]
    exact h.held source hholds
  present := hserver ▸ h.present
  asked := hasked
  ok := hcore ▸ h.ok

theorem Asked.erase {calls : List Call} (h : Asked calls) (call : Call) :
    Asked (calls.erase call) :=
  fun source wanted hmem => h source wanted (List.mem_of_mem_erase hmem)

/-- Calls other than requests ask for nothing. -/
theorem Asked.append {calls more : List Call} (h : Asked calls) (hmore : Asked more) :
    Asked (more ++ calls) :=
  fun source wanted hmem => (List.mem_append.mp hmem).elim (hmore source wanted) (h source wanted)

/-- What starts is part of the intent. -/
theorem mem_publishIntent (session : MediaSession) (source : PublicationSource) :
    source ∈ session.publishIntent (some source) := by
  cases source with
  | screen => simp [MediaSession.publishIntent]
  | camera => simp [MediaSession.publishIntent]

/-- A new call that has not come to the core's start. -/
theorem Accounted.cons (h : Accounted channel me w) {session : MediaSession} {call : Call}
    (hcall : ∀ source, call ≠ .native source) (hasked : Asked [call]) :
    Accounted channel me { w with session := session, calls := call :: w.calls } := by
  refine h.of_client rfl rfl rfl (fun source => ?_) (fun source hstop => ?_)
    (h.asked.append hasked)
  · exact List.mem_cons.trans (or_iff_right fun heq => hcall source heq.symm)
  · exact hstop.imp (List.mem_cons_of_mem call) (List.mem_cons_of_mem call)

/-- A new request with the whole intent of the session. -/
theorem Accounted.request (h : Accounted channel me w) (source : PublicationSource) :
    Accounted channel me { w with
      calls := .request source (w.session.publishIntent (some source)) :: w.calls } := by
  refine h.cons (fun _ => Call.noConfusion) fun s wanted hmem => ?_
  cases List.mem_singleton.mp hmem
  exact mem_publishIntent w.session source

/-- A new call that asks for no slot. -/
theorem Accounted.quiet (h : Accounted channel me w) {session : MediaSession} {call : Call}
    (hcall : ∀ source, call ≠ .native source)
    (hrequest : ∀ source wanted, call ≠ .request source wanted) :
    Accounted channel me { w with session := session, calls := call :: w.calls } := by
  refine h.cons hcall fun source wanted hmem => ?_
  exact absurd (List.mem_singleton.mp hmem).symm (hrequest source wanted)

theorem Accounted.startShare (h : Accounted channel me w) : Accounted channel me w.startShare := by
  unfold World.startShare
  split
  · exact h
  · exact h.request .screen

theorem Accounted.startCamera (h : Accounted channel me w) :
    Accounted channel me w.startCamera := by
  unfold World.startCamera
  split
  · exact h
  · exact h.request .camera

theorem Accounted.stopSharing (h : Accounted channel me w) (restart : Bool) :
    Accounted channel me (w.stopSharing restart) :=
  h.quiet (fun _ => Call.noConfusion) fun _ _ => Call.noConfusion

theorem Accounted.stopCamera (h : Accounted channel me w) : Accounted channel me w.stopCamera := by
  unfold World.stopCamera
  split
  · exact h.quiet (fun _ => Call.noConfusion) fun _ _ => Call.noConfusion
  · exact h

theorem Accounted.rejoin (h : Accounted channel me w) : Accounted channel me w.rejoin := by
  unfold World.rejoin World.connect
  split
  · exact h.quiet (fun _ => Call.noConfusion) fun _ _ => Call.noConfusion
  · exact h

/-- The end of a call that neither starts nor stops in the core. -/
theorem Accounted.erase (h : Accounted channel me w) {session : MediaSession} {call : Call}
    (hnative : ∀ source, .native source ≠ call)
    (hstop : ∀ source restart, .stop source restart ≠ call) :
    Accounted channel me { w with session := session, calls := w.calls.erase call } := by
  refine h.of_client rfl rfl rfl (fun s => ?_) (fun s hstopping => ?_) (h.asked.erase _)
  · exact List.mem_erase_of_ne (hnative s)
  · exact hstopping.imp (List.mem_erase_of_ne (hstop s false)).mpr
      (List.mem_erase_of_ne (hstop s true)).mpr

theorem Accounted.told (h : Accounted channel me w) (source : PublicationSource) :
    Accounted channel me (w.told source) :=
  h.erase (fun _ => Call.noConfusion) fun _ _ => Call.noConfusion

/-- A call with a token request is none that starts or stops in the core. -/
theorem mem_erase_wants {call other : Call} {wanted : List PublicationSource}
    (hwants : call.wants = some wanted) (hother : other.wants = none) :
    other ∈ w.calls.erase call ↔ other ∈ w.calls := by
  refine List.mem_erase_of_ne ?_
  rintro rfl
  rw [hother] at hwants
  cases hwants

/-- A call that starts a source asks for it. -/
theorem mem_of_starts {call : Call} {wanted : List PublicationSource}
    {source : PublicationSource} (hasked : Asked w.calls) (hmem : call ∈ w.calls)
    (hwants : call.wants = some wanted) (hstarts : call.starts = some source) :
    source ∈ wanted := by
  cases call with
  | request s asks =>
      obtain rfl := Option.some.inj hwants
      obtain rfl := Option.some.inj hstarts
      exact hasked s asks hmem
  | connect => cases hstarts
  | native s => cases hstarts
  | told s => cases hstarts
  | stop s restart => cases hstarts
  | stopped s restart => cases hstarts

theorem mem_granted {call : Call} {source : PublicationSource} :
    Call.native source ∈ call.granted ↔ call.starts = some source := by
  simp [Call.granted, Option.mem_toList]

/-! ### The answer of the token route -/

section Answer

variable {now : Timestamp} {call : Call} {wanted : List PublicationSource}
  {source : PublicationSource}

theorem answer_core : (w.answer channel me now call).core = w.core := by
  unfold World.answer
  cases call.wants with
  | none => rfl
  | some wanted => rfl

theorem answer_hooks : (w.answer channel me now call).hooks = w.hooks := by
  unfold World.answer
  cases call.wants with
  | none => rfl
  | some wanted => rfl

theorem answer_calls (hwants : call.wants = some wanted) :
    (w.answer channel me now call).calls =
      (if Rooms.admits now w.replica me channel wanted w.server then call.granted else []) ++
        w.calls.erase call := by
  simp only [World.answer, hwants, Rooms.token_ok_iff]

theorem answer_presence (hwants : call.wants = some wanted) :
    (w.answer channel me now call).server.presence = w.server.presence := by
  simp only [World.answer, hwants, Rooms.token_presence]

/-- An admitted request makes us hold what it lists; a refused one changes nothing. -/
theorem answer_holds (hwants : call.wants = some wanted) :
    (w.answer channel me now call).server.grants.Holds channel me source ↔
      if Rooms.admits now w.replica me channel wanted w.server = true then source ∈ wanted
      else w.server.grants.Holds channel me source := by
  simp only [World.answer, hwants, Rooms.holds_token, and_self, and_true]

/-- A token starts the source of its call. -/
theorem answer_starting (hwants : call.wants = some wanted) :
    (w.answer channel me now call).Starting source ↔
      (Rooms.admits now w.replica me channel wanted w.server = true ∧
        call.starts = some source) ∨ w.Starting source := by
  rw [Starting, answer_calls hwants, List.mem_append, mem_erase_wants hwants rfl, Starting]
  cases Rooms.admits now w.replica me channel wanted w.server with
  | false => simp
  | true => simp [mem_granted]

/-- It stops nothing, and ends no stop. -/
theorem answer_stopping (hwants : call.wants = some wanted) :
    (w.answer channel me now call).Stopping source ↔ w.Stopping source := by
  have hnone : ∀ restart, Call.stop source restart ∉
      (if Rooms.admits now w.replica me channel wanted w.server = true then call.granted
        else []) := by
    intro restart hin
    split at hin
    · simp [Call.granted] at hin
    · cases hin
  rw [Stopping, answer_calls hwants, List.mem_append, List.mem_append,
    mem_erase_wants hwants rfl, mem_erase_wants hwants rfl, or_iff_right (hnone false),
    or_iff_right (hnone true), Stopping]

/-- An answer keeps the account exactly if an admitted request is whole. -/
theorem accounted_answer_iff (h : Accounted channel me w) (hmem : call ∈ w.calls) :
    Accounted channel me (w.answer channel me now call) ↔
      Careful channel me w (.answer now call) := by
  cases hwants : call.wants with
  | none =>
      simp only [World.answer, hwants]
      exact iff_of_true h fun wanted hnone => by simp [hwants] at hnone
  | some wanted =>
      have hcore : (w.answer channel me now call).core = w.core := answer_core
      have hhooks : (w.answer channel me now call).hooks = w.hooks := answer_hooks
      constructor
      · -- what an admitted request lists is what we hold after it
        intro hafter wanted' hwanted' _ hadmits source
        obtain rfl : wanted = wanted' := Option.some.inj (hwants.symm.trans hwanted')
        have hholds : (w.answer channel me now call).server.grants.Holds channel me source ↔
            source ∈ wanted := (answer_holds hwants).trans (by rw [if_pos hadmits])
        refine ⟨fun hair hstop => ?_, fun hnative => ?_, fun hin => ?_⟩
        · rw [← hholds]
          rw [← hcore] at hair
          refine (hafter.onAir source hair).resolve_right fun hstop' => ?_
          exact hstop ((answer_stopping hwants).mp hstop')
        · rw [← hholds]
          exact hafter.starting source ((answer_starting hwants).mpr (.inr hnative))
        · rcases hafter.held source (hholds.mpr hin) with hair | hnative | hreleased
          · exact .inl (hcore ▸ hair)
          · rcases (answer_starting hwants).mp hnative with ⟨-, hstarts⟩ | hold
            · exact .inr (.inr (.inl hstarts))
            · exact .inr (.inl hold)
          · exact .inr (.inr (.inr (hhooks ▸ hreleased)))
      · -- a refused request moves no slot, and an admitted one is whole
        intro hcareful
        refine
          { onAir := fun source hair => ?_
            starting := fun source hnative => ?_
            held := fun source hheld => ?_
            present := ?_
            asked := ?_
            ok := hcore ▸ h.ok }
        · rw [hcore] at hair
          rw [answer_holds hwants, answer_stopping hwants]
          cases hadmits : Rooms.admits now w.replica me channel wanted w.server with
          | false => exact h.onAir source hair
          | true =>
              by_cases hstop : w.Stopping source
              · exact .inr hstop
              · exact .inl ((hcareful wanted hwants hmem hadmits source).1 hair hstop)
        · rw [answer_starting hwants] at hnative
          rw [answer_holds hwants]
          cases hadmits : Rooms.admits now w.replica me channel wanted w.server with
          | false =>
              rw [hadmits] at hnative
              exact h.starting source (hnative.resolve_left fun hnew => nomatch hnew.1)
          | true =>
              rcases hnative with ⟨-, hstarts⟩ | hold
              · exact mem_of_starts h.asked hmem hwants hstarts
              · exact (hcareful wanted hwants hmem hadmits source).2.1 hold
        · rw [answer_holds hwants] at hheld
          rw [hcore, answer_starting hwants, hhooks]
          cases hadmits : Rooms.admits now w.replica me channel wanted w.server with
          | false =>
              rw [hadmits, if_neg Bool.false_ne_true] at hheld
              exact (h.held source hheld).imp_right (Or.imp_left .inr)
          | true =>
              rw [hadmits, if_pos rfl] at hheld
              rcases (hcareful wanted hwants hmem hadmits source).2.2 hheld with
                hair | hold | hstarts | hreleased
              · exact .inl hair
              · exact .inr (.inl (.inr hold))
              · exact .inr (.inl (.inl ⟨rfl, hstarts⟩))
              · exact .inr (.inr hreleased)
        · rw [answer_presence hwants]
          exact h.present
        · rw [answer_calls hwants]
          refine (h.asked.erase call).append fun source _ hnew => ?_
          split at hnew
          · simp [Call.granted] at hnew
          · cases hnew

end Answer

/-! ### The core and the webhooks -/

/-- After a start there is nothing new in flight but the word of its success. -/
theorem eq_told_of_mem {succeeded : Bool} {call : Call} {source : PublicationSource}
    (hmem : call ∈ (if succeeded = true then [Call.told source] else [])) :
    call = .told source := by
  cases succeeded with
  | true => exact List.mem_singleton.mp hmem
  | false => cases hmem

theorem native_starting (outcome : Outcome) {source : PublicationSource} :
    (w.native outcome).Starting source ↔
      Call.native source ∈ w.calls.erase (.native outcome.source) :=
  List.mem_append.trans (or_iff_right fun hin => nomatch eq_told_of_mem hin)

theorem native_stopping (outcome : Outcome) {source : PublicationSource}
    (hstop : w.Stopping source) : (w.native outcome).Stopping source := by
  refine hstop.imp (fun hin => ?_) (fun hin => ?_)
  · exact List.mem_append_right _ ((List.mem_erase_of_ne Call.noConfusion).mpr hin)
  · exact List.mem_append_right _ ((List.mem_erase_of_ne Call.noConfusion).mpr hin)

/-- What was on the air or about to be given back still is, after a start. -/
theorem native_kept (outcome : Outcome) {source : PublicationSource}
    (hbefore : w.core.published source = true ∨ Released w.hooks source) :
    (w.native outcome).core.published source = true ∨
      Released (w.native outcome).hooks source := by
  rcases hbefore with hair | hreleased
  · refine ((reported_startNative outcome).off source hair).imp_right fun hnew => ?_
    exact released_append.mpr (.inr hnew)
  · exact .inr (released_append.mpr (.inl hreleased))

/-- A start in the core keeps the account exactly if it does not fail in silence with
nothing else to account for the slot. -/
theorem accounted_native_iff (h : Accounted channel me w) {outcome : Outcome}
    (hmem : Call.native outcome.source ∈ w.calls) (hpossible : outcome.possible w.core = true) :
    Accounted channel me (w.native outcome) ↔ Careful channel me w (.native outcome) := by
  constructor
  · -- a start that fails in silence takes nothing with it but its call
    intro hafter _ _
    refine ⟨fun hsilent => ?_, (stray_startNative outcome h.ok.stray).symm.trans hafter.ok.stray⟩
    obtain ⟨-, hhooks, hpublished⟩ := startNative_silent outcome hsilent
    have hcore : (w.native outcome).core.published = w.core.published := hpublished
    have hsame : (w.native outcome).hooks = w.hooks := by
      show w.hooks ++ (startNative outcome w.core).1.2 = w.hooks
      rw [hhooks, List.append_nil]
    have hheld := hafter.held outcome.source (h.starting outcome.source hmem)
    rw [hcore, native_starting, hsame] at hheld
    exact hheld
  · intro hcareful
    obtain ⟨hcovered, hstrays⟩ := hcareful hmem hpossible
    refine
      { onAir := fun source hair => ?_
        starting := fun source hnative => ?_
        held := fun source hheld => ?_
        present := h.present
        asked := ?_
        ok := ok_startNative outcome h.ok hstrays }
    · rcases (reported_startNative outcome).on source hair with hbefore | rfl
      · exact (h.onAir source hbefore).imp_right (native_stopping outcome)
      · exact .inl (h.starting _ hmem)
    · exact h.starting source (List.mem_of_mem_erase ((native_starting outcome).mp hnative))
    · rw [native_starting]
      -- only the source of the start loses a call that accounted for its slot
      by_cases hsource : source = outcome.source
      · subst hsource
        cases hsucceeded : (startNative outcome w.core).2 with
        | true => exact .inl (published_of_started outcome hsucceeded)
        | false =>
            cases hsilent : outcome.silent w.core with
            | true =>
                rcases hcovered hsilent with hair | hother | hreleased
                · exact (native_kept outcome (.inl hair)).imp_right .inr
                · exact .inr (.inl hother)
                · exact (native_kept outcome (.inr hreleased)).imp_right .inr
            | false =>
                rcases accounted_of_failed outcome h.ok hsucceeded hsilent with hair | hreleased
                · exact .inl hair
                · exact .inr (.inr (released_append.mpr (.inr hreleased)))
      · rcases h.held source hheld with hair | hnative | hreleased
        · exact (native_kept outcome (.inl hair)).imp_right .inr
        · refine .inr (.inl ((List.mem_erase_of_ne ?_).mpr hnative))
          exact fun heq => hsource (Call.native.inj heq)
        · exact (native_kept outcome (.inr hreleased)).imp_right .inr
    · exact (h.asked.erase _).append fun source _ hnew => nomatch eq_told_of_mem hnew

theorem Accounted.released (h : Accounted channel me w) (source : PublicationSource)
    (restart : Bool) : Accounted channel me (w.released source restart) := by
  have hreported : Reported source w.core (Live.release source w.core).1
      (Live.release source w.core).2 := reported_release
  have hreleased : Accounted channel me
      { w with
        core := (Live.release source w.core).1
        hooks := w.hooks ++ (Live.release source w.core).2
        calls := w.calls.erase (.stop source restart) } := by
    refine
      { onAir := fun s hair => ?_
        starting := fun s hnative => h.starting s (List.mem_of_mem_erase hnative)
        held := fun s hheld => ?_
        present := h.present
        asked := h.asked.erase _
        ok := ok_release h.ok }
    · -- the stopped source is off the air, so its stop is needed no more
      have hne : s ≠ source := by
        rintro rfl
        rw [published_release h.ok.stray] at hair
        cases hair
      have hbefore : w.core.published s = true := (hreported.on s hair).resolve_right hne
      refine (h.onAir s hbefore).imp_right (Or.imp ?_ ?_)
      · exact (List.mem_erase_of_ne fun heq => hne (Call.stop.inj heq).1).mpr
      · exact (List.mem_erase_of_ne fun heq => hne (Call.stop.inj heq).1).mpr
    · rcases h.held s hheld with hair | hnative | hold
      · refine (hreported.off s hair).imp_right fun hnew => ?_
        exact .inr (released_append.mpr (.inr hnew))
      · exact .inr (.inl ((List.mem_erase_of_ne Call.noConfusion).mpr hnative))
      · exact .inr (.inr (released_append.mpr (.inl hold)))
  exact hreleased.quiet (fun _ => Call.noConfusion) fun _ _ => Call.noConfusion

theorem Accounted.stopped (h : Accounted channel me w) (source : PublicationSource)
    (restart : Bool) : Accounted channel me (w.stopped source restart) := by
  have herased : Accounted channel me
      { w with calls := w.calls.erase (.stopped source restart) } :=
    h.erase (fun _ => Call.noConfusion) fun _ _ => Call.noConfusion
  unfold World.stopped
  dsimp only
  split
  · cases source with
    | screen => exact herased.startShare
    | camera => exact herased.startCamera
  · exact herased

/-- What a webhook about our publishing connection does to our slots. -/
theorem holds_hook {st : ServerState} {row : PresenceRow} {source : PublicationSource}
    (now : Timestamp) (hook : Hook) (hrow : st.presence.lookup me = some row) :
    (Rooms.webhook now st (hook.change.emitted channel me)).grants.Holds channel me source ↔
      st.grants.Holds channel me source ∧ hook.releases source = false := by
  rw [Rooms.webhook_eq, Rooms.Change.action_emitted]
  cases hook with
  | published s =>
      refine ((Rooms.onShareStart_effect (c := channel) hrow).holds channel me source).trans ?_
      simp [Hook.releases]
  | unpublished s =>
      refine ((Rooms.onShareStop_effect (c := channel) hrow).holds channel me source).trans ?_
      simp [Hook.releases, eq_comm]
  | gone =>
      refine ((Rooms.onPublisherGone_effect (c := channel) hrow).holds channel me source).trans ?_
      simp [Hook.releases]

/-- It leaves us in the room. -/
theorem present_hook {st : ServerState} {row : PresenceRow} (now : Timestamp) (hook : Hook)
    (hrow : st.presence.lookup me = some row) :
    ∃ row', (Rooms.webhook now st (hook.change.emitted channel me)).presence.lookup me =
      some row' := by
  rw [Rooms.webhook_eq, Rooms.Change.action_emitted]
  cases hook with
  | published s =>
      exact ⟨_, ((Rooms.onShareStart_effect (c := channel) hrow).presence me).trans (if_pos rfl)⟩
  | unpublished s =>
      exact ⟨_, ((Rooms.onShareStop_effect (c := channel) hrow).presence me).trans (if_pos rfl)⟩
  | gone =>
      exact ⟨_, ((Rooms.onPublisherGone_effect (c := channel) hrow).presence me).trans (if_pos rfl)⟩

/-- A webhook keeps the account exactly if it is timely. -/
theorem accounted_webhook_iff (h : Accounted channel me w) (now : Timestamp) {hook : Hook}
    (hmem : hook ∈ w.hooks) :
    Accounted channel me (w.webhook channel me now hook) ↔
      Careful channel me w (.webhook now hook) := by
  obtain ⟨row, hrow⟩ := h.present
  have hholds : ∀ source, (w.webhook channel me now hook).server.grants.Holds channel me source ↔
      w.server.grants.Holds channel me source ∧ hook.releases source = false :=
    fun source => holds_hook now hook hrow
  constructor
  · -- the slot is gone after the webhook, so nothing may rely on it
    intro hafter _ source hreleases
    have hgone : ¬ (w.webhook channel me now hook).server.grants.Holds channel me source := by
      rw [hholds, hreleases]
      exact fun hheld => nomatch hheld.2
    refine ⟨fun hnative => hgone (hafter.starting source hnative), fun hair => ?_⟩
    exact (hafter.onAir source hair).resolve_left hgone
  · intro hcareful
    have htimely : w.Timely hook := hcareful hmem
    refine
      { onAir := fun source hair => ?_
        starting := fun source hnative => ?_
        held := fun source hheld => ?_
        present := present_hook now hook hrow
        asked := h.asked
        ok := h.ok }
    · cases hreleases : hook.releases source with
      | true => exact .inr ((htimely source hreleases).2 hair)
      | false =>
          exact (h.onAir source hair).imp_left fun hold => (hholds source).mpr ⟨hold, hreleases⟩
    · refine (hholds source).mpr ⟨h.starting source hnative, ?_⟩
      refine Bool.eq_false_of_not_eq_true fun hreleases => ?_
      exact (htimely source hreleases).1 hnative
    · obtain ⟨hold, hreleases⟩ := (hholds source).mp hheld
      refine (h.held source hold).imp_right (Or.imp_right ?_)
      -- the handled webhook is not the one that gives this slot back
      rintro ⟨other, hother, hgives⟩
      refine ⟨other, (List.mem_erase_of_ne ?_).mpr hother, hgives⟩
      rintro rfl
      rw [hreleases] at hgives
      cases hgives

theorem Accounted.otherClaims (h : Accounted channel me w) {other : Uuid} (hother : other ≠ me)
    (wanted : List PublicationSource) :
    Accounted channel me (w.otherClaims channel other wanted) := by
  have hholds : ∀ source,
      (w.otherClaims channel other wanted).server.grants.Holds channel me source ↔
        w.server.grants.Holds channel me source := by
    intro source
    refine (Grants.holds_claimPublications w.server.config wanted).trans ?_
    rw [if_neg]
    exact fun hmine => hother hmine.2.2.symm
  refine ⟨fun source hair => ?_, fun source hnative => ?_, fun source hheld => ?_, h.present,
    h.asked, h.ok⟩
  · rw [hholds]
    exact h.onAir source hair
  · rw [hholds]
    exact h.starting source hnative
  · exact h.held source ((hholds source).mp hheld)

/-- A step keeps the account exactly if it is careful. -/
theorem accounted_step_iff (act : Act) (h : Accounted channel me w) :
    Accounted channel me (step channel me w act) ↔ Careful channel me w act := by
  cases act with
  | startShare => exact iff_of_true h.startShare trivial
  | switchShare =>
      refine iff_of_true ?_ trivial
      unfold step World.switchShare
      dsimp only
      split
      · exact h.stopSharing true
      · exact h.startShare
  | stopShare =>
      refine iff_of_true ?_ trivial
      unfold step World.stopShare
      dsimp only
      split
      · exact h.stopSharing false
      · exact h
  | startCamera => exact iff_of_true h.startCamera trivial
  | stopCamera => exact iff_of_true h.stopCamera trivial
  | disconnected =>
      exact iff_of_true
        (h.of_client rfl rfl rfl (fun _ => Iff.rfl) (fun _ => id) h.asked) trivial
  | rejoin => exact iff_of_true h.rejoin trivial
  | answer now call =>
      unfold step
      dsimp only
      split
      · next hmem => exact accounted_answer_iff h hmem
      · next habsent => exact iff_of_true h fun _ _ hmem => absurd hmem habsent
  -- an answer of the core that is not possible here is no step
  | native outcome =>
      unfold step
      dsimp only
      split
      · next henabled => exact accounted_native_iff h henabled.1 henabled.2
      · next hdisabled =>
          exact iff_of_true h fun hmem hpossible => absurd ⟨hmem, hpossible⟩ hdisabled
  | told source =>
      refine iff_of_true ?_ trivial
      unfold step
      dsimp only
      split
      · exact h.told source
      · exact h
  | released source restart =>
      refine iff_of_true ?_ trivial
      unfold step
      dsimp only
      split
      · exact h.released source restart
      · exact h
  | stopped source restart =>
      refine iff_of_true ?_ trivial
      unfold step
      dsimp only
      split
      · exact h.stopped source restart
      · exact h
  | webhook now hook =>
      unfold step
      dsimp only
      split
      · next hmem => exact accounted_webhook_iff h now hmem
      · next habsent => exact iff_of_true h fun hmem => absurd hmem habsent
  -- what somebody else claims leaves our rows alone
  | otherClaims other wanted =>
      refine iff_of_true ?_ trivial
      unfold step
      dsimp only
      split
      · exact h
      · next hother => exact h.otherClaims hother wanted
  | replica replica =>
      exact iff_of_true
        (h.of_client rfl rfl rfl (fun _ => Iff.rfl) (fun _ => id) h.asked) trivial

end Step

/-! ## Runs -/

/-- Right after `follow`, in the room and without a slot. -/
theorem accounted_followed {channel : Snowflake} {me : Uuid} {server : ServerState}
    {replica : Replica} {row : PresenceRow} (hrow : server.presence.lookup me = some row)
    (hfree : ∀ source, ¬ server.grants.Holds channel me source) :
    Accounted channel me (followed server replica) where
  onAir _ hair := Bool.noConfusion hair
  starting _ hnative := nomatch List.mem_singleton.mp hnative
  held source hheld := absurd hheld (hfree source)
  present := ⟨row, hrow⟩
  asked _ _ hmem := nomatch List.mem_singleton.mp hmem
  ok := by
    refine ⟨fun source hactive => ?_, rfl⟩
    cases source with
    | screen => cases hactive
    | camera => cases hactive

/-- The account is kept throughout a run exactly if every step of it is careful. -/
theorem accounted_throughout_iff {channel : Snowflake} {me : Uuid} {w : World} (acts : List Act)
    (h : Accounted channel me w) :
    Runs.Throughout (step channel me) (Accounted channel me) w acts ↔
      Runs.EachStep (step channel me) (Careful channel me) w acts :=
  Runs.throughout_iff_eachStep (I := fun _ => True) (fun _ _ _ => trivial)
    (fun _ act _ h => accounted_step_iff act h) trivial h

/-- In every run whose steps are careful, whenever the client is idle the ledger holds
exactly the slots of what the core has published. -/
theorem agrees_when_idle (channel : Snowflake) (me : Uuid) (server : ServerState)
    (replica : Replica) (row : PresenceRow) (acts : List Act)
    (hrow : server.presence.lookup me = some row)
    (hfree : ∀ source, ¬ server.grants.Holds channel me source)
    (hcareful : Runs.EachStep (step channel me) (Careful channel me) (followed server replica)
      acts) :
    Runs.Throughout (step channel me) (fun w => Idle w → Agrees channel me w)
      (followed server replica) acts :=
  ((accounted_throughout_iff acts (accounted_followed hrow hfree)).mpr hcareful).mono
    fun _ h => h.agrees

/-- A guild whose only member may go live in its only voice channel. -/
private def liveGuild : Replica :=
  Replica.setConnected 0 true (Replica.replaceGuild
    { id := 100
      ownerId := 1
      roles := [⟨100, Domain.DiscordPermissions.viewChannel |||
        Domain.DiscordPermissions.connect ||| Domain.DiscordPermissions.stream⟩]
      members := (∅ : Table UInt64 (List UInt64)).insert 30 []
      channels := (∅ : Table UInt64 Discord.ChannelData).insert 5 ⟨5, "sala", []⟩
      voice := ∅ } (Replica.new 60))

/-- They are in the room of that channel. -/
private def seated : ServerState :=
  { ServerState.started ⟨2, 4⟩ ((∅ : Users).insert 3 ⟨30, "ana", none, none⟩) with
    presence := Presence.join 0 3 5 ∅ }

/-- A screen and a camera go on the air, and the screen is stopped. -/
private def cameraOverScreen : List Act :=
  [.answer 1 .connect, .startShare, .answer 2 (.request .screen [.screen]),
    .native (.share .started), .told .screen, .startCamera,
    .answer 3 (.request .camera [.screen, .camera]), .native (.camera .started), .told .camera,
    .webhook 4 (.published .screen), .webhook 5 (.published .camera), .stopShare,
    .released .screen false, .stopped .screen false, .webhook 6 (.unpublished .screen)]

/-- At the end the slot of the camera is held, and that of the screen is free. -/
theorem agrees_camera_over_screen :
    Runs.Throughout (step 5 3) (fun w => Idle w → Agrees 5 3 w) (followed seated liveGuild)
      cameraOverScreen :=
  agrees_when_idle 5 3 seated liveGuild ⟨5, false, 0, none, none⟩ cameraOverScreen (by decide)
    (by decide) (by decide)

/-- The viewing connection drops while the screen is on the air, and comes back. -/
private def rejoinsWhileSharing : List Act :=
  [.answer 1 .connect, .startShare, .answer 2 (.request .screen [.screen]),
    .native (.share .started), .told .screen, .webhook 3 (.published .screen), .disconnected,
    .rejoin, .answer 4 .connect]

/-- The viewer token of the second connection gives the slot of the screen back. -/
theorem rejoin_gives_slot_back :
    ¬ ∀ (channel : Snowflake) (me : Uuid) (server : ServerState) (replica : Replica)
      (row : PresenceRow) (acts : List Act), server.presence.lookup me = some row →
      (∀ source, ¬ server.grants.Holds channel me source) →
      Runs.Throughout (step channel me) (fun w => Idle w → Agrees channel me w)
        (followed server replica) acts := by
  intro h
  have hagrees := Runs.throughout_iff_initial.mp
    (h 5 3 seated liveGuild ⟨5, false, 0, none, none⟩ rejoinsWhileSharing (by decide) (by decide))
    rejoinsWhileSharing (List.prefix_refl _)
  have hheld := (hagrees ⟨by decide, by decide⟩ .screen).mpr (by decide)
  exact absurd hheld (by decide)

end World

end Desktop
end Ldktela
