import Ldktela.Desktop.Agreement
import Ldktela.Lib.Keyed

/-!
# The room we publish into

`follow` and `leave` of `desktop/src/media/session.ts` beside the starts and stops of our
own publications, as the pieces that run between two awaits.  A start reads `channelId`
once, before it asks for its token, and leaving stops only what the session has recorded.

`inTheRoom_of_careful`: along every run in which no start goes on and no camera stays on
past a change of the channel, whatever is on the air once nothing is pending was started
for the channel we are in.  What any other step leaves behind stays on the air until somebody
asks for something (`not_inTheRoom_of_careless`).
-/

namespace Ldktela
namespace Desktop
namespace OwnRoom

open Protocol
open Runs
open Desktop.Core (Sharing Command)

/-! ## The session, its calls and the core -/

/-- What a call of `leave` returns to. -/
inductive Next where
  | signOut
  | follow (channelId : Option Snowflake)
deriving DecidableEq

/-- What goes on once the core has stopped a source. -/
inductive After where
  /-- `stopShare`, `stopCamera`. -/
  | done
  /-- `switchShare`, `switchCamera`, `changePreset`: the source is started again. -/
  | restart
  /-- `leave`; `room` says whether it took a room. -/
  | leave (next : Next) (room : Bool)
deriving DecidableEq

/-- A call, by what it awaits. -/
inductive Call where
  /-- A start: its token. -/
  | token (source : PublicationSource) (channelId : Snowflake)
  /-- A start: the core, which has not run it. -/
  | native (source : PublicationSource) (channelId : Snowflake)
  /-- A start: the answer of the core. -/
  | answered (source : PublicationSource) (succeeded : Bool)
  /-- A stop: the core, which has not run it. -/
  | stop (source : PublicationSource) (after : After)
  /-- A stop: the answer of the core. -/
  | stopped (source : PublicationSource) (after : After)
  /-- `leave`: `room.disconnect`. -/
  | disconnecting (next : Next)
  /-- `follow`: `leave` itself. -/
  | left (channelId : Option Snowflake)
  /-- `connect`: `previous.disconnect`. -/
  | replacing
  /-- `connect`: `roomToken`. -/
  | joining
  /-- `connect`: `room.connect`. -/
  | connecting
deriving DecidableEq

/-- The `leave` is that of a `follow` to the channel. -/
def After.returnsTo (channelId : Snowflake) : After → Bool
  | done => false
  | restart => false
  | leave next _ => decide (next = .follow channelId)

namespace Call

/-- The core is going to stop the source. -/
def stops (source : PublicationSource) : Call → Bool
  | stop s _ => decide (s = source)
  | _ => false

/-- The call is in its `leave`, and makes the channel ours when it is done. -/
def returnsTo (channelId : Snowflake) : Call → Bool
  | stop _ after => after.returnsTo channelId
  | stopped _ after => after.returnsTo channelId
  | disconnecting next => decide (next = .follow channelId)
  | left target => decide (target = channelId)
  | _ => false

end Call

structure World where
  session : MediaSession
  channelId : Option Snowflake
  /-- A `Room` is held. -/
  room : Bool
  calls : List Call
  core : Sharing
  /-- The channel of the token each start came with, by its number. -/
  tokens : Table Nat Snowflake

inductive Act where
  /-- `startShare`, `startCamera`. -/
  | start (source : PublicationSource)
  /-- `stopShare`, `stopCamera`. -/
  | stop (source : PublicationSource)
  /-- `switchShare`, `switchCamera`. -/
  | switch (source : PublicationSource)
  | changePreset
  | follow (channelId : Option Snowflake)
  /-- `leave`, which `signOut` calls. -/
  | signOut
  /-- The server answers the token request of a start. -/
  | granted (source : PublicationSource) (channelId : Snowflake) (token : Bool)
  /-- The core runs a start that came with a token for the channel. -/
  | native (command : Command) (channelId : Snowflake)
  | answered (source : PublicationSource) (succeeded : Bool)
  /-- The core runs a stop. -/
  | nativeStop (source : PublicationSource) (after : After)
  | stopped (source : PublicationSource) (after : After)
  | disconnected (next : Next)
  | left (channelId : Option Snowflake)
  | replaced
  | joined (token : Bool)
  | connected (succeeded : Bool)

/-- The core runs a command. -/
def Act.commands : Act → Bool
  | native _ _ => true
  | nativeStop _ _ => true
  | _ => false

/-- The step only goes on with what is under way. -/
def Act.completes : Act → Bool
  | start _ => false
  | stop _ => false
  | switch _ => false
  | changePreset => false
  | follow _ => false
  | signOut => false
  | _ => true

namespace World

def new : World := ⟨.new, none, false, [], .idle, ∅⟩

/-- The call awaits something. -/
def await (call : Call) (w : World) : World :=
  { w with calls := call :: w.calls }

/-- The call goes on. -/
def resumed (call : Call) (w : World) : World :=
  { w with calls := w.calls.erase call }

def start (source : PublicationSource) (w : World) : World :=
  match w.channelId with
  | none => w
  | some channelId => if w.session.busy source then w else w.await (.token source channelId)

/-- A stop of a source that is on. -/
def halt (source : PublicationSource) (after : After) (w : World) : World :=
  { w with session := w.session.cleared source }.await (.stop source after)

/-- The end of `leave`: the store is reset, and `follow` gets its turn. -/
def leaveEnd (next : Next) (w : World) : World :=
  let w := { w with
    session := { w.session with publishing := false, cameraPublishing := false } }
  match next with
  | .signOut => w
  | .follow channelId => w.await (.left channelId)

/-- `leave`, from the room it took. -/
def leaveRoom (next : Next) (room : Bool) (w : World) : World :=
  if room then w.await (.disconnecting next) else w.leaveEnd next

/-- `leave`, up to what it awaits first. -/
def leave (next : Next) (w : World) : World :=
  let left := { w with
    session := { w.session with sharing := false, rejoinTimer := false }
    channelId := none
    room := false }
  if w.session.sharing then
    left.await (.stop .screen (.leave next w.room))
  else
    left.leaveRoom next w.room

/-- `connect`, up to what it awaits first. -/
def connect (w : World) : World :=
  { w with room := false }.await (if w.room then .replacing else .joining)

/-- `follow`, after its `leave`. -/
def enter (channelId : Option Snowflake) (w : World) : World :=
  let w := { w with channelId := channelId }
  if channelId.isSome then w.connect else w

/-- What a stop goes on with. -/
def goOn (source : PublicationSource) (after : After) (w : World) : World :=
  match after with
  | .done => w
  | .restart => w.start source
  | .leave next room => w.leaveRoom next room

/-- The core has run a start that came with a token for the channel. -/
def ran (command : Command) (channelId : Snowflake) (w : World) : World :=
  { w.resumed (.native command.source channelId) with
    core := w.core.step command
    tokens := w.tokens.insert w.core.starts channelId }.await
      (.answered command.source (w.core.run command).2.isNone)

/-- The core has stopped the source. -/
def halted (source : PublicationSource) (after : After) (w : World) : World :=
  { w.resumed (.stop source after) with core := w.core.step (Command.stop source) }.await
    (.stopped source after)

/-- A call that is not in flight does not go on. -/
def step (w : World) : Act → World
  | .start source => w.start source
  | .stop source => if w.session.busy source then w.halt source .done else w
  | .switch source => if w.session.busy source then w.halt source .restart else w.start source
  | .changePreset => if w.session.busy .screen then w.halt .screen .restart else w
  | .follow channelId => if channelId = w.channelId then w else w.leave (.follow channelId)
  | .signOut => w.leave .signOut
  | .granted source channelId token =>
      if .token source channelId ∈ w.calls then
        let w := w.resumed (.token source channelId)
        if token then w.await (.native source channelId) else w
      else
        w
  | .native command channelId =>
      if command.starts ∧ .native command.source channelId ∈ w.calls then
        w.ran command channelId
      else
        w
  | .answered source succeeded =>
      if .answered source succeeded ∈ w.calls then
        { w.resumed (.answered source succeeded) with
          session := if succeeded then w.session.started source else w.session }
      else
        w
  | .nativeStop source after =>
      if .stop source after ∈ w.calls then w.halted source after else w
  | .stopped source after =>
      if .stopped source after ∈ w.calls then
        (w.resumed (.stopped source after)).goOn source after
      else
        w
  | .disconnected next =>
      if .disconnecting next ∈ w.calls then
        (w.resumed (.disconnecting next)).leaveEnd next
      else
        w
  | .left channelId =>
      if .left channelId ∈ w.calls then (w.resumed (.left channelId)).enter channelId else w
  | .replaced => if .replacing ∈ w.calls then (w.resumed .replacing).await .joining else w
  | .joined token =>
      if .joining ∈ w.calls then
        let w := w.resumed .joining
        if token then { w with room := true }.await .connecting else w
      else
        w
  | .connected succeeded =>
      if .connecting ∈ w.calls then
        let w := w.resumed .connecting
        if succeeded then w else { w with room := false }
      else
        w

/-! ## What is on the air, and what is going to happen to it -/

/-- The channel of the token that what is live of the source was started with. -/
def onAir (w : World) (source : PublicationSource) : Option Snowflake :=
  (w.core.live.capture source).bind w.tokens.lookup

/-- Once nothing is pending, what is live was started for the channel we are in. -/
def InTheRoom (w : World) : Prop :=
  w.calls = [] → ∀ source, (w.core.live.capture source).isSome = true →
    ∃ channelId, w.onAir source = some channelId ∧ w.channelId = some channelId

/-- The core is going to stop the source, or a call is coming back to the channel. -/
def Passing (calls : List Call) (source : PublicationSource) (channelId : Snowflake) : Prop :=
  ∃ call ∈ calls, call.stops source = true ∨ call.returnsTo channelId = true

/-- What is on the air for the channel may be. -/
def Settled (w : World) (source : PublicationSource) (channelId : Snowflake) : Prop :=
  w.channelId = some channelId ∨ Passing w.calls source channelId

instance (calls : List Call) (source : PublicationSource) (channelId : Snowflake) :
    Decidable (Passing calls source channelId) :=
  inferInstanceAs (Decidable (∃ call ∈ calls, _))

instance (w : World) (source : PublicationSource) (channelId : Snowflake) :
    Decidable (w.Settled source channelId) :=
  inferInstanceAs (Decidable (_ ∨ _))

/-- `leave` stops the screen it knows of; all else is stopped already, or for a channel
that a call is coming back to. -/
def Leaves (w : World) (next : Next) : Prop :=
  ∀ source, ∀ channelId ∈ w.onAir source,
    source = .screen ∧ w.session.sharing = true ∨ next = .follow channelId ∨
      Passing w.calls source channelId

/-- No start goes through for a channel that was left meanwhile, and nothing that stays on
the air is left behind when the channel changes. -/
def Careful (w : World) : Act → Prop
  | .follow target => target ≠ w.channelId → w.Leaves (.follow target)
  | .signOut => w.Leaves .signOut
  | .left target => .left target ∈ w.calls → ∀ source, ∀ channelId ∈ w.onAir source,
      target = some channelId ∨ Passing (w.calls.erase (.left target)) source channelId
  | .native command channelId => .native command.source channelId ∈ w.calls →
      w.core.Starts command → w.Settled command.source channelId
  | _ => True

/-- One channel is looked at, and not every number there is. -/
instance (channelId? : Option Snowflake) (p : Snowflake → Prop) [DecidablePred p] :
    Decidable (∀ channelId ∈ channelId?, p channelId) :=
  Option.decidableForallMem channelId?

instance (w : World) (next : Next) : Decidable (w.Leaves next) :=
  inferInstanceAs (Decidable (∀ source, ∀ channelId ∈ w.onAir source, _ ∨ _ ∨ _))

instance (w : World) (act : Act) : Decidable (w.Careful act) :=
  match act with
  | .follow _ => inferInstanceAs (Decidable (_ → _))
  | .signOut => inferInstanceAs (Decidable (w.Leaves .signOut))
  | .left _ => inferInstanceAs (Decidable (_ → ∀ source, ∀ channelId ∈ w.onAir source, _ ∨ _))
  | .native _ _ => inferInstanceAs (Decidable (_ → _ → _))
  | .start _ | .stop _ | .switch _ | .changePreset | .granted _ _ _ | .answered _ _
  | .nativeStop _ _ | .stopped _ _ | .disconnected _ | .replaced | .joined _ | .connected _ =>
      .isTrue trivial

/-- Whatever is on the air is for the channel we are in, or will not be there for long. -/
def AllSettled (w : World) : Prop :=
  ∀ source, ∀ channelId ∈ w.onAir source, w.Settled source channelId

/-- The source is on the air for a channel we are not in, and nothing is on its way that
changes it. -/
def Stray (w : World) (source : PublicationSource) : Prop :=
  ∃ channelId ∈ w.onAir source, ¬ w.Settled source channelId

/-- What is live came with a token. -/
structure Known (w : World) : Prop where
  connected : w.core.live.Connected
  token : ∀ source start, w.core.live.capture source = some start →
    start < w.core.starts ∧ ∃ channelId, w.tokens.lookup start = some channelId

theorem known_new : Known new where
  connected source hlive := by
    cases source with
    | screen => exact absurd rfl hlive
    | camera => exact absurd rfl hlive
  token source start hcapture := by
    cases source with
    | screen => cases hcapture
    | camera => cases hcapture

theorem allSettled_new : AllSettled new := by
  intro source channelId hair
  cases source with
  | screen => cases hair
  | camera => cases hair

section Pieces

variable {w w' : World} {calls : List Call} {call : Call} {next : Next} {after : After}
  {source s : PublicationSource} {channelId : Snowflake} {target : Option Snowflake}

theorem Known.inTheRoom (h : Known w) (hsettled : w.AllSettled) : w.InTheRoom := by
  intro hquiet source hlive
  obtain ⟨start, hcapture⟩ := Option.isSome_iff_exists.mp hlive
  obtain ⟨-, channelId, htoken⟩ := h.token source start hcapture
  have hair : w.onAir source = some channelId :=
    Option.bind_eq_some_iff.mpr ⟨start, hcapture, htoken⟩
  rcases hsettled source channelId hair with hhere | ⟨call, hmem, -⟩
  · exact ⟨channelId, hair, hhere⟩
  · rw [hquiet] at hmem
    cases hmem

theorem Stray.not_inTheRoom (h : w.Stray source) (hquiet : w.calls = []) : ¬ w.InTheRoom := by
  intro hroom
  obtain ⟨channelId, hair, hsettled⟩ := h
  obtain ⟨start, hcapture, -⟩ := Option.bind_eq_some_iff.mp hair
  have hlive : (w.core.live.capture source).isSome = true := by
    rw [hcapture]
    rfl
  obtain ⟨other, hother, hhere⟩ := hroom hquiet source hlive
  cases Option.some.inj (hair.symm.trans hother)
  exact hsettled (.inl hhere)

theorem onAir_congr (hcore : w'.core = w.core) (htokens : w'.tokens = w.tokens)
    (source : PublicationSource) : w'.onAir source = w.onAir source := by
  unfold onAir
  rw [hcore, htokens]

theorem Known.congr (h : Known w) (hcore : w'.core = w.core) (htokens : w'.tokens = w.tokens) :
    Known w' where
  connected := by
    rw [hcore]
    exact h.connected
  token := by
    rw [hcore, htokens]
    exact h.token

/-! ## What a piece changes of it -/

theorem passing_cons :
    Passing (call :: calls) source channelId ↔
      Passing calls source channelId ∨ call.stops source = true ∨
        call.returnsTo channelId = true :=
  (List.exists_mem_cons_iff _ call calls).trans or_comm

theorem Passing.of_erase (h : Passing (calls.erase call) source channelId) :
    Passing calls source channelId := by
  obtain ⟨other, hmem, hpasses⟩ := h
  exact ⟨other, List.mem_of_mem_erase hmem, hpasses⟩

/-- The call that goes on may be the one that mattered. -/
theorem Passing.erase (h : Passing calls source channelId) (call : Call) :
    Passing (calls.erase call) source channelId ∨ call.stops source = true ∨
      call.returnsTo channelId = true := by
  obtain ⟨other, hmem, hpasses⟩ := h
  by_cases heq : other = call
  · subst heq
    exact .inr hpasses
  · exact .inl ⟨other, (List.mem_erase_of_ne heq).mpr hmem, hpasses⟩

theorem settled_await :
    (w.await call).Settled source channelId ↔
      w.Settled source channelId ∨ call.stops source = true ∨
        call.returnsTo channelId = true := by
  unfold Settled
  rw [or_assoc]
  exact or_congr_right passing_cons

theorem Settled.of_resumed (h : (w.resumed call).Settled source channelId) :
    w.Settled source channelId :=
  h.imp_right Passing.of_erase

theorem Settled.resumed (h : w.Settled source channelId) (call : Call) :
    (w.resumed call).Settled source channelId ∨ call.stops source = true ∨
      call.returnsTo channelId = true := by
  rcases h with hhere | hpassing
  · exact .inl (.inl hhere)
  · exact (hpassing.erase call).imp_left .inr

theorem settled_start (source : PublicationSource) :
    (w.start source).Settled s channelId ↔ w.Settled s channelId := by
  unfold World.start
  split
  · exact Iff.rfl
  · split
    · exact Iff.rfl
    · rw [settled_await]
      simp [Call.stops, Call.returnsTo]

theorem settled_leaveEnd :
    (w.leaveEnd next).Settled source channelId ↔
      w.Settled source channelId ∨ next = .follow channelId := by
  cases next with
  | signOut =>
      refine (or_iff_left ?_).symm
      rintro ⟨⟩
  | follow target =>
      refine settled_await.trans (or_congr Iff.rfl ?_)
      simp [Call.stops, Call.returnsTo]

theorem settled_leaveRoom (room : Bool) :
    (w.leaveRoom next room).Settled source channelId ↔
      w.Settled source channelId ∨ next = .follow channelId := by
  unfold leaveRoom
  split
  · rw [settled_await]
    simp [Call.stops, Call.returnsTo]
  · exact settled_leaveEnd

theorem settled_leave :
    (w.leave next).Settled source channelId ↔
      source = .screen ∧ w.session.sharing = true ∨ next = .follow channelId ∨
        Passing w.calls source channelId := by
  unfold World.leave
  dsimp only
  split
  · next hsharing =>
      refine settled_await.trans ?_
      simp only [Settled, Call.stops, Call.returnsTo, After.returnsTo, decide_eq_true_eq, hsharing,
        and_true, reduceCtorEq, false_or, eq_comm (a := PublicationSource.screen)]
      rw [or_comm, or_assoc]
  · next hsharing =>
      refine (settled_leaveRoom w.room).trans ?_
      simp only [Settled, hsharing, and_false, reduceCtorEq, false_or]
      exact or_comm

theorem settled_enter :
    (w.enter target).Settled source channelId ↔
      target = some channelId ∨ Passing w.calls source channelId := by
  unfold World.enter
  dsimp only
  split
  · refine settled_await.trans ?_
    cases w.room with
    | true => simp [Settled, Call.stops, Call.returnsTo]
    | false => simp [Settled, Call.stops, Call.returnsTo]
  · exact Iff.rfl

theorem settled_goOn :
    (w.goOn source after).Settled s channelId ↔
      w.Settled s channelId ∨ after.returnsTo channelId = true := by
  cases after with
  | done => simp [goOn, After.returnsTo]
  | restart =>
      refine (settled_start source).trans ?_
      simp [After.returnsTo]
  | leave next room =>
      refine (settled_leaveRoom room).trans ?_
      simp [After.returnsTo]

theorem core_leaveEnd (next : Next) (w : World) :
    (w.leaveEnd next).core = w.core ∧ (w.leaveEnd next).tokens = w.tokens := by
  cases next with
  | signOut => exact ⟨rfl, rfl⟩
  | follow target => exact ⟨rfl, rfl⟩

theorem core_leaveRoom (next : Next) (room : Bool) (w : World) :
    (w.leaveRoom next room).core = w.core ∧ (w.leaveRoom next room).tokens = w.tokens := by
  unfold leaveRoom
  split
  · exact ⟨rfl, rfl⟩
  · exact core_leaveEnd next w

theorem core_leave (next : Next) (w : World) :
    (w.leave next).core = w.core ∧ (w.leave next).tokens = w.tokens := by
  unfold leave
  dsimp only
  split
  · exact ⟨rfl, rfl⟩
  · exact core_leaveRoom next w.room _

theorem core_start (source : PublicationSource) (w : World) :
    (w.start source).core = w.core ∧ (w.start source).tokens = w.tokens := by
  unfold start
  split
  · exact ⟨rfl, rfl⟩
  · split
    · exact ⟨rfl, rfl⟩
    · exact ⟨rfl, rfl⟩

theorem core_goOn (source : PublicationSource) (after : After) (w : World) :
    (w.goOn source after).core = w.core ∧ (w.goOn source after).tokens = w.tokens := by
  cases after with
  | done => exact ⟨rfl, rfl⟩
  | restart => exact core_start source w
  | leave next room => exact core_leaveRoom next room w

theorem core_enter (target : Option Snowflake) (w : World) :
    (w.enter target).core = w.core ∧ (w.enter target).tokens = w.tokens := by
  unfold enter
  split
  · exact ⟨rfl, rfl⟩
  · exact ⟨rfl, rfl⟩

/-! ## What the core's commands change of it -/

theorem starts_step {c : Command} (hc : c.starts = true) (core : Sharing) :
    (core.step c).starts = core.starts + 1 := by
  cases c with
  | shareStart request outcome => rfl
  | cameraStart outcome => rfl
  | shareStop => cases hc
  | cameraStop => cases hc
  | gaveUp source => cases hc

/-- Only a start goes through as one. -/
theorem starts_of_goes {sharing : Sharing} {c : Command} (h : sharing.Starts c) :
    c.starts = true := by
  cases c with
  | shareStart request outcome => rfl
  | cameraStart outcome => rfl
  | shareStop => cases h
  | cameraStop => cases h
  | gaveUp source => cases h

theorem capture_stop (core : Sharing) (source s : PublicationSource) :
    (core.step (Command.stop source)).live.capture s =
      if s = source then none else core.live.capture s := by
  cases source with
  | screen => exact Core.State.capture_release core.live .screen s
  | camera => exact Core.State.capture_release core.live .camera s

theorem starts_stop (core : Sharing) (source : PublicationSource) :
    (core.step (Command.stop source)).starts = core.starts := by
  cases source with
  | screen => rfl
  | camera => rfl

theorem onAir_halted :
    (w.halted source after).onAir s = if s = source then none else w.onAir s := by
  unfold onAir halted await
  dsimp only [resumed]
  rw [capture_stop]
  split
  · rfl
  · rfl

theorem settled_halted :
    (w.halted source after).Settled s channelId ↔
      (w.resumed (.stop source after)).Settled s channelId ∨ after.returnsTo channelId = true := by
  refine settled_await.trans (or_congr Iff.rfl ?_)
  simp [Call.stops, Call.returnsTo]

theorem settled_ran {c : Command} {other : Snowflake} :
    (w.ran c channelId).Settled s other ↔ w.Settled s other := by
  refine settled_await.trans ?_
  constructor
  · rintro (hresumed | hstop | hreturn)
    · exact Settled.of_resumed hresumed
    · cases hstop
    · cases hreturn
  · intro hsettled
    rcases hsettled.resumed (.native c.source channelId) with hstill | hstop | hreturn
    · exact .inl hstill
    · cases hstop
    · cases hreturn

/-- A start leaves what is captured already as it is. -/
theorem capture_start {sharing : Sharing} {c : Command} (hc : c.starts = true) {start : Nat}
    (h : sharing.live.capture s = some start) : (sharing.step c).live.capture s = some start := by
  obtain ⟨-, hcaptures⟩ := Core.startsAs_run sharing hc
  split at hcaptures
  · have hsame := hcaptures.2 s
    split at hsame
    · next hs =>
        subst hs
        cases hcaptures.1.symm.trans h
    · exact hsame.trans h
  · exact (hcaptures s).trans h

/-- What was on the air before a start is on it afterwards, for the same channel. -/
theorem onAir_ran_of_onAir (h : Known w) {c : Command} (hc : c.starts = true)
    {other : Snowflake} (hair : other ∈ w.onAir s) : other ∈ (w.ran c channelId).onAir s := by
  obtain ⟨start, hcapture, htoken⟩ := Option.bind_eq_some_iff.mp hair
  refine Option.bind_eq_some_iff.mpr ⟨start, capture_start hc hcapture, ?_⟩
  show (w.tokens.insert w.core.starts channelId).lookup start = some other
  have hlt := (h.token s start hcapture).1
  rw [AList.lookup_insert_ite, if_neg (Nat.ne_of_lt hlt)]
  exact htoken

/-- What is on the air after a start was before, or is what has been started. -/
theorem onAir_of_onAir_ran (h : Known w) {c : Command} {other : Snowflake}
    (hair : other ∈ (w.ran c channelId).onAir s) :
    other ∈ w.onAir s ∨ s = c.source ∧ other = channelId ∧ w.core.Starts c := by
  obtain ⟨start, hcapture, htoken⟩ := Option.bind_eq_some_iff.mp hair
  rw [show (w.ran c channelId).tokens.lookup start = _ from AList.lookup_insert_ite ..] at htoken
  rcases Core.live_of_step h.connected hcapture with ⟨hbefore, -⟩ | ⟨hs, rfl, hgoes, -⟩
  · have hlt := (h.token s start hbefore).1
    rw [if_neg (Nat.ne_of_lt hlt)] at htoken
    exact .inl (Option.bind_eq_some_iff.mpr ⟨start, hbefore, htoken⟩)
  · rw [if_pos rfl] at htoken
    exact .inr ⟨hs, (Option.some.inj htoken).symm, hgoes⟩

theorem Known.ran (h : Known w) {c : Command} (hc : c.starts = true) :
    Known (w.ran c channelId) where
  connected := Core.connected_step h.connected
  token s start hcapture := by
    show start < (w.core.step c).starts ∧ ∃ other,
      (w.tokens.insert w.core.starts channelId).lookup start = some other
    rw [starts_step hc, AList.lookup_insert_ite]
    rcases Core.live_of_step h.connected hcapture with ⟨hbefore, -⟩ | ⟨-, rfl, -, -⟩
    · obtain ⟨hlt, htoken⟩ := h.token s start hbefore
      rw [if_neg (Nat.ne_of_lt hlt)]
      exact ⟨by omega, htoken⟩
    · exact ⟨by omega, channelId, if_pos rfl⟩

theorem Known.halted (h : Known w) : Known (w.halted source after) where
  connected := Core.connected_step h.connected
  token s start hcapture := by
    show start < (w.core.step (Command.stop source)).starts ∧ _
    rw [starts_stop]
    have hsame : (w.core.step (Command.stop source)).live.capture s = some start := hcapture
    rw [capture_stop] at hsame
    split at hsame
    · cases hsame
    · exact h.token s start hsame

/-- A start that goes through is live afterwards. -/
theorem capture_of_starts {sharing : Sharing} {c : Command} (h : sharing.Starts c) :
    (sharing.step c).live.capture c.source = some sharing.starts := by
  have hconnects : ∀ refused, (sharing.live.connection = none → refused = none) →
      ∃ publisher, sharing.live.connect sharing.starts refused = .ok publisher := by
    intro refused hrefused
    unfold Core.Live.connect
    cases hpublisher : sharing.live.publisher with
    | some publisher => exact ⟨publisher, rfl⟩
    | none =>
        rw [hrefused (by simp [Core.Live.connection, hpublisher])]
        exact ⟨_, rfl⟩
  cases c with
  | shareStart request outcome =>
      obtain ⟨⟨hscreen, hid, hrefused⟩, hvideo, haudio, hcapture⟩ := h
      obtain ⟨publisher, hconnect⟩ := hconnects outcome.connect hrefused
      have hpublished : ∃ publisher' sink, publisher.publishScreen request.audio outcome.video
          outcome.audio = (publisher', .ok sink) := by
        unfold Core.Publisher.publishScreen
        rw [hvideo]
        cases hrequest : request.audio with
        | false => exact ⟨_, _, rfl⟩
        | true =>
            rw [haudio hrequest]
            exact ⟨_, _, rfl⟩
      obtain ⟨publisher', sink, hpublished⟩ := hpublished
      have hstart := Core.shareStart_connected hscreen hid hconnect
      rw [hpublished, hcapture] at hstart
      show (sharing.live.shareStart sharing.starts request outcome).1.screen = _
      rw [hstart]
  | cameraStart outcome =>
      obtain ⟨⟨⟨hcamera, hrefused⟩, hopened⟩, hvideo⟩ := h
      obtain ⟨publisher, hconnect⟩ := hconnects outcome.connect hrefused
      show (sharing.live.cameraStart sharing.starts outcome).1.camera = _
      simp [Core.Live.cameraStart, hcamera, hconnect, hopened, hvideo, Core.Publisher.publishCamera]
  | shareStop => cases h
  | cameraStop => cases h
  | gaveUp source => cases h

theorem onAir_ran_of_starts {c : Command} (h : w.core.Starts c) :
    channelId ∈ (w.ran c channelId).onAir c.source :=
  Option.bind_eq_some_iff.mpr ⟨w.core.starts, capture_of_starts h, by
    show (w.tokens.insert w.core.starts channelId).lookup w.core.starts = some channelId
    rw [AList.lookup_insert_ite, if_pos rfl]⟩

end Pieces

section Steps

variable {w : World} {source : PublicationSource} {channelId : Snowflake}

/-- Every other step leaves the core alone. -/
theorem core_step {act : Act} (hact : act.commands = false) :
    (w.step act).core = w.core ∧ (w.step act).tokens = w.tokens := by
  have hsame : w.core = w.core ∧ w.tokens = w.tokens := ⟨rfl, rfl⟩
  cases act with
  | start source => exact core_start source w
  | stop source =>
      rw [step]
      split
      · exact ⟨rfl, rfl⟩
      · exact hsame
  | switch source =>
      rw [step]
      split
      · exact ⟨rfl, rfl⟩
      · exact core_start source w
  | changePreset =>
      rw [step]
      split
      · exact ⟨rfl, rfl⟩
      · exact hsame
  | follow target =>
      rw [step]
      split
      · exact hsame
      · exact core_leave _ w
  | signOut => exact core_leave _ w
  | granted source channelId token =>
      rw [step]
      split
      · cases token with
        | true => exact ⟨rfl, rfl⟩
        | false => exact ⟨rfl, rfl⟩
      · exact hsame
  | native c channelId => cases hact
  | answered source succeeded =>
      rw [step]
      split
      · exact ⟨rfl, rfl⟩
      · exact hsame
  | nativeStop source after => cases hact
  | stopped source after =>
      rw [step]
      split
      · exact core_goOn source after _
      · exact hsame
  | disconnected next =>
      rw [step]
      split
      · exact core_leaveEnd next _
      · exact hsame
  | left target =>
      rw [step]
      split
      · exact core_enter target _
      · exact hsame
  | replaced =>
      rw [step]
      split
      · exact ⟨rfl, rfl⟩
      · exact hsame
  | joined token =>
      rw [step]
      split
      · cases token with
        | true => exact ⟨rfl, rfl⟩
        | false => exact ⟨rfl, rfl⟩
      · exact hsame
  | connected succeeded =>
      rw [step]
      split
      · cases succeeded with
        | true => exact ⟨rfl, rfl⟩
        | false => exact ⟨rfl, rfl⟩
      · exact hsame

theorem Known.step (h : Known w) (act : Act) : Known (w.step act) := by
  cases hact : act.commands with
  | false => exact h.congr (core_step hact).1 (core_step hact).2
  | true =>
      cases act with
      | native c channelId =>
          rw [World.step]
          split
          · next hruns => exact h.ran hruns.1
          · exact h
      | nativeStop source after =>
          rw [World.step]
          split
          · exact h.halted
          · exact h
      | _ => cases hact

/-- A careful step of the session leaves what is settled settled. -/
theorem settled_step {act : Act} (hact : act.commands = false) (hair : channelId ∈ w.onAir source)
    (h : w.Settled source channelId) (hcareful : w.Careful act) :
    (w.step act).Settled source channelId := by
  -- a call that neither stops a source nor comes back to a channel may go on
  have hresumed : ∀ call : Call, call.stops source = false → call.returnsTo channelId = false →
      (w.resumed call).Settled source channelId := by
    intro call hstops hreturns
    rcases h.resumed call with hstill | hstop | hreturn
    · exact hstill
    · cases hstops.symm.trans hstop
    · cases hreturns.symm.trans hreturn
  cases act with
  | start s => exact (settled_start s).mpr h
  | stop s =>
      rw [step]
      split
      · exact h.imp_right fun hpassing => passing_cons.mpr (.inl hpassing)
      · exact h
  | switch s =>
      rw [step]
      split
      · exact h.imp_right fun hpassing => passing_cons.mpr (.inl hpassing)
      · exact (settled_start s).mpr h
  | changePreset =>
      rw [step]
      split
      · exact h.imp_right fun hpassing => passing_cons.mpr (.inl hpassing)
      · exact h
  | follow target =>
      rw [step]
      split
      · exact h
      · next hne => exact settled_leave.mpr (hcareful hne source channelId hair)
  | signOut => exact settled_leave.mpr (hcareful source channelId hair)
  | granted s other token =>
      rw [step]
      split
      · cases token with
        | true => exact settled_await.mpr (.inl (hresumed _ rfl rfl))
        | false => exact hresumed _ rfl rfl
      · exact h
  | native c other => cases hact
  | answered s succeeded =>
      rw [step]
      split
      · exact hresumed _ rfl rfl
      · exact h
  | nativeStop s after => cases hact
  | stopped s after =>
      rw [step]
      split
      · refine settled_goOn.mpr ?_
        rcases h.resumed (.stopped s after) with hstill | hstop | hreturn
        · exact .inl hstill
        · cases hstop
        · exact .inr hreturn
      · exact h
  | disconnected next =>
      rw [step]
      split
      · refine settled_leaveEnd.mpr ?_
        rcases h.resumed (.disconnecting next) with hstill | hstop | hreturn
        · exact .inl hstill
        · cases hstop
        · exact .inr (of_decide_eq_true hreturn)
      · exact h
  | left target =>
      rw [step]
      split
      · next hmem => exact settled_enter.mpr (hcareful hmem source channelId hair)
      · exact h
  | replaced =>
      rw [step]
      split
      · exact settled_await.mpr (.inl (hresumed _ rfl rfl))
      · exact h
  | joined token =>
      rw [step]
      split
      · cases token with
        | true => exact settled_await.mpr (.inl (hresumed _ rfl rfl))
        | false => exact hresumed _ rfl rfl
      · exact h
  | connected succeeded =>
      rw [step]
      split
      · cases succeeded with
        | true => exact hresumed _ rfl rfl
        | false => exact hresumed _ rfl rfl
      · exact h

theorem AllSettled.step (h : w.AllSettled) (hknown : Known w) {act : Act}
    (hcareful : w.Careful act) : (w.step act).AllSettled := by
  intro s other hair
  cases hact : act.commands with
  | false =>
      rw [onAir_congr (core_step hact).1 (core_step hact).2] at hair
      exact settled_step hact hair (h s other hair) hcareful
  | true =>
      cases act with
      | native c channelId =>
          rw [World.step] at hair ⊢
          split at hair
          · next hruns =>
              rw [if_pos hruns]
              -- what is on the air was there before, or is what the start put there
              refine settled_ran.mpr ?_
              rcases onAir_of_onAir_ran hknown hair with hbefore | ⟨rfl, rfl, hgoes⟩
              · exact h s other hbefore
              · exact hcareful hruns.2 hgoes
          · next hruns =>
              rw [if_neg hruns]
              exact h s other hair
      | nativeStop source after =>
          rw [World.step] at hair ⊢
          split at hair
          · next hmem =>
              rw [if_pos hmem]
              refine settled_halted.mpr ?_
              rw [onAir_halted] at hair
              split at hair
              · cases hair
              · next hs =>
                  -- the stop that has run was for this source only
                  rcases (h s other hair).resumed (.stop source after) with
                    hstill | hstop | hreturn
                  · exact .inl hstill
                  · exact absurd (of_decide_eq_true hstop).symm hs
                  · exact .inr hreturn
          · next hmem =>
              rw [if_neg hmem]
              exact h s other hair
      | _ => cases hact

/-- In every run of careful steps, what is on the air once nothing is pending was started
for the channel we are in. -/
theorem inTheRoom_of_careful (acts : List Act) (h : EachStep step Careful new acts) :
    Throughout step InTheRoom new acts := by
  have hinv : Throughout step (fun w => Known w ∧ AllSettled w) new acts :=
    throughout_of_eachStep
      (fun _ act hinv hcareful => ⟨hinv.1.step act, hinv.2.step hinv.1 hcareful⟩)
      ⟨known_new, allSettled_new⟩ h
  exact hinv.mono fun _ hinv => hinv.1.inTheRoom hinv.2

/-- Joins the room of channel 5. -/
private def joins : List Act :=
  [.follow (some 5), .left (some 5), .joined true, .connected true]

/-- Shares the screen with the token for channel 5. -/
private def shares : List Act :=
  [.start .screen, .granted .screen 5 true,
    .native (.shareStart ⟨some 1, false⟩ ⟨none, none, none, none, none⟩) 5,
    .answered .screen true]

/-- The channel is left once the share is known to be on the air. -/
theorem inTheRoom_of_careful_leave :
    Throughout step InTheRoom new
      (joins ++ shares ++
        [Act.follow none, Act.nativeStop .screen (.leave (.follow none) true),
          Act.stopped .screen (.leave (.follow none) true), Act.disconnected (.follow none),
          Act.left none]) :=
  inTheRoom_of_careful _ (by decide +kernel)

/-- The channel is left while the share waits for its token. -/
def leftWhileStarting : List Act :=
  joins ++ [Act.start .screen, Act.follow none, Act.disconnected (.follow none), Act.left none] ++
    shares.tail

/-- The share goes on the air in the channel that was left. -/
theorem started_for_channel_left :
    ¬ ∀ acts : List Act, Throughout step InTheRoom new acts := by
  intro h
  have hroom := throughout_iff_initial.mp (h leftWhileStarting) leftWhileStarting
    (List.prefix_refl _)
  obtain ⟨channelId, -, hhere⟩ := hroom (by decide +kernel) .screen (by decide +kernel)
  have hnone : (run step new leftWhileStarting).channelId = none := by decide +kernel
  cases hnone.symm.trans hhere

/-! ## What is left behind -/

/-- What is under way settles nothing that is not settled. -/
theorem settled_of_settled_step {act : Act} (hact : act.commands = false)
    (hcompletes : act.completes = true) (h : (w.step act).Settled source channelId) :
    w.Settled source channelId := by
  cases act with
  | start s => cases hcompletes
  | stop s => cases hcompletes
  | switch s => cases hcompletes
  | changePreset => cases hcompletes
  | follow target => cases hcompletes
  | signOut => cases hcompletes
  | granted s other token =>
      rw [step] at h
      split at h
      · cases token with
        | true =>
            rcases settled_await.mp h with hresumed | hstop | hreturn
            · exact hresumed.of_resumed
            · cases hstop
            · cases hreturn
        | false => exact Settled.of_resumed h
      · exact h
  | native c other => cases hact
  | answered s succeeded =>
      rw [step] at h
      split at h
      · exact Settled.of_resumed h
      · exact h
  | nativeStop s after => cases hact
  -- where a leave that goes on comes back to, it came back to before
  | stopped s after =>
      rw [step] at h
      split at h
      · next hmem =>
          rcases settled_goOn.mp h with hresumed | hreturn
          · exact hresumed.of_resumed
          · exact .inr ⟨_, hmem, .inr hreturn⟩
      · exact h
  | disconnected next =>
      rw [step] at h
      split at h
      · next hmem =>
          rcases settled_leaveEnd.mp h with hresumed | hreturn
          · exact hresumed.of_resumed
          · exact .inr ⟨_, hmem, .inr (decide_eq_true hreturn)⟩
      · exact h
  | left target =>
      rw [step] at h
      split at h
      · next hmem =>
          rcases settled_enter.mp h with htarget | hpassing
          · exact .inr ⟨_, hmem, .inr (decide_eq_true htarget)⟩
          · exact .inr hpassing.of_erase
      · exact h
  | replaced =>
      rw [step] at h
      split at h
      · rcases settled_await.mp h with hresumed | hstop | hreturn
        · exact hresumed.of_resumed
        · cases hstop
        · cases hreturn
      · exact h
  | joined token =>
      rw [step] at h
      split at h
      · cases token with
        | true =>
            rcases settled_await.mp h with hresumed | hstop | hreturn
            · exact Settled.of_resumed (w := w) hresumed
            · cases hstop
            · cases hreturn
        | false => exact Settled.of_resumed h
      · exact h
  | connected succeeded =>
      rw [step] at h
      split at h
      · cases succeeded with
        | true => exact Settled.of_resumed h
        | false => exact Settled.of_resumed (w := w) h
      · exact h

/-- Nothing that is under way takes a stray publication off the air. -/
theorem Stray.step (h : w.Stray source) (hknown : Known w) {act : Act}
    (hcompletes : act.completes = true) : (w.step act).Stray source := by
  obtain ⟨channelId, hair, hstray⟩ := h
  cases hact : act.commands with
  | false =>
      refine ⟨channelId, ?_, fun hsettled => ?_⟩
      · rw [onAir_congr (core_step hact).1 (core_step hact).2]
        exact hair
      · exact hstray (settled_of_settled_step hact hcompletes hsettled)
  | true =>
      cases act with
      | native c other =>
          rw [World.step]
          split
          · next hruns =>
              refine ⟨channelId, onAir_ran_of_onAir hknown hruns.1 hair, fun hsettled => ?_⟩
              exact hstray (settled_ran.mp hsettled)
          · exact ⟨channelId, hair, hstray⟩
      | nativeStop s after =>
          rw [World.step]
          split
          · next hmem =>
              have hs : source ≠ s := by
                rintro rfl
                exact hstray (.inr ⟨_, hmem, .inl (decide_eq_true rfl)⟩)
              refine ⟨channelId, ?_, fun hsettled => ?_⟩
              · rw [onAir_halted, if_neg hs]
                exact hair
              · rcases settled_halted.mp hsettled with hresumed | hreturn
                · exact hstray hresumed.of_resumed
                · exact hstray (.inr ⟨_, hmem, .inr hreturn⟩)
          · exact ⟨channelId, hair, hstray⟩
      | _ => cases hact

/-- A careless step leaves something behind. -/
theorem stray_of_careless {act : Act} (h : ¬ w.Careful act) :
    ∃ source, (w.step act).Stray source := by
  -- the source that is left on the air is the stray one
  have hleft : ∀ next, ¬ w.Leaves next → ∃ source, (w.leave next).Stray source := by
    intro next hleaves
    unfold Leaves at hleaves
    push Not at hleaves
    obtain ⟨source, channelId, hair, hout⟩ := hleaves
    refine ⟨source, channelId, ?_, fun hsettled => ?_⟩
    · rw [onAir_congr (core_leave next w).1 (core_leave next w).2]
      exact hair
    · rcases settled_leave.mp hsettled with ⟨hs, hsharing⟩ | hnext | hpassing
      · exact hout.1 hs hsharing
      · exact hout.2.1 hnext
      · exact hout.2.2 hpassing
  cases act with
  | follow target =>
      obtain ⟨hne, hleaves⟩ := Classical.not_imp.mp h
      rw [step, if_neg hne]
      exact hleft _ hleaves
  | signOut => exact hleft _ h
  | left target =>
      obtain ⟨hmem, hout⟩ := Classical.not_imp.mp h
      push Not at hout
      obtain ⟨source, channelId, hair, htarget, hpassing⟩ := hout
      rw [step, if_pos hmem]
      refine ⟨source, channelId, ?_, fun hsettled => ?_⟩
      · rw [onAir_congr (core_enter target _).1 (core_enter target _).2]
        exact hair
      · rcases settled_enter.mp hsettled with heq | hstill
        · exact htarget heq
        · exact hpassing hstill
  | native c channelId =>
      obtain ⟨hmem, hout⟩ := Classical.not_imp.mp h
      obtain ⟨hgoes, hsettled⟩ := Classical.not_imp.mp hout
      rw [step, if_pos ⟨starts_of_goes hgoes, hmem⟩]
      exact ⟨c.source, channelId, onAir_ran_of_starts hgoes, fun hafter =>
        hsettled (settled_ran.mp hafter)⟩
  | _ => exact absurd trivial h

/-- What a careless step has left behind is on the air still when all that was under way
is done. -/
theorem not_inTheRoom_of_careless (acts rest : List Act) {act : Act}
    (hcareless : ¬ Careful (run step new acts) act) (hrest : ∀ a ∈ rest, a.completes = true)
    (hquiet : (run step (run step new acts) (act :: rest)).calls = []) :
    ¬ InTheRoom (run step (run step new acts) (act :: rest)) := by
  have hknown : Known (run step new acts) :=
    run_invariant (I := Known) (fun _ act hknown => hknown.step act) known_new acts
  obtain ⟨source, hstray⟩ := stray_of_careless hcareless
  have hkept : ∀ (rest : List Act) (w : World), (∀ a ∈ rest, a.completes = true) → Known w →
      w.Stray source → (run step w rest).Stray source := by
    intro rest
    induction rest with
    | nil => exact fun _ _ _ hstray => hstray
    | cons a rest ih =>
        intro w hrest hknown hstray
        exact ih (w.step a) (fun b hb => hrest b (List.mem_cons_of_mem a hb)) (hknown.step a)
          (hstray.step hknown (hrest a List.mem_cons_self))
  exact (hkept rest _ hrest (hknown.step act) hstray).not_inTheRoom hquiet

end Steps

end World

end OwnRoom
end Desktop
end Ldktela
