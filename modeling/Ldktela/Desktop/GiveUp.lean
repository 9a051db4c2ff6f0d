import Ldktela.Desktop.Sharing

/-!
# Publications that die on their own

`give_up` in `desktop/src-tauri/src/share.rs`: a capture that loses its source, or a
connection that ends, schedules a release and goes on; the release runs later, under
the lock, and all it knows is the source.  The commands come at any moment in between.

`spares_of_ordered`: along every run whose starts find no release of an earlier
publication pending, a release never takes down a later publication.
-/

namespace Ldktela
namespace Desktop
namespace Core

open Protocol

/-- Who scheduled a release: the capture of a start, or a connection. -/
inductive Owner where
  | capture (start : Nat)
  | connection (connection : Nat)
deriving DecidableEq

/-- A release that waits for the lock. -/
structure Release where
  source : PublicationSource
  owner : Owner
deriving DecidableEq

/-- A publication: the start that opened its capture, and the connection it is on. -/
structure Started where
  source : PublicationSource
  start : Nat
  connection : Nat
deriving DecidableEq

/-- The release was scheduled by the capture or the connection of the publication. -/
def Owner.Of (owner : Owner) (start connection : Nat) : Prop :=
  owner = .capture start ∨ owner = .connection connection

instance (owner : Owner) (start connection : Nat) : Decidable (owner.Of start connection) :=
  inferInstanceAs (Decidable (_ ∨ _))

namespace Live

/-- Which connection is up. -/
def connection (live : Live) : Option Nat :=
  live.publisher.map Publisher.connection

end Live

namespace Sharing

/-- The connection the start would work on. -/
def connectionOf (s : Sharing) : Nat :=
  s.live.connection.getD s.starts

/-- The start comes as far as its connection, and gets it. -/
def Connects (s : Sharing) : Command → Prop
  | .shareStart request outcome =>
      s.live.screen = none ∧ request.sourceId.isSome = true ∧
        (s.live.connection = none → outcome.connect = none)
  | .cameraStart outcome =>
      s.live.camera = none ∧ (s.live.connection = none → outcome.connect = none)
  | .shareStop | .cameraStop | .gaveUp _ => False

/-- The start comes as far as its capture, and the capture opens. -/
def Opens (s : Sharing) : Command → Prop
  | .shareStart request outcome =>
      s.Connects (.shareStart request outcome) ∧ outcome.video = none ∧
        (request.audio = true → outcome.audio = none) ∧ outcome.capture = none
  | .cameraStart outcome => s.Connects (.cameraStart outcome) ∧ outcome.opened = none
  | .shareStop | .cameraStop | .gaveUp _ => False

/-- The start goes through. -/
def Starts (s : Sharing) : Command → Prop
  | .shareStart request outcome => s.Opens (.shareStart request outcome)
  | .cameraStart outcome => s.Opens (.cameraStart outcome) ∧ outcome.video = none
  | .shareStop | .cameraStop | .gaveUp _ => False

instance (s : Sharing) (command : Command) : Decidable (s.Connects command) :=
  match command with
  | .shareStart _ _ | .cameraStart _ => inferInstanceAs (Decidable (_ ∧ _))
  | .shareStop | .cameraStop | .gaveUp _ => .isFalse id

instance (s : Sharing) (command : Command) : Decidable (s.Opens command) :=
  match command with
  | .shareStart _ _ | .cameraStart _ => inferInstanceAs (Decidable (_ ∧ _))
  | .shareStop | .cameraStop | .gaveUp _ => .isFalse id

instance (s : Sharing) (command : Command) : Decidable (s.Starts command) :=
  match command with
  | .shareStart request outcome =>
      inferInstanceAs (Decidable (s.Opens (.shareStart request outcome)))
  | .cameraStart _ => inferInstanceAs (Decidable (_ ∧ _))
  | .shareStop | .cameraStop | .gaveUp _ => .isFalse id

end Sharing

/-! ## The core with what is scheduled -/

/-- `history` is there for the statements: every capture that was opened. -/
structure State where
  sharing : Sharing
  /-- Releases that wait for the lock. -/
  pending : List Release
  /-- Connections that have not told of their end. -/
  connections : List Nat
  history : List Started

inductive Act where
  /-- A command of the interface; `lost` says that the capture it opens is lost at
  once. -/
  | command (command : Command) (lost : Bool)
  /-- The capture of the source loses its source. -/
  | lost (source : PublicationSource)
  /-- The connection ends. -/
  | disconnected (connection : Nat)
  /-- A scheduled release gets the lock. -/
  | release (task : Release)
deriving DecidableEq

namespace State

def idle : State := ⟨Sharing.idle, [], [], []⟩

/-- Runs a command under the lock. -/
def command (command : Command) (lost : Bool) (s : State) : State where
  sharing := s.sharing.step command
  pending :=
    if lost ∧ s.sharing.Opens command then
      ⟨command.source, .capture s.sharing.starts⟩ :: s.pending
    else s.pending
  connections :=
    if s.sharing.live.connection = none ∧ s.sharing.Connects command then
      s.sharing.starts :: s.connections
    else s.connections
  history :=
    if s.sharing.Opens command then
      ⟨command.source, s.sharing.starts, s.sharing.connectionOf⟩ :: s.history
    else s.history

/-- The capture thread schedules a release and goes on. -/
def lost (source : PublicationSource) (s : State) : State :=
  match s.sharing.live.capture source with
  | none => s
  | some start => { s with pending := ⟨source, .capture start⟩ :: s.pending }

/-- Both sources went with the connection. -/
def disconnected (connection : Nat) (s : State) : State :=
  if connection ∈ s.connections then
    { s with
      connections := s.connections.erase connection
      pending :=
        ⟨.screen, .connection connection⟩ :: ⟨.camera, .connection connection⟩ :: s.pending }
  else
    s

def release (task : Release) (s : State) : State :=
  if task ∈ s.pending then
    { s with
      sharing := s.sharing.step (.gaveUp task.source)
      pending := s.pending.erase task }
  else
    s

def step (s : State) : Act → State
  | .command (.gaveUp _) _ => s
  | .command c lost => s.command c lost
  | .lost source => s.lost source
  | .disconnected connection => s.disconnected connection
  | .release task => s.release task

/-- The release would take down a publication of its source that was started after
one whose capture or connection scheduled it, and that has neither. -/
def Foreign (s : State) (task : Release) : Prop :=
  ∃ start connection, s.sharing.live.capture task.source = some start ∧
    s.sharing.live.connection = some connection ∧ ¬ task.owner.Of start connection ∧
    ∃ earlier ∈ s.history, earlier.source = task.source ∧ earlier.start < start ∧
      task.owner.Of earlier.start earlier.connection

/-- A release that runs takes down no publication started after the one it was
scheduled for. -/
def Spares (s : State) : Act → Prop
  | .release task => task ∈ s.pending → ¬ s.Foreign task
  | .command _ _ | .lost _ | .disconnected _ => True

/-- A start goes through only when no release of its source is pending that an
earlier publication scheduled, unless it joins the connection that scheduled it; and
a connection tells of its end before a source it carried is live on a newer one. -/
def Ordered (s : State) : Act → Prop
  | .command c _ => s.sharing.Starts c → ∀ task ∈ s.pending, task.source = c.source →
      (∃ earlier ∈ s.history, earlier.source = c.source ∧
        task.owner.Of earlier.start earlier.connection) →
      ∃ connection, s.sharing.live.connection = some connection ∧
        task.owner = .connection connection
  | .disconnected connection => ∀ source, ¬ s.Foreign ⟨source, .connection connection⟩
  | .lost _ | .release _ => True

end State

/-! ## What is live after a command -/

section Commands

open Core.Live

variable {live : Live} {publisher : Publisher} {source s : PublicationSource} {start n : Nat}

/-- What is live has a connection. -/
def Live.Connected (live : Live) : Prop :=
  ∀ source, live.capture source ≠ none → live.connection ≠ none

theorem capture_closeIfIdle : live.closeIfIdle.capture source = live.capture source := by
  unfold closeIfIdle
  split
  · rfl
  · exact capture_publisher none

/-- A live source keeps its connection. -/
theorem connection_closeIfIdle (h : live.capture source = some n) :
    live.closeIfIdle.connection = live.connection := by
  have hcapture : (live.capture source).isSome = true := by
    rw [h]
    rfl
  unfold closeIfIdle
  rw [if_pos (busy_of_capture hcapture)]

theorem connection_of_connect {refused : Option String}
    (h : live.connect start refused = .ok publisher) :
    publisher.connection = live.connection.getD start ∧
      (live.connection = none → refused = none) := by
  unfold connection
  rcases connect_cases h with hpublisher | ⟨hpublisher, hrefused, rfl⟩
  · rw [hpublisher]
    exact ⟨rfl, fun hnone => by cases hnone⟩
  · rw [hpublisher]
    exact ⟨rfl, fun _ => hrefused⟩

theorem publishScreen_connection (withAudio : Bool) (video audio : Option String)
    (publisher : Publisher) :
    (publisher.publishScreen withAudio video audio).1.connection = publisher.connection := by
  unfold Publisher.publishScreen
  cases video with
  | some message => rfl
  | none =>
      cases withAudio with
      | false => exact Publisher.connection_publishVideo
      | true =>
          cases audio with
          | some message => exact Publisher.connection_publishVideo
          | none => exact Publisher.connection_publishVideo

theorem publishScreen_ok {withAudio sink : Bool} {video audio : Option String}
    (h : (publisher.publishScreen withAudio video audio).2 = .ok sink) :
    video = none ∧ (withAudio = true → audio = none) := by
  unfold Publisher.publishScreen at h
  cases video with
  | some message => cases h
  | none =>
      cases withAudio with
      | false => exact ⟨rfl, fun h => absurd h Bool.false_ne_true⟩
      | true =>
          cases audio with
          | some message => cases h
          | none => exact ⟨rfl, fun _ => rfl⟩

/-- What is live after a release was live before, on the same connection. -/
theorem live_of_release (h : (live.release source).capture s = some n) :
    s ≠ source ∧ live.capture s = some n ∧ (live.release source).connection = live.connection := by
  have hdown : (live.takeDown source).capture s = some n := by
    rw [← capture_closeIfIdle]
    exact h
  obtain ⟨hs, hlive⟩ := capture_of_takeDown hdown
  exact ⟨hs, hlive, (connection_closeIfIdle hdown).trans connection_takeDown⟩

/-- A start works on the connection of what is live. -/
theorem connection_kept (hconnected : live.Connected) (hlive : live.capture s = some n)
    (hpublisher : publisher.connection = live.connection.getD start) :
    some publisher.connection = live.connection := by
  have hne : live.capture s ≠ none := by
    rw [hlive]
    exact Option.some_ne_none n
  obtain ⟨connection, hsome⟩ := Option.ne_none_iff_exists'.mp (hconnected s hne)
  rw [hpublisher, hsome, Option.getD_some]

/-- A start that does not go through leaves what is live where it was. -/
theorem live_of_closed (hconnected : live.Connected)
    (hpublisher : publisher.connection = live.connection.getD start)
    (h : ({ live with publisher := some publisher }.closeIfIdle).capture s = some n) :
    live.capture s = some n ∧
      ({ live with publisher := some publisher }.closeIfIdle).connection = live.connection := by
  rw [capture_closeIfIdle] at h
  have hlive : live.capture s = some n := by
    rw [← h]
    exact (capture_publisher _).symm
  exact ⟨hlive, (connection_closeIfIdle h).trans (connection_kept hconnected hlive hpublisher)⟩

/-- What is live after a start of the screen was live before, or is what it started. -/
theorem live_of_shareStart (hconnected : live.Connected) {request : StartRequest}
    {outcome : ScreenOutcome}
    (h : (live.shareStart start request outcome).1.capture s = some n) :
    (live.capture s = some n ∧
      (live.shareStart start request outcome).1.connection = live.connection) ∨
    (s = .screen ∧ n = start ∧ Sharing.Starts ⟨live, start⟩ (.shareStart request outcome) ∧
      (live.shareStart start request outcome).1.connection =
        some (live.connection.getD start)) := by
  cases hscreen : live.screen with
  | some capture =>
      left
      have hsame : (live.shareStart start request outcome).1 = live := by simp [shareStart, hscreen]
      rw [hsame] at h ⊢
      exact ⟨h, rfl⟩
  | none =>
      cases hid : request.sourceId with
      | none =>
          left
          have hsame : (live.shareStart start request outcome).1 = live := by
            simp [shareStart, hscreen, hid]
          rw [hsame] at h ⊢
          exact ⟨h, rfl⟩
      | some id =>
          cases hconnect : live.connect start outcome.connect with
          | error error =>
              left
              have hsame : (live.shareStart start request outcome).1 = live := by
                simp [shareStart, hscreen, hid, hconnect]
              rw [hsame] at h ⊢
              exact ⟨h, rfl⟩
          -- the connection is there; now each thing that fails closes it again if it is idle
          | ok publisher =>
              obtain ⟨hconnection, hconnects⟩ := connection_of_connect hconnect
              have hid : request.sourceId.isSome = true := by rw [hid]; rfl
              rw [shareStart_connected hscreen hid hconnect] at h ⊢
              have hpublished := publishScreen_connection request.audio outcome.video outcome.audio
                publisher
              cases hresult : publisher.publishScreen request.audio outcome.video outcome.audio with
              | mk publisher' result =>
                  rw [hresult] at h hpublished
                  cases result with
                  | error error =>
                      exact .inl (live_of_closed hconnected (hpublished.trans hconnection) h)
                  | ok sink =>
                      cases hcapture : outcome.capture with
                      | some error =>
                          rw [hcapture] at h
                          exact .inl (live_of_closed hconnected
                            (Publisher.connection_unpublish.trans (hpublished.trans hconnection)) h)
                      | none =>
                          rw [hcapture] at h
                          obtain ⟨hvideo, haudio⟩ := publishScreen_ok (congrArg Prod.snd hresult)
                          cases s with
                          | screen =>
                              right
                              refine ⟨rfl, (Option.some.inj h).symm, ?_, ?_⟩
                              · exact ⟨⟨hscreen, hid, hconnects⟩, hvideo, haudio, hcapture⟩
                              · exact congrArg some (hpublished.trans hconnection)
                          -- the camera was live before, on the connection that is kept
                          | camera =>
                              left
                              have hlive : live.capture .camera = some n := h
                              exact ⟨hlive,
                                connection_kept hconnected hlive (hpublished.trans hconnection)⟩

theorem live_of_cameraStart (hconnected : live.Connected) {outcome : CameraOutcome}
    (h : (live.cameraStart start outcome).1.capture s = some n) :
    (live.capture s = some n ∧ (live.cameraStart start outcome).1.connection = live.connection) ∨
    (s = .camera ∧ n = start ∧ Sharing.Starts ⟨live, start⟩ (.cameraStart outcome) ∧
      (live.cameraStart start outcome).1.connection = some (live.connection.getD start)) := by
  unfold cameraStart at h ⊢
  by_cases hcamera : live.camera.isSome = true
  · rw [if_pos hcamera] at h ⊢
    exact .inl ⟨h, rfl⟩
  · rw [if_neg hcamera] at h ⊢
    have hoff : live.camera = none := Option.not_isSome_iff_eq_none.mp hcamera
    cases hconnect : live.connect start outcome.connect with
    | error error =>
        rw [hconnect] at h
        exact .inl ⟨h, rfl⟩
    | ok publisher =>
        obtain ⟨hconnection, hconnects⟩ := connection_of_connect hconnect
        rw [hconnect] at h
        cases hopened : outcome.opened with
        | some error =>
            rw [hopened] at h
            exact .inl (live_of_closed hconnected hconnection h)
        | none =>
            rw [hopened] at h
            cases hvideo : outcome.video with
            | some message =>
                rw [hvideo] at h
                exact .inl (live_of_closed hconnected hconnection h)
            | none =>
                rw [hvideo] at h
                cases s with
                | screen =>
                    -- the screen was live before, on the connection that is kept
                    have hlive : live.capture .screen = some n := h
                    exact .inl ⟨hlive, connection_kept hconnected hlive hconnection⟩
                | camera =>
                    right
                    refine ⟨rfl, (Option.some.inj h).symm, ?_, ?_⟩
                    · exact ⟨⟨⟨hoff, hconnects⟩, hopened⟩, hvideo⟩
                    · exact congrArg some hconnection

/-- What is live after a command was live before, on the same connection, or is what
the command started. -/
theorem live_of_step {c : Command} {before : Sharing} (hconnected : before.live.Connected)
    (h : (before.step c).live.capture s = some n) :
    (before.live.capture s = some n ∧ (before.step c).live.connection = before.live.connection) ∨
    (s = c.source ∧ n = before.starts ∧ before.Starts c ∧
      (before.step c).live.connection = some before.connectionOf) := by
  have hrelease : ∀ source, (before.live.release source).capture s = some n →
      before.live.capture s = some n ∧
        (before.live.release source).connection = before.live.connection :=
    fun source h => (live_of_release h).2
  cases c with
  | shareStart request outcome => exact live_of_shareStart hconnected h
  | cameraStart outcome => exact live_of_cameraStart hconnected h
  | shareStop => exact .inl (hrelease .screen h)
  | cameraStop => exact .inl (hrelease .camera h)
  | gaveUp source => exact .inl (hrelease source h)

theorem connected_step {c : Command} {before : Sharing} (hconnected : before.live.Connected) :
    (before.step c).live.Connected := by
  intro source hlive
  obtain ⟨capture, hcapture⟩ := Option.ne_none_iff_exists'.mp hlive
  rcases live_of_step hconnected hcapture with ⟨hbefore, hconnection⟩ | ⟨-, -, -, hconnection⟩
  · rw [hconnection]
    exact hconnected source (by rw [hbefore]; exact Option.some_ne_none capture)
  · rw [hconnection]
    exact Option.some_ne_none _

end Commands

/-! ## Along a run -/

namespace State

variable {s s' : State} {task : Release}

/-- What the steps keep: no pending release would take down a publication that is
not its own. -/
structure Inv (s : State) : Prop where
  connected : s.sharing.live.Connected
  opened : ∀ started ∈ s.history, started.start < s.sharing.starts
  live : ∀ source start, s.sharing.live.capture source = some start → start < s.sharing.starts
  spared : ∀ task ∈ s.pending, ¬ s.Foreign task

/-- A step after which nothing new is live makes no release foreign. -/
theorem Foreign.of_live (h : s'.Foreign task) (hhistory : s'.history = s.history)
    (hlive : ∀ start, s'.sharing.live.capture task.source = some start →
      s.sharing.live.capture task.source = some start ∧
        s'.sharing.live.connection = s.sharing.live.connection) : s.Foreign task := by
  obtain ⟨start, connection, hcapture, hconnection, hown, hearlier⟩ := h
  obtain ⟨hbefore, hsame⟩ := hlive start hcapture
  exact ⟨start, connection, hbefore, hsame ▸ hconnection, hown, hhistory ▸ hearlier⟩

theorem starts_step (sharing : Sharing) (c : Command) :
    sharing.starts ≤ (sharing.step c).starts := by
  cases c with
  | shareStart request outcome => exact Nat.le_succ _
  | cameraStart outcome => exact Nat.le_succ _
  | shareStop => exact Nat.le_refl _
  | cameraStop => exact Nat.le_refl _
  | gaveUp source => exact Nat.le_refl _

theorem starts_of_opens {sharing : Sharing} {c : Command} (h : sharing.Opens c) :
    (sharing.step c).starts = sharing.starts + 1 := by
  cases c with
  | shareStart request outcome => rfl
  | cameraStart outcome => rfl
  | shareStop => cases h
  | cameraStop => cases h
  | gaveUp source => cases h

theorem opens_of_starts {sharing : Sharing} {c : Command} (h : sharing.Starts c) :
    sharing.Opens c := by
  cases c with
  | shareStart request outcome => exact h
  | cameraStart outcome => exact h.1
  | shareStop => cases h
  | cameraStop => cases h
  | gaveUp source => cases h

theorem Inv.command (h : s.Inv) (c : Command) (lost : Bool)
    (hordered : s.Ordered (.command c lost)) :
    (s.command c lost).Inv where
  connected := connected_step h.connected
  opened started hmem := by
    have hle := starts_step s.sharing c
    unfold State.command at hmem
    dsimp only at hmem
    split at hmem
    · next hopens =>
        have heq := starts_of_opens hopens
        show started.start < (s.sharing.step c).starts
        rcases List.mem_cons.mp hmem with rfl | hold
        · dsimp only
          omega
        · have hlt := h.opened started hold
          omega
    · exact Nat.lt_of_lt_of_le (h.opened started hmem) hle
  live source start hcapture := by
    have hle := starts_step s.sharing c
    rcases live_of_step h.connected hcapture with ⟨hbefore, -⟩ | ⟨-, rfl, hstarts, -⟩
    · exact Nat.lt_of_lt_of_le (h.live source start hbefore) hle
    · have heq := starts_of_opens (opens_of_starts hstarts)
      show s.sharing.starts < (s.sharing.step c).starts
      omega
  spared task hmem hforeign := by
    obtain ⟨start, connection, hcapture, hconnection, hown, earlier, hearlier, hsource, hlt, hof⟩ :=
      hforeign
    have hmoves := live_of_step h.connected hcapture
    have hbound : start ≤ s.sharing.starts := by
      rcases hmoves with ⟨hbefore, -⟩ | ⟨-, heq, -, -⟩
      · exact Nat.le_of_lt (h.live task.source start hbefore)
      · exact Nat.le_of_eq heq
    -- what the command opens is not earlier than anything that is live
    have hold : earlier ∈ s.history := by
      unfold State.command at hearlier
      dsimp only at hearlier
      split at hearlier
      · rcases List.mem_cons.mp hearlier with rfl | hold
        · dsimp only at hlt
          omega
        · exact hold
      · exact hearlier
    have hlate : earlier.start < s.sharing.starts := h.opened earlier hold
    have hpending : task ∈ s.pending := by
      unfold State.command at hmem
      dsimp only at hmem
      split at hmem
      · rcases List.mem_cons.mp hmem with rfl | hold
        · -- scheduled by the capture that has just been opened
          rcases hof with heq | heq
          · have hstart : s.sharing.starts = earlier.start := Owner.capture.inj heq
            omega
          · cases heq
        · exact hold
      · exact hmem
    rcases hmoves with ⟨hbefore, hsame⟩ | ⟨hstarted, rfl, hstarts, hsame⟩
    · refine h.spared task hpending ⟨start, connection, hbefore, ?_, hown, earlier, hold, hsource,
        hlt, hof⟩
      rw [← hsame]
      exact hconnection
    · -- the connection the release belongs to is the one the start has joined
      obtain ⟨joined, hjoined, howner⟩ :=
        hordered hstarts task hpending hstarted ⟨earlier, hold, hsource.trans hstarted, hof⟩
      refine hown (.inr (howner.trans ?_))
      have heq : some connection = some (s.sharing.connectionOf) := hconnection.symm.trans hsame
      rw [Sharing.connectionOf, hjoined, Option.getD_some] at heq
      rw [Option.some.inj heq]

theorem Inv.lost (h : s.Inv) (source : PublicationSource) : (s.lost source).Inv := by
  unfold State.lost
  cases hcapture : s.sharing.live.capture source with
  | none => exact h
  | some start =>
      refine ⟨h.connected, h.opened, h.live, fun task hmem hforeign => ?_⟩
      rcases List.mem_cons.mp hmem with rfl | hold
      · -- the capture is that of the live publication
        obtain ⟨start', connection, hlive, -, hown, -⟩ := hforeign
        have heq : some start = some start' := hcapture.symm.trans hlive
        rw [Option.some.inj heq] at hown
        exact hown (.inl rfl)
      · exact h.spared task hold hforeign

theorem Inv.disconnected (h : s.Inv) (connection : Nat)
    (hordered : s.Ordered (.disconnected connection)) : (s.disconnected connection).Inv := by
  unfold State.disconnected
  split
  · refine ⟨h.connected, h.opened, h.live, fun task hmem hforeign => ?_⟩
    rcases List.mem_cons.mp hmem with rfl | hmem
    · exact hordered .screen hforeign
    rcases List.mem_cons.mp hmem with rfl | hold
    · exact hordered .camera hforeign
    · exact h.spared task hold hforeign
  · exact h

theorem Inv.release (h : s.Inv) (task : Release) : (s.release task).Inv := by
  unfold State.release
  split
  · refine ⟨connected_step h.connected, h.opened, fun source start hcapture => ?_,
      fun other hmem hforeign => ?_⟩
    · exact h.live source start (live_of_release hcapture).2.1
    · refine h.spared other (List.mem_of_mem_erase hmem)
        (hforeign.of_live rfl fun start hlive => ?_)
      exact (live_of_release hlive).2
  · exact h

theorem Inv.step (h : s.Inv) (act : Act) (hordered : s.Ordered act) : (s.step act).Inv := by
  cases act with
  | command c lost => cases c with
      | shareStart request outcome => exact h.command _ lost hordered
      | cameraStart outcome => exact h.command _ lost hordered
      | shareStop => exact h.command _ lost hordered
      | cameraStop => exact h.command _ lost hordered
      | gaveUp source => exact h
  | lost source => exact h.lost source
  | disconnected connection => exact h.disconnected connection hordered
  | release task => exact h.release task

theorem inv_idle : idle.Inv where
  connected source hlive := by
    cases source with
    | screen => exact absurd rfl hlive
    | camera => exact absurd rfl hlive
  opened started hmem := by cases hmem
  live source start hcapture := by
    cases source with
    | screen => cases hcapture
    | camera => cases hcapture
  spared task hmem := by cases hmem

/-- Along every run of ordered steps, no release takes down a publication started
after the one it was scheduled for. -/
theorem spares_of_ordered (acts : List Act) (h : Runs.EachStep step Ordered idle acts) :
    Runs.EachStep step Spares idle acts := by
  refine h.imp (I := Inv) (fun s act hinv _ => ?_) (fun s act hinv => hinv.step act) inv_idle
  cases act with
  | release task => exact hinv.spared task
  | command c lost => trivial
  | lost source => trivial
  | disconnected connection => trivial

/-- A start of the screen that goes through. -/
def started : Act :=
  .command (.shareStart ⟨some 1, false⟩ ⟨none, none, none, none, none⟩) false

/-- The window is closed, and shared again once the release has run. -/
theorem spares_restart :
    Runs.EachStep step Spares idle
      [started, .lost .screen, .release ⟨.screen, .capture 0⟩, started] :=
  spares_of_ordered _
    ⟨fun _ _ hmem => (List.not_mem_nil hmem).elim, trivial, trivial,
      fun _ _ hmem => (List.not_mem_nil hmem).elim, trivial⟩

/-- The share is stopped and started again before the release of the first one gets
the lock. -/
theorem stale_release_stops_successor :
    ¬ Runs.EachStep step Spares idle
      [started, .lost .screen, .command .shareStop false, started,
        .release ⟨.screen, .capture 0⟩] := by
  intro h
  have hspares := h.2.2.2.2.1
  exact hspares (by decide)
    ⟨1, 1, rfl, rfl, by decide, ⟨.screen, 0, 0⟩, by decide, rfl, by decide, .inl rfl⟩

end State

end Core
end Desktop
end Ldktela
