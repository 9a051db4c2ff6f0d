import Ldktela.Desktop.DiscordTree
import Ldktela.Desktop.SessionTurns

/-!
# What the sound of a share carries

`desktop/src-tauri/src/audio.rs` from `start` down to what Windows is asked for, with
`start_audio` and `audio_target` of `share.rs`.  A window is shared with the sound of its own
process tree and a screen with that of the whole system but Discord's tree; whatever Windows
refuses, the capture falls back by one step, and the last step is the whole system.

`Windows` holds what the system answers, and `Loopback` the documented meaning of a capture: the
process named and its descendants, or all the others.  `startAudio_tells` says that the mode the
interface is told of is that of the capture.
-/

namespace Ldktela
namespace Desktop
namespace Audio

open DiscordTree
open Desktop.Core (AudioModeReport)
open Desktop.SessionTurns (SourceKind)

/-! ## What Windows is asked for -/

inductive AudioMode where
  | excludingDiscord
  | onlyWindow
  | wholeSystem
deriving DecidableEq

/-- Whose sound the share is supposed to carry. -/
inductive AudioTarget where
  | systemExceptDiscord
  | window (pid : Nat)
deriving DecidableEq

inductive AudioError where
  | windows (message : String)
  | timeout
deriving DecidableEq

/-- `PROCESS_LOOPBACK_MODE`. -/
inductive LoopbackMode where
  | includeTargetProcessTree
  | excludeTargetProcessTree
deriving DecidableEq

/-- What a client was activated for. -/
inductive Capture where
  | processLoopback (pid : Nat) (mode : LoopbackMode)
  | endpoint
deriving DecidableEq

/-- An opened capture; process loopback is driven by an event. -/
structure Opened where
  client : Capture
  tick : Bool
  mode : AudioMode
deriving DecidableEq

/-- What Windows answers while a capture starts. -/
structure Windows where
  /-- The thread and the process of a window; a thread of 0 is no window. -/
  windowThreadProcessId : UInt64 → Nat × Nat
  /-- The snapshot of the processes, which is empty when none can be taken. -/
  snapshot : List Process
  /-- Why process loopback is refused, if it is. -/
  processLoopback : Nat → LoopbackMode → Option AudioError
  /-- Why the default endpoint is refused, if it is. -/
  endpoint : Option AudioError
  spawns : Bool
  coInitialize : Bool
  /-- `GetService` and `Start` of the opened client. -/
  captures : Bool
  /-- The thread is ready within five seconds. -/
  inTime : Bool

def windowOwnerPid (windows : Windows) (hwnd : UInt64) : Option Nat :=
  let (thread, pid) := windows.windowThreadProcessId hwnd
  if thread ≠ 0 ∧ pid ≠ 0 then some pid else none

def discordRootPid (windows : Windows) : Option Nat :=
  rootOfDiscordTree windows.snapshot

def openProcessLoopback (windows : Windows) (pid : Nat) (loopbackMode : LoopbackMode)
    (mode : AudioMode) : Except AudioError Opened :=
  match windows.processLoopback pid loopbackMode with
  | some error => .error error
  | none => .ok ⟨.processLoopback pid loopbackMode, true, mode⟩

/-- Everything the machine plays, Discord included. -/
def openWholeSystem (windows : Windows) : Except AudioError Opened :=
  match windows.endpoint with
  | some error => .error error
  | none => .ok ⟨.endpoint, false, .wholeSystem⟩

def openSystemExceptDiscord (windows : Windows) : Except AudioError Opened :=
  match discordRootPid windows with
  | none => openWholeSystem windows
  | some pid =>
      match openProcessLoopback windows pid .excludeTargetProcessTree .excludingDiscord with
      | .ok opened => .ok opened
      | .error _ => openWholeSystem windows

def openClient (windows : Windows) : AudioTarget → Except AudioError Opened
  | .window pid =>
      match openProcessLoopback windows pid .includeTargetProcessTree .onlyWindow with
      | .ok opened => .ok opened
      | .error _ => openSystemExceptDiscord windows
  | .systemExceptDiscord => openSystemExceptDiscord windows

/-! ## The start -/

/-- What the capture thread sends when it is ready; it sends nothing when the opened client does
not start. -/
def run (windows : Windows) (target : AudioTarget) : Option (Except AudioError Opened) :=
  if windows.coInitialize then
    match openClient windows target with
    | .error error => some (.error error)
    | .ok opened => if windows.captures then some (.ok opened) else none
  else
    some (.error (.windows "nao consegui inicializar o COM"))

/-- The capture with its mode. -/
def start (windows : Windows) (target : AudioTarget) : Except AudioError (Opened × AudioMode) :=
  if windows.spawns then
    match if windows.inTime then run windows target else none with
    | some (.ok opened) => .ok (opened, opened.mode)
    | some (.error error) => .error error
    | none => .error .timeout
  else
    .error .timeout

def audioTarget (windows : Windows) (kind : SourceKind) (sourceId : UInt64) : AudioTarget :=
  match kind with
  | .window =>
      match windowOwnerPid windows sourceId with
      | none => .systemExceptDiscord
      | some pid => .window pid
  | .screen => .systemExceptDiscord

def AudioMode.report : AudioMode → AudioModeReport
  | excludingDiscord => .excludingDiscord
  | onlyWindow => .onlyWindow
  | wholeSystem => .wholeSystem

/-- `sink` says that the audio track was published.  The screen goes on without sound when the
capture does not start. -/
def startAudio (windows : Windows) (sink : Bool) (kind : SourceKind) (sourceId : UInt64) :
    Option Opened × Option AudioModeReport :=
  if sink then
    match start windows (audioTarget windows kind sourceId) with
    | .ok (opened, mode) => (some opened, some mode.report)
    | .error _ => (none, none)
  else
    (none, none)

/-! ## What a capture carries -/

/-- The process is the one named, or descends from it. -/
def InTree (processes : List Process) (pid : Nat) (p : Process) : Prop :=
  ∃ root ∈ processes, root.pid = pid ∧ (p = root ∨ Descends processes p root)

/-- Whose sound a capture of Windows carries, among the processes of a moment. -/
structure Loopback where
  Carries : List Process → Process → Capture → Prop
  includes : ∀ {processes pid p},
    Carries processes p (.processLoopback pid .includeTargetProcessTree) ↔ InTree processes pid p
  excludes : ∀ {processes pid p},
    Carries processes p (.processLoopback pid .excludeTargetProcessTree) ↔ ¬ InTree processes pid p
  endpoint : ∀ {processes p}, Carries processes p .endpoint

instance : Inhabited Loopback where
  default :=
    { Carries := fun processes p capture =>
        match capture with
        | .processLoopback pid .includeTargetProcessTree => InTree processes pid p
        | .processLoopback pid .excludeTargetProcessTree => ¬ InTree processes pid p
        | .endpoint => True
      includes := Iff.rfl
      excludes := Iff.rfl
      endpoint := trivial }

/-- The sound of a process goes out with the share. -/
def Heard (loopback : Loopback) (processes : List Process) (p : Process)
    (opened : Option Opened) : Prop :=
  ∃ o, opened = some o ∧ loopback.Carries processes p o.client

/-- What a capture is for each mode: the target of the share, and what Windows refused. -/
inductive Opens (windows : Windows) (target : AudioTarget) : Opened → Prop where
  | onlyWindow (pid : Nat) (htarget : target = .window pid) :
      Opens windows target ⟨.processLoopback pid .includeTargetProcessTree, true, .onlyWindow⟩
  | excludingDiscord (pid : Nat) (hroot : discordRootPid windows = some pid)
      (hwindow : ∀ owner, target = .window owner →
        (windows.processLoopback owner .includeTargetProcessTree).isSome = true) :
      Opens windows target
        ⟨.processLoopback pid .excludeTargetProcessTree, true, .excludingDiscord⟩
  | wholeSystem (hwindow : ∀ owner, target = .window owner →
        (windows.processLoopback owner .includeTargetProcessTree).isSome = true)
      (hdiscord : ∀ pid, discordRootPid windows = some pid →
        (windows.processLoopback pid .excludeTargetProcessTree).isSome = true) :
      Opens windows target ⟨.endpoint, false, .wholeSystem⟩

variable {windows : Windows} {target : AudioTarget} {opened : Opened}

/-- A capture that opens was accepted as it was asked for. -/
theorem openProcessLoopback_ok {pid : Nat} {loopbackMode : LoopbackMode} {mode : AudioMode}
    (h : openProcessLoopback windows pid loopbackMode mode = .ok opened) :
    windows.processLoopback pid loopbackMode = none ∧
      opened = ⟨.processLoopback pid loopbackMode, true, mode⟩ := by
  unfold openProcessLoopback at h
  cases hanswer : windows.processLoopback pid loopbackMode with
  | some error => simp only [hanswer, reduceCtorEq] at h
  | none =>
      simp only [hanswer, Except.ok.injEq] at h
      exact ⟨rfl, h.symm⟩

theorem openProcessLoopback_error {pid : Nat} {loopbackMode : LoopbackMode} {mode : AudioMode}
    {error : AudioError} (h : openProcessLoopback windows pid loopbackMode mode = .error error) :
    (windows.processLoopback pid loopbackMode).isSome = true := by
  unfold openProcessLoopback at h
  cases hanswer : windows.processLoopback pid loopbackMode with
  | some error => rfl
  | none => simp only [hanswer, reduceCtorEq] at h

theorem openWholeSystem_ok (h : openWholeSystem windows = .ok opened) :
    opened = ⟨.endpoint, false, .wholeSystem⟩ := by
  unfold openWholeSystem at h
  cases hanswer : windows.endpoint with
  | some error => simp only [hanswer, reduceCtorEq] at h
  | none =>
      simp only [hanswer, Except.ok.injEq] at h
      exact h.symm

/-- The step that both targets come to, when the window alone is not to be had. -/
theorem opens_of_openSystemExceptDiscord
    (hwindow : ∀ owner, target = .window owner →
      (windows.processLoopback owner .includeTargetProcessTree).isSome = true)
    (h : openSystemExceptDiscord windows = .ok opened) : Opens windows target opened := by
  unfold openSystemExceptDiscord at h
  cases hroot : discordRootPid windows with
  | none =>
      simp only [hroot] at h
      obtain rfl := openWholeSystem_ok h
      refine .wholeSystem hwindow fun pid hpid => ?_
      cases hroot.symm.trans hpid
  | some root =>
      simp only [hroot] at h
      cases hloopback : openProcessLoopback windows root .excludeTargetProcessTree
          .excludingDiscord with
      | ok answer =>
          simp only [hloopback, Except.ok.injEq] at h
          obtain ⟨-, rfl⟩ := openProcessLoopback_ok hloopback
          rw [← h]
          exact .excludingDiscord root hroot hwindow
      | error error =>
          simp only [hloopback] at h
          obtain rfl := openWholeSystem_ok h
          refine .wholeSystem hwindow fun pid hpid => ?_
          obtain rfl : root = pid := Option.some.inj (hroot.symm.trans hpid)
          exact openProcessLoopback_error hloopback

theorem opens_of_openClient (h : openClient windows target = .ok opened) :
    Opens windows target opened := by
  cases target with
  | systemExceptDiscord =>
      exact opens_of_openSystemExceptDiscord (fun owner htarget => by cases htarget) h
  | window pid =>
      simp only [openClient] at h
      cases hloopback : openProcessLoopback windows pid .includeTargetProcessTree
          .onlyWindow with
      | ok answer =>
          simp only [hloopback, Except.ok.injEq] at h
          obtain ⟨-, rfl⟩ := openProcessLoopback_ok hloopback
          rw [← h]
          exact .onlyWindow pid rfl
      | error error =>
          simp only [hloopback] at h
          refine opens_of_openSystemExceptDiscord (fun owner htarget => ?_) h
          obtain rfl : pid = owner := AudioTarget.window.inj htarget
          exact openProcessLoopback_error hloopback

/-- Every way of falling back ends at the endpoint. -/
theorem exists_openClient (h : windows.endpoint = none) (target : AudioTarget) :
    ∃ opened, openClient windows target = .ok opened := by
  have hsystem : ∃ opened, openSystemExceptDiscord windows = .ok opened := by
    have hwhole : openWholeSystem windows = .ok ⟨.endpoint, false, .wholeSystem⟩ := by
      simp only [openWholeSystem, h]
    unfold openSystemExceptDiscord
    split
    · exact ⟨_, hwhole⟩
    · split
      · exact ⟨_, rfl⟩
      · exact ⟨_, hwhole⟩
  cases target with
  | systemExceptDiscord => exact hsystem
  | window pid =>
      simp only [openClient]
      split
      · exact ⟨_, rfl⟩
      · exact hsystem

/-- The thread comes up, with COM and a client that starts, before the caller gives up. -/
def Windows.Ready (windows : Windows) : Prop :=
  windows.spawns = true ∧ windows.inTime = true ∧ windows.coInitialize = true ∧
    windows.captures = true

theorem exists_start (hready : windows.Ready) (h : windows.endpoint = none)
    (target : AudioTarget) : ∃ opened mode, start windows target = .ok (opened, mode) := by
  obtain ⟨hspawns, hinTime, hcom, hcaptures⟩ := hready
  obtain ⟨opened, hopen⟩ := exists_openClient h target
  refine ⟨opened, opened.mode, ?_⟩
  simp only [start, run, hspawns, hinTime, hcom, hcaptures, hopen, if_true]

/-- A start that succeeds has the mode of what it opened. -/
theorem opens_of_start {mode : AudioMode} (h : start windows target = .ok (opened, mode)) :
    Opens windows target opened ∧ mode = opened.mode := by
  have hready : ∀ answer, (if windows.inTime then run windows target else none) = some answer →
      run windows target = some answer := by
    intro answer hanswer
    split at hanswer
    · exact hanswer
    · cases hanswer
  unfold start at h
  split at h
  · split at h
    · next opened' hrun =>
        simp only [Except.ok.injEq, Prod.mk.injEq] at h
        obtain ⟨rfl, rfl⟩ := h
        refine ⟨?_, rfl⟩
        have hok := hready _ hrun
        unfold run at hok
        split at hok
        · split at hok
          · next herror => simp only [Option.some.injEq, reduceCtorEq] at hok
          · next answer hopen =>
              split at hok
              · obtain rfl : answer = opened' := by simpa using hok
                exact opens_of_openClient hopen
              · cases hok
        · simp only [Option.some.injEq, reduceCtorEq] at hok
    · cases h
    · cases h
  · cases h

/-! ## What the interface is told -/

section Told

variable (loopback : Loopback) (windows : Windows) (sink : Bool) (kind : SourceKind)
  (sourceId : UInt64)

/-- What the mode that the interface is told of says about the sound that goes out, at the
start and at any later moment. -/
structure Tells (opened : Option Opened) (report : Option AudioModeReport) : Prop where
  silent : report = none ↔ opened = none
  /-- While the endpoint opens, a share with an audio track has sound. -/
  sounds : sink = true → windows.Ready → windows.endpoint = none → report ≠ none
  /-- The tree of the process that owned the shared window, and nothing else. -/
  onlyWindow : report = some .onlyWindow → kind = .window ∧
    ∃ pid, windowOwnerPid windows sourceId = some pid ∧
      ∀ processes p, Heard loopback processes p opened ↔ InTree processes pid p
  /-- Everything but the tree that the search of the snapshot found. -/
  excludingDiscord : report = some .excludingDiscord →
    ∃ pid, discordRootPid windows = some pid ∧
      ∀ processes p, Heard loopback processes p opened ↔ ¬ InTree processes pid p
  /-- Everything, which happens only without Discord or when it cannot be excluded. -/
  wholeSystem : report = some .wholeSystem → (∀ processes p, Heard loopback processes p opened) ∧
    ∀ pid, discordRootPid windows = some pid →
      (windows.processLoopback pid .excludeTargetProcessTree).isSome = true
  /-- More than the window goes out with it only when Windows refuses the window alone. -/
  window : ∀ pid, kind = .window → windowOwnerPid windows sourceId = some pid →
    report = some .onlyWindow ∨ report = none ∨
      (windows.processLoopback pid .includeTargetProcessTree).isSome = true
  /-- Where the search finds the top of Discord's tree, Discord goes out only when the whole
  system does, or when the shared window belongs to Discord or to what started it. -/
  discord : IsRoot windows.snapshot (discordRootPid windows) →
    (∃ r, Discord windows.snapshot r ∧
      ∀ q, Discord windows.snapshot q → q = r ∨ Descends windows.snapshot q r) →
    ∀ p, Discord windows.snapshot p → Heard loopback windows.snapshot p opened →
      report = some .wholeSystem ∨ report = some .onlyWindow ∧
        ∃ pid, windowOwnerPid windows sourceId = some pid ∧ InTree windows.snapshot pid p

end Told

variable {loopback : Loopback} {sink : Bool} {kind : SourceKind} {sourceId : UInt64}

theorem tells_none (h : sink = true → windows.Ready → windows.endpoint ≠ none) :
    Tells loopback windows sink kind sourceId none none where
  silent := iff_of_true rfl rfl
  sounds hsink hready hendpoint := absurd hendpoint (h hsink hready)
  onlyWindow h := by cases h
  excludingDiscord h := by cases h
  wholeSystem h := by cases h
  window _ _ _ := .inr (.inl rfl)
  discord _ _ p _ hheard := by
    obtain ⟨o, ho, -⟩ := hheard
    cases ho

theorem heard_some {processes : List Process} {p : Process} :
    Heard loopback processes p (some opened) ↔ loopback.Carries processes p opened.client :=
  ⟨fun ⟨_, ho, hcarries⟩ => Option.some.inj ho ▸ hcarries, fun hcarries => ⟨_, rfl, hcarries⟩⟩

/-- The target names a process only for a window that has an owner. -/
theorem audioTarget_eq_window {pid : Nat} :
    audioTarget windows kind sourceId = .window pid ↔
      kind = .window ∧ windowOwnerPid windows sourceId = some pid := by
  unfold audioTarget
  cases kind with
  | screen => simp
  | window =>
      cases howner : windowOwnerPid windows sourceId with
      | none => simp
      | some owner => simp

/-- The top of Discord's tree has every Discord process in its tree. -/
theorem inTree_of_isRoot {pid : Nat} {processes : List Process}
    (hroot : IsRoot processes (some pid))
    {r : Process} (hr : Discord processes r)
    (hbelow : ∀ q, Discord processes q → q = r ∨ Descends processes q r) {p : Process}
    (hp : Discord processes p) : InTree processes pid p := by
  obtain ⟨root, hpid, hcovers⟩ := hroot.covers pid rfl r hr hbelow
  refine ⟨root, ?_, hpid, hcovers p hp⟩
  rcases hcovers p hp with rfl | hdescends
  · exact hp.1
  · obtain ⟨child, hparent, -⟩ := Relation.TransGen.head'_iff.mp hdescends
    exact hparent.1

theorem tells_of_opens (h : Opens windows (audioTarget windows kind sourceId) opened) :
    Tells loopback windows sink kind sourceId (some opened) (some opened.mode.report) := by
  have hrefused : (∀ owner, audioTarget windows kind sourceId = .window owner →
      (windows.processLoopback owner .includeTargetProcessTree).isSome = true) →
      ∀ pid, kind = .window → windowOwnerPid windows sourceId = some pid →
        (windows.processLoopback pid .includeTargetProcessTree).isSome = true :=
    fun hwindow pid hkind howner => hwindow pid (audioTarget_eq_window.mpr ⟨hkind, howner⟩)
  cases h with
  | onlyWindow pid htarget =>
      obtain ⟨hkind, howner⟩ := audioTarget_eq_window.mp htarget
      have htree : ∀ processes p, Heard loopback processes p
          (some ⟨.processLoopback pid .includeTargetProcessTree, true, .onlyWindow⟩) ↔
            InTree processes pid p :=
        fun _ _ => heard_some.trans loopback.includes
      refine ⟨by simp, by simp, fun _ => ⟨hkind, pid, howner, htree⟩, ?_, ?_,
        fun _ _ _ => .inl rfl, fun _ _ p _ hheard => .inr ⟨rfl, pid, howner, (htree _ p).mp hheard⟩⟩
      · intro hreport
        cases hreport
      · intro hreport
        cases hreport
  | excludingDiscord pid hroot hwindow =>
      have hothers : ∀ processes p, Heard loopback processes p
          (some ⟨.processLoopback pid .excludeTargetProcessTree, true, .excludingDiscord⟩) ↔
            ¬ InTree processes pid p :=
        fun _ _ => heard_some.trans loopback.excludes
      refine ⟨by simp, by simp, ?_, fun _ => ⟨pid, hroot, hothers⟩, ?_,
        fun owner hkind howner => .inr (.inr (hrefused hwindow owner hkind howner)), ?_⟩
      · intro hreport
        cases hreport
      · intro hreport
        cases hreport
      · rintro hisRoot ⟨r, hr, hbelow⟩ p hp hheard
        rw [hroot] at hisRoot
        exact absurd (inTree_of_isRoot hisRoot hr hbelow hp) ((hothers _ p).mp hheard)
  | wholeSystem hwindow hdiscord =>
      refine ⟨by simp, by simp, ?_, ?_,
        fun _ => ⟨fun _ _ => heard_some.mpr loopback.endpoint, hdiscord⟩,
        fun owner hkind howner => .inr (.inr (hrefused hwindow owner hkind howner)),
        fun _ _ _ _ _ => .inl rfl⟩
      · intro hreport
        cases hreport
      · intro hreport
        cases hreport

/-- What a start returns is told of as what it is. -/
theorem tells_of_startAudio {capture : Option Opened} {report : Option AudioModeReport}
    (h : startAudio windows sink kind sourceId = (capture, report)) :
    Tells loopback windows sink kind sourceId capture report := by
  unfold startAudio at h
  split at h
  · cases hstart : start windows (audioTarget windows kind sourceId) with
    | error error =>
        simp only [hstart] at h
        obtain ⟨rfl, rfl⟩ := Prod.mk.inj h
        refine tells_none fun _ hready hendpoint => ?_
        obtain ⟨opened, mode, hok⟩ :=
          exists_start hready hendpoint (audioTarget windows kind sourceId)
        cases hstart.symm.trans hok
    | ok answer =>
        obtain ⟨opened, mode⟩ := answer
        simp only [hstart] at h
        obtain ⟨rfl, rfl⟩ := Prod.mk.inj h
        obtain ⟨hopens, rfl⟩ := opens_of_start hstart
        exact tells_of_opens hopens
  · next hsink =>
      obtain ⟨rfl, rfl⟩ := Prod.mk.inj h
      exact tells_none fun htrue => absurd htrue hsink

end Audio
end Desktop
end Ldktela
