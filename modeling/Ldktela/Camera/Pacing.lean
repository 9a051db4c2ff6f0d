import Ldktela.Camera.Frames
import Ldktela.Camera.Preview
import Ldktela.Lib.Bursts

/-!
# The clocks of a capture

The loop of `run` in `desktop/src-tauri/src/capture.rs`, which chooses the frame rate, and the
branch of `preview.rs` behind it: a clock of its own that the interface sets, a channel one frame
deep, and a thread that encodes.

A capture that falls behind does not catch up with a burst; the branch never holds more than three
frames, one in each of its threads and one between them, and drops the ones it has no room for.
-/

namespace Ldktela
namespace Camera

/-! ## The capture loop -/

/-- What one turn of the loop meets. -/
structure Turn where
  /-- How long `capture_frame` takes. -/
  capture : Nat
  /-- How much later than asked the thread wakes up. -/
  late : Nat

/-- The next deadline, and the clock when a turn begins. -/
structure Pace where
  next : Nat
  now : Nat

def Pace.turn (period : Nat) (s : Pace) (t : Turn) : Pace :=
  let now := s.now + t.capture
  if now < s.next + period then ⟨s.next + period, s.next + period + t.late⟩
  -- behind: the count starts again from here
  else ⟨now, now + t.late⟩

/-- When the turns of a run begin, each with a capture. -/
def Pace.captures (period : Nat) (s : Pace) : List Turn → List Nat
  | [] => []
  | t :: turns => s.now :: (s.turn period t).captures period turns

/-- A loop that begins. -/
def Pace.start (now : Nat) : Pace := ⟨now, now⟩

section Loop

variable (period : Nat) {s : Pace}

theorem next_add_le_turn (t : Turn) : s.next + period ≤ (s.turn period t).next := by
  simp only [Pace.turn]
  split
  · exact Nat.le_refl _
  · next h => exact Nat.le_of_not_lt h

theorem now_le_turn_next (t : Turn) : s.now ≤ (s.turn period t).next := by
  simp only [Pace.turn]
  split
  · next h => exact le_trans (Nat.le_add_right _ _) h.le
  · exact Nat.le_add_right _ _

theorem turn_next_le (t : Turn) : (s.turn period t).next ≤ (s.turn period t).now := by
  simp only [Pace.turn]
  split
  · exact Nat.le_add_right _ _
  · exact Nat.le_add_right _ _

/-- A turn never begins before its deadline, and the deadlines are a period apart. -/
theorem next_add_le_captures (turns : List Turn) (hs : s.next ≤ s.now) {k u : Nat}
    (hk : (s.captures period turns)[k]? = some u) : s.next + k * period ≤ u := by
  induction turns generalizing s k with
  | nil => cases hk
  | cons t turns ih =>
      cases k with
      | zero =>
          obtain rfl : s.now = u := Option.some.inj hk
          rw [Nat.zero_mul, Nat.add_zero]
          exact hs
      | succ k =>
          have hnext := next_add_le_turn (s := s) period t
          have hrest := ih (turn_next_le period t)
            (hk : ((s.turn period t).captures period turns)[k]? = _)
          rw [Nat.succ_mul]
          omega

/-- Only one period between two captures can be lost. -/
theorem spaced_captures (turns : List Turn) (hs : s.next ≤ s.now) :
    Bursts.Spaced period 1 (s.captures period turns) := by
  induction turns generalizing s with
  | nil =>
      intro i j hj
      cases hj
  | cons t turns ih =>
      intro i j hj hij
      cases j with
      | zero => cases hij
      | succ j =>
          simp only [Pace.captures, List.length_cons, Nat.add_lt_add_iff_right] at hj
          cases i with
          | zero =>
              have hnow := now_le_turn_next (s := s) period t
              have hrest := next_add_le_captures period turns (turn_next_le (s := s) period t)
                (List.getElem?_eq_getElem hj)
              simp only [Pace.captures, List.getElem_cons_zero, List.getElem_cons_succ,
                Nat.sub_zero, Nat.add_sub_cancel]
              omega
          | succ i =>
              have hrest := ih (turn_next_le period t) i j hj (Nat.lt_of_succ_lt_succ hij)
              simp only [Pace.captures, List.getElem_cons_succ, Nat.add_sub_add_right]
              exact hrest

theorem captures_on_time (turns : List Turn) (now : Nat)
    (h : ∀ t ∈ turns, t.capture < period ∧ t.late = 0) :
    (Pace.start now).captures period turns =
      (List.range turns.length).map fun k => now + k * period := by
  induction turns generalizing now with
  | nil => rfl
  | cons t turns ih =>
      obtain ⟨hcapture, hlate⟩ := h t List.mem_cons_self
      have hturn : (Pace.start now).turn period t = Pace.start (now + period) := by
        show (if now + t.capture < now + period then _ else _) = _
        rw [if_pos (Nat.add_lt_add_left hcapture now), hlate]
        rfl
      rw [Pace.captures, hturn, ih (now + period) fun t ht => h t (List.mem_cons_of_mem _ ht),
        List.length_cons, List.range_succ_eq_map, List.map_cons, List.map_map]
      refine congrArg₂ List.cons ?_ (List.map_congr_left fun k _ => ?_)
      · show now = now + 0 * period
        rw [Nat.zero_mul, Nat.add_zero]
      · show now + period + k * period = now + (k + 1) * period
        rw [Nat.succ_mul]
        omega

/-- The loop holds its rate: however slow the captures are and however late the thread wakes up, no
interval holds more than two captures beyond the rate, and a loop that is never late captures a
period apart without any drift. -/
theorem captures_pace (hperiod : 0 < period) (now : Nat) (turns : List Turn) :
    (∀ x width, (Bursts.within x width ((Pace.start now).captures period turns)).length ≤
        width / period + 2) ∧
      ((∀ t ∈ turns, t.capture < period ∧ t.late = 0) →
        (Pace.start now).captures period turns =
          (List.range turns.length).map fun k => now + k * period) :=
  ⟨fun _ _ => Bursts.length_within_le hperiod (spaced_captures period turns (Nat.le_refl now)),
    captures_on_time period turns now⟩

/-- A capture of 100 ms at 30 frames a second, and two that are on time. -/
theorem captures_pace_slow :
    0 < 33 ∧ (Bursts.within 0 200
      ((Pace.start 0).captures 33 [⟨100, 0⟩, ⟨5, 0⟩, ⟨5, 2⟩])).length ≤ 200 / 33 + 2 :=
  ⟨by decide, (captures_pace 33 (by decide) 0 [⟨100, 0⟩, ⟨5, 0⟩, ⟨5, 2⟩]).1 0 200⟩

end Loop

/-! ## The preview branch -/

/-- What the interface turns on and off. -/
structure Control where
  enabled : Bool
  periodMs : Nat
  maxWidth : Nat

def gridMax : Size := ⟨960, 540⟩
def focusMax : Size := ⟨1600, 900⟩
def gridFps : Nat := 6
def gridQuality : UInt8 := 75
def focusQuality : UInt8 := 80

/-- `1000 / fps.clamp(1, 30)`. -/
def periodMs (fps : Nat) : Nat := 1000 / max 1 (min fps 30)

/-- `Control::set` stores one value after the other, and each is read on its own. -/
inductive Store where
  | enabled (enabled : Bool)
  | period (fps : Nat)
  | width (focused : Bool)

namespace Control

def new : Control := ⟨true, Camera.periodMs gridFps, gridMax.width⟩

def store (control : Control) : Store → Control
  | .enabled enabled => { control with enabled := enabled }
  | .period fps => { control with periodMs := Camera.periodMs fps }
  | .width focused => { control with maxWidth := (if focused then focusMax else gridMax).width }

def set (enabled : Bool) (fps : Nat) (focused : Bool) : List Store :=
  [.enabled enabled, .period fps, .width focused]

/-- Nothing of the control before is left once all three are stored. -/
theorem store_set (control : Control) (enabled : Bool) (fps : Nat) (focused : Bool) :
    (set enabled fps focused).foldl store control =
      ⟨enabled, Camera.periodMs fps, (if focused then focusMax else gridMax).width⟩ := rfl

/-- The height follows the width, 16:9. -/
def ceiling (control : Control) : Size := ⟨control.maxWidth, control.maxWidth * 9 / 16⟩

def quality (control : Control) : UInt8 :=
  if gridMax.width < control.maxWidth then focusQuality else gridQuality

end Control

/-- How far the capture thread is in `Tap::offer`. -/
inductive Tap (Frame : Type) where
  | idle
  /-- The branch is enabled. -/
  | enabled (frame : Frame) (source : Size)
  /-- The clock has let the frame through. -/
  | due (frame : Frame) (source : Size)
  /-- It is scaled and converted. -/
  | converted (target : Size) (pixels : List UInt8)

variable {Frame : Type}

/-- The tap in the capture loop, the channel and the thread that encodes. -/
structure Branch (Frame : Type) where
  now : Nat
  control : Control
  tap : Tap Frame
  /-- The next frame of the tap. -/
  next : Nat
  /-- One frame deep. -/
  channel : Option Preview.Raw
  /-- The frame the thread is encoding. -/
  encoding : Option Preview.Raw
  /-- The URLs that were emitted. -/
  emitted : List String
  /-- When the clock of the tap has let a frame through. -/
  taken : List Nat
  /-- The frames it has made of them. -/
  frames : List Preview.Raw

namespace Branch

def start (now : Nat) : Branch Frame where
  now := now
  control := .new
  tap := .idle
  next := now
  channel := none
  encoding := none
  emitted := []
  taken := []
  frames := []

inductive Act (Frame : Type) where
  | tick (ms : Nat)
  /-- A value of `Control::set` is stored. -/
  | store (store : Store)
  /-- The capture offers a frame. -/
  | offer (frame : Frame) (source : Size)
  /-- The tap looks at its clock. -/
  | look
  /-- The tap scales the frame and converts it. -/
  | reduce
  /-- The tap sends what it has made of it. -/
  | send
  /-- The thread takes the frame that waits. -/
  | receive
  /-- The thread is done with its frame. -/
  | encoded

variable (reduce : Frame → Size → Option (List UInt8)) (encode : Preview.Raw → Option String)

/-- `Tap::offer`, past its two checks. -/
def take (frame : Frame) (source : Size) (b : Branch Frame) : Branch Frame :=
  { b with
    tap := .due frame source
    next := b.now + b.control.periodMs
    taken := b.taken ++ [b.now] }

/-- The width may have been stored after the period was read.  `reduce` scales the frame and
converts it. -/
def convert (frame : Frame) (source : Size) (b : Branch Frame) : Branch Frame :=
  let target := fit source b.control.ceiling
  { b with
    tap := match reduce frame target with
      | none => .idle
      | some pixels => .converted target pixels }

/-- `try_send`: a frame there is no room for is dropped. -/
def trySend (target : Size) (pixels : List UInt8) (b : Branch Frame) : Branch Frame :=
  let raw : Preview.Raw := ⟨target.width, target.height, pixels, b.control.quality⟩
  { b with
    tap := .idle
    frames := b.frames ++ [raw]
    channel := b.channel.orElse fun _ => some raw }

def step (b : Branch Frame) : Act Frame → Branch Frame
  | .tick ms => { b with now := b.now + ms }
  | .store store => { b with control := b.control.store store }
  | .offer frame source =>
      match b.tap with
      | .idle => if b.control.enabled then { b with tap := .enabled frame source } else b
      | _ => b
  | .look =>
      match b.tap with
      | .enabled frame source =>
          if b.now < b.next then { b with tap := .idle } else b.take frame source
      | _ => b
  | .reduce =>
      match b.tap with
      | .due frame source => b.convert reduce frame source
      | _ => b
  | .send =>
      match b.tap with
      | .converted target pixels => b.trySend target pixels
      | _ => b
  | .receive =>
      match b.encoding, b.channel with
      | none, some raw => { b with encoding := some raw, channel := none }
      | _, _ => b
  | .encoded =>
      match b.encoding with
      | none => b
      | some raw => { b with encoding := none, emitted := b.emitted ++ (encode raw).toList }

/-! ### What every run keeps -/

/-- The shortest period the interface can set. -/
def shortestPeriodMs : Nat := 33

theorem shortest_le_periodMs (fps : Nat) : shortestPeriodMs ≤ periodMs fps := by
  have hle : max 1 (min fps 30) ≤ 30 := by omega
  exact le_trans (by decide) (Nat.div_le_div_left hle (by omega))

structure Inv (b : Branch Frame) : Prop where
  period : shortestPeriodMs ≤ b.control.periodMs
  spaced : Bursts.Spaced shortestPeriodMs 0 b.taken
  /-- The next frame is a period after the last one. -/
  due : ∀ i (hi : i < b.taken.length),
    b.taken[i] + (b.taken.length - i) * shortestPeriodMs ≤ b.next
  /-- What was emitted, is encoded and waits are frames of the tap, in their order. -/
  order : ∃ done, b.emitted = done.filterMap encode ∧
    (done ++ (b.encoding.toList ++ b.channel.toList)).Sublist b.frames

theorem inv_start (now : Nat) : Inv encode (start now : Branch Frame) where
  period := shortest_le_periodMs gridFps
  spaced := fun _ j hj => absurd hj (Nat.not_lt_zero j)
  due := fun i hi => absurd hi (Nat.not_lt_zero i)
  order := ⟨[], rfl, List.Sublist.refl _⟩

variable {reduce encode} {b : Branch Frame}

theorem Inv.store (h : Inv encode b) (store : Store) :
    Inv encode { b with control := b.control.store store } where
  period := by
    cases store with
    | enabled enabled => exact h.period
    | period fps => exact shortest_le_periodMs fps
    | width focused => exact h.period
  spaced := h.spaced
  due := h.due
  order := h.order

theorem Inv.take (h : Inv encode b) (hnow : b.next ≤ b.now) (frame : Frame) (source : Size) :
    Inv encode (b.take frame source) where
  period := h.period
  spaced := Bursts.spaced_append h.spaced fun i hi => le_trans (h.due i hi) hnow
  due := by
    show ∀ i (hi : i < (b.taken ++ [b.now]).length),
      (b.taken ++ [b.now])[i] + ((b.taken ++ [b.now]).length - i) * shortestPeriodMs ≤
        b.now + b.control.periodMs
    intro i hi
    have hperiod := h.period
    rw [List.length_append, List.length_singleton] at hi ⊢
    by_cases hold : i < b.taken.length
    · have hlast := h.due i hold
      rw [List.getElem_append_left hold, Nat.succ_sub hold.le, Nat.succ_mul]
      omega
    · obtain rfl : i = b.taken.length := by omega
      rw [List.getElem_concat_length rfl, Nat.add_sub_cancel_left, Nat.one_mul]
      omega
  order := h.order

theorem Inv.trySend (h : Inv encode b) (target : Size) (pixels : List UInt8) :
    Inv encode (b.trySend target pixels) where
  period := h.period
  spaced := h.spaced
  due := h.due
  order := by
    obtain ⟨done, hemitted, hsub⟩ := h.order
    refine ⟨done, hemitted, ?_⟩
    show (done ++ (b.encoding.toList ++ (b.channel.orElse fun _ => some _).toList)).Sublist
      (b.frames ++ [_])
    cases hchannel : b.channel with
    | none =>
        rw [hchannel, Option.toList_none, List.append_nil] at hsub
        show (done ++ (b.encoding.toList ++ [_])).Sublist _
        rw [← List.append_assoc]
        exact hsub.append (List.Sublist.refl _)
    | some waiting =>
        rw [hchannel] at hsub
        exact hsub.trans (List.sublist_append_left _ _)

theorem Inv.step (h : Inv encode b) (act : Act Frame) : Inv encode (b.step reduce encode act) := by
  cases act with
  | tick ms => exact ⟨h.period, h.spaced, h.due, h.order⟩
  | store store => exact h.store store
  | offer frame source =>
      simp only [Branch.step]
      split
      · split
        · exact ⟨h.period, h.spaced, h.due, h.order⟩
        · exact h
      · exact h
  | look =>
      simp only [Branch.step]
      split
      · split
        · exact ⟨h.period, h.spaced, h.due, h.order⟩
        · next hnow => exact h.take (Nat.le_of_not_lt hnow) _ _
      · exact h
  | reduce =>
      simp only [Branch.step]
      split
      · exact ⟨h.period, h.spaced, h.due, h.order⟩
      · exact h
  | send =>
      simp only [Branch.step]
      split
      · exact h.trySend _ _
      · exact h
  | receive =>
      obtain ⟨done, hemitted, hsub⟩ := h.order
      unfold Branch.step
      cases hencoding : b.encoding with
      | some raw => exact h
      | none =>
          cases hchannel : b.channel with
          | none => exact h
          | some raw =>
              rw [hencoding, hchannel] at hsub
              exact ⟨h.period, h.spaced, h.due, done, hemitted, hsub⟩
  | encoded =>
      obtain ⟨done, hemitted, hsub⟩ := h.order
      unfold Branch.step
      cases hencoding : b.encoding with
      | none => exact h
      | some raw =>
          rw [hencoding] at hsub
          refine ⟨h.period, h.spaced, h.due, done ++ [raw], ?_, ?_⟩
          · show b.emitted ++ (encode raw).toList = _
            have hone : [raw].filterMap encode = (encode raw).toList := by
              cases hraw : encode raw with
              | none => simp [hraw]
              | some url => simp [hraw]
            rw [hemitted, List.filterMap_append, hone]
          · show (done ++ [raw] ++ ([] ++ b.channel.toList)).Sublist b.frames
            rw [List.nil_append, List.append_assoc]
            exact hsub

/-! ### Switched off -/

/-- The act does not switch the branch. -/
def Act.keepsEnabled : Act Frame → Bool
  | .store (.enabled _) => false
  | _ => true

/-- The frame the capture thread is busy with. -/
def inTap (b : Branch Frame) : Nat :=
  match b.tap with
  | .idle => 0
  | .enabled _ _ | .due _ _ | .converted _ _ => 1

/-- The frames that may still come out. -/
def pending (b : Branch Frame) : Nat :=
  b.emitted.length + b.encoding.toList.length + b.channel.toList.length + b.inTap

theorem inTap_le_one (b : Branch Frame) : b.inTap ≤ 1 := by
  unfold inTap
  cases b.tap with
  | idle => exact Nat.zero_le 1
  | enabled frame source => exact Nat.le_refl 1
  | due frame source => exact Nat.le_refl 1
  | converted target pixels => exact Nat.le_refl 1

/-- A frame that is converted stays in the tap, or is lost there. -/
theorem pending_convert (hbusy : b.inTap = 1) (frame : Frame) (source : Size) :
    (b.convert reduce frame source).pending ≤ b.pending := by
  have hone := inTap_le_one (b.convert reduce frame source)
  show b.emitted.length + b.encoding.toList.length + b.channel.toList.length +
    (b.convert reduce frame source).inTap ≤ _
  unfold pending
  omega

/-- A frame that is sent leaves the tap, whether or not there is room for it. -/
theorem pending_trySend (hbusy : b.inTap = 1) (target : Size) (pixels : List UInt8) :
    (b.trySend target pixels).pending ≤ b.pending := by
  have hroom : ∀ raw : Preview.Raw,
      (b.channel.orElse fun _ => some raw).toList.length ≤ b.channel.toList.length + 1 := by
    intro raw
    cases b.channel with
    | none => exact Nat.le_refl 1
    | some waiting => exact Nat.le_succ 1
  have hafter := hroom ⟨target.width, target.height, pixels, b.control.quality⟩
  show b.emitted.length + b.encoding.toList.length +
    (b.channel.orElse fun _ => some _).toList.length + 0 ≤ _
  unfold pending
  omega

variable (reduce encode) in
theorem pending_step (hoff : b.control.enabled = false) {act : Act Frame}
    (hkeeps : act.keepsEnabled = true) :
    (b.step reduce encode act).control.enabled = false ∧
      (b.step reduce encode act).pending ≤ b.pending := by
  have hsame : b.control.enabled = false ∧ b.pending ≤ b.pending := ⟨hoff, Nat.le_refl _⟩
  cases act with
  | tick ms => exact hsame
  | store store =>
      cases store with
      | enabled enabled => cases hkeeps
      | period fps => exact hsame
      | width focused => exact hsame
  | offer frame source =>
      simp only [Branch.step]
      split
      · rw [hoff, if_neg Bool.false_ne_true]
        exact hsame
      · exact hsame
  | look =>
      simp only [Branch.step]
      split
      · next htap =>
          split
          · refine ⟨hoff, ?_⟩
            simp only [pending, inTap, Nat.add_zero]
            omega
          · refine ⟨hoff, ?_⟩
            simp only [pending, inTap, take, htap]
            exact Nat.le_refl _
      · exact hsame
  | reduce =>
      simp only [Branch.step]
      split
      · next htap =>
          refine ⟨hoff, pending_convert ?_ _ _⟩
          unfold inTap
          rw [htap]
      · exact hsame
  | send =>
      simp only [Branch.step]
      split
      · next htap =>
          refine ⟨hoff, pending_trySend ?_ _ _⟩
          unfold inTap
          rw [htap]
      · exact hsame
  | receive =>
      unfold Branch.step
      cases hencoding : b.encoding with
      | some raw => exact hsame
      | none =>
          cases hchannel : b.channel with
          | none => exact hsame
          | some raw =>
              refine ⟨hoff, ?_⟩
              simp [pending, inTap, hencoding, hchannel]
  | encoded =>
      unfold Branch.step
      cases hencoding : b.encoding with
      | none => exact hsame
      | some raw =>
          refine ⟨hoff, ?_⟩
          have hone : (encode raw).toList.length ≤ 1 := by
            cases encode raw <;> simp
          simp only [pending, inTap, hencoding, Option.toList_none, Option.toList_some,
            List.length_nil, List.length_append, List.length_singleton]
          omega

variable (reduce encode) in
theorem emitted_le_pending (acts : List (Act Frame)) (hoff : b.control.enabled = false)
    (hkeeps : ∀ act ∈ acts, act.keepsEnabled = true) :
    (Runs.run (Branch.step reduce encode) b acts).emitted.length ≤ b.pending := by
  induction acts generalizing b with
  | nil =>
      show b.emitted.length ≤ b.emitted.length + _ + _ + _
      omega
  | cons act acts ih =>
      obtain ⟨hstays, hle⟩ := pending_step reduce encode hoff (hkeeps act List.mem_cons_self)
      exact le_trans (ih hstays fun a ha => hkeeps a (List.mem_cons_of_mem _ ha)) hle

variable (reduce encode)

/-- Whatever the interface sets and however slow the encoder is: the clock lets no more frames
through in any interval than a rate of one in 33 ms allows, the pictures shown are frames of the tap
in their order, and a branch that is switched off shows three more at most. -/
theorem branch_run (now : Nat) (acts more : List (Act Frame)) :
    let b := Runs.run (Branch.step reduce encode) (.start now) acts
    (∀ x width, (Bursts.within x width b.taken).length ≤ width / shortestPeriodMs + 1) ∧
      b.emitted.Sublist (b.frames.filterMap encode) ∧
      (b.control.enabled = false → (∀ act ∈ more, act.keepsEnabled = true) →
        (Runs.run (Branch.step reduce encode) b more).emitted.length ≤ b.emitted.length + 3) := by
  intro b
  have hinv : Inv encode b :=
    Runs.run_invariant (I := Inv encode) (fun _ act h => h.step act) (inv_start encode now) acts
  refine ⟨fun _ _ => Bursts.length_within_le (by decide) hinv.spaced, ?_, fun hoff hkeeps => ?_⟩
  · obtain ⟨done, hemitted, hsub⟩ := hinv.order
    rw [hemitted]
    exact ((List.sublist_append_left _ _).trans hsub).filterMap encode
  · have hle := emitted_le_pending reduce encode more hoff hkeeps
    have hencoding : b.encoding.toList.length ≤ 1 := by cases b.encoding <;> simp
    have hchannel : b.channel.toList.length ≤ 1 := by cases b.channel <;> simp
    have htap := b.inTap_le_one
    unfold pending at hle
    omega

end Branch

end Camera
end Ldktela
