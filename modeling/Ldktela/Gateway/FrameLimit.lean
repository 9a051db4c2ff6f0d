import Ldktela.Gateway.Serve
import Ldktela.Lib.Bursts

/-!
# The frame limit of a connection

`allow_frame` of `crates/api/src/gateway/mod.rs` over all frames of one connection.  Its
comment calls the window a sliding one.  It is a counter that starts again with the first frame
that comes more than `frameWindowMs` after the window was opened, so what came just before is
forgotten: `allowFrame_sliding_iff` says which arrivals get more through than the limit.
-/

namespace Ldktela
namespace Gateway
namespace Serve
namespace Connection

open Protocol
open Bursts

/-- A connection that was just accepted. -/
def opened (now : Timestamp) : Connection := ⟨none, now, 0⟩

/-- The limiter after some frames. -/
def after (conn : Connection) (frames : List Timestamp) : Connection :=
  frames.foldl (fun conn now => (conn.allowFrame now).1) conn

/-- The frames that are let through.  The first refusal ends the connection. -/
def admitted : Connection → List Timestamp → List Timestamp
  | _, [] => []
  | conn, now :: frames =>
      if (conn.allowFrame now).2 then now :: admitted (conn.allowFrame now).1 frames else []

/-- The frames of one connection, by the time they arrive.  None arrives after a refusal. -/
structure Arrivals (start : Timestamp) (frames : List Timestamp) : Prop where
  sorted : (start :: frames).Pairwise (· ≤ ·)
  served : (opened start).admitted frames.dropLast = frames.dropLast

/-- A frame is refused only when the limit was reached in the window before it. -/
def NoEarlyRefusal (start : Timestamp) (frames : List Timestamp) : Prop :=
  ∀ before t rest, frames = before ++ t :: rest →
    (((opened start).after before).allowFrame t).2 = false →
      Limits.maxFramesPerWindow ≤
        (within (t - Limits.frameWindowMs) Limits.frameWindowMs before).length

/-- When the window was opened that the next frame finds. -/
def windowStart (start : Timestamp) (frames : List Timestamp) : Timestamp :=
  frames.foldl (fun w t => if Limits.frameWindowMs < t - w then t else w) start

/-- One frame more than the limit in a row, of which one, not the first, comes after the window
that it finds: they span more than a window. -/
def NoStraddle (start : Timestamp) (frames : List Timestamp) : Prop :=
  ∀ before early t late rest, frames = before ++ (early ++ t :: late) ++ rest →
    (early ++ t :: late).length = Limits.maxFramesPerWindow + 1 → early ≠ [] →
      Limits.frameWindowMs < t - windowStart start (before ++ early) →
        ∃ u ∈ early ++ t :: late, ∃ v ∈ early ++ t :: late, u + Limits.frameWindowMs < v

/-! ## One frame -/

section Frame

variable {conn : Connection} {now start : Timestamp} {frames l l' : List Timestamp}

/-- A frame past the window opens one. -/
theorem allowFrame_of_lt (h : Limits.frameWindowMs < now - conn.windowStarted) :
    (conn.allowFrame now).1 = ⟨conn.session, now, 1⟩ := by
  rw [allowFrame, if_pos h]

theorem allowFrame_of_le (h : ¬Limits.frameWindowMs < now - conn.windowStarted) :
    (conn.allowFrame now).1 = { conn with framesInWindow := conn.framesInWindow + 1 } := by
  rw [allowFrame, if_neg h]

theorem allowFrame_snd :
    (conn.allowFrame now).2 = true ↔
      (conn.allowFrame now).1.framesInWindow ≤ Limits.maxFramesPerWindow :=
  decide_eq_true_iff

theorem after_append (conn : Connection) (l l' : List Timestamp) :
    conn.after (l ++ l') = (conn.after l).after l' :=
  List.foldl_append

theorem after_concat (conn : Connection) (l : List Timestamp) (t : Timestamp) :
    conn.after (l ++ [t]) = ((conn.after l).allowFrame t).1 :=
  after_append conn l [t]

theorem windowStarted_after (conn : Connection) (frames : List Timestamp) :
    (conn.after frames).windowStarted = windowStart conn.windowStarted frames := by
  induction frames generalizing conn with
  | nil => rfl
  | cons t frames ih =>
      have hstep : (conn.allowFrame t).1.windowStarted =
          if Limits.frameWindowMs < t - conn.windowStarted then t else conn.windowStarted := by
        split
        · next h => rw [allowFrame_of_lt h]
        · next h => rw [allowFrame_of_le h]
      rw [after, List.foldl_cons]
      refine (ih (conn.allowFrame t).1).trans ?_
      rw [hstep]
      rfl

theorem windowStart_mem (start : Timestamp) (frames : List Timestamp) :
    windowStart start frames ∈ start :: frames := by
  induction frames generalizing start with
  | nil => exact List.mem_singleton_self start
  | cons t frames ih =>
      have hrest := ih (if Limits.frameWindowMs < t - start then t else start)
      rcases List.mem_cons.mp hrest with heq | hmem
      · refine (congrArg (· ∈ start :: t :: frames) heq).mpr ?_
        split
        · simp
        · simp
      · exact List.mem_cons_of_mem start (List.mem_cons_of_mem t hmem)

/-- Each frame counts for one at most. -/
theorem framesInWindow_after_le (conn : Connection) (frames : List Timestamp) :
    (conn.after frames).framesInWindow ≤ conn.framesInWindow + frames.length := by
  induction frames generalizing conn with
  | nil => exact Nat.le_refl _
  | cons t frames ih =>
      have hrest := ih (conn.allowFrame t).1
      have hstep : (conn.allowFrame t).1.framesInWindow ≤ conn.framesInWindow + 1 := by
        by_cases h : Limits.frameWindowMs < t - conn.windowStarted
        · rw [allowFrame_of_lt h]
          exact Nat.le_add_left 1 _
        · rw [allowFrame_of_le h]
      rw [List.length_cons]
      refine Nat.le_trans hrest ?_
      omega

/-! ## What is let through -/

/-- All of the frames are let through when none overruns its window. -/
theorem admitted_eq_self_iff :
    conn.admitted l = l ↔ ∀ before t, before ++ [t] <+: l →
      (conn.after (before ++ [t])).framesInWindow ≤ Limits.maxFramesPerWindow := by
  induction l generalizing conn with
  | nil =>
      refine ⟨fun _ before t hhead => ?_, fun _ => rfl⟩
      exact absurd (List.prefix_nil.mp hhead) (by simp)
  | cons now l ih =>
      rw [admitted]
      constructor
      · intro hall before t hhead
        split at hall
        · next hok =>
          cases before with
          | nil =>
              obtain ⟨rfl, -⟩ := List.cons_prefix_cons.mp hhead
              exact allowFrame_snd.mp hok
          | cons first before =>
              obtain ⟨rfl, htail⟩ := List.cons_prefix_cons.mp hhead
              exact ih.mp (List.cons.inj hall).2 before t htail
        · cases hall
      · intro hfits
        rw [if_pos (allowFrame_snd.mpr (hfits [] now (by simp)))]
        refine congrArg (now :: ·) (ih.mpr fun before t hhead => ?_)
        exact hfits (now :: before) t (List.cons_prefix_cons.mpr ⟨rfl, hhead⟩)

theorem admitted_isPrefix (conn : Connection) (l : List Timestamp) : conn.admitted l <+: l := by
  induction l generalizing conn with
  | nil => exact List.prefix_rfl
  | cons now l ih =>
      rw [admitted]
      split
      · exact List.cons_prefix_cons.mpr ⟨rfl, ih _⟩
      · exact List.nil_prefix

theorem admitted_admitted (conn : Connection) (l : List Timestamp) :
    conn.admitted (conn.admitted l) = conn.admitted l := by
  induction l generalizing conn with
  | nil => rfl
  | cons now l ih =>
      rw [admitted]
      split
      · next hok => rw [admitted, if_pos hok, ih]
      · rfl

/-- What is let through of a part is let through of the whole. -/
theorem prefix_admitted (hhead : l <+: l') (hall : conn.admitted l = l) :
    l <+: conn.admitted l' := by
  induction l generalizing conn l' with
  | nil => exact List.nil_prefix
  | cons now l ih =>
      obtain ⟨rest, rfl⟩ := hhead
      rw [List.cons_append, admitted] at *
      split at hall
      · next hok =>
        rw [if_pos hok]
        exact List.cons_prefix_cons.mpr
          ⟨rfl, ih (List.prefix_append l rest) (List.cons.inj hall).2⟩
      · cases hall

/-! ## The window -/

/-- The frames that the counter counts: they stand at the end, they are within one window, and
the first of them opened it unless there are no other ones. -/
theorem exists_current (hsorted : (start :: frames).Pairwise (· ≤ ·)) :
    ∃ old current, frames = old ++ current ∧
      current.length = ((opened start).after frames).framesInWindow ∧
      (∀ t ∈ current, windowStart start frames ≤ t ∧
        t ≤ windowStart start frames + Limits.frameWindowMs) ∧
      (old = [] ∨ ∃ t rest, current = t :: rest ∧
        Limits.frameWindowMs < t - windowStart start old) := by
  induction frames using List.reverseRecOn with
  | nil => exact ⟨[], [], rfl, rfl, List.forall_mem_nil _, .inl rfl⟩
  | append_singleton frames t ih =>
      have hsplit := List.pairwise_append.mp (List.cons_append ▸ hsorted :
        ((start :: frames) ++ [t]).Pairwise (· ≤ ·))
      obtain ⟨old, current, hframes, hlength, hcurrent, hold⟩ := ih hsplit.1
      have hnow : ((opened start).after frames).windowStarted = windowStart start frames :=
        windowStarted_after (opened start) frames
      have hle : windowStart start frames ≤ t :=
        hsplit.2.2 _ (windowStart_mem start frames) t List.mem_cons_self
      have hstart : windowStart start (frames ++ [t]) =
          if Limits.frameWindowMs < t - windowStart start frames then t
          else windowStart start frames := by
        rw [windowStart, List.foldl_append]
        rfl
      rw [after_concat, hstart]
      -- a frame opens a window of its own, or it is counted with those before it
      by_cases hopens : Limits.frameWindowMs < t - windowStart start frames
      · rw [allowFrame_of_lt (hnow ▸ hopens), if_pos hopens]
        refine ⟨frames, [t], rfl, rfl, fun u hu => ?_, .inr ⟨t, [], rfl, hopens⟩⟩
        rw [List.mem_singleton.mp hu]
        exact ⟨Nat.le_refl t, Nat.le_add_right t _⟩
      · rw [allowFrame_of_le (hnow ▸ hopens), if_neg hopens]
        refine ⟨old, current ++ [t], ?_, ?_, fun u hu => ?_, ?_⟩
        · rw [hframes, List.append_assoc]
        · rw [List.length_append, hlength]
          rfl
        · rcases List.mem_append.mp hu with hmem | hmem
          · exact hcurrent u hmem
          · rw [List.mem_singleton.mp hmem]
            exact ⟨hle, Nat.sub_le_iff_le_add'.mp (Nat.le_of_not_lt hopens)⟩
        · refine hold.imp id ?_
          rintro ⟨first, rest, rfl, hfirst⟩
          exact ⟨first, rest ++ [t], rfl, hfirst⟩

end Frame

/-! ## The limit -/

section Limit

variable {start : Timestamp} {frames : List Timestamp}

/-- Everything but the last frame was let through, and the last one if its window has room. -/
theorem Arrivals.admitted_eq (h : Arrivals start frames) {l : List Timestamp} {t : Timestamp}
    (hhead : l ++ [t] <+: frames)
    (hroom : ((opened start).after (l ++ [t])).framesInWindow ≤ Limits.maxFramesPerWindow) :
    (opened start).admitted (l ++ [t]) = l ++ [t] := by
  refine admitted_eq_self_iff.mpr fun before u hu => ?_
  rcases List.prefix_concat_iff.mp hu with heq | hearlier
  · rw [heq]
    exact hroom
  · -- what comes before the last frame of the burst comes before the last one of all
    have hinit : l <+: frames.dropLast := by
      obtain ⟨rest, rfl⟩ := hhead
      rw [List.append_assoc, List.dropLast_append_of_ne_nil (by simp)]
      exact List.prefix_append l _
    exact admitted_eq_self_iff.mp h.served before u (hearlier.trans hinit)

/-- The limiter never refuses too early. -/
theorem Arrivals.noEarlyRefusal (h : Arrivals start frames) : NoEarlyRefusal start frames := by
  intro before t rest hframes hrefused
  subst hframes
  have hsorted := List.pairwise_append.mp
    (show ((start :: before) ++ t :: rest).Pairwise (· ≤ ·) from h.sorted)
  obtain ⟨old, current, hbefore, hlength, hcurrent, -⟩ :=
    exists_current hsorted.1
  have hnow : ((opened start).after before).windowStarted = windowStart start before :=
    windowStarted_after (opened start) before
  have hover : Limits.maxFramesPerWindow <
      (((opened start).after before).allowFrame t).1.framesInWindow := by
    by_contra hfits
    rw [allowFrame_snd.mpr (Nat.le_of_not_lt hfits)] at hrefused
    cases hrefused
  by_cases hopens : Limits.frameWindowMs < t - windowStart start before
  · rw [allowFrame_of_lt (hnow ▸ hopens)] at hover
    have hroom : 1 ≤ Limits.maxFramesPerWindow := by decide
    exact absurd hroom (Nat.not_le_of_lt hover)
  · rw [allowFrame_of_le (hnow ▸ hopens)] at hover
    have hmany : Limits.maxFramesPerWindow ≤ current.length := by
      rw [hlength]
      exact Nat.le_of_lt_succ hover
    have hwithin : within (t - Limits.frameWindowMs) Limits.frameWindowMs current = current := by
      refine within_of_forall fun u hu => ⟨?_, ?_⟩
      · have hstart := Nat.sub_le_iff_le_add.mp (Nat.le_of_not_lt hopens)
        have hlate := Nat.add_le_add_left (hcurrent u hu).1 Limits.frameWindowMs
        exact Nat.sub_le_iff_le_add'.mpr (Nat.le_trans hstart hlate)
      · have hle : u ≤ t := hsorted.2.2 u
          (List.mem_cons_of_mem start (hbefore ▸ List.mem_append_right old hu)) t
          List.mem_cons_self
        exact Nat.le_trans hle (Nat.sub_le_iff_le_add.mp (Nat.le_refl _))
    rw [hbefore, within_append, List.length_append, hwithin]
    exact Nat.le_add_left_of_le hmany

/-- More than the limit gets through a window of time exactly where a burst straddles the
opening of a window. -/
theorem sparse_admitted_iff (h : Arrivals start frames) :
    Sparse Limits.frameWindowMs Limits.maxFramesPerWindow ((opened start).admitted frames) ↔
      NoStraddle start frames := by
  have hframes : frames.Pairwise (· ≤ ·) := (List.pairwise_cons.mp h.sorted).2
  have hhead := admitted_isPrefix (opened start) frames
  rw [sparse_iff (hframes.sublist hhead.sublist)]
  constructor
  · intro hspread before early t late rest hsplit hlength hearly hopens
    rw [List.length_append, List.length_cons] at hlength
    have hlate : late.length + 1 ≤ Limits.maxFramesPerWindow := by
      have hsome := List.length_pos_iff.mpr hearly
      omega
    -- the window takes what comes after its opening, so the whole burst is let through
    have hroom : ((opened start).after (before ++ (early ++ t :: late))).framesInWindow ≤
        Limits.maxFramesPerWindow := by
      have hsame : before ++ (early ++ t :: late) = (before ++ early ++ [t]) ++ late := by simp
      rw [hsame, after_append, after_concat, allowFrame_of_lt
        ((windowStarted_after (opened start) (before ++ early)).symm ▸ hopens)]
      refine Nat.le_trans (framesInWindow_after_le _ late) ?_
      rw [Nat.add_comm]
      exact hlate
    have hall : (opened start).admitted (before ++ (early ++ t :: late)) =
        before ++ (early ++ t :: late) := by
      obtain ⟨l, last, hl⟩ : ∃ l last, before ++ (early ++ t :: late) = l ++ [last] :=
        (List.eq_nil_or_concat' _).resolve_left (by simp)
      have hpart : l ++ [last] <+: frames := by
        rw [hsplit, hl]
        exact List.prefix_append _ rest
      rw [hl] at hroom ⊢
      exact h.admitted_eq hpart hroom
    obtain ⟨more, hmore⟩ := prefix_admitted (hsplit ▸ List.prefix_append _ rest) hall
    refine hspread before (early ++ t :: late) more ?_ ?_
    · rw [← hmore]
    · rw [List.length_append, List.length_cons]
      exact hlength
  · intro hstraddle before burst rest hsplit hlength
    have hin : before ++ burst <+: (opened start).admitted frames :=
      hsplit ▸ List.prefix_append _ rest
    have hpart : before ++ burst <+: frames := hin.trans hhead
    obtain ⟨tail, hframes⟩ := hpart
    have hsorted : (start :: (before ++ burst)).Pairwise (· ≤ ·) := by
      refine h.sorted.sublist ?_
      rw [← hframes]
      exact (List.sublist_append_left _ tail).cons_cons start
    obtain ⟨old, current, hcurrent, hcount, -, hopened⟩ := exists_current hsorted
    -- the frames of the last window do not fill the burst
    have hfits : current.length ≤ Limits.maxFramesPerWindow := by
      obtain ⟨l, last, hl⟩ : ∃ l last, before ++ burst = l ++ [last] := by
        refine (List.eq_nil_or_concat' _).resolve_left fun hnil => ?_
        rw [(List.append_eq_nil_iff.mp hnil).2] at hlength
        cases hlength
      rw [hcount, hl]
      rw [hl] at hin
      exact admitted_eq_self_iff.mp (admitted_admitted (opened start) frames) l last hin
    rcases List.append_eq_append_iff.mp hcurrent with ⟨early, hold, hburst⟩ | ⟨more, -, hmore⟩
    · have hearly : early ≠ [] := by
        rintro rfl
        rw [hburst, List.nil_append] at hlength
        omega
      obtain ⟨t, late, rfl, hopens⟩ := hopened.resolve_left (by rw [hold]; simp [hearly])
      rw [hburst] at hframes hlength ⊢
      exact hstraddle before early t late tail hframes.symm hlength hearly (hold ▸ hopens)
    · rw [hmore, List.length_append] at hfits
      omega

/-- What the comment of the limiter says holds of the arrivals that straddle no opening. -/
theorem allowFrame_sliding_iff (h : Arrivals start frames) :
    (Sparse Limits.frameWindowMs Limits.maxFramesPerWindow ((opened start).admitted frames) ∧
      NoEarlyRefusal start frames) ↔ NoStraddle start frames := by
  rw [sparse_admitted_iff h]
  exact and_iff_left h.noEarlyRefusal

end Limit

/-- A heartbeat every 30 seconds. -/
theorem heartbeats_sliding :
    (Sparse Limits.frameWindowMs Limits.maxFramesPerWindow
        ((opened 0).admitted [30000, 60000, 90000]) ∧
      NoEarlyRefusal 0 [30000, 60000, 90000]) ↔ NoStraddle 0 [30000, 60000, 90000] :=
  allowFrame_sliding_iff ⟨by decide, by decide⟩

/-- 60 frames within a millisecond, as the first window of a connection ends. -/
def straddling : List Timestamp :=
  List.replicate 30 60000 ++ List.replicate 30 60001

theorem straddling_admitted :
    Arrivals 0 straddling ∧
      ¬(Sparse Limits.frameWindowMs Limits.maxFramesPerWindow ((opened 0).admitted straddling) ∧
        NoEarlyRefusal 0 straddling) := by
  refine ⟨⟨by decide, by decide⟩, fun h => ?_⟩
  exact absurd (h.1 60000) (by decide)

end Connection
end Serve
end Gateway
end Ldktela
