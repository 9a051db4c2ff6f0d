import Ldktela.Camera.Formats
import Ldktela.Lib.Runs
import Mathlib.Algebra.Order.Round
import Mathlib.Data.Rat.Floor
import Mathlib.Tactic.Linarith
import Mathlib.Tactic.Positivity

/-!
# From a captured frame to the encoder

`fit` and `even` of `desktop/src-tauri/src/capture.rs`, and `Frames::deliver` of
`camera/mod.rs`, which sends every frame through them.  The source computes the scale in
`f64`; here it is the rational number that it approximates.

The buffers are code outside the repository, so they are a family of types, one for each
size: a cached buffer is then used again only for frames of its own size.
-/

namespace Ldktela
namespace Camera

/-- Rounds down to an even number: NV12 keeps one chroma sample for each block of 2x2. -/
def even (value : Nat) : Nat :=
  value - value % 2

/-- What `source` is multiplied by.  Never more than 1: no upscaling. -/
def scale (source max : Size) : ℚ :=
  min (min (max.width / source.width) (max.height / source.height)) 1

/-- One side of the fitted box.  On halves `round` goes up, as `f64::round` does on the
positive numbers. -/
def side (length : Nat) (scale : ℚ) : Nat :=
  even ((round (length * scale)).toNat.max 2)

/-- The largest box with even sides that fits `source` inside `max` without changing its
shape. -/
def fit (source max : Size) : Size :=
  if source.width = 0 ∨ source.height = 0 then ⟨0, 0⟩
  else ⟨side source.width (scale source max), side source.height (scale source max)⟩

/-! ## One side -/

section Side

variable {n bound : Nat} {length : Nat} {s : ℚ}

theorem even_mod_two (n : Nat) : even n % 2 = 0 := by
  simp only [even]
  omega

theorem even_le (n : Nat) : even n ≤ n :=
  Nat.sub_le n _

theorem le_even_add_one (n : Nat) : n ≤ even n + 1 := by
  simp only [even]
  omega

theorem side_mod_two (length : Nat) (s : ℚ) : side length s % 2 = 0 :=
  even_mod_two _

theorem two_le_side (length : Nat) (s : ℚ) : 2 ≤ side length s := by
  have hmax : 2 ≤ (round (length * s)).toNat.max 2 := Nat.le_max_right _ _
  have hnear := le_even_add_one ((round (length * s)).toNat.max 2)
  have heven := even_mod_two ((round (length * s)).toNat.max 2)
  simp only [side]
  omega

/-- Rounding does not pass a whole number that bounds the scaled side. -/
theorem round_le_of_le {x : ℚ} (h : x ≤ bound) : round x ≤ bound := by
  rw [round_eq, ← Int.lt_add_one_iff, Int.floor_lt]
  push_cast
  linarith

theorem side_le (h : length * s ≤ bound) (hbound : 2 ≤ bound) : side length s ≤ bound := by
  have hround : (round ((length : ℚ) * s)).toNat ≤ bound :=
    Int.toNat_le.mpr (round_le_of_le h)
  exact (even_le _).trans (Nat.max_le.mpr ⟨hround, hbound⟩)

/-- Half is lost to rounding, at most one to evenness, and what is raised to 2 was
positive. -/
theorem abs_side_sub_lt (h : 0 < length * s) : |(side length s : ℚ) - length * s| < 2 := by
  have hround := abs_le.mp (abs_sub_round ((length : ℚ) * s))
  have hnonneg : 0 ≤ round ((length : ℚ) * s) := by
    rw [round_eq, Int.floor_nonneg]
    linarith
  obtain ⟨r, hr⟩ := Int.eq_ofNat_of_zero_le hnonneg
  have hside : side length s = even (r.max 2) := by simp only [side, hr, Int.toNat_natCast]
  rw [hr, Int.cast_natCast] at hround
  have hle := even_le (r.max 2)
  have hge := le_even_add_one (r.max 2)
  rw [hside, abs_lt]
  rcases Nat.lt_or_ge r 2 with hsmall | hlarge
  · -- raised: the even side is 2 and the scaled side is below 3/2
    have htwo : even (r.max 2) = 2 := by
      rw [show r.max 2 = 2 from Nat.max_eq_right hsmall.le]
      rfl
    have hone : (r : ℚ) ≤ 1 := by exact_mod_cast Nat.le_of_lt_succ hsmall
    rw [htwo]
    constructor <;> push_cast <;> linarith
  · rw [show r.max 2 = r from Nat.max_eq_left hlarge] at *
    have hle' : (even r : ℚ) ≤ r := by exact_mod_cast hle
    have hge' : (r : ℚ) ≤ even r + 1 := by exact_mod_cast hge
    constructor <;> linarith

end Side

/-! ## The fitted box -/

section Scale

variable {source max : Size}

theorem scale_pos (hwidth : 0 < source.width) (hheight : 0 < source.height)
    (hmaxWidth : 0 < max.width) (hmaxHeight : 0 < max.height) : 0 < scale source max := by
  have hw : (0 : ℚ) < max.width / source.width := by positivity
  have hh : (0 : ℚ) < max.height / source.height := by positivity
  exact lt_min (lt_min hw hh) one_pos

theorem scale_le_one : scale source max ≤ 1 :=
  min_le_right _ _

theorem mul_scale_le_self (length : Nat) : length * scale source max ≤ length :=
  mul_le_of_le_one_right (Nat.cast_nonneg length) scale_le_one

theorem width_mul_scale_le (hwidth : 0 < source.width) :
    source.width * scale source max ≤ max.width := by
  have hpos : (0 : ℚ) < source.width := Nat.cast_pos.mpr hwidth
  have hle : scale source max ≤ max.width / source.width :=
    (min_le_left _ _).trans (min_le_left _ _)
  calc source.width * scale source max
      ≤ source.width * (max.width / source.width) := mul_le_mul_of_nonneg_left hle hpos.le
    _ = max.width := mul_div_cancel₀ _ hpos.ne'

theorem height_mul_scale_le (hheight : 0 < source.height) :
    source.height * scale source max ≤ max.height := by
  have hpos : (0 : ℚ) < source.height := Nat.cast_pos.mpr hheight
  have hle : scale source max ≤ max.height / source.height :=
    (min_le_left _ _).trans (min_le_right _ _)
  calc source.height * scale source max
      ≤ source.height * (max.height / source.height) := mul_le_mul_of_nonneg_left hle hpos.le
    _ = max.height := mul_div_cancel₀ _ hpos.ne'

end Scale

/-- A side that the encoder takes, within both bounds and close to the exact one. -/
structure SideFits (fitted source max : Nat) (exact : ℚ) : Prop where
  even : fitted % 2 = 0
  two_le : 2 ≤ fitted
  le_max : fitted ≤ max
  le_source : fitted ≤ source
  near : |(fitted : ℚ) - exact| < 2

theorem sideFits_side {length max : Nat} {s : ℚ} (hlength : 2 ≤ length) (hmax : 2 ≤ max)
    (hpos : 0 < s) (hle : length * s ≤ max) (hself : length * s ≤ length) :
    SideFits (side length s) length max (length * s) := by
  have hlengthPos : (0 : ℚ) < length := Nat.cast_pos.mpr (by omega)
  exact {
    even := side_mod_two length s
    two_le := two_le_side length s
    le_max := side_le hle hmax
    le_source := side_le hself hlength
    near := abs_side_sub_lt (mul_pos hlengthPos hpos) }

theorem fit_of_pos {source max : Size} (hwidth : 0 < source.width) (hheight : 0 < source.height) :
    fit source max =
      ⟨side source.width (scale source max), side source.height (scale source max)⟩ :=
  if_neg (not_or.mpr ⟨hwidth.ne', hheight.ne'⟩)

theorem sideFits_fit {source max : Size} (hwidth : 2 ≤ source.width) (hheight : 2 ≤ source.height)
    (hmaxWidth : 2 ≤ max.width) (hmaxHeight : 2 ≤ max.height) :
    SideFits (fit source max).width source.width max.width (source.width * scale source max) ∧
    SideFits (fit source max).height source.height max.height
      (source.height * scale source max) := by
  have hw : 0 < source.width := by omega
  have hh : 0 < source.height := by omega
  have hpos : 0 < scale source max := scale_pos hw hh (by omega) (by omega)
  rw [fit_of_pos hw hh]
  exact ⟨sideFits_side hwidth hmaxWidth hpos (width_mul_scale_le hw) (mul_scale_le_self _),
    sideFits_side hheight hmaxHeight hpos (height_mul_scale_le hh) (mul_scale_le_self _)⟩

/-- A fitted box has sides that the encoder takes and the shape of its source.  Even a side
that is raised to 2 stays within 2 of the exact one. -/
theorem fit_keeps_shape (source max : Size) :
    (2 ≤ source.width → 2 ≤ source.height → 2 ≤ max.width → 2 ≤ max.height →
      SideFits (fit source max).width source.width max.width (source.width * scale source max) ∧
      SideFits (fit source max).height source.height max.height
        (source.height * scale source max)) ∧
    (source.width = 0 ∨ source.height = 0 → fit source max = ⟨0, 0⟩) :=
  ⟨sideFits_fit, fun hzero => if_pos hzero⟩

theorem fit_keeps_shape_ultrawide :
    SideFits (fit ⟨3440, 1440⟩ ⟨1920, 1080⟩).width 3440 1920
      (3440 * scale ⟨3440, 1440⟩ ⟨1920, 1080⟩) ∧
    SideFits (fit ⟨3440, 1440⟩ ⟨1920, 1080⟩).height 1440 1080
      (1440 * scale ⟨3440, 1440⟩ ⟨1920, 1080⟩) :=
  (fit_keeps_shape ⟨3440, 1440⟩ ⟨1920, 1080⟩).1 (by decide) (by decide) (by decide) (by decide)

example : fit ⟨3440, 1440⟩ ⟨1920, 1080⟩ = ⟨1920, 804⟩ := by decide +kernel

/-! ## Delivering a frame -/

/-- What the buffers of the encoder do. -/
structure Buffers (Buffer : Size → Type) where
  new : ∀ size, Buffer size
  scale : ∀ {size}, Buffer size → ∀ target, Buffer target

/-- What a capture thread keeps between two frames. -/
structure Frames (Buffer : Size → Type) where
  ceiling : Size
  buffer : Option (Sigma Buffer)
  produced : Nat
  delivered : Nat

/-- What one frame does: the state it leaves, what the encoder is given and what the preview
is offered. -/
structure Delivery (Buffer : Size → Type) where
  frames : Frames Buffer
  captured : Option (Sigma Buffer)
  offered : Option (Sigma Buffer)

namespace Frames

variable {Buffer : Size → Type} (buffers : Buffers Buffer)

/-- The buffer to write into: the one at hand when it has the size of the frame. -/
def reuse (frames : Frames Buffer) (size : Size) : Buffer size :=
  match frames.buffer with
  | some ⟨had, buffer⟩ => if h : had = size then h ▸ buffer else buffers.new size
  | none => buffers.new size

/-- `write` answers false for a frame that cannot be used: nothing is sent then, and only
the buffer stays. -/
def deliver (accepts : Sigma Buffer → Bool) (frames : Frames Buffer) (size : Size)
    (write : Buffer size → Bool × Buffer size) : Delivery Buffer :=
  if size.width < 2 ∨ size.height < 2 then ⟨frames, none, none⟩
  else
    let (usable, nv12) := write (frames.reuse buffers size)
    let frames := { frames with buffer := some ⟨size, nv12⟩ }
    if usable = false then ⟨frames, none, none⟩
    else
      -- the preview gets the frame as it was captured, the encoder the fitted one
      let target := fit size frames.ceiling
      let scaled : Sigma Buffer := ⟨target, buffers.scale nv12 target⟩
      { frames := { frames with
          produced := frames.produced + 1
          delivered := if accepts scaled then frames.delivered + 1 else frames.delivered }
        captured := some scaled
        offered := some ⟨size, nv12⟩ }

variable {buffers} {accepts : Sigma Buffer → Bool} {frames : Frames Buffer} {size : Size}
  {write : Buffer size → Bool × Buffer size}

theorem deliver_ceiling :
    (deliver buffers accepts frames size write).frames.ceiling = frames.ceiling := by
  simp only [deliver]
  split_ifs <;> rfl

/-- Only a frame with two usable sides reaches the encoder, and it reaches it fitted. -/
theorem deliver_captured {scaled : Sigma Buffer}
    (h : (deliver buffers accepts frames size write).captured = some scaled) :
    2 ≤ size.width ∧ 2 ≤ size.height ∧ scaled.1 = fit size frames.ceiling := by
  by_cases hsmall : size.width < 2 ∨ size.height < 2
  · rw [deliver, if_pos hsmall] at h
    cases h
  · obtain ⟨hwidth, hheight⟩ := not_or.mp hsmall
    simp only [deliver, if_neg hsmall] at h
    refine ⟨Nat.not_lt.mp hwidth, Nat.not_lt.mp hheight, ?_⟩
    split at h
    · cases h
    · rw [← Option.some.inj h]

/-- A frame of a capture: its size and what its writer does to the buffer. -/
def step (buffers : Buffers Buffer) (accepts : Sigma Buffer → Bool) (frames : Frames Buffer)
    (frame : (size : Size) × (Buffer size → Bool × Buffer size)) : Frames Buffer :=
  (deliver buffers accepts frames frame.1 frame.2).frames

/-- Whatever a capture delivers, the encoder is given frames that it accepts and no others. -/
theorem eachStep_sideFits (hwidth : 2 ≤ frames.ceiling.width) (hheight : 2 ≤ frames.ceiling.height)
    (run : List ((size : Size) × (Buffer size → Bool × Buffer size))) :
    Runs.EachStep (step buffers accepts) (fun frames frame => ∀ scaled,
      (deliver buffers accepts frames frame.1 frame.2).captured = some scaled →
        SideFits scaled.1.width frame.1.width frames.ceiling.width
          (frame.1.width * Camera.scale frame.1 frames.ceiling) ∧
        SideFits scaled.1.height frame.1.height frames.ceiling.height
          (frame.1.height * Camera.scale frame.1 frames.ceiling)) frames run := by
  induction run generalizing frames with
  | nil => trivial
  | cons frame run ih =>
      -- the ceiling is set once for a capture, so the rest of the run has the same one
      have hceiling : (step buffers accepts frames frame).ceiling = frames.ceiling :=
        deliver_ceiling
      refine ⟨fun scaled h => ?_, ih (hceiling ▸ hwidth) (hceiling ▸ hheight)⟩
      obtain ⟨hw, hh, hfit⟩ := deliver_captured h
      rw [hfit]
      exact sideFits_fit hw hh hwidth hheight

end Frames
end Camera
end Ldktela
