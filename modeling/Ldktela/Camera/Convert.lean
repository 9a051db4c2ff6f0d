import Mathlib.Algebra.Group.Int.Defs
import Mathlib.Algebra.Group.Nat.Defs
import Ldktela.Camera.Formats
import Ldktela.Lib.Rows

/-!
# Camera pixel formats into NV12

`desktop/src-tauri/src/camera/convert.rs`.  A frame is the bytes of a buffer with the
distance between two of its rows; the converter writes it into the two planes of an
NV12 buffer.  An index that is out of bounds is `none`, so a call that answers has
stayed within the source and the destination.

Numbers are natural numbers here.  What the two callers pass leaves no product of a pitch
and a height outside of `usize` (`needed_rawOf_lt` and `needed_shapeOf_lt` of
`Camera.Reading`), and a frame that is accepted lies in memory, with fewer than 2³¹ rows and
columns, so the casts to 32 bits keep them.  The two functions of libyuv are a parameter.
-/

namespace Ldktela
namespace Camera

open Rows

namespace Pixels

/-- Bytes one frame occupies with rows `pitch` apart. -/
def needed (kind : Pixels) (pitch height : Nat) : Nat :=
  match kind with
  | .nv12 => pitch * height + pitch * ((height + 1) / 2)
  | .i420 => pitch * height + 2 * (pitch / 2) * ((height + 1) / 2)
  | .yuy2 | .uyvy | .rgb32 | .rgb24 => pitch * height

/-- 64 bits hold it, if the one is an `i32` and the other a `u32`. -/
theorem needed_lt (kind : Pixels) {pitch height : Nat} (hpitch : pitch ≤ 2 ^ 31)
    (hheight : height < 2 ^ 32) : kind.needed pitch height < 2 ^ 64 := by
  have hluma : pitch * height ≤ 2 ^ 31 * (2 ^ 32 - 1) :=
    Nat.mul_le_mul hpitch (Nat.le_sub_one_of_lt hheight)
  have hchroma : pitch * ((height + 1) / 2) ≤ 2 ^ 31 * 2 ^ 31 :=
    Nat.mul_le_mul hpitch (by omega)
  have hhalf : 2 * (pitch / 2) * ((height + 1) / 2) ≤ pitch * ((height + 1) / 2) :=
    Nat.mul_le_mul_right _ (Nat.mul_div_le pitch 2)
  cases kind <;> simp only [needed] <;> omega

/-- Whether this layout can be stored bottom-up.  Everything packed can. -/
def canBeBottomUp : Pixels → Bool
  | .nv12 | .i420 => false
  | .yuy2 | .uyvy | .rgb32 | .rgb24 => true

/-- The narrowest row this layout allows for `width` pixels. -/
def minimumPitch (kind : Pixels) (width : Nat) : Nat :=
  match kind with
  | .nv12 | .i420 => width
  | .yuy2 | .uyvy => width * 2
  | .rgb32 => width * 4
  | .rgb24 => width * 3

end Pixels

/-- One frame as it sits in memory. -/
structure Raw where
  /-- Starts at the row that is first in memory, whichever way up that is. -/
  data : List UInt8
  /-- Bytes from one row to the next in memory. -/
  pitch : Nat
  /-- The first row in memory is the bottom of the picture. -/
  bottomUp : Bool

structure NV12Buffer where
  y : List UInt8
  uv : List UInt8
  strideY : Nat
  strideUv : Nat
deriving DecidableEq

/-- What `yuv_helper` does to the planes of a buffer. -/
structure YuvHelper where
  /-- The three planes, each with its stride. -/
  i420ToNv12 : List UInt8 → Nat → List UInt8 → Nat → List UInt8 → Nat → NV12Buffer →
    Nat → Nat → NV12Buffer
  /-- The pixels with their stride, and a height that is negative for bottom-up. -/
  argbToNv12 : List UInt8 → Nat → NV12Buffer → Nat → Int → NV12Buffer

/-- Converts frames of one layout, reusing its scratch between them. -/
structure Converter where
  kind : Pixels
  scratch : List UInt8

def Converter.new (kind : Pixels) : Converter := ⟨kind, []⟩

/-- What `write` answers and leaves behind. -/
structure Written where
  ok : Bool
  converter : Converter
  dst : NV12Buffer

/-- Row-by-row copy of an NV12 frame. -/
def nv12Into (source : List UInt8) (pitch : Nat) (size : Size) (dst : NV12Buffer) :
    Option (Bool × NV12Buffer) :=
  let rows := size.height
  let width := size.width
  let chromaRows := rows / 2
  if pitch < width ∨ source.length < pitch * rows + pitch * chromaRows then some (false, dst)
  else if dst.strideY < width ∨ dst.strideUv < width then some (false, dst)
  else if dst.y.length < dst.strideY * rows ∨ dst.uv.length < dst.strideUv * chromaRows then
    some (false, dst)
  else do
    let y ← (List.range rows).foldlM (fun y row => do
      let line ← slice source (row * pitch) (row * pitch + width)
      splice y (row * dst.strideY) (row * dst.strideY + width) line) dst.y
    let chroma := pitch * rows
    let uv ← (List.range chromaRows).foldlM (fun uv row => do
      let line ← slice source (chroma + row * pitch) (chroma + row * pitch + width)
      splice uv (row * dst.strideUv) (row * dst.strideUv + width) line) dst.uv
    some (true, { dst with y, uv })

/-- Where luma, U and V sit inside each four-byte pixel pair. -/
structure Offsets where
  luma : Nat
  u : Nat
  v : Nat

/-- The row of the picture as it is stored. -/
def Raw.stored (raw : Raw) (rows row : Nat) : Nat :=
  if raw.bottomUp then rows - 1 - row else row

/-- Byte `i` of a chroma row: the pairs in turn, U before V. -/
def Offsets.chroma (offsets : Offsets) (i : Nat) : Nat :=
  i / 2 * 4 + if i % 2 = 0 then offsets.u else offsets.v

/-- Row `row` of the picture, wherever it is in memory.  Chroma is taken from the even
rows and the odd ones are dropped. -/
def packed422Row (raw : Raw) (size : Size) (offsets : Offsets) (dst : NV12Buffer) (row : Nat) :
    Option NV12Buffer := do
  let width := size.width
  let stored := raw.stored size.height row
  let source ← slice raw.data (stored * raw.pitch) (stored * raw.pitch + width * 2)
  let luma ← (List.range width).mapM fun pixel => source[pixel * 2 + offsets.luma]?
  let y ← splice dst.y (row * dst.strideY) (row * dst.strideY + width) luma
  if row % 2 ≠ 0 then some { dst with y }
  else do
    let pairs ← (List.range (width / 2 * 2)).mapM fun i => source[offsets.chroma i]?
    let uv ← splice dst.uv (row / 2 * dst.strideUv) (row / 2 * dst.strideUv + width) pairs
    some { dst with y, uv }

/-- Packed 4:2:2 into NV12. -/
def packed422Into (raw : Raw) (size : Size) (offsets : Offsets) (dst : NV12Buffer) :
    Option (Bool × NV12Buffer) :=
  if raw.pitch < size.width * 2 ∨ raw.data.length < raw.pitch * size.height then some (false, dst)
  else if dst.strideY < size.width ∨ dst.strideUv < size.width then some (false, dst)
  else do
    let dst ← (List.range size.height).foldlM (packed422Row raw size offsets) dst
    some (true, dst)

/-- B, G, R becomes B, G, R, X. -/
def widen : List UInt8 → List UInt8
  | b :: g :: r :: rest => b :: g :: r :: 0xFF :: widen rest
  | _ => []

/-- `Vec::resize`. -/
def resize (scratch : List UInt8) (length : Nat) : List UInt8 :=
  scratch.take length ++ List.replicate (length - scratch.length) 0

/-- The rows of an RGB24 frame, widened in the order of the memory. -/
def widenInto (raw : Raw) (size : Size) (scratch : List UInt8) : Option (List UInt8) :=
  let widened := size.width * 4
  (List.range size.height).foldlM (fun scratch row => do
    let line ← slice raw.data (row * raw.pitch) (row * raw.pitch + size.width * 3)
    splice scratch (row * widened) ((row + 1) * widened) (widen line))
    (resize scratch (widened * size.height))

/-- libyuv reads a source bottom-up when the height is negative. -/
def Raw.signedHeight (raw : Raw) (size : Size) : Int :=
  if raw.bottomUp then -(size.height : Int) else size.height

/-- The guards of `write`: the frame is refused. -/
def refuses (kind : Pixels) (raw : Raw) (size : Size) (dst : NV12Buffer) : Bool :=
  if size.width < 2 ∨ size.height < 2 ∨ size.width % 2 ≠ 0 ∨ size.height % 2 ≠ 0 then true
  else if raw.bottomUp && !kind.canBeBottomUp then true
  else if raw.pitch < kind.minimumPitch size.width ∨
      raw.data.length < kind.needed raw.pitch size.height then true
  else decide (dst.y.length < dst.strideY * size.height ∨
    dst.uv.length < dst.strideUv * (size.height / 2))

/-- Writes one frame into `dst`; the answer is false if it cannot be read. -/
def Converter.write (yuv : YuvHelper) (converter : Converter) (raw : Raw) (size : Size)
    (dst : NV12Buffer) : Option Written :=
  if refuses converter.kind raw size dst then some ⟨false, converter, dst⟩
  else
    let rows := size.height
    let pitch := raw.pitch
    match converter.kind with
    | .nv12 => do
        let written ← nv12Into raw.data pitch size dst
        some ⟨written.1, converter, written.2⟩
    | .i420 => do
        let chromaPitch := pitch / 2
        let luma := pitch * rows
        let chroma := chromaPitch * ((rows + 1) / 2)
        let y ← slice raw.data 0 luma
        let u ← slice raw.data luma (luma + chroma)
        let v ← slice raw.data (luma + chroma) (luma + chroma + chroma)
        some ⟨true, converter,
          yuv.i420ToNv12 y pitch u chromaPitch v chromaPitch dst size.width rows⟩
    | .yuy2 => do
        -- `Y0 U Y1 V` per pixel pair
        let written ← packed422Into raw size ⟨0, 1, 3⟩ dst
        some ⟨written.1, converter, written.2⟩
    | .uyvy => do
        let written ← packed422Into raw size ⟨1, 0, 2⟩ dst
        some ⟨written.1, converter, written.2⟩
    | .rgb32 => do
        let pixels ← slice raw.data 0 (pitch * rows)
        some ⟨true, converter,
          yuv.argbToNv12 pixels pitch dst size.width (raw.signedHeight size)⟩
    | .rgb24 => do
        let scratch ← widenInto raw size converter.scratch
        some ⟨true, { converter with scratch },
          yuv.argbToNv12 scratch (size.width * 4) dst size.width (raw.signedHeight size)⟩

/-! ## What is written -/

/-- The planes of a buffer hold a picture of the size. -/
structure NV12Buffer.Holds (dst : NV12Buffer) (size : Size) : Prop where
  strideY : size.width ≤ dst.strideY
  strideUv : size.width ≤ dst.strideUv
  y : dst.strideY * size.height ≤ dst.y.length
  uv : dst.strideUv * (size.height / 2) ≤ dst.uv.length

/-- The converter can read the frame. -/
structure Raw.Readable (raw : Raw) (kind : Pixels) (size : Size) : Prop where
  width : 2 ≤ size.width ∧ size.width % 2 = 0
  height : 2 ≤ size.height ∧ size.height % 2 = 0
  upright : raw.bottomUp = true → kind.canBeBottomUp = true
  pitch : kind.minimumPitch size.width ≤ raw.pitch
  data : kind.needed raw.pitch size.height ≤ raw.data.length

/-- The planes of the destination are too short for a picture of the size. -/
def NV12Buffer.Short (dst : NV12Buffer) (size : Size) : Prop :=
  dst.y.length < dst.strideY * size.height ∨ dst.uv.length < dst.strideUv * (size.height / 2)

theorem NV12Buffer.Holds.not_short {dst : NV12Buffer} {size : Size} (h : dst.Holds size) :
    ¬ dst.Short size :=
  not_or.mpr ⟨Nat.not_lt.mpr h.y, Nat.not_lt.mpr h.uv⟩

/-- The guards let through the frames that can be read, for a destination with room. -/
theorem not_refuses_iff {kind : Pixels} {raw : Raw} {size : Size} {dst : NV12Buffer} :
    ¬ refuses kind raw size dst = true ↔ raw.Readable kind size ∧ ¬ dst.Short size := by
  unfold refuses NV12Buffer.Short
  constructor
  · intro h
    split at h
    · exact absurd rfl h
    · next hsides =>
        split at h
        · exact absurd rfl h
        · next hupright =>
            split at h
            · exact absurd rfl h
            · next hlong =>
                refine ⟨⟨by omega, by omega, ?_, by omega, by omega⟩, ?_⟩
                · simpa using hupright
                · simpa using h
  · rintro ⟨⟨hwidth, hheight, hupright, hpitch, hdata⟩, hshort⟩
    have hupright' : ¬ (raw.bottomUp && !kind.canBeBottomUp) = true := by simpa using hupright
    rw [if_neg (by omega), if_neg hupright', if_neg (by omega), decide_eq_true_iff]
    exact hshort

/-- The planes of `dst` with the picture of the two contents written into them. -/
structure Wrote (size : Size) (luma chroma : Nat → Nat → Option UInt8)
    (dst dst' : NV12Buffer) : Prop where
  strideY : dst'.strideY = dst.strideY
  strideUv : dst'.strideUv = dst.strideUv
  y : Filled dst.y dst'.y dst.strideY size.width luma size.height
  uv : Filled dst.uv dst'.uv dst.strideUv size.width chroma (size.height / 2)

section Into

variable {size : Size} {dst : NV12Buffer}

/-- A row that lies in memory, with `used` of its bytes asked for. -/
theorem row_lt {pitch rows row used length : Nat} (hrow : row < rows) (hused : used ≤ pitch)
    (hlength : pitch * rows ≤ length) : row * pitch + used ≤ length := by
  have hend := row_end_le pitch hrow
  rw [Nat.mul_comm rows pitch] at hend
  omega

/-- Copying rows from `base` on fills a plane. -/
theorem copyRows_filled {source plane : List UInt8} {pitch stride width rows : Nat} (base : Nat)
    (hpitch : width ≤ pitch) (hstride : width ≤ stride)
    (hsource : base + pitch * rows ≤ source.length) (hplane : stride * rows ≤ plane.length) :
    ∃ plane', ((List.range rows).foldlM (fun plane row => do
        let line ← slice source (base + row * pitch) (base + row * pitch + width)
        splice plane (row * stride) (row * stride + width) line) plane) = some plane' ∧
      Filled plane plane' stride width (fun row x => source[base + row * pitch + x]?) rows := by
  apply foldlM_range (I := fun n plane' =>
    Filled plane plane' stride width (fun row x => source[base + row * pitch + x]?) n)
  · exact filled_zero
  · intro row plane' hrow hfilled
    have hstart : row * pitch + width ≤ pitch * rows := row_lt hrow hpitch le_rfl
    have hfits : base + row * pitch + width ≤ source.length := by omega
    have hroom : row * stride + width ≤ plane.length := row_lt hrow hstride hplane
    have hlength : ((source.drop (base + row * pitch)).take
        (base + row * pitch + width - (base + row * pitch))).length = width := by
      rw [length_of_slice hfits]
      omega
    obtain ⟨next, hnext, hfilled'⟩ := hfilled.splice hstride hlength
      (fun x hx => getElem?_slice (by omega)) hroom le_rfl hroom
    refine ⟨next, ?_, hfilled'⟩
    rw [slice_eq_some (by omega) hfits]
    exact hnext

theorem nv12Into_wrote {source : List UInt8} {pitch : Nat} (hdst : dst.Holds size)
    (hpitch : size.width ≤ pitch)
    (hsource : pitch * size.height + pitch * (size.height / 2) ≤ source.length) :
    ∃ dst', nv12Into source pitch size dst = some (true, dst') ∧
      Wrote size (fun row x => source[row * pitch + x]?)
        (fun row x => source[pitch * size.height + row * pitch + x]?) dst dst' := by
  have hy := hdst.y
  have huv := hdst.uv
  have hstrideY := hdst.strideY
  have hstrideUv := hdst.strideUv
  obtain ⟨y, hrunY, hfilledY⟩ := copyRows_filled 0 hpitch hstrideY
    (by omega : 0 + pitch * size.height ≤ source.length) hy
  obtain ⟨uv, hrunUv, hfilledUv⟩ := copyRows_filled _ hpitch hstrideUv hsource huv
  simp only [Nat.zero_add] at hrunY hfilledY
  refine ⟨{ dst with y, uv }, ?_, ⟨rfl, rfl, hfilledY, hfilledUv⟩⟩
  unfold nv12Into
  dsimp only
  rw [if_neg (by omega), if_neg (by omega), if_neg (by omega), hrunY, Option.bind_eq_bind,
    Option.bind_some, hrunUv, Option.bind_some]

/-- Every byte that the offsets name is in its pixel pair. -/
structure Offsets.InPair (offsets : Offsets) : Prop where
  luma : offsets.luma < 2
  u : offsets.u < 4
  v : offsets.v < 4

theorem Offsets.InPair.chroma_lt {offsets : Offsets} (h : offsets.InPair) {width i : Nat}
    (hi : i < width / 2 * 2) : offsets.chroma i < width * 2 := by
  have hu := h.u
  have hv := h.v
  unfold Offsets.chroma
  split
  · omega
  · omega

theorem Raw.stored_lt (raw : Raw) {rows row : Nat} (hrow : row < rows) :
    raw.stored rows row < rows := by
  unfold Raw.stored
  split
  · omega
  · exact hrow

/-- The luma bytes of a packed frame, by row of the picture. -/
def Raw.luma422 (raw : Raw) (size : Size) (offsets : Offsets) (row x : Nat) : Option UInt8 :=
  raw.data[raw.stored size.height row * raw.pitch + (x * 2 + offsets.luma)]?

/-- The chroma bytes of a packed frame, by pair of rows of the picture. -/
def Raw.chroma422 (raw : Raw) (size : Size) (offsets : Offsets) (row i : Nat) : Option UInt8 :=
  raw.data[raw.stored size.height (2 * row) * raw.pitch + offsets.chroma i]?

/-- The first `n` rows of the picture are in the planes. -/
structure Packed (raw : Raw) (size : Size) (offsets : Offsets) (dst dst' : NV12Buffer)
    (n : Nat) : Prop where
  strideY : dst'.strideY = dst.strideY
  strideUv : dst'.strideUv = dst.strideUv
  y : Filled dst.y dst'.y dst.strideY size.width (raw.luma422 size offsets) n
  uv : Filled dst.uv dst'.uv dst.strideUv size.width (raw.chroma422 size offsets) ((n + 1) / 2)

theorem packed422Row_packed {raw : Raw} {offsets : Offsets} {cur : NV12Buffer} {row : Nat}
    (hdst : dst.Holds size) (hoffsets : offsets.InPair)
    (heven : size.width % 2 = 0 ∧ size.height % 2 = 0) (hpitch : size.width * 2 ≤ raw.pitch)
    (hdata : raw.pitch * size.height ≤ raw.data.length) (hrow : row < size.height)
    (h : Packed raw size offsets dst cur row) :
    ∃ cur', packed422Row raw size offsets cur row = some cur' ∧
      Packed raw size offsets dst cur' (row + 1) := by
  have hfits : raw.stored size.height row * raw.pitch + size.width * 2 ≤ raw.data.length :=
    row_lt (raw.stored_lt hrow) hpitch hdata
  generalize hsource : (raw.data.drop (raw.stored size.height row * raw.pitch)).take
    (raw.stored size.height row * raw.pitch + size.width * 2 -
      raw.stored size.height row * raw.pitch) = source
  have hlength : source.length = size.width * 2 := by
    rw [← hsource, length_of_slice hfits]
    omega
  have hbyte : ∀ i < size.width * 2,
      source[i]? = raw.data[raw.stored size.height row * raw.pitch + i]? := by
    intro i hi
    rw [← hsource, getElem?_slice (by omega)]
  -- the luma of the row
  obtain ⟨luma, hluma, hlumaLength, hlumaAt⟩ := mapM_range (n := size.width)
    (f := fun pixel => source[pixel * 2 + offsets.luma]?) fun x hx => by
      have hin := hoffsets.luma
      rw [List.getElem?_eq_getElem (by omega)]
      rfl
  have hroomY : row * dst.strideY + size.width ≤ dst.y.length := row_lt hrow hdst.strideY hdst.y
  obtain ⟨y, hy, hfilledY⟩ := h.y.splice hdst.strideY hlumaLength
    (fun x hx => by
      have hin := hoffsets.luma
      rw [hlumaAt x hx, hbyte _ (by omega)]
      rfl) hroomY le_rfl hroomY
  unfold packed422Row
  simp only [h.strideY, h.strideUv, slice_eq_some (Nat.le_add_right _ _) hfits, hsource, hluma,
    hy, Option.bind_eq_bind, Option.bind_some]
  by_cases hodd : row % 2 ≠ 0
  · -- an odd row brings no chroma
    rw [if_pos hodd]
    refine ⟨_, rfl, rfl, rfl, hfilledY, ?_⟩
    have hsame : (row + 1 + 1) / 2 = (row + 1) / 2 := by omega
    rw [hsame]
    exact h.uv
  · rw [if_neg hodd]
    obtain ⟨pairs, hpairs, hpairsLength, hpairsAt⟩ := mapM_range (n := size.width / 2 * 2)
      (f := fun i => source[offsets.chroma i]?) fun i hi => by
        have hin := hoffsets.chroma_lt hi
        rw [List.getElem?_eq_getElem (by omega)]
        rfl
    have hhalf : (row + 1) / 2 = row / 2 := by omega
    have hhalfRow : row / 2 < size.height / 2 := by omega
    have hroomUv : row / 2 * dst.strideUv + size.width ≤ dst.uv.length :=
      row_lt hhalfRow hdst.strideUv hdst.uv
    have huv := h.uv
    rw [hhalf] at huv
    have hwidth : pairs.length = size.width := by omega
    obtain ⟨uv, huv', hfilledUv⟩ := huv.splice hdst.strideUv hwidth
      (fun i hi => by
        have hin : offsets.chroma i < size.width * 2 := hoffsets.chroma_lt (by omega)
        have heq : 2 * (row / 2) = row := by omega
        rw [hpairsAt i (by omega), hbyte _ hin, Raw.chroma422, heq]) hroomUv le_rfl hroomUv
    rw [hpairs, Option.bind_some, huv', Option.bind_some]
    refine ⟨_, rfl, rfl, rfl, hfilledY, ?_⟩
    have hnext : (row + 1 + 1) / 2 = row / 2 + 1 := by omega
    rw [hnext]
    exact hfilledUv

theorem packed422Into_wrote {raw : Raw} {offsets : Offsets} (hdst : dst.Holds size)
    (hoffsets : offsets.InPair) (heven : size.width % 2 = 0 ∧ size.height % 2 = 0)
    (hpitch : size.width * 2 ≤ raw.pitch) (hdata : raw.pitch * size.height ≤ raw.data.length) :
    ∃ dst', packed422Into raw size offsets dst = some (true, dst') ∧
      Wrote size (raw.luma422 size offsets) (raw.chroma422 size offsets) dst dst' := by
  have hstrideY := hdst.strideY
  have hstrideUv := hdst.strideUv
  have hnothing : Packed raw size offsets dst dst 0 := ⟨rfl, rfl, filled_zero, filled_zero⟩
  obtain ⟨dst', hrun, hpacked⟩ : ∃ dst', (List.range size.height).foldlM
      (packed422Row raw size offsets) dst = some dst' ∧
        Packed raw size offsets dst dst' size.height :=
    foldlM_range (I := fun n cur => Packed raw size offsets dst cur n) size.height hnothing
      fun row cur hrow h => packed422Row_packed hdst hoffsets heven hpitch hdata hrow h
  refine ⟨dst', ?_, hpacked.strideY, hpacked.strideUv, hpacked.y, ?_⟩
  · unfold packed422Into
    rw [if_neg (by omega), if_neg (by omega), hrun]
    rfl
  · have hhalf : (size.height + 1) / 2 = size.height / 2 := by omega
    have huv := hpacked.uv
    rwa [hhalf] at huv

end Into

/-! ## Widening -/

section Widen

theorem length_widen (l : List UInt8) : (widen l).length = l.length / 3 * 4 := by
  induction l using widen.induct with
  | case1 b g r rest ih =>
      simp only [widen, List.length_cons, ih]
      omega
  | case2 l hshort =>
      rw [widen.eq_2 l hshort]
      match l, hshort with
      | [], _ => rfl
      | [_], _ => simp
      | [_, _], _ => simp
      | b :: g :: r :: rest, hshort => exact absurd rfl (hshort b g r rest)

/-- The fourth byte of a pixel is filled in. -/
theorem getElem?_widen (l : List UInt8) {x : Nat} (hx : x < l.length / 3 * 4) :
    (widen l)[x]? = if x % 4 = 3 then some 0xFF else l[x / 4 * 3 + x % 4]? := by
  induction l using widen.induct generalizing x with
  | case1 b g r rest ih =>
      rw [widen]
      match x with
      | 0 => rfl
      | 1 => rfl
      | 2 => rfl
      | 3 => rfl
      | x + 4 =>
          have hrest : x < rest.length / 3 * 4 := by
            simp only [List.length_cons] at hx
            omega
          have hmod : (x + 4) % 4 = x % 4 := by omega
          have hindex : (x + 4) / 4 * 3 + (x + 4) % 4 = x / 4 * 3 + x % 4 + 3 := by omega
          rw [hindex, hmod]
          exact ih hrest
  | case2 l hshort =>
      -- fewer than three bytes are no pixel
      rw [← length_widen, widen.eq_2 l hshort] at hx
      exact absurd hx (Nat.not_lt_zero x)

theorem length_resize (scratch : List UInt8) (length : Nat) :
    (resize scratch length).length = length := by
  unfold resize
  rw [List.length_append, List.length_take, List.length_replicate]
  omega

/-- A byte of an RGB24 row once it is widened. -/
def Raw.widened (raw : Raw) (row x : Nat) : Option UInt8 :=
  if x % 4 = 3 then some 0xFF else raw.data[row * raw.pitch + (x / 4 * 3 + x % 4)]?

theorem widenInto_filled {raw : Raw} {size : Size} (scratch : List UInt8)
    (hpitch : size.width * 3 ≤ raw.pitch) (hdata : raw.pitch * size.height ≤ raw.data.length) :
    ∃ scratch', widenInto raw size scratch = some scratch' ∧
      Filled (resize scratch (size.width * 4 * size.height)) scratch' (size.width * 4)
        (size.width * 4) raw.widened size.height := by
  apply foldlM_range (I := fun n scratch' =>
    Filled (resize scratch (size.width * 4 * size.height)) scratch' (size.width * 4)
      (size.width * 4) raw.widened n)
  · exact filled_zero
  · intro row cur hrow hfilled
    have hfits : row * raw.pitch + size.width * 3 ≤ raw.data.length := row_lt hrow hpitch hdata
    have hroom : row * (size.width * 4) + size.width * 4 ≤
        (resize scratch (size.width * 4 * size.height)).length :=
      row_lt hrow le_rfl (length_resize _ _).ge
    have hline : ((raw.data.drop (row * raw.pitch)).take
        (row * raw.pitch + size.width * 3 - row * raw.pitch)).length = size.width * 3 := by
      rw [length_of_slice hfits]
      omega
    have hlength : (widen ((raw.data.drop (row * raw.pitch)).take
        (row * raw.pitch + size.width * 3 - row * raw.pitch))).length = size.width * 4 := by
      rw [length_widen, hline]
      omega
    obtain ⟨next, hnext, hfilled'⟩ := hfilled.splice le_rfl hlength
      (fun x hx => by
        rw [getElem?_widen _ (by rw [hline]; omega), Raw.widened]
        split
        · rfl
        · rw [getElem?_slice (by omega)]) hroom le_rfl hroom
    refine ⟨next, ?_, hfilled'⟩
    rw [slice_eq_some (by omega) hfits, Nat.succ_mul]
    exact hnext

end Widen

/-! ## What `write` answers -/

section Write

variable {yuv : YuvHelper} {scratch : List UInt8} {raw : Raw} {size : Size} {dst : NV12Buffer}

theorem write_of_refuses {converter : Converter}
    (h : refuses converter.kind raw size dst = true) :
    converter.write yuv raw size dst = some ⟨false, converter, dst⟩ :=
  if_pos h

theorem not_refuses {kind : Pixels} (hdst : dst.Holds size) (h : raw.Readable kind size) :
    ¬ refuses kind raw size dst = true :=
  not_refuses_iff.mpr ⟨h, hdst.not_short⟩

theorem write_nv12 (hdst : dst.Holds size) (h : raw.Readable .nv12 size) :
    ∃ dst', Converter.write yuv ⟨.nv12, scratch⟩ raw size dst =
        some ⟨true, ⟨.nv12, scratch⟩, dst'⟩ ∧
      Wrote size (fun row x => raw.data[row * raw.pitch + x]?)
        (fun row x => raw.data[raw.pitch * size.height + row * raw.pitch + x]?) dst dst' := by
  have hdata : raw.pitch * size.height + raw.pitch * (size.height / 2) ≤ raw.data.length := by
    have hneeded := h.data
    have heven := h.height
    have hhalf : (size.height + 1) / 2 = size.height / 2 := by omega
    rwa [Pixels.needed, hhalf] at hneeded
  obtain ⟨dst', hrun, hwrote⟩ := nv12Into_wrote hdst h.pitch hdata
  refine ⟨dst', ?_, hwrote⟩
  rw [Converter.write, if_neg (not_refuses hdst h)]
  show ((nv12Into raw.data raw.pitch size dst).bind fun written => _) = _
  rw [hrun]
  rfl

/-- YUY2 is `Y0 U Y1 V` per pixel pair. -/
theorem write_yuy2 (hdst : dst.Holds size) (h : raw.Readable .yuy2 size) :
    ∃ dst', Converter.write yuv ⟨.yuy2, scratch⟩ raw size dst =
        some ⟨true, ⟨.yuy2, scratch⟩, dst'⟩ ∧
      Wrote size (raw.luma422 size ⟨0, 1, 3⟩) (raw.chroma422 size ⟨0, 1, 3⟩) dst dst' := by
  have hoffsets : Offsets.InPair ⟨0, 1, 3⟩ := ⟨by decide, by decide, by decide⟩
  obtain ⟨dst', hrun, hwrote⟩ := packed422Into_wrote hdst hoffsets
    ⟨h.width.2, h.height.2⟩ h.pitch h.data
  refine ⟨dst', ?_, hwrote⟩
  rw [Converter.write, if_neg (not_refuses hdst h)]
  show ((packed422Into raw size ⟨0, 1, 3⟩ dst).bind fun written => _) = _
  rw [hrun]
  rfl

/-- UYVY is the same four bytes rotated by one. -/
theorem write_uyvy (hdst : dst.Holds size) (h : raw.Readable .uyvy size) :
    ∃ dst', Converter.write yuv ⟨.uyvy, scratch⟩ raw size dst =
        some ⟨true, ⟨.uyvy, scratch⟩, dst'⟩ ∧
      Wrote size (raw.luma422 size ⟨1, 0, 2⟩) (raw.chroma422 size ⟨1, 0, 2⟩) dst dst' := by
  have hoffsets : Offsets.InPair ⟨1, 0, 2⟩ := ⟨by decide, by decide, by decide⟩
  obtain ⟨dst', hrun, hwrote⟩ := packed422Into_wrote hdst hoffsets
    ⟨h.width.2, h.height.2⟩ h.pitch h.data
  refine ⟨dst', ?_, hwrote⟩
  rw [Converter.write, if_neg (not_refuses hdst h)]
  show ((packed422Into raw size ⟨1, 0, 2⟩ dst).bind fun written => _) = _
  rw [hrun]
  rfl

/-- The bytes of the pixels, without what follows the last row. -/
theorem write_rgb32 (h : ¬ refuses .rgb32 raw size dst = true)
    (hdata : raw.pitch * size.height ≤ raw.data.length) :
    Converter.write yuv ⟨.rgb32, scratch⟩ raw size dst =
      some ⟨true, ⟨.rgb32, scratch⟩,
        yuv.argbToNv12 (raw.data.take (raw.pitch * size.height)) raw.pitch dst size.width
          (raw.signedHeight size)⟩ := by
  rw [Converter.write, if_neg h]
  dsimp only
  rw [slice_eq_some (Nat.zero_le _) hdata]
  rfl

theorem write_rgb24 (yuv : YuvHelper) (scratch : List UInt8)
    (h : ¬ refuses .rgb24 raw size dst = true)
    (hpitch : size.width * 3 ≤ raw.pitch) (hdata : raw.pitch * size.height ≤ raw.data.length) :
    ∃ scratch', Converter.write yuv ⟨.rgb24, scratch⟩ raw size dst =
        some ⟨true, ⟨.rgb24, scratch'⟩,
          yuv.argbToNv12 scratch' (size.width * 4) dst size.width (raw.signedHeight size)⟩ ∧
      Filled (resize scratch (size.width * 4 * size.height)) scratch' (size.width * 4)
        (size.width * 4) raw.widened size.height := by
  obtain ⟨scratch', hrun, hfilled⟩ := widenInto_filled scratch hpitch hdata
  refine ⟨scratch', ?_, hfilled⟩
  rw [Converter.write, if_neg h]
  show ((widenInto raw size scratch).bind fun scratch => _) = _
  rw [hrun]
  rfl

theorem write_i420 (yuv : YuvHelper) (h : ¬ refuses .i420 raw size dst = true)
    (hdata : Pixels.i420.needed raw.pitch size.height ≤ raw.data.length) :
    ∃ dst', ∀ scratch, Converter.write yuv ⟨.i420, scratch⟩ raw size dst =
      some ⟨true, ⟨.i420, scratch⟩, dst'⟩ := by
  have hplanes : raw.pitch * size.height + raw.pitch / 2 * ((size.height + 1) / 2) +
      raw.pitch / 2 * ((size.height + 1) / 2) ≤ raw.data.length := by
    rw [Pixels.needed, Nat.mul_assoc] at hdata
    omega
  obtain ⟨y, hy⟩ : ∃ y, slice raw.data 0 (raw.pitch * size.height) = some y :=
    ⟨_, slice_eq_some (Nat.zero_le _) (by omega)⟩
  obtain ⟨u, hu⟩ : ∃ u, slice raw.data (raw.pitch * size.height)
      (raw.pitch * size.height + raw.pitch / 2 * ((size.height + 1) / 2)) = some u :=
    ⟨_, slice_eq_some (by omega) (by omega)⟩
  obtain ⟨v, hv⟩ : ∃ v, slice raw.data
      (raw.pitch * size.height + raw.pitch / 2 * ((size.height + 1) / 2))
      (raw.pitch * size.height + raw.pitch / 2 * ((size.height + 1) / 2) +
        raw.pitch / 2 * ((size.height + 1) / 2)) = some v :=
    ⟨_, slice_eq_some (by omega) hplanes⟩
  refine ⟨yuv.i420ToNv12 y raw.pitch u (raw.pitch / 2) v (raw.pitch / 2) dst size.width
    size.height, fun scratch => ?_⟩
  rw [Converter.write, if_neg h]
  dsimp only
  rw [hy, Option.bind_eq_bind, Option.bind_some, hu, Option.bind_some, hv]
  rfl

/-- The converter answers, and true exactly for the frames it can read. -/
theorem write_answers (yuv : YuvHelper) (raw : Raw) (converter : Converter)
    (hdst : dst.Holds size) :
    ∃ written, converter.write yuv raw size dst = some written ∧
      (written.ok = true ↔ raw.Readable converter.kind size) ∧
      (written.ok = false → written.dst = dst) := by
  by_cases hrefuses : refuses converter.kind raw size dst = true
  · refine ⟨_, write_of_refuses hrefuses, iff_of_false Bool.false_ne_true ?_, fun _ => rfl⟩
    exact fun h => not_refuses hdst h hrefuses
  · have h := (not_refuses_iff.mp hrefuses).1
    obtain ⟨kind, scratch⟩ := converter
    have hdone : ∃ written, Converter.write yuv ⟨kind, scratch⟩ raw size dst = some written ∧
        written.ok = true := by
      cases kind with
      | nv12 =>
          obtain ⟨dst', hrun, -⟩ := write_nv12 hdst h
          exact ⟨_, hrun, rfl⟩
      | i420 =>
          obtain ⟨dst', hrun⟩ := write_i420 yuv (not_refuses hdst h) h.data
          exact ⟨_, hrun scratch, rfl⟩
      | yuy2 =>
          obtain ⟨dst', hrun, -⟩ := write_yuy2 hdst h
          exact ⟨_, hrun, rfl⟩
      | uyvy =>
          obtain ⟨dst', hrun, -⟩ := write_uyvy hdst h
          exact ⟨_, hrun, rfl⟩
      | rgb32 => exact ⟨_, write_rgb32 (not_refuses hdst h) h.data, rfl⟩
      | rgb24 =>
          obtain ⟨scratch', hrun, -⟩ := write_rgb24 yuv scratch
            (not_refuses hdst h) h.pitch h.data
          exact ⟨_, hrun, rfl⟩
    obtain ⟨written, hrun, hok⟩ := hdone
    refine ⟨written, hrun, iff_of_true hok h, fun hnot => ?_⟩
    rw [hok] at hnot
    cases hnot

end Write

/-! ## Exactness -/

/-- `write` stays within the buffers, answers true exactly for the frames that can be
read, leaves `dst` alone otherwise, and writes luma by pixel of the picture and the
chroma pairs by block of two by two. -/
def WritesPicture (yuv : YuvHelper) (converter : Converter) (raw : Raw) (size : Size)
    (dst : NV12Buffer) (luma u v : Nat → Nat → Option UInt8) : Prop :=
  ∃ written, converter.write yuv raw size dst = some written ∧
    (written.ok = true ↔ raw.Readable converter.kind size) ∧
    (written.ok = false → written.dst = dst) ∧
    (written.ok = true →
      (∀ row < size.height, ∀ x < size.width,
        written.dst.y[row * dst.strideY + x]? = luma row x) ∧
      ∀ row < size.height / 2, ∀ block < size.width / 2,
        written.dst.uv[row * dst.strideUv + 2 * block]? = u row block ∧
          written.dst.uv[row * dst.strideUv + (2 * block + 1)]? = v row block)

theorem writesPicture_of_wrote {yuv : YuvHelper} {converter : Converter} {raw : Raw} {size : Size}
    {dst : NV12Buffer} {luma luma' chroma u v : Nat → Nat → Option UInt8} (hdst : dst.Holds size)
    (h : raw.Readable converter.kind size → ∃ dst',
      converter.write yuv raw size dst = some ⟨true, converter, dst'⟩ ∧
        Wrote size luma chroma dst dst')
    (hluma : ∀ row x, luma row x = luma' row x)
    (hu : ∀ row block, chroma row (2 * block) = u row block)
    (hv : ∀ row block, chroma row (2 * block + 1) = v row block) :
    WritesPicture yuv converter raw size dst luma' u v := by
  obtain ⟨written, hrun, hok, hkept⟩ := write_answers yuv raw converter hdst
  refine ⟨written, hrun, hok, hkept, fun htrue => ?_⟩
  obtain ⟨dst', hrun', hwrote⟩ := h (hok.mp htrue)
  obtain rfl := Option.some.inj (hrun.symm.trans hrun')
  constructor
  · intro row hrow x hx
    rw [hwrote.y.written row hrow x hx, hluma]
  · intro row hrow block hblock
    rw [hwrote.uv.written row hrow _ (by omega), hwrote.uv.written row hrow _ (by omega), hu, hv]
    exact ⟨rfl, rfl⟩

/-- The three YUV layouts that are converted here, for every frame. -/
theorem write_yuv_exact (yuv : YuvHelper) (scratch : List UInt8) (raw : Raw) (size : Size)
    (dst : NV12Buffer) (hdst : dst.Holds size) :
    WritesPicture yuv ⟨.nv12, scratch⟩ raw size dst
      (fun row x => raw.data[row * raw.pitch + x]?)
      (fun row block => raw.data[raw.pitch * size.height + row * raw.pitch + 2 * block]?)
      (fun row block => raw.data[raw.pitch * size.height + row * raw.pitch + (2 * block + 1)]?) ∧
    WritesPicture yuv ⟨.yuy2, scratch⟩ raw size dst
      (fun row x => raw.data[raw.stored size.height row * raw.pitch + 2 * x]?)
      (fun row block =>
        raw.data[raw.stored size.height (2 * row) * raw.pitch + (4 * block + 1)]?)
      (fun row block =>
        raw.data[raw.stored size.height (2 * row) * raw.pitch + (4 * block + 3)]?) ∧
    WritesPicture yuv ⟨.uyvy, scratch⟩ raw size dst
      (fun row x => raw.data[raw.stored size.height row * raw.pitch + (2 * x + 1)]?)
      (fun row block => raw.data[raw.stored size.height (2 * row) * raw.pitch + 4 * block]?)
      (fun row block =>
        raw.data[raw.stored size.height (2 * row) * raw.pitch + (4 * block + 2)]?) := by
  -- a chroma row alternates: the even bytes are U, the odd ones V
  have heven : ∀ block, 2 * block / 2 = block ∧ 2 * block % 2 = 0 := by omega
  have hodd : ∀ block, (2 * block + 1) / 2 = block ∧ (2 * block + 1) % 2 = 1 := by omega
  refine ⟨?_, ?_, ?_⟩
  · exact writesPicture_of_wrote hdst (fun h => write_nv12 hdst h) (fun _ _ => rfl)
      (fun _ _ => rfl) fun _ _ => rfl
  · refine writesPicture_of_wrote hdst (fun h => write_yuy2 hdst h) ?_ ?_ ?_
    · intro row x
      rw [Raw.luma422, Nat.mul_comm x 2]
      rfl
    · intro row block
      rw [Raw.chroma422, Offsets.chroma, (heven block).1, (heven block).2, Nat.mul_comm block 4]
      rfl
    · intro row block
      rw [Raw.chroma422, Offsets.chroma, (hodd block).1, (hodd block).2, Nat.mul_comm block 4]
      rfl
  · refine writesPicture_of_wrote hdst (fun h => write_uyvy hdst h) ?_ ?_ ?_
    · intro row x
      rw [Raw.luma422, Nat.mul_comm x 2]
    · intro row block
      rw [Raw.chroma422, Offsets.chroma, (heven block).1, (heven block).2, Nat.mul_comm block 4]
      rfl
    · intro row block
      rw [Raw.chroma422, Offsets.chroma, (hodd block).1, (hodd block).2, Nat.mul_comm block 4]
      rfl

/-- Two by two pixels of YUY2, bottom-up, with two bytes of padding to a row. -/
theorem write_yuv_exact_tiny :
    let yuv : YuvHelper := ⟨fun _ _ _ _ _ _ dst _ _ => dst, fun _ _ dst _ _ => dst⟩
    let raw : Raw := ⟨[30, 1, 40, 2, 99, 99, 10, 3, 20, 4, 99, 99], 6, true⟩
    let dst : NV12Buffer := ⟨[0, 0, 0, 0], [0, 0], 2, 2⟩
    ∃ written, Converter.write yuv ⟨.yuy2, []⟩ raw ⟨2, 2⟩ dst = some written ∧
      written.dst.y = [10, 20, 30, 40] ∧ written.dst.uv = [3, 4] ∧ written.ok = true := by
  intro yuv raw dst
  have hdst : dst.Holds ⟨2, 2⟩ := ⟨by decide, by decide, by decide, by decide⟩
  obtain ⟨-, ⟨written, hrun, hok, -⟩, -⟩ := write_yuv_exact yuv [] raw ⟨2, 2⟩ dst hdst
  have hread : raw.Readable .yuy2 ⟨2, 2⟩ :=
    ⟨by decide, by decide, fun _ => rfl, by decide, by decide⟩
  refine ⟨written, hrun, ?_, ?_, hok.mpr hread⟩
  · have hrun' := congrArg (fun o => o.map fun w => w.dst.y) hrun
    exact (Option.some.inj hrun').symm
  · have hrun' := congrArg (fun o => o.map fun w => w.dst.uv) hrun
    exact (Option.some.inj hrun').symm

end Camera
end Ldktela
