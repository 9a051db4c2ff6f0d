import Ldktela.Camera.Convert

/-!
# Conversions of one picture

A picture can be stored upright or bottom-up, as RGB24 or RGB32, and be written by a
converter that has written others before.  `conversions_agree` says that the destination
is the same, for what libyuv documents of `argb_to_nv12`: that it reads rows of pixels,
and that a negative height reverses them.
-/

namespace Ldktela
namespace Camera

open Rows

/-- What is relied on of `argb_to_nv12`: only the pixels of the rows count, and a negative
height is the conversion of the rows in reverse order. -/
structure ReadsRows (yuv : YuvHelper) : Prop where
  rows : ∀ src src' pitch pitch' dst width (height : Int),
    (∀ row < height.natAbs, ∀ i < width * 4, src[row * pitch + i]? = src'[row * pitch' + i]?) →
      yuv.argbToNv12 src pitch dst width height = yuv.argbToNv12 src' pitch' dst width height
  reversed : ∀ src src' pitch pitch' dst width (height : Nat),
    (∀ row < height, ∀ i < width * 4,
      src'[row * pitch' + i]? = src[(height - 1 - row) * pitch + i]?) →
      yuv.argbToNv12 src pitch dst width (-(height : Int)) =
        yuv.argbToNv12 src' pitch' dst width height

/-- The fourth byte of a pixel is not read either. -/
def IgnoresFourth (yuv : YuvHelper) : Prop :=
  ∀ src src' pitch pitch' dst width (height : Int),
    (∀ row < height.natAbs, ∀ i < width * 4, i % 4 ≠ 3 →
      src[row * pitch + i]? = src'[row * pitch' + i]?) →
      yuv.argbToNv12 src pitch dst width height = yuv.argbToNv12 src' pitch' dst width height

/-- What a caller sees of an answer. -/
def Written.result (written : Written) : Bool × NV12Buffer :=
  (written.ok, written.dst)

/-- One frame with the destination it is written into. -/
structure Frame where
  raw : Raw
  size : Size
  dst : NV12Buffer

/-- The converter after a number of frames, whatever it answered to each. -/
def convertAll (yuv : YuvHelper) (converter : Converter) (frames : List Frame) :
    Option Converter :=
  frames.foldlM (fun converter frame =>
    (converter.write yuv frame.raw frame.size frame.dst).map Written.converter) converter

section Frames

variable {yuv : YuvHelper} {size : Size} {dst : NV12Buffer} {raw up down : Raw}
  {scratch scratch' : List UInt8}

theorem packed422Into_of_narrow {offsets : Offsets} (hpitch : size.width * 2 ≤ raw.pitch)
    (hdata : raw.pitch * size.height ≤ raw.data.length)
    (hnarrow : dst.strideY < size.width ∨ dst.strideUv < size.width) :
    packed422Into raw size offsets dst = some (false, dst) := by
  rw [packed422Into, if_neg (by omega), if_pos hnarrow]

theorem natAbs_signedHeight : (raw.signedHeight size).natAbs = size.height := by
  unfold Raw.signedHeight
  split
  · exact Int.natAbs_neg _
  · rfl

theorem result_write_of_refuses {converter : Converter}
    (h : refuses converter.kind raw size dst = true) :
    (converter.write yuv raw size dst).map Written.result = some (false, dst) := by
  rw [write_of_refuses h]
  rfl

theorem result_write_of_short {kind : Pixels} (hshort : dst.Short size) :
    (Converter.write yuv ⟨kind, scratch⟩ raw size dst).map Written.result = some (false, dst) := by
  apply result_write_of_refuses
  by_contra h
  exact (not_refuses_iff.mp h).2 hshort

theorem map_result_answer (answer : Option (Bool × NV12Buffer)) (converter : Converter) :
    (answer.bind fun written => some (Written.mk written.1 converter written.2)).map
      Written.result = answer := by
  cases answer with
  | none => rfl
  | some written => rfl

theorem result_write_nv12 (h : ¬ refuses .nv12 raw size dst = true) :
    (Converter.write yuv ⟨.nv12, scratch⟩ raw size dst).map Written.result =
      nv12Into raw.data raw.pitch size dst := by
  rw [Converter.write, if_neg h]
  exact map_result_answer _ _

theorem result_write_yuy2 (h : ¬ refuses .yuy2 raw size dst = true) :
    (Converter.write yuv ⟨.yuy2, scratch⟩ raw size dst).map Written.result =
      packed422Into raw size ⟨0, 1, 3⟩ dst := by
  rw [Converter.write, if_neg h]
  exact map_result_answer _ _

theorem result_write_uyvy (h : ¬ refuses .uyvy raw size dst = true) :
    (Converter.write yuv ⟨.uyvy, scratch⟩ raw size dst).map Written.result =
      packed422Into raw size ⟨1, 0, 2⟩ dst := by
  rw [Converter.write, if_neg h]
  exact map_result_answer _ _

/-! ### Bottom-up and top-down -/

/-- The frames show the same picture, the one bottom-up and the other top-down. -/
structure Flipped (kind : Pixels) (size : Size) (up down : Raw) : Prop where
  bottomUp : up.bottomUp = true
  topDown : down.bottomUp = false
  readableUp : up.Readable kind size
  readableDown : down.Readable kind size
  rows : ∀ row < size.height, ∀ i < kind.minimumPitch size.width,
    down.data[row * down.pitch + i]? = up.data[(size.height - 1 - row) * up.pitch + i]?

/-- What is written determines the buffer. -/
theorem Wrote.eq {luma luma' chroma chroma' : Nat → Nat → Option UInt8} {dst₁ dst₂ : NV12Buffer}
    (h₁ : Wrote size luma chroma dst dst₁) (h₂ : Wrote size luma' chroma' dst dst₂)
    (hluma : ∀ row < size.height, ∀ x < size.width, luma row x = luma' row x)
    (hchroma : ∀ row < size.height / 2, ∀ x < size.width, chroma row x = chroma' row x) :
    dst₁ = dst₂ := by
  obtain ⟨y₁, uv₁, strideY₁, strideUv₁⟩ := dst₁
  obtain ⟨y₂, uv₂, strideY₂, strideUv₂⟩ := dst₂
  obtain ⟨rfl, rfl, hy₁, huv₁⟩ := h₁
  obtain ⟨rfl, rfl, hy₂, huv₂⟩ := h₂
  obtain rfl := (hy₁.congr hluma).eq hy₂
  obtain rfl := (huv₁.congr hchroma).eq huv₂
  rfl

section Packed422

variable {kind : Pixels} {offsets : Offsets}

theorem Flipped.luma422 (h : Flipped kind size up down) (hoffsets : offsets.InPair)
    (hminimum : kind.minimumPitch size.width = size.width * 2) {row x : Nat}
    (hrow : row < size.height) (hx : x < size.width) :
    up.luma422 size offsets row x = down.luma422 size offsets row x := by
  have hin := hoffsets.luma
  have hup : up.stored size.height row = size.height - 1 - row := if_pos h.bottomUp
  have hdown : down.stored size.height row = row := if_neg (by simp [h.topDown])
  rw [Raw.luma422, Raw.luma422, hup, hdown, h.rows row hrow _ (by omega)]

theorem Flipped.chroma422 (h : Flipped kind size up down) (hoffsets : offsets.InPair)
    (hminimum : kind.minimumPitch size.width = size.width * 2) {row x : Nat}
    (hrow : row < size.height / 2) (hx : x < size.width) :
    up.chroma422 size offsets row x = down.chroma422 size offsets row x := by
  have heven := h.readableUp.width
  have hin : offsets.chroma x < size.width * 2 := hoffsets.chroma_lt (by omega)
  have hup : up.stored size.height (2 * row) = size.height - 1 - 2 * row := if_pos h.bottomUp
  have hdown : down.stored size.height (2 * row) = 2 * row := if_neg (by simp [h.topDown])
  rw [Raw.chroma422, Raw.chroma422, hup, hdown, h.rows (2 * row) (by omega) _ (by omega)]

theorem packed422Into_flipped (hminimum : kind.minimumPitch size.width = size.width * 2)
    (hneeded : ∀ pitch, kind.needed pitch size.height = pitch * size.height)
    (hoffsets : offsets.InPair) (h : Flipped kind size up down)
    (hlong : ¬ dst.Short size) :
    packed422Into up size offsets dst = packed422Into down size offsets dst := by
  have hup := h.readableUp.pitch
  have hdown := h.readableDown.pitch
  have hupData := h.readableUp.data
  have hdownData := h.readableDown.data
  rw [hneeded] at hupData hdownData
  rw [hminimum] at hup hdown
  by_cases hnarrow : dst.strideY < size.width ∨ dst.strideUv < size.width
  · rw [packed422Into_of_narrow hup hupData hnarrow,
      packed422Into_of_narrow hdown hdownData hnarrow]
  · unfold NV12Buffer.Short at hlong
    have hdst : dst.Holds size := ⟨by omega, by omega, by omega, by omega⟩
    have heven : size.width % 2 = 0 ∧ size.height % 2 = 0 :=
      ⟨h.readableUp.width.2, h.readableUp.height.2⟩
    obtain ⟨dst₁, hrun₁, hwrote₁⟩ := packed422Into_wrote hdst hoffsets heven hup hupData
    obtain ⟨dst₂, hrun₂, hwrote₂⟩ := packed422Into_wrote hdst hoffsets heven hdown hdownData
    obtain rfl := hwrote₁.eq hwrote₂
      (fun row hrow x hx => h.luma422 hoffsets hminimum hrow hx)
      (fun row hrow x hx => h.chroma422 hoffsets hminimum hrow hx)
    rw [hrun₁, hrun₂]

end Packed422

/-- Where the scratch holds the widened rows of a frame. -/
theorem Flipped.widened (h : Flipped .rgb24 size up down) {row i : Nat} (hrow : row < size.height)
    (hi : i < size.width * 4) : down.widened row i = up.widened (size.height - 1 - row) i := by
  unfold Raw.widened
  split
  · rfl
  · exact h.rows row hrow _ (by rw [Pixels.minimumPitch]; omega)

theorem getElem?_take_row {data : List UInt8} {pitch rows row i : Nat} (hrow : row < rows)
    (hi : i < pitch) : (data.take (pitch * rows))[row * pitch + i]? = data[row * pitch + i]? := by
  have hend : row * pitch + pitch ≤ pitch * rows := row_lt hrow le_rfl le_rfl
  exact List.getElem?_take_of_lt (by omega)

/-- Bottom-up and top-down, one destination. -/
theorem write_flipped (hyuv : ReadsRows yuv) {kind : Pixels} (hkind : kind.canBeBottomUp = true)
    (h : Flipped kind size up down) :
    (Converter.write yuv ⟨kind, scratch⟩ up size dst).map Written.result =
      (Converter.write yuv ⟨kind, scratch'⟩ down size dst).map Written.result := by
  by_cases hshort : dst.Short size
  · rw [result_write_of_short hshort, result_write_of_short hshort]
  · have hup : ¬ refuses kind up size dst = true := not_refuses_iff.mpr ⟨h.readableUp, hshort⟩
    have hdown : ¬ refuses kind down size dst = true :=
      not_refuses_iff.mpr ⟨h.readableDown, hshort⟩
    have hsignedUp : up.signedHeight size = -(size.height : Int) := if_pos h.bottomUp
    have hsignedDown : down.signedHeight size = size.height := if_neg (by simp [h.topDown])
    cases kind with
    | nv12 => cases hkind
    | i420 => cases hkind
    | yuy2 =>
        have hoffsets : Offsets.InPair ⟨0, 1, 3⟩ := ⟨by decide, by decide, by decide⟩
        rw [result_write_yuy2 hup, result_write_yuy2 hdown]
        exact packed422Into_flipped rfl (fun _ => rfl) hoffsets h hshort
    | uyvy =>
        have hoffsets : Offsets.InPair ⟨1, 0, 2⟩ := ⟨by decide, by decide, by decide⟩
        rw [result_write_uyvy hup, result_write_uyvy hdown]
        exact packed422Into_flipped rfl (fun _ => rfl) hoffsets h hshort
    | rgb32 =>
        rw [write_rgb32 hup h.readableUp.data, write_rgb32 hdown h.readableDown.data, hsignedUp,
          hsignedDown]
        -- the negative height reads the rows of the one in the order of the other
        have hagree := hyuv.reversed (up.data.take (up.pitch * size.height))
          (down.data.take (down.pitch * size.height)) up.pitch down.pitch dst size.width
          size.height fun row hrow i hi => by
            rw [getElem?_take_row hrow (hi.trans_le h.readableDown.pitch),
              getElem?_take_row (by omega) (hi.trans_le h.readableUp.pitch)]
            exact h.rows row hrow i hi
        rw [hagree]
        rfl
    | rgb24 =>
        obtain ⟨wide, hrun, hwide⟩ :=
          write_rgb24 yuv scratch hup h.readableUp.pitch h.readableUp.data
        obtain ⟨wide', hrun', hwide'⟩ :=
          write_rgb24 yuv scratch' hdown h.readableDown.pitch h.readableDown.data
        -- the rows are widened in the order of the memory, and reversed after that
        have hagree := hyuv.reversed wide wide' (size.width * 4) (size.width * 4) dst size.width
          size.height fun row hrow i hi => by
            rw [hwide'.written row hrow i hi, hwide.written _ (by omega) i hi]
            exact h.widened hrow hi
        rw [hrun, hrun', hsignedUp, hsignedDown, hagree]
        rfl

/-! ### RGB24 and RGB32 -/

/-- The frames show the same picture, the one as RGB24 and the other as RGB32. -/
structure Repacked (size : Size) (raw24 raw32 : Raw) : Prop where
  bottomUp : raw24.bottomUp = raw32.bottomUp
  readable24 : raw24.Readable .rgb24 size
  readable32 : raw32.Readable .rgb32 size
  pixels : ∀ row < size.height, ∀ x < size.width, ∀ byte < 3,
    raw24.data[row * raw24.pitch + (x * 3 + byte)]? =
      raw32.data[row * raw32.pitch + (x * 4 + byte)]?

theorem Repacked.widened {raw24 raw32 : Raw} (h : Repacked size raw24 raw32) {row i : Nat}
    (hrow : row < size.height) (hi : i < size.width * 4) (hfourth : i % 4 ≠ 3) :
    raw24.widened row i = raw32.data[row * raw32.pitch + i]? := by
  have hpixel := h.pixels row hrow (i / 4) (by omega) (i % 4) (by omega)
  have hindex : i / 4 * 4 + i % 4 = i := Nat.div_add_mod' i 4
  rw [Raw.widened, if_neg hfourth, hpixel, hindex]

/-- RGB24 and RGB32, one destination: the widened pixels have 255 for the fourth byte. -/
theorem write_repacked (hyuv : ReadsRows yuv) {raw24 raw32 : Raw}
    (h : Repacked size raw24 raw32)
    (hfourth : (∀ row < size.height, ∀ x < size.width,
      raw32.data[row * raw32.pitch + (x * 4 + 3)]? = some 0xFF) ∨ IgnoresFourth yuv) :
    (Converter.write yuv ⟨.rgb24, scratch⟩ raw24 size dst).map Written.result =
      (Converter.write yuv ⟨.rgb32, scratch'⟩ raw32 size dst).map Written.result := by
  by_cases hshort : dst.Short size
  · rw [result_write_of_short hshort, result_write_of_short hshort]
  · have h24 : ¬ refuses .rgb24 raw24 size dst = true :=
      not_refuses_iff.mpr ⟨h.readable24, hshort⟩
    have h32 : ¬ refuses .rgb32 raw32 size dst = true :=
      not_refuses_iff.mpr ⟨h.readable32, hshort⟩
    obtain ⟨wide, hrun, hwide⟩ :=
      write_rgb24 yuv scratch h24 h.readable24.pitch h.readable24.data
    have hsigned : raw24.signedHeight size = raw32.signedHeight size := by
      rw [Raw.signedHeight, Raw.signedHeight, h.bottomUp]
    have htake : ∀ row < size.height, ∀ i < size.width * 4,
        (raw32.data.take (raw32.pitch * size.height))[row * raw32.pitch + i]? =
          raw32.data[row * raw32.pitch + i]? := fun row hrow i hi =>
      getElem?_take_row hrow (hi.trans_le h.readable32.pitch)
    rw [hrun, write_rgb32 h32 h.readable32.data, hsigned]
    have hagree : yuv.argbToNv12 wide (size.width * 4) dst size.width (raw32.signedHeight size) =
        yuv.argbToNv12 (raw32.data.take (raw32.pitch * size.height)) raw32.pitch dst size.width
          (raw32.signedHeight size) := by
      rcases hfourth with hfilled | hignores
      · apply hyuv.rows
        rw [natAbs_signedHeight]
        intro row hrow i hi
        rw [htake row hrow i hi, hwide.written row hrow i hi]
        -- the byte that widening adds, or one of the three it copies
        by_cases hlast : i % 4 = 3
        · have hindex : i / 4 * 4 + 3 = i := by omega
          rw [Raw.widened, if_pos hlast, ← hfilled row hrow (i / 4) (by omega), hindex]
        · exact h.widened hrow hi hlast
      · apply hignores
        rw [natAbs_signedHeight]
        intro row hrow i hi hlast
        rw [htake row hrow i hi, hwide.written row hrow i hi]
        exact h.widened hrow hi hlast
    rw [hagree]
    rfl

/-! ### The frames before -/

/-- The scratch is written over before it is read. -/
theorem result_write_scratch (yuv : YuvHelper) (kind : Pixels) (raw : Raw) (size : Size)
    (dst : NV12Buffer) (scratch scratch' : List UInt8) :
    (Converter.write yuv ⟨kind, scratch⟩ raw size dst).map Written.result =
      (Converter.write yuv ⟨kind, scratch'⟩ raw size dst).map Written.result := by
  by_cases h : refuses kind raw size dst = true
  · rw [result_write_of_refuses h, result_write_of_refuses h]
  · have hread := (not_refuses_iff.mp h).1
    cases kind with
    | nv12 => rw [result_write_nv12 h, result_write_nv12 h]
    | i420 =>
        obtain ⟨dst', hrun⟩ := write_i420 yuv h hread.data
        rw [hrun, hrun]
        rfl
    | yuy2 => rw [result_write_yuy2 h, result_write_yuy2 h]
    | uyvy => rw [result_write_uyvy h, result_write_uyvy h]
    | rgb32 =>
        rw [write_rgb32 h hread.data, write_rgb32 h hread.data]
        rfl
    | rgb24 =>
        obtain ⟨wide, hrun, hwide⟩ := write_rgb24 yuv scratch h hread.pitch hread.data
        obtain ⟨wide', hrun', hwide'⟩ := write_rgb24 yuv scratch' h hread.pitch hread.data
        -- both scratches end as the widened rows, whatever was in them
        obtain rfl := hwide.eq_of_full hwide' (length_resize _ _) (length_resize _ _)
        rw [hrun, hrun']

/-- A last call whose answer is wrapped with a converter of the kind. -/
theorem kind_of_bind {α : Type} {answer : Option α} {wrap : α → Written} {written : Written}
    {kind : Pixels} (h : (answer.bind fun a => some (wrap a)) = some written)
    (hwrap : ∀ a, (wrap a).converter.kind = kind) : written.converter.kind = kind := by
  obtain ⟨a, -, h⟩ := Option.bind_eq_some_iff.mp h
  obtain rfl := Option.some.inj h
  exact hwrap a

theorem kind_of_write {converter : Converter} {written : Written}
    (h : converter.write yuv raw size dst = some written) :
    written.converter.kind = converter.kind := by
  unfold Converter.write at h
  split at h
  · obtain rfl := Option.some.inj h
    rfl
  · -- one branch for each layout, and no branch makes a new converter
    dsimp only at h
    split at h
    · exact kind_of_bind h fun _ => rfl
    · obtain ⟨y, -, h⟩ := Option.bind_eq_some_iff.mp h
      obtain ⟨u, -, h⟩ := Option.bind_eq_some_iff.mp h
      exact kind_of_bind h fun _ => rfl
    · exact kind_of_bind h fun _ => rfl
    · exact kind_of_bind h fun _ => rfl
    · exact kind_of_bind h fun _ => rfl
    · exact kind_of_bind h fun _ => rfl

theorem kind_convertAll {converter converter' : Converter} {frames : List Frame}
    (h : convertAll yuv converter frames = some converter') :
    converter'.kind = converter.kind := by
  induction frames generalizing converter with
  | nil =>
      obtain rfl := Option.some.inj h
      rfl
  | cons frame frames ih =>
      rw [convertAll, List.foldlM_cons] at h
      obtain ⟨next, hnext, hrest⟩ := Option.bind_eq_some_iff.mp h
      obtain ⟨written, hwritten, rfl⟩ := Option.map_eq_some_iff.mp hnext
      exact (ih hrest).trans (kind_of_write hwritten)

end Frames

/-! ## One destination -/

/-- Bottom-up or top-down, RGB24 or RGB32, and whatever was converted before: one
picture has one destination. -/
theorem conversions_agree (yuv : YuvHelper) (hyuv : ReadsRows yuv) :
    (∀ kind size up down dst scratch scratch', kind.canBeBottomUp = true →
      Flipped kind size up down →
        (Converter.write yuv ⟨kind, scratch⟩ up size dst).map Written.result =
          (Converter.write yuv ⟨kind, scratch'⟩ down size dst).map Written.result) ∧
    (∀ size raw24 raw32 dst scratch scratch', Repacked size raw24 raw32 →
      ((∀ row < size.height, ∀ x < size.width,
        raw32.data[row * raw32.pitch + (x * 4 + 3)]? = some 0xFF) ∨ IgnoresFourth yuv) →
        (Converter.write yuv ⟨.rgb24, scratch⟩ raw24 size dst).map Written.result =
          (Converter.write yuv ⟨.rgb32, scratch'⟩ raw32 size dst).map Written.result) ∧
    ∀ kind frames converter raw size dst,
      convertAll yuv (Converter.new kind) frames = some converter →
        (converter.write yuv raw size dst).map Written.result =
          ((Converter.new kind).write yuv raw size dst).map Written.result := by
  refine ⟨?_, ?_, ?_⟩
  · intro kind size up down dst scratch scratch' hkind hflipped
    exact write_flipped hyuv hkind hflipped
  · intro size raw24 raw32 dst scratch scratch' hrepacked hfourth
    exact write_repacked hyuv hrepacked hfourth
  · intro kind frames converter raw size dst hconverted
    have hkind : converter.kind = kind := kind_convertAll hconverted
    obtain ⟨kind', scratch⟩ := converter
    obtain rfl := hkind
    exact result_write_scratch yuv _ raw size dst scratch []

/-! ### The integers of libyuv -/

def lumaOf (b g r : Nat) : UInt8 :=
  UInt8.ofNat ((66 * r + 129 * g + 25 * b + 0x1080) / 256)

def uOf (b g r : Nat) : UInt8 :=
  UInt8.ofNat ((112 * b + 0x8080 - (74 * g + 38 * r)) / 256)

def vOf (b g r : Nat) : UInt8 :=
  UInt8.ofNat ((112 * r + 0x8080 - (94 * g + 18 * b)) / 256)

/-- The mean of one component over the four pixels of a block. -/
def blockMean (byte : Nat → Nat → Nat) (row block component : Nat) : Nat :=
  (byte (2 * row) (block * 8 + component) + byte (2 * row) (block * 8 + 4 + component) +
    byte (2 * row + 1) (block * 8 + component) +
      byte (2 * row + 1) (block * 8 + 4 + component) + 2) / 4

/-- Converts rows of pixels that are given by their bytes. -/
def convertRows (byte : Nat → Nat → Nat) (dst : NV12Buffer) (width rows : Nat) : NV12Buffer :=
  { dst with
    y := dst.y.mapIdx fun i old =>
      let row := i / dst.strideY
      let x := i % dst.strideY
      if x < width ∧ row < rows then
        lumaOf (byte row (x * 4)) (byte row (x * 4 + 1)) (byte row (x * 4 + 2))
      else old
    uv := dst.uv.mapIdx fun i old =>
      let row := i / dst.strideUv
      let x := i % dst.strideUv
      let mean := blockMean byte row (x / 2)
      if x < width / 2 * 2 ∧ row < rows / 2 then
        if x % 2 = 0 then uOf (mean 0) (mean 1) (mean 2) else vOf (mean 0) (mean 1) (mean 2)
      else old }

/-- Byte `i` of a row of the picture. -/
def rowByte (src : List UInt8) (pitch rows : Nat) (bottomUp : Bool) (row i : Nat) : Nat :=
  (src[(if bottomUp then rows - 1 - row else row) * pitch + i]?.getD 0).toNat

/-- `argb_to_nv12` in integers. -/
def integerYuv : YuvHelper where
  i420ToNv12 _ _ _ _ _ _ dst _ _ := dst
  argbToNv12 src pitch dst width height :=
    convertRows (rowByte src pitch height.natAbs (height < 0)) dst width height.natAbs

theorem convertRows_congr {byte byte' : Nat → Nat → Nat} (dst : NV12Buffer) {width rows : Nat}
    (h : ∀ row < rows, ∀ i < width * 4, byte row i = byte' row i) :
    convertRows byte dst width rows = convertRows byte' dst width rows := by
  have hmean : ∀ row < rows / 2, ∀ block < width / 2, ∀ component < 3,
      blockMean byte row block component = blockMean byte' row block component := by
    intro row hrow block hblock component hcomponent
    unfold blockMean
    rw [h _ (by omega) _ (by omega), h _ (by omega) _ (by omega), h _ (by omega) _ (by omega),
      h _ (by omega) _ (by omega)]
  have hy : (convertRows byte dst width rows).y = (convertRows byte' dst width rows).y := by
    refine List.mapIdx_eq_mapIdx_iff.mpr fun i _ => ?_
    dsimp only
    split
    · next hin =>
        rw [h _ hin.2 _ (by omega), h _ hin.2 _ (by omega), h _ hin.2 _ (by omega)]
    · rfl
  have huv : (convertRows byte dst width rows).uv = (convertRows byte' dst width rows).uv := by
    refine List.mapIdx_eq_mapIdx_iff.mpr fun i _ => ?_
    dsimp only
    split
    · next hin =>
        rw [hmean _ hin.2 _ (by omega) 0 (by decide), hmean _ hin.2 _ (by omega) 1 (by decide),
          hmean _ hin.2 _ (by omega) 2 (by decide)]
    · rfl
  exact (NV12Buffer.mk.injEq _ _ _ _ _ _ _ _).mpr ⟨hy, huv, rfl, rfl⟩

theorem readsRows_integerYuv : ReadsRows integerYuv where
  rows src src' pitch pitch' dst width height h := by
    refine convertRows_congr dst fun row hrow i hi => ?_
    unfold rowByte
    split
    · rw [h _ (by omega) i hi]
    · rw [h row hrow i hi]
  reversed src src' pitch pitch' dst width height h := by
    have hrows : (-(height : Int)).natAbs = height := by rw [Int.natAbs_neg, Int.natAbs_natCast]
    show convertRows _ dst width (-(height : Int)).natAbs = convertRows _ dst width height
    rw [hrows]
    refine convertRows_congr dst fun row hrow i hi => ?_
    have hnegative : decide (-(height : Int) < 0) = true := decide_eq_true (by omega)
    have hpositive : decide ((height : Int) < 0) = false := decide_eq_false (by omega)
    unfold rowByte
    rw [hnegative, hpositive, if_pos rfl, if_neg Bool.false_ne_true, h row hrow i hi]

/-- Two by two gray pixels, bottom-up with padding and top-down without. -/
theorem conversions_agree_gray :
    let up : Raw :=
      ⟨[255, 255, 255, 0, 0, 0, 0, 0, 7, 7, 0, 0, 0, 0, 255, 255, 255, 0, 7, 7], 10, true⟩
    let down : Raw := ⟨[0, 0, 0, 0, 255, 255, 255, 0, 255, 255, 255, 0, 0, 0, 0, 0], 8, false⟩
    let dst : NV12Buffer := ⟨[0, 0, 0, 0], [0, 0], 2, 2⟩
    (Converter.write integerYuv ⟨.rgb32, []⟩ up ⟨2, 2⟩ dst).map Written.result =
        some (true, ⟨[16, 235, 235, 16], [128, 128], 2, 2⟩) ∧
      (Converter.write integerYuv ⟨.rgb32, [9]⟩ down ⟨2, 2⟩ dst).map Written.result =
        some (true, ⟨[16, 235, 235, 16], [128, 128], 2, 2⟩) := by
  intro up down dst
  have hflipped : Flipped .rgb32 ⟨2, 2⟩ up down :=
    ⟨rfl, rfl, ⟨by decide, by decide, fun _ => rfl, by decide, by decide⟩,
      ⟨by decide, by decide, fun _ => rfl, by decide, by decide⟩, by decide⟩
  have hdown : (Converter.write integerYuv ⟨.rgb32, [9]⟩ down ⟨2, 2⟩ dst).map Written.result =
      some (true, ⟨[16, 235, 235, 16], [128, 128], 2, 2⟩) := by decide
  refine ⟨?_, hdown⟩
  rw [← hdown]
  exact (conversions_agree integerYuv readsRows_integerYuv).1 .rgb32 ⟨2, 2⟩ up down dst [] [9] rfl
    hflipped

end Camera
end Ldktela
