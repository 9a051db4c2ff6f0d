import Ldktela.Camera.Convert
import Ldktela.Lib.Attempts

/-!
# The format a camera is opened with

`negotiate` of `desktop/src-tauri/src/camera/mf.rs` and of `camera/dshow.rs`, with what
they call: what a device says of its formats, what it is asked for, and what it is taken
to deliver.  The source reader of Media Foundation and the stream configuration of
DirectShow are objects of Windows with a state of their own, and they answer each call
as they like; a list of formats is finite.  Allocating a media type and writing its
attributes does not fail.

Both paths start a camera on the size and layout that they settled on.  The converter
reads only sizes with even sides.  `shape_of` requires them on the DirectShow path,
nothing does on the other one, and `negotiated_readable_iff` says for which readers the
size is still one that can be read.
-/

namespace Ldktela
namespace Camera

open Attempts

/-! ## What Windows says -/

/-- `windows::core::Error`: the `HRESULT` with its text. -/
structure WinError where
  code : Int
  text : String
deriving DecidableEq

/-- Another application already has the camera. -/
def ERROR_SHARING_VIOLATION : Int := -2147024864

/-- The camera privacy setting says no. -/
def E_ACCESSDENIED : Int := -2147024891

/-- The driver refused to start. -/
def MF_E_HW_MFT_FAILED_START_STREAMING : Int := -1072873339

/-- The errors of a negotiation. -/
inductive CameraError where
  | busy
  | notAllowed
  | noUsableFormat
  | onlyCompressed
  | platform (message : String)
deriving DecidableEq

namespace CameraError

def fromHresult (error : WinError) (context : String) : CameraError :=
  if error.code = ERROR_SHARING_VIOLATION ∨ error.code = MF_E_HW_MFT_FAILED_START_STREAMING then
    .busy
  else if error.code = E_ACCESSDENIED then .notAllowed
  else .platform (context ++ ": " ++ error.text)

/-- The device answered, and would answer the same again. -/
def isFinal : CameraError → Bool
  | busy | notAllowed => true
  | noUsableFormat | onlyCompressed | platform _ => false

end CameraError

/-- A call to Windows, with what it was for. -/
def call {σ α : Type} (context : String) (x : EStateM WinError σ α) :
    EStateM CameraError σ α :=
  x.adaptExcept fun error => .fromHresult error context

/-- The subtypes of video that are told apart.  The YUV ones are the same in both APIs,
the RGB ones are not. -/
inductive Subtype where
  | nv12
  | i420
  | iyuv
  | yuy2
  | uyvy
  | directRgb32
  | directRgb24
  | rgb32
  | argb32
  | rgb24
  | other (code : Nat)
deriving DecidableEq

def Pixels.fromSubtype : Subtype → Option Pixels
  | .nv12 => some .nv12
  | .i420 | .iyuv => some .i420
  | .yuy2 => some .yuy2
  | .uyvy => some .uyvy
  -- the same bytes: the alpha is ignored
  | .directRgb32 | .rgb32 | .argb32 => some .rgb32
  | .directRgb24 | .rgb24 => some .rgb24
  | .other _ => none

/-- Bytes per row, as DirectShow lays the format out. -/
def Pixels.stride (kind : Pixels) (width : Nat) : Nat :=
  match kind with
  | .nv12 | .i420 => width
  | .yuy2 | .uyvy => width * 2
  | .rgb32 => width * 4
  | .rgb24 => (width * 3 + 3) / 4 * 4

/-! ## Media Foundation -/

namespace Mf

/-- The attributes of an `IMFMediaType` that are read or written. -/
structure MediaType where
  subtype : Option Subtype
  frameSize : Option UInt64
  frameRate : Option UInt64
  nominalRange : Option Nat
  defaultStride : Option Int
deriving DecidableEq

def MFNominalRange_16_235 : Nat := 2

/-- The two halves of a packed attribute. -/
def halves (packed : UInt64) : Nat × Nat :=
  ((packed >>> 32).toNat, (packed &&& 0xFFFFFFFF).toNat)

namespace MediaType

def size (mediaType : MediaType) : Option Size :=
  mediaType.frameSize.map fun packed => ⟨(halves packed).1, (halves packed).2⟩

def rate (mediaType : MediaType) : Option Nat :=
  mediaType.frameRate.bind fun packed =>
    if 0 < (halves packed).2 then some ((halves packed).1 / (halves packed).2) else none

def pixels (mediaType : MediaType) : Option Pixels :=
  mediaType.subtype.bind Pixels.fromSubtype

end MediaType

inductive Stream where
  | all
  | firstVideo

/-- What `IMFSourceReader` does with a call, from a state of its own. -/
structure SourceReader (σ : Type) where
  setStreamSelection : Stream → Bool → EStateM WinError σ Unit
  /-- The native types by index, up to `MF_E_NO_MORE_TYPES`. -/
  offered : σ → List (Except WinError MediaType)
  /-- One of the native types once more. -/
  nativeMediaType : Nat → EStateM WinError σ MediaType
  setCurrentMediaType : MediaType → EStateM WinError σ Unit
  currentMediaType : EStateM WinError σ MediaType
  /-- What a type answers for an attribute that it does not have. -/
  attributeNotFound : WinError

/-- A format is listed when it has a size of at least two by two. -/
def nativeOf (index : Nat) (offered : MediaType) : Option Native :=
  match offered.size with
  | none => none
  | some size =>
      if size.width < 2 ∨ size.height < 2 then none
      else some ⟨index, ⟨size, offered.rate.getD 30⟩, offered.pixels⟩

def nativesFrom : Nat → List (Except WinError MediaType) → Except CameraError (List Native)
  | _, [] => .ok []
  | _, .error error :: _ => .error (.fromHresult error "lendo os formatos")
  | index, .ok offered :: rest =>
      match nativesFrom (index + 1) rest with
      | .error error => .error error
      | .ok natives => .ok ((nativeOf index offered).toList ++ natives)

/-- What the reader was talked into delivering. -/
structure Negotiated where
  size : Size
  pixels : Pixels
  stride : Option Int
deriving DecidableEq

/-- Uncompressed outputs to ask a decoder for, in the order we would rather have them. -/
def DECODED : List Subtype := [.nv12, .yuy2, .i420, .rgb32]

namespace SourceReader

variable {σ : Type} (reader : SourceReader σ)

/-- Every format the device offers on its first video stream. -/
def nativeFormats : EStateM CameraError σ (List Native) := fun s =>
  match nativesFrom 0 (reader.offered s) with
  | .ok natives => .ok natives s
  | .error error => .error error s

/-- Reads the output type the reader settled on: what counts is what it says, not what it
was asked for. -/
def current : EStateM CameraError σ Negotiated := do
  let current ← call "lendo o formato negociado" reader.currentMediaType
  let subtype ← orThrow (.fromHresult reader.attributeNotFound "lendo o formato negociado")
    current.subtype
  let pixels ← orThrow .noUsableFormat (Pixels.fromSubtype subtype)
  let size ← orThrow .noUsableFormat current.size
  return ⟨size, pixels, current.defaultStride⟩

/-- Asks for the output of a decoder, at the size and rate of the format. -/
def request (offered : MediaType) (subtype : Subtype) : EStateM WinError σ Unit := do
  let frameSize ← orThrow reader.attributeNotFound offered.frameSize
  reader.setCurrentMediaType
    ⟨some subtype, some frameSize, offered.frameRate, some MFNominalRange_16_235, none⟩

/-- The first output that the reader goes along with. -/
def decode (offered : MediaType) : EStateM CameraError σ Unit :=
  (firstOf (fun _ => false) (reader.request offered) DECODED none).adaptExcept fun refusal =>
    match refusal with
    | some error => .fromHresult error "decodificando o video da camera"
    | none => .onlyCompressed

/-- Puts the device in one native format and gets frames we can read out of it. -/
def tryNative (native : Native) : EStateM CameraError σ Negotiated := do
  let offered ← call "relendo o formato escolhido" (reader.nativeMediaType native.index)
  call "fixando o formato da camera" (reader.setCurrentMediaType offered)
  if native.pixels.isNone then reader.decode offered else pure ()
  reader.current

/-- Turns the stream of video on, and every other one off if the reader lets us. -/
def selectVideo : EStateM CameraError σ Unit := fun s =>
  match reader.setStreamSelection .all false s with
  | .ok _ s | .error _ s =>
      call "ligando a trilha de video" (reader.setStreamSelection .firstVideo true) s

/-- Settles the reader on a format we can read. -/
def negotiate (ceiling : Size) (fps : Nat) : EStateM CameraError σ Negotiated := do
  reader.selectVideo
  let natives ← reader.nativeFormats
  (firstOf CameraError.isFinal reader.tryNative (ranked natives ceiling fps) none).adaptExcept
    fun last => last.getD .noUsableFormat

end SourceReader
end Mf

/-! ## DirectShow -/

namespace Dshow

/-- The fields of a `VIDEOINFOHEADER` that are read or written. -/
structure VideoInfoHeader where
  avgTimePerFrame : Int
  biWidth : Int32
  biHeight : Int32
deriving DecidableEq

/-- The block that `pbFormat` points at, of `cbFormat` bytes. -/
structure FormatBlock where
  length : Nat
  header : VideoInfoHeader
deriving DecidableEq

/-- The size of a `VIDEOINFOHEADER`. -/
def VIDEO_INFO_HEADER : Nat := 88

/-- The size of a `VIDEO_STREAM_CONFIG_CAPS`. -/
def VIDEO_STREAM_CONFIG_CAPS : Int := 128

/-- `AM_MEDIA_TYPE`. -/
structure AmMediaType where
  /-- `MEDIATYPE_Video`. -/
  isVideo : Bool
  /-- `FORMAT_VideoInfo`. -/
  isVideoInfo : Bool
  subtype : Subtype
  /-- `none` when `pbFormat` is null. -/
  format : Option FormatBlock
deriving DecidableEq

/-- A video format as our sink understands it. -/
structure Shape where
  kind : Pixels
  size : Size
  bottomUp : Bool
  subtype : Subtype
  format : FormatBlock
deriving DecidableEq

/-- Reads a media type, if it is one we can both understand and convert. -/
def shapeOf (pmt : Option AmMediaType) : Option Shape := do
  let media ← pmt
  if !media.isVideo || !media.isVideoInfo then none
  else do
    let format ← media.format
    if format.length < VIDEO_INFO_HEADER then none
    else do
      let kind ← Pixels.fromSubtype media.subtype
      let width := format.header.biWidth
      -- a negative height is how a bitmap says "top-down"
      let height := format.header.biHeight.abs
      let bottomUp := (kind = .rgb32 ∨ kind = .rgb24) ∧ 0 < format.header.biHeight
      if width < 2 ∨ height < 2 ∨ width % 2 ≠ 0 ∨ height % 2 ≠ 0 then none
      else
        some ⟨kind, ⟨width.toInt.toNat, height.toInt.toNat⟩, bottomUp, media.subtype, format⟩

/-- The frame intervals of a capability, in units of 100 ns. -/
structure StreamCaps where
  minFrameInterval : Int
  maxFrameInterval : Int
deriving DecidableEq

def rate (interval : Int) : Nat :=
  if 0 < interval then (10000000 / interval).toNat else 0

/-- The frame rate this capability can actually deliver, closest to `wanted`. -/
def achievableFps (caps : StreamCaps) (wanted : Nat) : Nat :=
  let fastest := rate caps.minFrameInterval
  let slowest := rate caps.maxFrameInterval
  if fastest = 0 ∨ slowest = 0 ∨ slowest > fastest then wanted
  else max slowest (min wanted fastest)

/-- What `IAMStreamConfig` does with a call, from a state of its own. -/
structure StreamConfig (τ : Type) where
  /-- The number of capabilities and the size of one. -/
  numberOfCapabilities : EStateM WinError τ (Int × Int)
  streamCaps : Nat → EStateM WinError τ (Option AmMediaType × StreamCaps)
  setFormat : Option AmMediaType → EStateM WinError τ Unit

/-- One capability that we can use. -/
structure Candidate where
  index : Nat
  format : Format
  kind : Pixels
deriving DecidableEq

/-- The candidate in one capability. -/
def candidateOf (index fps : Nat) (pmt : Option AmMediaType) (caps : StreamCaps) :
    Option Candidate :=
  (shapeOf pmt).map fun shape => ⟨index, ⟨shape.size, achievableFps caps fps⟩, shape.kind⟩

/-- The rate lives in the header, in units of 100 ns per frame. -/
def withRate (fps : Nat) (pmt : Option AmMediaType) : Option AmMediaType :=
  if 0 < fps then
    pmt.map fun media =>
      { media with
        format := media.format.map fun block =>
          { block with header := { block.header with avgTimePerFrame := 10000000 / (fps : Int) } } }
  else pmt

namespace StreamConfig

variable {τ : Type} (config : StreamConfig τ)

/-- What the capabilities offer, and whether one was video.  One that is not told is
passed over. -/
def capabilities (fps : Nat) : List Nat → EStateM CameraError τ (List Candidate × Bool)
  | [] => pure ([], false)
  | index :: rest => fun t =>
      match config.streamCaps index t with
      | .error _ t => capabilities fps rest t
      | .ok (pmt, caps) t =>
          match capabilities fps rest t with
          | .error error t => .error error t
          | .ok (candidates, sawVideo) t =>
              .ok ((candidateOf index fps pmt caps).toList ++ candidates,
                pmt.any AmMediaType.isVideo || sawVideo) t

/-- The layout that is cheapest to convert, of the picked size and rate. -/
def cheapest (candidates : List Candidate) (chosen : Format) : Option Candidate :=
  (candidates.filter fun c =>
    c.format.size = chosen.size ∧ c.format.fps = chosen.fps).argmin
      fun c => PREFERENCE.idxOf c.kind

/-- Picks the format and tells the device to use it. -/
def negotiate (pin : Option (StreamConfig τ)) (ceiling : Size) (fps : Nat) :
    EStateM CameraError τ Shape := do
  let config ← orThrow .noUsableFormat pin
  let (count, capsSize) ← call "lendo os formatos" config.numberOfCapabilities
  if count ≤ 0 ∨ capsSize ≠ VIDEO_STREAM_CONFIG_CAPS then throw .noUsableFormat
  else do
    let (candidates, sawVideo) ← config.capabilities fps (List.range count.toNat)
    if candidates.isEmpty then throw (if sawVideo then .onlyCompressed else .noUsableFormat)
    else do
      let chosen ← orThrow .noUsableFormat
        (chooseFormat (candidates.map Candidate.format) ceiling fps)
      let candidate ← orThrow .noUsableFormat (cheapest candidates chosen)
      let (pmt, _) ← call "relendo o formato escolhido" (config.streamCaps candidate.index)
      let wanted := withRate candidate.format.fps pmt
      call "fixando o formato" (config.setFormat wanted)
      -- read once more, because the rate that was written is part of it
      orThrow .noUsableFormat ((shapeOf wanted).or (shapeOf pmt))

end StreamConfig
end Dshow

/-! ## What the converter can read -/

/-- Both sides are even, and not zero. -/
structure Size.Even (size : Size) : Prop where
  width : 2 ≤ size.width ∧ size.width % 2 = 0
  height : 2 ≤ size.height ∧ size.height % 2 = 0

/-- The converter of a layout reads the frame into every buffer that holds the size. -/
def Reads (yuv : YuvHelper) (kind : Pixels) (size : Size) (raw : Raw) : Prop :=
  ∀ dst : NV12Buffer, dst.Holds size →
    ∃ written, (Converter.new kind).write yuv raw size dst = some written ∧ written.ok = true

/-- Some frame of the size and layout can be read. -/
def Deliverable (yuv : YuvHelper) (kind : Pixels) (size : Size) : Prop :=
  ∃ raw, Reads yuv kind size raw

section Deliverable

variable {yuv : YuvHelper} {kind : Pixels} {size : Size} {raw : Raw}

theorem exists_holds (size : Size) : ∃ dst : NV12Buffer, dst.Holds size := by
  refine ⟨⟨List.replicate (size.width * size.height) 0,
    List.replicate (size.width * (size.height / 2)) 0, size.width, size.width⟩, ?_⟩
  constructor
  · exact le_rfl
  · exact le_rfl
  · exact List.length_replicate.ge
  · exact List.length_replicate.ge

theorem reads_iff : Reads yuv kind size raw ↔ raw.Readable kind size := by
  constructor
  · intro h
    obtain ⟨dst, hdst⟩ := exists_holds size
    obtain ⟨written, hrun, hok⟩ := h dst hdst
    obtain ⟨written', hrun', hread, -⟩ := write_answers yuv raw (Converter.new kind) hdst
    obtain rfl := Option.some.inj (hrun.symm.trans hrun')
    exact hread.mp hok
  · intro h dst hdst
    obtain ⟨written, hrun, hread, -⟩ := write_answers yuv raw (Converter.new kind) hdst
    exact ⟨written, hrun, hread.mpr h⟩

/-- A frame of rows that are wide enough, with all the bytes it needs. -/
theorem readable_replicate {pitch : Nat} {bottomUp : Bool} (hsize : size.Even)
    (hupright : bottomUp = true → kind.canBeBottomUp = true)
    (hpitch : kind.minimumPitch size.width ≤ pitch) :
    (Raw.mk (List.replicate (kind.needed pitch size.height) 0) pitch bottomUp).Readable
      kind size where
  width := hsize.width
  height := hsize.height
  upright := hupright
  pitch := hpitch
  data := List.length_replicate.ge

theorem deliverable_iff : Deliverable yuv kind size ↔ size.Even := by
  constructor
  · rintro ⟨raw, h⟩
    have hread := reads_iff.mp h
    exact ⟨hread.width, hread.height⟩
  · intro h
    have hread : (Raw.mk (List.replicate (kind.needed (kind.minimumPitch size.width) size.height) 0)
        (kind.minimumPitch size.width) false).Readable kind size :=
      readable_replicate h nofun le_rfl
    exact ⟨_, reads_iff.mpr hread⟩

/-- A size with an odd side: every frame is skipped. -/
theorem write_of_not_even (yuv : YuvHelper) (kind : Pixels) (h : ¬ size.Even) (raw : Raw)
    (dst : NV12Buffer) :
    (Converter.new kind).write yuv raw size dst = some ⟨false, Converter.new kind, dst⟩ := by
  apply write_of_refuses
  by_contra hrefuses
  have hread := (not_refuses_iff.mp hrefuses).1
  exact h ⟨hread.width, hread.height⟩

theorem minimumPitch_le_stride (kind : Pixels) (width : Nat) :
    kind.minimumPitch width ≤ kind.stride width := by
  cases kind with
  | rgb24 =>
      show width * 3 ≤ (width * 3 + 3) / 4 * 4
      omega
  | nv12 | i420 | yuy2 | uyvy | rgb32 => exact le_rfl

end Deliverable

/-! ## What DirectShow settles on -/

namespace Dshow

theorem toNat_even {side : Int32} (hside : ¬ side < 2) (heven : side % 2 = 0) :
    2 ≤ side.toInt.toNat ∧ side.toInt.toNat % 2 = 0 := by
  rw [Int32.lt_iff_toInt_lt] at hside
  have htwo : (2 : Int32).toInt = 2 := by decide
  have hmod : (side % 2).toInt = 0 := by rw [heven]; decide
  -- the remainder of the source has the sign of the side, which is not negative here
  rw [Int32.toInt_mod, htwo] at hmod
  rw [htwo] at hside
  have hnonneg : 0 ≤ side.toInt := by omega
  rw [Int.tmod_eq_emod_of_nonneg hnonneg] at hmod
  omega

/-- What a media type has passed that was read, and what it was read as. -/
theorem exists_format_of_shapeOf {pmt : Option AmMediaType} {shape : Shape}
    (h : shapeOf pmt = some shape) :
    ∃ (kind : Pixels) (subtype : Subtype) (format : FormatBlock),
      ¬ (format.header.biWidth < 2 ∨ format.header.biHeight.abs < 2 ∨
          format.header.biWidth % 2 ≠ 0 ∨ format.header.biHeight.abs % 2 ≠ 0) ∧
        shape = ⟨kind, ⟨format.header.biWidth.toInt.toNat, format.header.biHeight.abs.toInt.toNat⟩,
          (kind = .rgb32 ∨ kind = .rgb24) ∧ 0 < format.header.biHeight, subtype, format⟩ := by
  unfold shapeOf at h
  simp only [Option.bind_eq_bind, Option.bind_eq_some_iff] at h
  obtain ⟨media, -, h⟩ := h
  split at h
  · cases h
  · obtain ⟨format, -, h⟩ := Option.bind_eq_some_iff.mp h
    -- what is left of the guards is the one about the sides
    split at h
    · cases h
    · obtain ⟨kind, -, h⟩ := Option.bind_eq_some_iff.mp h
      split at h
      · cases h
      · next hsides => exact ⟨kind, media.subtype, format, hsides, (Option.some.inj h).symm⟩

theorem shapeOf_even {pmt : Option AmMediaType} {shape : Shape} (h : shapeOf pmt = some shape) :
    shape.size.Even ∧ (shape.bottomUp = true → shape.kind.canBeBottomUp = true) := by
  obtain ⟨kind, subtype, format, hsides, rfl⟩ := exists_format_of_shapeOf h
  simp only [not_or, not_not] at hsides
  obtain ⟨hwidth, hheight, hevenWidth, hevenHeight⟩ := hsides
  refine ⟨⟨toNat_even hwidth hevenWidth, toNat_even hheight hevenHeight⟩, ?_⟩
  intro hup
  -- only RGB is ever bottom-up
  obtain ⟨rfl | rfl, -⟩ := of_decide_eq_true hup
  · rfl
  · rfl

/-- The sides are `i32`. -/
theorem shapeOf_size {pmt : Option AmMediaType} {shape : Shape} (h : shapeOf pmt = some shape) :
    shape.size.width < 2 ^ 31 ∧ shape.size.height < 2 ^ 31 := by
  obtain ⟨kind, subtype, format, -, rfl⟩ := exists_format_of_shapeOf h
  have hwidth := format.header.biWidth.toInt_lt
  have hheight := format.header.biHeight.abs.toInt_lt
  exact ⟨by dsimp only; omega, by dsimp only; omega⟩

variable {τ : Type} {pin : Option (StreamConfig τ)} {ceiling : Size} {fps : Nat}

/-- The shape is one that a media type of the device was read as. -/
theorem exists_shapeOf {shape : Shape} {t t' : τ}
    (h : StreamConfig.negotiate pin ceiling fps t = .ok shape t') :
    ∃ pmt, shapeOf pmt = some shape := by
  unfold StreamConfig.negotiate at h
  obtain ⟨config, t₁, -, h⟩ := bind_eq_ok.mp h
  obtain ⟨⟨count, capsSize⟩, t₂, -, h⟩ := bind_eq_ok.mp h
  dsimp only at h
  split at h
  · cases h
  · obtain ⟨⟨candidates, sawVideo⟩, t₃, -, h⟩ := bind_eq_ok.mp h
    dsimp only at h
    split at h
    · cases h
    · obtain ⟨chosen, t₄, -, h⟩ := bind_eq_ok.mp h
      obtain ⟨candidate, t₅, -, h⟩ := bind_eq_ok.mp h
      obtain ⟨⟨pmt, caps⟩, t₆, -, h⟩ := bind_eq_ok.mp h
      obtain ⟨applied, t₇, -, h⟩ := bind_eq_ok.mp h
      -- before the calls are made and after them, it is read by `shapeOf`
      obtain ⟨hshape, -⟩ := orThrow_eq_ok.mp h
      rcases Option.or_eq_some_iff.mp hshape with hwanted | ⟨-, hoffered⟩
      · exact ⟨_, hwanted⟩
      · exact ⟨_, hoffered⟩

/-- Whatever the device does, the frames it was asked for can be read, the way up it said
and with the rows DirectShow lays out. -/
theorem negotiate_reads (yuv : YuvHelper) {shape : Shape} {t t' : τ}
    (h : StreamConfig.negotiate pin ceiling fps t = .ok shape t') :
    ∃ raw, raw.bottomUp = shape.bottomUp ∧ raw.pitch = shape.kind.stride shape.size.width ∧
      Reads yuv shape.kind shape.size raw := by
  obtain ⟨pmt, hshape⟩ := exists_shapeOf h
  obtain ⟨heven, hupright⟩ := shapeOf_even hshape
  have hpitch := minimumPitch_le_stride shape.kind shape.size.width
  exact ⟨_, rfl, rfl, reads_iff.mpr (readable_replicate heven hupright hpitch)⟩

end Dshow

/-! ## What Media Foundation settles on -/

namespace Mf

variable {σ : Type} {reader : SourceReader σ} {native : Native} {s s' : σ}

/-- The reader goes along with an attempt: it takes the native type and, if that is
compressed, one of the outputs after it refused those before. -/
inductive GoesAlong (reader : SourceReader σ) (native : Native) (s : σ) : σ → Prop
  | raw {offered s₁ s₂} : native.pixels.isNone = false →
      reader.nativeMediaType native.index s = .ok offered s₁ →
      reader.setCurrentMediaType offered s₁ = .ok () s₂ → GoesAlong reader native s s₂
  | decoded {offered refused subtype rest s₁ s₂ s₃ s₄} : native.pixels.isNone = true →
      reader.nativeMediaType native.index s = .ok offered s₁ →
      reader.setCurrentMediaType offered s₁ = .ok () s₂ →
      DECODED = refused ++ subtype :: rest →
      Fail (fun _ => false) (reader.request offered) refused s₂ s₃ →
      reader.request offered subtype s₃ = .ok () s₄ → GoesAlong reader native s s₄

/-- The reader says that it will deliver frames of the size, in a layout that is known. -/
def Says (reader : SourceReader σ) (s : σ) (size : Size) : Prop :=
  ∃ mediaType s', reader.currentMediaType s = .ok mediaType s' ∧
    mediaType.pixels.isSome = true ∧ mediaType.size = some size

/-- After attempts that fail, the reader goes along with one and says the size. -/
def SettlesOn (reader : SourceReader σ) (ceiling : Size) (fps : Nat) (s : σ) (size : Size) :
    Prop :=
  ∃ s₁ natives failed taken rest s₂ s₃, reader.selectVideo s = .ok () s₁ ∧
    nativesFrom 0 (reader.offered s₁) = .ok natives ∧
    ranked natives ceiling fps = failed ++ taken :: rest ∧
    Fail CameraError.isFinal reader.tryNative failed s₁ s₂ ∧
    GoesAlong reader taken s₂ s₃ ∧ Says reader s₃ size

theorem call_eq_ok {α : Type} {context : String} {x : EStateM WinError σ α} {a : α} :
    call context x s = .ok a s' ↔ x s = .ok a s' :=
  adaptExcept_eq_ok

theorem current_eq_ok {n : Negotiated} :
    reader.current s = .ok n s' ↔ ∃ mediaType, reader.currentMediaType s = .ok mediaType s' ∧
      mediaType.pixels = some n.pixels ∧ mediaType.size = some n.size ∧
      mediaType.defaultStride = n.stride := by
  constructor
  · intro h
    obtain ⟨mediaType, s₁, hcall, h⟩ := bind_eq_ok.mp h
    obtain ⟨subtype, s₂, hread, h⟩ := bind_eq_ok.mp h
    obtain ⟨hsubtype, rfl⟩ := orThrow_eq_ok.mp hread
    obtain ⟨pixels, s₃, hread, h⟩ := bind_eq_ok.mp h
    obtain ⟨hpixels, rfl⟩ := orThrow_eq_ok.mp hread
    obtain ⟨size, s₄, hread, h⟩ := bind_eq_ok.mp h
    obtain ⟨hsize, rfl⟩ := orThrow_eq_ok.mp hread
    cases h
    refine ⟨mediaType, call_eq_ok.mp hcall, ?_, hsize, rfl⟩
    rw [MediaType.pixels, hsubtype]
    exact hpixels
  · rintro ⟨mediaType, hcall, hpixels, hsize, hstride⟩
    obtain ⟨subtype, hsubtype, hknown⟩ := Option.bind_eq_some_iff.mp hpixels
    refine bind_eq_ok.mpr ⟨mediaType, s', call_eq_ok.mpr hcall, ?_⟩
    refine bind_eq_ok.mpr ⟨subtype, s', orThrow_eq_ok.mpr ⟨hsubtype, rfl⟩, ?_⟩
    refine bind_eq_ok.mpr ⟨n.pixels, s', orThrow_eq_ok.mpr ⟨hknown, rfl⟩, ?_⟩
    refine bind_eq_ok.mpr ⟨n.size, s', orThrow_eq_ok.mpr ⟨hsize, rfl⟩, ?_⟩
    rw [hstride]
    rfl

theorem decode_eq_ok {offered : MediaType} :
    reader.decode offered s = .ok () s' ↔ ∃ refused subtype rest s₁,
      DECODED = refused ++ subtype :: rest ∧
      Fail (fun _ => false) (reader.request offered) refused s s₁ ∧
      reader.request offered subtype s₁ = .ok () s' :=
  adaptExcept_eq_ok.trans firstOf_eq_ok_iff

theorem tryNative_eq_ok {n : Negotiated} :
    reader.tryNative native s = .ok n s' ↔
      ∃ s₁, GoesAlong reader native s s₁ ∧ reader.current s₁ = .ok n s' := by
  constructor
  · intro h
    obtain ⟨offered, s₁, hnative, h⟩ := bind_eq_ok.mp h
    obtain ⟨⟨⟩, s₂, hset, h⟩ := bind_eq_ok.mp h
    rw [call_eq_ok] at hnative hset
    -- compressed video goes through a decoder
    cases hpixels : native.pixels.isNone with
    | true =>
        rw [if_pos hpixels] at h
        obtain ⟨⟨⟩, s₃, hdecode, hcurrent⟩ := bind_eq_ok.mp h
        obtain ⟨refused, subtype, rest, s₄, horder, hrefused, hrequest⟩ :=
          decode_eq_ok.mp hdecode
        exact ⟨s₃, .decoded hpixels hnative hset horder hrefused hrequest, hcurrent⟩
    | false =>
        rw [if_neg (Bool.eq_false_iff.mp hpixels)] at h
        exact ⟨s₂, .raw hpixels hnative hset, h⟩
  · rintro ⟨s₁, halong, hcurrent⟩
    cases halong with
    | raw hraw hnative hset =>
        refine bind_eq_ok.mpr ⟨_, _, call_eq_ok.mpr hnative, ?_⟩
        refine bind_eq_ok.mpr ⟨(), _, call_eq_ok.mpr hset, ?_⟩
        rw [if_neg (Bool.eq_false_iff.mp hraw)]
        exact hcurrent
    | decoded hcompressed hnative hset horder hrefused hrequest =>
        refine bind_eq_ok.mpr ⟨_, _, call_eq_ok.mpr hnative, ?_⟩
        refine bind_eq_ok.mpr ⟨(), _, call_eq_ok.mpr hset, ?_⟩
        rw [if_pos hcompressed]
        refine bind_eq_ok.mpr ⟨(), s₁, ?_, hcurrent⟩
        exact decode_eq_ok.mpr ⟨_, _, _, _, horder, hrefused, hrequest⟩

theorem nativeFormats_eq_ok {natives : List Native} :
    reader.nativeFormats s = .ok natives s' ↔
      nativesFrom 0 (reader.offered s) = .ok natives ∧ s = s' := by
  unfold SourceReader.nativeFormats
  cases nativesFrom 0 (reader.offered s) with
  | ok natives => simp
  | error error => simp

variable {ceiling : Size} {fps : Nat}

theorem settlesOn_of_negotiate {n : Negotiated}
    (h : reader.negotiate ceiling fps s = .ok n s') :
    SettlesOn reader ceiling fps s n.size := by
  obtain ⟨⟨⟩, s₁, hselect, h⟩ := bind_eq_ok.mp h
  obtain ⟨natives, s₂, hformats, h⟩ := bind_eq_ok.mp h
  obtain ⟨hnatives, rfl⟩ := nativeFormats_eq_ok.mp hformats
  obtain ⟨failed, native, rest, s₃, horder, hfailed, htry⟩ :=
    firstOf_eq_ok_iff.mp (adaptExcept_eq_ok.mp h)
  obtain ⟨s₄, halong, hcurrent⟩ := tryNative_eq_ok.mp htry
  -- the size is what the reader says at the end, and not that of the native format
  obtain ⟨mediaType, hreport, hpixels, hsize, -⟩ := current_eq_ok.mp hcurrent
  have hknown : mediaType.pixels.isSome = true := by rw [hpixels]; rfl
  exact ⟨s₁, natives, failed, native, rest, s₃, s₄, hselect, hnatives, horder, hfailed, halong,
    mediaType, s', hreport, hknown, hsize⟩

theorem exists_negotiate {size : Size} (h : SettlesOn reader ceiling fps s size) :
    ∃ n s', reader.negotiate ceiling fps s = .ok n s' ∧ n.size = size := by
  obtain ⟨s₁, natives, failed, native, rest, s₂, s₃, hselect, hnatives, horder, hfailed, halong,
    mediaType, s', hreport, hknown, hsize⟩ := h
  obtain ⟨pixels, hpixels⟩ := Option.isSome_iff_exists.mp hknown
  refine ⟨⟨size, pixels, mediaType.defaultStride⟩, s', ?_, rfl⟩
  have hcurrent : reader.current s₃ = .ok ⟨size, pixels, mediaType.defaultStride⟩ s' :=
    current_eq_ok.mpr ⟨mediaType, hreport, hpixels, hsize, rfl⟩
  refine bind_eq_ok.mpr ⟨(), s₁, hselect, ?_⟩
  refine bind_eq_ok.mpr ⟨natives, s₁, nativeFormats_eq_ok.mpr ⟨hnatives, rfl⟩, ?_⟩
  apply adaptExcept_eq_ok.mpr
  apply firstOf_eq_ok_iff.mpr
  exact ⟨failed, native, rest, s₂, horder, hfailed, tryNative_eq_ok.mpr ⟨s₃, halong, hcurrent⟩⟩

theorem SettlesOn.eq {size size' : Size} (h : SettlesOn reader ceiling fps s size)
    (h' : SettlesOn reader ceiling fps s size') : size = size' := by
  obtain ⟨n, s₁, hrun, rfl⟩ := exists_negotiate h
  obtain ⟨n', s₂, hrun', rfl⟩ := exists_negotiate h'
  rw [hrun] at hrun'
  cases hrun'
  rfl

end Mf

/-- On DirectShow a format that was negotiated is one that the converter reads.  On Media
Foundation it is one exactly when the size that the reader settles on has even sides. -/
theorem negotiated_readable_iff {σ τ : Type} (yuv : YuvHelper) (ceiling : Size) (fps : Nat)
    (reader : Mf.SourceReader σ) (s : σ) (pin : Option (Dshow.StreamConfig τ)) (t : τ) :
    (∀ shape t', Dshow.StreamConfig.negotiate pin ceiling fps t = .ok shape t' →
      ∃ raw, raw.bottomUp = shape.bottomUp ∧ raw.pitch = shape.kind.stride shape.size.width ∧
        Reads yuv shape.kind shape.size raw) ∧
    ((∀ n s', reader.negotiate ceiling fps s = .ok n s' → Deliverable yuv n.pixels n.size) ↔
      ∀ size, Mf.SettlesOn reader ceiling fps s size → size.Even) := by
  refine ⟨fun shape t' h => Dshow.negotiate_reads yuv h, ?_⟩
  constructor
  · intro h size hsettles
    obtain ⟨n, s', hrun, rfl⟩ := Mf.exists_negotiate hsettles
    exact deliverable_iff.mp (h n s' hrun)
  · intro h n s' hrun
    exact deliverable_iff.mpr (h n.size (Mf.settlesOn_of_negotiate hrun))

/-- A reader that takes every type and says that it delivers it. -/
def Mf.obliging (formats : List Mf.MediaType) : Mf.SourceReader (Option Mf.MediaType) where
  setStreamSelection _ _ := pure ()
  offered _ := formats.map .ok
  nativeMediaType index := orThrow ⟨-1072875847, "no more types"⟩ formats[index]?
  setCurrentMediaType mediaType := set (some mediaType)
  currentMediaType := do orThrow ⟨-1072875852, "no type"⟩ (← get)
  attributeNotFound := ⟨-1072875802, "no such attribute"⟩

/-- A webcam with 720p compressed is opened and read. -/
theorem negotiated_readable_iff_webcam :
    let mjpeg : Mf.MediaType :=
      ⟨some (.other 0x47504A4D), some 0x500000002D0, some 0x1E00000001, none, none⟩
    let yuv : YuvHelper := ⟨fun _ _ _ _ _ _ dst _ _ => dst, fun _ _ dst _ _ => dst⟩
    ∃ n s', (Mf.obliging [mjpeg]).negotiate ⟨1280, 720⟩ 30 none = .ok n s' ∧
      n.size = ⟨1280, 720⟩ ∧ Deliverable yuv n.pixels n.size := by
  intro mjpeg yuv
  let native : Native := ⟨0, ⟨⟨1280, 720⟩, 30⟩, none⟩
  have horder : Mf.DECODED = [] ++ .nv12 :: [.yuy2, .i420, .rgb32] := rfl
  have halong : Mf.GoesAlong (Mf.obliging [mjpeg]) native none
      (some ⟨some .nv12, some 0x500000002D0, some 0x1E00000001, some 2, none⟩) :=
    .decoded rfl rfl rfl horder .nil rfl
  have hsettles : Mf.SettlesOn (Mf.obliging [mjpeg]) ⟨1280, 720⟩ 30 none ⟨1280, 720⟩ :=
    ⟨none, [native], [], native, [], none, _, rfl, rfl, by decide, .nil, halong, _, _, rfl, rfl,
      rfl⟩
  obtain ⟨n, s', hrun, hsize⟩ := Mf.exists_negotiate hsettles
  refine ⟨n, s', hrun, hsize, ?_⟩
  have hiff := (negotiated_readable_iff yuv ⟨1280, 720⟩ 30 (Mf.obliging [mjpeg]) none
    (none : Option (Dshow.StreamConfig Unit)) ()).2
  refine hiff.mpr (fun size hsize => ?_) n s' hrun
  obtain rfl := hsettles.eq hsize
  exact ⟨by decide, by decide⟩

/-- A camera of 641 by 480 is opened, and every one of its frames is skipped. -/
theorem negotiated_odd_size :
    let odd : Mf.MediaType := ⟨some .rgb32, some 0x281000001E0, some 0x1E00000001, none, none⟩
    ∃ n s', (Mf.obliging [odd]).negotiate ⟨1280, 720⟩ 30 none = .ok n s' ∧
      n.size = ⟨641, 480⟩ ∧ ∀ yuv raw dst,
        (Converter.new n.pixels).write yuv raw n.size dst =
          some ⟨false, Converter.new n.pixels, dst⟩ := by
  intro odd
  let native : Native := ⟨0, ⟨⟨641, 480⟩, 30⟩, some .rgb32⟩
  have halong : Mf.GoesAlong (Mf.obliging [odd]) native none (some odd) := .raw rfl rfl rfl
  have hsettles : Mf.SettlesOn (Mf.obliging [odd]) ⟨1280, 720⟩ 30 none ⟨641, 480⟩ :=
    ⟨none, [native], [], native, [], none, _, rfl, rfl, by decide, .nil, halong, _, _, rfl, rfl,
      rfl⟩
  obtain ⟨n, s', hrun, hsize⟩ := Mf.exists_negotiate hsettles
  refine ⟨n, s', hrun, hsize, fun yuv raw dst => write_of_not_even yuv n.pixels ?_ raw dst⟩
  rw [hsize]
  intro heven
  exact absurd heven.width.2 (by decide)

end Camera
end Ldktela
