import Ldktela.Camera.Conversions
import Ldktela.Camera.Frames
import Ldktela.Camera.Negotiation
import Ldktela.Lib.Simulation

/-!
# Reading the frames of a camera

`run` and `read_frame` of `desktop/src-tauri/src/camera/mf.rs`, `take` and `ReceiveConnection` of
the pin in `camera/dshow.rs`.  A sample is an address in the memory of the process, with a pitch or
a length, and its bytes may lie there top-down or bottom-up.

Both paths keep the layout and a converter from one frame to the next.  The list of turns of a
capture ends where it is stopped.
-/

namespace Ldktela
namespace Camera

open Runs

/-- The memory of the process, by address. -/
abbrev Memory := Int → UInt8

def bytesAt (memory : Memory) (start : Int) (length : Nat) : List UInt8 :=
  (List.range length).map fun i : Nat => memory (start + (i : Int))

/-- The planes that a frame of any size is written into. -/
abbrev Planes (_ : Size) := NV12Buffer

/-- The converter at hand, if it is one for the layout. -/
def Converter.keep (converter : Converter) (kind : Pixels) : Converter :=
  if converter.kind ≠ kind then .new kind else converter

section Paths

variable (yuv : YuvHelper) (buffers : Buffers Planes) (accepts : Sigma Planes → Bool)

/-- `Frames::deliver` of a frame that a converter writes. -/
def deliverConverted (size : Size) (write : Converter → NV12Buffer → Option Written)
    (converter : Converter) (frames : Frames Planes) : Option (Converter × Delivery Planes) :=
  -- a picture without two usable sides is not even written
  if size.width < 2 ∨ size.height < 2 then some (converter, ⟨frames, none, none⟩)
  else
    (write converter (frames.reuse buffers size)).map fun written =>
      (written.converter,
        frames.deliver buffers accepts size fun _ => (written.ok, written.dst))

/-! ## Media Foundation -/

namespace Mf

/-- The contiguous buffer of a sample, by what its locks say. -/
inductive SampleBuffer where
  /-- There is none, or it cannot be locked. -/
  | refused
  /-- `IMF2DBuffer`: where the top row is, and the way from one row to the next. -/
  | twoD (scanline : Option Int) (pitch : Int)
  | plain (data : Option Int) (length : Nat)

/-- The flags of `ReadSample` that are looked at. -/
structure Flags where
  error : Bool
  endOfStream : Bool
  currentMediaTypeChanged : Bool
deriving DecidableEq

/-- One call of `ReadSample`. -/
structure Turn where
  answer : Except WinError (Flags × Option SampleBuffer)
  /-- What `Negotiated::current` says after it. -/
  current : Except CameraError Negotiated
  memory : Memory

/-- Why a capture ends that was not stopped. -/
inductive Lost where
  | gone
  | error (error : CameraError)
  | panicked
deriving DecidableEq

/-- The stride of a plain buffer, as an `i32`. -/
def Negotiated.rowStride (layout : Negotiated) : Int :=
  layout.stride.getD ((layout.pixels.stride layout.size.width : Int).bmod (2 ^ 32))

/-- The bytes that the buffer is read as. -/
def rawOf (memory : Memory) (layout : Negotiated) : SampleBuffer → Option Raw
  | .refused => none
  | .twoD none _ => none
  | .twoD (some scanline) pitch =>
      let span := pitch.natAbs
      let rows := layout.size.height
      if span = 0 then none
      else if 0 < pitch then
        some ⟨bytesAt memory scanline (layout.pixels.needed span rows), span, false⟩
      else
        -- the top row is at the end of the block, which begins at the bottom one
        some ⟨bytesAt memory (scanline - (span * (rows - 1) : Nat)) (span * rows), span, true⟩
  | .plain none _ => none
  | .plain (some data) length =>
      let stride := layout.rowStride
      if stride = 0 then none
      else some ⟨bytesAt memory data length, stride.natAbs, decide (stride < 0)⟩

/-- Hands the pixels of one sample to the converter. -/
def readFrame (memory : Memory) (layout : Negotiated) (buffer : SampleBuffer)
    (converter : Converter) (dst : NV12Buffer) : Option Written :=
  match rawOf memory layout buffer with
  | none => some ⟨false, converter, dst⟩
  | some raw => converter.write yuv raw layout.size dst

/-- What `run` keeps from one turn to the next. -/
structure Capture where
  layout : Negotiated
  converter : Converter
  frames : Frames Planes

def Capture.start (layout : Negotiated) (frames : Frames Planes) : Capture :=
  ⟨layout, .new layout.pixels, frames⟩

/-- The end of a turn: no sample is routine, the device is still waking up. -/
def Capture.deliver (c : Capture) (memory : Memory) (sample : Option SampleBuffer) :
    Except Lost (Option (Delivery Planes) × Capture) :=
  match sample with
  | none => pure (none, c)
  | some buffer =>
      match deliverConverted buffers accepts c.layout.size
          (readFrame yuv memory c.layout buffer) c.converter c.frames with
      | none => throw .panicked
      | some (converter, delivery) =>
          pure (some delivery, ⟨c.layout, converter, delivery.frames⟩)

/-- One turn of the loop. -/
def Capture.turn (c : Capture) (t : Turn) : Except Lost (Option (Delivery Planes) × Capture) := do
  let (flags, sample) ← t.answer.mapError fun e => .error (.fromHresult e "lendo um quadro")
  if flags.error || flags.endOfStream then throw .gone
  else if flags.currentMediaTypeChanged then do
    let layout ← t.current.mapError .error
    Capture.deliver yuv buffers accepts ⟨layout, c.converter.keep layout.pixels, c.frames⟩
      t.memory sample
  else c.deliver yuv buffers accepts t.memory sample

/-- A loop that keeps nothing: it asks for the layout of every frame, and converts it with a new
converter. -/
def plainTurn (frames : Frames Planes) (t : Turn) :
    Except Lost (Option (Delivery Planes) × Frames Planes) := do
  let (flags, sample) ← t.answer.mapError fun e => .error (.fromHresult e "lendo um quadro")
  if flags.error || flags.endOfStream then throw .gone
  else do
    let layout ← t.current.mapError .error
    let (delivery, c) ← (Capture.start layout frames).deliver yuv buffers accepts t.memory sample
    pure (delivery, c.frames)

/-- The reader says so when it delivers another type than before. -/
def Tells (c : Capture) (t : Turn) : Prop :=
  ∀ flags sample, t.answer = .ok (flags, sample) → flags.currentMediaTypeChanged = false →
    t.current = .ok c.layout

end Mf

/-! ## DirectShow -/

namespace Dshow

/-- `IMediaSample`. -/
structure MediaSample where
  /-- The type it was changed to, if it was. -/
  mediaType : Option AmMediaType
  pointer : Except WinError (Option Int)
  actualDataLength : Int

/-- What a received frame is turned into. -/
structure Sink where
  frames : Frames Planes
  converter : Converter
  shape : Shape

/-- What the device does with the pin. -/
inductive Call where
  | receiveConnection (media : Option AmMediaType)
  | receive (memory : Memory) (sample : MediaSample)

/-- What the pin answers. -/
inductive Answer where
  | connected
  | typeNotAccepted
  | taken (delivery : Option (Delivery Planes))
  | failed (error : WinError)

/-- The code indexed out of bounds. -/
inductive Panic where
  | panicked
deriving DecidableEq

def Sink.wear (sink : Sink) (shape : Shape) : Sink :=
  { sink with converter := sink.converter.keep shape.kind, shape }

/-- A frame in memory, laid out the way DirectShow does. -/
def rawOf (memory : Memory) (shape : Shape) (data : Int) : Raw :=
  let stride := shape.kind.stride shape.size.width
  ⟨bytesAt memory data (shape.kind.needed stride shape.size.height), stride, shape.bottomUp⟩

/-- The frame of a sample, in the shape of the sink. -/
def Sink.deliver (sink : Sink) (memory : Memory) (sample : MediaSample) :
    Except Panic (Answer × Sink) :=
  let shape := sink.shape
  match sample.pointer with
  | .error error => pure (.failed error, sink)
  | .ok none => pure (.taken none, sink)
  | .ok (some data) =>
      let needed := shape.kind.needed (shape.kind.stride shape.size.width) shape.size.height
      if sample.actualDataLength ≤ 0 ∨ sample.actualDataLength.toNat < needed then
        pure (.taken none, sink)
      else
        match deliverConverted buffers accepts shape.size
            (fun converter dst => converter.write yuv (rawOf memory shape data) shape.size dst)
            sink.converter sink.frames with
        | none => throw .panicked
        | some (converter, delivery) =>
            pure (.taken (some delivery), ⟨delivery.frames, converter, shape⟩)

/-- Where every frame arrives.  A changed type that is not understood is passed over. -/
def Sink.take (sink : Sink) (memory : Memory) (sample : MediaSample) :
    Except Panic (Answer × Sink) :=
  Sink.deliver yuv buffers accepts (((shapeOf sample.mediaType).map sink.wear).getD sink)
    memory sample

def Sink.answer (sink : Sink) : Call → Except Panic (Answer × Sink)
  | .receiveConnection media =>
      match shapeOf media with
      | none => pure (.typeNotAccepted, sink)
      | some shape => pure (.connected, sink.wear shape)
  | .receive memory sample => sink.take yuv buffers accepts memory sample

def Sink.start (shape : Shape) (frames : Frames Planes) : Sink :=
  ⟨frames, .new shape.kind, shape⟩

/-- A pin that keeps the shape alone: every call meets a new converter. -/
def plainAnswer (sink : Frames Planes × Shape) (call : Call) :
    Except Panic (Answer × (Frames Planes × Shape)) :=
  ((Sink.start sink.2 sink.1).answer yuv buffers accepts call).map fun (answer, after) =>
    (answer, after.frames, after.shape)

end Dshow

/-! ## 64 bits are enough -/

section Fits

/-- The pitch that a lock says is an `i32`. -/
def Mf.SampleBuffer.Fits : SampleBuffer → Prop
  | .twoD _ pitch => pitch.natAbs ≤ 2 ^ 31
  | .refused | .plain _ _ => True

/-- The stride is an `i32`, the height a `u32`. -/
structure Mf.Negotiated.Fits (layout : Negotiated) : Prop where
  stride : ∀ stride ∈ layout.stride, stride.natAbs ≤ 2 ^ 31
  height : layout.size.height < 2 ^ 32

theorem natAbs_bmod_le (x : Int) {m : Nat} (hm : 0 < m) : (x.bmod m).natAbs ≤ m / 2 := by
  have hlow := Int.le_bmod (x := x) hm
  have hhigh := Int.bmod_lt (x := x) hm
  omega

theorem Mf.Negotiated.Fits.rowStride {layout : Negotiated} (h : layout.Fits) :
    layout.rowStride.natAbs ≤ 2 ^ 31 := by
  unfold Negotiated.rowStride
  cases hstride : layout.stride with
  | none =>
      have hhalf := natAbs_bmod_le (layout.pixels.stride layout.size.width) (m := 2 ^ 32)
        (by norm_num)
      rw [Option.getD_none]
      generalize Int.bmod _ _ = stride at hhalf ⊢
      omega
  | some stride => exact h.stride stride hstride

/-- Nothing is computed from a sample of Media Foundation that 64 bits do not hold. -/
theorem Mf.needed_rawOf_lt {memory : Memory} {layout : Negotiated} {buffer : SampleBuffer}
    {raw : Raw} (hlayout : layout.Fits) (hbuffer : buffer.Fits)
    (hraw : rawOf memory layout buffer = some raw) :
    layout.pixels.needed raw.pitch layout.size.height < 2 ^ 64 := by
  refine layout.pixels.needed_lt ?_ hlayout.height
  unfold rawOf at hraw
  split at hraw
  · cases hraw
  · cases hraw
  · next scanline pitch =>
      have hpitch : pitch.natAbs ≤ 2 ^ 31 := hbuffer
      dsimp only at hraw
      split at hraw
      · cases hraw
      · split at hraw
        · rw [← Option.some.inj hraw]
          exact hpitch
        · rw [← Option.some.inj hraw]
          exact hpitch
  · cases hraw
  · dsimp only at hraw
    split at hraw
    · cases hraw
    · rw [← Option.some.inj hraw]
      exact hlayout.rowStride

/-- Nor from one of DirectShow. -/
theorem Dshow.needed_shapeOf_lt {media : Option AmMediaType} {shape : Shape}
    (h : shapeOf media = some shape) :
    shape.kind.needed (shape.kind.stride shape.size.width) shape.size.height < 2 ^ 64 := by
  obtain ⟨hwidth, hheight⟩ := shapeOf_size h
  obtain ⟨kind, ⟨width, height⟩, bottomUp, subtype, format⟩ := shape
  dsimp only at hwidth hheight ⊢
  have hstride : kind.stride width ≤ 2 ^ 33 := by
    cases kind <;> simp only [Pixels.stride] <;> omega
  have hpacked : kind.stride width * height ≤ 2 ^ 33 * (2 ^ 31 - 1) :=
    Nat.mul_le_mul hstride (Nat.le_sub_one_of_lt hheight)
  cases kind with
  | nv12 => exact Pixels.needed_lt .nv12 hwidth.le (by omega)
  | i420 => exact Pixels.needed_lt .i420 hwidth.le (by omega)
  | yuy2 => exact Nat.lt_of_le_of_lt hpacked (by decide)
  | uyvy => exact Nat.lt_of_le_of_lt hpacked (by decide)
  | rgb32 => exact Nat.lt_of_le_of_lt hpacked (by decide)
  | rgb24 => exact Nat.lt_of_le_of_lt hpacked (by decide)

end Fits

/-! ## What is kept -/

section Kept

variable {yuv : YuvHelper} {buffers : Buffers Planes} {accepts : Sigma Planes → Bool}
  {converter : Converter} {kind : Pixels} {size : Size} {frames : Frames Planes}

@[simp]
theorem kind_keep : (converter.keep kind).kind = kind := by
  unfold Converter.keep
  split
  · rfl
  · next h => exact not_not.mp h

theorem keep_new (kind kind' : Pixels) :
    (Converter.new kind).keep kind' = Converter.new kind' := by
  unfold Converter.keep
  split
  · rfl
  · next h => exact congrArg Converter.new (not_not.mp h)

/-- A converter writes what a new one would. -/
theorem result_write_new (h : converter.kind = kind) (raw : Raw) (size : Size) (dst : NV12Buffer) :
    (converter.write yuv raw size dst).map Written.result =
      ((Converter.new kind).write yuv raw size dst).map Written.result := by
  obtain ⟨kind, scratch⟩ := converter
  obtain rfl := h
  exact result_write_scratch yuv kind raw size dst scratch []

/-- The frame that is delivered depends on what is written alone. -/
theorem deliverConverted_cases (buffers : Buffers Planes) (accepts : Sigma Planes → Bool)
    (size : Size) (frames : Frames Planes) (write : Converter → NV12Buffer → Option Written)
    {converter' : Converter} (hwrite : ∀ dst,
      (write converter dst).map Written.result = (write converter' dst).map Written.result)
    (hkind : ∀ dst written, write converter dst = some written →
      written.converter.kind = converter.kind) :
    (deliverConverted buffers accepts size write converter frames = none ∧
        deliverConverted buffers accepts size write converter' frames = none) ∨
      ∃ after after' delivery,
        deliverConverted buffers accepts size write converter frames = some (after, delivery) ∧
        deliverConverted buffers accepts size write converter' frames = some (after', delivery) ∧
        after.kind = converter.kind := by
  unfold deliverConverted
  by_cases hsmall : size.width < 2 ∨ size.height < 2
  · exact .inr ⟨_, _, _, if_pos hsmall, if_pos hsmall, rfl⟩
  · rw [if_neg hsmall, if_neg hsmall]
    have hwritten := hwrite (frames.reuse buffers size)
    cases hw : write converter (frames.reuse buffers size) with
    | none =>
        rw [hw, Option.map_none] at hwritten
        exact .inl ⟨rfl, by rw [Option.map_eq_none_iff.mp hwritten.symm, Option.map_none]⟩
    | some written =>
        rw [hw, Option.map_some] at hwritten
        obtain ⟨written', hw', hresult⟩ := Option.map_eq_some_iff.mp hwritten.symm
        have hpair : (written'.ok, written'.dst) = (written.ok, written.dst) := hresult
        refine .inr ⟨_, written'.converter, _, rfl, ?_, hkind _ _ hw⟩
        rw [hw', Option.map_some, hpair]

namespace Mf

theorem result_readFrame_new {memory : Memory} {layout : Negotiated} {buffer : SampleBuffer}
    (h : converter.kind = layout.pixels) (dst : NV12Buffer) :
    (readFrame yuv memory layout buffer converter dst).map Written.result =
      (readFrame yuv memory layout buffer (.new layout.pixels) dst).map Written.result := by
  unfold readFrame
  cases rawOf memory layout buffer with
  | none => rfl
  | some raw => exact result_write_new h raw layout.size dst

theorem kind_readFrame {memory : Memory} {layout : Negotiated} {buffer : SampleBuffer}
    {dst : NV12Buffer} {written : Written}
    (h : readFrame yuv memory layout buffer converter dst = some written) :
    written.converter.kind = converter.kind := by
  unfold readFrame at h
  split at h
  · rw [← Option.some.inj h]
  · exact kind_of_write h

/-- The loop and the plain one have delivered the same, and the converter is one for the layout. -/
structure Kept (c : Capture) (frames : Frames Planes) : Prop where
  kind : c.converter.kind = c.layout.pixels
  frames : c.frames = frames

theorem Kept.deliver {c : Capture} (h : Kept c frames) (memory : Memory)
    (sample : Option SampleBuffer) :
    Agree Kept (c.deliver yuv buffers accepts memory sample)
      (((Capture.start c.layout frames).deliver yuv buffers accepts memory sample).map
        fun (delivery, after) => (delivery, after.frames)) := by
  obtain ⟨layout, converter, kept⟩ := c
  obtain ⟨hkind, rfl⟩ := h
  dsimp only at hkind
  cases sample with
  | none => exact .ok none ⟨hkind, rfl⟩
  | some buffer =>
      simp only [Capture.deliver, Capture.start]
      rcases deliverConverted_cases buffers accepts layout.size kept
        (readFrame yuv memory layout buffer) (result_readFrame_new hkind)
        (fun dst written => kind_readFrame) with
        ⟨hnone, hnone'⟩ | ⟨after, after', delivery, hsome, hsome', hafter⟩
      · rw [hnone, hnone']
        exact .error _
      · rw [hsome, hsome']
        exact .ok _ ⟨hafter.trans hkind, rfl⟩

theorem Kept.turn {c : Capture} (h : Kept c frames) {t : Turn} (htells : Tells c t) :
    Agree Kept (c.turn yuv buffers accepts t) (plainTurn yuv buffers accepts frames t) := by
  unfold Capture.turn plainTurn
  cases hanswer : t.answer with
  | error e => exact .error _
  | ok answer =>
      obtain ⟨flags, sample⟩ := answer
      simp only [Except.mapError, bind, Except.bind]
      by_cases hends : (flags.error || flags.endOfStream) = true
      · rw [if_pos hends, if_pos hends]
        exact .error _
      · rw [if_neg hends, if_neg hends]
        cases hchanged : flags.currentMediaTypeChanged with
        | true =>
            rw [if_pos rfl]
            cases hcurrent : t.current with
            | error e => exact .error _
            | ok layout =>
                have hkept : Kept ⟨layout, c.converter.keep layout.pixels, c.frames⟩ frames :=
                  ⟨kind_keep, h.frames⟩
                exact hkept.deliver t.memory sample
        | false =>
            rw [if_neg Bool.false_ne_true, htells flags sample hanswer hchanged]
            exact h.deliver t.memory sample

end Mf

namespace Dshow

/-- The pin and the plain one have delivered the same in the same shape. -/
structure Kept (sink : Sink) (plain : Frames Planes × Shape) : Prop where
  kind : sink.converter.kind = sink.shape.kind
  frames : sink.frames = plain.1
  shape : sink.shape = plain.2

theorem kept_start (shape : Shape) (frames : Frames Planes) :
    Kept (.start shape frames) (frames, shape) :=
  ⟨rfl, rfl, rfl⟩

theorem wear_start (shape shape' : Shape) (frames : Frames Planes) :
    (Sink.start shape frames).wear shape' = Sink.start shape' frames := by
  show Sink.mk frames ((Converter.new shape.kind).keep shape'.kind) shape' = _
  rw [keep_new]
  rfl

variable {sink : Sink} {plain : Frames Planes × Shape}

theorem Kept.deliver (h : Kept sink plain) (memory : Memory) (sample : MediaSample) :
    Agree Kept (sink.deliver yuv buffers accepts memory sample)
      (((Sink.start plain.2 plain.1).deliver yuv buffers accepts memory sample).map
        fun (answer, after) => (answer, after.frames, after.shape)) := by
  obtain ⟨kept, converter, shape⟩ := sink
  obtain ⟨frames, worn⟩ := plain
  obtain ⟨hkind, rfl, rfl⟩ := h
  dsimp only at hkind
  show Agree Kept (Sink.deliver yuv buffers accepts ⟨kept, converter, shape⟩ memory sample)
    ((Sink.deliver yuv buffers accepts ⟨kept, .new shape.kind, shape⟩ memory sample).map _)
  simp only [Sink.deliver]
  cases sample.pointer with
  | error error => exact .ok _ ⟨hkind, rfl, rfl⟩
  | ok data =>
      cases data with
      | none => exact .ok _ ⟨hkind, rfl, rfl⟩
      | some data =>
          dsimp only
          split
          · exact .ok _ ⟨hkind, rfl, rfl⟩
          · rcases deliverConverted_cases buffers accepts shape.size kept
              (fun converter dst => converter.write yuv (rawOf memory shape data) shape.size dst)
              (result_write_new hkind (rawOf memory shape data) shape.size)
              (fun dst written => kind_of_write) with
              ⟨hnone, hnone'⟩ | ⟨after, after', delivery, hsome, hsome', hafter⟩
            · rw [hnone, hnone']
              exact .error _
            · rw [hsome, hsome']
              exact .ok _ ⟨hafter.trans hkind, rfl, rfl⟩

theorem Kept.answer (h : Kept sink plain) (call : Call) :
    Agree Kept (sink.answer yuv buffers accepts call)
      (plainAnswer yuv buffers accepts plain call) := by
  cases call with
  | receiveConnection media =>
      simp only [plainAnswer, Sink.answer]
      cases hshape : shapeOf media with
      | none => exact .ok _ ⟨h.kind, h.frames, h.shape⟩
      | some shape => exact .ok _ ⟨kind_keep, h.frames, rfl⟩
  | receive memory sample =>
      simp only [plainAnswer, Sink.answer, Sink.take]
      cases hshape : shapeOf sample.mediaType with
      | none => exact h.deliver memory sample
      | some shape =>
          have hworn : Kept (sink.wear shape) (plain.1, shape) := ⟨kind_keep, h.frames, rfl⟩
          simp only [Option.map_some, Option.getD_some, wear_start]
          exact hworn.deliver memory sample

end Dshow

end Kept

/-- What both paths keep from one frame to the next changes nothing: they deliver what they would
if every frame were read with the layout it has and converted from scratch. -/
theorem reads_as_plain (layout : Mf.Negotiated) (shape : Dshow.Shape) (frames : Frames Planes)
    (turns : List Mf.Turn) (calls : List Dshow.Call)
    (htells : Along (Mf.Capture.turn yuv buffers accepts) Mf.Tells (.start layout frames) turns) :
    drive (Mf.Capture.turn yuv buffers accepts) (.start layout frames) turns =
        drive (Mf.plainTurn yuv buffers accepts) frames turns ∧
      drive (Dshow.Sink.answer yuv buffers accepts) (.start shape frames) calls =
        drive (Dshow.plainAnswer yuv buffers accepts) (frames, shape) calls := by
  constructor
  · have hstart : Mf.Kept (.start layout frames) frames := ⟨rfl, rfl⟩
    refine drive_related ?_ hstart htells
    exact fun c kept t h htells => h.turn htells
  · have halways : Along (Dshow.Sink.answer yuv buffers accepts) (fun _ _ => True)
        (.start shape frames) calls := along_of_forall (fun _ _ => trivial) _ _
    refine drive_related ?_ (Dshow.kept_start shape frames) halways
    exact fun sink plain call h _ => h.answer call

/-- Buffers with no padding, and a scaler that leaves them as they are. -/
def tightBuffers : Buffers Planes where
  new size := ⟨List.replicate (size.width * size.height) 0,
    List.replicate (size.width * (size.height / 2)) 0, size.width, size.width⟩
  scale planes _ := planes

/-- A camera that wakes up, and goes on in another format. -/
theorem reads_as_plain_changed :
    let turns : List Mf.Turn :=
      [⟨.ok (⟨false, false, false⟩, none), .ok ⟨⟨2, 2⟩, .rgb32, none⟩, fun _ => 0⟩,
        ⟨.ok (⟨false, false, true⟩, some (.twoD (some 4) (-4))), .ok ⟨⟨2, 2⟩, .yuy2, none⟩,
          fun _ => 9⟩]
    Along (Mf.Capture.turn integerYuv tightBuffers fun _ => true) Mf.Tells
        (.start ⟨⟨2, 2⟩, .rgb32, none⟩ ⟨⟨2, 2⟩, none, 0, 0⟩) turns ∧
      drive (Mf.Capture.turn integerYuv tightBuffers fun _ => true)
          (.start ⟨⟨2, 2⟩, .rgb32, none⟩ ⟨⟨2, 2⟩, none, 0, 0⟩) turns =
        drive (Mf.plainTurn integerYuv tightBuffers fun _ => true) ⟨⟨2, 2⟩, none, 0, 0⟩ turns := by
  intro turns
  have htells : Along (Mf.Capture.turn integerYuv tightBuffers fun _ => true) Mf.Tells
      (.start ⟨⟨2, 2⟩, .rgb32, none⟩ ⟨⟨2, 2⟩, none, 0, 0⟩) turns := by
    refine ⟨fun _ _ _ _ => rfl, fun _ _ _ => ⟨fun flags sample hanswer hchanged => ?_, ?_⟩⟩
    · cases hanswer
      cases hchanged
    · exact fun _ _ _ => trivial
  exact ⟨htells, (reads_as_plain integerYuv tightBuffers (fun _ => true) ⟨⟨2, 2⟩, .rgb32, none⟩
    ⟨.rgb32, ⟨2, 2⟩, true, .directRgb32, ⟨88, ⟨0, 2, 2⟩⟩⟩ ⟨⟨2, 2⟩, none, 0, 0⟩ turns [] htells).1⟩

end Paths

/-! ## Whichever way a picture lies -/

/-- The bytes of the rows of a picture, from the top. -/
abbrev Picture := Nat → Nat → UInt8

/-- The rows of a picture are in memory, a pitch apart. -/
def LiesAt (memory : Memory) (kind : Pixels) (size : Size) (picture : Picture) (top pitch : Int) :
    Prop :=
  ∀ row < size.height, ∀ i < kind.minimumPitch size.width,
    memory (top + row * pitch + i) = picture row i

/-- Where the first row in memory is. -/
def firstRow (top pitch : Int) (rows : Nat) : Int :=
  if pitch < 0 then top + pitch * (rows - 1 : Nat) else top

/-- The frame holds the rows of the picture. -/
structure Raw.Shows (raw : Raw) (kind : Pixels) (size : Size) (picture : Picture) : Prop where
  pitch : kind.minimumPitch size.width ≤ raw.pitch
  data : kind.needed raw.pitch size.height ≤ raw.data.length
  rows : ∀ row < size.height, ∀ i < kind.minimumPitch size.width,
    raw.data[raw.stored size.height row * raw.pitch + i]? = some (picture row i)

/-- A sample of Media Foundation holds the rows of the picture: a 2-D buffer from its top row on, a
plain one from the row that is first in memory on. -/
def Mf.SampleBuffer.Shows (memory : Memory) (layout : Negotiated) (picture : Picture) :
    SampleBuffer → Prop
  | .twoD (some scanline) pitch =>
      layout.pixels.minimumPitch layout.size.width ≤ pitch.natAbs ∧
        LiesAt memory layout.pixels layout.size picture scanline pitch
  | .plain (some data) length =>
      layout.pixels.minimumPitch layout.size.width ≤ layout.rowStride.natAbs ∧
        layout.rowStride.natAbs * layout.size.height ≤ length ∧
          ∃ top, data = firstRow top layout.rowStride layout.size.height ∧
            LiesAt memory layout.pixels layout.size picture top layout.rowStride
  | _ => False

/-- The pitch of a frame of DirectShow, from the top row down. -/
def Dshow.Shape.pitch (shape : Shape) : Int :=
  if shape.bottomUp then -(shape.kind.stride shape.size.width : Int)
  else shape.kind.stride shape.size.width

/-- The bytes of a DirectShow sample hold the rows of the picture. -/
def Dshow.Shows (memory : Memory) (shape : Shape) (picture : Picture) (data : Int) : Prop :=
  ∃ top, data = firstRow top shape.pitch shape.size.height ∧
    LiesAt memory shape.kind shape.size picture top shape.pitch

/-- The picture as a frame of its own, with no padding. -/
def Raw.tight (kind : Pixels) (size : Size) (picture : Picture) (bottomUp : Bool) : Raw :=
  let pitch := kind.minimumPitch size.width
  ⟨(List.range (pitch * size.height)).map fun k =>
    picture (if bottomUp then size.height - 1 - k / pitch else k / pitch) (k % pitch),
    pitch, bottomUp⟩

/-- What is written for a picture. -/
def converted (yuv : YuvHelper) (kind : Pixels) (size : Size) (picture : Picture)
    (dst : NV12Buffer) : Option (Bool × NV12Buffer) :=
  ((Converter.new kind).write yuv (.tight kind size picture false) size dst).map Written.result

/-- A picture of a size, in the layout of its bytes. -/
structure Shot where
  kind : Pixels
  size : Size
  picture : Picture

/-- A turn that reads the shot: wherever it is and whichever way it lies there. -/
def Mf.Turn.Shows (t : Turn) (shot : Shot) : Prop :=
  ∃ flags buffer layout, t.answer = .ok (flags, some buffer) ∧
    (flags.error || flags.endOfStream) = false ∧ t.current = .ok layout ∧
      layout.pixels = shot.kind ∧ layout.size = shot.size ∧
        buffer.Shows t.memory layout shot.picture

/-- A call that brings the shot to a pin of the shape. -/
def Dshow.Call.Shows (shape : Shape) (call : Call) (shot : Shot) : Prop :=
  ∃ memory sample data worn, call = .receive memory sample ∧ sample.pointer = .ok (some data) ∧
    (shapeOf sample.mediaType).getD shape = worn ∧ worn.kind = shot.kind ∧ worn.size = shot.size ∧
      (worn.kind.needed (worn.kind.stride worn.size.width) worn.size.height : Int) ≤
        sample.actualDataLength ∧
      0 < sample.actualDataLength ∧ Dshow.Shows memory worn shot.picture data

section Deliveries

variable (yuv : YuvHelper) (buffers : Buffers Planes) (accepts : Sigma Planes → Bool)

/-- The delivery of a shot, whatever path it comes by. -/
def deliverShot (frames : Frames Planes) (shot : Shot) : Option (Delivery Planes) :=
  if shot.size.width < 2 ∨ shot.size.height < 2 then some ⟨frames, none, none⟩
  else
    (converted yuv shot.kind shot.size shot.picture (frames.reuse buffers shot.size)).map
      fun written => frames.deliver buffers accepts shot.size fun _ => written

def Mf.deliverShot (frames : Frames Planes) (shot : Shot) :
    Except Lost (Option (Delivery Planes) × Frames Planes) :=
  match Camera.deliverShot yuv buffers accepts frames shot with
  | none => throw .panicked
  | some delivery => pure (some delivery, delivery.frames)

def Dshow.deliverShot (frames : Frames Planes) (shot : Shot) :
    Except Panic (Answer × Frames Planes) :=
  match Camera.deliverShot yuv buffers accepts frames shot with
  | none => throw .panicked
  | some delivery => pure (.taken (some delivery), delivery.frames)

end Deliveries

section Pictures

variable {yuv : YuvHelper} {kind : Pixels} {size : Size} {picture : Picture} {memory : Memory}
  {raw raw' : Raw} {converter converter' : Converter}

theorem needed_of_packed (hkind : kind.canBeBottomUp = true) (pitch height : Nat) :
    kind.needed pitch height = pitch * height := by
  cases kind with
  | nv12 | i420 => cases hkind
  | yuy2 | uyvy | rgb32 | rgb24 => rfl

theorem length_bytesAt (memory : Memory) (start : Int) (length : Nat) :
    (bytesAt memory start length).length = length := by
  rw [bytesAt, List.length_map, List.length_range]

theorem getElem?_bytesAt {start : Int} {length k : Nat} (hk : k < length) :
    (bytesAt memory start length)[k]? = some (memory (start + (k : Int))) := by
  rw [bytesAt, List.getElem?_map, List.getElem?_range hk, Option.map_some]

theorem shows_bytesAt (hkind : kind.canBeBottomUp = true) {top pitch : Int} {length : Nat}
    (hpitch : kind.minimumPitch size.width ≤ pitch.natAbs)
    (hlength : pitch.natAbs * size.height ≤ length)
    (hlies : LiesAt memory kind size picture top pitch) :
    Raw.Shows ⟨bytesAt memory (firstRow top pitch size.height) length, pitch.natAbs,
      decide (pitch < 0)⟩ kind size picture where
  pitch := hpitch
  data := by
    rw [needed_of_packed hkind, length_bytesAt]
    exact hlength
  rows := fun row hrow i hi => by
    have hlast : ∀ k < size.height, k * pitch.natAbs + i < length := fun k hk =>
      (Nat.add_lt_add_left (hi.trans_le hpitch) _).trans_le (row_lt hk le_rfl hlength)
    dsimp only [Raw.stored]
    rw [getElem?_bytesAt (hlast _ (by split <;> omega)), ← hlies row hrow i hi]
    refine congrArg (some ∘ memory) ?_
    rcases lt_or_ge pitch 0 with hneg | hpos
    · -- the row is as far from the end of the block as from the top of the picture
      obtain ⟨back, hback⟩ : ∃ back, size.height - 1 = row + back :=
        Nat.exists_eq_add_of_le (by omega)
      rw [firstRow, if_pos hneg, if_pos (decide_eq_true hneg), hback, Nat.add_sub_cancel_left]
      push_cast
      rw [abs_of_neg hneg]
      ring
    · rw [firstRow, if_neg (not_lt.mpr hpos), if_neg (by simpa using hpos)]
      push_cast
      rw [abs_of_nonneg hpos]
      ring

theorem shows_tight (hkind : kind.canBeBottomUp = true) (picture : Picture) (bottomUp : Bool) :
    (Raw.tight kind size picture bottomUp).Shows kind size picture where
  pitch := le_rfl
  data := by
    rw [needed_of_packed hkind]
    exact (List.length_map _).trans List.length_range |>.ge
  rows := fun row hrow i hi => by
    have hpitch : 0 < kind.minimumPitch size.width := by omega
    have hstored : (Raw.tight kind size picture bottomUp).stored size.height row <
        size.height := by
      unfold Raw.stored
      split <;> omega
    show (List.map _ (List.range (kind.minimumPitch size.width * size.height)))[
      _ * kind.minimumPitch size.width + i]? = _
    rw [List.getElem?_map, List.getElem?_range
      ((Nat.add_lt_add_left hi _).trans_le (row_lt hstored le_rfl le_rfl)), Option.map_some]
    rw [Nat.mul_comm, Nat.mul_add_div hpitch, Nat.mul_add_mod, Nat.div_eq_of_lt hi,
      Nat.mod_eq_of_lt hi, Nat.add_zero]
    cases bottomUp with
    | true =>
        show some (picture (size.height - 1 - (size.height - 1 - row)) i) = _
        rw [Nat.sub_sub_self (by omega)]
    | false => rfl

theorem Raw.Shows.readable (h : raw.Shows kind size picture) (hkind : kind.canBeBottomUp = true)
    (hsize : size.Even) : raw.Readable kind size :=
  ⟨hsize.width, hsize.height, fun _ => hkind, h.pitch, h.data⟩

theorem Raw.Shows.flipped {up down : Raw} (hup : up.Shows kind size picture)
    (hdown : down.Shows kind size picture) (hkind : kind.canBeBottomUp = true)
    (hsize : size.Even) (hbottom : up.bottomUp = true) (htop : down.bottomUp = false) :
    Flipped kind size up down where
  bottomUp := hbottom
  topDown := htop
  readableUp := hup.readable hkind hsize
  readableDown := hdown.readable hkind hsize
  rows := fun row hrow i hi => by
    have h := hup.rows row hrow i hi
    have h' := hdown.rows row hrow i hi
    rw [Raw.stored, if_pos hbottom] at h
    rw [Raw.stored, if_neg (by simp [htop])] at h'
    exact h'.trans h.symm

/-- Whichever way up a frame is and however far apart its rows are, what is written is what the
picture makes. -/
theorem result_write_shows (hyuv : ReadsRows yuv) (hkind : kind.canBeBottomUp = true)
    (hconverter : converter.kind = kind) (h : raw.Shows kind size picture) (dst : NV12Buffer) :
    (converter.write yuv raw size dst).map Written.result =
      converted yuv kind size picture dst := by
  rw [result_write_new hconverter, converted]
  by_cases hsize : size.Even
  · have hdown : (Raw.tight kind size picture false).Shows kind size picture :=
      shows_tight hkind picture false
    cases hbottom : raw.bottomUp with
    | true => exact write_flipped hyuv hkind (h.flipped hdown hkind hsize hbottom rfl)
    | false =>
        have hup : (Raw.tight kind size picture true).Shows kind size picture :=
          shows_tight hkind picture true
        calc ((Converter.new kind).write yuv raw size dst).map Written.result
            = ((Converter.new kind).write yuv (.tight kind size picture true) size dst).map
                Written.result :=
              (write_flipped hyuv hkind (hup.flipped h hkind hsize rfl hbottom)).symm
          _ = _ := write_flipped hyuv hkind (hup.flipped hdown hkind hsize rfl rfl)
  · rw [write_of_not_even yuv kind hsize, write_of_not_even yuv kind hsize]

theorem shows_rawOf_mf {layout : Mf.Negotiated} {buffer : Mf.SampleBuffer}
    (hkind : layout.pixels.canBeBottomUp = true)
    (hwidth : 0 < layout.pixels.minimumPitch layout.size.width)
    (h : buffer.Shows memory layout picture) :
    ∃ raw, Mf.rawOf memory layout buffer = some raw ∧
      raw.Shows layout.pixels layout.size picture := by
  cases buffer with
  | refused => exact h.elim
  | twoD scanline pitch =>
      cases scanline with
      | none => exact h.elim
      | some scanline =>
          obtain ⟨hpitch, hlies⟩ := h
          have hspan : ¬ pitch.natAbs = 0 := by omega
          rw [Mf.rawOf, if_neg hspan]
          split
          · next hpos =>
              refine ⟨_, rfl, ?_⟩
              have hshows := shows_bytesAt hkind hpitch (needed_of_packed hkind _ _).ge hlies
              rwa [firstRow, if_neg (by omega), decide_eq_false (by omega)] at hshows
          · next hnonpos =>
              refine ⟨_, rfl, ?_⟩
              have hshows := shows_bytesAt hkind hpitch le_rfl hlies
              have hneg : pitch < 0 := by omega
              have hblock : scanline - (pitch.natAbs * (layout.size.height - 1) : Nat) =
                  scanline + pitch * (layout.size.height - 1 : Nat) := by
                push_cast
                rw [abs_of_neg hneg]
                ring
              rwa [firstRow, if_pos hneg, decide_eq_true hneg, ← hblock] at hshows
  | plain data length =>
      cases data with
      | none => exact h.elim
      | some data =>
          obtain ⟨hpitch, hlength, top, rfl, hlies⟩ := h
          have hstride : ¬ layout.rowStride = 0 := by omega
          rw [Mf.rawOf, if_neg hstride]
          exact ⟨_, rfl, shows_bytesAt hkind hpitch hlength hlies⟩

theorem shows_rawOf_dshow {shape : Dshow.Shape} {data : Int}
    (hkind : shape.kind.canBeBottomUp = true)
    (hwidth : 0 < shape.kind.minimumPitch shape.size.width)
    (h : Dshow.Shows memory shape picture data) :
    (Dshow.rawOf memory shape data).Shows shape.kind shape.size picture := by
  obtain ⟨top, rfl, hlies⟩ := h
  have hstride := minimumPitch_le_stride shape.kind shape.size.width
  have habs : shape.pitch.natAbs = shape.kind.stride shape.size.width := by
    unfold Dshow.Shape.pitch
    split <;> omega
  have hsign : decide (shape.pitch < 0) = shape.bottomUp := by
    unfold Dshow.Shape.pitch
    cases shape.bottomUp with
    | true => exact decide_eq_true (by rw [if_pos rfl]; omega)
    | false => exact decide_eq_false (by rw [if_neg Bool.false_ne_true]; omega)
  have hshows := shows_bytesAt hkind (hstride.trans habs.ge) le_rfl hlies
  rw [habs, hsign, ← needed_of_packed hkind] at hshows
  exact hshows

/-- A size with an odd side, or none: nothing is written. -/
theorem result_write_of_not_even (hsize : ¬ size.Even) (hconverter : converter.kind = kind)
    (raw : Raw) (dst : NV12Buffer) :
    (converter.write yuv raw size dst).map Written.result = some (false, dst) := by
  rw [result_write_new hconverter, write_of_not_even yuv kind hsize]
  rfl

theorem minimumPitch_pos (hsize : size.Even) : 0 < kind.minimumPitch size.width := by
  have hwidth := hsize.width
  cases kind with
  | nv12 | i420 | yuy2 | uyvy | rgb32 | rgb24 =>
      simp only [Pixels.minimumPitch]
      omega

theorem result_readFrame (hyuv : ReadsRows yuv) {layout : Mf.Negotiated} {buffer : Mf.SampleBuffer}
    (hkind : layout.pixels.canBeBottomUp = true) (hconverter : converter.kind = layout.pixels)
    (h : buffer.Shows memory layout picture) (dst : NV12Buffer) :
    (Mf.readFrame yuv memory layout buffer converter dst).map Written.result =
      converted yuv layout.pixels layout.size picture dst := by
  by_cases hsize : layout.size.Even
  · obtain ⟨raw, hraw, hshows⟩ := shows_rawOf_mf hkind (minimumPitch_pos hsize) h
    rw [Mf.readFrame, hraw]
    exact result_write_shows hyuv hkind hconverter hshows dst
  · rw [converted, result_write_of_not_even hsize rfl, Mf.readFrame]
    split
    · rfl
    · exact result_write_of_not_even hsize hconverter _ dst

theorem result_write_rawOf (hyuv : ReadsRows yuv) {shape : Dshow.Shape} {data : Int}
    (hkind : shape.kind.canBeBottomUp = true) (hconverter : converter.kind = shape.kind)
    (h : Dshow.Shows memory shape picture data) (dst : NV12Buffer) :
    (converter.write yuv (Dshow.rawOf memory shape data) shape.size dst).map Written.result =
      converted yuv shape.kind shape.size picture dst := by
  by_cases hsize : shape.size.Even
  · exact result_write_shows hyuv hkind hconverter
      (shows_rawOf_dshow hkind (minimumPitch_pos hsize) h) dst
  · rw [result_write_of_not_even hsize hconverter, converted]
    exact (result_write_of_not_even hsize rfl _ dst).symm

variable {buffers : Buffers Planes} {accepts : Sigma Planes → Bool} {frames : Frames Planes}

theorem map_snd_deliverConverted {write : Converter → NV12Buffer → Option Written}
    (h : ∀ dst, (write converter dst).map Written.result =
      converted yuv kind size picture dst) :
    (deliverConverted buffers accepts size write converter frames).map Prod.snd =
      deliverShot yuv buffers accepts frames ⟨kind, size, picture⟩ := by
  unfold deliverConverted deliverShot
  dsimp only
  split
  · rfl
  · rw [← h, Option.map_map, Option.map_map]
    rfl

theorem plainTurn_shot (hyuv : ReadsRows yuv) {t : Mf.Turn} {shot : Shot} (h : t.Shows shot)
    (hkind : shot.kind.canBeBottomUp = true) :
    Mf.plainTurn yuv buffers accepts frames t = Mf.deliverShot yuv buffers accepts frames shot := by
  obtain ⟨kind, size, picture⟩ := shot
  obtain ⟨flags, buffer, layout, hanswer, hgoes, hcurrent, rfl, rfl, hshows⟩ := h
  have hread : ∀ dst, (Mf.readFrame yuv t.memory layout buffer (.new layout.pixels) dst).map
      Written.result = converted yuv layout.pixels layout.size picture dst :=
    result_readFrame hyuv hkind rfl hshows
  have hshot : (deliverConverted buffers accepts layout.size
      (Mf.readFrame yuv t.memory layout buffer) (.new layout.pixels) frames).map Prod.snd =
        deliverShot yuv buffers accepts frames ⟨layout.pixels, layout.size, picture⟩ :=
    map_snd_deliverConverted hread
  rw [Mf.plainTurn, hanswer, hcurrent, Mf.deliverShot, ← hshot]
  simp only [Except.mapError, bind, Except.bind, hgoes, Bool.false_eq_true, if_false,
    Mf.Capture.deliver, Mf.Capture.start]
  cases deliverConverted buffers accepts layout.size (Mf.readFrame yuv t.memory layout buffer)
    (.new layout.pixels) frames with
  | none => rfl
  | some answer => rfl

theorem plainAnswer_shot (hyuv : ReadsRows yuv) {shape : Dshow.Shape} {call : Dshow.Call}
    {shot : Shot} (h : call.Shows shape shot) (hkind : shot.kind.canBeBottomUp = true) :
    (Dshow.plainAnswer yuv buffers accepts (frames, shape) call).map
        (fun (answer, after) => (answer, after.1)) =
      Dshow.deliverShot yuv buffers accepts frames shot := by
  obtain ⟨kind, size, picture⟩ := shot
  obtain ⟨memory, sample, data, worn, rfl, hpointer, hworn, rfl, rfl, hlong, hpos, hshows⟩ := h
  have hread : ∀ dst, ((Converter.new worn.kind).write yuv (Dshow.rawOf memory worn data) worn.size
      dst).map Written.result = converted yuv worn.kind worn.size picture dst :=
    result_write_rawOf hyuv hkind rfl hshows
  have hshot : (deliverConverted buffers accepts worn.size
      (fun converter dst => converter.write yuv (Dshow.rawOf memory worn data) worn.size dst)
      (.new worn.kind) frames).map Prod.snd =
        deliverShot yuv buffers accepts frames ⟨worn.kind, worn.size, picture⟩ :=
    map_snd_deliverConverted hread
  have hstart : ((Dshow.shapeOf sample.mediaType).map (Dshow.Sink.start shape frames).wear).getD
      (.start shape frames) = .start worn frames := by
    rw [← hworn]
    cases Dshow.shapeOf sample.mediaType with
    | none => rfl
    | some shape' => exact Dshow.wear_start shape shape' frames
  rw [Dshow.deliverShot, ← hshot, Dshow.plainAnswer, Dshow.Sink.answer, Dshow.Sink.take, hstart]
  show Except.map _ (Except.map _ (Dshow.Sink.deliver yuv buffers accepts
    ⟨frames, .new worn.kind, worn⟩ memory sample)) = _
  simp only [Dshow.Sink.deliver, hpointer]
  rw [if_neg (by omega)]
  cases deliverConverted buffers accepts worn.size
    (fun converter dst => converter.write yuv (Dshow.rawOf memory worn data) worn.size dst)
    (.new worn.kind) frames with
  | none => rfl
  | some answer => rfl

/-- The turns of a stream that read shots, each in the layout of the reader. -/
def Mf.ReadsShot (c : Capture) (p : Turn × Shot) : Prop :=
  Tells c p.1 ∧ p.1.Shows p.2 ∧ p.2.kind.canBeBottomUp = true

def Dshow.ReadsShot (sink : Sink) (p : Call × Shot) : Prop :=
  p.1.Shows sink.shape p.2 ∧ p.2.kind.canBeBottomUp = true

/-- A run of packed shots is delivered as the shots are: on either path, whichever way up their
rows lie, however far apart, in a 2-D buffer or a plain one, and whatever was read before. -/
theorem shots_delivered (hyuv : ReadsRows yuv) (layout : Mf.Negotiated) (shape : Dshow.Shape)
    (frames : Frames Planes) (turns : List (Mf.Turn × Shot)) (calls : List (Dshow.Call × Shot))
    (hturns : Along (fun c p => Mf.Capture.turn yuv buffers accepts c p.1) Mf.ReadsShot
      (.start layout frames) turns)
    (hcalls : Along (fun sink p => Dshow.Sink.answer yuv buffers accepts sink p.1) Dshow.ReadsShot
      (.start shape frames) calls) :
    drive (fun c p => Mf.Capture.turn yuv buffers accepts c p.1) (.start layout frames) turns =
        drive (fun frames p => Mf.deliverShot yuv buffers accepts frames p.2) frames turns ∧
      drive (fun sink p => Dshow.Sink.answer yuv buffers accepts sink p.1) (.start shape frames)
          calls =
        drive (fun frames p => Dshow.deliverShot yuv buffers accepts frames p.2) frames calls := by
  constructor
  · have hstart : Mf.Kept (.start layout frames) frames := ⟨rfl, rfl⟩
    refine drive_related ?_ hstart hturns
    rintro c kept ⟨t, shot⟩ h ⟨htells, hshows, hkind⟩
    have hturn : Agree Mf.Kept (c.turn yuv buffers accepts t)
        (Mf.plainTurn yuv buffers accepts kept t) := h.turn htells
    rwa [plainTurn_shot hyuv hshows hkind] at hturn
  · refine drive_related (R := fun sink kept => Dshow.Kept sink (kept, sink.shape)) ?_
      (Dshow.kept_start shape frames) hcalls
    rintro sink kept ⟨call, shot⟩ h ⟨hshows, hkind⟩
    dsimp only at hshows hkind ⊢
    rw [← plainAnswer_shot hyuv hshows hkind]
    refine (h.answer call).map fun after plain hafter => ?_
    exact ⟨hafter.kind, hafter.frames, rfl⟩

/-- One bottom-up picture in the memory of both paths. -/
theorem shots_delivered_bottomUp :
    let memory : Memory := fun address => UInt8.ofNat address.toNat
    let shot : Shot := ⟨.rgb32, ⟨2, 2⟩, fun row i => memory (8 + (row : Int) * -8 + (i : Int))⟩
    let turn : Mf.Turn := ⟨.ok (⟨false, false, false⟩, some (.twoD (some 8) (-8))),
      .ok ⟨⟨2, 2⟩, .rgb32, none⟩, memory⟩
    drive (fun c p => Mf.Capture.turn integerYuv tightBuffers (fun _ => true) c p.1)
        (.start ⟨⟨2, 2⟩, .rgb32, none⟩ ⟨⟨2, 2⟩, none, 0, 0⟩) [(turn, shot)] =
      drive (fun frames p => Mf.deliverShot integerYuv tightBuffers (fun _ => true) frames p.2)
        ⟨⟨2, 2⟩, none, 0, 0⟩ [(turn, shot)] := by
  intro memory shot turn
  let shape : Dshow.Shape := ⟨.rgb32, ⟨2, 2⟩, true, .directRgb32, ⟨88, ⟨0, 2, 2⟩⟩⟩
  let sample : Dshow.MediaSample := ⟨none, .ok (some 0), 16⟩
  have hturn : turn.Shows shot :=
    ⟨_, _, _, rfl, rfl, rfl, rfl, rfl, by decide, fun _ _ _ _ => rfl⟩
  have hcall : Dshow.Call.Shows shape (.receive memory sample) shot :=
    ⟨memory, sample, 0, shape, rfl, rfl, rfl, rfl, rfl, by decide, by decide, 8, rfl,
      fun _ _ _ _ => rfl⟩
  exact (shots_delivered readsRows_integerYuv ⟨⟨2, 2⟩, .rgb32, none⟩ shape ⟨⟨2, 2⟩, none, 0, 0⟩
    [(turn, shot)] [(.receive memory sample, shot)]
    ⟨⟨fun _ _ _ _ => rfl, hturn, rfl⟩, fun _ _ _ => trivial⟩
    ⟨⟨hcall, rfl⟩, fun _ _ _ => trivial⟩).1

end Pictures

end Camera
end Ldktela
