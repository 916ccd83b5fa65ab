import VideoCapture.Device.Values
import VideoCapture.EngineError
import VideoCapture.Pixel.Layout
/-!
# Frames

A frame is one filled buffer cut into the planes of its format. The geometry is worked out
once per session; a buffer that is too short gives short or empty planes.
-/
namespace VideoCapture

structure Plane where
  /-- Octets from one row to the next. -/
  stride : UInt32
  data : List UInt8
  deriving DecidableEq, Repr, Inhabited

structure Frame where
  /-- In the order Y, U, V, or Y and interleaved chroma. -/
  planes : List Plane
  width : UInt32
  height : UInt32
  format : VideoFormat
  timestampNanos : UInt64
  sequence : UInt32
  /-- Octets of image data in the buffer. -/
  bytesUsed : UInt32
  deriving DecidableEq, Repr, Inhabited

def Frame.timestamp (f : Frame) : Int64 × UInt32 :=
  ((f.timestampNanos / 1000000000).toInt64,(f.timestampNanos % 1000000000).toUInt32)

/-- What all frames of a session have in common. -/
structure FrameGeometry where
  width : UInt32
  height : UInt32
  format : VideoFormat
  layout : ImageLayout
  deriving DecidableEq, Repr, Inhabited

namespace FrameGeometry

/-- The geometry of a negotiated format. Fails where frames cannot be built from it. -/
def of (negotiated : AgreedFormat) : Except EngineError FrameGeometry :=
  match VideoFormat.ofFourCC? negotiated.pixelFormat with
  | none => .error (.unsupportedFormat negotiated.pixelFormat)
  | some format => .ok {
      width := negotiated.width
      height := negotiated.height
      format
      layout := ImageLayout.of negotiated.width negotiated.height negotiated.stride
        negotiated.pixelFormat }

/-- The octets of a plane that lie inside the buffer. -/
def cut (data : List UInt8) (info : PlaneExtent) : Plane :=
  let start := min info.offset data.length
  let stop := min info.stop data.length
  ⟨info.stride,(data.drop start).take (stop - start)⟩

/-- The frame in a filled buffer with contents `data`. -/
def view (geometry : FrameGeometry) (data : List UInt8) (buffer : FilledBuffer) : Frame where
  planes := geometry.layout.planes.map (cut data)
  width := geometry.width
  height := geometry.height
  format := geometry.format
  timestampNanos := buffer.timestamp.nanos
  sequence := buffer.sequence
  bytesUsed := buffer.bytesUsed

end FrameGeometry

structure SessionStart where
  device : String
  format : AgreedFormat
  videoFormat : VideoFormat
  interval : Fraction
  buffers : Nat
  deriving DecidableEq, Repr, Inhabited

end VideoCapture
