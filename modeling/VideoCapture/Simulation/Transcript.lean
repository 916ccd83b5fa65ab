import VideoCapture.Device.Stored
import VideoCapture.Simulation.Description
/-!
# Transcripts

Histories, frames and failures written as JSON, so that runs can be compared.
-/
namespace VideoCapture

open Json (Value)

/-- The JSON form of octets: two digits of base 16 each. -/
def hexText (octets : List UInt8) : Value := .str (String.ofList (octets.flatMap Text.hexOctet))

def Fault.toJson (fault : Fault) : Value :=
  let named := Simulation.Description.faultKinds.find? (·.2 == fault.kind)
  .object [("error",.str ((named.map (·.1)).getD "Uncategorized")),
    ("errno",.orNull .nat fault.errno?),
    ("message",.str fault.message)]

namespace EngineError

def name : EngineError → String
  | deviceUnavailable _ _ => "DeviceUnavailable"
  | negotiation _ _ => "Negotiation"
  | unsupportedFormat _ => "UnsupportedFormat"
  | requestBuffers _ => "RequestBuffers"
  | tooFewBuffers _ => "TooFewBuffers"
  | mapping _ _ => "Mapping"
  | thread _ => "Thread"
  | io _ => "Io"

def kindName (error : EngineError) : String :=
  match error.kind with
  | .deviceUnavailable => "DeviceUnavailable"
  | .negotiationFailure => "NegotiationFailure"
  | .resourceExhaustion => "ResourceExhaustion"
  | .transientIo => "TransientIo"
  | .fatalIo => "FatalIo"

def toJson (error : EngineError) : Value :=
  .object [("error",.str error.name),("kind",.str error.kindName),
    ("message",.str error.message),
    ("source",.orNull (fun cause => .str cause.message) error.cause?)]

end EngineError

/-- The sum of octets, each times its position from one on, modulo `2 ^ 32`. -/
def weightedSum (octets : List UInt8) : UInt32 :=
  (octets.foldl (fun (i,sum) b => (i + 1,sum + b.toUInt32 * i)) ((1 : UInt32),(0 : UInt32))).2

/-- The JSON form of a plane: its pitch and length, its first octets and a sum of all. -/
def Plane.toJson (p : Plane) : Value :=
  .list [.word p.stride,.nat p.data.length,hexText (p.data.take 8),.word (weightedSum p.data)]

def Frame.toJson (f : Frame) : Value :=
  .object [("width",.word f.width),("height",.word f.height),("format",.str f.format.name),
    ("timestamp_ns",.nat f.timestampNanos.toNat),
    ("ts",.list [.int f.timestamp.1.toInt,.word f.timestamp.2]),
    ("sequence",.word f.sequence),("bytes_used",.word f.bytesUsed),
    ("plane_count",.nat f.planes.length),("planes",.list (f.planes.map Plane.toJson))]

def AgreedFormat.toJson (f : AgreedFormat) : Value :=
  .object [("width",.word f.width),("height",.word f.height),
    ("pixelformat",.word f.pixelFormat.value),("stride",.word f.stride),
    ("size_image",.word f.sizeImage)]

def SessionStart.toJson (info : SessionStart) : Value :=
  .object [("device",.str info.device),("format",info.format.toJson),
    ("video_format",.str info.videoFormat.identifier),("interval",info.interval.toJson),
    ("buffers",.nat info.buffers)]

def Request.toJson : Request → Value
  | capability => .list [.str "capability"]
  | format i => .list [.str "enum_format",.word i]
  | frameSize c i => .list [.str "enum_frame_size",.word c.value,.word i]
  | frameInterval c w h i =>
    .list [.str "enum_frame_interval",.word c.value,.word w,.word h,.word i]
  | setFormat w h c => .list [.str "set_format",.word w,.word h,.word c.value]
  | setFrameInterval f =>
    .list [.str "set_frame_interval",.word f.numerator,.word f.denominator]
  | requestBuffers n => .list [.str "request_buffers",.word n]
  | queryBuffer i => .list [.str "query_buffer",.word i]
  | mapBuffer m => .list [.str "map_buffer",.word m.index,.word m.length,.word m.offset]
  | unmapBuffer i l => .list [.str "unmap_buffer",.word i,.word l]
  | queueBuffer i => .list [.str "queue_buffer",.word i]
  | dequeueBuffer => .list [.str "dequeue_buffer"]
  | streamOn => .list [.str "stream_on"]
  | streamOff => .list [.str "stream_off"]
  | waitReadable ms => .list [.str "wait_readable",.nat ms]

/-- The JSON form of a line of the log. Details for developers are left out. -/
def Record.toJson? (r : Record) : Option Value :=
  if r.level.rank ≤ Level.info.rank then
    some (.list [.str "log",.str r.level.name,.str r.text])
  else none

def Event.toJson? : Event → Option Value
  | listed _ => some (.list [.str "candidates"])
  | opened device => some (.list [.str "open",.str device.path])
  | refused path _ _ => some (.list [.str "open",.str path])
  | asked _ r _ => some r.toJson
  | closed device => some (.list [.str "close",.str device.path])
  | spawned _ => none
  | started info _ => some (.list [.str "started",info.toJson])
  | delivered frame _ => some (.list [.str "frame",frame.toJson])
  | stopped frames _ => some (.list [.str "stopped",.nat frames])
  | noticed notice => notice.record.toJson?

/-- Whether a consumer that is a plain function takes no part in an event. -/
def Event.isSessionCall : Event → Bool
  | started _ _ | stopped _ _ => true
  | _ => false

/-- A history in JSON, as the consumer on stage sees it. -/
def Simulation.SinkScript.transcript (sink : Simulation.SinkScript) (history : History) : Value :=
  .list ((history.filter fun e => !(sink.framesOnly && e.isSessionCall)).filterMap Event.toJson?)

def Simulation.Attempt.toJson : Simulation.Attempt → Value
  | opened path => .list [.str "open",.str path]
  | asked r => r.toJson
  | closed path => .list [.str "close",.str path]

end VideoCapture
