import VideoCapture.Kernel.Device
import VideoCapture.Simulation.Transcript
/-!
# A stand-in library

A platform whose library can be loaded and answers the calls on a device from a queue of replies.
Here are also the descriptions of requests and replies, and the JSON forms of what happens.
-/
namespace VideoCapture

open Json (Value)
open Kernel

namespace Simulation

structure StandIn where
  openFault : Option Errno
  closeFault : Option Errno
  readiness : Readiness
  /-- The replies to control requests and to calls about mappings. Past the end every call
      succeeds and writes nothing. -/
  replies : List Answer

namespace StandIn

def outcome (number : Nat) : Option Errno → Outcome
  | some errno => .failed errno
  | none => .done number

def answer (s : StandIn) : SystemCall → Answer × StandIn
  | .open _ _ => (⟨[],outcome 3 s.openFault⟩,s)
  | .close => (⟨[],outcome 0 s.closeFault⟩,s)
  | .control _ _ | .map _ _ _ _ | .unmap _ =>
    match s.replies with
    | [] => (⟨[],.done 0⟩,s)
    | reply :: replies => (reply,{ s with replies })

def platform : Platform StandIn where
  variableValue s := (none,s)
  load _ s := (true,s)
  answer _ call s := s.answer call
  wait _ s := (s.readiness,s)
  interruptions _ _ _ s := s.replies.length
  fewer_interruptions _ _ _ s := by
    obtain ⟨openFault,closeFault,readiness,replies⟩ := s
    intro reply interrupted
    cases replies with
    | nil => cases interrupted
    | cons first others => exact Nat.lt_succ_self _

/-- A process that has decided on the stand-in. -/
def situation (s : StandIn) : Situation StandIn := ⟨some .library,s⟩

end StandIn

namespace Description

def octets (v : Value) : List UInt8 := pairs v.toText.toList
where
  pairs : List Char → List UInt8
    | a :: b :: cs =>
      UInt8.ofNat (((Json.hexValue? a).getD 0) * 16 + (Json.hexValue? b).getD 0) :: pairs cs
    | _ => []

def reply (v : Value) : Answer where
  writes := (v.field "set").items.map fun piece => ((piece.item 0).toNat,octets (piece.item 1))
  outcome :=
    if v.toText = "null" then .null
    else StandIn.outcome 0 ((v.field "errno").optional Value.toNat)

/-- A described state of a descriptor; if nothing is said, it never becomes readable. -/
def readiness (v : Value) : Readiness :=
  match v.toText with
  | "ready" => .ready
  | "hup" => .hungUp
  | "err" | "nval" => .broken
  | _ => .empty

def standIn (v : Value) : StandIn where
  openFault := ((v.field "open").field "errno").optional Value.toNat
  closeFault := ((v.field "close").field "errno").optional Value.toNat
  readiness := readiness (v.field "fd")
  replies := []

def request? (v : Value) : Option Request :=
  let word (key : String) : UInt32 := (v.field key).toWord
  let code : FourCC := ⟨word "pixelformat"⟩
  match (v.field "call").toText with
  | "capability" => some .capability
  | "enum_format" => some (.format (word "index"))
  | "enum_frame_size" => some (.frameSize code (word "index"))
  | "enum_frame_interval" =>
    some (.frameInterval code (word "width") (word "height") (word "index"))
  | "set_format" => some (.setFormat (word "width") (word "height") code)
  | "set_frame_interval" => some (.setFrameInterval ⟨word "numerator",word "denominator"⟩)
  | "request_buffers" => some (.requestBuffers (word "count"))
  | "query_buffer" => some (.queryBuffer (word "index"))
  | "map_buffer" => some (.mapBuffer ⟨word "index",word "length",word "offset"⟩)
  | "unmap_buffer" => some (.unmapBuffer (word "index") (word "length"))
  | "queue_buffer" => some (.queueBuffer (word "index"))
  | "dequeue_buffer" => some .dequeueBuffer
  | "stream_on" => some .streamOn
  | "stream_off" => some .streamOff
  | "wait_readable" => some (.waitReadable (v.field "ms").toNat)
  | _ => none

end Description
end Simulation

/-! ## The JSON forms of replies and calls -/

def entryToJson {α : Type} (write : α → Value) : Option α → Value
  | some entry => write entry
  | none => .str "end"

def Offer.toJson {α : Type} (write : α → Value) : Offer α → Value
  | discrete value => .object [("discrete",write value)]
  | stepwise range => .object [("stepwise",rangeToJson range)]
  | continuous range => .object [("continuous",rangeToJson range)]
where
  rangeToJson (range : Range α) : Value :=
    .list [write range.least,write range.greatest,write range.step]

def Request.replyToJson : (r : Request) → r.Reply → Value
  | capability, c =>
    .object (c.toJson.members ++
      [("node_caps",.word c.nodeAbilities),("is_capture",.bool c.isCapture)])
  | format _, entry =>
    entryToJson (fun (d : FormatDescription) =>
      .list [.word d.index,.word d.pixelFormat.value,.str d.description,.word d.flags]) entry
  | frameSize _ _, entry =>
    entryToJson (Offer.toJson fun r => .list [.word r.width,.word r.height]) entry
  | frameInterval _ _ _ _, entry =>
    entryToJson (Offer.toJson fun f => .list [.word f.numerator,.word f.denominator]) entry
  | setFormat _ _ _, agreed => agreed.toJson
  | setFrameInterval _, f => .list [.word f.numerator,.word f.denominator]
  | requestBuffers _, count => .word count
  | queryBuffer _, info => .list [.word info.index,.word info.length,.word info.offset]
  | dequeueBuffer, b =>
    .list [.word b.index,.word b.bytesUsed,.word b.sequence,.int b.timestamp.sec.toInt,
      .int b.timestamp.usec.toInt,.nat b.timestamp.nanos.toNat]
  | waitReadable _, ready => .bool ready
  | mapBuffer _, () | unmapBuffer _ _, () | queueBuffer _, () => .null
  | streamOn, () | streamOff, () => .null

def Request.answerToJson (r : Request) : Except Fault r.Reply → Value
  | .ok reply => r.replyToJson reply
  | .error fault => fault.toJson

namespace Kernel

/-- Where a structure of so many octets has none that mean anything, each place with its length. -/
def padding (size : Nat) : List (Nat × Nat) :=
  if size = 208 then [(4,4)]
  else if size = 88 then [(20,4),(84,4)]
  else []

/-- A structure as it is shown: zeros in place of padding, and none at the end. -/
def shown (argument : List UInt8) : List UInt8 :=
  withoutZeros (overwriteAll argument
    ((padding argument.length).map fun (offset,count) => (offset,List.replicate count 0)))

def SystemCall.toJson : SystemCall → Value
  | .open path flags => .list [.str "open",.str path,.nat flags]
  | close => .list [.str "close"]
  | control code argument => .list [.str "ioctl",.nat code,hexText (shown argument)]
  | map length protection flags offset =>
    .list [.str "mmap",.nat length,.nat protection,.nat flags,.nat offset]
  | unmap length => .list [.str "munmap",.nat length]

/-- The JSON form of what a process did; how it found its library is not shown. -/
def SystemEvent.toJson? : SystemEvent → Option Value
  | called _ call _ => some call.toJson
  | declined | loaded _ _ => none

end Kernel
end VideoCapture
