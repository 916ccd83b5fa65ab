import VideoCapture.Json.Access
import VideoCapture.Simulation.Stage
import VideoCapture.Text.Numeral
/-!
# Described devices

Scripts, devices and consumers described in JSON. Whatever a description leaves out is as with a
plain camera that works.
-/
namespace VideoCapture.Simulation
namespace Description

open Json (Value)

/-- The names that kinds of failures have in descriptions and transcripts. -/
def faultKinds : List (String × FaultKind) := [
  ("NotFound",.notFound),("PermissionDenied",.permissionDenied),("Interrupted",.interrupted),
  ("WouldBlock",.wouldBlock),("TimedOut",.timedOut),("InvalidInput",.invalidInput),
  ("InvalidData",.invalidData),("UnexpectedEof",.unexpectedEof),
  ("InputOutputError",.inputOutput),("OutOfMemory",.outOfMemory),
  ("ResourceBusy",.resourceBusy),("NotADirectory",.notADirectory),
  ("IsADirectory",.isADirectory),("StorageFull",.storageFull),("BrokenPipe",.brokenPipe),
  ("InvalidFilename",.invalidFilename),("Other",.other),("Uncategorized",.uncategorized)]

/-- A described failure: an error number, or a kind with or without a text. -/
def fault? (v : Value) : Option Fault :=
  let kind (name : String) : FaultKind := (faultKinds.lookup name).getD .other
  match v.field "errno", v.field "kind", v.field "msg" with
  | .int e, _, _ => some (.system e.toNat)
  | _, .str k, .str text => some (.described (kind k) text)
  | _, .str k, _ => some (.bare (kind k))
  | _, _, _ => none

def answer {α : Type} (read : Value → α) (v : Value) : Except Fault α :=
  match fault? v with
  | some fault => .error fault
  | none => .ok (read v)

def success : Value → Except Fault Unit := answer fun _ => ()

def entries {α : Type} (read : Value → α) (v : Value) : Entries α :=
  v.items.map (answer (Value.optional read))

/-- A described entry of a list of sizes or intervals, made of pairs of numbers. -/
def offer {α : Type} (pair : UInt32 → UInt32 → α) (v : Value) : Offer α :=
  let at2 (w : Value) (i : Nat) : α := pair (w.item i).toWord (w.item (i + 1)).toWord
  let range (w : Value) : Range α := ⟨at2 w 0,at2 w 2,at2 w 4⟩
  if v.has "discrete" then .discrete (at2 (v.field "discrete") 0)
  else if v.has "stepwise" then .stepwise (range (v.field "stepwise"))
  else .continuous (range (v.field "continuous"))

def fourCC (v : Value) : FourCC := ⟨v.toWord⟩

def dequeued (v : Value) : FilledBuffer where
  index := (v.field "index").toWord
  bytesUsed := (v.field "bytes_used").toWord
  sequence := (v.field "sequence").toWord
  timestamp := ⟨Int64.ofInt (v.field "sec").toInt,Int64.ofInt (v.field "usec").toInt⟩

def capability (v : Value) : Capability :=
  let text (key default : String) : String := ((v.field key).optional Value.toText).getD default
  let word (key : String) (default : UInt32) : UInt32 :=
    ((v.field key).optional Value.toWord).getD default
  let capabilities := word "capabilities" 0x04000001
  { driver := text "driver" "mock"
    card := text "card" "Mock Camera"
    busInfo := text "bus_info" "platform:mock"
    capabilities
    deviceCaps := word "device_caps" capabilities }

def keyWord (key : String) : UInt32 := (Numeral.word32? key.toList).getD 0

def byWord {α : Type} (read : Value → Option α) (v : Value) : List (UInt32 × α) :=
  v.members.filterMap fun (key,w) => (read w).map (keyWord key,·)

def script (v : Value) : Script where
  openFault := fault? (v.field "open")
  capability := answer capability (v.field "cap")
  formats := entries (fun w => ⟨0,fourCC (w.field "pixelformat"),(w.field "description").toText,
    (w.field "flags").toWord⟩) (v.field "formats")
  sizes := entries (offer Resolution.mk) (v.field "sizes")
  sizesBy := (v.field "sizes_by").members.map fun (key,w) =>
    (⟨keyWord key⟩,entries (offer Resolution.mk) w)
  intervals := entries (offer Fraction.mk) (v.field "intervals")
  intervalsBy := (v.field "intervals_by").members.map fun (key,w) =>
    let part (i : Nat) : UInt32 := (((key.splitOn ":").map keyWord)[i]?).getD 0
    ((⟨part 0⟩,part 1,part 2),entries (offer Fraction.mk) w)
  setFormat := answer (fun w => {
      width := (w.field "width").optional Value.toWord
      height := (w.field "height").optional Value.toWord
      pixelFormat := (w.field "pixelformat").optional fourCC
      stride := (w.field "stride").optional Value.toWord
      sizeImage := (w.field "size_image").optional Value.toWord })
    (v.field "set_format")
  setInterval := answer (Value.optional fun w => ⟨(w.item 0).toWord,(w.item 1).toWord⟩)
    (v.field "set_interval")
  requestBuffers := answer (Value.optional Value.toWord) (v.field "request_buffers")
  queryBuffer := byWord (fun w => some (answer (fun w =>
      ((w.field "length").optional Value.toWord,(w.field "offset").optional Value.toWord)) w))
    (v.field "query_buffer")
  bufferLength := ((v.field "buffer_len").optional Value.toWord).getD 64
  mapFaults := byWord fault? (v.field "map")
  unmapFaults := byWord fault? (v.field "unmap")
  queue := (v.field "queue").items.map success
  streamOn := success (v.field "stream_on")
  streamOff := success (v.field "stream_off")
  waits := (v.field "waits").items.map (answer fun w => w.toText = "ready")
  dequeues := (v.field "dequeues").items.map (answer dequeued)

def candidates (world : Value) : Except Fault (List String) :=
  answer (fun w => w.items.map Value.toText) (world.field "candidates")

def devices (world : Value) : List (String × Script) :=
  (world.field "devices").members.map fun (path,w) => (path,script w)

/-- A described consumer. One that is a plain function only sees frames. -/
def sinkScript (v : Value) : SinkScript where
  framesOnly := (v.field "closure").toBool
  breaksStarted := (v.field "panic_started").toBool
  breaksStopped := (v.field "panic_stopped").toBool
  breaksFrame := (v.field "panic_frame").optional Value.toNat

end Description

/-- A stage with another description of the world; devices that are open play on as they were. -/
def Stage.describe (s : Stage) (world : Json.Value) : Stage :=
  { s with
    candidates := Description.candidates world
    devices := Description.devices world }

end VideoCapture.Simulation
