import VideoCapture.Course
import VideoCapture.Event
/-!
# Acting on a world of devices

A `World` answers what the engine asks of devices, a `Sink` answers the frames it is given; both
may answer as they like and remember what happened. An `Act` is a course of action of the engine
that depends on their answers.
-/
namespace VideoCapture

/-- A course of action of the engine. -/
abbrev Act (ω α : Type) : Type := Course Event ω α

/-- Where open devices and their answers come from. -/
structure World (ω : Type) where
  candidates : ω → Except Fault (List String) × ω
  /-- Opens a device; the number is what the device is known by while it is open. -/
  openDevice : String → Purpose → ω → Except Fault Nat × ω
  ask : Handle → (request : Request) → ω → Except Fault request.Reply × ω
  octet : Handle → BufferPlace → Nat → ω → UInt8
  close : Handle → ω → ω
  startThread : ω → Except Fault Unit × ω

/-- A consumer of frames. Each call says whether it came back: a consumer that breaks off a call
    ends the session. -/
structure Sink (ω : Type) where
  started : SessionStart → ω → Bool × ω
  frame : Frame → ω → Bool × ω
  stopped : Nat → ω → Bool × ω

def Act.notice {ω : Type} (n : Notice) : Act ω Unit := Course.emit (.noticed n)

namespace World

variable {ω : Type} (world : World ω)

def list : Act ω (Except Fault (List String)) := fun s =>
  let (answer,s) := world.candidates s
  ⟨answer,[.listed answer],s⟩

def openAt (path : String) (purpose : Purpose) : Act ω (Except Fault Handle) := fun s =>
  match world.openDevice path purpose s with
  | (.ok number,s) => ⟨.ok ⟨path,purpose,number⟩,[.opened ⟨path,purpose,number⟩],s⟩
  | (.error fault,s) => ⟨.error fault,[.refused path purpose fault],s⟩

def request (device : Handle) (r : Request) : Act ω (Except Fault r.Reply) := fun s =>
  let (answer,s) := world.ask device r s
  ⟨answer,[.asked device r answer],s⟩

def closeAt (device : Handle) : Act ω Unit := fun s =>
  ⟨(),[.closed device],world.close device s⟩

def spawn : Act ω (Except Fault Unit) := fun s =>
  let (answer,s) := world.startThread s
  ⟨answer,[.spawned answer],s⟩

/-- The contents of a mapped buffer. -/
def contents (device : Handle) (info : BufferPlace) (s : ω) : List UInt8 :=
  (List.range info.length.toNat).map fun j => world.octet device info j s

end World

namespace Sink

variable {ω : Type} (sink : Sink ω)

/-- A call to the consumer, and a notice if the consumer broke it off. -/
def notify (call : SinkCall) (event : Bool → Event) (answer : ω → Bool × ω) : Act ω Bool := fun s =>
  let (returned,s) := answer s
  ⟨returned,event returned :: if returned then [] else [.noticed (.sinkFailed call)],s⟩

def start (info : SessionStart) : Act ω Bool := notify .started (.started info) (sink.started info)

def deliver (frame : Frame) : Act ω Bool := notify .frame (.delivered frame) (sink.frame frame)

def stop (frames : Nat) : Act ω Bool := notify .stopped (.stopped frames) (sink.stopped frames)

end Sink
end VideoCapture
