import VideoCapture.Device.Request
import VideoCapture.Frame
import VideoCapture.Notice
/-!
# Events

Everything that the engine does and that can be seen from outside, each event with the answer
it got. The history of a run is the list of its events.
-/
namespace VideoCapture

/-- Something the engine did, with the answer it got. -/
inductive Event
  | listed (answer : Except Fault (List String))
  | opened (device : Handle)
  | refused (path : String) (purpose : Purpose) (fault : Fault)
  | asked (device : Handle) (request : Request) (answer : Except Fault request.Reply)
  | closed (device : Handle)
  | spawned (answer : Except Fault Unit)
  /-- It told the consumer that a session streams; whether that call came back. -/
  | started (info : SessionStart) (returned : Bool)
  | delivered (frame : Frame) (returned : Bool)
  /-- It told the consumer that a session is over, after so many frames. -/
  | stopped (frames : Nat) (returned : Bool)
  | noticed (notice : Notice)

abbrev History := List Event

end VideoCapture
