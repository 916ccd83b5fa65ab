import VideoCapture.Act
import VideoCapture.Simulation.Script
/-!
# A stage of scripted devices

A world of devices that play their scripts, each opening from the start, and a consumer that
breaks off calls where told. The stage keeps a record of the requests that reached a device.
-/
namespace VideoCapture.Simulation

inductive Attempt
  | opened (path : String)
  | asked (request : Request)
  | closed (path : String)
  deriving DecidableEq, Repr

/-- Which calls a scripted consumer breaks off. -/
structure SinkScript where
  /-- Whether the consumer only takes frames and nothing else. -/
  framesOnly : Bool
  breaksStarted : Bool
  breaksStopped : Bool
  /-- The count of the frame that is broken off, from zero on. -/
  breaksFrame : Option Nat
  deriving Inhabited

structure Stage where
  candidates : Except Fault (List String)
  devices : List (String × Script)
  /-- Whether devices are reached through the system's interface. -/
  viaSystem : Bool
  sink : SinkScript
  /-- The scripts of opened devices from where they are, by number. -/
  playing : Array Script
  framesSeen : Nat
  /-- What reached devices, the latest first. -/
  attempts : List Attempt

namespace Stage

def set (candidates : Except Fault (List String)) (devices : List (String × Script))
    (sink : SinkScript) (viaSystem : Bool) : Stage where
  candidates
  devices
  viaSystem
  sink
  playing := #[]
  framesSeen := 0
  attempts := []

def note (s : Stage) (count : Nat) (attempt : Attempt) : Stage :=
  { s with attempts := List.replicate count attempt ++ s.attempts }

/-- Opens a scripted device; there is no device without a script. Through the system's interface a
    path with a zero in it reaches nothing. -/
def openDevice (path : String) (s : Stage) : Except Fault Nat × Stage :=
  if s.viaSystem && path.toList.contains '\x00' then (.error .zeroInPath,s)
  else
    let s := s.note 1 (.opened path)
    match s.devices.lookup path with
    | none => (.error (.system Errno.noEntry),s)
    | some script =>
      match script.openFault with
      | some fault => (.error fault,s)
      | none => (.ok s.playing.size,{ s with playing := s.playing.push script })

def ask (device : Handle) (r : Request) (s : Stage) : Except Fault r.Reply × Stage :=
  match s.playing[device.number]? with
  | none => (.error (.bare .other),s)
  | some script =>
    let (answer,count,script) :=
      if s.viaSystem then script.systemAnswer r
      else
        let (answer,script) := script.answer r
        (answer,1,script)
    (answer,{ s with playing := s.playing.set! device.number script }.note count (.asked r))

/-- The scripted devices as a world. -/
def world : World Stage where
  candidates s := (s.candidates,s)
  openDevice path _ s := s.openDevice path
  ask device r s := s.ask device r
  octet _ info j _ := UInt8.ofNat (31 * info.index.toNat + 7 * j)
  close device s := s.note 1 (.closed device.path)
  startThread s := (.ok (),s)

def consumer : Sink Stage where
  started _ s := (s.sink.framesOnly || !s.sink.breaksStarted,s)
  frame _ s :=
    (s.sink.breaksFrame ≠ some s.framesSeen,{ s with framesSeen := s.framesSeen + 1 })
  stopped _ s := (s.sink.framesOnly || !s.sink.breaksStopped,s)

def waitsLeft (s : Stage) (device : Handle) : Nat :=
  match s.playing[device.number]? with
  | some script => script.waits.length
  | none => 0

def dequeuesLeft (s : Stage) (device : Handle) : Nat :=
  match s.playing[device.number]? with
  | some script => script.dequeues.length
  | none => 0

end Stage
end VideoCapture.Simulation
