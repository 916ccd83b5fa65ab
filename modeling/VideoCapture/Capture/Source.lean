import VideoCapture.Capture.Thread
import VideoCapture.Selection.Devices
/-!
# The session of a capture source

A source follows its settings: whenever the configuration changes, the old session is torn down
and a new one is built. A session that fails to start is torn down again. Nothing here fails; what
goes wrong is told to people, and the source is left without a session.
-/
namespace VideoCapture

/-- What a session holds. -/
structure Session where
  device : Option Handle
  format : Option AgreedFormat
  interval : Option Fraction
  pool : Option BufferPool
  thread : Option Thread
  deriving DecidableEq, Repr

def Session.none : Session := ⟨.none,.none,.none,.none,.none⟩

instance : Inhabited Session := ⟨.none⟩

structure Source where
  /-- The configuration applied last, whether or not its session started. -/
  config : Option Configuration
  session : Session
  deriving DecidableEq, Repr

namespace Source

/-- A source to which no configuration has been applied. -/
def blank : Source := ⟨none,.none⟩

instance : Inhabited Source := ⟨blank⟩

def state (s : Source) : Option ThreadState := s.session.thread.map Thread.state

def isActive (s : Source) : Bool :=
  s.state = some .notStarted || s.state = some .streaming

def frames (s : Source) : Nat := (s.session.thread.map Thread.frames).getD 0

def holdsDevice (s : Source) : Bool := s.session.device.isSome

variable {ω : Type} (world : World ω) (sink : Sink ω)

/-- Ends the capture thread and gives what is left of it. -/
def endThread : Option Thread → Act ω (Option Thread)
  | some t => do return some (← t.finish world sink)
  | none => return none

/-- Whether a thread holds the buffers and the device too: it does until it is over. -/
def holdsOn : Option Thread → Bool
  | some t => !t.isEnded
  | none => false

/-- Unmaps the buffers, unless somebody else holds them too. -/
def releasePool (held : Bool) : Option BufferPool → Act ω Unit
  | some pool =>
    if held then Act.notice .poolStillHeld
    else do let _ ← pool.unmap world
  | none => return ()

/-- Gives the device up. It is closed when nobody else holds it. -/
def releaseDevice (held : Bool) : Option Handle → Act ω Unit
  | some device => do
    if !held then world.closeAt device
    Act.notice .sessionClosed
  | none => return ()

/-- Tears the session down: the thread ends before the buffers are unmapped, and they are
    unmapped before the device is closed. -/
def terminate (s : Source) : Act ω Source := do
  let thread ← endThread world sink s.session.thread
  releasePool world (holdsOn thread) s.session.pool
  releaseDevice world (holdsOn thread) s.session.device
  return { s with session := .none }

/-- Builds a session from a configuration: what it holds in the end, and why it did not start. -/
def openSession (config : Configuration) : Act ω (Session × Option EngineError) := do
  Act.notice (.sessionStarting config.device)
  let session := Session.none
  match ← world.openAt config.device .session with
  | .error fault => return (session,some (.deviceUnavailable config.device fault))
  | .ok device =>
  let session := { session with device := some device }
  let size := config.resolution
  match ← world.request device (.setFormat size.width size.height config.format) with
  | .error fault => return (session,some (.negotiation .format fault))
  | .ok format =>
  let session := { session with format := some format }
  Act.notice (.sessionResolution format.width format.height)
  Act.notice (.sessionStride format.stride)
  match FrameGeometry.of format with
  | .error error => return (session,some error)
  | .ok geometry =>
  match ← world.request device (.setFrameInterval config.interval) with
  | .error fault => return (session,some (.negotiation .framerate fault))
  | .ok interval =>
  let session := { session with interval := some interval }
  Act.notice (.sessionInterval interval)
  match ← BufferPool.map world device with
  | .error error => return (session,some error)
  | .ok pool =>
  let info := {
    device := config.device
    format
    videoFormat := geometry.format
    interval
    buffers := pool.length }
  let session := { session with pool := some pool }
  match ← world.spawn with
  | .error fault => return (session,some (.thread fault))
  | .ok () => return ({ session with thread := some (.spawn device pool geometry info) },none)

/-- Starts a session; if that fails, whatever it holds is released. -/
def start (s : Source) (config : Configuration) : Act ω Source := do
  let (session,failure) ← openSession world config
  let s := { s with session }
  match failure with
  | none => return s
  | some error =>
    Act.notice (.sessionFailed error)
    s.terminate world sink

def restart (s : Source) (config : Configuration) : Act ω Source := do
  let s ← s.terminate world sink
  let s := { s with config := some config }
  if config.device = "" then
    Act.notice .noDevice
    return s
  else s.start world sink config

/-- The settings with a device: a blank one is replaced by the first capture device. -/
def chooseDevice (settings : Settings) : Act ω Settings :=
  if settings.getText Settings.deviceKey = "" then do
    let (_,settings) ← world.captureDevicesFor settings
    return settings
  else return settings

/-- Puts a configuration into effect, unless it is the one applied last. -/
def follow (s : Source) (config : Configuration) : Act ω Source := do
  match s.config with
  | none => s.restart world sink config
  | some current =>
    match current.differences config with
    | [] =>
      Act.notice .configUnchanged
      return s
    | changed =>
      Act.notice (.configChanged changed)
      s.restart world sink config

def update (s : Source) (settings : Settings) : Act ω (Source × Settings) := do
  let settings ← chooseDevice world settings
  return (← s.follow world sink (.ofSettings settings),settings)

def new (settings : Settings) : Act ω (Source × Settings) := blank.update world sink settings

def stepThread (s : Source) : Act ω Source := do
  match s.session.thread with
  | none => return s
  | some t =>
    let t ← t.step world sink false
    return { s with session.thread := some t }

def advance (rounds : Nat) (s : Source) : Act ω Source := do
  match s.session.thread with
  | none => return s
  | some t =>
    let t ← t.advance world sink rounds
    return { s with session.thread := some t }

end Source
end VideoCapture
