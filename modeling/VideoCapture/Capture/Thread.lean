import VideoCapture.Capture.BufferPool
/-!
# The capture thread

The thread queues every buffer, turns the stream on and then goes round: wait for a filled
buffer, take it, deliver its frame, hand it back. It looks for a stop request at the start of each
round. However it ends, it turns the stream off and tells the consumer that the session is over.

`Thread.step` is one step of the thread: at most one request to the device or one call to the
consumer. The stop request is an argument of the step, so it can come between any two steps.
-/
namespace VideoCapture

/-- What people see of a capture thread. -/
inductive ThreadState
  | notStarted
  | streaming
  | stopping
  | stopped
  deriving DecidableEq, Repr, Inhabited

namespace ThreadState

/-- The order in which a thread goes through its states. -/
def rank : ThreadState → Nat
  | notStarted => 0
  | streaming => 1
  | stopping => 2
  | stopped => 3

def name : ThreadState → String
  | notStarted => "NotStarted"
  | streaming => "Streaming"
  | stopping => "Stopping"
  | stopped => "Stopped"

end ThreadState

/-- What a capture thread does next. -/
inductive Phase
  | queueing (index : Nat)
  | startingStream
  | announcing
  | idle
  | waiting
  | dequeuing
  | delivering (buffer : FilledBuffer)
  /-- Hand the buffer back; `goOn` unless the consumer broke off. -/
  | returning (buffer : FilledBuffer) (goOn : Bool)
  | stoppingStream
  | concluding
  | ended
  deriving DecidableEq, Repr, Inhabited

def Phase.state : Phase → ThreadState
  | queueing _ | startingStream => .notStarted
  | announcing | idle | waiting | dequeuing | delivering _ | returning _ _ => .streaming
  | stoppingStream | concluding => .stopping
  | ended => .stopped

/-- A capture thread between two steps. -/
structure Thread where
  device : Handle
  pool : BufferPool
  geometry : FrameGeometry
  info : SessionStart
  phase : Phase
  frames : Nat
  deriving DecidableEq, Repr, Inhabited

namespace Thread

def spawn (device : Handle) (pool : BufferPool) (geometry : FrameGeometry) (info : SessionStart) :
    Thread :=
  { device, pool, geometry, info, phase := .queueing 0, frames := 0 }

def state (t : Thread) : ThreadState := t.phase.state

def isEnded (t : Thread) : Bool := t.phase = .ended

def enter (t : Thread) (phase : Phase) : Thread := { t with phase }

/-- How long an interval the thread waits at most, in milliseconds. -/
def waitMilliseconds : Nat := 1000

def queueingFault (index : Nat) (fault : Fault) : Fault :=
  .described fault.kind s!"unable to queue buffer {index}: {fault.message}"

variable {ω : Type} (world : World ω) (sink : Sink ω)

/-- One step of the thread; `stop` says whether a stop has been requested. -/
def step (stop : Bool) (t : Thread) : Act ω Thread :=
  match t.phase with
  | .queueing index =>
    if index < t.pool.length then do
      match ← world.request t.device (.queueBuffer (UInt32.ofNat index)) with
      | .ok () => return t.enter (.queueing (index + 1))
      | .error fault =>
        Act.notice (.startFailed (queueingFault index fault))
        return t.enter .stoppingStream
    else return t.enter .startingStream
  | .startingStream => do
    match ← world.request t.device .streamOn with
    | .ok () =>
      Act.notice .captureStarted
      return t.enter .announcing
    | .error fault =>
      Act.notice (.startFailed fault)
      return t.enter .stoppingStream
  | .announcing => do
    if ← sink.start t.info then return t.enter .idle else return t.enter .stoppingStream
  | .idle => return t.enter (if stop then .stoppingStream else .waiting)
  | .waiting => do
    match ← world.request t.device (.waitReadable waitMilliseconds) with
    | .ok true => return t.enter .dequeuing
    | .ok false =>
      Act.notice .waitTimedOut
      return t.enter .idle
    | .error fault =>
      if fault.kind = .interrupted then return t.enter .idle
      else
        Act.notice (.waitFailed fault)
        return t.enter .stoppingStream
  | .dequeuing => do
    match ← world.request t.device .dequeueBuffer with
    | .ok buffer => return t.enter (.delivering buffer)
    | .error fault =>
      if fault.isTransient then return t.enter .idle
      else
        Act.notice (.dequeueFailed fault)
        return t.enter .stoppingStream
  | .delivering buffer => do
    match ← Course.look (t.pool.contents? world buffer.index.toNat) with
    | some data =>
      if ← sink.deliver (t.geometry.view data buffer) then
        return { t with phase := .returning buffer true, frames := t.frames + 1 }
      else return t.enter (.returning buffer false)
    | none =>
      Act.notice (.unknownBuffer buffer.index)
      return t.enter (.returning buffer true)
  | .returning buffer goOn => do
    match ← world.request t.device (.queueBuffer buffer.index) with
    | .ok () => return t.enter (if goOn then .idle else .stoppingStream)
    | .error fault =>
      Act.notice (.queueFailed fault)
      return t.enter .stoppingStream
  | .stoppingStream => do
    match ← world.request t.device .streamOff with
    | .ok () => return t.enter .concluding
    | .error fault =>
      Act.notice (.streamOffFailed fault)
      return t.enter .concluding
  | .concluding => do
    let _ ← sink.stop t.frames
    Act.notice (.captureStopped t.frames)
    return t.enter .ended
  | .ended => return t

/-! ## Running the thread -/

def steps (stop : Bool) : Nat → Thread → Act ω Thread
  | 0, t => return t
  | count + 1, t => do steps stop count (← step world sink stop t)

/-- A bound on the steps before the thread looks for a stop request or is over. -/
def distance (t : Thread) : Nat :=
  match t.phase with
  | .queueing index => t.pool.length - index + 10
  | .startingStream => 9
  | .announcing => 8
  | .waiting => 7
  | .dequeuing => 6
  | .delivering _ => 5
  | .returning _ _ => 4
  | .idle => 3
  | .stoppingStream => 2
  | .concluding => 1
  | .ended => 0

/-- Steps until the thread looks for a stop request or is over, at most `count`. -/
def settleWithin : Nat → Thread → Act ω Thread
  | 0, t => return t
  | count + 1, t =>
    if t.phase = .idle then return t
    else do settleWithin count (← step world sink false t)

def settle (t : Thread) : Act ω Thread := settleWithin world sink t.distance t

/-- Lets the thread run through so many rounds, unless it is over before. -/
def advance : Nat → Thread → Act ω Thread
  | 0, t => settle world sink t
  | rounds + 1, t => do
    let t ← settle world sink t
    if t.isEnded then return t else advance rounds (← step world sink false t)

/-- Requests a stop and waits for the end of the thread. -/
def finish (t : Thread) : Act ω Thread := steps world sink true t.distance t

/-- One step after the other, each under its own stop flag. -/
def heed : List Bool → Thread → Act ω Thread
  | [], t => return t
  | stop :: stops, t => do heed stops (← step world sink stop t)

/-- All that a thread does: it goes on under the stop flags given, and then it is stopped. -/
def live (stops : List Bool) (t : Thread) : Act ω Thread := do
  let t ← heed world sink stops t
  finish world sink t

/-- Gives up what a thread that is over held last: its buffers and its device. -/
def release (t : Thread) : Act ω Thread := do
  let pool ← t.pool.unmap world
  world.closeAt t.device
  return { t with pool }

end Thread
end VideoCapture
