import VideoCapture.Device.Values
import VideoCapture.EngineError
/-!
# Notices to people

What the engine tells its users while it works: one constructor per notice, each with its level,
the part of the engine it comes from, and its text.
-/
namespace VideoCapture

/-- How much a notice matters, the most important first. -/
inductive Level
  | error
  | warn
  | info
  | debug
  | trace
  deriving DecidableEq, Repr, Inhabited

namespace Level

def rank : Level → Nat
  | error => 1
  | warn => 2
  | info => 3
  | debug => 4
  | trace => 5

def name : Level → String
  | error => "error"
  | warn => "warn"
  | info => "info"
  | debug => "debug"
  | trace => "trace"

end Level

structure Record where
  level : Level
  target : String
  text : String
  deriving DecidableEq, Repr, Inhabited

inductive SinkCall
  | started
  | frame
  | stopped
  deriving DecidableEq, Repr, Inhabited

def SinkCall.name : SinkCall → String
  | started => "session_started"
  | frame => "deliver_frame"
  | stopped => "session_stopped"

/-- What the engine tells its users. -/
inductive Notice
  -- looking for devices and their formats
  | scanFailed (fault : Fault)
  | candidateNotOpened (path : String) (fault : Fault)
  | candidateFound (card path : String)
  | candidateUnfit (path : String)
  | candidateUnknown (path : String) (fault : Fault)
  | defaultDevice (path : String)
  | formatsStopped (index : UInt32) (fault : Fault)
  | formatUnavailable (label : String) (code : FourCC)
  | sizeQueryFailed (fault : Fault)
  | sizesFixed
  | sizesStopped (index : UInt32) (fault : Fault)
  | intervalQueryFailed (fault : Fault)
  | intervalsFixed
  | intervalsStopped (index : UInt32) (fault : Fault)
  | selectionNotOpened (path : String) (fault : Fault)
  -- the buffers of a session
  | tooFewBuffers (least : Nat)
  | mappingFailed (error : EngineError)
  | buffersMapped (count : Nat)
  | unmapFailed (index : Nat) (fault : Fault)
  -- the capture thread
  | captureStarted
  | startFailed (fault : Fault)
  | sinkFailed (call : SinkCall)
  | waitTimedOut
  | waitFailed (fault : Fault)
  | dequeueFailed (fault : Fault)
  | unknownBuffer (index : UInt32)
  | queueFailed (fault : Fault)
  | streamOffFailed (fault : Fault)
  | captureStopped (frames : Nat)
  -- sessions
  | configUnchanged
  | configChanged (fields : List String)
  | noDevice
  | sessionStarting (device : String)
  | sessionResolution (width height : UInt32)
  | sessionStride (stride : UInt32)
  | sessionInterval (interval : Fraction)
  | sessionFailed (error : EngineError)
  | poolStillHeld
  | sessionClosed
  | remark (record : Record)
  deriving DecidableEq, Repr, Inhabited

namespace Notice

def level : Notice → Level
  | mappingFailed _ | tooFewBuffers _ | startFailed _ | sinkFailed _ | waitFailed _
  | dequeueFailed _ | queueFailed _ | streamOffFailed _ | sessionFailed _ => .error
  | formatsStopped _ _ | sizesStopped _ _ | intervalsStopped _ _ | unmapFailed _ _
  | unknownBuffer _ | noDevice | poolStillHeld => .warn
  | scanFailed _ | candidateNotOpened _ _ | candidateFound _ _ | candidateUnfit _
  | candidateUnknown _ _ | formatUnavailable _ _ | sizesFixed | intervalsFixed
  | captureStopped _ | sessionStarting _ | sessionResolution _ _ | sessionStride _
  | sessionInterval _ => .info
  | defaultDevice _ | sizeQueryFailed _ | intervalQueryFailed _ | selectionNotOpened _ _
  | buffersMapped _ | captureStarted | waitTimedOut | configUnchanged | configChanged _
  | sessionClosed => .debug
  | remark record => record.level

def target : Notice → String
  | scanFailed _ | candidateNotOpened _ _ | candidateFound _ _ | candidateUnfit _
  | candidateUnknown _ _ | defaultDevice _ | formatsStopped _ _ | formatUnavailable _ _
  | sizeQueryFailed _ | sizesFixed | sizesStopped _ _ | intervalQueryFailed _ | intervalsFixed
  | intervalsStopped _ _ => "framegrab::v4l2::enumerator"
  | selectionNotOpened _ _ => "framegrab::properties"
  | tooFewBuffers _ | mappingFailed _ | buffersMapped _ | unmapFailed _ _ => "framegrab::buffers"
  | captureStarted | startFailed _ | sinkFailed _ | waitTimedOut | waitFailed _
  | dequeueFailed _ | unknownBuffer _ | queueFailed _ | streamOffFailed _
  | captureStopped _ => "framegrab::capture"
  | configUnchanged | configChanged _ | noDevice | sessionStarting _ | sessionResolution _ _
  | sessionStride _ | sessionInterval _ | sessionFailed _ | poolStillHeld
  | sessionClosed => "framegrab::source"
  | remark record => record.target

def text : Notice → String
  | scanFailed fault => s!"Unable to scan for video devices: {fault.message}"
  | candidateNotOpened path fault => s!"Unable to open {path}: {fault.message}"
  | candidateFound card path => "Found device '" ++ card ++ "' at " ++ path
  | candidateUnfit path => s!"{path} seems to not support video capture"
  | candidateUnknown path fault => s!"Failed to query capabilities for {path}: {fault.message}"
  | defaultDevice path => s!"Selecting {path} as default device"
  | formatsStopped index fault =>
    s!"Format enumeration stopped at index {index}: {fault.message}"
  | formatUnavailable label code => s!"Pixelformat: {label} ({code.text}) (unavailable)"
  | sizeQueryFailed fault => s!"Frame size query failed: {fault.message}"
  | sizesFixed => "Stepwise and Continuous framesizes are currently hardcoded"
  | sizesStopped index fault =>
    s!"Frame size enumeration stopped at index {index}: {fault.message}"
  | intervalQueryFailed fault => s!"Frame interval query failed: {fault.message}"
  | intervalsFixed => "Stepwise and Continuous framerates are currently hardcoded"
  | intervalsStopped index fault =>
    s!"Frame interval enumeration stopped at index {index}: {fault.message}"
  | selectionNotOpened path fault => s!"Unable to open {path}: {fault.message}"
  | tooFewBuffers least => s!"Device returned less than {least} buffers"
  | mappingFailed error => error.message
  | buffersMapped count => s!"mapped {count} buffers"
  | unmapFailed index fault => s!"unmapping buffer {index} failed: {fault.message}"
  | captureStarted => "new capture started"
  | startFailed fault => s!"failed to start capture: {fault.message}"
  | sinkFailed call => s!"frame sink panicked in {call.name}"
  | waitTimedOut => "select timeout"
  | waitFailed fault => s!"select failed: {fault.message}"
  | dequeueFailed fault => s!"failed to dequeue buffer: {fault.message}"
  | unknownBuffer index => s!"device returned unknown buffer {index}"
  | queueFailed fault => s!"failed to enqueue buffer: {fault.message}"
  | streamOffFailed fault => s!"unable to stop stream: {fault.message}"
  | captureStopped frames => s!"Stopped capture after {frames} frames"
  | configUnchanged => "configuration unchanged"
  | configChanged fields => "configuration changed: " ++ ", ".intercalate fields
  | noDevice => "No video capture device available"
  | sessionStarting device => s!"Start capture from {device}"
  | sessionResolution width height => s!"Resolution: {width}x{height}"
  | sessionStride stride => s!"Linesize: {stride} Bytes"
  | sessionInterval interval => s!"Framerate: {interval.label} fps"
  | sessionFailed error => s!"Initialization failed: {error.message}"
  | poolStillHeld => "buffer pool still referenced after capture stopped"
  | sessionClosed => "capture session closed"
  | remark record => record.text

def record (n : Notice) : Record := ⟨n.level,n.target,n.text⟩

end Notice
end VideoCapture
