import VideoCapture.Decimal.Shortest
import VideoCapture.EngineError
import VideoCapture.Json.Scan
/-!
# Failures of a command

Why a command failed, the class of the failure, which decides the program's exit code, and its
text. The text of a settings file that is not accepted ends with the path: what is wrong in the
file is kept as a defect, and the JSON reader's own sentence about it is not made here.
-/
namespace VideoCapture.CommandLine

/-- Why a command failed. -/
inductive Failure
  -- arguments
  | resolutionForm (text : String)
  | resolutionWidth (text : String)
  | resolutionHeight (text : String)
  | resolutionRange (text : String)
  | formatLength (text : String)
  | framerateForm (text : String)
  | framerateRange (text : String)
  | intervalForm (text : String)
  | intervalNumerator (text : String)
  | intervalDenominator (text : String)
  | intervalRange (text : String)
  | settingsUnreadable (path : String) (fault : Fault)
  | settingsMalformed (path : String) (defect : Json.Defect)
  | durationNotPositive (seconds : Float)
  -- devices
  | noDevice
  | deviceMissing (path : String)
  | deviceNotOpened (path : String) (fault : Fault)
  | deviceUnfit (path : String)
  | captureNotStarted (path : String)
  | noFrames (path : String) (seconds : Nat)
  | engine (error : EngineError)
  | system (fault : Fault)
  deriving Inhabited

inductive FailureClass
  | invalidArguments
  | deviceNotFound
  | timeout
  | general
  deriving DecidableEq, Repr, Inhabited

namespace FailureClass

def exitCode : FailureClass → Nat
  | invalidArguments => 2
  | deviceNotFound => 3
  | timeout => 6
  | general => 1

def heading : FailureClass → String
  | invalidArguments => "Invalid arguments"
  | deviceNotFound => "Device not found"
  | timeout => "Timeout"
  | general => "Error"

end FailureClass

namespace Failure

def kind : Failure → FailureClass
  | noDevice | deviceMissing _ | deviceNotOpened _ _ | deviceUnfit _ => .deviceNotFound
  | captureNotStarted _ => .general
  | noFrames _ _ => .timeout
  | engine (.io fault) => if fault.kind = .timedOut then .timeout else .general
  | engine error => if error.kind = .deviceUnavailable then .deviceNotFound else .general
  | system fault =>
    match fault.kind with
    | .notFound | .permissionDenied => .deviceNotFound
    | .timedOut => .timeout
    | _ => .general
  | _ => .invalidArguments

def detail : Failure → String
  | resolutionForm text => s!"Invalid resolution format (expected WxH or W*H): {text}"
  | resolutionWidth text => s!"Invalid width in resolution: {text}"
  | resolutionHeight text => s!"Invalid height in resolution: {text}"
  | resolutionRange text => s!"Resolution dimensions must be between 1 and 65535: {text}"
  | formatLength text => s!"FOURCC must be exactly 4 characters: {text}"
  | framerateForm text => s!"Invalid frame rate: {text}"
  | framerateRange text => s!"Frame rate must be between 0.01 and 655: {text}"
  | intervalForm text => s!"Invalid interval (expected N/D): {text}"
  | intervalNumerator text => s!"Invalid interval numerator: {text}"
  | intervalDenominator text => s!"Invalid interval denominator: {text}"
  | intervalRange text => s!"Interval terms must be between 1 and 65535: {text}"
  | settingsUnreadable path fault => s!"Failed to read {path}: {fault.message}"
  | settingsMalformed path _ => s!"Invalid settings file {path}"
  | durationNotPositive seconds => "Duration must be positive: " ++ Decimal.plain seconds
  | noDevice => "no capture devices available"
  | deviceMissing path => path
  | deviceNotOpened path fault => s!"{path}: {fault.message}"
  | deviceUnfit path => s!"{path} does not support video capture"
  | captureNotStarted path => s!"unable to start capture on {path}"
  | noFrames path seconds => s!"no frames from {path} within {seconds} s"
  | engine error => error.message
  | system fault =>
    match fault.kind with
    | .notFound | .permissionDenied | .timedOut => fault.message
    | _ => s!"I/O error: {fault.message}"

def message (failure : Failure) : String := failure.kind.heading ++ ": " ++ failure.detail

end Failure
end VideoCapture.CommandLine
