import VideoCapture.Fault
import VideoCapture.Pixel.FourCC
/-!
# Failures of a capture session

Each constructor is one cause; `message` is its text and `kind` the class of failures it
belongs to. Only failures that call for another try count as transient.
-/
namespace VideoCapture

inductive Negotiable
  | format
  | framerate
  deriving DecidableEq, Repr, Inhabited

def Negotiable.name : Negotiable → String
  | format => "format"
  | framerate => "framerate"

/-- Why a capture session failed. -/
inductive EngineError
  | deviceUnavailable (device : String) (cause : Fault)
  | negotiation (request : Negotiable) (cause : Fault)
  | unsupportedFormat (code : FourCC)
  | requestBuffers (cause : Fault)
  | tooFewBuffers (granted : UInt32)
  | mapping (index : UInt32) (cause : Fault)
  | thread (cause : Fault)
  | io (cause : Fault)
  deriving DecidableEq, Repr, Inhabited

inductive EngineErrorKind
  | deviceUnavailable
  | negotiationFailure
  | resourceExhaustion
  | transientIo
  | fatalIo
  deriving DecidableEq, Repr, Inhabited

namespace EngineError

def kind : EngineError → EngineErrorKind
  | deviceUnavailable _ _ => .deviceUnavailable
  | negotiation _ _ | unsupportedFormat _ => .negotiationFailure
  | requestBuffers _ | tooFewBuffers _ | mapping _ _ | thread _ => .resourceExhaustion
  | io cause => if cause.isTransient then .transientIo else .fatalIo

def cause? : EngineError → Option Fault
  | deviceUnavailable _ cause | negotiation _ cause | requestBuffers cause | mapping _ cause
  | thread cause | io cause => some cause
  | unsupportedFormat _ | tooFewBuffers _ => none

def message : EngineError → String
  | deviceUnavailable device cause => s!"unable to open device {device}: {cause.message}"
  | negotiation request cause => s!"unable to set {request.name}: {cause.message}"
  | unsupportedFormat code => s!"device negotiated unsupported pixel format {code.text}"
  | requestBuffers cause => s!"request for buffers failed: {cause.message}"
  | tooFewBuffers granted => s!"device returned {granted} buffers, at least 2 are required"
  | mapping index cause => s!"mapping buffer {index} failed: {cause.message}"
  | thread cause => s!"unable to start capture thread: {cause.message}"
  | io cause => s!"I/O error: {cause.message}"

end EngineError
end VideoCapture
