import VideoCapture.Device.Values
import VideoCapture.Fault
/-!
# Requests to an open device

A request and the type of its reply. Any request can fail, with a fault in place of the reply.
-/
namespace VideoCapture

/-- Why a device is opened. -/
inductive Purpose
  | probe
  | session
  deriving DecidableEq, Repr, Inhabited

/-- An open device. It stays open until it is closed. -/
structure Handle where
  path : String
  purpose : Purpose
  number : Nat
  deriving DecidableEq, Repr, Inhabited

/-- What can be asked of an open device. -/
inductive Request
  | capability
  | format (index : UInt32)
  | frameSize (code : FourCC) (index : UInt32)
  | frameInterval (code : FourCC) (width height : UInt32) (index : UInt32)
  | setFormat (width height : UInt32) (code : FourCC)
  | setFrameInterval (interval : Fraction)
  | requestBuffers (count : UInt32)
  | queryBuffer (index : UInt32)
  | mapBuffer (info : BufferPlace)
  | unmapBuffer (index length : UInt32)
  | queueBuffer (index : UInt32)
  | dequeueBuffer
  | streamOn
  | streamOff
  | waitReadable (milliseconds : Nat)
  deriving DecidableEq, Repr, Inhabited

/-- What a device replies to a request. An enumeration replies with nothing past its end, a wait
    whether a filled buffer is ready. -/
abbrev Request.Reply : Request → Type
  | capability => Capability
  | format _ => Option FormatDescription
  | frameSize _ _ => Option (Offer Resolution)
  | frameInterval _ _ _ _ => Option (Offer Fraction)
  | setFormat _ _ _ => AgreedFormat
  | setFrameInterval _ => Fraction
  | requestBuffers _ => UInt32
  | queryBuffer _ => BufferPlace
  | mapBuffer _ | unmapBuffer _ _ | queueBuffer _ | streamOn | streamOff => Unit
  | dequeueBuffer => FilledBuffer
  | waitReadable _ => Bool

instance (request : Request) : DecidableEq request.Reply := by
  cases request <;> exact inferInstance

end VideoCapture
