import VideoCapture.Decimal.Fixed
import VideoCapture.Pixel.Format
/-!
# Values exchanged with a device

What a video device reports about itself and its formats, and what it grants.
-/
namespace VideoCapture

/-- The identity and abilities of a device node. -/
structure Capability where
  driver : String
  card : String
  busInfo : String
  /-- Abilities of the whole physical device. -/
  capabilities : UInt32
  /-- Abilities of this node, where the flag for them is set. -/
  deviceCaps : UInt32
  deriving DecidableEq, Repr, Inhabited

namespace Capability

def videoCapture : UInt32 := 0x1
/-- The flag that says that the abilities of the node are given apart. -/
def perNode : UInt32 := 0x80000000

def nodeAbilities (c : Capability) : UInt32 :=
  if c.capabilities &&& perNode ≠ 0 then c.deviceCaps else c.capabilities

def isCapture (c : Capability) : Bool := c.nodeAbilities &&& videoCapture ≠ 0

end Capability

/-- An entry of a device's list of pixel formats. -/
structure FormatDescription where
  index : UInt32
  pixelFormat : FourCC
  description : String
  flags : UInt32
  deriving DecidableEq, Repr, Inhabited

namespace FormatDescription

/-- The flag of formats that are converted in software. -/
def emulatedFlag : UInt32 := 0x2

def isEmulated (d : FormatDescription) : Bool := d.flags &&& emulatedFlag ≠ 0

end FormatDescription

structure Resolution where
  width : UInt32
  height : UInt32
  deriving DecidableEq, Repr, Inhabited

def Resolution.text (r : Resolution) : String := s!"{r.width}x{r.height}"

/-- The time between frames as a fraction of a second. -/
structure Fraction where
  numerator : UInt32
  denominator : UInt32
  deriving DecidableEq, Repr, Inhabited

namespace Fraction

def text (f : Fraction) : String := s!"{f.numerator}/{f.denominator}"

/-- Frames per second; zero for an interval of no time. -/
def fps (f : Fraction) : Float :=
  if f.numerator = 0 then 0 else f.denominator.toFloat / f.numerator.toFloat

def label (f : Fraction) : String := Decimal.fixed 2 f.fps

end Fraction

structure Range (α : Type) where
  least : α
  greatest : α
  step : α
  deriving DecidableEq, Repr, Inhabited

/-- An entry of a device's list of frame sizes or frame intervals. -/
inductive Offer (α : Type)
  | discrete (value : α)
  /-- Any value of the range on the grid of its step. -/
  | stepwise (range : Range α)
  /-- Any value of the range. -/
  | continuous (range : Range α)
  deriving DecidableEq, Repr, Inhabited

/-- The format that a device agreed to deliver, which may differ from the one asked for. -/
structure AgreedFormat where
  width : UInt32
  height : UInt32
  pixelFormat : FourCC
  /-- Octets from one row of the first plane to the next; zero where the device does not say. -/
  stride : UInt32
  sizeImage : UInt32
  deriving DecidableEq, Repr, Inhabited

def AgreedFormat.resolution (f : AgreedFormat) : Resolution := ⟨f.width,f.height⟩

/-- Where a buffer lies in the memory of a device. -/
structure BufferPlace where
  index : UInt32
  length : UInt32
  offset : UInt32
  deriving DecidableEq, Repr, Inhabited

structure Timestamp where
  sec : Int64
  usec : Int64
  deriving DecidableEq, Repr, Inhabited

/-- Nanoseconds, modulo `2 ^ 64`. -/
def Timestamp.nanos (t : Timestamp) : UInt64 := t.sec.toUInt64 * 1000000000 + t.usec.toUInt64 * 1000

/-- A filled buffer as the device hands it back. -/
structure FilledBuffer where
  index : UInt32
  bytesUsed : UInt32
  /-- The device's count of frames; a gap means that frames were dropped. -/
  sequence : UInt32
  timestamp : Timestamp
  deriving DecidableEq, Repr, Inhabited

end VideoCapture
