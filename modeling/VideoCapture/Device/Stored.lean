import VideoCapture.Device.Values
import VideoCapture.Json.Reader
import VideoCapture.Pixel.Color
/-!
# Device values as JSON

The JSON forms of what devices report and of what describes their images.
-/
namespace VideoCapture

open Json

def Capability.toJson (c : Capability) : Value :=
  .object [
    ("driver",.str c.driver),
    ("card",.str c.card),
    ("bus_info",.str c.busInfo),
    ("capabilities",.nat c.capabilities.toNat),
    ("device_caps",.nat c.deviceCaps.toNat)]

def pairToJson (first second : String) (a b : UInt32) : Value :=
  .object [(first,.nat a.toNat),(second,.nat b.toNat)]

/-- Reads an object of two numbers with the given keys. -/
def pairReader (first second : String) : Reader (UInt32 × UInt32) :=
  record
    [⟨first,(·.1.isSome),fun p cs => do
        let (n,rest) ← word32 cs
        return ((some n,p.2),rest)⟩,
      ⟨second,(·.2.isSome),fun p cs => do
        let (n,rest) ← word32 cs
        return ((p.1,some n),rest)⟩]
    ((none,none) : Option UInt32 × Option UInt32)
    fun p => do return (← p.1,← p.2)

namespace Resolution

def toJson (r : Resolution) : Value := pairToJson "width" "height" r.width r.height

def reader : Reader Resolution := fun cs =>
  (pairReader "width" "height" cs).map fun ((w,h),rest) => (⟨w,h⟩,rest)

end Resolution

namespace Fraction

def toJson (f : Fraction) : Value :=
  pairToJson "numerator" "denominator" f.numerator f.denominator

def reader : Reader Fraction := fun cs =>
  (pairReader "numerator" "denominator" cs).map fun ((n,d),rest) => (⟨n,d⟩,rest)

end Fraction

namespace VideoFormat

def toJson (f : VideoFormat) : Value := .str f.identifier

def reader : Reader VideoFormat := constant ofIdentifier?

end VideoFormat

namespace ColorConversion

/-- Parameters of which some have been read. -/
structure Partial where
  matrix : Option (List Float32)
  rangeMin : Option (List Float32)
  rangeMax : Option (List Float32)

def members : List (Member Partial) := [
  ⟨"matrix",(·.matrix.isSome),fun p cs => do
    let (xs,rest) ← vector float32 16 cs
    return ({ p with matrix := some xs },rest)⟩,
  ⟨"range_min",(·.rangeMin.isSome),fun p cs => do
    let (xs,rest) ← vector float32 3 cs
    return ({ p with rangeMin := some xs },rest)⟩,
  ⟨"range_max",(·.rangeMax.isSome),fun p cs => do
    let (xs,rest) ← vector float32 3 cs
    return ({ p with rangeMax := some xs },rest)⟩]

def reader : Reader ColorConversion :=
  record members ⟨none,none,none⟩ fun p => do
    return ⟨← p.matrix,← p.rangeMin,← p.rangeMax⟩

end ColorConversion
end VideoCapture
