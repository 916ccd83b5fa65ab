import VideoCapture.Text.Escape
import VideoCapture.Text.Utf8
/-!
# Four-character codes

A pixel format is named by four octets, kept as one number with the first octet lowest.
-/
namespace VideoCapture

structure FourCC where
  /-- The four octets as one number, the first octet in the low eight bits. -/
  value : UInt32
  deriving DecidableEq, Repr, Inhabited

namespace FourCC

def ofOctets (a b c d : UInt8) : FourCC :=
  ⟨a.toUInt32 ||| (b.toUInt32 <<< 8) ||| (c.toUInt32 <<< 16) ||| (d.toUInt32 <<< 24)⟩

def octets (code : FourCC) : List UInt8 :=
  [code.value.toUInt8,(code.value >>> 8).toUInt8,(code.value >>> 16).toUInt8,
    (code.value >>> 24).toUInt8]

/-- The code that a text of exactly four octets spells. -/
def ofText? (text : String) : Option FourCC :=
  match Utf8.encode text.toList with
  | [a,b,c,d] => some (ofOctets a b c d)
  | _ => none

def lengthFault (text : String) : String := s!"FOURCC must be exactly 4 characters: {text}"

def escaped (code : FourCC) : String := String.ofList (Text.escapeOctets code.octets)

/-- The text of a code: its octets read as UTF-8, or in printable ASCII where they are not. -/
def text (code : FourCC) : String :=
  match Utf8.decode? code.octets with
  | some cs => String.ofList cs
  | none => code.escaped

/-- The text of a code for diagnostics, always in printable ASCII. -/
def diagnostic (code : FourCC) : String := "FourCC(" ++ code.escaped ++ ")"

def yuyv : FourCC := ⟨0x56595559⟩
def yvyu : FourCC := ⟨0x55595659⟩
def uyvy : FourCC := ⟨0x59565955⟩
def nv12 : FourCC := ⟨0x3231564E⟩
def yu12 : FourCC := ⟨0x32315559⟩
def yv12 : FourCC := ⟨0x32315659⟩

end FourCC
end VideoCapture
