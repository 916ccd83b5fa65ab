import VideoCapture.CommandLine.Failure
import VideoCapture.Decimal.Reading
import VideoCapture.Device.Values
import VideoCapture.Text.Blank
import VideoCapture.Text.Numeral
/-!
# Values on the command line

How sizes, pixel formats, frame rates and frame intervals are written. Both terms of a size or an
interval fit in 16 bits, so that they can be packed.
-/
namespace VideoCapture.CommandLine

def maxTerm : UInt32 := 0xffff

/-- Whether both terms can be packed and mean something. -/
def inRange (a b : UInt32) : Bool := a ≠ 0 && b ≠ 0 && a ≤ maxTerm && b ≤ maxTerm

def term? (cs : List Char) : Option UInt32 := Numeral.word32? (Text.trim cs)

/-- Two terms on either side of a separator. -/
def terms (text : String) (parts : Option (List Char × List Char))
    (form first second range : String → Failure) : Except Failure (UInt32 × UInt32) :=
  match parts with
  | none => .error (form text)
  | some (left,right) =>
    match term? left, term? right with
    | none, _ => .error (first text)
    | _, none => .error (second text)
    | some a, some b => if inRange a b then .ok (a,b) else .error (range text)

/-- A size: width and height around the first `x`, or the first `*` where there is no `x`. -/
def resolution (text : String) : Except Failure Resolution :=
  let cs := text.toList
  (terms text ((Text.splitFirst 'x' cs).or (Text.splitFirst '*' cs)) .resolutionForm
    .resolutionWidth .resolutionHeight .resolutionRange).map fun (width,height) =>
      ⟨width,height⟩

/-- A frame interval in seconds: numerator and denominator around the first slash. -/
def interval (text : String) : Except Failure Fraction :=
  (terms text (Text.splitFirst '/' text.toList) .intervalForm .intervalNumerator
    .intervalDenominator .intervalRange).map fun (numerator,denominator) =>
      ⟨numerator,denominator⟩

def format (text : String) : Except Failure FourCC :=
  match FourCC.ofText? text with
  | some code => .ok code
  | none => .error (.formatLength text)

/-- The frame interval of a frame rate. Whole rates give `1/n`; rates close to `n/1.001` give the
    interval that devices of that family report; others are rounded to hundredths. -/
def intervalOfRate (fps : Float) : Fraction :=
  if (fps - fps.round).abs < 1e-6 then ⟨1,fps.round.toUInt32⟩
  else
    let whole := (fps * 1.001).round
    if whole ≤ 65 && (whole / 1.001 - fps).abs < 0.005 then ⟨1001,whole.toUInt32 * 1000⟩
    else ⟨100,(fps * 100).round.toUInt32⟩

def framerate (text : String) : Except Failure Fraction :=
  match Decimal.float? (Text.trim text.toList) with
  | none => .error (.framerateForm text)
  | some fps =>
    if fps.isFinite && !(fps < 0.01) && !(655 < fps) then .ok (intervalOfRate fps)
    else .error (.framerateRange text)

end VideoCapture.CommandLine
