import VideoCapture.Text.Numeral
/-!
# Decimals read as floating-point numbers

A sign, digits with at most one point among them, and an exponent; or the name of infinity
or of the value that is no number. The number is the one of 64 bits nearest to the decimal.
-/
namespace VideoCapture.Decimal

open Numeral

/-- The float nearest to `significand * 10 ^ exponent`. Powers beyond the range of floats are
    not computed. -/
def toFloat (significand : Nat) (exponent : Int) : Float :=
  if significand = 0 then 0
  else
    let size := ((Nat.toDigits 10 significand).length : Int) + exponent
    if 310 < size then 1 / 0
    else if size < -330 then 0
    else match exponent with
      | .ofNat e => Float.ofScientific significand false e
      | .negSucc e => Float.ofScientific significand true (e + 1)

def exponent? (cs : List Char) : Option Int :=
  match cs with
  | '+' :: rest => (digits? rest).map Int.ofNat
  | '-' :: rest => (digits? rest).map fun n => -(n : Int)
  | _ => (digits? cs).map Int.ofNat

def unsigned? (cs : List Char) : Option Float :=
  let whole := cs.takeWhile isDigit
  let rest := cs.dropWhile isDigit
  let (part,rest) := match rest with
    | '.' :: rest => (rest.takeWhile isDigit,rest.dropWhile isDigit)
    | _ => ([],rest)
  if whole.isEmpty && part.isEmpty then none
  else
    let scaled (e : Int) := some (toFloat (value (whole ++ part)) (e - part.length))
    match rest with
    | [] => scaled 0
    | c :: rest => if c = 'e' ∨ c = 'E' then (exponent? rest).bind scaled else none

/-- The names of the values that digits cannot write, in any case. -/
def named? (cs : List Char) : Option Float :=
  match String.ofList (cs.map Char.toLower) with
  | "inf" | "infinity" => some (1 / 0)
  | "nan" => some (0 / 0)
  | _ => none

/-- A decimal or a name after at most one sign. -/
def float? (cs : List Char) : Option Float :=
  let magnitude (cs : List Char) := (named? cs).orElse fun _ => unsigned? cs
  match cs with
  | '+' :: rest => magnitude rest
  | '-' :: rest => (magnitude rest).map fun x => -x
  | _ => magnitude cs

end VideoCapture.Decimal
