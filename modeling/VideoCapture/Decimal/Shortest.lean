import VideoCapture.Decimal.Binary64
/-!
# The shortest decimal that reads back

A number is written with the fewest digits that denote it and no other number of 64 bits, and
among those with the digits nearest to it, the greater ones where two are as near.
-/
namespace VideoCapture.Decimal

/-- A positive decimal: the digits of `digits`, which denote a number between 0.1 and 1, times
    ten to the power of `point`. -/
structure Digits where
  digits : List Char
  point : Int
  deriving DecidableEq, Repr

/-- The least power of ten above the positive quotient `num / den`. -/
def magnitude (num den : Nat) : Int :=
  if den ≤ num then ((Nat.toDigits 10 (num / den)).length : Int)
  else
    match (List.range 400).find? fun j => den ≤ num * Nat.pow 10 (j + 1) with
    | some j => -(j : Int)
    | none => -400

/-- The numbers that round to a significand and exponent, in quarters of the last place: the
    lower end, the upper end, and whether the ends belong to them. -/
def roundingRange (significand : Nat) (exponent : Int) : Nat × Nat × Bool :=
  let lowest := if significand = Nat.pow 2 52 ∧ exponent ≠ -1074 then 1 else 2
  (4 * significand - lowest,4 * significand + 2,significand % 2 = 0)

/-- The digits of the grid with `count` digits that lie in the range and nearest to the value. -/
def onGrid? (significand : Nat) (exponent : Int) (count : Nat) : Option Digits :=
  let (num,den) := Binary64.quotient significand exponent
  let point := magnitude num den
  let place := point - count
  -- value / 10^place as a quotient of whole numbers
  let up := Nat.pow 10 (-place).toNat
  let down := Nat.pow 10 place.toNat
  let below := num * up / (den * down)
  let (low,high,closed) := roundingRange significand exponent
  -- compares a grid point with the ends of the range, all in units of quarters
  let inside (n : Nat) : Bool :=
    let point := 4 * (n * down * den)
    let (lo,_) := Binary64.quotient low exponent
    let (hi,_) := Binary64.quotient high exponent
    if closed then lo * up ≤ point && point ≤ hi * up else lo * up < point && point < hi * up
  let distance (n : Nat) : Nat :=
    let a := n * down * den
    let b := num * up
    (a - b) + (b - a)
  let candidates := [below,below + 1].filter fun n => n ≠ 0 && inside n
  match candidates with
  | [] => none
  | [n] => some (digitsOf n point)
  | n :: m :: _ =>
    let nearer := if distance n < distance m then n
      else m
    some (digitsOf nearer point)
where
  /-- A grid point; the upper neighbour may reach the next power of ten. -/
  digitsOf (n : Nat) (point : Int) : Digits :=
    let ds := Nat.toDigits 10 n
    ⟨(ds.reverse.dropWhile (· == '0')).reverse,point + ds.length - count⟩

/-- The shortest digits of a positive finite number; seventeen always suffice. -/
def shortest (significand : Nat) (exponent : Int) : Digits :=
  ((List.range 17).findSome? fun k => onGrid? significand exponent (k + 1)).getD ⟨['0'],1⟩

/-- Digits with a decimal point and no exponent, with at least `places` decimals. -/
def Digits.positional (d : Digits) (places : Nat) : String :=
  let whole :=
    if d.point ≤ 0 then ['0']
    else d.digits.take d.point.toNat ++ List.replicate (d.point.toNat - d.digits.length) '0'
  let part :=
    if d.point ≤ 0 then List.replicate (-d.point).toNat '0' ++ d.digits
    else d.digits.drop d.point.toNat
  let part := part ++ List.replicate (places - part.length) '0'
  String.ofList (whole ++ (if part.isEmpty then [] else '.' :: part))

/-- Digits with one digit before the point and an exponent. -/
def Digits.scientific (d : Digits) : String :=
  let part := d.digits.drop 1
  let mantissa := d.digits.take 1 ++ (if part.isEmpty then [] else '.' :: part)
  String.ofList mantissa ++ "e" ++ toString (d.point - 1)

def plain (x : Float) : String :=
  match Binary64.of x with
  | .nan => "NaN"
  | .infinite negative => if negative then "-inf" else "inf"
  | .finite negative significand exponent =>
    (if negative then "-" else "") ++
      (if significand = 0 then "0" else (shortest significand exponent).positional 0)

/-- A number as diagnostics show it: always with a decimal, and with an exponent from `10 ^ 16`
    on and below `10 ^ -4`. -/
def diagnostic (x : Float) : String :=
  match Binary64.of x with
  | .nan => "NaN"
  | .infinite negative => if negative then "-inf" else "inf"
  | .finite negative significand exponent =>
    (if negative then "-" else "") ++
      (if significand = 0 then "0.0"
      else
        let d := shortest significand exponent
        if -4 < d.point ∧ d.point ≤ 16 then d.positional 1 else d.scientific)

end VideoCapture.Decimal
