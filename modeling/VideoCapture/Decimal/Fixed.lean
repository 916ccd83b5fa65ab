import VideoCapture.Decimal.Binary64
/-!
# Numbers with a fixed count of decimals

The exact value is rounded once; a value half way between two texts goes to the even one.
-/
namespace VideoCapture.Decimal

/-- The whole number nearest to a quotient, the even one of two equally near. -/
def roundDiv (num den : Nat) : Nat :=
  let q := num / den
  let r := num % den
  if 2 * r < den then q
  else if 2 * r = den then q + q % 2
  else q + 1

def padZeros (width : Nat) (digits : List Char) : List Char :=
  List.replicate (width - digits.length) '0' ++ digits

/-- A whole number of units of `10 ^ -places`, written out. -/
def pointed (places units : Nat) : String :=
  let digits := padZeros (places + 1) (Nat.toDigits 10 units)
  let cut := digits.length - places
  String.ofList (digits.take cut ++ (if places = 0 then [] else '.' :: digits.drop cut))

def fixed (places : Nat) (x : Float) : String :=
  match Binary64.of x with
  | .nan => "NaN"
  | .infinite negative => if negative then "-inf" else "inf"
  | .finite negative significand exponent =>
    let (num,den) := Binary64.quotient significand exponent
    (if negative then "-" else "") ++ pointed places (roundDiv (num * Nat.pow 10 places) den)

end VideoCapture.Decimal
