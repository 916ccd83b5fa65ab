/-!
# Binary floating-point numbers as exact fractions

A finite number of 64 bits is a whole significand times a power of two.
-/
namespace VideoCapture

/-- What a number of 64 bits stands for. -/
inductive Binary64
  | nan
  | infinite (negative : Bool)
  /-- The significand times two to the power of the exponent. -/
  | finite (negative : Bool) (significand : Nat) (exponent : Int)
  deriving DecidableEq, Repr

namespace Binary64

/-- Reads the sign, eleven bits of exponent and fifty-two bits of significand. -/
def ofBits (bits : UInt64) : Binary64 :=
  let n := bits.toNat
  let negative := decide (Nat.pow 2 63 ≤ n)
  let biased : Nat := n / Nat.pow 2 52 % Nat.pow 2 11
  let fraction : Nat := n % Nat.pow 2 52
  if biased = 2047 then
    if fraction = 0 then infinite negative else nan
  else if biased = 0 then finite negative fraction (-1074)
  else finite negative (Nat.pow 2 52 + fraction) ((biased : Int) - 1075)

def of (x : Float) : Binary64 := ofBits x.toBits

/-- A significand times a power of two as a quotient of whole numbers. -/
def quotient (significand : Nat) (exponent : Int) : Nat × Nat :=
  match exponent with
  | .ofNat e => (significand * Nat.pow 2 e,1)
  | .negSucc e => (significand,Nat.pow 2 (e + 1))

end Binary64
end VideoCapture
