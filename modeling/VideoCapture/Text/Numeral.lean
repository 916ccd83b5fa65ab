/-!
# Decimal numerals

Unsigned whole numbers in ASCII digits.
-/
namespace VideoCapture.Numeral

def isDigit (c : Char) : Bool := '0' ≤ c && c ≤ '9'

def digitValue (c : Char) : Nat := c.toNat - '0'.toNat

def value (cs : List Char) : Nat := cs.foldl (fun n c => n * 10 + digitValue c) 0

def digits? (cs : List Char) : Option Nat :=
  if cs ≠ [] ∧ cs.all isDigit then some (value cs) else none

/-- An unsigned number below `bound`: digits after at most one plus sign. -/
def below? (bound : Nat) (cs : List Char) : Option Nat :=
  let body := match cs with
    | '+' :: rest => rest
    | _ => cs
  (digits? body).filter (· < bound)

def word32? (cs : List Char) : Option UInt32 := (below? UInt32.size cs).map UInt32.ofNat

def word64? (cs : List Char) : Option UInt64 := (below? UInt64.size cs).map UInt64.ofNat

end VideoCapture.Numeral
