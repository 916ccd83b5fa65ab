/-!
# Ranges of characters in octets

A range of code points is cut into pieces of which each is spelled by one range of octets in every
place.
-/
namespace VideoCapture.Text

structure OctetRange where
  first : UInt8
  last : UInt8
  deriving DecidableEq, Repr, Inhabited

/-- The code points of characters that are spelled in more than one octet, by how many these are,
    without those between the two halves that no character has. -/
def spelledLonger : List (Nat × Nat) :=
  [(0x80,0x7FF),(0x800,0xD7FF),(0xE000,0xFFFF),(0x10000,0x10FFFF)]

/-- How many characters differ in the last octet only, in the last two, and in the last three. -/
def blocks : List Nat := [0x40,0x1000,0x40000]

/-- The pieces of a range. Each lies in one block or is made of whole ones, for all kinds of
    blocks given, of which each is made of the one before. -/
def piecesOf : List Nat → Nat → Nat → List (Nat × Nat)
  | [], first, last => [(first,last)]
  | block :: larger, first, last =>
    if first / block = last / block then [(first,last)]
    else
      -- the whole blocks begin at the one place and end before the other
      let start := (first + (block - 1)) / block * block
      let stop := (last + 1) / block * block
      (if first < start then [(first,start - 1)] else []) ++
        (if start < stop then piecesOf larger start (stop - 1) else []) ++
        (if stop ≤ last then [(stop,last)] else [])

def octetsOf (first last : Nat) : List OctetRange :=
  List.zipWith OctetRange.mk (String.utf8EncodeChar (Char.ofNat first))
    (String.utf8EncodeChar (Char.ofNat last))

/-- The ranges of octets that spell the characters of a range, piece by piece. -/
def spellings (first last : Nat) : List (List OctetRange) :=
  let among (low high : Nat) (cut : Nat → Nat → List (Nat × Nat)) :=
    let first := max first low
    let last := min last high
    if first ≤ last then cut first last else []
  let pieces := among 0 0x7F (fun first last => [(first,last)]) ++
    spelledLonger.flatMap fun (low,high) => among low high (piecesOf blocks)
  pieces.map fun (first,last) => octetsOf first last

end VideoCapture.Text
