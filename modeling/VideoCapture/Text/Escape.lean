/-!
# Octets in printable ASCII

Each octet has a text of its own in printable ASCII: itself where it is printable and no
delimiter, an escape sequence elsewhere.
-/
namespace VideoCapture.Text

def hexDigit (n : Nat) : Char :=
  if n < 10 then Char.ofNat ('0'.toNat + n) else Char.ofNat ('a'.toNat + (n - 10))

def hexOctet (b : UInt8) : List Char := [hexDigit (b.toNat / 16),hexDigit (b.toNat % 16)]

/-- The text of one octet: tab, line ends, quotes and the backslash after a backslash, other
    printable octets as they are, the rest as a backslash, an `x` and two digits of base 16. -/
def escapeOctet (b : UInt8) : List Char :=
  if b = 9 then ['\\','t']
  else if b = 13 then ['\\','r']
  else if b = 10 then ['\\','n']
  else if b = 39 then ['\\','\'']
  else if b = 34 then ['\\','"']
  else if b = 92 then ['\\','\\']
  else if 0x20 ≤ b ∧ b < 0x7F then [Char.ofNat b.toNat]
  else '\\' :: 'x' :: hexOctet b

def escapeOctets (bs : List UInt8) : List Char := bs.flatMap escapeOctet

end VideoCapture.Text
