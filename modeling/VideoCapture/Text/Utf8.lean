/-!
# UTF-8

Octets read as characters, one character at a time. `decode?` accepts well-formed texts
only; `decodeLossy` puts U+FFFD where a character breaks off.
-/
namespace VideoCapture.Utf8

def encode (cs : List Char) : List UInt8 := cs.flatMap String.utf8EncodeChar

/-- A continuation octet in the range that its place allows. -/
def isTail (low high : UInt8) (b : UInt8) : Bool := low ≤ b && b ≤ high

def payload (b : UInt8) : Nat := b.toNat % 64

/-- What a lead octet promises: the number of octets that follow it, the bits it carries, and
    the range of the first octet that follows. -/
def lead? (b : UInt8) : Option (Nat × Nat × UInt8 × UInt8) :=
  if b < 0x80 then some (0,b.toNat,0x80,0xBF)
  else if b < 0xC2 then none
  else if b < 0xE0 then some (1,b.toNat % 32,0x80,0xBF)
  else if b = 0xE0 then some (2,0,0xA0,0xBF)
  else if b = 0xED then some (2,13,0x80,0x9F)
  else if b < 0xF0 then some (2,b.toNat % 16,0x80,0xBF)
  else if b = 0xF0 then some (3,0,0x90,0xBF)
  else if b < 0xF4 then some (3,b.toNat % 8,0x80,0xBF)
  else if b = 0xF4 then some (3,4,0x80,0x8F)
  else none

/-- Takes `n` continuation octets, the first in the given range, onto the bits so far. Gives
    the code point, or nothing where the character breaks off, and the octets not used. -/
def tails : Nat → Nat → UInt8 → UInt8 → List UInt8 → Option Nat × List UInt8
  | 0, bits, _, _, bs => (some bits,bs)
  | _ + 1, _, _, _, [] => (none,[])
  | n + 1, bits, low, high, b :: bs =>
    if isTail low high b then tails n (bits * 64 + payload b) 0x80 0xBF bs else (none,b :: bs)

theorem length_tails_le (n bits : Nat) (low high : UInt8) (bs : List UInt8) :
    (tails n bits low high bs).2.length ≤ bs.length := by
  induction n generalizing bits low high bs with
  | zero => simp [tails]
  | succ n ih =>
    cases bs with
    | nil => simp [tails]
    | cons b bs =>
      simp only [tails]
      split
      · exact Nat.le_trans (ih _ _ _ _) (by simp)
      · simp

/-- The first character of `b :: bs`, or nothing where it is ill formed, and what is left. An
    ill-formed piece is as long as it could still have been the start of a character. -/
def next (b : UInt8) (bs : List UInt8) : Option Char × List UInt8 :=
  match lead? b with
  | none => (none,bs)
  | some (n,bits,low,high) =>
    let read := tails n bits low high bs
    (read.1.map Char.ofNat,read.2)

theorem length_next_le (b : UInt8) (bs : List UInt8) : (next b bs).2.length ≤ bs.length := by
  unfold next
  split
  · simp
  · exact length_tails_le _ _ _ _ _

/-- The characters of a text, with nothing in place of each ill-formed piece. -/
def pieces : List UInt8 → List (Option Char)
  | [] => []
  | b :: bs => (next b bs).1 :: pieces (next b bs).2
termination_by bs => bs.length
decreasing_by exact Nat.lt_succ_of_le (length_next_le b bs)

def decode? (bs : List UInt8) : Option (List Char) := (pieces bs).mapM id

/-- The characters of a text, with U+FFFD in place of each ill-formed piece. -/
def decodeLossy (bs : List UInt8) : List Char := (pieces bs).map (·.getD '\uFFFD')

end VideoCapture.Utf8
