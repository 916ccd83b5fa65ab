/-!
# Structures as octets

The structures that control requests carry, as octets: numbers lie at fixed offsets with their
lowest octet first, and whatever is not written is zero.
-/
namespace VideoCapture.Kernel

/-- A number of 32 bits, its lowest octet first. -/
def wordOctets (n : UInt32) : List UInt8 :=
  [n.toUInt8,(n >>> 8).toUInt8,(n >>> 16).toUInt8,(n >>> 24).toUInt8]

/-- The octet at an offset; zero past the end. -/
def octetAt (bs : List UInt8) (offset : Nat) : UInt8 := (bs[offset]?).getD 0

def wordAt (bs : List UInt8) (offset : Nat) : UInt32 :=
  let octet (i : Nat) : UInt32 := (octetAt bs (offset + i)).toUInt32
  octet 0 ||| octet 1 <<< 8 ||| octet 2 <<< 16 ||| octet 3 <<< 24

def longAt (bs : List UInt8) (offset : Nat) : Int64 :=
  ((wordAt bs offset).toUInt64 ||| (wordAt bs (offset + 4)).toUInt64 <<< 32).toInt64

/-- Octets with others written over them from an offset on. The length stays as it is. -/
def overwrite (bs : List UInt8) (offset : Nat) (new : List UInt8) : List UInt8 :=
  bs.take offset ++ (new ++ bs.drop (offset + new.length)).take (bs.length - offset)

def overwriteAll (bs : List UInt8) (pieces : List (Nat × List UInt8)) : List UInt8 :=
  pieces.foldl (fun bs piece => overwrite bs piece.1 piece.2) bs

/-- A structure of so many octets with numbers at the given offsets. -/
def structureOf (size : Nat) (fields : List (Nat × UInt32)) : List UInt8 :=
  overwriteAll (List.replicate size 0) (fields.map fun f => (f.1,wordOctets f.2))

def withoutZeros (bs : List UInt8) : List UInt8 := (bs.reverse.dropWhile (· == 0)).reverse

end VideoCapture.Kernel
