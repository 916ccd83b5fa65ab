/-!
# Ranges of characters

Properties of characters as lists of ranges of code points.
-/
namespace VideoCapture.Text

def inRanges (ranges : List (Nat × Nat)) (c : Char) : Bool :=
  ranges.any fun (first,last) => first ≤ c.toNat && c.toNat ≤ last

end VideoCapture.Text
