import VideoCapture.Pattern.Growth
import VideoCapture.Pattern.Simplified
import VideoCapture.Text.Utf8
/-!
# Words in a machine

Alternatives that are words share states as long as they begin alike. Where a word ends, what later
words have in common with earlier ones is not shared any more, since the earlier words are preferred
to the word and the later ones are not.
-/
namespace VideoCapture.Pattern

abbrev Word := List UInt8

/-- The words that are the alternatives of an expression, if all of them are. -/
def Expression.words? (e : Expression) : Option (List Word) :=
  e.alternatives.mapM fun
    | .text cs => some (Utf8.encode cs)
    | _ => none

/-- How often some words end before the first octet of another one, or between others. Only the
    first end counts before there is an octet. -/
def endings (words : List Word) : Nat :=
  (if words.head? = some [] then 1 else 0) + (words.dropWhile (·.isEmpty)).count []

/-- The stretches of words without an end between them. -/
def stretches (words : List Word) : List (List Word) :=
  (words.splitBy fun a b => !a.isEmpty && !b.isEmpty).filter (·.any (!·.isEmpty))

def firstOctets (words : List Word) : List UInt8 := (words.filterMap List.head?).eraseDups

def afterOctet (words : List Word) (octet : UInt8) : List Word :=
  (words.filter (·.head? = some octet)).map List.tail

/-- The states for some words that are at most so long, and the octets of their arrows. -/
def sizeOfWords : Nat → List Word → Nat × Nat
  | 0, _ => (0,0)
  | length + 1, words =>
    if words.all (·.isEmpty) then (0,0)
    else
      let parts := stretches words
      let ranges := (parts.map fun part =>
        let count := (firstOctets part).length
        if count = 1 then 0 else Growth.rangeSize * count).sum
      let later := parts.flatMap fun part =>
        (firstOctets part).map fun octet => sizeOfWords length (afterOctet part octet)
      (parts.length + 1 + (later.map (·.1)).sum,
        ranges + Growth.choiceSize * (parts.length + endings words) + (later.map (·.2)).sum)

/-- A machine with some words more, of which one is to be read, and a state after them. -/
def growWords (words : List Word) (g : Growth) : Option Growth :=
  let (states,arrows) := sizeOfWords (words.foldl (fun n word => max n word.length) 0) words
  g.add (states + 1) arrows

end VideoCapture.Pattern
