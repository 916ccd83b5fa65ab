import VideoCapture.Pattern.Span
import VideoCapture.Text.Blank
/-!
# Reading along a pattern

A cursor between the characters that are read and those that are left. In a verbose pattern white
space and comments, from a number sign to the end of a line, are passed over.
-/
namespace VideoCapture.Pattern

structure Cursor where
  /-- How many characters are read. -/
  place : Nat
  rest : List Char
  verbose : Bool
  deriving Repr, Inhabited

/-- How many characters of white space and comments come first, and what is left after them. -/
def passOver (inComment : Bool) : List Char → Nat × List Char
  | [] => (0,[])
  | c :: cs =>
    let after (inComment : Bool) := let (count,rest) := passOver inComment cs; (count + 1,rest)
    if inComment then after (c ≠ '\n')
    else if Text.isBlank c then after false
    else if c = '#' then after true
    else (0,c :: cs)

namespace Cursor

def start (pattern : String) : Cursor := ⟨0,pattern.toList,false⟩

def atEnd (c : Cursor) : Bool := c.rest.isEmpty

def advance (c : Cursor) (count : Nat) : Cursor :=
  { c with place := c.place + (c.rest.take count).length, rest := c.rest.drop count }

/-- The cursor after white space and comments, if they have no meaning. -/
def skip (c : Cursor) : Cursor :=
  if c.verbose then
    let (count,rest) := passOver false c.rest
    { c with place := c.place + count, rest }
  else c

def next (c : Cursor) : Cursor := (c.advance 1).skip

def here (c : Cursor) : Span := ⟨c.place,c.place⟩

def character (c : Cursor) : Span := ⟨c.place,c.place + 1⟩

def since (c : Cursor) (start : Nat) : Span := ⟨start,c.place⟩

/-- The character after the next one. White space without a meaning is passed over, and so is the
    sign of a comment, but not its text. -/
def second? (c : Cursor) : Option Char :=
  let rest := c.rest.drop 1
  if c.verbose then
    match rest.dropWhile Text.isBlank with
    | '#' :: rest => (rest.dropWhile Text.isBlank).head?
    | rest => rest.head?
  else rest.head?

/-- The characters of a kind from the cursor on, at most so many, and the cursor after them. -/
def gatherWithin (kind : Char → Bool) : Nat → Cursor → List Char × Cursor
  | 0, c => ([],c)
  | count + 1, c =>
    match c.rest with
    | x :: _ =>
      if kind x then
        let (xs,c) := gatherWithin kind count c.next
        (x :: xs,c)
      else ([],c)
    | [] => ([],c)

def gather (kind : Char → Bool) (c : Cursor) : List Char × Cursor :=
  gatherWithin kind c.rest.length c

end Cursor
end VideoCapture.Pattern
