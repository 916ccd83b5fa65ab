import VideoCapture.Text.Numeral
/-!
# The words of a JSON text

Strings, numbers and the three names, each read from the front of a text. The first defect met
from left to right decides: the text ends early, it is malformed, or it is well formed so far
but of the wrong shape.
-/
namespace VideoCapture.Json

/-- Why a text is not accepted. -/
inductive Defect
  | truncated
  /-- The text is well formed so far but has the wrong shape. -/
  | mismatch
  | malformed
  deriving DecidableEq, Repr, Inhabited

/-- Reads a value from the front of a text and gives the rest. -/
abbrev Reader (α : Type) := List Char → Except Defect (α × List Char)

def isSpace (c : Char) : Bool := c = ' ' || c = '\n' || c = '\t' || c = '\r'

def skipSpace (cs : List Char) : List Char := cs.dropWhile isSpace

/-- The rest of a name whose first character has been read. -/
def name : List Char → List Char → Except Defect (List Char)
  | [], cs => .ok cs
  | _ :: _, [] => .error .truncated
  | expected :: more, c :: cs => if c = expected then name more cs else .error .malformed

/-! ## Strings -/

def hexValue? (c : Char) : Option Nat :=
  if '0' ≤ c ∧ c ≤ '9' then some (c.toNat - '0'.toNat)
  else if 'a' ≤ c ∧ c ≤ 'f' then some (c.toNat - 'a'.toNat + 10)
  else if 'A' ≤ c ∧ c ≤ 'F' then some (c.toNat - 'A'.toNat + 10)
  else none

/-- Four digits of base 16. A text with fewer than four octets left ends early, whatever they
    are. -/
def hexQuad (cs : List Char) : Except Defect (Nat × List Char) :=
  let defect := if 4 ≤ ((cs.take 4).map Char.utf8Size).foldl (· + ·) 0 then Defect.malformed else .truncated
  match cs with
  | a :: b :: c :: d :: rest =>
    match hexValue? a, hexValue? b, hexValue? c, hexValue? d with
    | some a, some b, some c, some d => .ok (((a * 16 + b) * 16 + c) * 16 + d,rest)
    | _, _, _, _ => .error defect
  | _ => .error defect

def simpleEscape? (c : Char) : Option Char :=
  if c = '"' ∨ c = '\\' ∨ c = '/' then some c
  else if c = 'b' then some '\x08'
  else if c = 'f' then some '\x0C'
  else if c = 'n' then some '\n'
  else if c = 'r' then some '\r'
  else if c = 't' then some '\t'
  else none

/-- The character that a `\u` escape stands for. The first half of a surrogate pair is followed
    by the second half in an escape of its own. -/
def unicodeEscape (cs : List Char) : Except Defect (Char × List Char) := do
  let (high,rest) ← hexQuad cs
  if 0xDC00 ≤ high ∧ high ≤ 0xDFFF then throw .malformed
  else if high < 0xD800 ∨ 0xDBFF < high then return (Char.ofNat high,rest)
  else match rest with
    | [] => throw .truncated
    | '\\' :: [] => throw .truncated
    | '\\' :: 'u' :: rest =>
      let (low,rest) ← hexQuad rest
      if low < 0xDC00 ∨ 0xDFFF < low then throw .malformed
      return (Char.ofNat (0x10000 + (high - 0xD800) * 0x400 + (low - 0xDC00)),rest)
    | _ => throw .malformed

/-- The next character of a string, or nothing at its closing quote. -/
def stringChar : List Char → Except Defect (Option Char × List Char)
  | [] => .error .truncated
  | '"' :: rest => .ok (none,rest)
  | ['\\'] => .error .truncated
  | '\\' :: 'u' :: rest => (unicodeEscape rest).map fun (c,rest) => (some c,rest)
  | '\\' :: c :: rest =>
    match simpleEscape? c with
    | some c => .ok (some c,rest)
    | none => .error .malformed
  | c :: rest => if c.toNat < 0x20 then .error .malformed else .ok (some c,rest)

/-- The characters of a string up to its closing quote, at most `fuel` of them. -/
def stringChars : Nat → Reader (List Char)
  | 0, _ => .error .truncated
  | fuel + 1, cs => do
    match ← stringChar cs with
    | (none,rest) => return ([],rest)
    | (some c,rest) =>
      let (more,rest) ← stringChars fuel rest
      return (c :: more,rest)

def stringBody : Reader String := fun cs => do
  let (chars,rest) ← stringChars (cs.length + 1) cs
  return (String.ofList chars,rest)

/-! ## Numbers -/

open Numeral (isDigit digitValue)

/-- A number as it is written: whole, or with a point, an exponent or too many digits. -/
inductive Number
  | int (n : Int)
  | float (x : Float)
  deriving Inhabited

/-- Digits taken onto a significand of 64 bits: the significand, and how many digits were taken
    before one that no longer fits. -/
def accumulate : Nat → Nat → List Char → Nat × Nat
  | significand, taken, [] => (significand,taken)
  | significand, taken, c :: cs =>
    let next := significand * 10 + digitValue c
    if UInt64.size ≤ next then (significand,taken) else accumulate next (taken + 1) cs

def powerOfTen (n : Nat) : Float := Float.ofScientific 1 false n

/-- A significand times a power of ten in float arithmetic; a number too large is malformed. -/
def scaled (significand : Nat) (exponent : Int) : Except Defect Float :=
  let x := (UInt64.ofNat significand).toFloat
  match exponent with
  | .ofNat e =>
    if 308 < e then (if x == 0 then .ok x else .error .malformed)
    else
      let y := x * powerOfTen e
      if y.isInf then .error .malformed else .ok y
  | .negSucc e =>
    -- four steps of 308 places take every significand to zero
    let steps := min 4 (e / 308)
    .ok (Nat.repeat (· / powerOfTen 308) steps x / powerOfTen (e + 1 - 308 * (e / 308)))

/-- The exponent of a number whose `e` has been read, and the number. An exponent beyond 32 bits
    makes a number zero or too large. -/
def exponentPart (significand : Nat) (exponent : Int) : Reader Float := fun cs =>
  let (negative,cs) := match cs with
    | '+' :: rest => (false,rest)
    | '-' :: rest => (true,rest)
    | _ => (false,cs)
  match cs with
  | [] => .error .truncated
  | c :: _ =>
    if !isDigit c then .error .malformed
    else
      let digits := cs.takeWhile isDigit
      let rest := cs.dropWhile isDigit
      let e := Numeral.value digits
      if Nat.pow 2 31 ≤ e then
        if significand ≠ 0 ∧ !negative then .error .malformed else .ok (0,rest)
      else (scaled significand (exponent + if negative then -(e : Int) else e)).map (·,rest)

def exponentOrEnd (significand : Nat) (exponent : Int) : Reader Float := fun cs =>
  match cs with
  | 'e' :: rest | 'E' :: rest => exponentPart significand exponent rest
  | _ => (scaled significand exponent).map (·,cs)

def fractionPart (significand : Nat) (exponent : Int) : Reader Float := fun cs =>
  match cs with
  | [] => .error .truncated
  | c :: _ =>
    if !isDigit c then .error .malformed
    else
      let (significand,taken) := accumulate significand 0 (cs.takeWhile isDigit)
      exponentOrEnd significand (exponent - taken) (cs.dropWhile isDigit)

/-- A number without its sign. A zero is not followed by another digit. -/
def number (negative : Bool) : Reader Number := fun cs =>
  let signed (read : Except Defect (Float × List Char)) : Except Defect (Number × List Char) :=
    read.map fun (x,rest) => (.float (if negative then -x else x),rest)
  match cs with
  | [] => .error .truncated
  | c :: cs' =>
    if !isDigit c then .error .malformed
    else if c = '0' ∧ (cs'.head?.any isDigit) then .error .malformed
    else
      let digits := cs.takeWhile isDigit
      let rest := cs.dropWhile isDigit
      let (significand,taken) := accumulate 0 0 digits
      let dropped : Int := digits.length - taken
      match rest with
      | '.' :: rest => signed (fractionPart significand dropped rest)
      | 'e' :: rest | 'E' :: rest => signed (exponentPart significand dropped rest)
      | _ =>
        if dropped ≠ 0 then signed ((scaled significand dropped).map (·,rest))
        else if !negative then .ok (.int significand,rest)
        else if significand = 0 ∨ Nat.pow 2 63 < significand then
          signed (.ok ((UInt64.ofNat significand).toFloat,rest))
        else .ok (.int (-significand),rest)

end VideoCapture.Json
