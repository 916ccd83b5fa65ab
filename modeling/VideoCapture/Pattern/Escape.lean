import VideoCapture.Pattern.Cursor
import VideoCapture.Pattern.Term
import VideoCapture.Text.Numeral
/-!
# Escapes

What a backslash begins: a character, a set of characters or a question about a place. A reader of
this module is given the cursor and returns it after what was read.
-/
namespace VideoCapture.Pattern

inductive Escape
  | member (m : Member)
  | assertion (span : Span) (a : Assertion)
  deriving DecidableEq, Repr, Inhabited

def Escape.span : Escape → Span
  | member m => m.span
  | assertion span _ => span

def signs : List Char :=
  ['\\','.','+','*','?','(',')','|','[',']','{','}','^','$','#','&','-','~']

/-- Whether a character stands for itself after a backslash. -/
def standsForItself (c : Char) : Bool :=
  signs.contains c || c.toNat < 128 && !c.isAlphanum && c ≠ '<' && c ≠ '>'

def isHexadecimal (c : Char) : Bool :=
  Numeral.isDigit c || ('a' ≤ c && c ≤ 'f') || ('A' ≤ c && c ≤ 'F')

def hexadecimalValue (c : Char) : Nat :=
  if Numeral.isDigit c then Numeral.digitValue c else c.toLower.toNat - 'a'.toNat + 10

def characterOf? (digits : List Char) : Option Char :=
  let n := digits.foldl (fun n c => 16 * n + hexadecimalValue c) 0
  if n.isValidChar then some (Char.ofNat n) else none

def readDigits : Nat → Cursor → Except Complaint (List Char × Cursor)
  | 0, c => .ok ([],c)
  | count + 1, c =>
    match c.rest with
    | [] => refuse .escapeUnfinished c.here
    | x :: _ =>
      if isHexadecimal x then do
        let (xs,c) ← readDigits count c.next
        return (x :: xs,c)
      else refuse .hexadecimalDigit c.character

/-- Reads a character in so many hexadecimal digits. `start` is where the backslash stands. -/
def readFixedNumber (start count : Nat) (c : Cursor) : Except Complaint (Literal × Cursor) := do
  let (digits,after) ← readDigits count c
  match characterOf? digits with
  | some char => return (⟨after.since start,char,count = 2⟩,after)
  | none => refuse .hexadecimalValue (after.since c.place)

/-- Reads a character as a hexadecimal number between braces, of which the first comes next. -/
def readBracedNumber (start : Nat) (c : Cursor) : Except Complaint (Literal × Cursor) := do
  let (digits,close) := c.next.gather isHexadecimal
  match close.rest with
  | [] => refuse .escapeUnfinished (close.since c.place)
  | '}' :: _ =>
    let after := close.next
    if digits.isEmpty then refuse .hexadecimalEmpty (after.since c.place)
    else match characterOf? digits with
      | some char => return (⟨after.since start,char,false⟩,after)
      | none => refuse .hexadecimalValue (close.since (c.place + 1))
  | _ => refuse .hexadecimalDigit close.character

def readNumber (start count : Nat) (c : Cursor) : Except Complaint (Literal × Cursor) :=
  let c := c.next
  match c.rest with
  | [] => refuse .escapeUnfinished c.here
  | '{' :: _ => readBracedNumber start c
  | _ => readFixedNumber start count c

/-- Reads the name of a property, a letter or between braces. -/
def readProperty (start : Nat) (c : Cursor) : Except Complaint (Member × Cursor) :=
  let c := c.next
  match c.rest with
  | [] => refuse .escapeUnfinished c.here
  | '{' :: _ =>
    let (name,close) := c.next.gather (· ≠ '}')
    if close.atEnd then refuse .escapeUnfinished close.here
    else
      let after := close.advance 1
      .ok (.property (after.since start) (String.ofList name),after)
  | '\\' :: _ => refuse .propertyName c.character
  | x :: _ => .ok (.property (c.next.since start) (String.singleton x),c.next)

def wordEdgeOfName? (name : List Char) : Option Assertion :=
  match String.ofList name with
  | "start" => some .wordStart
  | "end" => some .wordEnd
  | "start-half" => some .wordStartHalf
  | "end-half" => some .wordEndHalf
  | _ => none

/-- Reads the name between braces after the escape for an edge of a word. The brace that comes next
    may belong to a repetition. -/
def readWordEdge? (start : Nat) (c : Cursor) :
    Except Complaint (Option (Assertion × Cursor)) :=
  let named (x : Char) : Bool := x.isAlpha || x = '-'
  let first := c.next
  match first.rest with
  | [] => refuse .wordEdgeOrCountUnclosed (first.since start)
  | x :: _ =>
    if !named x then .ok none
    else
      let (name,close) := first.gather named
      match close.rest with
      | '}' :: _ =>
        match wordEdgeOfName? name with
        | some edge => .ok (some (edge,close.advance 1))
        | none => refuse .wordEdgeUnknown (close.since first.place)
      | _ => refuse .wordEdgeUnclosed (close.since c.place)

/-- The set that a letter after a backslash stands for, and whether it is negated. -/
def shorthandOf? : Char → Option (Shorthand × Bool)
  | 'd' => some (.digit,false)
  | 's' => some (.space,false)
  | 'w' => some (.word,false)
  | 'D' => some (.digit,true)
  | 'S' => some (.space,true)
  | 'W' => some (.word,true)
  | _ => none

def controlOf? : Char → Option Char
  | 'a' => some '\x07'
  | 'f' => some '\x0c'
  | 't' => some '\t'
  | 'n' => some '\n'
  | 'r' => some '\r'
  | 'v' => some '\x0b'
  | _ => none

def assertionOf? : Char → Option Assertion
  | 'A' => some .textStart
  | 'z' => some .textEnd
  | 'b' => some .wordEdge
  | 'B' => some .noWordEdge
  | '<' => some .wordStart
  | '>' => some .wordEnd
  | _ => none

/-- How many digits a number has after a letter that announces one. -/
def digitsAfter? : Char → Option Nat
  | 'x' => some 2
  | 'u' => some 4
  | 'U' => some 8
  | _ => none

/-- Reads an escape. The backslash comes next. -/
def readEscape (c : Cursor) : Except Complaint (Escape × Cursor) :=
  let start := c.place
  let c := c.advance 1
  let after := c.advance 1
  let span := after.since start
  match c.rest with
  | [] => refuse .escapeUnfinished (c.since start)
  | x :: _ =>
    if Numeral.isDigit x then refuse .backreference span
    else if let some count := digitsAfter? x then do
      let (literal,after) ← readNumber start count c
      return (.member (.literal literal),after)
    else if x = 'p' ∨ x = 'P' then do
      let (property,after) ← readProperty start c
      return (.member property,after)
    else if let some (set,negated) := shorthandOf? x then
      .ok (.member (.shorthand span set negated),after)
    else if standsForItself x then .ok (.member (.literal ⟨span,x,false⟩),after)
    else if let some char := controlOf? x then .ok (.member (.literal ⟨span,char,false⟩),after)
    else if let some assertion := assertionOf? x then
      if x = 'b' && after.rest.head? = some '{' then do
        match ← readWordEdge? start after with
        | some (edge,after) => return (.assertion (after.since start) edge,after)
        | none => return (.assertion span assertion,after)
      else .ok (.assertion span assertion,after)
    else refuse .escapeUnknown span

end VideoCapture.Pattern
