import VideoCapture.Pattern.Fault
/-!
# Patterns as they are written

The parts of a pattern with the stretches where they stand.
-/
namespace VideoCapture.Pattern

/-- A character that stands for itself, as written or by an escape. -/
structure Literal where
  span : Span
  char : Char
  /-- Whether it is written as an octet in two hexadecimal digits. -/
  octet : Bool
  deriving DecidableEq, Repr, Inhabited

/-- Sets of characters with a letter of their own. -/
inductive Shorthand
  | digit | space | word
  deriving DecidableEq, Repr, Inhabited

inductive AsciiSet
  | alnum | alpha | ascii | blank | cntrl | digit | graph | lower | print | punct | space | upper
  | word | xdigit
  deriving DecidableEq, Repr, Inhabited

def AsciiSet.ofName? (name : String) : Option AsciiSet :=
  match name with
  | "alnum" => some alnum
  | "alpha" => some alpha
  | "ascii" => some ascii
  | "blank" => some blank
  | "cntrl" => some cntrl
  | "digit" => some digit
  | "graph" => some graph
  | "lower" => some lower
  | "print" => some print
  | "punct" => some punct
  | "space" => some space
  | "upper" => some upper
  | "word" => some word
  | "xdigit" => some xdigit
  | _ => none

/-- What may stand both inside of brackets and outside. -/
inductive Member
  | literal (l : Literal)
  | shorthand (span : Span) (set : Shorthand) (negated : Bool)
  | property (span : Span) (name : String)
  deriving DecidableEq, Repr, Inhabited

def Member.span : Member → Span
  | literal l => l.span
  | shorthand span _ _ | property span _ => span

inductive SetOperation
  | intersection | difference | symmetricDifference
  deriving DecidableEq, Repr, Inhabited

/-- A set of characters between brackets, or a part of it. -/
inductive SetTerm
  | member (m : Member)
  | range (first last : Literal)
  | named (span : Span) (set : AsciiSet) (negated : Bool)
  /-- No part, or several parts side by side. -/
  | union (span : Span) (parts : List SetTerm)
  | combined (operation : SetOperation) (left right : SetTerm)
  | bracketed (span : Span) (negated : Bool) (content : SetTerm)
  deriving Repr, Inhabited

def SetTerm.span : SetTerm → Span
  | member m => m.span
  | range first last => ⟨first.span.start,last.span.stop⟩
  | named span _ _ | union span _ | bracketed span _ _ => span
  | combined _ left right => ⟨left.span.start,right.span.stop⟩

/-- What a place in a text can be asked. -/
inductive Assertion
  | lineStart | lineEnd | textStart | textEnd
  | wordEdge | noWordEdge | wordStart | wordEnd | wordStartHalf | wordEndHalf
  deriving DecidableEq, Repr, Inhabited

inductive Flag
  | anyCase | manyLines | dotTakesAll | lazyFirst | unicode | carriageReturns | verbose
  deriving DecidableEq, Repr, Inhabited

def Flag.ofChar? : Char → Option Flag
  | 'i' => some anyCase
  | 'm' => some manyLines
  | 's' => some dotTakesAll
  | 'U' => some lazyFirst
  | 'u' => some unicode
  | 'R' => some carriageReturns
  | 'x' => some verbose
  | _ => none

abbrev Settings := List (Flag × Bool)

/-- What some settings say about a flag that is otherwise as given. -/
def Settings.of (settings : Settings) (flag : Flag) (otherwise : Bool) : Bool :=
  (settings.lookup flag).getD otherwise

inductive Term
  | empty (span : Span)
  | settings (span : Span) (settings : Settings)
  | member (m : Member)
  | dot (span : Span)
  | assertion (span : Span) (a : Assertion)
  | set (content : SetTerm)
  /-- Something a number of times, at most so often if there is a bound. A question mark after it
      exchanges what is preferred. -/
  | repetition (span : Span) (body : Term) (least : Nat) (most : Option Nat) (questioned : Bool)
  /-- A group, which keeps what it matched or has settings of its own. -/
  | group (span : Span) (kept : Bool) (settings : Settings) (body : Term)
  | sequence (span : Span) (parts : List Term)
  | alternatives (span : Span) (parts : List Term)
  deriving Repr, Inhabited

def Term.span : Term → Span
  | member m => m.span
  | set content => content.span
  | empty span | settings span _ | dot span | assertion span _ | repetition span _ _ _ _
  | group span _ _ _ | sequence span _ | alternatives span _ => span

def Term.repeatable : Term → Bool
  | empty _ | settings _ _ => false
  | _ => true

mutual

/-- The first part of a set that lies deeper than allowed, below so many others. -/
def SetTerm.tooDeep? (depth : Nat) : SetTerm → Option Span
  | .member _ | .range _ _ | .named _ _ _ => none
  | .union span parts =>
    if parts.isEmpty then none
    else if deepest ≤ depth then some span else SetTerm.firstTooDeep? (depth + 1) parts
  | .combined operation left right =>
    if deepest ≤ depth then some (SetTerm.combined operation left right).span
    else left.tooDeep? (depth + 1) <|> right.tooDeep? (depth + 1)
  | .bracketed span _ content =>
    if deepest ≤ depth then some span else content.tooDeep? (depth + 1)

def SetTerm.firstTooDeep? (depth : Nat) : List SetTerm → Option Span
  | [] => none
  | part :: parts => part.tooDeep? depth <|> SetTerm.firstTooDeep? depth parts

end

mutual

/-- The first part of a pattern that lies deeper than allowed, below so many others. -/
def Term.tooDeep? (depth : Nat) : Term → Option Span
  | .empty _ | .settings _ _ | .member _ | .dot _ | .assertion _ _ => none
  | .set content => content.tooDeep? depth
  | .repetition span body _ _ _ | .group span _ _ body =>
    if deepest ≤ depth then some span else body.tooDeep? (depth + 1)
  | .sequence span parts | .alternatives span parts =>
    if deepest ≤ depth then some span else Term.firstTooDeep? (depth + 1) parts

def Term.firstTooDeep? (depth : Nat) : List Term → Option Span
  | [] => none
  | part :: parts => part.tooDeep? depth <|> Term.firstTooDeep? depth parts

end

end VideoCapture.Pattern
