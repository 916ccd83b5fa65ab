import VideoCapture.Pattern.Escape
/-!
# Sets between brackets

A set lists characters, ranges, named sets and further sets in brackets; two such lists may be
combined by an operation of two signs. A set that is not closed is told at its opening.
-/
namespace VideoCapture.Pattern

/-- A list of parts of a set that is being read, the last part first. -/
structure PartList where
  span : Span
  parts : List SetTerm
  deriving Inhabited

namespace PartList

def start (c : Cursor) : PartList := ⟨c.here,[]⟩

def push (l : PartList) (part : SetTerm) : PartList :=
  ⟨⟨if l.parts.isEmpty then part.span.start else l.span.start,part.span.stop⟩,part :: l.parts⟩

def toTerm (l : PartList) : SetTerm :=
  match l.parts with
  | [part] => part
  | parts => .union l.span parts.reverse

end PartList

structure SetOpening where
  span : Span
  negated : Bool
  deriving Inhabited

def SetTerm.ofChar (span : Span) (char : Char) : SetTerm := .member (.literal ⟨span,char,false⟩)

/-- Hyphens at the beginning of a set, at most so many. They stand for themselves. -/
def leadingHyphens : Nat → PartList → Cursor → PartList × Cursor
  | 0, l, c => (l,c)
  | count + 1, l, c =>
    match c.rest with
    | '-' :: _ => leadingHyphens count (l.push (.ofChar c.character '-')) c.next
    | _ => (l,c)

/-- Reads the opening of a set, with the parts that only there stand for themselves. The bracket
    comes next. -/
def readOpening (c : Cursor) : Except Complaint (SetOpening × PartList × Cursor) :=
  let start := c.place
  let c := c.next
  if c.atEnd then refuse .setUnclosed (c.since start)
  else
    let negated := c.rest.head? = some '^'
    let c := if negated then c.next else c
    if c.atEnd then refuse .setUnclosed (c.since start)
    else
      let (l,c) := leadingHyphens c.rest.length (.start c) c
      if c.atEnd then refuse .setUnclosed ⟨start,start⟩
      else if l.parts.isEmpty && c.rest.head? = some ']' then
        let l := l.push (.ofChar c.character ']')
        let c := c.next
        if c.atEnd then refuse .setUnclosed (c.since start)
        else .ok (⟨c.since start,negated⟩,l,c)
      else .ok (⟨c.since start,negated⟩,l,c)

/-- Reads a named set. A bracket comes next; it may also open a set of its own. -/
def readNamed? (c : Cursor) : Option (SetTerm × Cursor) :=
  match c.rest with
  | '[' :: ':' :: rest =>
    let (negated,rest) := match rest with
      | '^' :: rest => (true,rest)
      | rest => (false,rest)
    let name := rest.takeWhile (· ≠ ':')
    match rest.dropWhile (· ≠ ':'), AsciiSet.ofName? (String.ofList name) with
    | ':' :: ']' :: left, some set =>
      let after := c.advance (c.rest.length - left.length)
      some (.named (after.since c.place) set negated,after)
    | _, _ => none
  | _ => none

/-- Reads a character of a set, or what stands for a set in it. -/
def readMember (c : Cursor) : Except Complaint (Escape × Cursor) :=
  match c.rest with
  | [] => refuse .setUnclosed c.here
  | '\\' :: _ => readEscape c
  | x :: _ => .ok (.member (.literal ⟨c.character,x,false⟩),c.advance 1)

def rangeBound : Escape → Except Complaint Literal
  | .member (.literal l) => .ok l
  | e => refuse .rangeBound e.span

/-- Reads a member of a set, or a range with a hyphen between two. -/
def readRange (opening : SetOpening) (c : Cursor) : Except Complaint (SetTerm × Cursor) := do
  let (first,c) ← readMember c
  let c := c.skip
  if c.atEnd then refuse .setUnclosed opening.span
  else if c.rest.head? ≠ some '-' || c.second? = some ']' || c.second? = some '-' then
    match first with
    | .member m => return (.member m,c)
    | .assertion span _ => refuse .escapeInSet span
  else
    let c := c.next
    if c.atEnd then refuse .setUnclosed opening.span
    else
      let (last,c) ← readMember c
      let first ← rangeBound first
      let last ← rangeBound last
      if first.char ≤ last.char then return (.range first last,c)
      else refuse .rangeBackwards ⟨first.span.start,last.span.stop⟩

abbrev LeftSide := Option (SetTerm × SetOperation)

/-- The parts so far, combined with what was left of an operation. -/
def PartList.combine (left : LeftSide) (l : PartList) : SetTerm :=
  match left with
  | some (left,operation) => .combined operation left l.toTerm
  | none => l.toTerm

def operationAt? : List Char → Option SetOperation
  | '&' :: '&' :: _ => some .intersection
  | '-' :: '-' :: _ => some .difference
  | '~' :: '~' :: _ => some .symmetricDifference
  | _ => none

/-- Reads a set to its end, in at most so many steps. -/
def readSetWithin : Nat → SetOpening → LeftSide → PartList → Cursor →
    Except Complaint (SetTerm × Cursor)
  | 0, opening, _, _, _ => refuse .setUnclosed opening.span
  | steps + 1, opening, left, l, c =>
    let c := c.skip
    match c.rest with
    | [] => refuse .setUnclosed opening.span
    | ']' :: _ =>
      let after := c.advance 1
      .ok (.bracketed (after.since opening.span.start) opening.negated (l.combine left),after)
    | '[' :: _ =>
      match readNamed? c with
      | some (set,c) => readSetWithin steps opening left (l.push set) c
      | none => do
        let (inner,parts,c) ← readOpening c
        let (set,c) ← readSetWithin steps inner none parts c
        readSetWithin steps opening left (l.push set) c
    | rest =>
      match operationAt? rest with
      | some operation =>
        let c := c.advance 2
        readSetWithin steps opening (some (l.combine left,operation)) (.start c) c
      | none => do
        let (part,c) ← readRange opening c
        readSetWithin steps opening left (l.push part) c

def readSet (c : Cursor) : Except Complaint (SetTerm × Cursor) := do
  let steps := c.rest.length
  let (opening,parts,c) ← readOpening c
  readSetWithin steps opening none parts c

end VideoCapture.Pattern
