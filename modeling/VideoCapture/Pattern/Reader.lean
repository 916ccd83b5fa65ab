import VideoCapture.Pattern.Brackets
import VideoCapture.Text.Letter
/-!
# Reading patterns

A pattern is read from left to right. Groups that are open lie on one another, each with its
finished alternatives and the parts of the one that is being read.
-/
namespace VideoCapture.Pattern

/-- Something between the question mark of a group and its end or colon. -/
inductive FlagItem
  | flag (f : Flag)
  | negation
  deriving DecidableEq, Repr, Inhabited

def FlagItem.ofChar? (c : Char) : Option FlagItem :=
  if c = '-' then some .negation else (Flag.ofChar? c).map .flag

/-- What some signs say: flags are set before the negation and cleared after it. -/
def settingsOf (value : Bool) : List FlagItem → Settings
  | [] => []
  | .negation :: items => settingsOf false items
  | .flag f :: items => (f,value) :: settingsOf value items

/-- Reads flags, after those that are read already, in at most so many steps. -/
def readFlagsWithin : Nat → List (FlagItem × Span) → Cursor → Except Complaint (Settings × Cursor)
  | 0, _, c => refuse .flagMissing c.here
  | steps + 1, items, c =>
    match c.rest with
    | [] => refuse .flagMissing c.here
    | x :: _ =>
      if x = ':' ∨ x = ')' then
        match items.getLast? with
        | some (.negation,span) => refuse .negationDangling span
        | _ => .ok (settingsOf true (items.map (·.1)),c)
      else match FlagItem.ofChar? x with
        | none => refuse .flagUnknown c.character
        | some item =>
          match items.lookup item with
          | some earlier =>
            let cause := if item = .negation then .negationRepeated else .flagRepeated
            .error ⟨cause,c.character,some earlier⟩
          | none => readFlagsWithin steps (items ++ [(item,c.character)]) (c.advance 1)

def inName (first : Bool) (c : Char) : Bool :=
  c = '_' || (if first then Text.isLetter c
    else c = '.' || c = '[' || c = ']' || Text.isLetterOrNumber c)

abbrev Named := List Char × Span

/-- Reads the name of a group, which differs from earlier ones, and the sign after it. -/
def readName (names : List Named) (c : Cursor) : Except Complaint (Named × Cursor) := do
  let name := c.rest.takeWhile (· ≠ '>')
  let wrong := match name with
    | [] => none
    | x :: xs => if inName true x then (xs.findIdx? (!inName false ·)).map (· + 1) else some 0
  let close := c.advance name.length
  match wrong with
  | some place => refuse .nameCharacter (c.advance place).character
  | none =>
    if close.atEnd then refuse .nameUnclosed close.here
    else if name.isEmpty then refuse .nameEmpty c.here
    else
      let span := close.since c.place
      match names.lookup name with
      | some earlier => .error ⟨.nameRepeated,span,some earlier⟩
      | none => return ((name,span),close.advance 1)

structure GroupOpening where
  place : Nat
  kept : Bool
  settings : Settings
  /-- Whether the pattern around the group is verbose. -/
  verboseOutside : Bool
  deriving Inhabited

/-- What is read of the pattern or of a group, with the latest part first. -/
structure Level where
  opening : Option GroupOpening
  start : Nat
  alternatives : List Term
  alternativeStart : Nat
  parts : List Term
  deriving Inhabited

namespace Level

def new (opening : Option GroupOpening) (start : Nat) : Level := ⟨opening,start,[],start,[]⟩

def push (l : Level) (part : Term) : Level := { l with parts := part :: l.parts }

/-- The alternative that is being read, if it ends at a place. -/
def alternative (l : Level) (stop : Nat) : Term :=
  let span := ⟨l.alternativeStart,stop⟩
  match l.parts with
  | [] => .empty span
  | [part] => part
  | parts => .sequence span parts.reverse

def toTerm (l : Level) (stop : Nat) : Term :=
  match l.alternatives with
  | [] => l.alternative stop
  | alternatives => .alternatives ⟨l.start,stop⟩ (l.alternative stop :: alternatives).reverse

/-- The level before another alternative. -/
def branch (l : Level) (c : Cursor) : Level :=
  { l with
    alternatives := l.alternative c.place :: l.alternatives
    alternativeStart := c.place + 1
    parts := [] }

end Level

structure Reading where
  cursor : Cursor
  level : Level
  /-- The levels around, the nearest first. -/
  around : List Level
  names : List Named
  deriving Inhabited

namespace Reading

def start (pattern : String) : Reading := ⟨.start pattern,.new none 0,[],[]⟩

def push (r : Reading) (part : Term) (c : Cursor) : Reading :=
  { r with cursor := c, level := r.level.push part }

/-- The reading in a group that was opened at a place. The cursor is after its opening. -/
def enter (r : Reading) (place : Nat) (kept : Bool) (settings : Settings) (c : Cursor) : Reading :=
  let opening := ⟨place,kept,settings,c.verbose⟩
  { r with
    cursor := { c with verbose := settings.of .verbose c.verbose }
    level := .new (some opening) c.place
    around := r.level :: r.around }

def looks : List (List Char) := [['?','='],['?','!'],['?','<','='],['?','<','!']]

def naming : List (List Char) := [['?','P','<'],['?','<']]

/-- Reads the opening of a group, or settings for what follows. The parenthesis comes next. -/
def openGroup (r : Reading) : Except Complaint Reading := do
  let place := r.cursor.place
  let c := r.cursor.next
  let following (signs : List Char) : Bool := signs.isPrefixOf c.rest
  if let some signs := looks.find? following then
    refuse .lookAround ((c.advance signs.length).since place)
  else if let some signs := naming.find? following then
    let (name,c) ← readName r.names (c.advance signs.length)
    return { r.enter place true [] c with names := r.names ++ [name] }
  else if following ['?'] then
    let first := c.advance 1
    if first.atEnd then refuse .groupUnclosed r.cursor.character
    else
      let (settings,close) ← readFlagsWithin (first.rest.length + 1) [] first
      let after := close.advance 1
      if close.rest.head? = some ')' then
        if settings.isEmpty then refuse .nothingToRepeat c.here
        else
          let verbose := settings.of .verbose after.verbose
          return r.push (.settings (after.since place) settings) { after with verbose }
      else return r.enter place false settings after
  else return r.enter place true [] c

def closeGroup (r : Reading) : Except Complaint Reading :=
  match r.level.opening, r.around with
  | some opening, outer :: around =>
    let after := r.cursor.advance 1
    let body := r.level.toTerm r.cursor.place
    let group := .group (after.since opening.place) opening.kept opening.settings body
    .ok { r with
      cursor := { after with verbose := opening.verboseOutside }
      level := outer.push group
      around }
  | _, _ => refuse .groupUnopened r.cursor.character

/-- Takes the part before the cursor, which is to be repeated. -/
def takeBody (r : Reading) : Except Complaint (Term × Level) :=
  match r.level.parts with
  | body :: parts =>
    if body.repeatable then .ok (body,{ r.level with parts })
    else refuse .nothingToRepeat r.cursor.here
  | [] => refuse .nothingToRepeat r.cursor.here

def readQuestion (c : Cursor) : Bool × Cursor :=
  if c.rest.head? = some '?' then (true,c.advance 1) else (false,c)

def repeated (r : Reading) (body : Term) (level : Level) (least : Nat) (most : Option Nat)
    (questioned : Bool) (c : Cursor) : Reading :=
  let repetition := .repetition (c.since body.span.start) body least most questioned
  { r with cursor := c, level := level.push repetition }

def readRepetition (r : Reading) (least : Nat) (most : Option Nat) : Except Complaint Reading := do
  let (body,level) ← r.takeBody
  let (questioned,c) := readQuestion (r.cursor.advance 1)
  return r.repeated body level least most questioned c

/-- Reads a number of times, perhaps none, with white space around it. -/
def readCount (c : Cursor) : Except Complaint Nat × Cursor :=
  let (_,first) := c.gather Text.isBlank
  let (digits,last) := first.gather Numeral.isDigit
  let (_,after) := last.gather Text.isBlank
  let count := digits.foldl (fun n d => 10 * n + Numeral.digitValue d) 0
  let span := last.since first.place
  (if digits.isEmpty then refuse .countMissing span
    else if count < UInt32.size then .ok count
    else refuse .countTooLarge span,after)

/-- Reads a repetition with counts between braces. The brace comes next. -/
def readCounts (r : Reading) : Except Complaint Reading := do
  let start := r.cursor.place
  let (body,level) ← r.takeBody
  let c := r.cursor.next
  if c.atEnd then refuse .countUnclosed (c.since start)
  let (least,c) := readCount c
  if c.atEnd then refuse .countUnclosed (c.since start)
  let (least,most,c) ←
    if c.rest.head? = some ',' then
      let c := c.next
      if c.atEnd then refuse .countUnclosed (c.since start)
      else if c.rest.head? = some '}' then pure (← least,none,c)
      else
        let least ← least
        let (most,c) := readCount c
        pure (least,some (← most),c)
    else
      let least ← least
      pure (least,some least,c)
  if c.rest.head? ≠ some '}' then refuse .countUnclosed (c.since start)
  let (questioned,c) := readQuestion c.next
  match most with
  | some most => if most < least then refuse .countsBackwards (c.since start)
  | none => pure ()
  return r.repeated body level least most questioned c

/-- Reads one part more, or the beginning or end of a group or an alternative. -/
def step (r : Reading) : Except Complaint Reading :=
  let c := r.cursor
  let after := c.advance 1
  match c.rest with
  | [] => .ok r
  | '(' :: _ => r.openGroup
  | ')' :: _ => r.closeGroup
  | '|' :: _ => .ok { r with cursor := after, level := r.level.branch c }
  | '[' :: _ => do
    let (set,c) ← readSet c
    return r.push (.set set) c
  | '?' :: _ => r.readRepetition 0 (some 1)
  | '*' :: _ => r.readRepetition 0 none
  | '+' :: _ => r.readRepetition 1 none
  | '{' :: _ => r.readCounts
  | '\\' :: _ => do
    match ← readEscape c with
    | (.member m,c) => return r.push (.member m) c
    | (.assertion span a,c) => return r.push (.assertion span a) c
  | '.' :: _ => .ok (r.push (.dot c.character) after)
  | '^' :: _ => .ok (r.push (.assertion c.character .lineStart) after)
  | '$' :: _ => .ok (r.push (.assertion c.character .lineEnd) after)
  | x :: _ => .ok (r.push (.member (.literal ⟨c.character,x,false⟩)) after)

/-- The whole pattern, if no group is open. -/
def finish (r : Reading) : Except Complaint Term :=
  match r.level.opening with
  | some opening => refuse .groupUnclosed ⟨opening.place,opening.place + 1⟩
  | none => .ok (r.level.toTerm r.cursor.place)

def runWithin : Nat → Reading → Except Complaint Term
  | 0, r => r.finish
  | steps + 1, r =>
    let r := { r with cursor := r.cursor.skip }
    if r.cursor.atEnd then r.finish else do runWithin steps (← r.step)

end Reading

/-- Reads a pattern. Each step reads a character at least. -/
def Term.read (pattern : String) : Except Complaint Term := do
  let term ← Reading.runWithin (pattern.length + 1) (.start pattern)
  match term.tooDeep? 0 with
  | some span => refuse .tooDeep span
  | none => return term

end VideoCapture.Pattern
