/-!
# Stretches of a pattern

Where something stands in a pattern, and a pattern shown line by line with marks below the stretches
that are meant.
-/
namespace VideoCapture.Pattern

/-- A stretch of a pattern. A place is the number of characters before it. -/
structure Span where
  start : Nat
  stop : Nat
  deriving DecidableEq, Repr, Inhabited

/-- A line and a column, both counted from one. -/
structure Place where
  line : Nat
  column : Nat
  deriving DecidableEq, Repr, Inhabited

namespace Place

def after (count : Nat) (pattern : String) : Place :=
  let before := pattern.toList.take count
  ⟨before.count '\n' + 1,(before.reverse.takeWhile (· ≠ '\n')).length + 1⟩

end Place

def withoutReturn (line : String) : String :=
  match line.toList.reverse with
  | '\r' :: rest => String.ofList rest.reverse
  | _ => line

/-- The lines of a pattern. A line feed ends a line, perhaps after a carriage return. -/
def linesOf (pattern : String) : List String :=
  let parts := pattern.splitOn "\n"
  parts.dropLast.map withoutReturn ++ (parts.drop (parts.length - 1)).filter (· ≠ "")

/-- The line of marks for stretches given by their columns, from left to right. A stretch without a
    character has a mark all the same. -/
def marks (columns : List (Nat × Nat)) : List Char :=
  columns.foldl (fun line (first,last) =>
    line.rightpad (first - 1) ' ' ++ List.replicate (max 1 (last - first)) '^') []

def Span.precedes (a b : Span) : Bool :=
  a.start < b.start || a.start == b.start && a.stop ≤ b.stop

def marksIn (pattern : String) (spans : List Span) (line : Nat) : List Char :=
  marks <| spans.filterMap fun span =>
    let first := Place.after span.start pattern
    let last := Place.after span.stop pattern
    if first.line = line ∧ last.line = line then some (first.column,last.column) else none

/-- A line and the marks below it, both after a margin. -/
def markedLine (margin line : String) (marks : List Char) : List String :=
  (margin ++ line) ::
    if marks.isEmpty then [] else [String.ofList (List.replicate margin.length ' ' ++ marks)]

def Span.acrossLines? (pattern : String) (span : Span) : Option String :=
  let first := Place.after span.start pattern
  let last := Place.after span.stop pattern
  if first.line = last.line then none
  else some (s!"on line {first.line} (column {first.column}) " ++
    s!"through line {last.line} (column {last.column - 1})")

/-- A pattern with the marks for some stretches of it. One of several lines is shown between
    dividers, with its lines numbered. -/
def marked (pattern : String) (spans : List Span) : List String :=
  let spans := spans.mergeSort Span.precedes
  let lines := linesOf pattern
  if pattern.contains '\n' then
    let count := (pattern.splitOn "\n").length
    let width := (toString count).length
    let divider := String.ofList (List.replicate 79 '~')
    let margin (line : Nat) := String.ofList ((toString line).toList.leftpad width ' ') ++ ": "
    [divider] ++
      (lines.zipIdx 1).flatMap (fun (text,line) =>
        markedLine (margin line) text (marksIn pattern spans line)) ++
      [divider] ++ spans.filterMap (Span.acrossLines? pattern)
  else lines.flatMap fun text => markedLine "    " text (marksIn pattern spans 1)

end VideoCapture.Pattern
