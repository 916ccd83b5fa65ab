import VideoCapture.Notice
import VideoCapture.Pattern.Meaning
/-!
# Which records the log shows

A filter is written as directives with commas between them, and perhaps a pattern after a slash that
every record shown must match somewhere. A directive is a level, a target, or a target and a level
with an equals sign between them. The directive with the longest target that a record's target
begins with decides about the record.
-/
namespace VideoCapture.Log

/-- What a directive lets through: nothing, or records up to a level. -/
abbrev Limit := Option Level

namespace Limit

def greatest : Limit := some .trace

def admits (limit : Limit) (level : Level) : Bool :=
  match limit with
  | some most => level.rank ≤ most.rank
  | none => false

def ofName? (name : String) : Option Limit :=
  match String.ofList (name.toList.map Char.toLower) with
  | "off" => some none
  | "error" => some (some .error)
  | "warn" => some (some .warn)
  | "info" => some (some .info)
  | "debug" => some (some .debug)
  | "trace" => some (some .trace)
  | _ => none

end Limit

structure Directive where
  target : Option String
  limit : Limit
  deriving DecidableEq, Repr, Inhabited

namespace Directive

/-- A directive alone: a limit for everything, or a target from which everything is shown. -/
def alone (text : String) : Directive :=
  match Limit.ofName? text with
  | some limit => ⟨none,limit⟩
  | none => ⟨some text,.greatest⟩

/-- Reads a directive without white space around it, or gives the part that makes no sense. -/
def read (text : String) : Except String Directive :=
  match text.splitOn "=" with
  | [name] => .ok (alone name)
  | [target,level] =>
    let level := String.ofList (Text.trim level.toList)
    if level = "" then .ok ⟨some target,.greatest⟩
    else match Limit.ofName? level with
      | some limit => .ok ⟨some target,limit⟩
      | none => .error level
  | _ => .error text

def size (d : Directive) : Nat := (d.target.map String.utf8ByteSize).getD 0

def covers (d : Directive) (target : String) : Bool :=
  match d.target with
  | some start => target.startsWith start
  | none => true

end Directive

structure Filter where
  directives : List Directive
  /-- What matches somewhere in the text of every record that is shown. -/
  pattern : Option Pattern.Expression
  deriving DecidableEq, Repr, Inhabited

namespace Filter

/-- Puts a directive in the place of the one for the same target, or after all others. -/
def put (d : Directive) : List Directive → List Directive
  | [] => [d]
  | e :: es => if e.target = d.target then d :: es else e :: put d es

/-- What directives and faults there are after a part more of a text. -/
def readPart (known : List Directive × List String) (part : String) : List Directive × List String :=
  match Directive.read part with
  | .ok d => (put d known.1,known.2)
  | .error fault => (known.1,known.2 ++ [s!"invalid logging spec '{fault}'"])

def readDirectives (text : String) : List Directive × List String :=
  let parts := (text.splitOn ",").map fun part => String.ofList (Text.trim part.toList)
  (parts.filter (· ≠ "")).foldl readPart ([],[])

/-- The filter that a text describes, with what is wrong with the text. Without any directive only
    errors are shown. A pattern that cannot be matched is left out. -/
def read (text : String) : Filter × List String :=
  let complete (ds : List Directive) (pattern : Option Pattern.Expression) : Filter :=
    ⟨if ds.isEmpty then [⟨none,some .error⟩] else ds,pattern⟩
  match text.splitOn "/" with
  | [directives] =>
    let (ds,faults) := readDirectives directives
    (complete ds none,faults)
  | [directives,pattern] =>
    let (ds,faults) := readDirectives directives
    match Pattern.compile pattern with
    | .ok e => (complete ds (some e),faults)
    | .error fault =>
      (complete ds none,faults ++ ["invalid regex filter - " ++ fault.message pattern])
  | _ => (complete [] none,[s!"invalid logging spec '{text}' (too many '/'s)"])

/-- The later of two directives, unless the earlier has the longer target. -/
def weightier (best : Option Directive) (d : Directive) : Option Directive :=
  match best with
  | some e => if e.size ≤ d.size then some d else some e
  | none => some d

def directiveFor? (f : Filter) (target : String) : Option Directive :=
  (f.directives.filter (·.covers target)).foldl weightier none

def shows (f : Filter) (r : Record) : Bool :=
  (match f.directiveFor? r.target with
    | some d => d.limit.admits r.level
    | none => false) &&
  f.pattern.all (·.matchesIn r.text)

end Filter
end VideoCapture.Log
