import VideoCapture.Pattern.Span
/-!
# What is wrong with a pattern

Every reason for which a pattern is refused, and its text. A reason that belongs to a stretch of the
pattern is told below the pattern, with the stretch marked.
-/
namespace VideoCapture.Pattern

inductive Cause
  -- Escapes.
  | escapeUnfinished
  | escapeUnknown
  | backreference
  | hexadecimalDigit
  | hexadecimalEmpty
  | hexadecimalValue
  | propertyName
  | wordEdgeOrCountUnclosed
  | wordEdgeUnclosed
  | wordEdgeUnknown
  -- Sets of characters.
  | setUnclosed
  | escapeInSet
  | rangeBackwards
  | rangeBound
  -- Repetitions.
  | nothingToRepeat
  | countUnclosed
  | countMissing
  | countTooLarge
  | countsBackwards
  -- Groups.
  | groupUnclosed
  | groupUnopened
  | lookAround
  | nameUnclosed
  | nameEmpty
  | nameCharacter
  | nameRepeated
  | tooDeep
  -- Flags.
  | flagMissing
  | flagUnknown
  | flagRepeated
  | negationRepeated
  | negationDangling
  -- Meanings.
  | notInOctets
  | brokenCharacters
  | unknownProperty
  | unknownPropertyValue
  | unicodeShorthand
  | unicodeCase
  deriving DecidableEq, Repr, Inhabited

/-- How deep groups, sets, repetitions and what they hold may be nested. -/
def deepest : Nat := 250

def Cause.text : Cause → String
  | escapeUnfinished => "incomplete escape sequence, reached end of pattern prematurely"
  | escapeUnknown => "unrecognized escape sequence"
  | backreference => "backreferences are not supported"
  | hexadecimalDigit => "invalid hexadecimal digit"
  | hexadecimalEmpty => "hexadecimal literal empty"
  | hexadecimalValue => "hexadecimal literal is not a Unicode scalar value"
  | propertyName => "invalid Unicode character class"
  | wordEdgeOrCountUnclosed =>
    "found either the beginning of a special word boundary or a bounded repetition on a \\b " ++
      "with an opening brace, but no closing brace"
  | wordEdgeUnclosed =>
    "special word boundary assertion is either unclosed or contains an invalid character"
  | wordEdgeUnknown =>
    "unrecognized special word boundary assertion, valid choices are: start, end, " ++
      "start-half or end-half"
  | setUnclosed => "unclosed character class"
  | escapeInSet => "invalid escape sequence found in character class"
  | rangeBackwards => "invalid character class range, the start must be <= the end"
  | rangeBound => "invalid range boundary, must be a literal"
  | nothingToRepeat => "repetition operator missing expression"
  | countUnclosed => "unclosed counted repetition"
  | countMissing => "repetition quantifier expects a valid decimal"
  | countTooLarge => "decimal literal invalid"
  | countsBackwards => "invalid repetition count range, the start must be <= the end"
  | groupUnclosed => "unclosed group"
  | groupUnopened => "unopened group"
  | lookAround => "look-around, including look-ahead and look-behind, is not supported"
  | nameUnclosed => "unclosed capture group name"
  | nameEmpty => "empty capture group name"
  | nameCharacter => "invalid capture group character"
  | nameRepeated => "duplicate capture group name"
  | tooDeep => s!"exceed the maximum number of nested parentheses/brackets ({deepest})"
  | flagMissing => "expected flag but got end of regex"
  | flagUnknown => "unrecognized flag"
  | flagRepeated => "duplicate flag"
  | negationRepeated => "flag negation operator repeated"
  | negationDangling => "dangling flag negation operator"
  | notInOctets => "Unicode not allowed here"
  | brokenCharacters => "pattern can match invalid UTF-8"
  | unknownProperty => "Unicode property not found"
  | unknownPropertyValue => "Unicode property value not found"
  | unicodeShorthand =>
    "Unicode-aware Perl class not found (make sure the unicode-perl feature is enabled)"
  | unicodeCase =>
    "Unicode-aware case insensitivity matching is not available " ++
      "(make sure the unicode-case feature is enabled)"

/-- A reason with the stretch that it belongs to, and perhaps an earlier one that it clashes
    with. -/
structure Complaint where
  cause : Cause
  span : Span
  earlier : Option Span
  deriving DecidableEq, Repr, Inhabited

def refuse {α : Type} (cause : Cause) (span : Span) : Except Complaint α :=
  .error ⟨cause,span,none⟩

/-- How many octets a pattern ready for matching may take. -/
def largest : Nat := 10485760

inductive Fault
  | misread (complaint : Complaint)
  | tooLarge
  | wordEdges
  deriving DecidableEq, Repr, Inhabited

def Fault.message (pattern : String) : Fault → String
  | misread c => "\n".intercalate
      (["regex parse error:"] ++ marked pattern (c.span :: c.earlier.toList) ++
        ["error: " ++ c.cause.text])
  | tooLarge => s!"Compiled regex exceeds size limit of {largest} bytes."
  | wordEdges => "error building NFA"

end VideoCapture.Pattern
