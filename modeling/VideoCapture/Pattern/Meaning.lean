import VideoCapture.Pattern.Machine
import VideoCapture.Pattern.Reader
import VideoCapture.Pattern.Beginnings
/-!
# The meaning of patterns

A pattern becomes an expression under the flags that hold where its parts stand. No tables of other
scripts are at hand: cases, shorthands and properties of Unicode are refused, while sets of octets
know the letters of ASCII.
-/
namespace VideoCapture.Pattern

structure Mode where
  anyCase : Bool
  manyLines : Bool
  dotTakesAll : Bool
  /-- Whether repetitions prefer fewer times. -/
  lazyFirst : Bool
  /-- Whether sets are of characters and not of octets. -/
  unicode : Bool
  carriageReturns : Bool
  deriving DecidableEq, Repr, Inhabited

namespace Mode

def initial : Mode := ⟨false,false,false,false,true,false⟩

def after (m : Mode) (settings : Settings) : Mode where
  anyCase := settings.of .anyCase m.anyCase
  manyLines := settings.of .manyLines m.manyLines
  dotTakesAll := settings.of .dotTakesAll m.dotTakesAll
  lazyFirst := settings.of .lazyFirst m.lazyFirst
  unicode := settings.of .unicode m.unicode
  carriageReturns := settings.of .carriageReturns m.carriageReturns

def wordLook (m : Mode) (kind : WordEdge) : Look :=
  if m.unicode then .wordInAllScripts kind else .word kind

def look (m : Mode) : Assertion → Look
  | .textStart => .textStart
  | .textEnd => .textEnd
  | .lineStart =>
    if !m.manyLines then .textStart
    else if m.carriageReturns then .lineStartReturns else .lineStart
  | .lineEnd =>
    if !m.manyLines then .textEnd
    else if m.carriageReturns then .lineEndReturns else .lineEnd
  | .wordEdge => m.wordLook .edge
  | .noWordEdge => m.wordLook .noEdge
  | .wordStart => m.wordLook .start
  | .wordEnd => m.wordLook .stop
  | .wordStartHalf => m.wordLook .startHalf
  | .wordEndHalf => m.wordLook .stopHalf

def everything (m : Mode) : CharSet := if m.unicode then .all else .octets

def dot (m : Mode) (span : Span) : Except Complaint CharSet :=
  if !m.unicode then refuse .brokenCharacters span
  else if m.dotTakesAll then .ok .all
  else if m.carriageReturns then
    .ok (CharSet.all.diff (.ofRanges [(0x0A,0x0A),(0x0D,0x0D)]))
  else .ok (CharSet.all.diff (.range 0x0A 0x0A))

end Mode

def AsciiSet.members : AsciiSet → CharSet
  | alnum => .ofRanges [(0x30,0x39),(0x41,0x5A),(0x61,0x7A)]
  | alpha => .ofRanges [(0x41,0x5A),(0x61,0x7A)]
  | ascii => .range 0x00 0x7F
  | blank => .ofRanges [(0x09,0x09),(0x20,0x20)]
  | cntrl => .ofRanges [(0x00,0x1F),(0x7F,0x7F)]
  | digit => .range 0x30 0x39
  | graph => .range 0x21 0x7E
  | lower => .range 0x61 0x7A
  | print => .range 0x20 0x7E
  | punct => .ofRanges [(0x21,0x2F),(0x3A,0x40),(0x5B,0x60),(0x7B,0x7E)]
  | space => .ofRanges [(0x09,0x0D),(0x20,0x20)]
  | upper => .range 0x41 0x5A
  | word => .ofRanges [(0x30,0x39),(0x41,0x5A),(0x5F,0x5F),(0x61,0x7A)]
  | xdigit => .ofRanges [(0x30,0x39),(0x41,0x46),(0x61,0x66)]

def Shorthand.members : Shorthand → CharSet
  | digit => AsciiSet.digit.members
  | space => AsciiSet.space.members
  | word => AsciiSet.word.members

def SetOperation.apply : SetOperation → CharSet → CharSet → CharSet
  | intersection => .inter
  | difference => .diff
  | symmetricDifference => .symmDiff

/-- The letters of a property's name that count: case, blanks, hyphens and underscores do not, nor
    does "is" at the beginning. -/
def propertyKey (name : String) : List Char :=
  let letters := name.toList.map Char.toLower
  let letters := if ['i','s'].isPrefixOf letters then letters.drop 2 else letters
  letters.filter fun c => c.toNat < 128 && c ≠ ' ' && c ≠ '_' && c ≠ '-'

/-- Why a property is refused. Three names are those of values. -/
def propertyCause (name : String) : Cause :=
  if [['c','f'],['s','c'],['l','c']].contains (propertyKey name) then .unknownPropertyValue
  else .unknownProperty

def Literal.member (m : Mode) (l : Literal) : Except Complaint Nat :=
  if m.unicode || l.char.toNat < 128 then .ok l.char.toNat
  else refuse (if l.octet then .brokenCharacters else .notInOctets) l.span

/-- Checks that a set of octets is ASCII, as others may break characters apart. -/
def whole (m : Mode) (span : Span) (set : CharSet) : Except Complaint CharSet :=
  if m.unicode || set.isAscii then .ok set else refuse .brokenCharacters span

def Shorthand.meaning (m : Mode) (span : Span) (set : Shorthand) (negated : Bool) :
    Except Complaint CharSet :=
  if m.unicode then refuse .unicodeShorthand span
  else whole m span (if negated then CharSet.octets.diff set.members else set.members)

def refuseProperty {α : Type} (m : Mode) (span : Span) (name : String) : Except Complaint α :=
  refuse (if m.unicode then propertyCause name else .notInOctets) span

/-- A part of a set under way. -/
structure PartialSet where
  members : CharSet
  /-- Whether some members are told one by one, so that their other cases may be missing. -/
  bare : Bool
  deriving Inhabited

namespace PartialSet

/-- Adds the other cases of the members, if cases do not count. -/
def closed (m : Mode) (span : Span) (s : PartialSet) : Except Complaint CharSet :=
  if !m.anyCase then .ok s.members
  else if !m.unicode then .ok s.members.bothCases
  else if s.bare then refuse .unicodeCase span
  else .ok s.members

/-- The set with other cases, negated if so told. -/
def complete (m : Mode) (span : Span) (negated : Bool) (s : PartialSet) :
    Except Complaint PartialSet := do
  let set ← s.closed m span
  let set ← whole m span (if negated then m.everything.diff set else set)
  return ⟨set,false⟩

def union (a b : PartialSet) : PartialSet := ⟨a.members.union b.members,a.bare || b.bare⟩

end PartialSet

mutual

/-- The members that a part of a set stands for. -/
def SetTerm.meaning (m : Mode) : SetTerm → Except Complaint PartialSet
  | .member (.literal l) => do
    let n ← l.member m
    return ⟨.range n n,true⟩
  | .member (.shorthand span set negated) => do
    let set ← set.meaning m span negated
    return ⟨set,false⟩
  | .member (.property span name) => refuseProperty m span name
  | .range first last => do
    let first ← first.member m
    let last ← last.member m
    return ⟨.range first last,true⟩
  | .named span set negated => PartialSet.complete m span negated ⟨set.members,true⟩
  | .union _ parts => SetTerm.unionMeaning m ⟨.none,false⟩ parts
  | .combined operation left right => do
    let first ← left.meaning m
    let second ← right.meaning m
    let second ← second.closed m right.span
    let first ← first.closed m left.span
    return ⟨operation.apply first second,false⟩
  | .bracketed span negated content => do
    let set ← content.meaning m
    set.complete m span negated

/-- The members of several parts, after those of earlier ones. -/
def SetTerm.unionMeaning (m : Mode) (s : PartialSet) : List SetTerm → Except Complaint PartialSet
  | [] => .ok s
  | part :: parts => do
    let t ← part.meaning m
    SetTerm.unionMeaning m (s.union t) parts

end

def Literal.meaning (m : Mode) (l : Literal) : Except Complaint CharSet :=
  let n := l.char.toNat
  let set := CharSet.range n n
  if m.unicode then if m.anyCase then refuse .unicodeCase l.span else .ok set
  else if l.octet && 128 ≤ n then refuse .brokenCharacters l.span
  else .ok (if m.anyCase then set.bothCases else set)

mutual

/-- The expression of a part of a pattern, and the flags that hold after it. -/
def Term.meaning (m : Mode) : Term → Except Complaint (Expression × Mode)
  | .empty _ => .ok (.empty,m)
  | .settings _ flags => .ok (.empty,m.after flags)
  | .member (.literal l) => do
    let members ← l.meaning m
    return (.ofSet members (!m.unicode),m)
  | .member (.shorthand span name negated) => do
    let members ← name.meaning m span negated
    return (.ofSet members (!m.unicode),m)
  | .member (.property span name) => refuseProperty m span name
  | .dot span => do
    let members ← m.dot span
    return (.ofSet members false,m)
  | .assertion _ a => .ok (.look (m.look a),m)
  | .set content => do
    let found ← content.meaning m
    return (.ofSet found.members (!m.unicode),m)
  | .repetition _ body least most questioned => do
    let (e,m) ← body.meaning m
    return (e.times least most (m.lazyFirst == questioned),m)
  | .group span isKept flags body => do
    let (e,_) ← body.meaning (m.after flags)
    return (if isKept then .kept span.start e else e,m)
  | .sequence _ parts => do
    let (es,m) ← Term.meanings m parts
    return (.inOrder es,m)
  | .alternatives _ parts => do
    let (es,m) ← Term.meanings m parts
    return (.choice es,m)

def Term.meanings (m : Mode) : List Term → Except Complaint (List Expression × Mode)
  | [] => .ok ([],m)
  | part :: parts => do
    let (e,m) ← part.meaning m
    let (es,m) ← Term.meanings m parts
    return (e :: es,m)

end

/-- The expression that a pattern stands for. Unless it is searched for as words, a match needs two
    machines, one to find its end and one to find its beginning. After the first one is built, it turns
    out whether the edges of words can be found. -/
def compile (pattern : String) : Except Fault Expression :=
  match (do (← Term.read pattern).meaning .initial : Except Complaint (Expression × Mode)) with
  | .error complaint => .error (.misread complaint)
  | .ok (e,_) =>
    if e.searchedAsWords then .ok e
    else if (e.machine? .forwards).isNone then .error .tooLarge
    else if e.asksAllScripts then .error .wordEdges
    else if (e.machine? .backwards).isNone then .error .tooLarge
    else .ok e

end VideoCapture.Pattern
