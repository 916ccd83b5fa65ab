import VideoCapture.Pattern.Words
/-!
# How matches begin

The words with which the matches of an expression begin, as far as they are few. An expression whose
matches are a few words and nothing else needs no machine, as the words themselves can be searched
for, and so does one of a great many words. Where what is searched for is only the beginning of some
matches, a machine has to look at what follows.
-/
namespace VideoCapture.Pattern

/-- A word with which matches begin, and whether these are the word and nothing more. -/
structure Beginning where
  word : Word
  whole : Bool
  deriving DecidableEq, Repr, Inhabited

def longestWord : Nat := 100

def mostWords : Nat := 250

/-- How many members of a set and how many repetitions are written out. -/
def mostWritten : Nat := 10

def Beginning.cut (length : Nat) (b : Beginning) : Beginning :=
  ⟨b.word.take length,b.whole && b.word.length ≤ length⟩

/-- Beginnings without those that have the same word as the one before. -/
def unique : List Beginning → List Beginning
  | [] => []
  | b :: bs =>
    match unique bs with
    | [] => [b]
    | c :: cs => if b.word = c.word then ⟨c.word,b.whole && c.whole⟩ :: cs else b :: c :: cs

/-- Beginnings without those that have an earlier one at their beginning, as that is preferred. -/
def preferred (bs : List Beginning) : List Beginning :=
  bs.foldl (fun kept b => if kept.any (·.word.isPrefixOf b.word) then kept else kept ++ [b]) []

/-- How the matches of something begin, unless that may be anyhow. -/
abbrev Beginnings := Option (List Beginning)

namespace Beginnings

def start : Beginnings := some [⟨[],true⟩]

/-- Whether what follows changes nothing any more. -/
def settled (s : Beginnings) : Bool := s.all (·.all (!·.whole))

def goingOn (s : Beginnings) : Beginnings := s.map (·.map fun b => { b with whole := false })

def cross (s t : Beginnings) : Beginnings := do
  let bs ← s
  match t.filter (bs.length * ·.length ≤ mostWords) with
  | none => if bs.any (·.word.isEmpty) then none else s.goingOn
  | some cs =>
    let joined := bs.flatMap fun b =>
      if b.whole then cs.map fun c => ⟨b.word ++ c.word,c.whole⟩ else [b]
    return (unique joined).map (·.cut longestWord)

/-- How matches begin that are one or the other. If there are too many, short words have to do. -/
def join (s t : Beginnings) : Beginnings := do
  let bs ← s
  let cs ← t
  if bs.length + cs.length ≤ mostWords then return unique (bs ++ cs)
  else
    let bs := unique (bs.map (·.cut 4))
    let cs := unique (cs.map (·.cut 4))
    if bs.length + cs.length ≤ mostWords then return unique (bs ++ cs) else none

def crossTimes (t : Beginnings) : Nat → Beginnings → Beginnings
  | 0, s => s
  | count + 1, s => if s.settled then s else crossTimes t count (s.cross t)

def repeated (once : Beginnings) (least : Nat) (most : Option Nat) (greedy : Bool) : Beginnings :=
  if least = 0 then
    let once := if most = some 1 then once else once.goingOn
    if greedy then once.join start else start.join once
  else
    let all := once.crossTimes (min least mostWritten) start
    if least ≤ mostWritten ∧ most = some least then all else all.goingOn

def ofSet (set : CharSet) : Beginnings :=
  let ranges := set.ranges.map fun (first,last) => (first,last + 1 - first)
  if (ranges.map (·.2)).foldl (· + ·) 0 ≤ mostWritten then
    some (ranges.flatMap fun (first,count) =>
      (List.range' first count).map fun n => ⟨Utf8.encode [Char.ofNat n],true⟩)
  else none

end Beginnings

/-- Where an expression stands: after what begins somehow, or among alternatives that do. -/
inductive Standing
  | after (s : Beginnings)
  | among (s : Beginnings)

def Standing.put (t : Beginnings) : Standing → Beginnings
  | after s => if s.settled then s else s.cross t
  | among s => s.join t

namespace Expression

/-- How matches begin with an expression where it stands. -/
def begin : Expression → Standing → Beginnings
  | sequence a b, .after s => b.begin (.after (a.begin (.after s)))
  | sequence a b, .among s => s.join (b.begin (.after (a.begin (.after .start))))
  | either a b, .among s => b.begin (.among (a.begin (.among s)))
  | either a b, .after s =>
    (Standing.after s).put (b.begin (.among (a.begin (.among (some [])))))
  | empty, standing | look _, standing => standing.put .start
  | text cs, standing => standing.put (some [Beginning.cut longestWord ⟨Utf8.encode cs,true⟩])
  | one set _, standing => standing.put (.ofSet set)
  | repetition body least most greedy, standing =>
    standing.put ((body.begin (.after .start)).repeated least most greedy)
  | kept _ body, standing => standing.put (body.begin (.after .start))

/-- Whether an expression asks nothing about places and keeps nothing. -/
def plain : Expression → Bool
  | empty | text _ | one _ _ => true
  | look _ | kept _ _ => false
  | sequence a b | either a b => a.plain && b.plain
  | repetition body _ _ _ => body.plain

end Expression

/-- Whether an octet stands first in few words. Those that begin longer characters do not count. -/
def isRare (b : UInt8) : Bool :=
  b < 0x80 && !(b.toNat = 0x0A || b.toNat = 0x0D ||
    " (),-./0129:_abcdefghilmnoprstuvxy|".toList.contains (Char.ofNat b.toNat))

def isEverywhere (word : Word) : Bool :=
  match word with
  | [] => true
  | [b] => 0xC0 ≤ b || " et".toList.contains (Char.ofNat b.toNat)
  | _ => false

/-- To how many octets words are cut if there are more than so many. -/
def cuts : List (Nat × Nat) := [(5,10),(4,10),(3,64),(2,64),(1,10)]

/-- Beginnings that are cut as long as there are too many. -/
def shortened (bs : List Beginning) : List (Nat × Nat) → List Beginning
  | [] => bs
  | (length,count) :: cuts =>
    if bs.length ≤ count then bs else shortened (preferred (bs.map (·.cut length))) cuts

/-- Whether matches are searched for as a whole and not by their beginnings. A beginning is searched
    for if all have it in common and it is long or rare, and if there are many words. -/
def searchedWhole (bs : List Beginning) : Bool :=
  match preferred bs with
  | [] => false
  | first :: others =>
    let whole (bs : List Beginning) : Bool := bs.all (·.whole)
    let known := first :: others
    let shared := others.foldl (fun shared b => sharedStart shared b.word) first.word
    if bs.length ≠ 1 ∧ shared.length ≤ 3 ∧ shared.head?.any isRare then whole (known.map (·.cut 1))
    else
      let many := !(whole known) || 16 < known.length
      let known := if 4 < shared.length ∨ (1 < shared.length ∧ many) then
        unique (known.map (·.cut shared.length)) else known
      let short := shortened known cuts
      let everywhere := short.any fun b => isEverywhere b.word
      if whole known then
        everywhere || short.any (·.word.length ≤ 2) || 64 < short.length || whole short
      else !everywhere && whole short

/-- How many words alone are searched for without a machine in any case. -/
def greatMany : Nat := 3000

def Expression.searchedAsWords (e : Expression) : Bool :=
  e.plain && (e.begin (.among (some []))).any (fun bs =>
      bs.all (!·.word.isEmpty) && searchedWhole bs) ||
    e.words?.any (greatMany ≤ ·.length)

end VideoCapture.Pattern
