import VideoCapture.Pattern.CharSet
/-!
# Patterns ready for matching

An expression is made of texts, sets of characters and questions about places. Matching follows all
places of a text at once: an expression takes the places where it may begin to those where it may
end.
-/
namespace VideoCapture.Pattern

inductive WordEdge
  | edge | noEdge | start | stop | startHalf | stopHalf
  deriving DecidableEq, Repr, Inhabited

inductive Look
  | textStart | textEnd
  | lineStart | lineEnd
  /-- The same where carriage returns and line feeds end lines, alone or in this order. -/
  | lineStartReturns | lineEndReturns
  /-- Where words are of ASCII letters, digits and underscores. -/
  | word (asked : WordEdge)
  /-- Where words are of the letters of all scripts, which nothing here tells apart. -/
  | wordInAllScripts (asked : WordEdge)
  deriving DecidableEq, Repr, Inhabited

/-- A pattern ready for matching. -/
inductive Expression
  | empty
  | text (cs : List Char)
  /-- One of the members of a set, which may be a set of octets. -/
  | one (set : CharSet) (ofOctets : Bool)
  | look (l : Look)
  | sequence (first second : Expression)
  | either (first second : Expression)
  /-- Something a number of times, by preference as often as possible or as rarely. -/
  | repetition (body : Expression) (least : Nat) (most : Option Nat) (greedy : Bool)
  /-- A group that opens at a place of the pattern and keeps what it matched. -/
  | kept (place : Nat) (body : Expression)
  deriving DecidableEq, Repr, Inhabited

namespace WordEdge

/-- Whether a place is an edge, by whether the characters on its sides belong to words. -/
def holds : WordEdge → Bool → Bool → Bool
  | edge, before, after => before != after
  | noEdge, before, after => before == after
  | start, before, after => !before && after
  | stop, before, after => before && !after
  | startHalf, before, _ => !before
  | stopHalf, _, after => !after

end WordEdge

def inWord (c : Option Char) : Bool := c.any fun c => c.isAlphanum || c = '_'

def Look.holds : Look → Option Char → Option Char → Bool
  | textStart, before, _ => before.isNone
  | textEnd, _, after => after.isNone
  | lineStart, before, _ => before.isNone || before = some '\n'
  | lineEnd, _, after => after.isNone || after = some '\n'
  | lineStartReturns, before, after =>
    before.isNone || before = some '\n' || before = some '\r' && after ≠ some '\n'
  | lineEndReturns, before, after =>
    after.isNone || after = some '\r' || after = some '\n' && before ≠ some '\r'
  | word asked, before, after => asked.holds (inWord before) (inWord after)
  | wordInAllScripts _, _, _ => false

/-- The characters on both sides of every place in a text, from a place after some character on. -/
def sides (before : Option Char) : List Char → List (Option Char × Option Char)
  | [] => [(before,none)]
  | c :: cs => (before,some c) :: sides (some c) cs

/-- Some places, as a number with a bit for each of them. -/
abbrev Places := Nat

def placesWhere {α : Type} (holds : α → Bool) (xs : List α) : Places :=
  xs.foldr (fun x later => 2 * later + (holds x).toNat) 0

theorem testBit_placesWhere {α : Type} (holds : α → Bool) (xs : List α) (i : Nat) :
    (placesWhere holds xs).testBit i = xs[i]?.any holds := by
  induction xs generalizing i with
  | nil => simp [placesWhere]
  | cons x xs ih =>
    have step : placesWhere holds (x :: xs) = 2 * placesWhere holds xs + (holds x).toNat := rfl
    cases i with
    | zero => cases h : holds x <;> simp [step,h,Nat.testBit_zero,Nat.add_mod]
    | succ i =>
      have half : (2 * placesWhere holds xs + (holds x).toNat) / 2 = placesWhere holds xs := by
        rw [Nat.mul_add_div (by decide),Nat.div_eq_of_lt (Bool.toNat_lt _),Nat.add_zero]
      rw [step,Nat.testBit_succ,List.getElem?_cons_succ,half,ih]

/-- The places after so many steps. Steps that change nothing are left out. -/
def afterSteps (step : Places → Places) : Nat → Places → Places
  | 0, s => s
  | count + 1, s =>
    let next := step s
    if next = s then s else afterSteps step count next

def withinSteps (step : Places → Places) : Nat → Places → Places
  | 0, s => s
  | count + 1, s =>
    let next := s ||| step s
    if next = s then s else withinSteps step count next

namespace Expression

/-- The places after a character that a test admits. -/
def afterOne (text : List Char) (admits : Char → Bool) (s : Places) : Places :=
  (s &&& placesWhere admits text) <<< 1

theorem afterOne_or (text : List Char) (p q : Char → Bool) (s : Places) :
    afterOne text (fun c => p c || q c) s = afterOne text p s ||| afterOne text q s := by
  refine Nat.eq_of_testBit_eq fun i => ?_
  cases i with
  | zero => simp [afterOne]
  | succ i =>
    simp only [afterOne,Nat.testBit_or,Nat.testBit_shiftLeft,Nat.testBit_and,
      testBit_placesWhere,Nat.add_sub_cancel]
    cases text[i]? <;> simp [Bool.and_or_distrib_left]

theorem afterOne_false (text : List Char) (s : Places) : afterOne text (fun _ => false) s = 0 := by
  have : placesWhere (fun _ : Char => false) text = 0 := Nat.eq_of_testBit_eq fun i => by
    cases h : text[i]? <;> simp [testBit_placesWhere,h]
  simp [afterOne,this]

/-- Where an expression may end in a text, by where it may begin. More steps than there are
    places change nothing any more. -/
def ends (text : List Char) : Expression → Places → Places
  | empty, s => s
  | .text cs, s => cs.foldl (fun s c => afterOne text (· = c) s) s
  | one set _, s => afterOne text (fun c => set.contains c.toNat) s
  | look l, s => s &&& placesWhere (fun (before,after) => l.holds before after) (sides none text)
  | sequence a b, s => b.ends text (a.ends text s)
  | either a b, s => a.ends text s ||| b.ends text s
  | repetition body least most _, s =>
    let bound := text.length + 1
    let more := match most with
      | some most => min (most - least) bound
      | none => bound
    withinSteps (fun t => body.ends text t) more
      (afterSteps (fun t => body.ends text t) (min least bound) s)
  | kept _ body, s => body.ends text s

def matchesIn (e : Expression) (text : String) : Bool :=
  e.ends text.toList (Nat.pow 2 (text.length + 1) - 1) ≠ 0

/-- A match may begin after the first characters and end before the last ones. -/
example :
    (sequence (text ['b']) (repetition (text ['c']) 1 none true)).matchesIn "abccd" = true := by
  cbv

def onlyEmpty : Expression → Bool
  | empty | look _ => true
  | text cs => cs.isEmpty
  | one _ _ => false
  | sequence a b | either a b => a.onlyEmpty && b.onlyEmpty
  | repetition body _ _ _ | kept _ body => body.onlyEmpty

/-- The fewest characters that an expression takes, if each of its parts can match something. -/
def least? : Expression → Option Nat
  | empty | look _ => some 0
  | text cs => some cs.length
  | one set _ => if set = .none then none else some 1
  | sequence a b => return (← a.least?) + (← b.least?)
  | either a b => return min (← a.least?) (← b.least?)
  | repetition body least _ _ => return (← body.least?) * least
  | kept _ body => body.least?

/-- Whether every match begins at the beginning of the text, as far as the looks in front say. -/
def startsText : Expression → Bool
  | empty | text _ | one _ _ => false
  | look l => l = .textStart
  | sequence a b => a.startsText || (a.onlyEmpty && b.startsText)
  | either a b => a.startsText && b.startsText
  | repetition body least _ _ => least ≠ 0 && body.startsText
  | kept _ body => body.startsText

def endsText : Expression → Bool
  | empty | text _ | one _ _ => false
  | look l => l = .textEnd
  | sequence a b => b.endsText || (b.onlyEmpty && a.endsText)
  | either a b => a.endsText && b.endsText
  | repetition body least _ _ => least ≠ 0 && body.endsText
  | kept _ body => body.endsText

def asksAllScripts : Expression → Bool
  | empty | text _ | one _ _ => false
  | look l => match l with
    | .wordInAllScripts _ => true
    | _ => false
  | sequence a b | either a b => a.asksAllScripts || b.asksAllScripts
  | repetition body _ _ _ | kept _ body => body.asksAllScripts

end Expression
end VideoCapture.Pattern
