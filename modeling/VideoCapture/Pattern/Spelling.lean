import VideoCapture.Pattern.CharSet
import VideoCapture.Pattern.Growth
import VideoCapture.Text.OctetRanges
/-!
# Sets of characters in a machine

A machine reads octets, so a set of characters becomes states for the octets that spell them.
States that would be the same are built once, as long as they are remembered: each has a slot by
what it is, and a slot remembers the latest state only.
-/
namespace VideoCapture.Pattern
open Text (OctetRange)

def digest (numbers : List Nat) : UInt64 :=
  numbers.foldl (fun h n => (h ^^^ UInt64.ofNat n) * 1099511628211) 14695981039346656037

/-- What states are remembered, the latest first, each with its slot and what it is. -/
abbrev Remembered (α : Type) := List (Nat × α × Nat)

namespace Remembered

def find? {α : Type} [DecidableEq α] (r : Remembered α) (slot : Nat) (what : α) : Option Nat :=
  match r.lookup slot with
  | some (other,state) => if other = what then some state else none
  | none => none

end Remembered

def CharSet.spellings (set : CharSet) : List (List OctetRange) :=
  set.ranges.flatMap fun (first,last) => Text.spellings first last

structure Arrow where
  octets : OctetRange
  target : Nat
  deriving DecidableEq, Repr, Inhabited

def Arrow.numbers (a : Arrow) : List Nat := [a.octets.first.toNat,a.octets.last.toNat,a.target]

/-- How many slots there are for states by their arrows. -/
def arrowSlots : Nat := 10000

def stepSlots : Nat := 1000

structure Spelling (α : Type) where
  growth : Growth
  remembered : Remembered α

/-- A state with some arrows, which may be there already. -/
def Spelling.state (s : Spelling (List Arrow)) (arrows : List Arrow) :
    Option (Nat × Spelling (List Arrow)) :=
  let slot := (digest (arrows.flatMap Arrow.numbers)).toNat % arrowSlots
  match s.remembered.find? slot arrows with
  | some state => some (state,s)
  | none => do
    let growth ← s.growth.add 1 (Growth.rangeSize * arrows.length)
    let state := s.growth.states
    return (state,⟨growth,(slot,arrows,state) :: s.remembered⟩)

/-- The state from which some spellings lead to the last state, at most so many octets later. The
    spellings are in order. States are built from the last octets on. -/
def Spelling.ahead (last : Nat) : Nat → List (List OctetRange) → Spelling (List Arrow) →
    Option (Nat × Spelling (List Arrow))
  | 0, _, s => some (last,s)
  | depth + 1, words, s =>
    if words.all (·.isEmpty) then some (last,s)
    else do
      let groups := words.splitBy fun a b => a.head? = b.head?
      let (arrows,s) ← groups.foldlM (fun (arrows,s) group => do
        let (target,s) ← Spelling.ahead last depth (group.map List.tail) s
        let octets := (group.head?.bind List.head?).getD default
        return (arrows ++ [⟨octets,target⟩],s)) ([],s)
      s.state arrows

/-- A state that reads some octets and leads to another one, which may be there already. -/
def Spelling.step (s : Spelling (Nat × OctetRange)) (target : Nat) (octets : OctetRange) :
    Option (Nat × Spelling (Nat × OctetRange)) :=
  let numbers := [target,octets.first.toNat,octets.last.toNat]
  let slot := (digest numbers).toNat % stepSlots
  match s.remembered.find? slot (target,octets) with
  | some state => some (state,s)
  | none => do
    let growth ← s.growth.add 1 0
    let state := s.growth.states
    return (state,⟨growth,(slot,(target,octets),state) :: s.remembered⟩)

/-- The states of one spelling that is read backwards, and an arrow to them. -/
def Spelling.back (last : Nat) (s : Spelling (Nat × OctetRange)) (word : List OctetRange) :
    Option (Spelling (Nat × OctetRange)) := do
  let (_,s) ← word.foldlM (fun (target,s) octets => Spelling.step s target octets) (last,s)
  return ⟨← s.growth.add 0 Growth.choiceSize,s.remembered⟩

inductive Direction
  | forwards | backwards
  deriving DecidableEq, Repr, Inhabited

/-- The states of a set. A set of ASCII characters has one state for all of its ranges. -/
def CharSet.grow (set : CharSet) (d : Direction) (g : Growth) : Option Growth :=
  if set.isAscii then g.add 2 (Growth.rangeSize * set.ranges.length)
  else match d with
    | .forwards => do
      let last := g.states
      let (_,s) ← Spelling.ahead last 4 set.spellings ⟨← g.add 1 0,[]⟩
      return s.growth
    | .backwards => do
      let last := g.states + 1
      let s ← set.spellings.foldlM (Spelling.back last) ⟨← g.add 2 0,[]⟩
      return s.growth

end VideoCapture.Pattern
