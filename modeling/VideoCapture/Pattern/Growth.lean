import VideoCapture.Pattern.Fault
/-!
# The growth of a machine

A machine that matches a pattern is built state by state, and building it stops where it would take
more octets than it may. States are numbered in the order in which they are built. The main
statements say when something can be built, and that nothing that is built is too large.
-/
namespace VideoCapture.Pattern

structure Growth where
  states : Nat
  /-- The octets of arrows that lie outside of the states themselves. -/
  arrows : Nat
  deriving DecidableEq, Repr, Inhabited

namespace Growth

def nothing : Growth := ⟨0,0⟩

def stateSize : Nat := 32

/-- The octets of an arrow to one of several states that are reached without a character. -/
def choiceSize : Nat := 4

/-- The octets of an arrow that one of several ranges of octets takes. -/
def rangeSize : Nat := 8

def size (g : Growth) : Nat := stateSize * g.states + g.arrows

/-- With some states and some octets of arrows more, unless the machine becomes too large. -/
def add (states arrows : Nat) (g : Growth) : Option Growth :=
  let g : Growth := ⟨g.states + states,g.arrows + arrows⟩
  if g.size ≤ largest then some g else none

def link (forks : Bool) (g : Growth) : Option Growth :=
  if forks then g.add 0 choiceSize else some g

/-- Something is added where the machine does not become too large. -/
theorem add_eq_some_iff {states arrows : Nat} {g h : Growth} :
    g.add states arrows = some h ↔
      h = ⟨g.states + states,g.arrows + arrows⟩ ∧ h.size ≤ largest := by
  simp only [add]
  split
  · rename_i hs
    simp only [Option.some.injEq]
    constructor
    · rintro rfl; exact ⟨rfl,hs⟩
    · rintro ⟨rfl,_⟩; rfl
  · rename_i hs
    simp only [reduceCtorEq,false_iff,not_and]
    rintro rfl
    exact hs

theorem size_le_of_add {states arrows : Nat} {g h : Growth} (e : g.add states arrows = some h) :
    h.size ≤ largest := (add_eq_some_iff.1 e).2

theorem size_le_of_link {forks : Bool} {g h : Growth} (hg : g.size ≤ largest)
    (e : g.link forks = some h) : h.size ≤ largest := by
  unfold link at e
  split at e
  · exact size_le_of_add e
  · cases e; exact hg

end Growth

/-- A part of a machine while it is built: how far the machine is, and whether the last state of
    the part is made of arrows to others, so that an arrow more takes room. -/
abbrev Built := Growth × Bool

/-- One part after another, a number of times. The last one is there already. -/
def copies (build : Growth → Option Built) : Nat → Built → Option Built
  | 0, b => some b
  | count + 1, (g,forks) =>
    match build g with
    | none => none
    | some (g,next) =>
      match g.link forks with
      | none => none
      | some g => copies build count (g,next)

/-- A part a number of times, or a state of its own instead of none. -/
def exactly (build : Growth → Option Built) (count : Nat) (g : Growth) : Option Built :=
  match count with
  | 0 => do return (← g.add 1 0,false)
  | count + 1 => do copies build count (← build g)

end VideoCapture.Pattern
