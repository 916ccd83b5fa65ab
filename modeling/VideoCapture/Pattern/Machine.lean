import VideoCapture.Pattern.Spelling
import VideoCapture.Pattern.Words
/-!
# Machines for patterns

How large a machine for an expression is. It reads the octets of a text forwards, or backwards to
find where a match begins. Its states are built in a fixed order, since what a set of characters
takes depends on the states that are there already. The main statement says that a machine that can
be built is not too large.
-/
namespace VideoCapture.Pattern

inductive Branch
  | alone
  /-- The second, after one that ends in a state made of arrows or in another one. -/
  | second (forks : Bool)
  | further
  deriving DecidableEq, Repr, Inhabited

/-- What is built at the end of an alternative: with the second one comes a state with arrows to all
    alternatives and a state after them. -/
def Branch.join (b : Branch) (part : Built) : Option Built :=
  let (g,forks) := part
  match b with
  | alone => some part
  | second before => do
    let g ← g.add 2 (2 * Growth.choiceSize)
    return (← (← g.link before).link forks,false)
  | further => do
    let g ← g.add 0 Growth.choiceSize
    return (← g.link forks,false)

namespace Expression

/-- The states for something that may be left out, or be repeated from its second time on. -/
def growOption (build : Growth → Option Built) (g : Growth) : Option Built := do
  let (g,forks) ← build (← g.add 1 0)
  let g ← g.add 1 (2 * Growth.choiceSize)
  return (← g.link forks,false)

/-- The states for something that is repeated without a bound. If it takes a character each time,
    one state leads into it and out of it. -/
def growLoop (takesSome : Bool) (build : Growth → Option Built) (least : Nat) (g : Growth) :
    Option Built :=
  match least with
  | 0 =>
    if takesSome then do
      let (g,forks) ← build (← g.add 1 0)
      return (← (← g.add 0 Growth.choiceSize).link forks,true)
    else do
      let (g,forks) ← build g
      let g ← g.add 3 (4 * Growth.choiceSize)
      return (← g.link forks,false)
  | 1 => do
    let (g,forks) ← build g
    return (← (← g.add 1 Growth.choiceSize).link forks,true)
  | least + 1 => do
    let (g,before) ← exactly build least g
    let (g,forks) ← build g
    let g ← g.add 1 Growth.choiceSize
    return (← (← g.link before).link forks,true)

/-- The states for more times of something, each of which may be the last. -/
def growRest (build : Growth → Option Built) : Nat → Built → Option Built
  | 0, b => some b
  | count + 1, (g,before) =>
    match g.add 1 (2 * Growth.choiceSize) with
    | none => none
    | some g =>
      match g.link before with
      | none => none
      | some g =>
        match build g with
        | none => none
        | some b => growRest build count b

def growBounded (build : Growth → Option Built) (least most : Nat) (g : Growth) : Option Built :=
  do
    let (g,before) ← exactly build least g
    let (g,forks) ← growRest build (most - least) (← g.add 1 0,before)
    return (← g.link forks,false)

/-- A machine with the states for an expression more. -/
def grow (d : Direction) : Expression → Branch → Growth → Option Built
  | either a b, .alone, g =>
    match (either a b).words? with
    | some words =>
      let words := if d = .forwards then words else words.map List.reverse
      do return (← growWords words g,false)
    | none =>
      match a.grow d .alone g with
      | some (g,forks) => b.grow d (.second forks) g
      | none => none
  | either a b, branch, g =>
    match a.grow d .alone g with
    | some part =>
      match branch.join part with
      | some (g,_) => b.grow d .further g
      | none => none
    | none => none
  | empty, branch, g => do branch.join (← g.add 1 0,false)
  | text cs, branch, g => do branch.join (← g.add (Utf8.encode cs).length 0,false)
  | one set _, branch, g => do branch.join (← set.grow d g,false)
  | look _, branch, g => do branch.join (← g.add 1 0,false)
  | sequence a b, branch, g =>
    let first := if d = .forwards then a.grow d .alone else b.grow d .alone
    let second := if d = .forwards then b.grow d .alone else a.grow d .alone
    do
      let (g,before) ← first g
      let (g,forks) ← second g
      branch.join (← g.link before,forks)
  | repetition body least most _, branch, g => do
    let build := body.grow d .alone
    let part ← match most with
      | none => growLoop (body.least?.any (0 < ·)) build least g
      | some most =>
        if least = 0 ∧ most = 1 then growOption build g
        else if least = most then exactly build least g
        else growBounded build least most g
    branch.join part
  | kept _ body, branch, g =>
    match d with
    | .forwards => do
      let (g,forks) ← body.grow d .alone (← g.add 1 0)
      branch.join (← (← g.add 1 0).link forks,false)
    | .backwards => do branch.join (← body.grow d .alone g)

/-- Whether a machine for an expression begins with it and skips nothing before. -/
def anchored (e : Expression) : Direction → Bool
  | .forwards => e.startsText
  | .backwards => e.endsText

/-- What is built before an expression: a loop over all octets, or a state that leads on. -/
def growBefore (anchored : Bool) : Option Growth :=
  if anchored then Growth.nothing.add 1 0
  else Growth.nothing.add 3 (Growth.rangeSize + Growth.choiceSize)

/-- The machine for an expression, unless it is too large. Before the expression it has a loop over
    all octets, unless a match begins where the reading begins, and after it a state for a match. The
    one that reads forwards keeps the whole match like a group. -/
def machine? (e : Expression) (d : Direction) : Option Growth := do
  let (g,forks) ← (kept 0 e).grow d .alone (← growBefore (e.anchored d))
  (← (← g.add 1 0).link forks).link (!e.anchored d)

/-- A machine that can be built is not too large. -/
theorem size_le_of_machine? {e : Expression} {d : Direction} {g : Growth}
    (h : e.machine? d = some g) : g.size ≤ largest := by
  simp only [machine?,bind,Option.bind_eq_some_iff] at h
  obtain ⟨_,_,_,_,_,hadd,_,hlink,hend⟩ := h
  exact Growth.size_le_of_link (Growth.size_le_of_link (Growth.size_le_of_add hadd) hlink) hend

end Expression
end VideoCapture.Pattern
