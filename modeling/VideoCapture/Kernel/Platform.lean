import VideoCapture.Course
import VideoCapture.Fault
import VideoCapture.Kernel.Octets
/-!
# System calls of a process

A process reaches video devices either through a library, which adds formats converted in
software, or through the kernel itself. It decides at its first call and keeps to the decision, so
that whatever was opened or mapped one way is released the same way. Control requests that are
interrupted are made again.
-/
namespace VideoCapture.Kernel

inductive Backend
  | library
  | kernel
  deriving DecidableEq, Repr, Inhabited

def Backend.name : Backend → String
  | library => "LibV4l2"
  | kernel => "Kernel"

inductive SystemCall
  | open (path : String) (flags : Nat)
  | close
  | control (code : Nat) (argument : List UInt8)
  | map (length protection flags offset : Nat)
  | unmap (length : Nat)
  deriving DecidableEq, Repr, Inhabited

inductive Outcome
  /-- It succeeded, with a number that only opening gives a meaning. -/
  | done (number : Nat)
  /-- It succeeded, but with an address that is none. -/
  | null
  | failed (errno : Errno)
  deriving DecidableEq, Repr, Inhabited

/-- An answer to a system call: what is written into its structure, even by a call that fails, and
    how it came out. -/
structure Answer where
  writes : List (Nat × List UInt8)
  outcome : Outcome
  deriving DecidableEq, Repr, Inhabited

def Answer.isInterrupted (answer : Answer) : Bool :=
  match answer.outcome with
  | .failed errno => Errno.kind errno = .interrupted
  | _ => false

/-- What comes of a control request by an answer that counts: the structure as it was left. -/
def Answer.result (answer : Answer) (argument : List UInt8) : Except Fault (List UInt8) :=
  match answer.outcome with
  | .failed errno => .error (.system errno)
  | _ => .ok argument

inductive Readiness
  | ready
  /-- The other side has gone, which counts as ready. -/
  | hungUp
  | empty
  /-- The device reports an error, or the descriptor is none. -/
  | broken
  | failed (errno : Errno)
  deriving DecidableEq, Repr, Inhabited

/-- What a process meets: its environment, the libraries that can be loaded, and the system. All
    of it may change from call to call. No control request is interrupted for ever. -/
structure Platform (ω : Type) where
  variableValue : ω → Option String × ω
  load : String → ω → Bool × ω
  answer : Backend → SystemCall → ω → Answer × ω
  wait : Nat → ω → Readiness × ω
  /-- How often a control request made now and made again is interrupted at most. -/
  interruptions : Backend → (code : Nat) → (argument : List UInt8) → ω → Nat
  fewer_interruptions : ∀ backend code argument s,
    let reply := answer backend (.control code argument) s
    reply.1.isInterrupted = true →
      interruptions backend code (overwriteAll argument reply.1.writes) reply.2 <
        interruptions backend code argument s

inductive SystemEvent
  /-- It decided against the library without trying it. -/
  | declined
  | loaded (library : String) (success : Bool)
  | called (backend : Backend) (call : SystemCall) (outcome : Outcome)
  deriving DecidableEq, Repr

structure Situation (ω : Type) where
  /-- The way that calls take, once decided. -/
  choice : Option Backend
  surroundings : ω

abbrev SystemAct (ω α : Type) : Type := Course SystemEvent (Situation ω) α

def libraryVariable : String := "FRAMEGRAB_LIBV4L2"

def standardLibrary : String := "libv4l2.so.0"

def isNoLibrary (name : String) : Bool := name.toList.map Char.toLower = "none".toList

namespace Platform

variable {ω : Type} (platform : Platform ω)

/-- Decides which way calls take: through the library if it can be loaded. -/
def decide : SystemAct ω Backend := fun s =>
  let (value,surroundings) := platform.variableValue s.surroundings
  let library := value.getD standardLibrary
  if isNoLibrary library then ⟨.kernel,[.declined],⟨some .kernel,surroundings⟩⟩
  else
    let (success,surroundings) := platform.load library surroundings
    let backend := if success then Backend.library else .kernel
    ⟨backend,[.loaded library success],⟨some backend,surroundings⟩⟩

/-- The way that calls take, decided now if it has not been. -/
def backend : SystemAct ω Backend := fun s =>
  match s.choice with
  | some backend => ⟨backend,[],s⟩
  | none => platform.decide s

theorem choice_backend (s : Situation ω) : (platform.backend s).state.choice = some (platform.backend s).value := by
  obtain ⟨choice,surroundings⟩ := s
  cases choice with
  | some backend => rfl
  | none =>
    simp only [backend,decide]
    split <;> rfl

def call (call : SystemCall) : SystemAct ω Answer := do
  let backend ← platform.backend
  fun s =>
    let (answer,surroundings) := platform.answer backend call s.surroundings
    ⟨answer,[.called backend call answer.outcome],{ s with surroundings }⟩

/-- Makes a system call of which only success or failure counts. -/
def simple (systemCall : SystemCall) : SystemAct ω (Except Fault Unit) := do
  let answer ← platform.call systemCall
  match answer.outcome with
  | .failed errno => return .error (.system errno)
  | _ => return .ok ()

/-- Whether the way is still open, and how often a control request may still be interrupted. -/
def outstanding (code : Nat) (argument : List UInt8) (s : Situation ω) : Nat × Nat :=
  (s.choice.isNone.toNat,
    platform.interruptions (s.choice.getD .kernel) code argument s.surroundings)

/-- An interrupted attempt leaves less outstanding: at first the way is decided, and then fewer
    interruptions are left. -/
theorem outstanding_call (code : Nat) (argument : List UInt8) (s : Situation ω) :
    let attempt := platform.call (.control code argument) s
    attempt.value.isInterrupted = true →
      WellFoundedRelation.rel
        (platform.outstanding code (overwriteAll argument attempt.value.writes) attempt.state)
        (platform.outstanding code argument s) := by
  intro attempt interrupted
  obtain ⟨choice,surroundings⟩ := s
  cases choice with
  | none =>
    refine .left _ _ ?_
    rw [show attempt.state.choice = some _ from platform.choice_backend _]
    exact Nat.one_pos
  | some backend =>
    exact .right _ (platform.fewer_interruptions backend code argument surroundings interrupted)

/-- Makes a control request, again as long as it is interrupted. Each attempt is given the structure
    as the one before left it. -/
def control (code : Nat) (argument : List UInt8) : SystemAct ω (Except Fault (List UInt8)) := fun s =>
  let attempt := platform.call (.control code argument) s
  let left := overwriteAll argument attempt.value.writes
  if attempt.value.isInterrupted then
    let again := control code left attempt.state
    ⟨again.value,attempt.history ++ again.history,again.state⟩
  else ⟨attempt.value.result left,attempt.history,attempt.state⟩
termination_by s => platform.outstanding code argument s
decreasing_by exact platform.outstanding_call code argument _ ‹_›

/-- A control request is an attempt, and another request if that is interrupted. -/
theorem control_eq (code : Nat) (argument : List UInt8) :
    platform.control code argument = do
      let answer ← platform.call (.control code argument)
      let left := overwriteAll argument answer.writes
      if answer.isInterrupted then platform.control code left else return answer.result left := by
  funext s
  rw [control]
  by_cases interrupted : (platform.call (.control code argument) s).value.isInterrupted = true
  · simp only [interrupted,bind,↓reduceIte]
  · simp only [interrupted,bind,pure,List.append_nil,Bool.false_eq_true,↓reduceIte]

end Platform
end VideoCapture.Kernel
