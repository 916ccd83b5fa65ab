import VideoCapture.Kernel.Platform
/-!
# Ordinary files in place of devices

A process stands in a directory with a few ordinary files. They open like devices, but every
control request to them fails.
-/
namespace VideoCapture.Kernel

abbrev Directory := List (String × List UInt8)

/-- Where a path has led so far. -/
inductive Place
  | here
  | elsewhere
  | file (contents : List UInt8)
  deriving DecidableEq, Repr

def maxPath : Nat := 4095

def maxName : Nat := 255

namespace Directory

/-- The place that a name leads to. -/
def step (d : Directory) (name : String) : Place → Except Errno Place
  | .file _ => .error Errno.notDirectory
  | place =>
    if name = "" ∨ name = "." then .ok place
    else if name = ".." then .ok .elsewhere
    else if maxName < name.utf8ByteSize then .error Errno.nameTooLong
    else if place = .here then
      match d.lookup name with
      | some contents => .ok (.file contents)
      | none => .error Errno.noEntry
    else .error Errno.noEntry

def resolve (d : Directory) (path : String) : Except Errno Place :=
  if path = "" then .error Errno.noEntry
  else if maxPath < path.utf8ByteSize then .error Errno.nameTooLong
  else (path.splitOn "/").foldlM (fun place name => d.step name place)
    (if path.startsWith "/" then .elsewhere else .here)

def pathExists (d : Directory) (path : String) : Bool :=
  match d.resolve path with
  | .ok _ => true
  | .error _ => false

def contentsOf (d : Directory) (path : String) : Except Fault (List UInt8) :=
  if path.toList.contains '\x00' then
    .error (.described .invalidInput "file name contained an unexpected NUL byte")
  else match d.resolve path with
    | .ok (.file contents) => .ok contents
    | .ok _ => .error (.system Errno.isDirectory)
    | .error errno => .error (.system errno)

/-- How opening a file for reading and writing comes out. -/
def opening (d : Directory) (path : String) : Except Errno Unit :=
  match d.resolve path with
  | .ok (.file _) => .ok ()
  | .ok _ => .error Errno.isDirectory
  | .error errno => .error errno

end Directory

def pageSize : Nat := 4096

/-- What a process meets that opens ordinary files. -/
structure OrdinaryFiles where
  variableValue : Option String
  opening : String → Except Errno Unit
  /-- Whether a file has been mapped before. -/
  wasMapped : Bool

namespace OrdinaryFiles

def answer (s : OrdinaryFiles) : SystemCall → Outcome × OrdinaryFiles
  | .open path _ =>
    match s.opening path with
    | .ok () => (.done 3,s)
    | .error errno => (.failed errno,s)
  | .close => (.done 0,s)
  | .control _ _ => (.failed Errno.notTty,s)
  | .map length _ _ offset =>
    if length = 0 ∨ offset % pageSize ≠ 0 then (.failed Errno.invalid,s)
    else (.done 0,{ s with wasMapped := true })
  | .unmap length =>
    if length = 0 ∨ !s.wasMapped then (.failed Errno.invalid,s) else (.done 0,s)

/-- Ordinary files as a platform without a usable library. -/
def platform : Platform OrdinaryFiles where
  variableValue s := (s.variableValue,s)
  load _ s := (false,s)
  answer _ call s :=
    let (outcome,s) := s.answer call
    (⟨[],outcome⟩,s)
  wait _ s := (.ready,s)
  interruptions _ _ _ _ := 0
  fewer_interruptions _ _ _ _ := fun interrupted => by cases interrupted

/-- A process that has decided against the library. -/
def situation (s : OrdinaryFiles) : Situation OrdinaryFiles := ⟨some .kernel,s⟩

end OrdinaryFiles
end VideoCapture.Kernel
