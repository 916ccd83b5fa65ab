/-!
# Failures of the operating system

Why a request to the system failed: an error number of the system, a bare kind of failure,
or a kind with a text of its own. Failures are told apart by kind.
-/
namespace VideoCapture

/-- What went wrong, as far as callers tell failures apart. -/
inductive FaultKind
  | notFound
  | permissionDenied
  | interrupted
  | wouldBlock
  | timedOut
  | invalidInput
  | invalidData
  | unexpectedEof
  | inputOutput
  | outOfMemory
  | resourceBusy
  | notADirectory
  | isADirectory
  | storageFull
  | brokenPipe
  | invalidFilename
  | other
  | uncategorized
  deriving DecidableEq, Repr, Inhabited

/-- The text of a failure that is known by its kind alone. -/
def FaultKind.text : FaultKind → String
  | notFound => "entity not found"
  | permissionDenied => "permission denied"
  | interrupted => "operation interrupted"
  | wouldBlock => "operation would block"
  | timedOut => "timed out"
  | invalidInput => "invalid input parameter"
  | invalidData => "invalid data"
  | unexpectedEof => "unexpected end of file"
  | inputOutput => "input/output error"
  | outOfMemory => "out of memory"
  | resourceBusy => "resource busy"
  | notADirectory => "not a directory"
  | isADirectory => "is a directory"
  | storageFull => "no storage space"
  | brokenPipe => "broken pipe"
  | invalidFilename => "invalid filename"
  | other => "other error"
  | uncategorized => "uncategorized error"

abbrev Errno := Nat

namespace Errno

def noEntry : Errno := 2
def interrupted : Errno := 4
def again : Errno := 11
def notDirectory : Errno := 20
def isDirectory : Errno := 21
/-- Invalid argument; ends every enumeration of a device. -/
def invalid : Errno := 22
def notTty : Errno := 25
def nameTooLong : Errno := 36

/-- The kinds and texts of the error numbers that requests to devices and files meet. -/
def table : List (Errno × FaultKind × String) := [
  (1,.permissionDenied,"Operation not permitted"),
  (2,.notFound,"No such file or directory"),
  (4,.interrupted,"Interrupted system call"),
  (5,.inputOutput,"Input/output error"),
  (6,.uncategorized,"No such device or address"),
  (9,.uncategorized,"Bad file descriptor"),
  (11,.wouldBlock,"Resource temporarily unavailable"),
  (12,.outOfMemory,"Cannot allocate memory"),
  (13,.permissionDenied,"Permission denied"),
  (14,.uncategorized,"Bad address"),
  (16,.resourceBusy,"Device or resource busy"),
  (19,.uncategorized,"No such device"),
  (20,.notADirectory,"Not a directory"),
  (21,.isADirectory,"Is a directory"),
  (22,.invalidInput,"Invalid argument"),
  (23,.uncategorized,"Too many open files in system"),
  (24,.uncategorized,"Too many open files"),
  (25,.uncategorized,"Inappropriate ioctl for device"),
  (28,.storageFull,"No space left on device"),
  (32,.brokenPipe,"Broken pipe"),
  (36,.invalidFilename,"File name too long"),
  (110,.timedOut,"Connection timed out")]

def kind (n : Errno) : FaultKind :=
  match table.lookup n with
  | some (kind,_) => kind
  | none => .uncategorized

def text (n : Errno) : String :=
  match table.lookup n with
  | some (_,text) => text
  | none => s!"Unknown error {n}"

end Errno

/-- Why a request to the system failed. -/
inductive Fault
  | system (errno : Errno)
  | bare (kind : FaultKind)
  /-- A kind of failure with a text of its own. -/
  | described (kind : FaultKind) (text : String)
  deriving DecidableEq, Repr, Inhabited

namespace Fault

def kind : Fault → FaultKind
  | system n => Errno.kind n
  | bare kind => kind
  | described kind _ => kind

def errno? : Fault → Option Errno
  | system n => some n
  | _ => none

def message : Fault → String
  | system n =>
    let text := Errno.text n
    s!"{text} (os error {n})"
  | bare kind => kind.text
  | described _ text => text

/-- The failure of opening a path with a zero in it, which no system call can be given. -/
def zeroInPath : Fault := described .invalidInput "path contains NUL"

/-- Whether a failure only means that the request should be made again. -/
def isTransient (fault : Fault) : Bool := fault.kind == .interrupted || fault.kind == .wouldBlock

end Fault
end VideoCapture
