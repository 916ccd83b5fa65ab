import VideoCapture.Act
import VideoCapture.Kernel.Control
import VideoCapture.Kernel.Platform
/-!
# Devices behind system calls

Opening and closing a device node, and the system calls that each request to it is made by.
-/
namespace VideoCapture.Kernel

/-- The flags for reading and writing without blocking. -/
def openFlags : Nat := 2050

def readWrite : Nat := 3

def shared : Nat := 1

namespace Platform

variable {ω : Type} (platform : Platform ω)

def openPath (path : String) (flags : Nat) : SystemAct ω (Except Fault Nat) := do
  let answer ← platform.call (.open path flags)
  match answer.outcome with
  | .failed errno => return .error (.system errno)
  | .done number => return .ok number
  | .null => return .ok 0

/-- Opens a device node. A path with a zero in it never reaches the system. -/
def openNode (path : String) : SystemAct ω (Except Fault Nat) := do
  if path.toList.contains '\x00' then return .error .zeroInPath
  platform.openPath path openFlags

/-- Closes a device node. It counts as closed even if that fails; the failure is only told. -/
def closeNode (path : String) : SystemAct ω (List Record) := do
  match ← platform.simple .close with
  | .ok () => return []
  | .error fault =>
    return [⟨.warn,"framegrab::v4l2::system",s!"closing {path} failed: {fault.message}"⟩]

def poll (milliseconds : Nat) : SystemAct ω (Except Fault Bool) := fun s =>
  let (readiness,surroundings) := platform.wait milliseconds s.surroundings
  let answer := match readiness with
    | .ready | .hungUp => .ok true
    | .empty => .ok false
    | .broken => .error (.described .other "device reported an error condition")
    | .failed errno => .error (.system errno)
  ⟨answer,[],{ s with surroundings }⟩

def mapMemory (length offset : Nat) : SystemAct ω (Except Fault Unit) := do
  let answer ← platform.call (.map length readWrite shared offset)
  match answer.outcome with
  | .failed errno => return .error (.system errno)
  | .null => return .error (.described .other "mmap returned null")
  | .done _ => return .ok ()

/-- Makes a control request and reads its reply. An invalid index ends an enumeration. -/
def controlled (r : Request) (control : Control) : SystemAct ω (Except Fault r.Reply) := do
  match ← platform.control control.code control.argument with
  | .ok argument => return .ok (replyOf r argument)
  | .error fault =>
    match endOf? r with
    | some past =>
      if fault = .system Errno.invalid then return .ok past else return .error fault
    | none => return .error fault

def request : (r : Request) → SystemAct ω (Except Fault r.Reply)
  | .mapBuffer info => platform.mapMemory info.length.toNat info.offset.toNat
  | .unmapBuffer _ length => platform.simple (.unmap length.toNat)
  | .waitReadable milliseconds => platform.poll milliseconds
  | r =>
    match Control.of? r with
    | some control => platform.controlled r control
    | none => return .error (.bare .other)

/-- The devices of a platform as a world; `candidates` says where to look for them, mapped memory
    holds zeros, and there are always threads. -/
def world (candidates : Except Fault (List String)) : World (Situation ω) where
  candidates s := (candidates,s)
  openDevice path _ s :=
    let opening := platform.openNode path s
    (opening.value,opening.state)
  ask _ r s :=
    let asking := platform.request r s
    (asking.value,asking.state)
  octet _ _ _ _ := 0
  close device s := (platform.closeNode device.path s).state
  startThread s := (.ok (),s)

end Platform
end VideoCapture.Kernel
