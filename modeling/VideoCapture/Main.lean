import VideoCapture.CommandLine.Program
import VideoCapture.Kernel.Device
import VideoCapture.Kernel.FileSystem
/-!
# The command line

Collects the arguments, the variables and what the program needs to know of files, runs the program
and prints what it leaves behind. There are no control requests here, so that device nodes answer
like ordinary files, and no device is a candidate.
-/
namespace VideoCapture.CommandLine

def errnoOf : IO.Error → Errno
  | .noFileOrDirectory _ code _ | .permissionDenied _ code _ | .inappropriateType _ code _
  | .invalidArgument _ code _ | .resourceExhausted _ code _ => code.toNat
  | .resourceBusy code _ => code.toNat
  | _ => 5

/-- What the program may learn of a file. -/
structure FileFacts where
  path : String
  contents : Except Fault (List UInt8)
  opening : Except Errno Unit
  isThere : Bool

/-- The outcome of an attempt, with the error number of a failure. -/
def attempt {α : Type} (act : IO α) : IO (Except Errno α) := do
  try return .ok (← act) catch e => return .error (errnoOf e)

def inspect (path : String) : IO FileFacts := do
  let contents ← attempt do
    return (← IO.FS.readBinFile path).toList
  let opening ← attempt do
    let _ ← IO.FS.Handle.mk path .readWrite
  let reading ← attempt do
    let _ ← IO.FS.Handle.mk path .read
  return {
    path
    contents := contents.mapError Fault.system
    opening
    isThere := match reading with
      | .ok _ => true
      | .error errno => errno = 13 }

def factsAt (known : List FileFacts) (path : String) : FileFacts :=
  (known.find? (·.path == path)).getD
    ⟨path,.error (.system Errno.noEntry),.error Errno.noEntry,false⟩

def knownContents (known : List FileFacts) : FileReader := fun path => (factsAt known path).contents

def Command.paths : Command → List String
  | .devices _ => []
  | .info a => a.device.toList
  | .capture a => a.device.toList ++ a.settings.toList

/-- The device that the settings of a command name in the end. -/
def Command.configuredDevice (known : List FileFacts) : Command → List String
  | .capture a =>
    match a.effectiveSettings (knownContents known) with
    | .ok settings => [settings.getText Settings.deviceKey]
    | .error _ => []
  | .devices _ | .info _ => []

/-- Looks at every file that an invocation may need. -/
def gather (invocation : Except Refusal Invocation) : IO (List FileFacts) := do
  match invocation with
  | .error _ => return []
  | .ok i =>
    let known ← i.command.paths.mapM inspect
    return known ++ (← (i.command.configuredDevice known).mapM inspect)

/-- What commands meet when the given files are there. -/
def surroundingsOf (known : List FileFacts) :
    Surroundings (Kernel.Situation Kernel.OrdinaryFiles) where
  world := Kernel.OrdinaryFiles.platform.world (.error (.system Errno.noEntry))
  backend := .kernel
  contentsOf := knownContents known
  pathExists path := (factsAt known path).isThere
  rounds _ _ := 0

end VideoCapture.CommandLine

open VideoCapture VideoCapture.CommandLine

def main (arguments : List String) : IO UInt32 := do
  let vars : Variables := ⟨← IO.getEnv "FRAMEGRAB_DEVICE",← IO.getEnv "RUST_LOG"⟩
  let known ← gather (Invocation.read vars.device arguments)
  let start := Kernel.OrdinaryFiles.situation
    ⟨← IO.getEnv Kernel.libraryVariable,fun path => (factsAt known path).opening,false⟩
  match runProgram (surroundingsOf known) vars arguments start with
  | .ok output =>
    IO.print output.printed
    IO.eprint output.told
    return UInt32.ofNat output.exitCode
  | .error _ =>
    IO.eprintln "error: the arguments are not accepted"
    return 2
