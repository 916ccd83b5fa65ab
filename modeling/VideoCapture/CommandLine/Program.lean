import VideoCapture.CommandLine.DeviceDescription
import VideoCapture.CommandLine.DeviceList
import VideoCapture.CommandLine.Journal
import VideoCapture.Log.Entry
import VideoCapture.Log.Filter
/-!
# The program

What the program does with its arguments: what it prints, what its log shows, and its exit code.
-/
namespace VideoCapture.CommandLine

/-- The variables that the program looks at. -/
structure Variables where
  device : Option String
  log : Option String
  deriving DecidableEq, Repr, Inhabited

/-- What a run of the program leaves behind. -/
structure Output where
  exitCode : Nat
  printed : String
  /-- The log and the message of a failure. -/
  told : String
  deriving DecidableEq, Repr, Inhabited

def linesOf (pieces : List String) : String := String.join (pieces.map (· ++ "\n"))

/-- What the log shows unless a variable says otherwise. -/
def Invocation.defaultFilter (i : Invocation) : String :=
  if i.quiet then "error" else if i.verbose then "debug" else "info"

def versionLine (command : Option String) : String :=
  match command with
  | some name => s!"framegrab-{name} {programVersion}"
  | none => s!"framegrab {programVersion}"

variable {ω : Type} (s : Surroundings ω)

def Command.run (json : Bool) : Command → Act ω Report
  | .devices verbose => listDevices s verbose json
  | .info a => describeDevice s a json
  | .capture a => captureFrames s a json

/-- Whether a command says which way calls take even if it makes none. -/
def Command.namesBackend : Command → Bool
  | .devices _ => true
  | .info _ | .capture _ => false

/-- The records of a run of a command. -/
def recordsOf (command : Command) (history : History) : List Record :=
  let (records,journal) := (Journal.start s.backend).read history
  let last := if command.namesBackend then journal.tellBackend.1 else []
  ⟨.debug,"framegrab","Logging initialized"⟩ :: records ++ last

def Invocation.run (i : Invocation) (vars : Variables) (start : ω) : Output :=
  let (filter,faults) := Log.Filter.read (vars.log.getD i.defaultFilter)
  let run := i.command.run s i.json start
  let warnings := faults.map fun fault => s!"warning: {fault}, ignoring it"
  let shown := (recordsOf s i.command run.history).filter filter.shows
  let message := run.value.failure.map fun failure => failure.message
  { exitCode := (run.value.failure.map fun failure => failure.kind.exitCode).getD 0
    printed := linesOf run.value.lines
    told := linesOf warnings ++ String.join (shown.map Record.entry) ++ linesOf message.toList }

/-- Runs the program, or says why its arguments are not accepted. -/
def runProgram (vars : Variables) (arguments : List String) (start : ω) :
    Except UsageFault Output :=
  match Invocation.read vars.device arguments with
  | .ok invocation => .ok (invocation.run s vars start)
  | .error (.version command) => .ok ⟨0,linesOf [versionLine command],""⟩
  | .error (.fault fault) => .error fault

end VideoCapture.CommandLine
