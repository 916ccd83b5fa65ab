import VideoCapture.CommandLine.Arguments
import VideoCapture.CommandLine.Values
import VideoCapture.Settings.Stored
/-!
# The settings that a command works with

Three layers: the standard configuration, a settings file over it, and the options of the command
over both.
-/
namespace VideoCapture.CommandLine

abbrev FileReader := String → Except Fault (List UInt8)

def textOf (octets : List UInt8) : Except Fault String :=
  match Utf8.decode? octets with
  | some cs => .ok (String.ofList cs)
  | none => .error (.described .invalidData "stream did not contain valid UTF-8")

def readSettings (contentsOf : FileReader) (path : String) : Except Failure Settings :=
  match contentsOf path >>= textOf with
  | .error fault => .error (.settingsUnreadable path fault)
  | .ok text =>
    match Settings.ofText text with
    | .ok settings => .ok settings
    | .error defect => .error (.settingsMalformed path defect)

namespace CaptureArguments

/-- The file's layer: its settings over the defaults. -/
def fileLayer (a : CaptureArguments) (contentsOf : FileReader) : Except Failure Settings :=
  match a.settings with
  | none => .ok Settings.empty.withDefaults
  | some path => (readSettings contentsOf path).map Settings.empty.withDefaults.merge

def given {α : Type} (read : String → Except Failure α) : Option String →
    Except Failure (Option α)
  | none => .ok none
  | some text => (read text).map some

/-- The frame interval that the options ask for. A frame rate makes an interval needless. -/
def interval? (a : CaptureArguments) : Except Failure (Option Fraction) :=
  match a.framerate with
  | some text => (CommandLine.framerate text).map some
  | none => given CommandLine.interval a.interval

def overlay (a : CaptureArguments) (config : Configuration) : Except Failure Configuration := do
  let format ← given CommandLine.format a.format
  let resolution ← given CommandLine.resolution a.resolution
  let interval ← a.interval?
  let config := match a.device with
    | some device => config.withDevice device
    | none => config
  let config := match format with
    | some code => config.withFormat code
    | none => config
  let config := match resolution with
    | some r => config.withResolution r.width r.height
    | none => config
  return match interval with
    | some f => config.withInterval f.numerator f.denominator
    | none => config

/-- The settings of the command: file over defaults, options over both. -/
def effectiveSettings (a : CaptureArguments) (contentsOf : FileReader) :
    Except Failure Settings := do
  let settings ← a.fileLayer contentsOf
  let config ← a.overlay (Configuration.ofSettings settings)
  return config.storeIn settings

end CaptureArguments
end VideoCapture.CommandLine
