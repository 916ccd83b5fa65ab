import VideoCapture.Capture.Source
import VideoCapture.CommandLine.Surroundings
import VideoCapture.Metrics.Summary
import VideoCapture.Text.Quoted
/-!
# A capture run

The command that captures frames: it builds the settings, lets a source capture until there is a
reason to end, tears the source down and reports what came in.
-/
namespace VideoCapture

namespace Metrics

/-- What is measured of the frames that were delivered in a history. -/
def Collector.ofHistory (history : History) : Collector :=
  history.foldl (fun c event =>
    match event with
    | .delivered frame _ =>
      (c.addFrame frame.timestampNanos frame.sequence frame.bytesUsed.toNat).1
    | _ => c) .empty

end Metrics

def Sink.accepting {ω : Type} : Sink ω where
  started _ s := (true,s)
  frame _ s := (true,s)
  stopped _ s := (true,s)

namespace CommandLine

inductive Ending
  | enough
  | timeOver
  | threadOver
  | noFrames
  | interrupted
  deriving DecidableEq, Repr, Inhabited

namespace Ending

/-- The time that a run waits for its first frame, in seconds. -/
def patience : Nat := 5

/-- Why a run ends when no more frames come in: `frames` have, and `ended` says whether the
    capture thread has ended. -/
def of (a : CaptureArguments) (frames : Nat) (ended : Bool) : Ending :=
  if a.frames ≠ 0 ∧ a.frames ≤ frames then .enough
  else if ended then .threadOver
  else match a.duration with
    | some seconds =>
      if frames = 0 ∧ Nat.toFloat patience < seconds then .noFrames else .timeOver
    | none => if frames = 0 then .noFrames else .interrupted

def failure? (device : String) : Ending → Option Failure
  | noFrames => some (.noFrames device patience)
  | enough | timeOver | threadOver | interrupted => none

end Ending

def captureTarget : String := "framegrab::capture"

def CaptureArguments.diagnostic (a : CaptureArguments) : String :=
  let text := Text.quotedIfAny
  "Args \x7b device: " ++ text a.device ++ ", format: " ++ text a.format ++
    ", resolution: " ++ text a.resolution ++ ", framerate: " ++ text a.framerate ++
    ", interval: " ++ text a.interval ++ ", settings: " ++ text a.settings ++
    s!", frames: {a.frames}, duration: " ++
    Text.ifAny (a.duration.map Decimal.diagnostic) ++ s!", metrics: {a.metrics} \x7d"

end CommandLine

def Setting.diagnostic : Setting → String
  | int n => s!"Int({n.toInt})"
  | text s => "Str(" ++ Text.quoted s ++ ")"

def KeyMap.diagnostic (m : KeyMap Setting) : String :=
  "\x7b" ++ ", ".intercalate (m.entries.map fun (key,value) =>
    Text.quoted key ++ ": " ++ value.diagnostic) ++ "\x7d"

def Settings.diagnostic (s : Settings) : String :=
  "Settings \x7b values: " ++ s.values.diagnostic ++ ", defaults: " ++ s.defaults.diagnostic ++
    " \x7d"

namespace CommandLine

variable {ω : Type} (s : Surroundings ω)

def remarkFile (a : CaptureArguments) : Act ω Unit :=
  match a.settings with
  | none => return ()
  | some path =>
    match readSettings s.contentsOf path with
    | .ok settings =>
      remark .debug captureTarget s!"Loaded settings from {path}: {settings.diagnostic}"
    | .error _ => return ()

/-- What is wrong with the time to capture for, if anything. -/
def durationFault? (a : CaptureArguments) : Option Failure :=
  match a.duration with
  | some seconds =>
    if seconds.isFinite && 0 < seconds then none else some (.durationNotPositive seconds)
  | none => none

def startFailure (device : String) : Failure :=
  if device = "" then .noDevice
  else if s.pathExists device then .captureNotStarted device
  else .deviceMissing device

/-- The number of frames that are wanted, in words; the greatest count stands for no limit too. -/
def wantedFrames (a : CaptureArguments) : String :=
  if a.frames = 0 ∨ a.frames = Metrics.maxCount then "unlimited" else toString a.frames

/-- Lets a source capture as long as frames come in. -/
def Surroundings.captureAll (source : Source) : Act ω Source := do
  match source.session.thread with
  | some thread => source.advance s.world .accepting (← Course.look (s.rounds thread.device))
  | none => return source

/-- Says why a run ends, where that is worth a line in the log. -/
def Ending.tell : Ending → Act ω Unit
  | threadOver => remark .warn captureTarget "Capture thread ended on its own"
  | interrupted => remark .info captureTarget "Received interrupt, stopping capture"
  | enough | timeOver | noFrames => return ()

/-- Runs a session from start to end: why it did not start, or why it ended. -/
def runSession (a : CaptureArguments) (settings : Settings) :
    Act ω (Except Failure (Option Failure)) := do
  let (source,settings) ← Source.new s.world .accepting settings
  let device := settings.getText Settings.deviceKey
  if !source.isActive then
    let _ ← source.terminate s.world .accepting
    return .error (startFailure s device)
  else
    remark .info captureTarget
      s!"Capturing {wantedFrames a} frames from {device} (Ctrl+C to stop)..."
    let source ← s.captureAll source
    let ending := Ending.of a source.frames (source.state = some .stopped)
    ending.tell
    let _ ← source.terminate s.world .accepting
    return .ok (ending.failure? device)

def captureLines (a : CaptureArguments) (json : Bool) (c : Metrics.Collector) : List String :=
  if json then jsonLines c.summary.toJson
  else if a.metrics then c.summary.lines
  else [s!"Captured {c.frames} frames"]

def captureFrames (a : CaptureArguments) (json : Bool) : Act ω Report := do
  remark .debug captureTarget ("Capture parameters: " ++ a.diagnostic)
  remarkFile s a
  match a.effectiveSettings s.contentsOf, durationFault? a with
  | .error failure, _ => return .failed failure
  | .ok _, some failure => return .failed failure
  | .ok settings, none =>
    remark .debug "framegrab::utils" "Installed SIGINT handler"
    let (result,history) ← Course.listen (runSession s a settings)
    match result with
    | .error failure => return .failed failure
    | .ok failure => return ⟨captureLines a json (.ofHistory history),failure⟩

end CommandLine
end VideoCapture
