import VideoCapture.Act
import VideoCapture.Settings.Config
/-!
# The capture devices there are

Every candidate is opened, asked what it is and closed again. A candidate that fails never hides
a later one.
-/
namespace VideoCapture

/-- Something to choose: a label for people and the value that is stored. -/
structure Choice (α : Type) where
  label : String
  value : α
  deriving DecidableEq, Repr, Inhabited

namespace World

variable {ω : Type} (world : World ω)

/-- Looks at a candidate. It is a choice if it opens and captures video. -/
def probe (path : String) : Act ω (Option (Choice String)) := do
  match ← world.openAt path .probe with
  | .error fault =>
    Act.notice (.candidateNotOpened path fault)
    return none
  | .ok device =>
    let answer ← world.request device .capability
    let choice ← judge answer
    world.closeAt device
    return choice
where
  /-- Whether a device with this answer is a choice. -/
  judge : Except Fault Capability → Act ω (Option (Choice String))
    | .ok capability =>
      if capability.isCapture then do
        Act.notice (.candidateFound capability.card path)
        return some ⟨capability.card,path⟩
      else do
        Act.notice (.candidateUnfit path)
        return none
    | .error fault => do
      Act.notice (.candidateUnknown path fault)
      return none

def probeAll : List String → Act ω (List (Choice String))
  | [] => return []
  | path :: paths => do
    let found ← world.probe path
    let others ← probeAll paths
    return found.toList ++ others

/-- The capture devices in the order of their candidates; none where the candidates cannot be
    listed. -/
def captureDevices : Act ω (List (Choice String)) := do
  match ← world.list with
  | .error fault =>
    Act.notice (.scanFailed fault)
    return []
  | .ok paths => world.probeAll paths

/-- The settings with a device: if they name none, the first choice becomes the device. -/
def adopt (settings : Settings) : List (Choice String) → Act ω Settings
  | first :: _ =>
    if settings.getText Settings.deviceKey = "" then do
      Act.notice (.defaultDevice first.value)
      return settings.setText Settings.deviceKey first.value
    else return settings
  | [] => return settings

def captureDevicesFor (settings : Settings) : Act ω (List (Choice String) × Settings) := do
  let choices ← world.captureDevices
  return (choices,← adopt settings choices)

/-- Opens a device, does something with it and closes it again. -/
def usingDevice {α : Type} (path : String) (act : Handle → Act ω α) : Act ω (Except Fault α) := do
  match ← world.openAt path .probe with
  | .error fault => return .error fault
  | .ok device =>
    let value ← act device
    world.closeAt device
    return .ok value

end World
end VideoCapture
