import VideoCapture.CommandLine.Surroundings
import VideoCapture.Selection.Devices
/-!
# The list of capture devices

The command that lists the devices there are, on demand with driver and bus of each.
-/
namespace VideoCapture.CommandLine

structure ListedDevice where
  path : String
  card : String
  details : Option (String × String)
  deriving DecidableEq, Repr, Inhabited

namespace ListedDevice

def toJson (d : ListedDevice) : Json.Value :=
  .object ([("path",.str d.path),("card",.str d.card)] ++
    match d.details with
    | some (driver,bus) => [("driver",.str driver),("bus",.str bus)]
    | none => [])

def pathWidth : Nat := 14

def filled (text : String) : String := String.ofList (text.toList.rightpad pathWidth ' ')

def lines (d : ListedDevice) : List String :=
  let blank := filled ""
  let path := filled d.path
  s!"  {path} {d.card}" ::
    match d.details with
    | some (driver,bus) => [s!"  {blank} driver: {driver}, bus: {bus}"]
    | none => []

end ListedDevice

def deviceLines (backend : Kernel.Backend) (devices : List ListedDevice) : List String :=
  if devices.isEmpty then ["No capture devices found"]
  else
    "=== Capture Devices ===" :: devices.flatMap ListedDevice.lines ++
      ["",s!"Total: {devices.length} device(s), backend: {backend.name}"]

def devicesToJson (backend : Kernel.Backend) (devices : List ListedDevice) : Json.Value :=
  .object [
    ("devices",.list (devices.map ListedDevice.toJson)),
    ("summary",.object [
      ("total_devices",.nat devices.length),
      ("backend",.str backend.name)])]

variable {ω : Type} (s : Surroundings ω)

/-- Opens a device once more and asks for its driver and bus. -/
def queryDetails (path : String) : Act ω (Option (String × String)) := do
  let capability ← s.world.usingDevice path fun device => s.world.request device .capability
  match capability >>= id with
  | .ok capability => return some (capability.driver,capability.busInfo)
  | .error fault =>
    remark .warn "framegrab::devices" s!"Failed to query {path}: {fault.message}"
    return none

def listAll (detailed : Bool) : List (Choice String) → Act ω (List ListedDevice)
  | [] => return []
  | choice :: choices => do
    let details ← if detailed then queryDetails s choice.value else pure none
    let others ← listAll detailed choices
    return ⟨choice.value,choice.label,details⟩ :: others

def listDevices (detailed json : Bool) : Act ω Report := do
  remark .debug "framegrab::devices"
    ("Executing devices command: Args \x7b verbose: " ++ toString detailed ++ " \x7d")
  let devices ← listAll s detailed (← s.world.captureDevices)
  return .success
    (if json then jsonLines (devicesToJson s.backend devices) else deviceLines s.backend devices)

end VideoCapture.CommandLine
