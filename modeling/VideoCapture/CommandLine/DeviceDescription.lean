import VideoCapture.CommandLine.Surroundings
import VideoCapture.Json.Access
import VideoCapture.Selection.Offers
import VideoCapture.Text.Quoted
/-!
# The description of a device

The command that shows what one device is and offers: its formats, on demand with the sizes of
each and the frame rates of those.
-/
namespace VideoCapture.CommandLine

structure DescribedSize where
  size : Resolution
  framerates : List String
  deriving DecidableEq, Repr, Inhabited

structure DescribedFormat where
  code : FourCC
  label : String
  sizes : List DescribedSize
  deriving DecidableEq, Repr, Inhabited

structure DeviceDescription where
  device : String
  capability : Capability
  formats : List DescribedFormat
  deriving DecidableEq, Repr, Inhabited

def DescribedSize.toJson (d : DescribedSize) : Json.Value :=
  .object [("width",.word d.size.width),("height",.word d.size.height),
    ("framerates",.list (d.framerates.map .str))]

/-- The JSON form of a format; sizes are left out where there are none. -/
def DescribedFormat.toJson (d : DescribedFormat) : Json.Value :=
  .object ([("fourcc",.str d.code.text),("description",.str d.label)] ++
    if d.sizes.isEmpty then [] else [("resolutions",.list (d.sizes.map DescribedSize.toJson))])

def DescribedFormat.lines (d : DescribedFormat) : List String :=
  s!"  {d.code.text} - {d.label}" :: d.sizes.map fun size =>
    s!"    {size.size.text} @ " ++ ", ".intercalate size.framerates

namespace DeviceDescription

def toJson (backend : Kernel.Backend) (d : DeviceDescription) : Json.Value :=
  .object [
    ("version",.str programVersion),
    ("backend",.str backend.name),
    ("device",.str d.device),
    ("card",.str d.capability.card),
    ("driver",.str d.capability.driver),
    ("bus",.str d.capability.busInfo),
    ("formats",.list (d.formats.map DescribedFormat.toJson))]

def lines (backend : Kernel.Backend) (d : DeviceDescription) : List String :=
  [s!"=== {d.device} ===",
    s!"Card:     {d.capability.card}",
    s!"Driver:   {d.capability.driver}",
    s!"Bus:      {d.capability.busInfo}",
    s!"Backend:  {backend.name}",
    s!"Version:  {programVersion}",
    ""] ++
  if d.formats.isEmpty then ["No supported formats"]
  else "Formats:" :: d.formats.flatMap DescribedFormat.lines

end DeviceDescription

variable {ω : Type} (s : Surroundings ω)

def describeSizes (device : Handle) (code : FourCC) :
    List (Choice UInt32) → Act ω (List DescribedSize)
  | [] => return []
  | choice :: choices => do
    let (width,height) := unpack choice.value
    let framerates ← s.world.framerates device code width height
    let others ← describeSizes device code choices
    return ⟨⟨width,height⟩,framerates.map Choice.label⟩ :: others

/-- The formats of a device, with sizes unless only formats are wanted. -/
def describeFormats (device : Handle) (formatsOnly : Bool) :
    List (Choice FourCC) → Act ω (List DescribedFormat)
  | [] => return []
  | choice :: choices => do
    let sizes ←
      if formatsOnly then pure []
      else do describeSizes s device choice.value (← s.world.resolutions device choice.value)
    let others ← describeFormats device formatsOnly choices
    return ⟨choice.value,choice.label,sizes⟩ :: others

def describeOpen (path : String) (formatsOnly : Bool) (device : Handle) :
    Act ω (Except Failure DeviceDescription) := do
  match ← s.world.request device .capability with
  | .error fault => return .error (.system fault)
  | .ok capability =>
    if capability.isCapture then do
      let formats ← describeFormats s device formatsOnly (← s.world.formats device)
      return .ok ⟨path,capability,formats⟩
    else return .error (.deviceUnfit path)

/-- The device to describe: the one that is named, or the first there is. -/
def deviceToDescribe : Option String → Act ω (Except Failure String)
  | some path => return .ok path
  | none => do
    let (_,settings) ← s.world.captureDevicesFor .empty
    let path := settings.getText Settings.deviceKey
    return if path = "" then .error .noDevice else .ok path

def InfoArguments.diagnostic (a : InfoArguments) : String :=
  "Args \x7b device: " ++ Text.quotedIfAny a.device ++ ", formats_only: " ++
    toString a.formatsOnly ++ " \x7d"

def describeDevice (a : InfoArguments) (json : Bool) : Act ω Report := do
  remark .debug "framegrab::info" ("Executing info command: " ++ a.diagnostic)
  match ← deviceToDescribe s a.device with
  | .error failure => return .failed failure
  | .ok path =>
    match ← s.world.usingDevice path (describeOpen s path a.formatsOnly) with
    | .error fault => return .failed (.deviceNotOpened path fault)
    | .ok (.error failure) => return .failed failure
    | .ok (.ok info) =>
      return .success (if json then jsonLines (info.toJson s.backend) else info.lines s.backend)

end VideoCapture.CommandLine
