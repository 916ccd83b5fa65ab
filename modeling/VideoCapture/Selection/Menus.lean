import VideoCapture.Json.Value
import VideoCapture.Selection.Offers
/-!
# The lists of a settings dialogue

Four lists of choices, each depending on what was chosen in the one before. Choosing in a list
rebuilds the next one from the device that the settings name.
-/
namespace VideoCapture

structure ChoiceList (α : Type) where
  key : String
  choices : List (Choice α)
  deriving DecidableEq, Repr

namespace ChoiceList

variable {α : Type}

def length (l : ChoiceList α) : Nat := l.choices.length

def isEmpty (l : ChoiceList α) : Bool := l.choices.isEmpty

def contains [DecidableEq α] (l : ChoiceList α) (v : α) : Bool := l.choices.any (·.value = v)

def clear (l : ChoiceList α) : ChoiceList α := { l with choices := [] }

def toJson (value : α → Json.Value) (l : ChoiceList α) : Json.Value :=
  .object [
    ("name",.str l.key),
    ("items",.list (l.choices.map fun c =>
      .object [("label",.str c.label),("value",value c.value)]))]

end ChoiceList

structure Menus where
  devices : ChoiceList String
  formats : ChoiceList FourCC
  resolutions : ChoiceList UInt32
  framerates : ChoiceList UInt32
  deriving DecidableEq, Repr

namespace Menus

def toJson (p : Menus) : Json.Value :=
  .object [
    ("devices",p.devices.toJson .str),
    ("formats",p.formats.toJson fun code => .nat code.value.toNat),
    ("resolutions",p.resolutions.toJson fun n => .nat n.toNat),
    ("framerates",p.framerates.toJson fun n => .nat n.toNat)]

variable {ω : Type} (world : World ω)

/-- The devices there are; the other lists are empty. -/
def new : Act ω Menus := do
  let devices ← world.captureDevices
  return {
    devices := ⟨Settings.deviceKey,devices⟩
    formats := ⟨Settings.formatKey,[]⟩
    resolutions := ⟨Settings.resolutionKey,[]⟩
    framerates := ⟨Settings.framerateKey,[]⟩ }

/-- What the chosen device offers, or nothing and a notice if it does not open. -/
def offered {α : Type} (settings : Settings) (offers : Handle → Act ω (List (Choice α))) :
    Act ω (Option (List (Choice α))) := do
  let path := settings.getText Settings.deviceKey
  match ← world.usingDevice path offers with
  | .ok choices => return some choices
  | .error fault =>
    Act.notice (.selectionNotOpened path fault)
    return none

/-- Rebuilds the formats for the chosen device; false if it does not open. -/
def followDevice (p : Menus) (settings : Settings) : Act ω (Bool × Menus) := do
  let choices ← offered world settings world.formats
  return (choices.isSome,{ p with formats.choices := choices.getD [] })

def followFormat (p : Menus) (settings : Settings) : Act ω (Bool × Menus) := do
  let config := Configuration.ofSettings settings
  let choices ← offered world settings fun device => world.resolutions device config.format
  return (choices.isSome,{ p with resolutions.choices := choices.getD [] })

def followResolution (p : Menus) (settings : Settings) : Act ω (Bool × Menus) := do
  let config := Configuration.ofSettings settings
  let size := config.resolution
  let choices ← offered world settings fun device =>
    world.framerates device config.format size.width size.height
  return (choices.isSome,{ p with framerates.choices := choices.getD [] })

/-- All lists for the present choices. If the device does not open, only the devices. -/
def build (settings : Settings) : Act ω Menus := do
  let (opened,p) ← followDevice world (← new world) settings
  if opened then
    let (_,p) ← followFormat world p settings
    let (_,p) ← followResolution world p settings
    return p
  else return p

end Menus
end VideoCapture
