import VideoCapture.Selection.Devices
/-!
# What a device offers

The pixel formats, frame sizes and frame intervals of an open device as choices. Devices list
their entries by index up to the first one that is absent. A device that does not list sizes or
intervals one by one gets a fixed list.
-/
namespace VideoCapture

/-- Sizes for devices that only report a range. -/
def fallbackResolutions : List Resolution := [
  ⟨160,120⟩,⟨320,240⟩,⟨480,320⟩,⟨640,480⟩,⟨800,600⟩,⟨1024,768⟩,⟨1280,960⟩,
  ⟨1440,1050⟩,⟨1440,1080⟩,⟨1600,1200⟩,⟨640,360⟩,⟨960,540⟩,⟨1280,720⟩,⟨1600,900⟩,
  ⟨1920,1080⟩,⟨1920,1200⟩,⟨432,520⟩,⟨480,320⟩,⟨480,530⟩,⟨486,440⟩,⟨576,310⟩,
  ⟨576,520⟩,⟨576,570⟩,⟨720,576⟩,⟨1024,576⟩]

def fallbackIntervals : List Fraction :=
  [⟨1,60⟩,⟨1,50⟩,⟨1,30⟩,⟨1,25⟩,⟨1,20⟩,⟨1,15⟩,⟨1,10⟩,⟨1,5⟩]

def Resolution.choice (r : Resolution) : Choice UInt32 := ⟨r.text,pack r.width r.height⟩

/-- A frame interval as a choice, its terms packed and labelled with frames per second. -/
def Fraction.choice (f : Fraction) : Choice UInt32 := ⟨f.label,pack f.numerator f.denominator⟩

/-- The label of a pixel format, which says whether the format is converted in software. -/
def FormatDescription.label (d : FormatDescription) : String :=
  if d.isEmulated then d.description ++ " (Emulated)" else d.description

namespace World

variable {ω : Type} (world : World ω) (device : Handle)

/-- One more than the greatest index of a list of entries. -/
def indexBound : Nat := UInt32.size

/-- The deliverable formats among `count` entries from an index on. -/
def formatsFrom : Nat → UInt32 → Act ω (List (Choice FourCC))
  | 0, _ => return []
  | count + 1, index => do
    match ← world.request device (.format index) with
    | .ok (some entry) =>
      match VideoFormat.ofFourCC? entry.pixelFormat with
      | some _ =>
        let others ← formatsFrom count (index + 1)
        return ⟨entry.label,entry.pixelFormat⟩ :: others
      | none =>
        Act.notice (.formatUnavailable entry.label entry.pixelFormat)
        formatsFrom count (index + 1)
    | .ok none => return []
    | .error fault =>
      Act.notice (.formatsStopped index fault)
      return []

def formats : Act ω (List (Choice FourCC)) := world.formatsFrom device indexBound 0

/-- The single values among `count` entries from an index on; ranges are passed over. -/
def discreteFrom {α : Type} (entry : UInt32 → Act ω (Except Fault (Option (Offer α))))
    (choice : α → Choice UInt32) (cut : UInt32 → Fault → Notice) :
    Nat → UInt32 → Act ω (List (Choice UInt32))
  | 0, _ => return []
  | count + 1, index => do
    match ← entry index with
    | .ok (some (.discrete value)) =>
      let others ← discreteFrom entry choice cut count (index + 1)
      return choice value :: others
    | .ok (some _) => discreteFrom entry choice cut count (index + 1)
    | .ok none => return []
    | .error fault =>
      Act.notice (cut index fault)
      return []

def resolutions (code : FourCC) : Act ω (List (Choice UInt32)) := do
  let entry (index : UInt32) := world.request device (.frameSize code index)
  match ← entry 0 with
  | .ok (some (.discrete _)) =>
    discreteFrom entry Resolution.choice .sizesStopped indexBound 0
  | .ok _ => fallback
  | .error fault =>
    Act.notice (.sizeQueryFailed fault)
    fallback
where
  /-- The fixed list. -/
  fallback : Act ω (List (Choice UInt32)) := do
    Act.notice .sizesFixed
    return fallbackResolutions.map Resolution.choice

def framerates (code : FourCC) (width height : UInt32) : Act ω (List (Choice UInt32)) := do
  let entry (index : UInt32) := world.request device (.frameInterval code width height index)
  match ← entry 0 with
  | .ok (some (.discrete _)) =>
    discreteFrom entry Fraction.choice .intervalsStopped indexBound 0
  | .ok _ => fallback
  | .error fault =>
    Act.notice (.intervalQueryFailed fault)
    fallback
where
  fallback : Act ω (List (Choice UInt32)) := do
    Act.notice .intervalsFixed
    return fallbackIntervals.map Fraction.choice

end World
end VideoCapture
