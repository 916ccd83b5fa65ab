import VideoCapture.Act
/-!
# A device with two holders

An open device that its opener keeps and that may also be put into a slot. It is closed when the
last of the two gives it up.
-/
namespace VideoCapture

/-- An open device and who holds it. -/
structure SharedDevice where
  device : Handle
  kept : Bool
  inSlot : Bool
  deriving DecidableEq, Repr

namespace SharedDevice

def new (device : Handle) : SharedDevice := ⟨device,true,false⟩

def holders (s : SharedDevice) : Nat := s.kept.toNat + s.inSlot.toNat

/-- Puts the device into the slot, if its opener still has it. -/
def fill (s : SharedDevice) : SharedDevice := { s with inSlot := s.inSlot || s.kept }

variable {ω : Type} (world : World ω)

/-- Closes the device if the change took its last holder away. -/
def settle (old new : SharedDevice) : Act ω SharedDevice := do
  if old.holders ≠ 0 ∧ new.holders = 0 then world.closeAt new.device
  return new

/-- Empties the slot; false if it was empty. -/
def empty (s : SharedDevice) : Act ω (Bool × SharedDevice) := do
  return (s.inSlot,← settle world s { s with inSlot := false })

def giveUp (s : SharedDevice) : Act ω SharedDevice := settle world s { s with kept := false }

end SharedDevice
end VideoCapture
