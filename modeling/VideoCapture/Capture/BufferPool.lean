import VideoCapture.Act
/-!
# The buffer pool of a session

The buffers that a device grants, mapped into memory all together or not at all. Unmapping never
fails and can be repeated; contents are there only while a buffer is mapped.
-/
namespace VideoCapture

structure Slot where
  info : BufferPlace
  isMapped : Bool
  deriving DecidableEq, Repr, Inhabited

structure BufferPool where
  device : Handle
  slots : List Slot
  deriving DecidableEq, Repr, Inhabited

namespace BufferPool

def preferredCount : UInt32 := 4

/-- The least number of buffers: one to fill while another is delivered. -/
def leastCount : UInt32 := 2

def length (pool : BufferPool) : Nat := pool.slots.length

def isEmpty (pool : BufferPool) : Bool := pool.slots.isEmpty

def mapped (pool : BufferPool) : Nat := pool.slots.countP (·.isMapped)

def mapping? (pool : BufferPool) (index : Nat) : Option BufferPlace :=
  match pool.slots[index]? with
  | some slot => if slot.isMapped then some slot.info else none
  | none => none

variable {ω : Type} (world : World ω)

def contents? (pool : BufferPool) (index : Nat) (s : ω) : Option (List UInt8) :=
  (pool.mapping? index).map fun info => world.contents pool.device info s

/-- Unmaps buffers from a position on, each once. -/
def unmapFrom (device : Handle) : Nat → List Slot → Act ω Unit
  | _, [] => return ()
  | position, slot :: slots => do
    if slot.isMapped then
      match ← world.request device (.unmapBuffer slot.info.index slot.info.length) with
      | .ok () => pure ()
      | .error fault => Act.notice (.unmapFailed position fault)
    unmapFrom device (position + 1) slots

/-- Unmaps every buffer that is still mapped. A buffer that the device fails to unmap counts as
    unmapped all the same. -/
def unmap (pool : BufferPool) : Act ω BufferPool := do
  unmapFrom world pool.device 0 pool.slots
  return { pool with slots := pool.slots.map fun slot => { slot with isMapped := false } }

def mapSlot (device : Handle) (index : UInt32) : Act ω (Except EngineError BufferPlace) := do
  match ← world.request device (.queryBuffer index) with
  | .error fault => return .error (.mapping index fault)
  | .ok info =>
    match ← world.request device (.mapBuffer info) with
    | .error fault => return .error (.mapping index fault)
    | .ok () => return .ok info

/-- Maps so many more buffers into a pool. If one fails, all are unmapped. -/
def mapMore : Nat → BufferPool → Act ω (Except EngineError BufferPool)
  | 0, pool => return .ok pool
  | count + 1, pool => do
    match ← mapSlot world pool.device (UInt32.ofNat pool.length) with
    | .ok info => mapMore count { pool with slots := pool.slots ++ [⟨info,true⟩] }
    | .error error =>
      Act.notice (.mappingFailed error)
      let _ ← pool.unmap world
      return .error error

/-- Asks a device for buffers and maps all that it grants. -/
def map (device : Handle) : Act ω (Except EngineError BufferPool) := do
  match ← world.request device (.requestBuffers preferredCount) with
  | .error fault => return .error (.requestBuffers fault)
  | .ok granted =>
    if granted < leastCount then
      Act.notice (.tooFewBuffers leastCount.toNat)
      return .error (.tooFewBuffers granted)
    else
      match ← mapMore world granted.toNat ⟨device,[]⟩ with
      | .error error => return .error error
      | .ok pool =>
        Act.notice (.buffersMapped pool.length)
        return .ok pool

end BufferPool
end VideoCapture
