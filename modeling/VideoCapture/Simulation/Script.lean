import VideoCapture.Device.Request
import VideoCapture.Text.Utf8
/-!
# Scripted devices

A script says what a device answers: fixed answers, lists of entries, and queues of answers that
are used up one by one while the device is open.
-/
namespace VideoCapture.Simulation

/-- The entries of an enumeration, each of which may be absent or fail. -/
abbrev Entries (α : Type) := List (Except Fault (Option α))

/-- What a device settles on in place of parts of the format asked for. -/
structure FormatOverride where
  width : Option UInt32
  height : Option UInt32
  pixelFormat : Option FourCC
  stride : Option UInt32
  sizeImage : Option UInt32

def FormatOverride.apply (o : FormatOverride) (width height : UInt32) (code : FourCC) :
    AgreedFormat where
  width := o.width.getD width
  height := o.height.getD height
  pixelFormat := o.pixelFormat.getD code
  stride := o.stride.getD 0
  sizeImage := o.sizeImage.getD 0

structure Script where
  openFault : Option Fault
  capability : Except Fault Capability
  formats : Entries FormatDescription
  sizes : Entries (Offer Resolution)
  /-- Sizes for particular pixel formats, in place of `sizes`. -/
  sizesBy : List (FourCC × Entries (Offer Resolution))
  intervals : Entries (Offer Fraction)
  intervalsBy : List ((FourCC × UInt32 × UInt32) × Entries (Offer Fraction))
  setFormat : Except Fault FormatOverride
  /-- The interval to settle on, if it is not the one asked for. -/
  setInterval : Except Fault (Option Fraction)
  requestBuffers : Except Fault (Option UInt32)
  /-- Length and offset of particular buffers where they are not the usual ones. -/
  queryBuffer : List (UInt32 × Except Fault (Option UInt32 × Option UInt32))
  bufferLength : UInt32
  mapFaults : List (UInt32 × Fault)
  unmapFaults : List (UInt32 × Fault)
  queue : List (Except Fault Unit)
  streamOn : Except Fault Unit
  streamOff : Except Fault Unit
  waits : List (Except Fault Bool)
  dequeues : List (Except Fault FilledBuffer)

/-- An entry of an enumeration; there is none past the end. -/
def entryAt {α : Type} (entries : Entries α) (index : UInt32) : Except Fault (Option α) :=
  (entries[index.toNat]?).getD (.ok none)

/-- A device that settles on whatever it is asked for and has no filled buffer to give. -/
def Script.willing : Script where
  openFault := none
  capability := .ok ⟨"","","",Capability.videoCapture,0⟩
  formats := []
  sizes := []
  sizesBy := []
  intervals := []
  intervalsBy := []
  setFormat := .ok ⟨none,none,none,none,none⟩
  setInterval := .ok none
  requestBuffers := .ok none
  queryBuffer := []
  bufferLength := 4096
  mapFaults := []
  unmapFaults := []
  queue := []
  streamOn := .ok ()
  streamOff := .ok ()
  waits := []
  dequeues := []

def next {α : Type} (past : Except Fault α) :
    List (Except Fault α) → Except Fault α × List (Except Fault α)
  | [] => (past,[])
  | answer :: answers => (answer,answers)

/-- The answer to a request that changes nothing. The answers that are used up are dealt with by
    `Script.answer`. -/
def Script.fixedAnswer (s : Script) : (r : Request) → Except Fault r.Reply
  | .capability => s.capability
  | .format index => (entryAt s.formats index).map (·.map fun entry => { entry with index })
  | .frameSize code index => entryAt ((s.sizesBy.lookup code).getD s.sizes) index
  | .frameInterval code width height index =>
    entryAt ((s.intervalsBy.lookup (code,width,height)).getD s.intervals) index
  | .setFormat width height code => s.setFormat.map (·.apply width height code)
  | .setFrameInterval interval => s.setInterval.map (·.getD interval)
  | .requestBuffers count => s.requestBuffers.map (·.getD count)
  | .queryBuffer index =>
    ((s.queryBuffer.lookup index).getD (.ok (none,none))).map fun (length,offset) =>
      ⟨index,length.getD s.bufferLength,offset.getD (index * 4096)⟩
  | .mapBuffer info => answerOf (s.mapFaults.lookup info.index)
  | .unmapBuffer index _ => answerOf (s.unmapFaults.lookup index)
  | .queueBuffer _ => .ok ()
  | .dequeueBuffer => .error (.bare .wouldBlock)
  | .streamOn => s.streamOn
  | .streamOff => s.streamOff
  | .waitReadable _ => .ok false
where
  answerOf : Option Fault → Except Fault Unit
    | some fault => .error fault
    | none => .ok ()

/-- The answer to a request, and the script with one answer less where it used one up. Past the
    end of its queues a device takes buffers, has none to give and lets waits time out. -/
def Script.answer (s : Script) : (r : Request) → Except Fault r.Reply × Script
  | .queueBuffer _ =>
    let (answer,queue) := next (.ok ()) s.queue
    (answer,{ s with queue })
  | .dequeueBuffer =>
    let (answer,dequeues) := next (.error (.bare .wouldBlock)) s.dequeues
    (answer,{ s with dequeues })
  | .waitReadable _ =>
    let (answer,waits) := next (.ok false) s.waits
    (answer,{ s with waits })
  | r => (s.fixedAnswer r,s)

/-! ## Behind the system's own interface

A device that is reached through the system's interface repeats a request that is interrupted,
has no more room for a text than a field of its structures, and ends a list where it answers
that the index is invalid. -/

/-- A text cut to the octets of a field that it need not fill. -/
def cutText (room : Nat) (text : String) : String :=
  String.ofList (Utf8.decodeLossy (((Utf8.encode text.toList).take room).takeWhile (· ≠ 0)))

/-- An enumeration's answer where an invalid index means its end. -/
def endedBy {α : Type} : Except Fault (Option α) → Except Fault (Option α)
  | .error (.system 22) => .ok none
  | answer => answer

/-- The first answer of a queue that is no interruption, with the number of answers used up. -/
def uninterrupted {α : Type} :
    List (Except Fault α) → Nat × Option (Except Fault α) × List (Except Fault α)
  | [] => (0,none,[])
  | .error fault :: answers =>
    if fault.kind = .interrupted then
      let (count,answer,rest) := uninterrupted answers
      (count + 1,answer,rest)
    else (1,some (.error fault),answers)
  | .ok x :: answers => (1,some (.ok x),answers)

/-- The answer through the system's interface, how often the request was made, and the script
    with its used answers taken off. A wait always finds the device ready and is no request; a
    request for a buffer past the end does not count. -/
def Script.systemAnswer (s : Script) : (r : Request) → Except Fault r.Reply × Nat × Script
  | .capability =>
    (s.capability.map fun c => { c with
      driver := cutText 16 c.driver, card := cutText 32 c.card, busInfo := cutText 32 c.busInfo },
      1,s)
  | .format index =>
    (endedBy ((s.fixedAnswer (.format index)).map (·.map fun entry =>
      { entry with description := cutText 32 entry.description })),1,s)
  | .frameSize code index => (endedBy (s.fixedAnswer (.frameSize code index)),1,s)
  | .frameInterval code width height index =>
    (endedBy (s.fixedAnswer (.frameInterval code width height index)),1,s)
  | .queueBuffer _ =>
    match uninterrupted s.queue with
    | (count,some answer,queue) => (answer,count,{ s with queue })
    | (count,none,queue) => (.ok (),count + 1,{ s with queue })
  | .dequeueBuffer =>
    match uninterrupted s.dequeues with
    | (count,some answer,dequeues) => (answer,count,{ s with dequeues })
    | (count,none,dequeues) => (.error (.system Errno.again),count,{ s with dequeues })
  | .waitReadable _ => (.ok true,0,s)
  | r => (s.fixedAnswer r,1,s)

end VideoCapture.Simulation
