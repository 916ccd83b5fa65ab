import VideoCapture.CommandLine.CaptureRun
/-!
# The log of a command

The records that the log has of a history. Notices are records as they are; opening a device and
calling the consumer of a capture run leave records too.
-/
namespace VideoCapture.CommandLine

/-- What the log has to remember from record to record. -/
structure Journal where
  backend : Kernel.Backend
  /-- Whether it has been told which way calls take. -/
  backendTold : Bool
  collector : Metrics.Collector

namespace Journal

def start (backend : Kernel.Backend) : Journal := ⟨backend,false,.empty⟩

def decision : Kernel.Backend → Record
  | .library => ⟨.debug,"framegrab_sys","Loaded " ++ Kernel.standardLibrary⟩
  | .kernel => ⟨.debug,"framegrab_sys","libv4l2 disabled by " ++ Kernel.libraryVariable⟩

/-- Tells which way calls take, once. -/
def tellBackend (j : Journal) : List Record × Journal :=
  (if j.backendTold then [] else [decision j.backend],{ j with backendTold := true })

def opening (device : Handle) : Record :=
  ⟨.trace,"framegrab::v4l2::system",s!"opened {device.path} as fd {device.number}"⟩

def streaming (info : SessionStart) : Record :=
  let what := s!"{info.device} {info.videoFormat.identifier} {info.format.resolution.text}"
  ⟨.info,captureTarget,
    s!"Streaming {what} at {info.interval.label} fps with {info.buffers} buffers"⟩

def arrival (count : Nat) (frame : Frame) : Record :=
  let time := s!"ts {frame.timestampNanos} ns"
  ⟨.trace,captureTarget,
    s!"Frame {count} seq {frame.sequence} {time}, {frame.planes.length} plane(s)"⟩

def stopping (frames : Nat) : Record :=
  ⟨.info,captureTarget,s!"Capture stopped after {frames} frames"⟩

def step (j : Journal) : Event → List Record × Journal
  | .noticed notice => ([notice.record],j)
  | .opened device =>
    let (records,j) := j.tellBackend
    (records ++ [opening device],j)
  | .refused path _ _ =>
    -- a path with a zero in it never reaches the system
    if path.toList.contains '\x00' then ([],j) else j.tellBackend
  | .started info _ => ([streaming info],j)
  | .delivered frame _ =>
    let (collector,warnings) :=
      j.collector.addFrame frame.timestampNanos frame.sequence frame.bytesUsed.toNat
    (warnings ++ [arrival collector.frames frame],{ j with collector })
  | .stopped frames _ => ([stopping frames],j)
  | .listed _ | .asked _ _ _ | .closed _ | .spawned _ => ([],j)

/-- The records of a history, and what the log remembers of it. -/
def read (j : Journal) : History → List Record × Journal
  | [] => ([],j)
  | event :: events =>
    let (records,j) := j.step event
    let (others,j) := j.read events
    (records ++ others,j)

end Journal
end VideoCapture.CommandLine
