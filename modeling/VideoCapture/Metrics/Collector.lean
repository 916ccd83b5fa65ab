import VideoCapture.Notice
/-!
# Measuring a capture

A collector takes one frame after the other and keeps running totals: frames, octets, the times
between frames and the frames that the device dropped. Only the latest intervals are kept for the
percentiles.
-/
namespace VideoCapture.Metrics

/-- The number of intervals kept for percentiles. -/
def maxSamples : Nat := 8192

def maxCount : Nat := UInt64.size - 1

/-- What has been measured so far. Times between frames are in microseconds. -/
structure Collector where
  frames : Nat
  bytes : Nat
  /-- The latest intervals, the very latest first. -/
  window : List Nat
  intervalCount : Nat
  /-- The sum of all intervals, at most `maxCount`. -/
  intervalSum : Nat
  /-- The least interval; `maxCount` before the first. -/
  intervalMin : Nat
  intervalMax : Nat
  lastTimestamp : Option UInt64
  lastSequence : Option UInt32
  dropped : Nat
  deriving DecidableEq, Repr

namespace Collector

def empty : Collector where
  frames := 0
  bytes := 0
  window := []
  intervalCount := 0
  intervalSum := 0
  intervalMin := maxCount
  intervalMax := 0
  lastTimestamp := none
  lastSequence := none
  dropped := 0

instance : Inhabited Collector := ⟨empty⟩

def warning (text : String) : Record := ⟨.warn,"framegrab::metrics",text⟩

def addInterval (c : Collector) (interval : Nat) : Collector :=
  { c with
    intervalCount := c.intervalCount + 1
    intervalSum := min (c.intervalSum + interval) maxCount
    intervalMin := min c.intervalMin interval
    intervalMax := max c.intervalMax interval
    window :=
      if c.intervalCount < maxSamples then interval :: c.window
      else (interval :: c.window).take maxSamples }

/-- Takes in a time of capture in nanoseconds. A step backwards is no interval. -/
def addTimestamp (c : Collector) (timestamp : UInt64) : Collector × List Record :=
  let (c,warnings) := match c.lastTimestamp with
    | none => (c,[])
    | some last =>
      if last ≤ timestamp then (c.addInterval ((timestamp - last).toNat / 1000),[])
      else (c,[warning s!"Frame timestamp went backwards: {last} -> {timestamp}"])
  ({ c with lastTimestamp := some timestamp },warnings)

/-- The frames that are missing between two counts of the device; none if the count fell. The
    count after the greatest is zero. -/
def missing (last sequence : UInt32) : Nat :=
  if last + 1 < sequence then (sequence - (last + 1)).toNat else 0

def addSequence (c : Collector) (sequence : UInt32) : Collector × List Record :=
  let (missed,warnings) := match c.lastSequence with
    | none => (0,[])
    | some last =>
      (missing last sequence,
        if sequence < last + 1 then
          [warning s!"Frame sequence number decreased: {last} -> {sequence}"]
        else [])
  ({ c with dropped := c.dropped + missed, lastSequence := some sequence },warnings)

def addFrame (c : Collector) (timestamp : UInt64) (sequence : UInt32) (bytes : Nat) :
    Collector × List Record :=
  let c := { c with frames := c.frames + 1, bytes := c.bytes + bytes }
  let (c,first) := c.addTimestamp timestamp
  let (c,second) := c.addSequence sequence
  (c,first ++ second)

end Collector
end VideoCapture.Metrics
