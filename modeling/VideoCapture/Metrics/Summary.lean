import VideoCapture.Decimal.Fixed
import VideoCapture.Json.Value
import VideoCapture.Metrics.Collector
/-!
# The summary of a capture

What a collector measured, with averages and percentiles, and its report as text and as JSON.
-/
namespace VideoCapture.Metrics

/-- What was measured, intervals in microseconds. -/
structure Summary where
  frames : Nat
  bytes : Nat
  intervalMin : Nat
  intervalMax : Nat
  intervalAverage : Nat
  interval50 : Nat
  interval95 : Nat
  interval99 : Nat
  dropped : Nat
  deriving DecidableEq, Repr, Inhabited

/-- The place of a percentile among so many sorted values, counted from zero. -/
def rank (percent : Float) (count : Nat) : Nat :=
  (percent / 100 * (UInt64.ofNat (count - 1)).toFloat).round.toUInt64.toNat

/-- A percentile of sorted values; zero if there are none. -/
def percentile (percent : Float) (sorted : List Nat) : Nat :=
  (sorted[min (rank percent sorted.length) (sorted.length - 1)]?).getD 0

def Collector.summary (c : Collector) : Summary :=
  let sorted := c.window.mergeSort (· ≤ ·)
  { frames := c.frames
    bytes := c.bytes
    intervalMin := if c.intervalCount = 0 then 0 else c.intervalMin
    intervalMax := if c.intervalCount = 0 then 0 else c.intervalMax
    intervalAverage := c.intervalSum / c.intervalCount
    interval50 := percentile 50 sorted
    interval95 := percentile 95 sorted
    interval99 := percentile 99 sorted
    dropped := c.dropped }

namespace Summary

def float (n : Nat) : Float := (UInt64.ofNat n).toFloat

def lines (m : Summary) : List String :=
  let megabytes := Decimal.fixed 2 (float m.bytes / 1048576)
  let share := Decimal.fixed 2 (float m.dropped / float (m.frames + m.dropped) * 100)
  ["","=== Capture Metrics ===",
    s!"Frames captured:   {m.frames}",
    s!"Bytes captured:    {m.bytes} ({megabytes} MB)"] ++
  (if 1 < m.frames then
    ["","Frame Interval (µs):",
      s!"  Min:    {m.intervalMin}",
      s!"  Max:    {m.intervalMax}",
      s!"  Avg:    {m.intervalAverage}",
      s!"  P50:    {m.interval50}",
      s!"  P95:    {m.interval95}",
      s!"  P99:    {m.interval99}"]
  else []) ++
  (if 0 < m.dropped then ["",s!"Dropped frames:    {m.dropped} ({share}%)"] else [])

def toJson (m : Summary) : Json.Value :=
  .object [
    ("frames_processed",.nat m.frames),
    ("bytes_processed",.nat m.bytes),
    ("interval_min_us",.nat m.intervalMin),
    ("interval_max_us",.nat m.intervalMax),
    ("interval_avg_us",.nat m.intervalAverage),
    ("interval_p50_us",.nat m.interval50),
    ("interval_p95_us",.nat m.interval95),
    ("interval_p99_us",.nat m.interval99),
    ("dropped_frames",.nat m.dropped)]

end Summary
end VideoCapture.Metrics
