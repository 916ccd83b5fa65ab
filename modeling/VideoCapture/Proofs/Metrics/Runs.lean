import Mathlib.Algebra.GroupWithZero.Nat
import VideoCapture.CommandLine.CaptureRun
/-!
# What a collector knows of the frames it took

A run is the list of frames that a collector took, as it takes them (`Shot`). Its totals are said of the whole run:
the intervals between frames and the frames that are missing come of the pairs of neighbours in it. Main statement:
after every run, each field of the collector is the total that it is named for, but the window, which has the latest
intervals only (`Collector.measured_ofShots`).
-/
namespace VideoCapture.Metrics

/-! ### Neighbours -/

/-- The pairs of neighbours in a list, in their order. -/
def neighbours {α : Type} (l : List α) : List (α × α) := l.zip l.tail

theorem neighbours_append_singleton {α : Type} (l : List α) (a : α) :
    neighbours (l ++ [a]) = neighbours l ++ (l.getLast?.map (·,a)).toList := by
  induction l with
  | nil => rfl
  | cons b l ih =>
    cases l with
    | nil => rfl
    | cons c l =>
      rw [List.getLast?_cons_cons]
      exact congrArg ((b,c) :: ·) ih

/-! ### Runs -/

/-- A frame as a collector takes it. -/
structure Shot where
  /-- The time of capture in nanoseconds. -/
  timestamp : UInt64
  /-- The device's count of frames. -/
  sequence : UInt32
  /-- Octets of image data. -/
  bytes : Nat
  deriving DecidableEq, Repr

/-- Takes in a frame; what is told the log is not kept. -/
def Collector.addShot (c : Collector) (shot : Shot) : Collector :=
  (c.addFrame shot.timestamp shot.sequence shot.bytes).1

/-- What has been measured of a run. -/
def Collector.ofShots (shots : List Shot) : Collector := shots.foldl addShot .empty

/-- The time between two frames in whole microseconds; none if the second has the earlier time. -/
def interval? (last next : UInt64) : Option Nat :=
  if last ≤ next then some ((next.toNat - last.toNat) / 1000) else none

/-- The intervals between the frames of a run. -/
def intervals (shots : List Shot) : List Nat :=
  (neighbours (shots.map (·.timestamp))).filterMap fun pair => interval? pair.1 pair.2

/-- The frames that are missing before each frame of a run but the first. -/
def misses (shots : List Shot) : List Nat :=
  (neighbours (shots.map (·.sequence))).map fun pair => Collector.missing pair.1 pair.2

theorem intervals_append_singleton (shots : List Shot) (shot : Shot) :
    intervals (shots ++ [shot]) =
      intervals shots ++ ((shots.getLast?.bind fun last => interval? last.timestamp shot.timestamp).toList) := by
  rw [intervals,List.map_append,List.map_singleton,neighbours_append_singleton,List.filterMap_append,List.getLast?_map]
  cases shots.getLast? with
  | none => rfl
  | some last => cases later : interval? last.timestamp shot.timestamp <;> simp [intervals,later]

theorem misses_append_singleton (shots : List Shot) (shot : Shot) :
    misses (shots ++ [shot]) =
      misses shots ++ ((shots.getLast?.map fun last => Collector.missing last.sequence shot.sequence).toList) := by
  rw [misses,List.map_append,List.map_singleton,neighbours_append_singleton,List.map_append,List.getLast?_map]
  cases shots.getLast? <;> rfl

/-! ### The fields of a collector -/

namespace Collector

/-- The fields that are about intervals come of these ones, the earliest first. -/
structure Timed (intervals : List Nat) (c : Collector) : Prop where
  count : c.intervalCount = intervals.length
  sum : c.intervalSum = min intervals.sum maxCount
  least : c.intervalMin = intervals.foldl min maxCount
  greatest : c.intervalMax = intervals.foldl max 0
  window : c.window = intervals.reverse.take maxSamples

/-- All fields come of the frames of a run. -/
structure Measured (shots : List Shot) (c : Collector) : Prop where
  frames : c.frames = shots.length
  bytes : c.bytes = (shots.map (·.bytes)).sum
  timed : Timed (intervals shots) c
  lastTimestamp : c.lastTimestamp = shots.getLast?.map (·.timestamp)
  lastSequence : c.lastSequence = shots.getLast?.map (·.sequence)
  dropped : c.dropped = (misses shots).sum

/-- The other fields do not matter. -/
theorem Timed.withOthers {intervals : List Nat} {c : Collector} (timed : Timed intervals c) (frames bytes : Nat)
    (lastTimestamp : Option UInt64) (lastSequence : Option UInt32) (dropped : Nat) :
    Timed intervals { c with frames, bytes, lastTimestamp, lastSequence, dropped } :=
  ⟨timed.count,timed.sum,timed.least,timed.greatest,timed.window⟩

theorem take_cons_take {α : Type} (n : Nat) (a : α) (l : List α) : (a :: l.take n).take n = (a :: l).take n := by
  cases n with
  | zero => rfl
  | succ n => rw [List.take_succ_cons,List.take_succ_cons,List.take_take,Nat.min_eq_left (Nat.le_succ n)]

/-- An interval goes into all fields, and out of the window goes the earliest one if it was full. -/
theorem Timed.addInterval {intervals : List Nat} {c : Collector} (timed : Timed intervals c) (interval : Nat) :
    Timed (intervals ++ [interval]) (c.addInterval interval) where
  count := by simp [Collector.addInterval,timed.count]
  sum := by
    simp only [Collector.addInterval,timed.sum,List.sum_append,List.sum_singleton]
    omega
  least := by simp [Collector.addInterval,timed.least]
  greatest := by simp [Collector.addInterval,timed.greatest]
  window := by
    have all : (intervals ++ [interval]).reverse = interval :: intervals.reverse := List.reverse_concat
    rw [Collector.addInterval,timed.window,timed.count,all,take_cons_take]
    split
    · rename_i room
      have short : intervals.reverse.length < maxSamples := by rwa [List.length_reverse]
      rw [List.take_of_length_le (Nat.le_of_lt short),List.take_of_length_le (Nat.succ_le_of_lt short)]
    · rfl

theorem addTimestamp_timed {intervals : List Nat} {c : Collector} (timed : Timed intervals c) (timestamp : UInt64) :
    Timed (intervals ++ (c.lastTimestamp.bind (interval? · timestamp)).toList) (c.addTimestamp timestamp).1 := by
  unfold addTimestamp
  cases c.lastTimestamp with
  | none =>
    rw [Option.bind_none,Option.toList_none,List.append_nil]
    exact timed.withOthers _ _ _ _ _
  | some last =>
    rw [Option.bind_some,interval?]
    by_cases later : last ≤ timestamp
    · have gap : (timestamp - last).toNat = timestamp.toNat - last.toNat := UInt64.toNat_sub_of_le _ _ later
      simp only [later,↓reduceIte,Option.toList_some,← gap]
      exact (timed.addInterval _).withOthers _ _ _ _ _
    · simp only [later,↓reduceIte,Option.toList_none,List.append_nil]
      exact timed.withOthers _ _ _ _ _

/-- Nothing but the intervals and the time depends on the time of a frame. -/
theorem addTimestamp_others (c : Collector) (timestamp : UInt64) :
    let next := (c.addTimestamp timestamp).1
    next.lastTimestamp = some timestamp ∧ next.frames = c.frames ∧ next.bytes = c.bytes ∧
      next.lastSequence = c.lastSequence ∧ next.dropped = c.dropped := by
  unfold addTimestamp
  cases c.lastTimestamp with
  | none => exact ⟨rfl,rfl,rfl,rfl,rfl⟩
  | some last => by_cases later : last ≤ timestamp <;> simp [later,addInterval]

theorem addSequence_eq (c : Collector) (sequence : UInt32) :
    (c.addSequence sequence).1 = { c with
      dropped := c.dropped + ((c.lastSequence.map (missing · sequence)).toList).sum
      lastSequence := some sequence } := by
  unfold addSequence
  cases c.lastSequence with
  | none => rfl
  | some last => simp

theorem measured_empty : Measured [] empty where
  frames := rfl
  bytes := rfl
  timed := ⟨rfl,rfl,rfl,rfl,rfl⟩
  lastTimestamp := rfl
  lastSequence := rfl
  dropped := rfl

/-- A frame that is taken makes the run longer by one. -/
theorem Measured.addShot {shots : List Shot} {c : Collector} (measured : Measured shots c) (shot : Shot) :
    Measured (shots ++ [shot]) (c.addShot shot) := by
  let counted : Collector := { c with frames := c.frames + 1, bytes := c.bytes + shot.bytes }
  have timed := addTimestamp_timed (c := counted) (measured.timed.withOthers _ _ _ _ _) shot.timestamp
  obtain ⟨time,frames,bytes,sequence,dropped⟩ := counted.addTimestamp_others shot.timestamp
  have stepped : c.addShot shot = ((counted.addTimestamp shot.timestamp).1.addSequence shot.sequence).1 := rfl
  rw [stepped,addSequence_eq]
  constructor
  · rw [frames,List.length_append,← measured.frames]
    rfl
  · rw [bytes,List.map_append,List.sum_append,← measured.bytes]
    rfl
  · have last : counted.lastTimestamp = shots.getLast?.map (·.timestamp) := measured.lastTimestamp
    rw [intervals_append_singleton]
    rw [last,Option.bind_map] at timed
    exact timed.withOthers _ _ _ _ _
  · rw [time,List.getLast?_concat]
    rfl
  · rw [List.getLast?_concat]
    rfl
  · have last : counted.lastSequence = shots.getLast?.map (·.sequence) := measured.lastSequence
    rw [misses_append_singleton,List.sum_append,← measured.dropped,sequence,dropped,last,Option.map_map]
    rfl

theorem Measured.addShots {shots : List Shot} {c : Collector} (measured : Measured shots c) (more : List Shot) :
    Measured (shots ++ more) (more.foldl Collector.addShot c) := by
  induction more generalizing shots c with
  | nil => rwa [List.append_nil]
  | cons shot more ih =>
    rw [List.append_cons]
    exact ih (measured.addShot shot)

/-- What has been measured of a run are its totals. -/
theorem measured_ofShots (shots : List Shot) : Measured shots (ofShots shots) := measured_empty.addShots shots

/-! ### The frames of a history -/

/-- The frames that were delivered in a history. -/
def shotsOf (history : History) : List Shot :=
  history.filterMap fun event =>
    match event with
    | .delivered frame _ => some ⟨frame.timestampNanos,frame.sequence,frame.bytesUsed.toNat⟩
    | _ => none

theorem ofHistory_eq (history : History) : ofHistory history = ofShots (shotsOf history) := by
  rw [ofShots,shotsOf,List.foldl_filterMap,ofHistory]
  congr 1
  funext c event
  cases event <;> rfl

end Collector
end VideoCapture.Metrics
