import VideoCapture.Metrics.Summary
import VideoCapture.Proofs.Metrics.Drops
/-!
# What a summary says of a run

A summary has totals of the whole run beside percentiles of the latest intervals. Main statement: the summary of every
run, and of every capture, says what `Summary.Reports` asks of it (`Collector.summary_reports`).
-/
namespace VideoCapture.Metrics

/-- The latest of some intervals: all of them, or as many as are kept for percentiles. -/
def latest (intervals : List Nat) : List Nat := intervals.drop (intervals.length - maxSamples)

/-- What a summary says of a run. -/
structure Summary.Reports (shots : List Shot) (m : Summary) : Prop where
  frames : m.frames = shots.length
  bytes : m.bytes = (shots.map (·.bytes)).sum
  /-- The least and the greatest of all intervals. -/
  extremes : intervals shots ≠ [] → m.intervalMin ∈ intervals shots ∧ m.intervalMax ∈ intervals shots ∧
    ∀ interval ∈ intervals shots, m.intervalMin ≤ interval ∧ interval ≤ m.intervalMax
  /-- Of the sum of all intervals, but no more than 64 bits have room for. -/
  average : m.intervalAverage = min (intervals shots).sum maxCount / (intervals shots).length
  /-- Each percentile is one of the latest intervals. -/
  percentiles : intervals shots ≠ [] → ∀ percentile ∈ [m.interval50,m.interval95,m.interval99],
    percentile ∈ latest (intervals shots) ∧ m.intervalMin ≤ percentile ∧ percentile ≤ m.intervalMax
  noIntervals : intervals shots = [] → m.intervalMin = 0 ∧ m.intervalMax = 0 ∧ m.intervalAverage = 0 ∧
    m.interval50 = 0 ∧ m.interval95 = 0 ∧ m.interval99 = 0
  /-- If the device's counts rise from frame to frame, the frames and the dropped ones are all from the first count to
      the last. -/
  dropped : let counts := shots.map (·.sequence)
    counts.Pairwise (· < ·) → ∀ first last, counts.head? = some first → counts.getLast? = some last →
      m.frames + m.dropped = last.toNat - first.toNat + 1

/-! ### Extremes and percentiles -/

theorem interval?_le {last next : UInt64} {interval : Nat} (is : interval? last next = some interval) :
    interval ≤ maxCount := by
  rw [interval?,Option.ite_none_right_eq_some,Option.some.injEq] at is
  obtain ⟨-,rfl⟩ := is
  have bound := next.toNat_lt
  have size : maxCount = 18446744073709551615 := rfl
  omega

theorem intervals_le (shots : List Shot) : ∀ interval ∈ intervals shots, interval ≤ maxCount := by
  intro interval member
  obtain ⟨pair,-,is⟩ := List.mem_filterMap.mp member
  exact interval?_le is

theorem mem_latest {intervals : List Nat} {interval : Nat} :
    interval ∈ latest intervals ↔ interval ∈ intervals.reverse.take maxSamples := by
  rw [List.take_reverse,List.mem_reverse,latest]

theorem percentile_mem (percent : Float) {sorted : List Nat} (some_ : sorted ≠ []) :
    percentile percent sorted ∈ sorted := by
  have inside : min (rank percent sorted.length) (sorted.length - 1) < sorted.length := by
    have positive := List.length_pos_iff.mpr some_
    omega
  rw [percentile,List.getElem?_eq_getElem inside,Option.getD_some]
  exact List.getElem_mem inside

/-- The fold from a bound of all numbers ends at the least of them. -/
theorem foldl_min_spec {bound : Nat} {ns : List Nat} (some_ : ns ≠ []) (bounded : ∀ n ∈ ns, n ≤ bound) :
    ns.foldl min bound ∈ ns ∧ ∀ n ∈ ns, ns.foldl min bound ≤ n := by
  obtain ⟨least,is⟩ := Option.ne_none_iff_exists'.mp (mt List.min?_eq_none_iff.mp some_)
  obtain ⟨member,below⟩ := List.min?_eq_some_iff.mp is
  have fold : ns.foldl min bound = least := by
    rw [List.foldl_min,is,Option.getD_some]
    exact Nat.min_eq_right (bounded least member)
  rw [fold]
  exact ⟨member,below⟩

theorem foldl_max_spec {ns : List Nat} (some_ : ns ≠ []) :
    ns.foldl max 0 ∈ ns ∧ ∀ n ∈ ns, n ≤ ns.foldl max 0 := by
  obtain ⟨greatest,is⟩ := Option.ne_none_iff_exists'.mp (mt List.max?_eq_none_iff.mp some_)
  obtain ⟨member,above⟩ := List.max?_eq_some_iff.mp is
  have fold : ns.foldl max 0 = greatest := by
    rw [List.foldl_max,is,Option.getD_some]
    exact Nat.max_eq_right (Nat.zero_le greatest)
  rw [fold]
  exact ⟨member,above⟩

namespace Collector

theorem Measured.extremes {shots : List Shot} {c : Collector} (measured : Measured shots c)
    (some_ : intervals shots ≠ []) : c.summary.intervalMin ∈ intervals shots ∧ c.summary.intervalMax ∈ intervals shots ∧
      ∀ interval ∈ intervals shots, c.summary.intervalMin ≤ interval ∧ interval ≤ c.summary.intervalMax := by
  have counted : c.intervalCount ≠ 0 := by rwa [measured.timed.count,ne_eq,List.length_eq_zero_iff]
  have least : c.summary.intervalMin = (intervals shots).foldl min maxCount := by
    rw [← measured.timed.least]
    exact if_neg counted
  have greatest : c.summary.intervalMax = (intervals shots).foldl max 0 := by
    rw [← measured.timed.greatest]
    exact if_neg counted
  obtain ⟨leastIn,below⟩ := foldl_min_spec some_ (intervals_le shots)
  obtain ⟨greatestIn,above⟩ := foldl_max_spec some_
  rw [least,greatest]
  exact ⟨leastIn,greatestIn,fun interval member => ⟨below interval member,above interval member⟩⟩

theorem Measured.percentile_latest {shots : List Shot} {c : Collector} (measured : Measured shots c)
    (some_ : intervals shots ≠ []) (percent : Float) :
    percentile percent (c.window.mergeSort (· ≤ ·)) ∈ latest (intervals shots) := by
  have kept : c.window ≠ [] := by
    rw [measured.timed.window,ne_eq,List.take_eq_nil_iff,List.reverse_eq_nil_iff]
    rintro (none | none)
    · cases none
    · exact some_ none
  have sorted : c.window.mergeSort (· ≤ ·) ≠ [] := fun none =>
    kept (List.nil_perm.mp (none ▸ (List.mergeSort_perm c.window _)))
  rw [mem_latest,← measured.timed.window]
  exact List.mem_mergeSort.mp (percentile_mem percent sorted)

/-- A collector that took the frames of a run sums it up. -/
theorem Measured.reports {shots : List Shot} {c : Collector} (measured : Measured shots c) :
    c.summary.Reports shots where
  frames := measured.frames
  bytes := measured.bytes
  extremes := measured.extremes
  average := by
    rw [← measured.timed.sum,← measured.timed.count]
    rfl
  percentiles some_ percentile member := by
    have recent : percentile ∈ latest (intervals shots) := by
      simp only [List.mem_cons,List.not_mem_nil,or_false] at member
      rcases member with rfl | rfl | rfl
      · exact measured.percentile_latest some_ 50
      · exact measured.percentile_latest some_ 95
      · exact measured.percentile_latest some_ 99
    exact ⟨recent,(measured.extremes some_).2.2 percentile (List.mem_of_mem_drop recent)⟩
  noIntervals none := by
    have count : c.intervalCount = 0 := by rw [measured.timed.count,none,List.length_nil]
    have window : c.window = [] := by rw [measured.timed.window,none,List.reverse_nil,List.take_nil]
    have nothing (percent : Float) : percentile percent (c.window.mergeSort (· ≤ ·)) = 0 := by
      rw [window,List.mergeSort_nil]
      rfl
    refine ⟨if_pos count,if_pos count,?_,nothing 50,nothing 95,nothing 99⟩
    rw [Collector.summary,count,Nat.div_zero]
  dropped := by
    intro counts rising first last begins ends
    have frames : c.summary.frames = counts.length := measured.frames.trans (List.length_map _).symm
    have dropped : c.summary.dropped = (misses shots).sum := measured.dropped
    rw [frames,dropped]
    exact length_add_missing rising begins ends

/-- The summary of a run has its number of frames, the sum of their octets, the least and the greatest of all
    intervals between them and the average of these, percentiles that are among the latest intervals, and as many
    dropped frames as are missing between the first count and the last if the counts rise. So has the summary of a
    capture for the frames that were delivered. -/
theorem summary_reports :
    (∀ shots, (ofShots shots).summary.Reports shots) ∧
    ∀ history, (ofHistory history).summary.Reports (shotsOf history) := by
  have reports (shots : List Shot) : (ofShots shots).summary.Reports shots := (measured_ofShots shots).reports
  refine ⟨reports,fun history => ?_⟩
  rw [ofHistory_eq]
  exact reports (shotsOf history)

end Collector
end VideoCapture.Metrics
