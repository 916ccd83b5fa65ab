import Mathlib.Algebra.BigOperators.Group.List.Basic
import VideoCapture.Proofs.Metrics.Runs
/-!
# Which frames count as dropped

A device counts its frames with 32 bits. What a collector counts between two neighbours of a run are the counts that
lie between theirs, and after the greatest count of all also as many frames as the next count says, as if the device
had gone on from zero (`Collector.missing_eq`). Main statement: the dropped frames of a run are those two sums, so that
they are exactly the counts between neighbours if and only if no frame but one with count zero follows the greatest
count (`Collector.drops_counted`). A device that repeats the greatest count is said to have dropped 2³² - 1 frames
(`Collector.repeat_counted`).
-/
namespace VideoCapture.Metrics

/-- The greatest count of a device. -/
def greatestCount : UInt32 := 4294967295

/-- How many counts lie between two: after the first and before the second. There are none if the second is not the
    greater one. -/
def between (last next : UInt32) : Nat := if last < next then next.toNat - last.toNat - 1 else 0

/-- What is counted beyond that: after the greatest count all counts from zero up to the next one. -/
def carried (last next : UInt32) : Nat := if last = greatestCount then next.toNat else 0

namespace Collector

theorem missing_eq (last next : UInt32) : missing last next = between last next + carried last next := by
  by_cases greatest : last = greatestCount
  · -- The count after the greatest is zero, so no next count is below it.
    subst greatest
    have none : ¬ greatestCount < next :=
      UInt32.not_lt.mpr (UInt32.le_iff_toNat_le.mpr (Nat.le_of_lt_succ next.toNat_lt))
    rw [between,if_neg none,carried,if_pos rfl,Nat.zero_add,missing,show greatestCount + 1 = 0 from rfl,UInt32.sub_zero]
    split
    · rfl
    · rename_i nothing
      exact (Nat.eq_zero_of_not_pos fun some_ => nothing (UInt32.lt_iff_toNat_lt.mpr some_)).symm
  · have below : last.toNat < 4294967295 := by
      have bound := last.toNat_lt
      have other : last.toNat ≠ greatestCount.toNat := fun same => greatest (UInt32.toNat_inj.mp same)
      rw [show greatestCount.toNat = 4294967295 from rfl] at other
      omega
    have expected : (last + 1).toNat = last.toNat + 1 := by
      rw [UInt32.toNat_add,UInt32.toNat_one]
      omega
    rw [carried,if_neg greatest,Nat.add_zero,missing,between]
    simp only [UInt32.lt_iff_toNat_lt,expected]
    by_cases gap : last.toNat + 1 < next.toNat
    · have later : last + 1 ≤ next := UInt32.le_iff_toNat_le.mpr (by rw [expected]; omega)
      rw [if_pos gap,if_pos (by omega),UInt32.toNat_sub_of_le _ _ later,expected]
      omega
    · rw [if_neg gap]
      split <;> omega

theorem carried_eq_zero_iff (last next : UInt32) : carried last next = 0 ↔ (last = greatestCount → next = 0) := by
  rw [carried]
  split
  · rename_i greatest
    have zero_iff : next.toNat = 0 ↔ next = 0 := UInt32.toNat_inj (b := 0)
    rw [zero_iff]
    exact ⟨fun zero _ => zero,fun zero => zero greatest⟩
  · rename_i other
    exact iff_of_true rfl (absurd · other)

theorem sum_misses (shots : List Shot) :
    let pairs := neighbours (shots.map (·.sequence))
    (misses shots).sum = (pairs.map fun pair => between pair.1 pair.2).sum +
      (pairs.map fun pair => carried pair.1 pair.2).sum := by
  intro pairs
  rw [← List.sum_map_add,misses]
  exact congrArg List.sum (List.map_congr_left fun pair _ => missing_eq pair.1 pair.2)

/-- A frame adds the counts that lie between that of the frame before and its own, and all counts below its own if the
    one before was the greatest; if its count is not greater than the one before, it adds none if and only if it is
    zero or the one before was not the greatest. So the dropped frames of a run are the sums of these two, and they are
    the counts that lie between neighbours if and only if no frame with another count than zero follows the greatest. -/
theorem drops_counted (shots : List Shot) :
    let pairs := neighbours (shots.map (·.sequence))
    let c := ofShots shots
    (∀ last next, shots.getLast? = some last →
      (c.addShot next).dropped = c.dropped + between last.sequence next.sequence + carried last.sequence next.sequence ∧
        (next.sequence ≤ last.sequence →
          ((c.addShot next).dropped = c.dropped ↔ (last.sequence = greatestCount → next.sequence = 0)))) ∧
    c.dropped = (pairs.map fun pair => between pair.1 pair.2).sum +
      (pairs.map fun pair => carried pair.1 pair.2).sum ∧
    (c.dropped = (pairs.map fun pair => between pair.1 pair.2).sum ↔
      ∀ pair ∈ pairs, pair.1 = greatestCount → pair.2 = 0) := by
  intro pairs c
  have measured := measured_ofShots shots
  have total : c.dropped = (misses shots).sum := measured.dropped
  refine ⟨?_,total.trans (sum_misses shots),?_⟩
  · intro last next before
    have added : (c.addShot next).dropped =
        c.dropped + between last.sequence next.sequence + carried last.sequence next.sequence := by
      rw [(measured.addShot next).dropped,misses_append_singleton,before,List.sum_append,total,Nat.add_assoc,
        ← missing_eq]
      rfl
    refine ⟨added,fun notLater => ?_⟩
    have none : between last.sequence next.sequence = 0 := if_neg (UInt32.not_lt.mpr notLater)
    rw [added,none,Nat.add_zero,Nat.add_eq_left,carried_eq_zero_iff]
  · rw [total,sum_misses,Nat.add_eq_left,List.sum_eq_zero_iff_forall_eq_nat,List.forall_mem_map]
    exact forall₂_congr fun pair _ => carried_eq_zero_iff pair.1 pair.2

/-- A device that gives two frames the greatest count has dropped 2³² - 1 frames for the collector. So a frame can add
    to the dropped frames though its count is not greater than the one before. -/
theorem repeat_counted :
    let shot : Shot := ⟨0,4294967295,0⟩
    (ofShots [shot]).dropped = 0 ∧ ((ofShots [shot]).addShot shot).dropped = 4294967295 ∧
      ¬ ∀ shots last next, shots.getLast? = some last → next.sequence ≤ last.sequence →
        ((ofShots shots).addShot next).dropped = (ofShots shots).dropped := by
  intro shot
  have first : (ofShots [shot]).dropped = 0 := rfl
  have second : ((ofShots [shot]).addShot shot).dropped = 4294967295 := by decide +kernel
  refine ⟨first,second,fun never => ?_⟩
  have same := never [shot] shot shot rfl (UInt32.le_refl _)
  rw [first,second] at same
  cases same

/-! ### Counts that rise -/

theorem missing_of_lt {last next : UInt32} (later : last < next) : missing last next = next.toNat - last.toNat - 1 := by
  have other : last ≠ greatestCount := by
    rintro rfl
    have above : 4294967295 < next.toNat := UInt32.lt_iff_toNat_lt.mp later
    have bound := next.toNat_lt
    omega
  rw [missing_eq,between,if_pos later,carried,if_neg other,Nat.add_zero]

/-- Counts that rise strictly and the missing ones together are all from the first to the last. -/
theorem length_add_missing {counts : List UInt32} {first last : UInt32} (rising : counts.Pairwise (· < ·))
    (begins : counts.head? = some first) (ends : counts.getLast? = some last) :
    counts.length + ((neighbours counts).map fun pair => missing pair.1 pair.2).sum =
      last.toNat - first.toNat + 1 := by
  induction counts generalizing first with
  | nil => cases begins
  | cons count counts ih =>
    obtain rfl : count = first := Option.some.inj begins
    cases counts with
    | nil =>
      cases ends
      simp [neighbours]
    | cons second counts =>
      rw [List.getLast?_cons_cons] at ends
      obtain ⟨below,rest⟩ := List.pairwise_cons.mp rising
      have later : count < second := below second List.mem_cons_self
      have gap : missing count second = second.toNat - count.toNat - 1 := missing_of_lt later
      have least : second.toNat ≤ last.toNat := by
        rcases List.mem_cons.mp (List.mem_of_getLast? ends) with rfl | member
        · exact Nat.le_refl _
        · exact Nat.le_of_lt (UInt32.lt_iff_toNat_lt.mp ((List.pairwise_cons.mp rest).1 _ member))
      have tail := ih rest rfl ends
      have pairs : neighbours (count :: second :: counts) = (count,second) :: neighbours (second :: counts) := rfl
      rw [UInt32.lt_iff_toNat_lt] at later
      rw [pairs,List.map_cons,List.sum_cons,gap,List.length_cons]
      omega

end Collector
end VideoCapture.Metrics
