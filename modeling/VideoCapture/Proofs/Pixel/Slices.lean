import VideoCapture.Frame
/-!
# Slices of buffers

A plane of a frame is a slice of a buffer, from one position up to another, both no further than the buffer goes.
-/
namespace VideoCapture

/-- The octets from one position of a buffer up to another, if the buffer has them. -/
def slice? (data : List UInt8) (start stop : Nat) : Option (List UInt8) :=
  if start ≤ stop ∧ stop ≤ data.length then some (data.extract start stop) else none

theorem extract_append_extract (data : List UInt8) {start middle stop : Nat} (first : start ≤ middle)
    (second : middle ≤ stop) : data.extract start middle ++ data.extract middle stop = data.extract start stop := by
  obtain ⟨front,rfl⟩ := Nat.exists_eq_add_of_le first
  obtain ⟨back,rfl⟩ := Nat.exists_eq_add_of_le second
  have left : start + front - start = front := by omega
  have right : start + front + back - (start + front) = back := by omega
  have whole : start + front + back - start = front + back := by omega
  simp only [List.extract_eq_take_drop]
  rw [left,right,whole,List.take_add,List.drop_drop]

/-- What is beyond the end of a buffer does not count. -/
theorem extract_min (data : List UInt8) (start stop : Nat) :
    data.extract (min start data.length) (min stop data.length) = data.extract start stop := by
  simp only [List.extract_eq_take_drop]
  by_cases inside : start ≤ data.length
  · rw [Nat.min_eq_left inside,List.take_eq_take_iff,List.length_drop]
    omega
  · have beyond : data.length ≤ start := Nat.le_of_not_le inside
    rw [Nat.min_eq_right beyond,List.drop_length,List.drop_eq_nil_of_le beyond,List.take_nil,List.take_nil]

namespace FrameGeometry
variable (data : List UInt8)

theorem slice?_cut (extent : PlaneExtent) :
    slice? data (min extent.offset data.length) (min extent.stop data.length) = some (cut data extent).data := by
  have ordered : extent.offset ≤ extent.stop := Nat.le_add_right ..
  rw [slice?,if_pos (by omega)]
  rfl

theorem data_cut (extent : PlaneExtent) : (cut data extent).data = data.extract extent.offset extent.stop :=
  extract_min data extent.offset extent.stop

theorem length_cut {extent : PlaneExtent} (whole : extent.stop ≤ data.length) :
    (cut data extent).data.length = extent.size := by
  rw [data_cut,List.extract_eq_take_drop,List.length_take,List.length_drop]
  unfold PlaneExtent.stop at *
  omega

end FrameGeometry
end VideoCapture
