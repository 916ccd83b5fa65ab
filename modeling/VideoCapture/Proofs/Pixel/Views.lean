import VideoCapture.Proofs.Pixel.Slices
import VideoCapture.Proofs.Pixel.Tiling
import VideoCapture.Proofs.Selection.FormatAgreement
/-!
# Frames are cut from buffers

A frame shows a buffer plane by plane. A buffer may be shorter than the planes of its format, and then some of them
are short or empty; it may be longer, and then its rest is not shown. Main statement: whatever its length, each
plane is cut inside the buffer, and each octet of the buffer up to the end of the planes is shown in exactly one of
them (`FrameGeometry.view_partitions`).
-/
namespace VideoCapture
namespace FrameGeometry
variable (data : List UInt8)

theorem flatMap_cut {start stop : Nat} {planes : List PlaneExtent} (tiles : Tiles start planes stop) :
    planes.flatMap (fun extent => (cut data extent).data) = data.extract start stop := by
  induction planes generalizing start with
  | nil =>
    obtain rfl : start = stop := tiles
    simp
  | cons extent planes ih =>
    obtain ⟨rfl,rest⟩ := tiles
    rw [List.flatMap_cons,ih rest,data_cut]
    exact extract_append_extract data (Nat.le_add_right ..) rest.le

theorem countP_cut {layout : ImageLayout} (tiles : Tiles 0 layout.stored layout.octetCount) {position : Nat}
    (inside : position < data.length) (shown : position < layout.octetCount) :
    layout.planes.countP (fun extent => min extent.offset data.length ≤ position ∧
      position < min extent.stop data.length) = 1 := by
  have clamped (extent : PlaneExtent) : (min extent.offset data.length ≤ position ∧
      position < min extent.stop data.length) ↔ extent.offset ≤ position ∧ position < extent.stop := by omega
  simp only [clamped]
  rw [← (layout.stored_perm).countP_eq]
  exact tiles.countP_eq_one (Nat.zero_le _) shown

/-- For every format that frames can be built from and whatever a buffer holds: the planes of a frame and their strides
    are those of the layout, however long the buffer is; each plane is the slice of the buffer from the plane's offset
    to its end, both no further than the end of the buffer, so that the slice is always there, and it has all its octets
    if the buffer is as long as the layout. In the order of their offsets the planes make up the buffer as far as it and
    the layout go; each position of this part is in one plane and in no other. -/
theorem view_partitions {agreed : AgreedFormat} {geometry : FrameGeometry} (built : of agreed = .ok geometry)
    (data : List UInt8) (buffer : FilledBuffer) :
    let layout := ImageLayout.of agreed.width agreed.height agreed.stride agreed.pixelFormat
    let planes := (geometry.view data buffer).planes
    let start (extent : PlaneExtent) := min extent.offset data.length
    let stop (extent : PlaneExtent) := min (extent.offset + extent.size) data.length
    planes.map Plane.stride = layout.planes.map PlaneExtent.stride ∧
      (∀ (i : Nat) extent, layout.planes[i]? = some extent → ∃ plane, planes[i]? = some plane ∧
        slice? data (start extent) (stop extent) = some plane.data ∧
          (layout.octetCount ≤ data.length → plane.data.length = extent.size)) ∧
      ((layout.planes.zip planes).insertionSort fun p q => p.1.offset ≤ q.1.offset).flatMap (fun p => p.2.data) =
        data.take (min data.length layout.octetCount) ∧
      ∀ position < min data.length layout.octetCount,
        layout.planes.countP (fun extent => start extent ≤ position ∧ position < stop extent) = 1 := by
  intro layout planes start stop
  obtain ⟨format,-,rfl⟩ := of_eq_ok_iff.mp built
  have tiles : Tiles 0 layout.stored layout.octetCount := (ImageLayout.shape_of ..).tiles
  have cuts : planes = layout.planes.map (cut data) := rfl
  refine ⟨?_,?_,?_,?_⟩
  · rw [cuts,List.map_map]
    rfl
  · intro i extent found
    refine ⟨cut data extent,?_,slice?_cut data extent,fun long => length_cut data ?_⟩
    · rw [cuts,List.getElem?_map,found]
      rfl
    · have member : extent ∈ layout.stored := layout.stored_perm.mem_iff.mpr (List.mem_of_getElem? found)
      exact Nat.le_trans (tiles.within member).2 long
  · have paired : layout.planes.zip planes = layout.planes.map fun extent => (extent,cut data extent) :=
      List.map_prod_left_eq_zip.symm
    have sorted := List.map_insertionSort (fun p q : PlaneExtent => p.offset ≤ q.offset)
      (fun p q : PlaneExtent × Plane => p.1.offset ≤ q.1.offset) (fun extent => (extent,cut data extent)) layout.planes
      fun _ _ _ _ => Iff.rfl
    rw [paired,← sorted,List.flatMap_map]
    calc layout.stored.flatMap (fun extent => (cut data extent).data) = data.extract 0 layout.octetCount :=
          flatMap_cut data tiles
      _ = data.take layout.octetCount := by rw [List.extract_eq_take_drop,List.drop_zero,Nat.sub_zero]
      _ = data.take (min data.length layout.octetCount) := by rw [List.take_eq_take_min,Nat.min_comm]
  · intro position below
    exact countP_cut data tiles (by omega) (by omega)

/-- Three by five pixels with V before U in a buffer that ends within the plane that it holds second. -/
theorem view_partitions_shortBuffer :
    let agreed : AgreedFormat := ⟨3,5,.yv12,0,0⟩
    let geometry : FrameGeometry := ⟨3,5,.i420,.of 3 5 0 .yv12⟩
    let data : List UInt8 := [0,1,2,3,4,5,6,7,8,9,10,11,12,13,14,15,16]
    let planes := (geometry.view data ⟨0,17,0,⟨0,0⟩⟩).planes
    of agreed = .ok geometry ∧ planes.map (·.data.length) = [15,0,2] ∧ planes.map Plane.stride = [3,1,1] ∧
      slice? data 15 17 = some [15,16] ∧
      ((geometry.layout.planes.zip planes).insertionSort fun p q => p.1.offset ≤ q.1.offset).flatMap (fun p => p.2.data) =
        data ∧
      ∀ position < 17, geometry.layout.planes.countP (fun extent => min extent.offset 17 ≤ position ∧
        position < min (extent.offset + extent.size) 17) = 1 := by
  intro agreed geometry data planes
  have built : of agreed = .ok geometry := rfl
  obtain ⟨strides,-,joined,once⟩ := view_partitions built data ⟨0,17,0,⟨0,0⟩⟩
  have shown : min data.length (ImageLayout.of 3 5 0 .yv12).octetCount = 17 := by decide
  rw [shown] at joined once
  exact ⟨built,by decide,strides.trans (by decide),by decide,joined,once⟩

end FrameGeometry
end VideoCapture
