import Mathlib.Data.List.Sort
import VideoCapture.Pixel.Layout
/-!
# Planes tile a buffer

A buffer holds the planes of an image one behind the other, though a consumer may see them in another order. Where
the last plane begins and where the one before it ends are rounded down apart, `luma * 5 / 4` and
`luma + luma / 4`, and still come to the same. Main statement: the planes of every layout fill the buffer from its
start without a gap, with room for their rows, and stay within one and a half times the luma plane
(`ImageLayout.planes_tile`).
-/
namespace VideoCapture

/-- Planes that fill a buffer from one position up to another, each from where the one before ends. -/
def Tiles : Nat → List PlaneExtent → Nat → Prop
  | start,[],stop => start = stop
  | start,plane :: planes,stop => plane.offset = start ∧ Tiles plane.stop planes stop

namespace Tiles

theorem le {start stop : Nat} {planes : List PlaneExtent} (tiles : Tiles start planes stop) : start ≤ stop := by
  induction planes generalizing start with
  | nil => exact Nat.le_of_eq tiles
  | cons plane planes ih =>
    obtain ⟨rfl,rest⟩ := tiles
    exact Nat.le_trans (Nat.le_add_right ..) (ih rest)

theorem within {start stop : Nat} {planes : List PlaneExtent} (tiles : Tiles start planes stop) {plane : PlaneExtent}
    (member : plane ∈ planes) : start ≤ plane.offset ∧ plane.stop ≤ stop := by
  induction planes generalizing start with
  | nil => cases member
  | cons first planes ih =>
    obtain ⟨rfl,rest⟩ := tiles
    rcases List.mem_cons.mp member with rfl | later
    · exact ⟨Nat.le_refl _,rest.le⟩
    · obtain ⟨after,before⟩ := ih rest later
      exact ⟨Nat.le_trans (Nat.le_add_right ..) after,before⟩

/-- Each position that is filled lies in one plane only. -/
theorem countP_eq_one {start stop : Nat} {planes : List PlaneExtent} (tiles : Tiles start planes stop) {position : Nat}
    (after : start ≤ position) (before : position < stop) :
    planes.countP (fun plane => plane.offset ≤ position ∧ position < plane.stop) = 1 := by
  induction planes generalizing start with
  | nil =>
    have same : start = stop := tiles
    omega
  | cons plane planes ih =>
    obtain ⟨rfl,rest⟩ := tiles
    by_cases inside : position < plane.stop
    · have others : planes.countP (fun plane => plane.offset ≤ position ∧ position < plane.stop) = 0 := by
        refine List.countP_eq_zero.mpr fun later member => ?_
        have begins := (rest.within member).1
        simp only [decide_eq_true_eq]
        omega
      rw [List.countP_cons_of_pos (by simp [after,inside]),others]
    · rw [List.countP_cons_of_neg (by simp [inside])]
      exact ih rest (Nat.le_of_not_lt inside)

end Tiles

namespace ImageLayout

/-- The planes in the order that a buffer holds them in. -/
def stored (layout : ImageLayout) : List PlaneExtent := layout.planes.insertionSort fun p q => p.offset ≤ q.offset

theorem stored_perm (layout : ImageLayout) : layout.stored.Perm layout.planes := List.perm_insertionSort ..

/-- The octets of a row without padding. -/
def tightPitch (width : UInt32) (code : FourCC) : Nat :=
  if code ∈ [.yvyu,.yuyv,.uyvy] then 2 * width.toNat else width.toNat

/-- The octets from one row of the first plane to the next. -/
def pitch (width stride : UInt32) (code : FourCC) : Nat := if stride = 0 then tightPitch width code else stride.toNat

theorem toNat_effectiveStride {width stride : UInt32} {code : FourCC}
    (narrow : stride = 0 → tightPitch width code < UInt32.size) :
    (effectiveStride width stride code).toNat = pitch width stride code := by
  unfold effectiveStride pitch
  by_cases unsaid : stride = 0
  · rw [if_pos unsaid,if_pos unsaid]
    have fits := narrow unsaid
    unfold tightPitch at fits ⊢
    unfold tightStride
    by_cases packed : code = .yvyu ∨ code = .yuyv ∨ code = .uyvy
    · have member : code ∈ [FourCC.yvyu,.yuyv,.uyvy] := by simpa using packed
      rw [if_pos member] at fits ⊢
      rw [if_pos packed,UInt32.toNat_mul,Nat.mul_comm]
      exact Nat.mod_eq_of_lt fits
    · have other : code ∉ [FourCC.yvyu,.yuyv,.uyvy] := by simpa using packed
      rw [if_neg packed,if_neg other]
  · rw [if_neg unsaid,if_neg unsaid]

/-- The four ways to lay an image out whose luma plane has this pitch and size. -/
inductive Shape (pitch : UInt32) (luma : Nat) : List PlaneExtent → Prop
  | packed : Shape pitch luma [⟨0,pitch,luma⟩]
  | interleaved : Shape pitch luma [⟨0,pitch,luma⟩,⟨luma,pitch / 2,luma / 2⟩]
  | planar : Shape pitch luma [⟨0,pitch,luma⟩,⟨luma,pitch / 2,luma / 4⟩,⟨luma * 5 / 4,pitch / 2,luma / 4⟩]
  | swapped : Shape pitch luma [⟨0,pitch,luma⟩,⟨luma * 5 / 4,pitch / 2,luma / 4⟩,⟨luma,pitch / 2,luma / 4⟩]

theorem shape_of (width height stride : UInt32) (code : FourCC) :
    Shape (effectiveStride width stride code) ((effectiveStride width stride code).toNat * height.toNat)
      (of width height stride code).planes := by
  unfold of
  split_ifs
  · exact .planar
  · exact .swapped
  · exact .interleaved
  · exact .packed

namespace Shape
variable {pitch : UInt32} {luma : Nat} {planes : List PlaneExtent}

/-- Whatever is left of `luma` when it is divided by four, no octet lies between two planes or in both. -/
theorem tiles (shape : Shape pitch luma planes) : Tiles 0 (stored ⟨planes⟩) (octetCount ⟨planes⟩) := by
  have meet : luma * 5 / 4 = luma + luma / 4 := by omega
  cases shape with
  | packed => simp [stored,octetCount,Tiles,PlaneExtent.stop]
  | interleaved => simp [stored,octetCount,Tiles,PlaneExtent.stop]
  | planar => simp [stored,octetCount,Tiles,PlaneExtent.stop,meet]
  | swapped =>
    by_cases empty : luma / 4 = 0
    · -- Chroma planes without octets stay in the order that they are listed in.
      simp [stored,octetCount,Tiles,PlaneExtent.stop,meet,empty]
    · have behind : ¬ luma + luma / 4 ≤ luma := by omega
      have inside : luma ≤ luma + luma / 4 + luma / 4 := by omega
      simp [stored,octetCount,Tiles,PlaneExtent.stop,meet,behind,inside]

theorem octetCount_le (shape : Shape pitch luma planes) : octetCount ⟨planes⟩ ≤ luma * 3 / 2 := by
  cases shape <;> simp only [octetCount,PlaneExtent.stop,List.foldl_cons,List.foldl_nil] <;> omega

theorem luma_eq (shape : Shape pitch luma planes) : planes.head? = some ⟨0,pitch,luma⟩ := by
  cases shape <;> rfl

end Shape

/-- Rows of half the pitch, half as many of them, take no more than a quarter. -/
theorem chromaRows_le (pitch height : Nat) : height / 2 * (pitch / 2) ≤ pitch * height / 4 := by
  rw [Nat.le_div_iff_mul_le (by decide)]
  calc height / 2 * (pitch / 2) * 4 = height / 2 * 2 * (pitch / 2 * 2) := Nat.mul_mul_mul_comm _ _ 2 2
    _ ≤ height * pitch := Nat.mul_le_mul (Nat.div_mul_le_self ..) (Nat.div_mul_le_self ..)
    _ = pitch * height := Nat.mul_comm ..

theorem Shape.rows_le {pitch : UInt32} {height : Nat} {planes : List PlaneExtent}
    (shape : Shape pitch (pitch.toNat * height) planes) :
    ∀ plane ∈ planes.tail, height / 2 * plane.stride.toNat ≤ plane.size := by
  have quarter := chromaRows_le pitch.toNat height
  have half : height / 2 * (pitch.toNat / 2) ≤ pitch.toNat * height / 2 := by omega
  have stride : (pitch / 2).toNat = pitch.toNat / 2 := UInt32.toNat_div ..
  cases shape <;> simp [stride,quarter,half]

/-- If a row and the numbers that are worked out fit in their words, the planes in the order of their offsets fill
    the buffer from its start to its last octet that holds a pixel, at most one and a half luma planes; all rows
    have room, those of luma at the pitch and half as many of chroma at the stride that is reported. The two planar
    formats have the same planes, with chroma the other way round. -/
theorem planes_tile (width height stride : UInt32) (code : FourCC)
    (narrow : stride = 0 → tightPitch width code < UInt32.size)
    (small : pitch width stride code * height.toNat * 5 < UInt64.size) :
    let layout := of width height stride code
    let luma := pitch width stride code * height.toNat
    Tiles 0 layout.stored layout.octetCount ∧ layout.octetCount ≤ luma * 3 / 2 ∧ layout.octetCount < UInt64.size ∧
      (∃ y chroma, layout.planes = y :: chroma ∧ y.stride.toNat = pitch width stride code ∧
        height.toNat * y.stride.toNat ≤ y.size ∧
          ∀ plane ∈ chroma, height.toNat / 2 * plane.stride.toNat ≤ plane.size) ∧
      ∃ y u v, (of width height stride .yu12).planes = [y,u,v] ∧ (of width height stride .yv12).planes = [y,v,u] := by
  intro layout luma
  have rowLength := toNat_effectiveStride narrow
  have shape : Shape (effectiveStride width stride code) luma layout.planes := by
    have shape := shape_of width height stride code
    rwa [rowLength] at shape
  have bound : layout.octetCount ≤ luma * 3 / 2 := shape.octetCount_le
  refine ⟨shape.tiles,bound,?_,?_,?_⟩
  · have fits : luma * 5 < UInt64.size := small
    omega
  · have roomy := (shape_of width height stride code).rows_le
    obtain ⟨chroma,split⟩ := List.head?_eq_some_iff.mp shape.luma_eq
    refine ⟨_,chroma,split,rowLength,?_,?_⟩
    · rw [rowLength,Nat.mul_comm]
    · intro plane member
      exact roomy plane (by rwa [split])
  · exact ⟨_,_,_,rfl,rfl⟩

/-- Three by five pixels with V before U, where neither the luma plane nor the rows can be halved. -/
theorem planes_tile_threeByFive :
    let layout := of 3 5 0 .yv12
    tightPitch 3 .yv12 < UInt32.size ∧ pitch 3 0 .yv12 * 5 * 5 < UInt64.size ∧
      layout.planes = [⟨0,3,15⟩,⟨18,1,3⟩,⟨15,1,3⟩] ∧ layout.stored = [⟨0,3,15⟩,⟨15,1,3⟩,⟨18,1,3⟩] ∧
      Tiles 0 layout.stored 21 ∧ layout.octetCount = 21 ∧ 21 ≤ 15 * 3 / 2 ∧
      ∀ plane ∈ layout.planes.tail, 5 / 2 * plane.stride.toNat ≤ plane.size := by
  obtain ⟨tiles,-,-,⟨y,chroma,split,-,-,roomy⟩,-⟩ := planes_tile 3 5 0 .yv12 (fun _ => by decide) (by decide)
  refine ⟨by decide,by decide,by decide,by decide,tiles,by decide,by decide,?_⟩
  rw [split]
  exact roomy

end ImageLayout
end VideoCapture
