import Mathlib.Data.List.Forall2
import VideoCapture.Proofs.FrameTimes
import VideoCapture.Proofs.Pixel.Slices
import VideoCapture.Proofs.Selection.FormatAgreement
/-!
# Frames that are due

What a frame has to show of a filled buffer, said by the five layouts that consumers know and without the geometry
that is worked out for a session: which windows of the memory its planes are, in whole numbers, and which time it
has (`AgreedFormat.Due`). Main statement: for each format that frames can be built from, whatever the memory holds
and the device says of the buffer, exactly one frame is due, the one that is built (`FrameGeometry.due_iff`).
-/
namespace VideoCapture

/-- A part of a buffer: its first octet, the octets from one of its rows to the next and the number of its octets. -/
structure Window where
  start : Nat
  pitch : Nat
  length : Nat
  deriving DecidableEq

/-- A plane is what a window shows of a buffer with these contents, as far as they go. -/
structure Window.Shows (window : Window) (contents : List UInt8) (plane : Plane) : Prop where
  pitch : plane.stride.toNat = window.pitch
  octets : slice? contents (min window.start contents.length) (min (window.start + window.length) contents.length) =
    some plane.data

namespace AgreedFormat
variable (format : AgreedFormat)

/-- The octets from one row of the first plane to the next: what the device says, or, where it says nothing, one octet
    for each pixel and two if the layout is packed, as a number of 32 bits. -/
def rowPitch (layout : VideoFormat) : Nat :=
  if format.stride = 0 then
    match layout with
    | .yvyu | .yuy2 | .uyvy => 2 * format.width.toNat % UInt32.size
    | .nv12 | .i420 => format.width.toNat
  else format.stride.toNat

/-- The windows that the planes of an image are, in the order that consumers see them: luma, then chroma behind it
    at half the pitch, in one window half as long or in two of a quarter each. U is in front of V but for one
    format of the devices. -/
def windows (layout : VideoFormat) : List Window :=
  let pitch := format.rowPitch layout
  let luma := pitch * format.height.toNat
  let near : Window := ⟨luma,pitch / 2,luma / 4⟩
  let far : Window := ⟨luma + luma / 4,pitch / 2,luma / 4⟩
  ⟨0,pitch,luma⟩ :: match layout with
    | .yvyu | .yuy2 | .uyvy => []
    | .nv12 => [⟨luma,pitch / 2,luma / 2⟩]
    | .i420 => if format.pixelFormat = .yv12 then [far,near] else [near,far]

/-- A frame is due for a filled buffer whose memory has these contents, when the device agreed to a format that is
    delivered in this layout. -/
structure Due (layout : VideoFormat) (contents : List UInt8) (buffer : FilledBuffer) (frame : Frame) : Prop where
  width : frame.width = format.width
  height : frame.height = format.height
  pixels : frame.format = layout
  planes : List.Forall₂ (fun window plane => window.Shows contents plane) (format.windows layout) frame.planes
  time : (frame.timestampNanos.toNat : Int) = buffer.timestamp.exactNanos % UInt64.size
  sequence : frame.sequence = buffer.sequence
  bytesUsed : frame.bytesUsed = buffer.bytesUsed

end AgreedFormat

/-- The window of a plane. -/
def PlaneExtent.window (extent : PlaneExtent) : Window := ⟨extent.offset,extent.stride.toNat,extent.size⟩

namespace Window
variable {window : Window} {contents : List UInt8} {plane other : Plane}

theorem Shows.unique (shows : window.Shows contents plane) (shows' : window.Shows contents other) : plane = other := by
  obtain ⟨stride,data⟩ := plane
  obtain ⟨stride',data'⟩ := other
  rw [Plane.mk.injEq]
  refine ⟨UInt32.toNat_inj.mp (shows.pitch.trans shows'.pitch.symm),Option.some.inj ?_⟩
  exact shows.octets.symm.trans shows'.octets

theorem shows_cut (extent : PlaneExtent) (contents : List UInt8) :
    extent.window.Shows contents (FrameGeometry.cut contents extent) :=
  ⟨rfl,FrameGeometry.slice?_cut contents extent⟩

end Window

namespace ImageLayout
variable {format : AgreedFormat} {layout : VideoFormat}

theorem toNat_effectiveStride_eq (delivered : VideoFormat.ofFourCC? format.pixelFormat = some layout) :
    (effectiveStride format.width format.stride format.pixelFormat).toNat = format.rowPitch layout := by
  unfold effectiveStride AgreedFormat.rowPitch
  by_cases unsaid : format.stride = 0
  · rw [if_pos unsaid,if_pos unsaid]
    have packed : (format.width * 2).toNat = 2 * format.width.toNat % UInt32.size := by
      rw [UInt32.toNat_mul,Nat.mul_comm]
      rfl
    rcases VideoFormat.delivered_cases delivered with
      ⟨code,rfl⟩ | ⟨code,rfl⟩ | ⟨code,rfl⟩ | ⟨code,rfl⟩ | ⟨code,rfl⟩ | ⟨code,rfl⟩ <;> rw [code]
    · exact packed
    · exact packed
    · exact packed
    · rfl
    · rfl
    · rfl
  · rw [if_neg unsaid,if_neg unsaid]

/-- The planes of an image are the windows of its format. -/
theorem windows_eq (delivered : VideoFormat.ofFourCC? format.pixelFormat = some layout) :
    format.windows layout =
      (of format.width format.height format.stride format.pixelFormat).planes.map PlaneExtent.window := by
  have pitch := toNat_effectiveStride_eq delivered
  unfold AgreedFormat.windows of
  rw [← pitch]
  generalize effectiveStride format.width format.stride format.pixelFormat = pitch
  have half : (pitch / 2).toNat = pitch.toNat / 2 := UInt32.toNat_div ..
  have meet : pitch.toNat * format.height.toNat * 5 / 4 =
      pitch.toNat * format.height.toNat + pitch.toNat * format.height.toNat / 4 := by omega
  dsimp only
  rw [← half,meet]
  rcases VideoFormat.delivered_cases delivered with
    ⟨code,rfl⟩ | ⟨code,rfl⟩ | ⟨code,rfl⟩ | ⟨code,rfl⟩ | ⟨code,rfl⟩ | ⟨code,rfl⟩ <;> rw [code] <;> rfl

end ImageLayout

/-- There is no choice in what is due. -/
theorem AgreedFormat.Due.unique {format : AgreedFormat} {layout : VideoFormat} {contents : List UInt8}
    {buffer : FilledBuffer} {frame other : Frame} (due : format.Due layout contents buffer frame)
    (due' : format.Due layout contents buffer other) : frame = other := by
  obtain ⟨planes,width,height,label,nanos,sequence,bytesUsed⟩ := frame
  obtain ⟨planes',width',height',label',nanos',sequence',bytesUsed'⟩ := other
  have samePlanes : planes = planes' :=
    List.right_unique_forall₂' (fun _ _ _ shows shows' => shows.unique shows') due.planes due'.planes
  have sameTime : nanos = nanos' := UInt64.toNat_inj.mp (by exact_mod_cast due.time.trans due'.time.symm)
  simp only [Frame.mk.injEq]
  exact ⟨samePlanes,due.width.trans due'.width.symm,due.height.trans due'.height.symm,due.pixels.trans due'.pixels.symm,
    sameTime,due.sequence.trans due'.sequence.symm,due.bytesUsed.trans due'.bytesUsed.symm⟩

namespace FrameGeometry
variable {format : AgreedFormat} {geometry : FrameGeometry} {layout : VideoFormat}

theorem due_view (delivered : VideoFormat.ofFourCC? format.pixelFormat = some layout) (built : of format = .ok geometry)
    (contents : List UInt8) (buffer : FilledBuffer) :
    format.Due layout contents buffer (geometry.view contents buffer) := by
  obtain ⟨layout',delivered',rfl⟩ := of_eq_ok_iff.mp built
  obtain rfl : layout = layout' := Option.some.inj (delivered.symm.trans delivered')
  refine ⟨rfl,rfl,rfl,?_,buffer.timestamp.toNat_nanos,rfl,rfl⟩
  rw [ImageLayout.windows_eq delivered,view,List.forall₂_map_left_iff,List.forall₂_map_right_iff,List.forall₂_same]
  exact fun extent _ => Window.shows_cut extent contents

/-- Frames that are built are due, and no others are. -/
theorem due_iff (delivered : VideoFormat.ofFourCC? format.pixelFormat = some layout) (built : of format = .ok geometry)
    (contents : List UInt8) (buffer : FilledBuffer) (frame : Frame) :
    format.Due layout contents buffer frame ↔ frame = geometry.view contents buffer := by
  have due := due_view delivered built contents buffer
  constructor
  · exact fun due' => due'.unique due
  · rintro rfl
    exact due

end FrameGeometry
end VideoCapture
