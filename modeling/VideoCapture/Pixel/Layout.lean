import VideoCapture.Pixel.Format
/-!
# Plane geometry

Where the planes of an image lie in a device buffer. Offsets and sizes are numbers without bound
here, so this describes layouts whose arithmetic stays within 64 bits. Beyond that, which only a
pitch and a height near the top of their 32 bits come to, a machine's arithmetic wraps or stops.
-/
namespace VideoCapture

structure PlaneExtent where
  offset : Nat
  stride : UInt32
  size : Nat
  deriving DecidableEq, Repr, Inhabited

def PlaneExtent.stop (plane : PlaneExtent) : Nat := plane.offset + plane.size

/-- The planes of an image in the order a consumer sees them. -/
structure ImageLayout where
  planes : List PlaneExtent
  deriving DecidableEq, Repr, Inhabited

namespace ImageLayout

def maxPlanes : Nat := 8

/-- Octets from the start of the buffer to the end of its last plane. -/
def octetCount (layout : ImageLayout) : Nat := layout.planes.foldl (fun n p => max n p.stop) 0

/-- The pitch of rows without padding: two octets per pixel for packed 4:2:2, one elsewhere. -/
def tightStride (width : UInt32) (code : FourCC) : UInt32 :=
  if code = .yvyu ∨ code = .yuyv ∨ code = .uyvy then width * 2 else width

/-- The pitch of the first plane: the one reported, or the tight one where zero is reported. -/
def effectiveStride (width stride : UInt32) (code : FourCC) : UInt32 :=
  if stride = 0 then tightStride width code else stride

/-- The planes of an image of this size, pitch and format. Chroma at half resolution follows
    luma; a device that stores V before U has the two swapped, so a consumer always sees Y, U, V. -/
def of (width height stride : UInt32) (code : FourCC) : ImageLayout :=
  let pitch := effectiveStride width stride code
  let luma := pitch.toNat * height.toNat
  let y : PlaneExtent := ⟨0,pitch,luma⟩
  let first : PlaneExtent := ⟨luma,pitch / 2,luma / 4⟩
  let second : PlaneExtent := ⟨luma * 5 / 4,pitch / 2,luma / 4⟩
  if code = .yu12 then ⟨[y,first,second]⟩
  else if code = .yv12 then ⟨[y,second,first]⟩
  else if code = .nv12 then ⟨[y,⟨luma,pitch / 2,luma / 2⟩]⟩
  else ⟨[y]⟩

end ImageLayout
end VideoCapture
