import VideoCapture.Pixel.FourCC
/-!
# Pixel formats that frames are delivered in

Of all the formats that devices know, a consumer sees the five layouts of `VideoFormat`.
-/
namespace VideoCapture

/-- The layout of the pixels that a consumer receives. -/
inductive VideoFormat
  /-- Packed 4:2:2, Y0 V0 Y1 U0. -/
  | yvyu
  /-- Packed 4:2:2, Y0 U0 Y1 V0. -/
  | yuy2
  /-- Packed 4:2:2, U0 Y0 V0 Y1. -/
  | uyvy
  /-- 4:2:0 in two planes, luma and interleaved chroma. -/
  | nv12
  /-- 4:2:0 in three planes, Y, U and V. -/
  | i420
  deriving DecidableEq, Repr, Inhabited

namespace VideoFormat

def all : List VideoFormat := [yvyu,yuy2,uyvy,nv12,i420]

def name : VideoFormat → String
  | yvyu => "YVYU"
  | yuy2 => "YUY2"
  | uyvy => "UYVY"
  | nv12 => "NV12"
  | i420 => "I420"

def identifier : VideoFormat → String
  | yvyu => "Yvyu"
  | yuy2 => "Yuy2"
  | uyvy => "Uyvy"
  | nv12 => "Nv12"
  | i420 => "I420"

def ofIdentifier? (s : String) : Option VideoFormat := all.find? (·.identifier == s)

def planeCount : VideoFormat → Nat
  | yvyu | yuy2 | uyvy => 1
  | nv12 => 2
  | i420 => 3

/-- The layout that a device format is delivered in, if it can be. Both orders of the chroma
    planes are delivered as Y, U, V. -/
def ofFourCC? (code : FourCC) : Option VideoFormat :=
  if code = .yvyu then some yvyu
  else if code = .yuyv then some yuy2
  else if code = .uyvy then some uyvy
  else if code = .nv12 then some nv12
  else if code = .yu12 ∨ code = .yv12 then some i420
  else none

end VideoFormat
end VideoCapture
