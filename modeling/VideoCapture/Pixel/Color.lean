/-!
# Colour conversion

The numbers a consumer needs to turn YUV samples into RGB.
-/
namespace VideoCapture

/-- Parameters of the conversion from YUV to RGB. -/
structure ColorConversion where
  /-- A matrix of four rows of four, row by row. -/
  matrix : List Float32
  rangeMin : List Float32
  rangeMax : List Float32

namespace ColorConversion

/-- ITU-R BT.601 with the partial range, 16 to 235 for luma and 16 to 240 for chroma. -/
def bt601Studio : ColorConversion where
  matrix := [
    1.164384,0.000000,1.596027,-0.874202,
    1.164384,-0.391762,-0.812968,0.531668,
    1.164384,2.017232,0.000000,-1.085631,
    0.000000,0.000000,0.000000,1.000000]
  rangeMin := [16 / 255,16 / 255,16 / 255]
  rangeMax := [235 / 255,240 / 255,240 / 255]

end ColorConversion
end VideoCapture
