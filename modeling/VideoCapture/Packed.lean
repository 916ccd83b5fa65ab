/-!
# Two small numbers in one scalar

A resolution or a frame interval is kept as one 32-bit number: the first term in the
high half, the second in the low half.
-/
namespace VideoCapture

/-- `a` in the high half, `b` in the low half. Terms wider than 16 bits lose their high bits. -/
def pack (a b : UInt32) : UInt32 := (a <<< 16) ||| (b &&& 0xffff)

def unpack (packed : UInt32) : UInt32 × UInt32 := (packed >>> 16,packed &&& 0xffff)

end VideoCapture
