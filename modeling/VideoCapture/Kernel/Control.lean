import VideoCapture.Device.Request
import VideoCapture.Kernel.Octets
import VideoCapture.Text.Utf8
/-!
# Control requests

Most requests to a device are control requests: a code, and a structure that the system reads and
writes. Here are the codes, the structures before a request, and the replies read from them
afterwards.
-/
namespace VideoCapture.Kernel

/-- Which way the structure of a control request is copied, as seen by the program. -/
inductive Direction
  | write
  | read
  | both
  deriving DecidableEq, Repr

def Direction.bits : Direction → Nat
  | write => 1
  | read => 2
  | both => 3

/-- The code of a control request of video devices: direction, size, group and number. -/
def controlCode (direction : Direction) (number size : Nat) : Nat :=
  (direction.bits <<< 30) + (size <<< 16) + ('V'.toNat <<< 8) + number

structure Control where
  code : Nat
  argument : List UInt8
  deriving DecidableEq, Repr

namespace Control

def captureType : UInt32 := 1

def mappedMemory : UInt32 := 1

def of (direction : Direction) (number size : Nat) (fields : List (Nat × UInt32)) : Control :=
  ⟨controlCode direction number size,structureOf size fields⟩

def buffer (number : Nat) (index : UInt32) : Control :=
  of .both number 88 [(0,index),(4,captureType),(60,mappedMemory)]

/-- The control request that a request to a device is made by, if it is made by one. -/
def of? : Request → Option Control
  | .capability => some (of .read 0 104 [])
  | .format index => some (of .both 2 64 [(0,index),(4,captureType)])
  | .frameSize code index => some (of .both 74 44 [(0,index),(4,code.value)])
  | .frameInterval code width height index =>
    some (of .both 75 52 [(0,index),(4,code.value),(8,width),(12,height)])
  | .setFormat width height code =>
    some (of .both 5 208 [(0,captureType),(8,width),(12,height),(16,code.value)])
  | .setFrameInterval interval =>
    some (of .both 22 204
      [(0,captureType),(12,interval.numerator),(16,interval.denominator)])
  | .requestBuffers count =>
    some (of .both 8 20 [(0,count),(4,captureType),(8,mappedMemory)])
  | .queryBuffer index => some (buffer 9 index)
  | .queueBuffer index => some (buffer 15 index)
  | .dequeueBuffer => some (buffer 17 0)
  | .streamOn => some (of .write 18 4 [(0,captureType)])
  | .streamOff => some (of .write 19 4 [(0,captureType)])
  | .mapBuffer _ | .unmapBuffer _ _ | .waitReadable _ => none

end Control

/-- The text in a field of so many octets, up to its first zero. -/
def textAt (bs : List UInt8) (offset size : Nat) : String :=
  String.ofList (Utf8.decodeLossy (((bs.drop offset).take size).takeWhile (· ≠ 0)))

def pairAt {α : Type} (pair : UInt32 → UInt32 → α) (bs : List UInt8) (first second : Nat) : α :=
  pair (wordAt bs first) (wordAt bs second)

/-- An entry of a list of sizes or intervals, by the number of its kind. -/
def offerOf {α : Type} (kind : UInt32) (value : α) (range : Range α) : Offer α :=
  if kind = 1 then .discrete value
  else if kind = 2 then .continuous range
  else .stepwise range

/-- The reply to a request, read from the structure that the system has written. -/
def replyOf : (r : Request) → List UInt8 → r.Reply
  | .capability, bs =>
    ⟨textAt bs 0 16,textAt bs 16 32,textAt bs 48 32,wordAt bs 84,wordAt bs 88⟩
  | .format index, bs => some ⟨index,⟨wordAt bs 44⟩,textAt bs 12 32,wordAt bs 8⟩
  | .frameSize _ _, bs =>
    let pair := pairAt Resolution.mk bs
    some (offerOf (wordAt bs 8) (pair 12 16) ⟨pair 12 24,pair 16 28,pair 20 32⟩)
  | .frameInterval _ _ _ _, bs =>
    let pair := pairAt Fraction.mk bs
    some (offerOf (wordAt bs 16) (pair 20 24) ⟨pair 20 24,pair 28 32,pair 36 40⟩)
  | .setFormat _ _ _, bs =>
    ⟨wordAt bs 8,wordAt bs 12,⟨wordAt bs 16⟩,wordAt bs 24,wordAt bs 28⟩
  | .setFrameInterval _, bs => pairAt Fraction.mk bs 12 16
  | .requestBuffers _, bs => wordAt bs 0
  | .queryBuffer index, bs => ⟨index,wordAt bs 72,wordAt bs 64⟩
  | .dequeueBuffer, bs => ⟨wordAt bs 0,wordAt bs 8,wordAt bs 56,longAt bs 24,longAt bs 32⟩
  | .mapBuffer _, _ | .unmapBuffer _ _, _ | .queueBuffer _, _ | .streamOn, _ | .streamOff, _ => ()
  | .waitReadable _, _ => false

/-- The reply past the end of an enumeration, for requests that enumerate. -/
def endOf? : (r : Request) → Option r.Reply
  | .format _ => some none
  | .frameSize _ _ => some none
  | .frameInterval _ _ _ _ => some none
  | _ => none

end VideoCapture.Kernel
