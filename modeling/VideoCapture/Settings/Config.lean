import VideoCapture.Device.Values
import VideoCapture.Packed
import VideoCapture.Settings.Store
/-!
# The configuration of a session

The four settings that a session is built from. Two configurations that differ in any field
call for two sessions.
-/
namespace VideoCapture

namespace Settings

def deviceKey : String := "device_id"
def formatKey : String := "pixelformat"
def resolutionKey : String := "resolution"
def framerateKey : String := "framerate"

end Settings

/-- What a session is asked to capture. -/
structure Configuration where
  /-- The device; blank for any. -/
  device : String
  format : FourCC
  packedResolution : UInt32
  packedInterval : UInt32
  deriving DecidableEq, Repr

namespace Configuration

open Settings

/-- Packed YUYV, 640 by 480, 30 frames a second, from any device. -/
def standard : Configuration where
  device := ""
  format := .yuyv
  packedResolution := pack 640 480
  packedInterval := pack 1 30

instance : Inhabited Configuration := ⟨standard⟩

def ofSettings (s : Settings) : Configuration where
  device := s.getText deviceKey
  format := ⟨s.getWord formatKey⟩
  packedResolution := s.getWord resolutionKey
  packedInterval := s.getWord framerateKey

def storeIn (c : Configuration) (s : Settings) : Settings :=
  (((s.setText deviceKey c.device).setWord formatKey c.format.value).setWord
    resolutionKey c.packedResolution).setWord framerateKey c.packedInterval

def withDevice (c : Configuration) (device : String) : Configuration := { c with device }

def withFormat (c : Configuration) (format : FourCC) : Configuration := { c with format }

def withResolution (c : Configuration) (width height : UInt32) : Configuration :=
  { c with packedResolution := pack width height }

def withInterval (c : Configuration) (numerator denominator : UInt32) : Configuration :=
  { c with packedInterval := pack numerator denominator }

def resolution (c : Configuration) : Resolution :=
  let (width,height) := unpack c.packedResolution
  ⟨width,height⟩

def interval (c : Configuration) : Fraction :=
  let (numerator,denominator) := unpack c.packedInterval
  ⟨numerator,denominator⟩

/-- The keys of the fields in which two configurations differ. -/
def differences (old new : Configuration) : List String :=
  (if old.device = new.device then [] else [deviceKey]) ++
  (if old.format = new.format then [] else [formatKey]) ++
  (if old.packedResolution = new.packedResolution then [] else [resolutionKey]) ++
  (if old.packedInterval = new.packedInterval then [] else [framerateKey])

end Configuration

/-- The store with the standard format, size and frame interval as defaults. -/
def Settings.withDefaults (s : Settings) : Settings :=
  let word (n : UInt32) : Setting := .int n.toUInt64.toInt64
  ((s.setDefault formatKey (word Configuration.standard.format.value)).setDefault
    resolutionKey (word Configuration.standard.packedResolution)).setDefault
    framerateKey (word Configuration.standard.packedInterval)

end VideoCapture
