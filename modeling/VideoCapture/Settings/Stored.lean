import VideoCapture.Json.Reader
import VideoCapture.Settings.Config
/-!
# Stored settings

A store is kept as a JSON object of its own values in ascending order of their keys; defaults
are not stored.
-/
namespace VideoCapture

open Json

namespace Setting

def toJson : Setting → Value
  | int n => .int n.toInt
  | text s => .str s

/-- The setting that a JSON value stands for: a whole number of 64 bits or a string. -/
def ofJson? : Value → Option Setting
  | .int n => 
    if Int64.minValue.toInt ≤ n ∧ n ≤ Int64.maxValue.toInt then some (.int (Int64.ofInt n)) else none
  | .str s => some (.text s)
  | _ => none

def reader (depth : Nat) : Reader Setting := fun cs => do
  let (v,rest) ← anyValue depth cs
  match ofJson? v with
  | some s => return (s,rest)
  | none => throw .mismatch

end Setting

namespace Settings

def toJson (s : Settings) : Value :=
  .object (s.values.entries.map fun e => (e.1,e.2.toJson))

def toText (s : Settings) : String := s.toJson.compact

/-- Reads one member of a stored object; of a repeated key the last value counts. -/
def memberStep (s : Settings) (key : String) : Reader Settings := fun cs => do
  let (v,rest) ← Setting.reader (maxDepth - 1) (← expect ':' cs)
  return (s.set key v,rest)

def reader : Reader Settings := object memberStep empty

def ofText (text : String) : Except Defect Settings := Json.read reader text

end Settings

namespace Configuration

open Settings

def toJson (c : Configuration) : Value :=
  .object [
    (deviceKey,.str c.device),
    (formatKey,.nat c.format.value.toNat),
    (resolutionKey,.nat c.packedResolution.toNat),
    (framerateKey,.nat c.packedInterval.toNat)]

structure Partial where
  device : Option String
  format : Option UInt32
  packedResolution : Option UInt32
  packedInterval : Option UInt32

/-- The fields of a configuration in the order they are stored. -/
def members : List (Member Partial) := [
  ⟨deviceKey,(·.device.isSome),fun p cs => do
    let (s,rest) ← string cs
    return ({ p with device := some s },rest)⟩,
  ⟨formatKey,(·.format.isSome),fun p cs => do
    let (n,rest) ← word32 cs
    return ({ p with format := some n },rest)⟩,
  ⟨resolutionKey,(·.packedResolution.isSome),fun p cs => do
    let (n,rest) ← word32 cs
    return ({ p with packedResolution := some n },rest)⟩,
  ⟨framerateKey,(·.packedInterval.isSome),fun p cs => do
    let (n,rest) ← word32 cs
    return ({ p with packedInterval := some n },rest)⟩]

def reader : Reader Configuration :=
  record members ⟨none,none,none,none⟩ fun p => do
    return ⟨← p.device,⟨← p.format⟩,← p.packedResolution,← p.packedInterval⟩

end Configuration
end VideoCapture
