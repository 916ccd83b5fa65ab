import VideoCapture.Act
import VideoCapture.CommandLine.Layers
import VideoCapture.Kernel.Platform
/-!
# What commands work with

The surroundings of a command, and what it leaves behind: the lines it prints and why it failed,
if it did.
-/
namespace VideoCapture.CommandLine

def programVersion : String := "0.3.0"

/-- What a command meets. -/
structure Surroundings (ω : Type) where
  world : World ω
  backend : Kernel.Backend
  contentsOf : FileReader
  pathExists : String → Bool
  /-- The rounds that a capture thread makes before it has nothing more to do for now. -/
  rounds : Handle → ω → Nat

/-- What a command leaves behind. -/
structure Report where
  lines : List String
  failure : Option Failure
  deriving Inhabited

namespace Report

def success (lines : List String) : Report := ⟨lines,none⟩

def failed (failure : Failure) : Report := ⟨[],some failure⟩

end Report

def remark {ω : Type} (level : Level) (target text : String) : Act ω Unit :=
  Act.notice (.remark ⟨level,target,text⟩)

def jsonLines (v : Json.Value) : List String := v.pretty.splitOn "\n"

end VideoCapture.CommandLine
