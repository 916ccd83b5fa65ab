import VideoCapture.Selection.Devices
/-!
# Looking for the capture devices step by step

The capture devices are looked for by one call to the world after the other. `Search.step` makes
one of these calls, so that something else can happen between any two of them; `Search.rest` makes
all that are left. From the start these are the calls of `World.captureDevices`.
-/
namespace VideoCapture

/-- How far a search for the capture devices has come. -/
inductive Search
  | listing
  /-- The next candidate is to be opened; without a candidate the search is over. -/
  | opening (paths : List String) (found : List (Choice String))
  | asking (path : String) (device : Handle) (paths : List String) (found : List (Choice String))
  | closing (device : Handle) (paths : List String) (found : List (Choice String))
  deriving DecidableEq, Repr

namespace Search

def outcome? : Search → Option (List (Choice String))
  | opening [] found => some found
  | _ => none

def held? : Search → Option Handle
  | asking _ device _ _ | closing device _ _ => some device
  | listing | opening _ _ => none

variable {ω : Type} (world : World ω)

/-- The next call of a search. -/
def step : Search → Act ω Search
  | listing => do
    match ← world.list with
    | .error fault =>
      Act.notice (.scanFailed fault)
      return opening [] []
    | .ok paths => return opening paths []
  | opening [] found => return opening [] found
  | opening (path :: paths) found => do
    match ← world.openAt path .probe with
    | .error fault =>
      Act.notice (.candidateNotOpened path fault)
      return opening paths found
    | .ok device => return asking path device paths found
  | asking path device paths found => do
    let answer ← world.request device .capability
    let choice ← World.probe.judge path answer
    return closing device paths (found ++ choice.toList)
  | closing device paths found => do
    world.closeAt device
    return opening paths found

/-- All calls that are left of a search, and what it finds. -/
def rest : Search → Act ω (List (Choice String))
  | listing => world.captureDevices
  | opening paths found => do
    let others ← world.probeAll paths
    return found ++ others
  | asking path device paths found => do
    let answer ← world.request device .capability
    let choice ← World.probe.judge path answer
    world.closeAt device
    let others ← world.probeAll paths
    return found ++ choice.toList ++ others
  | closing device paths found => do
    world.closeAt device
    let others ← world.probeAll paths
    return found ++ others

end Search
end VideoCapture
