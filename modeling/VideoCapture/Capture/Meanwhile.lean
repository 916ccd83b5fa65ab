import VideoCapture.Capture.Scene
/-!
# Updates while the capture thread goes on

An update that looks for a device makes many calls, and the capture thread of the session before goes on
between them. `Source.updateAmid` is an update with such steps of the thread: a list says whose turn it is.
Without a step of the thread it is `Source.update`.
-/
namespace VideoCapture.Source

variable {ω : Type} (world : World ω) (sink : Sink ω)

/-- A search for devices while the thread goes on: `true` stands for a step of the thread, `false` for a
    call of the search. What is left of the search comes after all of these. -/
def searchAmid : List Bool → Source → Search → Act ω (Source × List (Choice String))
  | [], s, search => do return (s,← search.rest world)
  | true :: order, s, search => do searchAmid order (← s.stepThread world sink) search
  | false :: order, s, search => do searchAmid order s (← search.step world)

/-- Follows the settings, and lets the thread go on in between as long as a device is looked for. -/
def updateAmid (order : List Bool) (s : Source) (settings : Settings) : Act ω (Source × Settings) := do
  if settings.getText Settings.deviceKey = "" then
    let (s,found) ← searchAmid world sink order s .listing
    let settings ← World.adopt settings found
    return (← s.follow world sink (.ofSettings settings),settings)
  else return (← s.follow world sink (.ofSettings settings),settings)

end VideoCapture.Source
