import VideoCapture.Capture.Source
import VideoCapture.Selection.Search
/-!
# A source among those who use it

The calls of a source come one after the other, but its capture thread goes on between them, and
also while an update looks for a device. A turn is one call, one step of the thread or one step of
an update that looks for a device; what happens to a source is a list of turns.
-/
namespace VideoCapture

/-- A source, and the update it is busy with. -/
structure Scene where
  source : Source
  /-- The settings of an update that looks for a device, and how far it has come. -/
  pending : Option (Settings × Search)
  deriving DecidableEq

/-- Something that can happen to a source. -/
inductive Turn
  | update (settings : Settings)
  | terminate
  | drop
  /-- An update that looks for a device makes its next call. -/
  | control
  | thread

namespace Scene

variable {ω : Type} (world : World ω) (sink : Sink ω)

/-- Brings an update to its end once it has looked for a device. -/
def conclude (source : Source) (settings : Settings) (found : List (Choice String)) :
    Act ω Source := do
  let settings ← World.adopt settings found
  source.follow world sink (.ofSettings settings)

/-- The source when it is done with the update that it is busy with. -/
def settle (scene : Scene) : Act ω Source :=
  match scene.pending with
  | some (settings,search) => do
    conclude world sink scene.source settings (← search.rest world)
  | none => return scene.source

/-- What a turn does. A call waits for the call before it. -/
def take (scene : Scene) : Turn → Act ω Scene
  | .update settings => do
    let source ← scene.settle world sink
    if settings.getText Settings.deviceKey = "" then
      return ⟨source,some (settings,.listing)⟩
    else return ⟨← source.follow world sink (.ofSettings settings),none⟩
  | .terminate | .drop => do
    let source ← scene.settle world sink
    return ⟨← source.terminate world sink,none⟩
  | .control =>
    match scene.pending with
    | some (settings,search) =>
      match search.outcome? with
      | some found => do
        return ⟨← conclude world sink scene.source settings found,none⟩
      | none => do return { scene with pending := some (settings,← search.step world) }
    | none => return scene
  | .thread => do return { scene with source := ← scene.source.stepThread world sink }

def takeAll : List Turn → Scene → Act ω Scene
  | [], scene => return scene
  | turn :: turns, scene => do takeAll turns (← scene.take world sink turn)

/-- What happens to a source from its creation on. -/
def live (settings : Settings) (turns : List Turn) : Act ω Scene :=
  takeAll world sink (.update settings :: turns) ⟨.blank,none⟩

end Scene
end VideoCapture
