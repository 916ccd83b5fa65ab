import VideoCapture.Capture.Meanwhile
/-!
# Updates in turns

An update that looks for a device is split into turns so that the capture thread can go on meanwhile. When
nothing else happens, the turns come to the same as the update at once: a step of a search and what is left of
it are what was left before (`Search.rest_step`), and a source that is told to follow settings and then left
to finish is the source after `Source.update` (`Scene.settle_update`). With turns of the thread between them,
they come to `Source.updateAmid` with steps of the thread in the same order (`Scene.settle_takeAll`).
-/
namespace VideoCapture
variable {ω : Type} (world : World ω) (sink : Sink ω)

namespace Search

theorem rest_listing : Search.listing.rest world = world.captureDevices := rfl

theorem rest_of_outcome {search : Search} {found : List (Choice String)} (complete : search.outcome? = some found) :
    search.rest world = pure found := by
  cases search with
  | opening paths choices =>
    cases paths with
    | nil =>
      obtain rfl := Option.some.inj complete
      simp only [rest,World.probeAll,pure_bind,List.append_nil]
    | cons path paths => simp [outcome?] at complete
  | _ => simp [outcome?] at complete

/-- A step of a search and what is left after it are what was left before. -/
theorem rest_step (search : Search) :
    (do (← search.step world).rest world) = search.rest world := by
  cases search with
  | listing =>
    simp only [step,rest,World.captureDevices,bind_assoc]
    refine bind_congr fun answer => ?_
    cases answer with
    | error fault => simp [World.probeAll]
    | ok paths => simp
  | opening paths found =>
    cases paths with
    | nil => simp only [step,pure_bind]
    | cons path paths =>
      simp only [step,rest,World.probeAll,World.probe,bind_assoc]
      refine bind_congr fun answer => ?_
      cases answer with
      | error fault => simp
      | ok device => simp
  | asking path device paths found => simp only [step,rest,bind_assoc,pure_bind]
  | closing device paths found => simp only [step,rest,bind_assoc,pure_bind]

end Search

namespace Scene

/-- A source that is told to follow settings, and then left to finish, is the source after the update. -/
theorem settle_update (source : Source) (settings : Settings) :
    (do (← (⟨source,none⟩ : Scene).take world sink (.update settings)).settle world sink) =
      (do return (← source.update world sink settings).1) := by
  by_cases blank : settings.getText Settings.deviceKey = ""
  · simp [take,settle,blank,Source.update,Source.chooseDevice,World.captureDevicesFor,conclude,Search.rest_listing]
  · simp [take,settle,blank,Source.update,Source.chooseDevice]

/-- The next call of an update takes nothing from what the source becomes. -/
theorem settle_control (scene : Scene) :
    (do (← scene.take world sink .control).settle world sink) = scene.settle world sink := by
  obtain ⟨source,pending⟩ := scene
  cases pending with
  | none => simp only [take,pure_bind]
  | some update =>
    obtain ⟨settings,search⟩ := update
    cases complete : search.outcome? with
    | some found => simp [take,complete,settle,Search.rest_of_outcome world complete]
    | none =>
      simp only [take,complete,settle,bind_assoc,pure_bind]
      rw [← Search.rest_step,bind_assoc]

/-- Whether a turn can come while an update looks for a device. -/
def IsMeanwhile : Turn → Prop
  | .control | .thread => True
  | _ => False

/-- Whether a turn is the thread's. -/
def isThread : Turn → Bool
  | .thread => true
  | _ => false

theorem takeAll_idle (turns : List Turn) (meanwhile : ∀ turn ∈ turns, IsMeanwhile turn) (source : Source) (s : ω) :
    ((takeAll world sink turns ⟨source,none⟩).run s).value.pending = none := by
  induction turns generalizing source s with
  | nil => rfl
  | cons turn turns ih =>
    have later := fun turn member => meanwhile turn (List.mem_cons_of_mem _ member)
    cases turn with
    | control => exact ih later source s
    | thread => exact ih later _ _
    | _ => exact absurd (meanwhile _ (List.mem_cons_self ..)) id

/-- An update that looks for a device, some of its calls and steps of the thread in whatever order, and then all
    that is left of it: this is the update amid these steps of the thread. -/
theorem settle_takeAll (turns : List Turn) (meanwhile : ∀ turn ∈ turns, IsMeanwhile turn) (source : Source)
    (settings : Settings) (search : Search) (s : ω)
    (busy : ((takeAll world sink turns ⟨source,some (settings,search)⟩).run s).value.pending.isSome) :
    (do (← takeAll world sink turns ⟨source,some (settings,search)⟩).settle world sink : Act ω Source).run s =
      (do
        let (source,found) ← source.searchAmid world sink (turns.map isThread) search
        conclude world sink source settings found : Act ω Source).run s := by
  induction turns generalizing source search s with
  | nil => simp only [takeAll,settle,List.map_nil,Source.searchAmid,bind_assoc,pure_bind]
  | cons turn turns ih =>
    have later := fun turn member => meanwhile turn (List.mem_cons_of_mem _ member)
    cases turn with
    | thread =>
      simp only [takeAll,take,List.map_cons,isThread,Source.searchAmid,bind_assoc,pure_bind]
      exact Course.run_bind_congr (ih later _ _ _ busy)
    | control =>
      cases complete : search.outcome? with
      | some found =>
        -- The update comes to its end with this turn, and is not busy any more.
        simp only [takeAll,take,complete,bind_assoc,pure_bind,Course.value_bind] at busy
        simp [takeAll_idle world sink turns later] at busy
      | none =>
        simp only [takeAll,take,complete,bind_assoc,pure_bind] at busy
        simp only [takeAll,take,complete,List.map_cons,isThread,Source.searchAmid,bind_assoc,pure_bind]
        exact Course.run_bind_congr (ih later _ _ _ busy)
    | _ => exact absurd (meanwhile _ (List.mem_cons_self ..)) id

end Scene

namespace Source

/-- Without a step of the thread, an update amid them is an update. -/
theorem updateAmid_nil (source : Source) (settings : Settings) :
    source.updateAmid world sink [] settings = source.update world sink settings := by
  by_cases blank : settings.getText Settings.deviceKey = ""
  · simp [updateAmid,searchAmid,update,chooseDevice,World.captureDevicesFor,Search.rest_listing,blank]
  · simp [updateAmid,update,chooseDevice,blank]

end Source
end VideoCapture
