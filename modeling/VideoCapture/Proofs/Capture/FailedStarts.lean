import VideoCapture.Proofs.Capture.Decisions
import VideoCapture.Simulation.Stage
/-!
# Starts that fail

A start fails at one step, or it comes to its thread. `thwarts` tells by an event alone that a step fails; no
step before it does, and nothing after it but the way back: what the start mapped is unmapped and what it opened
is closed. Main statement: whatever session there was before and whichever step fails, an update leaves the source
with the new configuration and without a session (`Source.failed_start_atomic`).
-/
namespace VideoCapture
variable {ω : Type} (world : World ω) (sink : Sink ω)

open Act

/-- Whether a step of a start fails by an event. -/
def Event.thwarts : Event → Bool
  | .refused _ .session _ => true
  | .asked _ (.setFormat _ _ _) (.error _) => true
  | .asked _ (.setFormat _ _ _) (.ok format) => (FrameGeometry.of format).isOk = false
  | .asked _ (.setFrameInterval _) (.error _) => true
  | .asked _ (.requestBuffers _) (.error _) => true
  | .asked _ (.requestBuffers _) (.ok granted) => granted < BufferPool.leastCount
  | .asked _ (.queryBuffer _) (.error _) => true
  | .asked _ (.mapBuffer _) (.error _) => true
  | .spawned (.error _) => true
  | _ => false

/-- Whether an event is a call to the consumer. -/
def Event.isCall : Event → Bool
  | .started _ _ | .delivered _ _ | .stopped _ _ => true
  | _ => false

/-- Whether an event is the request for a thread. -/
def Event.wantsThread : Event → Bool
  | .spawned _ => true
  | _ => false

/-- The devices that were opened. -/
def devicesOpened (h : History) : List Handle :=
  h.filterMap fun
    | .opened device => some device
    | _ => none

/-- The buffers that were mapped. -/
def placesMapped (h : History) : List BufferPlace :=
  h.filterMap fun
    | .asked _ (.mapBuffer place) (.ok ()) => some place
    | _ => none

/-- An event that neither thwarts a start nor calls the consumer. -/
def Event.Harmless (e : Event) : Prop := e.thwarts = false ∧ e.isCall = false

theorem BufferPool.Unmapped.harmless {device : Handle} {places : List BufferPlace} {h : History}
    (unmapped : BufferPool.Unmapped device places h) : ∀ e ∈ h, e.Harmless := by
  induction unmapped with
  | none => exact fun e member => nomatch member
  | next rest ih => exact List.forall_mem_cons.mpr ⟨⟨rfl,rfl⟩,ih⟩

namespace Startup
variable {config : Configuration}

theorem Move.harmless {x y : Startup} {e : Event} (move : Move config x e y) : e.Harmless := by
  cases move with
  | agrees described => exact ⟨by simp [Event.thwarts,described,Except.isOk,Except.toBool],rfl⟩
  | grants enough => exact ⟨by simpa [Event.thwarts] using enough,rfl⟩
  | _ => exact ⟨rfl,rfl⟩

theorem Fails.thwarts {x : Startup} {e : Event} {error : EngineError} (fails : Fails config x e error) :
    e.thwarts = true ∧ e.isCall = false := by
  cases fails with
  | notDescribed strange => exact ⟨by simp [Event.thwarts,strange,Except.isOk,Except.toBool],rfl⟩
  | tooFew few => exact ⟨by simpa [Event.thwarts] using few,rfl⟩
  | _ => exact ⟨rfl,rfl⟩

theorem Reached.harmless {h : History} {x : Startup} (reached : Reached config h x) : ∀ e ∈ h, e.Harmless := by
  induction reached with
  | start => exact fun e member => nomatch member
  | step before move ih => exact List.forall_mem_append.mpr ⟨ih,List.forall_mem_singleton.mpr move.harmless⟩

/-- What a start holds is what was opened and mapped. -/
theorem Reached.holds {h : History} {x : Startup} (reached : Reached config h x) :
    devicesOpened h = x.device?.toList ∧ placesMapped h = x.places := by
  induction reached with
  | start => exact ⟨rfl,rfl⟩
  | step before move ih =>
    obtain ⟨devices,places⟩ := ih
    rw [devicesOpened] at devices
    rw [placesMapped] at places
    rw [devicesOpened,placesMapped,List.filterMap_append,List.filterMap_append,devices,places]
    cases move <;> simp [device?,Startup.places]

theorem Undone.harmless {x : Startup} {h : History} (undone : x.Undone h) : ∀ e ∈ h, e.Harmless := by
  rcases undone.course with rfl | ⟨device,unmapping,unmapped,rfl⟩
  · exact List.forall_mem_nil _
  · exact List.forall_mem_append.mpr ⟨unmapped.harmless,List.forall_mem_singleton.mpr ⟨rfl,rfl⟩⟩

end Startup

/-- Where one event of a history stands out, the history can be cut at such an event in one way only. -/
theorem cut_unique {p : Event → Bool} {before after before' after' : History} {e e' : Event}
    (same : before ++ e :: after = before' ++ e' :: after') (standsOut : p e' = true)
    (quiet : ∀ x ∈ before, p x = false) (quietAfter : ∀ x ∈ after, p x = false) :
    before' = before ∧ e' = e ∧ after' = after := by
  rcases List.append_eq_append_iff.mp same with ⟨rest,rfl,split⟩ | ⟨rest,rfl,split⟩
  · cases rest with
    | nil =>
      obtain ⟨rfl,rfl⟩ := List.cons.inj split
      exact ⟨List.append_nil _,rfl,rfl⟩
    | cons x rest =>
      obtain ⟨rfl,rfl⟩ := List.cons.inj split
      have wrong := quietAfter e' (by simp)
      rw [standsOut] at wrong
      cases wrong
  · cases rest with
    | nil =>
      obtain ⟨rfl,rfl⟩ := List.cons.inj split
      exact ⟨(List.append_nil _).symm,rfl,rfl⟩
    | cons x rest =>
      obtain ⟨rfl,rfl⟩ := List.cons.inj split
      have wrong := quiet e' (by simp)
      rw [standsOut] at wrong
      cases wrong

namespace Startup
variable {config : Configuration} {starting : History} {session : Session}

/-- A start in which no step fails comes to its thread. -/
theorem Attempted.comes_to_thread (attempted : Attempted config starting session)
    (harmless : ∀ e ∈ starting, e.thwarts = false) : .spawned (.ok ()) ∈ starting := by
  cases attempted with
  | running reached all => simp
  | @failed before after x e error reached fails undone =>
    have wrong := harmless e (by simp)
    rw [fails.thwarts.1] at wrong
    cases wrong

/-- A start is cut at the step that fails in one way only: all steps before it succeeded, what is seen after it is
    the way back, and nothing is left. -/
theorem Attempted.cut {before after : History} {e : Event} (attempted : Attempted config starting session)
    (cut : starting = before ++ e :: after) (thwarts : e.thwarts = true) :
    ∃ x error, Reached config before x ∧ x.Fails config e error ∧ x.Undone after ∧ session = .none ∧
      ∀ e' ∈ starting, e'.isCall = false := by
  cases attempted with
  | @running reaching terms places reached all =>
    have harmless : ∀ e ∈ reaching ++ [.spawned (.ok ())], Event.Harmless e :=
      List.forall_mem_append.mpr ⟨reached.harmless,List.forall_mem_singleton.mpr ⟨rfl,rfl⟩⟩
    have wrong := (harmless e (cut ▸ by simp)).1
    rw [thwarts] at wrong
    cases wrong
  | failed reached fails undone =>
    have quiet := fun e member => (reached.harmless e member).1
    have quietAfter := fun e member => (undone.harmless e member).1
    obtain ⟨rfl,rfl,rfl⟩ := cut_unique cut thwarts quiet quietAfter
    refine ⟨_,_,reached,fails,undone,rfl,?_⟩
    simp only [List.forall_mem_append,List.forall_mem_cons]
    exact ⟨fun e member => (reached.harmless e member).2,fails.thwarts.2,fun e member => (undone.harmless e member).2⟩

end Startup

namespace Source

/-- A start that fails is undone. Whatever session a source had and however its thread went on while a device was
    looked for: if the configuration is not the one applied last, the session is torn down, and the start that
    follows, if there is a device, comes to its thread or fails at one step. Where a step fails, all steps before
    it succeeded, and all that is seen after it is that the buffers mapped by the start are unmapped, each once,
    and that its device is closed. No call to the consumer is seen of such a start, and what it leaves is the new
    configuration and no session. -/
theorem failed_start_atomic (order : List Bool) (source : Source) (settings : Settings) (s : ω) :
    (source.updateAmid world sink order settings).Yields s fun (source',chosen) h =>
      let config := Configuration.ofSettings chosen
      source.config ≠ some config →
      ∃ meanwhile ending starting settled, h = meanwhile ++ (ending ++ starting) ∧
        Deliberated world (order.count true) source settings meanwhile settled chosen ∧
        settled.session.TornDown world ending ∧ (starting = [] ↔ config.device = "") ∧
        (config.device ≠ "" → (∀ e ∈ starting, e.thwarts = false) → .spawned (.ok ()) ∈ starting) ∧
        ∀ before e after, starting = before ++ e :: after → e.thwarts = true →
          ∃ x error, Startup.Reached config before x ∧ x.Fails config e error ∧
            devicesOpened before = x.device?.toList ∧ placesMapped before = x.places ∧ x.Undone after ∧
            (∀ e' ∈ starting, e'.isCall = false) ∧
            source' = ⟨some config,.none⟩ ∧ source'.state = none ∧ source'.frames = 0 := by
  refine yields_mono ?_ (updateAmid_followed world sink order source settings s)
  rintro ⟨source',chosen⟩ h ⟨meanwhile,following,settled,rfl,deliberated,followed⟩ differs
  dsimp only at deliberated followed
  have applied : settled.config = source.config := by rw [deliberated.same]
  cases followed with
  | unchanged same => exact absurd (applied.symm.trans same) differs
  | blank _ noDevice ended =>
    refine ⟨meanwhile,following,[],settled,?_,deliberated,ended,?_,?_,?_⟩
    · rw [List.append_nil]
    · exact ⟨fun _ => noDevice,fun _ => rfl⟩
    · exact fun named => absurd noDevice named
    · exact fun before e after cut => absurd cut (by simp)
  | @started ending starting session _ named ended attempted =>
    refine ⟨meanwhile,ending,starting,settled,rfl,deliberated,ended,?_,?_⟩
    · obtain ⟨e,rest,begins,-⟩ := attempted.begins
      rw [begins]
      exact ⟨fun nothing => absurd nothing (List.cons_ne_nil _ _),fun noDevice => absurd noDevice named⟩
    · refine ⟨fun _ => attempted.comes_to_thread,fun before e after cut thwarts => ?_⟩
      obtain ⟨x,error,reached,fails,undone,rfl,noCall⟩ := attempted.cut cut thwarts
      obtain ⟨devices,places⟩ := reached.holds
      exact ⟨x,error,reached,fails,devices,places,undone,noCall,rfl,rfl,rfl⟩

open Simulation

/-- A camera that works, and one that cannot map its third buffer. -/
def workingAndFaulty : Stage :=
  .set (.ok []) [("/dev/video0",.willing),("/dev/video1",{ Script.willing with mapFaults := [(2,.bare .other)] })]
    ⟨false,false,false,none⟩ false

/-- A source goes over from the camera that works to the other one: the start fails at the third buffer, when two are
    mapped, no thread is asked for, and the two are unmapped and the camera is closed. -/
theorem failed_start_atomic_thirdBuffer :
    let settings (device : String) := Settings.empty.withDefaults.setText Settings.deviceKey device
    let live := (Source.new Stage.world Stage.consumer (settings "/dev/video0")).run workingAndFaulty
    let failed := (live.value.1.updateAmid Stage.world Stage.consumer [] (settings "/dev/video1")).run live.state
    let config := Configuration.ofSettings failed.value.2
    live.value.1.isActive = true ∧ live.value.1.config ≠ some config ∧ config.device = "/dev/video1" ∧
      (∃ gone before e after x error, observed failed.history = gone ++ (before ++ e :: after) ∧ e.thwarts = true ∧
        Startup.Reached config before x ∧ x.Fails config e error ∧ placesMapped before = x.places ∧ x.Undone after) ∧
      (placesMapped (observed failed.history)).map (·.index) = [0,1] ∧
      (observed failed.history).any Event.wantsThread = false ∧ failed.value.1 = ⟨some config,.none⟩ ∧
      failed.state.attempts.take 6 = [.closed "/dev/video1",.asked (.unmapBuffer 1 4096),.asked (.unmapBuffer 0 4096),
        .asked (.mapBuffer ⟨2,4096,8192⟩),.asked (.queryBuffer 2),.asked (.mapBuffer ⟨1,4096,4096⟩)] := by
  intro settings live failed config
  have differs : live.value.1.config ≠ some config := by decide +kernel
  have atomic := failed_start_atomic Stage.world Stage.consumer [] live.value.1 (settings "/dev/video1") live.state
  rw [Act.Yields] at atomic
  -- Which pair the run comes to is left open here, so that nothing evaluates it.
  split at atomic
  next source' chosen came =>
  have ends : failed.value = (source',chosen) := came
  have same : config = .ofSettings chosen := by rw [show config = .ofSettings failed.value.2 from rfl,ends]
  obtain ⟨meanwhile,ending,starting,settled,seen,-,-,-,comes,fails⟩ := atomic (same ▸ differs)
  rw [← same] at comes fails
  have noThread : (observed failed.history).any Event.wantsThread = false := by decide +kernel
  have thwarted : ∃ e ∈ starting, e.thwarts = true := by
    by_contra none
    have quiet : ∀ e ∈ starting, e.thwarts = false :=
      fun e member => Bool.eq_false_iff.mpr fun thwarts => none ⟨e,member,thwarts⟩
    have spawned := comes (by decide +kernel) quiet
    have inside : Event.spawned (.ok ()) ∈ observed failed.history := by
      rw [seen]
      exact List.mem_append_right _ (List.mem_append_right _ spawned)
    exact List.any_eq_false.mp noThread _ inside rfl
  obtain ⟨e,member,thwarts⟩ := thwarted
  obtain ⟨before,after,cut⟩ := List.append_of_mem member
  obtain ⟨x,error,reached,fails,-,places,undone,-,left,-,-⟩ := fails before e after cut thwarts
  refine ⟨by decide +kernel,differs,by decide +kernel,⟨meanwhile ++ ending,before,e,after,x,error,?_,thwarts,reached,fails,
    places,undone⟩,by decide +kernel,noThread,?_,by decide +kernel⟩
  · rw [List.append_assoc,← cut]
    exact seen
  · rw [ends]
    exact left

end Source
end VideoCapture
