import VideoCapture.Proofs.Capture.Decisions
import VideoCapture.Proofs.Likeness
import VideoCapture.Simulation.Stage
/-!
# Restarts

A restart is the end of the session and then what a new source does (`Source.restart_fresh`): to the letter if the
new source comes at that moment, and up to the numbers of devices if it comes in any state that cannot be told
apart from the one that the end leaves. For the latter each act of a start, and each step of the thread that it
leads to, does the same for one device as for its twin.
-/
namespace VideoCapture
variable {ω : Type} {world : World ω} {sink : Sink ω} {l : Likeness world sink}

open Likeness

/-- A thread that works with another device. -/
def Thread.on (device : Handle) (t : Thread) : Thread := { t with device, pool := { t.pool with device } }

/-- Sessions that are the same but for the number of the device. -/
inductive Session.Matches : Option Twin → Session → Session → Prop
  | none : Matches .none .none .none
  | held (q : Twin) (format : Option AgreedFormat) (interval : Option Fraction) (slots : Option (List Slot))
      (thread : Option Thread) :
      Matches (some q) ⟨q.one,format,interval,slots.map (⟨q.one,·⟩),thread.map (·.on q.one)⟩
        ⟨q.other,format,interval,slots.map (⟨q.other,·⟩),thread.map (·.on q.other)⟩

namespace BufferPool

/-- Pools that are the same but for the number of the device, or the same failure. -/
inductive Matches (q : Twin) : Except EngineError BufferPool → Except EngineError BufferPool → Prop
  | failed (error : EngineError) : Matches q (.error error) (.error error)
  | mapped (slots : List Slot) : Matches q (.ok ⟨q.one,slots⟩) (.ok ⟨q.other,slots⟩)

variable (l) (q : Twin)

theorem unmapFrom_twins (position : Nat) (slots : List Slot) :
    l.Twins (some q) (unmapFrom world q.one position slots) (unmapFrom world q.other position slots)
      fun p _ _ => p = some q := by
  induction slots generalizing position with
  | nil => exact twins_pure rfl
  | cons slot slots ih =>
    cases mapped : slot.isMapped with
    | false =>
      simp only [unmapFrom,mapped,Bool.false_eq_true,↓reduceIte]
      exact ih _
    | true =>
      simp only [unmapFrom,mapped,↓reduceIte]
      refine twins_request fun answer => ?_
      cases answer with
      | ok _ => exact ih _
      | error fault => exact twins_notice (ih _)

theorem unmap_twins (slots : List Slot) :
    l.Twins (some q) (unmap world ⟨q.one,slots⟩) (unmap world ⟨q.other,slots⟩) fun p _ _ => p = some q :=
  twins_bind (unmapFrom_twins l q 0 slots) fun _ _ _ same => twins_pure same

theorem mapMore_twins (count : Nat) (slots : List Slot) :
    l.Twins (some q) (mapMore world count ⟨q.one,slots⟩) (mapMore world count ⟨q.other,slots⟩)
      fun p x x' => p = some q ∧ Matches q x x' := by
  induction count generalizing slots with
  | zero => exact twins_pure ⟨rfl,.mapped slots⟩
  | succ count ih =>
    have rollback (error : EngineError) :
        l.Twins (some q) (do
            Act.notice (.mappingFailed error)
            let _ ← unmap world ⟨q.one,slots⟩
            return Except.error error)
          (do
            Act.notice (.mappingFailed error)
            let _ ← unmap world ⟨q.other,slots⟩
            return Except.error error) fun p x x' => p = some q ∧ Matches q x x' :=
      twins_notice (twins_bind (unmap_twins l q slots) fun _ _ _ same => twins_pure ⟨same,.failed error⟩)
    simp only [mapMore,mapSlot,bind_assoc]
    refine twins_request fun answer => ?_
    cases answer with
    | error fault => exact rollback _
    | ok place =>
      simp only [bind_assoc]
      refine twins_request fun answer => ?_
      cases answer with
      | error fault => exact rollback _
      | ok _ => exact ih _

theorem map_twins :
    l.Twins (some q) (map world q.one) (map world q.other) fun p x x' => p = some q ∧ Matches q x x' := by
  unfold map
  refine twins_request fun answer => ?_
  cases answer with
  | error fault => exact twins_pure ⟨rfl,.failed _⟩
  | ok granted =>
    by_cases few : granted < leastCount
    · simp only [few,↓reduceIte]
      exact twins_notice (twins_pure ⟨rfl,.failed _⟩)
    · simp only [few,↓reduceIte]
      refine twins_bind (mapMore_twins l q granted.toNat []) ?_
      rintro p x x' ⟨rfl,mapped⟩
      cases mapped with
      | failed error => exact twins_pure ⟨rfl,.failed error⟩
      | mapped slots => exact twins_notice (twins_pure ⟨rfl,.mapped slots⟩)

end BufferPool

namespace Source
variable (l)

theorem openSession_twins (config : Configuration) :
    l.Twins none (openSession world config) (openSession world config) fun p x x' =>
      Session.Matches p x.1 x'.1 ∧ x.2 = x'.2 ∧ (x.2 ≠ none → x.1.thread = none) := by
  unfold openSession
  refine twins_notice (twins_open (fun q path => ?_) fun fault => twins_pure ⟨.none,rfl,fun _ => rfl⟩)
  refine twins_request fun answer => ?_
  cases answer with
  | error fault => exact twins_pure ⟨.held q none none none none,rfl,fun _ => rfl⟩
  | ok format =>
  refine twins_notice (twins_notice ?_)
  cases shape : FrameGeometry.of format with
  | error error => exact twins_pure ⟨.held q (some format) none none none,rfl,fun _ => rfl⟩
  | ok geometry =>
  refine twins_request fun answer => ?_
  cases answer with
  | error fault => exact twins_pure ⟨.held q (some format) none none none,rfl,fun _ => rfl⟩
  | ok interval =>
  refine twins_notice (twins_bind (BufferPool.map_twins l q) ?_)
  rintro p x x' ⟨rfl,mapped⟩
  cases mapped with
  | failed error => exact twins_pure ⟨.held q (some format) (some interval) none none,rfl,fun _ => rfl⟩
  | mapped slots =>
  refine twins_spawn fun answer => ?_
  cases answer with
  | error fault => exact twins_pure ⟨.held q (some format) (some interval) (some slots) none,rfl,fun _ => rfl⟩
  | ok _ =>
    let info : SessionStart := ⟨config.device,format,geometry.format,interval,slots.length⟩
    let template := Thread.spawn q.one ⟨q.one,slots⟩ geometry info
    have sessions := Session.Matches.held q (some format) (some interval) (some slots) (some template)
    exact twins_pure ⟨sessions,rfl,fun failed => absurd rfl failed⟩

/-- A session without a thread leaves nothing when it is torn down. -/
theorem terminate_twins {p : Option Twin} {session session' : Session} (config : Option Configuration)
    (same : Session.Matches p session session') (noThread : session.thread = none) :
    l.Twins p (terminate world sink ⟨config,session⟩) (terminate world sink ⟨config,session'⟩)
      fun p' x x' => p' = none ∧ x = ⟨config,.none⟩ ∧ x' = ⟨config,.none⟩ := by
  cases same with
  | none => exact twins_pure ⟨rfl,rfl,rfl⟩
  | held q format interval slots thread =>
    cases thread with
    | some t => cases noThread
    | none =>
      cases slots with
      | none =>
        simp only [terminate,endThread,releasePool,releaseDevice,holdsOn,Option.map_none,pure_bind,bind_assoc,
          Bool.not_false,↓reduceIte]
        exact twins_close (twins_notice (twins_pure ⟨rfl,rfl,rfl⟩))
      | some slots =>
        simp only [terminate,endThread,releasePool,releaseDevice,holdsOn,Option.map_none,Option.map_some,pure_bind,
          bind_assoc,Bool.not_false,↓reduceIte,Bool.false_eq_true]
        refine twins_bind (BufferPool.unmap_twins l q slots) ?_
        rintro _ _ _ rfl
        exact twins_close (twins_notice (twins_pure ⟨rfl,rfl,rfl⟩))

theorem start_twins (source : Source) (config : Configuration) :
    l.Twins none (source.start world sink config) (source.start world sink config) fun p x x' =>
      x.config = source.config ∧ x'.config = source.config ∧ Session.Matches p x.session x'.session := by
  refine twins_bind (openSession_twins l config) ?_
  rintro p ⟨session,failure⟩ ⟨session',failure'⟩ ⟨same,⟨⟩,noThread⟩
  cases failure with
  | none => exact twins_pure ⟨rfl,rfl,same⟩
  | some error =>
    refine twins_notice (twins_mono ?_ (terminate_twins l source.config same (noThread (by simp))))
    rintro _ _ _ ⟨rfl,rfl,rfl⟩
    exact ⟨rfl,rfl,.none⟩

end Source

namespace Thread
variable (l) (q : Twin)

theorem contents_twins {s s' : ω} (same : l.alike (some q) s s') (pool : BufferPool) (index : Nat) :
    BufferPool.contents? world { pool with device := q.one } index s =
      BufferPool.contents? world { pool with device := q.other } index s' := by
  have octets (place : BufferPlace) : world.contents q.one place s = world.contents q.other place s' :=
    List.map_congr_left fun j _ => l.octets same place j
  exact congrArg (Option.map · (pool.mapping? index)) (funext octets)

theorem step_twins (stop : Bool) (t : Thread) :
    l.Twins (some q) ((t.on q.one).step world sink stop) ((t.on q.other).step world sink stop)
      fun p x x' => p = some q ∧ ∃ t' : Thread, x = t'.on q.one ∧ x' = t'.on q.other := by
  have enters (phase : Phase) : l.Twins (some q) (pure ((t.on q.one).enter phase)) (pure ((t.on q.other).enter phase))
      fun p x x' => p = some q ∧ ∃ t' : Thread, x = t'.on q.one ∧ x' = t'.on q.other :=
    twins_pure ⟨rfl,t.enter phase,rfl,rfl⟩
  have phase (device : Handle) : (t.on device).phase = t.phase := rfl
  cases now : t.phase with
  | queueing index =>
    have length (device : Handle) : (t.on device).pool.length = t.pool.length := rfl
    simp only [step,phase,now,length]
    split
    · refine twins_request fun answer => ?_
      cases answer with
      | ok _ => exact enters _
      | error fault => exact twins_notice (enters _)
    · exact enters _
  | startingStream =>
    simp only [step,phase,now]
    refine twins_request fun answer => ?_
    cases answer with
    | ok _ => exact twins_notice (enters _)
    | error fault => exact twins_notice (enters _)
  | announcing =>
    simp only [step,phase,now]
    refine twins_notify (fun _ _ same => l.starts same _) fun returned => ?_
    cases returned <;> exact enters _
  | idle =>
    simp only [step,phase,now]
    exact enters _
  | waiting =>
    simp only [step,phase,now]
    refine twins_request fun answer => ?_
    cases answer with
    | ok isReady =>
      cases isReady with
      | true => exact enters _
      | false => exact twins_notice (enters _)
    | error fault =>
      dsimp only
      split
      · exact enters _
      · exact twins_notice (enters _)
  | dequeuing =>
    simp only [step,phase,now]
    refine twins_request fun answer => ?_
    cases answer with
    | ok buffer => exact enters _
    | error fault =>
      dsimp only
      split
      · exact enters _
      · exact twins_notice (enters _)
  | delivering buffer =>
    simp only [step,phase,now]
    -- The frame is read from memory of the twin, which holds the same octets.
    refine twins_look (fun s s' same => ?_) fun contents => ?_
    · exact contents_twins l q same t.pool buffer.index.toNat
    cases contents with
    | some data =>
      refine twins_notify (fun _ _ same => l.delivers same _) fun returned => ?_
      cases returned with
      | true => exact twins_pure ⟨rfl,{ t with phase := .returning buffer true, frames := t.frames + 1 },rfl,rfl⟩
      | false => exact enters _
    | none => exact twins_notice (enters _)
  | returning buffer goOn =>
    simp only [step,phase,now]
    refine twins_request fun answer => ?_
    cases answer with
    | ok _ => exact enters _
    | error fault => exact twins_notice (enters _)
  | stoppingStream =>
    simp only [step,phase,now]
    refine twins_request fun answer => ?_
    cases answer with
    | ok _ => exact enters _
    | error fault => exact twins_notice (enters _)
  | concluding =>
    simp only [step,phase,now]
    exact twins_notify (fun _ _ same => l.stops same _) fun _ => twins_notice (enters _)
  | ended =>
    simp only [step,phase,now]
    exact twins_pure ⟨rfl,t,rfl,rfl⟩

/-- However a thread goes on, it does the same for a device as for its twin. -/
theorem heed_twins (stops : List Bool) (t : Thread) :
    l.Twins (some q) ((t.on q.one).heed world sink stops) ((t.on q.other).heed world sink stops)
      fun p x x' => p = some q ∧ ∃ t' : Thread, x = t'.on q.one ∧ x' = t'.on q.other := by
  induction stops generalizing t with
  | nil => exact twins_pure ⟨rfl,t,rfl,rfl⟩
  | cons stop stops ih =>
    refine twins_bind (step_twins l q stop t) ?_
    rintro _ _ _ ⟨rfl,t',rfl,rfl⟩
    exact ih t'

end Thread

/-! ### The restart -/

namespace Source

/-- Two sources show the same. -/
structure LooksLike (one other : Source) : Prop where
  state : one.state = other.state
  frames : one.frames = other.frames
  format : one.session.format = other.session.format
  interval : one.session.interval = other.session.interval
  config : one.config = other.config
  device : one.holdsDevice = other.holdsDevice

/-- What is told of a new configuration when another one was applied before. -/
def changeNotice (applied : Option Configuration) (config : Configuration) : History :=
  (applied.map fun current => Event.noticed (.configChanged (current.differences config))).toList

theorem looksLike_of_matches {p : Option Twin} {one other : Source} (config : one.config = other.config)
    (same : Session.Matches p one.session other.session) : LooksLike one other := by
  obtain ⟨applied,session⟩ := one
  obtain ⟨applied',session'⟩ := other
  cases same with
  | none => exact ⟨rfl,rfl,rfl,rfl,config,rfl⟩
  | held q format interval slots thread => cases thread <;> exact ⟨rfl,rfl,rfl,rfl,config,rfl⟩

/-- The threads of sessions that are the same go on alike in states alike. -/
theorem goesOn_of_matches {p : Option Twin} {session session' : Session} {s s' : ω} (same : l.alike p s s')
    (sessions : Session.Matches p session session') :
    ∀ t ∈ session.thread, ∃ t' ∈ session'.thread, ∀ stops,
      let gone := (t.heed world sink stops).run s
      let gone' := (t'.heed world sink stops).run s'
      unnumbered gone.history = unnumbered gone'.history ∧ gone.value.state = gone'.value.state ∧
        gone.value.frames = gone'.value.frames := by
  intro t member
  cases sessions with
  | none => cases member
  | held q format interval slots thread =>
    cases thread with
    | none => cases member
    | some template =>
      obtain rfl : template.on q.one = t := Option.some.inj member
      refine ⟨template.on q.other,rfl,fun stops => ?_⟩
      obtain ⟨seen,p,-,-,t',one,other⟩ := Thread.heed_twins l q stops template s s' same
      exact ⟨seen,by rw [one,other]; rfl,by rw [one,other]; rfl⟩

variable (world) (sink)

theorem restart_run (source : Source) {config : Configuration} (named : config.device ≠ "") (s : ω) :
    (source.restart world sink config).run s =
      let ended := (source.terminate world sink).run s
      let started := (start world sink ⟨some config,.none⟩ config).run ended.state
      ⟨started.value,ended.history ++ started.history,started.state⟩ := by
  have left : ((source.terminate world sink).run s).value = { source with session := .none } :=
    (terminate_tornDown world sink source s).1
  simp only [restart,Course.run_bind,left,named,↓reduceIte]

theorem follow_run (source : Source) {config : Configuration} (differs : source.config ≠ some config) (s : ω) :
    (source.follow world sink config).run s =
      let run := (source.restart world sink config).run s
      ⟨run.value,changeNotice source.config config ++ run.history,run.state⟩ := by
  unfold follow
  cases applied : source.config with
  | none => rfl
  | some current =>
    cases changes : current.differences config with
    | nil =>
      rw [Configuration.differences_eq_nil_iff] at changes
      exact absurd (applied.trans (congrArg some changes)) differs
    | cons key keys =>
      simp only [changes,changeNotice,Option.map_some,Option.toList_some]
      rfl

/-- With a device, an update is what is left to do: the notice of the change, the end of the session and a start. -/
theorem update_run (source : Source) {settings : Settings} (named : settings.getText Settings.deviceKey ≠ "")
    (differs : source.config ≠ some (.ofSettings settings)) (s : ω) :
    (source.update world sink settings).run s =
      let ended := (source.terminate world sink).run s
      let started := (start world sink ⟨some (.ofSettings settings),.none⟩ (.ofSettings settings)).run ended.state
      ⟨(started.value,settings),changeNotice source.config (.ofSettings settings) ++ (ended.history ++ started.history),
        started.state⟩ := by
  have device : (Configuration.ofSettings settings).device ≠ "" := named
  simp only [update,chooseDevice,named,↓reduceIte,pure_bind,Course.run_bind,follow_run world sink source differs,
    restart_run world sink source device,Course.run_pure,List.append_nil]

/-- A new source for settings with a device does nothing but start. -/
theorem new_run {settings : Settings} (named : settings.getText Settings.deviceKey ≠ "") (s : ω) :
    (new world sink settings).run s =
      let started := (start world sink ⟨some (.ofSettings settings),.none⟩ (.ofSettings settings)).run s
      ⟨(started.value,settings),started.history,started.state⟩ :=
  update_run world sink blank named (by simp [blank]) s

/-- A restart behaves as a fresh start. If settings with a device ask for another configuration than the one
    applied last, an update does what the end of the session does, and then exactly what a new source for the same
    settings does in the state that this leaves; it comes to the same source. If that state cannot be told apart
    from some other, in which there were no sessions before, then the update shows what a new source shows in that
    one: the same is seen of it up to the numbers of devices, and so it is from then on, however the thread of the
    session goes on. -/
theorem restart_fresh (source : Source) (settings : Settings) (s : ω)
    (named : settings.getText Settings.deviceKey ≠ "") (differs : source.config ≠ some (.ofSettings settings)) :
    let ended := (source.terminate world sink).run s
    let restarted := (source.update world sink settings).run s
    let fresh (s₀ : ω) := (new world sink settings).run s₀
    (restarted.history = changeNotice source.config (.ofSettings settings) ++
        (ended.history ++ (fresh ended.state).history) ∧
      restarted.value = (fresh ended.state).value ∧ restarted.state = (fresh ended.state).state) ∧
    ∀ s₀, Indistinct world sink ended.state s₀ →
      unnumbered (fresh ended.state).history = unnumbered (fresh s₀).history ∧
      restarted.value.1.LooksLike (fresh s₀).value.1 ∧ restarted.value.2 = (fresh s₀).value.2 ∧
      ∀ t ∈ restarted.value.1.session.thread, ∃ t' ∈ (fresh s₀).value.1.session.thread, ∀ stops,
        let gone := (t.heed world sink stops).run restarted.state
        let gone' := (t'.heed world sink stops).run (fresh s₀).state
        unnumbered gone.history = unnumbered gone'.history ∧ gone.value.state = gone'.value.state ∧
          gone.value.frames = gone'.value.frames := by
  intro ended restarted fresh
  have update := update_run world sink source named differs s
  refine ⟨?_,?_⟩
  · simp only [restarted,fresh,update,new_run world sink named]
    exact ⟨rfl,rfl,rfl⟩
  · rintro s₀ ⟨l,same⟩
    obtain ⟨seen,p,same',applied,applied',sessions⟩ :=
      start_twins l ⟨some (.ofSettings settings),.none⟩ (.ofSettings settings) _ _ same
    simp only [restarted,fresh,update,new_run world sink named]
    exact ⟨seen,looksLike_of_matches (applied.trans applied'.symm) sessions,trivial,goesOn_of_matches same' sessions⟩

end Source

namespace Simulation.Stage

/-- Stages with the same scripts and the same consumer, which takes every frame; what was played before may differ,
    but not the script of the device that is open. -/
structure SameScripts (p : Option Twin) (s s' : Stage) : Prop where
  devices : s.devices = s'.devices
  viaSystem : s.viaSystem = s'.viaSystem
  sink : s.sink = s'.sink
  takesAll : s.sink.breaksFrame = none
  playing : ∀ q ∈ p, ∃ script, s.playing[q.here]? = some script ∧ s'.playing[q.there]? = some script

theorem getElem?_set {playing : Array Script} {number : Nat} {before after : Script}
    (there : playing[number]? = some before) : (playing.set! number after)[number]? = some after := by
  obtain ⟨inside,-⟩ := Array.getElem?_eq_some_iff.mp there
  rw [Array.set!_eq_setIfInBounds,Array.getElem?_setIfInBounds_self_of_lt inside]

/-- Scripted devices answer alike whatever was played before. -/
theorem indistinct {s s' : Stage} (same : SameScripts none s s') :
    Indistinct Stage.world Stage.consumer s s' := by
  refine ⟨⟨SameScripts,?_,?_,?_,?_,?_,?_,?_,?_⟩,same⟩
  · rintro ⟨_,devices,viaSystem,sink,playing,_,_⟩ ⟨_,_,_,_,playing',_,_⟩ ⟨rfl,rfl,rfl,takesAll,-⟩ path
    simp only [Stage.world,openDevice,note]
    split
    · exact .inr ⟨_,_,_,rfl,rfl,rfl,rfl,rfl,takesAll,by simp⟩
    · split
      · exact .inr ⟨_,_,_,rfl,rfl,rfl,rfl,rfl,takesAll,by simp⟩
      · split
        · exact .inr ⟨_,_,_,rfl,rfl,rfl,rfl,rfl,takesAll,by simp⟩
        · exact .inl ⟨_,_,_,_,rfl,rfl,rfl,rfl,rfl,takesAll,by simp⟩
  · rintro q ⟨_,devices,viaSystem,sink,playing,_,_⟩ ⟨_,_,_,_,playing',_,_⟩ ⟨rfl,rfl,rfl,takesAll,played⟩ r
    obtain ⟨script,here,there⟩ := played q rfl
    have asked : playing[q.one.number]? = some script := here
    have asked' : playing'[q.other.number]? = some script := there
    simp only [Stage.world,ask,asked,asked',note]
    refine ⟨rfl,rfl,rfl,rfl,takesAll,?_⟩
    rintro _ ⟨rfl⟩
    exact ⟨_,getElem?_set asked,getElem?_set asked'⟩
  · rintro q s s' same place j
    rfl
  · rintro q s s' ⟨devices,viaSystem,sink,takesAll,-⟩
    exact ⟨devices,viaSystem,sink,takesAll,by simp⟩
  · exact fun same => ⟨rfl,same⟩
  · intro q s s' same info
    exact ⟨by simp only [Stage.consumer,same.sink],same⟩
  · rintro q s s' ⟨devices,viaSystem,sink,takesAll,playing⟩ frame
    refine ⟨?_,devices,viaSystem,sink,takesAll,playing⟩
    simp [Stage.consumer,← sink,takesAll]
  · intro q s s' same frames
    exact ⟨by simp only [Stage.consumer,same.sink],same⟩

end Simulation.Stage

namespace Source

open Simulation

/-- One camera, before anything happened. -/
def emptyStage : Stage := .set (.ok []) [("/dev/video0",.willing)] ⟨false,false,false,none⟩ false

/-- Settings for the camera with pictures of this size. -/
def sized (width height : UInt32) : Settings :=
  (Settings.empty.withDefaults.setText Settings.deviceKey "/dev/video0").setWord Settings.resolutionKey
    (pack width height)

/-- A source whose session had small pictures. Its thread ended by itself after a dozen of them. -/
def hungUp : Source where
  config := some (.ofSettings (sized 320 240))
  session :=
    ⟨some Thread.camera,some ⟨320,240,.yuyv,0,0⟩,some ⟨1,30⟩,some Thread.twoBuffers,
      some { Thread.spawn Thread.camera Thread.twoBuffers default default with phase := .ended, frames := 12 }⟩

/-- The stage after that session. -/
def usedStage : Stage := { emptyStage with playing := #[.willing], framesSeen := 12 }

/-- After that session, one with large pictures looks like the first on an empty stage, but the device has another
    number. -/
theorem restart_fresh_hungUp :
    let ended := (hungUp.terminate Stage.world Stage.consumer).run usedStage
    let restarted := (hungUp.update Stage.world Stage.consumer (sized 1280 720)).run usedStage
    let fresh := (new Stage.world Stage.consumer (sized 1280 720)).run emptyStage
    (sized 1280 720).getText Settings.deviceKey ≠ "" ∧ hungUp.config ≠ some (.ofSettings (sized 1280 720)) ∧
      Indistinct Stage.world Stage.consumer ended.state emptyStage ∧ restarted.value.1.LooksLike fresh.value.1 ∧
      restarted.value.1.session.device.map Handle.number = some 1 ∧
      fresh.value.1.session.device.map Handle.number = some 0 := by
  have named : (sized 1280 720).getText Settings.deviceKey ≠ "" := by decide +kernel
  have differs : hungUp.config ≠ some (.ofSettings (sized 1280 720)) := by decide +kernel
  have same : Indistinct Stage.world Stage.consumer
      ((hungUp.terminate Stage.world Stage.consumer).run usedStage).state emptyStage :=
    Stage.indistinct ⟨rfl,rfl,rfl,rfl,fun _ wrong => nomatch wrong⟩
  have restart := restart_fresh Stage.world Stage.consumer hungUp (sized 1280 720) usedStage named differs
  refine ⟨named,differs,same,(restart.2 _ same).2.1,?_,?_⟩
  · decide +kernel
  · decide +kernel

end Source
end VideoCapture
