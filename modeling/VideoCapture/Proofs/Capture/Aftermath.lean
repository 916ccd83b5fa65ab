import VideoCapture.Proofs.Capture.Decisions
import VideoCapture.Proofs.Capture.Lifecycle
import VideoCapture.Simulation.Stage
/-!
# What a failed thread leaves behind

A capture thread that fails ends by itself: it turns the stream off and tells the consumer. Nobody else acts until
the source is called again. Main statement: a session whose thread has failed still has its device open, its buffers
mapped and the format and the interval that it agreed to, and gives them up when it is told to end
(`Scene.failure_keeps_session`).
-/
namespace VideoCapture
variable {ω : Type}

open Act

/-- Whether an event is a failure that ends a capture thread. -/
def Event.isFatal : Event → Bool
  | .asked _ (.queueBuffer _) (.error _) => true
  | .asked _ .streamOn (.error _) => true
  | .asked _ (.waitReadable _) (.error fault) => fault.kind ≠ .interrupted
  | .asked _ .dequeueBuffer (.error fault) => !fault.isTransient
  | _ => false

/-- Whether something that a session holds is given up by an event. -/
def Event.givesUp : Event → Bool
  | .closed _ => true
  | .asked _ (.unmapBuffer _ _) _ => true
  | _ => false

/-! ### The thread -/

namespace Thread
variable {world : World ω}

/-- What is seen of a thread from its failure on, up to a phase. -/
inductive Winding (device : Handle) (frames : Nat) : History → Phase → Prop
  | failed : Winding device frames [] .stoppingStream
  | streamOff (answer : Except Fault Unit) : Winding device frames [streamedOff device answer] .concluding
  | ended (answer : Except Fault Unit) (returned : Bool) :
      Winding device frames [streamedOff device answer,.stopped frames returned] .ended

/-- A thread that fails turns to stopping the stream. -/
theorem Move.fails {s : ω} {stop : Bool} {t t' : Thread} {e : Event} (move : Move world s stop t (some e) t')
    (fatal : e.isFatal = true) : t' = t.enter .stoppingStream := by
  cases move with
  | interrupted _ kind => simp [Event.isFatal,kind] at fatal
  | retry _ transient => simp [Event.isFatal,transient] at fatal
  | queueFails | streamOnFails | waitFails | dequeueFails | giveBackFails => rfl
  | _ => cases fatal

theorem Move.winds {s : ω} {stop : Bool} {t t' : Thread} {o : Option Event} {h : History}
    (winding : Winding t.device t.frames h t.phase) (move : Move world s stop t o t') :
    Winding t'.device t'.frames (h ++ o.toList) t'.phase := by
  generalize now : t.phase = phase at winding
  cases winding with
  | failed =>
    cases move with
    | streamOff _ => exact .streamOff _
    | _ => simp_all
  | streamOff answer =>
    cases move with
    | conclude _ => exact .ended _ _
    | _ => simp_all
  | ended answer returned =>
    obtain ⟨rfl,rfl⟩ := move.of_ended now
    rw [now]
    exact .ended _ _

/-- No move of a thread gives up what the session holds. -/
theorem Move.keeps {s : ω} {stop : Bool} {t t' : Thread} {o : Option Event} (move : Move world s stop t o t') :
    ∀ e ∈ o, e.givesUp = false := by
  cases move <;> simp [Event.givesUp]

theorem Runs.keepsAll {t t' : Thread} {trail : Trail ω} (run : Runs world t trail t') :
    ∀ e ∈ trail.map Prod.snd, e.givesUp = false := by
  refine run.keeps (motive := fun _ h => ∀ e ∈ h, e.givesUp = false) (fun kept move => ?_) (List.forall_mem_nil _)
  rw [List.forall_mem_append]
  exact ⟨kept,fun e member => move.keeps e (Option.mem_toList.mp member)⟩

/-- From a failure on, a thread only winds up. -/
theorem Runs.winds {t t' : Thread} {trail : Trail ω} {before after : History} {e : Event}
    (run : Runs world t trail t') (cut : trail.map Prod.snd = before ++ e :: after) (fatal : e.isFatal = true) :
    Winding t'.device t'.frames after t'.phase := by
  rw [List.map_eq_append_iff] at cut
  obtain ⟨first,others,rfl,-,rest⟩ := cut
  obtain ⟨⟨s,e'⟩,last,rfl,rfl,rfl⟩ := List.map_eq_cons_iff.mp rest
  obtain ⟨t₁,t₂,stop,-,move,left⟩ := run.split rfl
  refine left.keeps (motive := fun t h => Winding t.device t.frames h t.phase) (fun winding move => move.winds winding) ?_
  rw [move.fails fatal]
  exact .failed

end Thread

/-! ### The session -/

/-- A source whose session came of a start, with a thread wherever it is. -/
def Terms.source (terms : Terms) (config : Configuration) (places : List BufferPlace) (t : Thread) : Source :=
  ⟨some config,{ terms.session config places with thread := some t }⟩

/-- A source has no session, or one that came of a start. -/
def Source.Standing (source : Source) : Prop :=
  source.session = .none ∨ ∃ (config : Configuration) (terms : Terms) (places : List BufferPlace) (t : Thread),
    source = terms.source config places t ∧ t.device = terms.device

namespace Source
variable (world : World ω) (sink : Sink ω)

variable {world} in
theorem Followed.standing {source source' : Source} {config : Configuration} {h : History}
    (followed : Followed world source config h source') (standing : source.Standing) : source'.Standing := by
  cases followed with
  | unchanged same => exact standing
  | blank differs noDevice ended => exact .inl rfl
  | started differs named ended attempted =>
    cases attempted with
    | failed reached fails undone => exact .inl rfl
    | running reached all => exact .inr ⟨config,_,_,_,rfl,rfl⟩

theorem stepThread_standing {source : Source} (standing : source.Standing) (s : ω) :
    (source.stepThread world sink).Yields s fun source' _ => source'.Standing := by
  rcases standing with none | ⟨config,terms,places,t,rfl,device⟩
  · have still : source.stepThread world sink = pure source := by
      rw [stepThread,none]
      rfl
    rw [still]
    exact yields_pure (.inl none)
  · refine yields_then (Thread.step_move world sink false t s) fun t' h s' moved => yields_pure ?_
    obtain ⟨o,-,move⟩ := moved
    exact .inr ⟨config,terms,places,t',rfl,move.sameSession.1.trans device⟩

/-- A session whose thread has ended gives up its buffers and its device when it is told to end. -/
theorem terminate_ended (config : Configuration) (terms : Terms) (places : List BufferPlace) {t : Thread}
    (ended : t.phase = .ended) (s : ω) :
    ((terms.source config places t).terminate world sink).Yields s fun source h => source = ⟨some config,.none⟩ ∧
      ∃ unmapping, BufferPool.Unmapped terms.device places unmapping ∧ h = unmapping ++ [.closed terms.device] := by
  have free : holdsOn (some t) = false := by simp [holdsOn,Thread.isEnded,ended]
  have ending : endThread world sink (some t) = pure (some t) := by
    simp only [endThread,Thread.finish_of_ended world sink ended,pure_bind]
  simp only [terminate,Terms.source,ending,pure_bind,free]
  refine yields_then (releasePool_released world (terms.session config places) s) fun _ unmapping s' released => ?_
  refine yields_then (releaseDevice_closed world (some terms.device) s') fun _ closing s'' closed => yields_pure ?_
  simp only [Session.Released,Terms.session,BufferPool.places_pool] at released
  refine ⟨rfl,unmapping,released,?_⟩
  rw [closed]
  rfl

end Source

namespace Scene
variable (world : World ω) (sink : Sink ω)

theorem conclude_standing {source : Source} (standing : source.Standing) (settings : Settings)
    (found : List (Choice String)) (s : ω) :
    (conclude world sink source settings found).Yields s fun source' _ => source'.Standing := by
  refine yields_bind fun s' => ?_
  refine yields_mono ?_ (Source.follow_followed world sink source _ s')
  exact fun source' h followed => followed.standing standing

theorem settle_standing {scene : Scene} (standing : scene.source.Standing) (s : ω) :
    (scene.settle world sink).Yields s fun source' _ => source'.Standing := by
  obtain ⟨source,pending⟩ := scene
  cases pending with
  | none => exact yields_pure standing
  | some update => exact yields_bind fun s' => conclude_standing world sink standing update.1 _ s'

theorem take_standing {scene : Scene} (turn : Turn) (standing : scene.source.Standing) (s : ω) :
    (scene.take world sink turn).Yields s fun scene' _ => scene'.source.Standing := by
  have ending : (do
      let source ← scene.settle world sink
      return ⟨← source.terminate world sink,none⟩ : Act ω Scene).Yields s fun scene' _ => scene'.source.Standing := by
    refine yields_bind fun s' => ?_
    refine yields_then (Source.terminate_tornDown world sink _ s') fun source' h s'' torn => yields_pure ?_
    rw [torn.1]
    exact .inl rfl
  cases turn with
  | update settings =>
    refine yields_then (settle_standing world sink standing s) fun source h s' standing' => ?_
    by_cases blank : settings.getText Settings.deviceKey = ""
    · simp only [blank,↓reduceIte]
      exact yields_pure standing'
    · simp only [blank,↓reduceIte]
      refine yields_then (Source.follow_followed world sink source _ s') fun source' k s'' followed => yields_pure ?_
      exact followed.standing standing'
  | terminate => exact ending
  | drop => exact ending
  | control =>
    obtain ⟨source,pending⟩ := scene
    cases pending with
    | none => exact yields_pure standing
    | some update =>
      obtain ⟨settings,search⟩ := update
      cases outcome : search.outcome? with
      | none =>
        simp only [take,outcome]
        exact yields_bind fun s' => yields_pure standing
      | some found =>
        simp only [take,outcome]
        exact yields_then (conclude_standing world sink standing settings found s) fun source' h s' standing' =>
          yields_pure standing'
  | thread =>
    exact yields_then (Source.stepThread_standing world sink standing s) fun source' h s' standing' =>
      yields_pure standing'

theorem takeAll_standing {scene : Scene} (turns : List Turn) (standing : scene.source.Standing) (s : ω) :
    (takeAll world sink turns scene).Yields s fun scene' _ => scene'.source.Standing := by
  induction turns generalizing scene s with
  | nil => exact yields_pure standing
  | cons turn turns ih =>
    exact yields_then (take_standing world sink turn standing s) fun scene' h s' standing' => ih standing' s'

/-- Without a thread its turns do nothing. -/
theorem takeAll_still (n : Nat) (source : Source) (pending : Option (Settings × Search))
    (noThread : source.session.thread = none) :
    takeAll world sink (.replicate n .thread) ⟨source,pending⟩ = pure ⟨source,pending⟩ := by
  induction n with
  | zero => rfl
  | succ n ih => simp only [List.replicate_succ,takeAll,take,Source.stepThread,noThread,pure_bind,ih]

/-- Turns of the thread alone are steps of the thread. -/
theorem takeAll_threads (n : Nat) (source : Source) (pending : Option (Settings × Search)) (t : Thread)
    (thread : source.session.thread = some t) :
    takeAll world sink (.replicate n .thread) ⟨source,pending⟩ =
      (do return ⟨{ source with session.thread := some (← t.heed world sink (.replicate n false)) },pending⟩) := by
  induction n generalizing source t with
  | zero =>
    obtain ⟨config,session⟩ := source
    obtain ⟨device,format,interval,pool,_⟩ := session
    obtain rfl := thread
    rfl
  | succ n ih =>
    simp only [List.replicate_succ,takeAll,take,Source.stepThread,thread,Thread.heed,bind_assoc,pure_bind]
    refine bind_congr fun t' => ?_
    exact ih _ _ rfl

/-- While nobody but the thread acts, a thread that fails leaves the session as it is and winds up. -/
theorem threads_fail {source : Source} (standing : source.Standing) (pending : Option (Settings × Search)) (n : Nat)
    (s : ω) :
    (takeAll world sink (.replicate n .thread) ⟨source,pending⟩).Yields s fun scene h =>
      ∀ before e after, h = before ++ e :: after → e.isFatal = true →
        ∃ (config : Configuration) (terms : Terms) (places : List BufferPlace) (t t' : Thread),
          source = terms.source config places t ∧ scene.source = terms.source config places t' ∧
          (∀ e' ∈ h, e'.givesUp = false) ∧ Thread.Winding terms.device t'.frames after t'.phase := by
  rcases standing with none | ⟨config,terms,places,t,rfl,device⟩
  · rw [takeAll_still world sink n source pending (by rw [none]; rfl)]
    refine yields_pure fun before e after cut => ?_
    simp at cut
  · rw [takeAll_threads world sink n _ pending t rfl]
    have heeded : (t.heed world sink (.replicate n false)).Yields s fun t' h =>
        ∃ trail, Thread.Runs world t trail t' ∧ trail.map Prod.snd = h :=
      ⟨_,Thread.runs_trail world sink _ t s,Thread.events_trail world sink _ t s⟩
    refine yields_then heeded fun t' h s' course => yields_pure ?_
    obtain ⟨trail,run,rfl⟩ := course
    rw [List.append_nil]
    intro before e after cut fatal
    have winding := run.winds cut fatal
    rw [run.sameSession.1,device] at winding
    exact ⟨config,terms,places,t,t',rfl,rfl,run.keepsAll,winding⟩

/-- More turns go on from where the first ones left the source. -/
theorem live_append (settings : Settings) (turns others : List Turn) :
    live world sink settings (turns ++ others) = live world sink settings turns >>= takeAll world sink others :=
  takeAll_append (.update settings :: turns) others ⟨.blank,none⟩

/-- Whatever happened to a source before: if its thread fails while nobody else acts, the thread only turns the stream
    off and tells the consumer. The source keeps the session that it had, with its device open, its buffers mapped
    and the format and the interval that were agreed to, also when the thread has ended. Then it does not capture
    any more, and when it is told to end its session, each buffer is unmapped once and then the device is closed. -/
theorem failure_keeps_session (settings : Settings) (turns : List Turn) (n : Nat) (s : ω) :
    let reached := (live world sink settings turns).run s
    let run := (live world sink settings (turns ++ .replicate n .thread)).run s
    ∀ before e after, observed run.history = observed reached.history ++ (before ++ e :: after) → e.isFatal = true →
      ∃ (config : Configuration) (terms : Terms) (places : List BufferPlace) (t t' : Thread),
        reached.value.source = terms.source config places t ∧ run.value.source = terms.source config places t' ∧
        (∀ e' ∈ before ++ e :: after, e'.givesUp = false) ∧
        Thread.Winding terms.device t'.frames after t'.phase ∧
        (ledger (observed run.history)).devices.filter Handle.isSession = [terms.device] ∧
        (ledger (observed run.history)).mappings = (terms.pool places).mappings ∧
        (t'.phase = .ended → run.value.source.state = some .stopped ∧ run.value.source.isActive = false ∧
          ∀ s', (run.value.source.terminate world sink).Yields s' fun source h => source = ⟨some config,.none⟩ ∧
            ∃ unmapping, BufferPool.Unmapped terms.device places unmapping ∧
              h = unmapping ++ [.closed terms.device]) := by
  intro reached run before e after cut fatal
  have standing : (live world sink settings turns).Yields s fun scene _ => scene.source.Standing :=
    takeAll_standing world sink _ (.inl rfl) s
  have whole : run = (live world sink settings turns >>= takeAll world sink (.replicate n .thread)).run s :=
    congrArg (Course.run · s) (live_append world sink settings turns _)
  have later := threads_fail world sink standing reached.value.pending n reached.state
  rw [whole,Course.history_bind,observed_append] at cut
  have seen := List.append_cancel_left cut
  obtain ⟨config,terms,places,t,t',was,becomes,kept,winding⟩ := later before e after seen fatal
  have owned : Owned (ledger (observed run.history)) run.value := by
    have fresh : Owned Ledger.blank ⟨.blank,none⟩ := Ledger.owns_none rfl (by simp) rfl rfl
    exact (takeAll_leads (.update settings :: (turns ++ .replicate n .thread)) fresh s).2
  have source : run.value.source = terms.source config places t' := by
    rw [whole,Course.value_bind]
    exact becomes
  have devices := owned.sessionDevices
  have mappings := owned.mappings
  rw [source] at devices mappings
  refine ⟨config,terms,places,t,t',was,source,?_,winding,devices,mappings,fun ended => ?_⟩
  · rw [← seen]
    exact kept
  · have state : run.value.source.state = some .stopped := by
      rw [source]
      simp [Source.state,Terms.source,Thread.state,ended,Phase.state]
    refine ⟨state,by simp [Source.isActive,state],fun s' => ?_⟩
    rw [source]
    exact Source.terminate_ended world sink config terms places ended s'

open Simulation

/-- A camera that is unplugged when a frame is taken from it for the first time. -/
def unpluggedCamera : Script := { Script.willing with
  waits := [.ok true]
  dequeues := [.error (.system 19)] }

/-- The camera waits to be opened. -/
def unpluggedStage : Stage :=
  .set (.ok []) [("/dev/video0",unpluggedCamera)] ⟨false,false,false,none⟩ false

/-- The thread of a camera that is unplugged fails and ends. The buffers are unmapped and the device is closed when
    the source is told to end its session, and not before. -/
theorem failure_keeps_session_unplugged :
    let settings := Settings.empty.withDefaults.setText Settings.deviceKey "/dev/video0"
    let reached := (live Stage.world Stage.consumer settings []).run unpluggedStage
    let run := (live Stage.world Stage.consumer settings ([] ++ .replicate 12 .thread)).run unpluggedStage
    ∃ before failure after, observed run.history = observed reached.history ++ (before ++ failure :: after) ∧
      failure.isFatal = true ∧ (∀ e ∈ before ++ failure :: after, e.givesUp = false) ∧
      ∃ (config : Configuration) (terms : Terms) (places : List BufferPlace) (t : Thread),
        run.value.source = terms.source config places t ∧ run.value.source.state = some .stopped ∧
        ∀ s, (run.value.source.terminate Stage.world Stage.consumer).Yields s fun source h =>
          source = ⟨some config,.none⟩ ∧ ∃ unmapping, BufferPool.Unmapped terms.device places unmapping ∧
            h = unmapping ++ [.closed terms.device] := by
  intro settings reached run
  let later := (takeAll Stage.world Stage.consumer (.replicate 12 .thread) reached.value).run reached.state
  have seen : observed run.history = observed reached.history ++ observed later.history := by
    rw [← observed_append,← Course.history_bind,← live_append]
  have fails : (observed later.history).any Event.isFatal = true := by decide +kernel
  obtain ⟨failure,member,fatal⟩ := List.any_eq_true.mp fails
  obtain ⟨before,after,cut⟩ := List.append_of_mem member
  rw [cut] at seen
  obtain ⟨config,terms,places,-,t,-,source,kept,-,-,-,gives⟩ := failure_keeps_session Stage.world Stage.consumer
    settings [] 12 unpluggedStage before failure after seen fatal
  have ended : t.phase = .ended := by
    have phase : run.value.source.session.thread.map Thread.phase = some .ended := by decide +kernel
    rw [show run.value.source = terms.source config places t from source] at phase
    exact Option.some.inj phase
  obtain ⟨stopped,-,released⟩ := gives ended
  exact ⟨before,failure,after,seen,fatal,kept,config,terms,places,t,source,stopped,released⟩

/-- The thread has ended because the camera is gone, and nobody has called the source since: the device is open,
    four buffers are mapped, and format and interval are still there. Of a start that fails nothing is left. -/
theorem unplugged_session_kept :
    let settings := Settings.empty.withDefaults.setText Settings.deviceKey "/dev/video0"
    let run := (live Stage.world Stage.consumer settings (.replicate 12 .thread)).run unpluggedStage
    let h := observed run.history
    let source := run.value.source
    h.any Event.isFatal = true ∧ source.state = some .stopped ∧ source.session ≠ .none ∧
      (ledger h).devices = [⟨"/dev/video0",.session,0⟩] ∧ (ledger h).mappings.length = 4 ∧
      source.session.format = some ⟨640,480,.yuyv,0,0⟩ ∧ source.session.interval = some ⟨1,30⟩ := by
  decide +kernel

end Scene
end VideoCapture
