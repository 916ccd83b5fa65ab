import VideoCapture.Proofs.Capture.StopRequests
/-!
# Rounds without a buffer

A wait can time out or be interrupted, and a buffer that a wait announced can be missing when the thread asks
for it. Such a round is a `Hitch`. A world with hitches (`World.hitched`) is another world in which any number of
them come before each wait, as a plan says; apart from them it answers as that world does. Main statement: whatever
the plan, a thread in the world with hitches brings about what it brings about in the world without them, and the
hitches; and any other failure of a wait or of a request for a buffer is the last thing that happens before the
stream is turned off (`hitches_pass`).
-/
namespace VideoCapture

/-- A round in which no buffer comes. -/
inductive Hitch
  /-- The wait times out. -/
  | timeout
  /-- The wait is interrupted. -/
  | interrupted (fault : Fault) (kind : fault.kind = .interrupted)
  /-- The buffer that the wait announced is not there yet. -/
  | missing (fault : Fault) (transient : fault.isTransient = true)

namespace Hitch

/-- What the wait is answered. -/
def answer : Hitch → Except Fault Bool
  | timeout => .ok false
  | interrupted fault _ => .error fault
  | missing _ _ => .ok true

/-- Why there is no buffer after the wait, if the thread asks for one. -/
def fault? : Hitch → Option Fault
  | missing fault _ => some fault
  | _ => none

/-- How many steps the thread takes in it once it waits. -/
def stepCount : Hitch → Nat
  | missing _ _ => 2
  | _ => 1

/-- What a hitch brings about. -/
def events (device : Handle) : Hitch → History
  | timeout => [Thread.waited device (.ok false),.noticed .waitTimedOut]
  | interrupted fault _ => [Thread.waited device (.error fault)]
  | missing fault _ => [Thread.waited device (.ok true),Thread.dequeued device (.error fault)]

end Hitch

/-- A world's state, and the hitches to come. -/
structure Hitched (ω : Type) where
  state : ω
  /-- The hitches before the next wait, before the wait after it, and so on. -/
  plan : List (List Hitch)
  /-- Why the buffer is missing that a wait announced. -/
  fault? : Option Fault

variable {ω α β : Type}

/-- An answer of the world without hitches. -/
def Hitched.through (x : Hitched ω) (answer : α × ω) : α × Hitched ω := (answer.1,{ x with state := answer.2 })

/-- A world in which hitches come before its waits. -/
def World.hitched (world : World ω) : World (Hitched ω) where
  candidates x := x.through (world.candidates x.state)
  openDevice path purpose x := x.through (world.openDevice path purpose x.state)
  ask device request x :=
    match request with
    | .waitReadable milliseconds =>
      match x.plan with
      | (hitch :: hitches) :: later => (hitch.answer,⟨x.state,hitches :: later,hitch.fault?⟩)
      | [] :: later => { x with plan := later }.through (world.ask device (.waitReadable milliseconds) x.state)
      | [] => x.through (world.ask device (.waitReadable milliseconds) x.state)
    | .dequeueBuffer =>
      match x.fault? with
      | some fault => (.error fault,{ x with fault? := none })
      | none => x.through (world.ask device .dequeueBuffer x.state)
    | request => x.through (world.ask device request x.state)
  octet device place j x := world.octet device place j x.state
  close device x := { x with state := world.close device x.state }
  startThread x := x.through (world.startThread x.state)

/-- A consumer in a world with hitches. It does not know of them. -/
def Sink.hitched (sink : Sink ω) : Sink (Hitched ω) where
  started info x := x.through (sink.started info x.state)
  frame frame x := x.through (sink.frame frame x.state)
  stopped frames x := x.through (sink.stopped frames x.state)

/-- The run of an act that goes through to the world without hitches. -/
def Hitched.carry (x : Hitched ω) (run : Run Event ω α) : Run Event (Hitched ω) α :=
  ⟨run.value,run.history,{ x with state := run.state }⟩

/-- An act in the world with hitches that does what another one does in the world without them. -/
def Carries (act : Act ω α) (act' : Act (Hitched ω) α) : Prop := ∀ x, act'.run x = x.carry (act.run x.state)

namespace Carries
variable {world : World ω} {act : Act ω α} {act' : Act (Hitched ω) α} {next : α → Act ω β}
  {next' : α → Act (Hitched ω) β}

theorem pure (a : α) : Carries (Pure.pure a : Act ω α) (Pure.pure a) := fun _ => rfl

theorem bind (first : Carries act act') (each : ∀ a, Carries (next a) (next' a)) :
    Carries (act >>= next) (act' >>= next') := by
  intro x
  rw [Course.run_bind,Course.run_bind,first x]
  simp only [Hitched.carry,each _ _]

theorem notice {next : Unit → Act ω β} {next' : Unit → Act (Hitched ω) β} (told : Notice)
    (rest : Carries (next ()) (next' ())) : Carries (Act.notice told >>= next) (Act.notice told >>= next') :=
  bind (fun _ => rfl) fun _ => rest

theorem look {f : ω → α} (each : ∀ a, Carries (next a) (next' a)) :
    Carries (Course.look f >>= next) (Course.look (fun x : Hitched ω => f x.state) >>= next') :=
  bind (fun _ => rfl) each

theorem notify (call : SinkCall) (event : Bool → Event) {answer : ω → Bool × ω} {next : Bool → Act ω β}
    {next' : Bool → Act (Hitched ω) β} (each : ∀ returned, Carries (next returned) (next' returned)) :
    Carries (Sink.notify call event answer >>= next)
      (Sink.notify call event (fun x : Hitched ω => x.through (answer x.state)) >>= next') :=
  bind (fun _ => rfl) each

/-- A request other than for a filled buffer goes through. -/
theorem request {device : Handle} {r : Request} {next : Except Fault r.Reply → Act ω β}
    {next' : Except Fault r.Reply → Act (Hitched ω) β}
    (other : ∀ x : Hitched ω, world.hitched.ask device r x = x.through (world.ask device r x.state))
    (each : ∀ answer, Carries (next answer) (next' answer)) :
    Carries (world.request device r >>= next) (world.hitched.request device r >>= next') := by
  refine bind (fun x => ?_) each
  simp only [Course.run,World.request,other]
  rfl

end Carries

namespace Thread
variable {world : World ω} {sink : Sink ω}

/-- Away from waits and requests for a buffer a step is the same with hitches as without. -/
theorem step_carries (stop : Bool) {t : Thread} (noWait : t.phase ≠ .waiting) (noRequest : t.phase ≠ .dequeuing) :
    Carries (t.step world sink stop) (t.step world.hitched sink.hitched stop) := by
  cases phase : t.phase with
  | waiting => exact absurd phase noWait
  | dequeuing => exact absurd phase noRequest
  | queueing index =>
    by_cases below : index < t.pool.length
    · simp only [step,phase,below,↓reduceIte]
      refine .request (fun _ => rfl) fun answer => ?_
      cases answer with
      | ok _ => exact .pure _
      | error fault => exact .notice _ (.pure _)
    · simp only [step,phase,below,↓reduceIte]
      exact .pure _
  | startingStream =>
    simp only [step,phase]
    refine .request (fun _ => rfl) fun answer => ?_
    cases answer with
    | ok _ => exact .notice _ (.pure _)
    | error fault => exact .notice _ (.pure _)
  | announcing =>
    simp only [step,phase]
    refine .notify _ _ fun returned => ?_
    cases returned with
    | true => exact .pure _
    | false => exact .pure _
  | idle =>
    simp only [step,phase]
    exact .pure _
  | delivering buffer =>
    simp only [step,phase]
    refine .look fun data => ?_
    cases data with
    | none => exact .notice _ (.pure _)
    | some data =>
      refine .notify _ _ fun returned => ?_
      cases returned with
      | true => exact .pure _
      | false => exact .pure _
  | returning buffer goOn =>
    simp only [step,phase]
    refine .request (fun _ => rfl) fun answer => ?_
    cases answer with
    | ok _ => exact .pure _
    | error fault => exact .notice _ (.pure _)
  | stoppingStream =>
    simp only [step,phase]
    refine .request (fun _ => rfl) fun answer => ?_
    cases answer with
    | ok _ => exact .pure _
    | error fault => exact .notice _ (.pure _)
  | concluding =>
    simp only [step,phase]
    exact .notify _ _ fun returned => .notice _ (.pure _)
  | ended =>
    simp only [step,phase]
    exact .pure _

/-- A wait without a hitch goes through. -/
theorem step_waits (stop : Bool) {t : Thread} {x : Hitched ω} (phase : t.phase = .waiting)
    (clear : x.plan.headD [] = []) :
    (t.step world.hitched sink.hitched stop).run x =
      { x with plan := x.plan.tail }.carry ((t.step world sink stop).run x.state) := by
  have passes : (world.hitched.request t.device (.waitReadable waitMilliseconds)).run x =
      { x with plan := x.plan.tail }.carry ((world.request t.device (.waitReadable waitMilliseconds)).run x.state) := by
    obtain ⟨s,plan,fault?⟩ := x
    rcases plan with _ | ⟨_ | ⟨hitch,hitches⟩,later⟩
    · rfl
    · rfl
    · cases clear
  simp only [step,phase]
  rw [Course.run_bind,passes,Course.run_bind]
  generalize ((world.request t.device (.waitReadable waitMilliseconds)).run x.state) = first
  obtain ⟨answer,history,s⟩ := first
  cases answer with
  | ok isReady => cases isReady <;> rfl
  | error fault =>
    simp only [Hitched.carry]
    split <;> rfl

/-- Where no buffer is missing, a request for one goes through. -/
theorem step_dequeues (stop : Bool) {t : Thread} {x : Hitched ω} (phase : t.phase = .dequeuing)
    (clear : x.fault? = none) :
    (t.step world.hitched sink.hitched stop).run x = x.carry ((t.step world sink stop).run x.state) := by
  have passes : (world.hitched.request t.device .dequeueBuffer).run x =
      x.carry ((world.request t.device .dequeueBuffer).run x.state) := by
    obtain ⟨s,plan,fault?⟩ := x
    obtain rfl : fault? = none := clear
    rfl
  simp only [step,phase]
  rw [Course.run_bind,passes,Course.run_bind]
  generalize ((world.request t.device .dequeueBuffer).run x.state) = first
  obtain ⟨answer,history,s⟩ := first
  cases answer with
  | ok buffer => rfl
  | error fault =>
    simp only [Hitched.carry]
    split <;> rfl

/-- In a hitch the thread asks for the buffer if one was announced, and else begins another round. -/
theorem step_hitch (stop : Bool) {t : Thread} {s : ω} {hitch : Hitch} {hitches : List Hitch} {later : List (List Hitch)}
    (phase : t.phase = .waiting) :
    (t.step world.hitched sink.hitched stop).run ⟨s,(hitch :: hitches) :: later,none⟩ =
      match hitch with
      | .missing _ _ => ⟨t.enter .dequeuing,[waited t.device (.ok true)],⟨s,hitches :: later,hitch.fault?⟩⟩
      | _ => ⟨t.enter .idle,hitch.events t.device,⟨s,hitches :: later,none⟩⟩ := by
  simp only [step,phase]
  cases hitch with
  | timeout => rfl
  | missing fault transient => rfl
  | interrupted fault kind =>
    rw [Course.run_bind]
    simp only [Course.run,World.request,World.hitched,Hitch.answer,kind,↓reduceIte]
    rfl

theorem step_missing (stop : Bool) {t : Thread} {s : ω} {plan : List (List Hitch)} {fault : Fault}
    (phase : t.phase = .dequeuing) (transient : fault.isTransient = true) :
    (t.step world.hitched sink.hitched stop).run ⟨s,plan,some fault⟩ =
      ⟨t.enter .idle,[dequeued t.device (.error fault)],⟨s,plan,none⟩⟩ := by
  simp only [step,phase]
  rw [Course.run_bind]
  simp only [Course.run,World.request,World.hitched,transient,↓reduceIte]
  rfl

/-! ### What is seen of hitches -/

/-- Whether an event is a wait for a filled buffer. -/
def isWait : Event → Bool
  | .asked _ (.waitReadable _) _ => true
  | _ => false

/-- A history with the hitches of a plan, each of them before the wait that it was planned for, and the plan that is
    left. -/
inductive Delayed (device : Handle) : List (List Hitch) → History → List (List Hitch) → History → Prop
  | rest (plan : List (List Hitch)) : Delayed device plan [] plan []
  | hitch {hitch : Hitch} {hitches : List Hitch} {later left : List (List Hitch)} {h k : History}
      (others : Delayed device (hitches :: later) h left k) :
      Delayed device ((hitch :: hitches) :: later) h left (hitch.events device ++ k)
  | wait {plan left : List (List Hitch)} {answer : Except Fault Bool} {h k : History} (clear : plan.headD [] = [])
      (others : Delayed device plan.tail h left k) :
      Delayed device plan (waited device answer :: h) left (waited device answer :: k)
  | same {plan left : List (List Hitch)} {e : Event} {h k : History} (noWait : isWait e = false)
      (others : Delayed device plan h left k) : Delayed device plan (e :: h) left (e :: k)

/-- Whether an event can belong to a round without a buffer. -/
def passes : Event → Bool
  | .asked _ (.waitReadable _) (.ok _) => true
  | .asked _ (.waitReadable _) (.error fault) => fault.kind = .interrupted
  | .asked _ .dequeueBuffer (.error fault) => fault.isTransient
  | .noticed .waitTimedOut => true
  | _ => false

/-- A history without the events that can belong to rounds without a buffer: all frames and all other calls to the
    consumer, all buffers that came and all that were queued, all other requests, the failures that end the
    rounds, and whatever people are told but that a wait timed out. -/
def lasting (h : History) : History := h.filter fun e => !passes e

/-- Whether an event is a call to the consumer, a request to take a buffer, or a warning or an error. -/
def matters : Event → Bool
  | .started _ _ | .delivered _ _ | .stopped _ _ | .asked _ (.queueBuffer _) _ => true
  | .noticed notice => notice.level.rank ≤ Level.warn.rank
  | _ => false

/-- All that matters lasts. -/
theorem filter_matters_lasting (h : History) : (lasting h).filter matters = h.filter matters := by
  rw [lasting,List.filter_filter]
  refine List.filter_congr fun e _ => ?_
  cases pass : passes e with
  | false => simp
  | true =>
    have indifferent : matters e = false := by
      revert pass
      unfold passes
      split <;> simp [matters,Notice.level,Level.rank]
    simp [indifferent]

theorem Hitch.lasting_events (hitch : Hitch) (device : Handle) : lasting (hitch.events device) = [] := by
  cases hitch with
  | timeout => rfl
  | interrupted fault kind => simp [lasting,Hitch.events,passes,kind]
  | missing fault transient => simp [lasting,Hitch.events,passes,transient]

theorem lasting_append (h k : History) : lasting (h ++ k) = lasting h ++ lasting k := List.filter_append ..

namespace Delayed
variable {device : Handle} {plan left : List (List Hitch)} {h k : History}

theorem append (delayed : Delayed device plan h left k) {p : History} (noWaits : ∀ e ∈ p, isWait e = false) :
    Delayed device plan (p ++ h) left (p ++ k) := by
  induction p with
  | nil => exact delayed
  | cons e p ih =>
    obtain ⟨noWait,others⟩ := List.forall_mem_cons.mp noWaits
    exact .same noWait (ih others)

/-- Hitches change nothing of what lasts. -/
theorem lasting_eq (delayed : Delayed device plan h left k) : lasting k = lasting h := by
  induction delayed with
  | rest plan => rfl
  | hitch others ih => rw [lasting_append,Hitch.lasting_events,List.nil_append,ih]
  | wait clear others ih | same noWait others ih =>
    simp only [lasting,List.filter_cons] at ih ⊢
    rw [ih]

end Delayed

/-! ### Steps side by side -/

theorem isWait_of_isNotice {e : Event} (notice : e.isNotice = true) : isWait e = false := by
  cases e with
  | noticed _ => rfl
  | _ => cases notice

/-- Only a waiting thread waits. -/
theorem Move.isWait_eq_false {s : ω} {stop : Bool} {t t' : Thread} {e : Event} (move : Move world s stop t (some e) t')
    (notWaiting : t.phase ≠ .waiting) : isWait e = false := by
  cases move with
  | ready phase | timeout phase | interrupted phase _ | waitFails phase _ => exact absurd phase notWaiting
  | _ => rfl

variable (world sink)

theorem step_noWaits (stop : Bool) {t : Thread} (s : ω) (notWaiting : t.phase ≠ .waiting) :
    ∀ e ∈ ((t.step world sink stop).run s).history, isWait e = false := by
  intro e member
  obtain ⟨o,seen,move⟩ := step_move world sink stop t s
  cases notice : e.isNotice with
  | true => exact isWait_of_isNotice notice
  | false =>
    have visible : e ∈ o.toList := by
      rw [← seen]
      exact List.mem_filter.mpr ⟨member,by simp [notice]⟩
    rw [Option.mem_toList] at visible
    subst visible
    exact move.isWait_eq_false notWaiting

theorem step_wait (stop : Bool) {t : Thread} (s : ω) (phase : t.phase = .waiting) :
    ∃ answer told, ((t.step world sink stop).run s).history = waited t.device answer :: told ∧
      ∀ e ∈ told, isWait e = false := by
  simp only [step,phase]
  rw [Course.run_bind]
  generalize request : ((world.request t.device (.waitReadable waitMilliseconds)).run s) = first
  obtain ⟨answer,history,s'⟩ := first
  obtain rfl : [waited t.device answer] = history := by
    cases request
    rfl
  refine ⟨answer,_,rfl,?_⟩
  cases answer with
  | ok isReady =>
    cases isReady with
    | true => exact List.forall_mem_nil _
    | false => exact List.forall_mem_singleton.mpr rfl
  | error fault =>
    by_cases kind : fault.kind = .interrupted
    · simp only [kind,↓reduceIte]
      exact List.forall_mem_nil _
    · simp only [kind,↓reduceIte]
      exact List.forall_mem_singleton.mpr rfl

theorem device_step (stop : Bool) (t : Thread) (s : ω) :
    ((t.step world sink stop).run s).value.device = t.device := by
  obtain ⟨o,-,move⟩ := step_move world sink stop t s
  exact move.sameSession.1

/-- A thread begins to wait at the start of a round in which it is not told to stop. -/
theorem step_begins {stop : Bool} {t : Thread} {s : ω} (begins : ((t.step world sink stop).run s).value.phase = .waiting) :
    t.phase = .idle ∧ stop = false := by
  obtain ⟨o,-,move⟩ := step_move world sink stop t s
  generalize ((t.step world sink stop).run s).value = t' at begins move
  cases move with
  | goOn phase notRequested => exact ⟨phase,notRequested⟩
  | stay phase => rw [phase] at begins; cases begins
  | _ => cases begins

/-- In front of no hitch, a step is the same with hitches as without. -/
theorem step_level (stop : Bool) {t : Thread} {s : ω} {plan : List (List Hitch)}
    (clear : t.phase = .waiting ∨ t.phase = .idle ∧ stop = false → plan.headD [] = []) :
    let one := (t.step world sink stop).run s
    ∃ plan', (one.value.phase = .waiting → plan'.headD [] = []) ∧
      (t.step world.hitched sink.hitched stop).run ⟨s,plan,none⟩ = ⟨one.value,one.history,⟨one.state,plan',none⟩⟩ ∧
      ∀ h left k, Delayed t.device plan' h left k →
        Delayed t.device plan (one.history ++ h) left (one.history ++ k) := by
  intro one
  by_cases phase : t.phase = .waiting
  · have clear := clear (.inl phase)
    refine ⟨plan.tail,fun begins => ?_,step_waits stop phase clear,fun h left k delayed => ?_⟩
    · have idle := (step_begins world sink begins).1
      rw [phase] at idle
      cases idle
    · obtain ⟨answer,told,seen,noWaits⟩ := step_wait world sink stop s phase
      simp only [one,seen,List.cons_append]
      exact .wait clear (delayed.append noWaits)
  · refine ⟨plan,fun begins => clear (.inr (step_begins world sink begins)),?_,fun h left k delayed => ?_⟩
    · by_cases request : t.phase = .dequeuing
      · exact step_dequeues stop request rfl
      · exact step_carries stop phase request ⟨s,plan,none⟩
    · exact delayed.append (step_noWaits world sink stop s phase)

/-! ### Rounds with a hitch -/

theorem heed_append (stops others : List Bool) (t : Thread) :
    t.heed world sink (stops ++ others) = (do (← t.heed world sink stops).heed world sink others) := by
  induction stops generalizing t with
  | nil => simp only [List.nil_append,heed,pure_bind]
  | cons stop stops ih => simp only [List.cons_append,heed,ih,bind_assoc]

/-- A waiting thread is back at the start of a round after a hitch, whether it is told to stop meanwhile or not. -/
theorem heed_hitch {t : Thread} (phase : t.phase = .waiting) (hitch : Hitch) {hitches : List Hitch}
    {later : List (List Hitch)} {s : ω} {stops : List Bool} (count : stops.length = hitch.stepCount) :
    (t.heed world.hitched sink.hitched stops).run ⟨s,(hitch :: hitches) :: later,none⟩ =
      ⟨t.enter .idle,hitch.events t.device,⟨s,hitches :: later,none⟩⟩ := by
  cases hitch with
  | timeout | interrupted fault kind =>
    obtain ⟨stop,rfl⟩ := List.length_eq_one_iff.mp count
    rw [heed,Course.run_bind,step_hitch stop phase]
    rfl
  | missing fault transient =>
    obtain ⟨stop,stop',rfl⟩ := List.length_eq_two.mp count
    rw [heed,Course.run_bind,step_hitch stop phase]
    simp only [heed,Hitch.fault?]
    rw [Course.run_bind,step_missing stop' rfl transient]
    rfl

/-- A thread that is not told to stop at the start of a round with a hitch is back there after it. -/
theorem heed_round {t : Thread} (idle : t.phase = .idle) (hitch : Hitch) {hitches : List Hitch}
    {later : List (List Hitch)} {s : ω} {stops : List Bool} (count : stops.length = hitch.stepCount) :
    (t.heed world.hitched sink.hitched (false :: stops)).run ⟨s,(hitch :: hitches) :: later,none⟩ =
      ⟨t,hitch.events t.device,⟨s,hitches :: later,none⟩⟩ := by
  have back : (t.enter .waiting).enter .idle = t := by
    rw [enter,enter,← idle]
  have begins : t.step world.hitched sink.hitched false = pure (t.enter .waiting) := by
    simp only [step,idle,Bool.false_eq_true,↓reduceIte]
  rw [heed,begins,pure_bind,heed_hitch world sink rfl hitch count,back]
  rfl

/-- A thread that is over in the end has taken all the steps of a hitch that it waited for. -/
theorem stepCount_le_of_ended {t : Thread} (phase : t.phase = .waiting) (hitch : Hitch) {hitches : List Hitch}
    {later : List (List Hitch)} {s : ω} {stops : List Bool}
    (ended : ((t.heed world.hitched sink.hitched stops).run ⟨s,(hitch :: hitches) :: later,none⟩).value.phase = .ended) :
    hitch.stepCount ≤ stops.length := by
  rcases stops with _ | ⟨stop,_ | ⟨stop',stops⟩⟩
  · cases phase.symm.trans ended
  · cases hitch with
    | timeout | interrupted fault kind => exact Nat.le_refl _
    | missing fault transient =>
      rw [heed,Course.run_bind,step_hitch stop phase] at ended
      cases ended
  · cases hitch <;> simp [Hitch.stepCount]

/-! ### Runs side by side -/

/-- A run in the world with hitches comes to the same as one in the world without them, and has their history with
    the hitches in it. -/
structure Alongside (device : Handle) (plan : List (List Hitch)) (one : Run Event ω Thread)
    (other : Run Event (Hitched ω) Thread) : Prop where
  value : other.value = one.value
  state : other.state.state = one.state
  history : Delayed device plan one.history other.state.plan other.history

variable {world sink} in
/-- A step that is the same in both worlds goes before whatever comes alongside. -/
theorem Alongside.step {stop : Bool} {stops stops' : List Bool} {t : Thread} {s : ω} {plan plan' : List (List Hitch)}
    {one : Run Event ω Thread} (first : (t.step world sink stop).run s = one)
    (same : (t.step world.hitched sink.hitched stop).run ⟨s,plan,none⟩ =
      ⟨one.value,one.history,⟨one.state,plan',none⟩⟩)
    (delays : ∀ h left k, Delayed t.device plan' h left k →
      Delayed t.device plan (one.history ++ h) left (one.history ++ k))
    (others : Alongside t.device plan' ((one.value.heed world sink stops).run one.state)
      ((one.value.heed world.hitched sink.hitched stops').run ⟨one.state,plan',none⟩)) :
    Alongside t.device plan ((t.heed world sink (stop :: stops)).run s)
      ((t.heed world.hitched sink.hitched (stop :: stops')).run ⟨s,plan,none⟩) := by
  rw [heed,Course.run_bind,heed,Course.run_bind,first,same]
  exact ⟨others.value,others.state,delays _ _ _ others.history⟩

variable {world sink} in
/-- A round with a hitch goes before whatever comes alongside. -/
theorem Alongside.round {stops others : List Bool} {t : Thread} {s : ω} {hitch : Hitch} {hitches : List Hitch}
    {later : List (List Hitch)} {one : Run Event ω Thread} (idle : t.phase = .idle)
    (count : stops.length = hitch.stepCount)
    (along : Alongside t.device (hitches :: later) one
      ((t.heed world.hitched sink.hitched others).run ⟨s,hitches :: later,none⟩)) :
    Alongside t.device ((hitch :: hitches) :: later) one
      ((t.heed world.hitched sink.hitched ((false :: stops) ++ others)).run ⟨s,(hitch :: hitches) :: later,none⟩) := by
  rw [heed_append,Course.run_bind,heed_round world sink idle hitch count]
  exact ⟨along.value,along.state,.hitch along.history⟩

/-- A thread can go through the hitches that are in front of it. -/
theorem exists_clear {t : Thread} (idle : t.phase = .idle) (s : ω) (plan : List (List Hitch)) :
    ∃ stops plan', plan'.headD [] = [] ∧ ∀ one others,
      Alongside t.device plan' one ((t.heed world.hitched sink.hitched others).run ⟨s,plan',none⟩) →
        Alongside t.device plan one ((t.heed world.hitched sink.hitched (stops ++ others)).run ⟨s,plan,none⟩) := by
  cases plan with
  | nil => exact ⟨[],[],rfl,fun one others along => along⟩
  | cons hitches later =>
    induction hitches with
    | nil => exact ⟨[],[] :: later,rfl,fun one others along => along⟩
    | cons hitch hitches ih =>
      obtain ⟨stops,plan',clear,goesOn⟩ := ih
      refine ⟨false :: List.replicate hitch.stepCount false ++ stops,plan',clear,fun one others along => ?_⟩
      rw [List.append_assoc]
      exact .round idle List.length_replicate (goesOn one others along)

/-- What a thread does without hitches it can do with them. -/
theorem exists_hitched (stops : List Bool) (t : Thread) (s : ω) (plan : List (List Hitch))
    (clear : t.phase = .waiting → plan.headD [] = []) :
    ∃ stops', Alongside t.device plan ((t.heed world sink stops).run s)
      ((t.heed world.hitched sink.hitched stops').run ⟨s,plan,none⟩) := by
  induction stops generalizing t s plan with
  | nil => exact ⟨[],rfl,rfl,.rest plan⟩
  | cons stop stops ih =>
    have goesOn : ∀ plan', (t.phase = .waiting ∨ t.phase = .idle ∧ stop = false → plan'.headD [] = []) →
        ∃ stops', Alongside t.device plan' ((t.heed world sink (stop :: stops)).run s)
          ((t.heed world.hitched sink.hitched stops').run ⟨s,plan',none⟩) := by
      intro plan' clear
      obtain ⟨left,clear',same,delays⟩ := step_level world sink stop (s := s) clear
      obtain ⟨stops',along⟩ := ih _ _ left clear'
      rw [device_step] at along
      exact ⟨stop :: stops',.step rfl same delays along⟩
    by_cases begins : t.phase = .idle ∧ stop = false
    · obtain ⟨first,plan',clear',passes⟩ := exists_clear world sink begins.1 s plan
      obtain ⟨stops',along⟩ := goesOn plan' fun _ => clear'
      exact ⟨first ++ stops',passes _ _ along⟩
    · exact goesOn plan fun phase => clear (phase.resolve_right begins)

/-- What a thread does with hitches until it is over it can do without them. -/
theorem exists_plain (stops' : List Bool) (t : Thread) (s : ω) (plan : List (List Hitch))
    (clear : t.phase = .waiting → plan.headD [] = [])
    (ended : ((t.heed world.hitched sink.hitched stops').run ⟨s,plan,none⟩).value.phase = .ended) :
    ∃ stops, Alongside t.device plan ((t.heed world sink stops).run s)
      ((t.heed world.hitched sink.hitched stops').run ⟨s,plan,none⟩) := by
  induction count : stops'.length using Nat.strong_induction_on generalizing stops' t s plan with
  | _ total ih =>
    cases stops' with
    | nil => exact ⟨[],rfl,rfl,.rest plan⟩
    | cons stop stops' =>
      by_cases blocked : (t.phase = .idle ∧ stop = false) ∧ ∃ hitch hitches later, plan = (hitch :: hitches) :: later
      · -- The round with the hitch leads back to its start, with fewer steps to go.
        obtain ⟨⟨idle,rfl⟩,hitch,hitches,later,rfl⟩ := blocked
        have begins : t.step world.hitched sink.hitched false = pure (t.enter .waiting) := by
          simp only [Thread.step,idle,Bool.false_eq_true,↓reduceIte]
        have enough : hitch.stepCount ≤ stops'.length := by
          rw [heed,begins,pure_bind] at ended
          exact stepCount_le_of_ended world sink rfl hitch ended
        have taken : (stops'.take hitch.stepCount).length = hitch.stepCount := List.length_take_of_le enough
        have fewer : (stops'.drop hitch.stepCount).length < total := by
          rw [List.length_drop,← count,List.length_cons]
          omega
        have cut : false :: stops' = (false :: stops'.take hitch.stepCount) ++ stops'.drop hitch.stepCount := by
          rw [List.cons_append,List.take_append_drop]
        rw [cut,heed_append,Course.run_bind,heed_round world sink idle hitch taken] at ended
        have notWaiting : t.phase = .waiting → (hitches :: later).headD [] = [] := by
          intro phase
          cases idle.symm.trans phase
        obtain ⟨stops,along⟩ := ih _ fewer _ t s (hitches :: later) notWaiting ended rfl
        rw [cut]
        exact ⟨stops,.round idle taken along⟩
      · have clear : t.phase = .waiting ∨ t.phase = .idle ∧ stop = false → plan.headD [] = [] := by
          rintro (phase | begins)
          · exact clear phase
          · rcases plan with _ | ⟨_ | ⟨hitch,hitches⟩,later⟩
            · rfl
            · rfl
            · exact absurd ⟨begins,hitch,hitches,later,rfl⟩ blocked
        obtain ⟨left,clear',same,delays⟩ := step_level world sink stop (s := s) clear
        have fewer : stops'.length < total := by
          rw [← count,List.length_cons]
          omega
        rw [heed,Course.run_bind,same] at ended
        obtain ⟨stops,along⟩ := ih _ fewer stops' _ _ left clear' ended rfl
        rw [device_step] at along
        exact ⟨stop :: stops,.step rfl same delays along⟩

/-! ### A whole life -/

theorem live_eq_heed (stops : List Bool) (t : Thread) (s : ω) :
    ∃ stops', (t.live world sink stops).run s = (t.heed world sink stops').run s := by
  refine ⟨stops ++ .replicate ((t.heed world sink stops).run s).value.distance true,?_⟩
  rw [live,heed_append,Course.run_bind,Course.run_bind,finish,steps_eq_heed]

theorem live_of_ended {stops : List Bool} {t : Thread} {s : ω}
    (ended : ((t.heed world sink stops).run s).value.phase = .ended) :
    (t.live world sink stops).run s = (t.heed world sink stops).run s := by
  rw [live,Course.run_bind,finish_of_ended world sink ended,Course.run_pure,List.append_nil]

variable {world} in
theorem Runs.of_ended {t t' : Thread} {h : Trail ω} (run : Runs world t h t') (ended : t.phase = .ended) :
    h = [] ∧ t' = t := by
  induction run with
  | rest t => exact ⟨rfl,rfl⟩
  | move first _ ih =>
    obtain ⟨rfl,rfl⟩ := first.of_ended ended
    exact ih ended

variable {world} in
/-- Once a thread is about to turn the stream off, it does so, tells the consumer that the session is over, and does
    nothing else. -/
theorem Runs.concludes {t t' : Thread} {h : Trail ω} (run : Runs world t h t') (phase : t.phase = .stoppingStream)
    (ended : t'.phase = .ended) :
    ∃ answer returned, h.map Prod.snd = [streamedOff t.device answer,.stopped t'.frames returned] := by
  obtain ⟨s,stop,o,t₁,rest,move,others,rfl⟩ := run.next (by simp [phase,ended])
  cases move with
  | streamOff _ =>
    obtain ⟨s',stop',o',t₂,rest',move',others',rfl⟩ := others.next (by simp [enter,ended])
    cases move' with
    | conclude _ =>
      obtain ⟨rfl,rfl⟩ := others'.of_ended rfl
      exact ⟨_,_,rfl⟩
    | _ => simp_all [enter]
  | _ => simp_all

/-- The failures of a wait and of a request for a buffer after which there is no further round. -/
inductive EndsRounds (device : Handle) : Event → Prop
  | wait {fault : Fault} (kind : fault.kind ≠ .interrupted) : EndsRounds device (waited device (.error fault))
  | dequeue {fault : Fault} (lasts : fault.isTransient = false) : EndsRounds device (dequeued device (.error fault))

variable {world} in
theorem Move.endsRounds {s : ω} {stop : Bool} {t t' : Thread} {device : Handle} {e : Event}
    (move : Move world s stop t (some e) t') (ends : EndsRounds device e) : t'.phase = .stoppingStream := by
  cases ends with
  | wait kind =>
    cases move with
    | interrupted _ interrupted => exact absurd interrupted kind
    | waitFails _ _ => rfl
  | dequeue lasts =>
    cases move with
    | retry _ transient => rw [transient] at lasts; cases lasts
    | dequeueFails _ _ => rfl

/-- Whatever the device answers, and however many rounds without a buffer come before whichever waits: what a thread
    does without these rounds it can do with them, and it can do nothing else with them, depending on when it is
    told to stop. It ends in the same state with the same count of frames, and the history is the same but for the
    events of these rounds, each in its place. So all that lasts is the same, and with it all that matters: the
    frames and the other calls to the consumer, the buffers that are queued, the warnings and the errors. A failure
    that is not of such a round is the end: the stream is turned off, the consumer is told so, and nothing else
    happens. -/
theorem hitches_pass (device : Handle) (pool : BufferPool) (geometry : FrameGeometry) (info : SessionStart)
    (plan : List (List Hitch)) (s : ω) :
    let fresh := spawn device pool geometry info
    let plain := fun stops => (fresh.live world sink stops).run s
    let hitched := fun stops => (fresh.live world.hitched sink.hitched stops).run ⟨s,plan,none⟩
    let Same := fun (one : Run Event ω Thread) (other : Run Event (Hitched ω) Thread) =>
      other.value = one.value ∧ other.state.state = one.state ∧
        Delayed device plan one.history other.state.plan other.history ∧
        lasting other.history = lasting one.history ∧ other.history.filter matters = one.history.filter matters
    (∀ stops, ∃ stops', Same (plain stops) (hitched stops')) ∧
    (∀ stops', ∃ stops, Same (plain stops) (hitched stops')) ∧
    ∀ stops before e after, observed (plain stops).history = before ++ e :: after → EndsRounds device e →
      ∃ answer returned, after = [streamedOff device answer,.stopped (plain stops).value.frames returned] := by
  intro fresh plain hitched Same
  have same {one : Run Event ω Thread} {other : Run Event (Hitched ω) Thread}
      (along : Alongside device plan one other) : Same one other := by
    have lasts := along.history.lasting_eq
    refine ⟨along.value,along.state,along.history,lasts,?_⟩
    rw [← filter_matters_lasting,lasts,filter_matters_lasting]
  have notWaiting : fresh.phase = .waiting → plan.headD [] = [] := nofun
  refine ⟨fun stops => ?_,fun stops' => ?_,?_⟩
  · obtain ⟨flags,one⟩ := live_eq_heed world sink stops fresh s
    obtain ⟨flags',along⟩ := exists_hitched world sink flags fresh s plan notWaiting
    have ended : ((fresh.heed world sink flags).run s).value.phase = .ended := by
      rw [← one]
      exact live_ended world sink stops fresh s
    have other := live_of_ended world.hitched sink.hitched (by rwa [along.value])
    refine ⟨flags',?_⟩
    simp only [plain,hitched,one,other]
    exact same along
  · obtain ⟨flags',other⟩ := live_eq_heed world.hitched sink.hitched stops' fresh ⟨s,plan,none⟩
    have ended : ((fresh.heed world.hitched sink.hitched flags').run ⟨s,plan,none⟩).value.phase = .ended := by
      rw [← other]
      exact live_ended world.hitched sink.hitched stops' fresh ⟨s,plan,none⟩
    obtain ⟨flags,along⟩ := exists_plain world sink flags' fresh s plan notWaiting ended
    have one := live_of_ended world sink (by rwa [← along.value])
    refine ⟨flags,?_⟩
    simp only [plain,hitched,one,other]
    exact same along
  · intro stops before e after cut ends
    obtain ⟨s',stop,t₁,t₂,h,k,reached,move,left,-,rfl⟩ := exists_move_of_live world sink cut
    have device₂ : t₂.device = device := move.sameSession.1.trans reached.sameSession.1
    rw [← device₂]
    exact left.concludes (move.endsRounds ends) (live_ended world sink stops fresh s)

open Simulation in
/-- On stage, a round more that times out and one more without its buffer make no difference to the consumer. -/
example :
    let hitches : List (List Hitch) := [[.timeout,.missing (.bare .wouldBlock) rfl]]
    let fresh := spawn camera twoBuffers default default
    let plain := (fresh.live Stage.world Stage.consumer (.replicate 12 false)).run rehearsal
    let hitched := (fresh.live Stage.world.hitched Stage.consumer.hitched (.replicate 17 false)).run
      ⟨rehearsal,hitches,none⟩
    plain.value.frames = 1 ∧ hitched.value = plain.value ∧ hitched.history.length = plain.history.length + 4 := by
  decide +kernel

end Thread
end VideoCapture
