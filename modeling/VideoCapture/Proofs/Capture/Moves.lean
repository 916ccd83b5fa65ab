import VideoCapture.Capture.Thread
import VideoCapture.Proofs.Acts
/-!
# Moves of a capture thread

What one step of a capture thread can be, as a relation: at most one event that can be seen from
outside, and the thread after it. Whatever is said of all runs of a thread is said of `Move` first
and follows for runs by induction (`Runs.invariant`). A run can be cut at any of its events
(`Runs.split`), so that what holds at an event is what holds in the phase that brings it about.
-/
namespace VideoCapture

namespace Thread

/-- A request to take a buffer back. -/
abbrev queued (device : Handle) (index : UInt32) (answer : Except Fault Unit) : Event :=
  .asked device (.queueBuffer index) answer
/-- A request to turn the stream on. -/
abbrev streamedOn (device : Handle) (answer : Except Fault Unit) : Event :=
  .asked device .streamOn answer
/-- A request to turn the stream off. -/
abbrev streamedOff (device : Handle) (answer : Except Fault Unit) : Event :=
  .asked device .streamOff answer
/-- A wait for a filled buffer. -/
abbrev waited (device : Handle) (answer : Except Fault Bool) : Event :=
  .asked device (.waitReadable waitMilliseconds) answer
/-- A request for a filled buffer. -/
abbrev dequeued (device : Handle) (answer : Except Fault FilledBuffer) : Event :=
  .asked device .dequeueBuffer answer

/-- The filled buffer that a device hands out by an event. -/
def filled? (device : Handle) : Event → Option FilledBuffer
  | .asked d .dequeueBuffer (.ok buffer) => if d = device then some buffer else none
  | _ => none

variable {ω : Type} (world : World ω) (sink : Sink ω)

/-- The frame that a thread makes of a mapped buffer. -/
def shot (t : Thread) (place : BufferPlace) (buffer : FilledBuffer) (s : ω) : Frame :=
  t.geometry.view (world.contents t.pool.device place s) buffer

/-- One step of a thread while the world is in state `s`, under the stop flag `stop`. -/
inductive Move (s : ω) (stop : Bool) (t : Thread) : Option Event → Thread → Prop
  | queue {index : Nat} (phase : t.phase = .queueing index) (below : index < t.pool.length) :
      Move s stop t (some (queued t.device (.ofNat index) (.ok ()))) (t.enter (.queueing (index + 1)))
  | queueFails {index : Nat} {fault : Fault} (phase : t.phase = .queueing index)
      (below : index < t.pool.length) :
      Move s stop t (some (queued t.device (.ofNat index) (.error fault))) (t.enter .stoppingStream)
  | allQueued {index : Nat} (phase : t.phase = .queueing index) (all : t.pool.length ≤ index) :
      Move s stop t none (t.enter .startingStream)
  | streamOn (phase : t.phase = .startingStream) :
      Move s stop t (some (streamedOn t.device (.ok ()))) (t.enter .announcing)
  | streamOnFails {fault : Fault} (phase : t.phase = .startingStream) :
      Move s stop t (some (streamedOn t.device (.error fault))) (t.enter .stoppingStream)
  | announce (phase : t.phase = .announcing) :
      Move s stop t (some (.started t.info true)) (t.enter .idle)
  | announceBreaks (phase : t.phase = .announcing) :
      Move s stop t (some (.started t.info false)) (t.enter .stoppingStream)
  | halt (phase : t.phase = .idle) (requested : stop = true) :
      Move s stop t none (t.enter .stoppingStream)
  | goOn (phase : t.phase = .idle) (notRequested : stop = false) :
      Move s stop t none (t.enter .waiting)
  | ready (phase : t.phase = .waiting) :
      Move s stop t (some (waited t.device (.ok true))) (t.enter .dequeuing)
  | timeout (phase : t.phase = .waiting) :
      Move s stop t (some (waited t.device (.ok false))) (t.enter .idle)
  | interrupted {fault : Fault} (phase : t.phase = .waiting) (kind : fault.kind = .interrupted) :
      Move s stop t (some (waited t.device (.error fault))) (t.enter .idle)
  | waitFails {fault : Fault} (phase : t.phase = .waiting) (kind : fault.kind ≠ .interrupted) :
      Move s stop t (some (waited t.device (.error fault))) (t.enter .stoppingStream)
  | dequeue {buffer : FilledBuffer} (phase : t.phase = .dequeuing) :
      Move s stop t (some (dequeued t.device (.ok buffer))) (t.enter (.delivering buffer))
  | retry {fault : Fault} (phase : t.phase = .dequeuing) (transient : fault.isTransient = true) :
      Move s stop t (some (dequeued t.device (.error fault))) (t.enter .idle)
  | dequeueFails {fault : Fault} (phase : t.phase = .dequeuing)
      (lasting : fault.isTransient = false) :
      Move s stop t (some (dequeued t.device (.error fault))) (t.enter .stoppingStream)
  | deliver {buffer : FilledBuffer} {place : BufferPlace} (phase : t.phase = .delivering buffer)
      (known : t.pool.mapping? buffer.index.toNat = some place) :
      Move s stop t (some (.delivered (t.shot world place buffer s) true))
        { t with phase := .returning buffer true, frames := t.frames + 1 }
  | deliverBreaks {buffer : FilledBuffer} {place : BufferPlace} (phase : t.phase = .delivering buffer)
      (known : t.pool.mapping? buffer.index.toNat = some place) :
      Move s stop t (some (.delivered (t.shot world place buffer s) false))
        (t.enter (.returning buffer false))
  | unknown {buffer : FilledBuffer} (phase : t.phase = .delivering buffer)
      (strange : t.pool.mapping? buffer.index.toNat = none) :
      Move s stop t none (t.enter (.returning buffer true))
  | giveBack {buffer : FilledBuffer} (phase : t.phase = .returning buffer true) :
      Move s stop t (some (queued t.device buffer.index (.ok ()))) (t.enter .idle)
  | giveBackLast {buffer : FilledBuffer} (phase : t.phase = .returning buffer false) :
      Move s stop t (some (queued t.device buffer.index (.ok ()))) (t.enter .stoppingStream)
  | giveBackFails {buffer : FilledBuffer} {goOn : Bool} {fault : Fault}
      (phase : t.phase = .returning buffer goOn) :
      Move s stop t (some (queued t.device buffer.index (.error fault))) (t.enter .stoppingStream)
  | streamOff {answer : Except Fault Unit} (phase : t.phase = .stoppingStream) :
      Move s stop t (some (streamedOff t.device answer)) (t.enter .concluding)
  | conclude {returned : Bool} (phase : t.phase = .concluding) :
      Move s stop t (some (.stopped t.frames returned)) (t.enter .ended)
  | stay (phase : t.phase = .ended) : Move s stop t none t

/-- Every step of a thread is a move. -/
theorem step_move (stop : Bool) (t : Thread) (s : ω) :
    (t.step world sink stop).Yields s fun t' h => ∃ o, h = o.toList ∧ Move world s stop t o t' := by
  cases phase : t.phase with
  | queueing index =>
    by_cases below : index < t.pool.length
    · simp only [step,phase,below,↓reduceIte]
      refine Act.yields_request fun answer s' => ?_
      cases answer with
      | ok _ => exact ⟨_,rfl,.queue phase below⟩
      | error fault => exact ⟨_,rfl,.queueFails phase below⟩
    · simp only [step,phase,below,↓reduceIte]
      exact ⟨none,rfl,.allQueued phase (by omega)⟩
  | startingStream =>
    simp only [step,phase]
    refine Act.yields_request fun answer s' => ?_
    cases answer with
    | ok _ => exact ⟨_,rfl,.streamOn phase⟩
    | error fault => exact ⟨_,rfl,.streamOnFails phase⟩
  | announcing =>
    simp only [step,phase]
    refine Act.yields_start fun returned s' => ?_
    cases returned with
    | true => exact ⟨_,rfl,.announce phase⟩
    | false => exact ⟨_,rfl,.announceBreaks phase⟩
  | idle =>
    simp only [step,phase]
    cases stop with
    | true => exact ⟨none,rfl,.halt phase rfl⟩
    | false => exact ⟨none,rfl,.goOn phase rfl⟩
  | waiting =>
    simp only [step,phase]
    refine Act.yields_request fun answer s' => ?_
    cases answer with
    | ok isReady =>
      cases isReady with
      | true => exact ⟨_,rfl,.ready phase⟩
      | false => exact ⟨_,rfl,.timeout phase⟩
    | error fault =>
      by_cases kind : fault.kind = .interrupted
      · simp only [kind,↓reduceIte]
        exact ⟨_,rfl,.interrupted phase kind⟩
      · simp only [kind,↓reduceIte]
        exact ⟨_,rfl,.waitFails phase kind⟩
  | dequeuing =>
    simp only [step,phase]
    refine Act.yields_request fun answer s' => ?_
    cases answer with
    | ok buffer => exact ⟨_,rfl,.dequeue phase⟩
    | error fault =>
      cases transient : fault.isTransient with
      | true =>
        simp only [transient,↓reduceIte]
        exact ⟨_,rfl,.retry phase transient⟩
      | false =>
        simp only [transient,Bool.false_eq_true,↓reduceIte]
        exact ⟨_,rfl,.dequeueFails phase transient⟩
  | delivering buffer =>
    simp only [step,phase]
    refine Act.yields_look ?_
    cases known : t.pool.mapping? buffer.index.toNat with
    | some place =>
      simp only [BufferPool.contents?,known,Option.map_some]
      refine Act.yields_deliver fun returned s' => ?_
      cases returned with
      | true => exact ⟨_,rfl,.deliver phase known⟩
      | false => exact ⟨_,rfl,.deliverBreaks phase known⟩
    | none =>
      simp only [BufferPool.contents?,known,Option.map_none]
      exact ⟨none,rfl,.unknown phase known⟩
  | returning buffer goOn =>
    simp only [step,phase]
    refine Act.yields_request fun answer s' => ?_
    cases answer with
    | ok _ =>
      cases goOn with
      | true => exact ⟨_,rfl,.giveBack phase⟩
      | false => exact ⟨_,rfl,.giveBackLast phase⟩
    | error fault => exact ⟨_,rfl,.giveBackFails phase⟩
  | stoppingStream =>
    simp only [step,phase]
    refine Act.yields_request fun answer s' => ?_
    cases answer with
    | ok _ => exact ⟨_,rfl,.streamOff phase⟩
    | error fault => exact ⟨_,rfl,.streamOff phase⟩
  | concluding =>
    simp only [step,phase]
    refine Act.yields_stop fun returned s' => ?_
    exact ⟨_,rfl,.conclude phase⟩
  | ended =>
    simp only [step,phase]
    exact ⟨none,rfl,.stay phase⟩

/-! ### Runs -/

/-- What is seen of a thread, each event with the state of the world that the step which brought it
    about started in. -/
abbrev Trail (ω : Type) : Type := List (ω × Event)

/-- One move after the other, from one thread to another. -/
inductive Runs : Thread → Trail ω → Thread → Prop
  | rest (t : Thread) : Runs t [] t
  | move {s : ω} {stop : Bool} {t t' t'' : Thread} {o : Option Event} {trail : Trail ω}
      (first : Move world s stop t o t') (others : Runs t' trail t'') :
      Runs t (o.toList.map (s,·) ++ trail) t''

/-- The trail of the steps under the given stop flags. -/
def trail : List Bool → Thread → ω → Trail ω
  | [], _, _ => []
  | stop :: stops, t, s =>
    let run := (t.step world sink stop).run s
    (observed run.history).map (s,·) ++ trail stops run.value run.state

theorem runs_trail (stops : List Bool) (t : Thread) (s : ω) :
    Runs world t (trail world sink stops t s) ((t.heed world sink stops).run s).value := by
  induction stops generalizing t s with
  | nil => exact .rest t
  | cons stop stops ih =>
    obtain ⟨o,seen,first⟩ := step_move world sink stop t s
    simp only [trail,seen]
    exact .move first (ih _ _)

theorem events_trail (stops : List Bool) (t : Thread) (s : ω) :
    (trail world sink stops t s).map Prod.snd =
      observed ((t.heed world sink stops).run s).history := by
  induction stops generalizing t s with
  | nil => rfl
  | cons stop stops ih =>
    simp only [trail,List.map_append,List.map_map,Function.comp_def,List.map_id',ih,heed,
      Course.run_bind,observed_append]

theorem steps_eq_heed (stop : Bool) (count : Nat) (t : Thread) :
    steps world sink stop count t = t.heed world sink (.replicate count stop) := by
  induction count generalizing t with
  | zero => rfl
  | succ count ih =>
    simp only [steps,List.replicate_succ,heed,ih]

/-- The trail of a whole life. -/
def liveTrail (stops : List Bool) (t : Thread) (s : ω) : Trail ω :=
  let run := (t.heed world sink stops).run s
  trail world sink stops t s ++
    trail world sink (.replicate run.value.distance true) run.value run.state

variable {world}

theorem Runs.append {t t' t'' : Thread} {p q : Trail ω} (first : Runs world t p t')
    (second : Runs world t' q t'') : Runs world t (p ++ q) t'' := by
  induction first with
  | rest _ => exact second
  | move first _ ih =>
    rw [List.append_assoc]
    exact .move first (ih second)

/-- A run can be cut at any of its events. -/
theorem Runs.split {t t'' : Thread} {whole p q : Trail ω} {s : ω} {e : Event}
    (run : Runs world t whole t'') (cut : whole = p ++ (s,e) :: q) :
    ∃ t₁ t₂ stop, Runs world t p t₁ ∧ Move world s stop t₁ (some e) t₂ ∧ Runs world t₂ q t'' := by
  induction run generalizing p with
  | rest t => simp at cut
  | @move s' stop t t' t'' o trail first others ih =>
    cases o with
    | none =>
      obtain ⟨t₁,t₂,stop',before,at_e,after⟩ := ih cut
      exact ⟨t₁,t₂,stop',.move first before,at_e,after⟩
    | some e' =>
      cases p with
      | nil =>
        obtain ⟨same,rfl⟩ := List.cons.inj cut
        obtain ⟨rfl,rfl⟩ := Prod.mk.inj same
        exact ⟨t,t',stop,.rest t,first,others⟩
      | cons x p =>
        obtain ⟨rfl,later⟩ := List.cons.inj cut
        obtain ⟨t₁,t₂,stop',before,at_e,after⟩ := ih later
        exact ⟨t₁,t₂,stop',.move first before,at_e,after⟩

private theorem invariant_from {motive : Thread → Trail ω → Prop}
    (keep : ∀ {s stop t o t' h}, motive t h → Move world s stop t o t' →
      motive t' (h ++ o.toList.map (s,·)))
    {t t' : Thread} {trail before : Trail ω} (run : Runs world t trail t')
    (start : motive t before) : motive t' (before ++ trail) := by
  induction run generalizing before with
  | rest t => simpa using start
  | move first _ ih =>
    rw [← List.append_assoc]
    exact ih (keep start first)

/-- What every move keeps, every run keeps. -/
theorem Runs.invariant {motive : Thread → Trail ω → Prop}
    (keep : ∀ {s stop t o t' h}, motive t h → Move world s stop t o t' →
      motive t' (h ++ o.toList.map (s,·)))
    {t t' : Thread} {trail : Trail ω} (run : Runs world t trail t') (start : motive t []) :
    motive t' trail :=
  invariant_from keep run start

/-- The events of a trail that goes on. -/
theorem events_append (trail : Trail ω) (s : ω) (o : Option Event) :
    (trail ++ o.toList.map (s,·)).map Prod.snd = trail.map Prod.snd ++ o.toList := by
  simp [Function.comp_def]

/-- What every move keeps of the events seen, every run keeps. -/
theorem Runs.keeps {motive : Thread → History → Prop}
    (keep : ∀ {s stop t o t' h}, motive t h → Move world s stop t o t' → motive t' (h ++ o.toList))
    {t t' : Thread} {trail : Trail ω} (run : Runs world t trail t') (start : motive t []) :
    motive t' (trail.map Prod.snd) := by
  apply run.invariant (motive := fun t trail => motive t (trail.map Prod.snd))
  · intro s stop t o t' h holds move
    rw [events_append]
    exact keep holds move
  · exact start

/-- While a thread is not over, a run to its end begins with a move. -/
theorem Runs.next {t t' : Thread} {h : Trail ω} (run : Runs world t h t')
    (notOver : t.phase ≠ t'.phase) :
    ∃ s stop o t₁ rest, Move world s stop t o t₁ ∧ Runs world t₁ rest t' ∧
      h = o.toList.map (s,·) ++ rest := by
  cases run with
  | rest => exact absurd rfl notOver
  | move first others => exact ⟨_,_,_,_,_,first,others,rfl⟩

/-- Two threads work on the same session. -/
def SameSession (t t' : Thread) : Prop :=
  t'.device = t.device ∧ t'.pool = t.pool ∧ t'.geometry = t.geometry ∧ t'.info = t.info

theorem SameSession.refl (t : Thread) : SameSession t t := ⟨rfl,rfl,rfl,rfl⟩

theorem SameSession.trans {t t' t'' : Thread} (first : SameSession t t') (second : SameSession t' t'') :
    SameSession t t'' := by
  obtain ⟨device,pool,geometry,info⟩ := first
  obtain ⟨device',pool',geometry',info'⟩ := second
  exact ⟨device'.trans device,pool'.trans pool,geometry'.trans geometry,info'.trans info⟩

theorem Move.sameSession {s : ω} {stop : Bool} {t t' : Thread} {o : Option Event}
    (move : Move world s stop t o t') : SameSession t t' := by
  cases move <;> exact ⟨rfl,rfl,rfl,rfl⟩

theorem Runs.sameSession {t t' : Thread} {trail : Trail ω} (run : Runs world t trail t') :
    SameSession t t' := by
  induction run with
  | rest t => exact .refl t
  | move first _ ih => exact first.sameSession.trans ih

/-! ### The end of a thread -/

/-- Under a stop request every move brings a thread nearer to its end. -/
theorem Move.distance_lt {s : ω} {t t' : Thread} {o : Option Event}
    (move : Move world s true t o t') (notOver : t.phase ≠ .ended) : t'.distance < t.distance := by
  cases move with
  | stay phase => exact absurd phase notOver
  | goOn _ notRequested => exact absurd notRequested (by decide)
  | queue phase below => simp only [distance,enter,phase]; omega
  | _ => simp_all [distance,enter]

theorem Move.of_ended {s : ω} {stop : Bool} {t t' : Thread} {o : Option Event}
    (move : Move world s stop t o t') (ended : t.phase = .ended) : o = none ∧ t' = t := by
  cases move with
  | stay _ => exact ⟨rfl,rfl⟩
  | _ => simp_all

theorem ended_of_distance {t : Thread} (near : t.distance ≤ 0) : t.phase = .ended := by
  cases phase : t.phase with
  | ended => rfl
  | _ => simp [distance,phase] at near

variable (world)

theorem steps_ended {count : Nat} {t : Thread} (enough : t.distance ≤ count) (s : ω) :
    ((t.steps world sink true count).run s).value.phase = .ended := by
  induction count generalizing t s with
  | zero => exact ended_of_distance enough
  | succ count ih =>
    obtain ⟨o,-,move⟩ := step_move world sink true t s
    have nearer : ((t.step world sink true).run s).value.distance ≤ count := by
      by_cases ended : t.phase = .ended
      · rw [(move.of_ended ended).2]
        simp [distance,ended]
      · have := move.distance_lt ended
        omega
    exact ih nearer _

/-- A thread that is told to stop comes to its end. -/
theorem finish_ended (t : Thread) (s : ω) : ((t.finish world sink).run s).value.phase = .ended :=
  steps_ended world sink (Nat.le_refl _) s

/-- However long a thread went on before it was told to stop, it comes to its end. -/
theorem live_ended (stops : List Bool) (t : Thread) (s : ω) :
    ((t.live world sink stops).run s).value.phase = .ended :=
  finish_ended world sink _ _

theorem runs_liveTrail (stops : List Bool) (t : Thread) (s : ω) :
    Runs world t (liveTrail world sink stops t s) ((t.live world sink stops).run s).value := by
  have first := runs_trail world sink stops t s
  have second := runs_trail world sink
    (.replicate ((t.heed world sink stops).run s).value.distance true)
    ((t.heed world sink stops).run s).value ((t.heed world sink stops).run s).state
  rw [← steps_eq_heed] at second
  exact first.append second

theorem events_liveTrail (stops : List Bool) (t : Thread) (s : ω) :
    (liveTrail world sink stops t s).map Prod.snd =
      observed ((t.live world sink stops).run s).history := by
  simp only [liveTrail,List.map_append,events_trail,live,finish,steps_eq_heed,Course.run_bind,
    observed_append]

/-- At any event that is seen of a thread, it was in a phase that brings the event about. -/
theorem exists_move_of_live {stops : List Bool} {t : Thread} {s : ω} {p q : History} {e : Event}
    (cut : observed ((t.live world sink stops).run s).history = p ++ e :: q) :
    ∃ s' stop t₁ t₂ before after, Runs world t before t₁ ∧ Move world s' stop t₁ (some e) t₂ ∧
      Runs world t₂ after ((t.live world sink stops).run s).value ∧
      before.map Prod.snd = p ∧ after.map Prod.snd = q := by
  rw [← events_liveTrail,List.map_eq_append_iff] at cut
  obtain ⟨before,others,whole,isBefore,rest⟩ := cut
  obtain ⟨⟨s',e'⟩,after,rfl,rfl,isAfter⟩ := List.map_eq_cons_iff.mp rest
  obtain ⟨t₁,t₂,stop,reached,move,left⟩ := (runs_liveTrail world sink stops t s).split whole
  exact ⟨s',stop,t₁,t₂,before,after,reached,move,left,isBefore,isAfter⟩

end Thread
end VideoCapture
