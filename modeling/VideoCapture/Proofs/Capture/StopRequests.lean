import Mathlib.Data.List.TakeWhile
import Mathlib.Logic.Relation
import VideoCapture.Proofs.Capture.Custody
/-!
# Requests to stop

A thread shares a flag with those who may stop it, and they can set it between any two of its steps. `Step`
is a step of the two together: the flag is set, the thread looks at it, or the thread does something else.
In every course of such steps (`Path`) a thread does what is left of its round once the flag is set, and no
more: `owed` says what that is, and every step pays for what it does from it (`Move.pays`). It never goes
back in its states, and when it is over it stays as it is (`stop_prompt`).
-/
namespace VideoCapture

/-- The state that a thread comes to next. A thread whose stream could not be turned on never streams. -/
inductive ThreadState.Next : ThreadState → ThreadState → Prop
  | stream : Next .notStarted .streaming
  | giveUp : Next .notStarted .stopping
  | halt : Next .streaming .stopping
  | finish : Next .stopping .stopped

namespace Thread

/-- A capture thread with its stop flag. -/
structure Flagged where
  thread : Thread
  stop : Bool

/-- What can be told of a step. -/
inductive Mark
  /-- The flag was set. -/
  | requested
  /-- The thread looked at the flag. -/
  | checked (stop : Bool)
  /-- Something was seen of the thread. -/
  | seen (e : Event)

/-- The event of a mark. -/
def Mark.event? : Mark → Option Event
  | seen e => some e
  | _ => none

/-- The events among marks. -/
def events (marks : List Mark) : History := marks.filterMap Mark.event?

variable {ω : Type} (world : World ω)

/-- A step of a thread under its flag, or a request to stop, which can come between any two steps. -/
inductive Step : Flagged → Option Mark → Flagged → Prop
  | request (x : Flagged) : Step x (some .requested) { x with stop := true }
  | check {s : ω} {stop : Bool} {t t' : Thread} (phase : t.phase = .idle) (move : Move world s stop t none t') :
      Step ⟨t,stop⟩ (some (.checked stop)) ⟨t',stop⟩
  | act {s : ω} {stop : Bool} {t t' : Thread} {o : Option Event} (phase : t.phase ≠ .idle)
      (move : Move world s stop t o t') : Step ⟨t,stop⟩ (o.map .seen) ⟨t',stop⟩

/-- One step after the other. -/
inductive Path : Flagged → List Mark → Flagged → Prop
  | rest (x : Flagged) : Path x [] x
  | step {x y z : Flagged} {o : Option Mark} {marks : List Mark} (first : Step world x o y)
      (others : Path y marks z) : Path x (o.toList ++ marks) z

variable {world}

theorem events_append_marks (marks others : List Mark) :
    events (marks ++ others) = events marks ++ events others := List.filterMap_append ..

@[simp] theorem events_nil : events [] = [] := rfl

@[simp] theorem events_requested : events [.requested] = [] := rfl

theorem events_seen (o : Option Event) : events (o.map Mark.seen).toList = o.toList := by
  cases o <;> rfl

theorem Path.append {x y z : Flagged} {marks others : List Mark} (first : Path world x marks y)
    (second : Path world y others z) : Path world x (marks ++ others) z := by
  induction first with
  | rest x => exact second
  | step first _ ih =>
    rw [List.append_assoc]
    exact .step first (ih second)

/-- A path can be cut at any of its marks. -/
theorem Path.split {x z : Flagged} {whole before after : List Mark} {m : Mark} (path : Path world x whole z)
    (cut : whole = before ++ m :: after) :
    ∃ y y', Path world x before y ∧ Step world y (some m) y' ∧ Path world y' after z := by
  induction path generalizing before with
  | rest x => simp at cut
  | @step x y z o marks first others ih =>
    cases o with
    | none =>
      obtain ⟨y₁,y₂,reached,at_m,left⟩ := ih cut
      exact ⟨y₁,y₂,.step first reached,at_m,left⟩
    | some m' =>
      cases before with
      | nil =>
        obtain ⟨rfl,rfl⟩ := List.cons.inj cut
        exact ⟨x,y,.rest x,first,others⟩
      | cons m'' before =>
        obtain ⟨rfl,later⟩ := List.cons.inj cut
        obtain ⟨y₁,y₂,reached,at_m,left⟩ := ih later
        exact ⟨y₁,y₂,.step first reached,at_m,left⟩

/-- What every step keeps, every path keeps. -/
theorem Path.keeps {motive : Flagged → List Mark → Prop}
    (keep : ∀ {x o y marks}, motive x marks → Step world x o y → motive y (marks ++ o.toList))
    {x y : Flagged} {marks before : List Mark} (path : Path world x marks y) (start : motive x before) :
    motive y (before ++ marks) := by
  induction path generalizing before with
  | rest x => simpa using start
  | step first _ ih =>
    rw [← List.append_assoc]
    exact ih (keep start first)

theorem Step.of_requested {x y : Flagged} (step : Step world x (some .requested) y) :
    y = { x with stop := true } := by
  generalize mark : some Mark.requested = o at step
  cases step with
  | request => rfl
  | check phase move => simp at mark
  | @act s stop t t' o phase move => cases o <;> simp at mark

theorem Step.of_seen {x y : Flagged} {e : Event} (step : Step world x (some (.seen e)) y) :
    ∃ s, Move world s x.stop x.thread (some e) y.thread := by
  generalize mark : some (Mark.seen e) = o at step
  cases step with
  | request => simp at mark
  | check phase move => simp at mark
  | @act s stop t t' o phase move =>
    cases o with
    | none => simp at mark
    | some e' =>
      simp only [Option.map_some,Option.some.injEq,Mark.seen.injEq] at mark
      exact ⟨s,mark ▸ move⟩

/-! ### The duties of a round -/

/-- What a thread does in a round, in this order. -/
inductive Duty
  | wait
  | dequeue
  | deliver
  | giveBack
  deriving DecidableEq

/-- Whether an event is of this kind. -/
def Duty.covers : Duty → Event → Bool
  | wait, .asked _ (.waitReadable _) _ => true
  | dequeue, .asked _ .dequeueBuffer _ => true
  | deliver, .delivered _ _ => true
  | giveBack, .asked _ (.queueBuffer _) _ => true
  | _, _ => false

/-- The number of duties in a round from this one on. -/
def Duty.rank : Duty → Nat
  | wait => 4
  | dequeue => 3
  | deliver => 2
  | giveBack => 1

/-- The number of duties that are left of a round. -/
def roundLeft (t : Thread) : Nat :=
  match t.phase with
  | .waiting => 4
  | .dequeuing => 3
  | .delivering _ => 2
  | .returning _ _ => 1
  | _ => 0

/-- How often a duty is still to be done in a round. -/
def owed (duty : Duty) (t : Thread) : Nat := if duty.rank ≤ t.roundLeft then 1 else 0

/-- Whether the stream is turned on by an event. -/
def turnsOn : Event → Bool
  | .asked _ .streamOn (.ok ()) => true
  | _ => false

/-- Whether the stream has been turned on in a history. -/
def isOn (h : History) : Bool := h.any turnsOn

/-- How often a duty was done. A buffer is given back only once the stream is on; what is queued before is
    queued for the first time. -/
def done : Duty → History → Nat
  | .giveBack, h => (h.dropWhile fun e => !turnsOn e).countP Duty.giveBack.covers
  | duty, h => h.countP duty.covers

/-- As long as a thread queues the buffers for the first time, the stream is not on. -/
def NotOnYet (t : Thread) (h : History) : Prop :=
  (∃ index, t.phase = .queueing index) ∨ t.phase = .startingStream → isOn h = false

theorem done_nil (duty : Duty) : done duty [] = 0 := by cases duty <;> rfl

private theorem covers_of_turnsOn {e : Event} (turns : turnsOn e = true) : Duty.giveBack.covers e = false := by
  revert turns
  unfold turnsOn
  split <;> simp [Duty.covers]

theorem isOn_append (h k : History) : isOn (h ++ k) = (isOn h || isOn k) := List.any_append

theorem done_snoc (duty : Duty) (h : History) (e : Event) :
    done duty (h ++ [e]) = done duty h + if duty.covers e ∧ (duty = .giveBack → isOn h) then 1 else 0 := by
  cases duty with
  | giveBack =>
    simp only [done,forall_const,List.dropWhile_append,List.isEmpty_iff]
    cases on : isOn h with
    | true =>
      have stays : h.dropWhile (fun e => !turnsOn e) ≠ [] := by
        intro dropped
        rw [List.dropWhile_eq_nil_iff] at dropped
        obtain ⟨x,member,turns⟩ := List.any_eq_true.mp on
        simpa [turns] using dropped x member
      rw [if_neg stays,List.countP_append,List.countP_singleton]
      simp
    | false =>
      have dropped : h.dropWhile (fun e => !turnsOn e) = [] := by
        rw [List.dropWhile_eq_nil_iff]
        intro x member
        simpa using List.any_eq_false.mp on x member
      cases turns : turnsOn e with
      | true => simp [dropped,turns,covers_of_turnsOn turns]
      | false => simp [dropped,turns]
  | _ => simp [done,List.countP_append,List.countP_singleton]

theorem done_le_append (duty : Duty) (h k : History) : done duty h ≤ done duty (h ++ k) := by
  induction k generalizing h with
  | nil => simp
  | cons e k ih =>
    have now : done duty h ≤ done duty (h ++ [e]) := by
      rw [done_snoc]
      exact Nat.le_add_right _ _
    have later := ih (h ++ [e])
    rw [List.append_assoc] at later
    exact Nat.le_trans now later

/-! ### What a step pays for -/

theorem Move.notOnYet {s : ω} {stop : Bool} {t t' : Thread} {o : Option Event} {h : History}
    (notYet : NotOnYet t h) (move : Move world s stop t o t') : NotOnYet t' (h ++ o.toList) := by
  cases move with
  | queue phase =>
    intro _
    rw [isOn_append,notYet (.inl ⟨_,phase⟩)]
    rfl
  | allQueued phase => simpa [NotOnYet,enter,phase] using notYet
  | stay phase => simp [NotOnYet,phase]
  | _ => simp [NotOnYet,enter]

/-- Each step brings a round nearer to its end, but for the step that looks at the flag and goes on. -/
theorem Move.roundLeft_le {s : ω} {stop : Bool} {t t' : Thread} {o : Option Event}
    (noNewRound : t.phase = .idle → stop = true) (move : Move world s stop t o t') :
    t'.roundLeft ≤ t.roundLeft - 1 := by
  cases move with
  | goOn phase notRequested => simp [noNewRound phase] at notRequested
  | stay phase => simp [roundLeft,phase]
  | _ => simp_all [roundLeft,enter]

/-- A duty is done when it is the next one of the round. Buffers are also queued before the stream is on. -/
theorem Move.rank_eq {s : ω} {stop : Bool} {t t' : Thread} {e : Event} {duty : Duty}
    (move : Move world s stop t (some e) t') (covered : duty.covers e = true) :
    duty.rank = t.roundLeft ∨ duty = .giveBack ∧ ∃ index, t.phase = .queueing index := by
  cases duty <;> cases move <;> simp_all [Duty.covers,Duty.rank,roundLeft]

/-- What is counted of a step is the next duty of the round. -/
theorem Move.done_snoc_le {s : ω} {stop : Bool} {t t' : Thread} {e : Event} {h : History} (duty : Duty)
    (notYet : NotOnYet t h) (move : Move world s stop t (some e) t') :
    done duty (h ++ [e]) ≤ done duty h + if duty.rank = t.roundLeft then 1 else 0 := by
  rw [done_snoc]
  by_cases counted : duty.covers e = true ∧ (duty = .giveBack → isOn h = true)
  · obtain ⟨covered,on⟩ := counted
    rcases move.rank_eq covered with next | ⟨rfl,queueing⟩
    · simp only [next,↓reduceIte]
      split <;> omega
    · -- As long as a thread queues the buffers for the first time, nothing is counted.
      simp [notYet (.inl queueing)] at on
  · rw [if_neg counted]
    omega

/-- With the flag set, a step does no more than what is owed. -/
theorem Move.pays {s : ω} {t t' : Thread} {o : Option Event} {h : History} (duty : Duty)
    (notYet : NotOnYet t h) (move : Move world s true t o t') :
    done duty (h ++ o.toList) + owed duty t' ≤ done duty h + owed duty t := by
  have nearer := move.roundLeft_le fun _ => rfl
  have positive : 0 < duty.rank := by cases duty <;> decide
  unfold owed
  cases o with
  | none =>
    simp only [Option.toList_none,List.append_nil]
    split <;> split <;> omega
  | some e =>
    have counted := move.done_snoc_le duty notYet
    simp only [Option.toList_some]
    split at counted <;> split <;> split <;> omega

/-- Where nothing is owed, nothing comes to be owed until the thread looks at its flag. -/
theorem Move.idles {s : ω} {stop : Bool} {t t' : Thread} {o : Option Event} {h : History} (duty : Duty)
    (notYet : NotOnYet t h) (idle : t.roundLeft = 0) (elsewhere : t.phase ≠ .idle)
    (move : Move world s stop t o t') : t'.roundLeft = 0 ∧ done duty (h ++ o.toList) ≤ done duty h := by
  have nearer := move.roundLeft_le fun phase => absurd phase elsewhere
  have positive : 0 < duty.rank := by cases duty <;> decide
  refine ⟨by omega,?_⟩
  cases o with
  | none => simp
  | some e =>
    have counted := move.done_snoc_le duty notYet
    rw [idle,if_neg (by omega)] at counted
    exact counted

/-- A thread turns the stream off and concludes. -/
theorem Move.streamOff_next {s : ω} {stop : Bool} {t t' : Thread} {device : Handle} {answer : Except Fault Unit}
    (move : Move world s stop t (some (streamedOff device answer)) t') : t'.phase = .concluding := by
  cases move with
  | streamOff _ => rfl

/-- A stream that was turned off stays so. -/
theorem Move.off {s : ω} {stop : Bool} {t t' : Thread} {o : Option Event} (move : Move world s stop t o t')
    (off : t.phase = .concluding ∨ t.phase = .ended) : t'.phase = .concluding ∨ t'.phase = .ended := by
  cases move with
  | conclude _ => exact .inr rfl
  | stay phase => exact .inr phase
  | _ => simp_all

/-- No step leads back, and none takes a frame from the count. -/
theorem Move.advances {s : ω} {stop : Bool} {t t' : Thread} {o : Option Event} (move : Move world s stop t o t') :
    (t'.state = t.state ∨ t.state.Next t'.state) ∧ t.frames ≤ t'.frames := by
  cases move with
  | streamOn phase =>
    refine ⟨.inr ?_,Nat.le_refl _⟩
    rw [state,phase]
    exact .stream
  | queueFails phase | streamOnFails phase =>
    refine ⟨.inr ?_,Nat.le_refl _⟩
    rw [state,phase]
    exact .giveUp
  | announceBreaks phase | halt phase | waitFails phase | dequeueFails phase | giveBackLast phase
  | giveBackFails phase =>
    refine ⟨.inr ?_,Nat.le_refl _⟩
    rw [state,phase]
    exact .halt
  | conclude phase =>
    refine ⟨.inr ?_,Nat.le_refl _⟩
    rw [state,phase]
    exact .finish
  | deliver phase =>
    refine ⟨.inl ?_,Nat.le_succ _⟩
    rw [state,state,phase]
    rfl
  | queue phase | allQueued phase | announce phase | goOn phase | ready phase | timeout phase | interrupted phase
  | dequeue phase | retry phase | deliverBreaks phase | unknown phase | giveBack phase | streamOff phase =>
    refine ⟨.inl ?_,Nat.le_refl _⟩
    rw [state,state,phase]
    rfl
  | stay phase => exact ⟨.inl rfl,Nat.le_refl _⟩

/-! ### Paths -/

/-- A step is a request to stop, or a move under the flag as it is; from the start of a round it tells that the
    thread looked at the flag. -/
theorem Step.move {x y : Flagged} {o : Option Mark} (step : Step world x o y) :
    o = some .requested ∧ y = { x with stop := true } ∨
      ∃ s o', Move world s x.stop x.thread o' y.thread ∧ events o.toList = o'.toList ∧ y.stop = x.stop ∧
        (x.thread.phase = .idle → o = some (.checked x.stop)) := by
  cases step with
  | request => exact .inl ⟨rfl,rfl⟩
  | check phase move => exact .inr ⟨_,none,move,rfl,rfl,fun _ => rfl⟩
  | act phase move => exact .inr ⟨_,_,move,events_seen _,rfl,fun idle => absurd idle phase⟩

theorem Step.of_move {s : ω} {stop : Bool} {t t' : Thread} {o : Option Event} (move : Move world s stop t o t') :
    ∃ m, Step world ⟨t,stop⟩ m ⟨t',stop⟩ ∧ events m.toList = o.toList := by
  by_cases idle : t.phase = .idle
  · have unseen : o = none := by
      cases move with
      | halt _ _ | goOn _ _ => rfl
      | _ => simp_all
    subst unseen
    exact ⟨_,.check idle move,rfl⟩
  · exact ⟨_,.act idle move,events_seen o⟩

theorem Step.notOnYet {x y : Flagged} {o : Option Mark} {h : History} (notYet : NotOnYet x.thread h)
    (step : Step world x o y) : NotOnYet y.thread (h ++ events o.toList) := by
  obtain ⟨rfl,rfl⟩ | ⟨s,o',move,seen,-,-⟩ := step.move
  · simpa using notYet
  · rw [seen]
    exact move.notOnYet notYet

theorem Path.notOnYet {x y : Flagged} {marks : List Mark} {h : History} (path : Path world x marks y)
    (notYet : NotOnYet x.thread h) : NotOnYet y.thread (h ++ events marks) := by
  induction path generalizing h with
  | rest x => simpa using notYet
  | step first _ ih =>
    rw [events_append_marks,← List.append_assoc]
    exact ih (first.notOnYet notYet)

/-- Once the flag is set, a thread does no more than what is owed. -/
theorem Path.pays {x y : Flagged} {marks : List Mark} {h : History} (duty : Duty) (path : Path world x marks y)
    (set : x.stop = true) (notYet : NotOnYet x.thread h) :
    done duty (h ++ events marks) + owed duty y.thread ≤ done duty h + owed duty x.thread := by
  induction path generalizing h with
  | rest x => simp
  | @step x y z o marks first others ih =>
    have notYet' := first.notOnYet notYet
    rw [events_append_marks,← List.append_assoc]
    obtain ⟨rfl,rfl⟩ | ⟨s,o',move,seen,same,-⟩ := first.move
    · rw [Option.toList_some,events_requested,List.append_nil] at notYet' ⊢
      exact ih rfl notYet'
    · rw [set] at move
      rw [seen] at notYet' ⊢
      have paid := move.pays duty notYet
      have later := ih (same.trans set) notYet'
      omega

/-- Before the thread looks at its flag for the first time, no round has begun. -/
def NoRoundYet (x : Flagged) (marks : List Mark) : Prop :=
  (∀ stop, .checked stop ∉ marks) → x.thread.roundLeft = 0 ∧ ∀ duty, done duty (events marks) = 0

theorem Step.noRoundYet {x y : Flagged} {o : Option Mark} {marks : List Mark}
    (notYet : NotOnYet x.thread (events marks)) (noRound : NoRoundYet x marks) (step : Step world x o y) :
    NoRoundYet y (marks ++ o.toList) := by
  intro unchecked
  obtain ⟨idle,nothing⟩ := noRound fun stop member => unchecked stop (List.mem_append_left _ member)
  rw [events_append_marks]
  obtain ⟨rfl,rfl⟩ | ⟨s,o',move,seen,-,checks⟩ := step.move
  · exact ⟨idle,by simpa using nothing⟩
  · have elsewhere : x.thread.phase ≠ .idle := by
      intro phase
      exact unchecked x.stop (List.mem_append_right _ (by simp [checks phase]))
    rw [seen]
    refine ⟨(move.idles .wait notYet idle elsewhere).1,fun duty => ?_⟩
    have unpaid := (move.idles duty notYet idle elsewhere).2
    rw [nothing duty] at unpaid
    omega

theorem Path.noRoundYet {x y : Flagged} {marks : List Mark} (path : Path world x marks y)
    (fresh : x.thread.phase = .queueing 0) : NoRoundYet y marks := by
  have start : NotOnYet x.thread (events []) ∧ NoRoundYet x [] :=
    ⟨fun _ => rfl,fun _ => ⟨by rw [roundLeft,fresh],done_nil⟩⟩
  refine (path.keeps (motive := fun y marks => NotOnYet y.thread (events marks) ∧ NoRoundYet y marks) ?_ start).2
  rintro x o y marks ⟨notYet,noRound⟩ step
  refine ⟨?_,step.noRoundYet notYet noRound⟩
  rw [events_append_marks]
  exact step.notOnYet notYet

/-- When the stream is off, a thread has done all that it does in rounds. -/
theorem Path.off {x y : Flagged} {marks : List Mark} {h : History} (duty : Duty) (path : Path world x marks y)
    (off : x.thread.phase = .concluding ∨ x.thread.phase = .ended) :
    done duty (h ++ events marks) ≤ done duty h := by
  induction path generalizing h with
  | rest x => simp
  | @step x y z o marks first others ih =>
    rw [events_append_marks,← List.append_assoc]
    obtain ⟨rfl,rfl⟩ | ⟨s,o',move,seen,-,-⟩ := first.move
    · rw [Option.toList_some,events_requested,List.append_nil]
      exact ih off
    · have notYet : NotOnYet x.thread h := by rcases off with off | off <;> simp [NotOnYet,off]
      have idle : x.thread.roundLeft = 0 := by rcases off with off | off <;> simp [roundLeft,off]
      have elsewhere : x.thread.phase ≠ .idle := by rcases off with off | off <;> simp [off]
      rw [seen]
      exact Nat.le_trans (ih (move.off off)) (move.idles duty notYet idle elsewhere).2

/-- Along a path a thread goes from one state to the next, and its count of frames does not fall. -/
theorem Path.advances {x y : Flagged} {marks : List Mark} (path : Path world x marks y) :
    Relation.ReflTransGen ThreadState.Next x.thread.state y.thread.state ∧ x.thread.frames ≤ y.thread.frames := by
  induction path with
  | rest x => exact ⟨.refl,Nat.le_refl _⟩
  | @step x y z o marks first others ih =>
    obtain ⟨later,counted⟩ := ih
    obtain ⟨rfl,rfl⟩ | ⟨s,o',move,-,-,-⟩ := first.move
    · exact ⟨later,counted⟩
    · obtain ⟨same | next,more⟩ := move.advances
      · exact ⟨same ▸ later,Nat.le_trans more counted⟩
      · exact ⟨later.head next,Nat.le_trans more counted⟩

/-! ### The thread that runs -/

variable (world) (sink : Sink ω)

/-- The steps of a thread under a flag are a path. -/
theorem path_steps (stop : Bool) (count : Nat) (t : Thread) (s : ω) :
    ∃ marks, Path world ⟨t,stop⟩ marks ⟨((t.steps world sink stop count).run s).value,stop⟩ ∧
      events marks = observed ((t.steps world sink stop count).run s).history := by
  induction count generalizing t s with
  | zero => exact ⟨[],.rest _,rfl⟩
  | succ count ih =>
    obtain ⟨o,seen,move⟩ := step_move world sink stop t s
    obtain ⟨m,first,told⟩ := Step.of_move move
    obtain ⟨marks,others,rest⟩ := ih _ ((t.step world sink stop).run s).state
    refine ⟨m.toList ++ marks,.step first others,?_⟩
    rw [events_append_marks,told,rest,steps,Course.history_bind,observed_append,seen]

/-- A thread that is over takes no further step. -/
theorem step_of_ended {t : Thread} (ended : t.phase = .ended) (stop : Bool) : t.step world sink stop = pure t := by
  simp only [step,ended]

theorem heed_of_ended {t : Thread} (ended : t.phase = .ended) (stops : List Bool) :
    t.heed world sink stops = pure t := by
  induction stops with
  | nil => rfl
  | cons stop stops ih => rw [heed,step_of_ended world sink ended,pure_bind,ih]

theorem finish_of_ended {t : Thread} (ended : t.phase = .ended) : t.finish world sink = pure t := by
  rw [finish,steps_eq_heed,heed_of_ended world sink ended]

open Simulation in
/-- The bound is met: told to stop in front of a wait, a thread does each duty of the round once more. -/
example :
    let before := ((spawn camera twoBuffers default default).steps Stage.world Stage.consumer false 6).run rehearsal
    let after := (before.value.finish Stage.world Stage.consumer).run before.state
    [Duty.wait,.dequeue,.deliver,.giveBack].map
      (fun duty => (done duty (observed before.history),done duty (observed (before.history ++ after.history)))) =
        [(0,1),(0,1),(0,1),(0,1)] := by
  decide +kernel

end Thread
end VideoCapture
