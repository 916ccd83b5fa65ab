import VideoCapture.Proofs.Capture.Moves
/-!
# The conduct of a capture thread

The order in which a capture thread makes its requests and its calls: it queues the buffers, turns
the stream on, says so, goes through its rounds, turns the stream off and says so. `Conduct` states
that order without the thread's phases; `SoFar` says for each phase what has been seen when the
thread is in it. Every move keeps it, so whenever a thread is stopped, and however the device and the
consumer behave, what is seen of it is its whole conduct (`live_conduct`).
-/
namespace VideoCapture.Thread
variable {ω : Type} (device : Handle) (pool : BufferPool) (info : SessionStart)

/-- The first `count` buffers are queued. -/
def handedOver (count : Nat) : History :=
  (List.range count).map fun index => queued device (.ofNat index) (.ok ())

theorem handedOver_succ (count : Nat) :
    handedOver device (count + 1) = handedOver device count ++ [queued device (.ofNat count) (.ok ())] := by
  simp [handedOver,List.range_succ]

/-- What is seen between taking a buffer and handing it back: a frame if the pool has the buffer,
    else nothing. The flag says whether the consumer came back. -/
inductive Shown (buffer : FilledBuffer) : History → Bool → Prop
  | frame {frame : Frame} {returned : Bool} (known : (pool.mapping? buffer.index.toNat).isSome) :
      Shown buffer [.delivered frame returned] returned
  | nothing (strange : pool.mapping? buffer.index.toNat = none) : Shown buffer [] true

/-- A round after which the thread goes on. -/
inductive Round : History → Prop
  | timeout : Round [waited device (.ok false)]
  | interrupted {fault : Fault} (kind : fault.kind = .interrupted) :
      Round [waited device (.error fault)]
  | retry {fault : Fault} (transient : fault.isTransient = true) :
      Round [waited device (.ok true),dequeued device (.error fault)]
  | served {buffer : FilledBuffer} {shown : History} (came : Shown pool buffer shown true) :
      Round ([waited device (.ok true),dequeued device (.ok buffer)] ++ shown ++
        [queued device buffer.index (.ok ())])

/-- What is left of a round after which the thread does not go on. -/
inductive LastRound : History → Prop
  | stopped : LastRound []
  | waitFailed {fault : Fault} (kind : fault.kind ≠ .interrupted) :
      LastRound [waited device (.error fault)]
  | dequeueFailed {fault : Fault} (lasting : fault.isTransient = false) :
      LastRound [waited device (.ok true),dequeued device (.error fault)]
  | notTaken {buffer : FilledBuffer} {shown : History} {returned : Bool} {fault : Fault}
      (came : Shown pool buffer shown returned) :
      LastRound ([waited device (.ok true),dequeued device (.ok buffer)] ++ shown ++
        [queued device buffer.index (.error fault)])
  | brokenOff {buffer : FilledBuffer} {shown : History} (came : Shown pool buffer shown false) :
      LastRound ([waited device (.ok true),dequeued device (.ok buffer)] ++ shown ++
        [queued device buffer.index (.ok ())])

/-- The stream is on, the consumer knows, and any number of rounds have been made. -/
def Streaming (h : History) : Prop :=
  ∃ rounds : List History, (∀ round ∈ rounds, Round device pool round) ∧
    h = handedOver device pool.length ++ [streamedOn device (.ok ()),.started info true] ++
      rounds.flatten

/-- What is seen of a thread until it turns the stream off. -/
inductive Conduct : History → Prop
  | notQueued {count : Nat} {fault : Fault} (below : count < pool.length) :
      Conduct (handedOver device count ++ [queued device (.ofNat count) (.error fault)])
  | notOn {fault : Fault} :
      Conduct (handedOver device pool.length ++ [streamedOn device (.error fault)])
  | notHeard :
      Conduct (handedOver device pool.length ++ [streamedOn device (.ok ()),.started info false])
  | streamed {h last : History} (rounds : Streaming device pool info h)
      (final : LastRound device pool last) : Conduct (h ++ last)

/-- All that is seen of a thread, which says in the end that it delivered so many frames. -/
def WholeConduct (frames : Nat) (h : History) : Prop :=
  ∃ body answer returned, Conduct device pool info body ∧
    h = body ++ [streamedOff device answer,.stopped frames returned]

variable {device pool info}

theorem Streaming.start :
    Streaming device pool info (handedOver device pool.length ++
      [streamedOn device (.ok ()),.started info true]) :=
  ⟨[],by simp,by simp⟩

theorem Streaming.round {h round : History} (streaming : Streaming device pool info h)
    (next : Round device pool round) : Streaming device pool info (h ++ round) := by
  obtain ⟨rounds,each,rfl⟩ := streaming
  refine ⟨rounds ++ [round],?_,by simp⟩
  intro r member
  rcases List.mem_append.mp member with before | last
  · exact each r before
  · rw [List.mem_singleton.mp last]
    exact next

/-- What has been seen of a thread in each phase. -/
def SoFar (t : Thread) (h : History) : Prop :=
  match t.phase with
  | .queueing index => index ≤ t.pool.length ∧ h = handedOver t.device index
  | .startingStream => h = handedOver t.device t.pool.length
  | .announcing => h = handedOver t.device t.pool.length ++ [streamedOn t.device (.ok ())]
  | .idle | .waiting => Streaming t.device t.pool t.info h
  | .dequeuing => ∃ k, Streaming t.device t.pool t.info k ∧ h = k ++ [waited t.device (.ok true)]
  | .delivering buffer => ∃ k, Streaming t.device t.pool t.info k ∧
      h = k ++ [waited t.device (.ok true),dequeued t.device (.ok buffer)]
  | .returning buffer goOn => ∃ k shown, Streaming t.device t.pool t.info k ∧
      Shown t.pool buffer shown goOn ∧
      h = k ++ ([waited t.device (.ok true),dequeued t.device (.ok buffer)] ++ shown)
  | .stoppingStream => Conduct t.device t.pool t.info h
  | .concluding => ∃ body answer, Conduct t.device t.pool t.info body ∧
      h = body ++ [streamedOff t.device answer]
  | .ended => WholeConduct t.device t.pool t.info t.frames h

variable {world : World ω}

theorem Move.soFar {s : ω} {stop : Bool} {t t' : Thread} {o : Option Event} {h : History}
    (holds : SoFar t h) (move : Move world s stop t o t') : SoFar t' (h ++ o.toList) := by
  cases move with
  | queue phase below =>
    simp only [SoFar,phase] at holds
    obtain ⟨-,rfl⟩ := holds
    exact ⟨below,(handedOver_succ _ _).symm⟩
  | queueFails phase below =>
    simp only [SoFar,phase] at holds
    obtain ⟨-,rfl⟩ := holds
    exact .notQueued below
  | allQueued phase all =>
    simp only [SoFar,phase] at holds
    obtain ⟨within,rfl⟩ := holds
    rw [Nat.le_antisymm within all]
    exact List.append_nil _
  | streamOn phase =>
    simp only [SoFar,phase] at holds
    rw [holds]
    rfl
  | streamOnFails phase =>
    simp only [SoFar,phase] at holds
    rw [holds]
    exact .notOn
  | announce phase =>
    simp only [SoFar,phase] at holds
    rw [holds,List.append_assoc]
    exact .start
  | announceBreaks phase =>
    simp only [SoFar,phase] at holds
    rw [holds,List.append_assoc]
    exact .notHeard
  | halt phase requested =>
    simp only [SoFar,phase] at holds
    exact .streamed holds .stopped
  | goOn phase notRequested =>
    simp only [SoFar,phase] at holds
    rw [Option.toList_none,List.append_nil]
    exact holds
  | ready phase =>
    simp only [SoFar,phase] at holds
    exact ⟨h,holds,rfl⟩
  | timeout phase =>
    simp only [SoFar,phase] at holds
    exact holds.round .timeout
  | interrupted phase kind =>
    simp only [SoFar,phase] at holds
    exact holds.round (.interrupted kind)
  | waitFails phase kind =>
    simp only [SoFar,phase] at holds
    exact .streamed holds (.waitFailed kind)
  | dequeue phase =>
    simp only [SoFar,phase] at holds
    obtain ⟨k,streaming,rfl⟩ := holds
    exact ⟨k,streaming,List.append_assoc ..⟩
  | retry phase transient =>
    simp only [SoFar,phase] at holds
    obtain ⟨k,streaming,rfl⟩ := holds
    rw [List.append_assoc]
    exact streaming.round (.retry transient)
  | dequeueFails phase lasting =>
    simp only [SoFar,phase] at holds
    obtain ⟨k,streaming,rfl⟩ := holds
    rw [List.append_assoc]
    exact .streamed streaming (.dequeueFailed lasting)
  | deliver phase known | deliverBreaks phase known =>
    simp only [SoFar,phase] at holds
    obtain ⟨k,streaming,rfl⟩ := holds
    exact ⟨k,_,streaming,.frame (Option.isSome_of_eq_some known),List.append_assoc ..⟩
  | unknown phase strange =>
    simp only [SoFar,phase] at holds
    obtain ⟨k,streaming,rfl⟩ := holds
    exact ⟨k,[],streaming,.nothing strange,List.append_assoc ..⟩
  | giveBack phase =>
    simp only [SoFar,phase] at holds
    obtain ⟨k,shown,streaming,came,rfl⟩ := holds
    rw [List.append_assoc]
    exact streaming.round (.served came)
  | giveBackLast phase =>
    simp only [SoFar,phase] at holds
    obtain ⟨k,shown,streaming,came,rfl⟩ := holds
    rw [List.append_assoc]
    exact .streamed streaming (.brokenOff came)
  | giveBackFails phase =>
    simp only [SoFar,phase] at holds
    obtain ⟨k,shown,streaming,came,rfl⟩ := holds
    rw [List.append_assoc]
    exact .streamed streaming (.notTaken came)
  | streamOff phase =>
    simp only [SoFar,phase] at holds
    exact ⟨h,_,holds,rfl⟩
  | conclude phase =>
    simp only [SoFar,phase] at holds
    obtain ⟨body,answer,conduct,rfl⟩ := holds
    exact ⟨body,answer,_,conduct,List.append_assoc ..⟩
  | stay phase =>
    rw [Option.toList_none,List.append_nil]
    exact holds

/-- The stream has been turned on and not yet off. -/
def Flowing (device : Handle) (h : History) : Prop :=
  streamedOn device (.ok ()) ∈ h ∧ ∀ answer, streamedOff device answer ∉ h

/-- The stream is on while people see the thread streaming, and it is turned off only when the thread
    concludes. -/
def StreamKnown (t : Thread) (h : History) : Prop :=
  (t.state = .streaming → streamedOn t.device (.ok ()) ∈ h) ∧
    (t.phase ≠ .concluding → t.phase ≠ .ended → ∀ answer, streamedOff t.device answer ∉ h)

theorem Move.streamKnown {s : ω} {stop : Bool} {t t' : Thread} {o : Option Event} {h : History}
    (holds : StreamKnown t h) (move : Move world s stop t o t') : StreamKnown t' (h ++ o.toList) := by
  obtain ⟨on,off⟩ := holds
  cases move <;> simp_all [StreamKnown,state,enter,Phase.state]

/-- Whether an event comes in time: a filled buffer, a frame and a buffer handed back only while the
    stream flows, and else only the buffers that are queued one after the other before it does. -/
def Timely (device : Handle) (pool : BufferPool) (before : History) : Event → Prop
  | .delivered _ _ => Flowing device before
  | .asked d .dequeueBuffer _ => d = device ∧ Flowing device before
  | .asked d (.queueBuffer index) _ => d = device ∧ (Flowing device before ∨
      ∃ count < pool.length, before = handedOver device count ∧ index = .ofNat count)
  | _ => True

/-- An event of a move comes in time. -/
theorem Move.timely {s : ω} {stop : Bool} {t t' : Thread} {e : Event} {h : History}
    (seen : SoFar t h) (known : StreamKnown t h) (move : Move world s stop t (some e) t') :
    Timely t.device t.pool h e := by
  have flowing : t.state = .streaming → Flowing t.device h := by
    intro streaming
    refine ⟨known.1 streaming,known.2 ?_ ?_⟩
    · intro phase; simp [state,Phase.state,phase] at streaming
    · intro phase; simp [state,Phase.state,phase] at streaming
  cases move with
  | queue phase below | queueFails phase below =>
    simp only [SoFar,phase] at seen
    exact ⟨rfl,.inr ⟨_,below,seen.2,rfl⟩⟩
  | dequeue phase | retry phase | dequeueFails phase =>
    exact ⟨rfl,flowing (by simp [state,Phase.state,phase])⟩
  | deliver phase | deliverBreaks phase => exact flowing (by simp [state,Phase.state,phase])
  | giveBack phase | giveBackLast phase | giveBackFails phase =>
    exact ⟨rfl,.inl (flowing (by simp [state,Phase.state,phase]))⟩
  | _ => trivial

variable (world) (sink : Sink ω)

/-- However the device and the consumer behave and whenever a thread is stopped, it ends in the state
    of a thread that is over, what is seen of it is its whole conduct, and every event of it comes in
    time. -/
theorem live_conduct (device : Handle) (pool : BufferPool) (geometry : FrameGeometry)
    (info : SessionStart) (stops : List Bool) (s : ω) :
    let run := ((spawn device pool geometry info).live world sink stops).run s
    run.value.state = .stopped ∧
      WholeConduct device pool info run.value.frames (observed run.history) ∧
      ∀ before e after, observed run.history = before ++ e :: after →
        Timely device pool before e := by
  intro run
  have whole := runs_liveTrail world sink stops (spawn device pool geometry info) s
  have ended : run.value.phase = .ended := live_ended world sink stops _ s
  have fresh : SoFar (spawn device pool geometry info) [] := ⟨Nat.zero_le _,rfl⟩
  have unknown : StreamKnown (spawn device pool geometry info) [] := by simp [StreamKnown,spawn,state,Phase.state]
  refine ⟨by rw [state,ended]; rfl,?_,?_⟩
  · have seen := whole.keeps (fun holds move => move.soFar holds) fresh
    obtain ⟨sameDevice,samePool,-,sameInfo⟩ := whole.sameSession
    rw [events_liveTrail] at seen
    simp only [SoFar,ended,run] at seen
    rwa [sameDevice,samePool,sameInfo] at seen
  · intro before e after cut
    obtain ⟨s',stop,t₁,t₂,p,q,reached,move,-,rfl,-⟩ := exists_move_of_live world sink cut
    obtain ⟨sameDevice,samePool,-,-⟩ := reached.sameSession
    have timely := move.timely (reached.keeps (fun holds move => move.soFar holds) fresh)
      (reached.keeps (fun holds move => move.streamKnown holds) unknown)
    rwa [sameDevice,samePool] at timely

end VideoCapture.Thread
