import Mathlib.Data.List.Forall2
import VideoCapture.Capture.Source
import VideoCapture.Proofs.Capture.Moves
import VideoCapture.Proofs.Capture.Pool
import VideoCapture.Proofs.Pixel.DueFrames
import VideoCapture.Simulation.Stage
/-!
# What is delivered

The frames of a session are a function of what the device answered: for each filled buffer that the device
handed out and the pool has, in this order, the one frame that is due for it (`AgreedFormat.Due`). Its size and
pixel format are the device's reply to the request for a format, its planes are windows of the memory where the
device said that the buffer lies, and the rest is what the device said of the buffer (`session_delivers`). The
frames that are counted are those that the consumer took.
-/
namespace VideoCapture

namespace Thread
variable {ω : Type} {world : World ω} {sink : Sink ω}

/-- The filled buffers that a device handed out, in their order. -/
def taken (device : Handle) (h : History) : List FilledBuffer := h.filterMap (filled? device)

/-- The filled buffers that a pool has. -/
def known (pool : BufferPool) (buffers : List FilledBuffer) : List FilledBuffer :=
  buffers.filter fun buffer => buffer.index.toNat < pool.length

/-- The frames that were delivered, in their order, each with the state of the world it was made in. -/
def deliveries (trail : Trail ω) : List (ω × Frame) :=
  trail.filterMap fun
    | (s,.delivered frame _) => some (s,frame)
    | _ => none

/-- Whether an event is a delivery that the consumer came back from. -/
def isAccepted : Event → Bool
  | .delivered _ returned => returned
  | _ => false

/-- The number of deliveries that the consumer came back from. -/
def accepted (h : History) : Nat := h.countP isAccepted

/-- The buffer that is taken and not yet delivered, if the pool has it. -/
def outstanding (t : Thread) : List FilledBuffer :=
  match t.phase with
  | .delivering buffer => known t.pool [buffer]
  | _ => []

/-- A frame was made from the memory of a filled buffer. -/
def MadeFrom (world : World ω) (pool : BufferPool) (geometry : FrameGeometry) (buffer : FilledBuffer)
    (delivery : ω × Frame) : Prop :=
  ∃ place, pool.mapping? buffer.index.toNat = some place ∧
    delivery.2 = geometry.view (world.contents pool.device place delivery.1) buffer

/-- Every buffer that was taken and that the pool has is served, but for the one outstanding. -/
def Serving (world : World ω) (t : Thread) (trail : Trail ω) : Prop :=
  ∃ served, known t.pool (taken t.device (trail.map Prod.snd)) = served ++ t.outstanding ∧
    List.Forall₂ (MadeFrom world t.pool t.geometry) served (deliveries trail)

/-- The frames counted are those accepted, and the consumer is told of no other number. -/
def Counted (t : Thread) (h : History) : Prop :=
  t.frames = accepted h ∧ ∀ n returned, .stopped n returned ∈ h → t.phase = .ended ∧ n = t.frames

/-- Every buffer of a pool is mapped. -/
def AllMapped (pool : BufferPool) : Prop :=
  ∀ index, (pool.mapping? index).isSome = decide (index < pool.length)

theorem known_append (pool : BufferPool) (buffers others : List FilledBuffer) :
    known pool (buffers ++ others) = known pool buffers ++ known pool others := List.filter_append ..

theorem taken_append (device : Handle) (h k : History) :
    taken device (h ++ k) = taken device h ++ taken device k := List.filterMap_append ..

theorem deliveries_append (p q : Trail ω) : deliveries (p ++ q) = deliveries p ++ deliveries q :=
  List.filterMap_append ..

theorem known_of_mapping {pool : BufferPool} (mapped : AllMapped pool) (buffer : FilledBuffer) :
    known pool [buffer] = if (pool.mapping? buffer.index.toNat).isSome then [buffer] else [] := by
  simp only [known,List.filter_cons,List.filter_nil,mapped buffer.index.toNat]

/-- An event that neither hands a buffer out nor delivers a frame changes nothing. -/
theorem Serving.quiet {t t' : Thread} {trail : Trail ω} {s : ω} {o : Option Event}
    (serving : Serving world t trail) (same : SameSession t t') (before : t.outstanding = [])
    (after : t'.outstanding = []) (nothingTaken : taken t.device o.toList = [])
    (nothingMade : deliveries (o.toList.map (s,·)) = []) :
    Serving world t' (trail ++ o.toList.map (s,·)) := by
  obtain ⟨served,all,each⟩ := serving
  obtain ⟨device,pool,geometry,-⟩ := same
  refine ⟨served,?_,?_⟩
  · rw [events_append,device,pool,taken_append,nothingTaken,List.append_nil,all,before,after]
  · rw [pool,geometry,deliveries_append,nothingMade,List.append_nil]
    exact each

theorem Move.serving {s : ω} {stop : Bool} {t t' : Thread} {o : Option Event} {trail : Trail ω}
    (mapped : AllMapped t.pool) (serving : Serving world t trail) (move : Move world s stop t o t') :
    Serving world t' (trail ++ o.toList.map (s,·)) := by
  have same := move.sameSession
  cases move with
  | dequeue phase =>
    obtain ⟨served,all,each⟩ := serving
    refine ⟨served,?_,?_⟩
    · rw [outstanding,phase] at all
      rw [events_append]
      simp only [enter,taken_append,known_append,all,List.append_nil]
      simp [taken,filled?,outstanding]
    · rw [deliveries_append]
      exact (List.append_nil (deliveries trail)).symm ▸ each
  | @deliver buffer place phase found | @deliverBreaks buffer place phase found =>
    obtain ⟨served,all,each⟩ := serving
    rw [outstanding,phase] at all
    simp only [known_of_mapping mapped,found,Option.isSome_some,↓reduceIte] at all
    refine ⟨served ++ [buffer],?_,?_⟩
    · rw [events_append]
      simp only [enter,taken_append,known_append,all]
      simp [taken,known,filled?,outstanding]
    · rw [deliveries_append]
      exact List.rel_append each (.cons ⟨_,found,rfl⟩ .nil)
  | unknown phase strange =>
    -- The pool does not have the buffer, so nothing was outstanding.
    obtain ⟨served,all,each⟩ := serving
    rw [outstanding,phase] at all
    simp only [known_of_mapping mapped,strange,Option.isSome_none,Bool.false_eq_true,↓reduceIte] at all
    refine ⟨served,?_,?_⟩
    · rw [Option.toList_none,List.map_nil,List.append_nil]
      exact all
    · rw [Option.toList_none,List.map_nil,List.append_nil]
      exact each
  | stay phase =>
    refine serving.quiet same ?_ ?_ rfl rfl <;> simp [outstanding,phase]
  | queue phase | queueFails phase | allQueued phase | streamOn phase | streamOnFails phase | announce phase
  | announceBreaks phase | halt phase | goOn phase | ready phase | timeout phase | interrupted phase
  | waitFails phase | retry phase | dequeueFails phase | giveBack phase | giveBackLast phase
  | giveBackFails phase | streamOff phase | conclude phase =>
    exact serving.quiet same (by rw [outstanding,phase]) rfl rfl rfl

theorem Move.counted {s : ω} {stop : Bool} {t t' : Thread} {o : Option Event} {h : History}
    (counted : Counted t h) (move : Move world s stop t o t') : Counted t' (h ++ o.toList) := by
  obtain ⟨number,told⟩ := counted
  cases move with
  | stay phase =>
    rw [Option.toList_none,List.append_nil]
    exact ⟨number,told⟩
  | _ => simp_all [Counted,accepted,isAccepted,enter]

theorem Counted.of_runs {t t' : Thread} {trail : Trail ω} (run : Runs world t trail t')
    (fresh : t.frames = 0) : Counted t' (trail.map Prod.snd) :=
  run.keeps (fun counted move => move.counted counted) ⟨fresh,by simp⟩

theorem Serving.of_runs {t t' : Thread} {trail : Trail ω} (run : Runs world t trail t')
    (mapped : AllMapped t.pool) (fresh : t.outstanding = []) : Serving world t' trail := by
  have kept := run.invariant (motive := fun t trail => AllMapped t.pool ∧ Serving world t trail) ?_ ?_
  · exact kept.2
  · rintro s stop t o t' trail ⟨mapped,serving⟩ move
    exact ⟨move.sameSession.2.1 ▸ mapped,move.serving mapped serving⟩
  · exact ⟨mapped,[],by simp [fresh,taken,known],.nil⟩

/-! ### The opening of a session -/

/-- What is known of the thread that a session begins with, when the device agreed to a format. -/
structure Begun (config : Configuration) (format : AgreedFormat) (h : History) (t : Thread) : Prop where
  agreed : .asked t.device (.setFormat config.resolution.width config.resolution.height config.format)
    (.ok format) ∈ h
  agreedOnce : ∀ d width height code answer, .asked d (.setFormat width height code) answer ∈ h → answer = .ok format
  geometry : FrameGeometry.of format = .ok t.geometry
  granted : ∃ granted : UInt32, t.pool.length = granted.toNat ∧
    .asked t.device (.requestBuffers BufferPool.preferredCount) (.ok granted) ∈ h
  backed : t.pool.Backed t.device h
  fresh : t.phase = .queueing 0 ∧ t.frames = 0

/-- The session that opens with a configuration begins with a thread of which that is known. -/
theorem openSession_begun (world : World ω) (config : Configuration) (s : ω) :
    (Source.openSession world config).Yields s fun result h =>
      ∀ t, result.1.thread = some t → ∃ format, Begun config format h t := by
  unfold Source.openSession
  refine Act.yields_notice (Act.yields_open (fun number s' => ?_) fun fault s' _ wrong => nomatch wrong)
  refine Act.yields_request fun answer s' => ?_
  cases answer with
  | error fault => exact fun _ wrong => nomatch wrong
  | ok format =>
  refine Act.yields_notice (Act.yields_notice ?_)
  cases shape : FrameGeometry.of format with
  | error error => exact fun _ wrong => nomatch wrong
  | ok geometry =>
  refine Act.yields_request fun answer s' => ?_
  cases answer with
  | error fault => exact fun _ wrong => nomatch wrong
  | ok interval =>
  refine Act.yields_notice (Act.yields_bind (Act.yields_mono ?_
    (Act.yields_and (BufferPool.map_backed world _ _) (BufferPool.map_requests world _ _))))
  rintro result h ⟨mapped,requests⟩ s'
  cases result with
  | error error => exact fun _ wrong => nomatch wrong
  | ok pool =>
  refine Act.yields_spawn fun answer s' => ?_
  cases answer with
  | error fault => exact fun _ wrong => nomatch wrong
  | ok _ =>
    rintro t ⟨rfl⟩
    obtain ⟨backed,granted,length,asked⟩ := mapped pool rfl
    have later {e a b c : Event} {k : History} (inside : e ∈ h) : e ∈ a :: b :: c :: (h ++ k) :=
      .tail _ (.tail _ (.tail _ (List.mem_append_left _ inside)))
    refine ⟨format,.tail _ (.head _),?_,shape,⟨granted,length,later asked⟩,?_,rfl,rfl⟩
    · intro d width height code answer inside
      rcases inside with _ | ⟨_,_ | ⟨_,_ | ⟨_,inside⟩⟩⟩
      · rfl
      · rcases List.mem_append.mp inside with amongRequests | last
        · have := List.all_eq_true.mp requests _ amongRequests
          simp [BufferPool.isPoolRequest] at this
        · rcases last with _ | ⟨_,inside⟩
          cases inside
    · exact backed.mono fun e inside => later inside

variable (world sink)

open Simulation

/-- A camera that settles on smaller images than asked for, and hands out a buffer, one that is unknown and
    another one. -/
def handsOutThree : Script := { Script.willing with
  setFormat := .ok ⟨some 2,some 2,none,none,none⟩
  requestBuffers := .ok (some 2)
  bufferLength := 8
  waits := [.ok true,.ok true,.ok true]
  dequeues := [.ok ⟨1,8,3,⟨1,5⟩⟩,.ok ⟨5,8,4,⟨1,6⟩⟩,.ok ⟨0,6,5,⟨1,7⟩⟩] }

/-- The camera waits to be opened, before a consumer that breaks off the second frame. -/
def premiere : Stage :=
  Stage.set (.ok []) [("/dev/video0",handsOutThree)] ⟨false,false,false,some 1⟩ false

/-- The thread of the session that opens on stage. -/
def premiereThread : Thread :=
  .spawn ⟨"/dev/video0",.session,0⟩
    ⟨⟨"/dev/video0",.session,0⟩,[⟨⟨0,8,0⟩,true⟩,⟨⟨1,8,4096⟩,true⟩]⟩
    ⟨2,2,.yuy2,⟨[⟨0,4,8⟩]⟩⟩ ⟨"/dev/video0",⟨2,2,.yuyv,0,0⟩,.yuy2,⟨1,30⟩,2⟩

end Thread
end VideoCapture
