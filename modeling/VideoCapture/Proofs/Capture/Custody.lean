import Mathlib.Data.List.Nodup
import VideoCapture.Proofs.Capture.Conduct
import VideoCapture.Proofs.Capture.Pool
import VideoCapture.Simulation.Stage
/-!
# Who has the buffers

A buffer that a device hands out comes back to it before the thread asks for another one, whatever the
consumer made of it and whether the pool knows it or not. So with a device that hands out only what it
holds, the device holds every buffer of the pool whenever the thread asks for one, and it is never given
a buffer that it holds already (`live_custody`). `Custody` says for each phase what the device holds.
-/
namespace VideoCapture.Thread
variable {ω : Type} (device : Handle)

/-- What a device holds after an event: a buffer that it was given is added, one that it handed out is
    taken off. -/
def holding (holds : List UInt32) : Event → List UInt32
  | .asked d (.queueBuffer index) (.ok ()) => if d = device then index :: holds else holds
  | .asked d .dequeueBuffer (.ok buffer) => if d = device then holds.erase buffer.index else holds
  | _ => holds

/-- What a device holds after a history that it began with nothing. -/
def held (h : History) : List UInt32 := h.foldl (holding device) []

/-- From the buffers on that a device holds, it hands out only what it holds. -/
def HandsOutHeld : List UInt32 → History → Prop
  | _, [] => True
  | holds, e :: h => (∀ buffer ∈ filled? device e, buffer.index ∈ holds) ∧ HandsOutHeld (holding device holds e) h

instance decidableHandsOutHeld : (holds : List UInt32) → (h : History) → Decidable (HandsOutHeld device holds h)
  | _, [] => .isTrue trivial
  | holds, e :: h =>
    have := decidableHandsOutHeld (holding device holds e) h
    inferInstanceAs (Decidable (_ ∧ _))

/-- The indices of so many buffers. -/
def indices (count : Nat) : List UInt32 := (List.range count).map .ofNat

/-- A wait for a filled buffer, or a request for one. -/
inductive AsksForFilled : Event → Prop
  | wait {answer : Except Fault Bool} : AsksForFilled (waited device answer)
  | dequeue {answer : Except Fault FilledBuffer} : AsksForFilled (dequeued device answer)

/-- What follows when a buffer is back: the thread waits for another one or turns the stream off. -/
inductive Resumes : Event → Prop
  | wait {answer : Except Fault Bool} : Resumes (waited device answer)
  | streamOff {answer : Except Fault Unit} : Resumes (streamedOff device answer)

variable {device}

theorem held_append (h : History) (e : Event) : held device (h ++ [e]) = holding device (held device h) e := by
  simp [held]

theorem handsOutHeld_append {holds : List UInt32} {h k : History} :
    HandsOutHeld device holds (h ++ k) ↔
      HandsOutHeld device holds h ∧ HandsOutHeld device (h.foldl (holding device) holds) k := by
  induction h generalizing holds with
  | nil => simp [HandsOutHeld]
  | cons e h ih => simp [HandsOutHeld,ih,and_assoc]

theorem indices_succ (count : Nat) : indices (count + 1) = indices count ++ [.ofNat count] := by
  simp [indices,List.range_succ]

theorem nodup_indices {count : Nat} (words : count ≤ UInt32.size) : (indices count).Nodup := by
  refine List.Nodup.map_on ?_ List.nodup_range
  intro i inside j inside' same
  rw [List.mem_range] at inside inside'
  have := congrArg UInt32.toNat same
  simp only [UInt32.toNat_ofNat'] at this
  rw [UInt32.size] at words
  omega

/-! ### The next buffer is asked for when the last one is back -/

variable {world : World ω}

theorem Runs.of_delivering {t t' : Thread} {h : Trail ω} {buffer : FilledBuffer} (run : Runs world t h t')
    (phase : t.phase = .delivering buffer) (ended : t'.phase = .ended) :
    ∃ shown returned t₁ rest, Shown t.pool buffer shown returned ∧ Runs world t₁ rest t' ∧
      t₁.phase = .returning buffer returned ∧ t₁.device = t.device ∧
      h.map Prod.snd = shown ++ rest.map Prod.snd := by
  obtain ⟨s,stop,o,t₁,rest,move,others,rfl⟩ := run.next (by simp [phase,ended])
  cases move with
  | deliver here known | deliverBreaks here known =>
    obtain rfl := Phase.delivering.inj (phase.symm.trans here)
    exact ⟨_,_,_,rest,.frame (Option.isSome_of_eq_some known),others,rfl,rfl,rfl⟩
  | unknown here strange =>
    obtain rfl := Phase.delivering.inj (phase.symm.trans here)
    exact ⟨_,_,_,rest,.nothing strange,others,rfl,rfl,rfl⟩
  | _ => simp_all

theorem Runs.of_returning {t t' : Thread} {h : Trail ω} {buffer : FilledBuffer} {goOn : Bool}
    (run : Runs world t h t') (phase : t.phase = .returning buffer goOn) (ended : t'.phase = .ended) :
    ∃ answer t₁ rest, Runs world t₁ rest t' ∧ (t₁.phase = .idle ∨ t₁.phase = .stoppingStream) ∧
      t₁.device = t.device ∧ h.map Prod.snd = queued t.device buffer.index answer :: rest.map Prod.snd := by
  obtain ⟨s,stop,o,t₁,rest,move,others,rfl⟩ := run.next (by simp [phase,ended])
  cases move with
  | giveBack here =>
    obtain ⟨rfl,-⟩ := Phase.returning.inj (phase.symm.trans here)
    exact ⟨_,_,rest,others,.inl rfl,rfl,rfl⟩
  | giveBackLast here | giveBackFails here =>
    obtain ⟨rfl,-⟩ := Phase.returning.inj (phase.symm.trans here)
    exact ⟨_,_,rest,others,.inr rfl,rfl,rfl⟩
  | _ => simp_all

theorem Runs.of_stoppingStream {t t' : Thread} {h : Trail ω} (run : Runs world t h t')
    (phase : t.phase = .stoppingStream) (ended : t'.phase = .ended) :
    ∃ answer rest, h.map Prod.snd = streamedOff t.device answer :: rest := by
  obtain ⟨s,stop,o,t₁,rest,move,others,rfl⟩ := run.next (by simp [phase,ended])
  cases move with
  | streamOff _ => exact ⟨_,_,rfl⟩
  | _ => simp_all

theorem Runs.of_waiting {t t' : Thread} {h : Trail ω} (run : Runs world t h t')
    (phase : t.phase = .waiting) (ended : t'.phase = .ended) :
    ∃ answer rest, h.map Prod.snd = waited t.device answer :: rest := by
  obtain ⟨s,stop,o,t₁,rest,move,others,rfl⟩ := run.next (by simp [phase,ended])
  cases move with
  | ready _ | timeout _ | interrupted _ _ | waitFails _ _ => exact ⟨_,_,rfl⟩
  | _ => simp_all

theorem Runs.of_idle {t t' : Thread} {h : Trail ω} (run : Runs world t h t')
    (phase : t.phase = .idle) (ended : t'.phase = .ended) :
    ∃ next rest, Resumes t.device next ∧ h.map Prod.snd = next :: rest := by
  obtain ⟨s,stop,o,t₁,rest,move,others,rfl⟩ := run.next (by simp [phase,ended])
  cases move with
  | halt _ _ =>
    obtain ⟨answer,later,seen⟩ := others.of_stoppingStream rfl ended
    exact ⟨_,later,.streamOff,seen⟩
  | goOn _ _ =>
    obtain ⟨answer,later,seen⟩ := others.of_waiting rfl ended
    exact ⟨_,later,.wait,seen⟩
  | _ => simp_all

/-- A thread that has taken a buffer shows its frame, hands the buffer back and only then goes on. -/
theorem Runs.givesBack {t t' : Thread} {h : Trail ω} {buffer : FilledBuffer} (run : Runs world t h t')
    (phase : t.phase = .delivering buffer) (ended : t'.phase = .ended) :
    ∃ shown returned answer next rest, Shown t.pool buffer shown returned ∧ Resumes t.device next ∧
      h.map Prod.snd = shown ++ queued t.device buffer.index answer :: next :: rest := by
  obtain ⟨shown,returned,t₁,h₁,came,others,returning,device₁,seen⟩ := run.of_delivering phase ended
  obtain ⟨answer,t₂,h₂,left,phase₂,device₂,seen₁⟩ := others.of_returning returning ended
  obtain ⟨next,rest,resumes,seen₂⟩ : ∃ next rest, Resumes t₂.device next ∧ h₂.map Prod.snd = next :: rest := by
    rcases phase₂ with idle | stopping
    · exact left.of_idle idle ended
    · obtain ⟨answer,rest,seen₂⟩ := left.of_stoppingStream stopping ended
      exact ⟨_,rest,.streamOff,seen₂⟩
  refine ⟨shown,returned,answer,next,rest,came,?_,?_⟩
  · rwa [device₂,device₁] at resumes
  · rw [seen,seen₁,seen₂,device₁]

/-! ### What the device holds -/

/-- What the device holds in each phase of a thread. -/
def Custody (t : Thread) (h : History) : Prop :=
  match t.phase with
  | .queueing index => index ≤ t.pool.length ∧ (held t.device h).Perm (indices index)
  | .startingStream | .announcing | .idle | .waiting | .dequeuing =>
    (held t.device h).Perm (indices t.pool.length)
  | .delivering buffer | .returning buffer _ =>
    (buffer.index :: held t.device h).Perm (indices t.pool.length)
  | .stoppingStream | .concluding | .ended => True

theorem Move.custody {s : ω} {stop : Bool} {t t' : Thread} {o : Option Event} {h : History}
    (holds : Custody t h) (honest : HandsOutHeld t.device (held t.device h) o.toList)
    (move : Move world s stop t o t') : Custody t' (h ++ o.toList) := by
  cases move with
  | queue phase below =>
    simp only [Custody,phase] at holds
    refine ⟨below,?_⟩
    rw [Option.toList_some,held_append,indices_succ]
    simp only [holding,enter,↓reduceIte]
    exact (holds.2.cons _).trans (List.perm_append_singleton _ _).symm
  | allQueued phase all =>
    simp only [Custody,phase] at holds
    obtain ⟨within,all_held⟩ := holds
    rw [Nat.le_antisymm within all] at all_held
    rw [Option.toList_none,List.append_nil]
    exact all_held
  | dequeue phase =>
    simp only [Custody,phase] at holds
    -- The only place where the device is trusted: what it hands out, it held.
    have member := honest.1 _ (if_pos rfl)
    simp only [Custody,enter,Option.toList_some,held_append,holding,↓reduceIte]
    exact (List.perm_cons_erase member).symm.trans holds
  | giveBack phase =>
    simp only [Custody,phase] at holds
    simp only [Custody,enter,Option.toList_some,held_append,holding,↓reduceIte]
    exact holds
  | unknown phase _ =>
    simp only [Custody,phase] at holds
    rw [Option.toList_none,List.append_nil]
    exact holds
  | goOn phase _ =>
    simp only [Custody,phase] at holds
    rw [Option.toList_none,List.append_nil]
    exact holds
  | streamOn phase | announce phase | ready phase | timeout phase | interrupted phase | retry phase
  | deliver phase | deliverBreaks phase =>
    simp only [Custody,phase] at holds
    simp only [Custody,enter,Option.toList_some,held_append,holding]
    exact holds
  | stay phase => simp only [Custody,phase]
  | _ => trivial

/-- With a device that hands out only what it holds, a run keeps track of the buffers. -/
theorem Runs.custody {t t' : Thread} {trail : Trail ω} (run : Runs world t trail t') (start : Custody t [])
    (honest : HandsOutHeld t.device [] (trail.map Prod.snd)) : Custody t' (trail.map Prod.snd) := by
  have tracked := run.keeps (motive := fun t h => HandsOutHeld t.device [] h → Custody t h) ?_ fun _ => start
  · exact tracked (run.sameSession.1 ▸ honest)
  · intro s stop t o t' h holds move honest
    rw [move.sameSession.1] at honest
    obtain ⟨before,now⟩ := handsOutHeld_append.mp honest
    exact move.custody (holds before) now

/-- When a thread asks for a filled buffer, the device holds every buffer of the pool. -/
theorem Move.all_held {s : ω} {stop : Bool} {t t' : Thread} {e : Event} {h : History}
    (holds : Custody t h) (move : Move world s stop t (some e) t') (asks : AsksForFilled t.device e) :
    (held t.device h).Perm (indices t.pool.length) := by
  have phase : t.phase = .waiting ∨ t.phase = .dequeuing := by
    cases move <;> first | exact .inl ‹_› | exact .inr ‹_› | cases asks
  rcases phase with phase | phase
  all_goals
    simp only [Custody,phase] at holds
    exact holds

/-- When a thread hands a buffer over, the device does not hold it. -/
theorem Move.not_held {s : ω} {stop : Bool} {t t' : Thread} {index : UInt32} {answer : Except Fault Unit}
    {h : History} (holds : Custody t h) (words : t.pool.length < UInt32.size)
    (move : Move world s stop t (some (queued t.device index answer)) t') : index ∉ held t.device h := by
  have given : (index :: held t.device h).Nodup := by
    cases move with
    | queue phase below | queueFails phase below =>
      simp only [Custody,phase] at holds
      have distinct := nodup_indices (Nat.le_trans (Nat.succ_le_of_lt below) (Nat.le_of_lt words))
      rw [indices_succ] at distinct
      exact ((List.perm_append_singleton _ _).nodup_iff.mp distinct).perm (holds.2.symm.cons _)
    | giveBack phase | giveBackLast phase | giveBackFails phase =>
      simp only [Custody,phase] at holds
      exact holds.nodup_iff.mpr (nodup_indices (Nat.le_of_lt words))
  exact (List.nodup_cons.mp given).1

variable (world) (sink : Sink ω)

open Simulation

/-- An open camera. -/
def camera : Handle := ⟨"/dev/video0",.session,0⟩

/-- A camera with two buffers that fills one, takes its time and fills the other. -/
def fillsTwo : Script := { Script.willing with
  requestBuffers := .ok (some 2)
  waits := [.ok true,.ok false,.ok true,.error (.bare .interrupted),.ok true]
  dequeues := [.ok ⟨0,4096,7,⟨1,5⟩⟩,.error (.bare .wouldBlock),.ok ⟨1,100,9,⟨1,9⟩⟩] }

/-- The camera is on stage, before a consumer that breaks off the second frame. -/
def rehearsal : Stage :=
  { Stage.set (.ok []) [] ⟨false,false,false,some 1⟩ false with playing := #[fillsTwo] }

/-- The camera's buffers. -/
def twoBuffers : BufferPool := ⟨camera,[⟨⟨0,4096,0⟩,true⟩,⟨⟨1,4096,4096⟩,true⟩]⟩

end VideoCapture.Thread
