import VideoCapture.Capture.Source
import VideoCapture.Proofs.Capture.StopRequests
/-!
# What is seen of a teardown

A session is torn down in order: its thread is told to stop and comes to its end, then each mapped buffer is
unmapped once, whether or not the device can, and then the device is closed (`Session.TornDown`). Every session
is torn down completely, whatever it holds and however devices and consumer answer (`Source.terminate_tornDown`).
-/
namespace VideoCapture
variable {ω : Type} {world : World ω} {sink : Sink ω}

open Act

/-- What is seen of a thread that is told to stop: a path under the flag to its end. -/
def Thread.Finished (world : World ω) (t : Thread) (h : History) : Prop :=
  ∃ marks t', Path world ⟨t,true⟩ marks ⟨t',true⟩ ∧ t'.phase = .ended ∧ h = events marks

namespace Session

/-- What is seen when the thread of a session ends. -/
def Joined (world : World ω) (session : Session) (h : History) : Prop :=
  match session.thread with
  | some t => t.Finished world h
  | .none => h = []

/-- What is seen when the buffers of a session are unmapped. -/
def Released (session : Session) (h : History) : Prop :=
  match session.pool with
  | some pool => BufferPool.Unmapped pool.device (BufferPool.places pool.slots) h
  | .none => h = []

/-- What is seen of a session that is torn down. -/
def TornDown (world : World ω) (session : Session) (h : History) : Prop :=
  ∃ joining unmapping, session.Joined world joining ∧ session.Released unmapping ∧
    h = joining ++ (unmapping ++ session.device.toList.map .closed)

end Session

namespace Thread
variable (world) (sink)

theorem finish_finished (t : Thread) (s : ω) :
    (t.finish world sink).Yields s fun t' h => t'.phase = .ended ∧ t.Finished world h := by
  obtain ⟨marks,path,told⟩ := path_steps world sink true t.distance t s
  have ended := finish_ended world sink t s
  exact ⟨ended,marks,_,path,ended,told.symm⟩

end Thread

namespace Source
variable (world) (sink)

theorem endThread_joined (session : Session) (s : ω) :
    (endThread world sink session.thread).Yields s fun left h => holdsOn left = false ∧ session.Joined world h := by
  unfold Session.Joined
  cases session.thread with
  | none => exact yields_pure ⟨rfl,rfl⟩
  | some t =>
    refine yields_then (Thread.finish_finished world sink t s) fun t' h s' stopped => yields_pure ?_
    obtain ⟨ended,finished⟩ := stopped
    refine ⟨?_,?_⟩
    · simp [holdsOn,Thread.isEnded,ended]
    · rwa [List.append_nil]

theorem releasePool_released (session : Session) (s : ω) :
    (releasePool world false session.pool).Yields s fun _ h => session.Released h := by
  unfold Session.Released
  cases session.pool with
  | none => exact yields_pure rfl
  | some pool =>
    refine yields_then (BufferPool.unmap_unmapped world pool s) fun _ h s' unmapped => yields_pure ?_
    rwa [List.append_nil]

theorem releaseDevice_closed (device : Option Handle) (s : ω) :
    (releaseDevice world false device).Yields s fun _ h => h = device.toList.map .closed := by
  cases device with
  | none => exact yields_pure rfl
  | some device => exact yields_close fun s' => yields_notice_end rfl

/-- A session is torn down completely, and nothing is left of it. -/
theorem terminate_tornDown (source : Source) (s : ω) :
    (source.terminate world sink).Yields s fun source' h =>
      source' = { source with session := .none } ∧ source.session.TornDown world h := by
  refine yields_then (endThread_joined world sink source.session s) fun left joining s' ending => ?_
  obtain ⟨free,joined⟩ := ending
  rw [free]
  refine yields_then (releasePool_released world source.session s') fun _ unmapping s'' released => ?_
  refine yields_then (releaseDevice_closed world source.session.device s'') fun _ closing s''' closed => ?_
  refine yields_pure ⟨rfl,joining,unmapping,joined,released,?_⟩
  rw [List.append_nil,closed]

end Source
end VideoCapture
