import VideoCapture.Capture.Scene
import VideoCapture.Proofs.Capture.Ledger
/-!
# The life of a source

Whatever calls a source gets, however its capture thread goes on between them and whatever devices answer,
devices, buffers and threads are treated with care, and nothing is left when the source was terminated or
dropped (`live_careful`). The invariant is `Ledger.Owns`: what is open, mapped and running is what the
session and a search for devices hold. Each act of a source keeps it, from one request of the thread up to a
list of turns.
-/
namespace VideoCapture
variable {ω : Type} {world : World ω} {sink : Sink ω}

open Ledger Act

/-- The buffers of a pool as mappings. -/
def BufferPool.mappings (pool : BufferPool) : List Mapping :=
  pool.slots.map fun slot => ⟨pool.device,slot.info⟩

namespace Ledger

/-- What the ledger says of a session that a thread works on. -/
structure Backs (x : Ledger) (t : Thread) : Prop where
  device : t.device ∈ x.devices
  mappings : x.mappings = t.pool.mappings
  threads : x.threads = if t.phase = .ended then 0 else 1
  format : ∃ format, x.format = some format ∧ FrameGeometry.of format = .ok t.geometry
  filled : ∀ buffer, t.phase = .delivering buffer → x.filled = some buffer

/-- What the ledger says of a session, while a search for devices holds a probe. -/
structure Owns (x : Ledger) (session : Session) (probe : Option Handle) : Prop where
  devices : x.devices = probe.toList ++ session.device.toList
  probeKind : ∀ device ∈ probe, device.isSession = false
  sessionKind : ∀ device ∈ session.device, device.isSession = true
  mappings : x.mappings = (session.pool.map BufferPool.mappings).getD []
  pool : ∀ pool ∈ session.pool, session.device = some pool.device ∧ ∀ slot ∈ pool.slots, slot.isMapped = true
  thread : ∀ t ∈ session.thread, session.pool = some t.pool ∧ t.device = t.pool.device ∧ x.Backs t
  noThread : session.thread = none → x.threads = 0

theorem Backs.enter {x : Ledger} {t : Thread} {phase : Phase} (backs : x.Backs t) (before : t.phase ≠ .ended)
    (after : phase ≠ .ended) (filled : ∀ buffer, phase = .delivering buffer → x.filled = some buffer) :
    x.Backs (t.enter phase) where
  device := backs.device
  mappings := backs.mappings
  threads := by
    rw [backs.threads,if_neg before]
    exact (if_neg after).symm
  format := backs.format
  filled := filled

theorem Backs.running {x : Ledger} {t : Thread} (backs : x.Backs t) (before : t.phase ≠ .ended) :
    x.threads = 1 := by
  rw [backs.threads,if_neg before]

/-- The frame that a thread makes of a mapped buffer is shown by the ledger. -/
theorem Backs.shows {x : Ledger} {t : Thread} {buffer : FilledBuffer} {place : BufferPlace} (backs : x.Backs t)
    (phase : t.phase = .delivering buffer) (found : t.pool.mapping? buffer.index.toNat = some place) (s : ω) :
    Shows world x (t.shot world place buffer s) := by
  obtain ⟨format,agreed,shape⟩ := backs.format
  obtain ⟨pixels,supported,-⟩ := FrameGeometry.of_eq_ok_iff.mp shape
  refine ⟨format,pixels,buffer,⟨t.pool.device,place⟩,s,agreed,supported,backs.filled buffer phase,?_,?_⟩
  · obtain ⟨slot,there,-,rfl⟩ := BufferPool.exists_slot_of_mapping? found
    rw [backs.mappings,BufferPool.mappings,List.getElem?_map,there]
    rfl
  · exact FrameGeometry.due_view supported shape _ buffer

end Ledger

theorem Thread.Move.backs {s : ω} {stop : Bool} {t t' : Thread} {o : Option Event} {x : Ledger}
    (backs : x.Backs t) (move : Move world s stop t o t') :
    Orderly world x o.toList ∧ (x.afterAll o.toList).Backs t' ∧
      (x.afterAll o.toList).devices = x.devices := by
  cases move with
  | dequeue phase =>
    refine ⟨⟨backs.device,trivial⟩,?_,rfl⟩
    refine ⟨backs.device,backs.mappings,?_,backs.format,?_⟩
    · exact backs.running (by simp [phase])
    · rintro buffer ⟨rfl⟩
      rfl
  | deliver phase found =>
    have running := backs.running (by simp [phase])
    refine ⟨⟨⟨by omega,backs.shows phase found s⟩,trivial⟩,?_,rfl⟩
    exact ⟨backs.device,backs.mappings,running,backs.format,fun _ wrong => nomatch wrong⟩
  | deliverBreaks phase found =>
    have running := backs.running (by simp [phase])
    refine ⟨⟨⟨by omega,backs.shows phase found s⟩,trivial⟩,?_,rfl⟩
    exact backs.enter (by simp [phase]) (by simp) (by simp)
  | announce phase | announceBreaks phase =>
    have running := backs.running (by simp [phase])
    refine ⟨⟨show 0 < x.threads by omega,trivial⟩,?_,rfl⟩
    exact backs.enter (by simp [phase]) (by simp) (by simp)
  | conclude phase =>
    have running := backs.running (by simp [phase])
    refine ⟨⟨show 0 < x.threads by omega,trivial⟩,?_,rfl⟩
    refine ⟨backs.device,backs.mappings,?_,backs.format,fun _ wrong => nomatch wrong⟩
    exact (by omega : x.threads - 1 = 0)
  | stay phase => exact ⟨trivial,backs,rfl⟩
  | allQueued phase | halt phase | goOn phase | unknown phase =>
    exact ⟨trivial,backs.enter (by simp [phase]) (by simp) (by simp),rfl⟩
  | queue phase | queueFails phase | streamOn phase | streamOnFails phase | ready phase | timeout phase
  | interrupted phase | waitFails phase | retry phase | dequeueFails phase | giveBack phase
  | giveBackLast phase | giveBackFails phase | streamOff phase =>
    exact ⟨⟨backs.device,trivial⟩,backs.enter (by simp [phase]) (by simp) (by simp),rfl⟩

/-! ### Steps of the thread -/

namespace Thread

theorem step_leads {x : Ledger} {t : Thread} (backs : x.Backs t) (stop : Bool) :
    Leads world x (t.step world sink stop) fun t' x' =>
      x'.Backs t' ∧ SameSession t t' ∧ x'.devices = x.devices := by
  intro s
  refine yields_mono ?_ (step_move world sink stop t s)
  rintro t' h ⟨o,rfl,move⟩
  obtain ⟨orderly,backs',devices⟩ := move.backs backs
  exact ⟨orderly,backs',move.sameSession,devices⟩

theorem steps_leads {x : Ledger} {t : Thread} (backs : x.Backs t) (stop : Bool) (count : Nat) :
    Leads world x (t.steps world sink stop count) fun t' x' =>
      x'.Backs t' ∧ SameSession t t' ∧ x'.devices = x.devices := by
  induction count generalizing x t with
  | zero => exact leads_pure ⟨backs,.refl t,rfl⟩
  | succ count ih =>
    refine leads_bind (leads_mono ?_ (step_leads backs stop))
    rintro t' x' ⟨backs',same,devices⟩
    refine leads_mono ?_ (ih backs')
    rintro t'' x'' ⟨backs'',same',devices'⟩
    exact ⟨backs'',same.trans same',devices'.trans devices⟩

/-- A thread that is told to stop ends, and leaves the device open and the buffers mapped. -/
theorem finish_leads {x : Ledger} {t : Thread} (backs : x.Backs t) :
    Leads world x (t.finish world sink) fun t' x' =>
      t'.phase = .ended ∧ x'.threads = 0 ∧ x'.devices = x.devices ∧ x'.mappings = x.mappings := by
  intro s
  -- The steps keep the ledger in order; that they are enough to end the thread is `finish_ended`.
  obtain ⟨orderly,backs',⟨-,pool,-,-⟩,devices⟩ := steps_leads backs true t.distance s
  have ended := finish_ended world sink t s
  refine ⟨orderly,ended,?_,devices,?_⟩
  · exact backs'.threads.trans (if_pos ended)
  · exact backs'.mappings.trans ((congrArg BufferPool.mappings pool).trans backs.mappings.symm)

end Thread

/-! ### Mapping and unmapping -/

namespace BufferPool

theorem Unmapped.orderly {device : Handle} {places : List BufferPlace} {h : History} {x : Ledger}
    (unmapped : Unmapped device places h) (isOpen : device ∈ x.devices) (noThread : x.threads = 0)
    (mappings : x.mappings = places.map (⟨device,·⟩)) :
    Orderly world x h ∧ x.afterAll h = { x with mappings := [] } := by
  induction unmapped generalizing x with
  | none =>
    rw [← show x.mappings = [] from mappings]
    exact ⟨trivial,rfl⟩
  | @next place places answer h rest ih =>
    have fits : InOrder world x (.asked device (.unmapBuffer place.index place.length) answer) :=
      ⟨isOpen,noThread,⟨device,place⟩,by simp [mappings],rfl⟩
    have left : x.after (.asked device (.unmapBuffer place.index place.length) answer) =
        { x with mappings := places.map (⟨device,·⟩) } := by
      simp [after,mappings,Mapping.region]
    obtain ⟨orderly,nothing⟩ := ih (x := { x with mappings := places.map (⟨device,·⟩) }) isOpen noThread rfl
    rw [← left] at orderly nothing
    exact ⟨⟨fits,orderly⟩,nothing.trans (by rw [left])⟩

theorem unmap_leads {pool : BufferPool} {x : Ledger} (allMapped : ∀ slot ∈ pool.slots, slot.isMapped = true)
    (isOpen : pool.device ∈ x.devices) (noThread : x.threads = 0) (mappings : x.mappings = pool.mappings) :
    Leads world x (pool.unmap world) fun _ x' => x' = { x with mappings := [] } := by
  intro s
  refine yields_mono ?_ (unmap_unmapped world pool s)
  intro _ h unmapped
  rw [places_of_allMapped allMapped] at unmapped
  exact unmapped.orderly isOpen noThread (mappings.trans (by simp [BufferPool.mappings]))

/-- After mapping, the ledger lists the pool's buffers; if mapping failed, it lists none. -/
def MappedOrNot (device : Handle) (x : Ledger) : Except EngineError BufferPool → Ledger → Prop
  | .ok pool, x' => x' = { x with mappings := pool.mappings } ∧ pool.device = device ∧
      ∀ slot ∈ pool.slots, slot.isMapped = true
  | .error _, x' => x' = { x with mappings := [] }

theorem MappedMore.orderly {device : Handle} {slots : List Slot} {count : Nat} {h : History}
    {result : Except EngineError BufferPool} {x : Ledger} (mapped : MappedMore device slots count h result)
    (allMapped : ∀ slot ∈ slots, slot.isMapped = true) (isOpen : device ∈ x.devices) (noThread : x.threads = 0)
    (mappings : x.mappings = slots.map fun slot => ⟨device,slot.info⟩) :
    Orderly world x h ∧ MappedOrNot device x result (x.afterAll h) := by
  induction mapped generalizing x with
  | @all slots => exact ⟨trivial,by rw [BufferPool.mappings,← mappings]; rfl,rfl,allMapped⟩
  | @next slots count place h result rest ih =>
    have allMapped' : ∀ slot ∈ slots ++ [⟨place,true⟩], slot.isMapped = true :=
      List.forall_mem_append.mpr ⟨allMapped,List.forall_mem_singleton.mpr rfl⟩
    obtain ⟨orderly,mapped⟩ := ih (x := { x with mappings := x.mappings ++ [⟨device,place⟩] }) allMapped' isOpen
      noThread (by simp [mappings])
    refine ⟨⟨isOpen,⟨isOpen,noThread⟩,orderly⟩,?_⟩
    cases result <;> exact mapped
  | @notLocated slots count fault h undone =>
    rw [places_of_allMapped allMapped] at undone
    obtain ⟨orderly,nothing⟩ := undone.orderly isOpen noThread (mappings.trans (by simp))
    exact ⟨⟨isOpen,orderly⟩,nothing⟩
  | @notMapped slots count place fault h undone =>
    rw [places_of_allMapped allMapped] at undone
    obtain ⟨orderly,nothing⟩ := undone.orderly isOpen noThread (mappings.trans (by simp))
    exact ⟨⟨isOpen,⟨isOpen,noThread⟩,orderly⟩,nothing⟩

theorem map_leads {device : Handle} {x : Ledger} (isOpen : device ∈ x.devices) (noThread : x.threads = 0)
    (noMapping : x.mappings = []) : Leads world x (map world device) (MappedOrNot device x) := by
  have nothing (error : EngineError) : MappedOrNot device x (.error error) x := by
    rw [MappedOrNot,← noMapping]
  intro s
  refine yields_mono ?_ (map_mapped world device s)
  intro result h mapped
  cases mapped with
  | notGranted => exact ⟨⟨isOpen,trivial⟩,nothing _⟩
  | tooFew few => exact ⟨⟨isOpen,trivial⟩,nothing _⟩
  | granted enough more =>
    obtain ⟨orderly,mapped⟩ := more.orderly (by simp) isOpen noThread noMapping
    exact ⟨⟨isOpen,orderly⟩,mapped⟩

end BufferPool

/-! ### The end of a session -/

namespace Ledger

theorem owns_none {x : Ledger} {probe : Option Handle} (devices : x.devices = probe.toList)
    (kind : ∀ device ∈ probe, device.isSession = false) (noMapping : x.mappings = []) (noThread : x.threads = 0) :
    x.Owns .none probe where
  devices := by simpa [Session.none] using devices
  probeKind := kind
  sessionKind := by simp [Session.none]
  mappings := by simpa [Session.none] using noMapping
  pool := by simp [Session.none]
  thread := by simp [Session.none]
  noThread := fun _ => noThread

theorem Owns.sessionDevices {x : Ledger} {session : Session} {probe : Option Handle}
    (owns : x.Owns session probe) : x.devices.filter Handle.isSession = session.device.toList := by
  rw [owns.devices,List.filter_append]
  have probes : probe.toList.filter Handle.isSession = [] := by
    rw [List.filter_eq_nil_iff]
    intro device member
    simp [owns.probeKind device (Option.mem_toList.mp member)]
  have sessions : session.device.toList.filter Handle.isSession = session.device.toList := by
    rw [List.filter_eq_self]
    intro device member
    exact owns.sessionKind device (Option.mem_toList.mp member)
  rw [probes,sessions,List.nil_append]

theorem Owns.session_ne_probe {x : Ledger} {session : Session} {device : Handle} {probe : Option Handle}
    (owns : x.Owns session probe) (held : session.device = some device) : device ∉ probe.toList := by
  intro member
  have isProbe := owns.probeKind device (Option.mem_toList.mp member)
  rw [owns.sessionKind device held] at isProbe
  cases isProbe

end Ledger

namespace Source

theorem endThread_leads {x : Ledger} {session : Session} {probe : Option Handle}
    (owns : x.Owns session probe) :
    Leads world x (endThread world sink session.thread) fun thread x' =>
      holdsOn thread = false ∧ x'.threads = 0 ∧ x'.devices = x.devices ∧ x'.mappings = x.mappings := by
  cases thread : session.thread with
  | none => exact leads_pure ⟨rfl,owns.noThread thread,rfl,rfl⟩
  | some t =>
    refine leads_bind (leads_mono ?_ (Thread.finish_leads (owns.thread t thread).2.2))
    rintro t' x' ⟨ended,noThread,devices,mappings⟩
    exact leads_pure ⟨by simp [holdsOn,Thread.isEnded,ended],noThread,devices,mappings⟩

theorem releasePool_leads {x : Ledger} {pool : Option BufferPool} (noThread : x.threads = 0)
    (held : ∀ p ∈ pool, p.device ∈ x.devices ∧ ∀ slot ∈ p.slots, slot.isMapped = true)
    (mappings : x.mappings = (pool.map BufferPool.mappings).getD []) :
    Leads world x (releasePool world false pool) fun _ x' => x' = { x with mappings := [] } := by
  cases pool with
  | none => exact leads_pure (by rw [← show x.mappings = [] from mappings])
  | some p =>
    obtain ⟨isOpen,allMapped⟩ := held p rfl
    exact leads_bind (leads_mono (fun _ _ same => leads_pure same)
      (BufferPool.unmap_leads allMapped isOpen noThread mappings))

theorem releaseDevice_leads {x : Ledger} {device probe : Option Handle} (noThread : x.threads = 0)
    (noMapping : x.mappings = []) (devices : x.devices = probe.toList ++ device.toList)
    (other : ∀ d ∈ device, d ∉ probe.toList) :
    Leads world x (releaseDevice world false device) fun _ x' => x' = { x with devices := probe.toList } := by
  cases device with
  | none => exact leads_pure (by rw [← show x.devices = probe.toList by simpa using devices])
  | some d =>
    have fits : InOrder world x (.closed d) := ⟨by simp [devices],by simp [noMapping],fun _ => noThread⟩
    refine leads_close fits (leads_notice_end ?_)
    simp [after,devices,List.erase_append_right _ (other d rfl)]

/-- However a session stands, terminating it leaves nothing of it. -/
theorem terminate_leads (source : Source) {x : Ledger} {probe : Option Handle}
    (owns : x.Owns source.session probe) :
    Leads world x (source.terminate world sink) fun source' x' =>
      source'.session = .none ∧ x'.Owns .none probe := by
  refine leads_bind (leads_mono ?_ (endThread_leads owns))
  rintro thread x₁ ⟨released,noThread,devices,mappings⟩
  rw [released]
  have held : ∀ p ∈ source.session.pool, p.device ∈ x₁.devices ∧ ∀ slot ∈ p.slots, slot.isMapped = true := by
    intro p member
    obtain ⟨device,allMapped⟩ := owns.pool p member
    exact ⟨by simp [devices,owns.devices,device],allMapped⟩
  refine leads_bind (leads_mono ?_ (releasePool_leads noThread held (mappings.trans owns.mappings)))
  rintro _ x₂ rfl
  refine leads_bind (leads_mono ?_ (releaseDevice_leads noThread rfl (devices.trans owns.devices)
    fun d member => owns.session_ne_probe member))
  rintro _ x₃ rfl
  exact leads_pure ⟨rfl,owns_none rfl owns.probeKind rfl noThread⟩

/-! ### The beginning of a session -/

/-- As long as a session has no buffers, the ledger lists its device and nothing else. -/
theorem owns_device {x : Ledger} {session : Session} {device : Handle} (isSession : device.isSession = true)
    (devices : x.devices = [device]) (noMapping : x.mappings = []) (noThread : x.threads = 0)
    (held : session.device = some device) (noPool : session.pool = none) (idle : session.thread = none) :
    x.Owns session none where
  devices := by simp [devices,held]
  probeKind := by simp
  sessionKind := by simp [held,isSession]
  mappings := by simp [noMapping,noPool]
  pool := by simp [noPool]
  thread := by simp [idle]
  noThread := fun _ => noThread

/-- Whether or not a session starts, the ledger says what it holds. -/
theorem openSession_leads {x : Ledger} (config : Configuration) (owns : x.Owns .none none) :
    Leads world x (openSession world config) fun result x' => x'.Owns result.1 none := by
  have noDevice : x.devices = [] := owns.devices
  have noMapping : x.mappings = [] := owns.mappings
  have noThread : x.threads = 0 := owns.noThread rfl
  unfold openSession
  refine leads_notice (leads_open (fun number _ => ⟨by simp [noDevice],noMapping,noThread⟩) (fun number => ?_)
    fun fault => leads_pure owns)
  generalize opened : (⟨config.device,.session,number⟩ : Handle) = device
  have isSession : device.isSession = true := by rw [← opened]; rfl
  have devices : (x.after (.opened device)).devices = [device] := by simp [after,noDevice]
  have isOpen : device ∈ (x.after (.opened device)).devices := by simp [devices]
  refine leads_request (fun _ => isOpen) fun answer => ?_
  cases answer with
  | error fault => exact leads_pure (owns_device isSession devices noMapping noThread rfl rfl rfl)
  | ok format =>
  refine leads_notice (leads_notice ?_)
  cases shape : FrameGeometry.of format with
  | error error => exact leads_pure (owns_device isSession devices noMapping noThread rfl rfl rfl)
  | ok geometry =>
  refine leads_request (fun _ => isOpen) fun answer => ?_
  cases answer with
  | error fault => exact leads_pure (owns_device isSession devices noMapping noThread rfl rfl rfl)
  | ok interval =>
  refine leads_notice (leads_bind (leads_mono ?_ (BufferPool.map_leads isOpen noThread noMapping)))
  intro result x' mapped
  cases result with
  | error error =>
    -- The buffers that were mapped are unmapped again, so the device is all that is left.
    obtain rfl := mapped
    exact leads_pure (owns_device isSession devices rfl noThread rfl rfl rfl)
  | ok pool =>
  obtain ⟨rfl,rfl,allMapped⟩ := mapped
  refine leads_spawn (fun _ => noThread) fun answer => ?_
  cases answer with
  | error fault =>
    refine leads_pure ⟨?_,?_,?_,?_,?_,?_,?_⟩
    · exact devices
    · simp
    · simp [isSession]
    · rfl
    · simpa using allMapped
    · intro t wrong
      cases wrong
    · exact fun _ => noThread
  | ok _ =>
    refine leads_pure ⟨?_,?_,?_,?_,?_,?_,?_⟩
    · exact devices
    · simp
    · simp [isSession]
    · rfl
    · simpa using allMapped
    · rintro t ⟨rfl⟩
      refine ⟨rfl,rfl,isOpen,rfl,?_,⟨format,rfl,shape⟩,by simp [Thread.spawn]⟩
      simp [after,noThread,Thread.spawn]
    · simp

theorem start_leads {source : Source} {x : Ledger} (config : Configuration) (owns : x.Owns .none none) :
    Leads world x (source.start world sink config) fun source' x' => x'.Owns source'.session none := by
  refine leads_bind (leads_mono ?_ (openSession_leads config owns))
  rintro ⟨session,failure⟩ x' owns'
  cases failure with
  | none => exact leads_pure owns'
  | some error =>
    refine leads_notice (leads_mono ?_ (terminate_leads { source with session } owns'))
    rintro source' x'' ⟨ended,owns''⟩
    rw [ended]
    exact owns''

theorem restart_leads {source : Source} {x : Ledger} (config : Configuration) (owns : x.Owns source.session none) :
    Leads world x (source.restart world sink config) fun source' x' => x'.Owns source'.session none := by
  refine leads_bind (leads_mono ?_ (terminate_leads source owns))
  rintro source' x' ⟨ended,owns'⟩
  by_cases noName : config.device = ""
  · simp only [noName,↓reduceIte]
    refine leads_notice (leads_pure ?_)
    rw [ended]
    exact owns'
  · simp only [noName,↓reduceIte]
    exact start_leads config owns'

theorem follow_leads {source : Source} {x : Ledger} (config : Configuration) (owns : x.Owns source.session none) :
    Leads world x (source.follow world sink config) fun source' x' => x'.Owns source'.session none := by
  unfold follow
  cases source.config with
  | none => exact restart_leads config owns
  | some current =>
    cases differences : current.differences config with
    | nil =>
      simp only [differences]
      exact leads_notice (leads_pure owns)
    | cons key keys =>
      simp only [differences]
      exact leads_notice (restart_leads config owns)

theorem stepThread_leads {source : Source} {x : Ledger} {probe : Option Handle}
    (owns : x.Owns source.session probe) :
    Leads world x (source.stepThread world sink) fun source' x' => x'.Owns source'.session probe := by
  unfold stepThread
  cases thread : source.session.thread with
  | none => exact leads_pure owns
  | some t =>
    obtain ⟨pool,device,backs⟩ := owns.thread t thread
    refine leads_bind (leads_mono ?_ (Thread.step_leads backs false))
    rintro t' x' ⟨backs',⟨sameDevice,samePool,-,-⟩,devices⟩
    refine leads_pure ⟨devices.trans owns.devices,owns.probeKind,owns.sessionKind,?_,owns.pool,?_,?_⟩
    · rw [backs'.mappings,samePool,pool]
      rfl
    · rintro _ ⟨rfl⟩
      exact ⟨samePool ▸ pool,by rw [sameDevice,samePool,device],backs'⟩
    · simp

end Source

/-! ### A search for devices meanwhile -/

namespace Ledger

/-- A search opens and closes probes, and the session does not depend on them. -/
theorem Owns.probe {x : Ledger} {session : Session} {probe : Option Handle} (owns : x.Owns session probe)
    (other : Option Handle) (kind : ∀ device ∈ other, device.isSession = false) :
    Owns { x with devices := other.toList ++ session.device.toList } session other where
  devices := rfl
  probeKind := kind
  sessionKind := owns.sessionKind
  mappings := owns.mappings
  pool := owns.pool
  thread := by
    intro t member
    obtain ⟨pool,same,backs⟩ := owns.thread t member
    refine ⟨pool,same,?_,backs.mappings,backs.threads,backs.format,backs.filled⟩
    rw [(owns.pool t.pool pool).1,← same]
    simp
  noThread := owns.noThread

end Ledger

namespace Act

variable {β : Type} {session : Session} {x : Ledger} {post : β → Ledger → Prop}

theorem leads_openProbe {path : String} {next : Except Fault Handle → Act ω β} (owns : x.Owns session none)
    (opens : ∀ device x', x'.Owns session (some device) → Leads world x' (next (.ok device)) post)
    (refuses : ∀ fault, Leads world x (next (.error fault)) post) :
    Leads world x (world.openAt path .probe >>= next) post := by
  refine leads_open (fun number wrong => nomatch wrong) (fun number => ?_) refuses
  refine opens _ _ ?_
  have probing := owns.probe (some ⟨path,.probe,number⟩) (by simp [Handle.isSession])
  simpa [after,owns.devices] using probing

theorem leads_askProbe {device : Handle} {next : Except Fault Capability → Act ω β}
    (owns : x.Owns session (some device)) (each : ∀ answer, Leads world x (next answer) post) :
    Leads world x (world.request device .capability >>= next) post :=
  leads_request (fun _ => by simp [InOrder,owns.devices]) each

theorem leads_closeProbe {device : Handle} {next : Unit → Act ω β} (owns : x.Owns session (some device))
    (rest : ∀ x', x'.Owns session none → Leads world x' (next ()) post) :
    Leads world x (world.closeAt device >>= next) post := by
  have isProbe := owns.probeKind device rfl
  refine leads_close ⟨by simp [owns.devices],?_,by simp [isProbe]⟩ (rest _ ?_)
  · -- The buffers are the session's.
    intro m member same
    rw [owns.mappings] at member
    cases pool : session.pool with
    | none => simp [pool] at member
    | some p =>
      have session_ne := owns.session_ne_probe (owns.pool p pool).1
      simp only [pool,Option.map_some,Option.getD_some,BufferPool.mappings,List.mem_map] at member
      obtain ⟨slot,-,rfl⟩ := member
      exact session_ne (by simpa using same)
  · simpa [after,owns.devices] using owns.probe none (by simp)

theorem leads_judge (path : String) (answer : Except Fault Capability) :
    Leads world x (World.probe.judge path answer) fun _ x' => x' = x := by
  cases answer with
  | ok capability =>
    rw [World.probe.judge]
    split <;> exact leads_notice (leads_pure rfl)
  | error fault => exact leads_notice (leads_pure rfl)

end Act

theorem World.probe_leads {session : Session} {x : Ledger} (path : String) (owns : x.Owns session none) :
    Leads world x (world.probe path) fun _ x' => x'.Owns session none := by
  refine leads_openProbe owns ?_ fun fault => leads_notice (leads_pure owns)
  intro device x₁ probing
  refine leads_askProbe probing fun answer => leads_bind (leads_mono ?_ (leads_judge path answer))
  rintro choice _ rfl
  exact leads_closeProbe probing fun x₂ owns₂ => leads_pure owns₂

theorem World.probeAll_leads {session : Session} {x : Ledger} (paths : List String) (owns : x.Owns session none) :
    Leads world x (world.probeAll paths) fun _ x' => x'.Owns session none := by
  induction paths generalizing x with
  | nil => exact leads_pure owns
  | cons path paths ih =>
    refine leads_bind (leads_mono ?_ (World.probe_leads path owns))
    intro found x₁ owns₁
    exact leads_bind (leads_mono (fun _ _ owns₂ => leads_pure owns₂) (ih owns₁))

namespace Search

theorem step_leads {session : Session} {x : Ledger} {search : Search} (owns : x.Owns session search.held?) :
    Leads world x (search.step world) fun search' x' => x'.Owns session search'.held? := by
  cases search with
  | listing =>
    refine leads_list fun answer => ?_
    cases answer with
    | error fault => exact leads_notice (leads_pure owns)
    | ok paths => exact leads_pure owns
  | opening paths found =>
    cases paths with
    | nil => exact leads_pure owns
    | cons path paths =>
      exact leads_openProbe owns (fun device x' probing => leads_pure probing)
        fun fault => leads_notice (leads_pure owns)
  | asking path device paths found =>
    refine leads_askProbe owns fun answer => leads_bind (leads_mono ?_ (leads_judge path answer))
    rintro choice _ rfl
    exact leads_pure owns
  | closing device paths found => exact leads_closeProbe owns fun x' owns' => leads_pure owns'

theorem rest_leads {session : Session} {x : Ledger} {search : Search} (owns : x.Owns session search.held?) :
    Leads world x (search.rest world) fun _ x' => x'.Owns session none := by
  have others {x' : Ledger} (paths : List String) (found : List (Choice String)) (owns' : x'.Owns session none) :
      Leads world x' (do return found ++ (← world.probeAll paths)) fun _ x'' => x''.Owns session none :=
    leads_bind (leads_mono (fun _ _ owns'' => leads_pure owns'') (World.probeAll_leads paths owns'))
  cases search with
  | listing =>
    refine leads_list fun answer => ?_
    cases answer with
    | error fault => exact leads_notice (leads_pure owns)
    | ok paths => exact World.probeAll_leads paths owns
  | opening paths found => exact others paths found owns
  | asking path device paths found =>
    refine leads_askProbe owns fun answer => leads_bind (leads_mono ?_ (leads_judge path answer))
    rintro choice _ rfl
    exact leads_closeProbe owns fun x' owns' => others paths _ owns'
  | closing device paths found => exact leads_closeProbe owns fun x' owns' => others paths found owns'

end Search

/-! ### Turns -/

theorem World.adopt_leads {x : Ledger} (settings : Settings) (choices : List (Choice String)) :
    Leads world x (World.adopt settings choices) fun _ x' => x' = x := by
  cases choices with
  | nil => exact leads_pure rfl
  | cons first others =>
    rw [World.adopt]
    split
    · exact leads_notice (leads_pure rfl)
    · exact leads_pure rfl

namespace Scene

/-- What the ledger says of a source and of the update that it is busy with. -/
def Owned (x : Ledger) (scene : Scene) : Prop :=
  x.Owns scene.source.session (scene.pending.bind fun (_,search) => search.held?)

theorem conclude_leads {source : Source} {x : Ledger} (settings : Settings) (found : List (Choice String))
    (owns : x.Owns source.session none) :
    Leads world x (conclude world sink source settings found) fun source' x' =>
      x'.Owns source'.session none := by
  refine leads_bind (leads_mono ?_ (World.adopt_leads settings found))
  rintro settings' _ rfl
  exact Source.follow_leads _ owns

theorem settle_leads {scene : Scene} {x : Ledger} (owned : Owned x scene) :
    Leads world x (scene.settle world sink) fun source' x' => x'.Owns source'.session none := by
  obtain ⟨source,pending⟩ := scene
  cases pending with
  | none => exact leads_pure owned
  | some update =>
    refine leads_bind (leads_mono ?_ (Search.rest_leads owned))
    intro found x' owns
    exact conclude_leads update.1 found owns

theorem take_leads {scene : Scene} {x : Ledger} (turn : Turn) (owned : Owned x scene) :
    Leads world x (scene.take world sink turn) fun scene' x' => Owned x' scene' ∧
      (turn = .terminate ∨ turn = .drop → scene'.source.session = .none ∧ scene'.pending = none) := by
  have ending : Leads world x (do
      let source ← scene.settle world sink
      return ⟨← source.terminate world sink,none⟩ : Act ω Scene) fun scene' x' => Owned x' scene' ∧
        scene'.source.session = .none ∧ scene'.pending = none := by
    refine leads_bind (leads_mono ?_ (settle_leads owned))
    intro source x₁ owns
    refine leads_bind (leads_mono ?_ (Source.terminate_leads source owns))
    rintro source' x₂ ⟨ended,owns'⟩
    refine leads_pure ⟨?_,ended,rfl⟩
    rw [Owned,ended]
    exact owns'
  cases turn with
  | update settings =>
    refine leads_bind (leads_mono ?_ (settle_leads owned))
    intro source x₁ owns
    by_cases blank : settings.getText Settings.deviceKey = ""
    · simp only [blank,↓reduceIte]
      exact leads_pure ⟨owns,by simp⟩
    · simp only [blank,↓reduceIte]
      refine leads_bind (leads_mono ?_ (Source.follow_leads _ owns))
      intro source' x₂ owns'
      exact leads_pure ⟨owns',by simp⟩
  | terminate => exact leads_mono (fun _ _ ⟨owned',ended⟩ => ⟨owned',fun _ => ended⟩) ending
  | drop => exact leads_mono (fun _ _ ⟨owned',ended⟩ => ⟨owned',fun _ => ended⟩) ending
  | control =>
    obtain ⟨source,pending⟩ := scene
    cases pending with
    | none => exact leads_pure ⟨owned,by simp⟩
    | some update =>
      obtain ⟨settings,search⟩ := update
      cases outcome : search.outcome? with
      | none =>
        simp only [take,outcome]
        refine leads_bind (leads_mono ?_ (Search.step_leads owned))
        intro search' x' owns
        exact leads_pure ⟨owns,by simp⟩
      | some found =>
        have done : search.held? = none := by
          cases search with
          | opening paths found => rfl
          | _ => simp [Search.outcome?] at outcome
        have owns : x.Owns source.session search.held? := owned
        rw [done] at owns
        simp only [take,outcome]
        refine leads_bind (leads_mono ?_ (conclude_leads settings found owns))
        intro source' x' owns
        exact leads_pure ⟨owns,by simp⟩
  | thread =>
    refine leads_bind (leads_mono ?_ (Source.stepThread_leads owned))
    intro source' x' owns
    exact leads_pure ⟨owns,by simp⟩

theorem takeAll_leads {scene : Scene} {x : Ledger} (turns : List Turn) (owned : Owned x scene) :
    Leads world x (takeAll world sink turns scene) fun scene' x' => Owned x' scene' := by
  induction turns generalizing scene x with
  | nil => exact leads_pure owned
  | cons turn turns ih =>
    refine leads_bind (leads_mono ?_ (take_leads turn owned))
    rintro scene' x' ⟨owned',-⟩
    exact ih owned'

theorem takeAll_append (turns others : List Turn) (scene : Scene) :
    takeAll world sink (turns ++ others) scene =
      (do takeAll world sink others (← takeAll world sink turns scene)) := by
  induction turns generalizing scene with
  | nil => exact (pure_bind ..).symm
  | cons turn turns ih => simp only [List.cons_append,takeAll,ih,bind_assoc]

/-- After a turn that ends the session, nothing is held. -/
theorem ending_leads {scene : Scene} {x : Ledger} (turns : List Turn) {last : Turn}
    (ends : last = .terminate ∨ last = .drop) (owned : Owned x scene) :
    Leads world x (takeAll world sink (turns ++ [last]) scene) fun scene' x' =>
      x'.Owns .none none ∧ scene'.source.session = .none := by
  rw [takeAll_append]
  refine leads_bind (leads_mono ?_ (takeAll_leads turns owned))
  intro scene₁ x₁ owned₁
  refine leads_bind (leads_mono ?_ (take_leads last owned₁))
  rintro scene₂ x₂ ⟨owned₂,ended⟩
  obtain ⟨noSession,done⟩ := ended ends
  rw [Owned,noSession,done] at owned₂
  exact leads_pure ⟨owned₂,noSession⟩

variable (world sink)

/-- From its creation on, whatever devices and the consumer answer, a source treats devices, buffers and threads
    with care in every course of turns. The session device that is open and the buffers that are mapped are those
    that it holds, and its thread works on no others. When the last turn was to terminate or to drop it, no device
    is open, no buffer is mapped and there is no thread, and everything that was opened or mapped has been closed
    or unmapped, one for one. -/
theorem live_careful (settings : Settings) (turns : List Turn) (s : ω) :
    let run := (live world sink settings turns).run s
    let h := observed run.history
    let session := run.value.source.session
    Careful world h ∧
      (ledger h).devices.filter Handle.isSession = session.device.toList ∧
      (ledger h).mappings = (session.pool.map BufferPool.mappings).getD [] ∧
      (∀ t ∈ session.thread, session.device = some t.device ∧ session.pool = some t.pool) ∧
      ∀ earlier last, turns = earlier ++ [last] → last = .terminate ∨ last = .drop →
        session = .none ∧ (ledger h).devices = [] ∧ (ledger h).mappings = [] ∧ (ledger h).threads = 0 ∧
          Settled h := by
  intro run h session
  have fresh : Owned blank ⟨.blank,none⟩ := owns_none rfl (by simp) rfl rfl
  have led : Leads world blank (live world sink settings turns) fun scene x => Owned x scene :=
    takeAll_leads _ fresh
  obtain ⟨orderly,owned⟩ := led s
  refine ⟨orderly.careful,owned.sessionDevices,owned.mappings,?_,?_⟩
  · intro t member
    obtain ⟨pool,device,-⟩ := owned.thread t member
    exact ⟨device ▸ (owned.pool t.pool pool).1,pool⟩
  rintro earlier last rfl ends
  have ended : Leads world blank (live world sink settings (earlier ++ [last])) fun scene x =>
      x.Owns .none none ∧ scene.source.session = .none :=
    ending_leads (.update settings :: earlier) ends fresh
  obtain ⟨-,owns,noSession⟩ := ended s
  have clear : (ledger h).Clear := ⟨owns.sessionDevices,owns.mappings,owns.noThread rfl⟩
  exact ⟨noSession,owns.devices,clear.mappings,clear.threads,clear.settled orderly⟩

/-- While a session streams, its device is open, its two buffers are mapped and its thread is there. -/
example :
    let settings := (Configuration.standard.withDevice "/dev/video0").storeIn default
    let run := (live Simulation.Stage.world Simulation.Stage.consumer settings (.replicate 6 .thread)).run
      Thread.premiere
    let x := ledger (observed run.history)
    (x.devices.length,x.mappings.length,x.threads) = (1,2,1) := by
  decide +kernel

end Scene

end VideoCapture
