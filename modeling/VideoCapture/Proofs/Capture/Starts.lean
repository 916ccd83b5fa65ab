import VideoCapture.Proofs.Capture.Teardown
/-!
# What is seen of a start

A start goes from one step to the next: the device is opened, it agrees to a format and to a frame interval,
buffers are requested, each of them is located and mapped, and then a thread is asked for. `Startup.Move` is a step
that succeeds, `Startup.Fails` one that does not; `Startup.Reached` says how far a start has come and what was
seen of it. Where a step fails, what the start holds by then is given up and nothing else is seen
(`Startup.Undone`). Every start is such a course of steps (`Source.start_attempted`).
-/
namespace VideoCapture
variable {ω : Type} {world : World ω} {sink : Sink ω}

open Act

/-- What a start and its device have agreed to when buffers are mapped. -/
structure Terms where
  device : Handle
  format : AgreedFormat
  geometry : FrameGeometry
  interval : Fraction
  /-- The number of buffers. -/
  granted : UInt32

namespace Terms

/-- The pool of mapped buffers. -/
def pool (terms : Terms) (places : List BufferPlace) : BufferPool := ⟨terms.device,places.map (⟨·,true⟩)⟩

/-- The session that starts with these buffers. -/
def session (terms : Terms) (config : Configuration) (places : List BufferPlace) : Session where
  device := some terms.device
  format := some terms.format
  interval := some terms.interval
  pool := some (terms.pool places)
  thread := some (.spawn terms.device (terms.pool places) terms.geometry
    ⟨config.device,terms.format,terms.geometry.format,terms.interval,(terms.pool places).length⟩)

end Terms

/-- Whether an event is an attempt to open a device for a session. -/
def Event.triesToOpen (path : String) : Event → Prop
  | .opened device => device.path = path ∧ device.purpose = .session
  | .refused path' purpose _ => path' = path ∧ purpose = .session
  | _ => False

/-- How far a start has come, named for the step that comes next. -/
inductive Startup
  | opening
  | agreeing (device : Handle)
  | pacing (device : Handle) (format : AgreedFormat) (geometry : FrameGeometry)
  | requesting (device : Handle) (format : AgreedFormat) (geometry : FrameGeometry) (interval : Fraction)
  | locating (terms : Terms) (places : List BufferPlace)
  | mapping (terms : Terms) (places : List BufferPlace) (place : BufferPlace)

namespace Startup

/-- The device that a start holds. -/
def device? : Startup → Option Handle
  | opening => none
  | agreeing device | pacing device _ _ | requesting device _ _ _ => some device
  | locating terms _ | mapping terms _ _ => some terms.device

/-- The buffers that a start has mapped. -/
def places : Startup → List BufferPlace
  | locating _ places | mapping _ places _ => places
  | _ => []

/-- A step of a start that succeeds. -/
inductive Move (config : Configuration) : Startup → Event → Startup → Prop
  | opens (number : Nat) :
      Move config .opening (.opened ⟨config.device,.session,number⟩) (.agreeing ⟨config.device,.session,number⟩)
  | agrees {device : Handle} {format : AgreedFormat} {geometry : FrameGeometry}
      (described : FrameGeometry.of format = .ok geometry) :
      Move config (.agreeing device)
        (.asked device (.setFormat config.resolution.width config.resolution.height config.format) (.ok format))
        (.pacing device format geometry)
  | paces {device : Handle} {format : AgreedFormat} {geometry : FrameGeometry} (interval : Fraction) :
      Move config (.pacing device format geometry) (.asked device (.setFrameInterval config.interval) (.ok interval))
        (.requesting device format geometry interval)
  | grants {device : Handle} {format : AgreedFormat} {geometry : FrameGeometry} {interval : Fraction}
      {granted : UInt32} (enough : BufferPool.leastCount ≤ granted) :
      Move config (.requesting device format geometry interval)
        (.asked device (.requestBuffers BufferPool.preferredCount) (.ok granted))
        (.locating ⟨device,format,geometry,interval,granted⟩ [])
  | locates {terms : Terms} {places : List BufferPlace} (place : BufferPlace)
      (more : places.length < terms.granted.toNat) :
      Move config (.locating terms places) (.asked terms.device (.queryBuffer (.ofNat places.length)) (.ok place))
        (.mapping terms places place)
  | maps {terms : Terms} {places : List BufferPlace} {place : BufferPlace} :
      Move config (.mapping terms places place) (.asked terms.device (.mapBuffer place) (.ok ()))
        (.locating terms (places ++ [place]))

/-- A step at which a start fails, and why. -/
inductive Fails (config : Configuration) : Startup → Event → EngineError → Prop
  | notOpened (fault : Fault) :
      Fails config .opening (.refused config.device .session fault) (.deviceUnavailable config.device fault)
  | notAgreed {device : Handle} (fault : Fault) :
      Fails config (.agreeing device)
        (.asked device (.setFormat config.resolution.width config.resolution.height config.format) (.error fault))
        (.negotiation .format fault)
  | notDescribed {device : Handle} {format : AgreedFormat} {error : EngineError}
      (strange : FrameGeometry.of format = .error error) :
      Fails config (.agreeing device)
        (.asked device (.setFormat config.resolution.width config.resolution.height config.format) (.ok format))
        error
  | notPaced {device : Handle} {format : AgreedFormat} {geometry : FrameGeometry} (fault : Fault) :
      Fails config (.pacing device format geometry)
        (.asked device (.setFrameInterval config.interval) (.error fault)) (.negotiation .framerate fault)
  | notGranted {device : Handle} {format : AgreedFormat} {geometry : FrameGeometry} {interval : Fraction}
      (fault : Fault) :
      Fails config (.requesting device format geometry interval)
        (.asked device (.requestBuffers BufferPool.preferredCount) (.error fault)) (.requestBuffers fault)
  | tooFew {device : Handle} {format : AgreedFormat} {geometry : FrameGeometry} {interval : Fraction}
      {granted : UInt32} (few : granted < BufferPool.leastCount) :
      Fails config (.requesting device format geometry interval)
        (.asked device (.requestBuffers BufferPool.preferredCount) (.ok granted)) (.tooFewBuffers granted)
  | notLocated {terms : Terms} {places : List BufferPlace} (fault : Fault)
      (more : places.length < terms.granted.toNat) :
      Fails config (.locating terms places)
        (.asked terms.device (.queryBuffer (.ofNat places.length)) (.error fault))
        (.mapping (.ofNat places.length) fault)
  | notMapped {terms : Terms} {places : List BufferPlace} {place : BufferPlace} (fault : Fault) :
      Fails config (.mapping terms places place) (.asked terms.device (.mapBuffer place) (.error fault))
        (.mapping (.ofNat places.length) fault)
  | noThread {terms : Terms} {places : List BufferPlace} (fault : Fault)
      (all : places.length = terms.granted.toNat) :
      Fails config (.locating terms places) (.spawned (.error fault)) (.thread fault)

/-- How far a start has come by what was seen of it. -/
inductive Reached (config : Configuration) : History → Startup → Prop
  | start : Reached config [] .opening
  | step {h : History} {e : Event} {x y : Startup} (before : Reached config h x) (move : Move config x e y) :
      Reached config (h ++ [e]) y

/-- What is seen when a start is undone: every buffer that it mapped is unmapped, and the device is closed. -/
def Undone (x : Startup) (h : History) : Prop :=
  match x.device? with
  | some device => ∃ unmapping, BufferPool.Unmapped device x.places unmapping ∧ h = unmapping ++ [.closed device]
  | none => h = []

/-- There is nothing to undo, or there is a device with the buffers mapped. -/
theorem Undone.course {x : Startup} {h : History} (undone : x.Undone h) :
    h = [] ∨ ∃ device unmapping, BufferPool.Unmapped device x.places unmapping ∧ h = unmapping ++ [.closed device] := by
  unfold Undone at undone
  cases held : x.device? with
  | none =>
    simp only [held] at undone
    exact .inl undone
  | some device =>
    simp only [held] at undone
    obtain ⟨unmapping,unmapped,rfl⟩ := undone
    exact .inr ⟨device,unmapping,unmapped,rfl⟩

/-- What is seen of a start, and the session that comes of it. -/
inductive Attempted (config : Configuration) : History → Session → Prop
  | failed {before after : History} {x : Startup} {e : Event} {error : EngineError} (reached : Reached config before x)
      (fails : Fails config x e error) (undone : x.Undone after) : Attempted config (before ++ e :: after) .none
  | running {before : History} {terms : Terms} {places : List BufferPlace}
      (reached : Reached config before (.locating terms places)) (all : places.length = terms.granted.toNat) :
      Attempted config (before ++ [.spawned (.ok ())]) (terms.session config places)

theorem Reached.begins {config : Configuration} {h : History} {x : Startup} (reached : Reached config h x) :
    h = [] ∧ x = .opening ∨ ∃ e rest, h = e :: rest ∧ e.triesToOpen config.device := by
  induction reached with
  | start => exact .inl ⟨rfl,rfl⟩
  | step before move ih =>
    obtain ⟨rfl,rfl⟩ | ⟨e,rest,rfl,tries⟩ := ih
    · cases move with
      | opens number => exact .inr ⟨_,[],rfl,rfl,rfl⟩
    · exact .inr ⟨e,_,rfl,tries⟩

/-- A start begins by opening its device. -/
theorem Attempted.begins {config : Configuration} {h : History} {session : Session}
    (attempted : Attempted config h session) : ∃ e rest, h = e :: rest ∧ e.triesToOpen config.device := by
  cases attempted with
  | failed reached fails undone =>
    obtain ⟨rfl,rfl⟩ | ⟨e,rest,rfl,tries⟩ := reached.begins
    · cases fails with
      | notOpened fault => exact ⟨_,_,rfl,rfl,rfl⟩
    · exact ⟨e,_,rfl,tries⟩
  | running reached all =>
    obtain ⟨rfl,⟨⟩⟩ | ⟨e,rest,rfl,tries⟩ := reached.begins
    exact ⟨e,_,rfl,tries⟩

end Startup

open Startup

/-! ### Mapping -/

namespace BufferPool

/-- What was seen of a start that fails and holds a device, up to unmapping what it mapped. -/
def Stuck (config : Configuration) (device : Handle) (error : EngineError) (h : History) : Prop :=
  ∃ before x e unmapping, Reached config before x ∧ x.Fails config e error ∧ x.device? = some device ∧
    Unmapped device x.places unmapping ∧ h = before ++ e :: unmapping

/-- What was seen of a start when its buffers are mapped, or not. -/
def MappedOrStuck (config : Configuration) (terms : Terms) : Except EngineError BufferPool → History → Prop
  | .ok pool, h => ∃ places, Reached config h (.locating terms places) ∧ places.length = terms.granted.toNat ∧
      pool = terms.pool places
  | .error error, h => Stuck config terms.device error h

theorem Stuck.of_empty {config : Configuration} {device : Handle} {error : EngineError} {before : History} {x : Startup}
    {e : Event} (reached : Reached config before x) (fails : x.Fails config e error)
    (holds : x.device? = some device) (nothing : x.places = []) : Stuck config device error (before ++ [e]) :=
  ⟨before,x,e,[],reached,fails,holds,nothing ▸ .none,rfl⟩

theorem places_pool (terms : Terms) (taken : List BufferPlace) : places (terms.pool taken).slots = taken :=
  places_allMapped taken

theorem MappedMore.reached {config : Configuration} {terms : Terms} {slots : List Slot} {taken : List BufferPlace}
    {before h : History} {count : Nat} {result : Except EngineError BufferPool}
    (mapped : MappedMore terms.device slots count h result) (same : slots = (terms.pool taken).slots)
    (reached : Reached config before (.locating terms taken)) (left : taken.length + count = terms.granted.toNat) :
    MappedOrStuck config terms result (before ++ h) := by
  have length (taken : List BufferPlace) : (terms.pool taken).slots.length = taken.length := List.length_map _
  induction mapped generalizing taken before with
  | all =>
    subst same
    rw [List.append_nil]
    exact ⟨taken,reached,left,rfl⟩
  | @next slots count place h result rest ih =>
    subst same
    have located := reached.step (.locates place (by omega))
    rw [length]
    simpa using ih (by simp [Terms.pool]) (located.step .maps) (by simp; omega)
  | @notLocated slots count fault h undone =>
    subst same
    rw [places_pool] at undone
    rw [length]
    exact ⟨before,_,_,h,reached,.notLocated fault (by omega),rfl,undone,rfl⟩
  | @notMapped slots count place fault h undone =>
    subst same
    rw [places_pool] at undone
    rw [length]
    have located := reached.step (.locates place (by omega))
    exact ⟨_,_,_,h,located,.notMapped fault,rfl,undone,by simp⟩

theorem Mapped.reached {config : Configuration} {device : Handle} {format : AgreedFormat} {geometry : FrameGeometry}
    {interval : Fraction} {before h : History} {result : Except EngineError BufferPool}
    (mapped : Mapped device h result) (reached : Reached config before (.requesting device format geometry interval)) :
    ∃ granted, MappedOrStuck config ⟨device,format,geometry,interval,granted⟩ result (before ++ h) := by
  cases mapped with
  | @notGranted fault => exact ⟨default,Stuck.of_empty reached (.notGranted fault) rfl rfl⟩
  | @tooFew granted few => exact ⟨granted,Stuck.of_empty reached (.tooFew few) rfl rfl⟩
  | @granted granted h _ enough more =>
    have started := more.reached rfl (reached.step (.grants enough)) (Nat.zero_add _)
    refine ⟨granted,?_⟩
    simpa using started

end BufferPool

/-! ### The session -/

namespace Source
variable (world) (sink)

/-- What is seen of building a session, and what it comes to. A session that does not start is left to be torn
    down. -/
inductive Built (config : Configuration) : History → Session × Option EngineError → Prop
  | stuck {before h : History} {x : Startup} {e : Event} {error : EngineError} {session : Session}
      (reached : Reached config before x) (fails : x.Fails config e error)
      (left : ∀ closing, session.TornDown world closing → x.Undone (h ++ closing)) :
      Built config (before ++ e :: h) (session,some error)
  | running {before : History} {terms : Terms} {places : List BufferPlace}
      (reached : Reached config before (.locating terms places)) (all : places.length = terms.granted.toNat) :
      Built config (before ++ [.spawned (.ok ())]) (terms.session config places,none)

variable {world} {config : Configuration}

/-- Of a session without buffers and without a thread, only the device is given up. -/
theorem tornDown_device {session : Session} {closing : History} (noPool : session.pool = none)
    (noThread : session.thread = none) (ended : session.TornDown world closing) :
    closing = session.device.toList.map .closed := by
  obtain ⟨joining,unmapping,joined,released,rfl⟩ := ended
  simp only [Session.Joined,noThread] at joined
  simp only [Session.Released,noPool] at released
  rw [joined,released]
  rfl

theorem undone_of_closed {x : Startup} {device : Handle} {session : Session} {unmapping closing : History}
    (holds : x.device? = some device) (unmapped : BufferPool.Unmapped device x.places unmapping)
    (held : session.device = some device) (noPool : session.pool = none) (noThread : session.thread = none)
    (ended : session.TornDown world closing) : x.Undone (unmapping ++ closing) := by
  rw [tornDown_device noPool noThread ended,held]
  simp only [Undone,holds]
  exact ⟨unmapping,unmapped,rfl⟩

/-- A start that holds a device and no buffers leaves the device to be closed. -/
theorem Built.of_empty {x : Startup} {before : History} {e : Event} {error : EngineError} {device : Handle}
    {session : Session} (reached : Reached config before x) (fails : x.Fails config e error)
    (holds : x.device? = some device) (nothing : x.places = []) (held : session.device = some device)
    (noPool : session.pool = none) (noThread : session.thread = none) :
    Built world config (before ++ [e]) (session,some error) := by
  refine .stuck (h := []) reached fails fun closing ended => ?_
  exact undone_of_closed holds (nothing ▸ .none) held noPool noThread ended

variable (world)

theorem undone_of_mapped (config : Configuration) (terms : Terms) (places : List BufferPlace) (closing : History)
    (ended : Session.TornDown world { terms.session config places with thread := none } closing) :
    (Startup.locating terms places).Undone closing := by
  obtain ⟨joining,unmapping,rfl,released,rfl⟩ := ended
  simp only [Session.Released,Terms.session,BufferPool.places_pool] at released
  exact ⟨unmapping,released,rfl⟩

theorem openSession_built (config : Configuration) (s : ω) :
    (openSession world config).Yields s fun result h => Built world config h result := by
  unfold openSession
  refine yields_notice (yields_open (fun number s' => ?_) fun fault s' => ?_)
  rotate_left
  · -- Where nothing is opened, the session is empty, and there is nothing to tear down.
    refine yields_pure (.stuck (h := []) .start (.notOpened fault) fun closing ended => ?_)
    exact tornDown_device rfl rfl ended
  have opened : Reached config [_] _ := .step .start (.opens number)
  generalize (⟨config.device,.session,number⟩ : Handle) = device at opened
  refine yields_request fun answer s' => ?_
  cases answer with
  | error fault => exact yields_pure (.of_empty opened (.notAgreed fault) rfl rfl rfl rfl rfl)
  | ok format =>
  refine yields_notice (yields_notice ?_)
  cases shape : FrameGeometry.of format with
  | error error => exact yields_pure (.of_empty opened (.notDescribed shape) rfl rfl rfl rfl rfl)
  | ok geometry =>
  have agreed := opened.step (.agrees shape)
  refine yields_request fun answer s' => ?_
  cases answer with
  | error fault => exact yields_pure (.of_empty agreed (.notPaced fault) rfl rfl rfl rfl rfl)
  | ok interval =>
  have paced := agreed.step (.paces interval)
  refine yields_notice (yields_then (BufferPool.map_mapped world device s') fun result h s' seen => ?_)
  obtain ⟨granted,mapped⟩ := seen.reached paced
  cases result with
  | error error =>
    -- The pool is undone already when mapping returns, so that only the device is left to the teardown.
    obtain ⟨before,x,e,unmapping,reached,fails,holds,unmapped,whole⟩ := mapped
    refine yields_pure ?_
    rw [List.append_nil,show _ :: _ :: _ :: h = before ++ e :: unmapping from whole]
    exact .stuck reached fails fun closing => undone_of_closed holds unmapped rfl rfl rfl
  | ok pool =>
  obtain ⟨places,reached,all,rfl⟩ := mapped
  refine yields_spawn fun answer s' => ?_
  cases answer with
  | error fault =>
    have left := undone_of_mapped world config ⟨device,format,geometry,interval,granted⟩ places
    exact yields_pure (.stuck (h := []) reached (.noThread fault all) left)
  | ok _ =>
    have running : Built world config _ _ := .running reached all
    exact yields_pure running

/-- A start succeeds, or it fails at a step and leaves nothing. -/
theorem start_attempted (source : Source) (config : Configuration) (s : ω) :
    (source.start world sink config).Yields s fun source' h =>
      source'.config = source.config ∧ Attempted config h source'.session := by
  refine yields_then (openSession_built world config s) fun result h s' built => ?_
  cases built with
  | running reached all =>
    refine yields_pure ⟨rfl,?_⟩
    rw [List.append_nil]
    exact .running reached all
  | @stuck before h x e error session reached fails left =>
    refine yields_notice (yields_mono ?_ (terminate_tornDown world sink { source with session } s'))
    rintro source' closing ⟨rfl,ended⟩
    refine ⟨rfl,?_⟩
    rw [List.append_assoc,List.cons_append]
    exact .failed reached fails (left closing ended)

end Source
end VideoCapture
