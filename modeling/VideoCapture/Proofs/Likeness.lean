import VideoCapture.Proofs.Acts
/-!
# States that cannot be told apart

Two states of a world and its consumer can be alike to whoever opens one device at a time: every call gets the
same answer in both, but for the number that an open device is known by. A `Likeness` is such a relation, kept by
every call; states that one relates are `Indistinct`. `Likeness.Twins` says of two acts that they do the same from
states alike, and each call has a rule for it.
-/
namespace VideoCapture

/-- A handle without the number of the device. -/
def Handle.unnumbered (device : Handle) : Handle := { device with number := 0 }

/-- An event without the number of the device. -/
def Event.unnumbered : Event → Event
  | .opened device => .opened device.unnumbered
  | .asked device request answer => .asked device.unnumbered request answer
  | .closed device => .closed device.unnumbered
  | e => e

/-- A history without the numbers of the devices. -/
def unnumbered (h : History) : History := h.map Event.unnumbered

theorem unnumbered_append (h k : History) : unnumbered (h ++ k) = unnumbered h ++ unnumbered k := List.map_append

/-- A device that is open for a session in two states, with its number in either. -/
structure Twin where
  path : String
  here : Nat
  there : Nat

/-- The device in the one state. -/
def Twin.one (p : Twin) : Handle := ⟨p.path,.session,p.here⟩

/-- The device in the other state. -/
def Twin.other (p : Twin) : Handle := ⟨p.path,.session,p.there⟩

variable {ω α : Type}

/-- The same answer twice, and states after it that are alike. -/
def Agree (alike : ω → ω → Prop) (one other : α × ω) : Prop := one.1 = other.1 ∧ alike one.2 other.2

/-- A relation between states in which all calls are answered alike. It depends on the device that is open. -/
structure Likeness (world : World ω) (sink : Sink ω) where
  alike : Option Twin → ω → ω → Prop
  opens {s s' : ω} (same : alike none s s') (path : String) :
    (∃ here there t t', world.openDevice path .session s = (.ok here,t) ∧
      world.openDevice path .session s' = (.ok there,t') ∧ alike (some ⟨path,here,there⟩) t t') ∨
    ∃ fault t t', world.openDevice path .session s = (.error fault,t) ∧
      world.openDevice path .session s' = (.error fault,t') ∧ alike none t t'
  asks {p : Twin} {s s' : ω} (same : alike (some p) s s') (r : Request) :
    Agree (alike (some p)) (world.ask p.one r s) (world.ask p.other r s')
  octets {p : Twin} {s s' : ω} (same : alike (some p) s s') (place : BufferPlace) (j : Nat) :
    world.octet p.one place j s = world.octet p.other place j s'
  closes {p : Twin} {s s' : ω} (same : alike (some p) s s') : alike none (world.close p.one s) (world.close p.other s')
  spawns {p : Twin} {s s' : ω} (same : alike (some p) s s') :
    Agree (alike (some p)) (world.startThread s) (world.startThread s')
  starts {p : Twin} {s s' : ω} (same : alike (some p) s s') (info : SessionStart) :
    Agree (alike (some p)) (sink.started info s) (sink.started info s')
  delivers {p : Twin} {s s' : ω} (same : alike (some p) s s') (frame : Frame) :
    Agree (alike (some p)) (sink.frame frame s) (sink.frame frame s')
  stops {p : Twin} {s s' : ω} (same : alike (some p) s s') (frames : Nat) :
    Agree (alike (some p)) (sink.stopped frames s) (sink.stopped frames s')

/-- States that no session can tell apart while no device is open. -/
def Indistinct (world : World ω) (sink : Sink ω) (s s' : ω) : Prop := ∃ l : Likeness world sink, l.alike none s s'

namespace Likeness

variable {world : World ω} {sink : Sink ω} (l : Likeness world sink) {β : Type} {p : Option Twin} {q : Twin}
  {next next' : α → Act ω β} {post : Option Twin → β → β → Prop}

/-- What two acts do from states alike: they bring about the same, but for the number of the device, and come to
    states alike and to results that belong together. -/
def Twins (p : Option Twin) (act act' : Act ω α) (post : Option Twin → α → α → Prop) : Prop :=
  ∀ s s', l.alike p s s' → unnumbered (act.run s).history = unnumbered (act'.run s').history ∧
    ∃ p', l.alike p' (act.run s).state (act'.run s').state ∧ post p' (act.run s).value (act'.run s').value

variable {l}

theorem twins_pure {x x' : β} (holds : post p x x') : l.Twins p (pure x) (pure x') post :=
  fun _ _ same => ⟨rfl,p,same,holds⟩

theorem twins_bind {act act' : Act ω α} {known : Option Twin → α → α → Prop} (first : l.Twins p act act' known)
    (each : ∀ p' x x', known p' x x' → l.Twins p' (next x) (next' x') post) :
    l.Twins p (act >>= next) (act' >>= next') post := by
  intro s s' same
  obtain ⟨seen,p',same',holds⟩ := first s s' same
  obtain ⟨later,p'',same'',holds'⟩ := each p' _ _ holds _ _ same'
  refine ⟨?_,p'',same'',holds'⟩
  rw [Course.history_bind,Course.history_bind,unnumbered_append,unnumbered_append,seen,later]

theorem twins_mono {act act' : Act ω β} {known : Option Twin → β → β → Prop}
    (weaker : ∀ p' x x', known p' x x' → post p' x x') (holds : l.Twins p act act' known) :
    l.Twins p act act' post := by
  intro s s' same
  obtain ⟨seen,p',same',known⟩ := holds s s' same
  exact ⟨seen,p',same',weaker _ _ _ known⟩

/-- One call, and what comes after it. -/
theorem twins_call {act act' : Act ω α} {next next' : α → Act ω β} {pre : Option Twin}
    (call : ∀ s s', l.alike pre s s' → unnumbered (act.run s).history = unnumbered (act'.run s').history ∧
      (act.run s).value = (act'.run s').value ∧ l.alike p (act.run s).state (act'.run s').state)
    (each : ∀ x, l.Twins p (next x) (next' x) post) : l.Twins pre (act >>= next) (act' >>= next') post := by
  have first : l.Twins pre act act' fun p' x x' => p' = p ∧ x = x' := by
    intro s s' same
    obtain ⟨seen,value,same'⟩ := call s s' same
    exact ⟨seen,p,same',rfl,value⟩
  refine twins_bind first ?_
  rintro _ x _ ⟨rfl,rfl⟩
  exact each x

theorem twins_notice {notice : Notice} {next next' : Unit → Act ω β} (rest : l.Twins p (next ()) (next' ()) post) :
    l.Twins p (Act.notice notice >>= next) (Act.notice notice >>= next') post :=
  twins_call (fun _ _ same => ⟨rfl,rfl,same⟩) fun _ => rest

theorem twins_look {f f' : ω → α} (looks : ∀ s s', l.alike p s s' → f s = f' s')
    (each : ∀ x, l.Twins p (next x) (next' x) post) :
    l.Twins p (Course.look f >>= next) (Course.look f' >>= next') post :=
  twins_call (fun s s' same => ⟨rfl,looks s s' same,same⟩) each

theorem twins_request {r : Request} {next next' : Except Fault r.Reply → Act ω β}
    (each : ∀ answer, l.Twins (some q) (next answer) (next' answer) post) :
    l.Twins (some q) (world.request q.one r >>= next) (world.request q.other r >>= next') post := by
  refine twins_call (fun s s' same => ?_) each
  obtain ⟨answer,same'⟩ := l.asks same r
  refine ⟨?_,answer,same'⟩
  change [Event.asked _ r (world.ask q.one r s).1] = [Event.asked _ r (world.ask q.other r s').1]
  rw [answer]
  rfl

theorem twins_close {next next' : Unit → Act ω β} (rest : l.Twins none (next ()) (next' ()) post) :
    l.Twins (some q) (world.closeAt q.one >>= next) (world.closeAt q.other >>= next') post :=
  twins_call (fun _ _ same => ⟨rfl,rfl,l.closes same⟩) fun _ => rest

theorem twins_spawn {next next' : Except Fault Unit → Act ω β}
    (each : ∀ answer, l.Twins (some q) (next answer) (next' answer) post) :
    l.Twins (some q) (world.spawn >>= next) (world.spawn >>= next') post := by
  refine twins_call (fun s s' same => ?_) each
  obtain ⟨answer,same'⟩ := l.spawns same
  refine ⟨?_,answer,same'⟩
  change [Event.spawned (world.startThread s).1] = [Event.spawned (world.startThread s').1]
  rw [answer]

theorem twins_notify {call : SinkCall} {event : Bool → Event} {answer : ω → Bool × ω} {next next' : Bool → Act ω β}
    (answers : ∀ s s', l.alike p s s' → Agree (l.alike p) (answer s) (answer s'))
    (each : ∀ returned, l.Twins p (next returned) (next' returned) post) :
    l.Twins p (Sink.notify call event answer >>= next) (Sink.notify call event answer >>= next') post := by
  refine twins_call (fun s s' same => ?_) each
  obtain ⟨returned,same'⟩ := answers s s' same
  refine ⟨?_,returned,same'⟩
  simp only [Course.run,Sink.notify,returned]

theorem twins_open {path : String} {next next' : Except Fault Handle → Act ω β}
    (opens : ∀ q : Twin, q.path = path → l.Twins (some q) (next (.ok q.one)) (next' (.ok q.other)) post)
    (refuses : ∀ fault, l.Twins none (next (.error fault)) (next' (.error fault)) post) :
    l.Twins none (world.openAt path .session >>= next) (world.openAt path .session >>= next') post := by
  have first : l.Twins none (world.openAt path .session) (world.openAt path .session) fun p' x x' =>
      (∃ q : Twin, q.path = path ∧ p' = some q ∧ x = .ok q.one ∧ x' = .ok q.other) ∨
        ∃ fault, p' = none ∧ x = .error fault ∧ x' = .error fault := by
    intro s s' same
    obtain ⟨here,there,t,t',answer,answer',same'⟩ | ⟨fault,t,t',answer,answer',same'⟩ := l.opens same path
    · simp only [Course.run,World.openAt,answer,answer']
      exact ⟨rfl,_,same',.inl ⟨_,rfl,rfl,rfl,rfl⟩⟩
    · simp only [Course.run,World.openAt,answer,answer']
      exact ⟨trivial,_,same',.inr ⟨fault,rfl,rfl,rfl⟩⟩
  refine twins_bind first ?_
  rintro p' x x' (⟨q,path,rfl,rfl,rfl⟩ | ⟨fault,rfl,rfl,rfl⟩)
  · exact opens q path
  · exact refuses fault

end Likeness
end VideoCapture
