import VideoCapture.Act
/-!
# What an act yields

An act is followed call by call: `Yields` says what holds of its result and of what is observed of
its history, and each call has a rule that leaves every answer open. Notices are not observed.
-/
namespace VideoCapture

/-- Whether an event is only told to people. -/
def Event.isNotice : Event → Bool
  | noticed _ => true
  | _ => false

/-- What devices, the system and the consumer see of a history. -/
def observed (h : History) : History := h.filter fun e => !e.isNotice

theorem observed_cons {e : Event} (visible : e.isNotice = false) (h : History) :
    observed (e :: h) = e :: observed h := by
  simp [observed,visible]

theorem observed_append (h k : History) : observed (h ++ k) = observed h ++ observed k :=
  List.filter_append ..

namespace Act
variable {ω α β : Type} {world : World ω} {sink : Sink ω} {s : ω} {post : β → History → Prop}

/-- What holds of the result of an act that starts in state `s`, and of what is observed of it. -/
def Yields (act : Act ω α) (s : ω) (post : α → History → Prop) : Prop :=
  post (act.run s).value (observed (act.run s).history)

theorem yields_pure {x : β} (holds : post x []) : Yields (pure x) s post := holds

/-- What comes next starts from the state that the act leaves. -/
theorem yields_bind_run {act : Act ω α} {next : α → Act ω β}
    (rest : Yields (next (act.run s).value) (act.run s).state fun y k => post y (observed (act.run s).history ++ k)) :
    Yields (act >>= next) s post := by
  simp only [Yields,← observed_append] at rest
  exact rest

theorem yields_bind {act : Act ω α} {next : α → Act ω β}
    (first : Yields act s fun x h => ∀ s', Yields (next x) s' fun y k => post y (h ++ k)) :
    Yields (act >>= next) s post := yields_bind_run (first (act.run s).state)

theorem yields_mono {act : Act ω β} {pre : β → History → Prop} (weaker : ∀ x h, pre x h → post x h)
    (holds : Yields act s pre) : Yields act s post := weaker _ _ holds

/-- What is known of an act is all that counts for what comes after it. -/
theorem yields_then {act : Act ω α} {next : α → Act ω β} {known : α → History → Prop} (first : Yields act s known)
    (each : ∀ x h s', known x h → Yields (next x) s' fun y k => post y (h ++ k)) : Yields (act >>= next) s post :=
  yields_bind (yields_mono (fun x h holds s' => each x h s' holds) first)

theorem yields_and {act : Act ω β} {post' : β → History → Prop} (one : Yields act s post)
    (other : Yields act s post') : Yields act s fun y h => post y h ∧ post' y h := ⟨one,other⟩

theorem yields_notice {notice : Notice} {next : Unit → Act ω β} (rest : Yields (next ()) s post) :
    Yields (Act.notice notice >>= next) s post := rest

theorem yields_notice_end {notice : Notice} {post : Unit → History → Prop} (holds : post () []) :
    Yields (Act.notice notice : Act ω Unit) s post := holds

theorem yields_look {f : ω → α} {next : α → Act ω β} (rest : Yields (next (f s)) s post) :
    Yields (Course.look f >>= next) s post := rest

theorem yields_list {next : Except Fault (List String) → Act ω β}
    (each : ∀ answer s', Yields (next answer) s' fun y h => post y (.listed answer :: h)) :
    Yields (world.list >>= next) s post := each _ _

section
variable {path : String} {purpose : Purpose} {s' : ω}

theorem openAt_refused {fault : Fault} (answer : world.openDevice path purpose s = (.error fault,s')) :
    (world.openAt path purpose).run s = ⟨.error fault,[.refused path purpose fault],s'⟩ := by
  simp only [Course.run,World.openAt,answer]

theorem openAt_opened {number : Nat} (answer : world.openDevice path purpose s = (.ok number,s')) :
    (world.openAt path purpose).run s = ⟨.ok ⟨path,purpose,number⟩,[.opened ⟨path,purpose,number⟩],s'⟩ := by
  simp only [Course.run,World.openAt,answer]

end

theorem yields_open {path : String} {purpose : Purpose} {next : Except Fault Handle → Act ω β}
    (opens : ∀ number s', Yields (next (.ok ⟨path,purpose,number⟩)) s' fun y h =>
      post y (.opened ⟨path,purpose,number⟩ :: h))
    (refuses : ∀ fault s', Yields (next (.error fault)) s' fun y h =>
      post y (.refused path purpose fault :: h)) :
    Yields (world.openAt path purpose >>= next) s post := by
  rw [Yields,Course.run_bind]
  rcases answer : world.openDevice path purpose s with ⟨fault | number,s'⟩
  · rw [openAt_refused answer]
    exact refuses fault s'
  · rw [openAt_opened answer]
    exact opens number s'

theorem yields_request {device : Handle} {r : Request} {next : Except Fault r.Reply → Act ω β}
    (each : ∀ answer s', Yields (next answer) s' fun y h => post y (.asked device r answer :: h)) :
    Yields (world.request device r >>= next) s post := each _ _

theorem yields_close {device : Handle} {next : Unit → Act ω β}
    (each : ∀ s', Yields (next ()) s' fun y h => post y (.closed device :: h)) :
    Yields (world.closeAt device >>= next) s post := each _

theorem yields_spawn {next : Except Fault Unit → Act ω β}
    (each : ∀ answer s', Yields (next answer) s' fun y h => post y (.spawned answer :: h)) :
    Yields (world.spawn >>= next) s post := each _ _

theorem yields_notify {call : SinkCall} {event : Bool → Event} {answer : ω → Bool × ω}
    {next : Bool → Act ω β} (visible : ∀ returned, (event returned).isNotice = false)
    (each : ∀ returned s', Yields (next returned) s' fun y h => post y (event returned :: h)) :
    Yields (Sink.notify call event answer >>= next) s post := by
  refine yields_bind fun s' => ?_
  rcases called : answer s with ⟨returned,after⟩
  have run : (Sink.notify call event answer).run s =
      ⟨returned,event returned :: if returned then [] else [.noticed (.sinkFailed call)],after⟩ := by
    simp only [Course.run,Sink.notify,called]
  have seen : observed (event returned :: if returned then [] else [.noticed (.sinkFailed call)]) =
      [event returned] := by
    rw [observed_cons (visible returned)]
    cases returned <;> rfl
  rw [run,seen]
  exact each returned s'

theorem yields_start {info : SessionStart} {next : Bool → Act ω β}
    (each : ∀ returned s',
      Yields (next returned) s' fun y h => post y (.started info returned :: h)) :
    Yields (sink.start info >>= next) s post := yields_notify (fun _ => rfl) each

theorem yields_deliver {frame : Frame} {next : Bool → Act ω β}
    (each : ∀ returned s',
      Yields (next returned) s' fun y h => post y (.delivered frame returned :: h)) :
    Yields (sink.deliver frame >>= next) s post := yields_notify (fun _ => rfl) each

theorem yields_stop {frames : Nat} {next : Bool → Act ω β}
    (each : ∀ returned s',
      Yields (next returned) s' fun y h => post y (.stopped frames returned :: h)) :
    Yields (sink.stop frames >>= next) s post := yields_notify (fun _ => rfl) each

end Act
end VideoCapture
