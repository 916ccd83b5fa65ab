import VideoCapture.Kernel.Device
import Mathlib.Logic.Function.Iterate
/-!
# One way for all calls

A process calls the layer that system calls are made through, and what it meets may change in any way between two
calls (`Occurrence`). Its first call decides between the library and the kernel, and the decision is kept. Main
statement: all that is seen of a process is one decision, by what it met at its first call, and system calls that go
the way decided; and a control request is made until an attempt is not interrupted (`Platform.one_backend`).
-/
namespace VideoCapture.Kernel
variable {ω : Type}

/-- A call to the layer that system calls are made through. -/
inductive LayerCall
  | init
  | open (path : String) (flags : Nat)
  | close
  | control (code : Nat) (argument : List UInt8)
  | map (length offset : Nat)
  | unmap (length : Nat)

/-- What happens in the life of a process: it makes a call, or what it meets changes. -/
inductive Occurrence (ω : Type)
  | calls (call : LayerCall)
  | changes (change : ω → ω)

/-- What a process meets after changes, one after the other. -/
def changed (changes : List (ω → ω)) (s : ω) : ω := changes.foldl (fun s change => change s) s

/-- What is seen of a call once the way is decided. Only a control request is ever made more than once. -/
def LayerCall.Issues (backend : Backend) : LayerCall → List SystemEvent → Prop
  | init, h => h = []
  | .open path flags, h => ∃ outcome, h = [.called backend (.open path flags) outcome]
  | close, h => ∃ outcome, h = [.called backend .close outcome]
  | control code _, h => ∃ attempts : List (List UInt8 × Outcome), attempts ≠ [] ∧
      h = attempts.map fun attempt => .called backend (.control code attempt.1) attempt.2
  | map length offset, h => ∃ outcome, h = [.called backend (.map length readWrite shared offset) outcome]
  | unmap length, h => ∃ outcome, h = [.called backend (.unmap length) outcome]

/-- What is seen of a process whose way is decided: its calls, one after the other. -/
inductive Traffic (backend : Backend) : List (Occurrence ω) → List SystemEvent → Prop
  | none : Traffic backend [] []
  | call {c : LayerCall} {h k : List SystemEvent} {later : List (Occurrence ω)} (issued : c.Issues backend h)
      (rest : Traffic backend later k) : Traffic backend (.calls c :: later) (h ++ k)
  | change {f : ω → ω} {k : List SystemEvent} {later : List (Occurrence ω)} (rest : Traffic backend later k) :
      Traffic backend (.changes f :: later) k

theorem Traffic.called {backend : Backend} {occurrences : List (Occurrence ω)} {h : List SystemEvent}
    (traffic : Traffic backend occurrences h) : ∀ e ∈ h, ∃ call outcome, e = .called backend call outcome := by
  induction traffic with
  | none => exact fun e member => nomatch member
  | change rest ih => exact ih
  | @call c h k later issued rest ih =>
    refine List.forall_mem_append.mpr ⟨?_,ih⟩
    cases c with
    | init =>
      obtain rfl := issued
      exact fun e member => nomatch member
    | control code argument =>
      obtain ⟨attempts,-,rfl⟩ := issued
      intro e member
      obtain ⟨attempt,-,rfl⟩ := List.mem_map.mp member
      exact ⟨_,_,rfl⟩
    | «open» path flags | map length offset | close | unmap length =>
      obtain ⟨outcome,rfl⟩ := issued
      exact List.forall_mem_singleton.mpr ⟨_,_,rfl⟩

/-- Whether an event is an attempt to load a library. -/
def SystemEvent.isLoad : SystemEvent → Bool
  | .loaded _ _ => true
  | _ => false

namespace Platform
variable (platform : Platform ω)

/-- Makes a call. -/
def perform : LayerCall → SystemAct ω Unit
  | .init => do let _ ← platform.backend
  | .open path flags => do let _ ← platform.openPath path flags
  | .close => do let _ ← platform.simple .close
  | .control code argument => do let _ ← platform.control code argument
  | .map length offset => do let _ ← platform.mapMemory length offset
  | .unmap length => do let _ ← platform.simple (.unmap length)

/-- What happens to a process, one thing after the other. -/
def live : List (Occurrence ω) → SystemAct ω Unit
  | [] => return ()
  | .calls call :: later => do
    platform.perform call
    live later
  | .changes change :: later => do
    Course.change fun s => ((),{ s with surroundings := change s.surroundings })
    live later

/-- What is seen of a decision, and the way that is decided on, by what a process meets at that moment. -/
inductive Decides (moment : ω) : SystemEvent → Backend → Prop
  | declined (named : isNoLibrary ((platform.variableValue moment).1.getD standardLibrary) = true) :
      Decides moment .declined .kernel
  | tried {library : String} {success : Bool}
      (named : (platform.variableValue moment).1.getD standardLibrary = library)
      (usable : isNoLibrary library = false)
      (loaded : (platform.load library (platform.variableValue moment).2).1 = success) :
      Decides moment (.loaded library success) (if success then .library else .kernel)

/-! ### The decision -/

theorem backend_decides (s : ω) : ∃ decision backend s', platform.Decides s decision backend ∧
    platform.backend.run ⟨none,s⟩ = ⟨backend,[decision],⟨some backend,s'⟩⟩ := by
  simp only [Course.run,backend,decide]
  by_cases named : isNoLibrary ((platform.variableValue s).1.getD standardLibrary) = true
  · rw [if_pos named]
    exact ⟨_,_,_,.declined named,rfl⟩
  · rw [if_neg named]
    exact ⟨_,_,_,.tried rfl (by simpa using named) rfl,rfl⟩

/-- An act that begins by asking for the way, so that asking before it changes nothing. -/
def AsksFirst {α : Type} (act : SystemAct ω α) : Prop := act = platform.backend >>= fun _ => act

variable {platform} in
theorem AsksFirst.bind {α β : Type} {act : SystemAct ω α} (asks : platform.AsksFirst act) (next : α → SystemAct ω β) :
    platform.AsksFirst (act >>= next) :=
  calc act >>= next
    _ = (platform.backend >>= fun _ => act) >>= next := congrArg (· >>= next) asks
    _ = platform.backend >>= fun _ => act >>= next := bind_assoc _ _ _

variable {platform} in
/-- The run of such an act is the decision, and the run of the act with the way decided. -/
theorem AsksFirst.run {α : Type} {act : SystemAct ω α} (asks : platform.AsksFirst act) (s : Situation ω) :
    act.run s =
      let deciding := platform.backend.run s
      let rest := act.run ⟨some deciding.value,deciding.state.surroundings⟩
      ⟨rest.value,deciding.history ++ rest.history,rest.state⟩ := by
  have choice := platform.choice_backend s
  calc act.run s
    _ = (platform.backend >>= fun _ => act).run s := congrFun asks s
    _ = _ := by
      rw [Course.run_bind]
      dsimp only [Course.run] at choice ⊢
      rw [← choice]

theorem asksFirst_backend : platform.AsksFirst platform.backend := by
  funext s
  have choice := platform.choice_backend s
  simp only [bind]
  generalize platform.backend s = first at choice
  simp only [backend,choice,List.append_nil]

theorem asksFirst_call (c : SystemCall) : platform.AsksFirst (platform.call c) :=
  platform.asksFirst_backend.bind _

theorem asksFirst_control (code : Nat) (argument : List UInt8) :
    platform.AsksFirst (platform.control code argument) := by
  rw [control_eq]
  exact (platform.asksFirst_call _).bind _

theorem asksFirst_perform (c : LayerCall) : platform.AsksFirst (platform.perform c) := by
  cases c with
  | init => exact platform.asksFirst_backend.bind _
  | control code argument => exact (platform.asksFirst_control code argument).bind _
  | «open» path flags | map length offset | close | unmap length =>
    exact ((platform.asksFirst_call _).bind _).bind _

/-! ### Control requests -/

/-- What the next attempt at a control request starts from: the structure as the last one left it, and what the
    process meets then. -/
def retried (backend : Backend) (code : Nat) (start : List UInt8 × ω) : List UInt8 × ω :=
  let reply := platform.answer backend (.control code start.1) start.2
  (overwriteAll start.1 reply.1.writes,reply.2)

/-- The answer to an attempt, counted from zero. -/
def answerAt (backend : Backend) (code : Nat) (start : List UInt8 × ω) (i : Nat) : Answer :=
  let attempt := (platform.retried backend code)^[i] start
  (platform.answer backend (.control code attempt.1) attempt.2).1

/-- What is seen of an attempt, counted from zero. -/
def attemptAt (backend : Backend) (code : Nat) (start : List UInt8 × ω) (i : Nat) : SystemEvent :=
  .called backend (.control code ((platform.retried backend code)^[i] start).1)
    (platform.answerAt backend code start i).outcome

/-- Whether so many attempts are interrupted, and the next one is not. -/
def InterruptedFor (backend : Backend) (code : Nat) (start : List UInt8 × ω) (k : Nat) : Prop :=
  (∀ i < k, (platform.answerAt backend code start i).isInterrupted = true) ∧
    (platform.answerAt backend code start k).isInterrupted = false

theorem exists_interruptedFor (backend : Backend) (code : Nat) (start : List UInt8 × ω) :
    ∃ k, platform.InterruptedFor backend code start k := by
  -- By induction on the interruptions that are left at most.
  generalize bound : platform.interruptions backend code start.1 start.2 = n
  induction n using Nat.strongRecOn generalizing start with
  | ind n ih =>
    cases first : (platform.answerAt backend code start 0).isInterrupted with
    | false => exact ⟨0,fun i below => absurd below (Nat.not_lt_zero i),first⟩
    | true =>
      have fewer := platform.fewer_interruptions backend code start.1 start.2 first
      obtain ⟨k,before,last⟩ := ih _ (bound ▸ fewer) (platform.retried backend code start) rfl
      refine ⟨k + 1,fun i below => ?_,last⟩
      cases i with
      | zero => exact first
      | succ i => exact before i (Nat.lt_of_succ_lt_succ below)

/-- A control request makes one attempt, and all of it again if that is interrupted. -/
theorem control_run (backend : Backend) (code : Nat) (start : List UInt8 × ω) :
    (platform.control code start.1).run ⟨some backend,start.2⟩ =
      let left := platform.retried backend code start
      if (platform.answerAt backend code start 0).isInterrupted then
        let again := (platform.control code left.1).run ⟨some backend,left.2⟩
        ⟨again.value,platform.attemptAt backend code start 0 :: again.history,again.state⟩
      else ⟨(platform.answerAt backend code start 0).result left.1,[platform.attemptAt backend code start 0],
        ⟨some backend,left.2⟩⟩ := by
  have attempt : (platform.call (.control code start.1)).run ⟨some backend,start.2⟩ =
    ⟨platform.answerAt backend code start 0,[platform.attemptAt backend code start 0],
      ⟨some backend,(platform.retried backend code start).2⟩⟩ := rfl
  rw [control_eq,Course.run_bind,attempt]
  dsimp only
  split <;> rfl

theorem control_decided {backend : Backend} {code k : Nat} {start : List UInt8 × ω}
    (interrupted : platform.InterruptedFor backend code start k) :
    let left := (platform.retried backend code)^[k + 1] start
    (platform.control code start.1).run ⟨some backend,start.2⟩ =
      ⟨(platform.answerAt backend code start k).result left.1,
        (List.range (k + 1)).map (platform.attemptAt backend code start),⟨some backend,left.2⟩⟩ := by
  obtain ⟨before,last⟩ := interrupted
  induction k generalizing start with
  | zero =>
    rw [control_run,last]
    rfl
  | succ k ih =>
    have first := before 0 (Nat.zero_lt_succ k)
    have others : ∀ i < k, (platform.answerAt backend code (platform.retried backend code start) i).isInterrupted =
        true := by
      intro i below
      exact before (i + 1) (Nat.succ_lt_succ below)
    rw [control_run,first]
    simp only [ih others last,↓reduceIte]
    rw [List.range_succ_eq_map (n := k + 1),List.map_cons,List.map_map]
    rfl

/-! ### A whole life -/

/-- A call that is made once and read without another one. -/
theorem issues_once {α : Type} (backend : Backend) (c : SystemCall) (s : ω) {read : Answer → SystemAct ω α}
    (quiet : ∀ answer s, ∃ result, (read answer).run s = ⟨result,[],s⟩) :
    let run := ((platform.call c >>= read) >>= fun _ => pure ()).run ⟨some backend,s⟩
    (∃ outcome, run.history = [.called backend c outcome]) ∧ run.state.choice = some backend := by
  obtain ⟨result,silent⟩ := quiet (platform.answer backend c s).1 ⟨some backend,(platform.answer backend c s).2⟩
  have once : (platform.call c).run ⟨some backend,s⟩ =
    ⟨(platform.answer backend c s).1,[.called backend c (platform.answer backend c s).1.outcome],
      ⟨some backend,(platform.answer backend c s).2⟩⟩ := rfl
  simp only [Course.run_bind,Course.run_pure,once,silent]
  exact ⟨⟨_,rfl⟩,trivial⟩

theorem perform_issues (backend : Backend) (c : LayerCall) (s : ω) :
    let run := (platform.perform c).run ⟨some backend,s⟩
    c.Issues backend run.history ∧ run.state.choice = some backend := by
  cases c with
  | init => exact ⟨rfl,rfl⟩
  | control code argument =>
    obtain ⟨k,interrupted⟩ := platform.exists_interruptedFor backend code (argument,s)
    have decided := platform.control_decided interrupted
    dsimp only at decided
    simp only [perform,Course.run_bind,Course.run_pure,decided,List.append_nil]
    let attempt (i : Nat) : List UInt8 × Outcome :=
      (((platform.retried backend code)^[i] (argument,s)).1,(platform.answerAt backend code (argument,s) i).outcome)
    refine ⟨⟨(List.range (k + 1)).map attempt,by simp,?_⟩,trivial⟩
    rw [List.map_map]
    rfl
  | «open» path flags | map length offset | close | unmap length =>
    refine platform.issues_once backend _ s fun answer s => ?_
    cases answer.outcome <;> exact ⟨_,rfl⟩

theorem live_traffic (backend : Backend) (occurrences : List (Occurrence ω)) (s : ω) :
    let run := (platform.live occurrences).run ⟨some backend,s⟩
    Traffic backend occurrences run.history ∧ run.state.choice = some backend := by
  induction occurrences generalizing s with
  | nil => exact ⟨.none,rfl⟩
  | cons occurrence later ih =>
    cases occurrence with
    | changes change => exact ⟨.change (ih (change s)).1,(ih (change s)).2⟩
    | calls c =>
      obtain ⟨issued,choice⟩ := platform.perform_issues backend c s
      simp only [live,Course.run_bind]
      generalize (platform.perform c).run ⟨some backend,s⟩ = run at issued choice
      obtain ⟨value,h,choice,s'⟩ := run
      obtain rfl := choice
      exact ⟨.call issued (ih s').1,(ih s').2⟩

theorem live_changes (changes : List (ω → ω)) (later : List (Occurrence ω)) (s : Situation ω) :
    (platform.live (changes.map .changes ++ later)).run s =
      (platform.live later).run { s with surroundings := changed changes s.surroundings } := by
  induction changes generalizing s with
  | nil => rfl
  | cons change changes ih => exact ih _

/-- The first call decides, and what is seen from then on goes the way decided. -/
theorem live_first (first : LayerCall) (later : List (Occurrence ω)) (moment : ω) :
    let run := (platform.live (.calls first :: later)).run ⟨none,moment⟩
    ∃ decision backend traffic, run.history = decision :: traffic ∧ platform.Decides moment decision backend ∧
      Traffic backend (.calls first :: later) traffic ∧ run.state.choice = some backend := by
  obtain ⟨decision,backend,s,decides,deciding⟩ := platform.backend_decides moment
  obtain ⟨traffic,choice⟩ := platform.live_traffic backend (.calls first :: later) s
  have asks : platform.AsksFirst (platform.live (.calls first :: later)) := (platform.asksFirst_perform first).bind _
  rw [asks.run,deciding]
  exact ⟨decision,backend,_,rfl,decides,traffic,choice⟩

end Platform
end VideoCapture.Kernel
