/-!
# Courses of action

A course of action depends on its surroundings and changes them; running it gives its result and
the list of the events it brought about. The history of one course after another is the one
history followed by the other.
-/
namespace VideoCapture

/-- The outcome of a course of action that started in some state of its surroundings. -/
structure Run (ε ω α : Type) where
  value : α
  history : List ε
  state : ω

/-- A course of action with events of type `ε` in surroundings with states of type `ω`. -/
def Course (ε ω α : Type) : Type := ω → Run ε ω α

namespace Course

variable {ε ω α β : Type}

def run (act : Course ε ω α) (s : ω) : Run ε ω α := act s

instance : Monad (Course ε ω) where
  pure x := fun s => ⟨x,[],s⟩
  bind act next := fun s =>
    let first := act s
    let second := next first.value first.state
    ⟨second.value,first.history ++ second.history,second.state⟩

theorem run_pure (x : α) (s : ω) : (pure x : Course ε ω α).run s = ⟨x,[],s⟩ := rfl

theorem run_bind (act : Course ε ω α) (next : α → Course ε ω β) (s : ω) :
    (act >>= next).run s =
      ⟨((next (act.run s).value).run (act.run s).state).value,
        (act.run s).history ++ ((next (act.run s).value).run (act.run s).state).history,
        ((next (act.run s).value).run (act.run s).state).state⟩ := rfl

theorem value_bind (act : Course ε ω α) (next : α → Course ε ω β) (s : ω) :
    ((act >>= next).run s).value = ((next (act.run s).value).run (act.run s).state).value := rfl

theorem history_bind (act : Course ε ω α) (next : α → Course ε ω β) (s : ω) :
    ((act >>= next).run s).history =
      (act.run s).history ++ ((next (act.run s).value).run (act.run s).state).history := rfl

/-- What comes next counts only for the run that it goes on. -/
theorem run_bind_congr {act : Course ε ω α} {next next' : α → Course ε ω β} {s : ω}
    (same : (next (act.run s).value).run (act.run s).state = (next' (act.run s).value).run (act.run s).state) :
    (act >>= next).run s = (act >>= next').run s := by
  rw [run_bind,run_bind,same]

instance : LawfulMonad (Course ε ω) := LawfulMonad.mk' (Course ε ω)
  (fun act => by
    funext s
    change Run.mk (act s).value ((act s).history ++ []) (act s).state = act s
    rw [List.append_nil])
  (fun _ _ => rfl)
  (fun act f g => by
    funext s
    simp only [bind,List.append_assoc])

def emit (event : ε) : Course ε ω Unit := fun s => ⟨(),[event],s⟩

def look (f : ω → α) : Course ε ω α := fun s => ⟨f s,[],s⟩

/-- A course of action with a look at what it brought about. -/
def listen (act : Course ε ω α) : Course ε ω (α × List ε) := fun s =>
  let run := act s
  ⟨(run.value,run.history),run.history,run.state⟩

/-- Changes the surroundings unseen. -/
def change (f : ω → α × ω) : Course ε ω α := fun s => ⟨(f s).1,[],(f s).2⟩

end Course
end VideoCapture
