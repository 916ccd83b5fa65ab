/-!
# Outcomes

How a computation that may fail comes out, by how its parts do.
-/
namespace VideoCapture
variable {ε α β : Type} {x : Except ε α}

theorem exists_ok_iff : (∃ v, x = .ok v) ↔ ∀ e, x ≠ .error e := by
  cases x with
  | error e => simp
  | ok v => simp

theorem map_eq_ok_iff {f : α → β} {y : β} : x.map f = .ok y ↔ ∃ v, x = .ok v ∧ f v = y := by
  cases x with
  | error e => simp [Except.map]
  | ok v => simp [Except.map]

theorem map_eq_error_iff {f : α → β} {e : ε} : x.map f = .error e ↔ x = .error e := by
  cases x with
  | error e' => simp [Except.map]
  | ok v => simp [Except.map]

theorem bind_eq_ok_iff {next : α → Except ε β} {y : β} : (x >>= next) = .ok y ↔ ∃ v, x = .ok v ∧ next v = .ok y := by
  cases x with
  | error e => simp [bind,Except.bind]
  | ok v => simp [bind,Except.bind]

theorem bind_eq_error_iff {next : α → Except ε β} {e : ε} :
    (x >>= next) = .error e ↔ x = .error e ∨ ∃ v, x = .ok v ∧ next v = .error e := by
  cases x with
  | error e' => simp [bind,Except.bind]
  | ok v => simp [bind,Except.bind]

end VideoCapture
