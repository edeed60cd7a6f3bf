import SceneCourse.Log.RunLog

/-!
Questions about the state. A question is answered, or fails, and may leave notes for the log on the
way; it changes nothing.
-/

namespace SceneCourse

structure Noted (α : Type) where
  result : Except Fault α
  notes : List LogEntry := []

namespace Noted

variable {α β : Type}

def answer (a : α) : Noted α := ⟨.ok a, []⟩

def fail (e : Fault) : Noted α := ⟨.error e, []⟩

def ofExcept (r : Except Fault α) : Noted α := ⟨r, []⟩

/-- A warning. It stays in the notes also when its data cannot be shown on the diagnostic stream,
which gets all warnings. -/
def note (category : Category) (message : String) (data : Value := .null) : Noted Unit :=
  let e : LogEntry := { level := .warn, category, message, data }
  ⟨e.line.map fun _ => (), [e]⟩

def bind (x : Noted α) (f : α → Noted β) : Noted β :=
  match x.result with
  | .ok a => let y := f a; ⟨y.result, x.notes ++ y.notes⟩
  | .error e => ⟨.error e, x.notes⟩

instance : Monad Noted where
  pure := answer
  bind := bind

end Noted

end SceneCourse
