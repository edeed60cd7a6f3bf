import SceneCourse.Fault

/-!
Steps of a session. A step changes the session and is done, or fails and keeps the changes it made
so far, or does not finish within the nesting that it is allowed.
-/

namespace SceneCourse

inductive Ending (α : Type) where
  | done (a : α)
  | failed (e : Fault)
  | unfinished

/-- A step on a state `σ`. -/
def Step (σ α : Type) := σ → Ending α × σ

namespace Step

variable {σ α β : Type}

protected def pure (a : α) : Step σ α := fun s => (.done a, s)

protected def bind (x : Step σ α) (f : α → Step σ β) : Step σ β := fun s =>
  match x s with
  | (.done a, s) => f a s
  | (.failed e, s) => (.failed e, s)
  | (.unfinished, s) => (.unfinished, s)

instance : Monad (Step σ) where
  pure := Step.pure
  bind := Step.bind

def fail (e : Fault) : Step σ α := fun s => (.failed e, s)

def unfinished : Step σ α := fun s => (.unfinished, s)

/-- The state as it is. -/
def current : Step σ σ := fun s => (.done s, s)

def update (f : σ → σ) : Step σ Unit := fun s => (.done (), f s)

def ofExcept : Except Fault α → Step σ α
  | .ok a => Step.pure a
  | .error e => fail e

/-- A step whose failure is an answer. -/
def attempt (x : Step σ α) : Step σ (Except Fault α) := fun s =>
  match x s with
  | (.done a, s) => (.done (.ok a), s)
  | (.failed e, s) => (.done (.error e), s)
  | (.unfinished, s) => (.unfinished, s)

/-- A step for every element, in order. -/
def each (f : α → Step σ Unit) : List α → Step σ Unit
  | [] => Step.pure ()
  | a :: as => Step.bind (f a) fun _ => each f as

end Step

end SceneCourse
