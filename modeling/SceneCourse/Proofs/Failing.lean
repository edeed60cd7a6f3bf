import SceneCourse.Session.Step

/-! Steps that fail. Where a step fails is followed through its parts: a chain fails in its first
link or in what comes behind it, and a step for every element fails at the first element whose step
does. A step that does not run out of its nesting has failed or is done. -/

namespace SceneCourse

namespace Step

variable {σ α β : Type}

def Fails (x : Step σ α) (s : σ) : Prop := ∃ e, (x s).1 = .failed e

/-- From every state the step fails or is done. -/
def Ends (x : Step σ α) : Prop := ∀ s, (x s).1 ≠ .unfinished

section

variable {s : σ} {f : α → Step σ β}

@[simp] theorem not_fails_pure (a : α) : ¬Fails (Step.pure a : Step σ α) s := by
  rintro ⟨e, ⟨⟩⟩

@[simp] theorem fails_fail (e : Fault) : Fails (Step.fail e : Step σ α) s := ⟨e, rfl⟩

theorem not_fails_of_done {x : Step σ Unit} (done : ∃ t, x s = (.done (), t)) : ¬Fails x s := by
  rintro ⟨e, failed⟩
  obtain ⟨t, done⟩ := done
  rw [done] at failed
  cases failed

theorem fails_ofExcept {r : Except Fault α} : Fails (Step.ofExcept r) s ↔ ∃ e, r = .error e := by
  cases r with
  | ok a => exact iff_of_false (not_fails_pure a) (by simp)
  | error e => exact iff_of_true (fails_fail e) ⟨e, rfl⟩

theorem fails_bind {x : Step σ α} :
    Fails (x >>= f) s ↔ Fails x s ∨ ∃ a t, x s = (.done a, t) ∧ Fails (f a) t := by
  show Fails (Step.bind x f) s ↔ _
  rw [Fails, Fails, Step.bind]
  obtain ⟨a | e | _, t⟩ := x s
  · simp only [Prod.mk.injEq, Ending.done.injEq, reduceCtorEq, exists_false, false_or]
    exact ⟨fun fails => ⟨a, t, ⟨rfl, rfl⟩, fails⟩, fun ⟨_, _, ⟨rfl, rfl⟩, fails⟩ => fails⟩
  · simp
  · simp

/-- What goes on after an answer that is given in some state. -/
theorem fails_answered {x : Step σ α} {r : Except Fault α} {t : σ}
    (answer : x s = Step.ofExcept r t) :
    Fails (x >>= f) s ↔ (∃ e, r = .error e) ∨ ∃ a, r = .ok a ∧ Fails (f a) t := by
  rw [fails_bind, Fails, answer]
  cases r with
  | ok a =>
    simp only [Except.ok.injEq, exists_eq_left']
    constructor
    · rintro (⟨e, failed⟩ | ⟨_, _, done, fails⟩)
      · cases failed
      · cases done
        exact Or.inr fails
    · rintro (⟨e, failed⟩ | fails)
      · cases failed
      · exact Or.inr ⟨a, t, rfl, fails⟩
  | error e => exact iff_of_true (Or.inl ⟨e, rfl⟩) (Or.inl ⟨e, rfl⟩)

/-- A step for every element fails at the first element whose step does. -/
theorem fails_each {f : α → Step σ Unit} {as : List α} : Fails (Step.each f as) s ↔
    ∃ before a after t, as = before ++ a :: after ∧ Step.each f before s = (.done (), t) ∧
    Fails (f a) t := by
  induction as generalizing s with
  | nil => exact iff_of_false (not_fails_pure ()) (by simp)
  | cons a as ih =>
    refine fails_bind.trans ⟨?_, ?_⟩
    · rintro (here | ⟨_, t, done, later⟩)
      · exact ⟨[], a, as, s, rfl, rfl, here⟩
      · obtain ⟨before, b, after, u, rfl, done', fails⟩ := ih.mp later
        refine ⟨a :: before, b, after, u, rfl, ?_, fails⟩
        rw [Step.each, Step.bind, done]
        exact done'
    · rintro ⟨before, b, after, u, same, done, fails⟩
      cases before with
      | nil =>
        obtain ⟨rfl, rfl⟩ := List.cons.inj same
        obtain rfl := (Prod.mk.inj done).2
        exact Or.inl fails
      | cons c before =>
        obtain ⟨rfl, rfl⟩ := List.cons.inj same
        rw [Step.each, Step.bind] at done
        cases first : f a s with
        | mk ending t =>
          rw [first] at done
          cases ending with
          | done _ => exact Or.inr ⟨_, t, rfl, ih.mpr ⟨before, b, after, u, rfl, done, fails⟩⟩
          | failed e => cases (Prod.mk.inj done).1
          | unfinished => cases (Prod.mk.inj done).1

end

theorem Ends.pure (a : α) : Ends (Step.pure a : Step σ α) := nofun

theorem Ends.update (g : σ → σ) : Ends (Step.update g) := nofun

theorem Ends.ofExcept (r : Except Fault α) : Ends (Step.ofExcept r : Step σ α) := by
  cases r <;> exact nofun

theorem Ends.bind {x : Step σ α} {f : α → Step σ β} (hx : Ends x) (hf : ∀ a, Ends (f a)) :
    Ends (x >>= f) := by
  intro s
  have first := hx s
  show (Step.bind x f s).1 ≠ _
  rw [Step.bind]
  generalize x s = outcome at first ⊢
  match outcome, first with
  | (.done a, t), _ => exact hf a t
  | (.failed e, t), _ => exact nofun
  | (.unfinished, t), first => exact absurd rfl first

theorem Ends.each {f : α → Step σ Unit} {as : List α} (hf : ∀ a ∈ as, Ends (f a)) :
    Ends (Step.each f as) := by
  induction as with
  | nil => exact Ends.pure ()
  | cons a as ih =>
    exact (hf a List.mem_cons_self).bind fun _ => ih fun b hb => hf b (List.mem_cons_of_mem a hb)

theorem Ends.done_of_not_fails {x : Step σ Unit} (ends : Ends x) {s : σ} (well : ¬Fails x s) :
    ∃ t, x s = (.done (), t) := by
  cases outcome : x s with
  | mk ending t =>
    cases ending with
    | done _ => exact ⟨t, rfl⟩
    | failed e => exact absurd ⟨e, congrArg Prod.fst outcome⟩ well
    | unfinished => exact absurd (congrArg Prod.fst outcome) (ends s)

end Step

end SceneCourse
