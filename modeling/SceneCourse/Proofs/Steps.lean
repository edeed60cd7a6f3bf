import SceneCourse.Session.Step

/-! What holds behind a step. A step keeps an invariant when the invariant holds behind it, whatever
its ending is; it leads from states of one kind to states of another when it is done from all of the
former, in one of the latter; and it is guarded when it keeps an invariant and comes from states of
one kind to states of another if it comes to an end at all. Steps that are made of certain calls
keep what the calls keep. -/

namespace SceneCourse

namespace Step

variable {σ α β : Type} {I : σ → Prop}

/-- Whatever the ending of a step, the invariant holds behind it. -/
def Keeps (I : σ → Prop) (x : Step σ α) : Prop := ∀ s, I s → I (x s).2

theorem Keeps.pure (a : α) : Keeps I (Step.pure a : Step σ α) := fun _ h => h

theorem Keeps.fail (e : Fault) : Keeps I (Step.fail e : Step σ α) := fun _ h => h

theorem Keeps.unfinished : Keeps I (Step.unfinished : Step σ α) := fun _ h => h

theorem Keeps.current : Keeps I (Step.current : Step σ σ) := fun _ h => h

theorem Keeps.update {f : σ → σ} (h : ∀ s, I s → I (f s)) : Keeps I (Step.update f) := h

theorem Keeps.ofExcept (r : Except Fault α) : Keeps I (Step.ofExcept r : Step σ α) := by
  cases r with
  | ok a => exact Keeps.pure a
  | error e => exact Keeps.fail e

theorem Keeps.bind {x : Step σ α} {f : α → Step σ β} (hx : Keeps I x) (hf : ∀ a, Keeps I (f a)) :
    Keeps I (x >>= f) := by
  intro s h
  have behind := hx s h
  show I (Step.bind x f s).2
  rw [Step.bind]
  generalize x s = outcome at behind ⊢
  obtain ⟨_ | _ | _, t⟩ := outcome
  · exact hf _ t behind
  · exact behind
  · exact behind

/-- What comes after a look at the state goes on in that very state. -/
theorem Keeps.looking {f : σ → Step σ β} (hf : ∀ s, I s → I (f s s).2) :
    Keeps I (Step.current >>= f) := hf

/-- What comes after a look at the state may rely on the invariant of that very state. -/
theorem Keeps.look {f : σ → Step σ β} (hf : ∀ s, I s → Keeps I (f s)) :
    Keeps I (Step.current >>= f) :=
  Keeps.looking fun s h => hf s h s h

/-- What comes after an answer may rely on which answer it was. -/
theorem Keeps.answered {r : Except Fault α} {f : α → Step σ β}
    (hf : ∀ a, r = .ok a → Keeps I (f a)) : Keeps I (Step.ofExcept r >>= f) := by
  cases r with
  | ok a => exact hf a rfl
  | error e => exact Keeps.fail e

theorem Keeps.attempt {x : Step σ α} (hx : Keeps I x) : Keeps I x.attempt := by
  intro s h
  have behind := hx s h
  rw [Step.attempt]
  generalize x s = outcome at behind ⊢
  obtain ⟨_ | _ | _, t⟩ := outcome <;> exact behind

theorem Keeps.each {f : α → Step σ Unit} {as : List α} (hf : ∀ a ∈ as, Keeps I (f a)) :
    Keeps I (Step.each f as) := by
  induction as with
  | nil => exact Keeps.pure ()
  | cons a as ih =>
    refine Keeps.bind (hf a (by simp)) fun _ => ih ?_
    intro b hb
    exact hf b (List.mem_cons_of_mem a hb)

/-! ### Steps one after another -/

theorem ofExcept_eq (r : Except Fault α) :
    ∃ ending : Ending α, ∀ s : σ, Step.ofExcept r s = (ending, s) := by
  cases r with
  | ok a => exact ⟨.done a, fun _ => rfl⟩
  | error e => exact ⟨.failed e, fun _ => rfl⟩

theorem bind_assoc {γ : Type} (x : Step σ α) (f : α → Step σ β) (g : β → Step σ γ) :
    Step.bind (Step.bind x f) g = Step.bind x fun a => Step.bind (f a) g := by
  funext s
  simp only [Step.bind]
  obtain ⟨_ | _ | _, t⟩ := x s <;> rfl

theorem each_append (f : α → Step σ Unit) (as bs : List α) :
    Step.each f (as ++ bs) = Step.bind (Step.each f as) fun _ => Step.each f bs := by
  induction as with
  | nil => rfl
  | cons a as ih => rw [List.cons_append, Step.each, Step.each, ih, bind_assoc]

/-! ### Steps that are done -/

section

variable {P Q R : σ → Prop} {x y : Step σ Unit}

/-- From every state of one kind the step is done, in a state of another kind. -/
def Leads (P Q : σ → Prop) (x : Step σ Unit) : Prop := ∀ s, P s → ∃ t, x s = (.done (), t) ∧ Q t

theorem Leads.update {f : σ → σ} (h : ∀ s, P s → Q (f s)) : Leads P Q (Step.update f) :=
  fun s hs => ⟨f s, rfl, h s hs⟩

theorem Leads.bind (hx : Leads P Q x) (hy : Leads Q R y) : Leads P R (x >>= fun _ => y) := by
  intro s hs
  obtain ⟨t, ended, ht⟩ := hx s hs
  obtain ⟨u, ended', hu⟩ := hy t ht
  refine ⟨u, ?_, hu⟩
  show Step.bind x _ s = _
  rw [Step.bind, ended]
  exact ended'

theorem Leads.look {f : σ → Step σ Unit} (h : ∀ s, P s → ∃ t, f s s = (.done (), t) ∧ Q t) :
    Leads P Q (Step.current >>= f) := h

theorem Leads.each {f : α → Step σ Unit} {as : List α} (h : ∀ a ∈ as, Leads P P (f a)) :
    Leads P P (Step.each f as) := by
  induction as with
  | nil => exact fun s hs => ⟨s, rfl, hs⟩
  | cons a as ih =>
    exact Leads.bind (h a List.mem_cons_self) (ih fun b hb => h b (List.mem_cons_of_mem a hb))

/-- A step for every element of a list, where it counts which elements had their turn. -/
theorem Leads.each_after {T : List α → σ → Prop} {f : α → Step σ Unit} {as : List α}
    (h : ∀ done, ∀ a ∈ as, Leads (T done) (T (done ++ [a])) (f a)) (done : List α) :
    Leads (T done) (T (done ++ as)) (Step.each f as) := by
  induction as generalizing done with
  | nil =>
    rw [List.append_nil]
    exact fun s hs => ⟨s, rfl, hs⟩
  | cons a as ih =>
    have rest := ih (fun done b hb => h done b (List.mem_cons_of_mem a hb)) (done ++ [a])
    rw [List.append_assoc, List.singleton_append] at rest
    exact Leads.bind (h done a List.mem_cons_self) rest

/-- A step for every element of a list, one of which leads from states of one kind to states of
another. -/
theorem Leads.each_split {f : α → Step σ Unit} {before after : List α} {a : α}
    (early : ∀ b ∈ before, Leads P P (f b)) (here : Leads P Q (f a))
    (late : ∀ b ∈ after, Leads Q Q (f b)) : Leads P Q (Step.each f (before ++ a :: after)) := by
  induction before with
  | nil => exact Leads.bind here (Leads.each late)
  | cons b before ih =>
    exact Leads.bind (early b List.mem_cons_self)
      (ih fun c hc => early c (List.mem_cons_of_mem b hc))

end

/-! ### Guarded steps -/

theorem bind_of_done {x : Step σ α} {f : α → Step σ β} {s t : σ} {a : α} (h : x s = (.done a, t)) :
    Step.bind x f s = f a t := by rw [Step.bind, h]

/-- The step keeps an invariant, and from states of one kind it comes to states of another if it
comes to an end. -/
def Guards (G P Q : σ → Prop) (x : Step σ α) : Prop :=
  ∀ s, G s → P s → G (x s).2 ∧ ((x s).1 ≠ .unfinished → Q (x s).2)

theorem Keeps.guards {G P : σ → Prop} {x : Step σ α} (h : Keeps (fun s => G s ∧ P s) x) :
    Guards G P P x := by
  intro s guarded hs
  obtain ⟨guarded', hs'⟩ := h s ⟨guarded, hs⟩
  exact ⟨guarded', fun _ => hs'⟩

namespace Guards

variable {G P Q R : σ → Prop}

/-- Where states are all of one kind, to be guarded is to keep the invariant. -/
theorem true_iff {x : Step σ α} : Guards I (fun _ => True) (fun _ => True) x ↔ Keeps I x :=
  ⟨fun h s guarded => (h s guarded trivial).1, fun h s guarded _ => ⟨h s guarded, fun _ => trivial⟩⟩

theorem narrow {x : Step σ α} (h : Guards G Q R x) (imp : ∀ s, P s → Q s) : Guards G P R x :=
  fun s guarded hs => h s guarded (imp s hs)

theorem pure (a : α) : Guards G P P (Step.pure a : Step σ α) :=
  fun _ guarded hs => ⟨guarded, fun _ => hs⟩

theorem fail (e : Fault) : Guards G P P (Step.fail e : Step σ α) :=
  fun _ guarded hs => ⟨guarded, fun _ => hs⟩

theorem ofExcept (r : Except Fault α) : Guards G P P (Step.ofExcept r : Step σ α) := by
  cases r with
  | ok a => exact pure a
  | error e => exact fail e

theorem unfinished : Guards G P Q (Step.unfinished : Step σ α) :=
  fun _ guarded _ => ⟨guarded, fun ends => absurd rfl ends⟩

/-- What comes after a step may rely on what holds where the step is done. A step that fails stops
where it is. -/
theorem relying {D : σ → Prop} {x : Step σ α} {f : α → Step σ β} (hx : Guards G P Q x)
    (done : ∀ s a, (x s).1 = .done a → D (x s).2) (hf : ∀ a, Guards G (fun s => Q s ∧ D s) R (f a))
    (stops : ∀ s, Q s → R s) : Guards G P R (x >>= f) := by
  intro s guarded hs
  have first := hx s guarded hs
  have there := done s
  show G (Step.bind x f s).2 ∧ ((Step.bind x f s).1 ≠ .unfinished → R (Step.bind x f s).2)
  rw [Step.bind]
  generalize x s = outcome at first there ⊢
  obtain ⟨_ | _ | _, t⟩ := outcome
  · exact hf _ t first.1 ⟨first.2 (by simp), there _ rfl⟩
  · exact ⟨first.1, fun _ => stops t (first.2 (by simp))⟩
  · exact ⟨first.1, fun ends => absurd rfl ends⟩

theorem next {x : Step σ α} {f : α → Step σ β} (hx : Guards G P Q x) (hf : ∀ a, Guards G Q R (f a))
    (stops : ∀ s, Q s → R s) : Guards G P R (x >>= f) :=
  relying (D := fun _ => True) hx (fun _ _ _ => trivial)
    (fun a s guarded hs => hf a s guarded hs.1) stops

theorem bind {x : Step σ α} {f : α → Step σ β} (hx : Guards G P Q x)
    (hf : ∀ a, Guards G Q Q (f a)) : Guards G P Q (x >>= f) := next hx hf fun _ => id

/-- What has failed is no end, so what comes after it may lead elsewhere. -/
theorem attempting {x : Step σ α} {f : Except Fault α → Step σ β} (hx : Guards G P Q x)
    (hf : ∀ r, Guards G Q R (f r)) : Guards G P R (x.attempt >>= f) := by
  intro s guarded hs
  have first := hx s guarded hs
  show G (Step.bind x.attempt f s).2 ∧
    ((Step.bind x.attempt f s).1 ≠ .unfinished → R (Step.bind x.attempt f s).2)
  rw [Step.bind, Step.attempt]
  generalize x s = outcome at first ⊢
  obtain ⟨_ | _ | _, t⟩ := outcome
  · exact hf _ t first.1 (first.2 (by simp))
  · exact hf _ t first.1 (first.2 (by simp))
  · exact ⟨first.1, fun ends => absurd rfl ends⟩

theorem update {g : σ → σ} (h : ∀ s, G s → P s → G (g s) ∧ Q (g s)) :
    Guards G P Q (Step.update g) :=
  fun s guarded hs => ⟨(h s guarded hs).1, fun _ => (h s guarded hs).2⟩

/-- A change of the state, and what comes after it. -/
theorem after {g : σ → σ} {x : Step σ α} (h : ∀ s, G s → P s → G (g s) ∧ Q (g s))
    (hx : Guards G Q R x) :
    Guards G P R (Step.update g >>= fun _ => x) := fun s guarded hs => hx (g s) (h s guarded hs).1
      (h s guarded hs).2

theorem look {f : σ → Step σ α} (hf : ∀ s, P s → Guards G P Q (f s)) :
    Guards G P Q (Step.current >>= f) :=
  fun s guarded hs => hf s hs s guarded hs

theorem leading {x : Step σ Unit} {y : Step σ α}
    (hx : Leads (fun s => G s ∧ P s) (fun s => G s ∧ P s) x) (hy : Guards G P Q y) :
    Guards G P Q (x >>= fun _ => y) := by
  intro s guarded hs
  obtain ⟨t, ended, guarded', ht⟩ := hx s ⟨guarded, hs⟩
  show G (Step.bind x (fun _ => y) s).2 ∧
    ((Step.bind x (fun _ => y) s).1 ≠ .unfinished → Q (Step.bind x (fun _ => y) s).2)
  rw [Step.bind_of_done ended]
  exact hy t guarded' ht

theorem of_leads {x : Step σ Unit} (h : Leads (fun s => G s ∧ P s) (fun s => G s ∧ Q s) x) :
    Guards G P Q x := by
  intro s guarded hs
  obtain ⟨t, ended, guarded', ht⟩ := h s ⟨guarded, hs⟩
  rw [ended]
  exact ⟨guarded', fun _ => ht⟩

theorem each {f : β → Step σ Unit} {bs : List β} (h : ∀ b ∈ bs, Guards G P P (f b)) :
    Guards G P P (Step.each f bs) := by
  induction bs with
  | nil => exact pure ()
  | cons b bs ih =>
    exact bind (h b List.mem_cons_self) fun _ => ih fun c hc => h c (List.mem_cons_of_mem b hc)

end Guards

/-! ### Steps that are made of others -/

/-- The steps that are made of certain calls, by looking at the state, failing, and going on after
an outcome. -/
inductive MadeOf (calls : Step σ Unit → Prop) : Step σ Unit → Prop where
  | call {x : Step σ Unit} (h : calls x) : MadeOf calls x
  | done : MadeOf calls (Step.pure ())
  | fail (e : Fault) : MadeOf calls (Step.fail e)
  | look {f : σ → Step σ Unit} (h : ∀ s, MadeOf calls (f s)) : MadeOf calls (Step.current >>= f)
  | next {x : Step σ Unit} {f : Except Fault Unit → Step σ Unit} (hx : MadeOf calls x)
    (hf : ∀ r, MadeOf calls (f r)) : MadeOf calls (x.attempt >>= f)

/-- To go on after a step is to go on after what becomes of it, unless it has failed. -/
theorem andThen_eq (x y : Step σ Unit) : (x >>= fun _ => y) = x.attempt >>= fun r => match r with
    | .ok _ => y
    | .error e => Step.fail e := by
  funext s
  show Step.bind x _ s = Step.bind x.attempt _ s
  simp only [Step.bind, Step.attempt]
  rcases x s with ⟨_ | _ | _, t⟩ <;> rfl

theorem MadeOf.andThen {calls : Step σ Unit → Prop} {x y : Step σ Unit} (hx : MadeOf calls x)
    (hy : MadeOf calls y) : MadeOf calls (x >>= fun _ => y) := by
  rw [andThen_eq]
  refine .next hx fun r => ?_
  cases r with
  | ok _ => exact hy
  | error e => exact .fail e

theorem MadeOf.keeps {calls : Step σ Unit → Prop} (h : ∀ x, calls x → Keeps I x) {x : Step σ Unit}
    (made : MadeOf calls x) : Keeps I x := by
  induction made with
  | call called => exact h _ called
  | done => exact Keeps.pure ()
  | fail e => exact Keeps.fail e
  | look _ ih => exact Keeps.look fun s _ => ih s
  | next _ _ hx hf => exact Keeps.bind hx.attempt hf

theorem MadeOf.guards {calls : Step σ Unit → Prop} {G P : σ → Prop}
    (h : ∀ x, calls x → Guards G P P x) {x : Step σ Unit} (made : MadeOf calls x) :
    Guards G P P x := by
  induction made with
  | call called => exact h _ called
  | done => exact .pure ()
  | fail e => exact .fail e
  | look _ ih => exact .look fun s _ => ih s
  | next _ _ hx hf => exact .attempting hx hf

theorem MadeOf.mono {calls more : Step σ Unit → Prop} (h : ∀ x, calls x → more x) {x : Step σ Unit}
    (made : MadeOf calls x) : MadeOf more x := by
  induction made with
  | call called => exact .call (h _ called)
  | done => exact .done
  | fail e => exact .fail e
  | look _ ih => exact .look ih
  | next _ _ hx hf => exact .next hx hf

end Step

end SceneCourse
