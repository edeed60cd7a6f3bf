import SceneCourse.Proofs.LoadedCourse
import SceneCourse.Proofs.RenamedCourse

/-! Sessions that are twins. One of them is ahead of the other: its counter, and with it all marks
and names that it has given, by some number; its log by some entries that came before; and its
stream by some lines. Everything that a session does comes to the same end in both, with results
that are the same up to the marks, and leaves them twins, as far ahead as before. -/

namespace SceneCourse

open Value (Edit)

variable {α β γ δ : Type}

/-! ### Steps in step -/

/-- Two endings are of one kind, with related results or with the same fault. -/
inductive Ending.Agree (Q : α → β → Prop) : Ending α → Ending β → Prop where
  | done {a : α} {b : β} (h : Q a b) : Agree Q (.done a) (.done b)
  | failed (e : Fault) : Agree Q (.failed e) (.failed e)
  | unfinished : Agree Q .unfinished .unfinished

theorem Ending.Agree.eq {x y : Ending α} (h : Agree Eq x y) : x = y := by
  cases h with
  | done same => rw [same]
  | failed e => rfl
  | unfinished => rfl

namespace Step

variable {σ τ : Type} {R : σ → τ → Prop} {Q : α → β → Prop} {Q' : γ → δ → Prop}

/-- From related states the steps come to ends that agree, in related states again. -/
def Agree (R : σ → τ → Prop) (Q : α → β → Prop) (x : Step σ α) (y : Step τ β) : Prop :=
  ∀ s t, R s t → (x s).1.Agree Q (y t).1 ∧ R (x s).2 (y t).2

namespace Agree

theorem pure {a : α} {b : β} (h : Q a b) :
    Agree R Q (Step.pure a : Step σ α) (Step.pure b : Step τ β) :=
  fun _ _ related => ⟨.done h, related⟩

theorem fail (e : Fault) : Agree R Q (Step.fail e : Step σ α) (Step.fail e : Step τ β) :=
  fun _ _ related => ⟨.failed e, related⟩

theorem unfinished : Agree R Q (Step.unfinished : Step σ α) (Step.unfinished : Step τ β) :=
  fun _ _ related => ⟨.unfinished, related⟩

theorem ofExcept (r : Except Fault α) :
    Agree R Eq (Step.ofExcept r : Step σ α) (Step.ofExcept r : Step τ α) := by
  cases r with
  | ok a => exact pure rfl
  | error e => exact fail e

theorem ofExcept_map {g : α → β} (r : Except Fault α) :
    Agree R (fun a b => b = g a) (Step.ofExcept r : Step σ α)
    (Step.ofExcept (r.map g) : Step τ β) := by
  cases r with
  | ok a => exact pure rfl
  | error e => exact fail e

theorem update {f : σ → σ} {g : τ → τ} (h : ∀ s t, R s t → R (f s) (g t)) :
    Agree R Eq (Step.update f) (Step.update g) :=
  fun s t related => ⟨.done rfl, h s t related⟩

theorem mono {P : α → β → Prop} {x : Step σ α} {y : Step τ β} (h : Agree R Q x y)
    (imp : ∀ a b, Q a b → P a b) : Agree R P x y := by
  intro s t related
  obtain ⟨ends, behind⟩ := h s t related
  refine ⟨?_, behind⟩
  generalize (x s).1 = r at ends ⊢
  generalize (y t).1 = r' at ends ⊢
  cases ends with
  | done h => exact .done (imp _ _ h)
  | failed e => exact .failed e
  | unfinished => exact .unfinished

theorem bind {x : Step σ α} {y : Step τ β} {f : α → Step σ γ} {g : β → Step τ δ}
    (hx : Agree R Q x y) (hf : ∀ a b, Q a b → Agree R Q' (f a) (g b)) :
    Agree R Q' (x >>= f) (y >>= g) := by
  intro s t related
  obtain ⟨ends, behind⟩ := hx s t related
  show (Step.bind x f s).1.Agree Q' (Step.bind y g t).1 ∧ R (Step.bind x f s).2 (Step.bind y g t).2
  rw [Step.bind, Step.bind]
  generalize x s = outcome at ends behind ⊢
  generalize y t = outcome' at ends behind ⊢
  obtain ⟨r, s⟩ := outcome
  obtain ⟨r', t⟩ := outcome'
  cases ends with
  | done h => exact hf _ _ h s t behind
  | failed e => exact ⟨.failed e, behind⟩
  | unfinished => exact ⟨.unfinished, behind⟩

/-- A step, and what comes after the same result. -/
theorem andThen {x : Step σ α} {y : Step τ α} {f : α → Step σ γ} {g : α → Step τ δ}
    (hx : Agree R Eq x y) (hf : ∀ a, Agree R Q' (f a) (g a)) : Agree R Q' (x >>= f) (y >>= g) := by
  refine bind hx fun a b same => ?_
  subst same
  exact hf a

/-- What comes after an answer may rely on which answer it was. -/
theorem answered_map {r : Except Fault α} {h : α → β} {f : α → Step σ γ} {g : β → Step τ δ}
    (hf : ∀ a, r = .ok a → Agree R Q' (f a) (g (h a))) :
    Agree R Q' (Step.ofExcept r >>= f) (Step.ofExcept (r.map h) >>= g) := by
  cases r with
  | ok a => exact hf a rfl
  | error e => exact fail e

theorem answered {r : Except Fault α} {f : α → Step σ γ} {g : α → Step τ δ}
    (hf : ∀ a, r = .ok a → Agree R Q' (f a) (g a)) :
    Agree R Q' (Step.ofExcept r >>= f) (Step.ofExcept r >>= g) := by
  cases r with
  | ok a => exact hf a rfl
  | error e => exact fail e

theorem look {f : σ → Step σ α} {g : τ → Step τ β} (h : ∀ s t, R s t → Agree R Q (f s) (g t)) :
    Agree R Q (Step.current >>= f) (Step.current >>= g) :=
  fun s t related => h s t related s t related

theorem attempt {x : Step σ α} {y : Step τ α} (hx : Agree R Eq x y) :
    Agree R Eq x.attempt y.attempt := by
  intro s t related
  obtain ⟨ends, behind⟩ := hx s t related
  rw [Step.attempt, Step.attempt]
  generalize x s = outcome at ends behind ⊢
  generalize y t = outcome' at ends behind ⊢
  obtain ⟨r, s⟩ := outcome
  obtain ⟨r', t⟩ := outcome'
  cases ends with
  | done h => exact ⟨.done (congrArg Except.ok h), behind⟩
  | failed e => exact ⟨.done rfl, behind⟩
  | unfinished => exact ⟨.unfinished, behind⟩

theorem each_map {f : α → Step σ Unit} {g : β → Step τ Unit} {h : α → β} {as : List α}
    (hf : ∀ a ∈ as, Agree R Eq (f a) (g (h a))) :
    Agree R Eq (Step.each f as) (Step.each g (as.map h)) := by
  induction as with
  | nil => exact pure rfl
  | cons a as ih =>
    exact andThen (hf a List.mem_cons_self) fun _ => ih fun b member =>
      hf b (List.mem_cons_of_mem a member)

theorem each {f : α → Step σ Unit} {g : α → Step τ Unit} {as : List α}
    (hf : ∀ a ∈ as, Agree R Eq (f a) (g a)) : Agree R Eq (Step.each f as) (Step.each g as) := by
  have mapped := each_map (h := id) hf
  rwa [List.map_id] at mapped

end Agree

end Step

/-! ### Twins -/

/-- How far a session is ahead of its twin. -/
structure Lead where
  up : Nat
  entries : List LogEntry := []
  lines : List String := []
  silent : ∀ e ∈ entries, e.data = .null := by simp

theorem Lead.map_eq_self {a : Lead} {before : List LogEntry} (suffix : before <:+ a.entries)
    {f : LogEntry → LogEntry} (same : ∀ e, e.data = .null → f e = e) : before.map f = before := by
  rw [List.map_congr_left (g := id), List.map_id]
  exact fun e member => same e (a.silent e (suffix.subset member))

/-- A log that is ahead of another one, unless the entries that came before have left it. -/
structure RunLog.Twin (a : Lead) (l m : RunLog) : Prop where
  capacity : m.capacity = l.capacity
  verbose : m.verbose = l.verbose
  entries : ∃ before, before <:+ a.entries ∧ m.entries =
    before ++ l.entries.map (LogEntry.renamed a.up)
  lines : m.lines = a.lines ++ l.lines

namespace RunLog

variable {a : Lead} {l m : RunLog}

theorem Twin.reachesStream (h : Twin a l m) (e : LogEntry) :
    m.reachesStream (e.renamed a.up) = l.reachesStream e := by
  rw [RunLog.reachesStream, h.verbose]
  rfl

theorem Twin.outcome (h : Twin a l m) (e : LogEntry) :
    m.outcome (e.renamed a.up) = l.outcome e := by
  rw [RunLog.outcome, h.reachesStream, LogEntry.line_renamed]
  rfl

/-- Where there is no room for an entry, the entries that came before leave first. -/
theorem window_append_of_suffix {old before : List LogEntry} (suffix : before <:+ old)
    (capacity : Option Nat) (es : List LogEntry) :
    ∃ rest, rest <:+ old ∧ window capacity (before ++ es) = rest ++ window capacity es := by
  cases capacity with
  | none => exact ⟨before, suffix, rfl⟩
  | some n =>
    refine ⟨before.drop ((before ++ es).length - n), (List.drop_suffix _ _).trans suffix, ?_⟩
    have room : (before ++ es).length - n - before.length = es.length - n := by
      rw [List.length_append]
      omega
    rw [window, window, List.drop_append, room]

theorem window_map (f : LogEntry → LogEntry) (capacity : Option Nat) (es : List LogEntry) :
    window capacity (es.map f) = (window capacity es).map f := by
  cases capacity with
  | none => rfl
  | some n => simp [window, List.map_drop]

namespace Twin

theorem add (h : Twin a l m) (e : LogEntry) : Twin a (l.add e) (m.add (e.renamed a.up)) where
  capacity := h.capacity
  verbose := h.verbose
  entries := by
    obtain ⟨before, suffix, entries⟩ := h.entries
    obtain ⟨rest, suffix', window⟩ := window_append_of_suffix suffix l.capacity
      ((l.entries ++ [e]).map (LogEntry.renamed a.up))
    refine ⟨rest, suffix', ?_⟩
    rw [RunLog.add, RunLog.add, h.capacity, entries, List.append_assoc]
    rw [List.map_append] at window
    rw [← window_map, List.map_append]
    exact window
  lines := by
    simp only [RunLog.add, h.reachesStream, LogEntry.line_renamed, h.lines]
    split
    next => exact List.append_assoc _ _ _
    next => rfl

theorem addAll (h : Twin a l m) (es : List LogEntry) :
    Twin a (l.addAll es) (m.addAll (es.map (LogEntry.renamed a.up))) := by
  induction es generalizing l m with
  | nil => exact h
  | cons e es ih => exact ih (h.add e)

theorem follow (h : Twin a l m) (edit : Edit) :
    Twin a (l.follow edit) (m.follow (edit.renamed a.up)) where
  capacity := h.capacity
  verbose := h.verbose
  entries := by
    obtain ⟨before, suffix, entries⟩ := h.entries
    refine ⟨before, suffix, ?_⟩
    have silent : before.map (LogEntry.follow (edit.renamed a.up)) = before :=
        Lead.map_eq_self suffix fun e null => by
      rw [LogEntry.follow, null]
      exact congrArg (fun data => { e with data }) null.symm
    rw [RunLog.follow, RunLog.follow, entries, List.map_append, silent, List.map_map, List.map_map]
    exact congrArg _ (List.map_congr_left fun e _ => LogEntry.follow_renamed edit e)
  lines := h.lines

theorem clear (h : Twin a l m) : Twin a l.clear m.clear where
  capacity := h.capacity
  verbose := h.verbose
  entries := ⟨[], List.nil_suffix, rfl⟩
  lines := h.lines

end Twin

end RunLog

namespace Session

variable {η : Type}

/-- A session that is ahead of another one and does not differ from it otherwise, but for the
history. -/
structure Twin (a : Lead) (s t : Session η) : Prop where
  limits : t.limits = s.limits
  store : t.store = s.store.renamed a.up
  later : 2 < s.store.next
  log : RunLog.Twin a s.log t.log
  diagnosed : t.diagnosed = s.diagnosed
  byKind : t.bus.byKind = s.bus.byKind
  forAll : t.bus.forAll = s.bus.forAll
  course : t.course = s.course.map (Course.mapValues (Value.renamed a.up))
  scene : t.scene = s.scene
  triggers : t.triggers = s.triggers.map (Trigger.mapValues (Value.renamed a.up))
  written : t.written = s.written.map (Edit.renamed a.up)
  host : t.host = s.host

/-- The steps come to ends that agree, whenever they are taken in twins, and leave them twins. -/
abbrev Agree (a : Lead) (Q : α → β → Prop) (x : Step (Session η) α) (y : Step (Session η) β) :
    Prop :=
  Step.Agree (Twin a) Q x y

variable {a : Lead} {s t : Session η}

namespace Twin

theorem addEntry (h : Twin a s t) (e : LogEntry) :
    Twin a (s.addEntry e) (t.addEntry (e.renamed a.up)) :=
  { h with log := h.log.add e }

theorem addLine (h : Twin a s t) (line : String) : Twin a (s.addLine line) (t.addLine line) := by
  have lines : t.log.lines ++ [line] = a.lines ++ (s.log.lines ++ [line]) := by
    rw [h.log.lines, List.append_assoc]
  exact { h with log := { h.log with lines } }

/-- A change of the state that both make, with everything that follows. -/
theorem commit (h : Twin a s t) {store : Store} (later : 2 < store.next) (edits : List Edit) :
    Twin a (s.commit store edits)
    (t.commit (store.renamed a.up) (edits.map (Edit.renamed a.up))) where
  limits := h.limits
  store := rfl
  later := later
  log := by
    have followed (edits : List Edit) (l m : RunLog) (twin : RunLog.Twin a l m) :
        RunLog.Twin a (edits.foldl (fun log e => log.follow e) l)
          ((edits.map (Edit.renamed a.up)).foldl (fun log e => log.follow e) m) := by
      induction edits generalizing l m with
      | nil => exact twin
      | cons e edits ih => exact ih _ _ (twin.follow e)
    exact followed edits s.log t.log h.log
  diagnosed := h.diagnosed
  byKind := h.byKind
  forAll := h.forAll
  course := by
    simp only [Session.commit, h.course, Option.map_map]
    refine congrArg (fun f => s.course.map f)
      (funext fun c => Course.mapVars_mapValues (fun v => ?_) c)
    show (if store.shared then _ else _) = _
    split
    next => rw [Value.followAll_renamed, Value.tie_renamed]
    next => rw [Value.followAll_renamed]
  scene := h.scene
  triggers := h.triggers
  written := by
    show (if store.shared then _ else _) = List.map _ (if store.shared then _ else _)
    split
    next => rw [h.written, List.map_append]
    next => exact h.written
  host := h.host

end Twin

/-! ### Elementary steps -/

theorem agree_write (level : Level) (category : Category) (message : String) (data : Value) :
    Agree a Eq (write level category message data : Step (Session η) Unit)
      (write level category message (data.renamed a.up)) := by
  intro s t twin
  let e : LogEntry := { level, category, message, data }
  show (Step.ofExcept (s.log.outcome e) (s.addEntry e)).1.Agree Eq
      (Step.ofExcept (t.log.outcome (e.renamed a.up)) (t.addEntry (e.renamed a.up))).1 ∧
    Twin a (Step.ofExcept (s.log.outcome e) (s.addEntry e)).2
      (Step.ofExcept (t.log.outcome (e.renamed a.up)) (t.addEntry (e.renamed a.up))).2
  rw [twin.log.outcome e]
  exact Step.Agree.ofExcept _ _ _ (twin.addEntry e)

theorem agree_write_object (level : Level) (category : Category) (message : String)
    (fields : List (String × Value)) :
    Agree a Eq (write level category message (.object fields) : Step (Session η) Unit)
      (write level category message (.object (mapFields (Value.renamed a.up) fields))) := by
  have agree := agree_write (η := η) (a := a) level category message (.object fields)
  rwa [Value.object_renamed] at agree

/-- What is written to the log without data marked by a session. -/
theorem agree_write_fresh (level : Level) (category : Category) (message : String) {data : Value}
    (fresh : data.Fresh) :
    Agree a Eq (write level category message data : Step (Session η) Unit)
    (write level category message data) := by
  have agree := agree_write (η := η) (a := a) level category message data
  rwa [fresh] at agree

theorem agree_note (level : Level) (category : Category) (message : String) :
    Agree a Eq (write level category message : Step (Session η) Unit)
    (write level category message) :=
  agree_write level category message .null

theorem agree_chronicle (o o' : Session η → Occurrence) :
    Agree a Eq (Step.update fun s : Session η => s.chronicle (o s))
    (Step.update fun s => s.chronicle (o' s)) :=
  .update fun _ _ twin => { twin with }

theorem agree_moved (m m' : Move) :
    Agree a Eq (Step.update fun s : Session η => s.moved m) (Step.update fun s => s.moved m') :=
  .update fun _ _ twin => { twin with }

theorem Twin.refresh (h : Twin a s t) (v : Value) :
    t.refresh (v.renamed a.up) = (s.refresh v).renamed a.up := by
  rw [Session.refresh, Session.refresh, h.written, List.isEmpty_map]
  split
  next => rfl
  next => rw [Value.followAll_renamed, Value.tie_renamed]

theorem agree_current_value (v : Value) :
    Agree a (fun v w => w = v.renamed a.up) (current v : Step (Session η) Value)
    (current (v.renamed a.up)) :=
  fun _ _ twin => ⟨.done (twin.refresh v), twin⟩

theorem agree_ask {g : α → β} {question : Store → Limits → Noted α}
    {question' : Store → Limits → Noted β}
    (same : ∀ store limits, question' (store.renamed a.up) limits =
      (question store limits).renamed a.up g) :
    Agree a (fun x y => y = g x) (ask question : Step (Session η) α) (ask question') := by
  intro s t twin
  have answers : question' t.store t.limits = (question s.store s.limits).renamed a.up g := by
    rw [twin.store, twin.limits, same]
  rw [ask, ask, answers]
  exact Step.Agree.ofExcept_map _ _ _ { twin with log := twin.log.addAll _ }

/-! ### Changes of the state -/

theorem agree_setCopy (path : String) (v : Value) :
    Agree a (fun v w => w = v.renamed a.up) (setCopy path v : Step (Session η) Value)
    (setCopy path (v.renamed a.up)) := by
  intro s t twin
  have taken := Store.adopt_renamed (k := a.up) twin.later v
  have later : 2 < (s.store.adopt v).2.next := Nat.lt_of_lt_of_le twin.later (Store.le_adopt _ _)
  have written := Store.set_renamed (k := a.up) (Nat.zero_lt_of_lt later) path (s.store.adopt v).1
  simp only [setCopy, twin.store, taken, written]
  exact ⟨.done rfl, twin.commit (Nat.lt_of_lt_of_le later (Store.le_set _ _ _)) _⟩

theorem agree_sow (tier name : String) (v : Value) :
    Agree a Eq (sow tier name v : Step (Session η) Unit) (sow tier name (v.renamed a.up)) := by
  refine Step.Agree.update fun s t twin => ?_
  have written := Store.set_renamed (k := a.up) (Nat.zero_lt_of_lt twin.later)
    s!"{tier}.vars.{name}" v
  have committed := twin.commit (Nat.lt_of_lt_of_le twin.later
    (Store.le_set s.store s!"{tier}.vars.{name}" v))
    (s.store.set s!"{tier}.vars.{name}" v).2
  simp only [twin.store, written]
  exact { committed with }

theorem agree_setNode (id : String) (v : Value) :
    Agree a Eq (setNode id v : Step (Session η) Unit) (setNode id (v.renamed a.up)) := by
  intro s t twin
  have taken := Store.adopt_renamed (k := a.up) twin.later v
  have later : 2 < (s.store.adopt v).2.next := Nat.lt_of_lt_of_le twin.later (Store.le_adopt _ _)
  have written := Store.setNodeState_renamed (k := a.up) (Nat.zero_lt_of_lt later) id
    (s.store.adopt v).1
  simp only [setNode, twin.store, taken, written]
  cases done : (s.store.adopt v).2.setNodeState id (s.store.adopt v).1 with
  | error e => exact ⟨.failed e, twin⟩
  | ok w => exact ⟨.done rfl, twin.commit (Store.next_setNodeState done ▸ later) _⟩

theorem agree_updateNode (id : String) (updates : Value) :
    Agree a Eq (updateNode id updates : Step (Session η) Unit)
    (updateNode id (updates.renamed a.up)) := by
  intro s t twin
  rw [updateNode, updateNode, twin.store, Store.adoptUpdates_renamed twin.later]
  cases done : s.store.adoptUpdates id updates with
  | error e => exact ⟨.failed e, twin⟩
  | ok answer =>
    obtain ⟨store, edits, fault⟩ := answer
    have later := Nat.lt_of_lt_of_le twin.later (Store.le_adoptUpdates done)
    cases fault with
    | none => exact ⟨.done rfl, twin.commit later edits⟩
    | some e => exact ⟨.failed e, twin.commit later edits⟩

theorem agree_seed (tier : String) {vars : Session η → List (String × Value)}
    (same : ∀ s t, Twin a s t → vars t = mapFields (Value.renamed a.up) (vars s)) :
    Agree a Eq (seed tier vars) (seed tier vars) := by
  intro s t twin
  have names : (vars t).map Prod.fst = (vars s).map Prod.fst := by rw [same s t twin, fst_mapFields]
  rw [seed, seed, names]
  refine Step.Agree.each (fun name _ => Step.Agree.look fun s t twin => ?_) s t twin
  rw [same s t twin, lookup_mapFields]
  cases (vars s).lookup name with
  | none => exact .pure rfl
  | some v => exact agree_sow tier name v

/-! ### Actions -/

/-- Numbers to add to that are the same once something is added. -/
theorem agree_addend (v : Value) :
    Agree a (fun p q => q.2 = p.2 ∧ ∀ amount, q.1.add amount = p.1.add amount)
    (Step.ofExcept (addend v) : Step (Session η) (Amount × Bool))
    (Step.ofExcept (addend (v.renamed a.up))) := by
  have same (r : Except Fault (Amount × Bool)) :
      Agree a (fun p q => q.2 = p.2 ∧ ∀ amount, q.1.add amount = p.1.add amount)
        (Step.ofExcept r : Step (Session η) (Amount × Bool)) (Step.ofExcept r) := by
    refine (Step.Agree.ofExcept r).mono fun p q same => ?_
    subst same
    exact ⟨rfl, fun _ => rfl⟩
  cases v with
  | float x =>
    refine .pure ⟨rfl, fun amount => ?_⟩
    cases amount with
    | int n => simp only [Amount.add, Binary64.add_renamed_left]
    | float y => simp only [Amount.add, Binary64.add_renamed_left]
  | list m xs => exact same _
  | map m es => exact same _
  | set ks => exact same _
  | pair a b => exact same _
  | again m b => exact same _
  | _ => exact same _

theorem fresh_sum {base amount sum : Amount} (added : base.add amount = .ok sum) :
    sum.value.Fresh := by
  have fresh (x y : Binary64) : (Amount.float (x.add y)).value.Fresh := fun k => by
    rw [Amount.value, Value.renamed, Binary64.renamed_add]
  cases base with
  | int n =>
    cases amount with
    | int m =>
      obtain rfl := Except.ok.inj added
      exact fun _ => rfl
    | float y =>
      simp only [Amount.add] at added
      split at added
      next =>
        obtain rfl := Except.ok.inj added
        exact fresh _ _
      next => cases added
  | float x =>
    cases amount with
    | int m =>
      simp only [Amount.add] at added
      split at added
      next =>
        obtain rfl := Except.ok.inj added
        exact fresh _ _
      next => cases added
    | float y =>
      obtain rfl := Except.ok.inj added
      exact fresh _ _

theorem agree_increment (path : String) (amount : Amount) :
    Agree a Eq (increment path amount : Step (Session η) Unit) (increment path amount) := by
  refine .bind (Q := fun v w => w = v.renamed a.up)
    (.look fun s t twin => ?_) fun old old' renamed => ?_
  · rw [twin.store, Store.get_renamed]
    exact .ofExcept_map _
  subst renamed
  refine .bind (agree_addend old) fun (base, foreign) (base', foreign') same => ?_
  obtain ⟨same, adds⟩ := same
  simp only at same adds
  subst same
  have rest : Agree a Eq (do
      let sum ← Step.ofExcept (base.add amount)
      let written ← setCopy path sum.value
      let added ← Step.ofExcept amount.value.told
      write .debug .state s!"Incremented {path} by {added}" (.object [("value", written)]) :
          Step (Session η) Unit) (do
      let sum ← Step.ofExcept (base'.add amount)
      let written ← setCopy path sum.value
      let added ← Step.ofExcept amount.value.told
      write .debug .state s!"Incremented {path} by {added}" (.object [("value", written)])) := by
    rw [adds]
    refine .answered fun sum added => ?_
    have copied := agree_setCopy (η := η) (a := a) path sum.value
    rw [fresh_sum added] at copied
    refine .bind copied fun written written' renamed => ?_
    subst renamed
    refine .andThen (.ofExcept _) fun added => ?_
    exact agree_write_object .debug .state s!"Incremented {path} by {added}" [("value", written)]
  cases foreign' with
  | false => exact rest
  | true => exact .andThen (agree_write_object .warn .state _ [("value", old)]) fun _ => rest

theorem agree_assign (path : String) (v : Value) :
    Agree a Eq (assign path v : Step (Session η) Unit) (assign path (v.renamed a.up)) := by
  refine .bind (agree_current_value v) fun v w renamed => ?_
  subst renamed
  refine .bind (agree_ask fun store _ => Store.resolve_renamed store v)
    fun found found' renamed => ?_
  subst renamed
  refine .bind (agree_setCopy path found) fun written written' renamed => ?_
  subst renamed
  exact agree_write_object .debug .state _ [("value", written)]

/-- The callbacks come to ends that agree in twins. They may see what they are given, but not the
marks of it. -/
structure AgreeOn (a : Lead) (cb : Callbacks η) : Prop where
  goto : ∀ call, cb.goto = some call → ∀ id, Agree a Eq (call id) (call id)
  present : ∀ call, cb.present = some call → ∀ r, Agree a Eq (call r) (call (r.renamed a.up))

variable {cb : Callbacks η}

theorem agree_present (blind : AgreeOn a cb) (kind : UiKind) (text : String)
    (extras : List (String × Value)) :
    Agree a Eq (present cb kind text extras)
    (present cb kind text (mapFields (Value.renamed a.up) extras)) := by
  refine .bind (Q := fun fields fields' => fields' = mapFields (Value.renamed a.up) fields) ?_
    fun extras _ renamed => ?_
  · refine .look fun s t twin => .pure ?_
    exact mapFields_comm twin.refresh extras
  subst renamed
  refine .bind (agree_ask fun store limits => request_renamed store kind text extras limits)
    fun r r' renamed => ?_
  subst renamed
  cases hc : cb.present with
  | none => exact agree_note _ _ _
  | some call => exact blind.present call hc r

theorem agree_leaveFor (blind : AgreeOn a cb) (sceneId : String) :
    Agree a Eq (leaveFor cb sceneId) (leaveFor cb sceneId) := by
  unfold leaveFor
  cases hc : cb.goto with
  | none => exact agree_note _ _ _
  | some call => exact blind.goto call hc sceneId

mutual

theorem agree_execute (blind : AgreeOn a cb) (action : Action) :
    Agree a Eq (execute cb action) (execute cb (action.mapValues (Value.renamed a.up))) := by
  have announced (tag : String) : Agree a Eq (announce tag : Step (Session η) Unit)
      (announce tag) := agree_note _ _ _
  cases action with
  | gotoScene sceneId _ => exact .andThen (announced _) fun _ => agree_leaveFor blind sceneId
  | setVar path value => exact .andThen (announced _) fun _ => agree_assign path value
  | incVar path amount => exact .andThen (announced _) fun _ => agree_increment path amount
  | addScore value => exact .andThen (announced _) fun _ => agree_increment scorePath value
  | toast text extras =>
    exact .andThen (announced _) fun _ => agree_present blind .toast text extras
  | modal text extras =>
    exact .andThen (announced _) fun _ => agree_present blind .modal text extras
  | resetNode nodeId => exact .andThen (announced _) fun _ => agree_setNode nodeId .emptyMap
  | delay _ => exact announced _
  | sequence actions => exact .andThen (announced _) fun _ => agree_executeAll blind actions
  | parallel actions => exact .andThen (announced _) fun _ => agree_executeAll blind actions
  | unknown tag params =>
    refine .andThen (announced _) fun _ => ?_
    have held := agree_current_value (η := η) (a := a) (.object params)
    rw [Value.object_renamed] at held
    refine .bind held fun v w renamed => ?_
    subst renamed
    exact agree_write _ _ _ v

theorem agree_executeAll (blind : AgreeOn a cb) (actions : List Action) :
    Agree a Eq (executeAll cb actions)
    (executeAll cb (Action.mapAllValues (Value.renamed a.up) actions)) := by
  cases actions with
  | nil => exact .pure rfl
  | cons action actions =>
    exact .andThen (agree_execute blind action) fun _ => agree_executeAll blind actions

end

/-! ### Triggers -/

theorem agree_weigh (trigger : Trigger) : Agree a Eq (weigh trigger : Step (Session η) Bool)
    (weigh (trigger.mapValues (Value.renamed a.up))) := by
  unfold weigh
  rw [Trigger.mapValues]
  cases trigger.conditions with
  | none => exact .pure rfl
  | some cs =>
    refine .look fun s t twin => ?_
    have held := Condition.mapAllValues_comm twin.refresh cs
    show Step.Agree _ _ (_ >>= _) (_ >>= _)
    rw [held]
    generalize Condition.mapAllValues s.refresh cs = cs
    refine .bind (agree_ask fun store limits => Store.allHold_renamed store limits.condition 0 cs)
      ?_
    rintro held _ rfl
    have records : ((Condition.mapAllValues (Value.renamed a.up) cs).mapM fun c => c.dump.record) =
        cs.mapM fun c => c.dump.record := by
      simp only [Condition.mapAllValues_eq_map, List.mapM_map, Function.comp_def,
        Condition.dump_renamed,
        Value.record_renamed]
    rw [records]
    refine .answered fun records recorded => ?_
    refine .andThen (agree_write_fresh _ _ _ fun k => ?_) fun _ => .pure rfl
    rw [Value.object_renamed, mapFields_cons, Value.ofList_renamed,
      Value.map_renamed_of_mapM (fun _ _ => Value.renamed_of_recorded) recorded]
    rfl

theorem agree_runBranch {cb : Callbacks η} (blind : AgreeOn a cb) (trigger : Trigger)
    (holds : Bool) :
    Agree a Eq (runBranch cb trigger holds)
    (runBranch cb (trigger.mapValues (Value.renamed a.up)) holds) := by
  have length (as : List Action) : (Action.mapAllValues (Value.renamed a.up) as).length =
      as.length := by
    induction as with
    | nil => rfl
    | cons action as ih => rw [Action.mapAllValues, List.length_cons, ih, List.length_cons]
  have branch (name : String) (as : List Action) : Agree a Eq (do
      write .info .action s!"Executing {name} actions ({as.length})"
      executeAll cb as) (do
      write .info .action
        s!"Executing {name} actions ({(Action.mapAllValues (Value.renamed a.up) as).length})"
      executeAll cb (Action.mapAllValues (Value.renamed a.up) as)) := by
    rw [length]
    exact .andThen (agree_note _ _ _) fun _ => agree_executeAll blind as
  obtain ⟨on, conditions, consequent, alternative, extras⟩ := trigger
  cases holds with
  | true => exact branch "THEN" consequent
  | false =>
    cases alternative with
    | none => exact .pure rfl
    | some as => exact branch "ELSE" as

theorem fresh_summary (e : Event) : e.summary.Fresh := by
  intro k
  rw [Event.summary, Value.object_renamed]
  cases e.target <;> rfl

theorem agree_fire {cb : Callbacks η} (blind : AgreeOn a cb) (e : Event) (index : Nat)
    (trigger : Trigger) :
    Agree a Eq (fire cb e index trigger)
    (fire cb e index (trigger.mapValues (Value.renamed a.up))) := by
  refine .andThen (agree_moved _ _) fun _ =>
    .andThen (agree_write_fresh _ _ _ (fresh_summary e)) fun _ => ?_
  exact .andThen (agree_weigh trigger) fun holds => agree_runBranch blind trigger holds

theorem matching_renamed (e : Event) (triggers : List Trigger) :
    matching e (triggers.map (Trigger.mapValues (Value.renamed a.up))) =
      (matching e triggers).map fun p => (p.1, p.2.mapValues (Value.renamed a.up)) := by
  simp only [matching, List.zipIdx_map, List.map_map, List.filter_map]
  rfl

theorem agree_handle {cb : Callbacks η} (blind : AgreeOn a cb) (e : Event)
    (triggers : List Trigger) :
    Agree a Eq (handle cb e triggers)
    (handle cb e (triggers.map (Trigger.mapValues (Value.renamed a.up)))) := by
  unfold handle
  simp only [matching_renamed, List.length_map]
  exact .andThen (.each_map fun p _ => agree_fire blind e p.1 p.2) fun _ => .pure rfl

/-! ### Scenes -/

theorem agree_refuseScene (name : String) :
    Agree a Eq (refuseScene name : Step (Session η) Unit) (refuseScene name) := by
  refine .andThen (agree_note _ _ _) fun _ => .andThen (.update fun s t twin => ?_) fun _ => .fail _
  exact { twin with }

theorem Twin.sceneVars (h : Twin a s t) (id : String) :
    sceneVars id t = mapFields (Value.renamed a.up) (sceneVars id s) := by
  rw [Session.sceneVars, Session.sceneVars, h.course]
  cases s.course with
  | none => rfl
  | some c =>
    simp only [Option.map_some, Option.bind_some, Course.scene?_mapValues]
    cases c.scene? id <;> rfl

theorem Twin.globalVars (h : Twin a s t) :
    globalVars t = mapFields (Value.renamed a.up) (globalVars s) := by
  rw [Session.globalVars, Session.globalVars, h.course]
  cases s.course <;> rfl

theorem agree_activate (id : String) (scene : Scene) (anew : Bool) :
    Agree a Eq (activate id scene anew : Step (Session η) Unit)
      (activate id (scene.mapValues (Value.renamed a.up)) anew) := by
  have armed : Agree a Eq (do
      Step.update ({ · with triggers := scene.triggers })
      write .debug .event s!"Active trigger set replaced ({scene.triggers.length} triggers)" :
          Step (Session η) Unit) (do
      Step.update ({ · with triggers := (scene.mapValues (Value.renamed a.up)).triggers })
      write .debug .event
        s!"Active trigger set replaced ({(scene.mapValues (Value.renamed a.up)).triggers.length} triggers)") := by
    have length : (scene.mapValues (Value.renamed a.up)).triggers.length = scene.triggers.length :=
      List.length_map _
    rw [length]
    exact .andThen (.update fun s t twin => { twin with triggers := rfl }) fun _ => agree_note _ _ _
  refine .andThen (agree_note _ _ _) fun _ =>
    .andThen (.update fun s t twin => { twin with scene := rfl }) fun _ => ?_
  cases anew with
  | true =>
    refine .andThen (.update fun s t twin => ?_) fun _ =>
      .andThen (agree_seed "scene" fun s t twin => twin.sceneVars id)
      fun _ => armed
    have store : t.store.resetScene = s.store.resetScene.renamed a.up := by
      rw [twin.store, Store.resetScene_renamed (Nat.zero_lt_of_lt twin.later)]
    exact { twin with store, later := Nat.lt_of_lt_of_le twin.later (Nat.le_add_right _ 3) }
  | false => exact .andThen (agree_note _ _ _) fun _ => armed

theorem agree_enterScene (id : String) :
    Agree a Eq (enterScene id : Step (Session η) Unit) (enterScene id) := by
  refine .look fun s t twin => ?_
  rw [twin.course, twin.scene]
  cases s.course with
  | none => exact .fail _
  | some c =>
    simp only [Option.map_some, Course.scene?_mapValues]
    cases c.scene? id with
    | none => exact agree_refuseScene id
    | some scene => exact agree_activate id scene _

/-! ### What is asked of a session -/

section

variable {host : Host η} {emit : Emitter η}

theorem agree_gotoScene
    (called : ∀ call, host.onScene = some call → ∀ id, Agree a Eq (call emit id) (call emit id))
    (emitted : ∀ e, Agree a Eq (emit e) (emit e)) (id : String) :
    Agree a Eq (gotoScene host emit id) (gotoScene host emit id) := by
  have arrives : Agree a Eq (do Step.update (·.moved (.arrives id)); emit (.sceneEnter id))
      (do Step.update (·.moved (.arrives id)); emit (.sceneEnter id)) :=
        .andThen (agree_moved _ _) fun _ => emitted _
  refine .andThen (agree_enterScene id) fun _ => ?_
  cases hc : host.onScene with
  | none => exact arrives
  | some call => exact .andThen (called call hc id) fun _ => arrives

theorem agree_gotoNamed
    (called : ∀ call, host.onScene = some call → ∀ id, Agree a Eq (call emit id) (call emit id))
    (emitted : ∀ e, Agree a Eq (emit e) (emit e)) (scene : Value) :
    Agree a Eq (gotoNamed host emit scene) (gotoNamed host emit scene) := by
  have refused : Agree a Eq (do
      let s ← Step.current
      if s.course.isNone then Step.fail (.noCourse false)
          else refuseScene scene.shown : Step (Session η) Unit) (do
      let s ← Step.current
      if s.course.isNone then Step.fail (.noCourse false) else refuseScene scene.shown) := by
    refine .look fun s t twin => ?_
    rw [twin.course, Option.isNone_map]
    split
    next => exact .fail _
    next => exact agree_refuseScene _
  cases scene with
  | str id => exact agree_gotoScene called emitted id
  | _ => exact refused

theorem agree_reportState
    (called : ∀ call, host.onState = some call → ∀ v,
      Agree a Eq (call emit v) (call emit (v.renamed a.up)))
    (cause : Option Event) :
    Agree a Eq (reportState host emit cause) (reportState host emit cause) := by
  unfold reportState
  cases hc : host.onState with
  | none => exact .pure rfl
  | some call =>
    refine .look fun s t twin => .andThen (agree_chronicle _ _) fun _ => ?_
    rw [twin.store]
    exact called call hc s.store.root

theorem agree_changeNode
    (called : ∀ call, host.onState = some call → ∀ v,
      Agree a Eq (call emit v) (call emit (v.renamed a.up)))
    (id : String) (updates : Value) :
    Agree a Eq (changeNode host emit id updates) (changeNode host emit id (updates.renamed a.up)) :=
  .andThen (agree_updateNode id updates) fun _ => agree_reportState called none

theorem agree_start
    (called : ∀ call, host.onScene = some call → ∀ id, Agree a Eq (call emit id) (call emit id))
    (emitted : ∀ e, Agree a Eq (emit e) (emit e)) (scene : Option String) (snapshot : Value) :
    Agree a Eq (start host emit scene snapshot)
    (start host emit scene (snapshot.renamed a.up)) := by
  have entered (id : String) : Agree a Eq (do
      write .info .scene s!"Starting course from scene: {id}"
      gotoScene host emit id) (do
      write .info .scene s!"Starting course from scene: {id}"
      gotoScene host emit id) := .andThen (agree_note _ _ _) fun _ => agree_gotoScene
        called emitted id
  refine .look fun s t twin => ?_
  rw [twin.course]
  cases s.course with
  | none => exact .fail _
  | some c =>
    simp only [Option.map_some, Value.truthy_renamed]
    by_cases resumed : snapshot.truthy = true
    · simp only [if_pos resumed]
      rw [twin.store, Store.restore_renamed (Nat.zero_lt_of_lt twin.later)]
      refine .answered_map fun store restored =>
        .andThen (.update fun s' t' twin' => ?_) fun _ => entered _
      exact { twin' with store := rfl, later :=
        Nat.lt_of_lt_of_le twin.later (Store.le_restore restored) }
    · simp only [if_neg resumed]
      exact entered _

end

theorem agree_loadCourse {c : Course} (fresh : c.Fresh) :
    Agree a Eq (loadCourse c : Step (Session η) Unit) (loadCourse c) := by
  refine .andThen (agree_note _ _ _) fun _ => .andThen (.update fun s t twin => ?_) fun _ =>
    agree_seed "globals" fun s t twin => twin.globalVars
  have taken := adoptCourse_renamed (k := a.up) fresh twin.later
  simp only [twin.store]
  rw [Store.next_renamed, taken]
  exact { twin with
    course := rfl
    store := rfl
    later := Nat.lt_of_lt_of_le twin.later (le_adoptCourse _ _) }

theorem agree_reset : Agree a Eq (reset : Step (Session η) Unit) reset := by
  refine .andThen (agree_note _ _ _) fun _ => .update fun s t twin => ?_
  exact { twin with
    store := by rw [twin.store, Store.reset_renamed (Nat.zero_lt_of_lt twin.later)]
    later := Nat.lt_of_lt_of_le twin.later (Nat.le_add_right _ 5)
    log := twin.log.clear
    byKind := rfl
    forAll := rfl
    course := rfl
    scene := rfl
    triggers := rfl
    written := rfl }

theorem agree_destroy : Agree a Eq (destroy : Step (Session η) Unit) destroy :=
  .andThen agree_reset fun _ => agree_note _ _ _

theorem mappingAt_renamed (k : Nat) (es : List (Key × Value)) (name : String) :
    mappingAt (Value.renamedEntries k es) name = (mappingAt es name).map
      (Value.renamedEntries k) := by
  rw [mappingAt, mappingAt, Value.get?_str_renamedEntries]
  cases Entries.get? (.str name) es with
  | none => rfl
  | some v =>
    simp only [Option.map_some, Option.getD_some, Value.truthy_renamed]
    split
    next => rfl
    next =>
      cases v with
      | again m b => cases b <;> rfl
      | _ => rfl

theorem varsAt_renamed (k : Nat) (es : List (Key × Value)) (name : String) :
    varsAt (Value.renamedEntries k es) name = (varsAt es name).map (Value.renamedEntries k) := by
  rw [varsAt, varsAt, mappingAt_renamed]
  cases mappingAt es name with
  | error e => rfl
  | ok tier =>
    simp only [Except.map, bind, Except.bind, Value.get?_str_renamedEntries]
    cases Entries.get? (.str "vars") tier with
    | none => rfl
    | some v =>
      cases v with
      | again m b => cases b <;> rfl
      | _ => rfl

theorem agree_mergeVars (es : List (Key × Value)) (tier : String) :
    Agree a Eq (mergeVars es tier : Step (Session η) Unit)
    (mergeVars (Value.renamedEntries a.up es) tier) := by
  rw [mergeVars, mergeVars, varsAt_renamed]
  refine .answered_map fun vars _ => ?_
  rw [Store.renamedEntries_eq_map]
  refine .each_map fun p _ => ?_
  obtain ⟨l, v⟩ := p
  simp only [Store.renamedPair, Value.value_renamed, Value.shown_renamed]
  exact .bind (agree_setCopy _ v) fun _ _ _ => .pure rfl

theorem agree_setState (state : Value) :
    Agree a Eq (setState state : Step (Session η) Unit) (setState (state.renamed a.up)) := by
  cases state with
  | map m es =>
    refine .andThen (agree_mergeVars es "globals") fun _ =>
      .andThen (agree_mergeVars es "scene") fun _ => ?_
    rw [mappingAt_renamed]
    refine .answered_map fun nodes _ => ?_
    rw [Store.renamedEntries_eq_map]
    refine .each_map fun p _ => ?_
    obtain ⟨l, v⟩ := p
    simp only [Store.renamedPair, Value.value_renamed, Value.shown_renamed]
    exact agree_setNode _ v
  | again m b => cases b <;> exact .fail _
  | _ => exact .fail _

end Session

end SceneCourse
