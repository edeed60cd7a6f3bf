import SceneCourse.Proofs.ActionReading
import SceneCourse.Proofs.Failing
import SceneCourse.Proofs.Leaves
import SceneCourse.Proofs.Resolution

/-! When an action goes wrong. With callbacks that do not fail themselves, running an action fails
exactly where the state that it finds upsets it: a reference or a text that cannot be read, a sum
that cannot be taken, options that are no mapping, a node where there are no nodes, or an entry for
the diagnostic stream that cannot be shown. A composite fails at the first of its parts that is
upset, and a list of values at the first action that goes wrong. -/

namespace SceneCourse

/-! ### Writing to the log and to the state -/

namespace Session

open Step Store

variable {η α β : Type} {s : Session η}

/-- Whether an entry of a level reaches the diagnostic stream of a session. -/
def Shows (s : Session η) (level : Level) : Prop :=
  s.log.verbose = true ∨ level = .warn ∨ level = .error

theorem outcome_fails_iff (s : Session η) (e : LogEntry) :
    (∃ fault, s.log.outcome e = .error fault) ↔ s.Shows e.level ∧ e.data.holdsLong = true := by
  have reaches : s.log.reachesStream e = true ↔
      s.Shows e.level := by simp [RunLog.reachesStream, Shows, or_assoc]
  rw [RunLog.outcome, ← reaches, ← e.line_fails_iff]
  split
  next shown => cases e.line <;> simp [Except.map, shown]
  next silent => simp [silent]

section

variable {level : Level} {category : Category} {message : String} {data : Value}

theorem fails_write :
    Fails (write level category message data) s ↔ s.Shows level ∧ data.holdsLong = true :=
  fails_ofExcept.trans (s.outcome_fails_iff { level, category, message, data })

/-- What goes on after an entry was written. -/
theorem fails_write_bind {f : Unit → Step (Session η) β} :
    Fails (write level category message data >>= f) s ↔
    s.Shows level ∧ data.holdsLong = true ∨ Fails (f ())
    (s.addEntry { level, category, message, data }) := by
  have answer : write level category message data s =
      Step.ofExcept (s.log.outcome { level, category, message, data })
        (s.addEntry { level, category, message, data }) := rfl
  rw [fails_answered answer, ← s.outcome_fails_iff { level, category, message, data }]
  cases s.log.outcome { level, category, message, data } with
  | ok u =>
    simp only [reduceCtorEq, exists_false, false_or]
    constructor
    · rintro ⟨_, -, fails⟩
      exact fails
    · intro fails
      exact ⟨(), trivial, fails⟩
  | error e => simp

end

theorem fails_ask_bind {question : Store → Limits → Noted α} {f : α → Step (Session η) β} :
    Fails (ask question >>= f) s ↔ (question s.store s.limits).Fails ∨
      ∃ a, (question s.store s.limits).result = .ok a ∧
      Fails (f a) { s with log := s.log.addAll (question s.store s.limits).notes } :=
  fails_answered rfl

theorem fails_announce_bind {tag : String} {f : Unit → Step (Session η) β} :
    Fails (announce tag >>= f) s ↔
    Fails (f ()) (s.addEntry { level := .debug, category := .action, message :=
      s!"Executing action: {tag}" }) := by
  rw [announce, fails_write_bind]
  simp [Value.holdsLong]

theorem adopt_plain (store : Store) (v : Value) : (store.adopt v).1.plain = v.plain := by
  unfold Store.adopt
  split
  next => exact Value.plain_copyTied _ v
  next => exact Value.plain_copy _ v

/-- A copy can be shown if the value can. -/
theorem holdsLong_adopt (store : Store) (v : Value) :
    (store.adopt v).1.holdsLong = v.holdsLong := by
  rw [← Value.holdsLong_plain, adopt_plain, Value.holdsLong_plain]

/-- What goes on after a copy of a value was written: a copy that can be shown if the value can, in
a session whose log shows what it showed before. -/
theorem fails_setCopy_bind {path : String} {v : Value} {f : Value → Step (Session η) β} {p : Prop}
    (later : ∀ w (t : Session η), w.holdsLong = v.holdsLong → t.log.verbose = s.log.verbose →
      (Fails (f w) t ↔ p)) : Fails (setCopy path v >>= f) s ↔ p := by
  have verbose (edits : List Value.Edit) (log : RunLog) :
      (edits.foldl (fun log e => log.follow e) log).verbose = log.verbose := by
    induction edits generalizing log with
    | nil => rfl
    | cons e edits ih => exact ih (log.follow e)
  have answer : setCopy path v s = Step.ofExcept (.ok (s.store.adopt v).1)
      (s.commit ((s.store.adopt v).2.set path (s.store.adopt v).1).1
          ((s.store.adopt v).2.set path (s.store.adopt v).1).2) :=
    rfl
  rw [fails_answered answer]
  simp only [reduceCtorEq, exists_false, false_or, Except.ok.injEq, exists_eq_left']
  exact later _ _ (holdsLong_adopt s.store v) (verbose _ _)

/-! ### Counting -/

/-- Two numbers of different kinds, of which the integer is beyond all binary64 numbers. -/
def Mismatched (a b : Amount) : Prop :=
  ∃ n x, (a = .int n ∧ b = .float x ∨ a = .float x ∧ b = .int n) ∧ Binary64.ofInt? n = none

theorem add_fails_iff (a b : Amount) : (∃ e, a.add b = .error e) ↔ Mismatched a b := by
  cases a with
  | int n =>
    cases b with
    | int m => simp [Amount.add, Mismatched]
    | float x => cases nearest : Binary64.ofInt? n <;> simp [Amount.add, Mismatched, nearest]
  | float x =>
    cases b with
    | int m => cases nearest : Binary64.ofInt? m <;> simp [Amount.add, Mismatched, nearest]
    | float y => simp [Amount.add, Mismatched]

/-- There is a number to start from, whatever stands at a path. -/
theorem addend_ok (v : Value) : ∃ start, addend v = .ok start := by
  cases v <;> exact ⟨_, rfl⟩

/-- Two numbers whose sum cannot be made or written about: an integer and a binary64 number with no
common kind, an amount that cannot be shown, or a sum that cannot, where the log shows
everything. -/
inductive Unaddable (verbose : Bool) (base amount : Amount) : Prop where
  | mismatched (mismatched : Mismatched base amount)
  | untold (long : amount.value.holdsLong = true)
  | shown {sum : Amount} (total : base.add amount = .ok sum) (verbose : verbose = true)
    (long : sum.value.holdsLong = true)

/-- What makes it impossible to add an amount to what stands at a path. -/
inductive Miscounts (store : Store) (verbose : Bool) (path : String) (amount : Amount) : Prop where
  | trips (trips : store.Trips path)
  | foreign {v : Value} {base : Amount} (found : store.get path = .ok v)
    (start : addend v = .ok (base, true))
    (long : v.holdsLong = true)
  | adding {v : Value} {base : Amount} {foreign : Bool} (found : store.get path = .ok v)
    (start : addend v = .ok (base, foreign)) (bad : Unaddable verbose base amount)

/-- What goes on once there is a number to add to. -/
theorem fails_sum {path : String} {base amount : Amount} : Fails (do
      let sum ← Step.ofExcept (base.add amount)
      let written ← setCopy path sum.value
      let added ← Step.ofExcept amount.value.told
      write .debug .state s!"Incremented {path} by {added}" (.object [("value", written)])) s ↔
    Unaddable s.log.verbose base amount := by
  rw [fails_answered rfl, add_fails_iff]
  cases total : base.add amount with
  | error e =>
    exact iff_of_true (Or.inl ((add_fails_iff _ _).mp ⟨e, total⟩))
      (.mismatched ((add_fails_iff _ _).mp ⟨e, total⟩))
  | ok sum =>
    have matched : ¬Mismatched base amount := fun mismatched => by
      simpa [total] using (add_fails_iff _ _).mpr mismatched
    simp only [matched, false_or, Except.ok.injEq, exists_eq_left']
    refine fails_setCopy_bind fun w t long verbose => ?_
    rw [fails_answered rfl, Value.told_fails_iff]
    simp only [fails_write, Shows, verbose, Value.holdsLong_single, long, reduceCtorEq, or_false]
    constructor
    · rintro (untold | ⟨_, -, verbose, long⟩)
      · exact .untold untold
      · exact .shown total verbose long
    · rintro (mismatched | untold | ⟨total', verbose, long⟩)
      · exact absurd mismatched matched
      · exact Or.inl untold
      · cases told : amount.value.told with
        | error e => exact Or.inl ((Value.told_fails_iff _).mp ⟨e, told⟩)
        | ok text =>
          cases total.symm.trans total'
          exact Or.inr ⟨text, rfl, verbose, long⟩

theorem fails_increment {path : String} {amount : Amount} :
    Fails (increment path amount) s ↔ Miscounts s.store s.log.verbose path amount := by
  have looked : (Step.bind Step.current fun s => Step.ofExcept (s.store.get path) : Step
      (Session η) Value) s =
      Step.ofExcept (s.store.get path) s := rfl
  have trips : s.store.Trips path ↔ ∃ e, s.store.get path = .error e := (get_fails_iff _ _).symm
  rw [increment, fails_answered looked]
  cases found : s.store.get path with
  | error e => exact iff_of_true (Or.inl ⟨e, rfl⟩) (.trips (trips.mpr ⟨e, found⟩))
  | ok v =>
    have clear : ¬s.store.Trips path := by simp [trips, found]
    obtain ⟨⟨base, foreign⟩, start⟩ := addend_ok v
    simp only [reduceCtorEq, exists_false, false_or, Except.ok.injEq, exists_eq_left']
    rw [fails_answered rfl, start]
    simp only [reduceCtorEq, exists_false, false_or, Except.ok.injEq, exists_eq_left']
    constructor
    · intro fails
      cases foreign with
      | true =>
        rw [if_pos rfl, fails_write_bind, fails_sum, Value.holdsLong_single] at fails
        rcases fails with ⟨-, long⟩ | bad
        · exact .foreign found start long
        · exact .adding found start bad
      | false =>
        rw [if_neg (by simp), fails_sum] at fails
        exact .adding found start fails
    · rintro (trips | ⟨found', start', long⟩ | ⟨found', start', bad⟩)
      · exact absurd trips clear
      · cases found.symm.trans found'
        cases start.symm.trans start'
        rw [if_pos rfl, fails_write_bind, Value.holdsLong_single]
        exact Or.inl ⟨Or.inr (Or.inl rfl), long⟩
      · cases found.symm.trans found'
        cases start.symm.trans start'
        cases foreign with
        | true =>
          rw [if_pos rfl, fails_write_bind, fails_sum]
          exact Or.inr bad
        | false =>
          rw [if_neg (by simp), fails_sum]
          exact bad

/-! ### Presenting -/

/-- What keeps a toast or a dialog from being presented: its text, its options, or options that are
no mapping with texts for keys, as a reference may give them. -/
inductive Unpresentable (store : Store) (limits : Limits) (text : String)
    (extras : List (String × Value)) : Prop where
  | text (unfilled : store.Unfilled text)
  | options (unresolved : store.Unresolved limits.resolve 0
    (unfolded limits.resolve (.object extras)))
  | kind {v : Value} (options : (store.resolveWhole limits.resolve (.object extras)).result = .ok v)
    (other : ¬v.IsTextMap)

theorem request_fails_iff (kind : UiKind) (text : String) (extras : List (String × Value))
    (store : Store) (limits : Limits) :
    (request kind text extras store limits).Fails ↔ Unpresentable store limits text extras := by
  rw [request, Noted.fails_bind, Noted.fails_ofExcept, interpolate_fails_iff]
  simp only [Noted.fails_bind, Noted.fails_ofExcept, Noted.not_fails_pure, and_false,
    exists_false, or_false,
    resolveWhole_fails_iff, Value.readTextMap_fails_iff]
  constructor
  · rintro (unfilled | ⟨_, -, unresolved | ⟨v, options, other⟩⟩)
    · exact .text unfilled
    · exact .options unresolved
    · exact .kind options other
  · intro bad
    cases filled : store.interpolate text with
    | error e => exact Or.inl ((store.interpolate_fails_iff text).mp ⟨e, filled⟩)
    | ok shown =>
      refine Or.inr ⟨shown, rfl, ?_⟩
      rcases bad with unfilled | unresolved | ⟨options, other⟩
      · obtain ⟨e, failed⟩ := (store.interpolate_fails_iff text).mpr unfilled
        cases filled.symm.trans failed
      · exact Or.inl unresolved
      · exact Or.inr ⟨_, options, other⟩

structure Calm (cb : Callbacks η) : Prop where
  goto : ∀ call, cb.goto = some call → ∀ id s, ∃ t, call id s = (.done (), t)
  present : ∀ call, cb.present = some call → ∀ r s, ∃ t, call r s = (.done (), t)

variable {cb : Callbacks η}

theorem fails_present (calm : Calm cb) (kind : UiKind) (text : String)
    (extras : List (String × Value)) :
    Fails (present cb kind text extras) s ↔ Unpresentable s.store s.limits text
      (mapFields s.refresh extras) := by
  have looked : (Step.bind Step.current fun s => Step.pure (mapFields s.refresh extras) :
      Step (Session η) (List (String × Value))) s =
        Step.ofExcept (.ok (mapFields s.refresh extras)) s := rfl
  rw [present, fails_answered looked]
  simp only [reduceCtorEq, exists_false, false_or, Except.ok.injEq, exists_eq_left']
  rw [fails_ask_bind, request_fails_iff]
  refine or_iff_left ?_
  rintro ⟨r, -, fails⟩
  cases call : cb.present with
  | none =>
    rw [call] at fails
    simpa [Value.holdsLong] using fails_write.mp fails
  | some call' =>
    rw [call] at fails
    exact not_fails_of_done (calm.present call' call r _) fails

theorem not_fails_leaveFor (calm : Calm cb) (id : String) : ¬Fails (leaveFor cb id) s := by
  intro fails
  rw [leaveFor] at fails
  cases call : cb.goto with
  | none =>
    rw [call] at fails
    simpa [Value.holdsLong] using fails_write.mp fails
  | some call' =>
    rw [call] at fails
    exact not_fails_of_done (calm.goto call' call id s) fails

/-! ### Writing -/

theorem verbose_addAll (log : RunLog) (es : List LogEntry) :
    (log.addAll es).verbose = log.verbose := by
  induction es generalizing log with
  | nil => rfl
  | cons e es ih => exact ih (log.add e)

theorem fails_assign {path : String} {v : Value} :
    Fails (assign path v) s ↔ s.store.Lost (s.refresh v) ∨
    ∃ found, (s.store.resolve (s.refresh v)).result = .ok found ∧ s.log.verbose = true ∧
    found.holdsLong = true := by
  have looked : current v s = Step.ofExcept (.ok (s.refresh v)) s := rfl
  rw [assign, fails_answered looked]
  simp only [reduceCtorEq, exists_false, false_or, Except.ok.injEq, exists_eq_left']
  rw [fails_ask_bind, resolve_fails_iff]
  refine or_congr_right (exists_congr fun found => and_congr_right fun _ => fails_setCopy_bind
    fun w t long verbose => ?_)
  simp [fails_write, Shows, verbose, verbose_addAll, long]

theorem fails_setNode {id : String} {v : Value} :
    Fails (setNode id v) s ↔ ∀ m es, s.store.tier "nodes" ≠ .ok (.map m es) := by
  have tiers : (s.store.adopt v).2.tiers = s.store.tiers := by
    unfold Store.adopt
    split <;> rfl
  have nodes : (s.store.adopt v).2.tier "nodes" =
      s.store.tier "nodes" := by rw [tier, tier, root, root, tiers]
  have written : Fails (setNode id v) s ↔
      ∃ e, (s.store.adopt v).2.setNodeState id (s.store.adopt v).1 = .error e := by
    unfold Session.setNode Fails
    dsimp only
    split
    next done => simp [done]
    next failed => simp [failed]
  rw [written, setNodeState, nodes]
  split
  next m es found => simp [found]
  next w other found =>
    refine iff_of_true ⟨_, rfl⟩ fun m es there => ?_
    cases found.symm.trans there
    exact other m es rfl
  next e found => simp [found]

/-! ### Actions -/

/-- An action by itself, without what is inside it, that goes wrong in a session. -/
inductive Upsets (s : Session η) : Action → Prop where
  | lost {path : String} {v : Value} (lost : s.store.Lost (s.refresh v)) : Upsets s (.setVar path v)
  | shown {path : String} {v w : Value} (found : (s.store.resolve (s.refresh v)).result = .ok w)
    (verbose : s.log.verbose = true) (long : w.holdsLong = true) : Upsets s (.setVar path v)
  | counter {path : String} {amount : Amount} (bad : Miscounts s.store s.log.verbose path amount) :
    Upsets s (.incVar path amount)
  | score {amount : Amount} (bad : Miscounts s.store s.log.verbose scorePath amount) :
    Upsets s (.addScore amount)
  | toast {text : String} {extras : List (String × Value)}
    (bad : Unpresentable s.store s.limits text (mapFields s.refresh extras)) :
    Upsets s (.toast text extras)
  | modal {text : String} {extras : List (String × Value)}
    (bad : Unpresentable s.store s.limits text (mapFields s.refresh extras)) :
    Upsets s (.modal text extras)
  | node {id : String} (damaged : ∀ m es, s.store.tier "nodes" ≠ .ok (.map m es)) :
    Upsets s (.resetNode id)
  | unknown {tag : String} {params : List (String × Value)}
    (long : (s.refresh (.object params)).holdsLong = true) :
    Upsets s (.unknown tag params)

theorem not_fails_announce (tag : String) : ¬Fails (announce tag) s := by
  intro fails
  simpa [Value.holdsLong] using fails_write.mp fails

theorem fails_announced {a : Action} {x : Step (Session η) Unit}
    (run : visit cb a = (announce a.tag >>= fun _ => x)) :
    Fails (visit cb a) s ↔
      Fails x (s.addEntry { level := .debug, category := .action, message :=
        s!"Executing action: {a.tag}" }) := by
  rw [run, fails_announce_bind]

/-- An action is announced before it is done, which changes nothing that it depends on. -/
theorem visit_fails_iff (calm : Calm cb) (a : Action) : Fails (visit cb a) s ↔ s.Upsets a := by
  cases a with
  | gotoScene id transition =>
    rw [fails_announced (x := leaveFor cb id) rfl]
    exact iff_of_false (not_fails_leaveFor calm id) (by rintro ⟨⟩)
  | setVar path v =>
    rw [fails_announced (x := assign path v) rfl, fails_assign]
    constructor
    · rintro (lost | ⟨found, there, verbose, long⟩)
      · exact .lost lost
      · exact .shown there verbose long
    · rintro (⟨lost⟩ | ⟨there, verbose, long⟩)
      · exact Or.inl lost
      · exact Or.inr ⟨_, there, verbose, long⟩
  | incVar path amount =>
    rw [fails_announced (x := increment path amount) rfl, fails_increment]
    refine ⟨fun bad => .counter bad, fun upset => ?_⟩
    cases upset with
    | counter bad => exact bad
  | addScore amount =>
    rw [fails_announced (x := increment scorePath amount) rfl, fails_increment]
    refine ⟨fun bad => .score bad, fun upset => ?_⟩
    cases upset with
    | score bad => exact bad
  | toast text extras =>
    rw [fails_announced (x := present cb .toast text extras) rfl, fails_present calm]
    refine ⟨fun bad => .toast bad, fun upset => ?_⟩
    cases upset with
    | toast bad => exact bad
  | modal text extras =>
    rw [fails_announced (x := present cb .modal text extras) rfl, fails_present calm]
    refine ⟨fun bad => .modal bad, fun upset => ?_⟩
    cases upset with
    | modal bad => exact bad
  | resetNode id =>
    rw [fails_announced (x := setNode id .emptyMap) rfl, fails_setNode]
    refine ⟨fun damaged => .node damaged, fun upset => ?_⟩
    cases upset with
    | node damaged => exact damaged
  | unknown tag params =>
    rw [fails_announced (x := current (.object params) >>=
      fun v => write .warn .action s!"Unknown action type: {tag}" v) rfl]
    refine (fails_answered (r := .ok (s.refresh (.object params))) rfl).trans ?_
    simp only [reduceCtorEq, exists_false, false_or, Except.ok.injEq, exists_eq_left', fails_write]
    refine ⟨fun bad => .unknown bad.2, fun upset => ?_⟩
    cases upset with
    | unknown long => exact ⟨Or.inr (Or.inl rfl), long⟩
  | delay duration => exact iff_of_false (not_fails_announce "delay") (by rintro ⟨⟩)
  | sequence as => exact iff_of_false (not_fails_announce "sequence") (by rintro ⟨⟩)
  | parallel as => exact iff_of_false (not_fails_announce "parallel") (by rintro ⟨⟩)

/-! ### Runs that end -/

theorem ends_write {level : Level} {category : Category} {message : String} {data : Value} :
    Ends (write level category message data : Step (Session η) Unit) :=
  fun s => Ends.ofExcept _ (s.addEntry _)

theorem ends_ask {question : Store → Limits → Noted α} :
    Ends (ask question : Step (Session η) α) := by
  intro s
  exact Ends.ofExcept (question s.store s.limits).result
    { s with log := s.log.addAll (question s.store s.limits).notes }

theorem ends_setCopy {path : String} {v : Value} : Ends (setCopy path v : Step (Session η) Value) :=
  nofun

theorem ends_increment (path : String) (amount : Amount) :
    Ends (increment path amount : Step (Session η) Unit) := by
  have sum (base : Amount) : Ends (do
      let sum ← Step.ofExcept (base.add amount)
      let written ← setCopy path sum.value
      let added ← Step.ofExcept amount.value.told
      write .debug .state s!"Incremented {path} by {added}" (.object [("value", written)]) :
          Step (Session η) Unit) :=
    (Ends.ofExcept _).bind fun _ => ends_setCopy.bind fun _ =>
      (Ends.ofExcept _).bind fun _ => ends_write
  refine Ends.bind (fun s => Ends.ofExcept _ s) fun old =>
    (Ends.ofExcept (addend old)).bind fun (base, foreign) => ?_
  cases foreign with
  | true => exact ends_write.bind fun _ => sum base
  | false => exact sum base

theorem ends_present (calm : Calm cb) (kind : UiKind) (text : String)
    (extras : List (String × Value)) : Ends (present cb kind text extras) := by
  refine Ends.bind (fun s => nofun) fun _ => ends_ask.bind fun r => ?_
  cases call : cb.present with
  | none => exact ends_write
  | some call' =>
    intro s ended
    obtain ⟨t, done⟩ := calm.present call' call r s
    cases (congrArg Prod.fst done).symm.trans ended

theorem ends_leaveFor (calm : Calm cb) (id : String) : Ends (leaveFor cb id) := by
  rw [leaveFor]
  cases call : cb.goto with
  | none => exact ends_write
  | some call' =>
    intro s ended
    obtain ⟨t, done⟩ := calm.goto call' call id s
    cases (congrArg Prod.fst done).symm.trans ended

theorem ends_setNode (id : String) (v : Value) : Ends (setNode id v : Step (Session η) Unit) := by
  intro s
  unfold Session.setNode
  dsimp only
  split <;> exact nofun

theorem ends_visit (calm : Calm cb) (a : Action) : Ends (visit cb a) := by
  have announced {tag : String} {x : Step (Session η) Unit} (h : Ends x) :
      Ends (announce tag >>= fun _ => x) :=
    ends_write.bind fun _ => h
  cases a with
  | gotoScene id transition => exact announced (ends_leaveFor calm id)
  | setVar path v =>
    exact announced (Ends.bind (fun s => nofun) fun _ => ends_ask.bind fun _ => ends_setCopy.bind
      fun _ => ends_write)
  | incVar path amount => exact announced (ends_increment path amount)
  | addScore amount => exact announced (ends_increment scorePath amount)
  | toast text extras => exact announced (ends_present calm .toast text extras)
  | modal text extras => exact announced (ends_present calm .modal text extras)
  | resetNode id => exact announced (ends_setNode id .emptyMap)
  | unknown tag params => exact announced (Ends.bind (fun s => nofun) fun _ => ends_write)
  | delay duration => exact ends_write
  | sequence as => exact ends_write
  | parallel as => exact ends_write

/-! ### Whole actions and values -/

/-- An action goes wrong when it, or an action inside it, upsets the session that all before it in
document order have led to. -/
def GoesWrong (cb : Callbacks η) (s : Session η) (a : Action) : Prop :=
  ∃ before b after t, a.preorder = before ++ b :: after ∧
    Step.each (visit cb) before s = (.done (), t) ∧ t.Upsets b

theorem execute_fails_iff (calm : Calm cb) (a : Action) :
    Fails (execute cb a) s ↔ GoesWrong cb s a := by
  rw [execute_eq_visits, fails_each]
  simp only [visit_fails_iff calm, GoesWrong]

theorem executeValue_of_ok {v : Value} {a : Action} (read : Action.ofValue v = .ok a) :
    executeValue cb v = execute cb a := by
  rw [executeValue, read]

theorem executeValue_of_refusal {v : Value} {e : Fault} (read : Action.ofValue v = .error e)
    (refusal : e.isRefusal = true) :
    executeValue cb v = write .warn .action s!"Malformed action skipped: {e.message}" := by
  rw [executeValue, read]
  exact if_pos refusal

theorem executeValue_fails_iff (calm : Calm cb) {v : Value} (acyclic : v.isCyclic = false) :
    Fails (executeValue cb v) s ↔ ∃ a, Action.ofValue v = .ok a ∧ GoesWrong cb s a := by
  have readable := Action.not_breaks_ofValue acyclic
  cases read : Action.ofValue v with
  | ok a => simp [executeValue_of_ok read, execute_fails_iff calm]
  | error e =>
    have refusal : e.isRefusal = true := by
      cases kind : e.isRefusal with
      | true => rfl
      | false => exact absurd ⟨e, read, kind⟩ readable
    rw [executeValue_of_refusal read refusal, fails_write]
    simp [Value.holdsLong]

theorem ends_executeValue (calm : Calm cb) (v : Value) : Ends (executeValue cb v) := by
  rw [executeValue]
  split
  next a _ =>
    rw [execute_eq_visits]
    exact Ends.each fun b _ => ends_visit calm b
  next e _ =>
    split
    next => exact ends_write
    next => exact nofun

/-- When running the actions that values write fails. A value that is no action is passed over; an
action fails exactly when it goes wrong in the session that it finds, and so does the whole list at
the first action that does. In all other cases everything is done. -/
theorem mishap_iff (calm : Calm cb) (s : Session η) {vs : List Value}
    (acyclic : ∀ v ∈ vs, v.isCyclic = false) :
    (∀ v ∈ vs, (Fails (executeValue cb v) s ↔ ∃ a, Action.ofValue v = .ok a ∧ GoesWrong cb s a) ∧
      (¬Fails (executeValue cb v) s → ∃ t, executeValue cb v s = (.done (), t))) ∧
    (Fails (executeValues cb vs) s ↔ ∃ before v after t a, vs = before ++ v :: after ∧
      executeValues cb before s = (.done (), t) ∧ Action.ofValue v = .ok a ∧ GoesWrong cb t a) ∧
    (¬Fails (executeValues cb vs) s → ∃ t, executeValues cb vs s = (.done (), t)) := by
  refine ⟨fun v member => ⟨executeValue_fails_iff calm (acyclic v member),
    (ends_executeValue calm v).done_of_not_fails⟩,
    ?_, (Ends.each fun v _ => ends_executeValue calm v).done_of_not_fails⟩
  rw [executeValues, fails_each]
  constructor
  · rintro ⟨before, v, after, t, rfl, done, fails⟩
    obtain ⟨a, read, wrong⟩ := (executeValue_fails_iff calm (acyclic v (by simp))).mp fails
    exact ⟨before, v, after, t, a, rfl, done, read, wrong⟩
  · rintro ⟨before, v, after, t, a, rfl, done, read, wrong⟩
    exact ⟨before, v, after, t, rfl, done, (executeValue_fails_iff calm (acyclic v (by simp))).mpr
      ⟨a, read, wrong⟩⟩

def quiet : Callbacks Unit := ⟨none, none⟩

theorem calm_quiet : Calm quiet where
  goto := nofun
  present := nofun

def behind (a : Action) : Session Unit := (execute quiet a { host := () }).2

theorem executeValues_single {a : Action} (read : Action.ofValue a.dump = .ok a)
    (ends : (execute quiet a { host := () }).1 = .done ()) :
    executeValues quiet [a.dump] { host := () } = (.done (), behind a) := by
  rw [executeValues, Step.each, executeValue_of_ok read, Step.bind, behind]
  generalize execute quiet a { host := () } = outcome at ends ⊢
  obtain ⟨_ | e | _, t⟩ := outcome
  · rfl
  · cases ends
  · cases ends

def damage : List Value := [(Action.setVar "nodes" (.int 1)).dump, (Action.resetNode "q1").dump]

theorem upsets_damage : (behind (.setVar "nodes" (.int 1))).Upsets (.resetNode "q1") :=
  .node (by rintro m es ⟨⟩)

theorem mishap_iff_damage : Calm quiet ∧ (∀ v ∈ damage, v.isCyclic = false) ∧
    Fails (executeValues quiet damage) { host := () } := by
  have acyclic : ∀ v ∈ damage, v.isCyclic = false :=
    List.forall_mem_cons.mpr ⟨rfl, List.forall_mem_cons.mpr ⟨rfl, nofun⟩⟩
  have first := executeValues_single (a := .setVar "nodes" (.int 1)) (by cbv) rfl
  have read : Action.ofValue (Action.resetNode "q1").dump = .ok (.resetNode "q1") := by cbv
  refine ⟨calm_quiet, acyclic, (mishap_iff calm_quiet { host := () } acyclic).2.1.mpr ?_⟩
  exact ⟨_, _, [], _, _, rfl, first, read, [], _, [], _, rfl, rfl, upsets_damage⟩

theorem upsets_overflow {n : Int} (large : Binary64.ofInt? n = none) :
    (behind (.setVar "globals.vars.n" (.int n))).Upsets
      (.incVar "globals.vars.n" (.float .zero)) := by
  have found : (behind (.setVar "globals.vars.n" (.int n))).store.get "globals.vars.n" =
      .ok (.int n) := rfl
  have start : addend (.int n) = .ok (.int n, false) := rfl
  exact .counter (.adding found start (.mismatched ⟨n, _, Or.inl ⟨rfl, rfl⟩, large⟩))

theorem upsets_digits : (behind (.setVar "globals.vars.xs" (.ofList []))).Upsets
    (.setVar "globals.vars.n" (.object [("ref", .str "globals.vars.xs.²")])) := by
  have superscript : Numeral.integer "²" = .error (.notDigits 10 "²") := rfl
  have trips : (behind (.setVar "globals.vars.xs" (.ofList []))).store.Trips "globals.vars.xs.²" :=
    .entry rfl (.entry rfl (.entry rfl (.here (by decide) superscript)))
  exact .lost (.trips rfl trips)

/-- Actions fail although all callbacks are calm: on a tier that is damaged, on a sum of an integer
beyond the binary64 numbers with one of those, on digits that write no integer, and on options that
a reference makes no mapping. -/
theorem mishaps :
    Fails (executeValues quiet damage) { host := () } ∧
    Fails (executeValues quiet [(Action.setVar "globals.vars.n" (.int (Nat.pow 10 400))).dump,
      (Action.incVar "globals.vars.n" (.float .zero)).dump]) { host := () } ∧
    Fails (executeValues quiet [(Action.setVar "globals.vars.xs" (.ofList [])).dump,
      (Action.setVar "globals.vars.n" (.object [("ref", .str "globals.vars.xs.²")])).dump])
        { host := () } ∧
    Fails (executeValues quiet [(Action.toast "Well done!" [("ref", .str "globals.vars.n")]).dump])
    { host := () } := by
  have second {a b : Action} (first : executeValues quiet [a.dump] { host := () } =
    (.done (), behind a))
      (read : Action.ofValue b.dump = .ok b) (acyclic : b.dump.isCyclic = false)
        (plain : b.preorder = [b])
      (bad : (behind a).Upsets b) : Fails (executeValues quiet [a.dump, b.dump])
          { host := () } := by
    have fails := (executeValue_fails_iff calm_quiet acyclic).mpr
      ⟨b, read, [], b, [], behind a, plain, rfl, bad⟩
    exact fails_each.mpr ⟨[a.dump], b.dump, [], behind a, rfl, first, fails⟩
  have overflow (n : Int) (large : Binary64.ofInt? n = none) : Fails (executeValues quiet
      [(Action.setVar "globals.vars.n" (.int n)).dump,
          (Action.incVar "globals.vars.n" (.float .zero)).dump]) { host := () } :=
    second (executeValues_single (by cbv) rfl) (by cbv) rfl rfl (upsets_overflow large)
  have toast : ({ host := () } : Session Unit).Upsets
      (.toast "Well done!" [("ref", .str "globals.vars.n")]) :=
    .toast (.kind rfl (by rintro ⟨m, es, ⟨⟩, -⟩))
  refine ⟨second (executeValues_single (by cbv) rfl) (by cbv) rfl rfl upsets_damage,
    overflow _ (by decide +kernel),
    second (executeValues_single (by cbv) rfl) (by cbv) rfl rfl upsets_digits,
      fails_each.mpr ⟨[], _, [], _, rfl, rfl, ?_⟩⟩
  exact (executeValue_fails_iff calm_quiet rfl).mpr ⟨_, by cbv, [], _, [], _, rfl, rfl, toast⟩

end Session

end SceneCourse
