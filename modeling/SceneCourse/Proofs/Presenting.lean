import SceneCourse.Proofs.Mishap
import SceneCourse.Proofs.StrictEquality
import SceneCourse.Proofs.Substitution

/-! What toasts and dialogs show. A text is shown with its placeholders filled, and parameters under
their names with all that they refer to. A parameter named `ref` makes a reference of all of them
together: the mapping that it leads to is shown in their place, and without one nothing is. Proved:
the host is called once with just that, or, if something in it is in the way, not at all, and but
for the log a session stays as it is. -/

namespace SceneCourse

/-- A toast or a dialog as it is written. -/
def Action.wording? : Action → Option UiRequest
  | toast text extras => some ⟨.toast, text, extras⟩
  | modal text extras => some ⟨.modal, text, extras⟩
  | _ => none

/-! ### Mappings of parameters -/

namespace Value

/-- There is nothing to open in a value in which no container holds itself. -/
theorem unroll_of_isCyclic_eq_false {v : Value} (acyclic : v.isCyclic = false) (n : Nat) :
    v.unroll n = v := by
  induction n generalizing v with
  | zero => cases v <;> rfl
  | succ n ih =>
    cases v with
    | list m xs =>
      have item (x : Value) (member : x ∈ xs) : unroll n ((list m xs).within x) = x := by
        have inner := isCyclic_of_mem_items acyclic member
        rw [within_of_isCyclic_eq_false _ x inner, ih inner]
      rw [unroll, items, List.map_map]
      exact congrArg (list m) ((List.map_congr_left item).trans (List.map_id' xs))
    | map m es =>
      have entry (e : Key × Value) (member : e ∈ es) :
          (e.1, unroll n ((map m es).within e.2)) = e := by
        have inner := isCyclic_of_mem acyclic member
        rw [within_of_isCyclic_eq_false _ e.2 inner, ih inner]
      rw [unroll, entries, List.map_map]
      exact congrArg (map m) ((List.map_congr_left entry).trans (List.map_id' es))
    | pair a b =>
      obtain ⟨left, right⟩ := Bool.or_eq_false_iff.1 acyclic
      rw [unroll, ih left, ih right]
    | _ => rfl

theorem unroll_object (n : Nat) (fields : List (String × Value)) :
    (object fields).unroll (n + 1) = object (mapFields (unroll n) fields) := by
  show map 0 ((entries 0 (keyed fields)).map _) = map 0 (keyed (mapFields (unroll n) fields))
  rw [entries_zero, keyed, keyed, mapFields, List.map_map, List.map_map]
  rfl

theorem isReference_object {fields : List (String × Value)} :
    (object fields).isReference = true ↔ "ref" ∈ fields.map (·.1) := contains_keyed

/-- Where nothing lies, nothing lies deeper. -/
theorem atDepth_succ_eq_nil {v : Value} {k : Nat} (low : v.atDepth k = []) :
    v.atDepth (k + 1) = [] := by
  induction k generalizing v with
  | zero => cases low
  | succ k ih =>
    rw [atDepth_succ_eq_nil_iff] at low ⊢
    exact fun p part => ih (low p part)

theorem parts_object {fields : List (String × Value)} (plain : "ref" ∉ fields.map (·.1)) :
    (object fields).parts = fields.map (·.2) := by
  have keyed : (object fields).parts = (SceneCourse.keyed fields).map (·.2) :=
    parts_map (eq_false_of_ne_true (isReference_object.not.2 plain))
  rw [keyed, SceneCourse.keyed, List.map_map]
  rfl

theorem isTextMap_object (fields : List (String × Value)) : (object fields).IsTextMap := by
  refine ⟨0, keyed fields, rfl, fun (k, v) member => ?_⟩
  obtain ⟨name, rfl, -⟩ := mem_keyed.1 member
  rfl

end Value

namespace Store

variable {s : Store} {n : Int} {k : Nat} {v : Value} {fields : List (String × Value)}

/-! ### Replacing at another depth -/

theorem replaced_congr {f g : Value → Value} (each : ∀ p ∈ v.parts, f p = g p) :
    s.replaced f v = s.replaced g v := by
  cases v with
  | map m es =>
    rw [replaced, replaced]
    split
    next => rfl
    next plain =>
      rw [Value.parts_map (eq_false_of_ne_true plain), List.forall_mem_map] at each
      rw [List.map_congr_left fun e member => congrArg (Prod.mk e.1) (each e member)]
  | list m xs =>
    replace each : ∀ x ∈ xs, f x = g x := each
    rw [replaced, replaced, List.map_congr_left each]
  | pair a b =>
    rw [replaced, replaced, each a (by simp [Value.parts]), each b (by simp [Value.parts])]
  | _ => rfl

/-- A level more makes no difference where nothing lies. -/
theorem substituted_succ_of_low (low : v.atDepth k = []) :
    s.substituted (k + 1) v = s.substituted k v := by
  induction k generalizing v with
  | zero => cases low
  | succ k ih =>
    rw [Value.atDepth_succ_eq_nil_iff] at low
    exact replaced_congr fun p part => ih (low p part)

theorem Replaceable.succ_of_low (h : s.Replaceable n k v) (low : v.atDepth k = []) :
    s.Replaceable n (k + 1) v := by
  refine ⟨fun d below w deep => ?_, fun some => absurd (Value.atDepth_succ_eq_nil low) some⟩
  rcases Nat.lt_succ_iff_lt_or_eq.1 below with below | rfl
  · exact h.sound d below w deep
  · rw [low] at deep
    cases deep

theorem balks_str {text : String} : s.Balks (.str text) ↔ s.Unfilled text := by
  constructor
  · rintro (unfilled | lost)
    · exact unfilled
    · cases lost
  · exact .text

/-! ### What becomes of parameters -/

def Refers (n : Int) (fields : List (String × Value)) : Prop := 0 ≤ n ∧ "ref" ∈ fields.map (·.1)

theorem substituted_parameters (plain : ¬Refers n fields) :
    s.substituted (n + 1).toNat (.object fields) = .object
      (mapFields (s.substituted n.toNat) fields) := by
  by_cases within : 0 ≤ n
  · rw [show (n + 1).toNat = n.toNat + 1 by omega, substituted]
    show (if (Value.object fields).isReference then s.referent (keyed fields)
      else .ofEntries ((keyed fields).map _)) = _
    rw [if_neg (Value.isReference_object.not.2 fun named => plain ⟨within, named⟩)]
    rw [keyed, List.map_map, mapFields, Value.object, List.map_map]
    rfl
  · have id (f : String × Value) (_ : f ∈ fields) : (f.1, s.substituted 0 f.2) = f := rfl
    rw [show (n + 1).toNat = 0 by omega, show n.toNat = 0 by omega, mapFields,
      List.map_congr_left id, List.map_id',
      substituted]

theorem substituted_reference (refers : Refers n fields) :
    s.substituted (n + 1).toNat (.object fields) = s.referent (keyed fields) := by
  rw [show (n + 1).toNat = n.toNat + 1 by have := refers.1; omega, substituted]
  exact if_pos (Value.isReference_object.2 refers.2)

/-- A text and parameters of which there is something that cannot be shown. -/
inductive Withheld (s : Store) (n : Int) (text : String) (fields : List (String × Value)) :
    Prop where
  | text (balks : s.Balks (.str text))
  | parameters (stuck : ¬s.Replaceable n (n + 1).toNat (.object fields))
  | reference (refers : Refers n fields) (other : ¬(s.referent (keyed fields)).IsTextMap)

/-- A parameter that is shown is shown as it is resolved by itself, unless it has as many levels as
the limit allows. -/
theorem resolveWhole_parameter {text : String} (shown : ¬s.Withheld n text fields) (within : 0 ≤ n)
    (plain : "ref" ∉ fields.map (·.1)) {f : String × Value} (member : f ∈ fields)
    (tree : f.2.isCyclic = false) (low : f.2.atDepth n.toNat = []) :
    (s.resolveWhole (.int n) f.2).result = .ok (s.substituted n.toNat f.2) := by
  have whole : s.Replaceable n (n.toNat + 1) (.object fields) := by
    by_contra stuck
    exact shown (.parameters (by rwa [show (n + 1).toNat = n.toNat + 1 by omega]))
  have part : f.2 ∈ (Value.object fields).parts := by
    rw [Value.parts_object plain]
    exact List.mem_map_of_mem member
  have alone := ((replaceable_succ.1 whole).2 f.2 part).succ_of_low low
  rw [resolveWhole, tree, if_neg (by simp), resolveAll_of_replaceable (by omega) alone,
    substituted_succ_of_low low]

end Store

/-! ### Calling the host -/

namespace Session

open Step Store

variable {η : Type} {s : Session η} {a : Action} {w : UiRequest} {n : Int}

/-- The parameters of a toast or a dialog as they are now, each as far as the limit lets look into
it. -/
def parameters (s : Session η) (extras : List (String × Value)) : List (String × Value) :=
  mapFields (fun v => (s.refresh v).unroll (levels s.limits.resolve - 1)) extras

theorem names_parameters (s : Session η) (extras : List (String × Value)) :
    (s.parameters extras).map (·.1) = extras.map (·.1) := by
  rw [parameters, mapFields, List.map_map]
  rfl

theorem refers_parameters {extras : List (String × Value)} :
    Refers n (s.parameters extras) ↔ Refers n extras := by
  rw [Refers, Refers, names_parameters]

/-- Parameters that hold no edited container, and none that holds itself, are as they are
written. -/
theorem parameters_of_fresh {extras : List (String × Value)} (fresh : s.written = [])
    (acyclic : ∀ f ∈ extras, f.2.isCyclic = false) : s.parameters extras = extras := by
  have now (v : Value) : s.refresh v = v := by
    rw [refresh, fresh]
    rfl
  have same (f : String × Value) (member : f ∈ extras) :
      (f.1, (s.refresh f.2).unroll (levels s.limits.resolve - 1)) = f := by
    rw [now, Value.unroll_of_isCyclic_eq_false (acyclic f member)]
  exact (List.map_congr_left same).trans (List.map_id' extras)

theorem unfolded_parameters (limit : s.limits.resolve = .int n) (extras : List (String × Value)) :
    unfolded s.limits.resolve (.object (mapFields s.refresh extras)) = .object
      (s.parameters extras) := by
  have levels : levels s.limits.resolve = levels s.limits.resolve - 1 + 1 := by
    rw [limit, Store.levels]
    omega
  have opened : (Value.object (mapFields s.refresh extras)).unroll (Store.levels s.limits.resolve) =
      .object (s.parameters extras) := by
    rw [levels, Value.unroll_object, mapFields, mapFields, List.map_map, parameters]
    rfl
  rw [unfolded]
  split
  next => exact opened
  next acyclic => rw [← opened, Value.unroll_of_isCyclic_eq_false (eq_false_of_ne_true acyclic)]

section

variable {α β : Type} {question : Store → Limits → Noted α} {f : α → Step (Session η) β}

theorem ask_bind_of_ok {x : α} (given : (question s.store s.limits).result = .ok x) :
    (ask question >>= f) s = f x { s with log := s.log.addAll (question s.store s.limits).notes } := by
  refine bind_of_done ?_
  rw [ask, given]
  rfl

theorem ask_bind_of_error {e : Fault} (failed : (question s.store s.limits).result = .error e) :
    (ask question >>= f) s =
      (.failed e, { s with log := s.log.addAll (question s.store s.limits).notes }) := by
  show Step.bind (ask question) f s = _
  rw [Step.bind, ask, failed]
  rfl

end

theorem execute_wording (wording : a.wording? = some w) (cb : Callbacks η) :
    execute cb a = (announce a.tag >>= fun _ => present cb w.kind w.text w.options) := by
  cases a with
  | toast text extras =>
    obtain rfl := Option.some.inj wording
    rfl
  | modal text extras =>
    obtain rfl := Option.some.inj wording
    rfl
  | _ => cases wording

/-- The request for a toast or a dialog is made or not, and the host is called with what was
made. -/
theorem execute_requested (wording : a.wording? = some w) (s : Session η) : ∃ log,
    (∀ e, (request w.kind w.text (mapFields s.refresh w.options) s.store s.limits).result =
      .error e →
      ∀ cb, execute cb a s = (.failed e, { s with log })) ∧
    ∀ r, (request w.kind w.text (mapFields s.refresh w.options) s.store s.limits).result = .ok r →
      ∀ cb call, cb.present = some call → execute cb a s = call r { s with log } := by
  let t := s.addEntry { level := .debug, category := .action, message :=
    s!"Executing action: {a.tag}" }
  let notes := (request w.kind w.text (mapFields s.refresh w.options) s.store s.limits).notes
  have announced (cb : Callbacks η) : execute cb a s = present cb w.kind w.text w.options t := by
    rw [execute_wording wording, announce, write_null]
    rfl
  have looked : (Step.bind Step.current fun s => Step.pure (mapFields s.refresh w.options) :
      Step (Session η) (List (String × Value))) t =
        (.done (mapFields s.refresh w.options), t) := rfl
  refine ⟨t.log.addAll notes, fun e failed cb => ?_, fun r made cb call there => ?_⟩
  · rw [announced, present]
    refine (bind_of_done looked).trans ?_
    exact ask_bind_of_error (s := t) failed
  · rw [announced, present]
    refine (bind_of_done looked).trans ?_
    refine (ask_bind_of_ok (s := t) made).trans ?_
    rw [there]
    rfl

/-- A request that is made shows the text with its placeholders filled and the entries of what
becomes of the parameters. -/
theorem request_ok {kind : UiKind} {text : String} {extras : List (String × Value)} {store : Store}
    {limits : Limits} {r : UiRequest}
    (made : (request kind text extras store limits).result = .ok r) : ∃ shown v options,
      store.interpolate text = .ok shown ∧
      (store.resolveWhole limits.resolve (.object extras)).result = .ok v ∧
        v.readTextMap = .ok options ∧ r = ⟨kind, shown, options⟩ := by
  obtain ⟨shown, filled, made⟩ := Noted.bind_ok_iff.1 made
  obtain ⟨v, resolved, made⟩ := Noted.bind_ok_iff.1 made
  obtain ⟨options, read, made⟩ := Noted.bind_ok_iff.1 made
  exact ⟨shown, v, options, filled, resolved,
    Checked.inside_eq_ok.1 (Checked.toExcept_eq_ok.1 read),
    (Noted.pure_ok_iff.1 made).symm⟩

theorem resolveWhole_parameters (limit : s.limits.resolve = .int n)
    (extras : List (String × Value)) :
    s.store.resolveWhole s.limits.resolve (.object (mapFields s.refresh extras)) =
      s.store.resolveAll (.int n) 0 (.object (s.parameters extras)) := by
  rw [← unfolded_parameters limit extras, limit]
  rfl

theorem unpresentable_iff (limit : s.limits.resolve = .int n) (text : String)
    (extras : List (String × Value)) :
    Unpresentable s.store s.limits text (mapFields s.refresh extras) ↔
      s.store.Withheld n text (s.parameters extras) := by
  have stuck : s.store.Unresolved s.limits.resolve 0
      (unfolded s.limits.resolve (.object (mapFields s.refresh extras))) ↔
      ¬s.store.Replaceable n (n + 1).toNat (.object (s.parameters extras)) := by
    rw [unfolded_parameters limit, limit]
    exact unresolved_iff rfl
  constructor
  · rintro (unfilled | unresolved | ⟨resolved, other⟩)
    · exact .text (balks_str.2 unfilled)
    · exact .parameters (stuck.1 unresolved)
    · rw [resolveWhole_parameters limit] at resolved
      have sound := (resolveAll_ok_iff (Nat.add_zero _)).1 ⟨_, resolved⟩
      rw [resolveAll_of_replaceable (Nat.add_zero _) sound] at resolved
      obtain rfl := Except.ok.inj resolved
      by_cases refers : Refers n (s.parameters extras)
      · rw [substituted_reference refers] at other
        exact .reference refers other
      · rw [substituted_parameters refers] at other
        exact absurd (Value.isTextMap_object _) other
  · rintro (balks | unresolved | ⟨refers, other⟩)
    · exact .text (balks_str.1 balks)
    · exact .options (stuck.2 unresolved)
    · by_cases sound : s.store.Replaceable n (n + 1).toNat (.object (s.parameters extras))
      · refine .kind ?_ other
        rw [resolveWhole_parameters limit, resolveAll_of_replaceable (Nat.add_zero _) sound,
          substituted_reference refers]
      · exact .options (stuck.2 sound)

/-- What cannot be shown keeps the host from being called. -/
theorem execute_withheld (wording : a.wording? = some w) (limit : s.limits.resolve = .int n)
    (withheld : s.store.Withheld n w.text (s.parameters w.options)) :
    ∃ e log, ∀ cb, execute cb a s = (.failed e, { s with log }) := by
  obtain ⟨log, failed, -⟩ := execute_requested wording s
  rw [← unpresentable_iff limit, ← request_fails_iff w.kind] at withheld
  obtain ⟨e, fails⟩ := withheld
  exact ⟨e, log, failed e fails⟩

theorem execute_shown (wording : a.wording? = some w) (limit : s.limits.resolve = .int n)
    (shown : ¬s.store.Withheld n w.text (s.parameters w.options)) : ∃ text options log,
      s.store.interpolate w.text = .ok text ∧
      (¬Refers n w.options → options = mapFields (s.store.substituted n.toNat)
        (s.parameters w.options)) ∧
      (Refers n w.options → (s.store.referent (keyed (s.parameters w.options))).readTextMap =
        .ok options) ∧
      ∀ cb call, cb.present = some call → execute cb a s = call ⟨w.kind, text, options⟩
        { s with log } := by
  obtain ⟨log, -, made⟩ := execute_requested wording s
  rw [← unpresentable_iff limit, ← request_fails_iff w.kind] at shown
  obtain ⟨r, there⟩ := Noted.exists_answer shown
  obtain ⟨text, v, options, filled, resolved, read, rfl⟩ := request_ok there
  rw [resolveWhole_parameters limit] at resolved
  have sound := (resolveAll_ok_iff (Nat.add_zero _)).1 ⟨_, resolved⟩
  rw [resolveAll_of_replaceable (Nat.add_zero _) sound] at resolved
  obtain rfl := Except.ok.inj resolved
  refine ⟨text, options, log, filled, fun plain => ?_, fun reference => ?_, made _ there⟩
  · rw [substituted_parameters (refers_parameters.not.2 plain), Value.readTextMap_object] at read
    exact (Checked.ok.inj read).symm
  · rwa [substituted_reference (refers_parameters.2 reference)] at read

/-- A host is shown a toast or a dialog unless something in its text or its parameters is in the
way, and then nothing. It is called once, with the text filled and the parameters in their order,
each with all in it replaced; parameters that are taken for a reference give way to the entries that
it leads to. A parameter is replaced as it is by itself, if it has fewer levels than the limit.
Where every path can be followed, nothing is in the way but what cannot be shown or written, and a
reference that leads to no mapping. But for the log the session stays as it is until the host is
called. -/
theorem presentation_shows (s : Session η) {a : Action} {w : UiRequest} {n : Int}
    (wording : a.wording? = some w) (limit : s.limits.resolve = .int n) :
    (s.store.Withheld n w.text (s.parameters w.options) →
      ∃ e log, ∀ cb, execute cb a s = (.failed e, { s with log })) ∧
    (¬s.store.Withheld n w.text (s.parameters w.options) → ∃ text options log,
      s.store.interpolate w.text = .ok text ∧
      (¬Refers n w.options → options = mapFields (s.store.substituted n.toNat)
        (s.parameters w.options)) ∧
      (Refers n w.options → (s.store.referent (keyed (s.parameters w.options))).readTextMap =
        .ok options) ∧
      ∀ cb call, cb.present = some call → execute cb a s = call ⟨w.kind, text, options⟩
        { s with log }) ∧
    (¬s.store.Withheld n w.text (s.parameters w.options) → 0 ≤ n → ¬Refers n w.options →
      ∀ f ∈ s.parameters w.options, f.2.isCyclic = false → f.2.atDepth n.toNat = [] →
        (s.store.resolveWhole (.int n) f.2).result = .ok (s.store.substituted n.toNat f.2)) ∧
    ((∀ path, ∃ v, s.store.get path = .ok v) → ∀ v, s.store.Balks v ↔
      Untold v ∨ ∃ text inner u, v = .str text ∧
      .slot inner ∈ pieces 0 text.toList ∧ s.store.get (.ofList (Text.stripList inner)) = .ok u ∧
      u.Unwritten) ∧
    (s.written = [] → (∀ f ∈ w.options, f.2.isCyclic = false) →
      s.parameters w.options = w.options) := by
  refine ⟨execute_withheld wording limit, execute_shown wording limit,
    fun shown within plain f member tree low => ?_,
    fun followed v => balks_iff followed, parameters_of_fresh⟩
  exact resolveWhole_parameter shown within
    (fun named => plain (refers_parameters.1 ⟨within, named⟩)) member tree low

def keeping : Callbacks (List UiRequest) :=
  ⟨none, some fun r => Step.update fun s => { s with host := s.host ++ [r] }⟩

def greeted : Session (List UiRequest) :=
  { store := .ofGlobals [(.str "name", .str "Ann")], host := [] }

def goodbye : List (String × Value) :=
  [("title", .str "Bye, \x7b\x7bglobals.vars.name\x7d\x7d"),
    ("signed", .object [("ref", .str "globals.vars.name")])]

theorem presentation_shows_goodbye : greeted.limits.resolve = .int 64 ∧
    ∃ log, execute keeping (.modal "Done" goodbye) greeted = (.done (),
      { greeted with host :=
        [⟨.modal, "Done", [("title", .str "Bye, Ann"), ("signed", .str "Ann")]⟩], log }) := by
  obtain ⟨-, shows, -, -, plain⟩ := presentation_shows greeted (a := .modal "Done" goodbye)
    (w := ⟨.modal, "Done", goodbye⟩) (n := 64) rfl rfl
  let asked := request .modal "Done" (mapFields greeted.refresh goodbye) greeted.store
    greeted.limits
  have made : asked.result.toOption.isSome = true := by decide +kernel
  have sound : ¬greeted.store.Withheld 64 "Done" (greeted.parameters goodbye) := by
    rw [← unpresentable_iff rfl, ← request_fails_iff .modal]
    rintro ⟨e, failed⟩
    rw [show asked.result = .error e from failed] at made
    cases made
  have said : greeted.store.interpolate "Done" = .ok "Done" := rfl
  have replaced : mapFields (greeted.store.substituted 64) goodbye =
      [("title", .str "Bye, Ann"), ("signed", .str "Ann")] := by cbv
  obtain ⟨text, options, log, filled, parameters, -, run⟩ := shows sound
  obtain rfl := Except.ok.inj (said.symm.trans filled)
  rw [plain rfl (by decide)] at parameters
  obtain rfl := (parameters (by simp [Refers, goodbye])).trans replaced
  exact ⟨rfl, log, run keeping _ rfl⟩

def praise : Action := .toast "Well done!" [("ref", .str "globals.vars.name")]

/-- Such a toast is never shown. -/
theorem presentation_falters : (∀ path, ∃ v, greeted.store.get path = .ok v) ∧
    (execute keeping praise greeted).1 ≠ .done () ∧
    (execute keeping praise greeted).2.host = [] := by
  have fresh : greeted.parameters [("ref", .str "globals.vars.name")] =
      [("ref", .str "globals.vars.name")] := rfl
  obtain ⟨e, log, run⟩ := execute_withheld (s := greeted) (a := praise)
      (w := ⟨.toast, "Well done!", _⟩) (n := 64)
    rfl rfl (.reference ⟨by decide, by simp [fresh]⟩ (by rintro ⟨m, es, ⟨⟩, -⟩))
  rw [run]
  exact ⟨exists_get_ofGlobals (List.forall_mem_singleton.2 fun _ => nofun), nofun, rfl⟩

end Session

end SceneCourse
