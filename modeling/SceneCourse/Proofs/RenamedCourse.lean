import SceneCourse.Proofs.JsonDocument
import SceneCourse.Proofs.Marks
import SceneCourse.Proofs.RenamedAnswer
import SceneCourse.Session.Running

/-! Courses with other marks. What comes from outside is fresh: it holds no marks of a session, and
neither does a record. A session whose counter is ahead takes in a fresh course with marks that are
as much ahead, and a reader sees the same of its scenes. -/

namespace SceneCourse

variable {k : Nat}

open Value (renamedItems renamedEntries Edit)

/-! ### Courses -/

theorem Course.scene?_mapValues (f : Value → Value) (c : Course) (id : String) :
    (c.mapValues f).scene? id = (c.scene? id).map (Scene.mapValues f) := by
  simp only [scene?, mapValues, List.find?_map]
  rfl

theorem Course.mapVars_mapValues {f f' g : Value → Value} (h : ∀ v, f' (g v) = g (f v))
    (c : Course) : (c.mapValues g).mapVars f' = (c.mapVars f).mapValues g := by
  have scenes (s : Scene) : (s.mapValues g).mapVars f' = (s.mapVars f).mapValues g := by
    simp only [Scene.mapValues, Scene.mapVars, mapFields_comm h]
  simp only [Course.mapValues, Course.mapVars, mapFields_comm h, List.map_map,
    Function.comp_def, scenes]

namespace Action

mutual

theorem mapValues_mapValues (f g : Value → Value) (a : Action) :
    (a.mapValues g).mapValues f = a.mapValues fun v => f (g v) := by
  cases a with
  | toast text extras => simp only [mapValues, mapFields_mapFields]
  | modal text extras => simp only [mapValues, mapFields_mapFields]
  | sequence actions => simp only [mapValues, mapAllValues_mapAllValues f g actions]
  | parallel actions => simp only [mapValues, mapAllValues_mapAllValues f g actions]
  | unknown tag params => simp only [mapValues, mapFields_mapFields]
  | _ => rfl

theorem mapAllValues_mapAllValues (f g : Value → Value) (as : List Action) :
    mapAllValues f (mapAllValues g as) = mapAllValues (fun v => f (g v)) as := by
  cases as with
  | nil => rfl
  | cons a as =>
    simp only [mapAllValues, mapValues_mapValues f g a, mapAllValues_mapAllValues f g as]

end

end Action

theorem Trigger.mapValues_mapValues (f g : Value → Value) (t : Trigger) :
    (t.mapValues g).mapValues f = t.mapValues fun v => f (g v) := by
  simp only [mapValues, Matcher.mapValues, mapFields_mapFields, Action.mapAllValues_mapAllValues,
    Option.map_map,
    Function.comp_def, Condition.mapAllValues_mapAllValues]

theorem Scene.mapValues_mapValues (f g : Value → Value) (s : Scene) :
    (s.mapValues g).mapValues f = s.mapValues fun v => f (g v) := by
  have nodes (n : Node) : (n.mapValues g).mapValues f = n.mapValues fun v => f (g v) := by
    simp only [Node.mapValues, mapFields_mapFields]
  simp only [mapValues, mapFields_mapFields, List.map_map, Function.comp_def, nodes,
    Trigger.mapValues_mapValues]

theorem Course.mapValues_mapValues (f g : Value → Value) (c : Course) :
    (c.mapValues g).mapValues f = c.mapValues fun v => f (g v) := by
  simp only [mapValues, mapFields_mapFields, List.map_map, Function.comp_def,
    Scene.mapValues_mapValues]

/-! ### What no session has marked -/

/-- The value holds no marks of a session, and no names but those that all readers share. -/
def Value.Fresh (v : Value) : Prop := ∀ k, v.renamed k = v

/-- What the course holds is fresh; or it holds marks of its own, but no names. -/
structure Course.Fresh (c : Course) : Prop where
  unmarked : c.marks = 0 → ∀ k, c.mapValues (Value.renamed k) = c
  marked : c.marks ≠ 0 → ∀ k, c.mapValues (Value.renamed k) = c.mapValues (Value.shift k)

/-- A session makes its marks from the marks of a course by moving them up, further if its counter
is ahead. -/
theorem Course.Fresh.shifted {c : Course} (fresh : c.Fresh) (marked : c.marks ≠ 0) (n : Nat) :
    (c.mapValues (Value.shift n)).mapValues (Value.renamed k) = c.mapValues
      (Value.shift (n + k)) := by
  have twice : (fun v => Value.renamed k (Value.renamed n v)) = Value.renamed (n + k) :=
    funext (Value.renamed_renamed n)
  rw [← fresh.marked marked, ← fresh.marked marked, mapValues_mapValues, twice]

theorem Key.plain_plain (l : Key) : l.plain.plain = l.plain := by
  cases l with
  | float x => cases x <;> rfl
  | _ => rfl

namespace Value

mutual

@[simp] theorem plain_plain (v : Value) : v.plain.plain = v.plain := by
  cases v with
  | float x => cases x <;> rfl
  | set ks => simp only [plain, List.map_map, Function.comp_def, Key.plain_plain]
  | pair a b => rw [plain, plain, plain_plain a, plain_plain b]
  | list m xs => rw [plain, plain, plainItems_plain xs]
  | map m es => rw [plain, plain, plainEntries_plain es]
  | _ => rfl

theorem plainItems_plain (xs : List Value) : plainItems (plainItems xs) = plainItems xs := by
  cases xs with
  | nil => rfl
  | cons x xs => rw [plainItems, plainItems, plain_plain x, plainItems_plain xs]

theorem plainEntries_plain (es : List (Key × Value)) :
    plainEntries (plainEntries es) = plainEntries es := by
  cases es with
  | nil => rfl
  | cons e es =>
    rw [plainEntries, plainEntries, plain_plain e.2, plainEntries_plain es, Key.plain_plain]

end

theorem renamed_of_key_recorded {l : Key} {v : Value} (done : l.recorded = .ok v) :
    v.renamed k = v := by
  cases l with
  | float x =>
    obtain rfl := Except.ok.inj done
    cases x <;> rfl
  | bytes bs =>
    rw [Key.recorded] at done
    cases text : bytesText bs with
    | error e => simp [text, Except.map] at done
    | ok s =>
      rw [text] at done
      obtain rfl := Except.ok.inj done
      rfl
  | _ =>
    obtain rfl := Except.ok.inj done
    rfl

theorem map_renamed_of_mapM {α : Type} {f : α → Except Fault Value}
    (fresh : ∀ a v, f a = .ok v → v.renamed k = v) {as : List α} {vs : List Value}
    (done : as.mapM f = .ok vs) : vs.map (renamed k) = vs := by
  induction as generalizing vs with
  | nil =>
    obtain rfl := Except.ok.inj done
    rfl
  | cons a as ih =>
    rw [List.mapM_cons] at done
    obtain ⟨v, first, done⟩ := bind_eq_ok done
    obtain ⟨ws, rest, done⟩ := bind_eq_ok done
    obtain rfl := Except.ok.inj done
    rw [List.map_cons, fresh a v first, ih rest]

mutual

theorem renamed_of_recorded {room : Nat} {v w : Value} (done : v.recorded room = .ok w) :
    w.renamed k = w := by
  cases room with
  | zero => cases v <;> simp [recorded] at done
  | succ room =>
    cases v with
    | again m b => simp [recorded] at done
    | float x =>
      obtain rfl := Except.ok.inj done
      cases x <;> rfl
    | bytes bs => exact renamed_of_key_recorded (l := .bytes bs) done
    | set ks =>
      rw [recorded] at done
      split at done
      next => cases done
      next =>
        cases parts : ks.mapM Key.recorded with
        | error e => simp [parts, Except.map] at done
        | ok vs =>
          rw [parts] at done
          obtain rfl := Except.ok.inj done
          rw [ofList_renamed, map_renamed_of_mapM (fun _ _ => renamed_of_key_recorded) parts]
    | pair a b =>
      rw [recorded] at done
      obtain ⟨x, first, done⟩ := bind_eq_ok done
      obtain ⟨y, second, done⟩ := bind_eq_ok done
      obtain rfl := Except.ok.inj done
      rw [ofList_renamed, List.map_cons, List.map_cons, renamed_of_recorded first,
        renamed_of_recorded second]
      rfl
    | list m xs =>
      rw [recorded] at done
      obtain ⟨ys, parts, done⟩ := bind_eq_ok done
      obtain rfl := Except.ok.inj done
      rw [ofList_renamed, ← renamedItems_eq_map, renamedItems_of_recorded parts]
    | map m es =>
      rw [recorded] at done
      obtain ⟨fs, parts, done⟩ := bind_eq_ok done
      obtain rfl := Except.ok.inj done
      rw [ofEntries_renamed, renamedEntries_of_recorded rfl parts]
    | _ =>
      obtain rfl := Except.ok.inj done
      rfl
termination_by structural v

theorem renamedItems_of_recorded {room : Nat} {xs ys : List Value}
    (done : recordedItems room xs = .ok ys) : renamedItems k ys = ys := by
  cases xs with
  | nil =>
    obtain rfl := Except.ok.inj done
    rfl
  | cons x xs =>
    rw [recordedItems] at done
    obtain ⟨y, first, done⟩ := bind_eq_ok done
    obtain ⟨zs, rest, done⟩ := bind_eq_ok done
    obtain rfl := Except.ok.inj done
    rw [renamedItems, renamed_of_recorded first, renamedItems_of_recorded rest]
termination_by structural xs

theorem renamedEntries_of_recorded {room : Nat} {before : Entries Value}
    {es fs : List (Key × Value)} (fresh : renamedEntries k before = before)
    (done : recordedEntries room before es = .ok fs) : renamedEntries k fs = fs := by
  cases es with
  | nil =>
    obtain rfl := Except.ok.inj done
    exact fresh
  | cons e es =>
    rw [recordedEntries] at done
    obtain ⟨name, named, done⟩ := bind_eq_ok done
    obtain ⟨w, first, done⟩ := bind_eq_ok done
    refine renamedEntries_of_recorded ?_ done
    rw [← set_str_renamedEntries, fresh, renamed_of_recorded first]
termination_by structural es

end

end Value

/-! ### What a reader sees of a scene -/

namespace Value

theorem plain_ofList (xs : List Value) : (ofList xs).plain = ofList (xs.map plain) := by
  have items : plainItems xs = xs.map plain := by
    induction xs with
    | nil => rfl
    | cons x xs ih => rw [plainItems, ih, List.map_cons]
  rw [ofList, plain, items]
  rfl

theorem plain_object (fields : List (String × Value)) :
    (object fields).plain = object (mapFields plain fields) := by
  have entries : plainEntries (fields.map fun f => (Key.str f.1, f.2)) =
      (mapFields plain fields).map fun f => (Key.str f.1, f.2) := by
    induction fields with
    | nil => rfl
    | cons f fields ih => rw [List.map_cons, plainEntries, ih, mapFields_cons, List.map_cons]; rfl
  exact congrArg (Value.map 0) entries

theorem plain_object_congr {fields others : List (String × Value)}
    (h : mapFields plain fields = mapFields plain others) :
    (object fields).plain = (object others).plain := by rw [plain_object, plain_object, h]

theorem plain_ofList_congr {xs ys : List Value} (h : xs.map plain = ys.map plain) :
    (ofList xs).plain = (ofList ys).plain := by
  rw [plain_ofList, plain_ofList, h]

end Value

theorem plain_mapFields_renamed (fields : List (String × Value)) :
    mapFields Value.plain (mapFields (Value.renamed k) fields) =
      mapFields Value.plain fields := by simp [mapFields]

theorem mapFields_append (f : Value → Value) (xs ys : List (String × Value)) :
    mapFields f (xs ++ ys) = mapFields f xs ++ mapFields f ys := List.map_append

namespace Action

mutual

theorem plain_fields_renamed (a : Action) :
    mapFields Value.plain (a.mapValues (Value.renamed k)).fields =
      mapFields Value.plain a.fields := by
  cases a with
  | gotoScene sceneId transition => simp [mapValues, fields, mapFields]
  | setVar path value => simp [mapValues, fields, mapFields]
  | toast text extras => simp only [mapValues, fields, mapFields_cons, plain_mapFields_renamed]
  | modal text extras => simp only [mapValues, fields, mapFields_cons, plain_mapFields_renamed]
  | sequence actions =>
    simp only [mapValues, fields, mapFields_cons]
    rw [Value.plain_ofList_congr (plain_dumpAll_renamed actions)]
  | parallel actions =>
    simp only [mapValues, fields, mapFields_cons]
    rw [Value.plain_ofList_congr (plain_dumpAll_renamed actions)]
  | unknown tag params => exact plain_mapFields_renamed params
  | _ => rfl

theorem plain_dumpAll_renamed (as : List Action) :
    (dumpAll (mapAllValues (Value.renamed k) as)).map Value.plain =
      (dumpAll as).map Value.plain := by
  cases as with
  | nil => rfl
  | cons a as =>
    have tag : (a.mapValues (Value.renamed k)).tag = a.tag := by cases a <;> rfl
    have fields : (Value.object (("action", .str (a.mapValues (Value.renamed k)).tag) ::
        (a.mapValues (Value.renamed k)).fields)).plain =
            (Value.object (("action", .str a.tag) :: a.fields)).plain := by
      refine Value.plain_object_congr ?_
      rw [mapFields_cons, mapFields_cons, plain_fields_renamed a, tag]
    rw [mapAllValues, dumpAll, dumpAll, List.map_cons, List.map_cons, fields,
      plain_dumpAll_renamed as]

end

end Action

theorem Node.plain_dump_renamed (n : Node) :
    (n.mapValues (Value.renamed k)).dump.plain = n.dump.plain := by
  refine Value.plain_object_congr ?_
  have props : (Value.object (mapFields (Value.renamed k) n.props)).plain =
      (Value.object n.props).plain :=
    Value.plain_object_congr (plain_mapFields_renamed n.props)
  simp only [mapFields_append, mapFields_cons, Node.mapValues, plain_mapFields_renamed, props]

theorem Trigger.plain_dump_renamed (t : Trigger) :
    (t.mapValues (Value.renamed k)).dump.plain = t.dump.plain := by
  refine Value.plain_object_congr ?_
  have on : (t.on.mapValues (Value.renamed k)).dump.plain = t.on.dump.plain := by
    refine Value.plain_object_congr ?_
    simp only [mapFields_append, Matcher.mapValues, plain_mapFields_renamed]
  have conditions : Value.plain
      ((t.conditions.map (Condition.mapAllValues (Value.renamed k))).elim .null fun cs =>
      .ofList (cs.map (·.dump))) = Value.plain
          (t.conditions.elim .null fun cs => .ofList (cs.map (·.dump))) := by
    cases t.conditions with
    | none => rfl
    | some cs =>
      refine Value.plain_ofList_congr ?_
      rw [← Condition.dumpAll_eq_map, Condition.dumpAll_renamed, Condition.dumpAll_eq_map]
      simp
  have actions (as : List Action) :
      (Value.ofList ((Action.mapAllValues (Value.renamed k) as).map (·.dump))).plain =
      (Value.ofList (as.map (·.dump))).plain := by
    refine Value.plain_ofList_congr ?_
    rw [← Action.dumpAll_eq_map, ← Action.dumpAll_eq_map, Action.plain_dumpAll_renamed]
  have alternative : Value.plain
      ((t.alternative.map (Action.mapAllValues (Value.renamed k))).elim .null fun as =>
      .ofList (as.map (·.dump))) = Value.plain
          (t.alternative.elim .null fun as => .ofList (as.map (·.dump))) := by
    cases t.alternative with
    | none => rfl
    | some as => exact actions as
  simp only [mapFields_append, mapFields_cons, Trigger.mapValues, plain_mapFields_renamed, on,
    conditions, actions,
    alternative]

theorem Scene.plain_dump_renamed (s : Scene) :
    (s.mapValues (Value.renamed k)).dump.plain = s.dump.plain := by
  refine Value.plain_object_congr ?_
  have vars : (Value.object (mapFields (Value.renamed k) s.vars)).plain =
      (Value.object s.vars).plain :=
    Value.plain_object_congr (plain_mapFields_renamed s.vars)
  have nodes : (Value.ofList ((s.nodes.map (Node.mapValues (Value.renamed k))).map
      (·.dump))).plain =
      (Value.ofList (s.nodes.map (·.dump))).plain := by
    refine Value.plain_ofList_congr ?_
    simp [Function.comp_def, Node.plain_dump_renamed]
  have triggers :
      (Value.ofList ((s.triggers.map (Trigger.mapValues (Value.renamed k))).map (·.dump))).plain =
      (Value.ofList (s.triggers.map (·.dump))).plain := by
    refine Value.plain_ofList_congr ?_
    simp [Function.comp_def, Trigger.plain_dump_renamed]
  simp only [mapFields_append, mapFields_cons, Scene.mapValues, plain_mapFields_renamed, vars,
    nodes, triggers]

/-! ### Courses of a session -/

namespace Session

theorem adoptVars_renamed {next : Nat} (later : 2 < next) (vs : List (String × Value)) :
    adoptVars (next + k) (mapFields (Value.renamed k) vs) =
      (mapFields (Value.renamed k) (adoptVars next vs).1, (adoptVars next vs).2 + k) := by
  induction vs generalizing next with
  | nil => rfl
  | cons v vs ih =>
    obtain ⟨name, v⟩ := v
    have grown := (Value.marks_copy next v).1
    rw [mapFields_cons, adoptVars, adoptVars, Value.copy_renamed later]
    simp only [ih (Nat.lt_of_lt_of_le later grown), mapFields_cons]

theorem le_adoptVars (next : Nat) (vs : List (String × Value)) : next ≤ (adoptVars next vs).2 := by
  induction vs generalizing next with
  | nil => exact Nat.le_refl _
  | cons v vs ih => exact Nat.le_trans (Value.marks_copy next v.2).1 (ih _)

theorem adoptScenes_renamed {next : Nat} (later : 2 < next) (ss : List Scene) :
    adoptScenes (next + k) (ss.map (Scene.mapValues (Value.renamed k))) =
      ((adoptScenes next ss).1.map (Scene.mapValues (Value.renamed k)),
        (adoptScenes next ss).2 + k) := by
  induction ss generalizing next with
  | nil => rfl
  | cons s ss ih =>
    rw [List.map_cons, adoptScenes, adoptScenes]
    have vars : (s.mapValues (Value.renamed k)).vars = mapFields (Value.renamed k) s.vars := rfl
    simp only [vars, adoptVars_renamed later,
      ih (Nat.lt_of_lt_of_le later (le_adoptVars next s.vars)), List.map_cons]
    rfl

theorem le_adoptScenes (next : Nat) (ss : List Scene) : next ≤ (adoptScenes next ss).2 := by
  induction ss generalizing next with
  | nil => exact Nat.le_refl _
  | cons s ss ih => exact Nat.le_trans (le_adoptVars next s.vars) (ih _)

theorem le_adoptCourse (next : Nat) (c : Course) : next ≤ (adoptCourse next c).2 := by
  rw [adoptCourse]
  split
  next => exact Nat.le_trans (le_adoptVars next _) (le_adoptScenes _ _)
  next => omega

/-- A session with a counter that is ahead takes in a fresh course with marks that are as much
ahead. -/
theorem adoptCourse_renamed {c : Course} (fresh : c.Fresh) {next : Nat} (later : 2 < next) :
    adoptCourse (next + k) c = ((adoptCourse next c).1.mapValues (Value.renamed k),
      (adoptCourse next c).2 + k) := by
  by_cases unmarked : c.marks = 0
  · have same := fresh.unmarked unmarked k
    have vars : mapFields (Value.renamed k) c.globals.vars = c.globals.vars :=
      congrArg (·.globals.vars) same
    have scenes : c.scenes.map (Scene.mapValues (Value.renamed k)) = c.scenes :=
      congrArg (·.scenes) same
    have about : mapFields (Value.renamed k) c.about.extras = c.about.extras :=
      congrArg (·.about.extras) same
    have globals : mapFields (Value.renamed k) c.globals.extras = c.globals.extras :=
      congrArg (·.globals.extras) same
    have extras : mapFields (Value.renamed k) c.extras = c.extras := congrArg (·.extras) same
    have firsts := adoptVars_renamed (k := k) later c.globals.vars
    have others := adoptScenes_renamed (k := k)
      (Nat.lt_of_lt_of_le later (le_adoptVars next c.globals.vars)) c.scenes
    rw [vars] at firsts
    rw [scenes] at others
    rw [adoptCourse, adoptCourse, if_pos unmarked, if_pos unmarked]
    simp only [firsts, others, Course.mapValues, about, globals, extras]
  · rw [adoptCourse, adoptCourse, if_neg unmarked, if_neg unmarked, fresh.shifted unmarked next]
    simp only [Prod.mk.injEq, true_and]
    omega

end Session

end SceneCourse
