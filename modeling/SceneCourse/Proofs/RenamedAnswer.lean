import Mathlib.Logic.Basic
import SceneCourse.Proofs.RenamedState
import SceneCourse.Proofs.Resolution
import SceneCourse.Session.Execution

/-! Questions about states with other marks. A question about a state, asked with values of other
marks in a state with as other marks, has the same answer up to them and leaves the same notes:
references, placeholders, conditions, and what is requested of a host. -/

namespace SceneCourse

variable {k : Nat}

open Value (renamedItems renamedEntries Edit)

/-! ### Fields -/

namespace Value

@[simp] theorem renamed_eq_null {v : Value} : v.renamed k = .null ↔ v = .null :=
  by cases v <;> simp [renamed]

@[simp] theorem ofList_renamed (xs : List Value) :
    (ofList xs).renamed k = ofList (xs.map (renamed k)) := by
  rw [ofList, renamed, renamedItems_eq_map]
  rfl

@[simp] theorem ofEntries_renamed (es : List (Key × Value)) :
    (ofEntries es).renamed k = ofEntries (renamedEntries k es) := rfl

@[simp] theorem object_renamed (fields : List (String × Value)) :
    (object fields).renamed k = object (mapFields (renamed k) fields) := by
  rw [object, ofEntries_renamed, renamedEntries_eq, Entries.renamed, List.map_map, object,
    mapFields, List.map_map]
  rfl

theorem texts_renamedEntries (es : List (Key × Value)) :
    Entries.texts (renamedEntries k es) = mapFields (renamed k) (Entries.texts es) := by
  induction es with
  | nil => rfl
  | cons e es ih =>
    obtain ⟨l, v⟩ := e
    cases l <;> simp [renamedEntries, Key.renamed, Entries.texts, mapFields, ih]

end Value

/-! ### Entries of the log -/

namespace LogEntry

def renamed (k : Nat) (e : LogEntry) : LogEntry := { e with data := e.data.renamed k }

theorem shownData_of_ne_null {e : LogEntry} (h : e.data ≠ .null) :
    e.shownData = e.data.told.map (" | " ++ ·) := by
  rw [shownData]
  split
  next null => exact absurd null h
  next => rfl

@[simp] theorem line_renamed (e : LogEntry) : (e.renamed k).line = e.line := by
  have shown : (e.renamed k).shownData = e.shownData := by
    by_cases null : e.data = .null
    · rw [renamed, null]
      simp [shownData, null, Value.renamed]
    · rw [shownData_of_ne_null null, shownData_of_ne_null (by simpa [renamed] using null), renamed,
        Value.told_renamed]
  rw [line, shown]
  rfl

theorem follow_renamed (edit : Edit) (e : LogEntry) :
    (e.renamed k).follow (edit.renamed k) = (e.follow edit).renamed k := by
  simp only [follow, renamed, Value.follow_renamed]

theorem dump_renamed (e : LogEntry) : (e.renamed k).dump = e.dump.renamed k := by
  rw [dump, dump, Value.object_renamed]
  rfl

end LogEntry

/-! ### Answers -/

namespace Noted

variable {α β α' β' : Type}

def renamed (k : Nat) (g : α → β) (x : Noted α) : Noted β :=
  ⟨x.result.map g, x.notes.map (LogEntry.renamed k)⟩

variable {g : α → β} {g' : α' → β'}

@[simp] theorem pure_renamed (a : α) : (pure a : Noted α).renamed k g = pure (g a) := rfl

@[simp] theorem ofExcept_renamed (r : Except Fault α) :
    (ofExcept r).renamed k g = ofExcept (r.map g) := rfl

theorem note_renamed (category : Category) (message : String) (data : Value) :
    (note category message data).renamed k id = note category message (data.renamed k) := by
  have line := LogEntry.line_renamed (k := k) { level := .warn, category, message, data }
  rw [note, note, renamed, Except.map_id]
  exact congrArg (fun result => Noted.mk (result.map fun _ => ()) _) line.symm

@[simp] theorem ofExcept_renamed_id (r : Except Fault α) :
    (ofExcept r).renamed k id = ofExcept r := by
  rw [ofExcept_renamed, Except.map_id]
  rfl

/-- What goes on from answers that differ in marks only, to answers that do so too, does so as a
whole. -/
theorem bind_renamed {x : Noted α} {y : Noted β} {f : α → Noted α'} {f' : β → Noted β'}
    (hx : y = x.renamed k g) (hf : ∀ a, f' (g a) = (f a).renamed k g') :
    y >>= f' = (x >>= f).renamed k g' := by
  subst hx
  show bind (x.renamed k g) f' = (bind x f).renamed k g'
  obtain ⟨result, notes⟩ := x
  cases result with
  | error e => rfl
  | ok a =>
    show (⟨(f' (g a)).result, _⟩ : Noted β') = _
    rw [hf]
    simp only [bind, renamed, List.map_append]

theorem ofExcept_bind_renamed {r : Except Fault α} {f : α → Noted α'} {h : α → Noted β'}
    (hf : ∀ a, h a = (f a).renamed k g') : ofExcept r >>= h = (ofExcept r >>= f).renamed k g' :=
  bind_renamed (ofExcept_renamed_id r).symm hf

theorem note_bind_renamed (category : Category) (message : String) (data : Value)
    {f : Unit → Noted α'} {h : Unit → Noted β'} (hf : h () = (f ()).renamed k g') :
    note category message (data.renamed k) >>= h =
      (note category message data >>= f).renamed k g' :=
  bind_renamed (note_renamed category message data).symm fun _ => hf

end Noted

/-! ### References -/

namespace Store

open Value

variable (s : Store)

@[simp] theorem fillPiece_renamed : (s.renamed k).fillPiece = s.fillPiece := by
  funext p
  cases p with
  | char c => rfl
  | slot inner =>
    have moved := get_renamed (k := k) s (.ofList (Text.stripList inner))
    cases found : s.get (.ofList (Text.stripList inner)) with
    | error e =>
      rw [fillPiece, fillPiece, moved, found]
      rfl
    | ok v =>
      rw [found] at moved
      by_cases null : v = .null
      · subst null
        rw [fillPiece, fillPiece, moved, found]
        rfl
      · rw [s.fillPiece_of_some found null, (s.renamed k).fillPiece_of_some moved
          (by simpa using null), inText_renamed]

@[simp] theorem interpolate_renamed (text : String) :
    (s.renamed k).interpolate text = s.interpolate text := by
  rw [interpolate, interpolate, fillPiece_renamed]

theorem resolve_renamed (v : Value) :
    (s.renamed k).resolve (v.renamed k) = (s.resolve v).renamed k (Value.renamed k) := by
  have noted (path : Value) : (do
        Noted.note .state "Reference path must be a string" (.object [("ref", path.renamed k)])
        return .null : Noted Value) = (do
        Noted.note .state "Reference path must be a string" (.object [("ref", path)])
        return .null : Noted Value).renamed k (Value.renamed k) := by
    rw [← Noted.note_bind_renamed (h := fun _ => pure .null) _ _ _ rfl, Value.object_renamed]
    rfl
  cases v with
  | map m es =>
    simp only [Value.renamed, resolve, get?_str_renamedEntries]
    cases Entries.get? (.str "ref") es with
    | none => rfl
    | some path =>
      have there := noted path
      cases path with
      | str path => exact congrArg Noted.ofExcept (get_renamed s path)
      | _ => exact there
  | _ => rfl

theorem withinLimit_renamed (limit : Value) (depth : Nat) (v : Value) (replaced : Noted Value) :
    withinLimit limit depth (v.renamed k) (replaced.renamed k (Value.renamed k)) =
      (withinLimit limit depth v replaced).renamed k (Value.renamed k) := by
  refine Noted.ofExcept_bind_renamed fun far => ?_
  cases far with
  | false => rfl
  | true => exact Noted.ofExcept_bind_renamed fun levels => Noted.note_bind_renamed _ _ .null rfl

theorem isReference_renamed (v : Value) : (v.renamed k).isReference = v.isReference := by
  cases v with
  | map m es => simp [Value.renamed, Value.isReference, Entries.contains]
  | _ => rfl

mutual

theorem resolveAll_renamed (limit : Value) (depth : Nat) (v : Value) :
    (s.renamed k).resolveAll limit depth (v.renamed k) = (s.resolveAll limit depth v).renamed k
      (Value.renamed k) := by
  cases v with
  | str text =>
    simp only [Value.renamed, resolveAll, interpolate_renamed]
    rw [← withinLimit_renamed]
    exact congrArg (withinLimit limit depth (.str text)) (Noted.ofExcept_bind_renamed fun _ => rfl)
  | map m es =>
    have reference := isReference_renamed (k := k) (.map m es)
    simp only [Value.renamed, resolveAll] at reference ⊢
    rw [← withinLimit_renamed, reference]
    refine congrArg (withinLimit limit depth (.map (markUp k m) (renamedEntries k es))) ?_
    split
    next => exact resolve_renamed s (.map m es)
    next => exact Noted.bind_renamed (resolveEntries_renamed limit (depth + 1) es) fun _ => rfl
  | list m xs =>
    simp only [Value.renamed, resolveAll]
    rw [← withinLimit_renamed]
    refine congrArg (withinLimit limit depth (.list (markUp k m) (renamedItems k xs))) ?_
    refine Noted.bind_renamed (resolveItems_renamed limit (depth + 1) xs) fun ys => ?_
    rw [Noted.pure_renamed, ofList_renamed, renamedItems_eq_map]
  | pair a b =>
    simp only [Value.renamed, resolveAll]
    rw [← withinLimit_renamed]
    refine congrArg (withinLimit limit depth (.pair (a.renamed k) (b.renamed k))) ?_
    refine Noted.bind_renamed (resolveAll_renamed limit (depth + 1) a) fun _ => ?_
    exact Noted.bind_renamed (resolveAll_renamed limit (depth + 1) b) fun _ => rfl
  | _ => exact withinLimit_renamed limit depth _ (pure _)

theorem resolveItems_renamed (limit : Value) (depth : Nat) (xs : List Value) :
    (s.renamed k).resolveItems limit depth (renamedItems k xs) =
      (s.resolveItems limit depth xs).renamed k (renamedItems k) := by
  cases xs with
  | nil => rfl
  | cons x xs =>
    refine Noted.bind_renamed (resolveAll_renamed limit depth x) fun _ => ?_
    exact Noted.bind_renamed (resolveItems_renamed limit depth xs) fun _ => rfl

theorem resolveEntries_renamed (limit : Value) (depth : Nat) (es : List (Key × Value)) :
    (s.renamed k).resolveEntries limit depth (renamedEntries k es) =
      (s.resolveEntries limit depth es).renamed k (renamedEntries k) := by
  cases es with
  | nil => rfl
  | cons e es =>
    refine Noted.bind_renamed (resolveAll_renamed limit depth e.2) fun _ => ?_
    exact Noted.bind_renamed (resolveEntries_renamed limit depth es) fun _ => rfl

end

theorem resolveWhole_renamed (limit v : Value) :
    (s.renamed k).resolveWhole limit (v.renamed k) = (s.resolveWhole limit v).renamed k
      (Value.renamed k) := by
  rw [resolveWhole, isCyclic_renamed]
  split
  next cyclic => rw [unroll_renamed, resolveAll_renamed, resolveWhole, if_pos cyclic]
  next open_ => rw [resolveAll_renamed, resolveWhole, if_neg open_]

end Store

/-! ### Conditions -/

theorem mapFields_mapFields (f g : Value → Value) (fields : List (String × Value)) :
    mapFields f (mapFields g fields) = mapFields (fun v => f (g v)) fields := by simp [mapFields]

theorem mapFields_comm {f f' g : Value → Value} (h : ∀ v, f' (g v) = g (f v))
    (fields : List (String × Value)) :
    mapFields f' (mapFields g fields) = mapFields g (mapFields f fields) := by
  rw [mapFields_mapFields, mapFields_mapFields, funext h]

theorem mapFields_cons (f : Value → Value) (name : String) (v : Value)
    (fields : List (String × Value)) :
    mapFields f ((name, v) :: fields) = (name, f v) :: mapFields f fields := rfl

namespace Condition

mutual

theorem dump_renamed (c : Condition) : (c.mapValues (Value.renamed k)).dump = c.dump.renamed k := by
  cases c with
  | comparison op left right =>
    rw [mapValues, dump, dump, Value.object_renamed]
    rfl
  | logical op cs =>
    rw [mapValues, dump, dump, Value.object_renamed, dumpAll_renamed cs, ← Value.ofList_renamed]
    rfl
  | unknown op extras =>
    rw [mapValues, dump, dump, Value.object_renamed]
    rfl

theorem dumpAll_renamed (cs : List Condition) :
    dumpAll (mapAllValues (Value.renamed k) cs) = (dumpAll cs).map (Value.renamed k) := by
  cases cs with
  | nil => rfl
  | cons c cs =>
    rw [mapAllValues, dumpAll, dumpAll, dump_renamed c, dumpAll_renamed cs, List.map_cons]

end

mutual

theorem mapValues_mapValues (f g : Value → Value) (c : Condition) :
    (c.mapValues g).mapValues f = c.mapValues fun v => f (g v) := by
  cases c with
  | comparison op left right => rfl
  | logical op cs => simp only [mapValues, mapAllValues_mapAllValues f g cs]
  | unknown op extras => simp only [mapValues, mapFields_mapFields]

theorem mapAllValues_mapAllValues (f g : Value → Value) (cs : List Condition) :
    mapAllValues f (mapAllValues g cs) = mapAllValues (fun v => f (g v)) cs := by
  cases cs with
  | nil => rfl
  | cons c cs =>
    simp only [mapAllValues, mapValues_mapValues f g c, mapAllValues_mapAllValues f g cs]

end

theorem mapAllValues_comm {f f' g : Value → Value} (h : ∀ v, f' (g v) = g (f v))
    (cs : List Condition) :
    mapAllValues f' (mapAllValues g cs) = mapAllValues g (mapAllValues f cs) := by
  rw [mapAllValues_mapAllValues, mapAllValues_mapAllValues, funext h]

theorem mapAllValues_eq_map (f : Value → Value) (cs : List Condition) :
    mapAllValues f cs = cs.map (mapValues f) := by
  induction cs with
  | nil => rfl
  | cons c cs ih => rw [mapAllValues, ih, List.map_cons]

end Condition

namespace Store

variable (s : Store)

/-- What counts of a value as a number is the same. -/
theorem nameless_toNumber_renamed (v : Value) :
    (v.renamed k).toNumber.map Binary64.nameless = v.toNumber.map Binary64.nameless := by
  cases v with
  | float x => exact congrArg Except.ok (Binary64.nameless_renamed x)
  | _ => rfl

/-- Two numbers that count alike: both are none, or they have the same place on the line. -/
theorem sameNumber {x y : Except Fault Binary64}
    (h : x.map Binary64.nameless = y.map Binary64.nameless) :
    (∃ e, x = .error e ∧ y = .error e) ∨
      ∃ a b, x = .ok a ∧ y = .ok b ∧ a.isNaN = b.isNaN ∧ a.extended? = b.extended? := by
  cases x with
  | error e =>
    cases y with
    | error f =>
      obtain rfl := Except.error.inj h
      exact Or.inl ⟨e, rfl, rfl⟩
    | ok b => cases h
  | ok a =>
    cases y with
    | error f => cases h
    | ok b =>
      refine Or.inr ⟨a, b, rfl, rfl, ?_⟩
      have same := Except.ok.inj h
      cases a <;> cases b <;> simp_all [Binary64.nameless, Binary64.isNaN, Binary64.extended?]

theorem compare_renamed (op : CompareOp) (left right : Value) :
    compare op (left.renamed k) (right.renamed k) = (compare op left right).renamed k id := by
  have ordered (op : CompareOp) : (do
      let x ← Noted.ofExcept (left.renamed k).toNumber
      let y ← Noted.ofExcept (right.renamed k).toNumber
      if x.isNaN || y.isNaN then
        Noted.note .condition s!"Comparison operands must be numbers ({op.name})"
          (.object [("left", left.renamed k), ("right", right.renamed k)])
        return false
      else return op.orders x y : Noted Bool) = (do
      let x ← Noted.ofExcept left.toNumber
      let y ← Noted.ofExcept right.toNumber
      if x.isNaN || y.isNaN then
        Noted.note .condition s!"Comparison operands must be numbers ({op.name})"
          (.object [("left", left), ("right", right)])
        return false
      else return op.orders x y : Noted Bool).renamed k id := by
    rcases sameNumber (nameless_toNumber_renamed (k := k) left)
      with ⟨e, now, was⟩ | ⟨x', x, now, was, nanL, extL⟩
    · rw [now, was]
      rfl
    rcases sameNumber (nameless_toNumber_renamed (k := k) right)
      with ⟨e, now', was'⟩ | ⟨y', y, now', was', nanR, extR⟩
    · rw [now, was, now', was']
      rfl
    rw [now, was, now', was']
    refine Noted.ofExcept_bind_renamed (r := .ok ()) (f := fun _ => _) (h := fun _ => _) fun _ => ?_
    refine Noted.ofExcept_bind_renamed (r := .ok ()) (f := fun _ => _) (h := fun _ => _) fun _ => ?_
    have orders : op.orders x' y' = op.orders x y := by
      cases op <;> simp only [CompareOp.orders, Binary64.lt, Binary64.le, Binary64.eq, extL, extR]
    rw [nanL, nanR, orders]
    split
    next =>
      have data : Value.object [("left", left.renamed k), ("right", right.renamed k)] =
          (Value.object [("left", left), ("right", right)]).renamed k := by
        rw [Value.object_renamed]
        rfl
      rw [data]
      exact Noted.note_bind_renamed _ _ _ rfl
    next => rfl
  cases op with
  | equals =>
    simp only [compare, Value.strictlySame_renamed]
    rfl
  | notEquals =>
    simp only [compare, Value.strictlySame_renamed]
    rfl
  | _ => exact ordered _

theorem withinDepth_renamed (limit : Value) (depth : Nat) (answer : Noted Bool) :
    withinDepth limit depth (answer.renamed k id) =
      (withinDepth limit depth answer).renamed k id := by
  refine Noted.ofExcept_bind_renamed fun far => ?_
  cases far with
  | false => rfl
  | true =>
    refine Noted.bind_renamed (g := id) (x := depthNote limit) ?_ fun _ => rfl
    exact Noted.ofExcept_bind_renamed fun levels => (Noted.note_renamed _ _ .null).symm

mutual

theorem holds_renamed (limit : Value) (depth : Nat) (c : Condition) :
    (s.renamed k).holds limit depth (c.mapValues (Value.renamed k)) =
      (s.holds limit depth c).renamed k id := by
  cases c with
  | comparison op left right =>
    rw [Condition.mapValues, holds, holds, ← withinDepth_renamed]
    refine congrArg (withinDepth limit depth) ?_
    refine Noted.bind_renamed (resolve_renamed s left) fun _ => ?_
    exact Noted.bind_renamed (resolve_renamed s right) fun _ => compare_renamed op _ _
  | logical op cs =>
    cases op with
    | and =>
      rw [Condition.mapValues, holds, holds, ← withinDepth_renamed,
        allHold_renamed limit (depth + 1) cs]
    | or =>
      rw [Condition.mapValues, holds, holds, ← withinDepth_renamed,
        anyHolds_renamed limit (depth + 1) cs]
    | not =>
      cases cs with
      | nil =>
        rw [Condition.mapValues, Condition.mapAllValues, holds, holds, ← withinDepth_renamed]
        rfl
      | cons c cs =>
        rw [Condition.mapValues, Condition.mapAllValues, holds, holds, ← withinDepth_renamed]
        refine congrArg (withinDepth limit depth) ?_
        exact Noted.bind_renamed (holds_renamed limit (depth + 1) c) fun _ => rfl
  | unknown op extras =>
    have noted := Condition.dump_renamed (k := k) (.unknown op extras)
    rw [Condition.mapValues] at noted ⊢
    rw [holds, holds, ← withinDepth_renamed, noted]
    exact congrArg (withinDepth limit depth) (Noted.note_bind_renamed _ _ _ rfl)

theorem allHold_renamed (limit : Value) (depth : Nat) (cs : List Condition) :
    (s.renamed k).allHold limit depth (Condition.mapAllValues (Value.renamed k) cs) =
      (s.allHold limit depth cs).renamed k id := by
  cases cs with
  | nil => rfl
  | cons c cs =>
    refine Noted.bind_renamed (holds_renamed limit depth c) fun held => ?_
    cases held with
    | true => exact allHold_renamed limit depth cs
    | false => rfl

theorem anyHolds_renamed (limit : Value) (depth : Nat) (cs : List Condition) :
    (s.renamed k).anyHolds limit depth (Condition.mapAllValues (Value.renamed k) cs) =
      (s.anyHolds limit depth cs).renamed k id := by
  cases cs with
  | nil => rfl
  | cons c cs =>
    refine Noted.bind_renamed (holds_renamed limit depth c) fun held => ?_
    cases held with
    | true => rfl
    | false => exact anyHolds_renamed limit depth cs

end

end Store

/-! ### Requests -/

def UiRequest.renamed (k : Nat) (r : UiRequest) : UiRequest :=
  { r with options := mapFields (Value.renamed k) r.options }

namespace Value

theorem complaint?_renamed (l : Key) : (l.renamed k).complaint? = l.complaint? := by cases l <;> rfl

theorem place_renamed (l : Key) : (l.renamed k).place = l.place := by
  cases l with
  | float x => exact congrArg Place.field (Key.literal_renamed (.float x))
  | _ => rfl

theorem keyComplaints_renamed (es : List (Key × Value)) :
    keyComplaints Key.complaint? (renamedEntries k es) = keyComplaints Key.complaint? es := by
  induction es with
  | nil => rfl
  | cons e es ih => simp only [renamedEntries, keyComplaints, complaint?_renamed, place_renamed, ih]

theorem textEntries_renamed (es : List (Key × Value)) :
    textEntries (renamedEntries k es) = mapFields (renamed k) (textEntries es) := by
  rw [textEntries, textEntries, apply_ite (mapFields (renamed k))]
  refine if_congr ?_ ?_ (texts_renamedEntries es)
  · rw [renamedEntries_eq, Entries.renamed, List.any_map]
    refine iff_of_eq (congrArg (es.any · = true) (funext fun e => ?_))
    obtain ⟨l, v⟩ := e
    cases l <;> rfl
  · rw [← texts_renamedEntries, ← setAll_renamedEntries]
    refine congrArg (fun es => (Entries.setAll es []).texts) ?_
    rw [renamedEntries_eq, renamedEntries_eq, Entries.renamed, Entries.renamed,
      List.map_map, List.map_map]
    refine List.map_congr_left fun e _ => ?_
    obtain ⟨l, v⟩ := e
    cases l <;> rfl

theorem readTextMap_renamed (v : Value) :
    (v.renamed k).readTextMap = v.readTextMap.map (mapFields (renamed k)) := by
  cases v with
  | map m es =>
    simp only [renamed, readTextMap, keyComplaints_renamed, entries_renamed, textEntries_renamed]
    split <;> rfl
  | _ => rfl

end Value

namespace Session

variable (s : Store)

theorem request_renamed (kind : UiKind) (text : String) (extras : List (String × Value))
    (limits : Limits) :
    request kind text (mapFields (Value.renamed k) extras) (s.renamed k) limits =
      (request kind text extras s limits).renamed k (UiRequest.renamed k) := by
  rw [request, Store.interpolate_renamed, ← Value.object_renamed]
  refine Noted.ofExcept_bind_renamed fun text => ?_
  refine Noted.bind_renamed (Store.resolveWhole_renamed s _ _) fun options => ?_
  have read : ((((options.renamed k).readTextMap).inside (.field "options")).toExcept "UIAction") =
      (((options.readTextMap).inside (.field "options")).toExcept "UIAction").map
          (mapFields (Value.renamed k)) := by
    rw [Value.readTextMap_renamed]
    cases options.readTextMap <;> rfl
  rw [read, ← Noted.ofExcept_renamed (k := k)]
  exact Noted.bind_renamed rfl fun _ => rfl

end Session

end SceneCourse
