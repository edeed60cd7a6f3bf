import SceneCourse.Proofs.Rereading

/-! Course documents as they are written back. Every record of a document, from its matchers to the
whole course, is read again from what is written for it, so writing back is stable: whatever
document a course was read from, the document written for it is read as the same course and written
the same way again. -/

namespace SceneCourse

open Checked

theorem Matcher.rereads : Rereads read dump := by
  intro v m h
  obtain ⟨es, h₀⟩ := exists_of_readRecord h
  obtain ⟨_, extras, h₁, kept, rfl⟩ := seq_eq_ok h₀
  obtain ⟨_, target, h₂, aimed, rfl⟩ := seq_eq_ok h₁
  obtain ⟨event, named, rfl⟩ := map_eq_ok h₂
  rw [read, dump, readRecord_object]
  refine seq_ok (seq_ok (map_ok _ ?_) ?_) (readExtras_keyed rfl (unclaimed_of_readExtras kept))
  · exact Value.rereads_text.required named rfl
  · exact Value.rereads_optionalText.optional rfl aimed rfl

theorem Trigger.rereads : Rereads read dump := by
  intro v t h
  obtain ⟨es, h₀⟩ := exists_of_readRecord h
  obtain ⟨_, extras, h₁, kept, rfl⟩ := seq_eq_ok h₀
  obtain ⟨_, alternative, h₂, otherwise, rfl⟩ := seq_eq_ok h₁
  obtain ⟨_, consequent, h₃, acts, rfl⟩ := seq_eq_ok h₂
  obtain ⟨_, conditions, h₄, guarded, rfl⟩ := seq_eq_ok h₃
  obtain ⟨on, listens, rfl⟩ := map_eq_ok h₄
  rw [read, dump, readRecord_object]
  refine seq_ok (seq_ok (seq_ok (seq_ok (map_ok _ ?_) ?_) ?_) ?_)
    (readExtras_keyed rfl (unclaimed_of_readExtras kept))
  · exact Matcher.rereads.required listens rfl
  · exact Condition.rereads.optionalList.optional rfl guarded rfl
  · exact Action.rereads.list.optional rfl acts rfl
  · exact Action.rereads.optionalList.optional rfl otherwise rfl

theorem Node.rereads : Rereads read dump := by
  intro v n h
  obtain ⟨es, h₀⟩ := exists_of_readRecord h
  obtain ⟨_, extras, h₁, kept, rfl⟩ := seq_eq_ok h₀
  obtain ⟨_, props, h₂, equipped, rfl⟩ := seq_eq_ok h₁
  obtain ⟨_, kind, h₃, typed, rfl⟩ := seq_eq_ok h₂
  obtain ⟨id, named, rfl⟩ := map_eq_ok h₃
  rw [read, dump, readRecord_object]
  refine seq_ok (seq_ok (seq_ok (map_ok _ ?_) ?_) ?_)
    (readExtras_keyed rfl (unclaimed_of_readExtras kept))
  · exact Value.rereads_text.required named rfl
  · exact Value.rereads_text.optional rfl typed rfl
  · exact Value.rereads_textMap.optional rfl equipped rfl

theorem Scene.rereads : Rereads read dump := by
  intro v s h
  obtain ⟨es, h₀⟩ := exists_of_readRecord h
  obtain ⟨_, extras, h₁, kept, rfl⟩ := seq_eq_ok h₀
  obtain ⟨_, triggers, h₂, listens, rfl⟩ := seq_eq_ok h₁
  obtain ⟨_, nodes, h₃, shows, rfl⟩ := seq_eq_ok h₂
  obtain ⟨_, vars, h₄, remembers, rfl⟩ := seq_eq_ok h₃
  obtain ⟨id, named, rfl⟩ := map_eq_ok h₄
  rw [read, dump, readRecord_object]
  refine seq_ok (seq_ok (seq_ok (seq_ok (map_ok _ ?_) ?_) ?_) ?_)
    (readExtras_keyed rfl (unclaimed_of_readExtras kept))
  · exact Value.rereads_text.required named rfl
  · exact Value.rereads_textMap.optional rfl remembers rfl
  · exact Node.rereads.list.optional rfl shows rfl
  · exact Trigger.rereads.list.optional rfl listens rfl

theorem Meta.rereads : Rereads read dump := by
  intro v m h
  obtain ⟨es, h₀⟩ := exists_of_readRecord h
  obtain ⟨_, extras, h₁, kept, rfl⟩ := seq_eq_ok h₀
  obtain ⟨_, version, h₂, dated, rfl⟩ := seq_eq_ok h₁
  obtain ⟨id, named, rfl⟩ := map_eq_ok h₂
  rw [read, dump, readRecord_object]
  refine seq_ok (seq_ok (map_ok _ ?_) ?_) (readExtras_keyed rfl (unclaimed_of_readExtras kept))
  · exact Value.rereads_text.required named rfl
  · exact Value.rereads_text.optional rfl dated rfl

theorem Globals.rereads : Rereads read dump := by
  intro v g h
  obtain ⟨es, h₀⟩ := exists_of_readRecord h
  obtain ⟨_, extras, h₁, kept, rfl⟩ := seq_eq_ok h₀
  obtain ⟨vars, remembers, rfl⟩ := map_eq_ok h₁
  rw [read, dump, readRecord_object]
  have again : readExtras (keyed ([("vars", .object vars)] ++ extras)) [["vars"]] = .ok extras :=
    readExtras_keyed rfl (unclaimed_of_readExtras kept)
  exact seq_ok (map_ok _ (Value.rereads_textMap.optional rfl remembers rfl)) again

namespace Course

theorem parse_eq_ok {v : Value} {c : Course} : parse v = .ok c ↔ read v = .ok c := by
  have whole : ofValue v = .ok c ↔ read v = .ok c := toExcept_eq_ok
  rw [← whole]
  unfold parse
  split
  next refused => simp [refused]
  next => rfl

/-- A course is read again from the document that is written for it; only the marks of what was held
at several places are not written. -/
theorem read_dump {v : Value} {c : Course} (h : read v = .ok c) :
    read c.dump = .ok { c with marks := 0 } := by
  obtain ⟨es, h₀⟩ := exists_of_readRecord h
  obtain ⟨_, extras, h₁, kept, rfl⟩ := seq_eq_ok h₀
  obtain ⟨_, scenes, h₂, shows, rfl⟩ := seq_eq_ok h₁
  obtain ⟨_, start, h₃, begins, rfl⟩ := seq_eq_ok h₂
  obtain ⟨_, globals, h₄, shared, rfl⟩ := seq_eq_ok h₃
  obtain ⟨_, about, h₅, told, rfl⟩ := seq_eq_ok h₄
  obtain ⟨schema, follows, rfl⟩ := map_eq_ok h₅
  rw [read, dump, readRecord_object]
  refine seq_ok (seq_ok (seq_ok (seq_ok (seq_ok (map_ok _ ?_) ?_) ?_) ?_) ?_)
    (readExtras_keyed rfl (unclaimed_of_readExtras kept))
  · exact Value.rereads_text.optional rfl follows rfl
  · exact Meta.rereads.required told rfl
  · exact Globals.rereads.optional rfl shared rfl
  · exact Value.rereads_text.required begins rfl
  · exact Scene.rereads.list.optional rfl shows rfl

/-- Writing back is stable. The document written for a course is accepted, as the same course with
the same actions, conditions, fields and kept entries, and is written the same way again. -/
theorem parse_dump {d : Value} {c : Course} (accepted : parse d = .ok c) :
    parse c.dump = .ok { c with marks := 0 } ∧ dump { c with marks := 0 } = c.dump :=
  ⟨parse_eq_ok.mpr (read_dump (parse_eq_ok.mp accepted)), rfl⟩

/-- A document with fields under their second names and under both, a number written as a text, and
truth values for tags. -/
def twiceNamed : Value := .object [("schema_id", .str "v2"), ("schema", .str "v1"),
  ("meta", .object [("id", .str "m")]), ("start_scene_id", .str "s"), ("author", .null),
  ("scenes", .ofList [.object [("id", .str "s"),
    ("triggers", .ofList [.object [("on", .object [("event", .str "click")]),
      ("conditions", .ofList [.object [("op", .str "not"),
        ("conditions", .ofList [.object [("op", .bool true), ("of", .int 1)]])]]),
      ("then", .ofList [.object [("action", .str "addScore"), ("value", .str "2")]]),
      ("otherwise", .null),
        ("else", .ofList [.object [("action", .bool false), ("by", .str "2")]])]])]])]

def twiceNamedCourse : Course where
  schema := "v1"
  about := ⟨"m", "1.0.0", []⟩
  globals := ⟨[], []⟩
  start := "s"
  scenes :=
    [⟨"s", [], [], [⟨⟨"click", none, []⟩, some [.logical .not [.unknown "True" [("of", .int 1)]]],
    [.addScore (.int 2)], some [.unknown "False" [("by", .str "2")]], [("otherwise", .null)]⟩], []⟩]
  extras := [("schema_id", .str "v2"), ("author", .null)]

theorem parse_twiceNamed : parse twiceNamed = .ok twiceNamedCourse := by with_unfolding_all rfl

theorem parse_dump_twiceNamed : parse twiceNamed = .ok twiceNamedCourse ∧
    parse twiceNamedCourse.dump = .ok { twiceNamedCourse with marks := 0 } :=
  ⟨parse_twiceNamed, (parse_dump parse_twiceNamed).1⟩

end Course

end SceneCourse
