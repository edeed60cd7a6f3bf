import SceneCourse.Proofs.JsonWritten
import SceneCourse.Proofs.LogWindow
import SceneCourse.Proofs.Marks

/-! A log that is exported, and imported again. Proved for data that JSON knows, every indent, and
readers with any room or none of a limit: another log that has the space for them gets the same
entries just if every entry is portable. Its data have no more levels than a record takes and the
reader has room for, and its integers have no more digits than are written. What was imported once
is portable but for the levels of its data. -/

namespace SceneCourse

open Value

/-- The rules for records, with another limit on what stands inside each other. -/
def Json.Rules.recordsWithin (depth : Option Nat) : Rules := { records with depth := depth }

section

variable {α : Type} {fields : List (String × Value)} {name : String} {others : List String}
  {read : Value → Checked α} {v : Value} {a absent : α}

theorem exists_of_findField {es : List (Key × Value)} {names : List String}
    (found : findField es names = some (name, v)) : ∃ e ∈ es, e.2 = v := by
  induction names with
  | nil => cases found
  | cons first names ih =>
    rw [findField] at found
    split at found
    next there =>
      cases found
      obtain ⟨l, mem⟩ := Value.exists_of_get? there
      exact ⟨(l, v), mem, rfl⟩
    next => exact ih found

theorem exists_of_requiredField {es : List (Key × Value)} {names : List String}
    (found : requiredField es names read = .ok a) : ∃ e ∈ es, read e.2 = .ok a := by
  rw [requiredField] at found
  split at found
  next there =>
    obtain ⟨e, mem, rfl⟩ := exists_of_findField there
    exact ⟨e, mem, Checked.inside_eq_ok.mp found⟩
  next => cases found

theorem exists_of_optionalField {es : List (Key × Value)} {names : List String}
    (found : optionalField es names absent read = .ok a) :
    a = absent ∨ ∃ e ∈ es, read e.2 = .ok a := by
  rw [optionalField] at found
  split at found
  next there =>
    obtain ⟨e, mem, rfl⟩ := exists_of_findField there
    exact .inr ⟨e, mem, Checked.inside_eq_ok.mp found⟩
  next =>
    cases found
    exact .inl rfl

theorem requiredField_keyed (there : fields.lookup name = some v) (found : read v = .ok a) :
    requiredField (keyed fields) (name :: others) read = .ok a := by
  rw [requiredField, findField_keyed there]
  exact Checked.inside_eq_ok.mpr found

theorem optionalField_keyed (there : fields.lookup name = some v) (found : read v = .ok a) :
    optionalField (keyed fields) (name :: others) absent read = .ok a := by
  rw [optionalField, findField_keyed there]
  exact Checked.inside_eq_ok.mpr found

end

namespace LogEntry

/-- An entry that comes through an export and an import by a reader with some room. The list of all
entries and the entry itself take two levels of it. -/
structure Portable (depth : Option Nat) (e : LogEntry) : Prop where
  levels : e.data.levels ≤ mostLevels
  room : ∀ most ∈ depth, e.data.levels < most
  integers : ∀ n ∈ e.data.integers, Json.IsShort n
  time : Json.IsShort e.time

instance (depth : Option Nat) : DecidablePred (Portable depth) := fun e =>
  decidable_of_iff (e.data.levels ≤ mostLevels ∧ (∀ most ∈ depth, e.data.levels < most) ∧
    (∀ n ∈ e.data.integers, Json.IsShort n) ∧ Json.IsShort e.time)
    ⟨fun ⟨levels, room, integers, time⟩ => ⟨levels, room, integers, time⟩,
      fun h => ⟨h.levels, h.room, h.integers, h.time⟩⟩

variable {e : LogEntry}

/-! ### Records of entries -/

def fields (e : LogEntry) : List (String × Value) :=
  [("level", .str e.level.name), ("category", .str e.category.name), ("message", .str e.message),
    ("data", e.data),
    ("timestamp", .int e.time)]

theorem dump_eq (e : LogEntry) : e.dump = .map 0 (keyed e.fields) := rfl

theorem isData_dump (data : e.data.IsData) : e.dump.IsData := by
  have names : (e.fields.map (·.1)).Nodup := by
    show ["level", "category", "message", "data", "timestamp"].Nodup
    decide
  refine .map 0 names fun f mem => ?_
  simp only [List.mem_cons, List.not_mem_nil, or_false] at mem
  rcases mem with rfl | rfl | rfl | rfl | rfl
  · exact .str _
  · exact .str _
  · exact .str _
  · exact data
  · exact .int _

theorem levels_dump (e : LogEntry) : e.dump.levels = e.data.levels + 1 := by
  have positive := levels_pos e.data
  show max 1 (max 1 (max 1 (max e.data.levels (max 1 0)))) + 1 = _
  omega

theorem integers_dump (e : LogEntry) : e.dump.integers = e.data.integers ++ [e.time] := rfl

theorem plain_dump (e : LogEntry) : e.dump.plain = e.seen.dump := rfl

theorem readLevel_name (l : Level) : readLevel (.str l.name) = .ok l := by cases l <;> rfl

theorem readCategory_name (c : Category) : readCategory (.str c.name) = .ok c := by cases c <;> rfl

theorem read_dump (e : LogEntry) : read e.dump = .ok e := by
  have level : requiredField (keyed e.fields) ["level"] readLevel = .ok e.level :=
    requiredField_keyed rfl (readLevel_name e.level)
  have category : requiredField (keyed e.fields) ["category"] readCategory = .ok e.category :=
    requiredField_keyed rfl (readCategory_name e.category)
  have message : requiredField (keyed e.fields) ["message"] Value.readText = .ok e.message :=
    requiredField_keyed rfl rfl
  have data : optionalField (keyed e.fields) ["data"] .null .ok = .ok e.data :=
    optionalField_keyed rfl rfl
  have time : optionalField (keyed e.fields) ["timestamp"] 0 Value.readInteger = .ok e.time :=
    optionalField_keyed rfl rfl
  rw [dump_eq, read, Value.readRecord, entries_zero, level, category, message, data, time]
  rfl

/-! ### Entries that were read -/

theorem isShort_of_small {n : Int} (small : n.natAbs < 0x8000000000000000) : Json.IsShort n := by
  have wide : 0x8000000000000000 ≤ 10 ^ 19 := by decide
  exact Json.isShort_of_lt (Nat.lt_of_lt_of_le small wide) (by decide)

theorem isShort_readInteger {v : Value} (written : v.Written) {n : Int}
    (read : v.readInteger = .ok n) : Json.IsShort n := by
  cases written with
  | int short =>
    cases read
    exact short
  | bool b =>
    cases read
    cases b
    · exact leastLong_pos
    · exact Json.isShort_of_lt (show 1 < 10 ^ 1 by decide) (by decide)
  | float x =>
    rw [Value.readInteger, Value.floatInteger] at read
    split at read
    next m _ =>
      split at read <;> cases read
      exact isShort_of_small ‹_›
    next => split at read <;> cases read
  | str s =>
    rw [Value.readInteger] at read
    split at read <;> cases read
    exact Lenient.isShort_integer ‹_›
  | _ => cases read

/-- What is read from a value without shared parts has none either, lies deeper in it, and is timed
by a short integer. -/
theorem written_of_read {w : Value} (written : w.Written) (found : read w = .ok e) :
    e.data.Written ∧ e.data.levels < w.levels ∧ Json.IsShort e.time := by
  cases written with
  | @map es each =>
    rw [read, Value.readRecord, entries_zero] at found
    obtain ⟨_, time, dated, timed, rfl⟩ := Checked.seq_eq_ok found
    obtain ⟨_, data, told, carried, rfl⟩ := Checked.seq_eq_ok dated
    obtain ⟨_, message, sorted, -, rfl⟩ := Checked.seq_eq_ok told
    obtain ⟨_, category, graded, -, rfl⟩ := Checked.seq_eq_ok sorted
    obtain ⟨level, leveled, rfl⟩ := Checked.map_eq_ok graded
    have inner : ∀ f ∈ es, f.2.levels < (Value.map 0 es).levels :=
      fun f mem => Nat.lt_succ_of_le (entriesLevels_le_iff.mp le_rfl f mem)
    have short : Json.IsShort time := by
      rcases exists_of_optionalField timed with rfl | ⟨f, mem, read⟩
      · exact leastLong_pos
      · exact isShort_readInteger (each f mem) read
    rcases exists_of_optionalField carried with rfl | ⟨f, mem, read⟩
    · obtain ⟨f, mem, -⟩ := exists_of_requiredField leveled
      exact ⟨.null, Nat.lt_of_le_of_lt (levels_pos f.2) (inner f mem), short⟩
    · cases read
      exact ⟨each f mem, inner f mem, short⟩
  | _ => cases found

/-- An entry has a record unless its data have too many levels. -/
theorem record_dump (data : e.data.IsData) :
    e.dump.record = if e.data.levels ≤ mostLevels then .ok e.seen.dump else .error
      (.badValue .tooManyLevels) := by
  rw [Value.record, (isData_dump data).recorded_eq, levels_dump, plain_dump]
  exact if_congr Nat.add_le_add_iff_right rfl rfl

end LogEntry

namespace RunLog

open Json LogEntry

variable {log other : RunLog} {es : List LogEntry} {indent : Option Nat} {rules : Rules}
  {text : String}

/-! ### Export -/

def document (es : List LogEntry) : Value := .ofList (es.map dump)

theorem isData_document (data : ∀ e ∈ es, e.data.IsData) : (document es).IsData :=
  .list 0 (List.forall_mem_map.mpr fun e mem => isData_dump (data e mem))

theorem plain_document (es : List LogEntry) : (document es).plain = document (es.map seen) := by
  rw [document, ofList, plain, plainItems_eq_map, document, List.map_map, List.map_map]
  rfl

theorem forall_integers_document {p : Int → Prop} :
    (∀ n ∈ (document es).integers, p n) ↔ ∀ e ∈ es, (∀ n ∈ e.data.integers, p n) ∧ p e.time := by
  rw [document, ofList, integers, forall_itemsIntegers, List.forall_mem_map]
  simp only [integers_dump, List.forall_mem_append, List.forall_mem_singleton]

theorem mapM_record (data : ∀ e ∈ es, e.data.IsData) :
    (es.mapM fun e => e.dump.record) =
      if ∀ e ∈ es, e.data.levels ≤ mostLevels then .ok ((es.map seen).map dump)
      else .error (.badValue .tooManyLevels) := by
  induction es with
  | nil => rfl
  | cons e es ih =>
    rw [List.forall_mem_cons] at data
    rw [List.mapM_cons, record_dump data.1, ih data.2]
    exact bind_guard (r := fun e : LogEntry => e.data.levels ≤ mostLevels) map_guard

/-- A log is exported as the text of its document, unless data have too many levels or an integer
has too many digits. -/
theorem exportText_eq_ok_iff (data : ∀ e ∈ log.entries, e.data.IsData) :
    log.exportText indent = .ok text ↔
      (∀ e ∈ log.entries, e.data.levels ≤ mostLevels) ∧
      (∀ e ∈ log.entries, (∀ n ∈ e.data.integers, n.natAbs < leastLong) ∧
        e.time.natAbs < leastLong) ∧
      text = print (.ofIndent true indent) (document log.entries) := by
  rw [exportText, mapM_record data]
  by_cases flat : ∀ e ∈ log.entries, e.data.levels ≤ mostLevels
  · rw [if_pos flat, and_iff_right flat]
    show Json.text (.ofIndent true indent) (document (log.entries.map seen)) = _ ↔ _
    rw [← plain_document, text_plain_eq_ok_iff (isData_document data), forall_integers_document]
  · rw [if_neg flat]
    constructor
    · intro same
      cases same
    · exact fun ends => absurd ends.1 flat

/-! ### Import -/

theorem fits_document {room : Option Nat} :
    Fits room (document es) ↔
      ∀ e ∈ es, (∀ most ∈ room, e.data.levels < most) ∧ (∀ n ∈ e.data.integers, IsShort n) ∧
      IsShort e.time := by
  have levels (most : Nat) : (document es).levels ≤ most + 1 ↔ ∀ e ∈ es, e.data.levels < most := by
    rw [document, ofList, Value.levels, Nat.add_le_add_iff_right, itemsLevels_le_iff,
      List.forall_mem_map]
    simp only [levels_dump, Nat.succ_le_iff]
  simp only [Fits, forall_integers_document, levels]
  constructor
  · exact fun h e mem => ⟨fun most limit => h.2 most limit e mem, h.1 e mem⟩
  · exact fun h => ⟨fun e mem => (h e mem).2, fun most limit e mem => (h e mem).1 most limit⟩

theorem readExport_print (strict : rules.strict = true) {style : JsonStyle} (plain : style.Plain)
    (data : ∀ e ∈ es, e.data.IsData) :
    readExport (print style (document es)) rules =
      if Fits rules.depth (document es) then .ok (es.map seen) else .error 1 := by
  rw [readExport, parse_print strict plain (isData_document data)]
  by_cases fits : Fits rules.depth (document es)
  · have read : Value.readList LogEntry.read (document (es.map seen)) = .ok (es.map seen) :=
      readList_ofList fun e _ => read_dump e
    rw [if_pos fits, if_pos fits, plain_document]
    dsimp only
    rw [read]
  · rw [if_neg fits, if_neg fits]

/-- The log has the space for so many entries. A log with at least the capacity of another one has
it for all that the other one holds. -/
def HasRoomFor (log : RunLog) (n : Nat) : Prop := ∀ room ∈ log.capacity, n ≤ room

instance (log : RunLog) (n : Nat) : Decidable (log.HasRoomFor n) :=
  inferInstanceAs (Decidable (∀ room ∈ log.capacity, n ≤ room))

theorem window_eq (space : log.HasRoomFor es.length) : window log.capacity es = es := by
  cases capacity : log.capacity with
  | none => rfl
  | some room =>
    have all : es.length - room = 0 := Nat.sub_eq_zero_of_le (space room capacity)
    show es.drop (es.length - room) = es
    rw [all, List.drop_zero]

/-- The text of a log, imported into another one: its entries, or a refusal. -/
theorem importText_print (rules : Rules) (strict : rules.strict = true) {style : JsonStyle}
    (plain : style.Plain) (data : ∀ e ∈ es, e.data.IsData) (space : other.HasRoomFor es.length) :
    (Fits rules.depth (document es) →
      (other.importText (print style (document es)) rules).1 = true ∧
      (other.importText (print style (document es)) rules).2.entries = es.map seen) ∧
    (¬Fits rules.depth (document es) →
      (other.importText (print style (document es)) rules).1 = false ∧
      (other.importText (print style (document es)) rules).2.entries = other.entries) := by
  rw [importText, readExport_print strict plain data]
  constructor
  · intro fits
    rw [if_pos fits]
    exact ⟨rfl, window_eq (by rwa [List.length_map])⟩
  · intro large
    rw [if_neg large]
    exact ⟨rfl, rfl⟩

/-- A log is exported, and the text is accepted by another one, which then has certain entries. -/
def Yields (log other : RunLog) (indent depth : Option Nat) (es : List LogEntry) : Prop :=
  ∃ text, log.exportText indent = .ok text ∧
    (other.importText text (.recordsWithin depth)).1 = true ∧
    (other.importText text (.recordsWithin depth)).2.entries = es

variable {depth : Option Nat}

section

variable (data : ∀ e ∈ log.entries, e.data.IsData) (space : other.HasRoomFor log.size)

include data space

/-- No other entries are accepted than those that were exported. -/
theorem portable_of_yields (yields : log.Yields other indent depth es) :
    (∀ e ∈ log.entries, e.Portable depth) ∧ es = log.entries.map seen := by
  have imported := importText_print (.recordsWithin depth)
    rfl (JsonStyle.plain_ofIndent true indent) data space
  obtain ⟨text, exported, accepted, rfl⟩ := yields
  obtain ⟨flat, -, rfl⟩ := (exportText_eq_ok_iff data).mp exported
  by_cases fits : Fits (Rules.recordsWithin depth).depth (document log.entries)
  · refine ⟨fun e mem => ?_, (imported.1 fits).2⟩
    obtain ⟨room, integers, time⟩ := fits_document.mp fits e mem
    exact ⟨flat e mem, room, integers, time⟩
  · rw [(imported.2 fits).1] at accepted
    cases accepted

theorem yields_of_portable (portable : ∀ e ∈ log.entries, e.Portable depth) :
    log.Yields other indent depth (log.entries.map seen) := by
  have imported := importText_print (.recordsWithin depth)
    rfl (JsonStyle.plain_ofIndent true indent) data space
  have fits : Fits (Rules.recordsWithin depth).depth (document log.entries) :=
    fits_document.mpr fun e mem => ⟨(portable e mem).room, (portable e mem).integers,
      (portable e mem).time⟩
  have written : ∀ e ∈ log.entries, (∀ n ∈ e.data.integers, n.natAbs < leastLong) ∧
      e.time.natAbs < leastLong :=
    fun e mem => ⟨(portable e mem).integers, (portable e mem).time⟩
  have exported : log.exportText indent =
      .ok (print (.ofIndent true indent) (document log.entries)) :=
    (exportText_eq_ok_iff data).mpr ⟨fun e mem => (portable e mem).levels, written, rfl⟩
  exact ⟨_, exported, imported.1 fits⟩

/-- Entries come through unchanged just if all of them are portable. -/
theorem yields_seen_iff :
    log.Yields other indent depth (log.entries.map seen) ↔ ∀ e ∈ log.entries, e.Portable depth :=
  ⟨fun yields => (portable_of_yields data space yields).1, yields_of_portable data space⟩

end

/-! ### A text that was accepted -/

theorem mem_of_mem_window {capacity : Option Nat} {e : LogEntry} (mem : e ∈ window capacity es) :
    e ∈ es := by
  cases capacity with
  | none => exact mem
  | some room => exact List.mem_of_mem_drop mem

/-- What a strict reader accepts is portable but for the levels of the data, and all of it is
seen. -/
theorem read_of_importText {left : RunLog}
    (imported : log.importText text (.recordsWithin depth) = (true, left)) {e : LogEntry}
    (mem : e ∈ left.entries) :
    (∀ most ∈ depth, e.data.levels < most) ∧ e.data.Written ∧ IsShort e.time := by
  obtain ⟨es, read, rfl⟩ : ∃ es, readExport text (.recordsWithin depth) = .ok es ∧
      left = { log with entries := window log.capacity es, taken := log.taken + es.length } := by
    rw [importText] at imported
    split at imported <;> cases imported
    exact ⟨_, ‹_›, rfl⟩
  obtain ⟨v, parsed, records⟩ : ∃ v, parse (.recordsWithin depth) text = .ok v ∧
      Value.readList LogEntry.read v = .ok es := by
    rw [readExport] at read
    split at read
    next => cases read
    next v parsed =>
      split at read <;> cases read
      exact ⟨v, parsed, ‹_›⟩
  have within := readWithin_parse parsed
  obtain ⟨w, written, levels, found⟩ : ∃ w : Value, w.Written ∧ (∀ most ∈ depth, w.levels ≤ most) ∧
      LogEntry.read w = .ok e := by
    cases within.written with
    | @list vs each =>
      rw [Value.readList, Value.items?, items_zero] at records
      obtain ⟨w, part, found⟩ := exists_of_mem_readItems records e (mem_of_mem_window mem)
      refine ⟨w, each w part, fun most limit => ?_, found⟩
      exact itemsLevels_le_iff.mp (Nat.le_of_add_le_add_right (within.levels most limit)) w part
    | _ => cases records
  obtain ⟨carried, deeper, timed⟩ := written_of_read written found
  exact ⟨fun most limit => Nat.lt_of_lt_of_le deeper (levels most limit), carried, timed⟩

/-- A log that was imported comes through again, unless its data have too many levels for a
record. -/
theorem yields_imported_iff {left : RunLog}
    (imported : log.importText text (.recordsWithin depth) = (true, left))
    (data : ∀ e ∈ left.entries, e.data.IsData) (space : other.HasRoomFor left.size) :
    left.Yields other indent depth left.entries ↔
      ∀ e ∈ left.entries, e.data.levels ≤ mostLevels := by
  have same : left.entries.map seen = left.entries := by
    have each : ∀ e ∈ left.entries, e.seen = id e := by
      intro e mem
      obtain ⟨-, carried, -⟩ := read_of_importText imported mem
      rw [seen, carried.plain_eq (data e mem), id]
    rw [List.map_congr_left each, List.map_id]
  have portable : ∀ e ∈ left.entries, e.Portable depth ↔ e.data.levels ≤ mostLevels := by
    intro e mem
    obtain ⟨room, carried, time⟩ := read_of_importText imported mem
    exact ⟨fun portable => portable.levels, fun flat => ⟨flat, room, carried.isShort, time⟩⟩
  have comes : left.Yields other indent depth (left.entries.map seen) ↔
      _ := yields_seen_iff data space
  rw [same] at comes
  exact comes.trans (forall₂_congr portable)

/-- Export and import of a log, for every indent and a reader with any room: what is accepted are
the entries that were exported, and they are accepted just if all of them are portable. A log that
was imported itself comes through, whatever its entries are timed by and however long their integers
are, unless their data have too many levels for a record. -/
theorem reimport_iff (log other : RunLog) (indent depth : Option Nat) :
    ((∀ e ∈ log.entries, e.data.IsData) → other.HasRoomFor log.size →
      (log.Yields other indent depth (log.entries.map seen) ↔ ∀ e ∈ log.entries, e.Portable depth) ∧
      ∀ es, log.Yields other indent depth es → es = log.entries.map seen) ∧
    ∀ (text : String) (left : RunLog), log.importText text (.recordsWithin depth) = (true, left) →
      (∀ e ∈ left.entries, e.data.IsData) → other.HasRoomFor left.size →
      (left.Yields other indent depth left.entries ↔
        ∀ e ∈ left.entries, e.data.levels ≤ mostLevels) := by
  constructor
  · intro data space
    exact ⟨yields_seen_iff data space, fun es yields => (portable_of_yields data space yields).2⟩
  · exact fun text left imported data space => yields_imported_iff imported data space

/-- An entry whose data are held elsewhere too, and whose texts need escapes. -/
def songLog : RunLog where
  capacity := some 1
  entries :=
    [⟨.info, .scene, "é", .list 3 [.null, .int (-7), .map 4 (keyed [("𝄞\n", .bool true)])], 5⟩]

theorem isData_song (m n : Nat) :
    (Value.list m [.null, .int (-7), .map n (keyed [("𝄞\n", .bool true)])]).IsData := by
  have inner : (Value.map n (keyed [("𝄞\n", .bool true)])).IsData :=
    .map n (by decide) (List.forall_mem_singleton.mpr (.bool true))
  apply Value.IsData.list
  simp only [List.forall_mem_cons]
  exact ⟨.null, .int (-7), inner, List.forall_mem_nil _⟩

theorem reimport_iff_song :
    ∃ text left, songLog.exportText (some 2) = .ok text ∧ songLog.importText text
      (.recordsWithin none) = (true, left) ∧
      left.entries = songLog.entries.map seen ∧ left.Yields songLog none none left.entries := by
  have portable : ∀ e ∈ songLog.entries, e.Portable none := by decide +kernel
  have data : ∀ e ∈ songLog.entries, e.data.IsData :=
    List.forall_mem_singleton.mpr (isData_song 3 4)
  obtain ⟨text, exported, accepted, entries⟩ :=
    ((reimport_iff songLog songLog (some 2) none).1 data (by decide)).1.mpr portable
  have imported : songLog.importText text (.recordsWithin none) =
      (true, (songLog.importText text (.recordsWithin none)).2) := Prod.ext accepted rfl
  refine ⟨text, _, exported, imported, entries, ?_⟩
  apply ((reimport_iff songLog songLog none none).2 text _ imported _ _).mpr
  · rw [entries]
    decide
  · rw [entries]
    exact List.forall_mem_singleton.mpr (isData_song 0 0)
  · rw [size, entries]
    decide

def boxed : Nat → Value
  | 0 => .null
  | n + 1 => .list 0 [boxed n]

theorem isData_boxed (n : Nat) : (boxed n).IsData := by
  induction n with
  | zero => exact .null
  | succ n ih => exact .list 0 (List.forall_mem_singleton.mpr ih)

theorem levels_boxed (n : Nat) : (boxed n).levels = n + 1 := by
  induction n with
  | zero => rfl
  | succ n ih =>
    rw [boxed, Value.levels, Value.itemsLevels, Value.itemsLevels, ih, Nat.max_zero]

/-- An entry with lists inside each other, one level more than a record takes. -/
def deepLog : RunLog where
  entries := [⟨.info, .state, "", boxed mostLevels, 0⟩]

def longLog : RunLog where
  entries := [⟨.info, .state, "", .int leastLong, 0⟩]

/-- Data of too many levels are not exported, and neither is an integer of too many digits. -/
theorem deepLog_refused :
    deepLog.exportText none = .error (.badValue .tooManyLevels) ∧
      ∀ text, longLog.exportText none ≠ .ok text := by
  have deep : ∀ e ∈ deepLog.entries, e.data.IsData :=
    List.forall_mem_singleton.mpr (isData_boxed mostLevels)
  have long : ∀ e ∈ longLog.entries, e.data.IsData := List.forall_mem_singleton.mpr (.int leastLong)
  constructor
  · have higher : ¬∀ e ∈ deepLog.entries, e.data.levels ≤ mostLevels := by
      rw [deepLog, List.forall_mem_singleton, levels_boxed]
      exact Nat.not_succ_le_self mostLevels
    rw [exportText, mapM_record deep, if_neg higher]
    rfl
  · intro text exported
    obtain ⟨-, short, -⟩ := (exportText_eq_ok_iff long).mp exported
    rw [longLog, List.forall_mem_singleton, Value.integers, List.forall_mem_singleton,
      Int.natAbs_natCast] at short
    exact Nat.lt_irrefl leastLong short.1

end RunLog

end SceneCourse
