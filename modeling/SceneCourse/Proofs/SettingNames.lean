import SceneCourse.Proofs.JsonData
import SceneCourse.Settings.Basic

/-! Settings that are taken from a mapping. Each of the six settings gets the value that stands
under its name, or keeps its default, and other names change nothing. Names that mean something for
the settings as a whole are an exception: they are let through with those of the settings, and then
nothing can be done with them. Proved: a mapping gives settings exactly if none of its names is
reserved, and which ones; settings that are written down are taken back, whatever else stands beside
them that is neither a setting nor reserved. -/

namespace SceneCourse.Settings

variable {s : Settings} {name : String} {v : Value} {fields : List (String × Value)}

def names : List String :=
  ["debug", "max_logs", "log_level", "max_condition_depth", "max_resolve_depth",
    "max_dry_run_paths"]

/-- Some field has a name that means something for the settings as a whole. -/
def Reserves (fields : List (String × Value)) : Prop := ∃ f ∈ fields, f.1 ∈ reservedNames

/-- The settings with a field for each of those that have one. -/
def changed (s : Settings) (fields : List (String × Value)) : Settings where
  debug := (fields.lookup "debug").getD s.debug
  maxLogs := (fields.lookup "max_logs").getD s.maxLogs
  logLevel := (fields.lookup "log_level").getD s.logLevel
  maxConditionDepth := (fields.lookup "max_condition_depth").getD s.maxConditionDepth
  maxResolveDepth := (fields.lookup "max_resolve_depth").getD s.maxResolveDepth
  maxDryRunPaths := (fields.lookup "max_dry_run_paths").getD s.maxDryRunPaths

/-! ### One field -/

theorem take_of_reserved (reserved : name ∈ reservedNames) :
    s.take (.str name, v) = .error (.wrongKind "taking a setting" name) := by
  rw [take, if_pos (List.contains_iff_mem.2 reserved)]

theorem take_of_free (free : name ∉ reservedNames) :
    s.take (.str name, v) = .ok ((s.with? name v).getD s) := by
  rw [take, if_neg (mt List.contains_iff_mem.1 free)]

theorem lookup_cons_of_ne {other : String} (differ : other = name → False) :
    List.lookup name ((other, v) :: fields) = fields.lookup name := by
  rw [List.lookup_cons, beq_eq_false_iff_ne.2 fun same => differ same.symm]

/-- Taking a field first and the others then comes to the same as taking all of them, if no other
has its name. -/
theorem changed_with (new : name ∉ fields.map (·.1)) :
    ((s.with? name v).getD s).changed fields = s.changed ((name, v) :: fields) := by
  have missing : fields.lookup name = none := List.lookup_eq_none_iff.2 fun f mem => by
    simpa using fun same : name = f.1 => new (same ▸ List.mem_map_of_mem mem)
  unfold with?
  split
  case h_7 no₁ no₂ no₃ no₄ no₅ no₆ =>
    simp only [changed, lookup_cons_of_ne no₁, lookup_cons_of_ne no₂, lookup_cons_of_ne no₃,
      lookup_cons_of_ne no₄,
      lookup_cons_of_ne no₅, lookup_cons_of_ne no₆, Option.getD_none]
  all_goals simp [changed, List.lookup_cons, missing]

/-! ### All fields -/

theorem foldlM_take_of_free (unique : (fields.map (·.1)).Nodup) (free : ¬Reserves fields)
    (s : Settings) : (keyed fields).foldlM take s = .ok (s.changed fields) := by
  induction fields generalizing s with
  | nil => rfl
  | cons f fields ih =>
    obtain ⟨name, v⟩ := f
    rw [List.map_cons, List.nodup_cons] at unique
    have here : name ∉ reservedNames := fun mem => free ⟨_, List.mem_cons_self, mem⟩
    have later : ¬Reserves fields := fun ⟨f, mem, reserved⟩ =>
      free ⟨f, List.mem_cons_of_mem _ mem, reserved⟩
    show s.take (.str name, v) >>= (fun t => (keyed fields).foldlM take t) = _
    rw [take_of_free here, ← changed_with unique.1]
    exact ih unique.2 later _

/-- A reserved name is refused, whatever comes before it. -/
theorem foldlM_take_of_reserved (reserved : Reserves fields) (s : Settings) :
    ∃ name ∈ reservedNames, (keyed fields).foldlM take s = .error
      (.wrongKind "taking a setting" name) := by
  induction fields generalizing s with
  | nil => exact absurd reserved (by simp [Reserves])
  | cons f fields ih =>
    obtain ⟨name, v⟩ := f
    by_cases here : name ∈ reservedNames
    · refine ⟨name, here, ?_⟩
      show s.take (.str name, v) >>= (fun t => (keyed fields).foldlM take t) = _
      rw [take_of_reserved here]
      rfl
    · have later : Reserves fields := by
        obtain ⟨f, mem, reserved⟩ := reserved
        rcases List.mem_cons.1 mem with rfl | mem
        · exact absurd reserved here
        · exact ⟨f, mem, reserved⟩
      obtain ⟨other, refused, failed⟩ := ih later ((s.with? name v).getD s)
      refine ⟨other, refused, ?_⟩
      show s.take (.str name, v) >>= (fun t => (keyed fields).foldlM take t) = _
      rw [take_of_free here]
      exact failed

/-! ### Settings that are written down -/

def written (s : Settings) : List (String × Value) :=
  [("debug", s.debug), ("max_logs", s.maxLogs), ("log_level", s.logLevel),
    ("max_condition_depth", s.maxConditionDepth),
    ("max_resolve_depth", s.maxResolveDepth), ("max_dry_run_paths", s.maxDryRunPaths)]

theorem not_reserves_of_names (known : ∀ f ∈ fields, f.1 ∈ names) : ¬Reserves fields := by
  have apart : ∀ name ∈ names, name ∉ reservedNames := by decide +kernel
  rintro ⟨f, mem, reserved⟩
  exact apart f.1 (known f mem) reserved

theorem not_reserves_written (s : Settings) : ¬Reserves s.written :=
  not_reserves_of_names fun _ mem => List.mem_map_of_mem (f := (·.1)) mem

theorem reserves_append {more : List (String × Value)} :
    Reserves (fields ++ more) ↔ Reserves fields ∨ Reserves more := by
  simp only [Reserves, List.mem_append, or_and_right, exists_or]

/-- What is written down for settings decides them, whatever comes behind it. -/
theorem changed_written_append (s t : Settings) (extra : List (String × Value)) :
    t.changed (s.written ++ extra) = s := rfl

/-- Fields with new names are put behind the others. -/
theorem setAll_keyed {before : List (String × Value)}
    (unique : ((before ++ fields).map (·.1)).Nodup) :
    Entries.setAll (keyed fields) (keyed before) = keyed (before ++ fields) := by
  induction fields generalizing before with
  | nil => simp [keyed, Entries.setAll]
  | cons f fields ih =>
    have moved : before ++ f :: fields = (before ++ [f]) ++ fields := by simp
    show Entries.setAll (keyed fields) (Entries.set (.str f.1) f.2 (keyed before)) = _
    rw [set_keyed (not_mem_names unique), moved]
    exact ih (moved ▸ unique)

theorem lookup_filter_names (name : String) (known : names.contains name = true)
    (fields : List (String × Value)) :
    (fields.filter (names.contains ·.1)).lookup name = fields.lookup name := by
  induction fields with
  | nil => rfl
  | cons f fields ih =>
    rw [List.filter_cons]
    by_cases same : name = f.1
    · subst same
      rw [if_pos known, List.lookup_cons_self, List.lookup_cons_self]
    · have differ : f.1 = name → False := fun h => same h.symm
      have later : List.lookup name (f :: fields) = fields.lookup name := lookup_cons_of_ne differ
      rw [later, ← ih]
      split
      next => exact lookup_cons_of_ne differ
      next => rfl

/-- Names that no setting has change nothing. -/
theorem changed_filter (s : Settings) (fields : List (String × Value)) :
    s.changed (fields.filter (names.contains ·.1)) = s.changed fields := by
  simp only [changed, lookup_filter_names "debug" rfl, lookup_filter_names "max_logs" rfl,
    lookup_filter_names "log_level" rfl, lookup_filter_names "max_condition_depth" rfl,
    lookup_filter_names "max_resolve_depth" rfl, lookup_filter_names "max_dry_run_paths" rfl]

theorem nodup_names_written (s : Settings) : (s.written.map (·.1)).Nodup :=
  (by decide +kernel : names.Nodup)

theorem ofValue_of_free (m : Nat) (unique : (fields.map (·.1)).Nodup) (free : ¬Reserves fields) :
    ofValue (.map m (keyed fields)) = .ok (changed {} fields) := foldlM_take_of_free unique free {}

theorem ofValue_of_reserved (m : Nat) (reserved : Reserves fields) : ∃ name ∈ reservedNames,
    ofValue (.map m (keyed fields)) = .error (.wrongKind "taking a setting" name) :=
  foldlM_take_of_reserved reserved {}

theorem ofValue_ne_ok (m : Nat) (reserved : Reserves fields) (s : Settings) :
    ofValue (.map m (keyed fields)) ≠ .ok s := by
  obtain ⟨name, -, failed⟩ := ofValue_of_reserved m reserved
  simp [failed]

/-- A mapping gives settings exactly if it has no reserved name. Then each setting is what stands
under its name or its default, and all other names might as well be left out; if there is a reserved
name, one is refused. Settings that are written down are taken back, and so they are with other
fields beside them, exactly if none of those is reserved. -/
theorem taken_iff (m : Nat) (fields : List (String × Value)) (unique : (fields.map (·.1)).Nodup) :
    (∀ s, ofValue (.map m (keyed fields)) = .ok s ↔ ¬Reserves fields ∧ s = changed {} fields) ∧
    (Reserves fields → ∃ name ∈ reservedNames,
      ofValue (.map m (keyed fields)) = .error (.wrongKind "taking a setting" name)) ∧
    changed {} (fields.filter (names.contains ·.1)) = changed {} fields ∧
    (∀ s : Settings, ofValue s.value = .ok s) ∧
    ∀ s : Settings, (∀ f ∈ fields, f.1 ∉ names) →
      (ofValue (.map m (Entries.setAll (keyed fields) (keyed s.written))) = .ok s ↔
        ¬Reserves fields) := by
  refine ⟨fun s => ⟨fun done => ?_, ?_⟩, ofValue_of_reserved m, changed_filter {} fields,
    fun s => ?_, fun s others => ?_⟩
  · have free : ¬Reserves fields := fun reserved => ofValue_ne_ok m reserved s done
    exact ⟨free, Except.ok.inj (done.symm.trans (ofValue_of_free m unique free))⟩
  · rintro ⟨free, rfl⟩
    exact ofValue_of_free m unique free
  · exact ofValue_of_free 0 (nodup_names_written s) (not_reserves_written s)
  · have apart : ((s.written ++ fields).map (·.1)).Nodup := by
      rw [List.map_append, List.nodup_append]
      refine ⟨nodup_names_written s, unique, ?_⟩
      rintro name known _ mem rfl
      obtain ⟨f, inside, rfl⟩ := List.mem_map.1 mem
      exact others f inside known
    have both : Reserves (s.written ++ fields) ↔ Reserves fields :=
      reserves_append.trans (or_iff_right (not_reserves_written s))
    rw [setAll_keyed apart]
    constructor
    · exact fun done reserved => ofValue_ne_ok m (both.2 reserved) s done
    · intro free
      rw [ofValue_of_free m apart (mt both.1 free), changed_written_append]

/-- A colour is no setting, so it does no harm. -/
theorem taken_iff_colour : ([("max_logs", Value.int 7), ("colour", .str "blue")].map (·.1)).Nodup ∧
    ofValue (.map 0 (keyed [("max_logs", .int 7), ("colour", .str "blue")])) = .ok
      { maxLogs := .int 7 } ∧
    (∀ f ∈ [("colour", Value.str "blue")], f.1 ∉ names) ∧
    ofValue
      (.map 0 (Entries.setAll (keyed [("colour", .str "blue")])
      (keyed (written { maxLogs := .int 7 })))) =
      .ok { maxLogs := .int 7 } := by
  have unique : ([("max_logs", Value.int 7), ("colour", .str "blue")].map (·.1)).Nodup := by
    decide +kernel
  have free : ¬Reserves [("max_logs", .int 7), ("colour", .str "blue")] := by
    simp [Reserves, reservedNames]
  have strange : ∀ f ∈ [("colour", Value.str "blue")], f.1 ∉ names := by simp [names]
  have harmless : ¬Reserves [("colour", .str "blue")] := by simp [Reserves, reservedNames]
  obtain ⟨taken, -⟩ := taken_iff 0 _ unique
  obtain ⟨-, -, -, -, beside⟩ := taken_iff 0 [("colour", .str "blue")] (by simp)
  exact ⟨unique, (taken _).2 ⟨free, rfl⟩, strange, (beside _ strange).2 harmless⟩

/-- The name of an operation on settings is not that of a setting, and yet it is not passed over. -/
theorem operation_not_passed_over : "load" ∉ names ∧
    ofValue (.object [("load", .int 1)]) = .error (.wrongKind "taking a setting" "load") ∧
    ofValue (.map 0 (Entries.setAll (keyed [("load", .int 1)]) (keyed (written {})))) =
      .error (.wrongKind "taking a setting" "load") := by
  refine ⟨by decide +kernel, ?_, ?_⟩ <;> rfl

end SceneCourse.Settings
