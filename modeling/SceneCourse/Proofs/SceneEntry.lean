import SceneCourse.Proofs.Phases
import SceneCourse.Proofs.Replay
import SceneCourse.Proofs.SitedStore

/-! Entering a scene. Whoever enters a scene that is not active finds its tier as if its variables,
as they stand in the course then, had been written into an empty tier one after the other, and an
empty tier of nodes; nothing else of the state has changed. Variables may be written into each
other, and the course and the state may hold their containers in common from earlier entries; but
every such container stands at one place only, so whatever is written into it while the scene is
entered is seen in the variable and in the state alike. -/

namespace SceneCourse

open Value (Edit plain)

/-! ### Courses whose containers stand where they stand -/

/-- Variables of a tier, with containers that stand, if anywhere, where the variables are
written. -/
def SitedVars (σ : Sites) (tier : String) (vars : List (String × Value)) : Prop :=
  ∀ p ∈ vars, Value.Sited σ (some (tier :: "vars" :: nameParts p.1)) p.2

theorem SitedVars.mono {σ τ : Sites} {tier : String} {vars : List (String × Value)}
    (h : SitedVars σ tier vars) (grown : σ.Grown τ) : SitedVars τ tier vars :=
  fun p member => (h p member).mono grown _ _

theorem SitedVars.followAll {σ : Sites} {tier : String} {vars : List (String × Value)}
    (h : SitedVars σ tier vars) {edits : List Edit} (edited : ∀ e ∈ edits, Value.Edit.InPlace σ e) :
    SitedVars σ tier (mapFields (fun v => v.followAll edits) vars) := by
  intro p member
  obtain ⟨⟨k, v⟩, inside, rfl⟩ := List.mem_map.1 member
  exact Value.Edit.InPlace.followAll edited (h (k, v) inside)

structure Course.Sited (σ : Sites) (d : Course) : Prop where
  globals : SitedVars σ "globals" d.globals.vars
  scenes : ∀ sc ∈ d.scenes, SitedVars σ "scene" sc.vars

namespace Course.Sited

variable {σ τ : Sites} {d : Course}

theorem mono (h : d.Sited σ) (grown : σ.Grown τ) : d.Sited τ :=
  ⟨h.globals.mono grown, fun sc member => (h.scenes sc member).mono grown⟩

theorem followAll (h : d.Sited σ) {edits : List Edit}
    (edited : ∀ e ∈ edits, Value.Edit.InPlace σ e) :
    (d.mapVars fun v => v.followAll edits).Sited σ := by
  refine ⟨h.globals.followAll edited, fun sc member => ?_⟩
  obtain ⟨sc', inside, rfl⟩ := List.mem_map.1 member
  exact (h.scenes sc' inside).followAll edited

end Course.Sited

namespace Session

variable {η : Type} {σ τ : Sites} {s : Session η} {tier : String}
  {vars : Session η → List (String × Value)}

open Step (Keeps Leads)
open Value (put putAll firsts lasts Replays Covers)

/-! ### Copies of a document -/

theorem exists_sited_adoptVars (tier : String) {next : Nat} (positive : 0 < next)
    (vs : List (String × Value)) :
    ∃ f, ∀ τ : Sites, τ.Follows f next (adoptVars next vs).2 → SitedVars τ tier
      (adoptVars next vs).1 := by
  induction vs generalizing next with
  | nil => exact ⟨fun _ => none, fun _ _ p member => absurd member List.not_mem_nil⟩
  | cons p vs ih =>
    obtain ⟨k, v⟩ := p
    have first := (Value.marks_copy next v).1
    have others := (marks_adoptVars (Value.copy next v).2 vs).1
    obtain ⟨f, here⟩ := Value.exists_sited_copy positive (some (tier :: "vars" :: nameParts k)) v
    obtain ⟨g, later⟩ := ih (Nat.lt_of_lt_of_le positive first)
    refine ⟨Sites.joined (Value.copy next v).2 f g, fun τ made p member => ?_⟩
    rcases List.mem_cons.1 member with rfl | rest
    · exact here τ (made.left others)
    · exact later τ (made.right first) p rest

theorem exists_sited_adoptScenes {next : Nat} (positive : 0 < next) (ss : List Scene) :
    ∃ f, ∀ τ : Sites, τ.Follows f next (adoptScenes next ss).2 →
      ∀ sc ∈ (adoptScenes next ss).1, SitedVars τ "scene" sc.vars := by
  induction ss generalizing next with
  | nil => exact ⟨fun _ => none, fun _ _ sc member => absurd member List.not_mem_nil⟩
  | cons s ss ih =>
    have first := (marks_adoptVars next s.vars).1
    have others := (marks_adoptScenes (adoptVars next s.vars).2 ss).1
    obtain ⟨f, here⟩ := exists_sited_adoptVars "scene" positive s.vars
    obtain ⟨g, later⟩ := ih (Nat.lt_of_lt_of_le positive first)
    refine ⟨Sites.joined (adoptVars next s.vars).2 f g, fun τ made sc member => ?_⟩
    rcases List.mem_cons.1 member with rfl | rest
    · exact here τ (made.left others)
    · exact later τ (made.right first) sc rest

theorem exists_sited_adoptCourse {c : Course} (json : c.marks = 0) {next : Nat}
    (positive : 0 < next) :
    ∃ f, ∀ τ : Sites, τ.Follows f next (adoptCourse next c).2 → (adoptCourse next c).1.Sited τ := by
  rw [adoptCourse_eq json]
  have first := (marks_adoptVars next c.globals.vars).1
  have others := (marks_adoptScenes (adoptVars next c.globals.vars).2 c.scenes).1
  obtain ⟨f, globals⟩ := exists_sited_adoptVars "globals" positive c.globals.vars
  obtain ⟨g, scenes⟩ := exists_sited_adoptScenes (Nat.lt_of_lt_of_le positive first) c.scenes
  exact ⟨Sites.joined (adoptVars next c.globals.vars).2 f g, fun τ made =>
    ⟨globals τ (made.left others), scenes τ (made.right first)⟩⟩

/-! ### Sessions whose containers stand where they stand -/

/-- A session in whose state and course every container stands where it stands. -/
structure Located (σ : Sites) (s : Session η) : Prop where
  store : s.store.Sited σ
  course : ∀ d, s.course = some d → d.Sited σ

def Tidy (s : Session η) : Prop := ∃ σ, Located σ s

theorem Located.of_same (h : Located σ s) {t : Session η} (store : t.store = s.store)
    (course : t.course = s.course) :
    Located σ t := ⟨store ▸ h.store, fun d loaded => h.course d (course ▸ loaded)⟩

theorem Located.withStore (h : Located σ s) (grown : σ.Grown τ) {store : Store}
    (sited : store.Sited τ) :
    Located τ { s with store } := ⟨sited, fun d loaded => (h.course d loaded).mono grown⟩

/-- The course follows the edits of an operation, and both stand as before. -/
theorem Located.commit (course : ∀ d, s.course = some d → d.Sited σ) {store : Store}
    {edits : List Edit} (moved : Store.Moved σ τ store edits) :
    Located τ (s.commit store edits) := by
  refine ⟨moved.sited, fun d' loaded' => ?_⟩
  obtain ⟨d, loaded, rfl⟩ := Option.map_eq_some_iff.1 loaded'
  simpa [moved.sited.unshared] using ((course d loaded).mono moved.grown).followAll moved.edits

theorem Tidy.of_same (h : Tidy s) {t : Session η} (store : t.store = s.store)
    (course : t.course = s.course) : Tidy t :=
  h.imp fun _ located => located.of_same store course

theorem stable_tidy : Stable (Tidy (η := η)) where
  log s log h := h.of_same rfl rfl
  bus s bus h := h.of_same rfl rfl
  host s host h := h.of_same rfl rfl
  history s history h := h.of_same rfl rfl
  moves s moves h := h.of_same rfl rfl
  setCopy path v s h := by
    obtain ⟨σ, located⟩ := h
    obtain ⟨τ, grown, sited, value⟩ := located.store.adopt (some (segments path)) v
    obtain ⟨υ, moved⟩ := sited.set path value
    exact ⟨υ, .commit (fun d loaded => (located.course d loaded).mono grown) moved⟩
  setNode id v := keeps_setNode fun s _ _ h done => by
    obtain ⟨σ, located⟩ := h
    obtain ⟨τ, grown, sited, value⟩ := located.store.adopt (some ["nodes", id]) v
    have moved := sited.setNodeState value done
    exact ⟨_, .commit (fun d loaded => (located.course d loaded).mono grown) moved⟩
  updateNode _ _ := keeps_updateNode fun _ _ _ _ h done => by
    obtain ⟨σ, located⟩ := h
    obtain ⟨τ, moved⟩ := located.store.adoptUpdates done
    exact ⟨τ, .commit located.course moved⟩

/-! ### Variables while a tier is seeded -/

/-- Variables of the loaded course that are written into a tier. -/
structure Sowable (tier : String) (vars : Session η → List (String × Value)) :
    Prop extends Following vars where
  known : tier = "globals" ∨ tier = "scene"
  sited : ∀ {σ : Sites} {s : Session η}, Located σ s → SitedVars σ tier (vars s)

theorem sowable_globalVars : Sowable (η := η) "globals" globalVars where
  toFollowing := following_globalVars
  known := Or.inl rfl
  sited {σ s} h := by
    rw [globalVars]
    cases loaded : s.course with
    | none => exact fun p member => absurd member List.not_mem_nil
    | some d => exact (h.course d loaded).globals

theorem sowable_sceneVars (id : String) : Sowable (η := η) "scene" (sceneVars id) where
  toFollowing := following_sceneVars id
  known := Or.inr rfl
  sited {σ s} h := by
    rw [sceneVars]
    cases loaded : s.course with
    | none => exact fun p member => absurd member List.not_mem_nil
    | some d =>
      rw [Option.bind_some]
      cases there : d.scene? id with
      | none => exact fun p member => absurd member List.not_mem_nil
      | some sc => exact (h.course d loaded).scenes sc (List.mem_of_find?_eq_some there)

def varPath (tier name : String) : List String := tier :: "vars" :: nameParts name

theorem varPath_prefix {tier k name : String} :
    varPath tier k <+: varPath tier name ↔ nameParts k <+: nameParts name := by
  simp [varPath, List.cons_prefix_cons]

def sowing (s : Session η) (tier name : String) (v : Value) : List (Key × Value) × Edit :=
  Store.write s.store.next 0 s.store.tiers (varPath tier name) v

section

variable (sowable : Sowable tier vars) (h : Located σ s) {name : String} {v : Value}
  (found : (vars s).lookup name = some v)

include sowable h found

theorem sited_of_lookup : Value.Sited σ (some (varPath tier name)) v :=
  sowable.sited h (name, v) (mem_of_lookup found)

/-- What the turn of a variable does: it writes the value at its place, and the variables follow. -/
theorem turn_sows : ∃ t, turn tier vars name s = (.done (), t) ∧ Tidy t ∧
    t.store.tiers = (sowing s tier name v).1 ∧ t.store.root.plain = put
      (varPath tier name) v.plain s.store.root.plain ∧
    vars t = mapFields (fun w => w.follow (sowing s tier name v).2) (vars s) := by
  have path : segments s!"{tier}.vars.{name}" = varPath tier name :=
    segments_variable sowable.known name
  have unshared := h.store.unshared
  have value := sited_of_lookup sowable h found
  obtain ⟨τ, moved⟩ := h.store.set s!"{tier}.vars.{name}" (by rwa [path])
  have sown : sow tier name v s = (.done (), (s.commit (s.store.set s!"{tier}.vars.{name}" v).1
    (s.store.set s!"{tier}.vars.{name}" v).2).remember tier name v) := rfl
  have seen := Store.plain_set unshared s!"{tier}.vars.{name}" v
  have followed := sowable.commit s _ (s.store.set s!"{tier}.vars.{name}" v).2 moved.sited.unshared
  refine ⟨_, (turn_of_some found).trans sown, ⟨τ, (Located.commit h.course moved).of_same rfl rfl⟩,
    ?_, path ▸ seen, ?_⟩
  · rw [Store.set_of_unshared unshared, path]
    rfl
  · have same := sowable.course ((s.commit _ _).remember tier name v)
      (s.commit (s.store.set s!"{tier}.vars.{name}" v).1
      (s.store.set s!"{tier}.vars.{name}" v).2) rfl
    rw [same, followed, Store.set_of_unshared unshared, path]
    rfl

end

/-- The write of a variable changes no container but one that stands above its place. -/
theorem follow_sowing_eq_self (h : Located σ s) {at_ : Option (List String)} {x : Value}
    (sited : Value.Sited σ at_ x) (tier name : String) (v : Value)
    (apart : ∀ p, at_ = some p → p <+: varPath tier name → (varPath tier name).length ≤ p.length) :
    x.follow (sowing s tier name v).2 = x := by
  rcases Store.place_write_root h.store.tiers s.store.next (varPath tier name) v
    with whole | ⟨r, above, shorter, place⟩
  · exact Value.follow_eq_self _ x fun _ => whole
  · refine sited.follow_eq_self place fun p here inside => ?_
    have := apart p here (inside.trans above)
    have := inside.length_le
    omega

/-- A variable that is no mapping, in a session whose containers have places. -/
structure Plain (vars : Session η → List (String × Value)) (k : String) (x : Value)
    (s : Session η) : Prop where
  tidy : s.Tidy
  found : (vars s).lookup k = some x
  plain : x.isMapping = false

/-- A variable that is a mapping and stands in the state, in a session whose containers have
places. -/
structure Standing (tier : String) (vars : Session η → List (String × Value)) (k : String)
    (s : Session η) : Prop where
  tidy : s.Tidy
  found : ∃ m es, (vars s).lookup k = some (.map m es) ∧
    s.store.root.under (varPath tier k) = some (.map m es)

/-- A value that is no mapping has nothing in it that a write can reach. -/
theorem sited_anywhere {at_ at' : Option (List String)} {x : Value} (h : Value.Sited σ at_ x)
    (none : x.isMapping = false) : Value.Sited σ at' x := by
  cases x <;> first | exact h | cases none

/-- A variable that is no mapping is not changed when another one is written. -/
theorem leads_turn_plain (sowable : Sowable tier vars) (k : String) (x : Value) (name : String) :
    Leads (Plain vars k x) (Plain vars k x) (turn tier vars name) := by
  intro s here
  obtain ⟨σ, h⟩ := here.tidy
  cases found : (vars s).lookup name with
  | none => exact ⟨s, turn_of_none found, here⟩
  | some v =>
    obtain ⟨t, done, tidy, -, -, followed⟩ := turn_sows sowable h found
    have sited : Value.Sited σ none x :=
      sited_anywhere (sited_of_lookup sowable h here.found) here.plain
    have same := follow_sowing_eq_self h sited tier name v fun _ nowhere => nomatch nowhere
    refine ⟨t, done, tidy, ?_, here.plain⟩
    rw [followed, lookup_mapFields, here.found]
    exact congrArg some same

/-- A variable that stands in the state stands there still when another one is written, unless that
one takes its place. -/
theorem leads_turn_standing (sowable : Sowable tier vars) {k name : String}
    (free : ¬nameParts name <+: nameParts k) :
    Leads (Standing tier vars k) (Standing tier vars k) (turn tier vars name) := by
  intro s here
  obtain ⟨σ, h⟩ := here.tidy
  obtain ⟨m, es, is, there⟩ := here.found
  cases found : (vars s).lookup name with
  | none => exact ⟨s, turn_of_none found, here⟩
  | some v =>
    obtain ⟨t, done, tidy, tiers, -, followed⟩ := turn_sows sowable h found
    have sited := sited_of_lookup sowable h is
    have lookup : (vars t).lookup k = some (Value.follow (sowing s tier name v).2 (.map m es)) := by
      rw [followed, lookup_mapFields, is]
      rfl
    have above : ¬varPath tier name <+: varPath tier k := mt varPath_prefix.1 free
    refine ⟨t, done, tidy, ?_⟩
    rw [Store.root, tiers, lookup]
    by_cases below : varPath tier k <+: varPath tier name
    · -- both the variable and what stands at its place are written into
      obtain ⟨rest, path⟩ := below
      have more : rest ≠ [] := by
        rintro rfl
        exact above ⟨[], by rw [List.append_nil, ← path, List.append_nil]⟩
      obtain ⟨written, edit⟩ := Store.write_below there more s.store.next v
      rw [path] at written edit
      refine ⟨m, _, ?_, written⟩
      rw [sowing, edit, Store.follow_write_of_sited sited more]
    · refine ⟨m, es, ?_, Store.under_write_of_apart below above _ v there⟩
      exact congrArg some (follow_sowing_eq_self h sited tier name v fun p is above =>
        absurd (Option.some.inj is ▸ above) below)

def reading (vars : List (String × Value)) (name : String) : Value :=
  ((vars.lookup name).getD .null).plain

def readings (tier : String) (vars : List (String × Value)) : List (List String × Value) :=
  (vars.map Prod.fst).map fun name => (varPath tier name, reading vars name)

theorem exists_lookup {vs : List (String × Value)} {name : String}
    (member : name ∈ vs.map Prod.fst) : ∃ v, vs.lookup name = some v := by
  cases found : vs.lookup name with
  | some v => exact ⟨v, rfl⟩
  | none =>
    obtain ⟨p, inside, rfl⟩ := List.mem_map.1 member
    simpa using List.lookup_eq_none_iff.1 found p inside

/-- A variable that has been written, and whose place no later one takes, reads in the end as it was
written, or as it stands in the state. -/
theorem reading_of_free (sowable : Sowable tier vars) (h : Located σ s) {name : String} {v : Value}
    (found : (vars s).lookup name = some v) {s' t : Session η} (tidy : s'.Tidy)
    (tiers : s'.store.tiers = (sowing s tier name v).1)
    (followed : vars s' = mapFields (fun w => w.follow (sowing s tier name v).2) (vars s))
    {names : List String} (free : ∀ other ∈ names, ¬nameParts other <+: nameParts name)
    (done : Step.each (turn tier vars) names s' = (.done (), t)) :
    reading (vars t) name = v.plain ∨
      t.store.root.plain.under (varPath tier name) = some (reading (vars t) name) := by
  -- its own write does not change the variable
  have own : v.follow (sowing s tier name v).2 = v :=
    follow_sowing_eq_self h (sited_of_lookup sowable h found) tier name v fun p here _ =>
      Nat.le_of_eq (congrArg List.length (Option.some.inj here))
  have here : (vars s').lookup name = some v := by
    rw [followed, lookup_mapFields, found, Option.map_some, own]
  cases mapping : v.isMapping with
  | false =>
    obtain ⟨t', done', still⟩ := Leads.each
      (fun other _ => leads_turn_plain sowable name v other) s' ⟨tidy, here, mapping⟩
    obtain rfl : t = t' := congrArg Prod.snd (done.symm.trans done')
    exact Or.inl (by rw [reading, still.found]; rfl)
  | true =>
    have stands : s'.store.root.under (varPath tier name) = some v := by
      rw [Store.root, tiers]
      exact Store.under_write _ 0 _ v (List.cons_ne_nil _ _)
    have standing : Standing tier vars name s' := by
      cases v with
      | map m es => exact ⟨tidy, m, es, here, stands⟩
      | _ => cases mapping
    obtain ⟨t', done', still⟩ :=
      Leads.each (fun other later => leads_turn_standing sowable (free other later)) s' standing
    obtain rfl : t = t' := congrArg Prod.snd (done.symm.trans done')
    obtain ⟨m, es, is, there⟩ := still.found
    exact Or.inr (by rw [Value.under_plain, there, reading, is]; rfl)

/-- When some variables are written, each one reads in the end as it was written, or as it stands in
the state, unless a later one has taken its place. -/
theorem exists_replay (sowable : Sowable tier vars) {names : List String} (tidy : s.Tidy)
    (there : ∀ name ∈ names, name ∈ (vars s).map Prod.fst) :
    ∃ t ts, Step.each (turn tier vars) names s = (.done (), t) ∧ t.Tidy ∧
      (vars t).map Prod.fst = (vars s).map Prod.fst ∧
      lasts ts = names.map (fun name => (varPath tier name, reading (vars t) name)) ∧
        t.store.root.plain = putAll (firsts ts) s.store.root.plain ∧
        Replays t.store.root.plain ts := by
  induction names generalizing s with
  | nil => exact ⟨s, [], rfl, tidy, rfl, rfl, rfl, trivial⟩
  | cons name names ih =>
    obtain ⟨σ, h⟩ := tidy
    obtain ⟨v, found⟩ := exists_lookup (there name List.mem_cons_self)
    obtain ⟨s', turned, tidy', tiers, seen, followed⟩ := turn_sows sowable h found
    have same : (vars s').map Prod.fst = (vars s).map Prod.fst := by rw [followed, fst_mapFields]
    obtain ⟨t, ts, done, tidy'', same', last, first, replays⟩ :=
      ih tidy' fun other later => same ▸ there other (List.mem_cons_of_mem name later)
    refine ⟨t, (varPath tier name, v.plain, reading (vars t) name) :: ts, ?_, tidy'',
      same'.trans same, ?_, ?_, ?_, replays⟩
    · rw [Step.each, Step.bind, turned]
      exact done
    · exact congrArg _ last
    · rw [first, seen]
      rfl
    by_cases covered : ∃ other ∈ names, nameParts other <+: nameParts name
    · obtain ⟨other, later, above⟩ := covered
      refine Or.inl (Value.covers_lasts.1 ⟨(varPath tier other, reading (vars t) other), ?_,
        varPath_prefix.2 above⟩)
      rw [last]
      exact List.mem_map_of_mem later
    · have free : ∀ other ∈ names, ¬nameParts other <+: nameParts name := fun other later above =>
        covered ⟨other, later, above⟩
      exact Or.inr (reading_of_free sowable h found tidy' tiers followed free done)

/-- A tier that is seeded reads as if its variables, as they stand in the end, were written one
after the other. -/
theorem seed_reads (sowable : Sowable tier vars) (tidy : s.Tidy) :
    ∃ t, seed tier vars s = (.done (), t) ∧ t.Tidy ∧
    t.store.root.plain = putAll (readings tier (vars t)) s.store.root.plain := by
  obtain ⟨t, ts, done, tidy', same, last, first, replays⟩ :=
    exists_replay sowable tidy fun _ member => member
  refine ⟨t, done, tidy', ?_⟩
  rw [first] at replays ⊢
  rw [readings, same, ← last, Value.putAll_lasts _ replays]

end Session

/-! ### Writing variables from nothing -/

namespace Store

open Value (put putAll)

/-- A state after variables are written into a tier of it, one after the other. A name stands for
what it stands for first. -/
def sown (s : Store) (tier : String) (vars : List (String × Value)) : Store :=
  (vars.map Prod.fst).foldl
    (fun s name => (s.set s!"{tier}.vars.{name}" ((vars.lookup name).getD .null)).1) s

theorem plain_sown {s : Store} (unshared : s.shared = false) {tier : String}
    (known : tier = "globals" ∨ tier = "scene") (vars : List (String × Value)) :
    (s.sown tier vars).root.plain = putAll (Session.readings tier vars) s.root.plain := by
  rw [sown, Session.readings]
  generalize vars.map Prod.fst = names
  induction names generalizing s with
  | nil => rfl
  | cons name names ih =>
    rw [List.foldl_cons, List.map_cons, Value.putAll_cons,
      ih (by rw [set_of_unshared unshared, unshared]),
      plain_set unshared, segments_variable known]
    rfl

def emptyScene : Value := .map 0 [(.str "vars", .map 0 [])]

theorem plain_setTiers (s : Store) (v w : Value) :
    ((s.setTier "scene" v).setTier "nodes" w).root.plain =
    .map 0 (Entries.set (.str "nodes") w.plain
      (Entries.set (.str "scene") v.plain (Value.plainEntries s.tiers))) := by
  rw [root, setTier, plain, plainEntries_set, setTier, plainEntries_set]

theorem readings_eq_below (vars : List (String × Value)) : Session.readings "scene" vars =
    ((vars.map Prod.fst).map fun name => ("vars" :: nameParts name, Session.reading vars name)).map
      fun w => (["scene"] ++ w.1, w.2) := by
  rw [List.map_map]
  rfl

/-- What variables make of the empty tier of a scene is the same, whatever else there is in the
state. -/
theorem plain_sown_scene (s : Store) (vars : List (String × Value)) :
    ∃ tier, (empty.sown "scene" vars).tier "scene" = .ok tier ∧
      putAll (Session.readings "scene" vars) s.resetScene.root.plain =
        ((s.setTier "scene" tier).setTier "nodes" .emptyMap).root.plain := by
  have blank : empty.root.plain.under ["scene"] = some emptyScene := rfl
  have sown := plain_sown (s := empty) rfl (Or.inr rfl) vars
  rw [readings_eq_below, Value.putAll_below blank] at sown
  rw [readings_eq_below]
  generalize (vars.map Prod.fst).map
    (fun name => ("vars" :: nameParts name, Session.reading vars name)) = ws at sown ⊢
  have stands := Value.under_put ["scene"] (putAll ws emptyScene) empty.root.plain
  rw [← sown, Value.under_plain, Option.map_eq_some_iff] at stands
  obtain ⟨tier, there, read⟩ := stands
  obtain ⟨tier', found, here⟩ := Option.bind_eq_some_iff.1 there
  obtain rfl := Option.some.inj here
  refine ⟨tier', tier_eq_ok_iff.2 found, ?_⟩
  have reset : s.resetScene.root.plain = .map 0 (Entries.set (.str "nodes") (.map 0 [])
      (Entries.set (.str "scene") emptyScene (Value.plainEntries s.tiers))) := plain_setTiers s _ _
  have empty : s.resetScene.root.plain.under ["scene"] = some emptyScene := by
    rw [reset, Value.under, Entries.get?_set_str_of_ne (by decide), Entries.get?_set_str_self]
    rfl
  have there : (Entries.get? (.str "scene")
      (Entries.set (.str "scene") emptyScene (Value.plainEntries s.tiers))).isSome := by
    rw [Entries.get?_set_str_self]
    rfl
  rw [Value.putAll_below empty, reset, ← read, plain_setTiers]
  show Value.map 0 (Entries.set (.str "scene") tier'.plain _) = _
  rw [Value.fields, Entries.set_comm (by decide) there, Entries.set_set]
  rfl

end Store

namespace Session

variable {η : Type} {s : Session η}

open Step (Keeps)

/-! ### Entering a scene -/

theorem Tidy.cleared (tidy : s.Tidy) (id : String) : (cleared id s).Tidy := by
  obtain ⟨σ, h⟩ := tidy
  obtain ⟨τ, grown, sited⟩ := h.store.resetScene
  exact ⟨τ, (h.withStore grown sited).of_same rfl rfl⟩

/-- A scene that is entered anew is made active with its variables written into an empty tier. -/
theorem enterScene_anew (tidy : s.Tidy) {d : Course} (loaded : s.course = some d) {id : String}
    {scene : Scene} (there : d.scene? id = some scene) (away : s.scene ≠ some id) :
    ∃ t, enterScene id s = (.done (), t) ∧ t.Tidy ∧
      t.store.root.plain = Value.putAll
        (readings "scene" (sceneVars id t)) s.store.resetScene.root.plain := by
  obtain ⟨t, seeded, tidy', seen⟩ := seed_reads (sowable_sceneVars id) (tidy.cleared id)
  have anew : (s.scene != some id) = true := by simpa using away
  refine ⟨armed scene t, ?_, tidy'.of_same rfl rfl, seen⟩
  rw [enterScene_of_some loaded there, anew, activate_anew seeded]

/-- A scene that is active is made active again, and nothing of the state is touched. -/
theorem enterScene_again {d : Course} (loaded : s.course = some d) {id : String} {scene : Scene}
    (there : d.scene? id = some scene) (active : s.scene = some id) :
    ∃ t, enterScene id s = (.done (), t) ∧ t.store = s.store ∧ t.course = s.course := by
  have again : (s.scene != some id) = false := by simp [active]
  rw [enterScene_of_some loaded there, again]
  simp only [activate, write_null]
  exact ⟨_, rfl, rfl, rfl⟩

theorem keeps_enterScene_tidy (id : String) : Keeps (Tidy (η := η)) (enterScene id) := by
  intro s tidy
  cases loaded : s.course with
  | none =>
    have refused : enterScene id s = (.failed (.noCourse false), s) := by
      rw [enterScene]
      show Step.bind Step.current _ s = _
      simp only [Step.bind, Step.current, loaded]
      rfl
    rwa [refused]
  | some d =>
    cases there : d.scene? id with
    | none =>
      rw [enterScene_of_none loaded there]
      simp only [refuseScene, write_null]
      exact tidy.of_same rfl rfl
    | some scene =>
      by_cases active : s.scene = some id
      · obtain ⟨t, entered, store, course⟩ := enterScene_again loaded there active
        rw [entered]
        exact tidy.of_same store course
      · obtain ⟨t, entered, tidy', -⟩ := enterScene_anew tidy loaded there active
        rwa [entered]

theorem Tidy.loadCourse (tidy : s.Tidy) {c : Course} (json : c.marks = 0) :
    (loadCourse c s).2.Tidy := by
  obtain ⟨σ, h⟩ := tidy
  obtain ⟨f, adopted⟩ := exists_sited_adoptCourse json h.store.positive
  have later := (marks_adoptCourse json s.store.next).1
  have grown := h.store.kept later f
  have tiers := h.store.withTiers later (h.store.tiers.mono grown _ _ _)
  have begun : (holding c s).Tidy := by
    refine ⟨_, ⟨?_, tiers.next, tiers.positive, tiers.tiers⟩, fun d loaded => ?_⟩
    · simp [holding, addEntry, h.store.unshared, json]
    · obtain rfl := Option.some.inj loaded
      exact adopted _ (h.store.follows f _)
  obtain ⟨t, seeded, tidy', -⟩ := seed_reads sowable_globalVars begun
  rwa [loadCourse_eq, seeded]

theorem Tidy.reset (tidy : s.Tidy) : (reset s).2.Tidy := by
  obtain ⟨σ, h⟩ := tidy
  obtain ⟨τ, sited⟩ := h.store.reset
  simp only [Session.reset, write_null]
  refine ⟨τ, sited, fun d loaded => ?_⟩
  cases (show none = some d from loaded)

/-! ### Where a run can stand -/

/-- The sessions in which a run can stand at any moment, between two changes of its state, its
course or its scene. What else the session keeps may change at any time. -/
inductive Reached (may : Course → Session η → Bool) : Session η → Prop where
  | fresh (limits : Limits) (log : RunLog) (kept : η) : Reached may (fresh limits log kept)
  | aside {s t : Session η} (h : Reached may s) (store : t.store = s.store)
    (course : t.course = s.course) (scene : t.scene = s.scene)
    (triggers : t.triggers = s.triggers) : Reached may t
  | setCopy {s : Session η} (h : Reached may s) (path : String) (v : Value) :
    Reached may (setCopy path v s).2
  | setNode {s : Session η} (h : Reached may s) (id : String) (v : Value) :
    Reached may (setNode id v s).2
  | updateNode {s : Session η} (h : Reached may s) (id : String) (updates : Value) :
    Reached may (updateNode id updates s).2
  | resume {s : Session η} (h : Reached may s) {snapshot : Value} {store : Store}
    (done : s.store.restore snapshot = .ok store) : Reached may { s with store }
  | enter {s : Session η} (h : Reached may s) (id : String) : Reached may (enterScene id s).2
  | load {s : Session η} (h : Reached may s) {c : Course} (allowed : may c s = true) :
    Reached may (loadCourse c s).2
  | reset {s : Session η} (h : Reached may s) : Reached may (reset s).2

variable {may : Course → Session η → Bool}

theorem stable_reached : Stable (Reached may) where
  log _ _ h := h.aside rfl rfl rfl rfl
  bus _ _ h := h.aside rfl rfl rfl rfl
  host _ _ h := h.aside rfl rfl rfl rfl
  history _ _ h := h.aside rfl rfl rfl rfl
  moves _ _ h := h.aside rfl rfl rfl rfl
  setCopy path v _ h := h.setCopy path v
  setNode id v _ h := h.setNode id v
  updateNode id updates _ h := h.updateNode id updates

theorem keeps_loadWhere_reached (c : Course) : Keeps (Reached may) (loadWhere may c) := by
  refine Keeps.looking fun s h => ?_
  by_cases allowed : may c s = true
  · rw [if_pos allowed]
    exact h.load allowed
  · rw [if_neg allowed]
    exact h

theorem governs_reached : Governs (Reached may) (fun _ => True) (Errand may) where
  toInward := stable_reached.toInward
  guided _ _ _ _ := fun _ _ => trivial
  enter id _ := fun _ h => h.enter id
  calls emit he x called := by
    cases called with
    | visit visited =>
      exact (governs_visits stable_reached fun id _ h => h.enter id).calls emit he x visited
    | resume snapshot =>
      refine Keeps.looking fun s h => ?_
      cases done : s.store.restore snapshot with
      | ok store => exact h.resume done
      | error e => exact h
    | load c => exact keeps_loadWhere_reached c
    | reset => exact fun _ h => h.reset

/-- Whatever is asked of a session, and whatever its host does meanwhile, it stands only where it is
said to. -/
theorem keeps_reached {host : Host η} (made : host.MadeOf (Errand may)) (nesting : Nat)
    {run : Step (Session η) Unit} (asked : run.MadeOf (Demand may host (emit host nesting))) :
    Keeps (Reached may) run := by
  refine asked.keeps fun x called => ?_
  cases called with
  | operation operation =>
    exact governs_reached.operation made (fun _ _ _ h done => h.resume done) nesting operation
  | load c => exact keeps_loadWhere_reached c
  | reset => exact fun _ h => h.reset
  | destroy => exact Keeps.bind (fun _ h => h.reset) fun _ => governs_reached.write _ _ _ _

theorem reached_run {host : Host η} (made : host.MadeOf (Errand may)) (nesting : Nat)
    {run : Step (Session η) Unit} (asked : run.MadeOf (Demand may host (emit host nesting)))
    (limits : Limits) (log : RunLog) (kept : η) : Reached may (run (fresh limits log kept)).2 :=
  keeps_reached made nesting asked _ (.fresh limits log kept)

theorem tidy_of_reached (json : ∀ c s, may c s = true → c.marks = 0) (reached : Reached may s) :
    s.Tidy := by
  induction reached with
  | fresh limits log kept =>
    obtain ⟨σ, sited⟩ := Store.sited_empty
    exact ⟨σ, sited, fun d loaded => nomatch loaded⟩
  | aside _ store course _ _ ih => exact ih.of_same store course
  | setCopy _ path v ih => exact stable_tidy.setCopy path v _ ih
  | setNode _ id v ih => exact stable_tidy.setNode id v _ ih
  | updateNode _ id updates ih => exact stable_tidy.updateNode id updates _ ih
  | resume _ done ih =>
    obtain ⟨σ, h⟩ := ih
    obtain ⟨τ, grown, sited⟩ := h.store.restore done
    exact ⟨τ, h.withStore grown sited⟩
  | enter _ id ih => exact keeps_enterScene_tidy id _ ih
  | load _ allowed ih => exact ih.loadCourse (json _ _ allowed)
  | reset _ ih => exact ih.reset

/-- Wherever a run of documents without common containers stands, going to a declared scene makes it
active with its triggers and then tells the host, before anything else happens. If the scene is
active already, the state is as it was. Otherwise the tier of the scene reads as its variables, as
they stand in the course now, make it from nothing, the tier of the nodes is empty, and the rest of
the state reads as it did. -/
theorem gotoScene_enters (json : ∀ c s, may c s = true → c.marks = 0) (reached : Reached may s)
    {d : Course} (loaded : s.course = some d) {id : String} {scene : Scene}
    (declared : d.scene? id = some scene) :
    ∃ t, (∀ (host : Host η) (emit : Emitter η) call, host.onScene = some call →
      gotoScene host emit id s =
        (do call emit id; Step.update (·.moved (.arrives id)); emit (.sceneEnter id)) t) ∧
      t.scene = some id ∧ t.triggers = scene.triggers ∧
      (s.scene = some id → t.store = s.store) ∧
      (s.scene ≠ some id → ∃ tier, (Store.empty.sown "scene" (sceneVars id t)).tier
        "scene" = .ok tier ∧
        t.store.root.plain =
          ((s.store.setTier "scene" tier).setTier "nodes" .emptyMap).root.plain) := by
  obtain ⟨t, entered, again, anew⟩ : ∃ t, enterScene id s = (.done (), t) ∧
    (s.scene = some id → t.store = s.store) ∧
      (s.scene ≠ some id →
        t.store.root.plain = Value.putAll (readings "scene" (sceneVars id t))
            s.store.resetScene.root.plain) := by
    by_cases active : s.scene = some id
    · obtain ⟨t, entered, store, -⟩ := enterScene_again loaded declared active
      exact ⟨t, entered, fun _ => store, fun away => absurd active away⟩
    · obtain ⟨t, entered, -, seen⟩ := enterScene_anew
        (tidy_of_reached json reached) loaded declared active
      exact ⟨t, entered, fun here => absurd here active, fun _ => seen⟩
  have position : t.position = ⟨s.position.declared, some id, scene.triggers⟩ := by
    rw [← position_activate id scene (s.scene != some id) s,
      ← enterScene_of_some loaded declared, entered]
  refine ⟨t, fun host emit call told => ?_, congrArg Position.scene position,
    congrArg Position.triggers position, again,
    fun away => ?_⟩
  · show Step.bind (enterScene id) _ s = _
    rw [Step.bind, entered, told]
  · obtain ⟨tier, found, same⟩ := Store.plain_sown_scene s.store (sceneVars id t)
    exact ⟨tier, found, (anew away).trans same⟩

end Session

/-! ### A chest -/

namespace Course

open Session

/-- A room with a chest that is put together from three variables, the second of which is written
into the third from the second time on. -/
def chestCourse : Course where
  schema := "vvce.dsl.v1"
  about := ⟨"chest", "1.0.0", []⟩
  globals := ⟨[("chest", .object [("lid", .int 0)])], []⟩
  start := "room"
  scenes := [
    { id := "room"
      vars := [("chest", .object []), ("chest.lid.shut", .bool true),
        ("chest.lid", .object [("color", .str "red")])]
      nodes := []
      triggers :=
        [⟨⟨"open", none, []⟩, none, [.setVar "scene.vars.chest.lid.shut" (.bool false)], none, []⟩]
      extras := [] },
    { id := "yard", vars := [], nodes := [], triggers := [], extras := [] }]
  extras := []

def chestSession : Session Unit :=
  (enterScene "yard" (enterScene "room" (loadCourse chestCourse (fresh {} {} ())).2).2).2

theorem gotoScene_enters_chest : ∃ (d : Course) (scene : Scene) (t : Session Unit) (tier : Value),
    chestSession.course = some d ∧ d.scene? "room" = some scene ∧
    chestSession.scene = some "yard" ∧ t.scene = some "room" ∧ t.triggers = scene.triggers ∧
    (Store.empty.sown "scene" (sceneVars "room" t)).tier "scene" = .ok tier ∧
    t.store.root.plain =
      ((chestSession.store.setTier "scene" tier).setTier "nodes" .emptyMap).root.plain := by
  let may (c : Course) (_ : Session Unit) : Bool := c.marks == 0
  have json (c : Course) (s : Session Unit) (allowed : may c s = true) : c.marks =
      0 := by simpa [may] using allowed
  have reached : Reached may chestSession :=
    ((Reached.fresh {} {} ()).load rfl |>.enter "room").enter "yard"
  have there : (chestSession.course.bind (·.scene? "room")).isSome = true := by decide +kernel
  have yard : chestSession.scene = some "yard" := by decide +kernel
  obtain ⟨scene, found⟩ := Option.isSome_iff_exists.1 there
  obtain ⟨d, loaded, declared⟩ := Option.bind_eq_some_iff.1 found
  obtain ⟨t, -, active, triggers, -, anew⟩ := gotoScene_enters json reached loaded declared
  obtain ⟨tier, sown, same⟩ := anew (by rw [yard]; decide)
  exact ⟨d, scene, t, tier, loaded, declared, yard, active, triggers, sown, same⟩

end Course

end SceneCourse
