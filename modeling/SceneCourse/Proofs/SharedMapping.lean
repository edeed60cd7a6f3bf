import SceneCourse.Proofs.Seeding

/-! Mappings that a course shares with the state. A variable is written into the state as it is, so
a mapping that is still in its place when all variables of its tier are written is one thing with
the variable of the course, and an entry that anyone writes into it is an entry of the course from
then on. Proved: for every such mapping there is a run after which the course has an entry in it
that the run chose. -/

namespace SceneCourse

open Value (Edit)

namespace Session

variable {η : Type}

open Step (Leads)

/-! ### Variables that are tied to the state -/

/-- A session whose course has a certain mapping as a variable. -/
structure Known (vars : Session η → List (String × Value)) (names : List String)
    (k : String) (m : Nat)
    (s : Session η) : Prop where
  unshared : s.store.shared = false
  names : (vars s).map Prod.fst = names
  course : ∃ es, (vars s).lookup k = some (.map m es)

/-- A session in whose state the very mapping stands that its course has as a variable. -/
structure Tied (tier : String) (vars : Session η → List (String × Value)) (names : List String)
    (k : String) (m : Nat)
    (s : Session η) : Prop extends Known vars names k m s where
  state : ∃ fs, Value.under s.store.root (tier :: "vars" :: nameParts k) = some (.map m fs)

def inner (k : String) : String := k ++ "." ++ "x"

theorem nameParts_inner (k : String) : nameParts (inner k) = nameParts k ++ ["x"] := by
  have last : nameParts "x" = ["x"] := by decide
  rw [inner, nameParts_append, last]

def poke (tier k : String) (w : Int) : Value :=
  .object [(tier, .object [("vars", .object [(inner k, .int w)])])]

theorem setState_poke {tier : String} (known : tier = "globals" ∨ tier = "scene") (k : String)
    (w : Int) (s : Session η) :
    setState (poke tier k w) s = (.done (), (setCopy s!"{tier}.vars.{inner k}" (.int w) s).2) := by
  rcases known with rfl | rfl <;> rfl

section

variable {tier : String} {vars : Session η → List (String × Value)} {names : List String}
  {k : String} {m : Nat} (following : Following vars)

include following

theorem known_commit {s : Session η} (h : Known vars names k m s) {store : Store}
    (unshared : store.shared = false) {e : Edit} (now : ∃ gs, e.now = .map e.mark gs) :
    Known vars names k m (s.commit store [e]) := by
  obtain ⟨es, found⟩ := h.course
  obtain ⟨fs, followed⟩ := Value.follow_map now m es
  refine ⟨unshared, ?_, fs, ?_⟩
  · rw [following.commit s store [e] unshared, fst_mapFields, h.names]
  · rw [following.commit s store [e] unshared, lookup_mapFields, found]
    exact congrArg some followed

theorem known_of_same {s t : Session η} (h : Known vars names k m s) (course : t.course = s.course)
    (unshared : t.store.shared = s.store.shared) : Known vars names k m t := by
  have same : vars t = vars s := following.course t s course
  exact ⟨unshared.trans h.unshared, by rw [same, h.names], by rw [same]; exact h.course⟩

theorem tied_of_same {s t : Session η} (h : Tied tier vars names k m s)
    (course : t.course = s.course) (store : t.store = s.store) : Tied tier vars names k m t := by
  refine ⟨known_of_same following h.toKnown course (by rw [store]), ?_⟩
  rw [store]
  exact h.state

theorem known_write {s : Session η} (h : Known vars names k m s) (path : List String) (v : Value)
    (next : Nat) :
    Known vars names k m
      (s.commit { s.store with tiers := (Store.write s.store.next 0 s.store.tiers path v).1, next }
      [(Store.write s.store.next 0 s.store.tiers path v).2]) := by
  refine known_commit following h ?_ (Store.now_write _ _ _ _ _)
  exact h.unshared

theorem leads_sow_known (tier' name : String) (v : Value) :
    Leads (Known vars names k m) (Known vars names k m) (sow tier' name v) := by
  refine Leads.update fun s h => ?_
  rw [Store.set_of_unshared h.unshared]
  exact known_of_same following (known_write following h _ v _) rfl rfl

/-- The mapping stays where it is while other variables are written, unless one of them takes its
place. -/
theorem leads_sow_tied (known : tier = "globals" ∨ tier = "scene") {name : String}
    (apart : ¬nameParts name <+: nameParts k) (v : Value) :
    Leads (Tied tier vars names k m) (Tied tier vars names k m) (sow tier name v) := by
  refine Leads.update fun s h => ?_
  rw [Store.set_of_unshared h.unshared]
  refine ⟨known_of_same following (known_write following h.toKnown _ v _) rfl rfl, ?_⟩
  obtain ⟨fs, there⟩ := h.state
  refine Store.under_write_of_not_prefix _ 0 v there ?_
  rw [segments_variable known]
  simpa [List.cons_prefix_cons] using apart

/-- Writing the variable ties it to the state. -/
theorem leads_sow_tie (known : tier = "globals" ∨ tier = "scene") (es : List (Key × Value)) :
    Leads (Known vars names k m) (Tied tier vars names k m) (sow tier k (.map m es)) := by
  refine Leads.update fun s h => ?_
  rw [Store.set_of_unshared h.unshared]
  refine ⟨known_of_same following (known_write following h _ _ _) rfl rfl, es, ?_⟩
  rw [segments_variable known]
  exact Store.under_write _ 0 _ _ (List.cons_ne_nil _ _)

/-- A tier is seeded, and a mapping among its variables that none after it takes the place of is
tied to the state. -/
theorem leads_seed_tied (known : tier = "globals" ∨ tier = "scene") (lasts : Lasts names k) :
    Leads (Known vars names k m) (Tied tier vars names k m) (seed tier vars) := by
  obtain ⟨before, after, rfl, last⟩ := lasts
  intro s h
  rw [seed, h.names]
  refine Leads.each_split ?_ ?_ ?_ s h
  · intro name _
    refine Leads.look fun s h => ?_
    cases (vars s).lookup name with
    | none => exact ⟨s, rfl, h⟩
    | some v => exact leads_sow_known following _ _ v s h
  · refine Leads.look fun s h => ?_
    obtain ⟨es, found⟩ := h.course
    rw [found]
    exact leads_sow_tie following known es s h
  · intro name later
    refine Leads.look fun s h => ?_
    cases (vars s).lookup name with
    | none => exact ⟨s, rfl, h⟩
    | some v => exact leads_sow_tied following known (last name later) v s h

/-- An entry that is written into a tied mapping is an entry of the course's variable from then
on. -/
theorem poked (known : tier = "globals" ∨ tier = "scene") (marked : m ≠ 0) (w : Int) {s : Session η}
    (h : Tied tier vars names k m s) : ∃ t es, setState (poke tier k w) s = (.done (), t) ∧
      (vars t).lookup k = some (.map m (Entries.set (.str "x") (.int w) es)) := by
  obtain ⟨es, found⟩ := h.course
  obtain ⟨fs, there⟩ := h.state
  refine ⟨_, fs, setState_poke known k w s, ?_⟩
  have path : segments s!"{tier}.vars.{inner k}" = (tier :: "vars" :: nameParts k) ++ ["x"] := by
    rw [segments_variable known, nameParts_inner, List.cons_append, List.cons_append]
  have adopted : s.store.adopt (.int w) = (.int w, s.store) := by
    rw [Store.adopt, h.unshared]
    exact congrArg (Prod.mk _) (by rw [← h.unshared])
  simp only [setCopy, adopted, Store.set_of_unshared h.unshared, path,
    Store.edit_write_under _ 0 "x" (.int w) there]
  have followed : Value.followAll [⟨m, .map m (Entries.set (.str "x") (.int w) fs)⟩] (.map m es) =
      .map m (Entries.set (.str "x") (.int w) fs) := if_pos ⟨rfl, marked⟩
  have commit := following.commit s
  rw [commit, lookup_mapFields, found, Option.map_some, followed]
  exact h.unshared

/-- Seeding, of whatever tier, leaves a mapping among the variables a mapping with its mark. -/
theorem leads_seed_known (tier' : String) (vars' : Session η → List (String × Value)) :
    Leads (Known vars names k m) (Known vars names k m) (seed tier' vars') :=
  leads_seed (leads_sow_known following tier') vars'

theorem leads_write_known (level : Level) (category : Category) (message : String) :
    Leads (Known vars names k m) (Known vars names k m) (write level category message) := by
  rw [write_null]
  exact Leads.update fun _ h => known_of_same following h rfl rfl

theorem leads_write_tied (level : Level) (category : Category) (message : String) :
    Leads (Tied tier vars names k m) (Tied tier vars names k m) (write level category message) := by
  rw [write_null]
  exact Leads.update fun _ h => tied_of_same following h rfl rfl

end

theorem keeps_seed_scene (tier : String) (vars : Session η → List (String × Value))
    (active : Option String) :
    Step.Keeps (fun s : Session η => s.scene = active) (seed tier vars) :=
  keeps_seed (fun _ _ => Step.Keeps.update fun _ hs => hs) vars

/-- Whoever enters a scene with a mapping among its variables ties it to the state. -/
theorem leads_activate {id k : String} {names : List String} {m : Nat} (lasts : Lasts names k)
    (scene : Scene) :
    Leads (Known (η := η) (sceneVars id) names k m) (Tied "scene" (sceneVars id) names k m)
    (activate id scene true) := by
  have following : Following (sceneVars (η := η) id) := following_sceneVars id
  refine Leads.bind (leads_write_known following _ _ _) ?_
  refine Leads.bind (Leads.update fun _ h => known_of_same following h rfl rfl) ?_
  refine Leads.bind (Leads.update fun _ h => known_of_same following h rfl rfl) ?_
  refine Leads.bind (leads_seed_tied following (Or.inr rfl) lasts) ?_
  refine Leads.bind (Leads.update fun _ h => tied_of_same following h rfl rfl) ?_
  exact leads_write_tied following _ _ _

theorem enterScene_tied {id k : String} {names : List String} {m : Nat} (lasts : Lasts names k)
    {s : Session η} (h : Known (sceneVars id) names k m s) (away : s.scene ≠ some id) :
    ∃ t, enterScene id s = (.done (), t) ∧ Tied "scene" (sceneVars id) names k m t := by
  obtain ⟨es, found⟩ := h.course
  cases loaded : s.course with
  | none => simp [sceneVars, loaded] at found
  | some d =>
    cases there : d.scene? id with
    | none => simp [sceneVars, loaded, there] at found
    | some scene =>
      obtain ⟨t, ended, tied⟩ := leads_activate lasts scene s h
      refine ⟨t, ?_, tied⟩
      have anew : (s.scene != some id) = true := by simpa using away
      rw [enterScene_of_some loaded there, anew, ended]

/-! ### Loading a course with a mapping -/

theorem lookup_adoptVars (next : Nat) {vs : List (String × Value)} {k : String} {v : Value}
    (h : vs.lookup k = some v) :
    ∃ from_, next ≤ from_ ∧ (adoptVars next vs).1.lookup k = some (Value.copy from_ v).1 := by
  induction vs generalizing next with
  | nil => cases h
  | cons p vs ih =>
    obtain ⟨l, w⟩ := p
    rw [List.lookup_cons] at h
    rw [adoptVars, List.lookup_cons]
    cases same : k == l with
    | true =>
      rw [same] at h
      obtain rfl := Option.some.inj h
      exact ⟨next, Nat.le_refl _, rfl⟩
    | false =>
      rw [same] at h
      obtain ⟨from_, later, found⟩ := ih (Value.copy next w).2 h
      exact ⟨from_, Nat.le_trans (Value.marks_copy next w).1 later, found⟩

theorem fst_adoptVars (next : Nat) (vs : List (String × Value)) :
    (adoptVars next vs).1.map Prod.fst = vs.map Prod.fst := by
  induction vs generalizing next with
  | nil => rfl
  | cons p vs ih => simp [adoptVars, ih]

/-- A mapping among the variables of a document is a mapping of the course that is made of it. -/
theorem lookup_adoptVars_map (next : Nat) {vs : List (String × Value)} {k : String} {v : Value}
    (h : vs.lookup k = some v) (mapping : v.isMapping = true) :
    ∃ m, next ≤ m ∧ ∃ es, (adoptVars next vs).1.lookup k = some (.map m es) := by
  obtain ⟨from_, later, found⟩ := lookup_adoptVars next h
  cases v with
  | map m es => exact ⟨from_, later, _, found⟩
  | _ => cases mapping

section

variable {c : Course} (json : c.marks = 0) {k : String} {v : Value} (mapping : v.isMapping = true)

include json mapping

theorem known_globals (h : c.globals.vars.lookup k = some v) (limits : Limits) (log : RunLog)
    (kept : η) :
    ∃ m, m ≠ 0 ∧ Known globalVars (c.globals.vars.map Prod.fst) k m
      (holding c (fresh limits log kept)) := by
  obtain ⟨m, new, es, found⟩ := lookup_adoptVars_map 6 h mapping
  have vars : globalVars (holding c (fresh limits log kept)) = (adoptVars 6 c.globals.vars).1 := by
    show (adoptCourse 6 c).1.globals.vars = _
    rw [adoptCourse_eq json]
  refine ⟨m, by omega, ?_, ?_, es, ?_⟩
  · simp [holding, fresh, Session.addEntry, Store.empty, json]
  · rw [vars, fst_adoptVars]
  · rw [vars, found]

theorem known_scene {id : String} {sc : Scene} (there : c.scene? id = some sc)
    (h : sc.vars.lookup k = some v) (limits : Limits) (log : RunLog) (kept : η) :
    ∃ m, m ≠ 0 ∧ Known (sceneVars id) (sc.vars.map Prod.fst) k m
      (holding c (fresh limits log kept)) := by
  obtain ⟨from_, later, same⟩ := find?_adoptScenes (adoptVars 6 c.globals.vars).2 c.scenes id
  have grown := (marks_adoptVars 6 c.globals.vars).1
  obtain ⟨m, new, es, found⟩ := lookup_adoptVars_map from_ h mapping
  have vars : sceneVars id (holding c (fresh limits log kept)) = (adoptVars from_ sc.vars).1 := by
    have scene : (adoptCourse 6 c).1.scene? id = some (adoptScene from_ sc) := by
      rw [adoptCourse_eq json]
      exact same.trans (congrArg _ there)
    show (((adoptCourse 6 c).1.scene? id).map (·.vars)).getD [] = _
    rw [scene]
    rfl
  refine ⟨m, by omega, ?_, ?_, es, ?_⟩
  · simp [holding, fresh, Session.addEntry, Store.empty, json]
  · rw [vars, fst_adoptVars]
  · rw [vars, found]

end

/-! ### Runs that change the course -/

def failingHost : Host Unit where
  onScene := some fun _ _ => Step.fail (.host "closed")
  onState := none
  onUi := none
  onEvent := fun _ _ _ => Step.pure ()

theorem madeOf_failingHost : failingHost.MadeOf Visit := by
  constructor
  · rintro call ⟨⟩ emit id
    exact .fail _
  · rintro call ⟨⟩
  · rintro call ⟨⟩
  · exact fun _ _ _ => .done

/-- At a host that fails, going to a scene is entering it. -/
theorem gotoScene_failingHost {s t : Session Unit} {id : String} {r : Except Fault Unit}
    (ends : (enterScene id).attempt s = (.done r, t)) (nesting : Nat) :
    ∃ r', (gotoScene failingHost (emit failingHost nesting) id).attempt s = (.done r', t) := by
  have unfolded : gotoScene failingHost (emit failingHost nesting) id s =
      Step.bind (enterScene id) (fun _ => Step.fail (.host "closed")) s := by
    show Step.bind (enterScene id) (fun _ => Step.bind (Step.fail _) _) s = _
    rfl
  rw [Step.attempt] at ends ⊢
  rw [unfolded, Step.bind]
  cases entered : enterScene id s with
  | mk ending u =>
    rw [entered] at ends
    cases ending with
    | done a =>
      cases ends
      exact ⟨_, rfl⟩
    | failed e =>
      cases ends
      exact ⟨_, rfl⟩
    | unfinished => cases ends

section

variable {c : Course} (json : c.marks = 0) {k : String} {v : Value} (mapping : v.isMapping = true)

include json mapping

/-- An entry is written into a global variable. -/
theorem globals_poked (h : c.globals.vars.lookup k = some v)
    (lasts : Lasts (c.globals.vars.map Prod.fst) k) (w : Int) :
    ∃ t m es, (do loadCourse c; setState (poke "globals" k w)) (fresh {} {} ()) = (.done (), t) ∧
      (globalVars t).lookup k = some (.map m (Entries.set (.str "x") (.int w) es)) := by
  obtain ⟨m, marked, known⟩ := known_globals json mapping h {} {} ()
  obtain ⟨s, seeded, tied⟩ := leads_seed_tied following_globalVars (Or.inl rfl) lasts _ known
  obtain ⟨t, es, done, found⟩ := poked following_globalVars (Or.inl rfl) marked w tied
  refine ⟨t, m, es, ?_, found⟩
  show Step.bind (loadCourse c) _ _ = _
  rw [Step.bind, loadCourse_eq, seeded]
  exact done

/-- A scene is entered, at which the host fails, and an entry is written into a variable of the
scene. -/
theorem scene_poked {id : String} {sc : Scene} (there : c.scene? id = some sc)
    (h : sc.vars.lookup k = some v) (lasts : Lasts (sc.vars.map Prod.fst) k) (w : Int) : ∃ t m es,
      (do loadCourse c
          let _ ← (gotoScene failingHost (emit failingHost 0) id).attempt
          setState (poke "scene" k w)) (fresh {} {} ()) = (.done (), t) ∧
        (sceneVars id t).lookup k = some (.map m (Entries.set (.str "x") (.int w) es)) := by
  obtain ⟨m, marked, known⟩ := known_scene json mapping there h {} {} ()
  have following : Following (sceneVars (η := Unit) id) := following_sceneVars id
  obtain ⟨s, seeded, known⟩ := leads_seed_known following "globals" globalVars _ known
  have nowhere : s.scene = none := by
    have stays : Step.Keeps (fun s : Session Unit => s.scene = none) (seed "globals" globalVars) :=
      keeps_seed_scene "globals" globalVars none
    have behind := stays (holding c (fresh {} {} ())) rfl
    rw [seeded] at behind
    exact behind
  obtain ⟨u, entered, tied⟩ := enterScene_tied lasts known (by simp [nowhere])
  obtain ⟨t, es, done, found⟩ := poked following (Or.inr rfl) marked w tied
  refine ⟨t, m, es, ?_, found⟩
  have ends : (enterScene id).attempt s = (.done (.ok ()), u) := by rw [Step.attempt, entered]
  obtain ⟨r, gone⟩ := gotoScene_failingHost ends 0
  show Step.bind (loadCourse c) _ _ = _
  rw [Step.bind, loadCourse_eq, seeded]
  show Step.bind _ _ s = _
  rw [Step.bind, gone]
  exact done

end

end Session

end SceneCourse
