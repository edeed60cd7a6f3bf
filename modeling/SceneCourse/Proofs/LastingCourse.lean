import SceneCourse.Proofs.BareCourse
import SceneCourse.Proofs.JsonDocument
import SceneCourse.Session.Script

/-! Which documents outlive every run. A document that does is changed neither by runs that write
into its mappings nor by runs that only enter scenes. Proved: these two are all that can change it.
A document with a mapping for a variable is changed by a trigger that writes into that variable. -/

namespace SceneCourse

/-! ### Making containers elsewhere -/

/-- A value with so many containers. -/
def Value.tower : Nat → Value
  | 0 => .null
  | k + 1 => .list 0 [tower k]

theorem Value.copy_tower (next k : Nat) : (copy next (tower k)).2 = next + k := by
  induction k generalizing next with
  | zero => rfl
  | succ k ih =>
    have inner := ih (next + 1)
    simp only [tower, copy, copyItems]
    omega

namespace Session

open Step (Leads)

variable {η : Type}

/-- A session in whose state there is room for the states of nodes. -/
structure Roomy (s : Session η) : Prop where
  unshared : s.store.shared = false
  nodes : s.store.HoldsNodes

theorem leads_sow_roomy {tier : String} (known : tier = "globals" ∨ tier = "scene") (name : String)
    (v : Value) : Leads (Roomy (η := η)) Roomy (sow tier name v) := by
  refine Leads.update fun s h => ?_
  obtain ⟨m, es, room⟩ := h.nodes
  have other : tier ≠ "nodes" := by rcases known with rfl | rfl <;> decide
  rw [Store.set_of_unshared h.unshared]
  refine ⟨h.unshared, m, es, ?_⟩
  show Entries.get? (.str "nodes") (Store.write _ 0 _ _ v).1 = _
  rw [segments_variable known]
  rcases Store.write_cons s.store.next 0 s.store.tiers tier ("vars" :: nameParts name) v with
    ⟨_, _, -, -, written⟩ | ⟨-, written⟩
  · rw [written, Entries.get?_set_str_of_ne other, room]
  · rw [written, Entries.get?_set_str_of_ne other, room]

theorem leads_seed_roomy {tier : String} (known : tier = "globals" ∨ tier = "scene")
    (vars : Session η → List (String × Value)) : Leads Roomy Roomy (seed tier vars) :=
  leads_seed (leads_sow_roomy known) vars

theorem roomy_loadCourse {c : Course} (json : c.marks = 0) :
    Roomy (loadCourse c (fresh {} {} ())).2 := by
  have begun : Roomy (holding c (fresh {} {} ())) := by
    refine ⟨?_, _, _, rfl⟩
    simp [holding, fresh, Session.addEntry, Store.empty, json]
  obtain ⟨t, seeded, roomy⟩ := leads_seed_roomy (Or.inl rfl) globalVars _ begun
  rw [loadCourse_eq, seeded]
  exact roomy

theorem roomy_enterScene {d : Course} {s : Session η} (h : Roomy s) (loaded : s.course = some d)
    (id : String) : Roomy (enterScene id s).2 := by
  rcases enterScene_cases loaded id with ⟨-, -, -, store, -, -⟩ | ⟨sc, -, -, anew⟩
  · exact ⟨by rw [store, h.unshared], by rw [store]; exact h.nodes⟩
  · have begun : Roomy (cleared id s) := ⟨h.unshared, _, _, Entries.get?_set_str_self _ _ _⟩
    obtain ⟨t, seeded, roomy⟩ := leads_seed_roomy (Or.inr rfl) (sceneVars id) _ begun
    rw [anew, activate_anew seeded]
    exact ⟨roomy.unshared, roomy.nodes⟩

def spend (k : Nat) : Value := .object [("nodes", .object [("spare", .tower k)])]

theorem setState_spend {s : Session η} (h : Roomy s) (k : Nat) :
    ∃ t, setState (spend k) s = (.done (), t) ∧ Roomy t ∧ t.store.next = s.store.next + k := by
  obtain ⟨m, es, room⟩ := h.nodes
  let store : Store := { s.store with next := s.store.next + k }
  have only : setState (spend k) s = Step.bind (setNode "spare" (.tower k))
      (fun _ => Step.pure ()) s := rfl
  have adopted : s.store.adopt (.tower k) = ((Value.copy s.store.next (.tower k)).1, store) := by
    rw [Store.adopt_of_unshared h.unshared, Value.copy_tower]
  have unshared : store.shared = false := h.unshared
  have room' : Entries.get? (.str "nodes") store.tiers = some (.map m es) := room
  rw [only, Step.bind, setNode]
  simp only [adopted, Store.setNodeState_of_holds ⟨m, es, room'⟩,
    Store.place_node_of_unshared unshared room']
  exact ⟨_, rfl, ⟨h.unshared, _, _, Entries.get?_set_str_self _ _ _⟩, rfl⟩

end Session

namespace Course

open Session Step

variable {c : Course}

/-- A session of the failing host after something was asked of it. -/
def Asked (c : Course) (u : Session Unit) : Prop :=
  ∃ play, MadeOf (Operation failingHost (emit failingHost 0)) play ∧
    (do loadCourse c; play) (fresh {} {} ()) = (.done (), u)

theorem Kept.asked (kept : c.Kept) {u : Session Unit} (h : Asked c u) : Holds c u := by
  obtain ⟨play, made, run⟩ := h
  have held := kept Unit failingHost madeOf_failingHost 0 play made {} {}
    (({} : Bus).onAll .course) ()
  have same : (do loadCourse c; play) { fresh {} {} () with bus := ({} : Bus).onAll .course } =
      (.done (), u) := run
  rw [same] at held
  exact held

theorem asked_loaded {u : Session Unit} (loaded : loadCourse c (fresh {} {} ()) = (.done (), u)) :
    Asked c u := by
  refine ⟨Step.pure (), .done, ?_⟩
  show Step.bind (loadCourse c) _ _ = _
  rw [Step.bind, loaded]
  rfl

theorem Asked.after {u u' : Session Unit} (h : Asked c u) {x : Step (Session Unit) Unit}
    (asked : Operation failingHost (emit failingHost 0) x) {r : Except Fault Unit}
    (ends : x.attempt u = (.done r, u')) : Asked c u' := by
  obtain ⟨play, made, run⟩ := h
  refine ⟨play >>= fun _ => x.attempt >>= fun _ => Step.pure (),
    made.andThen (.next (.call asked) fun _ => .done), ?_⟩
  have rest : (x.attempt >>= fun _ => Step.pure ()) u = (.done (), u') := by
    show Step.bind x.attempt _ u = _
    rw [Step.bind, ends]
    rfl
  have run' : Step.bind (Step.bind (loadCourse c) fun _ => play)
      (fun _ => x.attempt >>= fun _ => Step.pure ())
      (fresh {} {} ()) = (.done (), u') := by
    rw [Step.bind, show Step.bind (loadCourse c) (fun _ => play) (fresh {} {} ()) =
      (.done (), u) from run]
    exact rest
  rw [← run']
  show Step.bind (loadCourse c) (fun _ => Step.bind play _) _ = _
  simp only [Step.bind]
  rcases loadCourse c (fresh {} {} ()) with ⟨_ | _ | _, _⟩ <;> rfl

/-- A session that only enters scenes is met, with all its marks, by a session of which something
can be asked. -/
theorem entered_met (json : c.marks = 0) (hidden : ¬c.Exposed) (kept : c.Kept) {t : Session Unit}
    (entered : c.Entered t) :
    ∃ u, Asked c u ∧ Beside t u ∧ u.store.next = t.store.next ∧ Roomy u := by
  induction entered with
  | loaded =>
    obtain ⟨u, loaded, -, -, begun⟩ := loaded_beside (η := Unit) json hidden {} {}
      (({} : Bus).onAll .course) ()
    have asked := asked_loaded loaded
    obtain ⟨beside, next⟩ := begun (kept.asked asked)
    have roomy := roomy_loadCourse json
    rw [show loadCourse c (fresh {} {} ()) = (.done (), u) from loaded] at roomy
    exact ⟨u, asked, beside, next, roomy⟩
  | @entered t _ id next later ih =>
    obtain ⟨u, asked, beside, same, roomy⟩ := ih
    obtain ⟨v, spent, roomy', more⟩ := setState_spend roomy (next - u.store.next)
    have beside' : Beside t v := by
      have behind := (stable_beside t).setState (spend (next - u.store.next)) u beside
      rwa [spent] at behind
    have reached : v.store.next = next := by omega
    have ends : (setState (spend (next - u.store.next))).attempt u =
        (.done (.ok ()), v) := by rw [Step.attempt, spent]
    have asked' : Asked c v := asked.after (.setState _) ends
    obtain ⟨⟨r, entered⟩, -, -, next', behind⟩ := enterScene_beside (c := c) beside'.ahead rfl id
    rw [reached] at next' behind
    obtain ⟨r', ends'⟩ := gotoScene_failingHost entered 0
    have asked'' := asked'.after (.goto id) ends'
    obtain ⟨d, -, apart⟩ := beside'.apart
    exact ⟨_, asked'', behind hidden (kept.asked asked''), next',
      roomy_enterScene roomy' apart.course id⟩

/-- What no run changes is not changed by entering scenes. -/
theorem steady_of_kept (json : c.marks = 0) (hidden : ¬c.Exposed) (kept : c.Kept) : c.Steady := by
  intro t entered
  obtain ⟨u, asked, beside, -, -⟩ := entered_met json hidden kept entered
  obtain ⟨d, loaded, apart⟩ := beside.apart
  exact (kept.asked asked).of_same (loaded.trans apart.course.symm) beside.seeds.symm

/-- No value has two different numbers in one place. -/
theorem not_written_twice (vs : List (String × Value)) (k : String)
    (h : ∀ w : Int, ∃ m es, (vs.lookup k).map Value.plain =
      some (Value.plain (.map m (Entries.set (.str "x") (.int w) es)))) : False := by
  obtain ⟨m, es, zero⟩ := h 0
  obtain ⟨n, fs, one⟩ := h 1
  have same : (0 : Int) = 1 := Value.eq_of_plain_set_eq (Option.some.inj (zero.symm.trans one))
  omega

theorem not_exposed_of_kept (json : c.marks = 0) (kept : c.Kept) : ¬c.Exposed := by
  rintro (⟨k, v, declares, mapping, lasts⟩ | ⟨id, sc, there, k, v, declares, mapping, lasts⟩)
  · refine not_written_twice c.globals.vars k fun w => ?_
    obtain ⟨t, m, es, done, found⟩ := globals_poked json mapping declares lasts w
    have held := kept.asked ⟨_, .call (.setState _), done⟩
    refine ⟨m, es, ?_⟩
    rw [← lookup_mapFields, ← held.globals, lookup_mapFields, found]
    rfl
  · refine not_written_twice sc.vars k fun w => ?_
    obtain ⟨t, m, es, done, found⟩ := scene_poked json mapping there declares lasts w
    have held := kept.asked ⟨_, .next (.call (.goto id)) fun _ => .call
      (.setState (poke "scene" k w)), done⟩
    refine ⟨m, es, ?_⟩
    have declares : declared c id = sc.vars := by simp [declared, there]
    rw [← lookup_mapFields, ← declares, ← held.scene id, lookup_mapFields, found]
    rfl

/-- A document that is read from JSON outlives every run exactly if writing its variables leaves no
mapping of it in the state and entering its scenes alone leaves it as it is. It does if no variable
is a mapping. -/
theorem kept_iff {rules : Json.Rules} {text : String} {v : Value} {c : Course}
    (parsed : Json.parse rules text = .ok v) (read : ofValue v = .ok c) :
    (c.Kept ↔ ¬c.Exposed ∧ c.Steady) ∧ (c.Bare → c.Kept) := by
  have json : c.marks = 0 := marks_eq_zero_of_json parsed read
  refine ⟨⟨fun kept => ?_, fun ⟨hidden, steady⟩ => kept_of_steady json hidden steady⟩,
    fun bare => ?_⟩
  · have hidden := not_exposed_of_kept json kept
    exact ⟨hidden, steady_of_kept json hidden kept⟩
  · exact kept_of_steady json bare.not_exposed (bare.steady json)

def boxText : String :=
  "\x7b\"meta\": \x7b\"id\": \"box\"\x7d, \"startSceneId\": \"room\", \"scenes\": [" ++
    "\x7b\"id\": \"room\", \"vars\": \x7b\"box\": \x7b\"lid\": 1\x7d\x7d\x7d]\x7d"

/-- The document with the box is not kept, as the box stays in the state. -/
theorem kept_iff_box :
    ∃ v c, Json.parse .documents boxText = .ok v ∧ ofValue v = .ok c ∧ c.Exposed ∧ ¬c.Kept := by
  have readable :
      (((Json.parse .documents boxText).toOption.bind fun v => (ofValue v).toOption).bind fun c =>
      (c.scene? "room").map fun sc => sc.vars.map fun p => (p.1, p.2.isMapping)) =
          some [("box", true)] := by
    decide +kernel
  obtain ⟨c, made, room⟩ := Option.bind_eq_some_iff.1 readable
  obtain ⟨v, written, made⟩ := Option.bind_eq_some_iff.1 made
  have parsed : Json.parse .documents boxText = .ok v := by
    cases h : Json.parse .documents boxText <;> simp_all [Except.toOption]
  have read : ofValue v = .ok c := by
    cases h : ofValue v <;> simp_all [Except.toOption]
  have exposed : c.Exposed := by
    obtain ⟨sc, there, vars⟩ := Option.map_eq_some_iff.1 room
    obtain ⟨⟨k, box⟩, rest, shape, here, none⟩ := List.map_eq_cons_iff.1 vars
    obtain ⟨rfl, mapping⟩ := Prod.mk.inj here
    obtain rfl := List.map_eq_nil_iff.1 none
    refine Or.inr ⟨"room", sc, there, "box", box, by simp [shape], mapping, [], [],
      by simp [shape], ?_⟩
    exact fun _ none => absurd none List.not_mem_nil
  exact ⟨v, c, parsed, read, exposed, fun kept => ((kept_iff parsed read).1.1 kept).1 exposed⟩

/-! ### A box -/

/-- In the room stands a box, whose lid is shut; whoever opens it puts a 2 for the 1. -/
def boxCourse : Course where
  schema := "vvce.dsl.v1"
  about := ⟨"box", "1.0.0", []⟩
  globals := ⟨[], []⟩
  start := "room"
  scenes := [
    { id := "room"
      vars := [("box", .object [("lid", .int 1)])]
      nodes := []
      triggers := [⟨⟨"open", none, []⟩, none, [.setVar "scene.vars.box.lid" (.int 2)], none, []⟩]
      extras := [] },
    { id := "yard", vars := [], nodes := [], triggers := [], extras := [] }]
  extras := []

def boxHost : Host ScriptHost := ScriptHost.callbacks {}

def boxPlay : Step (Session ScriptHost) Unit := do
  let _ ← (Session.start boxHost (emit boxHost 3) none .null).attempt
  let _ ← (emit boxHost 3 { kind := "open" }).attempt
  let _ ← (gotoScene boxHost (emit boxHost 3) "yard").attempt
  gotoScene boxHost (emit boxHost 3) "room"

def boxSession : Session ScriptHost := ((do loadCourse boxCourse; boxPlay) (fresh {} {} {})).2

def lid (box : Value) : Option Int :=
  match box.field? "lid" with
  | some (.int n) => some n
  | _ => none

theorem lid_plain (box : Value) : lid box.plain = lid box := by
  cases box with
  | map m es =>
    rw [lid, lid, Value.plain, Value.field?, Value.field?, Value.get?_plainEntries]
    cases Entries.get? (.str "lid") es with
    | none => rfl
    | some v => cases v <;> rfl
  | _ => rfl

/-- The box is still open when the room is entered again. -/
theorem box_stays_open : boxPlay.MadeOf (Operation boxHost (emit boxHost 3)) ∧
    boxSession.passages = [.entered "room", .entered "yard", .entered "room"] ∧
      boxSession.seeds.map (fun r => lid r.value) = [some 2, some 1] ∧
      ¬Holds boxCourse boxSession := by
  have seeded : boxSession.seeds.map (fun r => lid r.value) = [some 2, some 1] := by decide +kernel
  refine ⟨?_, by decide +kernel, seeded, fun held => ?_⟩
  · refine .next (.call (.start none .null)) fun _ => .next (.call (.emit _)) fun _ => ?_
    exact .next (.call (.goto "yard")) fun _ => .call (.goto "room")
  · have declared : boxSession.seeds.map (fun r => (r.declaration boxCourse).bind lid) =
        [some 1, some 1] := by
      decide +kernel
    have same : boxSession.seeds.map (fun r => (r.declaration boxCourse).bind lid) =
        boxSession.seeds.map (fun r => lid r.value) := by
      refine List.map_congr_left fun r hr => ?_
      obtain ⟨v, declares, is⟩ := Option.map_eq_some_iff.1 (held.seeds r hr)
      rw [declares, Option.bind_some, ← lid_plain, is, lid_plain]
    rw [declared, seeded] at same
    cases same

end Course

end SceneCourse
