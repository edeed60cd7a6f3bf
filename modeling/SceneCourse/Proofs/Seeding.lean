import SceneCourse.Proofs.LoadedCourse
import SceneCourse.Proofs.Placement

/-! Writing the variables of a course into the state. A variable is written as it is, so a mapping
among them is held by the course and by the state at once from then on, until another variable takes
its place. What becomes of the course depends on nothing but the course, the tier, and the marks
ahead. -/

namespace SceneCourse

open Value (Edit)

/-! ### Paths of variables -/

def nameParts (name : String) : List String := (dotParts name.toList).map String.ofList

theorem dotParts_append (cs ds : List Char) :
    dotParts (cs ++ '.' :: ds) = dotParts cs ++ dotParts ds := by
  induction cs with
  | nil => rfl
  | cons c cs ih =>
    by_cases point : c = '.'
    · simp [dotParts, point, ih]
    · obtain ⟨p, ps, parts⟩ := List.exists_cons_of_ne_nil (dotParts_ne_nil cs)
      simp [dotParts, point, ih, parts]

theorem nameParts_append (a b : String) :
    nameParts (a ++ "." ++ b) = nameParts a ++ nameParts b := by
  have chars : (a ++ "." ++ b).toList = a.toList ++ '.' :: b.toList := by simp
  rw [nameParts, chars, dotParts_append, List.map_append, nameParts, nameParts]

theorem segments_variable {tier : String} (h : tier = "globals" ∨ tier = "scene") (name : String) :
    segments s!"{tier}.vars.{name}" = tier :: "vars" :: nameParts name := by
  have chars : (s!"{tier}.vars.{name}").toList =
      tier.toList ++ '.' :: ("vars".toList ++ '.' :: name.toList) := by
    show (tier ++ ".vars." ++ name).toList = _
    rw [String.toList_append, String.toList_append, List.append_assoc]
    rfl
  have vars : (dotParts "vars".toList).map String.ofList = ["vars"] := by decide
  rw [segments, chars, dotParts_append, dotParts_append, List.map_append, List.map_append, vars]
  rcases h with rfl | rfl
  · have own : (dotParts "globals".toList).map String.ofList = ["globals"] := by decide
    rw [own]
    rfl
  · have own : (dotParts "scene".toList).map String.ofList = ["scene"] := by decide
    rw [own]
    rfl

namespace Session

variable {η : Type} {n : Nat} {d : Course} {tier : String}
  {vars : Session η → List (String × Value)}

open Store Step Value

/-! ### Variables that are followed -/

/-- Variables of the loaded course, as they follow the edits of the state. -/
structure Following (vars : Session η → List (String × Value)) : Prop where
  within : ∀ (s : Session η) (d : Course), s.course = some d → vars s ⊆ d.allVars
  course : ∀ s t : Session η, s.course = t.course → vars s = vars t
  commit : ∀ (s : Session η) (store : Store) (edits : List Edit), store.shared = false →
    vars (s.commit store edits) = mapFields (Value.followAll edits) (vars s)

theorem following_globalVars : Following (globalVars (η := η)) where
  within s d loaded := by
    rw [globalVars, loaded]
    exact List.subset_append_left _ _
  course s t same := by rw [globalVars, globalVars, same]
  commit s store edits unshared := by
    cases loaded : s.course with
    | none => simp [globalVars, Session.commit, loaded, mapFields]
    | some d => simp [globalVars, Session.commit, loaded, unshared, Course.mapVars, mapFields]

theorem following_sceneVars (id : String) : Following (sceneVars (η := η) id) where
  within s d loaded p hp := by
    rw [sceneVars, loaded] at hp
    cases there : d.scene? id with
    | none => simp [there] at hp
    | some sc =>
      rw [Option.bind_some, there] at hp
      exact List.mem_append_right _ (List.mem_flatMap.2 ⟨sc, List.mem_of_find?_eq_some there, hp⟩)
  course s t same := by rw [sceneVars, sceneVars, same]
  commit s store edits unshared := by
    cases loaded : s.course with
    | none => simp [sceneVars, Session.commit, loaded, mapFields]
    | some d =>
      simp only [sceneVars, Session.commit, loaded, unshared, Option.map_some, Option.bind_some,
        Course.scene?_mapVars]
      cases d.scene? id with
      | none => rfl
      | some sc => rfl

/-! ### Seeding -/

def turn (tier : String) (vars : Session η → List (String × Value)) (name : String) :
    Step (Session η) Unit := do
  let s ← Step.current
  match (vars s).lookup name with
  | some v => sow tier name v
  | none => Step.pure ()

theorem turn_of_some {tier : String} {vars : Session η → List (String × Value)} {s : Session η}
    {name : String} {v : Value} (found : (vars s).lookup name = some v) :
    turn tier vars name s = sow tier name v s := by
  rw [turn]
  show Step.bind Step.current _ s = _
  simp only [Step.bind, Step.current, found]

theorem turn_of_none {tier : String} {vars : Session η → List (String × Value)} {s : Session η}
    {name : String} (missing : (vars s).lookup name = none) :
    turn tier vars name s = (.done (), s) := by
  rw [turn]
  show Step.bind Step.current _ s = _
  simp only [Step.bind, Step.current, missing]
  rfl

theorem seed_eq (tier : String) (vars : Session η → List (String × Value)) (s : Session η) :
    seed tier vars s = Step.each (turn tier vars) ((vars s).map Prod.fst) s := rfl

/-- A session while it is seeded. The containers of its course are of one kind; of these, mappings
stand in the state at or below certain places only. -/
structure Sowing (D : Nat → Prop) (places : List String → Prop) (s : Session η) : Prop where
  course : ∃ d, s.course = some d ∧ ∀ m ∈ d.varMarks, D m
  store : s.store.Planted D places

theorem Apart.sowing {s : Session η} (h : Apart n d s) :
    Sowing (· ∈ d.varMarks) (fun _ => False) s :=
  ⟨⟨d, h.course, fun _ hm => hm⟩, h.clear.planted⟩

/-- A session in which no mapping of the course stands in the state any more. -/
theorem Sowing.apart {D : Nat → Prop} {places : List String → Prop} {s : Session η}
    (h : Sowing D places s) (nowhere : ∀ l, ¬places l) : ∃ d, Apart s.store.next d s := by
  obtain ⟨d, loaded, inside⟩ := h.course
  exact ⟨d, loaded, h.store.clear nowhere inside⟩

theorem Sowing.sow {D : Nat → Prop} {places : List String → Prop} {s : Session η}
    (h : Sowing D places s) (tier name : String) {v : Value} (value : ∀ k ∈ marks v, D k) :
    ∃ D' store e, sow tier name v s = (.done (), (s.commit store [e]).remember tier name v) ∧
      store.shared = false ∧
      (∃ gs, e.now = .map e.mark gs) ∧
        Sowing D' (Replaced places (segments s!"{tier}.vars.{name}") v)
        ((s.commit store [e]).remember tier name v) := by
  obtain ⟨d, loaded, inside⟩ := h.course
  obtain ⟨D', e, planted, edits, now, grown, brought⟩ := h.store.set s!"{tier}.vars.{name}" value
  have course : (s.commit (s.store.set s!"{tier}.vars.{name}" v).1 [e]).course =
      some (d.mapVars (followAll [e])) := by
    simp [Session.commit, loaded, planted.unshared]
  refine ⟨D', _, e, ?_, planted.unshared, now,
    ⟨d.mapVars (followAll [e]), course, fun m hm => ?_⟩, planted⟩
  · rw [← edits]
    rfl
  obtain ⟨p, hp, here⟩ := List.mem_flatMap.1 hm
  rw [Course.allVars_mapVars] at hp
  obtain ⟨q, hq, rfl⟩ := List.mem_map.1 hp
  rcases marks_follow e q.2 here with old | ⟨edited, new⟩
  · exact grown m (inside m (List.mem_flatMap.2 ⟨q, hq, old⟩))
  · exact brought (inside _ (List.mem_flatMap.2 ⟨q, hq, edited⟩)) m new

/-- A variable that is written at some point and that no later one takes the place of. -/
def Lasts (names : List String) (k : String) : Prop :=
  ∃ before after, names = before ++ k :: after ∧ ∀ name ∈ after, ¬nameParts name <+: nameParts k

theorem Lasts.append {names : List String} {k name : String} (h : Lasts names k)
    (apart : ¬nameParts name <+: nameParts k) : Lasts (names ++ [name]) k := by
  obtain ⟨before, after, rfl, last⟩ := h
  refine ⟨before, after ++ [name], by simp, fun other member => ?_⟩
  rcases List.mem_append.1 member with earlier | new
  · exact last other earlier
  · rw [List.mem_singleton.1 new]
    exact apart

/-- A session in which some variables of a tier are written already. What stands in the state of the
course stands in mappings that are variables of the tier and that were not replaced so far. -/
structure Sown (tier : String) (vars : Session η → List (String × Value)) (names done : List String)
    (s : Session η) : Prop where
  names : (vars s).map Prod.fst = names
  sowing : ∃ D places, Sowing D places s ∧ ∀ l, places l → ∃ k, l = tier :: "vars" :: nameParts k ∧
    Lasts done k ∧
    ∃ m es, (vars s).lookup k = some (.map m es)

theorem leads_turn (following : Following vars) (known : tier = "globals" ∨ tier = "scene")
    {names done : List String} {name : String} (member : name ∈ names) :
    Leads (Sown tier vars names done) (Sown tier vars names (done ++ [name]))
    (turn tier vars name) := by
  refine Leads.look fun s h => ?_
  obtain ⟨D, places, sowing, stand⟩ := h.sowing
  cases found : (vars s).lookup name with
  | none =>
    rw [← h.names] at member
    obtain ⟨p, hp, rfl⟩ := List.mem_map.1 member
    exact absurd (List.lookup_eq_none_iff.1 found p hp) (by simp)
  | some v =>
    obtain ⟨d, loaded, inside⟩ := sowing.course
    have value : ∀ k ∈ marks v, D k := fun k hk =>
      inside k (List.mem_flatMap.2 ⟨_, following.within s d loaded (mem_of_lookup found), hk⟩)
    obtain ⟨D', store, e, done, unshared, now, sown⟩ := sowing.sow tier name value
    have vars' : vars ((s.commit store [e]).remember tier name v) =
        mapFields (followAll [e]) (vars s) :=
      (following.course ((s.commit store [e]).remember tier name v) (s.commit store [e]) rfl).trans
        (following.commit s store [e] unshared)
    -- a mapping stays a mapping with its mark
    have mapping {k : String} {m : Nat} {es : List (Key × Value)}
        (here : (vars s).lookup k = some (.map m es)) :
        ∃ m es, (vars ((s.commit store [e]).remember tier name v)).lookup k = some (.map m es) := by
      obtain ⟨fs, followed⟩ := follow_map now m es
      exact ⟨m, fs, by rw [vars', lookup_mapFields, here]; exact congrArg some followed⟩
    refine ⟨_, done, ?_, D', _, sown, ?_⟩
    · rw [vars', fst_mapFields, h.names]
    · rw [segments_variable known]
      rintro l (⟨rfl, is⟩ | ⟨taken, apart⟩)
      · refine ⟨name, rfl, ⟨_, [], rfl, fun _ none => absurd none List.not_mem_nil⟩, ?_⟩
        cases v with
        | map m es => exact mapping found
        | _ => cases is
      · obtain ⟨k, rfl, lasts, m, es, here⟩ := stand l taken
        refine ⟨k, rfl, lasts.append fun above => apart ?_, mapping here⟩
        simpa [List.cons_prefix_cons] using above

/-- A tier is seeded. -/
theorem leads_seed_sown (following : Following vars) (known : tier = "globals" ∨ tier = "scene")
    {names : List String} :
    Leads (Sown tier vars names []) (Sown tier vars names names) (seed tier vars) := by
  intro s h
  rw [seed_eq, h.names]
  exact Leads.each_after (fun done name member => leads_turn following known member) [] s h

/-! ### Sessions that are seeded alike -/

variable {θ : Type} {vars' : Session θ → List (String × Value)}

/-- Sessions with the same course, the same scene and history, the same tier, and the same marks
ahead. -/
structure Alike (tier : String) (s : Session η) (t : Session θ) : Prop where
  course : s.course = t.course
  scene : s.scene = t.scene
  seeds : s.seeds = t.seeds
  next : s.store.next = t.store.next
  left : s.store.shared = false
  right : t.store.shared = false
  tier : ∃ m es, Entries.get? (.str tier) s.store.tiers = some (.map m es) ∧
    Entries.get? (.str tier) t.store.tiers = some (.map m es)

/-- A write into a tier does to the tier and to the course what it does in any other session with
that tier. -/
theorem alike_sow (known : tier = "globals" ∨ tier = "scene") {s : Session η} {t : Session θ}
    (h : Alike tier s t) (name : String) (v : Value) :
    Alike tier (sow tier name v s).2 (sow tier name v t).2 := by
  obtain ⟨m, es, mine, yours⟩ := h.tier
  have more : "vars" :: nameParts name ≠ [] := List.cons_ne_nil _ _
  have left := set_of_unshared h.left s!"{tier}.vars.{name}" v
  have right := set_of_unshared h.right s!"{tier}.vars.{name}" v
  rw [segments_variable known, write_into mine more] at left
  rw [segments_variable known, write_into yours more, ← h.next] at right
  simp only [Session.sow, Step.update, left, right]
  refine ⟨?_, h.scene, ?_, rfl, h.left, h.right, m, _, Entries.get?_set_str_self _ _ _,
    Entries.get?_set_str_self _ _ _⟩
  · simp [Session.remember, Session.commit, h.course, h.left, h.right]
  · show _ :: s.seeds = _ :: t.seeds
    rw [h.seeds]
    exact congrArg (fun scene => (⟨scene, tier, name, v⟩ : Seed) :: t.seeds) h.scene

theorem alike_turn (known : tier = "globals" ∨ tier = "scene")
    (same : ∀ s t, s.course = t.course → vars s = vars' t) {s : Session η} {t : Session θ}
    (h : Alike tier s t) (name : String) :
    ∃ s' t', turn tier vars name s = (.done (), s') ∧ turn tier vars' name t = (.done (), t') ∧
      Alike tier s' t' := by
  have course := same s t h.course
  cases found : (vars' t).lookup name with
  | none => exact ⟨s, t, turn_of_none (by rw [course, found]), turn_of_none found, h⟩
  | some v =>
    exact ⟨_, _, turn_of_some (by rw [course, found]), turn_of_some found, alike_sow known h name v⟩

theorem alike_seed (known : tier = "globals" ∨ tier = "scene")
    (same : ∀ s t, s.course = t.course → vars s = vars' t) {s : Session η} {t : Session θ}
    (h : Alike tier s t) :
    ∃ s' t', seed tier vars s = (.done (), s') ∧ seed tier vars' t = (.done (), t') ∧
      Alike tier s' t' := by
  rw [seed_eq, seed_eq, same s t h.course]
  generalize (vars' t).map Prod.fst = names
  induction names generalizing s t with
  | nil => exact ⟨s, t, rfl, rfl, h⟩
  | cons name names ih =>
    obtain ⟨s', t', mine, yours, alike⟩ := alike_turn known same h name
    obtain ⟨s'', t'', mine', yours', alike'⟩ := ih alike
    refine ⟨s'', t'', ?_, ?_, alike'⟩
    · rw [Step.each, Step.bind, mine]
      exact mine'
    · rw [Step.each, Step.bind, yours]
      exact yours'

end Session

end SceneCourse
