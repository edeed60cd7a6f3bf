import SceneCourse.Proofs.ScenePass

/-! Scenes one after another. A pass over triggers belongs to the scene that it began in, and goes
on firing that scene's triggers after it has led to another one. So a run does not follow the arrows
of the scene graph from each scene to the one entered next; every scene that is entered is a
successor of the scene that had been entered last when the innermost open pass began. What carries
the induction is that each open pass keeps the scene that it belongs to, whatever is entered
meanwhile. -/

namespace SceneCourse

open Step (Keeps Guards MadeOf Leads)

namespace Move

/-- The passes that are open, each by the moves up to its beginning, the innermost one first. -/
def openings : List Move → List (List Move)
  | [] => []
  | .begins e scene :: ms => (.begins e scene :: ms) :: openings ms
  | .arrives _ :: ms => openings ms
  | .fires _ _ _ :: ms => openings ms
  | .ends :: ms => (openings ms).tail

theorem suffix_of_mem_openings {pass ms : List Move} (h : pass ∈ openings ms) : pass <:+ ms := by
  induction ms with
  | nil => exact absurd h List.not_mem_nil
  | cons m ms ih =>
    have within (inside : pass ∈ openings ms) : pass <:+ m :: ms :=
      (ih inside).trans (List.suffix_cons m ms)
    cases m with
    | begins e scene =>
      rcases List.mem_cons.1 h with rfl | outer
      · exact List.suffix_refl _
      · exact within outer
    | arrives _ => exact within h
    | fires _ _ _ => exact within h
    | ends => exact within (List.mem_of_mem_tail h)

end Move

open Move (openings)

/-! ### Where scenes come from -/

/-- A pass belongs to the scene that had been entered last when it began; others have been entered
since. -/
structure BelongsTo (pass : List Move) (w : Entrance) (since : List Entrance) : Prop where
  began : ∃ e before, pass = .begins e (some w.scene) :: before ∧ w.moves <:+ before
  since : ∀ u ∈ since, pass <:+ u.moves

/-- How a scene comes to be entered after others, the latest of which is first: as the start of the
course, outside of all passes, or in a pass, as a successor of the scene that the pass belongs
to. -/
inductive CameFrom (c : Course) (v : Entrance) : List Entrance → Prop where
  | start (first : v.scene = c.start) (outside : openings v.moves = []) : CameFrom c v []
  | pass {pass : List Move} {outer : List (List Move)} {w : Entrance} {since past : List Entrance}
    (inside : openings v.moves = pass :: outer) (belongs : BelongsTo pass w since)
    (follows : v.scene ∈ (SceneGraph.ofCourse c).successors w.scene) :
      CameFrom c v (since ++ w :: past)

/-- Every scene that was entered came from those entered before it. -/
def Walked (c : Course) (es : List Entrance) : Prop :=
  ∀ newer v older, es = newer ++ v :: older → CameFrom c v older

variable {c : Course} {v : Entrance} {es : List Entrance} {pass : List Move}

theorem walked_nil : Walked c [] := by
  intro newer u older split
  simp at split

theorem Walked.cons (h : Walked c es) (came : CameFrom c v es) : Walked c (v :: es) := by
  intro newer u older split
  rcases List.cons_eq_append_iff.1 split with ⟨rfl, same⟩ | ⟨newer, rfl, rest⟩
  · obtain ⟨rfl, rfl⟩ := List.cons.inj same
    exact came
  · exact h newer u older rest

/-- Where the pass has not led to the scene entered before, that is the scene that the pass belongs
to. -/
theorem CameFrom.follows {u : Entrance} {rest : List Entrance} (h : CameFrom c v (u :: rest))
    (alone : ∀ pass outer, openings v.moves = pass :: outer → ¬pass <:+ u.moves) :
    v.scene ∈ (SceneGraph.ofCourse c).successors u.scene := by
  generalize before : u :: rest = older at h
  cases h with
  | start => cases before
  | @pass pass outer w since past inside belongs follows =>
    rcases List.cons_eq_append_iff.1 before with ⟨rfl, same⟩ | ⟨since, rfl, -⟩
    · obtain ⟨rfl, -⟩ := List.cons.inj same
      exact follows
    · exact absurd (belongs.since u List.mem_cons_self) (alone pass outer inside)

def Anchored (es : List Entrance) (pass : List Move) : Prop :=
  ∃ since w past, es = since ++ w :: past ∧ BelongsTo pass w since

theorem Anchored.cons (h : Anchored es pass) (within : pass <:+ v.moves) :
    Anchored (v :: es) pass := by
  obtain ⟨since, w, past, rfl, belongs⟩ := h
  refine ⟨v :: since, w, past, rfl, belongs.began, fun u member => ?_⟩
  rcases List.mem_cons.1 member with rfl | earlier
  · exact within
  · exact belongs.since u earlier

/-- Who is entered in a pass as a successor of its scene has come from the scenes before. -/
theorem Anchored.cameFrom {e : Event} {a : String} {before : List Move} {outer : List (List Move)}
    (h : Anchored es (.begins e (some a) :: before))
    (inside : openings v.moves = (.begins e (some a) :: before) :: outer)
    (follows : v.scene ∈ (SceneGraph.ofCourse c).successors a) : CameFrom c v es := by
  obtain ⟨since, w, past, rfl, belongs⟩ := h
  obtain ⟨e', before', same, -⟩ := belongs.began
  injection same with begins
  injection begins with _ scene
  obtain rfl := Option.some.inj scene
  exact .pass inside belongs follows

/-- The triggers of every declared scene lead to successors of that scene. -/
def Course.Guides (c : Course) (declared : String → Option (List Trigger)) : Prop :=
  ∀ id ts, declared id = some ts → ∀ t ∈ ts, t.LeadsTo (· ∈ (SceneGraph.ofCourse c).successors id)

theorem Course.guides_adoptCourse (c : Course) (next : Nat) :
    c.Guides (Session.adoptCourse next c).1.triggersOf := by
  intro id ts declares t ht
  obtain ⟨scene, there, rfl⟩ := Option.map_eq_some_iff.1 declares
  have leads : c.exits id = some scene.next := by
    rw [← Session.exits_adoptCourse next c, Course.exits, there, Option.map_some]
  refine Scene.leadsTo (fun target going => ?_) ht
  rw [Course.successors_ofCourse]
  exact exits_subset_targets leads going

namespace Session

variable {η : Type} {declared : String → Option (List Trigger)} {passes : List (List Move)}

/-! ### Between two moves -/

/-- Some passes are open, each with its scene, and the scene entered last is the active one. -/
structure Afoot (declared : String → Option (List Trigger)) (passes : List (List Move))
    (s : Session η) : Prop where
  declares : s.position.declared = some declared
  settled : Settled s.position
  opens : openings s.moves = passes
  here : s.scene = s.entrances.head?.map (·.scene)
  recent : ∀ v, s.entrances.head? = some v → v.moves <:+ s.moves
  anchored : ∀ pass ∈ passes, Anchored s.entrances pass

/-- Nothing has changed about where the session stands and how it came there. -/
def Stayed (was s : Session η) : Prop :=
  (s.position = was.position ∧ s.moves = was.moves) ∧ s.entrances = was.entrances

theorem firm_stayed (was : Session η) : Firm (Stayed was) :=
  ((stable_position (· = was.position)).toFirm.and
    (firm_surroundings fun v => v.moves = was.moves)).and
    (firm_entrances (· = was.entrances))

theorem leads_seed_stayed (tier : String) (vars : Session η → List (String × Value))
    (was : Session η) : Leads (Stayed was) (Stayed was) (seed tier vars) :=
  leads_seed (fun _ _ => Leads.update fun s same =>
    ⟨⟨(position_commit s _ _).trans same.1.1, same.1.2⟩, same.2⟩) vars

theorem Afoot.stayed {s t : Session η} (h : Afoot declared passes s) (same : Stayed s t) :
    Afoot declared passes t := by
  obtain ⟨⟨stands, moves⟩, entrances⟩ := same
  exact
    { declares := stands ▸ h.declares
      settled := stands ▸ h.settled
      opens := moves ▸ h.opens
      here := by rw [entrances, ← h.here]; exact congrArg Position.scene stands
      recent := by rw [entrances, moves]; exact h.recent
      anchored := by rw [entrances]; exact h.anchored }

/-- The walk so far is one of the course, and stays so. -/
def OnWalk (c : Course) (s : Session η) : Prop := Walked c s.entrances

theorem detached_afoot : Detached fun s : Session η => OnWalk c s ∧ Afoot declared passes s where
  toFirm := .of_related (fun _ => ⟨⟨rfl, rfl⟩, rfl⟩) firm_stayed fun same hs =>
    ⟨(congrArg (Walked c) same.2).mpr hs.1, hs.2.stayed same⟩
  history _ _ hs := ⟨hs.1, hs.2.stayed ⟨⟨rfl, rfl⟩, rfl⟩⟩
  bus _ _ hs := ⟨hs.1, hs.2.stayed ⟨⟨rfl, rfl⟩, rfl⟩⟩
  host _ _ hs := ⟨hs.1, hs.2.stayed ⟨⟨rfl, rfl⟩, rfl⟩⟩
  log _ _ hs := ⟨hs.1, hs.2.stayed ⟨⟨rfl, rfl⟩, rfl⟩⟩

theorem Afoot.moved {s : Session η} (h : Afoot declared passes s) {m : Move}
    {next : List (List Move)} (opens : openings (m :: s.moves) = next)
    (anchored : ∀ pass ∈ next, Anchored s.entrances pass) : Afoot declared next (s.moved m) where
  declares := h.declares
  settled := h.settled
  opens := opens
  here := h.here
  recent v first := (h.recent v first).trans (List.suffix_cons m s.moves)
  anchored := anchored

theorem Afoot.enter {s t : Session η} (h : Afoot declared passes s) {id : String}
    {ts : List Trigger} (inside : declared id = some ts)
    (stands : t.position = ⟨some declared, some id, ts⟩) (moves : t.moves = s.moves)
    (entrances : t.entrances = ⟨id, s.moves⟩ :: s.entrances) : Afoot declared passes t where
  declares := stands ▸ rfl
  settled := stands ▸ .active inside
  opens := moves ▸ h.opens
  here := by
    rw [entrances]
    exact congrArg Position.scene stands
  recent v first := by
    rw [entrances] at first
    obtain rfl := Option.some.inj first
    exact moves ▸ List.suffix_refl _
  anchored pass member := by
    rw [entrances]
    refine (h.anchored pass member).cons (Move.suffix_of_mem_openings ?_)
    rw [h.opens]
    exact member

/-- Where no scene has been entered there are no triggers. -/
theorem Afoot.idle {s : Session η} (h : Afoot declared passes s)
    (nobody : s.entrances.head? = none) : s.triggers = [] := by
  have nowhere : s.scene = none := by rw [h.here, nobody, Option.map_none]
  rw [triggers_eq_of_settled h.declares h.settled, nowhere, Option.bind_none, Option.getD_none]

/-- The triggers lead to successors of the active scene. -/
theorem Afoot.leadsTo {s : Session η} (h : Afoot declared passes s) (guides : c.Guides declared)
    {a : String} (here : s.scene = some a) :
    ∀ t ∈ s.triggers, t.LeadsTo (· ∈ (SceneGraph.ofCourse c).successors a) := by
  intro t member
  rw [triggers_eq_of_settled h.declares h.settled, here, Option.bind_some] at member
  cases inside : declared a with
  | none => simp [inside] at member
  | some ts =>
    rw [inside, Option.getD_some] at member
    exact guides a ts inside t member

/-- A pass that begins belongs to the scene entered last. -/
theorem Afoot.begins {s : Session η} (h : Afoot declared passes s) {v : Entrance}
    (first : s.entrances.head? = some v) (e : Event) :
    Afoot declared ((.begins e (some v.scene) :: s.moves) :: passes)
    (s.moved (.begins e (some v.scene))) := by
  obtain ⟨past, entered⟩ : ∃ past, s.entrances = v :: past := List.head?_eq_some_iff.1 first
  refine h.moved (congrArg (_ :: ·) h.opens) fun pass member => ?_
  rcases List.mem_cons.1 member with rfl | outer
  · exact ⟨[], v, past, entered, ⟨e, s.moves, rfl, h.recent v first⟩,
      fun _ none => absurd none List.not_mem_nil⟩
  · exact h.anchored pass outer

/-! ### Entering a scene -/

theorem entrances_activate (id : String) (scene : Scene) (anew : Bool) (s : Session η) :
    (activate id scene anew s).2.entrances = ⟨id, s.moves⟩ :: s.entrances := by
  cases anew with
  | true =>
    obtain ⟨t, seeded, same⟩ := leads_seed_stayed "scene" (sceneVars id) (cleared id s)
      (cleared id s) ⟨⟨rfl, rfl⟩, rfl⟩
    rw [activate_anew seeded]
    exact same.2
  | false =>
    simp only [activate, write_null]
    rfl

/-- Who enters a scene stays where it was, or is in that scene, with its triggers, and has come from
where it was. -/
theorem enterScene_stayed (id : String) (s : Session η) : Stayed s (enterScene id s).2 ∨
    ∃ declared ts, s.position.declared = some declared ∧ declared id = some ts ∧
    (enterScene id s).2.moves = s.moves ∧
      (enterScene id s).2.position = ⟨some declared, some id, ts⟩ ∧
      (enterScene id s).2.entrances = ⟨id, s.moves⟩ :: s.entrances := by
  have same : (enterScene id s).2.surroundings = s.surroundings :=
    (entering_surroundings (· = s.surroundings)).enterScene id s rfl
  have moves : (enterScene id s).2.moves = s.moves := congrArg Surroundings.moves same
  rcases enterScene_eq id s with refused | refused | ⟨d, scene, loaded, there, entered⟩
  · rw [refused]
    exact Or.inl ⟨⟨rfl, rfl⟩, rfl⟩
  · have entrances : (refuseScene id s).2.entrances = s.entrances := by
      simp only [refuseScene, write_null]
      rfl
    rw [refused] at moves ⊢
    exact Or.inl ⟨⟨position_refuseScene id s, moves⟩, entrances⟩
  · have declared : s.position.declared = some d.triggersOf := by
      rw [position, loaded, Option.map_some]
    refine Or.inr ⟨d.triggersOf, scene.triggers, declared, Course.triggersOf_of_scene? there,
      moves, ?_, ?_⟩
    · rw [entered, position_activate, declared]
    · rw [entered, entrances_activate]

/-- A step of a walk, from sessions of one kind to those with certain passes open. -/
abbrev Steps (c : Course) (declared : String → Option (List Trigger)) (P : Session η → Prop)
    (passes : List (List Move)) {α : Type} (x : Step (Session η) α) : Prop :=
  Guards (OnWalk c) P (Afoot declared passes) x

/-- In a pass one may enter the successors of the scene that the pass belongs to. -/
theorem steps_enterScene {e : Event} {a id : String} {before : List Move} {outer : List (List Move)}
    (follows : id ∈ (SceneGraph.ofCourse c).successors a) :
    Steps (η := η) c declared (Afoot declared ((.begins e (some a) :: before) :: outer))
      ((.begins e (some a) :: before) :: outer) (enterScene id) := by
  intro s walked hs
  rcases enterScene_stayed id s with same | ⟨declared', ts, declares, inside, moves,
    stands, entrances⟩
  · exact ⟨(congrArg (Walked c) same.2).mpr walked, fun _ => hs.stayed same⟩
  · obtain rfl := Option.some.inj (declares.symm.trans hs.declares)
    have came : CameFrom c ⟨id, s.moves⟩ s.entrances :=
      (hs.anchored _ List.mem_cons_self).cameFrom hs.opens follows
    exact ⟨(congrArg (Walked c) entrances).mpr (walked.cons came),
      fun _ => hs.enter inside stands moves entrances⟩

def Waiting (declared : String → Option (List Trigger)) (s : Session η) : Prop :=
  Afoot declared [] s ∧ s.entrances = []

theorem Waiting.stayed {s t : Session η} (h : Waiting declared s) (same : Stayed s t) :
    Waiting declared t :=
  ⟨h.1.stayed same, same.2.trans h.2⟩

theorem firm_waiting : Firm fun s : Session η => OnWalk c s ∧ Waiting declared s :=
  .of_related (fun _ => ⟨⟨rfl, rfl⟩, rfl⟩) firm_stayed fun same hs =>
    ⟨(congrArg (Walked c) same.2).mpr hs.1, hs.2.stayed same⟩

/-- Outside of all passes one may enter the start of the course, before anything else. -/
theorem steps_enterScene_start :
    Steps (η := η) c declared (Waiting declared) [] (enterScene c.start) := by
  intro s walked ⟨hs, nobody⟩
  rcases enterScene_stayed c.start s with same | ⟨declared', ts, declares, inside, moves,
    stands, entrances⟩
  · exact ⟨(congrArg (Walked c) same.2).mpr walked, fun _ => hs.stayed same⟩
  · obtain rfl := Option.some.inj (declares.symm.trans hs.declares)
    have came : CameFrom c ⟨c.start, s.moves⟩ s.entrances := by
      rw [nobody]
      exact .start rfl hs.opens
    exact ⟨(congrArg (Walked c) entrances).mpr (walked.cons came),
      fun _ => hs.enter inside stands moves entrances⟩

/-! ### Passes -/

section

variable {host : Host η} (made : host.MadeOf Call) {emit : Emitter η}
  (tells : ∀ passes e, Steps c declared (Afoot declared passes) passes (emit e))

include tells

theorem steps_called {x : Step (Session η) Unit} (called : x.MadeOf (Call emit)) :
    Steps c declared (Afoot declared passes) passes x :=
  called.guards fun _ call => detached_afoot.call (tells passes) call

include made

theorem steps_gotoScene {P : Session η → Prop} {id : String}
    (enters : Steps c declared P passes (enterScene id)) :
    Steps c declared P passes (gotoScene host emit id) := by
  have arrives : Steps c declared (Afoot declared passes) passes (do
      Step.update fun s => s.moved (.arrives id)
      emit (.sceneEnter id)) :=
    .after (fun s walked hs => ⟨walked, hs.moved hs.opens hs.anchored⟩) (tells passes _)
  refine .bind enters fun _ => ?_
  cases called : host.onScene with
  | none => exact arrives
  | some call =>
    exact .bind (steps_called tells (made.onScene call called emit id)) fun _ => arrives

theorem heeds_pass {e : Event} {a : String} {before : List Move} {outer : List (List Move)} :
    Heeds ⟨some (gotoScene host emit), host.onUi.map (· emit)⟩
      (· ∈ (SceneGraph.ofCourse c).successors a) (OnWalk c)
      (Afoot declared ((.begins e (some a) :: before) :: outer)) where
  goto := by
    rintro call ⟨⟩ id follows
    exact steps_gotoScene made tells (steps_enterScene follows)
  present call called r := by
    obtain ⟨present, shown, rfl⟩ := Option.map_eq_some_iff.1 called
    exact steps_called tells (made.onUi present shown emit r)

theorem steps_fire {e : Event} {a : String} {before : List Move} {outer : List (List Move)}
    (i : Nat) {t : Trigger} (leads : t.LeadsTo (· ∈ (SceneGraph.ofCourse c).successors a)) :
    Steps c declared (Afoot declared ((.begins e (some a) :: before) :: outer))
    ((.begins e (some a) :: before) :: outer)
      (fire ⟨some (gotoScene host emit), host.onUi.map (· emit)⟩ e i t) :=
  .after (fun _ walked hs => ⟨walked, hs.moved hs.opens hs.anchored⟩)
    (.bind (detached_afoot.write _ _ _ _).guards fun _ => detached_afoot.react
      (heeds_pass made tells) leads)

theorem steps_handle {e : Event} {a : String} {before : List Move} {outer : List (List Move)}
    {ts : List Trigger} (leads : ∀ t ∈ ts, t.LeadsTo (· ∈ (SceneGraph.ofCourse c).successors a)) :
    Steps c declared (Afoot declared ((.begins e (some a) :: before) :: outer))
    ((.begins e (some a) :: before) :: outer)
      (handle ⟨some (gotoScene host emit), host.onUi.map (· emit)⟩ e ts) :=
  .bind (.each fun (i, _) due => steps_fire made tells i (leads _ (mem_of_mem_matching due)))
    fun _ => .pure _

/-- A pass begins in the scene entered last, fires triggers of that scene, and ends with the passes
around it as they were. Where no scene has been entered there are no triggers. -/
theorem steps_interpret (guides : c.Guides declared) (e : Event) :
    Steps c declared (Afoot declared passes) passes
    (interpret ⟨some (gotoScene host emit), host.onUi.map (· emit)⟩ e) := by
  intro s walked hs
  cases first : s.entrances.head? with
  | none =>
    have nothing : interpret ⟨some (gotoScene host emit), host.onUi.map (· emit)⟩ e s =
        (.done (), (s.moved (.begins e s.scene)).moved .ends) := by
      rw [interpret]
      show Step.bind (handle _ e s.triggers).attempt _ (s.moved (.begins e s.scene)) = _
      rw [hs.idle first]
      rfl
    rw [nothing]
    refine ⟨walked, fun _ => ⟨hs.declares, hs.settled, hs.opens, hs.here,
      fun v head => ?_, hs.anchored⟩⟩
    cases first.symm.trans head
  | some v =>
    have here : s.scene = some v.scene := by rw [hs.here, first, Option.map_some]
    have whole : Steps c declared (Afoot declared ((.begins e (some v.scene) :: s.moves) :: passes))
        passes
        ((handle ⟨some (gotoScene host emit), host.onUi.map (· emit)⟩ e s.triggers).attempt >>=
            fun outcome =>
          Step.update (·.moved .ends) >>= fun _ => Step.ofExcept outcome >>= fun _ => pure ()) := by
      refine .attempting (steps_handle made tells (hs.leadsTo guides here)) fun r =>
        .after (fun t walked ht => ?_)
        (.bind (.ofExcept _) fun _ => .pure ())
      exact ⟨walked, ht.moved (congrArg List.tail ht.opens)
        fun pass member => ht.anchored pass (List.mem_cons_of_mem _ member)⟩
    exact whole (s.moved (.begins e s.scene)) walked (here ▸ hs.begins first e)

theorem steps_tell (guides : c.Guides declared) (l : Listener) (e : Event) :
    Steps c declared (Afoot declared passes) passes (tell host emit l e) := by
  cases l with
  | course =>
    exact .bind (.ofExcept _) fun _ => .bind (detached_afoot.write _ _ _ _).guards fun _ =>
      steps_interpret made tells guides e
  | host name => exact steps_called tells (made.onEvent emit name e)

end

/-- However deeply events cause each other, each is told with the passes around it as they are. -/
theorem steps_emit {host : Host η} (made : host.MadeOf Call) (guides : c.Guides declared)
    (nesting : Nat) (passes : List (List Move)) (e : Event) :
    Steps c declared (Afoot declared passes) passes (emit host nesting e) := by
  induction nesting generalizing passes e with
  | zero => exact .unfinished
  | succ n ih =>
    refine .bind (detached_afoot.tellAll (fun l e => steps_tell made ih guides l e) e) fun _ => ?_
    exact detached_afoot.reportState _ fun call called v =>
      steps_called ih (made.onState call called _ v)

/-! ### Tours -/

section

variable {host : Host η} (made : host.MadeOf Call) (nesting : Nat)

include made

theorem steps_start (guides : c.Guides declared) (snapshot : Value) :
    Steps c declared (fun s => Waiting declared s ∧ ∀ d, s.course = some d → d.start = c.start) []
      (start host (emit host nesting) none snapshot) := by
  refine .look fun s hs => ?_
  cases loaded : s.course with
  | none => exact fun s walked hs => ⟨walked, fun _ => hs.1.1⟩
  | some d =>
    have first : d.start = c.start := hs.2 d loaded
    have entered : Steps c declared (Waiting declared) [] (do
        write .info .scene s!"Starting course from scene: {d.start}"
        gotoScene host (emit host nesting) d.start) := by
      rw [first]
      refine .next (firm_waiting.write _ _ _ _).guards (fun _ => ?_) fun _ hs => hs.1
      exact steps_gotoScene made (steps_emit made guides nesting) steps_enterScene_start
    dsimp only
    by_cases resumed : snapshot.truthy = true
    · rw [if_pos resumed]
      refine Guards.narrow (.next (.ofExcept _) (fun store => .after ?_ entered) fun _ hs => hs.1)
        fun _ hs => hs.1
      exact fun _ walked hs => ⟨walked, hs.stayed ⟨⟨rfl, rfl⟩, rfl⟩⟩
    · rw [if_neg resumed]
      exact entered.narrow fun _ hs => hs.1

omit made in
/-- A course is loaded into a session in which nothing has happened. -/
theorem guards_loadCourse (c : Course) (limits : Limits) (log : RunLog) (store : Store) (bus : Bus)
    (kept : η) :
    Guards (OnWalk c) (· = { fresh limits log kept with store, bus })
      (fun s => Waiting (adoptCourse store.next c).1.triggersOf s ∧ ∀ d, s.course = some d →
        d.start = c.start)
      (loadCourse c) := by
  rintro s - rfl
  generalize begun : { fresh limits log kept with store, bus } = s
  obtain ⟨t, loaded, same⟩ := leads_seed_stayed "globals" globalVars (holding c s) (holding c s)
    ⟨⟨rfl, rfl⟩, rfl⟩
  have course : OnCourse c (fun _ => True) (loadCourse c s).2 := by
    refine keeps_loadCourse_onCourse s ?_
    subst begun
    constructor <;> simp [fresh]
  rw [loadCourse_eq, loaded] at course ⊢
  subst begun
  have waiting : Waiting (adoptCourse store.next c).1.triggersOf
      (holding c { fresh limits log kept with store, bus }) :=
    ⟨⟨rfl, .idle _, rfl, rfl, fun _ first => absurd first.symm (Option.some_ne_none _),
      List.forall_mem_nil _⟩, rfl⟩
  exact ⟨(congrArg (Walked c) same.2).mpr walked_nil,
    fun _ => ⟨waiting.stayed same, fun d hd => (course.course d hd).1⟩⟩

/-- Every scene that a tour enters is the start, outside of all passes and before all others, or a
successor of the scene that the innermost open pass belongs to. So it is a successor of the scene
entered just before, except where one pass has led to both. -/
theorem tour_walks (c : Course) (snapshot : Value)
    (play : Except Fault Unit → Step (Session η) Unit)
    (played : ∀ started, (play started).MadeOf (Call (emit host nesting))) (limits : Limits)
    (log : RunLog) (store : Store) (bus : Bus) (kept : η) (s : Session η)
    (behind : s = (tour host nesting c snapshot play { fresh limits log kept with store, bus }).2)
    (newer older : List Entrance) (v : Entrance) (entered : s.entrances = newer ++ v :: older) :
    CameFrom c v older ∧ ∀ u rest, older = u :: rest →
      (∀ pass outer, openings v.moves = pass :: outer → ¬pass <:+ u.moves) →
        v.scene ∈ (SceneGraph.ofCourse c).successors u.scene := by
  subst behind
  have guides : c.Guides (adoptCourse store.next c).1.triggersOf := c.guides_adoptCourse store.next
  have whole := Guards.next (guards_loadCourse c limits log store bus kept)
    (fun _ => Guards.attempting (steps_start made nesting guides snapshot) fun started =>
      steps_called (steps_emit made guides nesting) (played started)) fun _ h => h.1.1
  have walked : Walked c (tour host nesting c snapshot play
      { fresh limits log kept with store, bus }).2.entrances :=
    (whole { fresh limits log kept with store, bus } walked_nil rfl).1
  have came := walked newer v older entered
  refine ⟨came, ?_⟩
  rintro u rest rfl alone
  exact came.follows alone

end

end Session

/-! ### A fork -/

namespace Course

open Session

/-- A place before two paths, and a tap there that tries both of them. -/
def fork : Course where
  schema := "vvce.dsl.v1"
  about := ⟨"fork", "1.0.0", []⟩
  globals := ⟨[], []⟩
  start := "gate"
  scenes :=
    [⟨"gate", [], [],
    [⟨⟨"tap", none, []⟩, none, [.gotoScene "left" .null, .gotoScene "right" .null], none, []⟩], []⟩,
    ⟨"left", [], [], [], []⟩, ⟨"right", [], [], [], []⟩]
  extras := []

def scribe : Host (List String) where
  onScene := some fun _ id => Step.update fun s => { s with host := s.host ++ [id] }
  onState := none
  onUi := none
  onEvent _ _ _ := Step.pure ()

theorem madeOf_scribe : scribe.MadeOf Call := by
  refine ⟨?_, nofun, nofun, fun _ _ _ => .done⟩
  rintro call ⟨⟩ emit id
  exact .call (.remember _)

def forkTour : Session (List String) :=
  (tour scribe 5 fork .null (fun _ => emit scribe 5 tap) (fresh {} {} [])).2

/-- No path leads from one side of the fork to the other, but a tap leads there. -/
theorem forkTour_astray : forkTour.host = ["gate", "left", "right"] ∧
    ¬forkTour.host.IsChain fun a b => b ∈ (SceneGraph.ofCourse fork).successors a := by
  decide +kernel

/-- Both sides are entered in the pass that belongs to the gate. -/
theorem tour_walks_fork : forkTour.entrances.map (·.scene) = ["right", "left", "gate"] ∧
    ∀ newer v older, forkTour.entrances = newer ++ v :: older → CameFrom fork v older :=
  ⟨by decide +kernel, fun newer v older entered =>
    (tour_walks madeOf_scribe 5 fork .null _ (fun _ => .call (.emit tap)) {} {} .empty
      (({} : Bus).onAll .course) []
      forkTour rfl newer older v entered).1⟩

end Course

end SceneCourse
