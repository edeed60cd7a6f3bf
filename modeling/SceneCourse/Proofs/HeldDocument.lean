import SceneCourse.Proofs.SharedMapping

/-! What it means that a document outlives a run: the loaded course reads as it was written, and
every variable that was ever written into the state was written as the document declares it. Two
things can stand against it: a mapping that is left in the state, and variables that write into each
other when they are written. -/

namespace SceneCourse

open Value (plain)

/-! ### Reading values back -/

theorem Key.same_plain (k : Key) (s : String) : k.plain.same (.str s) = k.same (.str s) := by
  cases k with
  | float x => simp [Key.plain, Key.same, Key.number?]
  | _ => rfl

namespace Value

theorem get?_plainEntries (es : List (Key × Value)) (s : String) :
    Entries.get? (.str s) (plainEntries es) = (Entries.get? (.str s) es).map plain := by
  induction es with
  | nil => rfl
  | cons e es ih =>
    obtain ⟨k, v⟩ := e
    rw [plainEntries, Entries.get?, Entries.get?, Key.same_plain, ih]
    split <;> rfl

theorem under_plain (v : Value) (p : List String) : v.plain.under p = (v.under p).map plain := by
  induction p generalizing v with
  | nil => rfl
  | cons s p ih =>
    cases v with
    | map m es =>
      rw [plain, under, under, get?_plainEntries]
      cases Entries.get? (.str s) es with
      | none => rfl
      | some w => exact ih w
    | _ => rfl

/-- A reader sees which number was written into a mapping. -/
theorem eq_of_plain_set_eq {m n : Nat} {es fs : List (Key × Value)} {a b : Int}
    (h : plain (.map m (Entries.set (.str "x") (.int a) es)) =
      plain (.map n (Entries.set (.str "x") (.int b) fs))) : a = b := by
  have entries := (Value.map.inj h).2
  have here := congrArg (Entries.get? (.str "x")) entries
  rw [get?_plainEntries, get?_plainEntries, Entries.get?_set_str_self,
    Entries.get?_set_str_self] at here
  exact Value.int.inj (Option.some.inj here)

theorem isMapping_plain (v : Value) : (plain v).isMapping = v.isMapping := by
  cases v <;> rfl

end Value

/-- What a course declares for a variable that was written: one of its globals, or one of the scene
active then. -/
def Seed.declaration (c : Course) (r : Seed) : Option Value :=
  if r.tier = "globals" then c.globals.vars.lookup r.name
  else (r.scene.bind c.scene?).bind fun sc => sc.vars.lookup r.name

namespace Session

variable {η : Type} {c : Course} {s : Session η}

/-- A session holds a document as it was loaded, and all variables that were ever written into the
state were written as the document declares them. -/
structure Holds (c : Course) (s : Session η) : Prop where
  document : s.course.map (fun d => d.mapVars plain) = some (c.mapVars plain)
  seeds : ∀ r ∈ s.seeds, (r.declaration c).map plain = some r.value.plain

theorem Holds.of_same {θ : Type} {t : Session θ} (h : Holds c t) (course : s.course = t.course)
    (seeds : s.seeds = t.seeds) : Holds c s :=
  ⟨by rw [course]; exact h.document, by rw [seeds]; exact h.seeds⟩

theorem Holds.globals (h : Holds c s) :
    mapFields plain (globalVars s) = mapFields plain c.globals.vars := by
  obtain ⟨d, loaded, same⟩ := Option.map_eq_some_iff.1 h.document
  have vars : globalVars s = d.globals.vars := by simp [globalVars, loaded]
  rw [vars]
  exact congrArg (fun d => d.globals.vars) same

def declared (c : Course) (id : String) : List (String × Value) :=
  ((c.scene? id).map (·.vars)).getD []

theorem Holds.scene (h : Holds c s) (id : String) :
    mapFields plain (sceneVars id s) = mapFields plain (declared c id) := by
  obtain ⟨d, loaded, same⟩ := Option.map_eq_some_iff.1 h.document
  have scenes : (d.scene? id).map (Scene.mapVars plain) =
      (c.scene? id).map (Scene.mapVars plain) := by
    rw [← Course.scene?_mapVars, same, Course.scene?_mapVars]
  rw [sceneVars, loaded, Option.bind_some, declared]
  cases there : d.scene? id with
  | none =>
    rw [there, Option.map_none, eq_comm, Option.map_eq_none_iff] at scenes
    rw [scenes]
  | some sc =>
    rw [there, Option.map_some, eq_comm, Option.map_eq_some_iff] at scenes
    obtain ⟨sc', there', same'⟩ := scenes
    rw [there']
    exact (congrArg Scene.vars same').symm

end Session

/-! ### What stays in the state -/

/-- Some variable that is a mapping is still in its place when all are written, one after
another. -/
def Leaves (vars : List (String × Value)) : Prop :=
  ∃ k v, vars.lookup k = some v ∧ v.isMapping = true ∧ Session.Lasts (vars.map Prod.fst) k

/-- Some mapping of the course is left in the state when its globals or the variables of a scene are
written. -/
def Course.Exposed (c : Course) : Prop :=
  Leaves c.globals.vars ∨ ∃ id sc, c.scene? id = some sc ∧ Leaves sc.vars

theorem Course.not_leaves_declared {c : Course} (hidden : ¬c.Exposed) (id : String) :
    ¬Leaves (Session.declared c id) := by
  cases there : c.scene? id with
  | some sc =>
    intro leaves
    rw [Session.declared, there] at leaves
    exact hidden (Or.inr ⟨id, sc, there, leaves⟩)
  | none =>
    rintro ⟨k, v, found, -⟩
    simp [Session.declared, there] at found

/-! ### Runs -/

def Session.ahead (next : Nat) (t : Session Unit) : Session Unit :=
  { t with store := { t.store with next } }

namespace Course

open Session

/-- Whatever is asked of a session that has loaded the course, it holds the document as it was
loaded. -/
def Kept (c : Course) : Prop :=
  ∀ (η : Type) (host : Host η), host.MadeOf Visit →
    ∀ (nesting : Nat) (play : Step (Session η) Unit),
      play.MadeOf (Operation host (emit host nesting)) →
      ∀ (limits : Limits) (log : RunLog) (bus : Bus) (kept : η),
        Holds c ((do loadCourse c; play) { fresh limits log kept with bus }).2

/-- The sessions that come about when a course is loaded and scenes are entered, one after another,
while any number of containers are made elsewhere. -/
inductive Entered (c : Course) : Session Unit → Prop where
  | loaded : Entered c (loadCourse c (fresh {} {} ())).2
  | entered {t : Session Unit} (h : Entered c t) (id : String) {next : Nat}
    (later : t.store.next ≤ next) :
    Entered c (enterScene id (ahead next t)).2

/-- Loading a course and entering its scenes leaves the document as it is. -/
def Steady (c : Course) : Prop := ∀ t, c.Entered t → Holds c t

end Course

end SceneCourse
