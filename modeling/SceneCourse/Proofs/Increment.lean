import SceneCourse.Proofs.GrowingTree
import SceneCourse.Proofs.LogHistory
import SceneCourse.Proofs.Mishap
import SceneCourse.Proofs.Transparency

/-! Adding to a number in the state. An addition reads the number through mappings and lists and
writes the sum through mappings only, so a list on its way is lost. Proved: behind an addition of
integers the sum stands at its path, whatever the ending, and a path that branches off finds what it
found before, unless the two go through a list together; then it finds nothing. It ends well unless
its amount, or in a talkative log its sum, is too long to be written down. -/

namespace SceneCourse

namespace Value

/-! ### Lists on the way -/

def isList : Value → Bool
  | list _ _ => true
  | _ => false

def HoldsList (v : Value) (path : List String) : Prop := ∃ m xs, v.lookup path = .ok (.list m xs)

instance (v : Value) (path : List String) : Decidable (v.HoldsList path) :=
  decidable_of_iff ((v.lookup path).toOption.any isList = true) <| by
    cases found : v.lookup path with
    | error e => simp [HoldsList, found, Except.toOption]
    | ok w => cases w <;> simp [HoldsList, found, Except.toOption, isList]

/-- Two paths go through a list before they part. -/
def MeetInList (v : Value) (p q : List String) : Prop := ∃ c, c <+: p ∧ c <+: q ∧ v.HoldsList c

instance (v : Value) (p q : List String) : Decidable (v.MeetInList p q) :=
  decidable_of_iff (∃ c ∈ p.inits, c <+: q ∧ v.HoldsList c) (by simp [MeetInList])

theorem holdsList_cons {m : Nat} {es : List (Key × Value)} (s : String) (path : List String) :
    (map m es).HoldsList (s :: path) ↔ ((Entries.get? (.str s) es).getD .null).HoldsList path := by
  rw [HoldsList, lookup_map_cons, HoldsList]

/-- Behind what is no container there is nothing. -/
theorem lookup_behind {v : Value} {path : List String} (s : String) (rest : List String)
    (lists : ∀ c, c <+: path → ¬v.HoldsList c) (other : ¬v.HoldsMapping path) :
    v.lookup (path ++ s :: rest) = .ok .null := by
  have first := lists [] List.nil_prefix
  induction path generalizing v with
  | nil =>
    cases v with
    | map m es => exact absurd ⟨m, es, rfl⟩ other
    | list m xs => exact absurd ⟨m, xs, rfl⟩ first
    | _ => rfl
  | cons p path ih =>
    cases v with
    | map m es =>
      rw [List.cons_append, lookup_map_cons]
      have inner (c : List String) (hc : c <+: path) :
          ¬((Entries.get? (.str p) es).getD .null).HoldsList c := by
        rw [← holdsList_cons]
        exact lists (p :: c) (List.cons_prefix_cons.2 ⟨rfl, hc⟩)
      refine ih inner ?_ (inner [] List.nil_prefix)
      rwa [HoldsMapping, ← lookup_map_cons]
    | list m xs => exact absurd ⟨m, xs, rfl⟩ first
    | _ => rfl

end Value

namespace Store

open Value

/-- A reader who branches off the path of a write finds what was there before, unless both go
through a list together; then there is nothing. -/
theorem read_write_beside {deep : Bool} {v : Value}
    (whole : deep = true → ∀ c : Value, c.fill v = v) (next mark : Nat) {es : List (Key × Value)}
    (acyclic : deep = true → anyCyclicEntry es = false) {segs path : List String}
    (off : ¬segs <+: path) (off' : ¬path <+: segs) :
    (¬(map mark es).MeetInList segs path →
      (map mark (write next mark es segs v).1).read deep path = (map mark es).lookup path) ∧
    ((map mark es).MeetInList segs path → (map mark (write next mark es segs v).1).read deep path =
      .ok .null) := by
  obtain ⟨kept, lost⟩ := read_write_apart whole next mark acyclic off off'
  constructor
  · intro lists
    by_cases together : (map mark es).Together segs path
    · exact kept together
    · -- a mapping is missing where no list is, so there was nothing behind it either
      obtain ⟨c, -, above, above', other⟩ : ∃ c, c ≠ [] ∧ c <+: segs ∧ c <+: path ∧
          ¬(map mark es).HoldsMapping c := by
        simpa [Together] using together
      have before : (map mark es).lookup path = .ok .null := by
        obtain ⟨_ | ⟨x, rest⟩, rfl⟩ := above'
        · rw [List.append_nil] at off'
          exact absurd above off'
        · refine lookup_behind x rest (fun d hd list => lists ⟨d, hd.trans above, ?_, list⟩) other
          exact hd.trans (List.prefix_append c (x :: rest))
      rw [lost together, before]
  · rintro ⟨c, above, above', m, xs, list⟩
    refine lost fun together => ?_
    have some : c ≠ [] := by
      rintro rfl
      cases list
    obtain ⟨n, fs, mapping⟩ := together c some above above'
    cases list.symm.trans mapping

theorem get_eq_lookup {s : Store} (tree : s.shared = true → s.Tree) (q : String) :
    s.get q = s.root.lookup (segments q) := read_of_acyclic
      (fun shared => (tree shared).acyclic) (segments q)

theorem get_set_apart {s : Store} {p q : String} {v : Value}
    (tree : s.shared = true → s.Tree ∧ s.Writable p v) (off : ¬segments p <+: segments q)
    (off' : ¬segments q <+: segments p) :
    (¬s.root.MeetInList (segments p) (segments q) → (s.set p v).1.get q = s.get q) ∧
      (s.root.MeetInList (segments p) (segments q) → (s.set p v).1.get q = .ok .null) := by
  rw [get_set_eq tree q, get_eq_lookup fun shared => (tree shared).1]
  exact read_write_beside (fun shared => (tree shared).2.whole) s.next 0
    (fun shared => (tree shared).1.acyclic) off off'

/-! ### Counts -/

/-- The integer that counting starts from at a path: the one that stands there, or zero for
nothing. -/
def Counts (s : Store) (path : String) (n : Int) : Prop :=
  s.get path = .ok (.int n) ∨ s.get path = .ok .null ∧ n = 0

end Store

namespace Action

/-- The path and the integer amount of an addition. -/
def addition? : Action → Option (String × Int)
  | .incVar path (.int n) => some (path, n)
  | .addScore (.int n) => some (scorePath, n)
  | _ => none

end Action

namespace Session

open Step

variable {η : Type} {cb : Callbacks η} {s : Session η} {path : String} {n b : Int}

def withCount (s : Session η) (path : String) (n : Int) : Session η :=
  s.commit (s.store.set path (.int n)).1 (s.store.set path (.int n)).2

theorem verbose_withCount (s : Session η) (path : String) (n : Int) :
    (s.withCount path n).log.verbose = s.log.verbose := by
  show ((s.store.set path (.int n)).2.foldl (fun log e => log.follow e) s.log).verbose =
    s.log.verbose
  rw [RunLog.after_edits, RunLog.verbose_after]

/-- An integer in a note about an addition is too long to be written down: the amount, which the
message tells, or the sum, where the log shows everything. -/
def Unspeakable (verbose : Bool) (amount sum : Int) : Prop :=
  (Value.int amount).holdsLong = true ∨ verbose = true ∧ (Value.int sum).holdsLong = true

instance (verbose : Bool) (amount sum : Int) : Decidable (Unspeakable verbose amount sum) :=
  inferInstanceAs (Decidable (_ ∨ _ ∧ _))

/-- An addition writes the sum and then makes a note of it. -/
theorem increment_eq (start : s.store.Counts path n) : increment path (.int b) s = (do
      let added ← Step.ofExcept (Value.int b).told
      write .debug .state s!"Incremented {path} by {added}" (.object [("value", .int (n + b))]) :
      Step (Session η) Unit)
      (s.withCount path (n + b)) := by
  have base : ∃ v, s.store.get path = .ok v ∧ addend v = .ok (.int n, false) := by
    rcases start with found | ⟨found, rfl⟩
    · exact ⟨_, found, rfl⟩
    · exact ⟨_, found, rfl⟩
  obtain ⟨v, found, start⟩ := base
  have looked : (Step.bind Step.current fun s => Step.ofExcept (s.store.get path) : Step
      (Session η) Value) s =
      (.done v, s) := by
    show Step.ofExcept (s.store.get path) s = _
    rw [found]
    rfl
  have written : setCopy path (.int (n + b)) s =
      (.done (.int (n + b)), s.withCount path (n + b)) := by
    simp only [setCopy, Store.adopt_int, withCount]
  have based : (Step.ofExcept (addend v) : Step (Session η) (Amount × Bool)) s =
      (.done (.int n, false), s) := by
    rw [start]
    rfl
  have summed : (Step.ofExcept ((Amount.int n).add (.int b)) : Step (Session η) Amount) s =
      (.done (.int (n + b)), s) := rfl
  refine (bind_of_done looked).trans ((bind_of_done based).trans ?_)
  show (do
      let sum ← Step.ofExcept ((Amount.int n).add (.int b))
      let written ← setCopy path sum.value
      let added ← Step.ofExcept (Value.int b).told
      write .debug .state s!"Incremented {path} by {added}" (.object [("value", written)]) :
        Step (Session η) Unit) s = _
  exact (bind_of_done summed).trans (bind_of_done written)

theorem ends_addition (start : s.store.Counts path n) : ∃ ending log,
    increment path (.int b) s = (ending, { s.withCount path (n + b) with log }) ∧
    log.verbose = s.log.verbose ∧
      (¬Unspeakable s.log.verbose b (n + b) → ending = .done ()) ∧
      (Unspeakable s.log.verbose b (n + b) → ∃ e, ending = .failed e) := by
  have verbose := verbose_withCount s path (n + b)
  rw [increment_eq start]
  cases told : (Value.int b).told with
  | error e =>
    have long := (Value.told_fails_iff _).1 ⟨e, told⟩
    exact ⟨.failed e, _, rfl, verbose, fun short => absurd (Or.inl long) short, fun _ => ⟨e, rfl⟩⟩
  | ok added =>
    have short : ¬(Value.int b).holdsLong = true := by
      rw [← Value.told_fails_iff, told]
      exact nofun
    let entry : LogEntry := { level := .debug, category := .state, message :=
      s!"Incremented {path} by {added}",
                              data := .object [("value", .int (n + b))] }
    have fails : (∃ e, (s.withCount path (n + b)).log.outcome entry = .error e) ↔
        Unspeakable s.log.verbose b (n + b) := by
      rw [outcome_fails_iff, Unspeakable, or_iff_right short, Shows, verbose,
        Value.holdsLong_single]
      simp [entry]
    have run : (do
        let added ← Step.ofExcept (.ok added)
        write .debug .state s!"Incremented {path} by {added}" (.object [("value", .int (n + b))]) :
          Step (Session η) Unit)
        (s.withCount path (n + b)) =
        Step.ofExcept ((s.withCount path (n + b)).log.outcome entry)
          ((s.withCount path (n + b)).addEntry entry) := rfl
    rw [run]
    cases outcome : (s.withCount path (n + b)).log.outcome entry with
    | ok u =>
      rw [outcome] at fails
      refine ⟨_, _, rfl, verbose, fun _ => rfl, fun long => ?_⟩
      obtain ⟨e, failed⟩ := fails.2 long
      cases failed
    | error e =>
      exact ⟨_, _, rfl, verbose, fun short => absurd (fails.1 ⟨e, outcome⟩) short,
        fun _ => ⟨e, rfl⟩⟩

/-- An addition is announced and made. -/
theorem ends_execute_addition {a : Action} (adds : a.addition? = some (path, b))
    (start : s.store.Counts path n) (cb : Callbacks η) : ∃ ending log,
      execute cb a s = (ending, { s.withCount path (n + b) with log }) ∧
      log.verbose = s.log.verbose ∧
        (¬Unspeakable s.log.verbose b (n + b) → ending = .done ()) ∧
        (Unspeakable s.log.verbose b (n + b) → ∃ e, ending = .failed e) := by
  have announced : execute cb a = (announce a.tag >>= fun _ => increment path (.int b)) := by
    cases a with
    | incVar p amount =>
      cases amount with
      | int m =>
        obtain ⟨rfl, rfl⟩ := Prod.mk.inj (Option.some.inj adds)
        rfl
      | float x => cases adds
    | addScore amount =>
      cases amount with
      | int m =>
        obtain ⟨rfl, rfl⟩ := Prod.mk.inj (Option.some.inj adds)
        rfl
      | float x => cases adds
    | _ => cases adds
  rw [announced, announce, write_null]
  exact ends_addition start

/-! ### What an addition changes -/

/-- In a state that is a tree, an addition to an integer at a path puts the sum there, whatever its
ending. A path that branches off finds what it found before, unless it goes through a list together
with the path of the addition. That list gives way to a mapping, and nothing is found behind it. -/
theorem addition_changes (cb : Callbacks η) (s : Session η) {a : Action} {path : String} {b n : Int}
    (adds : a.addition? = some (path, b)) (tree : s.store.shared = true → s.store.Tree)
    (number : s.store.get path = .ok (.int n)) :
    ((execute cb a s).1 = .done () ↔ ¬Unspeakable s.log.verbose b (n + b)) ∧
      (execute cb a s).2.store.get path = .ok (.int (n + b)) ∧
      ∀ q, ¬segments path <+: segments q → ¬segments q <+: segments path →
        (¬s.store.root.MeetInList (segments path) (segments q) →
          (execute cb a s).2.store.get q = s.store.get q) ∧
        (s.store.root.MeetInList (segments path) (segments q) →
          (execute cb a s).2.store.get q = .ok .null) := by
  have whole : s.store.shared = true → s.store.Tree ∧ s.store.Writable path (.int (n + b)) :=
    fun shared => ⟨tree shared, Store.writable_of_bare rfl rfl⟩
  obtain ⟨ending, log, run, -, done, failed⟩ := ends_execute_addition adds (Or.inl number) cb
  rw [run]
  refine ⟨⟨?_, done⟩, (Store.get_set whole path).1,
    fun q off off' => Store.get_set_apart whole off off'⟩
  rintro rfl long
  obtain ⟨e, other⟩ := failed long
  cases other

def board : Store where
  tiers := [(.str "globals", .map 1 [(.str "vars",
      .map 2 [(.str "points", .list 3 [.int 1, .int 2]), (.str "total", .int 3)])]),
    (.str "scene", .map 4 [(.str "vars", .map 5 [])]), (.str "nodes", .map 6 [])]
  next := 7
  shared := true

theorem board_tree : board.Tree :=
  ⟨rfl, fun m _ => List.nodup_iff_count_le_one.1 (by decide) m, by decide⟩

def counting : Session Unit := { store := board, host := () }

/-- Behind an addition to the total the points are as before. -/
theorem addition_changes_total :
    counting.store.Tree ∧ counting.store.get "globals.vars.total" = .ok (.int 3) ∧
      counting.store.get "globals.vars.points.1" = .ok (.int 2) ∧
      (execute ⟨none, none⟩ (.incVar "globals.vars.total" (.int 4)) counting).2.store.get
        "globals.vars.total" =
        .ok (.int 7) ∧
      (execute ⟨none, none⟩ (.incVar "globals.vars.total" (.int 4)) counting).2.store.get
        "globals.vars.points.1" =
        .ok (.int 2) := by
  obtain ⟨-, there, apart⟩ := addition_changes (a := .incVar "globals.vars.total" (.int 4))
      (n := 3) ⟨none, none⟩
    counting rfl (fun _ => board_tree) rfl
  refine ⟨board_tree, rfl, rfl, there,
    ((apart "globals.vars.points.1" (by decide) (by decide)).1 ?_).trans rfl⟩
  decide

/-- An addition to the first point loses the second one. -/
theorem addition_loses :
    counting.store.get "globals.vars.points.0" = .ok (.int 1) ∧
      ¬segments "globals.vars.points.0" <+: segments "globals.vars.points.1" ∧
      ¬segments "globals.vars.points.1" <+: segments "globals.vars.points.0" ∧
      counting.store.get "globals.vars.points.1" = .ok (.int 2) ∧
      (execute ⟨none, none⟩ (.incVar "globals.vars.points.0" (.int 1)) counting).2.store.get
        "globals.vars.points.1" ≠
        .ok (.int 2) := by
  obtain ⟨ending, log, run, -⟩ := ends_execute_addition (s := counting)
      (a := .incVar "globals.vars.points.0" (.int 1))
    (n := 1) rfl (Or.inl rfl) ⟨none, none⟩
  have lost : (board.set "globals.vars.points.0" (.int 2)).1.get "globals.vars.points.1" =
      .ok .null := rfl
  refine ⟨rfl, by decide, by decide, rfl, ?_⟩
  rw [run]
  exact fun kept => nomatch lost.symm.trans kept

end Session

end SceneCourse
