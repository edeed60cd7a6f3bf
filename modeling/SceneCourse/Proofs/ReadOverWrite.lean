import Mathlib.Data.List.Infix
import Mathlib.Data.List.Nodup
import SceneCourse.Proofs.TreeStore

/-! Reading a state after a write. A write leads through mappings only and makes the ones that are
missing, while a reader goes through lists as well. Proved: at and below the path of the write the
reader finds the value; at a path that branches off, it finds what was there before if all that the
two paths have in common led through mappings, and nothing otherwise. -/

namespace SceneCourse

namespace Value

theorem lookup_null (path : List String) : lookup .null path = .ok .null := by
  cases path <;> rfl

theorem along_null (path : List String) : along path .null = .null := by
  cases path <;> rfl

theorem lookup_map_cons (m : Nat) (es : List (Key × Value)) (s : String) (rest : List String) :
    lookup (.map m es) (s :: rest) = lookup ((Entries.get? (.str s) es).getD .null) rest := by
  rw [lookup]
  split
  next missing => rw [missing, Option.getD_none, lookup_null]
  next nothing => rw [nothing, Option.getD_some, lookup_null]
  next v _ there => rw [there, Option.getD_some]

/-! ### Paths that go together -/

def HoldsMapping (v : Value) (path : List String) : Prop := ∃ m es, v.lookup path = .ok (.map m es)

instance (v : Value) (path : List String) : Decidable (v.HoldsMapping path) :=
  decidable_of_iff ((v.lookup path).toOption.any isMapping = true) <| by
    cases found : v.lookup path with
    | error e => simp [HoldsMapping, found, Except.toOption]
    | ok w => cases w <;> simp [HoldsMapping, found, Except.toOption, isMapping]

theorem holdsMapping_cons {m n : Nat} {es fs : List (Key × Value)} {s : String}
    (found : Entries.get? (.str s) es = some (.map n fs)) (path : List String) :
    (map m es).HoldsMapping (s :: path) ↔ (map n fs).HoldsMapping path := by
  rw [HoldsMapping, lookup_map_cons, found, Option.getD_some, HoldsMapping]

theorem exists_map_of_holdsMapping {m : Nat} {es : List (Key × Value)} {s : String}
    (h : (map m es).HoldsMapping [s]) : ∃ n fs, Entries.get? (.str s) es = some (.map n fs) := by
  obtain ⟨n, fs, there⟩ := h
  rw [lookup_map_cons, lookup] at there
  refine ⟨n, fs, ?_⟩
  cases found : Entries.get? (.str s) es with
  | none => simp [found] at there
  | some v =>
    rw [found, Option.getD_some] at there
    rw [Except.ok.inj there]

/-- Mappings stand wherever two paths go together, but perhaps where they start. -/
def Together (v : Value) (p q : List String) : Prop :=
  ∀ c, c ≠ [] → c <+: p → c <+: q → v.HoldsMapping c

instance (v : Value) (p q : List String) : Decidable (v.Together p q) :=
  decidable_of_iff (∀ c ∈ p.inits, c ≠ [] → c <+: q → v.HoldsMapping c) <| by
    simp only [List.mem_inits]
    exact ⟨fun h c some hp => h c hp some, fun h c hp some => h c some hp⟩

theorem together_cons {m n : Nat} {es fs : List (Key × Value)} {s : String}
    (found : Entries.get? (.str s) es = some (.map n fs)) (p q : List String) :
    (map m es).Together (s :: p) (s :: q) ↔ (map n fs).Together p q := by
  constructor
  · intro h c some hp hq
    exact (holdsMapping_cons found c).1
      (h (s :: c) (by simp) (by simpa using hp) (by simpa using hq))
  · rintro h (_ | ⟨x, c⟩) some hp hq
    · exact absurd rfl some
    · obtain ⟨rfl, hp'⟩ := List.cons_prefix_cons.1 hp
      rw [holdsMapping_cons found]
      cases c with
      | nil => exact ⟨n, fs, rfl⟩
      | cons y c => exact h (y :: c) (by simp) hp' (List.cons_prefix_cons.1 hq).2

/-! ### What a reader finds in a value -/

/-- What a reader finds at a path in a value, who opens the containers on the way if the value may
hold itself. -/
def read (deep : Bool) (v : Value) (path : List String) : Except Fault Value :=
  (if deep then v.along path else v).lookup path

@[simp] theorem read_nil (deep : Bool) (v : Value) : v.read deep [] = .ok v := by
  cases deep with
  | false => rfl
  | true => cases v <;> rfl

@[simp] theorem read_null (deep : Bool) (path : List String) : null.read deep path = .ok .null := by
  cases deep with
  | false => exact lookup_null path
  | true => exact (congrArg (lookup · path) (along_null path)).trans (lookup_null path)

theorem read_of_acyclic {deep : Bool} {v : Value} (acyclic : deep = true → v.isCyclic = false)
    (path : List String) : v.read deep path = v.lookup path := by
  cases deep with
  | false => rfl
  | true => exact congrArg (lookup · path) (along_eq_self path (acyclic rfl))

/-- A reader goes on in an entry that has no part of the mapping around it in its place. -/
theorem read_map_cons {deep : Bool} {m : Nat} {es : List (Key × Value)} {s : String}
    (own : deep = true → ∀ v, Entries.get? (.str s) es = some v → (map m es).within v = v)
    (rest : List String) :
    (map m es).read deep (s :: rest) = ((Entries.get? (.str s) es).getD .null).read deep rest := by
  cases deep with
  | false => exact lookup_map_cons m es s rest
  | true =>
    rw [read, if_pos rfl, along, lookup_map_cons, entries, get?_along]
    cases found : Entries.get? (.str s) es with
    | none => rw [Option.map_none, Option.getD_none, lookup_null, read_null]
    | some v =>
      rw [Option.map_some, own rfl v found, Option.getD_some, Option.getD_some, read, if_pos rfl]

theorem read_set_self {deep : Bool} (m : Nat) (es : List (Key × Value)) (s : String) {v : Value}
    (whole : deep = true → ∀ c : Value, c.fill v = v) (rest : List String) :
    (map m (Entries.set (.str s) v es)).read deep (s :: rest) = v.read deep rest := by
  rw [read_map_cons, Entries.get?_set_str_self, Option.getD_some]
  intro opens w there
  obtain rfl := Option.some.inj ((Entries.get?_set_str_self s v es).symm.trans there)
  rw [within, whole opens, ite_self]

theorem read_set_of_ne {deep : Bool} (m : Nat) {es : List (Key × Value)}
    (acyclic : deep = true → anyCyclicEntry es = false) {s p : String} (other : s ≠ p) (v : Value)
    (rest : List String) :
    (map m (Entries.set (.str s) v es)).read deep (p :: rest) = (map m es).lookup (p :: rest) := by
  have same : Entries.get? (.str p) (Entries.set (.str s) v es) = Entries.get? (.str p) es :=
    Entries.get?_set_str_of_ne other v es
  have entry (opens : deep = true) (w : Value) (there : Entries.get? (.str p) es = some w) :
      w.isCyclic = false := by
    obtain ⟨l, member⟩ := exists_of_get? there
    exact isCyclic_of_mem (acyclic opens) member
  rw [read_map_cons, same, lookup_map_cons]
  · refine read_of_acyclic (fun opens => ?_) rest
    cases found : Entries.get? (.str p) es with
    | none => rfl
    | some w => exact entry opens w found
  · intro opens w there
    exact within_of_isCyclic_eq_false _ w (entry opens w (same.symm.trans there))

end Value

namespace Store

open Value

/-! ### Wholes stay whole -/

theorem fillEntries_set (c : Value) (k : Key) (v : Value) (es : List (Key × Value)) :
    fillEntries c (Entries.set k v es) = Entries.set k (fill c v) (fillEntries c es) := by
  induction es with
  | nil => rfl
  | cons e es ih =>
    obtain ⟨l, u⟩ := e
    rw [Entries.set, fillEntries, Entries.set]
    split
    next => rfl
    next => rw [fillEntries, ih]

theorem fill_nest {c v : Value} (whole : c.fill v = v) (next : Nat) (segs : List String) :
    c.fill (nest next segs v) = nest next segs v := by
  induction segs generalizing next with
  | nil => exact whole
  | cons s segs ih => simp only [nest, fill, fillEntries, ih, ite_self]

theorem fillEntries_write {c v : Value} (whole : c.fill v = v) (next mark : Nat)
    {es : List (Key × Value)} (acyclic : anyCyclicEntry es = false) (segs : List String) :
    fillEntries c (write next mark es segs v).1 = (write next mark es segs v).1 := by
  have still := fillEntries_of_anyCyclicEntry_eq_false c es acyclic
  induction segs generalizing mark es with
  | nil => exact still
  | cons s segs ih =>
    rcases write_cons next mark es s segs v with ⟨m, fs, -, found, written⟩ | ⟨-, written⟩
    · obtain ⟨l, member⟩ := exists_of_get? found
      have inner := isCyclic_of_mem acyclic member
      rw [written, fillEntries_set, still, fill,
        ih m inner (fillEntries_of_anyCyclicEntry_eq_false c fs inner), ite_self]
    · rw [written, fillEntries_set, still, fill_nest whole]

theorem fill_write {c v : Value} (whole : c.fill v = v) (next mark : Nat) {es : List (Key × Value)}
    (acyclic : anyCyclicEntry es = false) (segs : List String) :
    c.fill (map mark (write next mark es segs v).1) = map mark (write next mark es segs v).1 := by
  rw [fill, fillEntries_write whole next mark acyclic, ite_self]

/-! ### Reading a write -/

section

variable {deep : Bool} {v : Value} (whole : deep = true → ∀ c : Value, c.fill v = v)

include whole

theorem read_nest (next : Nat) (segs rest : List String) :
    (nest next segs v).read deep (segs ++ rest) = v.read deep rest := by
  induction segs generalizing next with
  | nil => rfl
  | cons s segs ih =>
    have entry (opens : deep = true) (c : Value) := fill_nest (whole opens c) (next + 1) segs
    exact (read_set_self next [] s entry _).trans (ih (next + 1))

/-- Under new mappings there is nothing but the value. -/
theorem read_nest_apart (next : Nat) {segs path : List String} (off : ¬segs <+: path)
    (off' : ¬path <+: segs) : (nest next segs v).read deep path = .ok .null := by
  induction segs generalizing next path with
  | nil => exact absurd List.nil_prefix off
  | cons s segs ih =>
    cases path with
    | nil => exact absurd List.nil_prefix off'
    | cons p path =>
      rw [List.cons_prefix_cons, not_and] at off off'
      by_cases same : s = p
      · subst same
        have entry (opens : deep = true) (c : Value) := fill_nest (whole opens c) (next + 1) segs
        exact (read_set_self next [] s entry _).trans (ih (next + 1) (off rfl) (off' rfl))
      · refine (read_set_of_ne next (fun _ => (rfl : anyCyclicEntry [] = false)) same _ path).trans
          ?_
        rw [lookup_map_cons, Entries.get?, Option.getD_none, lookup_null]

theorem read_write_append (next mark : Nat) {es : List (Key × Value)}
    (acyclic : deep = true → anyCyclicEntry es = false) {segs : List String} (long : segs ≠ [])
    (rest : List String) :
    (map mark (write next mark es segs v).1).read deep (segs ++ rest) = v.read deep rest := by
  induction segs generalizing mark es with
  | nil => exact absurd rfl long
  | cons s segs ih =>
    rw [List.cons_append]
    rcases write_cons next mark es s segs v with ⟨m, fs, more, found, written⟩ | ⟨-, written⟩
    · obtain ⟨l, member⟩ := exists_of_get? found
      have inner (opens : deep = true) : anyCyclicEntry fs = false :=
        isCyclic_of_mem (acyclic opens) member
      rw [written, read_set_self mark es s fun opens c => fill_write (whole opens c) next m
        (inner opens) segs]
      exact ih m inner more
    · rw [written, read_set_self mark es s fun opens c => fill_nest (whole opens c) next segs]
      exact read_nest whole next segs rest

/-- What a reader finds who branches off the path of a write. -/
theorem read_write_apart (next mark : Nat) {es : List (Key × Value)}
    (acyclic : deep = true → anyCyclicEntry es = false) {segs path : List String}
    (off : ¬segs <+: path) (off' : ¬path <+: segs) :
    ((map mark es).Together segs path →
      (map mark (write next mark es segs v).1).read deep path = (map mark es).lookup path) ∧
    (¬(map mark es).Together segs path → (map mark (write next mark es segs v).1).read deep path =
      .ok .null) := by
  induction segs generalizing mark es path with
  | nil => exact absurd List.nil_prefix off
  | cons s segs ih =>
    cases path with
    | nil => exact absurd List.nil_prefix off'
    | cons p path =>
      rw [List.cons_prefix_cons, not_and] at off off'
      by_cases same : s = p
      · subst same
        have off := off rfl
        have off' := off' rfl
        have more : segs ≠ [] := by
          rintro rfl
          exact off List.nil_prefix
        rcases write_cons next mark es s segs v with ⟨m, fs, -, found, written⟩ | ⟨stops, written⟩
        · obtain ⟨l, member⟩ := exists_of_get? found
          have inner (opens : deep = true) : anyCyclicEntry fs = false :=
            isCyclic_of_mem (acyclic opens) member
          rw [written, read_set_self mark es s fun opens c => fill_write (whole opens c) next m
            (inner opens) segs,
            together_cons found, lookup_map_cons mark es, found, Option.getD_some]
          exact ih m inner off off'
        · -- what stood here was no mapping, and a new one has taken its place
          have alone : ¬(map mark es).Together (s :: segs) (s :: path) := by
            intro together
            obtain ⟨m, fs, found⟩ := exists_map_of_holdsMapping
              (together [s] (by simp) (by simp) (by simp))
            exact more (stops m fs found)
          rw [written, read_set_self mark es s fun opens c => fill_nest (whole opens c) next segs]
          exact ⟨fun together => absurd together alone,
            fun _ => read_nest_apart whole next off off'⟩
      · have together : (map mark es).Together (s :: segs) (p :: path) := by
          rintro (_ | ⟨x, c⟩) some hp hq
          · exact absurd rfl some
          · exact absurd ((List.cons_prefix_cons.1 hp).1.symm.trans
              (List.cons_prefix_cons.1 hq).1) same
        refine ⟨fun _ => ?_, fun alone => absurd together alone⟩
        rcases write_cons next mark es s segs v with ⟨_, _, -, -, written⟩ | ⟨-, written⟩
        · rw [written, read_set_of_ne mark acyclic same]
        · rw [written, read_set_of_ne mark acyclic same]

end

/-! ### The law -/

theorem get_eq_read (s : Store) (path : String) :
    s.get path = s.root.read s.shared (segments path) := rfl

theorem get_set_eq {s : Store} {p : String} {v : Value}
    (tree : s.shared = true → s.Tree ∧ s.Writable p v) (q : String) :
    (s.set p v).1.get q = (map 0 (write s.next 0 s.tiers (segments p) v).1).read s.shared
      (segments q) := by
  rw [set_eq_write tree]
  exact get_eq_read _ q

/-- Reading after a write, in every state that is a tree: the value stands at its path, and what
stands in it is below; at a path that neither leads to the other, everything is as it was if
mappings stood wherever the two paths go together, and otherwise there is nothing. -/
theorem get_set {s : Store} {p : String} {v : Value}
    (tree : s.shared = true → s.Tree ∧ s.Writable p v) (q : String) :
    (s.set p v).1.get p = .ok v ∧
      (∀ rest, segments q = segments p ++ rest → (s.set p v).1.get q = v.read s.shared rest) ∧
      (¬segments p <+: segments q → ¬segments q <+: segments p →
        (s.root.Together (segments p) (segments q) → (s.set p v).1.get q = s.get q) ∧
        (¬s.root.Together (segments p) (segments q) → (s.set p v).1.get q = .ok .null)) := by
  have long := segments_ne_nil p
  have whole (opens : s.shared = true) := (tree opens).2.whole
  have acyclic (opens : s.shared = true) : anyCyclicEntry s.tiers = false := (tree opens).1.acyclic
  have before : s.get q = s.root.lookup (segments q) := read_of_acyclic acyclic (segments q)
  have behind := get_set_eq tree q
  refine ⟨(get_set_eq tree p).trans ?_, fun rest below => behind.trans ?_, fun off off' => ?_⟩
  · have there := read_write_append whole s.next 0 acyclic long []
    rwa [List.append_nil, read_nil] at there
  · rw [below]
    exact read_write_append whole s.next 0 acyclic long rest
  · obtain ⟨kept, lost⟩ := read_write_apart whole s.next 0 acyclic off off'
    exact ⟨fun together => behind.trans ((kept together).trans before.symm),
      fun alone => behind.trans (lost alone)⟩

def desk : Store where
  tiers := [(.str "globals", .map 1 [(.str "vars", .map 2 [])]),
    (.str "scene",
      .map 3 [(.str "vars", .map 4 [(.str "items", .list 5 [.str "a"]), (.str "sum", .int 1)])]),
    (.str "nodes", .map 6 [])]
  next := 7
  shared := true

theorem desk_tree : desk.Tree :=
  ⟨rfl, fun m _ => List.nodup_iff_count_le_one.1 (by decide) m, by decide⟩

/-- The mapping of the nodes is written below a list, which is lost by that. A number beside the
list stays. -/
theorem get_set_desk :
    (desk.shared = true → desk.Tree ∧ desk.Writable "scene.vars.items.x" (.map 6 [])) ∧
      desk.get "scene.vars.items.0" = .ok (.str "a") ∧
      (desk.set "scene.vars.items.x" (.map 6 [])).1.get "scene.vars.items.0" = .ok .null ∧
      (desk.set "scene.vars.items.x" (.map 6 [])).1.get "scene.vars.sum" = .ok (.int 1) := by
  have tree : desk.shared = true → desk.Tree ∧
      desk.Writable "scene.vars.items.x" (.map 6 []) := fun _ =>
    ⟨desk_tree, fun c => fill_of_isCyclic_eq_false c _ rfl, rfl, by decide, by decide⟩
  exact ⟨tree, rfl, ((get_set tree "scene.vars.items.0").2.2 (by decide) (by decide)).2 (by decide),
    ((get_set tree "scene.vars.sum").2.2 (by decide) (by decide)).1 (by decide)⟩

end Store

end SceneCourse
