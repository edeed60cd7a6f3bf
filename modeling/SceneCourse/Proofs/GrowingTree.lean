import Mathlib.Data.List.Infix
import Mathlib.Data.List.Nodup
import SceneCourse.Proofs.ReadOverWrite
import SceneCourse.Proofs.SameKey

/-! Writing what holds no containers into a tree. The state remains a tree, since the mappings that
are made on the way are new and stand at one place each. What stands behind a row of keys afterwards
is said for keys of every sort: at the path the value, above it a mapping, and everywhere else what
stood there before. Lists on the way are no exception here, because no key leads into one. -/

namespace SceneCourse

namespace Value

/-! ### Entries that are set -/

theorem anyCyclicEntry_set {k : Key} {v : Value} {es : List (Key × Value)} (hv : v.isCyclic = false)
    (hes : anyCyclicEntry es = false) : anyCyclicEntry (Entries.set k v es) = false := by
  induction es with
  | nil => simp [Entries.set, anyCyclicEntry, hv]
  | cons e es ih =>
    obtain ⟨l, u⟩ := e
    rw [anyCyclicEntry, Bool.or_eq_false_iff] at hes
    rw [Entries.set]
    split
    next => simp [anyCyclicEntry, hv, hes.2]
    next => simp [anyCyclicEntry, hes.1, ih hes.2]

/-- A new entry adds its containers, unless it drops others. -/
theorem count_marks_set_le (k : Key) (v : Value) (es : List (Key × Value)) (m : Nat) :
    (marksEntries (Entries.set k v es)).count m ≤
      (marksEntries es).count m + (marks v).count m := by
  induction es with
  | nil => simp [Entries.set, marksEntries]
  | cons e es ih =>
    obtain ⟨l, u⟩ := e
    rw [Entries.set]
    split <;> simp only [marksEntries, List.count_append]
    · omega
    · omega

/-- An entry in the place of another exchanges their containers. -/
theorem count_marks_set {k : Key} {u : Value} {es : List (Key × Value)}
    (found : Entries.get? k es = some u) (v : Value) (m : Nat) :
    (marksEntries (Entries.set k v es)).count m + (marks u).count m =
      (marksEntries es).count m + (marks v).count m := by
  induction es with
  | nil => cases found
  | cons e es ih =>
    obtain ⟨l, w⟩ := e
    rw [Entries.get?] at found
    rw [Entries.set]
    by_cases here : l.same k = true
    · rw [if_pos here] at found ⊢
      obtain rfl := Option.some.inj found
      simp only [marksEntries, List.count_append]
      omega
    · rw [if_neg here] at found ⊢
      have rest := ih found
      simp only [marksEntries, List.count_append]
      omega

end Value

namespace Store

open Value

variable {next mark : Nat} {es : List (Key × Value)} {segs : List String} {v : Value}

/-! ### Trees -/

theorem isCyclic_nest (acyclic : v.isCyclic = false) (next : Nat) (segs : List String) :
    (nest next segs v).isCyclic = false := by
  induction segs generalizing next with
  | nil => exact acyclic
  | cons s segs ih => simp [nest, isCyclic, anyCyclicEntry, ih]

theorem isCyclic_write (acyclic : v.isCyclic = false) (next mark : Nat) (segs : List String)
    (before : anyCyclicEntry es = false) :
    anyCyclicEntry (write next mark es segs v).1 = false := by
  induction segs generalizing mark es with
  | nil => exact before
  | cons s segs ih =>
    rcases write_cons next mark es s segs v with ⟨m, fs, -, found, written⟩ | ⟨-, written⟩
    · obtain ⟨l, member⟩ := exists_of_get? found
      rw [written]
      exact anyCyclicEntry_set (ih m (isCyclic_of_mem before member)) before
    · rw [written]
      exact anyCyclicEntry_set (isCyclic_nest acyclic next segs) before

theorem marks_nest (next : Nat) (segs : List String) (v : Value) :
    marks (nest next segs v) = List.range' next segs.length ++ marks v := by
  induction segs generalizing next with
  | nil => rfl
  | cons s segs ih => simp [nest, marks, marksEntries, ih, List.range'_succ]

theorem count_range'_succ_le (next n m : Nat) :
    (List.range' next n).count m ≤ (List.range' next (n + 1)).count m := by
  rw [List.range'_1_concat, List.count_append]
  omega

/-- A write adds no containers but those of the value and the mappings that it makes. -/
theorem count_marks_write (next mark : Nat) (es : List (Key × Value)) (segs : List String)
    (v : Value) (m : Nat) :
    (marksEntries (write next mark es segs v).1).count m ≤
      (marksEntries es).count m + (List.range' next segs.length).count m + (marks v).count m := by
  induction segs generalizing mark es with
  | nil => exact Nat.le_add_right_of_le (Nat.le_add_right _ _)
  | cons s segs ih =>
    have more := count_range'_succ_le next segs.length m
    rw [List.length_cons]
    rcases write_cons next mark es s segs v with ⟨n, fs, -, found, written⟩ | ⟨-, written⟩
    · have inner := ih n fs
      have outer := count_marks_set found (.map n (write next n fs segs v).1) m
      simp only [marks, List.count_cons] at outer
      rw [written]
      dsimp only
      omega
    · have outer := count_marks_set_le (.str s) (nest next segs v) es m
      rw [marks_nest, List.count_append] at outer
      rw [written]
      dsimp only
      omega

variable {s : Store} {path : String}

theorem writable_of_bare (acyclic : v.isCyclic = false) (bare : marks v = []) :
    s.Writable path v where
  whole c := fill_of_isCyclic_eq_false c v acyclic
  closed := tieIn_eq_self [] v (by simp [bare, Once]) (by simp [bare])
  given := by simp [bare]
  apart := by simp [bare]

/-- What a write of a bare value into a tree leaves. -/
theorem set_of_bare (tree : s.shared = true → s.Tree) (acyclic : v.isCyclic = false)
    (bare : marks v = []) :
    (s.set path v).1 =
      { s with tiers := (write s.next 0 s.tiers (segments path) v).1, next :=
        s.next + (segments path).length } := by
  rw [set_eq_write fun shared => ⟨tree shared, writable_of_bare acyclic bare⟩]

/-- A state with no containers but those of a tree and new ones, which are there once, is a tree. -/
theorem Tree.grow (tree : s.Tree) {t : Store} (acyclic : t.root.isCyclic = false) {news : List Nat} (once : news.Nodup)
    (ahead : s.next ≤ t.next) (new : ∀ m ∈ news, s.next ≤ m ∧ m < t.next)
    (counted : ∀ m, (marksEntries t.tiers).count m ≤ (marksEntries s.tiers).count m + news.count m) : t.Tree := by
  refine ⟨acyclic, fun m marked => ?_, fun m hm => ?_⟩
  · have grown := counted m
    have more := List.nodup_iff_count_le_one.1 once m
    have old := tree.once m marked
    show (0 :: marksEntries t.tiers).count m ≤ 1
    rw [root, marks, List.count_cons_of_ne (Ne.symm marked)] at old
    rw [List.count_cons_of_ne (Ne.symm marked)]
    by_cases given : m ∈ marksEntries s.tiers
    · have below := tree.given m (List.mem_cons_of_mem 0 given)
      have outside : news.count m = 0 := List.count_eq_zero.2 fun inside => by have := new m inside; omega
      omega
    · have absent := List.count_eq_zero.2 given
      omega
  · rcases List.mem_cons.1 hm with rfl | inside
    · exact Nat.lt_of_lt_of_le (tree.given 0 List.mem_cons_self) ahead
    · have grown := counted m
      have there := List.count_pos_iff.2 inside
      by_cases given : m ∈ marksEntries s.tiers
      · exact Nat.lt_of_lt_of_le (tree.given m (List.mem_cons_of_mem 0 given)) ahead
      · have absent := List.count_eq_zero.2 given
        exact (new m (List.count_pos_iff.1 (by omega))).2

theorem Tree.set (tree : s.Tree) (acyclic : v.isCyclic = false) (bare : marks v = []) :
    (s.set path v).1.Tree := by
  rw [set_of_bare (fun _ => tree) acyclic bare]
  refine tree.grow (isCyclic_write acyclic s.next 0 (segments path) tree.acyclic) List.nodup_range'
    (Nat.le_add_right _ _) (fun m member => List.mem_range'_1.1 member) fun m => ?_
  have grown := count_marks_write s.next 0 s.tiers (segments path) v m
  rwa [bare, List.count_nil, Nat.add_zero] at grown

end Store

/-! ### Behind keys -/

namespace Value

def dig : Value → List Key → Option Value
  | v, [] => some v
  | .map _ es, k :: ks => (Entries.get? k es).bind fun v => dig v ks
  | _, _ :: _ => none

theorem dig_append (v : Value) (ks ls : List Key) :
    v.dig (ks ++ ls) = (v.dig ks).bind (·.dig ls) := by
  induction ks generalizing v with
  | nil => rfl
  | cons k ks ih =>
    cases v with
    | map m es =>
      rw [List.cons_append, dig, dig, Option.bind_assoc]
      exact Option.bind_congr fun u _ => ih u
    | _ => rfl

/-- A reader comes to what stands behind texts, and goes on from there. -/
theorem lookup_of_dig {v w : Value} {path : List String} (there : v.dig (path.map .str) = some w)
    (rest : List String) : v.lookup (path ++ rest) = w.lookup rest := by
  induction path generalizing v with
  | nil =>
    obtain rfl := Option.some.inj there
    rfl
  | cons s path ih =>
    cases v with
    | map m es =>
      obtain ⟨u, found, inner⟩ := Option.bind_eq_some_iff.1 there
      rw [List.cons_append, lookup_map_cons, found]
      exact ih inner
    | _ => cases there

theorem lookup_eq_of_dig {v w : Value} {path : List String}
    (there : v.dig (path.map .str) = some w) : v.lookup path = .ok w := by
  have read := lookup_of_dig there []
  rwa [List.append_nil] at read

theorem dig_set_self (m : Nat) (es : List (Key × Value)) (s : String) (v : Value) (ks : List Key) :
    (map m (Entries.set (.str s) v es)).dig (.str s :: ks) = v.dig ks := by
  rw [dig, Entries.get?_set_str_self, Option.bind_some]

theorem dig_set_of_ne (m : Nat) (es : List (Key × Value)) {s : String} {k : Key}
    (other : .str s ≠ k) (v : Value) (ks : List Key) :
    (map m (Entries.set (.str s) v es)).dig (k :: ks) = (map m es).dig (k :: ks) := by
  have apart : ¬Key.same (.str s) k = true := by
    rw [Key.same_comm, Key.same_str_iff]
    exact Ne.symm other
  rw [dig, Entries.get?_set, if_neg apart, dig]

end Value

namespace Store

open Value

theorem dig_nest (next : Nat) (segs : List String) (v : Value) (ks : List Key) :
    (nest next segs v).dig (segs.map .str ++ ks) = v.dig ks := by
  induction segs generalizing next with
  | nil => rfl
  | cons s segs ih => exact (dig_set_self next [] s _ _).trans (ih (next + 1))

/-- At the path of a write stands the value. -/
theorem dig_write (next mark : Nat) (es : List (Key × Value)) {segs : List String}
    (long : segs ≠ []) (v : Value) (ks : List Key) :
    (map mark (write next mark es segs v).1).dig (segs.map .str ++ ks) = v.dig ks := by
  induction segs generalizing mark es with
  | nil => exact absurd rfl long
  | cons s segs ih =>
    rcases write_cons next mark es s segs v with ⟨m, fs, more, -, written⟩ | ⟨-, written⟩
    · rw [written]
      exact (dig_set_self mark es s _ _).trans (ih m fs more)
    · rw [written]
      exact (dig_set_self mark es s _ _).trans (dig_nest next segs v ks)

theorem dig_nest_above (next : Nat) {segs : List String} {ks : List Key}
    (above : ks <+: segs.map .str) (proper : ks ≠ segs.map .str) (v : Value) :
    ∃ m es, (nest next segs v).dig ks = some (.map m es) := by
  induction segs generalizing next ks with
  | nil => exact absurd (List.prefix_nil.1 above) proper
  | cons s segs ih =>
    cases ks with
    | nil => exact ⟨_, _, rfl⟩
    | cons k ks =>
      obtain ⟨rfl, above'⟩ := List.cons_prefix_cons.1 above
      have inner := ih (next + 1) above' fun same => proper (by rw [same]; rfl)
      rwa [nest, ← Entries.set, dig_set_self]

/-- Above the path of a write stand mappings. -/
theorem dig_write_above (next mark : Nat) (es : List (Key × Value)) {segs : List String}
    {ks : List Key} (above : ks <+: segs.map .str) (proper : ks ≠ segs.map .str) (v : Value) :
    ∃ m fs, (map mark (write next mark es segs v).1).dig ks = some (.map m fs) := by
  induction segs generalizing mark es ks with
  | nil => exact absurd (List.prefix_nil.1 above) proper
  | cons s segs ih =>
    cases ks with
    | nil => exact ⟨_, _, rfl⟩
    | cons k ks =>
      obtain ⟨rfl, above'⟩ := List.cons_prefix_cons.1 above
      have proper' : ks ≠ segs.map .str := fun same => proper (by rw [same]; rfl)
      rcases write_cons next mark es s segs v with ⟨m, fs, -, -, written⟩ | ⟨-, written⟩
      · rw [written, dig_set_self]
        exact ih m fs above' proper'
      · rw [written, dig_set_self]
        exact dig_nest_above next above' proper' v

theorem dig_nest_apart (next : Nat) {segs : List String} {ks : List Key}
    (off : ¬segs.map .str <+: ks) (off' : ¬ks <+: segs.map .str) (v : Value) :
    (nest next segs v).dig ks = none := by
  induction segs generalizing next ks with
  | nil => exact absurd List.nil_prefix off
  | cons s segs ih =>
    cases ks with
    | nil => exact absurd List.nil_prefix off'
    | cons k ks =>
      rw [List.map_cons, List.cons_prefix_cons, not_and] at off off'
      by_cases same : k = .str s
      · subst same
        exact (dig_set_self next [] s _ ks).trans (ih (next + 1) (off rfl) (off' rfl))
      · exact dig_set_of_ne next [] (Ne.symm same) _ ks

/-- Everywhere else stands what stood there before. -/
theorem dig_write_apart (next mark : Nat) (es : List (Key × Value)) {segs : List String}
    {ks : List Key} (off : ¬segs.map .str <+: ks) (off' : ¬ks <+: segs.map .str) (v : Value) :
    (map mark (write next mark es segs v).1).dig ks = (map mark es).dig ks := by
  induction segs generalizing mark es ks with
  | nil => exact absurd List.nil_prefix off
  | cons s segs ih =>
    cases ks with
    | nil => exact absurd List.nil_prefix off'
    | cons k ks =>
      rw [List.map_cons, List.cons_prefix_cons, not_and] at off off'
      by_cases same : k = .str s
      · subst same
        have off := off rfl
        have off' := off' rfl
        rcases write_cons next mark es s segs v with ⟨m, fs, -, found, written⟩ | ⟨stops, written⟩
        · rw [written, dig_set_self, ih m fs off off', dig.eq_2, found, Option.bind_some]
        · -- what stood here was no mapping, so nothing stood behind it
          rw [written, dig_set_self, dig_nest_apart next off off' v, dig.eq_2]
          cases found : Entries.get? (.str s) es with
          | none => rfl
          | some w =>
            cases ks with
            | nil => exact absurd List.nil_prefix off'
            | cons l ks =>
              cases w with
              | map m fs =>
                rw [stops m fs found] at off
                exact absurd List.nil_prefix off
              | _ => rfl
      · rcases write_cons next mark es s segs v with ⟨_, _, -, -, written⟩ | ⟨-, written⟩
        · rw [written, dig_set_of_ne mark es (Ne.symm same)]
        · rw [written, dig_set_of_ne mark es (Ne.symm same)]

end Store

end SceneCourse
