import Mathlib.Data.List.Nodup
import Mathlib.Data.List.Perm.Subperm
import SceneCourse.Proofs.RecordReading
import SceneCourse.Value.Equality

/-! Which JSON values are strictly equal. Two values have one structure when lists agree item by
item, mappings name by name, and what is no container is the same on both sides. Values that are
compared without regard to kinds have one structure once truth values count as the numbers 0 and 1;
strict equality asks for that, and for truth values to be on both sides at the top only. So it is
one structure exactly if no truth value meets a number further in, and it is an equivalence. -/

namespace SceneCourse

namespace Value

/-- A value that JSON knows, in which every number is one. -/
inductive IsJson : Value → Prop where
  | null : IsJson .null
  | bool (b : Bool) : IsJson (.bool b)
  | int (n : Int) : IsJson (.int n)
  | float {x : Binary64} (number : x.isNaN = false) : IsJson (.float x)
  | str (s : String) : IsJson (.str s)
  | list (mark : Nat) {xs : List Value} (each : ∀ x ∈ xs, IsJson x) : IsJson (.list mark xs)
  | map (mark : Nat) {fields : List (String × Value)} (names : (fields.map (·.1)).Nodup)
    (each : ∀ f ∈ fields, IsJson f.2) : IsJson (.map mark (keyed fields))

/-- What a value says that is no container. An integer and a binary64 number of one value say the
same. -/
inductive Leaf where
  | null
  | truth (b : Bool)
  | number (x : Binary64.Extended)
  | text (s : String)

def leaf? : Value → Option Leaf
  | .null => some .null
  | .bool b => some (.truth b)
  | .int n => some (.number (.at n))
  | .float x => x.extended?.map .number
  | .str s => some (.text s)
  | _ => none

/-- Two values of one structure, with leaves that are related. The order in a mapping does not
matter. -/
inductive Alike (r : Leaf → Leaf → Prop) : Value → Value → Prop where
  | leaf {v w : Value} {l k : Leaf} (left : v.leaf? = some l) (right : w.leaf? = some k)
    (related : r l k) : Alike r v w
  | list (m n : Nat) {xs ys : List Value} (length : xs.length = ys.length)
    (each : ∀ (i : Nat) (x y : Value), xs[i]? = some x → ys[i]? = some y → Alike r x y) :
    Alike r (.list m xs) (.list n ys)
  | map (m n : Nat) {es fs : List (Key × Value)}
    (names : ∀ name, Entries.contains (.str name) es ↔ Entries.contains (.str name) fs)
    (each : ∀ name x y, Entries.get? (.str name) es = some x →
      Entries.get? (.str name) fs = some y → Alike r x y) :
    Alike r (.map m es) (.map n fs)

/-! ### Leaves -/

/-- A leaf with truth values as the numbers 0 and 1. -/
def Leaf.counted : Leaf → Leaf
  | .truth b => .number (.at (if b then 1 else 0))
  | l => l

/-- The leaves say the same where truth values count as numbers. -/
def Leaf.Count (l k : Leaf) : Prop := l.counted = k.counted

section

variable {v w : Value} {l k : Leaf}

theorem extended_of_number {x : Binary64} (number : x.isNaN = false) :
    ∃ e, x.extended? = some e := by
  rcases x with _ | (_ | _) | _
  · cases number
  all_goals exact ⟨_, rfl⟩

theorem isSameNaN_eq_false (json : v.IsJson) (w : Value) : v.isSameNaN w = false := by
  cases json with
  | float number =>
    rename_i x
    cases w with
    | float y => cases x <;> first | rfl | cases number
    | _ => rfl
  | _ => rfl

/-! Only nothing says nothing, and only a text says a text. -/

theorem leaf?_eq_null_iff : v.leaf? = some .null ↔ v = .null := by
  cases v <;> simp [leaf?]

theorem leaf?_eq_text_iff {s : String} : v.leaf? = some (.text s) ↔ v = .str s := by
  cases v <;> simp [leaf?]

/-- A leaf is a number for the looser equality if it counts as one. -/
theorem number?_eq_some_iff (leaf : v.leaf? = some l) {x : Binary64.Extended} :
    v.number? = some x ↔ l.counted = .number x := by
  cases v with
  | float y =>
    obtain ⟨e, value, rfl⟩ := Option.map_eq_some_iff.1 leaf
    simp [number?, value, Leaf.counted]
  | _ =>
    simp only [leaf?, Option.some.injEq, reduceCtorEq] at leaf
    try subst leaf; simp [number?, Leaf.counted]

theorem same_null_iff : same .null w = true ↔ w = .null := by
  cases w <;> simp [same, number?]

theorem same_str_iff {s : String} : same (.str s) w = true ↔ w = .str s := by
  cases w with
  | str t => rw [same, beq_iff_eq, str.injEq, eq_comm]
  | _ => simp [same, number?]

/-- A number is equal to the numbers of its value, where truth values are numbers too. -/
theorem same_number_iff {x : Binary64.Extended} (value : v.number? = some x) :
    v.same w = true ↔ w.number? = some x := by
  cases other : w.number? with
  | none =>
    cases v <;> simp only [number?, reduceCtorEq] at value <;> cases w <;>
      simp only [number?, reduceCtorEq] at other <;>
      simp [same, number?, other]
  | some y =>
    have numbers : v.same w = (x == y) := by
      cases v <;> simp only [number?, reduceCtorEq] at value <;> cases w <;>
        simp only [number?, reduceCtorEq] at other <;>
        simp only [same, number?, value, other]
    rw [numbers, beq_iff_eq, Option.some.injEq, eq_comm]

theorem same_leaves (left : v.leaf? = some l) (right : w.leaf? = some k) :
    v.same w = true ↔ l.Count k := by
  cases l with
  | null =>
    rw [leaf?_eq_null_iff.1 left, same_null_iff, ← leaf?_eq_null_iff, right]
    cases k <;> simp [Leaf.Count, Leaf.counted]
  | text s =>
    rw [leaf?_eq_text_iff.1 left, same_str_iff, ← leaf?_eq_text_iff, right]
    cases k <;> simp [Leaf.Count, Leaf.counted, eq_comm]
  | _ =>
    rw [same_number_iff ((number?_eq_some_iff left).2 rfl), number?_eq_some_iff right]
    exact eq_comm

end

/-! ### Containers -/

section

variable {r : Leaf → Leaf → Prop} {v w : Value} {xs ys : List Value} {es fs : List (Key × Value)}
  {m n : Nat}

theorem alike_list_iff : Alike r (.list m xs) w ↔ ∃ n ys, w = .list n ys ∧ xs.length = ys.length ∧
    ∀ (i : Nat) (x y : Value), xs[i]? = some x → ys[i]? = some y → Alike r x y := by
  constructor
  · rintro (⟨⟨⟩, -, -⟩ | ⟨_, n, length, each⟩)
    exact ⟨n, _, rfl, length, each⟩
  · rintro ⟨n, ys, rfl, length, each⟩
    exact .list m n length each

theorem alike_map_iff : Alike r (.map m es) w ↔ ∃ n fs, w = .map n fs ∧
    (∀ name, Entries.contains (.str name) es ↔ Entries.contains (.str name) fs) ∧
    ∀ name x y, Entries.get? (.str name) es = some x → Entries.get? (.str name) fs = some y →
    Alike r x y := by
  constructor
  · rintro (⟨⟨⟩, -, -⟩ | - | ⟨_, n, names, each⟩)
    exact ⟨n, _, rfl, names, each⟩
  · rintro ⟨n, fs, rfl, names, each⟩
    exact .map m n names each

theorem alike_leaf_iff {l : Leaf} (left : v.leaf? = some l) :
    Alike r v w ↔ ∃ k, w.leaf? = some k ∧ r l k := by
  constructor
  · intro alike
    cases alike with
    | leaf left' right related =>
      cases left.symm.trans left'
      exact ⟨_, right, related⟩
    | list => cases left
    | map => cases left
  · rintro ⟨k, right, related⟩
    exact .leaf left right related

theorem sameItems_iff (json : ∀ x ∈ xs, x.IsJson) : sameItems xs ys = true ↔
    xs.length = ys.length ∧ ∀ (i : Nat) (x y : Value), xs[i]? = some x → ys[i]? = some y →
    x.same y = true := by
  induction xs generalizing ys with
  | nil => cases ys <;> simp [sameItems]
  | cons x xs ih =>
    rw [List.forall_mem_cons] at json
    cases ys with
    | nil => simp [sameItems]
    | cons y ys =>
      rw [sameItems, isSameNaN_eq_false json.1, Bool.false_or, Bool.and_eq_true, ih json.2,
        List.length_cons,
        List.length_cons, Nat.add_right_cancel_iff]
      constructor
      · rintro ⟨first, length, later⟩
        refine ⟨length, fun i a b left right => ?_⟩
        cases i with
        | zero =>
          cases left
          cases right
          exact first
        | succ i => exact later i a b left right
      · rintro ⟨length, each⟩
        exact ⟨each 0 x y rfl rfl, length, fun i a b => each (i + 1) a b⟩

theorem sameEntries_keyed {fields : List (String × Value)} (json : ∀ f ∈ fields, f.2.IsJson) :
    sameEntries (keyed fields) fs = true ↔
      ∀ f ∈ fields, ∃ w, Entries.get? (.str f.1) fs = some w ∧ f.2.same w = true := by
  induction fields with
  | nil => simp [keyed, sameEntries]
  | cons f fields ih =>
    rw [List.forall_mem_cons] at json
    rw [List.forall_mem_cons, ← ih json.2]
    show sameEntries ((.str f.1, f.2) :: keyed fields) fs = true ↔ _
    rw [sameEntries, Bool.and_eq_true]
    refine and_congr_left fun _ => ?_
    cases found : Entries.get? (.str f.1) fs with
    | none => simp
    | some w => simp [isSameNaN_eq_false json.1]

theorem contains_keyed {fields : List (String × Value)} {name : String} :
    Entries.contains (.str name) (keyed fields) ↔ name ∈ fields.map (·.1) := by
  rw [Entries.contains, Option.isSome_iff_exists, List.mem_map]
  constructor
  · rintro ⟨v, found⟩
    exact ⟨(name, v), mem_of_get?_keyed found, rfl⟩
  · rintro ⟨f, member, rfl⟩
    obtain ⟨v, found⟩ := exists_lookup_of_mem member
    exact ⟨v, (get?_keyed f.1 fields).trans found⟩

/-- Names without repetition on both sides, as many on the one as on the other, are the same as soon
as those of the one are among those of the other. -/
theorem names_eq_iff {names others : List String} (distinct : names.Nodup)
    (distinct' : others.Nodup) :
    (names.length = others.length ∧ ∀ name ∈ names, name ∈ others) ↔ ∀ name, name ∈ names ↔
      name ∈ others := by
  constructor
  · rintro ⟨length, inside⟩ name
    have perm := (distinct.subperm inside).perm_of_length_le (Nat.le_of_eq length.symm)
    exact perm.mem_iff
  · intro equal
    have perm := (List.perm_ext_iff_of_nodup distinct distinct').2 equal
    exact ⟨perm.length_eq, fun name => (equal name).1⟩

/-- A mapping is looked through name by name in the other. -/
theorem same_keyed_iff {fields others : List (String × Value)} (names : (fields.map (·.1)).Nodup)
    (names' : (others.map (·.1)).Nodup) (json : ∀ f ∈ fields, f.2.IsJson) :
    same (.map m (keyed fields)) (.map n (keyed others)) = true ↔
      (∀ name, Entries.contains (.str name) (keyed fields) ↔
        Entries.contains (.str name) (keyed others)) ∧
        ∀ name x y, Entries.get? (.str name) (keyed fields) = some x → Entries.get? (.str name)
        (keyed others) = some y →
          x.same y = true := by
  have length (fields : List (String × Value)) : (keyed fields).length =
      (fields.map (·.1)).length := by simp [keyed]
  simp only [contains_keyed, ← names_eq_iff names names']
  rw [same, Bool.and_eq_true, beq_iff_eq, sameEntries_keyed json, length, length]
  constructor
  · rintro ⟨count, each⟩
    refine ⟨⟨count, fun name member => ?_⟩, fun name x y left right => ?_⟩
    · obtain ⟨f, inside, rfl⟩ := List.mem_map.1 member
      obtain ⟨w, found, -⟩ := each f inside
      exact List.mem_map.2 ⟨_, mem_of_get?_keyed found, rfl⟩
    · obtain ⟨w, found, equal⟩ := each (name, x) (mem_of_get?_keyed left)
      cases right.symm.trans found
      exact equal
  · rintro ⟨⟨count, inside⟩, each⟩
    refine ⟨count, fun f member => ?_⟩
    obtain ⟨g, member', same⟩ := List.mem_map.1 (inside f.1 (List.mem_map_of_mem member))
    have found := same ▸ get?_keyed_of_mem names' member'
    exact ⟨g.2, found, each f.1 f.2 g.2 (get?_keyed_of_mem names member) found⟩

theorem same_iff_of_leaf {l : Leaf} (leaf : v.leaf? = some l) (json : w.IsJson) :
    v.same w = true ↔ Alike Leaf.Count v w := by
  rw [alike_leaf_iff leaf]
  cases right : w.leaf? with
  | some k => simp [same_leaves leaf right]
  | none =>
    have other : v.same w = false := by
      cases json with
      | list | map => cases v <;> simp only [leaf?, reduceCtorEq] at leaf <;> simp [same, number?]
      | float number =>
        obtain ⟨e, value⟩ := extended_of_number number
        simp [leaf?, value] at right
      | _ => cases right
    simp [other]

/-- The looser equality is one structure where truth values count as numbers. -/
theorem same_iff (json : v.IsJson) (json' : w.IsJson) : v.same w = true ↔ Alike Leaf.Count v w := by
  induction json generalizing w with
  | @list m xs each ih =>
    rw [alike_list_iff]
    cases json' with
    | @list n ys each' =>
      have items (i : Nat) (x y : Value) (left : xs[i]? = some x) (right : ys[i]? = some y) :
          x.same y = true ↔ Alike Leaf.Count x y :=
        ih x (List.mem_of_getElem? left) (each' y (List.mem_of_getElem? right))
      rw [same, sameItems_iff each]
      constructor
      · rintro ⟨length, equal⟩
        exact ⟨n, ys, rfl, length, fun i x y left right => (items i x y left right).1
          (equal i x y left right)⟩
      · rintro ⟨_, _, ⟨⟩, length, alike⟩
        exact ⟨length, fun i x y left right => (items i x y left right).2 (alike i x y left right)⟩
    | _ => simp [same, number?]
  | @map m fields names each ih =>
    rw [alike_map_iff]
    cases json' with
    | @map n others names' each' =>
      have held (name : String) (x y : Value)
          (left : Entries.get? (.str name) (keyed fields) = some x)
          (right : Entries.get? (.str name) (keyed others) = some y) : x.same y = true ↔
              Alike Leaf.Count x y :=
        ih _ (mem_of_get?_keyed left) (each' _ (mem_of_get?_keyed right))
      rw [same_keyed_iff names names' each]
      constructor
      · rintro ⟨contained, equal⟩
        exact ⟨n, _, rfl, contained, fun name x y left right => (held name x y left right).1
          (equal name x y left right)⟩
      · rintro ⟨_, _, ⟨⟩, contained, alike⟩
        exact ⟨contained, fun name x y left right => (held name x y left right).2
          (alike name x y left right)⟩
    | _ => simp [same, number?]
  | float number =>
    obtain ⟨e, value⟩ := extended_of_number number
    exact same_iff_of_leaf (l := .number e) (by simp [leaf?, value]) json'
  | _ => exact same_iff_of_leaf rfl json'

end

/-! ### One structure -/

namespace Alike

variable {r s : Leaf → Leaf → Prop} {v w u : Value}

theorem mono (h : Alike r v w) (le : ∀ l k, r l k → s l k) : Alike s v w := by
  induction h with
  | leaf left right related => exact .leaf left right (le _ _ related)
  | list m n length _ ih => exact .list m n length ih
  | map m n names _ ih => exact .map m n names ih

theorem symm (symm : ∀ l k, r l k → r k l) (h : Alike r v w) : Alike r w v := by
  induction h with
  | leaf left right related => exact .leaf right left (symm _ _ related)
  | list m n length _ ih => exact .list n m length.symm fun i x y left right => ih i y x right left
  | map m n names _ ih =>
    exact .map n m (fun name => (names name).symm) fun name x y left right => ih name y x right left

theorem trans (trans : ∀ l k j, r l k → r k j → r l j) (h : Alike r v w) (h' : Alike r w u) :
    Alike r v u := by
  induction h generalizing u with
  | leaf left right related =>
    obtain ⟨j, last, related'⟩ := (alike_leaf_iff right).1 h'
    exact .leaf left last (trans _ _ _ related related')
  | @list m n xs ys length each ih =>
    obtain ⟨o, zs, rfl, length', each'⟩ := alike_list_iff.1 h'
    refine .list m o (length.trans length') fun i x z left right => ?_
    have within : i < ys.length := length ▸ (List.getElem?_eq_some_iff.1 left).1
    have middle := List.getElem?_eq_getElem within
    exact ih i x _ left middle (each' i _ z middle right)
  | @map m n es fs names each ih =>
    obtain ⟨o, gs, rfl, names', each'⟩ := alike_map_iff.1 h'
    refine .map m o (fun name => (names name).trans (names' name)) fun name x z left right => ?_
    obtain ⟨y, middle⟩ := Option.isSome_iff_exists.1
      ((names name).1 (Option.isSome_iff_exists.2 ⟨x, left⟩))
    exact ih name x y left middle (each' name y z middle right)

theorem refl (refl : ∀ l, r l l) (json : v.IsJson) : Alike r v v := by
  induction json with
  | @list m xs _ ih =>
    refine .list m m rfl fun i x y left right => ?_
    cases left.symm.trans right
    exact ih x (List.mem_of_getElem? left)
  | @map m fields _ _ ih =>
    refine .map m m (fun _ => Iff.rfl) fun name x y left right => ?_
    cases left.symm.trans right
    exact ih _ (mem_of_get?_keyed left)
  | @float x number =>
    obtain ⟨e, value⟩ := extended_of_number number
    have leaf : (Value.float x).leaf? = some (.number e) := by simp [leaf?, value]
    exact .leaf leaf leaf (refl _)
  | _ => exact .leaf rfl rfl (refl _)

end Alike

/-! ### Strict equality -/

section

variable {v w : Value}

def isTruth : Value → Bool
  | .bool _ => true
  | _ => false

theorem isTruth_iff : v.isTruth = true ↔ ∃ b, v.leaf? = some (.truth b) := by
  cases v <;> simp [isTruth, leaf?]

/-- Strict equality is the looser one, with truth values on both sides or on neither. -/
theorem strictlySame_iff (json : v.IsJson) (json' : w.IsJson) :
    v.strictlySame w = true ↔ Alike Leaf.Count v w ∧ v.isTruth = w.isTruth := by
  rw [← same_iff json json', strictlySame]
  cases json <;> cases json' <;> simp [isNumber, kindName, isTruth]
  -- What is left are kinds of which no two values are equal.
  all_goals simp [same, number?]

/-- Somewhere in both, at the same place, a truth value stands in the one and a number in the
other. -/
inductive Crossed : Value → Value → Prop where
  | truth {v w : Value} {b : Bool} {x : Binary64.Extended} (left : v.leaf? = some (.truth b))
    (right : w.leaf? = some (.number x)) : Crossed v w
  | number {v w : Value} {x : Binary64.Extended} {b : Bool} (left : v.leaf? = some (.number x))
    (right : w.leaf? = some (.truth b)) : Crossed v w
  | item {m n i : Nat} {xs ys : List Value} {x y : Value} (left : xs[i]? = some x)
    (right : ys[i]? = some y) (crossed : Crossed x y) : Crossed (.list m xs) (.list n ys)
  | entry {m n : Nat} {es fs : List (Key × Value)} {name : String} {x y : Value}
    (left : Entries.get? (.str name) es = some x) (right : Entries.get? (.str name) fs = some y)
      (crossed : Crossed x y) :
    Crossed (.map m es) (.map n fs)

/-- Leaves that count alike are the same, unless a truth value meets a number. -/
theorem Leaf.eq_of_count {l k : Leaf} (count : l.Count k)
    (apart : ∀ b x, ¬(l = .truth b ∧ k = .number x))
    (apart' : ∀ b x, ¬(l = .number x ∧ k = .truth b)) : l = k := by
  cases l <;> cases k <;> simp_all [Leaf.Count, Leaf.counted]
  rename_i b c
  cases b <;> cases c <;> simp_all

theorem Alike.not_crossed (alike : Alike Eq v w) : ¬Crossed v w := by
  intro crossed
  induction crossed with
  | truth left right =>
    obtain ⟨k, right', rfl⟩ := (alike_leaf_iff left).1 alike
    cases right.symm.trans right'
  | number left right =>
    obtain ⟨k, right', rfl⟩ := (alike_leaf_iff left).1 alike
    cases right.symm.trans right'
  | item left right _ ih =>
    obtain ⟨_, _, ⟨⟩, -, each⟩ := alike_list_iff.1 alike
    exact ih (each _ _ _ left right)
  | entry left right _ ih =>
    obtain ⟨_, _, ⟨⟩, -, each⟩ := alike_map_iff.1 alike
    exact ih (each _ _ _ left right)

theorem Alike.of_not_crossed (alike : Alike Leaf.Count v w) (apart : ¬Crossed v w) :
    Alike Eq v w := by
  induction alike with
  | leaf left right count =>
    refine .leaf left right (Leaf.eq_of_count count ?_ ?_)
    · rintro b x ⟨rfl, rfl⟩
      exact apart (.truth left right)
    · rintro b x ⟨rfl, rfl⟩
      exact apart (.number left right)
  | list m n length _ ih =>
    exact .list m n length fun i x y left right => ih i x y left right fun c =>
      apart (.item left right c)
  | map m n names _ ih =>
    exact .map m n names fun name x y left right => ih name x y left right fun c =>
      apart (.entry left right c)

/-- Values of one structure are truth values both or neither. -/
theorem Alike.isTruth_eq (alike : Alike Eq v w) : v.isTruth = w.isTruth := by
  cases alike with
  | @leaf _ _ l _ left right same =>
    subst same
    rw [Bool.eq_iff_iff, isTruth_iff, isTruth_iff, left, right]
  | list => rfl
  | map => rfl

/-- Two JSON values are strictly equal if they have one structure where truth values count as
numbers, and are truth values both or neither. So values of one structure are those that are
strictly equal and in which no truth value meets a number. -/
theorem structure_iff_strictlySame (json : v.IsJson) (json' : w.IsJson) :
    (v.strictlySame w = true ↔ Alike Leaf.Count v w ∧ v.isTruth = w.isTruth) ∧
      (Alike Eq v w ↔ v.strictlySame w = true ∧ ¬Crossed v w) := by
  refine ⟨strictlySame_iff json json', ?_⟩
  rw [strictlySame_iff json json']
  constructor
  · intro alike
    have count : Alike Leaf.Count v w := alike.mono fun l k same => congrArg Leaf.counted same
    exact ⟨⟨count, alike.isTruth_eq⟩, alike.not_crossed⟩
  · rintro ⟨⟨count, -⟩, apart⟩
    exact count.of_not_crossed apart

/-- A panel with a lit lamp, and what a meter reads off it. -/
theorem structure_iff_strictlySame_panel :
    let panel := Value.object [("lamps", .ofList [.int 1, .bool true])]
    let reading := Value.object [("lamps", .ofList [.float (.finite false 1 0), .int 1])]
    (panel.IsJson ∧ reading.IsJson) ∧ panel.strictlySame reading = true ∧
        ¬Alike Eq panel reading := by
  intro panel reading
  have lamps {x y : Value} (json : x.IsJson) (json' : y.IsJson) :
      (Value.object [("lamps", .ofList [x, y])]).IsJson :=
    .map 0 (List.nodup_singleton _) (List.forall_mem_singleton.2 (.list 0 (List.forall_mem_cons.2
      ⟨json, List.forall_mem_singleton.2 json'⟩)))
  have json : panel.IsJson := lamps (.int 1) (.bool true)
  have json' : reading.IsJson := lamps (.float rfl) (.int 1)
  have crossed : Crossed panel reading :=
    @Crossed.entry 0 0 _ _ "lamps" _ _ rfl rfl (.item (i := 1) rfl rfl (.truth rfl rfl))
  exact ⟨⟨json, json'⟩, by decide +kernel,
    fun alike => ((structure_iff_strictlySame json json').2.1 alike).2 crossed⟩

/-- The truth is equal to the number one inside a list. -/
theorem strictlySame_confuses :
    (Value.ofList [.bool true]).strictlySame (.ofList [.int 1]) = true ∧
      ¬Alike Eq (Value.ofList [.bool true]) (Value.ofList [.int 1]) := by
  refine ⟨by decide +kernel, fun alike => alike.not_crossed ?_⟩
  exact .item (i := 0) rfl rfl (.truth rfl rfl)

/-- Numbers are strictly equal if they are of one value. -/
theorem strictlySame_numbers (left : v.isNumber = true) (right : w.isNumber = true) :
    v.strictlySame w = true ↔ ∃ x, v.number? = some x ∧ w.number? = some x := by
  have numbers : v.strictlySame w = v.same w := by simp [strictlySame, left, right]
  rw [numbers]
  cases value : v.number? with
  | some x => simp [same_number_iff value]
  | none =>
    cases v with
    | float x => cases w <;> simp_all [same, number?, isNumber]
    | _ => simp [isNumber, number?] at left value

theorem strictlySame_int_float (n : Int) (x : Binary64) :
    (Value.int n).strictlySame (.float x) = true ↔ x.toRat? = some (n : Rat) := by
  rw [strictlySame_numbers rfl rfl]
  rcases x with _ | (_ | _) | _ <;> simp [number?, Binary64.extended?, Binary64.toRat?, eq_comm]

/-- The order of the fields does not matter. -/
theorem strictlySame_of_perm (m n : Nat) {fields others : List (String × Value)}
    (names : (fields.map (·.1)).Nodup) (json : ∀ f ∈ fields, f.2.IsJson)
    (perm : fields.Perm others) :
    (Value.map m (keyed fields)).strictlySame (.map n (keyed others)) = true := by
  have names' : (others.map (·.1)).Nodup := (perm.map _).nodup_iff.1 names
  rw [strictlySame_iff (.map m names json)
    (.map n names' fun f member => json f (perm.mem_iff.2 member))]
  refine ⟨.map m n (fun name => ?_) fun name x y left right => ?_, rfl⟩
  · rw [contains_keyed, contains_keyed, (perm.map _).mem_iff]
  · have member := mem_of_get?_keyed left
    cases right.symm.trans (get?_keyed_of_mem names' (perm.mem_iff.1 member))
    exact Alike.refl (fun _ => rfl) (json _ member)

/-- Strict equality of JSON values is an equivalence. It compares numbers by their exact values,
also an integer with a binary64 number, and mappings without regard to the order of their fields. -/
theorem strictlySame_equivalence :
    Equivalence (fun v w : {v : Value // v.IsJson} => v.1.strictlySame w.1 = true) ∧
      (∀ v w : Value, v.isNumber = true → w.isNumber = true →
        (v.strictlySame w = true ↔ ∃ x, v.number? = some x ∧ w.number? = some x)) ∧
      (∀ (n : Int) (x : Binary64), (Value.int n).strictlySame (.float x) = true ↔
        x.toRat? = some (n : Rat)) ∧
      ∀ (m n : Nat) (fields others : List (String × Value)), (fields.map (·.1)).Nodup →
      (∀ f ∈ fields, f.2.IsJson) →
        fields.Perm others → (Value.map m (keyed fields)).strictlySame
          (.map n (keyed others)) = true := by
  refine ⟨⟨?_, ?_, ?_⟩, fun _ _ => strictlySame_numbers, strictlySame_int_float,
    fun m n _ _ => strictlySame_of_perm m n⟩
  · rintro ⟨v, json⟩
    exact (strictlySame_iff json json).2 ⟨Alike.refl (fun _ => rfl) json, rfl⟩
  · rintro ⟨v, json⟩ ⟨w, json'⟩ equal
    obtain ⟨alike, truths⟩ := (strictlySame_iff json json').1 equal
    exact (strictlySame_iff json' json).2 ⟨alike.symm fun _ _ => Eq.symm, truths.symm⟩
  · rintro ⟨v, json⟩ ⟨w, json'⟩ ⟨u, json''⟩ equal equal'
    obtain ⟨alike, truths⟩ := (strictlySame_iff json json').1 equal
    obtain ⟨alike', truths'⟩ := (strictlySame_iff json' json'').1 equal'
    exact (strictlySame_iff json json'').2 ⟨alike.trans (fun _ _ _ => Eq.trans) alike',
      truths.trans truths'⟩

end

end Value

end SceneCourse
