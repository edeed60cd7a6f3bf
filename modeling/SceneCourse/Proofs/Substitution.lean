import Mathlib.Logic.Basic
import SceneCourse.Proofs.Meaning

/-! What becomes of a value with references. Down to a limit, each reference in it gives way to what
it stands for and each text to the text with its placeholders filled; keys, orders and everything
else stay, what comes from the state is not looked at, and what lies deeper stays as it is. Proved:
that is the answer, and every part that is left leaves one note, exactly if nothing within the limit
is in the way and the limit itself can be shown. -/

namespace SceneCourse

/-! ### The parts of a value -/

namespace Value

/-- The values directly under a value. The inside of a reference does not count. -/
def parts : Value → List Value
  | .map m es => if (Value.map m es).isReference then [] else es.map (·.2)
  | .list _ xs => xs
  | .pair a b => [a, b]
  | _ => []

/-- The values at a depth of a value, in order; it stands at depth 0 itself. -/
def atDepth : Nat → Value → List Value
  | 0, v => [v]
  | d + 1, v => v.parts.flatMap (atDepth d)

theorem parts_of_reference {v : Value} (reference : v.isReference = true) : v.parts = [] := by
  cases v with
  | map m es => rw [parts, if_pos reference]
  | _ => cases reference

theorem parts_map {m : Nat} {es : List (Key × Value)} (plain : (map m es).isReference = false) :
    (map m es).parts = es.map (·.2) := by
  rw [parts, plain]
  rfl

theorem mem_atDepth_succ {v w : Value} {d : Nat} :
    w ∈ v.atDepth (d + 1) ↔ ∃ p ∈ v.parts, w ∈ p.atDepth d := by
  rw [atDepth, List.mem_flatMap]

theorem atDepth_succ_eq_nil_iff {v : Value} {d : Nat} :
    v.atDepth (d + 1) = [] ↔ ∀ p ∈ v.parts, p.atDepth d = [] := by
  rw [atDepth, List.flatMap_eq_nil_iff]

theorem atDepth_succ_ne_nil_iff {v : Value} {d : Nat} :
    v.atDepth (d + 1) ≠ [] ↔ ∃ p ∈ v.parts, p.atDepth d ≠ [] := by
  simp [atDepth_succ_eq_nil_iff]

end Value

/-! ### Answers one after the other -/

namespace Noted

variable {α β : Type}

theorem mk_bind (a : α) (notes : List LogEntry) (f : α → Noted β) :
    ((⟨.ok a, notes⟩ : Noted α) >>= f) = ⟨(f a).result, notes ++ (f a).notes⟩ := rfl

theorem exists_answer {x : Noted α} (sound : ¬x.Fails) : ∃ a, x.result = .ok a := by
  cases known : x.result with
  | ok a => exact ⟨a, rfl⟩
  | error e => exact absurd ⟨e, known⟩ sound

theorem map_bind {γ : Type} (f : α → β) (g : β → Noted γ) (x : Noted α) :
    ((do return f (← x)) >>= g) = x >>= fun a => g (f a) := by
  obtain ⟨r, notes⟩ := x
  cases r with
  | ok a => simp [mk_bind, pure, answer]
  | error e => rfl

/-- Asks a question of one after the other and collects the answers. -/
def collect (f : α → Noted β) : List α → Noted (List β)
  | [] => return []
  | a :: as => do
    let b ← f a
    return b :: (← collect f as)

theorem collect_eq {f : α → Noted β} {g : α → β} {notes : α → List LogEntry} {as : List α}
    (each : ∀ a ∈ as, f a = ⟨.ok (g a), notes a⟩) :
    collect f as = ⟨.ok (as.map g), as.flatMap notes⟩ := by
  induction as with
  | nil => rfl
  | cons a as ih =>
    rw [List.forall_mem_cons] at each
    rw [collect, each.1, ih each.2, mk_bind, mk_bind, List.flatMap_cons, List.map_cons]
    simp [pure, answer]

theorem collect_congr {f g : α → Noted β} {as : List α} (each : ∀ a ∈ as, f a = g a) :
    collect f as = collect g as := by
  induction as with
  | nil => rfl
  | cons a as ih =>
    rw [List.forall_mem_cons] at each
    rw [collect, collect, each.1, ih each.2]

end Noted

namespace Store

open Noted

/-! ### Replacing -/

/-- What a reference stands for; nothing if its path is no text. -/
def referent (s : Store) (es : List (Key × Value)) : Value :=
  match Entries.get? (.str "ref") es with
  | some (.str path) => (s.get path).toOption.getD .null
  | _ => .null

/-- A value with its references and texts replaced, given how its parts are. -/
def replaced (s : Store) (inner : Value → Value) : Value → Value
  | .str text => .str ((s.interpolate text).toOption.getD text)
  | .map m es =>
    if (Value.map m es).isReference then s.referent es
      else .ofEntries (es.map fun e => (e.1, inner e.2))
  | .list _ xs => .ofList (xs.map inner)
  | .pair a b => .ofList [inner a, inner b]
  | v => v

/-- A value with its references and texts replaced as many levels down; what lies deeper is left as
it is. -/
def substituted (s : Store) : Nat → Value → Value
  | 0, v => v
  | k + 1, v => s.replaced (substituted s k) v

def depthRemark (n : Int) : LogEntry where
  level := .warn
  category := .state
  message := s!"resolve_object nesting exceeds {n} levels; branch left unresolved"

/-- The notes about a value that is replaced as many levels down: about references by what is no
text, and about the parts that are left. -/
def remarks (s : Store) (n : Int) : Nat → Value → List LogEntry
  | 0, _ => [depthRemark n]
  | k + 1, v => (s.resolve v).notes ++ v.parts.flatMap (remarks s n k)

/-- A value in which there is something that cannot be replaced: a text that cannot be filled, or a
reference that is lost. -/
inductive Balks (s : Store) : Value → Prop where
  | text {text : String} (unfilled : s.Unfilled text) : Balks s (.str text)
  | reference {v : Value} (lost : s.Lost v) : Balks s v

/-- A value can be replaced as many levels down under a limit that can be shown if something lies
deeper. -/
structure Replaceable (s : Store) (n : Int) (k : Nat) (v : Value) : Prop where
  sound : ∀ d < k, ∀ w ∈ v.atDepth d, ¬s.Balks w
  shown : v.atDepth k ≠ [] → (Value.int n).holdsLong = false

section

variable {s : Store} {n : Int} {k depth : Nat} {v : Value}

theorem replaceable_zero : s.Replaceable n 0 v ↔ (Value.int n).holdsLong = false := by
  refine ⟨fun h => h.shown (by simp [Value.atDepth]), fun shown => ⟨?_, fun _ => shown⟩⟩
  intro d below
  exact absurd below (Nat.not_lt_zero d)

theorem replaceable_succ :
    s.Replaceable n (k + 1) v ↔ ¬s.Balks v ∧ ∀ p ∈ v.parts, s.Replaceable n k p := by
  constructor
  · rintro ⟨sound, shown⟩
    refine ⟨sound 0 (Nat.zero_lt_succ k) v (List.mem_singleton.2 rfl),
      fun p part => ⟨fun d below w deep => ?_, fun some => ?_⟩⟩
    · exact sound (d + 1) (Nat.succ_lt_succ below) w (Value.mem_atDepth_succ.2 ⟨p, part, deep⟩)
    · exact shown (Value.atDepth_succ_ne_nil_iff.2 ⟨p, part, some⟩)
  · rintro ⟨here, each⟩
    refine ⟨fun d below w deep => ?_, fun some => ?_⟩
    · cases d with
      | zero =>
        obtain rfl := List.mem_singleton.1 deep
        exact here
      | succ d =>
        obtain ⟨p, part, deep⟩ := Value.mem_atDepth_succ.1 deep
        exact (each p part).sound d (Nat.lt_of_succ_lt_succ below) w deep
    · obtain ⟨p, part, some⟩ := Value.atDepth_succ_ne_nil_iff.1 some
      exact (each p part).shown some

/-! ### One level of the resolution -/

def resolved (s : Store) (inner : Value → Noted Value) : Value → Noted Value
  | .str text => do return .str (← ofExcept (s.interpolate text))
  | .map m es =>
    if (Value.map m es).isReference then s.resolve (.map m es)
    else do return .ofEntries (← collect (fun e => do return (e.1, ← inner e.2)) es)
  | .list _ xs => do return .ofList (← collect inner xs)
  | .pair a b => do
    let a ← inner a
    return .ofList [a, ← inner b]
  | v => return v

theorem resolveItems_eq (limit : Value) (xs : List Value) :
    s.resolveItems limit depth xs = collect (s.resolveAll limit depth) xs := by
  induction xs with
  | nil => rfl
  | cons x xs ih => rw [resolveItems, collect, ih]

theorem resolveEntries_eq (limit : Value) (es : List (Key × Value)) :
    s.resolveEntries limit depth es = collect
      (fun e => do return (e.1, ← s.resolveAll limit depth e.2)) es := by
  induction es with
  | nil => rfl
  | cons e es ih =>
    rw [resolveEntries, collect, ih, map_bind]

theorem resolveAll_eq (s : Store) (limit : Value) (depth : Nat) (v : Value) :
    s.resolveAll limit depth v = withinLimit limit depth v
      (s.resolved (s.resolveAll limit (depth + 1)) v) := by
  cases v with
  | map m es => rw [resolveAll, resolved, resolveEntries_eq]
  | list m xs => rw [resolveAll, resolved, resolveItems_eq]
  | str text => rw [resolveAll, resolved]
  | pair a b => rw [resolveAll, resolved]
  | _ => rfl

theorem withinLimit_of_le (le : (depth : Int) ≤ n) (x : Noted Value) :
    withinLimit (.int n) depth v x = x := by
  rw [withinLimit, beyond_int, ofExcept_ok_bind, decide_eq_false (by omega)]
  rfl

theorem withinLimit_of_lt (lt : n < depth) (shown : (Value.int n).holdsLong = false)
    (x : Noted Value) : withinLimit (.int n) depth v x = ⟨.ok v, [depthRemark n]⟩ := by
  rw [withinLimit, beyond_int, ofExcept_ok_bind, decide_eq_true lt, Value.told, shown]
  rfl

theorem resolve_of_plain (plain : v.isReference = false) : s.resolve v = answer v := by
  cases v with
  | map m es =>
    have none : Entries.get? (.str "ref") es = none :=
      Option.isSome_eq_false_iff.1 plain |> Option.isNone_iff_eq_none.1
    rw [resolve, none]
  | _ => rfl

theorem resolve_of_reference {m : Nat} {es : List (Key × Value)}
    (reference : (Value.map m es).isReference = true) (sound : ¬s.Lost (.map m es)) :
    (s.resolve (.map m es)).result = .ok (s.referent es) := by
  rw [← resolve_fails_iff] at sound
  obtain ⟨v, answer⟩ := exists_answer sound
  obtain ⟨path, ref⟩ := Option.isSome_iff_exists.1 reference
  rw [answer]
  rw [resolve, ref] at answer
  rw [referent, ref]
  cases path with
  | str text =>
    replace answer : s.get text = .ok v := answer
    dsimp only
    rw [answer]
    rfl
  | _ =>
    obtain ⟨_, -, answer⟩ := bind_ok_iff.1 answer
    exact congrArg Except.ok (pure_ok_iff.1 answer).symm

theorem interpolate_of_filled {text : String} (sound : ¬s.Unfilled text) :
    s.interpolate text = .ok ((s.interpolate text).toOption.getD text) := by
  rw [← interpolate_fails_iff] at sound
  cases known : s.interpolate text with
  | ok filled => rfl
  | error e => exact absurd ⟨e, known⟩ sound

/-- A value that does not balk is replaced if its parts are, and leaves its own note, if any, before
theirs. -/
theorem resolved_eq {inner : Value → Noted Value} {g : Value → Value}
    {notes : Value → List LogEntry} (sound : ¬s.Balks v)
    (each : ∀ p ∈ v.parts, inner p = ⟨.ok (g p), notes p⟩) :
    s.resolved inner v = ⟨.ok (s.replaced g v), (s.resolve v).notes ++ v.parts.flatMap notes⟩ := by
  cases v with
  | str text =>
    rw [resolved, interpolate_of_filled fun unfilled => sound (.text unfilled), ofExcept_ok_bind]
    rfl
  | map m es =>
    rw [resolved, replaced]
    cases reference : (Value.map m es).isReference with
    | true =>
      rw [Value.parts_of_reference reference, List.flatMap_nil, List.append_nil,
        if_pos rfl, if_pos rfl,
        ← resolve_of_reference reference fun lost => sound (.reference lost)]
    | false =>
      rw [Value.parts_map reference, List.forall_mem_map] at each
      have entry : ∀ e ∈ es, (do return (e.1, ← inner e.2) : Noted (Key × Value)) =
          ⟨.ok (e.1, g e.2), notes e.2⟩ := by
        intro e member
        rw [each e member, mk_bind]
        simp [pure, answer]
      rw [collect_eq entry, resolve_of_plain reference, Value.parts_map reference, List.flatMap_map]
      simp [mk_bind, pure, answer]
  | list m xs =>
    replace each : ∀ x ∈ xs, inner x = ⟨.ok (g x), notes x⟩ := each
    rw [resolved, collect_eq each]
    simp [mk_bind, pure, answer, replaced, resolve, Value.parts]
  | pair a b =>
    rw [resolved, each a (by simp [Value.parts]), each b (by simp [Value.parts])]
    simp [mk_bind, pure, answer, replaced, resolve, Value.parts]
  | _ => rfl

theorem resolved_congr {f g : Value → Noted Value} (each : ∀ p ∈ v.parts, f p = g p) :
    s.resolved f v = s.resolved g v := by
  cases v with
  | map m es =>
    rw [resolved, resolved]
    split
    next => rfl
    next plain =>
      rw [Value.parts_map (eq_false_of_ne_true plain), List.forall_mem_map] at each
      rw [collect_congr fun e member => by rw [each e member]]
  | list m xs =>
    replace each : ∀ x ∈ xs, f x = g x := each
    rw [resolved, resolved, collect_congr each]
  | pair a b =>
    rw [resolved, resolved, each a (by simp [Value.parts]), each b (by simp [Value.parts])]
  | _ => rfl

/-- What can be replaced is replaced, with `k` levels left from here. -/
theorem resolveAll_of_replaceable (levels : k + depth = (n + 1).toNat)
    (replaceable : s.Replaceable n k v) :
    s.resolveAll (.int n) depth v = ⟨.ok (s.substituted k v), s.remarks n k v⟩ := by
  -- With each level down one level less is left.
  induction k generalizing depth v with
  | zero =>
    rw [resolveAll_eq, withinLimit_of_lt (by omega) (replaceable_zero.1 replaceable),
      substituted, remarks]
  | succ k ih =>
    obtain ⟨sound, each⟩ := replaceable_succ.1 replaceable
    rw [resolveAll_eq, withinLimit_of_le (by omega), substituted, remarks]
    exact resolved_eq sound fun p part => ih (by omega) (each p part)

/-! ### What is in the way -/

/-- Where every path can be followed, nothing balks but a reference by what cannot be shown, and a
text that takes in a value that has none. -/
theorem balks_iff (followed : ∀ path, ∃ w, s.get path = .ok w) :
    s.Balks v ↔ Untold v ∨ ∃ text inner u, v = .str text ∧
    .slot inner ∈ pieces 0 text.toList ∧ s.get (.ofList (Text.stripList inner)) = .ok u ∧
    u.Unwritten := by
  have sound (path : String) : ¬s.Trips path := by
    rw [← get_fails_iff]
    rintro ⟨e, failure⟩
    obtain ⟨w, found⟩ := followed path
    cases failure.symm.trans found
  constructor
  · rintro ((⟨-, trips⟩ | ⟨slot, found, bad⟩) | lost)
    · exact absurd trips (sound _)
    · exact Or.inr ⟨_, _, _, rfl, slot, found, bad⟩
    · rcases lost_iff.1 lost with ⟨_, _, path, -, -, trips⟩ | untold
      · exact absurd trips (sound path)
      · exact Or.inl untold
  · rintro (untold | ⟨text, inner, u, rfl, slot, found, bad⟩)
    · exact .reference (lost_iff.2 (Or.inr untold))
    · exact .text (.unwritten slot found bad)

/-- A value within the limit is kept from being resolved by itself or by one of its parts. -/
theorem hitch_iff {limit : Value} :
    s.Hitch limit depth v ↔ s.Balks v ∨ ∃ p ∈ v.parts, s.Unresolved limit (depth + 1) p := by
  constructor
  · rintro (unfilled | lost | ⟨plain, member, inner⟩ | ⟨member, inner⟩ | ⟨either, inner⟩)
    · exact Or.inl (.text unfilled)
    · exact Or.inl (.reference lost)
    · exact Or.inr ⟨_, by rw [Value.parts_map plain]; exact List.mem_map_of_mem member, inner⟩
    · exact Or.inr ⟨_, member, inner⟩
    · exact Or.inr ⟨_, by rcases either with rfl | rfl <;> simp [Value.parts], inner⟩
  · rintro ((unfilled | lost) | ⟨p, part, inner⟩)
    · exact .text unfilled
    · cases lost with
      | trips ref trips => exact .reference (.trips ref trips)
      | untold ref noText long => exact .reference (.untold ref noText long)
    · cases v with
      | map m es =>
        cases reference : (Value.map m es).isReference with
        | true =>
          rw [Value.parts_of_reference reference] at part
          cases part
        | false =>
          rw [Value.parts_map reference] at part
          obtain ⟨e, member, rfl⟩ := List.mem_map.1 part
          exact .entry reference member inner
      | list m xs => exact .item part inner
      | pair a b => exact .pair (by simpa [Value.parts] using part) inner
      | _ => cases part

theorem unresolved_iff (levels : k + depth = (n + 1).toNat) :
    s.Unresolved (.int n) depth v ↔ ¬s.Replaceable n k v := by
  induction k generalizing depth v with
  | zero =>
    have deep : beyond (.int n) depth = .ok true := by
      rw [beyond_int, decide_eq_true (by omega)]
    rw [replaceable_zero, Bool.not_eq_false]
    constructor
    · rintro (kind | ⟨-, long⟩ | ⟨within, -⟩)
      · cases deep.symm.trans kind
      · exact long
      · cases deep.symm.trans within
    · exact .untold deep
  | succ k ih =>
    have within : beyond (.int n) depth = .ok false := by
      rw [beyond_int, decide_eq_false (by omega)]
    have here : s.Unresolved (.int n) depth v ↔ s.Hitch (.int n) depth v := by
      constructor
      · rintro (kind | ⟨deep, -⟩ | ⟨-, hitch⟩)
        · cases within.symm.trans kind
        · cases within.symm.trans deep
        · exact hitch
      · exact .within within
    rw [here, hitch_iff, replaceable_succ, not_and_or, not_not]
    simp only [not_forall, exists_prop]
    exact or_congr_right (exists_congr fun p => and_congr_right fun _ => ih (by omega))

/-- There is an answer just if everything within the limit can be replaced. -/
theorem resolveAll_ok_iff (levels : k + depth = (n + 1).toNat) :
    (∃ w, (s.resolveAll (.int n) depth v).result = .ok w) ↔ s.Replaceable n k v := by
  constructor
  · rintro ⟨w, answer⟩
    refine Classical.byContradiction fun stuck => ?_
    obtain ⟨e, failure⟩ := (resolveAll_fails_iff s (.int n) depth v).2
      ((unresolved_iff levels).2 stuck)
    cases answer.symm.trans failure
  · intro replaceable
    rw [resolveAll_of_replaceable levels replaceable]
    exact ⟨_, rfl⟩

/-! ### Notes about the limit -/

theorem filter_resolve_notes (s : Store) (n : Int) (v : Value) :
    (s.resolve v).notes.filter (·.message = (depthRemark n).message) = [] := by
  refine List.filter_eq_nil_iff.2 fun e member same => ?_
  have heads := congrArg (·.toList.head?)
    ((leaves_pathNote v e member).symm.trans (of_decide_eq_true same))
  simp [depthRemark, toString] at heads

/-- Every part that is left leaves one note. -/
theorem filter_remarks (s : Store) (n : Int) (k : Nat) (v : Value) :
    (s.remarks n k v).filter (·.message = (depthRemark n).message) = List.replicate
      (v.atDepth k).length (depthRemark n) := by
  induction k generalizing v with
  | zero => simp [remarks, Value.atDepth]
  | succ k ih =>
    have each (ps : List Value) : ps.flatMap
        (fun p => List.replicate (p.atDepth k).length (depthRemark n)) =
        List.replicate (ps.flatMap (Value.atDepth k)).length (depthRemark n) := by
      induction ps with
      | nil => rfl
      | cons p ps ih =>
        rw [List.flatMap_cons, ih, List.replicate_append_replicate, List.flatMap_cons,
          List.length_append]
    rw [remarks, List.filter_append, filter_resolve_notes, List.nil_append, List.filter_flatMap,
      Value.atDepth]
    simp only [ih, each]

/-- Limits that a value does not go beyond make no difference. -/
theorem resolveAll_limit {m : Int} {j : Nat} (levels : k + depth = (n + 1).toNat)
    (levels' : j + depth = (m + 1).toNat) (low : v.atDepth k = []) (low' : v.atDepth j = []) :
    s.resolveAll (.int n) depth v = s.resolveAll (.int m) depth v := by
  induction k generalizing depth v j with
  | zero => cases low
  | succ k ih =>
    cases j with
    | zero => cases low'
    | succ j =>
      rw [Value.atDepth_succ_eq_nil_iff] at low low'
      rw [resolveAll_eq, resolveAll_eq, withinLimit_of_le (by omega), withinLimit_of_le (by omega)]
      exact resolved_congr fun p part => ih (by omega) (by omega) (low p part) (low' p part)

/-! ### The whole of a value -/

/-- What becomes of a value with references. If nothing within the limit is in the way, and only
then, there is an answer: all that lies within the limit is replaced, and each part that lies right
below it stays as it is, with one note. Where every path can be followed, only what cannot be shown
or written is in the way. A limit that the value does not go beyond makes no difference and leaves
no note, and in a session only the log changes. -/
theorem resolution_substitutes (s : Store) (n : Nat) {v : Value} (tree : v.isCyclic = false) :
    ((∃ w, (s.resolveWhole (.int n) v).result = .ok w) ↔ s.Replaceable n (n + 1) v) ∧
      (s.Replaceable n (n + 1) v →
        s.resolveWhole (.int n) v = ⟨.ok (s.substituted (n + 1) v), s.remarks n (n + 1) v⟩) ∧
      ((∀ path, ∃ w, s.get path = .ok w) → ∀ w, s.Balks w ↔
        Untold w ∨ ∃ text inner u, w = .str text ∧
        .slot inner ∈ pieces 0 text.toList ∧ s.get (.ofList (Text.stripList inner)) = .ok u ∧
        u.Unwritten) ∧
      (s.remarks n (n + 1) v).filter (·.message = (depthRemark n).message) =
        List.replicate (v.atDepth (n + 1)).length (depthRemark n) ∧
      (v.atDepth (n + 1) = [] → ∀ m : Nat, v.atDepth (m + 1) = [] →
        s.resolveWhole (.int m) v = s.resolveWhole (.int n) v) ∧
      ∀ (η : Type) (q : Session η), ∃ log,
        (Session.ask (fun t _ => t.resolveWhole (.int n) v) q).2 = { q with log } := by
  have whole (m : Int) : s.resolveWhole (.int m) v = s.resolveAll (.int m) 0 v := by
    rw [resolveWhole, tree]
    rfl
  have levels (m : Nat) : m + 1 + 0 = ((m : Int) + 1).toNat := by omega
  refine ⟨?_, ?_, fun followed w => balks_iff followed, filter_remarks s n (n + 1) v,
    fun low m low' => ?_, fun η q => ?_⟩
  · rw [whole]
    exact resolveAll_ok_iff (levels n)
  · rw [whole]
    exact resolveAll_of_replaceable (levels n)
  · rw [whole, whole]
    exact resolveAll_limit (levels m) (levels n) low' low
  · exact ⟨_, Session.ask_snd _ q⟩

def cupboard : Value :=
  .object [("door", .object [("ref", .str "nodes")]),
    ("shelf", .object [("box", .object [("ref", .str "nodes")])])]

theorem resolution_substitutes_cupboard :
    cupboard.isCyclic = false ∧ empty.resolveWhole (.int 1) cupboard =
    ⟨.ok (.object [("door", .map 5 []),
      ("shelf", .object [("box", .object [("ref", .str "nodes")])])]), [depthRemark 1]⟩ := by
  have answered : (empty.resolveWhole (.int 1) cupboard).result.toOption.isSome =
      true := by decide +kernel
  obtain ⟨ok, equal, -⟩ := resolution_substitutes empty 1 (v := cupboard) rfl
  refine ⟨rfl, equal (ok.1 ?_)⟩
  cases known : (empty.resolveWhole (.int 1) cupboard).result with
  | ok w => exact ⟨w, rfl⟩
  | error e =>
    rw [known] at answered
    cases answered

def riddle : Value := .object [("ref", .int (Nat.pow 10 4300))]

/-- A reference by what is no text is not replaced by nothing, but fails, where the note about it
cannot be shown. -/
theorem resolution_falters : (∀ path, ∃ w, empty.get path = .ok w) ∧ riddle.isCyclic = false ∧
    empty.substituted 65 riddle = .null ∧ (empty.resolveWhole (.int 64) riddle).result ≠
      .ok .null := by
  have long : (Value.int (Nat.pow 10 4300)).holdsLong = true := by decide +kernel
  refine ⟨@exists_get_ofGlobals [] nofun, rfl, rfl, fun answer => ?_⟩
  have replaceable : empty.Replaceable 64 65 riddle :=
    (resolveAll_ok_iff (Nat.add_zero 65)).1 ⟨_, answer⟩
  exact (replaceable_succ.1 replaceable).1 (.reference (.untold rfl nofun long))

end

end Store

end SceneCourse
