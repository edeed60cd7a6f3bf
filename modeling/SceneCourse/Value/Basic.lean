import SceneCourse.Number.Decimal
import SceneCourse.Value.Moment

/-!
Values of course documents: null, truth values, integers of any size, binary64 numbers, text, lists,
and mappings that remember the order in which their keys were first written; YAML documents may also
hold moments, bytes, sets and pairs. `Entries` is the list behind a mapping; its two operations are
`get?` and `set`, and a repeated `set` of a key keeps the key's place.

Lists and mappings can be changed while they are held at several places, so they carry a mark: what
has one mark is one thing, and the mark 0 is for what a single holder can reach. A container that
holds itself has an `again` with its own mark in that place.
-/

namespace SceneCourse

/-- A key of a mapping. Documents in which every key is a text are the rule. -/
inductive Key where
  | null
  | bool (b : Bool)
  | int (n : Int)
  | float (x : Binary64)
  | str (s : String)
  | moment (t : Moment)
  | bytes (bs : List UInt8)
  deriving DecidableEq, Repr, Inhabited

/-- The place of a number on the extended line; truth values count as 0 and 1. -/
def Key.number? : Key → Option Binary64.Extended
  | .bool b => some (.at (if b then 1 else 0))
  | .int n => some (.at n)
  | .float x => x.extended?
  | _ => none

/-- Two keys that name the same entry: numbers by their value, everything else by what it is. -/
def Key.same (k l : Key) : Bool :=
  match k, l with
  | .str s, .str t => s == t
  | .null, .null => true
  | .moment s, .moment t => s.same t
  | .bytes a, .bytes b => a == b
  | .float (.nan n), .float (.nan m) => n == m && n != 0
  | k, l => match k.number?, l.number? with
    | some a, some b => a == b
    | _, _ => false

@[simp] theorem Key.same_str (s t : String) : Key.same (.str s) (.str t) = (s == t) := rfl

theorem Key.same_str_iff {k : Key} {s : String} : k.same (.str s) = true ↔ k = .str s := by
  constructor
  · intro h
    cases k <;> simp_all [Key.same, Key.number?]
  · rintro rfl
    exact beq_self_eq_true s

/-! ### Entries -/

/-- The entries of a mapping, in the order in which their keys were first written. -/
abbrev Entries (α : Type) := List (Key × α)

namespace Entries

variable {α β : Type}

def get? (k : Key) : Entries α → Option α
  | [] => none
  | (l, v) :: es => if l.same k then some v else get? k es

/-- Writes an entry: at the place of its key if there is one, at the end otherwise. -/
def set (k : Key) (v : α) : Entries α → Entries α
  | [] => [(k, v)]
  | (l, w) :: es => if l.same k then (l, v) :: es else (l, w) :: set k v es

def contains (k : Key) (es : Entries α) : Bool := (es.get? k).isSome

/-- One write after the other. -/
def setAll (news es : Entries α) : Entries α := news.foldl (fun es (k, v) => es.set k v) es

/-- The entries whose keys are texts, in order. -/
def texts : Entries α → List (String × α)
  | [] => []
  | (.str s, v) :: es => (s, v) :: texts es
  | _ :: es => texts es

theorem get?_set_str_self (s : String) (v : α) (es : Entries α) :
    (es.set (.str s) v).get? (.str s) = some v := by
  induction es with
  | nil => simp [set, get?]
  | cons e es ih =>
    obtain ⟨l, w⟩ := e
    by_cases h : l.same (.str s) <;> simp [set, get?, h, ih]

theorem get?_set_str_of_ne {s t : String} (h : s ≠ t) (v : α) (es : Entries α) :
    (es.set (.str s) v).get? (.str t) = es.get? (.str t) := by
  induction es with
  | nil => simp [set, get?, h]
  | cons e es ih =>
    obtain ⟨l, w⟩ := e
    by_cases hs : l.same (.str s)
    · obtain rfl := Key.same_str_iff.1 hs
      simp [set, get?, h]
    · by_cases ht : l.same (.str t) <;> simp [set, get?, hs, ht, ih]

end Entries

/-! ### Values -/

inductive Value where
  | null
  | bool (b : Bool)
  | int (n : Int)
  | float (x : Binary64)
  | str (s : String)
  | moment (t : Moment)
  | bytes (bs : List UInt8)
  | set (items : List Key)
  | pair (first second : Value)
  | list (mark : Nat) (items : List Value)
  | map (mark : Nat) (entries : List (Key × Value))
  /-- The container with this mark, a mapping or else a list, that this is a part of. -/
  | again (mark : Nat) (mapping : Bool)
  deriving Repr, Inhabited

def Key.value : Key → Value
  | .null => .null
  | .bool b => .bool b
  | .int n => .int n
  | .float x => .float x
  | .str s => .str s
  | .moment t => .moment t
  | .bytes bs => .bytes bs

namespace Value

/-- The key that a value makes; containers make none. -/
def key? : Value → Option Key
  | .null => some .null
  | .bool b => some (.bool b)
  | .int n => some (.int n)
  | .float x => some (.float x)
  | .str s => some (.str s)
  | .moment t => some (.moment t)
  | .bytes bs => some (.bytes bs)
  | .pair .. | .set _ | .list .. | .map .. | .again .. => none

/-- A list that nobody else holds. -/
def ofList (items : List Value) : Value := .list 0 items

/-- A mapping that nobody else holds. -/
def ofEntries (entries : List (Key × Value)) : Value := .map 0 entries

/-- A mapping with texts as keys. -/
def object (fields : List (String × Value)) : Value :=
  .ofEntries (fields.map fun (s, v) => (.str s, v))

def emptyMap : Value := .ofEntries []

/-- The mark of a container, 0 for everything else. -/
def mark : Value → Nat
  | .list m _ | .map m _ => m
  | _ => 0

/-- The entry of a mapping under a text key. -/
def field? (v : Value) (name : String) : Option Value :=
  match v with
  | .map _ es => Entries.get? (.str name) es
  | _ => none

/-- Everything but null, false, zero and what is empty. -/
def truthy : Value → Bool
  | .null => false
  | .bool b => b
  | .int n => n != 0
  | .float x => !x.isZero
  | .str s => s != ""
  | .bytes bs => !bs.isEmpty
  | .set ks => !ks.isEmpty
  | .list _ xs => !xs.isEmpty
  | .map _ es => !es.isEmpty
  | .moment _ | .pair .. | .again .. => true

/-- The name of a value's kind, as messages give it. -/
def kindName : Value → String
  | .null => "NoneType"
  | .bool _ => "bool"
  | .int _ => "int"
  | .float _ => "float"
  | .str _ => "str"
  | .moment t => t.kindName
  | .bytes _ => "bytes"
  | .set _ => "set"
  | .pair .. => "tuple"
  | .list .. | .again _ false => "list"
  | .map .. | .again _ true => "dict"

/-- The place of a number on the extended line; truth values count as 0 and 1. -/
def number? : Value → Option Binary64.Extended
  | .bool b => some (.at (if b then 1 else 0))
  | .int n => some (.at n)
  | .float x => x.extended?
  | _ => none

/-- Integers and binary64 numbers, but not truth values. -/
def isNumber : Value → Bool
  | .int _ | .float _ => true
  | _ => false

end Value

end SceneCourse
