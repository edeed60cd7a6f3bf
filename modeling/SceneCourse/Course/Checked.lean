import SceneCourse.Fault
import SceneCourse.Json.Reader
import SceneCourse.Number.Lenient
import SceneCourse.Value.Shared

/-!
Reading records out of values. A reading ends well, or with all complaints in the order of the
record's fields, or it stops outright at a fault that is no complaint. Readings combine as an
applicative: complaints add up. The parts of a container are read as values of their own, so what is
kept of them can be told without the container.
-/

namespace SceneCourse

inductive Checked (α : Type) where
  | ok (a : α)
  | faulty (complaints : List Complaint)
  | stopped (fault : Fault)

namespace Checked

variable {α β γ : Type}

def map (f : α → β) : Checked α → Checked β
  | ok a => ok (f a)
  | faulty cs => faulty cs
  | stopped k => stopped k

/-- Both readings, the first one first. -/
def both (x : Checked α) (y : Checked β) : Checked (α × β) :=
  match x, y with
  | stopped k, _ => stopped k
  | _, stopped k => stopped k
  | ok a, ok b => ok (a, b)
  | faulty cs, ok _ => faulty cs
  | ok _, faulty ds => faulty ds
  | faulty cs, faulty ds => faulty (cs ++ ds)

instance : Functor Checked := ⟨map, fun a => map fun _ => a⟩

instance : Applicative Checked where
  pure := ok
  seq f x := (both f (x ())).map fun (f, a) => f a

/-- The same reading with its complaints placed one step further in. -/
def inside (p : Place) : Checked α → Checked α
  | faulty cs => faulty (cs.map fun c => { c with place := p :: c.place })
  | x => x

def complain (d : Defect) : Checked α := faulty [⟨[], d⟩]

/-- A reading of a whole record as the result of an operation. -/
def toExcept (record : String) : Checked α → Except Fault α
  | ok a => .ok a
  | faulty cs => .error (.malformed record cs)
  | stopped e => .error e

/-- A reading inside another one: what refuses a value for what it is becomes a complaint there. -/
def ofExcept : Except Fault α → Checked α
  | .ok a => ok a
  | .error (.malformed _ cs) => faulty cs
  | .error (.badValue cause) => complain (.refused cause.message)
  | .error e => stopped e

end Checked

/-- Something that is given as a value that writes it, or as what has been read already. -/
inductive Given (α : Type) where
  | raw (v : Value)
  | parsed (a : α)

/-- What is given, read if that is still to be done. -/
def Given.read {α : Type} (ofValue : Value → Except Fault α) : Given α → Except Fault α
  | raw v => ofValue v
  | parsed a => .ok a

/-! ### Plain fields -/

/-- The text that bytes are in UTF-8. -/
def readBytes (bs : List UInt8) : Checked String :=
  match String.fromUTF8? ⟨bs.toArray⟩ with
  | some s => .ok s
  | none => .complain .notUnicode

namespace Value

def readText : Value → Checked String
  | .str s => .ok s
  | .bytes bs => readBytes bs
  | _ => .complain .notText

def readOptionalText : Value → Checked (Option String)
  | .null => .ok none
  | v => (readText v).map some

end Value

/-- The place of an entry by its key. -/
def Key.place : Key → Place
  | .str s => .field s
  | .int n => if n.natAbs < 0x8000000000000000 then .item n else .field (toString n)
  | .bool b => .item (if b then 1 else 0)
  | k => .field k.literal

/-- The complaint about a key that is no text, inside its entry. -/
def Key.complaint? : Key → Option Complaint
  | .str _ => none
  | .bytes bs =>
    match readBytes bs with
    | .ok _ => none
    | _ => some ⟨[.field "[key]"], .notUnicode⟩
  | _ => some ⟨[.field "[key]"], .notText⟩

namespace Value

/-- A complaint for every key that is no text, placed under that key. -/
def keyComplaints (complaint? : Key → Option Complaint) : List (Key × Value) → List Complaint
  | [] => []
  | (k, _) :: es =>
    match complaint? k with
    | none => keyComplaints complaint? es
    | some c => { c with place := k.place :: c.place } :: keyComplaints complaint? es

/-- The entries under texts, where bytes count as the texts that they are. -/
def textEntries (es : List (Key × Value)) : List (String × Value) :=
  if es.any fun (k, _) => k matches .bytes _ then
    Entries.texts (Entries.setAll (es.map fun (k, v) => match k with
      | .bytes bs => (.str ((String.fromUTF8? ⟨bs.toArray⟩).getD ""), v)
      | k => (k, v)) [])
  else Entries.texts es

/-- A mapping from texts to any values. -/
def readTextMap : Value → Checked (List (String × Value))
  | .map m es =>
    match keyComplaints Key.complaint? es with
    | [] => .ok (textEntries (entries m es))
    | cs => .faulty cs
  | _ => .complain .notMapping

/-- The items of a list, or of what counts as one. -/
def items? : Value → Option (List Value)
  | .list m vs => some (items m vs)
  | .set ks => some (ks.map Key.value)
  | _ => none

/-- The items of a list, each read with its place. -/
def readItems {α : Type} (read : Value → Checked α) : Nat → List Value → Checked (List α)
  | _, [] => .ok []
  | i, v :: vs => (· :: ·) <$> (read v).inside (.item i) <*> readItems read (i + 1) vs

def readList {α : Type} (read : Value → Checked α) (v : Value) : Checked (List α) :=
  match v.items? with
  | some vs => readItems read 0 vs
  | none => .complain .notList

def readOptionalList {α : Type} (read : Value → Checked α) : Value → Checked (Option (List α))
  | .null => .ok none
  | v => (readList read v).map some

/-! ### Numbers -/

/-- A binary64 number as an integer; beyond 64 bits none is made. -/
def floatInteger (x : Binary64) : Checked Int :=
  match x.toInt? with
  | some n => if n.natAbs < 0x8000000000000000 then .ok n else .complain .integerTooLarge
  | none => if x.toRat?.isSome then .complain .fractional else .complain .notFinite

/-- An integer, or what stands for one: a truth value, a binary64 number without a fraction, a
text. -/
def readInteger : Value → Checked Int
  | .int n => .ok n
  | .bool b => .ok (if b then 1 else 0)
  | .float x => floatInteger x
  | .str s =>
    match Lenient.integer s with
    | .written n => .ok n
    | .tooLong => .complain .integerTooLarge
    | .noInteger => .complain .noIntegerText
  | _ => .complain .notInteger

end Value

/-- An integer or a binary64 number. -/
inductive Amount where
  | int (n : Int)
  | float (x : Binary64)
  deriving DecidableEq, Repr

def Amount.value : Amount → Value
  | .int n => .int n
  | .float x => .float x

/-- Two complaints, one for each kind of number. -/
def Amount.complain (i f : Defect) : Checked Amount :=
  .faulty [⟨[.field "int"], i⟩, ⟨[.field "float"], f⟩]

/-- The number that a text writes: an integer if it can be one. -/
def Amount.ofText (s : String) : Checked Amount :=
  match Lenient.integer s, Lenient.float? s with
  | .written n, _ => .ok (.int n)
  | _, some x => .ok (.float x)
  | .tooLong, none => Amount.complain .integerTooLarge .noFloatText
  | .noInteger, none => Amount.complain .noIntegerText .noFloatText

/-- A number of either kind stays as it is; a truth value or a text becomes an integer if it can. -/
def Value.readAmount : Value → Checked Amount
  | .int n => .ok (.int n)
  | .float x => .ok (.float x)
  | .bool b => .ok (.int (if b then 1 else 0))
  | .str s => Amount.ofText s
  | .bytes bs =>
    match readBytes bs with
    | .ok s => Amount.ofText s
    | _ => Amount.complain .noIntegerText .noFloatText
  | _ => Amount.complain .notInteger .notFloat

/-! ### Fields of a record -/

/-- Other values for the same fields. -/
def mapFields (f : Value → Value) (fields : List (String × Value)) : List (String × Value) :=
  fields.map fun (k, v) => (k, f v)

/-- A field under the first of its names that the entries have. -/
def findField (es : List (Key × Value)) : List String → Option (String × Value)
  | [] => none
  | name :: names =>
    match Entries.get? (.str name) es with
    | some v => some (name, v)
    | none => findField es names

/-- A field that must be there; without it the complaint is placed under its first name. -/
def requiredField {α : Type} (es : List (Key × Value)) (names : List String)
    (read : Value → Checked α) : Checked α :=
  match findField es names with
  | some (name, v) => (read v).inside (.field name)
  | none => (Checked.complain .missing).inside (.field (names.headD ""))

/-- A field that may be left out. -/
def optionalField {α : Type} (es : List (Key × Value)) (names : List String) (absent : α)
    (read : Value → Checked α) : Checked α :=
  match findField es names with
  | some (name, v) => (read v).inside (.field name)
  | none => .ok absent

/-- The entries of a record that no field has taken. A field takes the entry under the name it was
found by. -/
def extraEntries (es : List (Key × Value)) (fields : List (List String)) : List (Key × Value) :=
  let taken := fields.filterMap fun names => (findField es names).map (·.1)
  es.filter fun (k, _) => match k with
    | .str s => !taken.contains s
    | _ => true

/-- The complaint about a key that is no name. -/
def Key.notName? : Key → Option Complaint
  | .str _ => none
  | _ => some ⟨[], .badKey⟩

/-- The kept entries that no field has taken; their keys must be texts. -/
def readExtras (es : List (Key × Value)) (fields : List (List String)) :
    Checked (List (String × Value)) :=
  let extras := extraEntries es fields
  match Value.keyComplaints Key.notName? extras with
  | [] => .ok (Entries.texts extras)
  | cs => .faulty cs

/-- A record read out of the entries of a mapping. -/
def Value.readRecord {α : Type} (read : List (Key × Value) → Checked α) : Value → Checked α
  | .map m es => read (entries m es)
  | _ => .complain .notRecord

end SceneCourse
