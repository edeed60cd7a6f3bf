import SceneCourse.Fault
import SceneCourse.State.Path
import SceneCourse.Value.Shared

/-!
The state of a running course: a mapping with the tiers `globals`, `scene` and `nodes`, and whatever
else was written to it. A write through a dotted path makes the mappings that are missing on the way
and replaces what is no mapping. What is written is kept as it is, and every operation tells the
edits that other holders of the changed containers have to follow. In a store that is `shared` a
container may stand at several places, also inside itself, and a write changes it at all of them. A
store that is not shared is given trees of its own only.
-/

namespace SceneCourse

open Value (Edit)

namespace Value

/-- The value at the end of a path, null where the path leads nowhere. Digits address the items of a
list; digits that are not decimal are refused there. -/
def lookup : Value → List String → Except Fault Value
  | v, [] => .ok v
  | map _ es, s :: rest =>
    match Entries.get? (.str s) es with
    | none | some null => .ok null
    | some v => v.lookup rest
  | list _ xs, s :: rest =>
    if isIndexText s then
      match Numeral.integer s with
      | .error cause => .error (.badValue (.integer cause))
      | .ok i =>
        match xs[i.toNat]? with
        | none | some null => .ok null
        | some v => v.lookup rest
    else .ok null
  | _, _ :: _ => .ok null

/-- The value with the containers on a path opened. -/
def along : List String → Value → Value
  | s :: rest, map m es =>
    map m ((entries m es).map fun (k, v) => (k, if k.same (.str s) then along rest v else v))
  | _ :: rest, list m xs => list m ((items m xs).map (along rest))
  | _, v => v

end Value

/-- The state and the next mark for a new container. -/
structure Store where
  tiers : List (Key × Value)
  next : Nat
  shared : Bool := false
  deriving Repr, Inhabited

namespace Store

/-- The store, which may be given anything from now on. -/
def share (s : Store) : Store := { s with shared := true }

/-- The empty tiers, with the marks from `next` on. -/
def emptyTiers (next : Nat) : List (Key × Value) :=
  [(.str "globals", .map next [(.str "vars", .map (next + 1) [])]),
    (.str "scene", .map (next + 2) [(.str "vars", .map (next + 3) [])]),
    (.str "nodes", .map (next + 4) [])]

def empty : Store := { tiers := emptyTiers 1, next := 6 }

/-- The whole state as one value; nobody but the store holds it. -/
def root (s : Store) : Value := .map 0 s.tiers

/-! ### Paths -/

/-- The state with the containers on a path opened. -/
def opened (s : Store) (segs : List String) : Value :=
  if s.shared then s.root.along segs else s.root

/-- The value at a path, null where there is none. -/
def get (s : Store) (path : String) : Except Fault Value :=
  (s.opened (segments path)).lookup (segments path)

/-- A value under new mappings, one for each segment. -/
def nest (next : Nat) : List String → Value → Value
  | [], v => v
  | s :: rest, v => .map next [(.str s, nest (next + 1) rest v)]

/-- The entries of a mapping with a value written at a path below it, and the edit of the deepest
mapping on the path that was there before. -/
def write (next : Nat) (mark : Nat) (es : List (Key × Value)) :
    List String → Value → List (Key × Value) × Edit
  | [], _ => (es, ⟨mark, .map mark es⟩)
  | s :: rest, v =>
    match rest, Entries.get? (.str s) es with
    | _ :: _, some (.map m fs) =>
      let (gs, edit) := write next m fs rest v
      (Entries.set (.str s) (.map m gs) es, edit)
    | _, _ =>
      let es := Entries.set (.str s) (nest next rest v) es
      (es, ⟨mark, .map mark es⟩)

/-- What a write along a path of keys makes of the entries of the state where nothing else holds the
edited mapping, and the edit of that mapping. -/
def drafted (s : Store) (segs : List String) (v : Value) : List (Key × Value) × Edit :=
  match s.opened segs with
  | .map _ es => write s.next 0 es segs v
  | _ => (s.tiers, ⟨0, s.root⟩)

/-- The entries of the state after an edit below it, at all places. -/
def afterEdit (s : Store) (written : List (Key × Value)) (edit : Edit) : List (Key × Value) :=
  Value.tieEntries [] (if edit.mark = 0 then written else Value.followEntries edit s.tiers)

/-- The store after an edit. -/
def edited (s : Store) (written : List (Key × Value)) (edit : Edit) : Store :=
  { s with tiers := if s.shared then s.afterEdit written edit else written }

/-- Writes a value along a path of keys. -/
def place (s : Store) (segs : List String) (v : Value) : Store × List Edit :=
  let (written, edit) := s.drafted segs v
  ({ s.edited written edit with next := s.next + segs.length }, [edit])

/-- Writes a value at a path. -/
def set (s : Store) (path : String) (v : Value) : Store × List Edit := s.place (segments path) v

/-- Takes a value into the store, as a copy without a place yet. -/
def adopt (s : Store) (v : Value) : Value × Store :=
  if s.shared then
    let (w, c) := v.copyTied { next := s.next }
    (w, { s with next := c.next })
  else
    let (w, next) := v.copy s.next
    (w, { s with next })

/-- Takes entries into the store, as copies without a place yet. -/
def adoptEntries (s : Store) (es : List (Key × Value)) : List (Key × Value) × Store :=
  if s.shared then
    let (fs, c) := Value.copyTiedEntries { next := s.next } es
    (fs, { s with next := c.next })
  else
    let (fs, next) := Value.copyEntries s.next es
    (fs, { s with next })

/-- The entries of a mapping in the store, as values of their own. -/
def ownEntries (s : Store) (mark : Nat) (es : List (Key × Value)) : List (Key × Value) :=
  if s.shared then Value.entries mark es else es

/-- A value as its holder sees it after some edits, with its parts as values of their own. -/
def ownParts (s : Store) (edits : List Edit) (v : Value) : Value :=
  if s.shared then (v.followAll edits).tie.unroll 1 else v

/-! ### Tiers -/

/-- The entry of a mapping, as a value of its own. -/
def part (v : Value) (name : String) : Except Fault Value :=
  match v with
  | .map m es =>
    match Entries.get? (.str name) es with
    | some w => .ok ((Value.map m es).within w)
    | none => .error (.noEntry (.str name))
  | v => .error (.wrongKind "taking an entry" v.kindName)

def tier (s : Store) (name : String) : Except Fault Value := part s.root name

def globalVars (s : Store) : Except Fault Value := do part (← s.tier "globals") "vars"

def sceneVars (s : Store) : Except Fault Value := do part (← s.tier "scene") "vars"

/-- The entries of the tier `nodes`, which must be a mapping, and its mark. -/
def nodeEntries (s : Store) : Except Fault (Nat × List (Key × Value)) :=
  match s.tier "nodes" with
  | .ok (.map m es) => .ok (m, es)
  | .ok v => .error (.noOperation "entries" v.kindName)
  | .error e => .error e

/-- The state of a node; an empty mapping when there is nothing in its place. -/
def nodeState (s : Store) (id : String) : Except Fault Value := do
  let (m, nodes) ← s.nodeEntries
  let v := (Entries.get? (.str id) (s.ownEntries m nodes)).getD .null
  return if v.truthy then v else .emptyMap

def setTier (s : Store) (name : String) (v : Value) : Store :=
  { s with tiers := Entries.set (.str name) v s.tiers }

/-- Puts a value in the place of a node's state. No mapping is missing on the way there. -/
def setNodeState (s : Store) (id : String) (v : Value) : Except Fault (Store × List Edit) :=
  match s.tier "nodes" with
  | .ok (.map _ _) =>
    let (t, edits) := s.place ["nodes", id] v
    .ok ({ t with next := s.next }, edits)
  | .ok w => .error (.wrongKind "setting an entry" w.kindName)
  | .error e => .error e

/-- The mapping that is a node's state, if there is one: its mark, and its entries as values of
their own. -/
def nodeMapping? (s : Store) (id : String) : Option (Nat × List (Key × Value)) :=
  match s.nodeEntries with
  | .ok (m, nodes) =>
    match Entries.get? (.str id) (s.ownEntries m nodes) with
    | some (.map n es) => some (n, s.ownEntries n es)
    | _ => none
  | .error _ => none

/-! ### Merging -/

/-- The pair of a key and a value that an item of a list stands for. -/
def pairOf (index : Nat) : Value → Except Fault (Key × Value)
  | .list _ [k, v] =>
    match k.key? with
    | some k => .ok (k, v)
    | none => .error (.wrongKind "being a key" k.kindName)
  | .list _ xs => .error (.badValue (.pair index xs.length))
  | .str s =>
    match s.toList with
    | [a, b] => .ok (.str a.toString, .str b.toString)
    | cs => .error (.badValue (.pair index cs.length))
  | .map _ [(k, _), (l, _)] => .ok (k, l.value)
  | .map _ es => .error (.badValue (.pair index es.length))
  | v => .error (.wrongKind "being a pair" v.kindName)

/-- The pairs of a list up to the first item that is none, and the fault of that one. -/
def pairsOf : Nat → List Value → List (Key × Value) × Option Fault
  | _, [] => ([], none)
  | i, v :: vs =>
    match pairOf i v with
    | .ok p => let (ps, fault) := pairsOf (i + 1) vs; (p :: ps, fault)
    | .error e => ([], some e)

/-- The entries that merging a value writes, in order, and the fault that stops it. A mapping gives
its entries, a list its items as pairs. -/
def mergePairs : Value → List (Key × Value) × Option Fault
  | .map _ es => (es, none)
  | .list _ vs => pairsOf 0 vs
  | .str s => pairsOf 0 (s.toList.map fun c => .str c.toString)
  | v => ([], some (.wrongKind "merging" v.kindName))

/-- Puts an empty mapping in the place of a node's state that is none. -/
def makeNode (s : Store) (id : String) : Store × List Edit :=
  match s.nodeMapping? id with
  | some _ => (s, [])
  | none => { s with next := s.next + 1 }.place ["nodes", id] (.map s.next [])

/-- Writes entries into the mapping that is a node's state. -/
def mergeNode (s : Store) (id : String) (news : List (Key × Value)) : Store × List Edit :=
  match s.nodeMapping? id with
  | some (n, es) =>
    let now : Value := .map n (Entries.setAll news es)
    (s.edited (s.drafted ["nodes", id] now).1 ⟨n, now⟩, [⟨n, now⟩])
  | none => (s, [])

/-- Merges the updates into a node's state, which becomes a mapping first if it was none. What comes
before a fault in the updates has been written; where there are no nodes, nothing is. -/
def updateNodeState (s : Store) (id : String) (updates : Value) :
    Except Fault (Store × List Edit × Option Fault) :=
  match s.nodeEntries with
  | .ok _ =>
    let (t, made) := s.makeNode id
    let (news, fault) := mergePairs (t.ownParts made updates)
    let (t, merged) := t.mergeNode id news
    .ok (t, made ++ merged, fault)
  | .error e => .error e

/-- Merges copies of the updates into a node's state. -/
def adoptUpdates (s : Store) (id : String) (updates : Value) :
    Except Fault (Store × List Edit × Option Fault) :=
  let (pairs, fault) := mergePairs (s.ownParts [] updates)
  let (news, t) := s.adoptEntries pairs
  (t.updateNodeState id (.ofEntries news)).map fun (t, edits, _) => (t, edits, fault)

/-! ### Lifecycle -/

/-- Empties the tiers of the scene and its nodes. -/
def resetScene (s : Store) : Store :=
  let t := s.setTier "scene" (.map s.next [(.str "vars", .map (s.next + 1) [])])
  { t.setTier "nodes" (.map (s.next + 2) []) with next := s.next + 3 }

def reset (s : Store) : Store := { tiers := emptyTiers s.next, next := s.next + 5 }

/-- The empty tiers overwritten with a copy of a snapshot. -/
def restore (s : Store) (snapshot : Value) : Except Fault Store :=
  match mergePairs (s.ownParts [] snapshot) with
  | (_, some e) => .error e
  | (pairs, none) =>
    let (news, t) := { s with next := s.next + 5 }.adoptEntries pairs
    let tiers := Entries.setAll news (emptyTiers s.next)
    .ok { t with tiers := if s.shared then Value.tieEntries [] tiers else tiers }

/-- A store that starts with some state; nothing stands for the empty state. It may be given
anything. -/
def ofInitial (initial : Value) : Except Fault Store :=
  if initial.truthy then empty.share.restore initial else .ok empty.share

end Store

end SceneCourse
