import SceneCourse.Value.Basic
import SceneCourse.Yaml.Merge

/-!
What the nodes of a document stand for. A collection stands for a container that is there before its
parts are: the containers wait in the order in which they were met, and each in turn is filled with
what its parts stand for. So of several faults the one in an outer container is told, and of those
in one container the first. A container that has several holders gets a mark, and where it comes
back inside itself stands `again`.
-/

namespace SceneCourse.Yaml

/-- What a node stands for; parts are named by their nodes. -/
inductive Object where
  | leaf (value : Value)
  | list (items : List Nat)
  | map (entries : Entries Nat)
  | set (entries : Entries Nat)
  | pairs (pairs : List (Nat × Nat))

namespace Object

def key? : Object → Option Key
  | leaf v => v.key?
  | _ => none

/-- The empty container that a tag asks for. -/
def ofTag? : Tag → Option Object
  | .seq => some (.list [])
  | .map => some (.map [])
  | .set => some (.set [])
  | .pairs => some (.pairs [])
  | _ => none

/-- The nodes, what those met so far stand for, and the collections among these in the order of
their meeting. -/
structure Building where
  nodes : Array Node
  objects : Array (Option Object)
  collections : Array Nat := #[]

abbrev Builder := StateT Building Scanned

def node (id : Nat) : Builder Node := do return (← get).nodes.getD id Node.nothing

def put (id : Nat) (o : Object) : Builder Unit :=
  modify fun b => { b with objects := b.objects.setIfInBounds id o }

/-! ### Scalars -/

/-- The text of a scalar, or of the scalar that a mapping stands for. -/
def textOf : Nat → Nat → Builder String
  | 0, _ => throw (.badContent .tooDeep)
  | fuel + 1, id => do
    match ← node id with
    | .scalar _ text => return text
    | .seq _ _ => throw .badSyntax
    | .map _ ps =>
      let nodes := (← get).nodes
      match ps.find? fun (k, _) => (nodes.getD k Node.nothing).tag == .default with
      | some (_, v) => textOf fuel v
      | none => throw .badSyntax

/-- The value of a node whose tag is that of a scalar. Only of a scalar itself can a moment be
read. -/
def scalar (id : Nat) : Builder Value := do
  let text ← textOf ((← get).nodes.size + 1) id
  match ← node id with
  | .map .timestamp _ => throw (.badContent (.wrongKind "finding parts" "list"))
  | n => n.tag.scalarValue text

/-- What a node stands for: of a collection, a container that waits to be filled. -/
def ofNode (id : Nat) : Builder Object := do
  match (← get).objects.getD id none with
  | some o => return o
  | none =>
    let o ← match ofTag? (← node id).tag with
      | some o => do
        modify fun b => { b with collections := b.collections.push id }
        pure o
      | none => do pure (leaf (← scalar id))
    put id o
    return o

/-! ### Containers -/

/-- The entries that pairs write. Of a key written twice the last value counts, at the place of the
first. -/
def entriesOf (ps : List (Nat × Nat)) : Builder (Entries Nat) :=
  ps.foldlM (fun es (k, v) => do
    match (← ofNode k).key? with
    | none => throw .badSyntax
    | some key =>
      let _ ← ofNode v
      return es.set key v) []

/-- The entries of a mapping with those that it merges. -/
def entriesAt (id : Nat) : Builder (Entries Nat) := do
  match ← node id with
  | .map _ _ =>
    let ((), nodes) ← (Node.flatten id).run (← get).nodes
    modify fun b => { b with nodes }
    entriesOf (← node id).pairList
  | _ => throw .badSyntax

def itemsAt (id : Nat) : Builder (List Nat) := do
  match ← node id with
  | .seq _ items => return items
  | _ => throw .badSyntax

/-- The pair that a mapping with one pair writes. -/
def pairAt (id : Nat) : Builder (Nat × Nat) := do
  match ← node id with
  | .map _ [(k, v)] =>
    let _ ← ofNode k
    let _ ← ofNode v
    return (k, v)
  | _ => throw .badSyntax

/-- Fills the container that a collection stands for. -/
def fill (id : Nat) : Builder Unit := do
  match (← node id).tag with
  | .seq =>
    let items ← itemsAt id
    for i in items do
      let _ ← ofNode i
    put id (.list items)
  | .map => put id (.map (← entriesAt id))
  | .set => put id (.set (← entriesAt id))
  | .pairs => put id (.pairs (← (← itemsAt id).mapM pairAt))
  | _ => return ()

/-- Fills the containers from the one with this number on; no more wait than there are nodes. -/
def fillFrom : Nat → Nat → Builder Unit
  | 0, _ => return ()
  | fuel + 1, i => do
    match (← get).collections[i]? with
    | none => return ()
    | some id =>
      fill id
      fillFrom fuel (i + 1)

/-- What all nodes of a document stand for. -/
def ofGraph (g : Node.Graph) : Scanned (Array (Option Object)) := do
  let start : Building := { nodes := g.nodes, objects := Array.replicate g.nodes.size none }
  let (_, b) ← (do let _ ← ofNode g.root; fillFrom (g.nodes.size + 1) 0 : Builder Unit).run start
  return b.objects

/-! ### Values -/

/-- The value that a node stands for, inside the containers of the nodes `around`, each with the
mark that `mark` gives it. A node comes up once among those around it, so the levels are at most as
many as the nodes. -/
def valueIn (objects : Array (Option Object)) (mark : Nat → Nat) : Nat → List Nat → Nat → Value
  | 0, _, _ => .null
  | fuel + 1, around, id =>
    let part := valueIn objects mark fuel (id :: around)
    match objects.getD id none with
    | none => .null
    | some (leaf v) => v
    | some (set es) => .set (es.map (·.1))
    | some (list items) =>
      if around.contains id then .again (mark id) false else .list (mark id) (items.map part)
    | some (pairs ps) =>
      if around.contains id then .again (mark id) false
      else .list (mark id) (ps.map fun (k, v) => .pair (part k) (part v))
    | some (map es) =>
      if around.contains id then .again (mark id) true
      else .map (mark id) (es.map fun (k, v) => (k, part v))

/-- The value of a document. With a reference in it containers have marks, the greatest one at the
root. -/
def value (g : Node.Graph) : Scanned Value := do
  let objects ← ofGraph g
  let mark id := if g.referred then g.nodes.size - id else 0
  return valueIn objects mark (g.nodes.size + 1) [] g.root

end Object

end SceneCourse.Yaml
