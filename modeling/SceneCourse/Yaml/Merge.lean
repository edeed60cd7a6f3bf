import SceneCourse.Yaml.Node

/-!
Mappings that merge others into themselves. The pairs of what is merged stand in front of a
mapping's own pairs, so that the mapping's own pairs win. `flatten` does this in the graph of the
nodes, where everything that holds the mapping sees it; a mapping may be among those that it merges.
-/

namespace SceneCourse.Yaml

namespace Node

def tag : Node → Tag
  | .scalar t _ | .seq t _ | .map t _ => t

def retag (tag : Tag) : Node → Node
  | .scalar _ text => .scalar tag text
  | .seq _ items => .seq tag items
  | .map _ pairs => .map tag pairs

/-- The pairs of a mapping; other nodes have none. -/
def pairList : Node → List (Nat × Nat)
  | .map _ pairs => pairs
  | _ => []

def setPairs (pairs : List (Nat × Nat)) : Node → Node
  | .map tag _ => .map tag pairs
  | n => n

@[simp] theorem tag_retag (t : Tag) (n : Node) : (n.retag t).tag = t := by cases n <;> rfl

@[simp] theorem pairList_retag (t : Tag) (n : Node) : (n.retag t).pairList = n.pairList :=
  by cases n <;> rfl

@[simp] theorem pairList_setPairs (pairs : List (Nat × Nat)) (t : Tag) (old : List (Nat × Nat)) :
    ((Node.map t old).setPairs pairs).pairList = pairs := rfl

/-- Changes to nodes that may find them unfit. -/
abbrev Change := StateT (Array Node) Scanned

def nodeAt (id : Nat) : Change Node := do return (← getThe (Array Node)).getD id nothing

def change (id : Nat) (f : Node → Node) : Change Unit := modifyThe (Array Node) (·.modify id f)

/-- The pairs of a node after `flat` has worked on it. Nothing but mappings can be merged. -/
def flatPairs (flat : Nat → Change Unit) (id : Nat) : Change (List (Nat × Nat)) := do
  match ← nodeAt id with
  | .map _ _ => do
    flat id
    return (← nodeAt id).pairList
  | _ => throw .badSyntax

/-- The pairs that a mapping merges: those of a mapping, or those of several, the last one first. -/
def mergedPairs (flat : Nat → Change Unit) (id : Nat) : Change (List (Nat × Nat)) := do
  match ← nodeAt id with
  | .seq _ items => return (← items.mapM (flatPairs flat)).reverse.flatten
  | _ => flatPairs flat id

/-- Goes over pairs of a mapping, after its pairs `done`, and gives what they merge. A pair that
merges is no longer in the mapping while its value is worked on; when that has worked on this
mapping too, none is left. -/
def takeMerged (flat : Nat → Change Unit) (id : Nat) (done : List (Nat × Nat)) :
    List (Nat × Nat) → Change (List (Nat × Nat))
  | [] => return []
  | (k, v) :: rest => do
    match (← nodeAt k).tag with
    | .merge =>
      change id (setPairs (done ++ rest))
      let here ← mergedPairs flat v
      if (← nodeAt id).pairList != done ++ rest then return here
      return here ++ (← takeMerged flat id done rest)
    | .default =>
      change k (retag .str)
      takeMerged flat id (done ++ [(k, v)]) rest
    | _ => takeMerged flat id (done ++ [(k, v)]) rest

/-- Puts the pairs that a mapping merges in front of its own. Every mapping that this goes into has
lost a pair on the way there, so there are no more levels than pairs. -/
def flattenIn : Nat → Nat → Change Unit
  | 0, _ => throw .badSyntax
  | fuel + 1, id => do
    let merged ← takeMerged (flattenIn fuel) id [] (← nodeAt id).pairList
    change id fun n => n.setPairs (merged ++ n.pairList)

def flatten (id : Nat) : Change Unit := do
  let pairs := (← getThe (Array Node)).foldl (fun n node => n + node.pairList.length) 0
  flattenIn (pairs + 1) id

end Node

end SceneCourse.Yaml
