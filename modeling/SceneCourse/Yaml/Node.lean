import SceneCourse.Yaml.Tag
import SceneCourse.Yaml.Token

/-!
The nodes that the tokens of a text write. Nodes have numbers and name their parts by them, so that
a reference is one more mention of a number and a collection may hold itself; every node has its
tag. A text holds one document at most, and none when it is empty; an anchor is used once.
-/

namespace SceneCourse.Yaml

inductive Node where
  | scalar (tag : Tag) (text : String)
  | seq (tag : Tag) (items : List Nat)
  | map (tag : Tag) (pairs : List (Nat × Nat))

namespace Node

/-- What stands where nothing is written. -/
def nothing : Node := .scalar .null ""

/-- What is still to be read, the nodes and anchors so far, and whether there has been a
reference. -/
structure Reading where
  tokens : List Token
  nodes : Array Node := #[]
  anchors : List (String × Nat) := []
  referred : Bool := false

abbrev Reader := StateT Reading Scanned

def fail {α : Type} : Reader α := throw .badSyntax

/-- The next token; none at the end. -/
def peek : Reader (Option Token) := do
  match (← get).tokens.head? with
  | some (.unread problem) => throw problem
  | t => return t

def drop : Reader Unit := modify fun r => { r with tokens := r.tokens.drop 1 }

/-- The node that an anchor is for. -/
def anchored (name : String) : Reader Nat := do
  match (← get).anchors.lookup name with
  | some id =>
    modify fun r => { r with referred := true }
    return id
  | none => fail

/-- Takes up a node under the next number. -/
def add (node : Node) : Reader Nat :=
  modifyGet fun r => (r.nodes.size, { r with nodes := r.nodes.push node })

/-- Takes up a node with an anchor, which no node before has. -/
def addAnchored (anchor : Option String) (node : Node) : Reader Nat := do
  match anchor with
  | none => add node
  | some name =>
    if ((← get).anchors.lookup name).isSome then fail
    let id ← add node
    modify fun r => { r with anchors := (name, id) :: r.anchors }
    return id

/-- A collection that is taken up before its parts are read. -/
def addWith {α : Type} (anchor : Option String) (make : List α → Node) (read : Reader (List α)) :
    Reader Nat := do
  let id ← addAnchored anchor (make [])
  let parts ← read
  modify fun r => { r with nodes := r.nodes.setIfInBounds id (make parts) }
  return id

/-! ### Tags -/

/-- The beginnings of tags that handles stand for. -/
abbrev Spaces := List (String × String)

def standardSpaces : Spaces := [("!", "!"), ("!!", Tag.standardSpace)]

def fullTag (spaces : Spaces) : TagName → Reader String
  | .full name => pure name
  | .short handle rest =>
    match spaces.lookup handle with
    | some space => pure (space ++ rest)
    | none => fail

/-- The tag of a scalar. A lone mark asks for the implied tag even of a quoted text. -/
def scalarTag (tag : Option String) (text : String) (plain : Bool) : Tag :=
  match tag with
  | some "!" => Tag.implied text
  | some name => Tag.ofName name
  | none => if plain then Tag.implied text else .str

def collectionTag (tag : Option String) (usual : Tag) : Tag :=
  match tag with
  | none | some "!" => usual
  | some name => Tag.ofName name

/-- The anchor and the tag before a node, in either order. -/
def properties (spaces : Spaces) : Reader (Option String × Option String) := do
  match ← peek with
  | some (.anchor name) =>
    drop
    match ← peek with
    | some (.tag t) => do drop; return (some name, some (← fullTag spaces t))
    | _ => return (some name, none)
  | some (.tag t) =>
    drop
    match ← peek with
    | some (.anchor name) => do drop; return (some name, some (← fullTag spaces t))
    | _ => return (none, some (← fullTag spaces t))
  | _ => return (none, none)

/-! ### Nodes -/

/-- Where a node is looked for. Only in a block may block collections start, and only as a value of
a block mapping may a sequence stand at the column of the mapping. -/
inductive Position where
  | flow | block | value
  deriving DecidableEq

mutual

def read (spaces : Spaces) : Nat → Position → Reader Nat
  | 0, _ => fail
  | fuel + 1, position => do
    match ← peek with
    | some (.reference name) => do drop; anchored name
    | _ => do
      let (anchor, tag) ← properties spaces
      content spaces fuel position anchor tag

/-- A node after its anchor and its tag. -/
def content (spaces : Spaces) : Nat → Position → Option String → Option String → Reader Nat
  | 0, _, _, _ => fail
  | fuel + 1, position, anchor, tag => do
    let seq := addWith anchor (Node.seq (collectionTag tag .seq))
    let map := addWith anchor (Node.map (collectionTag tag .map))
    match ← peek, position with
    | some .entry, .value => seq (openEntries spaces fuel)
    | some (.scalar text plain), _ => do drop; addAnchored anchor (.scalar (scalarTag tag text plain) text)
    | some .flowSequence, _ => seq do drop; flowItems spaces fuel true
    | some .flowMapping, _ => map do drop; flowPairs spaces fuel true
    | some .blockSequence, .block | some .blockSequence, .value => seq do drop; entries spaces fuel
    | some .blockMapping, .block | some .blockMapping, .value => map do drop; pairs spaces fuel
    | _, _ =>
      if anchor.isSome || tag.isSome then addAnchored anchor (.scalar (scalarTag tag "" true) "") else fail

/-- The entries of a block sequence, up to its end. -/
def entries (spaces : Spaces) : Nat → Reader (List Nat)
  | 0 => fail
  | fuel + 1 => do
    match ← peek with
    | some .entry => do
      drop
      let node ← match ← peek with
        | some .entry | some .blockEnd => add nothing
        | _ => read spaces fuel .block
      return node :: (← entries spaces fuel)
    | some .blockEnd => do drop; return []
    | _ => fail

/-- The entries of a sequence that has no end of its own. -/
def openEntries (spaces : Spaces) : Nat → Reader (List Nat)
  | 0 => fail
  | fuel + 1 => do
    match ← peek with
    | some .entry => do
      drop
      let node ← match ← peek with
        | some .entry | some .key | some .value | some .blockEnd => add nothing
        | _ => read spaces fuel .block
      return node :: (← openEntries spaces fuel)
    | _ => return []

/-- A key or a value of a block mapping, which may be left out. -/
def part (spaces : Spaces) : Nat → Reader Nat
  | 0 => fail
  | fuel + 1 => do
    match ← peek with
    | some .key | some .value | some .blockEnd => add nothing
    | _ => read spaces fuel .value

/-- The pairs of a block mapping, up to its end. -/
def pairs (spaces : Spaces) : Nat → Reader (List (Nat × Nat))
  | 0 => fail
  | fuel + 1 => do
    match ← peek with
    | some .key => do
      drop
      let key ← part spaces fuel
      let value ← match ← peek with
        | some .value => do drop; part spaces fuel
        | _ => add nothing
      return (key, value) :: (← pairs spaces fuel)
    | some .blockEnd => do drop; return []
    | _ => fail

/-- A key in brackets after its mark, and its value; both may be left out. -/
def flowPair (spaces : Spaces) : Nat → Reader (Nat × Nat)
  | 0 => fail
  | fuel + 1 => do
    let key ← match ← peek with
      | some .value | some .comma | some .flowSequenceEnd | some .flowMappingEnd => add nothing
      | _ => read spaces fuel .flow
    let value ← match ← peek with
      | some .value => do
        drop
        match ← peek with
        | some .comma | some .flowSequenceEnd | some .flowMappingEnd => add nothing
        | _ => read spaces fuel .flow
      | _ => add nothing
    return (key, value)

/-- The items of a sequence in brackets, up to its end. A key among them starts a mapping of one
pair. -/
def flowItems (spaces : Spaces) : Nat → Bool → Reader (List Nat)
  | 0, _ => fail
  | fuel + 1, first => do
    match ← peek with
    | some .flowSequenceEnd => do drop; return []
    | next => do
      if !first then
        match next with
        | some .comma => drop
        | _ => fail
      match ← peek with
      | some .flowSequenceEnd => do drop; return []
      | some .key => do
        let node ← addWith none (Node.map .map) do drop; return [← flowPair spaces fuel]
        return node :: (← flowItems spaces fuel false)
      | _ => do
        let node ← read spaces fuel .flow
        return node :: (← flowItems spaces fuel false)

/-- The pairs of a mapping in braces, up to its end. A node alone is a key without a value. -/
def flowPairs (spaces : Spaces) : Nat → Bool → Reader (List (Nat × Nat))
  | 0, _ => fail
  | fuel + 1, first => do
    match ← peek with
    | some .flowMappingEnd => do drop; return []
    | next => do
      if !first then
        match next with
        | some .comma => drop
        | _ => fail
      match ← peek with
      | some .flowMappingEnd => do drop; return []
      | some .key => do
        drop
        let pair ← flowPair spaces fuel
        return pair :: (← flowPairs spaces fuel false)
      | _ => do
        let key ← read spaces fuel .flow
        let value ← add nothing
        return (key, value) :: (← flowPairs spaces fuel false)

end

/-! ### Documents -/

/-- More steps than the tokens can need. -/
def enough (ts : List Token) : Nat := 4 * ts.length + 8

def readRoot (spaces : Spaces) : Reader Nat := do read spaces (enough (← get).tokens) .block

/-- The spaces that directives name, with the standard ones behind them. The version may be told
once. -/
def directives : Nat → (versioned : Bool) → Spaces → Reader Spaces
  | 0, _, _ => fail
  | fuel + 1, versioned, spaces => do
    match ← peek with
    | some (.directive d) =>
      drop
      match d with
      | .version major => if versioned || major != 1 then fail else directives fuel true spaces
      | .tagSpace handle space =>
        if (spaces.lookup handle).isSome then fail else
          directives fuel versioned (spaces ++ [(handle, space)])
      | .other => directives fuel versioned spaces
    | _ => return spaces ++ standardSpaces

/-- The directives before a document, and the mark of its start, which must not be left out after
them. -/
def beginning : Reader Spaces := do
  let spaces ← directives (enough (← get).tokens) false []
  match ← peek with
  | some .documentStart => do drop; return spaces
  | _ => fail

/-- A document. What follows the mark of its start may be empty. -/
def document : Reader Nat := do
  match ← peek with
  | some (.directive _) | some .documentStart =>
    let spaces ← beginning
    match ← peek with
    | none | some (.directive _) | some .documentStart | some .documentEnd => add nothing
    | _ => readRoot spaces
  | _ => readRoot standardSpaces

/-- Nothing but marks of a document's end up to the end of the text. -/
def ending : Nat → Reader Unit
  | 0 => fail
  | fuel + 1 => do
    match ← peek with
    | none => return ()
    | some .documentEnd => do drop; ending fuel
    | _ => do let _ ← beginning; fail

/-- The one document that a text holds: the number of its root; none for an empty text. -/
def root : Reader (Option Nat) := do
  match ← peek with
  | none => return none
  | _ =>
    let id ← document
    ending (enough (← get).tokens)
    return some id

/-- The nodes of a document. -/
structure Graph where
  root : Nat
  nodes : Array Node
  /-- Whether some node is mentioned again. -/
  referred : Bool

/-- The document that tokens write, or nothing. -/
def ofTokens (ts : List Token) : Scanned Graph := do
  let (root, r) ← root.run { tokens := ts }
  match root with
  | some root => return ⟨root, r.nodes, r.referred⟩
  | none => return ⟨0, #[nothing], false⟩

end Node

end SceneCourse.Yaml
