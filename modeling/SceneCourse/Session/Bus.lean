import SceneCourse.Value.Basic

/-!
Subscriptions. A listener is registered for one kind of event or for all; registering it again
changes nothing, and the registered ones keep the order in which each last came in. No kind keeps an
empty list.
-/

namespace SceneCourse

/-- A party that events are told to: the course itself, or a listener of the host by its name. -/
inductive Listener where
  | course
  | host (name : String)
  deriving DecidableEq, Repr

/-- The name of a listener, as messages give it. -/
def Listener.name : Listener → String
  | .course => "_dispatch"
  | .host name => name

/-- What a listener is registered for: the events of one kind, or all. -/
structure Subscription where
  kind : Option Key
  listener : Listener
  deriving Repr

/-- What a bus can be asked to do with subscriptions. A listener leaves in the same way whether the
host names it or calls what it got when it registered the listener. -/
inductive Bus.Operation where
  | enter (sub : Subscription)
  | leave (sub : Subscription)
  | clear
  deriving Repr

structure Bus where
  byKind : Entries (List Listener) := []
  forAll : List Listener := []
  /-- What the bus was asked to do so far, the latest first. This is history: nothing depends on
  it. -/
  asked : List Bus.Operation := []
  deriving Repr

namespace Bus

/-- Adds a listener at the end, unless it is there. -/
def enter (l : Listener) (ls : List Listener) : List Listener :=
  if ls.contains l then ls else ls ++ [l]

/-- The listeners of a kind. -/
def listeners (b : Bus) (kind : Key) : List Listener := (b.byKind.get? kind).getD []

/-- The bus with one operation more in its history. -/
def record (b : Bus) (op : Operation) : Bus := { b with asked := op :: b.asked }

def on (b : Bus) (kind : Key) (l : Listener) : Bus :=
  { b with byKind := b.byKind.set kind (enter l (b.listeners kind)) }.record (.enter ⟨some kind, l⟩)

def onAll (b : Bus) (l : Listener) : Bus :=
  { b with forAll := enter l b.forAll }.record (.enter ⟨none, l⟩)

def off (b : Bus) (kind : Key) (l : Listener) : Bus :=
  match (b.listeners kind).erase l with
  | [] =>
    { b with byKind := b.byKind.filter fun (k, _) => !k.same kind }.record (.leave ⟨some kind, l⟩)
  | ls => { b with byKind := b.byKind.set kind ls }.record (.leave ⟨some kind, l⟩)

def offAll (b : Bus) (l : Listener) : Bus :=
  { b with forAll := b.forAll.erase l }.record (.leave ⟨none, l⟩)

/-- Ends all subscriptions. -/
def clear (b : Bus) : Bus := { b with byKind := [], forAll := [] }.record .clear

def perform (b : Bus) : Operation → Bus
  | .enter ⟨some kind, l⟩ => b.on kind l
  | .enter ⟨none, l⟩ => b.onAll l
  | .leave ⟨some kind, l⟩ => b.off kind l
  | .leave ⟨none, l⟩ => b.offAll l
  | .clear => b.clear

/-- How many listeners a kind has. -/
def count (b : Bus) (kind : Key) : Nat := (b.listeners kind).length

/-- How many registrations there are in all. -/
def total (b : Bus) : Nat := b.forAll.length + (b.byKind.flatMap (·.2)).length

end Bus

end SceneCourse
