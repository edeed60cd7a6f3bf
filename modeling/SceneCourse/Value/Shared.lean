import SceneCourse.Value.Basic

/-!
Containers that are held at several places. `plain` is what a reader sees of a value; `copy` draws
new marks for its containers from a counter, and `copyTied` does so too but gives one mark to what
had one mark. Writing to a container is an `Edit` of its mark that all holders follow with `follow`.
In a container that holds itself, `within` opens a part by putting the container in the place of its
`again`, and `tie` closes a value again.
-/

namespace SceneCourse

/-- The number without the name that it is known again by. -/
def Binary64.nameless : Binary64 → Binary64
  | .nan _ => .nan 0
  | x => x

def Key.plain : Key → Key
  | .float x => .float x.nameless
  | k => k

/-- A key with a name for what is not a number and has none yet. -/
def Key.copy (next : Nat) : Key → Key × Nat
  | .float (.nan 0) => (.float (.nan next), next + 1)
  | k => (k, next)

theorem Key.plain_copy (next : Nat) (k : Key) : (k.copy next).1.plain = k.plain := by
  unfold copy
  split <;> rfl

namespace Value

mutual

/-- What a reader sees: the value without marks, and without names of what is not a number. -/
def plain : Value → Value
  | float x => float x.nameless
  | set ks => set (ks.map Key.plain)
  | pair a b => pair (plain a) (plain b)
  | list _ xs => list 0 (plainItems xs)
  | map _ es => map 0 (plainEntries es)
  | again _ b => again 0 b
  | v => v

def plainItems : List Value → List Value
  | [] => []
  | x :: xs => plain x :: plainItems xs

def plainEntries : List (Key × Value) → List (Key × Value)
  | [] => []
  | (k, v) :: es => (k.plain, plain v) :: plainEntries es

end

/-! ### Copies -/

mutual

/-- A copy whose containers have the marks from `next` on, with names for what is not a number; with
it the next free mark. -/
def copy (next : Nat) : Value → Value × Nat
  | float (.nan 0) => (float (.nan next), next + 1)
  | pair a b =>
    let (a, next) := copy next a
    let (b, next) := copy next b
    (pair a b, next)
  | list _ xs => let (ys, after) := copyItems (next + 1) xs; (list next ys, after)
  | map _ es => let (fs, after) := copyEntries (next + 1) es; (map next fs, after)
  | v => (v, next)

def copyItems (next : Nat) : List Value → List Value × Nat
  | [] => ([], next)
  | x :: xs =>
    let (y, next) := copy next x
    let (ys, next) := copyItems next xs
    (y :: ys, next)

def copyEntries (next : Nat) : List (Key × Value) → List (Key × Value) × Nat
  | [] => ([], next)
  | (k, v) :: es =>
    let (l, next) := k.copy next
    let (w, next) := copy next v
    let (fs, next) := copyEntries next es
    ((l, w) :: fs, next)

end

mutual

theorem plain_copy (next : Nat) (v : Value) : (copy next v).1.plain = v.plain := by
  cases v with
  | float x => unfold copy; split <;> simp_all [plain, Binary64.nameless]
  | pair a b => simp [copy, plain, plain_copy next a, plain_copy _ b]
  | list m xs => simp [copy, plain, plainItems_copyItems]
  | map m es => simp [copy, plain, plainEntries_copyEntries]
  | _ => rfl

theorem plainItems_copyItems (next : Nat) (xs : List Value) :
    plainItems (copyItems next xs).1 = plainItems xs := by
  cases xs with
  | nil => rfl
  | cons x xs => simp [copyItems, plainItems, plain_copy next x, plainItems_copyItems _ xs]

theorem plainEntries_copyEntries (next : Nat) (es : List (Key × Value)) :
    plainEntries (copyEntries next es).1 = plainEntries es := by
  cases es with
  | nil => rfl
  | cons e es =>
    simp [copyEntries, plainEntries, Key.plain_copy, plain_copy _ e.2,
      plainEntries_copyEntries _ es]

end

/-- A copy under way: the next free mark, and the marks that have been given to the copies of marked
containers. -/
structure Copying where
  next : Nat
  given : List (Nat × Nat) := []

/-- The mark for the copy of a container. -/
def Copying.markFor (c : Copying) (mark : Nat) : Nat × Copying :=
  match c.given.lookup mark with
  | some new => (new, c)
  | none => (c.next, ⟨c.next + 1, if mark = 0 then c.given else (mark, c.next) :: c.given⟩)

mutual

/-- A copy in which containers of one mark have one mark again. -/
def copyTied (c : Copying) : Value → Value × Copying
  | float (.nan 0) => (float (.nan c.next), { c with next := c.next + 1 })
  | pair a b =>
    let (a, c) := copyTied c a
    let (b, c) := copyTied c b
    (pair a b, c)
  | list m xs =>
    let (n, c) := c.markFor m
    let (ys, c) := copyTiedItems c xs
    (list n ys, c)
  | map m es =>
    let (n, c) := c.markFor m
    let (fs, c) := copyTiedEntries c es
    (map n fs, c)
  | again m b =>
    let (n, c) := c.markFor m
    (again n b, c)
  | v => (v, c)

def copyTiedItems (c : Copying) : List Value → List Value × Copying
  | [] => ([], c)
  | x :: xs =>
    let (y, c) := copyTied c x
    let (ys, c) := copyTiedItems c xs
    (y :: ys, c)

def copyTiedEntries (c : Copying) : List (Key × Value) → List (Key × Value) × Copying
  | [] => ([], c)
  | (k, v) :: es =>
    let (l, next) := k.copy c.next
    let (w, c) := copyTied { c with next } v
    let (fs, c) := copyTiedEntries c es
    ((l, w) :: fs, c)

end

mutual

theorem plain_copyTied (c : Copying) (v : Value) : (copyTied c v).1.plain = v.plain := by
  cases v with
  | float x => unfold copyTied; split <;> simp_all [plain, Binary64.nameless]
  | pair a b => simp [copyTied, plain, plain_copyTied c a, plain_copyTied _ b]
  | list m xs => simp [copyTied, plain, plainItems_copyTiedItems]
  | map m es => simp [copyTied, plain, plainEntries_copyTiedEntries]
  | again m b => rfl
  | _ => rfl

theorem plainItems_copyTiedItems (c : Copying) (xs : List Value) :
    plainItems (copyTiedItems c xs).1 = plainItems xs := by
  cases xs with
  | nil => rfl
  | cons x xs => simp [copyTiedItems, plainItems, plain_copyTied c x, plainItems_copyTiedItems _ xs]

theorem plainEntries_copyTiedEntries (c : Copying) (es : List (Key × Value)) :
    plainEntries (copyTiedEntries c es).1 = plainEntries es := by
  cases es with
  | nil => rfl
  | cons e es =>
    simp [copyTiedEntries, plainEntries, Key.plain_copy, plain_copyTied _ e.2,
      plainEntries_copyTiedEntries _ es]

end

mutual

/-- The value with all its marks moved up. -/
def shift (up : Nat) : Value → Value
  | pair a b => pair (shift up a) (shift up b)
  | list m xs => list (if m = 0 then 0 else m + up) (shiftItems up xs)
  | map m es => map (if m = 0 then 0 else m + up) (shiftEntries up es)
  | again m b => again (m + up) b
  | v => v

def shiftItems (up : Nat) : List Value → List Value
  | [] => []
  | x :: xs => shift up x :: shiftItems up xs

def shiftEntries (up : Nat) : List (Key × Value) → List (Key × Value)
  | [] => []
  | (k, v) :: es => (k, shift up v) :: shiftEntries up es

end

/-! ### Containers that hold themselves -/

mutual

/-- The value with a container in the place of its `again`. -/
def fill (container : Value) : Value → Value
  | again m b => if m = container.mark then container else again m b
  | pair a b => pair (fill container a) (fill container b)
  | list m xs => if m = container.mark then list m xs else list m (fillItems container xs)
  | map m es => if m = container.mark then map m es else map m (fillEntries container es)
  | v => v

def fillItems (container : Value) : List Value → List Value
  | [] => []
  | x :: xs => fill container x :: fillItems container xs

def fillEntries (container : Value) : List (Key × Value) → List (Key × Value)
  | [] => []
  | (k, v) :: es => (k, fill container v) :: fillEntries container es

end

/-- A part of a container as a value of its own. -/
def within (container part : Value) : Value :=
  if container.mark = 0 then part else fill container part

/-- A part of the containers `around`, the innermost one first, as a value of its own. -/
def partOf (around : List Value) (part : Value) : Value := around.foldl (fun v c => c.within v) part

@[simp] theorem partOf_nil (v : Value) : partOf [] v = v := rfl

/-- The containers around the parts of one; a container without a mark is in none of its parts. -/
def inside (around : List Value) (container : Value) : List Value :=
  if container.mark = 0 then around else container :: around

/-- The items of a list as values of their own. -/
def items (mark : Nat) (xs : List Value) : List Value := xs.map (within (list mark xs))

/-- The entries of a mapping with values of their own. -/
def entries (mark : Nat) (es : List (Key × Value)) : List (Key × Value) :=
  es.map fun (k, v) => (k, within (map mark es) v)

theorem within_of_mark_eq_zero {c : Value} (h : c.mark = 0) (v : Value) : c.within v = v :=
  by simp [within, h]

@[simp] theorem items_zero (xs : List Value) : items 0 xs = xs := by
  have h : (list 0 xs).within = id := funext (within_of_mark_eq_zero rfl)
  simp [items, h]

@[simp] theorem entries_zero (es : List (Key × Value)) : entries 0 es = es := by
  have h (v : Value) : (map 0 es).within v = v := within_of_mark_eq_zero rfl v
  simp [entries, h]

mutual

/-- Closes a value that lies inside containers with the marks `around`: where one of them comes
back, `again` stands. -/
def tieIn (around : List Nat) : Value → Value
  | pair a b => pair (tieIn around a) (tieIn around b)
  | list m xs =>
    if m = 0 then list 0 (tieItems around xs)
    else if around.contains m then again m false
    else list m (tieItems (m :: around) xs)
  | map m es =>
    if m = 0 then map 0 (tieEntries around es)
    else if around.contains m then again m true
    else map m (tieEntries (m :: around) es)
  | v => v

def tieItems (around : List Nat) : List Value → List Value
  | [] => []
  | x :: xs => tieIn around x :: tieItems around xs

def tieEntries (around : List Nat) : List (Key × Value) → List (Key × Value)
  | [] => []
  | (k, v) :: es => (k, tieIn around v) :: tieEntries around es

end

/-- The value with `again` wherever a container would come back inside itself. -/
def tie (v : Value) : Value := v.tieIn []

/-- The value opened as many levels down. -/
def unroll : Nat → Value → Value
  | 0, v => v
  | n + 1, list m xs => list m ((items m xs).map (unroll n))
  | n + 1, map m es => map m ((entries m es).map fun (k, v) => (k, unroll n v))
  | n + 1, pair a b => pair (unroll n a) (unroll n b)
  | _ + 1, v => v

mutual

/-- Whether some container in the value holds itself. -/
def isCyclic : Value → Bool
  | again _ _ => true
  | pair a b => isCyclic a || isCyclic b
  | list _ xs => anyCyclic xs
  | map _ es => anyCyclicEntry es
  | _ => false

def anyCyclic : List Value → Bool
  | [] => false
  | x :: xs => isCyclic x || anyCyclic xs

def anyCyclicEntry : List (Key × Value) → Bool
  | [] => false
  | (_, v) :: es => isCyclic v || anyCyclicEntry es

end

mutual

/-- A value in which no container holds itself has no place to put one. -/
theorem fill_of_isCyclic_eq_false (c v : Value) (h : v.isCyclic = false) : fill c v = v := by
  cases v with
  | again m b => simp [isCyclic] at h
  | pair a b =>
    simp only [isCyclic, Bool.or_eq_false_iff] at h
    rw [fill, fill_of_isCyclic_eq_false c a h.1, fill_of_isCyclic_eq_false c b h.2]
  | list m xs => rw [fill, fillItems_of_anyCyclic_eq_false c xs h, ite_self]
  | map m es => rw [fill, fillEntries_of_anyCyclicEntry_eq_false c es h, ite_self]
  | _ => rfl

theorem fillItems_of_anyCyclic_eq_false (c : Value) (xs : List Value) (h : anyCyclic xs = false) :
    fillItems c xs = xs := by
  cases xs with
  | nil => rfl
  | cons x xs =>
    simp only [anyCyclic, Bool.or_eq_false_iff] at h
    rw [fillItems, fill_of_isCyclic_eq_false c x h.1, fillItems_of_anyCyclic_eq_false c xs h.2]

theorem fillEntries_of_anyCyclicEntry_eq_false (c : Value) (es : List (Key × Value))
    (h : anyCyclicEntry es = false) : fillEntries c es = es := by
  cases es with
  | nil => rfl
  | cons e es =>
    obtain ⟨k, v⟩ := e
    simp only [anyCyclicEntry, Bool.or_eq_false_iff] at h
    rw [fillEntries, fill_of_isCyclic_eq_false c v h.1,
      fillEntries_of_anyCyclicEntry_eq_false c es h.2]

end

/-- The parts of such a container are values of their own as they are. -/
theorem within_of_isCyclic_eq_false (c v : Value) (h : v.isCyclic = false) : c.within v = v := by
  rw [within, fill_of_isCyclic_eq_false c v h, ite_self]

theorem isCyclic_of_mem {es : List (Key × Value)} (h : anyCyclicEntry es = false) {e : Key × Value}
    (member : e ∈ es) : e.2.isCyclic = false := by
  induction es with
  | nil => cases member
  | cons f es ih =>
    simp only [anyCyclicEntry, Bool.or_eq_false_iff] at h
    rcases List.mem_cons.1 member with rfl | later
    · exact h.1
    · exact ih h.2 later

theorem isCyclic_of_mem_items {xs : List Value} (h : anyCyclic xs = false) {x : Value}
    (member : x ∈ xs) : x.isCyclic = false := by
  induction xs with
  | nil => cases member
  | cons y xs ih =>
    simp only [anyCyclic, Bool.or_eq_false_iff] at h
    rcases List.mem_cons.1 member with rfl | later
    · exact h.1
    · exact ih h.2 later

theorem entries_of_anyCyclicEntry_eq_false (m : Nat) {es : List (Key × Value)}
    (acyclic : anyCyclicEntry es = false) : entries m es = es := by
  rw [entries, List.map_congr_left (g := id), List.map_id]
  rintro ⟨k, v⟩ member
  exact congrArg (Prod.mk k) (within_of_isCyclic_eq_false _ v (isCyclic_of_mem acyclic member))

theorem items_of_anyCyclic_eq_false (m : Nat) {xs : List Value} (acyclic : anyCyclic xs = false) :
    items m xs = xs := by
  rw [items, List.map_congr_left (g := id), List.map_id]
  exact fun v member => within_of_isCyclic_eq_false _ v (isCyclic_of_mem_items acyclic member)

/-! ### Edits -/

/-- The container with a mark now is `now`. -/
structure Edit where
  mark : Nat
  now : Value
  deriving Repr

mutual

/-- The same value after an edit, wherever it holds the edited container. -/
def follow (e : Edit) : Value → Value
  | pair a b => pair (follow e a) (follow e b)
  | list m xs => if m = e.mark ∧ m ≠ 0 then e.now else list m (followItems e xs)
  | map m es => if m = e.mark ∧ m ≠ 0 then e.now else map m (followEntries e es)
  | v => v

def followItems (e : Edit) : List Value → List Value
  | [] => []
  | x :: xs => follow e x :: followItems e xs

def followEntries (e : Edit) : List (Key × Value) → List (Key × Value)
  | [] => []
  | (k, v) :: es => (k, follow e v) :: followEntries e es

end

/-- The same value after one edit after the other. -/
def followAll (es : List Edit) (v : Value) : Value := es.foldl (fun v e => v.follow e) v

end Value

end SceneCourse
