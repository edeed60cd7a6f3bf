import SceneCourse.Proofs.HeldDocument

/-! Values that are put into a tree, one after the other, and are put in again as they stand
afterwards. A value may have changed meanwhile, since later values were put below it. Proved: if
every value is put in as it was the first time, or as it stands in the end at its place, unless a
later one takes the place or a place above it, then the tree becomes the same one, with its keys in
the same order. -/

namespace SceneCourse

/-- Neither of two rows leads to the other. -/
def Diverge {α : Type} (p q : List α) : Prop := ¬p <+: q ∧ ¬q <+: p

instance {α : Type} [DecidableEq α] (p q : List α) : Decidable (Diverge p q) :=
  inferInstanceAs (Decidable (_ ∧ _))

theorem Diverge.symm {α : Type} {p q : List α} (h : Diverge p q) : Diverge q p := ⟨h.2, h.1⟩

theorem Diverge.above {α : Type} {p q c : List α} (h : Diverge p q) (above : c <+: q)
    (passed : ¬c <+: p) : Diverge p c := ⟨fun down => h.1 (down.trans above), passed⟩

namespace Entries

variable {α : Type} {s t : String} {v w : α} {es : Entries α}

theorem set_set (s : String) (v w : α) (es : Entries α) :
    (es.set (.str s) w).set (.str s) v = es.set (.str s) v := by
  induction es with
  | nil => simp [set]
  | cons e es ih =>
    obtain ⟨l, u⟩ := e
    by_cases here : l.same (.str s) = true <;> simp [set, here, ih]

/-- Writing what stands there already changes nothing. -/
theorem set_of_get? (found : es.get? (.str s) = some v) : es.set (.str s) v = es := by
  induction es with
  | nil => cases found
  | cons e es ih =>
    obtain ⟨l, u⟩ := e
    rw [get?] at found
    rw [set]
    split at found
    next here =>
      obtain rfl := Option.some.inj found
      rw [if_pos here]
    next other => rw [if_neg other, ih found]

/-- Writes under different texts can be made in either order where one of the two is a key
already. -/
theorem set_comm (other : s ≠ t) (there : (es.get? (.str s)).isSome) (v w : α) :
    (es.set (.str t) w).set (.str s) v = (es.set (.str s) v).set (.str t) w := by
  induction es with
  | nil => cases there
  | cons e es ih =>
    obtain ⟨l, u⟩ := e
    rw [get?] at there
    by_cases mine : l = .str s
    · subst mine
      simp [set, other]
    · have apart : ¬l.same (.str s) = true := mt Key.same_str_iff.1 mine
      rw [if_neg apart] at there
      by_cases yours : l.same (.str t) = true <;> simp [set, apart, yours, ih there]

end Entries

namespace Value

/-! ### Putting a value at a path -/

def fields : Value → List (Key × Value)
  | map _ es => es
  | _ => []

/-- The value with another one put at a path of texts. What is no mapping on the way is replaced by
one. -/
def put : List String → Value → Value → Value
  | [], w, _ => w
  | s :: path, w, v =>
    map (if v.isMapping then v.mark else 0)
      (Entries.set (.str s) (put path w ((Entries.get? (.str s) v.fields).getD null)) v.fields)

variable {u v x y : Value} {p q r : List String} {s : String}

theorem under_cons_put (s : String) (w : Value) : (put (s :: p) w v).under (s :: q) =
    (put p w ((Entries.get? (.str s) v.fields).getD null)).under q := by
  rw [put, under, Entries.get?_set_str_self, Option.bind_some]

theorem under_put (p : List String) (x u : Value) : (put p x u).under p = some x := by
  induction p generalizing u with
  | nil => rfl
  | cons s p ih => rw [under_cons_put, ih]

/-- Where anything stands below a value, the value is a mapping. -/
theorem exists_child (there : (v.under (s :: p)).isSome) :
    ∃ m es w, v = map m es ∧ Entries.get? (.str s) es = some w ∧ (w.under p).isSome := by
  cases v with
  | map m es =>
    obtain ⟨w, inner⟩ := Option.isSome_iff_exists.1 there
    obtain ⟨w', found, below⟩ := Option.bind_eq_some_iff.1 inner
    exact ⟨m, es, w', rfl, found, by rw [below]; rfl⟩
  | _ => cases there

/-- Putting in what stands there already changes nothing. -/
theorem put_of_under (there : u.under p = some x) : put p x u = u := by
  induction p generalizing u with
  | nil => exact (Option.some.inj there).symm
  | cons s p ih =>
    obtain ⟨m, es, w, rfl, found, -⟩ := exists_child (Option.isSome_iff_exists.2 ⟨x, there⟩)
    rw [under, found] at there
    rw [put, fields, found, Option.getD_some, ih there, Entries.set_of_get? found]
    rfl

/-- What is put at or below a place is gone once something else is put at the place. -/
theorem put_put (p r : List String) (x y u : Value) : put p x (put (p ++ r) y u) = put p x u := by
  induction p generalizing u with
  | nil => rfl
  | cons s p ih =>
    rw [List.cons_append, put, put, put]
    simp only [fields, Entries.get?_set_str_self, Option.getD_some, ih, Entries.set_set, isMapping,
      mark, if_true]

theorem put_put_self (p : List String) (x y u : Value) : put p x (put p y u) = put p x u := by
  simpa using put_put p [] x y u

/-- Values can be put at two places in either order, if neither place is below the other and one of
them is taken. -/
theorem put_comm (below : ¬p <+: q) (above : ¬q <+: p) (there : (u.under p).isSome) (x y : Value) :
    put p x (put q y u) = put q y (put p x u) := by
  induction p generalizing q u with
  | nil => exact absurd List.nil_prefix below
  | cons s p ih =>
    cases q with
    | nil => exact absurd List.nil_prefix above
    | cons t q =>
      obtain ⟨m, es, w, rfl, found, inner⟩ := exists_child there
      rw [put, put, put, put]
      by_cases same : s = t
      · subst same
        rw [List.cons_prefix_cons] at below above
        have deeper := ih (fun h => below ⟨rfl, h⟩) (fun h => above ⟨rfl, h⟩) inner
        simp only [fields, Entries.get?_set_str_self, Option.getD_some, found, deeper,
          Entries.set_set, isMapping, mark,
          if_true]
      · simp only [fields, Entries.get?_set_str_of_ne (Ne.symm same),
          Entries.get?_set_str_of_ne same, isMapping, mark,
          if_true]
        rw [Entries.set_comm same (by rw [found]; rfl)]

/-- What is put below a place is put into what stands there. -/
theorem under_put_append (there : u.under p = some v) (r : List String) (y : Value) :
    (put (p ++ r) y u).under p = some (put r y v) := by
  induction p generalizing u with
  | nil => rw [Option.some.inj there]; rfl
  | cons s p ih =>
    obtain ⟨m, es, w, rfl, found, -⟩ := exists_child (Option.isSome_iff_exists.2 ⟨v, there⟩)
    rw [under, found] at there
    rw [List.cons_append, under_cons_put, fields, found, Option.getD_some, ih there]

theorem under_cons (v : Value) (s : String) (p : List String) :
    v.under (s :: p) = (Entries.get? (.str s) v.fields).bind (·.under p) := by
  cases v <;> rfl

/-- What is put at one place is not seen at another that lies neither above nor below it. -/
theorem under_put_of_diverge (apart : Diverge p q) (y u : Value) :
    (put q y u).under p = u.under p := by
  induction p generalizing q u with
  | nil => exact absurd List.nil_prefix apart.1
  | cons s p ih =>
    cases q with
    | nil => exact absurd List.nil_prefix apart.2
    | cons t q =>
      by_cases same : s = t
      · subst same
        rw [Diverge, List.cons_prefix_cons, List.cons_prefix_cons] at apart
        have deeper := ih ⟨fun h => apart.1 ⟨rfl, h⟩, fun h => apart.2 ⟨rfl, h⟩⟩
        rw [under_cons_put, under_cons, deeper]
        cases Entries.get? (.str s) u.fields with
        | some w => rfl
        | none =>
          cases p with
          | nil => exact absurd ⟨rfl, List.nil_prefix⟩ apart.1
          | cons r p => rfl
      · rw [put, under_cons, under_cons, fields, Entries.get?_set_str_of_ne (Ne.symm same)]

/-- Whatever is put in leaves a value at every place, unless it takes the place itself or one
above. -/
theorem isSome_under_put (there : (u.under p).isSome) (above : ¬q <+: p) (y : Value) :
    ((put q y u).under p).isSome := by
  by_cases below : p <+: q
  · obtain ⟨r, rfl⟩ := below
    obtain ⟨v, here⟩ := Option.isSome_iff_exists.1 there
    rw [under_put_append here]
    rfl
  · rw [under_put_of_diverge ⟨below, above⟩]
    exact there

/-- What is no mapping is replaced on the way, whatever it is. -/
theorem put_of_not_isMapping (none : v.isMapping = false) (long : p ≠ []) (w : Value) :
    put p w v = put p w null := by
  cases p with
  | nil => exact absurd rfl long
  | cons s p => cases v <;> first | rfl | cases none

/-! ### Values put one after the other -/

def putAll (ws : List (List String × Value)) (u : Value) : Value :=
  ws.foldl (fun u w => put w.1 w.2 u) u

@[simp] theorem putAll_cons (w : List String × Value) (ws : List (List String × Value))
    (u : Value) : putAll (w :: ws) u = putAll ws (put w.1 w.2 u) := rfl

/-- Values that are put below a place make something of what stands there. -/
theorem putAll_below (there : u.under p = some v) (ws : List (List String × Value)) :
    putAll (ws.map fun w => (p ++ w.1, w.2)) u = put p (putAll ws v) u := by
  induction ws generalizing u v with
  | nil => exact (put_of_under there).symm
  | cons w ws ih =>
    rw [List.map_cons, putAll_cons, ih (under_put_append there w.1 w.2), put_put]
    rfl

/-- Some value is put at a place or above it. -/
def Covers (ws : List (List String × Value)) (p : List String) : Prop := ∃ w ∈ ws, w.1 <+: p

variable {ws : List (List String × Value)}

theorem isSome_under_putAll (there : (u.under p).isSome) (free : ¬Covers ws p) :
    ((putAll ws u).under p).isSome := by
  induction ws generalizing u with
  | nil => exact there
  | cons w ws ih =>
    refine ih (isSome_under_put there (fun above => free ⟨w, List.mem_cons_self, above⟩) w.2) ?_
    rintro ⟨w', member, above⟩
    exact free ⟨w', List.mem_cons_of_mem w member, above⟩

/-- What stands at a place in the end depends on what stood there and on nothing else of the tree,
if no value takes the place. -/
theorem under_putAll_congr (same : u.under p = v.under p) (there : (u.under p).isSome)
    (free : ¬Covers ws p) : (putAll ws u).under p = (putAll ws v).under p := by
  induction ws generalizing u v with
  | nil => exact same
  | cons w ws ih =>
    obtain ⟨q, y⟩ := w
    have above : ¬q <+: p := fun above => free ⟨(q, y), List.mem_cons_self, above⟩
    refine ih ?_ (isSome_under_put there above y) fun ⟨w', member, above⟩ =>
      free ⟨w', List.mem_cons_of_mem _ member, above⟩
    by_cases below : p <+: q
    · obtain ⟨r, rfl⟩ := below
      obtain ⟨x, here⟩ := Option.isSome_iff_exists.1 there
      rw [under_put_append here, under_put_append (same ▸ here)]
    · rw [under_put_of_diverge ⟨below, above⟩, under_put_of_diverge ⟨below, above⟩, same]

/-- The last value put at a place or above it stands there in the end. -/
theorem exists_standing (covers : Covers ws p) (u : Value) :
    ∃ q, q <+: p ∧ Covers ws q ∧ ((putAll ws u).under q).isSome := by
  induction ws generalizing u with
  | nil =>
    obtain ⟨w, member, -⟩ := covers
    cases member
  | cons w ws ih =>
    by_cases later : Covers ws p
    · obtain ⟨q, above, ⟨w', member, begins⟩, stands⟩ := ih later (put w.1 w.2 u)
      exact ⟨q, above, ⟨w', List.mem_cons_of_mem w member, begins⟩, stands⟩
    · obtain ⟨w', member, above⟩ := covers
      rcases List.mem_cons.1 member with rfl | rest
      · have put_in : ((put w'.1 w'.2 u).under w'.1).isSome := by rw [under_put]; rfl
        have free : ¬Covers ws w'.1 := fun ⟨v, member, begins⟩ =>
          later ⟨v, member, begins.trans above⟩
        have stands := isSome_under_putAll put_in free
        exact ⟨w'.1, above, ⟨w', List.mem_cons_self, List.prefix_refl _⟩, stands⟩
      · exact absurd ⟨w', rest, above⟩ later

/-! ### Trees that differ at one place -/

/-- Two trees with something at a place, which differ in nothing but what it is. -/
structure AgreeBut (p : List String) (u v : Value) : Prop where
  left : (u.under p).isSome
  right : (v.under p).isSome
  same : ∀ x, put p x u = put p x v

theorem agreeBut_put (p : List String) (x y u : Value) : AgreeBut p (put p x u) (put p y u) where
  left := by rw [under_put]; rfl
  right := by rw [under_put]; rfl
  same z := by rw [put_put_self, put_put_self]

theorem agreeBut_put_below (there : (u.under p).isSome) (r : List String) (y : Value) :
    AgreeBut p (put (p ++ r) y u) u where
  left := by
    obtain ⟨v, here⟩ := Option.isSome_iff_exists.1 there
    rw [under_put_append here]
    rfl
  right := there
  same z := put_put p r z y u

namespace AgreeBut

variable (h : AgreeBut p u v)

include h

theorem eq (same : u.under p = v.under p) : u = v := by
  obtain ⟨x, here⟩ := Option.isSome_iff_exists.1 h.left
  rw [← put_of_under here, h.same x, put_of_under (same ▸ here)]

/-- The difference is gone once a value is put at the place or above it. -/
theorem put_above (above : q <+: p) (y : Value) : put q y u = put q y v := by
  obtain ⟨r, rfl⟩ := above
  rw [← put_put q r y null u, h.same null, put_put]

theorem put_elsewhere (free : ¬q <+: p) (y : Value) : AgreeBut p (put q y u) (put q y v) := by
  refine ⟨isSome_under_put h.left free y, isSome_under_put h.right free y, fun x => ?_⟩
  by_cases below : p <+: q
  · obtain ⟨r, rfl⟩ := below
    rw [put_put, put_put, h.same x]
  · rw [put_comm below free h.left, put_comm below free h.right, h.same x]

omit h in
theorem putAll_elsewhere (h : AgreeBut p u v) (free : ¬Covers ws p) :
    AgreeBut p (putAll ws u) (putAll ws v) := by
  induction ws generalizing u v with
  | nil => exact h
  | cons w ws ih =>
    refine ih (h.put_elsewhere (fun above => free ⟨w, List.mem_cons_self, above⟩) w.2) ?_
    rintro ⟨w', member, above⟩
    exact free ⟨w', List.mem_cons_of_mem w member, above⟩

omit h in
theorem putAll_above (h : AgreeBut p u v) (covers : Covers ws p) : putAll ws u = putAll ws v := by
  induction ws generalizing u v with
  | nil =>
    obtain ⟨w, member, -⟩ := covers
    cases member
  | cons w ws ih =>
    rw [putAll_cons, putAll_cons]
    by_cases above : w.1 <+: p
    · rw [h.put_above above]
    · refine ih (h.put_elsewhere above w.2) ?_
      obtain ⟨w', member, above'⟩ := covers
      rcases List.mem_cons.1 member with rfl | rest
      · exact absurd above' above
      · exact ⟨w', rest, above'⟩

end AgreeBut

/-! ### Putting values in again -/

/-- Putting the same values in a second time changes nothing. -/
theorem putAll_putAll (ws : List (List String × Value)) (u : Value) :
    putAll ws (putAll ws u) = putAll ws u := by
  induction ws generalizing u with
  | nil => rfl
  | cons w ws ih =>
    obtain ⟨p, y⟩ := w
    rw [putAll_cons, putAll_cons]
    have again : putAll ws (putAll ws (put p y u)) = putAll ws (put p y u) := ih (put p y u)
    by_cases covers : Covers ws p
    · -- a later value takes the place or one above it, so the first one makes no difference
      obtain ⟨q, ⟨r, rfl⟩, covers', stands⟩ := exists_standing covers (put p y u)
      rw [(agreeBut_put_below stands r y).putAll_above covers', again]
    · have stands : ((put p y u).under p).isSome := by rw [under_put]; rfl
      have differ := (agreeBut_put_below (isSome_under_putAll stands covers)
        [] y).putAll_elsewhere covers
      rw [List.append_nil, again] at differ
      refine differ.eq (under_putAll_congr ?_ (by rw [under_put]; rfl) covers)
      rw [under_put, under_put]

/-- The places of values, with what was put there at first. -/
def firsts (ts : List (List String × Value × Value)) : List (List String × Value) :=
  ts.map fun t => (t.1, t.2.1)

/-- The places of values, with what is put there the second time. -/
def lasts (ts : List (List String × Value × Value)) : List (List String × Value) :=
  ts.map fun t => (t.1, t.2.2)

theorem covers_lasts {ts : List (List String × Value × Value)} :
    Covers (lasts ts) p ↔ Covers (firsts ts) p := by
  constructor
  · rintro ⟨w, member, above⟩
    obtain ⟨t, inside, rfl⟩ := List.mem_map.1 member
    exact ⟨_, List.mem_map_of_mem inside, above⟩
  · rintro ⟨w, member, above⟩
    obtain ⟨t, inside, rfl⟩ := List.mem_map.1 member
    exact ⟨_, List.mem_map_of_mem inside, above⟩

/-- Each value is put in the second time as it was the first time, or as it stands in the end,
unless a later one takes its place or one above it. -/
def Replays (final : Value) : List (List String × Value × Value) → Prop
  | [] => True
  | (p, x, y) :: ts => (Covers (firsts ts) p ∨ y = x ∨ final.under p = some y) ∧ Replays final ts

theorem putAll_lasts {ts : List (List String × Value × Value)} (u : Value)
    (h : Replays (putAll (firsts ts) u) ts) : putAll (lasts ts) u = putAll (firsts ts) u := by
  induction ts generalizing u with
  | nil => rfl
  | cons t ts ih =>
    obtain ⟨p, x, y⟩ := t
    obtain ⟨here, rest⟩ := h
    have later : putAll (lasts ts) (put p x u) = putAll (firsts ts) (put p x u) :=
      ih (put p x u) rest
    show putAll (lasts ts) (put p y u) = putAll (firsts ts) (put p x u)
    rw [← later]
    by_cases covers : Covers (lasts ts) p
    · exact (agreeBut_put p y x u).putAll_above covers
    · rcases here with covered | rfl | stands
      · exact absurd (covers_lasts.2 covered) covers
      · rfl
      · have final : (putAll (lasts ts) (put p x u)).under p = some y := by
          rw [later]
          exact stands
        refine ((agreeBut_put p y x u).putAll_elsewhere covers).eq ?_
        -- what the later values make of the value in its final state is that state again
        rw [under_putAll_congr (v := putAll (lasts ts) (put p x u)) ?_ ?_ covers, putAll_putAll]
        · rw [under_put, final]
        · rw [under_put]
          rfl

end Value

/-! ### What a reader sees of a write -/

namespace Store

open Value

theorem plainEntries_set (s : String) (v : Value) (es : List (Key × Value)) :
    plainEntries (Entries.set (.str s) v es) = Entries.set (.str s) v.plain (plainEntries es) := by
  induction es with
  | nil => rfl
  | cons e es ih =>
    obtain ⟨l, u⟩ := e
    rw [Entries.set, plainEntries, Entries.set, Key.same_plain]
    split
    next => rfl
    next => rw [plainEntries, ih]

theorem plain_nest (next : Nat) (path : List String) (v : Value) :
    (nest next path v).plain = put path v.plain null := by
  induction path generalizing next with
  | nil => rfl
  | cons s path ih =>
    simp [nest, plain, plainEntries, ih, Key.plain, put, fields, isMapping,
      Entries.set, Entries.get?]

theorem plain_write (next mark : Nat) (es : List (Key × Value)) {path : List String}
    (long : path ≠ []) (v : Value) :
    (Value.map mark (write next mark es path v).1).plain = put path v.plain
      (Value.map mark es).plain := by
  induction path generalizing mark es with
  | nil => exact absurd rfl long
  | cons s rest ih =>
    have child : Entries.get? (.str s) (Value.map mark es).plain.fields =
        (Entries.get? (.str s) es).map plain :=
      get?_plainEntries es s
    rw [put, child]
    rcases write_cons next mark es s rest v with ⟨n, fs, more, found, written⟩ | ⟨stops, written⟩
    · rw [written, plain, plainEntries_set, ih n fs more, found]
      rfl
    · have same : put rest v.plain (((Entries.get? (.str s) es).map plain).getD null) =
          put rest v.plain null := by
        cases rest with
        | nil => rfl
        | cons r rest =>
          cases found : Entries.get? (.str s) es with
          | none => rfl
          | some w =>
            refine put_of_not_isMapping ?_ (List.cons_ne_nil r rest) _
            show w.plain.isMapping = false
            rw [isMapping_plain]
            cases w with
            | map m fs => exact absurd (stops m fs found) (List.cons_ne_nil r rest)
            | _ => rfl
      rw [written, plain, plainEntries_set, plain_nest, same]
      rfl

/-- A reader sees the value at its path, and nothing else has changed. -/
theorem plain_set {s : Store} (unshared : s.shared = false) (path : String) (v : Value) :
    (s.set path v).1.root.plain = put (segments path) v.plain s.root.plain := by
  rw [set_of_unshared unshared]
  exact plain_write s.next 0 s.tiers (segments_ne_nil path) v

end Store

end SceneCourse
