import SceneCourse.Course.Condition

/-! Which values cannot be read as conditions at all. A reading refuses what does not say what it
should, and its caller can go on; a fault of another kind is let through. Proved for values in which
no container holds itself, JSON values among them: reading a condition ends in a fault of another
kind if and only if the value, or a condition inside it, is a mapping that has a list or a mapping
for its operator. -/

namespace SceneCourse

/-! ### Readings that stop -/

namespace Checked

variable {α β γ : Type} {p q : Prop}

/-- The reading stops if and only if `p`, and it never stops at a refusal. -/
structure Halts (x : Checked α) (p : Prop) : Prop where
  outright : ∀ e, x = stopped e → e.isRefusal = false
  exact : (∃ e, x = stopped e) ↔ p

theorem Halts.ok (a : α) : Halts (Checked.ok a) False := ⟨nofun, by simp⟩

theorem Halts.complain (d : Defect) : Halts (Checked.complain d : Checked α) False :=
  ⟨nofun, by simp [Checked.complain]⟩

theorem Halts.congr {x : Checked α} (h : Halts x p) (same : p ↔ q) : Halts x q :=
  ⟨h.outright, h.exact.trans same⟩

theorem Halts.map {x : Checked α} (h : Halts x p) (f : α → β) : Halts (f <$> x) p := by
  cases x with
  | ok a => exact ⟨nofun, by simpa [Functor.map, Checked.map] using h.exact⟩
  | faulty cs => exact ⟨nofun, by simpa [Functor.map, Checked.map] using h.exact⟩
  | stopped e =>
    refine ⟨?_, by simpa [Functor.map, Checked.map] using h.exact⟩
    rintro _ ⟨⟩
    exact h.outright e rfl

theorem Halts.both {x : Checked α} {y : Checked β} (hx : Halts x p) (hy : Halts y q) :
    Halts (x.both y) (p ∨ q) := by
  have first := hx.exact
  have second := hy.exact
  cases x with
  | stopped e =>
    refine ⟨?_, by simpa [Checked.both] using Or.inl (first.mp ⟨e, rfl⟩)⟩
    rintro _ ⟨⟩
    exact hx.outright e rfl
  | ok a =>
    cases y with
    | stopped e =>
      refine ⟨?_, by simpa [Checked.both] using Or.inr (second.mp ⟨e, rfl⟩)⟩
      rintro _ ⟨⟩
      exact hy.outright e rfl
    | ok b => exact ⟨nofun, by simp_all [Checked.both]⟩
    | faulty ds => exact ⟨nofun, by simp_all [Checked.both]⟩
  | faulty cs =>
    cases y with
    | stopped e =>
      refine ⟨?_, by simpa [Checked.both] using Or.inr (second.mp ⟨e, rfl⟩)⟩
      rintro _ ⟨⟩
      exact hy.outright e rfl
    | ok b => exact ⟨nofun, by simp_all [Checked.both]⟩
    | faulty ds => exact ⟨nofun, by simp_all [Checked.both]⟩

theorem Halts.seq {f : Checked (α → β)} {x : Checked α} (hf : Halts f p) (hx : Halts x q) :
    Halts (f <*> x) (p ∨ q) :=
  (hf.both hx).map fun p => p.1 p.2

theorem Halts.inside {x : Checked α} (h : Halts x p) (place : Place) :
    Halts (x.inside place) p := by
  cases x with
  | ok a => exact h
  | stopped e => exact h
  | faulty cs => exact ⟨nofun, by simpa [Checked.inside] using h.exact⟩

end Checked

def Breaks {α : Type} (r : Except Fault α) : Prop := ∃ e, r = .error e ∧ e.isRefusal = false

theorem Checked.halts_ofExcept {α : Type} (r : Except Fault α) :
    Checked.Halts (.ofExcept r) (Breaks r) := by
  cases r with
  | ok a => exact ⟨nofun, by simp [Checked.ofExcept, Breaks]⟩
  | error e =>
    cases e <;> refine ⟨?_, by simp [Checked.ofExcept, Checked.complain, Breaks, Fault.isRefusal]⟩
      <;> rintro _ ⟨⟩ <;> rfl

theorem Checked.Halts.breaks_toExcept {α : Type} {x : Checked α} {p : Prop} (h : x.Halts p)
    (record : String) : Breaks (x.toExcept record) ↔ p := by
  rw [← h.exact]
  cases x with
  | ok a => simp [Checked.toExcept, Breaks]
  | faulty cs => simp [Checked.toExcept, Breaks, Fault.isRefusal]
  | stopped e => simpa [Checked.toExcept, Breaks] using h.outright e rfl

/-! ### Values without cycles -/

namespace Value

theorem partOf_of_isCyclic_eq_false (around : List Value) {v : Value} (h : v.isCyclic = false) :
    partOf around v = v := by
  induction around with
  | nil => rfl
  | cons c around ih =>
    show partOf around (c.within v) = v
    rw [within_of_isCyclic_eq_false c v h, ih]

theorem isCyclic_of_get? {k : Key} {es : List (Key × Value)} {v : Value}
    (h : anyCyclicEntry es = false) (found : Entries.get? k es = some v) : v.isCyclic = false := by
  induction es with
  | nil => simp [Entries.get?] at found
  | cons e es ih =>
    obtain ⟨l, w⟩ := e
    simp only [anyCyclicEntry, Bool.or_eq_false_iff] at h
    rw [Entries.get?] at found
    split at found
    · cases found
      exact h.1
    · exact ih h.2 found

def isContainer : Value → Bool
  | .list .. | .map .. => true
  | _ => false

/-- A mapping with a list or a mapping as its operator, or a logical condition with such a mapping
inside. -/
inductive Unreadable : Value → Prop where
  | operator {m : Nat} {es : List (Key × Value)} {w : Value}
    (op : Entries.get? (.str "op") es = some w) (container : w.isContainer = true) :
    Unreadable (.map m es)
  | inside {m n : Nat} {es : List (Key × Value)} {name : String} {op : LogicOp}
    {vs : List Value} {v : Value}
    (named : Entries.get? (.str "op") es = some (.str name))
      (logical : LogicOp.ofName? name = some op)
    (conditions : Entries.get? (.str "conditions") es = some (.list n vs)) (mem : v ∈ vs)
      (bad : Unreadable v) :
    Unreadable (.map m es)

theorem isRefusal_of_told {v : Value} {e : Fault} (h : v.told = .error e) : e.isRefusal = true := by
  rw [told] at h
  split at h
  · cases h
    rfl
  · cases h

end Value

/-! ### Reading conditions -/

namespace Condition

open Checked

theorem not_breaks_readUnknown (op : String) (es : List (Key × Value)) :
    ¬Breaks (readUnknown op es) := by
  have never : Halts (readExtras (Entries.set (.str "op") (.str op) es) [["op"]]) False := by
    rw [readExtras]
    split <;> exact ⟨nofun, by simp⟩
  exact mt ((never.map (unknown op)).breaks_toExcept "UnknownCondition").mp id

theorem not_breaks_told_readUnknown (v : Value) (es : List (Key × Value)) :
    ¬Breaks (do readUnknown (← v.told) es) := by
  cases h : v.told with
  | ok op => exact not_breaks_readUnknown op es
  | error e =>
    rintro ⟨_, ⟨⟩, outright⟩
    simp [Value.isRefusal_of_told h] at outright

theorem halts_refuseKeys (ks : List Key) : Halts (refuseKeys ks) False := by
  suffices h : ∀ (i : Nat) (vs : List Value),
      Halts (Value.readItems
        (fun v => (.ofExcept (.error (.badValue (.condition v))) : Checked Condition)) i vs) False
        from
    h 0 _
  intro i vs
  induction vs generalizing i with
  | nil => exact Halts.ok []
  | cons v vs ih =>
    have item : Halts (.ofExcept (.error (.badValue (.condition v))) : Checked Condition) False :=
      Halts.complain _
    exact (((item.inside (.item i)).map _).seq (ih (i + 1))).congr (or_self_iff)

def SomeUnreadable (es : List (Key × Value)) : Prop :=
  ∃ n vs v, Entries.get? (.str "conditions") es = some (.list n vs) ∧ v ∈ vs ∧ v.Unreadable

mutual

/-- The cases are those of the reader; what it makes of the containers around a part is the part
itself. -/
theorem breaks_ofPart (around : List Value) (v : Value) (acyclic : v.isCyclic = false) :
    Breaks (ofPart around v) ↔ v.Unreadable := by
  cases v with
  | map m es =>
    have entry (name : String) : ((Entries.get? (.str name) es).getD .null).isCyclic = false := by
      cases found : Entries.get? (.str name) es with
      | none => rfl
      | some w => exact Value.isCyclic_of_get? acyclic found
    have field := Value.partOf_of_isCyclic_eq_false (Value.inside around (.map m es)) (entry "op")
    have plain {w : Value} (op : Entries.get? (.str "op") es = some w)
        (other : w.isContainer = false)
        (unnamed : ∀ name, w = .str name → LogicOp.ofName? name = none) :
            ¬Value.Unreadable (.map m es) := by
      rintro (⟨op', container⟩ | ⟨named, logical, -, -, -⟩)
      · cases op.symm.trans op'
        simp [other] at container
      · cases op.symm.trans named
        simp [unnamed _ rfl] at logical
    rw [ofPart]
    dsimp only
    rw [field]
    cases op : Entries.get? (.str "op") es with
    | none =>
      refine iff_of_false (not_breaks_told_readUnknown _ _) ?_
      rintro (⟨op', -⟩ | ⟨named, -, -, -, -⟩)
      · cases op.symm.trans op'
      · cases op.symm.trans named
    | some w =>
      rw [Option.getD_some]
      cases w with
      | list n xs => exact iff_of_true ⟨_, rfl, rfl⟩ (.operator op rfl)
      | map n fs => exact iff_of_true ⟨_, rfl, rfl⟩ (.operator op rfl)
      | again n mapping => simpa [Value.isCyclic] using Value.isCyclic_of_get? acyclic op
      | str name =>
        dsimp only
        cases comparison : CompareOp.ofName? name with
        | some c =>
          have unnamed : LogicOp.ofName? name = none := by
            unfold CompareOp.ofName? at comparison
            split at comparison <;> first | rfl | cases comparison
          exact iff_of_false (by simp [Breaks])
            (plain op rfl fun _ same => by cases same; exact unnamed)
        | none =>
          cases logic : LogicOp.ofName? name with
          | none =>
            exact iff_of_false (not_breaks_readUnknown _ _)
              (plain op rfl fun _ same => by cases same; exact logic)
          | some l =>
            have children := halts_readChildren (Value.inside around (.map m es)) es acyclic
            refine ((children.map (logical l)).breaks_toExcept "Logical").trans ⟨?_, ?_⟩
            · rintro ⟨n, vs, v, conditions, mem, bad⟩
              exact .inside op logic conditions mem bad
            · rintro (⟨op', container⟩ | ⟨-, -, conditions, mem, bad⟩)
              · cases op.symm.trans op'
                cases container
              · exact ⟨_, _, _, conditions, mem, bad⟩
      | _ => exact iff_of_false (not_breaks_told_readUnknown _ _) (plain op rfl nofun)
  | again n mapping => simp [Value.isCyclic] at acyclic
  | _ => exact iff_of_false (by simp [Breaks, ofPart, Fault.isRefusal]) nofun
termination_by structural v

theorem halts_readChildren (around : List Value) (es : List (Key × Value))
    (acyclic : Value.anyCyclicEntry es = false) :
    Halts (readChildren around es) (SomeUnreadable es) := by
  cases es with
  | nil =>
    rw [readChildren]
    exact (Halts.ok []).congr (by simp [SomeUnreadable, Entries.get?])
  | cons e es =>
    obtain ⟨k, v⟩ := e
    simp only [Value.anyCyclicEntry, Bool.or_eq_false_iff] at acyclic
    rw [readChildren]
    by_cases here : k.same (.str "conditions") = true
    · rw [if_pos here]
      refine ((halts_readNested around v acyclic.1).inside _).congr ?_
      simp [SomeUnreadable, Entries.get?, here]
    · rw [if_neg here]
      refine (halts_readChildren around es acyclic.2).congr ?_
      simp [SomeUnreadable, Entries.get?, here]
termination_by structural es

theorem halts_readNested (around : List Value) (v : Value) (acyclic : v.isCyclic = false) :
    Halts (readNested around v) (∃ n vs w, v = .list n vs ∧ w ∈ vs ∧ w.Unreadable) := by
  cases v with
  | list m vs =>
    rw [readNested]
    refine (halts_readEach _ 0 vs acyclic).congr ⟨?_, ?_⟩
    · rintro ⟨w, mem, bad⟩
      exact ⟨m, vs, w, rfl, mem, bad⟩
    · rintro ⟨_, _, w, ⟨⟩, mem, bad⟩
      exact ⟨w, mem, bad⟩
  | set ks =>
    rw [readNested]
    exact (halts_refuseKeys ks).congr (by simp)
  | again n mapping => simp [Value.isCyclic] at acyclic
  | _ =>
    simp only [readNested]
    exact (Halts.complain _).congr (by simp)
termination_by structural v

theorem halts_readEach (around : List Value) (i : Nat) (vs : List Value)
    (acyclic : Value.anyCyclic vs = false) :
    Halts (readEach around i vs) (∃ v ∈ vs, v.Unreadable) := by
  cases vs with
  | nil =>
    rw [readEach]
    exact (Halts.ok []).congr (by simp)
  | cons v vs =>
    simp only [Value.anyCyclic, Bool.or_eq_false_iff] at acyclic
    have item := (halts_ofExcept (ofPart around v)).congr (breaks_ofPart around v acyclic.1)
    rw [readEach]
    exact (((item.inside (.item i)).map _).seq (halts_readEach around (i + 1) vs acyclic.2)).congr
      (by simp)
termination_by structural vs

end

/-- A value is read as a condition or refused, unless a mapping in it has a container as its
operator. -/
theorem breaks_ofValue {v : Value} (acyclic : v.isCyclic = false) :
    Breaks (ofValue v) ↔ v.Unreadable :=
  breaks_ofPart [] v acyclic

theorem ofValue_comparison (op : CompareOp) (left right : Value) :
    ofValue (dump (.comparison op left right)) = .ok (.comparison op left right) := by
  simp [ofValue, ofPart, dump, Value.object, Value.ofEntries, Entries.get?,
    CompareOp.ofName?_name, Value.inside,
    Value.mark]

end Condition

end SceneCourse
