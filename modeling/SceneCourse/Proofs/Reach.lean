import SceneCourse.Proofs.Marks

/-! Which containers a write can reach. A write follows a path of texts through mappings, so it
changes no container but a mapping that stands at the end of such a path, and takes in nothing but
new mappings and the value. -/

namespace SceneCourse

open Value (Edit)

namespace Value

/-! ### What stands at a path -/

/-- The value at the end of a path of texts that leads through mappings only. -/
def under : Value → List String → Option Value
  | v, [] => some v
  | .map _ es, s :: rest => (Entries.get? (.str s) es).bind fun v => under v rest
  | _, _ :: _ => none

theorem exists_map_of_under {v : Value} {path : List String} {m : Nat} {fs : List (Key × Value)}
    (h : under v path = some (.map m fs)) : ∃ n es, v = .map n es := by
  cases path with
  | nil => exact ⟨m, fs, Option.some.inj h⟩
  | cons s rest =>
    cases v with
    | map n es => exact ⟨n, es, rfl⟩
    | _ => simp [under] at h

theorem marks_under {v w : Value} {path : List String} (h : under v path = some w) :
    marks w ⊆ marks v := by
  induction path generalizing v with
  | nil =>
    obtain rfl := Option.some.inj h
    exact List.Subset.refl _
  | cons s rest ih =>
    cases v with
    | map n es =>
      obtain ⟨u, found, inner⟩ := Option.bind_eq_some_iff.1 h
      have inside := List.Subset.trans (ih inner) (marks_subset_of_get? found)
      exact List.Subset.trans inside (List.subset_cons_self _ _)
    | _ => simp [under] at h

/-- All mappings that a write can reach in a value have marks of one kind. -/
def Confined (P : Nat → Prop) (v : Value) : Prop :=
  ∀ path m fs, under v path = some (.map m fs) → P m

def ConfinedIn (P : Nat → Prop) (es : List (Key × Value)) : Prop :=
  ∀ s v, Entries.get? (.str s) es = some v → Confined P v

section

variable {P Q : Nat → Prop} {v : Value} {es : List (Key × Value)} {m : Nat}

theorem Confined.mono (h : Confined P v) (wider : ∀ m, P m → Q m) : Confined Q v :=
  fun path m fs there => wider m (h path m fs there)

theorem ConfinedIn.mono (h : ConfinedIn P es) (wider : ∀ m, P m → Q m) : ConfinedIn Q es :=
  fun s v found => (h s v found).mono wider

theorem Confined.mark (h : Confined P (.map m es)) : P m := h [] m es rfl

theorem Confined.entries (h : Confined P (.map m es)) : ConfinedIn P es := by
  intro s v found path n fs there
  refine h (s :: path) n fs ?_
  rw [under, found]
  exact there

theorem Confined.map (mark : P m) (h : ConfinedIn P es) : Confined P (.map m es) := by
  intro path n fs there
  cases path with
  | nil =>
    obtain ⟨rfl, rfl⟩ := Value.map.inj (Option.some.inj there)
    exact mark
  | cons s rest =>
    obtain ⟨v, found, inner⟩ := Option.bind_eq_some_iff.1 there
    exact h s v found rest n fs inner

theorem confined_of_not_isMapping (h : v.isMapping = false) : Confined P v := by
  intro path m fs there
  obtain ⟨n, es, rfl⟩ := exists_map_of_under there
  cases h

theorem confined_of_marks (h : ∀ m ∈ marks v, P m) : Confined P v :=
  fun _ m _ there => h m (marks_under there List.mem_cons_self)

theorem confinedIn_nil : ConfinedIn P [] := fun _ _ found => nomatch found

theorem get?_set_cases {k : Key} {s : String} {w : Value}
    (h : Entries.get? (.str s) (Entries.set k v es) = some w) :
    w = v ∨ Entries.get? (.str s) es = some w := by
  induction es with
  | nil =>
    rw [Entries.set, Entries.get?] at h
    split at h
    · exact Or.inl (Option.some.inj h).symm
    · cases h
  | cons e es ih =>
    obtain ⟨l, u⟩ := e
    rw [Entries.set] at h
    by_cases here : l.same (.str s) = true
    · split at h
      · rw [Entries.get?, if_pos here] at h
        exact Or.inl (Option.some.inj h).symm
      · rw [Entries.get?, if_pos here] at h ⊢
        exact Or.inr h
    · split at h
      · rw [Entries.get?, if_neg here] at h ⊢
        exact Or.inr h
      · rw [Entries.get?, if_neg here] at h ⊢
        exact ih h

theorem ConfinedIn.set (h : ConfinedIn P es) (k : Key) (value : Confined P v) :
    ConfinedIn P (Entries.set k v es) := by
  intro s w found
  rcases get?_set_cases found with rfl | old
  · exact value
  · exact h s w old

theorem ConfinedIn.setAll (h : ConfinedIn P es) {news : List (Key × Value)}
    (values : ∀ e ∈ news, Confined P e.2) : ConfinedIn P (Entries.setAll news es) := by
  induction news generalizing es with
  | nil => exact h
  | cons e news ih =>
    refine ih (h.set e.1 (values e List.mem_cons_self)) fun f later => ?_
    exact values f (List.mem_cons_of_mem e later)

theorem confined_copy (next : Nat) (v : Value) :
    Confined (fun m => next ≤ m ∧ m < (copy next v).2) (copy next v).1 :=
  confined_of_marks (marks_copy next v).2

theorem confined_copyEntries (next : Nat) (es : List (Key × Value)) :
    ∀ e ∈ (copyEntries next es).1, Confined (fun m => next ≤ m ∧ m < (copyEntries next es).2) e.2 :=
  fun _ member => confined_of_marks fun m hm =>
    (marks_copyEntries next es).2 m (marks_subset_marksEntries member hm)

end

end Value

/-! ### Writes -/

namespace Store

open Value

/-- A write goes on into a mapping that stands on its path, or else writes an entry here. -/
theorem write_cons (next mark : Nat) (es : List (Key × Value)) (s : String) (rest : List String)
    (v : Value) :
    (∃ m fs, rest ≠ [] ∧ Entries.get? (.str s) es = some (.map m fs) ∧
      write next mark es (s :: rest) v =
        (Entries.set (.str s) (.map m (write next m fs rest v).1) es, (write next m fs rest v).2)) ∨
    ((∀ m fs, Entries.get? (.str s) es = some (.map m fs) → rest = []) ∧
      write next mark es (s :: rest) v = (Entries.set (.str s) (nest next rest v) es,
        ⟨mark, .map mark (Entries.set (.str s) (nest next rest v) es)⟩)) := by
  cases rest with
  | nil => exact Or.inr ⟨fun _ _ _ => rfl, rfl⟩
  | cons r rest =>
    cases found : Entries.get? (.str s) es with
    | none =>
      exact Or.inr ⟨fun _ _ there => (nomatch there), by rw [write.eq_def]; simp only [found]⟩
    | some w =>
      cases w with
      | map m fs =>
        exact Or.inl ⟨m, fs, List.cons_ne_nil r rest, rfl, by rw [write.eq_def]; simp only [found]⟩
      | _ =>
        exact Or.inr ⟨fun _ _ there => (nomatch there), by rw [write.eq_def]; simp only [found]⟩

theorem write_into {next mark : Nat} {es fs : List (Key × Value)} {s : String} {rest : List String}
    {m : Nat} (found : Entries.get? (.str s) es = some (.map m fs)) (more : rest ≠ []) (v : Value) :
    write next mark es (s :: rest) v =
      (Entries.set (.str s) (.map m (write next m fs rest v).1) es,
        (write next m fs rest v).2) := by
  rcases write_cons next mark es s rest v with ⟨n, gs, -, found', written⟩ | ⟨stops, -⟩
  · rw [found] at found'
    obtain ⟨rfl, rfl⟩ := Value.map.inj (Option.some.inj found')
    exact written
  · exact absurd (stops m fs found) more

theorem under_nest (next : Nat) (segs : List String) (v : Value) :
    under (nest next segs v) segs = some v := by
  induction segs generalizing next with
  | nil => rfl
  | cons s rest ih => simpa [nest, under, Entries.get?] using ih (next + 1)

theorem under_set_self (mark : Nat) (es : List (Key × Value)) (s : String) (w : Value)
    (rest : List String) :
    under (.map mark (Entries.set (.str s) w es)) (s :: rest) = under w rest := by
  rw [under, Entries.get?_set_str_self, Option.bind_some]

theorem under_set_of_ne (mark : Nat) (es : List (Key × Value)) {s p : String} (other : s ≠ p)
    (w : Value) (rest : List String) :
    under (.map mark (Entries.set (.str s) w es)) (p :: rest) = under (.map mark es)
    (p :: rest) := by
  rw [under, Entries.get?_set_str_of_ne other, under]

theorem under_write (next mark : Nat) (es : List (Key × Value)) {segs : List String} (v : Value)
    (long : segs ≠ []) : under (.map mark (write next mark es segs v).1) segs = some v := by
  induction segs generalizing mark es with
  | nil => exact absurd rfl long
  | cons s rest ih =>
    rcases write_cons next mark es s rest v with ⟨m, fs, more, -, written⟩ | ⟨-, written⟩
    · rw [written, under_set_self]
      exact ih m fs more
    · rw [written, under_set_self]
      exact under_nest next rest v

/-- A write goes in at the first text of its path. -/
theorem under_write_of_ne (next mark : Nat) (es : List (Key × Value)) {s p : String} (other : s ≠ p)
    (rest path : List String) (v : Value) :
    under (.map mark (write next mark es (s :: rest) v).1) (p :: path) = under (.map mark es)
    (p :: path) := by
  rcases write_cons next mark es s rest v with ⟨_, _, -, -, written⟩ | ⟨-, written⟩
  · rw [written, under_set_of_ne _ _ other]
  · rw [written, under_set_of_ne _ _ other]

/-- A write leaves a mapping where it is, unless the mapping lies at its path or below it. -/
theorem under_write_of_not_prefix (next mark : Nat) {es : List (Key × Value)}
    {segs path : List String} (v : Value) {m : Nat} {fs : List (Key × Value)}
    (there : under (.map mark es) path = some (.map m fs)) (apart : ¬segs <+: path) :
    ∃ gs, under (.map mark (write next mark es segs v).1) path = some (.map m gs) := by
  induction segs generalizing mark es path with
  | nil => exact absurd List.nil_prefix apart
  | cons s rest ih =>
    cases path with
    | nil =>
      obtain ⟨rfl, rfl⟩ := Value.map.inj (Option.some.inj there)
      exact ⟨_, rfl⟩
    | cons p path =>
      rw [List.cons_prefix_cons, not_and] at apart
      by_cases same : s = p
      · subst same
        have deeper := apart rfl
        have long : rest ≠ [] := by
          rintro rfl
          exact deeper List.nil_prefix
        obtain ⟨w, found, inner⟩ := Option.bind_eq_some_iff.1 there
        obtain ⟨n, gs, rfl⟩ := exists_map_of_under inner
        rw [write_into found long, under_set_self]
        exact ih n inner deeper
      · exact ⟨fs, by rw [under_write_of_ne _ _ _ same, there]⟩

/-- A write just below a mapping edits that mapping. -/
theorem edit_write_under (next mark : Nat) {es : List (Key × Value)} {path : List String}
    (x : String) (v : Value) {m : Nat} {fs : List (Key × Value)}
    (there : under (.map mark es) path = some (.map m fs)) :
    (write next mark es (path ++ [x]) v).2 = ⟨m, .map m (Entries.set (.str x) v fs)⟩ := by
  induction path generalizing mark es with
  | nil =>
    obtain ⟨rfl, rfl⟩ := Value.map.inj (Option.some.inj there)
    rcases write_cons next mark es x [] v with ⟨_, _, more, -⟩ | ⟨-, written⟩
    · exact absurd rfl more
    · exact congrArg Prod.snd written
  | cons p path ih =>
    obtain ⟨w, found, inner⟩ := Option.bind_eq_some_iff.1 there
    obtain ⟨n, gs, rfl⟩ := exists_map_of_under inner
    rw [List.cons_append, write_into found (by simp)]
    exact ih n inner

/-- What an edit puts in the place of a mapping is a mapping with the same mark. -/
theorem now_write (next mark : Nat) (es : List (Key × Value)) (segs : List String) (v : Value) :
    ∃ gs, (write next mark es segs v).2.now = .map (write next mark es segs v).2.mark gs := by
  induction segs generalizing mark es with
  | nil => exact ⟨es, rfl⟩
  | cons s rest ih =>
    rcases write_cons next mark es s rest v with ⟨m, fs, -, -, written⟩ | ⟨-, written⟩
    · rw [written]
      exact ih m fs
    · rw [written]
      exact ⟨_, rfl⟩

theorem confined_nest {P : Nat → Prop} {next : Nat} {segs : List String} {v : Value}
    (new : ∀ i < segs.length, P (next + i)) (value : Confined P v) :
    Confined P (nest next segs v) := by
  induction segs generalizing next with
  | nil => exact value
  | cons s rest ih =>
    have inner : Confined P (nest (next + 1) rest v) := by
      refine ih fun i hi => ?_
      rw [Nat.add_right_comm]
      exact new (i + 1) (Nat.succ_lt_succ hi)
    exact Confined.map (new 0 (Nat.succ_pos _)) (confinedIn_nil.set (.str s) inner)

/-- A write takes in new mappings and the value, and it edits the mapping itself or one that it can
reach below it. -/
theorem confined_write {P : Nat → Prop} {next mark : Nat} {es : List (Key × Value)}
    {segs : List String} {v : Value} (inside : ConfinedIn P es)
    (new : ∀ i < segs.length, P (next + i)) (value : Confined P v) :
    ConfinedIn P (write next mark es segs v).1 ∧
      ((write next mark es segs v).2.mark = mark ∨ P (write next mark es segs v).2.mark) := by
  induction segs generalizing mark es with
  | nil => exact ⟨inside, Or.inl rfl⟩
  | cons s rest ih =>
    have shorter : ∀ i < rest.length, P (next + i) := fun i hi => new i (Nat.lt_succ_of_lt hi)
    rcases write_cons next mark es s rest v with ⟨m, fs, -, found, written⟩ | ⟨-, written⟩
    · have here := inside s (.map m fs) found
      obtain ⟨entries, edited⟩ := ih here.entries shorter
      rw [written]
      refine ⟨inside.set (.str s) (Confined.map here.mark entries), Or.inr ?_⟩
      rcases edited with same | deeper
      · rw [same]
        exact here.mark
      · exact deeper
    · rw [written]
      exact ⟨inside.set (.str s) (confined_nest shorter value), Or.inl rfl⟩

end Store

end SceneCourse
