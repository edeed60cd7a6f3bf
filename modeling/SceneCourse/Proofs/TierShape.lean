import SceneCourse.Proofs.HeldContainers
import SceneCourse.Proofs.HeldDocument
import SceneCourse.Proofs.RootKeys
import SceneCourse.Proofs.TreeStore

/-! The shape of the tiers. The accessors of a state read `globals` and `scene` as mappings with a
mapping under `vars`, and `nodes` as a mapping, and fail on anything else. Proved: this shape is
lost by no operation but a write at one of five paths and a snapshot with a tier of another shape,
and these lose it exactly when what they put in place has not the shape. -/

namespace SceneCourse

/-! ### Entries that are written at once -/

namespace Entries

variable {α : Type} {k : Key} {s : String} {v : α} {es : Entries α}

def Distinct (es : Entries α) : Prop := (es.texts.map Prod.fst).Nodup

instance : Decidable es.Distinct := inferInstanceAs (Decidable (List.Nodup _))

theorem Distinct.tail (h : Distinct ((k, v) :: es)) : es.Distinct := by
  cases k with
  | str s => exact (List.nodup_cons.1 h).2
  | _ => exact h

theorem fst_texts_of_fst {fs : Entries α} (keys : fs.map Prod.fst = es.map Prod.fst) :
    fs.texts.map Prod.fst = es.texts.map Prod.fst := by
  induction es generalizing fs with
  | nil =>
    obtain rfl := List.map_eq_nil_iff.1 keys
    rfl
  | cons e es ih =>
    obtain ⟨f, fs, rfl⟩ := List.exists_cons_of_length_eq_add_one
      (by simpa using congrArg List.length keys)
    obtain ⟨k, v⟩ := e
    obtain ⟨same, later⟩ := List.cons.inj keys
    obtain ⟨l, w⟩ := f
    obtain rfl : l = k := same
    cases l with
    | str s => exact congrArg (s :: ·) (ih later)
    | _ => exact @ih fs later

theorem Distinct.of_fst {fs : Entries α} (h : es.Distinct)
    (keys : fs.map Prod.fst = es.map Prod.fst) : fs.Distinct := by
  rw [Distinct, fst_texts_of_fst keys]
  exact h

theorem get?_eq_none_of_not_mem (h : s ∉ es.texts.map Prod.fst) : es.get? (.str s) = none := by
  induction es with
  | nil => rfl
  | cons e es ih =>
    obtain ⟨k, v⟩ := e
    rw [get?]
    split
    next same =>
      obtain rfl := Key.same_str_iff.1 same
      exact absurd List.mem_cons_self h
    next =>
      refine ih fun member => h ?_
      cases k with
      | str t => exact List.mem_cons_of_mem t member
      | _ => exact member

theorem get?_set_of_not_same (other : k.same (.str s) = false) :
    (es.set k v).get? (.str s) = es.get? (.str s) := by
  induction es with
  | nil => simp [set, get?, other]
  | cons e es ih =>
    obtain ⟨l, w⟩ := e
    rw [set]
    split
    next same =>
      have apart : l.same (.str s) = false := by
        refine Bool.eq_false_iff.2 fun text => ?_
        obtain rfl := Key.same_str_iff.1 text
        cases k <;> simp_all [Key.same, Key.number?]
      rw [get?, get?, if_neg (by simp [apart]), if_neg (by simp [apart])]
    next => rw [get?, get?, ih]

/-- What stands under a text after entries without repeated texts were written one after the
other. -/
theorem get?_setAll {news : Entries α} (once : news.Distinct) :
    (setAll news es).get? (.str s) = (news.get? (.str s)).or (es.get? (.str s)) := by
  induction news generalizing es with
  | nil => rfl
  | cons e news ih =>
    obtain ⟨k, v⟩ := e
    have later : (setAll ((k, v) :: news) es).get? (.str s) =
        (get? (.str s) news).or ((es.set k v).get? (.str s)) :=
      ih once.tail
    rw [later, get?]
    split
    next same =>
      obtain rfl := Key.same_str_iff.1 same
      rw [get?_eq_none_of_not_mem (List.nodup_cons.1 once).1, get?_set_str_self]
      rfl
    next other => rw [get?_set_of_not_same (Bool.eq_false_iff.2 other)]

end Entries

namespace Value

open Entries (Distinct)

theorem fst_texts_copyEntries (next : Nat) (es : List (Key × Value)) :
    (Entries.texts (copyEntries next es).1).map Prod.fst = (Entries.texts es).map Prod.fst := by
  induction es generalizing next with
  | nil => rfl
  | cons e es ih =>
    obtain ⟨k, v⟩ := e
    have inner := ih (copy (k.copy next).2 v).2
    cases k with
    | str s => simpa [copyEntries, Key.copy, Entries.texts] using inner
    | float x =>
      rw [copyEntries]
      unfold Key.copy at inner ⊢
      split at inner <;> simpa [Entries.texts] using inner
    | _ => simpa [copyEntries, Key.copy, Entries.texts] using inner

theorem fst_texts_copyTiedEntries (c : Copying) (es : List (Key × Value)) :
    (Entries.texts (copyTiedEntries c es).1).map Prod.fst = (Entries.texts es).map Prod.fst := by
  induction es generalizing c with
  | nil => rfl
  | cons e es ih =>
    obtain ⟨k, v⟩ := e
    have inner := ih (copyTied ⟨(k.copy c.next).2, c.given⟩ v).2
    cases k with
    | str s => simpa [copyTiedEntries, Key.copy, Entries.texts] using inner
    | float x =>
      rw [copyTiedEntries]
      unfold Key.copy at inner ⊢
      split at inner <;> simpa [Entries.texts] using inner
    | _ => simpa [copyTiedEntries, Key.copy, Entries.texts] using inner

/-! ### Shapes -/

/-- A mapping, or the place in a mapping where it comes back. -/
def isDict : Value → Bool
  | map _ _ | again _ true => true
  | _ => false

def holdsVars : Value → Bool
  | map _ es => (Entries.get? (.str "vars") es).any isDict
  | _ => false

/-- Whether a value has the shape that a state must have at a path. -/
def fits : List String → Value → Bool
  | ["globals"], v | ["scene"], v => v.holdsVars
  | ["globals", "vars"], v | ["scene", "vars"], v => v.isDict
  | ["nodes"], v => v.isMapping
  | _, _ => true

/-- Entries in which each tier has the shape required of it. -/
def Shaped (es : List (Key × Value)) : Prop :=
  ∀ name ∈ tierNames, (Entries.get? (.str name) es).any (fits [name]) = true

instance (es : List (Key × Value)) : Decidable (Shaped es) :=
  inferInstanceAs (Decidable (∀ _ ∈ _, _))

section

variable {v w c : Value} {m : Nat} {es fs : List (Key × Value)} {name : String} {rest : List String}
  {e : Edit}

theorem isDict_of_isMapping (h : v.isMapping = true) : v.isDict = true := by
  cases v <;> first | rfl | cases h

/-- What fits in the place of a tier is a mapping. -/
theorem exists_map_of_fits (member : name ∈ tierNames) (fit : fits [name] v = true) :
    ∃ m es, v = map m es := by
  simp only [tierNames, List.mem_cons, List.not_mem_nil, or_false] at member
  cases v with
  | map m es => exact ⟨m, es, rfl⟩
  | _ => rcases member with rfl | rfl | rfl <;> cases fit

theorem fits_of_not_mem (other : name ∉ tierNames) (rest : List String) (v : Value) :
    fits (name :: rest) v = true := by
  simp only [tierNames, List.mem_cons, List.not_mem_nil, or_false, not_or] at other
  unfold fits
  split <;> simp_all

theorem fits_congr (mapping : w.isMapping = v.isMapping) (vars : w.holdsVars = v.holdsVars)
    (name : String) : fits [name] w = fits [name] v := by
  by_cases tier : name ∈ tierNames
  · simp only [tierNames, List.mem_cons, List.not_mem_nil, or_false] at tier
    rcases tier with rfl | rfl | rfl
    · exact vars
    · exact vars
    · exact mapping
  · rw [fits_of_not_mem tier, fits_of_not_mem tier]

/-- Whether a mapping fits in the place of a tier rests on what it has under `vars`. -/
theorem fits_map
    (vars : (Entries.get? (.str "vars") es).any isDict = true →
      (Entries.get? (.str "vars") fs).any isDict = true)
    (m n : Nat) (name : String) (fit : fits [name] (map m es) = true) :
    fits [name] (map n fs) = true := by
  by_cases tier : name ∈ tierNames
  · simp only [tierNames, List.mem_cons, List.not_mem_nil, or_false] at tier
    rcases tier with rfl | rfl | rfl
    · exact vars fit
    · exact vars fit
    · rfl
  · exact fits_of_not_mem tier [] _

theorem shaped_set (shaped : Shaped es) (name : String) (v : Value) :
    Shaped (Entries.set (.str name) v es) ↔ fits [name] v = true := by
  by_cases tier : name ∈ tierNames
  · refine ⟨fun h => by simpa only [Entries.get?_set_str_self, Option.any_some] using h name tier,
      fun fit other member => ?_⟩
    by_cases same : name = other
    · subst same
      rw [Entries.get?_set_str_self, Option.any_some, fit]
    · rw [Entries.get?_set_str_of_ne same]
      exact shaped other member
  · refine iff_of_true (fun other member => ?_) (fits_of_not_mem tier [] v)
    have apart : name ≠ other := fun same => tier (same ▸ member)
    rw [Entries.get?_set_str_of_ne apart]
    exact shaped other member

/-! ### Values that read alike -/

theorem isDict_plain (v : Value) : v.plain.isDict = v.isDict := by
  cases v with
  | again m b => cases b <;> rfl
  | _ => rfl

theorem fits_plain (name : String) (v : Value) : fits [name] v.plain = fits [name] v := by
  refine fits_congr (isMapping_plain v) ?_ name
  cases v with
  | map m es =>
    rw [plain, holdsVars, holdsVars, get?_plainEntries]
    cases Entries.get? (.str "vars") es with
    | none => rfl
    | some w => exact isDict_plain w
  | _ => rfl

theorem isDict_tieIn (around : List Nat) (v : Value) : (tieIn around v).isDict = v.isDict := by
  cases v with
  | list m xs =>
    rw [tieIn]
    split
    next => rfl
    next => split <;> rfl
  | map m es =>
    rw [tieIn]
    split
    next => rfl
    next => split <;> rfl
  | _ => rfl

theorem fits_tieIn (name : String) (v : Value) : fits [name] (tieIn [] v) = fits [name] v := by
  have vars (around : List Nat) (es : List (Key × Value)) :
      (Entries.get? (.str "vars") (tieEntries around es)).any isDict =
      (Entries.get? (.str "vars") es).any isDict := by
    rw [get?_tieEntries]
    cases Entries.get? (.str "vars") es with
    | none => rfl
    | some w => exact isDict_tieIn around w
  refine fits_congr ?_ ?_ name
  · cases v with
    | map m es => by_cases unmarked : m = 0 <;> simp [tieIn, unmarked, isMapping]
    | list m xs => by_cases unmarked : m = 0 <;> simp [tieIn, unmarked, isMapping]
    | _ => rfl
  · cases v with
    | map m es => by_cases unmarked : m = 0 <;> simp [tieIn, unmarked, holdsVars, vars]
    | list m xs => by_cases unmarked : m = 0 <;> simp [tieIn, unmarked, holdsVars]
    | _ => rfl

theorem exists_tieIn_nil (m : Nat) (es : List (Key × Value)) :
    ∃ fs, tieIn [] (map m es) = map m fs := by
  by_cases unmarked : m = 0
  · exact ⟨_, by rw [tieIn, if_pos unmarked, unmarked]⟩
  · exact ⟨tieEntries [m] es, by simp [tieIn, unmarked]⟩

theorem shaped_tieEntries : Shaped (tieEntries [] es) ↔ Shaped es := by
  refine forall₂_congr fun name _ => ?_
  rw [get?_tieEntries]
  cases Entries.get? (.str name) es with
  | none => rfl
  | some v => rw [Option.map_some, Option.any_some, Option.any_some, fits_tieIn]

/-! ### Opened containers -/

theorem isDict_within (c : Value) (h : v.isDict = true) (mapping : c.isMapping = true) :
    (c.within v).isDict = true := by
  rw [within]
  split
  next => exact h
  next =>
    cases v with
    | map m es =>
      rw [fill]
      split <;> rfl
    | again m b =>
      rw [fill]
      split
      next => exact isDict_of_isMapping mapping
      next => exact h
    | _ => cases h

theorem isDict_along (segs : List String) (h : v.isDict = true) : (along segs v).isDict = true := by
  cases v with
  | map m es => cases segs <;> rfl
  | again m b => cases segs <;> exact h
  | _ => cases h

theorem fits_along (segs : List String) (fit : fits [name] (map m es) = true) :
    fits [name] (along segs (map m es)) = true := by
  cases segs with
  | nil => exact fit
  | cons s rest =>
    refine fits_map (fun vars => ?_) m m name fit
    obtain ⟨w, found, dict⟩ := (Option.any_eq_true _ _).1 vars
    have opened := isDict_within (map m es) dict rfl
    by_cases here : s = "vars"
    · subst here
      rw [entries, get?_along, found]
      exact isDict_along rest opened
    · rw [get?_along_of_ne (Ne.symm here), get?_entries, found]
      exact opened

/-! ### Edits and writes -/

theorem isDict_follow (now : ∃ gs, e.now = map e.mark gs) (h : v.isDict = true) :
    (follow e v).isDict = true := by
  cases v with
  | map m es =>
    obtain ⟨fs, followed⟩ := follow_map now m es
    rw [followed]
    rfl
  | again m b => exact h
  | _ => cases h

/-- An edit keeps the shape, unless it is of one of the tiers. -/
theorem shaped_followEntries (shaped : Shaped es) (now : ∃ gs, e.now = map e.mark gs)
    (tiers : ∀ name ∈ tierNames, ∀ fs, Entries.get? (.str name) es = some (map e.mark fs) →
      e.mark ≠ 0 → fits [name] e.now = true) : Shaped (followEntries e es) := by
  intro name member
  obtain ⟨v, found, fit⟩ := (Option.any_eq_true _ _).1 (shaped name member)
  obtain ⟨m, fs, rfl⟩ := exists_map_of_fits member fit
  rw [get?_followEntries, found, Option.map_some, Option.any_some, follow]
  split
  next edited =>
    obtain ⟨rfl, marked⟩ := edited
    exact tiers name member fs found marked
  next =>
    refine fits_map (fun vars => ?_) m m name fit
    obtain ⟨w, found', dict⟩ := (Option.any_eq_true _ _).1 vars
    rw [get?_followEntries, found']
    exact isDict_follow now dict

end

end Value

namespace Store

open Value
open Entries (Distinct)

variable {s t : Store} {next mark m : Nat} {es fs nodes : List (Key × Value)} {name id : String}
  {rest segs : List String} {v : Value}

/-- A write puts one entry in place: the value, or a mapping that holds it further down. -/
theorem write_entry (next mark : Nat) (es : List (Key × Value)) (s : String) (rest : List String)
    (v : Value) :
    ∃ w, (write next mark es (s :: rest) v).1 = Entries.set (.str s) w es ∧ (rest = [] → w = v) ∧
      (rest ≠ [] → w.isMapping = true) := by
  rcases write_cons next mark es s rest v with ⟨m, fs, more, -, written⟩ | ⟨-, written⟩
  · exact ⟨_, by rw [written], fun none => absurd none more, fun _ => rfl⟩
  · refine ⟨nest next rest v, by rw [written], ?_, ?_⟩
    · rintro rfl
      rfl
    · intro more
      obtain ⟨r, rest, rfl⟩ := List.exists_cons_of_ne_nil more
      rfl

theorem fits_of_long (name s r : String) (rest : List String) (v : Value) :
    fits (name :: s :: r :: rest) v = true := by
  unfold fits
  split <;> simp_all

/-- A write below the mapping of a tier keeps its shape, unless it is of its variables. -/
theorem fits_write (fit : fits [name] (.map m fs) = true) (more : rest ≠ []) :
    fits [name] (.map m (write next m fs rest v).1) = true ↔ fits (name :: rest) v = true := by
  by_cases tier : name ∈ tierNames
  · obtain ⟨s, rest, rfl⟩ := List.exists_cons_of_ne_nil more
    obtain ⟨w, written, last, inner⟩ := write_entry next m fs s rest v
    rw [written]
    have vars (fit : (Entries.get? (.str "vars") fs).any isDict = true) :
        (Entries.get? (.str "vars") (Entries.set (.str s) w fs)).any isDict = true ↔
          (s = "vars" → rest = [] → v.isDict = true) := by
      by_cases here : s = "vars"
      · subst here
        rw [Entries.get?_set_str_self, Option.any_some]
        by_cases stops : rest = []
        · simp [last stops, stops]
        · simp [isDict_of_isMapping (inner stops), stops]
      · rw [Entries.get?_set_str_of_ne here]
        exact iff_of_true fit fun there => absurd there here
    have short (tier : String) (known : tier = "globals" ∨ tier = "scene") :
        fits (tier :: s :: rest) v = true ↔ (s = "vars" → rest = [] → v.isDict = true) := by
      cases rest with
      | nil =>
        by_cases here : s = "vars"
        · rcases known with rfl | rfl <;> simp [here, fits]
        · refine iff_of_true ?_ fun there => absurd there here
          unfold fits
          split <;> simp_all
      | cons r rest => exact iff_of_true (fits_of_long tier s r rest v) fun _ none => (nomatch none)
    simp only [tierNames, List.mem_cons, List.not_mem_nil, or_false] at tier
    rcases tier with rfl | rfl | rfl
    · exact (vars fit).trans (short "globals" (Or.inl rfl)).symm
    · exact (vars fit).trans (short "scene" (Or.inr rfl)).symm
    · refine iff_of_true rfl ?_
      unfold fits
      split <;> simp_all
  · rw [fits_of_not_mem tier, fits_of_not_mem tier]

/-- A write keeps the shape just if the value fits at its path. -/
theorem shaped_write (shaped : Shaped es) (long : segs ≠ []) :
    Shaped (write next mark es segs v).1 ↔ fits segs v = true := by
  obtain ⟨name, rest, rfl⟩ := List.exists_cons_of_ne_nil long
  rcases write_cons next mark es name rest v with ⟨m, fs, more, found, written⟩ | ⟨stops, written⟩
  · rw [written, shaped_set shaped]
    by_cases tier : name ∈ tierNames
    · exact fits_write (by simpa only [found, Option.any_some] using shaped name tier) more
    · rw [fits_of_not_mem tier, fits_of_not_mem tier]
  · rw [written, shaped_set shaped]
    by_cases tier : name ∈ tierNames
    · obtain ⟨w, found, fit⟩ := (Option.any_eq_true _ _).1 (shaped name tier)
      obtain ⟨m, fs, rfl⟩ := exists_map_of_fits tier fit
      rw [stops m fs found, nest]
    · rw [fits_of_not_mem tier, fits_of_not_mem tier]

/-! ### States -/

/-- A state with the shape that its accessors rely on. -/
def WellShaped (s : Store) : Prop := Shaped s.tiers

instance (s : Store) : Decidable s.WellShaped := inferInstanceAs (Decidable (Shaped _))

/-- The mappings of `globals` and `scene` stand at no other place, and all containers are from
before. -/
structure Sole (s : Store) : Prop where
  once : ∀ name ∈ ["globals", "scene"], ∀ m es,
    Entries.get? (.str name) s.tiers = some (.map m es) → (heldEntries s.tiers).count m = 1
  below : HoldIn (· < s.next) s.tiers

theorem count_held_of_get? {k : Key} (found : Entries.get? k es = some v) (m : Nat) :
    v.held.count m ≤ (heldEntries es).count m := by
  induction es with
  | nil => cases found
  | cons e es ih =>
    obtain ⟨l, w⟩ := e
    rw [heldEntries, List.count_append]
    rw [Entries.get?] at found
    split at found
    next =>
      obtain rfl := Option.some.inj found
      exact Nat.le_add_right _ _
    next => exact Nat.le_trans (ih found) (Nat.le_add_left _ _)

/-- Under two texts stands no more than in all entries. -/
theorem count_held_add {a b : String} (other : a ≠ b) {w : Value}
    (found : Entries.get? (.str a) es = some v) (found' : Entries.get? (.str b) es = some w)
    (m : Nat) : v.held.count m + w.held.count m ≤ (heldEntries es).count m := by
  induction es with
  | nil => cases found
  | cons e es ih =>
    obtain ⟨l, u⟩ := e
    rw [heldEntries, List.count_append]
    rw [Entries.get?] at found found'
    by_cases first : l.same (.str a) = true
    · obtain rfl := Key.same_str_iff.1 first
      rw [if_pos first] at found
      rw [if_neg (mt Key.same_str_iff.1 fun same => other (Key.str.inj same))] at found'
      obtain rfl := Option.some.inj found
      exact Nat.add_le_add_left (count_held_of_get? found' m) _
    · rw [if_neg first] at found
      by_cases second : l.same (.str b) = true
      · rw [if_pos second] at found'
        obtain rfl := Option.some.inj found'
        rw [Nat.add_comm]
        exact Nat.add_le_add_left (count_held_of_get? found m) _
      · rw [if_neg second] at found'
        exact Nat.le_trans (ih found found') (Nat.le_add_left _ _)

namespace Sole

variable (sole : s.Sole) (member : name ∈ ["globals", "scene"])
  (found : Entries.get? (.str name) s.tiers = some (.map m es))

include sole member found

theorem own : HoldIn (· ≠ m) es := by
  have once := sole.once name member m es found
  have here := count_held_of_get? found m
  rw [held, List.count_cons_self] at here
  have none : (heldEntries es).count m = 0 := by omega
  exact fun n inside same => List.count_eq_zero.1 none (same ▸ inside)

theorem apart {other : String} (elsewhere : other ≠ name)
    (there : Entries.get? (.str other) s.tiers = some v) : Holds (· ≠ m) v := by
  have once := sole.once name member m es found
  have both := count_held_add elsewhere there found m
  rw [held, List.count_cons_self] at both
  have none : v.held.count m = 0 := by omega
  exact fun n inside same => List.count_eq_zero.1 none (same ▸ inside)

end Sole

/-! ### Writes -/

theorem shaped_opened (shaped : s.WellShaped) (opened : s.opened (name :: rest) = .map 0 es) :
    Shaped es := by
  obtain ⟨fs, opened', entry, others⟩ := s.exists_opened_cons name rest
  obtain ⟨-, rfl⟩ := Value.map.inj (opened.symm.trans opened')
  intro other member
  by_cases same : other = name
  · subst same
    obtain ⟨v, found, fit⟩ := (Option.any_eq_true _ _).1 (shaped other member)
    obtain ⟨m, gs, rfl⟩ := exists_map_of_fits member fit
    rw [entry, found, Option.map_some, Option.any_some]
    split
    next => exact fits_along rest fit
    next => exact fit
  · rw [others other same]
    exact shaped other member

theorem exists_map_of_along {u : Value} (opened : along rest u = .map m fs) :
    ∃ gs, u = .map m gs := by
  cases u with
  | map n gs =>
    cases rest <;> obtain ⟨rfl, -⟩ := Value.map.inj opened <;> exact ⟨gs, rfl⟩
  | list n xs => cases rest <;> cases opened
  | _ => cases rest <;> cases opened

/-- Opening a mapping that does not hold itself brings it nowhere. -/
theorem holdIn_along (own : HoldIn (· ≠ m) es) (opened : along rest (.map m es) = .map m fs) :
    HoldIn (· ≠ m) fs := by
  cases rest with
  | nil =>
    obtain ⟨-, rfl⟩ := Value.map.inj opened
    exact own
  | cons s rest =>
    obtain ⟨-, rfl⟩ := Value.map.inj opened
    rw [entries_of_hold_ne own, holdIn_iff]
    intro e member
    obtain ⟨f, there, rfl⟩ := List.mem_map.1 member
    have here := holdIn_iff.1 own f there
    dsimp only
    split
    next => exact here.along rest
    next => exact here

/-- An edit of a mapping that does not hold itself is of all that the write makes of it. -/
theorem now_write_of_own (own : HoldIn (· ≠ m) fs) (more : rest ≠ [])
    (here : (write next m fs rest v).2.mark = m) :
    (write next m fs rest v).2.now = .map m (write next m fs rest v).1 := by
  obtain ⟨s, rest, rfl⟩ := List.exists_cons_of_ne_nil more
  rcases write_cons next m fs s rest v with ⟨k, gs, -, found, written⟩ | ⟨-, written⟩
  · rw [written] at here
    have inside : m ∈ k :: marksEntries gs := here ▸ mark_write_mem next k gs rest v
    exact absurd rfl (own.get? found m (marks_subset_held (.map k gs) inside))
  · rw [written]

section

variable (shaped : Shaped es) (found : Entries.get? (.str name) es = some (.map m fs))
  (found' : Entries.get? (.str name) s.tiers = some (.map m nodes)) (more : rest ≠ [])

include shaped found found' more

/-- Where the shape is kept after the edit of a write, the value fits. -/
theorem fits_of_shaped_follow (marked : (write next m fs rest v).2.mark ≠ 0)
    (after : Shaped (followEntries (write next m fs rest v).2 s.tiers)) :
    fits (name :: rest) v = true := by
  by_cases tier : name ∈ tierNames
  · obtain ⟨a, rest, rfl⟩ := List.exists_cons_of_ne_nil more
    cases rest with
    | cons b rest => exact fits_of_long name a b rest v
    | nil =>
      have fit : fits [name] (.map m fs) = true := by
        simpa only [found, Option.any_some] using shaped name tier
      have kept := after name tier
      have edit : (write next m fs [a] v).2 = ⟨m, .map m (write next m fs [a] v).1⟩ := by
        simp only [write]
      rw [edit] at marked
      rw [get?_followEntries, found', edit, Option.map_some, Option.any_some, follow,
        if_pos ⟨rfl, marked⟩] at kept
      exact (fits_write fit more).1 kept
  · exact fits_of_not_mem tier rest v

/-- Where the value fits, the edit of a write leaves the mapping of a tier in shape. -/
theorem fits_now (sole : s.Sole) (opened : along rest (.map m nodes) = .map m fs)
    (fit : fits (name :: rest) v = true) {other : String} (member : other ∈ tierNames)
    {gs : List (Key × Value)}
    (there : Entries.get? (.str other) s.tiers = some (.map (write next m fs rest v).2.mark gs)) :
    fits [other] (write next m fs rest v).2.now = true := by
  obtain ⟨hs, now⟩ := now_write next m fs rest v
  by_cases last : other = "nodes"
  · subst last
    rw [now]
    rfl
  have known : other ∈ ["globals", "scene"] := by simpa [tierNames, last] using member
  have inside := mark_write_mem next m fs rest v
  by_cases same : name = other
  · subst same
    obtain ⟨mark, rfl⟩ := Value.map.inj (Option.some.inj (found'.symm.trans there))
    have own := holdIn_along (sole.own known found') opened
    rw [now_write_of_own own more mark.symm]
    exact (fits_write (by simpa only [found, Option.any_some] using shaped name member) more).2 fit
  · have elsewhere : Holds (· ≠ (write next m fs rest v).2.mark) (.map m fs) :=
      opened ▸ (sole.apart known there same found').along rest
    exact absurd rfl (elsewhere _ (marks_subset_held (.map m fs) inside))

end

/-- A write at a path keeps the shape of the state just if the value fits there, as long as the
mappings of the tiers are not reached along other paths. -/
theorem shaped_place (shaped : s.WellShaped) (sole : s.shared = true → s.Sole) (long : segs ≠ [])
    (v : Value) : (s.place segs v).1.WellShaped ↔ fits segs v = true := by
  obtain ⟨name, rest, rfl⟩ := List.exists_cons_of_ne_nil long
  obtain ⟨es, opened, entry, -⟩ := s.exists_opened_cons name rest
  have shaped' := shaped_opened shaped opened
  have drafted : s.drafted (name :: rest) v = write s.next 0 es (name :: rest) v := by
    rw [drafted, opened]
  have whole : Shaped (write s.next 0 es (name :: rest) v).1 ↔
      fits (name :: rest) v = true := shaped_write shaped' long
  have tiers : (s.place (name :: rest) v).1.tiers = if s.shared
      then s.afterEdit (write s.next 0 es (name :: rest) v).1 (write s.next 0 es (name :: rest) v).2
      else (write s.next 0 es (name :: rest) v).1 := by
    simp only [place, drafted, edited]
  rw [WellShaped, tiers]
  split
  next shared =>
    rw [afterEdit, shaped_tieEntries]
    split
    next => exact whole
    next marked =>
      -- the edit is of a mapping below the root
      rcases write_cons s.next 0 es name rest v with ⟨m, fs, more, found, written⟩ | ⟨-, written⟩
      · rw [written] at marked ⊢
        obtain ⟨u, found', opened'⟩ : ∃ u, Entries.get? (.str name) s.tiers = some u ∧
            along rest u = .map m fs := by
          simp only [entry, shared, if_true] at found
          exact Option.map_eq_some_iff.1 found
        obtain ⟨gs, rfl⟩ := exists_map_of_along opened'
        refine ⟨fun h => ?_, fun fit => ?_⟩
        · exact fits_of_shaped_follow shaped' found found' more marked h
        · refine shaped_followEntries shaped (now_write s.next m fs rest v)
            fun other hs gs there _ => ?_
          exact fits_now shaped' found found' more (sole shared) opened' fit hs there
      · rw [written] at marked
        exact absurd rfl marked
  next => exact whole

theorem WellShaped.set (shaped : s.WellShaped) (sole : s.shared = true → s.Sole) (path : String)
    (v : Value) : (s.set path v).1.WellShaped ↔ fits (segments path) v = true :=
  shaped_place shaped sole (segments_ne_nil path) v

theorem fits_node (id : String) (v : Value) : fits ["nodes", id] v = true := by
  unfold fits
  split <;> simp_all

/-! ### Nodes -/

/-- The tier of the nodes is a mapping. -/
theorem WellShaped.holdsNodes (shaped : s.WellShaped) : s.HoldsNodes := by
  obtain ⟨v, found, fit⟩ := (Option.any_eq_true _ _).1 (shaped "nodes" (by decide))
  obtain ⟨m, es, rfl⟩ := exists_map_of_fits (by decide) fit
  exact ⟨m, es, found⟩

theorem WellShaped.setNodeState (shaped : s.WellShaped) (id : String) (v : Value) :
    ∃ t edits, s.setNodeState id v = .ok (t, edits) ∧ ((s.shared = true → s.Sole) → t.WellShaped) :=
  ⟨{ (s.place ["nodes", id] v).1 with next := s.next }, _,
    setNodeState_of_holds shaped.holdsNodes id v,
    fun sole => (shaped_place shaped sole (List.cons_ne_nil _ _) v).2 (fits_node id v)⟩

/-- The mappings of `globals` and `scene` do not stand in the tier of the nodes. -/
def NodesApart (s : Store) : Prop := ∀ name ∈ ["globals", "scene"], ∀ m es,
  Entries.get? (.str name) s.tiers = some (.map m es) →
    ∀ v, Entries.get? (.str "nodes") s.tiers = some v → Holds (· ≠ m) v

theorem Sole.nodesApart (sole : s.Sole) : s.NodesApart := fun _ member _ _ found _ there =>
  sole.apart member found (by rintro rfl; exact absurd member (by decide)) there

/-- What a write into a node leaves of the tiers. -/
theorem tiers_place_node (shared : s.shared = true) {k : Nat}
    (found : Entries.get? (.str "nodes") s.tiers = some (.map k nodes)) (id : String) (v : Value) :
    ∃ opened now, along [id] (.map k nodes) = .map k opened ∧ now = .map k
      (Entries.set (.str id) v opened) ∧
      Entries.get? (.str "nodes") (s.place ["nodes", id] v).1.tiers = some (tieIn [] now) ∧
      ∀ other, other ≠ "nodes" → Entries.get? (.str other) (s.place ["nodes", id] v).1.tiers =
        (Entries.get? (.str other) s.tiers).map fun w => tieIn []
        (if k = 0 then w else follow ⟨k, now⟩ w) := by
  obtain ⟨es, opened, entry, others⟩ := s.exists_opened_cons "nodes" [id]
  obtain ⟨fs, along'⟩ : ∃ fs, along [id] (.map k nodes) = .map k fs := ⟨_, rfl⟩
  have there : Entries.get? (.str "nodes") es = some (.map k fs) := by
    rw [entry, found]
    simp only [shared, if_true, Option.map_some, along']
  have tiers : (s.place ["nodes", id] v).1.tiers = tieEntries [] (if k = 0
      then Entries.set (.str "nodes") (.map k (Entries.set (.str id) v fs)) es
      else followEntries ⟨k, .map k (Entries.set (.str id) v fs)⟩ s.tiers) := by
    have drafted : s.drafted ["nodes", id] v = write s.next 0 es ["nodes", id] v := by
      rw [drafted, opened]
    rw [write_into there (List.cons_ne_nil id [])] at drafted
    simp only [write, nest] at drafted
    simp only [place, drafted, edited, shared, if_true, afterEdit]
  refine ⟨fs, _, along', rfl, ?_, fun other apart => ?_⟩
  · rw [tiers, get?_tieEntries]
    split
    next => rw [Entries.get?_set_str_self, Option.map_some]
    next marked =>
      rw [get?_followEntries, found, Option.map_some, follow, if_pos ⟨rfl, marked⟩, Option.map_some]
  · rw [tiers, get?_tieEntries]
    split
    next => rw [Entries.get?_set_str_of_ne (Ne.symm apart), others other apart]
    next =>
      rw [get?_followEntries, Option.map_map]
      rfl

theorem nodesApart_makeNode (shaped : s.WellShaped) (shared : s.shared = true) (sole : s.Sole)
    (id : String) : (s.makeNode id).1.NodesApart := by
  rcases s.makeNode_cases id with ⟨-, same⟩ | ⟨-, made⟩
  · rw [same]
    exact sole.nodesApart
  · rw [made]
    obtain ⟨k, nodes, found⟩ := shaped.holdsNodes
    let s' : Store := { s with next := s.next + 1 }
    obtain ⟨opened, now, along', rfl, node, others⟩ :=
      tiers_place_node (s := s') shared found id (.map s.next [])
    intro name member m es there v nodes'
    have apart : name ≠ "nodes" := by
      rintro rfl
      exact absurd member (by decide)
    rw [others name apart] at there
    obtain ⟨w, found', tied⟩ := Option.map_eq_some_iff.1 there
    -- the mapping of the tier has kept its mark
    have mark : ∃ fs, w = .map m fs := by
      obtain ⟨u, found'', fit⟩ := (Option.any_eq_true _ _).1
        (shaped name (List.mem_append_left ["nodes"] member))
      obtain rfl := Option.some.inj (found'.symm.trans found'')
      obtain ⟨m', fs, rfl⟩ := exists_map_of_fits (List.mem_append_left ["nodes"] member) fit
      have now : ∃ gs, (if k = 0 then Value.map m' fs else
          follow ⟨k, .map k (Entries.set (.str id) (.map s.next []) opened)⟩ (.map m' fs)) =
              .map m' gs := by
        split
        next => exact ⟨fs, rfl⟩
        next => exact follow_map ⟨_, rfl⟩ m' fs
      obtain ⟨gs, now⟩ := now
      obtain ⟨gs', closed⟩ := exists_tieIn_nil m' gs
      rw [now, closed] at tied
      exact ⟨fs, by rw [(Value.map.inj tied).1]⟩
    obtain ⟨fs, rfl⟩ := mark
    obtain rfl := Option.some.inj (node.symm.trans nodes')
    have before := sole.apart member found' (Ne.symm apart) found
    have inner : Holds (· ≠ m) (.map k opened) := along' ▸ before.along [id]
    have earlier : m < s.next := sole.below.get? found' m List.mem_cons_self
    have fresh : Holds (· ≠ m) (.map s.next []) := holds_map.2 ⟨Nat.ne_of_gt earlier, holdIn_nil⟩
    exact Holds.tieIn [] _ (holds_map.2 ⟨(holds_map.1 inner).1, (holds_map.1 inner).2.set _ fresh⟩)

theorem shaped_mergeNode (shaped : s.WellShaped) (apart : s.shared = true → s.NodesApart)
    (id : String) (news : List (Key × Value)) : (s.mergeNode id news).1.WellShaped := by
  cases here : s.nodeMapping? id with
  | none => rwa [mergeNode_of_none here]
  | some p =>
    obtain ⟨n, old⟩ := p
    let now : Value := .map n (Entries.setAll news old)
    have drafted : Shaped (s.drafted ["nodes", id] now).1 := by
      obtain ⟨es, opened, -⟩ := s.exists_opened_cons "nodes" [id]
      rw [Store.drafted, opened]
      exact (shaped_write (shaped_opened shaped opened) (List.cons_ne_nil _ _)).2 (fits_node id now)
    have tiers : (s.mergeNode id news).1.tiers = if s.shared
        then s.afterEdit (s.drafted ["nodes", id] now).1 ⟨n, now⟩
        else (s.drafted ["nodes", id] now).1 := by
      rw [mergeNode_of_some here]
      rfl
    rw [WellShaped, tiers]
    split
    next shared =>
      rw [afterEdit, shaped_tieEntries]
      split
      next => exact drafted
      next =>
        refine shaped_followEntries shaped ⟨_, rfl⟩ fun name member fs there _ => ?_
        by_cases last : name = "nodes"
        · subst last
          rfl
        · have known : name ∈ ["globals", "scene"] := by simpa [tierNames, last] using member
          have mapping := holds_nodeMapping here (apart shared name known n fs there)
          exact absurd rfl (holds_map.1 mapping).1
    next => exact drafted

/-- A mapping reads as a mapping with its keys. -/
theorem exists_ownParts_map (s : Store) (m : Nat) (es : List (Key × Value)) :
    ∃ fs, s.ownParts [] (.map m es) = .map m fs ∧ fs.map Prod.fst = es.map Prod.fst := by
  rw [ownParts]
  split
  next =>
    have closed : ∃ gs, (Value.map m es).tie = .map m gs ∧ gs.map Prod.fst = es.map Prod.fst := by
      by_cases unmarked : m = 0
      · exact ⟨_, by rw [tie, tieIn, if_pos unmarked, unmarked], fst_tieEntries [] es⟩
      · exact ⟨tieEntries [m] es, by simp [tie, tieIn, unmarked], fst_tieEntries [m] es⟩
    obtain ⟨gs, closed, keys⟩ := closed
    refine ⟨_, by rw [followAll, List.foldl_nil, closed, unroll], Eq.trans ?_ keys⟩
    simp [entries, Function.comp_def]
  next => exact ⟨es, rfl, rfl⟩

/-- So does one after edits of mappings. -/
theorem exists_ownParts_of_edits {edits : List Edit}
    (nows : ∀ e ∈ edits, ∃ gs, e.now = .map e.mark gs) (s : Store) (m : Nat)
    (es : List (Key × Value)) : ∃ fs, s.ownParts edits (.map m es) = .map m fs := by
  cases shared : s.shared with
  | false => exact ⟨es, ownParts_of_unshared shared edits _⟩
  | true =>
    have followed : ∃ gs, followAll edits (.map m es) = .map m gs := by
      induction edits generalizing es with
      | nil => exact ⟨es, rfl⟩
      | cons e edits ih =>
        obtain ⟨first, later⟩ := List.forall_mem_cons.1 nows
        obtain ⟨gs, now⟩ := follow_map first m es
        obtain ⟨hs, rest⟩ := ih later gs
        exact ⟨hs, by rw [followAll, List.foldl_cons, now]; exact rest⟩
    obtain ⟨gs, followed⟩ := followed
    obtain ⟨fs, parts, -⟩ := s.exists_ownParts_map m gs
    refine ⟨fs, parts ▸ ?_⟩
    simp only [ownParts, shared, if_true]
    rw [followed]
    rfl

theorem now_makeNode (s : Store) (id : String) :
    ∀ e ∈ (s.makeNode id).2, ∃ gs, e.now = .map e.mark gs := by
  rcases s.makeNode_cases id with ⟨-, same⟩ | ⟨-, made⟩
  · rw [same]
    exact fun _ none => absurd none List.not_mem_nil
  · rw [made]
    refine List.forall_mem_singleton.2 ?_
    obtain ⟨es, opened, -⟩ := exists_opened_cons { s with next := s.next + 1 } "nodes" [id]
    simp only [opened]
    exact now_write _ _ _ _ _

theorem WellShaped.updateNodeState (shaped : s.WellShaped) (id : String) (m : Nat)
    (es : List (Key × Value)) :
    ∃ t edits, s.updateNodeState id (.map m es) = .ok (t, edits, none) ∧
      ((s.shared = true → s.Sole) → t.WellShaped) := by
  obtain ⟨n, nodes, found⟩ := shaped.holdsNodes
  obtain ⟨fs, parts⟩ := exists_ownParts_of_edits (s.now_makeNode id) (s.makeNode id).1 m es
  refine ⟨((s.makeNode id).1.mergeNode id fs).1,
    (s.makeNode id).2 ++ ((s.makeNode id).1.mergeNode id fs).2, ?_,
    fun sole => shaped_mergeNode ?_ ?_ id fs⟩
  · exact updateNodeState_of_parts ⟨n, nodes, found⟩ parts
  · rcases s.makeNode_cases id with ⟨-, same⟩ | ⟨-, made⟩
    · rwa [same]
    · rw [made]
      have sole' : s.shared = true → Sole { s with next := s.next + 1 } := fun shared =>
        ⟨(sole shared).once, (sole shared).below.mono fun m before => Nat.lt_succ_of_lt before⟩
      exact (shaped_place (s := { s with next := s.next + 1 }) shaped sole'
        (List.cons_ne_nil _ _) _).2 (fits_node id _)
  · intro shared
    rw [shared_makeNode] at shared
    exact nodesApart_makeNode shaped shared (sole shared) id

/-! ### Accessors -/

/-- The variables of a tier are a mapping. -/
theorem WellShaped.vars (shaped : s.WellShaped) (member : name ∈ ["globals", "scene"]) :
    ∃ v, (do part (← s.tier name) "vars") = .ok v ∧ v.isDict = true := by
  obtain ⟨v, found, fit⟩ := (Option.any_eq_true _ _).1
    (shaped name (List.mem_append_left ["nodes"] member))
  obtain ⟨m, es, rfl⟩ := exists_map_of_fits (List.mem_append_left ["nodes"] member) fit
  have vars : (Entries.get? (.str "vars") es).any isDict = true := by
    rcases List.mem_cons.1 member with rfl | later
    · exact fit
    · obtain rfl := List.mem_singleton.1 later
      exact fit
  obtain ⟨w, found', dict⟩ := (Option.any_eq_true _ _).1 vars
  refine ⟨(Value.map m es).within w, ?_, isDict_within (.map m es) dict rfl⟩
  rw [tier_eq_ok_iff.2 found]
  show part (.map m es) "vars" = _
  rw [part, found']

/-! ### Snapshots -/

theorem shaped_emptyTiers (next : Nat) : Shaped (emptyTiers next) := by
  intro name member
  simp only [tierNames, List.mem_cons, List.not_mem_nil, or_false] at member
  rcases member with rfl | rfl | rfl <;> rfl

theorem WellShaped.resetScene (shaped : s.WellShaped) : s.resetScene.WellShaped := by
  have scene := (shaped_set shaped "scene" (.map s.next [(.str "vars", .map (s.next + 1) [])])).2
    rfl
  exact (shaped_set scene "nodes" (.map (s.next + 2) [])).2 rfl

theorem distinct_adoptEntries (once : Distinct es) (s : Store) :
    Distinct (s.adoptEntries es).1 := by
  rw [Distinct, adoptEntries]
  split
  next => exact (fst_texts_copyTiedEntries _ es).symm ▸ once
  next => exact (fst_texts_copyEntries _ es).symm ▸ once

/-- A snapshot brings its own tiers, and the others are empty. -/
theorem restore_shape (s : Store) (m : Nat) {es : List (Key × Value)} (once : Distinct es) :
    ∃ t, s.restore (.map m es) = .ok t ∧ (t.WellShaped ↔ ∀ name ∈ tierNames, ∀ v,
      Entries.get? (.str name) (mergePairs (s.ownParts [] (.map m es))).1 = some v → fits
        [name] v = true) := by
  obtain ⟨fs, parts, keys⟩ := s.exists_ownParts_map m es
  have merged : mergePairs (s.ownParts [] (.map m es)) = (fs, none) := by rw [parts, mergePairs]
  have once' : Distinct fs := once.of_fst keys
  let u : Store := { s with next := s.next + 5 }
  refine ⟨_, restore_of_pairs merged, ?_⟩
  rw [merged]
  have closed : Shaped (if s.shared then tieEntries []
      (Entries.setAll (u.adoptEntries fs).1 (emptyTiers s.next))
      else Entries.setAll (u.adoptEntries fs).1 (emptyTiers s.next)) ↔
        Shaped (Entries.setAll (u.adoptEntries fs).1 (emptyTiers s.next)) := by
    split
    next => exact shaped_tieEntries
    next => rfl
  refine closed.trans (forall₂_congr fun name member => ?_)
  have copied := congrArg (Entries.get? (.str name)) (u.plainEntries_adoptEntries fs)
  rw [get?_plainEntries, get?_plainEntries] at copied
  rw [Entries.get?_setAll (distinct_adoptEntries once' u)]
  cases found : Entries.get? (.str name) fs with
  | none =>
    rw [found, Option.map_none, Option.map_eq_none_iff] at copied
    rw [copied, Option.none_or]
    exact ⟨fun _ v there => absurd there.symm (Option.some_ne_none v),
      fun _ => shaped_emptyTiers s.next name member⟩
  | some v =>
    rw [found, Option.map_some] at copied
    obtain ⟨w, there, same⟩ := Option.map_eq_some_iff.1 copied
    have fit : fits [name] w = fits [name] v := by rw [← fits_plain, same, fits_plain]
    simp [there, fit]

theorem ofInitial_shape (m : Nat) {es : List (Key × Value)} (once : Distinct es) :
    ∃ t, ofInitial (.map m es) = .ok t ∧ (t.WellShaped ↔ ∀ name ∈ tierNames, ∀ v,
      Entries.get? (.str name) (mergePairs (empty.share.ownParts [] (.map m es))).1 = some v → fits
        [name] v = true) := by
  cases es with
  | nil =>
    obtain ⟨fs, parts, keys⟩ := empty.share.exists_ownParts_map m []
    obtain rfl := List.map_eq_nil_iff.1 keys
    rw [parts, mergePairs]
    exact ⟨empty.share, rfl, fun _ _ _ v there => absurd there.symm (Option.some_ne_none v),
      fun _ => shaped_emptyTiers 1⟩
  | cons e es => exact restore_shape empty.share m once

/-- What keeps the shape of a state, and what loses it. Resets and writes to nodes keep it; a write
at a path loses it exactly when the value does not fit there, and a snapshot when one of its tiers
does not. In a store whose containers may stand at several places, this is so for writes while the
mappings of the tiers stand at one. The accessors of the tiers rely on nothing else. -/
theorem shape_kept_iff {s : Store} (shaped : s.WellShaped) :
    s.reset.WellShaped ∧ s.resetScene.WellShaped ∧
      (∀ id v, ∃ t edits, s.setNodeState id v = .ok (t, edits) ∧
        ((s.shared = true → s.Sole) → t.WellShaped)) ∧
      (∀ id m es, ∃ t edits, s.updateNodeState id (.map m es) = .ok (t, edits, none) ∧
        ((s.shared = true → s.Sole) → t.WellShaped)) ∧
      (∀ path v, (s.shared = true → s.Sole) →
        ((s.set path v).1.WellShaped ↔ fits (segments path) v = true)) ∧
      (∀ m es, Distinct es →
        (∃ t, s.restore (.map m es) = .ok t ∧ (t.WellShaped ↔ ∀ name ∈ tierNames, ∀ v,
          Entries.get? (.str name) (mergePairs (s.ownParts [] (.map m es))).1 = some v → fits
            [name] v = true)) ∧
        (∃ t, ofInitial (.map m es) = .ok t ∧ (t.WellShaped ↔ ∀ name ∈ tierNames, ∀ v,
          Entries.get? (.str name) (mergePairs (empty.share.ownParts [] (.map m es))).1 = some v →
            fits [name] v = true))) ∧
      (∃ v, s.globalVars = .ok v ∧ v.isDict = true) ∧ (∃ v, s.sceneVars = .ok v ∧ v.isDict = true) ∧
      ∀ id, ∃ v, s.nodeState id = .ok v := by
  refine ⟨shaped_emptyTiers s.next, shaped.resetScene, shaped.setNodeState, shaped.updateNodeState,
    fun path v sole => shaped.set sole path v, fun m es once =>
      ⟨restore_shape s m once, ofInitial_shape m once⟩,
    shaped.vars (by decide), shaped.vars (by decide), fun id => ?_⟩
  obtain ⟨m, es, found⟩ := shaped.holdsNodes
  exact ⟨_, by rw [nodeState, nodeEntries_eq_ok_iff.2 found]; rfl⟩

/-- A number in the place of the variables, and a snapshot with a list for a scene. The name of a
tier may be a part of a longer path. -/
theorem shape_kept_iff_empty :
    empty.WellShaped ∧ ¬(empty.set "globals.vars" (.int 1)).1.WellShaped ∧
      (empty.set "globals.vars.nodes" (.int 1)).1.WellShaped ∧
      (empty.set "scene.state" (.int 1)).1.WellShaped ∧
      ∃ t, empty.restore (.map 0 [(.str "scene", .list 0 [])]) = .ok t ∧ ¬t.WellShaped := by
  have shaped : empty.WellShaped := shaped_emptyTiers 1
  obtain ⟨-, -, -, -, write, snapshot, -⟩ := shape_kept_iff shaped
  obtain ⟨⟨t, restored, kept⟩, -⟩ := snapshot 0 [(.str "scene", .list 0 [])] (by decide)
  refine ⟨shaped, ?_, ?_, ?_, t, restored, fun still => ?_⟩
  · rw [write _ _ (fun shared => nomatch shared)]
    decide
  · rw [write _ _ (fun shared => nomatch shared)]
    decide
  · rw [write _ _ (fun shared => nomatch shared)]
    decide
  · exact absurd (kept.1 still "scene" (by decide) (.list 0 []) rfl) (by decide)

/-- The mapping of the tier `globals` that stands in the place of a node's state too: what is
written to the node takes the variables away. -/
theorem shape_lost :
    ∃ s edits, empty.share.setNodeState "n" (.map 1 [(.str "vars", .map 2 [])]) = .ok (s, edits) ∧
    s.WellShaped ∧ fits (segments "nodes.n.vars") (.int 5) = true ∧
    ¬(s.set "nodes.n.vars" (.int 5)).1.WellShaped ∧
    ∃ t edits, s.updateNodeState "n" (.object [("vars", .int 5)]) = .ok (t, edits, none) ∧
    ¬t.WellShaped :=
  ⟨_, _, rfl, by decide, by decide, by decide, _, _, rfl, by decide⟩

end Store

end SceneCourse
