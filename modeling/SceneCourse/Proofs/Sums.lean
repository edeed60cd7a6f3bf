import Mathlib.Algebra.BigOperators.Group.List.Basic
import Mathlib.Algebra.Ring.Int.Defs
import SceneCourse.Proofs.Increment
import SceneCourse.Proofs.Leaves

/-! Additions in any order. Additions are made at paths none of which leads to another. What one of
them leaves is said for everything behind any keys and along any path: a number at its path,
mappings above it, nothing below it, and all else as it was. From that, a run of additions leaves at
every path what was there and the sum of all amounts given for it. The order and the nesting of the
additions leave no trace but the order of new entries. A run comes to its end unless the note about
an addition has to write down an integer that is too long; the sum has been written then, and the
rest is not made. -/

namespace SceneCourse

/-- A row lies behind one of some rows, or before one, or is apart from all. -/
theorem behind_or_before {α β : Type} (f : β → List α) (bs : List β) (q : List α) :
    (∃ b ∈ bs, f b <+: q) ∨ (∃ b ∈ bs, q <+: f b ∧ q ≠ f b) ∨ ∀ b ∈ bs, Diverge (f b) q := by
  by_cases behind : ∃ b ∈ bs, f b <+: q
  · exact Or.inl behind
  · by_cases before : ∃ b ∈ bs, q <+: f b
    · obtain ⟨b, hb, up⟩ := before
      refine Or.inr (Or.inl ⟨b, hb, up, ?_⟩)
      rintro rfl
      exact behind ⟨b, hb, List.prefix_refl _⟩
    · exact Or.inr (Or.inr fun b hb => ⟨fun down => behind ⟨b, hb, down⟩,
        fun up => before ⟨b, hb, up⟩⟩)

namespace Store

open Value

/-! ### Totals -/

/-- The sum of the amounts that are given for a row of segments. -/
def total (steps : List (String × Int)) (segs : List String) : Int :=
  ((steps.filter fun a => segments a.1 = segs).map (·.2)).sum

theorem total_append (steps more : List (String × Int)) (segs : List String) :
    total (steps ++ more) segs = total steps segs + total more segs := by
  rw [total, List.filter_append, List.map_append, List.sum_append, total, total]

theorem total_single (a : String × Int) (segs : List String) :
    total [a] segs = if segments a.1 = segs then a.2 else 0 := by
  by_cases same : segments a.1 = segs <;> simp [total, same]

theorem total_eq_zero {steps : List (String × Int)} {segs : List String}
    (absent : ∀ a ∈ steps, segments a.1 ≠ segs) : total steps segs = 0 := by
  rw [total, List.filter_eq_nil_iff.2 (by simpa using absent)]
  rfl

theorem total_perm {steps others : List (String × Int)} (perm : steps.Perm others)
    (segs : List String) : total steps segs = total others segs := ((perm.filter _).map _).sum_eq

/-! ### Counts -/

variable {s t : Store} {p q : String} {m n : Int}

theorem Counts.congr (same : segments p = segments q) : s.Counts p n ↔ s.Counts q n := by
  rw [Counts, Counts, get, get, same]

theorem Counts.unique (h : s.Counts p m) (h' : s.Counts p n) : m = n := by
  rcases h with found | ⟨found, rfl⟩ <;> rcases h' with found' | ⟨found', rfl⟩ <;>
    cases found.symm.trans found' <;> rfl

def keys (path : String) : List Key := (segments path).map .str

theorem keys_prefix_iff : keys p <+: keys q ↔ segments p <+: segments q :=
  List.prefix_map_iff_of_injective fun _ _ => Key.str.inj

theorem keys_injective : Function.Injective (List.map Key.str) :=
  List.map_injective_iff.2 fun _ _ => Key.str.inj

theorem keys_diverge (apart : Diverge (segments p) (segments q)) : Diverge (keys p) (keys q) :=
  ⟨fun h => apart.1 (keys_prefix_iff.1 h), fun h => apart.2 (keys_prefix_iff.1 h)⟩

/-! ### What additions leave -/

variable {made : List (String × Int)}

/-- A state that some additions have left of another one. -/
structure Added (s : Store) (made : List (String × Int)) (t : Store) : Prop where
  tree : t.shared = true → t.Tree
  here : ∀ a ∈ made, ∀ n, s.Counts a.1 n → t.root.dig (keys a.1) =
    some (.int (n + total made (segments a.1)))
  above : ∀ a ∈ made, ∀ ks, ks <+: keys a.1 → ks ≠ keys a.1 →
    ∃ m es, t.root.dig ks = some (.map m es)
  apart : ∀ ks, (∀ a ∈ made, Diverge (keys a.1) ks) → t.root.dig ks = s.root.dig ks
  beside : ∀ c, (∀ a ∈ made, Diverge (segments a.1) c) → t.root.lookup c = s.root.lookup c

theorem Added.nil (tree : s.shared = true → s.Tree) : Added s [] s where
  tree := tree
  here := nofun
  above := nofun
  apart _ _ := rfl
  beside _ _ := rfl

/-- A path that an addition can be made at after others: it is the path of one of them or apart from
all, there is something to start from, and no list stands above it. -/
structure Open (s : Store) (made : List (String × Int)) (path : String) : Prop where
  paths : ∀ a ∈ made, segments a.1 = segments path ∨ Diverge (segments a.1) (segments path)
  number : ∃ n, s.Counts path n
  clear : ∀ c, c <+: segments path → c ≠ segments path → ¬s.root.HoldsList c

/-- Additions put no list above an open path. -/
theorem Added.clear (h : Added s made t) (fit : s.Open made p) {c : List String}
    (above : c <+: segments p) (proper : c ≠ segments p) : ¬t.root.HoldsList c := by
  rintro ⟨m, xs, list⟩
  by_cases passed : ∃ a ∈ made, c <+: segments a.1 ∧ c ≠ segments a.1
  · obtain ⟨a, ha, up, other⟩ := passed
    have differ : c.map Key.str ≠ keys a.1 := fun same => other (keys_injective same)
    obtain ⟨k, es, mapping⟩ := h.above a ha (c.map .str) (up.map Key.str) differ
    cases list.symm.trans (lookup_eq_of_dig mapping)
  · have outside (a : String × Int) (ha : a ∈ made) : Diverge (segments a.1) c := by
      have upTo (up : c <+: segments a.1) : c = segments a.1 := by
        by_contra other
        exact passed ⟨a, ha, up, other⟩
      rcases fit.paths a ha with same | apart
      · exact absurd (upTo (same ▸ above)) (same ▸ proper)
      · refine apart.above above fun up => apart.1 ?_
        rwa [← upTo up]
    refine fit.clear c above proper ⟨m, xs, ?_⟩
    rw [← h.beside c outside]
    exact list

/-- At an open path there is now what was there and the total of the additions. -/
theorem Added.counts (h : Added s made t) (origin : s.shared = true → s.Tree) (fit : s.Open made p)
    (start : s.Counts p n) : t.Counts p (n + total made (segments p)) := by
  by_cases known : ∃ a ∈ made, segments a.1 = segments p
  · obtain ⟨a, ha, same⟩ := known
    have read := lookup_eq_of_dig (h.here a ha n ((Counts.congr same).2 start))
    rw [same] at read
    exact Or.inl ((get_eq_lookup h.tree p).trans read)
  · have other (a : String × Int) (ha : a ∈ made) : segments a.1 ≠ segments p :=
      fun same => known ⟨a, ha, same⟩
    have kept := h.beside (segments p) fun a ha => (fit.paths a ha).resolve_left (other a ha)
    rw [total_eq_zero other, add_zero, Counts, get_eq_lookup h.tree, kept, ← get_eq_lookup origin]
    exact start

/-- Of a run with one addition more, an addition at another path is an earlier one that is apart. -/
theorem Open.parted (fit : s.Open made p) {a : String × Int} (ha : a ∈ made ++ [(p, n)])
    (other : segments a.1 ≠ segments p) : a ∈ made ∧ Diverge (segments p) (segments a.1) := by
  rcases List.mem_append.1 ha with old | new
  · exact ⟨old, ((fit.paths a old).resolve_left other).symm⟩
  · rw [List.mem_singleton.1 new] at other
    exact absurd rfl other

section

variable (tree : t.shared = true → t.Tree)

include tree

theorem root_set_int (p : String) (n : Int) :
    (t.set p (.int n)).1.root = .map 0 (write t.next 0 t.tiers (segments p) (.int n)).1 := by
  rw [set_of_bare tree rfl rfl]
  rfl

theorem dig_set_int (p : String) (n : Int) :
    (t.set p (.int n)).1.root.dig (keys p) = some (.int n) := by
  have there := dig_write t.next 0 t.tiers (segments_ne_nil p) (.int n) []
  rwa [List.append_nil, ← root_set_int tree] at there

theorem dig_set_int_above {ks : List Key} (up : ks <+: keys p) (proper : ks ≠ keys p) (n : Int) :
    ∃ m es, (t.set p (.int n)).1.root.dig ks = some (.map m es) := by
  rw [root_set_int tree]
  exact dig_write_above t.next 0 t.tiers up proper _

theorem dig_set_int_apart {ks : List Key} (apart : Diverge (keys p) ks) (n : Int) :
    (t.set p (.int n)).1.root.dig ks = t.root.dig ks := by
  rw [root_set_int tree]
  exact dig_write_apart t.next 0 t.tiers apart.1 apart.2 _

theorem lookup_set_int_apart {c : List String} (apart : Diverge (segments p) c)
    (clear : ∀ d, d <+: segments p → d ≠ segments p → ¬t.root.HoldsList d) (n : Int) :
    (t.set p (.int n)).1.root.lookup c = t.root.lookup c := by
  rw [root_set_int tree]
  refine (@read_write_beside false (.int n) nofun t.next 0 t.tiers nofun _ c apart.1 apart.2).1 ?_
  rintro ⟨d, up, up', list⟩
  refine clear d up ?_ list
  rintro rfl
  exact apart.1 up'

end

/-- One addition more. -/
theorem Added.step (h : Added s made t) {path : String} {amount : Int} (fit : s.Open made path)
    (start : s.Counts path n) :
    Added s (made ++ [(path, amount)])
      (t.set path (.int (n + total (made ++ [(path, amount)]) (segments path)))).1 := by
  have member {P : String × Int → Prop} (h : ∀ a ∈ made ++ [(path, amount)], P a) :
      (∀ a ∈ made, P a) ∧ P (path, amount) :=
        ⟨fun a ha => h a (List.mem_append_left _ ha), h _ (by simp)⟩
  constructor
  case tree =>
    intro shared
    rw [set_of_bare h.tree rfl rfl] at shared
    exact (h.tree shared).set rfl rfl
  case here =>
    intro a ha m start'
    by_cases same : segments a.1 = segments path
    · obtain rfl := ((Counts.congr same).1 start').unique start
      rw [keys, same]
      exact dig_set_int h.tree path _
    · obtain ⟨old, apart⟩ := fit.parted ha same
      have none : total [(path, amount)] (segments a.1) = 0 :=
        (total_single _ _).trans (if_neg (Ne.symm same))
      rw [total_append made _ (segments a.1), none, add_zero]
      exact (dig_set_int_apart h.tree (keys_diverge apart) _).trans (h.here a old m start')
  case above =>
    intro a ha ks up proper
    by_cases inside : ks <+: keys path ∧ ks ≠ keys path
    · exact dig_set_int_above h.tree inside.1 inside.2 _
    · have other : segments a.1 ≠ segments path := by
        intro same
        rw [keys, same] at up proper
        exact inside ⟨up, proper⟩
      obtain ⟨old, apart⟩ := fit.parted ha other
      have passed : ¬ks <+: keys path := by
        intro up'
        have whole : ks = keys path := by
          by_contra differ
          exact inside ⟨up', differ⟩
        exact (keys_diverge apart).1 (whole ▸ up)
      obtain ⟨m, es, mapping⟩ := h.above a old ks up proper
      exact ⟨m, es, (dig_set_int_apart h.tree ((keys_diverge apart).above up passed) _).trans
        mapping⟩
  case apart =>
    intro ks all
    obtain ⟨old, new⟩ := member all
    exact (dig_set_int_apart h.tree new _).trans (h.apart ks old)
  case beside =>
    intro c all
    obtain ⟨old, new⟩ := member all
    exact (lookup_set_int_apart h.tree new (fun d => h.clear fit) _).trans (h.beside c old)

/-! ### Sums -/

/-- Additions that can be made in any order: their paths are the same or apart, a number or nothing
stands at each, and no list above it. -/
structure Summable (s : Store) (steps : List (String × Int)) : Prop where
  paths : ∀ a ∈ steps, ∀ b ∈ steps, segments a.1 = segments b.1 ∨
    Diverge (segments a.1) (segments b.1)
  number : ∀ a ∈ steps, ∃ n, s.Counts a.1 n
  clear : ∀ a ∈ steps, ∀ c, c <+: segments a.1 → c ≠ segments a.1 → ¬s.root.HoldsList c

theorem Summable.opens {steps : List (String × Int)} (h : s.Summable steps) {a : String × Int}
    (ha : a ∈ steps) (part : made ⊆ steps) : s.Open made a.1 :=
  ⟨fun b hb => h.paths b (part hb) a ha, h.number a ha, h.clear a ha⟩

theorem Summable.mono {steps : List (String × Int)} (h : s.Summable steps) (part : made ⊆ steps) :
    s.Summable made :=
  ⟨fun a ha b hb => h.paths a (part ha) b (part hb), fun a ha => h.number a (part ha),
    fun a ha => h.clear a (part ha)⟩

/-- What a reader finds in a state that additions have left: at their paths what was there and the
totals, below them nothing, above them mappings, and on all other paths what was there. -/
structure Summed (s : Store) (steps : List (String × Int)) (t : Store) : Prop where
  sums : ∀ a ∈ steps, ∀ n, s.Counts a.1 n → t.get a.1 = .ok (.int (n + total steps (segments a.1)))
  below : ∀ a ∈ steps, ∀ q, segments a.1 <+: segments q → segments a.1 ≠ segments q →
    t.get q = .ok .null
  above : ∀ a ∈ steps, ∀ q, segments q <+: segments a.1 → segments q ≠ segments a.1 →
    ∃ m es, t.get q = .ok (.map m es)
  beside : ∀ q, (∀ a ∈ steps, Diverge (segments a.1) (segments q)) → t.get q = s.get q

theorem Added.summed (h : Added s made t) (origin : s.shared = true → s.Tree)
    (fit : s.Summable made) : Summed s made t := by
  constructor
  · intro a ha n start
    exact (get_eq_lookup h.tree a.1).trans (lookup_eq_of_dig (h.here a ha n start))
  · intro a ha q down other
    obtain ⟨n, start⟩ := fit.number a ha
    obtain ⟨rest, whole⟩ := down
    rw [get_eq_lookup h.tree, ← whole, lookup_of_dig (h.here a ha n start)]
    cases rest with
    | nil => exact absurd (by rw [← whole, List.append_nil]) other
    | cons s rest => rfl
  · intro a ha q up other
    obtain ⟨m, es, mapping⟩ := h.above a ha (keys q) (keys_prefix_iff.2 up) fun same =>
      other (keys_injective same)
    exact ⟨m, es, (get_eq_lookup h.tree q).trans (lookup_eq_of_dig mapping)⟩
  · intro q apart
    rw [get_eq_lookup h.tree, h.beside (segments q) apart, ← get_eq_lookup origin]

end Store

/-! ### The same in another order -/

/-- Behind all keys both values hold the same, or mappings. -/
def Value.Congruent (v w : Value) : Prop :=
  ∀ ks, v.dig ks = w.dig ks ∨ ∃ m es n fs, v.dig ks = some (.map m es) ∧ w.dig ks = some (.map n fs)

namespace Store

open Value

variable {s t u : Store} {made others : List (String × Int)}

/-- At every path both states hold the same, but for the order of the entries of mappings. -/
def Agree (t u : Store) : Prop :=
  ∀ q, t.get q = u.get q ∨ ∃ v w, t.get q = .ok v ∧ u.get q = .ok w ∧ v.Congruent w

theorem Added.here_of_perm (h : Added s made t) (h' : Added s others u) (perm : made.Perm others)
    {a : String × Int} (ha : a ∈ made) (number : ∃ n, s.Counts a.1 n) :
    ∃ n, t.root.dig (keys a.1) = some (.int n) ∧ u.root.dig (keys a.1) = some (.int n) := by
  obtain ⟨n, start⟩ := number
  refine ⟨_, h.here a ha n start, ?_⟩
  rw [total_perm perm]
  exact h'.here a (perm.mem_iff.1 ha) n start

theorem Added.congruent (h : Added s made t) (h' : Added s others u) (perm : made.Perm others)
    (fit : s.Summable made) : t.root.Congruent u.root := by
  intro ks
  rcases behind_or_before (fun a => keys a.1) made ks
    with ⟨a, ha, rest, rfl⟩ | ⟨a, ha, up, proper⟩ | apart
  · obtain ⟨n, left, right⟩ := h.here_of_perm h' perm ha (fit.number a ha)
    rw [dig_append, dig_append, left, right]
    exact Or.inl rfl
  · obtain ⟨m, es, left⟩ := h.above a ha ks up proper
    obtain ⟨n, fs, right⟩ := h'.above a (perm.mem_iff.1 ha) ks up proper
    exact Or.inr ⟨m, es, n, fs, left, right⟩
  · rw [h.apart ks apart, h'.apart ks fun a ha => apart a (perm.mem_iff.2 ha)]
    exact Or.inl rfl

/-- The same additions in another order leave a state that agrees. -/
theorem Added.agree (h : Added s made t) (h' : Added s others u) (perm : made.Perm others)
    (fit : s.Summable made) : t.Agree u := by
  intro q
  rw [get_eq_lookup h.tree, get_eq_lookup h'.tree]
  rcases behind_or_before (fun a => segments a.1) made (segments q)
    with ⟨a, ha, rest, whole⟩ | ⟨a, ha, up, other⟩ | apart
  · obtain ⟨n, left, right⟩ := h.here_of_perm h' perm ha (fit.number a ha)
    rw [← whole, lookup_of_dig left, lookup_of_dig right]
    exact Or.inl rfl
  · have proper : keys q ≠ keys a.1 := fun same => other (keys_injective same)
    obtain ⟨m, es, left⟩ := h.above a ha (keys q) (keys_prefix_iff.2 up) proper
    obtain ⟨n, fs, right⟩ := h'.above a (perm.mem_iff.1 ha) (keys q) (keys_prefix_iff.2 up) proper
    refine Or.inr ⟨.map m es, .map n fs, lookup_eq_of_dig left,
      lookup_eq_of_dig right, fun ks => ?_⟩
    simpa [dig_append, left, right] using h.congruent h' perm fit (keys q ++ ks)
  · rw [h.beside (segments q) apart, h'.beside (segments q) fun a ha => apart a (perm.mem_iff.2 ha)]
    exact Or.inl rfl

end Store

/-! ### Runs of additions -/

namespace Action

def additions (as : List Action) : List (String × Int) := (leaves as).filterMap addition?

def OnlyAdd (as : List Action) : Prop := ∀ a ∈ leaves as, a.addition? ≠ none

theorem isComposite_of_addition? {a : Action} {b : String × Int} (adds : a.addition? = some b) :
    a.isComposite = false := by
  cases a <;> first | rfl | cases adds

theorem additions_eq (as : List Action) : additions as = (preorderAll as).filterMap addition? := by
  refine filterMap_leaves (fun a composite => ?_) as
  cases adds : a.addition? with
  | none => rfl
  | some b => exact absurd composite (by simp [isComposite_of_addition? adds])

theorem OnlyAdd.preorder {as : List Action} (only : OnlyAdd as) {a : Action}
    (ha : a ∈ preorderAll as) : a.isComposite = true ∨ ∃ b, a.addition? = some b := by
  cases composite : a.isComposite with
  | true => exact Or.inl rfl
  | false =>
    exact Or.inr (Option.ne_none_iff_exists'.1
      (only a (List.mem_filter.2 ⟨ha, by simp [composite]⟩)))

end Action

namespace Store

/-- The note about an addition that comes after others cannot be written. -/
def Chokes (s : Store) (verbose : Bool) (made : List (String × Int)) (b : String × Int) : Prop :=
  ∃ n, s.Counts b.1 n ∧ Session.Unspeakable verbose b.2 (n + total (made ++ [b]) (segments b.1))

/-- All notes about some additions can be written. -/
def Fluent (s : Store) (verbose : Bool) (steps : List (String × Int)) : Prop :=
  ∀ made b rest, steps = made ++ b :: rest → ¬s.Chokes verbose made b

/-- What is not fluent chokes somewhere for the first time. -/
theorem exists_chokes {s : Store} {verbose : Bool} {steps : List (String × Int)}
    (h : ¬s.Fluent verbose steps) :
    ∃ made b rest, steps = made ++ b :: rest ∧ s.Fluent verbose made ∧ s.Chokes verbose made b := by
  induction steps using List.reverseRecOn with
  | nil => exact absurd (fun made b rest none => by simp at none) h
  | append_singleton steps c ih =>
    by_cases early : s.Fluent verbose steps
    · refine ⟨steps, c, [], rfl, early, ?_⟩
      by_contra late
      refine h fun made b rest same => ?_
      rcases List.eq_nil_or_concat rest with rfl | ⟨rest, d, rfl⟩
      · obtain ⟨rfl, last⟩ := List.append_inj' same rfl
        rwa [← (List.cons.inj last).1]
      · rw [List.concat_eq_append, ← List.cons_append, ← List.append_assoc] at same
        exact early made b rest (List.append_inj' same rfl).1
    · obtain ⟨made, b, rest, rfl, before, chokes⟩ := ih early
      exact ⟨made, b, rest ++ [c], by simp, before, chokes⟩

end Store

namespace Session

open Step Store
open SceneCourse.Action (additions OnlyAdd)

variable {η : Type} {cb : Callbacks η} {s : Session η} {origin : Store} {made : List (String × Int)}

/-- One addition of a run. -/
theorem visit_addition (cb : Callbacks η) (tree : origin.shared = true → origin.Tree)
    (h : Added origin made s.store) {a : Action} {b : String × Int} (adds : a.addition? = some b)
    (fit : origin.Open made b.1) : ∃ ending t,
      visit cb a s = (ending, t) ∧ Added origin (made ++ [b]) t.store ∧
      t.log.verbose = s.log.verbose ∧
        (¬origin.Chokes s.log.verbose made b → ending = .done ()) ∧
        (origin.Chokes s.log.verbose made b → ∃ e, ending = .failed e) := by
  obtain ⟨path, amount⟩ := b
  obtain ⟨n, start⟩ := fit.number
  obtain ⟨ending, log, run, verbose, done, failed⟩ :=
    ends_execute_addition adds (h.counts tree fit start) cb
  have sum : n + total made (segments path) + amount =
      n + total (made ++ [(path, amount)]) (segments path) := by
    rw [total_append, total_single, if_pos rfl, add_assoc]
  rw [sum] at run done failed
  refine ⟨ending, { s.withCount path (n + total (made ++ [(path, amount)]) (segments path))
    with log }, ?_, h.step fit start,
    verbose, fun fluent => done fun bad => fluent ⟨n, start, bad⟩, ?_⟩
  · rw [visit, Action.isComposite_of_addition? adds, if_neg (by simp)]
    exact run
  · rintro ⟨m, start', bad⟩
    obtain rfl := start'.unique start
    exact failed bad

theorem visit_composite (cb : Callbacks η) {a : Action} (composite : a.isComposite = true)
    (s : Session η) : ∃ t,
    visit cb a s = (.done (), t) ∧ t.store = s.store ∧ t.log.verbose = s.log.verbose := by
  rw [visit, if_pos composite, announce, write_null]
  exact ⟨_, rfl, rfl, rfl⟩

/-- A run of additions whose notes can all be written. -/
theorem each_additions (cb : Callbacks η) (tree : origin.shared = true → origin.Tree)
    {l : List Action} (only : ∀ a ∈ l, a.isComposite = true ∨ ∃ b, a.addition? = some b)
    (h : Added origin made s.store) (fit : origin.Summable (made ++ l.filterMap Action.addition?))
    (fluent : ∀ more b rest, l.filterMap Action.addition? = more ++ b :: rest →
      ¬origin.Chokes s.log.verbose (made ++ more) b) :
    ∃ t, Step.each (visit cb) l s = (.done (), t) ∧ Added origin
      (made ++ l.filterMap Action.addition?) t.store ∧
      t.log.verbose = s.log.verbose := by
  induction l generalizing made s with
  | nil => exact ⟨s, rfl, by simpa using h, rfl⟩
  | cons a l ih =>
    have later (c : Action) (hc : c ∈ l) := only c (List.mem_cons_of_mem a hc)
    rcases only a List.mem_cons_self with composite | ⟨b, adds⟩
    · obtain ⟨t, done, store, verbose⟩ := visit_composite cb composite s
      have none : a.addition? = none := Option.eq_none_iff_forall_ne_some.2 fun b adds => by
        simp [Action.isComposite_of_addition? adds] at composite
      rw [List.filterMap_cons_none none] at fit fluent ⊢
      rw [← store] at h
      rw [← verbose] at fluent ⊢
      rw [Step.each, bind_of_done done]
      exact ih later h fit fluent
    · rw [List.filterMap_cons_some adds] at fit fluent ⊢
      have opens : origin.Open made b.1 := fit.opens (by simp) (List.subset_append_left _ _)
      obtain ⟨ending, t, run, added, verbose, done, -⟩ := visit_addition cb tree h adds opens
      obtain rfl := done (by simpa using fluent [] b _ rfl)
      rw [List.append_cons] at fit ⊢
      rw [← verbose]
      rw [Step.each, bind_of_done run]
      refine ih later added fit fun more c rest same => ?_
      rw [verbose, List.append_assoc]
      exact fluent (b :: more) c rest (by rw [same]; rfl)

variable {as : List Action}

theorem executeAll_fluent (cb : Callbacks η) (only : OnlyAdd as)
    (tree : s.store.shared = true → s.store.Tree) (fit : s.store.Summable (additions as))
    (fluent : s.store.Fluent s.log.verbose (additions as)) :
    ∃ t, executeAll cb as s = (.done (), t) ∧ Added s.store (additions as) t.store := by
  rw [Action.additions_eq] at fit fluent ⊢
  obtain ⟨t, done, added, -⟩ := each_additions cb tree
    (fun a ha => only.preorder ha) (.nil tree) fit fluent
  exact ⟨t, by rw [executeAll_eq_visits, done], added⟩

/-- A run stops behind the first addition whose note cannot be written. -/
theorem executeAll_chokes (cb : Callbacks η) (only : OnlyAdd as)
    (tree : s.store.shared = true → s.store.Tree) (fit : s.store.Summable (additions as))
    {b : String × Int} {rest : List (String × Int)} (split : additions as = made ++ b :: rest)
    (fluent : s.store.Fluent s.log.verbose made) (chokes : s.store.Chokes s.log.verbose made b) :
    ∃ e t, executeAll cb as s = (.failed e, t) ∧ Added s.store (made ++ [b]) t.store := by
  have member {a : Action} (ha : a ∈ Action.preorderAll as) := only.preorder ha
  rw [split] at fit
  rw [Action.additions_eq] at split
  obtain ⟨l, l', whole, early, late⟩ := List.filterMap_eq_append_iff.1 split
  obtain ⟨k, a, after, rfl, idle, adds, -⟩ := List.filterMap_eq_cons_iff.1 late
  have before : (l ++ k).filterMap Action.addition? = made := by
    rw [List.filterMap_append, early, List.filterMap_eq_nil_iff.2 idle, List.append_nil]
  rw [← List.append_assoc] at whole
  obtain ⟨t, done, added, verbose⟩ := each_additions cb (l := l ++ k) (s := s) tree
    (fun c hc => member (by rw [whole]; exact List.mem_append_left _ hc)) (.nil tree)
    (by rw [before]; exact fit.mono (List.subset_append_left _ _)) (by rw [before]; exact fluent)
  rw [List.nil_append, before] at added
  have opens : s.store.Open made b.1 := fit.opens (by simp) (List.subset_append_left _ _)
  obtain ⟨ending, u, run, added', -, -, failed⟩ := visit_addition cb tree added adds opens
  obtain ⟨e, rfl⟩ := failed (by rwa [verbose])
  refine ⟨e, u, ?_, added'⟩
  rw [executeAll_eq_visits, whole, Step.each_append, bind_of_done done, Step.each, Step.bind, run]

/-- A run of additions at paths none of which leads to another, with a number or nothing at each and
no list above it. It ends well unless the note about one of them cannot be written, and then every
path holds what it held and the sum of its amounts, with nothing else changed. A run that does not
end well has made the additions up to the one that it stops at. Runs of the same additions, in any
order and in any composites, leave the same at every path. -/
theorem additions_sum (cb : Callbacks η) (s : Session η) {as : List Action} (only : OnlyAdd as)
    (tree : s.store.shared = true → s.store.Tree) (fit : s.store.Summable (additions as)) :
    ((executeAll cb as s).1 = .done () ↔ s.store.Fluent s.log.verbose (additions as)) ∧
      ((executeAll cb as s).1 = .done () →
        s.store.Summed (additions as) (executeAll cb as s).2.store) ∧
      (∀ made b rest, additions as = made ++ b :: rest → s.store.Fluent s.log.verbose made →
        s.store.Chokes s.log.verbose made b →
        (∃ e, (executeAll cb as s).1 = .failed e) ∧ s.store.Summed (made ++ [b])
        (executeAll cb as s).2.store) ∧
      ∀ bs, OnlyAdd bs → (additions as).Perm (additions bs) → (executeAll cb as s).1 = .done () →
        (executeAll cb bs s).1 = .done () → (executeAll cb as s).2.store.Agree
          (executeAll cb bs s).2.store := by
  have stops (bs : List Action) (only : OnlyAdd bs) (fit : s.store.Summable (additions bs))
      (done : (executeAll cb bs s).1 = .done ()) : s.store.Fluent s.log.verbose (additions bs) := by
    by_contra faltering
    obtain ⟨made, b, rest, split, fluent, chokes⟩ := exists_chokes faltering
    obtain ⟨e, t, failed, -⟩ := executeAll_chokes cb only tree fit split fluent chokes
    rw [failed] at done
    cases done
  have leaves (bs : List Action) (only : OnlyAdd bs) (fit : s.store.Summable (additions bs))
      (done : (executeAll cb bs s).1 = .done ()) : Added s.store (additions bs)
          (executeAll cb bs s).2.store := by
    obtain ⟨t, run, added⟩ := executeAll_fluent cb only tree fit (stops bs only fit done)
    rw [run]
    exact added
  refine ⟨⟨stops as only fit, fun fluent => ?_⟩, fun done => ?_,
    fun made b rest split fluent chokes => ?_, ?_⟩
  · obtain ⟨t, run, -⟩ := executeAll_fluent cb only tree fit fluent
    rw [run]
  · exact (leaves as only fit done).summed tree fit
  · obtain ⟨e, t, run, added⟩ := executeAll_chokes cb only tree fit split fluent chokes
    have part : made ++ [b] ⊆ additions as := by
      rw [split, List.append_cons made b rest]
      exact List.subset_append_left _ _
    rw [run]
    exact ⟨⟨e, rfl⟩, added.summed tree (fit.mono part)⟩
  · intro bs only' perm done done'
    have fit' := fit.mono perm.symm.subset
    exact (leaves as only fit done).agree (leaves bs only' fit' done') perm fit

/-- All notes can be written about amounts that are short, in a log that does not show
everything. -/
theorem fluent_of_short (store : Store) {steps : List (String × Int)}
    (short : ∀ a ∈ steps, (Value.int a.2).holdsLong = false) : store.Fluent false steps := by
  rintro made b rest rfl ⟨n, -, long | ⟨loud, -⟩⟩
  · rw [short b (by simp)] at long
    cases long
  · cases loud

theorem total_diverges : Diverge (segments "globals.vars.total") (segments scorePath) := by decide

theorem summable_board {steps : List (String × Int)}
    (paths : ∀ a ∈ steps, a.1 = "globals.vars.total" ∨ a.1 = scorePath) : board.Summable steps := by
  have clear : ∀ p ∈ ["globals.vars.total", scorePath], ∀ c ∈ (segments p).inits,
      ¬board.root.HoldsList c := by decide
  constructor
  · intro a ha b hb
    rcases paths a ha with left | left <;> rcases paths b hb with right | right <;> rw [left, right]
    · exact Or.inl rfl
    · exact Or.inr total_diverges
    · exact Or.inr total_diverges.symm
    · exact Or.inl rfl
  · intro a ha
    rcases paths a ha with here | here <;> rw [here]
    · exact ⟨3, Or.inl rfl⟩
    · exact ⟨0, Or.inr ⟨rfl, rfl⟩⟩
  · intro a ha c above _
    have known : a.1 ∈ ["globals.vars.total", scorePath] := by simpa using paths a ha
    exact clear a.1 known c ((List.mem_inits _ _).2 above)

def morning : List Action :=
  [.sequence [.incVar "globals.vars.total" (.int 4), .addScore (.int 2)],
    .parallel [.incVar "globals.vars.total" (.int (-1))]]

def evening : List Action :=
  [.incVar "globals.vars.total" (.int (-1)),
    .sequence [.addScore (.int 2), .incVar "globals.vars.total" (.int 4)]]

theorem additions_sum_board :
    OnlyAdd morning ∧ counting.store.Tree ∧ counting.store.Summable (additions morning) ∧
      (executeAll ⟨none, none⟩ morning counting).1 = .done () ∧
      (executeAll ⟨none, none⟩ morning counting).2.store.get "globals.vars.total" = .ok (.int 6) ∧
      (executeAll ⟨none, none⟩ morning counting).2.store.get scorePath = .ok (.int 2) ∧
      (executeAll ⟨none, none⟩ morning counting).2.store.Agree
        (executeAll ⟨none, none⟩ evening counting).2.store := by
  have only : OnlyAdd morning ∧ OnlyAdd evening := by
    constructor <;> simp [OnlyAdd, morning, evening, Action.leaves, Action.preorderAll,
      Action.preorder,
      Action.isComposite, Action.addition?]
  have steps : additions morning =
      [("globals.vars.total", 4), (scorePath, 2), ("globals.vars.total", -1)] ∧
      additions evening = [("globals.vars.total", -1), (scorePath, 2), ("globals.vars.total", 4)] :=
        ⟨rfl, rfl⟩
  have fit : counting.store.Summable (additions morning) ∧
      counting.store.Summable (additions evening) := by
    rw [steps.1, steps.2]
    exact ⟨summable_board (by simp), summable_board (by simp)⟩
  have tree : counting.store.shared = true → counting.store.Tree := fun _ => board_tree
  have fluent : counting.store.Fluent counting.log.verbose (additions morning) ∧
      counting.store.Fluent counting.log.verbose (additions evening) := by
    rw [steps.1, steps.2]
    exact ⟨fluent_of_short _ (by decide +kernel), fluent_of_short _ (by decide +kernel)⟩
  obtain ⟨returns, sums, -, agree⟩ := additions_sum ⟨none, none⟩ counting only.1 tree fit.1
  have done := returns.2 fluent.1
  have done' := (additions_sum ⟨none, none⟩ counting only.2 tree fit.2).1.2 fluent.2
  have perm : (additions morning).Perm (additions evening) := by
    rw [steps.1, steps.2]
    decide
  have total := (sums done).sums ("globals.vars.total", 4) (by simp [steps]) 3 (Or.inl rfl)
  have score := (sums done).sums (scorePath, 2) (by simp [steps]) 0 (Or.inr ⟨rfl, rfl⟩)
  rw [steps.1] at total score
  exact ⟨only.1, board_tree, fit.1, done, total, score, agree evening only.2 perm done done'⟩

def twoCounts (n : Int) : List Action := [.incVar "globals.vars.total" (.int n), .addScore (.int 1)]

/-- An amount that is too long to be written down keeps the next addition from being made. -/
theorem executeAll_twoCounts {n : Int} (long : (Value.int n).holdsLong = true) :
    OnlyAdd (twoCounts n) ∧ counting.store.Summable (additions (twoCounts n)) ∧
      (executeAll ⟨none, none⟩ (twoCounts n) counting).1 ≠ .done () ∧
      (executeAll ⟨none, none⟩ (twoCounts n) counting).2.store.get scorePath ≠ .ok (.int 1) := by
  have only : OnlyAdd (twoCounts n) := by
    simp [OnlyAdd, twoCounts, Action.leaves, Action.preorderAll, Action.preorder,
      Action.isComposite, Action.addition?]
  have steps : additions (twoCounts n) = [] ++ ("globals.vars.total", n) :: [(scorePath, 1)] := rfl
  have fit : board.Summable (additions (twoCounts n)) := by
    rw [steps]
    exact summable_board (by simp)
  have three : board.Counts "globals.vars.total" 3 := Or.inl rfl
  obtain ⟨e, t, run, added⟩ := executeAll_chokes (s := counting)
    ⟨none, none⟩ only (fun _ => board_tree) fit steps
    (fun made b rest none => by simp at none) ⟨3, three, Or.inl long⟩
  have kept := (added.summed (fun _ => board_tree) (summable_board (by simp))).beside scorePath
    (List.forall_mem_singleton.2 total_diverges)
  have nothing : board.get scorePath = .ok .null := rfl
  rw [run]
  refine ⟨only, fit, by simp, fun there => ?_⟩
  cases (nothing.symm.trans kept.symm).trans there

theorem additions_falter :
    OnlyAdd (twoCounts leastLong) ∧ counting.store.Summable (additions (twoCounts leastLong)) ∧
      (executeAll ⟨none, none⟩ (twoCounts leastLong) counting).1 ≠ .done () ∧
      (executeAll ⟨none, none⟩ (twoCounts leastLong) counting).2.store.get scorePath ≠
        .ok (.int 1) :=
  executeAll_twoCounts (by decide +kernel)

end Session

end SceneCourse
