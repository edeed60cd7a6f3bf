import SceneCourse.Proofs.Operations
import SceneCourse.Proofs.Renaming
import SceneCourse.Log.RunLog

/-! States with other marks. A state with all marks and names moved up, whose counter is as much
ahead, answers every question as before and stays so much ahead through every operation; what is
written of its values is the same text. -/

namespace SceneCourse

variable {k : Nat}

open Value (renamedItems renamedEntries Edit)

/-! ### Texts and records of values -/

namespace Json

@[simp] theorem keyText_renamed (l : Key) : keyText (l.renamed k) = keyText l := by
  cases l <;> simp [Key.renamed, keyText]

@[simp] theorem keyFault?_renamed (l : Key) : keyFault? (l.renamed k) = keyFault? l :=
  by cases l <;> rfl

mutual

@[simp] theorem fault?_renamed (v : Value) : fault? (v.renamed k) = fault? v := by
  cases v with
  | pair a b => simp only [Value.renamed, fault?, fault?_renamed a, fault?_renamed b]
  | list m xs => simp only [Value.renamed, fault?, itemsFault?_renamed xs]
  | map m es => simp only [Value.renamed, fault?, entriesFault?_renamed es]
  | _ => rfl

theorem itemsFault?_renamed (xs : List Value) :
    itemsFault? (renamedItems k xs) = itemsFault? xs := by
  cases xs with
  | nil => rfl
  | cons x xs => simp only [renamedItems, itemsFault?, fault?_renamed x, itemsFault?_renamed xs]

theorem entriesFault?_renamed (es : List (Key × Value)) :
    entriesFault? (renamedEntries k es) = entriesFault? es := by
  cases es with
  | nil => rfl
  | cons e es =>
    simp only [renamedEntries, entriesFault?, keyFault?_renamed, fault?_renamed e.2,
      entriesFault?_renamed es]

end

mutual

@[simp] theorem chars_renamed (style : JsonStyle) (depth : Nat) (v : Value) :
    chars style depth (v.renamed k) = chars style depth v := by
  cases v with
  | float x => simp [Value.renamed, chars]
  | bool b => cases b <;> rfl
  | set ks => rw [Value.renamed, chars, chars, ← Value.renamed, Value.literal_renamed]
  | pair a b => simp only [Value.renamed, chars, chars_renamed _ _ a, chars_renamed _ _ b]
  | list m xs =>
    cases xs with
    | nil => rfl
    | cons x xs =>
      simp only [Value.renamed, renamedItems, chars, chars_renamed _ _ x, items_renamed _ _ xs]
  | map m es =>
    cases es with
    | nil => rfl
    | cons e es =>
      simp only [Value.renamed, renamedEntries, chars, keyText_renamed, chars_renamed _ _ e.2,
        members_renamed _ _ es]
  | _ => rfl

theorem items_renamed (style : JsonStyle) (depth : Nat) (xs : List Value) :
    items style depth (renamedItems k xs) = items style depth xs := by
  cases xs with
  | nil => rfl
  | cons x xs => simp only [renamedItems, items, chars_renamed _ _ x, items_renamed _ _ xs]

theorem members_renamed (style : JsonStyle) (depth : Nat) (es : List (Key × Value)) :
    members style depth (renamedEntries k es) = members style depth es := by
  cases es with
  | nil => rfl
  | cons e es =>
    simp only [renamedEntries, members, keyText_renamed, chars_renamed _ _ e.2,
      members_renamed _ _ es]

end

@[simp] theorem text_renamed (style : JsonStyle) (v : Value) :
    text style (v.renamed k) = text style v := by
  simp [text, print]

end Json

theorem Key.recorded_renamed (l : Key) : (l.renamed k).recorded = l.recorded := by
  cases l with
  | float x => cases x <;> rfl
  | _ => rfl

namespace Value

mutual

/-- The record of a value has neither marks nor names. -/
@[simp] theorem recorded_renamed (room : Nat) (v : Value) :
    (v.renamed k).recorded room = v.recorded room := by
  cases v with
  | float x => cases x <;> cases room <;> rfl
  | set ks =>
    have same : Key.recorded ∘ Key.renamed k = Key.recorded := funext Key.recorded_renamed
    cases room with
    | zero => rfl
    | succ room => simp only [renamed, recorded, List.mapM_map, same, ne_eq, List.map_eq_nil_iff]
  | pair a b =>
    cases room with
    | zero => rfl
    | succ room => simp only [renamed, recorded, recorded_renamed room a, recorded_renamed room b]
  | list m xs =>
    cases room with
    | zero => rfl
    | succ room => simp only [renamed, recorded, recordedItems_renamed room xs]
  | map m es =>
    cases room with
    | zero => rfl
    | succ room => simp only [renamed, recorded, recordedEntries_renamed room [] es]
  | _ => rfl

theorem recordedItems_renamed (room : Nat) (xs : List Value) :
    recordedItems room (renamedItems k xs) = recordedItems room xs := by
  cases xs with
  | nil => rfl
  | cons x xs =>
    simp only [renamedItems, recordedItems, recorded_renamed room x, recordedItems_renamed room xs]

theorem recordedEntries_renamed (room : Nat) (done : Entries Value) (es : List (Key × Value)) :
    recordedEntries room done (renamedEntries k es) = recordedEntries room done es := by
  cases es with
  | nil => rfl
  | cons e es =>
    simp only [renamedEntries, recordedEntries, Key.recordText_renamed, recorded_renamed room e.2,
      recordedEntries_renamed room _ es]

end

@[simp] theorem record_renamed (v : Value) : (v.renamed k).record = v.record := recorded_renamed _ v

@[simp] theorem inText_renamed (v : Value) : (v.renamed k).inText = v.inText := by
  cases v with
  | float x => simp [renamed, inText]
  | list m xs => exact Json.text_renamed _ (.list m xs)
  | map m es => exact Json.text_renamed _ (.map m es)
  | set ks => exact told_renamed (.set ks)
  | pair a b => exact told_renamed (.pair a b)
  | again m b => exact told_renamed (.again m b)
  | _ => rfl

end Value

/-! ### Paths -/

theorem Value.lookup_renamed (v : Value) (segs : List String) :
    (v.renamed k).lookup segs = (v.lookup segs).map (Value.renamed k) := by
  induction segs generalizing v with
  | nil => cases v <;> rfl
  | cons s rest ih =>
    cases v with
    | map m es =>
      simp only [renamed, lookup, get?_str_renamedEntries]
      cases Entries.get? (.str s) es with
      | none => rfl
      | some w => cases w <;> first | rfl | exact ih _
    | list m xs =>
      simp only [renamed, lookup]
      split
      next =>
        cases Numeral.integer s with
        | error cause => rfl
        | ok i =>
          simp only [renamedItems_eq_map, List.getElem?_map]
          cases xs[i.toNat]? with
          | none => rfl
          | some w => cases w <;> first | rfl | exact ih _
      next => rfl
    | _ => rfl

theorem Value.along_renamed (segs : List String) (v : Value) :
    (v.renamed k).along segs = (v.along segs).renamed k := by
  induction segs generalizing v with
  | nil => cases v <;> rfl
  | cons s rest ih =>
    cases v with
    | map m es =>
      simp only [renamed, along, entries_renamed]
      rw [renamedEntries_eq, renamedEntries_eq, Entries.renamed, Entries.renamed,
        List.map_map, List.map_map]
      refine congrArg _ (List.map_congr_left fun e _ => congrArg (Prod.mk _) ?_)
      by_cases here : e.1.same (.str s) = true <;> simp [here, ih]
    | list m xs =>
      simp only [renamed, along, items_renamed]
      rw [renamedItems_eq_map, List.map_map, List.map_map]
      exact congrArg _ (List.map_congr_left fun x _ => ih x)
    | _ => rfl

/-! ### States -/

namespace Store

open Value

def renamed (k : Nat) (s : Store) : Store :=
  { s with tiers := renamedEntries k s.tiers, next := s.next + k }

variable {s : Store}

@[simp] theorem root_renamed (s : Store) : (s.renamed k).root = s.root.renamed k := rfl
@[simp] theorem tiers_renamed (s : Store) : (s.renamed k).tiers = renamedEntries k s.tiers := rfl
@[simp] theorem next_renamed (s : Store) : (s.renamed k).next = s.next + k := rfl
@[simp] theorem shared_renamed (s : Store) : (s.renamed k).shared = s.shared := rfl

theorem opened_renamed (s : Store) (segs : List String) :
    (s.renamed k).opened segs = (s.opened segs).renamed k := by
  show (if s.shared then _ else _) = _
  rw [opened]
  split
  next => exact along_renamed segs s.root
  next => rfl

@[simp] theorem get_renamed (s : Store) (path : String) :
    (s.renamed k).get path = (s.get path).map (Value.renamed k) := by
  rw [get, opened_renamed, lookup_renamed]
  rfl

theorem nest_renamed {next : Nat} (positive : 0 < next) (segs : List String) (v : Value) :
    nest (next + k) segs (v.renamed k) = (nest next segs v).renamed k := by
  induction segs generalizing next with
  | nil => rfl
  | cons s rest ih =>
    rw [nest, nest, Nat.add_right_comm, ih (Nat.succ_pos next), Value.renamed, renamedEntries,
      renamedEntries,
      markUp_of_pos positive]
    rfl

theorem write_renamed {next : Nat} (positive : 0 < next) (mark : Nat) (es : List (Key × Value))
    (segs : List String) (v : Value) :
    write (next + k) (markUp k mark) (renamedEntries k es) segs (v.renamed k) =
      (renamedEntries k (write next mark es segs v).1,
        (write next mark es segs v).2.renamed k) := by
  have placed (mark : Nat) (s : String) (rest : List String) (es : List (Key × Value)) :
      (Entries.set (.str s) (nest (next + k) rest (v.renamed k)) (renamedEntries k es),
        (⟨markUp k mark, .map (markUp k mark)
          (Entries.set (.str s) (nest (next + k) rest (v.renamed k)) (renamedEntries k es))⟩ :
            Edit)) =
      (renamedEntries k (Entries.set (.str s) (nest next rest v) es),
        Edit.renamed k ⟨mark, .map mark (Entries.set (.str s) (nest next rest v) es)⟩) := by
    rw [nest_renamed positive, set_str_renamedEntries]
    rfl
  induction segs generalizing mark es with
  | nil => rfl
  | cons s rest ih =>
    cases rest with
    | nil => exact placed mark s [] es
    | cons r rest =>
      rw [write.eq_def, write.eq_def next]
      simp only [get?_str_renamedEntries]
      cases found : Entries.get? (.str s) es with
      | none => exact placed mark s (r :: rest) es
      | some w =>
        cases w with
        | map m fs =>
          simp only [Option.map_some, Value.renamed, ih m fs]
          rw [← Value.renamed, set_str_renamedEntries]
        | _ => exact placed mark s (r :: rest) es

theorem afterEdit_renamed (s : Store) (written : List (Key × Value)) (edit : Edit) :
    (s.renamed k).afterEdit (renamedEntries k written) (edit.renamed k) = renamedEntries k
      (s.afterEdit written edit) := by
  simp only [afterEdit, Edit.renamed, markUp_eq_zero]
  rw [← tieEntries_renamed]
  split
  next => rfl
  next =>
    rw [← followEntries_renamed]
    rfl

def renamedWrite (k : Nat) (w : Store × List Edit) : Store × List Edit :=
  (w.1.renamed k, w.2.map (Edit.renamed k))

theorem drafted_renamed (positive : 0 < s.next) (segs : List String) (v : Value) :
    (s.renamed k).drafted segs (v.renamed k) =
      (renamedEntries k (s.drafted segs v).1, (s.drafted segs v).2.renamed k) := by
  rw [drafted, drafted, opened_renamed]
  cases s.opened segs with
  | map m es =>
    have wrote := write_renamed (k := k) positive 0 es segs v
    rwa [markUp_zero] at wrote
  | _ => rfl

theorem edited_renamed (s : Store) (written : List (Key × Value)) (e : Edit) :
    (s.renamed k).edited (renamedEntries k written)
    (e.renamed k) = (s.edited written e).renamed k := by
  simp only [edited, shared_renamed, afterEdit_renamed]
  split <;> rfl

theorem place_renamed (positive : 0 < s.next) (segs : List String) (v : Value) :
    (s.renamed k).place segs (v.renamed k) = renamedWrite k (s.place segs v) := by
  simp only [place, drafted_renamed positive, edited_renamed, next_renamed,
    Nat.add_right_comm s.next k]
  rfl

theorem set_renamed (positive : 0 < s.next) (path : String) (v : Value) :
    (s.renamed k).set path (v.renamed k) = renamedWrite k (s.set path v) :=
  place_renamed positive (segments path) v

theorem adopt_renamed (later : 2 < s.next) (v : Value) :
    (s.renamed k).adopt (v.renamed k) = ((s.adopt v).1.renamed k, (s.adopt v).2.renamed k) := by
  unfold adopt
  by_cases shared : s.shared = true
  · rw [shared_renamed, if_pos shared, if_pos shared]
    have copied := copyTied_renamed (k := k) (c := { next := s.next }) later v
    simp only [next_renamed]
    rw [show (⟨s.next + k, []⟩ : Copying) = Copying.renamed k ⟨s.next, []⟩ from rfl, copied]
    rfl
  · rw [shared_renamed, if_neg shared, if_neg shared]
    simp only [next_renamed, copy_renamed later v]
    rfl

theorem adoptEntries_renamed (later : 2 < s.next) (es : List (Key × Value)) :
    (s.renamed k).adoptEntries (renamedEntries k es) =
      (renamedEntries k (s.adoptEntries es).1, (s.adoptEntries es).2.renamed k) := by
  unfold adoptEntries
  by_cases shared : s.shared = true
  · rw [shared_renamed, if_pos shared, if_pos shared]
    have copied := copyTiedEntries_renamed (k := k) (c := { next := s.next }) later es
    simp only [next_renamed]
    rw [show (⟨s.next + k, []⟩ : Copying) = Copying.renamed k ⟨s.next, []⟩ from rfl, copied]
    rfl
  · rw [shared_renamed, if_neg shared, if_neg shared]
    simp only [next_renamed, copyEntries_renamed later es]
    rfl

theorem ownEntries_renamed (s : Store) (m : Nat) (es : List (Key × Value)) :
    (s.renamed k).ownEntries (markUp k m) (renamedEntries k es) = renamedEntries k
      (s.ownEntries m es) := by
  simp only [ownEntries, shared_renamed, entries_renamed]
  split <;> rfl

theorem ownParts_renamed (s : Store) (edits : List Edit) (v : Value) :
    (s.renamed k).ownParts (edits.map (Edit.renamed k))
    (v.renamed k) = (s.ownParts edits v).renamed k := by
  simp only [ownParts, shared_renamed, followAll_renamed, tie_renamed, unroll_renamed]
  split <;> rfl

/-! ### Tiers -/

theorem part_renamed (v : Value) (name : String) :
    part (v.renamed k) name = (part v name).map (Value.renamed k) := by
  cases v with
  | map m es =>
    simp only [Value.renamed, part, get?_str_renamedEntries]
    cases Entries.get? (.str name) es with
    | none => rfl
    | some w => exact congrArg Except.ok (within_renamed (.map m es) w)
  | again m b => cases b <;> rfl
  | _ => rfl

@[simp] theorem tier_renamed (s : Store) (name : String) :
    (s.renamed k).tier name = (s.tier name).map (Value.renamed k) :=
  part_renamed s.root name

theorem nodeEntries_renamed (s : Store) :
    (s.renamed k).nodeEntries = s.nodeEntries.map fun p =>
      (markUp k p.1, renamedEntries k p.2) := by
  rw [nodeEntries, nodeEntries, tier_renamed]
  cases s.tier "nodes" with
  | error e => rfl
  | ok v =>
    cases v with
    | again m b => cases b <;> rfl
    | _ => rfl

@[simp] theorem nodeState_renamed (s : Store) (id : String) :
    (s.renamed k).nodeState id = (s.nodeState id).map (Value.renamed k) := by
  rw [nodeState, nodeState, nodeEntries_renamed]
  cases s.nodeEntries with
  | error e => rfl
  | ok p =>
    show Except.ok _ = Except.ok _
    rw [ownEntries_renamed, get?_str_renamedEntries]
    cases Entries.get? (.str id) (s.ownEntries p.1 p.2) with
    | none => rfl
    | some w =>
      simp only [Option.map_some, Option.getD_some, truthy_renamed]
      split <;> rfl

theorem setTier_renamed (s : Store) (name : String) (v : Value) :
    (s.renamed k).setTier name (v.renamed k) = (s.setTier name v).renamed k := by
  simp only [setTier, renamed, set_str_renamedEntries]

theorem setNodeState_renamed (positive : 0 < s.next) (id : String) (v : Value) :
    (s.renamed k).setNodeState id (v.renamed k) = (s.setNodeState id v).map (renamedWrite k) := by
  rw [setNodeState, setNodeState, tier_renamed]
  cases s.tier "nodes" with
  | error e => rfl
  | ok w =>
    cases w with
    | map m nodes =>
      exact congrArg (fun p : Store × List Edit => Except.ok ({ p.1 with next := s.next + k }, p.2))
        (place_renamed positive ["nodes", id] v)
    | again m b => cases b <;> rfl
    | _ => rfl

theorem nodeMapping?_renamed (s : Store) (id : String) :
    (s.renamed k).nodeMapping? id = (s.nodeMapping? id).map fun p =>
      (markUp k p.1, renamedEntries k p.2) := by
  rw [nodeMapping?, nodeMapping?, nodeEntries_renamed]
  cases s.nodeEntries with
  | error e => rfl
  | ok p =>
    simp only [Except.map, ownEntries_renamed, get?_str_renamedEntries]
    cases Entries.get? (.str id) (s.ownEntries p.1 p.2) with
    | none => rfl
    | some w =>
      cases w with
      | map n es => exact congrArg (fun fs => some (markUp k n, fs)) (ownEntries_renamed s n es)
      | _ => rfl

/-! ### Merging -/

def renamedPair (k : Nat) (p : Key × Value) : Key × Value := (p.1.renamed k, p.2.renamed k)

theorem renamedEntries_eq_map (es : List (Key × Value)) :
    renamedEntries k es = es.map (renamedPair k) :=
  renamedEntries_eq k es

theorem pairOf_renamed (i : Nat) (v : Value) :
    pairOf i (v.renamed k) = (pairOf i v).map (renamedPair k) := by
  cases v with
  | list m xs =>
    rcases xs with _ | ⟨a, _ | ⟨b, _ | ⟨c, xs⟩⟩⟩
    · rfl
    · rfl
    · simp only [Value.renamed, renamedItems, pairOf, key?_renamed]
      cases a.key? with
      | none => simp [Except.map]
      | some l => rfl
    · simp [Value.renamed, renamedItems, pairOf, Except.map, renamedItems_eq_map]
  | map m es =>
    rcases es with _ | ⟨⟨a, v⟩, _ | ⟨⟨b, w⟩, _ | ⟨c, es⟩⟩⟩
    · rfl
    · rfl
    · simp only [Value.renamed, renamedEntries, pairOf, Except.map, renamedPair, value_renamed]
    · simp [Value.renamed, renamedEntries, pairOf, Except.map]
  | str s =>
    simp only [Value.renamed, pairOf]
    split <;> rfl
  | again m b => cases b <;> rfl
  | _ => rfl

theorem pairsOf_renamed (i : Nat) (vs : List Value) :
    pairsOf i (renamedItems k vs) = (renamedEntries k (pairsOf i vs).1, (pairsOf i vs).2) := by
  induction vs generalizing i with
  | nil => rfl
  | cons v vs ih =>
    simp only [renamedItems, pairsOf, pairOf_renamed, ih]
    cases pairOf i v with
    | ok p => rfl
    | error e => rfl

theorem mergePairs_renamed (v : Value) :
    mergePairs (v.renamed k) = (renamedEntries k (mergePairs v).1, (mergePairs v).2) := by
  cases v with
  | list m xs => exact pairsOf_renamed 0 xs
  | str s =>
    have texts : renamedItems k (s.toList.map fun c => Value.str c.toString) =
        s.toList.map fun c => .str c.toString := by
      rw [renamedItems_eq_map, List.map_map]
      rfl
    show pairsOf 0 _ = _
    rw [← texts, pairsOf_renamed]
    rfl
  | again m b => cases b <;> rfl
  | _ => rfl

theorem makeNode_renamed (positive : 0 < s.next) (id : String) :
    (s.renamed k).makeNode id = renamedWrite k (s.makeNode id) := by
  rw [makeNode, makeNode, nodeMapping?_renamed]
  cases s.nodeMapping? id with
  | some p => rfl
  | none =>
    have placed := place_renamed (k := k) (s := { s with next := s.next + 1 })
      (Nat.succ_pos _) ["nodes", id]
      (.map s.next [])
    rw [show (Value.map s.next []).renamed k = .map (s.next + k)
      [] by rw [Value.renamed, markUp_of_pos positive]; rfl,
      show Store.renamed k { s with next := s.next + 1 } =
          { s.renamed k with next := s.next + k + 1 } by
        rw [renamed, Nat.add_right_comm]; rfl] at placed
    exact placed

theorem mergeNode_renamed (positive : 0 < s.next) (id : String) (news : List (Key × Value)) :
    (s.renamed k).mergeNode id (renamedEntries k news) = renamedWrite k (s.mergeNode id news) := by
  rw [mergeNode, mergeNode, nodeMapping?_renamed]
  cases s.nodeMapping? id with
  | none => rfl
  | some p =>
    obtain ⟨n, es⟩ := p
    have now : Value.map (markUp k n)
        (Entries.setAll (renamedEntries k news) (renamedEntries k es)) =
        (Value.map n (Entries.setAll news es)).renamed k := by
      rw [setAll_renamedEntries]
      rfl
    simp only [Option.map_some, now, drafted_renamed positive]
    exact congrArg (fun t => (t, _)) (edited_renamed s _ ⟨n, .map n (Entries.setAll news es)⟩)

def renamedUpdate (k : Nat) (r : Store × List Edit × Option Fault) :
    Store × List Edit × Option Fault :=
  (r.1.renamed k, r.2.1.map (Edit.renamed k), r.2.2)

theorem updateNodeState_renamed (positive : 0 < s.next) (id : String) (updates : Value) :
    (s.renamed k).updateNodeState id (updates.renamed k) =
      (s.updateNodeState id updates).map (renamedUpdate k) := by
  rw [updateNodeState, updateNodeState, nodeEntries_renamed]
  cases s.nodeEntries with
  | error e => rfl
  | ok p =>
    have positive' : 0 < (s.makeNode id).1.next := Nat.lt_of_lt_of_le positive (le_makeNode s id)
    simp only [Except.map, makeNode_renamed positive, renamedWrite, ownParts_renamed,
      mergePairs_renamed,
      mergeNode_renamed positive', renamedUpdate, List.map_append]

theorem adoptUpdates_renamed (later : 2 < s.next) (id : String) (updates : Value) :
    (s.renamed k).adoptUpdates id (updates.renamed k) = (s.adoptUpdates id updates).map
      (renamedUpdate k) := by
  have own : (s.renamed k).ownParts [] (updates.renamed k) = (s.ownParts [] updates).renamed k :=
    ownParts_renamed s [] updates
  have wrapped (es : List (Key × Value)) : Value.ofEntries (renamedEntries k es) =
      (Value.ofEntries es).renamed k := rfl
  simp only [adoptUpdates, own, mergePairs_renamed]
  generalize mergePairs (s.ownParts [] updates) = merging
  obtain ⟨pairs, fault⟩ := merging
  have positive : 0 < (s.adoptEntries pairs).2.next :=
    Nat.lt_of_lt_of_le (Nat.zero_lt_of_lt later) (le_adoptEntries s pairs)
  simp only [adoptEntries_renamed later, wrapped, updateNodeState_renamed positive]
  cases (s.adoptEntries pairs).2.updateNodeState id (.ofEntries (s.adoptEntries pairs).1) <;> rfl

/-! ### Lifecycle -/

theorem emptyTiers_renamed {next : Nat} (positive : 0 < next) :
    emptyTiers (next + k) = renamedEntries k (emptyTiers next) := by
  simp only [emptyTiers, renamedEntries, Key.renamed, Value.renamed, markUp_add positive,
    markUp_of_pos positive]

theorem resetScene_renamed (positive : 0 < s.next) :
    (s.renamed k).resetScene = s.resetScene.renamed k := by
  have scene : Value.map (s.next + k) [(.str "vars", .map (s.next + k + 1) [])] =
      (Value.map s.next [(.str "vars", .map (s.next + 1) [])]).renamed k := by
    simp only [renamedEntries, Key.renamed, Value.renamed, markUp_add positive,
      markUp_of_pos positive]
  have nodes : Value.map (s.next + k + 2) [] = (Value.map (s.next + 2) []).renamed k := by
    simp only [renamedEntries, Value.renamed, markUp_add positive]
  simp only [resetScene, next_renamed]
  rw [scene, nodes, setTier_renamed, setTier_renamed, Nat.add_right_comm]
  rfl

theorem reset_renamed (positive : 0 < s.next) : (s.renamed k).reset = s.reset.renamed k := by
  simp only [reset, renamed, emptyTiers_renamed positive, Nat.add_right_comm _ k 5]

theorem restore_renamed (positive : 0 < s.next) (snapshot : Value) :
    (s.renamed k).restore (snapshot.renamed k) = (s.restore snapshot).map (renamed k) := by
  have own : (s.renamed k).ownParts [] (snapshot.renamed k) = (s.ownParts [] snapshot).renamed k :=
    ownParts_renamed s [] snapshot
  simp only [restore, own, mergePairs_renamed]
  cases mergePairs (s.ownParts [] snapshot) with
  | mk pairs fault =>
    cases fault with
    | some e => rfl
    | none =>
      have later : 2 < ({ s with next := s.next + 5 } : Store).next := Nat.lt_add_left _ (by decide)
      have adopted := adoptEntries_renamed (k := k) later pairs
      rw [show Store.renamed k { s with next := s.next + 5 } =
          { s.renamed k with next := s.next + k + 5 } by
        rw [renamed, Nat.add_right_comm]
        rfl] at adopted
      simp only [shared_renamed] at adopted
      have tied (es : List (Key × Value)) : tieEntries [] (renamedEntries k es) =
          renamedEntries k (tieEntries [] es) :=
        tieEntries_renamed [] es
      simp only [next_renamed, adopted, emptyTiers_renamed positive, setAll_renamedEntries,
        shared_renamed, tied,
        Except.map]
      split <;> rfl

end Store

end SceneCourse
