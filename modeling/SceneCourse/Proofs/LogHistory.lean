import SceneCourse.Proofs.LogWindow
import SceneCourse.Proofs.Phases
import SceneCourse.Proofs.Replay

/-! What becomes of the entries of a log. An entry keeps its level, its category, its message and
its time as long as it is buffered, and entries keep their order. Its data are held and not copied:
they follow the edits of all later writes. Proved for whole runs, together with which writes are
seen in which entries: those into a mapping that the data hold. -/

namespace SceneCourse

open Value (Edit marks marksItems marksEntries plain plainItems plainEntries follow followItems
  followEntries)

/-! ### Entries after edits -/

namespace LogEntry

def followAll (edits : List Edit) (e : LogEntry) : LogEntry :=
  { e with data := e.data.followAll edits }

theorem followAll_append (edits more : List Edit) :
    followAll (edits ++ more) = followAll more ∘ followAll edits := by
  funext e
  simp [followAll, Value.followAll, List.foldl_append]

theorem map_followAll_nil (es : List LogEntry) : es.map (followAll []) = es := by
  rw [show followAll [] = id from rfl, List.map_id]

end LogEntry

namespace RunLog

/-- The entry with so many entries behind it. -/
def back? (log : RunLog) (k : Nat) : Option LogEntry := log.entries.reverse[k]?

theorem entries_follow (edits : List Edit) (log : RunLog) :
    (edits.foldl (fun log e => log.follow e) log).entries = log.entries.map
      (LogEntry.followAll edits) := by
  induction edits generalizing log with
  | nil => exact (LogEntry.map_followAll_nil _).symm
  | cons e edits ih =>
    have composed : LogEntry.followAll (e :: edits) =
        LogEntry.followAll edits ∘ LogEntry.follow e := rfl
    rw [List.foldl_cons, ih, follow, List.map_map, composed]

theorem taken_follow (edits : List Edit) (log : RunLog) :
    (edits.foldl (fun log e => log.follow e) log).taken = log.taken := by
  induction edits generalizing log with
  | nil => rfl
  | cons e edits ih => exact ih (log.follow e)

theorem window_suffix (capacity : Option Nat) (es : List LogEntry) : window capacity es <:+ es := by
  cases capacity with
  | none => exact List.suffix_refl es
  | some n => exact List.drop_suffix _ es

end RunLog

/-! ### Values that show an edit -/

namespace Value

mutual

/-- Two edits of a container that a value holds look the same there only if they put the same in its
place. -/
theorem plain_now_eq_of_follow {d e : Edit} (same : d.mark = e.mark) (marked : d.mark ≠ 0)
    (v : Value) (holds : d.mark ∈ marks v) (alike : (follow d v).plain = (follow e v).plain) :
    d.now.plain = e.now.plain := by
  cases v with
  | pair a b =>
    simp only [follow, plain, pair.injEq] at alike
    rcases List.mem_append.1 holds with left | right
    · exact plain_now_eq_of_follow same marked a left alike.1
    · exact plain_now_eq_of_follow same marked b right alike.2
  | list m xs =>
    by_cases here : m = d.mark
    · have ours : m = d.mark ∧ m ≠ 0 := ⟨here, here ▸ marked⟩
      have theirs : m = e.mark ∧ m ≠ 0 := ⟨here.trans same, ours.2⟩
      rwa [follow, follow, if_pos ours, if_pos theirs] at alike
    · have inside := (List.mem_cons.1 holds).resolve_left fun h => here h.symm
      rw [follow, follow, if_neg fun h => here h.1, if_neg fun h => here (h.1.trans same.symm)]
        at alike
      simp only [plain, list.injEq, true_and] at alike
      exact plain_now_eq_of_followItems same marked xs inside alike
  | map m es =>
    by_cases here : m = d.mark
    · have ours : m = d.mark ∧ m ≠ 0 := ⟨here, here ▸ marked⟩
      have theirs : m = e.mark ∧ m ≠ 0 := ⟨here.trans same, ours.2⟩
      rwa [follow, follow, if_pos ours, if_pos theirs] at alike
    · have inside := (List.mem_cons.1 holds).resolve_left fun h => here h.symm
      rw [follow, follow, if_neg fun h => here h.1, if_neg fun h => here (h.1.trans same.symm)]
        at alike
      simp only [plain, map.injEq, true_and] at alike
      exact plain_now_eq_of_followEntries same marked es inside alike
  | _ => cases holds

theorem plain_now_eq_of_followItems {d e : Edit} (same : d.mark = e.mark) (marked : d.mark ≠ 0)
    (xs : List Value) (holds : d.mark ∈ marksItems xs)
    (alike : plainItems (followItems d xs) = plainItems (followItems e xs)) :
    d.now.plain = e.now.plain := by
  cases xs with
  | nil => cases holds
  | cons x xs =>
    simp only [followItems, plainItems, List.cons.injEq] at alike
    rcases List.mem_append.1 holds with first | later
    · exact plain_now_eq_of_follow same marked x first alike.1
    · exact plain_now_eq_of_followItems same marked xs later alike.2

theorem plain_now_eq_of_followEntries {d e : Edit} (same : d.mark = e.mark) (marked : d.mark ≠ 0)
    (es : List (Key × Value)) (holds : d.mark ∈ marksEntries es)
    (alike : plainEntries (followEntries d es) = plainEntries (followEntries e es)) :
    d.now.plain = e.now.plain := by
  cases es with
  | nil => cases holds
  | cons p es =>
    simp only [followEntries, plainEntries, List.cons.injEq, Prod.mk.injEq, true_and] at alike
    rcases List.mem_append.1 holds with first | later
    · exact plain_now_eq_of_follow same marked p.2 first alike.1
    · exact plain_now_eq_of_followEntries same marked es later alike.2

end

end Value

/-! ### Where a write goes in -/

namespace Store

open Value

/-- The mark of the deepest mapping that a path leads into before its last text. -/
def deepest (mark : Nat) (es : List (Key × Value)) : List String → Nat
  | [] => mark
  | s :: rest =>
    match rest, Entries.get? (.str s) es with
    | _ :: _, some (.map m fs) => deepest m fs rest
    | _, _ => mark

/-- The mark of the mapping that a write at a path goes into. Nobody else holds the root of the
state, which has none. -/
def goal (s : Store) (path : String) : Nat :=
  match s.opened (segments path) with
  | .map m es => deepest m es (segments path)
  | _ => 0

theorem mark_write (next mark : Nat) (es : List (Key × Value)) (segs : List String) (v : Value) :
    (write next mark es segs v).2.mark = deepest mark es segs := by
  induction segs generalizing mark es with
  | nil => rfl
  | cons s rest ih =>
    rcases write_cons next mark es s rest v with ⟨m, fs, more, found, written⟩ | ⟨stops, written⟩
    · obtain ⟨t, rest, rfl⟩ := List.exists_cons_of_ne_nil more
      unfold deepest
      rw [written, found]
      exact ih m fs
    · rw [written]
      unfold deepest
      split
      next m fs found => cases stops m fs found
      next => rfl

/-- What a write puts in place shows the value at one place, whatever the value. -/
theorem exists_under_now (next mark : Nat) (es : List (Key × Value)) {segs : List String}
    (long : segs ≠ []) : ∃ place, ∀ v, (write next mark es segs v).2.now.under place = some v := by
  induction segs generalizing mark es with
  | nil => exact absurd rfl long
  | cons s rest ih =>
    by_cases deeper : ∃ m fs, rest ≠ [] ∧ Entries.get? (.str s) es = some (.map m fs)
    · obtain ⟨m, fs, more, found⟩ := deeper
      obtain ⟨place, shows⟩ := ih m fs more
      refine ⟨place, fun v => ?_⟩
      rw [write_into found more]
      exact shows v
    · refine ⟨s :: rest, fun v => ?_⟩
      rcases write_cons next mark es s rest v with ⟨m, fs, more, found, -⟩ | ⟨-, written⟩
      · exact absurd ⟨m, fs, more, found⟩ deeper
      · rw [written, under_set_self]
        exact under_nest next rest v

theorem exists_opened (s : Store) (segs : List String) : ∃ es, s.opened segs = .map 0 es := by
  unfold opened root
  split
  · cases segs with
    | nil => exact ⟨_, rfl⟩
    | cons _ _ => exact ⟨_, rfl⟩
  · exact ⟨_, rfl⟩

/-- Every write is one edit, of the mapping that it goes into. -/
theorem edits_set (s : Store) (path : String) : ∃ es, s.goal path = deepest 0 es (segments path) ∧
    ∀ v, (s.set path v).2 = [(write s.next 0 es (segments path) v).2] := by
  obtain ⟨es, opened⟩ := s.exists_opened (segments path)
  exact ⟨es, by rw [goal, opened], fun v => by rw [set, place, drafted, opened]⟩

theorem goal_adopt (s : Store) (v : Value) (path : String) :
    (s.adopt v).2.goal path = s.goal path := by
  unfold adopt
  split <;> rfl

theorem mark_of_mem_set {s : Store} {path : String} {v : Value} {e : Edit}
    (member : e ∈ (s.set path v).2) : e.mark = s.goal path := by
  obtain ⟨es, goal, edits⟩ := s.edits_set path
  rw [edits, List.mem_singleton] at member
  rw [member, mark_write, goal]

/-- Data see only writes into their own mappings. -/
theorem goal_mem_of_seen {s : Store} {path : String} {v data : Value}
    (changed : (data.followAll (s.set path v).2).plain ≠ data.plain) :
    s.goal path ≠ 0 ∧ s.goal path ∈ marks data := by
  apply Decidable.byContradiction
  intro apart
  have untouched : data.followAll (s.set path v).2 = data :=
      followAll_eq_self fun e member inside => by
    rw [mark_of_mem_set member] at inside ⊢
    exact Decidable.byContradiction fun marked => apart ⟨marked, inside⟩
  exact changed (congrArg plain untouched)

/-- Of two numbers, one is seen when it is written into a mapping of the data. -/
theorem exists_seen {s : Store} {path : String} {data : Value} (marked : s.goal path ≠ 0)
    (inside : s.goal path ∈ marks data) :
    ∃ n : Int, (data.followAll (s.set path (.int n)).2).plain ≠ data.plain := by
  obtain ⟨es, goal, edits⟩ := s.edits_set path
  have mark (v : Value) : (write s.next 0 es (segments path) v).2.mark =
      s.goal path := by rw [mark_write, goal]
  have followed (v : Value) : data.followAll (s.set path v).2 =
      data.follow (write s.next 0 es (segments path) v).2 := by
    rw [edits]
    rfl
  apply Classical.byContradiction
  intro unseen
  -- if neither were seen, what the two writes put in place would look the same
  have alike (n : Int) : (data.follow (write s.next 0 es (segments path) (.int n)).2).plain =
      data.plain := by
    apply Classical.byContradiction
    intro changed
    exact unseen ⟨n, by rwa [followed]⟩
  have now := plain_now_eq_of_follow ((mark (.int 0)).trans (mark (.int 1)).symm)
    (mark (.int 0) ▸ marked) data
    (mark (.int 0) ▸ inside) ((alike 0).trans (alike 1).symm)
  obtain ⟨place, shows⟩ := exists_under_now s.next 0 es (segments_ne_nil path)
  have shown := congrArg (·.under place) now
  simp [under_plain, shows, plain] at shown

theorem adopt_int (s : Store) (n : Int) : s.adopt (.int n) = (.int n, s) := by
  unfold adopt
  split <;> rfl

end Store

namespace Session

variable {η : Type} {s t u : Session η}

open Step (Keeps MadeOf)

/-! ### Logs that go on -/

/-- What was in the log of a session is at the front of what is there later: some edits were made
since, which the entries have followed, and some entries have been taken in. The oldest ones may be
gone. -/
def Continues (s t : Session η) : Prop := ∃ since new, t.edits = since ++ s.edits ∧
  t.log.taken = s.log.taken + new.length ∧
  t.log.entries <:+ s.log.entries.map (LogEntry.followAll since.reverse) ++ new

namespace Continues

theorem of_added (new : List LogEntry) (edits : t.edits = s.edits)
    (taken : t.log.taken = s.log.taken + new.length)
    (entries : t.log.entries <:+ s.log.entries ++ new) : Continues s t := by
  refine ⟨[], new, edits, taken, ?_⟩
  rw [List.reverse_nil, LogEntry.map_followAll_nil]
  exact entries

theorem of_eq (edits : t.edits = s.edits) (log : t.log = s.log) : Continues s t :=
  of_added [] edits (congrArg RunLog.taken log) ⟨[], by rw [log, List.nil_append, List.append_nil]⟩

theorem trans (h : Continues s t) (k : Continues t u) : Continues s u := by
  obtain ⟨since, new, edits, taken, entries⟩ := h
  obtain ⟨since', new', edits', taken', entries'⟩ := k
  refine ⟨since' ++ since, new.map (LogEntry.followAll since'.reverse) ++ new', ?_, ?_,
    entries'.trans ?_⟩
  · rw [edits', edits, List.append_assoc]
  · rw [taken', taken, List.length_append, List.length_map]
    omega
  -- the entries that were there first follow the edits of both stretches, those of the first stretch only the later ones
  ·
    obtain ⟨gone, split⟩ := entries
    refine ⟨gone.map (LogEntry.followAll since'.reverse), ?_⟩
    rw [List.reverse_append, LogEntry.followAll_append, ← List.map_map, ← List.append_assoc,
      ← List.append_assoc,
      ← List.map_append, ← List.map_append, split]

theorem addEntry (s : Session η) (e : LogEntry) : Continues s (s.addEntry e) :=
  of_added [e] rfl rfl (RunLog.window_suffix _ _)

theorem addLine (s : Session η) (line : String) : Continues s (s.addLine line) :=
  of_added [] rfl rfl ⟨[], (List.append_nil _).symm⟩

theorem clear (s : Session η) : Continues s { s with log := s.log.clear } :=
  of_added [] rfl rfl List.nil_suffix

theorem importText (s : Session η) (text : String) :
    Continues s { s with log := (s.log.importText text).2 } := by
  unfold RunLog.importText
  split
  next es _ =>
    refine of_added es rfl rfl ?_
    exact (RunLog.window_suffix _ es).trans (List.suffix_append _ es)
  next => exact addLine s _

/-- Writes to the state are followed by the log. -/
theorem commit (s : Session η) (store : Store) (edits : List Edit) :
    Continues s (s.commit store edits) := by
  refine ⟨edits.reverse, [], rfl, RunLog.taken_follow edits s.log, [], ?_⟩
  rw [List.reverse_reverse, List.append_nil, ← RunLog.entries_follow, List.nil_append]
  rfl

theorem sow (s : Session η) (tier name : String) (v : Value) :
    Continues s (Session.sow tier name v s).2 := by
  have written := commit s (s.store.set s!"{tier}.vars.{name}" v).1
    (s.store.set s!"{tier}.vars.{name}" v).2
  exact written.trans (of_eq rfl rfl)

/-- An entry that is still there has as many more behind it as were taken in since. -/
theorem back_eq (h : Continues s t) :
    ∃ since, t.edits = since ++ s.edits ∧ s.log.taken ≤ t.log.taken ∧
    ∀ k e e', s.log.back? k = some e → t.log.back? (k + (t.log.taken - s.log.taken)) = some e' →
      e' = e.followAll since.reverse := by
  obtain ⟨since, new, edits, taken, gone, split⟩ := h
  refine ⟨since, edits, by omega, fun k e e' before behind => ?_⟩
  have count : t.log.taken - s.log.taken = new.length := by omega
  have reversed := congrArg List.reverse split
  rw [List.reverse_append, List.reverse_append, ← List.map_reverse] at reversed
  have inside := (List.getElem?_eq_some_iff.1 behind).1
  have later : (t.log.entries.reverse ++ gone.reverse)[k + (t.log.taken - s.log.taken)]? = _ :=
    List.getElem?_append_left inside
  rw [reversed, count, List.getElem?_append_right (by simp), List.length_reverse,
    Nat.add_sub_cancel, List.getElem?_map] at later
  rw [RunLog.back?] at before behind
  rw [before, ← count, behind] at later
  exact (Option.some.inj later).symm

end Continues

/-! ### Points of a run -/

/-- The later points of a run, between two changes of the state or of the log. What else the session
keeps may change at any time. -/
inductive Later (s : Session η) : Session η → Prop where
  | here : Later s s
  | aside {t u : Session η} (h : Later s t) (store : u.store = t.store) (log : u.log = t.log)
    (edits : u.edits = t.edits) : Later s u
  | addEntry {t : Session η} (h : Later s t) (e : LogEntry) : Later s (t.addEntry e)
  | addLine {t : Session η} (h : Later s t) (line : String) : Later s (t.addLine line)
  | clear {t : Session η} (h : Later s t) : Later s { t with log := t.log.clear }
  | importText {t : Session η} (h : Later s t) (text : String) :
    Later s { t with log := (t.log.importText text).2 }
  | setCopy {t : Session η} (h : Later s t) (path : String) (v : Value) :
    Later s (setCopy path v t).2
  | setNode {t : Session η} (h : Later s t) (id : String) (v : Value) : Later s (setNode id v t).2
  | updateNode {t : Session η} (h : Later s t) (id : String) (updates : Value) :
    Later s (updateNode id updates t).2
  | sow {t : Session η} (h : Later s t) (tier name : String) (v : Value) :
    Later s (sow tier name v t).2
  | resetScene {t : Session η} (h : Later s t) : Later s { t with store := t.store.resetScene }
  | restore {t : Session η} (h : Later s t) {snapshot : Value} {store : Store}
    (done : t.store.restore snapshot = .ok store) : Later s { t with store }
  | load {t : Session η} (h : Later s t) (c : Course) : Later s { t with
      course := some (adoptCourse t.store.next c).1
      store := { t.store with next := (adoptCourse t.store.next c).2, shared :=
        t.store.shared || c.marks != 0 } }
  | reset {t : Session η} (h : Later s t) : Later s { t with store := t.store.reset }

theorem Later.continues (h : Later s t) : Continues s t := by
  induction h with
  | here => exact .of_eq rfl rfl
  | aside _ _ log edits ih => exact ih.trans (.of_eq edits log)
  | addEntry _ e ih => exact ih.trans (.addEntry _ e)
  | addLine _ line ih => exact ih.trans (.addLine _ line)
  | clear _ ih => exact ih.trans (.clear _)
  | importText _ text ih => exact ih.trans (.importText _ text)
  | setCopy _ path v ih => exact ih.trans (.commit _ _ _)
  | setNode _ id v ih =>
    refine ih.trans ?_
    simp only [Session.setNode]
    split
    · exact .commit _ _ _
    · exact .of_eq rfl rfl
  | updateNode _ id updates ih =>
    refine ih.trans ?_
    rw [Session.updateNode]
    split
    · exact .commit _ _ _
    · exact .commit _ _ _
    · exact .of_eq rfl rfl
  | sow _ tier name v ih => exact ih.trans (.sow _ tier name v)
  | resetScene _ ih => exact ih.trans (.of_eq rfl rfl)
  | restore _ _ ih => exact ih.trans (.of_eq rfl rfl)
  | load _ c ih => exact ih.trans (.of_eq rfl rfl)
  | reset _ ih => exact ih.trans (.of_eq rfl rfl)

/-! ### Runs lead to later points -/

theorem lasting_later (s : Session η) : Lasting (Later s) where
  addEntry _ e h := h.addEntry e
  addLine _ line h := h.addLine line
  bus _ _ h := h.aside rfl rfl rfl
  host _ _ h := h.aside rfl rfl rfl
  history _ _ h := h.aside rfl rfl rfl
  moves _ _ h := h.aside rfl rfl rfl
  setCopy path v _ h := h.setCopy path v
  setNode id v _ h := h.setNode id v
  updateNode id updates _ h := h.updateNode id updates

theorem entering_later (s : Session η) : Entering (Later s) where
  toFirm := (lasting_later s).toFirm
  place _ _ _ _ h := h.aside rfl rfl rfl
  triggers _ _ h := h.aside rfl rfl rfl
  resetScene _ h := h.resetScene
  sow tier name v _ h := h.sow tier name v

theorem keeps_loadCourse_later (s : Session η) (c : Course) : Keeps (Later s) (loadCourse c) :=
  (entering_later s).loadCourse c fun _ h => h.load c

theorem keeps_reset_later (s : Session η) : Keeps (Later s) reset :=
  Keeps.bind ((lasting_later s).write _ _ _ _) fun _ => Keeps.update fun _ h =>
    h.clear.reset.aside rfl rfl rfl

/-- What a host can do to a session, in the middle of whatever the session is doing. Of the log it
uses what the log is there for: entries are added, and all of them are dropped or replaced by
imported ones. -/
inductive Deed (emit : Emitter η) : Step (Session η) Unit → Prop where
  | emit (e : Event) : Deed emit (emit e)
  | setState (state : Value) : Deed emit (setState state)
  | updateNode (id : String) (updates : Value) : Deed emit (updateNode id updates)
  | enter (id : String) : Deed emit (enterScene id)
  | resume (snapshot : Value) : Deed emit (resume snapshot)
  | load (c : Course) : Deed emit (loadCourse c)
  | reset : Deed emit reset
  | write (level : Level) (category : Category) (message : String) (data : Value) :
    Deed emit (write level category message data)
  | clearLog : Deed emit (Step.update fun s => { s with log := s.log.clear })
  | importLog (text : String) :
    Deed emit (Step.update fun s => { s with log := (s.log.importText text).2 })
  | aside (f : Session η → Session η) (store : ∀ s, (f s).store = s.store)
    (log : ∀ s, (f s).log = s.log)
    (edits : ∀ s, (f s).edits = s.edits) : Deed emit (Step.update f)

theorem governs_later (s : Session η) : Governs (Later s) (fun _ => True) Deed where
  toInward := (lasting_later s).toInward
  guided _ _ _ _ := fun _ _ => trivial
  enter id _ := (entering_later s).enterScene id
  calls emit he x called := by
    cases called with
    | emit e => exact he e
    | setState state => exact (lasting_later s).setState state
    | updateNode id updates => exact (lasting_later s).updateNode id updates
    | enter id => exact (entering_later s).enterScene id
    | resume snapshot =>
      refine Keeps.looking fun t h => ?_
      cases done : t.store.restore snapshot with
      | ok store => exact h.restore done
      | error e => exact h
    | load c => exact keeps_loadCourse_later s c
    | reset => exact keeps_reset_later s
    | write level category message data => exact (lasting_later s).write _ _ _ _
    | clearLog => exact Keeps.update fun _ h => h.clear
    | importLog text => exact Keeps.update fun _ h => h.importText text
    | aside f store log edits => exact Keeps.update fun t h => h.aside (store t) (log t) (edits t)

/-- Whatever is asked of a session, and whatever its host does meanwhile, leads to a later point. -/
theorem later_run {host : Host η} (made : host.MadeOf Deed) (nesting : Nat)
    {run : Step (Session η) Unit}
    (asked : run.MadeOf fun x => Demand (fun _ _ => true) host (emit host nesting) x ∨
      Deed (emit host nesting) x)
    (s : Session η) : Later s (run s).2 := by
  have governs := governs_later s
  refine asked.keeps (I := Later s) (fun x called => ?_) s .here
  rcases called with demand | deed
  · cases demand with
    | operation operation =>
      exact governs.operation made (fun _ _ _ h done => h.restore done) nesting operation
    | load c => exact Keeps.looking fun t h => keeps_loadCourse_later s c t h
    | reset => exact keeps_reset_later s
    | destroy => exact Keeps.bind (keeps_reset_later s) fun _ => governs.write _ _ _ _
  · exact governs.calls _ (governs.emit made nesting) x deed

/-- So does asking a question about the state, which only writes notes to the log. -/
theorem later_ask {α : Type} (question : Store → Limits → Noted α) (s : Session η) :
    Later s (ask question s).2 :=
  (lasting_later s).ask question s .here

/-- So does running actions on their own. -/
theorem later_executeValues {cb : Callbacks η} {s : Session η}
    (obeys : Obeys cb (fun _ => True) (Later s)) (vs : List Value) :
    Later s (executeValues cb vs s).2 := by
  refine Keeps.each (fun v _ => ?_) s .here
  unfold executeValue
  split
  next a _ => exact (lasting_later s).execute obeys a fun _ _ => trivial
  next =>
    split
    · exact (lasting_later s).write _ _ _ _
    · exact Keeps.fail _

/-! ### What becomes of an entry -/

theorem back_setCopy (s : Session η) (path : String) (v : Value) (k : Nat) :
    (setCopy path v s).2.log.back? k =
    (s.log.back? k).map
      (LogEntry.followAll ((s.store.adopt v).2.set path (s.store.adopt v).1).2) := by
  have entries := RunLog.entries_follow ((s.store.adopt v).2.set path (s.store.adopt v).1).2 s.log
  rw [RunLog.back?, RunLog.back?, ← List.getElem?_map, List.map_reverse, ← entries]
  rfl

/-- Some write at a path is seen in an entry if and only if it goes into a mapping of the entry's
data. -/
theorem exists_setCopy_seen_iff (s : Session η) (path : String) {k : Nat} {e : LogEntry}
    (there : s.log.back? k = some e) :
    (∃ v, ((setCopy path v s).2.log.back? k).map LogEntry.seen ≠ some e.seen) ↔
      s.store.goal path ≠ 0 ∧ s.store.goal path ∈ marks e.data := by
  have seen (v : Value) : ((setCopy path v s).2.log.back? k).map LogEntry.seen ≠ some e.seen ↔
      (e.data.followAll ((s.store.adopt v).2.set path (s.store.adopt v).1).2).plain ≠
          e.data.plain := by
    simp [back_setCopy, there, LogEntry.seen, LogEntry.followAll]
  simp only [seen]
  constructor
  · rintro ⟨v, changed⟩
    have inside := Store.goal_mem_of_seen changed
    rwa [Store.goal_adopt] at inside
  · rintro ⟨marked, inside⟩
    obtain ⟨n, changed⟩ := Store.exists_seen marked inside
    refine ⟨.int n, ?_⟩
    rwa [Store.adopt_int]

/-- At a later point of a run an entry that is still there reads as before, but for its data. These
have followed all edits that were made since, and the entry is the very same if none of the edits
was made to a container that it held. At every point, there are values whose writing changes what an
entry shows, if and only if the write goes into a mapping that the entry holds. -/
theorem entries_later (h : Later s t) :
    (∃ since, t.edits = since ++ s.edits ∧ s.log.taken ≤ t.log.taken ∧
      ∀ k e e', s.log.back? k = some e → t.log.back? (k + (t.log.taken - s.log.taken)) = some e' →
        e' = { e with data := e.data.followAll since.reverse } ∧
        ((∀ d ∈ since, d.mark ∈ marks e.data → d.mark = 0) → e' = e)) ∧
    ∀ (k : Nat) (e : LogEntry) (path : String), t.log.back? k = some e →
      ((∃ v, ((setCopy path v t).2.log.back? k).map LogEntry.seen ≠ some e.seen) ↔
        t.store.goal path ≠ 0 ∧ t.store.goal path ∈ marks e.data) := by
  refine ⟨?_, fun k e path there => exists_setCopy_seen_iff t path there⟩
  obtain ⟨since, edits, taken, followed⟩ := h.continues.back_eq
  refine ⟨since, edits, taken, fun k e e' before behind => ?_⟩
  obtain rfl := followed k e e' before behind
  refine ⟨rfl, fun spared => ?_⟩
  have same : e.data.followAll since.reverse = e.data :=
    Value.followAll_eq_self fun d member => spared d (List.mem_reverse.1 member)
  rw [LogEntry.followAll, same]

def boxed : Session Unit :=
  (execute ⟨none, none⟩ (.setVar "globals.vars.box" (.object [("a", .int 1)])) (fresh {} {} ())).2

def reboxed : Session Unit := (execute ⟨none, none⟩ (.setVar "globals.vars.box.a" (.int 2)) boxed).2

theorem later_reboxed : Later boxed reboxed := by
  have alone : Obeys (⟨none, none⟩ : Callbacks Unit) (fun _ => True) (Later boxed) :=
    ⟨fun _ absent => (nomatch absent), fun _ absent => (nomatch absent)⟩
  exact (lasting_later boxed).execute alone _ (fun _ _ => trivial) boxed .here

/-- The entry that tells of the box has followed one edit since, and it would also show what is
written beside the number. -/
theorem entries_later_box : ∃ e e', boxed.log.back? 0 = some e ∧ reboxed.log.back? 2 = some e' ∧
    (∃ edit, reboxed.edits = [edit] ++ boxed.edits ∧
      e' = { e with data := e.data.followAll [edit] }) ∧
    ∃ v, ((setCopy "globals.vars.box.b" v reboxed).2.log.back? 2).map LogEntry.seen ≠
      some e'.seen := by
  obtain ⟨⟨since, edits, -, kept⟩, sees⟩ := entries_later later_reboxed
  obtain ⟨e, before⟩ : ∃ e, boxed.log.back? 0 = some e := ⟨_, rfl⟩
  obtain ⟨e', behind⟩ : ∃ e, reboxed.log.back? 2 = some e := ⟨_, rfl⟩
  have more : reboxed.log.taken - boxed.log.taken = 2 := by decide +kernel
  obtain ⟨edit, one⟩ : ∃ edit, reboxed.edits = [edit] ++ boxed.edits := ⟨_, rfl⟩
  have only : since = [edit] := List.append_cancel_right (edits.symm.trans one)
  have held : (reboxed.log.back? 2).all
      (fun e => decide (reboxed.store.goal "globals.vars.box.b" ≠ 0 ∧
      reboxed.store.goal "globals.vars.box.b" ∈ marks e.data)) = true := by decide +kernel
  rw [behind, Option.all_some, decide_eq_true_iff] at held
  have followed := (kept 0 e e' before (by rw [more]; exact behind)).1
  rw [only] at followed
  exact ⟨e, e', before, behind, ⟨edit, one, followed⟩, (sees 2 e' _ behind).2 held⟩

/-- The entry that tells of the box shows a 1 first, and a 2 once this is written into the box. -/
theorem entry_changed : Later boxed reboxed ∧ reboxed.log.taken - boxed.log.taken = 2 ∧
    (boxed.log.back? 0).map (·.message) = some "Set globals.vars.box" ∧
    (reboxed.log.back? 2).map (·.message) = some "Set globals.vars.box" ∧
    (boxed.log.back? 0).bind (·.data.under ["value", "a"]) = some (.int 1) ∧
    (reboxed.log.back? 2).bind (·.data.under ["value", "a"]) = some (.int 2) := by
  refine ⟨later_reboxed, ?_, ?_, ?_, ?_, ?_⟩
  · decide +kernel
  · decide +kernel
  · decide +kernel
  · rfl
  · rfl

end Session

end SceneCourse
