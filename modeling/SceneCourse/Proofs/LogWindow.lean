import Mathlib.Data.List.DropRight
import SceneCourse.Log.RunLog
import SceneCourse.Proofs.RecordReading

/-! A log as a window on its history. The history is a plain list without a bound: an entry that is
accepted comes to its end, clearing empties it, and a text that exports entries takes its place.
Proved for every capacity, the capacity zero included, and every run of requests, failing ones
included: the log holds just the last entries of the history, as many as it has room for, and its
answers say what became of the history. -/

namespace SceneCourse

variable {α κ : Type}

/-! ### The last elements of a list -/

theorem rtake_rtake_append (n : Nat) (before after : List α) :
    (before.rtake n ++ after).rtake n = (before ++ after).rtake n := by
  simp only [List.rtake_eq_reverse_take_reverse, List.reverse_append, List.reverse_reverse,
    List.take_append,
    List.length_reverse, List.take_take]
  congr 3
  omega

/-- A list taken apart by the kinds of its elements. -/
theorem flatMap_filter_perm [DecidableEq κ] (kind : α → κ) {kinds : List κ} (once : kinds.Nodup)
    (as : List α) :
    (kinds.flatMap fun k => as.filter (kind · == k)).Perm (as.filter (kind · ∈ kinds)) := by
  induction kinds with
  | nil => simp
  | cons k kinds ih =>
    obtain ⟨new, once⟩ := List.nodup_cons.mp once
    have here : (as.filter (kind · ∈ k :: kinds)).filter (kind · == k) =
        as.filter (kind · == k) := by
      rw [List.filter_filter]
      exact List.filter_congr fun a _ => by by_cases same : kind a = k <;> simp [same]
    have later : (as.filter (kind · ∈ k :: kinds)).filter (fun a => !(kind a == k)) =
        as.filter (kind · ∈ kinds) := by
      rw [List.filter_filter]
      refine List.filter_congr fun a _ => ?_
      by_cases same : kind a = k
      · simp [same, new]
      · simp [same]
    rw [List.flatMap_cons]
    refine ((ih once).append_left _).trans ?_
    rw [← here, ← later]
    exact List.filter_append_perm _ _

def Level.all : List Level := [.debug, .info, .warn, .error]

def Category.all : List Category := [.event, .condition, .action, .state, .scene]

theorem Level.mem_all (l : Level) : l ∈ all := by cases l <;> decide

theorem Category.mem_all (c : Category) : c ∈ all := by cases c <;> decide

theorem Level.ofValue_eq_ok_iff {v : Value} {l : Level} : ofValue v = .ok l ↔ v = .str l.name := by
  constructor
  · intro found
    unfold ofValue at found
    split at found
    next s =>
      unfold ofName? at found
      split at found <;> cases found <;> rfl
    next => cases found
  · rintro rfl
    cases l <;> rfl

theorem Category.ofValue_eq_ok_iff {v : Value} {c : Category} :
    ofValue v = .ok c ↔ v = .str c.name := by
  constructor
  · intro found
    unfold ofValue at found
    split at found
    next s =>
      unfold ofName? at found
      split at found <;> cases found <;> rfl
    next => cases found
  · rintro rfl
    cases c <;> rfl

/-! ### Requests -/

namespace LogEntry

/-- What a reader sees of an entry: where its data are held besides does not matter. -/
def seen (e : LogEntry) : LogEntry := { e with data := e.data.plain }

/-- The entry is the one that a log call asks for. -/
structure AskedBy (e : LogEntry) (level category message data : Value) : Prop where
  level : level = .str e.level.name
  category : category = .str e.category.name
  message : message.readText = .ok e.message
  data : e.data = data
  time : e.time = 0

def ExportedBy (es : List LogEntry) (text : String) : Prop :=
  ∃ v records, Json.parse .records text = .ok v ∧ v.items? = some records ∧
    List.Forall₂ (fun record e => LogEntry.read record = .ok e) records es

end LogEntry

/-- What can be asked of a log. -/
inductive LogRequest where
  | write (level category message data : Value)
  | clear
  | importText (text : String)

inductive LogAnswer where
  | written (outcome : Except Fault LogEntry)
  | cleared
  | imported (accepted : Bool)

open LogEntry in
/-- What a request makes of a history, and with which answer. An accepted entry is answered, unless
the stream should get a line for it and its data cannot be shown. -/
inductive Recounts : LogRequest → LogAnswer → List LogEntry → List LogEntry → Prop where
  | accepted {level category message data : Value} {e : LogEntry} {outcome : Except Fault LogEntry}
    (asked : AskedBy e level category message data)
    (answer : outcome = .ok e ∨ (∃ fault, outcome = .error fault) ∧ data.holdsLong = true)
    (history : List LogEntry) :
    Recounts (.write level category message data) (.written outcome) history (history ++ [e])
  | rejected {level category message data : Value}
    (never : ∀ e, ¬AskedBy e level category message data) (fault : Fault)
    (history : List LogEntry) :
    Recounts (.write level category message data) (.written (.error fault)) history history
  | cleared (history : List LogEntry) : Recounts .clear .cleared history []
  | imported {text : String} {es : List LogEntry} (exported : ExportedBy es text)
    (history : List LogEntry) : Recounts (.importText text) (.imported true) history es
  | refused {text : String} (never : ∀ es, ¬ExportedBy es text) (history : List LogEntry) :
    Recounts (.importText text) (.imported false) history history

inductive History : List LogRequest → List LogAnswer → List LogEntry → List LogEntry → Prop where
  | nil (history : List LogEntry) : History [] [] history history
  | cons {r : LogRequest} {a : LogAnswer} {rs : List LogRequest} {as : List LogAnswer}
    {before between after : List LogEntry}
    (first : Recounts r a before between) (rest : History rs as between after) :
      History (r :: rs) (a :: as) before after

namespace RunLog

def perform (log : RunLog) : LogRequest → LogAnswer × RunLog
  | .write level category message data =>
    let (outcome, log) := log.write level category message data
    (.written outcome, log)
  | .clear => (.cleared, log.clear)
  | .importText text =>
    let (accepted, log) := log.importText text
    (.imported accepted, log)

def serve (log : RunLog) : List LogRequest → List LogAnswer × RunLog
  | [] => ([], log)
  | r :: rs =>
    let (a, log) := log.perform r
    let (as, log) := log.serve rs
    (a :: as, log)

/-! ### What is accepted -/

theorem entryOf_eq_ok_iff {level category message data : Value} {e : LogEntry} :
    entryOf level category message data = .ok e ↔ e.AskedBy level category message data := by
  constructor
  · intro found
    obtain ⟨l, leveled, found⟩ := bind_eq_ok found
    obtain ⟨c, sorted, found⟩ := bind_eq_ok found
    obtain ⟨m, told, found⟩ := bind_eq_ok found
    cases found
    exact ⟨Level.ofValue_eq_ok_iff.mp leveled, Category.ofValue_eq_ok_iff.mp sorted,
      Checked.inside_eq_ok.mp (Checked.toExcept_eq_ok.mp told), rfl, rfl⟩
  · intro asked
    have leveled := Level.ofValue_eq_ok_iff.mpr asked.level
    have sorted := Category.ofValue_eq_ok_iff.mpr asked.category
    have told : (message.readText.inside (.field "message")).toExcept "LogEntry" = .ok e.message :=
      Checked.toExcept_eq_ok.mpr (Checked.inside_eq_ok.mpr asked.message)
    rw [entryOf, leveled, sorted, told, ← asked.data]
    exact congrArg (fun time => Except.ok ({ e with time } : LogEntry)) asked.time.symm

theorem readExport_eq_ok_iff {text : String} {es : List LogEntry} :
    readExport text = .ok es ↔ LogEntry.ExportedBy es text := by
  rw [readExport, LogEntry.ExportedBy]
  cases parsed : Json.parse .records text with
  | error e => simp
  | ok v =>
    simp only [Except.ok.injEq, exists_and_left, exists_eq_left', ← readList_eq_ok_iff]
    cases Value.readList LogEntry.read v <;> simp

/-! ### The window -/

/-- The log shows the end of a history: as much of it as it has room for, and its answers to
questions are about that. -/
structure Windows (log : RunLog) (room : Nat) (history : List LogEntry) : Prop where
  entries : log.entries = history.rtake room
  size : log.size ≤ room
  recent : ∀ count : Int, log.recentOf (.int count) = .ok (log.entries.rtake count.toNat)
  byLevel : ∀ l, log.byLevel l = (history.rtake room).filter (·.level == l)
  byCategory : ∀ c, log.byCategory c = (history.rtake room).filter (·.category == c)
  allLevels : (Level.all.flatMap log.byLevel).Perm log.entries
  allCategories : (Category.all.flatMap log.byCategory).Perm log.entries

def Shows (log : RunLog) (room : Nat) (history : List LogEntry) : Prop :=
  log.capacity = some room ∧ log.entries = history.rtake room

variable {log : RunLog} {room : Nat} {history : List LogEntry}

theorem Shows.windows (h : log.Shows room history) : log.Windows room history := by
  obtain ⟨-, shown⟩ := h
  refine ⟨shown, ?_, fun _ => rfl, fun l => ?_, fun c => ?_, ?_, ?_⟩
  · rw [size, shown, List.rtake, List.length_drop]
    omega
  · rw [byLevel, shown]
  · rw [byCategory, shown]
  · apply (flatMap_filter_perm LogEntry.level (by decide) log.entries).trans
    simp [Level.mem_all]
  · apply (flatMap_filter_perm LogEntry.category (by decide) log.entries).trans
    simp [Category.mem_all]

/-- Writing an entry fails only for its data. -/
theorem write_cases (log : RunLog) (level category message data : Value) :
    (∃ e outcome, e.AskedBy level category message data ∧
        (outcome = .ok e ∨ (∃ fault, outcome = .error fault) ∧ data.holdsLong = true) ∧
        log.write level category message data = (outcome, log.add e)) ∨
      (∀ e : LogEntry, ¬e.AskedBy level category message data) ∧
        ∃ fault, log.write level category message data = (.error fault, log) := by
  cases asked : entryOf level category message data with
  | error fault =>
    refine Or.inr ⟨fun e there => ?_, fault, by rw [RunLog.write, asked]⟩
    cases asked.symm.trans (entryOf_eq_ok_iff.mpr there)
  | ok e =>
    have there := entryOf_eq_ok_iff.mp asked
    refine Or.inl ⟨e, (log.outcome e).map fun _ => e, there, ?_, by rw [RunLog.write, asked]⟩
    cases ends : log.outcome e with
    | ok _ => exact Or.inl rfl
    | error fault =>
      refine Or.inr ⟨⟨fault, rfl⟩, ?_⟩
      by_contra short
      rw [← there.data, Bool.not_eq_true] at short
      cases ends.symm.trans (log.outcome_of_short short)

/-- A request makes of the log what it makes of the history. -/
theorem Shows.perform (h : log.Shows room history) (r : LogRequest) :
    ∃ later, Recounts r (log.perform r).1 history later ∧ (log.perform r).2.Shows room later := by
  obtain ⟨capacity, shown⟩ := h
  cases r with
  | write level category message data =>
    rcases log.write_cases level category message data with
      ⟨e, outcome, asked, answer, written⟩ | ⟨never, fault, written⟩
    · refine ⟨history ++ [e], ?_, ?_⟩
      · rw [RunLog.perform, written]
        exact .accepted asked answer history
      · rw [RunLog.perform, written]
        refine ⟨capacity, ?_⟩
        calc window log.capacity (log.entries ++ [e])
          _ = (history.rtake room ++ [e]).rtake room := by rw [capacity, shown]; rfl
          _ = (history ++ [e]).rtake room := rtake_rtake_append room history [e]
    · refine ⟨history, ?_, ?_⟩
      · rw [RunLog.perform, written]
        exact .rejected never fault history
      · rw [RunLog.perform, written]
        exact ⟨capacity, shown⟩
  | clear => exact ⟨[], .cleared history, capacity, (List.rtake_nil room).symm⟩
  | importText text =>
    cases read : readExport text with
    | ok es =>
      refine ⟨es, ?_, ?_⟩
      · rw [RunLog.perform, importText, read]
        exact .imported (readExport_eq_ok_iff.mp read) history
      · rw [RunLog.perform, importText, read]
        exact ⟨capacity, congrArg (window · es) capacity⟩
    | error n =>
      have never (es : List LogEntry) (exported : LogEntry.ExportedBy es text) : False := by
        cases read.symm.trans (readExport_eq_ok_iff.mpr exported)
      refine ⟨history, ?_, ?_⟩
      · rw [RunLog.perform, importText, read]
        exact .refused never history
      · rw [RunLog.perform, importText, read]
        exact ⟨capacity, shown⟩

theorem Shows.serve (h : log.Shows room history) (rs : List LogRequest) :
    ∃ later, History rs (log.serve rs).1 history later ∧ (log.serve rs).2.Shows room later := by
  induction rs generalizing log history with
  | nil => exact ⟨history, .nil history, h⟩
  | cons r rs ih =>
    obtain ⟨between, first, shows⟩ := h.perform r
    obtain ⟨later, rest, shown⟩ := ih shows
    exact ⟨later, .cons first rest, shown⟩

theorem capacityOf_natCast (room : Nat) :
    capacityOf (.int room) = if room < 0x8000000000000000 then .ok
      (some room) else .error .tooLarge := by
  rw [capacityOf]
  by_cases small : room < 0x8000000000000000
  · have fits : ¬((0x8000000000000000 : Int) ≤ room ∨
        (room : Int) < -0x8000000000000000) := by omega
    rw [if_pos small, if_neg (by simpa only [Bool.or_eq_true, decide_eq_true_eq] using fits),
      if_neg (by omega),
      Int.toNat_natCast]
  · have large : (0x8000000000000000 : Int) ≤ room ∨ (room : Int) < -0x8000000000000000 := by omega
    rw [if_neg small, if_pos (by simpa only [Bool.or_eq_true, decide_eq_true_eq] using large)]

/-- Every new log, after any requests: what it holds is the end of the history that the requests
have made. A capacity has no bound but the one that settings have. -/
theorem serve_windows (room : Nat) (verbose : Value) (requests : List LogRequest) :
    ofSettings (.int room) verbose =
        (if room < 0x8000000000000000 then .ok { capacity := some room, verbose := verbose.truthy }
          else .error .tooLarge) ∧
      ∃ history,
        History requests (serve { capacity := some room, verbose := verbose.truthy } requests).1
          [] history ∧
        (serve { capacity := some room, verbose := verbose.truthy } requests).2.Windows
          room history := by
  constructor
  · rw [ofSettings, capacityOf_natCast]
    split <;> rfl
  · have begun : Shows { capacity := some room, verbose := verbose.truthy } room [] :=
      ⟨rfl, (List.rtake_nil room).symm⟩
    obtain ⟨history, made, shows⟩ := begun.serve requests
    exact ⟨history, made, shows.windows⟩

end RunLog

end SceneCourse
