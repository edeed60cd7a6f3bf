import SceneCourse.Course.File
import SceneCourse.Proofs.CourseReading
import SceneCourse.Proofs.JsonRemainder

/-! Loading a course, from a document or from a file with a JSON text. What a file may hold is not
foreseen everywhere. Proved: loading ends in a course or in a loading fault except for bytes that
are no text, for an integer with more digits than integers may have, and for a condition of a
trigger that has a list or a mapping for its operator; in each of these cases it does end otherwise,
with a fault that is no loading fault. -/

namespace SceneCourse.Course

variable {path : String} {content : ByteArray} {text : String} {doc : Value}

/-- What a file holds that is loaded neither as a course nor with a loading fault, and the fault
that it is loaded with. -/
inductive Misloaded (content : ByteArray) : Fault → Prop where
  | bytes (undecoded : String.fromUTF8? content = none) : Misloaded content .badBytes
  | digits {text : String} {ds : List Char} (decoded : String.fromUTF8? content = some text)
    (run : ds <:+: (Text.unifyLines text).toList) (digits : ∀ d ∈ ds, d.isDigit = true)
    (long : Numeral.mostDigits < ds.length)
    (refused : Json.parse .documents (Text.unifyLines text) =
      .error (.badInteger (.tooLong ds.length))) :
    Misloaded content (.badValue (.integer (.tooLong ds.length)))
  | operator {text : String} {doc : Value} {kind : String}
    (decoded : String.fromUTF8? content = some text)
    (written : Json.parse .documents (Text.unifyLines text) = .ok doc) (garbled : doc.Garbled) :
    Misloaded content (.wrongKind "looking up an operator" kind)

def IsJson (path : String) : Prop :=
  CourseFormat.ofEnding? (Text.lower (nameEnding (lastPart (tidyPath path)))) = some .json

theorem ofFile_of_undecoded (json : IsJson path) (undecoded : String.fromUTF8? content = none) :
    ofFile path (.file content) = .error .badBytes := by
  unfold ofFile
  dsimp only
  rw [json]
  simp only [Stored.text, undecoded]
  rfl

theorem ofFile_of_decoded (json : IsJson path) (decoded : String.fromUTF8? content = some text) :
    ofFile path (.file content) = (do
      match ← CourseFormat.json.read (lastPart (tidyPath path)) (tidyPath path) (Text.unifyLines text) with
      | .map m es => parse (.map m es)
      | _ => .error (.load (.notMapping (tidyPath path)))) := by
  unfold ofFile
  dsimp only
  rw [json]
  simp only [Stored.text, decoded]
  rfl

/-- A text is misloaded only for the integer or the document that it writes. -/
theorem Misloaded.cases_of_decoded {e : Fault} (bad : Misloaded content e)
    (decoded : String.fromUTF8? content = some text) :
    (∃ cause, Json.parse .documents (Text.unifyLines text) = .error (.badInteger cause)) ∨
      ∃ doc, Json.parse .documents (Text.unifyLines text) = .ok doc ∧ doc.Garbled := by
  rcases bad with undecoded | ⟨decoded', -, -, -, refused⟩ | ⟨decoded', written, garbled⟩
  · cases undecoded.symm.trans decoded
  · cases decoded.symm.trans decoded'
    exact .inl ⟨_, refused⟩
  · cases decoded.symm.trans decoded'
    exact .inr ⟨_, written, garbled⟩

theorem not_garbled_of_not_mapping (other : ∀ m es, doc ≠ .map m es) : ¬doc.Garbled := by
  rintro ⟨c, mem, -⟩
  cases doc with
  | map m es => exact other m es rfl
  | _ => simp [Value.conditions, Value.listed] at mem

/-- Loading a document ends as announced just if the document is not garbled. -/
theorem parse_ends (acyclic : doc.isCyclic = false) : Announced (parse doc) ∧ ¬doc.Garbled ∨
    doc.Garbled ∧ ∃ kind, parse doc = .error (.wrongKind "looking up an operator" kind) := by
  by_cases garbled : doc.Garbled
  · exact .inr ⟨garbled, parse_of_garbled acyclic garbled⟩
  · exact .inl ⟨announced_of_not_garbled acyclic garbled, garbled⟩

theorem ofFile_of_written (json : IsJson path) (decoded : String.fromUTF8? content = some text)
    (written : Json.parse .documents (Text.unifyLines text) = .ok doc) :
    Announced (ofFile path (.file content)) ∧ ¬doc.Garbled ∨ doc.Garbled ∧ ∃ kind,
      ofFile path (.file content) = .error (.wrongKind "looking up an operator" kind) := by
  rw [ofFile_of_decoded json decoded, CourseFormat.read, written]
  by_cases mapping : ∃ m es, doc = .map m es
  · obtain ⟨m, es, rfl⟩ := mapping
    exact parse_ends (Json.acyclic_parse written)
  · have other : ∀ m es, doc ≠ .map m es := fun m es same => mapping ⟨m, es, same⟩
    refine .inl ⟨.inr ⟨.notMapping (tidyPath path), ?_⟩, not_garbled_of_not_mapping other⟩
    cases doc with
    | map m es => exact absurd rfl (other m es)
    | _ => rfl

theorem not_announced {e : Fault} (other : ∀ cause, e ≠ .load cause) : ¬Announced (.error e) := by
  rintro (⟨c, ⟨⟩⟩ | ⟨cause, same⟩)
  exact other cause (Except.error.inj same)

theorem Misloaded.ne_load {e : Fault} (bad : Misloaded content e) (cause : LoadCause) :
    e ≠ .load cause := by
  cases bad <;> rintro ⟨⟩

/-- A file is loaded as announced or misloaded. -/
theorem ofFile_ends (content : ByteArray) (json : IsJson path) :
    Announced (ofFile path (.file content)) ∧ (∀ e, ¬Misloaded content e) ∨
      ∃ e, Misloaded content e ∧ ofFile path (.file content) = .error e := by
  cases decoded : String.fromUTF8? content with
  | none => exact .inr ⟨.badBytes, .bytes decoded, ofFile_of_undecoded json decoded⟩
  | some text =>
    cases read : Json.parse .documents (Text.unifyLines text) with
    | ok doc =>
      rcases ofFile_of_written json decoded read with ⟨announced, clear⟩ | ⟨garbled, kind, failed⟩
      · refine .inl ⟨announced, fun e bad => ?_⟩
        rcases bad.cases_of_decoded decoded with ⟨cause, refused⟩ | ⟨doc', written, garbled⟩
        · cases read.symm.trans refused
        · cases read.symm.trans written
          exact clear garbled
      · exact .inr ⟨_, .operator decoded read garbled, failed⟩
    | error refusal =>
      have failed := ofFile_of_decoded json decoded
      rw [CourseFormat.read, read] at failed
      cases refusal with
      | syntaxError =>
        refine .inl ⟨.inr ⟨_, failed⟩, fun e bad => ?_⟩
        rcases bad.cases_of_decoded decoded with ⟨cause, refused⟩ | ⟨doc', written, -⟩
        · cases read.symm.trans refused
        · cases read.symm.trans written
      | badInteger cause =>
        obtain ⟨ds, run, digits, long, rfl⟩ := Json.longRun_parse read
        exact .inr ⟨_, .digits decoded run digits long read, failed⟩

/-- Loading ends in a course or a loading fault just if what is loaded is not garbled, and a file
holds neither bytes that are no text nor an integer that is too long. -/
theorem loading_announced_iff (doc : Value) (acyclic : doc.isCyclic = false) (content : ByteArray)
    (json : IsJson path) :
    (Announced (parse doc) ↔ ¬doc.Garbled) ∧
    (doc.Garbled → ∃ kind, parse doc = .error (.wrongKind "looking up an operator" kind)) ∧
    (Announced (ofFile path (.file content)) ↔ ∀ e, ¬Misloaded content e) ∧
    ∀ e, ofFile path (.file content) = .error e → (∃ cause, e = .load cause) ∨
    Misloaded content e := by
  refine ⟨⟨fun announced garbled => ?_, announced_of_not_garbled acyclic⟩,
    parse_of_garbled acyclic, ?_⟩
  · obtain ⟨kind, failed⟩ := parse_of_garbled acyclic garbled
    rw [failed] at announced
    exact absurd announced (not_announced nofun)
  · rcases ofFile_ends content json with ⟨announced, fine⟩ | ⟨e, bad, failed⟩
    · refine ⟨iff_of_true announced fine, fun e failed => .inl ?_⟩
      rcases announced with ⟨c, loaded⟩ | ⟨cause, refused⟩
      · cases failed.symm.trans loaded
      · exact ⟨cause, Except.error.inj (failed.symm.trans refused)⟩
    · rw [failed]
      refine ⟨iff_of_false (not_announced bad.ne_load) fun fine => fine e bad, ?_⟩
      rintro _ ⟨⟩
      exact .inr bad

/-! ### A garbled document, and a file without a text -/

/-- Where a separator does not begin, no part of a text ends. -/
theorem splitOnAux_of_ne {s separator : String} {start i : String.Pos.Raw} {parts : List String}
    (more : i.atEnd s = false) (other : (i.get s == String.Pos.Raw.get separator 0) = false) :
    s.splitOnAux separator start i 0 parts = s.splitOnAux separator start (i.next s) 0 parts := by
  rw [String.splitOnAux, if_neg (by simp [more]), if_neg (by simp [other])]
  rfl

theorem isJson_file : IsJson "c.json" := by
  have parts : pathParts "c.json" = ["c.json"] := by
    have whole : "c.json".splitOn "/" = ["c.json"] := by
      rw [String.splitOn, if_neg (by decide)]
      iterate 6 rw [splitOnAux_of_ne (by decide +kernel) (by decide +kernel)]
      rw [String.splitOnAux, if_pos (by decide +kernel)]
      decide +kernel
    rw [pathParts, whole]
    decide +kernel
  have tidy : tidyPath "c.json" = "c.json" := by
    rw [tidyPath, if_neg (by decide +kernel), parts]
    decide +kernel
  rw [IsJson, tidy, lastPart, parts]
  decide +kernel

def unnamedOperator : Value :=
  .object
    [("scenes", .ofList
    [.object [("triggers", .ofList [.object [("if", .ofList [.object [("op", .ofList [])]])]])]])]

theorem garbled_unnamedOperator : unnamedOperator.Garbled := by
  have only : unnamedOperator.conditions = [.object [("op", .ofList [])]] := rfl
  exact ⟨_, only ▸ List.mem_singleton_self _, .operator rfl rfl⟩

theorem loading_unannounced :
    (unnamedOperator.isCyclic = false ∧ ¬Announced (parse unnamedOperator)) ∧
      IsJson "c.json" ∧ ¬Announced (ofFile "c.json" (.file ⟨#[0xff]⟩)) := by
  refine ⟨⟨rfl, ?_⟩, isJson_file, ?_⟩
  · obtain ⟨kind, failed⟩ := parse_of_garbled rfl garbled_unnamedOperator
    rw [failed]
    exact not_announced nofun
  · rw [ofFile_of_undecoded isJson_file (by decide +kernel)]
    exact not_announced nofun

theorem loading_announced_iff_file :
    Announced (parse .emptyMap) ∧
      (∃ kind, parse unnamedOperator = .error (.wrongKind "looking up an operator" kind)) ∧
      ¬Announced (ofFile "c.json" (.file ⟨#[0xff]⟩)) := by
  have clear : ¬Value.Garbled .emptyMap := by
    rintro ⟨c, mem, -⟩
    cases mem
  have undecoded : String.fromUTF8? ⟨#[0xff]⟩ = none := by decide +kernel
  obtain ⟨announced, -, -, -⟩ := loading_announced_iff .emptyMap rfl ⟨#[0xff]⟩ isJson_file
  obtain ⟨-, outright, file, -⟩ := loading_announced_iff unnamedOperator rfl ⟨#[0xff]⟩ isJson_file
  exact ⟨announced.mpr clear, outright garbled_unnamedOperator,
    fun foreseen => file.mp foreseen _ (.bytes undecoded)⟩

end SceneCourse.Course
