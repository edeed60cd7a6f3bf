import SceneCourse.Number.Numeral
import SceneCourse.Value.Display

/-!
What can go wrong, by cause, and the words for each cause. `Complaint` is one defect at one place of
a document; `Fault` is what ends an operation.
-/

namespace SceneCourse

/-- A step from a value to a part of it. -/
inductive Place where
  | field (name : String)
  | item (index : Int)
  deriving DecidableEq, Repr

/-- What is wrong with one part of a document. -/
inductive Defect where
  | missing
  | notText
  /-- Bytes that are no UTF-8 text. -/
  | notUnicode
  | notList
  | notMapping
  | notRecord
  | badKey
  | notMember
  | refused (reason : String)
  | notInteger
  | noIntegerText
  | integerTooLarge
  | fractional
  | notFinite
  | notFloat
  | noFloatText
  deriving DecidableEq, Repr

/-- The short name of a defect. -/
def Defect.code : Defect → String
  | .missing => "missing"
  | .notText => "string_type"
  | .notUnicode => "string_unicode"
  | .notList => "list_type"
  | .notMapping => "dict_type"
  | .notRecord => "model_type"
  | .badKey => "invalid_key"
  | .notMember => "enum"
  | .refused _ => "value_error"
  | .notInteger => "int_type"
  | .noIntegerText => "int_parsing"
  | .integerTooLarge => "int_parsing_size"
  | .fractional => "int_from_float"
  | .notFinite => "finite_number"
  | .notFloat => "float_type"
  | .noFloatText => "float_parsing"

structure Complaint where
  place : List Place
  defect : Defect
  deriving DecidableEq, Repr

/-- Why a course file gave no course. -/
inductive LoadCause where
  | notFound (path : String)
  | format (suffix path : String)
  /-- The text of the file, whose last path part is `name`, follows no syntax. -/
  | syntaxError (name path : String)
  | notMapping (path : String)
  | invalid (complaints : List Complaint)
  deriving DecidableEq, Repr

/-- The file that a cause is about; a document's defects are told without one. -/
def LoadCause.path? : LoadCause → Option String
  | notFound path => some path
  | format _ path => some path
  | syntaxError _ path => some path
  | notMapping path => some path
  | invalid _ => none

/-- A value that is of the right kind but not one of those allowed. -/
inductive BadValue where
  | level (v : Value)
  | category (v : Value)
  | condition (v : Value)
  | action (v : Value)
  | negativeCapacity
  | integer (cause : Numeral.NoInteger)
  | number (text : String)
  | codePoint
  /-- An integer with more digits than are written. -/
  | longInteger
  | moment (cause : Moment.Impossible)
  /-- A container that holds itself where all of it is written, or is taken apart before. -/
  | circular (taken : Bool)
  /-- A value with more levels than are taken apart. -/
  | tooManyLevels
  | pair (index length : Nat)
  | loggingLevel (name : String)
  /-- The name of a variable has an equals sign. -/
  | variableName
  | zeroCharacter

inductive Fault where
  /-- There is no course, at a start or at a scene change. -/
  | noCourse (starting : Bool)
  | noScene (id : String)
  /-- A course file or a document gave no course. -/
  | load (cause : LoadCause)
  /-- A record of a kind has defects. -/
  | malformed (record : String) (complaints : List Complaint)
  | badValue (cause : BadValue)
  /-- An operation on a value of a kind that does not have it. -/
  | noOperation (operation : String) (kind : String)
  /-- An argument or operand of a kind that an operation does not take. -/
  | wrongKind (operation : String) (kind : String)
  | noEntry (key : Key)
  /-- A numeral without a single character. -/
  | emptyNumeral
  /-- An integer beyond the range of binary64 numbers. -/
  | tooLarge
  /-- Events, or the parts of a document, are nested too deeply. -/
  | tooDeep
  | badJson
  | badBytes
  /-- A folder stands where a file is read. -/
  | notAFile
  /-- A file stands where a folder is made. -/
  | alreadyThere
  /-- A file stands where a path goes on. -/
  | notAFolder
  | badEventText (text : String)
  /-- A text for the terminal closes a tag that is not open. -/
  | badMarkup (message : String)
  /-- A callback of the host failed. -/
  | host (message : String)

namespace Fault

/-- The name of a fault's kind, as log lines give it. -/
def kind : Fault → String
  | noCourse _ => "CourseNotLoadedError"
  | noScene _ => "SceneNotFoundError"
  | load .. => "CourseLoadError"
  | malformed .. => "ValidationError"
  | badValue _ => "ValueError"
  | noOperation .. => "AttributeError"
  | wrongKind .. => "TypeError"
  | noEntry _ => "KeyError"
  | emptyNumeral => "IndexError"
  | tooLarge => "OverflowError"
  | tooDeep => "RecursionError"
  | badJson => "JSONDecodeError"
  | badBytes => "UnicodeDecodeError"
  | notAFile => "IsADirectoryError"
  | alreadyThere => "FileExistsError"
  | notAFolder => "NotADirectoryError"
  | badEventText _ => "BadParameter"
  | badMarkup _ => "MarkupError"
  | host _ => "HostError"

end Fault

def BadValue.message : BadValue → String
  | level v => v.literal ++ " is not a valid LogLevel"
  | category v => v.literal ++ " is not a valid LogCategory"
  | condition v => "Condition must be a mapping, got " ++ v.kindName
  | action v => "Action must be a mapping, got " ++ v.kindName
  | negativeCapacity => "maxlen must be non-negative"
  | integer cause => cause.message
  | number text => "could not convert string to float: " ++ Text.quoted text
  | codePoint => "chr() arg not in range(0x110000)"
  | longInteger =>
    s!"Exceeds the limit ({Numeral.mostDigits} digits) for integer string conversion; " ++
      "use sys.set_int_max_str_digits() to increase the limit"
  | moment cause => cause.message
  | circular taken => "Circular reference detected" ++ if taken then " (id repeated)" else ""
  | tooManyLevels => "Maximum serialization depth exceeded"
  | pair index length =>
    s!"dictionary update sequence element #{index} has length {length}; 2 is required"
  | variableName => "illegal environment variable name"
  | zeroCharacter => "embedded null byte"
  | loggingLevel name =>
    s!"Unknown log level '{name}' (expected one of DEBUG, INFO, WARNING, ERROR)"

def Place.shown : Place → String
  | .field name => name
  | .item index => toString index

def Complaint.line (c : Complaint) : String :=
  ".".intercalate (c.place.map (·.shown)) ++ ": " ++ c.defect.code

/-- The number of a record's defects, and a line for each. -/
def defectText (record : String) (complaints : List Complaint) : String :=
  let n := complaints.length
  "\n".intercalate ((s!"{n} validation error" ++ (if n == 1 then "" else "s") ++
    s!" for {record}") ::
    complaints.map (·.line))

/-- The cause without its details. -/
def LoadCause.headline : LoadCause → String
  | notFound path => s!"Course file not found: {path}"
  | format suffix _ => s!"Unsupported course format '{suffix}' (expected one of .json, .yaml, .yml)"
  | syntaxError name _ => s!"Could not parse {name}"
  | notMapping path => s!"Course root must be a mapping: {path}"
  | invalid _ => "Invalid course document"

def LoadCause.message : LoadCause → String
  | invalid cs => (invalid cs).headline ++ ": " ++ defectText "Course" cs
  | c => c.headline

namespace Fault

def message : Fault → String
  | noCourse true => "No course loaded. Call load_course() first."
  | noCourse false => "No course loaded."
  | noScene id => s!"Scene not found: {id}"
  | load cause => cause.message
  | malformed record complaints => defectText record complaints
  | badValue cause => cause.message
  | noOperation operation kind => s!"{kind} has no {operation}"
  | wrongKind operation kind => s!"{operation} does not take {kind}"
  | noEntry key => key.literal
  | emptyNumeral => "string index out of range"
  | tooLarge => "int too large to convert to float"
  | tooDeep => "nested too deeply"
  | badJson => "not JSON"
  | badBytes => "not UTF-8"
  | notAFile => "a folder is no file"
  | alreadyThere => "a file is there already"
  | notAFolder => "a file is no folder"
  | badEventText text => s!"Event must look like TYPE or TYPE:TARGET, got '{text}'"
  | badMarkup message => message
  | host message => message

/-- The faults of a value that does not say what it should. -/
def isRefusal : Fault → Bool
  | malformed .. | badValue _ => true
  | _ => false

/-- The faults that navigation and loading raise on purpose. -/
def isCourseFault : Fault → Bool
  | noCourse _ | noScene _ | load .. => true
  | _ => false

end Fault

end SceneCourse
