import SceneCourse.Yaml.Scalar

/-!
Tokens of a YAML text. The start of a block collection has no mark of its own: a sequence starts
with its first entry, a mapping with its first key, and both end where a line stands further left. A
key is known only by the colon after it, so `Scan` remembers where a key may have started and puts
the token there when the colon comes; such a key lies on one line and is at most 1024 characters
away. Where a text cannot be read on, its last token says why; a reader of the tokens may find
another fault before it comes there.
-/

namespace SceneCourse.Yaml

/-- The name of a tag as it is written: in full, or a handle for its beginning and the rest. -/
inductive TagName where
  | full (name : String)
  | short (handle rest : String)

inductive Directive where
  | version (major : Nat)
  | tagSpace (handle space : String)
  | other

inductive Token where
  | directive (d : Directive)
  | documentStart
  | documentEnd
  | blockSequence
  | blockMapping
  | blockEnd
  | flowSequence
  | flowSequenceEnd
  | flowMapping
  | flowMappingEnd
  | entry
  | comma
  | key
  | value
  | reference (name : String)
  | anchor (name : String)
  | tag (name : TagName)
  | scalar (text : String) (plain : Bool)
  /-- The text cannot be read on. -/
  | unread (problem : Problem)

/-! ### Names -/

/-- A name of at least one letter. -/
def wordName (c : Cursor) : Scanned (String × Cursor) :=
  match c.span isWordChar with
  | ([], _) => refused
  | (cs, c) => .ok (.ofList cs, c)

/-- The name of an anchor or of a reference to one, from the place after its mark. -/
def anchorName (c : Cursor) : Scanned (String × Cursor) := do
  let (name, c) ← wordName c
  if endsWord c.head? || c.head?.any ("?:,]\x7d%@`".toList.contains ·)
    then return (name, c) else refused

/-- Characters that the address of a tag may have, beside escapes. -/
def isAddressChar (c : Char) : Bool := isWordChar c || ";/?:@&=+$,.!~*'()[]".toList.contains c

/-- Bytes that are written one after the other as a percent sign and two digits. -/
def addressBytes : List Char → Scanned (List UInt8)
  | '%' :: a :: b :: rest => do
    let some x := Json.hexValue? a | refused
    let some y := Json.hexValue? b | refused
    return UInt8.ofNat (16 * x + y) :: (← addressBytes rest)
  | '%' :: _ => refused
  | _ => .ok []

/-- The address of a tag, or the part of one. -/
def address : Nat → Cursor → Scanned (List Char × Cursor)
  | 0, c => .ok ([], c)
  | fuel + 1, c =>
    match c.head? with
    | some '%' => do
      let bytes ← addressBytes c.rest
      let some text := String.fromUTF8? ⟨bytes.toArray⟩ | refused
      let (more, c) ← address fuel (c.skip (3 * bytes.length))
      return (text.toList ++ more, c)
    | some x =>
      if isAddressChar x then do
        let (more, c) ← address fuel c.step
        return (x :: more, c)
      else .ok ([], c)
    | none => .ok ([], c)

def wholeAddress (c : Cursor) : Scanned (String × Cursor) := do
  match ← address c.rest.length c with
  | ([], _) => refused
  | (cs, c) => return (.ofList cs, c)

/-- The handle of a tag: a mark, or letters between two marks. -/
def tagHandle (c : Cursor) : Scanned (String × Cursor) :=
  if c.head? != some '!' then refused
  else if c.second? == some ' ' then .ok ("!", c.step)
  else
    let (name, rest) := c.step.span isWordChar
    if rest.head? == some '!' then .ok (.ofList ('!' :: (name ++ ['!'])), rest.step) else refused

/-- Whether a second mark comes before the next space or line end. -/
def hasHandle (cs : List Char) : Bool :=
  (cs.takeWhile fun c => !(c == ' ' || isBreak c)).contains '!'

/-- The tag at a place. -/
def tagName (c : Cursor) : Scanned (TagName × Cursor) := do
  let (name, c) ←
    if c.second? == some '<' then do
      let (name, c) ← wholeAddress (c.skip 2)
      if c.head? != some '>' then refused
      pure (TagName.full name, c.step)
    else if endsWord c.second? then pure (TagName.full "!", c.step)
    else do
      let (handle, c) ← if hasHandle c.step.rest then tagHandle c else pure ("!", c.step)
      let (rest, c) ← wholeAddress c
      pure (TagName.short handle rest, c)
  if c.head? == some ' ' || endsLine c.head? then return (name, c) else refused

/-! ### Directives -/

def digitsAt (c : Cursor) : Scanned (Nat × Cursor) :=
  match c.span Char.isDigit with
  | ([], _) => refused
  | (ds, c) =>
    if Numeral.mostDigits < ds.length then
      .error (.badContent (.badValue (.integer (.tooLong ds.length))))
    else .ok (Json.naturalOf ds, c)

def skipSpaces (c : Cursor) : Cursor := c.skipWhile (· == ' ')

/-- A directive with its line, from the place after its mark. -/
def directive (c : Cursor) : Scanned (Directive × Cursor) := do
  let (name, c) ← wordName c
  if !(c.head? == some ' ' || endsLine c.head?) then refused
  let (d, c) ← match name with
    | "YAML" => do
      let (major, c) ← digitsAt (skipSpaces c)
      if c.head? != some '.' then refused
      let (_, c) ← digitsAt c.step
      if !(c.head? == some ' ' || endsLine c.head?) then refused
      pure (Directive.version major, c)
    | "TAG" => do
      let (handle, c) ← tagHandle (skipSpaces c)
      if c.head? != some ' ' then refused
      let (space, c) ← wholeAddress (skipSpaces c)
      if !(c.head? == some ' ' || endsLine c.head?) then refused
      pure (Directive.tagSpace handle space, c)
    | _ => pure (Directive.other, c.skipWhile (!isBreak ·))
  match c.restOfLine? with
  | some c => return (d, c)
  | none => refused

/-! ### Scanning -/

/-- Where a key may have started: the number of tokens before it and its place. A key that stands at
the column of its collection must turn out to be one. -/
structure KeyStart where
  number : Nat
  required : Bool
  index : Nat
  line : Nat
  column : Nat

/-- The state of scanning. Tokens are held latest first; `columns` are those of the open block
collections, innermost first; `keys` has at most one start for each depth of brackets. -/
structure Scan where
  cursor : Cursor
  tokens : List Token := []
  depth : Nat := 0
  columns : List Nat := []
  keyAllowed : Bool := true
  keys : List (Nat × KeyStart) := []

namespace Scan

/-- The column of the innermost block collection. -/
def indent (s : Scan) : Int := s.columns.head?.elim (-1) Int.ofNat

def emit (t : Token) (s : Scan) : Scan := { s with tokens := t :: s.tokens }

/-- Ends the block collections that stand right of a column. -/
def unwind (column : Int) (s : Scan) : Scan :=
  if s.depth > 0 then s
  else
    let ended := s.columns.takeWhile fun (c : Nat) => column < c
    { s with
      columns := s.columns.drop ended.length
      tokens := List.replicate ended.length .blockEnd ++ s.tokens }

/-- Starts a block collection at a column, if it stands right of the innermost one. -/
def open? (column : Nat) (s : Scan) : Option Scan :=
  if s.indent < column then some { s with columns := column :: s.columns } else none

/-- Forgets where a key may have started at this depth. -/
def dropKey (s : Scan) : Scanned Scan :=
  match s.keys.lookup s.depth with
  | some k => if k.required then refused else .ok { s with keys := s.keys.filter (·.1 != s.depth) }
  | none => .ok s

/-- Whether a start is too far away to be one of a key. -/
def isStale (s : Scan) (k : KeyStart) : Bool :=
  k.line != s.cursor.line || s.cursor.index - k.index > 1024

/-- Forgets the starts that are too far away to be keys. -/
def dropStaleKeys (s : Scan) : Scanned Scan :=
  if s.keys.any fun (_, k) => s.isStale k && k.required then refused
  else .ok { s with keys := s.keys.filter fun (_, k) => !s.isStale k }

/-- Remembers that a key may start here. -/
def markKey (s : Scan) : Scanned Scan := do
  if s.keyAllowed then
    let s ← s.dropKey
    let c := s.cursor
    let required := s.depth == 0 && s.indent == c.column
    return { s with keys := (s.depth, ⟨s.tokens.length, required, c.index, c.line, c.column⟩) ::
      s.keys }
  else return s

/-- Past spaces, comments and line ends. A key may start on a new line. -/
def skipToToken : Nat → Scan → Scan
  | 0, s => s
  | fuel + 1, s =>
    let c := skipSpaces s.cursor
    let c := if c.head? == some '#' then c.skipWhile (!isBreak ·) else c
    match c.lineBreak? with
    | some (_, c) =>
      skipToToken fuel { s with cursor := c, keyAllowed := s.keyAllowed || s.depth == 0 }
    | none => { s with cursor := c }

/-- Everything that has to be done before the next token is read. -/
def ready (s : Scan) : Scanned Scan := do
  let c := s.cursor
  let c := if c.index == 0 && c.head? == some '\ufeff' then c.step else c
  let s ← (skipToToken c.rest.length.succ { s with cursor := c }).dropStaleKeys
  return s.unwind s.cursor.column

/-- Ends all block collections, as the marks of documents do. -/
def endBlocks (s : Scan) : Scanned Scan := do
  return { ← (s.unwind (-1)).dropKey with keyAllowed := false }

/-- A token of so many characters. -/
def take (n : Nat) (t : Token) (s : Scan) : Scan := { s.emit t with cursor := s.cursor.skip n }

def openBracket (t : Token) (s : Scan) : Scanned Scan := do
  let s ← s.markKey
  return { s with depth := s.depth + 1, keyAllowed := true }.take 1 t

def closeBracket (t : Token) (s : Scan) : Scanned Scan := do
  if s.depth == 0 then refused
  let s ← s.dropKey
  return { s with depth := s.depth - 1, keyAllowed := false }.take 1 t

def comma (s : Scan) : Scanned Scan := do
  let s ← s.dropKey
  return { s with keyAllowed := true }.take 1 .comma

/-- Starts a block collection here if one is due. Outside brackets that needs a place where a key is
allowed. -/
def openBlock (t : Token) (s : Scan) : Scanned Scan :=
  if s.depth > 0 then .ok s
  else if !s.keyAllowed then refused
  else .ok ((s.open? s.cursor.column).elim s (·.emit t))

def blockEntry (s : Scan) : Scanned Scan := do
  let s ← (← s.openBlock .blockSequence).dropKey
  return { s with keyAllowed := true }.take 1 .entry

def explicitKey (s : Scan) : Scanned Scan := do
  let s ← (← s.openBlock .blockMapping).dropKey
  return { s with keyAllowed := s.depth == 0 }.take 1 .key

/-- A token at an earlier place, given by the number of tokens before it. -/
def emitAt (number : Nat) (t : Token) (s : Scan) : Scan :=
  { s with tokens := s.tokens.insertIdx (s.tokens.length - number) t }

/-- The colon before a value. If a key may have started at this depth, that was one. -/
def valueMark (s : Scan) : Scanned Scan := do
  match s.keys.lookup s.depth with
  | some k =>
    let s := { s with keys := s.keys.filter (·.1 != s.depth), keyAllowed :=
      false }.emitAt k.number .key
    let s := if s.depth > 0 then s else (s.open? k.column).elim s (·.emitAt k.number .blockMapping)
    return s.take 1 .value
  | none =>
    let s ← (← s.openBlock .blockMapping).dropKey
    return { s with keyAllowed := s.depth == 0 }.take 1 .value

/-- A token after which no key may start, but which may be the start of one. -/
def keyLike (read : Cursor → Scanned (Token × Cursor)) (s : Scan) : Scanned Scan := do
  let s ← s.markKey
  let (t, cursor) ← read s.cursor
  return { s with cursor, keyAllowed := false }.emit t

def plain (s : Scan) : Scanned Scan := do
  let s ← s.markKey
  let (text, ended, cursor) := plainText (s.depth > 0) (s.indent + 1) s.cursor.rest.length s.cursor
  return { s with cursor, keyAllowed := ended }.emit (.scalar (.ofList text) true)

def block (fold : Bool) (s : Scan) : Scanned Scan := do
  let s ← ({ s with keyAllowed := true } : Scan).dropKey
  let (text, cursor) ← blockText fold s.indent s.cursor.step
  return { s with cursor }.emit (.scalar (.ofList text) false)

def quoted (mark : Char) : Scan → Scanned Scan :=
  keyLike fun c => do
    let (text, c) ← quotedText mark (c.rest.length + 1) c.step
    return (.scalar (.ofList text) false, c)

/-- Whether a plain text may start with a character, by the one after it. -/
def startsPlain (flow : Bool) (c : Char) (next : Option Char) : Bool :=
  !(isWhite c || isBreak c || "-?:,[]\x7b\x7d#&*!|>'\"%@`".toList.contains c) ||
    (!endsWord next && (c == '-' || (!flow && (c == '?' || c == ':'))))

/-- The next token, which starts with a character `x`. -/
def token (x : Char) (s : Scan) : Scanned Scan :=
  let c := s.cursor
  let flow := s.depth > 0
  let alone := endsWord c.second?
  if x == '%' && c.column == 0 then do
    let s ← s.endBlocks
    let (d, cursor) ← directive s.cursor.step
    return { s with cursor }.emit (.directive d)
  else if c.isAtMarks '-' then do return (← s.endBlocks).take 3 .documentStart
  else if c.isAtMarks '.' then do return (← s.endBlocks).take 3 .documentEnd
  else if x == '[' then s.openBracket .flowSequence
  else if x == '\x7b' then s.openBracket .flowMapping
  else if x == ']' then s.closeBracket .flowSequenceEnd
  else if x == '\x7d' then s.closeBracket .flowMappingEnd
  else if x == ',' then s.comma
  else if x == '-' && alone then s.blockEntry
  else if x == '?' && (flow || alone) then s.explicitKey
  else if x == ':' && (flow || alone) then s.valueMark
  else if x == '*' then s.keyLike fun c => do
    let (name, c) ← anchorName c.step; return (.reference name, c)
  else if x == '&' then s.keyLike fun c => do
    let (name, c) ← anchorName c.step; return (.anchor name, c)
  else if x == '!' then s.keyLike fun c => do let (name, c) ← tagName c; return (.tag name, c)
  else if x == '|' && !flow then s.block false
  else if x == '>' && !flow then s.block true
  else if x == '\'' || x == '"' then s.quoted x
  else if startsPlain flow x c.second? then s.plain
  else refused

/-- The tokens so far, up to the first place where a key may have started: what is there is known
only by the tokens after it. -/
def known (s : Scan) : List Token :=
  let numbers := (s.keys.filter fun (_, k) => !s.isStale k).map fun (_, k) => k.number
  s.tokens.reverse.take (numbers.foldl min s.tokens.length)

/-- One token further; at the end of the text the scan is complete. -/
def advance (s : Scan) : Scanned (Bool × Scan) := do
  let s ← s.ready
  match s.cursor.head? with
  | none => return (true, ← s.endBlocks)
  | some x => return (false, ← s.token x)

/-- All tokens, or those that are known before a problem and the problem. -/
def run : Nat → Scan → List Token
  | 0, s => s.known ++ [.unread .badSyntax]
  | fuel + 1, s =>
    match s.advance with
    | .error problem => s.known ++ [.unread problem]
    | .ok (true, s) => s.tokens.reverse
    | .ok (false, s) => run fuel s

end Scan

/-- All tokens of a text. Every token takes at least one character. -/
def Token.scan (text : List Char) : List Token :=
  Scan.run (text.length + 1) { cursor := { rest := text } }

end SceneCourse.Yaml
