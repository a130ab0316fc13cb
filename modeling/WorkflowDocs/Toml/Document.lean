import WorkflowDocs.Toml.Item
import WorkflowDocs.Toml.Number

/-!
# Reading a settings file

Values, keys, headers and definitions, and the table that a whole file stands for.
-/

namespace WorkflowDocs.Toml

open Toml.Parser

/-- Arrays, tables in braces and dotted keys must stay below this depth. -/
def depthLimit : Nat := 80

def tooDeep : Text := "recursion limit exceeded".toList

/-! ## Keys -/

def simpleKey : Parser Text := fun start =>
  match start.rest with
  | '"' :: _ => basicString start
  | '\'' :: _ => literalString start
  | _ => run1 isKeyChar start

/-- Keys with dots between them; blanks may stand around each. -/
def dottedKey : Parser (List Key) :=
  orRefuse (labelled "key" (separated1 (do
    let _ ← blanks
    let (name, span) ← spanned simpleKey
    let _ ← blanks
    return (⟨name, span⟩ : Key)) (char '.')))
    fun keys => if keys.length ≥ depthLimit then .error tooDeep else .ok keys

/-- The sign between key and value. -/
def equalsSign : Parser Char := expecting "`=`" (expecting "`.`" (char '='))

/-! ## Values -/

def asString {α : Type} (p : Parser α) : Parser α :=
  expecting "`'`" (expecting "`\"`" (labelled "string" p))

def scalar {α : Type} (make : α → Scalar) (p : Parser α) : Parser Item := do
  let (value, span) ← spanned p
  return .scalar (make value) span

def word {α : Type} (text : String) (value : α) : Parser α := do
  literal text
  return value

def numberOrDate : Parser Item :=
  orElse (scalar (fun _ => .datetime) dateTime) <|
    orElse (scalar .float float) (scalar .integer integer)

def arrayItems (value : Parser Item) : Parser (List Item) := do
  if (← nextChar) = some ']' then return []
  let items ← separated (do
    commentedLines
    let item ← value
    commentedLines
    return item) (char ',')
  if !items.isEmpty then
    let _ ← optional (char ',')
  commentedLines
  return items

def array (value : Parser Item) : Parser Item := do
  let (items, span) ← spanned do
    let _ ← char '['
    let items ← committed (arrayItems value)
    let _ ← expecting "`]`" (labelled "array" (committed (char ']')))
    return items
  return .array items span

/-- A definition inside braces: path, key and value. -/
def inlineDefinition (value : Parser Item) : Parser (List Key × Item) := do
  let keys ← dottedKey
  committed do
    let _ ← equalsSign
    let _ ← blanks
    let item ← value
    let _ ← blanks
    return (keys, item)

def inlineTableOf (definitions : List (List Key × Item)) : Except Text Table :=
  let defineNext (table : Table) (definition : List Key × Item) : Except Conflict Table :=
    match definition.1.getLast? with
    | some key => defineInline table definition.1.dropLast key definition.2
    | none => .ok table
  (definitions.foldlM defineNext (.empty .explicit)).mapError Conflict.message

def inlineTable (value : Parser Item) : Parser Item := do
  let (table, span) ← spanned do
    let _ ← char '\x7b'
    let table ← committed (orRefuse (do
      let definitions ← separated (inlineDefinition value) (char ',')
      let _ ← blanks
      return definitions) inlineTableOf)
    let _ ← expecting "`\x7d`" (labelled "inline table" (committed (char '\x7d')))
    return table
  return .inlineTable (.mk table.entries .explicit (some span))

/-- What stands one level deeper, unless that is too deep. -/
def nested (depth : Nat) (p : Parser Item) : Parser Item := fun start =>
  if depth ≥ depthLimit then .fail true ⟨[], [], some tooDeep⟩ start else p start

/-- A value inside `depth` arrays and tables. -/
def value (depth : Nat) : Nat → Parser Item
  | 0 => fail
  | fuel + 1 => fun start =>
    match start.rest with
    | [] => .fail false .nothing start
    | c :: _ =>
      (if c = '"' || c = '\'' then scalar .string string
      else if c = '[' then nested (depth + 1) (array (value (depth + 1) fuel))
      else if c = '\x7b' then nested (depth + 1) (inlineTable (value (depth + 1) fuel))
      else if c = '+' || c = '-' || c.isDigit then numberOrDate
      else if c = '_' then expecting "leading digit" (scalar .integer integer)
      else if c = '.' then expecting "leading digit" (scalar .float float)
      else if c = 't' then asString (committed (scalar .boolean (word "true" true)))
      else if c = 'f' then asString (committed (scalar .boolean (word "false" false)))
      else if c = 'i' then asString (scalar .float (infinityWord false))
      else if c = 'n' then asString (scalar .float nanWord)
      else asString fail) start

def anyValue : Parser Item := fun start => value 0 (start.rest.length + 1) start

/-! ## Lines -/

/-- The table being filled and the root it belongs to. -/
structure Draft where
  root : Table
  current : Table
  /-- The header of the current table, empty for the root. -/
  path : List Key
  /-- The header stands in double brackets. -/
  isArray : Bool

def Draft.start : Draft := ⟨.empty .explicit, .empty .explicit, [], false⟩

namespace Draft

def names (keys : List Key) : List Text := keys.map (·.name)

/-- The last key of a header is taken. It is told as it would be written. -/
def taken (path : List Key) : Conflict :=
  .duplicateKey ((path.getLast?.map fun key => writtenKey key.name).getD [])
    (some (names path.dropLast))

/-- Defines a key below the current header. -/
def define (draft : Draft) (keys : List Key) (item : Item) : Except Conflict Draft :=
  match keys.getLast? with
  | none => .ok draft
  | some key => do
    let current := match item.span? with
      | some span => draft.current.extended span.stop
      | none => draft.current
    let table ← Toml.define (some (names draft.path)) keys.dropLast key item current
    return { draft with current := table }

/-- Puts the current table where its header says. -/
def finish (draft : Draft) : Except Conflict Table :=
  match draft.path.getLast? with
  | none => .ok draft.current
  | some key =>
    changeAt false (fun table =>
      if draft.isArray then
        match table.find? key.name with
        | some (.tables tables) => .ok (table.put key (.tables (tables ++ [draft.current])))
        | none => .ok (table.put key (.tables [draft.current]))
        | some _ => .error (taken draft.path)
      else .ok (table.put key (.table draft.current))) [] draft.path.dropLast draft.root

/-- Goes on with the table of a header. A table that was only implied so far keeps its entries. -/
def openTable (draft : Draft) (path : List Key) (span : Span) : Except Conflict Draft := do
  let root ← draft.finish
  match path.getLast? with
  | none => return { draft with root }
  | some key =>
    -- The table is found first and then taken out of its place until it is finished.
    let found ← lookup root path.dropLast
    let root ← changeAt false (fun table => .ok (table.erase key.name)) [] path.dropLast root
    match found.find? key.name with
    | none => return ⟨root, (Table.empty .explicit).opened span, path, false⟩
    | some (.table table) =>
      if table.kind = .implied then return ⟨root, table.opened span, path, false⟩
      else throw (taken path)
    | some _ => throw (taken path)
where
  /-- The table at the end of a path of headers. -/
  lookup (root : Table) (path : List Key) : Except Conflict Table :=
    go path root []
  go : List Key → Table → List Text → Except Conflict Table
    | [], table, _ => .ok table
    | key :: path, table, before =>
      match table.find? key.name with
      | none => .ok (.empty .implied)
      | some (.table inner) => go path inner (before ++ [key.name])
      | some (.tables inner) => go path (inner.getLast?.getD (.empty .implied)) (before ++ [key.name])
      | some item => .error (.extendsValue (before ++ [key.name]) item.typeName)

/-- Goes on with one more of the tables of a header in double brackets. -/
def openArray (draft : Draft) (path : List Key) (span : Span) : Except Conflict Draft := do
  let root ← draft.finish
  match path.getLast? with
  | none => return { draft with root }
  | some key =>
    let root ← changeAt false (fun table =>
      match table.find? key.name with
      | some (.tables _) => .ok table
      | none => .ok (table.put key (.tables []))
      | some _ => .error (taken path)) [] path.dropLast root
    return ⟨root, (Table.empty .explicit).opened span, path, true⟩

end Draft

def endOfLine : Parser Unit := expecting "`#`" (expecting "newline" restOfLine)

/-- A line that defines a key. -/
def definition (draft : Draft) : Parser Draft :=
  orRefuse (do
    let keys ← dottedKey
    committed do
      let _ ← equalsSign
      let _ ← blanks
      let item ← anyValue
      endOfLine
      return (keys, item))
    fun (keys, item) => (draft.define keys item).mapError Conflict.message

def arrayHeader (draft : Draft) : Parser Draft :=
  orRefuse (do
    let (keys, span) ← spanned do
      literal "[["
      let keys ← committed dottedKey
      expecting "`]]`" (expecting "`.`" (committed (literal "]]")))
      return keys
    committed endOfLine
    return (keys, span))
    fun (keys, span) => (draft.openArray keys span).mapError Conflict.message

def tableHeader (draft : Draft) : Parser Draft :=
  orRefuse (do
    let (keys, span) ← spanned do
      let _ ← char '['
      let keys ← committed dottedKey
      expecting "`]`" (expecting "`.`" (committed (ignore (char ']'))))
      return keys
    committed endOfLine
    return (keys, span))
    fun (keys, span) => (draft.openTable keys span).mapError Conflict.message

def header (draft : Draft) : Parser Draft :=
  labelled "table header" fun start =>
    match start.rest with
    | '[' :: '[' :: _ => arrayHeader draft start
    | '[' :: _ :: _ => tableHeader draft start
    | _ => .fail false .nothing start

def commentLine : Parser Unit := do
  comment
  lineEnd

/-- The lines of a file. -/
def fileLines : Nat → Draft → Parser Draft
  | 0, draft => succeed draft
  | fuel + 1, draft => fun start =>
    let line : Parser Draft := fun start =>
      match start.rest with
      | [] => .fail false .nothing start
      | c :: _ =>
        (if c = '#' then committed (do commentLine; return draft)
        else if c = '[' then committed (header draft)
        else if c = '\n' || c = '\r' then (do newline; return draft)
        else committed (definition draft)) start
    match (do let draft ← line; let _ ← blanks; return draft : Parser Draft) start with
    | .ok draft cursor => fileLines fuel draft cursor
    | .fail false _ _ => .ok draft start
    | .fail true expectation cursor => .fail true expectation cursor

def file : Parser Draft := fun start => (do
  let _ ← optional (char '\ufeff')
  let _ ← blanks
  let draft ← fileLines (start.rest.length + 1) .start
  endOfText
  return draft : Parser Draft) start

/-! ## Problems -/

/-- What is wrong with a settings file, and where if that is known. -/
structure Problem where
  message : Text
  span : Option Span
  deriving DecidableEq, Repr

/-- The bytes of a text. -/
def bytesOf (text : Text) : List Nat := text.map Char.utf8Size

/-- The line and the column of a byte, from zero. Columns count characters; a column inside or at
a character of several bytes counts bytes. Places behind the end count from the last byte. -/
def placeOf (source : Text) (offset : Nat) : Nat × Nat :=
  let total := Text.byteLength source
  if total = 0 then (0, offset)
  else
    let index := min offset (total - 1)
    go source index 0 0 0 (offset - index)
where
  /-- `index` bytes are left before the place; `chars` and `bytes` were read on this line. -/
  go : Text → Nat → Nat → Nat → Nat → Nat → Nat × Nat
    | [], _, line, chars, _, extra => (line, chars + extra)
    | c :: rest, index, line, chars, bytes, extra =>
      if index < c.utf8Size then
        (line, (if c.utf8Size = 1 || index + 1 = c.utf8Size then chars else bytes + index) + extra)
      else if c = '\n' then go rest (index - 1) (line + 1) 0 0 extra
      else go rest (index - c.utf8Size) line (chars + 1) (bytes + c.utf8Size) extra

/-- The line of a text, without its end. -/
def lineAt (source : Text) (line : Nat) : Text := (source.split '\n').getD line []

/-- The message below the line it is about. The carets do not go beyond the line. -/
def Problem.text (source : Text) (problem : Problem) : Text :=
  (match problem.span with
    | none => []
    | some span =>
      let (line, column) := placeOf source span.start
      let number := Text.ofNat (line + 1)
      let content := lineAt source line
      let gutter := Text.repeated (number.length + 1) ' '
      let width := min (span.stop - span.start) (Text.byteLength content - column)
      "TOML parse error at line ".toList ++ number ++ ", column ".toList ++
        Text.ofNat (column + 1) ++ '\n' ::
        (gutter ++ '|' :: '\n' :: (number ++ " | ".toList ++ content ++ '\n' ::
        (gutter ++ '|' :: (Text.repeated (column + 1) ' ' ++ Text.repeated (max width 1) '^' ++
          ['\n']))))) ++ problem.message ++ ['\n']

/-- The bytes of the character at a place. -/
def charSpan (source : Text) (offset : Nat) : Span :=
  ⟨offset, offset + (go source offset)⟩
where
  go : Text → Nat → Nat
    | [], _ => 0
    | c :: rest, index => if index < c.utf8Size then c.utf8Size else go rest (index - c.utf8Size)

/-- The table that a file stands for. -/
def parse (source : Text) : Except Problem Table :=
  match file ⟨source, 0⟩ with
  | .fail _ expectation cursor =>
    .error ⟨expectation.message, some (charSpan source cursor.offset)⟩
  | .ok draft _ =>
    match draft.finish with
    | .ok table => .ok table
    | .error conflict => .error ⟨conflict.message, none⟩

end WorkflowDocs.Toml
