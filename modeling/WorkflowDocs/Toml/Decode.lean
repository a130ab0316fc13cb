import WorkflowDocs.Toml.Document
import WorkflowDocs.Decimal.Shortest
import WorkflowDocs.Text.Quoted

/-!
# Settings from items

Reading records, words, numbers and texts from the items of a settings file. A record may be given
as a table or as an array of its fields in order.
-/

namespace WorkflowDocs.Toml

abbrev Decoded (α : Type) := Except Problem α

/-- The phrase for what was found instead of what was expected. -/
def Item.phrase : Item → Text
  | .scalar (.string value) _ => "string ".toList ++ value.quoted
  | .scalar (.integer value) _ => "integer `".toList ++ Text.ofInt value ++ ['`']
  | .scalar (.float value) _ =>
    "floating point `".toList ++ value.textWith Decimal.positional
      (fun negative => if negative then "-inf".toList else "inf".toList) "NaN".toList ++ ['`']
  | .scalar (.boolean true) _ => "boolean `true`".toList
  | .scalar (.boolean false) _ => "boolean `false`".toList
  | .scalar .datetime _ => "map".toList
  | .array .. => "sequence".toList
  | .tables _ => "sequence".toList
  | .inlineTable _ => "map".toList
  | .table _ => "map".toList

def refuse {α : Type} (item : Item) (message : Text) : Decoded α := .error ⟨message, item.span?⟩

def mistyped {α : Type} (item : Item) (expected : String) : Decoded α :=
  refuse item ("invalid type: ".toList ++ item.phrase ++ ", expected ".toList ++ expected.toList)

/-- Gives a problem without a place the place of what it is about. -/
def locate {α : Type} (span : Option Span) (result : Decoded α) : Decoded α :=
  result.mapError fun problem => { problem with span := problem.span.orElse fun _ => span }

/-! ## Scalars -/

/-- A text; `expected` names it in messages. -/
def decodeText (expected : String) : Item → Decoded Text
  | .scalar (.string value) _ => .ok value
  | item => mistyped item expected

/-- A number from 0 to 255. -/
def decodeByte : Item → Decoded Nat
  | .scalar (.integer value) span =>
    if 0 ≤ value && value ≤ 255 then .ok value.toNat
    else refuse (.scalar (.integer value) span)
      ("invalid value: ".toList ++ (Item.scalar (.integer value) span).phrase ++
        ", expected u8".toList)
  | item => mistyped item "u8"

/-! ## Words -/

/-- Words and what they stand for. -/
abbrev Words (α : Type) := List (Text × α)

def decodeWord {α : Type} (words : Words α) (word : Text) (span : Option Span) : Decoded α :=
  match words.find? fun entry => entry.1 = word with
  | some (_, value) => .ok value
  | none =>
    let known := words.map fun entry => '`' :: (entry.1 ++ ['`'])
    .error ⟨"unknown variant `".toList ++ word ++ "`, expected one of ".toList ++
      Text.join [',', ' '] known, span⟩

/-- The item beside a word must be empty. -/
def decodeEmpty : Item → Decoded Unit
  | .tables [] => .ok ()
  | .tables tables => refuse (.tables tables) "expected empty array".toList
  | .array [] _ => .ok ()
  | .array items span => refuse (.array items span) "expected empty table".toList
  | .table table =>
    if table.entries.isEmpty then .ok () else refuse (.table table) "expected empty table".toList
  | .inlineTable table =>
    if table.entries.isEmpty then .ok ()
    else refuse (.inlineTable table) "expected empty table".toList
  | item => refuse item ("expected table, found ".toList ++ item.typeName)

/-- The one key of a table is the word. -/
def decodeWordTable {α : Type} (words : Words α) (item : Item) :
    List (Key × Item) → Decoded α
  | [] => refuse item "wanted exactly 1 element, found 0 elements".toList
  | [(key, inner)] => do
    let value ← decodeWord words key.name (some key.span)
    decodeEmpty inner
    return value
  | _ => refuse item "wanted exactly 1 element, more than 1 element".toList

/-- One of some words, as a string or as the only key of a table. -/
def decodeChoice {α : Type} (words : Words α) : Item → Decoded α
  | .scalar (.string word) span => decodeWord words word (some span)
  | .inlineTable table => decodeWordTable words (.inlineTable table) table.entries
  | .table table => decodeWordTable words (.table table) table.entries
  | item => refuse item "wanted string or table".toList

/-! ## Records -/

structure Field (α : Type) where
  name : Text
  read : Item → α → Decoded α
  /-- May be missing from the end of an array. -/
  optional : Bool := true

def decodeEntries {α : Type} (fields : List (Field α)) : List (Key × Item) → α → Decoded α
  | [], record => .ok record
  | (key, item) :: rest, record =>
    match fields.find? fun field => field.name = key.name with
    | none => decodeEntries fields rest record
    | some field =>
      match locate ((item.span?).orElse fun _ => some key.span) (field.read item record) with
      | .ok record => decodeEntries fields rest record
      | .error problem => .error problem

/-- The fields of an array in order; `position` counts those before. -/
def decodePositions {α : Type} (expected : Text) (position : Nat) :
    List (Field α) → List Item → α → Decoded α
  | [], _, record => .ok record
  | field :: fields, [], record =>
    if field.optional then decodePositions expected (position + 1) fields [] record
    else .error ⟨"invalid length ".toList ++ Text.ofNat position ++ ", expected ".toList ++ expected,
      none⟩
  | field :: fields, item :: items, record => do
    let record ← field.read item record
    decodePositions expected (position + 1) fields items record

/-- A record named `name` whose fields not given are those of `start`. -/
def decodeRecord {α : Type} (name : String) (fields : List (Field α)) (start : α) (item : Item) :
    Decoded α :=
  let count := fields.length
  let expected := "struct ".toList ++ name.toList ++ " with ".toList ++ Text.ofNat count ++
    (if count = 1 then " element".toList else " elements".toList)
  locate item.span? <|
    match item with
    | .table table => decodeEntries fields table.entries start
    | .inlineTable table => decodeEntries fields table.entries start
    | .array items _ => decodePositions expected 0 fields items start
    | .tables tables => decodePositions expected 0 fields (tables.map .table) start
    | item => mistyped item ("struct " ++ name)

end WorkflowDocs.Toml
