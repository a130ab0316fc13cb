import WorkflowDocs.Toml.Key
import WorkflowDocs.Decimal.Binary64

/-!
# Items of a settings file

The values and tables of a file with the places they were read from. Tables grow while a file is
read: a header or a dotted key may go on with a table, but nothing may be defined twice.
-/

namespace WorkflowDocs.Toml

inductive Scalar
  | string (value : Text)
  | integer (value : Int)
  | float (value : Binary64)
  | boolean (value : Bool)
  | datetime
  deriving DecidableEq, Repr

/-- How a table came to be. -/
inductive TableKind
  /-- By a header of its own or as a value in braces. -/
  | explicit
  /-- By a header of a table inside it. -/
  | implied
  /-- By a dotted key. -/
  | dotted
  deriving DecidableEq, Repr

mutual

inductive Item
  | scalar (value : Scalar) (span : Span)
  | array (items : List Item) (span : Span)
  | inlineTable (table : Table)
  | table (table : Table)
  /-- The tables with the same header in double brackets. -/
  | tables (tables : List Table)

inductive Table
  | mk (entries : List (Key × Item)) (kind : TableKind) (span : Option Span)

end

namespace Table

def entries : Table → List (Key × Item)
  | mk entries _ _ => entries

def kind : Table → TableKind
  | mk _ kind _ => kind

def span : Table → Option Span
  | mk _ _ span => span

/-- A table without entries. -/
def empty (kind : TableKind) : Table := mk [] kind none

def find? (table : Table) (name : Text) : Option Item :=
  (table.entries.find? fun entry => entry.1.name = name).map (·.2)

/-- A key that is there keeps its place. -/
def putEntry (key : Key) (item : Item) : List (Key × Item) → List (Key × Item)
  | [] => [(key, item)]
  | (k, i) :: rest =>
    if k.name = key.name then (k, item) :: rest else (k, i) :: putEntry key item rest

def put (table : Table) (key : Key) (item : Item) : Table :=
  mk (putEntry key item table.entries) table.kind table.span

def erase (table : Table) (name : Text) : Table :=
  mk (table.entries.filter fun entry => entry.1.name ≠ name) table.kind table.span

/-- The table as it stands under a header at `span`. -/
def opened (table : Table) (span : Span) : Table := mk table.entries .explicit (some span)

/-- A table with a header reaches up to its last entry. -/
def extended (table : Table) (stop : Nat) : Table :=
  mk table.entries table.kind (table.span.map fun span => ⟨span.start, stop⟩)

end Table

namespace Item

/-- The bytes of an item; a table without a header has none of its own. -/
def span? : Item → Option Span
  | scalar _ span => some span
  | array _ span => some span
  | inlineTable inner => inner.span
  | table inner => inner.span
  | tables inner =>
    match inner.head?.bind Table.span, inner.getLast?.bind Table.span with
    | some first, some last => some ⟨first.start, last.stop⟩
    | _, _ => none

def typeName : Item → Text
  | scalar (.string _) _ => "string".toList
  | scalar (.integer _) _ => "integer".toList
  | scalar (.float _) _ => "float".toList
  | scalar (.boolean _) _ => "boolean".toList
  | scalar .datetime _ => "datetime".toList
  | array .. => "array".toList
  | inlineTable _ => "inline table".toList
  | table _ => "table".toList
  | tables _ => "array of tables".toList

end Item

/-- Why a definition is refused. -/
inductive Conflict
  /-- The key is taken, in the table named by a path if that is known. -/
  | duplicateKey (name : Text) (table : Option (List Text))
  /-- A path goes through something that is no table. -/
  | extendsValue (path : List Text) (typeName : Text)
  deriving DecidableEq, Repr

def Conflict.message : Conflict → Text
  | duplicateKey name none => "duplicate key `".toList ++ name ++ ['`']
  | duplicateKey name (some []) =>
    "duplicate key `".toList ++ name ++ "` in document root".toList
  | duplicateKey name (some path) =>
    "duplicate key `".toList ++ name ++ "` in table `".toList ++ Text.join ['.'] path ++ ['`']
  | extendsValue path typeName =>
    "dotted key `".toList ++ Text.join ['.'] path ++
      "` attempted to extend non-table type (".toList ++ typeName ++ [')']

/-- Changes the last of several tables. -/
def changeLast (change : Table → Except Conflict Table) : List Table → Except Conflict (List Table)
  | [] => .ok []
  | [table] => (change table).map ([·])
  | table :: rest => (changeLast change rest).map (table :: ·)

/-- Changes the table at the end of a path. Tables that are not there are made. With `dotted` the
path belongs to a dotted key, which must not go through a table with a header. `before` is the
path up to here. -/
def changeAt (dotted : Bool) (change : Table → Except Conflict Table) (before : List Text) :
    List Key → Table → Except Conflict Table
  | [], table => change table
  | key :: path, table => do
    let here := before ++ [key.name]
    match table.find? key.name with
    | none =>
      let made ← changeAt dotted change here path (.empty (if dotted then .dotted else .implied))
      return table.put key (.table made)
    | some (.table inner) =>
      if dotted && inner.kind = .explicit then throw (.duplicateKey key.name none)
      return table.put key (.table (← changeAt dotted change here path inner))
    | some (.tables inner) =>
      return table.put key (.tables (← changeLast (changeAt dotted change here path) inner))
    | some item => throw (.extendsValue here item.typeName)

/-- Defines a key in the table at the end of a dotted path. `owner` is the path of the table in
whose lines the key stands. -/
def define (owner : Option (List Text)) (path : List Key) (key : Key) (item : Item) :
    Table → Except Conflict Table :=
  changeAt true (fun table =>
    if path.isEmpty == decide (table.kind = .dotted) then throw (.duplicateKey key.name none)
    else if (table.find? key.name).isSome then throw (.duplicateKey key.name owner)
    else .ok (table.put key item)) [] path

/-- The table in braces made of definitions in order. -/
def changeInlineAt (change : Table → Except Conflict Table) (before : List Text) :
    List Key → Table → Except Conflict Table
  | [], table => change table
  | key :: path, table => do
    let here := before ++ [key.name]
    match table.find? key.name with
    | none => return table.put key (.inlineTable (← changeInlineAt change here path (.empty .dotted)))
    | some (.inlineTable inner) =>
      if inner.kind = .explicit then throw (.duplicateKey key.name none)
      return table.put key (.inlineTable (← changeInlineAt change here path inner))
    | some item => throw (.extendsValue here item.typeName)

def defineInline (table : Table) (path : List Key) (key : Key) (item : Item) :
    Except Conflict Table :=
  changeInlineAt (fun table =>
    if path.isEmpty == decide (table.kind = .dotted) then throw (.duplicateKey key.name none)
    else if (table.find? key.name).isSome then throw (.duplicateKey key.name none)
    else .ok (table.put key item)) [] path table

end WorkflowDocs.Toml
