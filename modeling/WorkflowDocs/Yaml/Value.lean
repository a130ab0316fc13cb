import WorkflowDocs.Json

/-!
# Values of workflow files

A workflow file holds one value: null, a boolean, a number, a text, a sequence, a mapping in
document order, or any of these under a tag.
-/

namespace WorkflowDocs.Yaml

inductive Value
  | null
  | bool (value : Bool)
  | number (value : Number)
  | text (value : Text)
  | sequence (items : List Value)
  | mapping (entries : List (Value × Value))
  | tagged (tag : Text) (value : Value)
  deriving Repr

namespace Value

/-- The value below all tags. -/
def untagged : Value → Value
  | tagged _ value => untagged value
  | value => value

/-- The entries of a mapping; tags are looked through. -/
def entries? (value : Value) : Option (List (Value × Value)) :=
  match value.untagged with
  | mapping entries => some entries
  | _ => none

/-- The items of a sequence; tags are looked through. -/
def items? (value : Value) : Option (List Value) :=
  match value.untagged with
  | sequence items => some items
  | _ => none

/-- The value below the first key that `isKey` accepts. -/
def find? (isKey : Value → Bool) (entries : List (Value × Value)) : Option Value :=
  (entries.find? fun entry => isKey entry.1).map (·.2)

def isText (name : Text) : Value → Bool
  | text value => value = name
  | _ => false

def isTrue : Value → Bool
  | bool value => value
  | _ => false

/-- Null, below any tags. -/
def isNull (value : Value) : Bool :=
  match value.untagged with
  | null => true
  | _ => false

/-- The value under a text key of a mapping. -/
def get? (value : Value) (key : Text) : Option Value :=
  value.entries?.bind (find? (isText key))

/-- The text of a scalar below any tags. Null, sequences and mappings have none. -/
def scalarText? : Value → Option Text
  | text value => some value
  | bool true => some "true".toList
  | bool false => some "false".toList
  | number value => some value.text
  | tagged _ value => scalarText? value
  | null | sequence _ | mapping _ => none

def isScalar (value : Value) : Bool := value.scalarText?.isSome

/-- The entries with scalar keys, in document order, the keys as texts. -/
def namedEntries (entries : List (Value × Value)) : List (Text × Value) :=
  entries.filterMap fun (key, value) => key.scalarText?.map fun name => (name, value)

mutual

/-- Equality of values. Mappings are equal in any order, tags by name and numbers by value. -/
def same : Value → Value → Bool
  | null, null => true
  | bool a, bool b => a = b
  | number a, number b => a.sameValue b
  | text a, text b => a = b
  | sequence a, sequence b => sameItems a b
  | mapping a, mapping b => a.length = b.length && entriesAmong a b
  | tagged s a, tagged t b => s = t && same a b
  | _, _ => false

def sameItems : List Value → List Value → Bool
  | [], [] => true
  | a :: as, b :: bs => same a b && sameItems as bs
  | _, _ => false

def entriesAmong : List (Value × Value) → List (Value × Value) → Bool
  | [], _ => true
  | (key, value) :: rest, others =>
    others.any (fun (k, v) => same key k && same value v) && entriesAmong rest others

end

/-- The text of a mapping key in JSON. Null, collections and numbers that are not finite cannot
be keys. -/
def jsonKey? : Value → Option Text
  | text value => some value
  | bool true => some "true".toList
  | bool false => some "false".toList
  | number (.float value) =>
    if value.isFinite then some (Json.numberText (.float value)) else none
  | number (.integer value) => some (Text.ofInt value)
  | _ => none

mutual

/-- The value in JSON, unless a mapping in it has a key that cannot be written. A tagged value is
an object whose one key is the tag. -/
def toJson? : Value → Option Json
  | null => some .null
  | bool value => some (.bool value)
  | number value => some (.number value)
  | text value => some (.string value)
  | sequence items => (itemsToJson? items).map .array
  | mapping entries => (entriesToJson? entries).map .object
  | tagged tag value => (toJson? value).map fun json => .object [('!' :: tag, json)]

def itemsToJson? : List Value → Option (List Json)
  | [] => some []
  | item :: rest =>
    match toJson? item, itemsToJson? rest with
    | some json, some more => some (json :: more)
    | _, _ => none

def entriesToJson? : List (Value × Value) → Option (List (Text × Json))
  | [] => some []
  | (key, value) :: rest =>
    match jsonKey? key, toJson? value, entriesToJson? rest with
    | some name, some json, some more => some ((name, json) :: more)
    | _, _, _ => none

end

end Value

end WorkflowDocs.Yaml
