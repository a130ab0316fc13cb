import WorkflowDocs.Number
import WorkflowDocs.Text.Quoted

/-!
# JSON texts

A JSON value and its two layouts, on one line and indented by two spaces.
-/

namespace WorkflowDocs

inductive Json
  | null
  | bool (value : Bool)
  | number (value : Number)
  | string (value : Text)
  | array (items : List Json)
  | object (members : List (Text × Json))
  deriving Repr

namespace Json

def escapedChar (c : Char) : Text :=
  if c = '"' || c = '\\' then ['\\', c]
  else if c = '\x08' then ['\\', 'b']
  else if c = '\x0c' then ['\\', 'f']
  else if c = '\n' then ['\\', 'n']
  else if c = '\r' then ['\\', 'r']
  else if c = '\t' then ['\\', 't']
  else if c.toNat < 0x20 then
    let digits := Text.hexadecimal c.toNat
    '\\' :: 'u' :: (Text.repeated (4 - digits.length) '0' ++ digits)
  else [c]

def stringText (text : Text) : Text := '"' :: (text.flatMap escapedChar ++ ['"'])

/-- A number that is not finite becomes null. -/
def numberText : Number → Text
  | .integer value => Text.ofInt value
  | .float value => value.textWith (Decimal.written true) (fun _ => "null".toList) "null".toList

mutual

/-- The value on one line, without blanks. -/
def compact : Json → Text
  | null => "null".toList
  | bool true => "true".toList
  | bool false => "false".toList
  | number value => numberText value
  | string value => stringText value
  | array items => '[' :: (Text.join [','] (compactItems items) ++ [']'])
  | object members => '\x7b' :: (Text.join [','] (compactMembers members) ++ ['\x7d'])

def compactItems : List Json → List Text
  | [] => []
  | item :: rest => compact item :: compactItems rest

def compactMembers : List (Text × Json) → List Text
  | [] => []
  | (key, value) :: rest => (stringText key ++ ':' :: compact value) :: compactMembers rest

end

/-- Lines between two brackets, each on a line of its own and indented once more than `depth`. -/
def bracketed (first last : Char) (depth : Nat) (texts : List Text) : Text :=
  if texts.isEmpty then [first, last]
  else
    let indent := Text.repeated (2 * (depth + 1)) ' '
    first :: '\n' :: (Text.join [',', '\n'] (texts.map (indent ++ ·)) ++
      '\n' :: (Text.repeated (2 * depth) ' ' ++ [last]))

mutual

/-- The value with one item or member a line. -/
def indented (depth : Nat) : Json → Text
  | array items => bracketed '[' ']' depth (indentedItems (depth + 1) items)
  | object members => bracketed '\x7b' '\x7d' depth (indentedMembers (depth + 1) members)
  | null => "null".toList
  | bool true => "true".toList
  | bool false => "false".toList
  | number value => numberText value
  | string value => stringText value

def indentedItems (depth : Nat) : List Json → List Text
  | [] => []
  | item :: rest => indented depth item :: indentedItems depth rest

def indentedMembers (depth : Nat) : List (Text × Json) → List Text
  | [] => []
  | (key, value) :: rest =>
    (stringText key ++ ':' :: ' ' :: indented depth value) :: indentedMembers depth rest

end

/-- The indented layout of a whole document. -/
def pretty (json : Json) : Text := json.indented 0

example : (object [("a".toList, array [null, bool true]), ("b".toList, string "\x01\n".toList)]).compact =
    "\x7b\"a\":[null,true],\"b\":\"\\u0001\\n\"\x7d".toList := by decide +kernel

end Json

end WorkflowDocs
