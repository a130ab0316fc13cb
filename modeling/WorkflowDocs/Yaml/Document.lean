import WorkflowDocs.Yaml.Event
import WorkflowDocs.Yaml.Plain
import WorkflowDocs.Yaml.Value
import WorkflowDocs.Text.Quoted

/-!
# Reading a workflow file

The value of the one document in a text. Aliases are replaced by the nodes they name, so the
depth of nesting and the number of aliases followed are limited.
-/

namespace WorkflowDocs.Yaml

/-! ## Problems -/

/-- A node that has no value. -/
inductive InvalidNode
  | duplicateKey (key : Value)
  | notOfTag (text : Text) (expected : Text)
  | hugeInteger (value : Int)

/-- A step from a collection to a node in it. -/
inductive Segment
  | key (name : Text)
  | index (position : Nat)
  | unnamed

/-- The way from the root to a node, its last step first. -/
abbrev Path := List Segment

inductive Problem
  | malformed (fault : Fault)
  | unknownAnchor (mark : Mark)
  | recursionLimit (mark : Mark)
  | repetitionLimit
  | severalDocuments
  | incomplete
  | invalid (node : InvalidNode) (path : Path) (mark : Mark)

/-- The root is a point, which disappears in front of a key. -/
def pathText : Path → Text
  | [] => ['.']
  | .key name :: [] => name
  | .unnamed :: [] => ['?']
  | .key name :: parent => pathText parent ++ '.' :: name
  | .unnamed :: parent => pathText parent ++ ['.', '?']
  | .index position :: parent => pathText parent ++ '[' :: (Text.ofNat position ++ [']'])

def keyPhrase : Value → Text
  | .null => "with null key".toList
  | .bool true => "with key `true`".toList
  | .bool false => "with key `false`".toList
  | .number value => "with key ".toList ++ value.text
  | .text value => "with key ".toList ++ value.quoted
  | .sequence _ | .mapping _ | .tagged .. => "in YAML map".toList

def InvalidNode.message : InvalidNode → Text
  | duplicateKey key => "duplicate entry ".toList ++ keyPhrase key
  | notOfTag text expected =>
    "invalid value: string ".toList ++ text.quoted ++ ", expected ".toList ++ expected
  | hugeInteger value =>
    "invalid type: integer `".toList ++ Text.ofInt value ++ "` as ".toList ++
      (if value < 0 then "i128".toList else "u128".toList) ++ ", expected any YAML value".toList

def Problem.message : Problem → Text
  | malformed fault => fault.message
  | unknownAnchor mark => "unknown anchor".toList ++ mark.suffix
  | recursionLimit mark => "recursion limit exceeded".toList ++ mark.suffix
  | repetitionLimit => "repetition limit exceeded".toList
  | severalDocuments =>
    "deserializing from YAML containing more than one document is not supported".toList
  | incomplete => "EOF while parsing a value".toList
  | invalid node path mark =>
    (if path.isEmpty then [] else pathText path ++ [':', ' ']) ++ node.message ++ mark.suffix

/-! ## Nodes of the first document -/

/-- An event inside a document. An alias names the event where its node begins. -/
inductive Part
  | alias (target : Nat)
  | scalar (tag : Option TagText) (value : Text) (plain : Bool)
  | sequenceStart (tag : Option TagText)
  | sequenceEnd
  | mappingStart (tag : Option TagText)
  | mappingEnd

structure Document where
  parts : List (Part × Mark)
  /-- What was wrong behind the last part. -/
  problem : Option Problem
  /-- The positions of nodes with an anchor, by the number of the anchor. -/
  targets : List (Nat × Nat)
  /-- Something follows the document. -/
  continued : Bool

/-- The anchors seen so far with their numbers. An anchor's number is the count of names before
it, so a name given twice can share its number with a later one. -/
structure Anchors where
  numbers : List (Text × Nat)
  targets : List (Nat × Nat)

namespace Anchors

def name (anchors : Anchors) (anchor : Option Text) (position : Nat) : Anchors :=
  match anchor with
  | none => anchors
  | some name =>
    let number := anchors.numbers.length
    { numbers := (name, number) :: anchors.numbers.filter fun entry => entry.1 ≠ name
      targets := (number, position) :: anchors.targets }

def number? (anchors : Anchors) (name : Text) : Option Nat :=
  (anchors.numbers.find? fun entry => entry.1 = name).map (·.2)

end Anchors

/-- The first document among events; `position` counts its parts. -/
def Document.ofEvents (fault : Option Fault) (anchors : Anchors) (position : Nat) :
    List (Event × Mark) → Document
  | [] => ⟨[], fault.map .malformed, anchors.targets, false⟩
  | (event, mark) :: rest =>
    let add (part : Part) (anchors : Anchors) : Document :=
      let document := ofEvents fault anchors (position + 1) rest
      { document with parts := (part, mark) :: document.parts }
    match event with
    | .streamStart | .documentStart => ofEvents fault anchors position rest
    | .streamEnd => ⟨[], none, anchors.targets, false⟩
    | .documentEnd =>
      ⟨[], none, anchors.targets, match rest with
        | [] => true
        | (next, _) :: _ => next ≠ .streamEnd⟩
    | .alias name =>
      match anchors.number? name with
      | some number => add (.alias number) anchors
      | none => ⟨[], some (.unknownAnchor mark), anchors.targets, false⟩
    | .scalar anchor tag value plain => add (.scalar tag value plain) (anchors.name anchor position)
    | .sequenceStart anchor tag => add (.sequenceStart tag) (anchors.name anchor position)
    | .sequenceEnd => add .sequenceEnd anchors
    | .mappingStart anchor tag => add (.mappingStart tag) (anchors.name anchor position)
    | .mappingEnd => add .mappingEnd anchors

/-! ## Values -/

/-- A tag's name as it is kept: a `!` in front of it is dropped. -/
def keptTag (name : Text) : Text :=
  match name with
  | '!' :: c :: rest => c :: rest
  | _ => name

/-- The name of a tag of the workflow's own, which starts with `!` and is a text. The tag `!` alone
is its own name. Standard tags are not kept. -/
def ownTag? (tag : TagText) : Option Text :=
  match tag with
  | [some '!'] => some ['!']
  | some '!' :: name => (name.mapM id).map keptTag
  | _ => none

/-- The value of an integer, unless it is too large for one and too small for a float. -/
def integerValue? (text : Text) : Option (Except InvalidNode Value) :=
  match Plain.integer? text with
  | none => none
  | some value =>
    match Plain.rangeOf value with
    | .fits => some (.ok (.number (.integer value)))
    | .tooLarge => some (.error (.hugeInteger value))
    | .float => none

/-- The value of a plain scalar without a standard tag. -/
def plainValue (text : Text) : Except InvalidNode Value :=
  if text.isEmpty || Plain.isNull text then .ok .null
  else match Plain.bool? text with
    | some value => .ok (.bool value)
    | none =>
      match integerValue? text with
      | some result => result
      | none =>
        match if Plain.isPadded text then none else Plain.float? text with
        | some value => .ok (.number (.float value))
        | none => .ok (.text text)

def standardTag (name : String) : Option TagText :=
  some (("tag:yaml.org,2002:".toList ++ name.toList).map some)

/-- No tag decides what a scalar is: it has none, or one of the workflow's own. -/
def isOwnOrNone (tag : Option TagText) : Bool := tag.all fun tag => tag.head? = some (some '!')

/-- The value of a scalar; `tagged` says that its tag is already taken. -/
def scalarValue (tagged : Bool) (tag : Option TagText) (text : Text) (plain : Bool) :
    Except InvalidNode Value :=
  if isOwnOrNone tag || tagged then if plain then plainValue text else .ok (.text text)
  else if tag = standardTag "bool" then
    match Plain.bool? text with
    | some value => .ok (.bool value)
    | none => .error (.notOfTag text "a boolean".toList)
  else if tag = standardTag "int" then
    (integerValue? text).getD (.error (.notOfTag text "an integer".toList))
  else if tag = standardTag "float" then
    match Plain.float? text with
    | some value => .ok (.number (.float value))
    | none => .error (.notOfTag text "a float".toList)
  else if tag = standardTag "null" then
    if Plain.isNull text then .ok .null else .error (.notOfTag text "null".toList)
  else .ok (.text text)

/-- The rest of the parts to read and the number of aliases followed. -/
structure Progress where
  rest : List (Part × Mark)
  followed : Nat

abbrev Build := StateT Progress (Except Problem)

namespace Build

/-- The next part; behind the last one stands the document's problem. -/
def peek (document : Document) : Build (Part × Mark) := do
  match (← get).rest with
  | entry :: _ => return entry
  | [] => throw (document.problem.getD .incomplete)

def skip : Build Unit := modify fun progress => { progress with rest := progress.rest.drop 1 }

def invalid {α : Type} (node : InvalidNode) (path : Path) (mark : Mark) : Build α :=
  throw (.invalid node path mark)

/-- A hundred aliases may be followed for each part. -/
def countAlias (document : Document) : Build Unit := do
  let progress ← get
  if progress.followed + 1 > 100 * document.parts.length then throw .repetitionLimit
  set { progress with followed := progress.followed + 1 }

/-- The name of the own tag of a node, unless the tag is taken already. -/
def untakenTag? (tagged : Bool) (tag : Option TagText) : Option Text :=
  if tagged then none else tag.bind ownTag?

def withTag (tag : Option Text) (value : Value) : Value :=
  match tag with
  | some name => .tagged name value
  | none => value

mutual

/-- The value of the next node, with at most `depth` collections inside each other. -/
def node (document : Document) (depth : Nat) (path : Path) (tagged : Bool) : Nat → Build Value
  | 0 => throw .incomplete
  | fuel + 1 => do
    let (part, mark) ← peek document
    skip
    match part with
    | .alias number =>
      countAlias document
      let rest := (← get).rest
      let target := ((document.targets.find? fun entry => entry.1 = number).map (·.2)).getD 0
      modify fun progress => { progress with rest := document.parts.drop target }
      let value ← node document depth path false fuel
      modify fun progress => { progress with rest }
      return value
    | .scalar tag text plain =>
      let own := untakenTag? tagged tag
      match scalarValue tagged tag text plain with
      | .ok value => return withTag own value
      | .error problem => invalid problem path mark
    | .sequenceStart tag =>
      let own := untakenTag? tagged tag
      if depth = 0 then throw (.recursionLimit mark)
      let values ← items document (depth - 1) path 0 fuel
      return withTag own (.sequence values)
    | .mappingStart tag =>
      let own := untakenTag? tagged tag
      if depth = 0 then throw (.recursionLimit mark)
      let pairs ← entries document (depth - 1) path (tagged || own.isSome) mark [] fuel
      return withTag own (.mapping pairs)
    | .sequenceEnd | .mappingEnd => throw .incomplete
termination_by structural fuel => fuel

/-- The items of a sequence from the one at `position` on. -/
def items (document : Document) (depth : Nat) (path : Path) (position : Nat) :
    Nat → Build (List Value)
  | 0 => throw .incomplete
  | fuel + 1 => do
    match ← peek document with
    | (.sequenceEnd, _) =>
      skip
      return []
    | _ =>
      let value ← node document depth (.index position :: path) false fuel
      return value :: (← items document depth path (position + 1) fuel)
termination_by structural fuel => fuel

/-- The entries of a mapping behind those in `before`. Tags are not kept on the keys of a tagged
mapping. -/
def entries (document : Document) (depth : Nat) (path : Path) (tagged : Bool) (start : Mark)
    (before : List (Value × Value)) : Nat → Build (List (Value × Value))
  | 0 => throw .incomplete
  | fuel + 1 => do
    match ← peek document with
    | (.mappingEnd, _) =>
      skip
      return before.reverse
    | (part, _) =>
      let segment : Segment := match part with
        | .scalar _ name _ => .key name
        | _ => .unnamed
      let key ← node document depth path tagged fuel
      if before.any fun entry => entry.1.same key then invalid (.duplicateKey key) path start
      let value ← node document depth (segment :: path) false fuel
      entries document depth path tagged start ((key, value) :: before) fuel
termination_by structural fuel => fuel

end

end Build

/-- Collections may stand 128 deep in each other. -/
def depthLimit : Nat := 128

/-- Enough for every part of a document and every alias that may be followed in it. -/
def Document.effort (document : Document) : Nat :=
  let count := document.parts.length + 2
  4 * count * (100 * count + 1)

/-- The value of a document that has parts. -/
def Document.value (document : Document) : Except Problem Value :=
  (Build.node document depthLimit [] false document.effort ⟨document.parts, 0⟩).map (·.1)

/-- The value of a text that holds one document. A text without nodes is null. -/
def parse (text : Text) : Except Problem Value := do
  let (found, fault) := events text
  let document := Document.ofEvents fault ⟨[], []⟩ 0 found
  let value ← if document.parts.isEmpty && document.problem.isNone then pure .null else document.value
  if let some problem := document.problem then throw problem
  if document.continued then throw .severalDocuments
  return value

end WorkflowDocs.Yaml
