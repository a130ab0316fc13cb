import WorkflowDocs.Decimal.Notation
import WorkflowDocs.Logging.Event
import WorkflowDocs.Text.Alphanumeric
import WorkflowDocs.Text.Blank
import WorkflowDocs.Text.Pattern

/-!
# Log directives

A directive says how much is told: by everything, by a part of the program, or inside a span. It
is written `level`, `target=level` or `target[span{field=value}]=level`, where everything but the
brackets can be left out. Without a level all levels are told. A value is a number, a truth value
or a pattern.
-/

namespace WorkflowDocs.Logging

/-- The most verbose level that is told; `none` tells nothing. -/
abbrev Limit := Option Level

namespace Limit

def verbosity (limit : Limit) : Nat := (limit.map Level.verbosity).getD 0

def admits (limit : Limit) (level : Level) : Bool := level.verbosity ≤ limit.verbosity

/-- The limits in ascending order. -/
def named : List (Text × Limit) :=
  [("off".toList, none), ("error".toList, some .error), ("warn".toList, some .warn),
    ("info".toList, some .info), ("debug".toList, some .debug), ("trace".toList, some .trace)]

/-- A limit by its name in any case, or by its verbosity, which may have a plus sign. -/
def ofText? (word : Text) : Option Limit :=
  let digits := match word with
    | '+' :: rest => rest
    | _ => word
  match Decimal.digitsValue? 10 digits with
  | some number => (named[number]?).map (·.2)
  | none => (named.find? fun entry => entry.1 = word.lowered).map (·.2)

end Limit

structure FieldPattern where
  name : Text
  /-- The text of a value, if one is asked for. -/
  value : Option Text
  deriving DecidableEq, Repr

structure Directive where
  limit : Limit
  /-- What the name of the reporting part begins with. -/
  target : Option Text
  span : Option Text
  fields : List FieldPattern
  deriving DecidableEq, Repr

/-- A text that is cut where another one, its shape, has certain characters. -/
structure Cuttable where
  shape : Text
  words : Text
  deriving DecidableEq, Repr

namespace Cuttable

/-- The shape of a text is the text without the blanks around it. -/
def ofText (text : Text) : Cuttable := ⟨text.trim, text⟩

def drop (text : Cuttable) (count : Nat) : Cuttable :=
  ⟨text.shape.drop count, text.words.drop count⟩

/-- The word before the first of some characters, and the text from there on. -/
def cutAt (stops : List Char) (text : Cuttable) : Text × Cuttable :=
  let count := (text.shape.takeWhile fun c => !stops.contains c).length
  (text.words.take count, text.drop count)

/-- The words between separators before the first `stop`, and the text from there on. -/
def cutAllAt (separator stop : Char) (text : Cuttable) : List Text × Cuttable :=
  go text.shape.length text
where
  go : Nat → Cuttable → List Text × Cuttable
    | 0, text => ([[]], text)
    | fuel + 1, text =>
      let (word, rest) := text.cutAt [separator, stop]
      if rest.shape.head? = some separator then
        let (words, rest) := go fuel (rest.drop 1)
        (word :: words, rest)
      else ([word], rest)

end Cuttable

namespace FieldPattern

/-- The value is a number or a truth value. No text is equal to one. -/
def isScalar (value : Text) : Bool :=
  let unsigned : Text := match value with
    | '-' :: rest | '+' :: rest => rest
    | _ => value
  value = "true".toList || value = "false".toList || (Binary64.ofText? value).isSome ||
    ["inf".toList, "infinity".toList, "nan".toList].contains unsigned.lowered

/-- The pattern that a value is, unless it is a scalar. -/
def pattern? (value : Text) : Option Pattern :=
  if isScalar value then none else Pattern.ofText? value

def ofText? (text : Text) : Option FieldPattern :=
  match text.split '=' with
  | name :: value :: _ =>
    if isScalar value || (pattern? value).isSome then some ⟨name, some value⟩ else none
  | _ => some ⟨text, none⟩

/-- A field with some text for its value is asked for. -/
def accepts (pattern : FieldPattern) (field : Field) : Bool :=
  pattern.name = field.1 && pattern.value.all fun value =>
    (pattern? value).any (·.matchesEnd field.2)

end FieldPattern

namespace Directive

def everything : Limit := some .trace

/-- The limit behind an equals sign. Commas may follow; without them it reaches to the end. -/
def limitBehindSign? (text : Cuttable) : Option Limit :=
  let (word, rest) := text.cutAt [',']
  let word := if rest.shape.isEmpty then text.words else word
  if rest.shape.any (· ≠ ',') then none
  else if word.isEmpty then some everything
  else Limit.ofText? word

/-- The limit behind a closing bracket. -/
def limitBehindBracket? (text : Cuttable) : Option Limit :=
  match text.shape with
  | [] => some everything
  | '=' :: _ => limitBehindSign? (text.drop 1)
  | _ => none

/-- A directive behind its opening bracket. -/
def inBrackets? (target : Option Text) (text : Cuttable) : Option Directive :=
  let (name, rest) := text.cutAt [']', '\x7b']
  match rest.shape with
  | ']' :: _ =>
    (limitBehindBracket? (rest.drop 1)).map fun limit => ⟨limit, target, some name, []⟩
  | '\x7b' :: _ => do
    let (fields, rest) := (rest.drop 1).cutAllAt ',' '\x7d'
    match rest.shape with
    | '\x7d' :: ']' :: _ =>
      if fields.any List.isEmpty then none
      let fields ← fields.mapM FieldPattern.ofText?
      let limit ← limitBehindBracket? (rest.drop 2)
      return ⟨limit, target, if name.isEmpty then none else some name, fields⟩
    | _ => none
  | _ => none

/-- A word alone is a limit if there is one of that name, and otherwise a target. -/
def ofWord (word : Text) : Directive :=
  match Limit.ofText? word with
  | some limit => ⟨limit, none, none, []⟩
  | none => ⟨everything, some word, none, []⟩

def isFirstChar (c : Char) : Bool := isAlphanumeric c || c = '-' || c = ':' || c = '_'

/-- Blanks around a directive count for its words but not for its shape. Behind blanks in front
every word is cut too early, and no level is understood. -/
def ofText? (text : Text) : Option Directive :=
  let whole := Cuttable.ofText text
  let (word, rest) := whole.cutAt ['=', '[', ',']
  if !(whole.shape.head?.all fun c => isFirstChar c || c = '[') then none
  else match rest.shape with
    | '=' :: _ => (limitBehindSign? (rest.drop 1)).map fun limit => ⟨limit, some word, none, []⟩
    | '[' :: _ => inBrackets? (if whole.shape.head? = some '[' then none else some word) (rest.drop 1)
    | commas =>
      if whole.shape.isEmpty || commas.any (· ≠ ',') then none else some (ofWord text)

example : ofText? "a::b[s\x7bx=1,y\x7d]=Info".toList =
    some ⟨some .info, some "a::b".toList, some "s".toList,
      [⟨"x".toList, some "1".toList⟩, ⟨"y".toList, none⟩]⟩ := by decide +kernel
example : ofText? "loud".toList = some ⟨everything, some "loud".toList, none, []⟩ := by
  decide +kernel
example : ofText? "a=loud".toList = none := by decide +kernel
example : ofText? "a=warn, ".toList = some ⟨some .warn, some "a".toList, none, []⟩ := by
  decide +kernel
example : ofText? " a[b]".toList =
    some ⟨everything, some " ".toList, some "[".toList, []⟩ := by decide +kernel
example : ofText? "[\x7ba=(\x7d]".toList = none := by decide +kernel

end Directive

end WorkflowDocs.Logging
