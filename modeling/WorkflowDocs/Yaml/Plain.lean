import WorkflowDocs.Decimal.Notation

/-!
# Plain scalars

What an unquoted scalar stands for: null, a boolean, an integer, a finite or special float, and
otherwise its own text.
-/

namespace WorkflowDocs.Yaml.Plain

def isNull (text : Text) : Bool :=
  text = "null".toList || text = "Null".toList || text = "NULL".toList || text = "~".toList

def bool? (text : Text) : Option Bool :=
  if text = "true".toList || text = "True".toList || text = "TRUE".toList then some true
  else if text = "false".toList || text = "False".toList || text = "FALSE".toList then some false
  else none

/-- The text behind `start`. -/
def after? (start text : Text) : Option Text :=
  if start.isPrefixOf text then some (text.drop start.length) else none

/-- A text of digits with a zero in front is no number. -/
def isPadded (text : Text) : Bool :=
  let digits := match text with
    | '-' :: rest => rest
    | '+' :: rest => rest
    | _ => text
  match digits with
  | '0' :: c :: rest => (c :: rest).all Char.isDigit
  | _ => false

def withoutPlus (text : Text) : Text :=
  match text with
  | '+' :: rest => rest
  | _ => text

/-- The number in hexadecimal, octal or binary digits behind `sign`, if the text is one. -/
def basedValue? (sign text : Text) : Option Nat :=
  let based (mark : String) (base : Nat) : Option Nat :=
    (after? (sign ++ mark.toList) text).bind (Decimal.digitsValue? base)
  (based "0x" 16).orElse fun _ => (based "0o" 8).orElse fun _ => based "0b" 2

/-- An integer, of any size. -/
def integer? (text : Text) : Option Int :=
  let unsigned := withoutPlus text
  let natural : Option Nat := (basedValue? [] unsigned).orElse fun _ =>
    if isPadded text then none else Decimal.digitsValue? 10 unsigned
  let negative : Option Nat := (basedValue? ['-'] text).orElse fun _ =>
    if isPadded text then none
    else match text with
      | '-' :: digits => Decimal.digitsValue? 10 digits
      | _ => none
  match natural, negative with
  | some n, _ => some n
  | none, some n => some (-n)
  | none, none => none

/-- The widest integers that are told apart from floats take 128 bits, those of a document 64. -/
inductive IntegerRange
  | fits
  | tooLarge
  | float
  deriving DecidableEq

def rangeOf (value : Int) : IntegerRange :=
  if -Decimal.signedBound 64 ≤ value && value < 2 * Decimal.signedBound 64 then .fits
  else if -Decimal.signedBound 128 ≤ value && value < 2 * Decimal.signedBound 128 then .tooLarge
  else .float

/-- A float; a decimal too large to be finite is none. -/
def float? (text : Text) : Option Binary64 :=
  let unsigned := withoutPlus text
  if text.head? = some '+' && (unsigned.head? = some '+' || unsigned.head? = some '-') then none
  else if unsigned = ".inf".toList || unsigned = ".Inf".toList || unsigned = ".INF".toList then
    some (.infinity false)
  else if text = "-.inf".toList || text = "-.Inf".toList || text = "-.INF".toList then
    some (.infinity true)
  else if text = ".nan".toList || text = ".NaN".toList || text = ".NAN".toList then some .nan
  else (Binary64.ofText? unsigned).filter Binary64.isFinite

end WorkflowDocs.Yaml.Plain
