import WorkflowDocs.Toml.String

/-!
# Numbers and dates
-/

namespace WorkflowDocs.Toml

open Toml.Parser

def digit : Parser Char := one Char.isDigit

/-- More digits; an underscore may stand between two digits. -/
def moreDigits (digit : Parser Char) : Parser Unit :=
  ignore (many (orElse digit (do
    let _ ← char '_'
    expecting "digit" (committed digit))))

/-! ## Integers -/

def digitsValue (base : Nat) (digits : Text) : Nat := (Decimal.digitsValue? base digits).getD 0

/-- A decimal without leading zeros. -/
def decimalText : Parser Text :=
  labelled "integer" <| taken do
    let _ ← optional (one fun c => c = '+' || c = '-')
    orElse (do
      let _ ← one fun c => c.isDigit && c ≠ '0'
      moreDigits digit) (ignore digit)

/-- An integer takes 64 bits. -/
def boundedInteger (value : Int) : Except Text Int :=
  if value < -Decimal.signedBound 64 then .error "number too small to fit in target type".toList
  else if value ≥ Decimal.signedBound 64 then .error "number too large to fit in target type".toList
  else .ok value

def signedValue (text : Text) : Int :=
  let digits := text.filter Char.isDigit
  if text.head? = some '-' then -(digitsValue 10 digits : Int) else digitsValue 10 digits

/-- Digits of a base behind its mark. -/
def basedInteger (label mark : String) (base : Nat) : Parser Int :=
  let digit : Parser Char := one fun c => match Decimal.digitValue? c with
    | some d => d < base
    | none => false
  committed <| orRefuse (labelled label (do
    literal mark
    taken (committed (do
      let _ ← digit
      moreDigits digit))))
    fun text => boundedInteger (digitsValue base (text.filter (· ≠ '_')))

/-- A number that a later check refuses is not read as something else. -/
def checked {α β : Type} (p : Parser α) (f : α → Except Text β) : Parser β := fun start =>
  match p start with
  | .ok value cursor =>
    match f value with
    | .ok value => .ok value cursor
    | .error cause => .fail true ⟨[], [], some cause⟩ start
  | .fail final expectation cursor => .fail final expectation cursor

def integer : Parser Int := fun start =>
  match start.rest with
  | '0' :: 'x' :: _ => basedInteger "hexadecimal integer" "0x" 16 start
  | '0' :: 'o' :: _ => basedInteger "octal integer" "0o" 8 start
  | '0' :: 'b' :: _ => basedInteger "binary integer" "0b" 2 start
  | _ => checked decimalText (fun text => boundedInteger (signedValue text)) start

/-! ## Floats -/

/-- Digits that may start with zeros. -/
def paddedDigits : Parser Unit := do
  let _ ← digit
  moreDigits digit

def exponentPart : Parser Unit := do
  let _ ← one fun c => c = 'e' || c = 'E'
  let _ ← optional (one fun c => c = '+' || c = '-')
  committed paddedDigits

def fractionPart : Parser Unit := do
  let _ ← char '.'
  expecting "digit" (committed paddedDigits)

def floatText : Parser Text := taken do
  let _ ← decimalText
  orElse exponentPart (do
    fractionPart
    let _ ← optional exponentPart)

def infinityWord (negative : Bool) : Parser Binary64 := do
  literal "inf"
  return .infinity negative

def nanWord : Parser Binary64 := do
  literal "nan"
  return .nan

def specialFloat : Parser Binary64 := do
  let sign ← optional (one fun c => c = '+' || c = '-')
  orElse (infinityWord (sign = some '-')) nanWord

/-- A decimal float must not round to positive infinity. -/
def floatValue (text : Text) : Except Expectation Binary64 :=
  match Binary64.ofText? (text.filter (· ≠ '_')) with
  | some (.infinity false) => .error .nothing
  | some value => .ok value
  | none => .error .nothing

def float : Parser Binary64 :=
  labelled "floating-point number" <| orElse (fun start =>
    match floatText start with
    | .ok text cursor =>
      match floatValue text with
      | .ok value => .ok value cursor
      | .error expectation => .fail true expectation start
    | .fail final expectation cursor => .fail final expectation cursor) specialFloat

/-! ## Dates and times -/

/-- A number of `count` digits between two bounds. -/
def boundedDigits (count least most : Nat) : Parser Nat :=
  orRefuse (run Char.isDigit count (some count)) fun digits =>
    let value := digitsValue 10 digits
    if least ≤ value && value ≤ most then .ok value else .error outOfRange

def daysOfMonth (year month : Nat) : Nat :=
  if month = 2 then if year % 4 = 0 && (year % 100 ≠ 0 || year % 400 = 0) then 29 else 28
  else if month = 4 || month = 6 || month = 9 || month = 11 then 30
  else 31

def date : Parser Unit := do
  let year ← run Char.isDigit 4 (some 4)
  let _ ← char '-'
  let month ← committed (boundedDigits 2 1 12)
  let _ ← committed (char '-')
  ignore (checked (committed (boundedDigits 2 1 31)) fun day =>
    if day ≤ daysOfMonth (digitsValue 10 year) month then .ok () else .error outOfRange)

def time : Parser Unit := do
  let _ ← boundedDigits 2 0 23
  let _ ← char ':'
  committed do
    let _ ← boundedDigits 2 0 59
    let _ ← char ':'
    let _ ← boundedDigits 2 0 60
    let _ ← optional (do
      let _ ← char '.'
      run1 Char.isDigit)

def timeOffset : Parser Unit :=
  labelled "time offset" <| orElse (ignore (one fun c => c = 'Z' || c = 'z')) do
    let _ ← one fun c => c = '+' || c = '-'
    committed do
      let _ ← boundedDigits 2 0 23
      let _ ← char ':'
      let _ ← boundedDigits 2 0 59

def dateTime : Parser Unit :=
  orElse (labelled "date-time" (do
    date
    let _ ← optional (do
      let _ ← one fun c => c = 'T' || c = 't' || c = ' '
      time
      let _ ← optional timeOffset)))
    (labelled "time" time)

end WorkflowDocs.Toml
