import WorkflowDocs.Text
import WorkflowDocs.Decimal.Binary64

/-!
# Reading numbers

Digits to a base, and decimals with a point and an exponent.
-/

namespace WorkflowDocs

namespace Decimal

/-- The value of a digit to a base up to sixteen. -/
def digitValue? (c : Char) : Option Nat :=
  if c.isDigit then some (c.toNat - '0'.toNat)
  else if 'a' ≤ c && c ≤ 'f' then some (c.toNat - 'a'.toNat + 10)
  else if 'A' ≤ c && c ≤ 'F' then some (c.toNat - 'A'.toNat + 10)
  else none

/-- The value of digits to a base; no digits have none. -/
def digitsValue? (base : Nat) (digits : Text) : Option Nat :=
  if digits.isEmpty then none
  else digits.foldl (fun value c => match value, digitValue? c with
    | some n, some d => if d < base then some (base * n + d) else none
    | _, _ => none) (some 0)

/-- What an integer of some bits stays below. -/
def signedBound (bits : Nat) : Int := Nat.pow 2 (bits - 1)

/-- An optional exponent: its value, unless the text is something else. -/
def exponent? (text : Text) : Option Int :=
  match text with
  | [] => some 0
  | e :: rest =>
    if e ≠ 'e' && e ≠ 'E' then none
    else
      let (negative, digits) : Bool × Text := match rest with
        | '-' :: digits => (true, digits)
        | '+' :: digits => (false, digits)
        | _ => (false, rest)
      (digitsValue? 10 digits).map fun n => if negative then -(n : Int) else n

end Decimal

/-- A decimal with digits on at least one side of its point and an optional exponent, rounded to
the nearest number. -/
def Binary64.ofText? (text : Text) : Option Binary64 :=
  let (negative, text) : Bool × Text := match text with
    | '-' :: rest => (true, rest)
    | '+' :: rest => (false, rest)
    | _ => (false, text)
  let whole := text.takeWhile Char.isDigit
  let rest := text.dropWhile Char.isDigit
  let (fraction, rest) : Text × Text := match rest with
    | '.' :: rest => (rest.takeWhile Char.isDigit, rest.dropWhile Char.isDigit)
    | _ => ([], rest)
  match Decimal.digitsValue? 10 (whole ++ fraction), Decimal.exponent? rest with
  | some digits, some exponent => some (ofDecimal negative digits (exponent - fraction.length))
  | _, _ => none

example : Binary64.ofText? "-1.5e1".toList = some (.finite true 8444249301319680 (-49)) := by
  decide +kernel
example : Binary64.ofText? ".".toList = none := by decide +kernel

end WorkflowDocs
