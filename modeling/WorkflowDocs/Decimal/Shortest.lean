import WorkflowDocs.Text
import WorkflowDocs.Decimal.Binary64

/-!
# Shortest decimals

The text of a binary64 number has the fewest digits that read back as the number, and among those
the digits nearest to it.
-/

namespace WorkflowDocs

/-- `digits · 10^exponent`. -/
structure Decimal where
  digits : Nat
  exponent : Int
  deriving DecidableEq, Repr

namespace Decimal

/-- The decimals that round to one binary64 number: those between two bounds around its value,
all three given in the unit `2^exponent`. -/
structure Interval where
  low : Nat
  value : Nat
  high : Nat
  /-- The bounds themselves round to the number. -/
  closed : Bool
  exponent : Int

/-- Half the distance to each neighbour. Below a power of two the neighbour is twice as near. -/
def Interval.around (mantissa : Nat) (exponent : Int) : Interval where
  low := if mantissa = Nat.pow 2 52 && exponent > Binary64.leastExponent then 4 * mantissa - 1
    else 4 * mantissa - 2
  value := 4 * mantissa
  high := 4 * mantissa + 2
  closed := mantissa % 2 = 0
  exponent := exponent - 2

/-- `n · 2^binary / 10^decimal` as a fraction. -/
def ratio (n : Nat) (binary decimal : Int) : Nat × Nat :=
  (n * Nat.pow 2 binary.toNat * Nat.pow 10 (-decimal).toNat,
    Nat.pow 2 (-binary).toNat * Nat.pow 10 decimal.toNat)

/-- The decimal lies in the interval. -/
def Interval.holds (interval : Interval) (decimal : Decimal) : Bool :=
  let (low, d) := ratio interval.low interval.exponent decimal.exponent
  let (high, _) := ratio interval.high interval.exponent decimal.exponent
  if interval.closed then low ≤ decimal.digits * d && decimal.digits * d ≤ high
  else low < decimal.digits * d && decimal.digits * d < high

/-- The decimal with the given exponent that is nearest to the interval's value and lies in the
interval. One of the value's two neighbours does if any decimal of that exponent does. -/
def Interval.nearest? (interval : Interval) (exponent : Int) : Option Decimal :=
  let (n, d) := ratio interval.value interval.exponent exponent
  let below : Decimal := ⟨n / d, exponent⟩
  let above : Decimal := ⟨n / d + 1, exponent⟩
  let nearBelow := 2 * (n % d) < d || (2 * (n % d) = d && n / d % 2 = 0)
  match interval.holds below, interval.holds above with
  | true, true => some (if nearBelow then below else above)
  | true, false => some below
  | false, true => some above
  | false, false => none

/-- The number of digits before the decimal point of the interval's value, at most zero below
one tenth. -/
def Interval.magnitude (interval : Interval) : Int :=
  let (n, d) := ratio interval.value interval.exponent 0
  if n ≥ d then (Nat.toDigits 10 (n / d)).length
  else
    let zeros := (Nat.toDigits 10 (d / n)).length
    if n * Nat.pow 10 zeros ≥ d * 10 then 2 - zeros
    else if n * Nat.pow 10 zeros ≥ d then 1 - zeros
    else -zeros

/-- The first hit on the grids of one digit, two digits and so on. -/
def Interval.search (interval : Interval) (magnitude : Int) (found : Nat) : Nat → Decimal
  | 0 => ⟨interval.value, 0⟩
  | more + 1 =>
    match interval.nearest? (magnitude - (found + 1)) with
    | some decimal => decimal
    | none => search interval magnitude (found + 1) more

/-- Without zeros at the end of the digits. -/
def stripped (decimal : Decimal) : Nat → Decimal
  | 0 => decimal
  | fuel + 1 =>
    if decimal.digits % 10 = 0 && decimal.digits ≠ 0 then
      stripped ⟨decimal.digits / 10, decimal.exponent + 1⟩ fuel
    else decimal

/-- The shortest decimal that reads back as `mantissa · 2^exponent`; seventeen digits always do. -/
def shortest (mantissa : Nat) (exponent : Int) : Decimal :=
  if mantissa = 0 then ⟨0, 0⟩
  else
    let interval := Interval.around mantissa exponent
    (interval.search interval.magnitude 0 17).stripped 20

/-- Digits with a decimal point and no exponent; at least one digit stands on each side. -/
def positional (decimal : Decimal) : Text :=
  let digits := Text.ofNat decimal.digits
  let before : Int := digits.length + decimal.exponent
  if before ≤ 0 then '0' :: '.' :: (Text.repeated (-before).toNat '0' ++ digits)
  else if decimal.exponent ≥ 0 then
    digits ++ Text.repeated decimal.exponent.toNat '0' ++ ['.', '0']
  else digits.take before.toNat ++ '.' :: digits.drop before.toNat

/-- One digit before the point; `mark` stands between the digits and the exponent. -/
def scientific (plus : Bool) (decimal : Decimal) : Text :=
  let digits := Text.ofNat decimal.digits
  let exponent : Int := digits.length + decimal.exponent - 1
  let significand := match digits with
    | [] => []
    | [d] => [d]
    | d :: more => d :: '.' :: more
  significand ++ 'e' :: ((if plus && exponent ≥ 0 then ['+'] else []) ++ Text.ofInt exponent)

/-- Positional from `1e-5` up to but not including `1e16`, scientific elsewhere. -/
def written (plus : Bool) (decimal : Decimal) : Text :=
  let magnitude : Int := (Text.ofNat decimal.digits).length + decimal.exponent
  if -5 < magnitude && magnitude ≤ 16 then decimal.positional else decimal.scientific plus

end Decimal

namespace Binary64

/-- The text of a number, with the given texts for the infinities (`true` is the negative one) and
for what is not a number. -/
def textWith (finiteText : Decimal → Text) (infiniteText : Bool → Text) (nanText : Text) :
    Binary64 → Text
  | finite negative mantissa exponent =>
    (if negative then ['-'] else []) ++ finiteText (Decimal.shortest mantissa exponent)
  | infinity negative => infiniteText negative
  | nan => nanText

end Binary64

example : (Decimal.shortest 7205759403792794 (-56)).written false = "0.1".toList := by
  decide +kernel
example : (Decimal.shortest 1 (-1074)).written false = "5e-324".toList := by decide +kernel
example : (Decimal.shortest (Nat.pow 2 52) 1).written true = "9007199254740992.0".toList := by
  decide +kernel

end WorkflowDocs
