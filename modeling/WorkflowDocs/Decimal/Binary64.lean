/-!
# Binary64 numbers

Floating point numbers as exact values: a finite number is `± mantissa · 2^exponent`. Reading a
decimal rounds it to the nearest such number, a tie to the even mantissa.
-/

namespace WorkflowDocs

inductive Binary64
  | finite (negative : Bool) (mantissa : Nat) (exponent : Int)
  | infinity (negative : Bool)
  | nan
  deriving DecidableEq, Repr

namespace Binary64

def leastExponent : Int := -1074

def zero (negative : Bool) : Binary64 := finite negative 0 leastExponent

/-- `numerator / denominator` rounded to a natural number, a tie to the even one. -/
def roundQuotient (numerator denominator : Nat) : Nat :=
  let quotient := numerator / denominator
  let double := 2 * (numerator % denominator)
  if double < denominator then quotient
  else if double = denominator && quotient % 2 = 0 then quotient
  else quotient + 1

/-- `numerator / (denominator · 2^exponent)` as a fraction of natural numbers. -/
def scaled (numerator denominator : Nat) (exponent : Int) : Nat × Nat :=
  match exponent with
  | .ofNat n => (numerator, denominator * Nat.pow 2 n)
  | .negSucc n => (numerator * Nat.pow 2 (n + 1), denominator)

/-- The number nearest to `numerator / denominator`, which is positive. -/
def ofFraction (negative : Bool) (numerator denominator : Nat) : Binary64 :=
  let guess : Int := numerator.log2 - denominator.log2 - 52
  let (n, d) := scaled numerator denominator guess
  let exponent := max leastExponent (if n / d < Nat.pow 2 52 then guess - 1 else guess)
  let (n, d) := scaled numerator denominator exponent
  let mantissa := roundQuotient n d
  let (mantissa, exponent) :=
    if mantissa = Nat.pow 2 53 then (Nat.pow 2 52, exponent + 1) else (mantissa, exponent)
  if exponent > 971 then infinity negative else finite negative mantissa exponent

/-- The number nearest to `± digits · 10^exponent`. Far outside the format's range the answer is
known without computing the power. -/
def ofDecimal (negative : Bool) (digits : Nat) (exponent : Int) : Binary64 :=
  if digits = 0 then zero negative
  else
    let magnitude : Int := (Nat.toDigits 10 digits).length + exponent
    if magnitude > 310 then infinity negative
    else if magnitude < -330 then zero negative
    else match exponent with
      | .ofNat n => ofFraction negative (digits * Nat.pow 10 n) 1
      | .negSucc n => ofFraction negative digits (Nat.pow 10 (n + 1))

def isFinite : Binary64 → Bool
  | finite .. => true
  | _ => false

/-- Equality of values: the two zeros are equal, and a number that is not a number equals itself. -/
def sameValue : Binary64 → Binary64 → Bool
  | finite _ 0 _, finite _ 0 _ => true
  | x, y => x = y

example : ofDecimal false 1 (-1) = finite false 7205759403792794 (-56) := by decide +kernel
example : ofDecimal true 5 (-324) = finite true 1 (-1074) := by decide +kernel
example : ofDecimal false 2 308 = infinity false := by decide +kernel

end Binary64

end WorkflowDocs
