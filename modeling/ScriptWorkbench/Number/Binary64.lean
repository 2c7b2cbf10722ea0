/-!
# Double-precision numbers

The numbers of the binary64 format, held exactly: a finite one is a signed
integer times a power of two. Rounding a ratio is done in integer arithmetic.
-/

namespace ScriptWorkbench.Number

/-- The quotient rounded to the nearest integer, a tie to the even one. -/
def roundHalfEven (numerator denominator : Nat) : Nat :=
  let quotient := numerator / denominator
  let twice := 2 * (numerator % denominator)
  if denominator < twice || (twice = denominator && quotient % 2 = 1) then quotient + 1
  else quotient

example : (roundHalfEven 5 2, roundHalfEven 7 2) = (2, 4) := by decide

/-- A finite number is `significand · 2 ^ exponent`, with a significand below
`2 ^ 53` that reaches `2 ^ 52` unless the exponent is the least one, -1074. -/
inductive Binary64 where
  | finite (negative : Bool) (significand : Nat) (exponent : Int)
  | infinite (negative : Bool)
  | nan
  deriving DecidableEq

namespace Binary64

def leastExponent : Int := -1074

def greatestExponent : Int := 971

/-- The bound of all significands, `2 ^ 53`. -/
def significandLimit : Nat := 0x20000000000000

/-- The least significand of a number whose exponent is not the least one. -/
def leastNormal : Nat := 0x10000000000000

def zero (negative : Bool) : Binary64 := .finite negative 0 leastExponent

/-- The greatest integer whose power of two is at most the ratio. -/
private def floorLog2 (numerator denominator : Nat) : Int :=
  let estimate : Int := (numerator.log2 : Int) - denominator.log2
  let reached :=
    if 0 ≤ estimate then decide (denominator * Nat.pow 2 estimate.toNat ≤ numerator)
    else decide (denominator ≤ numerator * Nat.pow 2 (-estimate).toNat)
  if reached then estimate else estimate - 1

/-- The number nearest to a ratio of positive integers. A ratio beyond the
greatest finite number rounds to infinity. -/
def ofRatio (negative : Bool) (numerator denominator : Nat) : Binary64 :=
  let exponent := max (floorLog2 numerator denominator - 52) leastExponent
  let rounded :=
    if 0 ≤ exponent then roundHalfEven numerator (denominator * Nat.pow 2 exponent.toNat)
    else roundHalfEven (numerator * Nat.pow 2 (-exponent).toNat) denominator
  let (significand, exponent) :=
    if rounded = significandLimit then (leastNormal, exponent + 1) else (rounded, exponent)
  if greatestExponent < exponent then .infinite negative
  else .finite negative significand exponent

/-- How far a power of ten may lie from 1 and still be rounded by arithmetic.
Everything further out is infinite or zero. -/
private def powerRange : Int := 400

/-- The number nearest to `digits · 10 ^ exponent`. -/
def ofDecimal (negative : Bool) (digits : Nat) (exponent : Int) : Binary64 :=
  let magnitude := exponent + (Nat.toDigits 10 digits).length
  if digits = 0 || magnitude < -powerRange then zero negative
  else if powerRange < magnitude then .infinite negative
  else if 0 ≤ exponent then ofRatio negative (digits * Nat.pow 10 exponent.toNat) 1
  else ofRatio negative digits (Nat.pow 10 (-exponent).toNat)

example : ofDecimal false 5 (-1) = .finite false leastNormal (-53) := by decide +kernel

/-- Positive numbers are those above zero; neither zero nor a NaN is one. -/
def isPositive : Binary64 → Bool
  | .finite negative significand _ => !negative && significand != 0
  | .infinite negative => !negative
  | .nan => false

end Binary64

end ScriptWorkbench.Number
