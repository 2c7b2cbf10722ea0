import ScriptWorkbench.Number.Binary64

/-!
# Shortest decimals

The decimal with the fewest digits that reads back as a given number. Every
decimal between the midpoints to the two neighbouring numbers reads back; the
midpoints themselves do if the significand is even.
-/

namespace ScriptWorkbench.Number

/-- The positive decimal `d₁.d₂d₃… · 10 ^ exponent` with the given digits. -/
structure ScientificDecimal where
  digits : List Char
  exponent : Int

/-- The decimals that read back as one number, each bound and the number
itself over the common denominator. -/
structure ReadingInterval where
  low : Nat
  value : Nat
  high : Nat
  denominator : Nat
  closed : Bool

namespace ReadingInterval

/-- In quarters of the last place, a neighbour's midpoint lies two away, except
below a power of two, where the numbers are twice as dense. -/
def ofFinite (significand : Nat) (exponent : Int) : ReadingInterval :=
  let dense := significand = Binary64.leastNormal && exponent != Binary64.leastExponent
  let low := 4 * significand - (if dense then 1 else 2)
  let high := 4 * significand + 2
  let shift := exponent - 2
  let closed := significand % 2 = 0
  if 0 ≤ shift then
    let factor := Nat.pow 2 shift.toNat
    ⟨low * factor, 4 * significand * factor, high * factor, 1, closed⟩
  else ⟨low, 4 * significand, high, Nat.pow 2 (-shift).toNat, closed⟩

/-- Whether the ratio of `numerator` to the interval's denominator reads back. -/
def holds (interval : ReadingInterval) (numerator : Nat) : Bool :=
  if interval.closed then interval.low ≤ numerator && numerator ≤ interval.high
  else interval.low < numerator && numerator < interval.high

/-- The exponent of ten of the leading digit of the value. -/
def leadingExponent (interval : ReadingInterval) : Int :=
  if interval.denominator ≤ interval.value then
    ((Nat.toDigits 10 (interval.value / interval.denominator)).length : Int) - 1
  else -((Nat.toDigits 10 ((interval.denominator - 1) / interval.value)).length : Int)

/-- The multiple of `10 ^ place` nearest to the value among those that read
back, as a multiplier. Only the two multiples next to the value can be it. -/
def nearestAt? (interval : ReadingInterval) (place : Int) : Option Nat :=
  let (scaled, unit) :=
    if 0 ≤ place then (fun number => number, interval.denominator * Nat.pow 10 place.toNat)
    else (fun number => number * Nat.pow 10 (-place).toNat, interval.denominator)
  let scaledInterval : ReadingInterval :=
    ⟨scaled interval.low, scaled interval.value, scaled interval.high, 1, interval.closed⟩
  let below := scaledInterval.value / unit
  let above := below + 1
  match scaledInterval.holds (below * unit), scaledInterval.holds (above * unit) with
  | false, false => none
  | true, false => some below
  | false, true => some above
  | true, true => some (roundHalfEven scaledInterval.value unit)

/-- Tries ever more digits, up to the seventeen that always suffice. -/
def shortestFrom (interval : ReadingInterval) (leading : Int) :
    (digitCount remaining : Nat) → ScientificDecimal
  | digitCount, remaining =>
    let place := leading - digitCount + 1
    match interval.nearestAt? place, remaining with
    | some multiplier, _ =>
      let digits := Nat.toDigits 10 multiplier
      let kept := (digits.reverse.dropWhile (· = '0')).reverse
      ⟨kept, place + digits.length - 1⟩
    | none, 0 => ⟨['0'], 0⟩
    | none, remaining + 1 => interval.shortestFrom leading (digitCount + 1) remaining

end ReadingInterval

/-- The shortest decimal of `significand · 2 ^ exponent`, which is positive. -/
def shortestDecimal (significand : Nat) (exponent : Int) : ScientificDecimal :=
  let interval := ReadingInterval.ofFinite significand exponent
  interval.shortestFrom interval.leadingExponent 1 16

namespace Binary64

/-- Writes the digits without exponent from `10 ^ -4` up to below `10 ^ 16`,
always with a fraction, and otherwise with an exponent of two digits or more. -/
private def layOut (decimal : ScientificDecimal) : String :=
  let digits := decimal.digits
  if decimal.exponent < -4 || 16 ≤ decimal.exponent then
    let fraction := if digits.length ≤ 1 then [] else '.' :: digits.drop 1
    let sign := if decimal.exponent < 0 then '-' else '+'
    let exponent := (Nat.toDigits 10 decimal.exponent.natAbs).leftpad 2 '0'
    String.ofList (digits.take 1 ++ fraction ++ ['e', sign] ++ exponent)
  else if decimal.exponent < 0 then
    let zeros := List.replicate (decimal.exponent.natAbs - 1) '0'
    String.ofList (['0', '.'] ++ zeros ++ digits)
  else
    let whole := decimal.exponent.toNat + 1
    let fraction := if digits.length ≤ whole then ['0'] else digits.drop whole
    String.ofList ((digits.take whole).rightpad whole '0' ++ '.' :: fraction)

/-- The shortest text that reads back as the number. -/
def text : Binary64 → String
  | .nan => "nan"
  | .infinite negative => if negative then "-inf" else "inf"
  | .finite negative significand exponent =>
    let magnitude :=
      if significand = 0 then "0.0" else layOut (shortestDecimal significand exponent)
    if negative then "-" ++ magnitude else magnitude

example : (ofDecimal false 30000000000000004 (-17)).text = "0.30000000000000004" := by
  decide +kernel

example : (ofDecimal true 1 16).text = "-1e+16" := by decide +kernel

end Binary64

end ScriptWorkbench.Number
