import PlayerRegistry.Number.Binary64

/-!
# Shortest decimal text

A double is written with as few digits as read back as the same double; of several such numbers
the one nearest to it is taken. All digits are written out, without an exponent.
-/

namespace PlayerRegistry.Binary64

/-- The numbers that are nearest to a double: those between `low` and `high` in parts of
`2 ^ unit`, with the ends if `closed`. The double itself is `middle`. -/
structure Around where
  low : Nat
  middle : Nat
  high : Nat
  unit : Int
  closed : Bool

/-- Below a power of two the next double is only half as far away. -/
def around (mantissa : Nat) (exponent : Int) : Around where
  low := if mantissa = fractionBound ∧ exponent ≠ leastExponent then 4 * mantissa - 1
    else 4 * mantissa - 2
  middle := 4 * mantissa
  high := 4 * mantissa + 2
  unit := exponent - 2
  closed := mantissa % 2 = 0

/-- The whole number of parts of `2 ^ unit` and the divisor that make `count * 10 ^ place`
comparable with `parts * 2 ^ unit`: both sides are multiplied up to whole numbers. -/
def sides (count : Nat) (place : Int) (parts : Nat) (unit : Int) : Nat × Nat :=
  ((count * tenTo place.toNat) <<< (-unit).toNat, (parts <<< unit.toNat) * tenTo (-place).toNat)

/-- Whether `count * 10 ^ place` reads back as the double. -/
def Around.holds (a : Around) (count : Nat) (place : Int) : Bool :=
  let (x, low) := sides count place a.low a.unit
  let (y, high) := sides count place a.high a.unit
  if a.closed then low ≤ x && y ≤ high else low < x && y < high

/-- The decimal place in front of the first digit: the number is below `10 ^ place` and not below
a tenth of that. -/
def leadingPlace (num den : Nat) : Int :=
  if den ≤ num then digitCount (num / den)
  else 1 - digitCount ((den + num - 1) / num - 1)

/-- The number with decimal place `place` that reads back as the double, if there is one. -/
def Around.atPlace? (a : Around) (place : Int) : Option Nat :=
  let (unitSide, middle) := sides 1 place a.middle a.unit
  let below := middle / unitSide
  let nearer := if 2 * (middle % unitSide) < unitSide then below else below + 1
  let other := if nearer = below then below + 1 else below
  if a.holds nearer place then some nearer
  else if a.holds other place then some other
  else none

/-- The digits, and the place of the last one, with `count` digits or more. -/
def Around.search (a : Around) (leading : Int) (count : Nat) : Nat → Nat × Int
  | 0 => (a.middle, 0)
  | fuel + 1 =>
    match a.atPlace? (leading - count) with
    | some digits => (digits, leading - count)
    | none => a.search leading (count + 1) fuel

/-- The digits and the place of the last one; seventeen digits are always enough. A number a little
below a power of ten may read back from that power. -/
def shortest (mantissa : Nat) (exponent : Int) : Nat × Int :=
  let (n, d) := ratio mantissa exponent
  let (digits, place) := (around mantissa exponent).search (leadingPlace n d) 1 17
  if digits = 10 then (1, place + 1) else (digits, place)

/-- The text of `digits * 10 ^ place`. -/
def positional (digits : Nat) (place : Int) : List Char :=
  let text := Nat.toDigits 10 digits
  if 0 ≤ place then text ++ List.replicate place.toNat '0'
  else
    let fraction := place.natAbs
    let padded := List.replicate (fraction + 1 - text.length) '0' ++ text
    padded.take (padded.length - fraction) ++ '.' :: padded.drop (padded.length - fraction)

def toText (x : Binary64) : String :=
  match x.value with
  | .nan => "NaN"
  | .infinite negative => if negative then "-inf" else "inf"
  | .finite negative mantissa exponent =>
    let text := if mantissa = 0 then ['0'] else
      let (digits, place) := shortest mantissa exponent
      positional digits place
    String.ofList (if negative then '-' :: text else text)

end PlayerRegistry.Binary64
