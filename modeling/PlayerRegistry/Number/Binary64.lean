/-!
# Double-precision numbers

A number of 64 bits: a sign, 11 bits of exponent and 52 bits of fraction. `value` says what it
stands for; `ofRatio` is the double nearest to a quotient, of two equally near ones the one with
an even last bit.
-/

namespace PlayerRegistry

structure Binary64 where
  bits : UInt64
  deriving DecidableEq, Repr, Inhabited

namespace Binary64

/-- What a double stands for; a finite one for `mantissa * 2 ^ exponent`. -/
inductive Value where
  | nan
  | infinite (negative : Bool)
  | finite (negative : Bool) (mantissa : Nat) (exponent : Int)
  deriving DecidableEq, Repr

def signBit : UInt64 := 0x8000000000000000

/-- Two to the power of 52. -/
def fractionBound : Nat := 0x10000000000000

def leastExponent : Int := -1074

def isNegative (x : Binary64) : Bool := signBit ≤ x.bits

def value (x : Binary64) : Value :=
  let exponent := x.bits.toNat / fractionBound % 2048
  let fraction := x.bits.toNat % fractionBound
  if exponent = 2047 then
    if fraction = 0 then .infinite x.isNegative else .nan
  else if exponent = 0 then .finite x.isNegative fraction leastExponent
  else .finite x.isNegative (fractionBound + fraction) (exponent - 1075)

/-- The bits of infinity without a sign. -/
def infiniteBits : Nat := 2047 * fractionBound

/-- The double with this sign and the other bits of `magnitude`. -/
def ofMagnitude (negative : Bool) (magnitude : Nat) : Binary64 :=
  ⟨(if negative then signBit else 0) ||| UInt64.ofNat magnitude⟩

def infinity (negative : Bool) : Binary64 := ofMagnitude negative infiniteBits

def nan (negative : Bool) : Binary64 := ofMagnitude negative (infiniteBits + fractionBound / 2)

/-- The whole number nearest to `num / den`, of two equally near ones the even one. -/
def roundDiv (num den : Nat) : Nat :=
  let q := num / den
  let r := 2 * (num % den)
  if r < den then q
  else if den < r then q + 1
  else q + q % 2

/-- The fraction `num / den` divided by `2 ^ e`. -/
def scale (num den : Nat) (e : Int) : Nat × Nat :=
  if 0 ≤ e then (num, den <<< e.toNat) else (num <<< e.natAbs, den)

/-- The exponent with which the mantissa of `num / den` has 53 binary digits, or the least one. -/
def exponentOf (num den : Nat) : Int :=
  let e : Int := (num.log2 : Int) - den.log2 - 53
  let (n, d) := scale num den e
  max (if n / d < 2 * fractionBound then e else e + 1) leastExponent

def ofRatio (negative : Bool) (num den : Nat) : Binary64 :=
  if num = 0 then ofMagnitude negative 0
  else
    let e := exponentOf num den
    let (n, d) := scale num den e
    let magnitude := (e - leastExponent).toNat * fractionBound + roundDiv n d
    ofMagnitude negative (min magnitude infiniteBits)

def ofNat (n : Nat) : Binary64 := ofRatio false n 1

def ofInt (n : Int) : Binary64 := ofRatio (n < 0) n.natAbs 1

/-- Ten to the power of `n`. -/
def tenTo (n : Nat) : Nat := Nat.pow 10 n

/-- The number of decimal digits of `n`; zero has none. -/
def digitCount (n : Nat) : Nat := if n = 0 then 0 else (Nat.toDigits 10 n).length

/-- The double nearest to `digits * 10 ^ exponent`. Beyond a few hundred places the result is
infinite or zero, whatever the digits are. -/
def ofDecimal (negative : Bool) (digits : Nat) (exponent : Int) : Binary64 :=
  let places : Int := digitCount digits + exponent
  if digits = 0 ∨ places < -400 then ofMagnitude negative 0
  else if 400 < places then infinity negative
  else if 0 ≤ exponent then ofRatio negative (digits * tenTo exponent.toNat) 1
  else ofRatio negative digits (tenTo exponent.natAbs)

/-- The size of a finite double as a fraction. -/
def ratio (mantissa : Nat) (exponent : Int) : Nat × Nat :=
  if 0 ≤ exponent then (mantissa <<< exponent.toNat, 1) else (mantissa, 1 <<< exponent.natAbs)

def isFinite (x : Binary64) : Bool :=
  match x.value with
  | .finite .. => true
  | _ => false

/-- Whether the number is greater than zero. -/
def isPositive (x : Binary64) : Bool :=
  match x.value with
  | .nan => false
  | .infinite negative => !negative
  | .finite negative mantissa _ => !negative && mantissa != 0

/-- One divided by the number. -/
def inverse (x : Binary64) : Binary64 :=
  match x.value with
  | .nan => x
  | .infinite negative => ofMagnitude negative 0
  | .finite negative mantissa exponent =>
    if mantissa = 0 then infinity negative
    else
      let (n, d) := ratio mantissa exponent
      ofRatio negative d n

/-- The smallest whole number that is not below a number greater than zero; none for infinity. -/
def ceil? (x : Binary64) : Option Nat :=
  match x.value with
  | .finite _ mantissa exponent =>
    let (n, d) := ratio mantissa exponent
    some ((n + d - 1) / d)
  | _ => none

end Binary64

end PlayerRegistry
