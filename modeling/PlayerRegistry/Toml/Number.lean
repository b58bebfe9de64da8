import PlayerRegistry.Bytes.Hex
import PlayerRegistry.Number.Binary64
import PlayerRegistry.Text.Decimal
import PlayerRegistry.Text.Scan
import PlayerRegistry.Toml.Value

/-!
# Numbers and dates of TOML
-/

namespace PlayerRegistry.Toml.Number

def isDigitOf (base : Nat) (c : Char) : Bool := (Hex.digitValue? c).any (· < base)

def valueOf (base : Nat) (digits : List Char) : Nat :=
  digits.foldl (fun n c => base * n + (Hex.digitValue? c).getD 0) 0

/-- Digits, where an underscore may stand between two of them. -/
def digits (base : Nat) : Scan (List Char) := do
  let first ← Scan.satisfy (isDigitOf base)
  let rest ← Scan.many (do
    let _ ← Scan.optional (Scan.char '_')
    Scan.satisfy (isDigitOf base))
  return first :: rest

/-- Whether a minus sign stands here; a plus sign is read as well. -/
def sign : Scan Bool := do
  match ← Scan.optional (Scan.satisfy fun c => c == '+' || c == '-') with
  | some c => return c == '-'
  | none => return false

/-- Decimal digits without leading zeros. -/
def decimal : Scan (List Char) := do
  (do Scan.char '0'; return ['0']) <|> digits 10

/-- Two to the power of 63. -/
def integerBound : Int := 0x8000000000000000

def inRange (n : Int) : Scan Value :=
  if -integerBound ≤ n ∧ n < integerBound then return .integer n else failure

/-- A number in base 16, 8 or 2; it has no sign. -/
def based (mark : Char) (base : Nat) : Scan Value := do
  Scan.text ['0', mark]
  inRange (valueOf base (← digits base))

def integer : Scan Value :=
  based 'x' 16 <|> based 'o' 8 <|> based 'b' 2 <|> do
    let negative ← sign
    let n : Int := valueOf 10 (← decimal)
    inRange (if negative then -n else n)

def exponent : Scan Int := do
  let _ ← Scan.satisfy fun c => c == 'e' || c == 'E'
  let negative ← sign
  let n : Int := valueOf 10 (← digits 10)
  return if negative then -n else n

/-- A number with a fraction, an exponent or both. One that is too large is refused, unless it is
negative: that is infinite. -/
def fractional : Scan Value := do
  let negative ← sign
  let whole ← decimal
  let (fraction, e) ← (do return ([], ← exponent)) <|> do
    Scan.char '.'
    let fraction ← digits 10
    let e ← Scan.optional exponent
    return (fraction, e.getD 0)
  let x := Binary64.ofDecimal negative (valueOf 10 (whole ++ fraction)) (e - fraction.length)
  if x = .infinity false then failure
  return .float x

def special : Scan Value := do
  let negative ← sign
  (do Scan.text ['i', 'n', 'f']; return .float (.infinity negative)) <|> do
    Scan.text ['n', 'a', 'n']
    return .float (.nan negative)

def float : Scan Value := fractional <|> special

/-- A number of exactly `n` digits between `least` and `greatest`. -/
def fixed (n least greatest : Nat) : Scan Nat := do
  let value := valueOf 10 (← Scan.exactly Text.isDigit n)
  if least ≤ value ∧ value ≤ greatest then return value else failure

def daysOf (year month : Nat) : Nat :=
  if month = 2 then (if year % 4 = 0 ∧ (year % 100 ≠ 0 ∨ year % 400 = 0) then 29 else 28)
  else if month = 4 ∨ month = 6 ∨ month = 9 ∨ month = 11 then 30
  else 31

def date : Scan Unit := do
  let year ← fixed 4 0 9999
  Scan.char '-'
  let month ← fixed 2 1 12
  Scan.char '-'
  let _ ← fixed 2 1 (daysOf year month)

def clock : Scan Unit := do
  let _ ← fixed 2 0 23
  Scan.char ':'
  let _ ← fixed 2 0 59
  Scan.char ':'
  let _ ← fixed 2 0 60
  let _ ← Scan.optional (do
    Scan.char '.'
    Scan.run1 Text.isDigit)

def offset : Scan Unit :=
  (do let _ ← Scan.satisfy fun c => c == 'Z' || c == 'z') <|> do
    let _ ← Scan.satisfy fun c => c == '+' || c == '-'
    let _ ← fixed 2 0 23
    Scan.char ':'
    let _ ← fixed 2 0 59

/-- A date, a time, or both; an offset stands only after both. -/
def datetime : Scan Value := do
  (do
    date
    let _ ← Scan.optional (do
      let _ ← Scan.satisfy fun c => c == 'T' || c == 't' || c == ' '
      clock
      Scan.optional offset)) <|> clock
  return .datetime

end PlayerRegistry.Toml.Number
