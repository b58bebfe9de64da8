/-!
# Decimal numbers in text
-/

namespace PlayerRegistry.Text

def isDigit (c : Char) : Bool := '0' ≤ c && c ≤ '9'

def digitsValue (cs : List Char) : Nat :=
  cs.foldl (fun n c => 10 * n + (c.toNat - '0'.toNat)) 0

/-- A count written as decimal digits, with or without a plus sign, if it is below `bound`. -/
def count? (bound : Nat) (cs : List Char) : Option Nat :=
  let digits := if cs.head? = some '+' then cs.tail else cs
  if digits ≠ [] ∧ digits.all isDigit ∧ digitsValue digits < bound then
    some (digitsValue digits)
  else none

/-- The decimal digits of `n`, filled up with zeros to `width`. -/
def padded (width n : Nat) : String :=
  let digits := Nat.toDigits 10 n
  String.ofList (List.replicate (width - digits.length) '0' ++ digits)

end PlayerRegistry.Text
