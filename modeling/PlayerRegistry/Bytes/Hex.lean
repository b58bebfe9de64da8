/-!
# Hexadecimal text

Two lower-case digits per byte. Reading takes either case and refuses an odd digit.
-/

namespace PlayerRegistry.Hex

/-- The digit of a number below sixteen. -/
def digit (n : Nat) : Char :=
  if n < 10 then Char.ofNat ('0'.toNat + n) else Char.ofNat ('a'.toNat + (n - 10))

def digitValue? (c : Char) : Option Nat :=
  if '0' ≤ c ∧ c ≤ '9' then some (c.toNat - '0'.toNat)
  else if 'a' ≤ c ∧ c ≤ 'f' then some (c.toNat - 'a'.toNat + 10)
  else if 'A' ≤ c ∧ c ≤ 'F' then some (c.toNat - 'A'.toNat + 10)
  else none

def ofByte (b : UInt8) : List Char := [digit (b.toNat / 16), digit (b.toNat % 16)]

def ofBytes (bytes : List UInt8) : List Char := bytes.flatMap ofByte

def encode (bytes : ByteArray) : String := String.ofList (ofBytes bytes.toList)

def bytesOf? : List Char → Option (List UInt8)
  | [] => some []
  | [_] => none
  | hi :: lo :: rest => do
    let h ← digitValue? hi
    let l ← digitValue? lo
    let bytes ← bytesOf? rest
    return UInt8.ofNat (16 * h + l) :: bytes

def decode? (text : String) : Option ByteArray :=
  (bytesOf? text.toList).map fun bytes => ⟨bytes.toArray⟩

/-- The digits of a number, at least one and without leading zeros. -/
def ofNat (n : Nat) : String := String.ofList (Nat.toDigits 16 n)

/-- A digit as it is written: no upper case. -/
def isLowerDigit (c : Char) : Bool := ('0' ≤ c && c ≤ '9') || ('a' ≤ c && c ≤ 'f')

end PlayerRegistry.Hex
