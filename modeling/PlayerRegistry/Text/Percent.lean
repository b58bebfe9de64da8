import PlayerRegistry.Bytes.Hex
import PlayerRegistry.Text.Utf8

/-!
# Percent encoding

A byte that may not stand for itself is written as a percent sign and two upper-case hexadecimal
digits.
-/

namespace PlayerRegistry.Percent

def isAscii (c : Char) : Bool := c.toNat < 128

def encodeByte (b : UInt8) : List Char := '%' :: (Hex.ofByte b).map Char.toUpper

/-- Characters that `keep` holds of stay, all others and all beyond ASCII are encoded. -/
def encodeChar (keep : Char → Bool) (c : Char) : List Char :=
  if isAscii c && keep c then [c] else (String.utf8EncodeChar c).flatMap encodeByte

def encode (keep : Char → Bool) (cs : List Char) : List Char := cs.flatMap (encodeChar keep)

/-- Letters, digits and four signs, which mean themselves in every part of a URL. -/
def isUnreserved (c : Char) : Bool :=
  ('a' ≤ c && c ≤ 'z') || ('A' ≤ c && c ≤ 'Z') || ('0' ≤ c && c ≤ '9')
    || c == '-' || c == '_' || c == '.' || c == '~'

/-- A text as one part of a URL. -/
def encodeComponent (s : String) : String := String.ofList (encode isUnreserved s.toList)

def hexPair? (hi lo : UInt8) : Option UInt8 := do
  let h ← Hex.digitValue? (Char.ofNat hi.toNat)
  let l ← Hex.digitValue? (Char.ofNat lo.toNat)
  return UInt8.ofNat (16 * h + l)

/-- Undoes the encoding; a percent sign without two digits after it stays. -/
def decodeBytes : List UInt8 → List UInt8
  | [] => []
  | [a] => [a]
  | [a, b] => [a, b]
  | a :: b :: c :: rest =>
    if a = 0x25 then
      match hexPair? b c with
      | some byte => byte :: decodeBytes rest
      | none => a :: decodeBytes (b :: c :: rest)
    else a :: decodeBytes (b :: c :: rest)

end PlayerRegistry.Percent
