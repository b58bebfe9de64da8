/-!
# UTF-8

Bytes are cut into characters and into pieces that are no part of one. A piece is as long as the
beginning of some character that it spells, and one byte otherwise.
-/

namespace PlayerRegistry.Utf8

def encode (cs : List Char) : List UInt8 := cs.flatMap String.utf8EncodeChar

/-- The scalar value that the bits of the bytes spell. -/
def scalar? (n : Nat) : Option Char :=
  if h : n.isValidChar then some (Char.ofNatAux n h) else none

/-- Whether the byte goes on with a character. -/
def isContinuation (b : UInt8) : Bool := 0x80 ≤ b && b ≤ 0xbf

/-- Which second bytes can follow a first one of a character with three bytes. -/
def fitsSecondOfThree (first second : UInt8) : Bool :=
  isContinuation second && (first != 0xe0 || 0xa0 ≤ second) && (first != 0xed || second ≤ 0x9f)

/-- Which second bytes can follow a first one of a character with four bytes. -/
def fitsSecondOfFour (first second : UInt8) : Bool :=
  isContinuation second && (first != 0xf0 || 0x90 ≤ second) && (first != 0xf4 || second ≤ 0x8f)

def low (b : UInt8) : Nat := b.toNat % 64

/-- The characters in the bytes; a piece that is no character is `none`. -/
def pieces : List UInt8 → List (Option Char)
  | [] => []
  | a :: rest =>
    if a < 0x80 then scalar? a.toNat :: pieces rest
    else if 0xc2 ≤ a ∧ a ≤ 0xdf then
      match rest with
      | b :: rest =>
        if isContinuation b then scalar? (a.toNat % 32 * 64 + low b) :: pieces rest
        else none :: pieces (b :: rest)
      | [] => [none]
    else if 0xe0 ≤ a ∧ a ≤ 0xef then
      match rest with
      | b :: rest =>
        if fitsSecondOfThree a b then
          match rest with
          | c :: rest =>
            if isContinuation c then
              scalar? ((a.toNat % 16 * 64 + low b) * 64 + low c) :: pieces rest
            else none :: pieces (c :: rest)
          | [] => [none]
        else none :: pieces (b :: rest)
      | [] => [none]
    else if 0xf0 ≤ a ∧ a ≤ 0xf4 then
      match rest with
      | b :: rest =>
        if fitsSecondOfFour a b then
          match rest with
          | c :: rest =>
            if isContinuation c then
              match rest with
              | d :: rest =>
                if isContinuation d then
                  scalar? (((a.toNat % 8 * 64 + low b) * 64 + low c) * 64 + low d) :: pieces rest
                else none :: pieces (d :: rest)
              | [] => [none]
            else none :: pieces (c :: rest)
          | [] => [none]
        else none :: pieces (b :: rest)
      | [] => [none]
    else none :: pieces rest

/-- The characters, if the bytes spell nothing else. -/
def decode? (bytes : List UInt8) : Option (List Char) := (pieces bytes).mapM id

/-- The characters, with the replacement character for every other piece. -/
def decodeLossy (bytes : List UInt8) : List Char := (pieces bytes).map fun p => p.getD '\ufffd'

end PlayerRegistry.Utf8
