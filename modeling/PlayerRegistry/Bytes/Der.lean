/-!
# DER

Elements of a tag, a length and a content, in the one way in which they may be written.
-/

namespace PlayerRegistry.Der

structure Element where
  tag : UInt8
  content : List UInt8
  deriving DecidableEq

namespace Tag

def integer : UInt8 := 0x02
def bitString : UInt8 := 0x03
def octetString : UInt8 := 0x04
def null : UInt8 := 0x05
def objectId : UInt8 := 0x06
def sequence : UInt8 := 0x30

/-- Whether the tag has a meaning of its context, and its number there. -/
def contextNumber? (tag : UInt8) : Option Nat :=
  if tag.toNat / 64 = 2 ∧ tag.toNat % 32 ≠ 31 then some (tag.toNat % 32) else none

end Tag

/-- The number that bytes stand for, most significant byte first. -/
def number (bytes : List UInt8) : Nat := bytes.foldl (fun n b => 256 * n + b.toNat) 0

/-- The bytes of a number, without leading zeros. -/
def bytesOf (n : Nat) : List UInt8 :=
  if _h : n = 0 then [] else bytesOf (n / 256) ++ [UInt8.ofNat (n % 256)]
termination_by n
decreasing_by omega

/-- Reads a length; a long form has to be needed, and as short as can be. -/
def length? : List UInt8 → Option (Nat × List UInt8)
  | [] => none
  | first :: rest =>
    if first < 0x80 then some (first.toNat, rest)
    else
      let count := first.toNat - 0x80
      let digits := rest.take count
      let n := number digits
      if count = 0 ∨ 4 < count ∨ digits.length < count ∨ digits.head? = some 0 ∨ n < 128 then none
      else some (n, rest.drop count)

def element? : List UInt8 → Option (Element × List UInt8)
  | [] => none
  | tag :: rest => do
    let (length, rest) ← length? rest
    let content := rest.take length
    if content.length < length then none
    return (⟨tag, content⟩, rest.drop length)

/-- The content of the element that comes next, which has to have this tag. -/
def expect? (tag : UInt8) (bytes : List UInt8) : Option (List UInt8 × List UInt8) := do
  let (e, rest) ← element? bytes
  if e.tag = tag then some (e.content, rest) else none

/-- The content of an element after which nothing follows. -/
def only? (tag : UInt8) (bytes : List UInt8) : Option (List UInt8) := do
  let (content, rest) ← expect? tag bytes
  if rest = [] then some content else none

/-- The value of an integer that is not negative. -/
def natural? (bytes : List UInt8) : Option (Nat × List UInt8) := do
  let (content, rest) ← expect? Tag.integer bytes
  match content with
  | [] => none
  | [0] => some (0, rest)
  | 0 :: next :: more => if next < 0x80 then none else some (number (next :: more), rest)
  | first :: more => if 0x80 ≤ first then none else some (number (first :: more), rest)

def writeLength (n : Nat) : List UInt8 :=
  if n < 128 then [UInt8.ofNat n]
  else UInt8.ofNat (128 + (bytesOf n).length) :: bytesOf n

def write (tag : UInt8) (content : List UInt8) : List UInt8 :=
  tag :: (writeLength content.length ++ content)

def writeNatural (n : Nat) : List UInt8 :=
  match bytesOf n with
  | [] => write Tag.integer [0]
  | first :: more =>
    write Tag.integer (if 0x80 ≤ first then 0 :: first :: more else first :: more)

end PlayerRegistry.Der
