import PlayerRegistry.Bytes.Hex

/-!
# UUIDs

A UUID is a number of 128 bits. It is written as 32 lower-case hexadecimal digits in five groups,
and read in four spellings: with dashes, without, in braces, and as a `urn:uuid:` name.
-/

namespace PlayerRegistry

structure Uuid where
  value : BitVec 128
  deriving DecidableEq, Inhabited

namespace Uuid

def hexDigits (u : Uuid) : List Char :=
  (List.range 32).map fun i => Hex.digit ((u.value.toNat >>> (4 * (31 - i))) % 16)

/-- Digits in groups of eight, four, four, four and twelve. -/
def dashed (digits : List Char) : List Char :=
  digits.take 8 ++ '-' :: ((digits.drop 8).take 4 ++ '-' :: ((digits.drop 12).take 4 ++
    '-' :: ((digits.drop 16).take 4 ++ '-' :: digits.drop 20)))

def toText (u : Uuid) : String := String.ofList (dashed u.hexDigits)

/-- The value of exactly 32 digits. -/
def ofDigits? (digits : List Char) : Option Uuid := do
  if digits.length ≠ 32 then none
  let values ← digits.mapM Hex.digitValue?
  return ⟨BitVec.ofNat 128 (values.foldl (fun n d => 16 * n + d) 0)⟩

/-- The digits of a text of 36 characters with dashes at the ends of the groups. -/
def undashed? (cs : List Char) : Option (List Char) :=
  let digits :=
    cs.take 8 ++ (cs.drop 9).take 4 ++ (cs.drop 14).take 4 ++ (cs.drop 19).take 4 ++ cs.drop 24
  if cs.length = 36 ∧ cs = dashed digits then some digits else none

/-- What stands between braces, or after `urn:uuid:` in either case. -/
def unwrapped (cs : List Char) : List Char :=
  if cs.length = 38 ∧ cs.head? = some '\x7b' ∧ cs.getLast? = some '\x7d' then cs.tail.dropLast
  else if cs.length = 45 ∧ (cs.take 9).map Char.toLower = "urn:uuid:".toList then cs.drop 9
  else cs

def ofChars? (cs : List Char) : Option Uuid :=
  if cs.length = 32 then ofDigits? cs
  else (undashed? (unwrapped cs)).bind ofDigits?

def parse? (text : String) : Option Uuid := ofChars? text.toList

/-- A random UUID: the version and variant bits are fixed, the other bits are those of `seed`. -/
def ofRandom (seed : BitVec 128) : Uuid :=
  ⟨(seed &&& ~~~ 0xf000c000000000000000#128) ||| 0x40008000000000000000#128⟩

/-- The text without its dashes. -/
def withoutDashes (text : String) : String := String.ofList (text.toList.filter (· ≠ '-'))

end Uuid

end PlayerRegistry
