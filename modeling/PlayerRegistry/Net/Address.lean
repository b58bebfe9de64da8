import PlayerRegistry.Bytes.Hex
import PlayerRegistry.Text.Decimal

/-!
# Internet addresses

Addresses of version 4 and 6, their usual text, and which of them are public.
-/

namespace PlayerRegistry

/-- An address of version 4 as a number. -/
structure Ipv4 where
  value : BitVec 32
  deriving DecidableEq, Repr, Inhabited

/-- An address of version 6 as a number. -/
structure Ipv6 where
  value : BitVec 128
  deriving DecidableEq, Repr, Inhabited

inductive IpAddress where
  | v4 (a : Ipv4)
  | v6 (a : Ipv6)
  deriving DecidableEq, Repr, Inhabited

/-- The parts of a text between the separators. -/
def splitAtChar (separator : Char) : List Char → List (List Char)
  | [] => [[]]
  | c :: rest =>
    if c = separator then [] :: splitAtChar separator rest
    else match splitAtChar separator rest with
      | part :: parts => (c :: part) :: parts
      | [] => [[c]]

namespace Ipv4

/-- The number that digits to base 256 stand for. -/
def ofOctets (octets : List Nat) : Ipv4 :=
  ⟨BitVec.ofNat 32 (octets.foldl (fun n d => 256 * n + d) 0)⟩

def octets (a : Ipv4) : List Nat :=
  [24, 16, 8, 0].map fun shift => (a.value.toNat >>> shift) % 256

def toText (a : Ipv4) : String := ".".intercalate (a.octets.map fun d => toString d)

/-- A number below 256 without leading zeros. -/
def octet? (digits : List Char) : Option Nat :=
  if digits ≠ [] ∧ digits.all Text.isDigit ∧ digits.length ≤ 3
      ∧ (digits.head? ≠ some '0' ∨ digits.length = 1) ∧ Text.digitsValue digits < 256 then
    some (Text.digitsValue digits)
  else none

/-- Four numbers with points between them. -/
def ofDotted? (cs : List Char) : Option Ipv4 := do
  let octets ← (splitAtChar '.' cs).mapM octet?
  if octets.length = 4 then some (ofOctets octets) else none

end Ipv4

namespace Ipv6

/-- The number that digits to base 65536 stand for. -/
def ofPieces (pieces : List Nat) : Ipv6 :=
  ⟨BitVec.ofNat 128 (pieces.foldl (fun n d => 65536 * n + d) 0)⟩

def pieces (a : Ipv6) : List Nat :=
  (List.range 8).map fun i => (a.value.toNat >>> (112 - 16 * i)) % 65536

/-- One to four hexadecimal digits. -/
def piece? (digits : List Char) : Option Nat :=
  if digits ≠ [] ∧ digits.length ≤ 4 then
    (digits.mapM Hex.digitValue?).map fun values => values.foldl (fun n d => 16 * n + d) 0
  else none

/-- The numbers of the parts; the last part of an address may be one of version 4. -/
def numbers? (isLast : Bool) : List (List Char) → Option (List Nat)
  | [] => some []
  | [part] =>
    if isLast ∧ part.contains '.' then
      (Ipv4.ofDotted? part).map fun a => [a.value.toNat / 65536, a.value.toNat % 65536]
    else (piece? part).map fun n => [n]
  | part :: parts => do
    let n ← piece? part
    let rest ← numbers? isLast parts
    return n :: rest

/-- The parts without the empty one that a double colon leaves in front of the first colon. -/
def dropOuter : List (List Char) → Option (List (List Char))
  | [] :: [] :: parts => some ([] :: parts)
  | [] :: _ => none
  | parts => some parts

/-- Eight numbers with colons between them, where a double colon stands for zeros. -/
def parse? (cs : List Char) : Option Ipv6 := do
  let parts ← dropOuter (splitAtChar ':' cs)
  let parts := (← dropOuter parts.reverse).reverse
  let (before, after) := parts.span (· ≠ [])
  match after with
  | [] =>
    let numbers ← numbers? true before
    if numbers.length = 8 then some (ofPieces numbers) else none
  | _ :: after =>
    let first ← numbers? false before
    let last ← numbers? true after
    let known := first.length + last.length
    if known ≤ 7 then some (ofPieces (first ++ List.replicate (8 - known) 0 ++ last)) else none

/-- The number of zeros in front. -/
def zeros (pieces : List Nat) : Nat := (pieces.takeWhile (· == 0)).length

/-- The place and length of the longest run of zeros, the first of several; `best` is the one
before `place`. -/
def longestZeros : (place : Nat) → (best : Nat × Nat) → List Nat → Nat × Nat
  | _, best, [] => best
  | place, best, p :: rest =>
    let length := zeros (p :: rest)
    longestZeros (place + 1) (if best.2 < length then (place, length) else best) rest

def joinPieces (pieces : List Nat) : String := ":".intercalate (pieces.map Hex.ofNat)

/-- A run of two zeros or more is left out. -/
def toText (a : Ipv6) : String :=
  let (place, length) := longestZeros 0 (0, 0) a.pieces
  if length < 2 then joinPieces a.pieces
  else joinPieces (a.pieces.take place) ++ "::" ++ joinPieces (a.pieces.drop (place + length))

end Ipv6

namespace IpAddress

def toText : IpAddress → String
  | .v4 a => a.toText
  | .v6 a => a.toText

def parse? (text : String) : Option IpAddress :=
  ((Ipv4.ofDotted? text.toList).map .v4).or ((Ipv6.parse? text.toList).map .v6)

end IpAddress

namespace Ipv4
variable (a : Ipv4)

def isUnspecified : Bool := a.octets == [0, 0, 0, 0]

def isLoopback : Bool := [127].isPrefixOf a.octets

def isPrivate : Bool :=
  [10].isPrefixOf a.octets
    || (a.octets.getD 0 0 == 172 && 16 ≤ a.octets.getD 1 0 && a.octets.getD 1 0 ≤ 31)
    || [192, 168].isPrefixOf a.octets

def isLinkLocal : Bool := [169, 254].isPrefixOf a.octets

def isBroadcast : Bool := a.octets == [255, 255, 255, 255]

/-- One of the three networks that are used in documents. -/
def isDocumentation : Bool :=
  [192, 0, 2].isPrefixOf a.octets || [198, 51, 100].isPrefixOf a.octets
    || [203, 0, 113].isPrefixOf a.octets

/-- An address of the network that providers share. -/
def isShared : Bool := a.octets.getD 0 0 == 100 && a.octets.getD 1 0 &&& 0xc0 == 64

def isPublic : Bool :=
  !(a.isLoopback || a.isPrivate || a.isLinkLocal || a.isUnspecified || a.isBroadcast
    || a.isDocumentation || a.isShared)

end Ipv4

namespace Ipv6
variable (a : Ipv6)

def isUnspecified : Bool := a.value == 0

def isLoopback : Bool := a.value == 1

/-- The address of version 4 of which this is the form of version 6. -/
def mapped? : Option Ipv4 :=
  if [0, 0, 0, 0, 0, 0xffff].isPrefixOf a.pieces then some ⟨BitVec.ofNat 32 a.value.toNat⟩ else none

def isLocal : Bool := a.pieces.getD 0 0 &&& 0xfe00 == 0xfc00

def isLinkLocal : Bool := a.pieces.getD 0 0 &&& 0xffc0 == 0xfe80

def isPublic : Bool :=
  match a.mapped? with
  | some v4 => v4.isPublic
  | none => !(a.isLoopback || a.isUnspecified || a.isLocal || a.isLinkLocal)

end Ipv6

def IpAddress.isPublic : IpAddress → Bool
  | .v4 a => a.isPublic
  | .v6 a => a.isPublic

end PlayerRegistry
