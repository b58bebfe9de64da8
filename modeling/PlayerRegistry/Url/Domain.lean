import PlayerRegistry.Net.Address
import PlayerRegistry.Text.Composed
import PlayerRegistry.Text.Punycode
import PlayerRegistry.Unicode.Direction
import PlayerRegistry.Unicode.HostMapping
import PlayerRegistry.Unicode.Joining

/-!
# Domain names

A name is brought into one form: small letters, composed characters, and labels that go beyond
ASCII in Punycode. Names with characters or orders of characters that could be mistaken are
refused.
-/

namespace PlayerRegistry.Domain

def isAsciiText (cs : List Char) : Bool := cs.all fun c => c.toNat < 128

/-- What a character becomes; none if it cannot stand in a name. -/
def mapChar? (c : Char) : Option (List Char) :=
  if c.toNat < 128 then some [c.toLower]
  else match Unicode.mappedInHosts? c.toNat with
    | some target => some (target.map Char.ofNat)
    | none => if Unicode.isDisallowedInHosts c.toNat then none else some [c]

def map? (cs : List Char) : Option (List Char) := (cs.mapM mapChar?).map List.flatten

/-- Characters that have a meaning of their own around a name. -/
def isForbidden (c : Char) : Bool :=
  c.toNat ≤ 0x20 || c == '\x7f'
    || "%#/:<>?@[\\]^|".toList.contains c

def marks : CodePoints := (Unicode.category? "m").getD .empty

/-- A character that joins the letters around it, or keeps them apart. -/
def isJoiner (c : Char) : Bool := c == '\u200c' || c == '\u200d'

/-- The class of signs that take away a vowel. -/
def viramaClass : Nat := 9

/-- Whether a joiner is allowed where it stands. -/
def joinerFits (before : List Char) (joiner : Char) (after : List Char) : Bool :=
  let open_ (cs : List Char) : Option Nat :=
    ((cs.map Char.toNat).dropWhile Unicode.isTransparent).head?
  (before.head?.any fun c => Unicode.combiningClass c.toNat == viramaClass)
    || (joiner == '\u200c' && (open_ before).any Unicode.joinsWithNext
      && (open_ after).any Unicode.joinsWithPrevious)

/-- Whether all joiners of a label fit; `before` is the text before in reverse. -/
def joinersFit : (before : List Char) → List Char → Bool
  | _, [] => true
  | before, c :: after =>
    (!isJoiner c || joinerFits before c after) && joinersFit (c :: before) after

/-- Whether a label that is spelt out can stand in a name. -/
def isLabel (cs : List Char) : Bool :=
  !(cs.head?.any fun c => marks.contains c.toNat) && joinersFit [] cs

/-- A label in its form outside of Punycode. -/
def isStable (cs : List Char) : Bool :=
  cs.all (fun c => c.toNat < 128 || ((Unicode.mappedInHosts? c.toNat).isNone
    && !Unicode.isDisallowedInHosts c.toNat)) && Composed.ofChars cs == cs

def punycodeMark : List Char := ['x', 'n', '-', '-']

/-- Longer labels are neither written in Punycode nor read from it. -/
def encodeLimit : Nat := 1000

def decodeLimit : Nat := 2000

/-- A label spelt out, and in ASCII. -/
def label? (cs : List Char) : Option (List Char × List Char) := do
  if cs.take 4 = punycodeMark then
    let code := cs.drop 4
    if !isAsciiText code ∨ decodeLimit < code.length then none
    let plain ← Punycode.decode? code
    if isAsciiText plain ∨ !isStable plain ∨ !isLabel plain then none
    return (plain, cs)
  else if isAsciiText cs then return (cs, cs)
  else if encodeLimit < cs.length ∨ !isLabel cs then none
  else return (cs, punycodeMark ++ Punycode.encode cs)

open Unicode (Direction)

def directions (cs : List Char) : List Direction := cs.map fun c => Unicode.directionOf c.toNat

def isRightToLeft (d : Direction) : Bool :=
  d == .rightToLeft || d == .arabicLetter || d == .arabicNumber

def fitsRightToLeft (ds : List Direction) : Bool :=
  ds.all (· != .leftToRight)
    && (ds.reverse.dropWhile (· == .nonspacingMark)).head?.any (fun d =>
      isRightToLeft d || d == .europeanNumber)
    && !(ds.contains .europeanNumber && ds.contains .arabicNumber)

def fitsLeftToRight (ds : List Direction) : Bool :=
  !ds.any isRightToLeft
    && (ds.reverse.dropWhile (· == .nonspacingMark)).head?.any (fun d =>
      d == .leftToRight || d == .europeanNumber)

/-- Whether a label reads the same way next to others of either direction. -/
def directionFits (cs : List Char) : Bool :=
  match directions cs with
  | [] => true
  | .leftToRight :: ds => fitsLeftToRight (.leftToRight :: ds)
  | .rightToLeft :: ds => fitsRightToLeft (.rightToLeft :: ds)
  | .arabicLetter :: ds => fitsRightToLeft (.arabicLetter :: ds)
  | _ => false

/-- The form of a name in which it is looked up. -/
def toAscii? (cs : List Char) : Option (List Char) := do
  let mapped ← map? cs
  let labels ← (splitAtChar '.' (Composed.ofChars mapped)).mapM label?
  let plain := labels.map Prod.fst
  if plain.any (fun l => (directions l).any isRightToLeft) ∧ !plain.all directionFits then none
  let name := List.intercalate ['.'] (labels.map Prod.snd)
  if name.any isForbidden then none else some name

end PlayerRegistry.Domain
