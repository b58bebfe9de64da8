import PlayerRegistry.Unicode.Composition

/-!
# Composed form

A text in which combining characters stand in the order of their classes, and in which characters
that can be written as one are one.
-/

namespace PlayerRegistry.Composed

def syllableBase : Nat := 0xac00

def syllableCount : Nat := 11172

def isSyllable (c : Nat) : Bool := syllableBase ≤ c && c < syllableBase + syllableCount

/-- The letters of a syllable: two or three. -/
def letters (c : Nat) : List Nat :=
  let n := c - syllableBase
  let final := if n % 28 = 0 then [] else [0x11a7 + n % 28]
  [0x1100 + n / 588, 0x1161 + n % 588 / 28] ++ final

def composeLetters? (first second : Nat) : Option Nat :=
  if 0x1100 ≤ first ∧ first < 0x1113 ∧ 0x1161 ≤ second ∧ second < 0x1176 then
    some (syllableBase + (first - 0x1100) * 588 + (second - 0x1161) * 28)
  else if isSyllable first ∧ (first - syllableBase) % 28 = 0 ∧ 0x11a7 < second ∧
      second < 0x11c3 then
    some (first + (second - 0x11a7))
  else none

/-- No character is made up in more steps than this. -/
def decompositionDepth : Nat := 4

def decomposeUpTo : Nat → Nat → List Nat
  | 0, c => [c]
  | depth + 1, c =>
    match Unicode.decompose? c with
    | some (first, second) => decomposeUpTo depth first ++ [second]
    | none => [c]

def decompose (c : Nat) : List Nat :=
  if c < 0xc0 then [c]
  else if isSyllable c then letters c
  else decomposeUpTo decompositionDepth c

/-- Puts a combining character in front of those of higher classes at the end of the text, which
is given in reverse. -/
def place (c : Nat) : List Nat → List Nat
  | [] => [c]
  | last :: before =>
    if Unicode.combiningClass c < Unicode.combiningClass last then last :: place c before
    else c :: last :: before

/-- The text with its combining characters in order. -/
def ordered (cs : List Nat) : List Nat :=
  (cs.foldl (fun done c => if Unicode.combiningClass c = 0 then c :: done else place c done)
    []).reverse

/-- Composition so far: the text before the last base character in reverse, that character, and
the combining characters after it in reverse. -/
structure Draft where
  done : List Nat
  base : Option Nat
  marks : List Nat

def Draft.text (d : Draft) : List Nat := d.marks ++ d.base.toList ++ d.done

/-- A character joins the base if no mark of its class or a higher one stands between. -/
def Draft.add (d : Draft) (c : Nat) : Draft :=
  let free := match d.marks with
    | [] => true
    | last :: _ => Unicode.combiningClass last < Unicode.combiningClass c
  let joined := d.base.bind fun b =>
    if free then (composeLetters? b c).or (Unicode.compose? b c) else none
  match joined with
  | some b => { d with base := some b }
  | none =>
    if Unicode.combiningClass c = 0 then ⟨d.text, some c, []⟩
    else { d with marks := c :: d.marks }

def compose (cs : List Nat) : List Nat := (cs.foldl Draft.add ⟨[], none, []⟩).text.reverse

def ofCodes (cs : List Nat) : List Nat := compose (ordered (cs.flatMap decompose))

/-- The composed form of a text. -/
def ofChars (cs : List Char) : List Char :=
  if cs.all fun c => c.toNat < 0xc0 then cs else (ofCodes (cs.map Char.toNat)).map Char.ofNat

end PlayerRegistry.Composed
