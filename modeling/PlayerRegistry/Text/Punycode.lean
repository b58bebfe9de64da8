import PlayerRegistry.Text.Utf8

/-!
# Punycode

A text as letters, digits and dashes: first its ASCII characters, then the places and values of the
others, in the order of their values, as numbers with digits of varying weight.
-/

namespace PlayerRegistry.Punycode

def digit (n : Nat) : Char :=
  if n < 26 then Char.ofNat ('a'.toNat + n) else Char.ofNat ('0'.toNat + (n - 26))

def digitValue? (c : Char) : Option Nat :=
  if 'a' ≤ c ∧ c ≤ 'z' then some (c.toNat - 'a'.toNat)
  else if 'A' ≤ c ∧ c ≤ 'Z' then some (c.toNat - 'A'.toNat)
  else if '0' ≤ c ∧ c ≤ '9' then some (c.toNat - '0'.toNat + 26)
  else none

/-- A digit below this one is the last of its number. -/
def threshold (place bias : Nat) : Nat :=
  if place ≤ bias then 1 else min 26 (place - bias)

/-- Quarters of the delta go into the bias until it is small. -/
def biasLoop (delta bias : Nat) : Nat → Nat
  | 0 => bias
  | fuel + 1 =>
    if 455 < delta then biasLoop (delta / 35) (bias + 36) fuel
    else bias + 36 * delta / (delta + 38)

/-- The bias after a number, given the count of characters up to then. -/
def nextBias (delta count : Nat) (isFirst : Bool) : Nat :=
  let delta := if isFirst then delta / 700 else delta / 2
  let delta := delta + delta / count
  biasLoop delta 0 (delta.log2 + 1)

def numberLoop (bias place value : Nat) : Nat → List Char
  | 0 => []
  | fuel + 1 =>
    let t := threshold place bias
    if value < t then [digit value]
    else digit (t + (value - t) % (36 - t)) ::
      numberLoop bias (place + 36) ((value - t) / (36 - t)) fuel

def writeNumber (bias value : Nat) : List Char := numberLoop bias 36 value (value.log2 + 2)

structure Writing where
  output : List Char
  delta : Nat
  bias : Nat
  handled : Nat

/-- Steps over one character of the text while those of value `n` are written. -/
def Writing.step (basics n : Nat) (w : Writing) (c : Char) : Writing :=
  if c.toNat < n then { w with delta := w.delta + 1 }
  else if c.toNat = n then
    { output := w.output ++ writeNumber w.bias w.delta
      delta := 0
      bias := nextBias w.delta (w.handled + 1) (w.handled = basics)
      handled := w.handled + 1 }
  else w

/-- Writes the characters of each value; `previous` is the next value after the one before. -/
def writeValues (text : List Char) (basics : Nat) : List Nat → Nat → Writing → Writing
  | [], _, w => w
  | n :: values, previous, w =>
    let w := { w with delta := w.delta + (n - previous) * (w.handled + 1) }
    let w := text.foldl (Writing.step basics n) w
    writeValues text basics values (n + 1) { w with delta := w.delta + 1 }

def encode (text : List Char) : List Char :=
  let basic := text.filter fun c => c.toNat < 128
  let values := ((text.filter fun c => 128 ≤ c.toNat).map Char.toNat).mergeSort (· ≤ ·)
  let w := writeValues text basic.length values.eraseDups 128 ⟨[], 0, 72, basic.length⟩
  basic ++ (if basic.isEmpty then [] else ['-']) ++ w.output

/-- Reading so far: the characters, the next value and place, the bias, and the number that is
being read with the place and weight of its next digit. -/
structure Reading where
  output : List Char
  value : Nat
  index : Nat
  bias : Nat
  number : Nat
  place : Nat
  weight : Nat

/-- The end of a number: a character is put into the text. -/
def Reading.insert? (r : Reading) (number : Nat) : Option Reading := do
  let count := r.output.length + 1
  let index := r.index + number
  let value := r.value + index / count
  let c ← Utf8.scalar? value
  return {
    output := r.output.insertIdx (index % count) c
    value := value
    index := index % count + 1
    bias := nextBias number count (r.index = 0)
    number := 0
    place := 36
    weight := 1 }

def Reading.step? (r : Reading) (c : Char) : Option Reading := do
  let d ← digitValue? c
  let number := r.number + d * r.weight
  let t := threshold r.place r.bias
  if d < t then r.insert? number
  else return { r with number := number, place := r.place + 36, weight := r.weight * (36 - t) }

/-- The text before the last dash, and what follows that dash. A dash with nothing before it does
not count. -/
def splitBasic (cs : List Char) : List Char × List Char :=
  match cs.reverse.span (· != '-') with
  | (last, _ :: before) => if before.isEmpty then ([], cs) else (before.reverse, last.reverse)
  | (last, []) => ([], last.reverse)

def decode? (cs : List Char) : Option (List Char) := do
  let (basic, digits) := splitBasic cs
  let r ← digits.foldlM Reading.step? ⟨basic, 128, 0, 72, 0, 36, 1⟩
  if r.place = 36 then some r.output else none

end PlayerRegistry.Punycode
