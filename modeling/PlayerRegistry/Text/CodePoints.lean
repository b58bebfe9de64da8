/-!
# Sets of code points

A set is a list of closed ranges. Tables of a character property are written as text, a range
`a-b` or a single code point per word, in hexadecimal.
-/

namespace PlayerRegistry

structure CodePoints where
  ranges : List (Nat × Nat)
  deriving Inhabited

namespace CodePoints

def hexValue (c : Char) : Nat :=
  if c.isDigit then c.toNat - '0'.toNat
  else if 'a' ≤ c ∧ c ≤ 'f' then c.toNat - 'a'.toNat + 10
  else if 'A' ≤ c ∧ c ≤ 'F' then c.toNat - 'A'.toNat + 10
  else 0

/-- Reader of the written form: the ranges read so far, the start of the range being read if a
dash has been seen, and the number being read. -/
structure Reading where
  ranges : List (Nat × Nat)
  start : Option Nat
  number : Nat

def Reading.step (r : Reading) (c : Char) : Reading :=
  if c = '-' then { r with start := some r.number, number := 0 }
  else if c = ' ' then
    { ranges := (r.start.getD r.number, r.number) :: r.ranges, start := none, number := 0 }
  else { r with number := 16 * r.number + hexValue c }

/-- The set written on the lines, for instance `["7f-9f", "ad 378-379"]`. -/
def ofLines (lines : List String) : CodePoints :=
  let text := (" ".intercalate lines).toList
  let last := (text.foldl Reading.step ⟨[], none, 0⟩).step ' '
  ⟨last.ranges.reverse⟩

def contains (s : CodePoints) (c : Nat) : Bool :=
  s.ranges.any fun r => r.1 ≤ c && c ≤ r.2

def empty : CodePoints := ⟨[]⟩

def single (c : Char) : CodePoints := ⟨[(c.toNat, c.toNat)]⟩

def union (s t : CodePoints) : CodePoints := ⟨s.ranges ++ t.ranges⟩

def greatest : Nat := 0x10ffff

/-- The ranges between sorted ranges, from `start` on. -/
def gaps : (start : Nat) → List (Nat × Nat) → List (Nat × Nat)
  | start, [] => if start ≤ greatest then [(start, greatest)] else []
  | start, (a, b) :: rest =>
    if start < a then (start, a - 1) :: gaps (max start (b + 1)) rest
    else gaps (max start (b + 1)) rest

/-- The code points that are not in the set. -/
def complement (s : CodePoints) : CodePoints :=
  ⟨gaps 0 (s.ranges.mergeSort fun a b => a.1 ≤ b.1)⟩

def inter (s t : CodePoints) : CodePoints := (s.complement.union t.complement).complement

def diff (s t : CodePoints) : CodePoints := s.inter t.complement

def symmDiff (s t : CodePoints) : CodePoints := (s.diff t).union (t.diff s)

end CodePoints

end PlayerRegistry
