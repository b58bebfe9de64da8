/-!
# Scanners

A scanner takes what it reads from the front of a text, or fails and leaves the text as it was.
-/

namespace PlayerRegistry

abbrev Scan := StateT (List Char) Option

namespace Scan

/-- The next character, which has to meet `p`. -/
def satisfy (p : Char → Bool) : Scan Char
  | c :: rest => if p c then some (c, rest) else none
  | [] => none

def char (c : Char) : Scan Unit := fun cs => (satisfy (· == c) cs).map fun r => ((), r.2)

/-- Exactly this text. -/
def text : List Char → Scan Unit
  | [] => pure ()
  | c :: rest => do char c; text rest

/-- The longest run of characters that meet `p`. -/
def run (p : Char → Bool) : Scan (List Char) := fun cs => some (cs.span p)

/-- A run of one character or more. -/
def run1 (p : Char → Bool) : Scan (List Char) := do
  let cs ← run p
  if cs.isEmpty then failure
  return cs

/-- Exactly `n` characters that meet `p`. -/
def exactly (p : Char → Bool) : Nat → Scan (List Char)
  | 0 => pure []
  | n + 1 => do
    let c ← satisfy p
    let cs ← exactly p n
    return c :: cs

/-- What the scanner reads, if it succeeds. -/
def optional (s : Scan α) : Scan (Option α) := fun cs =>
  match s cs with
  | some (a, rest) => some (some a, rest)
  | none => some (none, cs)

/-- Succeeds where `s` would, and reads nothing. -/
def ahead (s : Scan α) : Scan Unit := fun cs => (s cs).map fun _ => ((), cs)

def endOfText : Scan Unit := fun cs => if cs.isEmpty then some ((), cs) else none

/-- Items up to the first failure, at most `fuel` of them. -/
def manyUpTo (s : Scan α) : (fuel : Nat) → List Char → List α × List Char
  | 0, cs => ([], cs)
  | fuel + 1, cs =>
    match s cs with
    | some (a, rest) =>
      let (as, rest) := manyUpTo s fuel rest
      (a :: as, rest)
    | none => ([], cs)

/-- Items up to the first failure. Each of them has to read something. -/
def many (s : Scan α) : Scan (List α) := fun cs => some (manyUpTo s cs.length cs)

/-- Items with a separator between them, possibly none. A separator that no item follows is not
read. -/
def separated (item : Scan α) (separator : Scan Unit) : Scan (List α) := do
  match ← optional item with
  | none => return []
  | some first =>
    let rest ← many (do separator; item)
    return first :: rest

/-- What the scanner makes of the whole text. -/
def whole? (s : Scan α) (cs : List Char) : Option α :=
  match s cs with
  | some (a, []) => some a
  | _ => none

end Scan

end PlayerRegistry
