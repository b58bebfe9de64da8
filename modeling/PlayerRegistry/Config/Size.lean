import PlayerRegistry.Error
import PlayerRegistry.Text.Blank
import PlayerRegistry.Text.Decimal
import PlayerRegistry.Text.Quoted

/-!
# Sizes

A size is written as a count of bytes, or as a count followed by `K`, `M` or `G` in either case.
Every size, and every count in front of a unit, stays below `2 ^ 64`.
-/

namespace PlayerRegistry.Size

def bound : Nat := UInt64.size

/-- The bytes that a unit letter stands for. -/
def unit? (c : Char) : Option Nat :=
  match c with
  | 'K' | 'k' => some 1024
  | 'M' | 'm' => some (1024 * 1024)
  | 'G' | 'g' => some (1024 * 1024 * 1024)
  | _ => none

/-- Reads a size that has no white space at its ends. -/
def ofTrimmed? (cs : List Char) : Option Nat := do
  let last ← cs.getLast?
  let (digits, unit) ←
    match unit? last with
    | some unit => some (cs.dropLast, unit)
    | none => if Text.isDigit last then some (cs, 1) else none
  let count ← Text.count? bound (Text.trim digits)
  if count * unit < bound then some (count * unit) else none

def parse (text : String) : Result Nat :=
  let cs := Text.trim text.toList
  match ofTrimmed? cs with
  | some size => .ok size
  | none => .error (.config ("Invalid size: " ++ Text.quoted (String.ofList cs)))

end PlayerRegistry.Size
