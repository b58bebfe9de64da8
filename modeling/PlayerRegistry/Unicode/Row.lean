import PlayerRegistry.Text.CodePoints

/-!
# Rows of a table of characters
-/

namespace PlayerRegistry.Unicode

/-- A set of characters with its names, which are in small letters and without separators. -/
structure CodePointRow where
  names : List String
  lines : List String

def CodePointRow.set (r : CodePointRow) : CodePoints := .ofLines r.lines

/-- The set of this name. -/
def lookup? (table : List CodePointRow) (name : String) : Option CodePoints :=
  (table.find? fun r => r.names.contains name).map CodePointRow.set

/-- The words of the lines, each as the numbers between its dashes, in hexadecimal. -/
def numbersOf (lines : List String) : List (List Nat) :=
  lines.flatMap fun line => (line.splitOn " ").map fun word =>
    (word.splitOn "-").map fun number =>
      number.toList.foldl (fun n c => 16 * n + CodePoints.hexValue c) 0

end PlayerRegistry.Unicode
