import PlayerRegistry.Bytes.Hex
import PlayerRegistry.Text.Printable

/-!
# Quoted text

A text between double quotes, for error messages: what has no visible form of its own is written
as an escape.
-/

namespace PlayerRegistry.Text

/-- The escape of `c`, or `c` itself where it is visible. -/
def escape (c : Char) : List Char :=
  if c = '\x00' then ['\\', '0']
  else if c = '\t' then ['\\', 't']
  else if c = '\r' then ['\\', 'r']
  else if c = '\n' then ['\\', 'n']
  else if c = '"' ∨ c = '\\' then ['\\', c]
  else if extendsGrapheme c ∨ !isPrintable c then
    ['\\', 'u', '\x7b'] ++ (Hex.ofNat c.toNat).toList ++ ['\x7d']
  else [c]

def quoted (s : String) : String :=
  String.ofList ('"' :: (s.toList.flatMap escape ++ ['"']))

end PlayerRegistry.Text
