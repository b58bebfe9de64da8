import PlayerRegistry.Bytes.Hex
import PlayerRegistry.Number.Shortest
import PlayerRegistry.Toml.Value

/-!
# Written TOML

The text of a table of settings: the plain values first, then the groups, each under a head of its
own. A list of groups has a head for each of them.
-/

namespace PlayerRegistry.Toml

/-- A character of a basic string; control characters are written as code points. -/
def escape (c : Char) : List Char :=
  if c = '"' ∨ c = '\\' then ['\\', c]
  else if c = '\n' then ['\\', 'n']
  else if c = '\t' then ['\\', 't']
  else if c = '\r' then ['\\', 'r']
  else if c.toNat < 0x20 ∨ c = '\x7f' then
    '\\' :: 'u' :: '0' :: '0' :: Hex.ofByte (UInt8.ofNat c.toNat)
  else [c]

def writeText (s : String) : String :=
  String.ofList ('"' :: (s.toList.flatMap escape ++ ['"']))

/-- A float always has a point in it. -/
def writeFloat (x : Binary64) : String :=
  let text := x.toText
  if !x.isFinite then text.map Char.toLower
  else if text.toList.contains '.' then text
  else text ++ ".0"

/-- The text of a value that is written on the line of its key. -/
def writePlain? : Value → Option String
  | .string s => some (writeText s)
  | .integer n => some (toString n)
  | .float x => some (writeFloat x)
  | .boolean b => some (if b then "true" else "false")
  | .array [] => some "[]"
  | _ => none

def writeLines (t : Table) : String :=
  String.join (t.filterMap fun e => (writePlain? e.2).map fun v => e.1 ++ " = " ++ v ++ "\n")

/-- The groups below a key, with their heads. -/
def groupsOf (key : String) : Value → List (String × Table)
  | .table t => [("[" ++ key ++ "]", t)]
  | .array items => items.filterMap fun
    | .table t => some ("[[" ++ key ++ "]]", t)
    | _ => none
  | _ => []

def write (t : Table) : String :=
  writeLines t ++ String.join ((t.flatMap fun e => groupsOf e.1 e.2).map fun g =>
    "\n" ++ g.1 ++ "\n" ++ writeLines g.2)

end PlayerRegistry.Toml
