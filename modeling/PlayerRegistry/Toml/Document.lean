import PlayerRegistry.Toml.Node
import PlayerRegistry.Toml.Number
import PlayerRegistry.Toml.Text

/-!
# TOML documents

A document is a sequence of statements: settings, headers of tables and headers of tables in an
array. A setting belongs to the table of the header above it.
-/

namespace PlayerRegistry.Toml

/-- The number of keys in a dotted key, and of arrays and inline tables inside each other, stays
below this. -/
def nestLimit : Nat := 80

inductive Statement where
  | setting (path : List String) (key : String) (v : Value)
  | header (path : List String) (key : String)
  | listHeader (path : List String) (key : String)

def isBare (c : Char) : Bool :=
  ('a' ≤ c && c ≤ 'z') || ('A' ≤ c && c ≤ 'Z') || ('0' ≤ c && c ≤ '9') || c == '-' || c == '_'

def simpleKey : Scan String :=
  Text.basic <|> Text.literal <|> do return String.ofList (← Scan.run1 isBare)

/-- A dotted key: the keys in front of its last one, and that one. -/
def dottedKey : Scan (List String × String) := do
  let part : Scan String := do
    spaces
    let key ← simpleKey
    spaces
    return key
  let keys ← Scan.separated part (Scan.char '.')
  match keys.reverse with
  | [] => failure
  | last :: before => if keys.length < nestLimit then return (before.reverse, last) else failure

/-- Lays the settings of an inline table into one table. -/
def ofSettings? (settings : List ((List String × String) × Value)) : Option Value := do
  let entries ← settings.foldlM
    (fun entries (key, v) => Node.insert key.1 key.2 v .header entries) []
  return .table (Node.toValues entries)

def boolean : Scan Value :=
  (do Scan.text ['t', 'r', 'u', 'e']; return .boolean true) <|> do
    Scan.text ['f', 'a', 'l', 's', 'e']
    return .boolean false

def scalar : Scan Value :=
  (return .string (← Text.string)) <|> boolean <|> Number.datetime <|> Number.float
    <|> Number.integer

/-- An array: a comma may follow its last item. -/
def arrayOf (item : Scan Value) : Scan Value := do
  Scan.char '['
  let items ← Scan.separated (do filler; let v ← item; filler; return v) (Scan.char ',')
  if !items.isEmpty then
    let _ ← Scan.optional (Scan.char ',')
  filler
  Scan.char ']'
  return .array items

/-- A key, an equals sign and a value. -/
def setting (item : Scan Value) : Scan ((List String × String) × Value) := do
  let key ← dottedKey
  Scan.char '='
  spaces
  return (key, ← item)

/-- A table on one line: no comma follows its last setting. -/
def inlineTableOf (item : Scan Value) : Scan Value := do
  Scan.char '\x7b'
  let settings ← Scan.separated (do let s ← setting item; spaces; return s) (Scan.char ',')
  spaces
  Scan.char '\x7d'
  match ofSettings? settings with
  | some v => return v
  | none => failure

/-- A value of at most `depth` arrays and inline tables inside each other. -/
def value : (depth : Nat) → Scan Value
  | 0 => scalar
  | depth + 1 => scalar <|> arrayOf (value depth) <|> inlineTableOf (value depth)

def header : Scan Statement := do
  Scan.char '['
  let key ← dottedKey
  Scan.char ']'
  return .header key.1 key.2

def listHeader : Scan Statement := do
  Scan.text ['[', '[']
  let key ← dottedKey
  Scan.text [']', ']']
  return .listHeader key.1 key.2

/-- A statement up to the end of its line, or an empty line. -/
def line : Scan (Option Statement) := do
  let found ← Scan.optional (listHeader <|> header <|> do
    let (key, v) ← setting (value (nestLimit - 1))
    return .setting key.1 key.2 v)
  lineEnd
  spaces
  return found

def byteOrderMark : Char := '\ufeff'

/-- The lines of a document; the last one may lack its line end. -/
def statements? (text : List Char) : Option (List Statement) :=
  let text := if text.head? = some byteOrderMark then text.tail else text
  let lines : Scan (List (Option Statement)) := do
    spaces
    Scan.many (do
      let _ ← Scan.ahead (Scan.satisfy fun _ => true)
      line)
  (Scan.whole? lines text).map fun found => found.filterMap id

/-- The tables read so far, and the header that stands above the next statement. -/
structure Draft where
  entries : Entries
  header : List String

def Draft.add (d : Draft) : Statement → Option Draft
  | .setting path key v => do
    let entries ← Node.within .path d.header (Node.insert path key v) .header d.entries
    return { d with entries := entries }
  | .header path key => do
    let entries ← Node.within .path path (fun _ => Node.change key Node.openTable) .header d.entries
    return ⟨entries, path ++ [key]⟩
  | .listHeader path key => do
    let entries ←
      Node.within .path path (fun _ => Node.change key Node.openListed) .header d.entries
    return ⟨entries, path ++ [key]⟩

/-- The table that a document denotes. -/
def parse? (text : String) : Option Table := do
  let statements ← statements? text.toList
  let draft ← statements.foldlM Draft.add ⟨[], []⟩
  return Node.toValues draft.entries

end PlayerRegistry.Toml
