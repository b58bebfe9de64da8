import PlayerRegistry.Json.Basic
import PlayerRegistry.Text.Scan
import PlayerRegistry.Text.Utf8

/-!
# Reading JSON
-/

namespace PlayerRegistry.Json

/-- Arrays and objects lie at most this deep inside each other. -/
def nestLimit : Nat := 127

def blank : Scan Unit := do
  let _ ← Scan.run fun c => c == ' ' || c == '\t' || c == '\n' || c == '\r'

def hexUnit : Scan Nat := do
  let digits ← Scan.exactly (fun c => (Hex.digitValue? c).isSome) 4
  return digits.foldl (fun v c => 16 * v + (Hex.digitValue? c).getD 0) 0

def scalar (n : Nat) : Scan Char :=
  match Utf8.scalar? n with
  | some c => return c
  | none => failure

/-- A character given by its number in UTF-16: one unit, or a pair of them. -/
def unicodeEscape : Scan Char := do
  let first ← hexUnit
  if 0xd800 ≤ first ∧ first < 0xdc00 then
    Scan.text ['\\', 'u']
    let second ← hexUnit
    if 0xdc00 ≤ second ∧ second < 0xe000 then
      scalar (0x10000 + (first - 0xd800) * 0x400 + (second - 0xdc00))
    else failure
  else scalar first

def escaped : Scan Char := do
  Scan.char '\\'
  match ← Scan.satisfy fun _ => true with
  | '"' => return '"'
  | '\\' => return '\\'
  | '/' => return '/'
  | 'b' => return '\x08'
  | 'f' => return '\x0c'
  | 'n' => return '\n'
  | 'r' => return '\r'
  | 't' => return '\t'
  | 'u' => unicodeEscape
  | _ => failure

def text : Scan String := do
  Scan.char '"'
  let plain (c : Char) : Bool := 0x20 ≤ c.toNat && c != '"' && c != '\\'
  let parts ← Scan.many (Scan.run1 plain <|> (return [← escaped]))
  Scan.char '"'
  return String.ofList parts.flatten

/-- A number as it is written. -/
def numeral : Scan String := do
  let sign ← Scan.optional (Scan.char '-')
  let whole ← (do Scan.char '0'; return ['0']) <|> Scan.run1 Text.isDigit
  let fraction ← Scan.optional (do Scan.char '.'; Scan.run1 Text.isDigit)
  let exponent ← Scan.optional (do
    let mark ← Scan.satisfy fun c => c == 'e' || c == 'E'
    let sign ← Scan.optional (Scan.satisfy fun c => c == '+' || c == '-')
    return mark :: sign.toList ++ (← Scan.run1 Text.isDigit))
  return String.ofList ((if sign.isSome then ['-'] else []) ++ whole
    ++ (match fraction with
      | some digits => '.' :: digits
      | none => [])
    ++ exponent.getD [])

def word (name : String) (j : Json) : Scan Json := do
  Scan.text name.toList
  return j

def plainValue : Scan Json :=
  (return .string (← text)) <|> (return .number (← numeral)) <|> word "null" .null
    <|> word "true" (.bool true) <|> word "false" (.bool false)

def comma : Scan Unit := Scan.char ','

def arrayOf (item : Scan Json) : Scan Json := do
  Scan.char '['
  blank
  let items ← Scan.separated (do blank; let j ← item; blank; return j) comma
  Scan.char ']'
  return .array items

def member (item : Scan Json) : Scan (String × Json) := do
  blank
  let key ← text
  blank
  Scan.char ':'
  blank
  let j ← item
  blank
  return (key, j)

def objectOf (item : Scan Json) : Scan Json := do
  Scan.char '\x7b'
  blank
  let members ← Scan.separated (member item) comma
  Scan.char '\x7d'
  return .object members

/-- A value with at most `depth` arrays and objects inside each other. -/
def value : (depth : Nat) → Scan Json
  | 0 => plainValue
  | depth + 1 => plainValue <|> arrayOf (value depth) <|> objectOf (value depth)

def ofChars? (cs : List Char) : Option Json :=
  Scan.whole? (do blank; let j ← value nestLimit; blank; return j) cs

def ofBytes? (bytes : ByteArray) : Option Json := (Utf8.decode? bytes.data.toList).bind ofChars?

/-- A record is an object, in which its keys stand at most once, or an array of its values in
their order. The values are those found under the keys. -/
def fields? (keys : List String) : Json → Option (List (Option Json))
  | .object members =>
    if keys.any fun key => 1 < (members.filter fun m => m.1 = key).length then none
    else some (keys.map fun key => members.lookup key)
  | .array items =>
    if items.length ≤ keys.length then
      some (items.map some ++ List.replicate (keys.length - items.length) none)
    else none
  | _ => none

def text? : Json → Option String
  | .string s => some s
  | _ => none

/-- A record of texts, none of which may be missing. -/
def texts? (keys : List String) (j : Json) : Option (List String) := do
  (← fields? keys j).mapM fun v => v.bind text?

end PlayerRegistry.Json
