import PlayerRegistry.Text.Scan

/-!
# Media types

A type, a subtype and parameters, as in `multipart/form-data; boundary=x`.
-/

namespace PlayerRegistry.Http

structure MediaType where
  type : String
  /-- Without the suffix after a plus sign. -/
  subtype : String
  /-- Names are in lower case. -/
  parameters : List (String × String)
  deriving DecidableEq, Repr

/-- Characters of names in headers. -/
def isTokenChar (c : Char) : Bool :=
  ('a' ≤ c && c ≤ 'z') || ('A' ≤ c && c ≤ 'Z') || ('0' ≤ c && c ≤ '9')
    || "!#$%&'*+-.^_`|~".toList.contains c

namespace MediaType

def isQuotable (c : Char) : Bool := ' ' ≤ c && c ≠ '\x7f'

/-- A value in quotes. It has one character at least, which may be a quote itself. -/
def quotedValue : Scan (List Char) := do
  Scan.char '"'
  let first ← Scan.satisfy isQuotable
  let rest ← Scan.run fun c => isQuotable c && c ≠ '"'
  Scan.char '"'
  let _ ← Scan.run (· == ' ')
  return first :: rest

/-- Either a semicolon or the end. -/
def separatorOrEnd : Scan Unit := do
  match ← Scan.optional (Scan.char ';') with
  | some _ => return ()
  | none => Scan.endOfText

/-- A value without quotes; only at the end may it be empty. -/
def plainValue : Scan (List Char) := do
  let value ← Scan.run isTokenChar
  if value.isEmpty then Scan.endOfText
  return value

def lowerText (cs : List Char) : String := String.ofList (cs.map Char.toLower)

def parameter : Scan (String × String) := do
  let _ ← Scan.run (· == ' ')
  let name ← Scan.run1 isTokenChar
  Scan.char '='
  let value ← match ← Scan.optional quotedValue with
    | some value => pure value
    | none => plainValue
  separatorOrEnd
  return (lowerText name, String.ofList value)

/-- What comes before the last plus sign, unless nothing does. -/
def withoutSuffix (cs : List Char) : List Char :=
  match cs.reverse.dropWhile (· ≠ '+') with
  | [] | [_] => cs
  | _ :: before => before.reverse

def scan : Scan MediaType := do
  let type ← Scan.run1 isTokenChar
  Scan.char '/'
  let subtype ← Scan.run isTokenChar
  let build (parameters : List (String × String)) : MediaType :=
    ⟨lowerText type, lowerText (withoutSuffix subtype), parameters⟩
  match ← Scan.optional Scan.endOfText with
  | some _ => return build []
  | none =>
    if subtype.isEmpty then failure
    Scan.char ';'
    let parameters ← Scan.many parameter
    let _ ← Scan.run (· == ' ')
    return build parameters

def parse? (text : String) : Option MediaType := scan.whole? text.toList

/-- The first parameter of a name. -/
def parameter? (m : MediaType) (name : String) : Option String := m.parameters.lookup name

end MediaType

end PlayerRegistry.Http
