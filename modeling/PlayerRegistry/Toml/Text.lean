import PlayerRegistry.Bytes.Hex
import PlayerRegistry.Text.Scan

/-!
# Strings, blanks and comments of TOML

A string is basic, with escapes, or literal; both have a form between three quotes, which may hold
line ends.
-/

namespace PlayerRegistry.Toml

def isSpace (c : Char) : Bool := c == ' ' || c == '\t'

/-- No control character but the tab. -/
def isPlain (c : Char) : Bool := c == '\t' || (0x20 ≤ c.toNat && c != '\x7f')

def spaces : Scan Unit := do let _ ← Scan.run isSpace

def newline : Scan Unit := Scan.char '\n' <|> Scan.text ['\r', '\n']

def comment : Scan Unit := do
  Scan.char '#'
  let _ ← Scan.run isPlain

/-- The end of a line or of the text, with blanks and a comment in front of it. -/
def lineEnd : Scan Unit := do
  spaces
  let _ ← Scan.optional comment
  newline <|> Scan.endOfText

/-- Blanks, line ends and comments, as they may stand between the items of an array. -/
def filler : Scan Unit := do
  let _ ← Scan.many ((do let _ ← Scan.run1 isSpace) <|> newline <|> comment)

namespace Text

/-- A scalar value of exactly `n` hexadecimal digits. -/
def codePoint (n : Nat) : Scan Char := do
  let digits ← Scan.exactly (fun c => (Hex.digitValue? c).isSome) n
  let value := digits.foldl (fun v c => 16 * v + (Hex.digitValue? c).getD 0) 0
  if h : value.isValidChar then return Char.ofNatAux value h else failure

def escaped : Scan Char := do
  Scan.char '\\'
  match ← Scan.satisfy fun _ => true with
  | 'b' => return '\x08'
  | 'f' => return '\x0c'
  | 'n' => return '\n'
  | 'r' => return '\r'
  | 't' => return '\t'
  | '"' => return '"'
  | '\\' => return '\\'
  | 'u' => codePoint 4
  | 'U' => codePoint 8
  | _ => failure

def isBasic (c : Char) : Bool := isPlain c && c != '"' && c != '\\'

def isLiteral (c : Char) : Bool := isPlain c && c != '\''

def basic : Scan String := do
  Scan.char '"'
  let parts ← Scan.many (Scan.run1 isBasic <|> (return [← escaped]))
  Scan.char '"'
  return String.ofList parts.flatten

def literal : Scan String := do
  Scan.char '\''
  let text ← Scan.run isLiteral
  Scan.char '\''
  return String.ofList text

/-- A backslash at the end of a line, and the blanks and line ends after it. -/
def continued : Scan (List Char) := do
  Scan.char '\\'
  spaces
  newline
  let _ ← Scan.many ((do let _ ← Scan.run1 isSpace) <|> newline)
  return []

def lineBreak : Scan (List Char) := do
  newline
  return ['\n']

/-- The body of a string between three quotes, up to and with the closing ones: one or two quotes
may stand anywhere in it, also right in front of the closing ones. -/
def body (quote : Char) (piece : Scan (List Char)) : Scan String := do
  let quoted (n : Nat) (next : Scan Unit) : Scan (List Char) := do
    let quotes := List.replicate n quote
    Scan.text quotes
    Scan.ahead next
    return quotes
  let next : Scan Unit := do let _ ← piece
  let closing := Scan.text (List.replicate 3 quote)
  let parts ← Scan.many (piece <|> quoted 2 next <|> quoted 1 next)
  let last ← Scan.optional (quoted 2 closing <|> quoted 1 closing)
  closing
  return String.ofList (parts.flatten ++ last.getD [])

def longBasic : Scan String := do
  Scan.text ['"', '"', '"']
  let _ ← Scan.optional newline
  body '"' (Scan.run1 isBasic <|> continued <|> (return [← escaped]) <|> lineBreak)

def longLiteral : Scan String := do
  Scan.text ['\'', '\'', '\'']
  let _ ← Scan.optional newline
  body '\'' (Scan.run1 isLiteral <|> lineBreak)

def string : Scan String := longBasic <|> basic <|> longLiteral <|> literal

end Text

end PlayerRegistry.Toml
