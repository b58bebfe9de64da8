import PlayerRegistry.Http.MediaType
import PlayerRegistry.Text.Charset

/-!
# Multipart bodies

A body of parts with a boundary between them. Each part has headers, which name it, and data.
-/

namespace PlayerRegistry.Http.Multipart

structure Part where
  /-- The empty name stands for none. -/
  name : String
  /-- The media type that the part announces. -/
  mediaType : Option MediaType
  data : List UInt8
  deriving DecidableEq

/-- The data as text. -/
def Part.text (p : Part) : String :=
  let label? := p.mediaType.bind fun m => m.parameter? "charset"
  let charset := label?.bind Charset.ofLabel?
  String.ofList ((charset.getD .utf8).decodeMarked p.data)

def ascii (s : String) : List UInt8 := s.toList.map fun c => UInt8.ofNat c.toNat

def lineEnd : List UInt8 := [0x0d, 0x0a]

def isBlank (b : UInt8) : Bool := b == 0x20 || b == 0x09

/-- The bytes before the first place where `pattern` stands, and those from there on; `before` has
been passed already, last byte first. -/
def cutAt (pattern : List UInt8) : (before : List UInt8) → List UInt8 →
    Option (List UInt8 × List UInt8)
  | _, [] => none
  | before, b :: rest =>
    if pattern.isPrefixOf (b :: rest) then some (before.reverse, b :: rest)
    else cutAt pattern (b :: before) rest

def greatestHeaderCount : Nat := 32

def isNameByte (b : UInt8) : Bool := b < 0x80 && isTokenChar (Char.ofNat b.toNat)

def isValueByte (b : UInt8) : Bool := (0x20 ≤ b && b != 0x7f) || b == 0x09

def trimEnd (bytes : List UInt8) : List UInt8 := (bytes.reverse.dropWhile isBlank).reverse

/-- What follows the end of a line; a line feed alone ends it too. -/
def afterLineEnd? : List UInt8 → Option (List UInt8)
  | 0x0d :: 0x0a :: rest => some rest
  | 0x0a :: rest => some rest
  | _ => none

/-- One header, and what follows it. -/
def header? (bytes : List UInt8) : Option ((String × List UInt8) × List UInt8) := do
  let (name, rest) := bytes.span isNameByte
  if name.isEmpty then none
  match rest with
  | 0x3a :: rest =>
    let (value, rest) := (rest.dropWhile isBlank).span isValueByte
    let lower := String.ofList (name.map fun b => (Char.ofNat b.toNat).toLower)
    return ((lower, trimEnd value), ← afterLineEnd? rest)
  | _ => none

/-- The headers up to an empty line, at most `fuel` of them. -/
def headers? : (fuel : Nat) → List UInt8 → Option (List (String × List UInt8))
  | fuel, bytes =>
    if (afterLineEnd? bytes).isSome then some []
    else match fuel with
      | 0 => none
      | fuel + 1 => do
        let (h, rest) ← header? bytes
        return h :: (← headers? fuel rest)

/-- The last header of a name. -/
def last? (headers : List (String × List UInt8)) (name : String) : Option (List UInt8) :=
  headers.reverse.lookup name

def isSpace (b : UInt8) : Bool := isBlank b || b == 0x0a || b == 0x0c || b == 0x0d

/-- The bytes up to a quote that no backslash precedes. -/
def upToQuote? : (previous : UInt8) → List UInt8 → Option (List UInt8)
  | _, [] => none
  | previous, b :: rest =>
    if b = 0x22 ∧ previous ≠ 0x5c then some []
    else (upToQuote? b rest).map (b :: ·)

/-- The bytes with each backslash before a quote taken away. -/
def withoutEscapes : List UInt8 → List UInt8
  | 0x5c :: 0x22 :: rest => 0x22 :: withoutEscapes rest
  | b :: rest => b :: withoutEscapes rest
  | [] => []

/-- The value of an attribute after its name. -/
def attributeValue? (bytes : List UInt8) : Option String := do
  match bytes.dropWhile isSpace with
  | 0x3d :: rest =>
    let value ← match rest.dropWhile isSpace with
      | 0x22 :: quoted => (upToQuote? 0 quoted).map withoutEscapes
      | plain => some (plain.takeWhile fun b => b ≠ 0x3b ∧ b ≠ 0x20)
    return String.ofList (← Utf8.decode? value)
  | _ => none

/-- The attribute `name`. The word counts at the beginning and after a blank or a semicolon; where
it stands elsewhere, it is passed over, and what follows it counts as a beginning. -/
def nameAttribute? : (fresh : Bool) → List UInt8 → Option String
  | fresh, 0x6e :: 0x61 :: 0x6d :: 0x65 :: rest =>
    if fresh then attributeValue? rest else nameAttribute? true rest
  | _, b :: rest => nameAttribute? (isSpace b || b == 0x3b) rest
  | _, [] => none

/-- The media type in a header. -/
def mediaTypeOf? (value : List UInt8) : Option MediaType :=
  let cs := value.map fun b => Char.ofNat b.toNat
  if cs.all fun c => c.toNat < 0x7f then MediaType.parse? (String.ofList cs) else none

def Part.ofHeaders (headers : List (String × List UInt8)) (data : List UInt8) : Part where
  name := ((last? headers "content-disposition").bind (nameAttribute? true)).getD ""
  mediaType := (last? headers "content-type").bind mediaTypeOf?
  data := data

/-- The bytes after a boundary that parts follow: after blanks and the end of the line. -/
def afterPadding? (bytes : List UInt8) : Option (List UInt8) :=
  match bytes.dropWhile isBlank with
  | 0x0d :: 0x0a :: rest => some rest
  | _ => none

/-- The parts after a boundary, of which there are at most `fuel`. -/
def readParts? (marker : List UInt8) : (fuel : Nat) → List UInt8 → Option (List Part)
  | _, 0x2d :: 0x2d :: _ => some []
  | 0, _ => none
  | fuel + 1, bytes => do
    if bytes.length < 2 then none
    let bytes ← afterPadding? bytes
    let (head, rest) ← cutAt (lineEnd ++ lineEnd) [] bytes
    let headers ← headers? greatestHeaderCount (head ++ lineEnd ++ lineEnd)
    let (data, rest) ← cutAt (lineEnd ++ marker) [] (rest.drop 4)
    let parts ← readParts? marker fuel (rest.drop (2 + marker.length))
    return Part.ofHeaders headers data :: parts

/-- The parts of a body, if it is well formed. What comes before the first boundary and after the
last does not matter. -/
def parts? (boundary : String) (body : List UInt8) : Option (List Part) := do
  let marker := ascii "--" ++ ascii boundary
  let (_, rest) ← cutAt marker [] body
  readParts? marker body.length (rest.drop marker.length)

/-- The boundary that a media type of forms announces. -/
def boundary? (contentType : String) : Option String := do
  let m ← MediaType.parse? contentType
  if m.type = "multipart" ∧ m.subtype = "form-data" then m.parameter? "boundary" else none

end PlayerRegistry.Http.Multipart
