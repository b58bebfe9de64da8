import PlayerRegistry.Url.Basic
import PlayerRegistry.Url.Domain

/-!
# Reading URLs

A text is read the way browsers do: blanks around it do not matter, the host is brought into its
normal form, and dots in the path are resolved. Of URLs with other schemes only the scheme is kept.
-/

namespace PlayerRegistry

/-- What a text that is a URL points to. -/
inductive Link where
  | web (u : Url)
  | other (scheme : List Char)
  deriving DecidableEq, Repr

namespace Url

def isControl (c : Char) : Bool := c.toNat < 0x20 || c == '\x7f'

def keptInFragment (c : Char) : Bool :=
  !isControl c && c != ' ' && c != '"' && c != '<' && c != '>' && c != '`'

def keptInPath (c : Char) : Bool :=
  keptInFragment c && c != '#' && c != '?' && c != '\x7b' && c != '\x7d'

def keptInUser (c : Char) : Bool :=
  keptInPath c && !(['/', ':', ';', '=', '@', '[', '\\', ']', '^', '|'].contains c)

def keptInQuery (c : Char) : Bool :=
  !isControl c && c != ' ' && c != '"' && c != '#' && c != '<' && c != '>' && c != '\''

/-- Digits of base 8, 10 or 16, marked as numbers of programs are; no digit after a mark means
zero. -/
def number? (cs : List Char) : Option Nat :=
  let read (base : Nat) (digits : List Char) : Option Nat := do
    let values ← digits.mapM Hex.digitValue?
    if values.all (· < base) then some (values.foldl (fun n d => base * n + d) 0) else none
  match cs with
  | [] => none
  | '0' :: 'x' :: digits => read 16 digits
  | '0' :: 'X' :: digits => read 16 digits
  | ['0'] => some 0
  | '0' :: digits => read 8 digits
  | digits => read 10 digits

/-- The parts between the points, without an empty one at the end. -/
def nameParts (name : List Char) : List (List Char) :=
  let parts := splitAtChar '.' name
  if parts.getLast? = some [] then parts.dropLast else parts

def endsInNumber (name : List Char) : Bool :=
  match (nameParts name).getLast? with
  | some last => (!last.isEmpty && last.all Text.isDigit) || (number? last).isSome
  | none => false

/-- Up to four numbers: all but the last are one byte, the last fills the rest. -/
def ipv4? (name : List Char) : Option Ipv4 := do
  let numbers ← (nameParts name).mapM number?
  let last ← numbers.getLast?
  let before := numbers.dropLast
  if before.length ≤ 3 ∧ before.all (· < 256) ∧ last < 1 <<< (8 * (4 - before.length)) then
    let high := before.foldl (fun n d => 256 * n + d) 0
    some ⟨BitVec.ofNat 32 ((high <<< (8 * (4 - before.length))) + last)⟩
  else none

/-- The address between brackets. -/
def bracketed? (cs : List Char) : Option Ipv6 :=
  if cs.getLast? = some ']' then Ipv6.parse? cs.dropLast else none

def host? (cs : List Char) : Option Host :=
  match cs with
  | '[' :: rest => (bracketed? rest).map fun a => .ip (.v6 a)
  | cs => do
    let plain ← Utf8.decode? (Percent.decodeBytes (Utf8.encode cs))
    let name ← Domain.toAscii? plain
    if name.isEmpty then none
    else if endsInNumber name then (ipv4? name).map fun a => .ip (.v4 a)
    else some (.name name)

def isDot (segment : List Char) : Bool :=
  [".", "%2e"].contains ((String.ofList segment).toLower)

def isDoubleDot (segment : List Char) : Bool :=
  ["..", ".%2e", "%2e.", "%2e%2e"].contains ((String.ofList segment).toLower)

/-- A letter and a colon or a bar: the name of a drive, which is never left. -/
def isDrive : List Char → Bool
  | [letter, mark] => letter.isAlpha && (mark == ':' || mark == '|')
  | _ => false

/-- The path without its last segment; a path is given in reverse. -/
def leave : List (List Char) → List (List Char)
  | [] => []
  | last :: before => if isDrive last then last :: before else before

/-- The path that segments lead to from `done`, which is given in reverse. -/
def follow (done : List (List Char)) : List (List Char) → List (List Char)
  | [] => done.reverse
  | [last] =>
    if isDoubleDot last then ([] :: leave done).reverse
    else if isDot last then ([] :: done).reverse
    else (last :: done).reverse
  | segment :: rest =>
    if isDoubleDot segment then follow (leave done) rest
    else if isDot segment then follow done rest
    else follow (segment :: done) rest

def isSlash (c : Char) : Bool := c == '/' || c == '\\'

/-- The parts between slashes of either kind. -/
def segments (cs : List Char) : List (List Char) :=
  splitAtChar '/' (cs.map fun c => if c = '\\' then '/' else c)

/-- The path in a text that is empty or begins with a slash. -/
def readPath (cs : List Char) : List (List Char) :=
  follow [] ((segments (cs.drop 1)).map (Percent.encode keptInPath))

def endsAuthority (special : Bool) (c : Char) : Bool :=
  c == '/' || c == '?' || c == '#' || (special && c == '\\')

/-- What stands before and after the last `@`, if there is one. -/
def splitUser (cs : List Char) : Option (List Char) × List Char :=
  match cs.reverse.span (· != '@') with
  | (after, _ :: before) => (some before.reverse, after.reverse)
  | (after, []) => (none, after.reverse)

/-- A user and a password, which follows the first colon. -/
def credentialsOf (cs : List Char) : List Char × List Char :=
  let (user, rest) := cs.span (· != ':')
  (Percent.encode keptInUser user, Percent.encode keptInUser (rest.drop 1))

/-- The host, and the text from the first colon outside of brackets on. -/
def splitPort (inBrackets : Bool) : List Char → List Char × List Char
  | [] => ([], [])
  | c :: rest =>
    if c = ':' ∧ !inBrackets then ([], c :: rest)
    else
      let now := if c = '[' then true else if c = ']' then false else inBrackets
      let (host, port) := splitPort now rest
      (c :: host, port)

/-- A port below 65536; none if there are no digits. -/
def port? (digits : List Char) : Option (Option Nat) :=
  if digits.isEmpty then some none
  else if digits.all Text.isDigit ∧ Text.digitsValue digits < 65536 then
    some (some (Text.digitsValue digits))
  else none

def isSchemeChar (c : Char) : Bool := c.isAlphanum || c == '+' || c == '-' || c == '.'

/-- The scheme in small letters, and what follows its colon. -/
def splitScheme? (cs : List Char) : Option (List Char × List Char) :=
  match cs.span isSchemeChar with
  | (first :: rest, ':' :: after) =>
    if first.isAlpha then some ((first :: rest).map Char.toLower, after) else none
  | _ => none

/-- The text without the blanks and control characters around it, and without line ends and tabs
in it. -/
def cleaned (cs : List Char) : List Char :=
  let blank := fun (c : Char) => decide (c.toNat ≤ 0x20)
  let cs := ((cs.dropWhile blank).reverse.dropWhile blank).reverse
  cs.filter fun c => c != '\t' && c != '\n' && c != '\r'

/-- A URL of the web, from what follows its scheme. -/
def web? (secure : Bool) (cs : List Char) : Option Url := do
  let (authority, rest) := (cs.dropWhile isSlash).span (!endsAuthority true ·)
  let (user, place) := splitUser authority
  let (hostText, portText) := splitPort false place
  if hostText.isEmpty then none
  let host ← host? hostText
  let port ← port? (portText.drop 1)
  let (username, password) := credentialsOf (user.getD [])
  let (beforeFragment, fragment) := rest.span (· != '#')
  let (pathText, query) := beforeFragment.span (· != '?')
  return {
    secure, username, password, host
    port := port.filter (· != defaultPort secure)
    path := readPath pathText
    query := if query.isEmpty then none else some (Percent.encode keptInQuery (query.drop 1))
    fragment := if fragment.isEmpty then none
      else some (Percent.encode keptInFragment (fragment.drop 1)) }

/-- Characters that no host can have. -/
def isForbiddenInHost (c : Char) : Bool :=
  ['\x00', '\t', '\n', '\r', ' ', '#', '/', ':', '<', '>', '?', '@', '[', '\\', ']', '^',
    '|'].contains c

def isOpaqueHost (cs : List Char) : Bool :=
  match cs with
  | '[' :: rest => (bracketed? rest).isSome
  | cs => !cs.any isForbiddenInHost

/-- Whether what follows the scheme of a URL is sound; hosts have a meaning only in some schemes. -/
def isSoundOther (cs : List Char) : Bool :=
  match cs with
  | '/' :: '/' :: rest =>
    let (authority, after) := rest.span (!endsAuthority false ·)
    let (user, place) := splitUser authority
    let (hostText, portText) := splitPort false place
    let portDigits := (portText.drop 1).takeWhile (· != '\\')
    let emptyUser := user = some [] ∧ place.isEmpty ∧ !after.isEmpty
    let missing := hostText.isEmpty ∧ (!portText.isEmpty ∨ user.any (!·.isEmpty))
    !emptyUser && !missing && isOpaqueHost hostText && (port? portDigits).isSome
  | _ => true

/-- Whether the host of a file is sound; most files have none. -/
def isSoundFile (cs : List Char) : Bool :=
  match cs with
  | first :: second :: rest =>
    let hostText := rest.takeWhile fun c => !isSlash c && c != '?' && c != '#'
    !(isSlash first && isSlash second) || hostText.isEmpty || isDrive hostText
      || (host? hostText).isSome
  | _ => true

def parse? (text : String) : Option Link := do
  let (scheme, rest) ← splitScheme? (cleaned text.toList)
  match String.ofList scheme with
  | "http" => (web? false rest).map .web
  | "https" => (web? true rest).map .web
  | "file" => if isSoundFile rest then some (.other scheme) else none
  | "ws" | "ftp" => (web? false rest).map fun _ => .other scheme
  | "wss" => (web? true rest).map fun _ => .other scheme
  | _ => if isSoundOther rest then some (.other scheme) else none

end Url

end PlayerRegistry
