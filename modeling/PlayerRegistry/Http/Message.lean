import PlayerRegistry.Http.ErrorAnswer
import PlayerRegistry.Net.Address

/-!
# Messages

Requests and responses.
-/

namespace PlayerRegistry.Http

structure Request where
  method : String
  /-- The path, and the query after a question mark. -/
  target : String
  /-- Names are in lower case. -/
  headers : List (String × String)
  body : ByteArray
  /-- Where the request comes from, if that is known. -/
  client : Option IpAddress

namespace Request

/-- Path and query of a target, without what follows a number sign. -/
def parts (q : Request) : List Char × List Char :=
  let cs := q.target.toList.takeWhile (· ≠ '#')
  (cs.takeWhile (· ≠ '?'), (cs.dropWhile (· ≠ '?')).drop 1)

def path (q : Request) : List Char := q.parts.1

def query (q : Request) : List Char := q.parts.2

/-- A value counts only if it is made of printable characters of ASCII and tabs. -/
def isReadable (value : String) : Bool :=
  value.toList.all fun c => (' ' ≤ c && c ≤ '~') || c == '\t'

/-- The first header of a name. -/
def header? (q : Request) (name : String) : Option String :=
  (q.headers.lookup name).filter isReadable

/-- The length that is announced for the body. -/
def announcedLength? (q : Request) : Option Nat := do
  let digits := (← q.header? "content-length").toList
  let digits := if digits.head? = some '+' then digits.drop 1 else digits
  if digits ≠ [] ∧ digits.all Text.isDigit ∧ Text.digitsValue digits < UInt64.size then
    some (Text.digitsValue digits)
  else none

end Request

structure Response where
  status : Nat
  headers : List (String × String)
  body : ByteArray

namespace Response

def empty (status : Nat) : Response := ⟨status, [], .empty⟩

def ofText (status : Nat) (text : String) : Response :=
  ⟨status, [("content-type", "text/plain; charset=utf-8")], text.toUTF8⟩

def ofJson (status : Nat) (j : Json) : Response :=
  ⟨status, [("content-type", "application/json")], j.toText.toUTF8⟩

def ofPng (file : ByteArray) (caching : String) : Response :=
  ⟨200, [("content-type", "image/png"), ("cache-control", caching)], file⟩

def ofError (e : Error) : Response := ofJson e.status e.body

def withHeader (r : Response) (name value : String) : Response :=
  { r with headers := r.headers ++ [(name, value)] }

end Response

end PlayerRegistry.Http
