import PlayerRegistry.Error
import PlayerRegistry.Http.Status
import PlayerRegistry.Url.Parse

/-!
# The web

What answers when something is asked of another server. An answer may send the request on to another
URL. A body arrives in chunks, and may break off.
-/

namespace PlayerRegistry

namespace Web

/-- Where an answer sends a request on to, resolved against the URL that was asked for. -/
inductive Location where
  | web (u : Url)
  /-- A URL of another scheme. -/
  | other (text : String)

structure Answer where
  status : Nat
  /-- The length that the server announces for the body. -/
  announced : Option Nat
  chunks : List ByteArray
  /-- Whether the body ends after the chunks; otherwise the connection breaks there. -/
  complete : Bool
  location : Option Location

/-- A request as it leaves: to read a URL, or to connect to a host for a URL that is secure. -/
inductive Request where
  | get (target : Url)
  | connect (authority : List Char)
  deriving DecidableEq

/-- The outcome of a call, with the requests that it took. -/
structure Call (α : Type) where
  sent : List Request
  result : Result α

end Web

structure Web where
  /-- The answer to a request for a URL without credentials and fragment; none if nothing answers
  there. -/
  answer? : Url → Option Web.Answer
  /-- The addresses of a host name. -/
  addresses? : List Char → Option (List IpAddress)

namespace Web

/-- Characters that can be read in a host but not written in a request. -/
def isUnwritable (c : Char) : Bool := c == '"' || c == '`' || c == '\x7b' || c == '\x7d'

def isWritable (u : Url) : Bool := !u.host.text.any isUnwritable

def request (u : Url) : Request :=
  if u.secure then
    .connect (u.host.text ++ ':' :: Nat.toDigits 10 u.portOrDefault)
  else .get u.target

def Request.text : Request → String
  | .get target => "GET " ++ target.toText
  | .connect authority => "CONNECT " ++ String.ofList authority

def Call.fail (e : Error) : Call α := ⟨[], .error e⟩

/-- What went wrong with the URL of a text. -/
def failedFor (what url : String) : String := what ++ " for url (" ++ url ++ ")"

/-- Why no answer came. -/
def noAnswer (u : Url) : String :=
  failedFor (if isWritable u then "error sending request" else "builder error") u.target.toText

/-- The statuses with which a server sends a request on. -/
def isRedirect (status : Nat) : Bool := [301, 302, 303, 307, 308].contains status

/-- Where the request is sent on to; a URL that cannot be written in a request is passed over. -/
def Answer.next? (a : Answer) : Option Location :=
  if isRedirect a.status then
    a.location.filter fun
      | .web u => isWritable u
      | .other _ => true
  else none

/-- Asks for a URL, and goes on with `follow` if the answer sends the request on. -/
def exchange (w : Web) (u : Url)
    (follow : Location → List Request × Except String Answer) :
    List Request × Except String Answer :=
  match w.answer? u.target with
  | none => ([request u], .error (noAnswer u))
  | some a =>
    match a.next? with
    | none => ([request u], .ok a)
    | some location =>
      let (sent, answer) := follow location
      (request u :: sent, answer)

/-- Asks for a URL, and is sent on `left` times at most. -/
def follow (w : Web) : (left : Nat) → Url → List Request × Except String Answer
  | 0, u => w.exchange u fun _ =>
    ([], .error (failedFor "error following redirect" u.target.toText))
  | left + 1, u => w.exchange u fun
    | .web v => w.follow left v
    | .other text => ([], .error (failedFor "builder error" text))

def redirectLimit : Nat := 10

/-- Asks for a URL: the requests sent, and the last answer or why there is none. -/
def send (w : Web) (u : Url) : List Request × Except String Answer :=
  if isWritable u then w.follow redirectLimit u else ([], .error (noAnswer u))

/-- A fault in receiving a body. -/
inductive BodyFault where
  | tooLong
  | broken

/-- The receipt of a body: everything that is held of it on the way, and what it ends with. -/
structure Receipt where
  held : List ByteArray
  result : Except BodyFault ByteArray

/-- Takes in one chunk after another, unless the body grows beyond the limit. -/
def collect (limit : Nat) (complete : Bool) : (body : ByteArray) → List ByteArray → Receipt
  | body, [] => ⟨[body], if complete then .ok body else .error .broken⟩
  | body, chunk :: rest =>
    if limit < body.size + chunk.size then ⟨[body], .error .tooLong⟩
    else
      let later := collect limit complete (body ++ chunk) rest
      ⟨body :: later.held, later.result⟩

/-- Receives the body of an answer; one that is announced as too long is not even begun. -/
def Answer.receive (a : Answer) (limit : Nat) : Receipt :=
  if a.announced.any (limit < ·) then ⟨[], .error .tooLong⟩
  else collect limit a.complete .empty a.chunks

/-- The whole body without a limit, if it arrives. -/
def Answer.wholeBody? (a : Answer) : Option ByteArray :=
  if a.complete then some (a.chunks.foldl (· ++ ·) .empty) else none

end Web

end PlayerRegistry
