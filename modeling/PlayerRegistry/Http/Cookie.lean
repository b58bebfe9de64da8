import PlayerRegistry.Http.Message
import PlayerRegistry.Text.Blank
import PlayerRegistry.Text.Percent
import PlayerRegistry.Time.Text

/-!
# The session cookie

The `Set-Cookie` values that hand a session to the browser and take it back, and the reader of the
`Cookie` header.
-/

namespace PlayerRegistry.Http

def sessionCookieName : String := "browserToken"

def cookieText (token expires : String) : String :=
  sessionCookieName ++ "=" ++ token ++ "; Path=/; Expires=" ++ expires
    ++ "; HttpOnly; SameSite=Lax"

/-- Hands `token` to the browser until `expires`. -/
def sessionCookie (token : String) (expires : Instant) : String :=
  cookieText token (Time.httpDate expires)

/-- Makes the browser forget its session. -/
def clearedCookie : String := cookieText "" (Time.httpDate (.ofSeconds 0))

def percentDecoded? (cs : List Char) : Option String :=
  (Utf8.decode? (Percent.decodeBytes (Utf8.encode cs))).map String.ofList

/-- Name and value of a cookie, percent-decoded. -/
def readCookie? (cs : List Char) : Option (String × String) := do
  if !cs.contains '=' then none
  let name := Text.trim (cs.takeWhile (· ≠ '='))
  let value := Text.trim ((cs.dropWhile (· ≠ '=')).drop 1)
  if name.isEmpty then none
  return (← percentDecoded? name, ← percentDecoded? value)

/-- The cookies of a request, those of all its headers. -/
def Request.cookies (q : Request) : List (String × String) :=
  (q.headers.filter fun h => h.1 = "cookie" && Request.isReadable h.2).flatMap fun h =>
    (splitAtChar ';' h.2.toList).filterMap readCookie?

/-- The token that the browser shows; of several cookies of that name the last one counts. -/
def Request.sessionToken? (q : Request) : Option String :=
  (q.cookies.reverse.lookup sessionCookieName).filter (· ≠ "")

end PlayerRegistry.Http
