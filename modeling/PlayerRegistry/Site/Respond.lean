import PlayerRegistry.Account.Delete
import PlayerRegistry.Account.Record
import PlayerRegistry.Http.Cookie
import PlayerRegistry.Site.Forms
import PlayerRegistry.Site.Route

/-!
# Responses

How the registry answers requests: limits first, then the route, the method, and what is done there.
-/

namespace PlayerRegistry

open Http (Request Response)

/-- The state that requests share. -/
structure Site where
  registry : Registry
  limiter : Option RateLimit.Limiter

namespace Site

/-- Before the first request. -/
def ofService (s : Service) : Site := ⟨.empty, s.limiter⟩

/-- Work on a request that ends with a response, or early with another. -/
abbrev Answering := ExceptT Response (Flow Registry)

def answering (w : Work α) : Answering α := w.adapt Response.ofError

/-- The greatest body that is read where no limit is set. -/
def usualBodyLimit : Nat := 2 * 1024 * 1024

/-- The greatest body that is read of a request. -/
def bodyLimit (limit : Option Nat) (q : Request) : Nat :=
  match limit with
  | none => usualBodyLimit
  | some n => min n (q.announcedLength?.getD n)

/-- The body, if it is not too long. -/
def body? (limit : Option Nat) (q : Request) : Option (List UInt8) :=
  if q.body.size ≤ bodyLimit limit q then some q.body.data.toList else none

def bodyTooLong : Response :=
  .ofText 413 "Failed to buffer the request body: length limit exceeded"

def noForm : Response :=
  .ofText 415 "Form requests must have `Content-Type: application/x-www-form-urlencoded`"

def isForm (q : Request) : Bool :=
  (q.header? "content-type").any (·.startsWith "application/x-www-form-urlencoded")

/-- What `read?` makes of the fields in the body. -/
def formOf (limit : Option Nat) (q : Request) (read? : List (String × String) → Option α) :
    Answering α := do
  if !isForm q then throw noForm
  match body? limit q with
  | none => throw bodyTooLong
  | some body =>
    match read? (Http.Form.fields body) with
    | some a => return a
    | none => throw (.ofText 422 "Failed to deserialize form body")

/-- The username in the query. -/
def queryName (q : Request) : Answering String := do
  match Http.Form.required? (Http.Form.fields (Utf8.encode q.query)) "username" with
  | some name => return name
  | none => throw (.ofText 400 "Failed to deserialize query string")

/-- The account whose session the request shows. -/
def authenticate (s : Scene) (q : Request) : Work Account := do
  match q.sessionToken? with
  | none => throw (.authentication "Not logged in.")
  | some token =>
    match ← s.resolve token with
    | some a => return a
    | none => throw (.authentication "Session expired, log in again.")

def noBoundary : Response := .ofText 400 "Invalid `boundary` for `multipart/form-data` request"

def updateOf (limit : Option Nat) (q : Request) : Answering UpdateRequest := do
  match (q.header? "content-type").bind Http.Multipart.boundary? with
  | none => throw noBoundary
  | some boundary =>
    match (body? limit q).bind (Http.Multipart.parts? boundary) with
    | some parts => return .ofParts parts
    | none => throw (.ofError (.validation "form" "malformed form data: not made of parts"))

def profilePage (s : Scene) (status : Nat) (a : Account) : Response :=
  .ofJson status (a.view s.service.config.baseUrl).toJson

/-- The profile, with the cookie of a new session. -/
def signedIn (s : Scene) (status : Nat) (x : SignedIn) : Response :=
  (profilePage s status x.account).withHeader "set-cookie"
    (Http.sessionCookie x.session.token x.session.expiresAt)

/-- Nothing, with a cookie that ends the session. -/
def signedOut : Response := (Response.empty 204).withHeader "set-cookie" Http.clearedCookie

def healthPage : Response :=
  .ofJson 200 (.object [("status", .string "ok"), ("version", .string "0.1.0")])

def noRoute : Response :=
  .ofJson 404 (.object [("error", .string "NotFound"), ("message", .string "Endpoint not found")])

/-- A segment of the path, percent-decoded. -/
def segment (name : String) (cs : List Char) : Answering String :=
  match Http.percentDecoded? cs with
  | some text => return text
  | none => throw (.ofText 400 ("Invalid URL: Invalid UTF-8 in `" ++ name ++ "`"))

/-- The hash in a file name that ends as that of a picture. -/
def hashOfFile? (file : String) : Option String :=
  if file.endsWith ".png" then some (String.ofList (file.toList.take (file.length - 4))) else none

def texturePage (s : Scene) (kind file : String) : Work Response := do
  let missing : Error := .notFound ("No such texture: " ++ kind ++ "/" ++ file)
  match Texture.Kind.ofName? kind, hashOfFile? file with
  | some k, some hash =>
    match ← Texture.find s k hash with
    | some png => return .ofPng png "public, max-age=31536000, immutable"
    | none => throw missing
  | _, _ => throw missing

def challengePage (s : Scene) (username : String) : Work Response := do
  Work.ofResult (Field.checkUsername username)
  return .ofPng (Challenge.skin s.service.key username) "no-store"

/-- Where a player finds the challenge skin for a username. -/
def challengeUrl (s : Scene) (username : String) : String :=
  Text.withoutTrailingSlashes s.service.config.baseUrl ++ "/challenge-skin?username="
    ++ Percent.encodeComponent username

def migrationPage (s : Scene) (username : String) : Work Response := do
  Work.ofResult (Field.checkUsername username)
  match s.service.policy.migration with
  | none => throw Scene.migrationDisabled
  | some m => return .ofJson 200 (.object [("nickname", .string m.nickname),
      ("requireSkinVerification", .bool m.requireSkinVerification),
      ("setSkinUrl", .string m.setSkinUrl),
      ("challengeSkinUrl", .string (challengeUrl s username))])

/-- What is done at a route. -/
def visit (limit : Option Nat) (s : Scene) (q : Request) : Route → Answering Response
  | .health => return healthPage
  | .register => do
    let r ← formOf limit q RegisterRequest.ofForm?
    return signedIn s 201 (← answering (s.register r))
  | .login => do
    let r ← formOf limit q LoginRequest.ofForm?
    return signedIn s 200 (← answering (s.login r))
  | .logout => do
    let a ← answering (authenticate s q)
    let _ ← answering (Scene.logout a)
    return signedOut
  | .update => do
    let a ← answering (authenticate s q)
    let r ← updateOf limit q
    return profilePage s 200 (← answering (s.updateProfile a r))
  | .deleteAccount => do
    let a ← answering (authenticate s q)
    answering (s.deleteAccount a)
    return signedOut
  | .profile => do return profilePage s 200 (← answering (authenticate s q))
  | .texture kind file => do
    let kind ← segment "kind" kind
    let file ← segment "file" file
    answering (texturePage s kind file)
  | .challengeSkin => do answering (challengePage s (← queryName q))
  | .migration => do answering (migrationPage s (← queryName q))

/-- The response of a route. -/
def respondAt (limit : Option Nat) (s : Scene) (q : Request) (r : Route) :
    Flow Registry Response := do
  if !r.methods.contains q.method then return Response.empty 405
  match ← (visit limit s q r).run with
  | .ok response => return response
  | .error response => return response

def isTooLong (limit : Option Nat) (q : Request) : Bool :=
  limit.any fun n => q.announcedLength?.any (n < ·)

/-- The response to a request that is not refused for coming too often; `limit` is the length of
body that the service allows. -/
def respondAdmitted (limit : Option Nat) (s : Scene) (q : Request) : Flow Registry Response :=
  if isTooLong limit q then return .ofText 413 "length limit exceeded"
  else match Route.ofPath? q.path with
    | none => return noRoute
    | some r => respondAt limit s q r

/-- Clients whose address is not known count as one. -/
def clientOf (q : Request) : IpAddress := q.client.getD (.v4 ⟨0⟩)

/-- Asks the limiter, if there is one, whether a request may come. -/
def passLimiter (s : Scene) (q : Request) : Flow Site Bool :=
  Flow.act fun site =>
    match site.limiter with
    | none => (true, site)
    | some l =>
      let (admitted, l) := l.check s.now.nanos.toNat (clientOf q)
      (admitted, { site with limiter := some l })

/-- The response as it is sent: with the methods of the path, if the one asked for is not among
them, and without a body where only the head is asked for. -/
def asSent (q : Request) (response : Response) : Response :=
  let response := match (Route.ofPath? q.path).map Route.methods with
    | some methods =>
      if methods.contains q.method then response
      else response.withHeader "allow" (",".intercalate methods)
    | none => response
  if q.method = "HEAD" then { response with body := .empty } else response

def respond (limit : Option Nat) (s : Scene) (q : Request) : Flow Site Response := do
  if ← passLimiter s q then
    let response ← (respondAdmitted limit s q).onPart (·.registry)
      fun r site => { site with registry := r }
    return asSent q response
  else return asSent q (.ofError .rateLimited)

end Site

end PlayerRegistry
