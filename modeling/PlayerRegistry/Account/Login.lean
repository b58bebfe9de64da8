import PlayerRegistry.Account.Register

/-!
# Logging in and out

A login needs the password of the account. Where anonymous players are welcome, a name that nobody
has yet and the password that all of them share make a new account. Every refusal is worded alike,
so that it does not tell whether the name is in use.
-/

namespace PlayerRegistry.Scene

def loginRefused : Error := .authentication "Incorrect username or password."

/-- Begins a session for an account, in place of the one before. -/
def beginSession (s : Scene) (a : Account) : Work SignedIn := do
  let session ← s.newSession
  let account ← Work.onAccounts fun t => t.issue a session
  return ⟨account, session⟩

/-- Begins a session for an account that has this password. -/
def loginTo (s : Scene) (a : Account) (password : String) : Work SignedIn := do
  let valid ← Work.ofResult (s.service.credentials.verify password a.profile.password)
  Work.require valid loginRefused
  s.beginSession a

/-- An account of this name, if there is one. -/
def findAccount (username : String) : Work (Option Account) :=
  Work.seeAccounts (·.findByUsername username)

/-- Whether the request is that of an anonymous player. -/
def isAnonymous (s : Scene) (q : LoginRequest) : Bool :=
  let p := s.service.policy
  p.canLoginAnonymously q.username && p.anonymousPassword ≠ "" && q.password = p.anonymousPassword

/-- Makes an account for an anonymous player. If another made it meanwhile, that one is used. -/
def loginAnonymously (s : Scene) (q : LoginRequest) : Work SignedIn := do
  let uuid ← s.newUuid
  try s.createAccount q.username q.password uuid
  catch
    | .conflict _ =>
      match ← findAccount q.username with
      | some a => s.loginTo a q.password
      | none => throw loginRefused
    | e => throw e

def login (s : Scene) (q : LoginRequest) : Work SignedIn := do
  if q.username = "" ∨ q.password = "" then throw loginRefused
  match ← findAccount q.username with
  | some a => s.loginTo a q.password
  | none => if s.isAnonymous q then s.loginAnonymously q else throw loginRefused

/-- The account that a token belongs to. -/
def resolve (s : Scene) (token : String) : Work (Option Account) :=
  Work.seeAccounts fun t => t.resolve s.service.enforcesExpiry s.now token

/-- Ends the session of an account. -/
def logout (a : Account) : Work Account :=
  Work.onAccounts fun t =>
    let (a, t) := t.revoke a
    (.ok a, t)

end PlayerRegistry.Scene
