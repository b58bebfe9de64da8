import PlayerRegistry.Challenge
import PlayerRegistry.Provider
import PlayerRegistry.Registry

/-!
# Registration

A new account takes a fresh UUID or one of the player's choice; an account that is brought along
from a provider keeps the UUID that it has there.
-/

namespace PlayerRegistry

structure RegisterRequest where
  username : String
  password : String
  chosenUuid : Option String
  /-- Whether the player brings an account along. -/
  existingPlayer : Bool

/-- Username and password of a player who wants a session. -/
structure LoginRequest where
  username : String
  password : String

/-- An account together with the session that was begun for it. -/
structure SignedIn where
  account : Account
  session : Session

namespace Scene

/-- A session with a token that has not been given before. -/
def newSession (s : Scene) : Work Session := do
  return Session.mint (s.random.token (← Work.draw)) s.now

def newUuid (s : Scene) : Work String := do return (s.random.uuid (← Work.draw)).toText

/-- A password as it is kept, under a salt of its own. -/
def newPassword (s : Scene) (password : String) : Work PasswordHash := do
  let salt := s.random.salt (← Work.draw)
  Work.ofResult (s.service.credentials.newPassword password salt)

def checkPassword (s : Scene) (password : String) : Result Unit :=
  let c := s.service.credentials
  if c.isValidPassword password then .ok ()
  else .error (.validation "password"
    ("password must be at least " ++ toString (max c.minLength 1) ++ " characters"))

/-- Adds an account with a session. The username is also the first player name. -/
def createAccount (s : Scene) (username password uuid : String) : Work SignedIn := do
  let kept ← s.newPassword password
  let session ← s.newSession
  let account ← Work.onAccounts fun t => t.create {
    uuid := uuid
    username := username
    playerName := username
    password := kept
    language := s.service.config.defaultPreferredLanguage
    skinModel := .classic
    session := session.columns }
  return ⟨account, session⟩

def migrationDisabled : Error :=
  .forbidden "Registration from an existing account is disabled."

def skinNotVerified : Error := .authentication "Couldn't verify your skin, maybe try again?"

/-- The player with this id at the provider wears the challenge skin for the username. -/
def verifySkin (s : Scene) (m : Migration) (username id : String) : Work Unit := do
  match ← Work.call (Provider.skinUrl s.web m.sessionUrl id) with
  | none => throw skinNotVerified
  | some url =>
    let file ← Work.call (s.service.fetcher.fetch s.web "skin" url)
    Work.require (Challenge.accepts s.service.key username file) skinNotVerified

/-- The UUID that a player has at the provider. -/
def migratedUuid (s : Scene) (username : String) : Work String := do
  match s.service.policy.migration with
  | none => throw migrationDisabled
  | some m =>
    match ← Work.call (Provider.lookupProfile s.web m.accountUrl username) with
    | none => throw (.authentication ("Couldn't find your account on " ++ m.nickname ++ "."))
    | some profile =>
      if m.requireSkinVerification then s.verifySkin m username profile.id
      match Uuid.parse? profile.id with
      | some uuid => return uuid.toText
      | none => throw (.externalFetch (m.nickname ++ " returned an invalid UUID"))

/-- The UUID of a new account. -/
def chosenOrNewUuid (s : Scene) (chosen : Option String) : Work String := do
  Work.ofResult (s.service.policy.checkRegisterNew chosen.isSome)
  match chosen with
  | some text => Work.ofResult (Field.readUuid "chosenUuid" text)
  | none => s.newUuid

def checkRegistration (s : Scene) (q : RegisterRequest) : Result Unit := do
  Field.checkUsername q.username
  if q.password = "" then .error (.validation "password" "password can't be blank")
  s.checkPassword q.password

def register (s : Scene) (q : RegisterRequest) : Work SignedIn := do
  Work.ofResult (s.checkRegistration q)
  let uuid ← if q.existingPlayer then s.migratedUuid q.username
    else s.chosenOrNewUuid q.chosenUuid
  Work.conflictAs "That username is taken." (s.createAccount q.username q.password uuid)

end Scene

end PlayerRegistry
