import PlayerRegistry.Account.Register
import PlayerRegistry.Texture.Ingest

/-!
# Changing a profile

An update works on the account as it was when the request began. Everything is checked before
anything is stored, and the profile is written in one step at the end.
-/

namespace PlayerRegistry

/-- The changes that a player asks for; a field that is missing stays. -/
structure UpdateRequest where
  playerName : Option String
  preferredLanguage : Option String
  password : Option String
  skinModel : Option String
  skin : Option Texture.Source
  cape : Option Texture.Source

/-- The new password, if there is one: an empty one asks for no change. -/
def UpdateRequest.newPassword (q : UpdateRequest) : Option String := q.password.filter (· ≠ "")

namespace Scene

def checkNewName (s : Scene) (a : Account) (name : String) : Result Unit := do
  Field.checkPlayerName name
  if s.service.policy.canChangePlayerName a.profile.playerName name then .ok ()
  else .error (.forbidden "Changing your player name is not allowed.")

/-- The profile with the changes that are plain text, all of them checked. -/
def textChanges (s : Scene) (a : Account) (q : UpdateRequest) : Result ProfileColumns := do
  if let some name := q.playerName then s.checkNewName a name
  if let some language := q.preferredLanguage then Field.checkLanguage language
  let model ← match q.skinModel with
    | some model => Field.readSkinModel model
    | none => .ok a.profile.skinModel
  if let some password := q.newPassword then s.checkPassword password
  return { a.profile with
    playerName := q.playerName.getD a.profile.playerName
    language := q.preferredLanguage.getD a.profile.language
    skinModel := model }

def ingestIf (s : Scene) (kind : Texture.Kind) : Option Texture.Source → Work (Option Texture.Image)
  | none => pure none
  | some source => do return some (← Texture.ingest s kind source)

/-- Stores an image, if there is one, and makes it the texture of the profile. -/
def keepIf (s : Scene) (image : Option Texture.Image) (p : ProfileColumns) :
    Work ProfileColumns := do
  match image with
  | none => return p
  | some image => return p.setTexture image.kind (← Texture.keep s image)

/-- Hashes the new password, if there is one. -/
def passwordIf (s : Scene) (password : Option String) (p : ProfileColumns) :
    Work ProfileColumns := do
  match password with
  | none => return p
  | some password => return { p with password := ← s.newPassword password }

/-- Changes the profile of an account, of which `a` is what the request has seen. -/
def updateProfile (s : Scene) (a : Account) (q : UpdateRequest) : Work Account := do
  let profile ← Work.ofResult (s.textChanges a q)
  let skin ← s.ingestIf .skin q.skin
  let cape ← s.ingestIf .cape q.cape
  let profile ← s.passwordIf q.newPassword profile
  let profile ← s.keepIf skin profile
  let profile ← s.keepIf cape profile
  let updated := { a with profile }
  Work.conflictAs "That player name is taken." (Work.onAccounts (·.save updated))
  return updated

end Scene

end PlayerRegistry
