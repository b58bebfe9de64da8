import PlayerRegistry.Account.Login
import PlayerRegistry.Account.Update
import PlayerRegistry.Http.Form
import PlayerRegistry.Http.Multipart
import PlayerRegistry.Json.Reader

/-!
# Requests as forms

What a player asks for, as read from the fields of a form or from a JSON record.
-/

namespace PlayerRegistry

open Http (Form.required? Form.optional?)
open Http.Multipart (Part)

def readFlag? : Option String → Option Bool
  | none => some false
  | some "true" => some true
  | some "false" => some false
  | some _ => none

def RegisterRequest.ofForm? (fields : List (String × String)) : Option RegisterRequest := do
  return {
    username := ← Form.required? fields "username"
    password := ← Form.required? fields "password"
    chosenUuid := ← Form.optional? fields "chosenUuid"
    existingPlayer := ← readFlag? (← Form.optional? fields "existingPlayer") }

def LoginRequest.ofForm? (fields : List (String × String)) : Option LoginRequest := do
  return {
    username := ← Form.required? fields "username"
    password := ← Form.required? fields "password" }

def RegisterRequest.ofJson? (j : Json) : Option RegisterRequest := do
  match ← Json.fields? ["username", "password", "chosenUuid", "existingPlayer"] j with
  | [some (.string username), some (.string password), chosen, existing] =>
    let chosenUuid ← match chosen with
      | none | some .null => some none
      | some (.string text) => some (some text)
      | some _ => none
    let existingPlayer ← match existing with
      | none => some false
      | some (.bool b) => some b
      | some _ => none
    return { username, password, chosenUuid, existingPlayer }
  | _ => none

def LoginRequest.ofJson? (j : Json) : Option LoginRequest := do
  match ← Json.texts? ["username", "password"] j with
  | [username, password] => return { username, password }
  | _ => none

namespace UpdateRequest

/-- What has been read of a form so far. The file and the URL of a texture may come in either order,
so each has a place of its own. -/
structure Draft where
  playerName : Option String := none
  preferredLanguage : Option String := none
  password : Option String := none
  skinModel : Option String := none
  skinFile : Option Texture.Source := none
  skinUrl : Option Texture.Source := none
  capeFile : Option Texture.Source := none
  capeUrl : Option Texture.Source := none

/-- A file that a part holds. A browser sends an empty one where no file was chosen. -/
def file? (p : Part) : Option Texture.Source :=
  if p.data = [] then none else some (.upload ⟨p.data.toArray⟩)

/-- A URL that a part holds, unless it is blank. -/
def url? (p : Part) : Option Texture.Source :=
  if Text.trim p.text.toList = [] then none else some (.url p.text)

/-- The draft after one part more: what the part holds takes the place of what was read before. -/
def Draft.add (d : Draft) (p : Part) : Draft :=
  match p.name with
  | "playerName" => { d with playerName := some p.text }
  | "preferredLanguage" => { d with preferredLanguage := some p.text }
  | "password" => { d with password := some p.text }
  | "skinModel" => { d with skinModel := some p.text }
  | "skinFile" => { d with skinFile := (file? p).or d.skinFile }
  | "skinUrl" => { d with skinUrl := (url? p).or d.skinUrl }
  | "capeFile" => { d with capeFile := (file? p).or d.capeFile }
  | "capeUrl" => { d with capeUrl := (url? p).or d.capeUrl }
  | _ => d

/-- A file counts more than a URL. -/
def Draft.request (d : Draft) : UpdateRequest where
  playerName := d.playerName
  preferredLanguage := d.preferredLanguage
  password := d.password
  skinModel := d.skinModel
  skin := d.skinFile.or d.skinUrl
  cape := d.capeFile.or d.capeUrl

/-- The request of a form, read part by part. -/
def ofParts (parts : List Part) : UpdateRequest := (parts.foldl Draft.add {}).request

end UpdateRequest

end PlayerRegistry
