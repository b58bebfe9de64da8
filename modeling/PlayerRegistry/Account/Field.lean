import PlayerRegistry.Error
import PlayerRegistry.Text.Blank
import PlayerRegistry.Text.Quoted
import PlayerRegistry.Uuid

/-!
# Account fields

The rules a username, a player name, a language, a skin model and a UUID have to meet. Each check
names the form field it is about.
-/

namespace PlayerRegistry

/-- The longest player name that game clients accept. -/
def maxPlayerName : Nat := 16

inductive SkinModel where
  | classic
  | slim
  deriving DecidableEq, Repr, Inhabited

namespace SkinModel

def name : SkinModel → String
  | classic => "classic"
  | slim => "slim"

def ofName? : String → Option SkinModel
  | "classic" => some classic
  | "slim" => some slim
  | _ => none

@[simp]
theorem ofName?_name (m : SkinModel) : ofName? m.name = some m := by cases m <;> rfl

end SkinModel

/-- The codes that a preferred language may have. -/
def languages : List String :=
  ["ar", "be", "bg", "ca", "cs", "da", "de", "el", "en", "es", "et", "fi", "fr", "ga", "hi", "hr",
    "hu", "in", "is", "it", "iw", "ja", "ko", "lt", "lv", "mk", "ms", "mt", "nb", "nl", "nn", "no",
    "pl", "pt", "ro", "ru", "sk", "sl", "sq", "sr", "sv", "th", "tr", "uk", "vi", "zh"]

namespace Field

/-- A username is not blank and can serve as the first player name. -/
def checkUsername (username : String) : Result Unit :=
  if Text.trim username.toList = [] then
    .error (.validation "username" "username can't be blank")
  else if maxPlayerName < username.length then
    .error (.validation "username" "username must be 16 characters or less")
  else .ok ()

def checkPlayerName (name : String) : Result Unit :=
  if name.length = 0 ∨ maxPlayerName < name.length then
    .error (.validation "playerName"
      "player name must be between 1 and 16 characters (inclusive)")
  else .ok ()

def checkLanguage (language : String) : Result Unit :=
  if language ∈ languages then .ok ()
  else .error (.validation "preferredLanguage"
    ("unsupported language " ++ Text.quoted language))

def readSkinModel (value : String) : Result SkinModel :=
  match SkinModel.ofName? value with
  | some model => .ok model
  | none => .error (.validation "skinModel" ("unknown skin model " ++ Text.quoted value))

/-- The UUID written in `value`, in its dashed lower-case form. -/
def readUuid (field value : String) : Result String :=
  match Uuid.ofChars? (Text.trim value.toList) with
  | some uuid => .ok uuid.toText
  | none => .error (.validation field "not a valid UUID")

end Field

end PlayerRegistry
