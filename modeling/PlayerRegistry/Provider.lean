import PlayerRegistry.Bytes.Base64
import PlayerRegistry.Json.Reader
import PlayerRegistry.Text.Blank
import PlayerRegistry.Text.Percent
import PlayerRegistry.Uuid
import PlayerRegistry.Web.Basic

/-!
# Account providers

A provider that players bring their account from is asked for the id of a player, and for the skin
that the player wears there.
-/

namespace PlayerRegistry.Provider

open Web (Call)

structure Profile where
  id : String
  name : String
  deriving DecidableEq, Repr

def profile? (j : Json) : Option Profile := do
  match ← Json.texts? ["id", "name"] j with
  | [id, name] => some ⟨id, name⟩
  | _ => none

/-- The properties of a profile as pairs of name and value; none are given where the list is
missing. -/
def properties? (j : Json) : Option (List (String × String)) := do
  match ← Json.fields? ["properties"] j with
  | [none] => some []
  | [some (.array items)] => items.mapM fun item => do
    match ← Json.texts? ["name", "value"] item with
    | [name, value] => some (name, value)
    | _ => none
  | _ => none

def textureUrl? (j : Json) : Option String := do
  match ← Json.texts? ["url"] j with
  | [url] => some url
  | _ => none

/-- The URLs of textures by their names. -/
def textureUrls? (j : Json) : Option (List (String × String)) := do
  match ← Json.fields? ["textures"] j with
  | [none] => some []
  | [some (.object members)] => members.mapM fun m => do return (m.1, ← textureUrl? m.2)
  | _ => none

/-- The skin in the value of a textures property; the last of several counts. -/
def skinUrlOf (value : String) : Result (Option String) :=
  let urls := do
    let bytes ← Base64.decode? value.toList
    textureUrls? (← Json.ofBytes? ⟨bytes.toArray⟩)
  match urls with
  | some urls => .ok (urls.reverse.lookup "SKIN")
  | none => .error (.externalFetch "Invalid textures property: not an object of textures")

def profileAddress (accountUrl username : String) : String :=
  Text.withoutTrailingSlashes accountUrl ++ "/users/profiles/minecraft/"
    ++ Percent.encodeComponent username

def sessionAddress (sessionUrl uuid : String) : String :=
  Text.withoutTrailingSlashes sessionUrl ++ "/session/minecraft/profile/"
    ++ Uuid.withoutDashes uuid

/-- Asks for an address; one that is no URL of the web is never reached. -/
def ask (w : Web) (address : String) : List Web.Request × Except String Web.Answer :=
  match Url.parse? address with
  | some (.web u) => w.send u
  | _ => ([], .error "builder error")

/-- The JSON in the body of an answer. -/
def json? (a : Web.Answer) : Option Json := a.wholeBody?.bind Json.ofBytes?

def readProfile : Except String Web.Answer → Result (Option Profile)
  | .error reason => .error (.externalFetch ("Failed to reach account API: " ++ reason))
  | .ok a =>
    if a.status = 204 ∨ a.status = 404 then .ok none
    else if !Http.isSuccess a.status then
      .error (.externalFetch ("Account API returned " ++ Http.statusText a.status))
    else match (json? a).bind profile? with
      | some p => .ok (some p)
      | none => .error (.externalFetch "Invalid account API response: not a profile")

/-- The player of a name; none if the provider knows no such player. -/
def lookupProfile (w : Web) (accountUrl username : String) : Call (Option Profile) :=
  let (sent, answer) := ask w (profileAddress accountUrl username)
  ⟨sent, readProfile answer⟩

def readSkinUrl : Except String Web.Answer → Result (Option String)
  | .error reason => .error (.externalFetch ("Failed to reach session API: " ++ reason))
  | .ok a =>
    if !Http.isSuccess a.status then
      .error (.externalFetch ("Session API returned " ++ Http.statusText a.status))
    else match (json? a).bind properties? with
      | none => .error (.externalFetch "Invalid session API response: not a profile")
      | some properties =>
        match properties.lookup "textures" with
        | none => .ok none
        | some value => skinUrlOf value

/-- Where the skin is that the player of an id wears, if there is one. -/
def skinUrl (w : Web) (sessionUrl uuid : String) : Call (Option String) :=
  let (sent, answer) := ask w (sessionAddress sessionUrl uuid)
  ⟨sent, readSkinUrl answer⟩

end PlayerRegistry.Provider
