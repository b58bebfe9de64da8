import PlayerRegistry.Texture.Image
import PlayerRegistry.Web.Basic

/-!
# Fetching textures

A texture that is given by a URL is fetched only from public hosts, unless the registry is set up
otherwise, and only up to a limit of bytes.
-/

namespace PlayerRegistry

structure Fetcher where
  byteLimit : Nat
  allowPrivateHosts : Bool

namespace Fetcher

open Web (Call)

/-- The URL of the web that a text stands for. -/
def readUrl (field text : String) : Result Url :=
  match Url.parse? (Text.trimmed text) with
  | none => .error (.validation field "invalid URL")
  | some (.other _) => .error (.validation field "URL must use http or https")
  | some (.web u) => .ok u

/-- The addresses of a host; one that is written as an address has no other. -/
def addresses (w : Web) : Host → Result (List IpAddress)
  | .ip a => .ok [a]
  | .name name =>
    match w.addresses? name with
    | some as => .ok as
    | none => .error (.externalFetch
        ("Failed to resolve " ++ String.ofList name ++ ": no such host"))

/-- Refuses hosts with an address that is not public. -/
def checkPublic (w : Web) (field : String) (u : Url) : Result Unit := do
  let as ← addresses w u.host
  if as.all IpAddress.isPublic then .ok ()
  else .error (.validation field "URL must point to a public host")

def tooLong (f : Fetcher) (field : String) : Error :=
  .validation field (Texture.tooLongText f.byteLimit)

/-- What an answer gives. -/
def receive (f : Fetcher) (field : String) (u : Url) : Except String Web.Answer → Result ByteArray
  | .error reason => .error (.externalFetch ("Failed to fetch " ++ u.toText ++ ": " ++ reason))
  | .ok a =>
    if !Http.isSuccess a.status then
      .error (.externalFetch (u.toText ++ " returned " ++ Http.statusText a.status))
    else match (a.receive f.byteLimit).result with
      | .ok body => .ok body
      | .error .tooLong => .error (f.tooLong field)
      | .error .broken => .error (.externalFetch
          ("Failed to read " ++ u.toText ++ ": error decoding response body"))

/-- The bytes at a URL that was given in a form field. -/
def fetch (f : Fetcher) (w : Web) (field text : String) : Call ByteArray :=
  let admitted : Result Url := do
    let u ← readUrl field text
    if !f.allowPrivateHosts then checkPublic w field u
    return u
  match admitted with
  | .error e => .fail e
  | .ok u =>
    let (sent, answer) := w.send u
    ⟨sent, f.receive field u answer⟩

end Fetcher

end PlayerRegistry
