import PlayerRegistry.Config.Basic
import PlayerRegistry.Toml.Value

/-!
# Settings of a table

A table of settings is laid over the defaults: a setting that it names has the table's value, every
other setting keeps its default, and unknown keys do not matter. A group of settings may also be
written as an array of its values in their order.
-/

namespace PlayerRegistry.Config

open Toml (Value Table)

/-- What can be read from a value, if the value has the right type and range. -/
abbrev Reader (α : Type) := Value → Option α

namespace Reader

def text : Reader String
  | .string s => some s
  | _ => none

def flag : Reader Bool
  | .boolean b => some b
  | _ => none

/-- A natural number below `bound`. -/
def count (bound : Nat) : Reader Nat
  | .integer n => if 0 ≤ n ∧ n < bound then some n.toNat else none
  | _ => none

def width : Reader UInt32 := fun v => (count UInt32.size v).map UInt32.ofNat

def rate : Reader Binary64
  | .float x => some x
  | .integer n => some (Binary64.ofInt n)
  | _ => none

def list (item : Reader α) : Reader (List α)
  | .array items => items.mapM item
  | _ => none

end Reader

/-- The values of a group: by name, or in order. -/
inductive Settings where
  | named (table : Table)
  | listed (items : List Value)

/-- A date counts as a group in which no setting is named. -/
def Settings.ofValue? : Value → Option Settings
  | .table t => some (.named t)
  | .array items => some (.listed items)
  | .datetime => some (.named [])
  | _ => none

/-- The value given to the setting that has this name and this place in its group. -/
def Settings.get? (s : Settings) (place : Nat) (name : String) : Option Value :=
  match s with
  | .named t => t.get? name
  | .listed items => items[place]?

/-- The setting as given, or its default. -/
def Settings.read (s : Settings) (place : Nat) (name : String) (reader : Reader α)
    (default : α) : Option α :=
  match s.get? place name with
  | none => some default
  | some v => reader v

/-- Reads a group of settings. -/
def Reader.group (read : Settings → Option α) : Reader α := fun v =>
  (Settings.ofValue? v).bind read

def RateLimit.ofSettings (s : Settings) : Option RateLimit := do
  let d : RateLimit := {}
  return {
    enabled := ← s.read 0 "enabled" .flag d.enabled
    requestsPerSecond := ← s.read 1 "requests_per_second" .rate d.requestsPerSecond }

def BodySize.ofSettings (s : Settings) : Option BodySize := do
  let d : BodySize := {}
  return {
    enabled := ← s.read 0 "enabled" .flag d.enabled
    sizeLimit := ← s.read 1 "size_limit" .text d.sizeLimit }

def FallbackServer.ofSettings (s : Settings) : Option FallbackServer := do
  let d : FallbackServer := {}
  return {
    nickname := ← s.read 0 "nickname" .text d.nickname
    sessionUrl := ← s.read 1 "session_url" .text d.sessionUrl
    accountUrl := ← s.read 2 "account_url" .text d.accountUrl
    skinDomain := ← s.read 3 "skin_domain" .text d.skinDomain }

def AnonymousLogin.ofSettings (s : Settings) : Option AnonymousLogin := do
  let d : AnonymousLogin := {}
  return {
    allow := ← s.read 0 "allow" .flag d.allow
    usernamePattern := ← s.read 1 "username_regex" .text d.usernamePattern
    password := ← s.read 2 "password" .text d.password }

def NewPlayers.ofSettings (s : Settings) : Option NewPlayers := do
  let d : NewPlayers := {}
  return {
    allow := ← s.read 0 "allow" .flag d.allow
    allowChoosingUuid := ← s.read 1 "allow_choosing_uuid" .flag d.allowChoosingUuid }

def ExistingPlayers.ofSettings (s : Settings) : Option ExistingPlayers := do
  let d : ExistingPlayers := {}
  return {
    allow := ← s.read 0 "allow" .flag d.allow
    nickname := ← s.read 1 "nickname" .text d.nickname
    sessionUrl := ← s.read 2 "session_url" .text d.sessionUrl
    accountUrl := ← s.read 3 "account_url" .text d.accountUrl
    setSkinUrl := ← s.read 4 "set_skin_url" .text d.setSkinUrl
    requireSkinVerification :=
      ← s.read 5 "require_skin_verification" .flag d.requireSkinVerification }

/-- The configuration that a table of settings stands for; none if a setting has a value of the
wrong type or out of range. -/
def ofTable? (t : Table) : Option Config := do
  let s := Settings.named t
  let d : Config := {}
  let wordBound := UInt64.size
  return {
    instanceName := ← s.read 0 "instance_name" .text d.instanceName
    applicationOwner := ← s.read 1 "application_owner" .text d.applicationOwner
    domain := ← s.read 2 "domain" .text d.domain
    baseUrl := ← s.read 3 "base_url" .text d.baseUrl
    listenAddress := ← s.read 4 "listen_address" .text d.listenAddress
    stateDirectory := ← s.read 5 "state_directory" .text d.stateDirectory
    dataDirectory := ← s.read 6 "data_directory" .text d.dataDirectory
    logRequests := ← s.read 7 "log_requests" .flag d.logRequests
    hideListenAddress := ← s.read 8 "hide_listen_address" .flag d.hideListenAddress
    disableTokenExpiry := ← s.read 9 "disable_token_expiry" .flag d.disableTokenExpiry
    defaultPreferredLanguage :=
      ← s.read 10 "default_preferred_language" .text d.defaultPreferredLanguage
    skinSizeLimit := ← s.read 11 "skin_size_limit" .width d.skinSizeLimit
    assetByteLimit := ← s.read 12 "asset_byte_limit" (.count wordBound) d.assetByteLimit
    allowChangingPlayerName :=
      ← s.read 13 "allow_changing_player_name" .flag d.allowChangingPlayerName
    minPasswordLength :=
      ← s.read 14 "min_password_length" (.count wordBound) d.minPasswordLength
    fetchTimeoutSecs := ← s.read 15 "fetch_timeout_secs" (.count wordBound) d.fetchTimeoutSecs
    allowPrivateAssetHosts :=
      ← s.read 16 "allow_private_asset_hosts" .flag d.allowPrivateAssetHosts
    rateLimit := ← s.read 17 "rate_limit" (.group RateLimit.ofSettings) d.rateLimit
    bodySize := ← s.read 18 "body_size" (.group BodySize.ofSettings) d.bodySize
    fallbackServers :=
      ← s.read 19 "fallback_api_servers" (.list (.group FallbackServer.ofSettings))
        d.fallbackServers
    anonymousLogin :=
      ← s.read 20 "anonymous_login" (.group AnonymousLogin.ofSettings) d.anonymousLogin
    newPlayers :=
      ← s.read 21 "registration_new_player" (.group NewPlayers.ofSettings) d.newPlayers
    existingPlayers :=
      ← s.read 22 "registration_existing_player" (.group ExistingPlayers.ofSettings)
        d.existingPlayers }

end PlayerRegistry.Config
