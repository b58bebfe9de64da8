import PlayerRegistry.Config.Basic
import PlayerRegistry.Toml.Value

/-!
# Configurations as tables

The table that names every setting of a configuration, in the order of the fields.
-/

namespace PlayerRegistry.Config

open Toml (Value Table)

def count (n : Nat) : Value := .integer n

def RateLimit.toTable (r : RateLimit) : Table :=
  [("enabled", .boolean r.enabled), ("requests_per_second", .float r.requestsPerSecond)]

def BodySize.toTable (b : BodySize) : Table :=
  [("enabled", .boolean b.enabled), ("size_limit", .string b.sizeLimit)]

def FallbackServer.toTable (f : FallbackServer) : Table :=
  [("nickname", .string f.nickname), ("session_url", .string f.sessionUrl),
    ("account_url", .string f.accountUrl), ("skin_domain", .string f.skinDomain)]

def AnonymousLogin.toTable (a : AnonymousLogin) : Table :=
  [("allow", .boolean a.allow), ("username_regex", .string a.usernamePattern),
    ("password", .string a.password)]

def NewPlayers.toTable (n : NewPlayers) : Table :=
  [("allow", .boolean n.allow), ("allow_choosing_uuid", .boolean n.allowChoosingUuid)]

def ExistingPlayers.toTable (e : ExistingPlayers) : Table :=
  [("allow", .boolean e.allow), ("nickname", .string e.nickname),
    ("session_url", .string e.sessionUrl), ("account_url", .string e.accountUrl),
    ("set_skin_url", .string e.setSkinUrl),
    ("require_skin_verification", .boolean e.requireSkinVerification)]

def toTable (c : Config) : Table :=
  [("instance_name", .string c.instanceName),
    ("application_owner", .string c.applicationOwner),
    ("domain", .string c.domain),
    ("base_url", .string c.baseUrl),
    ("listen_address", .string c.listenAddress),
    ("state_directory", .string c.stateDirectory),
    ("data_directory", .string c.dataDirectory),
    ("log_requests", .boolean c.logRequests),
    ("hide_listen_address", .boolean c.hideListenAddress),
    ("disable_token_expiry", .boolean c.disableTokenExpiry),
    ("default_preferred_language", .string c.defaultPreferredLanguage),
    ("skin_size_limit", count c.skinSizeLimit.toNat),
    ("asset_byte_limit", count c.assetByteLimit),
    ("allow_changing_player_name", .boolean c.allowChangingPlayerName),
    ("min_password_length", count c.minPasswordLength),
    ("fetch_timeout_secs", count c.fetchTimeoutSecs),
    ("allow_private_asset_hosts", .boolean c.allowPrivateAssetHosts),
    ("rate_limit", .table c.rateLimit.toTable),
    ("body_size", .table c.bodySize.toTable),
    ("fallback_api_servers", .array (c.fallbackServers.map fun f => .table f.toTable)),
    ("anonymous_login", .table c.anonymousLogin.toTable),
    ("registration_new_player", .table c.newPlayers.toTable),
    ("registration_existing_player", .table c.existingPlayers.toTable)]

end PlayerRegistry.Config
