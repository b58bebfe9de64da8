import PlayerRegistry.Config.Size
import PlayerRegistry.Number.Binary64

/-!
# Configuration

The settings of a registry and their defaults.
-/

namespace PlayerRegistry

namespace Config

structure RateLimit where
  enabled : Bool := true
  requestsPerSecond : Binary64 := .ofNat 10
  deriving DecidableEq

structure BodySize where
  enabled : Bool := false
  /-- A size such as `512K`, `2M` or a plain count of bytes. -/
  sizeLimit : String := "1M"
  deriving DecidableEq

/-- A service that players may come from. -/
structure FallbackServer where
  nickname : String := ""
  sessionUrl : String := ""
  accountUrl : String := ""
  skinDomain : String := ""
  deriving DecidableEq

/-- Who may log in without an account: every name that the pattern covers, with one shared
password. -/
structure AnonymousLogin where
  allow : Bool := false
  usernamePattern : String := ""
  password : String := ""
  deriving DecidableEq

structure NewPlayers where
  allow : Bool := true
  allowChoosingUuid : Bool := false
  deriving DecidableEq

/-- Players who bring an account of the named provider with them. -/
structure ExistingPlayers where
  allow : Bool := true
  nickname : String := "Mojang"
  sessionUrl : String := "https://sessionserver.mojang.com"
  accountUrl : String := "https://api.mojang.com"
  setSkinUrl : String := "https://www.minecraft.net/msaprofile/mygames/editskin"
  requireSkinVerification : Bool := true
  deriving DecidableEq

end Config

structure Config where
  instanceName : String := "Ygg Identity"
  applicationOwner : String := "Anonymous"
  domain : String := "ygg.example.com"
  baseUrl : String := "https://ygg.example.com"
  listenAddress : String := "0.0.0.0:9090"
  stateDirectory : String := "/var/lib/ygg-identity"
  dataDirectory : String := "/var/lib/ygg-identity/data"
  logRequests : Bool := true
  hideListenAddress : Bool := false
  /-- Sessions live on after the expiry that is stored with them. -/
  disableTokenExpiry : Bool := false
  defaultPreferredLanguage : String := "en"
  /-- Greatest width of a skin or cape, in pixels. -/
  skinSizeLimit : UInt32 := 128
  /-- Greatest size of an encoded skin or cape, in bytes. -/
  assetByteLimit : Nat := 1024 * 1024
  allowChangingPlayerName : Bool := true
  minPasswordLength : Nat := 1
  fetchTimeoutSecs : Nat := 10
  /-- Textures may come from loopback, private and link-local addresses. -/
  allowPrivateAssetHosts : Bool := false
  rateLimit : Config.RateLimit := {}
  bodySize : Config.BodySize := {}
  fallbackServers : List Config.FallbackServer :=
    [{ nickname := "Mojang"
       sessionUrl := "https://sessionserver.mojang.com"
       accountUrl := "https://api.mojang.com"
       skinDomain := "textures.minecraft.net" }]
  anonymousLogin : Config.AnonymousLogin := {}
  newPlayers : Config.NewPlayers := {}
  existingPlayers : Config.ExistingPlayers := {}
  deriving DecidableEq

namespace Config

/-- The limit of a request body in bytes, if there is one. -/
def bodySizeLimit (c : Config) : Result (Option Nat) :=
  if c.bodySize.enabled then (Size.parse c.bodySize.sizeLimit).map some else .ok none

def databaseName : String := "ygg-identity.db"

/-- A file in a directory; the empty directory is the current one. -/
def joinPath (directory name : String) : String :=
  if directory = "" then name
  else if directory.toList.getLast? = some '/' then directory ++ name
  else directory ++ "/" ++ name

def databasePath (c : Config) : String := joinPath c.stateDirectory databaseName

end Config

end PlayerRegistry
