import PlayerRegistry.Config.Check
import PlayerRegistry.Credentials
import PlayerRegistry.RateLimit
import PlayerRegistry.SigningKey.Basic
import PlayerRegistry.Texture.Image
import PlayerRegistry.Web.Fetcher

/-!
# The service

What a registry works with once it is set up: the parts made of its configuration and its key.
-/

namespace PlayerRegistry

structure Service where
  config : Config
  policy : Policy
  credentials : Credentials
  key : SigningKey
  /-- There is none if requests are not limited. -/
  limiter : Option RateLimit.Limiter

namespace Service

/-- A fault in setting up a service. -/
inductive Fault where
  | refused (e : Error)
  /-- A rate so slow that no clock can measure it stops the whole program. -/
  | crash

def Fault.ofRate : RateLimit.Fault → Fault
  | .tooSlow => .crash
  | f => .refused f.error

def limiterOf (c : Config) : Except Fault (Option RateLimit.Limiter) :=
  if c.rateLimit.enabled then
    ((RateLimit.Limiter.ofRate c.rateLimit.requestsPerSecond).mapError Fault.ofRate).map some
  else .ok none

/-- Sets up the parts of a service. -/
def assemble (c : Config) (cost : Argon2.Cost) (key : SigningKey) : Except Fault Service := do
  let policy ← (Policy.ofConfig c).mapError .refused
  let limiter ← limiterOf c
  return ⟨c, policy, ⟨cost, c.minPasswordLength⟩, key, limiter⟩

/-- Sets up a service of a configuration that has been checked. -/
def ofConfig (c : Config) (key : SigningKey) : Except Fault Service := do
  (c.check).mapError .refused
  assemble c Credentials.defaultCost key

def fetcher (s : Service) : Fetcher := ⟨s.config.assetByteLimit, s.config.allowPrivateAssetHosts⟩

def rules (s : Service) : Texture.Rules := ⟨s.config.skinSizeLimit, s.config.assetByteLimit⟩

/-- Sessions end when their time is over. -/
def enforcesExpiry (s : Service) : Bool := !s.config.disableTokenExpiry

/-- The error of a service that cannot take its address. -/
def bindFailure (s : Service) (reason : String) : Error :=
  .internal ("Failed to bind to " ++ s.config.listenAddress ++ ": " ++ reason)

/-- Takes the address of the service; `bind` says why an address cannot be had. -/
def listen (s : Service) (bind : String → Option String) : Result Unit := do
  let _ ← s.config.bodySizeLimit
  match bind s.config.listenAddress with
  | some reason => .error (s.bindFailure reason)
  | none => .ok ()

end Service

end PlayerRegistry
