import PlayerRegistry.Policy

/-!
# Usable configurations

What a registry refuses to start with. The first fault found is reported.
-/

namespace PlayerRegistry.Config

/-- The faults of a configuration in the order in which they are looked for; a check that does not
apply finds nothing. -/
def check (c : Config) : Result Unit := do
  if c.instanceName = "" then throw (.config "Instance name cannot be empty")
  if c.rateLimit.enabled ∧ !c.rateLimit.requestsPerSecond.isPositive then
    throw (.config "Rate limit requests_per_second must be positive")
  let _ ← c.bodySizeLimit
  if c.skinSizeLimit = 0 then throw (.config "Skin size limit must be positive")
  if c.anonymousLogin.allow then
    let _ ← Policy.readPattern c.anonymousLogin.usernamePattern.toList

end PlayerRegistry.Config
