import PlayerRegistry.Account.Table
import PlayerRegistry.Random

/-!
# Sessions

A session is a token that a browser shows. An account has one at most: a new one takes the place
of the one before.
-/

namespace PlayerRegistry

/-- A session as it is handed to the browser. -/
structure Session where
  token : String
  expiresAt : Instant
  deriving DecidableEq

namespace Session

def lifetimeSeconds : Int := 24 * 60 * 60

/-- A session that begins now. -/
def mint (token : String) (now : Instant) : Session := ⟨token, now.addSeconds lifetimeSeconds⟩

def columns (s : Session) : SessionColumns := ⟨some s.token, some s.expiresAt⟩

/-- An account at an instant still has its session. -/
def isLive (a : Account) (now : Instant) : Bool :=
  a.session.expiresAt.any fun t => now.nanos < t.nanos

end Session

namespace AccountTable

/-- The account that a token belongs to; the empty token belongs to none. -/
def resolve (t : AccountTable) (enforceExpiry : Bool) (now : Instant) (token : String) :
    Result (Option Account) :=
  if token = "" then .ok none
  else (t.findByToken token).map fun found =>
    found.filter fun a => !enforceExpiry || Session.isLive a now

/-- Gives an account a session: the account with it, and the table. -/
def issue (t : AccountTable) (a : Account) (s : Session) : Result Account × AccountTable :=
  match t.setSession a.id s.token s.expiresAt with
  | (.ok (), t) => (.ok { a with session := s.columns }, t)
  | (.error e, t) => (.error e, t)

/-- Ends the session of an account, whether or not it has one. -/
def revoke (t : AccountTable) (a : Account) : Account × AccountTable :=
  ({ a with session := ⟨none, none⟩ }, t.clearSession a.id)

end AccountTable

end PlayerRegistry
