import PlayerRegistry.Config.Basic
import PlayerRegistry.Error
import PlayerRegistry.Regex.Meaning
import PlayerRegistry.Text.Blank

/-!
# Policy

Who may register, log in without an account, bring an account along, or take another player name.
A policy is built of a configuration and decides without looking at accounts.
-/

namespace PlayerRegistry

namespace Policy

/-- Reads the pattern of anonymous usernames. -/
def readPattern (text : List Char) : Result Regex.Pattern :=
  match Regex.compile? text with
  | some p => .ok p
  | none => .error (.config "Invalid anonymous login username regex: not a pattern")

/-- The pattern with an anchor at each end, in a group of its own so that nothing in it reaches
past the anchors. -/
def anchored (pattern : String) : List Char :=
  ['^', '(', '?', ':'] ++ pattern.toList ++ [')', '$']

end Policy

structure Policy where
  config : Config
  /-- What an anonymous username has to match, if there are any. -/
  anonymousUsername : Option Regex.Pattern

/-- A provider that players may bring their account from. -/
structure Migration where
  nickname : String
  sessionUrl : String
  accountUrl : String
  setSkinUrl : String
  requireSkinVerification : Bool
  deriving DecidableEq

namespace Policy

def ofConfig (c : Config) : Result Policy :=
  if c.anonymousLogin.allow then
    (readPattern (anchored c.anonymousLogin.usernamePattern)).map fun p => ⟨c, some p⟩
  else .ok ⟨c, none⟩

/-- Whether a new player may register, with a UUID of their choice if `chosenUuid`. -/
def checkRegisterNew (p : Policy) (chosenUuid : Bool) : Result Unit :=
  if !p.config.newPlayers.allow then .error (.forbidden "Registration is disabled.")
  else if chosenUuid ∧ !p.config.newPlayers.allowChoosingUuid then
    .error (.forbidden "Choosing a UUID is not allowed.")
  else .ok ()

def canRegisterNew (p : Policy) (chosenUuid : Bool) : Bool := (p.checkRegisterNew chosenUuid).isOk

def canLoginAnonymously (p : Policy) (username : String) : Bool :=
  p.anonymousUsername.any fun pattern => pattern.occursIn username.toList

/-- The password that all anonymous players share. -/
def anonymousPassword (p : Policy) : String := p.config.anonymousLogin.password

def migration (p : Policy) : Option Migration :=
  let e := p.config.existingPlayers
  if e.allow then
    some {
      nickname := e.nickname
      sessionUrl := Text.withoutTrailingSlashes e.sessionUrl
      accountUrl := Text.withoutTrailingSlashes e.accountUrl
      setSkinUrl := e.setSkinUrl
      requireSkinVerification := e.requireSkinVerification }
  else none

/-- Keeping the name is always allowed. -/
def canChangePlayerName (p : Policy) (old new : String) : Bool :=
  old = new || p.config.allowChangingPlayerName

end Policy

end PlayerRegistry
