import PlayerRegistry.Account.Login
import PlayerRegistry.Texture.Ingest

/-!
# Deleting an account

The row goes first, then the textures. A texture that cannot be removed does not keep the other one
from being removed, and does not bring the account back.
-/

namespace PlayerRegistry.Scene

/-- Removes a texture, if there is one. -/
def discardIf (s : Scene) (kind : Texture.Kind) : Option String → Work Unit
  | none => pure ()
  | some hash => Texture.discard s kind hash

/-- Does both, whatever comes of the first; the first failure is reported. -/
def both (first second : Work Unit) : Work Unit :=
  ExceptT.mk (do
    let a ← first.run
    let b ← second.run
    return a.bind fun _ => b : Flow Registry (Result Unit))

def deleteAccount (s : Scene) (a : Account) : Work Unit := do
  let _ ← logout a
  Work.onAccounts (·.delete a.id)
  both (s.discardIf .skin a.profile.skinHash) (s.discardIf .cape a.profile.capeHash)

end PlayerRegistry.Scene
