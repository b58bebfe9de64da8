import PlayerRegistry.Account.Session
import PlayerRegistry.Flow
import PlayerRegistry.Service
import PlayerRegistry.Texture.Store

/-!
# The registry

The state that requests share, and the steps in which they work on it. A piece of work is a flow of
such steps that ends with a result; its first error ends it.
-/

namespace PlayerRegistry

structure Registry where
  accounts : AccountTable
  textures : Texture.Store
  /-- How many random values have been drawn. -/
  draws : Nat
  /-- The requests that were sent to other servers. -/
  sent : List Web.Request

def Registry.empty : Registry := ⟨.empty, .empty, 0, []⟩

/-- What surrounds the work on a request. -/
structure Scene where
  service : Service
  web : Web
  random : RandomSource
  now : Instant
  /-- Accesses to textures that fail. -/
  refuses : Texture.Access → Texture.Kind → Bool

abbrev Work := ExceptT Error (Flow Registry)

namespace Work

def ofResult (r : Result α) : Work α := ExceptT.mk (pure r)

/-- Goes on only where a condition holds. -/
def require (holds : Bool) (e : Error) : Work Unit := if holds then pure () else throw e

/-- One step on the account table. -/
def onAccounts (f : AccountTable → Result α × AccountTable) : Work α :=
  ExceptT.mk <| Flow.act fun r =>
    let (result, accounts) := f r.accounts
    (result, { r with accounts })

/-- One look at the account table. -/
def seeAccounts (f : AccountTable → Result α) : Work α :=
  ExceptT.mk <| Flow.act fun r => (f r.accounts, r)

/-- The number of a random value that has not been drawn before. -/
def draw : Work Nat :=
  ExceptT.mk <| Flow.act fun r => (.ok r.draws, { r with draws := r.draws + 1 })

/-- Talks to another server. -/
def call (c : Web.Call α) : Work α :=
  ExceptT.mk <| Flow.act fun r => (c.result, { r with sent := r.sent ++ c.sent })

def refused (access : Texture.Access) (kind : Texture.Kind) : Error :=
  .assetStorage (access.name ++ ":" ++ kind.name ++ " refused")

/-- One step on the texture store. -/
def onTextures (s : Scene) (access : Texture.Access) (kind : Texture.Kind)
    (f : Texture.Store → Result α × Texture.Store) : Work α :=
  ExceptT.mk <| Flow.act fun r =>
    if s.refuses access kind then (.error (refused access kind), r)
    else
      let (result, textures) := f r.textures
      (result, { r with textures })

/-- The work with its conflicts worded anew. -/
def conflictAs (text : String) (w : Work α) : Work α :=
  w.adapt fun
    | .conflict _ => .conflict text
    | e => e

/-- The outcome of work that is done alone, and the registry it leaves. -/
def perform (w : Work α) (r : Registry) : Result α × Registry := Flow.run (ExceptT.run w) r

end Work

end PlayerRegistry
