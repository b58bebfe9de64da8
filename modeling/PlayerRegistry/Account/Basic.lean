import PlayerRegistry.Account.Field
import PlayerRegistry.Bytes.Basic
import PlayerRegistry.Texture.Kind
import PlayerRegistry.Time.Calendar

/-!
# Accounts

The record of a player, and the part of it that is shown to the player.
-/

namespace PlayerRegistry

/-- A pair of game tokens that belongs to an account. -/
structure TokenPair where
  accessToken : String
  clientToken : String
  valid : Bool
  createdAt : Instant
  deriving DecidableEq, Inhabited

/-- A password as it is kept: never itself, only its hash under a salt of its own. -/
structure PasswordHash where
  salt : ByteArray
  hash : ByteArray
  deriving DecidableEq, Inhabited

/-- A browser session. A session may lack an expiry only where one was never stored. -/
structure SessionColumns where
  token : Option String
  expiresAt : Option Instant
  deriving DecidableEq, Inhabited

/-- What the player may change. -/
structure ProfileColumns where
  playerName : String
  password : PasswordHash
  language : String
  skinModel : SkinModel
  skinHash : Option String
  capeHash : Option String
  deriving DecidableEq, Inhabited

structure Account where
  id : Int
  uuid : String
  username : String
  profile : ProfileColumns
  session : SessionColumns
  tokenPairs : List TokenPair
  deriving DecidableEq, Inhabited

/-- An account that has no place in the table yet; its textures come later. -/
structure NewAccount where
  uuid : String
  username : String
  playerName : String
  password : PasswordHash
  language : String
  skinModel : SkinModel
  session : SessionColumns
  deriving DecidableEq, Inhabited

def ProfileColumns.textureHash (p : ProfileColumns) : Texture.Kind → Option String
  | .skin => p.skinHash
  | .cape => p.capeHash

def ProfileColumns.setTexture (p : ProfileColumns) (kind : Texture.Kind) (hash : String) :
    ProfileColumns :=
  match kind with
  | .skin => { p with skinHash := some hash }
  | .cape => { p with capeHash := some hash }

/-- The public view of an account. -/
structure ProfileView where
  uuid : String
  username : String
  playerName : String
  preferredLanguage : String
  skinModel : SkinModel
  skinUrl : Option String
  capeUrl : Option String
  deriving DecidableEq

def Account.view (a : Account) (baseUrl : String) : ProfileView where
  uuid := a.uuid
  username := a.username
  playerName := a.profile.playerName
  preferredLanguage := a.profile.language
  skinModel := a.profile.skinModel
  skinUrl := a.profile.skinHash.map (Texture.url baseUrl .skin)
  capeUrl := a.profile.capeHash.map (Texture.url baseUrl .cape)

end PlayerRegistry
