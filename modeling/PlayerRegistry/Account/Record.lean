import PlayerRegistry.Account.Basic
import PlayerRegistry.Json.Basic
import PlayerRegistry.Time.Text

/-!
# Accounts as JSON

The records in which accounts and their public views are written.
-/

namespace PlayerRegistry

def TokenPair.toJson (p : TokenPair) : Json :=
  .object [("access_token", .string p.accessToken), ("client_token", .string p.clientToken),
    ("valid", .bool p.valid), ("created_at", .string (Time.timeStamp p.createdAt))]

/-- The record of an account, without its secrets. -/
def Account.toJson (a : Account) : Json :=
  .object [("id", .number (toString a.id)), ("uuid", .string a.uuid),
    ("username", .string a.username), ("player_name", .string a.profile.playerName),
    ("preferred_language", .string a.profile.language),
    ("skin_model", .string a.profile.skinModel.name),
    ("skin_hash", .ofOption .string a.profile.skinHash),
    ("cape_hash", .ofOption .string a.profile.capeHash),
    ("session_expires_at",
      .ofOption (fun t => .string (Time.timeStamp t)) a.session.expiresAt)]

def ProfileView.toJson (v : ProfileView) : Json :=
  .object [("uuid", .string v.uuid), ("username", .string v.username),
    ("playerName", .string v.playerName), ("preferredLanguage", .string v.preferredLanguage),
    ("skinModel", .string v.skinModel.name), ("skinUrl", .ofOption .string v.skinUrl),
    ("capeUrl", .ofOption .string v.capeUrl)]

end PlayerRegistry
