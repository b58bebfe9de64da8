import PlayerRegistry.Bytes.Hex
import PlayerRegistry.Text.Blank

/-!
# Kinds and addresses of textures

A texture is a skin or a cape, and it is known by the hash of its bytes.
-/

namespace PlayerRegistry

namespace Texture

inductive Kind where
  | skin
  | cape
  deriving DecidableEq, Repr, Inhabited

namespace Kind

def name : Kind → String
  | skin => "skin"
  | cape => "cape"

def ofName? : String → Option Kind
  | "skin" => some skin
  | "cape" => some cape
  | _ => none

@[simp]
theorem ofName?_name (k : Kind) : ofName? k.name = some k := by cases k <;> rfl

end Kind

/-- A content hash is written as 64 lower-case hexadecimal digits. -/
def isContentHash (hash : String) : Bool :=
  hash.length == 64 && hash.toList.all Hex.isLowerDigit

/-- The path below which a texture is served. -/
def route (kind : Kind) (hash : String) : String :=
  "/texture/" ++ kind.name ++ "/" ++ hash ++ ".png"

def url (baseUrl : String) (kind : Kind) (hash : String) : String :=
  Text.withoutTrailingSlashes baseUrl ++ route kind hash

end Texture

end PlayerRegistry
