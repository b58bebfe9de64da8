import PlayerRegistry.Png.Decode
import PlayerRegistry.Png.Encode
import PlayerRegistry.SigningKey.Basic
import PlayerRegistry.Texture.Image

/-!
# Challenge skins

A player proves to own an account elsewhere by wearing there a skin that only this registry can
make: its colors are a hash of the name under the fingerprint of the signing key.
-/

namespace PlayerRegistry.Challenge

def size : Nat := 64

/-- Four bytes to a pixel, of which the last is not used: every pixel is opaque. -/
def opaquePixels : List UInt8 → List Rgba
  | r :: g :: b :: _ :: rest => ⟨r, g, b, 0xff⟩ :: opaquePixels rest
  | _ => []

/-- The bytes from which the colors for a name are taken. -/
def stream (key : SigningKey) (username : String) : ByteArray :=
  Blake3.keyedHash (key.fingerprint.extract 0 32) username.toUTF8 (size * size * 4)

def picture (key : SigningKey) (username : String) : Picture where
  width := UInt32.ofNat size
  height := UInt32.ofNat size
  pixels := opaquePixels (stream key username).data.toList

/-- The skin as a PNG file. -/
def skin (key : SigningKey) (username : String) : ByteArray :=
  Texture.toByteArray (Png.encode (picture key username))

/-- Whether a file shows the skin for a name. Only pixels count, not how they are encoded. -/
def accepts (key : SigningKey) (username : String) (file : ByteArray) : Bool :=
  Png.decode? file.data.toList = some (picture key username)

end PlayerRegistry.Challenge
