import PlayerRegistry.Digest.Sha256
import PlayerRegistry.Error
import PlayerRegistry.Png.Decode
import PlayerRegistry.Png.Encode
import PlayerRegistry.Text.Quoted
import PlayerRegistry.Texture.Kind

/-!
# Texture images

What is accepted as a skin or a cape, and the form in which it is kept: the one PNG file that the
encoder writes for its pixels.
-/

namespace PlayerRegistry.Texture

structure Rules where
  /-- Greatest width in pixels. -/
  sizeLimit : UInt32
  /-- Greatest size of the file in bytes. -/
  byteLimit : Nat

/-- An accepted image in its canonical form. -/
structure Image where
  kind : Kind
  width : UInt32
  height : UInt32
  bytes : ByteArray

/-- The hash by which the image is known. -/
def Image.contentHash (i : Image) : String := Sha256.hexHash i.bytes

def toByteArray (bytes : List UInt8) : ByteArray := ⟨bytes.toArray⟩

/-- A fault of an image, in the order in which faults are looked for. -/
inductive Fault where
  | empty
  | tooLong (limit : Nat)
  | notPng
  | unreadable
  /-- Twice the height exceeds 32 bits, which ends the task that checks the image. -/
  | overflow
  | proportion
  | notMultiple
  | tooWide (limit : UInt32)
  | undecodable

def tooLongText (limit : Nat) : String := "image must be " ++ toString limit ++ " bytes or less"

def Fault.reason (kind : Kind) : Fault → String
  | empty => "image is empty"
  | tooLong limit => tooLongText limit
  | notPng => "image must be a PNG"
  | unreadable => "could not read image"
  | overflow => "attempt to multiply with overflow"
  | proportion =>
    match kind with
    | .skin => "width must be equal to the height or twice the height"
    | .cape => "width must be twice the height"
  | notMultiple => "width must be a multiple of 64"
  | tooWide limit => "width must be " ++ toString limit ++ " or less"
  | undecodable => "could not decode image"

/-- A task that has been ended is no fault of the sender's. The number that the task has is left out
of the text. -/
def Fault.error (kind : Kind) : Fault → Error
  | overflow => .internal
      ("Image validation task failed: task panicked with message " ++
        Text.quoted (overflow.reason kind))
  | f => .validation kind.name (f.reason kind)

/-- The height is doubled in 32 bits, and the double is checked for an overflow. -/
def isDouble (width height : UInt32) : Except Fault Bool :=
  if UInt32.size ≤ 2 * height.toNat then .error .overflow else .ok (width == 2 * height)

/-- The proportion of a kind. The height of a square skin is not doubled. -/
def hasProportion (kind : Kind) (width height : UInt32) : Except Fault Bool :=
  match kind with
  | .skin => if width = height then .ok true else isDouble width height
  | .cape => isDouble width height

def checkShape (kind : Kind) (sizeLimit width height : UInt32) : Except Fault Unit := do
  if !(← hasProportion kind width height) then .error .proportion
  if width = 0 ∨ width % 64 ≠ 0 then .error .notMultiple
  if sizeLimit < width then .error (.tooWide sizeLimit)

/-- Accepts an image or finds its first fault. The header is judged before a pixel is decoded. -/
def examine (kind : Kind) (rules : Rules) (file : ByteArray) : Except Fault Image := do
  if file.size = 0 then .error .empty
  if rules.byteLimit < file.size then .error (.tooLong rules.byteLimit)
  let bytes := file.data.toList
  if bytes.take 8 ≠ Png.signature then .error .notPng
  match Png.dimensions? bytes with
  | none => .error .unreadable
  | some (width, height) =>
    checkShape kind rules.sizeLimit width height
    match Png.decode? bytes with
    | none => .error .undecodable
    | some picture => .ok ⟨kind, width, height, toByteArray (Png.encode picture)⟩

def validate (kind : Kind) (rules : Rules) (file : ByteArray) : Result Image :=
  (examine kind rules file).mapError (Fault.error kind)

end PlayerRegistry.Texture
