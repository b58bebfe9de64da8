import PlayerRegistry.Bytes.Basic
import PlayerRegistry.Error
import PlayerRegistry.Texture.Kind

/-!
# Texture stores

Textures by kind and hash. A texture that is stored is never overwritten, and only a content hash
can be the hash of one.
-/

namespace PlayerRegistry.Texture

/-- What is asked of a store. -/
inductive Access where
  | put
  | get
  | delete
  | contains
  deriving DecidableEq, Repr

def Access.name : Access → String
  | put => "put"
  | get => "get"
  | delete => "delete"
  | contains => "exists"

def unknown (kind : Kind) (hash : String) : Error :=
  .notFound ("No such " ++ kind.name ++ ": " ++ hash)

structure Store where
  blobs : List ((Kind × String) × ByteArray)
  deriving DecidableEq

namespace Store

def empty : Store := ⟨[]⟩

/-- The bytes of a texture, if it is there. -/
def get (s : Store) (kind : Kind) (hash : String) : Option ByteArray :=
  if isContentHash hash then s.blobs.lookup (kind, hash) else none

def contains (s : Store) (kind : Kind) (hash : String) : Bool := (s.get kind hash).isSome

/-- Stores a texture. One that is there already stays as it is. -/
def put (s : Store) (kind : Kind) (hash : String) (bytes : ByteArray) : Result Unit × Store :=
  if !isContentHash hash then (.error (unknown kind hash), s)
  else if s.contains kind hash then (.ok (), s)
  else (.ok (), ⟨((kind, hash), bytes) :: s.blobs⟩)

/-- Removes a texture; one that is not there needs no removal. -/
def delete (s : Store) (kind : Kind) (hash : String) : Result Unit × Store :=
  if !isContentHash hash then (.error (unknown kind hash), s)
  else (.ok (), ⟨s.blobs.filter fun b => b.1 ≠ (kind, hash)⟩)

end Store

end PlayerRegistry.Texture
