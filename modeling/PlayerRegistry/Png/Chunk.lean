import PlayerRegistry.Deflate.Stored
import PlayerRegistry.Digest.Checksum

/-!
# Chunks

A PNG file is a signature and a sequence of chunks. A chunk has a length, a kind, data and a
checksum.
-/

namespace PlayerRegistry.Png

def signature : List UInt8 := [0x89, 0x50, 0x4e, 0x47, 0x0d, 0x0a, 0x1a, 0x0a]

/-- The kind of a chunk: four letters, as a number. -/
structure ChunkKind where
  code : UInt32
  deriving DecidableEq, Inhabited

namespace ChunkKind

def header : ChunkKind := ⟨0x49484452⟩
def palette : ChunkKind := ⟨0x504c5445⟩
def transparency : ChunkKind := ⟨0x74524e53⟩
def data : ChunkKind := ⟨0x49444154⟩
def frameData : ChunkKind := ⟨0x66644154⟩
def finish : ChunkKind := ⟨0x49454e44⟩

/-- A reader may skip a chunk only if its first letter is a small one. -/
def isCritical (k : ChunkKind) : Bool := k.code &&& 0x20000000 == 0

end ChunkKind

structure Chunk where
  kind : ChunkKind
  data : List UInt8

def ofBe32 (a b c d : UInt8) : UInt32 :=
  a.toUInt32 <<< 24 ||| b.toUInt32 <<< 16 ||| c.toUInt32 <<< 8 ||| d.toUInt32

/-- Reads a word, most significant byte first. -/
def word? : List UInt8 → Option (UInt32 × List UInt8)
  | a :: b :: c :: d :: rest => some (ofBe32 a b c d, rest)
  | _ => none

namespace Chunk

def checksum (c : Chunk) : UInt32 :=
  Checksum.crc32 (Deflate.be32 c.kind.code ++ c.data)

def write (c : Chunk) : List UInt8 :=
  Deflate.be32 (UInt32.ofNat c.data.length) ++ Deflate.be32 c.kind.code ++ c.data
    ++ Deflate.be32 c.checksum

/-- The length and the kind with which a chunk begins. -/
def head? (bytes : List UInt8) : Option ((Nat × ChunkKind) × List UInt8) := do
  let (length, rest) ← word? bytes
  let (code, rest) ← word? rest
  return ((length.toNat, ⟨code⟩), rest)

/-- The chunk whose head has been read, and whether its checksum is right. -/
def body? (length : Nat) (kind : ChunkKind) (bytes : List UInt8) :
    Option ((Chunk × Bool) × List UInt8) := do
  let data := bytes.take length
  if data.length < length then none
  let (sum, rest) ← word? (bytes.drop length)
  let c : Chunk := ⟨kind, data⟩
  return ((c, sum == c.checksum), rest)

end Chunk

end PlayerRegistry.Png
