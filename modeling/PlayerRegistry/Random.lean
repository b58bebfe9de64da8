import PlayerRegistry.Digest.Blake3
import PlayerRegistry.Bytes.Hex
import PlayerRegistry.Uuid

/-!
# Random values

A source gives bytes for the first draw, the second, and so on. Salts, session tokens and UUIDs are
made of what is drawn.
-/

namespace PlayerRegistry

/-- `draw k n` are the `n` bytes of the draw with number `k`. -/
structure RandomSource where
  draw : Nat → Nat → ByteArray

namespace RandomSource

/-- The source whose draws are hashes under a secret seed of 32 bytes. -/
def ofSeed (seed : ByteArray) : RandomSource where
  draw k n := Blake3.keyedHash seed (Bytes.pushLe64 ByteArray.empty (UInt64.ofNat k)) n

/-- The number that bytes stand for, most significant byte first. -/
def number (b : ByteArray) : Nat := b.data.toList.foldl (fun n d => 256 * n + d.toNat) 0

/-- A session token: 32 bytes in hexadecimal. -/
def token (s : RandomSource) (k : Nat) : String := Hex.encode (s.draw k 32)

def uuid (s : RandomSource) (k : Nat) : Uuid := .ofRandom (BitVec.ofNat 128 (number (s.draw k 16)))

def salt (s : RandomSource) (k : Nat) : ByteArray := s.draw k 16

end RandomSource

end PlayerRegistry
