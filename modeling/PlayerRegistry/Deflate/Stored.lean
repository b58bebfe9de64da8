import PlayerRegistry.Digest.Checksum

/-!
# Streams that are not compressed

The simplest stream that inflates to given bytes: blocks of stored bytes.
-/

namespace PlayerRegistry.Deflate

def blockBound : Nat := 65535

def le16 (n : Nat) : List UInt8 := [UInt8.ofNat (n % 256), UInt8.ofNat (n / 256)]

def be32 (w : UInt32) : List UInt8 :=
  [(w >>> 24).toUInt8, (w >>> 16).toUInt8, (w >>> 8).toUInt8, w.toUInt8]

def storedBlock (last : Bool) (bytes : List UInt8) : List UInt8 :=
  (if last then 1 else 0) :: (le16 bytes.length ++ le16 (65535 - bytes.length) ++ bytes)

/-- The bytes in blocks, as many to a block as it can hold. -/
def storedBlocks (bytes : List UInt8) : List UInt8 :=
  if _h : blockBound < bytes.length then
    storedBlock false (bytes.take blockBound) ++ storedBlocks (bytes.drop blockBound)
  else storedBlock true bytes
termination_by bytes.length
decreasing_by simp [blockBound] at *; omega

def store (bytes : List UInt8) : List UInt8 :=
  0x78 :: 0x01 :: (storedBlocks bytes ++ be32 (Checksum.adler32 bytes))

end PlayerRegistry.Deflate
