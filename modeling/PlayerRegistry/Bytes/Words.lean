/-!
# Words in bytes

Words of 32 and 64 bits as they stand in a byte array, most or least significant byte first. A
place beyond the end reads as zero.
-/

namespace PlayerRegistry.Bytes

def at0 (b : ByteArray) (i : Nat) : UInt8 := if h : i < b.size then b[i] else 0

def be32 (b : ByteArray) (i : Nat) : UInt32 :=
  (at0 b i).toUInt32 <<< 24 ||| (at0 b (i + 1)).toUInt32 <<< 16
    ||| (at0 b (i + 2)).toUInt32 <<< 8 ||| (at0 b (i + 3)).toUInt32

def le32 (b : ByteArray) (i : Nat) : UInt32 :=
  (at0 b (i + 3)).toUInt32 <<< 24 ||| (at0 b (i + 2)).toUInt32 <<< 16
    ||| (at0 b (i + 1)).toUInt32 <<< 8 ||| (at0 b i).toUInt32

def le64 (b : ByteArray) (i : Nat) : UInt64 :=
  (le32 b (i + 4)).toUInt64 <<< 32 ||| (le32 b i).toUInt64

def pushBe32 (b : ByteArray) (w : UInt32) : ByteArray :=
  (((b.push (w >>> 24).toUInt8).push (w >>> 16).toUInt8).push (w >>> 8).toUInt8).push w.toUInt8

def pushLe32 (b : ByteArray) (w : UInt32) : ByteArray :=
  (((b.push w.toUInt8).push (w >>> 8).toUInt8).push (w >>> 16).toUInt8).push (w >>> 24).toUInt8

def pushLe64 (b : ByteArray) (w : UInt64) : ByteArray :=
  pushLe32 (pushLe32 b w.toUInt32) (w >>> 32).toUInt32

/-- `n` times the byte `v`. -/
def replicate (n : Nat) (v : UInt8) : ByteArray := ⟨Array.replicate n v⟩

def rotr32 (x n : UInt32) : UInt32 := x >>> n ||| x <<< (32 - n)

def rotr64 (x n : UInt64) : UInt64 := x >>> n ||| x <<< (64 - n)

/-- The message, a set bit, zeros, and the length of the message in bits as a word of 64 bits: a
whole number of blocks of 64 bytes. -/
def lengthPadded (msg : ByteArray) : ByteArray :=
  let zeros := (119 - msg.size % 64) % 64
  let bits := UInt64.ofNat (8 * msg.size)
  pushBe32 (pushBe32 (msg.push 0x80 ++ replicate zeros 0) (bits >>> 32).toUInt32) bits.toUInt32

end PlayerRegistry.Bytes
