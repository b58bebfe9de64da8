/-!
# Checksums

CRC-32, as it ends a chunk of a picture, and Adler-32, as it ends a compressed stream.
-/

namespace PlayerRegistry.Checksum

/-- Eight steps of the division by the polynomial. -/
def crcOfByte (b : UInt32) : UInt32 :=
  (List.range 8).foldl
    (fun c _ => if c &&& 1 = 1 then (0xedb88320 : UInt32) ^^^ c >>> 1 else c >>> 1) b

def crcTable : Array UInt32 := (Array.range 256).map fun n => crcOfByte (UInt32.ofNat n)

def crcStep (crc : UInt32) (b : UInt8) : UInt32 :=
  crcTable.getD ((crc ^^^ b.toUInt32) &&& 0xff).toNat 0 ^^^ crc >>> 8

def crc32 (bytes : List UInt8) : UInt32 := ~~~ bytes.foldl crcStep 0xffffffff

/-- The two running sums of Adler-32. -/
def adlerStep (s : Nat × Nat) (b : UInt8) : Nat × Nat :=
  let low := (s.1 + b.toNat) % 65521
  (low, (s.2 + low) % 65521)

def adler32 (bytes : List UInt8) : UInt32 :=
  let s := bytes.foldl adlerStep (1, 0)
  UInt32.ofNat (s.2 * 65536 + s.1)

end PlayerRegistry.Checksum
