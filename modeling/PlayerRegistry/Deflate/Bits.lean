/-!
# Bits of a stream

A reader of bits, the least significant bit of a byte first.
-/

namespace PlayerRegistry.Deflate

/-- What is still to be read: `count` bits of a byte that has been begun, and the bytes after it. -/
structure Bits where
  begun : Nat
  count : Nat
  rest : List UInt8

namespace Bits

def ofBytes (bytes : List UInt8) : Bits := ⟨0, 0, bytes⟩

/-- How many bits are left. -/
def size (b : Bits) : Nat := b.count + 8 * b.rest.length

def bit? (b : Bits) : Option (Nat × Bits) :=
  match b.count, b.rest with
  | n + 1, rest => some (b.begun % 2, ⟨b.begun / 2, n, rest⟩)
  | 0, byte :: rest => some (byte.toNat % 2, ⟨byte.toNat / 2, 7, rest⟩)
  | 0, [] => none

/-- A number of `n` bits, its least significant bit first. -/
def number? : Nat → Bits → Option (Nat × Bits)
  | 0, b => some (0, b)
  | n + 1, b => do
    let (low, b) ← b.bit?
    let (high, b) ← number? n b
    return (low + 2 * high, b)

/-- The bytes that follow the byte that has been begun. -/
def aligned (b : Bits) : List UInt8 := b.rest

end Bits

end PlayerRegistry.Deflate
