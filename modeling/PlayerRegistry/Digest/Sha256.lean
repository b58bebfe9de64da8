import PlayerRegistry.Bytes.Hex
import PlayerRegistry.Bytes.Words

/-!
# SHA-256
-/

namespace PlayerRegistry.Sha256

open Bytes (rotr32)

structure State where
  a : UInt32
  b : UInt32
  c : UInt32
  d : UInt32
  e : UInt32
  f : UInt32
  g : UInt32
  h : UInt32

def initial : State :=
  ⟨0x6a09e667, 0xbb67ae85, 0x3c6ef372, 0xa54ff53a, 0x510e527f, 0x9b05688c, 0x1f83d9ab, 0x5be0cd19⟩

def constants : Array UInt32 := #[
  0x428a2f98, 0x71374491, 0xb5c0fbcf, 0xe9b5dba5, 0x3956c25b, 0x59f111f1, 0x923f82a4, 0xab1c5ed5,
  0xd807aa98, 0x12835b01, 0x243185be, 0x550c7dc3, 0x72be5d74, 0x80deb1fe, 0x9bdc06a7, 0xc19bf174,
  0xe49b69c1, 0xefbe4786, 0x0fc19dc6, 0x240ca1cc, 0x2de92c6f, 0x4a7484aa, 0x5cb0a9dc, 0x76f988da,
  0x983e5152, 0xa831c66d, 0xb00327c8, 0xbf597fc7, 0xc6e00bf3, 0xd5a79147, 0x06ca6351, 0x14292967,
  0x27b70a85, 0x2e1b2138, 0x4d2c6dfc, 0x53380d13, 0x650a7354, 0x766a0abb, 0x81c2c92e, 0x92722c85,
  0xa2bfe8a1, 0xa81a664b, 0xc24b8b70, 0xc76c51a3, 0xd192e819, 0xd6990624, 0xf40e3585, 0x106aa070,
  0x19a4c116, 0x1e376c08, 0x2748774c, 0x34b0bcb5, 0x391c0cb3, 0x4ed8aa4a, 0x5b9cca4f, 0x682e6ff3,
  0x748f82ee, 0x78a5636f, 0x84c87814, 0x8cc70208, 0x90befffa, 0xa4506ceb, 0xbef9a3f7, 0xc67178f2]

/-- The words of block `i`, and 48 more that are made of them. -/
def schedule (msg : ByteArray) (i : Nat) : Array UInt32 :=
  let words := (Array.range 16).map fun k => Bytes.be32 msg (64 * i + 4 * k)
  (List.range 48).foldl (fun w _ =>
    let n := w.size
    let x := w.getD (n - 15) 0
    let y := w.getD (n - 2) 0
    let s0 := rotr32 x 7 ^^^ rotr32 x 18 ^^^ x >>> 3
    let s1 := rotr32 y 17 ^^^ rotr32 y 19 ^^^ y >>> 10
    w.push (w.getD (n - 16) 0 + s0 + w.getD (n - 7) 0 + s1)) words

def round (s : State) (k w : UInt32) : State :=
  let s1 := rotr32 s.e 6 ^^^ rotr32 s.e 11 ^^^ rotr32 s.e 25
  let choice := s.e &&& s.f ^^^ ~~~ s.e &&& s.g
  let t := s.h + s1 + choice + k + w
  let s0 := rotr32 s.a 2 ^^^ rotr32 s.a 13 ^^^ rotr32 s.a 22
  let majority := s.a &&& s.b ^^^ s.a &&& s.c ^^^ s.b &&& s.c
  ⟨t + s0 + majority, s.a, s.b, s.c, s.d + t, s.e, s.f, s.g⟩

def addBlock (msg : ByteArray) (s : State) (i : Nat) : State :=
  let w := schedule msg i
  let t := (List.range 64).foldl (fun t k => round t (constants.getD k 0) (w.getD k 0)) s
  ⟨s.a + t.a, s.b + t.b, s.c + t.c, s.d + t.d, s.e + t.e, s.f + t.f, s.g + t.g, s.h + t.h⟩

def State.bytes (s : State) : ByteArray :=
  [s.a, s.b, s.c, s.d, s.e, s.f, s.g, s.h].foldl Bytes.pushBe32 ByteArray.empty

/-- The hash of a message, 32 bytes. -/
def hash (msg : ByteArray) : ByteArray :=
  let padded := Bytes.lengthPadded msg
  ((List.range (padded.size / 64)).foldl (addBlock padded) initial).bytes

/-- The hash as text. -/
def hexHash (msg : ByteArray) : String := Hex.encode (hash msg)

end PlayerRegistry.Sha256
