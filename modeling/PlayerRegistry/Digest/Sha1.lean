import PlayerRegistry.Bytes.Words

/-!
# SHA-1
-/

namespace PlayerRegistry.Sha1

structure State where
  a : UInt32
  b : UInt32
  c : UInt32
  d : UInt32
  e : UInt32

def initial : State := ⟨0x67452301, 0xefcdab89, 0x98badcfe, 0x10325476, 0xc3d2e1f0⟩

def rotl (x n : UInt32) : UInt32 := x <<< n ||| x >>> (32 - n)

/-- The words of block `i`, and 64 more that are made of them. -/
def schedule (msg : ByteArray) (i : Nat) : Array UInt32 :=
  let words := (Array.range 16).map fun k => Bytes.be32 msg (64 * i + 4 * k)
  (List.range 64).foldl (fun w _ =>
    let n := w.size
    w.push (rotl (w.getD (n - 3) 0 ^^^ w.getD (n - 8) 0 ^^^ w.getD (n - 14) 0
      ^^^ w.getD (n - 16) 0) 1)) words

/-- The mixing function and the constant of round `k`. -/
def mixing (k : Nat) (b c d : UInt32) : UInt32 × UInt32 :=
  if k < 20 then (b &&& c ||| ~~~ b &&& d, 0x5a827999)
  else if k < 40 then (b ^^^ c ^^^ d, 0x6ed9eba1)
  else if k < 60 then (b &&& c ||| b &&& d ||| c &&& d, 0x8f1bbcdc)
  else (b ^^^ c ^^^ d, 0xca62c1d6)

def round (w : Array UInt32) (s : State) (k : Nat) : State :=
  let (f, constant) := mixing k s.b s.c s.d
  ⟨rotl s.a 5 + f + s.e + constant + w.getD k 0, s.a, rotl s.b 30, s.c, s.d⟩

def addBlock (msg : ByteArray) (s : State) (i : Nat) : State :=
  let t := (List.range 80).foldl (round (schedule msg i)) s
  ⟨s.a + t.a, s.b + t.b, s.c + t.c, s.d + t.d, s.e + t.e⟩

/-- The hash of a message, 20 bytes. -/
def hash (msg : ByteArray) : ByteArray :=
  let padded := Bytes.lengthPadded msg
  let s := (List.range (padded.size / 64)).foldl (addBlock padded) initial
  [s.a, s.b, s.c, s.d, s.e].foldl Bytes.pushBe32 ByteArray.empty

end PlayerRegistry.Sha1
