import PlayerRegistry.Bytes.Words

/-!
# BLAKE2b

The hash with a digest of 1 to 64 bytes and without a key.
-/

namespace PlayerRegistry.Blake2b

open Bytes (rotr64)

def initial : Array UInt64 := #[
  0x6a09e667f3bcc908, 0xbb67ae8584caa73b, 0x3c6ef372fe94f82b, 0xa54ff53a5f1d36f1,
  0x510e527fade682d1, 0x9b05688c2b3e6c1f, 0x1f83d9abfb41bd6b, 0x5be0cd19137e2179]

/-- The order in which a round takes the words of a block. -/
def orders : Array (Array Nat) := #[
  #[0, 1, 2, 3, 4, 5, 6, 7, 8, 9, 10, 11, 12, 13, 14, 15],
  #[14, 10, 4, 8, 9, 15, 13, 6, 1, 12, 0, 2, 11, 7, 5, 3],
  #[11, 8, 12, 0, 5, 2, 15, 13, 10, 14, 3, 6, 7, 1, 9, 4],
  #[7, 9, 3, 1, 13, 12, 11, 14, 2, 6, 5, 10, 4, 0, 15, 8],
  #[9, 0, 5, 7, 2, 4, 10, 15, 14, 1, 11, 12, 6, 8, 3, 13],
  #[2, 12, 6, 10, 0, 11, 8, 3, 4, 13, 7, 5, 15, 14, 1, 9],
  #[12, 5, 1, 15, 14, 13, 4, 10, 0, 7, 6, 3, 9, 2, 8, 11],
  #[13, 11, 7, 14, 12, 1, 3, 9, 5, 0, 15, 4, 8, 6, 2, 10],
  #[6, 15, 14, 9, 11, 3, 0, 8, 12, 2, 13, 7, 1, 4, 10, 5],
  #[10, 2, 8, 4, 7, 6, 1, 5, 15, 11, 9, 14, 3, 12, 13, 0]]

/-- The columns and diagonals of the state that a round mixes. -/
def quarters : List (Nat × Nat × Nat × Nat) :=
  [(0, 4, 8, 12), (1, 5, 9, 13), (2, 6, 10, 14), (3, 7, 11, 15),
    (0, 5, 10, 15), (1, 6, 11, 12), (2, 7, 8, 13), (3, 4, 9, 14)]

def mix (v : Array UInt64) (q : Nat × Nat × Nat × Nat) (x y : UInt64) : Array UInt64 :=
  let (i, j, k, l) := q
  let a := v.getD i 0 + v.getD j 0 + x
  let d := rotr64 (v.getD l 0 ^^^ a) 32
  let c := v.getD k 0 + d
  let b := rotr64 (v.getD j 0 ^^^ c) 24
  let a := a + b + y
  let d := rotr64 (d ^^^ a) 16
  let c := c + d
  let b := rotr64 (b ^^^ c) 63
  (((v.setIfInBounds i a).setIfInBounds j b).setIfInBounds k c).setIfInBounds l d

def round (m v : Array UInt64) (r : Nat) : Array UInt64 :=
  let order := orders.getD (r % 10) #[]
  let word (k : Nat) := m.getD (order.getD k 0) 0
  quarters.zipIdx.foldl (fun v (q, k) => mix v q (word (2 * k)) (word (2 * k + 1))) v

/-- Adds block `i` of `msg`, with `count` bytes up to its end. -/
def addBlock (msg : ByteArray) (h : Array UInt64) (i count : Nat) (last : Bool) : Array UInt64 :=
  let m := (Array.range 16).map fun k => Bytes.le64 msg (128 * i + 8 * k)
  let v := h ++ initial
  let v := v.setIfInBounds 12 (v.getD 12 0 ^^^ UInt64.ofNat count)
  let v := if last then v.setIfInBounds 14 (~~~ v.getD 14 0) else v
  let v := (List.range 12).foldl (round m) v
  (Array.range 8).map fun k => h.getD k 0 ^^^ v.getD k 0 ^^^ v.getD (k + 8) 0

/-- The digest of `size` bytes. -/
def hash (size : Nat) (msg : ByteArray) : ByteArray :=
  let h0 := initial.setIfInBounds 0 (initial.getD 0 0 ^^^ 0x01010000 ^^^ UInt64.ofNat size)
  let lastBlock := (msg.size - 1) / 128
  let h := (List.range lastBlock).foldl (fun h i => addBlock msg h i (128 * (i + 1)) false) h0
  let h := addBlock msg h lastBlock msg.size true
  (h.foldl Bytes.pushLe64 ByteArray.empty).extract 0 size

end PlayerRegistry.Blake2b
