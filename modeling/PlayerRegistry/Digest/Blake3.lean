import PlayerRegistry.Bytes.Words

/-!
# BLAKE3

The hash with or without a key, and its output of any length. A message is cut into chunks of 1024
bytes, which are the leaves of a binary tree.
-/

namespace PlayerRegistry.Blake3

open Bytes (rotr32)

abbrev Words := Array UInt32

def initial : Words := #[
  0x6a09e667, 0xbb67ae85, 0x3c6ef372, 0xa54ff53a, 0x510e527f, 0x9b05688c, 0x1f83d9ab, 0x5be0cd19]

namespace Flag

def chunkStart : UInt32 := 1
def chunkEnd : UInt32 := 2
def parent : UInt32 := 4
def root : UInt32 := 8
def keyed : UInt32 := 16

end Flag

def permutation : List Nat := [2, 6, 3, 10, 7, 0, 4, 13, 1, 11, 12, 5, 9, 14, 15, 8]

/-- The columns and diagonals of the state that a round mixes. -/
def quarters : List (Nat × Nat × Nat × Nat) :=
  [(0, 4, 8, 12), (1, 5, 9, 13), (2, 6, 10, 14), (3, 7, 11, 15),
    (0, 5, 10, 15), (1, 6, 11, 12), (2, 7, 8, 13), (3, 4, 9, 14)]

def mix (v : Words) (q : Nat × Nat × Nat × Nat) (x y : UInt32) : Words :=
  let (i, j, k, l) := q
  let a := v.getD i 0 + v.getD j 0 + x
  let d := rotr32 (v.getD l 0 ^^^ a) 16
  let c := v.getD k 0 + d
  let b := rotr32 (v.getD j 0 ^^^ c) 12
  let a := a + b + y
  let d := rotr32 (d ^^^ a) 8
  let c := c + d
  let b := rotr32 (b ^^^ c) 7
  (((v.setIfInBounds i a).setIfInBounds j b).setIfInBounds k c).setIfInBounds l d

def round (m v : Words) : Words :=
  quarters.zipIdx.foldl
    (fun v (q, k) => mix v q (m.getD (2 * k) 0) (m.getD (2 * k + 1) 0)) v

def permuted (m : Words) : Words := (permutation.map fun k => m.getD k 0).toArray

/-- One compression, from which a chaining value or output of the root is taken. -/
structure Node where
  chaining : Words
  block : Words
  counter : UInt64
  length : UInt32
  flags : UInt32

/-- The sixteen words that a compression yields. -/
def Node.words (n : Node) : Words :=
  let v := n.chaining ++ initial.extract 0 4
    ++ #[n.counter.toUInt32, (n.counter >>> 32).toUInt32, n.length, n.flags]
  let (v, _) := (List.range 7).foldl (fun (v, m) _ => (round m v, permuted m)) (v, n.block)
  (Array.range 16).map fun k =>
    if k < 8 then v.getD k 0 ^^^ v.getD (k + 8) 0
    else v.getD k 0 ^^^ n.chaining.getD (k - 8) 0

def Node.chainingValue (n : Node) : Words := n.words.extract 0 8

/-- `length` bytes of output. -/
def Node.output (n : Node) (length : Nat) : ByteArray :=
  let blocks := (List.range ((length + 63) / 64)).foldl (fun out k =>
    let words := { n with counter := UInt64.ofNat k, flags := n.flags ||| Flag.root }.words
    words.foldl Bytes.pushLe32 out) ByteArray.empty
  blocks.extract 0 length

def blockWords (msg : ByteArray) (start : Nat) : Words :=
  (Array.range 16).map fun k => Bytes.le32 msg (start + 4 * k)

/-- The last compression of chunk `index` of a message. -/
def chunkNode (key : Words) (mode : UInt32) (msg : ByteArray) (index : Nat) : Node :=
  let chunk := msg.extract (1024 * index) (1024 * (index + 1))
  let last := (chunk.size - 1) / 64
  let node (chaining : Words) (k : Nat) : Node :=
    { chaining
      block := blockWords chunk (64 * k)
      counter := UInt64.ofNat index
      length := UInt32.ofNat (min 64 (chunk.size - 64 * k))
      flags := mode ||| (if k = 0 then Flag.chunkStart else 0)
        ||| (if k = last then Flag.chunkEnd else 0) }
  node ((List.range last).foldl (fun cv k => (node cv k).chainingValue) key) last

def parentNode (key : Words) (mode : UInt32) (left right : Words) : Node where
  chaining := key
  block := left ++ right
  counter := 0
  length := 64
  flags := mode ||| Flag.parent

/-- The greatest power of two below `n`, for `n` above one. -/
def leftSize (n : Nat) : Nat := 1 <<< (n - 1).log2

theorem leftSize_lt {n : Nat} (h : 1 < n) : leftSize n < n := by
  have := Nat.log2_self_le (n := n - 1) (by omega)
  rw [leftSize, Nat.one_shiftLeft]
  omega

theorem leftSize_pos (n : Nat) : 0 < leftSize n := by
  rw [leftSize, Nat.one_shiftLeft]
  exact Nat.two_pow_pos _

/-- The last compression of the tree over `count` chunks from chunk `first`. -/
def treeNode (key : Words) (mode : UInt32) (msg : ByteArray) (first count : Nat) : Node :=
  if _h : 1 < count then
    parentNode key mode (treeNode key mode msg first (leftSize count)).chainingValue
      (treeNode key mode msg (first + leftSize count) (count - leftSize count)).chainingValue
  else chunkNode key mode msg first
termination_by count
decreasing_by
  · exact leftSize_lt ‹1 < count›
  · exact Nat.sub_lt (Nat.lt_trans Nat.zero_lt_one ‹1 < count›) (leftSize_pos count)

def rootNode (key : Words) (mode : UInt32) (msg : ByteArray) : Node :=
  treeNode key mode msg 0 ((msg.size + 1023) / 1024)

/-- The first `length` bytes of the hash of a message. -/
def hash (msg : ByteArray) (length : Nat) : ByteArray := (rootNode initial 0 msg).output length

/-- The first `length` bytes of the hash of a message under a key of 32 bytes. -/
def keyedHash (key msg : ByteArray) (length : Nat) : ByteArray :=
  let words := (Array.range 8).map fun k => Bytes.le32 key (4 * k)
  (rootNode words Flag.keyed msg).output length

end PlayerRegistry.Blake3
