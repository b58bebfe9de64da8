import PlayerRegistry.Deflate.Code

/-!
# Inflating

A compressed stream is a header of two bytes and a sequence of blocks. Only as much of it is read
as is needed, and the checksum at its end does not matter.
-/

namespace PlayerRegistry.Deflate

structure Codes where
  literals : Code
  distances : Code

def fixedCodes? : Option Codes := do
  let literals ← Code.ofLengths? false
    (List.replicate 144 8 ++ List.replicate 112 9 ++ List.replicate 24 7 ++ List.replicate 8 8)
  let distances ← Code.ofLengths? false (List.replicate 32 5)
  return ⟨literals, distances⟩

/-- The order in which the lengths of the code for lengths are given. -/
def lengthOrder : List Nat := [16, 17, 18, 0, 8, 7, 9, 6, 10, 5, 11, 4, 12, 3, 13, 2, 14, 1, 15]

/-- Reads `n` numbers of three bits. -/
def triples? : Nat → Bits → Option (List Nat × Bits)
  | 0, b => some ([], b)
  | n + 1, b => do
    let (x, b) ← b.number? 3
    let (xs, b) ← triples? n b
    return (x :: xs, b)

/-- Reads lengths until there are `total` of them. The lengths so far are in `done`, the last one
first. -/
def lengths? (code : Code) (total : Nat) : Nat → List Nat → Bits → Option (List Nat × Bits)
  | 0, _, _ => none
  | fuel + 1, done, b =>
    if done.length = total then some (done.reverse, b)
    else if total < done.length then none
    else do
      let (symbol, b) ← code.symbol? b
      match symbol with
      | 16 =>
        let previous ← done.head?
        let (n, b) ← b.number? 2
        lengths? code total fuel (List.replicate (n + 3) previous ++ done) b
      | 17 =>
        let (n, b) ← b.number? 3
        lengths? code total fuel (List.replicate (n + 3) 0 ++ done) b
      | 18 =>
        let (n, b) ← b.number? 7
        lengths? code total fuel (List.replicate (n + 11) 0 ++ done) b
      | length => lengths? code total fuel (length :: done) b

/-- Reads the codes of a block that brings its own. -/
def ownCodes? (b : Bits) : Option (Codes × Bits) := do
  let (hlit, b) ← b.number? 5
  let (hdist, b) ← b.number? 5
  let (hclen, b) ← b.number? 4
  let literalCount := hlit + 257
  let distanceCount := hdist + 1
  if 286 < literalCount ∨ 30 < distanceCount then none
  let (given, b) ← triples? (hclen + 4) b
  let lengthOf (symbol : Nat) := (given[lengthOrder.idxOf symbol]?).getD 0
  let lengthCode ← Code.ofLengths? false ((List.range 19).map lengthOf)
  let total := literalCount + distanceCount
  let (lengths, b) ← lengths? lengthCode total (total + 1) [] b
  if lengths[256]? = some 0 then none
  let literals ← Code.ofLengths? false (lengths.take literalCount)
  let distances ← Code.ofLengths? true (lengths.drop literalCount)
  return (⟨literals, distances⟩, b)

/-- Least length and number of extra bits of the length symbols from 257 on. -/
def lengthBases : Array (Nat × Nat) := #[
  (3, 0), (4, 0), (5, 0), (6, 0), (7, 0), (8, 0), (9, 0), (10, 0), (11, 1), (13, 1), (15, 1),
  (17, 1), (19, 2), (23, 2), (27, 2), (31, 2), (35, 3), (43, 3), (51, 3), (59, 3), (67, 4),
  (83, 4), (99, 4), (115, 4), (131, 5), (163, 5), (195, 5), (227, 5), (258, 0)]

/-- Least distance and number of extra bits of the distance symbols. -/
def distanceBases : Array (Nat × Nat) := #[
  (1, 0), (2, 0), (3, 0), (4, 0), (5, 1), (7, 1), (9, 2), (13, 2), (17, 3), (25, 3), (33, 4),
  (49, 4), (65, 5), (97, 5), (129, 6), (193, 6), (257, 7), (385, 7), (513, 8), (769, 8),
  (1025, 9), (1537, 9), (2049, 10), (3073, 10), (4097, 11), (6145, 11), (8193, 12), (12289, 12),
  (16385, 13), (24577, 13)]

/-- Reads the length that `symbol` begins, and the distance that follows it. -/
def reference? (codes : Codes) (symbol : Nat) (b : Bits) : Option ((Nat × Nat) × Bits) := do
  let (base, extra) ← lengthBases[symbol - 257]?
  let (more, b) ← b.number? extra
  let (distanceSymbol, b) ← codes.distances.symbol? b
  let (distanceBase, distanceExtra) ← distanceBases[distanceSymbol]?
  let (distanceMore, b) ← b.number? distanceExtra
  return ((base + more, distanceBase + distanceMore), b)

/-- Appends `n` bytes, each a copy of the byte `distance` places before it. -/
def copyBack (out : Array UInt8) (distance n : Nat) : Array UInt8 :=
  (List.range n).foldl (fun out _ => out.push (out.getD (out.size - distance) 0)) out

/-- Why reading stopped: the block has ended, or there is enough output. -/
inductive Stop where
  | endOfBlock (rest : Bits)
  | enough

/-- Reads symbols up to the end of the block, or until there are `needed` bytes of output. -/
def symbols? (codes : Codes) (needed : Nat) :
    Nat → Array UInt8 → Bits → Option (Array UInt8 × Stop)
  | 0, _, _ => none
  | fuel + 1, out, b =>
    if needed ≤ out.size then some (out, .enough)
    else do
      let (symbol, b) ← codes.literals.symbol? b
      if symbol < 256 then symbols? codes needed fuel (out.push (UInt8.ofNat symbol)) b
      else if symbol = 256 then some (out, .endOfBlock b)
      else
        let ((length, distance), b) ← reference? codes symbol b
        if out.size < distance then none
        else symbols? codes needed fuel (copyBack out distance length) b

/-- Reads a block of bytes that are not compressed. A block that breaks off gives what there is,
if that is enough. -/
def stored? (needed : Nat) (out : Array UInt8) (bytes : List UInt8) :
    Option (Array UInt8 × Stop) :=
  match bytes with
  | l0 :: l1 :: n0 :: n1 :: rest =>
    let length := l0.toNat + 256 * l1.toNat
    if n0.toNat + 256 * n1.toNat ≠ 65535 - length then none
    else
      let taken := rest.take length
      let out := out ++ taken.toArray
      if needed ≤ out.size then some (out, .enough)
      else if taken.length < length then none
      else some (out, .endOfBlock (.ofBytes (rest.drop length)))
  | _ => none

/-- Reads one block, and tells whether it is the last. -/
def block? (needed : Nat) (out : Array UInt8) (b : Bits) :
    Option ((Array UInt8 × Stop) × Bool) := do
  let (last, b) ← b.number? 1
  let (kind, b) ← b.number? 2
  let result ←
    match kind with
    | 0 => stored? needed out b.aligned
    | 1 => do symbols? (← fixedCodes?) needed (b.size + 1) out b
    | 2 => do
      let (codes, b) ← ownCodes? b
      symbols? codes needed (b.size + 1) out b
    | _ => none
  return (result, last == 1)

/-- Reads blocks until there are `needed` bytes of output. -/
def blocks? (needed : Nat) : Nat → Array UInt8 → Bits → Option (Array UInt8)
  | 0, _, _ => none
  | fuel + 1, out, b =>
    if needed ≤ out.size then some out
    else do
      let ((out, stop), last) ← block? needed out b
      match stop with
      | .enough => some out
      | .endOfBlock b =>
        if last then (if needed ≤ out.size then some out else none)
        else blocks? needed fuel out b

/-- The first two bytes: the method, a window of at most 32 KiB, no preset dictionary, and a check
of these bits. -/
def isHeader (cmf flags : UInt8) : Bool :=
  cmf.toNat % 16 == 8 && cmf.toNat / 16 ≤ 7 && flags.toNat / 32 % 2 == 0
    && (256 * cmf.toNat + flags.toNat) % 31 == 0

/-- At least `needed` bytes of what a stream holds, or none if the stream is broken or holds
fewer. -/
def inflate? (needed : Nat) (stream : List UInt8) : Option (Array UInt8) :=
  match stream with
  | cmf :: flags :: rest =>
    if isHeader cmf flags then blocks? needed (8 * rest.length + 1) #[] (.ofBytes rest) else none
  | _ => none

end PlayerRegistry.Deflate
