import PlayerRegistry.Bytes.Der
import PlayerRegistry.Digest.Sha1
import PlayerRegistry.Number.Modular

/-!
# RSA keys

A private key of two primes, its PKCS#8 encoding, and signatures over a SHA-1 digest.
-/

namespace PlayerRegistry.Rsa

structure PrivateKey where
  modulus : Nat
  publicExponent : Nat
  privateExponent : Nat
  prime1 : Nat
  prime2 : Nat
  deriving DecidableEq

namespace PrivateKey

def bits (n : Nat) : Nat := if n = 0 then 0 else n.log2 + 1

/-- The exponents invert each other modulo `prime - 1`. -/
def Inverts (k : PrivateKey) (prime : Nat) : Prop :=
  1 < prime ∧ k.publicExponent * k.privateExponent % (prime - 1) = 1

/-- What is asked of a key: a modulus of at most 4096 bits that is the product of the two factors,
an odd public exponent of at most 33 bits, and a private exponent to match. That the factors are
primes is not asked. -/
def Valid (k : PrivateKey) : Prop :=
  bits k.modulus ≤ 4096 ∧ k.modulus % 2 = 1 ∧ k.publicExponent < k.modulus ∧
    k.publicExponent % 2 = 1 ∧ 2 ≤ k.publicExponent ∧ k.publicExponent < 0x200000000 ∧
    k.prime1 * k.prime2 = k.modulus ∧ k.Inverts k.prime1 ∧ k.Inverts k.prime2

instance (k : PrivateKey) (prime : Nat) : Decidable (k.Inverts prime) := by
  unfold Inverts; infer_instance

instance (k : PrivateKey) : Decidable k.Valid := by unfold Valid; infer_instance

/-- Bytes of the modulus, and of a signature. -/
def size (k : PrivateKey) : Nat := (bits k.modulus + 7) / 8

end PrivateKey

/-- The object identifier 1.2.840.113549.1.1.1. -/
def algorithmId : List UInt8 := [0x2a, 0x86, 0x48, 0x86, 0xf7, 0x0d, 0x01, 0x01, 0x01]

def algorithm : List UInt8 :=
  Der.write Der.Tag.sequence (Der.write Der.Tag.objectId algorithmId ++ Der.write Der.Tag.null [])

/-- Reads `n` natural numbers. -/
def naturals? : Nat → List UInt8 → Option (List Nat × List UInt8)
  | 0, bytes => some ([], bytes)
  | n + 1, bytes => do
    let (x, rest) ← Der.natural? bytes
    let (xs, rest) ← naturals? n rest
    return (x :: xs, rest)

/-- Reads version, modulus, exponents and factors. The remaining three numbers follow from these
and are not looked at. -/
def ofNumbers? (bytes : List UInt8) : Option PrivateKey := do
  let content ← Der.only? Der.Tag.sequence bytes
  let (numbers, rest) ← naturals? 9 content
  match numbers, rest with
  | [0, n, e, d, p, q, _, _, _], [] => some ⟨n, e, d, p, q⟩
  | _, _ => none

/-- Skips attributes, which have the number 0. -/
def skipAttributes : Nat → List UInt8 → Option (List UInt8)
  | 0, _ => none
  | fuel + 1, bytes =>
    if (bytes.head?.bind Der.Tag.contextNumber?) = some 0 then do
      let (_, rest) ← Der.element? bytes
      skipAttributes fuel rest
    else some bytes

/-- Further fields each wrap one element. -/
def areExtensions : Nat → List UInt8 → Bool
  | _, [] => true
  | 0, _ => false
  | fuel + 1, bytes =>
    match Der.element? bytes with
    | none => false
    | some (e, rest) =>
      let wrapsOne := match Der.element? e.content with
        | some (_, []) => true
        | _ => false
      (Der.Tag.contextNumber? e.tag).isSome && e.tag.toNat / 32 % 2 == 1 && wrapsOne
        && areExtensions fuel rest

/-- What may follow the key: attributes, and exactly in version 1 a public key. -/
def isTail (version : Nat) (bytes : List UInt8) : Bool :=
  match skipAttributes (bytes.length + 1) bytes with
  | none => false
  | some rest =>
    if (rest.head?.bind Der.Tag.contextNumber?) = some 1 then
      match Der.expect? 0x81 rest with
      | some (0 :: _, rest) => version == 1 && areExtensions rest.length rest
      | _ => false
    else version == 0 && areExtensions rest.length rest

/-- The key that a PKCS#8 document holds, if it is valid. -/
def ofPkcs8? (document : List UInt8) : Option PrivateKey := do
  let content ← Der.only? Der.Tag.sequence document
  let (version, rest) ← Der.natural? content
  if 1 < version ∨ rest.take algorithm.length ≠ algorithm then none
  let (octets, rest) ← Der.expect? Der.Tag.octetString (rest.drop algorithm.length)
  if !isTail version rest then none
  let k ← ofNumbers? octets
  if k.Valid then some k else none

namespace PrivateKey

def exponent1 (k : PrivateKey) : Nat := k.privateExponent % (k.prime1 - 1)

def exponent2 (k : PrivateKey) : Nat := k.privateExponent % (k.prime2 - 1)

def toPkcs8 (k : PrivateKey) : List UInt8 :=
  let coefficient := (Modular.inverse? k.prime2 k.prime1).getD 0
  let numbers := [0, k.modulus, k.publicExponent, k.privateExponent, k.prime1, k.prime2,
    k.exponent1, k.exponent2, coefficient]
  Der.write Der.Tag.sequence (Der.writeNatural 0 ++ algorithm
    ++ Der.write Der.Tag.octetString
      (Der.write Der.Tag.sequence (numbers.flatMap Der.writeNatural)))

/-- The public half as a SubjectPublicKeyInfo document. -/
def publicDocument (k : PrivateKey) : List UInt8 :=
  let numbers := Der.writeNatural k.modulus ++ Der.writeNatural k.publicExponent
  Der.write Der.Tag.sequence (algorithm
    ++ Der.write Der.Tag.bitString (0 :: Der.write Der.Tag.sequence numbers))

/-- The power with the private exponent, from the powers modulo the factors where these determine
it. -/
def privatePower (k : PrivateKey) (c : Nat) : Nat :=
  match Modular.inverse? k.prime2 k.prime1 with
  | none => Modular.pow c k.privateExponent k.modulus
  | some coefficient =>
    let m1 := Modular.pow c k.exponent1 k.prime1
    let m2 := Modular.pow c k.exponent2 k.prime2
    let difference := ((m1 : Int) - m2) % k.prime1
    m2 + (difference * coefficient % k.prime1).toNat * k.prime2

/-- Names the digest as one of SHA-1. -/
def digestMark : List UInt8 :=
  [0x30, 0x21, 0x30, 0x09, 0x06, 0x05, 0x2b, 0x0e, 0x03, 0x02, 0x1a, 0x05, 0x00, 0x04, 0x14]

/-- The block that is signed: padding, and the digest with its mark; none if the modulus has no
room for it. -/
def block? (k : PrivateKey) (digest : List UInt8) : Option (List UInt8) :=
  let text := digestMark ++ digest
  if k.size < text.length + 11 then none
  else some (0 :: 1 :: (List.replicate (k.size - text.length - 3) 0xff ++ 0 :: text))

/-- A number as `n` bytes. -/
def fixedBytes (n value : Nat) : List UInt8 :=
  (List.range n).map fun i => UInt8.ofNat (value >>> (8 * (n - 1 - i)))

/-- The signature of a message. A power that the public exponent does not lead back is not given
out. -/
def sign? (k : PrivateKey) (message : ByteArray) : Option (List UInt8) := do
  let block ← k.block? (Sha1.hash message).data.toList
  let c := Der.number block
  let m := k.privatePower c
  if k.modulus ≤ c ∨ Modular.pow m k.publicExponent k.modulus ≠ c then none
  return fixedBytes k.size m

end PrivateKey

end PlayerRegistry.Rsa
