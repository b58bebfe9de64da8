import PlayerRegistry.Bytes.Hex
import PlayerRegistry.Digest.Blake3
import PlayerRegistry.Error
import PlayerRegistry.Random
import PlayerRegistry.SigningKey.Rsa

/-!
# The signing key

The one key pair of a registry, known by the hash of its encoding.
-/

namespace PlayerRegistry

structure SigningKey where
  key : Rsa.PrivateKey
  der : ByteArray

namespace SigningKey

def ofDer (der : ByteArray) : Result SigningKey :=
  match Rsa.ofPkcs8? der.data.toList with
  | some key => .ok ⟨key, der⟩
  | none => .error (.key "Failed to decode signing key: malformed key")

/-- 64 bytes that stand for the key. -/
def fingerprint (k : SigningKey) : ByteArray := Blake3.hash k.der 64

def fingerprintHex (k : SigningKey) : String := Hex.encode k.fingerprint

/-- What may be shown of a key. -/
def describe (k : SigningKey) : String :=
  "SigningKey \x7b fingerprint: \"" ++ k.fingerprintHex ++ "\", .. \x7d"

def publicDer (k : SigningKey) : ByteArray := ⟨k.key.publicDocument.toArray⟩

def sign (k : SigningKey) (message : ByteArray) : Result ByteArray :=
  match k.key.sign? message with
  | some signature => .ok ⟨signature.toArray⟩
  | none => .error (.key "Signing failed: the key cannot sign")

def publicExponent : Nat := 65537

/-- The first prime among `n`, `n + 2`, `n + 4`, … that has no more than `bits` bits. -/
def primeFrom? (bits : Nat) : Nat → Nat → Option Nat
  | 0, _ => none
  | fuel + 1, n =>
    if 1 <<< bits ≤ n then none
    else if Modular.isProbablePrime n then some n
    else primeFrom? bits fuel (n + 2)

/-- A prime of `bits` bits, the two highest of them set, from the draws after number `draw`, and
the number of the draw that gave it. -/
def randomPrime? (source : RandomSource) (bits : Nat) : Nat → Nat → Option (Nat × Nat)
  | 0, _ => none
  | fuel + 1, draw =>
    let drawn := RandomSource.number (source.draw draw ((bits + 7) / 8)) % (1 <<< (bits - 2))
    let start := (3 <<< (bits - 2)) + (drawn - drawn % 2 + 1)
    match primeFrom? bits (8 * bits) start with
    | some p => some (p, draw + 1)
    | none => randomPrime? source bits fuel (draw + 1)

/-- A key pair from two primes of half the size each. -/
def randomKey? (source : RandomSource) (bits : Nat) : Nat → Nat → Option Rsa.PrivateKey
  | 0, _ => none
  | fuel + 1, draw => do
    let (p, draw) ← randomPrime? source (bits / 2) 1000 draw
    let (q, draw) ← randomPrime? source (bits - bits / 2) 1000 draw
    let n := p * q
    match Modular.inverse? publicExponent ((p - 1) * (q - 1)) with
    | some d =>
      if p ≠ q ∧ Rsa.PrivateKey.bits n = bits then some ⟨n, publicExponent, d, p, q⟩
      else randomKey? source bits fuel draw
    | none => randomKey? source bits fuel draw

/-- The fewest bits of a modulus for which there are primes enough. -/
def leastBits : Nat := 12

def generate (source : RandomSource) (bits : Nat) : Result SigningKey :=
  let failure (reason : String) : Error := .key ("Failed to generate signing key: " ++ reason)
  if bits < leastBits then
    .error (failure "too few primes of given length to generate an RSA key")
  else
    match randomKey? source bits 1000 0 with
    | none => .error (failure "invalid prime value")
    | some key =>
      if key.Valid then .ok ⟨key, ⟨key.toPkcs8.toArray⟩⟩ else .error (failure "invalid modulus")

end SigningKey

end PlayerRegistry
