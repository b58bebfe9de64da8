import Mathlib.Data.Nat.Log
import PlayerRegistry.Proofs.DerText
import PlayerRegistry.SigningKey.Basic

/-!
# Key documents that are read back

The document of a valid key is read back as that key, and so is the document of every key that is
made. What a document begins with is never a document itself, so a file that is still being written
holds no key.
-/

namespace PlayerRegistry

open Der (write writeNatural)

namespace Der

theorem length_writeLength_le {n : Nat} (h : n < 256 ^ 4) : (writeLength n).length ≤ 5 := by
  rw [writeLength]
  split
  · simp
  · have few := length_bytesOf_le h
    rw [List.length_cons]
    omega

theorem length_write_le {content : List UInt8} (h : content.length < 256 ^ 4) (tag : UInt8) :
    (write tag content).length ≤ content.length + 6 := by
  have := length_writeLength_le h
  simp only [write, List.length_cons, List.length_append]
  omega

theorem length_writeNatural_le {n k : Nat} (h : n < 256 ^ k) (small : k + 1 < 256 ^ 4) :
    (writeNatural n).length ≤ k + 7 := by
  have few := length_bytesOf_le h
  rw [writeNatural]
  cases bytes : bytesOf n with
  | nil =>
    have short : ([0] : List UInt8).length < 256 ^ 4 := by decide
    have whole := length_write_le short Tag.integer
    simp only [List.length_singleton] at whole ⊢
    omega
  | cons first more =>
    rw [bytes, List.length_cons] at few
    dsimp only
    split
    · have short : (0 :: first :: more).length < 256 ^ 4 := by
        simp only [List.length_cons]
        omega
      have whole := length_write_le short Tag.integer
      simp only [List.length_cons] at whole
      omega
    · have short : (first :: more).length < 256 ^ 4 := by
        simp only [List.length_cons]
        omega
      have whole := length_write_le short Tag.integer
      simp only [List.length_cons] at whole
      omega

end Der

theorem Modular.inverse?_lt {a m i : Nat} (h : Modular.inverse? a m = some i) (positive : 0 < m) :
    i < m := by
  rw [Modular.inverse?] at h
  dsimp only at h
  split at h
  · have := Option.some.inj h
    have := Int.emod_lt_of_pos (Modular.gcdFactor (a % m) m 1 0).2 (by omega : (0 : Int) < m)
    have := Int.emod_nonneg (Modular.gcdFactor (a % m) m 1 0).2 (by omega : (m : Int) ≠ 0)
    omega
  · cases h

theorem Modular.isProbablePrime_of_small {n : Nat} (small : n < 1000000) (two : 2 ≤ n)
    (h : ∀ p < 1000, 2 ≤ p → n % p ≠ 0 ∨ n = p) : isProbablePrime n = true := by
  rw [isProbablePrime, if_pos small]
  simp only [smallPrimes, Bool.and_eq_true, decide_eq_true_eq, List.all_eq_true, List.mem_filter,
    List.mem_range, Bool.or_eq_true, beq_iff_eq]
  exact ⟨two, fun p hp => h p hp.1 hp.2.1⟩

namespace Rsa

/-- No number of a key has more bytes than this. -/
def mostBytes : Nat := 512

theorem naturals?_writeNatural {ns : List Nat} (h : ∀ n ∈ ns, n < 256 ^ mostBytes)
    (rest : List UInt8) :
    naturals? ns.length (ns.flatMap writeNatural ++ rest) = some (ns, rest) := by
  induction ns with
  | nil => rfl
  | cons n ns ih =>
    have read := Der.natural?_writeNatural (h n (by simp)) (by decide)
      (ns.flatMap writeNatural ++ rest)
    have more := ih fun m hm => h m (by simp [hm])
    simp [naturals?, read, more]

theorem length_flatMap_writeNatural_le {ns : List Nat} (h : ∀ n ∈ ns, n < 256 ^ mostBytes) :
    (ns.flatMap writeNatural).length ≤ ns.length * 519 := by
  induction ns with
  | nil => simp
  | cons n ns ih =>
    have first := Der.length_writeNatural_le (h n (by simp)) (by decide)
    have more := ih fun m hm => h m (by simp [hm])
    simp only [List.flatMap_cons, List.length_append, List.length_cons, mostBytes] at *
    omega

theorem PrivateKey.lt_of_bits_le {n k : Nat} (h : PrivateKey.bits n ≤ 8 * k) : n < 256 ^ k := by
  rw [show 256 = 2 ^ 8 from rfl, ← Nat.pow_mul]
  by_cases zero : n = 0
  · rw [zero]
    exact Nat.two_pow_pos _
  · rw [PrivateKey.bits, if_neg zero] at h
    exact (Nat.log2_lt zero).mp h

namespace PrivateKey

variable {k : PrivateKey}

/-- The numbers of a document, in their order. -/
def numbers (k : PrivateKey) : List Nat :=
  [0, k.modulus, k.publicExponent, k.privateExponent, k.prime1, k.prime2, k.exponent1,
    k.exponent2, (Modular.inverse? k.prime2 k.prime1).getD 0]

theorem Valid.prime1_le (valid : k.Valid) : k.prime1 ≤ k.modulus := by
  obtain ⟨-, -, -, -, -, -, product, -, one_lt, -⟩ := valid
  rw [← product]
  exact Nat.le_mul_of_pos_right _ (by omega)

theorem Valid.prime2_le (valid : k.Valid) : k.prime2 ≤ k.modulus := by
  obtain ⟨-, -, -, -, -, -, product, ⟨one_lt, -⟩, -⟩ := valid
  rw [← product]
  exact Nat.le_mul_of_pos_left _ (by omega)

theorem Valid.coefficient_le (valid : k.Valid) :
    (Modular.inverse? k.prime2 k.prime1).getD 0 ≤ k.prime1 := by
  cases inverse : Modular.inverse? k.prime2 k.prime1 with
  | none => exact Nat.zero_le _
  | some i =>
    obtain ⟨-, -, -, -, -, -, -, ⟨one_lt, -⟩, -⟩ := valid
    exact (Modular.inverse?_lt inverse (by omega)).le

theorem Valid.number_lt (valid : k.Valid) (reduced : k.privateExponent ≤ k.modulus) :
    ∀ n ∈ k.numbers, n < 256 ^ mostBytes := by
  have most : k.modulus < 256 ^ mostBytes := lt_of_bits_le valid.1
  have public_le : k.publicExponent ≤ k.modulus := valid.2.2.1.le
  have first := valid.prime1_le
  have second := valid.prime2_le
  have coefficient := valid.coefficient_le
  have exponent1_le : k.exponent1 ≤ k.privateExponent := Nat.mod_le _ _
  have exponent2_le : k.exponent2 ≤ k.privateExponent := Nat.mod_le _ _
  intro n hn
  refine lt_of_le_of_lt ?_ most
  simp only [numbers, List.mem_cons, List.not_mem_nil, or_false] at hn
  omega

/-- The elements of the document: version, algorithm, and the numbers as octets. -/
theorem toPkcs8_eq (k : PrivateKey) :
    k.toPkcs8 = write Der.Tag.sequence (writeNatural 0 ++ (algorithm ++
      write Der.Tag.octetString (write Der.Tag.sequence (k.numbers.flatMap writeNatural)))) := by
  rw [← List.append_assoc]
  rfl

theorem Valid.length_numbers_le (valid : k.Valid) (reduced : k.privateExponent ≤ k.modulus) :
    (k.numbers.flatMap writeNatural).length ≤ 9 * 519 :=
  length_flatMap_writeNatural_le (valid.number_lt reduced)

theorem Valid.ofNumbers?_write (valid : k.Valid) (reduced : k.privateExponent ≤ k.modulus) :
    ofNumbers? (write Der.Tag.sequence (k.numbers.flatMap writeNatural)) = some k := by
  have length := valid.length_numbers_le reduced
  have read : naturals? 9 (k.numbers.flatMap writeNatural ++ []) = some (k.numbers, []) :=
    naturals?_writeNatural (valid.number_lt reduced) []
  rw [List.append_nil] at read
  rw [ofNumbers?, Der.only?_write (by omega), Option.bind_eq_bind, Option.bind_some, read]
  rfl

/-- The document of a valid key is read back, if the private exponent is in range. -/
theorem Valid.ofPkcs8?_toPkcs8 (valid : k.Valid) (reduced : k.privateExponent ≤ k.modulus) :
    ofPkcs8? k.toPkcs8 = some k := by
  have length := valid.length_numbers_le reduced
  have inner := Der.length_write_le (lt_of_le_of_lt length (by decide)) Der.Tag.sequence
  have octets := Der.expect?_write (lt_of_le_of_lt inner (by omega)) Der.Tag.octetString []
  have outer := Der.length_write_le (lt_of_le_of_lt inner (by omega)) Der.Tag.octetString
  have version := Der.natural?_writeNatural (n := 0) (k := 0) (by decide) (by decide)
    (algorithm ++ write Der.Tag.octetString
      (write Der.Tag.sequence (k.numbers.flatMap writeNatural)))
  have whole : (writeNatural 0 ++ (algorithm ++ write Der.Tag.octetString
      (write Der.Tag.sequence (k.numbers.flatMap writeNatural)))).length < 256 ^ 4 := by
    have zero := Der.length_writeNatural_le (n := 0) (k := 0) (by decide) (by decide)
    have rest : algorithm.length = 15 := by decide
    simp only [List.length_append, rest]
    omega
  have nothing : isTail 0 [] = true := by decide
  rw [List.append_nil] at octets
  rw [toPkcs8_eq, ofPkcs8?, Der.only?_write whole]
  simp only [Option.bind_eq_bind, Option.bind_some, version, List.take_left', List.drop_left',
    octets, valid.ofNumbers?_write reduced]
  simp [nothing, valid]

end PrivateKey

/-- What a document begins with is no document. -/
theorem ofPkcs8?_append {bytes more : List UInt8} {k : PrivateKey} (h : ofPkcs8? bytes = some k)
    (proper : more ≠ []) : ofPkcs8? (bytes ++ more) = none := by
  rw [ofPkcs8?, Option.bind_eq_bind, Option.bind_eq_some_iff] at h
  obtain ⟨content, whole, -⟩ := h
  rw [ofPkcs8?, Der.only?_append whole proper]
  rfl

end Rsa

namespace SigningKey

/-- The private exponent of a new key undoes the public one. -/
theorem inverse_of_randomKey? {source : RandomSource} {bits fuel draw : Nat} {k : Rsa.PrivateKey}
    (h : randomKey? source bits fuel draw = some k) :
    Modular.inverse? k.publicExponent ((k.prime1 - 1) * (k.prime2 - 1)) =
      some k.privateExponent := by
  induction fuel generalizing draw with
  | zero => cases h
  | succ fuel ih =>
    simp only [randomKey?, Option.bind_eq_bind, Option.bind_eq_some_iff] at h
    obtain ⟨⟨p, draw'⟩, -, ⟨q, draw''⟩, -, h⟩ := h
    dsimp only at h
    cases inverse : Modular.inverse? publicExponent ((p - 1) * (q - 1)) with
    | none =>
      rw [inverse] at h
      exact ih h
    | some d =>
      rw [inverse] at h
      dsimp only at h
      split at h
      · obtain rfl := Option.some.inj h
        exact inverse
      · exact ih h

/-- A draw that hits a prime gives this prime. -/
theorem randomPrime?_of_prime {source : RandomSource} {bits draw drawn p : Nat} (fuel : Nat)
    (number : RandomSource.number (source.draw draw ((bits + 7) / 8)) % (1 <<< (bits - 2)) = drawn)
    (start : (3 <<< (bits - 2)) + (drawn - drawn % 2 + 1) = p) (small : p < 1 <<< bits)
    (positive : 0 < bits) (prime : Modular.isProbablePrime p = true) :
    randomPrime? source bits (fuel + 1) draw = some (p, draw + 1) := by
  have first : primeFrom? bits (8 * bits) p = some p := by
    obtain ⟨b, rfl⟩ : ∃ b, bits = b + 1 := ⟨bits - 1, by omega⟩
    rw [Nat.mul_succ, primeFrom?, if_neg (Nat.not_le.mpr small), if_pos prime]
  rw [randomPrime?, number]
  simp only [start, first]

theorem randomKey?_of_primes {source : RandomSource} {bits draw draw' draw'' p q d : Nat}
    (fuel : Nat) (first : randomPrime? source (bits / 2) 1000 draw = some (p, draw'))
    (second : randomPrime? source (bits - bits / 2) 1000 draw' = some (q, draw''))
    (inverse : Modular.inverse? publicExponent ((p - 1) * (q - 1)) = some d)
    (fits : p ≠ q ∧ Rsa.PrivateKey.bits (p * q) = bits) :
    randomKey? source bits (fuel + 1) draw = some ⟨p * q, publicExponent, d, p, q⟩ := by
  simp only [randomKey?, first, second, Option.bind_eq_bind, Option.bind_some, inverse, if_pos fits]

theorem generate_cases (source : RandomSource) (bits : Nat) :
    (∃ text, generate source bits = .error (.key text)) ∨
      ∃ k, randomKey? source bits 1000 0 = some k ∧ k.Valid ∧
        generate source bits = .ok ⟨k, ⟨k.toPkcs8.toArray⟩⟩ := by
  rw [generate]
  dsimp only
  split
  · exact .inl ⟨_, rfl⟩
  · cases made : randomKey? source bits 1000 0 with
    | none => exact .inl ⟨_, rfl⟩
    | some k =>
      dsimp only
      split
      · rename_i valid
        exact .inr ⟨k, rfl, valid, rfl⟩
      · exact .inl ⟨_, rfl⟩

theorem ofDer_cases (der : ByteArray) :
    (∃ text, ofDer der = .error (.key text)) ∨
      ∃ k, Rsa.ofPkcs8? der.data.toList = some k ∧ ofDer der = .ok ⟨k, der⟩ := by
  rw [ofDer]
  cases Rsa.ofPkcs8? der.data.toList with
  | none => exact .inl ⟨_, rfl⟩
  | some k => exact .inr ⟨k, rfl, rfl⟩

/-- The bytes of a key that was read are those that it was read from. -/
theorem der_of_ofDer {der : ByteArray} {key : SigningKey} (h : ofDer der = .ok key) :
    key.der = der := by
  rcases ofDer_cases der with ⟨text, he⟩ | ⟨k, -, he⟩
  · rw [he] at h
    cases h
  · rw [he] at h
    cases h
    rfl

/-- A new key is read back from its bytes. -/
theorem ofDer_generate {source : RandomSource} {bits : Nat} {key : SigningKey}
    (h : generate source bits = .ok key) : ofDer key.der = .ok key := by
  rcases generate_cases source bits with ⟨text, he⟩ | ⟨k, made, valid, he⟩
  · rw [he] at h
    cases h
  · rw [he] at h
    obtain rfl := Except.ok.inj h
    have inverse := inverse_of_randomKey? made
    have reduced : k.privateExponent ≤ k.modulus := by
      obtain ⟨-, -, -, -, -, -, product, ⟨one_lt, -⟩, ⟨one_lt', -⟩⟩ := valid
      have positive : 0 < (k.prime1 - 1) * (k.prime2 - 1) :=
        Nat.mul_pos (by omega) (by omega)
      have below := (Modular.inverse?_lt inverse positive).le
      have : (k.prime1 - 1) * (k.prime2 - 1) ≤ k.prime1 * k.prime2 :=
        Nat.mul_le_mul (Nat.sub_le _ _) (Nat.sub_le _ _)
      omega
    have read : Rsa.ofPkcs8? k.toPkcs8 = some k := valid.ofPkcs8?_toPkcs8 reduced
    rw [ofDer]
    simp only [read]

/-- What a key begins with is no key. -/
theorem ofDer_prefix {bytes rest : ByteArray} {key : SigningKey}
    (h : ofDer (bytes ++ rest) = .ok key) (proper : rest.size ≠ 0) :
    ∃ text, ofDer bytes = .error (.key text) := by
  rcases ofDer_cases bytes with early | ⟨k, read, -⟩
  · exact early
  · have more : rest.data.toList ≠ [] := by
      intro none
      have : rest.data.toList.length = 0 := by rw [none]; rfl
      exact proper (by simpa using this)
    have longer := Rsa.ofPkcs8?_append read more
    rcases ofDer_cases (bytes ++ rest) with ⟨text, he⟩ | ⟨k', whole, -⟩
    · rw [he] at h
      cases h
    · rw [ByteArray.data_append, Array.toList_append, longer] at whole
      cases whole

end SigningKey

end PlayerRegistry
