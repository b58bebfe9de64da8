import Mathlib.Data.List.Induction
import Mathlib.Tactic.IntervalCases
import PlayerRegistry.Texture.Image

/-!
# Hexadecimal digits

Digits are written in lower case and read in either. The digits of a number, filled up with zeros,
are read back as the number. The hash of an image is written as 64 of them.
-/

namespace PlayerRegistry.Hex

theorem isLowerDigit_digit {n : Nat} (h : n < 16) : isLowerDigit (digit n) = true := by
  interval_cases n <;> decide

theorem toLower_digit {n : Nat} (h : n < 16) : (digit n).toLower = digit n := by
  interval_cases n <;> decide

theorem toLower_of_isLowerDigit {c : Char} (h : isLowerDigit c = true) : c.toLower = c := by
  have notUpper : ¬(c.val ≥ 'A'.val ∧ c.val ≤ 'Z'.val) := by
    simp only [isLowerDigit, Bool.or_eq_true, Bool.and_eq_true, decide_eq_true_eq] at h
    rintro ⟨from_A, to_Z⟩
    rcases h with ⟨-, to_9⟩ | ⟨from_a, -⟩
    · exact absurd (UInt32.le_trans from_A to_9) (by decide)
    · exact absurd (UInt32.le_trans from_a to_Z) (by decide)
  exact dif_neg notUpper

theorem digitValue?_digit {n : Nat} (h : n < 16) : digitValue? (digit n) = some n := by
  interval_cases n <;> decide

theorem length_ofBytes (bytes : List UInt8) : (ofBytes bytes).length = 2 * bytes.length := by
  induction bytes with
  | nil => rfl
  | cons b rest ih =>
    have step : ofBytes (b :: rest) = ofByte b ++ ofBytes rest := rfl
    rw [step, List.length_append, ih]
    simp only [ofByte, List.length_cons, List.length_nil]
    omega

/-- What holds of the sixteen digits holds of everything that is written. -/
theorem forall_mem_ofBytes {P : Char → Prop} (digits : ∀ n < 16, P (digit n))
    (bytes : List UInt8) : ∀ c ∈ ofBytes bytes, P c := by
  intro c hc
  obtain ⟨b, -, hb⟩ := List.mem_flatMap.mp hc
  have bound := b.toNat_lt
  have digit : c = digit (b.toNat / 16) ∨ c = digit (b.toNat % 16) := by
    simpa [ofByte] using hb
  rcases digit with rfl | rfl
  · exact digits _ (by omega)
  · exact digits _ (by omega)

theorem isLowerDigit_ofBytes (bytes : List UInt8) : (ofBytes bytes).all isLowerDigit = true :=
  List.all_eq_true.mpr (forall_mem_ofBytes (fun _ => isLowerDigit_digit) bytes)

theorem ascii_of_digitValue? {c : Char} {n : Nat} (h : digitValue? c = some n) :
    c.toNat < 128 := by
  have last : ∀ {d : Char}, c ≤ d → c.toNat ≤ d.toNat := fun h => Char.le_def.mp h
  rw [digitValue?] at h
  split at h
  · rename_i within
    exact Nat.lt_of_le_of_lt (last within.2) (by decide)
  · split at h
    · rename_i within
      exact Nat.lt_of_le_of_lt (last within.2) (by decide)
    · split at h
      · rename_i within
        exact Nat.lt_of_le_of_lt (last within.2) (by decide)
      · cases h

theorem ascii_of_toLower {c : Char} (h : c.toLower.toNat < 128) : c.toNat < 128 := by
  by_cases upper : c.val ≥ 'A'.val ∧ c.val ≤ 'Z'.val
  · have last : c.toNat ≤ 'Z'.toNat := upper.2
    exact Nat.lt_of_le_of_lt last (by decide)
  · have same : c.toLower = c := dif_neg upper
    rwa [same] at h

theorem digitValue?_of_ascii : ∀ k < 128,
    (digitValue? (Char.ofNat k)).all (fun n => n < 16 && (Char.ofNat k).toLower == digit n) &&
      digitValue? (Char.ofNat k).toLower == digitValue? (Char.ofNat k) := by decide +kernel

theorem digitValue?_eq_some_iff {c : Char} {n : Nat} :
    digitValue? c = some n ↔ n < 16 ∧ c.toLower = digit n := by
  constructor
  · intro h
    have all := digitValue?_of_ascii c.toNat (ascii_of_digitValue? h)
    rw [Char.ofNat_toNat, h] at all
    simp only [Option.all_some, Bool.and_eq_true, decide_eq_true_eq, beq_iff_eq] at all
    exact all.1
  · rintro ⟨bound, lower⟩
    have ascii : c.toNat < 128 := by
      apply ascii_of_toLower
      rw [lower]
      exact ascii_of_digitValue? (digitValue?_digit bound)
    have all := digitValue?_of_ascii c.toNat ascii
    rw [Char.ofNat_toNat, lower, digitValue?_digit bound] at all
    simp only [Bool.and_eq_true, beq_iff_eq] at all
    exact all.2.symm

theorem mapM_digitValue?_eq_some_iff {ds : List Char} {values : List Nat} :
    ds.mapM digitValue? = some values ↔
      (∀ v ∈ values, v < 16) ∧ ds.map Char.toLower = values.map digit := by
  induction ds generalizing values with
  | nil => cases values <;> simp
  | cons d ds ih =>
    simp only [List.mapM_cons, Option.bind_eq_bind, Option.bind_eq_some_iff, Option.pure_def,
      Option.some.injEq, List.map_cons]
    constructor
    · rintro ⟨v, hd, rest, hds, rfl⟩
      obtain ⟨bound, lower⟩ := digitValue?_eq_some_iff.mp hd
      obtain ⟨bounds, lowers⟩ := ih.mp hds
      exact ⟨by simpa using ⟨bound, bounds⟩, by rw [lower, lowers, List.map_cons]⟩
    · rintro ⟨bounds, lowers⟩
      cases values with
      | nil => simp at lowers
      | cons v rest =>
        obtain ⟨lower, lowers⟩ := List.cons.inj lowers
        obtain ⟨bound, bounds⟩ := List.forall_mem_cons.mp bounds
        exact ⟨v, digitValue?_eq_some_iff.mpr ⟨bound, lower⟩, rest, ih.mpr ⟨bounds, lowers⟩, rfl⟩

/-- The number that digits stand for. -/
def value (digits : List Nat) : Nat := digits.foldl (fun n d => 16 * n + d) 0

/-- The last `k` digits of a number. -/
def digitsOf (k n : Nat) : List Nat := (List.range k).map fun i => (n >>> (4 * (k - 1 - i))) % 16

theorem value_append (digits : List Nat) (d : Nat) :
    value (digits ++ [d]) = 16 * value digits + d := by
  simp [value]

@[simp]
theorem length_digitsOf (k n : Nat) : (digitsOf k n).length = k := by simp [digitsOf]

theorem lt_of_mem_digitsOf {k n d : Nat} (h : d ∈ digitsOf k n) : d < 16 := by
  obtain ⟨i, -, rfl⟩ := List.mem_map.mp h
  exact Nat.mod_lt _ (by decide)

theorem digitsOf_succ (k n : Nat) : digitsOf (k + 1) n = digitsOf k (n / 16) ++ [n % 16] := by
  rw [digitsOf, List.range_succ, List.map_append]
  refine congrArg₂ (· ++ ·) (List.map_congr_left fun i hi => ?_) (by simp)
  have hi := List.mem_range.mp hi
  have split : 4 * (k + 1 - 1 - i) = 4 + 4 * (k - 1 - i) := by omega
  have shift : n / 16 = n >>> 4 := by rw [Nat.shiftRight_eq_div_pow]
  rw [split, Nat.shiftRight_add, shift]

theorem value_digitsOf (k n : Nat) : value (digitsOf k n) = n % 16 ^ k := by
  induction k generalizing n with
  | zero => simp [digitsOf, value, Nat.mod_one]
  | succ k ih =>
    rw [digitsOf_succ, value_append, ih, Nat.pow_succ, Nat.mul_comm (16 ^ k), Nat.mod_mul]
    omega

theorem value_lt {digits : List Nat} (h : ∀ d ∈ digits, d < 16) :
    value digits < 16 ^ digits.length := by
  induction digits using List.reverseRecOn with
  | nil => simp [value]
  | append_singleton digits d ih =>
    have last : d < 16 := h d (by simp)
    have before := ih fun d' hd' => h d' (by simp [hd'])
    rw [value_append, List.length_append, List.length_singleton, Nat.pow_succ]
    omega

theorem digitsOf_value {digits : List Nat} (h : ∀ d ∈ digits, d < 16) :
    digitsOf digits.length (value digits) = digits := by
  induction digits using List.reverseRecOn with
  | nil => rfl
  | append_singleton digits d ih =>
    have last : d < 16 := h d (by simp)
    have before := ih fun d' hd' => h d' (by simp [hd'])
    rw [value_append, List.length_append, List.length_singleton, digitsOf_succ]
    have quotient : (16 * value digits + d) / 16 = value digits := by omega
    have remainder : (16 * value digits + d) % 16 = d := by omega
    rw [quotient, remainder, before]

end PlayerRegistry.Hex

namespace PlayerRegistry

namespace Bytes

theorem length_toList_loop (bs : ByteArray) (i : Nat) (r : List UInt8) :
    (ByteArray.toList.loop bs i r).length = r.length + (bs.size - i) := by
  fun_induction ByteArray.toList.loop bs i r with
  | case1 i r more ih =>
    rw [ih, List.length_cons]
    omega
  | case2 i r last =>
    rw [List.length_reverse]
    omega

theorem length_toList (bs : ByteArray) : bs.toList.length = bs.size := by
  rw [ByteArray.toList]
  rw [length_toList_loop]
  simp

theorem size_pushBe32 (b : ByteArray) (w : UInt32) : (pushBe32 b w).size = b.size + 4 := by
  simp [pushBe32]

end Bytes

theorem Hex.length_encode (bytes : ByteArray) : (encode bytes).length = 2 * bytes.size := by
  rw [encode, String.length_ofList, length_ofBytes, Bytes.length_toList]

theorem Sha256.size_hash (msg : ByteArray) : (hash msg).size = 32 := by
  simp [hash, State.bytes, Bytes.size_pushBe32]

/-- Every hash of an image can be that of a stored texture. -/
theorem Texture.isContentHash_contentHash (i : Image) : isContentHash i.contentHash = true := by
  rw [isContentHash, Image.contentHash, Sha256.hexHash, Hex.length_encode, Sha256.size_hash,
    Hex.encode, String.toList_ofList, Hex.isLowerDigit_ofBytes]
  rfl

end PlayerRegistry
