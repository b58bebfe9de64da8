import Mathlib.Algebra.Group.Nat.Defs
import Mathlib.Tactic.Tauto
import PlayerRegistry.Net.Address

/-!
# Addresses that are not public

The addresses that a fetch may not reach, as ranges from a first to a last address, and as the same
ranges in the form of version 6. What is asked of single octets, pieces and bits of an address comes
to these ranges: it is public exactly if it is in none of them.
-/

namespace PlayerRegistry

/-- The address is one from the first to the last, each given by its four bytes. -/
def Ipv4.IsBetween (a : Ipv4) (first last : List Nat) : Prop :=
  (ofOctets first).value.toNat ≤ a.value.toNat ∧ a.value.toNat ≤ (ofOctets last).value.toNat

/-- The address is one from the first to the last, each given by its eight pieces. -/
def Ipv6.IsBetween (a : Ipv6) (first last : List Nat) : Prop :=
  (ofPieces first).value.toNat ≤ a.value.toNat ∧ a.value.toNat ≤ (ofPieces last).value.toNat

/-- The unspecified address, private networks, the shared network, loopback, link-local addresses,
three networks for documents, and broadcast. -/
def Ipv4.internalRanges : List (List Nat × List Nat) :=
  [([0, 0, 0, 0], [0, 0, 0, 0]),
    ([10, 0, 0, 0], [10, 255, 255, 255]),
    ([100, 64, 0, 0], [100, 127, 255, 255]),
    ([127, 0, 0, 0], [127, 255, 255, 255]),
    ([169, 254, 0, 0], [169, 254, 255, 255]),
    ([172, 16, 0, 0], [172, 31, 255, 255]),
    ([192, 0, 2, 0], [192, 0, 2, 255]),
    ([192, 168, 0, 0], [192, 168, 255, 255]),
    ([198, 51, 100, 0], [198, 51, 100, 255]),
    ([203, 0, 113, 0], [203, 0, 113, 255]),
    ([255, 255, 255, 255], [255, 255, 255, 255])]

/-- The unspecified address, loopback, local addresses and link-local ones. -/
def Ipv6.internalRanges : List (List Nat × List Nat) :=
  [([0, 0, 0, 0, 0, 0, 0, 0], [0, 0, 0, 0, 0, 0, 0, 0]),
    ([0, 0, 0, 0, 0, 0, 0, 1], [0, 0, 0, 0, 0, 0, 0, 1]),
    ([0xfc00, 0, 0, 0, 0, 0, 0, 0],
      [0xfdff, 0xffff, 0xffff, 0xffff, 0xffff, 0xffff, 0xffff, 0xffff]),
    ([0xfe80, 0, 0, 0, 0, 0, 0, 0],
      [0xfebf, 0xffff, 0xffff, 0xffff, 0xffff, 0xffff, 0xffff, 0xffff])]

def Ipv4.IsInternal (a : Ipv4) : Prop := ∃ range ∈ internalRanges, a.IsBetween range.1 range.2

/-- The address in the form of version 6. -/
def Ipv4.mapped (a : Ipv4) : Ipv6 := ⟨BitVec.ofNat 128 (0xffff * 0x100000000 + a.value.toNat)⟩

/-- An address of one of the ranges, or the mapped form of an internal address of version 4. -/
def Ipv6.IsInternal (a : Ipv6) : Prop :=
  (∃ range ∈ internalRanges, a.IsBetween range.1 range.2) ∨ ∃ b : Ipv4, b.IsInternal ∧ a = b.mapped

def IpAddress.IsInternal : IpAddress → Prop
  | .v4 a => a.IsInternal
  | .v6 a => a.IsInternal

/-- A mask of bits in a row keeps these bits of a number. -/
theorem and_mask (n length shift : Nat) :
    n &&& (2 ^ length - 1) <<< shift = n / 2 ^ shift % 2 ^ length * 2 ^ shift := by
  rw [← Nat.shiftRight_eq_div_pow, ← Nat.shiftLeft_eq]
  refine Nat.eq_of_testBit_eq fun i => ?_
  by_cases above : shift ≤ i
  · have place : shift + (i - shift) = i := by omega
    simp [above, place, Bool.and_comm]
  · simp [above]

namespace Ipv4
variable {a : Ipv4}

theorem octets_eq (a : Ipv4) : a.octets = [a.value.toNat / 16777216 % 256,
    a.value.toNat / 65536 % 256, a.value.toNat / 256 % 256, a.value.toNat % 256] := by
  simp [octets, Nat.shiftRight_eq_div_pow]

theorem toNat_ofOctets {p q r s : Nat} (hp : p < 256) (hq : q < 256) (hr : r < 256)
    (hs : s < 256) :
    (ofOctets [p, q, r, s]).value.toNat = 16777216 * p + 65536 * q + 256 * r + s := by
  simp only [ofOctets, List.foldl_cons, List.foldl_nil, BitVec.toNat_ofNat]
  omega

/-- The addresses between two are told by their octets. -/
theorem isBetween_iff {p q r s p' q' r' s' : Nat}
    (small : p < 256 ∧ q < 256 ∧ r < 256 ∧ s < 256)
    (small' : p' < 256 ∧ q' < 256 ∧ r' < 256 ∧ s' < 256) :
    a.IsBetween [p, q, r, s] [p', q', r', s'] ↔
      16777216 * p + 65536 * q + 256 * r + s ≤ a.value.toNat ∧
        a.value.toNat ≤ 16777216 * p' + 65536 * q' + 256 * r' + s' := by
  obtain ⟨hp, hq, hr, hs⟩ := small
  obtain ⟨hp', hq', hr', hs'⟩ := small'
  rw [IsBetween, toNat_ofOctets hp hq hr hs, toNat_ofOctets hp' hq' hr' hs']

section
variable {p q r : Nat} (hp : p < 256) (hq : q < 256) (hr : r < 256)

include hp in
theorem begins_one_iff : [p].isPrefixOf a.octets = true ↔
    a.IsBetween [p, 0, 0, 0] [p, 255, 255, 255] := by
  have bound := a.value.isLt
  rw [isBetween_iff (by omega) (by omega)]
  simp only [octets_eq, List.isPrefixOf, Bool.and_true, beq_iff_eq]
  omega

include hp hq in
theorem begins_two_iff : [p, q].isPrefixOf a.octets = true ↔
    a.IsBetween [p, q, 0, 0] [p, q, 255, 255] := by
  have bound := a.value.isLt
  rw [isBetween_iff (by omega) (by omega)]
  simp only [octets_eq, List.isPrefixOf, Bool.and_true, Bool.and_eq_true, beq_iff_eq]
  omega

include hp hq hr in
theorem begins_three_iff : [p, q, r].isPrefixOf a.octets = true ↔
    a.IsBetween [p, q, r, 0] [p, q, r, 255] := by
  have bound := a.value.isLt
  rw [isBetween_iff (by omega) (by omega)]
  simp only [octets_eq, List.isPrefixOf, Bool.and_true, Bool.and_eq_true, beq_iff_eq]
  omega

end

theorem equals_iff {p q r s : Nat} (small : p < 256 ∧ q < 256 ∧ r < 256 ∧ s < 256) :
    (a.octets == [p, q, r, s]) = true ↔ a.IsBetween [p, q, r, s] [p, q, r, s] := by
  have bound := a.value.isLt
  rw [isBetween_iff small small, octets_eq, beq_iff_eq]
  simp only [List.cons.injEq, and_true]
  omega

theorem isUnspecified_iff : a.isUnspecified = true ↔ a.IsBetween [0, 0, 0, 0] [0, 0, 0, 0] :=
  equals_iff (by decide)

theorem isBroadcast_iff :
    a.isBroadcast = true ↔ a.IsBetween [255, 255, 255, 255] [255, 255, 255, 255] :=
  equals_iff (by decide)

theorem isPrivate_iff : a.isPrivate = true ↔ a.IsBetween [10, 0, 0, 0] [10, 255, 255, 255] ∨
    a.IsBetween [172, 16, 0, 0] [172, 31, 255, 255] ∨
      a.IsBetween [192, 168, 0, 0] [192, 168, 255, 255] := by
  have bound := a.value.isLt
  have middle : (a.octets.getD 0 0 == 172 && 16 ≤ a.octets.getD 1 0 &&
      a.octets.getD 1 0 ≤ 31 : Bool) = true ↔
        a.IsBetween [172, 16, 0, 0] [172, 31, 255, 255] := by
    rw [isBetween_iff (by omega) (by omega)]
    simp only [octets_eq, List.getD_cons_zero, List.getD_cons_succ, Bool.and_eq_true, beq_iff_eq,
      decide_eq_true_eq]
    omega
  rw [isPrivate, Bool.or_eq_true, Bool.or_eq_true, middle, begins_one_iff (by decide),
    begins_two_iff (by decide) (by decide), or_assoc]

/-- The two highest bits of the second octet are 01. -/
theorem isShared_iff :
    a.isShared = true ↔ a.IsBetween [100, 64, 0, 0] [100, 127, 255, 255] := by
  have bound := a.value.isLt
  have mask (n : Nat) : n &&& 0xc0 = n / 2 ^ 6 % 2 ^ 2 * 2 ^ 6 := and_mask n 2 6
  rw [isBetween_iff (by omega) (by omega)]
  simp only [isShared, octets_eq, List.getD_cons_zero, List.getD_cons_succ, mask,
    Bool.and_eq_true, beq_iff_eq]
  omega

theorem isPublic_iff (a : Ipv4) : a.isPublic = true ↔ ¬a.IsInternal := by
  rw [isPublic, Bool.not_eq_true', ← Bool.not_eq_true]
  simp only [Bool.or_eq_true, isLoopback, isLinkLocal, isDocumentation, isPrivate_iff,
    isUnspecified_iff, isBroadcast_iff, isShared_iff, begins_one_iff (show 127 < 256 by decide),
    begins_two_iff (show 169 < 256 by decide) (show 254 < 256 by decide),
    begins_three_iff (show 192 < 256 by decide) (show 0 < 256 by decide) (show 2 < 256 by decide),
    begins_three_iff (show 198 < 256 by decide) (show 51 < 256 by decide)
      (show 100 < 256 by decide),
    begins_three_iff (show 203 < 256 by decide) (show 0 < 256 by decide)
      (show 113 < 256 by decide)]
  simp only [IsInternal, internalRanges, List.mem_cons, List.not_mem_nil, or_false,
    exists_eq_or_imp, exists_eq_left]
  tauto

end Ipv4

namespace Ipv6
variable {a : Ipv6}

theorem pieces_eq (a : Ipv6) : a.pieces = [a.value.toNat / 2 ^ 112, a.value.toNat / 2 ^ 96 % 65536,
    a.value.toNat / 2 ^ 80 % 65536, a.value.toNat / 2 ^ 64 % 65536, a.value.toNat / 2 ^ 48 % 65536,
    a.value.toNat / 2 ^ 32 % 65536, a.value.toNat / 2 ^ 16 % 65536, a.value.toNat % 65536] := by
  have bound := a.value.isLt
  have first : a.value.toNat / 2 ^ 112 % 65536 = a.value.toNat / 2 ^ 112 :=
    Nat.mod_eq_of_lt (by omega)
  rw [← first]
  simp [pieces, List.range_succ, Nat.shiftRight_eq_div_pow]

theorem isUnspecified_iff :
    a.isUnspecified = true ↔ a.IsBetween [0, 0, 0, 0, 0, 0, 0, 0] [0, 0, 0, 0, 0, 0, 0, 0] := by
  have first : (ofPieces [0, 0, 0, 0, 0, 0, 0, 0]).value.toNat = 0 := by decide
  rw [IsBetween, first, isUnspecified, beq_iff_eq, ← BitVec.toNat_inj]
  simp

theorem isLoopback_iff :
    a.isLoopback = true ↔ a.IsBetween [0, 0, 0, 0, 0, 0, 0, 1] [0, 0, 0, 0, 0, 0, 0, 1] := by
  have first : (ofPieces [0, 0, 0, 0, 0, 0, 0, 1]).value.toNat = 1 := by decide
  rw [IsBetween, first, isLoopback, beq_iff_eq, ← BitVec.toNat_inj]
  change a.value.toNat = 1 ↔ _
  omega

/-- The seven highest bits are those of fc00. -/
theorem isLocal_iff : a.isLocal = true ↔ a.IsBetween [0xfc00, 0, 0, 0, 0, 0, 0, 0]
    [0xfdff, 0xffff, 0xffff, 0xffff, 0xffff, 0xffff, 0xffff, 0xffff] := by
  have bound := a.value.isLt
  have mask (n : Nat) : n &&& 0xfe00 = n / 2 ^ 9 % 2 ^ 7 * 2 ^ 9 := and_mask n 7 9
  have first : (ofPieces [0xfc00, 0, 0, 0, 0, 0, 0, 0]).value.toNat = 0xfc00 * 2 ^ 112 := by decide
  have last : (ofPieces [0xfdff, 0xffff, 0xffff, 0xffff, 0xffff, 0xffff, 0xffff,
      0xffff]).value.toNat = 0xfe00 * 2 ^ 112 - 1 := by decide
  rw [IsBetween, first, last, isLocal, pieces_eq, List.getD_cons_zero, mask, beq_iff_eq]
  omega

/-- The ten highest bits are those of fe80. -/
theorem isLinkLocal_iff : a.isLinkLocal = true ↔ a.IsBetween [0xfe80, 0, 0, 0, 0, 0, 0, 0]
    [0xfebf, 0xffff, 0xffff, 0xffff, 0xffff, 0xffff, 0xffff, 0xffff] := by
  have bound := a.value.isLt
  have mask (n : Nat) : n &&& 0xffc0 = n / 2 ^ 6 % 2 ^ 10 * 2 ^ 6 := and_mask n 10 6
  have first : (ofPieces [0xfe80, 0, 0, 0, 0, 0, 0, 0]).value.toNat = 0xfe80 * 2 ^ 112 := by decide
  have last : (ofPieces [0xfebf, 0xffff, 0xffff, 0xffff, 0xffff, 0xffff, 0xffff,
      0xffff]).value.toNat = 0xfec0 * 2 ^ 112 - 1 := by decide
  rw [IsBetween, first, last, isLinkLocal, pieces_eq, List.getD_cons_zero, mask, beq_iff_eq]
  omega

end Ipv6

theorem Ipv4.toNat_mapped (a : Ipv4) :
    a.mapped.value.toNat = 0xffff * 0x100000000 + a.value.toNat := by
  have bound := a.value.isLt
  rw [mapped, BitVec.toNat_ofNat]
  exact Nat.mod_eq_of_lt (by omega)

/-- An address that is mapped is taken for the one of version 4, and no other address is. -/
theorem Ipv6.mapped?_eq_some_iff {a : Ipv6} {b : Ipv4} : a.mapped? = some b ↔ a = b.mapped := by
  have begins : [0, 0, 0, 0, 0, 0xffff].isPrefixOf a.pieces = true ↔
      0xffff00000000 ≤ a.value.toNat ∧ a.value.toNat ≤ 0xffffffffffff := by
    simp only [pieces_eq, List.isPrefixOf, Bool.and_true, Bool.and_eq_true, beq_iff_eq]
    omega
  have same : a = b.mapped ↔ a.value.toNat = 0xffff * 0x100000000 + b.value.toNat := by
    rw [← b.toNat_mapped, BitVec.toNat_inj]
    exact ⟨congrArg value, fun same => congrArg mk same⟩
  have bound := b.value.isLt
  rw [mapped?, Option.ite_none_right_eq_some, begins, same, Option.some.injEq,
    Ipv4.mk.injEq, ← BitVec.toNat_inj, BitVec.toNat_ofNat]
  omega

/-- No range of version 6 has mapped addresses in it. -/
theorem Ipv4.not_isBetween_mapped (a : Ipv4) :
    ¬∃ range ∈ Ipv6.internalRanges, a.mapped.IsBetween range.1 range.2 := by
  have bound := a.value.isLt
  have ranges : ∀ range ∈ Ipv6.internalRanges,
      (Ipv6.ofPieces range.2).value.toNat < 0xffff * 0x100000000 ∨
        0x1000000000000 ≤ (Ipv6.ofPieces range.1).value.toNat := by decide
  rintro ⟨range, listed, first, last⟩
  rw [a.toNat_mapped] at first last
  rcases ranges range listed with below | above
  · omega
  · omega

theorem Ipv6.isPublic_iff (a : Ipv6) : a.isPublic = true ↔ ¬a.IsInternal := by
  have inside : (a.isLoopback || a.isUnspecified || a.isLocal || a.isLinkLocal) = true ↔
      ∃ range ∈ internalRanges, a.IsBetween range.1 range.2 := by
    simp only [Bool.or_eq_true, isUnspecified_iff, isLoopback_iff, isLocal_iff, isLinkLocal_iff,
      internalRanges, List.mem_cons, List.not_mem_nil, or_false, exists_eq_or_imp, exists_eq_left]
    tauto
  rw [isPublic]
  cases found : a.mapped? with
  | none =>
    have own : ¬∃ b : Ipv4, b.IsInternal ∧ a = b.mapped := by
      rintro ⟨b, -, same⟩
      rw [mapped?_eq_some_iff.mpr same] at found
      cases found
    rw [IsInternal, or_iff_left own, Bool.not_eq_true', ← Bool.not_eq_true, inside]
  | some b =>
    obtain rfl := mapped?_eq_some_iff.mp found
    rw [IsInternal, or_iff_right b.not_isBetween_mapped]
    refine b.isPublic_iff.trans (not_congr ⟨fun internal => ⟨b, internal, rfl⟩, ?_⟩)
    rintro ⟨c, internal, same⟩
    rw [← mapped?_eq_some_iff, found] at same
    rwa [Option.some.inj same]

theorem IpAddress.isPublic_iff (a : IpAddress) : a.isPublic = true ↔ ¬a.IsInternal := by
  cases a with
  | v4 a => exact a.isPublic_iff
  | v6 a => exact a.isPublic_iff

instance (a : IpAddress) : Decidable a.IsInternal :=
  decidable_of_iff (¬a.isPublic = true) (by rw [a.isPublic_iff, Classical.not_not])

end PlayerRegistry
