import Mathlib.Algebra.Group.Nat.Defs
import PlayerRegistry.Bytes.Der

/-!
# Elements that are read back

What was written as an element is read back as it was, whatever follows it. Reading never looks
beyond the end of an element, so bytes that make one element are not the beginning of another.
-/

namespace PlayerRegistry.Der

theorem number_append (bytes : List UInt8) (last : UInt8) :
    number (bytes ++ [last]) = 256 * number bytes + last.toNat := by
  simp [number, List.foldl_append]

theorem bytesOf_of_ne {n : Nat} (h : n ≠ 0) :
    bytesOf n = bytesOf (n / 256) ++ [UInt8.ofNat (n % 256)] := by
  rw [bytesOf, dif_neg h]

@[simp]
theorem bytesOf_zero : bytesOf 0 = [] := by rw [bytesOf, dif_pos rfl]

theorem number_bytesOf (n : Nat) : number (bytesOf n) = n := by
  induction n using bytesOf.induct with
  | case1 => simp [number]
  | case2 n h ih =>
    rw [bytesOf_of_ne h, number_append, ih]
    have : (UInt8.ofNat (n % 256)).toNat = n % 256 := by simp
    omega

/-- There are no leading zeros. -/
theorem head?_bytesOf (n : Nat) : (bytesOf n).head? ≠ some 0 := by
  induction n using bytesOf.induct with
  | case1 => simp
  | case2 n h ih =>
    rw [bytesOf_of_ne h]
    by_cases small : n / 256 = 0
    · intro zero
      have : (UInt8.ofNat (n % 256)).toNat = 0 := by
        rw [small, bytesOf_zero] at zero
        rw [Option.some.inj zero]
        rfl
      have : n % 256 = 0 := by simpa using this
      omega
    · rw [bytesOf_of_ne small] at ih ⊢
      simpa using ih

theorem length_bytesOf_le {n k : Nat} (h : n < 256 ^ k) : (bytesOf n).length ≤ k := by
  induction k generalizing n with
  | zero =>
    have : n = 0 := by omega
    simp [this]
  | succ k ih =>
    by_cases hn : n = 0
    · simp [hn]
    · rw [bytesOf_of_ne hn]
      have : n / 256 < 256 ^ k := by
        rw [Nat.div_lt_iff_lt_mul (by decide), ← Nat.pow_succ]
        exact h
      simpa using ih this

theorem bytesOf_ne_nil {n : Nat} (h : n ≠ 0) : bytesOf n ≠ [] := by
  rw [bytesOf_of_ne h]
  simp

/-- Lengths have four bytes at most. -/
theorem length?_writeLength {n : Nat} (h : n < 256 ^ 4) (rest : List UInt8) :
    length? (writeLength n ++ rest) = some (n, rest) := by
  rw [writeLength]
  by_cases short : n < 128
  · rw [if_pos short]
    have value : (UInt8.ofNat n).toNat = n := by
      simp only [UInt8.toNat_ofNat']
      omega
    have first : UInt8.ofNat n < 0x80 := by
      rw [UInt8.lt_iff_toNat_lt, value]
      exact short
    simp [length?, first, value]
  · rw [if_neg short]
    have positive : 0 < (bytesOf n).length :=
      List.length_pos_iff.mpr (bytesOf_ne_nil (by omega))
    have few := length_bytesOf_le h
    have value : (UInt8.ofNat (128 + (bytesOf n).length)).toNat = 128 + (bytesOf n).length := by
      simp only [UInt8.toNat_ofNat']
      omega
    have first : ¬UInt8.ofNat (128 + (bytesOf n).length) < 0x80 := by
      rw [UInt8.lt_iff_toNat_lt, value]
      exact Nat.not_lt.mpr (Nat.le_add_right 128 _)
    have count : 128 + (bytesOf n).length - 128 = (bytesOf n).length := by omega
    have proper : ¬((bytesOf n).length = 0 ∨ 4 < (bytesOf n).length ∨
        (bytesOf n).length < (bytesOf n).length ∨ (bytesOf n).head? = some 0 ∨ n < 128) := by
      rintro (none | many | missing | zero | small)
      · omega
      · omega
      · omega
      · exact head?_bytesOf n zero
      · exact short small
    simp only [List.cons_append, length?, if_neg first, value, count, List.take_left',
      List.drop_left', number_bytesOf, if_neg proper]

theorem element?_write {content : List UInt8} (h : content.length < 256 ^ 4) (tag : UInt8)
    (rest : List UInt8) : element? (write tag content ++ rest) = some (⟨tag, content⟩, rest) := by
  simp [write, element?, length?_writeLength h]

theorem expect?_eq_some_iff {tag : UInt8} {bytes content rest : List UInt8} :
    expect? tag bytes = some (content, rest) ↔ element? bytes = some (⟨tag, content⟩, rest) := by
  rw [expect?]
  cases element? bytes with
  | none => simp
  | some found =>
    obtain ⟨⟨tag', content'⟩, rest'⟩ := found
    by_cases same : tag' = tag
    · simp [same]
    · simp [same]

theorem only?_eq_some_iff {tag : UInt8} {bytes content : List UInt8} :
    only? tag bytes = some content ↔ element? bytes = some (⟨tag, content⟩, []) := by
  rw [← expect?_eq_some_iff, only?]
  cases expect? tag bytes with
  | none => simp
  | some found =>
    obtain ⟨content', rest⟩ := found
    by_cases ended : rest = []
    · simp [ended]
    · simp [ended]

theorem expect?_write {content : List UInt8} (h : content.length < 256 ^ 4) (tag : UInt8)
    (rest : List UInt8) : expect? tag (write tag content ++ rest) = some (content, rest) :=
  expect?_eq_some_iff.mpr (element?_write h tag rest)

theorem only?_write {content : List UInt8} (h : content.length < 256 ^ 4) (tag : UInt8) :
    only? tag (write tag content) = some content := by
  have read := element?_write h tag []
  rw [List.append_nil] at read
  exact only?_eq_some_iff.mpr read

theorem natural?_writeNatural {n k : Nat} (h : n < 256 ^ k) (small : k + 1 < 256 ^ 4)
    (rest : List UInt8) : natural? (writeNatural n ++ rest) = some (n, rest) := by
  have few := length_bytesOf_le h
  have value := number_bytesOf n
  have leading := head?_bytesOf n
  rw [writeNatural]
  cases bytes : bytesOf n with
  | nil =>
    rw [bytes] at value
    have short : ([0] : List UInt8).length < 256 ^ 4 := by decide
    have read := expect?_write short Tag.integer rest
    simp [natural?, read, ← value, number]
  | cons first more =>
    rw [bytes] at few value leading
    have nonzero : first ≠ 0 := fun zero => leading (congrArg some zero)
    by_cases high : 0x80 ≤ first
    · have short : (0 :: first :: more).length < 256 ^ 4 := by
        simp only [List.length_cons] at few ⊢
        omega
      have read := expect?_write short Tag.integer rest
      have : ¬first < 0x80 := UInt8.not_lt.mpr high
      simp [natural?, high, read, this, value]
    · have short : (first :: more).length < 256 ^ 4 := by
        simp only [List.length_cons] at few ⊢
        omega
      have read := expect?_write short Tag.integer rest
      simp only [if_neg high, natural?, read, Option.bind_eq_bind, Option.bind_some]
      split
      · simp_all
      · simp_all
      · simp_all
      · rename_i same
        obtain ⟨rfl, rfl⟩ := List.cons.inj same
        rw [if_neg high, value]

section
variable {bytes rest : List UInt8}

theorem length?_append {n : Nat} (h : length? bytes = some (n, rest)) (more : List UInt8) :
    length? (bytes ++ more) = some (n, rest ++ more) := by
  cases bytes with
  | nil => cases h
  | cons first tail =>
    rw [length?] at h
    rw [List.cons_append, length?]
    by_cases short : first < 0x80
    · rw [if_pos short] at h ⊢
      obtain ⟨rfl, rfl⟩ := Prod.mk.inj (Option.some.inj h)
      rfl
    · rw [if_neg short] at h ⊢
      dsimp only at h ⊢
      split at h
      · cases h
      · rename_i proper
        obtain ⟨rfl, rfl⟩ := Prod.mk.inj (Option.some.inj h)
        have enough : first.toNat - 128 ≤ tail.length := by
          simp only [List.length_take] at proper
          omega
        rw [List.take_append_of_le_length enough, List.drop_append_of_le_length enough,
          if_neg proper]

theorem element?_append {e : Element} (h : element? bytes = some (e, rest)) (more : List UInt8) :
    element? (bytes ++ more) = some (e, rest ++ more) := by
  cases bytes with
  | nil => cases h
  | cons tag tail =>
    rw [element?, Option.bind_eq_bind, Option.bind_eq_some_iff] at h
    obtain ⟨⟨length, tail'⟩, sized, h⟩ := h
    rw [List.cons_append, element?, length?_append sized]
    simp only [Option.bind_eq_bind, Option.bind_some] at h ⊢
    split at h
    · cases h
    · rename_i proper
      obtain ⟨rfl, rfl⟩ := Prod.mk.inj (Option.some.inj h)
      have enough : length ≤ tail'.length := by
        simp only [List.length_take] at proper
        omega
      rw [List.take_append_of_le_length enough, List.drop_append_of_le_length enough, if_neg proper]
      rfl

/-- Bytes that are one element are not when more bytes follow. -/
theorem only?_append {tag : UInt8} {content : List UInt8} (h : only? tag bytes = some content)
    {more : List UInt8} (proper : more ≠ []) (tag' : UInt8) :
    only? tag' (bytes ++ more) = none := by
  have longer := element?_append (only?_eq_some_iff.mp h) more
  rw [List.nil_append] at longer
  rw [Option.eq_none_iff_forall_ne_some]
  intro content' whole
  rw [only?_eq_some_iff, longer] at whole
  exact proper (Prod.mk.inj (Option.some.inj whole)).2

end

end PlayerRegistry.Der
