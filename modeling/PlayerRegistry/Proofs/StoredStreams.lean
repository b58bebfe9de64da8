import PlayerRegistry.Deflate.Inflate
import PlayerRegistry.Deflate.Stored

/-!
# Stored streams

A stream that was stored inflates to the bytes that were put into it.
-/

namespace PlayerRegistry.Deflate

variable {needed : Nat} {out : Array UInt8} {bytes : List UInt8}

/-- The bits before a stored block are the lowest of its first byte. -/
theorem block?_stored (needed : Nat) (out : Array UInt8) (last : Bool) (rest : List UInt8) :
    block? needed out (.ofBytes ((if last then 1 else 0) :: rest)) =
      (stored? needed out rest).map fun result => (result, last) := by
  have first : Bits.number? 1 (.ofBytes ((if last then 1 else 0) :: rest)) =
      some (if last then 1 else 0, ⟨0, 7, rest⟩) := by
    cases last <;> rfl
  have kind : Bits.number? 2 ⟨0, 7, rest⟩ = some (0, ⟨0, 5, rest⟩) := by
    simp [Bits.number?, Bits.bit?]
  have told : ((if last then 1 else 0) == 1) = last := by cases last <;> rfl
  simp only [block?, first, kind, told, Option.bind_eq_bind, Option.bind_some, Bits.aligned]
  cases stored? needed out rest <;> rfl

theorem stored?_le16 (fits : bytes.length ≤ 65535) (needed : Nat) (out : Array UInt8)
    (rest : List UInt8) :
    stored? needed out
        (le16 bytes.length ++ le16 (65535 - bytes.length) ++ bytes ++ rest) =
      some (out ++ bytes.toArray,
        if needed ≤ (out ++ bytes.toArray).size then .enough else .endOfBlock (.ofBytes rest)) := by
  have digits : ∀ n ≤ 65535, (UInt8.ofNat (n % 256)).toNat + 256 * (UInt8.ofNat (n / 256)).toNat = n
    := by
    intro n hn
    simp only [UInt8.toNat_ofNat']
    omega
  have length := digits bytes.length fits
  have complement := digits (65535 - bytes.length) (Nat.sub_le _ _)
  simp only [le16, List.cons_append, List.nil_append, stored?, length, complement, ne_eq,
    not_true, if_false, List.take_left, List.drop_left, Nat.lt_irrefl]
  split <;> rfl

/-- What is stored in a block comes out of it. -/
theorem block?_storedBlock (fits : bytes.length ≤ 65535) (needed : Nat) (out : Array UInt8)
    (last : Bool) (rest : List UInt8) :
    block? needed out (.ofBytes (storedBlock last bytes ++ rest)) =
      some ((out ++ bytes.toArray, if needed ≤ (out ++ bytes.toArray).size then .enough
        else .endOfBlock (.ofBytes rest)), last) := by
  rw [storedBlock, List.cons_append, block?_stored, stored?_le16 fits]
  rfl

theorem size_append_toArray (out : Array UInt8) (bytes : List UInt8) :
    (out ++ bytes.toArray).size = out.size + bytes.length := by simp

theorem blocks?_storedBlocks {fuel : Nat} (some_left : bytes ≠ []) (enough : bytes.length ≤ fuel)
    (whole : out.size + bytes.length = needed) (rest : List UInt8) :
    blocks? needed fuel out (.ofBytes (storedBlocks bytes ++ rest)) =
      some (out ++ bytes.toArray) := by
  -- Every block but the last is full and leaves something to read, so reading goes on after it.
  fun_induction storedBlocks bytes generalizing fuel out with
  | case1 bytes long ih =>
    rw [blockBound] at *
    have more : ¬needed ≤ out.size := by omega
    have taken : (bytes.take 65535).length = 65535 := by
      rw [List.length_take]
      omega
    have left : (bytes.drop 65535).length = bytes.length - 65535 := List.length_drop
    have unfinished : ¬needed ≤ (out ++ (bytes.take 65535).toArray).size := by
      rw [size_append_toArray]
      omega
    have others : bytes.drop 65535 ≠ [] := by
      rw [← List.length_pos_iff]
      omega
    have joined : (bytes.take 65535).toArray ++ (bytes.drop 65535).toArray = bytes.toArray := by
      simp
    obtain ⟨fuel, rfl⟩ : ∃ fuel', fuel = fuel' + 1 := ⟨fuel - 1, by omega⟩
    rw [blocks?, if_neg more, List.append_assoc, block?_storedBlock (by omega)]
    simp only [unfinished, if_false, Option.bind_eq_bind, Option.bind_some, Bool.false_eq_true]
    rw [ih others (by omega) (by rw [size_append_toArray]; omega),
      Array.append_assoc, joined]
  | case2 bytes short =>
    rw [blockBound] at short
    have left : 0 < bytes.length := List.length_pos_iff.mpr some_left
    have more : ¬needed ≤ out.size := by omega
    have finished : needed ≤ (out ++ bytes.toArray).size := by
      rw [size_append_toArray]
      omega
    obtain ⟨fuel, rfl⟩ : ∃ fuel', fuel = fuel' + 1 := ⟨fuel - 1, by omega⟩
    rw [blocks?, if_neg more, block?_storedBlock (by omega)]
    simp only [finished, if_true, Option.bind_eq_bind, Option.bind_some]

theorem length_storedBlock (last : Bool) (bytes : List UInt8) :
    (storedBlock last bytes).length = 5 + bytes.length := by
  simp [storedBlock, le16]
  omega

theorem length_storedBlocks (bytes : List UInt8) :
    bytes.length ≤ (storedBlocks bytes).length ∧
      (storedBlocks bytes).length ≤ 2 * bytes.length + 5 := by
  fun_induction storedBlocks bytes with
  | case1 bytes long ih =>
    rw [blockBound] at *
    rw [List.length_append, length_storedBlock, List.length_take]
    rw [List.length_drop] at ih
    omega
  | case2 bytes short =>
    rw [length_storedBlock]
    omega

theorem length_store (bytes : List UInt8) : (store bytes).length ≤ 2 * bytes.length + 11 := by
  have blocks := (length_storedBlocks bytes).2
  simp only [store, be32, List.length_cons, List.length_append, List.length_nil]
  omega

/-- Everything that was stored is inflated, if all of it is asked for. -/
theorem inflate?_store (some_left : bytes ≠ []) :
    inflate? bytes.length (store bytes) = some bytes.toArray := by
  have enough := (length_storedBlocks bytes).1
  have header : isHeader 0x78 0x01 = true := by decide
  rw [store, inflate?]
  simp only [header, if_true]
  rw [blocks?_storedBlocks some_left _ (Nat.zero_add _), Array.empty_append]
  rw [List.length_append]
  omega

end PlayerRegistry.Deflate
