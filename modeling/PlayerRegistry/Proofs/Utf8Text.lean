import PlayerRegistry.Text.Utf8

/-!
# UTF-8 that is read back

The bytes of a text are cut into its characters again, whatever characters these are.
-/

namespace PlayerRegistry.Utf8

theorem toNat_byte {n : Nat} (h : n < 256) : (UInt8.ofNat n).toNat = n := by
  simp only [UInt8.toNat_ofNat']
  omega

theorem scalar?_toNat (c : Char) : scalar? c.toNat = some c := by
  have valid : c.toNat.isValidChar := c.valid
  rw [scalar?, dif_pos valid]
  rfl

/-- Six bits of a character as a byte that goes on with it. -/
def continuation (n : Nat) : UInt8 := UInt8.ofNat (n % 64 + 0x80)

theorem toNat_continuation (n : Nat) : (continuation n).toNat = n % 64 + 0x80 :=
  toNat_byte (by omega)

@[simp]
theorem low_continuation (n : Nat) : low (continuation n) = n % 64 := by
  rw [low, toNat_continuation]
  omega

@[simp]
theorem isContinuation_continuation (n : Nat) : isContinuation (continuation n) = true := by
  have value := toNat_continuation n
  simp only [isContinuation, Bool.and_eq_true, decide_eq_true_eq, UInt8.le_iff_toNat_le, value,
    UInt8.reduceToNat]
  omega

/-- The first of three bytes is followed by what does not make a shorter character or none. -/
theorem fitsSecondOfThree_continuation {v : Nat} (long : 0x800 ≤ v)
    (valid : v < 0xd800 ∨ 0xdfff < v) (short : v < 0x10000) :
    fitsSecondOfThree (UInt8.ofNat (v / 4096 % 0x10 + 0xe0)) (continuation (v / 64)) = true := by
  have first := toNat_byte (show v / 4096 % 0x10 + 0xe0 < 256 by omega)
  have second := toNat_continuation (v / 64)
  simp only [fitsSecondOfThree, isContinuation_continuation, Bool.true_and, Bool.and_eq_true,
    Bool.or_eq_true, bne_iff_ne, ne_eq, decide_eq_true_eq, UInt8.le_iff_toNat_le,
    ← UInt8.toNat_inj, first, second, UInt8.reduceToNat]
  omega

theorem fitsSecondOfFour_continuation {v : Nat} (long : 0x10000 ≤ v) (short : v < 0x110000) :
    fitsSecondOfFour (UInt8.ofNat (v / 262144 % 0x08 + 0xf0)) (continuation (v / 4096)) = true := by
  have first := toNat_byte (show v / 262144 % 0x08 + 0xf0 < 256 by omega)
  have second := toNat_continuation (v / 4096)
  simp only [fitsSecondOfFour, isContinuation_continuation, Bool.true_and, Bool.and_eq_true,
    Bool.or_eq_true, bne_iff_ne, ne_eq, decide_eq_true_eq, UInt8.le_iff_toNat_le,
    ← UInt8.toNat_inj, first, second, UInt8.reduceToNat]
  omega

section
variable {a b c d : UInt8}

theorem pieces_one (range : a.toNat < 0x80) (rest : List UInt8) :
    pieces (a :: rest) = scalar? a.toNat :: pieces rest := by
  have one : a < 0x80 := UInt8.lt_iff_toNat_lt.mpr range
  rw [pieces.eq_def]
  simp only [one, if_true]

theorem pieces_two (range : 0xc2 ≤ a.toNat ∧ a.toNat ≤ 0xdf) (second : isContinuation b = true)
    (rest : List UInt8) :
    pieces (a :: b :: rest) = scalar? (a.toNat % 32 * 64 + low b) :: pieces rest := by
  have one : ¬a < 0x80 := by
    simp only [UInt8.lt_iff_toNat_lt, UInt8.reduceToNat]
    omega
  have two : 0xc2 ≤ a ∧ a ≤ 0xdf := by
    simpa only [UInt8.le_iff_toNat_le, UInt8.reduceToNat] using range
  rw [pieces.eq_def]
  simp only [one, two, second, and_self, if_true, if_false]

theorem pieces_three (range : 0xe0 ≤ a.toNat ∧ a.toNat ≤ 0xef)
    (second : fitsSecondOfThree a b = true) (third : isContinuation c = true) (rest : List UInt8) :
    pieces (a :: b :: c :: rest) =
      scalar? ((a.toNat % 16 * 64 + low b) * 64 + low c) :: pieces rest := by
  have one : ¬a < 0x80 := by
    simp only [UInt8.lt_iff_toNat_lt, UInt8.reduceToNat]
    omega
  have two : ¬(0xc2 ≤ a ∧ a ≤ 0xdf) := by
    simp only [UInt8.le_iff_toNat_le, UInt8.reduceToNat]
    omega
  have three : 0xe0 ≤ a ∧ a ≤ 0xef := by
    simpa only [UInt8.le_iff_toNat_le, UInt8.reduceToNat] using range
  rw [pieces.eq_def]
  simp only [one, two, three, second, third, and_self, if_true, if_false]

theorem pieces_four (range : 0xf0 ≤ a.toNat ∧ a.toNat ≤ 0xf4)
    (second : fitsSecondOfFour a b = true) (third : isContinuation c = true)
    (fourth : isContinuation d = true) (rest : List UInt8) :
    pieces (a :: b :: c :: d :: rest) =
      scalar? (((a.toNat % 8 * 64 + low b) * 64 + low c) * 64 + low d) :: pieces rest := by
  have one : ¬a < 0x80 := by
    simp only [UInt8.lt_iff_toNat_lt, UInt8.reduceToNat]
    omega
  have two : ¬(0xc2 ≤ a ∧ a ≤ 0xdf) := by
    simp only [UInt8.le_iff_toNat_le, UInt8.reduceToNat]
    omega
  have three : ¬(0xe0 ≤ a ∧ a ≤ 0xef) := by
    simp only [UInt8.le_iff_toNat_le, UInt8.reduceToNat]
    omega
  have four : 0xf0 ≤ a ∧ a ≤ 0xf4 := by
    simpa only [UInt8.le_iff_toNat_le, UInt8.reduceToNat] using range
  rw [pieces.eq_def]
  simp only [one, two, three, four, second, third, fourth, and_self, if_true, if_false]

end

/-- The bytes of a character are the next piece. -/
theorem pieces_utf8EncodeChar (c : Char) (rest : List UInt8) :
    pieces (String.utf8EncodeChar c ++ rest) = some c :: pieces rest := by
  have valid : c.val.toNat < 0xd800 ∨ 0xdfff < c.val.toNat ∧ c.val.toNat < 0x110000 := c.valid
  have read : scalar? c.val.toNat = some c := scalar?_toNat c
  rw [String.utf8EncodeChar]
  generalize c.val.toNat = v at valid read
  -- One, two, three or four bytes, of which all but the first carry six bits.
  split
  · rename_i short
    have value := toNat_byte (show v < 256 by omega)
    rw [List.singleton_append, pieces_one (by omega), value, read]
  · split
    · have value := toNat_byte (show v / 64 % 0x20 + 0xc0 < 256 by omega)
      have whole : (v / 64 % 0x20 + 0xc0) % 32 * 64 + v % 64 = v := by omega
      change pieces (_ :: continuation v :: rest) = _
      rw [pieces_two (by omega) (isContinuation_continuation v), value, low_continuation, whole,
        read]
    · split
      · have value := toNat_byte (show v / 4096 % 0x10 + 0xe0 < 256 by omega)
        have fits := fitsSecondOfThree_continuation (show 0x800 ≤ v by omega) (by omega)
          (show v < 0x10000 by omega)
        have whole : ((v / 4096 % 0x10 + 0xe0) % 16 * 64 + v / 64 % 64) * 64 + v % 64 = v := by
          omega
        change pieces (_ :: continuation (v / 64) :: continuation v :: rest) = _
        rw [pieces_three (by omega) fits (isContinuation_continuation v), value, low_continuation,
          low_continuation, whole, read]
      · have value := toNat_byte (show v / 262144 % 0x08 + 0xf0 < 256 by omega)
        have fits := fitsSecondOfFour_continuation (show 0x10000 ≤ v by omega)
          (show v < 0x110000 by omega)
        have whole : (((v / 262144 % 0x08 + 0xf0) % 8 * 64 + v / 4096 % 64) * 64 + v / 64 % 64) * 64
            + v % 64 = v := by omega
        change pieces (_ :: continuation (v / 4096) :: continuation (v / 64) :: continuation v ::
          rest) = _
        rw [pieces_four (by omega) fits (isContinuation_continuation _)
          (isContinuation_continuation v), value, low_continuation, low_continuation,
          low_continuation, whole, read]

theorem pieces_encode (cs : List Char) : pieces (encode cs) = cs.map some := by
  induction cs with
  | nil => rfl
  | cons c cs ih =>
    rw [encode, List.flatMap_cons, pieces_utf8EncodeChar, ← encode, ih, List.map_cons]

theorem decodeLossy_encode (cs : List Char) : decodeLossy (encode cs) = cs := by
  rw [decodeLossy, pieces_encode, List.map_map]
  exact List.map_id cs

theorem decode?_encode (cs : List Char) : decode? (encode cs) = some cs := by
  rw [decode?, pieces_encode]
  induction cs with
  | nil => rfl
  | cons c cs ih => simp [List.mapM_cons, ih]

/-- Each character of ASCII is one byte. -/
theorem encode_ascii {cs : List Char} (ascii : ∀ c ∈ cs, c.toNat < 128) :
    encode cs = cs.map fun c => UInt8.ofNat c.toNat := by
  induction cs with
  | nil => rfl
  | cons c cs ih =>
    have low : c.val.toNat ≤ 127 := Nat.le_of_lt_succ (ascii c List.mem_cons_self)
    have first : String.utf8EncodeChar c = [UInt8.ofNat c.toNat] := if_pos low
    rw [encode, List.flatMap_cons, first, List.map_cons]
    exact congrArg _ (ih fun d hd => ascii d (List.mem_cons_of_mem _ hd))

/-- Different characters of ASCII are different bytes. -/
theorem eq_of_byte {c d : Char} (ascii : c.toNat < 128) (ascii' : d.toNat < 128)
    (same : UInt8.ofNat c.toNat = UInt8.ofNat d.toNat) : c = d := by
  have value := toNat_byte (show c.toNat < 256 by omega)
  have value' := toNat_byte (show d.toNat < 256 by omega)
  rw [same, value'] at value
  exact Char.ext (UInt32.toNat_inj.mp value.symm)

theorem byte_not_mem {cs : List Char} (ascii : ∀ c ∈ cs, c.toNat < 128) {d : Char}
    (ascii' : d.toNat < 128) (h : d ∉ cs) : UInt8.ofNat d.toNat ∉ encode cs := by
  rw [encode_ascii ascii]
  intro mem
  obtain ⟨c, hc, same⟩ := List.mem_map.mp mem
  rw [eq_of_byte (ascii c hc) ascii' same] at hc
  exact h hc

theorem encode_append (cs ds : List Char) : encode (cs ++ ds) = encode cs ++ encode ds :=
  List.flatMap_append

end PlayerRegistry.Utf8
