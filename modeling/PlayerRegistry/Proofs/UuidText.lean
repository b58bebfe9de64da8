import PlayerRegistry.Proofs.HexText
import PlayerRegistry.Uuid

/-!
# The texts of a UUID

A UUID has one canonical text and several spellings. A text is read as the UUID that it spells, and
as none if it spells none; the canonical text is one of the spellings.
-/

namespace PlayerRegistry.Uuid

/-- Lower-case digits in groups of eight, four, four, four and twelve, with dashes between. -/
def IsCanonical (text : String) : Prop :=
  ∃ a b c d e : List Char,
    text.toList = a ++ '-' :: (b ++ '-' :: (c ++ '-' :: (d ++ '-' :: e))) ∧
    (a.length, b.length, c.length, d.length, e.length) = (8, 4, 4, 4, 12) ∧
    (a ++ b ++ c ++ d ++ e).all Hex.isLowerDigit = true

/-- A spelling of the UUID: its digits in either case, plain, with dashes, with dashes and braces,
or as a name. -/
inductive Spells (u : Uuid) : List Char → Prop where
  | plain {ds} : ds.map Char.toLower = u.hexDigits → Spells u ds
  | dashed {ds} : ds.map Char.toLower = u.hexDigits → Spells u (dashed ds)
  | braced {ds} : ds.map Char.toLower = u.hexDigits →
      Spells u ('\x7b' :: (Uuid.dashed ds ++ ['\x7d']))
  | named {ds scheme} : ds.map Char.toLower = u.hexDigits →
      scheme.map Char.toLower = "urn:uuid:".toList → Spells u (scheme ++ Uuid.dashed ds)

theorem hexDigits_eq (u : Uuid) :
    u.hexDigits = (Hex.digitsOf 32 u.value.toNat).map Hex.digit := by
  simp [hexDigits, Hex.digitsOf, Function.comp_def]

@[simp]
theorem length_hexDigits (u : Uuid) : u.hexDigits.length = 32 := by simp [hexDigits_eq]

theorem length_of_toLower {ds : List Char} {u : Uuid} (h : ds.map Char.toLower = u.hexDigits) :
    ds.length = 32 := by
  rw [← List.length_map (f := Char.toLower), h, length_hexDigits]

theorem toLower_hexDigits (u : Uuid) : u.hexDigits.map Char.toLower = u.hexDigits := by
  rw [hexDigits_eq, List.map_map]
  exact List.map_congr_left fun d hd => Hex.toLower_digit (Hex.lt_of_mem_digitsOf hd)

theorem isLowerDigit_hexDigits (u : Uuid) : u.hexDigits.all Hex.isLowerDigit = true := by
  rw [hexDigits_eq, List.all_eq_true]
  intro c hc
  obtain ⟨d, hd, rfl⟩ := List.mem_map.mp hc
  exact Hex.isLowerDigit_digit (Hex.lt_of_mem_digitsOf hd)

/-- The digits of a UUID in either case, and no others, are read as this UUID. -/
theorem ofDigits?_eq_some_iff {ds : List Char} {u : Uuid} :
    ofDigits? ds = some u ↔ ds.map Char.toLower = u.hexDigits := by
  have whole : (16 : Nat) ^ 32 = 2 ^ 128 := by norm_num
  rw [ofDigits?]
  constructor
  · intro h
    split at h
    · cases h
    · rename_i long
      have long : ds.length = 32 := by simpa using long
      obtain ⟨values, read, made⟩ := Option.bind_eq_some_iff.mp h
      obtain ⟨bounds, lower⟩ := Hex.mapM_digitValue?_eq_some_iff.mp read
      have count : values.length = 32 := by
        rw [← long, ← List.length_map (f := Hex.digit), ← lower, List.length_map]
      have bound : Hex.value values < 2 ^ 128 := by
        rw [← whole, ← count]
        exact Hex.value_lt bounds
      have number : u.value.toNat = Hex.value values := by
        rw [← Option.some.inj made]
        exact Nat.mod_eq_of_lt bound
      rw [hexDigits_eq, number, ← count, Hex.digitsOf_value bounds, lower]
  · intro lower
    have long := length_of_toLower lower
    have read : ds.mapM Hex.digitValue? = some (Hex.digitsOf 32 u.value.toNat) :=
      Hex.mapM_digitValue?_eq_some_iff.mpr
        ⟨fun _ => Hex.lt_of_mem_digitsOf, lower.trans u.hexDigits_eq⟩
    have number : Hex.value (Hex.digitsOf 32 u.value.toNat) = u.value.toNat := by
      rw [Hex.value_digitsOf, whole, Nat.mod_eq_of_lt u.value.isLt]
    rw [if_neg (by simp [long]), read]
    change some (Uuid.mk (BitVec.ofNat 128 (Hex.value (Hex.digitsOf 32 u.value.toNat)))) = some u
    rw [number, BitVec.ofNat_toNat, BitVec.setWidth_eq]

/-- The five groups of 32 digits. -/
theorem exists_groups {ds : List Char} (h : ds.length = 32) :
    ∃ a b c d e : List Char, ds = a ++ (b ++ (c ++ (d ++ e))) ∧
      (a.length, b.length, c.length, d.length, e.length) = (8, 4, 4, 4, 12) ∧
      dashed ds = a ++ '-' :: (b ++ '-' :: (c ++ '-' :: (d ++ '-' :: e))) := by
  refine ⟨ds.take 8, (ds.drop 8).take 4, (ds.drop 12).take 4, (ds.drop 16).take 4, ds.drop 20,
    ?_, by simp [h], rfl⟩
  have rest : ∀ n, ds.drop n = (ds.drop n).take 4 ++ ds.drop (n + 4) := by
    intro n
    rw [← List.drop_drop, List.take_append_drop]
  rw [← rest 16, ← rest 12, ← rest 8, List.take_append_drop]

theorem length_dashed {ds : List Char} (h : ds.length = 32) : (dashed ds).length = 36 := by
  simp [dashed, h]

theorem undashed?_eq_some_iff {cs ds : List Char} :
    undashed? cs = some ds ↔ ds.length = 32 ∧ cs = dashed ds := by
  rw [undashed?]
  constructor
  · intro h
    split at h
    · rename_i found
      obtain ⟨long, same⟩ := found
      obtain rfl := Option.some.inj h
      exact ⟨by simp [long], same⟩
    · cases h
  · rintro ⟨long, rfl⟩
    obtain ⟨a, b, c, d, e, split, lengths, groups⟩ := exists_groups long
    simp only [Prod.mk.injEq] at lengths
    obtain ⟨ha, hb, hc, hd, he⟩ := lengths
    have digits : (dashed ds).take 8 ++ ((dashed ds).drop 9).take 4 ++
        ((dashed ds).drop 14).take 4 ++ ((dashed ds).drop 19).take 4 ++ (dashed ds).drop 24 =
        ds := by
      rw [groups, split]
      simp (disch := omega) [List.drop_append, List.drop_of_length_le, ha, hb, hc, hd]
    rw [digits, if_pos ⟨length_dashed long, rfl⟩]

theorem unwrapped_eq_dashed {cs ds : List Char} (h : unwrapped cs = dashed ds) :
    cs = dashed ds ∨ cs = '\x7b' :: (dashed ds ++ ['\x7d']) ∨
      ∃ scheme, scheme.map Char.toLower = "urn:uuid:".toList ∧ cs = scheme ++ dashed ds := by
  rw [unwrapped] at h
  split at h
  · rename_i braces
    obtain ⟨long, first, last⟩ := braces
    refine .inr (.inl ?_)
    obtain ⟨rest, rfl⟩ := List.head?_eq_some_iff.mp first
    obtain ⟨inner, hinner⟩ := List.getLast?_eq_some_iff.mp last
    cases inner with
    | nil => simp at hinner
    | cons c inner =>
      obtain ⟨rfl, rfl⟩ := List.cons.inj hinner
      rw [← h]
      simp
  · split at h
    · rename_i name
      exact .inr (.inr ⟨cs.take 9, name.2, by rw [← h, List.take_append_drop]⟩)
    · exact .inl h

theorem unwrapped_dashed {ds : List Char} (h : ds.length = 32) :
    unwrapped (dashed ds) = dashed ds := by
  rw [unwrapped, if_neg (by simp [length_dashed h]), if_neg (by simp [length_dashed h])]

theorem unwrapped_braced {ds : List Char} (h : ds.length = 32) :
    unwrapped ('\x7b' :: (dashed ds ++ ['\x7d'])) = dashed ds := by
  rw [unwrapped, if_pos]
  · simp
  · simp [length_dashed h, List.getLast?_cons]

theorem unwrapped_named {ds scheme : List Char} (h : ds.length = 32)
    (name : scheme.map Char.toLower = "urn:uuid:".toList) :
    unwrapped (scheme ++ dashed ds) = dashed ds := by
  have nine : scheme.length = 9 := by
    rw [← List.length_map (f := Char.toLower), name]
    rfl
  rw [unwrapped, if_neg (by simp [length_dashed h, nine]), if_pos]
  · rw [← nine, List.drop_left]
  · rw [← nine, List.take_left]
    exact ⟨by simp [length_dashed h, nine], name⟩

theorem ofChars?_of_unwrapped {cs ds : List Char} {u : Uuid} (other : cs.length ≠ 32)
    (unwraps : unwrapped cs = dashed ds) (lower : ds.map Char.toLower = u.hexDigits) :
    ofChars? cs = some u := by
  rw [ofChars?, if_neg other, unwraps,
    undashed?_eq_some_iff.mpr ⟨length_of_toLower lower, rfl⟩, Option.bind_some,
    ofDigits?_eq_some_iff.mpr lower]

/-- Reading takes exactly the spellings. -/
theorem ofChars?_eq_some_iff {cs : List Char} {u : Uuid} :
    ofChars? cs = some u ↔ u.Spells cs := by
  constructor
  · intro h
    rw [ofChars?] at h
    split at h
    · exact .plain (ofDigits?_eq_some_iff.mp h)
    · obtain ⟨ds, undashed, read⟩ := Option.bind_eq_some_iff.mp h
      have lower := ofDigits?_eq_some_iff.mp read
      obtain ⟨-, unwraps⟩ := undashed?_eq_some_iff.mp undashed
      rcases unwrapped_eq_dashed unwraps with rfl | rfl | ⟨scheme, name, rfl⟩
      · exact .dashed lower
      · exact .braced lower
      · exact .named lower name
  · rintro (lower | lower | lower | ⟨lower, name⟩)
    all_goals have long := length_of_toLower lower
    · rw [ofChars?, if_pos long]
      exact ofDigits?_eq_some_iff.mpr lower
    · exact ofChars?_of_unwrapped (by simp [length_dashed long]) (unwrapped_dashed long) lower
    · exact ofChars?_of_unwrapped (by simp [length_dashed long]) (unwrapped_braced long) lower
    · exact ofChars?_of_unwrapped (by simp [length_dashed long]) (unwrapped_named long name) lower

theorem isCanonical_toText (u : Uuid) : IsCanonical u.toText := by
  obtain ⟨a, b, c, d, e, split, lengths, groups⟩ := exists_groups u.length_hexDigits
  refine ⟨a, b, c, d, e, ?_, lengths, ?_⟩
  · rw [toText, String.toList_ofList, groups]
  · have lower := u.isLowerDigit_hexDigits
    rw [split] at lower
    simpa using lower

theorem IsCanonical.exists_digits {text : String} (h : IsCanonical text) :
    ∃ ds : List Char, ds.length = 32 ∧ ds.all Hex.isLowerDigit = true ∧
      text.toList = dashed ds := by
  obtain ⟨a, b, c, d, e, groups, lengths, lower⟩ := h
  simp only [Prod.mk.injEq] at lengths
  obtain ⟨ha, hb, hc, hd, he⟩ := lengths
  refine ⟨a ++ b ++ c ++ d ++ e, by simp [ha, hb, hc, hd, he], lower, ?_⟩
  rw [groups, dashed]
  simp (disch := omega) [List.drop_append, List.drop_of_length_le, ha, hb, hc]

/-- A canonical text that spells a UUID is its canonical text. -/
theorem IsCanonical.eq_toText {text : String} {u : Uuid} (h : IsCanonical text)
    (spells : u.Spells text.toList) : text = u.toText := by
  obtain ⟨ds, long, lower, written⟩ := h.exists_digits
  have read := ofChars?_eq_some_iff.mpr spells
  rw [written, ofChars?, if_neg (by simp [length_dashed long]), unwrapped_dashed long,
    undashed?_eq_some_iff.mpr ⟨long, rfl⟩, Option.bind_some, ofDigits?_eq_some_iff] at read
  have same : ds.map Char.toLower = ds := by
    rw [List.map_congr_left (g := id), List.map_id]
    exact fun c hc => Hex.toLower_of_isLowerDigit (List.all_eq_true.mp lower c hc)
  rw [toText, ← read, same, ← written, String.ofList_toList]

/-- The canonical text of a UUID is read as this UUID. -/
@[simp]
theorem parse?_toText (u : Uuid) : parse? u.toText = some u := by
  rw [parse?, toText, String.toList_ofList, ofChars?_eq_some_iff]
  exact .dashed u.toLower_hexDigits

theorem toText_injective {u v : Uuid} (h : u.toText = v.toText) : u = v := by
  have := parse?_toText u
  rw [h, parse?_toText] at this
  exact (Option.some.inj this).symm

end PlayerRegistry.Uuid
