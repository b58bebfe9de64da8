import PlayerRegistry.Http.Form
import PlayerRegistry.Proofs.HexText
import PlayerRegistry.Proofs.Utf8Text

/-!
# Queries that are read back

A text that was percent-encoded as the value of a field is read back from the query as it was. The
encoding has only signs that neither separate fields nor stand for another character.
-/

namespace PlayerRegistry

namespace Percent

theorem decodeBytes_of_not_mem {bytes : List UInt8} (h : 0x25 ∉ bytes) :
    decodeBytes bytes = bytes := by
  fun_induction decodeBytes bytes with
  | case1 => rfl
  | case2 => rfl
  | case3 => rfl
  | case4 => exact absurd List.mem_cons_self h
  | case5 => exact absurd List.mem_cons_self h
  | case6 a b c rest _ ih => rw [ih fun later => h (List.mem_cons_of_mem _ later)]

theorem decodeBytes_cons {a : UInt8} (h : a ≠ 0x25) (rest : List UInt8) :
    decodeBytes (a :: rest) = a :: decodeBytes rest := by
  match rest with
  | [] => rfl
  | [b] => rfl
  | b :: c :: rest => rw [decodeBytes, if_neg h]

theorem decodeBytes_pair {hi lo byte : UInt8} (h : hexPair? hi lo = some byte)
    (rest : List UInt8) : decodeBytes (0x25 :: hi :: lo :: rest) = byte :: decodeBytes rest := by
  rw [decodeBytes, if_pos rfl, h]

/-- A digit as the encoding has it. -/
def digit (n : Nat) : Char := (Hex.digit n).toUpper

theorem encodeByte_eq (b : UInt8) :
    encodeByte b = ['%', digit (b.toNat / 16), digit (b.toNat % 16)] := rfl

theorem isUnreserved_digit {n : Nat} (h : n < 16) : isUnreserved (digit n) = true := by
  interval_cases n <;> decide

theorem digitValue?_digit {n : Nat} (h : n < 16) :
    Hex.digitValue? (Char.ofNat (UInt8.ofNat (digit n).toNat).toNat) = some n := by
  interval_cases n <;> decide

theorem hexPair?_digit (b : UInt8) :
    hexPair? (UInt8.ofNat (digit (b.toNat / 16)).toNat)
      (UInt8.ofNat (digit (b.toNat % 16)).toNat) = some b := by
  have bound := b.toNat_lt
  have high := digitValue?_digit (show b.toNat / 16 < 16 by omega)
  have low := digitValue?_digit (show b.toNat % 16 < 16 by omega)
  have whole : 16 * (b.toNat / 16) + b.toNat % 16 = b.toNat := by omega
  rw [hexPair?, high, low]
  simp only [Option.bind_eq_bind, Option.bind_some, whole, UInt8.ofNat_toNat]
  rfl

theorem ascii_of_isUnreserved {c : Char} (h : isUnreserved c = true) : c.toNat < 128 := by
  have upTo : ∀ {d : Char}, c ≤ d → d.toNat < 128 → c.toNat < 128 := fun h =>
    Nat.lt_of_le_of_lt (Char.le_def.mp h)
  simp only [isUnreserved, Bool.or_eq_true, Bool.and_eq_true, decide_eq_true_eq, beq_iff_eq] at h
  rcases h with (((((⟨-, h⟩ | ⟨-, h⟩) | ⟨-, h⟩) | rfl) | rfl) | rfl) | rfl
  · exact upTo h (by decide)
  · exact upTo h (by decide)
  · exact upTo h (by decide)
  all_goals decide

section
variable {cs : List Char} (plain : ∀ c ∈ cs, isUnreserved c = true)
include plain

theorem not_mem_of_isUnreserved (c : Char) (reserved : isUnreserved c = false) : c ∉ cs := by
  intro h
  rw [plain c h] at reserved
  cases reserved

theorem byte_not_mem_of_isUnreserved (c : Char) (ascii : c.toNat < 128)
    (reserved : isUnreserved c = false) : UInt8.ofNat c.toNat ∉ Utf8.encode cs :=
  Utf8.byte_not_mem (fun d hd => ascii_of_isUnreserved (plain d hd)) ascii
    (not_mem_of_isUnreserved plain c reserved)

end

theorem mem_encode {c : Char} {cs : List Char} (h : c ∈ encode isUnreserved cs) :
    c = '%' ∨ isUnreserved c = true := by
  obtain ⟨d, -, hd⟩ := List.mem_flatMap.mp h
  rw [encodeChar] at hd
  split at hd
  · rename_i kept
    rw [List.mem_singleton.mp hd]
    exact .inr (Bool.and_eq_true_iff.mp kept).2
  · obtain ⟨b, -, hb⟩ := List.mem_flatMap.mp hd
    have bound := b.toNat_lt
    rw [encodeByte_eq] at hb
    simp only [List.mem_cons, List.not_mem_nil, or_false] at hb
    rcases hb with rfl | rfl | rfl
    · exact .inl rfl
    · exact .inr (isUnreserved_digit (by omega))
    · exact .inr (isUnreserved_digit (by omega))

section
variable {c : Char} (s : String)

theorem toList_encodeComponent : (encodeComponent s).toList = encode isUnreserved s.toList :=
  String.toList_ofList

theorem ascii_of_mem_encodeComponent {s : String} (h : c ∈ (encodeComponent s).toList) :
    c.toNat < 128 := by
  rw [toList_encodeComponent] at h
  rcases mem_encode h with rfl | unreserved
  · decide
  · exact ascii_of_isUnreserved unreserved

/-- No other sign of ASCII is in an encoding. -/
theorem not_mem_encodeComponent (other : c ≠ '%') (reserved : isUnreserved c = false) :
    c ∉ (encodeComponent s).toList := by
  intro h
  rw [toList_encodeComponent] at h
  rcases mem_encode h with rfl | unreserved
  · exact other rfl
  · rw [reserved] at unreserved
    cases unreserved

end

theorem encode_encodeByte (b : UInt8) :
    Utf8.encode (encodeByte b) = [0x25, UInt8.ofNat (digit (b.toNat / 16)).toNat,
      UInt8.ofNat (digit (b.toNat % 16)).toNat] := by
  have bound := b.toNat_lt
  rw [encodeByte_eq]
  apply Utf8.encode_ascii
  intro c hc
  simp only [List.mem_cons, List.not_mem_nil, or_false] at hc
  rcases hc with rfl | rfl | rfl
  · decide
  · exact ascii_of_isUnreserved (isUnreserved_digit (by omega))
  · exact ascii_of_isUnreserved (isUnreserved_digit (by omega))

theorem decodeBytes_encodeBytes (bytes rest : List UInt8) :
    decodeBytes (Utf8.encode (bytes.flatMap encodeByte) ++ rest) = bytes ++ decodeBytes rest := by
  induction bytes with
  | nil => rfl
  | cons b bytes ih =>
    rw [List.flatMap_cons, Utf8.encode_append, encode_encodeByte, List.append_assoc]
    exact (decodeBytes_pair (hexPair?_digit b) _).trans (congrArg _ ih)

/-- Decoding the encoding of a character gives its bytes. -/
theorem decodeBytes_encodeChar (c : Char) (rest : List UInt8) :
    decodeBytes (Utf8.encode (encodeChar isUnreserved c) ++ rest) =
      String.utf8EncodeChar c ++ decodeBytes rest := by
  rw [encodeChar]
  split
  · rename_i kept
    obtain ⟨ascii, unreserved⟩ := Bool.and_eq_true_iff.mp kept
    have low : c.val.toNat ≤ 127 := Nat.le_of_lt_succ (by simpa [isAscii] using ascii)
    have single : String.utf8EncodeChar c = [UInt8.ofNat c.toNat] := if_pos low
    have other : UInt8.ofNat c.toNat ≠ 0x25 := by
      intro same
      have percent : c = '%' :=
        Utf8.eq_of_byte (ascii_of_isUnreserved unreserved) (by decide) same
      rw [percent] at unreserved
      cases unreserved
    rw [Utf8.encode, List.flatMap_singleton, single, List.singleton_append, decodeBytes_cons other]
    rfl
  · exact decodeBytes_encodeBytes _ rest

theorem decodeBytes_encode (cs : List Char) :
    decodeBytes (Utf8.encode (encode isUnreserved cs)) = Utf8.encode cs := by
  induction cs with
  | nil => rfl
  | cons c cs ih =>
    rw [encode, List.flatMap_cons, Utf8.encode_append, decodeBytes_encodeChar]
    exact congrArg _ ih

end Percent

section
variable {α : Type} [DecidableEq α] {separator : α} {before : List α}

theorem goesOn (h : separator ∉ before) : ∀ b ∈ before, decide (b ≠ separator) = true := by
  intro b hb
  rw [decide_eq_true_eq]
  rintro rfl
  exact h hb

theorem takeWhile_before (h : separator ∉ before) (after : List α) :
    (before ++ separator :: after).takeWhile (· ≠ separator) = before := by
  rw [List.takeWhile_append_of_pos (goesOn h)]
  simp

theorem dropWhile_before (h : separator ∉ before) (after : List α) :
    (before ++ separator :: after).dropWhile (· ≠ separator) = separator :: after := by
  rw [List.dropWhile_append_of_pos (goesOn h)]
  simp

end

namespace Http.Form

theorem cut_of_not_mem {separator : UInt8} {bytes : List UInt8} (h : separator ∉ bytes) :
    cut separator bytes = [bytes] := by
  induction bytes with
  | nil => rfl
  | cons b bytes ih =>
    have other : b ≠ separator := fun same => h (same ▸ List.mem_cons_self)
    have rest := ih fun later => h (List.mem_cons_of_mem _ later)
    rw [cut] at rest ⊢
    rw [List.foldr_cons, rest, if_neg other]

theorem readText_encode {cs : List Char} (ascii : ∀ c ∈ cs, c.toNat < 128) (plus : '+' ∉ cs) :
    readText (Utf8.encode cs) =
      String.ofList (Utf8.decodeLossy (Percent.decodeBytes (Utf8.encode cs))) := by
  have free : (0x2b : UInt8) ∉ Utf8.encode cs := Utf8.byte_not_mem ascii (by decide) plus
  have same : (Utf8.encode cs).map (fun b => if b = 0x2b then 0x20 else b) = Utf8.encode cs := by
    have each : ∀ b ∈ Utf8.encode cs, (if b = 0x2b then 0x20 else b) = b := by
      intro b hb
      rw [if_neg]
      rintro rfl
      exact free hb
    rw [List.map_congr_left each, List.map_id']
  simp only [readText, same]

/-- What was encoded as a value is read as what it was. -/
theorem readText_encodeComponent (s : String) :
    readText (Utf8.encode (Percent.encodeComponent s).toList) = s := by
  rw [readText_encode (fun _ => Percent.ascii_of_mem_encodeComponent)
      (Percent.not_mem_encodeComponent s (by decide) (by decide)),
    Percent.toList_encodeComponent, Percent.decodeBytes_encode, Utf8.decodeLossy_encode,
    String.ofList_toList]

/-- The query with one field. -/
def single (name value : String) : List Char :=
  name.toList ++ '=' :: (Percent.encodeComponent value).toList

/-- A text of unreserved signs is read as it stands. -/
theorem readText_plain {name : String}
    (plain : ∀ c ∈ name.toList, Percent.isUnreserved c = true) :
    readText (Utf8.encode name.toList) = name := by
  have ascii : ∀ c ∈ name.toList, c.toNat < 128 := fun c hc =>
    Percent.ascii_of_isUnreserved (plain c hc)
  have unescaped := Percent.byte_not_mem_of_isUnreserved plain '%' (by decide) (by decide)
  rw [readText_encode ascii (Percent.not_mem_of_isUnreserved plain '+' (by decide)),
    Percent.decodeBytes_of_not_mem unescaped, Utf8.decodeLossy_encode, String.ofList_toList]

section
variable {name : String} (plain : ∀ c ∈ name.toList, Percent.isUnreserved c = true)
  (value : String)

theorem encode_single : Utf8.encode (single name value) =
    Utf8.encode name.toList ++ 0x3d :: Utf8.encode (Percent.encodeComponent value).toList := by
  rw [single, Utf8.encode_append]
  rfl

include plain

/-- The query is not cut. -/
theorem ampersand_not_mem_single : (0x26 : UInt8) ∉ Utf8.encode (single name value) := by
  rw [encode_single, List.mem_append, List.mem_cons]
  rintro (inName | equals | inValue)
  · exact Percent.byte_not_mem_of_isUnreserved plain '&' (by decide) (by decide) inName
  · cases equals
  · have free : '&' ∉ (Percent.encodeComponent value).toList :=
      Percent.not_mem_encodeComponent value (by decide) (by decide)
    exact Utf8.byte_not_mem (fun _ => Percent.ascii_of_mem_encodeComponent) (by decide) free inValue

theorem readField_single : readField (Utf8.encode (single name value)) = (name, value) := by
  have before : (0x3d : UInt8) ∉ Utf8.encode name.toList :=
    Percent.byte_not_mem_of_isUnreserved plain '=' (by decide) (by decide)
  rw [readField, encode_single, takeWhile_before before, dropWhile_before before, List.drop_one,
    List.tail_cons, readText_plain plain, readText_encodeComponent]

theorem required?_single :
    required? (fields (Utf8.encode (single name value))) name = some value := by
  have all : fields (Utf8.encode (single name value)) = [(name, value)] := by
    rw [fields, cut_of_not_mem (ampersand_not_mem_single plain value),
      List.filter_cons_of_pos (by simp [encode_single]), List.filter_nil, List.map_singleton,
      readField_single plain]
  rw [all]
  simp [required?, optional?]

end

end Http.Form

theorem Percent.encodeComponent_injective {s t : String}
    (h : encodeComponent s = encodeComponent t) : s = t := by
  rw [← Http.Form.readText_encodeComponent s, h, Http.Form.readText_encodeComponent]

end PlayerRegistry
