import Mathlib.Algebra.Order.Ring.Nat
import PlayerRegistry.Config.Size
import PlayerRegistry.Proofs.TrimmedTexts

/-!
# Texts of sizes

A size is written as a count, or as a count, white space and a letter that stands for a power of
1024; white space may stand around it. The reader accepts just these texts, as long as the size is
below 2⁶⁴, and reads each of them as the size that it stands for.
-/

namespace PlayerRegistry

namespace Text

/-- A count in decimal digits, with or without a plus sign in front of them. -/
inductive IsCount : List Char → Nat → Prop where
  | plain {digits} (some' : digits ≠ []) (all : ∀ c ∈ digits, c.isDigit = true) :
    IsCount digits (Nat.ofDigitChars 10 digits 0)
  | signed {digits} (some' : digits ≠ []) (all : ∀ c ∈ digits, c.isDigit = true) :
    IsCount ('+' :: digits) (Nat.ofDigitChars 10 digits 0)

variable {cs : List Char} {n : Nat}

theorem isDigit_eq (c : Char) : isDigit c = c.isDigit := by
  simp [isDigit, Char.isDigit, Char.le_def]

theorem isBlank_of_isDigit {c : Char} (h : c.isDigit = true) : isBlank c = false := by
  have range : 48 ≤ c.toNat ∧ c.toNat ≤ 57 := Char.isDigit_iff_toNat.mp h
  simp only [isBlank, Bool.or_eq_false_iff, Bool.and_eq_false_iff, decide_eq_false_iff_not,
    beq_eq_false_iff_ne]
  omega

namespace IsCount

theorem toDigits (n : Nat) : IsCount (Nat.toDigits 10 n) n := by
  have counted : IsCount (Nat.toDigits 10 n) (Nat.ofDigitChars 10 (Nat.toDigits 10 n) 0) :=
    .plain Nat.toDigits_ne_nil fun _ => Nat.isDigit_of_mem_toDigits (by decide) (by decide)
  rwa [Nat.ofDigitChars_ten_toDigits] at counted

theorem ne_nil (h : IsCount cs n) : cs ≠ [] := by
  cases h with
  | plain some' _ => exact some'
  | signed _ _ => exact List.cons_ne_nil _ _

theorem head (h : IsCount cs n) : ∀ c ∈ cs.head?, isBlank c = false := by
  intro c first
  cases h with
  | plain _ all => exact isBlank_of_isDigit (all c (List.mem_of_mem_head? first))
  | signed _ _ =>
    obtain rfl : '+' = c := by simpa using first
    decide

theorem last (h : IsCount cs n) : ∀ c ∈ cs.getLast?, c.isDigit = true := by
  intro c last
  cases h with
  | plain _ all => exact all c (List.mem_of_getLast? last)
  | signed some' all =>
    rw [List.getLast?_cons_of_ne_nil some'] at last
    exact all c (List.mem_of_getLast? last)

end IsCount

theorem count?_eq_some_iff {bound : Nat} :
    count? bound cs = some n ↔ IsCount cs n ∧ n < bound := by
  -- What is read when the sign has been taken off.
  have unsigned : ∀ ds : List Char,
      (if ds ≠ [] ∧ ds.all isDigit = true ∧ digitsValue ds < bound then some (digitsValue ds)
        else none) = some n ↔
      (ds ≠ [] ∧ ∀ c ∈ ds, c.isDigit = true) ∧ Nat.ofDigitChars 10 ds 0 = n ∧ n < bound := by
    intro ds
    have value : digitsValue ds = Nat.ofDigitChars 10 ds 0 := rfl
    rw [Option.ite_none_right_eq_some, value]
    simp only [List.all_eq_true, isDigit_eq, Option.some.injEq]
    constructor
    · rintro ⟨⟨some', all, small⟩, rfl⟩
      exact ⟨⟨some', all⟩, rfl, small⟩
    · rintro ⟨⟨some', all⟩, rfl, small⟩
      exact ⟨⟨some', all, small⟩, rfl⟩
  by_cases sign : cs.head? = some '+'
  · obtain ⟨digits, rfl⟩ := List.head?_eq_some_iff.mp sign
    rw [count?, if_pos sign]
    refine (unsigned digits).trans ⟨?_, ?_⟩
    · rintro ⟨⟨some', all⟩, rfl, small⟩
      exact ⟨.signed some' all, small⟩
    · rintro ⟨counted, small⟩
      cases counted with
      | plain _ all => exact absurd (all '+' List.mem_cons_self) (by decide)
      | signed some' all => exact ⟨⟨some', all⟩, rfl, small⟩
  · rw [count?, if_neg sign]
    refine (unsigned cs).trans ⟨?_, ?_⟩
    · rintro ⟨⟨some', all⟩, rfl, small⟩
      exact ⟨.plain some' all, small⟩
    · rintro ⟨counted, small⟩
      cases counted with
      | plain some' all => exact ⟨⟨some', all⟩, rfl, small⟩
      | signed _ _ => exact absurd rfl sign

end Text

namespace Size

open Text (IsCount isBlank)

/-- The letter stands for this power of 1024. -/
inductive IsUnit : Char → Nat → Prop where
  | kilo {c} (either : c = 'K' ∨ c = 'k') : IsUnit c 1
  | mega {c} (either : c = 'M' ∨ c = 'm') : IsUnit c 2
  | giga {c} (either : c = 'G' ∨ c = 'g') : IsUnit c 3

/-- The size that a text without white space around it stands for. -/
inductive Writes : List Char → Nat → Prop where
  | plain {cs n} (count : IsCount cs n) : Writes cs n
  | scaled {cs blanks c n k} (count : IsCount cs n) (blank : ∀ b ∈ blanks, isBlank b = true)
    (unit : IsUnit c k) : Writes (cs ++ blanks ++ [c]) (n * 1024 ^ k)

/-- The text stands for the size, whatever white space is around it. -/
def StandsFor (text : String) (n : Nat) : Prop :=
  ∃ before cs after, text.toList = before ++ cs ++ after ∧
    (∀ c ∈ before, isBlank c = true) ∧ (∀ c ∈ after, isBlank c = true) ∧ Writes cs n

variable {cs : List Char} {c : Char} {n k u : Nat}

theorem unit?_eq_some_iff : unit? c = some u ↔ ∃ k, IsUnit c k ∧ u = 1024 ^ k := by
  constructor
  · intro read
    unfold unit? at read
    split at read
    all_goals cases read
    · exact ⟨1, .kilo (.inl rfl), by decide⟩
    · exact ⟨1, .kilo (.inr rfl), by decide⟩
    · exact ⟨2, .mega (.inl rfl), by decide⟩
    · exact ⟨2, .mega (.inr rfl), by decide⟩
    · exact ⟨3, .giga (.inl rfl), by decide⟩
    · exact ⟨3, .giga (.inr rfl), by decide⟩
  · rintro ⟨k, unit, rfl⟩
    cases unit with
    | kilo either => rcases either with rfl | rfl <;> rfl
    | mega either => rcases either with rfl | rfl <;> rfl
    | giga either => rcases either with rfl | rfl <;> rfl

theorem IsUnit.unit? (h : IsUnit c k) : unit? c = some (1024 ^ k) :=
  unit?_eq_some_iff.mpr ⟨k, h, rfl⟩

theorem IsUnit.mem (h : IsUnit c k) : c ∈ ['K', 'k', 'M', 'm', 'G', 'g'] := by
  cases h with
  | kilo either => rcases either with rfl | rfl <;> decide
  | mega either => rcases either with rfl | rfl <;> decide
  | giga either => rcases either with rfl | rfl <;> decide

theorem IsUnit.not_isDigit (h : IsUnit c k) : c.isDigit = false := by
  have letters : ∀ c ∈ ['K', 'k', 'M', 'm', 'G', 'g'], c.isDigit = false := by simp
  exact letters c h.mem

theorem IsUnit.not_isBlank (h : IsUnit c k) : isBlank c = false := by
  have letters : ∀ c ∈ ['K', 'k', 'M', 'm', 'G', 'g'], isBlank c = false := by
    simp [isBlank]
  exact letters c h.mem

theorem IsUnit.size_toUTF8 (h : IsUnit c k) : (String.singleton c).toUTF8.size = 1 := by
  have letters : ∀ c ∈ ['K', 'k', 'M', 'm', 'G', 'g'], c.utf8Size = 1 := by
    simp [Char.utf8Size]
  rw [String.toUTF8, String.size_toByteArray, String.utf8ByteSize_singleton, letters c h.mem]

/-- The text in front of a unit letter ends one byte before the end. -/
theorem IsUnit.cut (h : IsUnit c k) (cs : List Char) :
    (String.ofList (cs ++ [c])).toUTF8.extract 0 ((String.ofList (cs ++ [c])).toUTF8.size - 1) =
      (String.ofList cs).toUTF8 := by
  have parts : (String.ofList (cs ++ [c])).toUTF8 =
      (String.ofList cs).toUTF8 ++ (String.singleton c).toUTF8 := by
    rw [String.ofList_append, ← String.singleton_eq_ofList]
    exact String.toByteArray_append
  rw [parts, ByteArray.size_append, h.size_toUTF8, Nat.add_sub_cancel]
  exact ByteArray.extract_append_eq_left rfl

namespace Writes

theorem ne_nil (h : Writes cs n) : cs ≠ [] := by
  cases h with
  | plain count => exact count.ne_nil
  | scaled _ _ _ => exact List.concat_ne_nil _ _

theorem head (h : Writes cs n) : ∀ b ∈ cs.head?, isBlank b = false := by
  cases h with
  | plain count => exact count.head
  | scaled count _ _ =>
    intro b hb
    rw [List.append_assoc, List.head?_append, List.head?_eq_some_head count.ne_nil,
      Option.some_or, ← List.head?_eq_some_head] at hb
    exact count.head b hb

theorem last (h : Writes cs n) : ∀ b ∈ cs.getLast?, isBlank b = false := by
  cases h with
  | plain count => exact fun b hb => Text.isBlank_of_isDigit (count.last b hb)
  | scaled _ _ unit =>
    intro b hb
    obtain rfl : _ = b := by simpa using hb
    exact unit.not_isBlank

end Writes

theorem writes_of_unit (unit : IsUnit c k) (first : ∀ b ∈ cs.head?, isBlank b = false) :
    Writes (cs ++ [c]) n ↔ ∃ m, IsCount (Text.trim cs) m ∧ m * 1024 ^ k = n := by
  constructor
  · intro writes
    generalize whole : cs ++ [c] = written at writes
    cases writes with
    | plain count =>
      have digit := count.last c (by simp [← whole])
      rw [unit.not_isDigit] at digit
      cases digit
    | @scaled digits blanks c' m k' count blank unit' =>
      obtain ⟨rfl, same⟩ := List.append_inj' whole rfl
      obtain rfl : c = c' := by simpa using same
      have power : 1024 ^ k = 1024 ^ k' := Option.some.inj (unit.unit?.symm.trans unit'.unit?)
      have last : ∀ b ∈ digits.getLast?, isBlank b = false := fun b hb =>
        Text.isBlank_of_isDigit (count.last b hb)
      have trimmed : Text.trim ([] ++ digits ++ blanks) = digits :=
        Text.trim_append nofun blank count.ne_nil count.head last
      rw [List.nil_append] at trimmed
      exact ⟨m, trimmed.symm ▸ count, by rw [power]⟩
  · rintro ⟨m, count, rfl⟩
    obtain ⟨blanks, parts, blank⟩ := Text.exists_blanks_after cs
    rw [Text.trim_of_head first] at count
    have writes := Writes.scaled count blank unit
    rwa [← parts] at writes

theorem writes_of_none (other : unit? c = none) : Writes (cs ++ [c]) n ↔ IsCount (cs ++ [c]) n := by
  refine ⟨fun writes => ?_, .plain⟩
  generalize whole : cs ++ [c] = written at writes ⊢
  cases writes with
  | plain count => exact count
  | @scaled digits blanks c' m k count blank unit =>
    obtain ⟨-, same⟩ := List.append_inj' whole rfl
    obtain rfl : c = c' := by simpa using same
    cases other.symm.trans unit.unit?

theorem ofTrimmed?_of_unit (unit : unit? c = some u) :
    ofTrimmed? (cs ++ [c]) = some n ↔
      ∃ m, (IsCount (Text.trim cs) m ∧ m < bound) ∧ m * u = n ∧ n < bound := by
  simp only [ofTrimmed?, List.getLast?_concat, List.dropLast_concat, unit, Option.bind_eq_bind,
    Option.bind_some, Option.bind_eq_some_iff, Text.count?_eq_some_iff,
    Option.ite_none_right_eq_some, Option.some.injEq]
  constructor
  · rintro ⟨m, counted, small, rfl⟩
    exact ⟨m, counted, rfl, small⟩
  · rintro ⟨m, counted, rfl, small⟩
    exact ⟨m, counted, small, rfl⟩

theorem ofTrimmed?_of_none (other : unit? c = none) :
    ofTrimmed? (cs ++ [c]) = some n ↔
      c.isDigit = true ∧ IsCount (Text.trim (cs ++ [c])) n ∧ n < bound := by
  cases digit : c.isDigit with
  | false => simp [ofTrimmed?, other, Text.isDigit_eq, digit]
  | true =>
    simp [ofTrimmed?, other, Text.isDigit_eq, digit, Option.bind_eq_some_iff,
      Text.count?_eq_some_iff]

/-- Where no white space stands in front, just the texts of sizes are read. -/
theorem ofTrimmed?_eq_some_iff (first : ∀ b ∈ cs.head?, isBlank b = false) :
    ofTrimmed? cs = some n ↔ Writes cs n ∧ n < bound := by
  rcases List.eq_nil_or_concat cs with rfl | ⟨cs, c, rfl⟩
  · have unwritten : ¬Writes [] n := fun writes => writes.ne_nil rfl
    simp [ofTrimmed?, unwritten]
  · simp only [List.concat_eq_append] at first ⊢
    cases read : unit? c with
    | some u =>
      obtain ⟨k, unit, rfl⟩ := unit?_eq_some_iff.mp read
      have first' : ∀ b ∈ cs.head?, isBlank b = false := fun b hb =>
        first b (by simp [show cs.head? = some b from hb])
      rw [ofTrimmed?_of_unit read, writes_of_unit unit first']
      constructor
      · rintro ⟨m, ⟨count, -⟩, rfl, small⟩
        exact ⟨⟨m, count, rfl⟩, small⟩
      · rintro ⟨⟨m, count, rfl⟩, small⟩
        have least : m ≤ m * 1024 ^ k := Nat.le_mul_of_pos_right m (Nat.pow_pos (by decide))
        exact ⟨m, ⟨count, least.trans_lt small⟩, rfl, small⟩
    | none =>
      have trimmed (digit : c.isDigit = true) : Text.trim (cs ++ [c]) = cs ++ [c] := by
        have last : ∀ b ∈ (cs ++ [c]).getLast?, isBlank b = false := by
          simpa using Text.isBlank_of_isDigit digit
        have around : Text.trim ([] ++ (cs ++ [c]) ++ []) = cs ++ [c] :=
          Text.trim_append nofun nofun (List.concat_ne_nil _ _) first last
        rwa [List.nil_append, List.append_nil] at around
      rw [ofTrimmed?_of_none read, writes_of_none read]
      constructor
      · rintro ⟨digit, count, small⟩
        exact ⟨trimmed digit ▸ count, small⟩
      · rintro ⟨count, small⟩
        have digit : c.isDigit = true := count.last c (by simp)
        exact ⟨digit, (trimmed digit).symm ▸ count, small⟩

-- The Kelvin sign looks like a unit, and is not one.
example : ofTrimmed? ['1', '2', '\u212a'] = none := by decide

/-- A text stands for a size just if what is left when it is trimmed is written like one. -/
theorem standsFor_iff {text : String} : StandsFor text n ↔ Writes (Text.trim text.toList) n := by
  constructor
  · rintro ⟨before, cs, after, parts, blank, blank', writes⟩
    rwa [parts, Text.trim_append blank blank' writes.ne_nil writes.head writes.last]
  · intro writes
    obtain ⟨before, after, parts, blank, blank'⟩ := Text.exists_blanks_around text.toList
    exact ⟨before, _, after, parts, blank, blank', writes⟩

theorem parse_eq_ok_iff {text : String} : parse text = .ok n ↔ StandsFor text n ∧ n < bound := by
  rw [standsFor_iff, ← ofTrimmed?_eq_some_iff (Text.head_of_trim text.toList), parse]
  cases ofTrimmed? (Text.trim text.toList) <;> simp

theorem parse_eq_error_iff {text : String} {e : Error} : parse text = .error e ↔
    (∀ n < bound, ¬StandsFor text n) ∧
      e = .config ("Invalid size: " ++ Text.quoted (Text.trimmed text)) := by
  have read : ∀ n, ofTrimmed? (Text.trim text.toList) = some n ↔ StandsFor text n ∧ n < bound :=
    fun n => by rw [standsFor_iff, ofTrimmed?_eq_some_iff (Text.head_of_trim text.toList)]
  rw [parse]
  cases found : ofTrimmed? (Text.trim text.toList) with
  | none =>
    have unread : ∀ n < bound, ¬StandsFor text n := fun n small stands => by
      cases found.symm.trans ((read n).mpr ⟨stands, small⟩)
    simp only [Except.error.injEq, iff_true_intro unread, true_and, Text.trimmed, eq_comm]
  | some n =>
    obtain ⟨stands, small⟩ := (read n).mp found
    simp only [reduceCtorEq, false_iff]
    rintro ⟨unread, -⟩
    exact unread n small stands

theorem parse_toString (small : n < bound) : parse (toString n) = .ok n := by
  refine parse_eq_ok_iff.mpr ⟨⟨[], Nat.toDigits 10 n, [], ?_, nofun, nofun, ?_⟩, small⟩
  · rw [Nat.toString_eq_ofList_toDigits, String.toList_ofList, List.nil_append, List.append_nil]
  · exact .plain (.toDigits n)

theorem parse_toString_unit (unit : IsUnit c k) (small : n * 1024 ^ k < bound) :
    parse (toString n ++ String.singleton c) = .ok (n * 1024 ^ k) := by
  refine parse_eq_ok_iff.mpr ⟨⟨[], Nat.toDigits 10 n ++ [] ++ [c], [], ?_, nofun, nofun, ?_⟩, small⟩
  · rw [Nat.toString_eq_ofList_toDigits, String.toList_append, String.toList_ofList,
      String.toList_singleton, List.nil_append, List.append_nil, List.append_nil]
  · exact .scaled (.toDigits n) nofun unit

/-- Sizes are read exactly. A text is read just if it stands for a size below 2⁶⁴, and then as that
size; any other text is an error of the configuration that quotes what is left when the text is
trimmed. Taking a unit letter off takes off one byte, so that no character is cut. Every count below
2⁶⁴ is read back, and every count with a unit as long as the product stays below 2⁶⁴. -/
theorem sizes_read_exactly :
    (∀ text n, parse text = .ok n ↔ StandsFor text n ∧ n < 2 ^ 64) ∧
    (∀ text e, parse text = .error e ↔ (∀ n < 2 ^ 64, ¬StandsFor text n) ∧
      e = .config ("Invalid size: " ++ Text.quoted (Text.trimmed text))) ∧
    (∀ c k, IsUnit c k → ∀ cs, (String.ofList (cs ++ [c])).toUTF8.extract 0
      ((String.ofList (cs ++ [c])).toUTF8.size - 1) = (String.ofList cs).toUTF8) ∧
    (∀ n < 2 ^ 64, parse (toString n) = .ok n) ∧
    (∀ c k, IsUnit c k → ∀ n, n * 1024 ^ k < 2 ^ 64 →
      parse (toString n ++ String.singleton c) = .ok (n * 1024 ^ k)) := by
  have words : bound = 2 ^ 64 := by decide
  rw [← words]
  exact ⟨fun _ _ => parse_eq_ok_iff, fun _ _ => parse_eq_error_iff, fun _ _ => IsUnit.cut,
    fun _ => parse_toString, fun _ _ unit _ => parse_toString_unit unit⟩

/-- The greatest size that can be written with a unit. -/
theorem greatest_scaled_size :
    IsUnit 'G' 3 ∧ 17179869183 * 1024 ^ 3 < 2 ^ 64 ∧
    parse "17179869183G" = .ok 18446744072635809792 := by
  have unit : IsUnit 'G' 3 := .giga (.inl rfl)
  have small : 17179869183 * 1024 ^ 3 < 2 ^ 64 := by decide
  have written : toString 17179869183 ++ String.singleton 'G' = "17179869183G" := by decide
  have read := sizes_read_exactly.2.2.2.2 'G' 3 unit 17179869183 small
  rw [written] at read
  exact ⟨unit, small, read⟩

end Size

end PlayerRegistry
