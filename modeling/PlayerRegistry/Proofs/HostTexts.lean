import Mathlib.Data.List.Forall2
import PlayerRegistry.Proofs.AddressTexts
import PlayerRegistry.Proofs.Utf8Text
import PlayerRegistry.Proofs.PercentText
import PlayerRegistry.Url.Parse

/-!
# Hosts that are addresses

How the host of a URL can spell an address: numbers of three bases with points between them, as few
as one, or an address of version 6 in brackets. Each of these texts is read as the address.
-/

namespace PlayerRegistry

namespace Url

/-- Digits to a base, of either case, which stand for the number. -/
def IsDigits (base : Nat) (cs : List Char) (n : Nat) : Prop :=
  ∃ digits : List Nat, cs.map Char.toLower = digits.map Hex.digit ∧ (∀ d ∈ digits, d < base) ∧
    digits.foldl (fun n d => base * n + d) 0 = n

/-- A decimal number, an octal one after a zero, or a hexadecimal one after a zero and an x. -/
inductive Numeral : List Char → Nat → Prop
  | decimal {c cs n} (other : c ≠ '0') (read : IsDigits 10 (c :: cs) n) : Numeral (c :: cs) n
  | octal {cs n} (read : IsDigits 8 cs n) : Numeral ('0' :: cs) n
  | hexadecimal {mark cs n} (x : mark.toLower = 'x') (read : IsDigits 16 cs n) :
    Numeral ('0' :: mark :: cs) n

theorem toLower_of_ascii : ∀ k < 128, (Char.ofNat k).toLower.toNat < 128 ∧
    ((Char.ofNat k).toLower = '0' → Char.ofNat k = '0') ∧
    ((Char.ofNat k).toLower = 'x' → Char.ofNat k = 'x' ∨ Char.ofNat k = 'X') := by decide +kernel

section
variable {c : Char}

theorem ascii_toLower (h : c.toNat < 128) : c.toLower.toNat < 128 := by
  simpa using (toLower_of_ascii c.toNat h).1

theorem eq_zero_of_toLower (h : c.toLower = '0') : c = '0' := by
  have ascii : c.toNat < 128 := Hex.ascii_of_toLower (by rw [h]; decide)
  simpa using (toLower_of_ascii c.toNat ascii).2.1 (by simpa using h)

theorem eq_x_of_toLower (h : c.toLower = 'x') : c = 'x' ∨ c = 'X' := by
  have ascii : c.toNat < 128 := Hex.ascii_of_toLower (by rw [h]; decide)
  simpa using (toLower_of_ascii c.toNat ascii).2.2 (by simpa using h)

end

section
variable {base n : Nat} {cs : List Char}

theorem IsDigits.read (h : IsDigits base cs n) (small : base ≤ 16) :
    (do
      let values ← cs.mapM Hex.digitValue?
      if values.all (· < base) then some (values.foldl (fun n d => base * n + d) 0)
      else none) = some n := by
  obtain ⟨digits, lower, bound, total⟩ := h
  have values : cs.mapM Hex.digitValue? = some digits :=
    Hex.mapM_digitValue?_eq_some_iff.mpr ⟨fun d hd => (bound d hd).trans_le small, lower⟩
  have all : digits.all (· < base) = true := by simpa using bound
  rw [values]
  change (if digits.all (· < base) = true then some _ else none) = _
  rw [if_pos all, total]

theorem IsDigits.toLower (h : IsDigits base cs n) (small : base ≤ 16) :
    IsDigits base (cs.map Char.toLower) n := by
  obtain ⟨digits, lower, bound, total⟩ := h
  refine ⟨digits, ?_, bound, total⟩
  rw [lower, List.map_map]
  exact List.map_congr_left fun d hd => Hex.toLower_digit ((bound d hd).trans_le small)

theorem IsDigits.isDigit (h : IsDigits base cs n) {c : Char} (hc : c ∈ cs) :
    ∃ d < base, c.toLower = Hex.digit d := by
  obtain ⟨digits, lower, bound, -⟩ := h
  have mem : c.toLower ∈ digits.map Hex.digit := lower ▸ List.mem_map_of_mem hc
  obtain ⟨d, hd, same⟩ := List.mem_map.mp mem
  exact ⟨d, bound d hd, same.symm⟩

/-- No digit to a small base is an x. -/
theorem IsDigits.not_x (h : IsDigits base cs n) (small : base ≤ 16) {c : Char} (hc : c ∈ cs) :
    c ≠ 'x' ∧ c ≠ 'X' := by
  obtain ⟨d, bound, lower⟩ := h.isDigit hc
  have all : ∀ d < 16, 'x' ≠ Hex.digit d := by decide
  have other := all d (bound.trans_le small)
  constructor
  · rintro rfl
    exact other lower
  · rintro rfl
    exact other lower

end

theorem Numeral.number? {cs : List Char} {n : Nat} (h : Numeral cs n) : number? cs = some n := by
  cases h with
  | @decimal c cs n other read =>
    rw [Url.number?]
    · exact read.read (by decide)
    all_goals simp [other]
  | @octal cs n read =>
    cases cs with
    | nil =>
      obtain ⟨digits, lower, -, total⟩ := read
      rw [List.map_nil, eq_comm, List.map_eq_nil_iff] at lower
      rw [lower] at total
      rw [← total]
      rfl
    | cons c cs =>
      have other := read.not_x (by decide) List.mem_cons_self
      rw [Url.number?]
      · exact read.read (by decide)
      all_goals simp [other]
  | @hexadecimal mark cs n x read =>
    rcases eq_x_of_toLower x with rfl | rfl
    · exact read.read (by decide)
    · exact read.read (by decide)

theorem Numeral.toLower {cs : List Char} {n : Nat} (h : Numeral cs n) :
    Numeral (cs.map Char.toLower) n := by
  cases h with
  | decimal other read =>
    exact .decimal (fun zero => other (eq_zero_of_toLower zero)) (read.toLower (by decide))
  | octal read => exact .octal (read.toLower (by decide))
  | @hexadecimal mark cs n x read =>
    refine .hexadecimal ?_ (read.toLower (by decide))
    rw [x]
    rfl

theorem Numeral.ne_nil {cs : List Char} {n : Nat} (h : Numeral cs n) : cs ≠ [] := by
  cases h <;> simp

/-- What the texts of addresses of version 4 are made of, but for the case of letters. -/
def addressSigns : List Char := "0123456789abcdefx.".toList

/-- A sign in an address of version 4. -/
def IsAddressSign (c : Char) : Prop := c.toLower ∈ addressSigns

instance (c : Char) : Decidable (IsAddressSign c) :=
  inferInstanceAs (Decidable (c.toLower ∈ addressSigns))

theorem Numeral.isAddressSign {cs : List Char} {n : Nat} (h : Numeral cs n) {c : Char}
    (hc : c ∈ cs) : IsAddressSign c ∧ c ≠ '.' := by
  have digits : ∀ {base : Nat} {ds : List Char} {m : Nat}, IsDigits base ds m → base ≤ 16 →
      c ∈ ds → IsAddressSign c ∧ c ≠ '.' := by
    intro base ds m read small mem
    obtain ⟨d, bound, lower⟩ := read.isDigit mem
    have all : ∀ d < 16, Hex.digit d ∈ addressSigns ∧ Hex.digit d ≠ '.' := by decide
    have sign := all d (bound.trans_le small)
    refine ⟨by rw [IsAddressSign, lower]; exact sign.1, ?_⟩
    rintro rfl
    exact sign.2 lower.symm
  have zero : IsAddressSign '0' ∧ '0' ≠ '.' := by decide
  cases h with
  | decimal other read => exact digits read (by decide) hc
  | octal read =>
    rcases List.mem_cons.mp hc with rfl | mem
    · exact zero
    · exact digits read (by decide) mem
  | hexadecimal x read =>
    rcases List.mem_cons.mp hc with rfl | mem
    · exact zero
    · rcases List.mem_cons.mp mem with rfl | mem
      · rcases eq_x_of_toLower x with rfl | rfl
        · decide
        · decide
      · exact digits read (by decide) mem

section
variable {c : Char}

theorem IsAddressSign.ascii (h : IsAddressSign c) : c.toNat < 128 := by
  have all : ∀ d ∈ addressSigns, d.toNat < 128 := List.all_iff_forall_prop.mp (by decide)
  exact Hex.ascii_of_toLower (all _ h)

theorem IsAddressSign.toLower (h : IsAddressSign c) : IsAddressSign c.toLower := by
  have small : ∀ d ∈ addressSigns, d.toLower = d := List.all_iff_forall_prop.mp (by decide)
  rwa [IsAddressSign, small _ h]

theorem IsAddressSign.ne (h : IsAddressSign c) {d : Char} (other : ¬IsAddressSign d) : c ≠ d := by
  rintro rfl
  exact other h

theorem not_isForbidden (h : IsAddressSign c) : Domain.isForbidden c.toLower = false := by
  have all : ∀ d ∈ addressSigns, Domain.isForbidden d = false :=
    List.all_iff_forall_prop.mp (by decide)
  exact all _ h

end

end Url

namespace Domain

/-- The ranges that the lines of a table stand for. -/
theorem ofLines_eq (lines : List String) : CodePoints.ofLines lines =
    ⟨(((List.intercalate [' '] (lines.map String.toList)).foldl CodePoints.Reading.step
      ⟨[], none, 0⟩).step ' ').ranges.reverse⟩ := by
  rw [CodePoints.ofLines, String.toList_intercalate]
  rfl

theorem rightToLeft_beyond_ascii : ∀ row ∈ Unicode.directions, isRightToLeft row.1 = true →
    ∀ range ∈ row.2.ranges, 128 ≤ range.1 := by
  rw [Unicode.directions]
  simp only [ofLines_eq]
  decide +kernel

theorem not_isRightToLeft {c : Nat} (ascii : c < 128) :
    isRightToLeft (Unicode.directionOf c) = false := by
  rw [Unicode.directionOf]
  cases found : Unicode.directions.find? fun row => row.2.contains c with
  | none => rfl
  | some row =>
    rw [Bool.eq_false_iff]
    intro backwards
    have within : row.2.contains c = true := by simpa using List.find?_some found
    rw [CodePoints.contains, List.any_eq_true] at within
    obtain ⟨range, hr, within⟩ := within
    have beyond := rightToLeft_beyond_ascii row (List.mem_of_find?_eq_some found) backwards range hr
    simp only [Bool.and_eq_true, decide_eq_true_eq] at within
    omega

theorem map?_of_ascii {cs : List Char} (ascii : ∀ c ∈ cs, c.toNat < 128) :
    map? cs = some (cs.map Char.toLower) := by
  have each : cs.mapM mapChar? = some (cs.map fun c => [c.toLower]) := by
    induction cs with
    | nil => rfl
    | cons c cs ih =>
      rw [List.mapM_cons, mapChar?, if_pos (ascii c List.mem_cons_self),
        ih fun d hd => ascii d (List.mem_cons_of_mem c hd)]
      rfl
  rw [map?, each, Option.map_some, ← List.flatMap_def, ← List.map_eq_flatMap]

theorem label?_of_ascii {label : List Char} (ascii : ∀ c ∈ label, c.toNat < 128)
    (unmarked : label.take 4 ≠ punycodeMark) : label? label = some (label, label) := by
  have text : isAsciiText label = true := by
    rw [isAsciiText, List.all_eq_true]
    intro c hc
    simpa using ascii c hc
  rw [label?, if_neg unmarked, if_pos text]
  rfl

theorem mapM_label?_of_ascii {labels : List (List Char)}
    (ascii : ∀ l ∈ labels, ∀ c ∈ l, c.toNat < 128)
    (unmarked : ∀ l ∈ labels, l.take 4 ≠ punycodeMark) :
    labels.mapM label? = some (labels.map fun l => (l, l)) := by
  induction labels with
  | nil => rfl
  | cons l labels ih =>
    rw [List.mapM_cons,
      label?_of_ascii (ascii l List.mem_cons_self) (unmarked l List.mem_cons_self),
      ih (fun m hm => ascii m (List.mem_cons_of_mem l hm))
        (fun m hm => unmarked m (List.mem_cons_of_mem l hm))]
    rfl

/-- A name of ASCII without labels in Punycode becomes the name in small letters, if it may stand as
a host. -/
theorem toAscii?_of_ascii {cs : List Char} (ascii : ∀ c ∈ cs, c.toNat < 128)
    (unmarked : ∀ l ∈ splitAtChar '.' (cs.map Char.toLower), l.take 4 ≠ punycodeMark)
    (allowed : ∀ c ∈ cs, isForbidden c.toLower = false) :
    toAscii? cs = some (cs.map Char.toLower) := by
  have lower : ∀ c ∈ cs.map Char.toLower, c.toNat < 128 := by
    intro c hc
    obtain ⟨d, hd, rfl⟩ := List.mem_map.mp hc
    exact Url.ascii_toLower (ascii d hd)
  have composed : Composed.ofChars (cs.map Char.toLower) = cs.map Char.toLower := by
    refine if_pos (List.all_eq_true.mpr fun c hc => ?_)
    have := lower c hc
    rw [decide_eq_true_eq]
    omega
  have labels : (splitAtChar '.' (cs.map Char.toLower)).mapM label? =
      some ((splitAtChar '.' (cs.map Char.toLower)).map fun l => (l, l)) :=
    mapM_label?_of_ascii (fun l hl c hc => lower c (mem_of_mem_splitAtChar hl hc)) unmarked
  have leftToRight : ((splitAtChar '.' (cs.map Char.toLower)).any fun l =>
      (directions l).any isRightToLeft) = false := by
    rw [List.any_eq_false]
    intro l hl
    rw [Bool.not_eq_true, directions, List.any_eq_false]
    intro d hd
    obtain ⟨c, hc, rfl⟩ := List.mem_map.mp hd
    rw [not_isRightToLeft (lower c (mem_of_mem_splitAtChar hl hc))]
    exact Bool.false_ne_true
  have free : (cs.map Char.toLower).any isForbidden = false := by
    rw [List.any_eq_false]
    intro c hc
    obtain ⟨d, hd, rfl⟩ := List.mem_map.mp hc
    rw [allowed d hd]
    exact Bool.false_ne_true
  rw [toAscii?, map?_of_ascii ascii]
  simp only [Option.bind_eq_bind, Option.bind_some, composed, labels, List.map_map,
    Function.comp_def, List.map_id', leftToRight, Bool.false_eq_true, false_and, if_false,
    intercalate_splitAtChar, free]

theorem toAscii?_of_signs {cs : List Char} (signs : ∀ c ∈ cs, Url.IsAddressSign c) :
    toAscii? cs = some (cs.map Char.toLower) := by
  refine toAscii?_of_ascii (fun c hc => (signs c hc).ascii) (fun l hl marked => ?_)
    fun c hc => Url.not_isForbidden (signs c hc)
  have mem : 'n' ∈ l.take 4 := by
    rw [marked]
    decide
  have inside := mem_of_mem_splitAtChar hl (List.mem_of_mem_take mem)
  obtain ⟨c, hc, lower⟩ := List.mem_map.mp inside
  exact (signs c hc).toLower.ne (by decide) lower

end Domain

/-- Up to four numbers with points between them, and perhaps one after them: all but the last are
one byte, and the last fills the rest. -/
inductive Ipv4.Spells (a : Ipv4) : List Char → Prop
  | mk {parts high low stop} (read : List.Forall₂ Url.Numeral parts (high ++ [low]))
    (few : high.length ≤ 3) (bytes : ∀ n ∈ high, n < 256) (rest : low < 256 ^ (4 - high.length))
    (value : a.value.toNat =
      high.foldl (fun n d => 256 * n + d) 0 * 256 ^ (4 - high.length) + low)
    (point : stop = [] ∨ stop = ['.']) : Spells a (List.intercalate ['.'] parts ++ stop)

/-- The texts of the address as a host. -/
def IpAddress.Spells : IpAddress → List Char → Prop
  | .v4 a, cs => a.Spells cs
  | .v6 a, cs => ∃ inner, a.Spells inner ∧ cs = '[' :: inner ++ [']']

theorem Url.Numeral.of_mem {parts : List (List Char)} {numbers : List Nat}
    (h : List.Forall₂ Numeral parts numbers) {part : List Char} (hp : part ∈ parts) :
    ∃ n, Numeral part n := by
  induction h with
  | nil => cases hp
  | cons head _ ih =>
    rcases List.mem_cons.mp hp with rfl | later
    · exact ⟨_, head⟩
    · exact ih later

namespace Ipv4.Spells
variable {a : Ipv4} {cs : List Char}

theorem toLower (h : a.Spells cs) : a.Spells (cs.map Char.toLower) := by
  obtain ⟨read, few, bytes, rest, value, point⟩ := h
  rename_i parts high low stop
  have small : (List.intercalate ['.'] parts ++ stop).map Char.toLower =
      List.intercalate ['.'] (parts.map (List.map Char.toLower)) ++ stop := by
    have same : stop.map Char.toLower = stop := by
      rcases point with rfl | rfl
      · rfl
      · rfl
    rw [List.map_append, map_intercalate, same]
    rfl
  rw [small]
  refine .mk ?_ few bytes rest value point
  exact List.forall₂_map_left_iff.mpr (read.imp fun _ _ numeral => numeral.toLower)

theorem signs (h : a.Spells cs) : ∀ c ∈ cs, Url.IsAddressSign c := by
  obtain ⟨read, -, -, -, -, point⟩ := h
  have stop : Url.IsAddressSign '.' := by decide
  intro c hc
  rcases List.mem_append.mp hc with inside | after
  · rcases mem_intercalate inside with rfl | ⟨part, hp, hc⟩
    · exact stop
    · obtain ⟨n, numeral⟩ := Url.Numeral.of_mem read hp
      exact (numeral.isAddressSign hc).1
  · rcases point with rfl | rfl
    · cases after
    · rw [List.mem_singleton.mp after]
      exact stop

end Ipv4.Spells

namespace Url

theorem nameParts_intercalate {parts : List (List Char)} {stop : List Char}
    (free : ∀ p ∈ parts, '.' ∉ p) (full : ∀ p ∈ parts, p ≠ []) (some' : parts ≠ [])
    (point : stop = [] ∨ stop = ['.']) :
    nameParts (List.intercalate ['.'] parts ++ stop) = parts := by
  rcases point with rfl | rfl
  · have last : ¬parts.getLast? = some [] := fun last =>
      full [] (List.mem_of_getLast? last) rfl
    simp only [nameParts, List.append_nil, splitAtChar_intercalate free some', if_neg last]
  · have split : splitAtChar '.' (List.intercalate ['.'] parts ++ ['.']) = parts ++ [[]] := by
      rw [splitAtChar_append_separator, splitAtChar_intercalate free some', splitAtChar]
    simp only [nameParts, split, List.getLast?_concat, if_true, List.dropLast_concat]

theorem mapM_number? {parts : List (List Char)} {numbers : List Nat}
    (h : List.Forall₂ Numeral parts numbers) : parts.mapM number? = some numbers := by
  induction h with
  | nil => rfl
  | cons head _ ih =>
    rw [List.mapM_cons, head.number?, ih]
    rfl

/-- A name is read as the address that it spells. -/
theorem ipv4?_of_spells {a : Ipv4} {cs : List Char} (h : a.Spells cs) :
    ipv4? cs = some a ∧ endsInNumber cs = true := by
  obtain ⟨read, few, bytes, rest, value, point⟩ := h
  rename_i parts high low stop
  have some' : parts ≠ [] := by
    rintro rfl
    have := read.length_eq
    simp at this
  have names : nameParts (List.intercalate ['.'] parts ++ stop) = parts := by
    refine nameParts_intercalate (fun p hp => ?_) (fun p hp => ?_) some' point
    · obtain ⟨n, numeral⟩ := Numeral.of_mem read hp
      exact fun mem => (numeral.isAddressSign mem).2 rfl
    · obtain ⟨n, numeral⟩ := Numeral.of_mem read hp
      exact numeral.ne_nil
  constructor
  · have size : 1 <<< (8 * (4 - high.length)) = 256 ^ (4 - high.length) := by
      rw [Nat.one_shiftLeft, Nat.pow_mul]
    have shift : ∀ n, n <<< (8 * (4 - high.length)) = n * 256 ^ (4 - high.length) := fun n => by
      rw [Nat.shiftLeft_eq, Nat.pow_mul]
    have fits : high.length ≤ 3 ∧ high.all (· < 256) = true ∧ low < 256 ^ (4 - high.length) :=
      ⟨few, by simpa using bytes, rest⟩
    have number : BitVec.ofNat 32 a.value.toNat = a.value := by simp
    rw [ipv4?, names, mapM_number? read]
    simp only [Option.bind_eq_bind, Option.bind_some, List.getLast?_concat, List.dropLast_concat,
      size, shift, if_pos fits, ← value, number]
  · rw [endsInNumber, names, List.getLast?_eq_some_getLast some']
    obtain ⟨n, numeral⟩ := Numeral.of_mem read (List.getLast_mem some')
    simp [numeral.number?]

section
variable {cs : List Char} (ascii : ∀ c ∈ cs, c.toNat < 128) (percent : '%' ∉ cs)
include ascii percent

/-- Without percent signs, there is nothing to decode. -/
theorem decode?_of_ascii : Utf8.decode? (Percent.decodeBytes (Utf8.encode cs)) = some cs := by
  have free : (0x25 : UInt8) ∉ Utf8.encode cs := Utf8.byte_not_mem ascii (by decide) percent
  rw [Percent.decodeBytes_of_not_mem free, Utf8.decode?_encode]

/-- A name in small letters that does not end in a number is a host as it stands. -/
theorem host?_of_ascii (small : cs.map Char.toLower = cs) (some' : cs ≠ []) (bracket : '[' ∉ cs)
    (unmarked : ∀ l ∈ splitAtChar '.' cs, l.take 4 ≠ Domain.punycodeMark)
    (allowed : ∀ c ∈ cs, Domain.isForbidden c = false) (letters : endsInNumber cs = false) :
    host? cs = some (.name cs) := by
  have mapped : Domain.toAscii? cs = some cs := by
    have each : ∀ c ∈ cs, Domain.isForbidden c.toLower = false := by
      intro c hc
      have mem : c.toLower ∈ cs.map Char.toLower := List.mem_map_of_mem hc
      rw [small] at mem
      exact allowed _ mem
    have whole := Domain.toAscii?_of_ascii ascii (by rwa [small]) each
    rwa [small] at whole
  have filled : cs.isEmpty = false := by simpa using some'
  rw [host?]
  · simp only [decode?_of_ascii ascii percent, Option.bind_eq_bind, Option.bind_some, mapped,
      filled, letters, Bool.false_eq_true, if_false]
  · rintro rest rfl
    exact bracket List.mem_cons_self

end

/-- The host of a text that spells an address is the address. -/
theorem host?_of_spells {a : IpAddress} {cs : List Char} (h : a.Spells cs) :
    host? cs = some (.ip a) := by
  cases a with
  | v6 a =>
    obtain ⟨inner, spells, rfl⟩ := h
    rw [List.cons_append, host?, bracketed?, List.getLast?_concat, if_pos rfl,
      List.dropLast_concat, spells.parse?]
    rfl
  | v4 a =>
    have spells : a.Spells cs := h
    have signs := spells.signs
    obtain ⟨read, number⟩ := ipv4?_of_spells spells.toLower
    have unescaped := decode?_of_ascii (fun c hc => (signs c hc).ascii) fun mem =>
      (signs '%' mem).ne (by decide) rfl
    have filled : (cs.map Char.toLower).isEmpty = false := by
      cases empty : (cs.map Char.toLower).isEmpty with
      | false => rfl
      | true =>
        rw [List.isEmpty_iff.mp empty] at number
        exact absurd number (by decide)
    rw [host?]
    · simp only [unescaped, Option.bind_eq_bind, Option.bind_some, Domain.toAscii?_of_signs signs,
        filled, number, read, if_true, Bool.false_eq_true, if_false, Option.map_some]
    · rintro rest rfl
      exact (signs '[' List.mem_cons_self).ne (by decide) rfl

end Url

end PlayerRegistry
