import PlayerRegistry.Proofs.HexText
import PlayerRegistry.Proofs.SeparatedTexts
import PlayerRegistry.Url.Basic

/-!
# The texts of addresses

How an address of version 6 can be spelled, and that every spelling is read as the address. The
usual text of an address is one of them; so the host of a URL, as it stands in the text of the URL,
is looked up as the address that it is.
-/

namespace PlayerRegistry

namespace Ipv4

theorem octet?_toString {d : Nat} (h : d < 256) : octet? (toString d).toList = some d := by
  have all : ∀ d < 256, octet? (toString d).toList = some d := by decide +kernel
  exact all d h

theorem lt_of_mem_octets {a : Ipv4} {d : Nat} (h : d ∈ a.octets) : d < 256 := by
  obtain ⟨shift, -, rfl⟩ := List.mem_map.mp h
  exact Nat.mod_lt _ (by decide)

theorem ofOctets_octets (a : Ipv4) : ofOctets a.octets = a := by
  have bound := a.value.isLt
  refine congrArg mk (BitVec.eq_of_toNat_eq ?_)
  simp only [octets, List.map_cons, List.map_nil, List.foldl_cons, List.foldl_nil,
    Nat.shiftRight_eq_div_pow, BitVec.toNat_ofNat]
  omega

/-- The numbers of an address, as they are written. -/
def parts (a : Ipv4) : List (List Char) := a.octets.map fun d => (toString d).toList

theorem toList_toText (a : Ipv4) : a.toText.toList = List.intercalate ['.'] a.parts := by
  rw [toText, String.toList_intercalate, parts, List.map_map]
  rfl

theorem isDigit_of_mem_parts {a : Ipv4} {part : List Char} (h : part ∈ a.parts) {c : Char}
    (hc : c ∈ part) : c.isDigit = true := by
  obtain ⟨d, -, rfl⟩ := List.mem_map.mp h
  rw [Nat.toString_eq_ofList_toDigits, String.toList_ofList] at hc
  exact Nat.isDigit_of_mem_toDigits (by decide) (by decide) hc

theorem sign_of_mem_toText {a : Ipv4} {c : Char} (h : c ∈ a.toText.toList) :
    c = '.' ∨ c.isDigit = true := by
  rw [toList_toText] at h
  rcases mem_intercalate h with point | ⟨part, hp, hc⟩
  · exact .inl point
  · exact .inr (isDigit_of_mem_parts hp hc)

theorem mapM_octet?_parts (a : Ipv4) : a.parts.mapM octet? = some a.octets := by
  have all : ∀ ds : List Nat, (∀ d ∈ ds, d < 256) →
      (ds.map fun d => (toString d).toList).mapM octet? = some ds := by
    intro ds bound
    induction ds with
    | nil => rfl
    | cons d ds ih =>
      rw [List.map_cons, List.mapM_cons, octet?_toString (bound d List.mem_cons_self),
        ih fun d' hd => bound d' (List.mem_cons_of_mem d hd)]
      rfl
  exact all a.octets fun d => lt_of_mem_octets

/-- The usual text is read back. -/
theorem ofDotted?_toText (a : Ipv4) : ofDotted? a.toText.toList = some a := by
  have free : ∀ part ∈ a.parts, '.' ∉ part := by
    intro part h point
    cases isDigit_of_mem_parts h point
  have four : a.octets.length = 4 := rfl
  rw [ofDotted?, toList_toText, splitAtChar_intercalate free nofun, mapM_octet?_parts]
  change (if a.octets.length = 4 then some (ofOctets a.octets) else none) = some a
  rw [if_pos four, ofOctets_octets]

end Ipv4

namespace Hex

theorem digitChar_eq_digit {d : Nat} (h : d < 16) : Nat.digitChar d = digit d := by
  have all : ∀ d < 16, Nat.digitChar d = digit d := by decide
  exact all d h

/-- The digits of a number are as few as its size allows. -/
theorem toDigits_eq_map (k : Nat) {n : Nat} (h : n < 16 ^ (k + 1)) : ∃ digits : List Nat,
    Nat.toDigits 16 n = digits.map digit ∧ (∀ d ∈ digits, d < 16) ∧ digits ≠ [] ∧
      digits.length ≤ k + 1 ∧ value digits = n := by
  induction k generalizing n with
  | zero =>
    have small : n < 16 := by omega
    refine ⟨[n], ?_, by simpa using small, by simp, by simp, by simp [value]⟩
    rw [Nat.toDigits_of_lt_base small, digitChar_eq_digit small, List.map_singleton]
  | succ k ih =>
    by_cases small : n < 16
    · refine ⟨[n], ?_, by simpa using small, by simp, by simp, by simp [value]⟩
      rw [Nat.toDigits_of_lt_base small, digitChar_eq_digit small, List.map_singleton]
    · have quotient : n / 16 < 16 ^ (k + 1) := by
        rw [Nat.pow_succ] at h
        omega
      obtain ⟨digits, written, bound, -, length, total⟩ := ih quotient
      have last : n % 16 < 16 := Nat.mod_lt _ (by decide)
      refine ⟨digits ++ [n % 16], ?_, ?_, by simp, by simpa using length, ?_⟩
      · rw [Nat.toDigits_of_base_le (by decide) (by omega), written, digitChar_eq_digit last,
          List.map_append, List.map_singleton]
      · simpa [or_imp, forall_and] using ⟨bound, last⟩
      · rw [value_append, total]
        omega

theorem isSome_of_isDigit {c : Char} (h : c.isDigit = true) : (digitValue? c).isSome = true := by
  have within : '0' ≤ c ∧ c ≤ '9' := by
    simpa [Char.isDigit, Char.le_def] using h
  rw [digitValue?, if_pos within]
  rfl

end Hex

namespace Ipv6

/-- One to four digits of either case, which stand for the number. -/
def IsPiece (part : List Char) (n : Nat) : Prop :=
  ∃ digits : List Nat, part.map Char.toLower = digits.map Hex.digit ∧ (∀ d ∈ digits, d < 16) ∧
    digits ≠ [] ∧ digits.length ≤ 4 ∧ Hex.value digits = n

theorem piece?_eq_some_iff {part : List Char} {n : Nat} :
    piece? part = some n ↔ IsPiece part n := by
  have read : ∀ digits : List Nat, part.map Char.toLower = digits.map Hex.digit →
      (part ≠ [] ∧ part.length ≤ 4 ↔ digits ≠ [] ∧ digits.length ≤ 4) := by
    intro digits lower
    have same : part.length = digits.length := by simpa using congrArg List.length lower
    rw [← List.length_pos_iff, ← List.length_pos_iff, same]
  rw [piece?, IsPiece]
  constructor
  · intro h
    obtain ⟨size, h⟩ := Option.ite_none_right_eq_some.mp h
    obtain ⟨digits, values, total⟩ := Option.map_eq_some_iff.mp h
    obtain ⟨bound, lower⟩ := Hex.mapM_digitValue?_eq_some_iff.mp values
    obtain ⟨some, short⟩ := (read digits lower).mp size
    exact ⟨digits, lower, bound, some, short, total⟩
  · rintro ⟨digits, lower, bound, some, short, total⟩
    rw [if_pos ((read digits lower).mpr ⟨some, short⟩),
      Hex.mapM_digitValue?_eq_some_iff.mpr ⟨bound, lower⟩, Option.map_some]
    exact congrArg _ total

theorem isPiece_ofNat {n : Nat} (h : n < 65536) : IsPiece (Hex.ofNat n).toList n := by
  obtain ⟨digits, written, bound, some, short, total⟩ := Hex.toDigits_eq_map 3 h
  refine ⟨digits, ?_, bound, some, short, total⟩
  rw [Hex.ofNat, String.toList_ofList, written, List.map_map]
  exact List.map_congr_left fun d hd => Hex.toLower_digit (bound d hd)

theorem IsPiece.ne_nil {part : List Char} {n : Nat} (h : IsPiece part n) : part ≠ [] := by
  rintro rfl
  obtain ⟨digits, lower, -, some, -⟩ := h
  exact some (List.map_eq_nil_iff.mp lower.symm)

/-- A piece has digits only. -/
theorem IsPiece.isDigit {part : List Char} {n : Nat} (h : IsPiece part n) {c : Char}
    (hc : c ∈ part) : (Hex.digitValue? c).isSome = true := by
  obtain ⟨digits, lower, bound, -⟩ := h
  have mem : c.toLower ∈ digits.map Hex.digit := lower ▸ List.mem_map_of_mem hc
  obtain ⟨d, hd, same⟩ := List.mem_map.mp mem
  rw [Hex.digitValue?_eq_some_iff.mpr ⟨bound d hd, same.symm⟩]
  rfl

theorem IsPiece.not_mem {part : List Char} {n : Nat} (h : IsPiece part n) {c : Char}
    (other : Hex.digitValue? c = none) : c ∉ part := by
  intro hc
  have digit := h.isDigit hc
  rw [other] at digit
  cases digit

/-- Parts and their numbers; the last part may be an address of version 4. -/
inductive Numbers : List (List Char) → List Nat → Prop
  | nil : Numbers [] []
  | dotted (b : Ipv4) : Numbers [b.toText.toList] [b.value.toNat / 65536, b.value.toNat % 65536]
  | piece {part n parts ns} (head : IsPiece part n) (tail : Numbers parts ns) :
    Numbers (part :: parts) (n :: ns)

/-- The texts of an address: its pieces with colons between them, of which a double colon may stand
for one or more that are zero. -/
inductive Spells (a : Ipv6) : List Char → Prop
  | whole {parts ns} (read : Numbers parts ns) (eight : ns.length = 8) (value : ofPieces ns = a) :
    Spells a (List.intercalate [':'] parts)
  | shortened {before first after last} (read : List.Forall₂ IsPiece before first)
    (read' : Numbers after last) (short : first.length + last.length ≤ 7)
    (value : ofPieces (first ++ List.replicate (8 - (first.length + last.length)) 0 ++ last) = a) :
    Spells a (List.intercalate [':'] before ++ ':' :: ':' :: List.intercalate [':'] after)

theorem Numbers.mem {parts : List (List Char)} {ns : List Nat} (h : Numbers parts ns)
    {part : List Char} (hp : part ∈ parts) :
    (∃ b : Ipv4, part = b.toText.toList) ∨ ∃ n, IsPiece part n := by
  induction h with
  | nil => cases hp
  | dotted b => exact .inl ⟨b, List.mem_singleton.mp hp⟩
  | piece head _ ih =>
    rcases List.mem_cons.mp hp with rfl | later
    · exact .inr ⟨_, head⟩
    · exact ih later

theorem numbers?_of_forall₂ {parts : List (List Char)} {ns : List Nat} (isLast : Bool)
    (h : List.Forall₂ IsPiece parts ns) : numbers? isLast parts = some ns := by
  induction h with
  | nil => rfl
  | @cons part n parts ns head tail ih =>
    have read := piece?_eq_some_iff.mpr head
    cases parts with
    | nil =>
      cases tail
      have plain : ¬(isLast = true ∧ part.contains '.' = true) := by
        rintro ⟨-, point⟩
        exact head.not_mem (c := '.') (by decide) (by simpa using point)
      rw [numbers?, if_neg plain, read, Option.map_some]
    | cons next parts =>
      rw [numbers?, read, ih]
      · rfl
      · exact nofun

theorem Numbers.numbers? {parts : List (List Char)} {ns : List Nat} (h : Numbers parts ns) :
    numbers? true parts = some ns := by
  induction h with
  | nil => rfl
  | dotted b =>
    have point : b.toText.toList.contains '.' = true := by
      rw [Ipv4.toList_toText]
      simp [Ipv4.parts, Ipv4.octets, List.intercalate_cons_cons]
    rw [Ipv6.numbers?, if_pos ⟨rfl, point⟩, Ipv4.ofDotted?_toText, Option.map_some]
  | @piece part n parts ns head tail ih =>
    cases tail with
    | nil => exact numbers?_of_forall₂ true (.cons head .nil)
    | dotted b =>
      rw [Ipv6.numbers?, piece?_eq_some_iff.mpr head, ih]
      · rfl
      · exact nofun
    | piece head' tail' =>
      rw [Ipv6.numbers?, piece?_eq_some_iff.mpr head, ih]
      · rfl
      · exact nofun

theorem Numbers.of_forall₂ {parts : List (List Char)} {ns : List Nat}
    (h : List.Forall₂ IsPiece parts ns) : Numbers parts ns := by
  induction h with
  | nil => exact .nil
  | cons head _ ih => exact .piece head ih

/-- The signs of an address of version 6. -/
def IsSign (c : Char) : Prop := c = ':' ∨ c = '.' ∨ (Hex.digitValue? c).isSome = true

/-- No part is empty or has a colon. -/
theorem Numbers.sound {parts : List (List Char)} {ns : List Nat} (h : Numbers parts ns)
    {part : List Char} (hp : part ∈ parts) :
    part ≠ [] ∧ ∀ c ∈ part, c = '.' ∨ (Hex.digitValue? c).isSome = true := by
  rcases h.mem hp with ⟨b, rfl⟩ | ⟨n, piece⟩
  · constructor
    · rw [Ipv4.toList_toText]
      simp [Ipv4.parts, Ipv4.octets, List.intercalate_cons_cons]
    · intro c hc
      exact (Ipv4.sign_of_mem_toText hc).imp_right Hex.isSome_of_isDigit
  · exact ⟨piece.ne_nil, fun c hc => .inr (piece.isDigit hc)⟩

theorem Numbers.colon_not_mem {parts : List (List Char)} {ns : List Nat} (h : Numbers parts ns) :
    ∀ part ∈ parts, ':' ∉ part := by
  intro part hp colon
  rcases (h.sound hp).2 ':' colon with point | digit
  · cases point
  · cases digit

/-- The parts of a text that is put together of them: the empty text has an empty part. -/
def outer (parts : List (List Char)) : List (List Char) := if parts = [] then [[]] else parts

theorem splitAtChar_parts {parts : List (List Char)} (free : ∀ p ∈ parts, ':' ∉ p) :
    splitAtChar ':' (List.intercalate [':'] parts) = outer parts := by
  rw [outer]
  split
  · subst parts
    rfl
  · rename_i some
    exact splitAtChar_intercalate free some

theorem reverse_outer (parts : List (List Char)) : (outer parts).reverse = outer parts.reverse := by
  cases parts with
  | nil => rfl
  | cons part parts => simp [outer]

theorem dropOuter_append {parts : List (List Char)} (full : ∀ p ∈ parts, p ≠ [])
    (rest : List (List Char)) :
    dropOuter (outer parts ++ [] :: rest) = some (parts ++ [] :: rest) := by
  cases parts with
  | nil => rfl
  | cons part parts =>
    cases part with
    | nil => exact absurd rfl (full [] List.mem_cons_self)
    | cons c part => rfl

theorem dropOuter_of_full {parts : List (List Char)} (full : ∀ p ∈ parts, p ≠ []) :
    dropOuter parts = some parts := by
  cases parts with
  | nil => rfl
  | cons part parts =>
    cases part with
    | nil => exact absurd rfl (full [] List.mem_cons_self)
    | cons c part => rfl

theorem parse?_shortened {before after : List (List Char)} {first last : List Nat}
    (read : List.Forall₂ IsPiece before first) (read' : Numbers after last)
    (short : first.length + last.length ≤ 7) :
    parse? (List.intercalate [':'] before ++ ':' :: ':' :: List.intercalate [':'] after) =
      some (ofPieces
        (first ++ List.replicate (8 - (first.length + last.length)) 0 ++ last)) := by
  have full : ∀ p ∈ before, p ≠ [] := fun p hp => ((Numbers.of_forall₂ read).sound hp).1
  have split : splitAtChar ':'
      (List.intercalate [':'] before ++ ':' :: ':' :: List.intercalate [':'] after) =
        outer before ++ [] :: outer after := by
    rw [splitAtChar_append_separator, splitAtChar, if_pos rfl,
      splitAtChar_parts (Numbers.of_forall₂ read).colon_not_mem,
      splitAtChar_parts read'.colon_not_mem]
  have front : dropOuter (outer before ++ [] :: outer after) =
      some (before ++ [] :: outer after) :=
    dropOuter_append full _
  have back : dropOuter (before ++ [] :: outer after).reverse =
      some (after.reverse ++ [] :: before.reverse) := by
    rw [List.reverse_append, List.reverse_cons, List.append_assoc, List.singleton_append,
      reverse_outer]
    exact dropOuter_append (fun p hp => (read'.sound (List.mem_reverse.mp hp)).1) _
  have order : (after.reverse ++ [] :: before.reverse).reverse = before ++ [] :: after := by simp
  have span : (before ++ [] :: after).span (· ≠ []) = (before, [] :: after) :=
    span_append_cons (fun p hp => by simpa using full p hp) (by simp) after
  rw [parse?, split, front]
  simp only [Option.bind_eq_bind, Option.bind_some, back, order, span,
    numbers?_of_forall₂ false read, read'.numbers?, if_pos short]

theorem parse?_whole {parts : List (List Char)} {ns : List Nat} (read : Numbers parts ns)
    (eight : ns.length = 8) :
    parse? (List.intercalate [':'] parts) = some (ofPieces ns) := by
  have full : ∀ p ∈ parts, p ≠ [] := fun p hp => (read.sound hp).1
  have some' : parts ≠ [] := by
    rintro rfl
    cases read
    cases eight
  have span : parts.span (· ≠ []) = (parts, []) :=
    span_of_all fun p hp => by simpa using full p hp
  rw [parse?, splitAtChar_intercalate read.colon_not_mem some', dropOuter_of_full full]
  simp only [Option.bind_eq_bind, Option.bind_some,
    dropOuter_of_full fun p hp => full p (List.mem_reverse.mp hp), List.reverse_reverse, span,
    read.numbers?, if_pos eight]

/-- Every text of an address is read as the address. -/
theorem Spells.parse? {a : Ipv6} {cs : List Char} (h : a.Spells cs) : parse? cs = some a := by
  cases h with
  | whole read eight value => rw [parse?_whole read eight, value]
  | shortened read read' short value => rw [parse?_shortened read read' short, value]

theorem Numbers.signs {parts : List (List Char)} {ns : List Nat} (h : Numbers parts ns) {c : Char}
    (hc : c ∈ List.intercalate [':'] parts) : IsSign c := by
  rcases mem_intercalate hc with colon | ⟨part, hp, hc⟩
  · exact .inl colon
  · exact .inr ((h.sound hp).2 c hc)

theorem Spells.signs {a : Ipv6} {cs : List Char} (h : a.Spells cs) {c : Char} (hc : c ∈ cs) :
    IsSign c := by
  cases h with
  | whole read => exact read.signs hc
  | shortened read read' =>
    simp only [List.mem_append, List.mem_cons] at hc
    rcases hc with before | colon | colon | after
    · exact (Numbers.of_forall₂ read).signs before
    · exact .inl colon
    · exact .inl colon
    · exact read'.signs after

theorem zeros_le (ps : List Nat) : zeros ps ≤ ps.length := by
  exact (List.takeWhile_prefix _).length_le

theorem take_zeros (ps : List Nat) : ps.take (zeros ps) = List.replicate (zeros ps) 0 := by
  rw [zeros, ← List.prefix_iff_eq_take.mp (List.takeWhile_prefix _)]
  refine List.eq_replicate_iff.mpr ⟨rfl, fun p hp => ?_⟩
  simpa using List.mem_takeWhile_imp hp

/-- The run that is found is one of the text, unless the one before is kept. -/
theorem longestZeros_cases (ps : List Nat) (place : Nat) (best : Nat × Nat) :
    longestZeros place best ps = best ∨
      ∃ i, longestZeros place best ps = (place + i, zeros (ps.drop i)) := by
  induction ps generalizing place best with
  | nil => exact .inl rfl
  | cons p ps ih =>
    rw [longestZeros]
    rcases ih (place + 1) (if best.2 < zeros (p :: ps) then (place, zeros (p :: ps)) else best)
      with kept | ⟨i, later⟩
    · rw [kept]
      split
      · exact .inr ⟨0, rfl⟩
      · exact .inl rfl
    · refine .inr ⟨i + 1, ?_⟩
      rw [later, List.drop_succ_cons, Nat.add_assoc, Nat.add_comm 1 i]

theorem forall₂_ofNat {ps : List Nat} (bound : ∀ p ∈ ps, p < 65536) :
    List.Forall₂ IsPiece (ps.map fun p => (Hex.ofNat p).toList) ps := by
  induction ps with
  | nil => exact .nil
  | cons p ps ih =>
    exact .cons (isPiece_ofNat (bound p List.mem_cons_self))
      (ih fun q hq => bound q (List.mem_cons_of_mem p hq))

theorem lt_of_mem_pieces {a : Ipv6} {p : Nat} (h : p ∈ a.pieces) : p < 65536 := by
  obtain ⟨i, -, rfl⟩ := List.mem_map.mp h
  exact Nat.mod_lt _ (by decide)

theorem ofPieces_pieces (a : Ipv6) : ofPieces a.pieces = a := by
  have bound := a.value.isLt
  have eight : List.range 8 = [0, 1, 2, 3, 4, 5, 6, 7] := rfl
  refine congrArg mk (BitVec.eq_of_toNat_eq ?_)
  simp only [pieces, eight, List.map_cons, List.map_nil, List.foldl_cons, List.foldl_nil,
    Nat.shiftRight_eq_div_pow, BitVec.toNat_ofNat, Nat.reduceMul, Nat.reduceSub, Nat.reducePow]
  omega

theorem toList_joinPieces (ps : List Nat) : (joinPieces ps).toList =
    List.intercalate [':'] (ps.map fun p => (Hex.ofNat p).toList) := by
  rw [joinPieces, String.toList_intercalate, List.map_map]
  rfl

/-- The usual text of an address is one of its texts. -/
theorem spells_toText (a : Ipv6) : a.Spells a.toText.toList := by
  have bound : ∀ p ∈ a.pieces, p < 65536 := fun p => lt_of_mem_pieces
  have eight : a.pieces.length = 8 := rfl
  rw [toText]
  rcases found : longestZeros 0 (0, 0) a.pieces with ⟨place, length⟩
  by_cases short : length < 2
  · simp only [short, if_true, toList_joinPieces]
    exact .whole (.of_forall₂ (forall₂_ofNat bound)) eight a.ofPieces_pieces
  · simp only [short, if_false, String.toList_append, toList_joinPieces]
    obtain ⟨run, within⟩ : (a.pieces.drop place).take length = List.replicate length 0 ∧
        place + length ≤ 8 := by
      rcases longestZeros_cases a.pieces 0 (0, 0) with none | ⟨i, some⟩
      · rw [found] at none
        cases none
        omega
      · rw [found] at some
        cases some
        have := zeros_le (a.pieces.drop i)
        rw [Nat.zero_add]
        refine ⟨take_zeros _, ?_⟩
        rw [List.length_drop] at this
        omega
    have known : (a.pieces.take place).length + (a.pieces.drop (place + length)).length =
        8 - length := by
      rw [List.length_take, List.length_drop, eight]
      omega
    have whole : a.pieces.take place ++ List.replicate length 0 ++
        a.pieces.drop (place + length) = a.pieces := by
      rw [← run, ← List.drop_drop, List.append_assoc, List.take_append_drop,
        List.take_append_drop]
    have gap : 8 - (8 - length) = length := by omega
    rw [List.append_assoc]
    refine .shortened (forall₂_ofNat fun p hp => bound p (List.mem_of_mem_take hp))
      (.of_forall₂ (forall₂_ofNat fun p hp => bound p (List.mem_of_mem_drop hp))) ?_ ?_
    · omega
    · rw [known, gap, whole, ofPieces_pieces]

end Ipv6

namespace IpAddress

theorem mapM_of_mem {α β : Type} {f : α → Option β} {xs : List α} {x : α} (h : x ∈ xs)
    (none' : f x = none) : xs.mapM f = none := by
  induction xs with
  | nil => cases h
  | cons y ys ih =>
    rw [List.mapM_cons]
    rcases List.mem_cons.mp h with rfl | later
    · rw [none']
      rfl
    · cases f y with
      | none => rfl
      | some b => exact congrArg (fun rest => rest >>= fun bs => some (b :: bs)) (ih later)

/-- A text with a colon is no address of version 4. -/
theorem ofDotted?_of_colon {cs : List Char} (h : ':' ∈ cs) : Ipv4.ofDotted? cs = none := by
  rw [← intercalate_splitAtChar '.' cs] at h
  rcases mem_intercalate h with point | ⟨part, hp, hc⟩
  · cases point
  · have other : ¬(part.all Text.isDigit = true) := fun all => by
      cases List.all_eq_true.mp all ':' hc
    have unread : Ipv4.octet? part = none := if_neg fun h => other h.2.1
    rw [Ipv4.ofDotted?, mapM_of_mem hp unread]
    rfl

theorem colon_mem_toText (a : Ipv6) : ':' ∈ a.toText.toList := by
  simp only [Ipv6.toText]
  split
  · rw [Ipv6.toList_joinPieces]
    simp [Ipv6.pieces, List.range_succ, List.intercalate_cons_cons]
  · simp

/-- The usual text of an address is read back. -/
theorem parse?_toText (a : IpAddress) : parse? a.toText = some a := by
  cases a with
  | v4 a => rw [parse?, toText, Ipv4.ofDotted?_toText, Option.map_some, Option.some_or]
  | v6 a =>
    rw [parse?, toText, ofDotted?_of_colon (colon_mem_toText a), a.spells_toText.parse?]
    rfl

end IpAddress

namespace Host

/-- The text of the host as it is looked up: without brackets around it. -/
def bare (h : Host) : List Char :=
  ((h.text.dropWhile (· == '[')).reverse.dropWhile (· == ']')).reverse

theorem dropWhile_of_not_mem {c : Char} {cs : List Char} (h : c ∉ cs) :
    cs.dropWhile (· == c) = cs := by
  refine dropWhile_of_stops fun d hd => ?_
  rw [beq_eq_false_iff_ne]
  rintro rfl
  exact h (List.mem_of_mem_head? hd)

/-- The text of an address has no brackets but those around it. -/
theorem bare_ip (a : IpAddress) : (ip a).bare = a.toText.toList := by
  cases a with
  | v4 a =>
    have opening : '[' ∉ a.toText.toList := by
      intro h
      rcases Ipv4.sign_of_mem_toText h with h | h <;> cases h
    have closing : ']' ∉ a.toText.toList.reverse := by
      intro h
      rcases Ipv4.sign_of_mem_toText (List.mem_reverse.mp h) with h | h <;> cases h
    rw [bare, text, dropWhile_of_not_mem opening, dropWhile_of_not_mem closing,
      List.reverse_reverse, IpAddress.toText]
  | v6 a =>
    have opening : '[' ∉ a.toText.toList ++ [']'] := by
      intro h
      rcases List.mem_append.mp h with h | h
      · rcases a.spells_toText.signs h with h | h | h <;> cases h
      · cases List.mem_singleton.mp h
    have closing : ']' ∉ a.toText.toList.reverse := by
      intro h
      rcases a.spells_toText.signs (List.mem_reverse.mp h) with h | h | h <;> cases h
    have outer : (']' :: a.toText.toList.reverse).dropWhile (· == ']') = a.toText.toList.reverse :=
      (List.dropWhile_cons_of_pos rfl).trans (dropWhile_of_not_mem closing)
    rw [bare, text, List.cons_append, List.dropWhile_cons_of_pos rfl, dropWhile_of_not_mem opening,
      List.reverse_append, List.reverse_singleton, List.singleton_append, outer,
      List.reverse_reverse, IpAddress.toText]

/-- What is looked up for an address is the address. -/
theorem parse?_bare (a : IpAddress) : IpAddress.parse? (String.ofList (ip a).bare) = some a := by
  rw [bare_ip, String.ofList_toList, IpAddress.parse?_toText]

end Host

end PlayerRegistry
