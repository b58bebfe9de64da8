import PlayerRegistry.Regex.Pattern

/-!
# What a pattern matches

The places where matches can end are found exactly: each place that is found ends a match, and no
match ends elsewhere. A repetition need not be tried more often than the text is long, since a part
that matches nothing may as well be left out.
-/

namespace PlayerRegistry.Regex

/-- No repetition in the pattern has a smallest number beyond its greatest. -/
def Pattern.Ordered : Pattern → Prop
  | .seq p q => p.Ordered ∧ q.Ordered
  | .alt p q => p.Ordered ∧ q.Ordered
  | .repetition min max p => (∀ m, max = some m → min ≤ m) ∧ p.Ordered
  | _ => True

theorem Matches.le {text : List Char} {p : Pattern} {i j : Nat} (h : Matches text p i j) :
    i ≤ j ∧ j ≤ text.length := by
  induction h with
  | empty inside => exact ⟨Nat.le_refl _, inside⟩
  | chars found _ =>
    have := (List.getElem?_eq_some_iff.mp found).1
    omega
  | look inside _ => exact ⟨Nat.le_refl _, inside⟩
  | seq _ _ first second => omega
  | altLeft _ ih => exact ih
  | altRight _ ih => exact ih
  | stop inside => exact ⟨Nat.le_refl _, inside⟩
  | again _ _ _ first second => omega

/-- From one place to another in a number of matches. -/
def Reaches (text : List Char) (p : Pattern) : Nat → Nat → Nat → Prop
  | 0, i, j => i = j
  | n + 1, i, j => ∃ k, Matches text p i k ∧ Reaches text p n k j

variable {text : List Char} {p : Pattern}

theorem Reaches.le {n i j : Nat} (h : Reaches text p n i j) :
    i ≤ j ∧ (i ≤ text.length → j ≤ text.length) := by
  induction n generalizing i with
  | zero =>
    obtain rfl : i = j := h
    exact ⟨Nat.le_refl _, id⟩
  | succ n ih =>
    obtain ⟨k, first, rest⟩ := h
    have bounds := first.le
    have := ih rest
    exact ⟨by omega, fun _ => this.2 bounds.2⟩

theorem reaches_add {m n i j : Nat} :
    Reaches text p (m + n) i j ↔ ∃ k, Reaches text p m i k ∧ Reaches text p n k j := by
  induction m generalizing i with
  | zero => simp [Reaches]
  | succ m ih =>
    rw [Nat.add_right_comm]
    simp only [Reaches, ih]
    constructor
    · rintro ⟨k, first, l, middle, last⟩
      exact ⟨l, ⟨k, first, middle⟩, last⟩
    · rintro ⟨l, ⟨k, first, middle⟩, last⟩
      exact ⟨k, first, l, middle, last⟩

/-- Matches of nothing can be left out. -/
theorem Reaches.shorten {n i j : Nat} (h : Reaches text p n i j) :
    ∃ m ≤ n, m ≤ j - i ∧ Reaches text p m i j := by
  induction n generalizing i with
  | zero => exact ⟨0, Nat.le_refl _, Nat.zero_le _, h⟩
  | succ n ih =>
    obtain ⟨k, first, rest⟩ := h
    obtain ⟨m, fewer, short, reaches⟩ := ih rest
    have ahead := first.le.1
    have := rest.le.1
    by_cases still : k = i
    · subst still
      exact ⟨m, by omega, short, reaches⟩
    · exact ⟨m + 1, by omega, by omega, k, first, reaches⟩

theorem matches_repetition_iff {min : Nat} {max : Option Nat} {i j : Nat} :
    Matches text (.repetition min max p) i j ↔
      i ≤ text.length ∧ ∃ n, min ≤ n ∧ (∀ m, max = some m → n ≤ m) ∧ Reaches text p n i j := by
  constructor
  · intro h
    generalize eq : Pattern.repetition min max p = q at h
    induction h generalizing min max with
    | stop inside =>
      cases eq
      exact ⟨inside, 0, Nat.le_refl _, fun _ _ => Nat.zero_le _, rfl⟩
    | again more first _ _ ih =>
      cases eq
      obtain ⟨-, n, atLeast, atMost, reaches⟩ := ih rfl
      have bounds := first.le
      refine ⟨by omega, n + 1, by omega, ?_, _, first, reaches⟩
      rintro m rfl
      have := atMost (m - 1) rfl
      have : m ≠ 0 := fun zero => more (congrArg some zero)
      omega
    | _ => cases eq
  · rintro ⟨inside, n, atLeast, atMost, reaches⟩
    induction n generalizing min max i with
    | zero =>
      obtain rfl : i = j := reaches
      obtain rfl : min = 0 := by omega
      exact .stop inside
    | succ n ih =>
      obtain ⟨k, first, rest⟩ := reaches
      have more : max ≠ some 0 := by
        rintro rfl
        exact absurd (atMost 0 rfl) (by omega)
      refine .again more first (ih first.le.2 (by omega) ?_ rest)
      intro m hm
      obtain ⟨m', rfl, rfl⟩ := Option.map_eq_some_iff.mp hm
      have := atMost m' rfl
      omega

theorem mem_joinPlaces {a b : List Nat} {i : Nat} : i ∈ joinPlaces a b ↔ i ∈ a ∨ i ∈ b := by
  by_cases h : i ∈ a
  · simp [joinPlaces, h]
  · simp [joinPlaces, h]

/-- Places within the text. -/
def Inside (text : List Char) (places : List Nat) : Prop := ∀ i ∈ places, i ≤ text.length

/-- From places within the text, `f` finds the places where matches end. -/
def Finds (text : List Char) (p : Pattern) (f : List Nat → List Nat) : Prop :=
  ∀ places, Inside text places → ∀ j, j ∈ f places ↔ ∃ i ∈ places, Matches text p i j

variable {f : List Nat → List Nat}

theorem Finds.inside (h : Finds text p f) {places : List Nat} (inside : Inside text places) :
    Inside text (f places) := by
  intro j hj
  obtain ⟨i, -, found⟩ := (h places inside j).mp hj
  exact found.le.2

theorem mem_times (h : Finds text p f) {n : Nat} {places : List Nat}
    (inside : Inside text places) {j : Nat} :
    j ∈ times f n places ↔ ∃ i ∈ places, Reaches text p n i j := by
  induction n generalizing places with
  | zero => simp [times, Reaches]
  | succ n ih =>
    rw [times]
    cases places with
    | nil => simp
    | cons k places =>
      rw [if_neg (by simp), ih (h.inside inside)]
      simp only [h _ inside, Reaches]
      constructor
      · rintro ⟨l, ⟨i, hi, first⟩, rest⟩
        exact ⟨i, hi, l, first, rest⟩
      · rintro ⟨i, hi, l, first, rest⟩
        exact ⟨l, ⟨i, hi, first⟩, rest⟩

theorem mem_upTo (h : Finds text p f) {n : Nat} {places : List Nat}
    (inside : Inside text places) {j : Nat} :
    j ∈ upTo f n places ↔ ∃ m ≤ n, ∃ i ∈ places, Reaches text p m i j := by
  induction n generalizing places with
  | zero => simp [upTo, Reaches]
  | succ n ih =>
    have joined : Inside text (joinPlaces places (f places)) := by
      intro i hi
      rcases mem_joinPlaces.mp hi with hi | hi
      · exact inside i hi
      · exact h.inside inside i hi
    rw [upTo, ih joined]
    simp only [mem_joinPlaces, h _ inside]
    constructor
    · rintro ⟨m, hm, l, hl | ⟨i, hi, first⟩, rest⟩
      · exact ⟨m, by omega, l, hl, rest⟩
      · exact ⟨m + 1, by omega, i, hi, l, first, rest⟩
    · rintro ⟨m, hm, i, hi, reaches⟩
      cases m with
      | zero => exact ⟨0, Nat.zero_le _, i, .inl hi, reaches⟩
      | succ m =>
        obtain ⟨l, first, rest⟩ := reaches
        exact ⟨m, by omega, l, .inr ⟨i, hi, first⟩, rest⟩

theorem finds_repetition {min : Nat} {max : Option Nat} (ordered : ∀ m, max = some m → min ≤ m)
    (h : Finds text p (ends text.toArray p)) :
    Finds text (.repetition min max p) (ends text.toArray (.repetition min max p)) := by
  intro places inside j
  have reached : Inside text (times (ends text.toArray p) min places) := by
    intro k hk
    obtain ⟨i, hi, reaches⟩ := (mem_times h inside).mp hk
    exact reaches.le.2 (inside i hi)
  simp only [ends]
  rw [mem_upTo h reached]
  simp only [mem_times h inside, matches_repetition_iff]
  constructor
  · rintro ⟨n, few, k, ⟨i, hi, first⟩, rest⟩
    refine ⟨i, hi, inside i hi, min + n, by omega, ?_, reaches_add.mpr ⟨k, first, rest⟩⟩
    rintro m rfl
    have := ordered m rfl
    have : n ≤ m - min := Nat.le_trans few (Nat.min_le_left _ _)
    omega
  · rintro ⟨i, hi, -, n, atLeast, atMost, reaches⟩
    obtain ⟨d, rfl⟩ := Nat.exists_eq_add_of_le atLeast
    obtain ⟨k, first, rest⟩ := reaches_add.mp reaches
    obtain ⟨d', fewer, short, rest⟩ := rest.shorten
    have := (first.le.2 (inside i hi))
    have := rest.le.2 this
    refine ⟨d', ?_, k, ⟨i, hi, first⟩, rest⟩
    cases max with
    | none =>
      simp only [List.size_toArray]
      omega
    | some m =>
      have := atMost m rfl
      simp only [List.size_toArray]
      exact Nat.le_min.mpr ⟨by omega, by omega⟩

/-- The search finds a place exactly if a match ends there. -/
theorem finds_ends {p : Pattern} (ordered : p.Ordered) : Finds text p (ends text.toArray p) := by
  induction p with
  | empty =>
    intro places inside j
    constructor
    · intro hj
      exact ⟨j, hj, .empty (inside j hj)⟩
    · rintro ⟨i, hi, h⟩
      cases h
      exact hi
  | chars set =>
    intro places inside j
    simp only [ends, List.mem_map, List.mem_filter, List.getElem?_toArray, Option.any_eq_true]
    constructor
    · rintro ⟨i, ⟨hi, c, found, contained⟩, rfl⟩
      exact ⟨i, hi, .chars found contained⟩
    · rintro ⟨i, hi, h⟩
      cases h with
      | chars found contained => exact ⟨i, ⟨hi, _, found, contained⟩, rfl⟩
  | look l =>
    intro places inside j
    simp only [ends, List.mem_filter, List.getElem?_toArray]
    constructor
    · rintro ⟨hj, holds⟩
      exact ⟨j, hj, .look (inside j hj) holds⟩
    · rintro ⟨i, hi, h⟩
      cases h with
      | look _ holds => exact ⟨hi, holds⟩
  | seq p q ihp ihq =>
    intro places inside j
    rw [ends, ihq ordered.2 _ ((ihp ordered.1).inside inside)]
    simp only [ihp ordered.1 _ inside]
    constructor
    · rintro ⟨k, ⟨i, hi, first⟩, second⟩
      exact ⟨i, hi, .seq first second⟩
    · rintro ⟨i, hi, h⟩
      cases h with
      | seq first second => exact ⟨_, ⟨i, hi, first⟩, second⟩
  | alt p q ihp ihq =>
    intro places inside j
    rw [ends, mem_joinPlaces, ihp ordered.1 _ inside, ihq ordered.2 _ inside]
    constructor
    · rintro (⟨i, hi, h⟩ | ⟨i, hi, h⟩)
      · exact ⟨i, hi, .altLeft h⟩
      · exact ⟨i, hi, .altRight h⟩
    · rintro ⟨i, hi, h⟩
      cases h with
      | altLeft h => exact .inl ⟨i, hi, h⟩
      | altRight h => exact .inr ⟨i, hi, h⟩
  | repetition min max p ih => exact finds_repetition ordered.1 (ih ordered.2)

theorem occursIn_iff {p : Pattern} (ordered : p.Ordered) (text : List Char) :
    p.occursIn text = true ↔ ∃ i j, Matches text p i j := by
  have inside : Inside text (List.range (text.length + 1)) := by
    intro i hi
    have := List.mem_range.mp hi
    omega
  rw [Pattern.occursIn, Bool.not_eq_true', List.isEmpty_eq_false_iff_exists_mem]
  simp only [finds_ends ordered _ inside, List.mem_range]
  constructor
  · rintro ⟨j, i, -, h⟩
    exact ⟨i, j, h⟩
  · rintro ⟨i, j, h⟩
    have := h.le
    exact ⟨j, i, by omega, h⟩

theorem covers_iff {p : Pattern} (ordered : p.Ordered) (text : List Char) :
    p.covers text = true ↔ Matches text p 0 text.length := by
  have inside : Inside text [0] := by
    intro i hi
    rw [List.mem_singleton.mp hi]
    exact Nat.zero_le _
  rw [Pattern.covers, List.contains_iff_mem, finds_ends ordered _ inside]
  simp

end PlayerRegistry.Regex
