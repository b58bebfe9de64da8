import PlayerRegistry.Proofs.PatternOrder
import PlayerRegistry.Proofs.PatternReading

/-!
# Anchored patterns

A pattern that is put in a group between two anchors is the pattern that it is on its own, between
the two places where the text begins and ends. So it occurs in a text exactly if the pattern alone
matches the whole of it.
-/

namespace PlayerRegistry.Regex

theorem skip_closing (x : Bool) : skip x closing = closing := by
  cases x with
  | true => rfl
  | false => rfl

theorem Continues.skip_rest {rest : List Char} (h : Continues [] rest) (x : Bool) :
    Regex.skip x rest = rest := by
  rcases h.nil_cases with rfl | rfl
  · exact skip_closing x
  · cases x with
    | true => rfl
    | false => rfl

namespace Reading

/-- The reading inside of more levels. -/
def beneath (r : Reading) (outer : List (Level × FlagChanges)) : Reading :=
  { r with outer := r.outer ++ outer }

variable {r r' : Reading}

theorem add?_beneath {item : Item} (h : r.add? item = some r')
    (outer : List (Level × FlagChanges)) :
    (r.beneath outer).add? item = some (r'.beneath outer) := by
  cases item with
  | atom a =>
    cases h
    rfl
  | repetition min max =>
    obtain ⟨level, repeated, rfl⟩ := Option.map_eq_some_iff.mp h
    exact Option.map_eq_some_iff.mpr ⟨level, repeated, rfl⟩
  | bar =>
    cases h
    rfl
  | close =>
    obtain ⟨current, own, names⟩ := r
    rcases own with _ | ⟨⟨level, changes⟩, own⟩
    · cases h
    · cases h
      rfl
  | opening changes name =>
    cases name with
    | none =>
      cases h
      rfl
    | some name =>
      simp only [add?] at h
      split at h
      · cases h
      · rename_i new
        cases h
        exact if_neg new
  | flags changes =>
    cases h
    rfl

/-- Inside of any levels, a pattern is read to its end as it is read alone. Then the closing is left
to read, or nothing is if a comment has swallowed it. -/
theorem addAllFrom?_continues {fuel : Nat} {cs cs' : List Char}
    (alone : addAllFrom? fuel r cs = some r') (cont : Continues cs cs') :
    ∃ k rest, Continues [] rest ∧ ∀ more outer, addAllFrom? (fuel + more) (r.beneath outer) cs' =
      addAllFrom? (k + more) (r'.beneath outer) rest := by
  induction fuel generalizing r cs cs' with
  | zero =>
    rcases cs with _ | ⟨c, cs⟩
    · cases alone
      exact ⟨0, cs', cont, fun _ _ => rfl⟩
    · cases alone
  | succ fuel ih =>
    have skipped := cont.skip r.current.x
    have same : ∀ outer, (r.beneath outer).current = r.current := fun _ => rfl
    rw [addAllFrom?] at alone
    generalize skip r.current.x cs = ds at alone skipped
    generalize ahead : skip r.current.x cs' = ds' at skipped
    rcases ds with _ | ⟨c, ds⟩
    · cases alone
      refine ⟨fuel + 1, ds', skipped, fun more outer => ?_⟩
      rw [Nat.add_right_comm, addAllFrom?, addAllFrom?, same, ahead, skipped.skip_rest]
    · obtain rfl := skipped.cons
      obtain ⟨⟨item, rest⟩, read, added⟩ := Option.bind_eq_some_iff.mp alone
      obtain ⟨r₁, add, goesOn⟩ := Option.bind_eq_some_iff.mp added
      obtain ⟨rest', read', cont⟩ := item?_agree _ _ _ (.closed (c :: ds)) read
      obtain ⟨k, left, ends, goesOn'⟩ := ih goesOn cont
      refine ⟨k, left, ends, fun more outer => ?_⟩
      rw [Nat.add_right_comm, addAllFrom?, same, ahead, ← goesOn' more outer]
      change (item? r.current.x (c :: ds ++ closing)).bind _ = _
      rw [read']
      change ((r.beneath outer).add? item).bind _ = _
      rw [add?_beneath add]
      rfl

end Reading

def startAnchor : Ast := .primitive (.boundary .startLine)

def endAnchor : Ast := .primitive (.boundary .endLine)

/-- The tree of a pattern in a group between the anchors. -/
def Ast.anchored (a : Ast) : Ast := .concat [startAnchor, .group [] a, endAnchor]

/-- The level around the group. -/
def opened : Level × FlagChanges := (⟨[], [startAnchor], false⟩, [])

namespace Reading

theorem addAllFrom?_nil (k : Nat) (r : Reading) : addAllFrom? k r [] = some r := by
  cases k with
  | zero => rfl
  | succ k => rw [addAllFrom?, Continues.swallowed.skip_rest]

/-- The closing ends the group. -/
theorem addAllFrom?_closing (k : Nat) {r : Reading} (closed : r.outer = []) :
    addAllFrom? (k + 3) (r.beneath [opened]) closing =
      some ⟨⟨[], [startAnchor, .group [] r.current.toAst, endAnchor], false⟩, [], r.names⟩ := by
  obtain ⟨current, outer, names⟩ := r
  obtain rfl : outer = [] := closed
  rw [addAllFrom?, skip_closing]
  rfl

/-- Where no group is open, there is nothing for the closing to end. -/
theorem addAllFrom?_unopened (k : Nat) {r : Reading} (closed : r.outer = []) :
    addAllFrom? (k + 1) r closing = none := by
  obtain ⟨current, outer, names⟩ := r
  obtain rfl : outer = [] := closed
  rw [addAllFrom?, skip_closing]
  rfl

end Reading

/-- Either a comment at the end of a pattern swallows the closing, so that the pattern is the same
with it and the group is never closed; or the closing alone is malformed, and between the anchors
the tree of the pattern is a group of its own. -/
theorem parse?_anchored_cases {cs : List Char} {a : Ast} (alone : parse? cs = some a) :
    (parse? (cs ++ closing) = some a ∧
      parse? ('^' :: '(' :: '?' :: ':' :: (cs ++ closing)) = none) ∨
    (parse? (cs ++ closing) = none ∧ parse? ('^' :: '(' :: '?' :: ':' :: (cs ++ closing)) =
      if nestLimit < a.depth + 2 then none else some a.anchored) := by
  obtain ⟨r, added, finished⟩ := Option.bind_eq_some_iff.mp alone
  obtain ⟨k, rest, ends, continues⟩ := Reading.addAllFrom?_continues added (.closed cs)
  have closed := (Reading.finish?_eq_some finished).1
  have after : Reading.start.addAll? (cs ++ closing) = Reading.addAllFrom? (k + 2) r rest := by
    have alike := continues 2 []
    simp only [Reading.beneath, List.append_nil] at alike
    rw [Reading.addAll?, List.length_append]
    exact alike
  have inside : Reading.start.addAll? ('^' :: '(' :: '?' :: ':' :: (cs ++ closing)) =
      Reading.addAllFrom? (k + 4) (r.beneath [opened]) rest := by
    rw [Reading.addAll?, List.length_cons, List.length_cons, List.length_cons, List.length_cons,
      List.length_append]
    exact continues 4 [opened]
  rw [parse?, parse?, after, inside]
  rcases ends.nil_cases with rfl | rfl
  · right
    rw [Reading.addAllFrom?_unopened (k + 1) closed, Reading.addAllFrom?_closing (k + 1) closed]
    refine ⟨rfl, ?_⟩
    obtain rfl := (Reading.finish?_eq_some finished).2
    have depth : (Ast.anchored r.current.toAst).depth = r.current.toAst.depth + 2 := by
      simp [Ast.anchored, Ast.depth, Ast.depthOf, startAnchor, endAnchor]
      omega
    rw [← depth]
    rfl
  · left
    rw [Reading.addAllFrom?_nil, Reading.addAllFrom?_nil]
    exact ⟨finished, by simp [Reading.finish?, Reading.beneath]⟩

/-- A pattern between two anchors. -/
def Pattern.anchored (p : Pattern) : Pattern :=
  .seq (.look .startText) (.seq p (.seq (.look .endText) .empty))

theorem pattern?_anchored {a : Ast} {p : Pattern} {f : Flags} (made : pattern? {} a = some (p, f)) :
    pattern? {} a.anchored = some (p.anchored, {}) := by
  simp [Ast.anchored, pattern?, concatPattern?, startAnchor, endAnchor, primitivePattern?,
    boundaryLook, Flags.apply, made, Pattern.anchored]

theorem compile?_of_parse? {cs : List Char} {a : Ast} {p : Pattern} {f : Flags}
    (parsed : parse? cs = some a) (made : pattern? {} a = some (p, f)) :
    compile? cs = if p.size ≤ sizeLimit then some p else none := by simp [compile?, parsed, made]

/-- A pattern can be put between anchors exactly if it does not end in a comment, is not nested too
deeply for that and is not too big. Then it is the pattern between the two anchors. -/
theorem compile?_anchored_iff {cs : List Char} {p : Pattern} (alone : compile? cs = some p)
    (q : Pattern) : compile? ('^' :: '(' :: '?' :: ':' :: (cs ++ closing)) = some q ↔
      q = p.anchored ∧ compile? (cs ++ closing) = none ∧
        (∃ a, parse? cs = some a ∧ a.depth + 2 ≤ nestLimit) ∧
        p.size + 3 * stateSize ≤ sizeLimit := by
  obtain ⟨a, f, parsed, made⟩ := compile?_eq_some alone
  rcases parse?_anchored_cases parsed with ⟨same, unclosed⟩ | ⟨malformed, closed⟩
  · have swallowed : compile? (cs ++ closing) = some p := by
      rw [← alone, compile?, compile?, same, parsed]
    have never : compile? ('^' :: '(' :: '?' :: ':' :: (cs ++ closing)) = none := by
      rw [compile?, unclosed]
      rfl
    simp [never, swallowed]
  · have ends : compile? (cs ++ closing) = none := by
      rw [compile?, malformed]
      rfl
    have size : p.anchored.size = p.size + 3 * stateSize := by
      simp only [Pattern.anchored, Pattern.size]
      omega
    by_cases deep : nestLimit < a.depth + 2
    · rw [if_pos deep] at closed
      have never : compile? ('^' :: '(' :: '?' :: ':' :: (cs ++ closing)) = none := by
        rw [compile?, closed]
        rfl
      have other : ¬a.depth + 2 ≤ nestLimit := by omega
      simp [never, parsed, other]
    · rw [if_neg deep] at closed
      have fits : a.depth + 2 ≤ nestLimit := by omega
      rw [compile?_of_parse? closed (pattern?_anchored made), size]
      by_cases small : p.size + 3 * stateSize ≤ sizeLimit
      · simp [small, ends, parsed, fits, eq_comm]
      · simp [small]

theorem compile?_anchored {cs : List Char} {p q : Pattern} (alone : compile? cs = some p)
    (inside : compile? ('^' :: '(' :: '?' :: ':' :: (cs ++ closing)) = some q) :
    q = p.anchored :=
  ((compile?_anchored_iff alone q).mp inside).1

theorem Pattern.Ordered.anchored {p : Pattern} (h : p.Ordered) : p.anchored.Ordered :=
  ⟨trivial, h, trivial, trivial⟩

theorem startText_iff {text : List Char} {i : Nat} (inside : i ≤ text.length) :
    Look.startText.holds (if i = 0 then none else text[i - 1]?) text[i]? = true ↔ i = 0 := by
  by_cases atStart : i = 0
  · simp [Look.holds, atStart]
  · have earlier : i - 1 < text.length := by omega
    have before : text[i - 1]? = some text[i - 1] := List.getElem?_eq_getElem earlier
    simp [Look.holds, atStart, before]

theorem endText_iff {text : List Char} {before : Option Char} {i : Nat} (inside : i ≤ text.length) :
    Look.endText.holds before text[i]? = true ↔ i = text.length := by
  have atEnd : i = text.length ↔ text.length ≤ i := by omega
  simp [Look.holds, atEnd]

/-- The anchors match at the two ends of the text and nowhere else. -/
theorem matches_anchored_iff {p : Pattern} {text : List Char} {i j : Nat} :
    Matches text p.anchored i j ↔ i = 0 ∧ j = text.length ∧ Matches text p 0 text.length := by
  constructor
  · intro h
    obtain _ | _ | _ | ⟨first, h⟩ := h
    obtain _ | _ | ⟨inside, starts⟩ := first
    obtain _ | _ | _ | ⟨inner, h⟩ := h
    obtain _ | _ | _ | ⟨last, h⟩ := h
    obtain _ | _ | ⟨inside', ends⟩ := last
    cases h
    obtain rfl := (startText_iff inside).mp starts
    obtain rfl := (endText_iff inside').mp ends
    exact ⟨rfl, rfl, inner⟩
  · rintro ⟨rfl, rfl, h⟩
    have starts : Matches text (.look .startText) 0 0 :=
      .look (Nat.zero_le _) ((startText_iff (Nat.zero_le _)).mpr rfl)
    have ends : Matches text (.look .endText) text.length text.length :=
      .look (Nat.le_refl _) ((endText_iff (Nat.le_refl _)).mpr rfl)
    exact .seq starts (.seq h (.seq ends (.empty (Nat.le_refl _))))

theorem occursIn_anchored {p : Pattern} (ordered : p.Ordered) (text : List Char) :
    p.anchored.occursIn text = true ↔ Matches text p 0 text.length := by
  rw [occursIn_iff ordered.anchored]
  simp only [matches_anchored_iff]
  constructor
  · rintro ⟨i, j, -, -, h⟩
    exact h
  · intro h
    exact ⟨0, text.length, rfl, rfl, h⟩

end PlayerRegistry.Regex
