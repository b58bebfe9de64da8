import PlayerRegistry.Proofs.PatternMatches
import PlayerRegistry.Regex.Meaning

/-!
# The bounds of repetitions

A repetition whose smallest number is beyond its greatest is refused when it is read, so that no
pattern that was compiled has one.
-/

namespace PlayerRegistry.Regex

mutual

/-- No repetition in the tree has a smallest number beyond its greatest. -/
def Ast.Ordered : Ast → Prop
  | .repetition min max body => (∀ m, max = some m → min ≤ m) ∧ body.Ordered
  | .group _ body => body.Ordered
  | .concat parts => Ast.AllOrdered parts
  | .alternation branches => Ast.AllOrdered branches
  | _ => True

def Ast.AllOrdered : List Ast → Prop
  | [] => True
  | a :: rest => a.Ordered ∧ Ast.AllOrdered rest

end

theorem Ast.allOrdered_iff {asts : List Ast} : AllOrdered asts ↔ ∀ a ∈ asts, a.Ordered := by
  induction asts with
  | nil => simp [AllOrdered]
  | cons a asts ih => simp [AllOrdered, ih]

def Item.Ordered : Item → Prop
  | .atom a => a.Ordered
  | .repetition min max => ∀ m, max = some m → min ≤ m
  | _ => True

theorem bounds?_ordered {x : Bool} {cs rest : List Char} {min : Nat} {max : Option Nat}
    (h : bounds? x cs = some ((min, max), rest)) : ∀ m, max = some m → min ≤ m := by
  unfold bounds? at h
  generalize decimal x (skip x cs) = found at h
  obtain ⟨digits, rest₁⟩ := found
  simp only at h
  split at h
  · obtain ⟨n, -, same⟩ := Option.map_eq_some_iff.mp h
    cases same
    rintro m ⟨⟩
    exact Nat.le_refl _
  · split at h
    · obtain ⟨n, -, same⟩ := Option.map_eq_some_iff.mp h
      cases same
      rintro m ⟨⟩
    · obtain ⟨lower, -, h⟩ := Option.bind_eq_some_iff.mp h
      obtain ⟨upper, -, h⟩ := Option.bind_eq_some_iff.mp h
      split at h
      · split at h
        · rename_i ordered
          cases h
          rintro m ⟨⟩
          exact ordered
        · cases h
      · cases h
  · cases h

theorem opening?_ordered {x : Bool} {cs rest : List Char} {item : Item}
    (h : opening? x cs = some (item, rest)) : item.Ordered := by
  have named : ∀ {o : Option (List Char × List Char)} {f},
      o.map f = some (item, rest) → (∀ v, (f v).1.Ordered) → item.Ordered := by
    intro o f h ordered
    obtain ⟨v, -, same⟩ := Option.map_eq_some_iff.mp h
    have := ordered v
    rwa [same] at this
  unfold opening? at h
  split at h
  · cases h
  · cases h
  · cases h
  · cases h
  · exact named h fun _ => trivial
  · exact named h fun _ => trivial
  · obtain ⟨⟨⟨changes, isGroup⟩, rest₁⟩, -, h⟩ := Option.bind_eq_some_iff.mp h
    simp only at h
    split at h
    · cases h
      trivial
    · split at h
      · cases h
      · cases h
        trivial
  · cases h
    trivial

theorem class?_ordered {x : Bool} {cs rest : List Char} {a : Ast}
    (h : class? x cs = some (a, rest)) : a.Ordered := by
  obtain ⟨_, -, h⟩ := Option.bind_eq_some_iff.mp h
  obtain ⟨_, -, h⟩ := Option.bind_eq_some_iff.mp h
  cases h
  trivial

theorem item?_ordered {x : Bool} {cs rest : List Char} {item : Item}
    (h : item? x cs = some (item, rest)) : item.Ordered := by
  rcases cs with _ | ⟨c, cs⟩
  · cases h
  simp only [item?] at h
  split at h
  · exact opening?_ordered h
  · cases h
    trivial
  · cases h
    trivial
  · obtain ⟨_, read, same⟩ := Option.map_eq_some_iff.mp h
    cases same
    exact class?_ordered read
  · cases h
    exact fun _ _ => Nat.zero_le _
  · cases h
    rintro m ⟨⟩
  · cases h
    rintro m ⟨⟩
  · obtain ⟨⟨⟨min, max⟩, rest₁⟩, read, same⟩ := Option.map_eq_some_iff.mp h
    cases same
    exact bounds?_ordered read
  · obtain ⟨_, -, same⟩ := Option.map_eq_some_iff.mp h
    cases same
    trivial
  · cases h
    trivial
  · cases h
    trivial
  · cases h
    trivial
  · cases h
    trivial

structure Level.Ordered (l : Level) : Prop where
  branches : ∀ a ∈ l.branches, a.Ordered
  parts : ∀ a ∈ l.parts, a.Ordered

theorem Ast.Ordered.ofParts {parts : List Ast} (h : ∀ a ∈ parts, a.Ordered) :
    (Ast.ofParts parts).Ordered := by
  rcases parts with _ | ⟨a, _ | ⟨b, parts⟩⟩
  · trivial
  · exact h a List.mem_cons_self
  · exact Ast.allOrdered_iff.mpr h

namespace Level.Ordered

variable {l l' : Level}

theorem start (x : Bool) : (Level.start x).Ordered where
  branches := by simp [Level.start]
  parts := by simp [Level.start]

theorem toAst (h : l.Ordered) : l.toAst.Ordered := by
  have last := Ast.Ordered.ofParts h.parts
  rw [Level.toAst]
  split
  · exact last
  · refine Ast.allOrdered_iff.mpr ?_
    intro a ha
    rcases List.mem_append.mp ha with ha | ha
    · exact h.branches a ha
    · rwa [List.mem_singleton.mp ha]

theorem push (h : l.Ordered) {a : Ast} (ha : a.Ordered) : (l.push a).Ordered where
  branches := h.branches
  parts := by
    intro b hb
    rcases List.mem_append.mp hb with hb | hb
    · exact h.parts b hb
    · rwa [List.mem_singleton.mp hb]

theorem repeat? (h : l.Ordered) {min : Nat} {max : Option Nat}
    (ordered : ∀ m, max = some m → min ≤ m) (repeated : l.repeat? min max = some l') :
    l'.Ordered := by
  unfold Level.repeat? at repeated
  split at repeated
  · cases repeated
  · cases repeated
  · cases repeated
  · rename_i a _ _ last
    cases repeated
    refine ⟨h.branches, ?_⟩
    intro b hb
    rcases List.mem_append.mp hb with hb | hb
    · exact h.parts b (List.dropLast_subset _ hb)
    · rw [List.mem_singleton.mp hb]
      exact ⟨ordered, h.parts a (List.mem_of_getLast? last)⟩

end Level.Ordered

structure Reading.Ordered (r : Reading) : Prop where
  current : r.current.Ordered
  outer : ∀ l ∈ r.outer, l.1.Ordered

namespace Reading.Ordered

variable {r r' : Reading}

theorem add? (h : r.Ordered) {item : Item} (ordered : item.Ordered)
    (added : r.add? item = some r') : r'.Ordered := by
  cases item with
  | atom a =>
    cases added
    exact ⟨h.current.push ordered, h.outer⟩
  | repetition min max =>
    obtain ⟨level, repeated, rfl⟩ := Option.map_eq_some_iff.mp added
    exact ⟨h.current.repeat? ordered repeated, h.outer⟩
  | bar =>
    cases added
    refine ⟨⟨?_, by simp⟩, h.outer⟩
    intro a ha
    rcases List.mem_append.mp ha with ha | ha
    · exact h.current.branches a ha
    · rw [List.mem_singleton.mp ha]
      exact .ofParts h.current.parts
  | close =>
    obtain ⟨current, outer, names⟩ := r
    rcases outer with _ | ⟨⟨level, changes⟩, outer⟩
    · cases added
    · cases added
      obtain ⟨around, outer⟩ := List.forall_mem_cons.mp h.outer
      exact ⟨around.push h.current.toAst, outer⟩
  | opening changes name =>
    have opened : ∀ names, Reading.Ordered ⟨.start (ignoresBlank changes r.current.x),
        (r.current, changes) :: r.outer, names⟩ :=
      fun _ => ⟨.start _, List.forall_mem_cons.mpr ⟨h.current, h.outer⟩⟩
    cases name with
    | none =>
      cases added
      exact opened _
    | some name =>
      simp only [Reading.add?] at added
      split at added
      · cases added
      · cases added
        exact opened _
  | flags changes =>
    cases added
    have pushed : (r.current.push (.flags changes)).Ordered := h.current.push trivial
    exact ⟨⟨pushed.branches, pushed.parts⟩, h.outer⟩

theorem addAllFrom? {fuel : Nat} (h : r.Ordered) {cs : List Char}
    (added : r.addAllFrom? fuel cs = some r') : r'.Ordered := by
  induction fuel generalizing r cs with
  | zero =>
    rcases cs with _ | ⟨c, cs⟩
    · cases added
      exact h
    · cases added
  | succ fuel ih =>
    rw [Reading.addAllFrom?] at added
    generalize skip r.current.x cs = ds at added
    rcases ds with _ | ⟨c, ds⟩
    · cases added
      exact h
    · obtain ⟨⟨item, rest⟩, read, added⟩ := Option.bind_eq_some_iff.mp added
      obtain ⟨r₁, add, goesOn⟩ := Option.bind_eq_some_iff.mp added
      exact ih (h.add? (item?_ordered read) add) goesOn

end Reading.Ordered

theorem Reading.finish?_eq_some {r : Reading} {a : Ast} (h : r.finish? = some a) :
    r.outer = [] ∧ r.current.toAst = a := by
  rw [Reading.finish?] at h
  split at h
  · rename_i closed
    have left : (if nestLimit < r.current.toAst.depth then none else some r.current.toAst) =
        some a := h
    split at left
    · cases left
    · exact ⟨List.isEmpty_iff.mp closed, Option.some.inj left⟩
  · cases h

theorem parse?_ordered {cs : List Char} {a : Ast} (h : parse? cs = some a) : a.Ordered := by
  obtain ⟨r, added, finished⟩ := Option.bind_eq_some_iff.mp h
  have start : Reading.start.Ordered := ⟨.start false, by simp [Reading.start]⟩
  have read := (start.addAllFrom? added).current.toAst
  obtain ⟨-, rfl⟩ := Reading.finish?_eq_some finished
  exact read

theorem dotPattern?_ordered {f : Flags} {p : Pattern} (h : dotPattern? f = some p) : p.Ordered := by
  unfold dotPattern? at h
  repeat' split at h
  all_goals cases h
  all_goals trivial

theorem primitivePattern?_ordered {f : Flags} {q : Primitive} {p : Pattern}
    (h : primitivePattern? f q = some p) : p.Ordered := by
  cases q with
  | boundary b =>
    cases h
    trivial
  | _ =>
    obtain ⟨_, -, rfl⟩ := Option.map_eq_some_iff.mp h
    trivial

mutual

theorem pattern?_ordered (f : Flags) (a : Ast) {p : Pattern} {f' : Flags} (ordered : a.Ordered)
    (h : pattern? f a = some (p, f')) : p.Ordered := by
  cases a with
  | empty =>
    cases h
    trivial
  | flags =>
    cases h
    trivial
  | dot =>
    obtain ⟨q, made, same⟩ := Option.map_eq_some_iff.mp h
    cases same
    exact dotPattern?_ordered made
  | primitive =>
    obtain ⟨q, made, same⟩ := Option.map_eq_some_iff.mp h
    cases same
    exact primitivePattern?_ordered made
  | bracketed =>
    obtain ⟨_, -, h⟩ := Option.bind_eq_some_iff.mp h
    obtain ⟨_, -, h⟩ := Option.bind_eq_some_iff.mp h
    cases h
    trivial
  | repetition min max body =>
    obtain ⟨⟨q, g⟩, made, h⟩ := Option.bind_eq_some_iff.mp h
    cases h
    exact ⟨ordered.1, pattern?_ordered f body ordered.2 made⟩
  | group changes body =>
    obtain ⟨⟨q, g⟩, made, h⟩ := Option.bind_eq_some_iff.mp h
    cases h
    exact pattern?_ordered _ body ordered made
  | concat parts => exact concatPattern?_ordered f parts ordered h
  | alternation branches => exact alternationPattern?_ordered f branches ordered h

theorem concatPattern?_ordered (f : Flags) (parts : List Ast) {p : Pattern} {f' : Flags}
    (ordered : Ast.AllOrdered parts) (h : concatPattern? f parts = some (p, f')) : p.Ordered := by
  cases parts with
  | nil =>
    cases h
    trivial
  | cons a rest =>
    obtain ⟨⟨q, g⟩, first, h⟩ := Option.bind_eq_some_iff.mp h
    obtain ⟨⟨q', g'⟩, others, h⟩ := Option.bind_eq_some_iff.mp h
    cases h
    exact ⟨pattern?_ordered f a ordered.1 first, concatPattern?_ordered _ rest ordered.2 others⟩

theorem alternationPattern?_ordered (f : Flags) (branches : List Ast) {p : Pattern} {f' : Flags}
    (ordered : Ast.AllOrdered branches) (h : alternationPattern? f branches = some (p, f')) :
    p.Ordered := by
  cases branches with
  | nil =>
    cases h
    trivial
  | cons a rest =>
    obtain ⟨⟨q, g⟩, first, h⟩ := Option.bind_eq_some_iff.mp h
    obtain ⟨⟨q', g'⟩, others, h⟩ := Option.bind_eq_some_iff.mp h
    cases h
    exact ⟨pattern?_ordered f a ordered.1 first,
      alternationPattern?_ordered _ rest ordered.2 others⟩

end

theorem compile?_eq_some {cs : List Char} {p : Pattern} (h : compile? cs = some p) :
    ∃ a f, parse? cs = some a ∧ pattern? {} a = some (p, f) := by
  obtain ⟨a, parsed, h⟩ := Option.bind_eq_some_iff.mp h
  obtain ⟨⟨p', f⟩, made, h⟩ := Option.bind_eq_some_iff.mp h
  dsimp only at h
  split at h
  · obtain rfl := Option.some.inj h
    exact ⟨a, f, parsed, made⟩
  · cases h

theorem compile?_ordered {cs : List Char} {p : Pattern} (h : compile? cs = some p) :
    p.Ordered := by
  obtain ⟨a, f, parsed, made⟩ := compile?_eq_some h
  exact pattern?_ordered _ a (parse?_ordered parsed) made

end PlayerRegistry.Regex
