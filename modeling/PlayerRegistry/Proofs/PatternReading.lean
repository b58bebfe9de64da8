import PlayerRegistry.Regex.Parser

/-!
# Reading a pattern within a longer text

Put in a group, a pattern is followed by the end of the group. Its items are read as they are read
where the pattern stands alone; only a comment that the pattern does not end takes in the rest.
-/

namespace PlayerRegistry.Regex

open Text (isBlank)

/-- What follows a pattern that is put in a group. -/
def closing : List Char := [')', '$']

/-- What is left to read where the pattern alone leaves `cs`: the closing follows, unless a comment
has swallowed it. -/
inductive Continues : List Char → List Char → Prop where
  | closed (cs) : Continues cs (cs ++ closing)
  | swallowed : Continues [] []

/-- The readers agree on what they read of a pattern and of its continuation. -/
def Agree {α : Type} (f f' : List Char → Option (α × List Char)) : Prop :=
  ∀ cs cs', Continues cs cs' → ∀ {v rest}, f cs = some (v, rest) →
    ∃ rest', f' cs' = some (v, rest') ∧ Continues rest rest'

/-- Nothing but a bracket comes from the closing first. -/
theorem cons_of_append_closing {c : Char} {cs rest : List Char} (other : c ≠ ')')
    (h : cs ++ closing = c :: rest) : ∃ tail, cs = c :: tail := by
  rcases cs with _ | ⟨d, cs⟩
  · exact absurd (List.cons.inj h).1.symm other
  · obtain ⟨rfl, -⟩ := List.cons.inj h
    exact ⟨cs, rfl⟩

/-- What does not come next does not come next before the closing either. -/
theorem never_ahead (next : List Char) {cs : List Char} (other : ')' ∉ next)
    (never : ∀ tail, cs = next ++ tail → False) {rest : List Char}
    (h : cs ++ closing = next ++ rest) : False := by
  induction next generalizing cs with
  | nil => exact never cs rfl
  | cons c next ih =>
    obtain ⟨first, others⟩ := List.ne_and_not_mem_of_not_mem_cons other
    obtain ⟨cs', rfl⟩ := cons_of_append_closing (Ne.symm first) h
    exact ih others (fun tail same => never tail (congrArg (c :: ·) same)) (List.cons.inj h).2

namespace Continues

theorem cons {c : Char} {cs cs' : List Char} (h : Continues (c :: cs) cs') :
    cs' = c :: (cs ++ closing) := by
  cases h
  rfl

theorem nil_cases {cs' : List Char} (h : Continues [] cs') : cs' = closing ∨ cs' = [] := by
  cases h with
  | closed => exact .inl rfl
  | swallowed => exact .inr rfl

theorem of_cons {c : Char} {cs cs' : List Char} (h : Continues cs (c :: cs')) (other : c ≠ ')') :
    ∃ tail, cs = c :: tail := by
  generalize eq : c :: cs' = ds at h
  cases h with
  | closed => exact cons_of_append_closing other eq.symm
  | swallowed => cases eq

theorem length_le {cs cs' : List Char} (h : Continues cs cs') : cs.length ≤ cs'.length := by
  cases h with
  | closed => simp
  | swallowed => exact Nat.le_refl _

theorem dropComments (inComment : Bool) (cs : List Char) :
    Continues (dropComments inComment cs) (Regex.dropComments inComment (cs ++ closing)) := by
  induction cs generalizing inComment with
  | nil =>
    cases inComment with
    | true => exact .swallowed
    | false => exact .closed []
  | cons c cs ih =>
    cases inComment with
    | true => exact ih _
    | false =>
      simp only [List.cons_append, Regex.dropComments]
      split
      · exact ih false
      · split
        · exact ih true
        · exact .closed (c :: cs)

theorem skip {cs cs' : List Char} (h : Continues cs cs') (x : Bool) :
    Continues (skip x cs) (Regex.skip x cs') := by
  cases x with
  | false => exact h
  | true =>
    cases h with
    | closed => exact dropComments false cs
    | swallowed => exact .swallowed

end Continues

theorem untilBrace?_append {x inComment : Bool} {cs name rest : List Char} (tail : List Char)
    (h : untilBrace? x inComment cs = some (name, rest)) :
    untilBrace? x inComment (cs ++ tail) = some (name, rest ++ tail) := by
  induction cs generalizing inComment name with
  | nil => cases inComment <;> simp [untilBrace?] at h
  | cons c cs ih =>
    cases inComment with
    | true => exact ih h
    | false =>
      simp only [List.cons_append, untilBrace?] at h ⊢
      split at h
      · rename_i hb
        rw [if_pos hb]
        exact ih h
      · rename_i hb
        rw [if_neg hb]
        split at h
        · rename_i hc
          rw [if_pos hc]
          exact ih h
        · rename_i hc
          rw [if_neg hc]
          split at h
          · rename_i he
            rw [if_pos he]
            cases h
            rfl
          · rename_i he
            rw [if_neg he]
            obtain ⟨⟨name', rest'⟩, read, same⟩ := Option.map_eq_some_iff.mp h
            cases same
            rw [ih read]
            rfl

theorem takeSpaced?_agree (x : Bool) (n : Nat) : Agree (takeSpaced? x n) (takeSpaced? x n) := by
  induction n with
  | zero =>
    intro cs cs' h v rest read
    cases read
    exact ⟨cs', rfl, h⟩
  | succ n ih =>
    intro cs cs' h v rest read
    cases cs with
    | nil => cases read
    | cons c cs =>
      obtain rfl := h.cons
      obtain ⟨⟨taken, rest₁⟩, read₁, same⟩ := Option.map_eq_some_iff.mp read
      cases same
      obtain ⟨rest', read', cont⟩ := ih _ _ ((Continues.closed cs).skip x) read₁
      exact ⟨rest', by simp only [takeSpaced?, read', Option.map_some], cont⟩

theorem hexLiteral?_agree (x : Bool) {width : Nat} (some_digits : 0 < width) :
    Agree (hexLiteral? x width) (hexLiteral? x width) := by
  intro cs cs' h v rest read
  have skipped := h.skip x
  unfold hexLiteral? at read ⊢
  generalize skip x cs = ds at read skipped
  generalize skip x cs' = ds' at skipped ⊢
  split at read
  · rename_i inner
    obtain rfl := skipped.cons
    simp only [Option.bind_eq_bind, Option.bind_eq_some_iff, Option.pure_def] at read ⊢
    obtain ⟨⟨digits, rest₁⟩, braced, c, code, same⟩ := read
    cases same
    refine ⟨skip x (rest₁ ++ closing), ?_, (Continues.closed rest₁).skip x⟩
    exact ⟨_, untilBrace?_append closing braced, c, code, rfl⟩
  · rename_i plain
    simp only [Option.bind_eq_bind, Option.bind_eq_some_iff, Option.pure_def] at read
    obtain ⟨⟨digits, rest₁⟩, taken, c, code, same⟩ := read
    cases same
    obtain ⟨rest', taken', cont⟩ := takeSpaced?_agree x width _ _ skipped taken
    refine ⟨rest', ?_, cont⟩
    split
    · rename_i inner
      cases ds with
      | nil =>
        obtain ⟨n, rfl⟩ := Nat.exists_eq_add_of_lt some_digits
        simp [takeSpaced?] at taken
      | cons c ds =>
        obtain ⟨rfl, -⟩ := List.cons.inj skipped.cons
        exact absurd rfl (plain ds)
    · simp [taken', code]

theorem property?_agree (x negated : Bool) : Agree (property? x negated) (property? x negated) := by
  intro cs cs' h v rest read
  have skipped := h.skip x
  unfold property? at read ⊢
  generalize skip x cs = ds at read skipped
  generalize skip x cs' = ds' at skipped ⊢
  cases ds with
  | nil => cases read
  | cons c ds =>
    obtain rfl := skipped.cons
    by_cases brace : c = '\x7b'
    · subst brace
      simp only [Option.bind_eq_bind, Option.bind_eq_some_iff, Option.pure_def] at read ⊢
      obtain ⟨⟨name, rest₁⟩, braced, same⟩ := read
      cases same
      exact ⟨rest₁ ++ closing, ⟨_, untilBrace?_append closing braced, rfl⟩, .closed rest₁⟩
    · simp only at read ⊢
      split at read
      · cases read
      · rename_i plain
        rw [if_neg plain]
        cases read
        exact ⟨skip x (ds ++ closing), rfl, (Continues.closed ds).skip x⟩

theorem length_dropComments_le (inComment : Bool) (cs : List Char) :
    (dropComments inComment cs).length ≤ cs.length := by
  induction cs generalizing inComment with
  | nil => cases inComment <;> exact Nat.le_refl _
  | cons c cs ih =>
    cases inComment with
    | true => exact Nat.le_succ_of_le (ih _)
    | false =>
      simp only [dropComments]
      split
      · exact Nat.le_succ_of_le (ih false)
      · split
        · exact Nat.le_succ_of_le (ih true)
        · exact Nat.le_refl _

theorem length_skip_le (x : Bool) (cs : List Char) : (skip x cs).length ≤ cs.length := by
  cases x with
  | true => exact length_dropComments_le false cs
  | false => exact Nat.le_refl _

/-- Takes characters as long as they are of a kind, each with the blanks after it. -/
def takeKind (kind : Char → Bool) (x : Bool) : Nat → List Char → List Char × List Char
  | 0, cs => ([], cs)
  | _ + 1, [] => ([], [])
  | fuel + 1, c :: cs =>
    if kind c then
      (c :: (takeKind kind x fuel (skip x cs)).1, (takeKind kind x fuel (skip x cs)).2)
    else ([], c :: cs)

theorem boundaryName_eq (x : Bool) (fuel : Nat) (cs : List Char) :
    boundaryName x fuel cs = takeKind isWordBoundaryChar x fuel cs := by
  induction fuel generalizing cs with
  | zero => rfl
  | succ fuel ih =>
    cases cs with
    | nil => rfl
    | cons c cs => simp only [boundaryName, takeKind, ih]

theorem takeKind_agree {k : Char → Bool} (closed : k ')' = false) (x : Bool)
    {fuel fuel' : Nat} {cs cs' : List Char} (h : Continues cs cs') (enough : cs.length ≤ fuel)
    (enough' : cs'.length ≤ fuel') :
    ∃ rest', takeKind k x fuel' cs' = ((takeKind k x fuel cs).1, rest') ∧
      Continues (takeKind k x fuel cs).2 rest' := by
  have atEnd : ∀ {fuel fuel' cs'}, Continues [] cs' → cs'.length ≤ fuel' →
      ∃ rest', takeKind k x fuel' cs' = ((takeKind k x fuel []).1, rest') ∧
        Continues (takeKind k x fuel []).2 rest' := by
    intro fuel fuel' cs' h enough'
    have nothing : takeKind k x fuel [] = ([], []) := by cases fuel <;> rfl
    rw [nothing]
    refine ⟨cs', ?_, h⟩
    rcases h.nil_cases with rfl | rfl
    · cases fuel' with
      | zero => simp [closing] at enough'
      | succ fuel' => simp [takeKind, closing, closed]
    · cases fuel' <;> rfl
  induction fuel generalizing fuel' cs cs' with
  | zero =>
    obtain rfl := List.length_eq_zero_iff.mp (Nat.le_zero.mp enough)
    exact atEnd h enough'
  | succ fuel ih =>
    rcases cs with _ | ⟨c, cs⟩
    · exact atEnd h enough'
    obtain rfl := h.cons
    rcases fuel' with _ | fuel'
    · simp at enough'
    simp only [List.length_cons, Nat.add_le_add_iff_right] at enough enough'
    simp only [takeKind]
    split
    · obtain ⟨rest', read, cont⟩ := ih ((Continues.closed cs).skip x)
        (Nat.le_trans (length_skip_le x cs) enough) (Nat.le_trans (length_skip_le x _) enough')
      exact ⟨rest', by rw [read], cont⟩
    · exact ⟨_, rfl, h⟩

theorem wordBoundary?_agree (x : Bool) : Agree (wordBoundary? x) (wordBoundary? x) := by
  intro cs cs' h v rest read
  cases cs with
  | nil =>
    cases read
    refine ⟨cs', ?_, h⟩
    rcases h.nil_cases with rfl | rfl <;> rfl
  | cons c cs =>
    obtain rfl := h.cons
    by_cases brace : c = '\x7b'
    · subst brace
      have skipped := (Continues.closed cs).skip x
      simp only [wordBoundary?] at read ⊢
      generalize skip x cs = ds at read skipped
      generalize skip x (cs ++ closing) = ds' at skipped ⊢
      cases ds with
      | nil => cases read
      | cons d ds =>
        obtain rfl := skipped.cons
        simp only at read ⊢
        split at read
        · rename_i plain
          rw [if_pos plain]
          cases read
          exact ⟨_, rfl, h⟩
        · rename_i letter
          rw [if_neg letter]
          have enough : (d :: ds).length ≤ ds.length + 1 := Nat.le_refl _
          have enough' : (d :: (ds ++ closing)).length ≤ (ds ++ closing).length + 1 := Nat.le_refl _
          obtain ⟨rest', named, cont⟩ :=
            takeKind_agree (k := isWordBoundaryChar) (by decide) x skipped enough enough'
          rw [boundaryName_eq] at read ⊢
          rw [named]
          generalize takeKind isWordBoundaryChar x (ds.length + 1) (d :: ds) = found
            at read cont ⊢
          obtain ⟨name, rest₁⟩ := found
          simp only at read cont ⊢
          split at read
          · obtain rfl := cont.cons
            simp only
            split at read
            all_goals cases read
            all_goals exact ⟨_, rfl, .closed _⟩
          · cases read
    · have plain : ∀ ds, wordBoundary? x (c :: ds) = some (.word, c :: ds) := by
        intro ds
        unfold wordBoundary?
        split
        · rename_i inner eq
          exact absurd (List.cons.inj eq).1 brace
        · rfl
      rw [plain] at read ⊢
      cases read
      exact ⟨_, rfl, h⟩

theorem Agree.map {α β : Type} {f f' : List Char → Option (α × List Char)} (h : Agree f f')
    (g : α → β) : Agree (fun cs => (f cs).map fun (a, rest) => (g a, rest))
      (fun cs => (f' cs).map fun (a, rest) => (g a, rest)) := by
  intro cs cs' cont v rest read
  obtain ⟨⟨a, rest₁⟩, read₁, same⟩ := Option.map_eq_some_iff.mp read
  cases same
  obtain ⟨rest', read', cont'⟩ := h _ _ cont read₁
  exact ⟨rest', by simp only [read', Option.map_some], cont'⟩

/-- The escapes that read on after their letter. -/
def longEscapes : List Char := ['x', 'u', 'U', 'p', 'P', 'b']

theorem escape?_short {c : Char} (short : c ∉ longEscapes) (x : Bool) :
    ∃ found : Option Primitive, ∀ cs, escape? x (c :: cs) = found.map fun p => (p, cs) := by
  simp only [longEscapes, List.mem_cons, List.not_mem_nil, or_false, not_or] at short
  obtain ⟨hx, hu, hU, hp, hP, hb⟩ := short
  refine ⟨(escape? x [c]).map Prod.fst, fun cs => ?_⟩
  simp only [escape?]
  split
  all_goals first
    | contradiction
    | rfl
    | (split <;> rfl)

theorem agree_of_plain {α : Type} {f : List Char → Option (α × List Char)} {c : Char}
    {found : Option α} (plain : ∀ cs, f (c :: cs) = found.map fun a => (a, cs)) {cs : List Char}
    {v : α} {rest : List Char} (read : f (c :: cs) = some (v, rest)) :
    ∃ rest', f (c :: (cs ++ closing)) = some (v, rest') ∧ Continues rest rest' := by
  rw [plain] at read ⊢
  obtain ⟨a, rfl, same⟩ := Option.map_eq_some_iff.mp read
  cases same
  exact ⟨_, rfl, .closed _⟩

theorem escape?_agree (x : Bool) : Agree (escape? x) (escape? x) := by
  intro cs cs' h v rest read
  cases cs with
  | nil => cases read
  | cons c cs =>
    obtain rfl := h.cons
    by_cases long : c ∈ longEscapes
    · simp only [longEscapes, List.mem_cons, List.not_mem_nil, or_false] at long
      rcases long with rfl | rfl | rfl | rfl | rfl | rfl
      · exact (hexLiteral?_agree x (Nat.succ_pos 1)).map _ _ _ (.closed cs) read
      · exact (hexLiteral?_agree x (Nat.succ_pos 3)).map _ _ _ (.closed cs) read
      · exact (hexLiteral?_agree x (Nat.succ_pos 7)).map _ _ _ (.closed cs) read
      · exact property?_agree x false _ _ (.closed cs) read
      · exact property?_agree x true _ _ (.closed cs) read
      · exact (wordBoundary?_agree x).map _ _ _ (.closed cs) read
    · obtain ⟨found, plain⟩ := escape?_short long x
      exact agree_of_plain plain read

theorem takeWhile_append_closing {p : Char → Bool} (closed : p ')' = true ∧ p '$' = true)
    (cs : List Char) :
    ((∃ c ∈ cs, p c = false) ∧ (cs ++ closing).takeWhile p = cs.takeWhile p ∧
      (cs ++ closing).dropWhile p = cs.dropWhile p ++ closing) ∨
    (cs.dropWhile p = [] ∧ (cs ++ closing).dropWhile p = []) := by
  induction cs with
  | nil => exact .inr ⟨rfl, by simp [closing, closed]⟩
  | cons c cs ih =>
    by_cases hc : p c = true
    · rcases ih with ⟨⟨d, hd, hp⟩, taken, dropped⟩ | ⟨none, none'⟩
      · exact .inl ⟨⟨d, List.mem_cons_of_mem _ hd, hp⟩, by simp [hc, taken], by simp [hc, dropped]⟩
      · exact .inr ⟨by simp [hc, none], by simp [hc, none']⟩
    · exact .inl ⟨⟨c, List.mem_cons_self, by simpa using hc⟩, by simp [hc], by simp [hc]⟩

/-- The name of a class and its end. -/
def namedClass? (negated : Bool) (cs : List Char) : Option (ClassItem × List Char) :=
  match cs.dropWhile (· ≠ ':') with
  | ':' :: ']' :: rest =>
    if asciiNames.contains (String.ofList (cs.takeWhile (· ≠ ':'))) then
      some (.ascii (String.ofList (cs.takeWhile (· ≠ ':'))) negated, rest)
    else none
  | _ => none

theorem namedClass?_append (negated : Bool) (cs : List Char) :
    namedClass? negated (cs ++ closing) =
      (namedClass? negated cs).map fun found => (found.1, found.2 ++ closing) := by
  unfold namedClass?
  rcases takeWhile_append_closing (p := (· ≠ ':')) (by decide) cs with
    ⟨-, taken, dropped⟩ | ⟨none, none'⟩
  · rw [taken, dropped]
    generalize cs.dropWhile (· ≠ ':') = ds
    generalize String.ofList (cs.takeWhile (· ≠ ':')) = name
    rcases ds with _ | ⟨d, _ | ⟨e, rest⟩⟩
    · rfl
    · simp only [Option.map_none, List.cons_append, List.nil_append, closing]
      split
      · rename_i eq
        cases eq
      · rfl
    · by_cases ends : d = ':' ∧ e = ']'
      · obtain ⟨rfl, rfl⟩ := ends
        simp only [List.cons_append]
        split <;> rfl
      · have other : ∀ es fs : List Char, d :: e :: es ≠ ':' :: ']' :: fs := by
          rintro es fs ⟨⟩
          exact ends ⟨rfl, rfl⟩
        split
        · rename_i eq
          exact absurd eq (other _ _)
        · split
          · rename_i eq
            exact absurd eq (other _ _)
          · rfl
  · rw [none, none']
    rfl

/-- Whether a class begins with a negation, and what follows that. -/
def negation : List Char → Bool × List Char
  | '^' :: rest => (true, rest)
  | cs => (false, cs)

theorem negation_cons {c : Char} (other : c ≠ '^') (cs : List Char) :
    negation (c :: cs) = (false, c :: cs) := by
  unfold negation
  split
  · rename_i eq
    exact absurd (List.cons.inj eq).1 other
  · rfl

theorem asciiClass?_colon (cs : List Char) :
    asciiClass? (':' :: cs) = namedClass? (negation cs).1 (negation cs).2 := rfl

theorem asciiClass?_append (cs : List Char) : asciiClass? (cs ++ closing) =
    (asciiClass? cs).map fun found => (found.1, found.2 ++ closing) := by
  rcases cs with _ | ⟨c, cs⟩
  · rfl
  by_cases colon : c = ':'
  · subst colon
    rw [List.cons_append, asciiClass?_colon, asciiClass?_colon]
    rcases cs with _ | ⟨d, cs⟩
    · rfl
    by_cases caret : d = '^'
    · subst caret
      exact namedClass?_append true cs
    · rw [List.cons_append, negation_cons caret, negation_cons caret]
      exact namedClass?_append false (d :: cs)
  · have none : ∀ cs, asciiClass? (c :: cs) = none := by
      intro cs
      unfold asciiClass?
      split
      · rename_i eq
        exact absurd (List.cons.inj eq).1 colon
      · rfl
    rw [List.cons_append, none, none]
    rfl

theorem classPrimitive?_agree (x : Bool) : Agree (classPrimitive? x) (classPrimitive? x) := by
  intro cs cs' h v rest read
  rcases cs with _ | ⟨c, cs⟩
  · cases read
  obtain rfl := h.cons
  by_cases escaped : c = '\\'
  · subst escaped
    exact escape?_agree x _ _ (.closed cs) read
  · have plain : ∀ cs, classPrimitive? x (c :: cs) =
        (some (.literal ⟨c, false⟩)).map fun p => (p, cs) := by
      intro cs
      unfold classPrimitive?
      split
      · rename_i eq
        cases eq
      · rename_i eq
        exact absurd (List.cons.inj eq).1 escaped
      · rename_i eq
        cases eq
        rfl
    exact agree_of_plain plain read

theorem classRange?_agree (x : Bool) : Agree (classRange? x) (classRange? x) := by
  intro cs cs' h v rest read
  obtain ⟨⟨first, cs₁⟩, read₁, read₂⟩ := Option.bind_eq_some_iff.mp read
  obtain ⟨cs₁', read₁', h₁⟩ := classPrimitive?_agree x _ _ h read₁
  have skipped := h₁.skip x
  suffices ∃ rest', _ = some (v, rest') ∧ Continues rest rest' by
    obtain ⟨rest', read', cont⟩ := this
    exact ⟨rest', Option.bind_eq_some_iff.mpr ⟨_, read₁', read'⟩, cont⟩
  simp only at read₂ ⊢
  generalize skip x cs₁ = ds at read₂ skipped
  generalize skip x cs₁' = ds' at skipped ⊢
  rcases ds with _ | ⟨c, ds⟩
  · cases read₂
  obtain rfl := skipped.cons
  by_cases dash : c = '-'
  · subst dash
    have skipped := (Continues.closed ds).skip x
    simp only at read₂ ⊢
    generalize skip x ds = es at read₂ skipped
    generalize skip x (ds ++ closing) = es' at skipped ⊢
    rcases es with _ | ⟨e, es⟩
    · cases read₂
    obtain rfl := skipped.cons
    by_cases ends : e = ']' ∨ e = '-'
    · have mark : ∀ es : List Char, (e :: es).head? = some ']' ∨ (e :: es).head? = some '-' := by
        simpa using ends
      rw [if_pos (mark _)] at read₂ ⊢
      obtain ⟨item, one, same⟩ := Option.bind_eq_some_iff.mp read₂
      cases same
      exact ⟨_, Option.bind_eq_some_iff.mpr ⟨_, one, rfl⟩, .closed ('-' :: ds)⟩
    · have noMark : ∀ es : List Char,
          ¬((e :: es).head? = some ']' ∨ (e :: es).head? = some '-') := by
        simpa using ends
      rw [if_neg (noMark _)] at read₂ ⊢
      obtain ⟨⟨last, rest₁⟩, read₃, read₄⟩ := Option.bind_eq_some_iff.mp read₂
      obtain ⟨rest', read₃', cont⟩ := classPrimitive?_agree x _ _ skipped read₃
      simp only at read₄
      split at read₄
      · split at read₄
        · rename_i ordered
          cases read₄
          exact ⟨rest', Option.bind_eq_some_iff.mpr ⟨_, read₃', if_pos ordered⟩, cont⟩
        · cases read₄
      · cases read₄
  · split at read₂
    · rename_i eq
      cases eq
    · rename_i eq
      exact absurd (List.cons.inj eq).1 dash
    · obtain ⟨item, one, same⟩ := Option.bind_eq_some_iff.mp read₂
      cases same
      refine ⟨c :: (ds ++ closing), ?_, .closed (c :: ds)⟩
      split
      · rename_i eq
        cases eq
      · rename_i eq
        exact absurd (List.cons.inj eq).1 dash
      · exact Option.bind_eq_some_iff.mpr ⟨_, one, rfl⟩

theorem dashes_agree (x : Bool) {fuel fuel' : Nat} {negated : Bool} {items : List ClassItem}
    {cs cs' : List Char} (h : Continues cs cs') (enough : cs.length ≤ fuel)
    (enough' : cs'.length ≤ fuel') {v : Bool × List ClassItem} {rest : List Char}
    (read : classOpening?.dashes x fuel negated items cs = some (v, rest)) :
    ∃ rest', classOpening?.dashes x fuel' negated items cs' = some (v, rest') ∧
      Continues rest rest' := by
  induction fuel generalizing fuel' items cs cs' with
  | zero =>
    obtain rfl := List.length_eq_zero_iff.mp (Nat.le_zero.mp enough)
    simp [classOpening?.dashes] at read
  | succ fuel ih =>
    rcases cs with _ | ⟨c, cs⟩
    · simp [classOpening?.dashes] at read
    obtain rfl := h.cons
    rcases fuel' with _ | fuel'
    · simp at enough'
    simp only [List.length_cons, Nat.add_le_add_iff_right] at enough enough'
    have skipped := (Continues.closed cs).skip x
    simp only [classOpening?.dashes] at read ⊢
    split at read
    · rename_i dash
      rw [if_pos dash]
      exact ih skipped (Nat.le_trans (length_skip_le x cs) enough)
        (Nat.le_trans (length_skip_le x _) enough') read
    · rename_i dash
      rw [if_neg dash]
      split at read
      · rename_i bracket
        rw [if_pos bracket]
        generalize skip x cs = ds at read skipped
        generalize skip x (cs ++ closing) = ds' at skipped ⊢
        rcases ds with _ | ⟨d, ds⟩
        · cases read
        obtain rfl := skipped.cons
        cases read
        exact ⟨_, rfl, skipped⟩
      · rename_i bracket
        rw [if_neg bracket]
        cases read
        exact ⟨_, rfl, .closed (c :: cs)⟩

theorem classOpening?_negated {x : Bool} {cs ds : List Char} (h : skip x cs = '^' :: ds) :
    classOpening? x cs = classOpening?.dashes x (skip x ds).length true [] (skip x ds) := by
  unfold classOpening?
  simp only [h]

theorem classOpening?_plain {x : Bool} {cs ds : List Char} (h : skip x cs = ds)
    (plain : ds.head? ≠ some '^') :
    classOpening? x cs = classOpening?.dashes x ds.length false [] ds := by
  unfold classOpening?
  rw [h]
  rcases ds with _ | ⟨d, ds⟩
  · rfl
  · simp only
    split
    · rename_i eq
      exact absurd (congrArg List.head? eq) plain
    · rfl

theorem classOpening?_agree (x : Bool) : Agree (classOpening? x) (classOpening? x) := by
  intro cs cs' h v rest read
  have skipped := h.skip x
  generalize whole : skip x cs = ds at skipped
  generalize whole' : skip x cs' = ds' at skipped
  rcases ds with _ | ⟨d, ds⟩
  · rw [classOpening?_plain whole (by simp)] at read
    cases read
  obtain rfl := skipped.cons
  by_cases caret : d = '^'
  · subst caret
    rw [classOpening?_negated whole] at read
    rw [classOpening?_negated whole']
    exact dashes_agree x ((Continues.closed ds).skip x) (Nat.le_refl _) (Nat.le_refl _) read
  · rw [classOpening?_plain whole (by simpa using caret)] at read
    rw [classOpening?_plain whole' (by simpa using caret)]
    exact dashes_agree x (.closed (d :: ds)) (Nat.le_refl _) (Nat.le_refl _) read

theorem classBody?_agree (x : Bool) {fuel fuel' : Nat} (more : fuel ≤ fuel')
    (pending : Option (ClassOp × ClassBody)) (items : List ClassItem) :
    Agree (classBody? x fuel pending items) (classBody? x fuel' pending items) := by
  induction fuel generalizing fuel' pending items with
  | zero =>
    intro cs cs' h v rest read
    cases read
  | succ fuel ih =>
    obtain ⟨fuel', rfl⟩ := Nat.exists_eq_add_one_of_ne_zero (n := fuel') (by omega)
    replace ih := fun pending items => @ih fuel' (by omega) pending items
    intro cs cs' h v rest read
    have skipped := h.skip x
    simp only [classBody?] at read ⊢
    generalize skip x cs = ds at read skipped
    generalize skip x cs' = ds' at skipped ⊢
    split at read
    · cases read
    · rename_i rest₁
      obtain rfl := skipped.cons
      cases read
      exact ⟨_, rfl, .closed _⟩
    · obtain rfl := skipped.cons
      exact ih _ _ _ _ (.closed _) read
    · obtain rfl := skipped.cons
      exact ih _ _ _ _ (.closed _) read
    · obtain rfl := skipped.cons
      exact ih _ _ _ _ (.closed _) read
    · rename_i rest₁
      obtain rfl := skipped.cons
      simp only [asciiClass?_append]
      cases named : asciiClass? rest₁ with
      | some found =>
        simp only [named] at read
        exact ih _ _ _ _ (.closed _) read
      | none =>
        simp only [named] at read
        obtain ⟨⟨⟨negated, first⟩, inner⟩, opened, read⟩ := Option.bind_eq_some_iff.mp read
        obtain ⟨⟨body, rest₂⟩, nested, read⟩ := Option.bind_eq_some_iff.mp read
        obtain ⟨inner', opened', h₁⟩ := classOpening?_agree x _ _ (.closed rest₁) opened
        obtain ⟨rest₂', nested', h₂⟩ := ih _ _ _ _ h₁ nested
        obtain ⟨rest', read', cont⟩ := ih _ _ _ _ h₂ read
        exact ⟨rest', Option.bind_eq_some_iff.mpr ⟨_, opened',
          Option.bind_eq_some_iff.mpr ⟨_, nested', read'⟩⟩, cont⟩
    · rename_i notEmpty notEnd notAnd notMinus notTilde notNested
      obtain ⟨⟨item, rest₁⟩, range, read⟩ := Option.bind_eq_some_iff.mp read
      obtain ⟨rest₁', range', h₁⟩ := classRange?_agree x _ _ skipped range
      obtain ⟨rest', read', cont⟩ := ih _ _ _ _ h₁ read
      rcases ds with _ | ⟨d, ds⟩
      · exact absurd rfl notEmpty
      obtain rfl := skipped.cons
      refine ⟨rest', ?_, cont⟩
      -- The closing does not complete an operator that the pattern has only begun.
      split
      · rename_i eq
        cases eq
      · rename_i eq
        cases eq
        exact absurd rfl (notEnd _)
      · rename_i eq
        obtain ⟨rfl, second⟩ := List.cons.inj eq
        obtain ⟨tail, rfl⟩ := cons_of_append_closing (by decide : '&' ≠ ')') second
        exact absurd rfl (notAnd _)
      · rename_i eq
        obtain ⟨rfl, second⟩ := List.cons.inj eq
        obtain ⟨tail, rfl⟩ := cons_of_append_closing (by decide : '-' ≠ ')') second
        exact absurd rfl (notMinus _)
      · rename_i eq
        obtain ⟨rfl, second⟩ := List.cons.inj eq
        obtain ⟨tail, rfl⟩ := cons_of_append_closing (by decide : '~' ≠ ')') second
        exact absurd rfl (notTilde _)
      · rename_i eq
        cases eq
        exact absurd rfl (notNested _)
      · exact Option.bind_eq_some_iff.mpr ⟨_, range', read'⟩

theorem class?_agree (x : Bool) : Agree (class? x) (class? x) := by
  intro cs cs' h v rest read
  obtain ⟨⟨⟨negated, first⟩, inner⟩, opened, read⟩ := Option.bind_eq_some_iff.mp read
  obtain ⟨⟨body, rest₁⟩, nested, same⟩ := Option.bind_eq_some_iff.mp read
  cases same
  obtain ⟨inner', opened', h₁⟩ := classOpening?_agree x _ _ h opened
  obtain ⟨rest', nested', cont⟩ :=
    classBody?_agree x (Nat.succ_le_succ h₁.length_le) _ _ _ _ h₁ nested
  exact ⟨rest', Option.bind_eq_some_iff.mpr ⟨_, opened',
    Option.bind_eq_some_iff.mpr ⟨_, nested', rfl⟩⟩, cont⟩

def isDecimalDigit (c : Char) : Bool := '0' ≤ c ∧ c ≤ '9'

theorem spacedDigits_eq (x : Bool) (fuel : Nat) (cs : List Char) :
    spacedDigits x fuel cs = takeKind isDecimalDigit x fuel cs := by
  induction fuel generalizing cs with
  | zero => rfl
  | succ fuel ih =>
    cases cs with
    | nil => rfl
    | cons c cs => simp only [spacedDigits, takeKind, ih, isDecimalDigit, decide_eq_true_eq]

theorem Continues.dropBlanks {cs cs' : List Char} (h : Continues cs cs') :
    Continues (cs.dropWhile isBlank) (cs'.dropWhile isBlank) := by
  cases h with
  | swallowed => exact .swallowed
  | closed =>
    induction cs with
    | nil => exact .closed []
    | cons c cs ih =>
      by_cases blank : isBlank c = true
      · simpa [blank] using ih
      · simpa [blank] using .closed (c :: cs)

theorem decimal_agree (x : Bool) {cs cs' : List Char} (h : Continues cs cs') :
    ∃ rest', decimal x cs' = ((decimal x cs).1, rest') ∧ Continues (decimal x cs).2 rest' := by
  obtain ⟨rest', read, cont⟩ :=
    takeKind_agree (k := isDecimalDigit) (by decide) x h.dropBlanks (Nat.le_refl _) (Nat.le_refl _)
  simp only [decimal, spacedDigits_eq, read]
  exact ⟨_, rfl, cont.dropBlanks⟩

theorem bounds?_agree (x : Bool) : Agree (bounds? x) (bounds? x) := by
  intro cs cs' h v rest read
  obtain ⟨rest₁', digits, h₁⟩ := decimal_agree x (h.skip x)
  unfold bounds? at read ⊢
  rw [digits]
  generalize decimal x (skip x cs) = found at read h₁ ⊢
  obtain ⟨digits, rest₁⟩ := found
  simp only at read h₁ ⊢
  split at read
  · obtain rfl := h₁.cons
    obtain ⟨n, count, same⟩ := Option.map_eq_some_iff.mp read
    cases same
    exact ⟨_, Option.map_eq_some_iff.mpr ⟨n, count, rfl⟩, .closed _⟩
  · rename_i rest₂
    obtain rfl := h₁.cons
    have h₂ := (Continues.closed rest₂).skip x
    simp only at read ⊢
    generalize skip x rest₂ = ds at read h₂
    generalize skip x (rest₂ ++ closing) = ds' at h₂ ⊢
    split at read
    · obtain rfl := h₂.cons
      obtain ⟨n, count, same⟩ := Option.map_eq_some_iff.mp read
      cases same
      exact ⟨_, Option.map_eq_some_iff.mpr ⟨n, count, rfl⟩, .closed _⟩
    · rename_i notEnd
      obtain ⟨min, lower, read⟩ := Option.bind_eq_some_iff.mp read
      obtain ⟨rest₃', digits', h₃⟩ := decimal_agree x h₂
      generalize decimal x ds = found at read digits' h₃
      obtain ⟨more, rest₃⟩ := found
      obtain ⟨max, upper, read⟩ := Option.bind_eq_some_iff.mp read
      simp only at read digits' h₃
      split at read
      · obtain rfl := h₃.cons
        split at read
        · rename_i ordered
          cases read
          refine ⟨_, ?_, .closed _⟩
          split
          · obtain ⟨tail, rfl⟩ := h₂.of_cons (by decide)
            exact absurd rfl (notEnd tail)
          · rw [digits']
            exact Option.bind_eq_some_iff.mpr ⟨min, lower,
              Option.bind_eq_some_iff.mpr ⟨max, upper, if_pos ordered⟩⟩
        · cases read
      · cases read
  · cases read

theorem Continues.dropReluctance {cs cs' : List Char} (h : Continues cs cs') :
    Continues (dropReluctance cs) (Regex.dropReluctance cs') := by
  rcases cs with _ | ⟨c, cs⟩
  · rcases h.nil_cases with rfl | rfl
    · exact .closed []
    · exact .swallowed
  obtain rfl := h.cons
  by_cases mark : c = '?'
  · subst mark
    exact .closed cs
  · have plain : ∀ cs, Regex.dropReluctance (c :: cs) = c :: cs := by
      intro cs
      unfold Regex.dropReluctance
      split
      · rename_i eq
        exact absurd (List.cons.inj eq).1 mark
      · rfl
    rw [plain, plain]
    exact .closed (c :: cs)

theorem flags?_append {negated dangling : Bool} {changes : FlagChanges} {cs rest : List Char}
    {v : FlagChanges × Bool} (tail : List Char)
    (h : flags? negated dangling changes cs = some (v, rest)) :
    flags? negated dangling changes (cs ++ tail) = some (v, rest ++ tail) := by
  induction cs generalizing negated dangling changes with
  | nil => cases h
  | cons c cs ih =>
    simp only [List.cons_append, flags?] at h ⊢
    by_cases last : c = ':' ∨ c = ')'
    · rw [if_pos last] at h ⊢
      split at h
      · cases h
      · rename_i sound
        cases h
        exact if_neg sound
    · rw [if_neg last] at h ⊢
      by_cases minus : c = '-'
      · rw [if_pos minus] at h ⊢
        split at h
        · cases h
        · rename_i first
          rw [if_neg first]
          exact ih h
      · rw [if_neg minus] at h ⊢
        obtain ⟨f, known, h⟩ := Option.bind_eq_some_iff.mp h
        refine Option.bind_eq_some_iff.mpr ⟨f, known, ?_⟩
        split at h
        · cases h
        · rename_i new
          rw [if_neg new]
          exact ih h

theorem groupName?_append {cs name rest : List Char} (h : groupName? cs = some (name, rest)) :
    groupName? (cs ++ closing) = some (name, rest ++ closing) := by
  unfold groupName? at h ⊢
  rcases takeWhile_append_closing (p := (· ≠ '>')) (by decide) cs with
    ⟨-, taken, dropped⟩ | ⟨none, -⟩
  · rw [taken, dropped]
    generalize cs.dropWhile (· ≠ '>') = ds at h
    simp only at h ⊢
    split at h
    · split at h
      · rename_i valid
        cases h
        exact if_pos valid
      · cases h
    · cases h
  · simp only [none] at h
    cases h

/-- Flags stand between the mark and the end of a group, or the colon before its content. -/
theorem listedFlags_agree {f : (FlagChanges × Bool) × List Char → Option (Item × List Char)}
    (takes : ∀ changes isGroup rest, f ((changes, isGroup), rest) =
      if isGroup then some (.opening changes none, rest)
      else if changes.isEmpty then none else some (.flags changes, rest))
    {cs rest : List Char} {v : Item} (read : (flags? false false [] cs).bind f = some (v, rest)) :
    ∃ rest', (flags? false false [] (cs ++ closing)).bind f = some (v, rest') ∧
      Continues rest rest' := by
  obtain ⟨⟨⟨changes, isGroup⟩, rest₁⟩, listed, read⟩ := Option.bind_eq_some_iff.mp read
  have listed' := flags?_append closing listed
  rw [takes] at read
  simp only [listed', Option.bind_some, takes]
  split at read
  · rename_i group
    cases read
    exact ⟨_, if_pos group, .closed _⟩
  · rename_i noGroup
    split at read
    · cases read
    · rename_i changed
      cases read
      exact ⟨_, (if_neg noGroup).trans (if_neg changed), .closed _⟩

theorem opening?_agree (x : Bool) : Agree (opening? x) (opening? x) := by
  intro cs cs' h v rest read
  have skipped := h.skip x
  unfold opening? at read ⊢
  generalize skip x cs = ds at read skipped
  generalize skip x cs' = ds' at skipped ⊢
  split at read
  · cases read
  · cases read
  · cases read
  · cases read
  · obtain rfl := skipped.cons
    obtain ⟨⟨name, rest₁⟩, named, same⟩ := Option.map_eq_some_iff.mp read
    cases same
    exact ⟨_, Option.map_eq_some_iff.mpr ⟨_, groupName?_append named, rfl⟩, .closed _⟩
  · rename_i es notAhead notAhead'
    obtain rfl := skipped.cons
    obtain ⟨⟨name, rest₁⟩, named, same⟩ := Option.map_eq_some_iff.mp read
    cases same
    refine ⟨_, ?_, .closed rest⟩
    split
    · rename_i eq
      simp at eq
    · rename_i eq
      simp at eq
    · rename_i eq
      exact (never_ahead ['='] (by decide) notAhead (List.cons.inj (List.cons.inj eq).2).2).elim
    · rename_i eq
      exact (never_ahead ['!'] (by decide) notAhead' (List.cons.inj (List.cons.inj eq).2).2).elim
    · rename_i eq
      simp at eq
    · rename_i eq
      obtain rfl : es ++ closing = _ := by simpa using eq
      exact Option.map_eq_some_iff.mpr ⟨_, groupName?_append named, rfl⟩
    · rename_i notNamed eq
      exact absurd (List.cons.inj eq).2.symm (notNamed _)
    · rename_i notGroup
      exact absurd rfl (notGroup _)
  · rename_i es notAhead notAhead' notBehind notBehind' notNamed notNamed'
    obtain rfl := skipped.cons
    obtain ⟨rest', read', cont⟩ := listedFlags_agree (fun _ _ _ => rfl) read
    refine ⟨rest', ?_, cont⟩
    split
    · rename_i eq
      exact (never_ahead ['='] (by decide) notAhead (List.cons.inj eq).2).elim
    · rename_i eq
      exact (never_ahead ['!'] (by decide) notAhead' (List.cons.inj eq).2).elim
    · rename_i eq
      exact (never_ahead ['<'] (by decide) notNamed' (List.cons.inj eq).2).elim
    · rename_i eq
      exact (never_ahead ['<'] (by decide) notNamed' (List.cons.inj eq).2).elim
    · rename_i eq
      exact (never_ahead ['P', '<'] (by decide) notNamed (List.cons.inj eq).2).elim
    · rename_i eq
      exact (never_ahead ['<'] (by decide) notNamed' (List.cons.inj eq).2).elim
    · rename_i eq
      obtain rfl : es ++ closing = _ := by simpa using eq
      exact read'
    · rename_i notGroup
      exact absurd rfl (notGroup _)
  · rename_i noMark
    cases read
    rcases rest with _ | ⟨c, ds⟩
    · rcases skipped.nil_cases with rfl | rfl
      · exact ⟨_, rfl, .closed []⟩
      · exact ⟨_, rfl, .swallowed⟩
    obtain rfl := skipped.cons
    have other : c ≠ '?' := by
      rintro rfl
      exact noMark ds rfl
    refine ⟨_, ?_, .closed (c :: ds)⟩
    split <;> rename_i eq <;> first | rfl | exact absurd (List.cons.inj eq).1 other

/-- The items that read on after their first character. -/
def longItems : List Char := ['(', '[', '?', '*', '+', '\x7b', '\\']

theorem item?_short {c : Char} (short : c ∉ longItems) (x : Bool) :
    ∃ found : Option Item, ∀ cs, item? x (c :: cs) = found.map fun i => (i, cs) := by
  simp only [longItems, List.mem_cons, List.not_mem_nil, or_false, not_or] at short
  refine ⟨(item? x [c]).map Prod.fst, fun cs => ?_⟩
  simp only [item?]
  split
  all_goals first
    | rfl
    | simp at short

theorem item?_agree (x : Bool) : Agree (item? x) (item? x) := by
  intro cs cs' h v rest read
  rcases cs with _ | ⟨c, cs⟩
  · cases read
  obtain rfl := h.cons
  by_cases long : c ∈ longItems
  · have repeated : ∀ min max, some (Item.repetition min max, dropReluctance cs) = some (v, rest) →
        ∃ rest', some (Item.repetition min max, dropReluctance (cs ++ closing)) = some (v, rest') ∧
          Continues rest rest' := by
      rintro min max ⟨⟩
      exact ⟨_, rfl, (Continues.closed cs).dropReluctance⟩
    simp only [longItems, List.mem_cons, List.not_mem_nil, or_false] at long
    rcases long with rfl | rfl | rfl | rfl | rfl | rfl | rfl
    · exact opening?_agree x _ _ (.closed cs) read
    · exact (class?_agree x).map _ _ _ (.closed cs) read
    · exact repeated _ _ read
    · exact repeated _ _ read
    · exact repeated _ _ read
    · obtain ⟨⟨⟨min, max⟩, rest₁⟩, bounds, same⟩ := Option.map_eq_some_iff.mp read
      cases same
      obtain ⟨rest₁', bounds', cont⟩ := bounds?_agree x _ _ (.closed cs) bounds
      exact ⟨_, Option.map_eq_some_iff.mpr ⟨_, bounds', rfl⟩, (cont.skip x).dropReluctance⟩
    · exact (escape?_agree x).map (fun p => Item.atom (.primitive p)) _ _ (.closed cs) read
  · obtain ⟨found, plain⟩ := item?_short long x
    exact agree_of_plain plain read

end PlayerRegistry.Regex
