import PlayerRegistry.Proofs.TrimmedTexts
import PlayerRegistry.Url.Parse

/-!
# URLs as they are written

A URL of the web is a scheme, slashes, an authority and a place on the server. Each part is read by
itself, and blanks around the whole do not matter.
-/

namespace PlayerRegistry.Url

/-- What an authority says of a URL. -/
def origin? (secure : Bool) (authority : List Char) : Option Url := do
  let (user, place) := splitUser authority
  let (hostText, portText) := splitPort false place
  if hostText.isEmpty then none
  let host ← host? hostText
  let port ← port? (portText.drop 1)
  let (username, password) := credentialsOf (user.getD [])
  return {
    secure, username, password, host
    port := port.filter (· != defaultPort secure)
    path := []
    query := none
    fragment := none }

/-- The URL of a place on the server. -/
def place (o : Url) (rest : List Char) : Url :=
  let (beforeFragment, fragment) := rest.span (· != '#')
  let (pathText, query) := beforeFragment.span (· != '?')
  { o with
    path := readPath pathText
    query := if query.isEmpty then none else some (Percent.encode keptInQuery (query.drop 1))
    fragment := if fragment.isEmpty then none
      else some (Percent.encode keptInFragment (fragment.drop 1)) }

/-- Nothing, or what ends the authority with all that follows. -/
def IsPlace (rest : List Char) : Prop := ∀ c ∈ rest.head?, endsAuthority true c = true

section
variable {secure : Bool} {slashes authority rest : List Char}

theorem endsAuthority_of_isSlash {c : Char} (h : isSlash c = true) :
    endsAuthority true c = true := by
  simp only [isSlash, Bool.or_eq_true, beq_iff_eq] at h
  rcases h with rfl | rfl
  · rfl
  · rfl

/-- The slashes, the authority and the place are told apart. -/
theorem web?_append (front : ∀ c ∈ slashes, isSlash c = true)
    (inside : ∀ c ∈ authority, endsAuthority true c = false) (some' : authority ≠ [])
    (ends : IsPlace rest) :
    web? secure (slashes ++ authority ++ rest) = (origin? secure authority).map (·.place rest) := by
  have start : (slashes ++ (authority ++ rest)).dropWhile isSlash = authority ++ rest := by
    obtain ⟨first, authority, rfl⟩ := List.exists_cons_of_ne_nil some'
    refine dropWhile_append front ?_
    rintro c ⟨⟩
    rw [← Bool.not_eq_true]
    intro slash
    have := inside first List.mem_cons_self
    rw [endsAuthority_of_isSlash slash] at this
    cases this
  have cut : (authority ++ rest).span (!endsAuthority true ·) = (authority, rest) := by
    refine span_append (fun c hc => ?_) fun c hc => ?_
    · rw [inside c hc]
      rfl
    · rw [ends c hc]
      rfl
  rw [web?, List.append_assoc, start, cut, origin?]
  dsimp only
  by_cases empty : (splitPort false (splitUser authority).2).1.isEmpty = true
  · rw [if_pos empty, if_pos empty]
    rfl
  · rw [if_neg empty, if_neg empty]
    simp only [Option.bind_eq_bind]
    cases host? (splitPort false (splitUser authority).2).1 with
    | none => rfl
    | some host =>
      cases port? ((splitPort false (splitUser authority).2).2.drop 1) with
      | none => rfl
      | some port => rfl

/-- Every text is slashes, an authority and a place; without an authority it is no URL. -/
theorem exists_parts {cs : List Char} {u : Url} (h : web? secure cs = some u) :
    ∃ slashes authority rest, cs = slashes ++ authority ++ rest ∧
      (∀ c ∈ slashes, isSlash c = true) ∧ (∀ c ∈ authority, endsAuthority true c = false) ∧
      authority ≠ [] ∧ IsPlace rest := by
  let after := cs.dropWhile isSlash
  refine ⟨cs.takeWhile isSlash, after.takeWhile (!endsAuthority true ·),
    after.dropWhile (!endsAuthority true ·), ?_, fun c hc => List.mem_takeWhile_imp hc, ?_, ?_, ?_⟩
  · rw [List.append_assoc, List.takeWhile_append_dropWhile, List.takeWhile_append_dropWhile]
  · intro c hc
    simpa using List.mem_takeWhile_imp hc
  · intro empty
    have cut : after.span (!endsAuthority true ·) = ([], after) := by
      have whole := List.takeWhile_append_dropWhile (p := (!endsAuthority true ·)) (l := after)
      rw [empty, List.nil_append] at whole
      rw [List.span_eq_takeWhile_dropWhile, empty, whole]
    rw [web?, cut] at h
    cases h
  · intro c hc
    have stopped := List.head?_dropWhile_not (!endsAuthority true ·) after
    rw [Option.mem_def.mp hc] at stopped
    simpa using stopped

end

/-- A letter, and what may follow it in a scheme. -/
def IsScheme (written : List Char) : Prop :=
  (∀ c ∈ written, isSchemeChar c = true) ∧ ∃ first ∈ written.head?, first.isAlpha = true

theorem splitScheme?_eq_some_iff {cs scheme rest : List Char} :
    splitScheme? cs = some (scheme, rest) ↔
      ∃ written, cs = written ++ ':' :: rest ∧ IsScheme written ∧
        scheme = written.map Char.toLower := by
  constructor
  · intro h
    have whole := List.takeWhile_append_dropWhile (p := isSchemeChar) (l := cs)
    rw [splitScheme?, List.span_eq_takeWhile_dropWhile] at h
    split at h
    · rename_i first written after cut
      obtain ⟨before, after'⟩ := Prod.mk.inj cut
      obtain ⟨alpha, same⟩ := Option.ite_none_right_eq_some.mp h
      obtain ⟨rfl, rfl⟩ := Prod.mk.inj (Option.some.inj same)
      refine ⟨first :: written, ?_, ⟨fun c hc => ?_, first, rfl, alpha⟩, rfl⟩
      · rw [← whole, before, after']
      · rw [← before] at hc
        exact List.mem_takeWhile_imp hc
    · cases h
  · rintro ⟨written, rfl, ⟨inside, first, head, alpha⟩, rfl⟩
    cases written with
    | nil => cases head
    | cons c written =>
      obtain rfl : c = first := by simpa using head
      have cut : (c :: written ++ ':' :: rest).span isSchemeChar = (c :: written, ':' :: rest) :=
        span_append_cons inside (by decide) rest
      rw [splitScheme?, cut]
      exact if_pos alpha

/-- A text up to the end of its authority, and what it says of a URL. -/
def IsOrigin (text : List Char) (o : Url) : Prop :=
  ∃ scheme slashes authority, text = scheme ++ ':' :: (slashes ++ authority) ∧
    IsScheme scheme ∧ scheme.map Char.toLower = o.scheme ∧ (∀ c ∈ slashes, isSlash c = true) ∧
    (∀ c ∈ authority, endsAuthority true c = false) ∧ authority ≠ [] ∧
    origin? o.secure authority = some o

theorem secure_of_origin? {secure : Bool} {authority : List Char} {o : Url}
    (h : origin? secure authority = some o) : o.secure = secure := by
  simp only [origin?, Option.bind_eq_bind] at h
  split at h
  · cases h
  · obtain ⟨host, -, h⟩ := Option.bind_eq_some_iff.mp h
    obtain ⟨port, -, h⟩ := Option.bind_eq_some_iff.mp h
    cases h
    rfl

theorem parse?_of_scheme {text : String} {secure : Bool} {rest : List Char}
    (h : splitScheme? (cleaned text.toList) =
      some (if secure then "https".toList else "http".toList, rest)) :
    parse? text = (web? secure rest).map .web := by
  rw [parse?, h]
  cases secure with
  | false => rfl
  | true => rfl

theorem scheme_of_parse? {text : String} {u : Url} (h : parse? text = some (.web u)) :
    ∃ secure rest, splitScheme? (cleaned text.toList) =
      some (if secure then "https".toList else "http".toList, rest) ∧
        web? secure rest = some u := by
  rw [parse?] at h
  obtain ⟨⟨scheme, rest⟩, found, h⟩ := Option.bind_eq_some_iff.mp h
  dsimp only at h
  have named : ∀ {s : String}, String.ofList scheme = s → scheme = s.toList := by
    rintro s rfl
    rw [String.toList_ofList]
  split at h
  · rename_i plain
    obtain ⟨v, read, same⟩ := Option.map_eq_some_iff.mp h
    cases same
    exact ⟨false, rest, by rw [found, named plain]; rfl, read⟩
  · rename_i secured
    obtain ⟨v, read, same⟩ := Option.map_eq_some_iff.mp h
    cases same
    exact ⟨true, rest, by rw [found, named secured]; rfl, read⟩
  all_goals simp at h

/-- What is read from a text of the web: an origin, and a place on the server. -/
theorem parse?_eq_web_iff {text : String} {u : Url} : parse? text = some (.web u) ↔
    ∃ origin rest o, cleaned text.toList = origin ++ rest ∧ IsOrigin origin o ∧ IsPlace rest ∧
      u = o.place rest := by
  constructor
  · intro h
    obtain ⟨secure, rest, found, read⟩ := scheme_of_parse? h
    obtain ⟨scheme, whole, valid, lower⟩ := splitScheme?_eq_some_iff.mp found
    obtain ⟨slashes, authority, place, rfl, front, inside, some', ends⟩ := exists_parts read
    rw [web?_append front inside some' ends] at read
    obtain ⟨o, origin, same⟩ := Option.map_eq_some_iff.mp read
    have secured := secure_of_origin? origin
    refine ⟨scheme ++ ':' :: (slashes ++ authority), place, o, ?_, ?_, ends, same.symm⟩
    · simp [whole]
    · refine ⟨scheme, slashes, authority, rfl, valid, ?_, front, inside, some', ?_⟩
      · rw [← lower, Url.scheme, secured]
      · rw [secured, origin]
  · rintro ⟨_, rest, o, whole, ⟨scheme, slashes, authority, rfl, valid, lower, front, inside,
      some', origin⟩, ends, rfl⟩
    have found : splitScheme? (cleaned text.toList) =
        some (if o.secure then "https".toList else "http".toList, slashes ++ authority ++ rest) :=
      splitScheme?_eq_some_iff.mpr ⟨scheme, by simp [whole], valid, lower.symm⟩
    rw [parse?_of_scheme found, web?_append front inside some' ends, origin]
    rfl

theorem splitUser_of_not_mem {server : List Char} (free : '@' ∉ server) :
    splitUser server = (none, server) := by
  have cut : server.reverse.span (· != '@') = (server.reverse, []) := by
    refine span_of_all fun c hc => ?_
    rw [bne_iff_ne]
    rintro rfl
    exact free (List.mem_reverse.mp hc)
  rw [splitUser, cut]
  simp

theorem splitUser_append (user : List Char) {server : List Char} (free : '@' ∉ server) :
    splitUser (user ++ '@' :: server) = (some user, server) := by
  have order : (user ++ '@' :: server).reverse = server.reverse ++ '@' :: user.reverse := by simp
  have cut : (user ++ '@' :: server).reverse.span (· != '@') =
      (server.reverse, '@' :: user.reverse) := by
    rw [order]
    refine span_append_cons (fun c hc => ?_) (by decide) _
    rw [bne_iff_ne]
    rintro rfl
    exact free (List.mem_reverse.mp hc)
  rw [splitUser, cut]
  simp

theorem splitPort_of_start {port : List Char} (start : ∀ c ∈ port.head?, c = ':') :
    splitPort false port = ([], port) := by
  cases port with
  | nil => rfl
  | cons c port =>
    obtain rfl := start c rfl
    simp [splitPort]

/-- Outside of brackets, the host goes on as long as there is no colon. -/
theorem splitPort_append {host : List Char}
    (plain : ∀ c ∈ host, c ≠ ':' ∧ c ≠ '[' ∧ c ≠ ']') (rest : List Char) :
    splitPort false (host ++ rest) =
      (host ++ (splitPort false rest).1, (splitPort false rest).2) := by
  induction host with
  | nil => rfl
  | cons c host ih =>
    obtain ⟨colon, opening, closing⟩ := plain c List.mem_cons_self
    simp [splitPort, colon, opening, closing, ih fun d hd => plain d (List.mem_cons_of_mem c hd)]

/-- Within brackets, it goes on up to the closing one. -/
theorem splitPort_closing {inner : List Char} (plain : ∀ c ∈ inner, c ≠ '[' ∧ c ≠ ']')
    (rest : List Char) : splitPort true (inner ++ ']' :: rest) =
      (inner ++ ']' :: (splitPort false rest).1, (splitPort false rest).2) := by
  induction inner with
  | nil => simp [splitPort]
  | cons c inner ih =>
    obtain ⟨opening, closing⟩ := plain c List.mem_cons_self
    simp [splitPort, opening, closing, ih fun d hd => plain d (List.mem_cons_of_mem c hd)]

theorem splitPort_bracketed {inner : List Char} (plain : ∀ c ∈ inner, c ≠ '[' ∧ c ≠ ']')
    (rest : List Char) : splitPort false ('[' :: inner ++ ']' :: rest) =
      ('[' :: inner ++ ']' :: (splitPort false rest).1, (splitPort false rest).2) := by
  simp [splitPort, splitPort_closing plain]

/-- A sign that no reader takes away: neither white space nor a control character. -/
def IsVisible (c : Char) : Prop := 0x20 < c.toNat ∧ Text.isBlank c = false

instance (c : Char) : Decidable (IsVisible c) := inferInstanceAs (Decidable (_ ∧ _))

section
variable {cs : List Char} (visible : ∀ c ∈ cs, IsVisible c)
include visible

theorem trim_around {before after : List Char} (blank : ∀ c ∈ before, Text.isBlank c = true)
    (blank' : ∀ c ∈ after, Text.isBlank c = true) (some' : cs ≠ []) :
    Text.trim (before ++ cs ++ after) = cs :=
  Text.trim_append blank blank' some'
    (fun c hc => (visible c (List.mem_of_mem_head? hc)).2)
    fun c hc => (visible c (List.mem_of_getLast? hc)).2

theorem not_blank_of_visible : ∀ c ∈ cs.head?, decide (c.toNat ≤ 0x20) = false := fun c hc =>
  decide_eq_false (Nat.not_le.mpr (visible c (List.mem_of_mem_head? hc)).1)

theorem filter_of_visible : cs.filter (fun c => c != '\t' && c != '\n' && c != '\r') = cs := by
  refine List.filter_eq_self.mpr fun c hc => ?_
  have other : ∀ d : Char, d.toNat ≤ 0x20 → c ≠ d := by
    rintro d low rfl
    exact absurd (visible c hc).1 (Nat.not_lt.mpr low)
  simp [other '\t' (by decide), other '\n' (by decide), other '\r' (by decide)]

/-- No sign is taken away. -/
theorem cleaned_of_visible : cleaned cs = cs := by
  have visible' : ∀ c ∈ cs.reverse, IsVisible c := fun c hc => visible c (List.mem_reverse.mp hc)
  rw [cleaned, dropWhile_of_stops (not_blank_of_visible visible),
    dropWhile_of_stops (not_blank_of_visible visible'), List.reverse_reverse,
    filter_of_visible visible]

end

end PlayerRegistry.Url
