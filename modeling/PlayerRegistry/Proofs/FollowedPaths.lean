import PlayerRegistry.Proofs.WrittenUrls

/-!
# Paths that go on

What is put behind a slash at the end of a URL leads on from where the URL leads to. Dots in front
of it have been followed by then, and the origin is the same.
-/

namespace PlayerRegistry.Url

variable {origin place rest : List Char}

/-- One segment that is not the last; a path is given in reverse. -/
def enter (done : List (List Char)) (segment : List Char) : List (List Char) :=
  if isDoubleDot segment then leave done else if isDot segment then done else segment :: done

/-- Where segments lead to from `done` if more of them follow. -/
def walk (done segments : List (List Char)) : List (List Char) := segments.foldl enter done

theorem follow_append {more : List (List Char)} (some' : more ≠ [])
    (done segments : List (List Char)) :
    follow done (segments ++ more) = follow (walk done segments) more := by
  induction segments generalizing done with
  | nil => rfl
  | cons segment segments ih =>
    have step : follow done (segment :: (segments ++ more)) =
        follow (enter done segment) (segments ++ more) := by
      rw [follow, enter]
      · split
        · rfl
        · split
          · rfl
          · rfl
      · simp [some']
    rw [List.cons_append, step, ih]
    rfl

/-- A segment that is a name, and does not lead up or stay. -/
def IsName (segment : List Char) : Prop := isDot segment = false ∧ isDoubleDot segment = false

theorem mem_lower_iff {segment : List Char} {texts : List String} :
    texts.contains (String.ofList segment).toLower = true ↔
      segment.map Char.toLower ∈ texts.map String.toList := by
  have lower : (String.ofList segment).toLower.toList = segment.map Char.toLower := by
    change (String.map Char.toLower (String.ofList segment)).toList = _
    rw [String.toList_map, String.toList_ofList]
  rw [List.contains_iff_mem, List.mem_map]
  constructor
  · intro h
    exact ⟨_, h, lower⟩
  · rintro ⟨text, h, same⟩
    rw [← lower, String.toList_inj] at same
    rwa [← same]

theorem isDot_iff {segment : List Char} : isDot segment = true ↔
    segment.map Char.toLower ∈ [".".toList, "%2e".toList] := mem_lower_iff

theorem isDoubleDot_iff {segment : List Char} : isDoubleDot segment = true ↔
    segment.map Char.toLower ∈
      ["..".toList, ".%2e".toList, "%2e.".toList, "%2e%2e".toList] := mem_lower_iff

theorem isName_nil : IsName [] := by
  rw [IsName, ← Bool.not_eq_true, ← Bool.not_eq_true, isDot_iff, isDoubleDot_iff]
  decide

theorem follow_names {names : List (List Char)} (h : ∀ s ∈ names, IsName s)
    (done : List (List Char)) : follow done names = done.reverse ++ names := by
  induction names generalizing done with
  | nil => simp [follow]
  | cons name names ih =>
    obtain ⟨dot, doubleDot⟩ := h name List.mem_cons_self
    have rest := ih fun s hs => h s (List.mem_cons_of_mem name hs)
    cases names with
    | nil => simp [follow, dot, doubleDot]
    | cons next names =>
      rw [follow]
      · simp only [dot, doubleDot, Bool.false_eq_true, if_false, rest, List.reverse_cons,
          List.append_assoc, List.singleton_append]
      · exact nofun

theorem walk_names {names : List (List Char)} (h : ∀ s ∈ names, IsName s)
    (done : List (List Char)) : walk done names = names.reverse ++ done := by
  induction names generalizing done with
  | nil => rfl
  | cons name names ih =>
    obtain ⟨dot, doubleDot⟩ := h name List.mem_cons_self
    have step : enter done name = name :: done := by simp [enter, dot, doubleDot]
    have rest := ih (fun s hs => h s (List.mem_cons_of_mem name hs)) (name :: done)
    rw [walk] at rest
    rw [walk, List.foldl_cons, step, rest]
    simp

/-- The last segment is a name like the others, or an empty one is left in its place. -/
theorem exists_follow {segments : List (List Char)} (some' : segments ≠ []) :
    ∃ k, follow [] segments = (walk [] segments).reverse ++ List.replicate k [] := by
  obtain ⟨before, last, rfl⟩ := List.eq_nil_or_concat segments |>.resolve_left some'
  have whole : walk [] (before ++ [last]) = enter (walk [] before) last := by
    rw [walk, List.foldl_append]
    rfl
  rw [List.concat_eq_append, follow_append (by simp), whole, follow, enter]
  split
  · exact ⟨1, by simp⟩
  · split
    · exact ⟨1, by simp⟩
    · exact ⟨0, by simp⟩

theorem segments_append (cs ds : List Char) :
    segments (cs ++ '/' :: ds) = segments cs ++ segments ds := by
  rw [segments, List.map_append, List.map_cons]
  exact splitAtChar_append_separator _ _

theorem segments_of_name {name : List Char} (free : ∀ c ∈ name, isSlash c = false) :
    segments name = [name] := by
  have same : name.map (fun c => if c = '\\' then '/' else c) = name := by
    refine (List.map_congr_left fun c hc => ?_).trans (List.map_id name)
    have := free c hc
    rw [isSlash, Bool.or_eq_false_iff, beq_eq_false_iff_ne, beq_eq_false_iff_ne] at this
    exact if_neg this.2
  rw [segments, same, splitAtChar_of_not_mem]
  intro slash
  cases free '/' slash

theorem segments_slashes (n : Nat) :
    segments (List.replicate n '/') = List.replicate (n + 1) [] := by
  induction n with
  | zero => rfl
  | succ n ih =>
    have step := segments_append [] (List.replicate n '/')
    rw [List.nil_append, ih] at step
    exact step

/-- Where a place leads to if a slash and more follow. -/
def base (place : List Char) : List (List Char) :=
  if place = [] then []
  else (walk [] ((segments (place.drop 1)).map (Percent.encode keptInPath))).reverse

theorem readPath_append (place rest : List Char) : readPath (place ++ '/' :: rest) =
    follow (base place).reverse ((segments rest).map (Percent.encode keptInPath)) := by
  have more : (segments rest).map (Percent.encode keptInPath) ≠ [] := by
    rw [segments, splitAtChar_eq_splitOn]
    simp
  cases place with
  | nil => rfl
  | cons c place =>
    rw [readPath, List.cons_append, List.drop_one, List.tail_cons, segments_append, List.map_append,
      follow_append more, base, if_neg (List.cons_ne_nil c place), List.reverse_reverse]
    rfl

theorem readPath_nil : readPath [] = [[]] := by
  have plain : ∀ s ∈ [([] : List Char)], IsName s := by simpa using isName_nil
  exact follow_names plain []

theorem readPath_slash (place : List Char) : readPath (place ++ ['/']) = base place ++ [[]] := by
  rw [readPath_append]
  change follow (base place).reverse [[]] = _
  rw [follow_names (by simpa using isName_nil), List.reverse_reverse]

/-- Slashes at the end are empty segments; without one, there may be one as well. -/
theorem exists_readPath (place : List Char) (n : Nat) :
    ∃ k, readPath (place ++ List.replicate n '/') = base place ++ List.replicate k [] := by
  cases n with
  | succ n =>
    refine ⟨n + 1, ?_⟩
    have plain : ∀ s ∈ List.replicate (n + 1) ([] : List Char), IsName s := by
      intro s hs
      rw [List.eq_of_mem_replicate hs]
      exact isName_nil
    rw [List.replicate_succ, readPath_append, segments_slashes, List.map_replicate]
    change follow _ (List.replicate (n + 1) []) = _
    rw [follow_names plain, List.reverse_reverse]
  | zero =>
    rw [List.replicate_zero, List.append_nil]
    cases place with
    | nil => exact ⟨1, readPath_nil⟩
    | cons c place =>
      have some' : (segments place).map (Percent.encode keptInPath) ≠ [] := by
        rw [segments, splitAtChar_eq_splitOn]
        simp
      obtain ⟨k, followed⟩ := exists_follow some'
      refine ⟨k, ?_⟩
      rw [readPath, base, if_neg (List.cons_ne_nil c place), List.drop_one, List.tail_cons,
        followed]

/-- What is left of the beginning of a text. -/
def cleanedStart (cs : List Char) : List Char :=
  (cs.dropWhile fun c => decide (c.toNat ≤ 0x20)).filter fun c =>
    c != '\t' && c != '\n' && c != '\r'

theorem cleaned_of_last {cs : List Char} (ends : ∀ c ∈ cs.getLast?, 0x20 < c.toNat) :
    cleaned cs = cleanedStart cs := by
  have stops : ∀ c ∈ (cs.dropWhile fun c => decide (c.toNat ≤ 0x20)).reverse.head?,
      decide (c.toNat ≤ 0x20) = false := by
    intro c hc
    rw [List.head?_reverse] at hc
    refine decide_eq_false (Nat.not_le.mpr (ends c ?_))
    obtain ⟨front, whole⟩ :=
      List.dropWhile_suffix (fun c : Char => decide (c.toNat ≤ 0x20)) (l := cs)
    rw [← whole, List.getLast?_append, Option.mem_def.mp hc]
    rfl
  rw [cleaned, dropWhile_of_stops stops, List.reverse_reverse]
  rfl

theorem cleanedStart_append (cs : List Char) {more : List Char}
    (visible : ∀ c ∈ more, IsVisible c) : cleanedStart (cs ++ more) = cleanedStart cs ++ more := by
  have start : (cs ++ more).dropWhile (fun c => decide (c.toNat ≤ 0x20)) =
      cs.dropWhile (fun c => decide (c.toNat ≤ 0x20)) ++ more := by
    rw [List.dropWhile_append]
    split
    · rename_i empty
      rw [List.isEmpty_iff.mp empty, dropWhile_of_stops (not_blank_of_visible visible)]
      rfl
    · rfl
  rw [cleanedStart, start, List.filter_append, filter_of_visible visible]
  rfl

theorem mem_of_mem_cleanedStart {c : Char} {cs : List Char} (h : c ∈ cleanedStart cs) : c ∈ cs :=
  List.dropWhile_sublist _ |>.subset (List.mem_filter.mp h).1

theorem exists_slashes (text : String) : ∃ n,
    text.toList = (Text.withoutTrailingSlashes text).toList ++ List.replicate n '/' := by
  let slashes := text.toList.reverse.takeWhile (· == '/')
  have all : slashes = List.replicate slashes.length '/' :=
    List.eq_replicate_iff.mpr ⟨rfl, fun c hc => by simpa using List.mem_takeWhile_imp hc⟩
  have whole : slashes ++ text.toList.reverse.dropWhile (· == '/') = text.toList.reverse :=
    List.takeWhile_append_dropWhile
  have back := congrArg List.reverse whole
  rw [List.reverse_append, List.reverse_reverse, all, List.reverse_replicate] at back
  exact ⟨slashes.length, by rw [Text.withoutTrailingSlashes, String.toList_ofList, back]⟩

theorem IsOrigin.last {o : Url} (h : IsOrigin origin o) :
    ∀ c ∈ origin.getLast?, endsAuthority true c = false := by
  obtain ⟨scheme, slashes, authority, rfl, -, -, -, inside, some', -⟩ := h
  obtain ⟨front, last, rfl⟩ := List.eq_nil_or_concat authority |>.resolve_left some'
  have split : scheme ++ ':' :: (slashes ++ (front ++ [last])) =
      scheme ++ ':' :: (slashes ++ front) ++ [last] := by simp
  intro c hc
  rw [List.concat_eq_append] at inside
  rw [List.concat_eq_append, split, List.getLast?_concat] at hc
  cases hc
  exact inside last (by simp)

/-- The slashes at the end of a text are no part of its origin. -/
theorem exists_place {cs : List Char} {n : Nat} {o : Url} (h : IsOrigin origin o)
    (whole : cs ++ List.replicate n '/' = origin ++ rest) :
    ∃ place, cs = origin ++ place ∧ rest = place ++ List.replicate n '/' := by
  rcases List.append_eq_append_iff.mp whole with ⟨more, split, slashes⟩ | ⟨place, split, same⟩
  · obtain rfl : more = [] := by
      by_contra some'
      obtain ⟨front, last, rfl⟩ := List.eq_nil_or_concat more |>.resolve_left some'
      have slash : last = '/' := by
        refine List.eq_of_mem_replicate (n := n) ?_
        rw [slashes]
        simp
      have ends := h.last last (by rw [split]; simp)
      rw [slash] at ends
      cases ends
    exact ⟨[], by simpa using split.symm, by simpa using slashes.symm⟩
  · exact ⟨place, split, same⟩

theorem place_of_plain (o : Url) (plain : ∀ c ∈ place, c ≠ '?' ∧ c ≠ '#') :
    o.place place = { o with path := readPath place, query := none, fragment := none } := by
  have beforeFragment : place.span (· != '#') = (place, []) :=
    span_of_all fun c hc => bne_iff_ne.mpr (plain c hc).2
  have beforeQuery : place.span (· != '?') = (place, []) :=
    span_of_all fun c hc => bne_iff_ne.mpr (plain c hc).1
  rw [Url.place, beforeFragment]
  dsimp only
  rw [beforeQuery]
  rfl

/-- A URL without query and fragment goes on behind a slash, whatever slashes it ends with. -/
theorem parse?_onward {text : String} {o : Url} (read : parse? text = some (.web o))
    (plain : ∀ c ∈ text.toList, c ≠ '?' ∧ c ≠ '#')
    (ends : ∀ c ∈ text.toList.getLast?, 0x20 < c.toNat) :
    ∃ place, o.query = none ∧ (∃ k, o.path = base place ++ List.replicate k []) ∧
      ∀ tail, (∀ c ∈ tail, IsVisible c ∧ c ≠ '?' ∧ c ≠ '#') →
        parse? (Text.withoutTrailingSlashes text ++ String.ofList ('/' :: tail)) =
          some (.web { o with path := readPath (place ++ '/' :: tail) }) := by
  obtain ⟨origin, rest, o', whole, isOrigin, ends', rfl⟩ := parse?_eq_web_iff.mp read
  obtain ⟨n, slashes⟩ := exists_slashes text
  let front := (Text.withoutTrailingSlashes text).toList
  have slash : ∀ c ∈ List.replicate n '/', IsVisible c := fun c hc => by
    rw [List.eq_of_mem_replicate hc]
    decide
  have start : cleanedStart front ++ List.replicate n '/' = origin ++ rest := by
    rw [← whole, cleaned_of_last ends, slashes, cleanedStart_append _ slash]
  obtain ⟨place, begins, rfl⟩ := exists_place isOrigin start
  have free : ∀ c ∈ place ++ List.replicate n '/', c ≠ '?' ∧ c ≠ '#' := by
    intro c hc
    apply plain c
    rw [cleaned_of_last ends] at whole
    exact mem_of_mem_cleanedStart (whole ▸ List.mem_append_right origin hc)
  rw [place_of_plain o' free]
  refine ⟨place, rfl, exists_readPath place n, fun tail visible => ?_⟩
  have more : ∀ c ∈ '/' :: tail, IsVisible c ∧ c ≠ '?' ∧ c ≠ '#' :=
    List.forall_mem_cons.mpr ⟨by decide, visible⟩
  have free' : ∀ c ∈ place ++ '/' :: tail, c ≠ '?' ∧ c ≠ '#' := by
    intro c hc
    rcases List.mem_append.mp hc with inPlace | inMore
    · exact free c (List.mem_append_left _ inPlace)
    · exact (more c inMore).2
  have isPlace : IsPlace (place ++ '/' :: tail) := by
    intro c hc
    cases place with
    | nil =>
      cases hc
      rfl
    | cons d place => exact ends' c hc
  have last : ∀ c ∈ (front ++ '/' :: tail).getLast?, 0x20 < c.toNat := by
    intro c hc
    have some' : (front ++ '/' :: tail).getLast? = ('/' :: tail).getLast? := by
      simp [List.getLast?_cons]
    rw [some'] at hc
    exact (more c (List.mem_of_getLast? hc)).1.1
  refine parse?_eq_web_iff.mpr ⟨origin, place ++ '/' :: tail, o', ?_, isOrigin, isPlace, ?_⟩
  · rw [String.toList_append, String.toList_ofList, cleaned_of_last last,
      cleanedStart_append _ fun c hc => (more c hc).1, begins, List.append_assoc]
  · rw [place_of_plain o' free']

end PlayerRegistry.Url
