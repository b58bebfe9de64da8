import PlayerRegistry.Proofs.FollowedPaths
import PlayerRegistry.Proofs.HostTexts
import PlayerRegistry.Proofs.NameBounds
import PlayerRegistry.Proofs.PercentText
import PlayerRegistry.Proofs.RemoteAnswers

/-!
# Where a player is looked up

A provider is asked for a player by a segment of the path that stands for the name, behind the path
of the provider. Names of dots are followed as a browser does, and ask for something else.
-/

namespace PlayerRegistry

namespace Url

/-- What a segment stands for once its signs are decoded. -/
def decoded? (segment : List Char) : Option (List Char) :=
  Utf8.decode? (Percent.decodeBytes (Utf8.encode segment))

theorem small_of_ascii : ∀ k < 128,
    (['.', '%', '2'].all fun d => (Char.ofNat k).toLower = d → Char.ofNat k = d) ∧
      ((Char.ofNat k).toLower = 'e' → Char.ofNat k = 'e' ∨ Char.ofNat k = 'E') := by
  decide +kernel

theorem eq_of_toLower {c d : Char} (sign : d ∈ ['.', '%', '2']) (h : c.toLower = d) : c = d := by
  have small : ∀ d ∈ ['.', '%', '2'], d.toNat < 128 := List.all_iff_forall_prop.mp (by decide)
  have ascii : c.toNat < 128 := Hex.ascii_of_toLower (by rw [h]; exact small d sign)
  have same := List.all_iff_forall_prop.mp (small_of_ascii c.toNat ascii).1 d sign
  simpa using same (by simpa using h)

theorem eq_e_of_toLower {c : Char} (h : c.toLower = 'e') : c = 'e' ∨ c = 'E' := by
  have ascii : c.toNat < 128 := Hex.ascii_of_toLower (by rw [h]; decide)
  simpa using (small_of_ascii c.toNat ascii).2 (by simpa using h)

/-- A dot, plain or encoded, is one byte. -/
theorem decodeBytes_dot {dot : List Char}
    (h : dot.map Char.toLower = ['.'] ∨ dot.map Char.toLower = ['%', '2', 'e'])
    (rest : List Char) : Percent.decodeBytes (Utf8.encode (dot ++ rest)) =
      0x2e :: Percent.decodeBytes (Utf8.encode rest) := by
  rw [Utf8.encode_append]
  rcases h with plain | encoded
  · obtain ⟨c, rfl, lower⟩ := List.map_eq_singleton_iff.mp plain
    obtain rfl := eq_of_toLower (by decide) lower
    exact Percent.decodeBytes_cons (by decide) _
  · obtain ⟨a, dot, rfl, percent, encoded⟩ := List.map_eq_cons_iff.mp encoded
    obtain ⟨b, dot, rfl, two, encoded⟩ := List.map_eq_cons_iff.mp encoded
    obtain ⟨c, rfl, letter⟩ := List.map_eq_singleton_iff.mp encoded
    obtain rfl := eq_of_toLower (by decide) percent
    obtain rfl := eq_of_toLower (by decide) two
    rcases eq_e_of_toLower letter with rfl | rfl
    · exact Percent.decodeBytes_pair (by decide) _
    · exact Percent.decodeBytes_pair (by decide) _

theorem decoded?_of_isDot {segment : List Char} (h : isDot segment = true) :
    decoded? segment = some ['.'] := by
  have lower : segment.map Char.toLower = ['.'] ∨ segment.map Char.toLower = ['%', '2', 'e'] := by
    simpa using isDot_iff.mp h
  have dot := decodeBytes_dot lower []
  rw [List.append_nil] at dot
  rw [decoded?, dot]
  exact Utf8.decode?_encode ['.']

theorem decoded?_of_isDoubleDot {segment : List Char} (h : isDoubleDot segment = true) :
    decoded? segment = some ['.', '.'] := by
  have two : ∃ first second : List Char, segment = first ++ second ∧
      (first.map Char.toLower = ['.'] ∨ first.map Char.toLower = ['%', '2', 'e']) ∧
      (second.map Char.toLower = ['.'] ∨ second.map Char.toLower = ['%', '2', 'e']) := by
    have cut : ∀ {a b : List Char}, segment.map Char.toLower = a ++ b →
        ∃ first second : List Char, segment = first ++ second ∧
          first.map Char.toLower = a ∧ second.map Char.toLower = b := List.map_eq_append_iff.mp
    have texts := isDoubleDot_iff.mp h
    simp only [List.mem_cons, List.not_mem_nil, or_false] at texts
    rcases texts with h | h | h | h
    · obtain ⟨first, second, whole, left, right⟩ := cut (a := ['.']) (b := ['.']) h
      exact ⟨first, second, whole, .inl left, .inl right⟩
    · obtain ⟨first, second, whole, left, right⟩ := cut (a := ['.']) (b := ['%', '2', 'e']) h
      exact ⟨first, second, whole, .inl left, .inr right⟩
    · obtain ⟨first, second, whole, left, right⟩ := cut (a := ['%', '2', 'e']) (b := ['.']) h
      exact ⟨first, second, whole, .inr left, .inl right⟩
    · obtain ⟨first, second, whole, left, right⟩ :=
        cut (a := ['%', '2', 'e']) (b := ['%', '2', 'e']) h
      exact ⟨first, second, whole, .inr left, .inr right⟩
  obtain ⟨first, second, rfl, left, right⟩ := two
  have dot := decodeBytes_dot right []
  rw [List.append_nil] at dot
  rw [decoded?, decodeBytes_dot left, dot]
  exact Utf8.decode?_encode ['.', '.']

end Url

namespace Provider

/-- The segment of a name. -/
def segment (username : String) : List Char := (Percent.encodeComponent username).toList

variable {username : String}

theorem decoded?_segment (username : String) :
    Url.decoded? (segment username) = some username.toList := by
  rw [Url.decoded?, segment, Percent.toList_encodeComponent, Percent.decodeBytes_encode,
    Utf8.decode?_encode]

theorem kept_of_ascii : ∀ k < 128, Percent.isUnreserved (Char.ofNat k) = true →
    Url.keptInPath (Char.ofNat k) = true ∧ Url.isSlash (Char.ofNat k) = false := by decide +kernel

section
variable {c : Char} (h : c ∈ segment username)
include h

theorem ascii_of_mem_segment : c.toNat < 128 := Percent.ascii_of_mem_encodeComponent h

theorem kept_of_mem_segment : Url.keptInPath c = true ∧ Url.isSlash c = false := by
  have mem := h
  rw [segment, Percent.toList_encodeComponent] at mem
  rcases Percent.mem_encode mem with rfl | unreserved
  · decide
  · simpa using kept_of_ascii c.toNat (ascii_of_mem_segment h) (by simpa using unreserved)

theorem visible_of_mem_segment : Url.IsVisible c ∧ c ≠ '?' ∧ c ≠ '#' := by
  have visible : ∀ k < 128, Url.keptInPath (Char.ofNat k) = true →
      Url.IsVisible (Char.ofNat k) ∧ Char.ofNat k ≠ '?' ∧ Char.ofNat k ≠ '#' := by decide +kernel
  simpa using visible c.toNat (ascii_of_mem_segment h) (by simpa using (kept_of_mem_segment h).1)

end

/-- A segment of kept signs is not encoded again. -/
theorem encode_segment (username : String) :
    Percent.encode Url.keptInPath (segment username) = segment username := by
  have each : ∀ c ∈ segment username, Percent.encodeChar Url.keptInPath c = [c] := by
    intro c hc
    refine if_pos (Bool.and_eq_true_iff.mpr ⟨?_, (kept_of_mem_segment hc).1⟩)
    exact decide_eq_true (ascii_of_mem_segment hc)
  rw [Percent.encode, List.flatMap_def, List.map_congr_left each, ← List.flatMap_def,
    List.flatMap_singleton']

theorem isName_segment (one : username ≠ ".") (two : username ≠ "..") :
    Url.IsName (segment username) := by
  have name := decoded?_segment username
  constructor
  · rw [← Bool.not_eq_true]
    intro dot
    rw [Url.decoded?_of_isDot dot] at name
    exact one (String.toList_inj.mp (Option.some.inj name).symm)
  · rw [← Bool.not_eq_true]
    intro dots
    rw [Url.decoded?_of_isDoubleDot dots] at name
    exact two (String.toList_inj.mp (Option.some.inj name).symm)

/-- The directory of the players. -/
def directory : List (List Char) := ["users".toList, "profiles".toList, "minecraft".toList]

theorem isName_directory : ∀ s ∈ directory, Url.IsName s := by
  intro s hs
  rw [Url.IsName, ← Bool.not_eq_true, ← Bool.not_eq_true, Url.isDot_iff, Url.isDoubleDot_iff]
  revert s
  decide

theorem segments_player (username : String) :
    (Url.segments ("users/profiles/minecraft/".toList ++ segment username)).map
      (Percent.encode Url.keptInPath) = directory ++ [segment username] := by
  have text : "users/profiles/minecraft/".toList ++ segment username =
      "users".toList ++ '/' :: ("profiles".toList ++ '/' :: ("minecraft".toList ++ '/' ::
        segment username)) := rfl
  rw [text, Url.segments_append, Url.segments_append, Url.segments_append,
    Url.segments_of_name fun c hc => (kept_of_mem_segment hc).2]
  simp only [List.map_append, List.map_cons, List.map_nil, encode_segment]
  rfl

/-- The path of a player behind the one of the provider: two dots lead out of the directory, and one
stays in it. -/
def playerPath (username : String) : List (List Char) :=
  if username = ".." then ["users".toList, "profiles".toList, []]
  else if username = "." then directory ++ [[]]
  else directory ++ [segment username]

/-- Where a player is looked up, dots followed. -/
theorem readPath_player (place : List Char) (username : String) :
    Url.readPath (place ++ '/' :: ("users/profiles/minecraft/".toList ++ segment username)) =
      Url.base place ++ playerPath username := by
  rw [Url.readPath_append, segments_player, Url.follow_append (List.cons_ne_nil _ _),
    Url.walk_names isName_directory, playerPath]
  split
  · rename_i two
    have up : Url.isDoubleDot (segment username) = true := by
      rw [Url.isDoubleDot_iff, two]
      decide
    simp [Url.follow, up, directory, Url.leave, Url.isDrive]
  · rename_i other
    split
    · rename_i one
      have stay : Url.isDot (segment username) = true := by
        rw [Url.isDot_iff, one]
        decide
      have plain : Url.isDoubleDot (segment username) = false := by
        rw [← Bool.not_eq_true, Url.isDoubleDot_iff, one]
        decide
      simp [Url.follow, stay, plain]
    · rename_i other'
      have name : ∀ s ∈ [segment username], Url.IsName s := by
        simpa using isName_segment other' other
      rw [Url.follow_names name]
      simp

theorem segment_ne_nil (filled : username ≠ "") : segment username ≠ [] := by
  intro empty
  have name := decoded?_segment username
  rw [empty] at name
  exact filled (String.toList_inj.mp (Option.some.inj name).symm)

/-- The name that a path stands for. -/
def nameOf? : List (List Char) → Option (List Char)
  | [_, _, []] => some "..".toList
  | [_, _, _, []] => some ".".toList
  | [_, _, _, name] => Url.decoded? name
  | _ => none

theorem nameOf?_playerPath (filled : username ≠ "") :
    nameOf? (playerPath username) = some username.toList := by
  rw [playerPath]
  split
  · rename_i two
    rw [two]
    rfl
  · split
    · rename_i one
      rw [one]
      rfl
    · have name := decoded?_segment username
      cases given : segment username with
      | nil => exact absurd given (segment_ne_nil filled)
      | cons c cs =>
        rw [given] at name
        exact name

/-- Different names have different paths. -/
theorem playerPath_injective {other : String} (filled : username ≠ "") (filled' : other ≠ "")
    (same : playerPath username = playerPath other) : username = other := by
  have name := nameOf?_playerPath filled
  rw [same, nameOf?_playerPath filled'] at name
  exact (String.toList_inj.mp (Option.some.inj name)).symm

theorem toList_profileAddress (accountUrl username : String) :
    profileAddress accountUrl username = Text.withoutTrailingSlashes accountUrl ++
      String.ofList ('/' :: ("users/profiles/minecraft/".toList ++ segment username)) := by
  rw [← String.toList_inj, profileAddress]
  simp only [String.toList_append, String.toList_ofList, segment, List.append_assoc]
  rfl

theorem visible_player (username : String) :
    ∀ c ∈ "users/profiles/minecraft/".toList ++ segment username,
      Url.IsVisible c ∧ c ≠ '?' ∧ c ≠ '#' := by
  have front : ∀ c ∈ "users/profiles/minecraft/".toList,
      Url.IsVisible c ∧ c ≠ '?' ∧ c ≠ '#' := List.all_iff_forall_prop.mp (by decide)
  intro c hc
  rcases List.mem_append.mp hc with inFront | inName
  · exact front c inFront
  · exact visible_of_mem_segment inName

theorem lookupProfile_of_parse? {w : Web} {accountUrl : String} {u : Url}
    (read : Url.parse? (profileAddress accountUrl username) = some (.web u)) :
    lookupProfile w accountUrl username = ⟨(w.send u).1, readProfile (w.send u).2⟩ := by
  rw [lookupProfile, ask, read]

/-- The URL of a player at a provider whose URL has the path `base`. -/
def playerUrl (o : Url) (base : List (List Char)) (username : String) : Url :=
  { o with path := base ++ playerPath username }

theorem playerUrl_injective {o : Url} {base : List (List Char)} {other : String}
    (filled : username ≠ "") (filled' : other ≠ "")
    (same : (playerUrl o base username).target = (playerUrl o base other).target) :
    username = other :=
  playerPath_injective filled filled' (List.append_cancel_left (congrArg Url.path same))

theorem ne_empty_of_checkUsername (h : Field.checkUsername username = .ok ()) : username ≠ "" := by
  rintro rfl
  exact ((checkUsername_iff "").mp h).1 rfl

/-- The URL `http://api.test/`. -/
def apiTest : Url := ⟨false, [], [], .name "api.test".toList, none, [[]], none, none⟩

theorem isOrigin_apiTest : Url.IsOrigin "http://api.test".toList { apiTest with path := [] } := by
  have host : Url.host? "api.test".toList = some (.name "api.test".toList) :=
    Url.host?_of_ascii (List.all_iff_forall_prop.mp (by decide)) (by decide) (by decide)
      (by decide) (by decide) (by decide) (List.all_iff_forall_prop.mp (by decide)) (by decide)
  have user : Url.splitUser "api.test".toList = (none, "api.test".toList) :=
    Url.splitUser_of_not_mem (by decide)
  have port : Url.splitPort false "api.test".toList = ("api.test".toList, []) := by decide
  refine ⟨"http".toList, "//".toList, "api.test".toList, rfl,
    ⟨List.all_iff_forall_prop.mp (by decide), 'h', rfl, rfl⟩, by decide,
    List.all_iff_forall_prop.mp (by decide), List.all_iff_forall_prop.mp (by decide), by decide, ?_⟩
  rw [Url.origin?, user]
  dsimp only
  rw [port]
  dsimp only
  rw [host]
  rfl

theorem parse?_apiTest {text : String} {place : List Char}
    (whole : text.toList = "http://api.test".toList ++ place)
    (visible : ∀ c ∈ place, Url.IsVisible c ∧ c ≠ '?' ∧ c ≠ '#') (ends : Url.IsPlace place) :
    Url.parse? text = some (.web { apiTest with path := Url.readPath place }) := by
  have visible' : ∀ c ∈ "http://api.test".toList ++ place, Url.IsVisible c := by
    have front : ∀ c ∈ "http://api.test".toList, Url.IsVisible c :=
      List.all_iff_forall_prop.mp (by decide)
    intro c hc
    rcases List.mem_append.mp hc with inFront | inPlace
    · exact front c inFront
    · exact (visible c inPlace).1
  refine Url.parse?_eq_web_iff.mpr
    ⟨_, place, _, ?_, isOrigin_apiTest, ends, ?_⟩
  · rw [whole, Url.cleaned_of_visible visible']
  · rw [Url.place_of_plain _ fun c hc => (visible c hc).2]
    rfl

theorem parse?_apiTest_nil : Url.parse? "http://api.test" = some (.web apiTest) := by
  have whole : "http://api.test".toList = "http://api.test".toList ++ [] := by decide
  have read := parse?_apiTest whole nofun nofun
  rwa [Url.readPath_nil] at read

/-- A player is asked for at the origin of the provider, behind its path, in the directory of the
players, and with the segment that stands for the name. The names of one and of two dots are
followed and ask for directories; still no two names ask for the same. -/
theorem players_are_told_apart {accountUrl : String} {o : Url}
    (read : Url.parse? accountUrl = some (.web o))
    (plain : ∀ c ∈ accountUrl.toList, c ≠ '?' ∧ c ≠ '#')
    (ends : ∀ c ∈ accountUrl.toList.getLast?, 0x20 < c.toNat) :
    ∃ base, o.query = none ∧ (∃ k, o.path = base ++ List.replicate k []) ∧
      Url.parse? (Text.withoutTrailingSlashes accountUrl ++ "/") =
        some (.web { o with path := base ++ [[]] }) ∧
      ∀ username, Field.checkUsername username = .ok () →
        (∀ w, lookupProfile w accountUrl username =
          ⟨(w.send (playerUrl o base username)).1,
            readProfile (w.send (playerUrl o base username)).2⟩) ∧
        (username ≠ "." → username ≠ ".." → ∃ name, playerPath username = directory ++ [name] ∧
          name ≠ [] ∧ '/' ∉ name ∧ Url.decoded? name = some username.toList) ∧
        (username = "." → playerPath username = directory ++ [[]]) ∧
        (username = ".." → playerPath username = ["users".toList, "profiles".toList, []]) ∧
        ∀ other, Field.checkUsername other = .ok () → other ≠ username →
          (playerUrl o base other).target ≠ (playerUrl o base username).target := by
  obtain ⟨place, query, path, onward⟩ := Url.parse?_onward read plain ends
  have slash := onward [] nofun
  rw [Url.readPath_slash] at slash
  refine ⟨Url.base place, query, path, slash, fun username accepted => ⟨fun w => ?_,
    fun one two => ⟨segment username, ?_, ?_, ?_, decoded?_segment username⟩, ?_, ?_,
    fun other accepted' different same => different ?_⟩⟩
  · apply lookupProfile_of_parse?
    rw [toList_profileAddress, onward _ (visible_player username), readPath_player, playerUrl]
  · rw [playerPath, if_neg two, if_neg one]
  · exact segment_ne_nil (ne_empty_of_checkUsername accepted)
  · intro inside
    cases (kept_of_mem_segment inside).2
  · rintro rfl
    rfl
  · rintro rfl
    rfl
  · exact playerUrl_injective (ne_empty_of_checkUsername accepted')
      (ne_empty_of_checkUsername accepted) same

theorem alice_is_asked_for :
    Url.parse? "http://api.test" = some (.web apiTest) ∧
      (∀ c ∈ "http://api.test".toList, c ≠ '?' ∧ c ≠ '#') ∧
      (∀ c ∈ "http://api.test".toList.getLast?, 0x20 < c.toNat) ∧
      ∀ w, lookupProfile w "http://api.test" "alice" =
        ⟨(w.send (playerUrl apiTest [] "alice")).1,
          readProfile (w.send (playerUrl apiTest [] "alice")).2⟩ := by
  have plain : ∀ c ∈ "http://api.test".toList, c ≠ '?' ∧ c ≠ '#' :=
    List.all_iff_forall_prop.mp (by decide)
  have ends : ∀ c ∈ "http://api.test".toList.getLast?, 0x20 < c.toNat := by
    intro c last
    obtain rfl : 't' = c := Option.some.inj last
    decide
  obtain ⟨base, -, -, slash, asked⟩ := players_are_told_apart parse?_apiTest_nil plain ends
  have whole : (Text.withoutTrailingSlashes "http://api.test" ++ "/").toList =
      "http://api.test".toList ++ ([] ++ ['/']) := by decide
  have read := parse?_apiTest whole (List.all_iff_forall_prop.mp (by decide))
    (by rintro c ⟨⟩; rfl)
  rw [Url.readPath_slash] at read
  obtain rfl : base = [] := by
    rw [slash] at read
    simpa [Url.base, apiTest] using read
  exact ⟨parse?_apiTest_nil, plain, ends, (asked "alice" (by decide)).1⟩

/-- The name of two dots is accepted, and asks for what is beside the directory of the players. -/
theorem two_dots_lead_out :
    Field.checkUsername ".." = .ok () ∧ Url.parse? "http://api.test" = some (.web apiTest) ∧
      Url.parse? (profileAddress "http://api.test" "..") =
        some (.web { apiTest with path := ["users".toList, "profiles".toList, []] }) ∧
      ∀ name, ["users".toList, "profiles".toList, []] ≠ directory ++ [name] := by
  refine ⟨by decide, parse?_apiTest_nil, ?_, ?_⟩
  · have whole : (profileAddress "http://api.test" "..").toList = "http://api.test".toList ++
        ([] ++ '/' :: ("users/profiles/minecraft/".toList ++ segment "..")) := by decide
    have visible : ∀ c ∈ [] ++ '/' :: ("users/profiles/minecraft/".toList ++ segment ".."),
        Url.IsVisible c ∧ c ≠ '?' ∧ c ≠ '#' :=
      List.forall_mem_cons.mpr ⟨by decide, visible_player ".."⟩
    have read := parse?_apiTest whole visible (by rintro c ⟨⟩; rfl)
    rwa [readPath_player] at read
  · intro name equal
    cases congrArg List.length equal

end Provider

end PlayerRegistry
