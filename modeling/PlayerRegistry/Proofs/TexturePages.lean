import PlayerRegistry.Proofs.PercentText
import PlayerRegistry.Proofs.Responses
import PlayerRegistry.Proofs.SeparatedTexts
import PlayerRegistry.Proofs.TextureStores

/-!
# Pages of textures

What is answered at the path of a texture, for any two segments, and which path the URL of a texture
leads to.
-/

namespace PlayerRegistry

open Http (Request Response)
open Texture (Kind)

namespace Site

def textureWord : List Char := ['t', 'e', 'x', 't', 'u', 'r', 'e']

/-- The path of a texture, by two segments. -/
def texturePath (kind file : List Char) : List Char :=
  '/' :: (textureWord ++ '/' :: (kind ++ '/' :: file))

theorem splitAtChar_texturePath {kind file : List Char} (kindPart : '/' ∉ kind)
    (filePart : '/' ∉ file) :
    splitAtChar '/' (texturePath kind file) = [[], textureWord, kind, file] := by
  have word : '/' ∉ textureWord := by simp [textureWord]
  rw [texturePath, splitAtChar, if_pos rfl, splitAtChar_append word, splitAtChar_append kindPart,
    splitAtChar_of_not_mem filePart]

theorem Route.ofPath?_texturePath {kind file : List Char} (kindPart : '/' ∉ kind)
    (filePart : '/' ∉ file) :
    ofPath? (texturePath kind file) = if file ≠ [] then some (.texture kind file) else none := by
  have parts := splitAtChar_texturePath kindPart filePart
  have second : (texturePath kind file)[1]? = some 't' := by simp [texturePath, textureWord]
  have other : ∀ path : String, path.toList[1]? ≠ some 't' →
      String.ofList (texturePath kind file) ≠ path := by
    rintro _ differs rfl
    rw [String.toList_ofList] at differs
    exact differs second
  unfold ofPath?
  split
  case h_10 =>
    have word : "texture".toList = textureWord := by simp [textureWord]
    rw [parts, word]
    simp only [true_and]
  all_goals
    rename_i same
    exact absurd same (other _ (by simp))

theorem hashOfFile?_eq_some_iff {file hash : String} :
    hashOfFile? file = some hash ↔ file = hash ++ ".png" := by
  have ends : file.endsWith ".png" = true ↔ ".png".toList <:+ file.toList := by
    rw [String.endsWith_eq_endsWith_toSlice, String.Slice.endsWith_string_iff, String.copy_toSlice]
  have four : ".png".toList.length = 4 := by simp
  rw [hashOfFile?, Option.ite_none_right_eq_some, ends]
  constructor
  · rintro ⟨⟨before, split⟩, ⟨⟩⟩
    have length : file.length - 4 = before.length := by
      rw [← String.length_toList, ← split, List.length_append, four]
      omega
    apply String.toList_inj.mp
    rw [String.toList_append, String.toList_ofList, length, ← split, List.take_left]
  · rintro rfl
    have length : (hash ++ ".png").length - 4 = hash.toList.length := by
      rw [← String.length_toList, String.toList_append, List.length_append, four]
      omega
    refine ⟨⟨hash.toList, by rw [String.toList_append]⟩, ?_⟩
    rw [length, String.toList_append, List.take_left, String.ofList_toList]

theorem ofName?_eq_some_iff {name : String} {kind : Kind} :
    Kind.ofName? name = some kind ↔ name = kind.name := by
  constructor
  · intro h
    unfold Kind.ofName? at h
    split at h
    · rw [← Option.some.inj h]
      rfl
    · rw [← Option.some.inj h]
      rfl
    · cases h
  · rintro rfl
    exact Kind.ofName?_name kind

/-- The texture that a kind and the name of a file mean, if it is there. -/
def found? (t : Texture.Store) (kind file : String) : Option ByteArray :=
  (Kind.ofName? kind).bind fun k => (hashOfFile? file).bind fun hash => t.get k hash

theorem found?_eq_some_iff {t : Texture.Store} {kind file : String} {png : ByteArray} :
    found? t kind file = some png ↔
      ∃ k hash, kind = Kind.name k ∧ file = hash ++ ".png" ∧ t.get k hash = some png := by
  simp only [found?, Option.bind_eq_some_iff, ofName?_eq_some_iff, hashOfFile?_eq_some_iff]
  constructor
  · rintro ⟨k, known, hash, named, there⟩
    exact ⟨k, hash, known, named, there⟩
  · rintro ⟨k, hash, known, named, there⟩
    exact ⟨k, known, hash, named, there⟩

theorem found?_blank (t : Texture.Store) (kind : String) : found? t kind "" = none := by
  refine Option.eq_none_iff_forall_ne_some.mpr fun png there => ?_
  obtain ⟨k, hash, -, named, -⟩ := found?_eq_some_iff.mp there
  have lengths := congrArg (·.toList.length) named
  simp at lengths

/-- The answer with a texture: it may be kept for ever. -/
def textureAnswer (png : ByteArray) : Response :=
  .ofPng png "public, max-age=31536000, immutable"

/-- The answer where nothing is found. -/
def missingAnswer (message : String) : Response :=
  .ofJson 404 (.object [("error", .string "NotFound"), ("message", .string message)])

theorem ofError_notFound (text : String) :
    Response.ofError (.notFound text) = missingAnswer ("Not found: " ++ text) := by
  have told : (Error.notFound text).publicMessage = "Not found: " ++ text := by
    rw [Error.publicMessage, if_neg (by simp [Error.status])]
    rfl
  rw [Response.ofError, Error.body, told]
  rfl

theorem perform_texturePage {s : Scene} (accepts : ∀ kind, s.refuses .get kind = false)
    (kind file : String) (r : Registry) : (texturePage s kind file).perform r =
      ((found? r.textures kind file).elim
        (.error (.notFound ("No such texture: " ++ kind ++ "/" ++ file)))
        fun png => .ok (textureAnswer png), r) := by
  rw [texturePage, found?]
  cases Kind.ofName? kind with
  | none => rfl
  | some k =>
    cases hashOfFile? file with
    | none => rfl
    | some hash =>
      have looked : (Texture.find s k hash).perform r = (.ok (r.textures.get k hash), r) := by
        rw [Texture.find, Work.perform_onTextures, accepts]
        rfl
      dsimp only
      rw [Work.perform_bind_ok looked]
      simp only [Option.bind_some]
      cases r.textures.get k hash <;> rfl

theorem outcome_visit_texture (limit : Option Nat) {s : Scene} (q : Request)
    (accepts : ∀ kind, s.refuses .get kind = false) {kindPart filePart : List Char}
    {kind file : String} (readKind : Http.percentDecoded? kindPart = some kind)
    (readFile : Http.percentDecoded? filePart = some file) (r : Registry) :
    outcome (visit limit s q (.texture kindPart filePart)) r =
      ((found? r.textures kind file).elim
        (.error (missingAnswer ("Not found: " ++ ("No such texture: " ++ kind ++ "/" ++ file))))
        fun png => .ok (textureAnswer png), r) := by
  have kindRead : outcome (segment "kind" kindPart) r = (.ok kind, r) := by
    rw [segment, readKind]
    rfl
  have fileRead : outcome (segment "file" filePart) r = (.ok file, r) := by
    rw [segment, readFile]
    rfl
  rw [visit, outcome_bind_ok kindRead, outcome_bind_ok fileRead, outcome_answering,
    perform_texturePage accepts]
  cases found? r.textures kind file with
  | none => rw [← ofError_notFound]; rfl
  | some png => rfl

/-- The path of the request is that of a texture, by segments that decode to these texts. -/
def Names (q : Request) (kind file : String) : Prop :=
  ∃ kindPart filePart, '/' ∉ kindPart ∧ '/' ∉ filePart ∧ q.path = texturePath kindPart filePart ∧
    Http.percentDecoded? kindPart = some kind ∧ Http.percentDecoded? filePart = some file

/-- The request asks for a texture, and no limit turns it away. -/
structure GetsTexture (limit : Option Nat) (s : Scene) (site : Site) (q : Request)
    (kind file : String) : Prop where
  method : q.method = "GET"
  names : Names q kind file
  admitted : ((passLimiter s q).run site).1 = true
  short : isTooLong limit q = false
  accepts : ∀ kind, s.refuses .get kind = false

theorem asSent_get {q : Request} (method : q.method = "GET")
    (reads : ∀ route, Route.ofPath? q.path = some route → route.isPost = false) (p : Response) :
    asSent q p = p := by
  have notHead : q.method ≠ "HEAD" := by simp [method]
  rw [asSent, if_neg notHead]
  cases known : Route.ofPath? q.path with
  | none => rfl
  | some route => simp [Route.methods, reads route known, method]

/-- What comes of a route that only looks is sent as it is, if no limit turns the request away. -/
theorem run_respond_get {limit : Option Nat} {s : Scene} {site : Site} {q : Request}
    (method : q.method = "GET") (admitted : ((passLimiter s q).run site).1 = true)
    (short : isTooLong limit q = false) {route : Route} (known : Route.ofPath? q.path = some route)
    (reads : route.isPost = false) {result : Except Response Response} {r : Registry}
    (done : outcome (visit limit s q route) site.registry = (result, r)) :
    ((respond limit s q).run site).1 = answered result := by
  have taken : q.method ∈ route.methods := by simp [Route.methods, reads, method]
  have visited : (respondAdmitted limit s q).run site.registry =
      (respondAt limit s q route).run site.registry := by
    simp only [respondAdmitted, short, known, if_false, Bool.false_eq_true]
  have same : ∀ route', Route.ofPath? q.path = some route' → route'.isPost = false := by
    intro route' known'
    rw [known, Option.some.injEq] at known'
    rw [← known', reads]
  obtain ⟨limiter, sent⟩ :=
    run_respond_admitted admitted (visited.trans (run_respondAt taken done))
  rw [sent, asSent_get method same]

/-- What is answered to a request for a texture. -/
theorem GetsTexture.answer {limit : Option Nat} {s : Scene} {site : Site} {q : Request}
    {kind file : String} (gets : GetsTexture limit s site q kind file) :
    ∃ message, ((respond limit s q).run site).1 =
      (found? site.registry.textures kind file).elim (missingAnswer message) textureAnswer := by
  obtain ⟨kindPart, filePart, kindPlain, filePlain, path, readKind, readFile⟩ := gets.names
  have route := Route.ofPath?_texturePath kindPlain filePlain
  rw [← path] at route
  by_cases named : filePart = []
  · have blank : file = "" := by
      rw [named] at readFile
      exact (Option.some.inj readFile).symm
    have unknown : Route.ofPath? q.path = none := by rw [route, named]; rfl
    have done : (respondAdmitted limit s q).run site.registry = (noRoute, site.registry) := by
      simp only [respondAdmitted, gets.short, unknown, if_false, Bool.false_eq_true, Flow.run_pure]
    obtain ⟨limiter, sent⟩ := run_respond_admitted gets.admitted done
    refine ⟨"Endpoint not found", ?_⟩
    rw [sent, blank, found?_blank, asSent_get gets.method (by simp [unknown])]
    rfl
  · rw [if_pos named] at route
    have visited := outcome_visit_texture limit q gets.accepts readKind readFile site.registry
    refine ⟨"Not found: " ++ ("No such texture: " ++ kind ++ "/" ++ file), ?_⟩
    rw [run_respond_get gets.method gets.admitted gets.short route rfl visited]
    cases found? site.registry.textures kind file with
    | none => rfl
    | some png => rfl

end Site

/-- In a segment of a path the character stands for itself. -/
def Http.IsPlain (c : Char) : Prop := c.toNat < 128 ∧ c ≠ '%' ∧ c ≠ '/' ∧ c ≠ '?' ∧ c ≠ '#'

theorem Http.percentDecoded?_plain {cs : List Char} (plain : ∀ c ∈ cs, IsPlain c) :
    percentDecoded? cs = some (String.ofList cs) := by
  have ascii : ∀ c ∈ cs, c.toNat < 128 := fun c hc => (plain c hc).1
  have unescaped : (0x25 : UInt8) ∉ Utf8.encode cs :=
    Utf8.byte_not_mem ascii (by decide) fun escaped => (plain '%' escaped).2.1 rfl
  rw [percentDecoded?, Percent.decodeBytes_of_not_mem unescaped, Utf8.decode?_encode,
    Option.map_some]

theorem Texture.plain_of_isContentHash {hash : String} (valid : isContentHash hash = true) :
    ∀ c ∈ hash.toList, Http.IsPlain c := by
  intro c hc
  have digits : hash.toList.all Hex.isLowerDigit = true := (Bool.and_eq_true_iff.mp valid).2
  have digit := List.all_eq_true.mp digits c hc
  refine ⟨?_, ?_, ?_, ?_, ?_⟩
  · simp only [Hex.isLowerDigit, Bool.or_eq_true, Bool.and_eq_true, decide_eq_true_eq,
      Char.le_def, UInt32.le_iff_toNat_le] at digit
    have code : c.toNat = c.val.toNat := rfl
    simp at digit
    omega
  all_goals
    rintro rfl
    revert digit
    decide

namespace Site

theorem toList_route (kind : Kind) (hash : String) :
    (Texture.route kind hash).toList = texturePath kind.name.toList (hash ++ ".png").toList := by
  have start : "/texture/".toList = '/' :: (textureWord ++ ['/']) := by simp [textureWord]
  have slash : "/".toList = ['/'] := by simp
  simp only [Texture.route, String.toList_append, start, slash, texturePath, List.cons_append,
    List.append_assoc, List.nil_append]

theorem plain_texturePath {kind file : List Char} (kindPlain : ∀ c ∈ kind, Http.IsPlain c)
    (filePlain : ∀ c ∈ file, Http.IsPlain c) :
    ∀ c ∈ texturePath kind file, c = '/' ∨ Http.IsPlain c := by
  have wordPlain : ∀ c ∈ textureWord, Http.IsPlain c := by simp [textureWord, Http.IsPlain]
  intro c hc
  simp only [texturePath, List.mem_cons, List.mem_append] at hc
  rcases hc with slash | hc | slash | hc | slash | hc
  · exact .inl slash
  · exact .inr (wordPlain c hc)
  · exact .inl slash
  · exact .inr (kindPlain c hc)
  · exact .inl slash
  · exact .inr (filePlain c hc)

/-- Without a question mark and a number sign, the target is nothing but a path. -/
theorem path_of_plain {q : Request} (plain : ∀ c ∈ q.target.toList, c = '/' ∨ Http.IsPlain c) :
    q.path = q.target.toList := by
  have whole : ∀ stop : Char, (stop = '?' ∨ stop = '#') →
      q.target.toList.takeWhile (· ≠ stop) = q.target.toList := by
    intro stop stops
    have free : ∀ c ∈ q.target.toList, decide (c ≠ stop) = true := by
      intro c hc
      rw [decide_eq_true_eq]
      rintro rfl
      rcases plain c hc with rfl | ⟨-, -, -, question, number⟩
      · simp at stops
      · exact stops.elim question number
    simpa using @List.takeWhile_append_of_pos _ _ _ [] free
  rw [Request.path, Request.parts]
  dsimp only
  rw [whole '#' (.inr rfl), whole '?' (.inl rfl)]

/-- The path below which a texture is served is that of its kind and its file. -/
theorem names_route {kind : Kind} {hash : String} (valid : Texture.isContentHash hash = true)
    {q : Request} (target : q.target = Texture.route kind hash) :
    Names q kind.name (hash ++ ".png") := by
  have kindPlain : ∀ c ∈ kind.name.toList, Http.IsPlain c := by
    cases kind <;> simp [Kind.name, Http.IsPlain]
  have filePlain : ∀ c ∈ (hash ++ ".png").toList, Http.IsPlain c := by
    intro c hc
    rw [String.toList_append, List.mem_append] at hc
    rcases hc with hc | hc
    · exact Texture.plain_of_isContentHash valid c hc
    · revert c
      simp [Http.IsPlain]
  have chars : q.target.toList = texturePath kind.name.toList (hash ++ ".png").toList := by
    rw [target, toList_route]
  have path : q.path = texturePath kind.name.toList (hash ++ ".png").toList := by
    rw [path_of_plain (chars ▸ plain_texturePath kindPlain filePlain), chars]
  refine ⟨kind.name.toList, (hash ++ ".png").toList, fun h => (kindPlain _ h).2.2.1 rfl,
    fun h => (filePlain _ h).2.2.1 rfl, path, ?_, ?_⟩
  · rw [Http.percentDecoded?_plain kindPlain, String.ofList_toList]
  · rw [Http.percentDecoded?_plain filePlain, String.ofList_toList]

end Site

end PlayerRegistry
