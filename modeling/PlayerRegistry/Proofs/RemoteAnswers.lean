import PlayerRegistry.Proofs.Work
import PlayerRegistry.Provider

/-!
# What other servers give

Which answers of a provider tell the id of a player or a skin, and which files are taken from a
server, in terms of the answers themselves. Everything else is an error of the remote source or of
the given text.
-/

namespace PlayerRegistry

namespace Web

/-- An answer that sends the request on to no other URL is the last one. -/
theorem send_of_answer {w : Web} {u : Url} {a : Answer} (writable : isWritable u = true)
    (answered : w.answer? u.target = some a) (last : a.next? = none) :
    w.send u = ([request u], .ok a) := by
  simp only [send, writable, redirectLimit, follow, exchange, answered, last, if_true]

theorem size_le_foldl (chunks : List ByteArray) (body : ByteArray) :
    body.size ≤ (chunks.foldl (· ++ ·) body).size := by
  induction chunks generalizing body with
  | nil => exact Nat.le_refl _
  | cons chunk rest ih =>
    have more := ih (body ++ chunk)
    rw [ByteArray.size_append] at more
    rw [List.foldl_cons]
    omega

/-- Chunks are taken in one after another as long as they fit. So it is all of them together that
have to fit, however the body is cut. -/
theorem result_collect {limit : Nat} {complete : Bool} {body : ByteArray}
    {chunks : List ByteArray} (fits : body.size ≤ limit) :
    (collect limit complete body chunks).result =
      if limit < (chunks.foldl (· ++ ·) body).size then .error .tooLong
      else if complete then .ok (chunks.foldl (· ++ ·) body) else .error .broken := by
  induction chunks generalizing body with
  | nil => rw [collect, List.foldl_nil, if_neg (Nat.not_lt.mpr fits)]
  | cons chunk rest ih =>
    rw [collect, List.foldl_cons]
    by_cases long : limit < body.size + chunk.size
    · have more := size_le_foldl rest (body ++ chunk)
      rw [ByteArray.size_append] at more
      rw [if_pos long, if_pos (by omega)]
    · rw [if_neg long]
      exact ih (by rw [ByteArray.size_append]; omega)

/-- All chunks of an answer in one. -/
def Answer.joined (a : Answer) : ByteArray := a.chunks.foldl (· ++ ·) .empty

/-- The body is announced as longer than the limit, or more than the limit of it arrives. -/
def Answer.Exceeds (a : Answer) (limit : Nat) : Prop :=
  (∃ n, a.announced = some n ∧ limit < n) ∨ limit < a.joined.size

theorem Answer.not_exceeds_iff {a : Answer} {limit : Nat} : ¬a.Exceeds limit ↔
    ¬a.announced.any (limit < ·) = true ∧ a.joined.size ≤ limit := by
  rw [Exceeds, not_or, Nat.not_lt]
  simp [Option.any_eq_true]

theorem Answer.receive_of_exceeds {a : Answer} {limit : Nat} (h : a.Exceeds limit) :
    (a.receive limit).result = .error .tooLong := by
  rw [receive]
  by_cases said : a.announced.any (limit < ·) = true
  · rw [if_pos said]
  · have long : limit < a.joined.size :=
      Nat.lt_of_not_le fun fits => not_exceeds_iff.mpr ⟨said, fits⟩ h
    rw [if_neg said, result_collect (Nat.zero_le limit), ← joined, if_pos long]

theorem Answer.receive_of_not_exceeds {a : Answer} {limit : Nat} (h : ¬a.Exceeds limit) :
    (a.receive limit).result = if a.complete then .ok a.joined else .error .broken := by
  obtain ⟨announced, fits⟩ := not_exceeds_iff.mp h
  rw [receive, if_neg announced, result_collect (Nat.zero_le limit), ← joined,
    if_neg (Nat.not_lt.mpr fits)]

/-- The body is taken if it arrives as a whole, within the limit, and is not announced as longer. -/
theorem Answer.receive_eq_ok_iff {a : Answer} {limit : Nat} {file : ByteArray} :
    (a.receive limit).result = .ok file ↔
      (∀ n, a.announced = some n → n ≤ limit) ∧ a.wholeBody? = some file ∧ file.size ≤ limit := by
  rw [wholeBody?, ← joined]
  by_cases long : a.Exceeds limit
  · rw [receive_of_exceeds long]
    refine iff_of_false nofun ?_
    rintro ⟨short, whole, fits⟩
    rcases long with ⟨n, said, more⟩ | more
    · exact Nat.not_lt.mpr (short n said) more
    · rw [Option.ite_none_right_eq_some] at whole
      rw [Option.some.inj whole.2] at more
      exact Nat.not_lt.mpr fits more
  · have short : ∀ n, a.announced = some n → n ≤ limit :=
      fun n said => Nat.le_of_not_lt fun more => long (.inl ⟨n, said, more⟩)
    have fits : a.joined.size ≤ limit := Nat.le_of_not_lt fun more => long (.inr more)
    rw [receive_of_not_exceeds long, and_iff_right short]
    cases a.complete with
    | false => simp
    | true =>
      simp only [if_true, Except.ok.injEq, Option.some.injEq]
      exact ⟨fun same => ⟨same, same ▸ fits⟩, fun h => h.1⟩

end Web

namespace Fetcher

/-- Every address of the host is public. -/
def IsPublic (w : Web) (h : Host) : Prop :=
  ∃ as, addresses w h = .ok as ∧ ∀ a ∈ as, a.isPublic = true

/-- The answer from the URL that a text stands for has the file as its body. The host is public,
unless others are allowed, and the body is within the limit. -/
structure Finds (f : Fetcher) (w : Web) (text : String) (u : Url) (a : Web.Answer)
    (file : ByteArray) : Prop where
  url : Url.parse? (Text.trimmed text) = some (.web u)
  host : f.allowPrivateHosts = false → IsPublic w u.host
  answer : (w.send u).2 = .ok a
  success : Http.isSuccess a.status = true
  announced : ∀ n, a.announced = some n → n ≤ f.byteLimit
  body : a.wholeBody? = some file
  size : file.size ≤ f.byteLimit

/-- What a file that is given by a text fails with. -/
inductive Fault (field : String) : Error → Prop where
  | invalid (reason) : Fault field (.validation field reason)
  | remote (text) : Fault field (.externalFetch text)

variable {f : Fetcher} {w : Web} {field text : String} {u : Url} {file : ByteArray} {e : Error}

theorem readUrl_eq_ok_iff :
    readUrl field text = .ok u ↔ Url.parse? (Text.trimmed text) = some (.web u) := by
  rw [readUrl]
  rcases Url.parse? (Text.trimmed text) with _ | _ | _
  · simp
  · simp
  · simp

theorem readUrl_eq_error (h : readUrl field text = .error e) : Fault field e := by
  rw [readUrl] at h
  rcases parsed : Url.parse? (Text.trimmed text) with _ | ⟨v⟩ | ⟨scheme⟩
  · simp only [parsed] at h
    cases h
    exact .invalid _
  · simp only [parsed] at h
    cases h
  · simp only [parsed] at h
    cases h
    exact .invalid _

theorem addresses_eq_error {h : Host} (failed : addresses w h = .error e) : Fault field e := by
  cases h with
  | ip a => cases failed
  | name name =>
    rw [addresses] at failed
    cases found : w.addresses? name with
    | none =>
      simp only [found] at failed
      cases failed
      exact .remote _
    | some as =>
      simp only [found] at failed
      cases failed

theorem checkPublic_eq_ok_iff : checkPublic w field u = .ok () ↔ IsPublic w u.host := by
  rw [checkPublic, IsPublic]
  cases addresses w u.host with
  | error e => exact iff_of_false nofun nofun
  | ok as =>
    change (if as.all IpAddress.isPublic = true then _ else _) = _ ↔ _
    by_cases allPublic : as.all IpAddress.isPublic = true
    · rw [if_pos allPublic]
      exact iff_of_true rfl ⟨as, rfl, List.all_eq_true.mp allPublic⟩
    · rw [if_neg allPublic]
      refine iff_of_false nofun ?_
      rintro ⟨_, ⟨⟩, isPublic⟩
      exact allPublic (List.all_eq_true.mpr isPublic)

theorem checkPublic_eq_error (h : checkPublic w field u = .error e) : Fault field e := by
  rw [checkPublic] at h
  cases found : addresses w u.host with
  | error e' =>
    rw [found] at h
    cases h
    exact addresses_eq_error found
  | ok as =>
    rw [found] at h
    change (if as.all IpAddress.isPublic = true then _ else _) = _ at h
    split at h
    · cases h
    · cases h
      exact .invalid _

/-- The host that is asked for a file has to be public, unless others are allowed. -/
def checkHost (f : Fetcher) (w : Web) (field : String) (u : Url) : Result Unit :=
  if f.allowPrivateHosts then .ok () else checkPublic w field u

theorem fetch_result (f : Fetcher) (w : Web) (field text : String) :
    (f.fetch w field text).result =
      readUrl field text >>= fun u => f.checkHost w field u >>= fun _ =>
        f.receive field u (w.send u).2 := by
  rw [fetch]
  cases readUrl field text with
  | error e => rfl
  | ok u =>
    change _ = f.checkHost w field u >>= fun _ => f.receive field u (w.send u).2
    rw [checkHost]
    cases f.allowPrivateHosts with
    | true => rfl
    | false =>
      cases found : checkPublic w field u with
      | error e => simp [found, bind, Except.bind, Web.Call.fail]
      | ok _ => simp [found, bind, Except.bind, pure, Except.pure]

theorem checkHost_eq_ok_iff : f.checkHost w field u = .ok () ↔
    (f.allowPrivateHosts = false → IsPublic w u.host) := by
  rw [checkHost]
  cases f.allowPrivateHosts with
  | true => simp
  | false => simpa using checkPublic_eq_ok_iff

theorem checkHost_eq_error (h : f.checkHost w field u = .error e) : Fault field e := by
  rw [checkHost] at h
  split at h
  · cases h
  · exact checkPublic_eq_error h

theorem receive_eq_ok_iff {answer : Except String Web.Answer} :
    f.receive field u answer = .ok file ↔ ∃ a, answer = .ok a ∧ Http.isSuccess a.status = true ∧
      (a.receive f.byteLimit).result = .ok file := by
  cases answer with
  | error reason => exact iff_of_false nofun nofun
  | ok a =>
    rw [receive]
    cases success : Http.isSuccess a.status with
    | false => simp [success]
    | true =>
      cases received : (a.receive f.byteLimit).result with
      | ok body => simp [success, received]
      | error fault =>
        cases fault with
        | tooLong => simp [received]
        | broken => simp [received]

theorem receive_eq_error {answer : Except String Web.Answer}
    (h : f.receive field u answer = .error e) : Fault field e := by
  cases answer with
  | error reason =>
    cases h
    exact .remote _
  | ok a =>
    rw [receive] at h
    split at h
    · cases h
      exact .remote _
    · split at h
      · cases h
      · cases h
        exact .invalid _
      · cases h
        exact .remote _

theorem fetch_eq_ok_iff :
    (f.fetch w field text).result = .ok file ↔ ∃ u a, f.Finds w text u a file := by
  rw [fetch_result]
  constructor
  · intro h
    obtain ⟨u, read, h⟩ := ok_of_bind h
    obtain ⟨_, checked, h⟩ := ok_of_bind h
    obtain ⟨a, answer, success, received⟩ := receive_eq_ok_iff.mp h
    obtain ⟨announced, body, size⟩ := Web.Answer.receive_eq_ok_iff.mp received
    exact ⟨u, a, readUrl_eq_ok_iff.mp read, checkHost_eq_ok_iff.mp checked, answer, success,
      announced, body, size⟩
  · rintro ⟨u, a, finds⟩
    have received : (a.receive f.byteLimit).result = .ok file :=
      Web.Answer.receive_eq_ok_iff.mpr ⟨finds.announced, finds.body, finds.size⟩
    rw [readUrl_eq_ok_iff.mpr finds.url]
    change f.checkHost w field u >>= (fun _ => f.receive field u (w.send u).2) = .ok file
    rw [checkHost_eq_ok_iff.mpr finds.host]
    exact receive_eq_ok_iff.mpr ⟨a, finds.answer, finds.success, received⟩

theorem fetch_eq_error (h : (f.fetch w field text).result = .error e) : Fault field e := by
  rw [fetch_result] at h
  rcases error_of_bind h with failed | ⟨u, -, h⟩
  · exact readUrl_eq_error failed
  · rcases error_of_bind h with failed | ⟨_, -, h⟩
    · exact checkHost_eq_error failed
    · exact receive_eq_error h

end Fetcher

namespace Provider

/-- The account API answers a name with a profile. -/
structure Tells (w : Web) (accountUrl username : String) (a : Web.Answer) (p : Profile) : Prop where
  answer : (ask w (profileAddress accountUrl username)).2 = .ok a
  success : Http.isSuccess a.status = true
  content : a.status ≠ 204
  profile : (json? a).bind profile? = some p

/-- The value of a textures property has this URL for the skin. -/
def HasSkin (value url : String) : Prop :=
  ∃ bytes j urls, Base64.decode? value.toList = some bytes ∧
    Json.ofBytes? ⟨bytes.toArray⟩ = some j ∧ textureUrls? j = some urls ∧
    urls.reverse.lookup "SKIN" = some url

/-- The session API answers an id with a profile, whose first textures property has this URL for
the skin. -/
structure Wears (w : Web) (sessionUrl id : String) (a : Web.Answer) (value url : String) :
    Prop where
  answer : (ask w (sessionAddress sessionUrl id)).2 = .ok a
  success : Http.isSuccess a.status = true
  textures : ∃ properties, (json? a).bind properties? = some properties ∧
    properties.lookup "textures" = some value
  skin : HasSkin value url

variable {w : Web} {accountUrl sessionUrl username id value url : String} {p : Profile} {e : Error}

theorem readProfile_eq_ok_iff {answer : Except String Web.Answer} :
    readProfile answer = .ok (some p) ↔ ∃ a, answer = .ok a ∧ Http.isSuccess a.status = true ∧
      a.status ≠ 204 ∧ (json? a).bind profile? = some p := by
  cases answer with
  | error reason => exact iff_of_false nofun nofun
  | ok a =>
    rw [readProfile]
    by_cases none : a.status = 204 ∨ a.status = 404
    · rw [if_pos none]
      refine iff_of_false nofun ?_
      rintro ⟨_, ⟨⟩, success, content, -⟩
      rcases none with none | none
      · exact content none
      · rw [none] at success
        exact absurd success (by decide)
    · rw [if_neg none]
      have content : a.status ≠ 204 := fun h => none (.inl h)
      cases success : Http.isSuccess a.status with
      | false => simp [success]
      | true =>
        cases read : (json? a).bind profile? with
        | none => simp [read]
        | some p' => simp [success, content, read]

theorem readProfile_eq_error {answer : Except String Web.Answer}
    (h : readProfile answer = .error e) : ∃ text, e = .externalFetch text := by
  cases answer with
  | error reason =>
    cases h
    exact ⟨_, rfl⟩
  | ok a =>
    rw [readProfile] at h
    split at h
    · cases h
    · split at h
      · cases h
        exact ⟨_, rfl⟩
      · split at h
        · cases h
        · cases h
          exact ⟨_, rfl⟩

theorem lookupProfile_result (w : Web) (accountUrl username : String) :
    (lookupProfile w accountUrl username).result =
      readProfile (ask w (profileAddress accountUrl username)).2 := by
  rw [lookupProfile]

theorem lookupProfile_eq_ok_iff : (lookupProfile w accountUrl username).result = .ok (some p) ↔
    ∃ a, Tells w accountUrl username a p := by
  rw [lookupProfile_result, readProfile_eq_ok_iff]
  constructor
  · rintro ⟨a, answer, success, content, profile⟩
    exact ⟨a, answer, success, content, profile⟩
  · rintro ⟨a, tells⟩
    exact ⟨a, tells.answer, tells.success, tells.content, tells.profile⟩

theorem lookupProfile_eq_error (h : (lookupProfile w accountUrl username).result = .error e) :
    ∃ text, e = .externalFetch text := by
  rw [lookupProfile_result] at h
  exact readProfile_eq_error h

theorem skinUrlOf_eq_ok_iff : skinUrlOf value = .ok (some url) ↔ HasSkin value url := by
  rw [skinUrlOf, HasSkin]
  cases decoded : Base64.decode? value.toList with
  | none => simp
  | some bytes =>
    cases read : Json.ofBytes? ⟨bytes.toArray⟩ with
    | none => simp [read]
    | some j =>
      cases named : textureUrls? j with
      | none => simp [read, named]
      | some urls => simp [read, named]

theorem skinUrlOf_eq_error (h : skinUrlOf value = .error e) : ∃ text, e = .externalFetch text := by
  rw [skinUrlOf] at h
  split at h
  · cases h
  · cases h
    exact ⟨_, rfl⟩

theorem readSkinUrl_eq_ok_iff {answer : Except String Web.Answer} :
    readSkinUrl answer = .ok (some url) ↔ ∃ a, answer = .ok a ∧ Http.isSuccess a.status = true ∧
      ∃ value, (∃ properties, (json? a).bind properties? = some properties ∧
        properties.lookup "textures" = some value) ∧ HasSkin value url := by
  cases answer with
  | error reason => exact iff_of_false nofun nofun
  | ok a =>
    rw [readSkinUrl]
    cases success : Http.isSuccess a.status with
    | false => simp [success]
    | true =>
      cases read : (json? a).bind properties? with
      | none => simp [read]
      | some properties =>
        cases first : properties.lookup "textures" with
        | none => simp [read, first]
        | some value => simp [success, read, first, skinUrlOf_eq_ok_iff]

theorem readSkinUrl_eq_error {answer : Except String Web.Answer}
    (h : readSkinUrl answer = .error e) : ∃ text, e = .externalFetch text := by
  cases answer with
  | error reason =>
    cases h
    exact ⟨_, rfl⟩
  | ok a =>
    rw [readSkinUrl] at h
    split at h
    · cases h
      exact ⟨_, rfl⟩
    · split at h
      · cases h
        exact ⟨_, rfl⟩
      · split at h
        · cases h
        · exact skinUrlOf_eq_error h

theorem skinUrl_result (w : Web) (sessionUrl id : String) :
    (skinUrl w sessionUrl id).result = readSkinUrl (ask w (sessionAddress sessionUrl id)).2 := by
  rw [skinUrl]

theorem skinUrl_eq_ok_iff : (skinUrl w sessionUrl id).result = .ok (some url) ↔
    ∃ a value, Wears w sessionUrl id a value url := by
  rw [skinUrl_result, readSkinUrl_eq_ok_iff]
  constructor
  · rintro ⟨a, answer, success, value, textures, skin⟩
    exact ⟨a, value, answer, success, textures, skin⟩
  · rintro ⟨a, value, wears⟩
    exact ⟨a, wears.answer, wears.success, value, wears.textures, wears.skin⟩

theorem skinUrl_eq_error (h : (skinUrl w sessionUrl id).result = .error e) :
    ∃ text, e = .externalFetch text := by
  rw [skinUrl_result] at h
  exact readSkinUrl_eq_error h

end Provider

end PlayerRegistry
