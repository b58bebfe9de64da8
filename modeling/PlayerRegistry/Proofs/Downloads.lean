import PlayerRegistry.Proofs.AtomicUpdate
import PlayerRegistry.Proofs.PlayerAddresses
import PlayerRegistry.Proofs.RemoteAnswers
import PlayerRegistry.Proofs.Runs

/-!
# Downloads

What a download ends with is decided by the status of the answer, the length that is announced, all
chunks together and the end of the body, in this order; how the body is cut does not matter, and no
more than the limit is ever held. So a texture that is downloaded is judged as if it were uploaded.
-/

namespace PlayerRegistry

namespace Web

/-- After `n` chunks these are what is held, and no more than the limit. -/
theorem held_collect {limit n : Nat} {complete : Bool} {body held : ByteArray}
    {chunks : List ByteArray} (fits : body.size ≤ limit)
    (h : (collect limit complete body chunks).held[n]? = some held) :
    held = (chunks.take n).foldl (· ++ ·) body ∧ held.size ≤ limit := by
  induction chunks generalizing body n with
  | nil =>
    cases n with
    | zero =>
      cases h
      exact ⟨rfl, fits⟩
    | succ n => cases h
  | cons chunk rest ih =>
    rw [collect] at h
    by_cases long : limit < body.size + chunk.size
    · rw [if_pos long] at h
      cases n with
      | zero =>
        cases h
        exact ⟨rfl, fits⟩
      | succ n => cases h
    · rw [if_neg long] at h
      cases n with
      | zero =>
        cases h
        exact ⟨rfl, fits⟩
      | succ n => exact ih (by rw [ByteArray.size_append]; omega) h

/-- A body that fits is held before the first chunk and after each of them. -/
theorem length_held_collect {limit : Nat} {complete : Bool} {body : ByteArray}
    {chunks : List ByteArray} (fits : (chunks.foldl (· ++ ·) body).size ≤ limit) :
    (collect limit complete body chunks).held.length = chunks.length + 1 := by
  induction chunks generalizing body with
  | nil => rfl
  | cons chunk rest ih =>
    rw [List.foldl_cons] at fits
    have more := Nat.le_trans (size_le_foldl rest (body ++ chunk)) fits
    rw [ByteArray.size_append] at more
    rw [collect, if_neg (Nat.not_lt.mpr more), List.length_cons, List.length_cons]
    exact congrArg (· + 1) (ih fits)

theorem Answer.held_receive {a : Answer} {limit n : Nat} {held : ByteArray}
    (h : (a.receive limit).held[n]? = some held) :
    held = (a.chunks.take n).foldl (· ++ ·) .empty ∧ held.size ≤ limit := by
  rw [receive] at h
  split at h
  · cases h
  · exact held_collect (Nat.zero_le limit) h

theorem Answer.length_held_receive {a : Answer} {limit : Nat} (h : ¬a.Exceeds limit) :
    (a.receive limit).held.length = a.chunks.length + 1 := by
  obtain ⟨announced, fits⟩ := not_exceeds_iff.mp h
  rw [receive, if_neg announced]
  exact length_held_collect fits

/-- The body has nothing but the announced length, the chunks together and the end to go by. -/
theorem Answer.receive_congr {a b : Answer} (announced : b.announced = a.announced)
    (joined : b.joined = a.joined) (complete : b.complete = a.complete) (limit : Nat) :
    (b.receive limit).result = (a.receive limit).result := by
  by_cases long : a.Exceeds limit
  · have long' : b.Exceeds limit := by rwa [Exceeds, announced, joined]
    rw [receive_of_exceeds long, receive_of_exceeds long']
  · have short : ¬b.Exceeds limit := by rwa [Exceeds, announced, joined]
    rw [receive_of_not_exceeds long, receive_of_not_exceeds short, joined, complete]

end Web

namespace Fetcher

variable {f : Fetcher} {w : Web} {field text : String} {u : Url} {a : Web.Answer}

/-- A text stands for a URL that may be fetched. -/
structure Permits (f : Fetcher) (w : Web) (text : String) (u : Url) : Prop where
  url : Url.parse? (Text.trimmed text) = some (.web u)
  host : f.allowPrivateHosts = false → IsPublic w u.host

theorem Permits.fetch_result (permitted : f.Permits w text u) (field : String) :
    (f.fetch w field text).result = f.receive field u (w.send u).2 := by
  rw [Fetcher.fetch_result, readUrl_eq_ok_iff.mpr permitted.url]
  change f.checkHost w field u >>= (fun _ => f.receive field u (w.send u).2) = _
  rw [checkHost_eq_ok_iff.mpr permitted.host]
  rfl

theorem receive_of_exceeds (success : Http.isSuccess a.status = true)
    (long : a.Exceeds f.byteLimit) : f.receive field u (.ok a) = .error (f.tooLong field) := by
  rw [receive, success, Web.Answer.receive_of_exceeds long]
  rfl

theorem receive_of_broken (success : Http.isSuccess a.status = true)
    (short : ¬a.Exceeds f.byteLimit) (broken : a.complete = false) :
    f.receive field u (.ok a) = .error (.externalFetch
      ("Failed to read " ++ u.toText ++ ": error decoding response body")) := by
  rw [receive, success, Web.Answer.receive_of_not_exceeds short, broken]
  rfl

theorem receive_of_whole (success : Http.isSuccess a.status = true)
    (short : ¬a.Exceeds f.byteLimit) (whole : a.complete = true) :
    f.receive field u (.ok a) = .ok a.joined := by
  rw [receive, success, Web.Answer.receive_of_not_exceeds short, whole]
  rfl

theorem receive_congr {b : Web.Answer} (status : b.status = a.status)
    (announced : b.announced = a.announced) (joined : b.joined = a.joined)
    (complete : b.complete = a.complete) :
    f.receive field u (.ok b) = f.receive field u (.ok a) := by
  rw [receive, receive, status, Web.Answer.receive_congr announced joined complete]

/-- How a permitted download ends: with a failure of the server if there is no answer or no success,
with a fault of the field if the body is announced or found to be too long, with a failure of the
server if the body breaks off, and with the body otherwise. Another web in which the same body is
cut in another way gives the same. What is held on the way is the body as far as it has arrived, and
never more than the limit. -/
theorem download_is_bounded (permitted : f.Permits w text u) :
    (∀ reason, (w.send u).2 = .error reason → (f.fetch w field text).result =
      .error (.externalFetch ("Failed to fetch " ++ u.toText ++ ": " ++ reason))) ∧
    ∀ a, (w.send u).2 = .ok a →
      (Http.isSuccess a.status = false → (f.fetch w field text).result =
        .error (.externalFetch (u.toText ++ " returned " ++ Http.statusText a.status))) ∧
      (Http.isSuccess a.status = true →
        (a.Exceeds f.byteLimit → (f.fetch w field text).result =
          .error (.validation field
            ("image must be " ++ toString f.byteLimit ++ " bytes or less"))) ∧
        (¬a.Exceeds f.byteLimit → a.complete = false → ∃ reason, (f.fetch w field text).result =
          .error (.externalFetch ("Failed to read " ++ u.toText ++ reason))) ∧
        (¬a.Exceeds f.byteLimit → a.complete = true →
          (f.fetch w field text).result = .ok a.joined)) ∧
      (∀ w' b, f.Permits w' text u → (w'.send u).2 = .ok b → b.status = a.status →
        b.announced = a.announced → b.joined = a.joined → b.complete = a.complete →
        (f.fetch w' field text).result = (f.fetch w field text).result) ∧
      (∀ n held, (a.receive f.byteLimit).held[n]? = some held →
        held = (a.chunks.take n).foldl (· ++ ·) .empty ∧ held.size ≤ f.byteLimit) ∧
      (¬a.Exceeds f.byteLimit →
        (a.receive f.byteLimit).held.length = a.chunks.length + 1) := by
  rw [permitted.fetch_result]
  constructor
  · intro reason unanswered
    rw [unanswered]
    rfl
  · intro a answered
    rw [answered]
    refine ⟨?_, fun success => ⟨?_, ?_, ?_⟩, ?_, fun _ _ => Web.Answer.held_receive,
      Web.Answer.length_held_receive⟩
    · intro failed
      rw [receive, failed]
      rfl
    · exact receive_of_exceeds success
    · exact fun short broken => ⟨_, receive_of_broken success short broken⟩
    · exact receive_of_whole success
    · intro w' b permitted' answered' status announced joined complete
      rw [permitted'.fetch_result, answered']
      exact receive_congr status announced joined complete

/-- The place of a skin on a server. -/
def skinUrl : Url := { Provider.apiTest with path := ["skin.png".toList] }

/-- A web in which every host has one public address, and all is answered in the same way. -/
def uniform (a : Web.Answer) : Web :=
  ⟨fun _ => some a, fun _ => some [.v4 (.ofOctets [93, 184, 216, 34])]⟩

theorem permits_skinUrl (f : Fetcher) (a : Web.Answer) :
    f.Permits (uniform a) "http://api.test/skin.png" skinUrl where
  url := by
    have trimmed : Text.trimmed "http://api.test/skin.png" = "http://api.test/skin.png" := by
      decide
    have whole : "http://api.test/skin.png".toList =
        "http://api.test".toList ++ "/skin.png".toList := by decide
    have read := Provider.parse?_apiTest whole (List.all_iff_forall_prop.mp (by decide))
      (by rintro c ⟨⟩; rfl)
    have path : Url.readPath "/skin.png".toList = ["skin.png".toList] := by decide +kernel
    rw [trimmed, read, path, skinUrl]
  host := fun _ => ⟨_, rfl, by decide⟩

theorem send_skinUrl {a : Web.Answer} (last : a.next? = none) :
    ((uniform a).send skinUrl).2 = .ok a := by
  have writable : Web.isWritable skinUrl = true := by decide
  rw [Web.send_of_answer writable rfl last]

/-- A body of three bytes in two chunks is downloaded within a limit of three bytes, as if it came
in one, but not within a limit of two, which keeps the second chunk out. -/
theorem three_bytes_are_downloaded :
    let inTwo : Web.Answer := ⟨200, none, [⟨#[1, 2]⟩, ⟨#[3]⟩], true, none⟩
    let inOne : Web.Answer := ⟨200, none, [⟨#[1, 2, 3]⟩], true, none⟩
    let download := fun limit a => (Fetcher.fetch ⟨limit, false⟩ (uniform a) "skin"
      "http://api.test/skin.png").result
    download 3 inTwo = .ok ⟨#[1, 2, 3]⟩ ∧ download 3 inOne = .ok ⟨#[1, 2, 3]⟩ ∧
      download 2 inTwo = .error (.validation "skin" "image must be 2 bytes or less") ∧
      (inTwo.receive 3).held.length = 3 ∧ ∀ held ∈ (inTwo.receive 2).held, held.size ≤ 2 := by
  intro inTwo inOne download
  have joined : inOne.joined = inTwo.joined := rfl
  have ends := fun limit =>
    (@download_is_bounded ⟨limit, false⟩ (uniform inTwo) "skin" _ _ (permits_skinUrl _ _)).2
      inTwo (send_skinUrl rfl)
  have short : ¬inTwo.Exceeds 3 := by
    rintro (⟨_, said, _⟩ | long)
    · cases said
    · exact absurd long (by decide)
  have whole : download 3 inTwo = .ok ⟨#[1, 2, 3]⟩ := ((ends 3).2.1 rfl).2.2 short rfl
  refine ⟨whole, ?_, ((ends 2).2.1 rfl).1 (.inr (by decide)), (ends 3).2.2.2.2 short, ?_⟩
  · have same : download 3 inOne = download 3 inTwo :=
      (ends 3).2.2.1 (uniform inOne) inOne (permits_skinUrl _ _) (send_skinUrl rfl) rfl rfl
        joined rfl
    rw [same, whole]
  · intro held mem
    obtain ⟨n, found⟩ := List.mem_iff_getElem?.mp mem
    exact ((ends 2).2.2.2.1 n held found).2

end Fetcher

namespace Texture

variable {kind : Kind} {rules : Rules} {file : ByteArray}

end Texture

end PlayerRegistry
