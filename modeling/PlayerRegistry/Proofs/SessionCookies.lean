import PlayerRegistry.Http.Cookie
import PlayerRegistry.Proofs.HexText
import PlayerRegistry.Proofs.HttpDates
import PlayerRegistry.Proofs.Runs
import PlayerRegistry.Proofs.TexturePages
import PlayerRegistry.Proofs.WrittenUrls

/-!
# The session cookie in a browser

What a browser makes of the cookie that hands it a session: the pair of name and value that it
sends back among its other cookies, and the time until which it does so.
-/

namespace PlayerRegistry

open Http (Request sessionCookie sessionCookieName readCookie? percentDecoded?)

namespace Browser

/-- The pair of name and value, which stands before the first semicolon. -/
def keptPair (setCookie : String) : List Char := setCookie.toList.takeWhile (· ≠ ';')

/-- Name and value of an attribute. Upper and lower case are the same in a name. -/
def readAttribute (cs : List Char) : List Char × List Char :=
  (((cs.dropWhile (· = ' ')).takeWhile (· ≠ '=')).map Char.toLower,
    (cs.dropWhile (· ≠ '=')).drop 1)

def attributes (setCookie : String) : List (List Char × List Char) :=
  (splitAtChar ';' setCookie.toList).tail.map readAttribute

/-- When the cookie is given up, in seconds since the beginning of 1970. The last date counts. -/
def expiry? (setCookie : String) : Option Int :=
  ((attributes setCookie).reverse.lookup ['e', 'x', 'p', 'i', 'r', 'e', 's']).bind
    Time.readHttpDate?

/-- The cookies of a browser as they are sent. -/
def cookieHeader (cookies : List (List Char)) : String :=
  String.ofList (List.intercalate [';', ' '] cookies)

/-- A cookie that can be sent: printable characters without a semicolon. -/
def IsSendable (cookie : List Char) : Prop :=
  Request.isReadable (String.ofList cookie) = true ∧ ';' ∉ cookie

/-- The name of a cookie, as it is written. -/
def nameOf (cookie : List Char) : List Char := Text.trim (cookie.takeWhile (· ≠ '='))

def valueOf (cookie : List Char) : List Char :=
  Text.trim ((cookie.dropWhile (· ≠ '=')).drop 1)

/-- The server takes the cookie for one that holds a session. -/
def ShowsSession (cookie : List Char) : Prop :=
  percentDecoded? (nameOf cookie) = some sessionCookieName

end Browser

open Browser

/-- A session's name and value. -/
def sessionPair (token : String) : List Char := sessionCookieName.toList ++ '=' :: token.toList

section
variable {token : String}

theorem toList_sessionCookie (token : String) (expires : Instant) :
    (sessionCookie token expires).toList = List.intercalate [';'] [sessionPair token,
      " Path=/".toList, " Expires=".toList ++ (Time.httpDate expires).toList, " HttpOnly".toList,
      " SameSite=Lax".toList] := by
  simp [sessionCookie, Http.cookieText, sessionPair]

theorem semicolon_not_mem_sessionPair (free : ';' ∉ token.toList) : ';' ∉ sessionPair token := by
  simp [sessionPair, sessionCookieName, free]

theorem keptPair_sessionCookie (free : ';' ∉ token.toList) (expires : Instant) :
    keptPair (sessionCookie token expires) = sessionPair token := by
  rw [keptPair, toList_sessionCookie, List.intercalate_cons_cons, List.append_assoc,
    List.singleton_append, takeWhile_before (semicolon_not_mem_sessionPair free)]

theorem attributes_sessionCookie (free : ';' ∉ token.toList) {expires : Instant}
    (four : expires.HasFourDigitYear) : attributes (sessionCookie token expires) =
      [("path".toList, ['/']), ("expires".toList, (Time.httpDate expires).toList),
        ("httponly".toList, []), ("samesite".toList, "Lax".toList)] := by
  have date : ';' ∉ (Time.httpDate expires).toList :=
    Time.not_mem_httpDate four (by decide) (by decide)
  rw [attributes, toList_sessionCookie, splitAtChar_intercalate]
  · simp [readAttribute]
  · simp [semicolon_not_mem_sessionPair free, date]
  · simp

theorem expiry?_sessionCookie (free : ';' ∉ token.toList) {expires : Instant}
    (four : expires.HasFourDigitYear) :
    expiry? (sessionCookie token expires) = some expires.seconds := by
  rw [expiry?, attributes_sessionCookie free four, ← Time.readHttpDate?_httpDate four]
  simp [List.lookup_cons]

end

theorem readCookie?_eq_some_iff {cs : List Char} {name value : String} :
    readCookie? cs = some (name, value) ↔ '=' ∈ cs ∧ nameOf cs ≠ [] ∧
      percentDecoded? (nameOf cs) = some name ∧ percentDecoded? (valueOf cs) = some value := by
  rw [readCookie?, nameOf, valueOf]
  by_cases sign : '=' ∈ cs
  · cases named : Text.trim (cs.takeWhile (· ≠ '=')) with
    | nil => simp [sign]
    | cons c rest => simp [sign, Option.bind_eq_some_iff]
  · simp [sign]

theorem readCookie?_blank (cs : List Char) : readCookie? (' ' :: cs) = readCookie? cs := by
  have name : nameOf (' ' :: cs) = nameOf cs := rfl
  have value : valueOf (' ' :: cs) = valueOf cs := rfl
  ext ⟨n, v⟩
  rw [readCookie?_eq_some_iff, readCookie?_eq_some_iff, name, value]
  simp

theorem nameOf_pair {name : List Char} (free : '=' ∉ name) (value : List Char) :
    nameOf (name ++ '=' :: value) = Text.trim name := by
  rw [nameOf, takeWhile_before free]

theorem valueOf_pair {name : List Char} (free : '=' ∉ name) (value : List Char) :
    valueOf (name ++ '=' :: value) = Text.trim value := by
  rw [valueOf, dropWhile_before free, List.drop_one, List.tail_cons]

theorem trim_of_visible {cs : List Char} (visible : ∀ c ∈ cs, Url.IsVisible c) (some' : cs ≠ []) :
    Text.trim cs = cs := by
  have around : Text.trim ([] ++ cs ++ []) = cs :=
    Url.trim_around visible (by simp) (by simp) some'
  simpa using around

theorem percentDecoded?_name :
    percentDecoded? sessionCookieName.toList = some sessionCookieName := by decide +kernel

/-- A token as it is issued: hexadecimal digits. -/
structure IsToken (token : String) : Prop where
  ne_empty : token ≠ ""
  digit : ∀ c ∈ token.toList, ∃ n < 16, c = Hex.digit n

theorem isToken_token {source : RandomSource} {k : Nat} (drawn : (source.draw k 32).size = 32) :
    IsToken (source.token k) where
  ne_empty := by
    intro empty
    have length := congrArg String.length empty
    rw [RandomSource.token, Hex.length_encode, drawn] at length
    exact absurd length (by decide)
  digit := by
    rw [RandomSource.token, Hex.encode, String.toList_ofList]
    exact Hex.forall_mem_ofBytes (fun n hn => ⟨n, hn, rfl⟩) _

namespace IsToken

variable {token : String} (issued : IsToken token)
include issued

/-- What holds of the sixteen digits holds of a token. -/
theorem all {P : Char → Prop} (digits : ∀ n < 16, P (Hex.digit n)) : ∀ c ∈ token.toList, P c := by
  intro c hc
  obtain ⟨n, hn, rfl⟩ := issued.digit c hc
  exact digits n hn

theorem semicolon_not_mem : ';' ∉ token.toList := fun mem =>
  issued.all (P := (· ≠ ';')) (by decide) _ mem rfl

end IsToken

theorem equalsSign_not_mem_name : '=' ∉ sessionCookieName.toList := by simp [sessionCookieName]

theorem nameOf_sessionPair (token : String) :
    nameOf (sessionPair token) = sessionCookieName.toList := by
  rw [sessionPair, nameOf_pair equalsSign_not_mem_name]
  decide +kernel

theorem readCookie?_sessionPair {token : String} (issued : IsToken token) :
    readCookie? (sessionPair token) = some (sessionCookieName, token) := by
  have visible := issued.all (P := Url.IsVisible) (by decide)
  have plain := issued.all (P := Http.IsPlain) (by unfold Http.IsPlain; decide)
  have value : valueOf (sessionPair token) = token.toList := by
    rw [sessionPair, valueOf_pair equalsSign_not_mem_name, trim_of_visible visible]
    simpa using issued.ne_empty
  rw [readCookie?_eq_some_iff, nameOf_sessionPair, value, percentDecoded?_name,
    Http.percentDecoded?_plain plain, String.ofList_toList]
  exact ⟨by simp [sessionPair], by simp [sessionCookieName], rfl, rfl⟩

theorem isSendable_sessionPair {token : String} (issued : IsToken token) :
    IsSendable (sessionPair token) := by
  have readable := issued.all (P := fun c => ((' ' ≤ c && c ≤ '~') || c == '\t') = true) (by decide)
  have name : Request.isReadable (sessionCookieName ++ "=") = true := by decide +kernel
  refine ⟨?_, semicolon_not_mem_sessionPair issued.semicolon_not_mem⟩
  rw [Request.isReadable, List.all_eq_true] at name ⊢
  intro c hc
  rw [String.toList_ofList, sessionPair, ← List.singleton_append, ← List.append_assoc] at hc
  rcases List.mem_append.mp hc with own | digit
  · exact name c (by simpa using own)
  · exact readable c digit

theorem intercalate_blank (cookie : List Char) (cookies : List (List Char)) :
    List.intercalate [';', ' '] (cookie :: cookies) =
      List.intercalate [';'] (cookie :: cookies.map (' ' :: ·)) := by
  induction cookies generalizing cookie with
  | nil => rfl
  | cons next cookies ih =>
    rw [List.intercalate_cons_cons, ih, List.map_cons, List.intercalate_cons_cons]
    cases cookies with
    | nil => simp
    | cons => simp [List.intercalate_cons_cons]

/-- Each cookie stands between semicolons, and all but the first one after a space. -/
theorem splitAtChar_cookieHeader {cookie : List Char} {cookies : List (List Char)}
    (sendable : ∀ c ∈ cookie :: cookies, IsSendable c) :
    splitAtChar ';' (cookieHeader (cookie :: cookies)).toList =
      cookie :: cookies.map (' ' :: ·) := by
  rw [cookieHeader, String.toList_ofList, intercalate_blank]
  refine splitAtChar_intercalate (fun c hc => ?_) (List.cons_ne_nil _ _)
  rcases List.mem_cons.mp hc with rfl | hc
  · exact (sendable c List.mem_cons_self).2
  · obtain ⟨next, hn, rfl⟩ := List.mem_map.mp hc
    simpa using (sendable next (List.mem_cons_of_mem _ hn)).2

theorem isReadable_cookieHeader {cookies : List (List Char)}
    (sendable : ∀ c ∈ cookies, IsSendable c) :
    Request.isReadable (cookieHeader cookies) = true := by
  have own : ∀ c ∈ cookies, ∀ x ∈ c, ((' ' ≤ x && x ≤ '~') || x == '\t') = true := by
    intro c hc
    simpa only [Request.isReadable, String.toList_ofList, List.all_eq_true] using (sendable c hc).1
  rw [Request.isReadable, cookieHeader, String.toList_ofList, List.all_eq_true]
  cases cookies with
  | nil => simp
  | cons cookie cookies =>
    rw [intercalate_blank]
    intro x hx
    rcases mem_intercalate hx with rfl | ⟨piece, hp, inside⟩
    · decide
    · rcases List.mem_cons.mp hp with rfl | later
      · exact own piece List.mem_cons_self x inside
      · obtain ⟨next, hn, rfl⟩ := List.mem_map.mp later
        rcases List.mem_cons.mp inside with rfl | inside
        · decide
        · exact own next (List.mem_cons_of_mem _ hn) x inside

theorem cookies_of_sent {q : Request} {text : String}
    (sent : q.headers.filter (fun h => h.1 = "cookie") = [("cookie", text)]) :
    q.cookies = if Request.isReadable text then
      (splitAtChar ';' text.toList).filterMap readCookie? else [] := by
  rw [Request.cookies, List.filter_congr fun h _ => Bool.and_comm _ _, ← List.filter_filter, sent]
  cases readable : Request.isReadable text <;> simp [readable]

theorem cookies_of_header {q : Request} {cookies : List (List Char)}
    (sendable : ∀ c ∈ cookies, IsSendable c)
    (sent : q.headers.filter (fun h => h.1 = "cookie") = [("cookie", cookieHeader cookies)]) :
    q.cookies = cookies.filterMap readCookie? := by
  rw [cookies_of_sent sent, if_pos (isReadable_cookieHeader sendable)]
  cases cookies with
  | nil => rfl
  | cons cookie cookies =>
    have blank : readCookie? ∘ (' ' :: ·) = readCookie? := funext readCookie?_blank
    rw [splitAtChar_cookieHeader sendable, List.filterMap_cons, List.filterMap_cons,
      List.filterMap_map, blank]

theorem sessionToken?_of_header {token : String} (issued : IsToken token)
    {before after : List (List Char)} {q : Request}
    (sendable : ∀ c ∈ before ++ after, IsSendable c) (other : ∀ c ∈ after, ¬ShowsSession c)
    (sent : q.headers.filter (fun h => h.1 = "cookie") =
      [("cookie", cookieHeader (before ++ sessionPair token :: after))]) :
    q.sessionToken? = some token := by
  have all : ∀ c ∈ before ++ sessionPair token :: after, IsSendable c := by
    intro c hc
    rcases List.mem_append.mp hc with early | late
    · exact sendable c (List.mem_append_left _ early)
    · rcases List.mem_cons.mp late with rfl | late
      · exact isSendable_sessionPair issued
      · exact sendable c (List.mem_append_right _ late)
  -- of several cookies of one name the last one counts, so those before do not matter
  have none : (after.filterMap readCookie?).reverse.lookup sessionCookieName = none := by
    rw [List.lookup_eq_none_iff]
    rintro ⟨name, value⟩ mem
    obtain ⟨c, hc, read⟩ := List.mem_filterMap.mp (List.mem_reverse.mp mem)
    have named := (readCookie?_eq_some_iff.mp read).2.2.1
    rw [bne_iff_ne]
    rintro rfl
    exact other c hc named
  rw [Request.sessionToken?, cookies_of_header all sent, List.filterMap_append,
    List.filterMap_cons, readCookie?_sessionPair issued]
  dsimp only
  rw [List.reverse_append, List.reverse_cons, List.append_assoc, List.lookup_append, none,
    Option.none_or, List.singleton_append, List.lookup_cons_self, Option.filter_some,
    if_pos (by simpa using issued.ne_empty)]

/-- As long as its session lasts, an account is found by its token. -/
theorem AccountTable.resolve_before {t : AccountTable} {token : String} {a : Account}
    {expires now : Instant} (given : token ≠ "") (found : t.findByToken token = .ok (some a))
    (own : a.session.expiresAt = some expires) (early : now.nanos < expires.nanos)
    (enforce : Bool) : t.resolve enforce now token = .ok (some a) := by
  have live : Session.isLive a now = true := by
    rw [Session.isLive, own]
    exact decide_eq_true early
  rw [resolve, if_neg given, found]
  simp [Except.map, live]

/-- A session comes back as it was handed out. The pair that a browser keeps of the cookie, sent
alone or among other cookies, makes the server look up the token, as long as no cookie after it has
the same name once it is decoded. The date until which the browser keeps it is the last whole second
that is not later than the end of the session, so that the session does not end before. -/
theorem session_cookie_comes_back {source : RandomSource} {k : Nat}
    (drawn : (source.draw k 32).size = 32) (expires : Instant) :
    (∀ (before after : List (List Char)) (q : Request), (∀ c ∈ before ++ after, IsSendable c) →
      (∀ c ∈ after, ¬ShowsSession c) →
      q.headers.filter (fun h => h.1 = "cookie") = [("cookie", cookieHeader
        (before ++ keptPair (sessionCookie (source.token k) expires) :: after))] →
      q.sessionToken? = some (source.token k) ∧
      ∀ s r, (Site.authenticate s q).perform r =
        ((r.accounts.resolve s.service.enforcesExpiry s.now (source.token k)).bind fun found =>
          found.elim (.error (.authentication "Session expired, log in again.")) .ok, r)) ∧
    (expires.HasFourDigitYear →
      expiry? (sessionCookie (source.token k) expires) = some expires.seconds ∧
      (Instant.ofSeconds expires.seconds).nanos ≤ expires.nanos ∧
      expires.nanos < (Instant.ofSeconds (expires.seconds + 1)).nanos ∧
      ∀ (t : AccountTable) a now enforce, t.findByToken (source.token k) = .ok (some a) →
        a.session = (Session.mk (source.token k) expires).columns →
        now.nanos < (Instant.ofSeconds expires.seconds).nanos →
        t.resolve enforce now (source.token k) = .ok (some a)) := by
  have issued : IsToken (source.token k) := isToken_token drawn
  have free := issued.semicolon_not_mem
  have whole : (Instant.ofSeconds expires.seconds).nanos ≤ expires.nanos ∧
      expires.nanos < (Instant.ofSeconds (expires.seconds + 1)).nanos := by
    simp only [Instant.ofSeconds, Instant.seconds]
    omega
  rw [keptPair_sessionCookie free]
  refine ⟨fun before after q sendable other sent => ?_, fun four => ?_⟩
  · have shown := sessionToken?_of_header issued sendable other sent
    exact ⟨shown, Site.perform_authenticate_of_token shown⟩
  · refine ⟨expiry?_sessionCookie free four, whole.1, whole.2, ?_⟩
    intro t a now enforce found own early
    exact AccountTable.resolve_before issued.ne_empty found (by rw [own]; rfl)
      (early.trans_le whole.1) enforce

namespace Alice

open Scene (plain)

def endOfSession : Instant := .ofSeconds 86400

/-- The pair that her browser has kept of the cookie that came with her registration. -/
def kept : List Char := keptPair (sessionCookie (plain.random.token 2) endOfSession)

def language : String := "lang=en"

def theme : String := "theme=dark"

/-- Her browser asks for the profile with these cookies. -/
def visit (cookies : List (List Char)) : Request :=
  ⟨"GET", "/profile", [("host", "ygg.test"), ("cookie", cookieHeader cookies)], .empty, none⟩

theorem comes_back_with_cookie :
    (Site.authenticate plain (visit [language.toList, kept, theme.toList])).perform registry =
      (.ok account, registry) ∧
    (Site.authenticate plain (visit [kept])).perform registry = (.ok account, registry) ∧
    expiry? (sessionCookie (plain.random.token 2) endOfSession) = some 86400 := by
  have drawn : (plain.random.draw 2 32).size = 32 := rfl
  obtain ⟨shown, whileKept⟩ := session_cookie_comes_back drawn endOfSession
  have four : endOfSession.HasFourDigitYear := by
    rw [Instant.HasFourDigitYear, Time.newYear_eq, Time.newYear_eq]
    decide
  obtain ⟨expiry, -, -, resolves⟩ := whileKept four
  have found : registry.accounts.findByToken (plain.random.token 2) = .ok (some account) := by
    have own : account.session.token = some (plain.random.token 2) := rfl
    simp [AccountTable.findByToken, AccountTable.find, registry, own, AccountTable.Row.read,
      Except.map]
  have resolved : registry.accounts.resolve plain.service.enforcesExpiry plain.now
      (plain.random.token 2) = .ok (some account) := resolves _ _ _ _ found rfl (by decide)
  have sent : ∀ cookies, (visit cookies).headers.filter (fun h => h.1 = "cookie") =
      [("cookie", cookieHeader cookies)] := fun _ => rfl
  have among := (shown [language.toList] [theme.toList] _ (by unfold IsSendable; decide +kernel)
    (by unfold ShowsSession; decide +kernel) (sent _)).2 plain registry
  have alone := (shown [] [] _ (by simp) (by simp) (sent _)).2 plain registry
  rw [resolved] at among alone
  exact ⟨among, alone, expiry⟩

/-- A cookie with one letter of its name percent-encoded. -/
def encoded : String := "browser%54oken=x"

def beyondAscii : String := "name=é"

/-- A cookie whose name is another one as it is written takes the place of hers, if the name is the
same once it is decoded; and one that is not ASCII takes all cookies away. -/
theorem other_names_hide_cookie :
    nameOf encoded.toList ≠ nameOf kept ∧ nameOf beyondAscii.toList ≠ nameOf kept ∧
    (visit [kept, encoded.toList]).sessionToken? = some "x" ∧
    (visit [kept, beyondAscii.toList]).sessionToken? = none ∧
    plain.random.token 2 ≠ "x" := by
  have issued : IsToken (plain.random.token 2) := isToken_token rfl
  have pair : kept = sessionPair (plain.random.token 2) :=
    keptPair_sessionCookie issued.semicolon_not_mem _
  have sent : ∀ cookies, (visit cookies).headers.filter (fun h => h.1 = "cookie") =
      [("cookie", cookieHeader cookies)] := fun _ => rfl
  have short : plain.random.token 2 ≠ "x" := by
    intro same
    obtain ⟨n, hn, digit⟩ := issued.digit 'x' (by simp [same])
    revert n
    decide
  rw [pair, nameOf_sessionPair]
  refine ⟨by decide +kernel, by decide +kernel, ?_, ?_, short⟩
  · have sendable : ∀ c ∈ [sessionPair (plain.random.token 2), encoded.toList], IsSendable c := by
      rw [List.forall_mem_cons, List.forall_mem_singleton]
      exact ⟨isSendable_sessionPair issued, by unfold IsSendable; decide +kernel⟩
    have read : readCookie? encoded.toList = some (sessionCookieName, "x") := by decide +kernel
    rw [Request.sessionToken?, cookies_of_header sendable (sent _)]
    simp [readCookie?_sessionPair issued, read]
  · rw [Request.sessionToken?, cookies_of_sent (sent _)]
    simp [Request.isReadable, cookieHeader, beyondAscii]

end Alice

end PlayerRegistry
