import PlayerRegistry.Proofs.HostTexts
import PlayerRegistry.Proofs.InternalAddresses
import PlayerRegistry.Proofs.RemoteAnswers
import PlayerRegistry.Proofs.WrittenUrls

/-!
# Fetching from addresses

A fetcher that keeps to public hosts asks for nothing at an internal address, however the address is
spelled in the URL, and asks for what is at any other.
-/

namespace PlayerRegistry

namespace Url

/-- Nothing, or a name and what sets it apart from the host. -/
def IsUser (user : List Char) : Prop :=
  user = [] ∨ ∃ name, user = name ++ ['@'] ∧ ∀ c ∈ name, endsAuthority true c = false

/-- Nothing, or a colon and a number that is a port. -/
def IsPort (port : List Char) : Prop :=
  port = [] ∨ ∃ digits, port = ':' :: digits ∧ digits.all Text.isDigit = true ∧
    Text.digitsValue digits < 65536

/-- The texts of URLs of the web whose host spells the address: with slashes of either kind, with or
without a user and a port, and any place on the server. -/
inductive Spells (a : IpAddress) : List Char → Prop
  | mk {scheme slashes user host port rest}
    (scheme' : scheme.map Char.toLower = "http".toList ∨ scheme.map Char.toLower = "https".toList)
    (slashes' : ∀ c ∈ slashes, isSlash c = true)
    (user' : IsUser user) (host' : a.Spells host)
    (port' : IsPort port) (rest' : IsPlace rest) :
    Spells a (scheme ++ ':' :: (slashes ++ (user ++ host ++ port)) ++ rest)

theorem isAlpha_of_toLower : ∀ k < 128, (Char.ofNat k).toLower ∈ "https".toList →
    (Char.ofNat k).isAlpha = true := by decide +kernel

theorem isScheme_of_toLower {scheme : List Char}
    (h : scheme.map Char.toLower = "http".toList ∨ scheme.map Char.toLower = "https".toList) :
    IsScheme scheme := by
  have letters : ∀ c ∈ scheme, c.isAlpha = true := by
    intro c hc
    have mem : c.toLower ∈ scheme.map Char.toLower := List.mem_map_of_mem hc
    have lower : c.toLower ∈ "https".toList := by
      rcases h with h | h
      · rw [h] at mem
        exact List.mem_of_mem_take (i := 4) mem
      · rwa [h] at mem
    have small : ∀ d ∈ "https".toList, d.toNat < 128 := List.all_iff_forall_prop.mp (by decide)
    have ascii : c.toNat < 128 := Hex.ascii_of_toLower (small _ lower)
    simpa using isAlpha_of_toLower c.toNat ascii (by simpa using lower)
  constructor
  · intro c hc
    simp [isSchemeChar, Char.isAlphanum, letters c hc]
  · cases scheme with
    | nil => rcases h with h | h <;> cases h
    | cons first scheme => exact ⟨first, rfl, letters first List.mem_cons_self⟩

/-- A sign of a host that spells an address. -/
def IsHostSign (c : Char) : Prop := IsAddressSign c ∨ c = ':' ∨ c = '[' ∨ c = ']'

theorem isAddressSign_of_isSign {c : Char} (h : Ipv6.IsSign c) (other : c ≠ ':') :
    IsAddressSign c := by
  rcases h with colon | rfl | digit
  · exact absurd colon other
  · decide
  · obtain ⟨d, read⟩ := Option.isSome_iff_exists.mp digit
    obtain ⟨bound, lower⟩ := Hex.digitValue?_eq_some_iff.mp read
    have all : ∀ d < 16, Hex.digit d ∈ addressSigns := by decide
    rw [IsAddressSign, lower]
    exact all d bound

theorem not_isBracket_of_isSign {c : Char} (h : Ipv6.IsSign c) : c ≠ '[' ∧ c ≠ ']' := by
  constructor
  · rintro rfl
    exact absurd (isAddressSign_of_isSign h (by decide)) (by decide)
  · rintro rfl
    exact absurd (isAddressSign_of_isSign h (by decide)) (by decide)

theorem IsHostSign.ne {c d : Char} (h : IsHostSign c) (other : ¬IsAddressSign d)
    (plain : d ≠ ':' ∧ d ≠ '[' ∧ d ≠ ']') : c ≠ d := by
  rintro rfl
  rcases h with sign | colon | opening | closing
  · exact other sign
  · exact plain.1 colon
  · exact plain.2.1 opening
  · exact plain.2.2 closing

theorem IsHostSign.not_endsAuthority {c : Char} (h : IsHostSign c) :
    endsAuthority true c = false := by
  simp [endsAuthority, h.ne (d := '/') (by decide) (by decide),
    h.ne (d := '?') (by decide) (by decide), h.ne (d := '#') (by decide) (by decide),
    h.ne (d := '\\') (by decide) (by decide)]

section
variable {a : IpAddress} {host : List Char} (h : a.Spells host)
include h

theorem isHostSign_of_spells : ∀ c ∈ host, IsHostSign c := by
  intro c hc
  cases a with
  | v4 a => exact .inl (Ipv4.Spells.signs h c hc)
  | v6 a =>
    obtain ⟨inner, spells, rfl⟩ := h
    simp only [List.cons_append, List.mem_cons, List.mem_append, List.not_mem_nil, or_false] at hc
    rcases hc with opening | inside | closing
    · exact .inr (.inr (.inl opening))
    · by_cases colon : c = ':'
      · exact .inr (.inl colon)
      · exact .inl (isAddressSign_of_isSign (spells.signs inside) colon)
    · exact .inr (.inr (.inr closing))

theorem ne_nil_of_spells : host ≠ [] := by
  rintro rfl
  have none : host? [] = none := by decide
  rw [host?_of_spells h] at none
  cases none

theorem splitPort_of_spells {port : List Char} (start : ∀ c ∈ port.head?, c = ':') :
    splitPort false (host ++ port) = (host, port) := by
  cases a with
  | v4 a =>
    have signs := Ipv4.Spells.signs h
    rw [splitPort_append (fun c hc => ⟨(signs c hc).ne (by decide), (signs c hc).ne (by decide),
      (signs c hc).ne (by decide)⟩), splitPort_of_start start, List.append_nil]
  | v6 a =>
    obtain ⟨inner, spells, rfl⟩ := h
    have inside : ∀ c ∈ inner, c ≠ '[' ∧ c ≠ ']' := fun c hc =>
      not_isBracket_of_isSign (spells.signs hc)
    rw [List.append_assoc, List.singleton_append, splitPort_bracketed inside,
      splitPort_of_start start]

end

theorem IsPort.port? {port : List Char} (h : IsPort port) :
    ∃ number, port? (port.drop 1) = some number := by
  rcases h with rfl | ⟨digits, rfl, decimal, small⟩
  · exact ⟨none, rfl⟩
  · rw [List.drop_one, List.tail_cons, Url.port?]
    split
    · exact ⟨none, rfl⟩
    · exact ⟨_, if_pos ⟨decimal, small⟩⟩

theorem IsPort.start {port : List Char} (h : IsPort port) : ∀ c ∈ port.head?, c = ':' := by
  rcases h with rfl | ⟨digits, rfl, -⟩
  · nofun
  · rintro c ⟨⟩
    rfl

theorem IsPort.signs {port : List Char} (h : IsPort port) :
    ∀ c ∈ port, c ≠ '@' ∧ endsAuthority true c = false := by
  intro c hc
  rcases h with rfl | ⟨digits, rfl, decimal, -⟩
  · cases hc
  · rcases List.mem_cons.mp hc with rfl | inside
    · decide
    · have digit := List.all_eq_true.mp decimal c inside
      have other : ∀ d : Char, Text.isDigit d = false → c ≠ d := by
        rintro d plain rfl
        rw [digit] at plain
        cases plain
      refine ⟨other '@' (by decide), ?_⟩
      simp [endsAuthority, other '/' (by decide), other '?' (by decide), other '#' (by decide),
        other '\\' (by decide)]

theorem IsUser.signs {user : List Char} (h : IsUser user) :
    ∀ c ∈ user, endsAuthority true c = false := by
  intro c hc
  rcases h with rfl | ⟨name, rfl, inside⟩
  · cases hc
  · rcases List.mem_append.mp hc with before | last
    · exact inside c before
    · rw [List.mem_singleton.mp last]
      rfl

theorem origin?_of_spells {a : IpAddress} (secure : Bool) {user host port : List Char}
    (user' : IsUser user) (host' : a.Spells host) (port' : IsPort port) :
    ∃ o, origin? secure (user ++ host ++ port) = some o ∧ o.host = .ip a := by
  have free : '@' ∉ host ++ port := by
    intro mem
    rcases List.mem_append.mp mem with inHost | inPort
    · exact (isHostSign_of_spells host' '@' inHost).ne (by decide) (by decide) rfl
    · exact (port'.signs '@' inPort).1 rfl
  obtain ⟨name, split⟩ : ∃ name, splitUser (user ++ (host ++ port)) = (name, host ++ port) := by
    rcases user' with rfl | ⟨name, rfl, -⟩
    · exact ⟨none, splitUser_of_not_mem free⟩
    · refine ⟨some name, ?_⟩
      rw [List.append_assoc, List.singleton_append, splitUser_append name free]
  obtain ⟨number, read⟩ := port'.port?
  have filled : ¬host.isEmpty = true := by simpa using ne_nil_of_spells host'
  rw [origin?, List.append_assoc, split]
  dsimp only
  rw [splitPort_of_spells host' port'.start]
  dsimp only
  rw [if_neg filled, host?_of_spells host', read]
  exact ⟨_, rfl, rfl⟩

/-- A text that spells a URL of the address is read as one, with blanks around it or not. -/
theorem parse?_of_spells {a : IpAddress} {text : String} {before cs after : List Char}
    (whole : text.toList = before ++ cs ++ after)
    (blank : ∀ c ∈ before ++ after, Text.isBlank c = true) (visible : ∀ c ∈ cs, IsVisible c)
    (h : Spells a cs) : ∃ u, parse? (Text.trimmed text) = some (.web u) ∧ u.host = .ip a := by
  obtain ⟨scheme', slashes', user', host', port', rest'⟩ := h
  rename_i scheme slashes user host port rest
  obtain ⟨o, origin, address⟩ :=
    origin?_of_spells (decide (scheme.map Char.toLower = "https".toList)) user' host' port'
  have secured := secure_of_origin? origin
  have inside : ∀ c ∈ user ++ host ++ port, endsAuthority true c = false := by
    intro c hc
    rw [List.append_assoc, List.mem_append, List.mem_append] at hc
    rcases hc with inUser | inHost | inPort
    · exact user'.signs c inUser
    · exact (isHostSign_of_spells host' c inHost).not_endsAuthority
    · exact (port'.signs c inPort).2
  have filled : user ++ host ++ port ≠ [] := by
    have := ne_nil_of_spells host'
    simp [this]
  have named : scheme.map Char.toLower = o.scheme := by
    rw [Url.scheme, secured]
    rcases scheme' with plain | secure
    · rw [plain]
      rfl
    · rw [secure]
      rfl
  have trimmed : Text.trim text.toList =
      scheme ++ ':' :: (slashes ++ (user ++ host ++ port)) ++ rest := by
    rw [whole]
    exact trim_around visible (fun c hc => blank c (List.mem_append_left _ hc))
      (fun c hc => blank c (List.mem_append_right _ hc)) (by simp)
  refine ⟨o.place rest, parse?_eq_web_iff.mpr ⟨_, rest, o, ?_, ⟨scheme, slashes, _, rfl,
    isScheme_of_toLower scheme', named, slashes', inside, filled, ?_⟩, rest', rfl⟩, address⟩
  · rw [Text.trimmed, String.toList_ofList, trimmed, cleaned_of_visible visible]
  · rw [secured, origin]

end Url

/-- The text of an address can stand in a request. -/
theorem Web.isWritable_ip {u : Url} {a : IpAddress} (host : u.host = .ip a) :
    isWritable u = true := by
  have each : ∀ c ∈ (Host.ip a).text, isUnwritable c = false := by
    intro c hc
    rw [← Bool.not_eq_true]
    intro unwritable
    have among : c = '"' ∨ c = '`' ∨ c = '\x7b' ∨ c = '\x7d' := by
      simpa [isUnwritable, or_assoc] using unwritable
    cases a with
    | v4 a =>
      rcases Ipv4.sign_of_mem_toText hc with rfl | digit
      · simp at among
      · rcases among with rfl | rfl | rfl | rfl <;> cases digit
    | v6 a =>
      have sign := Url.isHostSign_of_spells (a := .v6 a) ⟨_, a.spells_toText, rfl⟩ c hc
      rcases among with rfl | rfl | rfl | rfl <;> exact sign.ne (by decide) (by decide) rfl
  rw [isWritable, host, Bool.not_eq_true', List.any_eq_false]
  exact fun c hc => by rw [each c hc]; exact Bool.false_ne_true

namespace Fetcher
variable {f : Fetcher} {w : Web} {field text : String} {u : Url} {a : IpAddress}

theorem isPublic_ip (host : u.host = .ip a) : IsPublic w u.host ↔ ¬a.IsInternal := by
  rw [host, ← a.isPublic_iff, IsPublic]
  simp [addresses]

/-- The one error of a host that is an address. -/
theorem checkPublic_of_internal (host : u.host = .ip a) (internal : a.IsInternal) :
    checkPublic w field u = .error (.validation field "URL must point to a public host") := by
  have closed : ¬a.isPublic = true := fun h => a.isPublic_iff.mp h internal
  rw [checkPublic, host]
  simp [addresses, closed, bind, Except.bind]

theorem fetch_of_refused (guarded : f.allowPrivateHosts = false) (read : readUrl field text = .ok u)
    {e : Error} (refused : checkPublic w field u = .error e) :
    f.fetch w field text = .fail e := by
  simp [fetch, read, guarded, refused, bind, Except.bind]

theorem fetch_of_admitted (guarded : f.allowPrivateHosts = false)
    (read : readUrl field text = .ok u) (admitted : checkPublic w field u = .ok ()) :
    f.fetch w field text = ⟨(w.send u).1, f.receive field u (w.send u).2⟩ := by
  simp [fetch, read, guarded, admitted, bind, Except.bind, pure, Except.pure]

theorem fetch_of_unread {e : Error} (unread : readUrl field text = .error e) :
    f.fetch w field text = .fail e := by
  simp [fetch, unread, bind, Except.bind]

end Fetcher

namespace Web
variable {w : Web}

/-- The answer at the first URL sends the request on to the second. -/
def SendsOn (w : Web) (u v : Url) : Prop :=
  ∃ a, w.answer? u.target = some a ∧ a.next? = some (.web v)

/-- The requests are for the URL, and for those that one answer after another sends on to. -/
def Follows (w : Web) (u : Url) (limit : Nat) (sent : List Request) : Prop :=
  ∃ us, sent = (u :: us).map request ∧ (u :: us).IsChain w.SendsOn ∧ us.length ≤ limit

theorem follows_one (w : Web) (u : Url) (limit : Nat) : w.Follows u limit [request u] :=
  ⟨[], rfl, .singleton u, Nat.zero_le _⟩

theorem Follows.cons {u v : Url} {limit : Nat} {sent : List Request} (first : w.SendsOn u v)
    (later : w.Follows v limit sent) : w.Follows u (limit + 1) (request u :: sent) := by
  obtain ⟨us, rfl, chain, few⟩ := later
  exact ⟨v :: us, rfl, .cons_cons first chain, Nat.succ_le_succ few⟩

theorem sent_exchange (w : Web) (u : Url)
    (follow : Location → List Request × Except String Answer) :
    (w.exchange u follow).1 = [request u] ∨ ∃ a location, w.answer? u.target = some a ∧
      a.next? = some location ∧ (w.exchange u follow).1 = request u :: (follow location).1 := by
  rw [exchange]
  cases answered : w.answer? u.target with
  | none => exact .inl rfl
  | some a =>
    simp only
    cases next : a.next? with
    | none => exact .inl rfl
    | some location => exact .inr ⟨a, location, rfl, next, rfl⟩

theorem follows_follow (w : Web) (left : Nat) (u : Url) :
    w.Follows u left (w.follow left u).1 := by
  induction left generalizing u with
  | zero =>
    rw [follow]
    obtain one | ⟨_, _, -, -, one⟩ := w.sent_exchange u _
    · exact one ▸ w.follows_one u 0
    · exact one ▸ w.follows_one u 0
  | succ left ih =>
    rw [follow]
    obtain one | ⟨a, location, answered, next, more⟩ := w.sent_exchange u _
    · exact one ▸ w.follows_one u _
    · rw [more]
      cases location with
      | web v => exact (ih v).cons ⟨a, answered, next⟩
      | other text => exact w.follows_one u _

theorem follows_send {u : Url} (sent : (w.send u).1 ≠ []) :
    w.Follows u redirectLimit (w.send u).1 := by
  rw [send] at sent ⊢
  split at sent
  · rw [if_pos ‹_›]
    exact w.follows_follow redirectLimit u
  · exact absurd rfl sent

theorem follows_send_ip (w : Web) {u : Url} {a : IpAddress} (host : u.host = .ip a) :
    w.Follows u redirectLimit (w.send u).1 := by
  rw [send, if_pos (isWritable_ip host)]
  exact w.follows_follow redirectLimit u

end Web

/-- A fetcher that is kept to public hosts sends no request if the host of the URL that a text
stands for is an internal address. Of the hosts that are addresses, it refuses just the internal
ones, with an error of the field; where it asks, the first request is for the URL itself, and others
only for what the answers send on to. The address is the one that the host is looked up as, and the
one that the text spells. -/
theorem private_addresses_are_kept_out (f : Fetcher) (w : Web) (field text : String)
    (guarded : f.allowPrivateHosts = false) :
    ((f.fetch w field text).sent ≠ [] → ∃ u, Url.parse? (Text.trimmed text) = some (.web u) ∧
      w.Follows u Web.redirectLimit (f.fetch w field text).sent ∧
      ∀ a, u.host = .ip a → ¬a.IsInternal) ∧
    (∀ u a, Url.parse? (Text.trimmed text) = some (.web u) → u.host = .ip a →
      IpAddress.parse? (String.ofList u.host.bare) = some a ∧
      (a.IsInternal → f.fetch w field text =
        .fail (.validation field "URL must point to a public host")) ∧
      (¬a.IsInternal → w.Follows u Web.redirectLimit (f.fetch w field text).sent ∧
        (f.fetch w field text).result = f.receive field u (w.send u).2)) ∧
    (∀ a before cs after, text.toList = before ++ cs ++ after →
      (∀ c ∈ before ++ after, Text.isBlank c = true) → (∀ c ∈ cs, Url.IsVisible c) →
      Url.Spells a cs →
      ∃ u, Url.parse? (Text.trimmed text) = some (.web u) ∧ u.host = .ip a) := by
  refine ⟨?_, ?_, fun a before cs after whole blank visible spells =>
    Url.parse?_of_spells whole blank visible spells⟩
  · intro sent
    cases read : Fetcher.readUrl field text with
    | error e =>
      rw [Fetcher.fetch_of_unread read] at sent
      exact absurd rfl sent
    | ok u =>
      cases checked : Fetcher.checkPublic w field u with
      | error e =>
        rw [Fetcher.fetch_of_refused guarded read checked] at sent
        exact absurd rfl sent
      | ok _ =>
        rw [Fetcher.fetch_of_admitted guarded read checked] at sent ⊢
        refine ⟨u, Fetcher.readUrl_eq_ok_iff.mp read, Web.follows_send sent, fun a host => ?_⟩
        exact (Fetcher.isPublic_ip host).mp (Fetcher.checkPublic_eq_ok_iff.mp checked)
  · intro u a parsed host
    have read : Fetcher.readUrl field text = .ok u := Fetcher.readUrl_eq_ok_iff.mpr parsed
    refine ⟨by rw [host, Host.parse?_bare], fun internal => ?_, fun outside => ?_⟩
    · exact Fetcher.fetch_of_refused guarded read (Fetcher.checkPublic_of_internal host internal)
    · have checked : Fetcher.checkPublic w field u = .ok () :=
        Fetcher.checkPublic_eq_ok_iff.mpr ((Fetcher.isPublic_ip host).mpr outside)
      rw [Fetcher.fetch_of_admitted guarded read checked]
      exact ⟨w.follows_send_ip host, rfl⟩

/-- The loopback address with a hexadecimal number, and two of its bytes left out. -/
theorem spells_loopback :
    Ipv4.Spells (.ofOctets [127, 0, 0, 1])
      (List.intercalate ['.'] ["0x7f".toList, "1".toList] ++ []) := by
  have first : Url.Numeral "0x7f".toList 127 :=
    .hexadecimal (by decide) ⟨[7, 15], by decide, by decide, by decide⟩
  have second : Url.Numeral "1".toList 1 :=
    .decimal (by decide) ⟨[1], by decide, by decide, by decide⟩
  have read : List.Forall₂ Url.Numeral ["0x7f".toList, "1".toList] ([127] ++ [1]) :=
    .cons first (.cons second .nil)
  exact .mk read (by decide) (by decide) (by decide) (by decide) (.inl rfl)

theorem loopback_is_kept_out :
    let f : Fetcher := ⟨1024, false⟩
    let w : Web := ⟨fun _ => none, fun _ => none⟩
    f.allowPrivateHosts = false ∧ f.fetch w "skin" " HTTP:\\\\me@0x7f.1:8080/skin.png" =
      .fail (.validation "skin" "URL must point to a public host") := by
  intro f w
  obtain ⟨-, gate, spelled⟩ :=
    private_addresses_are_kept_out f w "skin" " HTTP:\\\\me@0x7f.1:8080/skin.png" rfl
  have user : Url.IsUser "me@".toList :=
    .inr ⟨"me".toList, by decide, List.all_iff_forall_prop.mp (by decide)⟩
  have port : Url.IsPort ":8080".toList := .inr ⟨"8080".toList, by decide, by decide, by decide⟩
  have place : Url.IsPlace "/skin.png".toList := by
    rintro c ⟨⟩
    rfl
  have slashes : ∀ c ∈ "\\\\".toList, Url.isSlash c = true :=
    List.all_iff_forall_prop.mp (by decide)
  have spells := Url.Spells.mk (a := .v4 (.ofOctets [127, 0, 0, 1]))
    (show "HTTP".toList.map Char.toLower = "http".toList ∨ _ from .inl (by decide))
    slashes user spells_loopback port place
  obtain ⟨u, parsed, host⟩ := spelled _ [' '] _ [] (by decide)
    (List.all_iff_forall_prop.mp (by decide)) (List.all_iff_forall_prop.mp (by decide)) spells
  exact ⟨rfl, (gate u _ parsed host).2.1 (by decide)⟩

end PlayerRegistry
