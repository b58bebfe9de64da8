import PlayerRegistry.Proofs.ChallengeSkins
import PlayerRegistry.Proofs.Operations
import PlayerRegistry.Proofs.Runs
import PlayerRegistry.Proofs.TexturePages

/-!
# Pages for players who migrate

The page about migration tells where the challenge skin for a name is found, and what is found there
is the skin for this name.
-/

namespace PlayerRegistry

open Http (Request Response)

theorem Http.Request.parts_of_target {q : Request} {path query : List Char}
    (target : q.target.toList = path ++ '?' :: query) (plain : '?' ∉ path)
    (whole : '#' ∉ q.target.toList) : q.parts = (path, query) := by
  have all : q.target.toList.takeWhile (· ≠ '#') = q.target.toList := by
    simpa using @List.takeWhile_append_of_pos _ _ _ [] (goesOn whole)
  rw [parts, all, target, takeWhile_before plain, dropWhile_before plain, List.drop_one,
    List.tail_cons]

/-- Registration lets a name through only after the check that the pages make, too. -/
theorem Scene.checkUsername_of_register {s : Scene} {q : RegisterRequest} {made : SignedIn}
    {r r' : Registry} (registered : (s.register q).perform r = (.ok made, r')) :
    Field.checkUsername q.username = .ok () := by
  rw [register_eq] at registered
  cases checks : s.checkRegistration q with
  | error e =>
    rw [checks] at registered
    cases registered
  | ok _ =>
    obtain ⟨_, checked, -⟩ := ok_of_bind checks
    exact checked

namespace Site

/-- Where a page for a name is asked for. -/
def pageTarget (path username : String) : String :=
  path ++ "?username=" ++ Percent.encodeComponent username

theorem challengeUrl_eq (s : Scene) (username : String) : challengeUrl s username =
    Text.withoutTrailingSlashes s.service.config.baseUrl ++
      pageTarget "/challenge-skin" username := by
  have joined : "/challenge-skin" ++ "?username=" = "/challenge-skin?username=" := rfl
  rw [challengeUrl, pageTarget, joined, String.append_assoc]

theorem challengeUrl_injective {s : Scene} {name name' : String}
    (same : challengeUrl s name = challengeUrl s name') : name = name' := by
  rw [challengeUrl, challengeUrl] at same
  exact Percent.encodeComponent_injective (by simpa using same)

/-- The request is for a page, and its query is for this name. -/
structure AsksFor (q : Request) (path username : String) : Prop where
  path : q.path = path.toList
  name : Http.Form.required? (Http.Form.fields (Utf8.encode q.query)) "username" = some username

/-- The target is read as the page and the name of which it was made. -/
theorem asksFor_of_target {q : Request} {path username : String}
    (plain : '?' ∉ path.toList ∧ '#' ∉ path.toList) (target : q.target = pageTarget path username) :
    AsksFor q path username := by
  have free : '#' ∉ (Percent.encodeComponent username).toList :=
    Percent.not_mem_encodeComponent username (by decide) (by decide)
  have chars : q.target.toList = path.toList ++ '?' :: Http.Form.single "username" username := by
    rw [target, pageTarget, String.toList_append, String.toList_append, List.append_assoc]
    rfl
  have parts : q.parts = (path.toList, Http.Form.single "username" username) := by
    refine Request.parts_of_target chars plain.1 ?_
    rw [chars, List.mem_append, List.mem_cons, Http.Form.single, List.mem_append, List.mem_cons]
    simp [plain.2, free]
  refine ⟨congrArg Prod.fst parts, ?_⟩
  rw [Request.query, parts]
  exact Http.Form.required?_single (by simp [Percent.isUnreserved]) username

theorem outcome_queryName {q : Request} {path username : String} (asks : AsksFor q path username)
    (r : Registry) : outcome (queryName q) r = (.ok username, r) := by
  rw [queryName, asks.name]
  rfl

/-- A request that is read only, and that no limit turns away. -/
structure Admitted (limit : Option Nat) (s : Scene) (site : Site) (q : Request) : Prop where
  method : q.method = "GET"
  admitted : ((passLimiter s q).run site).1 = true
  short : isTooLong limit q = false

theorem Admitted.answer {limit : Option Nat} {s : Scene} {site : Site} {q : Request}
    (h : Admitted limit s site q) {route : Route} (known : Route.ofPath? q.path = some route)
    (reads : route.isPost = false) {p : Response} {r : Registry}
    (done : outcome (visit limit s q route) site.registry = (.ok p, r)) :
    ((respond limit s q).run site).1 = p :=
  run_respond_get h.method h.admitted h.short known reads done

/-- What a player who migrates is told. -/
def instructions (m : Migration) (url : String) : Response :=
  .ofJson 200 (.object [("nickname", .string m.nickname),
    ("requireSkinVerification", .bool m.requireSkinVerification),
    ("setSkinUrl", .string m.setSkinUrl), ("challengeSkinUrl", .string url)])

theorem outcome_visit_migration {limit : Option Nat} {s : Scene} {q : Request} {m : Migration}
    {path username : String} (enabled : s.service.policy.migration = some m)
    (accepted : Field.checkUsername username = .ok ()) (asks : AsksFor q path username)
    (r : Registry) : outcome (visit limit s q .migration) r =
      (.ok (instructions m (challengeUrl s username)), r) := by
  rw [visit, outcome_bind_ok (outcome_queryName asks r), outcome_answering, migrationPage, accepted]
  rw [enabled]
  rfl

theorem outcome_visit_challengeSkin {limit : Option Nat} {s : Scene} {q : Request}
    {path username : String} (accepted : Field.checkUsername username = .ok ())
    (asks : AsksFor q path username) (r : Registry) :
    outcome (visit limit s q .challengeSkin) r =
      (.ok (.ofPng (Challenge.skin s.service.key username) "no-store"), r) := by
  rw [visit, outcome_bind_ok (outcome_queryName asks r), outcome_answering, challengePage, accepted]
  rfl

theorem Route.ofPath?_migration : ofPath? "/migration".toList = some .migration := by
  rw [ofPath?, String.ofList_toList]
  rfl

theorem Route.ofPath?_challengeSkin : ofPath? "/challenge-skin".toList = some .challengeSkin := by
  rw [ofPath?, String.ofList_toList]
  rfl

/-- What follows the base URL is a target at which the same service answers with this file, whenever
it is asked. -/
def LeadsTo (limit : Option Nat) (s : Scene) (url : String) (file : ByteArray) : Prop :=
  ∃ target, url = Text.withoutTrailingSlashes s.service.config.baseUrl ++ target ∧
    ∀ s' site q, s'.service = s.service → q.target = target → Admitted limit s' site q →
      ((respond limit s' q).run site).1 = .ofPng file "no-store"

theorem leadsTo_challengeUrl (limit : Option Nat) (s : Scene) {username : String}
    (accepted : Field.checkUsername username = .ok ()) :
    LeadsTo limit s (challengeUrl s username) (Challenge.skin s.service.key username) := by
  refine ⟨_, challengeUrl_eq s username, ?_⟩
  intro s' site q same target admitted
  have asks := asksFor_of_target (by decide) target
  have known := Route.ofPath?_challengeSkin
  rw [← asks.path] at known
  have done := @outcome_visit_challengeSkin limit s' q _ _ accepted asks site.registry
  rw [same] at done
  exact admitted.answer known rfl done

/-- The page about migration can be asked for under every name that registration accepts. It names
a URL that belongs to this name alone, and leads to a picture that is recognized as the challenge
for this name, and for no other unless the hashes of both, keyed with the fingerprint of the key,
collide in all colors. -/
theorem migration_leads_to_challenge (limit : Option Nat) (s : Scene) {m : Migration}
    (enabled : s.service.policy.migration = some m) :
    (∀ {q made r r'}, (s.register q).perform r = (.ok made, r') →
      Field.checkUsername q.username = .ok ()) ∧
    (∀ username, Field.checkUsername username = .ok () →
      (∀ q, q.target = pageTarget "/migration" username → AsksFor q "/migration" username) ∧
      (∀ site q, Admitted limit s site q → AsksFor q "/migration" username →
        ((respond limit s q).run site).1 = instructions m (challengeUrl s username)) ∧
      ∃ file, LeadsTo limit s (challengeUrl s username) file ∧
        ∀ other, Challenge.accepts s.service.key other file = true ↔
          other = username ∨ Challenge.Collide s.service.key other username) ∧
    ∀ name name', challengeUrl s name = challengeUrl s name' → name = name' := by
  refine ⟨Scene.checkUsername_of_register, ?_, fun _ _ => challengeUrl_injective⟩
  intro username accepted
  refine ⟨fun _ => asksFor_of_target (by decide), ?_, Challenge.skin s.service.key username,
    leadsTo_challengeUrl limit s accepted, Challenge.accepts_skin_iff s.service.key username⟩
  intro site q admitted asks
  have known := Route.ofPath?_migration
  rw [← asks.path] at known
  exact admitted.answer known rfl (outcome_visit_migration enabled accepted asks site.registry)

/-- A request for a page, of a client whose address is not known. -/
def getPage (target : String) : Request := ⟨"GET", target, [], .empty, none⟩

/-- A player whose name is not made of plain letters only finds the challenge. -/
theorem challenge_for_zoe :
    ((respond none .plain (getPage "/migration?username=Zo%C3%AB%20%26%2B")).run
      ⟨.empty, none⟩).1 =
        instructions
          ⟨"Mojang", "https://sessionserver.mojang.com", "https://api.mojang.com",
            "https://www.minecraft.net/msaprofile/mygames/editskin", true⟩
          "https://ygg.example.com/challenge-skin?username=Zo%C3%AB%20%26%2B" ∧
    ∃ file, ((respond none .plain (getPage "/challenge-skin?username=Zo%C3%AB%20%26%2B")).run
      ⟨.empty, none⟩).1 = .ofPng file "no-store" ∧
      Challenge.accepts Service.plain.key "Zoë &+" file = true := by
  have enabled : Scene.plain.service.policy.migration =
      some ⟨"Mojang", "https://sessionserver.mojang.com", "https://api.mojang.com",
        "https://www.minecraft.net/msaprofile/mygames/editskin", true⟩ := by decide +kernel
  have url : challengeUrl .plain "Zoë &+" =
      "https://ygg.example.com/challenge-skin?username=Zo%C3%AB%20%26%2B" := by decide +kernel
  obtain ⟨-, pages, -⟩ := migration_leads_to_challenge none .plain enabled
  obtain ⟨asks, told, file, ⟨target, whole, leads⟩, recognized⟩ :=
    pages "Zoë &+" (by decide +kernel)
  have admitted : ∀ target, Admitted none .plain ⟨.empty, none⟩ (getPage target) :=
    fun _ => ⟨rfl, rfl, rfl⟩
  rw [url] at told whole
  refine ⟨told _ _ (admitted _) (asks _ (by decide +kernel)), file, ?_,
    (recognized _).mpr (.inl rfl)⟩
  refine leads _ _ _ rfl ?_ (admitted _)
  have base : Text.withoutTrailingSlashes Scene.plain.service.config.baseUrl =
      "https://ygg.example.com" := by decide +kernel
  have split : "https://ygg.example.com/challenge-skin?username=Zo%C3%AB%20%26%2B" =
      "https://ygg.example.com" ++ "/challenge-skin?username=Zo%C3%AB%20%26%2B" := rfl
  rw [base, split] at whole
  exact (String.append_right_inj _).mp whole

end Site

end PlayerRegistry
