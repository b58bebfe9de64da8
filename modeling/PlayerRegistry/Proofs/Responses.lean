import PlayerRegistry.Proofs.Work
import PlayerRegistry.Site.Respond

/-!
# Requests that are answered alone

What comes of a request from its first step to its last: it is turned away by a limit, for its path
or for its method, or it comes to what is done at its route.
-/

namespace PlayerRegistry

open Http (Request Response)

/-- The status says that the request was carried out. -/
def Http.Response.Succeeds (p : Response) : Prop := 200 ≤ p.status ∧ p.status < 300

theorem Http.Response.not_succeeds_ofError (e : Error) : ¬(ofError e).Succeeds := by
  cases e <;> simp [Succeeds, ofError, ofJson, Error.status]

namespace Flow

theorem run_onPart {σ τ α : Type} {get : τ → σ} {set : σ → τ → τ}
    (get_set : ∀ x t, get (set x t) = x) (set_set : ∀ x y t, set x (set y t) = set x t)
    (set_get : ∀ t, set (get t) t = t) (f : Flow σ α) (t : τ) :
    (f.onPart get set).run t = ((f.run (get t)).1, set (f.run (get t)).2 t) := by
  induction f generalizing t with
  | done a => simp only [onPart, run, set_get]
  | step update next ih => simp only [onPart, run, ih, get_set, set_set]

end Flow

namespace Site

variable {α β : Type}

/-- What answering comes to when it is done alone, and the registry that it leaves. -/
def outcome (x : Answering α) (r : Registry) : Except Response α × Registry :=
  Flow.run (ExceptT.run x) r

@[simp]
theorem outcome_pure (a : α) (r : Registry) : outcome (pure a) r = (.ok a, r) := rfl

@[simp]
theorem outcome_throw (p : Response) (r : Registry) :
    outcome (throw p : Answering α) r = (.error p, r) := rfl

theorem outcome_bind_ok {x : Answering α} {a : α} {r r' : Registry}
    (h : outcome x r = (.ok a, r')) (k : α → Answering β) :
    outcome (x >>= k) r = outcome (k a) r' := by
  unfold outcome at h ⊢
  rw [ExceptT.run_bind, Flow.run_bind, h]

theorem outcome_bind_error {x : Answering α} {p : Response} {r r' : Registry}
    (h : outcome x r = (.error p, r')) (k : α → Answering β) :
    outcome (x >>= k) r = (.error p, r') := by
  unfold outcome at h ⊢
  rw [ExceptT.run_bind, Flow.run_bind, h]
  rfl

theorem outcome_answering (w : Work α) (r : Registry) :
    outcome (answering w) r = ((w.perform r).1.mapError Response.ofError, (w.perform r).2) := by
  have adapted : ExceptT.run (answering w) =
      ExceptT.run w >>= fun result => pure (result.mapError Response.ofError) := rfl
  rw [outcome, adapted, Flow.run_bind]
  rfl

theorem outcome_answering_ok {w : Work α} {a : α} {r r' : Registry}
    (h : w.perform r = (.ok a, r')) : outcome (answering w) r = (.ok a, r') := by
  rw [outcome_answering, h]
  rfl

theorem outcome_answering_error {w : Work α} {e : Error} {r r' : Registry}
    (h : w.perform r = (.error e, r')) :
    outcome (answering w) r = (.error (.ofError e), r') := by
  rw [outcome_answering, h]
  rfl

/-- Answering leaves the registry as it is. -/
def Looks (x : Answering α) : Prop := ∀ r, (outcome x r).2 = r

theorem looks_pure (a : α) : Looks (pure a : Answering α) := fun _ => rfl

theorem looks_throw (p : Response) : Looks (throw p : Answering α) := fun _ => rfl

theorem Looks.bind {x : Answering α} {k : α → Answering β} (h : Looks x) (rest : ∀ a, Looks (k a)) :
    Looks (x >>= k) := by
  intro r
  have first := h r
  rcases found : outcome x r with ⟨p | a, r'⟩
  all_goals rw [found] at first
  all_goals dsimp only at first
  all_goals subst first
  · rw [outcome_bind_error found]
  · rw [outcome_bind_ok found]
    exact rest a r'

theorem looks_answering {w : Work α} (h : ∀ r, (w.perform r).2 = r) : Looks (answering w) := by
  intro r
  rw [outcome_answering]
  exact h r

/-- The form in the body, if it can be read. -/
def form? (limit : Option Nat) (q : Request) (read? : List (String × String) → Option α) :
    Option α :=
  if isForm q then (body? limit q).bind fun body => read? (Http.Form.fields body) else none

theorem outcome_formOf (limit : Option Nat) (q : Request)
    (read? : List (String × String) → Option α) (r : Registry) :
    (∃ p, ¬p.Succeeds ∧ outcome (formOf limit q read?) r = (.error p, r)) ∨
      ∃ a, form? limit q read? = some a ∧ outcome (formOf limit q read?) r = (.ok a, r) := by
  unfold formOf form?
  cases isForm q with
  | false => exact .inl ⟨noForm, by simp [Response.Succeeds, noForm, Response.ofText], rfl⟩
  | true =>
    cases body? limit q with
    | none =>
      exact .inl ⟨bodyTooLong, by simp [Response.Succeeds, bodyTooLong, Response.ofText], rfl⟩
    | some body =>
      cases found : read? (Http.Form.fields body) with
      | none =>
        refine .inl ⟨.ofText 422 "Failed to deserialize form body", ?_, ?_⟩
        · simp [Response.Succeeds, Response.ofText]
        · simp [found]
      | some a => exact .inr ⟨a, by simp [found], by simp [found]⟩

theorem outcome_updateOf (limit : Option Nat) (q : Request) (r : Registry) :
    (∃ p, ¬p.Succeeds ∧ outcome (updateOf limit q) r = (.error p, r)) ∨
      ∃ form, outcome (updateOf limit q) r = (.ok form, r) := by
  rw [updateOf]
  cases (q.header? "content-type").bind Http.Multipart.boundary? with
  | none => exact .inl ⟨noBoundary, by simp [Response.Succeeds, noBoundary, Response.ofText], rfl⟩
  | some boundary =>
    dsimp only
    cases (body? limit q).bind (Http.Multipart.parts? boundary) with
    | none => exact .inl ⟨_, Response.not_succeeds_ofError _, rfl⟩
    | some parts => exact .inr ⟨_, rfl⟩

theorem looks_segment (name : String) (cs : List Char) : Looks (segment name cs) := by
  rw [segment]
  split
  · exact looks_pure _
  · exact looks_throw _

theorem looks_queryName (q : Request) : Looks (queryName q) := by
  rw [queryName]
  split
  · exact looks_pure _
  · exact looks_throw _

/-- The request shows a session of the account. -/
def Recognizes (s : Scene) (q : Request) (t : AccountTable) (a : Account) : Prop :=
  ∃ token, q.sessionToken? = some token ∧
    t.resolve s.service.enforcesExpiry s.now token = .ok (some a)

theorem Recognizes.unique {s : Scene} {q : Request} {t : AccountTable} {a b : Account}
    (h : Recognizes s q t a) (h' : Recognizes s q t b) : a = b := by
  obtain ⟨token, shown, resolved⟩ := h
  obtain ⟨token', shown', resolved'⟩ := h'
  obtain rfl : token = token' := Option.some.inj (shown.symm.trans shown')
  exact Option.some.inj (Except.ok.inj (resolved.symm.trans resolved'))

/-- Whoever shows a token is taken for the account that it belongs to. -/
theorem perform_authenticate_of_token {q : Request} {token : String}
    (shown : q.sessionToken? = some token) (s : Scene) (r : Registry) :
    (authenticate s q).perform r =
      ((r.accounts.resolve s.service.enforcesExpiry s.now token).bind fun found =>
        found.elim (.error (.authentication "Session expired, log in again.")) .ok, r) := by
  have looked : (s.resolve token).perform r =
      (r.accounts.resolve s.service.enforcesExpiry s.now token, r) := rfl
  rw [authenticate, shown]
  dsimp only
  rcases resolved : r.accounts.resolve s.service.enforcesExpiry s.now token with e | _ | a
  all_goals rw [resolved] at looked
  · exact Work.perform_bind_error looked _
  · exact Work.perform_bind_ok looked _
  · exact Work.perform_bind_ok looked _

theorem perform_authenticate (s : Scene) (q : Request) (r : Registry) :
    (∃ a, Recognizes s q r.accounts a ∧ (authenticate s q).perform r = (.ok a, r)) ∨
      (∀ a, ¬Recognizes s q r.accounts a) ∧
        ∃ e, (authenticate s q).perform r = (.error e, r) := by
  cases shown : q.sessionToken? with
  | none =>
    refine .inr ⟨?_, .authentication "Not logged in.", by rw [authenticate, shown]; rfl⟩
    rintro a ⟨token, given, -⟩
    rw [shown] at given
    cases given
  | some token =>
    have only : ∀ {found}, r.accounts.resolve s.service.enforcesExpiry s.now token = found →
        (∀ a, found ≠ .ok (some a)) → ∀ a, ¬Recognizes s q r.accounts a := by
      rintro _ rfl none a ⟨token', given, resolved⟩
      obtain rfl : token = token' := Option.some.inj (shown.symm.trans given)
      exact none a resolved
    have performed := perform_authenticate_of_token shown s r
    rcases resolved : r.accounts.resolve s.service.enforcesExpiry s.now token with e | _ | a
    all_goals rw [resolved] at performed
    · exact .inr ⟨only resolved (by simp), e, performed⟩
    · exact .inr ⟨only resolved (by simp), _, performed⟩
    · exact .inl ⟨a, ⟨token, shown, resolved⟩, performed⟩

theorem looks_texturePage (s : Scene) (kind file : String) :
    ∀ r, ((texturePage s kind file).perform r).2 = r := by
  intro r
  rw [texturePage]
  cases Texture.Kind.ofName? kind with
  | none => rfl
  | some k =>
    cases hashOfFile? file with
    | none => rfl
    | some hash =>
      have found : ∃ result, (Texture.find s k hash).perform r = (result, r) := by
        rw [Texture.find, Work.perform_onTextures]
        split
        · exact ⟨_, rfl⟩
        · exact ⟨_, rfl⟩
      obtain ⟨e | png, found⟩ := found
      · exact congrArg Prod.snd (Work.perform_bind_error found _)
      · refine (congrArg Prod.snd (Work.perform_bind_ok found _)).trans ?_
        cases png <;> rfl

theorem looks_challengePage (s : Scene) (username : String) :
    ∀ r, ((challengePage s username).perform r).2 = r := by
  intro r
  rw [challengePage]
  cases checked : Field.checkUsername username <;> rfl

theorem looks_migrationPage (s : Scene) (username : String) :
    ∀ r, ((migrationPage s username).perform r).2 = r := by
  intro r
  rw [migrationPage]
  cases Field.checkUsername username with
  | error e => rfl
  | ok _ => cases s.service.policy.migration <;> rfl

theorem looks_authenticate (s : Scene) (q : Request) :
    ∀ r, ((authenticate s q).perform r).2 = r := by
  intro r
  rcases perform_authenticate s q r with ⟨a, -, done⟩ | ⟨-, e, done⟩ <;> rw [done]

/-- What is not a matter of changing something changes nothing. -/
theorem looks_visit (limit : Option Nat) (s : Scene) (q : Request) {route : Route}
    (reads : route.isPost = false) : Looks (visit limit s q route) := by
  cases route with
  | health => exact looks_pure _
  | profile => exact (looks_answering (looks_authenticate s q)).bind fun _ => looks_pure _
  | texture kind file =>
    exact (looks_segment _ _).bind fun kind => (looks_segment _ _).bind fun file =>
      looks_answering (looks_texturePage s kind file)
  | challengeSkin =>
    exact (looks_queryName q).bind fun name => looks_answering (looks_challengePage s name)
  | migration =>
    exact (looks_queryName q).bind fun name => looks_answering (looks_migrationPage s name)
  | _ => cases reads

/-- The outcome of work as a response, and the registry that it leaves. -/
def finish (page : α → Response) (done : Result α × Registry) :
    Except Response Response × Registry :=
  ((done.1.mapError Response.ofError).map page, done.2)

/-- What may be done at a route: nothing, because only a look was asked for or the request could not
be read or shows no session; or an operation, whose outcome is answered. -/
inductive Visits (limit : Option Nat) (s : Scene) (q : Request) (r : Registry) :
    Route → Except Response Response × Registry → Prop where
  | looked {route result} : route.isPost = false → route ≠ .profile →
      Visits limit s q r route (result, r)
  | turnedAway {route p} : ¬p.Succeeds → Visits limit s q r route (.error p, r)
  | profile {a} : Recognizes s q r.accounts a →
      Visits limit s q r .profile (.ok (profilePage s 200 a), r)
  | register {form} : form? limit q RegisterRequest.ofForm? = some form →
      Visits limit s q r .register (finish (signedIn s 201) ((s.register form).perform r))
  | login {form} : form? limit q LoginRequest.ofForm? = some form →
      Visits limit s q r .login (finish (signedIn s 200) ((s.login form).perform r))
  | logout {a} : Recognizes s q r.accounts a →
      Visits limit s q r .logout (finish (fun _ => signedOut) ((Scene.logout a).perform r))
  | update {a form} : Recognizes s q r.accounts a →
      Visits limit s q r .update (finish (profilePage s 200) ((s.updateProfile a form).perform r))
  | deleteAccount {a} : Recognizes s q r.accounts a →
      Visits limit s q r .deleteAccount
        (finish (fun _ => signedOut) ((s.deleteAccount a).perform r))

@[simp]
theorem finish_ok (page : α → Response) (a : α) (r : Registry) :
    finish page (.ok a, r) = (.ok (page a), r) := rfl

@[simp]
theorem finish_error (page : α → Response) (e : Error) (r : Registry) :
    finish page (.error e, r) = (.error (.ofError e), r) := rfl

theorem outcome_finish (w : Work α) (page : α → Response) (r : Registry) :
    outcome (answering w >>= fun a => pure (page a)) r = finish page (w.perform r) := by
  rcases done : w.perform r with ⟨e | a, r'⟩
  · exact outcome_bind_error (outcome_answering_error done) _
  · exact outcome_bind_ok (outcome_answering_ok done) _

/-- Without a session a request is turned away; with one, what follows is done for its account. -/
theorem outcome_authenticate {limit : Option Nat} {s : Scene} {q : Request} {r : Registry}
    {route : Route} {k : Account → Answering Response}
    (rest : ∀ a, Recognizes s q r.accounts a → Visits limit s q r route (outcome (k a) r)) :
    Visits limit s q r route (outcome (answering (authenticate s q) >>= k) r) := by
  rcases perform_authenticate s q r with ⟨a, recognized, done⟩ | ⟨-, e, failed⟩
  · rw [outcome_bind_ok (outcome_answering_ok done)]
    exact rest a recognized
  · rw [outcome_bind_error (outcome_answering_error failed)]
    exact .turnedAway (Response.not_succeeds_ofError e)

/-- A form that cannot be read is turned away; one that can is worked on. -/
theorem outcome_form {limit : Option Nat} {s : Scene} {q : Request} {r : Registry} {route : Route}
    {read? : List (String × String) → Option α} {k : α → Answering Response}
    (rest : ∀ form, form? limit q read? = some form →
      Visits limit s q r route (outcome (k form) r)) :
    Visits limit s q r route (outcome (formOf limit q read? >>= k) r) := by
  rcases outcome_formOf limit q read? r with ⟨p, fails, failed⟩ | ⟨form, found, read⟩
  · rw [outcome_bind_error failed]
    exact .turnedAway fails
  · rw [outcome_bind_ok read]
    exact rest form found

theorem visits_visit (limit : Option Nat) (s : Scene) (q : Request) (route : Route)
    (r : Registry) : Visits limit s q r route (outcome (visit limit s q route) r) := by
  have looks : ∀ {route}, route.isPost = false → route ≠ .profile →
      Visits limit s q r route (outcome (visit limit s q route) r) := by
    intro route reads other
    have same := looks_visit limit s q reads r
    rw [← Prod.eta (outcome (visit limit s q route) r), same]
    exact .looked reads other
  cases route with
  | register =>
    apply outcome_form
    intro form read
    rw [outcome_finish]
    exact .register read
  | login =>
    apply outcome_form
    intro form read
    rw [outcome_finish]
    exact .login read
  | logout =>
    apply outcome_authenticate
    intro a recognized
    rw [outcome_finish]
    exact .logout recognized
  | update =>
    apply outcome_authenticate
    intro a recognized
    rcases outcome_updateOf limit q r with ⟨p, fails, failed⟩ | ⟨form, read⟩
    · rw [outcome_bind_error failed]
      exact .turnedAway fails
    · rw [outcome_bind_ok read, outcome_finish]
      exact .update recognized
  | deleteAccount =>
    apply outcome_authenticate
    intro a recognized
    rw [outcome_finish (s.deleteAccount a) fun _ => signedOut]
    exact .deleteAccount recognized
  | profile =>
    apply outcome_authenticate
    intro a recognized
    exact .profile recognized
  | _ => exact looks rfl (by simp)

/-- What is sent, whether the work went to its end or not. -/
def answered : Except Response Response → Response
  | .ok p => p
  | .error p => p

@[simp]
theorem status_asSent (q : Request) (p : Response) : (asSent q p).status = p.status := by
  unfold asSent
  cases (Route.ofPath? q.path).map Route.methods with
  | none =>
    dsimp only
    split <;> rfl
  | some methods =>
    dsimp only
    split <;> split <;> rfl

theorem succeeds_asSent (q : Request) (p : Response) :
    (asSent q p).Succeeds ↔ p.Succeeds := by
  rw [Response.Succeeds, status_asSent, Response.Succeeds]

theorem run_passLimiter (s : Scene) (q : Request) (site : Site) :
    ∃ admitted limiter, (passLimiter s q).run site = (admitted, { site with limiter }) := by
  obtain ⟨registry, _ | l⟩ := site
  · exact ⟨true, none, rfl⟩
  · rcases checked : l.check s.now.nanos.toNat (clientOf q) with ⟨admitted, l'⟩
    exact ⟨admitted, some l', by simp [passLimiter, Flow.act, Flow.run, checked]⟩

theorem run_onRegistry (f : Flow Registry α) (site : Site) :
    (f.onPart (fun site : Site => site.registry) fun r site => { site with registry := r }).run
      site = ((f.run site.registry).1, { site with registry := (f.run site.registry).2 }) := by
  apply Flow.run_onPart
  · exact fun _ _ => rfl
  · exact fun _ _ _ => rfl
  · exact fun _ => rfl

/-- A request that comes too often leaves the registry as it is. -/
theorem run_respond_refused (limit : Option Nat) {s : Scene} {q : Request} {site : Site}
    (refused : ((passLimiter s q).run site).1 = false) :
    ∃ limiter, (respond limit s q).run site =
      (asSent q (.ofError .rateLimited), { site with limiter }) := by
  obtain ⟨admitted, limiter, passed⟩ := run_passLimiter s q site
  rw [passed] at refused
  dsimp only at refused
  subst refused
  refine ⟨limiter, ?_⟩
  rw [respond, Flow.run_bind, passed]
  rfl

theorem run_respond_admitted {limit : Option Nat} {s : Scene} {q : Request} {site : Site}
    (admitted : ((passLimiter s q).run site).1 = true) {p : Response} {r : Registry}
    (done : (respondAdmitted limit s q).run site.registry = (p, r)) :
    ∃ limiter, (respond limit s q).run site = (asSent q p, ⟨r, limiter⟩) := by
  obtain ⟨admits, limiter, passed⟩ := run_passLimiter s q site
  rw [passed] at admitted
  dsimp only at admitted
  subst admitted
  refine ⟨limiter, ?_⟩
  rw [respond, Flow.run_bind, passed]
  simp only [if_true]
  rw [Flow.run_bind, run_onRegistry, done]
  rfl

theorem run_respondAt {limit : Option Nat} {s : Scene} {q : Request} {route : Route}
    (method : q.method ∈ route.methods) {r r' : Registry} {result : Except Response Response}
    (done : outcome (visit limit s q route) r = (result, r')) :
    (respondAt limit s q route).run r = (answered result, r') := by
  have taken : (!route.methods.contains q.method) = false := by simpa using method
  rw [respondAt]
  simp only [taken, Bool.false_eq_true, if_false]
  unfold outcome at done
  rw [Flow.run_bind, done]
  cases result <;> rfl

/-- What comes of a request: it is turned away, and nothing has happened; or it is for a route and
by a method of the route, and what is done there is answered. -/
theorem respond_cases {limit : Option Nat} {s : Scene} {q : Request} {site site' : Site}
    {p : Response} (served : (respond limit s q).run site = (p, site')) :
    (site'.registry = site.registry ∧ ¬p.Succeeds) ∨
      ∃ route visited, Route.ofPath? q.path = some route ∧ q.method ∈ route.methods ∧
        Visits limit s q site.registry route visited ∧ site'.registry = visited.2 ∧
        p = asSent q (answered visited.1) := by
  have away : ∀ (p' r), (respondAdmitted limit s q).run site.registry = (p', r) →
      r = site.registry → ¬p'.Succeeds → ((passLimiter s q).run site).1 = true →
      site'.registry = site.registry ∧ ¬p.Succeeds := by
    intro p' r done same fails admitted
    obtain ⟨limiter, sent⟩ := run_respond_admitted admitted done
    rw [served, Prod.mk.injEq] at sent
    rw [sent.1, sent.2, succeeds_asSent]
    exact ⟨same, fails⟩
  by_cases admitted : ((passLimiter s q).run site).1 = true
  · by_cases long : isTooLong limit q = true
    · refine .inl (away (.ofText 413 "length limit exceeded") _ ?_ rfl ?_ admitted)
      · rw [respondAdmitted, if_pos long]
        rfl
      · simp [Response.Succeeds, Response.ofText]
    · cases known : Route.ofPath? q.path with
      | none =>
        refine .inl (away noRoute _ ?_ rfl ?_ admitted)
        · simp only [respondAdmitted, long, known, if_false, Bool.false_eq_true, Flow.run_pure]
        · simp [Response.Succeeds, noRoute, Response.ofJson]
      | some route =>
        by_cases method : q.method ∈ route.methods
        · rcases done : outcome (visit limit s q route) site.registry with ⟨result, r⟩
          have visited : (respondAdmitted limit s q).run site.registry = (answered result, r) := by
            simp only [respondAdmitted, long, known, if_false, Bool.false_eq_true]
            exact run_respondAt method done
          obtain ⟨limiter, sent⟩ := run_respond_admitted admitted visited
          rw [served, Prod.mk.injEq] at sent
          have visits := visits_visit limit s q route site.registry
          rw [done] at visits
          exact .inr ⟨route, (result, r), rfl, method, visits, by rw [sent.2], sent.1⟩
        · refine .inl (away (.empty 405) _ ?_ rfl ?_ admitted)
          · simp only [respondAdmitted, long, known, if_false, Bool.false_eq_true, respondAt,
              List.contains_eq_mem, method, decide_false, Bool.not_false, if_true]
            rfl
          · simp [Response.Succeeds, Response.empty]
  · rw [Bool.not_eq_true] at admitted
    obtain ⟨limiter, sent⟩ := run_respond_refused limit admitted
    rw [served, Prod.mk.injEq] at sent
    rw [sent.1, sent.2, succeeds_asSent]
    exact .inl ⟨rfl, Response.not_succeeds_ofError _⟩

end Site

end PlayerRegistry
