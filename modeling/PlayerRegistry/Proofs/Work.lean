import PlayerRegistry.Proofs.Flow
import PlayerRegistry.Registry

/-!
# Laws of work

Work is a flow that ends at its first error. `perform` is computed step by step; `Within` says which
steps work consists of and what its results are like, wherever other work comes in between.
-/

namespace PlayerRegistry

section
variable {ε α β : Type}

theorem ok_of_bind {x : Except ε α} {k : α → Except ε β} {b : β} (h : (x >>= k) = .ok b) :
    ∃ a, x = .ok a ∧ k a = .ok b := by
  cases x with
  | error e => cases h
  | ok a => exact ⟨a, rfl, h⟩

theorem error_of_bind {x : Except ε α} {k : α → Except ε β} {e : ε} (h : (x >>= k) = .error e) :
    x = .error e ∨ ∃ a, x = .ok a ∧ k a = .error e := by
  cases x with
  | error e' =>
    cases h
    exact .inl rfl
  | ok a => exact .inr ⟨a, rfl, h⟩

theorem ok_of_toOption {x : Except ε α} {a : α} (h : x.toOption = some a) : x = .ok a := by
  cases x with
  | error e => cases h
  | ok b => exact congrArg Except.ok (Option.some.inj h)

/-- What goes on unless there is a fault has gone on. -/
theorem ok_of_guard {c : Prop} [Decidable c] {e : ε} {k : PUnit → Except ε β} {b : β}
    (h : (if c then Except.error e >>= k else k ()) = .ok b) : ¬c ∧ k () = .ok b := by
  by_cases hc : c
  · rw [if_pos hc] at h
    cases h
  · rw [if_neg hc] at h
    exact ⟨hc, h⟩

end

namespace Work

variable {α β : Type}

@[simp]
theorem perform_pure (a : α) (r : Registry) : perform (pure a) r = (.ok a, r) := rfl

@[simp]
theorem perform_throw (e : Error) (r : Registry) :
    perform (throw e : Work α) r = (.error e, r) := rfl

@[simp]
theorem perform_ofResult (result : Result α) (r : Registry) :
    perform (ofResult result) r = (result, r) := rfl

theorem perform_bind (w : Work α) (k : α → Work β) (r : Registry) :
    perform (w >>= k) r =
      match perform w r with
      | (.ok a, r') => perform (k a) r'
      | (.error e, r') => (.error e, r') := by
  unfold perform
  rw [ExceptT.run_bind, Flow.run_bind]
  rcases Flow.run (ExceptT.run w) r with ⟨a | e, r'⟩
  · rfl
  · rfl

theorem perform_bind_ok {w : Work α} {a : α} {r r' : Registry} (h : perform w r = (.ok a, r'))
    (k : α → Work β) : perform (w >>= k) r = perform (k a) r' := by
  rw [perform_bind, h]

theorem perform_bind_error {w : Work α} {e : Error} {r r' : Registry}
    (h : perform w r = (.error e, r')) (k : α → Work β) :
    perform (w >>= k) r = (.error e, r') := by
  rw [perform_bind, h]

theorem perform_bind_eq_ok {w : Work α} {k : α → Work β} {b : β} {r r' : Registry} :
    perform (w >>= k) r = (.ok b, r') ↔
      ∃ a r₁, perform w r = (.ok a, r₁) ∧ perform (k a) r₁ = (.ok b, r') := by
  rw [perform_bind]
  rcases perform w r with ⟨e | a, r₁⟩
  · simp
  · simp [and_assoc]

theorem perform_ended (w : Work α) (r : Registry) :
    (perform (do let _ ← w : Work Unit) r).2 = (perform w r).2 := by
  rw [perform_bind]
  rcases perform w r with ⟨e | a, r'⟩
  · rfl
  · rfl

theorem perform_require (holds : Bool) (e : Error) (r : Registry) :
    perform (require holds e) r = (if holds then .ok () else .error e, r) := by
  rw [require]
  cases holds with
  | true => rfl
  | false => rfl

@[simp]
theorem perform_onAccounts (f : AccountTable → Result α × AccountTable) (r : Registry) :
    perform (onAccounts f) r = ((f r.accounts).1, { r with accounts := (f r.accounts).2 }) := rfl

@[simp]
theorem perform_seeAccounts (f : AccountTable → Result α) (r : Registry) :
    perform (seeAccounts f) r = (f r.accounts, r) := rfl

@[simp]
theorem perform_draw (r : Registry) :
    perform draw r = (.ok r.draws, { r with draws := r.draws + 1 }) := rfl

@[simp]
theorem perform_call (c : Web.Call α) (r : Registry) :
    perform (call c) r = (c.result, { r with sent := r.sent ++ c.sent }) := rfl

theorem perform_onTextures (s : Scene) (access : Texture.Access) (kind : Texture.Kind)
    (f : Texture.Store → Result α × Texture.Store) (r : Registry) :
    perform (onTextures s access kind f) r =
      if s.refuses access kind then (.error (refused access kind), r)
      else ((f r.textures).1, { r with textures := (f r.textures).2 }) := by
  rw [perform, onTextures]
  change ((Flow.act _).run r) = _
  by_cases h : s.refuses access kind = true
  · simp [Flow.act, Flow.run, h]
  · simp [Flow.act, Flow.run, h]

/-- An error as `conflictAs` gives it. -/
def reworded (text : String) : Error → Error
  | .conflict _ => .conflict text
  | e => e

theorem run_conflictAs (text : String) (w : Work α) :
    ExceptT.run (conflictAs text w) =
      ExceptT.run w >>= fun result => pure (result.mapError (reworded text)) := rfl

theorem perform_conflictAs (text : String) (w : Work α) (r : Registry) :
    perform (conflictAs text w) r =
      ((perform w r).1.mapError (reworded text), (perform w r).2) := by
  rw [perform]
  rw [run_conflictAs, Flow.run_bind]
  rfl

theorem perform_conflictAs_eq_ok {text : String} {w : Work α} {a : α} {r r' : Registry} :
    perform (conflictAs text w) r = (.ok a, r') ↔ perform w r = (.ok a, r') := by
  rw [perform_conflictAs]
  rcases perform w r with ⟨e | a, r₁⟩
  · refine iff_of_false ?_ (by simp)
    intro h
    cases h
  · exact Iff.rfl

theorem run_tryCatch (w : Work α) (handle : Error → Work α) :
    ExceptT.run (tryCatch w handle) =
      ExceptT.run w >>= fun result =>
        match result with
        | .ok a => pure (.ok a)
        | .error e => ExceptT.run (handle e) := by
  refine congrArg (ExceptT.run w >>= ·) (funext fun result => ?_)
  cases result with
  | ok a => rfl
  | error e => rfl

theorem perform_tryCatch_ok {w : Work α} {a : α} {r r' : Registry}
    (h : perform w r = (.ok a, r')) (handle : Error → Work α) :
    perform (tryCatch w handle) r = (.ok a, r') := by
  rw [perform] at h ⊢
  rw [run_tryCatch, Flow.run_bind, h]
  rfl

theorem perform_tryCatch_error {w : Work α} {e : Error} {r r' : Registry}
    (h : perform w r = (.error e, r')) (handle : Error → Work α) :
    perform (tryCatch w handle) r = perform (handle e) r' := by
  rw [perform] at h ⊢
  rw [run_tryCatch, Flow.run_bind, h]
  rfl

/-- The work asks other servers, if anything, and gives this result whatever is stored. -/
def Asks (w : Work α) (result : Result α) : Prop :=
  ∀ r, ∃ sent, perform w r = (result, { r with sent })

theorem asks_pure (a : α) : Asks (pure a : Work α) (.ok a) := fun r => ⟨r.sent, rfl⟩

theorem asks_throw (e : Error) : Asks (throw e : Work α) (.error e) := fun r => ⟨r.sent, rfl⟩

theorem asks_call (c : Web.Call α) : Asks (call c) c.result := fun r => ⟨r.sent ++ c.sent, rfl⟩

theorem asks_require (holds : Bool) (e : Error) :
    Asks (require holds e) (if holds then .ok () else .error e) :=
  fun r => ⟨r.sent, perform_require holds e r⟩

theorem Asks.bind_ok {w : Work α} {a : α} (h : Asks w (.ok a)) {k : α → Work β} {result : Result β}
    (rest : Asks (k a) result) : Asks (w >>= k) result := by
  intro r
  obtain ⟨sent, first⟩ := h r
  obtain ⟨sent', last⟩ := rest { r with sent }
  exact ⟨sent', (perform_bind_ok first k).trans last⟩

theorem Asks.bind_error {w : Work α} {e : Error} (h : Asks w (.error e)) (k : α → Work β) :
    Asks (w >>= k) (.error e) := by
  intro r
  obtain ⟨sent, first⟩ := h r
  exact ⟨sent, perform_bind_error first k⟩

/-- The step leaves the account table alone. -/
def Quiet (update : Registry → Registry) : Prop := ∀ r, (update r).accounts = r.accounts

/-- Each step of the work is one of `P`, and what it gives if it ends well is one of `Q`. -/
def Within (P : (Registry → Registry) → Prop) (Q : α → Prop) (w : Work α) : Prop :=
  (ExceptT.run w).Within P fun result => ∀ a, result = .ok a → Q a

section
variable {P : (Registry → Registry) → Prop} {Q : α → Prop} {R : β → Prop}

theorem Within.mono {P' : (Registry → Registry) → Prop} {Q' : α → Prop} {w : Work α}
    (h : Within P Q w) (steps : ∀ u, P u → P' u) (results : ∀ a, Q a → Q' a) :
    Within P' Q' w :=
  Flow.Within.mono h steps fun _ hr a ha => results a (hr a ha)

theorem within_ofResult {result : Result α} (h : ∀ a, result = .ok a → Q a) :
    Within P Q (ofResult result) := h

theorem within_pure {a : α} (h : Q a) : Within P Q (pure a : Work α) := by
  intro b hb
  cases hb
  exact h

theorem within_throw (e : Error) : Within P Q (throw e : Work α) := by
  intro a ha
  cases ha

/-- What holds of the results wherever other work comes in between holds if none does. -/
theorem Within.perform {w : Work α} (h : Within P Q w) {a : α} {r r' : Registry}
    (done : perform w r = (.ok a, r')) : Q a := by
  have result := (Flow.Within.run h (R := fun _ _ => True) (fun _ => trivial)
    (fun _ _ _ _ _ => trivial) (fun _ _ _ => trivial) r).1
  exact result a (congrArg Prod.fst done)

theorem Within.bind {w : Work α} {k : α → Work β} (h : Within P Q w)
    (rest : ∀ a, Q a → Within P R (k a)) : Within P R (w >>= k) := by
  rw [Within]
  rw [ExceptT.run_bind]
  apply Flow.Within.bind h
  intro result hr
  cases result with
  | ok a => exact rest a (hr a rfl)
  | error e => exact within_throw e

/-- Work that fails ends there; what else remains is up to the rest. -/
theorem Within.until_bind {ends : Flow Registry (Result β) → Prop} {w : Work α} {k : α → Work β}
    (h : Within P Q w) (failed : ∀ e, ends (.done (.error e)))
    (rest : ∀ a, Q a → Flow.Until P ends (ExceptT.run (k a))) :
    Flow.Until P ends (ExceptT.run (w >>= k)) := by
  rw [ExceptT.run_bind]
  apply Flow.Within.until_bind h
  intro result hr
  cases result with
  | ok a => exact rest a (hr a rfl)
  | error e => exact .now (failed e)

theorem within_require {holds : Bool} {e : Error} :
    Within P (fun _ => holds = true) (require holds e) := by
  rw [require]
  cases holds with
  | true => exact within_pure rfl
  | false => exact within_throw e

theorem within_onAccounts {f : AccountTable → Result α × AccountTable}
    (step : P fun r => { r with accounts := (f r.accounts).2 })
    (result : ∀ t a, (f t).1 = .ok a → Q a) : Within P Q (onAccounts f) :=
  ⟨step, fun r => result r.accounts⟩

theorem within_seeAccounts (quiet : ∀ u, Quiet u → P u) {f : AccountTable → Result α}
    (result : ∀ t a, f t = .ok a → Q a) : Within P Q (seeAccounts f) :=
  ⟨quiet _ fun _ => rfl, fun r => result r.accounts⟩

theorem within_draw (quiet : ∀ u, Quiet u → P u) : Within P (fun _ => True) draw :=
  ⟨quiet _ fun _ => rfl, fun _ _ _ => trivial⟩

theorem within_call (quiet : ∀ u, Quiet u → P u) (c : Web.Call α) :
    Within P (fun a => c.result = .ok a) (call c) :=
  ⟨quiet _ fun _ => rfl, fun _ _ h => h⟩

theorem within_onTextures (quiet : ∀ u, Quiet u → P u) (s : Scene) (access : Texture.Access)
    (kind : Texture.Kind) {f : Texture.Store → Result α × Texture.Store} :
    Within P (fun _ => True) (onTextures s access kind f) := by
  refine ⟨quiet _ ?_, fun _ _ _ => trivial⟩
  intro r
  by_cases h : s.refuses access kind = true
  · simp only [h, if_true]
  · simp only [h, if_false, Bool.false_eq_true]

theorem Within.conflictAs {w : Work α} (h : Within P Q w) (text : String) :
    Within P Q (conflictAs text w) := by
  rw [Within]
  rw [run_conflictAs]
  apply Flow.Within.bind h
  intro result hr
  cases result with
  | ok a => exact within_pure (hr a rfl)
  | error e => exact within_throw _

theorem Within.tryCatch {w : Work α} {handle : Error → Work α} (h : Within P Q w)
    (rest : ∀ e, Within P Q (handle e)) : Within P Q (tryCatch w handle) := by
  rw [Within]
  rw [run_tryCatch]
  apply Flow.Within.bind h
  intro result hr
  cases result with
  | ok a => exact within_pure (hr a rfl)
  | error e => exact rest e

end

/-- The work does not succeed if every state in which it takes a step is one of `C`. -/
def FailsWhile (C : Registry → Prop) (w : Work α) : Prop :=
  (ExceptT.run w).Under C fun result => ∃ e, result = .error e

section
variable {C : Registry → Prop} {P : (Registry → Registry) → Prop} {Q : α → Prop}

theorem Within.bind_fails {w : Work α} {k : α → Work β} (h : Within P Q w)
    (rest : ∀ a, Q a → FailsWhile C (k a)) : FailsWhile C (w >>= k) := by
  rw [FailsWhile]
  rw [ExceptT.run_bind]
  apply (Flow.Within.under h C).bind
  intro result hr
  cases result with
  | ok a => exact rest a (hr a rfl)
  | error e => exact ⟨e, rfl⟩

theorem FailsWhile.bind {w : Work α} (h : FailsWhile C w) (k : α → Work β) :
    FailsWhile C (w >>= k) := by
  rw [FailsWhile]
  rw [ExceptT.run_bind]
  apply Flow.Under.bind h
  rintro _ ⟨e, rfl⟩
  exact ⟨e, rfl⟩

theorem failsWhile_onAccounts {f : AccountTable → Result α × AccountTable}
    (h : ∀ r, C r → ∃ e, (f r.accounts).1 = .error e) : FailsWhile C (onAccounts f) := h

theorem FailsWhile.conflictAs {w : Work α} (h : FailsWhile C w) (text : String) :
    FailsWhile C (conflictAs text w) := by
  rw [FailsWhile]
  rw [run_conflictAs]
  apply Flow.Under.bind h
  rintro _ ⟨e, rfl⟩
  exact ⟨_, rfl⟩

theorem FailsWhile.perform {w : Work α} (h : FailsWhile C w) (steps : Within P Q w)
    (keeps : ∀ u, P u → ∀ r, C r → C (u r)) {r : Registry} (now : C r) :
    ∃ e, (perform w r).1 = .error e :=
  Flow.Under.run h steps keeps now

end

end Work

end PlayerRegistry
