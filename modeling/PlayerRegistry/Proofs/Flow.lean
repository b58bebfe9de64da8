import PlayerRegistry.Flow

/-!
# Laws of flows

A flow that runs alone, and a flow among others. `Within` speaks of every step that a flow may take,
whatever the other flows do in between, so it holds in every interleaving.
-/

namespace PlayerRegistry.Flow

variable {σ α β : Type}

@[simp]
theorem run_pure (a : α) (s : σ) : (pure a : Flow σ α).run s = (a, s) := rfl

theorem run_bind (f : Flow σ α) (k : α → Flow σ β) (s : σ) :
    (f >>= k).run s = (k (f.run s).1).run (f.run s).2 := by
  induction f generalizing s with
  | done a => rfl
  | step update next ih => exact ih s (update s)

/-- In whatever states the flow takes its steps, each is one of `P`, and its result one of `Q`. -/
def Within (P : (σ → σ) → Prop) (Q : α → Prop) : Flow σ α → Prop
  | done a => Q a
  | step update next => P update ∧ ∀ s, (next s).Within P Q

theorem Within.mono {P P' : (σ → σ) → Prop} {Q Q' : α → Prop} {f : Flow σ α}
    (h : f.Within P Q) (steps : ∀ u, P u → P' u) (results : ∀ a, Q a → Q' a) :
    f.Within P' Q' := by
  induction f with
  | done a => exact results a h
  | step update next ih => exact ⟨steps _ h.1, fun s => ih s (h.2 s)⟩

theorem Within.and {P P' : (σ → σ) → Prop} {Q Q' : α → Prop} {f : Flow σ α} (h : f.Within P Q)
    (h' : f.Within P' Q') : f.Within (fun u => P u ∧ P' u) fun a => Q a ∧ Q' a := by
  induction f with
  | done a => exact ⟨h, h'⟩
  | step update next ih => exact ⟨⟨h.1, h'.1⟩, fun s => ih s (h.2 s) (h'.2 s)⟩

theorem Within.bind {P : (σ → σ) → Prop} {Q : α → Prop} {R : β → Prop} {f : Flow σ α}
    {k : α → Flow σ β} (h : f.Within P Q) (rest : ∀ a, Q a → (k a).Within P R) :
    (f >>= k).Within P R := by
  induction f with
  | done a => exact rest a h
  | step update next ih => exact ⟨h.1, fun s => ih s (h.2 s)⟩

/-- What one step of a flow does to the state carries over to a run of it alone. -/
theorem Within.run {P : (σ → σ) → Prop} {Q : α → Prop} {R : σ → σ → Prop} {f : Flow σ α}
    (h : f.Within P Q) (refl : ∀ s, R s s) (trans : ∀ s t u, R s t → R t u → R s u)
    (steps : ∀ u, P u → ∀ s, R s (u s)) (s : σ) : Q (f.run s).1 ∧ R s (f.run s).2 := by
  induction f generalizing s with
  | done a => exact ⟨h, refl s⟩
  | step update next ih =>
    obtain ⟨result, rest⟩ := ih s (h.2 s) (update s)
    exact ⟨result, trans _ _ _ (steps _ h.1 s) rest⟩

/-- If every state in which the flow takes a step is one of `C`, its result is one of `Q`. -/
def Under (C : σ → Prop) (Q : α → Prop) : Flow σ α → Prop
  | done a => Q a
  | step _ next => ∀ s, C s → (next s).Under C Q

theorem Within.under {P : (σ → σ) → Prop} {Q : α → Prop} {f : Flow σ α} (h : f.Within P Q)
    (C : σ → Prop) : f.Under C Q := by
  induction f with
  | done a => exact h
  | step update next ih => exact fun s _ => ih s (h.2 s)

theorem Under.bind {C : σ → Prop} {Q : α → Prop} {R : β → Prop} {f : Flow σ α}
    {k : α → Flow σ β} (h : f.Under C Q) (rest : ∀ a, Q a → (k a).Under C R) :
    (f >>= k).Under C R := by
  induction f with
  | done a => exact rest a h
  | step update next ih => exact fun s hs => ih s (h s hs)

/-- A flow that runs alone, and by its own steps never leaves `C`. -/
theorem Under.run {C : σ → Prop} {P : (σ → σ) → Prop} {Q Q' : α → Prop} {f : Flow σ α}
    (h : f.Under C Q) (steps : f.Within P Q') (keeps : ∀ u, P u → ∀ s, C s → C (u s)) {s : σ}
    (now : C s) : Q (f.run s).1 := by
  induction f generalizing s with
  | done a => exact h
  | step update next ih => exact ih s (h s now) (steps.2 s) (keeps update steps.1 s now)

/-- Steps of `P` only, until what is left of the flow is one of `ends`. -/
inductive Until (P : (σ → σ) → Prop) (ends : Flow σ α → Prop) : Flow σ α → Prop
  | now {f} : ends f → Until P ends f
  | later {update next} : P update → (∀ s, Until P ends (next s)) → Until P ends (step update next)

theorem Until.mono {P : (σ → σ) → Prop} {ends ends' : Flow σ α → Prop} {f : Flow σ α}
    (h : Until P ends f) (last : ∀ f, ends f → ends' f) : Until P ends' f := by
  induction h with
  | now hf => exact .now (last _ hf)
  | later step _ ih => exact .later step ih

theorem Within.until_bind {P : (σ → σ) → Prop} {Q : α → Prop} {ends : Flow σ β → Prop}
    {f : Flow σ α} {k : α → Flow σ β} (h : f.Within P Q)
    (rest : ∀ a, Q a → Until P ends (k a)) : Until P ends (f >>= k) := by
  induction f with
  | done a => exact rest a h
  | step update next ih => exact .later h.1 fun s => ih s (h.2 s)

theorem Until.within {P P' : (σ → σ) → Prop} {Q : α → Prop} {ends : Flow σ α → Prop}
    {f : Flow σ α} (h : Until P ends f) (steps : ∀ u, P u → P' u)
    (last : ∀ f, ends f → f.Within P' Q) : f.Within P' Q := by
  induction h with
  | now hf => exact last _ hf
  | later step _ ih => exact ⟨steps _ step, ih⟩

/-- What is in a list after one of its members has been replaced. -/
theorem mem_of_replaced {before after : List α} (x : α) {y z : α}
    (h : z ∈ before ++ y :: after) : z = y ∨ z ∈ before ++ x :: after := by
  rcases List.mem_append.mp h with h | h
  · exact .inr (List.mem_append_left _ h)
  · rcases List.mem_cons.mp h with h | h
    · exact .inl h
    · exact .inr (List.mem_append_right _ (List.mem_cons_of_mem _ h))

theorem Steps.trans {x y z : List (Flow σ α) × σ} (h : Steps x y) (h' : Steps y z) :
    Steps x z := by
  induction h' with
  | refl => exact h
  | tail _ last ih => exact ih.tail last

/-- Any one of several flows may run to its end while the others wait. -/
theorem Steps.alone (before after : List (Flow σ α)) (f : Flow σ α) (s : σ) :
    Steps (before ++ f :: after, s) (before ++ done (f.run s).1 :: after, (f.run s).2) := by
  induction f generalizing s with
  | done a => exact .refl _
  | step update next ih =>
    have first : Steps (before ++ step update next :: after, s)
        (before ++ next s :: after, update s) :=
      .tail (.refl _) (.take before after update next s)
    exact first.trans (ih s (update s))

end PlayerRegistry.Flow
