import Mathlib.Logic.Hydra
import PlayerRegistry.Proofs.Flow

/-!
# Interleavings

Flows that take their steps in any order, among changes from elsewhere. Each step makes one flow
smaller, so every interleaving ends; what holds wherever one ends is thus ensured.

A flow is proved apart from the others by what it relies on and what it guarantees: if each
guarantees what the others rely on, then each keeps its promise in every interleaving.
-/

namespace PlayerRegistry.Flow

variable {σ α β ι : Type} {E : σ → σ → Prop}

/-- One of the flows takes a step, or the state changes from elsewhere. -/
inductive Next (E : σ → σ → Prop) : List (Flow σ α) × σ → List (Flow σ α) × σ → Prop where
  | step {x y} : Step x y → Next E x y
  | change {works s s'} : E s s' → Next E (works, s) (works, s')

/-- Any number of moves. -/
abbrev Amid (E : σ → σ → Prop) : List (Flow σ α) × σ → List (Flow σ α) × σ → Prop :=
  Relation.ReflTransGen (Next E)

theorem Amid.of_changes {works : List (Flow σ α)} {s s' : σ}
    (h : Relation.ReflTransGen E s s') : Amid E (works, s) (works, s') :=
  h.lift (works, ·) fun _ _ changed => .change changed

theorem Amid.of_steps {x y : List (Flow σ α) × σ} (h : Steps x y) : Amid E x y := by
  induction h with
  | refl => exact .refl
  | tail _ last ih => exact ih.tail (.step last)

/-- What is left of a flow after one step. -/
inductive Left : Flow σ α → Flow σ α → Prop where
  | after (update : σ → σ) (next : σ → Flow σ α) (s : σ) : Left (next s) (step update next)

theorem wellFounded_left : WellFounded (Left (σ := σ) (α := α)) := by
  refine ⟨fun f => ?_⟩
  induction f with
  | done a => exact ⟨_, fun _ left => nomatch left⟩
  | step update next ih =>
    constructor
    rintro _ ⟨⟩
    exact ih _

theorem cutExpand_of_step {x y : List (Flow σ α) × σ} (h : Step x y) :
    Relation.CutExpand Left (y.1 : Multiset (Flow σ α)) x.1 := by
  obtain ⟨before, after, update, next, s⟩ := h
  refine ⟨{next s}, step update next, fun f hf => ?_, ?_⟩
  · rw [Multiset.mem_singleton.mp hf]
    exact .after update next s
  · simp only [← Multiset.coe_add, ← Multiset.cons_coe, ← Multiset.singleton_add]
    ac_rfl

/-- Only finitely many steps can follow one another, whatever changes in between. -/
theorem wellFounded_step :
    WellFounded fun y x : List (Flow σ α) × σ => ∃ s, Step (x.1, s) y := by
  have : Std.Irrefl (Left (σ := σ) (α := α)) := ⟨fun f => wellFounded_left.irrefl.irrefl f⟩
  refine Subrelation.wf ?_ (InvImage.wf (fun x : List (Flow σ α) × σ => (x.1 : Multiset (Flow σ α)))
    wellFounded_left.cutExpand)
  rintro y x ⟨s, taken⟩
  exact (cutExpand_of_step taken :)

/-- Flows that are not all done can take a step. -/
theorem all_done_or_step (works : List (Flow σ α)) (s : σ) :
    (∃ results : List α, works = results.map done) ∨ ∃ y, Step (works, s) y := by
  induction works with
  | nil => exact .inl ⟨[], rfl⟩
  | cons f rest ih =>
    cases f with
    | step update next => exact .inr ⟨_, .take [] rest update next s⟩
    | done a =>
      rcases ih with ⟨results, rfl⟩ | ⟨y, taken⟩
      · exact .inl ⟨a :: results, rfl⟩
      · right
        obtain ⟨before, after, update, next, s⟩ := taken
        exact ⟨_, .take (done a :: before) after update next s⟩

/-- In whatever order the flows take their steps, with changes of `E` in between, all come to an
end, with results and a state of `P`. -/
inductive Ensures (E : σ → σ → Prop) (P : List α → σ → Prop) : List (Flow σ α) × σ → Prop where
  | ended {results s} : (∀ s', Relation.ReflTransGen E s s' → P results s') →
      Ensures E P (results.map done, s)
  | turn {works s} : (∃ y, Step (works, s) y) →
      (∀ s', Relation.ReflTransGen E s s' → ∀ y, Step (works, s') y → Ensures E P y) →
      Ensures E P (works, s)

/-- What holds wherever an interleaving ends is ensured. -/
theorem ensures_of_amid {P : List α → σ → Prop} {x : List (Flow σ α) × σ}
    (h : ∀ results s, Amid E x (results.map done, s) → P results s) : Ensures E P x := by
  induction x using wellFounded_step.induction with
  | _ x ih =>
    obtain ⟨works, s⟩ := x
    rcases all_done_or_step works s with ⟨results, rfl⟩ | able
    · exact .ended fun s' changed => h results s' (.of_changes changed)
    · refine .turn able fun s' changed y taken => ih y ⟨s', taken⟩ fun results t further => ?_
      exact h results t (((Amid.of_changes changed).tail (.step taken)).trans further)

theorem Ensures.mono {P P' : List α → σ → Prop} {x : List (Flow σ α) × σ} (h : Ensures E P x)
    (weaker : ∀ results s, P results s → P' results s) : Ensures E P' x := by
  induction h with
  | ended ends => exact .ended fun s' changed => weaker _ _ (ends s' changed)
  | turn able _ ih => exact .turn able ih

/-- In this state the flow takes a step, which leaves another flow and another state. -/
def Takes (f : Flow σ α) (s : σ) (f' : Flow σ α) (s' : σ) : Prop :=
  ∃ update next, f = step update next ∧ next s = f' ∧ update s = s'

theorem Takes.bind {f f' : Flow σ α} {s s' : σ} (h : f.Takes s f' s') (k : α → Flow σ β) :
    (f >>= k).Takes s (f' >>= k) s' := by
  obtain ⟨update, next, rfl, rfl, rfl⟩ := h
  exact ⟨update, fun s => next s >>= k, rfl, rfl, rfl⟩

theorem Takes.not_done {f f' : Flow σ α} {s s' : σ} (h : f.Takes s f' s') (a : α) : f ≠ done a := by
  obtain ⟨update, next, rfl, -, -⟩ := h
  intro same
  cases same

theorem Takes.unique {f f₁ f₂ : Flow σ α} {s s₁ s₂ : σ} (h : f.Takes s f₁ s₁)
    (h' : f.Takes s f₂ s₂) : f₁ = f₂ ∧ s₁ = s₂ := by
  obtain ⟨update, next, rfl, rfl, rfl⟩ := h
  obtain ⟨update', next', same, rfl, rfl⟩ := h'
  cases same
  exact ⟨rfl, rfl⟩

/-- What a flow relies on between its steps, and what it guarantees of each of them. -/
structure Terms (σ : Type) where
  rely : σ → σ → Prop
  guarantee : σ → σ → Prop
  refl : ∀ s, rely s s
  trans : ∀ s t u, rely s t → rely t u → rely s u

variable {c : Terms σ} {Q : α → σ → Prop}

/-- As long as the state changes in between only as the flow relies on, it guarantees each of its
steps, and its result and the state after it are of `Q`. -/
def Meets (c : Terms σ) (Q : α → σ → Prop) : Flow σ α → σ → Prop
  | done a, s => ∀ s', c.rely s s' → Q a s'
  | step update next, s =>
    ∀ s', c.rely s s' → c.guarantee s' (update s') ∧ (next s').Meets c Q (update s')

theorem Meets.later {f : Flow σ α} {s s' : σ} (h : f.Meets c Q s) (between : c.rely s s') :
    f.Meets c Q s' := by
  cases f with
  | done a => exact fun s'' later => h s'' (c.trans _ _ _ between later)
  | step update next => exact fun s'' later => h s'' (c.trans _ _ _ between later)

theorem Meets.bind {R : β → σ → Prop} {f : Flow σ α} {k : α → Flow σ β} {s : σ}
    (h : f.Meets c Q s) (rest : ∀ a s', Q a s' → (k a).Meets c R s') :
    (f >>= k).Meets c R s := by
  induction f generalizing s with
  | done a => exact rest a s (h s (c.refl s))
  | step update next ih =>
    intro s' between
    obtain ⟨guaranteed, further⟩ := h s' between
    exact ⟨guaranteed, ih s' further⟩

theorem meets_pure {a : α} {s : σ} (h : ∀ s', c.rely s s' → Q a s') :
    (pure a : Flow σ α).Meets c Q s := h

theorem meets_act_bind {f : σ → β × σ} {k : β → Flow σ α} {s : σ}
    (h : ∀ s', c.rely s s' →
      c.guarantee s' (f s').2 ∧ (k (f s').1).Meets c Q (f s').2) :
    (act f >>= k).Meets c Q s := h

/-- Each of two may rely on what the other guarantees. -/
def Terms.Fit (c d : Terms σ) : Prop :=
  (∀ s s', c.guarantee s s' → d.rely s s') ∧ ∀ s s', d.guarantee s s' → c.rely s s'

theorem exists_split {γ : Type} {R : ι → γ → Prop} {is : List ι} {before after : List γ} {f : γ}
    (h : List.Forall₂ R is (before ++ f :: after)) :
    ∃ is₁ i is₂, is = is₁ ++ i :: is₂ ∧ List.Forall₂ R is₁ before ∧ R i f ∧
      List.Forall₂ R is₂ after := by
  obtain ⟨i, is₂, head, tail, rest⟩ :=
    List.forall₂_cons_right_iff.mp (List.forall₂_drop_append is before (f :: after) h)
  refine ⟨is.take before.length, i, is₂, ?_, List.forall₂_take_append _ _ _ h, head, tail⟩
  rw [← rest, List.take_append_drop]

variable {terms : ι → Terms σ} {Q : ι → α → σ → Prop} {is : List ι}

theorem meets_later {fs : List (Flow σ α)} {s s' : σ}
    (meets : List.Forall₂ (fun i f => f.Meets (terms i) (Q i) s) is fs)
    (between : ∀ i ∈ is, (terms i).rely s s') :
    List.Forall₂ (fun i f => f.Meets (terms i) (Q i) s') is fs :=
  ((List.forall₂_and_left _ _).mpr ⟨between, meets⟩).imp fun _ _ h => h.2.later h.1

/-- In every interleaving, each flow that meets its terms goes on meeting them, and the state
changes from elsewhere or as one of the flows guarantees. -/
theorem meets_amid (fit : is.Pairwise fun i j => (terms i).Fit (terms j))
    (elsewhere : ∀ i ∈ is, ∀ s s', E s s' → (terms i).rely s s')
    {x y : List (Flow σ α) × σ} (run : Amid E x y)
    (start : List.Forall₂ (fun i f => f.Meets (terms i) (Q i) x.2) is x.1) :
    List.Forall₂ (fun i f => f.Meets (terms i) (Q i) y.2) is y.1 ∧
      Relation.ReflTransGen (fun s s' => E s s' ∨ ∃ i ∈ is, (terms i).guarantee s s') x.2 y.2 := by
  induction run with
  | refl => exact ⟨start, .refl⟩
  | tail _ move ih =>
    obtain ⟨meets, changes⟩ := ih
    cases move with
    | change changed =>
      exact ⟨meets_later meets fun i hi => elsewhere i hi _ _ changed, changes.tail (.inl changed)⟩
    | step taken =>
      obtain ⟨before, after, update, next, s⟩ := taken
      obtain ⟨is₁, i, is₂, rfl, meets₁, own, meets₂⟩ := exists_split meets
      obtain ⟨-, second, first⟩ := List.pairwise_append.mp fit
      obtain ⟨guaranteed, further⟩ := own s ((terms i).refl s)
      have others₁ := meets_later meets₁ fun j hj =>
        (first j hj i List.mem_cons_self).2 _ _ guaranteed
      have others₂ := meets_later meets₂ fun j hj =>
        ((List.pairwise_cons.mp second).1 j hj).1 _ _ guaranteed
      exact ⟨List.rel_append others₁ (.cons further others₂),
        changes.tail (.inr ⟨i, by simp, guaranteed⟩)⟩

/-- Flows that meet terms that fit keep what they promise, in every interleaving. -/
theorem ensures_of_meets (fit : is.Pairwise fun i j => (terms i).Fit (terms j))
    (elsewhere : ∀ i ∈ is, ∀ s s', E s s' → (terms i).rely s s') {fs : List (Flow σ α)} {s : σ}
    (start : List.Forall₂ (fun i f => f.Meets (terms i) (Q i) s) is fs) :
    Ensures E (fun results s' => List.Forall₂ (fun i a => Q i a s') is results ∧
      Relation.ReflTransGen (fun s s' => E s s' ∨ ∃ i ∈ is, (terms i).guarantee s s') s s')
      (fs, s) := by
  refine ensures_of_amid fun results s' run => ?_
  obtain ⟨meets, changes⟩ := meets_amid fit elsewhere run start
  refine ⟨(List.forall₂_map_right_iff.mp meets).imp ?_, changes⟩
  exact fun i a ends => ends s' ((terms i).refl s')

end PlayerRegistry.Flow
