/-!
# Flows

A flow is work done in atomic steps on a shared state. Flows that run side by side take their steps
in any order; a flow that runs alone takes them one after another.
-/

namespace PlayerRegistry

inductive Flow (σ α : Type) where
  | done (a : α)
  /-- One step: the state changes by `update`, and the work goes on with what was seen before. -/
  | step (update : σ → σ) (next : σ → Flow σ α)

namespace Flow

def bind : Flow σ α → (α → Flow σ β) → Flow σ β
  | done a, k => k a
  | step update next, k => step update fun s => (next s).bind k

instance : Monad (Flow σ) where
  pure := done
  bind := bind

/-- A single step with a result. -/
def act (f : σ → α × σ) : Flow σ α := step (fun s => (f s).2) fun s => done (f s).1

/-- The result of a flow that runs alone, and the state it leaves. -/
def run : Flow σ α → σ → α × σ
  | done a, s => (a, s)
  | step update next, s => (next s).run (update s)

/-- One flow of several takes one step. -/
inductive Step : List (Flow σ α) × σ → List (Flow σ α) × σ → Prop where
  | take (before after : List (Flow σ α)) (update : σ → σ) (next : σ → Flow σ α) (s : σ) :
      Step (before ++ step update next :: after, s) (before ++ next s :: after, update s)

/-- Flows take any number of steps, in any order. -/
inductive Steps : List (Flow σ α) × σ → List (Flow σ α) × σ → Prop where
  | refl (x) : Steps x x
  | tail {x y z} : Steps x y → Step y z → Steps x z

/-- The flow takes its steps on a part of a larger state. -/
def onPart (get : τ → σ) (set : σ → τ → τ) : Flow σ α → Flow τ α
  | done a => done a
  | step update next =>
    step (fun t => set (update (get t)) t) fun t => (next (get t)).onPart get set

end Flow

end PlayerRegistry
