import Mathlib.Logic.Relation
import PlayerRegistry.Proofs.Operations

/-!
# Runs of a registry

Operations begin at any time and take their steps in any order, each in a scene of its own. A run
keeps a transcript of the statements that were carried out on the account table; a condition on
what may begin stands for what is promised of the operations.
-/

namespace PlayerRegistry

open AccountTable (Statement)

/-- A statement that was carried out, and the table that it found. -/
structure Entry where
  statement : Statement
  before : AccountTable

structure Run where
  /-- The last entry first. -/
  transcript : List Entry
  registry : Registry
  works : List (Flow Registry (Result Unit))

namespace Run

def start : Run := ⟨[], .empty, []⟩

/-- An operation begins, or one of the works takes a step. -/
inductive Next (admits : Run → Scene → Operation → Prop) : Run → Run → Prop where
  | begin {x} (s op) : admits x s op →
      Next admits x { x with works := ExceptT.run (op.work s) :: x.works }
  | quiet {transcript r update next} (before after) : Work.Quiet update →
      Next admits ⟨transcript, r, before ++ .step update next :: after⟩
        ⟨transcript, update r, before ++ next r :: after⟩
  | statement {transcript r update next} (before after stmt) : Work.Performs stmt update →
      Next admits ⟨transcript, r, before ++ .step update next :: after⟩
        ⟨⟨stmt, r.accounts⟩ :: transcript, update r, before ++ next r :: after⟩

abbrev Later (admits : Run → Scene → Operation → Prop) : Run → Run → Prop :=
  Relation.ReflTransGen (Next admits)

/-- A run that comes about from the empty registry. -/
abbrev Reached (admits : Run → Scene → Operation → Prop) : Run → Prop := Later admits start

theorem Next.mono {admits admits' : Run → Scene → Operation → Prop} {x y : Run}
    (next : Next admits x y) (more : ∀ x s op, admits x s op → admits' x s op) :
    Next admits' x y := by
  cases next with
  | begin s op admitted => exact .begin s op (more _ _ _ admitted)
  | quiet before after quiet => exact .quiet before after quiet
  | statement before after stmt performs => exact .statement before after stmt performs

theorem Later.mono {admits admits' : Run → Scene → Operation → Prop} {x y : Run}
    (later : Later admits x y) (more : ∀ x s op, admits x s op → admits' x s op) :
    Later admits' x y := by
  have weaker : Next admits ≤ Next admits' := fun _ _ next => next.mono more
  exact Relation.ReflTransGen.mono weaker x y later

/-- The account tables that there have been. -/
def tables (x : Run) : List AccountTable := x.registry.accounts :: x.transcript.map (·.before)

variable {admits : Run → Scene → Operation → Prop} {x y : Run}

theorem Next.coherent (next : Next admits x y) (h : x.registry.accounts.Coherent) :
    y.registry.accounts.Coherent := by
  cases next with
  | begin => exact h
  | @quiet _ r update _ _ _ quiet =>
    change (update r).accounts.Coherent
    rw [quiet r]
    exact h
  | @statement _ r update _ _ _ stmt performs =>
    change (update r).accounts.Coherent
    rw [performs r]
    exact h.run stmt

/-- The account table is coherent whatever has been done, and in whatever order. -/
theorem Reached.coherent (h : Reached admits x) : x.registry.accounts.Coherent := by
  induction h with
  | refl => exact .empty
  | tail _ next ih => exact next.coherent ih

/-- The works under way have only steps of `P` left. -/
def Remaining (P : (Registry → Registry) → Prop) (works : List (Flow Registry (Result Unit))) :
    Prop :=
  ∀ f ∈ works, f.Within P fun _ => True

section
variable {P : (Registry → Registry) → Prop} {works : List (Flow Registry (Result Unit))}

theorem Remaining.step {before after : List (Flow Registry (Result Unit))}
    {update : Registry → Registry} {next : Registry → Flow Registry (Result Unit)}
    (h : Remaining P (before ++ .step update next :: after)) (r : Registry) :
    P update ∧ Remaining P (before ++ next r :: after) := by
  have now := h (.step update next) (by simp)
  refine ⟨now.1, ?_⟩
  intro f hf
  rcases Flow.mem_of_replaced (.step update next) hf with rfl | hf
  · exact now.2 r
  · exact h f hf

theorem Remaining.begin (h : Remaining P works) {w : Work Unit}
    (new : Work.Within P (fun _ => True) w) : Remaining P (ExceptT.run w :: works) := by
  intro f hf
  rcases List.mem_cons.mp hf with rfl | hf
  · exact Flow.Within.mono new (fun _ h => h) fun _ _ => trivial
  · exact h f hf

end

/-- The works under way have only such statements left. -/
def Left (S : Statement → Prop) (works : List (Flow Registry (Result Unit))) : Prop :=
  ∀ f ∈ works, f.Within (Work.Statements S) fun _ => True

theorem Left.step {S : Statement → Prop} {before after : List (Flow Registry (Result Unit))}
    {update : Registry → Registry} {next : Registry → Flow Registry (Result Unit)}
    (h : Left S (before ++ .step update next :: after)) (r : Registry) :
    Work.Statements S update ∧ Left S (before ++ next r :: after) :=
  Remaining.step h r

theorem Left.begin {S : Statement → Prop} {works : List (Flow Registry (Result Unit))}
    (h : Left S works) {w : Work Unit} (new : Work.Within (Work.Statements S) (fun _ => True) w) :
    Left S (ExceptT.run w :: works) :=
  Remaining.begin h new

/-- A work that is done alone, from its first step to its last, is a part of a run. -/
theorem Later.alone {f : Flow Registry (Result Unit)} {Q : Result Unit → Prop}
    {S : Statement → Prop} (left : f.Within (Work.Statements S) Q) (transcript : List Entry)
    (r : Registry) (before after : List (Flow Registry (Result Unit))) :
    ∃ more, Later admits ⟨transcript, r, before ++ f :: after⟩
      ⟨more ++ transcript, (f.run r).2, before ++ .done (f.run r).1 :: after⟩ := by
  induction f generalizing transcript r with
  | done result => exact ⟨[], .refl⟩
  | step update next ih =>
    rcases left.1 with quiet | ⟨stmt, -, performs⟩
    · obtain ⟨more, later⟩ := ih r (left.2 r) transcript (update r)
      exact ⟨more, later.head (.quiet before after quiet)⟩
    · obtain ⟨more, later⟩ := ih r (left.2 r) (⟨stmt, r.accounts⟩ :: transcript) (update r)
      refine ⟨more ++ [⟨stmt, r.accounts⟩], ?_⟩
      rw [List.append_assoc]
      exact later.head (.statement before after stmt performs)

/-- Operations that follow one another are a run. -/
theorem Reached.perform (h : Reached admits x) {s : Scene} {op : Operation}
    (admitted : admits x s op) :
    ∃ y, Later admits x y ∧ Reached admits y ∧ y.registry = ((op.work s).perform x.registry).2 := by
  have begun : Later admits x _ := .single (.begin s op admitted)
  obtain ⟨more, later⟩ : ∃ more, Later admits _ _ :=
    Later.alone (op.within_work s) x.transcript x.registry [] x.works
  exact ⟨_, begun.trans later, h.trans (begun.trans later), rfl⟩

theorem Reached.exists_after (h : Reached admits x) (s : Scene) (op : Operation)
    (admitted : admits x s op) {α : Type} {w : Work α} (work : op.work s = do let _ ← w)
    {before r : Registry} (now : x.registry = before) {result : Result α}
    (done : w.perform before = (result, r)) : ∃ y, Reached admits y ∧ y.registry = r := by
  obtain ⟨y, -, after, same⟩ := h.perform admitted
  refine ⟨y, after, ?_⟩
  rw [same, work, Work.perform_ended, now, done]

end Run

/-- A scene in which nothing answers, and draws that repeat their number. -/
def Scene.quiet (service : Service) : Scene where
  service := service
  web := ⟨fun _ => none, fun _ => none⟩
  random := ⟨fun k n => ⟨(List.replicate n (UInt8.ofNat k)).toArray⟩⟩
  now := ⟨0⟩
  refuses _ _ := false

/-- A service with the settings that a registry has by default. -/
def Service.plain : Service where
  config := {}
  policy := ⟨{}, none⟩
  credentials := ⟨⟨8, 1, 1⟩, 1⟩
  key := ⟨⟨0, 0, 0, 0, 0⟩, .empty⟩
  limiter := none

def Scene.plain : Scene := .quiet .plain

namespace Alice

open Scene (plain)

def request : RegisterRequest := ⟨"alice", "secret1", none, false⟩

/-- What the first three draws make of the request. -/
def new : NewAccount where
  uuid := (plain.random.uuid 0).toText
  username := "alice"
  playerName := "alice"
  password :=
    ⟨plain.random.salt 1, Argon2.hash ⟨8, 1, 1⟩ 32 "secret1".toUTF8 (plain.random.salt 1)⟩
  language := "en"
  skinModel := .classic
  session := (Session.mint (plain.random.token 2) ⟨0⟩).columns

def account : Account := AccountTable.NewAccount.toAccount new 1

def registry : Registry := ⟨⟨[⟨account, true⟩], 1⟩, .empty, 3, []⟩

def run : Run := ⟨[⟨.create new, .empty⟩], registry, [.done (.ok ())]⟩

theorem reached {admits : Run → Scene → Operation → Prop}
    (admitted : admits .start plain (.register request)) : Run.Reached admits run := by
  have begun : Run.Reached admits _ := .single (.begin plain (.register request) admitted)
  have identified := begun.tail (.quiet [] [] fun _ => rfl)
  have salted := identified.tail (.quiet [] [] fun _ => rfl)
  have minted := salted.tail (.quiet [] [] fun _ => rfl)
  exact minted.tail (.statement [] [] (.create new) fun _ => rfl)

/-- Alice would like to be called Bob. -/
def newName : UpdateRequest := ⟨some "bob", none, none, none, none, none⟩

def renamed : Account :=
  { account with profile := { account.profile with playerName := "bob" } }

def afterNewName : Registry := { registry with accounts := ⟨[⟨renamed, true⟩], 1⟩ }

theorem perform_newName :
    (plain.updateProfile account newName).perform registry = (.ok renamed, afterNewName) := rfl

end Alice

end PlayerRegistry
