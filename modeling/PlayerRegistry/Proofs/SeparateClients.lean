import Mathlib.Data.Finset.Dedup
import Mathlib.Data.Finset.Card
import Mathlib.Data.Rat.Floor
import PlayerRegistry.Proofs.Association
import PlayerRegistry.Proofs.EnforceableRates
import PlayerRegistry.Proofs.Responses
import PlayerRegistry.Proofs.Runs

/-!
# Clients that are limited apart

At one instant a client can make as many requests as its burst, and no more, whatever other clients
do. What carries this is where the limiter puts each client: one period ahead for the burst itself
and one more for each request that was admitted. So every client that has been admitted is ahead of
the clock, and pruning passes it over.
-/

namespace PlayerRegistry

namespace RateLimit

open Binary64

theorem ceil?_eq {rate : Binary64} (finite : rate.bits.toNat < infiniteBits) :
    rate.ceil? = some ⌈rate.rational⌉₊ := by
  obtain ⟨m, e, value, same⟩ := value_of_lt finite
  have den := ratio_pos m e
  rw [rational_of_lt finite, ← same, ← ratio_eq, ceil?, value]
  change some (((ratio m e).1 + (ratio m e).2 - 1) / (ratio m e).2) = _
  generalize (ratio m e).1 = n
  generalize (ratio m e).2 = d at den
  have den' : (0 : ℚ) < d := by exact_mod_cast den
  refine congrArg some (eq_of_forall_ge_iff fun k => ?_)
  rw [Nat.ceil_le, div_le_iff₀ den', Nat.div_le_iff_le_mul den]
  norm_cast
  omega

/-- A quota has a period, and its burst is one second's worth of requests. -/
theorem Quota.of_ofRate {rate : Binary64} {q : Quota} (made : Quota.ofRate rate = .ok q) :
    0 < q.period ∧ q.burst = max 1 ⌈rate.rational⌉₊ := by
  have positive : rate.isPositive = true := by
    cases useless : rate.isPositive with
    | true => rfl
    | false => simp [Quota.ofRate, useless] at made
  rcases Quota.ofRate_cases positive with
    ⟨-, refused⟩ | ⟨-, -, refused⟩ | ⟨-, -, refused⟩ | ⟨⟨finite, -, fastest⟩, -⟩
  · cases refused.symm.trans made
  · cases refused.symm.trans made
  · cases refused.symm.trans made
  rcases isPositive_cases positive with ⟨-, below, -⟩ | infinite
  · have bounded : ⌈rate.rational⌉₊ ≤ greatestBurst := by
      refine Nat.ceil_le.mpr (fastest.trans ?_)
      norm_num [greatestBurst, UInt32.size]
    have burst : burstOf rate = max 1 ⌈rate.rational⌉₊ := by
      rw [burstOf, ceil?_eq below, Option.getD_some, min_eq_right bounded]
    cases period : nanos? rate.inverse with
    | none => cases (Quota.ofRate_of_none positive finite period).symm.trans made
    | some k =>
      rw [Quota.ofRate_of_some positive finite period, burst] at made
      split at made
      · cases made
      · rename_i nonzero
        split at made
        · cases made
        · cases made
          exact ⟨Nat.pos_of_ne_zero nonzero, rfl⟩
  · cases finite.symm.trans infinite

/-- What a limiter may be asked to do. -/
inductive Call where
  | check (client : IpAddress)
  | prune
  deriving DecidableEq

/-- The client that is checked. -/
def Call.client? : Call → Option IpAddress
  | check client => some client
  | prune => none

namespace Limiter

/-- The limiter after a call. -/
def next (now : Nat) (l : Limiter) : Call → Limiter
  | .check client => (l.check now client).2
  | .prune => l.prune now

/-- The limiter after calls that are all made at one instant. -/
def after (l : Limiter) (now : Nat) (calls : List Call) : Limiter := calls.foldl (next now) l

/-- Which checks of a client are admitted, in their order. -/
def answers (l : Limiter) (now : Nat) (client : IpAddress) : List Call → List Bool
  | [] => []
  | call :: calls =>
    if call = .check client then
      (l.check now client).1 :: (l.next now call).answers now client calls
    else (l.next now call).answers now client calls

theorem answers_append (now : Nat) (client : IpAddress) (l : Limiter) (calls more : List Call) :
    l.answers now client (calls ++ more) =
      l.answers now client calls ++ (l.after now calls).answers now client more := by
  induction calls generalizing l with
  | nil => rfl
  | cons call calls ih =>
    simp only [List.cons_append, answers, ih]
    split <;> rfl

theorem after_append_singleton (l : Limiter) (now : Nat) (calls : List Call) (call : Call) :
    l.after now (calls ++ [call]) = (l.after now calls).next now call := by
  simp [after]

theorem lookup_remember (client : IpAddress) (time : Nat) (clients : List (IpAddress × Nat)) :
    (fun c => (remember client time clients).lookup c) =
      Function.update (fun c => clients.lookup c) client (some time) := by
  induction clients with
  | nil => exact Association.lookup_cons client time []
  | cons c rest ih =>
    obtain ⟨own, ahead⟩ := c
    by_cases here : own = client
    · rw [remember, if_pos here, Association.lookup_cons, Association.lookup_cons, here,
        Function.update_idem]
    · rw [remember, if_neg here, Association.lookup_cons, Association.lookup_cons, ih,
        Function.update_comm here]

theorem keys_remember (client : IpAddress) (time : Nat) (clients : List (IpAddress × Nat)) :
    (remember client time clients).map Prod.fst =
      if client ∈ clients.map Prod.fst then clients.map Prod.fst
      else clients.map Prod.fst ++ [client] := by
  induction clients with
  | nil => rfl
  | cons c rest ih =>
    by_cases here : c.1 = client
    · simp [remember, here]
    · have same : client ∈ (c :: rest).map Prod.fst ↔ client ∈ rest.map Prod.fst := by
        simp [Ne.symm here]
      rw [remember, if_neg here, List.map_cons, ih]
      simp only [same]
      split <;> rfl

/-- What is known after calls that were all made at one instant: each client that was checked is so
many periods ahead of the clock as it has had requests admitted, and one more. -/
structure Follows (start : Limiter) (now : Nat) (calls : List Call) (l : Limiter) : Prop where
  quota : l.quota = start.quota
  ahead : ∀ client, l.clients.lookup client =
    if calls.count (.check client) = 0 then none
    else some (now + (min (calls.count (.check client)) start.quota.burst + 1) * start.quota.period)
  keys : (l.clients.map Prod.fst).Nodup
  known : ∀ client, client ∈ l.clients.map Prod.fst ↔ .check client ∈ calls

variable {start l : Limiter} {now : Nat} {calls : List Call}

theorem count_append_self (calls : List Call) (client : IpAddress) :
    (calls ++ [Call.check client]).count (.check client) = calls.count (.check client) + 1 := by
  rw [List.count_append, List.count_singleton_self]

theorem count_append_of_ne {client other : IpAddress} (different : other ≠ client)
    (calls : List Call) :
    (calls ++ [Call.check client]).count (.check other) = calls.count (.check other) := by
  simp [Ne.symm different]

namespace Follows

theorem fullAt (h : Follows start now calls l) (client : IpAddress) : l.fullAt now client =
    now + (min (calls.count (.check client)) start.quota.burst + 1) * start.quota.period := by
  rw [Limiter.fullAt, h.ahead, h.quota]
  split
  · rename_i fresh
    simp [fresh]
  · rfl

/-- A client is admitted as long as it has had less than its burst. -/
theorem admits_iff (h : Follows start now calls l) (period : 0 < start.quota.period)
    (client : IpAddress) :
    l.admits now client = true ↔ calls.count (.check client) < start.quota.burst := by
  rw [admits, decide_eq_true_iff, h.fullAt, h.quota, Nat.mul_comm start.quota.period]
  generalize calls.count (.check client) = n
  constructor
  · intro early
    by_contra spent
    have full : min n start.quota.burst = start.quota.burst := by omega
    rw [full, Nat.succ_mul] at early
    omega
  · intro left
    have part : min n start.quota.burst + 1 ≤ start.quota.burst := by omega
    have := Nat.mul_le_mul_right start.quota.period part
    omega

/-- A check takes the client one period further ahead, unless it has had its burst. -/
theorem check (h : Follows start now calls l) (period : 0 < start.quota.period)
    (burst : 0 < start.quota.burst) (client : IpAddress) :
    Follows start now (calls ++ [.check client]) (l.check now client).2 := by
  have members : ∀ other, Call.check other ∈ calls ++ [.check client] ↔
      .check other ∈ calls ∨ other = client := by simp
  by_cases left : calls.count (.check client) < start.quota.burst
  · rw [Limiter.check, if_pos ((h.admits_iff period client).mpr left)]
    refine ⟨h.quota, fun other => ?_, ?_, fun other => ?_⟩
    · dsimp only
      rw [congrFun (lookup_remember client _ l.clients) other]
      by_cases same : other = client
      · subst same
        rw [Function.update_self, h.fullAt, count_append_self, if_neg (Nat.succ_ne_zero _), h.quota,
          Nat.max_eq_left (Nat.le_add_right _ _), Nat.min_eq_left left.le, Nat.min_eq_left left,
          Nat.succ_mul (_ + 1), Nat.add_assoc]
      · rw [Function.update_of_ne same, h.ahead, count_append_of_ne same]
    · dsimp only
      rw [keys_remember]
      split
      · exact h.keys
      · rename_i new
        rw [List.nodup_append_comm]
        exact List.nodup_cons.mpr ⟨new, h.keys⟩
    · dsimp only
      rw [keys_remember, members, ← h.known]
      split
      · rename_i known
        refine ⟨.inl, ?_⟩
        rintro (before | rfl)
        · exact before
        · exact known
      · rw [List.mem_append, List.mem_singleton]
  · have spent : ¬l.admits now client = true := fun early =>
      left ((h.admits_iff period client).mp early)
    rw [Limiter.check, if_neg spent]
    have before : .check client ∈ calls := List.count_pos_iff.mp (by omega)
    refine ⟨h.quota, fun other => ?_, h.keys, fun other => ?_⟩
    · by_cases same : other = client
      · subst same
        rw [h.ahead, count_append_self, if_neg (by omega), if_neg (Nat.succ_ne_zero _),
          Nat.min_eq_right (by omega), Nat.min_eq_right (by omega)]
      · rw [h.ahead, count_append_of_ne same]
    · rw [members, h.known]
      refine ⟨.inl, ?_⟩
      rintro (known | rfl)
      · exact known
      · exact before

/-- Every client that is known is ahead of the clock, so that pruning forgets none. -/
theorem prune_eq (h : Follows start now calls l) (period : 0 < start.quota.period) :
    l.prune now = l := by
  have ahead : ∀ c ∈ l.clients, now < c.2 := by
    intro c hc
    have found := Association.lookup_of_mem h.keys hc
    rw [h.ahead] at found
    split at found
    · cases found
    · rw [← Option.some.inj found]
      exact Nat.lt_add_of_pos_right (Nat.mul_pos (Nat.succ_pos _) period)
  rw [prune, List.filter_eq_self.mpr (by simpa using ahead)]

theorem next (h : Follows start now calls l) (period : 0 < start.quota.period)
    (burst : 0 < start.quota.burst) (call : Call) :
    Follows start now (calls ++ [call]) (l.next now call) := by
  cases call with
  | check client => exact h.check period burst client
  | prune =>
    have same : ∀ client, (calls ++ [Call.prune]).count (.check client) =
        calls.count (.check client) := by simp
    rw [Limiter.next, h.prune_eq period]
    exact ⟨h.quota, fun client => by rw [h.ahead, same], h.keys, fun client => by simp [h.known]⟩

end Follows

theorem fst_check (l : Limiter) (now : Nat) (client : IpAddress) :
    (l.check now client).1 = l.admits now client := by
  rw [Limiter.check]
  cases l.admits now client <;> rfl

/-- Calls at one instant, from a limiter that knows no client. -/
theorem follows_after (period : 0 < start.quota.period) (burst : 0 < start.quota.burst)
    (fresh : start.clients = []) (now : Nat) (calls : List Call) :
    Follows start now calls (start.after now calls) := by
  induction calls using List.reverseRecOn with
  | nil => exact ⟨rfl, by simp [after, fresh], by simp [after, fresh], by simp [after, fresh]⟩
  | append_singleton calls call ih =>
    rw [after_append_singleton]
    exact ih.next period burst call

/-- The first checks of a client are admitted, up to its burst, and no later one is. -/
theorem answers_eq (period : 0 < start.quota.period) (burst : 0 < start.quota.burst)
    (fresh : start.clients = []) (now : Nat) (client : IpAddress) (calls : List Call) :
    start.answers now client calls =
      List.replicate (min (calls.count (.check client)) start.quota.burst) true ++
        List.replicate (calls.count (.check client) - start.quota.burst) false := by
  induction calls using List.reverseRecOn with
  | nil => simp [answers]
  | append_singleton calls call ih =>
    have follows := follows_after period burst fresh now calls
    rw [answers_append, ih, List.count_append, List.count_singleton, answers, answers]
    by_cases asked : call = .check client
    · have admitted := follows.admits_iff period client
      simp only [asked, if_true, beq_self_eq_true, fst_check]
      generalize calls.count (.check client) = n at admitted ⊢
      by_cases left : n < start.quota.burst
      · rw [admitted.mpr left, Nat.min_eq_left left.le, Nat.min_eq_left left,
          Nat.sub_eq_zero_of_le left.le, Nat.sub_eq_zero_of_le left, List.replicate_succ']
        simp
      · have refused : (start.after now calls).admits now client = false :=
          Bool.eq_false_iff.mpr fun early => left (admitted.mp early)
        have spent : start.quota.burst ≤ n := Nat.le_of_not_lt left
        rw [refused, Nat.min_eq_right spent, Nat.min_eq_right (spent.trans (Nat.le_succ n)),
          Nat.succ_sub spent, List.replicate_succ', List.append_assoc]
    · simp [asked]

theorem Follows.size_eq (h : Follows start now calls l) :
    l.size = (calls.filterMap Call.client?).toFinset.card := by
  rw [size, ← List.length_map Prod.fst, ← List.toFinset_card_of_nodup h.keys]
  congr 1
  ext client
  rw [List.mem_toFinset, List.mem_toFinset, h.known, List.mem_filterMap]
  constructor
  · intro checked
    exact ⟨_, checked, rfl⟩
  · rintro ⟨call | _, checked, same⟩
    · cases same
      exact checked
    · cases same

end Limiter

end RateLimit

namespace Site

open Http (Request)

/-- The first step of the request is its last one: nothing is done for it, and it is told that it
came too often. -/
def TurnsAway (limit : Option Nat) (s : Scene) (q : Request) (site : Site) : Prop :=
  ∃ update next, respond limit s q = .step update next ∧ update site = site ∧
    next site = .done (asSent q (.ofError .rateLimited))

theorem turnsAway_of_refused {limit : Option Nat} {s : Scene} {q : Request} {site : Site}
    {l : RateLimit.Limiter} (limited : site.limiter = some l)
    (refused : l.admits s.now.nanos.toNat (clientOf q) = false) : TurnsAway limit s q site := by
  have checked : l.check s.now.nanos.toNat (clientOf q) = (false, l) := by
    rw [RateLimit.Limiter.check, refused]
    rfl
  refine ⟨_, _, rfl, ?_, ?_⟩
  · obtain ⟨registry, limiter⟩ := site
    obtain rfl : limiter = some l := limited
    simp only [checked]
  · simp only [limited, checked]
    rfl

end Site

namespace RateLimit

theorem Limiter.exists_of_ofRate {rate : Binary64} {start : Limiter}
    (made : ofRate rate = .ok start) :
    ∃ quota, Quota.ofRate rate = .ok quota ∧ start = ⟨quota, []⟩ := by
  rw [ofRate] at made
  cases found : Quota.ofRate rate with
  | error f =>
    rw [found] at made
    cases made
  | ok quota =>
    rw [found] at made
    cases made
    exact ⟨quota, rfl, rfl⟩

/-- A limiter at one instant. With one second's worth of requests, and one request at least, as its
burst, it admits the first requests of each client up to the burst and refuses all later ones,
whatever other clients are checked and however often it is pruned in between. It goes on to know
every client that was checked, and no other. A request that it refuses is over at once. -/
theorem clients_limited_apart {rate : Binary64} {start : Limiter}
    (made : Limiter.ofRate rate = .ok start) (now : Nat) (calls : List Call) :
    (∀ client, start.answers now client calls =
      List.replicate (min (calls.count (.check client)) (max 1 ⌈rate.rational⌉₊)) true ++
        List.replicate (calls.count (.check client) - max 1 ⌈rate.rational⌉₊) false) ∧
    (∀ client, client ∈ (start.after now calls).clients.map Prod.fst ↔ .check client ∈ calls) ∧
    (start.after now calls).prune now = start.after now calls ∧
    (start.after now calls).size = (calls.filterMap Call.client?).toFinset.card ∧
    ∀ limit s q site, site.limiter = some (start.after now calls) → s.now.nanos.toNat = now →
      max 1 ⌈rate.rational⌉₊ ≤ calls.count (.check (Site.clientOf q)) →
      Site.TurnsAway limit s q site := by
  obtain ⟨quota, found, rfl⟩ := Limiter.exists_of_ofRate made
  obtain ⟨period, second⟩ := Quota.of_ofRate found
  have burst : 0 < quota.burst := by
    rw [second]
    exact Nat.one_pos.trans_le (le_max_left _ _)
  have follows : Limiter.Follows ⟨quota, []⟩ now calls _ :=
    Limiter.follows_after period burst rfl now calls
  rw [← second]
  refine ⟨fun client => Limiter.answers_eq period burst rfl now client calls, follows.known,
    follows.prune_eq period, follows.size_eq, ?_⟩
  rintro limit s q site limited rfl spent
  refine Site.turnsAway_of_refused limited (Bool.eq_false_iff.mpr fun early => ?_)
  exact Nat.not_lt_of_le spent ((follows.admits_iff period _).mp early)

/-- Five requests in two seconds. -/
def halfOfFive : Binary64 := ⟨0x4004000000000000⟩

def alice : IpAddress := .v4 ⟨1⟩

def bob : IpAddress := .v4 ⟨2⟩

/-- Alice makes four requests, and Bob makes two in between. -/
def aliceAndBob : List Call :=
  [.check alice, .check bob, .check alice, .prune, .check alice, .check alice, .prune, .check bob]

def requestOfAlice : Http.Request := ⟨"GET", "/profile", [], .empty, some alice⟩

theorem alice_is_refused_once :
    let now := Scene.plain.now.nanos.toNat
    ∃ start, Limiter.ofRate halfOfFive = .ok start ∧
      start.answers now alice aliceAndBob = [true, true, true, false] ∧
      start.answers now bob aliceAndBob = [true, true] ∧
      (start.after now aliceAndBob).size = 2 ∧
      Site.TurnsAway none .plain requestOfAlice ⟨.empty, some (start.after now aliceAndBob)⟩ := by
  have quota : Quota.ofRate halfOfFive = .ok ⟨400000000, 3⟩ := by decide +kernel
  have made : Limiter.ofRate halfOfFive = .ok ⟨⟨400000000, 3⟩, []⟩ := by
    rw [Limiter.ofRate, quota]
    rfl
  have three : max 1 ⌈halfOfFive.rational⌉₊ = 3 := by
    have value : halfOfFive.rational = 5 / 2 := by
      rw [Binary64.rational_of_lt (by decide)]
      change Binary64.atBits 0x4004000000000000 = 5 / 2
      norm_num [Binary64.atBits, Binary64.fractionBound]
    have ceil : ⌈(5 / 2 : ℚ)⌉₊ = 3 := by
      rw [Nat.ceil_eq_iff (by decide)]
      norm_num
    rw [value, ceil]
    rfl
  obtain ⟨answers, -, -, size, turnsAway⟩ :=
    clients_limited_apart made Scene.plain.now.nanos.toNat aliceAndBob
  rw [three] at answers turnsAway
  refine ⟨_, made, answers alice, answers bob, size, ?_⟩
  exact turnsAway none .plain requestOfAlice _ rfl rfl (by decide)

end RateLimit

end PlayerRegistry
