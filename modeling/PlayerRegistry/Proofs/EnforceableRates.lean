import PlayerRegistry.Proofs.NearestDoubles
import PlayerRegistry.RateLimit

/-!
# Rates that can be enforced

A quota counts the time between two requests in whole nanoseconds, on a clock of 64 bits. The time
is the inverse of the rate, rounded to a double and then to nanoseconds; as neither turns the order
of two rates round, the rates that can be enforced are those between two bounds.
-/

namespace PlayerRegistry

namespace RateLimit

open Binary64

/-- The period of a rate is the inverse of the rate, rounded to a double and then to nanoseconds. -/
theorem nanos?_inverse {rate : Binary64} (finite : rate.bits.toNat < infiniteBits)
    (positive : 0 < atBits rate.bits.toNat) :
    ∃ c, Nearest (1 / atBits rate.bits.toNat) c ∧
      (infiniteBits ≤ c ∧ nanos? rate.inverse = none ∨
        c < infiniteBits ∧ ∃ k, nanos? rate.inverse = some k ∧
          RoundsTo (atBits c * nanosPerSecond) k) := by
  obtain ⟨m, e, value, same⟩ := value_of_lt finite
  rw [← same] at positive
  have mantissa : m ≠ 0 := by
    rintro rfl
    simp at positive
  have den := ratio_pos m e
  have quotient := ratio_eq m e
  rw [← quotient] at positive
  have num : 0 < (ratio m e).1 := by
    rcases Nat.eq_zero_or_pos (ratio m e).1 with zero | num
    · simp [zero] at positive
    · exact num
  have inverse : rate.inverse = ofRatio false (ratio m e).2 (ratio m e).1 := by
    rw [Binary64.inverse, value]
    exact if_neg mantissa
  obtain ⟨c, nearest, made⟩ := ofRatio_nearest den num
  refine ⟨c, ?_, ?_⟩
  · rwa [← same, ← quotient, one_div_div]
  · rw [inverse, made]
    rcases Nat.lt_or_ge c infiniteBits with below | beyond
    · right
      rw [Nat.min_eq_left below.le]
      have bits := toNat_ofMagnitude below.le
      obtain ⟨m', e', value', same'⟩ := value_of_lt (bits.trans_lt below)
      refine ⟨below, roundDiv ((ratio m' e').1 * nanosPerSecond) (ratio m' e').2, ?_, ?_⟩
      · rw [nanos?, value']
      · have rounds := roundsTo_roundDiv ((ratio m' e').1 * nanosPerSecond) (ratio_pos m' e')
        rwa [Nat.cast_mul, mul_div_right_comm, ratio_eq, same', bits] at rounds
    · left
      rw [Nat.min_eq_right beyond]
      exact ⟨beyond, rfl⟩

/-- A faster rate has no longer period. -/
theorem nanos?_antitone {rate faster : Binary64} (finite : faster.bits.toNat < infiniteBits)
    (positive : 0 < atBits rate.bits.toNat) (less : rate.bits.toNat ≤ faster.bits.toNat) {k : ℕ}
    (period : nanos? rate.inverse = some k) : ∃ k', nanos? faster.inverse = some k' ∧ k' ≤ k := by
  have more := atBits_strictMono.monotone less
  obtain ⟨c, nearest, found⟩ := nanos?_inverse (less.trans_lt finite) positive
  obtain ⟨c', nearest', found'⟩ := nanos?_inverse finite (positive.trans_le more)
  have smaller := nearest'.mono nearest (one_div_le_one_div_of_le positive more)
  rcases found with ⟨-, none⟩ | ⟨below, k₁, some₁, rounds⟩
  · rw [none] at period
    cases period
  · rw [some₁] at period
    cases period
    rcases found' with ⟨beyond, -⟩ | ⟨-, k', some', rounds'⟩
    · omega
    · refine ⟨k', some', rounds'.mono rounds ?_⟩
      have := atBits_strictMono.monotone smaller
      gcongr

/-- A rate that is finite, at most two requests in a nanosecond, and more than one in 2 ^ 64
nanoseconds. -/
structure IsEnforceable (rate : Binary64) : Prop where
  finite : rate.isFinite = true
  slowest : (10 ^ 9 / 2 ^ 64 : ℚ) < rate.rational
  fastest : rate.rational ≤ 2 * 10 ^ 9

/-- Two requests in a nanosecond: their distance still rounds to a whole nanosecond. -/
def fastest : Binary64 := ⟨0x41ddcd6500000000⟩

/-- The rate that follows on the fastest one. -/
def faster : Binary64 := ⟨0x41ddcd6500000001⟩

/-- A little more than one request in the time that the clock reaches. -/
def slowest : Binary64 := ⟨0x3dcdcd6500000001⟩

/-- The rate before the slowest one: one request in exactly that time. -/
def slower : Binary64 := ⟨0x3dcdcd6500000000⟩

def once : Binary64 := ⟨0x3ff0000000000000⟩

theorem atBits_fastest : atBits fastest.bits.toNat = 2 * 10 ^ 9 := by
  change atBits 0x41ddcd6500000000 = 2 * 10 ^ 9
  norm_num [atBits, fractionBound]

theorem atBits_slower : atBits slower.bits.toNat = 10 ^ 9 / 2 ^ 64 := by
  change atBits 0x3dcdcd6500000000 = 10 ^ 9 / 2 ^ 64
  norm_num [atBits, fractionBound]

theorem atBits_once : atBits once.bits.toNat = 1 := by
  change atBits 0x3ff0000000000000 = 1
  norm_num [atBits, fractionBound]

theorem nanos?_fastest : nanos? fastest.inverse = some 1 := by decide +kernel

theorem nanos?_faster : nanos? faster.inverse = some 0 := by decide +kernel

theorem nanos?_slowest : nanos? slowest.inverse = some 18446744073709548950 := by decide +kernel

theorem nanos?_slower : nanos? slower.inverse = some 18446744073709552765 := by decide +kernel

theorem nanos?_once : nanos? once.inverse = some 1000000000 := by decide +kernel

variable {rate : Binary64}

theorem atBits_pos_of_le (above : slower.bits.toNat ≤ rate.bits.toNat) :
    0 < atBits rate.bits.toNat := by
  have least : 0 < atBits slower.bits.toNat := by
    rw [atBits_slower]
    norm_num
  exact least.trans_le (atBits_strictMono.monotone above)

/-- The number of requests that a rate lets in at once. -/
def burstOf (rate : Binary64) : ℕ := max 1 (min greatestBurst (rate.ceil?.getD 1))

theorem burstOf_pos (rate : Binary64) : 0 < burstOf rate :=
  Nat.one_pos.trans_le (le_max_left _ _)

theorem Quota.ofRate_of_none (positive : rate.isPositive = true) (finite : rate.isFinite = true)
    (endless : nanos? rate.inverse = none) : Quota.ofRate rate = .error .tooSlow := by
  simp [Quota.ofRate, positive, finite, endless]

theorem Quota.ofRate_of_some (positive : rate.isPositive = true) (finite : rate.isFinite = true)
    {k : ℕ} (period : nanos? rate.inverse = some k) : Quota.ofRate rate =
      if k = 0 then .error .tooFast
      else if clockBound ≤ k * burstOf rate then .error .tooSlow
      else .ok ⟨k, burstOf rate⟩ := by
  rw [Quota.ofRate, positive, finite, period]
  rfl

/-- A rate of at most one request per second is one request at once. -/
theorem ceil?_le_one (finite : rate.bits.toNat < infiniteBits)
    (slow : atBits rate.bits.toNat ≤ 1) : rate.ceil?.getD 1 ≤ 1 := by
  obtain ⟨m, e, value, same⟩ := value_of_lt finite
  have den := ratio_pos m e
  have den' : (0 : ℚ) < (ratio m e).2 := by exact_mod_cast den
  rw [← same, ← ratio_eq, div_le_one den'] at slow
  have less : (ratio m e).1 ≤ (ratio m e).2 := by exact_mod_cast slow
  rw [ceil?, value]
  change ((ratio m e).1 + (ratio m e).2 - 1) / (ratio m e).2 ≤ 1
  generalize (ratio m e).1 = n at less
  generalize (ratio m e).2 = d at den less
  exact Nat.le_of_lt_succ ((Nat.div_lt_iff_lt_mul den).mpr (by omega))

/-- The time in which a whole burst is earned is on the clock. -/
theorem burst_in_time (finite : rate.bits.toNat < infiniteBits)
    (above : slowest.bits.toNat ≤ rate.bits.toNat) {k : ℕ} (period : nanos? rate.inverse = some k) :
    k * burstOf rate < clockBound := by
  have shorter : ∀ {other : Binary64} {k'}, slower.bits.toNat ≤ other.bits.toNat →
      other.bits.toNat ≤ rate.bits.toNat → nanos? other.inverse = some k' → k ≤ k' := by
    intro other k' least less found
    obtain ⟨k₁, found₁, most⟩ := nanos?_antitone finite (atBits_pos_of_le least) less found
    rw [period] at found₁
    cases found₁
    exact most
  rcases Nat.lt_or_ge once.bits.toNat rate.bits.toNat with fast | slow
  · have most : burstOf rate ≤ greatestBurst :=
      max_le (by decide) (min_le_left _ _)
    have second := shorter (by decide) fast.le nanos?_once
    exact (Nat.mul_le_mul second most).trans_lt (by decide)
  · have single := ceil?_le_one finite (atBits_once ▸ atBits_strictMono.monotone slow)
    have burst : burstOf rate = 1 := by
      rw [burstOf]
      omega
    have century := shorter (by decide) above nanos?_slowest
    rw [burst, Nat.mul_one]
    exact century.trans_lt (by decide)

theorem Quota.ofRate_of_fast (positive : rate.isPositive = true) (finite : rate.isFinite = true)
    (below : rate.bits.toNat < infiniteBits) (fast : fastest.bits.toNat < rate.bits.toNat) :
    Quota.ofRate rate = .error .tooFast := by
  have next : faster.bits.toNat ≤ rate.bits.toNat := fast
  obtain ⟨k, period, none⟩ :=
    nanos?_antitone below (atBits_pos_of_le (by decide)) next nanos?_faster
  rw [Quota.ofRate_of_some positive finite period, if_pos (Nat.le_zero.mp none)]

theorem Quota.ofRate_of_between (positive : rate.isPositive = true) (finite : rate.isFinite = true)
    (below : rate.bits.toNat < infiniteBits) (inTime : rate.bits.toNat ≤ fastest.bits.toNat)
    (onClock : slower.bits.toNat < rate.bits.toNat) : ∃ quota, Quota.ofRate rate = .ok quota := by
  have next : slowest.bits.toNat ≤ rate.bits.toNat := onClock
  obtain ⟨k, period, -⟩ :=
    nanos?_antitone below (atBits_pos_of_le (by decide)) next nanos?_slowest
  obtain ⟨k', found, least⟩ :=
    nanos?_antitone (by decide) (atBits_pos_of_le onClock.le) inTime period
  rw [nanos?_fastest] at found
  cases found
  refine ⟨⟨k, burstOf rate⟩, ?_⟩
  rw [Quota.ofRate_of_some positive finite period, if_neg (Nat.pos_iff_ne_zero.mp least),
    if_neg (not_le.mpr (burst_in_time below next period))]

theorem Quota.ofRate_of_slow (positive : rate.isPositive = true) (finite : rate.isFinite = true)
    (above : 0 < atBits rate.bits.toNat) (slow : rate.bits.toNat ≤ slower.bits.toNat) :
    Quota.ofRate rate = .error .tooSlow := by
  cases period : nanos? rate.inverse with
  | none => exact Quota.ofRate_of_none positive finite period
  | some k =>
    obtain ⟨k', found, least⟩ := nanos?_antitone (by decide) above slow period
    rw [nanos?_slower] at found
    cases found
    have long : clockBound ≤ k * burstOf rate :=
      calc clockBound ≤ k := le_trans (by decide) least
        _ ≤ k * burstOf rate := Nat.le_mul_of_pos_right k (burstOf_pos rate)
    rw [Quota.ofRate_of_some positive finite period, if_neg (by omega), if_pos long]

/-- Exactly the enforceable rates have a quota; a rate that is not enforceable is infinite, too fast
or too slow. -/
theorem Quota.ofRate_cases (positive : rate.isPositive = true) :
    rate.isFinite = false ∧ Quota.ofRate rate = .error (.unusable rate) ∨
    rate.isFinite = true ∧ 2 * 10 ^ 9 < rate.rational ∧ Quota.ofRate rate = .error .tooFast ∨
    rate.isFinite = true ∧ rate.rational ≤ 10 ^ 9 / 2 ^ 64 ∧
      Quota.ofRate rate = .error .tooSlow ∨
    IsEnforceable rate ∧ ∃ quota, Quota.ofRate rate = .ok quota := by
  rcases isPositive_cases positive with ⟨finite, below, above⟩ | infinite
  · rw [rational_of_lt below, ← atBits_fastest, ← atBits_slower]
    rcases Nat.lt_or_ge fastest.bits.toNat rate.bits.toNat with fast | inTime
    · exact .inr (.inl ⟨finite, atBits_strictMono fast,
        Quota.ofRate_of_fast positive finite below fast⟩)
    · rcases Nat.lt_or_ge slower.bits.toNat rate.bits.toNat with onClock | slow
      · refine .inr (.inr (.inr ⟨⟨finite, ?_, ?_⟩,
          Quota.ofRate_of_between positive finite below inTime onClock⟩))
        · rw [rational_of_lt below, ← atBits_slower]
          exact atBits_strictMono onClock
        · rw [rational_of_lt below, ← atBits_fastest]
          exact atBits_strictMono.monotone inTime
      · exact .inr (.inr (.inl ⟨finite, atBits_strictMono.monotone slow,
          Quota.ofRate_of_slow positive finite above slow⟩))
  · exact .inl ⟨infinite, by simp [Quota.ofRate, positive, infinite]⟩

end RateLimit

end PlayerRegistry
