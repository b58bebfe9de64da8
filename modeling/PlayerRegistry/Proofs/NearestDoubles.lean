import Mathlib.Algebra.Order.Field.Power
import Mathlib.Data.Rat.Cast.Order
import Mathlib.Order.Monotone.Basic
import Mathlib.Tactic.Linarith
import Mathlib.Tactic.Positivity
import Mathlib.Tactic.Push
import Mathlib.Tactic.Ring
import PlayerRegistry.Number.Binary64

/-!
# Nearest doubles

The double made of a quotient is the nearest one, of two equally near ones the even one. What is
rounded keeps its order, and doubles that are not negative are in the order of their bits.
-/

namespace PlayerRegistry

namespace Binary64

/-- `k` is the whole number nearest to `q`, of two equally near ones the even one. -/
structure RoundsTo (q : ℚ) (k : ℕ) : Prop where
  above : q ≤ k + 1 / 2
  below : k - 1 / 2 ≤ q
  even_of_above : q = k + 1 / 2 → k % 2 = 0
  even_of_below : q = k - 1 / 2 → k % 2 = 0

theorem RoundsTo.mono {q q' : ℚ} {k k' : ℕ} (h : RoundsTo q k) (h' : RoundsTo q' k')
    (less : q ≤ q') : k ≤ k' := by
  by_contra more
  push Not at more
  have above := h'.above
  have below := h.below
  have next : (k' : ℚ) + 1 ≤ k := by exact_mod_cast more
  -- The two can only be neighbours, with both quotients halfway in between.
  have same : (k : ℚ) = k' + 1 := by linarith
  have even := h.even_of_below (by linarith)
  have even' := h'.even_of_above (by linarith)
  have successor : k = k' + 1 := by exact_mod_cast same
  omega

theorem roundDiv_spec (n d : ℕ) (positive : 0 < d) :
    2 * n ≤ 2 * (roundDiv n d * d) + d ∧ 2 * (roundDiv n d * d) ≤ 2 * n + d ∧
    (2 * n = 2 * (roundDiv n d * d) + d → roundDiv n d % 2 = 0) ∧
    (2 * (roundDiv n d * d) = 2 * n + d → roundDiv n d % 2 = 0) := by
  have whole := Nat.div_add_mod n d
  have rest := Nat.mod_lt n positive
  rw [Nat.mul_comm] at whole
  have next : (n / d + 1) * d = n / d * d + d := by ring
  rw [roundDiv]
  split
  · omega
  · split
    · rw [next]
      omega
    · rcases Nat.mod_two_eq_zero_or_one (n / d) with even | odd
      · rw [even, Nat.add_zero]
        omega
      · rw [odd, next]
        omega

theorem roundsTo_roundDiv (n : ℕ) {d : ℕ} (positive : 0 < d) : RoundsTo (n / d) (roundDiv n d) := by
  obtain ⟨above, below, tieAbove, tieBelow⟩ := roundDiv_spec n d positive
  have den : (0 : ℚ) < d := by exact_mod_cast positive
  have above' : (2 : ℚ) * n ≤ 2 * (roundDiv n d * d) + d := by exact_mod_cast above
  have below' : (2 : ℚ) * (roundDiv n d * d) ≤ 2 * n + d := by exact_mod_cast below
  refine ⟨?_, ?_, fun tie => tieAbove ?_, fun tie => tieBelow ?_⟩
  · rw [div_le_iff₀ den]
    linarith
  · rw [le_div_iff₀ den]
    linarith
  · rw [div_eq_iff den.ne'] at tie
    have : (2 : ℚ) * n = 2 * (roundDiv n d * d) + d := by linarith
    exact_mod_cast this
  · rw [div_eq_iff den.ne'] at tie
    have : (2 : ℚ) * (roundDiv n d * d) = 2 * n + d := by linarith
    exact_mod_cast this

theorem two_pow_pos (e : ℤ) : (0 : ℚ) < 2 ^ e := zpow_pos two_pos e

theorem cast_shiftLeft (n k : ℕ) : ((n <<< k : ℕ) : ℚ) = n * 2 ^ k := by
  rw [Nat.shiftLeft_eq]
  push_cast
  rfl

theorem ratio_pos (mantissa : ℕ) (e : ℤ) : 0 < (ratio mantissa e).2 := by
  rw [ratio]
  split
  · exact Nat.one_pos
  · exact Nat.pos_of_ne_zero (by simp [Nat.shiftLeft_eq])

theorem ratio_eq (mantissa : ℕ) (e : ℤ) :
    ((ratio mantissa e).1 : ℚ) / (ratio mantissa e).2 = mantissa * 2 ^ e := by
  rw [ratio]
  split
  · rename_i natural
    obtain ⟨k, rfl⟩ := Int.eq_ofNat_of_zero_le natural
    simp [cast_shiftLeft]
  · rename_i negative
    obtain ⟨k, rfl⟩ : ∃ k : ℕ, e = -k := ⟨e.natAbs, by omega⟩
    simp [cast_shiftLeft, div_eq_mul_inv]

theorem scale_pos (n : ℕ) {d : ℕ} (positive : 0 < d) (e : ℤ) : 0 < (scale n d e).2 := by
  rw [scale]
  split
  · exact Nat.pos_of_ne_zero (by simp [Nat.shiftLeft_eq, positive.ne'])
  · exact positive

theorem scale_eq (n d : ℕ) (e : ℤ) :
    ((scale n d e).1 : ℚ) / (scale n d e).2 = n / d / 2 ^ e := by
  rw [scale]
  split
  · rename_i natural
    obtain ⟨k, rfl⟩ := Int.eq_ofNat_of_zero_le natural
    simp [cast_shiftLeft, div_div]
  · rename_i negative
    obtain ⟨k, rfl⟩ : ∃ k : ℕ, e = -k := ⟨e.natAbs, by omega⟩
    simp [cast_shiftLeft]
    ring

/-- The mantissa of `q` has 53 binary digits with this exponent, or fewer if it is the least. -/
structure Spans (q : ℚ) (e : ℤ) : Prop where
  least : leastExponent ≤ e
  above : q < 2 ^ (e + 53)
  below : leastExponent < e → 2 ^ (e + 52) ≤ q

theorem Spans.mono {q q' : ℚ} {e e' : ℤ} (h : Spans q e) (h' : Spans q' e') (less : q ≤ q') :
    e ≤ e' := by
  by_contra more
  push Not at more
  have below := h.below (lt_of_le_of_lt h'.least more)
  have above := h'.above
  have apart : (2 : ℚ) ^ (e' + 53) ≤ 2 ^ (e + 52) := zpow_le_zpow_right₀ one_le_two (by omega)
  linarith

theorem log2_bounds {n : ℕ} (positive : 0 < n) :
    (2 : ℚ) ^ (n.log2 : ℤ) ≤ n ∧ (n : ℚ) < 2 ^ ((n.log2 : ℤ) + 1) := by
  constructor
  · rw [zpow_natCast]
    exact_mod_cast Nat.log2_self_le positive.ne'
  · have above := Nat.lt_log2_self (n := n)
    have : ((n.log2 : ℤ) + 1) = ((n.log2 + 1 : ℕ) : ℤ) := by push_cast; rfl
    rw [this, zpow_natCast]
    exact_mod_cast above

theorem Spans.of_bounds {q : ℚ} {e : ℤ} (below : 2 ^ (e + 52) ≤ q) (above : q < 2 ^ (e + 53)) :
    Spans q (max e leastExponent) := by
  refine ⟨le_max_right _ _, above.trans_le ?_, fun more => ?_⟩
  · have := le_max_left e leastExponent
    exact zpow_le_zpow_right₀ one_le_two (by omega)
  · rwa [max_eq_left (by omega)]

theorem scale_lt_iff (n : ℕ) {d : ℕ} (den : 0 < d) (e : ℤ) :
    (scale n d e).1 / (scale n d e).2 < 2 * fractionBound ↔ (n : ℚ) / d < 2 ^ (e + 53) := by
  have positive : (0 : ℚ) < (scale n d e).2 := by exact_mod_cast scale_pos n den e
  have bound : ((2 * fractionBound : ℕ) : ℚ) = 2 ^ (53 : ℤ) := by norm_num [fractionBound]
  rw [Nat.div_lt_iff_lt_mul (scale_pos n den e), zpow_add₀ two_ne_zero,
    mul_comm ((2 : ℚ) ^ e), ← bound,
    ← div_lt_iff₀ (two_pow_pos e), ← scale_eq, div_lt_iff₀ positive]
  exact_mod_cast Iff.rfl

theorem spans_exponentOf {n d : ℕ} (num : 0 < n) (den : 0 < d) :
    Spans (n / d) (exponentOf n d) := by
  obtain ⟨numBelow, numAbove⟩ := log2_bounds num
  obtain ⟨denBelow, denAbove⟩ := log2_bounds den
  have den' : (0 : ℚ) < d := by exact_mod_cast den
  set e : ℤ := (n.log2 : ℤ) - d.log2 - 53 with he
  have below : (2 : ℚ) ^ (e + 52) ≤ n / d := by
    rw [le_div_iff₀ den']
    calc (2 : ℚ) ^ (e + 52) * d ≤ 2 ^ (e + 52) * 2 ^ ((d.log2 : ℤ) + 1) := by gcongr
      _ = 2 ^ (n.log2 : ℤ) := by
        rw [← zpow_add₀ two_ne_zero]
        congr 1
        omega
      _ ≤ n := numBelow
  have above : (n : ℚ) / d < 2 ^ (e + 54) := by
    rw [div_lt_iff₀ den']
    calc (n : ℚ) < 2 ^ ((n.log2 : ℤ) + 1) := numAbove
      _ = 2 ^ (e + 54) * 2 ^ (d.log2 : ℤ) := by
        rw [← zpow_add₀ two_ne_zero]
        congr 1
        omega
      _ ≤ 2 ^ (e + 54) * d := by gcongr
  have chosen : exponentOf n d =
      max (if (n : ℚ) / d < 2 ^ (e + 53) then e else e + 1) leastExponent := by
    rw [exponentOf]
    simp only [← he, scale_lt_iff n den]
  rw [chosen]
  split
  · rename_i narrow
    exact .of_bounds below narrow
  · rename_i wide
    refine .of_bounds ?_ ?_
    · rw [show e + 1 + 52 = e + 53 by omega]
      exact not_lt.mp wide
    · rwa [show e + 1 + 53 = e + 54 by omega]

/-- `b` are the bits of the double nearest to `q`, or more than those of infinity if it is too great
for one. -/
def Nearest (q : ℚ) (b : ℕ) : Prop :=
  ∃ e k, Spans q e ∧ RoundsTo (q / 2 ^ e) k ∧ b = (e - leastExponent).toNat * fractionBound + k

theorem roundsTo_natCast (k : ℕ) : RoundsTo k k :=
  ⟨by linarith, by linarith, fun tie => by linarith, fun tie => by linarith⟩

theorem Nearest.mono {q q' : ℚ} {b b' : ℕ} (h : Nearest q b) (h' : Nearest q' b') (less : q ≤ q') :
    b ≤ b' := by
  obtain ⟨e, k, spans, rounds, rfl⟩ := h
  obtain ⟨e', k', spans', rounds', rfl⟩ := h'
  rcases (spans.mono spans' less).eq_or_lt with rfl | apart
  · have := rounds.mono rounds' (div_le_div_of_nonneg_right less (two_pow_pos e).le)
    omega
  · -- The greatest mantissa of one exponent is the least of the next.
    have most : k ≤ 2 * fractionBound := by
      refine rounds.mono (roundsTo_natCast _) ?_
      have above := spans.above
      rw [zpow_add₀ two_ne_zero] at above
      rw [div_le_iff₀ (two_pow_pos e)]
      norm_num [fractionBound] at above ⊢
      linarith
    have least : fractionBound ≤ k' := by
      refine (roundsTo_natCast _).mono rounds' ?_
      have below := spans'.below (spans.least.trans_lt apart)
      rw [zpow_add₀ two_ne_zero] at below
      rw [le_div_iff₀ (two_pow_pos e')]
      norm_num [fractionBound] at below ⊢
      linarith
    have first := spans.least
    have steps : ((e - leastExponent).toNat + 1) * fractionBound ≤
        (e' - leastExponent).toNat * fractionBound := Nat.mul_le_mul_right _ (by omega)
    rw [Nat.succ_mul] at steps
    omega

theorem ofRatio_nearest {n d : ℕ} (num : 0 < n) (den : 0 < d) :
    ∃ b, Nearest (n / d) b ∧ ofRatio false n d = ofMagnitude false (min b infiniteBits) := by
  have rounds := roundsTo_roundDiv (scale n d (exponentOf n d)).1
    (scale_pos n den (exponentOf n d))
  rw [scale_eq] at rounds
  refine ⟨_, ⟨exponentOf n d, _, spans_exponentOf num den, rounds, rfl⟩, ?_⟩
  rw [ofRatio, if_neg num.ne']

/-- What the double with these bits stands for, if they are below those of infinity. -/
def atBits (b : ℕ) : ℚ :=
  if b < fractionBound then b * 2 ^ leastExponent
  else (fractionBound + b % fractionBound : ℕ) * 2 ^ ((b / fractionBound : ℕ) - 1075 : ℤ)

theorem atBits_of_lt {b : ℕ} (small : b < fractionBound) : atBits b = b * 2 ^ leastExponent :=
  if_pos small

theorem atBits_add {k r : ℕ} (small : r < fractionBound) :
    atBits ((k + 1) * fractionBound + r) =
      (fractionBound + r : ℕ) * 2 ^ (k + leastExponent : ℤ) := by
  have place : ((k + 1) * fractionBound + r) / fractionBound = k + 1 := by
    simp only [fractionBound] at small ⊢
    omega
  have fraction : ((k + 1) * fractionBound + r) % fractionBound = r := by
    simp only [fractionBound] at small ⊢
    omega
  have exponent : ((k + 1 : ℕ) : ℤ) - 1075 = k + leastExponent := by
    simp only [leastExponent]
    omega
  rw [atBits, if_neg, place, fraction, exponent]
  simp only [fractionBound]
  omega

/-- With a full fraction, one more bit makes the next exponent. -/
theorem atBits_lt_succ (b : ℕ) : atBits b < atBits (b + 1) := by
  have positive : 0 < fractionBound := by decide
  have rest := Nat.mod_lt b positive
  have whole : b / fractionBound * fractionBound + b % fractionBound = b := by
    rw [Nat.mul_comm]
    exact Nat.div_add_mod b fractionBound
  generalize b / fractionBound = place at whole
  generalize b % fractionBound = r at rest whole
  subst whole
  rcases place with _ | k
  · rw [Nat.zero_mul, Nat.zero_add, atBits_of_lt rest]
    rcases Nat.lt_or_eq_of_le (Nat.succ_le_of_lt rest) with more | full
    · rw [atBits_of_lt more]
      have := two_pow_pos leastExponent
      gcongr
      omega
    · have next : r + 1 = (0 + 1) * fractionBound + 0 := by omega
      rw [next, atBits_add positive, Nat.cast_zero, zero_add, Nat.add_zero]
      have := two_pow_pos leastExponent
      gcongr
  · rw [atBits_add rest]
    rcases Nat.lt_or_eq_of_le (Nat.succ_le_of_lt rest) with more | full
    · rw [Nat.add_assoc, atBits_add more]
      have := two_pow_pos (k + leastExponent)
      gcongr
      omega
    · have next : (k + 1) * fractionBound + r + 1 = (k + 1 + 1) * fractionBound + 0 := by
        rw [Nat.succ_mul (k + 1)]
        omega
      have double : (2 : ℚ) ^ ((k + 1 : ℕ) + leastExponent : ℤ) = 2 * 2 ^ (k + leastExponent) := by
        rw [← zpow_one_add₀ two_ne_zero]
        push_cast
        ring_nf
      have less : ((fractionBound + r : ℕ) : ℚ) < (2 * fractionBound : ℕ) := by
        exact_mod_cast (by omega : fractionBound + r < 2 * fractionBound)
      rw [next, atBits_add positive, double]
      calc ((fractionBound + r : ℕ) : ℚ) * 2 ^ (k + leastExponent)
          < (2 * fractionBound : ℕ) * 2 ^ (k + leastExponent) :=
            mul_lt_mul_of_pos_right less (two_pow_pos _)
        _ = (fractionBound + 0 : ℕ) * (2 * 2 ^ (k + leastExponent)) := by
            push_cast
            ring

theorem atBits_strictMono : StrictMono atBits := strictMono_nat_of_lt_succ atBits_lt_succ

theorem value_of_lt {x : Binary64} (finite : x.bits.toNat < infiniteBits) :
    ∃ mantissa exponent, x.value = .finite false mantissa exponent ∧
      mantissa * 2 ^ exponent = atBits x.bits.toNat := by
  have finite' : x.bits.toNat < 0x7ff0000000000000 := finite
  have positive : x.isNegative = false := by
    rw [isNegative, decide_eq_false_iff_not, UInt64.le_iff_toNat_le]
    exact not_le.mpr (finite'.trans (by decide))
  have place : x.bits.toNat / fractionBound % 2048 = x.bits.toNat / fractionBound := by
    simp only [fractionBound]
    omega
  have ordinary : x.bits.toNat / fractionBound ≠ 2047 := by
    simp only [fractionBound]
    omega
  rw [value]
  simp only [place, if_neg ordinary, positive]
  split
  · rename_i zero
    refine ⟨_, _, rfl, ?_⟩
    have small : x.bits.toNat < fractionBound := by
      simp only [fractionBound] at zero ⊢
      omega
    rw [atBits_of_lt small, Nat.mod_eq_of_lt small]
  · rename_i nonzero
    refine ⟨_, _, rfl, ?_⟩
    rw [atBits, if_neg]
    simp only [fractionBound] at nonzero ⊢
    omega

theorem toNat_ofMagnitude {b : ℕ} (bound : b ≤ infiniteBits) :
    (ofMagnitude false b).bits.toNat = b := by
  have small : b < UInt64.size := lt_of_le_of_lt bound (by decide)
  simp [ofMagnitude, UInt64.toNat_ofNat_of_lt' small]

/-- What a finite double stands for. -/
def Value.rational : Value → ℚ
  | .finite negative mantissa exponent => (if negative then -1 else 1) * (mantissa * 2 ^ exponent)
  | _ => 0

def rational (x : Binary64) : ℚ := x.value.rational

theorem rational_of_lt {x : Binary64} (finite : x.bits.toNat < infiniteBits) :
    x.rational = atBits x.bits.toNat := by
  obtain ⟨m, e, value, same⟩ := value_of_lt finite
  rw [rational, value, ← same, Value.rational]
  simp

/-- A finite number with as many bits as infinity is negative. -/
theorem isNegative_of_beyond {x : Binary64} (beyond : infiniteBits ≤ x.bits.toNat)
    (ordinary : x.bits.toNat / fractionBound % 2048 ≠ 2047) : x.isNegative = true := by
  have beyond' : 0x7ff0000000000000 ≤ x.bits.toNat := beyond
  have bound := x.bits.toNat_lt
  rw [isNegative, decide_eq_true_iff, UInt64.le_iff_toNat_le]
  change 0x8000000000000000 ≤ x.bits.toNat
  simp only [fractionBound] at ordinary
  omega

/-- A number greater than zero is finite, or it is infinite. -/
theorem isPositive_cases {x : Binary64} (positive : x.isPositive = true) :
    x.isFinite = true ∧ x.bits.toNat < infiniteBits ∧ 0 < atBits x.bits.toNat ∨
      x.isFinite = false := by
  rcases Nat.lt_or_ge x.bits.toNat infiniteBits with below | beyond
  · left
    obtain ⟨m, e, value, same⟩ := value_of_lt below
    rw [isPositive, value] at positive
    have mantissa : m ≠ 0 := by simpa using positive
    refine ⟨by rw [isFinite, value], below, ?_⟩
    rw [← same]
    have := two_pow_pos e
    positivity
  · right
    rw [isPositive, value] at positive
    rw [isFinite, value]
    by_cases special : x.bits.toNat / fractionBound % 2048 = 2047
    · by_cases zero : x.bits.toNat % fractionBound = 0 <;> simp [special, zero]
    · have negative := isNegative_of_beyond beyond special
      exfalso
      by_cases zero : x.bits.toNat / fractionBound % 2048 = 0
      · simp [zero, negative] at positive
      · simp [special, zero, negative] at positive

end Binary64

end PlayerRegistry
