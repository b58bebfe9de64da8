import PlayerRegistry.Proofs.AnonymousNames
import PlayerRegistry.Proofs.EnforceableRates
import PlayerRegistry.Proofs.Runs
import PlayerRegistry.Service

/-!
# Checked configurations that can be served

A service makes more of a configuration than its check does: it puts the pattern of anonymous
usernames between anchors, where the check only reads the pattern alone, and it makes a quota of
the rate, where the check only asks whether the rate is greater than zero. What has passed the
check is served exactly if the pattern can be put between anchors and the rate can be enforced.
-/

namespace PlayerRegistry

namespace Regex

/-- A pattern that can be put between anchors: no comment at its end swallows what follows it, and
the anchors make it neither too deep nor too big. -/
structure IsAnchorable (cs : List Char) : Prop where
  ends : compile? (cs ++ closing) = none
  shallow : ∃ a ∈ parse? cs, a.depth + 2 ≤ nestLimit
  small : ∃ p ∈ compile? cs, p.size + 3 * stateSize ≤ sizeLimit

theorem isAnchorable_iff {cs : List Char} {p : Pattern} (alone : compile? cs = some p) :
    IsAnchorable cs ↔
      ∃ q, compile? ('^' :: '(' :: '?' :: ':' :: (cs ++ closing)) = some q := by
  constructor
  · rintro ⟨ends, shallow, p', same, small⟩
    obtain rfl : p = p' := Option.some.inj (alone.symm.trans same)
    exact ⟨p.anchored, (compile?_anchored_iff alone _).mpr ⟨rfl, ends, shallow, small⟩⟩
  · rintro ⟨q, inside⟩
    obtain ⟨-, ends, shallow, small⟩ := (compile?_anchored_iff alone q).mp inside
    exact ⟨ends, shallow, p, alone, small⟩

end Regex

namespace Service

variable {c : Config}

theorem limiterOf_of_ok (enabled : c.rateLimit.enabled = true) {q : RateLimit.Quota}
    (made : RateLimit.Quota.ofRate c.rateLimit.requestsPerSecond = .ok q) :
    limiterOf c = .ok (some ⟨q, []⟩) := by
  rw [limiterOf, if_pos enabled, RateLimit.Limiter.ofRate, made]
  rfl

theorem limiterOf_of_error (enabled : c.rateLimit.enabled = true) {f : RateLimit.Fault}
    (faulty : RateLimit.Quota.ofRate c.rateLimit.requestsPerSecond = .error f) :
    limiterOf c = .error (.ofRate f) := by
  rw [limiterOf, if_pos enabled, RateLimit.Limiter.ofRate, faulty]
  rfl

section
variable {cost : Argon2.Cost} {key : SigningKey}

theorem assemble_of_error {e : Error} (refused : Policy.ofConfig c = .error e) :
    assemble c cost key = .error (.refused e) := by
  rw [assemble, refused]
  rfl

theorem assemble_of_ok {p : Policy} (policy : Policy.ofConfig c = .ok p) :
    assemble c cost key =
      (limiterOf c).map fun l => ⟨c, p, ⟨cost, c.minPasswordLength⟩, key, l⟩ := by
  rw [assemble, policy]
  cases limiterOf c <;> rfl

theorem exists_assemble_iff : (∃ s, assemble c cost key = .ok s) ↔
    (∃ p, Policy.ofConfig c = .ok p) ∧ ∃ l, limiterOf c = .ok l := by
  cases policy : Policy.ofConfig c with
  | error e => simp [assemble_of_error policy]
  | ok p =>
    rw [assemble_of_ok policy]
    cases limiterOf c <;> simp [Except.map]

/-- Only the limiter crashes. -/
theorem assemble_crash_iff : assemble c cost key = .error .crash ↔
    (∃ p, Policy.ofConfig c = .ok p) ∧ limiterOf c = .error .crash := by
  cases policy : Policy.ofConfig c with
  | error e => simp [assemble_of_error policy]
  | ok p =>
    rw [assemble_of_ok policy]
    cases limiterOf c <;> simp [Except.map]

end

end Service

namespace Config

variable {c : Config}

/-- Either nobody logs in without an account, or the pattern of their usernames can be put between
anchors. -/
def HasAnchorablePattern (c : Config) : Prop :=
  c.anonymousLogin.allow = true → Regex.IsAnchorable c.anonymousLogin.usernamePattern.toList

/-- Either requests are not limited, or the rate can be enforced. -/
def HasEnforceableRate (c : Config) : Prop :=
  c.rateLimit.enabled = true → RateLimit.IsEnforceable c.rateLimit.requestsPerSecond

/-- Requests are to come further apart than the clock reaches. -/
structure HasEndlessPeriod (c : Config) : Prop where
  enabled : c.rateLimit.enabled = true
  finite : c.rateLimit.requestsPerSecond.isFinite = true
  slow : c.rateLimit.requestsPerSecond.rational ≤ 10 ^ 9 / 2 ^ 64

theorem HasEndlessPeriod.not_enforceable (h : c.HasEndlessPeriod) : ¬c.HasEnforceableRate :=
  fun rate => not_le.mpr (rate h.enabled).slowest h.slow

namespace Checked

/-- A policy can be made of a checked configuration exactly if its pattern can be anchored. -/
theorem policy_iff (checked : c.Checked) :
    (∃ p, Policy.ofConfig c = .ok p) ↔ c.HasAnchorablePattern := by
  cases allowed : c.anonymousLogin.allow with
  | false => simp [HasAnchorablePattern, Policy.ofConfig, allowed]
  | true =>
    obtain ⟨alone, compiled⟩ := checked.pattern allowed
    have pattern : c.HasAnchorablePattern ↔
        Regex.IsAnchorable c.anonymousLogin.usernamePattern.toList := by
      simp [HasAnchorablePattern, allowed]
    rw [pattern, Regex.isAnchorable_iff compiled]
    constructor
    · rintro ⟨p, built⟩
      obtain ⟨inside, read, -⟩ := Policy.pattern_of_config built allowed
      exact ⟨inside, read⟩
    · rintro ⟨inside, read⟩
      have read' := Policy.readPattern_eq_ok_iff.mpr read
      refine ⟨⟨c, some inside⟩, ?_⟩
      rw [Policy.ofConfig, if_pos allowed]
      exact congrArg _ read'

/-- A limiter can be made exactly if the rate can be enforced; a period without end is a crash, and
any other fault is an error. -/
theorem limiter_cases (checked : c.Checked) :
    (c.HasEnforceableRate ∧ ∃ l, Service.limiterOf c = .ok l) ∨
    (¬c.HasEnforceableRate ∧ ¬c.HasEndlessPeriod ∧
      ∃ e, Service.limiterOf c = .error (.refused e)) ∨
    (c.HasEndlessPeriod ∧ Service.limiterOf c = .error .crash) := by
  cases enabled : c.rateLimit.enabled with
  | false =>
    exact .inl ⟨by simp [HasEnforceableRate, enabled], by simp [Service.limiterOf, enabled]⟩
  | true =>
    rcases RateLimit.Quota.ofRate_cases (checked.positiveRate enabled) with
      ⟨infinite, refused⟩ | ⟨finite, fast, refused⟩ | ⟨finite, slow, crashes⟩ | ⟨rate, quota, made⟩
    · have error := Service.limiterOf_of_error enabled refused
      refine .inr (.inl ⟨fun rate => ?_, fun slow => ?_, _, error⟩)
      · cases infinite.symm.trans (rate enabled).finite
      · cases infinite.symm.trans slow.finite
    · have error := Service.limiterOf_of_error enabled refused
      refine .inr (.inl ⟨fun rate => ?_, fun slow => ?_, _, error⟩)
      · exact not_le.mpr fast (rate enabled).fastest
      · have least := slow.slow
        linarith
    · exact .inr (.inr ⟨⟨enabled, finite, slow⟩, Service.limiterOf_of_error enabled crashes⟩)
    · exact .inl ⟨fun _ => rate, _, Service.limiterOf_of_ok enabled made⟩

theorem limiter_iff (checked : c.Checked) :
    (∃ l, Service.limiterOf c = .ok l) ↔ c.HasEnforceableRate := by
  rcases checked.limiter_cases with ⟨rate, made⟩ | ⟨other, -, e, refused⟩ | ⟨endless, crashes⟩
  · simp only [made, rate]
  · simp [refused, other]
  · simp [crashes, endless.not_enforceable]

theorem limiter_crash_iff (checked : c.Checked) :
    Service.limiterOf c = .error .crash ↔ c.HasEndlessPeriod := by
  rcases checked.limiter_cases with ⟨rate, l, made⟩ | ⟨-, bounded, e, refused⟩ | ⟨endless, crashes⟩
  · have bounded : ¬c.HasEndlessPeriod := fun endless => endless.not_enforceable rate
    simp [made, bounded]
  · simp [refused, bounded]
  · simp only [crashes, endless]

end Checked

/-- What is made of a checked configuration. The limit on bodies can always be read. A service is
set up exactly if the pattern of usernames can be put between anchors and the rate can be enforced;
with another pattern there is no policy, and with another rate no limiter. Setting up crashes if the
pattern is no obstacle and one request takes longer to be earned than the clock reaches. -/
theorem served_exactly (checked : c.check = .ok ()) (key : SigningKey) :
    (∃ limit, c.bodySizeLimit = .ok limit) ∧
    ((∃ p, Policy.ofConfig c = .ok p) ↔ c.HasAnchorablePattern) ∧
    ((∃ l, Service.limiterOf c = .ok l) ↔ c.HasEnforceableRate) ∧
    ((∃ s, Service.ofConfig c key = .ok s) ↔ c.HasAnchorablePattern ∧ c.HasEnforceableRate) ∧
    (Service.ofConfig c key = .error .crash ↔ c.HasAnchorablePattern ∧ c.HasEndlessPeriod) := by
  have sound := check_eq_ok_iff.mp checked
  have assembled : Service.ofConfig c key = Service.assemble c Credentials.defaultCost key := by
    rw [Service.ofConfig, checked]
    rfl
  rw [assembled, Service.exists_assemble_iff, Service.assemble_crash_iff, sound.policy_iff,
    sound.limiter_iff, sound.limiter_crash_iff]
  exact ⟨sound.bodySize, Iff.rfl, Iff.rfl, Iff.rfl, Iff.rfl⟩

/-- Anonymous players have names of small letters, and everybody may make ten requests a second. -/
def smallLetters : Config := { anonymousLogin := ⟨true, "[a-z]+", "welcome"⟩ }

theorem smallLetters_are_served :
    smallLetters.check = .ok () ∧ ∃ s, Service.ofConfig smallLetters Service.plain.key = .ok s := by
  have checked : smallLetters.check = .ok () := by decide +kernel
  have pattern : smallLetters.HasAnchorablePattern := fun _ =>
    { ends := by decide +kernel
      shallow := by decide +kernel
      small := by decide +kernel }
  have ten : smallLetters.rateLimit.requestsPerSecond.rational = 10 := by
    rw [Binary64.rational_of_lt (by decide)]
    change Binary64.atBits 0x4024000000000000 = 10
    norm_num [Binary64.atBits, Binary64.fractionBound]
  have rate : smallLetters.HasEnforceableRate := fun _ =>
    { finite := by decide
      slowest := by
        rw [ten]
        norm_num
      fastest := by
        rw [ten]
        norm_num }
  exact ⟨checked, (served_exactly checked Service.plain.key).2.2.2.1.mpr ⟨pattern, rate⟩⟩

/-- The comment at the end of the pattern goes on past the bracket that should end the group. -/
def commented : Config := { anonymousLogin := ⟨true, "(?x)[a-z]+ # names", "welcome"⟩ }

/-- Ten thousand million requests a second. -/
def rushed : Config := { rateLimit := ⟨true, ⟨0x4202a05f20000000⟩⟩ }

/-- One request in a hundred thousand million seconds. -/
def idle : Config := { rateLimit := ⟨true, ⟨0x3da5fd7fe1796495⟩⟩ }

theorem checked_but_not_served :
    (commented.check = .ok () ∧ Policy.ofConfig commented =
      .error (.config "Invalid anonymous login username regex: not a pattern")) ∧
    (rushed.check = .ok () ∧
      Service.limiterOf rushed = .error (.refused (.config "Rate limit period is zero"))) ∧
    (idle.check = .ok () ∧ Service.limiterOf idle = .error .crash) := by
  have unclosed :
      Regex.compile? (Policy.anchored commented.anonymousLogin.usernamePattern) = none := by
    decide +kernel
  have fast : RateLimit.Quota.ofRate rushed.rateLimit.requestsPerSecond = .error .tooFast := by
    decide +kernel
  have slow : RateLimit.Quota.ofRate idle.rateLimit.requestsPerSecond = .error .tooSlow := by
    decide +kernel
  refine ⟨⟨by decide +kernel, ?_⟩, ⟨by decide +kernel, ?_⟩, by decide +kernel, ?_⟩
  · rw [Policy.ofConfig, if_pos (by decide), Policy.readPattern, unclosed]
    rfl
  · exact Service.limiterOf_of_error (by decide) fast
  · exact Service.limiterOf_of_error (by decide) slow

end Config

end PlayerRegistry
