import PlayerRegistry.Config.Check
import PlayerRegistry.Proofs.AnchoredPattern
import PlayerRegistry.Proofs.UpdateChecks

/-!
# The names of anonymous players

What the check of a configuration makes sure of, the pattern of anonymous usernames among it. The
names that a policy lets in are those that the pattern matches from the first character to the last,
whatever the pattern does on its own.
-/

namespace PlayerRegistry

theorem Policy.readPattern_eq_ok_iff {text : List Char} {p : Regex.Pattern} :
    readPattern text = .ok p ↔ Regex.compile? text = some p := by
  rw [readPattern]
  cases Regex.compile? text <;> simp

namespace Config

/-- What the check of a configuration makes sure of. -/
structure Checked (c : Config) : Prop where
  named : c.instanceName ≠ ""
  positiveRate : c.rateLimit.enabled = true → c.rateLimit.requestsPerSecond.isPositive = true
  bodySize : ∃ limit, c.bodySizeLimit = .ok limit
  skinSize : c.skinSizeLimit ≠ 0
  pattern : c.anonymousLogin.allow = true →
    ∃ p, Regex.compile? c.anonymousLogin.usernamePattern.toList = some p

theorem check_eq_ok_iff {c : Config} : c.check = .ok () ↔ c.Checked := by
  constructor
  · intro checked
    rw [check] at checked
    obtain ⟨named, checked⟩ := ok_of_guard checked
    obtain ⟨positive, checked⟩ := ok_of_guard checked
    obtain ⟨limit, size, checked⟩ := ok_of_bind checked
    obtain ⟨skin, checked⟩ := ok_of_guard checked
    refine ⟨named, by simpa using positive, ⟨limit, size⟩, skin, fun allowed => ?_⟩
    rw [if_pos allowed] at checked
    obtain ⟨p, read, -⟩ := ok_of_bind checked
    exact ⟨p, Policy.readPattern_eq_ok_iff.mp read⟩
  · intro checked
    obtain ⟨limit, size⟩ := checked.bodySize
    have rate : ¬(c.rateLimit.enabled = true ∧
        c.rateLimit.requestsPerSecond.isPositive = false) := by
      rintro ⟨enabled, useless⟩
      rw [checked.positiveRate enabled] at useless
      cases useless
    cases allowed : c.anonymousLogin.allow with
    | false =>
      simp only [check, checked.named, ↓reduceIte, Bool.not_eq_eq_eq_not, Bool.not_true, rate,
        size, checked.skinSize, allowed, Bool.false_eq_true]
      rfl
    | true =>
      obtain ⟨p, compiled⟩ := checked.pattern allowed
      have read := Policy.readPattern_eq_ok_iff.mpr compiled
      simp only [check, checked.named, ↓reduceIte, Bool.not_eq_eq_eq_not, Bool.not_true, rate,
        size, checked.skinSize, allowed, read]
      rfl

end Config

namespace Policy

theorem pattern_of_config {c : Config} {p : Policy} (built : ofConfig c = .ok p)
    (allowed : c.anonymousLogin.allow = true) :
    ∃ inside, Regex.compile? (anchored c.anonymousLogin.usernamePattern) = some inside ∧
      p = ⟨c, some inside⟩ := by
  rw [ofConfig, if_pos allowed, readPattern] at built
  cases compiled : Regex.compile? (anchored c.anonymousLogin.usernamePattern) with
  | none => simp [compiled, Except.map] at built
  | some inside => exact ⟨inside, rfl, by simpa [compiled, Except.map] using built.symm⟩

theorem config_of_config {c : Config} {p : Policy} (built : ofConfig c = .ok p) : p.config = c := by
  cases allowed : c.anonymousLogin.allow with
  | false =>
    have made : ⟨c, none⟩ = p := by simpa [ofConfig, allowed] using built
    exact made ▸ rfl
  | true =>
    obtain ⟨_, -, rfl⟩ := pattern_of_config built allowed
    rfl

/-- What a policy looks for in a username is the pattern of the configuration between two anchors,
whatever the pattern is. -/
theorem pattern_of_checked {c : Config} {p : Policy} (checked : c.check = .ok ())
    (built : ofConfig c = .ok p) (allowed : c.anonymousLogin.allow = true) :
    ∃ alone, Regex.compile? c.anonymousLogin.usernamePattern.toList = some alone ∧
      alone.Ordered ∧ p = ⟨c, some alone.anchored⟩ := by
  obtain ⟨alone, compiled⟩ := (Config.check_eq_ok_iff.mp checked).pattern allowed
  obtain ⟨inside, read, rfl⟩ := pattern_of_config built allowed
  obtain rfl := Regex.compile?_anchored compiled read
  exact ⟨alone, compiled, Regex.compile?_ordered compiled, rfl⟩

/-- Where the configuration is usable, a name is let in exactly if anonymous players are welcome and
the pattern matches the whole of the name. -/
theorem canLoginAnonymously_iff {c : Config} {p : Policy} (checked : c.check = .ok ())
    (built : ofConfig c = .ok p) (username : String) :
    p.canLoginAnonymously username = true ↔ c.anonymousLogin.allow = true ∧
      ∃ pattern, Regex.compile? c.anonymousLogin.usernamePattern.toList = some pattern ∧
        Regex.Matches username.toList pattern 0 username.length := by
  cases allowed : c.anonymousLogin.allow with
  | false =>
    have none : p = ⟨c, none⟩ := by simpa [ofConfig, allowed] using built.symm
    simp [canLoginAnonymously, none]
  | true =>
    obtain ⟨alone, compiled, ordered, rfl⟩ := pattern_of_checked checked built allowed
    have whole := Regex.occursIn_anchored ordered username.toList
    rw [String.length_toList] at whole
    simpa [canLoginAnonymously, compiled] using whole

end Policy

end PlayerRegistry
