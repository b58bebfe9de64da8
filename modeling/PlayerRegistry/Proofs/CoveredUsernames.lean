import PlayerRegistry.Proofs.ServedConfigs

/-!
# Usernames that the pattern covers

The pattern of anonymous usernames stands in a group between two anchors. Nothing that it can hold
reaches past the group: not its alternatives, not the flags that it sets, not its own anchors, not a
comment. So a policy lets in the usernames that the pattern, taken on its own, can match from the
first character to the last, even where a search would stop at a shorter match.
-/

namespace PlayerRegistry.Policy

/-- A checked configuration with anonymous players has a pattern of its own, and a policy made of it
looks for just that pattern between the two ends of a text. So it lets in a username exactly if some
match of the pattern, be it the one that a search would find or not, goes from the start of the
username to its end. -/
theorem lets_in_covered_usernames {c : Config} {p : Policy} (checked : c.check = .ok ())
    (allowed : c.anonymousLogin.allow = true) (built : ofConfig c = .ok p) :
    ∃ pattern, Regex.compile? c.anonymousLogin.usernamePattern.toList = some pattern ∧
      p.anonymousUsername = some pattern.anchored ∧
      ∀ username, p.canLoginAnonymously username = pattern.covers username.toList ∧
        (p.canLoginAnonymously username = true ↔
          Regex.Matches username.toList pattern 0 username.length) := by
  obtain ⟨alone, compiled, ordered, rfl⟩ := pattern_of_checked checked built allowed
  refine ⟨alone, compiled, rfl, fun username => ?_⟩
  have whole : canLoginAnonymously ⟨c, some alone.anchored⟩ username = true ↔
      Regex.Matches username.toList alone 0 username.length := by
    rw [← String.length_toList]
    exact Regex.occursIn_anchored ordered _
  have covers := Regex.covers_iff ordered username.toList
  rw [String.length_toList] at covers
  exact ⟨Bool.eq_iff_iff.mpr (whole.trans covers.symm), whole⟩

/-- The first alternative is tried first, and matches every line on its own; the second one ends in
a comment. -/
def robots : Config :=
  { anonymousLogin := ⟨true, "(?m)^bot$|bot[0-9](?x: # numbered\n)", "welcome"⟩ }

theorem robots_are_let_in : robots.check = .ok () ∧ ∃ p, ofConfig robots = .ok p ∧
    p.canLoginAnonymously "bot" = true ∧ p.canLoginAnonymously "bot7" = true ∧
    p.canLoginAnonymously "bot\nbot7" = false ∧ p.canLoginAnonymously "robot7" = false := by
  have checked : robots.check = .ok () := by decide +kernel
  have usable : (ofConfig robots).isOk = true := by decide +kernel
  have covers : (Regex.compile? robots.anonymousLogin.usernamePattern.toList).map (fun pattern =>
      ["bot", "bot7", "bot\nbot7", "robot7"].map fun name => pattern.covers name.toList) =
      some [true, true, false, false] := by
    decide +kernel
  cases built : ofConfig robots with
  | error e => simp [built, Except.isOk, Except.toBool] at usable
  | ok p =>
    obtain ⟨pattern, compiled, -, lets⟩ := lets_in_covered_usernames checked rfl built
    simp only [compiled, Option.map_some, List.map_cons, List.map_nil, Option.some.injEq,
      List.cons.injEq] at covers
    obtain ⟨bot, bot7, lines, robot7, -⟩ := covers
    refine ⟨checked, p, rfl, ?_, ?_, ?_, ?_⟩
    · rw [(lets _).1, bot]
    · rw [(lets _).1, bot7]
    · rw [(lets _).1, lines]
    · rw [(lets _).1, robot7]

end PlayerRegistry.Policy
