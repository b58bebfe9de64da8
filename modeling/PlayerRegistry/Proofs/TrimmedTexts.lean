import Mathlib.Data.List.TakeWhile
import PlayerRegistry.Proofs.SeparatedTexts
import PlayerRegistry.Text.Blank

/-!
# Trimmed texts

A text is what is left of it when it is trimmed, between two runs of white space, and what is left
neither begins nor ends with white space.
-/

namespace PlayerRegistry.Text

variable {before cs after : List Char}

theorem trim_eq_nil_iff (cs : List Char) : trim cs = [] ↔ ∀ c ∈ cs, isBlank c = true := by
  have start : trimStart cs = [] ↔ ∀ c ∈ cs, isBlank c = true := List.dropWhile_eq_nil_iff
  rw [← start, trim, trimEnd, List.reverse_eq_nil_iff, List.dropWhile_eq_nil_iff]
  constructor
  · intro blank
    rcases rest : trimStart cs with _ | ⟨c, cs'⟩
    · rfl
    · have stops : isBlank c = false := by
        have := List.head?_dropWhile_not isBlank cs
        unfold trimStart at rest
        simpa [rest] using this
      have goesOn := blank c (by simp [rest])
      rw [stops] at goesOn
      cases goesOn
  · intro empty
    simp [empty]

theorem trimEnd_append (blank : ∀ c ∈ after, isBlank c = true)
    (last : ∀ c ∈ cs.getLast?, isBlank c = false) : trimEnd (cs ++ after) = cs := by
  have order : (cs ++ after).reverse = after.reverse ++ cs.reverse := List.reverse_append
  have stop : (after.reverse ++ cs.reverse).dropWhile isBlank = cs.reverse :=
    dropWhile_append (fun c hc => blank c (List.mem_reverse.mp hc)) fun c hc =>
      last c (by rwa [List.head?_reverse] at hc)
  rw [trimEnd, order, stop, List.reverse_reverse]

theorem trim_append (blank : ∀ c ∈ before, isBlank c = true)
    (blank' : ∀ c ∈ after, isBlank c = true) (some' : cs ≠ [])
    (first : ∀ c ∈ cs.head?, isBlank c = false) (last : ∀ c ∈ cs.getLast?, isBlank c = false) :
    trim (before ++ cs ++ after) = cs := by
  have start : trimStart (before ++ cs ++ after) = cs ++ after := by
    rw [List.append_assoc]
    refine dropWhile_append blank fun c hc => first c ?_
    simpa [List.head?_append, List.head?_eq_some_head some'] using hc
  rw [trim, start, trimEnd_append blank' last]

theorem exists_blanks_after (cs : List Char) :
    ∃ after, cs = trimEnd cs ++ after ∧ ∀ c ∈ after, isBlank c = true := by
  refine ⟨(cs.reverse.takeWhile isBlank).reverse, ?_, fun c hc => ?_⟩
  · rw [trimEnd, ← List.reverse_append, List.takeWhile_append_dropWhile, List.reverse_reverse]
  · exact List.mem_takeWhile_imp (List.mem_reverse.mp hc)

theorem exists_blanks_around (cs : List Char) : ∃ before after, cs = before ++ trim cs ++ after ∧
    (∀ c ∈ before, isBlank c = true) ∧ ∀ c ∈ after, isBlank c = true := by
  obtain ⟨after, parts, blank'⟩ := exists_blanks_after (trimStart cs)
  refine ⟨cs.takeWhile isBlank, after, ?_, fun c hc => List.mem_takeWhile_imp hc, blank'⟩
  rw [List.append_assoc, trim, ← parts, trimStart, List.takeWhile_append_dropWhile]

theorem head_of_trim (cs : List Char) : ∀ c ∈ (trim cs).head?, isBlank c = false := by
  intro c hc
  obtain ⟨after, parts, -⟩ := exists_blanks_after (trimStart cs)
  have kept : (trimEnd (trimStart cs)).head? = some c := hc
  have first : (trimStart cs).head? = some c := by
    rw [parts, List.head?_append, kept, Option.some_or]
  have stops := List.head?_dropWhile_not isBlank cs
  rw [← trimStart, first] at stops
  simpa using stops

/-- Where no white space stands in front, only white space at the end is cut off. -/
theorem trim_of_head (first : ∀ c ∈ cs.head?, isBlank c = false) : trim cs = trimEnd cs := by
  rw [trim, trimStart, dropWhile_of_stops first]

end PlayerRegistry.Text
