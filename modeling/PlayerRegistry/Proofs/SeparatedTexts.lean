import Mathlib.Data.Bool.AllAny
import Mathlib.Data.List.TakeDrop
import Mathlib.Data.List.TakeWhile
import PlayerRegistry.Net.Address

/-!
# Texts with separators

The parts of a text between its separators, and texts that are put together of parts.
-/

namespace PlayerRegistry

variable {separator : Char} {part : List Char}

theorem splitAtChar_eq_splitOn (separator : Char) (cs : List Char) :
    splitAtChar separator cs = cs.splitOn separator := by
  induction cs with
  | nil => rw [splitAtChar, List.splitOn_nil]
  | cons c cs ih =>
    rw [splitAtChar, List.splitOn_cons_eq_if_modifyHead, ih]
    by_cases same : c = separator
    · rw [if_pos same, if_pos (by simpa using same)]
    · rw [if_neg same, if_neg (by simpa using same)]
      cases split : cs.splitOn separator with
      | nil => exact absurd split (List.splitOn_ne_nil separator cs)
      | cons part parts => rfl

theorem splitAtChar_of_not_mem (h : separator ∉ part) : splitAtChar separator part = [part] := by
  rw [splitAtChar_eq_splitOn, List.splitOn_eq_singleton h]

theorem splitAtChar_append_separator (before rest : List Char) :
    splitAtChar separator (before ++ separator :: rest) =
      splitAtChar separator before ++ splitAtChar separator rest := by
  simp only [splitAtChar_eq_splitOn, List.splitOn_append_cons_self]

theorem splitAtChar_append (h : separator ∉ part) (rest : List Char) :
    splitAtChar separator (part ++ separator :: rest) = part :: splitAtChar separator rest := by
  rw [splitAtChar_append_separator, splitAtChar_of_not_mem h, List.singleton_append]

theorem splitAtChar_intercalate {parts : List (List Char)} (free : ∀ p ∈ parts, separator ∉ p)
    (some : parts ≠ []) : splitAtChar separator (List.intercalate [separator] parts) = parts := by
  rw [splitAtChar_eq_splitOn, List.splitOn_intercalate separator free some]

theorem intercalate_splitAtChar (separator : Char) (cs : List Char) :
    List.intercalate [separator] (splitAtChar separator cs) = cs := by
  rw [splitAtChar_eq_splitOn, List.intercalate_splitOn]

theorem mem_intercalate {c : Char} {parts : List (List Char)}
    (h : c ∈ List.intercalate [separator] parts) : c = separator ∨ ∃ p ∈ parts, c ∈ p := by
  induction parts with
  | nil => simp at h
  | cons p parts ih =>
    cases parts with
    | nil => exact .inr ⟨p, by simp, by simpa using h⟩
    | cons q parts =>
      rw [List.intercalate_cons_cons, List.append_assoc, List.mem_append, List.singleton_append,
        List.mem_cons] at h
      rcases h with here | rfl | later
      · exact .inr ⟨p, by simp, here⟩
      · exact .inl rfl
      · rcases ih later with rfl | ⟨r, hr, hc⟩
        · exact .inl rfl
        · exact .inr ⟨r, List.mem_cons_of_mem _ hr, hc⟩

theorem mem_intercalate_of_mem {c : Char} {parts : List (List Char)} (hp : part ∈ parts)
    (hc : c ∈ part) : c ∈ List.intercalate [separator] parts := by
  induction parts with
  | nil => cases hp
  | cons p parts ih =>
    cases parts with
    | nil => simpa [List.mem_singleton.mp hp] using hc
    | cons q parts =>
      rw [List.intercalate_cons_cons, List.append_assoc, List.mem_append]
      rcases List.mem_cons.mp hp with rfl | later
      · exact .inl hc
      · exact .inr (List.mem_cons_of_mem _ (ih later))

theorem mem_of_mem_splitAtChar {c : Char} {cs : List Char} (hp : part ∈ splitAtChar separator cs)
    (hc : c ∈ part) : c ∈ cs := by
  rw [← intercalate_splitAtChar separator cs]
  exact mem_intercalate_of_mem hp hc

theorem map_intercalate (f : Char → Char) (parts : List (List Char)) :
    (List.intercalate [separator] parts).map f =
      List.intercalate [f separator] (parts.map (List.map f)) := by
  induction parts with
  | nil => rfl
  | cons p parts ih =>
    cases parts with
    | nil => simp
    | cons q parts =>
      rw [List.map_cons, List.map_cons, List.intercalate_cons_cons, List.intercalate_cons_cons,
        List.map_append, List.map_append, ih, List.map_singleton, List.map_cons]

section
variable {α : Type} {goesOn : α → Bool} {before after : List α}

theorem dropWhile_of_stops (stops : ∀ x ∈ after.head?, goesOn x = false) :
    after.dropWhile goesOn = after := by
  cases after with
  | nil => rfl
  | cons x after => exact List.dropWhile_cons_of_neg (by simp [stops x rfl])

theorem dropWhile_append (all : ∀ x ∈ before, goesOn x = true)
    (stops : ∀ x ∈ after.head?, goesOn x = false) :
    (before ++ after).dropWhile goesOn = after := by
  rw [List.dropWhile_append_of_pos all, dropWhile_of_stops stops]

theorem span_append (all : ∀ x ∈ before, goesOn x = true)
    (stops : ∀ x ∈ after.head?, goesOn x = false) :
    (before ++ after).span goesOn = (before, after) := by
  rw [List.span_eq_takeWhile_dropWhile, dropWhile_append all stops,
    List.takeWhile_append_of_pos all]
  cases after with
  | nil => simp
  | cons x after => simp [stops x rfl]

theorem span_append_cons (all : ∀ x ∈ before, goesOn x = true) {next : α}
    (stops : goesOn next = false) (rest : List α) :
    (before ++ next :: rest).span goesOn = (before, next :: rest) :=
  span_append all (by simpa using stops)

theorem span_of_all (all : ∀ x ∈ before, goesOn x = true) : before.span goesOn = (before, []) := by
  have none : ∀ x ∈ ([] : List α).head?, goesOn x = false := nofun
  simpa only [List.append_nil] using span_append all none

end

end PlayerRegistry
