import Mathlib.Logic.Function.Basic

/-!
# Association lists as maps

Looking up in a list of pairs, after a pair was put in front and after all pairs of a key were
taken out; and finding each pair of a list in which no key comes twice.
-/

namespace PlayerRegistry.Association

variable {κ β : Type} [DecidableEq κ] [BEq κ] [LawfulBEq κ]

theorem lookup_cons (k : κ) (v : β) (entries : List (κ × β)) :
    (fun k' => ((k, v) :: entries).lookup k') =
      Function.update (fun k' => entries.lookup k') k (some v) := by
  funext k'
  rw [List.lookup_cons]
  by_cases here : k' = k
  · simp [here]
  · have other : (k' == k) = false := by simpa using here
    rw [other, Function.update_of_ne here]

theorem lookup_remove (entries : List (κ × β)) (k : κ) :
    (fun k' => (entries.filter fun e => e.1 ≠ k).lookup k') =
      Function.update (fun k' => entries.lookup k') k none := by
  induction entries with
  | nil => simp
  | cons e rest ih =>
    obtain ⟨own, v⟩ := e
    by_cases removed : own = k
    · rw [List.filter_cons_of_neg (by simpa using removed), ih, lookup_cons, removed,
        Function.update_idem]
    · rw [List.filter_cons_of_pos (by simpa using removed), lookup_cons, ih, lookup_cons,
        Function.update_comm removed]

theorem lookup_of_mem {entries : List (κ × β)} (distinct : (entries.map Prod.fst).Nodup)
    {e : κ × β} (entry : e ∈ entries) : entries.lookup e.1 = some e.2 := by
  induction entries with
  | nil => cases entry
  | cons first rest ih =>
    obtain ⟨new, distinct⟩ := List.nodup_cons.mp distinct
    rw [congrFun (lookup_cons first.1 first.2 rest) e.1]
    rcases List.mem_cons.mp entry with rfl | later
    · rw [Function.update_self]
    · have other : e.1 ≠ first.1 := fun same => new (same ▸ List.mem_map_of_mem later)
      rw [Function.update_of_ne other]
      exact ih distinct later

end PlayerRegistry.Association
