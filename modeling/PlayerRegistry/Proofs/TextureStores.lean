import PlayerRegistry.Proofs.Association
import PlayerRegistry.Texture.Store

/-!
# Texture stores as maps

A texture store stands for a map from kinds and hashes to bytes. Storing writes where nothing is,
removing takes out one key, and what is no content hash is never a key.
-/

namespace PlayerRegistry.Texture

/-- The bytes under each kind and hash. -/
abbrev Blobs := Kind × String → Option ByteArray

namespace Store

variable {t : Store} {kind : Kind} {hash : String}

def map (t : Store) : Blobs := fun key => t.get key.1 key.2

theorem map_empty : empty.map = fun _ => none := by
  funext ⟨kind, hash⟩
  simp [map, get, empty]

theorem map_of_invalid (invalid : isContentHash hash = false) : t.map (kind, hash) = none := by
  simp [map, get, invalid]

/-- Lists of blobs that differ at one key make maps that differ there. -/
theorem map_update {t' : Store} (valid : isContentHash hash = true) {value : Option ByteArray}
    (blobs : (fun key => t'.blobs.lookup key) =
      Function.update (fun key => t.blobs.lookup key) (kind, hash) value) :
    t'.map = Function.update t.map (kind, hash) value := by
  funext ⟨kind', hash'⟩
  by_cases valid' : isContentHash hash' = true
  · have entries := congrFun blobs (kind', hash')
    rw [Function.update_apply] at entries ⊢
    simpa only [map, get, valid', if_true] using entries
  · rw [Bool.not_eq_true] at valid'
    have other : (kind', hash') ≠ (kind, hash) := by
      rintro ⟨⟩
      simp [valid] at valid'
    rw [map_of_invalid valid', Function.update_of_ne other, map_of_invalid valid']

theorem put_of_present (valid : isContentHash hash = true) {bytes : ByteArray}
    (present : t.map (kind, hash) = some bytes) (bytes' : ByteArray) :
    t.put kind hash bytes' = (.ok (), t) := by
  have found : t.get kind hash = some bytes := present
  simp [put, valid, contains, found]

theorem map_put (valid : isContentHash hash = true) (missing : t.map (kind, hash) = none)
    (bytes : ByteArray) : (t.put kind hash bytes).1 = .ok () ∧
      (t.put kind hash bytes).2.map = Function.update t.map (kind, hash) (some bytes) := by
  have absent : t.get kind hash = none := missing
  have stored : t.put kind hash bytes = (.ok (), ⟨((kind, hash), bytes) :: t.blobs⟩) := by
    simp [put, valid, contains, absent]
  rw [stored]
  exact ⟨rfl, map_update valid (Association.lookup_cons _ _ _)⟩

theorem map_delete (valid : isContentHash hash = true) : (t.delete kind hash).1 = .ok () ∧
    (t.delete kind hash).2.map = Function.update t.map (kind, hash) none := by
  have removed : t.delete kind hash =
      (.ok (), ⟨t.blobs.filter fun b => b.1 ≠ (kind, hash)⟩) := by simp [delete, valid]
  rw [removed]
  exact ⟨rfl, map_update valid (Association.lookup_remove _ _)⟩

theorem contains_iff : t.contains kind hash = true ↔ t.map (kind, hash) ≠ none := by
  rw [contains, map, Option.isSome_iff_ne_none]

variable {kind' : Kind} {hash' : String}

theorem contains_put (valid : isContentHash hash = true) (bytes : ByteArray) :
    (t.put kind hash bytes).2.contains kind' hash' = true ↔
      (kind', hash') = (kind, hash) ∨ t.contains kind' hash' = true := by
  rw [contains_iff, contains_iff]
  cases stored : t.map (kind, hash) with
  | none =>
    rw [(map_put valid stored bytes).2, Function.update_apply]
    by_cases same : (kind', hash') = (kind, hash) <;> simp [same]
  | some old =>
    rw [put_of_present valid stored]
    by_cases same : (kind', hash') = (kind, hash) <;> simp [same, stored]

theorem contains_delete (valid : isContentHash hash = true) :
    (t.delete kind hash).2.contains kind' hash' = true ↔
      (kind', hash') ≠ (kind, hash) ∧ t.contains kind' hash' = true := by
  rw [contains_iff, contains_iff, (map_delete valid).2, Function.update_apply]
  by_cases same : (kind', hash') = (kind, hash) <;> simp [same]

end Store

end PlayerRegistry.Texture
