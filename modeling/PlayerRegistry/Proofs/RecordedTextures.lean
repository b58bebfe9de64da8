import PlayerRegistry.Proofs.LoginDecision
import PlayerRegistry.Proofs.TextureSteps

/-!
# The textures that accounts record

The hash that an account records for a texture is one that a texture can have, so that nothing but
the store itself can keep a deletion from removing it.
-/

namespace PlayerRegistry

open Texture (Kind)

/-- What the account records as textures can be that. -/
def Account.HasContentHashes (a : Account) : Prop :=
  ∀ kind hash, a.profile.textureHash kind = some hash → Texture.isContentHash hash = true

/-- A new texture of a profile is that of an image; without one, the old one stays. -/
theorem Scene.Updates.texture {s : Scene} {a b : Account} {q : UpdateRequest}
    (updates : s.Updates a q b) (kind : Kind) :
    (∃ source image, q.source kind = some source ∧ source.image s kind = .ok image ∧
      b.profile.textureHash kind = some image.contentHash) ∨
    (q.source kind = none ∧ b.profile.textureHash kind = a.profile.textureHash kind) := by
  cases kind with
  | skin =>
    by_cases sets : q.Sets .skin
    · exact .inl (updates.granted .skin sets)
    · have leaves : q.skin = none := by simpa [UpdateRequest.Sets] using sets
      exact .inr ⟨leaves, updates.kept .skin sets⟩
  | cape =>
    by_cases sets : q.Sets .cape
    · exact .inl (updates.granted .cape sets)
    · have leaves : q.cape = none := by simpa [UpdateRequest.Sets] using sets
      exact .inr ⟨leaves, updates.kept .cape sets⟩

theorem Operation.Issues.keeps_hashes {s : Scene} {op : Operation} {stmt : AccountTable.Statement}
    (seen : ∀ a q, op = .update a q → a.HasContentHashes) (h : op.Issues s stmt) :
    stmt.Preserves Account.HasContentHashes := by
  cases stmt with
  | create new =>
    rintro id (_ | _) hash recorded
    · cases recorded
    · cases recorded
  | save b =>
    intro c _ kind hash recorded
    cases op with
    | update a q =>
      have updates : s.Updates a q b := h
      have recorded : b.profile.textureHash kind = some hash := recorded
      rcases updates.texture kind with ⟨_, image, -, -, new⟩ | ⟨-, kept⟩
      · rw [new] at recorded
        rw [← Option.some.inj recorded]
        exact Texture.isContentHash_contentHash image
      · exact seen a q rfl kind hash (kept ▸ recorded)
    | _ => cases h
  | delete => trivial
  | _ => exact fun _ valid => valid

theorem Run.Reached.always_contentHashes {x : Run} (h : Run.Reached Run.SeesStored x) :
    x.AlwaysAll Account.HasContentHashes := by
  refine h.alwaysAll ?_
  intro x s op seesStored always stmt issues
  refine issues.keeps_hashes ?_
  intro a q hop
  exact always.of_stored (Q := fun p => ∀ kind hash, p.textureHash kind = some hash →
    Texture.isContentHash hash = true) (fun _ valid => valid) (seesStored a q hop)

theorem Run.Reached.contentHashes {x : Run} (h : Run.Reached Run.SeesStored x) :
    x.registry.accounts.All Account.HasContentHashes :=
  h.always_contentHashes.now

namespace AccountTable

/-- The table without the row of an id. -/
def without (t : AccountTable) (id : Int) : AccountTable :=
  { t with rows := t.rows.filter (·.account.id ≠ id) }

theorem filter_modify (t : AccountTable) (id : Int) {f : Row → Row}
    (ids : ∀ x, (f x).account.id = x.account.id) :
    (t.modify id f).rows.filter (·.account.id ≠ id) = t.rows.filter (·.account.id ≠ id) := by
  simp only [modify, List.filter_map]
  have kept : (fun x : Row => decide (x.account.id ≠ id)) ∘
      (fun x => if x.account.id = id then f x else x) = fun x => decide (x.account.id ≠ id) := by
    funext x
    by_cases own : x.account.id = id
    · simp [own, ids]
    · simp [own]
  rw [kept]
  refine (List.map_congr_left fun x hx => ?_).trans (List.map_id _)
  exact if_neg (by simpa using (List.mem_filter.mp hx).2)

/-- Whether or not its session has been ended, the row of an id is deleted. -/
theorem delete_clearSession {t : AccountTable} {id : Int} (held : ∃ x ∈ t.rows, x.account.id = id) :
    (t.clearSession id).delete id = (.ok (), t.without id) := by
  have rows : (t.clearSession id).rows.filter (·.account.id ≠ id) =
      t.rows.filter (·.account.id ≠ id) := filter_modify t id fun _ => rfl
  rcases delete_cases (t.clearSession id) id with ⟨missing, -⟩ | ⟨-, he⟩
  · obtain ⟨x, hx, hid⟩ := held
    have cleared : ∃ y ∈ (t.clearSession id).rows, y.account.id = id :=
      ⟨_, mem_modify.mpr ⟨x, hx, if_pos hid⟩, hid⟩
    obtain ⟨y, hy, same⟩ := cleared
    exact absurd same (missing y hy)
  · rw [he, rows]
    rfl

end AccountTable

namespace Texture

/-- The store without the texture of a hash, if there is one. -/
def Store.withoutIf (t : Store) (kind : Kind) : Option String → Store
  | none => t
  | some hash => (t.delete kind hash).2

end Texture

/-- The textures that an account records, the skin first. -/
def Account.textures (a : Account) : List (Kind × String) :=
  (a.profile.skinHash.map (Kind.skin, ·)).toList ++ (a.profile.capeHash.map (Kind.cape, ·)).toList

theorem Account.mem_textures {a : Account} {key : Kind × String} :
    key ∈ a.textures ↔ a.profile.textureHash key.1 = some key.2 := by
  obtain ⟨kind, hash⟩ := key
  cases kind with
  | skin => simp [textures, ProfileColumns.textureHash]
  | cape => simp [textures, ProfileColumns.textureHash]

namespace Scene

open Work

/-- The step in which the removal of a texture is attempted. -/
def removal (s : Scene) (key : Kind × String) (r : Registry) : Registry :=
  if s.refuses .delete key.1 then r
  else { r with textures := (r.textures.delete key.1 key.2).2 }

/-- Why the removal of a texture fails. One that is not there needs no removal. -/
def removalFault (s : Scene) (key : Kind × String) : Option Error :=
  if s.refuses .delete key.1 then some (Work.refused .delete key.1)
  else if Texture.isContentHash key.2 then none
  else some (Texture.unknown key.1 key.2)

variable {s : Scene} {a : Account} {r : Registry}

/-- Only the store itself keeps a content hash from being removed. -/
theorem refused_of_removalFault {key : Kind × String}
    (valid : Texture.isContentHash key.2 = true) {e : Error} (fault : s.removalFault key = some e) :
    e = refused .delete key.1 ∧ s.refuses .delete key.1 = true := by
  rw [removalFault, if_pos valid] at fault
  by_cases refuses : s.refuses .delete key.1 = true
  · rw [if_pos refuses] at fault
    exact ⟨(Option.some.inj fault).symm, refuses⟩
  · rw [if_neg refuses] at fault
    cases fault

theorem map_removal (s : Scene) (key : Kind × String) (r : Registry) :
    (s.removal key r).textures.map =
      if s.removalFault key = none then Function.update r.textures.map key none
      else r.textures.map := by
  rw [removal, removalFault]
  by_cases refuses : s.refuses .delete key.1 = true
  · simp [refuses]
  · rw [if_neg refuses, if_neg refuses]
    by_cases valid : Texture.isContentHash key.2 = true
    · rw [if_pos valid, if_pos rfl]
      exact (Texture.Store.map_delete valid).2
    · rw [if_neg valid, if_neg (by simp)]
      simp [Texture.Store.delete, valid]

theorem perform_discard (s : Scene) (kind : Kind) (hash : String) (r : Registry) :
    (Texture.discard s kind hash).perform r =
      (stopAt (s.removalFault (kind, hash)), s.removal (kind, hash) r) := by
  rw [Texture.discard, Work.perform_onTextures, removal, removalFault]
  by_cases refuses : s.refuses .delete kind = true
  · simp [refuses, stopAt]
  · rw [if_neg refuses, if_neg refuses, if_neg refuses]
    by_cases valid : Texture.isContentHash hash = true
    · simp [Texture.Store.delete, valid, stopAt]
    · simp [Texture.Store.delete, valid, stopAt]

theorem perform_both (first second : Work Unit) (r : Registry) :
    (both first second).perform r =
      ((first.perform r).1.bind fun _ => (second.perform (first.perform r).2).1,
        (second.perform (first.perform r).2).2) := by
  rw [both, perform]
  change Flow.run (ExceptT.run first >>= _) r = _
  rw [Flow.run_bind]
  change Flow.run (ExceptT.run second >>= _) _ = _
  rw [Flow.run_bind]
  rfl

/-- What the removals leave. -/
def removals (s : Scene) (keys : List (Kind × String)) (r : Registry) : Registry :=
  keys.foldl (fun r key => s.removal key r) r

theorem removals_eq (s : Scene) (keys : List (Kind × String)) (r : Registry) :
    ∃ textures, s.removals keys r = { r with textures } := by
  induction keys generalizing r with
  | nil => exact ⟨r.textures, rfl⟩
  | cons key keys ih =>
    obtain ⟨textures, rest⟩ := ih (s.removal key r)
    refine ⟨textures, ?_⟩
    change s.removals keys (s.removal key r) = _
    rw [rest, removal]
    split <;> rfl

/-- What is removed is gone, and all else is as it was. -/
theorem map_removals (s : Scene) (keys : List (Kind × String)) (r : Registry)
    (key : Kind × String) : (s.removals keys r).textures.map key =
      if key ∈ keys ∧ s.removalFault key = none then none else r.textures.map key := by
  induction keys generalizing r with
  | nil => simp [removals]
  | cons first keys ih =>
    change (s.removals keys (s.removal first r)).textures.map key = _
    rw [ih, map_removal]
    by_cases same : key = first
    · subst same
      by_cases fault : s.removalFault key = none
      · simp [fault]
      · simp [fault]
    · by_cases fault : s.removalFault first = none
      · simp [same, fault]
      · simp [same, fault]

theorem perform_discardIf (s : Scene) (kind : Kind) (hash : Option String) (r : Registry) :
    (s.discardIf kind hash).perform r =
      (stopAt (firstFault ((hash.map (kind, ·)).toList.map s.removalFault)),
        s.removals (hash.map (kind, ·)).toList r) := by
  cases hash with
  | none => rfl
  | some hash =>
    change (Texture.discard s kind hash).perform r = _
    rw [perform_discard, Option.map_some, Option.toList_some, List.map_singleton, firstFault_cons,
      firstFault_nil, Option.or_none]
    rfl

theorem perform_discardBoth (s : Scene) (a : Account) (r : Registry) :
    (both (s.discardIf .skin a.profile.skinHash) (s.discardIf .cape a.profile.capeHash)).perform r =
      (stopAt (firstFault (a.textures.map s.removalFault)), s.removals a.textures r) := by
  rw [perform_both, perform_discardIf, perform_discardIf, Account.textures, List.map_append,
    stopAt_firstFault_append, removals, removals, removals, List.foldl_append]
  rfl

theorem perform_logout (a : Account) (r : Registry) : (logout a).perform r =
    (.ok { a with session := ⟨none, none⟩ },
      { r with accounts := r.accounts.clearSession a.id }) := rfl

section
variable {a : Account} {r : Registry} (held : ∃ x ∈ r.accounts.rows, x.account.id = a.id)
include held

theorem perform_delete_of_held : (Work.onAccounts (·.delete a.id)).perform
    { r with accounts := r.accounts.clearSession a.id } =
      (.ok (), { r with accounts := r.accounts.without a.id }) := by
  rw [Work.perform_onAccounts, AccountTable.delete_clearSession held]

theorem perform_deleteAccount_eq (s : Scene) : (s.deleteAccount a).perform r =
    (stopAt (firstFault (a.textures.map s.removalFault)),
      s.removals a.textures { r with accounts := r.accounts.without a.id }) := by
  rw [deleteAccount, Work.perform_bind_ok (perform_logout a r),
    Work.perform_bind_ok (perform_delete_of_held held)]
  exact perform_discardBoth s a _

end

/-- The row of a stored account goes, whatever comes of its textures. These go too unless the store
refuses. -/
theorem perform_deleteAccount (stored : ∃ x ∈ r.accounts.rows, x.account.id = a.id)
    (valid : a.HasContentHashes) :
    ∃ result textures, (s.deleteAccount a).perform r =
        (result, { r with accounts := r.accounts.without a.id, textures }) ∧
      ((∀ kind, s.refuses .delete kind = false) → result = .ok () ∧
        textures = (r.textures.withoutIf .skin a.profile.skinHash).withoutIf .cape
          a.profile.capeHash) ∧
      ∀ e, result = .error e → ∃ kind hash, e = refused .delete kind ∧
        a.profile.textureHash kind = some hash ∧ s.refuses .delete kind = true := by
  obtain ⟨textures, left⟩ := s.removals_eq a.textures
    { r with accounts := r.accounts.without a.id }
  have done := perform_deleteAccount_eq stored s
  rw [left] at done
  refine ⟨_, textures, done, ?_, ?_⟩
  · intro accepts
    constructor
    · cases first : firstFault (a.textures.map s.removalFault) with
      | none => rfl
      | some e =>
        obtain ⟨key, recorded, fault⟩ := exists_of_firstFault_map first
        have refuses := (refused_of_removalFault (valid _ _ (Account.mem_textures.mp recorded))
          fault).2
        simp [accepts] at refuses
    · have stores : _ = textures := congrArg Registry.textures left
      refine stores.symm.trans ?_
      simp only [removals, Account.textures]
      cases a.profile.skinHash <;> cases a.profile.capeHash <;>
        simp [removal, accepts, Texture.Store.withoutIf]
  · intro e failed
    cases first : firstFault (a.textures.map s.removalFault) with
    | none => simp [first, stopAt] at failed
    | some e' =>
      obtain rfl : e' = e := by simpa [first, stopAt] using failed
      obtain ⟨key, recorded, fault⟩ := exists_of_firstFault_map first
      have recorded := Account.mem_textures.mp recorded
      obtain ⟨same, refuses⟩ := refused_of_removalFault (valid _ _ recorded) fault
      exact ⟨key.1, key.2, same, recorded, refuses⟩

end Scene

end PlayerRegistry
