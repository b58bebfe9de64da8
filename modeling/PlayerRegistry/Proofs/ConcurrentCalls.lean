import PlayerRegistry.Proofs.DiskStore
import PlayerRegistry.Proofs.Interleavings

/-!
# Calls side by side on disk

Calls to the store on disk whose steps come in any order. The name of a texture only ever receives a
complete file, and a draft is written by one call alone; so each call relies on nothing but its own
draft, and on textures staying that no call deletes.
-/

namespace PlayerRegistry.Texture

open Disk

namespace Call

def mark? : Call → Option Uuid
  | put _ _ mark _ => some mark
  | _ => none

/-- The file that a call writes before it commits. -/
def draft? : Call → Option FilePath
  | put kind hash mark _ =>
    if isContentHash hash then some (draftPathOf kind hash mark.toText) else none
  | _ => none

/-- The call has been answered: it succeeds on a content hash, and what it has found is `none` or
bytes that belong to its key. -/
def AnsweredFrom (offers : Kind × String → ByteArray → Prop) : Call → Result Answer → Prop
  | put kind hash _ _, answer | delete kind hash, answer =>
    answer = if isContentHash hash then .ok .done else .error (unknown kind hash)
  | get kind hash, answer =>
    answer = .ok (.bytes none) ∨
      ∃ bytes, offers (kind, hash) bytes ∧ answer = .ok (.bytes (some bytes))
  | contains _ _, answer => ∃ found, answer = .ok (.present found)

theorem AnsweredFrom.mono {offers offers' : Kind × String → ByteArray → Prop} {c : Call}
    {answer : Result Answer} (h : c.AnsweredFrom offers answer)
    (more : ∀ key bytes, offers key bytes → offers' key bytes) : c.AnsweredFrom offers' answer := by
  cases c with
  | put => exact h
  | get kind hash =>
    rcases h with none | ⟨bytes, offered, answered⟩
    · exact .inl none
    · exact .inr ⟨bytes, more _ _ offered, answered⟩
  | delete => exact h
  | contains => exact h

theorem draft?_eq_some {c : Call} {d : FilePath} (h : c.draft? = some d) :
    ∃ kind hash mark, isContentHash hash = true ∧ c.mark? = some mark ∧
      d = draftPathOf kind hash mark.toText := by
  cases c with
  | put kind hash mark pieces =>
    by_cases valid : isContentHash hash = true
    · exact ⟨kind, hash, mark, valid, rfl, by simpa [draft?, valid] using h.symm⟩
    · simp [draft?, valid] at h
  | get => cases h
  | delete => cases h
  | contains => cases h

end Call

namespace Disk

/-- What a tree holds where textures lie. -/
def held (t : FileTree) : Blobs := fun key =>
  match t.find? (pathOf key.1 key.2) with
  | some (.file bytes) => some bytes
  | _ => none

theorem held_eq_some_iff {t : FileTree} {key : Kind × String} {bytes : ByteArray} :
    held t key = some bytes ↔ t.find? (pathOf key.1 key.2) = some (.file bytes) := by
  simp only [held]
  rcases t.find? (pathOf key.1 key.2) with _ | _ | _ <;> simp

end Disk

/-- Calls that run side by side on a tree that holds some textures before them. No two calls draw
the same mark. -/
structure Traffic where
  before : Blobs
  calls : List Call
  marks : (calls.filterMap Call.mark?).Nodup

namespace Traffic

variable {tr : Traffic} {t t' : FileTree} {kind : Kind} {hash : String} {mark : Uuid}
  {pieces : List ByteArray}

/-- The bytes are stored under the key before, or some call puts them there. -/
def Offers (tr : Traffic) (key : Kind × String) (bytes : ByteArray) : Prop :=
  tr.before key = some bytes ∨
    ∃ mark pieces, .put key.1 key.2 mark pieces ∈ tr.calls ∧ joined pieces = bytes

def Deletes (tr : Traffic) (key : Kind × String) : Prop := .delete key.1 key.2 ∈ tr.calls

def drafts (tr : Traffic) : List FilePath := tr.calls.filterMap Call.draft?

/-- A file may lie at the path with these bytes: a texture is complete, a draft may not be. -/
def Admits (tr : Traffic) (path : FilePath) (bytes : ByteArray) : Prop :=
  (∃ key, isContentHash key.2 = true ∧ tr.Offers key bytes ∧ path = pathOf key.1 key.2) ∨
    path ∈ tr.drafts

/-- What holds of the tree at every moment. -/
structure Sound (tr : Traffic) (t : FileTree) : Prop where
  files : ∀ path bytes, t.find? path = some (.file bytes) → tr.Admits path bytes
  ways : ∀ path bytes, t.find? path = some (.file bytes) → t.Leads path
  directories : ∀ path, t.find? path = some .directory → path.length ≤ 2

theorem length_draft {d : FilePath} (h : d ∈ tr.drafts) : d.length = 3 := by
  obtain ⟨c, -, draft⟩ := List.mem_filterMap.mp h
  obtain ⟨kind, hash, mark, -, -, rfl⟩ := Call.draft?_eq_some draft
  rfl

theorem Admits.length {path : FilePath} {bytes : ByteArray} (h : tr.Admits path bytes) :
    path.length = 3 := by
  rcases h with ⟨key, -, -, rfl⟩ | draft
  · rfl
  · exact length_draft draft

theorem Sound.clear (h : tr.Sound t) {a b c : String} : t.Clear [a, b, c] := by
  intro p above before content there
  have deep := (h.files p content there).length
  rcases before_three above before with rfl | rfl | rfl <;> simp at deep

theorem Sound.no_directory (h : tr.Sound t) {path : FilePath} (deep : path.length = 3) :
    t.find? path ≠ some .directory := by
  intro there
  have := h.directories path there
  omega

/-- What is at the path of a texture is nothing, or bytes that belong there. -/
theorem Sound.texture (h : tr.Sound t) (kind : Kind) (hash : String) :
    t.find? (pathOf kind hash) = none ∨
      ∃ bytes, t.find? (pathOf kind hash) = some (.file bytes) ∧ tr.Offers (kind, hash) bytes := by
  cases there : t.find? (pathOf kind hash) with
  | none => exact .inl rfl
  | some e =>
    cases e with
    | directory => exact absurd there (h.no_directory rfl)
    | file bytes =>
      rcases h.files _ _ there with ⟨key, -, offered, same⟩ | draft
      · obtain ⟨rfl, rfl⟩ := pathOf_injective same
        exact .inr ⟨bytes, rfl, offered⟩
      · obtain ⟨c, -, draft⟩ := List.mem_filterMap.mp draft
        obtain ⟨_, _, _, -, -, same⟩ := Call.draft?_eq_some draft
        exact absurd same.symm draftPathOf_ne_pathOf

/-- How the tree may change by a step of any call. -/
structure Moves (tr : Traffic) (t t' : FileTree) : Prop where
  sound : tr.Sound t → tr.Sound t'
  directories : ∀ p, t.find? p = some .directory → t'.find? p = some .directory
  stored : ∀ kind hash, ¬tr.Deletes (kind, hash) → t.find? (pathOf kind hash) ≠ none →
    t'.find? (pathOf kind hash) ≠ none

theorem Moves.refl (tr : Traffic) (t : FileTree) : tr.Moves t t :=
  ⟨id, fun _ => id, fun _ _ _ => id⟩

theorem Moves.trans {u : FileTree} (h : tr.Moves t u) (h' : tr.Moves u t') : tr.Moves t t' where
  sound before := h'.sound (h.sound before)
  directories p there := h'.directories p (h.directories p there)
  stored kind hash kept there := h'.stored kind hash kept (h.stored kind hash kept there)

theorem Moves.leads (h : tr.Moves t t') {path : FilePath} (leads : t.Leads path) :
    t'.Leads path := fun p above before => h.directories p (leads p above before)

/-- One file has changed. -/
theorem Sound.update (h : tr.Sound t) {path : FilePath} (deep : path.length = 3)
    {value : Option ByteArray}
    (changed : t'.find? = Function.update t.find? path (value.map .file))
    (admitted : ∀ bytes, value = some bytes → tr.Admits path bytes ∧ t.Leads path)
    (kept : value = none → ∀ kind hash, path = pathOf kind hash → tr.Deletes (kind, hash)) :
    tr.Moves t t' := by
  have directories : ∀ p, t.find? p = some .directory → t'.find? p = some .directory := by
    intro p there
    rw [changed, Function.update_of_ne, there]
    rintro rfl
    exact h.no_directory deep there
  have leads : ∀ {p}, t.Leads p → t'.Leads p := fun led q above before =>
    directories q (led q above before)
  refine ⟨fun _ => ⟨?_, ?_, ?_⟩, directories, ?_⟩
  · intro p bytes there
    by_cases here : p = path
    · subst here
      rw [changed, Function.update_self] at there
      exact (admitted bytes (by simpa using there)).1
    · rw [changed, Function.update_of_ne here] at there
      exact h.files p bytes there
  · intro p bytes there
    by_cases here : p = path
    · subst here
      rw [changed, Function.update_self] at there
      exact leads (admitted bytes (by simpa using there)).2
    · rw [changed, Function.update_of_ne here] at there
      exact leads (h.ways p bytes there)
  · intro p there
    by_cases here : p = path
    · rw [here, changed, Function.update_self] at there
      cases value <;> cases there
    · rw [changed, Function.update_of_ne here] at there
      exact h.directories p there
  · intro kind hash spared there
    by_cases here : pathOf kind hash = path
    · rw [here, changed, Function.update_self]
      intro missing
      exact spared (kept (by simpa using missing) kind hash here.symm)
    · rwa [changed, Function.update_of_ne here]

/-- Directories have been made where files do not lie. -/
theorem Sound.withDirectories (h : tr.Sound t) (made : ∀ path, t'.find? path = t.find? path ∨
    path.length ≤ 2 ∧ t'.find? path = some .directory) : tr.Moves t t' := by
  have file : ∀ {p bytes}, t'.find? p = some (.file bytes) → t.find? p = some (.file bytes) := by
    intro p bytes there
    rcases made p with same | ⟨-, directory⟩
    · rwa [← same]
    · simp [directory] at there
  have directories : ∀ p, t.find? p = some .directory → t'.find? p = some .directory := by
    intro p there
    rcases made p with same | ⟨-, directory⟩
    · rwa [same]
    · exact directory
  refine ⟨fun _ => ⟨?_, ?_, ?_⟩, directories, ?_⟩
  · exact fun p bytes there => h.files p bytes (file there)
  · exact fun p bytes there q above before =>
      directories q (h.ways p bytes (file there) q above before)
  · intro p there
    rcases made p with same | ⟨short, -⟩
    · exact h.directories p (by rwa [← same])
    · exact short
  · intro kind hash _ there
    rcases made (pathOf kind hash) with same | ⟨short, -⟩
    · rwa [same]
    · simp [pathOf, directoryOf] at short

/-- A call relies on its own draft, and leaves the drafts of others alone. -/
def terms (tr : Traffic) (c : Call) : Flow.Terms FileTree where
  rely t t' := tr.Moves t t' ∧ ∀ d, c.draft? = some d → t'.find? d = t.find? d
  guarantee t t' := tr.Moves t t' ∧ ∀ d ∈ tr.drafts, c.draft? ≠ some d → t'.find? d = t.find? d
  refl t := ⟨.refl tr t, fun _ _ => rfl⟩
  trans _ _ _ h h' :=
    ⟨h.1.trans h'.1, fun d own => (h'.2 d own).trans (h.2 d own)⟩

/-- The call leaves no draft, and a texture that it has put there stays unless one deletes it. -/
def Settled (tr : Traffic) (c : Call) (t : FileTree) : Prop :=
  (∀ d, c.draft? = some d → t.find? d = none) ∧
    ∀ kind hash mark pieces, c = .put kind hash mark pieces → isContentHash hash = true →
      ¬tr.Deletes (kind, hash) → t.find? (pathOf kind hash) ≠ none

theorem Settled.later {c : Call} (h : tr.Settled c t) (between : (tr.terms c).rely t t') :
    tr.Settled c t' := by
  refine ⟨fun d own => (between.2 d own).trans (h.1 d own), ?_⟩
  intro kind hash mark pieces put valid spared
  exact between.1.stored kind hash spared (h.2 kind hash mark pieces put valid spared)

/-- Drafts with different marks are different files. -/
theorem draftPathOf_injective {kind' : Kind} {hash' : String} {mark' : Uuid}
    (valid : isContentHash hash = true) (valid' : isContentHash hash' = true)
    (h : draftPathOf kind hash mark.toText = draftPathOf kind' hash' mark'.toText) :
    mark = mark' := by
  simp only [draftPathOf, directoryOf, List.cons_append, List.nil_append, List.cons.injEq] at h
  have file := congrArg String.toList h.2.2.1
  simp only [String.toList_append, List.append_assoc] at file
  have long : hash.toList.length = hash'.toList.length := by
    rw [length_of_valid valid, length_of_valid valid']
  have text := List.append_cancel_left (List.append_inj_right file long)
  exact Uuid.toText_injective (String.toList_inj.mp (List.append_cancel_right text))

theorem fit (tr : Traffic) : tr.calls.Pairwise fun c c' => (tr.terms c).Fit (tr.terms c') := by
  refine (List.pairwise_filterMap.mp tr.marks).imp_of_mem fun {c c'} here here' apart => ?_
  have drafts : ∀ d, c.draft? = some d → c'.draft? ≠ some d := by
    intro d own own'
    obtain ⟨_, _, mark, valid, marked, rfl⟩ := Call.draft?_eq_some own
    obtain ⟨_, _, mark', valid', marked', same⟩ := Call.draft?_eq_some own'
    exact apart mark marked mark' marked' (draftPathOf_injective valid valid' same)
  constructor
  · intro t t' guaranteed
    refine ⟨guaranteed.1, fun d own => guaranteed.2 d ?_ fun other => drafts d other own⟩
    exact List.mem_filterMap.mpr ⟨c', here', own⟩
  · intro t t' guaranteed
    refine ⟨guaranteed.1, fun d own => guaranteed.2 d ?_ (drafts d own)⟩
    exact List.mem_filterMap.mpr ⟨c, here, own⟩

section
variable {c : Call}

theorem meets_inspect {f : FileTree → α} {k : α → Flow FileTree β} {Q : β → FileTree → Prop}
    (h : ∀ t', (tr.terms c).rely t t' → (k (f t')).Meets (tr.terms c) Q t') :
    (inspect f >>= k).Meets (tr.terms c) Q t :=
  Flow.meets_act_bind fun t' between => ⟨⟨.refl tr t', fun _ _ _ => rfl⟩, h t' between⟩

theorem meets_change {f : FileTree → Except FileFault FileTree}
    {k : Except FileFault Unit → Flow FileTree β} {Q : β → FileTree → Prop}
    (h : ∀ t', (tr.terms c).rely t t' →
      (∃ u, f t' = .ok u ∧ (tr.terms c).guarantee t' u ∧ (k (.ok ())).Meets (tr.terms c) Q u) ∨
        ∃ e, f t' = .error e ∧ (k (.error e)).Meets (tr.terms c) Q t') :
    (change f >>= k).Meets (tr.terms c) Q t := by
  refine Flow.meets_act_bind fun t' between => ?_
  rcases h t' between with ⟨u, done, guaranteed, further⟩ | ⟨e, failed, further⟩
  · rw [done]
    exact ⟨guaranteed, further⟩
  · rw [failed]
    exact ⟨⟨.refl tr t', fun _ _ _ => rfl⟩, further⟩

theorem ne_draft {d : FilePath} (h : d ∈ tr.drafts) : d ≠ pathOf kind hash := by
  obtain ⟨c, -, draft⟩ := List.mem_filterMap.mp h
  obtain ⟨_, _, _, -, -, rfl⟩ := Call.draft?_eq_some draft
  exact draftPathOf_ne_pathOf

section
variable {d : FilePath} (own : c.draft? = some d) (member : d ∈ tr.drafts)
include own member

/-- The call writes to its draft. -/
theorem Sound.writes (h : tr.Sound t) (leads : t.Leads d) (bytes : ByteArray) :
    (tr.terms c).guarantee t (t.place d (.file bytes)) := by
  have named : d ≠ [] := List.ne_nil_of_length_pos (by rw [length_draft member]; decide)
  have changed : _ = Function.update t.find? d ((some bytes).map .file) :=
    FileTree.find?_place t named (.file bytes)
  have moved : tr.Moves t (t.place d (.file bytes)) :=
    h.update (length_draft member) changed (fun _ _ => ⟨.inr member, leads⟩) (by simp)
  refine ⟨moved, ?_⟩
  intro other _ apart
  rw [changed, Function.update_of_ne]
  rintro rfl
  exact apart own

theorem meets_writePieces (pieces : List ByteArray) {content : ByteArray} (sound : tr.Sound t)
    (there : t.find? d = some (.file content)) :
    (writePieces d pieces).Meets (tr.terms c) (fun result t' => result = .ok () ∧ tr.Sound t' ∧
      t'.find? d = some (.file (pieces.foldl (· ++ ·) content))) t := by
  induction pieces generalizing t content with
  | nil =>
    exact Flow.meets_pure fun t' between =>
      ⟨rfl, between.1.sound sound, (between.2 d own).trans there⟩
  | cons piece rest ih =>
    refine meets_change fun t' between => .inl ?_
    have sound' := between.1.sound sound
    have there' := (between.2 d own).trans there
    have leads := sound'.ways d content there'
    have written := sound'.writes own member leads (content ++ piece)
    refine ⟨_, FileTree.append_of_leads leads there' piece, written, ih (written.1.sound sound') ?_⟩
    rw [FileTree.find?_place, Function.update_self]
    exact List.ne_nil_of_length_pos (by rw [length_draft member]; decide)

end

/-- The directory of a texture can be made. -/
theorem Sound.makes (h : tr.Sound t) (kind : Kind) (hash : String) :
    ∃ t', t.makeDirectories [] (directoryOf kind hash) = .ok t' ∧ (tr.terms c).guarantee t t' ∧
      ∀ file, t'.Leads (directoryOf kind hash ++ [file]) := by
  have clear : ∀ p, p <+: directoryOf kind hash → p ≠ [] → ∀ content,
      t.find? p ≠ some (.file content) := by
    intro p above _ content there
    have deep := (h.files p content there).length
    have short : p.length ≤ 2 := above.length_le
    omega
  obtain ⟨t', done, made, ways⟩ := exists_way clear
  refine ⟨t', done, ⟨h.withDirectories made, fun d draft _ => ?_⟩, ways⟩
  rcases made d with same | ⟨short, -⟩
  · exact same
  · have := length_draft draft
    omega

theorem leads_pathOf {mark : String} (h : t.Leads (draftPathOf kind hash mark)) :
    t.Leads (pathOf kind hash) := by
  intro p above before
  rcases before_three above before with rfl | rfl | rfl
  · rfl
  · exact h _ (by simp [draftPathOf, directoryOf, List.cons_prefix_cons])
      (by simp [draftPathOf, directoryOf])
  · exact h _ (by simp [draftPathOf, directoryOf, List.cons_prefix_cons])
      (by simp [draftPathOf, directoryOf])

end

section
variable (valid : isContentHash hash = true)
include valid

theorem draft?_put : (Call.put kind hash mark pieces).draft? =
    some (draftPathOf kind hash mark.toText) := if_pos valid

theorem settled_put (noDraft : t.find? (draftPathOf kind hash mark.toText) = none)
    (there : t.find? (pathOf kind hash) ≠ none ∨ tr.Deletes (kind, hash)) :
    tr.Settled (.put kind hash mark pieces) t := by
  constructor
  · intro d own
    rw [draft?_put valid, Option.some.injEq] at own
    rwa [← own]
  · rintro _ _ _ _ ⟨⟩ - spared
    exact there.resolve_right spared

variable (member : .put kind hash mark pieces ∈ tr.calls)
include member

theorem draft_mem : draftPathOf kind hash mark.toText ∈ tr.drafts :=
  List.mem_filterMap.mpr ⟨_, member, draft?_put valid⟩

/-- The draft, which is complete, is moved to its place. -/
theorem Sound.commits (h : tr.Sound t)
    (there : t.find? (draftPathOf kind hash mark.toText) = some (.file (joined pieces))) :
    ∃ t', t.rename (draftPathOf kind hash mark.toText) (pathOf kind hash) = .ok t' ∧
      (tr.terms (.put kind hash mark pieces)).guarantee t t' ∧
      tr.Settled (.put kind hash mark pieces) t' := by
  have draft := draft_mem valid member
  have leads := h.ways _ _ there
  -- First the draft goes, and then the texture is placed.
  have named : draftPathOf kind hash mark.toText ≠ [] := by simp [draftPathOf]
  have removed : _ = Function.update t.find? _ (none.map .file) := FileTree.find?_remove t named
  have first : tr.Moves t (t.remove (draftPathOf kind hash mark.toText)) :=
    h.update rfl removed (by simp) fun _ kind' hash' same => absurd same draftPathOf_ne_pathOf
  have sound := first.sound h
  have way := first.leads (leads_pathOf leads)
  have named' : pathOf kind hash ≠ [] := by simp [pathOf]
  have placed : _ = Function.update (t.remove (draftPathOf kind hash mark.toText)).find?
      (pathOf kind hash) ((some (joined pieces)).map .file) := FileTree.find?_place _ named' _
  have offered : tr.Offers (kind, hash) (joined pieces) := .inr ⟨mark, pieces, member, rfl⟩
  have second := sound.update rfl placed
    (by rintro _ ⟨⟩; exact ⟨.inl ⟨(kind, hash), valid, offered, rfl⟩, way⟩) (by simp)
  refine ⟨_, FileTree.rename_of_leads leads there way (sound.no_directory rfl),
    ⟨first.trans second, fun d isDraft apart => ?_⟩, settled_put valid ?_ (.inl ?_)⟩
  · rw [placed, Function.update_of_ne (ne_draft isDraft), removed, Function.update_of_ne]
    rintro rfl
    exact apart (draft?_put valid)
  · rw [placed, Function.update_of_ne (ne_draft draft), removed, Function.update_self]
    rfl
  · rw [placed, Function.update_self]
    simp

theorem meets_put (sound : tr.Sound t)
    (noDraft : t.find? (draftPathOf kind hash mark.toText) = none) :
    (put kind hash mark.toText pieces).Meets (tr.terms (.put kind hash mark pieces))
      (fun result t' => result = .ok () ∧ tr.Settled (.put kind hash mark pieces) t') t := by
  have own := @draft?_put kind hash mark pieces valid
  have draft := draft_mem valid member
  have finish : ∀ u, tr.Settled (.put kind hash mark pieces) u →
      (pure (.ok ()) : Flow FileTree (Result Unit)).Meets (tr.terms (.put kind hash mark pieces))
        (fun result t' => result = .ok () ∧ tr.Settled (.put kind hash mark pieces) t') u :=
    fun u settled => Flow.meets_pure fun t' between => ⟨rfl, settled.later between⟩
  rw [put]
  simp only [valid]
  refine meets_inspect fun t₁ between₁ => ?_
  have sound₁ := between₁.1.sound sound
  have noDraft₁ := (between₁.2 _ own).trans noDraft
  by_cases present : t₁.has (pathOf kind hash) = true
  · rw [present]
    refine finish t₁ (settled_put valid noDraft₁ (.inl fun missing => ?_))
    have absent : t₁.has (pathOf kind hash) = false := FileTree.has_of_clear sound₁.clear missing
    exact absurd present (by rw [absent]; decide)
  rw [Bool.not_eq_true] at present
  rw [present]
  refine meets_change fun t₂ between₂ => .inl ?_
  have sound₂ := between₂.1.sound sound₁
  obtain ⟨u, made, moved, ways⟩ := sound₂.makes kind hash
  refine ⟨u, made, moved, meets_change fun t₃ between₃ => .inl ?_⟩
  have sound₃ := between₃.1.sound (moved.1.sound sound₂)
  have way : t₃.Leads (draftPathOf kind hash mark.toText) := between₃.1.leads (ways _)
  have written := sound₃.writes own draft way .empty
  refine ⟨_, FileTree.write_of_leads way (sound₃.no_directory rfl) .empty, written, ?_⟩
  have begun : (t₃.place (draftPathOf kind hash mark.toText) (.file .empty)).find?
      (draftPathOf kind hash mark.toText) = some (.file .empty) := by
    rw [FileTree.find?_place _ (by simp [draftPathOf]), Function.update_self]
  refine (meets_writePieces own draft pieces (written.1.sound sound₃) begun).bind ?_
  rintro _ t₄ ⟨rfl, sound₄, complete⟩
  refine meets_change fun t₅ between₅ => .inl ?_
  obtain ⟨t', renamed, guaranteed, settled⟩ := (between₅.1.sound sound₄).commits valid member
    ((between₅.2 _ own).trans complete)
  exact ⟨t', renamed, guaranteed, finish t' settled⟩

end

theorem meets_get (sound : tr.Sound t) (kind : Kind) (hash : String) :
    (get kind hash).Meets (tr.terms (.get kind hash))
      (fun result _ => result = .ok none ∨
        ∃ bytes, tr.Offers (kind, hash) bytes ∧ result = .ok (some bytes)) t := by
  by_cases valid : isContentHash hash = true
  · rw [Disk.get]
    simp only [valid]
    refine meets_inspect fun t' between => ?_
    have sound' := between.1.sound sound
    rcases sound'.texture kind hash with missing | ⟨bytes, there, offered⟩
    · have read : t'.read (pathOf kind hash) = .error .notFound :=
        FileTree.read_of_clear sound'.clear missing
      rw [read]
      exact Flow.meets_pure fun _ _ => .inl rfl
    · rw [FileTree.read_of_leads (sound'.ways _ _ there) there]
      exact Flow.meets_pure fun _ _ => .inr ⟨bytes, offered, rfl⟩
  · rw [get_of_invalid kind (by simpa using valid)]
    exact Flow.meets_pure fun _ _ => .inl rfl

theorem meets_delete (sound : tr.Sound t) (valid : isContentHash hash = true)
    (member : .delete kind hash ∈ tr.calls) :
    (delete kind hash).Meets (tr.terms (.delete kind hash)) (fun result _ => result = .ok ())
      t := by
  rw [delete]
  simp only [valid]
  refine meets_change fun t' between => ?_
  have sound' := between.1.sound sound
  rcases sound'.texture kind hash with missing | ⟨bytes, there, -⟩
  · refine .inr ⟨.notFound, ?_, Flow.meets_pure fun _ _ => rfl⟩
    exact FileTree.delete_of_clear sound'.clear missing
  · have removed : _ = Function.update t'.find? (pathOf kind hash) (none.map .file) :=
      FileTree.find?_remove t' (by simp [pathOf])
    have moved : tr.Moves t' (t'.remove (pathOf kind hash)) := by
      refine sound'.update rfl removed (by simp) fun _ kind' hash' same => ?_
      obtain ⟨rfl, rfl⟩ := pathOf_injective same
      exact member
    refine .inl ⟨_, FileTree.delete_of_leads (sound'.ways _ _ there) there,
      ⟨moved, fun d draft _ => ?_⟩, Flow.meets_pure fun _ _ => rfl⟩
    rw [removed, Function.update_of_ne (ne_draft draft)]

theorem meets_contains (kind : Kind) (hash : String) :
    (contains kind hash).Meets (tr.terms (.contains kind hash))
      (fun result _ => ∃ found, result = .ok found) t := by
  by_cases valid : isContentHash hash = true
  · rw [contains]
    simp only [valid]
    exact meets_inspect fun t' _ => Flow.meets_pure fun _ _ => ⟨_, rfl⟩
  · rw [contains_of_invalid kind (by simpa using valid)]
    exact Flow.meets_pure fun _ _ => ⟨_, rfl⟩

theorem settled_of_unmarked {c : Call} (unmarked : c.mark? = none) (t : FileTree) :
    tr.Settled c t := by
  constructor
  · intro d own
    obtain ⟨_, _, _, -, marked, -⟩ := Call.draft?_eq_some own
    simp [unmarked] at marked
  · rintro _ _ _ _ rfl
    cases unmarked

/-- Whatever the others do, a call is answered, and leaves nothing behind. -/
theorem meets_flow {c : Call} (member : c ∈ tr.calls) (sound : tr.Sound t)
    (noDraft : ∀ d, c.draft? = some d → t.find? d = none) :
    c.flow.Meets (tr.terms c)
      (fun answer t' => c.AnsweredFrom tr.Offers answer ∧ tr.Settled c t') t := by
  cases c with
  | put kind hash mark pieces =>
    by_cases valid : isContentHash hash = true
    · refine (meets_put valid member sound (noDraft _ (draft?_put valid))).bind ?_
      rintro _ t₁ ⟨rfl, settled⟩
      exact Flow.meets_pure fun t' later =>
        ⟨by simp [Call.AnsweredFrom, valid, Except.map], settled.later later⟩
    · rw [Bool.not_eq_true] at valid
      rw [Call.flow, put_of_invalid kind valid]
      refine Flow.meets_pure fun t' _ => ⟨by simp [Call.AnsweredFrom, valid, Except.map], ?_, ?_⟩
      · simp [Call.draft?, valid]
      · rintro _ _ _ _ ⟨⟩ valid'
        simp [valid] at valid'
  | get kind hash =>
    refine (meets_get sound kind hash).bind ?_
    rintro _ t₁ (rfl | ⟨bytes, offered, rfl⟩)
    · exact Flow.meets_pure fun t' _ => ⟨.inl rfl, settled_of_unmarked rfl t'⟩
    · exact Flow.meets_pure fun t' _ => ⟨.inr ⟨bytes, offered, rfl⟩, settled_of_unmarked rfl t'⟩
  | delete kind hash =>
    by_cases valid : isContentHash hash = true
    · refine (meets_delete sound valid member).bind ?_
      rintro _ t₁ rfl
      exact Flow.meets_pure fun t' _ =>
        ⟨by simp [Call.AnsweredFrom, valid, Except.map], settled_of_unmarked rfl t'⟩
    · rw [Bool.not_eq_true] at valid
      rw [Call.flow, delete_of_invalid kind valid]
      exact Flow.meets_pure fun t' _ =>
        ⟨by simp [Call.AnsweredFrom, valid, Except.map], settled_of_unmarked rfl t'⟩
  | contains kind hash =>
    refine (meets_contains kind hash).bind ?_
    rintro _ t₁ ⟨found, rfl⟩
    exact Flow.meets_pure fun t' _ => ⟨⟨found, rfl⟩, settled_of_unmarked rfl t'⟩

theorem sound_of_shows (h : Shows t tr.before) : tr.Sound t := by
  refine ⟨fun path bytes there => ?_, fun path bytes there => ?_, h.directories⟩
  · obtain ⟨kind, hash, stored, rfl⟩ := (h.files path bytes).mp there
    exact .inl ⟨(kind, hash), h.hashes kind hash (by simp [stored]), .inl stored, rfl⟩
  · obtain ⟨kind, hash, stored, rfl⟩ := (h.files path bytes).mp there
    exact h.ways kind hash (by simp [stored])

theorem Sound.held (h : tr.Sound t) {key : Kind × String} {bytes : ByteArray}
    (there : Disk.held t key = some bytes) : tr.Offers key bytes := by
  rw [held_eq_some_iff] at there
  rcases h.texture key.1 key.2 with missing | ⟨bytes', there', offered⟩
  · simp [missing] at there
  · rw [there', Option.some.injEq, FileEntry.file.injEq] at there
    rwa [← there]

/-- Once every call has left nothing behind, there are only textures. -/
theorem Sound.shows (h : tr.Sound t) (settled : ∀ c ∈ tr.calls, tr.Settled c t) :
    Shows t (Disk.held t) := by
  have texture : ∀ path bytes, t.find? path = some (.file bytes) →
      ∃ kind hash, isContentHash hash = true ∧ path = pathOf kind hash := by
    intro path bytes there
    rcases h.files path bytes there with ⟨key, valid, -, rfl⟩ | draft
    · exact ⟨key.1, key.2, valid, rfl⟩
    · obtain ⟨c, member, own⟩ := List.mem_filterMap.mp draft
      rw [(settled c member).1 path own] at there
      cases there
  have file : ∀ kind hash, Disk.held t (kind, hash) ≠ none →
      ∃ bytes, t.find? (pathOf kind hash) = some (.file bytes) := by
    intro kind hash there
    obtain ⟨bytes, there⟩ := Option.ne_none_iff_exists'.mp there
    exact ⟨bytes, held_eq_some_iff.mp there⟩
  refine ⟨fun path bytes => ⟨fun there => ?_, ?_⟩, fun kind hash there => ?_,
    fun kind hash there => ?_, h.directories⟩
  · obtain ⟨kind, hash, -, rfl⟩ := texture path bytes there
    exact ⟨kind, hash, held_eq_some_iff.mpr there, rfl⟩
  · rintro ⟨kind, hash, there, rfl⟩
    exact held_eq_some_iff.mp there
  · obtain ⟨bytes, there⟩ := file kind hash there
    obtain ⟨kind', hash', valid, same⟩ := texture _ bytes there
    rwa [(pathOf_injective same).2]
  · obtain ⟨bytes, there⟩ := file kind hash there
    exact h.ways _ bytes there

/-- What is stored before or put by a call is there at the end, unless some call deletes it. -/
theorem held_of_offers {key : Kind × String} {bytes : ByteArray} {u : FileTree}
    (start : Shows t tr.before) (moved : tr.Moves t u) (settled : ∀ c ∈ tr.calls, tr.Settled c u)
    (offered : tr.Offers key bytes) (valid : isContentHash key.2 = true)
    (spared : ¬tr.Deletes key) : ∃ bytes', Disk.held u key = some bytes' := by
  have there : u.find? (pathOf key.1 key.2) ≠ none := by
    rcases offered with stored | ⟨mark, pieces, member, -⟩
    · apply moved.stored _ _ spared
      rw [start.entry, stored]
      simp
    · exact (settled _ member).2 _ _ _ _ rfl valid spared
  rcases (moved.sound (sound_of_shows start)).texture key.1 key.2 with missing | ⟨bytes', found, -⟩
  · exact absurd missing there
  · exact ⟨bytes', held_eq_some_iff.mpr found⟩

theorem moves_of_guarantees {u : FileTree} (h : Relation.ReflTransGen
    (fun t t' => (⊥ : FileTree → FileTree → Prop) t t' ∨
      ∃ c ∈ tr.calls, (tr.terms c).guarantee t t') t u) : tr.Moves t u := by
  induction h with
  | refl => exact .refl tr t
  | tail _ last ih =>
    rcases last with none | ⟨c, -, guaranteed⟩
    · exact none.elim
    · exact ih.trans guaranteed.1

theorem meets_flows (start : Shows t tr.before) :
    List.Forall₂ (fun c f => f.Meets (tr.terms c)
      (fun answer t' => c.AnsweredFrom tr.Offers answer ∧ tr.Settled c t') t)
      tr.calls (tr.calls.map Call.flow) := by
  rw [List.forall₂_map_right_iff, List.forall₂_same]
  intro c member
  refine meets_flow member (sound_of_shows start) fun d own => ?_
  obtain ⟨kind, hash, mark, -, -, rfl⟩ := Call.draft?_eq_some own
  exact start.no_draft kind hash mark.toText

/-- Calls take their steps in any order. All bytes that are stored under a key before or put there
by a call are the same. Then at every moment the name of a texture holds nothing or these bytes in
full, and so does every answer; a call on a content hash always succeeds. When all calls have
returned, there is no draft, and every texture that was offered and is not deleted is there. -/
theorem never_torn (tr : Traffic) {t : FileTree} (start : Shows t tr.before)
    {content : Kind × String → ByteArray}
    (alike : ∀ key bytes, tr.Offers key bytes → bytes = content key) :
    (∀ y, Flow.Steps (tr.calls.map Call.flow, t) y →
      ∀ key bytes, Disk.held y.2 key = some bytes → bytes = content key) ∧
    Flow.Ensures ⊥
      (fun answers t' =>
        List.Forall₂ (Call.AnsweredFrom fun key bytes => bytes = content key) tr.calls answers ∧
        Shows t' (Disk.held t') ∧
        ∀ key bytes, tr.Offers key bytes → isContentHash key.2 = true → ¬tr.Deletes key →
          Disk.held t' key = some (content key))
      (tr.calls.map Call.flow, t) := by
  have sound := sound_of_shows start
  constructor
  · intro y run key bytes there
    obtain ⟨-, changes⟩ := Flow.meets_amid tr.fit (fun _ _ _ _ => False.elim)
      (Flow.Amid.of_steps run) (meets_flows start)
    exact alike key bytes (((moves_of_guarantees changes).sound sound).held there)
  · refine (Flow.ensures_of_meets tr.fit (fun _ _ _ _ => False.elim) (meets_flows start)).mono ?_
    rintro answers t' ⟨ended, changes⟩
    have moved := moves_of_guarantees changes
    obtain ⟨settled, answered⟩ :=
      (List.forall₂_and_left _ _).mp (ended.imp fun c answer h => h.symm)
    refine ⟨answered.imp fun c answer h => h.mono alike, (moved.sound sound).shows settled, ?_⟩
    intro key bytes offered valid spared
    obtain ⟨bytes', there⟩ := held_of_offers start moved settled offered valid spared
    rw [there, alike key bytes' ((moved.sound sound).held there)]

/-- Two writers of one skin, a reader and an eraser of it. -/
def crowd : Traffic where
  before _ := none
  calls :=
    let hash := String.ofList (List.replicate 64 'a')
    [.put .skin hash ⟨1⟩ [⟨#[1]⟩, ⟨#[2]⟩], .get .skin hash, .put .skin hash ⟨2⟩ [⟨#[1, 2]⟩],
      .delete .skin hash]
  marks := by decide

theorem crowd_alike (key : Kind × String) (bytes : ByteArray) (h : crowd.Offers key bytes) :
    bytes = ⟨#[1, 2]⟩ := by
  rcases h with stored | ⟨mark, pieces, member, rfl⟩
  · cases stored
  · simp only [crowd, List.mem_cons, Call.put.injEq, reduceCtorEq, List.not_mem_nil, or_false,
      false_or] at member
    rcases member with ⟨-, -, -, rfl⟩ | ⟨-, -, -, rfl⟩ <;> rfl

theorem crowd_is_never_torn : Shows .empty crowd.before ∧
    Flow.Ensures ⊥
      (fun answers t' =>
        List.Forall₂ (Call.AnsweredFrom fun _ bytes => bytes = ⟨#[1, 2]⟩) crowd.calls answers ∧
        Shows t' (Disk.held t') ∧
        ∀ key bytes, crowd.Offers key bytes → isContentHash key.2 = true → ¬crowd.Deletes key →
          Disk.held t' key = some ⟨#[1, 2]⟩)
      (crowd.calls.map Call.flow, .empty) :=
  ⟨shows_empty, (never_torn crowd shows_empty crowd_alike).2⟩

end Traffic

end PlayerRegistry.Texture
