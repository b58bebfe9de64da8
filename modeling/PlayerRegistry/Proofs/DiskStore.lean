import PlayerRegistry.Proofs.FileTrees
import PlayerRegistry.Proofs.TextureStores
import PlayerRegistry.Proofs.UuidText
import PlayerRegistry.Texture.Disk

/-!
# The store on disk is a map

Seen from outside, textures on disk are a map that is written at most once under each key. `Shows`
ties a tree to the map that it stands for; every call keeps it, and is answered as the map answers.
-/

namespace PlayerRegistry.Texture

/-- A call to a store: bytes to be stored arrive in pieces, and the writer has a mark. -/
inductive Call where
  | put (kind : Kind) (hash : String) (mark : Uuid) (pieces : List ByteArray)
  | get (kind : Kind) (hash : String)
  | delete (kind : Kind) (hash : String)
  | contains (kind : Kind) (hash : String)

inductive Answer where
  | done
  | bytes (found : Option ByteArray)
  | present (found : Bool)

def joined (pieces : List ByteArray) : ByteArray := pieces.foldl (· ++ ·) .empty

namespace Call

/-- What a map answers, and the map after it. -/
def onMap (m : Blobs) : Call → Result Answer × Blobs
  | put kind hash _ pieces =>
    if !isContentHash hash then (.error (unknown kind hash), m)
    else if (m (kind, hash)).isSome then (.ok .done, m)
    else (.ok .done, Function.update m (kind, hash) (some (joined pieces)))
  | get kind hash => (.ok (.bytes (m (kind, hash))), m)
  | delete kind hash =>
    if !isContentHash hash then (.error (unknown kind hash), m)
    else (.ok .done, Function.update m (kind, hash) none)
  | contains kind hash => (.ok (.present (m (kind, hash)).isSome), m)

def flow : Call → Flow FileTree (Result Answer)
  | put kind hash mark pieces => do
    let result ← Disk.put kind hash mark.toText pieces
    return result.map fun _ => .done
  | get kind hash => do
    let result ← Disk.get kind hash
    return result.map .bytes
  | delete kind hash => do
    let result ← Disk.delete kind hash
    return result.map fun _ => .done
  | contains kind hash => do
    let result ← Disk.contains kind hash
    return result.map .present

/-- What the disk answers, and the tree after it. -/
def onDisk (t : FileTree) (c : Call) : Result Answer × FileTree := c.flow.run t

end Call

/-- The answers to calls that come one after another, and what is stored after the last. -/
def inTurn (respond : σ → Call → Result Answer × σ) : List Call → σ → List (Result Answer) × σ
  | [], s => ([], s)
  | c :: rest, s =>
    let (answer, s) := respond s c
    let (answers, s) := inTurn respond rest s
    (answer :: answers, s)

/-- Two stores that answer each call alike, and stay alike, answer calls in turn alike. -/
theorem inTurn_alike {σ τ : Type} {R : σ → τ → Prop} {f : σ → Call → Result Answer × σ}
    {g : τ → Call → Result Answer × τ}
    (call : ∀ {x y}, R x y → ∀ c, (f x c).1 = (g y c).1 ∧ R (f x c).2 (g y c).2)
    (calls : List Call) {x : σ} {y : τ} (h : R x y) :
    (inTurn f calls x).1 = (inTurn g calls y).1 ∧ R (inTurn f calls x).2 (inTurn g calls y).2 := by
  induction calls generalizing x y with
  | nil => exact ⟨rfl, h⟩
  | cons c rest ih =>
    obtain ⟨answer, after⟩ := call h c
    obtain ⟨answers, last⟩ := ih after
    exact ⟨by simp only [inTurn, answer, answers], last⟩

namespace Disk

variable {t t' : FileTree} {m : Blobs} {kind kind' : Kind} {hash hash' mark : String}

theorem name_injective (h : kind.name = kind'.name) : kind = kind' := by
  have := congrArg Kind.ofName? h
  simpa using this

theorem pathOf_injective (h : pathOf kind hash = pathOf kind' hash') :
    kind = kind' ∧ hash = hash' := by
  simp only [pathOf, directoryOf, List.cons_append, List.nil_append, List.cons.injEq] at h
  have file := congrArg String.toList h.2.2.1
  rw [String.toList_append, String.toList_append] at file
  exact ⟨name_injective h.1, String.toList_inj.mp (List.append_cancel_right file)⟩

/-- A draft is never taken for a texture. -/
theorem draftPathOf_ne_pathOf : draftPathOf kind hash mark ≠ pathOf kind' hash' := by
  intro h
  simp only [draftPathOf, pathOf, directoryOf, List.cons_append, List.nil_append,
    List.cons.injEq] at h
  have file := congrArg String.toList h.2.2.1
  rw [String.toList_append, String.toList_append (t := ".png")] at file
  have same := String.toList_inj.mp (List.append_inj_right' file (by simp))
  exact absurd same (by decide)

theorem before_three {a b c : String} {p : FilePath} (h : p <+: [a, b, c])
    (before : p ≠ [a, b, c]) : p = [] ∨ p = [a] ∨ p = [a, b] := by
  obtain ⟨rest, whole⟩ := h
  match p, whole, before with
  | [], _, _ => exact .inl rfl
  | [_], whole, _ => exact .inr (.inl (by simp_all))
  | [_, _], whole, _ => exact .inr (.inr (by simp_all))
  | _ :: _ :: _ :: _, whole, before => simp_all

/-- The tree has a file for each key of the map, and only directories besides. -/
structure Shows (t : FileTree) (m : Blobs) : Prop where
  files : ∀ path content, t.find? path = some (.file content) ↔
    ∃ kind hash, m (kind, hash) = some content ∧ path = pathOf kind hash
  hashes : ∀ kind hash, m (kind, hash) ≠ none → isContentHash hash = true
  ways : ∀ kind hash, m (kind, hash) ≠ none → t.Leads (pathOf kind hash)
  directories : ∀ path, t.find? path = some .directory → path.length ≤ 2

theorem shows_empty : Shows .empty fun _ => none := by
  have nothing : ∀ path, path ≠ [] → FileTree.empty.find? path = none := fun path named =>
    FileTree.find?_of_ne_nil _ named
  constructor
  · intro path content
    by_cases root : path = []
    · simp [root, FileTree.find?]
    · simp [nothing path root]
  · intro kind hash h
    exact absurd rfl h
  · intro kind hash h
    exact absurd rfl h
  · intro path h
    by_cases root : path = []
    · simp [root]
    · rw [nothing path root] at h
      cases h

theorem Shows.entry (h : Shows t m) (kind : Kind) (hash : String) :
    t.find? (pathOf kind hash) = (m (kind, hash)).map .file := by
  cases there : t.find? (pathOf kind hash) with
  | none =>
    cases stored : m (kind, hash) with
    | none => rfl
    | some content =>
      have := (h.files _ content).mpr ⟨kind, hash, stored, rfl⟩
      rw [there] at this
      cases this
  | some e =>
    cases e with
    | file content =>
      obtain ⟨kind', hash', stored, same⟩ := (h.files _ content).mp there
      obtain ⟨rfl, rfl⟩ := pathOf_injective same
      rw [stored]
      rfl
    | directory => exact absurd (h.directories _ there) (by simp [pathOf, directoryOf])

/-- Files lie three names deep, so none is in the way to a path of three names. -/
theorem Shows.clear (h : Shows t m) {a b c : String} : t.Clear [a, b, c] := by
  intro p above before content there
  obtain ⟨kind, hash, -, rfl⟩ := (h.files _ content).mp there
  have := before_three above before
  simp [pathOf, directoryOf] at this

theorem Shows.has (h : Shows t m) (kind : Kind) (hash : String) :
    t.has (pathOf kind hash) = (m (kind, hash)).isSome := by
  have there := h.entry kind hash
  cases stored : m (kind, hash) with
  | none => exact FileTree.has_of_clear h.clear (by rw [there, stored]; rfl)
  | some content =>
    have leads := h.ways kind hash (by simp [stored])
    rw [FileTree.has_of_leads leads, there, stored]
    rfl

theorem Shows.read_stored (h : Shows t m) {content : ByteArray}
    (stored : m (kind, hash) = some content) : t.read (pathOf kind hash) = .ok content :=
  FileTree.read_of_leads (h.ways kind hash (by simp [stored])) (by rw [h.entry, stored]; rfl)

theorem Shows.read_missing (h : Shows t m) (missing : m (kind, hash) = none) :
    t.read (pathOf kind hash) = .error .notFound :=
  FileTree.read_of_clear h.clear (by rw [h.entry, missing]; rfl)

/-- Only the file of one key has changed. -/
theorem Shows.update (h : Shows t m) {value : Option ByteArray}
    (changed : t'.find? = Function.update t.find? (pathOf kind hash) (value.map .file))
    (hashes : value ≠ none → isContentHash hash = true)
    (ways : value ≠ none → t.Leads (pathOf kind hash)) :
    Shows t' (Function.update m (kind, hash) value) := by
  have same : ∀ {path}, path ≠ pathOf kind hash → t'.find? path = t.find? path := by
    intro path other
    rw [changed, Function.update_of_ne other]
  have elsewhere : ∀ {kind' hash'}, pathOf kind' hash' ≠ pathOf kind hash →
      Function.update m (kind, hash) value (kind', hash') = m (kind', hash') := by
    intro kind' hash' other
    refine Function.update_of_ne (fun key => other ?_) _ _
    obtain ⟨rfl, rfl⟩ := Prod.mk.inj key
    rfl
  have kept : ∀ {path}, t.find? path = some .directory → t'.find? path = some .directory := by
    intro path there
    rw [same, there]
    rintro rfl
    exact absurd (h.directories _ there) (by simp [pathOf, directoryOf])
  constructor
  · intro path content
    by_cases here : path = pathOf kind hash
    · rw [here, changed, Function.update_self]
      constructor
      · intro found
        exact ⟨kind, hash, by simpa using found, rfl⟩
      · rintro ⟨kind', hash', stored, key⟩
        obtain ⟨rfl, rfl⟩ := pathOf_injective key
        simpa using stored
    · rw [same here, h.files]
      constructor
      · rintro ⟨kind', hash', stored, rfl⟩
        exact ⟨kind', hash', (elsewhere here).trans stored, rfl⟩
      · rintro ⟨kind', hash', stored, rfl⟩
        exact ⟨kind', hash', (elsewhere here).symm.trans stored, rfl⟩
  · intro kind' hash' stored
    by_cases here : pathOf kind' hash' = pathOf kind hash
    · obtain ⟨rfl, rfl⟩ := pathOf_injective here
      exact hashes (by simpa using stored)
    · exact h.hashes kind' hash' (by rwa [elsewhere here] at stored)
  · intro kind' hash' stored p above before
    by_cases here : pathOf kind' hash' = pathOf kind hash
    · obtain ⟨rfl, rfl⟩ := pathOf_injective here
      exact kept (ways (by simpa using stored) p above before)
    · exact kept (h.ways kind' hash' (by rwa [elsewhere here] at stored) p above before)
  · intro path there
    by_cases here : path = pathOf kind hash
    · rw [here, changed, Function.update_self] at there
      cases value <;> cases there
    · exact h.directories path (by rwa [same here] at there)

/-- Directories have been made where files do not lie. -/
theorem Shows.withDirectories (h : Shows t m) (made : ∀ path, t'.find? path = t.find? path ∨
    path.length ≤ 2 ∧ t'.find? path = some .directory) : Shows t' m := by
  constructor
  · intro path content
    rw [← h.files]
    rcases made path with same | ⟨short, there⟩
    · rw [same]
    · have deep : t.find? path ≠ some (.file content) := by
        intro file
        obtain ⟨kind, hash, -, rfl⟩ := (h.files _ _).mp file
        simp [pathOf, directoryOf] at short
      simp [there, deep]
  · exact h.hashes
  · intro kind hash stored p above before
    rcases made p with same | ⟨-, there⟩
    · rw [same, h.ways kind hash stored p above before]
    · exact there
  · intro path there
    rcases made path with same | ⟨short, -⟩
    · exact h.directories path (by rwa [same] at there)
    · exact short

@[simp]
theorem run_inspect (f : FileTree → α) (t : FileTree) : (inspect f).run t = (f t, t) := rfl

theorem run_change_ok {f : FileTree → Except FileFault FileTree} (h : f t = .ok t') :
    (change f).run t = (.ok (), t') := by
  simp [change, Flow.act, Flow.run, h]

theorem run_change_error {f : FileTree → Except FileFault FileTree} {e : FileFault}
    (h : f t = .error e) : (change f).run t = (.error e, t) := by
  simp [change, Flow.act, Flow.run, h]

section
variable (kind : Kind) (invalid : isContentHash hash = false)
include invalid

theorem put_of_invalid (pieces : List ByteArray) :
    put kind hash mark pieces = pure (.error (unknown kind hash)) := by
  simp [put, invalid]

theorem get_of_invalid : get kind hash = pure (.ok none) := by simp [get, invalid]

theorem delete_of_invalid : delete kind hash = pure (.error (unknown kind hash)) := by
  simp [delete, invalid]

theorem contains_of_invalid : contains kind hash = pure (.ok false) := by simp [contains, invalid]

end

theorem Shows.none_of_invalid (h : Shows t m) (invalid : isContentHash hash = false) :
    m (kind, hash) = none := by
  by_contra stored
  simp [h.hashes kind hash stored] at invalid

theorem run_contains (h : Shows t m) (kind : Kind) (hash : String) :
    (contains kind hash).run t = (.ok (m (kind, hash)).isSome, t) := by
  by_cases valid : isContentHash hash = true
  · simp [contains, valid, Flow.run_bind, h.has]
  · rw [Bool.not_eq_true] at valid
    rw [contains_of_invalid kind valid, h.none_of_invalid valid]
    rfl

theorem run_get (h : Shows t m) (kind : Kind) (hash : String) :
    (get kind hash).run t = (.ok (m (kind, hash)), t) := by
  by_cases valid : isContentHash hash = true
  · cases stored : m (kind, hash) with
    | none => simp [get, valid, Flow.run_bind, h.read_missing stored]
    | some content => simp [get, valid, Flow.run_bind, h.read_stored stored]
  · rw [Bool.not_eq_true] at valid
    rw [get_of_invalid kind valid, h.none_of_invalid valid]
    rfl

theorem run_delete (h : Shows t m) (kind : Kind) (valid : isContentHash hash = true) :
    ∃ t', (delete kind hash).run t = (.ok (), t') ∧
      Shows t' (Function.update m (kind, hash) none) := by
  cases stored : m (kind, hash) with
  | none =>
    have failed : t.delete (pathOf kind hash) = .error .notFound :=
      FileTree.delete_of_clear h.clear (by rw [h.entry, stored]; rfl)
    have step : (change fun t => t.delete (pathOf kind hash)).run t = (.error .notFound, t) :=
      run_change_error failed
    refine ⟨t, ?_, ?_⟩
    · simp [delete, valid, Flow.run_bind, step]
    · rwa [← stored, Function.update_eq_self]
  | some content =>
    have deleted : t.delete (pathOf kind hash) = .ok (t.remove (pathOf kind hash)) :=
      FileTree.delete_of_leads (h.ways kind hash (by simp [stored])) (by rw [h.entry, stored]; rfl)
    have step : (change fun t => t.delete (pathOf kind hash)).run t =
        (.ok (), t.remove (pathOf kind hash)) := run_change_ok deleted
    refine ⟨t.remove (pathOf kind hash), ?_, h.update ?_ ?_ ?_⟩
    · simp [delete, valid, Flow.run_bind, step]
    · exact FileTree.find?_remove t (by simp [pathOf])
    · exact fun kept => absurd rfl kept
    · exact fun kept => absurd rfl kept

theorem run_writePieces {path : FilePath} (named : path ≠ []) (pieces : List ByteArray)
    {content : ByteArray} (leads : t.Leads path) (there : t.find? path = some (.file content)) :
    ∃ t', (writePieces path pieces).run t = (.ok (), t') ∧
      t'.find? = Function.update t.find? path
        (some (.file (pieces.foldl (· ++ ·) content))) := by
  induction pieces generalizing t content with
  | nil => exact ⟨t, rfl, by rw [List.foldl_nil, ← there, Function.update_eq_self]⟩
  | cons piece rest ih =>
    have appended := FileTree.append_of_leads leads there piece
    have entries := FileTree.find?_place t named (.file (content ++ piece))
    obtain ⟨t', done, same⟩ := ih (leads.of_update entries) (by rw [entries, Function.update_self])
    refine ⟨t', ?_, ?_⟩
    · rw [writePieces, Flow.run_bind, run_change_ok appended]
      exact done
    · rw [same, entries, Function.update_idem, List.foldl_cons]

theorem run_put_present (h : Shows t m) (kind : Kind) (valid : isContentHash hash = true)
    (stored : m (kind, hash) ≠ none) (mark : String) (pieces : List ByteArray) :
    (put kind hash mark pieces).run t = (.ok (), t) := by
  have present : (m (kind, hash)).isSome = true := Option.isSome_iff_ne_none.mpr stored
  simp [put, valid, Flow.run_bind, h.has, present]

/-- Where no file is in the way, the way to a file of this hash is made, whatever the name of the
file; nothing else changes. -/
theorem exists_way (clear : ∀ p, p <+: directoryOf kind hash → p ≠ [] → ∀ content,
      t.find? p ≠ some (.file content)) :
    ∃ t', t.makeDirectories [] (directoryOf kind hash) = .ok t' ∧
      (∀ path, t'.find? path = t.find? path ∨
        path.length ≤ 2 ∧ t'.find? path = some .directory) ∧
      ∀ file, t'.Leads (directoryOf kind hash ++ [file]) := by
  obtain ⟨t', done, directories, others⟩ := @FileTree.exists_makeDirectories t [] _ clear
  refine ⟨t', done, ?_, ?_⟩
  · intro path
    by_cases above : path <+: directoryOf kind hash ∧ path ≠ []
    · exact .inr ⟨above.1.length_le, directories path above.1 above.2⟩
    · refine .inl (others path ?_)
      rintro p below nonempty rfl
      exact above ⟨below, nonempty⟩
  · intro file p above before
    rcases before_three above before with rfl | rfl | rfl
    · rfl
    · exact directories [kind.name] (by simp [directoryOf, List.cons_prefix_cons]) (by simp)
    · exact directories _ (List.prefix_refl _) (by simp)

theorem Shows.exists_way (h : Shows t m) (kind : Kind) (hash : String) :
    ∃ t', t.makeDirectories [] (directoryOf kind hash) = .ok t' ∧ Shows t' m ∧
      ∀ file, t'.Leads (directoryOf kind hash ++ [file]) := by
  have clear : ∀ p, p <+: directoryOf kind hash → p ≠ [] → ∀ content,
      t.find? p ≠ some (.file content) := by
    intro p above _ content there
    obtain ⟨kind', hash', -, same⟩ := (h.files _ _).mp there
    have short := above.length_le
    simp [same, pathOf, directoryOf] at short
  obtain ⟨t', done, made, ways⟩ := Disk.exists_way clear
  exact ⟨t', done, h.withDirectories made, ways⟩

theorem Shows.no_draft (h : Shows t m) (kind : Kind) (hash mark : String) :
    t.find? (draftPathOf kind hash mark) = none := by
  cases there : t.find? (draftPathOf kind hash mark) with
  | none => rfl
  | some e =>
    cases e with
    | file content =>
      obtain ⟨kind', hash', -, same⟩ := (h.files _ _).mp there
      exact absurd same draftPathOf_ne_pathOf
    | directory => exact absurd (h.directories _ there) (by simp [draftPathOf, directoryOf])

/-- On a way that is made, a draft is written and moved to its place. -/
theorem Shows.run_draft (h : Shows t m) (ways : ∀ file, t.Leads (directoryOf kind hash ++ [file]))
    (valid : isContentHash hash = true) (missing : m (kind, hash) = none) (mark : String)
    (pieces : List ByteArray) :
    ∃ t₁ t₂ t₃, t.write (draftPathOf kind hash mark) .empty = .ok t₁ ∧
      (writePieces (draftPathOf kind hash mark) pieces).run t₁ = (.ok (), t₂) ∧
      t₂.rename (draftPathOf kind hash mark) (pathOf kind hash) = .ok t₃ ∧
      Shows t₃ (Function.update m (kind, hash) (some (joined pieces))) := by
  have named : draftPathOf kind hash mark ≠ [] := by simp [draftPathOf]
  have free := h.no_draft kind hash mark
  have way : t.Leads (draftPathOf kind hash mark) := ways _
  have written := FileTree.write_of_leads way (by rw [free]; simp) .empty
  have begun := FileTree.find?_place t named (.file .empty)
  obtain ⟨t₂, filled, complete⟩ := run_writePieces named pieces (way.of_update begun)
    (by rw [begun, Function.update_self])
  rw [begun, Function.update_idem] at complete
  have removed : (t₂.remove (draftPathOf kind hash mark)).find? = t.find? := by
    rw [FileTree.find?_remove t₂ named, complete, Function.update_idem, ← free,
      Function.update_eq_self]
  have target : t.find? (pathOf kind hash) = none := by rw [h.entry, missing]; rfl
  have moved : t₂.rename (draftPathOf kind hash mark) (pathOf kind hash) = .ok _ :=
    FileTree.rename_of_leads (way.of_update complete) (by rw [complete, Function.update_self])
      (by intro p above before; rw [removed]; exact ways _ p above before)
      (by rw [removed, target]; simp)
  refine ⟨_, t₂, _, written, filled, moved, h.update ?_ (fun _ => valid) fun _ => ways _⟩
  rw [FileTree.find?_place _ (by simp [pathOf]), removed]
  rfl

theorem run_put_missing (h : Shows t m) (kind : Kind) (valid : isContentHash hash = true)
    (missing : m (kind, hash) = none) (mark : String) (pieces : List ByteArray) :
    ∃ t', (put kind hash mark pieces).run t = (.ok (), t') ∧
      Shows t' (Function.update m (kind, hash) (some (joined pieces))) := by
  obtain ⟨t₁, made, shows, ways⟩ := h.exists_way kind hash
  obtain ⟨t₂, t₃, t₄, written, filled, moved, shows'⟩ :=
    shows.run_draft ways valid missing mark pieces
  have directories : (change fun t => t.makeDirectories [] (directoryOf kind hash)).run t =
      (.ok (), t₁) := run_change_ok made
  have draft : (change fun t => t.write (draftPathOf kind hash mark) .empty).run t₁ =
      (.ok (), t₂) := run_change_ok written
  have rename : (change fun t =>
      t.rename (draftPathOf kind hash mark) (pathOf kind hash)).run t₃ = (.ok (), t₄) :=
    run_change_ok moved
  refine ⟨t₄, ?_, shows'⟩
  simp [put, commit, valid, Flow.run_bind, h.has, missing, directories, draft, filled, rename]

/-- A call is answered as the map answers it, and leaves the tree of the map that it leaves. -/
theorem Shows.call (h : Shows t m) (c : Call) :
    (c.onDisk t).1 = (c.onMap m).1 ∧ Shows (c.onDisk t).2 (c.onMap m).2 := by
  cases c with
  | put kind hash mark pieces =>
    by_cases valid : isContentHash hash = true
    · by_cases stored : m (kind, hash) = none
      · obtain ⟨t', done, shows⟩ := run_put_missing h kind valid stored mark.toText pieces
        simpa [Call.onDisk, Call.flow, Call.onMap, Flow.run_bind, done, valid, stored] using
          ⟨rfl, shows⟩
      · have done := run_put_present h kind valid stored mark.toText pieces
        have present := Option.isSome_iff_ne_none.mpr stored
        simpa [Call.onDisk, Call.flow, Call.onMap, Flow.run_bind, done, valid, present] using
          ⟨rfl, h⟩
    · rw [Bool.not_eq_true] at valid
      simpa [Call.onDisk, Call.flow, Call.onMap, put_of_invalid kind valid, valid] using ⟨rfl, h⟩
  | get kind hash =>
    simpa [Call.onDisk, Call.flow, Call.onMap, Flow.run_bind, run_get h] using ⟨rfl, h⟩
  | delete kind hash =>
    by_cases valid : isContentHash hash = true
    · obtain ⟨t', done, shows⟩ := run_delete h kind valid
      simpa [Call.onDisk, Call.flow, Call.onMap, Flow.run_bind, done, valid] using ⟨rfl, shows⟩
    · rw [Bool.not_eq_true] at valid
      simpa [Call.onDisk, Call.flow, Call.onMap, delete_of_invalid kind valid, valid] using
        ⟨rfl, h⟩
  | contains kind hash =>
    simpa [Call.onDisk, Call.flow, Call.onMap, Flow.run_bind, run_contains h] using ⟨rfl, h⟩

theorem plain_of_isLowerDigit {cs : List Char} (h : cs.all Hex.isLowerDigit = true) :
    '/' ∉ cs ∧ '.' ∉ cs := by
  constructor
  · intro slash
    exact absurd (List.all_eq_true.mp h _ slash) (by decide)
  · intro dot
    exact absurd (List.all_eq_true.mp h _ dot) (by decide)

theorem plain_toText (mark : Uuid) : '/' ∉ mark.toText.toList := by
  obtain ⟨a, b, c, d, e, groups, -, lower⟩ := mark.isCanonical_toText
  have digits := (plain_of_isLowerDigit lower).1
  rw [groups]
  simp only [List.mem_append, not_or, List.mem_cons] at digits ⊢
  simp [digits]

theorem length_of_valid (valid : isContentHash hash = true) : hash.toList.length = 64 := by
  rw [isContentHash, Bool.and_eq_true, beq_iff_eq] at valid
  exact valid.1

theorem digits_of_valid (valid : isContentHash hash = true) :
    hash.toList.all Hex.isLowerDigit = true := by
  rw [isContentHash, Bool.and_eq_true] at valid
  exact valid.2

theorem isBelow_directoryOf (kind : Kind) (valid : isContentHash hash = true) :
    FileTree.IsBelow (directoryOf kind hash) := by
  have digits : (hash.toList.take 2).all Hex.isLowerDigit = true :=
    List.all_eq_true.mpr fun c hc =>
      List.all_eq_true.mp (digits_of_valid valid) c (List.mem_of_mem_take hc)
  obtain ⟨noSlash, noDot⟩ := plain_of_isLowerDigit digits
  have two : (hash.toList.take 2).length = 2 := by simp [length_of_valid valid]
  intro name hn
  simp only [directoryOf, List.mem_cons, List.not_mem_nil, or_false] at hn
  rcases hn with rfl | rfl
  · exact FileTree.isName_of_long (by cases kind <;> decide) (by cases kind <;> decide)
  · apply FileTree.isName_of_no_dot
    · rw [String.toList_ofList]
      exact List.ne_nil_of_length_pos (by omega)
    · rwa [String.toList_ofList]
    · rwa [String.toList_ofList]

theorem isBelow_file (kind : Kind) (valid : isContentHash hash = true) {ending : String}
    (plain : '/' ∉ ending.toList) :
    FileTree.IsBelow (directoryOf kind hash ++ [hash ++ ending]) := by
  intro name hn
  rcases List.mem_append.mp hn with hn | hn
  · exact isBelow_directoryOf kind valid name hn
  · rw [List.mem_singleton.mp hn]
    apply FileTree.isName_of_long
    · rw [String.toList_append, List.length_append, length_of_valid valid]
      omega
    · rw [String.toList_append, List.mem_append, not_or]
      exact ⟨(plain_of_isLowerDigit (digits_of_valid valid)).1, plain⟩

theorem isBelow_pathOf (kind : Kind) (valid : isContentHash hash = true) :
    FileTree.IsBelow (pathOf kind hash) := isBelow_file kind valid (by decide)

theorem isBelow_draftPathOf (kind : Kind) (valid : isContentHash hash = true) (mark : Uuid) :
    FileTree.IsBelow (draftPathOf kind hash mark.toText) := by
  have plain : '/' ∉ ("." ++ mark.toText ++ ".tmp").toList := by
    simp [String.toList_append, plain_toText]
  have below := isBelow_file kind valid plain
  rwa [← String.append_assoc, ← String.append_assoc] at below

theorem confined_inspect {A : FilePath → Prop} {f : FileTree → α} (h : FileTree.Sees A f) :
    (inspect f).Confined A :=
  Flow.confined_act (fun t t' same => ⟨h t t' same, same⟩) fun _ _ _ => rfl

theorem confined_change {A : FilePath → Prop} {f : FileTree → Except FileFault FileTree}
    (h : FileTree.Local A f) : (change f).Confined A := by
  apply Flow.confined_act
  · intro t t' same
    rcases h.reads t t' same with ⟨e, failed, failed'⟩ | ⟨u, u', done, done', same'⟩
    · simpa [failed, failed'] using same
    · simpa [done, done'] using same'
  · intro t p outside
    cases result : f t with
    | ok u => exact h.writes t u result p outside
    | error e => rfl

theorem confined_writePieces {A : FilePath → Prop} (closed : ∀ p q, p <+: q → A q → A p)
    {path : FilePath} (h : A path) (named : path ≠ []) (pieces : List ByteArray) :
    (writePieces path pieces).Confined A := by
  induction pieces with
  | nil => trivial
  | cons piece rest ih =>
    apply (confined_change (FileTree.local_append closed h named piece)).bind
    intro result
    cases result with
    | ok => exact ih
    | error => trivial

section
variable {A : FilePath → Prop} (closed : ∀ p q, p <+: q → A q → A p)
include closed

theorem confined_commit (kind : Kind) (hash : String) (h : A (pathOf kind hash))
    (h' : A (draftPathOf kind hash mark)) :
    (commit kind hash (draftPathOf kind hash mark)).Confined A := by
  have named : pathOf kind hash ≠ [] := by simp [pathOf]
  have named' : draftPathOf kind hash mark ≠ [] := by simp [draftPathOf]
  apply (confined_change (FileTree.local_rename closed h' named' h named)).bind
  intro result
  cases result with
  | ok => trivial
  | error e =>
    exact (confined_change (FileTree.local_delete closed h' named')).bind fun _ => trivial

theorem confined_put (kind : Kind) (valid : isContentHash hash = true)
    (h : A (pathOf kind hash)) (h' : A (draftPathOf kind hash mark)) (pieces : List ByteArray) :
    (put kind hash mark pieces).Confined A := by
  have named' : draftPathOf kind hash mark ≠ [] := by simp [draftPathOf]
  have directory : A ([] ++ directoryOf kind hash) := closed _ _ ⟨_, rfl⟩ h
  rw [put]
  simp only [valid]
  apply (confined_inspect (FileTree.sees_has closed h)).bind
  intro present
  cases present with
  | true => trivial
  | false =>
    apply (confined_change (FileTree.local_makeDirectories closed directory)).bind
    rintro (_ | _)
    · trivial
    · apply (confined_change (FileTree.local_write closed h' named' .empty)).bind
      rintro (_ | _)
      · trivial
      · apply (confined_writePieces closed h' named' pieces).bind
        rintro (_ | _)
        · trivial
        · exact confined_commit closed kind hash h h'

theorem confined_get (kind : Kind) (valid : isContentHash hash = true)
    (h : A (pathOf kind hash)) : (get kind hash).Confined A := by
  rw [get]
  simp only [valid]
  apply (confined_inspect (FileTree.sees_read closed h)).bind
  rintro ((_ | _ | _ | _) | _) <;> trivial

theorem confined_delete (kind : Kind) (valid : isContentHash hash = true)
    (h : A (pathOf kind hash)) : (delete kind hash).Confined A := by
  have named : pathOf kind hash ≠ [] := by simp [pathOf]
  rw [delete]
  simp only [valid]
  apply (confined_change (FileTree.local_delete closed h named)).bind
  rintro ((_ | _ | _ | _) | _) <;> trivial

theorem confined_contains (kind : Kind) (valid : isContentHash hash = true)
    (h : A (pathOf kind hash)) : (contains kind hash).Confined A := by
  rw [contains]
  simp only [valid]
  exact (confined_inspect (FileTree.sees_has closed h)).bind fun _ => trivial

end

/-- Whatever the key, a call never leaves the directory. -/
theorem confined_flow (c : Call) : c.flow.Confined FileTree.IsBelow := by
  have closed : ∀ p q, p <+: q → FileTree.IsBelow q → FileTree.IsBelow p :=
    fun p q above h => h.of_prefix above
  cases c with
  | put kind hash mark pieces =>
    refine Flow.Confined.bind ?_ fun _ => Flow.confined_pure _
    by_cases valid : isContentHash hash = true
    · exact confined_put closed kind valid (isBelow_pathOf kind valid)
        (isBelow_draftPathOf kind valid mark) pieces
    · rw [put_of_invalid kind (by simpa using valid)]
      exact Flow.confined_pure _
  | get kind hash =>
    refine Flow.Confined.bind ?_ fun _ => Flow.confined_pure _
    by_cases valid : isContentHash hash = true
    · exact confined_get closed kind valid (isBelow_pathOf kind valid)
    · rw [get_of_invalid kind (by simpa using valid)]
      exact Flow.confined_pure _
  | delete kind hash =>
    refine Flow.Confined.bind ?_ fun _ => Flow.confined_pure _
    by_cases valid : isContentHash hash = true
    · exact confined_delete closed kind valid (isBelow_pathOf kind valid)
    · rw [delete_of_invalid kind (by simpa using valid)]
      exact Flow.confined_pure _
  | contains kind hash =>
    refine Flow.Confined.bind ?_ fun _ => Flow.confined_pure _
    by_cases valid : isContentHash hash = true
    · exact confined_contains closed kind valid (isBelow_pathOf kind valid)
    · rw [contains_of_invalid kind (by simpa using valid)]
      exact Flow.confined_pure _

/-- Calls in turn on a directory that is empty at first are answered as by a map, and after them the
files are those of the keys of the map, each in the directory of the first two digits of its hash. A
key that is no hash is refused, or nothing is found under it, without a step. No call reads or
writes outside the directory. -/
theorem write_once_map :
    (∀ calls : List Call,
      (Texture.inTurn Call.onDisk calls .empty).1 =
          (Texture.inTurn Call.onMap calls fun _ => none).1 ∧
        ∀ path content,
          (Texture.inTurn Call.onDisk calls .empty).2.find? path = some (.file content) ↔
            ∃ kind hash, (Texture.inTurn Call.onMap calls fun _ => none).2 (kind, hash) =
                some content ∧ isContentHash hash = true ∧
              path = [kind.name, String.ofList (hash.toList.take 2), hash ++ ".png"]) ∧
      (∀ kind key, isContentHash key = false →
        (∀ mark pieces, put kind key mark pieces = pure (.error (unknown kind key))) ∧
          delete kind key = pure (.error (unknown kind key)) ∧ get kind key = pure (.ok none) ∧
          contains kind key = pure (.ok false)) ∧
      ∀ c : Call, c.flow.Confined FileTree.IsBelow := by
  refine ⟨fun calls => ?_, fun kind key invalid => ?_, confined_flow⟩
  · obtain ⟨answers, shows⟩ := inTurn_alike (fun h => Shows.call h) calls shows_empty
    refine ⟨answers, fun path content => (shows.files path content).trans ?_⟩
    constructor
    · rintro ⟨kind, hash, stored, rfl⟩
      exact ⟨kind, hash, stored, shows.hashes kind hash (by simp [stored]), rfl⟩
    · rintro ⟨kind, hash, stored, -, rfl⟩
      exact ⟨kind, hash, stored, rfl⟩
  · exact ⟨fun _ pieces => put_of_invalid kind invalid pieces, delete_of_invalid kind invalid,
      get_of_invalid kind invalid, contains_of_invalid kind invalid⟩

end Disk

end PlayerRegistry.Texture
