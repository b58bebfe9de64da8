import PlayerRegistry.Proofs.Association
import PlayerRegistry.Proofs.Work
import PlayerRegistry.Texture.FileTree

/-!
# Laws of file trees

A tree is seen through what is at each path. `Confined` says of a flow that it neither reads nor
writes outside a set of paths, whatever is there.
-/

namespace PlayerRegistry

namespace FileTree

variable {t t' : FileTree} {path : FilePath}

theorem find?_of_ne_nil (t : FileTree) (named : path ≠ []) :
    t.find? path = t.entries.lookup path := if_neg named

/-- Entries that are the same but at one path make the same tree but for this path. -/
theorem find?_update (named : path ≠ []) {e : Option FileEntry}
    (entries : (fun p => t'.entries.lookup p) =
      Function.update (fun p => t.entries.lookup p) path e) :
    t'.find? = Function.update t.find? path e := by
  funext p
  by_cases root : p = []
  · rw [Function.update_of_ne (root ▸ named.symm), root]
    rfl
  · rw [find?_of_ne_nil _ root, congrFun entries p, Function.update_apply, Function.update_apply,
      find?_of_ne_nil _ root]

theorem find?_remove (t : FileTree) (named : path ≠ []) :
    (t.remove path).find? = Function.update t.find? path none :=
  find?_update named (Association.lookup_remove t.entries path)

theorem find?_place (t : FileTree) (named : path ≠ []) (e : FileEntry) :
    (t.place path e).find? = Function.update t.find? path (some e) := by
  apply find?_update named
  rw [place, Association.lookup_cons, remove, Association.lookup_remove, Function.update_idem]

/-- All that lies on the way to the path is a directory. -/
def Leads (t : FileTree) (path : FilePath) : Prop :=
  ∀ p, p <+: path → p ≠ path → t.find? p = some .directory

/-- No file stands in the way to the path, though something may be missing. -/
def Clear (t : FileTree) (path : FilePath) : Prop :=
  ∀ p, p <+: path → p ≠ path → ∀ content, t.find? p ≠ some (.file content)

theorem Leads.clear (h : t.Leads path) : t.Clear path := by
  intro p above before content
  simp [h p above before]

/-- What is at the end of a way does not block it. -/
theorem Leads.of_update (h : t.Leads path) {e : Option FileEntry}
    (changed : t'.find? = Function.update t.find? path e) : t'.Leads path := by
  intro p above before
  rw [changed, Function.update_of_ne before, h p above before]

theorem checkParents_of_leads {walked rest : FilePath}
    (h : ∀ p, p <+: rest → p ≠ rest → t.find? (walked ++ p) = some .directory) :
    t.checkParents walked rest = .ok () := by
  induction rest generalizing walked with
  | nil => rfl
  | cons name rest ih =>
    cases rest with
    | nil => rfl
    | cons name' rest =>
      have here : t.find? (walked ++ [name]) = some .directory :=
        h [name] ⟨name' :: rest, rfl⟩ (by simp)
      rw [checkParents, here]
      apply ih
      intro p above before
      rw [List.append_assoc]
      exact h (name :: p) (List.cons_prefix_cons.mpr ⟨rfl, above⟩) (by simpa using before)
      all_goals simp

theorem checkParents_of_clear {walked rest : FilePath}
    (h : ∀ p, p <+: rest → p ≠ rest → ∀ content, t.find? (walked ++ p) ≠ some (.file content)) :
    t.checkParents walked rest = .ok () ∨ t.checkParents walked rest = .error .notFound := by
  induction rest generalizing walked with
  | nil => exact .inl rfl
  | cons name rest ih =>
    cases rest with
    | nil => exact .inl rfl
    | cons name' rest =>
      have here := h [name] ⟨name' :: rest, rfl⟩ (by simp)
      rw [checkParents]
      cases there : t.find? (walked ++ [name]) with
      | none => exact .inr rfl
      | some e =>
        cases e with
        | file content => exact absurd there (here content)
        | directory =>
          apply ih
          intro p above before content
          rw [List.append_assoc]
          exact h (name :: p) (List.cons_prefix_cons.mpr ⟨rfl, above⟩) (by simpa using before)
            content
      all_goals simp

theorem look_of_leads (h : t.Leads path) : t.look path = .ok (t.find? path) := by
  have led : t.checkParents [] path = .ok () := checkParents_of_leads h
  rw [look, led]
  rfl

theorem look_of_clear (h : t.Clear path) (missing : t.find? path = none) :
    t.look path = .ok none ∨ t.look path = .error .notFound := by
  have led : t.checkParents [] path = .ok () ∨ t.checkParents [] path = .error .notFound :=
    checkParents_of_clear h
  rw [look]
  rcases led with looked | looked
  · rw [looked]
    exact .inl (congrArg Except.ok missing)
  · rw [looked]
    exact .inr rfl

theorem has_of_leads (h : t.Leads path) : t.has path = (t.find? path).isSome := by
  rw [has, look_of_leads h]
  cases t.find? path <;> rfl

theorem has_of_clear (h : t.Clear path) (missing : t.find? path = none) : t.has path = false := by
  rw [has]
  rcases look_of_clear h missing with looked | looked <;> rw [looked]

theorem read_of_leads (h : t.Leads path) {content : ByteArray}
    (there : t.find? path = some (.file content)) : t.read path = .ok content := by
  rw [read, look_of_leads h, there]
  rfl

theorem read_of_clear (h : t.Clear path) (missing : t.find? path = none) :
    t.read path = .error .notFound := by
  rw [read]
  rcases look_of_clear h missing with looked | looked <;> rw [looked] <;> rfl

theorem delete_of_leads (h : t.Leads path) {content : ByteArray}
    (there : t.find? path = some (.file content)) : t.delete path = .ok (t.remove path) := by
  rw [delete, read_of_leads h there]
  rfl

theorem delete_of_clear (h : t.Clear path) (missing : t.find? path = none) :
    t.delete path = .error .notFound := by
  rw [delete, read_of_clear h missing]
  rfl

theorem write_of_leads (h : t.Leads path) (free : t.find? path ≠ some .directory)
    (content : ByteArray) : t.write path content = .ok (t.place path (.file content)) := by
  rw [write, look_of_leads h]
  cases there : t.find? path with
  | none => rfl
  | some e =>
    cases e with
    | file => rfl
    | directory => exact absurd there free

theorem append_of_leads (h : t.Leads path) {content : ByteArray}
    (there : t.find? path = some (.file content)) (piece : ByteArray) :
    t.append path piece = .ok (t.place path (.file (content ++ piece))) := by
  rw [append, read_of_leads h there]
  rfl

theorem rename_of_leads {source target : FilePath} (h : t.Leads source) {content : ByteArray}
    (there : t.find? source = some (.file content)) (h' : (t.remove source).Leads target)
    (free : (t.remove source).find? target ≠ some .directory) :
    t.rename source target = .ok ((t.remove source).place target (.file content)) := by
  rw [rename, read_of_leads h there]
  exact write_of_leads h' free content

/-- Directories can be made where no file is in the way; nothing else changes. -/
theorem exists_makeDirectories {walked rest : FilePath}
    (clear : ∀ p, p <+: rest → p ≠ [] → ∀ content, t.find? (walked ++ p) ≠ some (.file content)) :
    ∃ t', t.makeDirectories walked rest = .ok t' ∧
      (∀ p, p <+: rest → p ≠ [] → t'.find? (walked ++ p) = some .directory) ∧
      ∀ q, (∀ p, p <+: rest → p ≠ [] → q ≠ walked ++ p) → t'.find? q = t.find? q := by
  induction rest generalizing t walked with
  | nil =>
    refine ⟨t, rfl, fun p above nonempty => ?_, fun q _ => rfl⟩
    exact absurd (List.prefix_nil.mp above) nonempty
  | cons name rest ih =>
    have first : [name] <+: name :: rest := ⟨rest, rfl⟩
    have named : walked ++ [name] ≠ [] := by simp
    -- Past the first name, the tree is the old one or has a new directory there.
    have further : ∀ u : FileTree, u.find? = Function.update t.find? (walked ++ [name])
        (some .directory) → ∃ t', u.makeDirectories (walked ++ [name]) rest = .ok t' ∧
          (∀ p, p <+: name :: rest → p ≠ [] → t'.find? (walked ++ p) = some .directory) ∧
          ∀ q, (∀ p, p <+: name :: rest → p ≠ [] → q ≠ walked ++ p) →
            t'.find? q = t.find? q := by
      intro u made
      have clear' : ∀ p, p <+: rest → p ≠ [] → ∀ content,
          u.find? ((walked ++ [name]) ++ p) ≠ some (.file content) := by
        intro p above nonempty content
        have below : name :: p <+: name :: rest := List.cons_prefix_cons.mpr ⟨rfl, above⟩
        rw [made, Function.update_of_ne (by simpa using nonempty), List.append_assoc]
        exact clear _ below (by simp) content
      obtain ⟨t', done, directories, others⟩ := ih clear'
      have here : t'.find? (walked ++ [name]) = some .directory := by
        rw [others, made, Function.update_self]
        intro p above nonempty same
        exact nonempty (by simpa using same)
      refine ⟨t', done, ?_, ?_⟩
      · intro p within nonempty
        cases p with
        | nil => exact absurd rfl nonempty
        | cons n p =>
          obtain ⟨rfl, above⟩ := List.cons_prefix_cons.mp within
          by_cases last : p = []
          · rw [last, here]
          · rw [List.append_cons]
            exact directories p above last
      · intro q elsewhere
        rw [others, made, Function.update_of_ne (elsewhere _ first (by simp))]
        intro p above nonempty
        rw [List.append_assoc]
        exact elsewhere (name :: p) (List.cons_prefix_cons.mpr ⟨rfl, above⟩) (by simp)
    rw [makeDirectories]
    cases there : t.find? (walked ++ [name]) with
    | none => exact further _ (find?_place t named .directory)
    | some e =>
      cases e with
      | file content => exact absurd there (clear _ first (by simp) content)
      | directory =>
        refine further t ?_
        rw [← there, Function.update_eq_self]

/-- The name leads to an entry of its directory: neither back up nor further down. -/
def IsName (name : String) : Prop :=
  name ≠ "" ∧ name ≠ "." ∧ name ≠ ".." ∧ '/' ∉ name.toList

/-- The path stays below the directory at the root. -/
def IsBelow (path : FilePath) : Prop := ∀ name ∈ path, IsName name

theorem isName_of_long {name : String} (long : 2 < name.toList.length)
    (plain : '/' ∉ name.toList) : IsName name := by
  refine ⟨?_, ?_, ?_, plain⟩ <;> rintro rfl <;> exact absurd long (by decide)

theorem isName_of_no_dot {name : String} (nonempty : name.toList ≠ []) (noDot : '.' ∉ name.toList)
    (plain : '/' ∉ name.toList) : IsName name := by
  refine ⟨?_, ?_, ?_, plain⟩
  · rintro rfl
    exact nonempty (by decide)
  · rintro rfl
    exact noDot (by decide)
  · rintro rfl
    exact noDot (by decide)

theorem IsBelow.of_prefix {p q : FilePath} (above : p <+: q) (h : IsBelow q) : IsBelow p :=
  fun name hp => h name (above.subset hp)

/-- The trees have the same at each of these paths. -/
def AgreeOn (A : FilePath → Prop) (t t' : FileTree) : Prop := ∀ p, A p → t.find? p = t'.find? p

/-- What is found depends on these paths alone. -/
def Sees (A : FilePath → Prop) (f : FileTree → α) : Prop := ∀ t t', AgreeOn A t t' → f t = f t'

/-- Whether the operation fails and what it changes depends on these paths alone, and it changes
nothing at any other. -/
structure Local (A : FilePath → Prop) (f : FileTree → Except FileFault FileTree) : Prop where
  reads : ∀ t t', AgreeOn A t t' →
    (∃ e, f t = .error e ∧ f t' = .error e) ∨
      ∃ u u', f t = .ok u ∧ f t' = .ok u' ∧ AgreeOn A u u'
  writes : ∀ t u, f t = .ok u → ∀ p, ¬A p → u.find? p = t.find? p

end FileTree

namespace Flow

/-- The flow reads and writes at these paths only, whatever is at others. -/
def Confined (A : FilePath → Prop) : Flow FileTree α → Prop
  | done _ => True
  | step update next =>
    (∀ t t', FileTree.AgreeOn A t t' → FileTree.AgreeOn A (update t) (update t')) ∧
      (∀ t p, ¬A p → (update t).find? p = t.find? p) ∧
      FileTree.Sees A next ∧ ∀ t, (next t).Confined A

theorem confined_pure {A : FilePath → Prop} (a : α) : (pure a : Flow FileTree α).Confined A :=
  trivial

theorem confined_act {A : FilePath → Prop} {f : FileTree → α × FileTree}
    (reads : ∀ t t', FileTree.AgreeOn A t t' →
      (f t).1 = (f t').1 ∧ FileTree.AgreeOn A (f t).2 (f t').2)
    (writes : ∀ t p, ¬A p → (f t).2.find? p = t.find? p) : (act f).Confined A :=
  ⟨fun t t' same => (reads t t' same).2, writes,
    fun t t' same => congrArg done (reads t t' same).1, fun _ => trivial⟩

theorem Confined.bind {A : FilePath → Prop} {f : Flow FileTree α} {k : α → Flow FileTree β}
    (h : f.Confined A) (rest : ∀ a, (k a).Confined A) : (f >>= k).Confined A := by
  induction f with
  | done a => exact rest a
  | step update next ih =>
    obtain ⟨reads, writes, sees, further⟩ := h
    refine ⟨reads, writes, fun t t' same => ?_, fun t => ih t (further t)⟩
    exact congrArg (· >>= k) (sees t t' same)

end Flow

namespace FileTree

theorem AgreeOn.place {A : FilePath → Prop} (same : AgreeOn A t t') (named : path ≠ [])
    (e : FileEntry) : AgreeOn A (t.place path e) (t'.place path e) := by
  intro p inside
  rw [find?_place t named, find?_place t' named, Function.update_apply, Function.update_apply,
    same p inside]

theorem AgreeOn.remove {A : FilePath → Prop} (same : AgreeOn A t t') (named : path ≠ []) :
    AgreeOn A (t.remove path) (t'.remove path) := by
  intro p inside
  rw [find?_remove t named, find?_remove t' named, Function.update_apply, Function.update_apply,
    same p inside]

section
variable {A : FilePath → Prop} (closed : ∀ p q, p <+: q → A q → A p)
include closed

theorem sees_checkParents {walked rest : FilePath} (h : A (walked ++ rest)) :
    Sees A fun t => t.checkParents walked rest := by
  intro t t' same
  induction rest generalizing walked with
  | nil => rfl
  | cons name rest ih =>
    cases rest with
    | nil => rfl
    | cons name' rest =>
      have here : A (walked ++ [name]) := closed _ _ (by simp [List.cons_prefix_cons]) h
      have further : t.checkParents (walked ++ [name]) (name' :: rest) =
          t'.checkParents (walked ++ [name]) (name' :: rest) := ih (by simpa using h)
      simp only [checkParents, same _ here] at further ⊢
      cases t'.find? (walked ++ [name]) with
      | none => rfl
      | some e =>
        cases e with
        | file => rfl
        | directory => exact further

theorem sees_look (h : A path) : Sees A fun t => t.look path := by
  intro t t' same
  have way : Sees A fun t => t.checkParents [] path := sees_checkParents closed h
  simp only [look, same path h, way t t' same]

theorem sees_has (h : A path) : Sees A fun t => t.has path := by
  intro t t' same
  simp only [has, sees_look closed h t t' same]

theorem sees_read (h : A path) : Sees A fun t => t.read path := by
  intro t t' same
  simp only [read, sees_look closed h t t' same]

theorem local_write (h : A path) (named : path ≠ []) (content : ByteArray) :
    Local A fun t => t.write path content := by
  constructor
  · intro t t' same
    have seen : t.look path = t'.look path := sees_look closed h t t' same
    simp only [write, seen]
    rcases t'.look path with e | (_ | _ | _)
    · exact .inl ⟨e, rfl, rfl⟩
    · exact .inr ⟨_, _, rfl, rfl, same.place named _⟩
    · exact .inr ⟨_, _, rfl, rfl, same.place named _⟩
    · exact .inl ⟨_, rfl, rfl⟩
  · intro t u done p outside
    have other : p ≠ path := fun here => outside (here ▸ h)
    obtain ⟨found, -, done⟩ := ok_of_bind done
    rcases found with _ | _ | _
    all_goals cases done
    all_goals rw [find?_place t named, Function.update_of_ne other]

theorem local_append (h : A path) (named : path ≠ []) (piece : ByteArray) :
    Local A fun t => t.append path piece := by
  constructor
  · intro t t' same
    have seen : t.read path = t'.read path := sees_read closed h t t' same
    simp only [append, seen]
    rcases t'.read path with e | content
    · exact .inl ⟨e, rfl, rfl⟩
    · exact .inr ⟨_, _, rfl, rfl, same.place named _⟩
  · intro t u done p outside
    have other : p ≠ path := fun here => outside (here ▸ h)
    obtain ⟨content, -, done⟩ := ok_of_bind done
    cases done
    rw [find?_place t named, Function.update_of_ne other]

theorem local_delete (h : A path) (named : path ≠ []) : Local A fun t => t.delete path := by
  constructor
  · intro t t' same
    have seen : t.read path = t'.read path := sees_read closed h t t' same
    simp only [delete, seen]
    rcases t'.read path with e | content
    · exact .inl ⟨e, rfl, rfl⟩
    · exact .inr ⟨_, _, rfl, rfl, same.remove named⟩
  · intro t u done p outside
    have other : p ≠ path := fun here => outside (here ▸ h)
    obtain ⟨content, -, done⟩ := ok_of_bind done
    cases done
    rw [find?_remove t named, Function.update_of_ne other]

theorem local_rename {source target : FilePath} (h : A source) (named : source ≠ [])
    (h' : A target) (named' : target ≠ []) : Local A fun t => t.rename source target := by
  constructor
  · intro t t' same
    have seen : t.read source = t'.read source := sees_read closed h t t' same
    simp only [rename, seen]
    rcases t'.read source with e | content
    · exact .inl ⟨e, rfl, rfl⟩
    · exact (local_write closed h' named' content).reads _ _ (same.remove named)
  · intro t u done p outside
    have other : p ≠ source := fun here => outside (here ▸ h)
    obtain ⟨content, -, done⟩ := ok_of_bind done
    rw [(local_write closed h' named' content).writes _ u done p outside,
      find?_remove t named, Function.update_of_ne other]

theorem local_makeDirectories {walked rest : FilePath} (h : A (walked ++ rest)) :
    Local A fun t => t.makeDirectories walked rest := by
  induction rest generalizing walked with
  | nil =>
    constructor
    · exact fun t t' same => .inr ⟨t, t', rfl, rfl, same⟩
    · intro t u done p _
      cases done
      rfl
  | cons name rest ih =>
    have named : walked ++ [name] ≠ [] := by simp
    have here : A (walked ++ [name]) := closed _ _ (by simp [List.cons_prefix_cons]) h
    have further : Local A fun t => t.makeDirectories (walked ++ [name]) rest :=
      ih (by simpa using h)
    constructor
    · intro t t' same
      simp only [makeDirectories, same _ here]
      rcases t'.find? (walked ++ [name]) with _ | _ | _
      · exact further.reads _ _ (same.place named _)
      · exact .inl ⟨_, rfl, rfl⟩
      · exact further.reads _ _ same
    · intro t u done p outside
      have other : p ≠ walked ++ [name] := fun there => outside (there ▸ here)
      simp only [makeDirectories] at done
      split at done
      · rw [further.writes _ u done p outside, find?_place t named,
          Function.update_of_ne other]
      · exact further.writes _ u done p outside
      · cases done

end

end FileTree

end PlayerRegistry
