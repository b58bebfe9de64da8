import Mathlib.Tactic.ByContra
import PlayerRegistry.Account.Update
import PlayerRegistry.Proofs.Work

/-!
# The checks of an update

What can be wrong with an update, each fault on its own and in words that do not follow the checks
themselves. The text fields are checked in the order of the faults, then the skin, then the cape.
-/

namespace PlayerRegistry

/-- Stops at a fault, if there is one. -/
def stopAt : Option Error → Result Unit
  | none => .ok ()
  | some e => .error e

theorem stopAt_bind_ok {α : Type} {fault : Option Error} {k : Unit → Result α} {a : α}
    (h : (stopAt fault >>= k) = .ok a) : fault = none ∧ k () = .ok a := by
  cases fault with
  | none => exact ⟨rfl, h⟩
  | some e => cases h

def UpdateRequest.nameFault (q : UpdateRequest) : Option Error :=
  q.playerName.bind fun name =>
    if 1 ≤ name.length ∧ name.length ≤ 16 then none
    else some (.validation "playerName"
      "player name must be between 1 and 16 characters (inclusive)")

def UpdateRequest.languageFault (q : UpdateRequest) : Option Error :=
  q.preferredLanguage.bind fun language =>
    if language ∈ languages then none
    else some (.validation "preferredLanguage" ("unsupported language " ++ Text.quoted language))

def UpdateRequest.skinModelFault (q : UpdateRequest) : Option Error :=
  q.skinModel.bind fun model =>
    if model = "classic" ∨ model = "slim" then none
    else some (.validation "skinModel" ("unknown skin model " ++ Text.quoted model))

namespace Scene

/-- Another name than the one that the account has is asked for, and names are not changed. -/
def renameFault (s : Scene) (a : Account) (q : UpdateRequest) : Option Error :=
  q.playerName.bind fun name =>
    if a.profile.playerName = name ∨ s.service.policy.config.allowChangingPlayerName = true then
      none
    else some (.forbidden "Changing your player name is not allowed.")

def passwordFault (s : Scene) (q : UpdateRequest) : Option Error :=
  q.newPassword.bind fun password =>
    if s.service.credentials.minLength ≤ password.length then none
    else some (.validation "password" ("password must be at least "
      ++ toString (max s.service.credentials.minLength 1) ++ " characters"))

theorem checkNewName_eq (s : Scene) (a : Account) {q : UpdateRequest} {name : String}
    (h : q.playerName = some name) :
    s.checkNewName a name = stopAt (q.nameFault.or (s.renameFault a q)) := by
  have bound : maxPlayerName = 16 := rfl
  rw [checkNewName, Field.checkPlayerName]
  simp only [UpdateRequest.nameFault, renameFault, h, Option.bind_some, Policy.canChangePlayerName]
  by_cases short : name.length = 0 ∨ maxPlayerName < name.length
  · rw [if_pos short, if_neg (by omega)]
    rfl
  · rw [if_neg short, if_pos (by omega)]
    by_cases allowed : a.profile.playerName = name ∨
        s.service.policy.config.allowChangingPlayerName = true
    · rw [if_pos allowed]
      exact if_pos (by simpa using allowed)
    · rw [if_neg allowed]
      exact if_neg (by simpa using allowed)

theorem checkLanguage_eq {q : UpdateRequest} {language : String}
    (h : q.preferredLanguage = some language) :
    Field.checkLanguage language = stopAt q.languageFault := by
  rw [Field.checkLanguage]
  simp only [UpdateRequest.languageFault, h, Option.bind_some]
  by_cases known : language ∈ languages
  · rw [if_pos known, if_pos known]
    rfl
  · rw [if_neg known, if_neg known]
    rfl

theorem ofName?_eq_none_iff (model : String) :
    SkinModel.ofName? model = none ↔ ¬(model = "classic" ∨ model = "slim") := by
  unfold SkinModel.ofName?
  split
  · simp
  · simp
  · rename_i notClassic notSlim
    simp only [true_iff]
    exact not_or.mpr ⟨notClassic, notSlim⟩

theorem readSkinModel_eq {q : UpdateRequest} {model : String} (h : q.skinModel = some model)
    (default : SkinModel) : Field.readSkinModel model = (do
      stopAt q.skinModelFault
      return (SkinModel.ofName? model).getD default) := by
  rw [Field.readSkinModel]
  simp only [UpdateRequest.skinModelFault, h, Option.bind_some]
  cases hm : SkinModel.ofName? model with
  | none =>
    rw [if_neg ((ofName?_eq_none_iff model).mp hm)]
    rfl
  | some m =>
    have known : model = "classic" ∨ model = "slim" := by
      by_contra unknown
      rw [(ofName?_eq_none_iff model).mpr unknown] at hm
      cases hm
    rw [if_pos known]
    rfl

theorem checkPassword_eq (s : Scene) {q : UpdateRequest} {password : String}
    (h : q.newPassword = some password) :
    s.checkPassword password = stopAt (s.passwordFault q) := by
  have given : password ≠ "" := by simpa using (Option.filter_eq_some_iff.mp h).2
  rw [checkPassword, Credentials.isValidPassword]
  simp only [passwordFault, h, Option.bind_some]
  by_cases long : s.service.credentials.minLength ≤ password.length
  · rw [if_pos long, if_pos (by simp [given, long])]
    rfl
  · rw [if_neg long, if_neg (by simp [long])]
    rfl

/-- The profile with the changes that are plain text. -/
def withText (a : Account) (q : UpdateRequest) : ProfileColumns :=
  { a.profile with
    playerName := q.playerName.getD a.profile.playerName
    language := q.preferredLanguage.getD a.profile.language
    skinModel := (q.skinModel.bind SkinModel.ofName?).getD a.profile.skinModel }

/-- The text fields are checked in the order of their faults. -/
theorem textChanges_eq (s : Scene) (a : Account) (q : UpdateRequest) :
    s.textChanges a q = (do
      stopAt (q.nameFault.or (s.renameFault a q))
      stopAt q.languageFault
      stopAt q.skinModelFault
      stopAt (s.passwordFault q)
      return withText a q) := by
  have names : q.playerName.elim (.ok ()) (s.checkNewName a) =
      stopAt (q.nameFault.or (s.renameFault a q)) := by
    cases h : q.playerName with
    | none => simp [UpdateRequest.nameFault, renameFault, h, stopAt]
    | some name => exact checkNewName_eq s a h
  have languages : q.preferredLanguage.elim (.ok ()) Field.checkLanguage =
      stopAt q.languageFault := by
    cases h : q.preferredLanguage with
    | none => simp [UpdateRequest.languageFault, h, stopAt]
    | some language => exact checkLanguage_eq h
  have models : q.skinModel.elim (.ok a.profile.skinModel) Field.readSkinModel = (do
      stopAt q.skinModelFault
      return (q.skinModel.bind SkinModel.ofName?).getD a.profile.skinModel) := by
    cases h : q.skinModel with
    | none =>
      simp only [UpdateRequest.skinModelFault, h, Option.bind_none, Option.getD_none]
      rfl
    | some model => exact readSkinModel_eq h _
  have passwords : q.newPassword.elim (.ok ()) s.checkPassword = stopAt (s.passwordFault q) := by
    cases h : q.newPassword with
    | none => simp [passwordFault, h, stopAt]
    | some password => exact checkPassword_eq s h
  have inTurn : s.textChanges a q = (do
      q.playerName.elim (.ok ()) (s.checkNewName a)
      q.preferredLanguage.elim (.ok ()) Field.checkLanguage
      let model ← q.skinModel.elim (.ok a.profile.skinModel) Field.readSkinModel
      q.newPassword.elim (.ok ()) s.checkPassword
      return { a.profile with
        playerName := q.playerName.getD a.profile.playerName
        language := q.preferredLanguage.getD a.profile.language
        skinModel := model }) := by
    rw [textChanges]
    cases q.playerName <;> cases q.preferredLanguage <;> cases q.skinModel <;>
      cases q.newPassword <;> rfl
  rw [inTurn, names, languages, models, passwords]
  simp only [bind_assoc, pure_bind]
  rfl

theorem textChanges_ok {s : Scene} {a : Account} {q : UpdateRequest} {p : ProfileColumns}
    (h : s.textChanges a q = .ok p) :
    p = withText a q ∧ q.nameFault = none ∧ s.renameFault a q = none ∧
      q.languageFault = none ∧ q.skinModelFault = none ∧ s.passwordFault q = none := by
  rw [textChanges_eq] at h
  obtain ⟨names, h⟩ := stopAt_bind_ok h
  obtain ⟨languages, h⟩ := stopAt_bind_ok h
  obtain ⟨models, h⟩ := stopAt_bind_ok h
  obtain ⟨passwords, h⟩ := stopAt_bind_ok h
  obtain ⟨lengths, renames⟩ := Option.or_eq_none_iff.mp names
  exact ⟨(Except.ok.inj h).symm, lengths, renames, languages, models, passwords⟩

end Scene

end PlayerRegistry
