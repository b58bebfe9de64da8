import PlayerRegistry.Proofs.Responses
import PlayerRegistry.Proofs.TrimmedTexts

/-!
# Update forms

An update form is read part by part, each part taking the place of what was read before. What comes
of it does not depend on the order of the fields: of each field the last part that counts is taken,
and whatever else the form holds changes nothing.
-/

namespace PlayerRegistry

open Http (Request)
open Http.Multipart (Part)

namespace UpdateRequest

variable {α : Type}

/-- What the last part that counts holds. -/
def lastOf? (counts : Part → Bool) (value : Part → α) (parts : List Part) : Option α :=
  (parts.reverse.find? counts).map value

section
variable {counts : Part → Bool} {value : Part → α}

/-- A part that does not count changes nothing, wherever it stands. -/
theorem lastOf?_insert {p : Part} (idle : counts p = false) (before after : List Part) :
    lastOf? counts value (before ++ p :: after) = lastOf? counts value (before ++ after) := by
  simp [lastOf?, List.find?_append, idle]

/-- Of the parts only those of one name matter, in their order. -/
theorem lastOf?_filter {name : String} (only : ∀ p, counts p = true → p.name = name)
    (parts : List Part) :
    lastOf? counts value (parts.filter fun p => p.name = name) = lastOf? counts value parts := by
  rw [lastOf?, lastOf?, ← List.filter_reverse, List.find?_filter]
  congr 2
  funext p
  cases counted : counts p with
  | false => simp
  | true => simp [only p counted]

/-- Where each part that counts is put in one place of the draft, the last of them is found there
in the end. -/
theorem place_foldl_add {place : Draft → Option α}
    (step : ∀ d p, place (d.add p) = if counts p then some (value p) else place d)
    (parts : List Part) (d : Draft) :
    place (parts.foldl Draft.add d) = (lastOf? counts value parts).or (place d) := by
  induction parts generalizing d with
  | nil => rfl
  | cons p parts ih =>
    rw [List.foldl_cons, ih, step, lastOf?, lastOf?, List.reverse_cons, List.find?_append]
    cases parts.reverse.find? counts with
    | some q => rfl
    | none => cases counted : counts p <;> simp [counted]

end

def isText (name : String) (p : Part) : Bool := p.name = name

def isFile (name : String) (p : Part) : Bool := p.name = name && !p.data.isEmpty

def isUrl (name : String) (p : Part) : Bool := p.name = name && !p.text.toList.all Text.isBlank

/-- The last text of a field. -/
def lastText? (name : String) : List Part → Option String := lastOf? (isText name) Part.text

/-- The last file of a field that is not empty. -/
def lastFile? (name : String) : List Part → Option Texture.Source :=
  lastOf? (isFile name) fun p => .upload ⟨p.data.toArray⟩

/-- The last URL of a field that is not blank. -/
def lastUrl? (name : String) : List Part → Option Texture.Source :=
  lastOf? (isUrl name) fun p => .url p.text

/-- The request that a form makes field by field. -/
def byField (parts : List Part) : UpdateRequest where
  playerName := lastText? "playerName" parts
  preferredLanguage := lastText? "preferredLanguage" parts
  password := lastText? "password" parts
  skinModel := lastText? "skinModel" parts
  skin := (lastFile? "skinFile" parts).or (lastUrl? "skinUrl" parts)
  cape := (lastFile? "capeFile" parts).or (lastUrl? "capeUrl" parts)

theorem file?_or (p : Part) (before : Option Texture.Source) :
    (file? p).or before = if !p.data.isEmpty then some (.upload ⟨p.data.toArray⟩) else before := by
  rw [file?]
  cases p.data <;> rfl

theorem url?_or (p : Part) (before : Option Texture.Source) :
    (url? p).or before =
      if !p.text.toList.all Text.isBlank then some (.url p.text) else before := by
  have blank : Text.trim p.text.toList = [] ↔ p.text.toList.all Text.isBlank = true := by
    rw [Text.trim_eq_nil_iff, List.all_eq_true]
  rw [url?]
  cases all : p.text.toList.all Text.isBlank <;> simp [blank, all]

/-- Each part goes to the place of its name, if it counts there. -/
theorem Draft.add_eq (d : Draft) (p : Part) : d.add p =
    { playerName := if isText "playerName" p then some p.text else d.playerName
      preferredLanguage :=
        if isText "preferredLanguage" p then some p.text else d.preferredLanguage
      password := if isText "password" p then some p.text else d.password
      skinModel := if isText "skinModel" p then some p.text else d.skinModel
      skinFile := if isFile "skinFile" p then some (.upload ⟨p.data.toArray⟩) else d.skinFile
      skinUrl := if isUrl "skinUrl" p then some (.url p.text) else d.skinUrl
      capeFile := if isFile "capeFile" p then some (.upload ⟨p.data.toArray⟩) else d.capeFile
      capeUrl := if isUrl "capeUrl" p then some (.url p.text) else d.capeUrl } := by
  unfold Draft.add isText isFile isUrl
  split <;> simp_all [file?_or, url?_or]

/-- What is read into a place that was empty is the last part that counts there. -/
theorem place_of_parts {counts : Part → Bool} {value : Part → α} {place : Draft → Option α}
    (step : ∀ d p, place (d.add p) = if counts p then some (value p) else place d)
    (empty : place {} = none) (parts : List Part) :
    place (parts.foldl Draft.add {}) = lastOf? counts value parts := by
  rw [place_foldl_add step, empty, Option.or_none]

theorem ofParts_eq_byField (parts : List Part) : ofParts parts = byField parts := by
  have playerName : (parts.foldl Draft.add {}).playerName = lastText? "playerName" parts :=
    place_of_parts (fun d p => congrArg Draft.playerName (d.add_eq p)) rfl parts
  have language :
      (parts.foldl Draft.add {}).preferredLanguage = lastText? "preferredLanguage" parts :=
    place_of_parts (fun d p => congrArg Draft.preferredLanguage (d.add_eq p)) rfl parts
  have password : (parts.foldl Draft.add {}).password = lastText? "password" parts :=
    place_of_parts (fun d p => congrArg Draft.password (d.add_eq p)) rfl parts
  have skinModel : (parts.foldl Draft.add {}).skinModel = lastText? "skinModel" parts :=
    place_of_parts (fun d p => congrArg Draft.skinModel (d.add_eq p)) rfl parts
  have skinFile : (parts.foldl Draft.add {}).skinFile = lastFile? "skinFile" parts :=
    place_of_parts (fun d p => congrArg Draft.skinFile (d.add_eq p)) rfl parts
  have skinUrl : (parts.foldl Draft.add {}).skinUrl = lastUrl? "skinUrl" parts :=
    place_of_parts (fun d p => congrArg Draft.skinUrl (d.add_eq p)) rfl parts
  have capeFile : (parts.foldl Draft.add {}).capeFile = lastFile? "capeFile" parts :=
    place_of_parts (fun d p => congrArg Draft.capeFile (d.add_eq p)) rfl parts
  have capeUrl : (parts.foldl Draft.add {}).capeUrl = lastUrl? "capeUrl" parts :=
    place_of_parts (fun d p => congrArg Draft.capeUrl (d.add_eq p)) rfl parts
  rw [ofParts, Draft.request, playerName, language, password, skinModel, skinFile, skinUrl,
    capeFile, capeUrl, byField]

/-- The same parts, with those of each name in the same order. -/
def SameByName (parts other : List Part) : Prop :=
  ∀ name, other.filter (fun p => p.name = name) = parts.filter fun p => p.name = name

theorem lastOf?_of_sameByName {counts : Part → Bool} {value : Part → α} {name : String}
    (only : ∀ p, counts p = true → p.name = name) {parts other : List Part}
    (same : SameByName parts other) : lastOf? counts value other = lastOf? counts value parts := by
  rw [← lastOf?_filter only, same name, lastOf?_filter only]

theorem byField_of_sameByName {parts other : List Part} (same : SameByName parts other) :
    byField other = byField parts := by
  have text : ∀ name, lastText? name other = lastText? name parts := fun name =>
    lastOf?_of_sameByName (fun p counted => by simpa [isText] using counted) same
  have file : ∀ name, lastFile? name other = lastFile? name parts := fun name =>
    lastOf?_of_sameByName (fun p counted => (by simpa [isFile] using counted : _ ∧ _).1) same
  have url : ∀ name, lastUrl? name other = lastUrl? name parts := fun name =>
    lastOf?_of_sameByName (fun p counted => (by simpa [isUrl] using counted : _ ∧ _).1) same
  simp only [byField, text, file, url]

def textFields : List String := ["playerName", "preferredLanguage", "password", "skinModel"]

def fileFields : List String := ["skinFile", "capeFile"]

def urlFields : List String := ["skinUrl", "capeUrl"]

/-- A part that changes nothing: one of no field, an empty file or a blank URL. -/
inductive IsIdle (p : Part) : Prop where
  | other : p.name ∉ textFields → p.name ∉ fileFields → p.name ∉ urlFields → IsIdle p
  | emptyFile : p.name ∈ fileFields → p.data = [] → IsIdle p
  | blankUrl : p.name ∈ urlFields → (∀ c ∈ p.text.toList, Text.isBlank c = true) → IsIdle p

theorem text_not_file : ∀ name ∈ textFields, name ∉ fileFields := by decide

theorem text_not_url : ∀ name ∈ textFields, name ∉ urlFields := by decide

theorem file_not_url : ∀ name ∈ fileFields, name ∉ urlFields := by decide

namespace IsIdle

variable {p : Part} {name : String}

theorem isText (idle : IsIdle p) (field : name ∈ textFields) : isText name p = false := by
  rw [UpdateRequest.isText, decide_eq_false_iff_not]
  rintro rfl
  cases idle with
  | other text _ _ => exact text field
  | emptyFile file _ => exact text_not_file _ field file
  | blankUrl url _ => exact text_not_url _ field url

theorem isFile (idle : IsIdle p) (field : name ∈ fileFields) : isFile name p = false := by
  rw [UpdateRequest.isFile, Bool.and_eq_false_iff, decide_eq_false_iff_not]
  cases idle with
  | other _ file _ =>
    left
    rintro rfl
    exact file field
  | emptyFile _ empty => exact .inr (by simp [empty])
  | blankUrl url _ =>
    left
    rintro rfl
    exact file_not_url _ field url

theorem isUrl (idle : IsIdle p) (field : name ∈ urlFields) : isUrl name p = false := by
  rw [UpdateRequest.isUrl, Bool.and_eq_false_iff, decide_eq_false_iff_not]
  cases idle with
  | other _ _ url =>
    left
    rintro rfl
    exact url field
  | emptyFile file _ =>
    left
    rintro rfl
    exact file_not_url _ file field
  | blankUrl _ blank => exact .inr (by simpa using blank)

theorem byField (idle : IsIdle p) (before after : List Part) :
    byField (before ++ p :: after) = byField (before ++ after) := by
  have text : ∀ name ∈ textFields,
      lastText? name (before ++ p :: after) = lastText? name (before ++ after) :=
    fun _ field => lastOf?_insert (idle.isText field) before after
  have file : ∀ name ∈ fileFields,
      lastFile? name (before ++ p :: after) = lastFile? name (before ++ after) :=
    fun _ field => lastOf?_insert (idle.isFile field) before after
  have url : ∀ name ∈ urlFields,
      lastUrl? name (before ++ p :: after) = lastUrl? name (before ++ after) :=
    fun _ field => lastOf?_insert (idle.isUrl field) before after
  simp only [textFields, fileFields, urlFields, List.forall_mem_cons] at text file url
  obtain ⟨playerName, language, password, skinModel, -⟩ := text
  obtain ⟨skinFile, capeFile, -⟩ := file
  obtain ⟨skinUrl, capeUrl, -⟩ := url
  rw [UpdateRequest.byField, playerName, language, password, skinModel, skinFile, capeFile,
    skinUrl, capeUrl, UpdateRequest.byField]

end IsIdle

end UpdateRequest

namespace Site

/-- The parts of the form that a request sends, if it is well formed and not too long. -/
def formParts? (limit : Option Nat) (q : Request) : Option (List Part) := do
  let boundary ← (q.header? "content-type").bind Http.Multipart.boundary?
  let body ← body? limit q
  Http.Multipart.parts? boundary body

theorem outcome_updateOf_of_parts {limit : Option Nat} {q : Request} {parts : List Part}
    (sent : formParts? limit q = some parts) (r : Registry) :
    outcome (updateOf limit q) r = (.ok (.ofParts parts), r) := by
  obtain ⟨boundary, announced, sent⟩ := Option.bind_eq_some_iff.mp sent
  rw [updateOf, announced]
  have read : (body? limit q).bind (Http.Multipart.parts? boundary) = some parts := sent
  simp only [read]
  rfl

end Site

namespace UpdateRequest

/-- What comes of an update form. A request whose body is made of parts asks for what they say field
by field: of each text the last part, of each texture the last file that is not empty, or else the
last URL that is not blank. So it matters only in which order the parts of one name stand, and a
part of no field, an empty file and a blank URL change nothing, wherever they stand. -/
theorem form_read_by_field (parts : List Part) :
    (∀ limit q r, Site.formParts? limit q = some parts →
      Site.outcome (Site.updateOf limit q) r = (.ok (byField parts), r)) ∧
    ofParts parts = byField parts ∧
    (∀ other, SameByName parts other → ofParts other = ofParts parts) ∧
    ∀ before p after, parts = before ++ after → IsIdle p →
      ofParts (before ++ p :: after) = ofParts parts := by
  simp only [ofParts_eq_byField]
  refine ⟨fun limit q r sent => ?_, trivial, fun other same => byField_of_sameByName same, ?_⟩
  · rw [Site.outcome_updateOf_of_parts sent, ofParts_eq_byField]
  · rintro before p after rfl idle
    exact idle.byField before after

open Http.Multipart (ascii lineEnd)

/-- A part as it is sent, after the boundary `x`. -/
def written (p : Part) : List UInt8 :=
  ascii "--x" ++ lineEnd ++ ascii "content-disposition: form-data; name=" ++ ascii p.name ++ lineEnd
    ++ lineEnd ++ p.data ++ lineEnd

def aliceField : Part := ⟨"playerName", none, ascii "alice"⟩

def bobField : Part := ⟨"playerName", none, ascii "bob"⟩

def fileField : Part := ⟨"skinFile", none, ascii "PNG"⟩

def urlField : Part := ⟨"skinUrl", none, ascii "http://h/s"⟩

/-- A form with two names, a file and, after it, a URL. -/
def skinForm : List Part := [aliceField, fileField, bobField, urlField]

def skinRequest : Request where
  method := "POST"
  target := "/update"
  headers := [("content-type", "multipart/form-data; boundary=x")]
  body := ⟨(skinForm.flatMap written ++ ascii "--x--").toArray⟩
  client := none

def skinOfBob : UpdateRequest :=
  ⟨some "bob", none, none, none, some (.upload ⟨(ascii "PNG").toArray⟩), none⟩

/-- The later name and the earlier file are taken, also where the file comes last or an empty one
follows it. -/
theorem bob_takes_the_file :
    (∀ r, Site.outcome (Site.updateOf none skinRequest) r = (.ok skinOfBob, r)) ∧
    ofParts [urlField, aliceField, bobField, fileField] = skinOfBob ∧
    ofParts [aliceField, fileField, bobField, ⟨"skinFile", none, []⟩, urlField] = skinOfBob := by
  obtain ⟨sent, fields, reordered, inserted⟩ := form_read_by_field skinForm
  have read : Site.formParts? none skinRequest = some skinForm := by decide +kernel
  have asked : byField skinForm = skinOfBob := rfl
  have same : SameByName skinForm [urlField, aliceField, bobField, fileField] := by
    intro name
    by_cases player : name = "playerName"
    · subst player
      decide +kernel
    by_cases url : name = "skinUrl"
    · subst url
      decide +kernel
    by_cases file : name = "skinFile"
    · subst file
      decide +kernel
    simp [skinForm, aliceField, fileField, bobField, urlField, Ne.symm player, Ne.symm url,
      Ne.symm file]
  refine ⟨fun r => ?_, ?_, ?_⟩
  · rw [sent none skinRequest r read, asked]
  · rw [reordered _ same, fields, asked]
  · rw [← asked, ← fields]
    exact inserted [aliceField, fileField, bobField] _ [urlField] rfl
      (.emptyFile (by decide) rfl)

end UpdateRequest

end PlayerRegistry
