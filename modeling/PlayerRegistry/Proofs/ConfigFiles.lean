import Mathlib
import PlayerRegistry.Config.File
import PlayerRegistry.Proofs.KnownSettings

/-!
# Reading configuration files

A document whose settings have the right types stands for just one configuration: the one that
overlays the defaults with them. That is what a file with this document is read as, unless the
configuration is not usable, and then it is the fault that is reported.
-/

namespace PlayerRegistry.Config

open Toml (Value Table)

variable {text path : String} {t : Table} {c c' : Config} {e : Error}

theorem WellTyped.exists_overlays (typed : WellTyped t) :
    ∃ c, ofTable? t = some c ∧ Overlays settings {} t c :=
  have read : (ofTable? t).isSome := (isSome_ofTable?_iff typed.grouped).mpr typed.values
  have ⟨c, found⟩ := Option.isSome_iff_exists.mp read
  ⟨c, found, (ofTable?_eq_some_iff typed.grouped).mp found⟩

theorem WellTyped.overlays_unique (typed : WellTyped t) (overlays : Overlays settings {} t c)
    (overlays' : Overlays settings {} t c') : c' = c := by
  rw [← ofTable?_eq_some_iff typed.grouped] at overlays overlays'
  exact Option.some.inj (overlays'.symm.trans overlays)

/-- The bytes of a text that stands for a configuration are read as it, once it has been checked. -/
theorem ofBytes_toUTF8 (stands : ofText? text = some c) :
    ofBytes path text.toUTF8 = c.check.map fun _ => c := by
  have decoded : String.fromUTF8? text.toUTF8 = some text := dif_pos text.isValidUTF8
  simp only [ofBytes, decoded, stands]
  cases c.check <;> rfl

theorem ofBytes_eq_ok_iff (stands : ofText? text = some c) :
    ofBytes path text.toUTF8 = .ok c' ↔ c' = c ∧ c.check = .ok () := by
  rw [ofBytes_toUTF8 stands]
  cases c.check with
  | ok _ => simp [Except.map, eq_comm]
  | error _ => simp [Except.map]

theorem ofBytes_eq_error_iff (stands : ofText? text = some c) :
    ofBytes path text.toUTF8 = .error e ↔ c.check = .error e := by
  rw [ofBytes_toUTF8 stands]
  cases c.check <;> simp [Except.map]

theorem readOrCreate_again (path : String) (file : Option ByteArray) :
    readOrCreate path (some (readOrCreate path file).2) = readOrCreate path file := by
  simp only [readOrCreate, Option.getD_some]

/-- A file overlays the defaults. There is just one configuration in which each setting that the
file names has the file's value, and each other one, also in a group that is only partly given, has
its default. The file is read as it, just if it is usable, and the first fault is reported if it is
not. A file that is there stays as it is, and reading it again yields the same. -/
theorem file_overlays_defaults (document : Toml.parse? text = some t) (typed : WellTyped t)
    (path : String) :
    ∃ c : Config, Overlays settings {} t c ∧ (∀ c', Overlays settings {} t c' → c' = c) ∧
      (∀ c', (readOrCreate path (some text.toUTF8)).1 = .ok c' ↔ c' = c ∧ c.check = .ok ()) ∧
      (∀ e, (readOrCreate path (some text.toUTF8)).1 = .error e ↔ c.check = .error e) ∧
      (∀ content, (readOrCreate path (some content)).2 = content) ∧
      ∀ file, readOrCreate path (some (readOrCreate path file).2) = readOrCreate path file := by
  obtain ⟨c, found, overlays⟩ := typed.exists_overlays
  have stands : ofText? text = some c := by rw [ofText?, document, Option.bind_some, found]
  exact ⟨c, overlays, fun _ => typed.overlays_unique overlays, fun _ => ofBytes_eq_ok_iff stands,
    fun _ => ofBytes_eq_error_iff stands, fun _ => rfl, readOrCreate_again path⟩

/-- Names settings of some groups, a server with a nickname only, and keys that are not known. -/
def partialText : String :=
  "instance_name = \"Test\"\nmotd = \"hi\"\n" ++
  "[rate_limit]\nburst = 3\nrequests_per_second = 5\n" ++
  "[[fallback_api_servers]]\nnickname = \"Elsewhere\"\n"

def partialTable : Table :=
  [("instance_name", .string "Test"), ("motd", .string "hi"),
    ("rate_limit", .table [("burst", .integer 3), ("requests_per_second", .integer 5)]),
    ("fallback_api_servers", .array [.table [("nickname", .string "Elsewhere")]])]

def partialConfig : Config where
  instanceName := "Test"
  rateLimit := { requestsPerSecond := .ofInt 5 }
  fallbackServers := [{ nickname := "Elsewhere" }]

theorem parse?_partialText : Toml.parse? partialText = some partialTable := by cbv

theorem ofTable?_partialTable : ofTable? partialTable = some partialConfig := by decide +kernel

theorem wellTyped_partialTable : WellTyped partialTable := by
  have grouped : Grouped partialTable := by
    constructor <;> simp [groupKeys, partialTable, Table.get?, List.lookup_cons]
  have read : (ofTable? partialTable).isSome := by rw [ofTable?_partialTable, Option.isSome_some]
  exact ⟨grouped.groups, (isSome_ofTable?_iff grouped).mp read⟩

theorem partialText_is_read : Toml.parse? partialText = some partialTable ∧
    WellTyped partialTable ∧
    (readOrCreate "config.toml" (some partialText.toUTF8)).1 = .ok partialConfig := by
  obtain ⟨c, overlays, -, read, -⟩ :=
    file_overlays_defaults parse?_partialText wellTyped_partialTable "config.toml"
  have same : partialConfig = c := Option.some.inj <| ofTable?_partialTable.symm.trans <|
    (ofTable?_eq_some_iff wellTyped_partialTable.grouped).mpr overlays
  have usable : partialConfig.check = .ok () := by decide +kernel
  exact ⟨parse?_partialText, wellTyped_partialTable, (read partialConfig).mpr ⟨same, same ▸ usable⟩⟩

end PlayerRegistry.Config
