import Mathlib.Data.List.Forall2
import PlayerRegistry.Config.Decode

/-!
# Known settings

A known setting has a place in a table of settings, a type, and a place in the configuration. A
configuration overlays the defaults with a table if each known setting has the value that the table
gives to it, and its default where the table gives none. Where groups of settings are tables, the
configuration that is read from a table is the only one that overlays the defaults with it.
-/

namespace PlayerRegistry

open Toml (Value Table)

/-- The value at the end of a path of keys. -/
def Toml.Value.atPath? : Value → List String → Option Value
  | v, [] => some v
  | .table t, key :: path => (Table.get? t key).bind fun v => v.atPath? path
  | _, _ :: _ => none

namespace Config

def IsText (v : Value) (s : String) : Prop := v = .string s

def IsFlag (v : Value) (b : Bool) : Prop := v = .boolean b

def IsNumber (bound : Nat) (v : Value) (n : Nat) : Prop := v = .integer n ∧ n < bound

def IsWidth (v : Value) (w : UInt32) : Prop := v = .integer w.toNat

/-- A rate may be written without a point. -/
def IsRate (v : Value) (x : Binary64) : Prop :=
  v = .float x ∨ ∃ n : Int, v = .integer n ∧ x = .ofInt n

structure KnownSetting (κ : Type) where
  {α : Type}
  path : List String
  Means : Value → α → Prop
  get : κ → α

variable {κ γ α : Type}

/-- The setting of a group, seen from the table that the group is in. -/
def KnownSetting.inside (group : String) (part : κ → γ) (σ : KnownSetting γ) : KnownSetting κ :=
  ⟨group :: σ.path, σ.Means, fun c => σ.get (part c)⟩

/-- The setting has the value that the table gives, or the default where it gives none. -/
structure KnownSetting.Follows (σ : KnownSetting κ) (t : Table) (d c : κ) : Prop where
  given : ∀ v, (Value.table t).atPath? σ.path = some v → σ.Means v (σ.get c)
  absent : (Value.table t).atPath? σ.path = none → σ.get c = σ.get d

/-- Each of the settings follows the table, laid over the default `d`. -/
def Overlays (settings : List (KnownSetting κ)) (d : κ) (t : Table) (c : κ) : Prop :=
  ∀ σ ∈ settings, σ.Follows t d c

/-- The value is a table, and what it stands for overlays the default with it. -/
def IsGroup (settings : List (KnownSetting κ)) (d : κ) (v : Value) (c : κ) : Prop :=
  ∃ t, v = .table t ∧ Overlays settings d t c

def RateLimit.settings : List (KnownSetting RateLimit) :=
  [⟨["enabled"], IsFlag, enabled⟩,
    ⟨["requests_per_second"], IsRate, requestsPerSecond⟩]

def BodySize.settings : List (KnownSetting BodySize) :=
  [⟨["enabled"], IsFlag, enabled⟩,
    ⟨["size_limit"], IsText, sizeLimit⟩]

def FallbackServer.settings : List (KnownSetting FallbackServer) :=
  [⟨["nickname"], IsText, nickname⟩,
    ⟨["session_url"], IsText, sessionUrl⟩,
    ⟨["account_url"], IsText, accountUrl⟩,
    ⟨["skin_domain"], IsText, skinDomain⟩]

def AnonymousLogin.settings : List (KnownSetting AnonymousLogin) :=
  [⟨["allow"], IsFlag, allow⟩,
    ⟨["username_regex"], IsText, usernamePattern⟩,
    ⟨["password"], IsText, password⟩]

def NewPlayers.settings : List (KnownSetting NewPlayers) :=
  [⟨["allow"], IsFlag, allow⟩,
    ⟨["allow_choosing_uuid"], IsFlag, allowChoosingUuid⟩]

def ExistingPlayers.settings : List (KnownSetting ExistingPlayers) :=
  [⟨["allow"], IsFlag, allow⟩,
    ⟨["nickname"], IsText, nickname⟩,
    ⟨["session_url"], IsText, sessionUrl⟩,
    ⟨["account_url"], IsText, accountUrl⟩,
    ⟨["set_skin_url"], IsText, setSkinUrl⟩,
    ⟨["require_skin_verification"], IsFlag, requireSkinVerification⟩]

/-- A list of servers is given as a whole; what an entry leaves out is empty. -/
def IsServers (v : Value) (servers : List FallbackServer) : Prop :=
  ∃ items, v = .array items ∧
    List.Forall₂ (IsGroup FallbackServer.settings ⟨"", "", "", ""⟩) items servers

def settings : List (KnownSetting Config) :=
  [⟨["instance_name"], IsText, instanceName⟩,
    ⟨["application_owner"], IsText, applicationOwner⟩,
    ⟨["domain"], IsText, domain⟩,
    ⟨["base_url"], IsText, baseUrl⟩,
    ⟨["listen_address"], IsText, listenAddress⟩,
    ⟨["state_directory"], IsText, stateDirectory⟩,
    ⟨["data_directory"], IsText, dataDirectory⟩,
    ⟨["log_requests"], IsFlag, logRequests⟩,
    ⟨["hide_listen_address"], IsFlag, hideListenAddress⟩,
    ⟨["disable_token_expiry"], IsFlag, disableTokenExpiry⟩,
    ⟨["default_preferred_language"], IsText, defaultPreferredLanguage⟩,
    ⟨["skin_size_limit"], IsWidth, skinSizeLimit⟩,
    ⟨["asset_byte_limit"], IsNumber UInt64.size, assetByteLimit⟩,
    ⟨["allow_changing_player_name"], IsFlag, allowChangingPlayerName⟩,
    ⟨["min_password_length"], IsNumber UInt64.size, minPasswordLength⟩,
    ⟨["fetch_timeout_secs"], IsNumber UInt64.size, fetchTimeoutSecs⟩,
    ⟨["allow_private_asset_hosts"], IsFlag, allowPrivateAssetHosts⟩]
  ++ RateLimit.settings.map (.inside "rate_limit" rateLimit)
  ++ BodySize.settings.map (.inside "body_size" bodySize)
  ++ [⟨["fallback_api_servers"], IsServers, fallbackServers⟩]
  ++ AnonymousLogin.settings.map (.inside "anonymous_login" anonymousLogin)
  ++ NewPlayers.settings.map (.inside "registration_new_player" newPlayers)
  ++ ExistingPlayers.settings.map (.inside "registration_existing_player" existingPlayers)

/-- The keys of the groups. -/
def groupKeys : List String :=
  ["rate_limit", "body_size", "anonymous_login", "registration_new_player",
    "registration_existing_player"]

/-- The value of the setting, if there is one, has the right type. -/
def KnownSetting.Typed (σ : KnownSetting κ) (t : Table) : Prop :=
  ∀ v, (Value.table t).atPath? σ.path = some v → ∃ x, σ.Means v x

def AllTyped (known : List (KnownSetting κ)) (t : Table) : Prop := ∀ σ ∈ known, σ.Typed t

/-- Groups are tables, and known settings have values of the right types. Other keys may have any
values. -/
structure WellTyped (t : Table) : Prop where
  groups : ∀ key ∈ groupKeys, ∀ v, t.get? key = some v → ∃ sub, v = .table sub
  values : AllTyped settings t

/-- What a key is read as: what its value stands for, or the default where it has none. -/
structure Given (t : Table) (key : String) (Means : Value → α → Prop) (d x : α) : Prop where
  given : ∀ v, t.get? key = some v → Means v x
  absent : t.get? key = none → x = d

/-- The reader takes the value of the key, if there is one, for what it stands for. -/
def ReadsAt (t : Table) (key : String) (reader : Reader α) (Means : Value → α → Prop) : Prop :=
  ∀ v, t.get? key = some v → ∀ x, reader v = some x ↔ Means v x

section
variable {t : Table} {key : String} {Means : Value → α → Prop} {reader : Reader α} {d x : α}

theorem given_of_none (absent : t.get? key = none) : Given t key Means d x ↔ x = d := by
  refine ⟨fun given => given.absent absent, fun same => ⟨fun v given => ?_, fun _ => same⟩⟩
  cases absent.symm.trans given

theorem given_of_some {v : Value} (found : t.get? key = some v) :
    Given t key Means d x ↔ Means v x := by
  refine ⟨fun given => given.given v found, fun holds => ⟨fun v' given => ?_, fun absent => ?_⟩⟩
  · obtain rfl := Option.some.inj (found.symm.trans given)
    exact holds
  · cases found.symm.trans absent

theorem ReadsAt.eq_some_iff (reads : ReadsAt t key reader Means) (place : Nat) :
    (Settings.named t).read place key reader d = some x ↔ Given t key Means d x := by
  simp only [Settings.read, Settings.get?]
  cases found : t.get? key with
  | none => rw [given_of_none found, Option.some.injEq, eq_comm]
  | some v => rw [given_of_some found, reads v found]

theorem ReadsAt.isSome_iff (reads : ReadsAt t key reader Means) (place : Nat) :
    ((Settings.named t).read place key reader d).isSome ↔
      ∀ v, t.get? key = some v → ∃ x, Means v x := by
  simp only [Option.isSome_iff_exists, reads.eq_some_iff]
  cases found : t.get? key with
  | none => simp [given_of_none found]
  | some v => simp [given_of_some found]

theorem atPath?_single (t : Table) (key : String) : (Value.table t).atPath? [key] = t.get? key := by
  simp [Toml.Value.atPath?]

theorem follows_iff {get : κ → α} {d c : κ} :
    (KnownSetting.mk [key] Means get).Follows t d c ↔ Given t key Means (get d) (get c) := by
  constructor
  · rintro ⟨given, absent⟩
    rw [atPath?_single] at given absent
    exact ⟨given, absent⟩
  · rintro ⟨given, absent⟩
    rw [← atPath?_single] at given absent
    exact ⟨given, absent⟩

theorem typed_iff {get : κ → α} :
    (KnownSetting.mk [key] Means get).Typed t ↔ ∀ v, t.get? key = some v → ∃ x, Means v x := by
  rw [KnownSetting.Typed, atPath?_single]

end

section
variable {t : Table} {key : String}

theorem reads_text : ReadsAt t key .text IsText := by
  intro v _ s
  cases v <;> simp [Reader.text, IsText]

theorem reads_flag : ReadsAt t key .flag IsFlag := by
  intro v _ b
  cases v <;> simp [Reader.flag, IsFlag]

theorem reads_count {bound : Nat} : ReadsAt t key (.count bound) (IsNumber bound) := by
  intro v _ n
  cases v with
  | integer m =>
    simp only [Reader.count, IsNumber, Option.ite_none_right_eq_some, Option.some.injEq,
      Value.integer.injEq]
    omega
  | _ => simp [Reader.count, IsNumber]

theorem reads_width : ReadsAt t key .width IsWidth := by
  intro v found w
  have small := w.toNat_lt_size
  simp only [Reader.width, Option.map_eq_some_iff, reads_count v found, IsNumber, IsWidth]
  constructor
  · rintro ⟨n, ⟨rfl, bound⟩, rfl⟩
    rw [UInt32.toNat_ofNat_of_lt' bound]
  · rintro rfl
    exact ⟨w.toNat, ⟨rfl, small⟩, UInt32.ofNat_toNat⟩

theorem reads_rate : ReadsAt t key .rate IsRate := by
  intro v _ x
  cases v <;> simp [Reader.rate, IsRate, eq_comm]

end

theorem mapM_eq_some_iff_forall₂ {item : Reader α} {Means : Value → α → Prop} {items : List Value}
    {xs : List α} (means : ∀ v ∈ items, ∀ x, item v = some x ↔ Means v x) :
    items.mapM item = some xs ↔ List.Forall₂ Means items xs := by
  induction items generalizing xs with
  | nil => simp [eq_comm]
  | cons v items ih =>
    have ih' : ∀ {ys}, items.mapM item = some ys ↔ List.Forall₂ Means items ys :=
      ih fun w hw => means w (List.mem_cons_of_mem v hw)
    simp only [List.mapM_cons, Option.bind_eq_bind, Option.bind_eq_some_iff, ih',
      means v List.mem_cons_self, Option.pure_def, Option.some.injEq, List.forall₂_cons_left_iff]
    constructor
    · rintro ⟨y, holds, ys, rest, rfl⟩
      exact ⟨y, ys, holds, rest, rfl⟩
    · rintro ⟨y, ys, holds, rest, rfl⟩
      exact ⟨y, holds, ys, rest, rfl⟩

theorem exists_of_mem_forall₂ {Means : Value → α → Prop} {items : List Value} {xs : List α}
    (all : List.Forall₂ Means items xs) {v : Value} (hv : v ∈ items) : ∃ x ∈ xs, Means v x := by
  induction all with
  | nil => cases hv
  | @cons w x items xs holds _ ih =>
    rcases List.mem_cons.mp hv with rfl | rest
    · exact ⟨x, List.mem_cons_self, holds⟩
    · obtain ⟨y, hy, holds⟩ := ih rest
      exact ⟨y, List.mem_cons_of_mem x hy, holds⟩

/-- The settings of a group are all that there is to it, and a table of the group is read by
them. -/
structure ReadBy (known : List (KnownSetting γ)) (d : γ) (read : Settings → Option γ) : Prop where
  complete : ∀ a b, (∀ σ ∈ known, σ.get a = σ.get b) → a = b
  reads : ∀ t x, read (.named t) = some x ↔ Overlays known d t x
  typed : ∀ t, (read (.named t)).isSome ↔ AllTyped known t

namespace ReadBy

variable {known : List (KnownSetting γ)} {d x : γ} {read : Settings → Option γ}

theorem group_iff (group : ReadBy known d read) {sub : Table} :
    Reader.group read (.table sub) = some x ↔ IsGroup known d (.table sub) x := by
  simp [Reader.group, Settings.ofValue?, IsGroup, group.reads]

theorem readsAt (group : ReadBy known d read) {t : Table} {key : String}
    (isTable : ∀ v, t.get? key = some v → ∃ sub, v = .table sub) :
    ReadsAt t key (.group read) (IsGroup known d) := by
  intro v found x
  obtain ⟨sub, rfl⟩ := isTable v found
  exact group.group_iff

end ReadBy

theorem any_const (o : Option α) (b : Bool) : (o.any fun _ => b) = (o.isSome && b) := by
  cases o <;> simp

theorem RateLimit.readBy : ReadBy settings {} ofSettings where
  complete := by
    rintro ⟨⟩ ⟨⟩ same
    simpa [settings] using same
  reads t x := by
    cases x
    simp [-Bool.exists_bool, ofSettings, Overlays, settings, follows_iff, Option.bind_eq_some_iff,
      reads_flag.eq_some_iff, reads_rate.eq_some_iff]
  typed t := by
    simp [ofSettings, AllTyped, settings, typed_iff, Option.isSome_bind, any_const,
      reads_flag.isSome_iff, reads_rate.isSome_iff]

theorem BodySize.readBy : ReadBy settings {} ofSettings where
  complete := by
    rintro ⟨⟩ ⟨⟩ same
    simpa [settings] using same
  reads t x := by
    cases x
    simp [-Bool.exists_bool, ofSettings, Overlays, settings, follows_iff, Option.bind_eq_some_iff,
      reads_flag.eq_some_iff, reads_text.eq_some_iff]
  typed t := by
    simp [ofSettings, AllTyped, settings, typed_iff, Option.isSome_bind, any_const,
      reads_flag.isSome_iff, reads_text.isSome_iff]

theorem FallbackServer.readBy : ReadBy settings {} ofSettings where
  complete := by
    rintro ⟨⟩ ⟨⟩ same
    simpa [settings] using same
  reads t x := by
    cases x
    simp [-Bool.exists_bool, ofSettings, Overlays, settings, follows_iff, Option.bind_eq_some_iff,
      reads_text.eq_some_iff]
  typed t := by
    simp [ofSettings, AllTyped, settings, typed_iff, Option.isSome_bind, any_const,
      reads_text.isSome_iff]

theorem AnonymousLogin.readBy : ReadBy settings {} ofSettings where
  complete := by
    rintro ⟨⟩ ⟨⟩ same
    simpa [settings] using same
  reads t x := by
    cases x
    simp [-Bool.exists_bool, ofSettings, Overlays, settings, follows_iff, Option.bind_eq_some_iff,
      reads_flag.eq_some_iff, reads_text.eq_some_iff]
  typed t := by
    simp [ofSettings, AllTyped, settings, typed_iff, Option.isSome_bind, any_const,
      reads_flag.isSome_iff, reads_text.isSome_iff]

theorem NewPlayers.readBy : ReadBy settings {} ofSettings where
  complete := by
    rintro ⟨⟩ ⟨⟩ same
    simpa [settings] using same
  reads t x := by
    cases x
    simp [-Bool.exists_bool, ofSettings, Overlays, settings, follows_iff, Option.bind_eq_some_iff,
      reads_flag.eq_some_iff]
  typed t := by
    simp [ofSettings, AllTyped, settings, typed_iff, Option.isSome_bind, any_const,
      reads_flag.isSome_iff]

theorem ExistingPlayers.readBy : ReadBy settings {} ofSettings where
  complete := by
    rintro ⟨⟩ ⟨⟩ same
    simpa [settings] using same
  reads t x := by
    cases x
    simp [-Bool.exists_bool, ofSettings, Overlays, settings, follows_iff, Option.bind_eq_some_iff,
      reads_flag.eq_some_iff, reads_text.eq_some_iff]
  typed t := by
    simp [ofSettings, AllTyped, settings, typed_iff, Option.isSome_bind, any_const,
      reads_flag.isSome_iff, reads_text.isSome_iff]

section
variable {t : Table} {key : String} {known : List (KnownSetting γ)} {part : κ → γ} {c c' : κ}

theorem inside_follows_of_none {σ : KnownSetting γ} (absent : t.get? key = none) :
    (σ.inside key part).Follows t c c' ↔ σ.get (part c') = σ.get (part c) := by
  have path : (Value.table t).atPath? (key :: σ.path) = none := by
    simp [Toml.Value.atPath?, absent]
  refine ⟨fun follows => follows.absent path, fun same => ⟨fun v given => ?_, fun _ => same⟩⟩
  cases path.symm.trans given

theorem inside_follows_of_table {σ : KnownSetting γ} {sub : Table}
    (found : t.get? key = some (.table sub)) :
    (σ.inside key part).Follows t c c' ↔ σ.Follows sub (part c) (part c') := by
  have path : (Value.table t).atPath? (key :: σ.path) = (Value.table sub).atPath? σ.path := by
    simp [Toml.Value.atPath?, found]
  constructor
  · rintro ⟨given, absent⟩
    exact ⟨fun v h => given v (path.trans h), fun h => absent (path.trans h)⟩
  · rintro ⟨given, absent⟩
    exact ⟨fun v h => given v (path.symm.trans h), fun h => absent (path.symm.trans h)⟩

/-- A group is overlaid with its table just if its settings are with the table around it. -/
theorem given_group_iff (complete : ∀ a b, (∀ σ ∈ known, σ.get a = σ.get b) → a = b)
    (isTable : ∀ v, t.get? key = some v → ∃ sub, v = .table sub) :
    Given t key (IsGroup known (part c)) (part c) (part c') ↔
      Overlays (known.map (KnownSetting.inside key part)) c t c' := by
  rw [Overlays, List.forall_mem_map]
  cases found : t.get? key with
  | none =>
    simp only [given_of_none found, inside_follows_of_none found]
    exact ⟨fun same σ _ => by rw [same], complete _ _⟩
  | some v =>
    obtain ⟨sub, rfl⟩ := isTable v found
    simp only [given_of_some found, inside_follows_of_table found]
    refine ⟨?_, fun overlays => ⟨sub, rfl, overlays⟩⟩
    rintro ⟨sub', same, overlays⟩
    obtain rfl : sub = sub' := by simpa using same
    exact overlays

theorem typed_group_iff (isTable : ∀ v, t.get? key = some v → ∃ sub, v = .table sub) {d : γ}
    {read : Settings → Option γ} (group : ReadBy known d read) :
    (∀ v, t.get? key = some v → ∃ x, IsGroup known d v x) ↔
      AllTyped (known.map (KnownSetting.inside key part)) t := by
  have path (σ : KnownSetting γ) : (Value.table t).atPath? (key :: σ.path) =
      (t.get? key).bind fun v => v.atPath? σ.path := by
    simp [Toml.Value.atPath?]
  simp only [AllTyped, List.forall_mem_map, KnownSetting.Typed, KnownSetting.inside, path]
  cases found : t.get? key with
  | none => simp
  | some v =>
    obtain ⟨sub, rfl⟩ := isTable v found
    have typed := group.typed sub
    simp only [Option.isSome_iff_exists, group.reads] at typed
    simpa [IsGroup, AllTyped, KnownSetting.Typed] using typed

end

/-- Groups are written as tables, and so is each server of the list. -/
structure Grouped (t : Table) : Prop where
  groups : ∀ key ∈ groupKeys, ∀ v, t.get? key = some v → ∃ sub, v = .table sub
  servers : ∀ items, t.get? "fallback_api_servers" = some (.array items) →
    ∀ v ∈ items, ∃ sub, v = .table sub

theorem WellTyped.grouped {t : Table} (typed : WellTyped t) : Grouped t where
  groups := typed.groups
  servers items given v hv := by
    have known : ⟨["fallback_api_servers"], IsServers, fallbackServers⟩ ∈ settings := by
      simp [settings]
    obtain ⟨servers, items', same, all⟩ := typed.values _ known (.array items) (by
      rw [atPath?_single, given])
    obtain rfl : items = items' := by simpa using same
    obtain ⟨f, -, sub, isTable, -⟩ := exists_of_mem_forall₂ all hv
    exact ⟨sub, isTable⟩

theorem reads_servers {t : Table} {key : String}
    (tables : ∀ items, t.get? key = some (.array items) → ∀ v ∈ items, ∃ sub, v = .table sub) :
    ReadsAt t key (.list (.group FallbackServer.ofSettings)) IsServers := by
  intro v found servers
  cases v with
  | array items =>
    have means : ∀ v ∈ items, ∀ f, Reader.group FallbackServer.ofSettings v = some f ↔
        IsGroup FallbackServer.settings ⟨"", "", "", ""⟩ v f := by
      intro v hv f
      obtain ⟨sub, rfl⟩ := tables items found v hv
      exact FallbackServer.readBy.group_iff
    simp [Reader.list, IsServers, mapM_eq_some_iff_forall₂ means]
  | _ => simp [Reader.list, IsServers]

section
variable {known : List (KnownSetting κ)} {known' : List (KnownSetting κ)} {σ : KnownSetting κ}
  {t : Table} {d c : κ}

theorem overlays_append :
    Overlays (known ++ known') d t c ↔ Overlays known d t c ∧ Overlays known' d t c :=
  List.forall_mem_append

theorem overlays_cons : Overlays (σ :: known) d t c ↔ σ.Follows t d c ∧ Overlays known d t c :=
  List.forall_mem_cons

theorem allTyped_append : AllTyped (known ++ known') t ↔ AllTyped known t ∧ AllTyped known' t :=
  List.forall_mem_append

theorem allTyped_cons : AllTyped (σ :: known) t ↔ σ.Typed t ∧ AllTyped known t :=
  List.forall_mem_cons

end

theorem ReadBy.eq_some_iff {known : List (KnownSetting γ)} {read : Settings → Option γ}
    (part : Config → γ) (group : ReadBy known (part {}) read) {t : Table} {key : String}
    (isTable : ∀ v, t.get? key = some v → ∃ sub, v = .table sub) (place : Nat) (c : Config) :
    (Settings.named t).read place key (.group read) (part {}) = some (part c) ↔
      Overlays (known.map (KnownSetting.inside key part)) {} t c := by
  rw [(group.readsAt isTable).eq_some_iff, given_group_iff group.complete isTable]

theorem ReadBy.isSome_iff {known : List (KnownSetting γ)} {read : Settings → Option γ}
    (part : Config → γ) (group : ReadBy known (part {}) read) {t : Table} {key : String}
    (isTable : ∀ v, t.get? key = some v → ∃ sub, v = .table sub) (place : Nat) (d : γ) :
    ((Settings.named t).read place key (.group read) d).isSome ↔
      AllTyped (known.map (KnownSetting.inside key part)) t := by
  rw [(group.readsAt isTable).isSome_iff, typed_group_iff isTable group]

-- A long `do` block has to be taken apart from the outside in: each of its steps is under all
-- those before it.

section
variable {β : Type} {o : Option α} {f : α → Option β} {y : β}

theorem do_eq_some_iff : (do let x ← o; f x) = some y ↔ ∃ x, o = some x ∧ f x = some y :=
  Option.bind_eq_some_iff

theorem isSome_do : (do let x ← o; f x).isSome = o.any fun x => (f x).isSome :=
  Option.isSome_bind ..

end

/-- A table is read setting by setting. -/
theorem ofTable?_eq_some_iff {t : Table} (grouped : Grouped t) {c : Config} :
    ofTable? t = some c ↔ Overlays settings {} t c := by
  have isTable (key : String) (known : key ∈ groupKeys) := grouped.groups key known
  have rate := RateLimit.readBy.eq_some_iff rateLimit (isTable "rate_limit" (by decide)) 17
  have body := BodySize.readBy.eq_some_iff bodySize (isTable "body_size" (by decide)) 18
  have anonymous := AnonymousLogin.readBy.eq_some_iff anonymousLogin
    (isTable "anonymous_login" (by decide)) 20
  have newcomers := NewPlayers.readBy.eq_some_iff newPlayers
    (isTable "registration_new_player" (by decide)) 21
  have existing := ExistingPlayers.readBy.eq_some_iff existingPlayers
    (isTable "registration_existing_player" (by decide)) 22
  cases c
  simp only [ofTable?, ↓do_eq_some_iff, Option.pure_def, Option.some.injEq, mk.injEq, existsAndEq,
    and_true, settings, List.cons_append, List.nil_append, List.append_assoc, overlays_append,
    overlays_cons, follows_iff, reads_text.eq_some_iff, reads_flag.eq_some_iff,
    reads_count.eq_some_iff, reads_width.eq_some_iff, (reads_servers grouped.servers).eq_some_iff,
    ← rate, ← body, ← anonymous, ← newcomers, ← existing]

/-- A table can be read just if its settings have the right types. -/
theorem isSome_ofTable?_iff {t : Table} (grouped : Grouped t) :
    (ofTable? t).isSome ↔ AllTyped settings t := by
  have isTable (key : String) (known : key ∈ groupKeys) := grouped.groups key known
  have rate := RateLimit.readBy.isSome_iff rateLimit (isTable "rate_limit" (by decide)) 17 {}
  have body := BodySize.readBy.isSome_iff bodySize (isTable "body_size" (by decide)) 18 {}
  have anonymous := AnonymousLogin.readBy.isSome_iff anonymousLogin
    (isTable "anonymous_login" (by decide)) 20 {}
  have newcomers := NewPlayers.readBy.isSome_iff newPlayers
    (isTable "registration_new_player" (by decide)) 21 {}
  have existing := ExistingPlayers.readBy.isSome_iff existingPlayers
    (isTable "registration_existing_player" (by decide)) 22 {}
  simp only [ofTable?, ↓isSome_do, Option.pure_def, Option.isSome_some, Option.any_true, any_const,
    Bool.and_eq_true, settings, List.cons_append, List.nil_append, List.append_assoc,
    allTyped_append, allTyped_cons, typed_iff, reads_text.isSome_iff, reads_flag.isSome_iff,
    reads_count.isSome_iff, reads_width.isSome_iff, (reads_servers grouped.servers).isSome_iff,
    rate, body, anonymous, newcomers, existing]

end Config

end PlayerRegistry
