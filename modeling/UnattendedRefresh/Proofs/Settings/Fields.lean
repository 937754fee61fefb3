import UnattendedRefresh.Proofs.Config.Variables
import UnattendedRefresh.Settings.Source

/-!
# The fields of the settings

Settings are read from a table entry by entry. An entry for a field puts in what is read
from it and leaves the other fields as they were, and every other entry is passed over. So
each field of the settings is known from what stands in the table at its key.
-/

namespace UnattendedRefresh.Settings

open Config

inductive Field where
  | enabled
  | minSecondsSinceLastRefresh
  | blacklistedProviders
  | perTenantRefreshesPerDay
  | defaultRefreshesPerDay
  deriving DecidableEq

namespace Field

def key : Field → String
  | enabled => "enabled"
  | minSecondsSinceLastRefresh => "min_seconds_since_last_refresh"
  | blacklistedProviders => "blacklisted_providers"
  | perTenantRefreshesPerDay => "per_tenant_refreshes_per_day"
  | defaultRefreshesPerDay => "default_refreshes_per_day"

def ofKey? : String → Option Field
  | "enabled" => some enabled
  | "min_seconds_since_last_refresh" => some minSecondsSinceLastRefresh
  | "blacklisted_providers" => some blacklistedProviders
  | "per_tenant_refreshes_per_day" => some perTenantRefreshesPerDay
  | "default_refreshes_per_day" => some defaultRefreshesPerDay
  | _ => none

/-- What a field holds. -/
def Kind : Field → Type
  | enabled => Bool
  | minSecondsSinceLastRefresh => UInt64
  | blacklistedProviders => OrderedSet String
  | perTenantRefreshesPerDay => OrderedMap TenantId UInt32
  | defaultRefreshesPerDay => UInt32

def get (settings : Settings) : (field : Field) → field.Kind
  | enabled => settings.enabled
  | minSecondsSinceLastRefresh => settings.minSecondsSinceLastRefresh
  | blacklistedProviders => settings.blacklistedProviders
  | perTenantRefreshesPerDay => settings.perTenantRefreshesPerDay
  | defaultRefreshesPerDay => settings.defaultRefreshesPerDay

def put (settings : Settings) : (field : Field) → field.Kind → Settings
  | enabled, value => { settings with enabled := value }
  | minSecondsSinceLastRefresh, value => { settings with minSecondsSinceLastRefresh := value }
  | blacklistedProviders, value => { settings with blacklistedProviders := value }
  | perTenantRefreshesPerDay, value => { settings with perTenantRefreshesPerDay := value }
  | defaultRefreshesPerDay, value => { settings with defaultRefreshesPerDay := value }

/-- How a field is read from a value. -/
def read (value : Value) : (field : Field) → Reading field.Kind
  | enabled => readFlag value
  | minSecondsSinceLastRefresh => (readNatural UInt64.size value).map UInt64.ofNat
  | blacklistedProviders => readTextSet value
  | perTenantRefreshesPerDay => readRateTable value
  | defaultRefreshesPerDay => (readNatural UInt32.size value).map UInt32.ofNat

/-- What is read for a field, or kept if nothing is said of it. -/
def readOver (field : Field) (kept : field.Kind) : Option Value → Reading field.Kind
  | some value => field.read value
  | none => .ok kept

variable {field other : Field} {settings result : Settings} {entries others : Table}

@[simp]
theorem ofKey?_key (field : Field) : ofKey? field.key = some field := by
  cases field <;> rfl

theorem ofKey?_eq_some_iff {key : String} : ofKey? key = some field ↔ key = field.key := by
  constructor
  · intro named
    unfold ofKey? at named
    split at named <;> cases named <;> rfl
  · rintro rfl
    exact ofKey?_key field

theorem key_inj : field.key = other.key ↔ field = other :=
  ⟨fun same => by simpa using congrArg ofKey? same, congrArg key⟩

@[simp]
theorem get_put (settings : Settings) (field : Field) (value : field.Kind) :
    field.get (field.put settings value) = value := by
  cases field <;> rfl

theorem get_put_of_ne (apart : other ≠ field) (settings : Settings) (value : field.Kind) :
    other.get (field.put settings value) = other.get settings := by
  cases field <;> cases other <;> first | rfl | exact absurd rfl apart

/-- Settings are known by their fields. -/
theorem ext_get (same : ∀ field : Field, field.get settings = field.get result) :
    settings = result := by
  cases settings
  cases result
  congr 1
  · exact same .enabled
  · exact same .minSecondsSinceLastRefresh
  · exact same .blacklistedProviders
  · exact same .perTenantRefreshesPerDay
  · exact same .defaultRefreshesPerDay

theorem takeEntry_eq (settings : Settings) (key : String) (value : Value) :
    settings.takeEntry key value =
      match ofKey? key with
      | some field => (field.read value).map (field.put settings)
      | none => .ok settings := by
  cases named : ofKey? key with
  | none =>
      unfold takeEntry
      split
      case h_6 => rfl
      all_goals cases named
  | some field =>
      obtain rfl := ofKey?_eq_some_iff.mp named
      have mapped {Number Word : Type} (reading : Reading Number) (word : Number → Word)
          (change : Word → Settings) :
          reading.map (fun number => change (word number)) = (reading.map word).map change := by
        cases reading <;> rfl
      cases field with
      | enabled | blacklistedProviders | perTenantRefreshesPerDay => rfl
      | minSecondsSinceLastRefresh =>
          exact mapped (readNatural UInt64.size value) UInt64.ofNat
            (minSecondsSinceLastRefresh.put settings)
      | defaultRefreshesPerDay =>
          exact mapped (readNatural UInt32.size value) UInt32.ofNat
            (defaultRefreshesPerDay.put settings)

theorem takeEntry_of_foreign {key : String} (foreign : ofKey? key = none) (settings : Settings)
    (value : Value) : settings.takeEntry key value = .ok settings := by
  rw [takeEntry_eq, foreign]

/-! ### All entries of a table -/

/-- By induction on the table: each entry for a field decides that field, and no later entry
is for the same. -/
theorem takeEntries_eq_ok_iff (ascending : AscendingKeys entries) :
    settings.takeEntries entries = .ok result ↔
      ∀ field : Field, field.readOver (field.get settings) (valueAt? field.key entries) =
        .ok (field.get result) := by
  induction entries generalizing settings with
  | nil =>
      constructor
      · intro taken field
        rw [Except.ok.inj taken]
        rfl
      · intro same
        exact congrArg Except.ok (ext_get fun field => Except.ok.inj (same field))
  | cons entry rest ih =>
      obtain ⟨key, value⟩ := entry
      obtain ⟨below, restAscending⟩ := List.pairwise_cons.mp ascending
      have elsewhere {other : Field} (apart : key ≠ other.key) :
          valueAt? other.key ((key, value) :: rest) = valueAt? other.key rest := by
        simp [valueAt?, apart]
      rw [takeEntries, bind_eq_ok, takeEntry_eq]
      cases named : ofKey? key with
      | none =>
          have foreign (field : Field) : key ≠ field.key := fun same => by
            simp [same] at named
          simp only [elsewhere (foreign _)]
          constructor
          · rintro ⟨next, took, onward⟩
            obtain rfl : settings = next := Except.ok.inj (readAt_eq_ok.mp took)
            exact (ih restAscending).mp onward
          · exact fun fields => ⟨settings, rfl, (ih restAscending).mpr fields⟩
      | some field =>
          obtain rfl := ofKey?_eq_some_iff.mp named
          have here : valueAt? field.key ((field.key, value) :: rest) = some value := by
            simp [valueAt?]
          have silent : valueAt? field.key rest = none := by
            refine valueAt?_eq_none_iff.mpr fun other member same => ?_
            simpa [same] using below other member
          constructor
          · rintro ⟨next, took, onward⟩ other
            obtain ⟨kind, read, rfl⟩ := map_eq_ok.mp (readAt_eq_ok.mp took)
            have later := (ih restAscending).mp onward other
            by_cases same : other = field
            · subst same
              rw [silent, get_put] at later
              rw [here, readOver, read, Except.ok.inj later]
            · rwa [elsewhere fun equal => same (key_inj.mp equal).symm, ← get_put_of_ne same]
          · intro fields
            have own := fields field
            rw [here] at own
            refine ⟨field.put settings (field.get result), readAt_eq_ok.mpr ?_,
              (ih restAscending).mpr fun other => ?_⟩
            · exact map_eq_ok.mpr ⟨_, own, rfl⟩
            · by_cases same : other = field
              · subst same
                rw [silent, get_put]
                rfl
              · rw [get_put_of_ne same, ← fields other,
                  elsewhere fun equal => same (key_inj.mp equal).symm]

/-- Entries that are for no field may be left out. -/
theorem takeEntries_filter (settings : Settings) (entries : Table) :
    settings.takeEntries (entries.filter fun entry => (ofKey? entry.1).isSome) =
      settings.takeEntries entries := by
  induction entries generalizing settings with
  | nil => rfl
  | cons entry rest ih =>
      obtain ⟨key, value⟩ := entry
      rw [takeEntries]
      cases named : ofKey? key with
      | none =>
          rw [List.filter_cons_of_neg (by simp [named]), takeEntry_of_foreign named, ih]
          rfl
      | some field =>
          rw [List.filter_cons_of_pos (by simp [named]), takeEntries]
          congr 1
          funext next
          exact ih next

/-- What is read, and what is wrong, depends on nothing but the entries for the fields. -/
theorem takeEntries_congr (ascending : AscendingKeys entries)
    (othersAscending : AscendingKeys others)
    (same : ∀ field : Field, valueAt? field.key entries = valueAt? field.key others) :
    settings.takeEntries entries = settings.takeEntries others := by
  rw [← takeEntries_filter settings entries, ← takeEntries_filter settings others]
  congr 1
  refine eq_of_valueAt? (ascending.filter _) (othersAscending.filter _) fun key => ?_
  have kept (table : Table) := valueAt?_filter (fun key => (ofKey? key).isSome) key table
  rw [kept, kept]
  cases named : ofKey? key with
  | none => rfl
  | some field =>
      obtain rfl := ofKey?_eq_some_iff.mp named
      simpa using same field

end Field

end UnattendedRefresh.Settings
