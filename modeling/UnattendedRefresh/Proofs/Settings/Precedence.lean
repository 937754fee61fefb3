import Mathlib.Data.String.Basic
import UnattendedRefresh.Proofs.Settings.Fields
import UnattendedRefresh.Proofs.Toml.Tables

/-!
# Which rate a tenant gets

Rates come from a file and from the environment, and both may spell one tenant in their
own way. They are merged by their spellings and only then read, in the order of the
spellings. So the environment prevails over the file where no spelling of the file comes
after its own.
-/

namespace UnattendedRefresh

open Config

namespace Settings

def ratesKey : String := "per_tenant_refreshes_per_day"

/-- The rates that a layer sets, by the texts that name the tenants. -/
def ratesIn (layer : Table) : Table :=
  match valueAt? ratesKey layer with
  | some (.table entries) => entries
  | _ => []

/-- What a layer says of a tenant, in whatever spelling. -/
def sayings (tenant : TenantId) (layer : Table) : Table :=
  (ratesIn layer).filter (Names tenant)

/-- The last of the entries, by their keys, says this rate. -/
def LastSays (entries : Table) (rate : UInt32) : Prop :=
  ∃ entry ∈ entries, entry.2 = .natural rate.toNat ∧ ∀ other ∈ entries, other.1 ≤ entry.1

/-- What stands where the rates are once a layer is put over them. -/
def ratesUnder (old : Value) (layer : Table) : Value :=
  match valueAt? ratesKey layer with
  | some value => merge old value
  | none => old

section Merged

variable {old : Value} {below layer merged : Table}

theorem valueAt?_ratesUnder (ascending : AscendingKeys layer)
    (found : valueAt? ratesKey below = some old) :
    valueAt? ratesKey (mergeEntries below layer) = some (ratesUnder old layer) := by
  rw [ratesUnder]
  cases said : valueAt? ratesKey layer with
  | none => rw [valueAt?_mergeEntries_of_none said, found]
  | some value => rw [valueAt?_mergeEntries_of_some ascending said, mergedAt, found]

/-- Rates that are a table after all are those of the layer, over a table that stood
there before or on their own. -/
theorem ratesUnder_eq_table (table : ratesUnder old layer = .table merged) :
    (∃ before, old = .table before ∧ merged = mergeEntries before (ratesIn layer)) ∨
      (∀ before, old ≠ .table before) ∧ merged = ratesIn layer := by
  rw [ratesUnder] at table
  rw [ratesIn]
  cases said : valueAt? ratesKey layer with
  | none =>
      rw [said] at table
      exact Or.inl ⟨merged, table, rfl⟩
  | some value =>
      rw [said] at table
      cases value with
      | table above =>
          cases old with
          | table before => exact Or.inl ⟨before, rfl, by simpa [merge, eq_comm] using table⟩
          | _ => exact Or.inr ⟨by simp, by simpa [merge, eq_comm] using table⟩
      | _ => simp [merge] at table

theorem ratesIn_eq_nil (other : ∀ before, ratesUnder (.table []) layer ≠ .table before) :
    ratesIn layer = [] := by
  rw [ratesIn]
  split
  next entries said =>
    exact absurd (by simp [ratesUnder, said, merge]) (other (mergeEntries [] entries))
  next => rfl

end Merged

/-- A table with the entries of two others, where the latter prevails. -/
structure Overlaid (below above merged : Table) : Prop where
  present : ∀ entry, entry ∈ below ∨ entry ∈ above → ∃ other ∈ merged, other.1 = entry.1
  said : ∀ key number, (key, .natural number) ∈ merged →
    (key, .natural number) ∈ above ∨
      (key, .natural number) ∈ below ∧ ∀ entry ∈ above, entry.1 ≠ key

namespace Overlaid

variable {below above merged : Table} {tenant : TenantId} {rate : UInt32}

theorem of_merge (below above : Table) :
    Overlaid below above (mergeEntries (mergeEntries [] below) above) := by
  have ascending : AscendingKeys (mergeEntries (mergeEntries [] below) above) :=
    ascendingKeys_mergeEntries above (ascendingKeys_mergeEntries below List.Pairwise.nil)
  have stands {entry : String × Value} {entries : Table} (member : entry ∈ entries) :
      (valueAt? entry.1 entries).isSome := by
    rw [Option.isSome_iff_ne_none]
    exact fun none => valueAt?_eq_none_iff.mp none entry member rfl
  constructor
  · intro entry member
    have found : (valueAt? entry.1 (mergeEntries (mergeEntries [] below) above)).isSome := by
      rw [valueAt?_mergeEntries_isSome, valueAt?_mergeEntries_isSome]
      exact member.imp (fun member => Or.inr (stands member)) stands
    obtain ⟨value, found⟩ := Option.isSome_iff_exists.mp found
    exact ⟨_, exists_mem_of_valueAt? found, rfl⟩
  · intro key number member
    rcases natural_of_mergeEntries (valueAt?_of_mem ascending member) with later | ⟨silent, before⟩
    · exact Or.inl later
    · rcases natural_of_mergeEntries before with first | ⟨-, none⟩
      · exact Or.inr ⟨first, valueAt?_eq_none_iff.mp silent⟩
      · cases none

theorem alone (above : Table) : Overlaid [] above above :=
  ⟨fun entry member => ⟨entry, by simpa using member, rfl⟩, fun _ _ member => Or.inl member⟩

/-- The last entry for a tenant in the merged table is the last of the latter table, and
no entry of the former comes after it; or it is the last of the former, and all entries
of the latter come before it. -/
theorem lastSays (overlaid : Overlaid below above merged)
    (told : LastSays (merged.filter (Names tenant)) rate) :
    (∃ entry ∈ above.filter (Names tenant), entry.2 = .natural rate.toNat ∧
        ∀ other ∈ below.filter (Names tenant), other.1 ≤ entry.1) ∨
      LastSays (below.filter (Names tenant)) rate ∧
        ∃ entry ∈ below.filter (Names tenant), ∀ other ∈ above.filter (Names tenant),
          other.1 < entry.1 := by
  obtain ⟨⟨key, value⟩, member, number, greatest⟩ := told
  obtain ⟨member, named⟩ := List.mem_filter.mp member
  have below_le (entry : String × Value) (held : entry ∈ below ∨ entry ∈ above)
      (names : Names tenant entry) : entry.1 ≤ key := by
    obtain ⟨other, present, same⟩ := overlaid.present entry held
    rw [← same]
    exact greatest other (List.mem_filter.mpr ⟨present, by simpa [Names, same] using names⟩)
  have below_le_of_mem (other : String × Value) (former : other ∈ below.filter (Names tenant)) :
      other.1 ≤ key :=
    below_le other (Or.inl (List.mem_filter.mp former).1) (List.mem_filter.mp former).2
  obtain rfl : value = .natural rate.toNat := number
  rcases overlaid.said key rate.toNat member with latter | ⟨former, apart⟩
  · exact Or.inl ⟨_, List.mem_filter.mpr ⟨latter, named⟩, rfl, below_le_of_mem⟩
  · have first := List.mem_filter.mpr ⟨former, named⟩
    refine Or.inr ⟨⟨_, first, rfl, below_le_of_mem⟩, _, first, fun other latter => ?_⟩
    obtain ⟨held, names⟩ := List.mem_filter.mp latter
    exact lt_of_le_of_ne (below_le other (Or.inr held) names) (apart other held)

theorem filter_eq_nil (overlaid : Overlaid below above merged)
    (none : merged.filter (Names tenant) = []) :
    below.filter (Names tenant) = [] ∧ above.filter (Names tenant) = [] := by
  have silent (entry : String × Value) (held : entry ∈ below ∨ entry ∈ above) :
      ¬ Names tenant entry := by
    obtain ⟨other, present, same⟩ := overlaid.present entry held
    simpa [Names, same] using List.filter_eq_nil_iff.mp none other present
  exact ⟨List.filter_eq_nil_iff.mpr fun entry held => silent entry (Or.inl held),
    List.filter_eq_nil_iff.mpr fun entry held => silent entry (Or.inr held)⟩

end Overlaid

theorem lastSays_of_getLast? {entries : Table} {rate : UInt32} (ascending : AscendingKeys entries)
    (last : entries.getLast?.map (·.2) = some (.natural rate.toNat)) : LastSays entries rate := by
  obtain ⟨entry, last, said⟩ := Option.map_eq_some_iff.mp last
  obtain ⟨before, rfl⟩ := List.getLast?_eq_some_iff.mp last
  refine ⟨entry, by simp, said, fun other member => ?_⟩
  obtain ⟨-, -, below⟩ := List.pairwise_append.mp ascending
  rcases List.mem_append.mp member with member | member
  · exact le_of_lt (compare_lt_iff_lt.mp (below other member entry (by simp)))
  · rw [List.mem_singleton.mp member]

section Rates

variable {settings : Settings} {merged : Table} {tenant : TenantId}

theorem lastSays_of_read
    (rates : readRateTable (.table merged) = .ok settings.perTenantRefreshesPerDay)
    (ascending : AscendingKeys (merged.filter (Names tenant)))
    (named : merged.filter (Names tenant) ≠ []) :
    LastSays (merged.filter (Names tenant)) (settings.refreshesPerDay tenant) := by
  have found := find?_readRateTable rates tenant
  refine lastSays_of_getLast? ascending ?_
  cases rate : settings.perTenantRefreshesPerDay.find? tenant with
  | none => exact absurd (by simpa [rate] using found) named
  | some rate => simpa [rate, refreshesPerDay] using found

theorem default_of_read
    (rates : readRateTable (.table merged) = .ok settings.perTenantRefreshesPerDay)
    (unnamed : merged.filter (Names tenant) = []) :
    settings.refreshesPerDay tenant = settings.defaultRefreshesPerDay := by
  have found := find?_readRateTable rates tenant
  rw [unnamed] at found
  cases rate : settings.perTenantRefreshesPerDay.find? tenant with
  | none => rw [refreshesPerDay, rate, Option.getD_none]
  | some rate => simp [rate] at found

end Rates

theorem ascendingKeys_of_length_le_one {entries : Table} (few : entries.length ≤ 1) :
    AscendingKeys entries := by
  match entries, few with
  | [], _ => exact List.Pairwise.nil
  | [entry], _ => exact List.pairwise_singleton _ entry

theorem ascendingKeys_defaultLayer : AscendingKeys defaultLayer := by
  decide

theorem valueAt?_defaultLayer : valueAt? ratesKey defaultLayer = some (.table []) := by
  rfl

namespace Source

/-- What the environment says. -/
def variableLayer (source : Source) : Table :=
  Config.ofVariables "FLYWHEEL_" source.bindings

variable {source : Source} {settings : Settings}

theorem ascendingKeys_fileLayer {file : Table} (read : source.fileLayer = .ok file) :
    AscendingKeys file := by
  unfold fileLayer at read
  split at read
  next =>
    cases read
    exact List.Pairwise.nil
  next =>
    split at read
    next found =>
      cases read
      exact Toml.ascendingKeys_read found
    next => cases read

theorem ascendingKeys_variableLayer (source : Source) : AscendingKeys source.variableLayer :=
  ascendingKeys_ofVariables "FLYWHEEL_" source.bindings

/-- Settings that load are read from the defaults, the file over them and the environment
over both. -/
theorem exists_file (loaded : source.load = .ok settings) :
    ∃ file, source.fileLayer = .ok file ∧
      takeEntries default (mergeEntries (mergeEntries defaultLayer file) source.variableLayer) =
        .ok settings := by
  unfold load at loaded
  split at loaded
  next => cases loaded
  next taken =>
    split at loaded
    next => cases loaded
    next =>
      cases loaded
      obtain ⟨table, layered, taken⟩ := bind_eq_ok.mp taken
      obtain ⟨file, read, rfl⟩ := map_eq_ok.mp layered
      exact ⟨file, read, taken⟩

/-- The rates of settings that load are read from one table, laid over the rates of the
file and those of the environment. -/
theorem exists_merged (loaded : source.load = .ok settings) :
    ∃ file merged, source.fileLayer = .ok file ∧
      readRateTable (.table merged) = .ok settings.perTenantRefreshesPerDay ∧
      Overlaid (ratesIn file) (ratesIn source.variableLayer) merged ∧
      (AscendingKeys merged ∨ merged = ratesIn source.variableLayer) := by
  obtain ⟨file, read, taken⟩ := exists_file loaded
  have stands := valueAt?_ratesUnder source.ascendingKeys_variableLayer
    (valueAt?_ratesUnder (ascendingKeys_fileLayer read) valueAt?_defaultLayer)
  have rates := (Field.takeEntries_eq_ok_iff (ascendingKeys_mergeEntries source.variableLayer
    (ascendingKeys_mergeEntries file ascendingKeys_defaultLayer))).mp taken
      .perTenantRefreshesPerDay
  change Field.readOver .perTenantRefreshesPerDay _ (valueAt? ratesKey _) = _ at rates
  rw [stands] at rates
  change readRateTable _ = .ok settings.perTenantRefreshesPerDay at rates
  obtain ⟨merged, table⟩ : ∃ merged, ratesUnder (ratesUnder (.table []) file) source.variableLayer =
      .table merged := by
    cases value : ratesUnder (ratesUnder (.table []) file) source.variableLayer with
    | table merged => exact ⟨merged, rfl⟩
    | _ => simp [value, readRateTable] at rates
  refine ⟨file, merged, read, by simpa [table] using rates, ?_⟩
  rcases ratesUnder_eq_table table with ⟨before, under, rfl⟩ | ⟨other, rfl⟩
  · rcases ratesUnder_eq_table under with ⟨first, blank, rfl⟩ | ⟨impossible, -⟩
    · obtain rfl : [] = first := by simpa using blank
      exact ⟨Overlaid.of_merge _ _, Or.inl (ascendingKeys_mergeEntries _
        (ascendingKeys_mergeEntries _ List.Pairwise.nil))⟩
    · exact absurd rfl (impossible [])
  · rw [ratesIn_eq_nil other]
    exact ⟨Overlaid.alone _, Or.inr rfl⟩

/-- Which rate a tenant gets from settings that load. What the environment says of it once
holds if no spelling of the file comes after that of the environment, and else the last
spelling of the file holds, as it does where the environment is silent. -/
theorem rates_by_spelling (loaded : source.load = .ok settings) :
    ∃ file, source.fileLayer = .ok file ∧ ∀ tenant,
      (∀ key value, sayings tenant source.variableLayer = [(key, value)] →
        ((∀ spelled ∈ sayings tenant file, spelled.1 ≤ key) →
          value = .natural (settings.refreshesPerDay tenant).toNat) ∧
        ((∃ spelled ∈ sayings tenant file, key < spelled.1) →
          LastSays (sayings tenant file) (settings.refreshesPerDay tenant))) ∧
      (sayings tenant source.variableLayer = [] →
        (sayings tenant file ≠ [] →
          LastSays (sayings tenant file) (settings.refreshesPerDay tenant)) ∧
        (sayings tenant file = [] →
          settings.refreshesPerDay tenant = settings.defaultRefreshesPerDay)) := by
  obtain ⟨file, merged, read, rates, overlaid, shape⟩ := exists_merged loaded
  refine ⟨file, read, fun tenant => ?_⟩
  have found := find?_readRateTable rates tenant
  have last (few : (sayings tenant source.variableLayer).length ≤ 1)
      (named : merged.filter (Names tenant) ≠ []) :
      LastSays (merged.filter (Names tenant)) (settings.refreshesPerDay tenant) := by
    refine lastSays_of_read rates ?_ named
    rcases shape with ascending | rfl
    · exact ascending.filter _
    -- Rates of the environment that nothing was merged with need not ascend.
    · exact ascendingKeys_of_length_le_one few
  refine ⟨fun key value only => ?_, fun silent => ⟨fun spelled => ?_, fun none => ?_⟩⟩
  · have named : merged.filter (Names tenant) ≠ [] := fun none =>
      List.cons_ne_nil _ _ (only.symm.trans (overlaid.filter_eq_nil none).2)
    have latter (entry : String × Value) (member : entry ∈ sayings tenant source.variableLayer) :
        entry = (key, value) := by
      simpa [only] using member
    rcases overlaid.lastSays (last (by simp [only]) named) with
      ⟨entry, member, number, below⟩ | ⟨former, entry, member, below⟩
    · obtain rfl := latter entry member
      exact ⟨fun _ => number, fun ⟨other, spelled, after⟩ =>
        absurd (below other spelled) (not_le.mpr after)⟩
    · have after : key < entry.1 :=
        below (key, value) (show _ ∈ sayings tenant source.variableLayer by simp [only])
      exact ⟨fun before => absurd (before entry member) (not_le.mpr after), fun _ => former⟩
  · have named : merged.filter (Names tenant) ≠ [] := fun none =>
      spelled (overlaid.filter_eq_nil none).1
    rcases overlaid.lastSays (last (by simp [silent]) named) with ⟨entry, member, -⟩ | ⟨former, -⟩
    · exact absurd (silent ▸ member : entry ∈ []) List.not_mem_nil
    · exact former
  · refine default_of_read rates (by_contra fun named => ?_)
    rcases overlaid.lastSays (last (by simp [silent]) named) with
      ⟨entry, member, -⟩ | ⟨-, entry, member, -⟩
    · exact absurd (silent ▸ member : entry ∈ []) List.not_mem_nil
    · exact absurd (none ▸ member : entry ∈ []) List.not_mem_nil

section Spelled

def optedOut : TenantId := Identifier.ofNat 0x6f1c2a9e000040008000000000000001

def small : String := "6f1c2a9e-0000-4000-8000-000000000001"

def capital : String := "6F1C2A9E-0000-4000-8000-000000000001"

/-- A tenant with a rate in the file is taken out by the environment, in this spelling. -/
def overridden (spelling : String) : Source :=
  ⟨some ("[per_tenant_refreshes_per_day]\n\"" ++ small ++ "\" = 3\n"),
    [("FLYWHEEL_PER_TENANT_REFRESHES_PER_DAY", "\x7b" ++ spelling ++ "=0\x7d")]⟩

def withRate (rate : UInt32) : Settings :=
  { Settings.default with perTenantRefreshesPerDay := OrderedMap.ofList [(optedOut, rate)] }

/-- A table of one entry is known by its key and by what is read from it. -/
theorem eq_singleton_of_readRates {entries : Table} {key : String} {rate : UInt32}
    {tenant : TenantId} (keys : entries.map (·.1) = [key])
    (read : readRates entries = .ok [(tenant, rate)]) :
    entries = [(key, .natural rate.toNat)] := by
  obtain ⟨entry, rfl, rfl⟩ := List.map_eq_singleton_iff.mp keys
  obtain ⟨_, _, _, -, said, -, same⟩ := readRates_cons read
  cases same
  rw [← said]

theorem rates_by_spelling_alike :
    (overridden small).load = .ok (withRate 0) ∧ (withRate 0).refreshesPerDay optedOut = 0 := by
  have loaded : (overridden small).load = .ok (withRate 0) := by decide +kernel
  have read : readRates (sayings optedOut (overridden small).variableLayer) =
      .ok [(optedOut, 0)] := by decide +kernel
  have said : sayings optedOut (overridden small).variableLayer = [(small, .natural 0)] :=
    eq_singleton_of_readRates (by decide +kernel) read
  have spelled : (overridden small).fileLayer.map (fun file =>
      (sayings optedOut file).map (·.1)) = .ok [small] := by decide +kernel
  obtain ⟨file, found, rated⟩ := rates_by_spelling loaded
  simp only [found, Except.map, Except.ok.injEq] at spelled
  refine ⟨loaded, ?_⟩
  have zero := ((rated optedOut).1 small (.natural 0) said).1 fun entry member => by
    have listed := List.mem_map_of_mem (f := (·.1)) member
    rw [spelled, List.mem_singleton] at listed
    exact le_of_eq listed
  exact UInt32.toNat_inj.mp (by simpa using zero.symm)

/-- In capitals the environment takes nobody out: the file spells the tenant later. -/
theorem capitals_ignored :
    sayings optedOut (overridden capital).variableLayer = [(capital, .natural 0)] ∧
      (overridden capital).load = .ok (withRate 3) ∧
      (withRate 3).refreshesPerDay optedOut ≠ 0 := by
  have read : readRates (sayings optedOut (overridden capital).variableLayer) =
      .ok [(optedOut, 0)] := by decide +kernel
  exact ⟨eq_singleton_of_readRates (by decide +kernel) read, by decide +kernel, by decide⟩

end Spelled

end Source

end Settings

end UnattendedRefresh
