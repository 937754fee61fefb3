import UnattendedRefresh.Proofs.Settings.Fields
import UnattendedRefresh.Proofs.Settings.LastGood
import UnattendedRefresh.Proofs.Settings.Precedence
import UnattendedRefresh.Proofs.Toml.Nesting

/-!
# Settings in layers

Settings are read from the environment over a file over the defaults. A field is what the
uppermost layer says that names it, as a whole; only the rates of the tenants are united,
key by key. Nothing else that the layers hold matters, and settings that are read count
only if no rate exceeds the ceiling.
-/

namespace UnattendedRefresh.Settings

open Config

/-- What a layer says of the fields. -/
abbrev Layer := Field → Option Value

namespace Layer

def ofTable (entries : Table) : Layer :=
  fun field => valueAt? field.key entries

/-- A layer above another: what the upper one does not name is as the lower one says. -/
def above (upper lower : Layer) : Layer :=
  fun field => (upper field).or (lower field)

/-- The rates that a layer sets, by the texts that name the tenants. -/
def rates (layer : Layer) : Table :=
  match layer .perTenantRefreshesPerDay with
  | some (.table entries) => entries
  | _ => []

end Layer

/-- A table with the keys of two others; at a key of both stands what the latter says. -/
structure United (below above united : Table) : Prop where
  ascending : AscendingKeys united
  said : ∀ key, valueAt? key united = (valueAt? key above).or (valueAt? key below)

/-- The settings are those of an environment over a file over the defaults. -/
structure Layered (file environment : Layer) (settings : Settings) : Prop where
  plain : ∀ field : Field, field ≠ .perTenantRefreshesPerDay →
    field.readOver (field.get default) (environment.above file field) = .ok (field.get settings)
  tabled : ∀ value, environment.above file .perTenantRefreshesPerDay = some value →
    ∃ entries, value = .table entries
  rates : ∃ united, United file.rates environment.rates united ∧
    readRateTable (.table united) = .ok settings.perTenantRefreshesPerDay

/-! ### Fields that are taken as a whole -/

section Plain

variable {field : Field} {file environment : Table}

theorem exists_default (field : Field) :
    ∃ value, valueAt? field.key defaultLayer = some value ∧
      field.read value = .ok (field.get default) := by
  cases field <;> exact ⟨_, rfl, rfl⟩

/-- What is read of a field does not depend on what its value was laid over. -/
theorem read_merge (plain : field ≠ .perTenantRefreshesPerDay) (below above : Value) :
    field.read (merge below above) = field.read above := by
  cases above with
  | table entries =>
      obtain ⟨merged, table⟩ : ∃ merged, merge below (.table entries) = .table merged := by
        cases below <;> simp [merge]
      rw [table]
      cases field <;> first | rfl | exact absurd rfl plain
  | _ => simp [merge]

theorem read_mergedAt (plain : field ≠ .perTenantRefreshesPerDay) (below : Table) (key : String)
    (value : Value) : field.read (mergedAt below (key, value)) = field.read value := by
  unfold mergedAt
  split
  next => exact read_merge plain _ value
  next => rfl

/-- The table that the settings are read from. -/
def stack (file environment : Table) : Table :=
  mergeEntries (mergeEntries defaultLayer file) environment

theorem ascendingKeys_stack (file environment : Table) : AscendingKeys (stack file environment) :=
  ascendingKeys_mergeEntries environment
    (ascendingKeys_mergeEntries file ascendingKeys_defaultLayer)

theorem readOver_stack (plain : field ≠ .perTenantRefreshesPerDay)
    (fileAscending : AscendingKeys file) (environmentAscending : AscendingKeys environment) :
    field.readOver (field.get default) (valueAt? field.key (stack file environment)) =
      field.readOver (field.get default)
        ((Layer.ofTable environment).above (Layer.ofTable file) field) := by
  rw [stack, valueAt?_mergeEntries environmentAscending, valueAt?_mergeEntries fileAscending,
    Layer.above, Layer.ofTable, Layer.ofTable]
  cases valueAt? field.key environment with
  | some value => exact read_mergedAt plain _ _ value
  | none =>
      rw [Option.none_or]
      cases valueAt? field.key file with
      | some value => exact read_mergedAt plain _ _ value
      | none =>
          obtain ⟨value, stands, read⟩ := exists_default field
          dsimp only
          rw [stands, Field.readOver, read]
          rfl

/-- What stands in the stack at a field depends on nothing but what the layers say of it. -/
theorem valueAt?_stack_congr {otherFile otherEnvironment : Table}
    (fileAscending : AscendingKeys file) (environmentAscending : AscendingKeys environment)
    (otherFileAscending : AscendingKeys otherFile)
    (otherEnvironmentAscending : AscendingKeys otherEnvironment) {key : String}
    (sameFile : valueAt? key file = valueAt? key otherFile)
    (sameEnvironment : valueAt? key environment = valueAt? key otherEnvironment) :
    valueAt? key (stack file environment) = valueAt? key (stack otherFile otherEnvironment) := by
  have below : valueAt? key (mergeEntries defaultLayer file) =
      valueAt? key (mergeEntries defaultLayer otherFile) := by
    rw [valueAt?_mergeEntries fileAscending, valueAt?_mergeEntries otherFileAscending, sameFile]
  rw [stack, stack, valueAt?_mergeEntries environmentAscending,
    valueAt?_mergeEntries otherEnvironmentAscending, sameEnvironment, below]
  split
  next => rw [mergedAt_congr below]
  next => rfl

end Plain

/-! ### The rates of the tenants -/

section Rates

variable {file environment below above united : Table} {rates : OrderedMap Identifier UInt32}

/-- Rates are read only from numbers, and only for tenants. -/
theorem exists_rate_of_readRateTable (read : readRateTable (.table united) = .ok rates)
    {key : String} {value : Value} (said : valueAt? key united = some value) :
    ∃ identifier, ∃ rate : UInt32, Identifier.ofText? key = some identifier ∧
      value = .natural rate.toNat := by
  obtain ⟨listed, listing, -⟩ := map_eq_ok.mp read
  have member := exists_mem_of_valueAt? said
  clear said read
  induction united generalizing listed with
  | nil => cases member
  | cons first rest ih =>
      obtain ⟨identifier, rate, others, named, number, further, -⟩ := readRates_cons listing
      rcases List.mem_cons.mp member with rfl | member
      · exact ⟨identifier, rate, named, number⟩
      · exact ih others further member

theorem mergedAt_natural (below : Table) (key : String) (number : Nat) :
    mergedAt below (key, .natural number) = .natural number := by
  unfold mergedAt
  split <;> simp [merge]

/-- Rates that can be read are united by a merge: numbers leave nothing to merge. -/
theorem readRateTable_mergeEntries (belowAscending : AscendingKeys below)
    (aboveAscending : AscendingKeys above) :
    readRateTable (.table (mergeEntries below above)) = .ok rates ↔
      ∃ united, United below above united ∧ readRateTable (.table united) = .ok rates := by
  have ascending := ascendingKeys_mergeEntries above belowAscending
  constructor
  · intro read
    refine ⟨_, ⟨ascending, fun key => ?_⟩, read⟩
    have stands : valueAt? key (mergeEntries below above) = _ :=
      valueAt?_mergeEntries aboveAscending
    cases said : valueAt? key above with
    | none => rw [stands, said, Option.none_or]
    | some value =>
        rw [said] at stands
        obtain ⟨-, rate, -, number_eq⟩ := exists_rate_of_readRateTable read stands
        obtain rfl : value = .natural rate.toNat := eq_natural_of_mergedAt number_eq
        exact stands.trans (congrArg some number_eq)
  · rintro ⟨united, ⟨unitedAscending, unites⟩, read⟩
    suffices same : mergeEntries below above = united by rwa [same]
    apply eq_of_valueAt? ascending unitedAscending
    intro key
    rw [valueAt?_mergeEntries aboveAscending, unites]
    cases said : valueAt? key above with
    | none => rw [Option.none_or]
    | some value =>
        obtain ⟨-, rate, -, rfl⟩ := exists_rate_of_readRateTable read (by rw [unites, said]; rfl)
        exact congrArg some (mergedAt_natural below key rate.toNat)

theorem ascendingKeys_rates {layer : Layer}
    (ascends : ∀ value, layer .perTenantRefreshesPerDay = some value → value.Ascends) :
    AscendingKeys layer.rates := by
  unfold Layer.rates
  split
  next entries said => exact ascends _ said entries rfl
  next => exact List.Pairwise.nil

/-- Where the uppermost layer that names the rates gives a table, the rates of both layers
are merged, and else what it gives is no table. -/
theorem readRateTable_ratesUnder (fileAscending : AscendingKeys (Layer.ofTable file).rates)
    (environmentAscending : AscendingKeys (Layer.ofTable environment).rates) :
    readRateTable (ratesUnder (ratesUnder (.table []) file) environment) = .ok rates ↔
      (∀ value, (Layer.ofTable environment).above (Layer.ofTable file)
        .perTenantRefreshesPerDay = some value → ∃ entries, value = .table entries) ∧
      readRateTable (.table (mergeEntries (Layer.ofTable file).rates
        (Layer.ofTable environment).rates)) = .ok rates := by
  have key_eq : Field.perTenantRefreshesPerDay.key = ratesKey := rfl
  simp only [Layer.rates, Layer.above, Layer.ofTable, key_eq, ratesUnder] at *
  generalize valueAt? ratesKey environment = upper at *
  generalize valueAt? ratesKey file = lower at *
  cases upper with
  | none =>
      cases lower with
      | none => simp [mergeEntries]
      | some value =>
          cases value with
          | table entries => simp [merge, mergeEntries, mergeEntries_nil fileAscending]
          | _ => simp [merge, readRateTable]
  | some value =>
      cases value with
      | table entries =>
          cases lower with
          | none => simp [merge]
          | some value =>
              cases value with
              | table before => simp [merge, mergeEntries_nil fileAscending]
              | _ => simp [merge, mergeEntries_nil environmentAscending]
      | _ => simp [merge, readRateTable]

end Rates

/-! ### What keeps settings from being read -/

/-- What the layers say of a tenant's rate at a key. -/
def rateAt? (file environment : Layer) (key : String) : Option Value :=
  (valueAt? key environment.rates).or (valueAt? key file.rates)

/-- A layer says what cannot be read, and prevails with it. -/
inductive Misfits (file environment : Layer) : Prop
  | field {field : Field} {value : Value} (plain : field ≠ .perTenantRefreshesPerDay)
      (prevails : environment.above file field = some value)
      (misread : ∀ kind, field.read value ≠ .ok kind)
  | untabled {value : Value}
      (prevails : environment.above file .perTenantRefreshesPerDay = some value)
      (other : ∀ entries, value ≠ .table entries)
  | rate {key : String} {value : Value}
      (prevails : rateAt? file environment key = some value)
      (misread : ∀ identifier, ∀ rate : UInt32, Identifier.ofText? key = some identifier →
        value ≠ .natural rate.toNat)

/-- A layer says a rate above the ceiling, and prevails with it. Of several spellings of one
tenant that are left the last prevails. -/
inductive Exceeds (file environment : Layer) : Prop
  | default {rate : Nat}
      (prevails : environment.above file .defaultRefreshesPerDay = some (.natural rate))
      (above : refreshCeiling < rate)
  | tenant {key : String} {rate : Nat} {identifier : TenantId}
      (prevails : rateAt? file environment key = some (.natural rate))
      (named : Identifier.ofText? key = some identifier)
      (last : ∀ other, (rateAt? file environment other).isSome →
        Identifier.ofText? other = some identifier → other ≤ key)
      (above : refreshCeiling < rate)

/-- Some rate of the settings is above the ceiling. -/
def ExceedsCeiling (settings : Settings) : Prop :=
  refreshCeiling < settings.defaultRefreshesPerDay.toNat ∨
    ∃ entry ∈ settings.perTenantRefreshesPerDay.entries, refreshCeiling < entry.2.toNat

section Reading

variable {file environment : Layer} {settings : Settings}

theorem Layered.not_misfits (layered : Layered file environment settings) :
    ¬ Misfits file environment := by
  rintro (⟨plain, prevails, misread⟩ | ⟨prevails, other⟩ | ⟨prevails, misread⟩)
  · have read := layered.plain _ plain
    rw [prevails] at read
    exact misread _ read
  · obtain ⟨entries, table⟩ := layered.tabled _ prevails
    exact other entries table
  · obtain ⟨united, unites, read⟩ := layered.rates
    obtain ⟨identifier, rate, named, number⟩ :=
      exists_rate_of_readRateTable read ((unites.said _).trans prevails)
    exact misread identifier rate named number

/-- The rate of a tenant is that of the last spelling. -/
theorem find?_of_last {rates : OrderedMap Identifier UInt32} {united : Table} {key : String}
    {identifier : Identifier} {rate : Nat} (ascending : AscendingKeys united)
    (read : readRateTable (.table united) = .ok rates)
    (said : valueAt? key united = some (.natural rate))
    (named : Identifier.ofText? key = some identifier)
    (last : ∀ other, (valueAt? other united).isSome →
      Identifier.ofText? other = some identifier → other ≤ key) :
    ∃ own, rates.find? identifier = some own ∧ own.toNat = rate := by
  have listed : (key, Value.natural rate) ∈ united.filter (Names identifier) :=
    List.mem_filter.mpr ⟨exists_mem_of_valueAt? said, by simp [Names, named]⟩
  have found := find?_readRateTable read identifier
  cases held : rates.find? identifier with
  | none =>
      have nobody : united.filter (Names identifier) = [] := by simpa [held] using found
      exact absurd (nobody ▸ listed) List.not_mem_nil
  | some own =>
      rw [held] at found
      obtain ⟨entry, member, number, greatest⟩ := lastSays_of_getLast? (ascending.filter _) found
      obtain ⟨inside, spelled⟩ := List.mem_filter.mp member
      have stands := valueAt?_of_mem ascending inside
      have same : entry.1 = key := by
        apply le_antisymm
        · exact last entry.1 (by simp [stands]) (by simpa [Names] using spelled)
        · exact greatest _ listed
      rw [same, said, number] at stands
      exact ⟨own, rfl, (Value.natural.inj (Option.some.inj stands)).symm⟩

theorem Layered.exceedsCeiling (layered : Layered file environment settings)
    (exceeds : Exceeds file environment) : settings.ExceedsCeiling := by
  rcases exceeds with ⟨prevails, above⟩ | ⟨prevails, named, last, above⟩
  · have read := layered.plain .defaultRefreshesPerDay nofun
    rw [prevails] at read
    obtain ⟨number, fits, word⟩ := map_eq_ok.mp read
    obtain ⟨same, small⟩ := readNatural_eq_ok.mp fits
    obtain rfl := Value.natural.inj same
    left
    rw [show settings.defaultRefreshesPerDay = UInt32.ofNat _ from word.symm,
      UInt32.toNat_ofNat_of_lt' small]
    exact above
  · obtain ⟨united, ⟨ascending, said⟩, read⟩ := layered.rates
    obtain ⟨own, held, same⟩ := find?_of_last ascending read ((said _).trans prevails) named
      fun other spelled => last other ((congrArg Option.isSome (said other)).symm.trans spelled)
    obtain ⟨entry, found, rfl⟩ := Option.map_eq_some_iff.mp held
    right
    exact ⟨entry, List.mem_of_find?_eq_some found, same ▸ above⟩

theorem exists_fault_of_exceeds (exceeds : settings.ExceedsCeiling) :
    ∃ fault, settings.validate = .error fault := by
  unfold validate
  split
  next => exact ⟨_, rfl⟩
  next default =>
    split
    next => exact ⟨_, rfl⟩
    next nobody =>
      rcases exceeds with above | ⟨entry, member, above⟩
      · exact absurd above default
      · have low := List.find?_eq_none.mp nobody entry member
        exact absurd above (by simpa using low)

end Reading

/-- Settings are read from the stack exactly if they are those of its layers. -/
theorem takeEntries_stack_iff {file environment : Table} {settings : Settings}
    (fileAscending : AscendingKeys file) (environmentAscending : AscendingKeys environment)
    (fileRates : AscendingKeys (Layer.ofTable file).rates)
    (environmentRates : AscendingKeys (Layer.ofTable environment).rates) :
    takeEntries default (stack file environment) = .ok settings ↔
      Layered (Layer.ofTable file) (Layer.ofTable environment) settings := by
  have stands : valueAt? Field.perTenantRefreshesPerDay.key (stack file environment) =
      some (ratesUnder (ratesUnder (.table []) file) environment) :=
    valueAt?_ratesUnder environmentAscending
      (valueAt?_ratesUnder fileAscending valueAt?_defaultLayer)
  rw [Field.takeEntries_eq_ok_iff (ascendingKeys_stack file environment)]
  constructor
  · intro fields
    have read := fields .perTenantRefreshesPerDay
    rw [stands] at read
    obtain ⟨tabled, merged⟩ := (readRateTable_ratesUnder fileRates environmentRates).mp read
    refine ⟨fun field plain => ?_, tabled,
      (readRateTable_mergeEntries fileRates environmentRates).mp merged⟩
    rw [← readOver_stack plain fileAscending environmentAscending]
    exact fields field
  · intro layered field
    by_cases plain : field = .perTenantRefreshesPerDay
    · subst plain
      rw [stands]
      exact (readRateTable_ratesUnder fileRates environmentRates).mpr ⟨layered.tabled,
        (readRateTable_mergeEntries fileRates environmentRates).mpr layered.rates⟩
    · rw [readOver_stack plain fileAscending environmentAscending]
      exact layered.plain field plain

/-! ### Loading -/

namespace Source

/-- The variable is for the field, or for something inside of it. -/
def IsFor (field : Field) (binding : String × String) : Prop :=
  (pathAfter "FLYWHEEL_" binding.1).head? = some field.key

instance (field : Field) (binding : String × String) : Decidable (IsFor field binding) :=
  inferInstanceAs (Decidable (_ = _))

/-- The name of the variable is that of a setting. -/
def namesSetting (binding : String × String) : Bool :=
  ((pathAfter "FLYWHEEL_" binding.1).head?.bind Field.ofKey?).isSome

/-- Every setting is named by at most one of the variables. -/
def NamesOnce (source : Source) : Prop :=
  ∀ field : Field, source.bindings.Pairwise fun one other => IsFor field one → ¬ IsFor field other

/-- What the environment says of the fields. -/
def environment (source : Source) : Layer :=
  fun field => source.bindings.findSome? (saying? "FLYWHEEL_" field.key)

variable {source other : Source} {file otherFile : Table} {settings : Settings}

theorem ofTable_variableLayer (once : source.NamesOnce) :
    Layer.ofTable source.variableLayer = source.environment :=
  funext fun field => valueAt?_ofVariables_of_once (once field)

theorem ascendingKeys_fileRates (read : source.fileLayer = .ok file) :
    AscendingKeys (Layer.ofTable file).rates := by
  refine ascendingKeys_rates fun value said => ?_
  have member := exists_mem_of_valueAt? said
  unfold fileLayer at read
  split at read
  next =>
    cases read
    cases member
  next =>
    split at read
    next found =>
      cases read
      exact Toml.ascends_of_read found _ member
    next => cases read

theorem load_eq (read : source.fileLayer = .ok file) :
    source.load =
      match takeEntries default (stack file source.variableLayer) with
      | .error fault => .error (.load fault)
      | .ok settings =>
        match settings.validate with
        | .error fault => .error (.refused fault)
        | .ok () => .ok settings := by
  simp only [load, layers, read]
  rfl

theorem taken_iff (read : source.fileLayer = .ok file) :
    takeEntries default (stack file source.variableLayer) = .ok settings ↔
      Layered (Layer.ofTable file) (Layer.ofTable source.variableLayer) settings :=
  takeEntries_stack_iff (ascendingKeys_fileLayer read) source.ascendingKeys_variableLayer
    (ascendingKeys_fileRates read) (ascendingKeys_rates fun _ said => ascends_of_ofVariables said)

/-- What is loaded depends on nothing but what the file and the variables say of settings. -/
theorem load_congr (read : source.fileLayer = .ok file)
    (otherRead : other.fileLayer = .ok otherFile)
    (sameFile : Layer.ofTable otherFile = Layer.ofTable file)
    (sameVariables : other.bindings.filter namesSetting = source.bindings.filter namesSetting) :
    other.load = source.load := by
  have alone (bindings : Variables) (field : Field) :
      valueAt? field.key (Config.ofVariables "FLYWHEEL_" (bindings.filter namesSetting)) =
        valueAt? field.key (Config.ofVariables "FLYWHEEL_" bindings) :=
    valueAt?_ofVariables_filter fun binding _ named => by simp [namesSetting, named]
  rw [load_eq read, load_eq otherRead,
    Field.takeEntries_congr (ascendingKeys_stack otherFile _) (ascendingKeys_stack file _)
      fun field => ?_]
  apply valueAt?_stack_congr (ascendingKeys_fileLayer otherRead)
    other.ascendingKeys_variableLayer (ascendingKeys_fileLayer read)
    source.ascendingKeys_variableLayer (congrFun sameFile field)
  rw [variableLayer, variableLayer, ← alone, sameVariables, alone]

/-- One more variable for a field. -/
def withVariable (source : Source) (before after : Variables) (binding : String × String) :
    Source :=
  { source with bindings := before ++ binding :: after }

theorem valueAt?_withVariable {field otherField : Field} {before after : Variables}
    {binding : String × String} (bindings_eq : source.bindings = before ++ after)
    (named : IsFor field binding) (apart : otherField ≠ field) :
    valueAt? otherField.key (source.withVariable before after binding).variableLayer =
      valueAt? otherField.key source.variableLayer := by
  have elsewhere : ¬ IsFor otherField binding := fun both =>
    apart (Field.key_inj.mp (Option.some.inj (both.symm.trans named)))
  have only (bindings : Variables) :
      valueAt? otherField.key (Config.ofVariables "FLYWHEEL_"
          (bindings.filter fun binding => decide (IsFor otherField binding))) =
        valueAt? otherField.key (Config.ofVariables "FLYWHEEL_" bindings) :=
    valueAt?_ofVariables_filter fun binding _ own => decide_eq_true own
  rw [variableLayer, variableLayer, ← only, ← only source.bindings, withVariable, bindings_eq,
    List.filter_append, List.filter_append, List.filter_cons_of_neg (by simpa using elsewhere)]

/-- A variable for a field changes no other field. -/
theorem get_of_withVariable {field otherField : Field} {before after : Variables}
    {binding : String × String} {changed : Settings}
    (bindings_eq : source.bindings = before ++ after) (named : IsFor field binding)
    (loaded : source.load = .ok settings)
    (reloaded : (source.withVariable before after binding).load = .ok changed)
    (apart : otherField ≠ field) : otherField.get changed = otherField.get settings := by
  obtain ⟨file, read, taken⟩ := exists_file loaded
  obtain ⟨sameFile, reread, retaken⟩ := exists_file reloaded
  obtain rfl : file = sameFile := Except.ok.inj (read.symm.trans reread)
  have before := (Field.takeEntries_eq_ok_iff (ascendingKeys_stack _ _)).mp taken otherField
  have after := (Field.takeEntries_eq_ok_iff (ascendingKeys_stack _ _)).mp retaken otherField
  rw [valueAt?_stack_congr (ascendingKeys_fileLayer read) (ascendingKeys_variableLayer _)
    (ascendingKeys_fileLayer read) (ascendingKeys_variableLayer source) rfl
    (valueAt?_withVariable bindings_eq named apart)] at after
  exact Except.ok.inj (after.symm.trans before)

/-- What a source with a well-formed file loads, where every setting is named by at most one
variable: the settings of its layers, if no rate exceeds the ceiling. What is misread where it
prevails, or is a rate above the ceiling there, keeps any from being loaded. Only what is said
of settings matters, and one more variable matters only for its field. -/
theorem load_layers (read : source.fileLayer = .ok file) (once : source.NamesOnce) :
    (∀ settings, source.load = .ok settings ↔
      Layered (Layer.ofTable file) source.environment settings ∧
        settings.validate = .ok ()) ∧
    (∀ settings, Layered (Layer.ofTable file) source.environment settings →
      settings.ExceedsCeiling → ∃ fault, source.load = .error (.refused fault)) ∧
    (Misfits (Layer.ofTable file) source.environment →
      ∃ fault, source.load = .error (.load fault)) ∧
    (Exceeds (Layer.ofTable file) source.environment → ∃ fault, source.load = .error fault) ∧
    (∀ (other : Source) (otherFile : Table), other.fileLayer = .ok otherFile →
      Layer.ofTable otherFile = Layer.ofTable file →
      other.bindings.filter namesSetting = source.bindings.filter namesSetting →
      other.load = source.load) ∧
    ∀ (field : Field) (before after : Variables) (binding : String × String)
      (settings changed : Settings), source.bindings = before ++ after →
      IsFor field binding → source.load = .ok settings →
      (source.withVariable before after binding).load = .ok changed →
      ∀ otherField ≠ field, otherField.get changed = otherField.get settings := by
  have taken (settings : Settings) : takeEntries default (stack file source.variableLayer) =
      .ok settings ↔ Layered (Layer.ofTable file) source.environment settings := by
    rw [taken_iff read, ofTable_variableLayer once]
  refine ⟨fun settings => ⟨fun loaded => ?_, fun ⟨layered, valid⟩ => ?_⟩,
    fun settings layered exceeds => ?_, fun misfits => ?_, fun exceeds => ?_,
    fun other otherFile otherRead sameFile sameVariables =>
      load_congr read otherRead sameFile sameVariables,
    fun field before after binding settings changed bindings_eq named loaded reloaded other apart =>
      get_of_withVariable bindings_eq named loaded reloaded apart⟩
  · obtain ⟨sameFile, reread, read_ok⟩ := exists_file loaded
    obtain rfl : file = sameFile := Except.ok.inj (read.symm.trans reread)
    exact ⟨(taken settings).mp read_ok, validate_of_load loaded⟩
  · rw [load_eq read, (taken settings).mpr layered]
    simp only [valid]
  · obtain ⟨fault, refused⟩ := exists_fault_of_exceeds exceeds
    refine ⟨fault, ?_⟩
    rw [load_eq read, (taken settings).mpr layered]
    simp only [refused]
  · rw [load_eq read]
    cases result : takeEntries default (stack file source.variableLayer) with
    | error fault => exact ⟨fault, rfl⟩
    | ok settings => exact absurd misfits ((taken settings).mp result).not_misfits
  · rw [load_eq read]
    cases result : takeEntries default (stack file source.variableLayer) with
    | error fault => exact ⟨_, rfl⟩
    | ok settings =>
        obtain ⟨fault, refused⟩ :=
          exists_fault_of_exceeds (((taken settings).mp result).exceedsCeiling exceeds)
        refine ⟨.refused fault, ?_⟩
        simp only [refused]

section Mixed

/-- A source whose file and variables each say something of the settings, and something
that is none. -/
private def mixed : Source :=
  ⟨some ("enabled = false\nblacklisted_providers = [\"a\", \"b\"]\nextra = 1\n"
      ++ "[per_tenant_refreshes_per_day]\n\"" ++ small ++ "\" = 3\n"),
    [("FLYWHEEL_BLACKLISTED_PROVIDERS", "[c]"),
     ("FLYWHEEL_PER_TENANT_REFRESHES_PER_DAY",
      "\x7b00000000-0000-4000-8000-000000000002=1\x7d"),
     ("FLYWHEEL_SETTINGS_PATH", "settings.toml")]⟩

private def mixture : Settings :=
  { enabled := false
    minSecondsSinceLastRefresh := 3600
    blacklistedProviders := OrderedSet.ofList ["c"]
    perTenantRefreshesPerDay :=
      OrderedMap.ofList [(optedOut, 3), (Identifier.ofNat 0x40008000000000000002, 1)]
    defaultRefreshesPerDay := 4 }

theorem load_layers_mixed :
    ∃ file, mixed.fileLayer = .ok file ∧ mixed.NamesOnce ∧
      Layered (Layer.ofTable file) mixed.environment mixture ∧ mixture.validate = .ok () := by
  have loaded : mixed.load = .ok mixture := by decide +kernel
  have once : mixed.NamesOnce := by
    intro field
    cases field <;> decide +kernel
  obtain ⟨file, read, -⟩ := exists_file loaded
  exact ⟨file, read, once, ((load_layers read once).1 mixture).mp loaded⟩

end Mixed

end Source

end UnattendedRefresh.Settings
