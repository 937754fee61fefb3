import Mathlib.Data.List.Nodup
import UnattendedRefresh.Proofs.Config.Translation
import UnattendedRefresh.Proofs.Json.Readings
import UnattendedRefresh.Proofs.Settings.Fields

/-!
# The forms of settings

Settings are written as a record with a field for each of theirs. A set is written as a list
of its elements and a map as a record of its entries, both in any order, and the fields may
come in any order as well. From such a record, or from any part of it, each field that is
there is read as it was written, and each that is missing as it is by default.
-/

namespace UnattendedRefresh

namespace Json

/-! ### What a value is read as -/

theorem mapM_map_eq_some {Whole Part : Type} (write : Whole → Part) (read : Part → Option Whole)
    (inverse : ∀ whole, read (write whole) = some whole) (wholes : List Whole) :
    (wholes.map write).mapM read = some wholes := by
  have same : read ∘ write = fun whole => pure whole := funext inverse
  rw [List.mapM_map, same, List.mapM_pure, List.map_id']
  rfl

theorem uint64?_natural (value : UInt64) : (natural value.toNat).uint64? = some value := by
  have fits : value.toNat < UInt64.size := value.toNat_lt
  simp [uint64?, natural?, fits]

theorem uint32?_natural (value : UInt32) : (natural value.toNat).uint32? = some value := by
  have fits : value.toNat < UInt32.size := value.toNat_lt
  simp [uint32?, natural?, fits]

theorem textSet?_texts {set : OrderedSet String} {texts : List String}
    (listing : texts.Perm set.toList) : (list (texts.map .text)).textSet? = some set := by
  rw [textSet?, mapM_map_eq_some .text text? (fun _ => rfl), Option.map_some,
    OrderedSet.ofList_of_perm listing]

section Fields

variable {fields : List (String × Json)}

theorem field?_of_mem {entry : String × Json} (distinct : (fields.map (·.1)).Nodup)
    (member : entry ∈ fields) : (record fields).field? entry.1 = some entry.2 := by
  cases found : fields.reverse.find? (fun other => other.1 = entry.1) with
  | none =>
      have absent := List.find?_eq_none.mp found entry (List.mem_reverse.mpr member)
      simp at absent
  | some other =>
      have same : other.1 = entry.1 := by simpa using List.find?_some found
      have listed := List.mem_reverse.mp (List.mem_of_find?_eq_some found)
      have equal := List.inj_on_of_nodup_map distinct listed member same
      rw [field?, found, Option.map_some, equal]

theorem field?_of_notMem {name : String} (absent : name ∉ fields.map (·.1)) :
    (record fields).field? name = none := by
  rw [field?, Option.map_eq_none_iff, List.find?_eq_none]
  intro entry member same
  exact absent (List.mem_map.mpr ⟨entry, List.mem_reverse.mp member, by simpa using same⟩)

end Fields

end Json

namespace Settings

open Config

/-- How the rate of a tenant is written. -/
def writtenRate (entry : TenantId × UInt32) : String × Json :=
  (entry.1.text, .natural entry.2.toNat)

/-- What a field may be written as. -/
inductive Field.IsForm (settings : Settings) : Field → Json → Prop
  | enabled : IsForm settings .enabled (.bool settings.enabled)
  | minSecondsSinceLastRefresh : IsForm settings .minSecondsSinceLastRefresh
      (.natural settings.minSecondsSinceLastRefresh.toNat)
  | blacklistedProviders {providers : List String}
      (listing : providers.Perm settings.blacklistedProviders.toList) :
      IsForm settings .blacklistedProviders (.list (providers.map .text))
  | perTenantRefreshesPerDay {rates : List (TenantId × UInt32)}
      (listing : rates.Perm settings.perTenantRefreshesPerDay.entries) :
      IsForm settings .perTenantRefreshesPerDay (.record (rates.map writtenRate))
  | defaultRefreshesPerDay : IsForm settings .defaultRefreshesPerDay
      (.natural settings.defaultRefreshesPerDay.toNat)

/-- Some fields of the settings as they may be written, each once. -/
structure IsPart (settings : Settings) (fields : List (String × Json)) : Prop where
  distinct : (fields.map (·.1)).Nodup
  written : ∀ entry ∈ fields, ∃ field : Field,
    entry.1 = field.key ∧ field.IsForm settings entry.2

/-- All fields of the settings as they may be written, each once. -/
structure IsForm (settings : Settings) (fields : List (String × Json)) : Prop
    extends IsPart settings fields where
  complete : ∀ field : Field, field.key ∈ fields.map (·.1)

/-- The fields that remain when some are dropped. -/
def without (dropped : List Field) (fields : List (String × Json)) : List (String × Json) :=
  fields.filter fun entry => ∀ field ∈ dropped, entry.1 ≠ field.key

/-- The fields are read as the settings: as a value, from its text, and as a layer of the
configuration. -/
structure ReadAs (fields : List (String × Json)) (settings : Settings) : Prop where
  value : ofJson? (.record fields) = some settings
  text : (Json.read (Json.record fields).render).bind ofJson? = some settings
  layer : ofTable (Value.ofFields fields) = .ok settings

variable {settings result : Settings} {fields : List (String × Json)} {field : Field}

/-! ### Reading rates -/

theorem rate?_writtenRate (entry : TenantId × UInt32) :
    Json.rate? (writtenRate entry) = some entry := by
  simp [Json.rate?, writtenRate, Identifier.ofText?_text, Json.uint32?_natural]

section Rates

variable {map : OrderedMap TenantId UInt32} {rates : List (TenantId × UInt32)}

/-- No tenant is named twice, for no map holds two entries for one. -/
theorem nodup_writtenRates (listing : rates.Perm map.entries) :
    ((rates.map writtenRate).map (·.1)).Nodup := by
  have distinct : (rates.map (·.1)).Nodup := (listing.map _).nodup_iff.mpr map.nodup_keys
  have texts := List.Nodup.map Identifier.text_injective distinct
  rwa [List.map_map] at texts ⊢

/-- The reader takes the entries in the order of their names; that too is a listing. -/
theorem rates?_writtenRates (listing : rates.Perm map.entries) :
    (Json.record (rates.map writtenRate)).rates? = some map := by
  have permuted := OrderedMap.perm_entries_ofList (nodup_writtenRates listing)
  obtain ⟨sorted, same, alike⟩ := (congrFun₂ (List.eq_map_comp_perm writtenRate) _ _).mpr permuted
  rw [Json.rates?, same, Json.mapM_map_eq_some writtenRate Json.rate? rate?_writtenRate,
    Option.map_some, OrderedMap.ofList_of_perm (alike.trans listing)]

theorem readRateTable_writtenRates (listing : rates.Perm map.entries) :
    readRateTable (.table (Value.ofFields (rates.map writtenRate))) = .ok map := by
  have permuted := perm_ofFields (nodup_writtenRates listing)
  rw [List.map_map] at permuted
  obtain ⟨sorted, same, alike⟩ := (congrFun₂ (List.eq_map_comp_perm _) _ _).mpr permuted
  have read : readRates (Value.ofFields (rates.map writtenRate)) = .ok sorted := by
    rw [same]
    exact readRates_rates sorted
  rw [readRateTable, read, Except.map, OrderedMap.ofList_of_perm (alike.trans listing)]

end Rates

/-! ### Reading one field -/

namespace Field

def ofJson? : (field : Field) → Json → Option field.Kind
  | enabled => Json.bool?
  | minSecondsSinceLastRefresh => Json.uint64?
  | blacklistedProviders => Json.textSet?
  | perTenantRefreshesPerDay => Json.rates?
  | defaultRefreshesPerDay => Json.uint32?

theorem IsForm.ofJson?_eq {value : Json} (form : field.IsForm settings value) :
    field.ofJson? value = some (field.get settings) := by
  cases form with
  | enabled => rfl
  | minSecondsSinceLastRefresh => exact Json.uint64?_natural _
  | blacklistedProviders listing => exact Json.textSet?_texts listing
  | perTenantRefreshesPerDay listing => exact rates?_writtenRates listing
  | defaultRefreshesPerDay => exact Json.uint32?_natural _

theorem IsForm.read_eq {value : Json} (form : field.IsForm settings value) :
    field.read (Value.ofJson value) = .ok (field.get settings) := by
  cases form with
  | enabled => rfl
  | minSecondsSinceLastRefresh =>
      exact map_eq_ok.mpr ⟨_, readNatural_eq_ok.mpr ⟨rfl, UInt64.toNat_lt _⟩, UInt64.ofNat_toNat⟩
  | blacklistedProviders listing => exact readTextSet_texts listing
  | perTenantRefreshesPerDay listing => exact readRateTable_writtenRates listing
  | defaultRefreshesPerDay =>
      exact map_eq_ok.mpr ⟨_, readNatural_eq_ok.mpr ⟨rfl, UInt32.toNat_lt _⟩, UInt32.ofNat_toNat⟩

/-- What a field is written as is kept by its text. -/
theorem IsForm.exact {value : Json} (form : field.IsForm settings value) : Json.Exact value := by
  cases form with
  | enabled => exact .bool _
  | minSecondsSinceLastRefresh => exact .natural (UInt64.toNat_lt _)
  | blacklistedProviders => exact .list (by simpa using fun provider _ => .text provider)
  | perTenantRefreshesPerDay =>
      refine .record fun entry member => ?_
      obtain ⟨rate, -, rfl⟩ := List.mem_map.mp member
      exact .natural (Nat.lt_trans rate.2.toNat_lt (by decide))
  | defaultRefreshesPerDay => exact .natural (Nat.lt_trans (UInt32.toNat_lt _) (by decide))

end Field

/-! ### Reading a record -/

/-- Settings are read from a record field by field. -/
theorem ofJson?_of_fields
    (read : ∀ field : Field, Json.orElse field.ofJson? (field.get default)
      ((Json.record fields).field? field.key) = some (field.get settings)) :
    ofJson? (.record fields) = some settings := by
  refine Option.bind_eq_some_iff.mpr ⟨_, read .enabled, ?_⟩
  refine Option.bind_eq_some_iff.mpr ⟨_, read .minSecondsSinceLastRefresh, ?_⟩
  refine Option.bind_eq_some_iff.mpr ⟨_, read .blacklistedProviders, ?_⟩
  refine Option.bind_eq_some_iff.mpr ⟨_, read .perTenantRefreshesPerDay, ?_⟩
  exact Option.bind_eq_some_iff.mpr ⟨_, read .defaultRefreshesPerDay, rfl⟩

/-- From a part is read each field that is there, and the others as by default. -/
theorem IsPart.readAs (part : settings.IsPart fields)
    (named : ∀ field : Field, field.get result =
      if field.key ∈ fields.map (·.1) then field.get settings else field.get default) :
    ReadAs fields result := by
  -- A name belongs to one field only, so what it names is a form of that field.
  have present {field : Field} (listed : field.key ∈ fields.map (·.1)) :
      ∃ value, (field.key, value) ∈ fields ∧ field.IsForm settings value := by
    obtain ⟨entry, member, same⟩ := List.mem_map.mp listed
    obtain ⟨other, key, form⟩ := part.written entry member
    obtain rfl : other = field := Field.key_inj.mp (key.symm.trans same)
    exact ⟨entry.2, same ▸ member, form⟩
  have value : ofJson? (.record fields) = some result := by
    refine ofJson?_of_fields fun field => ?_
    rw [named]
    split
    next listed =>
      obtain ⟨value, member, form⟩ := present listed
      rw [Json.field?_of_mem part.distinct member]
      exact form.ofJson?_eq
    next absent => rw [Json.field?_of_notMem absent, Json.orElse]
  have exact : Json.Exact (.record fields) := by
    refine .record fun entry member => ?_
    obtain ⟨field, -, form⟩ := part.written entry member
    exact form.exact
  refine ⟨value, ?_, ?_⟩
  · rw [exact.read_render, Option.bind_some, value]
  · refine (Field.takeEntries_eq_ok_iff (ascendingKeys_ofFields fields)).mpr fun field => ?_
    rw [named]
    split
    next listed =>
      obtain ⟨value, member, form⟩ := present listed
      rw [valueAt?_ofFields_of_mem part.distinct member]
      exact form.read_eq
    next absent => rw [valueAt?_ofFields_of_notMem part.distinct absent, Field.readOver]

/-- The settings with the fields that are given. -/
def ofKinds (given : (field : Field) → field.Kind) : Settings :=
  ⟨given .enabled, given .minSecondsSinceLastRefresh, given .blacklistedProviders,
    given .perTenantRefreshesPerDay, given .defaultRefreshesPerDay⟩

theorem get_ofKinds (given : (field : Field) → field.Kind) (field : Field) :
    field.get (ofKinds given) = given field := by
  cases field <;> rfl

/-! ### Whole forms -/

theorem isForm_toJson (settings : Settings) :
    ∃ fields, settings.toJson = .record fields ∧ settings.IsForm fields := by
  refine ⟨_, rfl, ⟨?_, ?_⟩, fun field => ?_⟩
  · change ["enabled", "min_seconds_since_last_refresh", "blacklisted_providers",
      "per_tenant_refreshes_per_day", "default_refreshes_per_day"].Nodup
    decide
  · simp only [List.forall_mem_cons]
    exact ⟨⟨.enabled, rfl, .enabled⟩,
      ⟨.minSecondsSinceLastRefresh, rfl, .minSecondsSinceLastRefresh⟩,
      ⟨.blacklistedProviders, rfl, .blacklistedProviders (.refl _)⟩,
      ⟨.perTenantRefreshesPerDay, rfl, .perTenantRefreshesPerDay (.refl _)⟩,
      ⟨.defaultRefreshesPerDay, rfl, .defaultRefreshesPerDay⟩, by simp⟩
  · cases field <;> simp [Field.key]

theorem IsForm.readAs (form : settings.IsForm fields) : ReadAs fields settings :=
  form.toIsPart.readAs fun field => by rw [if_pos (form.complete field)]

theorem IsPart.without (part : settings.IsPart fields) (dropped : List Field) :
    settings.IsPart (without dropped fields) where
  distinct := part.distinct.sublist (List.filter_sublist.map _)
  written := fun entry member => part.written entry (List.mem_of_mem_filter member)

theorem IsForm.key_mem_without (form : settings.IsForm fields) (dropped : List Field)
    (field : Field) :
    field.key ∈ (Settings.without dropped fields).map (·.1) ↔ field ∉ dropped := by
  simp only [Settings.without, List.mem_map, List.mem_filter, decide_eq_true_eq]
  constructor
  · rintro ⟨entry, ⟨-, kept⟩, key⟩ listed
    exact kept field listed key
  · intro kept
    obtain ⟨entry, member, key⟩ := List.mem_map.mp (form.complete field)
    refine ⟨entry, ⟨member, fun other listed same => kept ?_⟩, key⟩
    obtain rfl : other = field := Field.key_inj.mp (same.symm.trans key)
    exact listed

theorem IsForm.readAs_without (form : settings.IsForm fields) (dropped : List Field) :
    ∃ result, ReadAs (Settings.without dropped fields) result ∧ ∀ field : Field,
      field.get result = if field ∈ dropped then field.get default else field.get settings := by
  refine ⟨ofKinds fun field => if field ∈ dropped then field.get default else field.get settings,
    (form.toIsPart.without dropped).readAs fun field => ?_, get_ofKinds _⟩
  rw [get_ofKinds]
  by_cases gone : field ∈ dropped <;> simp [gone, form.key_mem_without dropped field]

theorem ofTable_defaultLayer : ofTable defaultLayer = .ok default := by
  obtain ⟨fields, written, form⟩ := isForm_toJson default
  rw [defaultLayer, written]
  exact form.readAs.layer

/-- Settings survive being written. Whatever record they are written as is read as them again,
as it is, from its text, and as a layer of the configuration; if fields are dropped from it,
exactly these are as by default. What is read from any value is read again when it is written
in turn, and what is loaded where nothing is said is the defaults, as their layer says. -/
theorem forms_survive :
    (∀ settings : Settings,
      (∃ fields, settings.toJson = .record fields ∧ settings.IsForm fields) ∧
      ∀ fields, settings.IsForm fields →
        ReadAs fields settings ∧
        ∀ dropped : List Field, ∃ result, ReadAs (without dropped fields) result ∧
          ∀ field : Field, field.get result =
            if field ∈ dropped then field.get default else field.get settings) ∧
    (∀ value : Json,
      (ofJson? value).bind (fun settings => ofJson? settings.toJson) = ofJson? value ∧
      (ofJson? value).bind (fun settings => (Json.read settings.toJson.render).bind ofJson?) =
        ofJson? value) ∧
    ofTable defaultLayer = .ok default ∧ Source.load ⟨none, []⟩ = .ok default := by
  have again (settings : Settings) : ofJson? settings.toJson = some settings ∧
      (Json.read settings.toJson.render).bind ofJson? = some settings := by
    obtain ⟨fields, written, form⟩ := isForm_toJson settings
    rw [written]
    exact ⟨form.readAs.value, form.readAs.text⟩
  refine ⟨fun settings => ⟨isForm_toJson settings, fun fields form =>
    ⟨form.readAs, form.readAs_without⟩⟩, fun value => ?_, ofTable_defaultLayer, ?_⟩
  · cases read : ofJson? value with
    | none => exact ⟨rfl, rfl⟩
    | some settings =>
        rw [Option.bind_some, Option.bind_some]
        exact again settings
  · have layers : (Source.mk none []).layers = .ok defaultLayer := by
      simp [Source.layers, Source.fileLayer, mergeEntries, ofVariables, Except.map]
    have valid : default.validate = .ok () := by decide
    simp only [Source.load, layers, Except.bind, ofTable_defaultLayer, valid]

section Shuffled

/-- Settings that do not count, for their rates exceed the ceiling. -/
def unruly : Settings :=
  { enabled := false
    minSecondsSinceLastRefresh := 18446744073709551615
    blacklistedProviders := OrderedSet.ofList ["a \"free\" bank", "Z\u00fcrich"]
    perTenantRefreshesPerDay :=
      OrderedMap.ofList [(Identifier.ofNat 3, 0), (Identifier.ofNat 7, 4294967295)]
    defaultRefreshesPerDay := 9 }

def shuffled : List (String × Json) :=
  [("default_refreshes_per_day", .natural 9),
   ("per_tenant_refreshes_per_day",
    .record ([(Identifier.ofNat 7, 4294967295), (Identifier.ofNat 3, 0)].map writtenRate)),
   ("blacklisted_providers", .list (["a \"free\" bank", "Z\u00fcrich"].map .text)),
   ("enabled", .bool false),
   ("min_seconds_since_last_refresh", .natural 18446744073709551615)]

theorem forms_survive_shuffled :
    unruly.IsForm shuffled ∧ ReadAs shuffled unruly ∧
      ∃ result, ReadAs (without [.enabled, .blacklistedProviders] shuffled) result ∧
        result.enabled = true ∧ result.perTenantRefreshesPerDay.size = 2 := by
  have form : unruly.IsForm shuffled := by
    refine ⟨⟨by decide, ?_⟩, fun field => by cases field <;> decide⟩
    simp only [shuffled, List.forall_mem_cons]
    exact ⟨⟨.defaultRefreshesPerDay, rfl, .defaultRefreshesPerDay⟩,
      ⟨.perTenantRefreshesPerDay, rfl, .perTenantRefreshesPerDay (by decide +kernel)⟩,
      ⟨.blacklistedProviders, rfl, .blacklistedProviders (by decide +kernel)⟩,
      ⟨.enabled, rfl, .enabled⟩,
      ⟨.minSecondsSinceLastRefresh, rfl, .minSecondsSinceLastRefresh⟩, by simp⟩
  obtain ⟨readAs, dropped⟩ := (forms_survive.1 unruly).2 shuffled form
  obtain ⟨result, read, fields⟩ := dropped [.enabled, .blacklistedProviders]
  have rates : result.perTenantRefreshesPerDay = unruly.perTenantRefreshesPerDay :=
    fields .perTenantRefreshesPerDay
  exact ⟨form, readAs, result, read, fields .enabled, by rw [rates]; decide +kernel⟩

end Shuffled

end Settings

end UnattendedRefresh
