import UnattendedRefresh.Proofs.Config.Variables
import UnattendedRefresh.Proofs.Config.Words

/-!
# The durations of the configuration

One more variable puts one more entry into the table that the configuration is read from,
and an entry for a duration changes that duration and nothing else. So where the other
variables are accepted, a variable for a duration is accepted exactly if it is a duration.
-/

namespace UnattendedRefresh

section Insertion

variable {Key Value : Type} [Ord Key] [Std.TransOrd Key] [Std.LawfulEqOrd Key]
  {key other : Key}

theorem insertEntry_comm_of_lt (less : compare key other = .lt) (value given : Value)
    (entries : List (Key × Value)) :
    insertEntry key value (insertEntry other given entries) =
      insertEntry other given (insertEntry key value entries) := by
  have greater : compare other key = .gt := Std.OrientedCmp.gt_of_lt less
  induction entries with
  | nil => simp [insertEntry, less, greater]
  | cons entry rest ih =>
      cases here : compare key entry.1 with
      | lt => cases there : compare other entry.1 <;> simp [insertEntry, here, there, less, greater]
      | eq =>
          obtain rfl : key = entry.1 := Std.LawfulEqCmp.eq_of_compare here
          simp [insertEntry, greater]
      | gt =>
          have there : compare other entry.1 = .gt := Std.TransCmp.gt_trans greater here
          simp [insertEntry, here, there, ih]

theorem insertEntry_comm (apart : key ≠ other) (value given : Value)
    (entries : List (Key × Value)) :
    insertEntry key value (insertEntry other given entries) =
      insertEntry other given (insertEntry key value entries) := by
  cases order : compare key other with
  | lt => exact insertEntry_comm_of_lt order value given entries
  | eq => exact absurd (Std.LawfulEqCmp.eq_of_compare order) apart
  | gt => exact (insertEntry_comm_of_lt (Std.OrientedCmp.lt_of_gt order) given value entries).symm

end Insertion

namespace Config

/-! ### One more variable -/

/-- Where a variable goes: the keys that its name leads through. -/
def variablePath (name : String) : List String :=
  pathOf (lowerName name.toList)

section OneMore

variable {key name source : String} {path : List String} {below : Table} {value : Value}
  {binding : String × String} {before after : Variables}

theorem pathAfter_empty (name : String) : pathAfter "" name = variablePath name := by
  simp [pathAfter, withoutPrefix?, lowerName, variablePath]

/-- A variable for something else does not care about an entry. -/
theorem addVariable_insertEntry (apart : (variablePath binding.1).head? ≠ some key) :
    addVariable "" (insertEntry key value below) binding =
      insertEntry key value (addVariable "" below binding) := by
  rw [← pathAfter_empty] at apart
  cases leads : pathAfter "" binding.1 with
  | nil => rw [addVariable_of_nil leads, addVariable_of_nil leads]
  | cons first rest =>
      have apart : first ≠ key := by simpa [leads] using apart
      have same (added : Value) : mergedAt (insertEntry key value below) (first, added) =
          mergedAt below (first, added) :=
        mergedAt_congr (by rw [valueAt?_insertEntry, if_neg apart.symm]) added
      rw [addVariable_of_cons binding _ leads, addVariable_of_cons binding _ leads, same,
        insertEntry_comm apart]

theorem foldl_addVariable_insertEntry
    (apart : ∀ binding ∈ after, (variablePath binding.1).head? ≠ some key) :
    after.foldl (addVariable "") (insertEntry key value below) =
      insertEntry key value (after.foldl (addVariable "") below) := by
  induction after generalizing below with
  | nil => rfl
  | cons binding after ih =>
      obtain ⟨first, rest⟩ := List.forall_mem_cons.mp apart
      rw [List.foldl_cons, List.foldl_cons, addVariable_insertEntry first, ih rest]

theorem valueAt?_ofVariables
    (apart : ∀ binding ∈ before, (variablePath binding.1).head? ≠ some key) :
    valueAt? key (ofVariables "" before) = none := by
  simp only [← pathAfter_empty] at apart
  rw [valueAt?_ofVariables_of_once (List.pairwise_of_forall_mem_list
    fun _ _ other member _ => apart other member), List.findSome?_eq_none_iff]
  exact fun binding member => saying?_eq_none_iff.mpr (apart binding member)

theorem merge_eq_above {below above : Value} (flat : ∀ entries, above ≠ .table entries) :
    merge below above = above := by
  cases above with
  | table entries => exact absurd rfl (flat entries)
  | _ => simp [merge]

theorem Literal.read_ne_table (word : IsWord source) (entries : Table) :
    read source ≠ .table entries := by
  rcases read_word word with read | ⟨-, ⟨flag, read⟩ | read⟩
  · exact read ▸ ofBare_ne_table _ entries
  · simp [read]
  · simp [read]

/-- One more variable is one more entry. -/
theorem ofVariables_insert (named : variablePath name = [key]) (word : Literal.IsWord source)
    (apart : ∀ binding ∈ before ++ after, (variablePath binding.1).head? ≠ some key) :
    ofVariables "" (before ++ (name, source) :: after) =
      insertEntry key (Literal.read source) (ofVariables "" (before ++ after)) := by
  have later : ∀ binding ∈ after, (variablePath binding.1).head? ≠ some key :=
    fun binding member => apart binding (List.mem_append_right _ member)
  have merged (below : Table) :
      mergedAt below (key, nest [] (Literal.read source)) = Literal.read source := by
    unfold mergedAt
    split
    next => exact merge_eq_above (Literal.read_ne_table word)
    next => rfl
  rw [← pathAfter_empty] at named
  rw [ofVariables, List.foldl_append, List.foldl_cons, addVariable_of_cons (name, source) _ named,
    merged, foldl_addVariable_insertEntry later, ← List.foldl_append]
  rfl

end OneMore

/-! ### Entries for durations -/

namespace ProcessConfig

/-- The durations of the configuration. -/
inductive DurationField where
  | shutdownTimeout
  | settingsReloadInterval

namespace DurationField

def key : DurationField → String
  | shutdownTimeout => "shutdown_timeout"
  | settingsReloadInterval => "settings_reload_interval"

def get (config : ProcessConfig) : DurationField → Duration
  | shutdownTimeout => config.shutdownTimeout
  | settingsReloadInterval => config.settingsReloadInterval

def set (config : ProcessConfig) (duration : Duration) : DurationField → ProcessConfig
  | shutdownTimeout => { config with shutdownTimeout := duration }
  | settingsReloadInterval => { config with settingsReloadInterval := duration }

variable {field : DurationField} {config : ProcessConfig} {duration : Duration}
  {draft final : Draft} {key : String} {value : Value} {entries : Table}

@[simp]
theorem get_set (config : ProcessConfig) (duration : Duration) (field : DurationField) :
    field.get (field.set config duration) = duration := by
  cases field <;> rfl

/-- The draft with another value of the duration. -/
def put (field : DurationField) (duration : Duration) (draft : Draft) : Draft :=
  draft.update fun config => field.set config duration

theorem take_key (field : DurationField) (draft : Draft) (value : Value) :
    draft.take field.key value =
      (readDuration value).map fun duration => field.put duration draft := by
  cases field <;> rfl

theorem map_put {Kind : Type} (reading : Reading Kind) {changed plain : Kind → Draft}
    (commutes : ∀ kind, changed kind = field.put duration (plain kind)) :
    reading.map changed = (reading.map plain).map (field.put duration) := by
  cases reading with
  | error => rfl
  | ok kind => exact congrArg Except.ok (commutes kind)

/-- Entries for anything else do not care about the duration. -/
theorem take_put (apart : key ≠ field.key) (duration : Duration) (draft : Draft)
    (value : Value) :
    (field.put duration draft).take key value =
      (draft.take key value).map (field.put duration) := by
  unfold Draft.take
  split
  case h_15 => rfl
  -- Every other entry changes a part of its own, unless it is the one for the duration.
  all_goals
    refine map_put _ fun _ => ?_
    cases field
    all_goals first | rfl | exact absurd rfl apart

theorem takeAll_put (apart : ∀ entry ∈ entries, entry.1 ≠ field.key) (duration : Duration)
    (taken : draft.takeAll entries = .ok final) :
    (field.put duration draft).takeAll entries = .ok (field.put duration final) := by
  induction entries generalizing draft with
  | nil =>
      obtain rfl := Except.ok.inj taken
      rfl
  | cons entry entries ih =>
      obtain ⟨first, rest⟩ := List.forall_mem_cons.mp apart
      rw [Draft.takeAll, bind_eq_ok] at taken ⊢
      obtain ⟨next, took, onward⟩ := taken
      refine ⟨field.put duration next, ?_, ih rest onward⟩
      rw [readAt_eq_ok] at took ⊢
      rw [take_put first, took]
      rfl

/-- What comes of an accepted table when an entry for a duration joins it. -/
theorem takeAll_insertEntry (apart : ∀ entry ∈ entries, entry.1 ≠ field.key) (value : Value)
    (taken : draft.takeAll entries = .ok final) :
    draft.takeAll (insertEntry field.key value entries) =
      match readDuration value with
      | .ok duration => .ok (field.put duration final)
      | .error fault => .error (fault.under field.key) := by
  induction entries generalizing draft with
  | nil =>
      obtain rfl := Except.ok.inj taken
      rw [insertEntry, Draft.takeAll, take_key]
      cases readDuration value <;> rfl
  | cons entry entries ih =>
      obtain ⟨first, rest⟩ := List.forall_mem_cons.mp apart
      rw [insertEntry]
      split
      next =>
        -- It goes here, so the entries that follow are taken with the duration in place.
        rw [Draft.takeAll, take_key]
        cases readDuration value with
        | error fault => rfl
        | ok duration => exact takeAll_put apart duration taken
      next same => exact absurd (Std.LawfulEqCmp.eq_of_compare same).symm first
      next =>
        rw [Draft.takeAll, bind_eq_ok] at taken
        obtain ⟨next, took, onward⟩ := taken
        rw [Draft.takeAll, took]
        exact ih rest onward

theorem get_of_take (field : DurationField) (taken : draft.take key value = .ok final) :
    if key = field.key then readDuration value = .ok (field.get final.config)
    else field.get final.config = field.get draft.config := by
  split
  next here =>
    rw [here, take_key] at taken
    obtain ⟨duration, read, rfl⟩ := map_eq_ok.mp taken
    rw [read, put, Draft.update, get_set]
  next apart =>
    unfold Draft.take at taken
    split at taken
    case h_15 =>
      obtain rfl := Except.ok.inj taken
      rfl
    all_goals
      obtain ⟨kind, -, rfl⟩ := map_eq_ok.mp taken
      cases field
      all_goals first | rfl | exact absurd rfl apart

/-- The duration is what the entry for it says, or else what it was. -/
theorem get_of_takeAll (field : DurationField) (ascending : AscendingKeys entries)
    (taken : draft.takeAll entries = .ok final) :
    (∀ value, valueAt? field.key entries = some value →
      readDuration value = .ok (field.get final.config)) ∧
    (valueAt? field.key entries = none → field.get final.config = field.get draft.config) := by
  induction entries generalizing draft with
  | nil =>
      obtain rfl := Except.ok.inj taken
      exact ⟨nofun, fun _ => rfl⟩
  | cons entry entries ih =>
      obtain ⟨below, ascending⟩ := List.pairwise_cons.mp ascending
      rw [Draft.takeAll, bind_eq_ok] at taken
      obtain ⟨next, took, onward⟩ := taken
      have now := get_of_take field (readAt_eq_ok.mp took)
      obtain ⟨ofSaid, ofSilent⟩ := ih ascending onward
      by_cases here : entry.1 = field.key
      · have silent : valueAt? field.key entries = none := by
          refine valueAt?_eq_none_iff.mpr fun other member same => ?_
          simpa [here, same] using below other member
        rw [if_pos here, ← ofSilent silent] at now
        simpa [valueAt?, here] using now
      · have rest_only : valueAt? field.key (entry :: entries) = valueAt? field.key entries := by
          simp [valueAt?, here]
        rw [if_neg here] at now
        rw [rest_only, ← now]
        exact ⟨ofSaid, ofSilent⟩

theorem config_of_finish (finished : draft.finish = .ok config) : draft.config = config := by
  unfold Draft.finish at finished
  repeat' split at finished
  all_goals simp_all

/-- What a configuration that is accepted has for a duration. -/
theorem get_of_ofTable (field : DurationField) (ascending : AscendingKeys entries)
    (accepted : ofTable entries = .ok config) :
    (∀ value, valueAt? field.key entries = some value →
      readDuration value = .ok (field.get config)) ∧
    (valueAt? field.key entries = none → field.get config = field.get Draft.blank.config) := by
  rw [ofTable, bind_eq_ok] at accepted
  obtain ⟨final, taken, finished⟩ := accepted
  rw [← config_of_finish finished]
  exact get_of_takeAll field ascending taken

theorem finish_put (field : DurationField) (duration : Duration) (draft : Draft) :
    (field.put duration draft).finish =
      draft.finish.map fun config => field.set config duration := by
  obtain ⟨config, hasDatabaseUrl, hasSiteManagementUrl, hasCredentialsUrl⟩ := draft
  cases hasDatabaseUrl <;> cases hasSiteManagementUrl <;> cases hasCredentialsUrl <;> rfl

theorem ofTable_insertEntry (silent : valueAt? field.key entries = none)
    (accepted : ofTable entries = .ok config) (value : Value) :
    ofTable (insertEntry field.key value entries) =
      match readDuration value with
      | .ok duration => .ok (field.set config duration)
      | .error fault => .error (fault.under field.key) := by
  rw [ofTable, bind_eq_ok] at accepted
  obtain ⟨final, taken, finished⟩ := accepted
  rw [ofTable, takeAll_insertEntry (valueAt?_eq_none_iff.mp silent) value taken]
  cases readDuration value with
  | error fault => rfl
  | ok duration =>
      change (field.put duration final).finish = _
      rw [finish_put, finished]
      rfl

section Variables

variable {before after : Variables} {name source : String}

/-- No other variable has anything to do with the duration. -/
def IsOnly (field : DurationField) (others : Variables) : Prop :=
  ∀ binding ∈ others, (variablePath binding.1).head? ≠ some field.key

instance (field : DurationField) (others : Variables) : Decidable (field.IsOnly others) :=
  inferInstanceAs (Decidable (∀ binding ∈ others, _ ≠ _))

/-- With this text for the duration, the variables are accepted exactly if the text is a
duration, and then the configuration has it and is otherwise as without the variable. -/
structure Means (field : DurationField) (config : ProcessConfig) (bindings : Variables)
    (source : String) : Prop where
  accepted_iff : (∃ result, ProcessConfig.ofVariables bindings = .ok result) ↔
    ∃ duration, Duration.parse? source = some duration
  parse?_eq : ∀ result, ProcessConfig.ofVariables bindings = .ok result →
    Duration.parse? source = some (field.get result)
  eq_set : ∀ result, ProcessConfig.ofVariables bindings = .ok result →
    result = field.set config (field.get result)
  fault : Duration.parse? source = none →
    ProcessConfig.ofVariables bindings = .error ⟨.message, [field.key]⟩

theorem means_of_eq {bindings : Variables}
    (read : ProcessConfig.ofVariables bindings =
      match Duration.parse? source with
      | some duration => .ok (field.set config duration)
      | none => .error ⟨.message, [field.key]⟩) :
    field.Means config bindings source := by
  cases parsed : Duration.parse? source with
  | none =>
      rw [parsed] at read
      exact ⟨by simp [read, parsed], by simp [read], by simp [read], fun _ => read⟩
  | some duration =>
      rw [parsed] at read
      exact ⟨by simp [read, parsed], by simp [read, parsed], by simp [read], by simp [parsed]⟩

theorem ofVariables_fraction (only : field.IsOnly (before ++ after))
    (accepted : ProcessConfig.ofVariables (before ++ after) = .ok config)
    (named : variablePath name = [field.key]) (word : Literal.IsWord source)
    (fraction : Literal.IsFraction source) :
    ProcessConfig.ofVariables (before ++ (name, source) :: after) =
      .error ⟨.message, [field.key]⟩ := by
  rw [ProcessConfig.ofVariables, ofVariables_insert named word only,
    ofTable_insertEntry (valueAt?_ofVariables only) accepted, readDuration_read word,
    if_pos fraction]
  rfl

theorem ofVariables_whole (only : field.IsOnly (before ++ after))
    (accepted : ProcessConfig.ofVariables (before ++ after) = .ok config)
    (named : variablePath name = [field.key]) (word : Literal.IsWord source)
    (whole : ¬ Literal.IsFraction source) :
    ProcessConfig.ofVariables (before ++ (name, source) :: after) =
      match Duration.parse? source with
      | some duration => .ok (field.set config duration)
      | none => .error ⟨.message, [field.key]⟩ := by
  rw [ProcessConfig.ofVariables, ofVariables_insert named word only,
    ofTable_insertEntry (valueAt?_ofVariables only) accepted, readDuration_read word,
    if_neg whole, readDuration_text]
  cases Duration.parse? source <;> rfl

/-- A word for a duration means in a variable what it means as a duration, unless it is a
fraction without a unit that would be one. -/
theorem variable_means_iff (only : field.IsOnly (before ++ after))
    (accepted : ProcessConfig.ofVariables (before ++ after) = .ok config)
    (named : variablePath name = [field.key]) (word : Literal.IsWord source) :
    field.Means config (before ++ (name, source) :: after) source ↔
      (Literal.IsFraction source → Duration.parse? source = none) := by
  by_cases fraction : Literal.IsFraction source
  · have refused := ofVariables_fraction only accepted named word fraction
    constructor
    · intro means _
      cases parsed : Duration.parse? source with
      | none => rfl
      | some duration =>
          obtain ⟨result, taken⟩ := means.accepted_iff.mpr ⟨duration, parsed⟩
          simp [refused] at taken
    · intro none
      exact means_of_eq (by rw [refused, none fraction])
  · exact ⟨fun _ fraction' => absurd fraction' fraction,
      fun _ => means_of_eq (ofVariables_whole only accepted named word fraction)⟩

/-! ### Half seconds -/

section Halves

def required : Variables :=
  [("CREDENTIALS_URL", "http://credentials"), ("DATABASE_URL", "postgres://localhost/flywheel"),
   ("SITE_MANAGEMENT_URL", "http://site-management")]

/-- The configuration that the required variables give. -/
def usual : ProcessConfig :=
  { Draft.blank.config with
    credentialsUrl := "http://credentials"
    databaseUrl := "postgres://localhost/flywheel"
    siteManagementUrl := "http://site-management" }

theorem required_accepted : ProcessConfig.ofVariables required = .ok usual := by
  decide +kernel

/-- With a unit a fraction is no number but a duration. -/
theorem variable_means_halfMinute :
    ProcessConfig.ofVariables (required.take 1 ++ required.drop 1) = .ok usual ∧
      Duration.parse? " +0.5e0m" = some (.ofSeconds 30) ∧
      settingsReloadInterval.Means usual
        (required.take 1 ++ ("Settings_Reload_Interval", " +0.5e0m") :: required.drop 1)
        " +0.5e0m" := by
  have accepted : ProcessConfig.ofVariables (required.take 1 ++ required.drop 1) = .ok usual :=
    required_accepted
  have whole : ¬ Literal.IsFraction " +0.5e0m" := by decide +kernel
  refine ⟨accepted, rfl, (variable_means_iff ?_ accepted ?_ ?_).mpr fun fraction =>
    absurd fraction whole⟩
  · decide +kernel
  · decide +kernel
  · decide +kernel

/-- Without one it is refused, although it is one and a half seconds. -/
theorem halfSeconds_refused :
    ProcessConfig.ofVariables required = .ok usual ∧ Literal.IsWord "1.5" ∧
      Duration.parse? "1.5" = some (.ofMilliseconds 1500) ∧
      ProcessConfig.ofVariables (required ++ [("SHUTDOWN_TIMEOUT", "1.5")]) =
        .error ⟨.message, ["shutdown_timeout"]⟩ ∧
      ¬ shutdownTimeout.Means usual (required ++ [("SHUTDOWN_TIMEOUT", "1.5")]) "1.5" := by
  have refused : ProcessConfig.ofVariables (required ++ [("SHUTDOWN_TIMEOUT", "1.5")]) =
      .error ⟨.message, ["shutdown_timeout"]⟩ := by decide +kernel
  have parsed : Duration.parse? "1.5" = some (.ofMilliseconds 1500) := rfl
  refine ⟨required_accepted, by decide +kernel, parsed, refused, fun means => ?_⟩
  obtain ⟨result, taken⟩ := means.accepted_iff.mpr ⟨_, parsed⟩
  rw [refused] at taken
  cases taken

end Halves

end Variables

end DurationField

end ProcessConfig

end Config

end UnattendedRefresh
